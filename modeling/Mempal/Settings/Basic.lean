import Mathlib.Data.Rat.Defs
import Mathlib.Algebra.Order.Ring.Rat
import Mempal.Foundation.Fallible
import Mempal.Foundation.Text

set_option autoImplicit false

/-! The sections of the configuration file with the settings that loading, validation and hot reload read. -/

namespace Mempal.Settings

/-- A floating-point setting: its exact value when it is finite. -/
inductive FloatValue where
  | finite (value : ℚ)
  | infinite (negative : Bool)
  | nan
deriving DecidableEq

namespace FloatValue

def isFinite : FloatValue → Bool
  | finite _ => true
  | _ => false

/-- Containment in `0.0..=1.0`. -/
def inUnitRange : FloatValue → Bool
  | finite value => 0 ≤ value && value ≤ 1
  | _ => false

/-- The comparison `< 0.0`, which a NaN fails. -/
def isNegative : FloatValue → Bool
  | finite value => value < 0
  | infinite negative => negative
  | nan => false

end FloatValue

inductive ConfigError where
  | read (path : String)
  | parse (detail : String)
  | invalidRegex (name : String)
  | serializeEffectiveConfig
  | validation (message : String)
  | invalidConfig (message : String)
deriving DecidableEq

def ConfigError.text : ConfigError → String
  | read path => s!"failed to read config from {path}"
  | parse _ => "failed to parse config TOML"
  | invalidRegex name => s!"invalid privacy regex for pattern {name}"
  | serializeEffectiveConfig => "failed to serialize effective config"
  | validation message => s!"invalid config: {message}"
  | invalidConfig message => s!"invalid config: {message}"

structure OpenAiCompatConfig where
  baseUrl : Option String
  model : Option String
  apiKeyEnv : Option String
  requestTimeoutSecs : Nat
  dim : Option Nat
  maxInputTokens : Option Nat
deriving DecidableEq

structure EmbedEndpointConfig where
  id : Option String
  backend : Option String
  baseUrl : Option String
  model : Option String
  apiKeyEnv : Option String
  priority : Option Int
  requestTimeoutSecs : Option Nat
  retryIntervalSecs : Option Nat
  maxConcurrent : Option Nat
  dim : Option Nat
  maxInputTokens : Option Nat
deriving DecidableEq

structure RetryConfig where
  intervalSecs : Nat
  searchDeadlineSecs : Nat
deriving DecidableEq

structure EmbedConfig where
  backend : String
  fallback : Option String
  model : Option String
  baseUrl : Option String
  apiModel : Option String
  openaiCompat : OpenAiCompatConfig
  endpoints : List EmbedEndpointConfig
  maxConcurrent : Nat
  retry : RetryConfig
  /-- `alert.alert_every_n_failures` -/
  alertEveryNFailures : Nat
  /-- `degradation.degrade_after_n_failures` -/
  degradeAfterNFailures : Nat
deriving DecidableEq

structure LlmEndpointConfig where
  id : Option String
  baseUrl : Option String
  model : Option String
  apiKey : Option String
  apiKeyEnv : Option String
  extraBody : Option String
  priority : Option Int
  requestTimeoutSecs : Option Nat
  healthProbeTimeoutSecs : Option Nat
  retryIntervalSecs : Option Nat
  maxConcurrent : Option Nat
deriving DecidableEq

structure LlmConfig where
  enabled : Bool
  backend : String
  baseUrl : Option String
  model : Option String
  apiKey : Option String
  apiKeyEnv : Option String
  extraBody : Option String
  endpoints : List LlmEndpointConfig
  requestTimeoutSecs : Nat
  healthProbeTimeoutSecs : Nat
  retryIntervalSecs : Nat
  maxConcurrent : Nat
  enabledFor : List String
deriving DecidableEq

structure ChunkerConfig where
  maxTokens : Nat
  targetTokens : Nat
  overlapTokens : Nat
deriving DecidableEq

structure ScrubPattern where
  name : String
  pattern : String
deriving DecidableEq

structure PrivacyConfig where
  enabled : Bool
  scrubPatterns : List ScrubPattern
deriving DecidableEq

structure SearchRerankerConfig where
  enabled : Bool
  endpoint : Option String
  model : Option String
  timeoutSecs : Nat
  topK : Nat
deriving DecidableEq

structure SearchConfig where
  previewChars : Nat
  tunnelPenalty : FloatValue
  reranker : SearchRerankerConfig
  /-- `decay.half_life_days` -/
  decayHalfLifeDays : Nat
  /-- `decay.step_reduced_weight` -/
  decayStepReducedWeight : FloatValue
deriving DecidableEq

structure EvidenceWorkflowConfig where
  enabled : Bool
  engine : String
  mode : String
  inputTopK : Nat
  outputTopK : Nat
  maxEvidenceTokens : Nat
  minimumRelevance : FloatValue
deriving DecidableEq

structure HotpatchConfig where
  minImportanceStars : Int
  watchFiles : List String
  maxSuggestionLength : Nat
deriving DecidableEq

structure LlmJudgeConfig where
  enabled : Bool
  allowFallbackWorseMemory : Bool
deriving DecidableEq

structure IngestGatingConfig where
  /-- `embedding_classifier.prototypes` -/
  prototypes : List String
  /-- `novelty.novelty_scan_limit` -/
  noveltyScanLimit : Nat
  llmJudge : Option LlmJudgeConfig
deriving DecidableEq

structure HooksConfig where
  daemonPollIntervalMs : Nat
  daemonClaimTtlSecs : Nat
  payloadRetentionDays : Nat
  /-- `session_end.trailing_messages` -/
  trailingMessages : Nat
deriving DecidableEq

inductive DaemonEmbedderMode where
  | configured
  | remote
  | smallLocal
deriving DecidableEq

structure DaemonConfig where
  logPath : String
  embedderMode : DaemonEmbedderMode
deriving DecidableEq

structure ApiConfig where
  writeQueueCapacity : Nat
  writeDrainTimeoutSecs : Nat
  searchQueryDeadlineSecs : Nat
  searchDbDeadlineSecs : Nat
deriving DecidableEq

structure ConsolidationConfig where
  similarityThreshold : FloatValue
  minClusterSize : Nat
  maxClustersPerRun : Nat
  strategy : String
deriving DecidableEq

structure CrystallizeConfig where
  minClusterSize : Nat
  readinessThreshold : FloatValue
  maxCandidatesPerRun : Nat
deriving DecidableEq

structure SleepConfig where
  nremPruneMinAgeDays : Nat
  nremPruneMaxImportance : Int
  nremCompactionThreshold : FloatValue
  salienceIdleMinutes : Nat
deriving DecidableEq

structure Config where
  dbPath : String
  embed : EmbedConfig
  llm : LlmConfig
  /-- `memory_intelligence.llm.timeout_secs` -/
  memoryIntelligenceTimeoutSecs : Nat
  chunker : ChunkerConfig
  /-- `project.id` -/
  projectId : Option String
  privacy : PrivacyConfig
  search : SearchConfig
  evidenceWorkflow : EvidenceWorkflowConfig
  /-- `turns.default_importance` -/
  turnsDefaultImportance : Int
  hotpatch : HotpatchConfig
  ingestGating : IngestGatingConfig
  hooks : HooksConfig
  daemon : DaemonConfig
  api : ApiConfig
  /-- `mcp.log_path` -/
  mcpLogPath : String
  consolidation : ConsolidationConfig
  crystallize : CrystallizeConfig
  sleep : SleepConfig
  unread : String
deriving DecidableEq

def defaultOpenaiDim : Nat := 4096

def EmbedConfig.default : EmbedConfig where
  backend := "openai_compat"
  fallback := none
  model := none
  baseUrl := none
  apiModel := none
  openaiCompat := ⟨none, none, none, 240, some defaultOpenaiDim, none⟩
  endpoints := []
  maxConcurrent := 16
  retry := ⟨2, 240⟩
  alertEveryNFailures := 100
  degradeAfterNFailures := 10

def LlmConfig.default : LlmConfig where
  enabled := false
  backend := "openai_compat"
  baseUrl := none
  model := none
  apiKey := none
  apiKeyEnv := none
  extraBody := none
  endpoints := []
  requestTimeoutSecs := 240
  healthProbeTimeoutSecs := 10
  retryIntervalSecs := 2
  maxConcurrent := 16
  enabledFor := ["gating"]

def PrivacyConfig.defaultScrubPatterns : List ScrubPattern :=
  [⟨"private_tag", "(?is)<private>.*?</private>"⟩,
    ⟨"openai_key", "sk-[A-Za-z0-9]\x7b32,\x7d"⟩,
    ⟨"anthropic_key", "sk-ant-[A-Za-z0-9_-]\x7b64,\x7d"⟩,
    ⟨"aws_access", "AKIA[0-9A-Z]\x7b16\x7d"⟩,
    ⟨"bearer_token", "Bearer\\s+[A-Za-z0-9._-]\x7b20,\x7d"⟩,
    ⟨"hex_token", "\\b[a-f0-9]\x7b32,\x7d\\b"⟩]

/-- The default configuration; the argument is the text of its unread settings. -/
def Config.default (unread : String) : Config where
  dbPath := "~/.mempal/palace.db"
  embed := .default
  llm := .default
  memoryIntelligenceTimeoutSecs := 1800
  chunker := ⟨1024, 512, 64⟩
  projectId := none
  privacy := ⟨false, PrivacyConfig.defaultScrubPatterns⟩
  search := ⟨120, .finite (7 / 10), ⟨false, none, none, 240, 50⟩, 90, .finite (1 / 2)⟩
  evidenceWorkflow := ⟨false, "adk-rust", "quality-gated", 30, 8, 6000, .finite (1 / 100)⟩
  turnsDefaultImportance := 0
  hotpatch := ⟨4, ["CLAUDE.md", "AGENTS.md", "GEMINI.md"], 80⟩
  ingestGating := ⟨[], 10000, none⟩
  hooks := ⟨500, 120, 7, 1⟩
  daemon := ⟨"~/.mempal/daemon.log", .configured⟩
  api := ⟨1000, 30, 240, 240⟩
  mcpLogPath := "~/.mempal/mcp.log"
  consolidation := ⟨.finite (85 / 100), 3, 100, "richest_content"⟩
  crystallize := ⟨5, .finite 5, 20⟩
  sleep := ⟨30, 1, .finite (85 / 100), 30⟩
  unread := unread

structure Url where
  scheme : String
  host : Option String
  username : String
  password : Option String
  query : Option String
  fragment : Option String
  path : String
deriving DecidableEq

/-- A parsed TOML value: only tables are looked into. -/
inductive Toml where
  | scalar (text : String)
  | table (entries : List (String × Toml))

namespace Toml

def get (key : String) : Toml → Option Toml
  | scalar _ => none
  | table entries => entries.lookup key

def asTable : Toml → Option (List (String × Toml))
  | scalar _ => none
  | table entries => some entries

end Toml

/-- The libraries, the build and the environment that the configuration code relies on. -/
structure Platform where
  parseUrl : String → Except String Url
  urlText : Url → String
  compileRegex : String → Except String Unit
  debugText : String → String
  tomlValue : String → Except String Toml
  tomlConfig : String → Except String Config
  tomlText : Config → Except String String
  blake3Hex : String → String
  envVar : String → Option String
  /-- The build has the `model2vec` feature. -/
  model2vec : Bool
  defaultUnread : String

def invalidConfigIf (failed : Bool) (message : String) : Except ConfigError Unit :=
  if failed then .error (.invalidConfig message) else .ok ()

def requirePositive (field : String) (value : Nat) : Except ConfigError Unit :=
  invalidConfigIf (value == 0) s!"{field} must be greater than 0"

def requireAtLeastTwo (field : String) (value : Nat) : Except ConfigError Unit :=
  invalidConfigIf (value < 2) s!"{field} must be at least 2"

def requireStars (field : String) (value : Int) : Except ConfigError Unit :=
  invalidConfigIf (!(0 ≤ value && value ≤ 5)) s!"{field} must be between 0 and 5"

def requireFraction (field : String) (value : FloatValue) : Except ConfigError Unit :=
  invalidConfigIf (!value.isFinite || !value.inUnitRange) s!"{field} must be a finite value in 0.0..=1.0"

end Mempal.Settings
