import Mempal.Settings.Endpoints

set_option autoImplicit false

/-! A configuration is loaded from the text of the file, overridden from the environment and then validated: the checks
run in the order of the source and the first that fails is reported. -/

namespace Mempal.Settings

open Foundation

def isControl (c : Char) : Bool := c.toNat ≤ 0x1F || (0x7F ≤ c.toNat && c.toNat ≤ 0x9F)

def validateProjectId (raw : String) : Except String String :=
  if raw = "" then .error "project_id is empty"
  else if Text.trim raw ≠ raw then .error "project_id contains surrounding whitespace"
  else if raw.toList.contains '/' then .error "project_id contains '/'"
  else if raw.toList.any isControl then .error "project_id contains control character"
  else if 255 < raw.utf8ByteSize then .error "project_id exceeds 255 bytes"
  else .ok raw

def checkProject : Option String → Except ConfigError Unit
  | none => .ok ()
  | some raw =>
    match validateProjectId raw with
    | .error message => .error (.invalidConfig message)
    | .ok _ => .ok ()

def ChunkerConfig.check (chunker : ChunkerConfig) : Except ConfigError Unit := do
  requirePositive "chunker.max_tokens" chunker.maxTokens
  invalidConfigIf (chunker.targetTokens == 0 || chunker.maxTokens < chunker.targetTokens)
    s!"chunker.target_tokens must be in 1..={chunker.maxTokens}"
  invalidConfigIf (chunker.targetTokens ≤ chunker.overlapTokens)
    (s!"chunker.overlap_tokens ({chunker.overlapTokens}) must be less than " ++
      s!"target_tokens ({chunker.targetTokens})")

def RetryConfig.check (retry : RetryConfig) : Except ConfigError Unit := do
  requirePositive "embed.retry.interval_secs" retry.intervalSecs
  requirePositive "embed.retry.search_deadline_secs" retry.searchDeadlineSecs

def EvidenceWorkflowConfig.validate (workflow : EvidenceWorkflowConfig) : Except ConfigError Unit := do
  requirePositive "evidence_workflow.input_top_k" workflow.inputTopK
  invalidConfigIf (workflow.outputTopK == 0 || workflow.inputTopK < workflow.outputTopK)
    "evidence_workflow.output_top_k must be in 1..=input_top_k"
  requirePositive "evidence_workflow.max_evidence_tokens" workflow.maxEvidenceTokens
  requireFraction "evidence_workflow.minimum_relevance" workflow.minimumRelevance
  invalidConfigIf (workflow.enabled && (workflow.engine ≠ "adk-rust" || workflow.mode ≠ "quality-gated"))
    ("enabled evidence_workflow requires engine = \"adk-rust\" and mode = \"quality-gated\"")

def normalizeRerankerEndpointUrl (platform : Platform) (endpoint : String) : Except String String :=
  let endpoint := Text.trim endpoint
  if endpoint = "" then .error "search.reranker.endpoint must not be empty when reranker is enabled"
  else
    let raw := if endpoint.startsWith "http://" || endpoint.startsWith "https://" then endpoint
      else s!"http://{endpoint}"
    match platform.parseUrl raw with
    | .error error => .error s!"invalid search.reranker.endpoint `{endpoint}`: {error}"
    | .ok url =>
      if url.host = none then .error "search.reranker.endpoint must include a host"
      else if url.username ≠ "" ∨ url.password ≠ none then
        .error ("search.reranker.endpoint must not include userinfo credentials; " ++
          "run rerankers on trusted local/LAN endpoints")
      else if url.query ≠ none then
        .error ("search.reranker.endpoint must not include query parameters; " ++
          "configure a plain local/LAN endpoint URL")
      else
        let url := if url.path = "" ∨ url.path = "/" then { url with path := "/v1/rerank" } else url
        .ok (trimEndSlashes (platform.urlText url))

def SearchRerankerConfig.check (platform : Platform) (reranker : SearchRerankerConfig) : Except ConfigError Unit :=
  if !reranker.enabled then .ok ()
  else
    match normalizeRerankerEndpointUrl platform (reranker.endpoint.getD "") with
    | .error message => .error (.validation message)
    | .ok _ =>
      if trimmed reranker.model = none then
        .error (.validation "search.reranker.model must not be empty when search.reranker.enabled is true")
      else .ok ()

/-- `Instant::now().checked_add(..)` at the given second of the monotonic clock. -/
def representable (now seconds : Nat) : Bool := now + seconds ≤ 2 ^ 63 - 1

def requireRepresentable (now : Nat) (field : String) (seconds : Nat) : Except ConfigError Unit :=
  invalidConfigIf (!representable now seconds) s!"{field} must be representable by the platform monotonic clock"

structure CompiledPrivacyConfig where
  enabled : Bool
  /-- Names and patterns, all of which compile. -/
  patterns : List (String × String)
deriving DecidableEq

def LlmJudgeConfig.guard (platform : Platform) (llm : LlmConfig) (judge : LlmJudgeConfig) :
    Except ConfigError Unit :=
  if !judge.enabled then
    if judge.allowFallbackWorseMemory then .ok ()
    else .error (.validation ("ingest_gating.llm_judge.enabled=false requires " ++
      "allow_fallback_worse_memory=true to acknowledge lower memory quality"))
  else if !llm.enabled then
    .error (.validation "ingest_gating.llm_judge.enabled=true requires [llm].enabled=true")
  else if "gating" ∉ llm.enabledFor then
    .error (.validation "ingest_gating.llm_judge.enabled=true requires llm.enabled_for to include \"gating\"")
  else
    match llm.effectiveEndpoints platform with
    | .error error => .error error
    | .ok endpoints =>
      if endpoints = [] then
        .error (.validation "ingest_gating.llm_judge.enabled=true requires at least one configured LLM endpoint")
      else .ok ()

namespace Config

variable (platform : Platform) (now : Nat) (config : Config)

def validateDaemonEmbedderMode : Except ConfigError Unit :=
  invalidConfigIf (!platform.model2vec && config.daemon.embedderMode = .smallLocal)
    ("daemon.embedder_mode = \"small_local\" requires building mempal with the `model2vec` Cargo feature; " ++
      "use \"remote\"/\"configured\" or reinstall with `--features model2vec`")

def validateLlmJudgeGuardrails : Except ConfigError Unit :=
  match config.ingestGating.llmJudge with
  | none => .ok ()
  | some judge => judge.guard platform config.llm

def checkLlmEndpoints : Except ConfigError Unit :=
  if !config.llm.enabled then .ok ()
  else
    match config.llm.effectiveEndpoints platform with
    | .error error => .error error
    | .ok endpoints =>
      if endpoints = [] then .error (.validation "llm.base_url must be set when llm.enabled is true") else .ok ()

def checkServing : Except ConfigError Unit := do
  requirePositive "memory_intelligence.llm.timeout_secs" config.memoryIntelligenceTimeoutSecs
  requirePositive "search.preview_chars" config.search.previewChars
  requirePositive "api.write_queue_capacity" config.api.writeQueueCapacity
  requirePositive "api.write_drain_timeout_secs" config.api.writeDrainTimeoutSecs
  invalidConfigIf (config.api.searchQueryDeadlineSecs == 0 || config.api.searchDbDeadlineSecs == 0)
    "api search deadlines must be greater than 0"
  requireStars "turns.default_importance" config.turnsDefaultImportance
  requireFraction "search.tunnel_penalty" config.search.tunnelPenalty
  config.evidenceWorkflow.validate
  requirePositive "search.reranker.timeout_secs" config.search.reranker.timeoutSecs

def validateSearchDeadlines : Except ConfigError Unit := do
  requireRepresentable now "embed.retry.search_deadline_secs" config.embed.retry.searchDeadlineSecs
  requireRepresentable now "api.search_query_deadline_secs" config.api.searchQueryDeadlineSecs
  requireRepresentable now "api.search_db_deadline_secs" config.api.searchDbDeadlineSecs
  requireRepresentable now "search.reranker.timeout_secs" config.search.reranker.timeoutSecs

def checkTuning : Except ConfigError Unit := do
  requirePositive "search.reranker.top_k" config.search.reranker.topK
  requirePositive "ingest_gating.novelty.novelty_scan_limit" config.ingestGating.noveltyScanLimit
  config.search.reranker.check platform
  requirePositive "search.decay.half_life_days" config.search.decayHalfLifeDays
  requireFraction "search.decay.step_reduced_weight" config.search.decayStepReducedWeight
  requireStars "hotpatch.min_importance_stars" config.hotpatch.minImportanceStars
  requirePositive "hotpatch.max_suggestion_length" config.hotpatch.maxSuggestionLength
  invalidConfigIf config.hotpatch.watchFiles.isEmpty "hotpatch.watch_files must not be empty"
  requirePositive "embed.alert.alert_every_n_failures" config.embed.alertEveryNFailures
  requirePositive "embed.degradation.degrade_after_n_failures" config.embed.degradeAfterNFailures
  requirePositive "hooks.daemon_poll_interval_ms" config.hooks.daemonPollIntervalMs
  requirePositive "hooks.daemon_claim_ttl_secs" config.hooks.daemonClaimTtlSecs
  requirePositive "hooks.payload_retention_days" config.hooks.payloadRetentionDays
  requirePositive "hooks.session_end.trailing_messages" config.hooks.trailingMessages
  requireFraction "consolidation.similarity_threshold" config.consolidation.similarityThreshold
  requireAtLeastTwo "consolidation.min_cluster_size" config.consolidation.minClusterSize
  requirePositive "consolidation.max_clusters_per_run" config.consolidation.maxClustersPerRun
  invalidConfigIf
    (config.consolidation.strategy ≠ "richest_content" && config.consolidation.strategy ≠ "llm_summary")
    s!"unsupported consolidation.strategy: {config.consolidation.strategy}"
  requireAtLeastTwo "crystallize.min_cluster_size" config.crystallize.minClusterSize
  invalidConfigIf (!config.crystallize.readinessThreshold.isFinite || config.crystallize.readinessThreshold.isNegative)
    "crystallize.readiness_threshold must be a finite value >= 0.0"
  requirePositive "crystallize.max_candidates_per_run" config.crystallize.maxCandidatesPerRun
  requirePositive "sleep.nrem_prune_min_age_days" config.sleep.nremPruneMinAgeDays
  requireStars "sleep.nrem_prune_max_importance" config.sleep.nremPruneMaxImportance
  requireFraction "sleep.nrem_compaction_threshold" config.sleep.nremCompactionThreshold
  requirePositive "sleep.salience_idle_minutes" config.sleep.salienceIdleMinutes

def compilePattern (pattern : ScrubPattern) : Except ConfigError (String × String) :=
  match platform.compileRegex pattern.pattern with
  | .error _ => .error (.invalidRegex pattern.name)
  | .ok () => .ok (pattern.name, pattern.pattern)

def compilePrivacy : Except ConfigError CompiledPrivacyConfig :=
  (config.privacy.scrubPatterns.mapM (compilePattern platform)).map fun patterns =>
    ⟨config.privacy.enabled, patterns⟩

def validate : Except ConfigError Unit := do
  checkProject config.projectId
  config.chunker.check
  config.embed.retry.check
  config.embed.validateEndpointPool platform
  config.validateDaemonEmbedderMode platform
  config.llm.validateEndpointPool
  config.validateLlmJudgeGuardrails platform
  config.checkLlmEndpoints platform
  config.checkServing
  config.validateSearchDeadlines now
  config.checkTuning platform
  (config.compilePrivacy platform).map fun _ => ()

/-- The checks of `validate`, by what they read. -/
theorem validate_eq_ok_iff :
    config.validate platform now = .ok () ↔
      (config.embed.retry.check = .ok () ∧ config.embed.validateEndpointPool platform = .ok ()) ∧
      (config.llm.validateEndpointPool = .ok () ∧ config.checkLlmEndpoints platform = .ok ()) ∧
      config.validateLlmJudgeGuardrails platform = .ok () ∧ config.validateSearchDeadlines now = .ok () ∧
      (checkProject config.projectId = .ok () ∧ config.chunker.check = .ok () ∧
        config.validateDaemonEmbedderMode platform = .ok () ∧ config.checkServing = .ok () ∧
        config.checkTuning platform = .ok () ∧ (config.compilePrivacy platform).map (fun _ => ()) = .ok ()) := by
  simp only [validate, check_bind_eq_ok_iff]
  constructor
  · rintro ⟨hProject, hChunker, hRetry, hPool, hDaemon, hLlm, hJudge, hEndpoints, hServing, hDeadlines, hTuning,
      hPrivacy⟩
    exact ⟨⟨hRetry, hPool⟩, ⟨hLlm, hEndpoints⟩, hJudge, hDeadlines, hProject, hChunker, hDaemon, hServing, hTuning,
      hPrivacy⟩
  · rintro ⟨⟨hRetry, hPool⟩, ⟨hLlm, hEndpoints⟩, hJudge, hDeadlines, hProject, hChunker, hDaemon, hServing, hTuning,
      hPrivacy⟩
    exact ⟨hProject, hChunker, hRetry, hPool, hDaemon, hLlm, hJudge, hEndpoints, hServing, hDeadlines, hTuning,
      hPrivacy⟩

end Config

theorem requireRepresentable_eq_ok_iff {now seconds : Nat} {field : String} :
    requireRepresentable now field seconds = .ok () ↔ representable now seconds = true := by
  unfold requireRepresentable invalidConfigIf
  cases representable now seconds <;> simp

namespace Config

theorem validateSearchDeadlines_eq_ok_iff {now : Nat} {config : Config} :
    config.validateSearchDeadlines now = .ok () ↔
      representable now config.embed.retry.searchDeadlineSecs = true ∧
        representable now config.api.searchQueryDeadlineSecs = true ∧
        representable now config.api.searchDbDeadlineSecs = true ∧
        representable now config.search.reranker.timeoutSecs = true := by
  simp only [validateSearchDeadlines, check_bind_eq_ok_iff, requireRepresentable_eq_ok_iff]

theorem mapM_compilePattern {platform : Platform} {patterns : List ScrubPattern}
    (h : ∀ pattern ∈ patterns, platform.compileRegex pattern.pattern = .ok ()) :
    patterns.mapM (compilePattern platform) = .ok (patterns.map fun pattern => (pattern.name, pattern.pattern)) := by
  induction patterns with
  | nil => rfl
  | cons pattern patterns ih =>
    obtain ⟨hHead, hTail⟩ := List.forall_mem_cons.mp h
    have hCompiled : compilePattern platform pattern = .ok (pattern.name, pattern.pattern) := by
      simp only [compilePattern, hHead]
    rw [List.mapM_cons, hCompiled, ih hTail]
    rfl

theorem validate_default {platform : Platform} (unread : String)
    (hPatterns : ∀ pattern ∈ PrivacyConfig.defaultScrubPatterns, platform.compileRegex pattern.pattern = .ok ())
    {now : Nat} (hNow : representable now 240 = true) :
    (Config.default unread).validate platform now = .ok () := by
  have hHalf : requireFraction "search.decay.step_reduced_weight" (.finite (1 / 2)) = .ok () := by decide +kernel
  have hSimilar : requireFraction "consolidation.similarity_threshold" (.finite (85 / 100)) = .ok () := by
    decide +kernel
  have hCompaction : requireFraction "sleep.nrem_compaction_threshold" (.finite (85 / 100)) = .ok () := by
    decide +kernel
  have hReady : invalidConfigIf (!(FloatValue.finite 5).isFinite || (FloatValue.finite 5).isNegative)
      "crystallize.readiness_threshold must be a finite value >= 0.0" = .ok () := by decide +kernel
  have hTuning : (Config.default unread).checkTuning platform = .ok () := by
    simp only [checkTuning, Config.default, hHalf, hSimilar, hCompaction, hReady]
    rfl
  have hPenalty : requireFraction "search.tunnel_penalty" (.finite (7 / 10)) = .ok () := by decide +kernel
  have hEvidence : (Config.default unread).evidenceWorkflow.validate = .ok () := by
    simp only [Config.default]
    decide +kernel
  have hServing : (Config.default unread).checkServing = .ok () := by
    simp only [checkServing, hEvidence]
    simp only [Config.default, hPenalty]
    rfl
  refine ((Config.default unread).validate_eq_ok_iff platform now).mpr
    ⟨⟨rfl, rfl⟩, ⟨rfl, rfl⟩, rfl, ?_, rfl, rfl, ?_, hServing, hTuning, ?_⟩
  · exact validateSearchDeadlines_eq_ok_iff.mpr ⟨hNow, hNow, hNow, hNow⟩
  · simp [validateDaemonEmbedderMode, Config.default, invalidConfigIf]
  · have hCompiled := mapM_compilePattern hPatterns
    simp only [compilePrivacy, Config.default, hCompiled]
    rfl
end Config

/-- `str::parse::<usize>`: digits after an optional plus sign, within 64 bits. -/
def parseUsize (text : String) : Option Nat :=
  let digits := match text.toList with
    | '+' :: rest => rest
    | chars => chars
  if digits = [] ∨ digits.any (fun c => !c.isDigit) then none
  else
    let value := digits.foldl (fun value c => 10 * value + (c.toNat - '0'.toNat)) 0
    if value < 2 ^ 64 then some value else none

def Platform.filledVar (platform : Platform) (name : String) : Option String :=
  (platform.envVar name).filter (· ≠ "")

def EmbedConfig.applyEnvOverrides (platform : Platform) (embed : EmbedConfig) : EmbedConfig :=
  { embed with
    backend := (platform.filledVar "MEMPAL_EMBED_BACKEND").getD embed.backend
    openaiCompat := { embed.openaiCompat with
      baseUrl := (platform.filledVar "MEMPAL_EMBED_BASE_URL").or embed.openaiCompat.baseUrl
      model := (platform.filledVar "MEMPAL_EMBED_MODEL").or embed.openaiCompat.model
      dim := ((platform.filledVar "MEMPAL_EMBED_DIM").bind parseUsize).or embed.openaiCompat.dim } }

def validateLlmEndpointPoolToml (root : Toml) : Except ConfigError Unit :=
  match (root.get "llm").bind Toml.asTable with
  | none => .ok ()
  | some llm =>
    let hasKey (key : String) : Bool := (llm.lookup key).isSome
    if !hasKey "endpoints" then .ok ()
    else
      let conflicts := ["base_url", "model", "api_key", "api_key_env", "extra_body"].filter hasKey
      if conflicts = [] then .ok ()
      else .error (.validation ("llm endpoint list cannot be combined with legacy scalar endpoint fields: " ++
        ", ".intercalate conflicts))

inductive Disk where
  | missing
  | unreadable
  | contents (text : String)
deriving DecidableEq

namespace Config

variable (platform : Platform) (now : Nat)

def finish (config : Config) : Except ConfigError Config := do
  let config := { config with embed := config.embed.applyEnvOverrides platform }
  config.validate platform now
  .ok config

def parse (contents : String) : Except ConfigError Config :=
  match platform.tomlValue contents with
  | .error detail => .error (.parse detail)
  | .ok root =>
    match validateLlmEndpointPoolToml root with
    | .error error => .error error
    | .ok () =>
      match platform.tomlConfig contents with
      | .error detail => .error (.parse detail)
      | .ok config => config.finish platform now

def loadFrom (path : String) : Disk → Except ConfigError Config
  | .contents text => parse platform now text
  | .missing => (Config.default platform.defaultUnread).finish platform now
  | .unreadable => .error (.read path)

variable {platform now}

theorem validate_of_finish {config loaded : Config} (h : config.finish platform now = .ok loaded) :
    loaded.validate platform now = .ok () := by
  obtain ⟨hValid, hLoaded⟩ := check_bind_eq_ok_iff.mp h
  cases hLoaded
  exact hValid

theorem validate_of_loadFrom {path : String} {disk : Disk} {loaded : Config}
    (h : loadFrom platform now path disk = .ok loaded) : loaded.validate platform now = .ok () := by
  cases disk with
  | missing => exact validate_of_finish h
  | unreadable => cases h
  | contents text =>
    simp only [loadFrom, parse] at h
    cases hRoot : platform.tomlValue text with
    | error detail => simp [hRoot] at h
    | ok root =>
      cases hPool : validateLlmEndpointPoolToml root with
      | error error => simp [hRoot, hPool] at h
      | ok _ =>
        cases hConfig : platform.tomlConfig text with
        | error detail => simp [hRoot, hPool, hConfig] at h
        | ok config =>
          simp only [hRoot, hPool, hConfig] at h
          exact validate_of_finish h

end Config

end Mempal.Settings
