import Mempal.Foundation.Machine
import Mempal.Settings.Validate

set_option autoImplicit false

/-! A reload merges the candidate into the running configuration: restart-only settings are kept, the others are taken
from the candidate. -/

namespace Mempal.Settings

open Foundation

def changedField {α : Type} [DecidableEq α] (name : String) (value other : α) : List String :=
  if value = other then [] else [name]

@[simp] theorem changedField_eq_nil_iff {α : Type} {name : String} [DecidableEq α] {value other : α} :
    changedField name value other = [] ↔ value = other := by
  simp [changedField]

/-- The pool settings that a reload replaces together. -/
def EmbedConfig.mergeRuntimeAllowed (platform : Platform) (running candidate : EmbedConfig) : EmbedConfig :=
  let kept := { candidate with
    backend := running.backend
    fallback := running.fallback
    model := running.model
    baseUrl := running.baseUrl
    apiModel := running.apiModel
    openaiCompat := running.openaiCompat }
  if running.endpointVectorIdentity platform = candidate.endpointVectorIdentity platform then kept
  else { kept with
    endpoints := running.endpoints
    maxConcurrent := running.maxConcurrent
    retry := running.retry }

def LlmConfig.mergeRuntimeAllowed (running candidate : LlmConfig) : LlmConfig :=
  if running.enabled ≠ candidate.enabled ∨ running.backend ≠ candidate.backend then running
  else { candidate with enabled := running.enabled, backend := running.backend }

namespace Config

variable (platform : Platform)

def restartRequiredFieldsChanged (config other : Config) : List String :=
  changedField "database.path" config.dbPath other.dbPath ++
  changedField "embedder.backend" config.embed.backend other.embed.backend ++
  changedField "embedder.fallback" config.embed.fallback other.embed.fallback ++
  changedField "embedder.base_url" config.embed.baseUrl other.embed.baseUrl ++
  changedField "embedder.model" config.embed.model other.embed.model ++
  changedField "embedder.api_model" config.embed.apiModel other.embed.apiModel ++
  changedField "embedder.openai_compat.base_url" config.embed.openaiCompat.baseUrl
    other.embed.openaiCompat.baseUrl ++
  changedField "embedder.openai_compat.model" config.embed.openaiCompat.model other.embed.openaiCompat.model ++
  changedField "embedder.openai_compat.api_key_env" config.embed.openaiCompat.apiKeyEnv
    other.embed.openaiCompat.apiKeyEnv ++
  changedField "embedder.openai_compat.request_timeout_secs" config.embed.openaiCompat.requestTimeoutSecs
    other.embed.openaiCompat.requestTimeoutSecs ++
  changedField "embedder.openai_compat.dim" config.embed.openaiCompat.dim other.embed.openaiCompat.dim ++
  changedField "embedder.endpoints.vector_identity" (config.embed.endpointVectorIdentity platform)
    (other.embed.endpointVectorIdentity platform) ++
  changedField "llm.enabled" config.llm.enabled other.llm.enabled ++
  changedField "llm.backend" config.llm.backend other.llm.backend ++
  changedField "daemon.log_path" config.daemon.logPath other.daemon.logPath ++
  changedField "mcp.log_path" config.mcpLogPath other.mcpLogPath

def mergeRuntimeAllowed (running candidate : Config) : Config :=
  { candidate with
    dbPath := running.dbPath
    embed := running.embed.mergeRuntimeAllowed platform candidate.embed
    llm := running.llm.mergeRuntimeAllowed candidate.llm
    daemon := { candidate.daemon with logPath := running.daemon.logPath }
    mcpLogPath := running.mcpLogPath }

def effectiveHash (config : Config) : Except ConfigError String :=
  match platform.tomlText config with
  | .error _ => .error .serializeEffectiveConfig
  | .ok text => .ok (String.ofList ((platform.blake3Hex text).toList.take 12))

end Config

structure ConfigSnapshot where
  config : Config
  compiledPrivacy : CompiledPrivacyConfig
  version : String
  loadedAtUnixMs : Nat
deriving DecidableEq

def ConfigSnapshot.fromConfig (platform : Platform) (nowUnixMs : Nat) (config : Config) :
    Except ConfigError ConfigSnapshot := do
  let compiledPrivacy ← config.compilePrivacy platform
  let version ← config.effectiveHash platform
  .ok ⟨config, compiledPrivacy, version, nowUnixMs⟩

structure HotReloadState where
  snapshot : ConfigSnapshot
  eventLog : List String
  parseAttempts : Nat
  reloadCount : Nat
  llmGeneration : Nat
  embedGeneration : Nat
deriving DecidableEq

/-- Where `apply_reload` returns; it has no result of its own. -/
inductive ReloadOutcome where
  | rejected (error : ConfigError)
  | unchanged
  | installed
deriving DecidableEq

/-- Whether someone has subscribed to the generations. -/
structure Receivers where
  llm : Bool
  embed : Bool
deriving DecidableEq

namespace HotReloadState

def maxEventLog : Nat := 64

def pushEvent (state : HotReloadState) (event : String) : HotReloadState :=
  let events := if state.eventLog.length = maxEventLog then state.eventLog.tail else state.eventLog
  { state with eventLog := events ++ [event] }

def pushEvents (state : HotReloadState) (events : List String) : HotReloadState := events.foldl pushEvent state

def reject (state : HotReloadState) (error : ConfigError) : HotReloadState × ReloadOutcome :=
  (state.pushEvent s!"config hot-reload: parse failed, keeping previous version: {error.text}", .rejected error)

def candidateEvents (platform : Platform) (previous candidate : Config) : List String :=
  (previous.restartRequiredFieldsChanged platform candidate).map
    (fun field => s!"config hot-reload: {field} requires restart, change ignored") ++
  (if previous.ingestGating.prototypes = candidate.ingestGating.prototypes then []
    else ["config hot-reload: prototype change detected, effective after daemon restart"]) ++
  (if previous.llm.maxConcurrent = candidate.llm.maxConcurrent then []
    else [s!"config hot-reload: llm.max_concurrent changed from {previous.llm.maxConcurrent} to " ++
      s!"{candidate.llm.maxConcurrent}"]) ++
  (if previous.llm.enabledFor = candidate.llm.enabledFor then []
    else ["config hot-reload: llm.enabled_for changed"])

def llmHotChanged (previous effective : LlmConfig) : Bool :=
  previous.baseUrl ≠ effective.baseUrl || previous.model ≠ effective.model || previous.apiKey ≠ effective.apiKey ||
    previous.apiKeyEnv ≠ effective.apiKeyEnv || previous.extraBody ≠ effective.extraBody ||
    previous.endpoints ≠ effective.endpoints || previous.requestTimeoutSecs ≠ effective.requestTimeoutSecs ||
    previous.maxConcurrent ≠ effective.maxConcurrent || previous.retryIntervalSecs ≠ effective.retryIntervalSecs ||
    previous.enabledFor ≠ effective.enabledFor

def embedHotChanged (previous effective : EmbedConfig) : Bool :=
  previous.endpoints ≠ effective.endpoints || previous.maxConcurrent ≠ effective.maxConcurrent ||
    previous.retry ≠ effective.retry

/-- `wrapping_add(1)` on 64 bits. -/
def bump (counter : Nat) : Nat := (counter + 1) % 2 ^ 64

/-- `watch::Sender::send`: without a receiver the value stays. -/
def send (receivers : Bool) (counter : Nat) : Nat := if receivers then bump counter else counter

def bumpLlm (receivers : Bool) (state : HotReloadState) : HotReloadState :=
  { state with llmGeneration := send receivers state.llmGeneration }.pushEvent
    s!"config hot-reload: LLM config changed, generation bumped to {bump state.llmGeneration}"

def bumpEmbed (receivers : Bool) (state : HotReloadState) : HotReloadState :=
  { state with embedGeneration := send receivers state.embedGeneration }.pushEvent
    s!"config hot-reload: embedding endpoint pool changed, generation bumped to {bump state.embedGeneration}"

def install (receivers : Receivers) (state : HotReloadState) (next : ConfigSnapshot) (nextVersion : String) :
    HotReloadState :=
  let previous := state.snapshot
  let installed := { state with snapshot := next, reloadCount := bump state.reloadCount }
  let installed :=
    if llmHotChanged previous.config.llm next.config.llm then installed.bumpLlm receivers.llm else installed
  let installed :=
    if embedHotChanged previous.config.embed next.config.embed then installed.bumpEmbed receivers.embed else installed
  installed.pushEvent s!"config hot-reload: version changed from {previous.version} to {nextVersion}"

variable (platform : Platform)

def applyReload (receivers : Receivers) (nowUnixMs : Nat) (state : HotReloadState) :
    Except ConfigError Config → HotReloadState × ReloadOutcome
  | .error error => state.reject error
  | .ok candidate =>
    let previous := state.snapshot
    let state := state.pushEvents (candidateEvents platform previous.config candidate)
    let effective := previous.config.mergeRuntimeAllowed platform candidate
    match effective.effectiveHash platform with
    | .error error => state.reject error
    | .ok nextVersion =>
      if nextVersion = previous.version then (state, .unchanged)
      else
        match ConfigSnapshot.fromConfig platform nowUnixMs effective with
        | .error error => state.reject error
        | .ok next => (state.install receivers next nextVersion, .installed)

end HotReloadState

/-- An attempt: the file and the clocks as they are read, and who listens when it is installed. -/
structure ReloadAttempt where
  path : String
  disk : Disk
  now : Nat
  nowUnixMs : Nat
  receivers : Receivers
deriving DecidableEq

def ReloadAttempt.candidate (platform : Platform) (attempt : ReloadAttempt) : Except ConfigError Config :=
  Config.loadFrom platform attempt.now attempt.path attempt.disk

def reloadFromDisk (platform : Platform) (state : HotReloadState) (attempt : ReloadAttempt) :
    HotReloadState × ReloadOutcome :=
  { state with parseAttempts := HotReloadState.bump state.parseAttempts }.applyReload platform attempt.receivers
    attempt.nowUnixMs (attempt.candidate platform)

def reloadMachine (platform : Platform) : Machine HotReloadState ReloadAttempt ReloadOutcome :=
  ⟨reloadFromDisk platform⟩

def HotReloadState.SameActive (state state' : HotReloadState) : Prop :=
  state'.snapshot = state.snapshot ∧ state'.reloadCount = state.reloadCount ∧
    state'.llmGeneration = state.llmGeneration ∧ state'.embedGeneration = state.embedGeneration

variable (state : HotReloadState)

namespace HotReloadState

theorem pushEvents_sameActive (events : List String) (state : HotReloadState) :
    state.SameActive (state.pushEvents events) := by
  induction events generalizing state with
  | nil => exact ⟨rfl, rfl, rfl, rfl⟩
  | cons event events ih => exact ih (state.pushEvent event)

@[simp] theorem pushEvent_snapshot {event : String} : (state.pushEvent event).snapshot = state.snapshot := rfl

variable {b : Bool}

@[simp] theorem bumpLlm_snapshot : (state.bumpLlm b).snapshot = state.snapshot := rfl

@[simp] theorem bumpEmbed_snapshot : (state.bumpEmbed b).snapshot = state.snapshot := rfl

theorem install_snapshot {nextVersion : String} (receivers : Receivers) (state : HotReloadState)
    (next : ConfigSnapshot) :
    (state.install receivers next nextVersion).snapshot = next := by
  simp only [install, pushEvent_snapshot, apply_ite snapshot, bumpLlm_snapshot, bumpEmbed_snapshot, ite_self]

end HotReloadState

theorem fromConfig_config {platform : Platform} {nowUnixMs : Nat} {config : Config} {next : ConfigSnapshot}
    (h : ConfigSnapshot.fromConfig platform nowUnixMs config = .ok next) : next.config = config := by
  obtain ⟨privacy, _, h⟩ := bind_eq_ok_iff.mp h
  obtain ⟨version, _, h⟩ := bind_eq_ok_iff.mp h
  cases h
  rfl

inductive Reloads (platform : Platform) (state : HotReloadState) (attempt : ReloadAttempt) :
    HotReloadState × ReloadOutcome → Prop where
  | kept (state' : HotReloadState) (outcome : ReloadOutcome) (hOutcome : outcome ≠ .installed)
      (hSame : state.SameActive state') : Reloads platform state attempt (state', outcome)
  | installs (state' : HotReloadState) (candidate : Config) (hCandidate : attempt.candidate platform = .ok candidate)
      (hConfig : state'.snapshot.config = state.snapshot.config.mergeRuntimeAllowed platform candidate) :
      Reloads platform state attempt (state', .installed)

theorem reloads_reject {platform : Platform} {state state' : HotReloadState} {error : ConfigError}
    {attempt : ReloadAttempt} (hSame : state.SameActive state') :
    Reloads platform state attempt (state'.reject error) :=
  .kept _ (.rejected error) (by simp) hSame

theorem reloads (platform : Platform) (state : HotReloadState) (attempt : ReloadAttempt) :
    Reloads platform state attempt ((reloadMachine platform).step state attempt) := by
  let counted := { state with parseAttempts := HotReloadState.bump state.parseAttempts }
  change Reloads platform state attempt
    (counted.applyReload platform attempt.receivers attempt.nowUnixMs (attempt.candidate platform))
  cases hCandidate : attempt.candidate platform with
  | error error =>
    have hCounted : state.SameActive counted := ⟨rfl, rfl, rfl, rfl⟩
    exact reloads_reject hCounted
  | ok candidate =>
    have hPushed : state.SameActive
        (counted.pushEvents (HotReloadState.candidateEvents platform counted.snapshot.config candidate)) :=
      HotReloadState.pushEvents_sameActive _ counted
    simp only [HotReloadState.applyReload]
    cases hHash : (counted.snapshot.config.mergeRuntimeAllowed platform candidate).effectiveHash platform with
    | error error => exact reloads_reject hPushed
    | ok nextVersion =>
      dsimp only
      split
      · exact .kept _ .unchanged (by simp) hPushed
      · cases hNext : ConfigSnapshot.fromConfig platform attempt.nowUnixMs
            (counted.snapshot.config.mergeRuntimeAllowed platform candidate) with
        | error error => exact reloads_reject hPushed
        | ok next =>
          refine .installs _ candidate hCandidate ?_
          rw [HotReloadState.install_snapshot]
          exact fromConfig_config hNext

end Mempal.Settings
