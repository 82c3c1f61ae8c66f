import Mempal.Settings.RestartOnly

set_option autoImplicit false

/-! Running and candidate configuration are valid, and still their merge need not be: the LLM settings, the endpoint pool
and the embedding retry may be kept while what was checked against them is taken over. -/

namespace Mempal.Settings

open Foundation

def LlmConfig.RestartNeeded (running candidate : LlmConfig) : Prop :=
  running.enabled ≠ candidate.enabled ∨ running.backend ≠ candidate.backend

/-- What the candidate takes over fits what stays of the running configuration. -/
structure Fits (platform : Platform) (now : Nat) (running candidate : Config) : Prop where
  judge : ∀ judge, candidate.ingestGating.llmJudge = some judge → judge.enabled = true →
    running.llm.RestartNeeded candidate.llm → running.llm.enabled = true ∧ "gating" ∈ running.llm.enabledFor
  pool : running.embed.endpointVectorIdentity platform = candidate.embed.endpointVectorIdentity platform →
    candidate.embed.endpoints ≠ [] → ∃ identity, ∀ endpoint ∈ candidate.embed.endpoints,
      (running.embed.source.overlay endpoint).HasIdentity platform identity
  deadline : running.embed.endpointVectorIdentity platform ≠ candidate.embed.endpointVectorIdentity platform →
    representable now running.embed.retry.searchDeadlineSecs = true

namespace LlmConfig

def HasEndpoint (platform : Platform) (llm : LlmConfig) : Prop :=
  ∃ endpoints, llm.effectiveEndpoints platform = .ok endpoints ∧ endpoints ≠ []

theorem mergeRuntimeAllowed_of_restart {running candidate : LlmConfig} (h : running.RestartNeeded candidate) :
    running.mergeRuntimeAllowed candidate = running := if_pos h

theorem mergeRuntimeAllowed_of_not_restart {running candidate : LlmConfig} (h : ¬ running.RestartNeeded candidate) :
    running.mergeRuntimeAllowed candidate = candidate := by
  obtain ⟨hEnabled, hBackend⟩ := not_or.mp h
  refine (if_neg h).trans ?_
  rw [not_not.mp hEnabled, not_not.mp hBackend]

end LlmConfig

theorem LlmJudgeConfig.guard_eq_ok_iff {platform : Platform} {llm : LlmConfig} {judge : LlmJudgeConfig} :
    judge.guard platform llm = .ok () ↔
      (judge.enabled = false → judge.allowFallbackWorseMemory = true) ∧
        (judge.enabled = true → llm.enabled = true ∧ "gating" ∈ llm.enabledFor ∧ llm.HasEndpoint platform) := by
  unfold LlmJudgeConfig.guard
  cases judge.enabled with
  | false =>
    rw [if_pos (by decide), ite_ok_eq_ok_iff]
    simp
  | true =>
    rw [if_neg (by decide), ite_error_eq_ok_iff, ite_error_eq_ok_iff, not_not]
    simp only [Bool.not_eq_true', Bool.not_eq_false, true_implies, reduceCtorEq, false_implies, true_and]
    refine and_congr_right fun _ => and_congr_right fun _ => ?_
    cases hEndpoints : llm.effectiveEndpoints platform with
    | error error => simp [LlmConfig.HasEndpoint, hEndpoints]
    | ok endpoints =>
      simp [LlmConfig.HasEndpoint, hEndpoints]

namespace Config

variable {platform : Platform} {config : Config}

theorem checkLlmEndpoints_eq_ok_iff :
    config.checkLlmEndpoints platform = .ok () ↔ (config.llm.enabled = true → config.llm.HasEndpoint platform) := by
  simp only [checkLlmEndpoints, ite_ok_eq_ok_iff, Bool.not_eq_true', Bool.not_eq_false]
  refine imp_congr_right fun _ => ?_
  cases hEndpoints : config.llm.effectiveEndpoints platform with
  | error error => simp [LlmConfig.HasEndpoint, hEndpoints]
  | ok endpoints => simp only [LlmConfig.HasEndpoint, hEndpoints, ite_error_eq_ok_iff, Except.ok.injEq,
      exists_eq_left', and_true, ne_eq]

theorem validateLlmJudgeGuardrails_eq_ok_iff :
    config.validateLlmJudgeGuardrails platform = .ok () ↔
      ∀ judge, config.ingestGating.llmJudge = some judge →
        (judge.enabled = false → judge.allowFallbackWorseMemory = true) ∧
          (judge.enabled = true → config.llm.enabled = true ∧ "gating" ∈ config.llm.enabledFor ∧
            config.llm.HasEndpoint platform) := by
  unfold validateLlmJudgeGuardrails
  cases config.ingestGating.llmJudge with
  | none => exact iff_of_true rfl nofun
  | some judge => exact LlmJudgeConfig.guard_eq_ok_iff.trans (by simp only [Option.some.injEq, forall_eq'])

end Config

namespace EmbedConfig

variable {platform : Platform} {running candidate : EmbedConfig}

variable (platform running candidate) in
theorem mergeRuntimeAllowed_retry :
    (running.mergeRuntimeAllowed platform candidate).retry =
      if running.endpointVectorIdentity platform = candidate.endpointVectorIdentity platform then candidate.retry
      else running.retry := by
  unfold mergeRuntimeAllowed
  split <;> rfl

variable (platform running candidate) in
theorem mergeRuntimeAllowed_failures :
    (running.mergeRuntimeAllowed platform candidate).alertEveryNFailures = candidate.alertEveryNFailures ∧
      (running.mergeRuntimeAllowed platform candidate).degradeAfterNFailures = candidate.degradeAfterNFailures := by
  unfold mergeRuntimeAllowed
  split <;> exact ⟨rfl, rfl⟩

theorem validateEndpointPool_congr {embed embed' : EmbedConfig} (hSource : embed.source = embed'.source)
    (hEndpoints : embed.endpoints = embed'.endpoints) (h : embed'.validateEndpointPool platform = .ok ()) :
    embed.validateEndpointPool platform = .ok () := by
  by_cases hPool : embed.endpoints = []
  · rw [validateEndpointPool, if_pos hPool]
  · rw [validateEndpointPool_iff hPool, endpointVectorIdentity_congr platform hSource hEndpoints]
    exact (validateEndpointPool_iff (hEndpoints ▸ hPool)).mp h

theorem mergeRuntimeAllowed_pool_iff (hRunning : running.validateEndpointPool platform = .ok ())
    (hCandidate : candidate.validateEndpointPool platform = .ok ()) :
    (running.mergeRuntimeAllowed platform candidate).validateEndpointPool platform = .ok () ↔
      (running.endpointVectorIdentity platform = candidate.endpointVectorIdentity platform →
        candidate.endpoints ≠ [] → ∃ identity, ∀ endpoint ∈ candidate.endpoints,
          (running.source.overlay endpoint).HasIdentity platform identity) := by
  have hSource := mergeRuntimeAllowed_source platform running candidate
  have hEndpoints := mergeRuntimeAllowed_endpoints platform running candidate
  by_cases hSame : running.endpointVectorIdentity platform = candidate.endpointVectorIdentity platform
  · rw [if_pos hSame] at hEndpoints
    by_cases hPool : candidate.endpoints = []
    · refine iff_of_true ?_ fun _ hSome => absurd hPool hSome
      rw [validateEndpointPool, if_pos (hEndpoints.trans hPool)]
    · obtain ⟨identity, hIdentity⟩ := (validateEndpointPool_iff hPool).mp hCandidate
      obtain ⟨hIds, _⟩ := (endpointVectorIdentity_of_ne_nil hPool).mp hIdentity
      have hMerged : (running.mergeRuntimeAllowed platform candidate).endpoints ≠ [] := hEndpoints ▸ hPool
      simp only [validateEndpointPool_iff hMerged, endpointVectorIdentity_of_ne_nil hMerged, hSource, hEndpoints, hIds,
        true_and, hSame, true_implies, ne_eq, hPool, not_false_eq_true]
  · rw [if_neg hSame] at hEndpoints
    exact iff_of_true (validateEndpointPool_congr hSource hEndpoints hRunning) fun h => absurd h hSame

end EmbedConfig

namespace Config

variable {platform : Platform} {now now' : Nat} {running candidate : Config}

theorem merge_guardrails_iff (hLlm : running.checkLlmEndpoints platform = .ok ())
    (hJudge : candidate.validateLlmJudgeGuardrails platform = .ok ()) :
    (running.mergeRuntimeAllowed platform candidate).validateLlmJudgeGuardrails platform = .ok () ↔
      ∀ judge, candidate.ingestGating.llmJudge = some judge → judge.enabled = true →
        running.llm.RestartNeeded candidate.llm →
          running.llm.enabled = true ∧ "gating" ∈ running.llm.enabledFor := by
  rw [validateLlmJudgeGuardrails_eq_ok_iff] at hJudge ⊢
  rw [checkLlmEndpoints_eq_ok_iff] at hLlm
  simp only [mergeRuntimeAllowed]
  by_cases hRestart : running.llm.RestartNeeded candidate.llm
  · rw [LlmConfig.mergeRuntimeAllowed_of_restart hRestart]
    constructor
    · intro hAll judge hSome hEnabled _
      obtain ⟨hOn, hGating, _⟩ := (hAll judge hSome).2 hEnabled
      exact ⟨hOn, hGating⟩
    · intro hAll judge hSome
      refine ⟨(hJudge judge hSome).1, fun hEnabled => ?_⟩
      obtain ⟨hOn, hGating⟩ := hAll judge hSome hEnabled hRestart
      exact ⟨hOn, hGating, hLlm hOn⟩
  · rw [LlmConfig.mergeRuntimeAllowed_of_not_restart hRestart]
    exact iff_of_true hJudge fun _ _ _ h => absurd h hRestart

theorem merge_deadlines_iff (hCandidate : candidate.validateSearchDeadlines now = .ok ()) :
    (running.mergeRuntimeAllowed platform candidate).validateSearchDeadlines now = .ok () ↔
      (running.embed.endpointVectorIdentity platform ≠ candidate.embed.endpointVectorIdentity platform →
        representable now running.embed.retry.searchDeadlineSecs = true) := by
  rw [validateSearchDeadlines_eq_ok_iff] at hCandidate ⊢
  obtain ⟨hRetry, hOthers⟩ := hCandidate
  simp only [mergeRuntimeAllowed, EmbedConfig.mergeRuntimeAllowed_retry, hOthers, and_true]
  split_ifs with hSame
  · exact iff_of_true hRetry fun h => absurd hSame h
  · exact ⟨fun h _ => h, fun h => h hSame⟩

theorem merge_retry_check (hRunning : running.embed.retry.check = .ok ())
    (hCandidate : candidate.embed.retry.check = .ok ()) :
    (running.mergeRuntimeAllowed platform candidate).embed.retry.check = .ok () := by
  simp only [mergeRuntimeAllowed, EmbedConfig.mergeRuntimeAllowed_retry]
  split_ifs
  · exact hCandidate
  · exact hRunning

theorem merge_llm_checks
    (hRunning : running.llm.validateEndpointPool = .ok () ∧ running.checkLlmEndpoints platform = .ok ())
    (hCandidate : candidate.llm.validateEndpointPool = .ok () ∧ candidate.checkLlmEndpoints platform = .ok ()) :
    (running.mergeRuntimeAllowed platform candidate).llm.validateEndpointPool = .ok () ∧
      (running.mergeRuntimeAllowed platform candidate).checkLlmEndpoints platform = .ok () := by
  simp only [checkLlmEndpoints_eq_ok_iff, mergeRuntimeAllowed] at hRunning hCandidate ⊢
  by_cases hRestart : running.llm.RestartNeeded candidate.llm
  · rw [LlmConfig.mergeRuntimeAllowed_of_restart hRestart]
    exact hRunning
  · rw [LlmConfig.mergeRuntimeAllowed_of_not_restart hRestart]
    exact hCandidate

theorem merge_checkTuning :
    (running.mergeRuntimeAllowed platform candidate).checkTuning platform = candidate.checkTuning platform := by
  obtain ⟨hAlert, hDegrade⟩ := EmbedConfig.mergeRuntimeAllowed_failures platform running.embed candidate.embed
  simp only [checkTuning, mergeRuntimeAllowed, hAlert, hDegrade]
  rfl

theorem merge_valid_iff (hRunning : running.validate platform now' = .ok ())
    (hCandidate : candidate.validate platform now = .ok ()) :
    (running.mergeRuntimeAllowed platform candidate).validate platform now = .ok () ↔
      Fits platform now running candidate := by
  obtain ⟨⟨hRetry, hPool⟩, hLlm, _⟩ := (running.validate_eq_ok_iff platform now').mp hRunning
  obtain ⟨⟨hRetry', hPool'⟩, hLlm', hJudge', hDeadlines', hProject, hChunker, hDaemon, hServing, hTuning, hPrivacy⟩ :=
    (candidate.validate_eq_ok_iff platform now).mp hCandidate
  rw [validate_eq_ok_iff, merge_guardrails_iff hLlm.2 hJudge', merge_deadlines_iff hDeadlines']
  have hPoolIff := EmbedConfig.mergeRuntimeAllowed_pool_iff hPool hPool'
  constructor
  · rintro ⟨⟨_, hMerged⟩, _, hJudge, hDeadline, _⟩
    exact ⟨hJudge, hPoolIff.mp hMerged, hDeadline⟩
  · rintro ⟨hJudge, hMerged, hDeadline⟩
    exact ⟨⟨merge_retry_check hRetry hRetry', hPoolIff.mpr hMerged⟩, merge_llm_checks hLlm hLlm', hJudge, hDeadline,
      hProject, hChunker, hDaemon, hServing, merge_checkTuning.trans hTuning, hPrivacy⟩

end Config

/-- What a reload installs is valid, and one that fails leaves snapshot and generations as they are. -/
def ReloadSound (platform : Platform) (state : HotReloadState) (attempt : ReloadAttempt) : Prop :=
  ((reloadMachine platform).output state attempt = .installed →
      ((reloadMachine platform).next state attempt).snapshot.config.validate platform attempt.now = .ok ()) ∧
    ∀ error, (reloadMachine platform).output state attempt = .rejected error →
      state.SameActive ((reloadMachine platform).next state attempt)

/-- A candidate that is installed fits the running configuration. -/
def InstallsFitting (platform : Platform) (state : HotReloadState) (attempt : ReloadAttempt) : Prop :=
  ∀ candidate, attempt.candidate platform = .ok candidate →
    (reloadMachine platform).output state attempt = .installed →
      Fits platform attempt.now state.snapshot.config candidate

def Validated (platform : Platform) (state : HotReloadState) : Prop :=
  ∃ now, state.snapshot.config.validate platform now = .ok ()

variable {state : HotReloadState} {attempt : ReloadAttempt}

theorem reloadSound_iff {platform : Platform} (hValid : Validated platform state) :
    ReloadSound platform state attempt ↔ InstallsFitting platform state attempt := by
  obtain ⟨now, hValid⟩ := hValid
  have hStep := reloads platform state attempt
  unfold ReloadSound InstallsFitting Machine.next Machine.output
  generalize (reloadMachine platform).step state attempt = result at hStep
  cases hStep with
  | kept state' outcome hOutcome hSame =>
    exact iff_of_true ⟨fun h => absurd h hOutcome, fun _ _ => hSame⟩ fun _ _ h => absurd h hOutcome
  | installs state' candidate hCandidate hConfig =>
    have hMerge := Config.merge_valid_iff hValid (Config.validate_of_loadFrom hCandidate)
    simp only [true_implies, hConfig, hCandidate, Except.ok.injEq, forall_eq', reduceCtorEq, false_implies,
      implies_true, and_true]
    exact hMerge

theorem validated_next {platform : Platform} (hValid : Validated platform state)
    (hSound : ReloadSound platform state attempt) :
    Validated platform ((reloadMachine platform).next state attempt) := by
  obtain ⟨now, hValid⟩ := hValid
  have hStep := reloads platform state attempt
  have hInstalled := hSound.1
  unfold Machine.next Machine.output at *
  generalize (reloadMachine platform).step state attempt = result at hStep hInstalled
  cases hStep with
  | kept state' outcome hOutcome hSame => exact ⟨now, by rw [hSame.1]; exact hValid⟩
  | installs state' candidate hCandidate hConfig => exact ⟨attempt.now, hInstalled rfl⟩

/-- From a valid configuration on, every snapshot that becomes active is valid, and a failed reload changes nothing,
exactly if every candidate that is installed fits the configuration it is merged into. -/
theorem snapshots_valid_iff (platform : Platform) (state : HotReloadState) (now : Nat)
    (hValid : state.snapshot.config.validate platform now = .ok ()) (attempts : List ReloadAttempt) :
    (reloadMachine platform).Along (ReloadSound platform) state attempts ↔
      (reloadMachine platform).Along (InstallsFitting platform) state attempts := by
  have hStart : Validated platform state := ⟨now, hValid⟩
  clear hValid
  induction attempts generalizing state with
  | nil => exact Iff.rfl
  | cons attempt attempts ih =>
    constructor
    · rintro ⟨hSound, hRest⟩
      exact ⟨(reloadSound_iff hStart).mp hSound, (ih _ (validated_next hStart hSound)).mp hRest⟩
    · rintro ⟨hFits, hRest⟩
      have hSound := (reloadSound_iff hStart).mpr hFits
      exact ⟨hSound, (ih _ (validated_next hStart hSound)).mpr hRest⟩

def serving (text : String) (config : Config) : Platform :=
  { lenient with tomlConfig := fun contents => if contents = text then .ok config else .ok (.default "") }

def running (config : Config) : HotReloadState where
  snapshot := ⟨config, ⟨false, PrivacyConfig.defaultScrubPatterns.map fun p => (p.name, p.pattern)⟩, "a", 0⟩
  eventLog := []
  parseAttempts := 0
  reloadCount := 0
  llmGeneration := 0
  embedGeneration := 0

def fileChanged (text : String) : ReloadAttempt := ⟨"~/.mempal/config.toml", .contents text, 0, 0, ⟨true, false⟩⟩

def judgingText : String :=
  "[llm]\nenabled = true\nbase_url = \"http://127.0.0.1:8000/v1\"\nmodel = \"qwen3\"\n\n" ++
    "[ingest_gating.llm_judge]\nenabled = true\n"

def judging : Config :=
  { Config.default "b" with
    llm := { LlmConfig.default with
      enabled := true, baseUrl := some "http://127.0.0.1:8000/v1", model := some "qwen3" }
    ingestGating := ⟨[], 10000, some ⟨true, false⟩⟩ }

/-- The judge is taken over while the LLM stays off until a restart. -/
theorem judge_without_llm_installed :
    (running (.default "a")).snapshot.config.validate (serving judgingText judging) 0 = .ok () ∧
      (reloadMachine (serving judgingText judging)).output (running (.default "a")) (fileChanged judgingText) =
        .installed ∧
      ((reloadMachine (serving judgingText judging)).next (running (.default "a"))
          (fileChanged judgingText)).snapshot.config.validate (serving judgingText judging) 0 =
        .error (.validation "ingest_gating.llm_judge.enabled=true requires [llm].enabled=true") := by
  exact ⟨Config.validate_default "a" (fun _ _ => rfl) (by decide), by decide +kernel, by decide +kernel⟩

def standbyText : String :=
  "[embed.openai_compat]\nbase_url = \"http://127.0.0.1:18002/v1\"\nmodel = \"qwen3\"\ndim = 1024\n\n" ++
    "[[embed.endpoints]]\nmodel = \"bge-m3\"\n\n[[embed.endpoints]]\nid = \"standby\"\nmodel = \"bge-m3\"\n\n" ++
    "[chunker]\nmax_tokens = 2048\n"

def standby : Config := { extended with chunker := ⟨2048, 512, 64⟩, unread := "b" }

/-- The pool gets a second endpoint. -/
theorem standby_installed_soundly :
    (reloadMachine (serving standbyText standby)).output (running pooled) (fileChanged standbyText) = .installed ∧
      (reloadMachine (serving standbyText standby)).Along (ReloadSound (serving standbyText standby)) (running pooled)
        [fileChanged standbyText] := by
  refine ⟨by decide +kernel, (snapshots_valid_iff _ (running pooled) 0 (by decide +kernel)
    [fileChanged standbyText]).mpr ⟨?_, trivial⟩⟩
  intro candidate hCandidate _
  have hLoaded : (fileChanged standbyText).candidate (serving standbyText standby) = .ok standby := by
    decide +kernel
  cases hCandidate.symm.trans hLoaded
  refine ⟨nofun, fun _ _ => ⟨⟨"openai_compat", "bge-m3", 1024⟩, ?_⟩, fun h => absurd rfl h⟩
  intro endpoint hMem
  rcases List.mem_pair.mp (show endpoint ∈ [bgeEndpoint, { bgeEndpoint with id := some "standby" }] from hMem)
    with rfl | rfl <;>
  exact ⟨by decide +kernel, ⟨"http://127.0.0.1:18002/v1", by decide +kernel, _, rfl, by decide, nofun, rfl, rfl, rfl, rfl⟩,
    by decide +kernel, rfl, rfl⟩

end Mempal.Settings
