import Mempal.Settings.Reload

set_option autoImplicit false

/-! The merge keeps the legacy fields of the running configuration and takes the endpoints of the candidate when both
have the same vector identity. -/

namespace Mempal.Settings

open Foundation

/-- What the endpoint leaves unset means the same under the running legacy fields as under the candidate's. -/
def InheritsAlike (platform : Platform) (running candidate : EmbedConfig) (endpoint : EmbedEndpointConfig) : Prop :=
  (endpoint.backend = none → isHttpBackend (Text.trim running.backend) = true) ∧
    (endpoint.baseUrl = none → VectorSource.UsableBaseUrl platform running.resolvedOpenaiBaseUrl) ∧
    (endpoint.model = none → trimmed running.resolvedOpenaiModel = trimmed candidate.resolvedOpenaiModel) ∧
    (endpoint.dim = none → running.resolvedOpenaiDim = candidate.resolvedOpenaiDim)

/-- The candidate's pool means the same over the running legacy fields. -/
def PoolCarriesOver (platform : Platform) (running candidate : EmbedConfig) : Prop :=
  running.endpoints = [] ∧ candidate.endpoints = [] ∨
    ∀ endpoint ∈ candidate.pool, InheritsAlike platform running candidate endpoint

theorem hasIdentity_overlay_iff {endpoint : EmbedEndpointConfig} {platform : Platform} {running candidate : EmbedConfig}
    {identity : EmbedVectorIdentity} (h : (candidate.source.overlay endpoint).HasIdentity platform identity) :
    (running.source.overlay endpoint).HasIdentity platform identity ↔
      InheritsAlike platform running candidate endpoint := by
  obtain ⟨hHttp, hUrl, hModel, hDim, hBackend⟩ := h
  constructor
  · rintro ⟨hHttp', hUrl', hModel', hDim', _⟩
    refine ⟨fun hNone => ?_, fun hNone => ?_, fun hNone => ?_, fun hNone => ?_⟩
    · simpa [VectorSource.overlay, hNone, EmbedConfig.source] using hHttp'
    · simpa [VectorSource.overlay, hNone, EmbedConfig.source] using hUrl'
    · have hSame := hModel'.trans hModel.symm
      simpa [VectorSource.overlay, hNone, EmbedConfig.source] using hSame
    · have hSame := hDim'.trans hDim.symm
      simpa [VectorSource.overlay, hNone, EmbedConfig.source] using hSame
  · rintro ⟨hHttp', hUrl', hModel', hDim'⟩
    refine ⟨?_, ?_, ?_, ?_, hBackend⟩
    · cases hSet : endpoint.backend with
      | none => simpa [VectorSource.overlay, hSet, EmbedConfig.source] using hHttp' hSet
      | some backend => simpa [VectorSource.overlay, hSet] using hHttp
    · cases hSet : endpoint.baseUrl with
      | none => simpa [VectorSource.overlay, hSet, EmbedConfig.source] using hUrl' hSet
      | some baseUrl => simpa [VectorSource.overlay, hSet] using hUrl
    · cases hSet : endpoint.model with
      | none =>
        rw [← hModel]
        simpa [VectorSource.overlay, hSet, EmbedConfig.source] using hModel' hSet
      | some model => simpa [VectorSource.overlay, hSet] using hModel
    · cases hSet : endpoint.dim with
      | none =>
        rw [← hDim]
        simpa [VectorSource.overlay, hSet, EmbedConfig.source] using hDim' hSet
      | some dim => simpa [VectorSource.overlay, hSet] using hDim

namespace EmbedConfig

variable {platform : Platform} {running candidate : EmbedConfig}

variable (platform running candidate) in
theorem mergeRuntimeAllowed_source : (running.mergeRuntimeAllowed platform candidate).source = running.source := by
  unfold mergeRuntimeAllowed
  split <;> rfl

variable (platform running candidate) in
theorem mergeRuntimeAllowed_endpoints :
    (running.mergeRuntimeAllowed platform candidate).endpoints =
      if running.endpointVectorIdentity platform = candidate.endpointVectorIdentity platform then candidate.endpoints
      else running.endpoints := by
  unfold mergeRuntimeAllowed
  split <;> rfl

variable (platform running candidate) in
theorem mergeRuntimeAllowed_kept :
    (running.mergeRuntimeAllowed platform candidate).backend = running.backend ∧
      (running.mergeRuntimeAllowed platform candidate).fallback = running.fallback ∧
      (running.mergeRuntimeAllowed platform candidate).model = running.model ∧
      (running.mergeRuntimeAllowed platform candidate).baseUrl = running.baseUrl ∧
      (running.mergeRuntimeAllowed platform candidate).apiModel = running.apiModel ∧
      (running.mergeRuntimeAllowed platform candidate).openaiCompat = running.openaiCompat := by
  unfold mergeRuntimeAllowed
  split <;> exact ⟨rfl, rfl, rfl, rfl, rfl, rfl⟩

theorem endpointVectorIdentity_congr (platform : Platform) {embed embed' : EmbedConfig}
    (hSource : embed.source = embed'.source)
    (hEndpoints : embed.endpoints = embed'.endpoints) :
    embed.endpointVectorIdentity platform = embed'.endpointVectorIdentity platform := by
  have hPool : embed.pool = embed'.pool := by
    rw [pool, pool, hEndpoints]
  ext identity
  rw [endpointVectorIdentity_eq_some_iff, endpointVectorIdentity_eq_some_iff, hSource, hEndpoints, hPool]

theorem endpoints_eq_nil_of_identity_none (hValid : candidate.validateEndpointPool platform = .ok ())
    (hNone : candidate.endpointVectorIdentity platform = none) : candidate.endpoints = [] := by
  by_contra hPool
  obtain ⟨identity, hSome⟩ := (validateEndpointPool_iff hPool).mp hValid
  exact absurd (hNone.symm.trans hSome) nofun

theorem mergeRuntimeAllowed_identity_iff (hRunning : running.validateEndpointPool platform = .ok ())
    (hCandidate : candidate.validateEndpointPool platform = .ok ()) :
    (running.mergeRuntimeAllowed platform candidate).endpointVectorIdentity platform =
        running.endpointVectorIdentity platform ↔
      (running.endpointVectorIdentity platform = candidate.endpointVectorIdentity platform →
        PoolCarriesOver platform running candidate) := by
  have hSource := mergeRuntimeAllowed_source platform running candidate
  have hEndpoints := mergeRuntimeAllowed_endpoints platform running candidate
  by_cases hSame : running.endpointVectorIdentity platform = candidate.endpointVectorIdentity platform
  · rw [if_pos hSame] at hEndpoints
    simp only [hSame, true_implies]
    by_cases hNoPools : running.endpoints = [] ∧ candidate.endpoints = []
    · have hKept := endpointVectorIdentity_congr platform hSource
        (hEndpoints.trans (hNoPools.2.trans hNoPools.1.symm))
      exact iff_of_true (hKept.trans hSame) (.inl hNoPools)
    · cases hIdentity : candidate.endpointVectorIdentity platform with
      | none =>
        exact absurd ⟨endpoints_eq_nil_of_identity_none hRunning (hSame.trans hIdentity),
          endpoints_eq_nil_of_identity_none hCandidate hIdentity⟩ hNoPools
      | some identity =>
        obtain ⟨hIds, hAll⟩ := endpointVectorIdentity_eq_some_iff.mp hIdentity
        have hPool : (running.mergeRuntimeAllowed platform candidate).pool = candidate.pool := by
          rw [pool, pool, hEndpoints]
        rw [endpointVectorIdentity_eq_some_iff, hSource, hEndpoints, hPool, PoolCarriesOver]
        simp only [hNoPools, hIds, true_and, false_or]
        exact forall₂_congr fun endpoint hMem => hasIdentity_overlay_iff (hAll endpoint hMem)
  · rw [if_neg hSame] at hEndpoints
    exact iff_of_true (endpointVectorIdentity_congr platform hSource hEndpoints) fun h => absurd h hSame

theorem mergeRuntimeAllowed_idem
    (hKept : (running.mergeRuntimeAllowed platform candidate).endpointVectorIdentity platform =
      running.endpointVectorIdentity platform) :
    (running.mergeRuntimeAllowed platform candidate).mergeRuntimeAllowed platform candidate =
      running.mergeRuntimeAllowed platform candidate := by
  by_cases hSame : running.endpointVectorIdentity platform = candidate.endpointVectorIdentity platform
  · rw [mergeRuntimeAllowed, if_pos (hKept.trans hSame), mergeRuntimeAllowed, if_pos hSame]
  · rw [mergeRuntimeAllowed, if_neg fun h => hSame (hKept.symm.trans h), mergeRuntimeAllowed, if_neg hSame]

end EmbedConfig

theorem LlmConfig.mergeRuntimeAllowed_kept (running candidate : LlmConfig) :
    (running.mergeRuntimeAllowed candidate).enabled = running.enabled ∧
      (running.mergeRuntimeAllowed candidate).backend = running.backend := by
  unfold mergeRuntimeAllowed
  split <;> exact ⟨rfl, rfl⟩

theorem LlmConfig.mergeRuntimeAllowed_idem (running candidate : LlmConfig) :
    (running.mergeRuntimeAllowed candidate).mergeRuntimeAllowed candidate = running.mergeRuntimeAllowed candidate := by
  by_cases hRestart : running.enabled ≠ candidate.enabled ∨ running.backend ≠ candidate.backend
  · simp only [mergeRuntimeAllowed, if_pos hRestart]
  · simp only [mergeRuntimeAllowed, if_neg hRestart]

namespace Config

variable {platform : Platform} {running candidate : Config}

theorem restartRequired_merge_iff :
    running.restartRequiredFieldsChanged platform (running.mergeRuntimeAllowed platform candidate) = [] ↔
      (running.embed.mergeRuntimeAllowed platform candidate.embed).endpointVectorIdentity platform =
        running.embed.endpointVectorIdentity platform := by
  obtain ⟨hBackend, hFallback, hModel, hBaseUrl, hApiModel, hCompat⟩ :=
    EmbedConfig.mergeRuntimeAllowed_kept platform running.embed candidate.embed
  obtain ⟨hEnabled, hLlmBackend⟩ := LlmConfig.mergeRuntimeAllowed_kept running.llm candidate.llm
  simp only [restartRequiredFieldsChanged, List.append_eq_nil_iff, changedField_eq_nil_iff, mergeRuntimeAllowed,
    hBackend, hFallback, hModel, hBaseUrl, hApiModel, hCompat, hEnabled, hLlmBackend, true_and, and_true]
  exact eq_comm

theorem mergeRuntimeAllowed_idem
    (hKept : (running.embed.mergeRuntimeAllowed platform candidate.embed).endpointVectorIdentity platform =
      running.embed.endpointVectorIdentity platform) :
    (running.mergeRuntimeAllowed platform candidate).mergeRuntimeAllowed platform candidate =
      running.mergeRuntimeAllowed platform candidate := by
  simp only [mergeRuntimeAllowed, EmbedConfig.mergeRuntimeAllowed_idem hKept, LlmConfig.mergeRuntimeAllowed_idem]

end Config

theorem Config.validateEndpointPool_of_validate {platform : Platform} {now : Nat} {config : Config}
    (h : config.validate platform now = .ok ()) : config.embed.validateEndpointPool platform = .ok () :=
  ((config.validate_eq_ok_iff platform now).mp h).1.2

/-- A reload changes no restart-only setting, and repeating it changes nothing, exactly if a pool taken over from
the candidate means the same under the legacy fields that stay. -/
theorem merge_keeps_restart_only_iff (platform : Platform) (running candidate : Config) (now now' : Nat)
    (hRunning : running.validate platform now = .ok ()) (hCandidate : candidate.validate platform now' = .ok ()) :
    (running.restartRequiredFieldsChanged platform (running.mergeRuntimeAllowed platform candidate) = [] ∧
        (running.mergeRuntimeAllowed platform candidate).embed.endpointVectorIdentity platform =
          running.embed.endpointVectorIdentity platform ∧
        (running.mergeRuntimeAllowed platform candidate).mergeRuntimeAllowed platform candidate =
          running.mergeRuntimeAllowed platform candidate) ↔
      (running.embed.endpointVectorIdentity platform = candidate.embed.endpointVectorIdentity platform →
        PoolCarriesOver platform running.embed candidate.embed) := by
  rw [← EmbedConfig.mergeRuntimeAllowed_identity_iff (Config.validateEndpointPool_of_validate hRunning)
    (Config.validateEndpointPool_of_validate hCandidate)]
  constructor
  · rintro ⟨_, hKept, _⟩
    exact hKept
  · intro hKept
    exact ⟨Config.restartRequired_merge_iff.mpr hKept, hKept, Config.mergeRuntimeAllowed_idem hKept⟩

def lenient : Platform where
  parseUrl := fun _ => .ok ⟨"http", some "127.0.0.1", "", none, none, none, "/v1"⟩
  urlText := fun _ => "http://127.0.0.1/v1"
  compileRegex := fun _ => .ok ()
  debugText := id
  tomlValue := fun _ => .ok (.table [])
  tomlConfig := fun _ => .ok (.default "")
  tomlText := fun config => .ok config.unread
  blake3Hex := id
  envVar := fun _ => none
  model2vec := false
  defaultUnread := ""

def withEmbed (model : String) (endpoints : List EmbedEndpointConfig) : Config :=
  { Config.default "" with embed := { EmbedConfig.default with
      openaiCompat := ⟨some "http://127.0.0.1:18002/v1", some model, none, 240, some 1024, none⟩
      endpoints := endpoints } }

def bgeEndpoint : EmbedEndpointConfig :=
  ⟨none, none, none, some "bge-m3", none, none, none, none, none, none, none⟩

def pooled : Config := withEmbed "qwen3" [bgeEndpoint]

def folded : Config := withEmbed "bge-m3" []

/-- The model of the pool is moved to the legacy fields: the merge drops the pool but keeps the old legacy model. -/
theorem folded_pool_changes_identity :
    pooled.validate lenient 0 = .ok () ∧ folded.validate lenient 0 = .ok () ∧
      pooled.restartRequiredFieldsChanged lenient (pooled.mergeRuntimeAllowed lenient folded) =
        ["embedder.endpoints.vector_identity"] ∧
      (pooled.mergeRuntimeAllowed lenient folded).embed.endpointVectorIdentity lenient =
        some ⟨"openai_compat", "qwen3", 1024⟩ ∧
      pooled.embed.endpointVectorIdentity lenient = some ⟨"openai_compat", "bge-m3", 1024⟩ := by
  refine ⟨by decide +kernel, by decide +kernel, by rfl, by rfl, by rfl⟩

def extended : Config := withEmbed "qwen3" [bgeEndpoint, { bgeEndpoint with id := some "standby" }]

theorem inheritsAlike_bgeEndpoint (id : Option String) :
    InheritsAlike lenient pooled.embed extended.embed { bgeEndpoint with id := id } := by
  refine ⟨fun _ => by decide +kernel, fun _ => ?_, nofun, fun _ => rfl⟩
  exact ⟨"http://127.0.0.1:18002/v1", by decide +kernel, _, rfl, by decide, nofun, rfl, rfl, rfl, rfl⟩

theorem extended_pool_keeps_restart_only :
    pooled.restartRequiredFieldsChanged lenient (pooled.mergeRuntimeAllowed lenient extended) = [] ∧
      (pooled.mergeRuntimeAllowed lenient extended).embed.endpointVectorIdentity lenient =
        pooled.embed.endpointVectorIdentity lenient ∧
      (pooled.mergeRuntimeAllowed lenient extended).mergeRuntimeAllowed lenient extended =
        pooled.mergeRuntimeAllowed lenient extended := by
  refine (merge_keeps_restart_only_iff lenient pooled extended 0 0 (by decide +kernel)
    (by decide +kernel)).mpr fun _ => .inr ?_
  intro endpoint hMem
  rcases List.mem_pair.mp (show endpoint ∈ [bgeEndpoint, { bgeEndpoint with id := some "standby" }] from hMem)
    with rfl | rfl
  · exact inheritsAlike_bgeEndpoint none
  · exact inheritsAlike_bgeEndpoint (some "standby")

/-- The settings that a merge takes from the running configuration. -/
def Config.fixed (config : Config) :=
  ((config.dbPath, config.mcpLogPath, config.daemon.logPath), (config.llm.enabled, config.llm.backend),
    (config.embed.backend, config.embed.fallback, config.embed.model, config.embed.baseUrl, config.embed.apiModel),
    config.embed.openaiCompat)

variable (platform : Platform)

theorem Config.mergeRuntimeAllowed_fixed (running candidate : Config) :
    (running.mergeRuntimeAllowed platform candidate).fixed = running.fixed := by
  simp only [fixed, mergeRuntimeAllowed, EmbedConfig.mergeRuntimeAllowed_kept, LlmConfig.mergeRuntimeAllowed_kept]

theorem next_fixed (state : HotReloadState) (attempt : ReloadAttempt) :
    ((reloadMachine platform).next state attempt).snapshot.config.fixed = state.snapshot.config.fixed := by
  have hStep := reloads platform state attempt
  unfold Machine.next
  generalize (reloadMachine platform).step state attempt = result at hStep
  cases hStep with
  | kept state' outcome hOutcome hSame => rw [hSame.1]
  | installs state' candidate hCandidate hConfig => rw [hConfig, Config.mergeRuntimeAllowed_fixed]

/-- Of the settings that need a restart, reloads change the identity of the endpoint pool at most. -/
theorem reloads_change_identity_only (state : HotReloadState) (attempts : List ReloadAttempt) :
    let config := ((reloadMachine platform).final state attempts).snapshot.config
    state.snapshot.config.restartRequiredFieldsChanged platform config =
      changedField "embedder.endpoints.vector_identity" (state.snapshot.config.embed.endpointVectorIdentity platform)
        (config.embed.endpointVectorIdentity platform) := by
  have hFixed := Machine.invariant (m := reloadMachine platform)
    (I := fun state' => state'.snapshot.config.fixed = state.snapshot.config.fixed)
    (fun _ _ h => (next_fixed platform _ _).trans h) rfl attempts
  simp only [Config.fixed, Prod.mk.injEq] at hFixed
  simp [Config.restartRequiredFieldsChanged, changedField, hFixed]

end Mempal.Settings
