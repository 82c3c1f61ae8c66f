import Mathlib.Data.List.Forall2
import Mempal.Settings.Basic

set_option autoImplicit false

/-! Endpoints of the embedding pool take the fields they leave unset from the legacy scalar fields; a pool is sound
when its endpoints share one vector identity. -/

namespace Mempal.Settings

open Foundation

def trimEndSlashes (text : String) : String :=
  String.ofList (text.toList.reverse.dropWhile (· == '/')).reverse

def nonBlank (text : Option String) : Bool := text.any fun value => Text.trim value ≠ ""

def trimmed (text : Option String) : Option String := (text.map Text.trim).filter (· ≠ "")

def isEndpointIdChar (c : Char) : Bool := c.isAlphanum || c == '_' || c == '.' || c == '-'

def normalizeEndpointId (configured : Option String) (index : Nat) (label : String) : Except ConfigError String :=
  let id := (trimmed configured).getD s!"endpoint-{index + 1}"
  if 64 < id.utf8ByteSize || !id.toList.all isEndpointIdChar then
    .error (.validation s!"{label} id `{id}` must match [A-Za-z0-9_.-]\x7b1,64\x7d")
  else .ok id

def normalizeEmbedEndpointId (configured : Option String) (index : Nat) : Except ConfigError String :=
  normalizeEndpointId configured index "embed endpoints"

def normalizeLlmEndpointId (configured : Option String) (index : Nat) : Except ConfigError String :=
  normalizeEndpointId configured index "llm endpoint"

def isHttpBackend (backend : String) : Bool := backend == "openai_compat" || backend == "api"

def normalizeEmbedEndpointBackend (platform : Platform) (backend field : String) : Except ConfigError String :=
  let backend := Text.trim backend
  if backend = "" then .error (.validation s!"{field} must not be empty")
  else if isHttpBackend backend then .ok "openai_compat"
  else .error (.validation (s!"{field}={platform.debugText backend} is not supported in embed endpoint pools; " ++
    "use openai_compat-compatible HTTP endpoints"))

def validateBaseUrl (platform : Platform) (baseUrl field credentialHint : String) : Except String Unit :=
  match platform.parseUrl baseUrl with
  | .error error => .error s!"invalid {field} `{baseUrl}`: {error}"
  | .ok url =>
    if url.scheme = "" then .error s!"{field} must include a URL scheme"
    else if url.host = none then .error s!"{field} must include a host"
    else if url.username ≠ "" ∨ url.password ≠ none then
      .error s!"{field} must not include userinfo credentials; use {credentialHint} instead"
    else if url.query ≠ none then
      .error s!"{field} must not include query parameters; move secrets to {credentialHint}"
    else if url.fragment ≠ none then .error s!"{field} must not include URL fragments"
    else .ok ()

def normalizeBaseUrl (platform : Platform) (baseUrl : Option String) (missing : ConfigError) (urlField : String) :
    Except ConfigError String :=
  match trimmed baseUrl with
  | none => .error missing
  | some url =>
    let url := trimEndSlashes url
    match validateBaseUrl platform url urlField "api_key_env" with
    | .error message => .error (.validation message)
    | .ok () => .ok url

def normalizeEmbedEndpointBaseUrl (platform : Platform) (baseUrl : Option String) (field : String) :
    Except ConfigError String :=
  normalizeBaseUrl platform baseUrl
    (.validation "embed base_url missing; example http://127.0.0.1:18002/v1") field

def normalizeLlmEndpointBaseUrl (platform : Platform) (baseUrl : Option String) (field : String) :
    Except ConfigError String :=
  normalizeBaseUrl platform baseUrl (.validation s!"{field} must not be empty") "llm.base_url"

def normalizeRequiredModel (model : Option String) (field : String) : Except ConfigError String :=
  match trimmed model with
  | some model => .ok model
  | none => .error (.validation s!"{field} must not be empty")

structure EffectiveEmbedEndpoint where
  id : String
  backend : String
  baseUrl : String
  model : String
  apiKeyEnv : Option String
  priority : Int
  requestTimeoutSecs : Nat
  retryIntervalSecs : Nat
  maxConcurrent : Nat
  dimensions : Nat
  maxInputTokens : Option Nat
deriving DecidableEq

structure EmbedVectorIdentity where
  backend : String
  model : String
  dimensions : Nat
deriving DecidableEq

def EffectiveEmbedEndpoint.vectorIdentity (endpoint : EffectiveEmbedEndpoint) : EmbedVectorIdentity :=
  ⟨endpoint.backend, endpoint.model, endpoint.dimensions⟩

namespace EmbedConfig

variable (platform : Platform) (embed : EmbedConfig)

def resolvedOpenaiBaseUrl : Option String := embed.openaiCompat.baseUrl.or embed.baseUrl

def resolvedOpenaiModel : Option String := embed.openaiCompat.model.or embed.apiModel

def resolvedOpenaiDim : Nat := embed.openaiCompat.dim.getD defaultOpenaiDim

def legacyEndpoint (backend baseUrl model : String) : EffectiveEmbedEndpoint where
  id := "legacy"
  backend := backend
  baseUrl := baseUrl
  model := model
  apiKeyEnv := embed.openaiCompat.apiKeyEnv
  priority := 0
  requestTimeoutSecs := max embed.openaiCompat.requestTimeoutSecs 1
  retryIntervalSecs := max embed.retry.intervalSecs 1
  maxConcurrent := max embed.maxConcurrent 1
  dimensions := embed.resolvedOpenaiDim
  maxInputTokens := embed.openaiCompat.maxInputTokens

def legacyEffectiveEndpoint : Except ConfigError (Option EffectiveEmbedEndpoint) := do
  let backend ← normalizeEmbedEndpointBackend platform embed.backend "embed.backend"
  if !isHttpBackend backend then .ok none
  else if !nonBlank embed.resolvedOpenaiBaseUrl && !nonBlank embed.resolvedOpenaiModel then .ok none
  else
    let baseUrl ← normalizeEmbedEndpointBaseUrl platform embed.resolvedOpenaiBaseUrl "embed.base_url"
    let model ← normalizeRequiredModel embed.resolvedOpenaiModel "embed.model"
    .ok (some (embed.legacyEndpoint backend baseUrl model))

def effectiveEndpoint (id backend baseUrl model : String) (endpoint : EmbedEndpointConfig) :
    EffectiveEmbedEndpoint where
  id := id
  backend := backend
  baseUrl := baseUrl
  model := model
  apiKeyEnv := endpoint.apiKeyEnv.or embed.openaiCompat.apiKeyEnv
  priority := endpoint.priority.getD 0
  requestTimeoutSecs := max (endpoint.requestTimeoutSecs.getD embed.openaiCompat.requestTimeoutSecs) 1
  retryIntervalSecs := max (endpoint.retryIntervalSecs.getD embed.retry.intervalSecs) 1
  maxConcurrent := max (endpoint.maxConcurrent.getD embed.maxConcurrent) 1
  dimensions := (endpoint.dim.or embed.openaiCompat.dim).getD defaultOpenaiDim
  maxInputTokens := endpoint.maxInputTokens.or embed.openaiCompat.maxInputTokens

def resolveEndpoint (index : Nat) (id : String) (endpoint : EmbedEndpointConfig) :
    Except ConfigError EffectiveEmbedEndpoint := do
  let backend ← normalizeEmbedEndpointBackend platform (endpoint.backend.getD embed.backend)
    s!"embed.endpoints[{index}].backend"
  let baseUrl ← normalizeEmbedEndpointBaseUrl platform (endpoint.baseUrl.or embed.resolvedOpenaiBaseUrl)
    s!"embed.endpoints[{index}].base_url"
  let model ← normalizeRequiredModel (endpoint.model.or embed.resolvedOpenaiModel)
    s!"embed.endpoints[{index}].model"
  .ok (embed.effectiveEndpoint id backend baseUrl model endpoint)

/-- The loop over the configured endpoints; `seen` holds the ids of the earlier ones. -/
def resolveEndpoints (index : Nat) (seen : List String) :
    List EmbedEndpointConfig → Except ConfigError (List EffectiveEmbedEndpoint)
  | [] => .ok []
  | endpoint :: endpoints => do
    let id ← normalizeEmbedEndpointId endpoint.id index
    if id ∈ seen then .error (.validation s!"embed endpoints id `{id}` must be unique")
    else
      let effective ← embed.resolveEndpoint platform index id endpoint
      let rest ← resolveEndpoints (index + 1) (id :: seen) endpoints
      .ok (effective :: rest)

def effectiveEndpointsWithoutValidation : Except ConfigError (List EffectiveEmbedEndpoint) :=
  if embed.endpoints = [] then (embed.legacyEffectiveEndpoint platform).map Option.toList
  else embed.resolveEndpoints platform 0 [] embed.endpoints

end EmbedConfig

def validateEmbedEndpointVectorIdentity : List EffectiveEmbedEndpoint → Except ConfigError Unit
  | [] => .ok ()
  | first :: endpoints =>
    if endpoints.any fun endpoint => endpoint.vectorIdentity ≠ first.vectorIdentity then
      .error (.validation ("embed endpoints must share one vector identity (backend, model, dim); " ++
        "configure separate reindex targets for different embedding models"))
    else .ok ()

namespace EmbedConfig

variable (platform : Platform) (embed : EmbedConfig)

def effectiveEndpoints : Except ConfigError (List EffectiveEmbedEndpoint) := do
  let endpoints ← embed.effectiveEndpointsWithoutValidation platform
  validateEmbedEndpointVectorIdentity endpoints
  .ok endpoints

def validateEndpointPool : Except ConfigError Unit :=
  if embed.endpoints = [] then .ok ()
  else do
    let endpoints ← embed.effectiveEndpointsWithoutValidation platform
    validateEmbedEndpointVectorIdentity endpoints

def endpointVectorIdentity : Option EmbedVectorIdentity :=
  match embed.effectiveEndpoints platform with
  | .error _ => none
  | .ok endpoints => endpoints.head?.map EffectiveEmbedEndpoint.vectorIdentity

end EmbedConfig

structure EffectiveLlmEndpoint where
  id : String
  baseUrl : String
  model : String
  apiKey : Option String
  apiKeyEnv : Option String
  extraBody : Option String
  priority : Int
  requestTimeoutSecs : Nat
  healthProbeTimeoutSecs : Nat
  retryIntervalSecs : Nat
  maxConcurrent : Nat
deriving DecidableEq

namespace LlmConfig

variable (platform : Platform) (llm : LlmConfig)

def hasLegacyEndpointDefinition : Bool :=
  nonBlank llm.baseUrl || nonBlank llm.model || nonBlank llm.apiKey || nonBlank llm.apiKeyEnv ||
    llm.extraBody.isSome

def validateEndpointPool : Except ConfigError Unit :=
  if llm.endpoints = [] then .ok ()
  else if llm.hasLegacyEndpointDefinition then
    .error (.validation "llm endpoint list cannot be combined with legacy scalar endpoint fields")
  else .ok ()

def legacyEffectiveEndpoint : Except ConfigError (Option EffectiveLlmEndpoint) :=
  if !nonBlank llm.baseUrl && !nonBlank llm.model then .ok none
  else do
    let baseUrl ← normalizeLlmEndpointBaseUrl platform llm.baseUrl "llm.base_url"
    let model ← normalizeRequiredModel llm.model "llm.model"
    .ok (some {
      id := "legacy"
      baseUrl, model
      apiKey := llm.apiKey
      apiKeyEnv := llm.apiKeyEnv
      extraBody := llm.extraBody
      priority := 0
      requestTimeoutSecs := llm.requestTimeoutSecs
      healthProbeTimeoutSecs := max llm.healthProbeTimeoutSecs 1
      retryIntervalSecs := max llm.retryIntervalSecs 1
      maxConcurrent := max llm.maxConcurrent 1 })

def resolveEndpoint (index : Nat) (id : String) (endpoint : LlmEndpointConfig) :
    Except ConfigError EffectiveLlmEndpoint := do
  let baseUrl ← normalizeLlmEndpointBaseUrl platform endpoint.baseUrl s!"llm.endpoints[{index}].base_url"
  let model ← normalizeRequiredModel endpoint.model s!"llm.endpoints[{index}].model"
  .ok {
    id, baseUrl, model
    apiKey := endpoint.apiKey
    apiKeyEnv := endpoint.apiKeyEnv
    extraBody := endpoint.extraBody
    priority := endpoint.priority.getD 0
    requestTimeoutSecs := endpoint.requestTimeoutSecs.getD llm.requestTimeoutSecs
    healthProbeTimeoutSecs := max (endpoint.healthProbeTimeoutSecs.getD llm.healthProbeTimeoutSecs) 1
    retryIntervalSecs := max (endpoint.retryIntervalSecs.getD llm.retryIntervalSecs) 1
    maxConcurrent := max (endpoint.maxConcurrent.getD llm.maxConcurrent) 1 }

def resolveEndpoints (index : Nat) (seen : List String) :
    List LlmEndpointConfig → Except ConfigError (List EffectiveLlmEndpoint)
  | [] => .ok []
  | endpoint :: endpoints => do
    let id ← normalizeLlmEndpointId endpoint.id index
    if id ∈ seen then .error (.validation s!"llm.endpoints id `{id}` must be unique")
    else
      let effective ← llm.resolveEndpoint platform index id endpoint
      let rest ← resolveEndpoints (index + 1) (id :: seen) endpoints
      .ok (effective :: rest)

def effectiveEndpoints : Except ConfigError (List EffectiveLlmEndpoint) := do
  llm.validateEndpointPool
  if llm.endpoints = [] then (llm.legacyEffectiveEndpoint platform).map Option.toList
  else llm.resolveEndpoints platform 0 [] llm.endpoints

end LlmConfig

/-! The identity of an endpoint is read off four settings; an endpoint of a pool overlays its own on the legacy ones.
-/

structure VectorSource where
  backend : String
  baseUrl : Option String
  model : Option String
  dim : Nat

namespace VectorSource

def UsableBaseUrl (platform : Platform) (baseUrl : Option String) : Prop :=
  ∃ url, trimmed baseUrl = some url ∧
    ∃ parsed, platform.parseUrl (trimEndSlashes url) = .ok parsed ∧ parsed.scheme ≠ "" ∧ parsed.host ≠ none ∧
      parsed.username = "" ∧ parsed.password = none ∧ parsed.query = none ∧ parsed.fragment = none

def HasIdentity (platform : Platform) (source : VectorSource) (identity : EmbedVectorIdentity) : Prop :=
  isHttpBackend (Text.trim source.backend) = true ∧ UsableBaseUrl platform source.baseUrl ∧
    trimmed source.model = some identity.model ∧ source.dim = identity.dimensions ∧
      identity.backend = "openai_compat"

def overlay (source : VectorSource) (endpoint : EmbedEndpointConfig) : VectorSource :=
  ⟨endpoint.backend.getD source.backend, endpoint.baseUrl.or source.baseUrl, endpoint.model.or source.model,
    endpoint.dim.getD source.dim⟩

end VectorSource

def EmbedConfig.source (embed : EmbedConfig) : VectorSource :=
  ⟨embed.backend, embed.resolvedOpenaiBaseUrl, embed.resolvedOpenaiModel, embed.resolvedOpenaiDim⟩

variable {field normalized : String} {endpoint : EmbedEndpointConfig} {index : Nat} {seen : List String}
  {endpoints : List EmbedEndpointConfig} {effectives : List EffectiveEmbedEndpoint}

theorem normalizeEmbedEndpointBackend_eq_ok_iff {platform : Platform} {backend : String} :
    normalizeEmbedEndpointBackend platform backend field = .ok normalized ↔
      isHttpBackend (Text.trim backend) = true ∧ normalized = "openai_compat" := by
  unfold normalizeEmbedEndpointBackend
  by_cases hBlank : Text.trim backend = ""
  · have hHttp : isHttpBackend "" = false := by decide
    simp [hBlank, hHttp]
  · cases hHttp : isHttpBackend (Text.trim backend) <;> simp [hBlank, hHttp, eq_comm]

theorem validateBaseUrl_eq_ok_iff (platform : Platform) (baseUrl field hint : String) :
    validateBaseUrl platform baseUrl field hint = .ok () ↔
      ∃ parsed, platform.parseUrl baseUrl = .ok parsed ∧ parsed.scheme ≠ "" ∧ parsed.host ≠ none ∧
        parsed.username = "" ∧ parsed.password = none ∧ parsed.query = none ∧ parsed.fragment = none := by
  unfold validateBaseUrl
  cases platform.parseUrl baseUrl with
  | error error => simp
  | ok url =>
    simp only [Except.ok.injEq, exists_eq_left']
    split_ifs <;> grind

theorem exists_normalizeBaseUrl_eq_ok_iff {platform : Platform} {baseUrl : Option String} {missing : ConfigError} :
    (∃ url, normalizeBaseUrl platform baseUrl missing field = .ok url) ↔
      VectorSource.UsableBaseUrl platform baseUrl := by
  unfold normalizeBaseUrl VectorSource.UsableBaseUrl
  cases trimmed baseUrl with
  | none => simp
  | some url =>
    simp only [Option.some.injEq, exists_eq_left', ← validateBaseUrl_eq_ok_iff platform _ field "api_key_env"]
    cases validateBaseUrl platform (trimEndSlashes url) field "api_key_env" <;> simp

theorem normalizeRequiredModel_eq_ok_iff {model : Option String} :
    normalizeRequiredModel model field = .ok normalized ↔ trimmed model = some normalized := by
  unfold normalizeRequiredModel
  cases trimmed model <;> simp

theorem nonBlank_eq_isSome (text : Option String) : nonBlank text = (trimmed text).isSome := by
  cases text with
  | none => rfl
  | some value =>
    by_cases hBlank : Text.trim value = "" <;> simp [nonBlank, trimmed, hBlank]

namespace EmbedConfig

variable {platform : Platform} {embed : EmbedConfig} {identity : EmbedVectorIdentity}

theorem exists_legacyEffectiveEndpoint_iff :
    (∃ effective, embed.legacyEffectiveEndpoint platform = .ok (some effective) ∧
        effective.vectorIdentity = identity) ↔ embed.source.HasIdentity platform identity := by
  constructor
  · rintro ⟨effective, hOk, rfl⟩
    obtain ⟨backend, hBackend, hOk⟩ := bind_eq_ok_iff.mp hOk
    obtain ⟨hHttp, rfl⟩ := normalizeEmbedEndpointBackend_eq_ok_iff.mp hBackend
    split_ifs at hOk
    · cases hOk
    · cases hOk
    · obtain ⟨baseUrl, hBaseUrl, hOk⟩ := bind_eq_ok_iff.mp hOk
      obtain ⟨model, hModel, hOk⟩ := bind_eq_ok_iff.mp hOk
      cases hOk
      exact ⟨hHttp, exists_normalizeBaseUrl_eq_ok_iff.mp ⟨baseUrl, hBaseUrl⟩,
        normalizeRequiredModel_eq_ok_iff.mp hModel, rfl, rfl⟩
  · rintro ⟨hHttp, hBaseUrl, hModel, hDim, hBackend⟩
    obtain ⟨baseUrl, hBaseUrl⟩ := exists_normalizeBaseUrl_eq_ok_iff.mpr hBaseUrl
    have hFilled : nonBlank embed.resolvedOpenaiModel = true := by
      rw [nonBlank_eq_isSome]
      exact Option.isSome_of_eq_some hModel
    refine ⟨embed.legacyEndpoint "openai_compat" baseUrl identity.model,
      bind_eq_ok_iff.mpr ⟨_, normalizeEmbedEndpointBackend_eq_ok_iff.mpr ⟨hHttp, rfl⟩, ?_⟩, ?_⟩
    · have hHttp : isHttpBackend "openai_compat" = true := by decide
      simp only [hHttp, hFilled, Bool.not_true, Bool.and_false, Bool.false_eq_true, if_false]
      exact bind_eq_ok_iff.mpr ⟨_, hBaseUrl, bind_eq_ok_iff.mpr ⟨_, normalizeRequiredModel_eq_ok_iff.mpr hModel, rfl⟩⟩
    · cases identity
      simp only [EffectiveEmbedEndpoint.vectorIdentity, EmbedVectorIdentity.mk.injEq]
      exact ⟨hBackend.symm, rfl, hDim⟩

theorem exists_resolveEndpoint_iff (index : Nat) (id : String) :
    (∃ effective, embed.resolveEndpoint platform index id endpoint = .ok effective ∧
        effective.vectorIdentity = identity) ↔ (embed.source.overlay endpoint).HasIdentity platform identity := by
  have hDims : (endpoint.dim.or embed.openaiCompat.dim).getD defaultOpenaiDim =
      endpoint.dim.getD embed.resolvedOpenaiDim := by
    cases endpoint.dim <;> rfl
  constructor
  · rintro ⟨effective, hOk, rfl⟩
    obtain ⟨backend, hBackend, hOk⟩ := bind_eq_ok_iff.mp hOk
    obtain ⟨hHttp, rfl⟩ := normalizeEmbedEndpointBackend_eq_ok_iff.mp hBackend
    obtain ⟨baseUrl, hBaseUrl, hOk⟩ := bind_eq_ok_iff.mp hOk
    obtain ⟨model, hModel, hOk⟩ := bind_eq_ok_iff.mp hOk
    cases hOk
    exact ⟨hHttp, exists_normalizeBaseUrl_eq_ok_iff.mp ⟨baseUrl, hBaseUrl⟩,
      normalizeRequiredModel_eq_ok_iff.mp hModel, hDims.symm, rfl⟩
  · rintro ⟨hHttp, hBaseUrl, hModel, hDim, hBackend⟩
    obtain ⟨baseUrl, hBaseUrl⟩ := exists_normalizeBaseUrl_eq_ok_iff.mpr hBaseUrl
    refine ⟨embed.effectiveEndpoint id "openai_compat" baseUrl identity.model endpoint,
      bind_eq_ok_iff.mpr ⟨_, normalizeEmbedEndpointBackend_eq_ok_iff.mpr ⟨hHttp, rfl⟩, bind_eq_ok_iff.mpr
        ⟨_, hBaseUrl, bind_eq_ok_iff.mpr ⟨_, normalizeRequiredModel_eq_ok_iff.mpr hModel, rfl⟩⟩⟩, ?_⟩
    cases identity
    simp only [EffectiveEmbedEndpoint.vectorIdentity, EmbedVectorIdentity.mk.injEq]
    exact ⟨hBackend.symm, rfl, hDims.trans hDim⟩

def IdsAccepted : Nat → List String → List EmbedEndpointConfig → Prop
  | _, _, [] => True
  | index, seen, endpoint :: endpoints =>
    ∃ id, normalizeEmbedEndpointId endpoint.id index = .ok id ∧ id ∉ seen ∧
      IdsAccepted (index + 1) (id :: seen) endpoints

theorem resolveEndpoints_cons_eq_ok_iff :
    embed.resolveEndpoints platform index seen (endpoint :: endpoints) = .ok effectives ↔
      ∃ id, normalizeEmbedEndpointId endpoint.id index = .ok id ∧ id ∉ seen ∧
        ∃ effective, embed.resolveEndpoint platform index id endpoint = .ok effective ∧
          ∃ rest, embed.resolveEndpoints platform (index + 1) (id :: seen) endpoints = .ok rest ∧
            effective :: rest = effectives := by
  rw [resolveEndpoints, bind_eq_ok_iff]
  refine exists_congr fun id => and_congr_right fun _ => ?_
  split_ifs with hSeen
  · simp [hSeen]
  · simp only [hSeen, not_false_eq_true, true_and, bind_eq_ok_iff, Except.ok.injEq]

theorem exists_resolveEndpoints_iff :
    (∃ effectives, embed.resolveEndpoints platform index seen endpoints = .ok effectives ∧
        ∀ effective ∈ effectives, effective.vectorIdentity = identity) ↔
      IdsAccepted index seen endpoints ∧
        ∀ endpoint ∈ endpoints, (embed.source.overlay endpoint).HasIdentity platform identity := by
  induction endpoints generalizing index seen with
  | nil => simp [resolveEndpoints, IdsAccepted]
  | cons endpoint endpoints ih =>
    constructor
    · rintro ⟨effectives, hOk, hAll⟩
      obtain ⟨id, hId, hNew, effective, hEffective, rest, hRest, rfl⟩ := resolveEndpoints_cons_eq_ok_iff.mp hOk
      obtain ⟨hHead, hTail⟩ := List.forall_mem_cons.mp hAll
      obtain ⟨hIds, hIdentity⟩ := ih.mp ⟨rest, hRest, hTail⟩
      exact ⟨⟨id, hId, hNew, hIds⟩,
        List.forall_mem_cons.mpr ⟨(exists_resolveEndpoint_iff index id).mp ⟨effective, hEffective, hHead⟩, hIdentity⟩⟩
    · rintro ⟨⟨id, hId, hNew, hIds⟩, hAll⟩
      obtain ⟨hHead, hTail⟩ := List.forall_mem_cons.mp hAll
      obtain ⟨effective, hEffective, hHead⟩ := (exists_resolveEndpoint_iff index id).mpr hHead
      obtain ⟨rest, hRest, hTail⟩ := ih.mpr ⟨hIds, hTail⟩
      exact ⟨_, resolveEndpoints_cons_eq_ok_iff.mpr ⟨id, hId, hNew, effective, hEffective, rest, hRest, rfl⟩,
        List.forall_mem_cons.mpr ⟨hHead, hTail⟩⟩

theorem resolveEndpoints_ne_nil (hPool : endpoints ≠ [])
    (h : embed.resolveEndpoints platform index seen endpoints = .ok effectives) : effectives ≠ [] := by
  cases endpoints with
  | nil => exact absurd rfl hPool
  | cons endpoint endpoints =>
    obtain ⟨_, _, _, effective, _, rest, _, rfl⟩ := resolveEndpoints_cons_eq_ok_iff.mp h
    exact List.cons_ne_nil _ _

theorem shares_identity_iff :
    (validateEmbedEndpointVectorIdentity effectives = .ok () ∧
        effectives.head?.map EffectiveEmbedEndpoint.vectorIdentity = some identity) ↔
      effectives ≠ [] ∧ ∀ effective ∈ effectives, effective.vectorIdentity = identity := by
  cases effectives with
  | nil => simp
  | cons first rest =>
    simp only [validateEmbedEndpointVectorIdentity, List.head?_cons, Option.map_some, Option.some.injEq, ne_eq,
      reduceCtorEq, not_false_eq_true, true_and, List.forall_mem_cons]
    constructor
    · rintro ⟨hOk, rfl⟩
      split_ifs at hOk with hAny
      refine ⟨rfl, fun effective hMem => ?_⟩
      by_contra hOther
      exact hAny (List.any_eq_true.mpr ⟨effective, hMem, decide_eq_true hOther⟩)
    · rintro ⟨rfl, hRest⟩
      refine ⟨if_neg fun hAny => ?_, rfl⟩
      obtain ⟨effective, hMem, hOther⟩ := List.any_eq_true.mp hAny
      exact of_decide_eq_true hOther (hRest effective hMem)

theorem endpointVectorIdentity_eq_some_iff_exists :
    embed.endpointVectorIdentity platform = some identity ↔
      ∃ effectives, embed.effectiveEndpointsWithoutValidation platform = .ok effectives ∧ effectives ≠ [] ∧
        ∀ effective ∈ effectives, effective.vectorIdentity = identity := by
  simp only [← shares_identity_iff, endpointVectorIdentity, effectiveEndpoints]
  cases embed.effectiveEndpointsWithoutValidation platform with
  | error error => simp [bind, Except.bind]
  | ok effectives =>
    simp only [Except.ok.injEq, exists_eq_left']
    cases hShared : validateEmbedEndpointVectorIdentity effectives <;> simp [bind, Except.bind, hShared]

theorem endpointVectorIdentity_of_nil (hNil : embed.endpoints = []) :
    embed.endpointVectorIdentity platform = some identity ↔ embed.source.HasIdentity platform identity := by
  rw [endpointVectorIdentity_eq_some_iff_exists, ← exists_legacyEffectiveEndpoint_iff]
  simp only [effectiveEndpointsWithoutValidation, hNil, if_true, map_eq_ok_iff]
  constructor
  · rintro ⟨_, ⟨legacy, hLegacy, rfl⟩, hSome, hAll⟩
    cases legacy with
    | none => exact absurd rfl hSome
    | some effective => exact ⟨effective, hLegacy, hAll effective (List.mem_singleton_self _)⟩
  · rintro ⟨effective, hLegacy, hIdentity⟩
    refine ⟨[effective], ⟨_, hLegacy, rfl⟩, List.cons_ne_nil _ _, fun other hMem => ?_⟩
    rw [List.mem_singleton.mp hMem]
    exact hIdentity

theorem endpointVectorIdentity_of_ne_nil (hPool : embed.endpoints ≠ []) :
    embed.endpointVectorIdentity platform = some identity ↔
      IdsAccepted 0 [] embed.endpoints ∧
        ∀ endpoint ∈ embed.endpoints, (embed.source.overlay endpoint).HasIdentity platform identity := by
  rw [endpointVectorIdentity_eq_some_iff_exists, ← exists_resolveEndpoints_iff]
  simp only [effectiveEndpointsWithoutValidation, if_neg hPool]
  constructor
  · rintro ⟨effectives, hOk, _, hAll⟩
    exact ⟨effectives, hOk, hAll⟩
  · rintro ⟨effectives, hOk, hAll⟩
    exact ⟨effectives, hOk, resolveEndpoints_ne_nil hPool hOk, hAll⟩

def pool (embed : EmbedConfig) : List EmbedEndpointConfig :=
  if embed.endpoints = [] then [⟨none, none, none, none, none, none, none, none, none, none, none⟩]
  else embed.endpoints

theorem endpointVectorIdentity_eq_some_iff :
    embed.endpointVectorIdentity platform = some identity ↔
      IdsAccepted 0 [] embed.endpoints ∧
        ∀ endpoint ∈ embed.pool, (embed.source.overlay endpoint).HasIdentity platform identity := by
  by_cases hPool : embed.endpoints = []
  · rw [endpointVectorIdentity_of_nil hPool, pool, if_pos hPool, hPool, List.forall_mem_singleton]
    exact ⟨fun h => ⟨trivial, h⟩, And.right⟩
  · rw [endpointVectorIdentity_of_ne_nil hPool, pool, if_neg hPool]

theorem validateEndpointPool_iff (hPool : embed.endpoints ≠ []) :
    embed.validateEndpointPool platform = .ok () ↔ ∃ identity, embed.endpointVectorIdentity platform = some identity := by
  simp only [endpointVectorIdentity_eq_some_iff_exists, ← shares_identity_iff, validateEndpointPool, if_neg hPool,
    bind_eq_ok_iff]
  constructor
  · rintro ⟨effectives, hOk, hShared⟩
    have hSome : effectives ≠ [] := by
      simp only [effectiveEndpointsWithoutValidation, if_neg hPool] at hOk
      exact resolveEndpoints_ne_nil hPool hOk
    obtain ⟨first, rest, rfl⟩ := List.exists_cons_of_ne_nil hSome
    exact ⟨first.vectorIdentity, _, hOk, hShared, rfl⟩
  · rintro ⟨identity, effectives, hOk, hShared, _⟩
    exact ⟨effectives, hOk, hShared⟩

end EmbedConfig

end Mempal.Settings
