import Mathlib.Tactic.Common
import Muldex.Orchestrator

/-!
# Model routing

A router advertises models and selects one per request. Two things are asked of any
router, per request : the models it names are among the ones it advertises (`IntegralAt`),
and an advertised model it selects supports the intent (`SoundAt`).

`DeterministicOrchestrator` advertises one text model, and its selection reads the input
modalities alone. It keeps the first law on text-only requests (`integralAt_iff`) and the
second where nothing else is asked than the text model offers (`soundAt_iff`). Both fail
where no advertised model would do (`servesAt_iff_exists`).
-/

namespace Muldex

/-- The model supports all the intent requires. -/
structure Supports (model : ModelCapabilityDescriptor) (intent : ModelSelectionIntent) : Prop where
  input : ∀ modality ∈ intent.requiredInputModalities, modality ∈ model.inputModalities
  output : ∀ modality ∈ intent.requiredOutputModalities, modality ∈ model.outputModalities
  toolUse : intent.requiresToolUse = true → model.supportsToolUse = true
  reasoning : ∀ mode ∈ intent.reasoningMode, mode ∈ model.reasoningModes
  structuredOutput : ∀ mode ∈ intent.structuredOutputMode, mode ∈ model.structuredOutputModes
  execution : ∀ mode ∈ intent.executionMode, mode ∈ model.executionModes

namespace ModelRouter

variable (router : ModelRouter)

/-- The router lists the model. -/
def Advertises (model : ModelCapabilityDescriptor) : Prop :=
  ∃ models, router.listCapabilities = .ok models ∧ model ∈ models

/-- The router lists a model under this id and provider. -/
def AdvertisesPair (modelId providerId : String) : Prop :=
  ∃ model, router.Advertises model ∧ model.modelId = modelId ∧ model.providerId = providerId

/-- The router lists a model under this id. -/
def AdvertisesId (modelId : String) : Prop :=
  ∃ model, router.Advertises model ∧ model.modelId = modelId

/-- What the router selects and falls back to it advertises. -/
def IntegralAt (request : ModelSelectionRequest) : Prop :=
  ∀ decision, router.selectModel request = .ok decision →
    router.AdvertisesPair decision.selectedModelId decision.selectedProviderId ∧
      ∀ modelId ∈ decision.fallbackModelId, router.AdvertisesId modelId

/-- The advertised models under the selected id and provider support the intent. -/
def SoundAt (request : ModelSelectionRequest) : Prop :=
  ∀ decision model, router.selectModel request = .ok decision → router.Advertises model →
    model.modelId = decision.selectedModelId → model.providerId = decision.selectedProviderId →
    Supports model request.intent

/-- The router selects an advertised model that supports the intent. -/
def ServesAt (request : ModelSelectionRequest) : Prop :=
  ∃ decision model, router.selectModel request = .ok decision ∧ router.Advertises model ∧
    model.modelId = decision.selectedModelId ∧ model.providerId = decision.selectedProviderId ∧
    Supports model request.intent

end ModelRouter

namespace DeterministicOrchestrator

/-- The text model. -/
def defaultText : ModelCapabilityDescriptor where
  modelId := "default-text"
  providerId := "default"
  inputModalities := [.text]
  outputModalities := [.text, .structuredJson, .toolCall]
  maxContextWindow := some 128000
  supportsToolUse := true
  supportsParallelToolUse := true
  supportsLongContext := true
  supportsStreaming := true
  supportsAudioInput := false
  supportsImageInput := false
  supportsVideoContext := false
  supportsHyperframes := false
  reasoningModes := [.low, .medium]
  structuredOutputModes := [.freeform, .jsonSchema]
  executionModes := [.interactive, .streaming]
  supportsCitations := false
  supportsPromptCaching := false

/-- The models advertised. -/
def listCapabilities : Except OrchestratorError (List ModelCapabilityDescriptor) :=
  .ok [defaultText]

/-- Whether some required input is not text. -/
def needsMultimodal (request : ModelSelectionRequest) : Bool :=
  request.intent.requiredInputModalities.any fun modality => modality ≠ .text

/-- The selection : by the input modalities. -/
def selectModel (request : ModelSelectionRequest) :
    Except OrchestratorError ModelSelectionDecision :=
  .ok <|
    if needsMultimodal request then {
      selectedModelId := "multimodal-default"
      selectedProviderId := "default"
      rationale := "non-text modality requested"
      fallbackModelId := some "default-text" }
    else {
      selectedModelId := "default-text"
      selectedProviderId := "default"
      rationale := "text-only request"
      fallbackModelId := none }

/-- `DeterministicOrchestrator` as a router. -/
def router : ModelRouter where
  listCapabilities := listCapabilities
  selectModel := selectModel

/-! ## What is advertised -/

theorem advertises_iff (model : ModelCapabilityDescriptor) :
    router.Advertises model ↔ model = defaultText := by
  simp [ModelRouter.Advertises, router, listCapabilities]

theorem advertisesPair_iff (modelId providerId : String) :
    router.AdvertisesPair modelId providerId ↔
      modelId = "default-text" ∧ providerId = "default" := by
  simp [ModelRouter.AdvertisesPair, advertises_iff, defaultText, eq_comm]

theorem advertisesId_iff (modelId : String) :
    router.AdvertisesId modelId ↔ modelId = "default-text" := by
  simp [ModelRouter.AdvertisesId, advertises_iff, defaultText, eq_comm]

theorem needsMultimodal_iff (request : ModelSelectionRequest) :
    needsMultimodal request = true ↔
      ∃ modality ∈ request.intent.requiredInputModalities, modality ≠ .text := by
  simp [needsMultimodal]

theorem needsMultimodal_eq_false_iff (request : ModelSelectionRequest) :
    needsMultimodal request = false ↔
      ∀ modality ∈ request.intent.requiredInputModalities, modality = .text := by
  simp [needsMultimodal]

/-! ## What is selected -/

/-- The pair selected is advertised on text-only requests. -/
theorem advertisesPair_selected_iff {request : ModelSelectionRequest}
    {decision : ModelSelectionDecision} (hd : router.selectModel request = .ok decision) :
    router.AdvertisesPair decision.selectedModelId decision.selectedProviderId ↔
      needsMultimodal request = false := by
  obtain rfl := Except.ok.inj hd
  rw [advertisesPair_iff]
  split_ifs with h <;> simp [h]

/-- The fallback is advertised on every request. -/
theorem advertisesId_fallback {request : ModelSelectionRequest}
    {decision : ModelSelectionDecision} (hd : router.selectModel request = .ok decision)
    {modelId : String} (hid : modelId ∈ decision.fallbackModelId) :
    router.AdvertisesId modelId := by
  obtain rfl := Except.ok.inj hd
  rw [advertisesId_iff]
  split_ifs at hid with h
  · exact (Option.mem_some.mp hid).symm
  · simp at hid

/-- The names the router gives are advertised exactly on the requests whose inputs are
all text. -/
theorem integralAt_iff (request : ModelSelectionRequest) :
    router.IntegralAt request ↔
      ∀ modality ∈ request.intent.requiredInputModalities, modality = .text := by
  rw [← needsMultimodal_eq_false_iff]
  constructor
  · intro h
    exact (advertisesPair_selected_iff rfl).mp (h _ rfl).1
  · intro h decision hd
    exact ⟨(advertisesPair_selected_iff hd).mpr h, fun _ => advertisesId_fallback hd⟩

/-- A request with these required inputs and outputs. -/
def requestFor (input : List InputModality) (output : List OutputModality) :
    ModelSelectionRequest where
  threadId := "thread-1"
  turnId := "turn-1"
  intent := {
    requiredInputModalities := input
    requiredOutputModalities := output
    preferLongContext := true
    preferLowLatency := false
    preferLowCost := false
    requiresToolUse := true
    taskLabel := none
    reasoningMode := none
    structuredOutputMode := none
    executionMode := none }
  contextPressure := default
  mediaAssets := []

/-- A request with an image is sent to a model nobody advertises. -/
theorem not_forall_integralAt : ¬∀ request, router.IntegralAt request := by
  intro h
  have hpair := (h (requestFor [.text, .image] [.text]) _ rfl).1
  exact absurd ((advertisesPair_iff _ _).mp hpair).1 (by decide)

/-! ## What is supported -/

/-- The outputs and modes asked are those of the text model. -/
structure WithinText (intent : ModelSelectionIntent) : Prop where
  output : ∀ modality ∈ intent.requiredOutputModalities,
    modality = .text ∨ modality = .structuredJson ∨ modality = .toolCall
  reasoning : ∀ mode ∈ intent.reasoningMode, mode = .low ∨ mode = .medium
  structuredOutput : ∀ mode ∈ intent.structuredOutputMode, mode = .freeform ∨ mode = .jsonSchema
  execution : ∀ mode ∈ intent.executionMode, mode = .interactive ∨ mode = .streaming

theorem supports_defaultText_iff (intent : ModelSelectionIntent) :
    Supports defaultText intent ↔
      (∀ modality ∈ intent.requiredInputModalities, modality = .text) ∧ WithinText intent := by
  constructor
  · rintro ⟨hinput, houtput, -, hreasoning, hstructured, hexecution⟩
    simp only [defaultText, List.mem_cons, List.not_mem_nil, or_false] at *
    exact ⟨hinput, houtput, hreasoning, hstructured, hexecution⟩
  · rintro ⟨hinput, houtput, hreasoning, hstructured, hexecution⟩
    refine ⟨?_, ?_, fun _ => rfl, ?_, ?_, ?_⟩ <;>
      simpa only [defaultText, List.mem_cons, List.not_mem_nil, or_false]

/-- The selection is sound exactly on the requests with an input that is not text, where
nothing advertised is selected, and on those within the text model. -/
theorem soundAt_iff (request : ModelSelectionRequest) :
    router.SoundAt request ↔
      (∃ modality ∈ request.intent.requiredInputModalities, modality ≠ .text) ∨
        WithinText request.intent := by
  rw [← needsMultimodal_iff]
  constructor
  · intro h
    rcases Bool.eq_false_or_eq_true (needsMultimodal request) with hmulti | htext
    · exact Or.inl hmulti
    · have hd : router.selectModel request = .ok _ := rfl
      obtain ⟨model, hmodel, hid, hprovider⟩ := (advertisesPair_selected_iff hd).mpr htext
      have hsupports := h _ model hd hmodel hid hprovider
      rw [(advertises_iff model).mp hmodel, supports_defaultText_iff] at hsupports
      exact Or.inr hsupports.2
  · intro h decision model hd hmodel hid hprovider
    have htext := (advertisesPair_selected_iff hd).mp ⟨model, hmodel, hid, hprovider⟩
    rw [(advertises_iff model).mp hmodel, supports_defaultText_iff]
    exact ⟨(needsMultimodal_eq_false_iff request).mp htext, h.resolve_left (by simp [htext])⟩

/-- A request for media output is sent to the text model. -/
theorem not_forall_soundAt : ¬∀ request, router.SoundAt request := by
  intro h
  have hsupports := h (requestFor [.text] [.media]) _ defaultText rfl
    ((advertises_iff defaultText).mpr rfl) rfl rfl
  exact absurd (hsupports.output .media (by decide)) (by decide)

/-! ## What is missed -/

/-- A request is served if the text model supports its intent. -/
theorem servesAt_iff_supports (request : ModelSelectionRequest) :
    router.ServesAt request ↔ Supports defaultText request.intent := by
  constructor
  · rintro ⟨decision, model, -, hmodel, -, -, hsupports⟩
    rwa [(advertises_iff model).mp hmodel] at hsupports
  · intro hsupports
    have htext := (needsMultimodal_eq_false_iff request).mpr
      ((supports_defaultText_iff request.intent).mp hsupports).1
    obtain ⟨model, hmodel, hid, hprovider⟩ := (advertisesPair_selected_iff rfl).mpr htext
    rw [← (advertises_iff model).mp hmodel] at hsupports
    exact ⟨_, model, rfl, hmodel, hid, hprovider, hsupports⟩

/-- The selection misses nothing. It serves a request exactly if any router that advertises
the same models does, and that is on the text-only requests within the text model. What goes
wrong elsewhere no other selection could put right. -/
theorem servesAt_iff_exists (request : ModelSelectionRequest) :
    (router.ServesAt request ↔
      (∀ modality ∈ request.intent.requiredInputModalities, modality = .text) ∧
        WithinText request.intent) ∧
    (router.ServesAt request ↔
      ∃ other : ModelRouter, other.listCapabilities = router.listCapabilities ∧
        other.ServesAt request) := by
  refine ⟨(servesAt_iff_supports request).trans (supports_defaultText_iff request.intent), ?_⟩
  constructor
  · intro hserves
    exact ⟨router, rfl, hserves⟩
  · rintro ⟨other, hlist, decision, model, -, ⟨models, hmodels, hmem⟩, -, -, hsupports⟩
    rw [hlist] at hmodels
    rw [servesAt_iff_supports, ← (advertises_iff model).mp ⟨models, hmodels, hmem⟩]
    exact hsupports

end DeterministicOrchestrator

end Muldex
