import Omnivox.Engines.ChoiceTuning
import Omnivox.Parameters.Planning

/-!
# Prepared choices

The style of the choice that was realized is composed afresh, and its native patch is
qualified against a snapshot of the catalogues that one connection knows. Qualification reads
the engine, the catalogue of the realized voice and every operation of the patch; it agrees
with the one that admits a definition (`qualify_projected`).

Tuning follows the choice that was realized (`tuning_follows_choice`): the common style is that
of the first choice whose selector is realized, and native parameters are given only for its
patch on the realized engine.
-/

set_option autoImplicit false

namespace Omnivox.Parameters

open Foundations
open Engines (Adjustment ChoiceTuningError ComposedVoiceStyle EngineDescriptor
  EngineLayeredVoiceDefinition EngineSelectionPermissions EngineVoiceChoice FallbackPolicy
  LayeredVoiceDefinition NativeChoiceError NativePatch NativeSupport NativeValue ParameterError
  PhysicalVoiceId ResolvedThrough VoiceChoice VoiceResolution VoiceSelector VoiceStylePatch
  evaluateSelector resolveVoiceWithPermissions)

/-! ## Qualification -/

/-- The descriptor that qualification reads. -/
def ParameterDescriptor.qualified (descriptor : ParameterDescriptor) :
    Engines.ParameterDescriptor where
  id := descriptor.id
  valueType := descriptor.valueType
  scope := descriptor.scope
  adjustable := descriptor.adjustable
  availability := descriptor.availability.status

/-- The catalogue that qualification reads. -/
def ParameterCatalogue.qualified (catalogue : ParameterCatalogue) : Engines.ParameterCatalogue where
  engineId := catalogue.engineId
  schemaId := catalogue.identity.schemaId
  voiceId := catalogue.voiceId
  parameters := catalogue.parameters.map ParameterDescriptor.qualified

/-- Immutable metadata for one connection and runtime observation. -/
structure NativeCatalogueSnapshot where
  inventory : List EngineDescriptor
  ready : String → Option String → Option ParameterCatalogue
  unavailable : String → Option NativeSupport

namespace NativeCatalogueSnapshot

def catalogue (snapshot : NativeCatalogueSnapshot) (engine : String) (voice : Option String) :
    Option ParameterCatalogue :=
  (snapshot.ready engine voice).or (snapshot.ready engine none)

/-- What qualification answers. -/
structure Qualified where
  status : NativeSupport
  reason : Option String
  catalogue : Option ParameterCatalogue
  deriving Repr, DecidableEq

/-- The status of the operations of a patch, whose voice may be missing. -/
def qualifyOperations (catalogue : ParameterCatalogue) (missing : Bool) (patch : NativePatch) :
    Except NativeChoiceError Qualified := do
  let status ← patch.parameters.foldlM
    (Engines.NativeCatalogueSnapshot.qualifyOperation catalogue.qualified) .supported
  let status := if missing then .unavailable else status
  return {
    status := status
    reason := if status == .supported then none
      else some "Native block is not currently applicable"
    catalogue := some catalogue }

def qualify (snapshot : NativeCatalogueSnapshot) (patch : NativePatch) (selector : VoiceSelector) :
    Except NativeChoiceError Qualified :=
  let voice := Engines.NativeCatalogueSnapshot.selectedVoice selector
  let found := (snapshot.inventory.find? fun engine => engine.id == patch.engineId).filter
    EngineDescriptor.canSynthesize
  match found with
  | none => .ok ⟨.unavailable, some "Engine is unavailable", none⟩
  | some engine =>
      match snapshot.catalogue patch.engineId voice with
      | none =>
          .ok ⟨(snapshot.unavailable patch.engineId).getD .deferred,
            some "No current native catalogue is available", none⟩
      | some catalogue =>
          if catalogue.identity.schemaId ≠ patch.schemaId then
            .ok ⟨.unavailable, some "Native schema is not supported by this runtime", none⟩
          else
            qualifyOperations catalogue
              (Engines.NativeCatalogueSnapshot.missesVoice engine voice) patch

end NativeCatalogueSnapshot

/-! ## Preparation -/

inductive UnavailablePolicy where
  | require
  | commonOnly
  deriving Repr, DecidableEq

structure VoiceParameters where
  native : NativePatch
  contextDimensions : List CommonInput
  expectedIdentity : CatalogueIdentity
  unavailablePolicy : UnavailablePolicy
  deriving Repr, DecidableEq

/-- A prepared native block never claims application or acceptance of its audio. -/
inductive NativeChoiceExecution where
  | notRequested
  | parameters (parameters : VoiceParameters)
  | commonOnly (reason : String)
  deriving Repr, DecidableEq

structure PreparedEngineVoiceStyle where
  common : ComposedVoiceStyle
  native : NativeChoiceExecution
  deriving Repr, DecidableEq

/-- Why a choice is not prepared. -/
inductive PreparationError where
  | choice (error : NativeChoiceError)
  | unavailable (reason : String)
  deriving Repr, DecidableEq

/-- The reason that a block which is not applied is given. -/
def unappliedReason : Except NativeChoiceError NativeCatalogueSnapshot.Qualified → String
  | .ok qualified => qualified.reason.getD "Native catalogue is unavailable"
  | .error _ => "Saved native block is invalid for this runtime"

/-- The catalogue under which a block is supported. -/
def supportedCatalogue :
    Except NativeChoiceError NativeCatalogueSnapshot.Qualified → Option ParameterCatalogue
  | .ok ⟨.supported, _, some catalogue⟩ => some catalogue
  | _ => none

/-- What becomes of the native patch of the choice, once it is qualified. -/
def nativeExecution (patch : NativePatch) (context : VoiceStylePatch) (policy : UnavailablePolicy)
    (qualified : Except NativeChoiceError NativeCatalogueSnapshot.Qualified) :
    Except PreparationError NativeChoiceExecution :=
  match supportedCatalogue qualified with
  | some catalogue => do
      let dimensions ← (contextualInputs context).mapError fun error => .choice (.native error)
      return .parameters ⟨patch, dimensions, catalogue.identity, policy⟩
  | none =>
      if policy = .require then .error (.unavailable (unappliedReason qualified))
      else .ok (.commonOnly (unappliedReason qualified))

/-- Whether a selector can have been realized by a voice. -/
def realizes (selected : VoiceSelector) (realized : PhysicalVoiceId) : Bool :=
  selected.engineId = some realized.engineId &&
    match selected with
    | .exact id => id = realized
    | _ => true

/-- The native patch of a choice that may be absent, with its selector. An index that was
selected is one of a choice. -/
def nativeChoice (layered : EngineLayeredVoiceDefinition) (index : Option Nat) :
    Option (VoiceSelector × NativePatch) := do
  let index ← index
  let choice ← layered.choices[index]?
  let patch ← choice.native
  return (choice.selector, patch)

/-- Recompose the actual choice from the admitted definition and context. Policy fallback has
no choice patch. -/
def prepareChoice (nearest : ℚ → ℚ) (layered : EngineLayeredVoiceDefinition)
    (resolution : VoiceResolution) (context : VoiceStylePatch) (baseRate : ℚ)
    (placementPan : Option ℚ) (snapshot : NativeCatalogueSnapshot) (policy : UnavailablePolicy) :
    Except PreparationError PreparedEngineVoiceStyle := do
  layered.validate.mapError .choice
  let commonDefinition := layered.commonProjection
  let index ← (commonDefinition.selectedChoice resolution).mapError fun error =>
    .choice (.common error)
  let common ← (commonDefinition.compose nearest index context baseRate placementPan).mapError
    fun error => .choice (.common error)
  match nativeChoice layered index with
  | none => return ⟨common, .notRequested⟩
  | some (selected, patch) => do
      ensure (realizes selected resolution.realized) (.choice (.native .identityMismatch))
      let actual := VoiceSelector.exact resolution.realized
      let native ← nativeExecution patch context policy (snapshot.qualify patch actual)
      return ⟨common, native⟩

/-! ## Qualified patches -/

namespace NativeCatalogueSnapshot

/-- The snapshot by which a definition is admitted. -/
def projected (snapshot : NativeCatalogueSnapshot) : Engines.NativeCatalogueSnapshot where
  inventory := snapshot.inventory
  ready engine voice := (snapshot.ready engine voice).map ParameterCatalogue.qualified
  unavailable := snapshot.unavailable

theorem catalogue_projected (snapshot : NativeCatalogueSnapshot) (engine : String)
    (voice : Option String) : snapshot.projected.catalogue engine voice =
      (snapshot.catalogue engine voice).map ParameterCatalogue.qualified := by
  rw [Engines.NativeCatalogueSnapshot.catalogue, catalogue]
  dsimp only [projected]
  cases snapshot.ready engine voice <;> rfl

/-- **A patch is qualified as when its definition was admitted.** -/
theorem qualify_projected (snapshot : NativeCatalogueSnapshot) (patch : NativePatch)
    (selector : VoiceSelector) : snapshot.projected.qualify patch selector =
      (snapshot.qualify patch selector).map fun qualified =>
        (qualified.status, qualified.reason) := by
  unfold Engines.NativeCatalogueSnapshot.qualify qualify
  dsimp only
  rw [catalogue_projected]
  have found : snapshot.projected.inventory = snapshot.inventory := rfl
  have unknown : snapshot.projected.unavailable = snapshot.unavailable := rfl
  rw [found, unknown]
  cases (snapshot.inventory.find? fun engine => engine.id == patch.engineId).filter
      EngineDescriptor.canSynthesize with
  | none => rfl
  | some engine =>
      cases snapshot.catalogue patch.engineId
          (Engines.NativeCatalogueSnapshot.selectedVoice selector) with
      | none => rfl
      | some catalogue =>
          dsimp only [Option.map_some]
          have schema : catalogue.qualified.schemaId = catalogue.identity.schemaId := rfl
          rw [schema]
          split
          · rfl
          · rw [qualifyOperations]
            cases patch.parameters.foldlM
              (Engines.NativeCatalogueSnapshot.qualifyOperation catalogue.qualified) .supported <;>
              rfl

/-- A catalogue accepts an operation: it describes an adjustable supported parameter of the
voice, and a value that is set is one of it. -/
def Accepts (catalogue : ParameterCatalogue) (operation : String × Adjustment NativeValue) : Prop :=
  ∃ descriptor ∈ catalogue.parameters, descriptor.id = operation.1 ∧ descriptor.scope = .voice ∧
    descriptor.adjustable = true ∧ descriptor.availability.status = .supported ∧
    ∀ value, operation.2 = .set value → descriptor.valueType.accepts value = true

theorem qualifyOperation_supported {catalogue : ParameterCatalogue} {status : NativeSupport}
    {operation : String × Adjustment NativeValue}
    (supported : Engines.NativeCatalogueSnapshot.qualifyOperation catalogue.qualified status
      operation = .ok .supported) : status = .supported ∧ Accepts catalogue operation := by
  unfold Engines.NativeCatalogueSnapshot.qualifyOperation at supported
  obtain ⟨described, found, supported⟩ := bind_eq_ok.mp supported
  obtain ⟨_, adjustable, supported⟩ := bind_eq_ok.mp supported
  obtain ⟨_, accepted, supported⟩ := bind_eq_ok.mp supported
  rw [orError_eq_ok] at found
  have named := List.find?_some found
  obtain ⟨descriptor, member, rfl⟩ := List.mem_map.mp (List.mem_of_find?_eq_some found)
  rw [ensure_eq_ok, Bool.and_eq_true, beq_iff_eq, Bool.not_eq_true'] at adjustable
  obtain ⟨voice, adjusted⟩ := adjustable
  have available : descriptor.availability.status = .supported ∧ status = .supported := by
    have answered := Except.ok.inj supported
    dsimp only [ParameterDescriptor.qualified] at answered
    cases availability : descriptor.availability.status with
    | supported =>
        rw [availability] at answered
        exact ⟨rfl, answered⟩
    | notChecked =>
        rw [availability] at answered
        dsimp only at answered
        split at answered
        · cases answered
        · rename_i other
          rw [answered] at other
          exact absurd rfl other
    | runtimeUnsupported =>
        rw [availability] at answered
        cases answered
    | voiceUnavailable =>
        rw [availability] at answered
        cases answered
  refine ⟨available.2, descriptor, member, eq_of_beq named, voice, ?_, available.1, ?_⟩
  · dsimp only [ParameterDescriptor.qualified] at adjusted
    rw [available.1] at adjusted
    simpa using adjusted
  · intro value set
    rw [set] at accepted
    exact ensure_eq_ok.mp accepted

/-- A fold of qualifications that ends supported was supported throughout. -/
theorem qualifyOperations_supported {catalogue : ParameterCatalogue} {status : NativeSupport}
    {operations : List (String × Adjustment NativeValue)}
    (supported : operations.foldlM
      (Engines.NativeCatalogueSnapshot.qualifyOperation catalogue.qualified) status =
        .ok .supported) :
    status = .supported ∧ ∀ operation ∈ operations, Accepts catalogue operation := by
  induction operations generalizing status with
  | nil =>
      cases supported
      exact ⟨rfl, fun _ absent => absurd absent List.not_mem_nil⟩
  | cons operation rest ih =>
      obtain ⟨middle, first, further⟩ := foldlM_cons_eq_ok.mp supported
      obtain ⟨rfl, others⟩ := ih further
      obtain ⟨before, accepted⟩ := qualifyOperation_supported first
      exact ⟨before, List.forall_mem_cons.mpr ⟨accepted, others⟩⟩

/-- **A supported patch** is accepted by the catalogue that it is prepared under. -/
theorem qualify_supported {snapshot : NativeCatalogueSnapshot} {patch : NativePatch}
    {selector : VoiceSelector} {reason : Option String} {catalogue : ParameterCatalogue}
    (supported : snapshot.qualify patch selector = .ok ⟨.supported, reason, some catalogue⟩) :
    snapshot.catalogue patch.engineId
        (Engines.NativeCatalogueSnapshot.selectedVoice selector) = some catalogue ∧
      catalogue.identity.schemaId = patch.schemaId ∧
      ∀ operation ∈ patch.parameters, Accepts catalogue operation := by
  unfold qualify at supported
  dsimp only at supported
  split at supported
  · cases supported
  · split at supported
    · rename_i absent
      have none_given := congrArg Qualified.catalogue (Except.ok.inj supported)
      cases none_given
    · rename_i other found
      split at supported
      · cases supported
      · rename_i schema
        unfold qualifyOperations at supported
        obtain ⟨status, folded, result⟩ := bind_eq_ok.mp supported
        have answered := Except.ok.inj result
        have same : other = catalogue :=
          Option.some.inj (congrArg Qualified.catalogue answered)
        have final : status = .supported := by
          have statuses := congrArg Qualified.status answered
          dsimp only at statuses
          split at statuses
          · cases statuses
          · exact statuses
        subst same
        rw [final] at folded
        exact ⟨found, not_not.mp schema, (qualifyOperations_supported folded).2⟩

end NativeCatalogueSnapshot

/-! ## Tuning follows the choice -/

/-- A style is prepared for the choice that a voice was resolved through, if any: its common
part is composed for that choice, and native parameters are those of its patch, accepted by the
catalogue of the realized engine. -/
structure NativeLaw (layered : EngineLayeredVoiceDefinition) (realized : PhysicalVoiceId)
    (index : Option Nat) (context : VoiceStylePatch) (snapshot : NativeCatalogueSnapshot)
    (policy : UnavailablePolicy) (parameters : VoiceParameters) : Prop where
  /-- The choice that was realized has this patch. -/
  chosen : ∃ i choice, index = some i ∧ layered.choices[i]? = some choice ∧
    choice.native = some parameters.native
  engine : parameters.native.engineId = realized.engineId
  accepted : ∃ catalogue, snapshot.catalogue realized.engineId (some realized.voiceId) =
      some catalogue ∧ parameters.expectedIdentity = catalogue.identity ∧
    catalogue.identity.schemaId = parameters.native.schemaId ∧
    ∀ operation ∈ parameters.native.parameters,
      NativeCatalogueSnapshot.Accepts catalogue operation
  context : contextualInputs context = .ok parameters.contextDimensions
  policy : parameters.unavailablePolicy = policy

section Preparing

variable {layered : EngineLayeredVoiceDefinition} {realized : PhysicalVoiceId}
  {context : VoiceStylePatch} {snapshot : NativeCatalogueSnapshot} {policy : UnavailablePolicy}
  {patch : NativePatch}

theorem contextualInputs_ok (valid : context.validate = .ok ()) :
    ∃ dimensions, contextualInputs context = .ok dimensions := by
  refine ⟨_, seq_eq_ok.mpr ⟨?_, rfl⟩⟩
  rw [mapError_eq_ok]
  exact valid

/-- A block that need not be applied is executed in some way. -/
theorem nativeExecution_ok (patch : NativePatch) (valid : context.validate = .ok ())
    (optional : policy ≠ .require)
    (qualified : Except NativeChoiceError NativeCatalogueSnapshot.Qualified) :
    ∃ native, nativeExecution patch context policy qualified = .ok native := by
  unfold nativeExecution
  cases supportedCatalogue qualified with
  | none =>
      dsimp only
      rw [if_neg optional]
      exact ⟨_, rfl⟩
  | some catalogue =>
      obtain ⟨dimensions, given⟩ := contextualInputs_ok valid
      exact ⟨_, bind_eq_ok.mpr ⟨dimensions, mapError_eq_ok.mpr given, rfl⟩⟩

theorem supportedCatalogue_eq_some
    {qualified : Except NativeChoiceError NativeCatalogueSnapshot.Qualified}
    {catalogue : ParameterCatalogue} (supported : supportedCatalogue qualified = some catalogue) :
    ∃ reason, qualified = .ok ⟨.supported, reason, some catalogue⟩ := by
  unfold supportedCatalogue at supported
  split at supported
  · obtain rfl := Option.some.inj supported
    exact ⟨_, rfl⟩
  · cases supported

/-- Parameters are those of a block that is supported. -/
theorem nativeExecution_parameters
    {qualified : Except NativeChoiceError NativeCatalogueSnapshot.Qualified}
    {parameters : VoiceParameters}
    (executed : nativeExecution patch context policy qualified = .ok (.parameters parameters)) :
    ∃ reason catalogue, qualified = .ok ⟨.supported, reason, some catalogue⟩ ∧
      contextualInputs context = .ok parameters.contextDimensions ∧ parameters.native = patch ∧
      parameters.expectedIdentity = catalogue.identity ∧ parameters.unavailablePolicy = policy := by
  unfold nativeExecution at executed
  cases supported : supportedCatalogue qualified with
  | none =>
      rw [supported] at executed
      dsimp only at executed
      split at executed
      · cases executed
      · cases executed
  | some catalogue =>
      rw [supported] at executed
      obtain ⟨dimensions, given, result⟩ := bind_eq_ok.mp executed
      rw [mapError_eq_ok] at given
      obtain ⟨reason, answered⟩ := supportedCatalogue_eq_some supported
      cases result
      exact ⟨reason, catalogue, answered, given, rfl, rfl, rfl⟩

/-- A patch of a valid definition belongs to the engine that its selector names. -/
theorem validated_native (valid : layered.validate = .ok ()) {choice : EngineVoiceChoice}
    (member : choice ∈ layered.choices) (native : choice.native = some patch) :
    choice.selector.engineId = some patch.engineId := by
  rw [EngineLayeredVoiceDefinition.validate, seq_eq_ok, forM_eq_ok] at valid
  have checked := valid.2 choice member
  rw [mapError_eq_ok, EngineVoiceChoice.validateNative, native, seq_eq_ok, ensure_eq_ok,
    beq_iff_eq] at checked
  exact checked.2

theorem nativeChoice_eq_some {index : Option Nat} {selected : VoiceSelector}
    (found : nativeChoice layered index = some (selected, patch)) :
    ∃ i choice, index = some i ∧ layered.choices[i]? = some choice ∧
      choice.selector = selected ∧ choice.native = some patch := by
  unfold nativeChoice at found
  simp only [Option.bind_eq_bind, Option.bind_eq_some_iff] at found
  obtain ⟨i, here, choice, listed, other, native, same⟩ := found
  cases same
  exact ⟨i, choice, here, listed, rfl, native⟩

/-- The patch of a realized choice belongs to the engine of the voice. -/
theorem nativeChoice_realizes {inventory : List EngineDescriptor}
    (own : Engines.OwnVoices inventory)
    {preferredEngines : List String} {text : Option (List Char)}
    {permissions : EngineSelectionPermissions} {index : Option Nat} {selected : VoiceSelector}
    (valid : layered.validate = .ok ())
    (through : ResolvedThrough (evaluateSelector inventory preferredEngines text permissions)
      layered.commonProjection.legacyProjection.preferences realized index)
    (found : nativeChoice layered index = some (selected, patch)) :
    realizes selected realized = true ∧ patch.engineId = realized.engineId := by
  obtain ⟨i, choice, rfl, listed, rfl, native⟩ := nativeChoice_eq_some found
  obtain ⟨before, selector, after, preferences, position, -, evaluated⟩ := through
  have selects : choice.selector = selector := by
    have here : layered.commonProjection.legacyProjection.preferences[i]? =
        some choice.selector := by
      simp [Engines.LayeredVoiceDefinition.legacyProjection,
        EngineLayeredVoiceDefinition.commonProjection, listed]
    rw [preferences, ← position] at here
    simpa using here.symm
  rw [← selects] at evaluated
  obtain ⟨onEngine, exactly⟩ := Engines.evaluateSelector_identity own evaluated
  have engine := validated_native valid (List.mem_of_getElem? listed) native
  have same := onEngine patch.engineId engine
  refine ⟨?_, same.symm⟩
  unfold realizes
  rw [engine, same, decide_eq_true rfl, Bool.true_and]
  cases named : choice.selector with
  | exact id =>
      dsimp only
      rw [decide_eq_true_iff]
      exact (exactly id named).symm
  | engineDefault _ => rfl
  | properties _ _ _ => rfl

end Preparing

/-- **Tuning follows the choice that was realized.** For a valid definition and its resolution,
a valid context, host rate and placement, and an inventory in which engines list their own
voices, preparing succeeds unless native settings are required. The common style is composed for
the choice that the voice was resolved through, whatever the snapshot, and native parameters are
those of that choice. -/
theorem tuning_follows_choice (nearest : ℚ → ℚ) (inventory : List EngineDescriptor)
    (fallback : FallbackPolicy) (permissions : EngineSelectionPermissions)
    (text : Option (List Char)) (layered : EngineLayeredVoiceDefinition)
    (resolution : VoiceResolution) (context : VoiceStylePatch) (baseRate : ℚ)
    (placementPan : Option ℚ) (valid : layered.validate = .ok ())
    (resolved : resolveVoiceWithPermissions inventory layered.commonProjection.legacyProjection
      fallback text permissions = .ok resolution)
    (own : Engines.OwnVoices inventory) (contextual : context.validate = .ok ())
    (hostRate : 0 ≤ baseRate ∧ baseRate ≤ 2)
    (placement : ∀ pan, placementPan = some pan → 0 ≤ pan ∧ pan ≤ 1) :
    ∃ index choice common,
      ResolvedThrough (evaluateSelector inventory fallback.preferredEngines text permissions)
        layered.commonProjection.legacyProjection.preferences resolution.realized index ∧
      layered.commonProjection.choiceAt index = .ok choice ∧
      layered.commonProjection.compose nearest index context baseRate placementPan =
        .ok common ∧
      LayeredVoiceDefinition.Layers nearest layered.commonProjection choice context baseRate
        placementPan common ∧
      ∀ (snapshot : NativeCatalogueSnapshot) (policy : UnavailablePolicy), policy ≠ .require →
        ∃ native, prepareChoice nearest layered resolution context baseRate placementPan snapshot
            policy = .ok ⟨common, native⟩ ∧
          ∀ parameters, native = .parameters parameters →
            NativeLaw layered resolution.realized index context snapshot policy parameters := by
  obtain ⟨index, selected, within, through⟩ := Engines.resolved_selected resolved
  have commonValid : layered.commonProjection.validate = .ok () := by
    rw [EngineLayeredVoiceDefinition.validate, seq_eq_ok, mapError_eq_ok] at valid
    exact valid.1
  obtain ⟨common, composed⟩ := LayeredVoiceDefinition.compose_succeeds nearest
    commonValid contextual hostRate placement within
  obtain ⟨choice, chosen, layers⟩ := LayeredVoiceDefinition.compose_layers composed
  refine ⟨index, choice, common, through, chosen, composed, layers, ?_⟩
  intro snapshot policy optional
  have admitted : layered.validate.mapError PreparationError.choice = .ok () :=
    mapError_eq_ok.mpr valid
  have recovered : (layered.commonProjection.selectedChoice resolution).mapError
      (fun error => PreparationError.choice (.common error)) = .ok index :=
    mapError_eq_ok.mpr selected
  have styled : (layered.commonProjection.compose nearest index context baseRate
      placementPan).mapError (fun error => PreparationError.choice (.common error)) =
        .ok common := mapError_eq_ok.mpr composed
  rw [prepareChoice, admitted, ok_bind]
  dsimp only
  rw [recovered, ok_bind, styled, ok_bind]
  cases found : nativeChoice layered index with
  | none =>
      refine ⟨.notRequested, rfl, ?_⟩
      intro parameters given
      cases given
  | some block =>
      obtain ⟨selector, patch⟩ := block
      obtain ⟨identity, engine⟩ := nativeChoice_realizes own valid through found
      obtain ⟨native, executed⟩ := nativeExecution_ok patch contextual optional
        (snapshot.qualify patch (.exact resolution.realized))
      refine ⟨native, ?_, ?_⟩
      · exact seq_eq_ok.mpr ⟨ensure_eq_ok.mpr identity, bind_eq_ok.mpr ⟨native, executed, rfl⟩⟩
      · rintro parameters rfl
        obtain ⟨reason, catalogue, supported, dimensions, given, expected, followed⟩ :=
          nativeExecution_parameters executed
        obtain ⟨current, schema, accepted⟩ :=
          NativeCatalogueSnapshot.qualify_supported supported
        obtain ⟨i, choice, here, listed, -, requested⟩ := nativeChoice_eq_some found
        rw [engine] at current
        rw [← given] at engine schema accepted requested
        exact ⟨⟨i, choice, here, listed, requested⟩, engine,
          ⟨catalogue, current, expected, schema, accepted⟩, dimensions, followed⟩

/-! ### A voice with one choice -/

/-- An engine that lists its voice under an identifier of its own, or of another engine. -/
def kalEngine (owner : String) : EngineDescriptor where
  id := "flite"
  availability := .available
  health := .healthy
  acss := ⟨true, true, true, true, true, true⟩
  textRepertoire := .unicode
  postSynthesisDimensions := []
  voices := [⟨⟨owner, "kal"⟩, "Kal", some "en-US", none, .available⟩]
  defaultVoiceId := some "kal"
  espeakVariants := []

/-- A context that may move the pan. -/
def pannedContext (pan : Option (Adjustment ℚ)) : VoiceStylePatch where
  averagePitch := none
  pitchRange := none
  stress := none
  richness := none
  gain := none
  lowPass := none
  highPass := none
  pan := pan
  reverb := none
  echo := none
  chorus := none
  rateOffset := none

/-- A voice of one choice, which sets the breath of its engine. -/
def kalVoice : EngineLayeredVoiceDefinition where
  id := "source-code"
  language := none
  shared := ⟨⟨none, none, none, none, none, none⟩, none,
    ⟨none, none, none, none, none, none, none⟩⟩
  choices := [⟨"kal", .exact ⟨"flite", "kal"⟩, pannedContext (some (.set 0)),
    some ⟨"flite", "flite.v1", [("breath", .set (.integer 30))]⟩⟩]

def kalIdentity : CatalogueIdentity := ⟨"flite.v1", "kal", "revision", 1⟩

/-- One engine, and a catalogue of its voice. -/
def kalSnapshot (owner : String) : NativeCatalogueSnapshot where
  inventory := [kalEngine owner]
  ready _ _ := some ⟨"flite", kalIdentity, some "kal",
    [⟨"breath", "Breath", "How much breath is heard", "quality", 0, none, .integer 0 100 1, .voice,
      true, ⟨.supported, none⟩, ⟨.qualifiedProfile, some (.integer 0), true⟩, []⟩], []⟩
  unavailable _ := none

def kalResolution (owner : String) : VoiceResolution where
  logicalVoiceId := "source-code"
  requested := some (.exact ⟨"flite", "kal"⟩)
  realized := ⟨owner, "kal"⟩
  reason := .preferred
  failedAttempts := []

/-- The breath is given, and the pan is that of the choice. -/
theorem tuning_follows_choice_kal :
    prepareChoice id kalVoice (kalResolution "flite") (pannedContext none) 1 none
        (kalSnapshot "flite") .commonOnly =
      .ok ⟨⟨some "kal", ⟨none, none, none, none, none, none⟩,
          ⟨none, none, none, some 0, none, none, none⟩⟩,
        .parameters ⟨⟨"flite", "flite.v1", [("breath", .set (.integer 30))]⟩, [], kalIdentity,
          .commonOnly⟩⟩ ∧
      ∃ index choice common,
        ResolvedThrough (evaluateSelector [kalEngine "flite"] [] none ⟨[], []⟩)
          kalVoice.commonProjection.legacyProjection.preferences ⟨"flite", "kal"⟩ index ∧
        kalVoice.commonProjection.choiceAt index = .ok choice ∧
        kalVoice.commonProjection.compose id index (pannedContext none) 1 none = .ok common ∧
        LayeredVoiceDefinition.Layers id kalVoice.commonProjection choice (pannedContext none) 1
          none common ∧
        ∀ (snapshot : NativeCatalogueSnapshot) (policy : UnavailablePolicy), policy ≠ .require →
          ∃ native, prepareChoice id kalVoice (kalResolution "flite") (pannedContext none) 1 none
              snapshot policy = .ok ⟨common, native⟩ ∧
            ∀ parameters, native = .parameters parameters →
              NativeLaw kalVoice ⟨"flite", "kal"⟩ index (pannedContext none) snapshot policy
                parameters := by
  refine ⟨by decide, ?_⟩
  exact tuning_follows_choice id [kalEngine "flite"] .default ⟨[], []⟩ none kalVoice
    (kalResolution "flite") (pannedContext none) 1 none (by decide) (by decide)
    (by unfold Engines.OwnVoices; decide) (by decide) (by norm_num)
    (fun pan absent => by cases absent)

/-- A host rate, a placement or a context out of range is refused, and so is a voice that its
engine lists under the identifier of another one. -/
theorem preparing_checks_its_inputs :
    kalVoice.validate = .ok () ∧
      resolveVoiceWithPermissions [kalEngine "flite"]
        kalVoice.commonProjection.legacyProjection .default none ⟨[], []⟩ =
          .ok (kalResolution "flite") ∧
      prepareChoice id kalVoice (kalResolution "flite") (pannedContext none) 3 none
        (kalSnapshot "flite") .commonOnly =
          .error (.choice (.common (.invalid "host rate must be finite in [0, 2]"))) ∧
      prepareChoice id kalVoice (kalResolution "flite") (pannedContext none) 1 (some 2)
        (kalSnapshot "flite") .commonOnly =
          .error (.choice (.common (.invalid "normalized value must be finite in [0, 1]"))) ∧
      prepareChoice id kalVoice (kalResolution "flite") (pannedContext (some (.set 2))) 1 none
        (kalSnapshot "flite") .commonOnly =
          .error (.choice (.common (.invalid "normalized value must be finite in [0, 1]"))) ∧
      resolveVoiceWithPermissions [kalEngine "rhvoice"]
        kalVoice.commonProjection.legacyProjection .default none ⟨[], []⟩ =
          .ok (kalResolution "rhvoice") ∧
      prepareChoice id kalVoice (kalResolution "rhvoice") (pannedContext none) 1 none
        (kalSnapshot "rhvoice") .commonOnly = .error (.choice (.native .identityMismatch)) := by
  refine ⟨by decide, by decide, by decide, by decide, by decide, by decide, by decide⟩

end Omnivox.Parameters
