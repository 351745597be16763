import Omnivox.Foundations.DependencyOrder
import Omnivox.Foundations.Keyed
import Omnivox.Parameters.Catalogue

/-!
# Native plans

A plan gives a value to every native parameter that can be reset on one physical voice. The
engine's default is overwritten by the mapped common value, and that by the native patch of
the choice; an output of a mapping that the context sets is kept from the patch.

Applying one parameter can change others. The plan orders the parameters so that what
applying one can change is applied after it, and a side effect reaches only a parameter whose
planned value is known.

`compose` rests on checks that are made elsewhere. An `expect` or an index that would fail
is the error `panicked` here.
-/

set_option autoImplicit false

namespace Omnivox.Parameters

open Foundations
open Engines (Adjustment NativePatch NativeValue ParameterError PhysicalVoiceId VoiceSelector
  VoiceStylePatch)

/-! ## Plans -/

inductive ValueOrigin where
  | engineDefault
  | commonMapping
  | contextMapping
  | nativeSet
  | nativeDefault
  deriving Repr, DecidableEq

structure PlannedParameter where
  /-- No value is a verified engine reset whose numerical value is unknown. -/
  value : Option NativeValue
  origin : ValueOrigin
  maskedNative : Bool
  deriving Repr, DecidableEq

/-- The planned parameters, in the order of their identifiers. -/
abbrev PlannedParameters := List (String × PlannedParameter)

structure NativePlan where
  realized : PhysicalVoiceId
  identity : CatalogueIdentity
  parameters : PlannedParameters
  /-- After resetting the pristine voice, apply in this order. -/
  applicationOrder : List String
  deriving Repr, DecidableEq

/-- What planning answers instead of a plan: the error of a check, or a panic. -/
inductive PlanError where
  | parameter (error : ParameterError)
  | staleIdentity
  | dependencyCycle
  | panicked
  deriving Repr, DecidableEq

/-! ## Checks of a patch -/

namespace ParameterCatalogue

/-- The descriptor of a parameter. -/
def described (catalogue : ParameterCatalogue) (id : String) : Option ParameterDescriptor :=
  catalogue.parameters.find? fun descriptor => descriptor.id == id

/-- Whether a catalogue for one voice is for the voice that a selector names. -/
def admitsVoice (catalogue : ParameterCatalogue) : VoiceSelector → Bool
  | .exact selected => catalogue.voiceId.all fun voice => voice = selected.voiceId
  | _ => true

def validateOperation (catalogue : ParameterCatalogue)
    (operation : String × Adjustment NativeValue) : Except ParameterError Unit := do
  let descriptor ← orError (.parameter operation.1 "not described by runtime")
    (catalogue.described operation.1)
  ensure (descriptor.scope = .voice && descriptor.adjustable &&
      descriptor.availability.status = .supported)
    (.parameter descriptor.id "not adjustable for this voice/runtime")
  operation.2.check fun value => ensure (descriptor.valueType.accepts value)
    (.parameter descriptor.id "value outside declared type/range")

end ParameterCatalogue

/-- `NativePatch::validate_for`. -/
def validateFor (patch : NativePatch) (catalogue : ParameterCatalogue) (selector : VoiceSelector) :
    Except ParameterError Unit := do
  patch.validateShape
  catalogue.validate
  ensure (selector.engineId = some patch.engineId && patch.engineId = catalogue.engineId &&
      patch.schemaId = catalogue.identity.schemaId) .identityMismatch
  ensure (catalogue.admitsVoice selector) .identityMismatch
  patch.parameters.forM catalogue.validateOperation

/-! ## Context -/

/-- The common inputs that a contextual patch sets. -/
def contextualInputs (context : VoiceStylePatch) : Except ParameterError (List CommonInput) := do
  context.validate.mapError fun _ => .invalid "invalid contextual patch"
  let members : List (CommonInput × Bool) :=
    [(.rateOffset, context.rateOffset.isSome),
      (.averagePitch, context.averagePitch.isSome),
      (.pitchRange, context.pitchRange.isSome),
      (.stress, context.stress.isSome),
      (.richness, context.richness.isSome),
      (.gain, context.gain.isSome),
      (.lowPass, context.lowPass.isSome),
      (.highPass, context.highPass.isSome),
      (.pan, context.pan.isSome),
      (.reverb, context.reverb.isSome),
      (.echo, context.echo.isSome),
      (.chorus, context.chorus.isSome)]
  return (members.filter Prod.snd).map Prod.fst

namespace ParameterCatalogue

/-- The outputs of the mappings with an input that the context sets. -/
def contextual (catalogue : ParameterCatalogue) (explicit : List CommonInput) : List String :=
  (catalogue.mappings.filter fun mapping =>
    mapping.commonInputs.any explicit.contains).flatMap CommonMapping.nativeOutputs

/-! ## Values -/

/-- A supported parameter of the voice that can be reset. -/
def plannable (descriptor : ParameterDescriptor) : Bool :=
  descriptor.scope = .voice && descriptor.availability.status = .supported &&
    descriptor.default.resetSupported

/-- The descriptors of a plan, in the order of their identifiers. -/
def descriptors (catalogue : ParameterCatalogue) : List ParameterDescriptor :=
  sortBy ParameterDescriptor.id (catalogue.parameters.filter plannable)

def descriptor (catalogue : ParameterCatalogue) (id : String) : Option ParameterDescriptor :=
  catalogue.descriptors.find? fun descriptor => descriptor.id == id

/-- Every parameter at its default. -/
def defaults (catalogue : ParameterCatalogue) : PlannedParameters :=
  catalogue.descriptors.map fun descriptor =>
    (descriptor.id, ⟨descriptor.default.value, .engineDefault, false⟩)

end ParameterCatalogue

/-- Change a parameter that must be planned. -/
def changePlanned (id : String) (change : PlannedParameter → PlannedParameter)
    (parameters : PlannedParameters) : Except PlanError PlannedParameters := do
  ensure (parameters.lookup id).isSome .panicked
  return reviseAt id change parameters

/-- A parameter with a mapped common value. -/
def PlannedParameter.mapped (value : NativeValue) (planned : PlannedParameter) : PlannedParameter :=
  { planned with value := some value, origin := .commonMapping }

/-- One mapped common value. -/
def applyMapped (catalogue : ParameterCatalogue) (parameters : PlannedParameters)
    (entry : String × NativeValue) : Except PlanError PlannedParameters := do
  let descriptor ← orError (.parameter (.invalid "unavailable common mapping output"))
    (catalogue.descriptor entry.1)
  ensure (descriptor.valueType.accepts entry.2)
    (.parameter (.parameter descriptor.id "mapped value outside qualified range"))
  changePlanned entry.1 (PlannedParameter.mapped entry.2) parameters

/-- A parameter that a contextual output marks. -/
def PlannedParameter.marked (contextual : List String) (id : String) (planned : PlannedParameter) :
    PlannedParameter :=
  if contextual.contains id then { planned with origin := .contextMapping } else planned

/-- The pristine baseline of a contextual output wins over a native choice override. -/
def markContextual (contextual : List String) (parameters : PlannedParameters) :
    PlannedParameters :=
  parameters.map fun entry => (entry.1, entry.2.marked contextual entry.1)

/-- What an operation of the native patch does, with the default of its parameter. -/
def PlannedParameter.adjusted (default : Option NativeValue) (operation : Adjustment NativeValue)
    (planned : PlannedParameter) : PlannedParameter :=
  match operation with
  | .set value => { planned with value := some value, origin := .nativeSet }
  | .default => { planned with value := default, origin := .nativeDefault }

/-- One operation of the native patch. Only a default reads the descriptor. -/
def applyNative (catalogue : ParameterCatalogue) (contextual : List String)
    (parameters : PlannedParameters) (operation : String × Adjustment NativeValue) :
    Except PlanError PlannedParameters := do
  if contextual.contains operation.1 then
    changePlanned operation.1 (fun planned => { planned with maskedNative := true }) parameters
  else do
    ensure (operation.2 ≠ .default || (catalogue.descriptor operation.1).isSome) .panicked
    let descriptor := catalogue.descriptor operation.1
    let default := descriptor.bind fun descriptor => descriptor.default.value
    changePlanned operation.1 (PlannedParameter.adjusted default operation.2) parameters

/-! ## Order -/

/-- Count one side effect. -/
def countEffect (parameters : PlannedParameters) (descriptor : ParameterDescriptor)
    (incoming : String → Option Nat) (target : String) :
    Except PlanError (String → Option Nat) := do
  let count ← orError
    (.parameter (.parameter descriptor.id "side effect reaches an unavailable/non-voice control"))
    (incoming target)
  let planned ← orError .panicked (parameters.lookup target)
  ensure planned.value.isSome
    (.parameter (.parameter descriptor.id "side effect target has no restorable value"))
  return Function.update incoming target (some (count + 1))

def countEffects (parameters : PlannedParameters) (incoming : String → Option Nat)
    (descriptor : ParameterDescriptor) : Except PlanError (String → Option Nat) :=
  descriptor.sideEffects.foldlM (countEffect parameters descriptor) incoming

/-- No side effect is counted yet. -/
def uncounted (parameters : PlannedParameters) (id : String) : Option Nat :=
  (parameters.lookup id).map fun _ => 0

/-- Kahn ordering, deterministic for independent controls. A parameter that can be changed
by applying another must be restored after it. -/
def applicationOrder (catalogue : ParameterCatalogue) (parameters : PlannedParameters)
    (incoming : String → Option Nat) : Option (List String) :=
  let ids := parameters.map Prod.fst
  dependencyOrder (fun id => (catalogue.descriptor id).map ParameterDescriptor.sideEffects)
    ids.length
    { incoming := incoming
      ready := (ids.filter fun id => incoming id = some 0).toFinset }
    []

/-! ## Composition -/

def validateNativeFor (catalogue : ParameterCatalogue) (realized : PhysicalVoiceId) :
    Option NativePatch → Except ParameterError Unit
  | some native => validateFor native catalogue (.exact realized)
  | none => .ok ()

/-- The operations of a patch that may be absent. -/
def nativeOperations (native : Option NativePatch) : List (String × Adjustment NativeValue) :=
  (native.map NativePatch.parameters).getD []

/-- The planned parameters, and how many side effects reach each. -/
def prepare (catalogue : ParameterCatalogue) (expectedIdentity : CatalogueIdentity)
    (realized : PhysicalVoiceId) (mappedCommon : List (String × NativeValue))
    (native : Option NativePatch) (context : VoiceStylePatch) :
    Except PlanError (PlannedParameters × (String → Option Nat)) := do
  catalogue.validate.mapError .parameter
  ensure (catalogue.identity = expectedIdentity) .staleIdentity
  ensure (catalogue.engineId = realized.engineId && catalogue.voiceId = some realized.voiceId)
    (.parameter .identityMismatch)
  (validateNativeFor catalogue realized native).mapError .parameter
  let explicit ← (contextualInputs context).mapError .parameter
  let contextual := catalogue.contextual explicit
  let parameters ← mappedCommon.foldlM (applyMapped catalogue) catalogue.defaults
  let parameters ← (nativeOperations native).foldlM (applyNative catalogue contextual)
    (markContextual contextual parameters)
  let incoming ← catalogue.descriptors.foldlM (countEffects parameters) (uncounted parameters)
  return (parameters, incoming)

/-- Compose for one actual physical voice, without changing any engine state. -/
def compose (catalogue : ParameterCatalogue) (expectedIdentity : CatalogueIdentity)
    (realized : PhysicalVoiceId) (mappedCommon : List (String × NativeValue))
    (native : Option NativePatch) (context : VoiceStylePatch) : Except PlanError NativePlan := do
  let prepared ← prepare catalogue expectedIdentity realized mappedCommon native context
  let order ← orError .panicked (applicationOrder catalogue prepared.1 prepared.2)
  ensure (order.length = prepared.1.length) .dependencyCycle
  return ⟨realized, catalogue.identity, prepared.1, order⟩

end Omnivox.Parameters
