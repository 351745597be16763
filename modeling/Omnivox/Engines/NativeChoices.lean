import Mathlib
import Omnivox.Engines.VoiceDefinitions

/-!
# Native choice admission

A native choice is qualified against an immutable snapshot of the catalogues that one
connection knows. The answer is a status, or an error for a patch that no catalogue could
accept. The complete v3 request carries all three kinds of definition.
-/

set_option autoImplicit false

namespace Omnivox.Engines

open Foundations

/-! ## Catalogues -/

structure EnumChoice where
  value : String
  label : String
  deriving Repr, DecidableEq

inductive ValueType where
  | integer (minimum maximum step : Int)
  | number (minimum maximum step : Option ℚ)
  | boolean
  | enum (choices : List EnumChoice)
  deriving Repr, DecidableEq

/-- A label or a help text. -/
def nativeText (limit : Nat) (value : String) : Bool :=
  !value.isEmpty && value.utf8ByteSize ≤ limit && !value.toList.any isControl

/-- Check each choice of an enumeration, after the values seen so far. -/
def validateEnumChoices : List String → List EnumChoice → Except ParameterError Unit
  | _, [] => .ok ()
  | seen, choice :: rest => do
      ensure (nativeIdentifier choice.value && nativeText 128 choice.label &&
          !seen.contains choice.value)
        (.invalid "invalid or duplicate enum choice")
      validateEnumChoices (choice.value :: seen) rest

/-- `i64 as f64`: the nearest number of 53 significant bits, ties to even. -/
def i64AsF64 (value : Int) : ℚ :=
  let magnitude := value.natAbs
  let shift := magnitude.size - 53
  let quotient := magnitude / 2 ^ shift
  let remainder := magnitude % 2 ^ shift
  let roundsUp := 2 ^ shift < 2 * remainder ∨ (2 ^ shift = 2 * remainder ∧ quotient % 2 = 1)
  let rounded := (if roundsUp then quotient + 1 else quotient) * 2 ^ shift
  if value < 0 then -(rounded : ℚ) else rounded

namespace ValueType

def validate : ValueType → Except ParameterError Unit
  | .integer minimum maximum step =>
      ensure (minimum ≤ maximum && 0 < step) (.invalid "invalid integer constraints")
  | .number (some minimum) (some maximum) (some step) =>
      ensure (minimum ≤ maximum && 0 < step) (.invalid "invalid number constraints")
  | .number _ _ _ => .error (.invalid "invalid number constraints")
  | .boolean => .ok ()
  | .enum choices => do
      ensure (!choices.isEmpty && choices.length ≤ MAX_ENUM_CHOICES) (.invalid "invalid enum size")
      validateEnumChoices [] choices

/-- Whether a validated value lies in a validated range. -/
def admits : ValueType → NativeValue → Bool
  | .integer minimum maximum _, .integer value => minimum ≤ value && value ≤ maximum
  | .number (some minimum) (some maximum) _, .number (some value) =>
      minimum ≤ value && value ≤ maximum
  | .number (some minimum) (some maximum) _, .integer value =>
      minimum ≤ i64AsF64 value && i64AsF64 value ≤ maximum
  | .boolean, .boolean _ => true
  | .enum choices, .enum value => choices.any fun choice => choice.value == value
  | _, _ => false

def accepts (valueType : ValueType) (value : NativeValue) : Bool :=
  match valueType.validate, value.validate with
  | .ok _, .ok _ => valueType.admits value
  | _, _ => false

end ValueType

inductive ParameterScope where
  | voice
  | engine
  | startup
  deriving Repr, DecidableEq

inductive AvailabilityStatus where
  | supported
  | voiceUnavailable
  | runtimeUnsupported
  | notChecked
  deriving Repr, DecidableEq

/-- A parameter, as far as qualification reads it. -/
structure ParameterDescriptor where
  id : String
  valueType : ValueType
  scope : ParameterScope
  adjustable : Bool
  availability : AvailabilityStatus
  deriving Repr, DecidableEq

/-- A complete catalogue, as far as qualification reads it. -/
structure ParameterCatalogue where
  engineId : String
  schemaId : String
  voiceId : Option String
  parameters : List ParameterDescriptor
  deriving Repr, DecidableEq

/-! ## Qualification -/

inductive NativeSupport where
  | supported
  | deferred
  | unavailable
  deriving Repr, DecidableEq

structure NativeChoiceStatus where
  logicalVoiceId : String
  choiceId : String
  status : NativeSupport
  reason : Option String
  deriving Repr, DecidableEq

/-- Immutable metadata for one connection and runtime observation. -/
structure NativeCatalogueSnapshot where
  inventory : List EngineDescriptor
  ready : String → Option String → Option ParameterCatalogue
  unavailable : String → Option NativeSupport

namespace NativeCatalogueSnapshot

def catalogue (snapshot : NativeCatalogueSnapshot) (engine : String) (voice : Option String) :
    Option ParameterCatalogue :=
  (snapshot.ready engine voice).or (snapshot.ready engine none)

/-- The status after one operation of a patch. -/
def qualifyOperation (catalogue : ParameterCatalogue) (status : NativeSupport)
    (operation : String × Adjustment NativeValue) : Except NativeChoiceError NativeSupport := do
  let id := operation.1
  let descriptor ← orError (.native (.parameter id "not described by runtime"))
    (catalogue.parameters.find? fun parameter => parameter.id == id)
  ensure (descriptor.scope == .voice &&
      !(descriptor.availability == .supported && !descriptor.adjustable))
    (.native (.parameter id "not an adjustable voice parameter"))
  operation.2.check fun value => ensure (descriptor.valueType.accepts value)
    (.native (.parameter id "value outside declared type/range"))
  return match descriptor.availability with
    | .supported => status
    | .notChecked => if status == .supported then .deferred else status
    | .runtimeUnsupported | .voiceUnavailable => .unavailable

/-- The voice that a selector names. -/
def selectedVoice : VoiceSelector → Option String
  | .exact id => some id.voiceId
  | _ => none

/-- Whether an engine does not offer the voice that a selector names. -/
def missesVoice (engine : EngineDescriptor) : Option String → Bool
  | none => false
  | some id =>
      match engine.voice id with
      | none => true
      | some voice => !voice.availability.isAvailable

def qualify (snapshot : NativeCatalogueSnapshot) (patch : NativePatch) (selector : VoiceSelector) :
    Except NativeChoiceError (NativeSupport × Option String) :=
  let voice := selectedVoice selector
  let found := (snapshot.inventory.find? fun engine => engine.id == patch.engineId).filter
    EngineDescriptor.canSynthesize
  match found with
  | none => .ok (.unavailable, some "Engine is unavailable")
  | some engine =>
      match snapshot.catalogue patch.engineId voice with
      | none =>
          .ok ((snapshot.unavailable patch.engineId).getD .deferred,
            some "No current native catalogue is available")
      | some catalogue =>
          if catalogue.schemaId ≠ patch.schemaId then
            .ok (.unavailable, some "Native schema is not supported by this runtime")
          else do
            let status ← patch.parameters.foldlM (qualifyOperation catalogue) .supported
            let status := if missesVoice engine voice then .unavailable else status
            return (status,
              if status == .supported then none
              else some "Native block is not currently applicable")

end NativeCatalogueSnapshot

/-- The status of a choice with native parameters. -/
def EngineVoiceChoice.status (snapshot : NativeCatalogueSnapshot) (logicalVoiceId : String)
    (choice : EngineVoiceChoice) : Except NativeChoiceError (List NativeChoiceStatus) :=
  match choice.native with
  | none => .ok []
  | some native => do
      let qualified ← snapshot.qualify native choice.selector
      return [⟨logicalVoiceId, choice.id, qualified.1, qualified.2⟩]

/-- Append what each element answers, up to the first failure. -/
def collectAll {α β ε : Type} (answer : α → Except ε (List β)) : List α → Except ε (List β)
  | [] => .ok []
  | a :: rest => do
      let first ← answer a
      let others ← collectAll answer rest
      return first ++ others

def EngineLayeredVoiceDefinition.statuses (layered : EngineLayeredVoiceDefinition)
    (snapshot : NativeCatalogueSnapshot) : Except NativeChoiceError (List NativeChoiceStatus) :=
  collectAll (EngineVoiceChoice.status snapshot layered.id) layered.choices

/-! ## The v3 request -/

/-- Complete v3 registry replacement. Its definitions have the three kinds of a registered
one. -/
structure VoiceRegistrationV3 where
  registryGeneration : Nat
  definitions : List RegisteredVoiceDefinition
  fallbackPolicy : FallbackPolicy
  deriving Repr, DecidableEq

/-- Check one definition and project it. -/
def RegisteredVoiceDefinition.admit :
    RegisteredVoiceDefinition → Except NativeChoiceError LogicalVoiceDefinition
  | .legacy definition => .ok definition
  | .layered definition => do
      definition.validate.mapError .common
      return definition.legacyProjection
  | .engineLayered definition => do
      definition.validate
      return definition.commonProjection.legacyProjection

/-- Check a request of an encoded length. `none` is a request that does not encode. -/
def VoiceRegistrationV3.validate (encodedLength : VoiceRegistrationV3 → Option Nat)
    (request : VoiceRegistrationV3) : Except NativeChoiceError Unit := do
  ensure (request.registryGeneration != 0 && request.definitions.length ≤ MAX_LOGICAL_VOICES)
    (.common (.invalid "invalid native registry generation/count"))
  let projection ← request.definitions.mapM RegisteredVoiceDefinition.admit
  (validateRegistration projection request.fallbackPolicy).mapError fun error =>
    .common (.registry error)
  let length ← orError (.native (.invalid "invalid registration values")) (encodedLength request)
  ensure (length ≤ MAX_CONTROL_PAYLOAD_BYTES)
    (.native (.invalid "native registry exceeds control bound"))

end Omnivox.Engines
