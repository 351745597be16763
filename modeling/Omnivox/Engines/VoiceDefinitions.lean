import Mathlib
import Omnivox.Engines.Contracts
import Omnivox.Foundations.Fallible

/-!
# Registered voice definitions

Three kinds of definition share one registry: a legacy definition with one style, a
layered definition with a shared style and a patch for each choice, and an engine-layered
definition whose choices also carry native parameters. Each has a projection to a legacy
definition, by which it is resolved.

Style values are finite numbers. A native number may be any `f64`, and `none` stands for
one that is not finite.
-/

set_option autoImplicit false

namespace Omnivox.Engines

open Foundations

def MAX_LOGICAL_VOICES : Nat := 256
def MAX_LOGICAL_VOICE_ID_BYTES : Nat := 128
def MAX_VOICE_PREFERENCES : Nat := 32
def MAX_ENGINE_ID_BYTES : Nat := 128
def MAX_PHYSICAL_VOICE_ID_BYTES : Nat := 4096
def MAX_LANGUAGE_TAG_BYTES : Nat := 64
def MAX_NATIVE_OPERATIONS : Nat := 64
def MAX_ENUM_CHOICES : Nat := 64
def MAX_IDENTIFIER_BYTES : Nat := 128
def MAX_CONTROL_PAYLOAD_BYTES : Nat := 256 * 1024

/-! ## Errors -/

/-- Validation and generation errors that leave the registry untouched. -/
inductive LogicalVoiceRegistryError where
  | staleGeneration (current received : Nat)
  | generationConflict (generation : Nat)
  | tooManyDefinitions (count limit : Nat)
  | invalidLogicalVoiceId (id : String)
  | duplicateLogicalVoiceId (id : String)
  | tooManyPreferences (id : String) (count limit : Nat)
  | invalidEngineId (id : String)
  | invalidPhysicalVoiceId (id : String)
  | invalidLanguage (id : String)
  | invalidFallbackEngineId
  deriving Repr, DecidableEq

inductive ChoiceTuningError where
  | invalid (reason : String)
  | registry (error : LogicalVoiceRegistryError)
  deriving Repr, DecidableEq

inductive ParameterError where
  | invalid (reason : String)
  | parameter (id reason : String)
  | identityMismatch
  deriving Repr, DecidableEq

inductive NativeChoiceError where
  | common (error : ChoiceTuningError)
  | native (error : ParameterError)
  deriving Repr, DecidableEq

/-! ## Legacy definitions -/

/-- ASCII letters, digits, dashes, underscores and dots, up to a length. -/
def identifierWithin (limit : Nat) (id : String) : Bool :=
  !id.isEmpty && id.utf8ByteSize ≤ limit &&
    id.toList.all fun c => c.isAlphanum || c == '-' || c == '_' || c == '.'

def validLogicalVoiceId : String → Bool := identifierWithin MAX_LOGICAL_VOICE_ID_BYTES

def validEngineId : String → Bool := identifierWithin MAX_ENGINE_ID_BYTES

/-- `char::is_control`. -/
def isControl (c : Char) : Bool :=
  c.val ≤ 0x1f || (0x7f ≤ c.val && c.val ≤ 0x9f)

def validPhysicalVoiceId (id : String) : Bool :=
  !id.isEmpty && id.utf8ByteSize ≤ MAX_PHYSICAL_VOICE_ID_BYTES && !id.toList.any isControl

def validLanguage (language : String) : Bool :=
  !language.isEmpty && language.utf8ByteSize ≤ MAX_LANGUAGE_TAG_BYTES &&
    language.toList.all fun c => c.isAlphanum || c == '-'

def validateSelector (logicalVoiceId : String) (selector : VoiceSelector) :
    Except LogicalVoiceRegistryError Unit := do
  ensure (selector.engineId.all validEngineId) (.invalidEngineId logicalVoiceId)
  match selector with
  | .exact id => ensure (validPhysicalVoiceId id.voiceId) (.invalidPhysicalVoiceId logicalVoiceId)
  | .properties _ language _ =>
      ensure (language.all validLanguage) (.invalidLanguage logicalVoiceId)
  | .engineDefault _ => .ok ()

/-- Check each definition, after the identifiers seen so far. -/
def validateDefinitions :
    List String → List LogicalVoiceDefinition → Except LogicalVoiceRegistryError Unit
  | _, [] => .ok ()
  | ids, definition :: rest => do
      ensure (validLogicalVoiceId definition.id) (.invalidLogicalVoiceId definition.id)
      ensure (!ids.contains definition.id) (.duplicateLogicalVoiceId definition.id)
      ensure (definition.preferences.length ≤ MAX_VOICE_PREFERENCES)
        (.tooManyPreferences definition.id definition.preferences.length MAX_VOICE_PREFERENCES)
      ensure (definition.language.all validLanguage) (.invalidLanguage definition.id)
      definition.preferences.forM (validateSelector definition.id)
      validateDefinitions (definition.id :: ids) rest

def validateGlobalDefault : Option VoiceSelector → Except LogicalVoiceRegistryError Unit
  | some selector => validateSelector "<global-default>" selector
  | none => .ok ()

def validateRegistration (definitions : List LogicalVoiceDefinition)
    (fallbackPolicy : FallbackPolicy) : Except LogicalVoiceRegistryError Unit := do
  ensure (definitions.length ≤ MAX_LOGICAL_VOICES)
    (.tooManyDefinitions definitions.length MAX_LOGICAL_VOICES)
  validateDefinitions [] definitions
  ensure ((fallbackPolicy.preferredEngines ++ fallbackPolicy.fallbackEngines).all validEngineId)
    .invalidFallbackEngineId
  validateGlobalDefault fallbackPolicy.globalDefault

/-! ## Layered definitions -/

/-- A supplied patch member. Absence is represented by the containing field. -/
inductive Adjustment (T : Type) where
  | set (value : T)
  | default
  deriving Repr, DecidableEq

def normalized (value : ℚ) : Except ChoiceTuningError Unit :=
  ensure (0 ≤ value && value ≤ 1) (.invalid "normalized value must be finite in [0, 1]")

def offset (value : Int) : Except ChoiceTuningError Unit :=
  ensure (-20 ≤ value && value ≤ 20) (.invalid "rate offset must be in [-20, 20]")

/-- Complete nullable base fields. The shared style has the fields of the legacy one. -/
structure SharedVoiceStyle where
  acss : NormalizedAcss
  rateOffset : Option Int
  effects : PostSynthesisStyle
  deriving Repr, DecidableEq

/-- The present values, in the order in which they are checked. -/
def SharedVoiceStyle.values (style : SharedVoiceStyle) : List ℚ :=
  [style.acss.rate, style.acss.averagePitch, style.acss.pitchRange, style.acss.stress,
    style.acss.richness, style.acss.volume, style.effects.gain, style.effects.lowPass,
    style.effects.highPass, style.effects.pan, style.effects.reverb, style.effects.echo,
    style.effects.chorus].reduceOption

def SharedVoiceStyle.validate (style : SharedVoiceStyle) : Except ChoiceTuningError Unit := do
  style.values.forM normalized
  match style.rateOffset with
  | none => .ok ()
  | some value => do
      offset value
      ensure style.acss.rate.isNone (.invalid "absolute rate and rate offset cannot coexist")

/-- Sparse replacement operations, retaining explicit zero and default. -/
structure VoiceStylePatch where
  averagePitch : Option (Adjustment ℚ)
  pitchRange : Option (Adjustment ℚ)
  stress : Option (Adjustment ℚ)
  richness : Option (Adjustment ℚ)
  gain : Option (Adjustment ℚ)
  lowPass : Option (Adjustment ℚ)
  highPass : Option (Adjustment ℚ)
  pan : Option (Adjustment ℚ)
  reverb : Option (Adjustment ℚ)
  echo : Option (Adjustment ℚ)
  chorus : Option (Adjustment ℚ)
  rateOffset : Option (Adjustment Int)
  deriving Repr, DecidableEq

/-- The operations on normalized values, in the order in which they are checked. -/
def VoiceStylePatch.operations (patch : VoiceStylePatch) : List (Adjustment ℚ) :=
  [patch.averagePitch, patch.pitchRange, patch.stress, patch.richness, patch.gain,
    patch.lowPass, patch.highPass, patch.pan, patch.reverb, patch.echo,
    patch.chorus].reduceOption

/-- Check the value of an operation that sets one. -/
def Adjustment.check {T : Type} {ε : Type} (valid : T → Except ε Unit) :
    Adjustment T → Except ε Unit
  | .set value => valid value
  | .default => .ok ()

def VoiceStylePatch.validate (patch : VoiceStylePatch) : Except ChoiceTuningError Unit := do
  patch.operations.forM (Adjustment.check normalized)
  match patch.rateOffset with
  | some operation => operation.check offset
  | none => .ok ()

structure VoiceChoice where
  id : String
  selector : VoiceSelector
  adjustments : VoiceStylePatch
  deriving Repr, DecidableEq

structure LayeredVoiceDefinition where
  id : String
  language : Option String
  shared : SharedVoiceStyle
  choices : List VoiceChoice
  deriving Repr, DecidableEq

/-- Check each choice, after the identifiers seen so far. -/
def validateChoices : List String → List VoiceChoice → Except ChoiceTuningError Unit
  | _, [] => .ok ()
  | ids, choice :: rest => do
      ensure (identifierWithin MAX_LOGICAL_VOICE_ID_BYTES choice.id)
        (.invalid "choice ID must contain 1..128 ASCII identifier characters")
      ensure (!ids.contains choice.id) (.invalid "duplicate choice ID")
      choice.adjustments.validate
      validateChoices (choice.id :: ids) rest

/-- `FallbackPolicy::default`. -/
def FallbackPolicy.default : FallbackPolicy where
  preferredEngines := []
  allowSameLanguageOnRequestedEngine := false
  globalDefault := none
  fallbackEngines := []

namespace LayeredVoiceDefinition

/-- Shared settings and bare selectors, for old operations and diagnostics only. -/
def legacyProjection (layered : LayeredVoiceDefinition) : LogicalVoiceDefinition where
  id := layered.id
  language := layered.language
  preferences := layered.choices.map VoiceChoice.selector
  acss := layered.shared.acss
  effects := layered.shared.effects

def validate (layered : LayeredVoiceDefinition) : Except ChoiceTuningError Unit := do
  layered.shared.validate
  ensure (layered.choices.length ≤ MAX_VOICE_PREFERENCES) (.invalid "too many choices")
  validateChoices [] layered.choices
  (validateRegistration [layered.legacyProjection] .default).mapError .registry

end LayeredVoiceDefinition

/-! ## Native parameters -/

/-- Native units. Booleans and integers remain distinct, including false and zero. -/
inductive NativeValue where
  | integer (value : Int)
  | number (value : Option ℚ)
  | boolean (value : Bool)
  | enum (value : String)
  deriving Repr, DecidableEq

/-- A native patch. The parameters are in the order of their identifiers. -/
structure NativePatch where
  engineId : String
  schemaId : String
  parameters : List (String × Adjustment NativeValue)
  deriving Repr, DecidableEq

/-- An identifier of native parameters. -/
def nativeIdentifier : String → Bool := identifierWithin MAX_IDENTIFIER_BYTES

def NativeValue.validate : NativeValue → Except ParameterError Unit
  | .number value => ensure value.isSome (.invalid "nonfinite native value")
  | .enum value => ensure (nativeIdentifier value) (.invalid "invalid enum identifier")
  | _ => .ok ()

def NativePatch.validateShape (patch : NativePatch) : Except ParameterError Unit := do
  ensure (nativeIdentifier patch.engineId && nativeIdentifier patch.schemaId)
    (.invalid "invalid native identity")
  ensure (patch.parameters.length ≤ MAX_NATIVE_OPERATIONS) (.invalid "too many native operations")
  patch.parameters.forM fun operation => do
    ensure (nativeIdentifier operation.1) (.invalid "invalid native parameter ID")
    operation.2.check NativeValue.validate

structure EngineVoiceChoice where
  id : String
  selector : VoiceSelector
  adjustments : VoiceStylePatch
  native : Option NativePatch
  deriving Repr, DecidableEq

structure EngineLayeredVoiceDefinition where
  id : String
  language : Option String
  shared : SharedVoiceStyle
  choices : List EngineVoiceChoice
  deriving Repr, DecidableEq

def EngineVoiceChoice.validateNative (choice : EngineVoiceChoice) : Except ParameterError Unit :=
  match choice.native with
  | none => .ok ()
  | some native => do
      native.validateShape
      ensure (choice.selector.engineId == some native.engineId) .identityMismatch

namespace EngineLayeredVoiceDefinition

def commonProjection (layered : EngineLayeredVoiceDefinition) : LayeredVoiceDefinition where
  id := layered.id
  language := layered.language
  shared := layered.shared
  choices := layered.choices.map fun choice => ⟨choice.id, choice.selector, choice.adjustments⟩

def validate (layered : EngineLayeredVoiceDefinition) : Except NativeChoiceError Unit := do
  layered.commonProjection.validate.mapError .common
  layered.choices.forM fun choice => choice.validateNative.mapError .native

end EngineLayeredVoiceDefinition

/-! ## Registered definitions -/

/-- One member of a complete replacement registry, not a separate generation domain. -/
inductive RegisteredVoiceDefinition where
  | legacy (definition : LogicalVoiceDefinition)
  | layered (definition : LayeredVoiceDefinition)
  | engineLayered (definition : EngineLayeredVoiceDefinition)
  deriving Repr, DecidableEq

namespace RegisteredVoiceDefinition

/-- The definition by which a member is resolved. -/
def projection : RegisteredVoiceDefinition → LogicalVoiceDefinition
  | .legacy definition => definition
  | .layered definition => definition.legacyProjection
  | .engineLayered definition => definition.commonProjection.legacyProjection

def isEngineLayered : RegisteredVoiceDefinition → Bool
  | .engineLayered _ => true
  | _ => false

end RegisteredVoiceDefinition

/-- Identifiers that pass are distinct. -/
theorem validateDefinitions_ok {ids : List String} {definitions : List LogicalVoiceDefinition}
    (validated : validateDefinitions ids definitions = .ok ()) :
    (definitions.map LogicalVoiceDefinition.id).Nodup ∧
      ∀ definition ∈ definitions, definition.id ∉ ids := by
  induction definitions generalizing ids with
  | nil => simp
  | cons definition rest ih =>
      rw [validateDefinitions, bind_eq_ok] at validated
      obtain ⟨_, _, validated⟩ := validated
      rw [bind_eq_ok] at validated
      obtain ⟨_, fresh, validated⟩ := validated
      rw [ensure_eq_ok, Bool.not_eq_true', List.contains_eq_mem, decide_eq_false_iff_not] at fresh
      rw [bind_eq_ok] at validated
      obtain ⟨_, _, validated⟩ := validated
      rw [bind_eq_ok] at validated
      obtain ⟨_, _, validated⟩ := validated
      rw [bind_eq_ok] at validated
      obtain ⟨_, _, further⟩ := validated
      obtain ⟨distinct, unseen⟩ := ih further
      constructor
      · rw [List.map_cons, List.nodup_cons]
        refine ⟨?_, distinct⟩
        intro repeated
        obtain ⟨other, member, same⟩ := List.mem_map.mp repeated
        exact unseen other member (same ▸ List.mem_cons_self)
      · refine List.forall_mem_cons.mpr ⟨fresh, ?_⟩
        intro other member seenBefore
        exact unseen other member (List.mem_cons_of_mem _ seenBefore)

/-- **An admitted registration names each voice once.** -/
theorem validateRegistration_ok {definitions : List LogicalVoiceDefinition}
    {fallbackPolicy : FallbackPolicy}
    (validated : validateRegistration definitions fallbackPolicy = .ok ()) :
    (definitions.map LogicalVoiceDefinition.id).Nodup := by
  rw [validateRegistration, bind_eq_ok] at validated
  obtain ⟨_, _, validated⟩ := validated
  rw [bind_eq_ok] at validated
  obtain ⟨_, checked, _⟩ := validated
  exact (validateDefinitions_ok checked).1

end Omnivox.Engines
