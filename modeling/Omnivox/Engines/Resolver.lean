import Mathlib
import Omnivox.Engines.Contracts
import Omnivox.Foundations.Bounded
import Omnivox.Foundations.Fallible
import Omnivox.Foundations.Keyed

/-!
# Voice resolution

Deterministic resolution of portable logical voices against the runtime inventory. The
search considers one selector after another and returns with the first usable voice.
Until then each selector leaves an attempt with the failure that ruled it out.
-/

set_option autoImplicit false

namespace Omnivox.Engines

open Foundations

/-- Stage at which a selector was considered. -/
inductive ResolutionStage where
  | preference (index : Nat)
  | sameLanguageOnRequestedEngine
  | preferredEngine (index : Nat)
  | globalDefault
  | fallbackEngine (index : Nat)
  deriving Repr, DecidableEq

/-- Why a selector could not be used. -/
inductive ResolutionFailure where
  | engineNotFound (engineId : String)
  | engineUnavailable (engineId reason : String)
  | engineFailed (engineId reason : String)
  | voiceNotFound (id : PhysicalVoiceId)
  | voiceUnavailable (id : PhysicalVoiceId) (reason : String)
  | textUnsupported (engineId : String) (textRepertoire : TextRepertoire)
      (utf8Offset codepoint : Nat)
  | noMatchingVoice
  deriving Repr, DecidableEq

/-- One failed selector, retained for diagnostics. -/
structure ResolutionAttempt where
  stage : ResolutionStage
  selector : VoiceSelector
  failure : ResolutionFailure
  deriving Repr, DecidableEq

/-- Why the realized voice was selected. -/
inductive ResolutionReason where
  | preferred
  | explicitAlternative (preferenceIndex : Nat)
  | sameLanguageOnRequestedEngine
  | preferredEngine (preferredIndex : Nat)
  | globalDefault
  | fallbackEngine (fallbackIndex : Nat)
  deriving Repr, DecidableEq

/-- Successful late binding of one logical voice. -/
structure VoiceResolution where
  logicalVoiceId : String
  requested : Option VoiceSelector
  realized : PhysicalVoiceId
  reason : ResolutionReason
  failedAttempts : List ResolutionAttempt
  deriving Repr, DecidableEq

/-- No configured or policy fallback could speak the logical voice. -/
structure VoiceResolutionError where
  logicalVoiceId : String
  attempts : List ResolutionAttempt
  deriving Repr, DecidableEq

/-! ## One engine -/

/-- `str::eq_ignore_ascii_case`. -/
def eqIgnoreAsciiCase (first second : String) : Bool :=
  first.toList.map Char.toLower == second.toList.map Char.toLower

def languageMatches (voice : VoiceDescriptor) : Option String → Bool
  | none => true
  | some requested =>
      match voice.language with
      | some actual => eqIgnoreAsciiCase actual requested
      | none => false

/-- The default voice first, then the order of the identifiers. -/
def voiceKey (engine : EngineDescriptor) (voice : VoiceDescriptor) : Bool ×ₗ String :=
  toLex (engine.defaultVoiceId != some voice.id.voiceId, voice.id.voiceId)

/-- The voices of an engine that a property search may choose. -/
def matchingVoices (engine : EngineDescriptor) (language : Option String)
    (gender : Option VoiceGender) : List VoiceDescriptor :=
  engine.voices.filter fun voice =>
    voice.availability.isAvailable && languageMatches voice language &&
      (gender == none || voice.gender == gender)

def chooseVoice (engine : EngineDescriptor) (language : Option String)
    (gender : Option VoiceGender) : Except ResolutionFailure PhysicalVoiceId :=
  let voices := sortBy (voiceKey engine) (matchingVoices engine language gender)
  orError .noMatchingVoice (voices.head?.map VoiceDescriptor.id)

def textFailure (engine : EngineDescriptor) (text : List Char) : Option ResolutionFailure :=
  (engine.textRepertoire.firstUnsupported text).map fun unsupported =>
    .textUnsupported engine.id engine.textRepertoire unsupported.1 unsupported.2.toNat

def ensureTextSupported (engine : EngineDescriptor) (text : Option (List Char)) :
    Except ResolutionFailure Unit :=
  match text.bind (textFailure engine) with
  | some failure => .error failure
  | none => .ok ()

/-! ## One selector -/

def findUsableEngine (engines : List EngineDescriptor) (engineId : String)
    (permissions : EngineSelectionPermissions) : Except ResolutionFailure EngineDescriptor := do
  ensure (!permissions.disabled engineId)
    (.engineUnavailable engineId "disabled by local engine configuration")
  let engine ← orError (.engineNotFound engineId)
    (engines.find? fun engine => engine.id == engineId)
  match engine.availability, engine.health with
  | .unavailable reason, _ => .error (.engineUnavailable engineId reason)
  | .available, .failed reason => .error (.engineFailed engineId reason)
  | .available, _ => .ok engine

def evaluateExact (engines : List EngineDescriptor) (id : PhysicalVoiceId)
    (text : Option (List Char)) (permissions : EngineSelectionPermissions) :
    Except ResolutionFailure PhysicalVoiceId := do
  let engine ← findUsableEngine engines id.engineId permissions
  let voice ← orError (.voiceNotFound id) (engine.voice id.voiceId)
  match voice.availability with
  | .available => do
      ensureTextSupported engine text
      return voice.id
  | .unavailable reason => .error (.voiceUnavailable id reason)

/-- Where an engine stands among the preferred ones. -/
def enginePriority (preferredEngines : List String) (engine : EngineDescriptor) : Nat :=
  (preferredEngines.findIdx? (· == engine.id)).getD usizeMax

/-- Preferred engines first, then the order of the identifiers. -/
def engineKey (preferredEngines : List String) (engine : EngineDescriptor) : Nat ×ₗ String :=
  toLex (enginePriority preferredEngines engine, engine.id)

/-- The first candidate with a voice for the text. The failure kept is that of the first
candidate with a voice. -/
def tryCandidates (language : Option String) (gender : Option VoiceGender)
    (text : Option (List Char)) :
    Option ResolutionFailure → List EngineDescriptor → Except ResolutionFailure PhysicalVoiceId
  | firstTextFailure, [] => .error (firstTextFailure.getD .noMatchingVoice)
  | firstTextFailure, engine :: rest =>
      match chooseVoice engine language gender with
      | .error _ => tryCandidates language gender text firstTextFailure rest
      | .ok voice =>
          match text.bind (textFailure engine) with
          | some failure =>
              tryCandidates language gender text (firstTextFailure.or (some failure)) rest
          | none => .ok voice

def chooseAcrossEngines (engines : List EngineDescriptor) (language : Option String)
    (gender : Option VoiceGender) (preferredEngines : List String) (text : Option (List Char))
    (permissions : EngineSelectionPermissions) : Except ResolutionFailure PhysicalVoiceId :=
  let candidates := engines.filter fun engine =>
    engine.canSynthesize && permissions.permitsAutomatic engine.id
  tryCandidates language gender text none (sortBy (engineKey preferredEngines) candidates)

/-- The listed voice that an engine offers for a text. -/
def evaluateOnEngine (engines : List EngineDescriptor) (engineId : String)
    (language : Option String) (gender : Option VoiceGender) (text : Option (List Char))
    (permissions : EngineSelectionPermissions) : Except ResolutionFailure PhysicalVoiceId := do
  let engine ← findUsableEngine engines engineId permissions
  let voice ← chooseVoice engine language gender
  ensureTextSupported engine text
  return voice

def evaluateSelector (engines : List EngineDescriptor) (preferredEngines : List String)
    (text : Option (List Char)) (permissions : EngineSelectionPermissions) :
    VoiceSelector → Except ResolutionFailure PhysicalVoiceId
  | .exact id => evaluateExact engines id text permissions
  | .engineDefault engineId => evaluateOnEngine engines engineId none none text permissions
  | .properties (some engineId) language gender =>
      evaluateOnEngine engines engineId language gender text permissions
  | .properties none language gender =>
      chooseAcrossEngines engines language gender preferredEngines text permissions

/-! ## The search -/

def success (definition : LogicalVoiceDefinition) (realized : PhysicalVoiceId)
    (reason : ResolutionReason) (failedAttempts : List ResolutionAttempt) : VoiceResolution where
  logicalVoiceId := definition.id
  requested := definition.preferences.head?
  realized := realized
  reason := reason
  failedAttempts := failedAttempts

/-- Consider one selector. A usable voice ends the search, which is the exceptional answer
here. A failure is noted and the search goes on. -/
def consider (definition : LogicalVoiceDefinition)
    (evaluate : VoiceSelector → Except ResolutionFailure PhysicalVoiceId)
    (attempts : List ResolutionAttempt) (stage : ResolutionStage) (reason : ResolutionReason)
    (selector : VoiceSelector) : Except VoiceResolution (List ResolutionAttempt) :=
  match evaluate selector with
  | .ok realized => .error (success definition realized reason attempts)
  | .error failure => .ok (attempts ++ [⟨stage, selector, failure⟩])

def preferenceReason (index : Nat) : ResolutionReason :=
  if index = 0 then .preferred else .explicitAlternative index

/-- The selector of the stage between the preferences and the policy. -/
def sameLanguageSelector (definition : LogicalVoiceDefinition) (policy : FallbackPolicy) :
    Option VoiceSelector :=
  if policy.allowSameLanguageOnRequestedEngine then do
    let engineId ← definition.preferences.head?.bind VoiceSelector.engineId
    let language ← definition.language
    return .properties (some engineId) (some language) none
  else none

/-- Consider each selector of a list in turn. -/
def considerEach (definition : LogicalVoiceDefinition)
    (evaluate : VoiceSelector → Except ResolutionFailure PhysicalVoiceId)
    (stage : Nat → ResolutionStage) (reason : Nat → ResolutionReason)
    (selectors : List VoiceSelector) (attempts : List ResolutionAttempt) :
    Except VoiceResolution (List ResolutionAttempt) :=
  selectors.zipIdx.foldlM (fun attempts numbered =>
    consider definition evaluate attempts (stage numbered.2) (reason numbered.2) numbered.1)
    attempts

def considerOptional (definition : LogicalVoiceDefinition)
    (evaluate : VoiceSelector → Except ResolutionFailure PhysicalVoiceId)
    (stage : ResolutionStage) (reason : ResolutionReason) (attempts : List ResolutionAttempt) :
    Option VoiceSelector → Except VoiceResolution (List ResolutionAttempt)
  | some selector => consider definition evaluate attempts stage reason selector
  | none => .ok attempts

/-- A search that ended early has its resolution, and one that went through has none. -/
def conclude (definition : LogicalVoiceDefinition) :
    Except VoiceResolution (List ResolutionAttempt) → Except VoiceResolutionError VoiceResolution
  | .error resolution => .ok resolution
  | .ok attempts => .error ⟨definition.id, attempts⟩

/-- Resolve with immutable local registration permissions at every stage. -/
def resolveVoiceWithPermissions (engines : List EngineDescriptor)
    (definition : LogicalVoiceDefinition) (policy : FallbackPolicy) (text : Option (List Char))
    (permissions : EngineSelectionPermissions) : Except VoiceResolutionError VoiceResolution :=
  let evaluate := evaluateSelector engines policy.preferredEngines text permissions
  conclude definition do
    let attempts ← considerEach definition evaluate .preference preferenceReason
      definition.preferences []
    let attempts ← considerOptional definition evaluate .sameLanguageOnRequestedEngine
      .sameLanguageOnRequestedEngine attempts (sameLanguageSelector definition policy)
    let attempts ← considerEach definition evaluate .preferredEngine .preferredEngine
      (policy.preferredEngines.map .engineDefault) attempts
    let attempts ← considerOptional definition evaluate .globalDefault .globalDefault attempts
      policy.globalDefault
    considerEach definition evaluate .fallbackEngine .fallbackEngine
      (policy.fallbackEngines.map .engineDefault) attempts

end Omnivox.Engines
