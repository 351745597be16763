import Mathlib
import Omnivox.Engines.Styles

/-!
# Engines and their voices

Descriptions shared by engines, voice configuration and discovery: the inventory that
routing reads, the selectors that name a voice, and the policy that applies after a
logical voice's own preferences.

An engine accepts the characters of its text repertoire. It lists its voices, and a
bundled eSpeak variant combines with a listed base on demand (`EngineDescriptor.voice`).
-/

set_option autoImplicit false

namespace Omnivox.Engines

/-! ## Engines -/

/-- Stable identity for a physical voice. -/
structure PhysicalVoiceId where
  engineId : String
  voiceId : String
  deriving Repr, DecidableEq

/-- Whether an engine or voice can currently be used. -/
inductive Availability where
  | available
  | unavailable (reason : String)
  deriving Repr, DecidableEq

def Availability.isAvailable : Availability → Bool
  | .available => true
  | .unavailable _ => false

/-- Runtime health of an available engine. -/
inductive EngineHealth where
  | healthy
  | degraded (reason : String)
  | failed (reason : String)
  deriving Repr, DecidableEq

/-- A degraded engine may still synthesize and therefore remains eligible. -/
def EngineHealth.canSynthesize : EngineHealth → Bool
  | .failed _ => false
  | _ => true

/-- Coarse voice traits that may be used in portable selectors. -/
inductive VoiceGender where
  | female
  | male
  | neutral
  deriving Repr, DecidableEq

/-- A physical voice discovered from one engine. -/
structure VoiceDescriptor where
  id : PhysicalVoiceId
  displayName : String
  language : Option String
  gender : Option VoiceGender
  availability : Availability
  deriving Repr, DecidableEq

/-- One bundled eSpeak variant, combined with an existing base on demand. -/
structure EspeakVariantDescriptor where
  id : String
  displayName : String
  deriving Repr, DecidableEq

/-! ## Text repertoires -/

/-- Source-text repertoire an engine accepts without replacement or loss. -/
inductive TextRepertoire where
  | unknown
  | unicode
  | windows1252
  | iso88591
  | koi8R
  deriving Repr, DecidableEq

/-- `char::is_ascii`. -/
def isAscii (character : Char) : Bool := character.val < 0x80

def windows1252Supports (character : Char) : Bool :=
  isAscii character || (0xa0 ≤ character.val && character.val ≤ 0xff) ||
    [0x20ac, 0x201a, 0x0192, 0x201e, 0x2026, 0x2020, 0x2021, 0x02c6, 0x2030, 0x0160, 0x2039,
      0x0152, 0x017d, 0x2018, 0x2019, 0x201c, 0x201d, 0x2022, 0x2013, 0x2014, 0x02dc, 0x2122,
      0x0161, 0x203a, 0x0153, 0x017e, 0x0178].contains character.val

namespace TextRepertoire

def supportsCharacter : TextRepertoire → Char → Bool
  | .unicode, _ => true
  | .iso88591, character => character.val ≤ 0xff
  | .windows1252, character => windows1252Supports character
  | .koi8R, character =>
      isAscii character || character.val == 0x401 || character.val == 0x451 ||
        (0x410 ≤ character.val && character.val ≤ 0x44f)
  | .unknown, character => isAscii character

/-- The first character from an offset on that the repertoire cannot encode. -/
def firstUnsupportedFrom (repertoire : TextRepertoire) : Nat → List Char → Option (Nat × Char)
  | _, [] => none
  | offset, character :: rest =>
      if repertoire.supportsCharacter character then
        repertoire.firstUnsupportedFrom (offset + character.utf8Size) rest
      else some (offset, character)

/-- The first source character this repertoire cannot encode, by its byte offset. -/
def firstUnsupported (repertoire : TextRepertoire) (text : List Char) : Option (Nat × Char) :=
  repertoire.firstUnsupportedFrom 0 text

def supportsText (repertoire : TextRepertoire) (text : List Char) : Bool :=
  (repertoire.firstUnsupported text).isNone

theorem firstUnsupportedFrom_eq_none {repertoire : TextRepertoire} {offset : Nat}
    {text : List Char} :
    repertoire.firstUnsupportedFrom offset text = none ↔
      ∀ character ∈ text, repertoire.supportsCharacter character = true := by
  induction text generalizing offset with
  | nil => simp [firstUnsupportedFrom]
  | cons character rest ih =>
      rw [firstUnsupportedFrom, List.forall_mem_cons]
      split
      · rename_i supported
        rw [ih, and_iff_right supported]
      · rename_i unsupported
        simp [unsupported]

/-- A text is supported when each of its characters is. -/
theorem supportsText_iff {repertoire : TextRepertoire} {text : List Char} :
    repertoire.supportsText text = true ↔
      ∀ character ∈ text, repertoire.supportsCharacter character = true := by
  rw [supportsText, Option.isNone_iff_eq_none]
  exact firstUnsupportedFrom_eq_none

end TextRepertoire

/-! ## Descriptors -/

/-- The text between the first occurrence of a character and the ends. -/
def splitOnce (separator : Char) (text : List Char) : Option (List Char × List Char) :=
  match text.dropWhile (· != separator) with
  | [] => none
  | _ :: suffix => some (text.takeWhile (· != separator), suffix)

/-- A part of a native identifier. -/
def safePart (part : List Char) : Bool :=
  !part.isEmpty && part.all fun c => (isAscii c && c.isAlphanum) || c == '-' || c == '_'

/-- The exact native identifier, without filesystem access or aliases. -/
def validEspeakCombination (id : String) : Bool :=
  if "espeak:".toList <+: id.toList then
    let native := id.toList.drop 7
    match splitOnce '+' native with
    | none => false
    | some (base, variant) =>
        String.utf8Len native ≤ 39 &&
          (base.splitOnP fun c => c == '/' || c == '\\').all safePart && safePart variant &&
          !(variant.headD '0').isDigit
  else false

/-- Runtime description of one speech engine, as far as routing reads it. -/
structure EngineDescriptor where
  id : String
  availability : Availability
  health : EngineHealth
  acss : AcssCapabilities
  textRepertoire : TextRepertoire
  postSynthesisDimensions : List PostSynthesisDimension
  voices : List VoiceDescriptor
  defaultVoiceId : Option String
  espeakVariants : List EspeakVariantDescriptor
  deriving Repr, DecidableEq

namespace EngineDescriptor

def canSynthesize (engine : EngineDescriptor) : Bool :=
  engine.availability.isAvailable && engine.health.canSynthesize

/-- The listed voice of an identifier. -/
def listedVoice (engine : EngineDescriptor) (id : String) : Option VoiceDescriptor :=
  engine.voices.find? fun voice => voice.id.voiceId == id

/-- Resolve an advertised voice or a validated bundled eSpeak combination. -/
def voice (engine : EngineDescriptor) (id : String) : Option VoiceDescriptor :=
  match engine.listedVoice id with
  | some voice => some voice
  | none =>
      if engine.id != "espeak" || !validEspeakCombination id then none
      else do
        let (base, suffix) ← splitOnce '+' id.toList
        let variant ← engine.espeakVariants.find? fun variant =>
          variant.id.toList == suffix
        let voice ← engine.listedVoice (String.ofList base)
        return { voice with
          id := { voice.id with voiceId := id }
          displayName := s!"{voice.displayName} + {variant.displayName}"
          gender := none }

end EngineDescriptor

/-! ## Selectors and policies -/

/-- Portable or exact request for a physical voice. -/
inductive VoiceSelector where
  | exact (id : PhysicalVoiceId)
  | engineDefault (engineId : String)
  | properties (engineId : Option String) (language : Option String)
      (gender : Option VoiceGender)
  deriving Repr, DecidableEq

def VoiceSelector.engineId : VoiceSelector → Option String
  | .exact id => some id.engineId
  | .engineDefault engineId => some engineId
  | .properties engineId _ _ => engineId

/-- Stable Emacs/ACSS voice name and its portable ordered preferences. -/
structure LogicalVoiceDefinition where
  id : String
  language : Option String
  preferences : List VoiceSelector
  acss : NormalizedAcss
  effects : PostSynthesisStyle
  deriving Repr, DecidableEq

/-- Machine or session policy applied after a logical voice's explicit preferences. -/
structure FallbackPolicy where
  preferredEngines : List String
  allowSameLanguageOnRequestedEngine : Bool
  globalDefault : Option VoiceSelector
  fallbackEngines : List String
  deriving Repr, DecidableEq

/-- Host-owned permission floors. An explicit permission applies only at an explicit
stage. -/
structure EngineSelectionPermissions where
  disabledEngines : List String
  explicitOnly : List String
  deriving Repr, DecidableEq

namespace EngineSelectionPermissions

/-- An external engine without automatic permission is selected explicitly only. -/
def new (disabledEngines external automatic : List String) : EngineSelectionPermissions where
  disabledEngines := disabledEngines
  explicitOnly := external.filter fun engine => !automatic.contains engine

def disabled (permissions : EngineSelectionPermissions) (engine : String) : Bool :=
  permissions.disabledEngines.contains engine

def permitsAutomatic (permissions : EngineSelectionPermissions) (engine : String) : Bool :=
  !permissions.disabled engine && !permissions.explicitOnly.contains engine

def includeDisabled (permissions : EngineSelectionPermissions) (engines : List String) :
    EngineSelectionPermissions :=
  { permissions with disabledEngines := permissions.disabledEngines ++ engines }

end EngineSelectionPermissions

end Omnivox.Engines
