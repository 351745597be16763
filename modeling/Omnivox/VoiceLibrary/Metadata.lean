import Mathlib
import Omnivox.Engines.VoiceDefinitions
import Omnivox.Foundations.Fallible

/-!
# Voice-library metadata

Identifiers, asset records and their checks, which the desired state and the
runtime generation of a voice library share. A check never opens a file.

An index and a generation both list the voices that are not to be spoken. The
list is sorted and free of repetitions, so there is one for each set of voices
(`exclusions_eq_ok`).
-/

set_option autoImplicit false

namespace Omnivox.VoiceLibrary

open Foundations
open Engines (PhysicalVoiceId isControl isAscii)

def MAX_RUNTIME_BYTES : Nat := 1024 * 1024
def MAX_INDEX_BYTES : Nat := 8 * 1024 * 1024
def MAX_PIPER_MODELS : Nat := 64
def MAX_FLITE_FILES : Nat := 64
def MAX_PROJECTED_VOICES : Nat := 256
def MAX_DISABLED_VOICES : Nat := 4096
def MAX_PACKAGE_REVISIONS : Nat := 1024
def MAX_INDEX_VOICES : Nat := 4096
def MAX_RHVOICE_FILES : Nat := 128
def MBROLA_EN1 : String := "mbrola:v1/mb-en1/en1"

/-! ## Errors -/

inductive LibraryError where
  | invalid (reason : String)
  | json (reason : String)
  | io (reason : String)
  | asset (path reason : String)
  deriving Repr, DecidableEq

/-- The speech host's path rules, which may differ from the manager's system. -/
inductive HostPlatform where
  | windows
  | posix
  deriving Repr, DecidableEq

def require (condition : Bool) (reason : String) : Except LibraryError Unit :=
  ensure condition (.invalid reason)

@[simp] theorem require_eq_ok {condition : Bool} {reason : String} {u : Unit} :
    require condition reason = .ok u ↔ condition = true :=
  ensure_eq_ok

/-! ## Strings -/

/-- What follows a prefix of a string. -/
def stripPrefix (start value : String) : Option (List Char) :=
  if start.toList <+: value.toList then some (value.toList.drop start.length) else none

def validText (value : String) (max : Nat) : Bool :=
  !value.isEmpty && value.utf8ByteSize ≤ max && !value.toList.any isControl

def text (value : String) (max : Nat) : Except LibraryError Unit :=
  require (validText value max) "empty, oversized or control-containing string"

def isHexDigit (c : Char) : Bool := c.isDigit || ('a' ≤ c && c ≤ 'f')

def isLowerOrDigit (c : Char) : Bool := ('a' ≤ c && c ≤ 'z') || c.isDigit

/-- A byte of a character outside ASCII is neither a digit nor a dash, so the
positions of bytes are those of characters. -/
def canonicalUuid (value : String) : Bool :=
  value.utf8ByteSize = 36 && value.toList.zipIdx.all fun entry =>
    if [8, 13, 18, 23].contains entry.2 then entry.1 == '-' else isHexDigit entry.1

def uuid (value : String) : Except LibraryError Unit :=
  require (canonicalUuid value) "UUID must have canonical lowercase spelling"

def sha256 (value : String) : Except LibraryError Unit :=
  require (value.utf8ByteSize = 64 && value.toList.all isHexDigit)
    "SHA-256 must be 64 lowercase hexadecimal digits"

def speaker (value : Nat) : Except LibraryError Unit :=
  require (value ≤ 2 ^ 31 - 1) "speaker index exceeds native range"

def legacyPiperId (value : String) : Bool :=
  match stripPrefix "piper:" value with
  | none => false
  | some stem =>
      !stem.isEmpty && !("v1/".toList.isPrefixOf stem) &&
        !stem.any (fun c => c == '/' || c == '\\') && validText value (16 * 1024)

/-- A drive letter with a separator behind it. -/
def drivePath (value : List Char) : Bool :=
  match value with
  | drive :: colon :: separator :: _ =>
      drive.isAlpha && colon == ':' && (separator == '\\' || separator == '/')
  | _ => false

/-- A server that is not a device prefix, and a share. -/
def uncPath (value : String) : Bool :=
  match stripPrefix "\\\\" value with
  | none => false
  | some tail =>
      let parts := tail.splitOn '\\'
      let server := parts.headD []
      let share := parts.tail.headD []
      !server.isEmpty && server != ['.'] && server != ['?'] && !share.isEmpty

def absolutePath (value : String) : HostPlatform → Bool
  | .posix => value.toList.head? == some '/'
  | .windows => drivePath value.toList || uncPath value

def nativePath (value : String) (host : HostPlatform) : Except LibraryError Unit := do
  text value 4096
  require (absolutePath value host) "asset path is not absolute on the speech host"

def voiceMetadata (name : String) (language : Option String) : Except LibraryError Unit := do
  text name 256
  match language with
  | some language => text language 64
  | none => .ok ()

/-- Native and legacy voice IDs retain their spelling, including Unicode. -/
def physicalId (engine voice : String) : Except LibraryError Unit := do
  text engine 128
  require (engine.toList.all isAscii) "engine ID must be ASCII"
  text voice (16 * 1024)

/-! ## Model identities -/

/-- Immutable identity independent of filenames, package revisions and labels. -/
inductive ModelIdentity where
  | catalogue (catalogueKey : String)
  | imported (importId : String)
  deriving Repr, DecidableEq

namespace ModelIdentity

def validate : ModelIdentity → Except LibraryError Unit
  | .catalogue key => do
      require (!key.isEmpty && key.utf8ByteSize ≤ 96) "invalid catalogue key"
      require (key.toList.head?.any isLowerOrDigit) "invalid catalogue key prefix"
      require (key.toList.all fun c => isLowerOrDigit c || c == '-' || c == '_')
        "invalid catalogue key"
  | .imported importId => uuid importId

def sortKey : ModelIdentity → String ×ₗ String
  | .catalogue key => toLex ("c", key)
  | .imported importId => toLex ("i", importId)

theorem sortKey_injective : Function.Injective sortKey := by
  intro first second same
  cases first <;> cases second <;>
    simp [sortKey, Prod.ext_iff] at same ⊢ <;> exact same

/-- The canonical identity for a native speaker index. -/
def piperVoiceId (identity : ModelIdentity) (speakerIndex : Nat) :
    Except LibraryError String := do
  identity.validate
  speaker speakerIndex
  let (space, key) := ofLex identity.sortKey
  return s!"piper:v1/{space}/{key}/{speakerIndex}"

def isImport : ModelIdentity → Bool
  | .catalogue _ => false
  | .imported _ => true

def validateBinding (identity : ModelIdentity) (id : String) (index : Nat) :
    Except LibraryError Unit := do
  let canonical ← identity.piperVoiceId index
  if id = canonical then .ok ()
  else
    require (identity.isImport && index = 0 && legacyPiperId id)
      "Piper voice identity does not match its model and speaker"

end ModelIdentity

/-! ## Assets -/

/-- A declared asset. -/
structure AssetFile where
  path : String
  bytes : Nat
  sha256 : String
  deriving Repr, DecidableEq

def AssetFile.validate (asset : AssetFile) (host : HostPlatform) : Except LibraryError Unit := do
  nativePath asset.path host
  require (0 < asset.bytes) "asset size must be positive"
  VoiceLibrary.sha256 asset.sha256

/-- A reviewed frontend, by the database that it reads. -/
structure MbrolaProfile where
  physicalId : String
  frontend : String
  databaseSha256 : String
  deriving Repr, DecidableEq

def reviewedProfiles : List MbrolaProfile :=
  [⟨MBROLA_EN1, "mb-en1", "edb8eaae6f0e38493d88ed627518632e6ff8a3843bcf08474a1a70aa786fd99f"⟩,
    ⟨"mbrola:v1/mb-us1/us1", "mb-us1",
      "9f1cd90de6334f43cb4f7348cacd0806fb414b0fbc762492bde7000b9e192a9a"⟩,
    ⟨"mbrola:v1/mb-us2/us2", "mb-us2",
      "75f7f6b605945f4b65713c3ad1fba5be38fb720cde01bdc3d2facf988634c0d5"⟩,
    ⟨"mbrola:v1/mb-us3/us3", "mb-us3",
      "7cc5c49e098f80091e34ed0bd50f0af3908ac2427fbbe7d2b16c57defb7611ec"⟩]

def MbrolaProfile.forId (id : String) : Except LibraryError MbrolaProfile :=
  orError (.invalid "unreviewed MBROLA frontend/database binding")
    (reviewedProfiles.find? fun profile => profile.physicalId == id)

def MbrolaProfile.validateDatabase (profile : MbrolaProfile) (file : AssetFile) :
    Except LibraryError Unit :=
  require (file.sha256 == profile.databaseSha256)
    "MBROLA database does not match its frontend profile"

def rhvoiceName (name : List Char) : Bool :=
  !name.isEmpty && String.utf8Len name ≤ 128 &&
    name.all fun c => c.isAlphanum || c == '_' || c == '-'

def rhvoiceId (value : String) : Except LibraryError Unit := do
  physicalId "rhvoice" value
  require ((stripPrefix "rhvoice:" value).any rhvoiceName) "invalid RHVoice physical ID"

def fliteId (value : String) : Except LibraryError Unit := do
  physicalId "flite" value
  require ((stripPrefix "flitevox:" value).any fun name => !name.isEmpty)
    "invalid external Flite voice ID"

/-! ## Exclusions -/

/-- Physical voices are ordered by engine and then by voice. -/
def voiceKey (id : PhysicalVoiceId) : String ×ₗ String := toLex (id.engineId, id.voiceId)

/-- A key above the one before it. -/
def ascends {K : Type} [LinearOrder K] (previous : Option K) (key : K) : Bool :=
  previous.all fun old => old < key

def exclusionsFrom : Option (String ×ₗ String) → List PhysicalVoiceId →
    Except LibraryError Unit
  | _, [] => .ok ()
  | previous, value :: rest => do
      physicalId value.engineId value.voiceId
      require (ascends previous (voiceKey value)) "disabled voices must be sorted and unique"
      exclusionsFrom (some (voiceKey value)) rest

def exclusions (values : List PhysicalVoiceId) : Except LibraryError Unit := do
  require (values.length ≤ MAX_DISABLED_VOICES) "too many disabled voices"
  exclusionsFrom none values

theorem exclusionsFrom_eq_ok {previous : Option (String ×ₗ String)}
    {values : List PhysicalVoiceId} {u : Unit} :
    exclusionsFrom previous values = .ok u ↔
      (∀ value ∈ values, physicalId value.engineId value.voiceId = .ok ()) ∧
        values.Pairwise (fun first second => voiceKey first < voiceKey second) ∧
          ∀ old ∈ previous, ∀ value ∈ values, old < voiceKey value := by
  induction values generalizing previous with
  | nil =>
      constructor
      · intro _
        exact ⟨by simp, List.Pairwise.nil, by simp⟩
      · intro _
        rfl
  | cons value rest ih =>
      rw [exclusionsFrom, seq_eq_ok, seq_eq_ok, require_eq_ok, ih, List.forall_mem_cons,
        List.pairwise_cons]
      have first : ascends previous (voiceKey value) = true ↔
          ∀ old ∈ previous, old < voiceKey value := by
        cases previous with
        | none => simp [ascends]
        | some old => simp [ascends]
      rw [first]
      constructor
      · rintro ⟨named, above, others, sorted, behind⟩
        have later : ∀ other ∈ rest, voiceKey value < voiceKey other :=
          behind (voiceKey value) rfl
        refine ⟨⟨named, others⟩, ⟨later, sorted⟩, fun old held => ?_⟩
        exact List.forall_mem_cons.mpr
          ⟨above old held, fun other member => lt_trans (above old held) (later other member)⟩
      · rintro ⟨⟨named, others⟩, ⟨later, sorted⟩, behind⟩
        refine ⟨named, fun old held => behind old held value List.mem_cons_self, others, sorted, ?_⟩
        rintro old held other member
        obtain rfl : voiceKey value = old := Option.some.inj held
        exact later other member

/-- **An accepted list of exclusions is sorted and has no voice twice.** -/
theorem exclusions_eq_ok {values : List PhysicalVoiceId} {u : Unit} :
    exclusions values = .ok u ↔
      values.length ≤ MAX_DISABLED_VOICES ∧
        (∀ value ∈ values, physicalId value.engineId value.voiceId = .ok ()) ∧
          values.Pairwise fun first second => voiceKey first < voiceKey second := by
  rw [exclusions, seq_eq_ok, require_eq_ok, decide_eq_true_iff, exclusionsFrom_eq_ok]
  simp

end Omnivox.VoiceLibrary
