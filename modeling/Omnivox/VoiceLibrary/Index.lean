import Mathlib
import Omnivox.Engines.Contracts
import Omnivox.VoiceLibrary.Metadata

/-!
# The desired state of a voice library

An index records the installed revisions of packages and the voices that they
offer. It says twice whether a voice is enabled: in the record of the voice, and
by the list of disabled voices. What an accepted index has is in `ValidIndex`:
one record for each package revision, one package for each model identity, one
record for each voice, one voice for each speaker of a model, and the two
statements about enablement in agreement (`validate_ok`).
-/

set_option autoImplicit false

namespace Omnivox.VoiceLibrary

open Foundations
open Engines (PhysicalVoiceId isAscii splitOnce)

/-! ## Records -/

inductive Provider where
  | piper
  | flite
  | mbrola
  | rhvoice
  deriving Repr, DecidableEq

def Provider.engineId : Provider → String
  | .piper => "piper"
  | .flite => "flite"
  | .mbrola => "mbrola"
  | .rhvoice => "rhvoice"

inductive Ownership where
  | managed
  | imported
  deriving Repr, DecidableEq

inductive FileRole where
  | model
  | config
  | voice
  | database
  | rhvoiceData
  deriving Repr, DecidableEq

structure IndexedFile where
  role : FileRole
  path : String
  bytes : Nat
  sha256 : String
  deriving Repr, DecidableEq

/-- The record of a file, without its role. -/
def IndexedFile.asset (file : IndexedFile) : AssetFile := ⟨file.path, file.bytes, file.sha256⟩

structure NativeValidation where
  validatorVersion : String
  targetId : String
  validatedAt : String
  fileSetSha256 : String
  deriving Repr, DecidableEq

structure CatalogueReference where
  revision : String
  entryId : String
  deriving Repr, DecidableEq

structure PackageRevision where
  packageId : String
  revisionId : String
  provider : Provider
  ownership : Ownership
  identity : ModelIdentity
  files : List IndexedFile
  validation : Option NativeValidation
  catalogue : Option CatalogueReference
  deriving Repr, DecidableEq

def PackageRevision.key (package : PackageRevision) : String × String :=
  (package.packageId, package.revisionId)

structure IndexedVoice where
  physicalId : String
  engineId : String
  displayName : String
  language : Option String
  enabled : Bool
  packageId : Option String
  revisionId : Option String
  speakerIndex : Option Nat
  legacyPhysicalId : Option String
  deriving Repr, DecidableEq

def IndexedVoice.id (voice : IndexedVoice) : PhysicalVoiceId := ⟨voice.engineId, voice.physicalId⟩

/-- Desired installation and enablement records. -/
structure IndexDocument where
  schemaVersion : Nat
  targetId : String
  profileId : String
  revisionId : String
  packages : List PackageRevision
  voices : List IndexedVoice
  disabledPhysicalIds : List PhysicalVoiceId
  deriving Repr, DecidableEq

/-! ## Packages -/

/-- A time of day or a date, read from its digits. -/
def digitsValue (digits : List Char) : Nat :=
  digits.foldl (fun value c => 10 * value + (c.toNat - '0'.toNat)) 0

def stripZone (value : List Char) : Option (List Char) :=
  if value.getLast? = some 'Z' then some value.dropLast
  else if "+00:00".toList <:+ value then some (value.take (value.length - 6))
  else none

def timestampShape (whole : List Char) : Bool :=
  whole.length = 19 && whole.zipIdx.all fun entry =>
    if [4, 7].contains entry.2 then entry.1 == '-'
    else if entry.2 = 10 then entry.1 == 'T'
    else if [13, 16].contains entry.2 then entry.1 == ':'
    else entry.1.isDigit

def daysOfMonth (year month : Nat) : Nat :=
  let leap := year % 4 = 0 && (year % 100 ≠ 0 || year % 400 = 0)
  if [1, 3, 5, 7, 8, 10, 12].contains month then 31
  else if [4, 6, 9, 11].contains month then 30
  else if month = 2 then (if leap then 29 else 28)
  else 0

def validTime (whole : List Char) : Bool :=
  let number := fun first length => digitsValue ((whole.drop first).take length)
  let day := number 8 2
  1 ≤ day && day ≤ daysOfMonth (number 0 4) (number 5 2) &&
    number 11 2 < 24 && number 14 2 < 60 && number 17 2 ≤ 60

/-- UTC with optional fractional seconds. -/
def utcTimestamp (value : String) : Except LibraryError Unit := do
  text value 64
  let value ← orError (.invalid "validation timestamp must be UTC RFC 3339")
    (stripZone value.toList)
  let (whole, fraction) := (splitOnce '.' value).elim (value, none) fun parts =>
    (parts.1, some parts.2)
  require (timestampShape whole &&
      fraction.all fun digits => !digits.isEmpty && digits.all Char.isDigit)
    "invalid validation timestamp"
  require (validTime whole) "validation timestamp has an invalid date or time"

namespace PackageRevision

def expectedRoles : Provider → List FileRole
  | .piper => [.model, .config]
  | .flite => [.voice]
  | .mbrola => [.database]
  | .rhvoice => [.rhvoiceData]

/-- Check each file, after the roles and paths seen so far. -/
def checkFiles (provider : Provider) (host : HostPlatform) :
    List FileRole → List String → List IndexedFile → Except LibraryError Unit
  | _, _, [] => .ok ()
  | roles, paths, file :: rest => do
      require ((expectedRoles provider).contains file.role &&
        (!roles.contains file.role || provider == .rhvoice)) "wrong or repeated asset role"
      require (!paths.contains file.path) "package asset paths must differ"
      nativePath file.path host
      require (0 < file.bytes) "asset size must be positive"
      VoiceLibrary.sha256 file.sha256
      checkFiles provider host (file.role :: roles) (file.path :: paths) rest

def checkCatalogue (catalogue : CatalogueReference) : Except LibraryError Unit :=
  [catalogue.revision, catalogue.entryId].forM fun value => do
    text value 128
    require (value.toList.all isAscii) "catalogue identifiers must be ASCII"

def checkValidation (validation : NativeValidation) : Except LibraryError Unit := do
  text validation.validatorVersion 128
  uuid validation.targetId
  VoiceLibrary.sha256 validation.fileSetSha256
  utcTimestamp validation.validatedAt

def fileCountFits (package : PackageRevision) : Bool :=
  if package.provider = .rhvoice then
    1 ≤ package.files.length && package.files.length ≤ MAX_RHVOICE_FILES
  else package.files.length = (expectedRoles package.provider).length

def validate (package : PackageRevision) (host : HostPlatform) : Except LibraryError Unit := do
  uuid package.packageId
  uuid package.revisionId
  package.identity.validate
  require (package.ownership ≠ .managed || package.catalogue.isSome)
    "managed package needs catalogue provenance"
  package.catalogue.toList.forM checkCatalogue
  require package.fileCountFits "wrong number of package files"
  checkFiles package.provider host [] [] package.files
  package.validation.toList.forM checkValidation

end PackageRevision

/-- The package revision that a voice names. -/
def findPackage (packages : List PackageRevision) (packageId revisionId : String) :
    Option PackageRevision :=
  packages.find? fun package => package.key == (packageId, revisionId)

/-! ## The check of an index -/

namespace IndexDocument

/-- Check each package, after those seen so far, the newest first. -/
def checkPackages (host : HostPlatform) :
    List PackageRevision → List PackageRevision → Except LibraryError Unit
  | _, [] => .ok ()
  | seen, package :: rest => do
      package.validate host
      require (seen.all fun other => other.key != package.key) "duplicate package revision"
      require ((seen.find? fun other => other.identity == package.identity).all fun other =>
        other.packageId == package.packageId) "model identity belongs to more than one package"
      require ((seen.find? fun other => other.packageId == package.packageId).all fun other =>
        other.identity == package.identity && other.provider == package.provider)
        "package changed its stable identity or provider"
      checkPackages host (package :: seen) rest

/-- The checks before a voice is bound to a model, with the speaker that it is
bound to. -/
def checkSpeaker (package : PackageRevision) (voice : IndexedVoice) : Except LibraryError Nat :=
  match package.provider with
  | .piper => do
      let index ← orError (.invalid "Piper voice needs a speaker index") voice.speakerIndex
      package.identity.validateBinding voice.physicalId index
      return index
  | .mbrola => do
      let profile ← MbrolaProfile.forId voice.physicalId
      -- a checked package of this provider has one file
      (package.files.take 1).forM fun file => profile.validateDatabase file.asset
      require (voice.speakerIndex.isNone && voice.legacyPhysicalId.isNone)
        "MBROLA voice cannot specify a speaker or legacy ID"
      return 0
  | .rhvoice => do
      rhvoiceId voice.physicalId
      require (voice.speakerIndex.isNone && voice.legacyPhysicalId.isNone)
        "RHVoice has no speaker index or legacy alias"
      return 0
  | .flite => do
      fliteId voice.physicalId
      require (voice.speakerIndex.isNone && voice.legacyPhysicalId.isNone)
        "Flite voice cannot specify a speaker or legacy Piper ID"
      return 0

def repeatedBinding : Provider → String
  | .piper => "multiple IDs refer to the same model speaker"
  | .mbrola => "MBROLA package exposes more than one voice"
  | .rhvoice => "RHVoice package exposes more than one voice"
  | .flite => "Flite package exposes more than one voice"

/-- Only a Piper voice may keep an older name, and then says so. -/
def checkLegacy (package : PackageRevision) (voice : IndexedVoice) (index : Nat) :
    Except LibraryError Unit :=
  match package.provider with
  | .piper => do
      let canonical ← package.identity.piperVoiceId index
      require (if voice.physicalId ≠ canonical then
          voice.legacyPhysicalId == some voice.physicalId
        else voice.legacyPhysicalId.isNone)
        "legacy adoption must be explicit and match the physical ID"
  | _ => .ok ()

/-- Check what a voice says about its package, after the speakers bound so far. -/
def checkReference (packages : List PackageRevision) (bindings : List (ModelIdentity × Nat))
    (voice : IndexedVoice) : Except LibraryError (List (ModelIdentity × Nat)) :=
  match voice.packageId, voice.revisionId with
  | some packageId, some revisionId => do
      let package ← orError (.invalid "voice references a missing package revision")
        (findPackage packages packageId revisionId)
      require (voice.engineId == package.provider.engineId) "voice/provider mismatch"
      let index ← checkSpeaker package voice
      require (!bindings.contains (package.identity, index)) (repeatedBinding package.provider)
      checkLegacy package voice index
      return (package.identity, index) :: bindings
  | none, none => do
      require (voice.speakerIndex.isNone && voice.legacyPhysicalId.isNone)
        "unpackaged voice cannot specify a speaker or legacy adoption"
      require (voice.engineId != "piper" &&
          (voice.engineId != "flite" || voice.physicalId == "cmu_us_slt") &&
          (voice.engineId != "mbrola" || voice.physicalId == MBROLA_EN1))
        "external voice needs a package revision"
      return bindings
  | _, _ => .error (.invalid "partial package reference")

/-- Check each voice, after the identifiers and speakers seen so far. -/
def checkVoices (packages : List PackageRevision) (disabled : List PhysicalVoiceId) :
    List PhysicalVoiceId → List (ModelIdentity × Nat) → List IndexedVoice →
      Except LibraryError Unit
  | _, _, [] => .ok ()
  | ids, bindings, voice :: rest => do
      VoiceLibrary.physicalId voice.engineId voice.physicalId
      voiceMetadata voice.displayName voice.language
      require (!ids.contains voice.id) "duplicate indexed physical voice"
      require (voice.enabled != disabled.contains voice.id)
        "enabled state contradicts disabled physical IDs"
      let bindings ← checkReference packages bindings voice
      checkVoices packages disabled (voice.id :: ids) bindings rest

def validate (document : IndexDocument) (host : HostPlatform) : Except LibraryError Unit := do
  require (1 ≤ document.schemaVersion && document.schemaVersion ≤ 3) "unsupported index schema"
  require (2 ≤ document.schemaVersion ||
      (!(document.packages.any fun package => package.provider == .mbrola) &&
        !(document.voices.any fun voice => voice.engineId == "mbrola")))
    "MBROLA requires index schema 2"
  require (document.schemaVersion = 3 ||
      !(document.packages.any fun package => package.provider == .rhvoice))
    "RHVoice requires index schema 3"
  uuid document.targetId
  uuid document.profileId
  uuid document.revisionId
  exclusions document.disabledPhysicalIds
  require (document.packages.length ≤ MAX_PACKAGE_REVISIONS) "too many package revisions"
  require (document.voices.length ≤ MAX_INDEX_VOICES) "too many indexed voices"
  checkPackages host [] document.packages
  checkVoices document.packages document.disabledPhysicalIds [] [] document.voices

end IndexDocument

/-! ## What an accepted index has -/

/-- Two package records that may stand side by side. -/
structure Compatible (first second : PackageRevision) : Prop where
  distinct : first.key ≠ second.key
  owner : first.identity = second.identity → first.packageId = second.packageId
  stable : first.packageId = second.packageId →
    first.identity = second.identity ∧ first.provider = second.provider

theorem Compatible.symm {first second : PackageRevision} (fit : Compatible first second) :
    Compatible second first where
  distinct := fit.distinct.symm
  owner same := (fit.owner same.symm).symm
  stable same := ⟨(fit.stable same.symm).1.symm, (fit.stable same.symm).2.symm⟩

instance : Std.Symm Compatible := ⟨fun _ _ => Compatible.symm⟩

/-- The speaker of a model that a voice is bound to. -/
def IndexedVoice.binding (packages : List PackageRevision) (voice : IndexedVoice) :
    Option (ModelIdentity × Nat) := do
  let packageId ← voice.packageId
  let revisionId ← voice.revisionId
  let package ← findPackage packages packageId revisionId
  return (package.identity, voice.speakerIndex.getD 0)

/-- A voice that comes with a package names it, and is one of its provider's. -/
structure Packaged (packages : List PackageRevision) (voice : IndexedVoice)
    (package : PackageRevision) : Prop where
  named : voice.packageId = some package.packageId ∧ voice.revisionId = some package.revisionId
  found : findPackage packages package.packageId package.revisionId = some package
  engine : voice.engineId = package.provider.engineId
  speaker : package.provider = .piper → voice.speakerIndex.isSome = true

/-- A voice without a package is built into its engine. -/
structure BuiltIn (voice : IndexedVoice) : Prop where
  unnamed : voice.packageId = none ∧ voice.revisionId = none
  not_piper : voice.engineId ≠ "piper"
  flite : voice.engineId = "flite" → voice.physicalId = "cmu_us_slt"
  mbrola : voice.engineId = "mbrola" → voice.physicalId = MBROLA_EN1

/-- What an accepted index has. -/
structure ValidIndex (document : IndexDocument) : Prop where
  packages : document.packages.Pairwise Compatible
  exclusions : document.disabledPhysicalIds.Pairwise fun first second =>
    voiceKey first < voiceKey second
  voices : (document.voices.map IndexedVoice.id).Nodup
  enablement : ∀ voice ∈ document.voices,
    voice.enabled = true ↔ voice.id ∉ document.disabledPhysicalIds
  references : ∀ voice ∈ document.voices,
    (∃ package, Packaged document.packages voice package) ∨ BuiltIn voice
  bindings : (document.voices.filterMap (IndexedVoice.binding document.packages)).Nodup

theorem findPackage_eq_some {packages : List PackageRevision} {packageId revisionId : String}
    {package : PackageRevision} (found : findPackage packages packageId revisionId = some package) :
    package ∈ packages ∧ packageId = package.packageId ∧ revisionId = package.revisionId := by
  have matched := List.find?_some found
  obtain ⟨same, same'⟩ := Prod.mk.inj (eq_of_beq matched)
  exact ⟨List.mem_of_find?_eq_some found, same.symm, same'.symm⟩

namespace IndexDocument

variable {packages : List PackageRevision} {host : HostPlatform}

/-- A package that passes the checks fits beside each one that was seen. -/
theorem checkPackages_ok {seen rest : List PackageRevision} (fit : seen.Pairwise Compatible)
    (checked : checkPackages host seen rest = .ok ()) :
    (rest.reverse ++ seen).Pairwise Compatible := by
  induction rest generalizing seen with
  | nil => exact fit
  | cons package rest ih =>
      rw [checkPackages, seq_eq_ok, seq_eq_ok, seq_eq_ok, seq_eq_ok, require_eq_ok, require_eq_ok,
        require_eq_ok] at checked
      obtain ⟨_, fresh, owner, stable, further⟩ := checked
      have beside : ∀ first ∈ seen, ∀ second ∈ seen, first = second ∨ Compatible first second := by
        intro first member second member'
        by_cases same : first = second
        · exact Or.inl same
        · exact Or.inr (fit.forall member member' same)
      have fits : ∀ other ∈ seen, Compatible package other := by
        intro other member
        refine ⟨?_, ?_, ?_⟩
        · intro same
          have apart := List.all_eq_true.mp fresh other member
          rw [bne_iff_ne] at apart
          exact apart same.symm
        · intro same
          obtain ⟨newest, found⟩ := Option.isSome_iff_exists.mp (List.find?_isSome.mpr
            ⟨other, member, beq_iff_eq.mpr same.symm⟩ :
              (seen.find? fun other => other.identity == package.identity).isSome = true)
          rw [found, Option.all_some, beq_iff_eq] at owner
          have matched := List.find?_some found
          rw [beq_iff_eq] at matched
          rcases beside newest (List.mem_of_find?_eq_some found) other member with rfl | beside
          · exact owner.symm
          · exact owner.symm.trans (beside.owner (matched.trans same))
        · intro same
          obtain ⟨newest, found⟩ := Option.isSome_iff_exists.mp (List.find?_isSome.mpr
            ⟨other, member, beq_iff_eq.mpr same.symm⟩ :
              (seen.find? fun other => other.packageId == package.packageId).isSome = true)
          rw [found, Option.all_some, Bool.and_eq_true, beq_iff_eq, beq_iff_eq] at stable
          have matched := List.find?_some found
          rw [beq_iff_eq] at matched
          rcases beside newest (List.mem_of_find?_eq_some found) other member with rfl | beside
          · exact ⟨stable.1.symm, stable.2.symm⟩
          · obtain ⟨model, provider⟩ := beside.stable (matched.trans same)
            exact ⟨stable.1.symm.trans model, stable.2.symm.trans provider⟩
      have next := ih (List.pairwise_cons.mpr ⟨fits, fit⟩) further
      rw [List.reverse_cons, List.append_assoc]
      exact next

theorem checkSpeaker_ok {package : PackageRevision} {voice : IndexedVoice} {index : Nat}
    (checked : checkSpeaker package voice = .ok index) :
    index = voice.speakerIndex.getD 0 ∧
      (package.provider = .piper → voice.speakerIndex.isSome = true) := by
  have plain : ∀ {first : Except LibraryError Unit} {reason : String},
      (do first
          require (voice.speakerIndex.isNone && voice.legacyPhysicalId.isNone) reason
          return 0) = Except.ok index → index = voice.speakerIndex.getD 0 := by
    intro first reason result
    rw [seq_eq_ok, seq_eq_ok, require_eq_ok, Bool.and_eq_true, Option.isNone_iff_eq_none] at result
    obtain ⟨_, ⟨none_given, _⟩, here⟩ := result
    cases here
    rw [none_given, Option.getD_none]
  unfold checkSpeaker at checked
  cases provider : package.provider with
  | piper =>
      rw [provider] at checked
      simp only [bind_eq_ok, orError_eq_ok] at checked
      obtain ⟨_, given, _, _, here⟩ := checked
      cases here
      rw [given]
      exact ⟨rfl, fun _ => rfl⟩
  | mbrola =>
      rw [provider] at checked
      obtain ⟨profile, _, rest⟩ := bind_eq_ok.mp checked
      exact ⟨plain rest, fun other => by cases other⟩
  | rhvoice =>
      rw [provider] at checked
      exact ⟨plain checked, fun other => by cases other⟩
  | flite =>
      rw [provider] at checked
      exact ⟨plain checked, fun other => by cases other⟩

/-- A voice that passes the checks is packaged, and adds the speaker it is bound to, or is
built in. -/
theorem checkReference_ok {bindings bindings' : List (ModelIdentity × Nat)} {voice : IndexedVoice}
    (checked : checkReference packages bindings voice = .ok bindings') :
    ((∃ package, Packaged packages voice package) ∨ BuiltIn voice) ∧
      bindings' = (voice.binding packages).toList ++ bindings ∧
      ∀ bound ∈ voice.binding packages, bound ∉ bindings := by
  unfold checkReference at checked
  cases package_given : voice.packageId with
  | none =>
      have unbound : voice.binding packages = none := by simp [IndexedVoice.binding, package_given]
      cases revision_given : voice.revisionId with
      | some revisionId =>
          rw [package_given, revision_given] at checked
          cases checked
      | none =>
          rw [package_given, revision_given] at checked
          simp only [seq_eq_ok, require_eq_ok] at checked
          obtain ⟨_, shape, here⟩ := checked
          cases here
          simp only [Bool.and_eq_true, Bool.or_eq_true, bne_iff_ne, beq_iff_eq] at shape
          obtain ⟨⟨not_piper, flite⟩, mbrola⟩ := shape
          refine ⟨Or.inr ⟨⟨package_given, revision_given⟩, not_piper, fun engine =>
            flite.resolve_left fun other => other engine, fun engine =>
            mbrola.resolve_left fun other => other engine⟩, ?_, ?_⟩
          · rw [unbound]
            rfl
          · rw [unbound]
            intro bound here
            cases here
  | some packageId =>
      cases revision_given : voice.revisionId with
      | none =>
          rw [package_given, revision_given] at checked
          cases checked
      | some revisionId =>
          rw [package_given, revision_given] at checked
          simp only [bind_eq_ok, require_eq_ok, orError_eq_ok, beq_iff_eq] at checked
          obtain ⟨package, found, _, engine, index, speaker, _, fresh, _, _, here⟩ := checked
          cases here
          obtain ⟨rfl, given⟩ := checkSpeaker_ok speaker
          have bound : voice.binding packages =
              some (package.identity, voice.speakerIndex.getD 0) := by
            simp [IndexedVoice.binding, package_given, revision_given, found]
          obtain ⟨_, rfl, rfl⟩ := findPackage_eq_some found
          refine ⟨Or.inl ⟨package, ⟨package_given, revision_given⟩, found, engine, given⟩, ?_, ?_⟩
          · rw [bound]
            rfl
          · rw [bound]
            intro other here
            cases here
            rw [Bool.not_eq_true', ← Bool.not_eq_true, List.contains_iff_mem] at fresh
            exact fresh

/-- Voices that pass the checks are distinct, bound to distinct speakers, and enabled exactly
when they are not listed as disabled. -/
theorem checkVoices_ok {disabled ids : List PhysicalVoiceId}
    {bindings : List (ModelIdentity × Nat)} {voices : List IndexedVoice}
    (checked : checkVoices packages disabled ids bindings voices = .ok ()) :
    (∀ voice ∈ voices, ((∃ package, Packaged packages voice package) ∨ BuiltIn voice) ∧
        (voice.enabled = true ↔ voice.id ∉ disabled)) ∧
      ((voices.map IndexedVoice.id).Nodup ∧ ∀ voice ∈ voices, voice.id ∉ ids) ∧
      (voices.filterMap (IndexedVoice.binding packages)).Nodup ∧
        ∀ bound ∈ voices.filterMap (IndexedVoice.binding packages), bound ∉ bindings := by
  induction voices generalizing ids bindings with
  | nil => simp
  | cons voice rest ih =>
      simp only [checkVoices, bind_eq_ok, require_eq_ok] at checked
      obtain ⟨_, _, _, _, _, fresh, _, enabled, bindings', reference, further⟩ := checked
      obtain ⟨kind, rfl, unbound⟩ := checkReference_ok reference
      obtain ⟨each, ⟨distinct, unseen⟩, speakers, free⟩ := ih further
      rw [Bool.not_eq_true', ← Bool.not_eq_true, List.contains_iff_mem] at fresh
      have stated : voice.enabled = true ↔ voice.id ∉ disabled := by
        rw [← List.contains_iff_mem]
        revert enabled
        generalize voice.enabled = on, disabled.contains voice.id = off
        revert on off
        decide
      refine ⟨List.forall_mem_cons.mpr ⟨⟨kind, stated⟩, each⟩, ⟨?_, ?_⟩, ?_⟩
      · rw [List.map_cons, List.nodup_cons]
        refine ⟨fun again => ?_, distinct⟩
        obtain ⟨other, member, same⟩ := List.mem_map.mp again
        exact unseen other member (same ▸ List.mem_cons_self)
      · refine List.forall_mem_cons.mpr ⟨fresh, fun other member before => ?_⟩
        exact unseen other member (List.mem_cons_of_mem _ before)
      · cases bound : voice.binding packages with
        | none =>
            rw [List.filterMap_cons_none bound]
            rw [bound] at free
            exact ⟨speakers, free⟩
        | some speaker =>
            rw [List.filterMap_cons_some bound, List.nodup_cons, List.forall_mem_cons]
            rw [bound] at free unbound
            refine ⟨⟨fun again => free speaker again List.mem_cons_self, speakers⟩,
              unbound speaker rfl, fun other member before => ?_⟩
            exact free other member (List.mem_cons_of_mem _ before)

/-- **What an accepted index has.** -/
theorem validate_ok {document : IndexDocument} (valid : document.validate host = .ok ()) :
    ValidIndex document := by
  simp only [validate, seq_eq_ok] at valid
  obtain ⟨_, _, _, _, _, _, excluded, _, _, packages, voices⟩ := valid
  have fit := checkPackages_ok List.Pairwise.nil packages
  rw [List.append_nil, List.pairwise_reverse] at fit
  obtain ⟨each, ⟨distinct, _⟩, speakers, _⟩ := checkVoices_ok voices
  obtain ⟨_, _, sorted⟩ := exclusions_eq_ok.mp excluded
  exact {
    packages := fit.imp Compatible.symm
    exclusions := sorted
    voices := distinct
    enablement := fun voice member => (each voice member).2
    references := fun voice member => (each voice member).1
    bindings := speakers }

end IndexDocument

end Omnivox.VoiceLibrary
