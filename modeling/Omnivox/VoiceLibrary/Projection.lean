import Mathlib
import Omnivox.Foundations.Grouping
import Omnivox.VoiceLibrary.Index
import Omnivox.VoiceLibrary.Runtime

/-!
# From desired state to a generation

A generation is projected from an index: each enabled voice of a selected
provider contributes what its provider has to load, and the contributions are
grouped and sorted. A contribution with files comes from the package revision
that the voice names, and only if the recorded validation is for the target and
the files of the index (`Contribution.Of`).

The order of the records is forgotten: a model is what its speakers have in
common (`Grouped`), and everything that is listed is sorted by distinct keys
(`project_reordered`).
-/

set_option autoImplicit false

namespace Omnivox.VoiceLibrary

open Foundations
open Engines (PhysicalVoiceId)

/-! ## The projection -/

/-- The providers whose load sets are to be managed. -/
structure Selection where
  piper : Bool
  flite : Bool
  mbrola : Bool
  rhvoice : Bool
  deriving Repr, DecidableEq

def FileRole.name : FileRole → String
  | .config => "config"
  | .model => "model"
  | .voice => "voice"
  | .database => "database"
  | .rhvoiceData => "rhvoice_data"

/-- The files of a package in the order in which they are hashed. -/
def PackageRevision.orderedFiles (package : PackageRevision) : List IndexedFile :=
  let files := sortBy (fun file => file.role.name) package.files
  if package.provider = .rhvoice then sortBy IndexedFile.path files else files

/-- What one enabled voice adds to the load sets. -/
inductive Contribution where
  | builtinSlt
  | builtinEn1
  | speaker (package : PackageRevision) (voice : PiperVoice)
  | resource (voice : RhvoiceVoice)
  | database (voice : MbrolaVoice)
  | file (voice : FliteVoice)
  deriving Repr, DecidableEq

/-- The load sets so far. A model is kept with the speakers that selected it. -/
structure Loads where
  models : List (PackageRevision × List PiperVoice)
  files : List FliteVoice
  builtinSlt : Bool
  builtinEn1 : Bool
  databases : List MbrolaVoice
  resources : List RhvoiceVoice
  deriving Repr, DecidableEq

def Loads.empty : Loads := ⟨[], [], false, false, [], []⟩

/-- The key of a model among the models. -/
def modelKey (entry : PackageRevision × List PiperVoice) : String ×ₗ String :=
  entry.1.identity.sortKey

/-- Add a speaker to its model, or a new model. -/
def addSpeaker (package : PackageRevision) (voice : PiperVoice) :
    List (PackageRevision × List PiperVoice) →
      Except LibraryError (List (PackageRevision × List PiperVoice))
  | [] => .ok [(package, [voice])]
  | entry :: rest =>
      if modelKey entry = package.identity.sortKey then do
        require (entry.1.key == package.key)
          "enabled speakers select different revisions of one model"
        return (entry.1, entry.2 ++ [voice]) :: rest
      else do
        let others ← addSpeaker package voice rest
        return entry :: others

def Loads.add (loads : Loads) : Contribution → Except LibraryError Loads
  | .builtinSlt => .ok { loads with builtinSlt := true }
  | .builtinEn1 => .ok { loads with builtinEn1 := true }
  | .speaker package voice => do
      let models ← addSpeaker package voice loads.models
      return { loads with models := models }
  | .resource voice => .ok { loads with resources := loads.resources ++ [voice] }
  | .database voice => .ok { loads with databases := loads.databases ++ [voice] }
  | .file voice => .ok { loads with files := loads.files ++ [voice] }

/-- The first file of a package in a role. -/
def findAsset (package : PackageRevision) (role : FileRole) : Except LibraryError AssetFile :=
  (orError (.invalid "missing projected asset role")
    (package.files.find? fun file => file.role == role)).map IndexedFile.asset

def buildModel (entry : PackageRevision × List PiperVoice) : Except LibraryError PiperModel := do
  let model ← findAsset entry.1 .model
  let config ← findAsset entry.1 .config
  return ⟨entry.1.identity, model, config, sortBy PiperVoice.speakerIndex entry.2⟩

/-- A provider that is not selected keeps its own discovery, and RHVoice its external voices. -/
def Selection.includes (selection : Selection) (voice : IndexedVoice) : Bool :=
  (selection.piper && voice.engineId == "piper") ||
    (selection.flite && voice.engineId == "flite") ||
    (selection.mbrola && voice.engineId == "mbrola") ||
    (selection.rhvoice && voice.engineId == "rhvoice" && voice.packageId.isSome)

section Projecting

-- the SHA-256 digest of a file set
variable (hash : List IndexedFile → String)

def PackageRevision.fileSetSha256 (package : PackageRevision) : String :=
  hash package.orderedFiles

/-- The package of a voice, if its recorded validation is for this target and these files. -/
def validatedPackage (index : IndexDocument) (voice : IndexedVoice) :
    Except LibraryError PackageRevision := do
  let package ← orError (.invalid "enabled voice has no package")
    (index.packages.find? fun package =>
      some package.packageId == voice.packageId && some package.revisionId == voice.revisionId)
  let validation ← orError (.invalid "enabled package has no native validation")
    package.validation
  require (validation.targetId == index.targetId &&
      validation.fileSetSha256 == package.fileSetSha256 hash)
    "enabled package validation is stale or for another target"
  return package

/-- What an enabled voice of a selected provider contributes. An indexed Piper voice has a
speaker. -/
def contribution (index : IndexDocument) (voice : IndexedVoice) :
    Except LibraryError Contribution :=
  if voice.engineId = "flite" ∧ voice.physicalId = "cmu_us_slt" then .ok .builtinSlt
  else if voice.engineId = "mbrola" ∧ voice.physicalId = MBROLA_EN1 ∧ voice.packageId = none then
    .ok .builtinEn1
  else do
    let package ← validatedPackage hash index voice
    if voice.engineId = "piper" then
      return .speaker package
        ⟨voice.physicalId, voice.speakerIndex.getD 0, voice.displayName, voice.language⟩
    else if voice.engineId = "rhvoice" then
      return .resource ⟨voice.physicalId, voice.displayName, voice.language,
        package.files.map IndexedFile.asset⟩
    else if voice.engineId = "mbrola" then do
      let database ← findAsset package .database
      return .database ⟨voice.physicalId, database, voice.displayName, voice.language⟩
    else do
      let file ← findAsset package .voice
      return .file ⟨voice.physicalId, file, voice.displayName, voice.language⟩

/-- The voices that are projected. -/
def projectedVoices (index : IndexDocument) (selection : Selection) : List IndexedVoice :=
  index.voices.filter fun voice => voice.enabled && selection.includes voice

def collect (index : IndexDocument) (selection : Selection) : Except LibraryError Loads :=
  (projectedVoices index selection).foldlM
    (fun loads voice => contribution hash index voice >>= loads.add) Loads.empty

def Loads.document (loads : Loads) (models : List PiperModel) (index : IndexDocument)
    (generationId : String) (selection : Selection) : RuntimeDocument where
  schemaVersion := if selection.rhvoice then 3 else if selection.mbrola then 2 else 1
  targetId := index.targetId
  profileId := index.profileId
  generationId := generationId
  disabledPhysicalIds := index.disabledPhysicalIds
  piper := if selection.piper then some ⟨models⟩ else none
  flite :=
    if selection.flite then some ⟨loads.builtinSlt, sortBy FliteVoice.physicalId loads.files⟩
    else none
  mbrola :=
    if selection.mbrola then
      some ⟨loads.builtinEn1, sortBy MbrolaVoice.physicalId loads.databases⟩
    else none
  rhvoice :=
    if selection.rhvoice then some ⟨true, sortBy RhvoiceVoice.physicalId loads.resources⟩
    else none

-- the length of a generation's JSON text
variable (encodedLength : RuntimeDocument → Nat)

/-- Read back what was written. -/
def RuntimeLibrary.parse (document : RuntimeDocument) (host : HostPlatform) :
    Except LibraryError (RuntimeLibrary host) := do
  require (encodedLength document ≤ MAX_RUNTIME_BYTES) "JSON input exceeds byte limit"
  match valid : document.validate host with
  | .ok () => .ok ⟨document, valid⟩
  | .error error => .error error

/-- Project only selected providers. -/
def project (index : IndexDocument) (generationId : String) (selection : Selection)
    (host : HostPlatform) : Except LibraryError (RuntimeLibrary host) := do
  uuid generationId
  let loads ← collect hash index selection
  let models ← (sortBy modelKey loads.models).mapM buildModel
  RuntimeLibrary.parse encodedLength (loads.document models index generationId selection) host

end Projecting

/-! ## What a voice contributes -/

section Contributions

variable {hash : List IndexedFile → String} {index : IndexDocument} {voice : IndexedVoice}

/-- A package revision that a voice names, validated for the target and its files. -/
structure Provides (hash : List IndexedFile → String) (index : IndexDocument)
    (voice : IndexedVoice) (package : PackageRevision) : Prop where
  listed : package ∈ index.packages
  named : voice.packageId = some package.packageId ∧ voice.revisionId = some package.revisionId
  validated : ∃ validation, package.validation = some validation ∧
    validation.targetId = index.targetId ∧
      validation.fileSetSha256 = package.fileSetSha256 hash

/-- The files of a package, as they are projected. -/
def PackageRevision.assets (package : PackageRevision) : List AssetFile :=
  package.files.map IndexedFile.asset

/-- What a contribution says about its voice. -/
def Contribution.Of (hash : List IndexedFile → String) (index : IndexDocument)
    (voice : IndexedVoice) (given : Contribution) : Prop :=
  match given with
  | .builtinSlt => voice.id = ⟨"flite", "cmu_us_slt"⟩
  | .builtinEn1 => voice.id = ⟨"mbrola", MBROLA_EN1⟩
  | .speaker package piper => voice.id = ⟨"piper", piper.physicalId⟩ ∧
      piper.speakerIndex = voice.speakerIndex.getD 0 ∧ Provides hash index voice package
  | .resource rhvoice => voice.id = ⟨"rhvoice", rhvoice.physicalId⟩ ∧
      ∃ package, Provides hash index voice package ∧ rhvoice.files = package.assets
  | .database mbrola => voice.id = ⟨"mbrola", mbrola.physicalId⟩ ∧
      ∃ package, Provides hash index voice package ∧ mbrola.database ∈ package.assets
  | .file flite => voice.id = ⟨"flite", flite.physicalId⟩ ∧
      ∃ package, Provides hash index voice package ∧ flite.file ∈ package.assets

theorem validatedPackage_ok {package : PackageRevision}
    (done : validatedPackage hash index voice = .ok package) :
    Provides hash index voice package := by
  simp only [validatedPackage, bind_eq_ok, orError_eq_ok, require_eq_ok, Bool.and_eq_true,
    beq_iff_eq] at done
  obtain ⟨found, here, validation, recorded, _, valid, same⟩ := done
  cases same
  have matched := List.find?_some here
  rw [Bool.and_eq_true, beq_iff_eq, beq_iff_eq] at matched
  exact ⟨List.mem_of_find?_eq_some here, ⟨matched.1.symm, matched.2.symm⟩,
    validation, recorded, valid⟩

theorem findAsset_ok {package : PackageRevision} {role : FileRole} {asset : AssetFile}
    (done : findAsset package role = .ok asset) : asset ∈ package.assets := by
  rw [findAsset, map_eq_ok] at done
  obtain ⟨file, found, rfl⟩ := done
  rw [orError_eq_ok] at found
  exact List.mem_map_of_mem (List.mem_of_find?_eq_some found)

theorem id_eq {engine : String} (here : voice.engineId = engine) :
    voice.id = ⟨engine, voice.physicalId⟩ := by
  rw [IndexedVoice.id, here]

/-- A selected voice of no other provider is one of Flite's. -/
theorem Selection.includes_flite {selection : Selection}
    (included : selection.includes voice = true) (piper : voice.engineId ≠ "piper")
    (rhvoice : voice.engineId ≠ "rhvoice") (mbrola : voice.engineId ≠ "mbrola") :
    voice.engineId = "flite" := by
  simp only [Selection.includes, Bool.or_eq_true, Bool.and_eq_true, beq_iff_eq] at included
  rcases included with ((⟨_, here⟩ | ⟨_, here⟩) | ⟨_, here⟩) | ⟨⟨_, here⟩, _⟩
  · exact absurd here piper
  · exact here
  · exact absurd here mbrola
  · exact absurd here rhvoice

/-- **A contribution is its voice's**, with files of the validated package that the voice
names. -/
theorem contribution_of {selection : Selection} (included : selection.includes voice = true)
    {given : Contribution} (done : contribution hash index voice = .ok given) :
    given.Of hash index voice := by
  unfold contribution at done
  by_cases slt : voice.engineId = "flite" ∧ voice.physicalId = "cmu_us_slt"
  · rw [if_pos slt] at done
    cases done
    show voice.id = ⟨"flite", "cmu_us_slt"⟩
    rw [id_eq slt.1, slt.2]
  rw [if_neg slt] at done
  by_cases en1 : voice.engineId = "mbrola" ∧ voice.physicalId = MBROLA_EN1 ∧
      voice.packageId = none
  · rw [if_pos en1] at done
    cases done
    show voice.id = ⟨"mbrola", MBROLA_EN1⟩
    rw [id_eq en1.1, en1.2.1]
  rw [if_neg en1] at done
  obtain ⟨package, validated, done⟩ := bind_eq_ok.mp done
  have provides := validatedPackage_ok validated
  by_cases piper : voice.engineId = "piper"
  · rw [if_pos piper] at done
    cases done
    exact ⟨id_eq piper, rfl, provides⟩
  rw [if_neg piper] at done
  by_cases rhvoice : voice.engineId = "rhvoice"
  · rw [if_pos rhvoice] at done
    cases done
    exact ⟨id_eq rhvoice, package, provides, rfl⟩
  rw [if_neg rhvoice] at done
  by_cases mbrola : voice.engineId = "mbrola"
  · rw [if_pos mbrola] at done
    obtain ⟨database, found, done⟩ := bind_eq_ok.mp done
    cases done
    exact ⟨id_eq mbrola, package, provides, findAsset_ok found⟩
  · rw [if_neg mbrola] at done
    obtain ⟨file, found, done⟩ := bind_eq_ok.mp done
    cases done
    exact ⟨id_eq (Selection.includes_flite included piper rhvoice mbrola), package, provides,
      findAsset_ok found⟩

end Contributions

/-! ## What the load sets hold -/

namespace Contribution

def speaker? : Contribution → Option (PackageRevision × PiperVoice)
  | .speaker package voice => some (package, voice)
  | _ => none

def resource? : Contribution → Option RhvoiceVoice
  | .resource voice => some voice
  | _ => none

def database? : Contribution → Option MbrolaVoice
  | .database voice => some voice
  | _ => none

def file? : Contribution → Option FliteVoice
  | .file voice => some voice
  | _ => none

end Contribution

namespace Contribution

theorem speaker?_eq_some {made : Contribution} {speaker : PackageRevision × PiperVoice} :
    made.speaker? = some speaker ↔ made = .speaker speaker.1 speaker.2 := by
  cases made <;> simp [speaker?, Prod.ext_iff]

theorem resource?_eq_some {made : Contribution} {voice : RhvoiceVoice} :
    made.resource? = some voice ↔ made = .resource voice := by
  cases made <;> simp [resource?]

theorem database?_eq_some {made : Contribution} {voice : MbrolaVoice} :
    made.database? = some voice ↔ made = .database voice := by
  cases made <;> simp [database?]

theorem file?_eq_some {made : Contribution} {voice : FliteVoice} :
    made.file? = some voice ↔ made = .file voice := by
  cases made <;> simp [file?]

/-- What is picked from the contributions of one kind. -/
theorem mem_filterMap {A : Type} {pick : Contribution → Option A} {make : A → Contribution}
    (picks : ∀ {made a}, pick made = some a ↔ made = make a) {contributions : List Contribution}
    {a : A} : a ∈ contributions.filterMap pick ↔ make a ∈ contributions := by
  rw [List.mem_filterMap]
  constructor
  · rintro ⟨made, held, picked⟩
    rw [← picks.mp picked]
    exact held
  · intro held
    exact ⟨make a, held, picks.mpr rfl⟩

end Contribution

instance : Inhabited Contribution := ⟨.builtinSlt⟩

/-- The key of the model that a package is a revision of. -/
def packageKey (package : PackageRevision) : String ×ₗ String := package.identity.sortKey

/-- The load sets after some contributions. -/
structure Collected (contributions : List Contribution) (loads : Loads) : Prop where
  models : Grouped packageKey loads.models (contributions.filterMap Contribution.speaker?)
  files : loads.files = contributions.filterMap Contribution.file?
  databases : loads.databases = contributions.filterMap Contribution.database?
  resources : loads.resources = contributions.filterMap Contribution.resource?
  slt : loads.builtinSlt = contributions.any fun c => c = .builtinSlt
  en1 : loads.builtinEn1 = contributions.any fun c => c = .builtinEn1

/-- All speakers of one model selected the same revision. -/
def OneRevision (speakers : List (PackageRevision × PiperVoice)) : Prop :=
  ∀ first ∈ speakers, ∀ second ∈ speakers,
    packageKey first.1 = packageKey second.1 → first.1 = second.1

/-- Packages are told apart by their keys. -/
def Keyed (speakers : List (PackageRevision × PiperVoice)) : Prop :=
  ∀ first ∈ speakers, ∀ second ∈ speakers, first.1.key = second.1.key → first.1 = second.1

/-- A speaker is added exactly if its model is not there in another revision. -/
theorem addSpeaker_eq_ok {package : PackageRevision} {voice : PiperVoice}
    {models models' : List (PackageRevision × List PiperVoice)}
    (distinct : (models.map fun group => packageKey group.1).Nodup) :
    addSpeaker package voice models = .ok models' ↔
      (∀ group ∈ models, packageKey group.1 = packageKey package → group.1.key = package.key) ∧
        models' = fileUnder packageKey (package, voice) models := by
  induction models generalizing models' with
  | nil => simp [addSpeaker, fileUnder, eq_comm]
  | cons group rest ih =>
      rw [List.map_cons, List.nodup_cons] at distinct
      rw [addSpeaker, fileUnder, List.forall_mem_cons]
      by_cases here : packageKey group.1 = packageKey package
      · rw [if_pos (show modelKey group = package.identity.sortKey from here),
          if_pos (show packageKey group.1 = packageKey (package, voice).1 from here), seq_eq_ok,
          require_eq_ok, beq_iff_eq]
        constructor
        · rintro ⟨same, result⟩
          cases result
          refine ⟨⟨fun _ => same, fun other member matched => ?_⟩, rfl⟩
          exact absurd (List.mem_map.mpr ⟨other, member, matched.trans here.symm⟩) distinct.1
        · rintro ⟨⟨same, _⟩, rfl⟩
          exact ⟨same here, rfl⟩
      · rw [if_neg (show ¬ modelKey group = package.identity.sortKey from here),
          if_neg (show ¬ packageKey group.1 = packageKey (package, voice).1 from here), bind_eq_ok]
        constructor
        · rintro ⟨others, added, result⟩
          cases result
          obtain ⟨same, rfl⟩ := (ih distinct.2).mp added
          exact ⟨⟨fun matched => absurd matched here, same⟩, rfl⟩
        · rintro ⟨⟨_, same⟩, rfl⟩
          exact ⟨_, (ih distinct.2).mpr ⟨same, rfl⟩, rfl⟩

/-- The models after a contribution that may be a speaker. -/
def addTo (models : List (PackageRevision × List PiperVoice)) :
    Option (PackageRevision × PiperVoice) →
      Except LibraryError (List (PackageRevision × List PiperVoice))
  | some speaker => addSpeaker speaker.1 speaker.2 models
  | none => .ok models

/-- The load sets after a contribution, with the given models. -/
def Loads.grown (loads : Loads) (models : List (PackageRevision × List PiperVoice))
    (given : Contribution) : Loads where
  models := models
  files := loads.files ++ given.file?.toList
  builtinSlt := loads.builtinSlt || given = .builtinSlt
  builtinEn1 := loads.builtinEn1 || given = .builtinEn1
  databases := loads.databases ++ given.database?.toList
  resources := loads.resources ++ given.resource?.toList

/-- A contribution is added to its own load set. -/
theorem Loads.add_eq_ok {loads loads' : Loads} {given : Contribution} :
    loads.add given = .ok loads' ↔
      ∃ models, addTo loads.models given.speaker? = .ok models ∧
        loads' = loads.grown models given := by
  cases given with
  | speaker package voice =>
      rw [Loads.add, bind_eq_ok]
      refine exists_congr fun models => and_congr_right fun _ => ?_
      constructor
      · intro result
        cases result
        simp [Loads.grown, Contribution.file?, Contribution.database?, Contribution.resource?]
      · rintro rfl
        simp [Loads.grown, Contribution.file?, Contribution.database?, Contribution.resource?]
        rfl
  | _ =>
      simp [Loads.add, Loads.grown, addTo, Contribution.speaker?, Contribution.file?,
        Contribution.database?, Contribution.resource?, eq_comm]

theorem filterMap_concat {α β : Type} (pick : α → Option β) (l : List α) (a : α) :
    (l ++ [a]).filterMap pick = l.filterMap pick ++ (pick a).toList := by
  rw [List.filterMap_append]
  cases picked : pick a with
  | none => rw [List.filterMap_cons_none picked, List.filterMap_nil, Option.toList_none]
  | some b => rw [List.filterMap_cons_some picked, List.filterMap_nil, Option.toList_some]

/-- The models after a contribution are still grouped. -/
theorem addTo_eq_ok {models : List (PackageRevision × List PiperVoice)}
    {speakers : List (PackageRevision × PiperVoice)} (grouped : Grouped packageKey models speakers)
    {given : Option (PackageRevision × PiperVoice)} (keyed : Keyed (speakers ++ given.toList)) :
    (∀ models', addTo models given = .ok models' →
        Grouped packageKey models' (speakers ++ given.toList) ∧
          (OneRevision speakers → OneRevision (speakers ++ given.toList))) ∧
      (OneRevision (speakers ++ given.toList) → ∃ models', addTo models given = .ok models') := by
  cases given with
  | none =>
      rw [Option.toList_none, List.append_nil]
      constructor
      · intro models' result
        cases result
        exact ⟨grouped, id⟩
      · intro _
        exact ⟨models, rfl⟩
  | some speaker =>
      rw [Option.toList_some] at keyed ⊢
      have here : speaker ∈ speakers ++ [speaker] :=
        List.mem_append_right _ (List.mem_singleton_self _)
      constructor
      · intro models' added
        obtain ⟨same, rfl⟩ := (addSpeaker_eq_ok grouped.distinct).mp added
        have owner : ∀ group ∈ models, packageKey group.1 = packageKey speaker.1 →
            group.1 = speaker.1 := by
          intro group member matched
          obtain ⟨other, listed, owned⟩ := grouped.owner group member
          rw [← owned]
          refine keyed other (List.mem_append_left _ listed) speaker here ?_
          rw [owned]
          exact same group member matched
        have new : ∀ other ∈ speakers, packageKey other.1 = packageKey speaker.1 →
            other.1 = speaker.1 := by
          intro other listed matched
          obtain ⟨group, held, owned⟩ := grouped.cover other listed
          rw [← owned]
          exact owner group held (owned ▸ matched)
        refine ⟨grouped.fileUnder owner, fun before first member second member' matched => ?_⟩
        rcases List.mem_append.mp member with old | this <;>
          rcases List.mem_append.mp member' with old' | this'
        · exact before first old second old' matched
        · obtain rfl := List.mem_singleton.mp this'
          exact new first old matched
        · obtain rfl := List.mem_singleton.mp this
          exact (new second old' matched.symm).symm
        · rw [List.mem_singleton.mp this, List.mem_singleton.mp this']
      · intro one
        refine ⟨_, (addSpeaker_eq_ok grouped.distinct).mpr ⟨fun group member matched => ?_, rfl⟩⟩
        obtain ⟨other, listed, owned⟩ := grouped.owner group member
        rw [← owned, one other (List.mem_append_left _ listed) speaker here (owned ▸ matched)]

/-- The load sets after one more contribution. -/
theorem Collected.grown {contributions : List Contribution} {loads : Loads} {given : Contribution}
    {models : List (PackageRevision × List PiperVoice)} (collected : Collected contributions loads)
    (grouped : Grouped packageKey models
      ((contributions ++ [given]).filterMap Contribution.speaker?)) :
    Collected (contributions ++ [given]) (loads.grown models given) where
  models := grouped
  files := by rw [filterMap_concat, ← collected.files, Loads.grown]
  databases := by rw [filterMap_concat, ← collected.databases, Loads.grown]
  resources := by rw [filterMap_concat, ← collected.resources, Loads.grown]
  slt := by simp [Loads.grown, collected.slt]
  en1 := by simp [Loads.grown, collected.en1]

theorem Collected.empty : Collected [] Loads.empty := ⟨Grouped.nil, rfl, rfl, rfl, rfl, rfl⟩

/-- **What a list of contributions leads to.** They are all added exactly if no model is selected
in two revisions. -/
theorem addAll_eq_ok {contributions : List Contribution}
    (keyed : Keyed (contributions.filterMap Contribution.speaker?)) :
    (∀ loads, contributions.foldlM Loads.add Loads.empty = .ok loads →
      Collected contributions loads ∧
        OneRevision (contributions.filterMap Contribution.speaker?)) ∧
      (OneRevision (contributions.filterMap Contribution.speaker?) →
        ∃ loads, contributions.foldlM Loads.add Loads.empty = .ok loads) := by
  induction contributions using List.reverseRecOn with
  | nil =>
      constructor
      · intro loads done
        cases done
        rw [List.filterMap_nil]
        refine ⟨Collected.empty, ?_⟩
        intro first member
        exact absurd member List.not_mem_nil
      · intro _
        exact ⟨Loads.empty, rfl⟩
  | append_singleton contributions given ih =>
      have speakers := filterMap_concat Contribution.speaker? contributions given
      have before : Keyed (contributions.filterMap Contribution.speaker?) := by
        intro first member second member'
        rw [speakers] at keyed
        exact keyed first (List.mem_append_left _ member) second (List.mem_append_left _ member')
      obtain ⟨collects, adds⟩ := ih before
      rw [List.foldlM_append]
      rw [speakers] at keyed
      constructor
      · intro loads done
        obtain ⟨middle, first, last⟩ := bind_eq_ok.mp done
        obtain ⟨final, last, done⟩ := foldlM_cons_eq_ok.mp last
        cases done
        obtain ⟨collected, one⟩ := collects middle first
        obtain ⟨models, added, rfl⟩ := Loads.add_eq_ok.mp last
        obtain ⟨grouped, further⟩ := (addTo_eq_ok collected.models keyed).1 _ added
        rw [speakers]
        exact ⟨collected.grown (speakers ▸ grouped), further one⟩
      · intro one
        rw [speakers] at one
        have one_before : OneRevision (contributions.filterMap Contribution.speaker?) :=
          fun first member second member' =>
            one first (List.mem_append_left _ member) second (List.mem_append_left _ member')
        obtain ⟨middle, first⟩ := adds one_before
        obtain ⟨collected, _⟩ := collects middle first
        obtain ⟨models, added⟩ := (addTo_eq_ok collected.models keyed).2 one
        exact ⟨_, bind_eq_ok.mpr ⟨middle, first, foldlM_cons_eq_ok.mpr
          ⟨_, Loads.add_eq_ok.mpr ⟨models, added, rfl⟩, rfl⟩⟩⟩

/-! ## What a projection holds -/

section Projected

variable {hash : List IndexedFile → String} {encodedLength : RuntimeDocument → Nat}
  {index : IndexDocument} {selection : Selection} {host : HostPlatform} {generationId : String}
  {given : IndexedVoice → Contribution} {loads : Loads} {models : List PiperModel}
  {library : RuntimeLibrary host}

/-- The contributions of the projected voices. -/
def gathered (index : IndexDocument) (selection : Selection)
    (given : IndexedVoice → Contribution) : List Contribution :=
  (projectedVoices index selection).map given

/-- Every projected voice contributes, and no model is selected in two revisions. -/
structure Gathers (hash : List IndexedFile → String) (index : IndexDocument)
    (selection : Selection) (given : IndexedVoice → Contribution) : Prop where
  answers : ∀ voice ∈ projectedVoices index selection,
    contribution hash index voice = .ok (given voice)
  one : OneRevision ((gathered index selection given).filterMap Contribution.speaker?)

theorem mem_projectedVoices {voice : IndexedVoice} :
    voice ∈ projectedVoices index selection ↔
      voice ∈ index.voices ∧ voice.enabled = true ∧ selection.includes voice = true := by
  rw [projectedVoices, List.mem_filter, Bool.and_eq_true]

theorem Gathers.of (gathers : Gathers hash index selection given) {voice : IndexedVoice}
    (projected : voice ∈ projectedVoices index selection) : (given voice).Of hash index voice :=
  contribution_of (mem_projectedVoices.mp projected).2.2 (gathers.answers voice projected)

theorem ValidIndex.package_eq (valid : ValidIndex index) {first second : PackageRevision}
    (member : first ∈ index.packages) (member' : second ∈ index.packages)
    (same : first.key = second.key) : first = second := by
  by_contra apart
  exact (valid.packages.forall member member' apart).distinct same

/-- The package that a speaker comes with is listed. -/
theorem speaker_listed {voices : List IndexedVoice}
    (answers : ∀ voice ∈ voices, contribution hash index voice = .ok (given voice))
    (included : ∀ voice ∈ voices, selection.includes voice = true) :
    ∀ speaker ∈ (voices.map given).filterMap Contribution.speaker?,
      speaker.1 ∈ index.packages := by
  intro speaker member
  obtain ⟨made, held, found⟩ := List.mem_filterMap.mp member
  obtain ⟨voice, projected, rfl⟩ := List.mem_map.mp held
  have of := contribution_of (included voice projected) (answers voice projected)
  rw [Contribution.speaker?_eq_some.mp found] at of
  exact of.2.2.listed

theorem keyed_of_listed (valid : ValidIndex index)
    {speakers : List (PackageRevision × PiperVoice)}
    (listed : ∀ speaker ∈ speakers, speaker.1 ∈ index.packages) : Keyed speakers :=
  fun first member second member' => valid.package_eq (listed first member) (listed second member')

theorem collect_ok (valid : ValidIndex index) (done : collect hash index selection = .ok loads) :
    ∃ given, Gathers hash index selection given ∧
      Collected (gathered index selection given) loads := by
  obtain ⟨given, answers, folded⟩ := foldlM_bind_eq_ok.mp done
  have keyed := keyed_of_listed valid (speaker_listed answers fun voice projected =>
    (mem_projectedVoices.mp projected).2.2)
  obtain ⟨collected, one⟩ := (addAll_eq_ok keyed).1 loads folded
  exact ⟨given, ⟨answers, one⟩, collected⟩

theorem parse_ok {document : RuntimeDocument}
    (done : RuntimeLibrary.parse encodedLength document host = .ok library) :
    library.document = document := by
  obtain ⟨_, parsed⟩ := seq_eq_ok.mp done
  split at parsed
  · cases parsed
    rfl
  · cases parsed

/-- What a projection is made of. -/
structure Projects (hash : List IndexedFile → String) (index : IndexDocument)
    (selection : Selection) (generationId : String) (document : RuntimeDocument)
    (given : IndexedVoice → Contribution) (loads : Loads) (models : List PiperModel) : Prop where
  gathers : Gathers hash index selection given
  collected : Collected (gathered index selection given) loads
  built : (sortBy modelKey loads.models).mapM buildModel = .ok models
  document_eq : document = loads.document models index generationId selection

theorem project_ok (valid : ValidIndex index)
    (done : project hash encodedLength index generationId selection host = .ok library) :
    ∃ given loads models,
      Projects hash index selection generationId library.document given loads models := by
  obtain ⟨_, rest⟩ := seq_eq_ok.mp done
  obtain ⟨loads, collects, rest⟩ := bind_eq_ok.mp rest
  obtain ⟨models, built, parsed⟩ := bind_eq_ok.mp rest
  obtain ⟨given, gathers, collected⟩ := collect_ok valid collects
  exact ⟨given, loads, models, gathers, collected, built, parse_ok parsed⟩

/-- The voices of a generation with the files that each is loaded from. -/
def RuntimeDocument.assetsOf (document : RuntimeDocument) :
    List (PhysicalVoiceId × List AssetFile) :=
  (document.piper.toList.flatMap fun piper => piper.models.flatMap fun model =>
      model.voices.map fun voice => (⟨"piper", voice.physicalId⟩, [model.model, model.config])) ++
    (document.flite.toList.flatMap fun flite => flite.files.map fun voice =>
      (⟨"flite", voice.physicalId⟩, [voice.file])) ++
    (document.mbrola.toList.flatMap fun mbrola => mbrola.files.map fun voice =>
      (⟨"mbrola", voice.physicalId⟩, [voice.database])) ++
    (document.rhvoice.toList.flatMap fun rhvoice => rhvoice.voices.map fun voice =>
      (⟨"rhvoice", voice.physicalId⟩, voice.files))

/-! ## Which voices are loaded -/

/-- The voice that a contribution loads. -/
def Contribution.id : Contribution → PhysicalVoiceId
  | .builtinSlt => ⟨"flite", "cmu_us_slt"⟩
  | .builtinEn1 => ⟨"mbrola", MBROLA_EN1⟩
  | .speaker _ piper => ⟨"piper", piper.physicalId⟩
  | .resource rhvoice => ⟨"rhvoice", rhvoice.physicalId⟩
  | .database mbrola => ⟨"mbrola", mbrola.physicalId⟩
  | .file flite => ⟨"flite", flite.physicalId⟩

theorem Contribution.Of.id {voice : IndexedVoice} {made : Contribution}
    (of : made.Of hash index voice) : voice.id = made.id := by
  cases made with
  | builtinSlt => exact of
  | builtinEn1 => exact of
  | speaker => exact of.1
  | resource => exact of.1
  | database => exact of.1
  | file => exact of.1

/-- A voice is projected exactly if something that loads it is contributed. -/
theorem Gathers.mem_id (gathers : Gathers hash index selection given) {id : PhysicalVoiceId} :
    (∃ made ∈ gathered index selection given, made.id = id) ↔
      ∃ voice ∈ projectedVoices index selection, voice.id = id := by
  constructor
  · rintro ⟨made, member, rfl⟩
    obtain ⟨voice, projected, rfl⟩ := List.mem_map.mp member
    exact ⟨voice, projected, (gathers.of projected).id⟩
  · rintro ⟨voice, projected, rfl⟩
    exact ⟨given voice, List.mem_map_of_mem projected, (gathers.of projected).id.symm⟩

namespace Collected

variable {contributions : List Contribution} (collected : Collected contributions loads)
include collected

/-- The speakers of a model are those that came with its package. -/
theorem mem_group {group : PackageRevision × List PiperVoice} (member : group ∈ loads.models)
    {voice : PiperVoice} (one : OneRevision (contributions.filterMap Contribution.speaker?)) :
    voice ∈ group.2 ↔ .speaker group.1 voice ∈ contributions := by
  rw [collected.models.members group member, under, List.mem_map]
  have speakers : ∀ {speaker : PackageRevision × PiperVoice},
      speaker ∈ contributions.filterMap Contribution.speaker? ↔
        .speaker speaker.1 speaker.2 ∈ contributions :=
    Contribution.mem_filterMap Contribution.speaker?_eq_some
  constructor
  · rintro ⟨speaker, held, rfl⟩
    rw [List.mem_filter, decide_eq_true_iff] at held
    obtain ⟨other, listed, owned⟩ := collected.models.owner group member
    have same : speaker.1 = group.1 := by
      rw [← owned]
      refine one speaker held.1 other listed ?_
      rw [owned]
      exact held.2
    rw [← same]
    exact speakers.mp held.1
  · intro held
    refine ⟨(group.1, voice), ?_, rfl⟩
    rw [List.mem_filter, decide_eq_true_iff]
    exact ⟨speakers.mpr held, rfl⟩

/-- A speaker has its model. -/
theorem exists_group {package : PackageRevision} {voice : PiperVoice}
    (member : .speaker package voice ∈ contributions) :
    ∃ group ∈ loads.models, group.1 = package := by
  obtain ⟨group, held, owned⟩ := collected.models.cover (package, voice)
    (List.mem_filterMap.mpr ⟨_, member, rfl⟩)
  exact ⟨group, held, owned⟩

theorem mem_files {voice : FliteVoice} : voice ∈ loads.files ↔ .file voice ∈ contributions := by
  rw [collected.files]
  exact Contribution.mem_filterMap Contribution.file?_eq_some

theorem mem_databases {voice : MbrolaVoice} :
    voice ∈ loads.databases ↔ .database voice ∈ contributions := by
  rw [collected.databases]
  exact Contribution.mem_filterMap Contribution.database?_eq_some

theorem mem_resources {voice : RhvoiceVoice} :
    voice ∈ loads.resources ↔ .resource voice ∈ contributions := by
  rw [collected.resources]
  exact Contribution.mem_filterMap Contribution.resource?_eq_some

theorem slt_iff : loads.builtinSlt = true ↔ .builtinSlt ∈ contributions := by
  rw [collected.slt, List.any_eq_true]
  simp

theorem en1_iff : loads.builtinEn1 = true ↔ .builtinEn1 ∈ contributions := by
  rw [collected.en1, List.any_eq_true]
  simp

end Collected

theorem buildModel_ok {group : PackageRevision × List PiperVoice} {model : PiperModel}
    (done : buildModel group = .ok model) :
    model.model ∈ group.1.assets ∧ model.config ∈ group.1.assets ∧
      model.voices = sortBy PiperVoice.speakerIndex group.2 := by
  obtain ⟨asset, found, rest⟩ := bind_eq_ok.mp done
  obtain ⟨config, found', rest⟩ := bind_eq_ok.mp rest
  cases rest
  exact ⟨findAsset_ok found, findAsset_ok found', rfl⟩

namespace Projects

variable {document : RuntimeDocument}
  (projects : Projects hash index selection generationId document given loads models)
include projects

/-- The speakers of the models are the Piper voices that are contributed. -/
theorem piper_iff {name : String} :
    (∃ model ∈ models, ∃ voice ∈ model.voices, voice.physicalId = name) ↔
      ∃ made ∈ gathered index selection given, made.id = ⟨"piper", name⟩ := by
  constructor
  · rintro ⟨model, built, voice, held, rfl⟩
    obtain ⟨group, member, made⟩ := mem_of_mapM_eq_ok projects.built model built
    obtain ⟨_, _, voices⟩ := buildModel_ok made
    rw [voices, mem_sortBy] at held
    exact ⟨_, (projects.collected.mem_group (mem_sortBy.mp member) projects.gathers.one).mp held,
      rfl⟩
  · rintro ⟨made, held, same⟩
    cases made with
    | speaker package piper =>
        obtain ⟨group, member, rfl⟩ := projects.collected.exists_group held
        obtain ⟨model, built, made⟩ := answer_of_mapM_eq_ok projects.built group
          (mem_sortBy.mpr member)
        obtain ⟨_, _, voices⟩ := buildModel_ok made
        refine ⟨model, built, piper, ?_, (PhysicalVoiceId.mk.inj same).2⟩
        rw [voices, mem_sortBy]
        exact (projects.collected.mem_group member projects.gathers.one).mpr held
    | _ => exact absurd (PhysicalVoiceId.mk.inj same).1 (by decide)

theorem flite_iff {name : String} :
    ((loads.builtinSlt = true ∧ name = "cmu_us_slt") ∨
        ∃ voice ∈ sortBy FliteVoice.physicalId loads.files, voice.physicalId = name) ↔
      ∃ made ∈ gathered index selection given, made.id = ⟨"flite", name⟩ := by
  constructor
  · rintro (⟨builtin, rfl⟩ | ⟨voice, held, rfl⟩)
    · exact ⟨_, projects.collected.slt_iff.mp builtin, rfl⟩
    · exact ⟨_, projects.collected.mem_files.mp (mem_sortBy.mp held), rfl⟩
  · rintro ⟨made, held, same⟩
    cases made with
    | builtinSlt =>
        exact Or.inl ⟨projects.collected.slt_iff.mpr held, (PhysicalVoiceId.mk.inj same).2.symm⟩
    | file flite =>
        exact Or.inr ⟨flite, mem_sortBy.mpr (projects.collected.mem_files.mpr held),
          (PhysicalVoiceId.mk.inj same).2⟩
    | _ => exact absurd (PhysicalVoiceId.mk.inj same).1 (by decide)

theorem mbrola_iff {name : String} :
    ((loads.builtinEn1 = true ∧ name = MBROLA_EN1) ∨
        ∃ voice ∈ sortBy MbrolaVoice.physicalId loads.databases, voice.physicalId = name) ↔
      ∃ made ∈ gathered index selection given, made.id = ⟨"mbrola", name⟩ := by
  constructor
  · rintro (⟨builtin, rfl⟩ | ⟨voice, held, rfl⟩)
    · exact ⟨_, projects.collected.en1_iff.mp builtin, rfl⟩
    · exact ⟨_, projects.collected.mem_databases.mp (mem_sortBy.mp held), rfl⟩
  · rintro ⟨made, held, same⟩
    cases made with
    | builtinEn1 =>
        exact Or.inl ⟨projects.collected.en1_iff.mpr held, (PhysicalVoiceId.mk.inj same).2.symm⟩
    | database mbrola =>
        exact Or.inr ⟨mbrola, mem_sortBy.mpr (projects.collected.mem_databases.mpr held),
          (PhysicalVoiceId.mk.inj same).2⟩
    | _ => exact absurd (PhysicalVoiceId.mk.inj same).1 (by decide)

/-- **Every projected file is one of the validated package that an enabled voice names.** -/
theorem assets_from {id : PhysicalVoiceId} {assets : List AssetFile}
    (listed : (id, assets) ∈ document.assetsOf) :
    ∃ voice ∈ index.voices, voice.enabled = true ∧ voice.id = id ∧
      ∃ package, Provides hash index voice package ∧ ∀ asset ∈ assets, asset ∈ package.assets := by
  have source : ∀ {made : Contribution}, made ∈ gathered index selection given →
      ∃ voice ∈ index.voices, voice.enabled = true ∧ made.Of hash index voice := by
    intro made held
    obtain ⟨voice, projected, rfl⟩ := List.mem_map.mp held
    obtain ⟨member, enabled, _⟩ := mem_projectedVoices.mp projected
    exact ⟨voice, member, enabled, projects.gathers.of projected⟩
  have only : ∀ {asset : AssetFile} {package : PackageRevision}, asset ∈ package.assets →
      ∀ other ∈ [asset], other ∈ package.assets := by
    intro asset package held other member
    rw [List.mem_singleton.mp member]
    exact held
  rw [projects.document_eq] at listed
  simp only [RuntimeDocument.assetsOf, Loads.document, List.mem_append, List.mem_flatMap,
    List.mem_map, Option.mem_toList, Option.ite_none_right_eq_some, Option.some.injEq] at listed
  rcases listed with
    ((⟨_, ⟨_, rfl⟩, model, built, voice, held, same⟩ | ⟨_, ⟨_, rfl⟩, voice, held, same⟩) |
      ⟨_, ⟨_, rfl⟩, voice, held, same⟩) | ⟨_, ⟨_, rfl⟩, voice, held, same⟩
  · obtain ⟨rfl, rfl⟩ := Prod.mk.inj same
    obtain ⟨group, member, made⟩ := mem_of_mapM_eq_ok projects.built model built
    obtain ⟨asset, config, voices⟩ := buildModel_ok made
    rw [voices, mem_sortBy] at held
    obtain ⟨named, indexed, enabled, here, _, provides⟩ := source
      ((projects.collected.mem_group (mem_sortBy.mp member) projects.gathers.one).mp held)
    refine ⟨named, indexed, enabled, here, group.1, provides, ?_⟩
    exact List.forall_mem_cons.mpr ⟨asset, only config⟩
  · obtain ⟨rfl, rfl⟩ := Prod.mk.inj same
    obtain ⟨named, indexed, enabled, here, package, provides, file⟩ :=
      source (projects.collected.mem_files.mp (mem_sortBy.mp held))
    exact ⟨named, indexed, enabled, here, package, provides, only file⟩
  · obtain ⟨rfl, rfl⟩ := Prod.mk.inj same
    obtain ⟨named, indexed, enabled, here, package, provides, file⟩ :=
      source (projects.collected.mem_databases.mp (mem_sortBy.mp held))
    exact ⟨named, indexed, enabled, here, package, provides, only file⟩
  · obtain ⟨rfl, rfl⟩ := Prod.mk.inj same
    obtain ⟨named, indexed, enabled, here, package, provides, files⟩ :=
      source (projects.collected.mem_resources.mp (mem_sortBy.mp held))
    refine ⟨named, indexed, enabled, here, package, provides, fun asset member => ?_⟩
    rw [← files]
    exact member

end Projects

end Projected

/-! ## Which voices are permitted -/

/-- The providers whose enabled voices are all of them indexed. -/
def Selection.manages (selection : Selection) (engineId : String) : Bool :=
  (selection.piper && engineId == "piper") || (selection.flite && engineId == "flite") ||
    (selection.mbrola && engineId == "mbrola")

section Permitted

variable {hash : List IndexedFile → String} {encodedLength : RuntimeDocument → Nat}
  {index : IndexDocument} {selection : Selection} {host : HostPlatform} {generationId : String}
  {given : IndexedVoice → Contribution} {library : RuntimeLibrary host}

theorem Selection.includes_of_manages {voice : IndexedVoice}
    (managed : selection.manages voice.engineId = true) : selection.includes voice = true := by
  unfold Selection.manages at managed
  unfold Selection.includes
  rw [managed, Bool.true_or]

/-- The voice of a managed provider is contributed exactly if it is enabled. -/
theorem Gathers.enabled_iff (gathers : Gathers hash index selection given) {id : PhysicalVoiceId}
    (managed : selection.manages id.engineId = true) :
    (∃ made ∈ gathered index selection given, made.id = id) ↔
      ∃ voice ∈ index.voices, voice.enabled = true ∧ voice.id = id := by
  rw [gathers.mem_id]
  constructor
  · rintro ⟨voice, projected, same⟩
    obtain ⟨member, enabled, _⟩ := mem_projectedVoices.mp projected
    exact ⟨voice, member, enabled, same⟩
  · rintro ⟨voice, member, enabled, rfl⟩
    exact ⟨voice, mem_projectedVoices.mpr
      ⟨member, enabled, Selection.includes_of_manages managed⟩, rfl⟩

/-- **What a projected generation permits**: an enabled voice of a managed provider, and any
other voice that is not disabled. -/
theorem project_permits_iff (valid : ValidIndex index)
    (done : project hash encodedLength index generationId selection host = .ok library)
    (id : PhysicalVoiceId) :
    library.permits id = true ↔
      if selection.manages id.engineId then
        ∃ voice ∈ index.voices, voice.enabled = true ∧ voice.id = id
      else id ∉ index.disabledPhysicalIds := by
  obtain ⟨given, loads, models, projects⟩ := project_ok valid done
  have loaded := projects.document_eq
  have not_disabled : (∃ voice ∈ index.voices, voice.enabled = true ∧ voice.id = id) →
      id ∉ index.disabledPhysicalIds := by
    rintro ⟨voice, member, enabled, rfl⟩
    exact (valid.enablement voice member).mp enabled
  unfold RuntimeLibrary.permits
  rw [show library.document.disabledPhysicalIds = index.disabledPhysicalIds by rw [loaded]; rfl]
  by_cases disabled : id ∈ index.disabledPhysicalIds
  · rw [if_pos (List.contains_iff_mem.mpr disabled)]
    refine iff_of_false Bool.false_ne_true fun permitted => ?_
    split at permitted
    · exact not_disabled permitted disabled
    · exact permitted disabled
  rw [if_neg (fun contained => disabled (List.contains_iff_mem.mp contained))]
  obtain ⟨engine, name⟩ := id
  have unmanaged : selection.manages engine = false →
      ((if selection.manages engine = true then
          ∃ voice ∈ index.voices, voice.enabled = true ∧ voice.id = ⟨engine, name⟩
        else (⟨engine, name⟩ : PhysicalVoiceId) ∉ index.disabledPhysicalIds) ↔ True) := by
    intro off
    rw [off, if_neg Bool.false_ne_true]
    exact iff_true_intro disabled
  by_cases piper : engine = "piper"
  · subst piper
    rw [if_pos rfl]
    cases on : selection.piper with
    | false =>
        rw [show library.document.piper = none by rw [loaded]; simp [Loads.document, on],
          unmanaged (by simp [Selection.manages, on])]
        simp
    | true =>
        have managed : selection.manages "piper" = true := by simp [Selection.manages, on]
        rw [show library.document.piper = some ⟨models⟩ by rw [loaded]; simp [Loads.document, on],
          if_pos managed, ← projects.gathers.enabled_iff managed, ← projects.piper_iff]
        simp
  rw [if_neg piper]
  by_cases flite : engine = "flite"
  · subst flite
    rw [if_pos rfl]
    cases on : selection.flite with
    | false =>
        rw [show library.document.flite = none by rw [loaded]; simp [Loads.document, on],
          unmanaged (by simp [Selection.manages, on])]
        simp
    | true =>
        have managed : selection.manages "flite" = true := by simp [Selection.manages, on]
        rw [show library.document.flite = some ⟨loads.builtinSlt,
            sortBy FliteVoice.physicalId loads.files⟩ by rw [loaded]; simp [Loads.document, on],
          if_pos managed, ← projects.gathers.enabled_iff managed, ← projects.flite_iff]
        simp
  rw [if_neg flite]
  by_cases mbrola : engine = "mbrola"
  · subst mbrola
    rw [if_pos rfl]
    cases on : selection.mbrola with
    | false =>
        rw [show library.document.mbrola = none by rw [loaded]; simp [Loads.document, on],
          unmanaged (by simp [Selection.manages, on])]
        simp
    | true =>
        have managed : selection.manages "mbrola" = true := by simp [Selection.manages, on]
        rw [show library.document.mbrola = some ⟨loads.builtinEn1,
            sortBy MbrolaVoice.physicalId loads.databases⟩ by rw [loaded]; simp [Loads.document, on],
          if_pos managed, ← projects.gathers.enabled_iff managed, ← projects.mbrola_iff]
        cases loads.builtinEn1 <;> simp [MbrolaLibrary.voiceIds]
  rw [if_neg mbrola, unmanaged (by simp [Selection.manages, piper, flite, mbrola])]
  by_cases rhvoice : engine = "rhvoice"
  · subst rhvoice
    rw [if_pos rfl]
    have loaded' : library.document.rhvoice = if selection.rhvoice then
        some ⟨true, sortBy RhvoiceVoice.physicalId loads.resources⟩ else none := by
      rw [loaded]
      rfl
    rw [loaded']
    cases selection.rhvoice <;> simp
  · rw [if_neg rhvoice]
    exact iff_true_intro rfl

end Permitted

/-! ## The order of the records -/

section Reordered

variable {hash : List IndexedFile → String} {encodedLength : RuntimeDocument → Nat}
  {index : IndexDocument} {selection : Selection} {host : HostPlatform} {generationId : String}
  {given : IndexedVoice → Contribution} {packages : List PackageRevision}
  {voices : List IndexedVoice}

/-- The same records in another order. -/
def IndexDocument.reordered (index : IndexDocument) (packages : List PackageRevision)
    (voices : List IndexedVoice) : IndexDocument :=
  { index with
    packages := packages
    voices := voices }

theorem contribution_reordered (valid : ValidIndex index) (perm : index.packages.Perm packages)
    (voice : IndexedVoice) :
    contribution hash (index.reordered packages voices) voice = contribution hash index voice := by
  have found : packages.find? (fun package =>
      some package.packageId == voice.packageId && some package.revisionId == voice.revisionId) =
      index.packages.find? (fun package =>
        some package.packageId == voice.packageId &&
          some package.revisionId == voice.revisionId) := by
    refine (find?_perm_of_unique (fun first member second member' fits fits' => ?_) perm).symm
    rw [Bool.and_eq_true, beq_iff_eq, beq_iff_eq] at fits fits'
    refine valid.package_eq member member' (Prod.ext ?_ ?_)
    · exact Option.some.inj (fits.1.trans fits'.1.symm)
    · exact Option.some.inj (fits.2.trans fits'.2.symm)
  have package : validatedPackage hash (index.reordered packages voices) voice =
      validatedPackage hash index voice := by
    unfold validatedPackage IndexDocument.reordered
    simp only [found]
  unfold contribution
  rw [package]

theorem findPackage_of_mem (valid : ValidIndex index) {package : PackageRevision}
    (member : package ∈ index.packages) :
    findPackage index.packages package.packageId package.revisionId = some package := by
  have some_found : (findPackage index.packages package.packageId package.revisionId).isSome =
      true := List.find?_isSome.mpr ⟨package, member, beq_iff_eq.mpr rfl⟩
  obtain ⟨other, found⟩ := Option.isSome_iff_exists.mp some_found
  obtain ⟨member', same, same'⟩ := findPackage_eq_some found
  rw [found, valid.package_eq member' member (Prod.ext same.symm same'.symm)]

/-- Nothing is contributed twice. -/
structure DistinctLoads (contributions : List Contribution) : Prop where
  speakers : ((contributions.filterMap Contribution.speaker?).map fun speaker =>
    (packageKey speaker.1, speaker.2.speakerIndex)).Nodup
  files : ((contributions.filterMap Contribution.file?).map FliteVoice.physicalId).Nodup
  databases : ((contributions.filterMap Contribution.database?).map MbrolaVoice.physicalId).Nodup
  resources : ((contributions.filterMap Contribution.resource?).map RhvoiceVoice.physicalId).Nodup

/-- What distinct voices load of one kind has distinct names. -/
theorem Gathers.distinct_names (gathers : Gathers hash index selection given)
    (valid : ValidIndex index) {A : Type} {pick : Contribution → Option A} {name : A → String}
    (engine : String) (ids : ∀ made a, pick made = some a → made.id = ⟨engine, name a⟩) :
    (((gathered index selection given).filterMap pick).map name).Nodup := by
  have voices : ((projectedVoices index selection).filterMap fun voice => some voice.id).Nodup := by
    rw [List.filterMap_eq_map']
    exact valid.voices.sublist (List.filter_sublist.map _)
  have tagged : (((projectedVoices index selection).filterMap fun voice =>
      pick (given voice)).map fun a => (⟨engine, name a⟩ : PhysicalVoiceId)).Nodup := by
    refine nodup_filterMap_of_tag (fun voice projected a picked => ?_) voices
    rw [← ids _ a picked, (gathers.of projected).id]
  rw [gathered, List.filterMap_map]
  refine List.Nodup.of_map (fun name => (⟨engine, name⟩ : PhysicalVoiceId)) ?_
  rw [List.map_map]
  exact tagged

theorem Gathers.distinct (gathers : Gathers hash index selection given)
    (valid : ValidIndex index) : DistinctLoads (gathered index selection given) where
  speakers := by
    have bound : (((projectedVoices index selection).filterMap fun voice =>
        (given voice).speaker?).map fun speaker =>
          (speaker.1.identity, speaker.2.speakerIndex)).Nodup := by
      refine nodup_filterMap_of_tag (fun voice projected speaker picked => ?_)
        (valid.bindings.sublist (List.filter_sublist.filterMap _))
      have of := gathers.of projected
      rw [Contribution.speaker?_eq_some.mp picked] at of
      obtain ⟨_, speaks, provides⟩ := of
      rw [IndexedVoice.binding, provides.named.1, provides.named.2, Option.bind_eq_bind,
        Option.bind_some, Option.bind_eq_bind, Option.bind_some,
        findPackage_of_mem valid provides.listed, speaks]
      rfl
    have keys := bound.map (ModelIdentity.sortKey_injective.prodMap Function.injective_id)
    rw [List.map_map] at keys
    rw [gathered, List.filterMap_map]
    exact keys
  files := gathers.distinct_names valid "flite" fun made voice picked => by
    rw [Contribution.file?_eq_some.mp picked]
    rfl
  databases := gathers.distinct_names valid "mbrola" fun made voice picked => by
    rw [Contribution.database?_eq_some.mp picked]
    rfl
  resources := gathers.distinct_names valid "rhvoice" fun made voice picked => by
    rw [Contribution.resource?_eq_some.mp picked]
    rfl

/-- **Load sets of the same contributions** make the same models and the same document. -/
theorem Collected.same_document {contributions contributions' : List Contribution}
    {loads loads' : Loads} (collected : Collected contributions loads)
    (collected' : Collected contributions' loads') (perm : contributions.Perm contributions')
    (distinct : DistinctLoads contributions) :
    (sortBy modelKey loads.models).mapM buildModel =
        (sortBy modelKey loads'.models).mapM buildModel ∧
      ∀ models, loads.document models index generationId selection =
        loads'.document models index generationId selection := by
  have sorted : ∀ l : List (PackageRevision × List PiperVoice),
      l.mapM buildModel = (l.map (inOrder PiperVoice.speakerIndex)).mapM buildModel := by
    intro l
    rw [List.mapM_map]
    refine congrArg (fun build => l.mapM build) (funext fun group => ?_)
    have again : sortBy PiperVoice.speakerIndex (sortBy PiperVoice.speakerIndex group.2) =
        sortBy PiperVoice.speakerIndex group.2 := sortBy_pairwise.insertionSort_eq
    unfold buildModel inOrder
    simp only [Function.comp_apply, again]
  constructor
  · rw [sorted (sortBy modelKey loads.models), sorted (sortBy modelKey loads'.models)]
    exact congrArg (fun groups => groups.mapM buildModel)
      (collected.models.sorted_eq collected'.models (perm.filterMap _) distinct.speakers)
  · intro models
    have files : sortBy FliteVoice.physicalId loads.files =
        sortBy FliteVoice.physicalId loads'.files := by
      rw [collected.files, collected'.files]
      exact sortBy_perm distinct.files (perm.filterMap _)
    have databases : sortBy MbrolaVoice.physicalId loads.databases =
        sortBy MbrolaVoice.physicalId loads'.databases := by
      rw [collected.databases, collected'.databases]
      exact sortBy_perm distinct.databases (perm.filterMap _)
    have resources : sortBy RhvoiceVoice.physicalId loads.resources =
        sortBy RhvoiceVoice.physicalId loads'.resources := by
      rw [collected.resources, collected'.resources]
      exact sortBy_perm distinct.resources (perm.filterMap _)
    have slt : loads.builtinSlt = loads'.builtinSlt := by
      rw [Bool.eq_iff_iff, collected.slt_iff, collected'.slt_iff, perm.mem_iff]
    have en1 : loads.builtinEn1 = loads'.builtinEn1 := by
      rw [Bool.eq_iff_iff, collected.en1_iff, collected'.en1_iff, perm.mem_iff]
    rw [Loads.document, Loads.document, files, databases, resources, slt, en1]

/-- **A projection forgets the order of the packages and voices.** -/
theorem project_eq_of_perm (valid : ValidIndex index) (perm : index.packages.Perm packages)
    (perm' : index.voices.Perm voices) {library : RuntimeLibrary host}
    (done : project hash encodedLength index generationId selection host = .ok library) :
    project hash encodedLength (index.reordered packages voices) generationId selection host =
      .ok library := by
  obtain ⟨named, rest⟩ := seq_eq_ok.mp done
  obtain ⟨loads, collects, rest⟩ := bind_eq_ok.mp rest
  obtain ⟨models, built, parsed⟩ := bind_eq_ok.mp rest
  obtain ⟨given, gathers, collected⟩ := collect_ok valid collects
  have projected : (projectedVoices index selection).Perm
      (projectedVoices (index.reordered packages voices) selection) := perm'.filter _
  have contributions : (gathered index selection given).Perm
      (gathered (index.reordered packages voices) selection given) := projected.map given
  have answers : ∀ voice ∈ projectedVoices (index.reordered packages voices) selection,
      contribution hash (index.reordered packages voices) voice = .ok (given voice) := by
    intro voice member
    rw [contribution_reordered valid perm]
    exact gathers.answers voice (projected.mem_iff.mpr member)
  have speakers := contributions.filterMap Contribution.speaker?
  have one : OneRevision ((gathered (index.reordered packages voices) selection given).filterMap
      Contribution.speaker?) := fun first member second member' =>
    gathers.one first (speakers.mem_iff.mpr member) second (speakers.mem_iff.mpr member')
  have keyed : Keyed ((gathered (index.reordered packages voices) selection given).filterMap
      Contribution.speaker?) := by
    refine keyed_of_listed valid fun speaker member => ?_
    exact speaker_listed gathers.answers (fun voice projected =>
      (mem_projectedVoices.mp projected).2.2) speaker (speakers.mem_iff.mpr member)
  obtain ⟨loads', folded⟩ := (addAll_eq_ok keyed).2 one
  have collected' := ((addAll_eq_ok keyed).1 loads' folded).1
  obtain ⟨same_models, same_document⟩ :=
    collected.same_document collected' contributions (gathers.distinct valid)
  refine seq_eq_ok.mpr ⟨named, bind_eq_ok.mpr ⟨loads', foldlM_bind_eq_ok.mpr
    ⟨given, answers, folded⟩, bind_eq_ok.mpr ⟨models, ?_, ?_⟩⟩⟩
  · rw [← same_models]
    exact built
  · have document : loads'.document models (index.reordered packages voices) generationId
        selection = loads.document models index generationId selection :=
      (same_document models).symm
    rw [document]
    exact parsed

end Reordered

end Omnivox.VoiceLibrary
