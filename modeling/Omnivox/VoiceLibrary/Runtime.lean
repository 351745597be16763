import Mathlib
import Omnivox.VoiceLibrary.Metadata

/-!
# The runtime generation of a voice library

A generation lists what each selected provider may load. A provider that is not
selected keeps its own discovery, and RHVoice may keep the voices of a separate
installation. `RuntimeLibrary.permits` is the permission that a generation gives
by itself.
-/

set_option autoImplicit false

namespace Omnivox.VoiceLibrary

open Foundations
open Engines (PhysicalVoiceId splitOnce)

/-! ## Documents -/

structure PiperVoice where
  physicalId : String
  speakerIndex : Nat
  displayName : String
  language : Option String
  deriving Repr, DecidableEq

structure PiperModel where
  identity : ModelIdentity
  model : AssetFile
  config : AssetFile
  voices : List PiperVoice
  deriving Repr, DecidableEq

structure PiperLibrary where
  models : List PiperModel
  deriving Repr, DecidableEq

structure FliteVoice where
  physicalId : String
  file : AssetFile
  displayName : String
  language : Option String
  deriving Repr, DecidableEq

structure FliteLibrary where
  builtinSlt : Bool
  files : List FliteVoice
  deriving Repr, DecidableEq

structure MbrolaVoice where
  physicalId : String
  database : AssetFile
  displayName : String
  language : Option String
  deriving Repr, DecidableEq

structure MbrolaLibrary where
  builtinEn1 : Bool
  files : List MbrolaVoice
  deriving Repr, DecidableEq

def MbrolaLibrary.voiceIds (library : MbrolaLibrary) : List String :=
  (if library.builtinEn1 then [MBROLA_EN1] else []) ++ library.files.map (·.physicalId)

structure RhvoiceVoice where
  physicalId : String
  displayName : String
  language : Option String
  files : List AssetFile
  deriving Repr, DecidableEq

structure RhvoiceLibrary where
  inheritExternal : Bool
  voices : List RhvoiceVoice
  deriving Repr, DecidableEq

/-- One selected load set for each provider. -/
structure RuntimeDocument where
  schemaVersion : Nat
  targetId : String
  profileId : String
  generationId : String
  disabledPhysicalIds : List PhysicalVoiceId
  piper : Option PiperLibrary
  flite : Option FliteLibrary
  mbrola : Option MbrolaLibrary
  rhvoice : Option RhvoiceLibrary
  deriving Repr, DecidableEq

/-! ## Checks of each provider -/

/-- Check each speaker, after the last one and the identifiers seen so far. -/
def checkSpeakers (identity : ModelIdentity) (disabled : List PhysicalVoiceId) :
    Option Nat → List String → List PiperVoice → Except LibraryError (List String)
  | _, ids, [] => .ok ids
  | previous, ids, voice :: rest => do
      identity.validateBinding voice.physicalId voice.speakerIndex
      voiceMetadata voice.displayName voice.language
      require (ascends previous voice.speakerIndex) "Piper speakers must be sorted and unique"
      require (!ids.contains voice.physicalId) "duplicate Piper voice ID"
      require (!disabled.contains ⟨"piper", voice.physicalId⟩) "projected Piper voice is disabled"
      checkSpeakers identity disabled (some voice.speakerIndex) (voice.physicalId :: ids) rest

def checkModels (host : HostPlatform) (disabled : List PhysicalVoiceId) :
    Option (String ×ₗ String) → List String → List PiperModel → Except LibraryError Unit
  | _, _, [] => .ok ()
  | previous, ids, model :: rest => do
      model.identity.validate
      require (ascends previous model.identity.sortKey) "Piper models must be sorted and unique"
      model.model.validate host
      model.config.validate host
      require (model.model.path != model.config.path)
        "Piper model and configuration paths must differ"
      require (!model.voices.isEmpty) "Piper model has no enabled speakers"
      let ids ← checkSpeakers model.identity disabled none ids model.voices
      checkModels host disabled (some model.identity.sortKey) ids rest

def PiperLibrary.validate (library : PiperLibrary) (host : HostPlatform)
    (disabled : List PhysicalVoiceId) : Except LibraryError Nat := do
  require (library.models.length ≤ MAX_PIPER_MODELS) "too many Piper models"
  checkModels host disabled none [] library.models
  return (library.models.map fun model => model.voices.length).sum

def checkFliteVoices (host : HostPlatform) (disabled : List PhysicalVoiceId) :
    Option String → List FliteVoice → Except LibraryError Unit
  | _, [] => .ok ()
  | previous, voice :: rest => do
      fliteId voice.physicalId
      require (ascends previous voice.physicalId) "Flite voices must be sorted and unique"
      voice.file.validate host
      voiceMetadata voice.displayName voice.language
      require (!disabled.contains ⟨"flite", voice.physicalId⟩) "projected Flite voice is disabled"
      checkFliteVoices host disabled (some voice.physicalId) rest

def FliteLibrary.validate (library : FliteLibrary) (host : HostPlatform)
    (disabled : List PhysicalVoiceId) : Except LibraryError Nat := do
  require (library.files.length ≤ MAX_FLITE_FILES) "too many Flite files"
  require (!library.builtinSlt || !disabled.contains ⟨"flite", "cmu_us_slt"⟩)
    "projected built-in SLT is disabled"
  checkFliteVoices host disabled none library.files
  return library.files.length + library.builtinSlt.toNat

def checkDatabases (builtinEn1 : Bool) (host : HostPlatform) (disabled : List PhysicalVoiceId) :
    Option String → List MbrolaVoice → Except LibraryError Unit
  | _, [] => .ok ()
  | previous, voice :: rest => do
      let profile ← MbrolaProfile.forId voice.physicalId
      require (ascends previous voice.physicalId) "MBROLA voices must be sorted and unique"
      require (!builtinEn1 || voice.physicalId != MBROLA_EN1) "duplicate built-in en1"
      voice.database.validate host
      profile.validateDatabase voice.database
      voiceMetadata voice.displayName voice.language
      require (!disabled.contains ⟨"mbrola", voice.physicalId⟩)
        "projected MBROLA voice is disabled"
      checkDatabases builtinEn1 host disabled (some voice.physicalId) rest

def MbrolaLibrary.validate (library : MbrolaLibrary) (host : HostPlatform)
    (disabled : List PhysicalVoiceId) : Except LibraryError Nat := do
  require (library.files.length ≤ 4) "too many MBROLA databases"
  require (!library.builtinEn1 || !disabled.contains ⟨"mbrola", MBROLA_EN1⟩)
    "projected built-in en1 is disabled"
  checkDatabases library.builtinEn1 host disabled none library.files
  return library.files.length + library.builtinEn1.toNat

/-! ## RHVoice resources -/

def languageResources : List String :=
  ["accents.dt", "cmulex.fst", "cmulex.lts", "downcase.fst", "emoji.fst", "gpos.fst", "key.fst",
    "labelling.xml", "language.info", "lseq.fst", "msg.fst", "numbers.fst", "phonemes.xml",
    "phrasing.dt", "spell.fst", "syl.fst", "tok.fst", "tones.dt", "vocab.fst"]

def voiceResources : List String :=
  ["voice.data", "bpf.txt", "bap.pdf", "dur.pdf", "lf0.pdf", "mgc.pdf", "bap.win1", "bap.win2",
    "bap.win3", "lf0.win1", "lf0.win2", "lf0.win3", "mgc.win1", "mgc.win2", "mgc.win3",
    "tree-bap.inf", "tree-dur.inf", "tree-lf0.inf", "tree-mgc.inf"]

def voiceResource (name : String) : Bool :=
  ["voice.info", "voice.params"].contains name ||
    (splitOnce '/' name.toList).any fun parts =>
      ["16000", "24000"].contains (String.ofList parts.1) &&
        voiceResources.contains (String.ofList parts.2)

/-- The reviewed resource layout, below the directory of the resources. -/
def reviewedResource (name : String) : Bool :=
  match stripPrefix "language/" name with
  | some name => languageResources.contains (String.ofList name)
  | none => (stripPrefix "voice/" name).any fun name => voiceResource (String.ofList name)

def resourcePath (value : String) : Except LibraryError Unit := do
  let name ← orError (.invalid "invalid RHVoice resource path") (stripPrefix "rhvoice/" value)
  require (reviewedResource (String.ofList name)) "unsupported RHVoice resource file"

def forwardSlashes (path : String) : List Char :=
  path.toList.map fun c => if c = '\\' then '/' else c

def stripInfo (path : List Char) : Option (List Char) :=
  let suffix := "/rhvoice/voice/voice.info".toList
  if suffix <:+ path then some (path.take (path.length - suffix.length)) else none

def RhvoiceVoice.root (voice : RhvoiceVoice) : Except LibraryError (List Char) :=
  orError (.invalid "RHVoice package lacks voice.info")
    (voice.files.findSome? fun file => stripInfo (forwardSlashes file.path))

/-- Check each resource, after the names seen so far. -/
def checkResources (host : HostPlatform) (root : List Char) :
    List String → List AssetFile → Except LibraryError (List String)
  | names, [] => .ok names
  | names, file :: rest => do
      file.validate host
      let relative ← orError (.invalid "RHVoice resources cross package roots")
        (stripPrefix (String.ofList (root ++ ['/'])) (String.ofList (forwardSlashes file.path)))
      resourcePath (String.ofList relative)
      require (!names.contains (String.ofList relative)) "duplicate RHVoice resource"
      checkResources host root (String.ofList relative :: names) rest

def RhvoiceVoice.validate (voice : RhvoiceVoice) (host : HostPlatform) :
    Except LibraryError Unit := do
  rhvoiceId voice.physicalId
  voiceMetadata voice.displayName voice.language
  require (1 ≤ voice.files.length && voice.files.length ≤ MAX_RHVOICE_FILES)
    "invalid RHVoice resource count"
  let root ← voice.root
  let names ← checkResources host root [] voice.files
  require (names.contains "rhvoice/language/language.info" &&
    names.contains "rhvoice/voice/voice.params") "incomplete RHVoice resources"

def checkRhvoices (host : HostPlatform) (disabled : List PhysicalVoiceId) :
    Option String → List RhvoiceVoice → Except LibraryError Unit
  | _, [] => .ok ()
  | previous, voice :: rest => do
      voice.validate host
      require (ascends previous voice.physicalId) "RHVoice voices must be sorted and unique"
      require (!disabled.contains ⟨"rhvoice", voice.physicalId⟩)
        "projected RHVoice voice is disabled"
      checkRhvoices host disabled (some voice.physicalId) rest

def RhvoiceLibrary.validate (library : RhvoiceLibrary) (host : HostPlatform)
    (disabled : List PhysicalVoiceId) : Except LibraryError Nat := do
  require (library.voices.length ≤ 16) "too many RHVoice voices"
  checkRhvoices host disabled none library.voices
  return library.voices.length

/-! ## The check of a generation -/

/-- The number of voices of a load set, if there is one. -/
def countVoices {Library : Type} (validate : Library → Except LibraryError Nat) :
    Option Library → Except LibraryError Nat
  | some library => validate library
  | none => .ok 0

def RuntimeDocument.validate (document : RuntimeDocument) (host : HostPlatform) :
    Except LibraryError Unit := do
  require (1 ≤ document.schemaVersion && document.schemaVersion ≤ 3) "unsupported library schema"
  require (document.mbrola.isNone || 2 ≤ document.schemaVersion)
    "MBROLA requires runtime schema 2"
  require (document.rhvoice.isNone || document.schemaVersion = 3)
    "RHVoice requires runtime schema 3"
  uuid document.targetId
  uuid document.profileId
  uuid document.generationId
  exclusions document.disabledPhysicalIds
  let disabled := document.disabledPhysicalIds
  let piper ← countVoices (fun library => PiperLibrary.validate library host disabled)
    document.piper
  let flite ← countVoices (fun library => FliteLibrary.validate library host disabled)
    document.flite
  let mbrola ← countVoices (fun library => MbrolaLibrary.validate library host disabled)
    document.mbrola
  let rhvoice ← countVoices (fun library => RhvoiceLibrary.validate library host disabled)
    document.rhvoice
  require (piper + flite + mbrola + rhvoice ≤ MAX_PROJECTED_VOICES) "too many projected voices"

/-- A generation that passed its checks. -/
structure RuntimeLibrary (host : HostPlatform) where
  document : RuntimeDocument
  valid : document.validate host = .ok ()

/-! ## Permission -/

namespace RuntimeDocument

variable (document : RuntimeDocument)

def piperIds : Option (List String) :=
  document.piper.map fun piper =>
    piper.models.flatMap fun model => model.voices.map (·.physicalId)

def fliteIds : Option (List String) :=
  document.flite.map fun flite =>
    (if flite.builtinSlt then ["cmu_us_slt"] else []) ++ flite.files.map (·.physicalId)

end RuntimeDocument

/-- Permission under this projection, not final runtime eligibility. -/
def RuntimeLibrary.permits {host : HostPlatform} (library : RuntimeLibrary host)
    (voice : PhysicalVoiceId) : Bool :=
  if library.document.disabledPhysicalIds.contains voice then false
  else if voice.engineId = "piper" then
    library.document.piper.all fun piper =>
      piper.models.any fun model => model.voices.any fun v => v.physicalId == voice.voiceId
  else if voice.engineId = "flite" then
    library.document.flite.all fun flite =>
      (flite.builtinSlt && voice.voiceId == "cmu_us_slt") ||
        flite.files.any fun v => v.physicalId == voice.voiceId
  else if voice.engineId = "mbrola" then
    library.document.mbrola.all fun mbrola => mbrola.voiceIds.contains voice.voiceId
  else if voice.engineId = "rhvoice" then
    library.document.rhvoice.all fun rhvoice =>
      rhvoice.inheritExternal || rhvoice.voices.any fun v => v.physicalId == voice.voiceId
  else true

end Omnivox.VoiceLibrary
