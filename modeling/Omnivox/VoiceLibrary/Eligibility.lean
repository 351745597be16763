import Mathlib
import Omnivox.Engines.EngineRegistry
import Omnivox.Engines.Resolution
import Omnivox.Parameters.Catalogue
import Omnivox.Synthesis.Contracts
import Omnivox.VoiceLibrary.Projection

/-!
# Administrative voice eligibility

A policy is taken from a generation, once for the process. It permits a voice
that is not disabled and that, if its provider is managed, is in the provider's
load set; without overrides it is the permission of the generation itself
(`fromLibrary_permits`).

An engine is guarded by the policy. Its descriptor is projected: a row that is
not permitted becomes unavailable, and a disabled combination of eSpeak gets a
row of its own first, so that it is not put together from its base. A voice that
the projected descriptor offers is then permitted (`projectDescriptor_permits`).
-/

set_option autoImplicit false

namespace Omnivox.VoiceLibrary

open Foundations
open Engines (PhysicalVoiceId Availability VoiceDescriptor EngineDescriptor validEspeakCombination
  splitOnce NativePatch validateDescriptor validateDescriptor_ok)
open Parameters (CatalogueIdentity CommonInput HelperProtocolError MAX_CONTROL_PAYLOAD_BYTES)
open Synthesis (SynthesisRequest TtsError)

def EXCLUDED : String := "excluded by voice-library configuration"

/-! ## Policies -/

/-- Explicit native file settings replace only that provider's managed load set. -/
structure ProviderOverrides where
  piper : Bool
  flite : Bool
  deriving Repr, DecidableEq

def ProviderOverrides.none : ProviderOverrides := ⟨false, false⟩

structure VoiceEligibility where
  disabled : List PhysicalVoiceId
  managed : List (String × List String)
  overridden : List String
  deriving Repr, DecidableEq

/-- The load set of a provider, unless it is overridden. -/
def managedSet (engine : String) (overridden : Bool) (ids : Option (List String)) :
    List (String × List String) :=
  match ids with
  | some ids => if overridden then [] else [(engine, ids)]
  | none => []

/-- The identifiers of an RHVoice load set without external voices. -/
def RuntimeDocument.isolatedRhvoice (document : RuntimeDocument) : Option (List String) :=
  match document.rhvoice with
  | some rhvoice => if rhvoice.inheritExternal then none else some (rhvoice.voices.map (·.physicalId))
  | none => none

namespace VoiceEligibility

def fromLibrary {host : HostPlatform} (library : RuntimeLibrary host)
    (overrides : ProviderOverrides) : VoiceEligibility where
  disabled := library.document.disabledPhysicalIds
  managed :=
    managedSet "piper" overrides.piper library.document.piperIds ++
      managedSet "flite" overrides.flite library.document.fliteIds ++
      managedSet "mbrola" false (library.document.mbrola.map MbrolaLibrary.voiceIds) ++
      managedSet "rhvoice" false library.document.isolatedRhvoice
  overridden := sortBy id
    ((if overrides.piper && library.document.piper.isSome then ["piper"] else []) ++
      if overrides.flite && library.document.flite.isSome then ["flite"] else [])

def permits (policy : VoiceEligibility) (voice : PhysicalVoiceId) : Bool :=
  !policy.disabled.contains voice &&
    (policy.managed.lookup voice.engineId).all fun voices => voices.contains voice.voiceId

/-- An explicit empty load set requires no helper and cannot be rescanned. -/
def excludesProvider (policy : VoiceEligibility) (engineId : String) : Bool :=
  (policy.managed.lookup engineId).any List.isEmpty

/-! ## Descriptors -/

/-- A row for a disabled voice that the descriptor would put together. -/
def addExclusion (descriptor : EngineDescriptor) (id : PhysicalVoiceId) : EngineDescriptor :=
  if descriptor.voices.any fun voice => voice.id == id then descriptor
  else
    match descriptor.voice id.voiceId with
    | some voice => { descriptor with voices := descriptor.voices ++ [voice] }
    | none => descriptor

/-- Disabled voices of an engine, by their names. -/
def excludedVoices (policy : VoiceEligibility) (engineId : String) : List PhysicalVoiceId :=
  sortBy PhysicalVoiceId.voiceId (policy.disabled.filter fun id => id.engineId == engineId)

def withExclusions (policy : VoiceEligibility) (descriptor : EngineDescriptor) :
    EngineDescriptor :=
  (policy.excludedVoices descriptor.id).foldl addExclusion descriptor

def markVoice (policy : VoiceEligibility) (voice : VoiceDescriptor) : VoiceDescriptor :=
  if policy.permits voice.id then voice
  else { voice with availability := .unavailable EXCLUDED }

def allExcluded (policy : VoiceEligibility) (descriptor : EngineDescriptor) : Bool :=
  policy.excludesProvider descriptor.id ||
    (!descriptor.voices.isEmpty && descriptor.voices.all fun voice => !policy.permits voice.id)

/-- The default among the rows that are available. -/
def defaultVoice (policy : VoiceEligibility) (descriptor : EngineDescriptor) : Option String :=
  let available := fun id => descriptor.voices.any fun voice =>
    voice.id.voiceId == id && voice.availability.isAvailable
  match policy.managed.lookup descriptor.id with
  | some order => order.find? available
  | none =>
      match descriptor.defaultVoiceId with
      | some id =>
          if available id then some id
          else (descriptor.voices.find? fun voice => voice.availability.isAvailable).map
            fun voice => voice.id.voiceId
      | none => none

/-- Preserve excluded rows for saved references while replacing defaults that could bypass
eligibility. -/
def projectDescriptor (policy : VoiceEligibility) (descriptor : EngineDescriptor) :
    EngineDescriptor :=
  let extended := policy.withExclusions descriptor
  let marked := { extended with voices := extended.voices.map policy.markVoice }
  if policy.allExcluded extended then
    { marked with
      availability := .unavailable EXCLUDED
      defaultVoiceId := none }
  else { marked with defaultVoiceId := policy.defaultVoice marked }

end VoiceEligibility

/-! ## Guarded engines -/

/-- The voice that a request asks of an engine. -/
def voiceIdForEngine (request : SynthesisRequest) (engineId : String) : Except TtsError String :=
  match request.requestedVoice with
  | some voice =>
      if voice.engineId = engineId then .ok voice.voiceId
      else .error (.invalidParameter
        s!"request targets engine {voice.engineId} but was sent to {engineId}")
  | none => .ok request.settings.voice

inductive UnavailablePolicy where
  | require
  | commonOnly
  deriving Repr, DecidableEq

/-- Native parameters of one request. -/
structure VoiceParameters where
  native : NativePatch
  contextDimensions : List CommonInput
  expectedIdentity : CatalogueIdentity
  unavailablePolicy : UnavailablePolicy
  deriving Repr, DecidableEq

/-- Check native parameters, whose JSON text has the given length. -/
def VoiceParameters.validate (encodedLength : VoiceParameters → Nat)
    (parameters : VoiceParameters) : Except HelperProtocolError Unit := do
  parameters.native.validateShape.mapError fun _ => .invalidField "native"
  parameters.expectedIdentity.validate.mapError fun _ => .invalidField "identity"
  ensure (parameters.contextDimensions.length ≤ 14 &&
    parameters.contextDimensions.dedup.length = parameters.contextDimensions.length)
    (.invalidField "context_dimensions")
  ensure (encodedLength parameters ≤ MAX_CONTROL_PAYLOAD_BYTES)
    (.invalidField "parameter_payload_bytes")

def describeProtocolError : HelperProtocolError → String
  | .invalidField field => s!"invalid helper protocol field: {field}"
  | .json => "helper protocol JSON is invalid"

def validateRequest (encodedLength : VoiceParameters → Nat) (parameters : VoiceParameters) :
    Except TtsError Unit :=
  (parameters.validate encodedLength).mapError fun error =>
    .invalidParameter (describeProtocolError error)

/-- A call of the engine behind the guard. -/
inductive EngineCall where
  | synthesize (request : SynthesisRequest)
  | synthesizeStream (request : SynthesisRequest)
  | synthesizeWithParameters (request : SynthesisRequest) (parameters : VoiceParameters)
  | synthesizeStreamWithParameters (request : SynthesisRequest) (parameters : VoiceParameters)
  deriving Repr, DecidableEq

/-- An engine under a policy. Its own descriptor is read at every request. -/
structure EligibleEngine where
  engineId : String
  policy : VoiceEligibility
  deriving Repr, DecidableEq

def VoiceEligibility.guardEngine (policy : VoiceEligibility) (descriptor : EngineDescriptor) :
    EligibleEngine := ⟨descriptor.id, policy⟩

namespace EligibleEngine

variable (guarded : EligibleEngine) (descriptor : EngineDescriptor)

/-- Only exact advertised identifiers cross the managed boundary. -/
def admitRequest (request : SynthesisRequest) : Except TtsError Unit := do
  let id ← voiceIdForEngine request guarded.engineId
  ensure (guarded.policy.permits ⟨guarded.engineId, id⟩) (.voiceNotFound EXCLUDED)
  match (guarded.policy.projectDescriptor descriptor).voice id with
  | some voice =>
      match voice.availability with
      | .available => .ok ()
      | .unavailable reason => .error (.voiceNotFound reason)
  | none => .error (.voiceNotFound "voice is not advertised by this engine")

def synthesize (request : SynthesisRequest) : Except TtsError EngineCall := do
  guarded.admitRequest descriptor request
  return .synthesize request

def synthesizeStream (request : SynthesisRequest) : Except TtsError EngineCall := do
  guarded.admitRequest descriptor request
  return .synthesizeStream request

variable (encodedLength : VoiceParameters → Nat)

def synthesizeWithParameters (request : SynthesisRequest) (parameters : VoiceParameters) :
    Except TtsError EngineCall := do
  validateRequest encodedLength parameters
  guarded.admitRequest descriptor request
  return .synthesizeWithParameters request parameters

def synthesizeStreamWithParameters (request : SynthesisRequest) (parameters : VoiceParameters) :
    Except TtsError EngineCall := do
  validateRequest encodedLength parameters
  guarded.admitRequest descriptor request
  return .synthesizeStreamWithParameters request parameters

end EligibleEngine

/-! ## The permission of a generation -/

section Permission

variable {engine other : String} {overridden : Bool} {ids : Option (List String)}
  {rest : List (String × List String)}

theorem lookup_managedSet_ne (apart : other ≠ engine) :
    (managedSet engine overridden ids ++ rest).lookup other = rest.lookup other := by
  cases ids with
  | none => rfl
  | some names =>
      cases overridden with
      | true => rfl
      | false =>
          have different : (other == engine) = false := beq_eq_false_iff_ne.mpr apart
          rw [managedSet, if_neg Bool.false_ne_true, List.cons_append, List.nil_append,
            List.lookup_cons, different]

/-- The load set of a provider without override, where nothing behind it is the provider's. -/
theorem lookup_managedSet (behind : rest.lookup engine = none) :
    (managedSet engine false ids ++ rest).lookup engine = ids := by
  cases ids with
  | none => exact behind
  | some names =>
      rw [managedSet, if_neg Bool.false_ne_true, List.cons_append, List.nil_append,
        List.lookup_cons, beq_self_eq_true]

theorem lookup_managedSet_only_ne (apart : other ≠ engine) :
    (managedSet engine overridden ids).lookup other = none := by
  rw [← List.append_nil (managedSet engine overridden ids), lookup_managedSet_ne apart]
  rfl

theorem lookup_managedSet_only : (managedSet engine false ids).lookup engine = ids := by
  rw [← List.append_nil (managedSet engine false ids), lookup_managedSet rfl]

end Permission

namespace VoiceEligibility

variable {host : HostPlatform} {library : RuntimeLibrary host}

/-- An engine outside the library is not managed. -/
theorem lookup_other {overrides : ProviderOverrides} {engine : String} (piper : engine ≠ "piper")
    (flite : engine ≠ "flite") (mbrola : engine ≠ "mbrola") (rhvoice : engine ≠ "rhvoice") :
    (fromLibrary library overrides).managed.lookup engine = none := by
  simp only [fromLibrary, List.append_assoc]
  rw [lookup_managedSet_ne piper, lookup_managedSet_ne flite, lookup_managedSet_ne mbrola,
    lookup_managedSet_only_ne rhvoice]

theorem lookup_piper :
    (fromLibrary library .none).managed.lookup "piper" = library.document.piperIds := by
  simp only [fromLibrary, List.append_assoc]
  refine lookup_managedSet ?_
  rw [lookup_managedSet_ne (by decide), lookup_managedSet_ne (by decide),
    lookup_managedSet_only_ne (by decide)]

theorem lookup_flite :
    (fromLibrary library .none).managed.lookup "flite" = library.document.fliteIds := by
  simp only [fromLibrary, List.append_assoc]
  rw [lookup_managedSet_ne (by decide)]
  refine lookup_managedSet ?_
  rw [lookup_managedSet_ne (by decide), lookup_managedSet_only_ne (by decide)]

theorem lookup_mbrola : (fromLibrary library .none).managed.lookup "mbrola" =
    library.document.mbrola.map MbrolaLibrary.voiceIds := by
  simp only [fromLibrary, List.append_assoc]
  rw [lookup_managedSet_ne (by decide), lookup_managedSet_ne (by decide)]
  refine lookup_managedSet ?_
  rw [lookup_managedSet_only_ne (by decide)]

theorem lookup_rhvoice : (fromLibrary library .none).managed.lookup "rhvoice" =
    library.document.isolatedRhvoice := by
  simp only [fromLibrary, List.append_assoc]
  rw [lookup_managedSet_ne (by decide), lookup_managedSet_ne (by decide),
    lookup_managedSet_ne (by decide), lookup_managedSet_only]

/-- **Without overrides a policy permits what its generation permits.** -/
theorem fromLibrary_eq (voice : PhysicalVoiceId) :
    (fromLibrary library .none).permits voice = library.permits voice := by
  unfold permits RuntimeLibrary.permits
  have disabled : (fromLibrary library .none).disabled = library.document.disabledPhysicalIds := rfl
  rw [disabled]
  cases excluded : library.document.disabledPhysicalIds.contains voice with
  | true => rfl
  | false =>
      rw [Bool.not_false, Bool.true_and, if_neg Bool.false_ne_true]
      by_cases piper : voice.engineId = "piper"
      · rw [if_pos piper, piper, lookup_piper]
        cases load : library.document.piper with
        | none => simp [RuntimeDocument.piperIds, load]
        | some piper =>
            rw [Bool.eq_iff_iff]
            simp [RuntimeDocument.piperIds, load]
      rw [if_neg piper]
      by_cases flite : voice.engineId = "flite"
      · rw [if_pos flite, flite, lookup_flite]
        cases load : library.document.flite with
        | none => simp [RuntimeDocument.fliteIds, load]
        | some flite =>
            rw [Bool.eq_iff_iff]
            cases builtin : flite.builtinSlt <;> simp [RuntimeDocument.fliteIds, load, builtin]
      rw [if_neg flite]
      by_cases mbrola : voice.engineId = "mbrola"
      · rw [if_pos mbrola, mbrola, lookup_mbrola]
        cases library.document.mbrola <;> rfl
      rw [if_neg mbrola]
      by_cases rhvoice : voice.engineId = "rhvoice"
      · rw [if_pos rhvoice, rhvoice, lookup_rhvoice]
        cases load : library.document.rhvoice with
        | none => simp [RuntimeDocument.isolatedRhvoice, load]
        | some rhvoice =>
            rw [Bool.eq_iff_iff]
            cases inherited : rhvoice.inheritExternal <;>
              simp [RuntimeDocument.isolatedRhvoice, load, inherited]
      · rw [if_neg rhvoice, lookup_other piper flite mbrola rhvoice]
        rfl

end VoiceEligibility

/-! ## Projected descriptors -/

section Descriptors

variable {descriptor : EngineDescriptor} {id : String} {voice : VoiceDescriptor}

/-- The rows of a descriptor are its own engine's. -/
def OwnRows (descriptor : EngineDescriptor) : Prop :=
  ∀ voice ∈ descriptor.voices, voice.id.engineId = descriptor.id

/-- A base and a bundled variant make a voice. -/
structure Composes (descriptor : EngineDescriptor) (id : String) (base : VoiceDescriptor) :
    Prop where
  espeak : descriptor.id = "espeak"
  combination : validEspeakCombination id = true
  parts : ∃ start suffix, splitOnce '+' id.toList = some (start, suffix) ∧
    base.id.voiceId = String.ofList start ∧
      (descriptor.espeakVariants.find? fun variant => variant.id.toList == suffix).isSome = true

/-- A combination is put together from a listed base. -/
structure Combined (descriptor : EngineDescriptor) (id : String) (voice base : VoiceDescriptor) :
    Prop where
  composes : Composes descriptor id base
  unlisted : ∀ row ∈ descriptor.voices, row.id.voiceId ≠ id
  listed : base ∈ descriptor.voices
  named : voice.id = ⟨base.id.engineId, id⟩
  available : voice.availability = base.availability

theorem splitOnce_plain {text start rest : List Char} {separator : Char}
    (split : splitOnce separator text = some (start, rest)) :
    separator ∉ start ∧ separator ∈ text := by
  unfold splitOnce at split
  split at split
  · cases split
  · rename_i first suffix dropped
    cases split
    constructor
    · intro member
      have kept := List.mem_takeWhile_imp member
      simp at kept
    · have held : first ∈ text.dropWhile (· != separator) := dropped ▸ List.mem_cons_self
      have stopped := List.head_dropWhile_not (· != separator) (dropped ▸ List.cons_ne_nil _ _)
      simp only [dropped, List.head_cons] at stopped
      rw [bne_eq_false_iff_eq] at stopped
      rw [← stopped]
      exact (List.dropWhile_sublist _).subset held

/-- **An offered voice** is listed or put together. -/
theorem offered_cases (offered : descriptor.voice id = some voice) :
    (voice ∈ descriptor.voices ∧ voice.id.voiceId = id) ∨
      ∃ base, Combined descriptor id voice base := by
  rw [EngineDescriptor.voice] at offered
  split at offered
  · rename_i listed found
    cases offered
    have matched := List.find?_some found
    exact Or.inl ⟨List.mem_of_find?_eq_some found, eq_of_beq matched⟩
  · rename_i missing
    split at offered
    · cases offered
    · rename_i combination
      rw [Bool.not_eq_true, Bool.or_eq_false_iff, bne_eq_false_iff_eq,
        Bool.not_eq_false'] at combination
      simp only [Option.bind_eq_bind, Option.bind_eq_some_iff] at offered
      obtain ⟨⟨start, suffix⟩, split, variant, bundled, base, found, made⟩ := offered
      cases made
      have matched := List.find?_some found
      rw [beq_iff_eq] at matched
      refine Or.inr ⟨base, ⟨combination.1, combination.2, start, suffix, split, matched,
        Option.isSome_iff_exists.mpr ⟨variant, bundled⟩⟩, ?_, List.mem_of_find?_eq_some found,
        rfl, rfl⟩
      intro row member same
      exact List.find?_eq_none.mp missing row member (beq_iff_eq.mpr same)

theorem Composes.joined {base : VoiceDescriptor} (composes : Composes descriptor id base) :
    '+' ∈ id.toList := by
  obtain ⟨start, suffix, split, -⟩ := composes.parts
  exact (splitOnce_plain split).2

theorem Composes.plain {base : VoiceDescriptor} (composes : Composes descriptor id base) :
    '+' ∉ base.id.voiceId.toList := by
  obtain ⟨start, suffix, split, named, -⟩ := composes.parts
  rw [named, String.toList_ofList]
  exact (splitOnce_plain split).1

theorem listed_isSome {name : String} {row : VoiceDescriptor} (member : row ∈ descriptor.voices)
    (named : row.id.voiceId = name) : (descriptor.listedVoice name).isSome = true :=
  List.find?_isSome.mpr ⟨row, member, beq_iff_eq.mpr named⟩

/-- **What is listed is offered**, and so is what is composed of something listed. -/
theorem offered_of_listed {row : VoiceDescriptor} (member : row ∈ descriptor.voices)
    (named : row.id.voiceId = id ∨ Composes descriptor id row) :
    (descriptor.voice id).isSome = true := by
  rw [EngineDescriptor.voice]
  cases found : descriptor.listedVoice id with
  | some listed => rfl
  | none =>
      rcases named with named | composes
      · have present := listed_isSome member named
        rw [found] at present
        cases present
      · obtain ⟨start, suffix, split, base, bundled⟩ := composes.parts
        obtain ⟨variant, bundled⟩ := Option.isSome_iff_exists.mp bundled
        obtain ⟨listed, present⟩ := Option.isSome_iff_exists.mp (listed_isSome member base)
        have combination : ¬ (descriptor.id != "espeak" || !validEspeakCombination id) = true := by
          rw [composes.espeak, composes.combination]
          decide
        simp only [if_neg combination, Option.bind_eq_bind, split, Option.bind_some, bundled, present]
        rfl

theorem OwnRows.voice_id (own : OwnRows descriptor) (offered : descriptor.voice id = some voice) :
    voice.id = ⟨descriptor.id, id⟩ := by
  rcases offered_cases offered with ⟨member, rfl⟩ | ⟨base, combined⟩
  · rw [← own voice member]
  · rw [combined.named, own base combined.listed]

/-- More rows offer no fewer voices. -/
theorem voice_isSome_mono {extended : EngineDescriptor}
    (same : extended.id = descriptor.id ∧ extended.espeakVariants = descriptor.espeakVariants)
    (more : ∀ row ∈ descriptor.voices, row ∈ extended.voices)
    (offered : (descriptor.voice id).isSome = true) : (extended.voice id).isSome = true := by
  obtain ⟨voice, offered⟩ := Option.isSome_iff_exists.mp offered
  rcases offered_cases offered with ⟨member, named⟩ | ⟨base, combined⟩
  · exact offered_of_listed (more voice member) (Or.inl named)
  · refine offered_of_listed (more base combined.listed) (Or.inr ⟨?_, combined.composes.combination,
      ?_⟩)
    · rw [same.1]
      exact combined.composes.espeak
    · rw [same.2]
      exact combined.composes.parts

namespace VoiceEligibility

/-- What a row for an exclusion changes: at most one row is added, a combination. -/
theorem addExclusion_cases (own : OwnRows descriptor) (excluded : PhysicalVoiceId)
    (here : excluded.engineId = descriptor.id) :
    (addExclusion descriptor excluded = descriptor ∧
        ((descriptor.voice excluded.voiceId).isSome = true →
          ∃ row ∈ descriptor.voices, row.id = excluded)) ∨
      ∃ row, addExclusion descriptor excluded =
          { descriptor with voices := descriptor.voices ++ [row] } ∧
        row.id = excluded ∧ '+' ∈ excluded.voiceId.toList := by
  unfold addExclusion
  by_cases present : (descriptor.voices.any fun voice => voice.id == excluded) = true
  · rw [if_pos present]
    obtain ⟨row, member, same⟩ := List.any_eq_true.mp present
    exact Or.inl ⟨rfl, fun _ => ⟨row, member, eq_of_beq same⟩⟩
  · rw [if_neg present]
    cases offered : descriptor.voice excluded.voiceId with
    | none => exact Or.inl ⟨rfl, nofun⟩
    | some row =>
        have named : row.id = excluded := by
          rw [own.voice_id offered, ← here]
        refine Or.inr ⟨row, rfl, named, ?_⟩
        rcases offered_cases offered with ⟨member, _⟩ | ⟨base, combined⟩
        · exact (present (List.any_eq_true.mpr ⟨row, member, beq_iff_eq.mpr named⟩)).elim
        · exact combined.composes.joined

/-- The rows that were there, and combinations. -/
structure Extends (descriptor extended : EngineDescriptor) : Prop where
  same : extended.id = descriptor.id ∧ extended.espeakVariants = descriptor.espeakVariants
  own : OwnRows extended
  more : ∀ row ∈ descriptor.voices, row ∈ extended.voices
  new : ∀ row ∈ extended.voices, row ∈ descriptor.voices ∨ '+' ∈ row.id.voiceId.toList

theorem Extends.trans {first second third : EngineDescriptor} (before : Extends first second)
    (behind : Extends second third) : Extends first third where
  same := ⟨behind.same.1.trans before.same.1, behind.same.2.trans before.same.2⟩
  own := behind.own
  more row member := behind.more row (before.more row member)
  new row member := (behind.new row member).elim (before.new row) Or.inr

theorem addExclusion_extends (own : OwnRows descriptor) (excluded : PhysicalVoiceId)
    (here : excluded.engineId = descriptor.id) :
    Extends descriptor (addExclusion descriptor excluded) := by
  rcases addExclusion_cases own excluded here with ⟨same, _⟩ | ⟨row, changed, named, combination⟩
  · rw [same]
    exact ⟨⟨rfl, rfl⟩, own, fun _ member => member, fun _ member => Or.inl member⟩
  · rw [changed]
    refine ⟨⟨rfl, rfl⟩, ?_, fun other member => List.mem_append_left _ member, ?_⟩
    · intro other member
      rcases List.mem_append.mp member with old | new
      · exact own other old
      · rw [List.mem_singleton.mp new, named]
        exact here
    · intro other member
      rcases List.mem_append.mp member with old | new
      · exact Or.inl old
      · rw [List.mem_singleton.mp new, named]
        exact Or.inr combination

/-- **Rows for exclusions**: each excluded voice that would be offered has its row. -/
theorem foldl_addExclusion {excluded : List PhysicalVoiceId} (own : OwnRows descriptor)
    (here : ∀ voice ∈ excluded, voice.engineId = descriptor.id) :
    Extends descriptor (excluded.foldl addExclusion descriptor) ∧
      ∀ voice ∈ excluded, (descriptor.voice voice.voiceId).isSome = true →
        ∃ row ∈ (excluded.foldl addExclusion descriptor).voices, row.id = voice := by
  induction excluded generalizing descriptor with
  | nil =>
      exact ⟨⟨⟨rfl, rfl⟩, own, fun _ member => member, fun _ member => Or.inl member⟩, nofun⟩
  | cons first rest ih =>
      obtain ⟨now, later⟩ := List.forall_mem_cons.mp here
      have step := addExclusion_extends own first now
      obtain ⟨extension, rows⟩ := ih step.own fun voice member =>
        (later voice member).trans step.same.1.symm
      rw [List.foldl_cons]
      refine ⟨step.trans extension, List.forall_mem_cons.mpr ⟨fun offered => ?_,
        fun voice member offered => ?_⟩⟩
      · obtain ⟨row, held, named⟩ : ∃ row ∈ (addExclusion descriptor first).voices,
            row.id = first := by
          rcases addExclusion_cases own first now with ⟨same, present⟩ | ⟨row, changed, named, _⟩
          · rw [same]
            exact present offered
          · rw [changed]
            exact ⟨row, List.mem_append_right _ (List.mem_singleton_self _), named⟩
        exact ⟨row, extension.more row held, named⟩
      · exact rows voice member (voice_isSome_mono step.same step.more offered)

variable {host : HostPlatform} {library : RuntimeLibrary host} {policy : VoiceEligibility}

theorem projectDescriptor_id : (policy.projectDescriptor descriptor).id =
    (policy.withExclusions descriptor).id := by
  unfold projectDescriptor
  dsimp only
  split <;> rfl

theorem projectDescriptor_voices : (policy.projectDescriptor descriptor).voices =
    (policy.withExclusions descriptor).voices.map policy.markVoice := by
  unfold projectDescriptor
  dsimp only
  split <;> rfl

theorem projectDescriptor_variants : (policy.projectDescriptor descriptor).espeakVariants =
    (policy.withExclusions descriptor).espeakVariants := by
  unfold projectDescriptor
  dsimp only
  split <;> rfl

theorem markVoice_id (row : VoiceDescriptor) : (policy.markVoice row).id = row.id := by
  unfold markVoice
  split <;> rfl

/-- A marked row that is available is permitted. -/
theorem permits_of_marked {row : VoiceDescriptor}
    (available : (policy.markVoice row).availability = .available) :
    policy.permits row.id = true := by
  by_contra excluded
  rw [markVoice, if_neg excluded] at available
  cases available

theorem withExclusions_extends (own : OwnRows descriptor) :
    Extends descriptor (policy.withExclusions descriptor) ∧
      ∀ voice ∈ policy.disabled, voice.engineId = descriptor.id →
        (descriptor.voice voice.voiceId).isSome = true →
          ∃ row ∈ (policy.withExclusions descriptor).voices, row.id = voice := by
  have listed : ∀ {voice : PhysicalVoiceId}, voice ∈ policy.excludedVoices descriptor.id ↔
      voice ∈ policy.disabled ∧ voice.engineId = descriptor.id := by
    intro voice
    rw [excludedVoices, mem_sortBy, List.mem_filter, beq_iff_eq]
  obtain ⟨extension, rows⟩ := foldl_addExclusion own fun voice member => (listed.mp member).2
  exact ⟨extension, fun voice disabled here => rows voice (listed.mpr ⟨disabled, here⟩)⟩

/-- A combination that the projected descriptor offers was offered before. -/
theorem offered_of_projected (own : OwnRows descriptor) {base : VoiceDescriptor}
    (combined : Combined (policy.projectDescriptor descriptor) id voice base) :
    (descriptor.voice id).isSome = true := by
  obtain ⟨extension, _⟩ := policy.withExclusions_extends own
  have listed := combined.listed
  rw [projectDescriptor_voices] at listed
  obtain ⟨row, held, marked⟩ := List.mem_map.mp listed
  have same : base.id = row.id := by rw [← marked, markVoice_id]
  have composes := combined.composes
  have before : row ∈ descriptor.voices := by
    refine (extension.new row held).resolve_right fun joined => composes.plain ?_
    rw [same]
    exact joined
  refine offered_of_listed before (Or.inr ⟨?_, composes.combination, ?_⟩)
  · rw [← extension.same.1, ← projectDescriptor_id]
    exact composes.espeak
  · obtain ⟨start, suffix, split, named, bundled⟩ := composes.parts
    rw [projectDescriptor_variants, extension.same.2] at bundled
    exact ⟨start, suffix, split, same ▸ named, bundled⟩

/-- **What a projected descriptor offers is permitted.** A listed row is marked. A combination is
put together from a permitted base, and if it were disabled it would have a row. -/
theorem projectDescriptor_permits {overrides : ProviderOverrides} (own : OwnRows descriptor)
    (offered : ((fromLibrary library overrides).projectDescriptor descriptor).voice id = some voice)
    (available : voice.availability = .available) :
    (fromLibrary library overrides).permits ⟨descriptor.id, id⟩ = true := by
  obtain ⟨extension, rows⟩ := (fromLibrary library overrides).withExclusions_extends own
  rcases offered_cases offered with ⟨member, named⟩ | ⟨base, combined⟩
  · rw [projectDescriptor_voices] at member
    obtain ⟨row, held, rfl⟩ := List.mem_map.mp member
    have permitted := permits_of_marked available
    rw [markVoice_id] at named
    rw [← named, ← extension.same.1, ← extension.own row held]
    exact permitted
  · have espeak := combined.composes.espeak
    rw [projectDescriptor_id, extension.same.1] at espeak
    have allowed : ⟨descriptor.id, id⟩ ∉ (fromLibrary library overrides).disabled := by
      intro disabled
      obtain ⟨row, held, named⟩ := rows ⟨descriptor.id, id⟩ disabled rfl
        (offered_of_projected own combined)
      refine combined.unlisted ((fromLibrary library overrides).markVoice row) ?_ ?_
      · rw [projectDescriptor_voices]
        exact List.mem_map_of_mem held
      · rw [markVoice_id, named]
    have unmanaged : (fromLibrary library overrides).managed.lookup descriptor.id = none := by
      rw [espeak]
      exact lookup_other (by decide) (by decide) (by decide) (by decide)
    rw [permits, unmanaged, Option.all_none, Bool.and_true, Bool.not_eq_true',
      ← Bool.not_eq_true, List.contains_iff_mem]
    exact allowed

end VoiceEligibility

end Descriptors

/-! ## From desired state to the engine -/

section Guarded

variable {guarded : EligibleEngine} {descriptor : EngineDescriptor} {request : SynthesisRequest}
  {encodedLength : VoiceParameters → Nat} {parameters : VoiceParameters} {call : EngineCall}

/-- The voice that the request asks for is available in the projected descriptor. -/
def Offers (policy : VoiceEligibility) (descriptor : EngineDescriptor) (engineId : String)
    (request : SynthesisRequest) : Prop :=
  ∃ id voice, voiceIdForEngine request engineId = .ok id ∧
    (policy.projectDescriptor descriptor).voice id = some voice ∧ voice.availability = .available

/-- The voice that the request asks for is permitted. -/
def Permits (policy : VoiceEligibility) (engineId : String) (request : SynthesisRequest) : Prop :=
  ∃ id, voiceIdForEngine request engineId = .ok id ∧ policy.permits ⟨engineId, id⟩ = true

/-- A guard lets through what is permitted and offered. -/
theorem admitRequest_eq_ok {u : Unit} :
    guarded.admitRequest descriptor request = .ok u ↔
      Permits guarded.policy guarded.engineId request ∧
        Offers guarded.policy descriptor guarded.engineId request := by
  rw [EligibleEngine.admitRequest, bind_eq_ok]
  constructor
  · rintro ⟨id, asked, rest⟩
    obtain ⟨permitted, rest⟩ := seq_eq_ok.mp rest
    rw [ensure_eq_ok] at permitted
    split at rest
    · rename_i voice offered
      split at rest
      · rename_i available
        exact ⟨⟨id, asked, permitted⟩, id, voice, asked, offered, available⟩
      · cases rest
    · cases rest
  · rintro ⟨⟨id, asked, permitted⟩, id', voice, asked', offered, available⟩
    obtain rfl := Except.ok.inj (asked.symm.trans asked')
    refine ⟨id, asked, seq_eq_ok.mpr ⟨ensure_eq_ok.mpr permitted, ?_⟩⟩
    rw [offered]
    dsimp only
    rw [available]

/-- A call behind a guard. -/
theorem guarded_call {made : EngineCall} :
    (do guarded.admitRequest descriptor request
        return made) = Except.ok call ↔
      call = made ∧ Permits guarded.policy guarded.engineId request ∧
        Offers guarded.policy descriptor guarded.engineId request := by
  rw [seq_eq_ok, admitRequest_eq_ok]
  constructor
  · rintro ⟨admitted, result⟩
    cases result
    exact ⟨rfl, admitted⟩
  · rintro ⟨rfl, admitted⟩
    exact ⟨admitted, rfl⟩

theorem validateRequest_eq_ok {u : Unit} :
    validateRequest encodedLength parameters = .ok u ↔
      parameters.validate encodedLength = .ok () :=
  mapError_eq_ok

/-- A validated descriptor offers permitted voices only. -/
theorem permits_of_offers {host : HostPlatform} {library : RuntimeLibrary host}
    {overrides : ProviderOverrides} (validated : validateDescriptor descriptor = .ok ())
    (offers : Offers (.fromLibrary library overrides) descriptor descriptor.id request) :
    Permits (.fromLibrary library overrides) descriptor.id request := by
  obtain ⟨id, voice, asked, offered, available⟩ := offers
  exact ⟨id, asked, VoiceEligibility.projectDescriptor_permits
    (validateDescriptor_ok validated).own offered available⟩

end Guarded

/-- A Flite package with one voice, and the built-in voice disabled. -/
def sampleIndex : IndexDocument where
  schemaVersion := 1
  targetId := "11111111-1111-4111-8111-111111111111"
  profileId := "22222222-2222-4222-8222-222222222222"
  revisionId := "55555555-5555-4555-8555-555555555555"
  packages := [{
    packageId := "44444444-4444-4444-8444-444444444444"
    revisionId := "66666666-6666-4666-8666-666666666666"
    provider := .flite
    ownership := .imported
    identity := .imported "77777777-7777-4777-8777-777777777777"
    files := [⟨.voice, "/voices/a.flitevox", 3,
      "ba7816bf8f01cfea414140de5dae2223b00361a396177a9cb410ff61f20015ad"⟩]
    validation := some ⟨"test", "11111111-1111-4111-8111-111111111111", "2026-09-17T00:00:00Z",
      "2204ed42e47b39a6cf8d4d8dcd6cb0ddaf0a376aadc051b1d7635e5e72cbe72c"⟩
    catalogue := none }]
  voices := [
    ⟨"cmu_us_slt", "flite", "SLT", none, false, none, none, none, none⟩,
    ⟨"flitevox:a", "flite", "A", none, true, some "44444444-4444-4444-8444-444444444444",
      some "66666666-6666-4666-8666-666666666666", none, none⟩]
  disabledPhysicalIds := [⟨"flite", "cmu_us_slt"⟩]

/-- The generation of the sample, whose JSON text has 490 bytes. -/
def sampleDocument : RuntimeDocument where
  schemaVersion := 1
  targetId := "11111111-1111-4111-8111-111111111111"
  profileId := "22222222-2222-4222-8222-222222222222"
  generationId := "33333333-3333-4333-8333-333333333333"
  disabledPhysicalIds := [⟨"flite", "cmu_us_slt"⟩]
  piper := none
  flite := some ⟨false, [⟨"flitevox:a", ⟨"/voices/a.flitevox", 3,
    "ba7816bf8f01cfea414140de5dae2223b00361a396177a9cb410ff61f20015ad"⟩, "A", none⟩]⟩
  mbrola := none
  rhvoice := none

def sampleLibrary : RuntimeLibrary .posix := ⟨sampleDocument, by decide +kernel⟩

/-- The digest of the package's one file. -/
def sampleHash (_ : List IndexedFile) : String :=
  "2204ed42e47b39a6cf8d4d8dcd6cb0ddaf0a376aadc051b1d7635e5e72cbe72c"

def sampleEngine : EngineDescriptor where
  id := "flite"
  availability := .available
  health := .healthy
  acss := ⟨true, false, false, false, false, false⟩
  textRepertoire := .unknown
  postSynthesisDimensions := []
  voices := [⟨⟨"flite", "cmu_us_slt"⟩, "SLT", none, none, .available⟩,
    ⟨⟨"flite", "flitevox:a"⟩, "A", none, none, .available⟩]
  defaultVoiceId := some "cmu_us_slt"
  espeakVariants := []

def sampleRequest (voice : String) : SynthesisRequest where
  text := "a".toList
  settings := ⟨voice, 1, 1, 1⟩
  normalizedAcss := ⟨none, none, none, none, none, none⟩
  requestedVoice := none
  logicalVoiceId := none
  anchors := []

def sampleParameters : VoiceParameters where
  native := ⟨"flite", "flite.v1", []⟩
  contextDimensions := []
  expectedIdentity := ⟨"flite.v1", "slt",
    "ba7816bf8f01cfea414140de5dae2223b00361a396177a9cb410ff61f20015ad", 1⟩
  unavailablePolicy := .commonOnly

end Omnivox.VoiceLibrary
