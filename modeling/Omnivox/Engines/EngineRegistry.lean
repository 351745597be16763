import Mathlib
import Omnivox.Engines.Contracts
import Omnivox.Foundations.Bounded
import Omnivox.Foundations.Fallible
import Omnivox.Foundations.Keyed

/-!
# The engine registry

An engine is registered under a descriptor that lists its own voices, each once, with a
default among them (`validateDescriptor_ok`). The registry keeps the descriptors by
identifier, so the inventory it hands out is valid (`EngineRegistry.inventory_valid`).

Local permissions are frozen before the first registration. An engine that they disable is
kept as unavailable and without a handle.
-/

set_option autoImplicit false

namespace Omnivox.Engines

open Foundations

/-- Registry mutations that leave the previous inventory untouched. -/
inductive EngineRegistryError where
  | policyAlreadyPublished
  | emptyEngineId
  | invalidVariantCatalogue (engineId : String)
  | duplicateEngine (engineId : String)
  | foreignVoice (engineId voiceEngineId : String)
  | duplicateVoice (engineId voiceId : String)
  | missingDefaultVoice (engineId voiceId : String)
  deriving Repr, DecidableEq

def EngineRegistryError.message : EngineRegistryError → String
  | .policyAlreadyPublished =>
      "local engine policy must be installed before engine registration"
  | .emptyEngineId => "engine descriptor has an empty ID"
  | .invalidVariantCatalogue engineId =>
      s!"engine {engineId} has an invalid eSpeak variant catalogue"
  | .duplicateEngine engineId => s!"engine {engineId} is already registered"
  | .foreignVoice engineId voiceEngineId =>
      s!"engine {engineId} describes a voice owned by {voiceEngineId}"
  | .duplicateVoice engineId voiceId =>
      s!"engine {engineId} repeats physical voice ID {voiceId}"
  | .missingDefaultVoice engineId voiceId =>
      s!"engine {engineId} names missing default voice {voiceId}"

/-- Whether a catalogue of variants has one to reject, after those seen so far. -/
def rejectsVariant (engineId : String) : List String → List EspeakVariantDescriptor → Bool
  | _, [] => false
  | variants, variant :: rest =>
      engineId != "espeak" || 512 < variant.displayName.utf8ByteSize ||
        !validEspeakCombination s!"espeak:en+{variant.id}" || variants.contains variant.id ||
        rejectsVariant engineId (variant.id :: variants) rest

/-- The identifiers of the listed voices, after those seen so far. -/
def checkVoices (engineId : String) :
    List String → List VoiceDescriptor → Except EngineRegistryError (List String)
  | voiceIds, [] => .ok voiceIds
  | voiceIds, voice :: rest => do
      ensure (voice.id.engineId == engineId) (.foreignVoice engineId voice.id.engineId)
      ensure (!voiceIds.contains voice.id.voiceId) (.duplicateVoice engineId voice.id.voiceId)
      checkVoices engineId (voice.id.voiceId :: voiceIds) rest

def checkDefault (engineId : String) (voiceIds : List String) :
    Option String → Except EngineRegistryError Unit
  | none => .ok ()
  | some defaultVoiceId =>
      ensure (voiceIds.contains defaultVoiceId) (.missingDefaultVoice engineId defaultVoiceId)

def validateDescriptor (descriptor : EngineDescriptor) : Except EngineRegistryError Unit := do
  ensure (!descriptor.id.isEmpty) .emptyEngineId
  ensure (descriptor.espeakVariants.length ≤ 512 &&
      !rejectsVariant descriptor.id [] descriptor.espeakVariants)
    (.invalidVariantCatalogue descriptor.id)
  let voiceIds ← checkVoices descriptor.id [] descriptor.voices
  checkDefault descriptor.id voiceIds descriptor.defaultVoiceId

/-- What a validated descriptor has. -/
structure ValidDescriptor (descriptor : EngineDescriptor) : Prop where
  nonempty : descriptor.id ≠ ""
  own : ∀ voice ∈ descriptor.voices, voice.id.engineId = descriptor.id
  distinct : (descriptor.voices.map fun voice => voice.id.voiceId).Nodup
  default_listed : ∀ voiceId, descriptor.defaultVoiceId = some voiceId →
    ∃ voice ∈ descriptor.voices, voice.id.voiceId = voiceId

theorem checkVoices_ok {engineId : String} {seen : List String} {voices : List VoiceDescriptor}
    {voiceIds : List String} (checked : checkVoices engineId seen voices = .ok voiceIds) :
    (∀ voice ∈ voices, voice.id.engineId = engineId) ∧
      (voices.map fun voice => voice.id.voiceId).Nodup ∧
      (∀ voice ∈ voices, voice.id.voiceId ∉ seen) ∧
      ∀ voiceId ∈ voiceIds, voiceId ∈ seen ∨ ∃ voice ∈ voices, voice.id.voiceId = voiceId := by
  induction voices generalizing seen with
  | nil =>
      cases checked
      simp
  | cons voice rest ih =>
      rw [checkVoices, bind_eq_ok] at checked
      obtain ⟨_, owned, checked⟩ := checked
      rw [bind_eq_ok] at checked
      obtain ⟨_, fresh, further⟩ := checked
      rw [ensure_eq_ok, beq_iff_eq] at owned
      rw [ensure_eq_ok, Bool.not_eq_true', List.contains_eq_mem, decide_eq_false_iff_not] at fresh
      obtain ⟨own, distinct, unseen, listed⟩ := ih further
      refine ⟨?_, ?_, ?_, ?_⟩
      · exact List.forall_mem_cons.mpr ⟨owned, own⟩
      · rw [List.map_cons, List.nodup_cons]
        refine ⟨?_, distinct⟩
        intro repeated
        obtain ⟨other, member, same⟩ := List.mem_map.mp repeated
        exact unseen other member (same ▸ List.mem_cons_self)
      · refine List.forall_mem_cons.mpr ⟨fresh, ?_⟩
        intro other member seenBefore
        exact unseen other member (List.mem_cons_of_mem _ seenBefore)
      · intro voiceId member
        rcases listed voiceId member with before | ⟨other, later, same⟩
        · rcases List.mem_cons.mp before with here | before
          · exact Or.inr ⟨voice, List.mem_cons_self, here.symm⟩
          · exact Or.inl before
        · exact Or.inr ⟨other, List.mem_cons_of_mem _ later, same⟩

/-- **A validated descriptor lists its own voices, each once, with a default among them.** -/
theorem validateDescriptor_ok {descriptor : EngineDescriptor}
    (validated : validateDescriptor descriptor = .ok ()) : ValidDescriptor descriptor := by
  rw [validateDescriptor, bind_eq_ok] at validated
  obtain ⟨_, named, validated⟩ := validated
  rw [bind_eq_ok] at validated
  obtain ⟨_, _, validated⟩ := validated
  rw [bind_eq_ok] at validated
  obtain ⟨voiceIds, voices, defaults⟩ := validated
  obtain ⟨own, distinct, _, listed⟩ := checkVoices_ok voices
  refine ⟨?_, own, distinct, ?_⟩
  · rintro empty
    rw [empty] at named
    cases named
  · intro voiceId default
    rw [default, checkDefault, ensure_eq_ok, List.contains_eq_mem, decide_eq_true_eq] at defaults
    exact (listed voiceId defaults).resolve_left List.not_mem_nil

/-- Distinct engines under valid descriptors. -/
structure ValidInventory (engines : List EngineDescriptor) : Prop where
  distinct : (engines.map EngineDescriptor.id).Nodup
  descriptor : ∀ engine ∈ engines, ValidDescriptor engine

theorem ValidInventory.of_validated {engines : List EngineDescriptor}
    (distinct : (engines.map EngineDescriptor.id).Nodup)
    (validated : ∀ engine ∈ engines, validateDescriptor engine = .ok ()) :
    ValidInventory engines where
  distinct := distinct
  descriptor engine member := validateDescriptor_ok (validated engine member)

/-- The engine of an identifier is the only one. -/
theorem ValidInventory.find?_eq_some {engines : List EngineDescriptor}
    (valid : ValidInventory engines) {engineId : String} {engine : EngineDescriptor} :
    engines.find? (fun other => other.id == engineId) = some engine ↔
      engine ∈ engines ∧ engine.id = engineId :=
  find?_key_eq_some valid.distinct

/-- The listed voice of an identifier is the only one. -/
theorem ValidDescriptor.listedVoice_eq_some {engine : EngineDescriptor}
    (valid : ValidDescriptor engine) {voiceId : String} {voice : VoiceDescriptor} :
    engine.listedVoice voiceId = some voice ↔ voice ∈ engine.voices ∧ voice.id.voiceId = voiceId :=
  find?_key_eq_some valid.distinct

/-- Validity is about the identifier, the voices and the default. -/
theorem ValidDescriptor.of_same {descriptor other : EngineDescriptor}
    (valid : ValidDescriptor descriptor) (id : other.id = descriptor.id)
    (voices : other.voices = descriptor.voices)
    (default : other.defaultVoiceId = descriptor.defaultVoiceId) : ValidDescriptor other where
  nonempty := id ▸ valid.nonempty
  own := by
    rw [id, voices]
    exact valid.own
  distinct := voices ▸ valid.distinct
  default_listed := by
    rw [voices, default]
    exact valid.default_listed

/-- A change of each engine that keeps its identifier and its validity. -/
theorem ValidInventory.map {engines : List EngineDescriptor}
    {change : EngineDescriptor → EngineDescriptor} (valid : ValidInventory engines)
    (same : ∀ engine, (change engine).id = engine.id)
    (kept : ∀ engine, ValidDescriptor engine → ValidDescriptor (change engine)) :
    ValidInventory (engines.map change) where
  distinct := by
    have identifiers : (engines.map change).map EngineDescriptor.id =
        engines.map EngineDescriptor.id := by
      rw [List.map_map]
      exact List.map_congr_left fun engine _ => same engine
    rw [identifiers]
    exact valid.distinct
  descriptor engine member := by
    obtain ⟨other, listed, rfl⟩ := List.mem_map.mp member
    exact kept other (valid.descriptor other listed)

/-! ## The registry -/

/-- Local engine preferences. -/
structure LocalRoutingPolicy where
  preferredEngineIds : Option (List String)
  fallbackEngineIds : Option (List String)
  disabledEngineIds : List String
  automaticEngineIds : List String
  deriving Repr, DecidableEq

/-- An engine under its descriptor. A startup failure has no handle. -/
structure RegisteredEngine (Engine : Type) where
  engine : Option Engine
  descriptor : EngineDescriptor

/-- A disabled engine has no handle and is not available. -/
def RegisteredEngine.Excluded {Engine : Type} (entry : RegisteredEngine Engine) : Prop :=
  entry.engine = none ∧ entry.descriptor.availability ≠ .available

/-- The engines of one session, in the order of their identifiers. -/
structure EngineRegistry (Engine : Type) where
  generation : Nat
  entries : List (RegisteredEngine Engine)
  selectionPermissions : EngineSelectionPermissions
  localRoutingPolicy : LocalRoutingPolicy
  configured : Bool
  distinct : (entries.map fun entry => entry.descriptor.id).Nodup
  valid : ∀ entry ∈ entries, ValidDescriptor entry.descriptor
  excluded : ∀ entry ∈ entries,
    selectionPermissions.disabled entry.descriptor.id = true → entry.Excluded
  floor : ∀ engineId ∈ localRoutingPolicy.disabledEngineIds,
    selectionPermissions.disabled engineId = true

namespace EngineRegistry

variable {Engine : Type}

def new : EngineRegistry Engine where
  generation := 0
  entries := []
  selectionPermissions := ⟨[], []⟩
  localRoutingPolicy := ⟨none, none, [], []⟩
  configured := false
  distinct := List.nodup_nil
  valid _ member := absurd member List.not_mem_nil
  excluded _ member := absurd member List.not_mem_nil
  floor _ member := absurd member List.not_mem_nil

theorem disabled_includeDisabled {permissions : EngineSelectionPermissions}
    {engines : List String} {engineId : String} (member : engineId ∈ engines) :
    (permissions.includeDisabled engines).disabled engineId = true := by
  rw [EngineSelectionPermissions.disabled, EngineSelectionPermissions.includeDisabled,
    List.contains_eq_mem, decide_eq_true_eq]
  exact List.mem_append_right _ member

/-- Freeze local permissions before the first registration. -/
def configureLocalSelection (registry : EngineRegistry Engine) (policy : LocalRoutingPolicy)
    (permissions : EngineSelectionPermissions) :
    Except EngineRegistryError (EngineRegistry Engine) :=
  if _ : registry.entries = [] ∧ registry.configured = false then
    .ok {
      generation := registry.generation
      entries := []
      selectionPermissions := permissions.includeDisabled policy.disabledEngineIds
      localRoutingPolicy := policy
      configured := false
      distinct := List.nodup_nil
      valid := fun _ member => absurd member List.not_mem_nil
      excluded := fun _ member => absurd member List.not_mem_nil
      floor := fun _ member => disabled_includeDisabled member }
  else .error .policyAlreadyPublished

/-- The entry as it is kept: a disabled engine loses its handle. -/
def withheld (permissions : EngineSelectionPermissions) (entry : RegisteredEngine Engine) :
    RegisteredEngine Engine :=
  if permissions.disabled entry.descriptor.id then
    { engine := none
      descriptor := { entry.descriptor with
        availability := .unavailable "disabled by local engine configuration" } }
  else entry

@[simp] theorem withheld_id (permissions : EngineSelectionPermissions)
    (entry : RegisteredEngine Engine) :
    (withheld permissions entry).descriptor.id = entry.descriptor.id := by
  rw [withheld]
  split
  all_goals rfl

theorem withheld_valid {permissions : EngineSelectionPermissions}
    {entry : RegisteredEngine Engine} (valid : ValidDescriptor entry.descriptor) :
    ValidDescriptor (withheld permissions entry).descriptor := by
  rw [withheld]
  split
  · exact valid.of_same rfl rfl rfl
  · exact valid

theorem withheld_excluded {permissions : EngineSelectionPermissions}
    {entry : RegisteredEngine Engine}
    (disabled : permissions.disabled (withheld permissions entry).descriptor.id = true) :
    (withheld permissions entry).Excluded := by
  rw [withheld_id] at disabled
  rw [withheld, if_pos disabled]
  exact ⟨rfl, by simp⟩

/-- The order of the entries. -/
def entryKey (entry : RegisteredEngine Engine) : String := entry.descriptor.id

/-- Add one engine after validating its complete descriptor. -/
def insert (registry : EngineRegistry Engine) (entry : RegisteredEngine Engine) :
    Except EngineRegistryError (EngineRegistry Engine) :=
  match checked : validateDescriptor entry.descriptor with
  | .error error => .error error
  | .ok _ =>
      let kept := withheld registry.selectionPermissions entry
      if present : kept.descriptor.id ∈ registry.entries.map fun entry => entry.descriptor.id then
        .error (.duplicateEngine kept.descriptor.id)
      else
        have members : ∀ other ∈ registry.entries.orderedInsert (keyLE entryKey) kept,
            other = kept ∨ other ∈ registry.entries := fun other member =>
          (List.mem_orderedInsert _).mp member
        .ok { registry with
          generation := saturatingAdd u64Max registry.generation 1
          entries := registry.entries.orderedInsert (keyLE entryKey) kept
          distinct := by
            have perm := (List.perm_orderedInsert (keyLE entryKey) kept registry.entries).map
              fun entry => entry.descriptor.id
            exact perm.nodup_iff.mpr (List.nodup_cons.mpr ⟨present, registry.distinct⟩)
          valid := by
            intro other member
            rcases members other member with rfl | member
            · exact withheld_valid (validateDescriptor_ok checked)
            · exact registry.valid other member
          excluded := by
            intro other member disabled
            rcases members other member with rfl | member
            · exact withheld_excluded disabled
            · exact registry.excluded other member disabled }

/-- A shared handle, or none for an unavailable startup entry. -/
def engine (registry : EngineRegistry Engine) (engineId : String) : Option Engine :=
  (registry.entries.find? fun entry => entry.descriptor.id == engineId).bind
    RegisteredEngine.engine

def inventory (registry : EngineRegistry Engine) : List EngineDescriptor :=
  registry.entries.map RegisteredEngine.descriptor

/-- **The inventory of a registry is valid.** -/
theorem inventory_valid (registry : EngineRegistry Engine) : ValidInventory registry.inventory where
  distinct := by
    rw [inventory, List.map_map]
    exact registry.distinct
  descriptor engine member := by
    obtain ⟨entry, listed, rfl⟩ := List.mem_map.mp member
    exact registry.valid entry listed

end EngineRegistry

end Omnivox.Engines
