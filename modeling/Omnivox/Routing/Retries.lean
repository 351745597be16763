import Mathlib
import Omnivox.Routing.Exclusion

/-!
# Retries

A recorded failure excludes its target: the engine for one that did not synthesize, the
voice for one that was not found. What is excluded stays excluded by every later failure
(`EngineExcluded.record`, `VoiceExcluded.record`), and no route leads to it
(`Routes.not_excluded`).
-/

set_option autoImplicit false

namespace Omnivox.Routing

open Engines Foundations
open Synthesis (TtsError)

/-- No engine of the identifier can synthesize. -/
def EngineExcluded (inventory : List EngineDescriptor) (engineId : String) : Prop :=
  ∀ engine ∈ inventory, engine.id = engineId → engine.canSynthesize = false

/-- An engine of the voice lists it as one that is not available. -/
def VoiceExcluded (inventory : List EngineDescriptor) (id : PhysicalVoiceId) : Prop :=
  ∀ engine ∈ inventory, engine.id = id.engineId →
    ∃ voice ∈ engine.voices, voice.id = id ∧ voice.availability ≠ .available

section

variable {inventory : List EngineDescriptor} {realized : PhysicalVoiceId} {error : TtsError}
  {engine : EngineDescriptor}

/-! ## What no route leads to -/

theorem canSynthesize_iff :
    engine.canSynthesize = true ↔
      engine.availability = .available ∧ ∀ reason, engine.health ≠ .failed reason := by
  rw [EngineDescriptor.canSynthesize, Bool.and_eq_true]
  cases engine.availability with
  | available => cases engine.health <;> simp [Availability.isAvailable, EngineHealth.canSynthesize]
  | unavailable reason => simp [Availability.isAvailable]

/-- A usable match is neither of an excluded engine nor an excluded voice. -/
theorem not_excluded_of_usable (valid : ValidInventory inventory)
    {permissions : EngineSelectionPermissions} {text : Option (List Char)}
    {selector : VoiceSelector} {voice : VoiceDescriptor}
    (usable : UsableMatch inventory permissions text selector realized engine voice) :
    ¬ EngineExcluded inventory realized.engineId ∧ ¬ VoiceExcluded inventory realized := by
  constructor
  · intro excluded
    have silent := excluded engine usable.member usable.own.symm
    rw [canSynthesize_iff.mpr ⟨usable.usable.available, usable.usable.not_failed⟩] at silent
    cases silent
  · intro excluded
    obtain ⟨listed, member, identified, unavailable⟩ :=
      excluded engine usable.member usable.own.symm
    -- the listed voice is the one that the engine offers
    have offered := (valid.descriptor engine usable.member).voice_of_mem member
    rw [identified, usable.offered] at offered
    exact unavailable (Option.some.inj offered ▸ usable.available)

/-- **No route leads to what is excluded.** -/
theorem Routes.not_excluded {Engine : Type} {snapshot : LogicalVoiceRoutingSnapshot}
    {engines : EngineRegistry Engine} {text : Option (List Char)} {route : LogicalRoute Engine}
    {definition : LogicalVoiceDefinition} {resolution : VoiceResolution}
    (routes : Routes snapshot engines text route definition resolution)
    (valid : ValidInventory snapshot.inventory) :
    ¬ EngineExcluded snapshot.inventory route.realized.engineId ∧
      ¬ VoiceExcluded snapshot.inventory route.realized := by
  obtain ⟨candidate, _, engine, voice, usable⟩ := resolved_usable valid routes.resolved
  rw [routes.realized] at usable
  exact not_excluded_of_usable valid usable

/-! ## What a failure excludes -/

/-- A failure makes no engine synthesize. -/
theorem recordOnEngine_silent (silent : engine.canSynthesize = false) :
    (recordOnEngine realized error engine).1.canSynthesize = false := by
  cases error with
  | voiceNotFound reason => exact silent
  | synthesisFailed reason =>
      simp [recordOnEngine, EngineDescriptor.canSynthesize, EngineHealth.canSynthesize]
  | notAvailable =>
      simp [recordOnEngine, EngineDescriptor.canSynthesize, Availability.isAvailable]
  | invalidParameter reason => exact silent

/-- A voice that is not available stays listed as one. -/
theorem recordOnEngine_unavailable {id : PhysicalVoiceId}
    (unavailable : ∃ voice ∈ engine.voices, voice.id = id ∧ voice.availability ≠ .available) :
    ∃ voice ∈ (recordOnEngine realized error engine).1.voices,
      voice.id = id ∧ voice.availability ≠ .available := by
  obtain ⟨voice, member, identified, withheld⟩ := unavailable
  cases error with
  | voiceNotFound reason =>
      have listed : voice ∈ listRealized engine realized := subset_listRealized member
      rcases updateFirst_of_mem listed with kept | ⟨_, marked⟩
      · exact ⟨voice, kept, identified, withheld⟩
      · exact ⟨_, marked, identified, by simp [markUnavailable]⟩
  | synthesisFailed reason => exact ⟨voice, member, identified, withheld⟩
  | notAvailable => exact ⟨voice, member, identified, withheld⟩
  | invalidParameter reason => exact ⟨voice, member, identified, withheld⟩

theorem EngineExcluded.record {engineId : String} (excluded : EngineExcluded inventory engineId) :
    EngineExcluded (recordRuntimeFailure inventory realized error).1 engineId := by
  intro engine member own
  rcases mem_recordRuntimeFailure member with before | ⟨failed, listed, _, rfl⟩
  · exact excluded engine before own
  · rw [recordOnEngine_id] at own
    exact recordOnEngine_silent (excluded failed listed own)

theorem VoiceExcluded.record {id : PhysicalVoiceId} (excluded : VoiceExcluded inventory id) :
    VoiceExcluded (recordRuntimeFailure inventory realized error).1 id := by
  intro engine member own
  rcases mem_recordRuntimeFailure member with before | ⟨failed, listed, _, rfl⟩
  · exact excluded engine before own
  · rw [recordOnEngine_id] at own
    exact recordOnEngine_unavailable (excluded failed listed own)

/-- What a failure excludes by itself. -/
def FailureExcludes (inventory : List EngineDescriptor) (realized : PhysicalVoiceId) :
    TtsError → Prop
  | .voiceNotFound _ => VoiceExcluded inventory realized
  | .synthesisFailed _ | .notAvailable => EngineExcluded inventory realized.engineId
  | .invalidParameter _ => False

/-- **A recorded failure excludes its target.** -/
theorem record_excludes (valid : ValidInventory inventory)
    (recorded : (recordRuntimeFailure inventory realized error).2 = true) :
    FailureExcludes (recordRuntimeFailure inventory realized error).1 realized error := by
  have became : ∀ engine ∈ (recordRuntimeFailure inventory realized error).1,
      engine.id = realized.engineId →
      ∃ failed ∈ inventory, engine = (recordOnEngine realized error failed).1 := by
    intro engine member own
    obtain ⟨failed, listed, _, same⟩ := mem_updateFirst_key valid.distinct member own
    exact ⟨failed, listed, same⟩
  obtain ⟨first, listed, fitting, taken, _⟩ := updateFirst_done recorded
  cases error with
  | voiceNotFound reason =>
      intro engine member own
      obtain ⟨failed, there, rfl⟩ := became engine member own
      -- the engine is the only one of the identifier, so its voice was the one marked
      rw [recordOnEngine_id] at own
      obtain rfl : failed = first := List.inj_on_of_nodup_map valid.distinct there listed
        (own.trans (eq_of_beq fitting).symm)
      obtain ⟨voice, _, identified, _, marked⟩ := updateFirst_done taken
      exact ⟨_, marked, eq_of_beq identified, by simp [markUnavailable]⟩
  | synthesisFailed reason =>
      intro engine member own
      obtain ⟨failed, _, rfl⟩ := became engine member own
      simp [recordOnEngine, EngineDescriptor.canSynthesize, EngineHealth.canSynthesize]
  | notAvailable =>
      intro engine member own
      obtain ⟨failed, _, rfl⟩ := became engine member own
      simp [recordOnEngine, EngineDescriptor.canSynthesize, Availability.isAvailable]
  | invalidParameter reason => cases taken

end

end Omnivox.Routing
