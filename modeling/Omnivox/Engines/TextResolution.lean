import Mathlib
import Omnivox.Engines.Resolution

/-!
# Resolution with and without a text

Resolution with a text passes over the engines that cannot speak it; without one it realizes
the engine that is first in line (`FirstInLine`, `realizes_firstInLine`).

**Agreement.** If the engine that is first in line supports the text, both realize the same
voice (`realizes_of_supports`), and where nothing is realized without a text, nothing is with
one (`realizes_none_of_none`).
-/

set_option autoImplicit false

namespace Omnivox.Engines

open Foundations

/-- The voice that resolution realizes. -/
def realizes (engines : List EngineDescriptor) (definition : LogicalVoiceDefinition)
    (policy : FallbackPolicy) (text : Option (List Char))
    (permissions : EngineSelectionPermissions) : Option PhysicalVoiceId :=
  (resolveVoiceWithPermissions engines definition policy text permissions).toOption.map
    VoiceResolution.realized

/-- The engine of an identifier supports every character of a text. -/
def Supports (engines : List EngineDescriptor) (engineId : String) (text : List Char) : Prop :=
  ∃ engine ∈ engines, engine.id = engineId ∧
    ∀ character ∈ text, engine.textRepertoire.supportsCharacter character = true

/-- An engine with a match for a selector, whatever the text. -/
def Matches (engines : List EngineDescriptor) (permissions : EngineSelectionPermissions)
    (selector : VoiceSelector) (engine : EngineDescriptor) : Prop :=
  ∃ realized voice, UsableMatch engines permissions none selector realized engine voice

/-- The matching engine that a selector comes to first. -/
def FirstMatch (engines : List EngineDescriptor) (permissions : EngineSelectionPermissions)
    (preferredEngines : List String) (selector : VoiceSelector) (engine : EngineDescriptor) :
    Prop :=
  Matches engines permissions selector engine ∧ ∀ other, Matches engines permissions selector other →
    engineKey preferredEngines engine ≤ engineKey preferredEngines other

/-- The engine that is first in line for a definition, whatever the text: the first match of
the first selector that has one. -/
def FirstInLine (engines : List EngineDescriptor) (permissions : EngineSelectionPermissions)
    (policy : FallbackPolicy) (definition : LogicalVoiceDefinition) (engine : EngineDescriptor) :
    Prop :=
  ∃ before candidate after, stages definition policy = before ++ candidate :: after ∧
    (∀ earlier ∈ before, Unusable engines permissions none earlier.selector) ∧
    FirstMatch engines permissions policy.preferredEngines candidate.selector engine

section

variable {engines : List EngineDescriptor} {permissions : EngineSelectionPermissions}
  {preferredEngines : List String} {selector : VoiceSelector} {realized : PhysicalVoiceId}
  {text : List Char}

/-! ## Without a text -/

/-- The key of an engine is about its identifier. -/
theorem engineKey_congr {engine other : EngineDescriptor} (same : engine.id = other.id) :
    engineKey preferredEngines engine = engineKey preferredEngines other := by
  simp only [engineKey, enginePriority, same]

/-- The engine that a selector names, if it names one, is that of every match. -/
theorem UsableMatch.named {engine : EngineDescriptor} {voice : VoiceDescriptor}
    {engineId : String} {text : Option (List Char)} (named : selector.engineId = some engineId)
    (usable : UsableMatch engines permissions text selector realized engine voice) :
    engine.id = engineId := by
  have admitted := usable.admitted
  rcases selector with id | named_id | ⟨_ | named_id, language, gender⟩
  · exact admitted.1.trans (Option.some.inj named)
  · exact admitted.1.trans (Option.some.inj named)
  · cases named
  · exact admitted.1.trans (Option.some.inj named)

/-- Without a text, the first candidate that offers a voice answers. -/
theorem tryCandidates_first {language : Option String} {gender : Option VoiceGender}
    {candidates : List EngineDescriptor}
    (resolved : tryCandidates language gender none none candidates = .ok realized) :
    ∃ before engine after, candidates = before ++ engine :: after ∧
      (∀ earlier ∈ before, matchingVoices earlier language gender = []) ∧
      chooseVoice engine language gender = .ok realized := by
  induction candidates with
  | nil => cases resolved
  | cons engine rest ih =>
      rw [tryCandidates] at resolved
      cases chosen : chooseVoice engine language gender with
      | error failure =>
          rw [chosen] at resolved
          obtain ⟨before, found, after, split, silent, answers⟩ := ih resolved
          refine ⟨engine :: before, found, after, ?_, ?_, answers⟩
          · rw [split, List.cons_append]
          · exact List.forall_mem_cons.mpr ⟨chooseVoice_error chosen, silent⟩
      | ok id =>
          rw [chosen] at resolved
          obtain rfl := Except.ok.inj resolved
          refine ⟨[], engine, rest, rfl, ?_, chosen⟩
          intro earlier member
          exact absurd member List.not_mem_nil

/-- A search across engines comes to the matching engine of the least key first. -/
theorem chooseAcrossEngines_first (valid : ValidInventory engines) {language : Option String}
    {gender : Option VoiceGender}
    (resolved : chooseAcrossEngines engines language gender preferredEngines none permissions =
      .ok realized) {other : EngineDescriptor}
    (matched : Matches engines permissions (.properties none language gender) other) :
    ∃ engine ∈ engines, engine.id = realized.engineId ∧
      engineKey preferredEngines engine ≤ engineKey preferredEngines other := by
  obtain ⟨before, engine, after, split, silent, chosen⟩ := tryCandidates_first resolved
  have sorted : (before ++ engine :: after).Pairwise (keyLE (engineKey preferredEngines)) :=
    split ▸ sortBy_pairwise
  have listed : engine ∈ before ++ engine :: after := by simp
  rw [← split] at listed
  have member := (mem_candidates.mp (mem_sortBy.mp listed)).1
  have own : engine.id = realized.engineId := by
    obtain ⟨voice, matching, identified⟩ := chooseVoice_ok chosen
    rw [← (valid.descriptor _ member).own _ (mem_matchingVoices.mp matching).1, identified]
  refine ⟨engine, member, own, ?_⟩
  obtain ⟨_, voice, usable⟩ := matched
  have candidate : other ∈ before ++ engine :: after := by
    rw [← split]
    exact mem_sortBy.mpr (mem_candidates.mpr ⟨usable.member, usable.usable.available,
      usable.usable.not_failed, usable.admitted.1⟩)
  rcases List.mem_append.mp candidate with earlier | here
  · -- the candidates before the answer have no matching voice
    have matching := mem_matchingVoices.mpr ⟨usable.admitted.2.1, usable.available,
      usable.admitted.2.2⟩
    rw [silent other earlier] at matching
    exact absurd matching List.not_mem_nil
  · rcases List.mem_cons.mp here with rfl | later
    · exact le_rfl
    · exact (List.pairwise_cons.mp (List.pairwise_append.mp sorted).2.1).1 other later

/-- **A selector is evaluated to a voice of the matching engine that it comes to first.** -/
theorem evaluateSelector_firstMatch (valid : ValidInventory engines)
    (resolved : evaluateSelector engines preferredEngines none permissions selector =
      .ok realized) :
    ∃ engine ∈ engines, engine.id = realized.engineId ∧
      FirstMatch engines permissions preferredEngines selector engine := by
  obtain ⟨engine, voice, usable⟩ := evaluateSelector_ok valid resolved
  refine ⟨engine, usable.member, usable.own.symm, ⟨realized, voice, usable⟩, ?_⟩
  intro other matched
  cases named : selector.engineId with
  | some engineId =>
      obtain ⟨_, _, other_usable⟩ := matched
      have same : engine.id = other.id :=
        (usable.named named).trans (other_usable.named named).symm
      exact le_of_eq (engineKey_congr same)
  | none =>
      rcases selector with id | engineId | ⟨_ | engineId, language, gender⟩
      · cases named
      · cases named
      · obtain ⟨first, _, own, least⟩ := chooseAcrossEngines_first valid resolved matched
        rw [engineKey_congr (usable.own.symm.trans own.symm)]
        exact least
      · cases named

/-! ## With a text -/

/-- What is usable for a text is usable. -/
theorem UsableMatch.forget {engine : EngineDescriptor} {voice : VoiceDescriptor}
    {text : Option (List Char)}
    (usable : UsableMatch engines permissions text selector realized engine voice) :
    UsableMatch engines permissions none selector realized engine voice where
  member := usable.member
  usable :=
    { enabled := usable.usable.enabled
      available := usable.usable.available
      not_failed := usable.usable.not_failed
      supports := fun _ none => by cases none }
  own := usable.own
  offered := usable.offered
  identified := usable.identified
  available := usable.available
  admitted := usable.admitted

/-- A selector without a voice has no usable match. -/
theorem unusable_of_silent (valid : ValidInventory engines) {text : Option (List Char)}
    (silent : (evaluateSelector engines preferredEngines text permissions selector).toOption =
      none) : Unusable engines permissions text selector := by
  rintro ⟨_, engine, voice, usable⟩
  have answers : ∃ id, evaluateSelector engines preferredEngines text permissions selector =
      .ok id := evaluateSelector_complete valid usable
  obtain ⟨id, found⟩ := answers
  rw [found] at silent
  cases silent

/-- A selector without a voice has none for a text. -/
theorem silent_with_text (valid : ValidInventory engines)
    (silent : (evaluateSelector engines preferredEngines none permissions selector).toOption =
      none) :
    (evaluateSelector engines preferredEngines (some text) permissions selector).toOption =
      none := by
  cases found : evaluateSelector engines preferredEngines (some text) permissions selector with
  | error failure => rfl
  | ok id =>
      obtain ⟨engine, voice, usable⟩ := evaluateSelector_ok valid found
      exact absurd ⟨id, engine, voice, usable.forget⟩ (unusable_of_silent valid silent)

/-- The engine of an identifier is the only one, so its repertoire decides. -/
theorem Supports.of_mem (valid : ValidInventory engines) {engine : EngineDescriptor}
    (supports : Supports engines engine.id text) (member : engine ∈ engines) :
    ∀ characters, some text = some characters →
      engine.textRepertoire.supportsText characters = true := by
  obtain ⟨other, listed, same, characters⟩ := supports
  obtain rfl : other = engine := List.inj_on_of_nodup_map valid.distinct listed member same
  intro given same_text
  obtain rfl := Option.some.inj same_text
  exact TextRepertoire.supportsText_iff.mpr characters

theorem ensureTextSupported_of_supports (valid : ValidInventory engines)
    {engine : EngineDescriptor} (supports : Supports engines engine.id text)
    (member : engine ∈ engines) : ensureTextSupported engine (some text) = .ok () :=
  ensureTextSupported_eq_ok.mpr (supports.of_mem valid member)

/-- A search that answers without a text gives the same answer with one that it supports. -/
theorem tryCandidates_of_supports (valid : ValidInventory engines) {language : Option String}
    {gender : Option VoiceGender} {candidates : List EngineDescriptor}
    (listed : ∀ engine ∈ candidates, engine ∈ engines)
    (resolved : tryCandidates language gender none none candidates = .ok realized)
    (supports : Supports engines realized.engineId text) :
    tryCandidates language gender (some text) none candidates = .ok realized := by
  induction candidates with
  | nil => cases resolved
  | cons engine rest ih =>
      obtain ⟨member, others⟩ := List.forall_mem_cons.mp listed
      rw [tryCandidates] at resolved ⊢
      cases chosen : chooseVoice engine language gender with
      | error failure =>
          rw [chosen] at resolved
          exact ih others resolved
      | ok id =>
          rw [chosen] at resolved
          obtain rfl := Except.ok.inj resolved
          have own : id.engineId = engine.id := by
            obtain ⟨voice, matching, rfl⟩ := chooseVoice_ok chosen
            exact (valid.descriptor _ member).own _ (mem_matchingVoices.mp matching).1
          have speaks := textFailure_eq_none.mpr ((own ▸ supports).of_mem valid member)
          dsimp only
          rw [speaks]

/-- **A text that the answering engine supports changes nothing.** -/
theorem evaluateSelector_of_supports (valid : ValidInventory engines)
    (resolved : evaluateSelector engines preferredEngines none permissions selector =
      .ok realized) (supports : Supports engines realized.engineId text) :
    evaluateSelector engines preferredEngines (some text) permissions selector = .ok realized := by
  have on_engine : ∀ engineId language gender,
      evaluateOnEngine engines engineId language gender none permissions = .ok realized →
      evaluateOnEngine engines engineId language gender (some text) permissions =
        .ok realized := by
    intro engineId language gender answered
    rw [evaluateOnEngine, bind_eq_ok] at answered ⊢
    obtain ⟨engine, found, answered⟩ := answered
    refine ⟨engine, found, ?_⟩
    rw [bind_eq_ok] at answered ⊢
    obtain ⟨id, chosen, answered⟩ := answered
    refine ⟨id, chosen, ?_⟩
    obtain ⟨_, _, result⟩ := bind_eq_ok.mp answered
    obtain rfl := Except.ok.inj result
    have member := ((findUsableEngine_ok valid).mp found).1
    have own : id.engineId = engine.id := by
      obtain ⟨voice, matching, rfl⟩ := chooseVoice_ok chosen
      exact (valid.descriptor _ member).own _ (mem_matchingVoices.mp matching).1
    exact bind_eq_ok.mpr ⟨(), ensureTextSupported_of_supports valid (own ▸ supports) member, rfl⟩
  rcases selector with id | engineId | ⟨_ | engineId, language, gender⟩
  · rw [evaluateSelector, evaluateExact, bind_eq_ok] at resolved ⊢
    obtain ⟨engine, found, resolved⟩ := resolved
    refine ⟨engine, found, ?_⟩
    rw [bind_eq_ok] at resolved ⊢
    obtain ⟨voice, offered, resolved⟩ := resolved
    refine ⟨voice, offered, ?_⟩
    have member := ((findUsableEngine_ok valid).mp found).1
    have identified := (valid.descriptor _ member).voice_id (orError_eq_ok.mp offered)
    cases availability : voice.availability with
    | unavailable reason =>
        rw [availability] at resolved
        cases resolved
    | available =>
        rw [availability] at resolved
        obtain ⟨_, _, result⟩ := bind_eq_ok.mp resolved
        obtain rfl := Except.ok.inj result
        have own : voice.id.engineId = engine.id := by rw [identified]
        exact bind_eq_ok.mpr
          ⟨(), ensureTextSupported_of_supports valid (own ▸ supports) member, rfl⟩
  · exact on_engine engineId none none resolved
  · refine tryCandidates_of_supports valid ?_ resolved supports
    intro engine candidate
    exact (mem_candidates.mp (mem_sortBy.mp candidate)).1
  · exact on_engine engineId language gender resolved

end

/-! ## The voice that is realized -/

section Realized

variable {engines : List EngineDescriptor} {definition : LogicalVoiceDefinition}
  {policy : FallbackPolicy} {permissions : EngineSelectionPermissions} {realized : PhysicalVoiceId}
  {text : List Char}

/-- What is realized is the first selector's voice that there is. -/
theorem realizes_eq_findSome? (text : Option (List Char)) :
    realizes engines definition policy text permissions =
      (stages definition policy).findSome? fun candidate =>
        (evaluateSelector engines policy.preferredEngines text permissions
          candidate.selector).toOption := by
  have first := resolve_firstRealized engines definition policy text permissions
  rw [realizes]
  cases outcome : resolveVoiceWithPermissions engines definition policy text permissions with
  | ok resolution =>
      rw [outcome] at first
      obtain ⟨before, candidate, after, split, failures, answered, _⟩ := first
      refine (List.findSome?_eq_some_iff.mpr ⟨before, candidate, after, split, ?_, ?_⟩).symm
      · rw [answered]
        rfl
      · intro earlier member
        obtain ⟨failure, failed⟩ := evaluate_error_of_failed failures earlier member
        rw [failed]
        rfl
  | error error =>
      rw [outcome] at first
      refine (List.findSome?_eq_none_iff.mpr ?_).symm
      intro candidate member
      obtain ⟨failure, failed⟩ := evaluate_error_of_failed first.2 candidate member
      rw [failed]
      rfl

/-- What is realized for a text is on an engine that supports it. -/
theorem realizes_supports (valid : ValidInventory engines)
    (resolved : realizes engines definition policy (some text) permissions = some realized) :
    Supports engines realized.engineId text := by
  rw [realizes_eq_findSome?] at resolved
  obtain ⟨candidate, _, answered⟩ := List.exists_of_findSome?_eq_some resolved
  obtain ⟨engine, voice, usable⟩ := evaluateSelector_ok valid (toOption_eq_some.mp answered)
  exact ⟨engine, usable.member, usable.own.symm,
    TextRepertoire.supportsText_iff.mp (usable.usable.supports text rfl)⟩

/-- **What is realized without a text is on the engine that is first in line.** -/
theorem realizes_firstInLine (valid : ValidInventory engines)
    (resolved : realizes engines definition policy none permissions = some realized) :
    ∃ engine ∈ engines, engine.id = realized.engineId ∧
      FirstInLine engines permissions policy definition engine := by
  rw [realizes_eq_findSome?] at resolved
  obtain ⟨before, candidate, after, split, answered, passed⟩ :=
    List.findSome?_eq_some_iff.mp resolved
  obtain ⟨engine, member, own, first⟩ :=
    evaluateSelector_firstMatch valid (toOption_eq_some.mp answered)
  refine ⟨engine, member, own, before, candidate, after, split, ?_, first⟩
  intro earlier listed
  exact unusable_of_silent valid (passed earlier listed)

/-- **With a text that the engine supports, the same voice is realized.** -/
theorem realizes_of_supports (valid : ValidInventory engines)
    (resolved : realizes engines definition policy none permissions = some realized)
    (supports : Supports engines realized.engineId text) :
    realizes engines definition policy (some text) permissions = some realized := by
  rw [realizes_eq_findSome?] at resolved ⊢
  obtain ⟨before, candidate, after, split, answered, passed⟩ :=
    List.findSome?_eq_some_iff.mp resolved
  refine List.findSome?_eq_some_iff.mpr ⟨before, candidate, after, split, ?_, ?_⟩
  · exact toOption_eq_some.mpr
      (evaluateSelector_of_supports valid (toOption_eq_some.mp answered) supports)
  · intro earlier listed
    exact silent_with_text valid (passed earlier listed)

/-- **Where nothing is realized without a text, nothing is with one.** -/
theorem realizes_none_of_none (valid : ValidInventory engines)
    (unresolved : realizes engines definition policy none permissions = none) :
    realizes engines definition policy (some text) permissions = none := by
  rw [realizes_eq_findSome?, List.findSome?_eq_none_iff] at unresolved ⊢
  intro candidate member
  exact silent_with_text valid (unresolved candidate member)

end Realized

end Omnivox.Engines
