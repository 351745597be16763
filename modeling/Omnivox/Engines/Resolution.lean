import Mathlib
import Omnivox.Engines.EngineRegistry
import Omnivox.Engines.Resolver

/-!
# The first usable candidate

The purpose of resolution: go through the stages in order and realize the first one whose
selector has a usable match. A usable match is a property of the inventory as a set of
engines and voices (`UsableMatch`); the stages are a list (`stages`).

Over a valid inventory a selector is evaluated to a usable match, and to a failure only if
there is none (`evaluateSelector_ok`, `evaluateSelector_error`). The order of engines and
voices does not matter, since the keys that the search sorts by are distinct
(`resolve_reordered`).
-/

set_option autoImplicit false

namespace Omnivox.Engines

open Foundations

/-! ## Usable matches -/

/-- An engine that may speak the text at all. -/
structure UsableEngine (permissions : EngineSelectionPermissions) (text : Option (List Char))
    (engine : EngineDescriptor) : Prop where
  enabled : permissions.disabled engine.id = false
  available : engine.availability = .available
  not_failed : ∀ reason, engine.health ≠ .failed reason
  supports : ∀ characters, text = some characters →
    engine.textRepertoire.supportsText characters = true

/-- What a selector asks of an engine and a voice of it. A selector without an engine asks
for one that may be chosen automatically. -/
def VoiceSelector.Admits (permissions : EngineSelectionPermissions) (engine : EngineDescriptor)
    (voice : VoiceDescriptor) : VoiceSelector → Prop
  | .exact id => engine.id = id.engineId ∧ engine.voice id.voiceId = some voice
  | .engineDefault engineId => engine.id = engineId ∧ voice ∈ engine.voices
  | .properties (some engineId) language gender =>
      engine.id = engineId ∧ voice ∈ engine.voices ∧ languageMatches voice language = true ∧
        (gender = none ∨ voice.gender = gender)
  | .properties none language gender =>
      permissions.permitsAutomatic engine.id = true ∧ voice ∈ engine.voices ∧
        languageMatches voice language = true ∧ (gender = none ∨ voice.gender = gender)

/-- A voice of the inventory that a selector may be realized by. -/
structure UsableMatch (engines : List EngineDescriptor) (permissions : EngineSelectionPermissions)
    (text : Option (List Char)) (selector : VoiceSelector) (realized : PhysicalVoiceId)
    (engine : EngineDescriptor) (voice : VoiceDescriptor) : Prop where
  member : engine ∈ engines
  usable : UsableEngine permissions text engine
  own : realized.engineId = engine.id
  offered : engine.voice realized.voiceId = some voice
  identified : voice.id = realized
  available : voice.availability = .available
  admitted : selector.Admits permissions engine voice

/-! ## Voices of an engine -/

theorem ValidDescriptor.voice_of_mem {engine : EngineDescriptor} (valid : ValidDescriptor engine)
    {voice : VoiceDescriptor} (member : voice ∈ engine.voices) :
    engine.voice voice.id.voiceId = some voice := by
  rw [EngineDescriptor.voice, valid.listedVoice_eq_some.mpr ⟨member, rfl⟩]

/-- An engine that lists its own voices offers its own, under the identifier it was asked for
by. -/
theorem EngineDescriptor.voice_id_of_own {engine : EngineDescriptor}
    (own : ∀ voice ∈ engine.voices, voice.id.engineId = engine.id) {voiceId : String}
    {voice : VoiceDescriptor} (offered : engine.voice voiceId = some voice) :
    voice.id = ⟨engine.id, voiceId⟩ := by
  rw [EngineDescriptor.voice] at offered
  split at offered
  · rename_i listed found
    obtain rfl := Option.some.inj offered
    have same := List.find?_some found
    rw [← eq_of_beq same, ← own listed (List.mem_of_find?_eq_some found)]
  · split at offered
    · cases offered
    · -- a bundled variant keeps the engine of its base
      simp only [Option.bind_eq_bind, Option.bind_eq_some_iff] at offered
      obtain ⟨⟨base, suffix⟩, -, variant, -, listed, found, made⟩ := offered
      have named := own listed (List.mem_of_find?_eq_some found)
      obtain rfl := Option.some.inj made
      rw [named]

/-- An offered voice belongs to the engine and has the identifier it was asked for by. -/
theorem ValidDescriptor.voice_id {engine : EngineDescriptor} (valid : ValidDescriptor engine)
    {voiceId : String} {voice : VoiceDescriptor} (offered : engine.voice voiceId = some voice) :
    voice.id = ⟨engine.id, voiceId⟩ :=
  EngineDescriptor.voice_id_of_own valid.own offered

theorem mem_matchingVoices {engine : EngineDescriptor} {language : Option String}
    {gender : Option VoiceGender} {voice : VoiceDescriptor} :
    voice ∈ matchingVoices engine language gender ↔
      voice ∈ engine.voices ∧ voice.availability = .available ∧
        languageMatches voice language = true ∧ (gender = none ∨ voice.gender = gender) := by
  have available : voice.availability.isAvailable = true ↔ voice.availability = .available := by
    cases voice.availability with
    | available => exact iff_of_true rfl rfl
    | unavailable reason => exact iff_of_false Bool.false_ne_true (by simp)
  rw [matchingVoices, List.mem_filter]
  simp only [Bool.and_eq_true, Bool.or_eq_true, beq_iff_eq, available, and_assoc]

/-- The chosen voice is one of the matching ones. -/
theorem chooseVoice_ok {engine : EngineDescriptor} {language : Option String}
    {gender : Option VoiceGender} {id : PhysicalVoiceId}
    (chosen : chooseVoice engine language gender = .ok id) :
    ∃ voice ∈ matchingVoices engine language gender, voice.id = id := by
  rw [chooseVoice, orError_eq_ok, Option.map_eq_some_iff] at chosen
  obtain ⟨voice, first, same⟩ := chosen
  exact ⟨voice, mem_sortBy.mp (List.mem_of_mem_head? first), same⟩

/-- Without a choice there is no matching voice. -/
theorem chooseVoice_error {engine : EngineDescriptor} {language : Option String}
    {gender : Option VoiceGender} {failure : ResolutionFailure}
    (failed : chooseVoice engine language gender = .error failure) :
    matchingVoices engine language gender = [] := by
  rw [chooseVoice] at failed
  cases sorted : sortBy (voiceKey engine) (matchingVoices engine language gender) with
  | nil =>
      refine List.eq_nil_iff_forall_not_mem.mpr fun voice member => ?_
      have listed : voice ∈ sortBy (voiceKey engine) (matchingVoices engine language gender) :=
        mem_sortBy.mpr member
      rw [sorted] at listed
      exact List.not_mem_nil listed
  | cons voice rest =>
      rw [sorted] at failed
      cases failed

/-! ## Texts -/

theorem textFailure_eq_none {engine : EngineDescriptor} {text : Option (List Char)} :
    text.bind (textFailure engine) = none ↔
      ∀ characters, text = some characters →
        engine.textRepertoire.supportsText characters = true := by
  cases text with
  | none => simp
  | some characters =>
      rw [Option.bind_some, textFailure, Option.map_eq_none_iff]
      simp [TextRepertoire.supportsText]

theorem ensureTextSupported_eq_ok {engine : EngineDescriptor} {text : Option (List Char)} :
    ensureTextSupported engine text = .ok () ↔
      ∀ characters, text = some characters →
        engine.textRepertoire.supportsText characters = true := by
  rw [← textFailure_eq_none, ensureTextSupported]
  cases text.bind (textFailure engine) with
  | none => exact iff_of_true rfl rfl
  | some failure => exact iff_of_false (by simp) (by simp)

/-! ## Selectors -/

section Selectors

variable {engines : List EngineDescriptor} {permissions : EngineSelectionPermissions}
  {text : Option (List Char)}

theorem findUsableEngine_ok (valid : ValidInventory engines) {engineId : String}
    {engine : EngineDescriptor} :
    findUsableEngine engines engineId permissions = .ok engine ↔
      engine ∈ engines ∧ engine.id = engineId ∧ permissions.disabled engineId = false ∧
        engine.availability = .available ∧ ∀ reason, engine.health ≠ .failed reason := by
  rw [findUsableEngine, bind_eq_ok]
  constructor
  · rintro ⟨_, enabled, found⟩
    rw [bind_eq_ok] at found
    obtain ⟨other, found, checked⟩ := found
    rw [orError_eq_ok, valid.find?_eq_some] at found
    rw [ensure_eq_ok, Bool.not_eq_true'] at enabled
    split at checked
    · cases checked
    · cases checked
    · rename_i available notFailed
      obtain rfl := Except.ok.inj checked
      exact ⟨found.1, found.2, enabled, available, notFailed⟩
  · rintro ⟨member, named, enabled, available, notFailed⟩
    refine ⟨(), ensure_eq_ok.mpr (by rw [enabled]; rfl), ?_⟩
    rw [bind_eq_ok]
    refine ⟨engine, orError_eq_ok.mpr (valid.find?_eq_some.mpr ⟨member, named⟩), ?_⟩
    rw [available]
    rcases health : engine.health with _ | reason | reason
    · rfl
    · rfl
    · exact absurd health (notFailed reason)

/-- An engine that a selector names is usable, or its voice is found in it. -/
theorem UsableEngine.of_found {engine : EngineDescriptor} {engineId : String}
    (valid : ValidInventory engines)
    (found : findUsableEngine engines engineId permissions = .ok engine)
    (supports : ∀ characters, text = some characters →
      engine.textRepertoire.supportsText characters = true) :
    UsableEngine permissions text engine := by
  obtain ⟨-, named, enabled, available, notFailed⟩ := (findUsableEngine_ok valid).mp found
  exact ⟨named ▸ enabled, available, notFailed, supports⟩

/-- A matching voice of a usable engine is a usable match, if the selector admits it. -/
theorem UsableMatch.of_listed {engine : EngineDescriptor} {voice : VoiceDescriptor}
    {selector : VoiceSelector} (valid : ValidInventory engines) (member : engine ∈ engines)
    (usable : UsableEngine permissions text engine) (listed : voice ∈ engine.voices)
    (available : voice.availability = .available)
    (admitted : selector.Admits permissions engine voice) :
    UsableMatch engines permissions text selector voice.id engine voice where
  member := member
  usable := usable
  own := (valid.descriptor _ member).own voice listed
  offered := (valid.descriptor _ member).voice_of_mem listed
  identified := rfl
  available := available
  admitted := admitted

/-! ### Exact voices -/

theorem evaluateExact_ok (valid : ValidInventory engines) {id realized : PhysicalVoiceId}
    (resolved : evaluateExact engines id text permissions = .ok realized) :
    ∃ engine voice, UsableMatch engines permissions text (.exact id) realized engine voice := by
  rw [evaluateExact, bind_eq_ok] at resolved
  obtain ⟨engine, found, resolved⟩ := resolved
  rw [bind_eq_ok] at resolved
  obtain ⟨voice, offered, resolved⟩ := resolved
  rw [orError_eq_ok] at offered
  obtain ⟨member, named, -⟩ := (findUsableEngine_ok valid).mp found
  have identified := (valid.descriptor _ member).voice_id offered
  split at resolved
  · rename_i available
    rw [bind_eq_ok] at resolved
    obtain ⟨_, supported, result⟩ := resolved
    obtain rfl := Except.ok.inj result
    have usable := UsableEngine.of_found valid found (ensureTextSupported_eq_ok.mp supported)
    refine ⟨engine, voice, member, usable, ?_, ?_, rfl, available, named, offered⟩
    · rw [identified]
    · rw [identified]
      exact offered
  · cases resolved

theorem evaluateExact_complete (valid : ValidInventory engines) {id realized : PhysicalVoiceId}
    {engine : EngineDescriptor} {voice : VoiceDescriptor}
    (usable : UsableMatch engines permissions text (.exact id) realized engine voice) :
    evaluateExact engines id text permissions = .ok realized := by
  obtain ⟨named, offered⟩ := usable.admitted
  have found : findUsableEngine engines id.engineId permissions = .ok engine :=
    (findUsableEngine_ok valid).mpr ⟨usable.member, named, named ▸ usable.usable.enabled,
      usable.usable.available, usable.usable.not_failed⟩
  rw [evaluateExact, bind_eq_ok]
  refine ⟨engine, found, ?_⟩
  rw [bind_eq_ok]
  refine ⟨voice, orError_eq_ok.mpr offered, ?_⟩
  rw [usable.available]
  refine bind_eq_ok.mpr ⟨(), ensureTextSupported_eq_ok.mpr usable.usable.supports, ?_⟩
  rw [usable.identified]
  rfl

/-! ### Listed voices of a named engine -/

/-- The selectors that ask a named engine for a listed voice. -/
theorem evaluateOnEngine_ok (valid : ValidInventory engines) {engineId : String}
    {language : Option String} {gender : Option VoiceGender} {realized : PhysicalVoiceId}
    (resolved : evaluateOnEngine engines engineId language gender text permissions = .ok realized) :
    ∃ engine voice, UsableMatch engines permissions text
      (.properties (some engineId) language gender) realized engine voice := by
  rw [evaluateOnEngine, bind_eq_ok] at resolved
  obtain ⟨engine, found, resolved⟩ := resolved
  rw [bind_eq_ok] at resolved
  obtain ⟨id, chosen, resolved⟩ := resolved
  rw [bind_eq_ok] at resolved
  obtain ⟨_, supported, result⟩ := resolved
  obtain rfl := Except.ok.inj result
  obtain ⟨voice, matching, rfl⟩ := chooseVoice_ok chosen
  obtain ⟨listed, available, spoken, gendered⟩ := mem_matchingVoices.mp matching
  obtain ⟨member, named, -⟩ := (findUsableEngine_ok valid).mp found
  have usable := UsableEngine.of_found valid found (ensureTextSupported_eq_ok.mp supported)
  exact ⟨engine, voice, .of_listed valid member usable listed available
    ⟨named, listed, spoken, gendered⟩⟩

theorem evaluateOnEngine_complete (valid : ValidInventory engines) {engineId : String}
    {language : Option String} {gender : Option VoiceGender} {realized : PhysicalVoiceId}
    {engine : EngineDescriptor} {voice : VoiceDescriptor}
    (usable : UsableMatch engines permissions text (.properties (some engineId) language gender)
      realized engine voice) :
    ∃ id, evaluateOnEngine engines engineId language gender text permissions = .ok id := by
  obtain ⟨named, listed, spoken, gendered⟩ := usable.admitted
  have found : findUsableEngine engines engineId permissions = .ok engine :=
    (findUsableEngine_ok valid).mpr ⟨usable.member, named, named ▸ usable.usable.enabled,
      usable.usable.available, usable.usable.not_failed⟩
  have matching : voice ∈ matchingVoices engine language gender :=
    mem_matchingVoices.mpr ⟨listed, usable.available, spoken, gendered⟩
  cases chosen : chooseVoice engine language gender with
  | error failure =>
      rw [chooseVoice_error chosen] at matching
      exact absurd matching List.not_mem_nil
  | ok id =>
      refine ⟨id, bind_eq_ok.mpr ⟨engine, found, bind_eq_ok.mpr ⟨id, chosen, ?_⟩⟩⟩
      exact bind_eq_ok.mpr ⟨(), ensureTextSupported_eq_ok.mpr usable.usable.supports, rfl⟩

/-- The default of an engine is a search in it without properties. -/
theorem engineDefault_iff {engineId : String} {realized : PhysicalVoiceId}
    {engine : EngineDescriptor} {voice : VoiceDescriptor} :
    UsableMatch engines permissions text (.engineDefault engineId) realized engine voice ↔
      UsableMatch engines permissions text (.properties (some engineId) none none) realized engine
        voice := by
  constructor
  · rintro ⟨member, usable, own, offered, identified, available, named, listed⟩
    exact ⟨member, usable, own, offered, identified, available, named, listed, rfl, Or.inl rfl⟩
  · rintro ⟨member, usable, own, offered, identified, available, named, listed, -, -⟩
    exact ⟨member, usable, own, offered, identified, available, named, listed⟩

/-! ### Any engine -/

theorem mem_candidates {engine : EngineDescriptor} :
    engine ∈ engines.filter (fun engine =>
        engine.canSynthesize && permissions.permitsAutomatic engine.id) ↔
      engine ∈ engines ∧ engine.availability = .available ∧
        (∀ reason, engine.health ≠ .failed reason) ∧
        permissions.permitsAutomatic engine.id = true := by
  have speaks : engine.canSynthesize = true ↔ engine.availability = .available ∧
      ∀ reason, engine.health ≠ .failed reason := by
    rw [EngineDescriptor.canSynthesize, Bool.and_eq_true]
    cases engine.availability with
    | available =>
        cases engine.health <;> simp [Availability.isAvailable, EngineHealth.canSynthesize]
    | unavailable reason => simp [Availability.isAvailable]
  rw [List.mem_filter, Bool.and_eq_true, speaks, and_assoc]

/-- The candidate that answers offers a matching voice for the text. -/
theorem tryCandidates_ok {language : Option String} {gender : Option VoiceGender}
    {firstTextFailure : Option ResolutionFailure} {candidates : List EngineDescriptor}
    {id : PhysicalVoiceId}
    (resolved : tryCandidates language gender text firstTextFailure candidates = .ok id) :
    ∃ engine ∈ candidates, chooseVoice engine language gender = .ok id ∧
      ∀ characters, text = some characters →
        engine.textRepertoire.supportsText characters = true := by
  induction candidates generalizing firstTextFailure with
  | nil => cases resolved
  | cons engine rest ih =>
      rw [tryCandidates] at resolved
      split at resolved
      · obtain ⟨other, member, answered⟩ := ih resolved
        exact ⟨other, List.mem_cons_of_mem _ member, answered⟩
      · rename_i voice chosen
        split at resolved
        · obtain ⟨other, member, answered⟩ := ih resolved
          exact ⟨other, List.mem_cons_of_mem _ member, answered⟩
        · rename_i supported
          obtain rfl := Except.ok.inj resolved
          exact ⟨engine, List.mem_cons_self, chosen, textFailure_eq_none.mp supported⟩

/-- A candidate with a matching voice for the text makes the search answer. -/
theorem tryCandidates_complete {language : Option String} {gender : Option VoiceGender}
    {firstTextFailure : Option ResolutionFailure} {candidates : List EngineDescriptor}
    {engine : EngineDescriptor} (member : engine ∈ candidates) {voice : VoiceDescriptor}
    (matching : voice ∈ matchingVoices engine language gender)
    (supports : ∀ characters, text = some characters →
      engine.textRepertoire.supportsText characters = true) :
    ∃ id, tryCandidates language gender text firstTextFailure candidates = .ok id := by
  induction candidates generalizing firstTextFailure with
  | nil => exact absurd member List.not_mem_nil
  | cons first rest ih =>
      rw [tryCandidates]
      rcases List.mem_cons.mp member with rfl | later
      · cases chosen : chooseVoice engine language gender with
        | error failure =>
            rw [chooseVoice_error chosen] at matching
            exact absurd matching List.not_mem_nil
        | ok id =>
            rw [textFailure_eq_none.mpr supports]
            exact ⟨id, rfl⟩
      · split
        · exact ih later
        · split
          · exact ih later
          · exact ⟨_, rfl⟩

theorem permitsAutomatic_enabled {engineId : String}
    (permitted : permissions.permitsAutomatic engineId = true) :
    permissions.disabled engineId = false := by
  rw [EngineSelectionPermissions.permitsAutomatic, Bool.and_eq_true, Bool.not_eq_true'] at permitted
  exact permitted.1

theorem chooseAcrossEngines_ok (valid : ValidInventory engines) {language : Option String}
    {gender : Option VoiceGender} {preferredEngines : List String} {realized : PhysicalVoiceId}
    (resolved : chooseAcrossEngines engines language gender preferredEngines text permissions =
      .ok realized) :
    ∃ engine voice, UsableMatch engines permissions text (.properties none language gender)
      realized engine voice := by
  obtain ⟨engine, candidate, chosen, supports⟩ := tryCandidates_ok resolved
  obtain ⟨member, speaks, notFailed, permitted⟩ := mem_candidates.mp (mem_sortBy.mp candidate)
  obtain ⟨voice, matching, rfl⟩ := chooseVoice_ok chosen
  obtain ⟨listed, available, spoken, gendered⟩ := mem_matchingVoices.mp matching
  have usable : UsableEngine permissions text engine :=
    ⟨permitsAutomatic_enabled permitted, speaks, notFailed, supports⟩
  exact ⟨engine, voice, .of_listed valid member usable listed available
    ⟨permitted, listed, spoken, gendered⟩⟩

theorem chooseAcrossEngines_complete {language : Option String} {gender : Option VoiceGender}
    {preferredEngines : List String} {realized : PhysicalVoiceId} {engine : EngineDescriptor}
    {voice : VoiceDescriptor}
    (usable : UsableMatch engines permissions text (.properties none language gender) realized
      engine voice) :
    ∃ id, chooseAcrossEngines engines language gender preferredEngines text permissions =
      .ok id := by
  obtain ⟨permitted, listed, spoken, gendered⟩ := usable.admitted
  have candidate := mem_candidates.mpr
    ⟨usable.member, usable.usable.available, usable.usable.not_failed, permitted⟩
  exact tryCandidates_complete (mem_sortBy.mpr candidate)
    (mem_matchingVoices.mpr ⟨listed, usable.available, spoken, gendered⟩) usable.usable.supports

/-! ### All selectors -/

variable {preferredEngines : List String} {selector : VoiceSelector}

/-- **What a selector is evaluated to is a usable match.** -/
theorem evaluateSelector_ok (valid : ValidInventory engines) {realized : PhysicalVoiceId}
    (resolved : evaluateSelector engines preferredEngines text permissions selector =
      .ok realized) :
    ∃ engine voice, UsableMatch engines permissions text selector realized engine voice := by
  rcases selector with id | engineId | ⟨_ | engineId, language, gender⟩
  · exact evaluateExact_ok valid resolved
  · obtain ⟨engine, voice, found⟩ := evaluateOnEngine_ok valid resolved
    exact ⟨engine, voice, engineDefault_iff.mpr found⟩
  · exact chooseAcrossEngines_ok valid resolved
  · exact evaluateOnEngine_ok valid resolved

/-- A selector with a usable match is evaluated to one. -/
theorem evaluateSelector_complete (valid : ValidInventory engines) {realized : PhysicalVoiceId}
    {engine : EngineDescriptor} {voice : VoiceDescriptor}
    (usable : UsableMatch engines permissions text selector realized engine voice) :
    ∃ id, evaluateSelector engines preferredEngines text permissions selector = .ok id := by
  rcases selector with id | engineId | ⟨_ | engineId, language, gender⟩
  · exact ⟨realized, evaluateExact_complete valid usable⟩
  · exact evaluateOnEngine_complete valid (engineDefault_iff.mp usable)
  · exact chooseAcrossEngines_complete usable
  · exact evaluateOnEngine_complete valid usable

/-- **A selector that fails has no usable match.** -/
theorem evaluateSelector_error (valid : ValidInventory engines) {failure : ResolutionFailure}
    (failed : evaluateSelector engines preferredEngines text permissions selector =
      .error failure) :
    ¬ ∃ realized engine voice,
      UsableMatch engines permissions text selector realized engine voice := by
  rintro ⟨realized, engine, voice, usable⟩
  have resolves : ∃ id, evaluateSelector engines preferredEngines text permissions selector =
      .ok id := evaluateSelector_complete valid usable
  obtain ⟨id, resolved⟩ := resolves
  rw [failed] at resolved
  cases resolved

end Selectors

/-! ## Stages -/

/-- A selector at its stage. -/
structure Candidate where
  stage : ResolutionStage
  reason : ResolutionReason
  selector : VoiceSelector
  deriving Repr, DecidableEq

/-- Number the selectors of one loop. -/
def candidatesOf (stage : Nat → ResolutionStage) (reason : Nat → ResolutionReason)
    (selectors : List VoiceSelector) : List Candidate :=
  selectors.zipIdx.map fun numbered => ⟨stage numbered.2, reason numbered.2, numbered.1⟩

/-- All stages in order: preferences, same language on the requested engine, preferred
engines, global default, fallback engines. -/
def stages (definition : LogicalVoiceDefinition) (policy : FallbackPolicy) : List Candidate :=
  candidatesOf .preference preferenceReason definition.preferences ++
  ((sameLanguageSelector definition policy).map
    (Candidate.mk .sameLanguageOnRequestedEngine .sameLanguageOnRequestedEngine)).toList ++
  candidatesOf .preferredEngine .preferredEngine (policy.preferredEngines.map .engineDefault) ++
  (policy.globalDefault.map (Candidate.mk .globalDefault .globalDefault)).toList ++
  candidatesOf .fallbackEngine .fallbackEngine (policy.fallbackEngines.map .engineDefault)

/-- The attempt that a failed candidate leaves. -/
def FailedAttempt (evaluate : VoiceSelector → Except ResolutionFailure PhysicalVoiceId)
    (candidate : Candidate) (attempt : ResolutionAttempt) : Prop :=
  evaluate candidate.selector = .error attempt.failure ∧ attempt.stage = candidate.stage ∧
    attempt.selector = candidate.selector

/-- The outcome of going through candidates and stopping at the first that is realized. -/
def FirstRealized (definition : LogicalVoiceDefinition)
    (evaluate : VoiceSelector → Except ResolutionFailure PhysicalVoiceId)
    (candidates : List Candidate) : Except VoiceResolutionError VoiceResolution → Prop
  | .ok resolution => ∃ before candidate after, candidates = before ++ candidate :: after ∧
      List.Forall₂ (FailedAttempt evaluate) before resolution.failedAttempts ∧
      evaluate candidate.selector = .ok resolution.realized ∧
      resolution = success definition resolution.realized candidate.reason
        resolution.failedAttempts
  | .error error => error.logicalVoiceId = definition.id ∧
      List.Forall₂ (FailedAttempt evaluate) candidates error.attempts

section Search

variable {definition : LogicalVoiceDefinition}
  {evaluate : VoiceSelector → Except ResolutionFailure PhysicalVoiceId}

/-- Consider the candidates of a list one after another. -/
def considerAll (definition : LogicalVoiceDefinition)
    (evaluate : VoiceSelector → Except ResolutionFailure PhysicalVoiceId)
    (candidates : List Candidate) (attempts : List ResolutionAttempt) :
    Except VoiceResolution (List ResolutionAttempt) :=
  candidates.foldlM (fun attempts candidate =>
    consider definition evaluate attempts candidate.stage candidate.reason candidate.selector)
    attempts

theorem considerEach_eq (stage : Nat → ResolutionStage) (reason : Nat → ResolutionReason)
    (selectors : List VoiceSelector) (attempts : List ResolutionAttempt) :
    considerEach definition evaluate stage reason selectors attempts =
      considerAll definition evaluate (candidatesOf stage reason selectors) attempts := by
  rw [considerEach, considerAll, candidatesOf, List.foldlM_map]

theorem considerOptional_eq (stage : ResolutionStage) (reason : ResolutionReason)
    (attempts : List ResolutionAttempt) (selector : Option VoiceSelector) :
    considerOptional definition evaluate stage reason attempts selector =
      considerAll definition evaluate (selector.map (Candidate.mk stage reason)).toList
        attempts := by
  cases selector with
  | none => rfl
  | some selector =>
      rw [considerOptional, considerAll, Option.map_some, Option.toList_some, List.foldlM_cons]
      cases consider definition evaluate attempts stage reason selector with
      | error resolution => rfl
      | ok attempts => rfl

theorem considerAll_append (first second : List Candidate) (attempts : List ResolutionAttempt) :
    considerAll definition evaluate (first ++ second) attempts =
      considerAll definition evaluate first attempts >>=
        considerAll definition evaluate second :=
  List.foldlM_append

/-- A search that ends early ends at the first candidate that is realized. -/
theorem considerAll_error {candidates : List Candidate} {attempts : List ResolutionAttempt}
    {resolution : VoiceResolution}
    (ended : considerAll definition evaluate candidates attempts = .error resolution) :
    ∃ before candidate after failed, candidates = before ++ candidate :: after ∧
      List.Forall₂ (FailedAttempt evaluate) before failed ∧
      evaluate candidate.selector = .ok resolution.realized ∧
      resolution = success definition resolution.realized candidate.reason
        (attempts ++ failed) := by
  induction candidates generalizing attempts with
  | nil => cases ended
  | cons candidate rest ih =>
      rw [considerAll, List.foldlM_cons, consider] at ended
      cases evaluated : evaluate candidate.selector with
      | ok realized =>
          rw [evaluated] at ended
          obtain rfl := Except.error.inj ended
          exact ⟨[], candidate, rest, [], rfl, .nil, evaluated, by rw [List.append_nil]; rfl⟩
      | error failure =>
          rw [evaluated] at ended
          obtain ⟨before, found, after, failed, split, failures, realized, result⟩ := ih ended
          refine ⟨candidate :: before, found, after,
            ⟨candidate.stage, candidate.selector, failure⟩ :: failed, ?_, ?_, realized, ?_⟩
          · rw [split, List.cons_append]
          · exact .cons ⟨evaluated, rfl, rfl⟩ failures
          · rw [List.append_assoc] at result
            exact result

/-- A search that goes through to the end has seen every candidate fail. -/
theorem considerAll_ok {candidates : List Candidate} {attempts final : List ResolutionAttempt}
    (finished : considerAll definition evaluate candidates attempts = .ok final) :
    ∃ failed, List.Forall₂ (FailedAttempt evaluate) candidates failed ∧
      final = attempts ++ failed := by
  induction candidates generalizing attempts with
  | nil =>
      cases finished
      exact ⟨[], .nil, (List.append_nil _).symm⟩
  | cons candidate rest ih =>
      rw [considerAll, List.foldlM_cons, consider] at finished
      cases evaluated : evaluate candidate.selector with
      | ok realized =>
          rw [evaluated] at finished
          cases finished
      | error failure =>
          rw [evaluated] at finished
          obtain ⟨failed, failures, result⟩ := ih finished
          refine ⟨⟨candidate.stage, candidate.selector, failure⟩ :: failed,
            .cons ⟨evaluated, rfl, rfl⟩ failures, ?_⟩
          rw [result, List.append_assoc]
          rfl

end Search

/-- The five loops are one search through the stages. -/
theorem resolve_eq_search (engines : List EngineDescriptor) (definition : LogicalVoiceDefinition)
    (policy : FallbackPolicy) (text : Option (List Char))
    (permissions : EngineSelectionPermissions) :
    resolveVoiceWithPermissions engines definition policy text permissions =
      conclude definition (considerAll definition
        (evaluateSelector engines policy.preferredEngines text permissions)
        (stages definition policy) []) := by
  rw [resolveVoiceWithPermissions, stages]
  simp only [considerEach_eq, considerOptional_eq, considerAll_append, bind_assoc]

/-- **Resolution realizes the first stage whose selector is realized.** -/
theorem resolve_firstRealized (engines : List EngineDescriptor)
    (definition : LogicalVoiceDefinition) (policy : FallbackPolicy) (text : Option (List Char))
    (permissions : EngineSelectionPermissions) :
    FirstRealized definition
      (evaluateSelector engines policy.preferredEngines text permissions)
      (stages definition policy)
      (resolveVoiceWithPermissions engines definition policy text permissions) := by
  rw [resolve_eq_search]
  cases searched : considerAll definition
      (evaluateSelector engines policy.preferredEngines text permissions)
      (stages definition policy) [] with
  | error resolution =>
      obtain ⟨before, candidate, after, failed, split, failures, realized, result⟩ :=
        considerAll_error searched
      rw [List.nil_append] at result
      have attempts : resolution.failedAttempts = failed := by
        rw [result]
        rfl
      rw [← attempts] at failures result
      exact ⟨before, candidate, after, split, failures, realized, result⟩
  | ok attempts =>
      obtain ⟨failed, failures, result⟩ := considerAll_ok searched
      rw [List.nil_append] at result
      rw [← result] at failures
      exact ⟨rfl, failures⟩

/-! ## The order of the inventory -/

section Order

variable {engines engines' : List EngineDescriptor} {permissions : EngineSelectionPermissions}
  {text : Option (List Char)} {preferredEngines : List String}

/-- Engines with distinct identifiers have distinct keys. -/
theorem engineKey_nodup (distinct : (engines.map EngineDescriptor.id).Nodup) :
    (engines.map (engineKey preferredEngines)).Nodup := by
  have identifiers : (engines.map (engineKey preferredEngines)).map (fun key => (ofLex key).2) =
      engines.map EngineDescriptor.id := by
    rw [List.map_map]
    rfl
  exact List.Nodup.of_map _ (identifiers ▸ distinct)

theorem voiceKey_nodup (engine : EngineDescriptor) {voices : List VoiceDescriptor}
    (distinct : (voices.map fun voice => voice.id.voiceId).Nodup) :
    (voices.map (voiceKey engine)).Nodup := by
  have identifiers : (voices.map (voiceKey engine)).map (fun key => (ofLex key).2) =
      voices.map fun voice => voice.id.voiceId := by
    rw [List.map_map]
    rfl
  exact List.Nodup.of_map _ (identifiers ▸ distinct)

theorem findUsableEngine_perm (distinct : (engines.map EngineDescriptor.id).Nodup)
    (perm : engines.Perm engines') (engineId : String) :
    findUsableEngine engines engineId permissions =
      findUsableEngine engines' engineId permissions := by
  rw [findUsableEngine, findUsableEngine, find?_key_perm distinct perm]

/-- **The order of the engines does not matter.** -/
theorem evaluateSelector_perm (distinct : (engines.map EngineDescriptor.id).Nodup)
    (perm : engines.Perm engines') :
    evaluateSelector engines preferredEngines text permissions =
      evaluateSelector engines' preferredEngines text permissions := by
  have found : ∀ engineId, findUsableEngine engines engineId permissions =
      findUsableEngine engines' engineId permissions := findUsableEngine_perm distinct perm
  funext selector
  rcases selector with id | engineId | ⟨_ | engineId, language, gender⟩
  · simp only [evaluateSelector, evaluateExact, found]
  · simp only [evaluateSelector, evaluateOnEngine, found]
  · have candidates := (perm.filter fun engine =>
      engine.canSynthesize && permissions.permitsAutomatic engine.id)
    have kept : ((engines.filter fun engine =>
        engine.canSynthesize && permissions.permitsAutomatic engine.id).map
          EngineDescriptor.id).Nodup :=
      distinct.sublist (List.filter_sublist.map _)
    simp only [evaluateSelector, chooseAcrossEngines,
      sortBy_perm (engineKey_nodup kept) candidates]
  · simp only [evaluateSelector, evaluateOnEngine, found]

/-- An engine that lists its voices in another order. -/
def withVoices (reorder : EngineDescriptor → List VoiceDescriptor) (engine : EngineDescriptor) :
    EngineDescriptor :=
  { engine with voices := reorder engine }

variable {reorder : EngineDescriptor → List VoiceDescriptor}

theorem listedVoice_withVoices {engine : EngineDescriptor} (valid : ValidDescriptor engine)
    (perm : (reorder engine).Perm engine.voices) (voiceId : String) :
    (withVoices reorder engine).listedVoice voiceId = engine.listedVoice voiceId :=
  (find?_key_perm valid.distinct perm.symm voiceId).symm

theorem voice_withVoices {engine : EngineDescriptor} (valid : ValidDescriptor engine)
    (perm : (reorder engine).Perm engine.voices) (voiceId : String) :
    (withVoices reorder engine).voice voiceId = engine.voice voiceId := by
  simp only [EngineDescriptor.voice, listedVoice_withVoices valid perm]
  rfl

theorem chooseVoice_withVoices {engine : EngineDescriptor} (valid : ValidDescriptor engine)
    (perm : (reorder engine).Perm engine.voices) (language : Option String)
    (gender : Option VoiceGender) :
    chooseVoice (withVoices reorder engine) language gender =
      chooseVoice engine language gender := by
  have matching : (matchingVoices engine language gender).Perm
      (matchingVoices (withVoices reorder engine) language gender) := perm.symm.filter _
  have kept : ((matchingVoices engine language gender).map fun voice => voice.id.voiceId).Nodup :=
    valid.distinct.sublist (List.filter_sublist.map _)
  rw [chooseVoice, chooseVoice, sortBy_perm (voiceKey_nodup engine kept) matching]
  rfl

theorem findUsableEngine_map (engineId : String) :
    findUsableEngine (engines.map (withVoices reorder)) engineId permissions =
      (findUsableEngine engines engineId permissions).map (withVoices reorder) := by
  have found : (engines.map (withVoices reorder)).find? (fun engine => engine.id == engineId) =
      (engines.find? fun engine => engine.id == engineId).map (withVoices reorder) :=
    List.find?_map
  rw [findUsableEngine, findUsableEngine, found]
  cases ensure (!permissions.disabled engineId)
      (ResolutionFailure.engineUnavailable engineId "disabled by local engine configuration") with
  | error failure => rfl
  | ok _ =>
      cases engines.find? fun engine => engine.id == engineId with
      | none => rfl
      | some engine =>
          obtain ⟨id, availability, health, _, _, _, _, _, _⟩ := engine
          cases availability
          all_goals cases health
          all_goals rfl

theorem tryCandidates_map {candidates : List EngineDescriptor} {language : Option String}
    {gender : Option VoiceGender}
    (same : ∀ engine ∈ candidates, chooseVoice (withVoices reorder engine) language gender =
      chooseVoice engine language gender) (firstTextFailure : Option ResolutionFailure) :
    tryCandidates language gender text firstTextFailure (candidates.map (withVoices reorder)) =
      tryCandidates language gender text firstTextFailure candidates := by
  induction candidates generalizing firstTextFailure with
  | nil => rfl
  | cons engine rest ih =>
      obtain ⟨here, later⟩ := List.forall_mem_cons.mp same
      have texts : textFailure (withVoices reorder engine) = textFailure engine := rfl
      simp only [List.map_cons, tryCandidates, here, texts, ih later]

/-- **The order of the voices does not matter.** -/
theorem evaluateSelector_withVoices (valid : ValidInventory engines)
    (perm : ∀ engine ∈ engines, (reorder engine).Perm engine.voices) :
    evaluateSelector (engines.map (withVoices reorder)) preferredEngines text permissions =
      evaluateSelector engines preferredEngines text permissions := by
  have chosen : ∀ engine ∈ engines, ∀ language gender,
      chooseVoice (withVoices reorder engine) language gender =
        chooseVoice engine language gender := fun engine member =>
    chooseVoice_withVoices (valid.descriptor _ member) (perm engine member)
  have named : ∀ engineId language gender,
      evaluateOnEngine (engines.map (withVoices reorder)) engineId language gender text
          permissions =
        evaluateOnEngine engines engineId language gender text permissions := by
    intro engineId language gender
    rw [evaluateOnEngine, evaluateOnEngine, findUsableEngine_map]
    cases found : findUsableEngine engines engineId permissions with
    | error failure => rfl
    | ok engine =>
        have member := ((findUsableEngine_ok valid).mp found).1
        have texts : ensureTextSupported (withVoices reorder engine) text =
          ensureTextSupported engine text := rfl
        simp only [Except.map, bind, Except.bind, chosen engine member, texts]
  funext selector
  rcases selector with id | engineId | ⟨_ | engineId, language, gender⟩
  · rw [evaluateSelector, evaluateSelector, evaluateExact, evaluateExact, findUsableEngine_map]
    cases found : findUsableEngine engines id.engineId permissions with
    | error failure => rfl
    | ok engine =>
        have member := ((findUsableEngine_ok valid).mp found).1
        have texts : ensureTextSupported (withVoices reorder engine) text =
          ensureTextSupported engine text := rfl
        simp only [Except.map, bind, Except.bind, texts,
          voice_withVoices (valid.descriptor _ member) (perm engine member)]
  · exact named engineId none none
  · rw [evaluateSelector, evaluateSelector, chooseAcrossEngines, chooseAcrossEngines,
      List.filter_map]
    have keys : ∀ engine ∈ engines.filter (fun engine =>
        engine.canSynthesize && permissions.permitsAutomatic engine.id),
        engineKey preferredEngines (withVoices reorder engine) =
          engineKey preferredEngines engine := fun engine _ => rfl
    have sorted := sortBy_map (f := withVoices reorder) keys
    refine (congrArg (tryCandidates language gender text none) sorted).trans ?_
    apply tryCandidates_map
    intro engine candidate
    exact chosen engine (List.mem_filter.mp (mem_sortBy.mp candidate)).1 language gender
  · exact named engineId language gender

/-- **Resolution does not depend on the order of the inventory**, of its engines or of the
voices of any engine. -/
theorem resolve_reordered (valid : ValidInventory engines)
    (voices : ∀ engine ∈ engines, (reorder engine).Perm engine.voices)
    (perm : engines'.Perm (engines.map (withVoices reorder)))
    (definition : LogicalVoiceDefinition) (policy : FallbackPolicy) :
    resolveVoiceWithPermissions engines' definition policy text permissions =
      resolveVoiceWithPermissions engines definition policy text permissions := by
  have identifiers : (engines.map (withVoices reorder)).map EngineDescriptor.id =
      engines.map EngineDescriptor.id := by
    rw [List.map_map]
    rfl
  have distinct : ((engines.map (withVoices reorder)).map EngineDescriptor.id).Nodup :=
    identifiers ▸ valid.distinct
  have same : evaluateSelector engines' policy.preferredEngines text permissions =
      evaluateSelector engines policy.preferredEngines text permissions :=
    (evaluateSelector_perm distinct perm.symm).symm.trans (evaluateSelector_withVoices valid voices)
  rw [resolve_eq_search, resolve_eq_search, same]

end Order

/-! ## The first usable candidate -/

/-- No voice of the inventory realizes the selector. -/
def Unusable (engines : List EngineDescriptor) (permissions : EngineSelectionPermissions)
    (text : Option (List Char)) (selector : VoiceSelector) : Prop :=
  ¬ ∃ realized engine voice, UsableMatch engines permissions text selector realized engine voice

/-- The attempts are those of the candidates, in order. -/
def ListsStages (candidates : List Candidate) (attempts : List ResolutionAttempt) : Prop :=
  attempts.map ResolutionAttempt.stage = candidates.map Candidate.stage ∧
    attempts.map ResolutionAttempt.selector = candidates.map Candidate.selector

/-- What resolution is for: the first candidate with a usable match is realized by one, and
the candidates before it are listed as failed. -/
def FirstUsable (engines : List EngineDescriptor) (permissions : EngineSelectionPermissions)
    (text : Option (List Char)) (definition : LogicalVoiceDefinition)
    (candidates : List Candidate) : Except VoiceResolutionError VoiceResolution → Prop
  | .ok resolution => ∃ before candidate after, candidates = before ++ candidate :: after ∧
      (∀ earlier ∈ before, Unusable engines permissions text earlier.selector) ∧
      (∃ engine voice,
        UsableMatch engines permissions text candidate.selector resolution.realized engine voice) ∧
      ListsStages before resolution.failedAttempts ∧ resolution.reason = candidate.reason ∧
      resolution.logicalVoiceId = definition.id ∧
      resolution.requested = definition.preferences.head?
  | .error error => (∀ candidate ∈ candidates, Unusable engines permissions text
      candidate.selector) ∧ ListsStages candidates error.attempts ∧
      error.logicalVoiceId = definition.id

section FirstUsable

variable {evaluate : VoiceSelector → Except ResolutionFailure PhysicalVoiceId}
  {candidates : List Candidate} {attempts : List ResolutionAttempt}

theorem listsStages_of_failed (failed : List.Forall₂ (FailedAttempt evaluate) candidates attempts) :
    ListsStages candidates attempts := by
  induction failed with
  | nil => exact ⟨rfl, rfl⟩
  | cons here _ ih =>
      obtain ⟨_, stage, selector⟩ := here
      refine ⟨?_, ?_⟩
      · rw [List.map_cons, List.map_cons, stage, ih.1]
      · rw [List.map_cons, List.map_cons, selector, ih.2]

theorem evaluate_error_of_failed
    (failed : List.Forall₂ (FailedAttempt evaluate) candidates attempts) :
    ∀ candidate ∈ candidates, ∃ failure, evaluate candidate.selector = .error failure := by
  induction failed with
  | nil =>
      intro candidate member
      exact absurd member List.not_mem_nil
  | cons here _ ih => exact List.forall_mem_cons.mpr ⟨⟨_, here.1⟩, ih⟩

end FirstUsable

/-- Over a valid inventory, what is realized first is what is usable first. -/
theorem FirstRealized.firstUsable {engines : List EngineDescriptor}
    {permissions : EngineSelectionPermissions} {text : Option (List Char)}
    {preferredEngines : List String} {definition : LogicalVoiceDefinition}
    {candidates : List Candidate} {outcome : Except VoiceResolutionError VoiceResolution}
    (valid : ValidInventory engines)
    (first : FirstRealized definition
      (evaluateSelector engines preferredEngines text permissions) candidates outcome) :
    FirstUsable engines permissions text definition candidates outcome := by
  cases outcome with
  | ok resolution =>
      obtain ⟨before, candidate, after, split, failures, realized, result⟩ := first
      refine ⟨before, candidate, after, split, ?_, evaluateSelector_ok valid realized,
        listsStages_of_failed failures, ?_, ?_, ?_⟩
      · intro earlier member
        obtain ⟨failure, failed⟩ := evaluate_error_of_failed failures earlier member
        exact evaluateSelector_error valid failed
      all_goals
        rw [result]
        rfl
  | error error =>
      obtain ⟨named, failures⟩ := first
      refine ⟨?_, listsStages_of_failed failures, named⟩
      intro candidate member
      obtain ⟨failure, failed⟩ := evaluate_error_of_failed failures candidate member
      exact evaluateSelector_error valid failed

/-- **Resolution realizes the first usable stage**, notes the failures of the stages before
it, and does not depend on the order of the inventory. -/
theorem resolution_realizes_first_usable (engines : List EngineDescriptor)
    (definition : LogicalVoiceDefinition) (policy : FallbackPolicy)
    (permissions : EngineSelectionPermissions) (text : Option (List Char))
    (distinct : (engines.map EngineDescriptor.id).Nodup)
    (validated : ∀ engine ∈ engines, validateDescriptor engine = .ok ()) :
    FirstUsable engines permissions text definition (stages definition policy)
        (resolveVoiceWithPermissions engines definition policy text permissions) ∧
      FirstRealized definition
        (evaluateSelector engines policy.preferredEngines text permissions)
        (stages definition policy)
        (resolveVoiceWithPermissions engines definition policy text permissions) ∧
      ∀ (reorder : EngineDescriptor → List VoiceDescriptor) (engines' : List EngineDescriptor),
        (∀ engine ∈ engines, (reorder engine).Perm engine.voices) →
        engines'.Perm (engines.map (withVoices reorder)) →
        resolveVoiceWithPermissions engines' definition policy text permissions =
          resolveVoiceWithPermissions engines definition policy text permissions := by
  have valid := ValidInventory.of_validated distinct validated
  have first := resolve_firstRealized engines definition policy text permissions
  refine ⟨first.firstUsable valid, first, ?_⟩
  intro reorder engines' voices perm
  exact resolve_reordered valid voices perm definition policy

/-- One engine with a default voice, and a definition that prefers a missing voice. -/
theorem resolution_of_single_engine :
    let engine : EngineDescriptor :=
      { id := "winrt", availability := .available, health := .healthy
        acss := ⟨true, true, true, true, true, true⟩, textRepertoire := .unicode
        postSynthesisDimensions := []
        voices := [⟨⟨"winrt", "winrt:David"⟩, "David", some "en-US", none, .available⟩]
        defaultVoiceId := some "winrt:David", espeakVariants := [] }
    let definition : LogicalVoiceDefinition :=
      { id := "source-code", language := some "en-US"
        preferences := [.exact ⟨"winrt", "winrt:Zira"⟩]
        acss := ⟨none, none, none, none, none, none⟩
        effects := ⟨none, none, none, none, none, none, none⟩ }
    let policy : FallbackPolicy := ⟨[], true, none, []⟩
    FirstUsable [engine] ⟨[], []⟩ none definition (stages definition policy)
      (resolveVoiceWithPermissions [engine] definition policy none ⟨[], []⟩) := by
  intro engine definition policy
  exact (resolution_realizes_first_usable [engine] definition policy ⟨[], []⟩ none
    (by decide) (by decide)).1

end Omnivox.Engines
