import Mathlib
import Omnivox.Foundations.Landmarks
import Omnivox.Text.OffsetTracking

/-!
# Positions in the prepared text

The second pass stops in front of every character, behind a space that it puts
there. Both passes together answer the requested offsets with their positions in
the prepared text, exactly when these fit a `u32`
(`prepareSpeechTextWithOffsets_tracks`).
-/

set_option autoImplicit false

namespace Omnivox.Text

open Foundations
open String (utf8Len)

section Preparation

variable [UnicodeCase]

/-! ## The trail of the second pass -/

/-- The length of the space in front of a character, if there is one. -/
def spaceBefore (previousLower : Bool) (character : Char) : Nat :=
  if isUppercase character && previousLower then 1 else 0

/-- Where the scanner of `insertSpaceBeforeUppercaseWithOffsets` stops. -/
def spacesTrail : List Char → Nat → Bool → Nat → List Landmark
  | [], position, _, length => [⟨position, length⟩]
  | character :: rest, position, previousLower, length =>
      ⟨position, length + spaceBefore previousLower character⟩ ::
        spacesTrail rest (position + character.utf8Size) (isLowercase character)
          (length + spaceBefore previousLower character + character.utf8Size)

/-- The pass puts one character behind the space that may be in front of it. -/
theorem insertSpacesAfter_cons (previousLower : Bool) (character : Char) (rest : List Char) :
    insertSpacesAfter previousLower (character :: rest) =
      List.replicate (spaceBefore previousLower character) ' ' ++
        character :: insertSpacesAfter (isLowercase character) rest := by
  rw [insertSpacesAfter, spaceBefore]
  split
  · rfl
  · rfl

theorem insertSpacesRecording_cons (character : Char) (rest : List Char) (position : Nat)
    (previousLower : Bool) (output : List Char) (mapped : OffsetMapper) :
    insertSpacesRecording (character :: rest) position previousLower output mapped =
      insertSpacesRecording rest (position + character.utf8Size) (isLowercase character)
        (output ++ List.replicate (spaceBefore previousLower character) ' ' ++ [character])
        (mapped.record position
          (utf8Len (output ++ List.replicate (spaceBefore previousLower character) ' '))) := by
  rw [insertSpacesRecording, spaceBefore]
  split
  · rfl
  · rw [List.replicate_zero, List.append_nil]

omit [UnicodeCase] in
theorem utf8Len_spaces (count : Nat) : utf8Len (List.replicate count ' ') = count := by
  induction count with
  | zero => rfl
  | succ count ih => rw [List.replicate_succ, String.utf8Len_cons, ih, utf8Size_space]

/-- The scanner writes the spaced text and records its trail. -/
theorem insertSpacesRecording_eq (text : List Char) (position : Nat) (previousLower : Bool)
    (output : List Char) (mapped : OffsetMapper) :
    (insertSpacesRecording text position previousLower output mapped).1 =
        output ++ insertSpacesAfter previousLower text ∧
      (insertSpacesRecording text position previousLower output mapped).2.record
          (position + utf8Len text) (utf8Len (output ++ insertSpacesAfter previousLower text)) =
        mapped.recordAll (spacesTrail text position previousLower (utf8Len output)) := by
  induction text generalizing position previousLower output mapped with
  | nil =>
      refine ⟨(List.append_nil output).symm, ?_⟩
      rw [insertSpacesAfter, List.append_nil]
      rfl
  | cons character rest ih =>
      let spaces := List.replicate (spaceBefore previousLower character) ' '
      obtain ⟨written, recorded⟩ := ih (position + character.utf8Size) (isLowercase character)
        (output ++ spaces ++ [character]) (mapped.record position (utf8Len (output ++ spaces)))
      have joined : output ++ spaces ++ [character] ++ insertSpacesAfter (isLowercase character) rest =
          output ++ insertSpacesAfter previousLower (character :: rest) := by
        rw [insertSpacesAfter_cons, List.append_assoc, List.append_assoc]
        rfl
      have bytes : position + character.utf8Size + utf8Len rest =
          position + utf8Len (character :: rest) := by
        rw [String.utf8Len_cons]
        omega
      have grown : utf8Len (output ++ spaces) =
          utf8Len output + spaceBefore previousLower character := by
        rw [String.utf8Len_append, utf8Len_spaces]
      have further : utf8Len (output ++ spaces ++ [character]) =
          utf8Len output + spaceBefore previousLower character + character.utf8Size := by
        rw [String.utf8Len_append, grown, String.utf8Len_cons, String.utf8Len_nil, Nat.zero_add]
      rw [joined] at written recorded
      rw [bytes, further] at recorded
      rw [insertSpacesRecording_cons]
      refine ⟨written, recorded.trans ?_⟩
      rw [grown]
      rfl

/-- The length of the space in front of a text, if there is one. -/
def spaceInFront (previousLower : Bool) : List Char → Nat
  | [] => 0
  | character :: _ => spaceBefore previousLower character

/-- The trail starts behind the space that is put in front. -/
theorem start_mem_spacesTrail (text : List Char) (position : Nat) (previousLower : Bool)
    (length : Nat) :
    ⟨position, length + spaceInFront previousLower text⟩ ∈
      spacesTrail text position previousLower length := by
  cases text with
  | nil => exact List.mem_singleton.mpr rfl
  | cons character rest => exact List.mem_cons_self

/-- **The stops of the second pass ascend.** -/
theorem spacesTrail_ascends (text : List Char) (position : Nat) (previousLower : Bool)
    (length : Nat) :
    AscendsFrom ⟨position, length + spaceInFront previousLower text⟩
      (spacesTrail text position previousLower length) := by
  induction text generalizing position previousLower length with
  | nil => exact ascendsFrom_singleton _
  | cons character rest ih =>
      refine (ih (position + character.utf8Size) (isLowercase character)
        (length + spaceBefore previousLower character + character.utf8Size)).cons ?_
      refine Or.inr ⟨Nat.lt_add_of_pos_right (Char.utf8Size_pos character), ?_⟩
      exact Nat.le_trans (Nat.le_add_right _ _) (Nat.le_add_right _ _)

/-- Whether the character before a boundary is lowercase. -/
def lowerBehind (previousLower : Bool) (before : List Char) : Bool :=
  before.foldl (fun _ character => isLowercase character) previousLower

/-- **The boundary behind a text**: the scanner comes to it with the text spaced. -/
theorem insertSpaces_append (before after : List Char) (position : Nat) (previousLower : Bool)
    (length : Nat) :
    insertSpacesAfter previousLower (before ++ after) =
        insertSpacesAfter previousLower before ++
          insertSpacesAfter (lowerBehind previousLower before) after ∧
      ∃ walked, spacesTrail (before ++ after) position previousLower length =
        walked ++ spacesTrail after (position + utf8Len before) (lowerBehind previousLower before)
          (length + utf8Len (insertSpacesAfter previousLower before)) := by
  induction before generalizing position previousLower length with
  | nil => exact ⟨rfl, [], rfl⟩
  | cons character rest ih =>
      obtain ⟨text, walked, trail⟩ := ih (position + character.utf8Size) (isLowercase character)
        (length + spaceBefore previousLower character + character.utf8Size)
      have bytes : position + character.utf8Size + utf8Len rest =
          position + utf8Len (character :: rest) := by
        rw [String.utf8Len_cons]
        omega
      have written : length + spaceBefore previousLower character + character.utf8Size +
          utf8Len (insertSpacesAfter (isLowercase character) rest) =
            length + utf8Len (insertSpacesAfter previousLower (character :: rest)) := by
        rw [insertSpacesAfter_cons, String.utf8Len_append, utf8Len_spaces, String.utf8Len_cons]
        omega
      rw [bytes, written] at trail
      constructor
      · rw [List.cons_append, insertSpacesAfter_cons, text, insertSpacesAfter_cons,
          List.append_assoc]
        rfl
      · refine ⟨⟨position, length + spaceBefore previousLower character⟩ :: walked, ?_⟩
        rw [List.cons_append, spacesTrail, trail]
        rfl

/-! ## Where a boundary of the text is put -/

/-- A space is put between a lowercase character and an uppercase one. -/
def insertsSpace (before after : List Char) : Bool :=
  after.head?.any isUppercase && before.getLast?.any isLowercase

theorem lowerBehind_eq (before : List Char) :
    lowerBehind false before = before.getLast?.any isLowercase := by
  induction before using List.reverseRecOn with
  | nil => rfl
  | append_singleton rest character _ =>
      rw [lowerBehind, List.foldl_concat, List.getLast?_concat]
      rfl

theorem spaceInFront_eq (before after : List Char) :
    spaceInFront (lowerBehind false before) after = if insertsSpace before after then 1 else 0 := by
  rw [lowerBehind_eq]
  cases after with
  | nil => rfl
  | cons character rest => rfl

/-- Where the second pass puts a boundary: behind what is spaced up to it, and
behind a space that is put right there. -/
def spacedPosition (text : List Char) (offset : Nat) : Nat :=
  let parts := splitAtByte text offset
  utf8Len (insertSpaceBeforeUppercase parts.1) + if insertsSpace parts.1 parts.2 then 1 else 0

theorem spacedPosition_append (before after : List Char) :
    spacedPosition (before ++ after) (utf8Len before) =
      utf8Len (insertSpaceBeforeUppercase before) + if insertsSpace before after then 1 else 0 := by
  unfold spacedPosition
  rw [splitAtByte_append]

/-- **The second pass stops at every boundary.** -/
theorem mem_spacesTrail {text : List Char} {offset : Nat} (boundary : IsCharBoundary text offset) :
    ⟨offset, spacedPosition text offset⟩ ∈ spacesTrail text 0 false 0 := by
  obtain ⟨before, after, rfl, rfl⟩ := boundary
  obtain ⟨_, walked, trail⟩ := insertSpaces_append before after 0 false 0
  rw [trail, spacedPosition_append, ← spaceInFront_eq, Nat.zero_add, Nat.zero_add]
  exact List.mem_append_right _ (start_mem_spacesTrail after _ _ _)

theorem spacedPosition_boundary {text : List Char} {offset : Nat}
    (boundary : IsCharBoundary text offset) :
    IsCharBoundary (insertSpaceBeforeUppercase text) (spacedPosition text offset) := by
  obtain ⟨before, after, rfl, rfl⟩ := boundary
  obtain ⟨split, _⟩ := insertSpaces_append before after 0 false 0
  rw [spacedPosition_append, ← spaceInFront_eq]
  cases after with
  | nil =>
      refine ⟨_, [], ?_, rfl⟩
      rw [List.append_nil, List.append_nil]
  | cons character rest =>
      rw [insertSpacesAfter_cons, ← List.append_assoc] at split
      refine ⟨_, _, split, ?_⟩
      rw [String.utf8Len_append, utf8Len_spaces]
      rfl

/-- Spacing a text does not make it shorter. -/
theorem le_spacedPosition {text : List Char} {offset : Nat}
    (boundary : IsCharBoundary text offset) : offset ≤ spacedPosition text offset := by
  obtain ⟨before, after, rfl, rfl⟩ := boundary
  rw [spacedPosition_append]
  refine Nat.le_trans ?_ (Nat.le_add_right _ _)
  have longer : ∀ (previousLower : Bool) (text : List Char),
      utf8Len text ≤ utf8Len (insertSpacesAfter previousLower text) := by
    intro previousLower text
    induction text generalizing previousLower with
    | nil => exact Nat.le_refl _
    | cons character rest ih =>
        have tail := ih (isLowercase character)
        rw [insertSpacesAfter_cons, String.utf8Len_append, String.utf8Len_cons, String.utf8Len_cons]
        omega
  exact longer false before

/-- The second pass writes the spaced text, whatever is asked for. -/
theorem insertSpaceBeforeUppercaseWithOffsets_text (text : List Char) (offsets : List Nat) :
    insertSpaceBeforeUppercaseWithOffsets text offsets =
      (insertSpaceBeforeUppercase text,
        ((OffsetMapper.new offsets).recordAll (spacesTrail text 0 false 0)).finish) := by
  obtain ⟨written, recorded⟩ :=
    insertSpacesRecording_eq text 0 false [] (OffsetMapper.new offsets)
  rw [List.nil_append, Nat.zero_add] at recorded
  rw [List.nil_append] at written
  unfold insertSpaceBeforeUppercaseWithOffsets
  dsimp only
  rw [written, recorded]
  rfl

/-- **The second pass.** -/
theorem insertSpaceBeforeUppercaseWithOffsets_eq (text : List Char) {offsets : List Nat}
    (boundaries : ∀ offset ∈ offsets, IsCharBoundary text offset) :
    insertSpaceBeforeUppercaseWithOffsets text offsets =
      (insertSpaceBeforeUppercase text,
        offsets.map fun offset => asU32 (spacedPosition text offset)) := by
  have answers := OffsetMapper.finish_recordAll (spacesTrail_ascends text 0 false 0).1
    fun offset member => mem_spacesTrail (boundaries offset member)
  rw [insertSpaceBeforeUppercaseWithOffsets_text, answers]

/-! ## Both passes -/

/-- Where the preparation puts a boundary of the text. -/
def preparedPosition (state : TtsState) (text : List Char) (offset : Nat) : Nat :=
  let position := punctuatedPosition state.punctuationTable text offset
  if state.splitCaps then
    spacedPosition (applyPunctuationTable state.punctuationTable text) position
  else position

/-- **Positions in the prepared text.** Boundaries come out as boundaries in their
order, the ends at the ends. A boundary that is not inside a separator comes out
behind the preparation of the text before it, and behind a space that is put right
there. One inside a separator comes out behind the separator's single space. -/
structure PreparedPositions (state : TtsState) (text : List Char) : Prop where
  start : preparedPosition state text 0 = 0
  finish : preparedPosition state text (utf8Len text) = utf8Len (prepareSpeechText text state).text
  boundary : ∀ offset, IsCharBoundary text offset →
    IsCharBoundary (prepareSpeechText text state).text (preparedPosition state text offset)
  monotone : ∀ first second, IsCharBoundary text first → IsCharBoundary text second →
    first ≤ second → preparedPosition state text first ≤ preparedPosition state text second
  outside : ∀ before after, text = before ++ after → ¬ InsideSeparator before after →
    preparedPosition state text (utf8Len before) =
      utf8Len (prepareSpeechText before state).text +
        if state.splitCaps && insertsSpace (applyPunctuationTable state.punctuationTable before)
          (applyPunctuationTable state.punctuationTable after) then 1 else 0
  inside : ∀ before after, text = before ++ legacySpeechSeparator ++ after →
    ∀ offset, utf8Len before < offset → offset < utf8Len (before ++ legacySpeechSeparator) →
      preparedPosition state text offset = utf8Len (prepareSpeechText before state).text + 1 ∧
        (prepareSpeechText before state).text ++ [' '] <+: (prepareSpeechText text state).text

section Positions

variable (state : TtsState) {text : List Char}

theorem preparedPosition_outside {before after : List Char}
    (outside : ¬ InsideSeparator before after) :
    preparedPosition state (before ++ after) (utf8Len before) =
      utf8Len (prepareSpeechText before state).text +
        if state.splitCaps && insertsSpace (applyPunctuationTable state.punctuationTable before)
          (applyPunctuationTable state.punctuationTable after) then 1 else 0 := by
  obtain ⟨split, _⟩ := punctuate_append state.punctuationTable outside 0 0
  unfold preparedPosition prepareSpeechText
  dsimp only
  rw [punctuatedPosition_outside state.punctuationTable outside, split]
  cases state.splitCaps with
  | false => rfl
  | true =>
      rw [if_pos rfl, if_pos rfl, spacedPosition_append, Bool.true_and]

/-- The space of a separator is a space of the prepared text. -/
theorem prepareSpeechText_separator (before after : List Char) :
    (prepareSpeechText before state).text ++ [' '] <+:
      (prepareSpeechText (before ++ legacySpeechSeparator ++ after) state).text := by
  have text : before ++ legacySpeechSeparator ++ after = before ++ '[' :: '*' :: ']' :: after :=
    List.append_assoc _ _ _
  obtain ⟨split, _⟩ :=
    punctuate_append state.punctuationTable (not_inside_separator before after) 0 0
  unfold prepareSpeechText
  dsimp only
  rw [text, split, applyPunctuationTable_separator]
  cases state.splitCaps with
  | false => exact ⟨_, List.append_assoc _ _ _⟩
  | true =>
      obtain ⟨spaced, _⟩ := insertSpaces_append
        (applyPunctuationTable state.punctuationTable before)
        (' ' :: applyPunctuationTable state.punctuationTable after) 0 false 0
      rw [if_pos rfl, if_pos rfl, insertSpaceBeforeUppercase, insertSpaceBeforeUppercase, spaced]
      rw [insertSpacesAfter_cons, spaceBefore, isUppercase_space]
      exact ⟨_, List.append_assoc _ _ _⟩

theorem preparedPosition_inside {before after : List Char} {offset : Nat}
    (behind : utf8Len before < offset) (ahead : offset < utf8Len (before ++ legacySpeechSeparator)) :
    preparedPosition state (before ++ legacySpeechSeparator ++ after) offset =
      utf8Len (prepareSpeechText before state).text + 1 := by
  have text : before ++ legacySpeechSeparator ++ after = before ++ '[' :: '*' :: ']' :: after :=
    List.append_assoc _ _ _
  rw [String.utf8Len_append] at ahead
  obtain ⟨split, _⟩ :=
    punctuate_append state.punctuationTable (not_inside_separator before after) 0 0
  unfold preparedPosition prepareSpeechText
  dsimp only
  rw [text, punctuatedPosition_inside state.punctuationTable before after behind ahead, split,
    applyPunctuationTable_separator]
  cases state.splitCaps with
  | false => rfl
  | true =>
      rw [if_pos rfl, if_pos rfl]
      have regroup : applyPunctuationTable state.punctuationTable before ++
          ' ' :: applyPunctuationTable state.punctuationTable after =
            (applyPunctuationTable state.punctuationTable before ++ [' ']) ++
              applyPunctuationTable state.punctuationTable after := by
        rw [List.append_assoc]
        rfl
      have bytes : utf8Len (applyPunctuationTable state.punctuationTable before) + 1 =
          utf8Len (applyPunctuationTable state.punctuationTable before ++ [' ']) := by
        rw [String.utf8Len_append]
        rfl
      -- no space is put behind a space, and none in front of one
      have none : insertsSpace (applyPunctuationTable state.punctuationTable before ++ [' '])
          (applyPunctuationTable state.punctuationTable after) = false := by
        rw [insertsSpace, List.getLast?_concat, Option.any_some, isLowercase_space, Bool.and_false]
      obtain ⟨spaced, _⟩ := insertSpaces_append
        (applyPunctuationTable state.punctuationTable before) [' '] 0 false 0
      rw [bytes, regroup, spacedPosition_append, none, if_neg Bool.false_ne_true, Nat.add_zero,
        insertSpaceBeforeUppercase, insertSpaceBeforeUppercase, spaced, String.utf8Len_append,
        insertSpacesAfter_cons, spaceBefore, isUppercase_space]
      rfl

/-- **The positions are what they should be.** -/
theorem preparedPositions (state : TtsState) (text : List Char) : PreparedPositions state text where
  start := by
    have nothing : ¬ InsideSeparator [] text := by
      rintro (⟨first, _⟩ | ⟨first, _⟩)
      · exact absurd (List.suffix_nil.mp first) (List.cons_ne_nil _ _)
      · exact absurd (List.suffix_nil.mp first) (List.cons_ne_nil _ _)
    have position := preparedPosition_outside state nothing
    rw [applyPunctuationTable, insertsSpace, List.getLast?_nil, Option.any_none, Bool.and_false,
      Bool.and_false] at position
    refine position.trans ?_
    unfold prepareSpeechText
    cases state.splitCaps with
    | false => rfl
    | true => rfl
  finish := by
    have nothing : ¬ InsideSeparator text [] := by
      rintro (⟨_, second⟩ | ⟨_, second⟩)
      · exact absurd (List.prefix_nil.mp second) (List.cons_ne_nil _ _)
      · exact absurd (List.prefix_nil.mp second) (List.cons_ne_nil _ _)
    have position := preparedPosition_outside state nothing
    rw [List.append_nil, applyPunctuationTable, insertsSpace, List.head?_nil, Option.any_none,
      Bool.false_and, Bool.and_false] at position
    exact position
  boundary := by
    intro offset boundary
    have punctuated := punctuatedPosition_boundary state.punctuationTable boundary
    unfold preparedPosition prepareSpeechText
    dsimp only
    cases state.splitCaps with
    | false => exact punctuated
    | true => exact spacedPosition_boundary punctuated
  monotone := by
    intro first second boundaryFirst boundarySecond before
    have punctuated := (punctuationTrail_ascends state.punctuationTable text 0 0).1.mono
      (mem_punctuationTrail state.punctuationTable boundaryFirst)
      (mem_punctuationTrail state.punctuationTable boundarySecond) before
    unfold preparedPosition
    dsimp only
    cases state.splitCaps with
    | false => exact punctuated
    | true =>
        exact (spacesTrail_ascends _ 0 false 0).1.mono
          (mem_spacesTrail (punctuatedPosition_boundary state.punctuationTable boundaryFirst))
          (mem_spacesTrail (punctuatedPosition_boundary state.punctuationTable boundarySecond))
          punctuated
  outside := by
    rintro before after rfl outside
    exact preparedPosition_outside state outside
  inside := by
    rintro before after rfl offset behind ahead
    exact ⟨preparedPosition_inside state behind ahead, prepareSpeechText_separator state before after⟩

/-- The text is prepared as without offsets, whatever is asked for, and every answer
is a `u32`. -/
theorem prepareSpeechTextWithOffsets_text (offsets : List Nat) :
    (prepareSpeechTextWithOffsets text state offsets).1 = prepareSpeechText text state ∧
      ∀ answer ∈ (prepareSpeechTextWithOffsets text state offsets).2, answer ≤ wordMax 32 := by
  obtain ⟨written, recorded⟩ :=
    punctuateRecording_eq state.punctuationTable text 0 [] (OffsetMapper.new offsets)
  rw [List.nil_append, Nat.zero_add] at recorded
  rw [List.nil_append] at written
  have zeros : ∀ (requests : List Nat), ∀ answer ∈ (OffsetMapper.new requests).mapped,
      answer ≤ wordMax 32 := by
    intro requests answer member
    rw [List.eq_of_mem_replicate member]
    exact Nat.zero_le _
  have first : applyPunctuationWithOffsets text state.punctuationTable offsets =
      (applyPunctuationTable state.punctuationTable text,
        ((OffsetMapper.new offsets).recordAll
          (punctuationTrail state.punctuationTable text 0 0)).finish) := by
    unfold applyPunctuationWithOffsets
    dsimp only
    rw [written, recorded]
    rfl
  unfold prepareSpeechTextWithOffsets prepareSpeechText
  rw [first]
  dsimp only
  cases state.splitCaps with
  | false => exact ⟨rfl, OffsetMapper.recordAll_le _ _ (zeros offsets)⟩
  | true =>
      rw [if_pos rfl, if_pos rfl, insertSpaceBeforeUppercaseWithOffsets_text]
      exact ⟨rfl, OffsetMapper.recordAll_le _ _ (zeros _)⟩

/-- The answers, where the positions fit a `u32`. -/
theorem prepareSpeechTextWithOffsets_offsets {offsets : List Nat}
    (boundaries : ∀ offset ∈ offsets, IsCharBoundary text offset)
    (fits : ∀ offset ∈ offsets, preparedPosition state text offset ≤ wordMax 32) :
    (prepareSpeechTextWithOffsets text state offsets).2 =
      offsets.map (preparedPosition state text) := by
  have passes := applyPunctuationWithOffsets_eq state.punctuationTable text boundaries
  unfold prepareSpeechTextWithOffsets
  rw [passes]
  unfold preparedPosition at fits ⊢
  dsimp only at fits ⊢
  cases split : state.splitCaps with
  | false =>
      rw [split] at fits
      refine List.map_congr_left fun offset member => ?_
      exact asU32_of_le (fits offset member)
  | true =>
      rw [split] at fits
      have punctuated : ∀ offset ∈ offsets, IsCharBoundary
          (applyPunctuationTable state.punctuationTable text)
          (punctuatedPosition state.punctuationTable text offset) :=
        fun offset member =>
          punctuatedPosition_boundary state.punctuationTable (boundaries offset member)
      have exact_first : (offsets.map fun offset =>
          asU32 (punctuatedPosition state.punctuationTable text offset)) =
            offsets.map (punctuatedPosition state.punctuationTable text) := by
        refine List.map_congr_left fun offset member => ?_
        have longer := le_spacedPosition (punctuated offset member)
        exact asU32_of_le (longer.trans (fits offset member))
      have spaced : ∀ position ∈ offsets.map (punctuatedPosition state.punctuationTable text),
          IsCharBoundary (applyPunctuationTable state.punctuationTable text) position := by
        intro position member
        obtain ⟨offset, asked, rfl⟩ := List.mem_map.mp member
        exact punctuated offset asked
      rw [if_pos rfl, exact_first, insertSpaceBeforeUppercaseWithOffsets_eq _ spaced, List.map_map]
      refine List.map_congr_left fun offset member => ?_
      exact asU32_of_le (fits offset member)

/-- **Tracking offsets never changes speech.** The text is prepared as without
offsets. The requested offsets come out at their positions in the prepared text, in
the order of the request, exactly when each of these fits a `u32`. -/
theorem prepareSpeechTextWithOffsets_tracks (state : TtsState) {text : List Char}
    {offsets : List Nat} (boundaries : ∀ offset ∈ offsets, IsCharBoundary text offset) :
    (prepareSpeechTextWithOffsets text state offsets).1 = prepareSpeechText text state ∧
      ((prepareSpeechTextWithOffsets text state offsets).2 =
          offsets.map (preparedPosition state text) ↔
        ∀ offset ∈ offsets, preparedPosition state text offset ≤ wordMax 32) ∧
      PreparedPositions state text := by
  obtain ⟨same, small⟩ : _ ∧ ∀ answer ∈ (prepareSpeechTextWithOffsets text state offsets).2, _ :=
    prepareSpeechTextWithOffsets_text state offsets
  refine ⟨same, ⟨?_, ?_⟩, preparedPositions state text⟩
  · intro answers offset member
    rw [answers] at small
    exact small _ (List.mem_map_of_mem member)
  · intro fits
    exact prepareSpeechTextWithOffsets_offsets state boundaries fits

end Positions

end Preparation

/-! ## A prepared text of six gigabytes -/

/-- Letter case in ASCII texts. -/
instance asciiCase : UnicodeCase where
  uppercase _ := false
  lowercase _ := false

/-- Only the exclamation mark has a spoken name. -/
def bangTable : PunctuationTable := fun character =>
  if character = '!' then some (some ['b', 'a', 'n', 'g']) else none

def bangState (splitCaps : Bool) : TtsState where
  punctuationTables := ⟨bangTable, bangTable, bangTable, fun _ => none⟩
  punctuationLevel := .all
  punctuationProfile := none
  splitCaps := splitCaps
  selected := by
    intro id chosen
    cases chosen

theorem prepareSpeechTextWithOffsets_tracks_separator :
    (prepareSpeechTextWithOffsets ['a', '[', '*', ']', '!'] (bangState true) [5, 2, 0]).1 =
        prepareSpeechText ['a', '[', '*', ']', '!'] (bangState true) ∧
      ((prepareSpeechTextWithOffsets ['a', '[', '*', ']', '!'] (bangState true) [5, 2, 0]).2 =
          [5, 2, 0].map (preparedPosition (bangState true) ['a', '[', '*', ']', '!']) ↔
        ∀ offset ∈ [5, 2, 0],
          preparedPosition (bangState true) ['a', '[', '*', ']', '!'] offset ≤ wordMax 32) ∧
      PreparedPositions (bangState true) ['a', '[', '*', ']', '!'] := by
  have boundaries : ∀ offset ∈ [5, 2, 0], IsCharBoundary ['a', '[', '*', ']', '!'] offset := by
    intro offset member
    simp only [List.mem_cons, List.not_mem_nil, or_false] at member
    rcases member with rfl | rfl | rfl
    · exact ⟨['a', '[', '*', ']', '!'], [], rfl, rfl⟩
    · exact ⟨['a', '['], ['*', ']', '!'], rfl, rfl⟩
    · exact ⟨[], ['a', '[', '*', ']', '!'], rfl, rfl⟩
  exact prepareSpeechTextWithOffsets_tracks (bangState true) boundaries

theorem utf8Len_bangs (count : Nat) :
    utf8Len (List.replicate count '!') = count ∧
      utf8Len (applyPunctuationTable bangTable (List.replicate count '!')) = 6 * count := by
  induction count with
  | zero => exact ⟨rfl, rfl⟩
  | succ count ih =>
      have other : ¬ legacySpeechSeparator <+: '!' :: List.replicate count '!' := by
        rintro ⟨tail, same⟩
        exact absurd (List.cons.inj same).1 (by decide)
      have size : Char.utf8Size '!' = 1 := rfl
      have name : utf8Len (spoken bangTable '!') = 6 := rfl
      rw [List.replicate_succ, String.utf8Len_cons, applyPunctuationTable_character bangTable other,
        String.utf8Len_append, size, name]
      omega

/-- The end of a text of exclamation marks. -/
theorem prepareSpeechTextWithOffsets_bangs (count : Nat) :
    IsCharBoundary (List.replicate count '!') count ∧
      utf8Len (prepareSpeechText (List.replicate count '!') (bangState false)).text = 6 * count ∧
      (prepareSpeechTextWithOffsets (List.replicate count '!') (bangState false) [count]).2 =
        [asU32 (6 * count)] := by
  obtain ⟨bytes, spokenBytes⟩ := utf8Len_bangs count
  have boundary : IsCharBoundary (List.replicate count '!') count :=
    ⟨_, [], (List.append_nil _).symm, bytes⟩
  have nothing : ¬ InsideSeparator (List.replicate count '!') [] := by
    rintro (⟨_, second⟩ | ⟨_, second⟩)
    · exact absurd (List.prefix_nil.mp second) (List.cons_ne_nil _ _)
    · exact absurd (List.prefix_nil.mp second) (List.cons_ne_nil _ _)
  have position := punctuatedPosition_outside bangTable nothing
  rw [List.append_nil, bytes, spokenBytes] at position
  have asked : ∀ offset ∈ [count], IsCharBoundary (List.replicate count '!') offset := by
    intro offset member
    rwa [List.mem_singleton.mp member]
  have answers := applyPunctuationWithOffsets_eq bangTable _ asked
  rw [List.map_cons, List.map_nil, position] at answers
  exact ⟨boundary, spokenBytes, congrArg Prod.snd answers⟩

/-- The end of a gigabyte of exclamation marks, spoken in six, comes out at two. -/
theorem prepareSpeechTextWithOffsets_wraps :
    IsCharBoundary (List.replicate (2 ^ 30) '!') (2 ^ 30) ∧
      utf8Len (List.replicate (2 ^ 30) '!') = 2 ^ 30 ∧
      utf8Len (prepareSpeechText (List.replicate (2 ^ 30) '!') (bangState false)).text =
        6 * 2 ^ 30 ∧
      (prepareSpeechTextWithOffsets (List.replicate (2 ^ 30) '!') (bangState false)
        [2 ^ 30]).2 = [2 * 2 ^ 30] := by
  obtain ⟨boundary, spokenBytes, answers⟩ := prepareSpeechTextWithOffsets_bangs (2 ^ 30)
  have wrapped : asU32 (6 * 2 ^ 30) = 2 * 2 ^ 30 := by decide
  rw [wrapped] at answers
  exact ⟨boundary, (utf8Len_bangs (2 ^ 30)).1, spokenBytes, answers⟩

end Omnivox.Text
