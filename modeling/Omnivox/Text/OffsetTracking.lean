import Mathlib
import Omnivox.Foundations.Landmarks
import Omnivox.Text.OffsetMapper
import Omnivox.Text.Preparation
import Omnivox.Text.SourceOffsets

/-!
# Tracking offsets never changes speech

Both scanners with offsets write what the plain ones write, and their stops are
an ascending trail that meets every character boundary. So the requested offsets
come out where their part of the text is prepared, as far as a `u32` can say
(`prepareSpeechTextWithOffsets_tracks`).
-/

set_option autoImplicit false

namespace Omnivox.Text

open Foundations
open String (utf8Len)

/-! ## Boundaries -/

/-- `is_char_boundary`: the offset is the length of some beginning of the text. -/
def IsCharBoundary (text : List Char) (offset : Nat) : Prop :=
  ∃ before after, text = before ++ after ∧ utf8Len before = offset

/-- The text before a byte offset and the text behind it. -/
def splitAtByte : List Char → Nat → List Char × List Char
  | text, 0 => ([], text)
  | [], _ + 1 => ([], [])
  | character :: rest, offset + 1 =>
      let (before, after) := splitAtByte rest (offset + 1 - character.utf8Size)
      (character :: before, after)

theorem splitAtByte_append (before after : List Char) :
    splitAtByte (before ++ after) (utf8Len before) = (before, after) := by
  induction before with
  | nil => cases after <;> rfl
  | cons character rest ih =>
      obtain ⟨size, wide⟩ := Nat.exists_eq_add_one_of_ne_zero (Char.utf8Size_pos character).ne'
      rw [List.cons_append, String.utf8Len_cons, wide, ← Nat.add_assoc, splitAtByte, wide]
      rw [Nat.add_assoc, Nat.add_sub_cancel, ih]

/-- The boundary lies behind the first or the second character of a separator. -/
def InsideSeparator (before after : List Char) : Prop :=
  ['['] <:+ before ∧ ['*', ']'] <+: after ∨ ['[', '*'] <:+ before ∧ [']'] <+: after

instance (before after : List Char) : Decidable (InsideSeparator before after) :=
  inferInstanceAs (Decidable (_ ∨ _))

theorem utf8Size_space : Char.utf8Size ' ' = 1 := rfl

theorem utf8Len_separator (rest : List Char) :
    utf8Len ('[' :: '*' :: ']' :: rest) = utf8Len rest + 3 := rfl

/-- No separator starts with the last characters of a text unless the boundary
behind the text is inside it. -/
theorem not_separator_append {c : Char} {rest after : List Char}
    (other : ¬ legacySpeechSeparator <+: c :: rest)
    (outside : ¬ InsideSeparator (c :: rest) after) :
    ¬ legacySpeechSeparator <+: c :: (rest ++ after) := by
  rintro ⟨tail, same⟩
  obtain ⟨rfl, further⟩ := List.cons.inj same
  cases rest with
  | nil => exact outside (Or.inl ⟨List.suffix_refl _, tail, further⟩)
  | cons d rest =>
      obtain ⟨rfl, last⟩ := List.cons.inj further
      cases rest with
      | nil => exact outside (Or.inr ⟨List.suffix_refl _, tail, last⟩)
      | cons e rest =>
          obtain ⟨rfl, _⟩ := List.cons.inj last
          exact other ⟨rest, rfl⟩

/-! ## Induction along the scan -/

/-- **Scan induction**: a text is empty, starts with a separator, or starts with a
character that does not start one. -/
theorem scan_induction {motive : List Char → Prop} (empty : motive [])
    (separator : ∀ rest, motive rest → motive ('[' :: '*' :: ']' :: rest))
    (character : ∀ c rest, ¬ legacySpeechSeparator <+: c :: rest → motive rest →
      motive (c :: rest)) (text : List Char) : motive text := by
  induction text using applyPunctuationTable.induct with
  | case1 => exact empty
  | case2 rest ih => exact separator rest ih
  | case3 c rest other ih =>
      refine character c rest ?_ ih
      rintro ⟨tail, same⟩
      obtain ⟨first, further⟩ := List.cons.inj same
      exact other tail first.symm further.symm

section Punctuation

variable (table : PunctuationTable)

theorem applyPunctuationTable_separator (rest : List Char) :
    applyPunctuationTable table ('[' :: '*' :: ']' :: rest) =
      ' ' :: applyPunctuationTable table rest := rfl

theorem applyPunctuationTable_character {c : Char} {rest : List Char}
    (other : ¬ legacySpeechSeparator <+: c :: rest) :
    applyPunctuationTable table (c :: rest) = spoken table c ++ applyPunctuationTable table rest := by
  rw [applyPunctuationTable]
  rintro tail rfl rfl
  exact other ⟨tail, rfl⟩

theorem punctuateRecording_character {c : Char} {rest : List Char}
    (other : ¬ legacySpeechSeparator <+: c :: rest) (position : Nat) (output : List Char)
    (mapped : OffsetMapper) :
    punctuateRecording table (c :: rest) position output mapped =
      punctuateRecording table rest (position + c.utf8Size) (output ++ spoken table c)
        (mapped.record position (utf8Len output)) := by
  rw [punctuateRecording]
  rintro tail rfl rfl
  exact other ⟨tail, rfl⟩

/-! ## The trail of the first pass -/

/-- Where the scanner of `applyPunctuationWithOffsets` stops. -/
def punctuationTrail : List Char → Nat → Nat → List Landmark
  | [], position, length => [⟨position, length⟩]
  | '[' :: '*' :: ']' :: rest, position, length =>
      ⟨position, length⟩ :: ⟨position + 1, length + 1⟩ :: ⟨position + 2, length + 1⟩ ::
        ⟨position + 3, length + 1⟩ :: punctuationTrail rest (position + 3) (length + 1)
  | character :: rest, position, length =>
      ⟨position, length⟩ ::
        punctuationTrail rest (position + character.utf8Size)
          (length + utf8Len (spoken table character))

theorem punctuationTrail_character {c : Char} {rest : List Char}
    (other : ¬ legacySpeechSeparator <+: c :: rest) (position length : Nat) :
    punctuationTrail table (c :: rest) position length =
      ⟨position, length⟩ ::
        punctuationTrail table rest (position + c.utf8Size) (length + utf8Len (spoken table c)) := by
  rw [punctuationTrail]
  rintro tail rfl rfl
  exact other ⟨tail, rfl⟩

/-- The scanner writes the prepared text and records its trail. -/
theorem punctuateRecording_eq (text : List Char) (position : Nat) (output : List Char)
    (mapped : OffsetMapper) :
    (punctuateRecording table text position output mapped).1 =
        output ++ applyPunctuationTable table text ∧
      (punctuateRecording table text position output mapped).2.record (position + utf8Len text)
          (utf8Len (output ++ applyPunctuationTable table text)) =
        mapped.recordAll (punctuationTrail table text position (utf8Len output)) := by
  induction text using scan_induction generalizing position output mapped with
  | empty =>
      refine ⟨(List.append_nil output).symm, ?_⟩
      rw [applyPunctuationTable, List.append_nil]
      rfl
  | separator rest ih =>
      obtain ⟨written, recorded⟩ := ih (position + 3) (output ++ [' '])
        ([1, 2, 3].foldl (fun mapped boundary => mapped.record (position + boundary)
          (utf8Len (output ++ [' ']))) (mapped.record position (utf8Len output)))
      have grown : utf8Len (output ++ [' ']) = utf8Len output + 1 := String.utf8Len_append _ _
      have bytes : position + 3 + utf8Len rest = position + utf8Len ('[' :: '*' :: ']' :: rest) := by
        rw [utf8Len_separator]
        omega
      have joined : output ++ [' '] ++ applyPunctuationTable table rest =
          output ++ applyPunctuationTable table ('[' :: '*' :: ']' :: rest) :=
        List.append_assoc _ _ _
      rw [joined, grown] at written recorded
      rw [bytes] at recorded
      rw [punctuateRecording, grown, punctuationTrail]
      refine ⟨written, recorded.trans ?_⟩
      rw [OffsetMapper.recordAll_cons, OffsetMapper.recordAll_cons, OffsetMapper.recordAll_cons,
        OffsetMapper.recordAll_cons]
      rfl
  | character c rest other ih =>
      obtain ⟨written, recorded⟩ := ih (position + c.utf8Size) (output ++ spoken table c)
        (mapped.record position (utf8Len output))
      have bytes : position + c.utf8Size + utf8Len rest = position + utf8Len (c :: rest) := by
        rw [String.utf8Len_cons]
        omega
      have joined : output ++ spoken table c ++ applyPunctuationTable table rest =
          output ++ applyPunctuationTable table (c :: rest) := by
        rw [List.append_assoc, applyPunctuationTable_character table other]
      rw [joined] at written recorded
      rw [bytes, String.utf8Len_append output (spoken table c)] at recorded
      rw [punctuateRecording_character table other, punctuationTrail_character table other]
      exact ⟨written, recorded⟩

/-- The trail starts where the scanner starts. -/
theorem start_mem_punctuationTrail (text : List Char) (position length : Nat) :
    ⟨position, length⟩ ∈ punctuationTrail table text position length := by
  induction text using scan_induction with
  | empty => exact List.mem_singleton.mpr rfl
  | separator rest _ => exact List.mem_cons_self
  | character c rest other _ =>
      rw [punctuationTrail_character table other]
      exact List.mem_cons_self

/-- **The stops of the first pass ascend.** -/
theorem punctuationTrail_ascends (text : List Char) (position length : Nat) :
    AscendsFrom ⟨position, length⟩ (punctuationTrail table text position length) := by
  induction text using scan_induction generalizing position length with
  | empty => exact ascendsFrom_singleton _
  | separator rest ih =>
      have inner : ∀ {first second : Nat}, first < second →
          Landmark.Advances ⟨first, length + 1⟩ ⟨second, length + 1⟩ :=
        fun early => Or.inr ⟨early, Nat.le_refl _⟩
      have space : Landmark.Advances ⟨position, length⟩ ⟨position + 1, length + 1⟩ :=
        Or.inr ⟨Nat.lt_succ_self _, Nat.le_succ _⟩
      have first : Landmark.Advances ⟨position + 1, length + 1⟩ ⟨position + 2, length + 1⟩ :=
        inner (Nat.lt_succ_self _)
      have second : Landmark.Advances ⟨position + 2, length + 1⟩ ⟨position + 3, length + 1⟩ :=
        inner (Nat.lt_succ_self _)
      have last := (ih (position + 3) (length + 1)).cons (Landmark.Advances.refl _)
      exact ((last.cons second).cons first).cons space
  | character c rest other ih =>
      rw [punctuationTrail_character table other]
      refine (ih (position + c.utf8Size) (length + utf8Len (spoken table c))).cons ?_
      exact Or.inr ⟨Nat.lt_add_of_pos_right (Char.utf8Size_pos c), Nat.le_add_right _ _⟩

/-- **The boundary behind a text.** Unless it lies inside a separator, the scanner
comes to it with the text prepared. -/
theorem punctuate_append {before after : List Char} (outside : ¬ InsideSeparator before after)
    (position length : Nat) :
    applyPunctuationTable table (before ++ after) =
        applyPunctuationTable table before ++ applyPunctuationTable table after ∧
      ∃ walked, punctuationTrail table (before ++ after) position length =
        walked ++ punctuationTrail table after (position + utf8Len before)
          (length + utf8Len (applyPunctuationTable table before)) := by
  induction before using scan_induction generalizing position length with
  | empty => exact ⟨rfl, [], rfl⟩
  | separator rest ih =>
      have further : ¬ InsideSeparator rest after := by
        rintro (⟨first, second⟩ | ⟨first, second⟩)
        · exact outside (Or.inl ⟨first.trans (List.suffix_append ['[', '*', ']'] rest), second⟩)
        · exact outside (Or.inr ⟨first.trans (List.suffix_append ['[', '*', ']'] rest), second⟩)
      obtain ⟨text, walked, trail⟩ := ih further (position + 3) (length + 1)
      have bytes : position + 3 + utf8Len rest = position + utf8Len ('[' :: '*' :: ']' :: rest) := by
        rw [utf8Len_separator]
        omega
      have written : length + 1 + utf8Len (applyPunctuationTable table rest) =
          length + utf8Len (applyPunctuationTable table ('[' :: '*' :: ']' :: rest)) := by
        rw [applyPunctuationTable_separator, String.utf8Len_cons, utf8Size_space]
        omega
      rw [bytes, written] at trail
      refine ⟨congrArg (' ' :: ·) text, ⟨position, length⟩ :: ⟨position + 1, length + 1⟩ ::
        ⟨position + 2, length + 1⟩ :: ⟨position + 3, length + 1⟩ :: walked, ?_⟩
      simp only [List.cons_append, ← trail]
      rfl
  | character c rest other ih =>
      have further : ¬ InsideSeparator rest after := by
        rintro (⟨first, second⟩ | ⟨first, second⟩)
        · exact outside (Or.inl ⟨first.trans (List.suffix_cons c rest), second⟩)
        · exact outside (Or.inr ⟨first.trans (List.suffix_cons c rest), second⟩)
      have still : ¬ legacySpeechSeparator <+: c :: (rest ++ after) :=
        not_separator_append other outside
      obtain ⟨text, walked, trail⟩ :=
        ih further (position + c.utf8Size) (length + utf8Len (spoken table c))
      have bytes : position + c.utf8Size + utf8Len rest = position + utf8Len (c :: rest) := by
        rw [String.utf8Len_cons]
        omega
      rw [bytes, Nat.add_assoc length, ← String.utf8Len_append,
        ← applyPunctuationTable_character table other] at trail
      rw [List.cons_append, applyPunctuationTable_character table still,
        punctuationTrail_character table still, text, trail,
        applyPunctuationTable_character table other, List.append_assoc]
      exact ⟨rfl, _ :: walked, rfl⟩

/-- Where the first pass puts a boundary of the text: behind what is prepared up to
it, and behind the space of a separator that it lies in. -/
def punctuatedPosition (text : List Char) (offset : Nat) : Nat :=
  let parts := splitAtByte text offset
  if ['['] <:+ parts.1 ∧ ['*', ']'] <+: parts.2 then
    utf8Len (applyPunctuationTable table parts.1.dropLast) + 1
  else if ['[', '*'] <:+ parts.1 ∧ [']'] <+: parts.2 then
    utf8Len (applyPunctuationTable table parts.1.dropLast.dropLast) + 1
  else utf8Len (applyPunctuationTable table parts.1)

theorem punctuatedPosition_outside {before after : List Char}
    (outside : ¬ InsideSeparator before after) :
    punctuatedPosition table (before ++ after) (utf8Len before) =
      utf8Len (applyPunctuationTable table before) := by
  unfold punctuatedPosition
  rw [splitAtByte_append]
  obtain ⟨first, second⟩ := not_or.mp outside
  rw [if_neg first, if_neg second]

/-- A boundary in front of a separator is not inside one. -/
theorem not_inside_separator (before rest : List Char) :
    ¬ InsideSeparator before ('[' :: '*' :: ']' :: rest) := by
  rintro (⟨_, tail, same⟩ | ⟨_, tail, same⟩)
  · exact absurd (List.cons.inj same).1 (by decide)
  · exact absurd (List.cons.inj same).1 (by decide)

theorem punctuatedPosition_inside (before rest : List Char) {offset : Nat}
    (behind : utf8Len before < offset) (ahead : offset < utf8Len before + 3) :
    punctuatedPosition table (before ++ '[' :: '*' :: ']' :: rest) offset =
      utf8Len (applyPunctuationTable table before) + 1 := by
  unfold punctuatedPosition
  obtain rfl | rfl : offset = utf8Len (before ++ ['[']) ∨ offset = utf8Len (before ++ ['[', '*']) := by
    rw [String.utf8Len_append, String.utf8Len_append]
    change offset = utf8Len before + 1 ∨ offset = utf8Len before + 2
    omega
  · have text : before ++ '[' :: '*' :: ']' :: rest = (before ++ ['[']) ++ '*' :: ']' :: rest := by
      rw [List.append_assoc]
      rfl
    rw [text, splitAtByte_append, if_pos ⟨List.suffix_append _ _, rest, rfl⟩, List.dropLast_concat]
  · have text : before ++ '[' :: '*' :: ']' :: rest = (before ++ ['[', '*']) ++ ']' :: rest := by
      rw [List.append_assoc]
      rfl
    have other : ¬ (['['] <:+ before ++ ['[', '*'] ∧ ['*', ']'] <+: ']' :: rest) := by
      rintro ⟨_, tail, same⟩
      exact absurd (List.cons.inj same).1 (by decide)
    have start : (before ++ ['[', '*']).dropLast.dropLast = before := by
      rw [show before ++ ['[', '*'] = before ++ ['['] ++ ['*'] by rw [List.append_assoc]; rfl,
        List.dropLast_concat, List.dropLast_concat]
    rw [text, splitAtByte_append, if_neg other, if_pos ⟨List.suffix_append _ _, rest, rfl⟩, start]

/-- A boundary lies outside every separator or inside one. -/
theorem boundary_cases {text : List Char} {offset : Nat} (boundary : IsCharBoundary text offset) :
    (∃ before after, text = before ++ after ∧ utf8Len before = offset ∧
        ¬ InsideSeparator before after) ∨
      ∃ before rest, text = before ++ '[' :: '*' :: ']' :: rest ∧
        utf8Len before < offset ∧ offset < utf8Len before + 3 := by
  obtain ⟨before, after, rfl, rfl⟩ := boundary
  by_cases inside : InsideSeparator before after
  · right
    rcases inside with ⟨⟨start, rfl⟩, rest, rfl⟩ | ⟨⟨start, rfl⟩, rest, rfl⟩
    · refine ⟨start, rest, ?_, ?_, ?_⟩
      · rw [List.append_assoc]
        rfl
      · rw [String.utf8Len_append]
        exact Nat.lt_succ_self _
      · rw [String.utf8Len_append]
        change utf8Len start + 1 < utf8Len start + 3
        omega
    · refine ⟨start, rest, ?_, ?_, ?_⟩
      · rw [List.append_assoc]
        rfl
      · rw [String.utf8Len_append]
        change utf8Len start < utf8Len start + 2
        omega
      · rw [String.utf8Len_append]
        exact Nat.lt_succ_self _
  · exact Or.inl ⟨before, after, rfl, rfl, inside⟩

/-- **The first pass stops at every boundary**, with the text prepared up to there. -/
theorem mem_punctuationTrail {text : List Char} {offset : Nat}
    (boundary : IsCharBoundary text offset) :
    ⟨offset, punctuatedPosition table text offset⟩ ∈ punctuationTrail table text 0 0 := by
  rcases boundary_cases boundary with ⟨before, after, rfl, rfl, outside⟩ |
    ⟨before, rest, rfl, behind, ahead⟩
  · obtain ⟨_, walked, trail⟩ := punctuate_append table outside 0 0
    rw [trail, punctuatedPosition_outside table outside, Nat.zero_add, Nat.zero_add]
    exact List.mem_append_right _ (start_mem_punctuationTrail table _ _ _)
  · obtain ⟨_, walked, trail⟩ := punctuate_append table (not_inside_separator before rest) 0 0
    rw [trail, punctuatedPosition_inside table before rest behind ahead, Nat.zero_add, Nat.zero_add]
    apply List.mem_append_right
    obtain rfl | rfl : offset = utf8Len before + 1 ∨ offset = utf8Len before + 2 := by omega
    · exact List.mem_cons_of_mem _ List.mem_cons_self
    · exact List.mem_cons_of_mem _ (List.mem_cons_of_mem _ List.mem_cons_self)

/-- A boundary comes out as a boundary. -/
theorem punctuatedPosition_boundary {text : List Char} {offset : Nat}
    (boundary : IsCharBoundary text offset) :
    IsCharBoundary (applyPunctuationTable table text) (punctuatedPosition table text offset) := by
  rcases boundary_cases boundary with ⟨before, after, rfl, rfl, outside⟩ |
    ⟨before, rest, rfl, behind, ahead⟩
  · obtain ⟨split, _⟩ := punctuate_append table outside 0 0
    exact ⟨_, _, split, (punctuatedPosition_outside table outside).symm⟩
  · obtain ⟨split, _⟩ := punctuate_append table (not_inside_separator before rest) 0 0
    refine ⟨applyPunctuationTable table before ++ [' '], applyPunctuationTable table rest, ?_, ?_⟩
    · rw [split, List.append_assoc]
      rfl
    · rw [punctuatedPosition_inside table before rest behind ahead, String.utf8Len_append]
      rfl

/-- **The first pass.** -/
theorem applyPunctuationWithOffsets_eq (text : List Char) {offsets : List Nat}
    (boundaries : ∀ offset ∈ offsets, IsCharBoundary text offset) :
    applyPunctuationWithOffsets text table offsets =
      (applyPunctuationTable table text,
        offsets.map fun offset => asU32 (punctuatedPosition table text offset)) := by
  obtain ⟨written, recorded⟩ := punctuateRecording_eq table text 0 [] (OffsetMapper.new offsets)
  rw [List.nil_append, Nat.zero_add] at recorded
  rw [List.nil_append] at written
  have answers := OffsetMapper.finish_recordAll (punctuationTrail_ascends table text 0 0).1
    fun offset member => mem_punctuationTrail table (boundaries offset member)
  unfold applyPunctuationWithOffsets
  dsimp only
  rw [written, recorded]
  exact congrArg (applyPunctuationTable table text, ·) answers

end Punctuation

end Omnivox.Text
