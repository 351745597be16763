import Mathlib
import Omnivox.Text.OffsetTracking
import Omnivox.Text.Whitespace

/-!
# Words and the spaces between them

A text is some space in front, and then words, each with the space behind it
(`exists_layout`). The words are what `split_whitespace` gives, and the byte range of a
word is told by the bytes in front of it.

A phrase is consecutive words with the spaces between them. It has exactly these words
(`splitWhitespace_phrase`), and is cut out of the text by its byte range.
-/

set_option autoImplicit false

namespace Omnivox.Text

open String (utf8Len)

/-! ## White space -/

/-- A text of white space only. -/
def Blank (text : List Char) : Prop := ∀ c ∈ text, isWhitespace c = true

/-- A text without white space, which is not empty. -/
structure IsWord (letters : List Char) : Prop where
  nonempty : letters ≠ []
  solid : ∀ c ∈ letters, isWhitespace c = false

@[simp] theorem splitWhitespace_nil : splitWhitespace [] = [] := by
  simp [splitWhitespace]

/-- **Words split at a space.** -/
theorem splitWhitespace_append {c : Char} (space : isWhitespace c = true)
    (before after : List Char) :
    splitWhitespace (before ++ c :: after) = splitWhitespace before ++ splitWhitespace after := by
  unfold splitWhitespace
  rw [List.splitOnP_append_cons before after space, List.filter_append]

theorem splitWhitespace_blank {gap : List Char} (blank : Blank gap) (text : List Char) :
    splitWhitespace (gap ++ text) = splitWhitespace text := by
  induction gap with
  | nil => rfl
  | cons c rest ih =>
      have here := splitWhitespace_append (blank c List.mem_cons_self) [] (rest ++ text)
      rw [List.nil_append, splitWhitespace_nil, List.nil_append] at here
      rw [List.cons_append, here, ih fun d member => blank d (List.mem_cons_of_mem _ member)]

theorem splitWhitespace_word {letters : List Char} (word : IsWord letters) :
    splitWhitespace letters = [letters] := by
  unfold splitWhitespace
  rw [List.splitOnP_eq_singleton fun c member => by simp [word.solid c member]]
  simp [word.nonempty]

/-! ## Layouts -/

/-- A word and the space behind it. -/
structure SpacedWord where
  letters : List Char
  gap : List Char

/-- The text of consecutive words, with all spaces behind them. -/
def spaced (words : List SpacedWord) : List Char :=
  words.flatMap fun word => word.letters ++ word.gap

/-- The text of consecutive words, without the space behind the last one. -/
def phrase : List SpacedWord → List Char
  | [] => []
  | [word] => word.letters
  | word :: next :: rest => word.letters ++ word.gap ++ phrase (next :: rest)

/-- Words are apart: only behind the last one there may be no space. -/
def Apart : List SpacedWord → Prop
  | [] => True
  | word :: rest =>
      (IsWord word.letters ∧ Blank word.gap ∧ (rest ≠ [] → word.gap ≠ [])) ∧ Apart rest

/-- The words of a text and the spaces around them. -/
structure Layout (text lead : List Char) (words : List SpacedWord) : Prop where
  text : text = lead ++ spaced words
  lead : Blank lead
  apart : Apart words

@[simp] theorem spaced_nil : spaced [] = [] := rfl

@[simp] theorem spaced_cons (word : SpacedWord) (rest : List SpacedWord) :
    spaced (word :: rest) = word.letters ++ word.gap ++ spaced rest := rfl

theorem spaced_append (first second : List SpacedWord) :
    spaced (first ++ second) = spaced first ++ spaced second :=
  List.flatMap_append

/-- **Every text has a layout.** -/
theorem exists_layout (text : List Char) : ∃ lead words, Layout text lead words := by
  induction text with
  | nil => exact ⟨[], [], rfl, fun _ member => (List.not_mem_nil member).elim, trivial⟩
  | cons c rest ih =>
      obtain ⟨lead, words, split, blank, apart⟩ := ih
      cases space : isWhitespace c with
      | true =>
          refine ⟨c :: lead, words, congrArg (c :: ·) split, fun d member => ?_, apart⟩
          rcases List.mem_cons.mp member with rfl | later
          · exact space
          · exact blank d later
      | false =>
          have nothing : Blank [] := fun _ member => (List.not_mem_nil member).elim
          have alone : IsWord [c] := ⟨List.cons_ne_nil _ _, fun d member => by
            rw [List.mem_singleton.mp member, space]⟩
          by_cases joined : lead = [] ∧ words ≠ []
          · -- the character is the first letter of the first word
            obtain ⟨rfl, filled⟩ := joined
            obtain ⟨word, others, rfl⟩ := List.exists_cons_of_ne_nil filled
            obtain ⟨⟨isWord, gap, between⟩, later⟩ := apart
            refine ⟨[], ⟨c :: word.letters, word.gap⟩ :: others, congrArg (c :: ·) split, nothing,
              ⟨⟨List.cons_ne_nil _ _, fun d member => ?_⟩, gap, between⟩, later⟩
            rcases List.mem_cons.mp member with rfl | inWord
            · exact space
            · exact isWord.solid d inWord
          · refine ⟨[], ⟨[c], lead⟩ :: words, congrArg (c :: ·) split, nothing,
              ⟨alone, blank, fun filled empty => joined ⟨empty, filled⟩⟩, apart⟩

theorem Apart.append_left {first second : List SpacedWord} (apart : Apart (first ++ second)) :
    Apart first := by
  induction first with
  | nil => trivial
  | cons word rest ih =>
      refine ⟨⟨apart.1.1, apart.1.2.1, fun filled => apart.1.2.2 ?_⟩, ih apart.2⟩
      exact List.append_ne_nil_of_left_ne_nil filled _

theorem Apart.append_right {first second : List SpacedWord} (apart : Apart (first ++ second)) :
    Apart second := by
  induction first with
  | nil => exact apart
  | cons word rest ih => exact ih apart.2

/-- **A phrase has its words.** Space behind it does not matter. -/
theorem splitWhitespace_phrase {words : List SpacedWord} (apart : Apart words) :
    splitWhitespace (phrase words) = words.map SpacedWord.letters := by
  induction words with
  | nil => exact splitWhitespace_nil
  | cons word rest ih =>
      obtain ⟨⟨isWord, blank, between⟩, later⟩ := apart
      cases rest with
      | nil => exact splitWhitespace_word isWord
      | cons next others =>
          obtain ⟨space, gap, filled⟩ :=
            List.exists_cons_of_ne_nil (between (List.cons_ne_nil _ _))
          rw [filled] at blank
          rw [phrase, filled, List.append_assoc, List.cons_append,
            splitWhitespace_append (blank space List.mem_cons_self), splitWhitespace_word isWord,
            splitWhitespace_blank fun c member => blank c (List.mem_cons_of_mem _ member),
            ih later]
          rfl

/-- A phrase is its words with their spaces, up to the last one. -/
theorem phrase_concat (words : List SpacedWord) (last : SpacedWord) :
    phrase (words ++ [last]) = spaced words ++ last.letters := by
  induction words with
  | nil => rfl
  | cons word rest ih =>
      rw [List.cons_append, spaced_cons, List.append_assoc, ← ih]
      cases rest <;> rfl

theorem spaced_eq_phrase {words : List SpacedWord} {last : SpacedWord} :
    spaced (words ++ [last]) = phrase (words ++ [last]) ++ last.gap := by
  rw [spaced_append, phrase_concat, List.append_assoc, spaced_cons, spaced_nil, List.append_nil]

theorem phrase_cons (head : SpacedWord) {tail : List SpacedWord} (more : tail ≠ []) :
    phrase (head :: tail) = head.letters ++ head.gap ++ phrase tail := by
  obtain ⟨next, rest, rfl⟩ := List.exists_cons_of_ne_nil more
  rfl

/-- A phrase reaches to the end of each of its words. -/
theorem phrase_prefix (before : List SpacedWord) (word : SpacedWord) (after : List SpacedWord) :
    utf8Len (spaced before) + utf8Len word.letters ≤
      utf8Len (phrase (before ++ word :: after)) := by
  induction before with
  | nil =>
      rw [List.nil_append, spaced_nil, String.utf8Len_nil, Nat.zero_add]
      cases after with
      | nil => exact le_rfl
      | cons next rest =>
          rw [phrase, String.utf8Len_append, String.utf8Len_append, Nat.add_assoc]
          exact Nat.le_add_right _ _
  | cons head tail ih =>
      rw [List.cons_append, phrase_cons head (List.append_ne_nil_of_right_ne_nil _
        (List.cons_ne_nil _ _)), spaced_cons]
      simp only [String.utf8Len_append] at ih ⊢
      omega

/-- The words of a text are those of its layout. -/
theorem splitWhitespace_layout {text lead : List Char} {words : List SpacedWord}
    (layout : Layout text lead words) :
    splitWhitespace text = words.map SpacedWord.letters := by
  rw [layout.text, splitWhitespace_blank layout.lead]
  rcases List.eq_nil_or_concat words with rfl | ⟨front, last, rfl⟩
  · exact splitWhitespace_nil
  · rw [List.concat_eq_append] at *
    have apart := layout.apart
    have blank : Blank last.gap := apart.append_right.1.2.1
    have trailing : splitWhitespace (phrase (front ++ [last]) ++ last.gap) =
        splitWhitespace (phrase (front ++ [last])) := by
      cases gap : last.gap with
      | nil => rw [List.append_nil]
      | cons space rest =>
          rw [gap] at blank
          have nothing := splitWhitespace_blank
            (fun c member => blank c (List.mem_cons_of_mem _ member)) []
          rw [List.append_nil] at nothing
          rw [splitWhitespace_append (blank space List.mem_cons_self), nothing,
            splitWhitespace_nil, List.append_nil]
    rw [spaced_eq_phrase, trailing, splitWhitespace_phrase apart]

/-! ## Byte ranges -/

/-- The text between two byte offsets. -/
def slice (text : List Char) (start stop : Nat) : List Char :=
  (splitAtByte (splitAtByte text stop).1 start).2

theorem slice_append (before middle after : List Char) :
    slice (before ++ middle ++ after) (utf8Len before) (utf8Len before + utf8Len middle) =
      middle := by
  rw [slice, ← String.utf8Len_append, splitAtByte_append, splitAtByte_append]

theorem IsCharBoundary.le {text : List Char} {offset : Nat}
    (boundary : IsCharBoundary text offset) : offset ≤ utf8Len text := by
  obtain ⟨before, after, rfl, rfl⟩ := boundary
  rw [String.utf8Len_append]
  exact Nat.le_add_right _ _

/-- Boundaries in order come from beginnings that extend each other. -/
theorem IsCharBoundary.between {text : List Char} {start stop : Nat}
    (first : IsCharBoundary text start) (second : IsCharBoundary text stop)
    (ordered : start ≤ stop) :
    ∃ before middle after, text = before ++ middle ++ after ∧ utf8Len before = start ∧
      utf8Len (before ++ middle) = stop := by
  obtain ⟨before, behind, split, rfl⟩ := first
  obtain ⟨longer, after, split', rfl⟩ := second
  rcases List.append_eq_append_iff.mp (split.symm.trans split') with
    ⟨middle, extended, -⟩ | ⟨extra, extended, -⟩
  · exact ⟨before, middle, after, extended ▸ split', rfl, by rw [extended]⟩
  · rw [extended, String.utf8Len_append] at ordered
    have nothing : extra = [] := by
      cases extra with
      | nil => rfl
      | cons c others =>
          rw [String.utf8Len_cons] at ordered
          have positive := Char.utf8Size_pos c
          omega
    rw [nothing, List.append_nil] at extended
    refine ⟨longer, [], after, ?_, ?_, ?_⟩
    · rw [List.append_nil]
      exact split'
    · rw [extended]
    · rw [List.append_nil]

/-- **A boundary of the text within a slice is a boundary of the slice.** -/
theorem IsCharBoundary.slice {text : List Char} {start stop offset : Nat}
    (first : IsCharBoundary text start) (second : IsCharBoundary text stop)
    (here : IsCharBoundary text offset) (behind : start ≤ offset) (ahead : offset ≤ stop) :
    IsCharBoundary (slice text start stop) (offset - start) := by
  obtain ⟨before, middle, after, split, rfl, rfl⟩ := first.between here behind
  have longer : utf8Len (before ++ middle) ≤ stop := ahead
  obtain ⟨front, rest, others, split', frontBytes, rfl⟩ := here.between second longer
  have same : front = before ++ middle := by
    have joined : front ++ (rest ++ others) = before ++ middle ++ after := by
      rw [← List.append_assoc, ← split', split]
    rcases List.append_eq_append_iff.mp joined with ⟨extra, equal, -⟩ | ⟨extra, equal, -⟩
    · have bytes := congrArg utf8Len equal
      rw [String.utf8Len_append front, frontBytes] at bytes
      rw [equal]
      cases extra with
      | nil => rw [List.append_nil]
      | cons c more =>
          rw [String.utf8Len_cons] at bytes
          have positive := Char.utf8Size_pos c
          omega
    · rw [equal] at frontBytes
      rw [String.utf8Len_append _ extra] at frontBytes
      cases extra with
      | nil => rw [equal, List.append_nil]
      | cons c more =>
          rw [String.utf8Len_cons] at frontBytes
          have positive := Char.utf8Size_pos c
          omega
  subst same
  refine ⟨middle, rest, ?_, ?_⟩
  · rw [split', List.append_assoc before middle rest, String.utf8Len_append before,
      slice_append]
  · rw [String.utf8Len_append, Nat.add_sub_cancel_left]

/-- The byte ranges of consecutive words, the first of which begins at a position. -/
def rangesFrom : Nat → List SpacedWord → List (Nat × Nat)
  | _, [] => []
  | position, word :: rest =>
      (position, position + utf8Len word.letters) ::
        rangesFrom (position + utf8Len word.letters + utf8Len word.gap) rest

theorem length_rangesFrom (position : Nat) (words : List SpacedWord) :
    (rangesFrom position words).length = words.length := by
  induction words generalizing position with
  | nil => rfl
  | cons word rest ih => rw [rangesFrom, List.length_cons, List.length_cons, ih]

theorem rangesFrom_append (position : Nat) (first second : List SpacedWord) :
    rangesFrom position (first ++ second) =
      rangesFrom position first ++ rangesFrom (position + utf8Len (spaced first)) second := by
  induction first generalizing position with
  | nil => rfl
  | cons word rest ih =>
      have bytes : position + utf8Len word.letters + utf8Len word.gap + utf8Len (spaced rest) =
          position + utf8Len (spaced (word :: rest)) := by
        rw [spaced_cons, String.utf8Len_append, String.utf8Len_append]
        omega
      rw [List.cons_append, rangesFrom, rangesFrom, ih, bytes, List.cons_append]

/-- A range of a list of words is that of one of them. -/
theorem mem_rangesFrom {position : Nat} {words : List SpacedWord} {range : Nat × Nat}
    (member : range ∈ rangesFrom position words) :
    ∃ before word after, words = before ++ word :: after ∧
      range = (position + utf8Len (spaced before),
        position + utf8Len (spaced before) + utf8Len word.letters) := by
  induction words generalizing position with
  | nil => exact (List.not_mem_nil member).elim
  | cons word rest ih =>
      rcases List.mem_cons.mp member with rfl | later
      · exact ⟨[], word, rest, rfl, rfl⟩
      · obtain ⟨before, found, after, split, same⟩ := ih later
        refine ⟨word :: before, found, after, congrArg (word :: ·) split, ?_⟩
        rw [same, spaced_cons, String.utf8Len_append, String.utf8Len_append]
        simp only [Nat.add_assoc]

/-- A character that is not white space is a letter of a word. -/
theorem letter_of_spaced {words : List SpacedWord} (apart : Apart words)
    {front behind : List Char} {c : Char} (split : spaced words = front ++ c :: behind)
    (letter : isWhitespace c = false) :
    ∃ before word after, words = before ++ word :: after ∧
      utf8Len (spaced before) ≤ utf8Len front ∧
      utf8Len front < utf8Len (spaced before) + utf8Len word.letters := by
  induction words generalizing front with
  | nil => exact absurd split.symm (by simp)
  | cons word rest ih =>
      have blank : Blank word.gap := apart.1.2.1
      rw [spaced_cons, List.append_assoc] at split
      rcases List.append_eq_append_iff.mp split with ⟨extra, rfl, tail⟩ | ⟨extra, letters, -⟩
      · -- the character is behind the letters of the first word, so behind its space
        rcases List.append_eq_append_iff.mp tail with ⟨further, rfl, later⟩ | ⟨inside, gap, later⟩
        · obtain ⟨before, found, after, same, low, high⟩ := ih apart.2 later
          refine ⟨word :: before, found, after, congrArg (word :: ·) same, ?_, ?_⟩
          · simp only [spaced_cons, String.utf8Len_append] at low ⊢
            omega
          · simp only [spaced_cons, String.utf8Len_append] at high ⊢
            omega
        · cases inside with
          | nil =>
              rw [List.append_nil] at gap
              subst gap
              obtain ⟨before, found, after, same, low, high⟩ := @ih apart.2 [] later.symm
              refine ⟨word :: before, found, after, congrArg (word :: ·) same, ?_, ?_⟩
              · simp only [spaced_cons, String.utf8Len_append, String.utf8Len_nil] at low ⊢
                omega
              · simp only [spaced_cons, String.utf8Len_append, String.utf8Len_nil] at high ⊢
                omega
          | cons d others =>
              obtain ⟨rfl, -⟩ := List.cons.inj later
              have space := blank c (gap ▸ List.mem_append_right _ List.mem_cons_self)
              rw [letter] at space
              cases space
      · cases extra with
        | nil =>
            rw [List.append_nil] at letters
            have tail := split
            rw [← letters, List.append_cancel_left_eq] at tail
            -- the space behind the word begins with the character, or is empty
            cases gap : word.gap with
            | nil =>
                rw [gap, List.nil_append] at tail
                obtain ⟨before, found, after, same, low, high⟩ := @ih apart.2 [] tail
                refine ⟨word :: before, found, after, congrArg (word :: ·) same, ?_, ?_⟩
                · simp only [spaced_cons, String.utf8Len_append, gap, letters,
                    String.utf8Len_nil] at low ⊢
                  omega
                · simp only [spaced_cons, String.utf8Len_append, gap, letters,
                    String.utf8Len_nil] at high ⊢
                  omega
            | cons d others =>
                rw [gap, List.cons_append] at tail
                obtain ⟨rfl, -⟩ := List.cons.inj tail
                have space := blank d (gap ▸ List.mem_cons_self)
                rw [letter] at space
                cases space
        | cons d others =>
            refine ⟨[], word, rest, rfl, Nat.zero_le _, ?_⟩
            rw [letters, String.utf8Len_append, String.utf8Len_cons, spaced_nil,
              String.utf8Len_nil]
            have positive := Char.utf8Size_pos d
            omega

/-- **A character of a text is white space or a letter of one of its words.** -/
theorem letter_of_layout {text lead : List Char} {words : List SpacedWord}
    (layout : Layout text lead words) {front behind : List Char} {c : Char}
    (split : text = front ++ c :: behind) (letter : isWhitespace c = false) :
    ∃ before word after, words = before ++ word :: after ∧
      utf8Len lead + utf8Len (spaced before) ≤ utf8Len front ∧
      utf8Len front < utf8Len lead + utf8Len (spaced before) + utf8Len word.letters := by
  rw [layout.text] at split
  rcases List.append_eq_append_iff.mp split with ⟨extra, rfl, tail⟩ | ⟨extra, lead', tail⟩
  · obtain ⟨before, word, after, same, low, high⟩ := letter_of_spaced layout.apart tail letter
    refine ⟨before, word, after, same, ?_, ?_⟩
    · rw [String.utf8Len_append]
      omega
    · rw [String.utf8Len_append]
      omega
  · cases extra with
    | nil =>
        rw [List.append_nil] at lead'
        rw [List.nil_append] at tail
        obtain ⟨before, word, after, same, low, high⟩ :=
          @letter_of_spaced words layout.apart [] behind c tail.symm letter
        refine ⟨before, word, after, same, ?_, ?_⟩
        · rw [lead']
          rw [String.utf8Len_nil] at low
          omega
        · rw [lead']
          rw [String.utf8Len_nil] at high
          omega
    | cons d others =>
        obtain ⟨rfl, -⟩ := List.cons.inj tail
        have space := layout.lead c (lead' ▸ List.mem_append_right _ List.mem_cons_self)
        rw [letter] at space
        cases space

end Omnivox.Text
