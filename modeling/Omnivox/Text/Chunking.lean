import Mathlib
import Omnivox.Text.PreparedPositions
import Omnivox.Text.SpacedWords

/-!
# Chunks of prepared speech

Long speech is cut into chunks of at most a number of words. Within that number a chunk
ends behind the last sentence, else behind the last clause, else behind the last word.

The chunks lose, repeat and reorder no word (`chunkPreparedSpeech_lossless`). The ranges
that they report are `u32`, so they are the ranges of the chunks exactly if the last word
ends within that.
-/

set_option autoImplicit false

namespace Omnivox.Text

open Foundations
open String (utf8Len)

/-! ## Words -/

/-- The scan of `word_spans`, with the start of the word it is in. -/
def wordSpansFrom : List Char → Nat → Option Nat → List (Nat × Nat)
  | [], position, some start => [(start, position)]
  | [], _, none => []
  | character :: rest, position, start =>
      if isWhitespace character then
        (start.map fun start => (start, position)).toList ++
          wordSpansFrom rest (position + character.utf8Size) none
      else wordSpansFrom rest (position + character.utf8Size) (start.or (some position))

/-- The byte ranges of the words. -/
def wordSpans (text : List Char) : List (Nat × Nat) := wordSpansFrom text 0 none

theorem wordSpansFrom_blank {gap : List Char} (blank : Blank gap) (rest : List Char)
    (position : Nat) :
    wordSpansFrom (gap ++ rest) position none =
      wordSpansFrom rest (position + utf8Len gap) none := by
  induction gap generalizing position with
  | nil => rfl
  | cons c others ih =>
      rw [List.cons_append, wordSpansFrom, blank c List.mem_cons_self, if_pos rfl, Option.map_none,
        Option.toList_none, List.nil_append,
        ih fun d member => blank d (List.mem_cons_of_mem _ member), String.utf8Len_cons]
      congr 1
      omega

theorem wordSpansFrom_solid {letters : List Char}
    (solid : ∀ c ∈ letters, isWhitespace c = false) (rest : List Char) (position start : Nat) :
    wordSpansFrom (letters ++ rest) position (some start) =
      wordSpansFrom rest (position + utf8Len letters) (some start) := by
  induction letters generalizing position with
  | nil => rfl
  | cons c others ih =>
      rw [List.cons_append, wordSpansFrom, solid c List.mem_cons_self, if_neg Bool.false_ne_true,
        Option.some_or, ih fun d member => solid d (List.mem_cons_of_mem _ member),
        String.utf8Len_cons]
      congr 1
      omega

/-- **The scan** finds the byte ranges of the words. -/
theorem wordSpansFrom_spaced {words : List SpacedWord} (apart : Apart words) (position : Nat) :
    wordSpansFrom (spaced words) position none = rangesFrom position words := by
  induction words generalizing position with
  | nil => rfl
  | cons word rest ih =>
      obtain ⟨⟨isWord, blank, between⟩, later⟩ := apart
      obtain ⟨first, others, letters⟩ := List.exists_cons_of_ne_nil isWord.nonempty
      have solid := isWord.solid
      rw [letters] at solid
      have bytes : position + utf8Len word.letters =
          position + first.utf8Size + utf8Len others := by
        rw [letters, String.utf8Len_cons]
        omega
      have entered : wordSpansFrom (spaced (word :: rest)) position none =
          wordSpansFrom (word.gap ++ spaced rest) (position + utf8Len word.letters)
            (some position) := by
        rw [spaced_cons, bytes, letters, List.append_assoc, List.cons_append, wordSpansFrom,
          solid first List.mem_cons_self, if_neg Bool.false_ne_true, Option.none_or,
          wordSpansFrom_solid fun c member => solid c (List.mem_cons_of_mem _ member)]
      rw [entered, rangesFrom]
      cases gap : word.gap with
      | nil =>
          have final : rest = [] := by
            by_contra more
            exact between more gap
          subst final
          rfl
      | cons space spaces =>
          rw [gap] at blank
          have behind : position + utf8Len word.letters + utf8Len (space :: spaces) =
              position + utf8Len word.letters + space.utf8Size + utf8Len spaces := by
            rw [String.utf8Len_cons]
            omega
          rw [List.cons_append, wordSpansFrom, blank space List.mem_cons_self, if_pos rfl,
            wordSpansFrom_blank fun c member => blank c (List.mem_cons_of_mem _ member), behind,
            ih later]
          rfl

theorem wordSpans_layout {text lead : List Char} {words : List SpacedWord}
    (layout : Layout text lead words) : wordSpans text = rangesFrom (utf8Len lead) words := by
  rw [wordSpans, layout.text, wordSpansFrom_blank layout.lead, wordSpansFrom_spaced layout.apart,
    Nat.zero_add]

/-! ## Boundaries -/

inductive ChunkBoundary where
  | sentence
  | clause
  deriving Repr, DecidableEq

def isBoundaryCloser (character : Char) : Bool :=
  character ∈ ['\'', '"', '’', '”', ')', ']', '\x7d']

/-- The last character of a word in front of closing quotes and brackets. -/
def lastBeforeClosers (word : List Char) : Option Char :=
  (word.rdropWhile isBoundaryCloser).getLast?

def boundaryOf (last : Char) : Option ChunkBoundary :=
  if last ∈ ['.', '!', '?', '…', '。', '！', '？'] then some .sentence
  else if last ∈ [',', ';', ':', '—', '–'] then some .clause
  else none

/-- A line ends between the word and the next one. -/
def breaksLine (text : List Char) (spans : List (Nat × Nat)) (wordIndex : Nat) : Bool :=
  match spans[wordIndex + 1]? with
  | some (nextStart, _) =>
      (slice text (spans.getD wordIndex (0, 0)).2 nextStart).any fun character =>
        character == '\r' || character == '\n'
  | none => false

def boundaryAfterWord (text : List Char) (spans : List (Nat × Nat)) (wordIndex : Nat) :
    Option ChunkBoundary :=
  if breaksLine text spans wordIndex then some .sentence
  else
    let (start, stop) := spans.getD wordIndex (0, 0)
    (lastBeforeClosers (slice text start stop)).bind boundaryOf

/-- The last sentence and the last clause found so far. -/
structure PreferredEnds where
  sentence : Option Nat
  clause : Option Nat

/-- One turn of the search for the preferred end. -/
def PreferredEnds.note (boundary : Nat → Option ChunkBoundary) (ends : PreferredEnds)
    (wordIndex : Nat) : PreferredEnds :=
  match boundary wordIndex with
  | some .sentence => { ends with sentence := some (wordIndex + 1) }
  | some .clause => { ends with clause := some (wordIndex + 1) }
  | none => ends

def preferredEnd (boundary : Nat → Option ChunkBoundary) (firstWord hardEnd : Nat) : Nat :=
  let ends := (List.range' firstWord (hardEnd - firstWord)).foldl (PreferredEnds.note boundary)
    ⟨none, none⟩
  (ends.sentence.or ends.clause).getD hardEnd

def preferredChunkEnd (text : List Char) (spans : List (Nat × Nat)) (firstWord hardEnd : Nat) :
    Nat :=
  preferredEnd (boundaryAfterWord text spans) firstWord hardEnd

/-! ## The preferred end -/

/-- **Where a chunk ends**: behind its last sentence, else behind its last clause, else at
the limit. -/
structure PreferredBy (boundary : Nat → Option ChunkBoundary) (firstWord hardEnd stop : Nat) :
    Prop where
  sentence : ∀ word, IsGreatest {word | firstWord ≤ word ∧ word < hardEnd ∧
    boundary word = some .sentence} word → stop = word + 1
  clause : (∀ word, firstWord ≤ word → word < hardEnd → boundary word ≠ some .sentence) →
    ∀ word, IsGreatest {word | firstWord ≤ word ∧ word < hardEnd ∧
      boundary word = some .clause} word → stop = word + 1
  limit : (∀ word, firstWord ≤ word → word < hardEnd → boundary word = none) → stop = hardEnd

/-- The words within a range that match. -/
def Matching (matching : Nat → Bool) (firstWord count : Nat) : Set Nat :=
  {word | firstWord ≤ word ∧ word < firstWord + count ∧ matching word = true}

/-- Keep the last word that matches, as the place behind it. -/
def keepLast (matching : Nat → Bool) (found : Option Nat) (word : Nat) : Option Nat :=
  if matching word then some (word + 1) else found

/-- **The last match** of a range is kept. -/
theorem foldl_keepLast (matching : Nat → Bool) (firstWord count : Nat) :
    ((List.range' firstWord count).foldl (keepLast matching) none = none ∧
      Matching matching firstWord count = ∅) ∨
    ∃ word, (List.range' firstWord count).foldl (keepLast matching) none = some (word + 1) ∧
      IsGreatest (Matching matching firstWord count) word := by
  induction count with
  | zero =>
      refine Or.inl ⟨rfl, Set.eq_empty_of_forall_notMem fun word member => ?_⟩
      have inside := member.2.1
      have behind := member.1
      omega
  | succ count ih =>
      rw [List.range'_concat, List.foldl_concat, Nat.one_mul]
      cases here : matching (firstWord + count) with
      | true =>
          refine Or.inr ⟨firstWord + count, ?_, ⟨Nat.le_add_right _ _, by omega, here⟩, ?_⟩
          · rw [keepLast, here, if_pos rfl]
          · rintro word ⟨_, inside, _⟩
            omega
      | false =>
          have same : Matching matching firstWord (count + 1) =
              Matching matching firstWord count := by
            ext word
            constructor
            · rintro ⟨behind, inside, matches'⟩
              refine ⟨behind, ?_, matches'⟩
              rcases Nat.lt_succ_iff_lt_or_eq.mp (show word < firstWord + count + 1 from inside)
                with before | rfl
              · exact before
              · rw [here] at matches'
                cases matches'
            · rintro ⟨behind, inside, matches'⟩
              exact ⟨behind, by omega, matches'⟩
          rw [keepLast, here, if_neg Bool.false_ne_true, same]
          exact ih

/-- The two searches do not disturb each other. -/
theorem foldl_note (boundary : Nat → Option ChunkBoundary) (words : List Nat)
    (ends : PreferredEnds) :
    (words.foldl (PreferredEnds.note boundary) ends).sentence =
        words.foldl (keepLast fun word => boundary word == some .sentence) ends.sentence ∧
      (words.foldl (PreferredEnds.note boundary) ends).clause =
        words.foldl (keepLast fun word => boundary word == some .clause) ends.clause := by
  induction words generalizing ends with
  | nil => exact ⟨rfl, rfl⟩
  | cons word rest ih =>
      rw [List.foldl_cons, List.foldl_cons, List.foldl_cons]
      obtain ⟨sentence, clause⟩ := ih (ends.note boundary word)
      rw [sentence, clause, PreferredEnds.note]
      cases kind : boundary word with
      | none => simp [keepLast, kind]
      | some found => cases found <;> simp [keepLast, kind]

/-- **The preferred end** lies behind the first word and not behind the limit. -/
theorem preferredEnd_spec (boundary : Nat → Option ChunkBoundary) {firstWord hardEnd : Nat}
    (room : firstWord < hardEnd) :
    firstWord < preferredEnd boundary firstWord hardEnd ∧
      preferredEnd boundary firstWord hardEnd ≤ hardEnd ∧
      PreferredBy boundary firstWord hardEnd (preferredEnd boundary firstWord hardEnd) := by
  obtain ⟨sentence, clause⟩ := foldl_note boundary
    (List.range' firstWord (hardEnd - firstWord)) ⟨none, none⟩
  have limit : firstWord + (hardEnd - firstWord) = hardEnd := by omega
  have sets : ∀ kind : ChunkBoundary, Matching (fun word => boundary word == some kind) firstWord
      (hardEnd - firstWord) =
        {word | firstWord ≤ word ∧ word < hardEnd ∧ boundary word = some kind} := by
    intro kind
    ext word
    unfold Matching
    rw [limit]
    simp only [Set.mem_ofPred_eq, beq_iff_eq]
  have sentences := foldl_keepLast (fun word => boundary word == some .sentence) firstWord
    (hardEnd - firstWord)
  have clauses := foldl_keepLast (fun word => boundary word == some .clause) firstWord
    (hardEnd - firstWord)
  rw [← sentence, sets] at sentences
  rw [← clause, sets] at clauses
  unfold preferredEnd
  simp only
  rcases sentences with ⟨noSentence, none⟩ | ⟨word, found, greatest⟩
  · rw [noSentence, Option.none_or]
    rcases clauses with ⟨noClause, none'⟩ | ⟨word, found, greatest⟩
    · rw [noClause, Option.getD_none]
      refine ⟨room, le_rfl, fun word great => ?_, fun _ word great => ?_, fun _ => rfl⟩
      · exact absurd great.1 (none ▸ Set.notMem_empty word)
      · exact absurd great.1 (none' ▸ Set.notMem_empty word)
    · rw [found, Option.getD_some]
      obtain ⟨behind, inside, kind⟩ := greatest.1
      refine ⟨by omega, inside, fun other great => ?_, fun _ other great => ?_, fun nothing => ?_⟩
      · exact absurd great.1 (none ▸ Set.notMem_empty other)
      · rw [greatest.unique great]
      · rw [nothing word behind inside] at kind
        cases kind
  · rw [found, Option.some_or, Option.getD_some]
    obtain ⟨behind, inside, kind⟩ := greatest.1
    refine ⟨by omega, inside, fun other great => ?_, fun nothing => ?_, fun nothing => ?_⟩
    · rw [greatest.unique great]
    · exact absurd kind (nothing word behind inside)
    · rw [nothing word behind inside] at kind
      cases kind

/-! ## Chunks -/

structure PreparedSpeechChunk where
  text : List Char
  capitalizationTones : List CapitalizationTone
  /-- UTF-8 range in the complete prepared speech text. -/
  sourceStart : Nat
  sourceEnd : Nat
  deriving Repr, DecidableEq

/-- The tones in a byte range, from its start on. -/
def tonesWithin (tones : List CapitalizationTone) (start stop : Nat) : List CapitalizationTone :=
  (tones.filter fun tone => start ≤ tone.textOffset && tone.textOffset < stop).map fun tone =>
    { tone with textOffset := tone.textOffset - asU32 start }

/-- The chunk of a byte range. -/
def chunkAt (prepared : PreparedSpeechText) (range : Nat × Nat) : PreparedSpeechChunk where
  text := slice prepared.text range.1 range.2
  capitalizationTones := tonesWithin prepared.capitalizationTones range.1 range.2
  sourceStart := asU32 range.1
  sourceEnd := asU32 range.2

/-- The end of the chunk that begins with a word. -/
def chunkEnd (text : List Char) (spans : List (Nat × Nat)) (maxWords firstWord : Nat) : Nat :=
  let hardEnd := min (firstWord + maxWords) spans.length
  if hardEnd = spans.length then hardEnd else preferredChunkEnd text spans firstWord hardEnd

theorem chunkEnd_bounds (text : List Char) {spans : List (Nat × Nat)} {maxWords firstWord : Nat}
    (positive : 0 < maxWords) (more : firstWord < spans.length) :
    firstWord < chunkEnd text spans maxWords firstWord ∧
      chunkEnd text spans maxWords firstWord ≤ min (firstWord + maxWords) spans.length := by
  have room : firstWord < min (firstWord + maxWords) spans.length := by omega
  unfold chunkEnd
  simp only
  split
  · exact ⟨room, le_rfl⟩
  · obtain ⟨behind, within, _⟩ := preferredEnd_spec (boundaryAfterWord text spans) room
    exact ⟨behind, within⟩

/-- The byte ranges of the chunks from a word on. -/
def chunkRanges (text : List Char) (spans : List (Nat × Nat)) (maxWords : Nat)
    (positive : 0 < maxWords) (firstWord : Nat) : List (Nat × Nat) :=
  if more : firstWord < spans.length then
    let wordEnd := chunkEnd text spans maxWords firstWord
    ((spans.getD firstWord (0, 0)).1, (spans.getD (wordEnd - 1) (0, 0)).2) ::
      chunkRanges text spans maxWords positive wordEnd
  else []
  termination_by spans.length - firstWord
  decreasing_by
    have behind := (chunkEnd_bounds text positive more).1
    omega

/-- Split prepared speech without losing capitalization anchor offsets. -/
def chunkPreparedSpeech (prepared : PreparedSpeechText) (maxWords : Nat) :
    List PreparedSpeechChunk :=
  let spans := wordSpans prepared.text
  if more : maxWords < spans.length ∧ 0 < maxWords then
    (chunkRanges prepared.text spans maxWords more.2 0).map (chunkAt prepared)
  else
    [⟨prepared.text, prepared.capitalizationTones, 0, asU32 (utf8Len prepared.text)⟩]

/-! ## Groups of words -/

/-- The byte ranges of consecutive phrases. -/
def groupRanges : Nat → List (List SpacedWord) → List (Nat × Nat)
  | _, [] => []
  | position, group :: rest =>
      (position, position + utf8Len (phrase group)) ::
        groupRanges (position + utf8Len (spaced group)) rest

/-- Groups of words of the right size, each but the last ended where it should be. -/
def GroupedBy (boundary : Nat → Option ChunkBoundary) (maxWords : Nat) :
    Nat → List (List SpacedWord) → Prop
  | _, [] => True
  | firstWord, group :: rest =>
      ((1 ≤ group.length ∧ group.length ≤ maxWords) ∧
        (rest ≠ [] →
          PreferredBy boundary firstWord (firstWord + maxWords) (firstWord + group.length))) ∧
      GroupedBy boundary maxWords (firstWord + group.length) rest

/-- The range of a phrase begins with its first word and ends with its last. -/
theorem phrase_range {position : Nat} {group : List SpacedWord} (filled : group ≠ [])
    (later : List SpacedWord) (before : List (Nat × Nat)) :
    ((before ++ rangesFrom position (group ++ later)).getD before.length (0, 0)).1 = position ∧
      ((before ++ rangesFrom position (group ++ later)).getD (before.length + group.length - 1)
        (0, 0)).2 = position + utf8Len (phrase group) := by
  constructor
  · rw [List.getD_append_right _ _ _ _ le_rfl, Nat.sub_self]
    obtain ⟨word, rest, rfl⟩ := List.exists_cons_of_ne_nil filled
    rfl
  · rcases List.eq_nil_or_concat group with rfl | ⟨front, last, rfl⟩
    · exact absurd rfl filled
    · rw [List.concat_eq_append, List.length_append, List.length_singleton]
      have index : before.length + (front.length + 1) - 1 = before.length + front.length := by
        omega
      rw [index, List.getD_append_right _ _ _ _ (Nat.le_add_right _ _), Nat.add_sub_cancel_left,
        List.append_assoc, rangesFrom_append,
        List.getD_append_right _ _ _ _ (by rw [length_rangesFrom]), length_rangesFrom,
        Nat.sub_self, phrase_concat, String.utf8Len_append]
      exact Nat.add_assoc _ _ _

/-- **The loop** groups the words that are left, and its ranges are those of the groups. -/
theorem chunkRanges_groups {text : List Char} {maxWords position : Nat} {words : List SpacedWord}
    (positive : 0 < maxWords) (rest before : List SpacedWord) (split : words = before ++ rest) :
    ∃ groups : List (List SpacedWord), groups.flatten = rest ∧
      chunkRanges text (rangesFrom position words) maxWords positive before.length =
        groupRanges (position + utf8Len (spaced before)) groups ∧
      GroupedBy (boundaryAfterWord text (rangesFrom position words)) maxWords before.length
        groups := by
  induction left : rest.length using Nat.strong_induction_on generalizing rest before with
  | _ count ih =>
      have total : (rangesFrom position words).length = before.length + rest.length := by
        rw [length_rangesFrom, split, List.length_append]
      rw [chunkRanges]
      by_cases more : before.length < (rangesFrom position words).length
      · obtain ⟨behind, within⟩ := chunkEnd_bounds text positive more
        have preferred : chunkEnd text (rangesFrom position words) maxWords before.length <
            (rangesFrom position words).length → PreferredBy
              (boundaryAfterWord text (rangesFrom position words)) before.length
              (before.length + maxWords)
              (chunkEnd text (rangesFrom position words) maxWords before.length) := by
          intro notLast
          have room : before.length < min (before.length + maxWords)
              (rangesFrom position words).length := by omega
          unfold chunkEnd at notLast ⊢
          simp only at notLast ⊢
          by_cases atEnd : min (before.length + maxWords) (rangesFrom position words).length =
              (rangesFrom position words).length
          · rw [if_pos atEnd, atEnd] at notLast
            exact absurd notLast (Nat.lt_irrefl _)
          · have hard : min (before.length + maxWords) (rangesFrom position words).length =
                before.length + maxWords := by omega
            rw [if_neg atEnd]
            have spec := (preferredEnd_spec
              (boundaryAfterWord text (rangesFrom position words)) room).2.2
            rw [hard] at spec ⊢
            exact spec
        rw [dif_pos more]
        simp only
        generalize chunkEnd text (rangesFrom position words) maxWords before.length = stop at *
        have size : (rest.take (stop - before.length)).length = stop - before.length := by
          rw [List.length_take]
          omega
        have filled : rest.take (stop - before.length) ≠ [] := by
          rw [← List.length_pos_iff, size]
          omega
        have fewer : (rest.drop (stop - before.length)).length < count := by
          rw [List.length_drop]
          omega
        have joined : words = (before ++ rest.take (stop - before.length)) ++
            rest.drop (stop - before.length) := by
          rw [List.append_assoc, List.take_append_drop, split]
        have reached : (before ++ rest.take (stop - before.length)).length = stop := by
          rw [List.length_append, size]
          omega
        obtain ⟨groups, flat, ranges, grouped⟩ := ih _ fewer _ _ joined rfl
        rw [reached] at ranges grouped
        refine ⟨rest.take (stop - before.length) :: groups, ?_, ?_, ⟨?_, fun further => ?_⟩, ?_⟩
        · rw [List.flatten_cons, flat, List.take_append_drop]
        · have placed := @phrase_range (position + utf8Len (spaced before)) _ filled
            (rest.drop (stop - before.length)) (rangesFrom position before)
          rw [List.take_append_drop, ← rangesFrom_append, ← split, length_rangesFrom, size] at placed
          have last : before.length + (stop - before.length) - 1 = stop - 1 := by omega
          rw [last] at placed
          rw [spaced_append, String.utf8Len_append, ← Nat.add_assoc] at ranges
          rw [placed.1, placed.2, ranges, groupRanges]
        · rw [size]
          omega
        · have notLast : stop < (rangesFrom position words).length := by
            by_contra atEnd
            have nothing : rest.drop (stop - before.length) = [] :=
              List.drop_eq_nil_of_le (by omega)
            rw [nothing] at flat
            have empties := List.flatten_eq_nil_iff.mp flat
            obtain ⟨group, others, rfl⟩ := List.exists_cons_of_ne_nil further
            have none := empties group List.mem_cons_self
            have one := grouped.1.1.1
            rw [none] at one
            exact absurd one (by decide)
          have ends := preferred notLast
          rw [size]
          have same : before.length + (stop - before.length) = stop := by omega
          rw [same]
          exact ends
        · have same : before.length + (stop - before.length) = stop := by omega
          rw [size, same]
          exact grouped
      · have nothing : rest = [] := List.length_eq_zero_iff.mp (by omega)
        refine ⟨[], nothing.symm, ?_, trivial⟩
        rw [dif_neg more]
        rfl

/-! ## What the groups say about the chunks -/

section

variable {text front : List Char} {groups : List (List SpacedWord)}

/-- The group before which some ranges come. -/
theorem groupRanges_split {position : Nat} {earlier later : List (Nat × Nat)} {range : Nat × Nat}
    (split : groupRanges position groups = earlier ++ range :: later) :
    ∃ first group rest, groups = first ++ group :: rest ∧
      range = (position + utf8Len (spaced first.flatten),
        position + utf8Len (spaced first.flatten) + utf8Len (phrase group)) ∧
      first.length = earlier.length ∧ rest.length = later.length := by
  induction groups generalizing position earlier with
  | nil => exact absurd split.symm (by simp [groupRanges])
  | cons group rest ih =>
      cases earlier with
      | nil =>
          obtain ⟨here, behind⟩ := List.cons.inj split
          have lengths : ∀ (groups : List (List SpacedWord)) (position : Nat),
              (groupRanges position groups).length = groups.length := by
            intro groups
            induction groups with
            | nil => exact fun _ => rfl
            | cons group rest ih => exact fun _ => congrArg (· + 1) (ih _)
          exact ⟨[], group, rest, rfl, here.symm, rfl, (lengths rest _).symm.trans
            (congrArg List.length behind)⟩
      | cons first earlier =>
          obtain ⟨-, behind⟩ := List.cons.inj split
          obtain ⟨others, found, last, same, range, before, after⟩ := ih behind
          refine ⟨group :: others, found, last, congrArg (group :: ·) same, ?_,
            congrArg (· + 1) before, after⟩
          rw [range, List.flatten_cons, spaced_append, String.utf8Len_append]
          simp only [Nat.add_assoc]

/-- A text around the phrase of a group. -/
theorem group_parts {first rest : List (List SpacedWord)} {group : List SpacedWord}
    (split : text = front ++ spaced (first ++ group :: rest).flatten) (filled : group ≠ []) :
    ∃ behind, text = front ++ spaced first.flatten ++ phrase group ++ behind := by
  rcases List.eq_nil_or_concat group with rfl | ⟨words, last, rfl⟩
  · exact absurd rfl filled
  · rw [List.concat_eq_append] at split ⊢
    refine ⟨last.gap ++ spaced rest.flatten, ?_⟩
    rw [split, List.flatten_append, List.flatten_cons, spaced_append, spaced_append,
      spaced_eq_phrase]
    simp only [List.append_assoc]

/-- The text of a range is the phrase of its group. -/
theorem slice_group {first rest : List (List SpacedWord)} {group : List SpacedWord}
    (split : text = front ++ spaced (first ++ group :: rest).flatten) (filled : group ≠ []) :
    slice text (utf8Len front + utf8Len (spaced first.flatten))
      (utf8Len front + utf8Len (spaced first.flatten) + utf8Len (phrase group)) =
        phrase group := by
  obtain ⟨behind, parts⟩ := group_parts split filled
  rw [parts, ← String.utf8Len_append, slice_append]

/-- **The ranges are apart**, and each begins behind the position. -/
theorem groupRanges_apart {position : Nat} (apart : Apart groups.flatten)
    (filled : ∀ group ∈ groups, group ≠ []) :
    (groupRanges position groups).Pairwise (fun first second => first.2 < second.1) ∧
      ∀ range ∈ groupRanges position groups, position ≤ range.1 ∧ range.1 < range.2 := by
  induction groups generalizing position with
  | nil => exact ⟨List.Pairwise.nil, fun _ member => (List.not_mem_nil member).elim⟩
  | cons group rest ih =>
      rw [List.flatten_cons] at apart
      have here := filled group List.mem_cons_self
      have others := fun other member => filled other (List.mem_cons_of_mem group member)
      obtain ⟨pairwise, bounds⟩ := @ih (position + utf8Len (spaced group)) apart.append_right
        others
      rcases List.eq_nil_or_concat group with rfl | ⟨words, last, rfl⟩
      · exact absurd rfl here
      rw [List.concat_eq_append] at *
      have isWord : IsWord last.letters :=
        ((List.append_assoc words [last] rest.flatten ▸ apart).append_right).1.1
      have letters : 0 < utf8Len last.letters := by
        obtain ⟨c, others, same⟩ := List.exists_cons_of_ne_nil isWord.nonempty
        rw [same, String.utf8Len_cons]
        have positive := Char.utf8Size_pos c
        omega
      have bytes : utf8Len (phrase (words ++ [last])) =
          utf8Len (spaced words) + utf8Len last.letters := by
        rw [phrase_concat, String.utf8Len_append]
      have whole : utf8Len (spaced (words ++ [last])) =
          utf8Len (phrase (words ++ [last])) + utf8Len last.gap := by
        rw [spaced_eq_phrase, String.utf8Len_append]
      refine ⟨List.pairwise_cons.mpr ⟨fun range member => ?_, pairwise⟩, fun range member => ?_⟩
      · -- a later group makes the space behind this one wide
        have more : rest.flatten ≠ [] := by
          intro nothing
          have empties := List.flatten_eq_nil_iff.mp nothing
          cases rest with
          | nil => cases member
          | cons next further =>
              exact others next List.mem_cons_self (empties next List.mem_cons_self)
        have gap : last.gap ≠ [] :=
          ((List.append_assoc words [last] rest.flatten ▸ apart).append_right).1.2.2 more
        have wide : 0 < utf8Len last.gap := by
          obtain ⟨c, spaces, same⟩ := List.exists_cons_of_ne_nil gap
          rw [same, String.utf8Len_cons]
          have positive := Char.utf8Size_pos c
          omega
        have behind := (bounds range member).1
        show position + utf8Len (phrase (words ++ [last])) < range.1
        omega
      · rcases List.mem_cons.mp member with rfl | later
        · exact ⟨le_rfl, by show position < position + _; omega⟩
        · obtain ⟨behind, grows⟩ := bounds range later
          exact ⟨by omega, grows⟩

end

/-- A letter of a group lies in its range. -/
theorem letter_in_range {groups : List (List SpacedWord)} {position : Nat}
    {before after : List SpacedWord} {word : SpacedWord}
    (split : groups.flatten = before ++ word :: after) :
    ∃ range ∈ groupRanges position groups, range.1 ≤ position + utf8Len (spaced before) ∧
      position + utf8Len (spaced before) + utf8Len word.letters ≤ range.2 := by
  induction groups generalizing position before with
  | nil => exact absurd split.symm (by simp)
  | cons group rest ih =>
      rw [List.flatten_cons] at split
      rcases List.append_eq_append_iff.mp split with ⟨extra, rfl, tail⟩ | ⟨extra, rfl, tail⟩
      · obtain ⟨range, member, low, high⟩ := @ih (position + utf8Len (spaced group)) _ tail
        refine ⟨range, List.mem_cons_of_mem _ member, ?_⟩
        rw [spaced_append, String.utf8Len_append]
        omega
      · cases extra with
        | nil =>
            rw [List.append_nil, List.nil_append] at *
            obtain ⟨range, member, low, high⟩ := @ih (position + utf8Len (spaced before)) [] tail.symm
            refine ⟨range, List.mem_cons_of_mem _ member, ?_⟩
            rw [spaced_nil] at low high
            exact ⟨low, high⟩
        | cons first others =>
            obtain ⟨rfl, -⟩ := List.cons.inj tail
            refine ⟨_, List.mem_cons_self, Nat.le_add_right _ _, ?_⟩
            show position + utf8Len (spaced before) + utf8Len word.letters ≤
              position + utf8Len (phrase (before ++ word :: others))
            have fits := phrase_prefix before word others
            omega

/-! ## The chunks of a long text -/

/-- The words in some byte ranges of a text. -/
def wordCount (text : List Char) (ranges : List (Nat × Nat)) : Nat :=
  (ranges.map fun range => (splitWhitespace (slice text range.1 range.2)).length).sum

/-- **How a long text is cut**, in byte ranges. -/
structure CutInto (prepared : PreparedSpeechText) (maxWords : Nat) (ranges : List (Nat × Nat)) :
    Prop where
  chunks : chunkPreparedSpeech prepared maxWords = ranges.map (chunkAt prepared)
  /-- A chunk has at least one word, and at most the limit. -/
  sizes : ∀ range ∈ ranges, 1 ≤ wordCount prepared.text [range] ∧
    wordCount prepared.text [range] ≤ maxWords
  boundaries : ∀ range ∈ ranges, IsCharBoundary prepared.text range.1 ∧
    IsCharBoundary prepared.text range.2
  increasing : ranges.Pairwise fun first second => first.2 < second.1
  filled : ∀ range ∈ ranges, range.1 < range.2
  /-- Outside the ranges is only white space. -/
  outside : ∀ (before : List Char) (c : Char) (after : List Char),
    prepared.text = before ++ c :: after → isWhitespace c = false →
      ∃ range ∈ ranges, range.1 ≤ utf8Len before ∧ utf8Len before < range.2
  /-- A chunk that is not the last one ends behind a sentence, a clause or the limit. -/
  preferred : ∀ earlier range later, ranges = earlier ++ range :: later → later ≠ [] →
    PreferredBy (boundaryAfterWord prepared.text (wordSpans prepared.text))
      (wordCount prepared.text earlier) (wordCount prepared.text earlier + maxWords)
      (wordCount prepared.text earlier + wordCount prepared.text [range])
  /-- An offset inside a word lies in exactly one range. -/
  tones : ∀ offset, (∃ span ∈ wordSpans prepared.text, span.1 ≤ offset ∧ offset < span.2) →
    ∃! index : Nat, ∃ range : Nat × Nat,
      ranges[index]? = some range ∧ range.1 ≤ offset ∧ offset < range.2

/-- The ranges that the chunks report are their ranges in the text. -/
structure ReportsRanges (text : List Char) (chunks : List PreparedSpeechChunk) : Prop where
  texts : ∀ chunk ∈ chunks, chunk.text = slice text chunk.sourceStart chunk.sourceEnd
  filled : ∀ chunk ∈ chunks, chunk.sourceStart < chunk.sourceEnd
  increasing : chunks.Pairwise fun first second => first.sourceEnd < second.sourceStart
  outside : ∀ (before : List Char) (c : Char) (after : List Char),
    text = before ++ c :: after → isWhitespace c = false →
      ∃ chunk ∈ chunks, chunk.sourceStart ≤ utf8Len before ∧ utf8Len before < chunk.sourceEnd

section

variable {prepared : PreparedSpeechText} {maxWords : Nat} {lead : List Char}
  {words : List SpacedWord} {groups : List (List SpacedWord)}

theorem GroupedBy.sizes {boundary : Nat → Option ChunkBoundary} {firstWord : Nat}
    (grouped : GroupedBy boundary maxWords firstWord groups) :
    ∀ group ∈ groups, 1 ≤ group.length ∧ group.length ≤ maxWords := by
  induction groups generalizing firstWord with
  | nil => exact fun _ member => (List.not_mem_nil member).elim
  | cons first rest ih =>
      intro group member
      rcases List.mem_cons.mp member with rfl | later
      · exact grouped.1.1
      · exact ih grouped.2 group later

theorem GroupedBy.preferred {boundary : Nat → Option ChunkBoundary} {firstWord : Nat}
    {first rest : List (List SpacedWord)} {group : List SpacedWord}
    (grouped : GroupedBy boundary maxWords firstWord (first ++ group :: rest))
    (more : rest ≠ []) :
    PreferredBy boundary (firstWord + first.flatten.length)
      (firstWord + first.flatten.length + maxWords)
      (firstWord + first.flatten.length + group.length) := by
  induction first generalizing firstWord with
  | nil => exact grouped.1.2 more
  | cons head others ih =>
      have later := ih grouped.2
      rw [List.flatten_cons, List.length_append, ← Nat.add_assoc]
      exact later

/-- The words of a group are those of its range. -/
theorem wordCount_group (layout : Layout prepared.text lead words)
    {first rest : List (List SpacedWord)} {group : List SpacedWord}
    (flat : (first ++ group :: rest).flatten = words) (filled : group ≠ []) :
    splitWhitespace (slice prepared.text (utf8Len lead + utf8Len (spaced first.flatten))
      (utf8Len lead + utf8Len (spaced first.flatten) + utf8Len (phrase group))) =
        group.map SpacedWord.letters := by
  have apart := layout.apart
  rw [← flat, List.flatten_append, List.flatten_cons] at apart
  rw [slice_group (flat ▸ layout.text) filled]
  exact splitWhitespace_phrase apart.append_right.append_left

theorem wordCount_groups (layout : Layout prepared.text lead words)
    {first rest : List (List SpacedWord)} (flat : (first ++ rest).flatten = words)
    (filled : ∀ group ∈ rest, group ≠ []) :
    (groupRanges (utf8Len lead + utf8Len (spaced first.flatten)) rest).flatMap
      (fun range => splitWhitespace (slice prepared.text range.1 range.2)) =
        rest.flatten.map SpacedWord.letters := by
  induction rest generalizing first with
  | nil => rfl
  | cons group others ih =>
      have here := wordCount_group layout flat (filled group List.mem_cons_self)
      have later := @ih (first ++ [group])
        (by rw [List.append_assoc]; exact flat)
        fun other member => filled other (List.mem_cons_of_mem _ member)
      rw [List.flatten_append, List.flatten_singleton, spaced_append, String.utf8Len_append,
        ← Nat.add_assoc] at later
      rw [groupRanges, List.flatMap_cons, here, later, List.flatten_cons, List.map_append]

/-- The ranges of the first groups. -/
theorem groupRanges_append (position : Nat) (first second : List (List SpacedWord)) :
    groupRanges position (first ++ second) =
      groupRanges position first ++
        groupRanges (position + utf8Len (spaced first.flatten)) second := by
  induction first generalizing position with
  | nil => rfl
  | cons group rest ih =>
      rw [List.cons_append, groupRanges, groupRanges, ih, List.flatten_cons, spaced_append,
        String.utf8Len_append, ← Nat.add_assoc, List.cons_append]

theorem length_flatMap_words (text : List Char) (ranges : List (Nat × Nat)) :
    (ranges.flatMap fun range => splitWhitespace (slice text range.1 range.2)).length =
      wordCount text ranges := by
  rw [List.length_flatMap]
  rfl

/-- **A long text is cut into groups of its words.** -/
theorem cutInto_groups (layout : Layout prepared.text lead words) (positive : 0 < maxWords)
    (long : maxWords < words.length) :
    ∃ groups : List (List SpacedWord), groups.flatten = words ∧
      (∀ group ∈ groups, group ≠ []) ∧
      CutInto prepared maxWords (groupRanges (utf8Len lead) groups) := by
  have spans := wordSpans_layout layout
  obtain ⟨groups, flat, ranges, grouped⟩ := @chunkRanges_groups prepared.text maxWords
    (utf8Len lead) words positive words [] rfl
  rw [spaced_nil, String.utf8Len_nil, Nat.add_zero, List.length_nil, ← spans] at ranges
  rw [List.length_nil, ← spans] at grouped
  have filled : ∀ group ∈ groups, group ≠ [] := by
    intro group member nothing
    have one := (grouped.sizes group member).1
    rw [nothing] at one
    exact absurd one (by decide)
  have counts : ∀ first second, groups = first ++ second →
      wordCount prepared.text (groupRanges (utf8Len lead) first) = first.flatten.length := by
    intro first second split
    have letters := @wordCount_groups prepared lead words layout [] (first ++ second)
      (split ▸ flat) (split ▸ filled)
    rw [List.flatten_nil, spaced_nil, String.utf8Len_nil, Nat.add_zero, groupRanges_append,
      List.flatMap_append, List.flatten_append, List.map_append] at letters
    have own := @wordCount_groups prepared lead words layout first second (split ▸ flat)
      fun group member => filled group (split ▸ List.mem_append_right _ member)
    rw [own] at letters
    have same := List.append_cancel_right letters
    rw [← length_flatMap_words, same, List.length_map]
  have apart : Apart groups.flatten := flat ▸ layout.apart
  obtain ⟨pairwise, bounds⟩ := @groupRanges_apart groups (utf8Len lead) apart filled
  have sizes : ∀ first group rest, groups = first ++ group :: rest →
      wordCount prepared.text [(utf8Len lead + utf8Len (spaced first.flatten),
        utf8Len lead + utf8Len (spaced first.flatten) + utf8Len (phrase group))] =
          group.length := by
    intro first group rest split
    have letters := wordCount_group layout (split ▸ flat)
      (filled group (split ▸ List.mem_append_right _ List.mem_cons_self))
    show (splitWhitespace _).length + 0 = _
    rw [letters, List.length_map, Nat.add_zero]
  have inside : ∀ before word after, words = before ++ word :: after →
      ∃ range ∈ groupRanges (utf8Len lead) groups,
        range.1 ≤ utf8Len lead + utf8Len (spaced before) ∧
          utf8Len lead + utf8Len (spaced before) + utf8Len word.letters ≤ range.2 := by
    intro before word after split
    exact letter_in_range (flat.trans split)
  have boundaries : ∀ first group rest, groups = first ++ group :: rest →
      IsCharBoundary prepared.text (utf8Len lead + utf8Len (spaced first.flatten)) ∧
        IsCharBoundary prepared.text
          (utf8Len lead + utf8Len (spaced first.flatten) + utf8Len (phrase group)) := by
    intro first group rest split
    obtain ⟨behind, parts⟩ := @group_parts prepared.text lead first rest group
      (split ▸ flat ▸ layout.text)
      (filled group (split ▸ List.mem_append_right _ List.mem_cons_self))
    rw [← String.utf8Len_append, ← String.utf8Len_append]
    exact ⟨⟨_, _, parts.trans (List.append_assoc _ _ _), rfl⟩, ⟨_, _, parts, rfl⟩⟩
  refine ⟨groups, flat, filled, ⟨?_, ?_, ?_, pairwise, fun range member => (bounds range member).2, ?_,
    ?_, ?_⟩⟩
  · unfold chunkPreparedSpeech
    have more : maxWords < (wordSpans prepared.text).length ∧ 0 < maxWords := by
      rw [spans, length_rangesFrom]
      exact ⟨long, positive⟩
    rw [dif_pos more, ranges]
  · intro range member
    obtain ⟨earlier, later, split⟩ := List.append_of_mem member
    obtain ⟨first, group, rest, same, rfl, -, -⟩ := groupRanges_split split
    rw [sizes first group rest same]
    exact grouped.sizes group (same ▸ List.mem_append_right _ List.mem_cons_self)
  · intro range member
    obtain ⟨earlier, later, split⟩ := List.append_of_mem member
    obtain ⟨first, group, rest, same, rfl, -, -⟩ := groupRanges_split split
    exact boundaries first group rest same
  · intro front c behind split letter
    obtain ⟨before, word, after, same, low, high⟩ := letter_of_layout layout split letter
    obtain ⟨range, member, start, stop⟩ := inside before word after same
    exact ⟨range, member, by omega, by omega⟩
  · intro earlier range later split more
    obtain ⟨first, group, rest, same, rfl, before, after⟩ := groupRanges_split split
    have earlierIs : earlier = groupRanges (utf8Len lead) first := by
      rw [same, groupRanges_append] at split
      have lengths : ∀ (groups : List (List SpacedWord)) (position : Nat),
          (groupRanges position groups).length = groups.length := by
        intro groups
        induction groups with
        | nil => exact fun _ => rfl
        | cons group rest ih => exact fun _ => congrArg (· + 1) (ih _)
      exact ((List.append_inj split (by rw [lengths, before])).1).symm
    have rest_ne : rest ≠ [] := by
      intro nothing
      rw [nothing] at after
      exact more (List.length_eq_zero_iff.mp after.symm)
    have spec := (same ▸ grouped).preferred rest_ne
    rw [Nat.zero_add] at spec
    rw [sizes first group rest same, earlierIs, counts first (group :: rest) same]
    exact spec
  · rintro offset ⟨span, member, low, high⟩
    rw [spans] at member
    obtain ⟨before, word, after, split, rfl⟩ := mem_rangesFrom member
    obtain ⟨range, inRanges, start, stop⟩ := inside before word after split
    obtain ⟨index, held⟩ := List.getElem?_of_mem inRanges
    simp only at low high
    refine ⟨index, ⟨range, held, by omega, by omega⟩, ?_⟩
    rintro other ⟨range', held', low', high'⟩
    rw [List.pairwise_iff_getElem] at pairwise
    obtain ⟨bound, same⟩ := List.getElem?_eq_some_iff.mp held
    obtain ⟨bound', same'⟩ := List.getElem?_eq_some_iff.mp held'
    rcases Nat.lt_trichotomy other index with before | equal | behind
    · have apart := pairwise other index bound' bound before
      rw [same, same'] at apart
      omega
    · exact equal
    · have apart := pairwise index other bound bound' behind
      rw [same, same'] at apart
      omega

/-! ## What a `u32` can report -/

/-- The word that ends last ends a chunk, and its last character lies in front of that end. -/
theorem reports_fits (layout : Layout prepared.text lead words)
    (cut : CutInto prepared maxWords (groupRanges (utf8Len lead) groups))
    (flat : groups.flatten = words) (filled : ∀ group ∈ groups, group ≠ [])
    (reports : ReportsRanges prepared.text (chunkPreparedSpeech prepared maxWords)) :
    utf8Len lead + utf8Len (phrase words) ≤ wordMax 32 := by
  by_contra long
  have limit : wordMax 32 = 4294967295 := rfl
  rw [limit] at long
  rcases List.eq_nil_or_concat words with rfl | ⟨front, last, rfl⟩
  · -- the whole text is white space, and no chunk is left to report it
    cases groups with
    | nil =>
        have bytes : 4294967295 < utf8Len lead := by
          have whole : utf8Len (phrase []) = 0 := rfl
          omega
        have nothing := cut.chunks
        have shown : chunkPreparedSpeech prepared maxWords ≠ [] := by
          have spans := wordSpans_layout layout
          unfold chunkPreparedSpeech
          have short : ¬ (maxWords < (wordSpans prepared.text).length ∧ 0 < maxWords) := by
            rw [spans]
            rintro ⟨more, -⟩
            exact absurd more (Nat.not_lt_zero _)
          rw [dif_neg short]
          exact List.cons_ne_nil _ _
        exact shown nothing
    | cons group rest =>
        have none := List.flatten_eq_nil_iff.mp flat group List.mem_cons_self
        exact filled group List.mem_cons_self none
  · rw [List.concat_eq_append] at *
    have isWord : IsWord last.letters := layout.apart.append_right.1.1
    obtain ⟨letters, c, spelled⟩ : ∃ letters c, last.letters = letters ++ [c] := by
      rcases List.eq_nil_or_concat last.letters with nothing | ⟨letters, c, spelled⟩
      · exact absurd nothing isWord.nonempty
      · exact ⟨letters, c, spelled.trans (List.concat_eq_append ..)⟩
    have solid : isWhitespace c = false :=
      isWord.solid c (spelled ▸ List.mem_append_right _ List.mem_cons_self)
    have located : prepared.text =
        (lead ++ spaced front ++ letters) ++ c :: (last.gap ++ []) := by
      rw [layout.text, spaced_append, spaced_cons, spaced_nil, spelled]
      simp only [List.append_assoc, List.cons_append, List.nil_append]
    obtain ⟨chunk, member, -, inside⟩ := reports.outside _ c _ located solid
    rw [cut.chunks] at member
    obtain ⟨range, inRanges, rfl⟩ := List.mem_map.mp member
    obtain ⟨earlier, later, split⟩ := List.append_of_mem inRanges
    obtain ⟨first, group, rest, same, rfl, -, -⟩ := groupRanges_split split
    have width : c.utf8Size ≤ 4 := Char.utf8Size_le_four c
    rw [phrase_concat, String.utf8Len_append, spelled, String.utf8Len_append,
      String.utf8Len_cons, String.utf8Len_nil] at long
    simp only [String.utf8Len_append] at inside
    -- the real end of the reported chunk
    rw [same, List.flatten_append, List.flatten_cons] at flat
    have ends : utf8Len (spaced first.flatten) + utf8Len (phrase group) ≤
          utf8Len (spaced front) ∨
        utf8Len (spaced first.flatten) + utf8Len (phrase group) =
          utf8Len (spaced front) + utf8Len last.letters := by
      rcases List.eq_nil_or_concat group with none | ⟨inner, own, rfl⟩
      · exact absurd none (filled group (same ▸ List.mem_append_right _ List.mem_cons_self))
      · rw [List.concat_eq_append] at flat ⊢
        rw [phrase_concat, String.utf8Len_append]
        rcases List.eq_nil_or_concat rest.flatten with none | ⟨more, final, behind⟩
        · rw [none, List.append_nil, ← List.append_assoc] at flat
          obtain ⟨fronts, lasts⟩ := List.append_inj' flat rfl
          rw [← (List.cons.inj lasts).1, ← fronts, spaced_append, String.utf8Len_append]
          exact Or.inr (Nat.add_assoc _ _ _).symm
        · rw [behind, List.concat_eq_append, ← List.append_assoc, ← List.append_assoc] at flat
          obtain ⟨fronts, -⟩ := List.append_inj' flat rfl
          refine Or.inl ?_
          rw [← fronts]
          simp only [spaced_append, spaced_cons, spaced_nil, String.utf8Len_append,
            String.utf8Len_nil]
          omega
    simp only [chunkAt, asU32] at inside
    rw [spelled, String.utf8Len_append, String.utf8Len_cons, String.utf8Len_nil] at ends
    have power : 2 ^ 32 = 4294967296 := rfl
    rw [power] at inside
    omega

/-- Ranges that fit are reported as they are. -/
theorem reports_of_fits {ranges : List (Nat × Nat)} (cut : CutInto prepared maxWords ranges)
    (fits : ∀ range ∈ ranges, range.2 ≤ wordMax 32) :
    ReportsRanges prepared.text (chunkPreparedSpeech prepared maxWords) := by
  have starts : ∀ range ∈ ranges, asU32 range.1 = range.1 := fun range member =>
    asU32_of_le (Nat.le_trans (Nat.le_of_lt (cut.filled range member)) (fits range member))
  have stops : ∀ range ∈ ranges, asU32 range.2 = range.2 := fun range member =>
    asU32_of_le (fits range member)
  rw [cut.chunks]
  refine ⟨?_, ?_, ?_, ?_⟩
  · intro chunk member
    obtain ⟨range, inRanges, rfl⟩ := List.mem_map.mp member
    show slice _ _ _ = slice _ (asU32 range.1) (asU32 range.2)
    rw [starts range inRanges, stops range inRanges]
  · intro chunk member
    obtain ⟨range, inRanges, rfl⟩ := List.mem_map.mp member
    show asU32 range.1 < asU32 range.2
    rw [starts range inRanges, stops range inRanges]
    exact cut.filled range inRanges
  · rw [List.pairwise_map]
    refine List.Pairwise.imp_of_mem (fun inFirst inSecond apart => ?_) cut.increasing
    show asU32 _ < asU32 _
    rw [stops _ inFirst, starts _ inSecond]
    exact apart
  · intro before c after split letter
    obtain ⟨range, member, low, high⟩ := cut.outside before c after split letter
    refine ⟨chunkAt prepared range, List.mem_map_of_mem member, ?_, ?_⟩
    · show asU32 range.1 ≤ _
      rw [starts range member]
      exact low
    · show _ < asU32 range.2
      rw [stops range member]
      exact high

end

/-- **Chunking loses, repeats and reorders no word.** A text with more words than the limit
is cut into ranges; their chunks report them exactly if every word ends within a `u32`. -/
theorem chunkPreparedSpeech_lossless (prepared : PreparedSpeechText) {maxWords : Nat}
    (positive : 0 < maxWords) :
    (chunkPreparedSpeech prepared maxWords).flatMap
        (fun chunk => splitWhitespace chunk.text) = splitWhitespace prepared.text ∧
      ((splitWhitespace prepared.text).length ≤ maxWords →
        chunkPreparedSpeech prepared maxWords =
          [⟨prepared.text, prepared.capitalizationTones, 0, asU32 (utf8Len prepared.text)⟩]) ∧
      (maxWords < (splitWhitespace prepared.text).length →
        ∃ ranges, CutInto prepared maxWords ranges ∧
          (ReportsRanges prepared.text (chunkPreparedSpeech prepared maxWords) ↔
            ∀ span ∈ wordSpans prepared.text, span.2 ≤ wordMax 32)) := by
  obtain ⟨lead, words, layout⟩ := exists_layout prepared.text
  have spans := wordSpans_layout layout
  have letters := splitWhitespace_layout layout
  have count : (wordSpans prepared.text).length = (splitWhitespace prepared.text).length := by
    rw [spans, length_rangesFrom, letters, List.length_map]
  have whole : (splitWhitespace prepared.text).length ≤ maxWords →
      chunkPreparedSpeech prepared maxWords =
        [⟨prepared.text, prepared.capitalizationTones, 0, asU32 (utf8Len prepared.text)⟩] := by
    intro short
    unfold chunkPreparedSpeech
    rw [dif_neg fun more => Nat.not_lt.mpr (count ▸ short) more.1]
  rcases Nat.lt_or_ge maxWords (splitWhitespace prepared.text).length with long | short
  · have more : maxWords < words.length := by
      rw [letters, List.length_map] at long
      exact long
    obtain ⟨groups, flat, filled, cut⟩ := cutInto_groups layout positive more
    refine ⟨?_, whole, fun _ => ⟨_, cut, ?_, ?_⟩⟩
    · have all := @wordCount_groups prepared lead words layout [] groups flat filled
      rw [List.flatten_nil, spaced_nil, String.utf8Len_nil, Nat.add_zero, flat, ← letters] at all
      rw [cut.chunks, List.flatMap_map]
      exact all
    · intro reports span member
      have fits := reports_fits layout cut flat filled reports
      rw [spans] at member
      obtain ⟨before, word, after, split, rfl⟩ := mem_rangesFrom member
      refine Nat.le_trans ?_ fits
      have inPhrase := phrase_prefix before word after
      rw [← split] at inPhrase
      show utf8Len lead + utf8Len (spaced before) + utf8Len word.letters ≤ _
      omega
    · intro fits
      refine reports_of_fits cut fun range member => ?_
      obtain ⟨earlier, later, split⟩ := List.append_of_mem member
      obtain ⟨first, group, rest, same, rfl, -, -⟩ := groupRanges_split split
      rcases List.eq_nil_or_concat group with none | ⟨inner, last, rfl⟩
      · exact absurd none (filled group (same ▸ List.mem_append_right _ List.mem_cons_self))
      · rw [List.concat_eq_append] at *
        have spanned : (utf8Len lead + utf8Len (spaced (first.flatten ++ inner)),
            utf8Len lead + utf8Len (spaced (first.flatten ++ inner)) + utf8Len last.letters) ∈
              wordSpans prepared.text := by
          rw [spans, ← flat, same, List.flatten_append, List.flatten_cons, List.append_assoc,
            ← List.append_assoc, rangesFrom_append]
          exact List.mem_append_right _ List.mem_cons_self
        have bound := fits _ spanned
        rw [phrase_concat, String.utf8Len_append]
        rw [spaced_append, String.utf8Len_append] at bound
        show utf8Len lead + utf8Len (spaced first.flatten) + _ ≤ _
        simp only at bound
        omega
  · refine ⟨?_, whole, fun long => absurd long (Nat.not_lt.mpr short)⟩
    rw [whole short]
    exact List.append_nil _

/-! ## Two words far apart -/

/-- Two words with this many spaces between them. -/
def farWords (count : Nat) : PreparedSpeechText :=
  ⟨'a' :: (List.replicate count ' ' ++ ['b']), []⟩

/-- Two words are cut between them. -/
theorem chunkPreparedSpeech_near :
    (chunkPreparedSpeech (farWords 1) 1).flatMap (fun chunk => splitWhitespace chunk.text) =
        splitWhitespace (farWords 1).text ∧
      ∃ ranges, CutInto (farWords 1) 1 ranges ∧
        (ReportsRanges (farWords 1).text (chunkPreparedSpeech (farWords 1) 1) ↔
          ∀ span ∈ wordSpans (farWords 1).text, span.2 ≤ wordMax 32) := by
  have two : (splitWhitespace (farWords 1).text).length = 2 := by decide
  obtain ⟨kept, -, cut⟩ := @chunkPreparedSpeech_lossless (farWords 1) 1 (by decide)
  exact ⟨kept, cut (by rw [two]; decide)⟩

theorem farWords_layout {count : Nat} (some : 0 < count) :
    Layout (farWords count).text [] [⟨['a'], List.replicate count ' '⟩, ⟨['b'], []⟩] := by
  have letter : ∀ c : Char, isWhitespace c = false → IsWord [c] := fun c solid =>
    ⟨List.cons_ne_nil _ _, fun d member => by rw [List.mem_singleton.mp member, solid]⟩
  refine ⟨rfl, fun _ member => (List.not_mem_nil member).elim, ⟨letter 'a' rfl, ?_, fun _ => ?_⟩,
    ⟨letter 'b' rfl, fun _ member => (List.not_mem_nil member).elim, fun more => absurd rfl more⟩,
    trivial⟩
  · intro c member
    rw [List.eq_of_mem_replicate member]
    rfl
  · rw [← List.length_pos_iff, List.length_replicate]
    exact some

/-- A word behind too many spaces is not where its chunk says. -/
theorem farWords_wraps {count : Nat} (far : wordMax 32 ≤ count) :
    (splitWhitespace (farWords count).text).length = 2 ∧
      ¬ ReportsRanges (farWords count).text (chunkPreparedSpeech (farWords count) 1) := by
  have limit : wordMax 32 = 4294967295 := rfl
  have layout := @farWords_layout count (by omega)
  obtain ⟨groups, flat, filled, cut⟩ := cutInto_groups layout Nat.one_pos (Nat.lt_succ_self 1)
  refine ⟨?_, fun reports => ?_⟩
  · rw [splitWhitespace_layout layout]
    rfl
  · have fits := reports_fits layout cut flat filled reports
    rw [phrase, phrase, String.utf8Len_append, String.utf8Len_append, utf8Len_spaces] at fits
    have first : utf8Len ['a'] = 1 := rfl
    have second : utf8Len ['b'] = 1 := rfl
    simp only [first, second] at fits
    omega

/-- The chunks of two words with four gigabytes of spaces between them do not report their
ranges. -/
theorem chunkPreparedSpeech_wraps :
    1 < (splitWhitespace (farWords (2 ^ 32)).text).length ∧
      ¬ ReportsRanges (farWords (2 ^ 32)).text (chunkPreparedSpeech (farWords (2 ^ 32)) 1) := by
  obtain ⟨two, wrong⟩ := @farWords_wraps (2 ^ 32) (by decide)
  exact ⟨by rw [two]; decide, wrong⟩

end Omnivox.Text
