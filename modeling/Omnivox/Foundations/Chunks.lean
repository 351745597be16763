import Mathlib

/-!
# Cutting a list into chunks

A list is cut into as many chunks of one size as fit, from the front, and a rest
shorter than a chunk is left over.

A stream that is cut this way piece by piece, keeping the rest in front of the
next piece, is cut like the whole stream at once (`chunksExact_append`,
`chunkRest_append`).
-/

set_option autoImplicit false

namespace Omnivox.Foundations

variable {α : Type*}

/-- The complete chunks of a list. -/
def chunksExact (size : Nat) (l : List α) : List (List α) :=
  (List.range (l.length / size)).map fun i => (l.drop (i * size)).take size

/-- What the complete chunks leave over. -/
def chunkRest (size : Nat) (l : List α) : List α := l.drop (l.length / size * size)

theorem chunksExact_length (size : Nat) (l : List α) :
    (chunksExact size l).length = l.length / size := by
  rw [chunksExact, List.length_map, List.length_range]

/-- Every chunk has the size. -/
theorem length_of_mem_chunksExact {size : Nat} {l chunk : List α}
    (member : chunk ∈ chunksExact size l) : chunk.length = size := by
  obtain ⟨i, inRange, rfl⟩ := List.mem_map.mp member
  have below : i + 1 ≤ l.length / size := List.mem_range.mp inRange
  have fits : (i + 1) * size ≤ l.length :=
    Nat.le_trans (Nat.mul_le_mul_right size below) (Nat.div_mul_le_self _ _)
  rw [Nat.succ_mul] at fits
  rw [List.length_take, List.length_drop]
  omega

theorem chunksExact_of_lt {size : Nat} {l : List α} (short : l.length < size) :
    chunksExact size l = [] := by
  rw [chunksExact, Nat.div_eq_of_lt short]
  rfl

theorem chunkRest_of_lt {size : Nat} {l : List α} (short : l.length < size) :
    chunkRest size l = l := by
  rw [chunkRest, Nat.div_eq_of_lt short, Nat.zero_mul, List.drop_zero]

/-- A list of complete chunks has no rest. -/
theorem chunkRest_of_aligned {size : Nat} {l : List α} (aligned : l.length % size = 0) :
    chunkRest size l = [] := by
  have whole : l.length / size * size = l.length := by
    rw [Nat.mul_comm]
    have parts := Nat.div_add_mod l.length size
    omega
  rw [chunkRest, whole, List.drop_length]

variable {size : Nat} (positive : 0 < size)
include positive

/-- The first chunk, and the chunks of what follows it. -/
theorem chunksExact_of_le {l : List α} (full : size ≤ l.length) :
    chunksExact size l = l.take size :: chunksExact size (l.drop size) := by
  have count : l.length / size = (l.length - size) / size + 1 :=
    Nat.div_eq_sub_div positive full
  rw [chunksExact, chunksExact, List.length_drop, count, List.range_succ_eq_map, List.map_cons,
    Nat.zero_mul, List.drop_zero, List.map_map]
  refine congrArg (l.take size :: ·) (List.map_congr_left fun i _ => ?_)
  rw [Function.comp_apply, List.drop_drop, Nat.succ_mul, Nat.add_comm size]

theorem chunkRest_of_le {l : List α} (full : size ≤ l.length) :
    chunkRest size l = chunkRest size (l.drop size) := by
  have count : l.length / size = (l.length - size) / size + 1 :=
    Nat.div_eq_sub_div positive full
  rw [chunkRest, chunkRest, List.length_drop, List.drop_drop, count, Nat.succ_mul,
    Nat.add_comm size]

theorem chunkRest_length_lt (l : List α) : (chunkRest size l).length < size := by
  have parts := Nat.div_add_mod l.length size
  have small := Nat.mod_lt l.length positive
  rw [chunkRest, List.length_drop]
  rw [Nat.mul_comm] at parts
  omega

/-- The chunks of a list extended at its end: those it had, and those of its rest
with the extension. -/
theorem chunksExact_append (first second : List α) :
    chunksExact size (first ++ second) =
      chunksExact size first ++ chunksExact size (chunkRest size first ++ second) := by
  induction length : first.length using Nat.strong_induction_on generalizing first with
  | _ n ih =>
      rcases Nat.lt_or_ge first.length size with short | full
      · rw [chunksExact_of_lt short, chunkRest_of_lt short, List.nil_append]
      · have whole : size ≤ (first ++ second).length := by
          rw [List.length_append]
          exact Nat.le_trans full (Nat.le_add_right _ _)
        have shorter : (first.drop size).length < n := by
          rw [List.length_drop]
          omega
        rw [chunksExact_of_le positive whole, chunksExact_of_le positive full,
          chunkRest_of_le positive full, List.take_append_of_le_length full,
          List.drop_append_of_le_length full, ih _ shorter _ rfl, List.cons_append]

theorem chunkRest_append (first second : List α) :
    chunkRest size (first ++ second) = chunkRest size (chunkRest size first ++ second) := by
  induction length : first.length using Nat.strong_induction_on generalizing first with
  | _ n ih =>
      rcases Nat.lt_or_ge first.length size with short | full
      · rw [chunkRest_of_lt short]
      · have whole : size ≤ (first ++ second).length := by
          rw [List.length_append]
          exact Nat.le_trans full (Nat.le_add_right _ _)
        have shorter : (first.drop size).length < n := by
          rw [List.length_drop]
          omega
        rw [chunkRest_of_le positive whole, chunkRest_of_le positive full,
          List.drop_append_of_le_length full, ih _ shorter _ rfl]

/-- Behind complete chunks, cutting starts afresh. -/
theorem chunksExact_append_of_aligned {first : List α} (aligned : first.length % size = 0)
    (second : List α) :
    chunksExact size (first ++ second) = chunksExact size first ++ chunksExact size second := by
  rw [chunksExact_append positive, chunkRest_of_aligned aligned, List.nil_append]

/-! ## With the rest -/

omit positive in
/-- The complete chunks, and the rest as a last one when there is any. -/
def chunks (size : Nat) (l : List α) : List (List α) :=
  chunksExact size l ++ if (chunkRest size l).isEmpty then [] else [chunkRest size l]

/-- Nothing is lost between the complete chunks and the rest. -/
theorem chunksExact_flatten_append_rest (l : List α) :
    (chunksExact size l).flatten ++ chunkRest size l = l := by
  induction length : l.length using Nat.strong_induction_on generalizing l with
  | _ n ih =>
      rcases Nat.lt_or_ge l.length size with short | full
      · rw [chunksExact_of_lt short, chunkRest_of_lt short]
        rfl
      · have shorter : (l.drop size).length < n := by
          rw [List.length_drop]
          omega
        rw [chunksExact_of_le positive full, chunkRest_of_le positive full, List.flatten_cons,
          List.append_assoc, ih _ shorter _ rfl, List.take_append_drop]

/-- **Chunks are a cut of the list.** -/
theorem chunks_flatten (l : List α) : (chunks size l).flatten = l := by
  have whole := chunksExact_flatten_append_rest positive l
  unfold chunks
  by_cases rest : (chunkRest size l).isEmpty = true
  · rw [if_pos rest, List.append_nil]
    rwa [List.isEmpty_iff.mp rest, List.append_nil] at whole
  · rw [if_neg rest, List.flatten_append, List.flatten_singleton]
    exact whole

/-- No chunk is empty or too long. -/
theorem mem_chunks {l chunk : List α} (member : chunk ∈ chunks size l) :
    chunk ≠ [] ∧ chunk.length ≤ size := by
  rcases List.mem_append.mp member with exact | rest
  · have length := length_of_mem_chunksExact exact
    refine ⟨?_, Nat.le_of_eq length⟩
    rintro rfl
    rw [← length] at positive
    exact Nat.lt_irrefl 0 positive
  · by_cases none : (chunkRest size l).isEmpty = true
    · rw [if_pos none] at rest
      cases rest
    · rw [if_neg none, List.mem_singleton] at rest
      subst rest
      refine ⟨?_, Nat.le_of_lt (chunkRest_length_lt positive l)⟩
      intro empty
      exact none (List.isEmpty_iff.mpr empty)

/-- There are no more chunks than elements. -/
theorem chunks_length_le (l : List α) : (chunks size l).length ≤ l.length := by
  have counted : ∀ pieces : List (List α), (∀ piece ∈ pieces, piece ≠ []) →
      pieces.length ≤ pieces.flatten.length := by
    intro pieces nonempty
    induction pieces with
    | nil => exact Nat.le_refl 0
    | cons piece rest ih =>
        have tail := ih fun later member => nonempty later (List.mem_cons_of_mem _ member)
        have here := List.length_pos_iff.mpr (nonempty piece List.mem_cons_self)
        rw [List.flatten_cons, List.length_append, List.length_cons]
        omega
  have bound := counted (chunks size l) fun piece member => (mem_chunks positive member).1
  rwa [chunks_flatten positive] at bound

omit positive in
/-- What divides the list and the size divides every chunk. -/
theorem dvd_length_of_mem_chunks {unit : Nat} {l chunk : List α} (sized : unit ∣ size)
    (whole : unit ∣ l.length) (member : chunk ∈ chunks size l) : unit ∣ chunk.length := by
  rcases List.mem_append.mp member with exact | rest
  · rwa [length_of_mem_chunksExact exact]
  · by_cases none : (chunkRest size l).isEmpty = true
    · rw [if_pos none] at rest
      cases rest
    · rw [if_neg none, List.mem_singleton] at rest
      subst rest
      rw [chunkRest, List.length_drop]
      exact Nat.dvd_sub whole (Dvd.dvd.mul_left sized _)

end Omnivox.Foundations
