import Mathlib
import Omnivox.Foundations.Bounded
import Omnivox.Foundations.Landmarks
import Omnivox.Foundations.StableSort

/-!
# The offset mapper

While a scanner writes its output, the mapper waits for it to come past the
requested source offsets in order, and notes how far the output has come there. A
requested offset that the scanner never stops at would keep the mapper waiting,
with zero for it and for every later one.

When the scanner's stops form an ascending trail that meets every requested
offset, each request is answered with the output position of its landmark, cast
to `u32` (`OffsetMapper.finish_recordAll`).
-/

set_option autoImplicit false

namespace Omnivox.Text

open Foundations

/-- The requested offsets in source order, each with its place in the request. -/
structure OffsetMapper where
  pending : List (Nat × Nat)
  next : Nat
  mapped : List Nat
  deriving Repr, DecidableEq

namespace OffsetMapper

def new (offsets : List Nat) : OffsetMapper where
  pending := sortNumbered Prod.fst offsets.zipIdx
  next := 0
  mapped := List.replicate offsets.length 0

/-- The pending entries that the `while` loop of `record` takes. -/
def waiting (mapper : OffsetMapper) (input : Nat) : List (Nat × Nat) :=
  (mapper.pending.drop mapper.next).takeWhile fun entry => entry.1 == input

def record (mapper : OffsetMapper) (input output : Nat) : OffsetMapper :=
  { mapper with
    mapped := (mapper.waiting input).foldl (fun mapped entry => mapped.set entry.2 (asU32 output))
      mapper.mapped
    next := mapper.next + (mapper.waiting input).length }

def finish (mapper : OffsetMapper) : List Nat := mapper.mapped

/-! ## Along a trail -/

/-- The mapper after a trail of landmarks. -/
def recordAll (mapper : OffsetMapper) (trail : List Landmark) : OffsetMapper :=
  trail.foldl (fun mapper landmark => mapper.record landmark.input landmark.output) mapper

theorem recordAll_cons (mapper : OffsetMapper) (landmark : Landmark) (rest : List Landmark) :
    mapper.recordAll (landmark :: rest) =
      (mapper.record landmark.input landmark.output).recordAll rest :=
  rfl

/-- A request of the mapper: an offset and its place. -/
theorem mem_pending {offsets : List Nat} {entry : Nat × Nat} :
    entry ∈ (new offsets).pending ↔ offsets[entry.2]? = some entry.1 := by
  have perm := (sortNumbered_stable Prod.fst offsets.zipIdx).perm
  exact perm.mem_iff.trans List.mem_zipIdx_iff_getElem?

theorem pending_sorted (offsets : List Nat) :
    (new offsets).pending.Pairwise fun first second => first.1 ≤ second.1 :=
  (sortNumbered_stable Prod.fst offsets.zipIdx).sorted

/-- No two requests have one place. -/
theorem pending_places (offsets : List Nat) :
    (new offsets).pending.Pairwise fun first second => first.2 ≠ second.2 := by
  have perm := (sortNumbered_stable Prod.fst offsets.zipIdx).perm
  have numbered : offsets.zipIdx.Pairwise fun first second => first.2 ≠ second.2 :=
    (zipIdx_pairwise offsets 0).imp fun early => Nat.ne_of_lt early
  exact numbered.perm perm.symm fun apart => apart.symm

/-- **The mapper along a trail**: the requests before `next` have their answer, and
the others are further in the source than every landmark so far. -/
structure Answers (position : Nat → Nat) (offsets : List Nat) (passed : List Landmark)
    (mapper : OffsetMapper) : Prop where
  pending : mapper.pending = (new offsets).pending
  places : mapper.mapped.length = offsets.length
  answered : ∀ entry ∈ mapper.pending.take mapper.next,
    mapper.mapped[entry.2]? = some (asU32 (position entry.1))
  waiting : ∀ entry ∈ mapper.pending.drop mapper.next,
    ∀ landmark ∈ passed, landmark.input ≠ entry.1

theorem Answers.start (position : Nat → Nat) (offsets : List Nat) :
    Answers position offsets [] (new offsets) where
  pending := rfl
  places := List.length_replicate
  answered := by
    intro entry member
    rw [show (new offsets).next = 0 from rfl, List.take_zero] at member
    cases member
  waiting := by
    intro entry _ landmark member
    cases member

/-- The answers of one `while` loop: every place of the entries has the value. -/
theorem getElem?_answer (entries : List (Nat × Nat)) (mapped : List Nat) (value place : Nat) :
    (entries.foldl (fun mapped entry => mapped.set entry.2 value) mapped)[place]? =
      if place ∈ entries.map Prod.snd ∧ place < mapped.length then some value
      else mapped[place]? := by
  induction entries generalizing mapped with
  | nil => simp
  | cons entry rest ih =>
      rw [List.foldl_cons, ih, List.length_set, List.map_cons, List.getElem?_set]
      by_cases here : entry.2 = place
      · by_cases inside : place < mapped.length
        · simp [here, inside]
        · simp [here, inside]
      · have further : place ∈ entry.2 :: rest.map Prod.snd ↔ place ∈ rest.map Prod.snd := by
          rw [List.mem_cons]
          exact or_iff_right fun same => here same.symm
        simp only [further, here, if_false]

theorem length_answer (entries : List (Nat × Nat)) (mapped : List Nat) (value : Nat) :
    (entries.foldl (fun mapped entry => mapped.set entry.2 value) mapped).length =
      mapped.length := by
  induction entries generalizing mapped with
  | nil => rfl
  | cons entry rest ih => rw [List.foldl_cons, ih, List.length_set]

/-- Behind the entries that wait for an input there is none that waits for it. -/
theorem ne_of_mem_dropWhile {entries : List (Nat × Nat)} {input : Nat}
    (sorted : entries.Pairwise fun first second => first.1 ≤ second.1)
    (ahead : ∀ entry ∈ entries, input ≤ entry.1) :
    ∀ entry ∈ entries.dropWhile fun entry => entry.1 == input, input ≠ entry.1 := by
  induction entries with
  | nil =>
      intro entry member
      cases member
  | cons first rest ih =>
      obtain ⟨above, sortedRest⟩ := List.pairwise_cons.mp sorted
      rw [List.dropWhile_cons]
      split
      · exact ih sortedRest fun entry member => ahead entry (List.mem_cons_of_mem first member)
      · rename_i other
        have further : input < first.1 := by
          have least := ahead first List.mem_cons_self
          have apart : first.1 ≠ input := by simpa using other
          omega
        intro entry member
        rcases List.mem_cons.mp member with rfl | later
        · exact Nat.ne_of_lt further
        · exact Nat.ne_of_lt (Nat.lt_of_lt_of_le further (above entry later))

section Trail

variable {position : Nat → Nat} {offsets : List Nat} {passed : List Landmark}
  {mapper : OffsetMapper}

/-- Every request that still waits is ahead of the next landmark. -/
theorem Answers.ahead (answers : Answers position offsets passed mapper) {landmark : Landmark}
    {rest : List Landmark} (ascending : Ascending (passed ++ landmark :: rest))
    (met : ∀ offset ∈ offsets, ⟨offset, position offset⟩ ∈ passed ++ landmark :: rest) :
    ∀ entry ∈ mapper.pending.drop mapper.next, landmark.input ≤ entry.1 := by
  intro entry member
  have request := List.mem_of_mem_drop member
  rw [answers.pending, mem_pending] at request
  have stop := met entry.1 (List.mem_of_getElem? request)
  rcases List.mem_append.mp stop with before | after
  · exact absurd rfl (answers.waiting entry member _ before)
  · have advances := (List.pairwise_cons.mp (List.pairwise_append.mp ascending).2.1).1
    rcases List.mem_cons.mp after with here | later
    · exact Nat.le_of_eq (congrArg Landmark.input here.symm)
    · exact (advances _ later).input_le

/-- **One landmark**: the requests for its input are answered with its output. -/
theorem Answers.record (answers : Answers position offsets passed mapper) {landmark : Landmark}
    {rest : List Landmark} (ascending : Ascending (passed ++ landmark :: rest))
    (met : ∀ offset ∈ offsets, ⟨offset, position offset⟩ ∈ passed ++ landmark :: rest) :
    Answers position offsets (passed ++ [landmark])
      (mapper.record landmark.input landmark.output) := by
  have ahead := answers.ahead ascending met
  let others := (mapper.pending.drop mapper.next).dropWhile fun entry => entry.1 == landmark.input
  have split : mapper.pending.drop mapper.next = mapper.waiting landmark.input ++ others :=
    List.takeWhile_append_dropWhile.symm
  have sorted : (mapper.pending.drop mapper.next).Pairwise fun first second => first.1 ≤ second.1 := by
    rw [answers.pending]
    exact (pending_sorted offsets).drop
  have taken : mapper.pending.take (mapper.next + (mapper.waiting landmark.input).length) =
      mapper.pending.take mapper.next ++ mapper.waiting landmark.input := by
    rw [List.take_add, split, List.take_left]
  have dropped : mapper.pending.drop (mapper.next + (mapper.waiting landmark.input).length) =
      others := by
    rw [← List.drop_drop, split, List.drop_left]
  refine ⟨answers.pending, ?_, ?_, ?_⟩
  · exact (length_answer _ _ _).trans answers.places
  · intro entry member
    change entry ∈ mapper.pending.take (mapper.next + (mapper.waiting landmark.input).length) at member
    change (List.foldl _ _ _)[entry.2]? = _
    rw [taken, List.mem_append] at member
    rw [getElem?_answer, answers.places]
    rcases member with early | here
    · -- answered before, and its place is not asked for again
      have apart : entry.2 ∉ (mapper.waiting landmark.input).map Prod.snd := by
        intro again
        obtain ⟨other, later, same⟩ := List.mem_map.mp again
        have places := pending_places offsets
        rw [← answers.pending, ← List.take_append_drop mapper.next mapper.pending, split,
          List.pairwise_append] at places
        exact places.2.2 entry early other (List.mem_append_left _ later) same.symm
      rw [if_neg fun both => apart both.1]
      exact answers.answered entry early
    · have waits : entry ∈ mapper.pending.drop mapper.next := by
        rw [split]
        exact List.mem_append_left _ here
      have request := List.mem_of_mem_drop waits
      rw [answers.pending, mem_pending] at request
      obtain ⟨inside, _⟩ := List.getElem?_eq_some_iff.mp request
      have matches_input : (entry.1 == landmark.input) = true :=
        List.mem_takeWhile_imp (p := fun entry : Nat × Nat => entry.1 == landmark.input) here
      have reached : entry.1 = landmark.input := beq_iff_eq.mp matches_input
      have stop := met entry.1 (List.mem_of_getElem? request)
      have same := ascending.determined stop
        (List.mem_append_right passed (List.mem_cons_self (a := landmark))) reached
      rw [if_pos ⟨List.mem_map_of_mem here, inside⟩, ← same]
  · intro entry member stop passedBy
    change entry ∈ mapper.pending.drop (mapper.next + (mapper.waiting landmark.input).length) at member
    rw [dropped] at member
    rcases List.mem_append.mp passedBy with before | here
    · refine answers.waiting entry ?_ stop before
      rw [split]
      exact List.mem_append_right _ member
    · rw [List.mem_singleton.mp here]
      exact ne_of_mem_dropWhile sorted ahead entry member

/-- Every landmark of the trail in order. -/
theorem Answers.recordAll (answers : Answers position offsets passed mapper) (rest : List Landmark)
    (ascending : Ascending (passed ++ rest))
    (met : ∀ offset ∈ offsets, ⟨offset, position offset⟩ ∈ passed ++ rest) :
    Answers position offsets (passed ++ rest) (mapper.recordAll rest) := by
  induction rest generalizing passed mapper with
  | nil => rwa [List.append_nil]
  | cons landmark rest ih =>
      have next := answers.record ascending met
      have regroup : passed ++ landmark :: rest = passed ++ [landmark] ++ rest :=
        (List.append_assoc passed [landmark] rest).symm
      rw [regroup] at ascending met ⊢
      exact ih next ascending met

end Trail

/-- **The mapper answers every request.** Along an ascending trail that meets every
requested offset, the answers are the output positions of the landmarks, in the
order of the requests. -/
theorem finish_recordAll {position : Nat → Nat} {offsets : List Nat} {trail : List Landmark}
    (ascending : Ascending trail) (met : ∀ offset ∈ offsets, ⟨offset, position offset⟩ ∈ trail) :
    ((new offsets).recordAll trail).finish = offsets.map fun offset => asU32 (position offset) := by
  have answers := (Answers.start position offsets).recordAll trail ascending met
  refine List.ext_getElem? fun place => ?_
  rw [List.getElem?_map]
  cases asked : offsets[place]? with
  | none =>
      have outside := List.getElem?_eq_none_iff.mp asked
      exact List.getElem?_eq_none_iff.mpr (answers.places.trans_le outside)
  | some offset =>
      have request : (offset, place) ∈ ((new offsets).recordAll trail).pending := by
        rw [answers.pending, mem_pending]
        exact asked
      rw [← List.take_append_drop ((new offsets).recordAll trail).next
        ((new offsets).recordAll trail).pending] at request
      rcases List.mem_append.mp request with answered | waits
      · exact answers.answered _ answered
      · have stop := met offset (List.mem_of_getElem? asked)
        exact absurd rfl (answers.waiting _ waits _ stop)

/-- Every answer is a `u32`. -/
theorem recordAll_le (mapper : OffsetMapper) (trail : List Landmark)
    (small : ∀ answer ∈ mapper.mapped, answer ≤ wordMax 32) :
    ∀ answer ∈ (mapper.recordAll trail).finish, answer ≤ wordMax 32 := by
  induction trail generalizing mapper with
  | nil => exact small
  | cons landmark rest ih =>
      refine ih (mapper.record landmark.input landmark.output) ?_
      intro answer member
      obtain ⟨place, found⟩ := List.mem_iff_getElem?.mp member
      change (List.foldl _ _ _)[place]? = _ at found
      rw [getElem?_answer] at found
      split at found
      · rw [← Option.some.inj found]
        exact asU32_le _
      · exact small answer (List.mem_of_getElem? found)

end OffsetMapper

end Omnivox.Text
