import Mathlib

/-!
# Brackets around the marked part of a list

Some elements of a list are marked. Unless none is, the list has a bracket: an
unmarked front, a middle that starts and ends with a marked element, and an
unmarked back.

A bracket is followed along a growing list (`Bracketed.marked`,
`Bracketed.unmarked`), and read off by a search from either end
(`Bracketed.find_first`, `Bracketed.find_last`).
-/

set_option autoImplicit false

namespace Omnivox.Foundations

variable {α : Type*}

/-- No element is marked. -/
def Unmarked (p : α → Bool) (l : List α) : Prop := ∀ a ∈ l, p a = false

theorem unmarked_nil (p : α → Bool) : Unmarked p [] := by
  intro a member
  cases member

theorem Unmarked.concat {p : α → Bool} {l : List α} {a : α} (unmarked : Unmarked p l)
    (mark : p a = false) : Unmarked p (l ++ [a]) := by
  intro b member
  rcases List.mem_append.mp member with before | last
  · exact unmarked b before
  · rw [List.mem_singleton.mp last]
    exact mark

/-- The middle starts and ends with a marked element, and nothing around it is
marked. -/
structure Bracketed (p : α → Bool) (front middle back : List α) : Prop where
  front : Unmarked p front
  back : Unmarked p back
  opening : ∃ first rest, middle = first :: rest ∧ p first = true
  closing : ∃ rest last, middle = rest ++ [last] ∧ p last = true

/-! ## Growing at the back -/

/-- The first marked element opens the middle. -/
theorem Unmarked.bracketed {p : α → Bool} {l : List α} {a : α} (unmarked : Unmarked p l)
    (mark : p a = true) : Bracketed p l [a] [] :=
  ⟨unmarked, unmarked_nil p, ⟨a, [], rfl, mark⟩, ⟨[], a, rfl, mark⟩⟩

/-- A further marked element moves the back into the middle. -/
theorem Bracketed.marked {p : α → Bool} {front middle back : List α} {a : α}
    (bracket : Bracketed p front middle back) (mark : p a = true) :
    Bracketed p front (middle ++ back ++ [a]) [] := by
  obtain ⟨first, rest, rfl, opens⟩ := bracket.opening
  exact ⟨bracket.front, unmarked_nil p, ⟨first, rest ++ back ++ [a], rfl, opens⟩,
    ⟨first :: rest ++ back, a, rfl, mark⟩⟩

theorem Bracketed.unmarked {p : α → Bool} {front middle back : List α} {a : α}
    (bracket : Bracketed p front middle back) (mark : p a = false) :
    Bracketed p front middle (back ++ [a]) :=
  ⟨bracket.front, bracket.back.concat mark, bracket.opening, bracket.closing⟩

/-! ## Reading a bracket -/

/-- The back is what a scan from the end passes over. -/
theorem Bracketed.rtakeWhile {p : α → Bool} {front middle back : List α}
    (bracket : Bracketed p front middle back) :
    (front ++ middle ++ back).rtakeWhile (fun a => !p a) = back := by
  obtain ⟨rest, last, rfl, closes⟩ := bracket.closing
  have passes : ∀ a ∈ back.reverse, (!p a) = true := by
    intro a member
    rw [bracket.back a (List.mem_reverse.mp member)]
    rfl
  have stops : ((front ++ (rest ++ [last])).reverse).takeWhile (fun a => !p a) = [] := by
    simp [closes]
  rw [List.rtakeWhile, List.reverse_append, List.takeWhile_append_of_pos passes, stops,
    List.append_nil, List.reverse_reverse]

/-- The mark of the element at an index, if there is one. -/
def markedAt (p : α → Bool) (l : List α) (i : Nat) : Bool := (l[i]?).any p

theorem Unmarked.markedAt {p : α → Bool} {l : List α} (unmarked : Unmarked p l) (i : Nat) :
    markedAt p l i = false := by
  unfold Foundations.markedAt
  cases held : l[i]? with
  | none => rfl
  | some a => exact unmarked a (List.mem_of_getElem? held)

theorem Unmarked.find_none {p : α → Bool} {l : List α} (unmarked : Unmarked p l)
    (indices : List Nat) : indices.find? (Foundations.markedAt p l) = none := by
  rw [List.find?_eq_none]
  intro i _
  rw [unmarked.markedAt i]
  exact Bool.false_ne_true

theorem markedAt_front {p : α → Bool} {front rest : List α} (unmarked : Unmarked p front)
    {i : Nat} (inFront : i < front.length) : markedAt p (front ++ rest) i = false := by
  unfold markedAt
  rw [List.getElem?_append_left inFront]
  exact unmarked.markedAt i

theorem markedAt_append_right {p : α → Bool} {front rest : List α} {i : Nat}
    (behind : front.length ≤ i) : markedAt p (front ++ rest) i = markedAt p rest (i - front.length) := by
  unfold markedAt
  rw [List.getElem?_append_right behind]

/-- The first marked index is the length of the front. -/
theorem Bracketed.find_first {p : α → Bool} {front middle back : List α}
    (bracket : Bracketed p front middle back) :
    (List.range (front ++ middle ++ back).length).find? (markedAt p (front ++ middle ++ back)) =
      some front.length := by
  obtain ⟨first, rest, rfl, opens⟩ := bracket.opening
  rw [List.find?_range_eq_some]
  refine ⟨?_, by simp, ?_⟩
  · rw [List.append_assoc, markedAt_append_right (Nat.le_refl _), Nat.sub_self]
    exact opens
  · intro i before
    rw [List.append_assoc, markedAt_front bracket.front before]
    rfl

/-- A search from the end finds the greatest index that satisfies the predicate. -/
theorem find?_range_reverse {p : Nat → Bool} {n i : Nat} (below : i < n) (found : p i = true)
    (last : ∀ j, i < j → j < n → p j = false) : (List.range n).reverse.find? p = some i := by
  induction n with
  | zero => exact absurd below (Nat.not_lt_zero i)
  | succ n ih =>
      rw [List.range_succ, List.reverse_append]
      rcases Nat.lt_or_ge i n with earlier | here
      · have passes : p n = false := last n earlier (Nat.lt_succ_self n)
        rw [List.reverse_singleton, List.singleton_append, List.find?_cons, passes]
        exact ih earlier fun j after before => last j after (Nat.lt_succ_of_lt before)
      · have same : i = n := Nat.le_antisymm (Nat.le_of_lt_succ below) here
        subst same
        rw [List.reverse_singleton, List.singleton_append, List.find?_cons, found]

/-- The last marked index is the last of the middle. -/
theorem Bracketed.find_last {p : α → Bool} {front middle back : List α}
    (bracket : Bracketed p front middle back) :
    (List.range (front ++ middle ++ back).length).reverse.find?
        (markedAt p (front ++ middle ++ back)) =
      some (front.length + middle.length - 1) := by
  obtain ⟨rest, last, rfl, closes⟩ := bracket.closing
  have whole : front ++ (rest ++ [last]) ++ back = (front ++ rest) ++ ([last] ++ back) := by simp
  have index : front.length + (rest ++ [last]).length - 1 = (front ++ rest).length := by
    rw [List.length_append, List.length_singleton, List.length_append]
    omega
  rw [whole, index]
  refine find?_range_reverse (by simp) ?_ ?_
  · rw [markedAt_append_right (Nat.le_refl _), Nat.sub_self]
    exact closes
  · intro j after _
    have behind : (front ++ rest ++ [last]).length ≤ j := by
      rw [List.length_append, List.length_singleton]
      exact after
    rw [← List.append_assoc, markedAt_append_right behind]
    exact bracket.back.markedAt _

theorem Bracketed.middle_pos {p : α → Bool} {front middle back : List α}
    (bracket : Bracketed p front middle back) : 0 < middle.length := by
  obtain ⟨first, rest, rfl, _⟩ := bracket.opening
  exact Nat.succ_pos _

end Omnivox.Foundations
