import Mathlib

/-!
# Pools of live items

Items that are created, passed from place to place and dropped form a multiset:
moving one changes nothing, and dropping one removes it. A pair of counters keeps
the number of the live items and their total weight (`Tally`).
-/

set_option autoImplicit false

namespace Omnivox.Foundations

variable {T : Type*}

/-- One place of a list, and the rest. -/
theorem coe_eraseIdx {list : List T} {index : Nat} {a : T} (found : list[index]? = some a) :
    (list : Multiset T) = a ::ₘ (list.eraseIdx index : Multiset T) := by
  obtain ⟨inside, rfl⟩ := List.getElem?_eq_some_iff.mp found
  exact (Multiset.coe_eq_coe.mpr (List.getElem_cons_eraseIdx_perm inside)).symm

/-- Counters of the number and the weight of the live items. -/
structure Tally (weight : T → Nat) (count total : Nat) (live : Multiset T) : Prop where
  count_eq : count = live.card
  total_eq : total = (live.map weight).sum

namespace Tally

variable {weight : T → Nat} {count total : Nat} {live : Multiset T}

theorem empty : Tally weight 0 0 0 := ⟨rfl, rfl⟩

/-- More items. -/
theorem add (tally : Tally weight count total live) (more : Multiset T) :
    Tally weight (count + more.card) (total + (more.map weight).sum) (more + live) where
  count_eq := by
    rw [Multiset.card_add, tally.count_eq, Nat.add_comm]
  total_eq := by
    rw [Multiset.map_add, Multiset.sum_add, tally.total_eq, Nat.add_comm]

/-- A live item is counted. -/
theorem counted {a : T} (tally : Tally weight count total (a ::ₘ live)) :
    1 ≤ count ∧ weight a ≤ total := by
  have countEq := tally.count_eq
  have totalEq := tally.total_eq
  rw [Multiset.card_cons] at countEq
  rw [Multiset.map_cons, Multiset.sum_cons] at totalEq
  omega

/-- The end of one item. -/
theorem remove {a : T} (tally : Tally weight count total (a ::ₘ live)) :
    Tally weight (count - 1) (total - weight a) live where
  count_eq := by
    rw [tally.count_eq, Multiset.card_cons, Nat.add_sub_cancel]
  total_eq := by
    rw [tally.total_eq, Multiset.map_cons, Multiset.sum_cons, Nat.add_sub_cancel_left]

/-- Fewer items count less. -/
theorem le {more : Multiset T} {count' total' : Nat}
    (tally : Tally weight count total (more + live)) (fewer : Tally weight count' total' live) :
    count' ≤ count ∧ total' ≤ total := by
  have sum := Multiset.sum_add (more.map weight) (live.map weight)
  rw [← Multiset.map_add, ← tally.total_eq, ← fewer.total_eq] at sum
  rw [tally.count_eq, fewer.count_eq, Multiset.card_add]
  omega

end Tally

end Omnivox.Foundations
