import Mathlib

/-!
# Evolving lists

Objects that a system makes are kept in a list, where they stay at their index: a step
changes some of them, and adds new ones at the end. What becomes of an object over a step
is a relation, which composes along a run (`Evolves.trans`).
-/

set_option autoImplicit false

namespace Omnivox.Foundations

variable {α : Type*}

/-- Every element becomes another one at its index. -/
def Evolves (becomes : α → α → Prop) (l l' : List α) : Prop :=
  ∀ (i : Nat) (a : α), l[i]? = some a → ∃ a' : α, l'[i]? = some a' ∧ becomes a a'

theorem Evolves.refl {becomes : α → α → Prop} (stays : ∀ a, becomes a a) (l : List α) :
    Evolves becomes l l :=
  fun _ a found => ⟨a, found, stays a⟩

theorem Evolves.trans {first second both : α → α → Prop} {l l' l'' : List α}
    (early : Evolves first l l') (late : Evolves second l' l'')
    (composes : ∀ a a' a'', first a a' → second a' a'' → both a a'') : Evolves both l l'' := by
  intro i a found
  obtain ⟨a', found', became⟩ := early i a found
  obtain ⟨a'', found'', became'⟩ := late i a' found'
  exact ⟨a'', found'', composes a a' a'' became became'⟩

/-- New elements change none that are there. -/
theorem evolves_append {becomes : α → α → Prop} (stays : ∀ a, becomes a a) (l new : List α) :
    Evolves becomes l (l ++ new) := by
  intro i a found
  obtain ⟨bound, _⟩ := List.getElem?_eq_some_iff.mp found
  exact ⟨a, by rw [List.getElem?_append_left bound, found], stays a⟩

/-- Every element is changed alike. -/
theorem evolves_map {becomes : α → α → Prop} {f : α → α} {l : List α}
    (changes : ∀ a ∈ l, becomes a (f a)) : Evolves becomes l (l.map f) := by
  intro i a found
  refine ⟨f a, ?_, changes a (List.mem_of_getElem? found)⟩
  rw [List.getElem?_map, found]
  rfl

/-- One element is changed. -/
theorem evolves_set {becomes : α → α → Prop} (stays : ∀ a, becomes a a) {l : List α} {i : Nat}
    {a b : α} (there : l[i]? = some a) (changes : becomes a b) : Evolves becomes l (l.set i b) := by
  intro j c found
  by_cases same : i = j
  · subst same
    obtain ⟨bound, _⟩ := List.getElem?_eq_some_iff.mp found
    rw [there] at found
    cases found
    exact ⟨b, List.getElem?_set_self bound, changes⟩
  · exact ⟨c, by rw [List.getElem?_set_ne same, found], stays c⟩

end Omnivox.Foundations
