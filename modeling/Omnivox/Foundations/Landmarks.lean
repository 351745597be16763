import Mathlib

/-!
# Landmarks of a translation

A translation that walks over its input can note landmarks on the way: how far it
has come in the input, and how far in the output. A landmark may be noted twice,
but neither position ever goes back.

On such a trail the input position determines the landmark
(`Ascending.determined`), and later input is never behind earlier output
(`Ascending.mono`).
-/

set_option autoImplicit false

namespace Omnivox.Foundations

/-- A position in the input with the position in the output that belongs to it. -/
structure Landmark where
  input : Nat
  output : Nat
  deriving Repr, DecidableEq

/-- The second landmark is the first again, or further in the input and not back
in the output. -/
def Landmark.Advances (first second : Landmark) : Prop :=
  first = second ∨ first.input < second.input ∧ first.output ≤ second.output

namespace Landmark

theorem Advances.refl (landmark : Landmark) : landmark.Advances landmark := Or.inl rfl

theorem Advances.trans {first second third : Landmark} (left : first.Advances second)
    (right : second.Advances third) : first.Advances third := by
  rcases left with rfl | ⟨early, below⟩
  · exact right
  · rcases right with rfl | ⟨late, above⟩
    · exact Or.inr ⟨early, below⟩
    · exact Or.inr ⟨early.trans late, below.trans above⟩

theorem Advances.input_le {first second : Landmark} (advance : first.Advances second) :
    first.input ≤ second.input := by
  rcases advance with rfl | ⟨early, _⟩
  · exact Nat.le_refl _
  · exact Nat.le_of_lt early

theorem Advances.output_le {first second : Landmark} (advance : first.Advances second) :
    first.output ≤ second.output := by
  rcases advance with rfl | ⟨_, below⟩
  · exact Nat.le_refl _
  · exact below

theorem Advances.eq_of_input {first second : Landmark} (advance : first.Advances second)
    (same : first.input = second.input) : first = second := by
  rcases advance with equal | ⟨early, _⟩
  · exact equal
  · exact absurd same (Nat.ne_of_lt early)

end Landmark

/-- A trail on which neither position goes back. -/
def Ascending (trail : List Landmark) : Prop := trail.Pairwise Landmark.Advances

/-- A trail that ascends, all of it behind a start. -/
def AscendsFrom (start : Landmark) (trail : List Landmark) : Prop :=
  Ascending trail ∧ ∀ landmark ∈ trail, start.Advances landmark

theorem ascendsFrom_singleton (start : Landmark) : AscendsFrom start [start] := by
  refine ⟨List.pairwise_singleton _ _, ?_⟩
  intro landmark member
  rw [List.mem_singleton.mp member]
  exact Landmark.Advances.refl _

/-- Note the start, and go on behind the next landmark. -/
theorem AscendsFrom.cons {start next : Landmark} {trail : List Landmark}
    (ascends : AscendsFrom next trail) (advance : start.Advances next) :
    AscendsFrom start (start :: trail) := by
  have behind : ∀ landmark ∈ trail, start.Advances landmark :=
    fun landmark member => advance.trans (ascends.2 landmark member)
  refine ⟨List.pairwise_cons.mpr ⟨behind, ascends.1⟩, ?_⟩
  intro landmark member
  rcases List.mem_cons.mp member with rfl | later
  · exact Landmark.Advances.refl _
  · exact behind landmark later

namespace Ascending

variable {trail : List Landmark}

/-- Any two landmarks of the trail come one after the other. -/
theorem comparable (ascending : Ascending trail) {first second : Landmark} (here : first ∈ trail)
    (there : second ∈ trail) : first.Advances second ∨ second.Advances first := by
  induction trail with
  | nil => cases here
  | cons start rest ih =>
      obtain ⟨behind, further⟩ := List.pairwise_cons.mp ascending
      rcases List.mem_cons.mp here with rfl | laterHere
      · rcases List.mem_cons.mp there with rfl | laterThere
        · exact Or.inl (Landmark.Advances.refl _)
        · exact Or.inl (behind second laterThere)
      · rcases List.mem_cons.mp there with rfl | laterThere
        · exact Or.inr (behind first laterHere)
        · exact ih further laterHere laterThere

/-- **The input position determines the landmark.** -/
theorem determined (ascending : Ascending trail) {first second : Landmark} (here : first ∈ trail)
    (there : second ∈ trail) (same : first.input = second.input) : first = second := by
  rcases ascending.comparable here there with advance | advance
  · exact advance.eq_of_input same
  · exact (advance.eq_of_input same.symm).symm

/-- **Later input is not behind earlier output.** -/
theorem mono (ascending : Ascending trail) {first second : Landmark} (here : first ∈ trail)
    (there : second ∈ trail) (before : first.input ≤ second.input) :
    first.output ≤ second.output := by
  rcases ascending.comparable here there with advance | advance
  · exact advance.output_le
  · have same := Nat.le_antisymm before advance.input_le
    rw [advance.eq_of_input same.symm]

end Ascending

end Omnivox.Foundations
