import Mathlib

/-!
# Stable sorting by a key

A stable sort orders a list by a key and keeps the elements of equal key as they
were. These two facts determine the result, so there is only one
(`StableSortOf.unique`).

A program that cannot rely on a stable sort numbers the elements first and sorts
by the pair of key and number. That is a stable sort (`sortNumbered_stable`).
-/

set_option autoImplicit false

namespace Omnivox.Foundations

variable {α K : Type*} [LinearOrder K]

/-- The output is the input ordered by the key, elements of equal key as they
were. -/
structure StableSortOf (key : α → K) (input output : List α) : Prop where
  sorted : output.Pairwise fun first second => key first ≤ key second
  classes : ∀ k, (output.filter fun a => key a = k) = input.filter fun a => key a = k
  perm : output.Perm input

/-- **There is one stable sort.** -/
theorem StableSortOf.unique {key : α → K} {input first second : List α}
    (left : StableSortOf key input first) (right : StableSortOf key input second) :
    first = second := by
  have classes : ∀ k, (first.filter fun a => key a = k) = second.filter fun a => key a = k :=
    fun k => (left.classes k).trans (right.classes k).symm
  have sortedFirst := left.sorted
  have sortedSecond := right.sorted
  have perm := left.perm.trans right.perm.symm
  clear left right
  induction first generalizing second with
  | nil => exact (List.nil_perm.mp perm).symm
  | cons a first ih =>
      cases second with
      | nil => exact absurd perm.length_eq (by simp)
      | cons b second =>
          rw [List.pairwise_cons] at sortedFirst sortedSecond
          have below : key a ≤ key b := by
            rcases List.mem_cons.mp (perm.mem_iff.mpr List.mem_cons_self) with same | later
            · exact le_of_eq (congrArg key same.symm)
            · exact sortedFirst.1 b later
          have above : key b ≤ key a := by
            rcases List.mem_cons.mp (perm.mem_iff.mp List.mem_cons_self) with same | later
            · exact le_of_eq (congrArg key same.symm)
            · exact sortedSecond.1 a later
          have level : key b = key a := le_antisymm above below
          have heads := classes (key a)
          rw [List.filter_cons_of_pos (by simp), List.filter_cons_of_pos (by simp [level])] at heads
          obtain ⟨same, _⟩ := List.cons.inj heads
          subst same
          refine congrArg (a :: ·) (ih (fun k => ?_) sortedFirst.2 sortedSecond.2 perm.cons_inv)
          have tails := classes k
          by_cases here : key a = k
          · rw [List.filter_cons_of_pos (by simp [here]), List.filter_cons_of_pos (by simp [here])]
              at tails
            exact (List.cons.inj tails).2
          · rwa [List.filter_cons_of_neg (by simp [here]), List.filter_cons_of_neg (by simp [here])]
              at tails

/-- A stable sort of elements is one of their images, where images are in the same order. -/
theorem StableSortOf.map {β : Type*} {key : α → K} {key' : β → K} {change : α → β}
    {input output : List α}
    (same : ∀ a ∈ input, ∀ b ∈ input, key' (change a) ≤ key' (change b) ↔ key a ≤ key b)
    (sort : StableSortOf key input output) :
    StableSortOf key' (input.map change) (output.map change) := by
  have within : ∀ a ∈ output, a ∈ input := fun a member => sort.perm.mem_iff.mp member
  refine ⟨?_, fun k => ?_, sort.perm.map change⟩
  · rw [List.pairwise_map]
    refine List.Pairwise.imp_of_mem (fun inFirst inSecond le => ?_) sort.sorted
    exact (same _ (within _ inFirst) _ (within _ inSecond)).mpr le
  · rw [List.filter_map, List.filter_map]
    by_cases held : ∃ a ∈ input, key' (change a) = k
    · obtain ⟨a, inInput, rfl⟩ := held
      have classes : ∀ b ∈ input, key' (change b) = key' (change a) ↔ key b = key a := by
        intro b inInput'
        rw [le_antisymm_iff, le_antisymm_iff, same b inInput' a inInput, same a inInput b inInput']
      refine congrArg (List.map change) ?_
      calc output.filter ((fun b => decide (key' b = key' (change a))) ∘ change)
          = output.filter fun b => decide (key b = key a) := List.filter_congr fun b member =>
            decide_eq_decide.mpr (classes b (within b member))
        _ = input.filter fun b => decide (key b = key a) := sort.classes (key a)
        _ = input.filter ((fun b => decide (key' b = key' (change a))) ∘ change) :=
            List.filter_congr fun b member => decide_eq_decide.mpr (classes b member).symm
    · have none : ∀ l : List α, (∀ a ∈ l, a ∈ input) →
          l.filter ((fun b => decide (key' b = k)) ∘ change) = [] := by
        intro l inside
        rw [List.filter_eq_nil_iff]
        intro a member found
        exact held ⟨a, inside a member, of_decide_eq_true found⟩
      rw [none output within, none input fun _ member => member]

/-! ## Sorting numbered elements -/

/-- Order by the key, then by the number. -/
def keyThenNumber (key : α → K) (first second : α × Nat) : Prop :=
  key first.1 < key second.1 ∨ key first.1 = key second.1 ∧ first.2 ≤ second.2

instance (key : α → K) : DecidableRel (keyThenNumber key) :=
  fun _ _ => inferInstanceAs (Decidable (_ ∨ _))

instance (key : α → K) : Std.Total (keyThenNumber key) where
  total first second := by
    unfold keyThenNumber
    rcases lt_trichotomy (key first.1) (key second.1) with below | level | above
    · exact Or.inl (Or.inl below)
    · rcases Nat.le_total first.2 second.2 with early | late
      · exact Or.inl (Or.inr ⟨level, early⟩)
      · exact Or.inr (Or.inr ⟨level.symm, late⟩)
    · exact Or.inr (Or.inl above)

instance (key : α → K) : IsTrans (α × Nat) (keyThenNumber key) where
  trans first second third := by
    rintro (below | ⟨level, early⟩) (below' | ⟨level', early'⟩)
    · exact Or.inl (below.trans below')
    · exact Or.inl (level' ▸ below)
    · exact Or.inl (level ▸ below')
    · exact Or.inr ⟨level.trans level', early.trans early'⟩

/-- Number the elements, sort them by key and number, and drop the numbers. -/
def sortNumbered (key : α → K) (l : List α) : List α :=
  (l.zipIdx.insertionSort (keyThenNumber key)).map Prod.fst

/-- Numbers increase along a numbered list. -/
theorem zipIdx_pairwise (l : List α) (start : Nat) :
    (l.zipIdx start).Pairwise fun first second => first.2 < second.2 := by
  induction l generalizing start with
  | nil => exact List.Pairwise.nil
  | cons a rest ih =>
      rw [List.zipIdx_cons, List.pairwise_cons]
      refine ⟨?_, ih (start + 1)⟩
      intro entry member
      exact (List.le_snd_of_mem_zipIdx member)

/-- **Sorting by key and number is stable.** -/
theorem sortNumbered_stable (key : α → K) (l : List α) :
    StableSortOf key l (sortNumbered key l) := by
  have perm := List.perm_insertionSort (keyThenNumber key) l.zipIdx
  refine ⟨?_, ?_, ?_⟩
  · rw [sortNumbered, List.pairwise_map]
    refine (List.pairwise_insertionSort (keyThenNumber key) l.zipIdx).imp ?_
    rintro first second (below | ⟨level, _⟩)
    · exact le_of_lt below
    · exact le_of_eq level
  · intro k
    -- the numbered elements of one key are already ordered, so the sort keeps them in a row
    have ordered : (l.zipIdx.filter fun entry => key entry.1 = k).Pairwise (keyThenNumber key) := by
      refine List.Pairwise.imp_of_mem ?_ ((zipIdx_pairwise l 0).filter _)
      intro first second memberFirst memberSecond early
      have levelFirst := (List.mem_filter.mp memberFirst).2
      have levelSecond := (List.mem_filter.mp memberSecond).2
      simp only [decide_eq_true_eq] at levelFirst levelSecond
      exact Or.inr ⟨levelFirst.trans levelSecond.symm, le_of_lt early⟩
    have inRow : (l.zipIdx.filter fun entry => key entry.1 = k).Sublist
        (l.zipIdx.insertionSort (keyThenNumber key)) :=
      List.sublist_insertionSort ordered List.filter_sublist
    have kept := inRow.filter fun entry => key entry.1 = k
    rw [List.filter_filter] at kept
    simp only [Bool.and_self] at kept
    have same := kept.eq_of_length (perm.filter _).length_eq.symm
    have numbers : ∀ entries : List (α × Nat), ((entries.map Prod.fst).filter fun a => key a = k) =
        (entries.filter fun entry => key entry.1 = k).map Prod.fst := fun entries => by
      rw [List.filter_map]
      rfl
    rw [sortNumbered, numbers, ← same, ← numbers, List.zipIdx_map_fst]
  · have works := perm.map Prod.fst
    rwa [List.zipIdx_map_fst] at works

/-- Sorting images in the same order is sorting, then taking images. -/
theorem sortNumbered_map {β : Type*} {key : α → K} {key' : β → K} {change : α → β} {l : List α}
    (same : ∀ a ∈ l, ∀ b ∈ l, key' (change a) ≤ key' (change b) ↔ key a ≤ key b) :
    sortNumbered key' (l.map change) = (sortNumbered key l).map change :=
  (sortNumbered_stable key' (l.map change)).unique ((sortNumbered_stable key l).map same)

end Omnivox.Foundations
