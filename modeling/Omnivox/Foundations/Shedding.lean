import Mathlib

/-!
# Shedding load from the front of a list

A list of elements contributes to a load that is too heavy. Walking the list
once from the front, every removable element is taken off the load until the
load fits, and the walk stops there.

The walk answers with one mark per element. Marks split a list into the
elements picked and the elements left (`pick`, `leave`), each in its original
order and without loss (`pick_append_leave_perm`).

The marked elements are the shortest prefix of the removable elements whose
removal makes the load fit, or all of them when none does, and the elements
left are the list with that prefix dropped (`shed_shortest`, `dropFirst`).
-/

set_option autoImplicit false

namespace Omnivox.Foundations

variable {α Load : Type*}

/-! ## Marks -/

/-- The elements whose mark is set. -/
def pick : List Bool → List α → List α
  | [], _ => []
  | _, [] => []
  | mark :: marks, a :: rest => if mark then a :: pick marks rest else pick marks rest

/-- The elements whose mark is not set. -/
def leave : List Bool → List α → List α
  | [], l => l
  | _, [] => []
  | mark :: marks, a :: rest => if mark then leave marks rest else a :: leave marks rest

@[simp] theorem pick_cons (mark : Bool) (marks : List Bool) (a : α) (rest : List α) :
    pick (mark :: marks) (a :: rest) =
      if mark then a :: pick marks rest else pick marks rest := rfl

@[simp] theorem leave_cons (mark : Bool) (marks : List Bool) (a : α) (rest : List α) :
    leave (mark :: marks) (a :: rest) =
      if mark then leave marks rest else a :: leave marks rest := rfl

@[simp] theorem pick_nil_right (marks : List Bool) : pick marks ([] : List α) = [] := by
  cases marks <;> rfl

@[simp] theorem leave_nil_right (marks : List Bool) : leave marks ([] : List α) = [] := by
  cases marks <;> rfl

/-- Marking by a predicate picks the elements that satisfy it. -/
theorem pick_map (p : α → Bool) (l : List α) : pick (l.map p) l = l.filter p := by
  induction l with
  | nil => rfl
  | cons a rest ih => by_cases h : p a <;> simp [h, ih]

theorem leave_map (p : α → Bool) (l : List α) :
    leave (l.map p) l = l.filter (fun a => !p a) := by
  induction l with
  | nil => rfl
  | cons a rest ih => by_cases h : p a <;> simp [h, ih]

@[simp] theorem pick_none (l : List α) : pick (List.replicate l.length false) l = [] := by
  simpa using pick_map (fun _ : α => false) l

@[simp] theorem leave_none (l : List α) : leave (List.replicate l.length false) l = l := by
  simpa using leave_map (fun _ : α => false) l

/-- Marks lose and duplicate nothing. -/
theorem pick_append_leave_perm (marks : List Bool) (l : List α) :
    (pick marks l ++ leave marks l).Perm l := by
  induction l generalizing marks with
  | nil => simp
  | cons a rest ih =>
      cases marks with
      | nil => exact List.Perm.refl _
      | cons mark marks =>
          cases mark with
          | true => simpa using (ih marks).cons a
          | false => simpa using List.perm_middle.trans ((ih marks).cons a)

/-! ## Dropping the first few removable elements -/

/-- The list without the first `count` elements that satisfy the predicate. -/
def dropFirst (p : α → Bool) : Nat → List α → List α
  | 0, l => l
  | _ + 1, [] => []
  | count + 1, a :: rest =>
      if p a then dropFirst p count rest else a :: dropFirst p (count + 1) rest

@[simp] theorem dropFirst_zero (p : α → Bool) (l : List α) : dropFirst p 0 l = l := by
  cases l <;> rfl

theorem dropFirst_cons_of_pos {p : α → Bool} {a : α} (removable : p a = true) (count : Nat)
    (rest : List α) : dropFirst p (count + 1) (a :: rest) = dropFirst p count rest := by
  rw [dropFirst, if_pos removable]

theorem dropFirst_cons_of_neg {p : α → Bool} {a : α} (fixed : p a = false) (count : Nat)
    (rest : List α) : dropFirst p count (a :: rest) = a :: dropFirst p count rest := by
  cases count with
  | zero => rw [dropFirst_zero, dropFirst_zero]
  | succ count => rw [dropFirst, if_neg (by simp [fixed])]

theorem dropFirst_sublist (p : α → Bool) (count : Nat) (l : List α) :
    (dropFirst p count l).Sublist l := by
  induction l generalizing count with
  | nil => cases count <;> exact List.Sublist.refl _
  | cons a rest ih =>
      cases count with
      | zero => exact List.Sublist.refl _
      | succ count =>
          by_cases removable : p a
          · rw [dropFirst_cons_of_pos removable]
            exact (ih count).cons a
          · rw [dropFirst_cons_of_neg (by simpa using removable)]
            exact (ih (count + 1)).cons_cons a

/-- What is dropped and what remains are the whole list. -/
theorem take_append_dropFirst_perm (p : α → Bool) (count : Nat) (l : List α) :
    ((l.filter p).take count ++ dropFirst p count l).Perm l := by
  induction l generalizing count with
  | nil => cases count <;> exact List.Perm.refl _
  | cons a rest ih =>
      cases count with
      | zero => exact List.Perm.refl _
      | succ count =>
          by_cases removable : p a
          · rw [dropFirst_cons_of_pos removable, List.filter_cons_of_pos removable]
            exact (ih count).cons a
          · rw [dropFirst_cons_of_neg (by simpa using removable),
              List.filter_cons_of_neg removable]
            exact List.perm_middle.trans ((ih (count + 1)).cons a)

/-- Dropping every removable element leaves the others. -/
theorem dropFirst_of_length_le {p : α → Bool} {count : Nat} {l : List α}
    (enough : (l.filter p).length ≤ count) :
    dropFirst p count l = l.filter fun a => !p a := by
  induction l generalizing count with
  | nil => cases count <;> rfl
  | cons a rest ih =>
      by_cases removable : p a
      · rw [List.filter_cons_of_pos removable, List.length_cons] at enough
        obtain ⟨fewer, rfl⟩ := Nat.exists_eq_add_of_le' (Nat.le_of_add_left_le enough)
        rw [dropFirst_cons_of_pos removable, ih (Nat.le_of_add_le_add_right enough)]
        simp [removable]
      · rw [List.filter_cons_of_neg removable] at enough
        rw [dropFirst_cons_of_neg (by simpa using removable), ih enough]
        simp [removable]

/-- Every count leaves at least the elements that are not removable. -/
theorem filter_not_sublist_dropFirst (p : α → Bool) (count : Nat) (l : List α) :
    (l.filter fun a => !p a).Sublist (dropFirst p count l) := by
  induction l generalizing count with
  | nil => exact List.nil_sublist _
  | cons a rest ih =>
      by_cases removable : p a
      · rw [List.filter_cons_of_neg (by simp [removable])]
        cases count with
        | zero => exact (List.filter_sublist).cons a
        | succ count =>
            rw [dropFirst_cons_of_pos removable]
            exact ih count
      · rw [List.filter_cons_of_pos (by simp [removable]),
          dropFirst_cons_of_neg (by simpa using removable)]
        exact (ih count).cons_cons a

/-! ## The walk -/

section Walk

variable (removable : α → Bool) (remove : Load → α → Load) (fits : Load → Bool)

/-- Take removable elements off a load that does not fit, until it fits. -/
def shed : Load → List α → List Bool × Load
  | load, [] => ([], load)
  | load, a :: rest =>
      if removable a then
        if fits (remove load a) then
          (true :: List.replicate rest.length false, remove load a)
        else
          let next := shed (remove load a) rest
          (true :: next.1, next.2)
      else
        let next := shed load rest
        (false :: next.1, next.2)

/-- **Shortest prefix.** The walk picks a prefix of the removable elements and
leaves the list without it. The load it reports is the load without that
prefix. No shorter nonempty prefix makes the load fit, and when the reported
load does not fit, every removable element was picked. -/
theorem shed_shortest (load : Load) (l : List α) :
    ∃ count ≤ (l.filter removable).length,
      pick (shed removable remove fits load l).1 l = (l.filter removable).take count ∧
      leave (shed removable remove fits load l).1 l = dropFirst removable count l ∧
      (shed removable remove fits load l).2 =
        ((l.filter removable).take count).foldl remove load ∧
      (∀ fewer < count, 0 < fewer →
        fits (((l.filter removable).take fewer).foldl remove load) = false) ∧
      (0 < count ∧ fits (shed removable remove fits load l).2 = true ∨
        count = (l.filter removable).length) := by
  induction l generalizing load with
  | nil =>
      refine ⟨0, Nat.zero_le _, rfl, rfl, rfl, ?_, Or.inr rfl⟩
      intro fewer below
      exact absurd below (Nat.not_lt_zero _)
  | cons a rest ih =>
      unfold shed
      by_cases taken : removable a
      · by_cases light : fits (remove load a)
        · refine ⟨1, by simp [taken], ?_, ?_, ?_, ?_, ?_⟩
          · simp [taken, light]
          · simp [taken, light, dropFirst_cons_of_pos]
          · simp [taken, light]
          · intro fewer below positive
            omega
          · exact Or.inl ⟨Nat.one_pos, by simp [taken, light]⟩
        · obtain ⟨count, bounded, picked, left, reported, minimal, ending⟩ := ih (remove load a)
          refine ⟨count + 1, by simpa [taken] using bounded, ?_, ?_, ?_, ?_, ?_⟩
          · simp [taken, light, picked]
          · simpa [taken, light, dropFirst_cons_of_pos] using left
          · simpa [taken, light] using reported
          · intro fewer below positive
            obtain ⟨k, rfl⟩ := Nat.exists_eq_succ_of_ne_zero (Nat.pos_iff_ne_zero.mp positive)
            rcases Nat.eq_zero_or_pos k with rfl | kPositive
            · simpa [taken] using light
            · simpa [taken] using minimal k (Nat.lt_of_succ_lt_succ below) kPositive
          · rcases ending with ⟨_, fitting⟩ | whole
            · exact Or.inl ⟨Nat.succ_pos _, by simpa [taken, light] using fitting⟩
            · exact Or.inr (by simp [taken, whole])
      · obtain ⟨count, bounded, picked, left, reported, minimal, ending⟩ := ih load
        have fixed : removable a = false := by simpa using taken
        refine ⟨count, by simpa [taken] using bounded, ?_, ?_, ?_, ?_, ?_⟩
        · simp [taken, picked]
        · rw [dropFirst_cons_of_neg fixed]
          simpa [taken] using left
        · simpa [taken] using reported
        · simpa [taken] using minimal
        · simpa [taken] using ending

end Walk

/-! ## Cutting off the end -/

/-- The longest of the allowed prefixes of a list. -/
structure LongestPrefix (allowed : List α → Prop) (whole kept : List α) : Prop where
  start : kept <+: whole
  holds : allowed kept
  longest : ∀ other, other <+: whole → allowed other → other.length ≤ kept.length

/-- **The first allowed prefix below a bound is the longest**, where the empty one is allowed and
none beyond the bound. -/
theorem longestPrefix_take {allowed : List α → Prop} {whole : List α} {bound : Nat}
    [DecidablePred fun count => allowed (whole.take count)] (nil : allowed [])
    (bounded : ∀ other, allowed other → other.length ≤ bound) :
    LongestPrefix allowed whole (whole.take
      (Nat.findGreatest (fun count => allowed (whole.take count)) (min bound whole.length))) where
  start := List.take_prefix _ _
  holds := Nat.findGreatest_spec (P := fun count => allowed (whole.take count)) (Nat.zero_le _) nil
  longest := by
    intro other start held
    have same : whole.take other.length = other := (List.prefix_iff_eq_take.mp start).symm
    have within : other.length ≤ min bound whole.length :=
      Nat.le_min.mpr ⟨bounded other held, start.length_le⟩
    have found := Nat.le_findGreatest (P := fun count => allowed (whole.take count)) within
      (by rw [same]; exact held)
    rw [List.length_take]
    exact Nat.le_min.mpr ⟨found, start.length_le⟩

end Omnivox.Foundations
