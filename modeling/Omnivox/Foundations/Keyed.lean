import Mathlib

/-!
# Keyed lists

Where no two elements share a key, a key finds one element whatever the order
(`find?_key_perm`), and sorting by an order on keys forgets the order that was there
(`sortBy_perm`). A change of the first element that fits keeps the keys of a list and every
other element (`updateFirst_map`, `mem_updateFirst`). Revisions of distinct keys act on the
values that were there before all of them (`lookup_foldl_reviseAt`).
-/

set_option autoImplicit false

namespace Omnivox.Foundations

variable {α β κ : Type*}

/-! ## Finding by key -/

section Find

variable [DecidableEq κ] {key : α → κ} {l l' : List α}

theorem find?_key_eq_some (distinct : (l.map key).Nodup) {k : κ} {a : α} :
    l.find? (fun x => key x == k) = some a ↔ a ∈ l ∧ key a = k := by
  constructor
  · intro found
    have matched := List.find?_some found
    exact ⟨List.mem_of_find?_eq_some found, eq_of_beq matched⟩
  · rintro ⟨member, rfl⟩
    have some_found : (l.find? (fun x => key x == key a)).isSome :=
      List.find?_isSome.mpr ⟨a, member, beq_self_eq_true _⟩
    obtain ⟨other, found⟩ := Option.isSome_iff_exists.mp some_found
    have matched := List.find?_some found
    rw [found, List.inj_on_of_nodup_map distinct (List.mem_of_find?_eq_some found) member
      (eq_of_beq matched)]

/-- **A key finds its element in every order.** -/
theorem find?_key_perm (distinct : (l.map key).Nodup) (perm : l.Perm l') (k : κ) :
    l.find? (fun x => key x == k) = l'.find? (fun x => key x == k) := by
  have distinct' : (l'.map key).Nodup := (perm.map key).nodup_iff.mp distinct
  apply Option.ext
  intro a
  rw [find?_key_eq_some distinct, find?_key_eq_some distinct', perm.mem_iff]

end Find

/-! ## Changing the first that fits -/

/-- Change the first element that fits, and tell whether the change took place. -/
def updateFirst (fits : α → Bool) (change : α → α × Bool) : List α → List α × Bool
  | [] => ([], false)
  | a :: rest =>
      if fits a then ((change a).1 :: rest, (change a).2)
      else (a :: (updateFirst fits change rest).1, (updateFirst fits change rest).2)

section UpdateFirst

attribute [local simp] updateFirst

variable {fits : α → Bool} {change : α → α × Bool} {l : List α}

/-- A change that keeps a view of each element keeps it of the list. -/
theorem updateFirst_map {view : α → β} (keeps : ∀ a ∈ l, view (change a).1 = view a) :
    (updateFirst fits change l).1.map view = l.map view := by
  induction l with
  | nil => rfl
  | cons a rest ih =>
      obtain ⟨here, later⟩ := List.forall_mem_cons.mp keeps
      rw [updateFirst]
      split
      · rw [List.map_cons, List.map_cons, here]
      · rw [List.map_cons, List.map_cons, ih later]

/-- What is there afterwards was there before, or is what an element that fits became. -/
theorem mem_updateFirst {b : α} (member : b ∈ (updateFirst fits change l).1) :
    b ∈ l ∨ ∃ a ∈ l, fits a = true ∧ b = (change a).1 := by
  induction l with
  | nil => exact Or.inl member
  | cons a rest ih =>
      rw [updateFirst] at member
      split at member
      · rename_i fitting
        rcases List.mem_cons.mp member with rfl | later
        · exact Or.inr ⟨a, List.mem_cons_self, fitting, rfl⟩
        · exact Or.inl (List.mem_cons_of_mem _ later)
      · rcases List.mem_cons.mp member with rfl | later
        · exact Or.inl List.mem_cons_self
        · rcases ih later with before | ⟨other, before, fitting, same⟩
          · exact Or.inl (List.mem_cons_of_mem _ before)
          · exact Or.inr ⟨other, List.mem_cons_of_mem _ before, fitting, same⟩

/-- What was there before is still there, or is what it became. -/
theorem updateFirst_of_mem {a : α} (member : a ∈ l) :
    a ∈ (updateFirst fits change l).1 ∨
      fits a = true ∧ (change a).1 ∈ (updateFirst fits change l).1 := by
  induction l with
  | nil => exact absurd member List.not_mem_nil
  | cons first rest ih =>
      rw [updateFirst]
      split
      · rename_i fitting
        rcases List.mem_cons.mp member with rfl | later
        · exact Or.inr ⟨fitting, List.mem_cons_self⟩
        · exact Or.inl (List.mem_cons_of_mem _ later)
      · rcases List.mem_cons.mp member with rfl | later
        · exact Or.inl List.mem_cons_self
        · rcases ih later with kept | ⟨fitting, changed⟩
          · exact Or.inl (List.mem_cons_of_mem _ kept)
          · exact Or.inr ⟨fitting, List.mem_cons_of_mem _ changed⟩

/-- A change that took place is one of an element that fits. -/
theorem updateFirst_done (done : (updateFirst fits change l).2 = true) :
    ∃ a ∈ l, fits a = true ∧ (change a).2 = true ∧
      (change a).1 ∈ (updateFirst fits change l).1 := by
  induction l with
  | nil => cases done
  | cons first rest ih =>
      rw [updateFirst] at done ⊢
      split at done
      · rename_i fitting
        rw [if_pos fitting]
        exact ⟨first, List.mem_cons_self, fitting, done, List.mem_cons_self⟩
      · rename_i other
        rw [if_neg other]
        obtain ⟨a, member, fitting, taken, changed⟩ := ih done
        exact ⟨a, List.mem_cons_of_mem _ member, fitting, taken, List.mem_cons_of_mem _ changed⟩

/-- A change that takes place on whatever fits takes place if something does. -/
theorem updateFirst_takes {a : α} (member : a ∈ l) (fitting : fits a = true)
    (takes : ∀ b ∈ l, fits b = true → (change b).2 = true) :
    (updateFirst fits change l).2 = true := by
  induction l with
  | nil => exact absurd member List.not_mem_nil
  | cons first rest ih =>
      rw [updateFirst]
      split
      · rename_i here
        exact takes first List.mem_cons_self here
      · rename_i other
        rcases List.mem_cons.mp member with rfl | later
        · exact absurd fitting other
        · exact ih later fun b listed => takes b (List.mem_cons_of_mem _ listed)

/-- Where no two elements share a key, the element of a changed key is what it became. -/
theorem mem_updateFirst_key [DecidableEq κ] {key : α → κ} (distinct : (l.map key).Nodup) {k : κ}
    {b : α} (member : b ∈ (updateFirst (fun a => key a == k) change l).1) (same : key b = k) :
    ∃ a ∈ l, key a = k ∧ b = (change a).1 := by
  induction l with
  | nil => exact absurd member List.not_mem_nil
  | cons a rest ih =>
      obtain ⟨fresh, distinct⟩ := List.nodup_cons.mp distinct
      rw [updateFirst] at member
      split at member
      · rename_i fitting
        rcases List.mem_cons.mp member with rfl | later
        · exact ⟨a, List.mem_cons_self, eq_of_beq fitting, rfl⟩
        · have shared : key b = key a := same.trans (eq_of_beq fitting).symm
          exact absurd (List.mem_map.mpr ⟨b, later, shared⟩) fresh
      · rename_i other
        rcases List.mem_cons.mp member with rfl | later
        · exact absurd (beq_iff_eq.mpr same) other
        · obtain ⟨found, there, matched, became⟩ := ih distinct later
          exact ⟨found, List.mem_cons_of_mem _ there, matched, became⟩

end UpdateFirst

/-! ## Entries of a map -/

section Entries

variable {κ β γ : Type*} [DecidableEq κ]

/-- Change the value of one key. -/
def reviseAt (k : κ) (change : β → β) (entries : List (κ × β)) : List (κ × β) :=
  entries.map fun entry => if entry.1 = k then (entry.1, change entry.2) else entry

@[simp] theorem keys_reviseAt (k : κ) (change : β → β) (entries : List (κ × β)) :
    (reviseAt k change entries).map Prod.fst = entries.map Prod.fst := by
  rw [reviseAt, List.map_map]
  apply List.map_congr_left
  intro entry _
  simp only [Function.comp_apply]
  split <;> rfl

theorem lookup_map_entries (change : κ → β → γ) (entries : List (κ × β)) (k : κ) :
    (entries.map fun entry => (entry.1, change entry.1 entry.2)).lookup k =
      (entries.lookup k).map (change k) := by
  induction entries with
  | nil => rfl
  | cons entry rest ih =>
      rw [List.map_cons, List.lookup_cons, List.lookup_cons]
      split
      · rename_i same
        rw [eq_of_beq same, Option.map_some]
      · exact ih

/-- Where keys are distinct, a key finds the value of its one entry. -/
theorem lookup_eq_some_iff_mem {entries : List (κ × β)} (distinct : (entries.map Prod.fst).Nodup)
    {k : κ} {b : β} : entries.lookup k = some b ↔ (k, b) ∈ entries := by
  induction entries with
  | nil => simp
  | cons entry rest ih =>
      obtain ⟨fresh, distinct⟩ := List.nodup_cons.mp distinct
      rw [List.lookup_cons, List.mem_cons]
      by_cases same : k = entry.1
      · subst same
        rw [beq_self_eq_true]
        dsimp only
        rw [Option.some_inj]
        constructor
        · rintro rfl
          exact Or.inl rfl
        · rintro (here | later)
          · rw [← here]
          · exact absurd (List.mem_map.mpr ⟨_, later, rfl⟩) fresh
      · rw [beq_eq_false_iff_ne.mpr same]
        dsimp only
        rw [ih distinct]
        refine (or_iff_right fun here => same ?_).symm
        rw [← here]

/-- Entries made of a list hold what the element of a key was made into. -/
theorem lookup_map_find (key : α → κ) (make : α → β) (l : List α) (k : κ) :
    (l.map fun a => (key a, make a)).lookup k = (l.find? fun a => key a == k).map make := by
  induction l with
  | nil => rfl
  | cons a rest ih =>
      rw [List.map_cons, List.lookup_cons, List.find?_cons, ih, BEq.comm]
      cases key a == k <;> rfl

theorem lookup_reviseAt (k : κ) (change : β → β) (entries : List (κ × β)) (k' : κ) :
    (reviseAt k change entries).lookup k' =
      if k' = k then (entries.lookup k').map change else entries.lookup k' := by
  have pointwise : reviseAt k change entries =
      entries.map fun entry => (entry.1, if entry.1 = k then change entry.2 else entry.2) := by
    apply List.map_congr_left
    intro entry _
    split <;> rfl
  rw [pointwise, lookup_map_entries fun key value => if key = k then change value else value]
  split
  · rfl
  · exact Option.map_id_fun' ▸ rfl

/-- **Revisions of distinct keys** each change what was there before all of them. -/
theorem lookup_foldl_reviseAt (change : κ → γ → β → β) {changes : List (κ × γ)}
    (distinct : (changes.map Prod.fst).Nodup) (entries : List (κ × β)) (k : κ) :
    (changes.foldl (fun entries entry => reviseAt entry.1 (change entry.1 entry.2) entries)
        entries).lookup k =
      (entries.lookup k).map fun value =>
        ((changes.lookup k).map (change k · value)).getD value := by
  induction changes generalizing entries with
  | nil => simp
  | cons entry rest ih =>
      obtain ⟨fresh, distinct⟩ := List.nodup_cons.mp distinct
      rw [List.foldl_cons, ih distinct, lookup_reviseAt, List.lookup_cons]
      by_cases same : k = entry.1
      · have absent : rest.lookup k = none := by
          rw [List.lookup_eq_none_iff]
          intro later member
          rw [bne_iff_ne]
          intro equal
          exact fresh (List.mem_map.mpr ⟨later, member, equal.symm.trans same⟩)
        rw [if_pos same, absent, Option.map_map, beq_iff_eq.mpr same, ← same]
        rfl
      · rw [if_neg same, beq_eq_false_iff_ne.mpr same]

end Entries

/-! ## Sorting by key -/

section Sorting

variable [LinearOrder κ]

/-- The order of the keys. -/
def keyLE (key : α → κ) (first second : α) : Prop := key first ≤ key second

instance (key : α → κ) : DecidableRel (keyLE key) :=
  fun first second => inferInstanceAs (Decidable (key first ≤ key second))

instance (key : α → κ) : Std.Total (keyLE key) where
  total first second := le_total (key first) (key second)

instance (key : α → κ) : IsTrans α (keyLE key) where
  trans _ _ _ := le_trans

/-- Sort by a key, elements of equal key as they were. -/
def sortBy (key : α → κ) (l : List α) : List α :=
  l.insertionSort (keyLE key)

variable {key : α → κ} {l l' : List α}

@[simp] theorem mem_sortBy {a : α} : a ∈ sortBy key l ↔ a ∈ l :=
  List.mem_insertionSort _

theorem sortBy_pairwise : (sortBy key l).Pairwise (keyLE key) :=
  List.pairwise_insertionSort (keyLE key) l

/-- A part of a list that is already in order keeps its order. -/
theorem sublist_sortBy {part : List α} (sorted : part.Pairwise (keyLE key))
    (within : part.Sublist l) : part.Sublist (sortBy key l) :=
  List.sublist_insertionSort sorted within

/-- **Sorting by distinct keys forgets the order.** -/
theorem sortBy_perm (distinct : (l.map key).Nodup) (perm : l.Perm l') :
    sortBy key l = sortBy key l' := by
  have sorted := List.pairwise_insertionSort (keyLE key) l
  have sorted' := List.pairwise_insertionSort (keyLE key) l'
  have perms : (sortBy key l).Perm (sortBy key l') :=
    (List.perm_insertionSort _ l).trans (perm.trans (List.perm_insertionSort _ l').symm)
  refine perms.eq_of_pairwise ?_ sorted sorted'
  intro first second member member' below above
  have same : key first = key second := le_antisymm below above
  exact List.inj_on_of_nodup_map distinct (mem_sortBy.mp member)
    (perm.mem_iff.mpr (mem_sortBy.mp member')) same

/-- **Sorting finds the order** that some rearrangement of the list is in, if no two elements
share a key. -/
theorem sortBy_eq_of_perm (distinct : (l'.map key).Nodup) (perm : l.Perm l')
    (sorted : l'.Pairwise (keyLE key)) : sortBy key l = l' := by
  have already : sortBy key l' = l' := sorted.insertionSort_eq
  rw [sortBy_perm ((perm.map key).nodup_iff.mpr distinct) perm, already]

/-- A map that keeps the keys keeps the order. -/
theorem sortBy_map {f : α → β} {key' : β → κ} (keeps : ∀ a ∈ l, key' (f a) = key a) :
    sortBy key' (l.map f) = (sortBy key l).map f := by
  refine (List.map_insertionSort (keyLE key) (keyLE key') f l ?_).symm
  intro first member second member'
  rw [keyLE, keyLE, keeps first member, keeps second member']

end Sorting

end Omnivox.Foundations
