import Omnivox.Foundations.Keyed

/-!
# Keyed entries in the order of their last use

A cache that forgets what was used longest ago is a list of keyed entries, the
oldest first. Using an entry moves it to the recent end (`touch`), placing one
puts it there in the stead of its predecessor (`placeRecent`), and `keepRecent` gives
up entries from the old end until the rest fits.

`keepRecent_longest` says that no fewer entries could have been given up,
`keepRecent_concat` that the most recent entry stays if it fits alone, and
`heldUnder_placeRecent` what a key finds afterwards. In a table that records the time
of the last use with each entry, `argmin_eq_head?` finds the old end of the list
in any order of the table.
-/

set_option autoImplicit false

namespace Omnivox.Foundations

variable {κ ν : Type*} [DecidableEq κ]

/-! ## Keys -/

/-- The entry under `key`. -/
def entryUnder (key : κ) (l : List (κ × ν)) : Option (κ × ν) := l.find? (fun entry => entry.1 == key)

/-- The value under `key`. -/
def heldUnder (key : κ) (l : List (κ × ν)) : Option ν := (entryUnder key l).map Prod.snd

/-- The entries under other keys. -/
def without (key : κ) (l : List (κ × ν)) : List (κ × ν) := l.filter (fun entry => entry.1 != key)

section Keys

variable {key : κ} {l l' : List (κ × ν)}

theorem entryUnder_eq_some (distinct : (l.map Prod.fst).Nodup) {entry : κ × ν} :
    entryUnder key l = some entry ↔ entry ∈ l ∧ entry.1 = key :=
  find?_key_eq_some distinct

theorem heldUnder_eq_some (distinct : (l.map Prod.fst).Nodup) {value : ν} :
    heldUnder key l = some value ↔ (key, value) ∈ l := by
  rw [heldUnder, Option.map_eq_some_iff]
  constructor
  · rintro ⟨entry, found, rfl⟩
    obtain ⟨member, rfl⟩ := (entryUnder_eq_some distinct).mp found
    exact member
  · intro member
    exact ⟨(key, value), (entryUnder_eq_some distinct).mpr ⟨member, rfl⟩, rfl⟩

theorem entryUnder_eq_none : entryUnder key l = none ↔ ∀ entry ∈ l, entry.1 ≠ key := by
  simp [entryUnder]

theorem mem_without {entry : κ × ν} : entry ∈ without key l ↔ entry ∈ l ∧ entry.1 ≠ key := by
  simp [without]

theorem without_perm (perm : l.Perm l') : (without key l).Perm (without key l') := perm.filter _

theorem without_sublist (key : κ) (l : List (κ × ν)) : (without key l).Sublist l :=
  List.filter_sublist

theorem without_of_absent (absent : ∀ entry ∈ l, entry.1 ≠ key) : without key l = l := by
  rw [without, List.filter_eq_self]
  intro entry member
  simpa using absent entry member

/-- **An entry and the entries under other keys are the whole list.** -/
theorem perm_cons_without (distinct : (l.map Prod.fst).Nodup) {entry : κ × ν} (member : entry ∈ l) :
    l.Perm (entry :: without entry.1 l) := by
  induction l with
  | nil => cases member
  | cons first rest ih =>
      rw [List.map_cons, List.nodup_cons] at distinct
      rcases List.mem_cons.mp member with rfl | later
      · have absent : ∀ other ∈ rest, other.1 ≠ entry.1 := fun other inside same =>
          distinct.1 (same ▸ List.mem_map_of_mem inside)
        have alone : without entry.1 (entry :: rest) = rest := by
          rw [without, List.filter_cons_of_neg (by simp)]
          exact without_of_absent absent
        rw [alone]
      · have other : first.1 ≠ entry.1 := fun same =>
          distinct.1 (same ▸ List.mem_map_of_mem later)
        have kept : without entry.1 (first :: rest) = first :: without entry.1 rest := by
          rw [without, List.filter_cons_of_pos (by simpa using other)]
          rfl
        rw [kept]
        exact ((ih distinct.2 later).cons first).trans (List.Perm.swap _ _ _)

/-- The keys of a list in which an entry has gone to the recent end. -/
theorem nodup_without_concat (distinct : (l.map Prod.fst).Nodup) (key : κ) (value : ν) :
    ((without key l ++ [(key, value)]).map Prod.fst).Nodup := by
  rw [List.map_append, List.map_singleton]
  refine List.Nodup.append (distinct.sublist ((without_sublist key l).map _))
    (List.nodup_singleton _) ?_
  intro other inside here
  obtain ⟨entry, member, rfl⟩ := List.mem_map.mp inside
  exact (mem_without.mp member).2 (List.mem_singleton.mp here)

end Keys

/-! ## Giving up old entries -/

/-- What is left when the oldest entries go until the rest fits: the longest
suffix that fits. -/
def keepRecent {α : Type*} (fits : List α → Bool) (l : List α) : List α :=
  (l.tails.find? fits).getD []

section KeepRecent

variable {α β : Type*} {fits : List α → Bool} {l : List α}

theorem keepRecent_cons (fits : List α → Bool) (a : α) (l : List α) :
    keepRecent fits (a :: l) = if fits (a :: l) then a :: l else keepRecent fits l := by
  rw [keepRecent, List.tails_cons, List.find?_cons]
  by_cases whole : fits (a :: l)
  · rw [whole, if_pos rfl]
    rfl
  · rw [Bool.eq_false_of_not_eq_true whole, if_neg Bool.false_ne_true]
    rfl

theorem keepRecent_nil (fits : List α → Bool) : keepRecent fits [] = [] := by
  rw [keepRecent, List.tails, List.find?_singleton]
  split <;> rfl

theorem keepRecent_suffix (fits : List α → Bool) (l : List α) : keepRecent fits l <:+ l := by
  induction l with
  | nil => rw [keepRecent_nil]
  | cons a l ih =>
      rw [keepRecent_cons]
      split
      · exact List.suffix_rfl
      · exact ih.trans (List.suffix_cons a l)

/-- What is kept fits, provided that nothing at all would. -/
theorem keepRecent_fits (fits : List α → Bool) (nothing : fits [] = true) (l : List α) :
    fits (keepRecent fits l) = true := by
  induction l with
  | nil => rwa [keepRecent_nil]
  | cons a l ih =>
      rw [keepRecent_cons]
      split
      · rename_i whole
        exact whole
      · exact ih

/-- **No more is given up than must be.** Every suffix that fits is inside what is
kept. -/
theorem keepRecent_longest {kept : List α} (suffix : kept <:+ l) (fitting : fits kept = true) :
    kept <:+ keepRecent fits l := by
  induction l with
  | nil =>
      rw [List.suffix_nil.mp suffix]
      exact List.nil_suffix
  | cons a l ih =>
      rw [keepRecent_cons]
      split
      · exact suffix
      · rename_i whole
        rcases List.suffix_cons_iff.mp suffix with same | shorter
        · rw [same] at fitting
          exact absurd fitting whole
        · exact ih shorter

/-- **The most recent entry stays** if it fits alone. -/
theorem keepRecent_concat (l : List α) {a : α} (alone : fits [a] = true) :
    ∃ kept, kept <:+ l ∧ keepRecent fits (l ++ [a]) = kept ++ [a] := by
  have inside : [a] <:+ keepRecent fits (l ++ [a]) :=
    keepRecent_longest (List.suffix_append l [a]) alone
  obtain ⟨kept, same⟩ := inside
  refine ⟨kept, ?_, same.symm⟩
  have whole := keepRecent_suffix fits (l ++ [a])
  rw [← same] at whole
  obtain ⟨front, joined⟩ := whole
  rw [← List.append_assoc] at joined
  exact ⟨front, List.append_cancel_right joined⟩

/-- A view that decides what fits commutes with giving up. -/
theorem keepRecent_map {view : α → β} {fits' : List β → Bool}
    (agrees : ∀ part, fits' (part.map view) = fits part) (l : List α) :
    (keepRecent fits l).map view = keepRecent fits' (l.map view) := by
  induction l with
  | nil => rw [keepRecent_nil, List.map_nil, keepRecent_nil]
  | cons a l ih =>
      have same : fits' (view a :: l.map view) = fits (a :: l) := agrees (a :: l)
      rw [keepRecent_cons, List.map_cons, keepRecent_cons, same]
      split
      · rfl
      · exact ih

end KeepRecent

/-! ## Using and placing -/

/-- Move the entry under `key` to the recent end. -/
def touch (key : κ) (l : List (κ × ν)) : List (κ × ν) :=
  match entryUnder key l with
  | none => l
  | some entry => without key l ++ [entry]

/-- Put a value at the recent end in the stead of what the key held, and give up
old entries until the rest fits. -/
def placeRecent (fits : List (κ × ν) → Bool) (key : κ) (value : ν) (l : List (κ × ν)) :
    List (κ × ν) :=
  keepRecent fits (without key l ++ [(key, value)])

section Using

variable {fits : List (κ × ν) → Bool} {key other : κ} {value : ν} {l : List (κ × ν)}

theorem touch_perm (distinct : (l.map Prod.fst).Nodup) (key : κ) : (touch key l).Perm l := by
  rw [touch]
  split
  · exact List.Perm.refl l
  · rename_i entry found
    obtain ⟨member, rfl⟩ := (entryUnder_eq_some distinct).mp found
    exact (List.perm_append_singleton _ _).trans (perm_cons_without distinct member).symm

theorem touch_distinct (distinct : (l.map Prod.fst).Nodup) (key : κ) :
    ((touch key l).map Prod.fst).Nodup :=
  ((touch_perm distinct key).map Prod.fst).nodup_iff.mpr distinct

/-- Using an entry changes no value. -/
theorem heldUnder_touch (distinct : (l.map Prod.fst).Nodup) (key other : κ) :
    heldUnder other (touch key l) = heldUnder other l := by
  rw [heldUnder, heldUnder, entryUnder, entryUnder,
    find?_key_perm (touch_distinct distinct key) (touch_perm distinct key)]

theorem placeRecent_distinct (distinct : (l.map Prod.fst).Nodup) :
    ((placeRecent fits key value l).map Prod.fst).Nodup :=
  (nodup_without_concat distinct key value).sublist
    ((keepRecent_suffix fits _).sublist.map Prod.fst)

/-- **What a key finds after a value was placed**: the value itself, or what it
found before unless its entry was given up. -/
theorem heldUnder_placeRecent (distinct : (l.map Prod.fst).Nodup)
    (alone : fits [(key, value)] = true) :
    heldUnder other (placeRecent fits key value l) =
      if other = key then some value
      else if other ∈ (placeRecent fits key value l).map Prod.fst then heldUnder other l
      else none := by
  have distinct' : ((placeRecent fits key value l).map Prod.fst).Nodup :=
    placeRecent_distinct distinct
  apply Option.ext
  intro found
  rw [heldUnder_eq_some distinct']
  split
  · rename_i here
    subst here
    obtain ⟨kept, suffix, same⟩ := keepRecent_concat (without other l) alone
    have placed : (other, value) ∈ placeRecent fits other value l := by
      rw [placeRecent, same]
      exact List.mem_append_right _ (List.mem_singleton_self _)
    constructor
    · intro member
      have entries := List.inj_on_of_nodup_map distinct' member placed rfl
      rw [Prod.mk.injEq] at entries
      rw [entries.2]
    · intro value_found
      cases value_found
      exact placed
  · rename_i elsewhere
    have inside : ∀ value',
        (other, value') ∈ placeRecent fits key value l → (other, value') ∈ l := by
      intro value' member
      have whole := (keepRecent_suffix fits _).subset member
      rcases List.mem_append.mp whole with old | new
      · exact (mem_without.mp old).1
      · rw [List.mem_singleton, Prod.mk.injEq] at new
        exact absurd new.1 elsewhere
    split
    · rename_i kept
      obtain ⟨⟨_, held⟩, member, rfl⟩ := List.mem_map.mp kept
      rw [heldUnder_eq_some distinct]
      constructor
      · exact inside found
      · intro old
        have entries := List.inj_on_of_nodup_map distinct old (inside held member) rfl
        rw [Prod.mk.injEq] at entries
        rw [entries.2]
        exact member
    · rename_i gone
      constructor
      · intro member
        exact absurd (List.mem_map_of_mem member) gone
      · nofun

end Using

/-! ## Times of last use -/

section Times

variable {α : Type*} {time : α → Nat} {l l' : List α}

/-- **The smallest time is at the old end**, in whatever order the entries are
looked at. -/
theorem argmin_eq_head? (ordered : l.Pairwise (fun a b => time a < time b)) (perm : l'.Perm l) :
    l'.argmin time = l.head? := by
  cases l with
  | nil =>
      rw [List.Perm.eq_nil perm]
      rfl
  | cons oldest rest =>
      rw [List.pairwise_cons] at ordered
      rw [List.head?_cons]
      have here : oldest ∈ l' := perm.mem_iff.mpr List.mem_cons_self
      cases found : l'.argmin time with
      | none =>
          rw [List.argmin_eq_none.mp found] at here
          cases here
      | some least =>
          have member : least ∈ oldest :: rest := perm.mem_iff.mp (List.argmin_mem found)
          rcases List.mem_cons.mp member with same | later
          · rw [same]
          · have smallest : time least ≤ time oldest := List.le_of_mem_argmin here found
            exact absurd (ordered.1 least later) (Nat.not_lt.mpr smallest)

end Times

end Omnivox.Foundations
