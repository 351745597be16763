import Mathlib
import Omnivox.Foundations.Keyed

/-!
# Grouping by owner

Items that come with an owner are filed in groups, one group for each key of an owner. Where
owners of one key are the same, the groups sorted by key, each with its items sorted by
distinct keys of their own, do not depend on the order in which the items came
(`Grouped.sorted_eq`).
-/

set_option autoImplicit false

namespace Omnivox.Foundations

variable {α β γ κ ι : Type*}

/-! ## Lists with tags -/

/-- Where at most one element fits, the order does not matter. -/
theorem find?_perm_of_unique {fits : α → Bool} {l l' : List α}
    (unique : ∀ a ∈ l, ∀ b ∈ l, fits a = true → fits b = true → a = b) (perm : l.Perm l') :
    l.find? fits = l'.find? fits := by
  have one_way : ∀ {first second : List α}, first.Perm second →
      (∀ a ∈ first, ∀ b ∈ first, fits a = true → fits b = true → a = b) →
        ∀ a, first.find? fits = some a → second.find? fits = some a := by
    intro first second perm unique a found
    have member := List.mem_of_find?_eq_some found
    have fitting := List.find?_some found
    obtain ⟨b, found'⟩ := Option.isSome_iff_exists.mp
      (List.find?_isSome.mpr ⟨a, perm.mem_iff.mp member, fitting⟩)
    have member' := perm.mem_iff.mpr (List.mem_of_find?_eq_some found')
    have fitting' := List.find?_some found'
    rw [found', unique a member b member' fitting fitting']
  apply Option.ext
  intro a
  constructor
  · exact one_way perm unique a
  · refine one_way perm.symm ?_ a
    intro b member c member'
    exact unique b (perm.mem_iff.mpr member) c (perm.mem_iff.mpr member')

/-- What is picked from elements with distinct tags has distinct tags. -/
theorem nodup_filterMap_of_tag {pick : α → Option β} {tagOf : α → Option κ} {tag : β → κ}
    {l : List α} (tags : ∀ a ∈ l, ∀ b, pick a = some b → tagOf a = some (tag b))
    (distinct : (l.filterMap tagOf).Nodup) : ((l.filterMap pick).map tag).Nodup := by
  have within : ((l.filterMap pick).map tag).Sublist (l.filterMap tagOf) := by
    clear distinct
    induction l with
    | nil => exact List.Sublist.refl _
    | cons a rest ih =>
        obtain ⟨here, later⟩ := List.forall_mem_cons.mp tags
        cases picked : pick a with
        | none =>
            rw [List.filterMap_cons_none picked]
            refine (ih later).trans ?_
            cases tagged : tagOf a with
            | none => rw [List.filterMap_cons_none tagged]
            | some t =>
                rw [List.filterMap_cons_some tagged]
                exact List.sublist_cons_self _ _
        | some b =>
            rw [List.filterMap_cons_some picked, List.filterMap_cons_some (here b picked),
              List.map_cons]
            exact (ih later).cons_cons _
  exact distinct.sublist within

/-! ## Groups -/

section Groups

variable [DecidableEq κ] {key : γ → κ}

/-- File an item in the group of its owner's key, or in a new group. -/
def fileUnder (key : γ → κ) (item : γ × β) : List (γ × List β) → List (γ × List β)
  | [] => [(item.1, [item.2])]
  | group :: rest =>
      if key group.1 = key item.1 then (group.1, group.2 ++ [item.2]) :: rest
      else group :: fileUnder key item rest

/-- The items under a key. -/
def under (key : γ → κ) (k : κ) (items : List (γ × β)) : List β :=
  (items.filter fun item => key item.1 = k).map Prod.snd

/-- Groups that hold the items. -/
structure Grouped (key : γ → κ) (groups : List (γ × List β)) (items : List (γ × β)) : Prop where
  distinct : (groups.map fun group => key group.1).Nodup
  members : ∀ group ∈ groups, group.2 = under key (key group.1) items
  owner : ∀ group ∈ groups, ∃ item ∈ items, item.1 = group.1
  cover : ∀ item ∈ items, ∃ group ∈ groups, group.1 = item.1

theorem Grouped.nil : Grouped key ([] : List (γ × List β)) [] :=
  ⟨List.nodup_nil, nofun, nofun, nofun⟩

/-- A filed item changes its own group only. -/
theorem mem_fileUnder {item : γ × β} {groups : List (γ × List β)}
    (distinct : (groups.map fun group => key group.1).Nodup) {group : γ × List β} :
    group ∈ fileUnder key item groups ↔
      (group ∈ groups ∧ key group.1 ≠ key item.1) ∨
        (∃ old ∈ groups, key old.1 = key item.1 ∧ group = (old.1, old.2 ++ [item.2])) ∨
          ((∀ old ∈ groups, key old.1 ≠ key item.1) ∧ group = (item.1, [item.2])) := by
  induction groups with
  | nil => simp [fileUnder]
  | cons first rest ih =>
      rw [List.map_cons, List.nodup_cons] at distinct
      obtain ⟨fresh, distinct⟩ := distinct
      have others : ∀ other ∈ rest, key other.1 ≠ key first.1 := by
        intro other member same
        exact fresh (same ▸ List.mem_map_of_mem member)
      rw [fileUnder]
      by_cases here : key first.1 = key item.1
      · rw [if_pos here, List.mem_cons]
        constructor
        · rintro (rfl | later)
          · exact Or.inr (Or.inl ⟨first, List.mem_cons_self, here, rfl⟩)
          · refine Or.inl ⟨List.mem_cons_of_mem _ later, ?_⟩
            rw [← here]
            exact others group later
        · rintro (⟨member, apart⟩ | ⟨old, member, same, rfl⟩ | ⟨apart, -⟩)
          · rcases List.mem_cons.mp member with rfl | later
            · exact absurd here apart
            · exact Or.inr later
          · rcases List.mem_cons.mp member with rfl | later
            · exact Or.inl rfl
            · exact absurd (same.trans here.symm) (others old later)
          · exact absurd here (apart first List.mem_cons_self)
      · rw [if_neg here, List.mem_cons, ih distinct]
        constructor
        · rintro (rfl | ⟨later, apart⟩ | ⟨old, later, same⟩ | ⟨apart, new⟩)
          · exact Or.inl ⟨List.mem_cons_self, here⟩
          · exact Or.inl ⟨List.mem_cons_of_mem _ later, apart⟩
          · exact Or.inr (Or.inl ⟨old, List.mem_cons_of_mem _ later, same⟩)
          · exact Or.inr (Or.inr ⟨List.forall_mem_cons.mpr ⟨here, apart⟩, new⟩)
        · rintro (⟨member, apart⟩ | ⟨old, member, same, changed⟩ | ⟨apart, new⟩)
          · rcases List.mem_cons.mp member with rfl | later
            · exact Or.inl rfl
            · exact Or.inr (Or.inl ⟨later, apart⟩)
          · rcases List.mem_cons.mp member with rfl | later
            · exact absurd same here
            · exact Or.inr (Or.inr (Or.inl ⟨old, later, same, changed⟩))
          · exact Or.inr (Or.inr (Or.inr ⟨(List.forall_mem_cons.mp apart).2, new⟩))

theorem distinct_fileUnder {item : γ × β} {groups : List (γ × List β)}
    (distinct : (groups.map fun group => key group.1).Nodup) :
    ((fileUnder key item groups).map fun group => key group.1).Nodup := by
  induction groups with
  | nil => exact List.nodup_singleton _
  | cons first rest ih =>
      rw [List.map_cons, List.nodup_cons] at distinct
      rw [fileUnder]
      by_cases here : key first.1 = key item.1
      · rw [if_pos here, List.map_cons, List.nodup_cons]
        exact distinct
      · rw [if_neg here, List.map_cons, List.nodup_cons]
        refine ⟨fun again => ?_, ih distinct.2⟩
        obtain ⟨other, member, same⟩ := List.mem_map.mp again
        rcases (mem_fileUnder distinct.2).mp member with ⟨old, _⟩ | ⟨old, was, _, rfl⟩ | ⟨_, rfl⟩
        · exact distinct.1 (List.mem_map.mpr ⟨other, old, same⟩)
        · exact distinct.1 (List.mem_map.mpr ⟨old, was, same⟩)
        · exact here same.symm

theorem under_append (k : κ) (items : List (γ × β)) (item : γ × β) :
    under key k (items ++ [item]) =
      under key k items ++ if key item.1 = k then [item.2] else [] := by
  unfold under
  rw [List.filter_append, List.map_append]
  by_cases here : key item.1 = k
  · simp [here]
  · simp [here]

/-- **Filing one more item**, whose owner is the one that its group has. -/
theorem Grouped.fileUnder {groups : List (γ × List β)} {items : List (γ × β)} {item : γ × β}
    (grouped : Grouped key groups items)
    (same_owner : ∀ group ∈ groups, key group.1 = key item.1 → group.1 = item.1) :
    Grouped key (fileUnder key item groups) (items ++ [item]) where
  distinct := distinct_fileUnder grouped.distinct
  members := by
    intro group member
    rw [under_append]
    rcases (mem_fileUnder grouped.distinct).mp member with
      ⟨old, apart⟩ | ⟨old, was, same, rfl⟩ | ⟨apart, rfl⟩
    · rw [if_neg (Ne.symm apart), List.append_nil]
      exact grouped.members group old
    · rw [if_pos same.symm, ← grouped.members old was]
    · have none_before : under key (key item.1) items = [] := by
        unfold under
        rw [List.map_eq_nil_iff, List.filter_eq_nil_iff]
        intro other held matched
        obtain ⟨group, member, owned⟩ := grouped.cover other held
        exact apart group member (owned ▸ of_decide_eq_true matched)
      rw [if_pos rfl, none_before, List.nil_append]
  owner := by
    intro group member
    rcases (mem_fileUnder grouped.distinct).mp member with
      ⟨old, _⟩ | ⟨old, was, _, rfl⟩ | ⟨_, rfl⟩
    · obtain ⟨other, held, owned⟩ := grouped.owner group old
      exact ⟨other, List.mem_append_left _ held, owned⟩
    · obtain ⟨other, held, owned⟩ := grouped.owner old was
      exact ⟨other, List.mem_append_left _ held, owned⟩
    · exact ⟨item, List.mem_append_right _ (List.mem_singleton_self _), rfl⟩
  cover := by
    intro other held
    rcases List.mem_append.mp held with before | here
    · obtain ⟨group, member, owned⟩ := grouped.cover other before
      by_cases same : key group.1 = key item.1
      · exact ⟨_, (mem_fileUnder grouped.distinct).mpr (Or.inr (Or.inl ⟨group, member, same, rfl⟩)),
          owned⟩
      · exact ⟨group, (mem_fileUnder grouped.distinct).mpr (Or.inl ⟨member, same⟩), owned⟩
    · obtain rfl := List.mem_singleton.mp here
      by_cases some_group : ∃ group ∈ groups, key group.1 = key other.1
      · obtain ⟨group, member, same⟩ := some_group
        exact ⟨_, (mem_fileUnder grouped.distinct).mpr (Or.inr (Or.inl ⟨group, member, same, rfl⟩)),
          same_owner group member same⟩
      · refine ⟨(other.1, [other.2]), (mem_fileUnder grouped.distinct).mpr (Or.inr (Or.inr
          ⟨fun group member same => some_group ⟨group, member, same⟩, rfl⟩)), rfl⟩

end Groups

/-! ## Sorted groups -/

section Sorted

variable [LinearOrder κ] [LinearOrder ι] {key : γ → κ} {index : β → ι}
  {groups groups' : List (γ × List β)} {items items' : List (γ × β)}

/-- The key of a group is its owner's. -/
def groupKey (key : γ → κ) (group : γ × List β) : κ := key group.1

/-- A group with its items in order. -/
def inOrder (index : β → ι) (group : γ × List β) : γ × List β := (group.1, sortBy index group.2)

/-- Every group of the one order is there in the other. -/
theorem Grouped.subset (grouped : Grouped key groups items) (grouped' : Grouped key groups' items')
    (perm : items.Perm items')
    (distinct : (items.map fun item => (key item.1, index item.2)).Nodup) {group : γ × List β}
    (member : group ∈ groups.map (inOrder index)) : group ∈ groups'.map (inOrder index) := by
  obtain ⟨old, held, rfl⟩ := List.mem_map.mp member
  obtain ⟨item, listed, owned⟩ := grouped.owner old held
  obtain ⟨other, held', owned'⟩ := grouped'.cover item (perm.mem_iff.mp listed)
  refine List.mem_map.mpr ⟨other, held', ?_⟩
  have owners : other.1 = old.1 := owned'.trans owned
  have indexes : ((under key (key old.1) items).map index).Nodup := by
    unfold under
    rw [List.map_map]
    refine List.Nodup.of_map (fun i => (key old.1, i)) ?_
    rw [List.map_map]
    have inside := distinct.sublist ((List.filter_sublist
      (p := fun item => key item.1 = key old.1) (l := items)).map _)
    refine (List.map_congr_left fun item member => ?_) ▸ inside
    rw [List.mem_filter, decide_eq_true_iff] at member
    simp [member.2]
  rw [inOrder, inOrder, owners, grouped'.members other held', grouped.members old held, owners]
  refine Prod.ext rfl (sortBy_perm indexes ?_).symm
  exact (perm.filter _).map _

/-- **Sorted groups forget the order of the items**, if no two items of a group share an
index. -/
theorem Grouped.sorted_eq (grouped : Grouped key groups items)
    (grouped' : Grouped key groups' items') (perm : items.Perm items')
    (distinct : (items.map fun item => (key item.1, index item.2)).Nodup) :
    (sortBy (groupKey key) groups).map (inOrder index) =
      (sortBy (groupKey key) groups').map (inOrder index) := by
  have keys : ∀ {groups : List (γ × List β)},
      (groups.map (inOrder index)).map (groupKey key) = groups.map (groupKey key) := by
    intro groups
    rw [List.map_map]
    rfl
  have once := List.Nodup.of_map _ (keys.symm ▸ grouped.distinct)
  have once' := List.Nodup.of_map _ (keys.symm ▸ grouped'.distinct)
  have same : (groups.map (inOrder index)).Perm (groups'.map (inOrder index)) := by
    refine (List.perm_ext_iff_of_nodup once once').mpr fun group => ?_
    exact ⟨grouped.subset grouped' perm distinct, grouped'.subset grouped perm.symm
      ((perm.map _).nodup_iff.mp distinct)⟩
  have keeps : ∀ group, groupKey key (inOrder index group) = groupKey key group := fun _ => rfl
  have inside : ∀ groups, (sortBy (groupKey key) groups).map (inOrder index) =
      sortBy (groupKey key) (groups.map (inOrder index)) :=
    fun groups => (sortBy_map fun group _ => keeps group).symm
  rw [inside, inside]
  exact sortBy_perm (keys.symm ▸ grouped.distinct) same

end Sorted

end Omnivox.Foundations
