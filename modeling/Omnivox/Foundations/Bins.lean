import Mathlib

/-!
# Bins

Items that name a bin by its index are put there one after the other. An index that no bin
has stops the whole. Otherwise each bin has received its own items in their order
(`fileAll_eq_some`).
-/

set_option autoImplicit false

namespace Omnivox.Foundations

variable {β γ : Type*}

/-- Change the bin at an index. -/
def modifyAt (index : Nat) (change : β → β) (bins : List β) : Option (List β) :=
  if index < bins.length then some (bins.modify index change) else none

/-- Put the items into the bins that their indices name. -/
def fileAll (add : β → γ → β) (bins : List β) (items : List (Nat × γ)) : Option (List β) :=
  items.foldlM (fun bins item => modifyAt item.1 (fun bin => add bin item.2) bins) bins

/-- The items of one bin. -/
def itemsOf (index : Nat) (items : List (Nat × γ)) : List γ :=
  (items.filter fun item => item.1 == index).map Prod.snd

/-- **Each bin receives its items.** -/
theorem fileAll_eq_some {add : β → γ → β} {bins : List β} {items : List (Nat × γ)}
    (inside : ∀ item ∈ items, item.1 < bins.length) :
    ∃ filed, fileAll add bins items = some filed ∧ filed.length = bins.length ∧
      ∀ index, filed[index]? = bins[index]?.map fun bin => (itemsOf index items).foldl add bin := by
  induction items generalizing bins with
  | nil => exact ⟨bins, rfl, rfl, fun index => (congrFun Option.map_id _).symm⟩
  | cons item rest ih =>
      obtain ⟨here, later⟩ := List.forall_mem_cons.mp inside
      have first : modifyAt item.1 (fun bin => add bin item.2) bins =
          some (bins.modify item.1 fun bin => add bin item.2) := if_pos here
      obtain ⟨filed, done, length, places⟩ := @ih (bins.modify item.1 fun bin => add bin item.2)
        (by rw [List.length_modify]; exact later)
      refine ⟨filed, ?_, length.trans (List.length_modify ..), fun index => ?_⟩
      · unfold fileAll at done ⊢
        rw [List.foldlM_cons, first]
        exact done
      · rw [places, List.getElem?_modify]
        unfold itemsOf
        by_cases same : item.1 = index
        · subst same
          rw [List.filter_cons, if_pos (beq_self_eq_true _)]
          cases bins[item.1]? with
          | none => rfl
          | some bin => simp
        · have other : (item.1 == index) = false := beq_eq_false_iff_ne.mpr same
          rw [List.filter_cons, other, if_neg Bool.false_ne_true]
          cases bins[index]? with
          | none => rfl
          | some bin => simp [same]

end Omnivox.Foundations
