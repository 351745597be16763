import Mathlib

/-!
# Timed sequences

A sequence of ticks carries marks between them, and each mark has a due time: the number
of ticks before it. A sequence is on time when every mark stands where it is due.

The ticks, the marks and the due times leave no choice (`TimedFrom.unique`). So two
programs that deliver the same ticks and the same marks on time deliver them in one order.
-/

set_option autoImplicit false

namespace Omnivox.Foundations

variable {α β : Type*}

/-- The marks of a sequence. -/
def marks (l : List (α ⊕ β)) : List α := l.filterMap Sum.getLeft?

/-- The ticks of a sequence. -/
def ticks (l : List (α ⊕ β)) : List β := l.filterMap Sum.getRight?

section Parts

variable (l l' : List (α ⊕ β)) (a : α) (b : β)

@[simp] theorem marks_nil : marks ([] : List (α ⊕ β)) = [] := rfl

@[simp] theorem ticks_nil : ticks ([] : List (α ⊕ β)) = [] := rfl

@[simp] theorem marks_inl_cons : marks (Sum.inl a :: l) = a :: marks l := rfl

@[simp] theorem marks_inr_cons : marks (Sum.inr b :: l) = marks l := rfl

@[simp] theorem ticks_inl_cons : ticks (Sum.inl a :: l) = ticks l := rfl

@[simp] theorem ticks_inr_cons : ticks (Sum.inr b :: l) = b :: ticks l := rfl

@[simp] theorem marks_append : marks (l ++ l') = marks l ++ marks l' :=
  List.filterMap_append

@[simp] theorem ticks_append : ticks (l ++ l') = ticks l ++ ticks l' :=
  List.filterMap_append

@[simp] theorem marks_map_inl (as : List α) : marks (as.map Sum.inl : List (α ⊕ β)) = as := by
  induction as with
  | nil => rfl
  | cons a rest ih => rw [List.map_cons, marks_inl_cons, ih]

@[simp] theorem ticks_map_inl (as : List α) : ticks (as.map Sum.inl : List (α ⊕ β)) = [] := by
  induction as with
  | nil => rfl
  | cons a rest ih => rw [List.map_cons, ticks_inl_cons, ih]

end Parts

/-- Every mark stands where it is due, counting from a first tick. -/
def TimedFrom (due : α → Nat) : Nat → List (α ⊕ β) → Prop
  | _, [] => True
  | now, Sum.inl a :: rest => due a = now ∧ TimedFrom due now rest
  | now, Sum.inr _ :: rest => TimedFrom due (now + 1) rest

variable {due : α → Nat}

theorem timedFrom_append {now : Nat} {l l' : List (α ⊕ β)} :
    TimedFrom due now (l ++ l') ↔
      TimedFrom due now l ∧ TimedFrom due (now + (ticks l).length) l' := by
  induction l generalizing now with
  | nil => simp [TimedFrom]
  | cons entry rest ih =>
      cases entry with
      | inl a => simp only [List.cons_append, TimedFrom, ih, ticks_inl_cons, and_assoc]
      | inr b =>
          have counted : now + 1 + (ticks rest).length = now + (ticks (Sum.inr b :: rest)).length := by
            rw [ticks_inr_cons, List.length_cons]
            omega
          simp only [List.cons_append, TimedFrom, ih, counted]

/-- Marks that are all due at once. -/
theorem timedFrom_map_inl {now : Nat} {as : List α} (dueNow : ∀ a ∈ as, due a = now) :
    TimedFrom due now (as.map Sum.inl : List (α ⊕ β)) := by
  induction as with
  | nil => trivial
  | cons a rest ih =>
      obtain ⟨here, later⟩ := List.forall_mem_cons.mp dueNow
      exact ⟨here, ih later⟩

/-- No mark is due before the first tick that is counted. -/
theorem TimedFrom.le_due {now : Nat} {l : List (α ⊕ β)} (timed : TimedFrom due now l) {a : α}
    (member : a ∈ marks l) : now ≤ due a := by
  induction l generalizing now with
  | nil => exact absurd member List.not_mem_nil
  | cons entry rest ih =>
      cases entry with
      | inl first =>
          rcases List.mem_cons.mp member with rfl | later
          · exact timed.1.ge
          · exact ih timed.2 later
      | inr b => exact (Nat.le_succ now).trans (ih timed member)

/-- No mark is due after the last tick. -/
theorem TimedFrom.due_le {now : Nat} {l : List (α ⊕ β)} (timed : TimedFrom due now l) {a : α}
    (member : a ∈ marks l) : due a ≤ now + (ticks l).length := by
  induction l generalizing now with
  | nil => exact absurd member List.not_mem_nil
  | cons entry rest ih =>
      cases entry with
      | inl first =>
          rcases List.mem_cons.mp member with rfl | later
          · exact timed.1.le.trans (Nat.le_add_right _ _)
          · exact ih timed.2 later
      | inr b =>
          have later : due a ≤ now + 1 + (ticks rest).length := ih timed member
          rw [ticks_inr_cons, List.length_cons]
          omega

/-- **Ticks, marks and due times leave no choice.** -/
theorem TimedFrom.unique {now : Nat} {l l' : List (α ⊕ β)} (timed : TimedFrom due now l)
    (timed' : TimedFrom due now l') (sameMarks : marks l = marks l')
    (sameTicks : ticks l = ticks l') : l = l' := by
  induction l generalizing now l' with
  | nil =>
      cases l' with
      | nil => rfl
      | cons entry rest =>
          cases entry with
          | inl a => cases sameMarks
          | inr b => cases sameTicks
  | cons entry rest ih =>
      cases l' with
      | nil =>
          cases entry with
          | inl a => cases sameMarks
          | inr b => cases sameTicks
      | cons entry' rest' =>
          cases entry with
          | inl a =>
              cases entry' with
              | inl a' =>
                  obtain ⟨rfl, marks⟩ := List.cons.inj sameMarks
                  rw [ih timed.2 timed'.2 marks sameTicks]
              | inr b' =>
                  -- the mark is due now, and stands after a tick on the other side
                  have member : a ∈ marks rest' := by
                    rw [← marks_inr_cons rest' b', ← sameMarks]
                    exact List.mem_cons_self
                  have late : now + 1 ≤ due a := TimedFrom.le_due (l := rest') timed' member
                  exact absurd timed.1 (Nat.ne_of_gt late)
          | inr b =>
              cases entry' with
              | inl a' =>
                  have member : a' ∈ marks rest := by
                    rw [← marks_inr_cons rest b, sameMarks]
                    exact List.mem_cons_self
                  have late : now + 1 ≤ due a' := TimedFrom.le_due (l := rest) timed member
                  exact absurd timed'.1 (Nat.ne_of_gt late)
              | inr b' =>
                  obtain ⟨rfl, ticks⟩ := List.cons.inj sameTicks
                  rw [ih timed timed' sameMarks ticks]

end Omnivox.Foundations
