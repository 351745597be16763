import Mathlib

/-!
# Runs of a partial step function

A system is a partial step function: a label is enabled in a state when the
step is defined there. A run is the fold of the step over a list of labels; it
is defined when every label is enabled where it is taken.

What one step preserves, every run preserves (`run_preserves`).
-/

set_option autoImplicit false

namespace Omnivox.Foundations

variable {State Label : Type*}

/-- Take the labels one after another. -/
def runSteps (step : State → Label → Option State) : State → List Label → Option State
  | state, [] => some state
  | state, label :: rest => (step state label).bind fun next => runSteps step next rest

@[simp] theorem runSteps_nil (step : State → Label → Option State) (state : State) :
    runSteps step state [] = some state := rfl

theorem runSteps_cons {step : State → Label → Option State} {state final : State} {label : Label}
    {rest : List Label} (run : runSteps step state (label :: rest) = some final) :
    ∃ next, step state label = some next ∧ runSteps step next rest = some final :=
  Option.bind_eq_some_iff.mp run

/-- Two runs, one after the other. -/
theorem runSteps_append {step : State → Label → Option State} {state middle final : State}
    {first second : List Label} (start : runSteps step state first = some middle)
    (rest : runSteps step middle second = some final) :
    runSteps step state (first ++ second) = some final := by
  induction first generalizing state with
  | nil =>
      rw [runSteps_nil, Option.some.injEq] at start
      rw [start]
      exact rest
  | cons label more ih =>
      obtain ⟨next, taken, further⟩ := runSteps_cons start
      rw [List.cons_append, runSteps, taken]
      exact ih further

/-- **Invariant rule.** A property that every enabled step preserves holds at the
end of every run that starts with it. -/
theorem run_preserves {step : State → Label → Option State} {holds : State → Prop}
    (preserved : ∀ state label next, holds state → step state label = some next → holds next)
    {state final : State} {labels : List Label} (start : holds state)
    (run : runSteps step state labels = some final) : holds final := by
  induction labels generalizing state with
  | nil =>
      simp only [runSteps_nil, Option.some.injEq] at run
      exact run ▸ start
  | cons label rest ih =>
      obtain ⟨next, taken, further⟩ := runSteps_cons run
      exact ih (preserved state label next start taken) further

/-- **Simulation rule.** When a map of states commutes with the step, it commutes
with every run. -/
theorem runSteps_map {State' : Type*} {step : State → Label → Option State}
    {step' : State' → Label → Option State'} (view : State → State')
    (commutes : ∀ state label, (step state label).map view = step' (view state) label)
    (state : State) (labels : List Label) :
    (runSteps step state labels).map view = runSteps step' (view state) labels := by
  induction labels generalizing state with
  | nil => rfl
  | cons label rest ih =>
      rw [runSteps, runSteps, ← commutes state label]
      cases step state label with
      | none => rfl
      | some next => exact ih next

/-- A property of every step that a run takes. -/
def Along (step : State → Label → Option State) (property : State → Label → State → Prop) :
    State → List Label → Prop
  | _, [] => True
  | state, label :: rest => ∀ next, step state label = some next →
      property state label next ∧ Along step property next rest

/-- **Comparison rule.** Two properties that agree on every step from a state where an
invariant holds, and one of which preserves it, agree along every run. -/
theorem along_iff {step : State → Label → Option State} {holds : State → Prop}
    {property condition : State → Label → State → Prop}
    (agrees : ∀ state label next, holds state → step state label = some next →
      (property state label next ↔ condition state label next))
    (preserved : ∀ state label next, holds state → step state label = some next →
      condition state label next → holds next)
    {state : State} (start : holds state) (labels : List Label) :
    Along step property state labels ↔ Along step condition state labels := by
  induction labels generalizing state with
  | nil => exact Iff.rfl
  | cons label rest ih =>
      refine forall_congr' fun next => imp_congr_right fun taken => ?_
      rw [agrees state label next start taken]
      refine and_congr_right fun met => ?_
      exact ih (preserved state label next start taken met)

end Omnivox.Foundations
