import Mathlib

/-!
# Transducers

A step takes a state and an input to the next state and an output. Over a list
of inputs it gives the last state and the outputs in order.

A list that is cut in two is passed piece by piece, the second from the state
where the first ended (`transduce_append`).
-/

set_option autoImplicit false

namespace Omnivox.Foundations

variable {State Input Output : Type*}

/-- Pass the inputs one after another. -/
def transduce (step : State → Input → State × Output) :
    State → List Input → State × List Output
  | state, [] => (state, [])
  | state, input :: rest =>
    let passed := transduce step (step state input).1 rest
    (passed.1, (step state input).2 :: passed.2)

variable (step : State → Input → State × Output)

@[simp] theorem transduce_nil (state : State) : transduce step state [] = (state, []) := rfl

theorem transduce_cons (state : State) (input : Input) (rest : List Input) :
    transduce step state (input :: rest) =
      ((transduce step (step state input).1 rest).1,
        (step state input).2 :: (transduce step (step state input).1 rest).2) := rfl

/-- **Cutting the input.** -/
theorem transduce_append (state : State) (first second : List Input) :
    transduce step state (first ++ second) =
      ((transduce step (transduce step state first).1 second).1,
        (transduce step state first).2 ++
          (transduce step (transduce step state first).1 second).2) := by
  induction first generalizing state with
  | nil => rfl
  | cons input rest ih => simp only [List.cons_append, transduce_cons, ih]

/-- One output for each input. -/
@[simp] theorem transduce_length (state : State) (inputs : List Input) :
    (transduce step state inputs).2.length = inputs.length := by
  induction inputs generalizing state with
  | nil => rfl
  | cons input rest ih => simp only [transduce_cons, List.length_cons, ih]

/-- **What every step keeps, the list keeps**, and its outputs are as every step's. -/
theorem transduce_keeps {Holds : State → Prop} {Allowed : Input → Prop} {Good : Output → Prop}
    (keeps : ∀ state input, Holds state → Allowed input →
      Holds (step state input).1 ∧ Good (step state input).2)
    {state : State} (start : Holds state) {inputs : List Input}
    (allowed : ∀ input ∈ inputs, Allowed input) :
    Holds (transduce step state inputs).1 ∧
      ∀ output ∈ (transduce step state inputs).2, Good output := by
  induction inputs generalizing state with
  | nil => exact ⟨start, nofun⟩
  | cons input rest ih =>
      rw [List.forall_mem_cons] at allowed
      obtain ⟨kept, good⟩ := keeps state input start allowed.1
      obtain ⟨last, others⟩ := ih kept allowed.2
      exact ⟨last, List.forall_mem_cons.mpr ⟨good, others⟩⟩

/-- The moments of a pass: each state with the input that it meets. -/
def moments : State → List Input → List (State × Input)
  | _, [] => []
  | state, input :: rest => (state, input) :: moments (step state input).1 rest

@[simp] theorem moments_nil (state : State) : moments step state [] = [] := rfl

@[simp] theorem moments_cons (state : State) (input : Input) (rest : List Input) :
    moments step state (input :: rest) =
      (state, input) :: moments step (step state input).1 rest := rfl

/-- **What every step keeps holds at every moment.** -/
theorem moments_keep {Holds : State → Prop} {Allowed : Input → Prop}
    (keeps : ∀ state input, Holds state → Allowed input → Holds (step state input).1)
    {state : State} (start : Holds state) {inputs : List Input}
    (allowed : ∀ input ∈ inputs, Allowed input) :
    ∀ moment ∈ moments step state inputs, Holds moment.1 ∧ Allowed moment.2 := by
  induction inputs generalizing state with
  | nil => exact nofun
  | cons input rest ih =>
      rw [List.forall_mem_cons] at allowed
      rw [moments_cons, List.forall_mem_cons]
      exact ⟨⟨start, allowed.1⟩, ih (keeps state input start allowed.1) allowed.2⟩

/-- Inputs and states that are seen through maps, as one step after another sees them. -/
theorem transduce_map {Input' State' : Type*} (step' : State' → Input' → State' × Output)
    (view : State' → State) (read : Input' → Input)
    (agrees : ∀ state input, step (view state) (read input) =
      (view (step' state input).1, (step' state input).2))
    (state : State') (inputs : List Input') :
    transduce step (view state) (inputs.map read) =
      (view (transduce step' state inputs).1, (transduce step' state inputs).2) := by
  induction inputs generalizing state with
  | nil => rfl
  | cons input rest ih =>
      rw [List.map_cons, transduce_cons, transduce_cons, agrees, ih]

end Omnivox.Foundations
