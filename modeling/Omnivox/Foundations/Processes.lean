import Mathlib
import Omnivox.Foundations.Runs

/-!
# Processes that share a memory

Every process has a state of its own, and all of them share a memory. A step is the step of
one process: it may change the memory and its own state.

A number in the memory counts the processes of a kind. It keeps counting them when each step
moves it as the process itself becomes or ceases to be of that kind (`Counts.set`).

Where some step lowers a rank as long as something is left to do, everything can be done from
every state (`finishes`).
-/

set_option autoImplicit false

namespace Omnivox.Foundations

variable {P : Type*}

/-! ## Counting processes -/

/-- A number is that of the processes of a kind. -/
def Counts (kind : P → Bool) (processes : List P) (n : Nat) : Prop := processes.countP kind = n

namespace Counts

variable {kind : P → Bool} {processes : List P} {n n' i : Nat} {before after : P}

theorem nil (kind : P → Bool) : Counts kind [] 0 := rfl

/-- **A step keeps a count** when it moves the number as its process moves. -/
theorem set (counts : Counts kind processes n) (found : processes[i]? = some before)
    (balance : n' + (kind before).toNat = n + (kind after).toNat) :
    Counts kind (processes.set i after) n' := by
  obtain ⟨inside, rfl⟩ := List.getElem?_eq_some_iff.mp found
  have positive : (kind processes[i]).toNat ≤ processes.countP kind := by
    cases same : kind processes[i] with
    | false => exact Nat.zero_le _
    | true => exact List.countP_pos_iff.mpr ⟨_, List.getElem_mem inside, same⟩
  have counted : processes.countP kind = n := counts
  have moved := List.countP_set (p := kind) (a := after) inside
  have first : (if kind processes[i] = true then 1 else 0) = (kind processes[i]).toNat := by
    cases kind processes[i] <;> rfl
  have second : (if kind after = true then 1 else 0) = (kind after).toNat := by
    cases kind after <;> rfl
  rw [first, second] at moved
  rw [Counts, moved]
  omega

/-- A new process that is not of the kind. -/
theorem concat (counts : Counts kind processes n) (other : kind after = false) :
    Counts kind (processes ++ [after]) n := by
  rw [Counts, List.countP_append, List.countP_singleton, other]
  exact counts

/-- A process of the kind is counted. -/
theorem pos (counts : Counts kind processes n) (found : processes[i]? = some before)
    (same : kind before = true) : 0 < n := by
  rw [← counts]
  exact List.countP_pos_iff.mpr ⟨before, List.mem_of_getElem? found, same⟩

/-- The count of nothing. -/
theorem eq_zero_iff (counts : Counts kind processes n) :
    n = 0 ↔ ∀ process ∈ processes, kind process = false := by
  rw [← counts, List.countP_eq_zero]
  simp only [Bool.not_eq_true]

/-- A narrower kind has fewer processes. -/
theorem le {narrow : P → Bool} (counts : Counts kind processes n)
    (within : ∀ process ∈ processes, narrow process = true → kind process = true) :
    processes.countP narrow ≤ n := by
  rw [← counts]
  exact List.countP_mono_left within

/-- Where at most one process is of a kind, two places with one are the same place. -/
theorem unique {j : Nat} {other : P} (counts : Counts kind processes n) (single : n ≤ 1)
    (found : processes[i]? = some before) (same : kind before = true)
    (found' : processes[j]? = some other) (same' : kind other = true) : i = j := by
  by_contra apart
  have away : (processes.eraseIdx i).countP kind + 1 ≤ n := by
    obtain ⟨inside, rfl⟩ := List.getElem?_eq_some_iff.mp found
    have perm := List.getElem_cons_eraseIdx_perm inside
    rw [← counts, ← perm.countP_eq, List.countP_cons_of_pos same]
  have left : other ∈ processes.eraseIdx i := by
    rw [List.mem_eraseIdx_iff_getElem?]
    exact ⟨j, Ne.symm apart, found'⟩
  have counted : 0 < (processes.eraseIdx i).countP kind :=
    List.countP_pos_iff.mpr ⟨other, left, same'⟩
  omega

end Counts

/-! ## Finishing -/

/-- One process that ranks lower lowers the sum of the ranks. -/
theorem sum_rank_set {rank : P → Nat} {processes : List P} {i : Nat} {before after : P}
    (found : processes[i]? = some before) (lower : rank after < rank before) :
    ((processes.set i after).map rank).sum < (processes.map rank).sum := by
  obtain ⟨inside, rfl⟩ := List.getElem?_eq_some_iff.mp found
  have moved := List.set_eq_take_append_cons_drop (l := processes) (i := i) (a := after)
  have whole : processes = processes.take i ++ processes[i] :: processes.drop (i + 1) := by
    rw [List.getElem_cons_drop, List.take_append_drop]
  rw [moved, if_pos inside]
  conv_rhs => rw [whole]
  simp only [List.map_append, List.map_cons, List.sum_append, List.sum_cons]
  omega

/-- **Everything can be done** where some step lowers the rank as long as anything is left. -/
theorem finishes {State Label : Type*} {step : State → Label → Option State}
    {holds done : State → Prop} {allowed : Label → Prop} (rank : State → Nat)
    (lowers : ∀ state, holds state → ¬ done state → ∃ label next, allowed label ∧
      step state label = some next ∧ holds next ∧ rank next < rank state)
    {state : State} (start : holds state) :
    ∃ labels final, (∀ label ∈ labels, allowed label) ∧
      runSteps step state labels = some final ∧ holds final ∧ done final := by
  induction bound : rank state using Nat.strong_induction_on generalizing state with
  | _ n ih =>
      by_cases finished : done state
      · refine ⟨[], state, ?_, rfl, start, finished⟩
        intro label member
        cases member
      · obtain ⟨label, next, fits, taken, kept, lower⟩ := lowers state start finished
        obtain ⟨labels, final, allowed, run, holding, done⟩ :=
          ih (rank next) (bound ▸ lower) kept rfl
        refine ⟨label :: labels, final, ?_, ?_, holding, done⟩
        · exact List.forall_mem_cons.mpr ⟨fits, allowed⟩
        · rw [runSteps, taken, Option.bind_some, run]

end Omnivox.Foundations
