import Mathlib
import Omnivox.Execution.IsolatedCalls
import Omnivox.Foundations.Runs

/-!
# The limits of isolated calls

Every step of a call is a step of its lease (`callerStep_lease`, `taskStep_lease`), so the
budget counts the calls in every state of every run. At most two native calls run in the
process, and at most one for each engine. When all calls are over, everything was given back
(`isolation_limits`).
-/

set_option autoImplicit false

namespace Omnivox.Execution

open Foundations Synthesis

variable {P V : Type}

/-! ## Calls and leases -/

namespace IsolatedCall

variable {call call' : IsolatedCall P V} {memory memory' : IsolationMemory}

theorem whenCancelled_lease {point : CheckPoint P V} {read : CancellationRead}
    (here : call.caller = .checking point read) :
    LeaseStep memory.budget call.lease (whenCancelled memory call point).1.budget
      (whenCancelled memory call point).2.lease := by
  rw [lease, here]
  cases point with
  | pressure => exact .gaveUp _ _ _ _
  | admission => exact .forwent _ _ _ _
  | poll => exact .still _ _
  | event event => exact .still _ _
  | arrival answer => exact .still _ _

theorem whenCurrent_lease {point : CheckPoint P V} {read : CancellationRead}
    (here : call.caller = .checking point read) :
    LeaseStep memory.budget call.lease (whenCurrent memory call point).1.budget
      (whenCurrent memory call point).2.lease := by
  rw [lease, here]
  cases point with
  | pressure => exact .still _ _
  | admission => exact .still _ _
  | poll => exact .still _ _
  | event event => exact .still _ _
  | arrival answer => exact .still _ _

theorem check_lease (memory : IsolationMemory) {point : CheckPoint P V} {read : CancellationRead}
    (here : call.caller = .checking point read) :
    LeaseStep memory.budget call.lease (check memory call point read).1.budget
      (check memory call point read).2.lease := by
  have onward : ∀ next, LeaseStep memory.budget call.lease memory.budget
      (call.goTo (.checking point next)).lease := by
    intro next
    rw [lease, here]
    cases point <;> exact .still _ _
  cases read with
  | generation =>
      rw [check]
      split
      · exact whenCancelled_lease here
      · exact onward _
  | stopEpoch =>
      rw [check]
      split
      · exact whenCancelled_lease here
      · exact onward _
  | token =>
      rw [check]
      split
      · exact whenCancelled_lease here
      · exact whenCurrent_lease here

theorem handle_lease {event : IsolatedStreamEvent P} (here : call.caller = .handling event)
    (sink : Except TtsError Unit) : (call.handle sink event).lease = call.lease := by
  have output : ∀ event, (call.handleOutput event sink).lease = call.lease := by
    intro event
    unfold handleOutput
    rw [lease, lease, here]
    split
    · split <;> rfl
    · rfl
  have started : ∀ start, (call.handleStart start sink).lease = call.lease := by
    intro start
    unfold handleStart
    rw [lease, lease, here]
    split
    · rfl
    · split <;> rfl
  have applied : ∀ receipt, (call.handleApplication receipt).lease = call.lease := by
    intro receipt
    unfold handleApplication
    rw [lease, lease, here]
    split
    · rfl
    · split <;> rfl
  cases event with
  | application receipt => exact applied receipt
  | start start => exact started start
  | audio audio => exact output _
  | markers markers => exact output _

theorem receive_lease (here : call.caller = .waiting) (choice : CallerChoice) :
    (call.receive choice).lease = call.lease := by
  unfold receive
  rw [lease, lease, here]
  split
  · rfl
  · split
    · rfl
    · rfl
    · split
      · split <;> rfl
      · rfl

/-- **Every step of a caller is a step of its lease.** -/
theorem callerStep_lease {choice : CallerChoice}
    (taken : call.callerStep memory choice = some (memory', call')) :
    LeaseStep memory.budget call.lease memory'.budget call'.lease := by
  unfold callerStep at taken
  cases here : call.caller with
  | loading =>
      simp only [here] at taken
      cases taken
      rw [lease, here]
      exact .still _ _
  | locking =>
      simp only [here] at taken
      obtain ⟨budget, free, moved⟩ := Option.map_eq_some_iff.mp taken
      cases moved
      rw [lease, here]
      exact .locked free
  | asleep =>
      simp only [here] at taken
      obtain ⟨budget, free, moved⟩ := Option.map_eq_some_iff.mp taken
      cases moved
      rw [lease, here]
      exact .locked free
  | attempting =>
      simp only [here] at taken
      split at taken
      · cases taken
        rw [lease, here]
        exact .still _ _
      · rename_i vacant
        cases taken
        rw [lease, here]
        exact .claimed (Bool.eq_false_of_not_eq_true vacant)
  | claimed =>
      simp only [here] at taken
      cases taken
      rw [lease, here]
      exact .still _ _
  | counting current =>
      simp only [here] at taken
      split at taken
      · cases taken
        rw [lease, here]
        exact .still _ _
      · rename_i room
        split at taken
        · cases taken
          rw [lease, here]
          exact .still _ _
        · split at taken
          · rename_i same
            cases taken
            rw [lease, here, ← same]
            exact .granted (by omega)
          · cases taken
            rw [lease, here]
            exact .still _ _
  | declining =>
      simp only [here] at taken
      cases taken
      rw [lease, here]
      exact .declined _ _ _ _
  | pressed =>
      simp only [here] at taken
      split at taken
      · cases taken
        rw [lease, here]
        exact .slept _ _ _ _
      · cases taken
        rw [lease, here]
        exact .gaveUp _ _ _ _
  | granted =>
      simp only [here] at taken
      cases taken
      rw [lease, here]
      exact .admitted _ _ _ _
  | checking point read =>
      simp only [here] at taken
      have moved := check_lease memory here
      rw [Option.some.inj taken] at moved
      exact moved
  | admitted =>
      simp only [here] at taken
      cases taken
      rw [lease, here]
      exact .still _ _
  | spawning =>
      simp only [here] at taken
      split at taken
      · cases taken
        rw [lease, here]
        exact .still _ _
      · cases taken
        rw [lease, here]
        cases call.streaming with
        | true => exact .spawned _ _ _ _
        | false => exact .spawned _ _ _ _
  | restoring error =>
      simp only [here] at taken
      cases taken
      rw [lease, here]
      cases call.prepareRecovery with
      | true => exact .forwent _ _ _ _
      | false => exact .forwent _ _ _ _
  | waiting =>
      simp only [here] at taken
      cases taken
      rw [receive_lease here]
      exact .still _ _
  | handling event =>
      simp only [here] at taken
      split at taken
      · cases taken
        rw [handle_lease here]
        exact .still _ _
      · cases taken
        rw [handle_lease here]
        exact .still _ _
  | deciding =>
      simp only [here] at taken
      split at taken
      · cases taken
        rw [lease, here]
        exact .still _ _
      · split at taken
        · cases taken
          rw [lease, here]
          exact .still _ _
        · cases taken
          rw [lease, here]
          exact .still _ _
  | stopping outcome =>
      simp only [here] at taken
      cases taken
      rw [lease, here]
      exact .still _ _
  | marking outcome =>
      simp only [here] at taken
      split at taken
      · cases taken
        rw [lease, here]
        exact .still _ _
      · rename_i unmarked
        cases taken
        rw [lease, here, Bool.eq_false_of_not_eq_true unmarked]
        exact .swapped _ _ _
  | quarantining outcome =>
      simp only [here] at taken
      cases taken
      rw [lease, here]
      exact .marked _ _ _ _
  | leaving outcome =>
      simp only [here] at taken
      split at taken
      · rename_i kept
        cases taken
        rw [lease, here]
        exact .left kept
      · rename_i last
        cases taken
        rw [lease, here]
        exact .ending (Bool.eq_false_of_not_eq_true last)
  | releasing stage outcome =>
      simp only [here] at taken
      obtain ⟨⟨budget, next⟩, step, moved⟩ := Option.map_eq_some_iff.mp taken
      cases moved
      rw [lease, here]
      cases next with
      | none => exact .released step
      | some stage => exact .released step
  | returned outcome =>
      simp only [here] at taken
      cases taken

/-- **Every step of a native thread is a step of its lease.** -/
theorem taskStep_lease {answer : Option (Except TtsError V)}
    (taken : call.taskStep memory answer = some (memory', call')) :
    LeaseStep memory.budget call.lease memory'.budget call'.lease := by
  unfold taskStep at taken
  cases here : call.task with
  | absent =>
      simp only [here] at taken
      cases taken
  | running =>
      simp only [here] at taken
      cases taken
      rw [lease, here]
      exact .still _ _
  | finished answer =>
      simp only [here] at taken
      split at taken
      · rename_i kept
        cases taken
        rw [lease, here]
        exact .taskLeft kept
      · rename_i last
        cases taken
        rw [lease, here]
        exact .taskEnding (Bool.eq_false_of_not_eq_true last)
  | releasing stage answer =>
      simp only [here] at taken
      obtain ⟨⟨budget, next⟩, step, moved⟩ := Option.map_eq_some_iff.mp taken
      cases moved
      rw [lease, here]
      cases next with
      | none => exact .taskReleased step
      | some stage => exact .taskReleased step
  | dropped answer =>
      cases answer with
      | none =>
          simp only [here] at taken
          cases taken
          rw [lease, here]
          exact .still _ _
      | some answer =>
          simp only [here] at taken
          split at taken
          · cases taken
          · cases taken
            rw [lease, here]
            exact .still _ _
  | ended answer =>
      simp only [here] at taken
      cases taken

/-- An event that is sent changes nothing else. -/
theorem emit_same {event : IsolatedStreamEvent P} (taken : call.emit event = some call') :
    ∃ events emitted, call' = { call with events := events, emitted := emitted } := by
  unfold IsolatedCall.emit at taken
  split at taken
  · split at taken
    · split at taken
      · split at taken
        · cases taken
        · cases taken
          exact ⟨_, _, rfl⟩
      · cases taken
        exact ⟨_, _, rfl⟩
    · cases taken
  · cases taken

/-- A call whose other data changes keeps its lease. -/
theorem emit_lease {event : IsolatedStreamEvent P} (taken : call.emit event = some call') :
    call'.lease = call.lease := by
  obtain ⟨events, emitted, rfl⟩ := emit_same taken
  rfl

/-- The native call of this call is running. -/
def native (call : IsolatedCall P V) : Bool :=
  match call.task with
  | .running => true
  | _ => false

/-- The native call of this call is running, on one engine. -/
def nativeOf (engineId : String) (call : IsolatedCall P V) : Bool :=
  call.engineId == engineId && call.native

/-- The call has returned, and its native thread is past its lease. -/
def settled (call : IsolatedCall P V) : Bool :=
  match call.caller.role, call.task.role with
  | .gone, .absent | .gone, .gone => true
  | _, _ => false

theorem lives_of_native (running : call.native = true) : call.lease.lives = true := by
  unfold native at running
  split at running
  · rename_i here
    rw [lease, here]
    exact Bool.or_true _
  · cases running

end IsolatedCall

/-! ## Runs -/

namespace IsolationState

variable {state next : IsolationState P V}

/-- The calls as the budget sees them. -/
def leases (state : IsolationState P V) : List Lease := state.calls.map IsolatedCall.lease

/-- The budget counts the calls. -/
def Kept (state : IsolationState P V) : Prop := BudgetKept state.memory.budget state.leases

theorem kept_replace (kept : state.Kept) {index : Nat} {call : IsolatedCall P V}
    {moved : IsolationMemory × IsolatedCall P V} (found : state.calls[index]? = some call)
    (step : LeaseStep state.memory.budget call.lease moved.1.budget moved.2.lease) :
    (state.replace index moved).Kept := by
  have there : state.leases[index]? = some call.lease := by
    rw [leases, List.getElem?_map, found]
    rfl
  have after := BudgetKept.step kept there step
  rw [Kept, leases, replace, List.map_set]
  exact after

/-- **Every step keeps the counts.** -/
theorem step_kept {event : IsolationEvent P V} (kept : state.Kept)
    (taken : state.step event = some next) : next.Kept := by
  cases event with
  | begins engineId streaming parameters token =>
      cases taken
      have after := BudgetKept.concat kept engineId
      rw [Kept, leases, List.map_append]
      exact after
  | caller index choice =>
      obtain ⟨call, found, more⟩ := Option.bind_eq_some_iff.mp taken
      obtain ⟨⟨memory, call'⟩, step, rfl⟩ := Option.map_eq_some_iff.mp more
      exact kept_replace kept found (IsolatedCall.callerStep_lease step)
  | task index answer =>
      obtain ⟨call, found, more⟩ := Option.bind_eq_some_iff.mp taken
      obtain ⟨⟨memory, call'⟩, step, rfl⟩ := Option.map_eq_some_iff.mp more
      exact kept_replace kept found (IsolatedCall.taskStep_lease step)
  | emit index event =>
      obtain ⟨call, found, more⟩ := Option.bind_eq_some_iff.mp taken
      obtain ⟨call', step, rfl⟩ := Option.map_eq_some_iff.mp more
      refine kept_replace kept found ?_
      rw [IsolatedCall.emit_lease step]
      exact .still _ _
  | cancelToken index =>
      obtain ⟨call, found, rfl⟩ := Option.map_eq_some_iff.mp taken
      exact kept_replace kept found (.still _ _)
  | setGeneration generation =>
      cases taken
      exact kept
  | stop engineId =>
      cases taken
      exact kept
  | prepareRecoveryProbe engineId =>
      cases taken
      exact kept

theorem run_kept {events : List (IsolationEvent P V)}
    (run : runSteps step .new events = some state) : state.Kept := by
  have start : (IsolationState.new : IsolationState P V).Kept := BudgetKept.new
  exact run_preserves (fun _ _ _ kept taken => step_kept kept taken) start run

/-- The leases of a narrower kind of calls. -/
theorem countP_le {kind : Lease → Bool} {narrow : IsolatedCall P V → Bool} {n : Nat}
    (counts : Counts kind state.leases n)
    (within : ∀ call, narrow call = true → kind call.lease = true) :
    state.calls.countP narrow ≤ n := by
  have counted : state.calls.countP (kind ∘ IsolatedCall.lease) = n := by
    rw [← List.countP_map]
    exact counts
  rw [← counted]
  exact List.countP_mono_left fun call _ => within call

/-- What nobody has is at rest. -/
theorem rests {kind : Lease → Bool} {b : Bool} (counts : Counts kind state.leases b.toNat)
    (none : ∀ call ∈ state.calls, kind call.lease = false) : b = false := by
  have zero : b.toNat = 0 := by
    refine counts.eq_zero_iff.mpr fun lease member => ?_
    obtain ⟨call, there, rfl⟩ := List.mem_map.mp member
    exact none call there
  cases b with
  | false => rfl
  | true => cases zero

end IsolationState

namespace IsolatedCall

/-- A settled call has nothing. -/
theorem settled_lease {call : IsolatedCall P V} (settled : call.settled = true) :
    call.lease.locks = false ∧ call.lease.claims = false ∧ call.lease.counted = false ∧
      call.lease.marked = false := by
  unfold IsolatedCall.settled at settled
  rw [lease]
  split at settled
  · rename_i caller task
    rw [caller, task]
    exact ⟨rfl, rfl, rfl, Bool.and_false _⟩
  · rename_i caller task
    rw [caller, task]
    exact ⟨rfl, rfl, rfl, Bool.and_false _⟩
  · cases settled

theorem counted_of_lives {call : IsolatedCall P V} (lives : call.lease.lives = true) :
    call.lease.counted = true := by
  rw [Lease.counted, lives]
  rfl

theorem claims_of_lives {call : IsolatedCall P V} (lives : call.lease.lives = true) :
    call.lease.claims = true := by
  rw [Lease.claims, lives, Bool.true_or]
  split <;> rfl

end IsolatedCall

/-- When all calls are settled, everything was given back. -/
theorem IsolationState.Kept.settled {state : IsolationState P V} (kept : state.Kept)
    (settled : ∀ call ∈ state.calls, call.settled = true) : state.memory.budget = .new := by
  have locked := IsolationState.rests kept.locks fun call member =>
    (IsolatedCall.settled_lease (settled call member)).1
  have slots : state.memory.budget.engineActive = fun _ => false := by
    funext engineId
    refine IsolationState.rests (kept.slots engineId) fun call member => ?_
    rw [Lease.claimsOf, (IsolatedCall.settled_lease (settled call member)).2.1, Bool.and_false]
  have counted : state.memory.budget.inFlight = 0 := by
    refine kept.counted.eq_zero_iff.mpr fun lease member => ?_
    obtain ⟨call, there, rfl⟩ := List.mem_map.mp member
    exact (IsolatedCall.settled_lease (settled call there)).2.2.1
  have marked : state.memory.budget.quarantined = 0 := by
    refine kept.marked.eq_zero_iff.mpr fun lease member => ?_
    obtain ⟨call, there, rfl⟩ := List.mem_map.mp member
    exact (IsolatedCall.settled_lease (settled call there)).2.2.2
  cases budget : state.memory.budget
  rw [budget] at locked slots counted marked
  rw [IsolationBudget.new]
  congr

/-- **The limits of isolated calls**, in every state of every run. The native calls that run
are not more than the counter says, which is at most two, and an engine has one at most, while
its slot is taken. The counters are those of the counted and of the marked leases, and when all
calls are settled the budget is as it was in the beginning. -/
theorem isolation_limits {events : List (IsolationEvent P V)} {state : IsolationState P V}
    (run : runSteps IsolationState.step .new events = some state) :
    state.calls.countP IsolatedCall.native ≤ state.memory.budget.inFlight ∧
    state.memory.budget.inFlight ≤ MAX_ISOLATED_CALLS ∧
    (∀ engineId, state.calls.countP (IsolatedCall.nativeOf engineId) ≤
      (state.memory.budget.engineActive engineId).toNat) ∧
    state.memory.budget.inFlight = state.leases.countP Lease.counted ∧
    state.memory.budget.quarantined = state.leases.countP Lease.marked ∧
    state.memory.budget.quarantined ≤ state.memory.budget.inFlight ∧
    ((∀ call ∈ state.calls, call.settled = true) → state.memory.budget = .new) := by
  have kept := IsolationState.run_kept run
  refine ⟨?_, kept.limit, ?_, kept.counted.symm, kept.marked.symm, kept.quarantined_le, ?_⟩
  · exact IsolationState.countP_le kept.counted fun call running =>
      IsolatedCall.counted_of_lives (IsolatedCall.lives_of_native running)
  · intro engineId
    refine IsolationState.countP_le (kept.slots engineId) fun call running => ?_
    obtain ⟨own, running⟩ := Bool.and_eq_true_iff.mp running
    have claims := IsolatedCall.claims_of_lives (IsolatedCall.lives_of_native running)
    rw [Lease.claimsOf, claims, Bool.and_true]
    exact own
  · exact kept.settled

/-- A caller takes so many steps. -/
def IsolationEvent.callerSteps (index steps : Nat) : List (IsolationEvent Nat Nat) :=
  List.replicate steps (.caller index .usual)

def twoEngines : List (IsolationEvent Nat Nat) :=
  .begins "espeak" true none none :: .begins "festival" false none none ::
    (IsolationEvent.callerSteps 0 11 ++ IsolationEvent.callerSteps 1 11)

theorem isolation_limits_twoEngines :
    ∃ state, runSteps IsolationState.step .new twoEngines = some state ∧
      state.calls.countP IsolatedCall.native = 2 ∧
      state.memory.budget.inFlight ≤ MAX_ISOLATED_CALLS := by
  have both : (runSteps IsolationState.step .new twoEngines).map
      (fun state => state.calls.countP IsolatedCall.native) = some 2 := by rfl
  obtain ⟨state, run, two⟩ := Option.map_eq_some_iff.mp both
  exact ⟨state, run, two, (isolation_limits run).2.1⟩

end Omnivox.Execution
