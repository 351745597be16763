import Mathlib
import Omnivox.Execution.CallOutcomes

/-!
# Isolated calls come to their end

Nothing blocks for ever. In every state that a run reaches, some ordinary step brings a call
nearer to its end: the thread that has the lock can always go on, and where nobody has it,
every thread can that does not wait for a message. So once the native calls answer, every call
can return and give its lease back (`calls_finish`).
-/

set_option autoImplicit false

namespace Omnivox.Execution

open Foundations Synthesis

variable {P V : Type}

/-! ## Ranks -/

/-- The reads that a check still makes. -/
def CancellationRead.left : CancellationRead → Nat
  | .generation => 3
  | .stopEpoch => 2
  | .token => 1

def ReleaseStage.rank : ReleaseStage → Nat
  | .locking => 6
  | .reading => 5
  | .unmarking => 4
  | .uncounting => 3
  | .vacating => 2
  | .notifying => 1

theorem ReleaseStage.rank_pos (stage : ReleaseStage) : 0 < stage.rank := by
  cases stage <;> decide

/-- How far a caller is from its return. -/
def CallerStage.rank : CallerStage P V → Nat
  | .loading => 26
  | .locking | .asleep => 25
  | .attempting => 24
  | .claimed => 23
  | .counting _ => 22
  | .granted => 21
  | .checking .admission read => 17 + read.left
  | .checking (.event _) read => 16 + read.left
  | .checking .poll read => 12 + read.left
  | .checking (.arrival _) read => 7 + read.left
  | .checking .pressure read => 1 + read.left
  | .admitted => 17
  | .spawning | .handling _ => 16
  | .waiting => 12
  | .deciding => 11
  | .stopping _ => 10
  | .marking _ => 9
  | .quarantining _ | .restoring _ => 8
  | .leaving _ => 7
  | .releasing stage _ => stage.rank
  | .declining => 5
  | .pressed => 1
  | .returned _ => 0

/-- How far a native thread is from its end. -/
def TaskStage.rank : TaskStage V → Nat
  | .absent => 10
  | .running => 9
  | .finished _ => 8
  | .releasing stage _ => 1 + stage.rank
  | .dropped _ => 1
  | .ended _ => 0

/-- The caller waits for the lock. -/
def CallerStage.blocks : CallerStage P V → Bool
  | .locking | .asleep | .releasing .locking _ => true
  | _ => false

/-- The native thread waits for the lock. -/
def TaskStage.blocks : TaskStage V → Bool
  | .releasing .locking _ => true
  | _ => false

def TaskStage.hasEnded : TaskStage V → Bool
  | .ended _ => true
  | _ => false

/-- The caller waits for its native call, or looks at what has come from it. -/
def CallerStage.listens : CallerStage P V → Bool
  | .checking .poll _ | .checking (.event _) _ | .checking (.arrival _) _ => true
  | .waiting | .handling _ | .deciding => true
  | _ => false

attribute [local simp] CallerStage.rank TaskStage.rank ReleaseStage.rank CancellationRead.left
  CallerStage.blocks TaskStage.blocks CallerStage.listens

namespace IsolatedCall

variable {call call' : IsolatedCall P V} {memory memory' : IsolationMemory}

/-- An event costs its caller more than the return to the wait. -/
def rank (call : IsolatedCall P V) : Nat :=
  call.caller.rank + 8 * call.events.length + call.task.rank

/-- Both threads of the call have ended, or the native one never began. -/
def concluded (call : IsolatedCall P V) : Bool :=
  match call.caller, call.task with
  | .returned _, .absent | .returned _, .ended _ => true
  | _, _ => false

theorem settled_of_concluded (ended : call.concluded = true) : call.settled = true := by
  unfold concluded at ended
  split at ended
  · rename_i caller task
    rw [settled, caller, task]
    rfl
  · rename_i caller task
    rw [settled, caller, task]
    rfl
  · cases ended

theorem goTo_lower {stage : CallerStage P V} (lower : stage.rank < call.caller.rank) :
    (call.goTo stage).rank < call.rank :=
  Nat.add_lt_add_right (Nat.add_lt_add_right lower _) _

theorem taskTo_lower {stage : TaskStage V} (lower : stage.rank < call.task.rank) :
    (call.taskTo stage).rank < call.rank :=
  Nat.add_lt_add_left lower _

/-- Another step of the end of a lease. -/
theorem release_lower {budget : IsolationBudget} {stage : ReleaseStage} (engineId : String)
    (marked : Bool) (free : stage = .locking → budget.availability = false) :
    ∃ moved, budget.release engineId marked stage = some moved ∧
      ∀ next, moved.2 = some next → next.rank < stage.rank := by
  cases stage with
  | locking =>
      have locked := IsolationBudget.lock_eq_some.mpr ⟨free rfl, rfl⟩
      refine ⟨_, by rw [IsolationBudget.release, locked]; rfl, fun next same => ?_⟩
      cases same
      decide
  | reading =>
      refine ⟨_, rfl, fun next same => ?_⟩
      cases marked <;> cases same <;> decide
  | unmarking => exact ⟨_, rfl, fun next same => by cases same; decide⟩
  | uncounting => exact ⟨_, rfl, fun next same => by cases same; decide⟩
  | vacating => exact ⟨_, rfl, fun next same => by cases same; decide⟩
  | notifying => exact ⟨_, rfl, fun next same => by cases same⟩

/-! ## Every thread goes on -/

theorem check_lower {point : CheckPoint P V} {read : CancellationRead}
    (here : call.caller = .checking point read) :
    (check memory call point read).2.rank < call.rank := by
  have cancelled : (whenCancelled memory call point).2.rank < call.rank := by
    cases point <;> refine goTo_lower ?_ <;> rw [here] <;> cases read <;> simp
  have current : (whenCurrent memory call point).2.rank < call.rank := by
    cases point <;> refine goTo_lower ?_ <;> rw [here] <;> cases read <;> simp
  cases read with
  | generation =>
      rw [check]
      split
      · exact cancelled
      · refine goTo_lower ?_
        rw [here]
        cases point <;> simp
  | stopEpoch =>
      rw [check]
      split
      · exact cancelled
      · refine goTo_lower ?_
        rw [here]
        cases point <;> simp
  | token =>
      rw [check]
      split
      · exact cancelled
      · exact current

theorem handle_lower {event : IsolatedStreamEvent P} (here : call.caller = .handling event) :
    (call.handle (.ok ()) event).rank < call.rank := by
  have lower : ∀ {call' : IsolatedCall P V}, call'.events = call.events →
      call'.task = call.task → call'.caller.rank < 16 → call'.rank < call.rank := by
    intro call' events task near
    rw [rank, rank, events, task, here]
    exact Nat.add_lt_add_right (Nat.add_lt_add_right near _) _
  have output : ∀ event, (call.handleOutput event (.ok ())).rank < call.rank := by
    intro event
    unfold handleOutput
    split <;> exact lower rfl rfl (by simp [goTo])
  have started : ∀ start, (call.handleStart start (.ok ())).rank < call.rank := by
    intro start
    unfold handleStart
    split <;> exact lower rfl rfl (by simp [goTo])
  have applied : ∀ receipt, (call.handleApplication receipt).rank < call.rank := by
    intro receipt
    unfold handleApplication
    split
    · exact lower rfl rfl (by simp [goTo])
    · split <;> exact lower rfl rfl (by simp [goTo])
  cases event with
  | application receipt => exact applied receipt
  | start start => exact started start
  | audio audio => exact output _
  | markers markers => exact output _

theorem receive_lower (here : call.caller = .waiting)
    (heard : call.events ≠ [] ∨ call.task.hasEnded = true) :
    (call.receive .usual).rank < call.rank := by
  unfold receive
  split
  · rename_i event rest queued
    rw [rank, rank, here, queued]
    simp only [goTo, CallerStage.rank, CancellationRead.left, List.length_cons]
    omega
  · rename_i silent
    split
    · refine goTo_lower ?_
      rw [here]
      simp
    · refine goTo_lower ?_
      rw [here]
      simp
    · rename_i going never
      rcases heard with some | ended
      · exact absurd silent some
      · cases task : call.task with
        | ended answer =>
            cases answer with
            | none => exact absurd task never
            | some answer => exact absurd task (going answer)
        | absent => rw [task] at ended; cases ended
        | running => rw [task] at ended; cases ended
        | finished answer => rw [task] at ended; cases ended
        | releasing stage answer => rw [task] at ended; cases ended
        | dropped answer => rw [task] at ended; cases ended

/-- **A caller goes on** unless it waits for the lock or for a message. -/
theorem caller_advances (going : ∀ outcome, call.caller ≠ .returned outcome)
    (free : call.caller.blocks = true → memory.budget.availability = false)
    (heard : call.caller = .waiting → call.events ≠ [] ∨ call.task.hasEnded = true)
    (absent : call.caller = .spawning → call.task = .absent)
    (counted : ∀ n, call.caller = .counting n → n = memory.budget.inFlight) :
    ∃ moved, call.callerStep memory .usual = some moved ∧ moved.2.rank < call.rank := by
  unfold callerStep
  cases here : call.caller <;> simp only
  case loading =>
      refine ⟨_, rfl, ?_⟩
      simp [rank, goTo, here]
  case locking | asleep =>
      have locked := IsolationBudget.lock_eq_some.mpr ⟨free (by rw [here]; rfl), rfl⟩
      rw [locked]
      exact ⟨_, rfl, goTo_lower (by simp [here])⟩
  case claimed | declining | granted | stopping | quarantining | restoring | pressed =>
      exact ⟨_, rfl, goTo_lower (by simp [here])⟩
  case attempting =>
      split <;> exact ⟨_, rfl, goTo_lower (by simp [here])⟩
  case counting current =>
      split
      · exact ⟨_, rfl, goTo_lower (by simp [here])⟩
      · rw [if_pos (counted current here).symm]
        exact ⟨_, rfl, goTo_lower (by simp [here])⟩
  case checking point read => exact ⟨_, rfl, check_lower here⟩
  case admitted =>
      refine ⟨_, rfl, ?_⟩
      simp [rank, goTo, here]
  case spawning =>
      refine ⟨_, rfl, ?_⟩
      cases streams : call.streaming <;> simp [rank, goTo, taskTo, here, absent here]
  case waiting => exact ⟨_, rfl, receive_lower here (heard here)⟩
  case handling event => exact ⟨_, rfl, handle_lower here⟩
  case deciding =>
      split <;> exact ⟨_, rfl, goTo_lower (by simp [here])⟩
  case marking outcome =>
      split
      · exact ⟨_, rfl, goTo_lower (by simp [here])⟩
      · refine ⟨_, rfl, ?_⟩
        simp [rank, goTo, here]
  case leaving outcome =>
      split <;> exact ⟨_, rfl, goTo_lower (by simp [here])⟩
  case releasing stage outcome =>
      have idle : stage = .locking → memory.budget.availability = false := by
        rintro rfl
        exact free (by rw [here]; rfl)
      obtain ⟨⟨budget, next⟩, step, lower⟩ :=
        release_lower call.engineId call.quarantined idle
      rw [step]
      refine ⟨_, rfl, goTo_lower ?_⟩
      rw [here]
      cases next with
      | none => exact stage.rank_pos
      | some next => exact lower next rfl
  case returned outcome => exact absurd here (going outcome)

/-- **A native thread goes on** unless it waits for the lock or for room. -/
theorem task_advances (answer : Option (Except TtsError V)) (moving : call.task.moving = true)
    (free : call.task.blocks = true → memory.budget.availability = false)
    (room : call.receives = false ∨ call.events = []) :
    ∃ moved, call.taskStep memory answer = some moved ∧ moved.2.rank < call.rank := by
  unfold taskStep
  cases here : call.task
  case absent | ended =>
      rw [here] at moving
      cases moving
  case running => exact ⟨_, rfl, taskTo_lower (by simp [here])⟩
  case finished result =>
      dsimp only
      split <;> exact ⟨_, rfl, taskTo_lower (by simp [here])⟩
  case releasing stage result =>
      have idle : stage = .locking → memory.budget.availability = false := by
        rintro rfl
        exact free (by rw [here]; rfl)
      obtain ⟨⟨budget, next⟩, step, lower⟩ :=
        release_lower call.engineId call.quarantined idle
      dsimp only
      rw [step]
      refine ⟨_, rfl, taskTo_lower ?_⟩
      rw [here]
      cases next with
      | none => exact Nat.lt_add_of_pos_right stage.rank_pos
      | some next => exact Nat.add_lt_add_left (lower next rfl) 1
  case dropped result =>
      cases result with
      | none => exact ⟨_, rfl, taskTo_lower (by simp [here])⟩
      | some result =>
          have fits : ¬ ((call.receives && decide (call.events.length ≥
              ISOLATED_STREAM_EVENT_CAPACITY)) = true) := by
            rcases room with deaf | empty
            · simp [deaf]
            · simp [empty, ISOLATED_STREAM_EVENT_CAPACITY]
          dsimp only
          rw [if_neg fits]
          exact ⟨_, rfl, taskTo_lower (by simp [here])⟩

/-! ## What is there to go on -/

/-- A caller that listens has started its native thread. -/
def Started (call : IsolatedCall P V) : Prop :=
  call.caller.listens = true → call.task ≠ .absent

theorem check_started (memory : IsolationMemory) {point : CheckPoint P V} {read : CancellationRead}
    (here : call.caller = .checking point read) (started : call.Started) :
    (check memory call point read).2.Started := by
  rw [Started, here] at started
  have cancelled : (whenCancelled memory call point).2.Started := by
    cases point with
    | pressure => exact fun listens => by cases listens
    | admission => exact fun listens => by cases listens
    | poll => exact fun _ => started rfl
    | event event => exact fun _ => started rfl
    | arrival answer => exact fun listens => by cases listens
  have current : (whenCurrent memory call point).2.Started := by
    cases point with
    | pressure => exact fun listens => by cases listens
    | admission => exact fun listens => by cases listens
    | poll => exact fun _ => started rfl
    | event event => exact fun _ => started rfl
    | arrival answer => exact fun listens => by cases listens
  have onward : ∀ next, (call.goTo (.checking point next)).Started := by
    intro next listens
    cases point with
    | pressure => cases listens
    | admission => cases listens
    | poll => exact started rfl
    | event event => exact started rfl
    | arrival answer => exact started rfl
  cases read with
  | generation =>
      rw [check]
      split
      · exact cancelled
      · exact onward _
  | stopEpoch =>
      rw [check]
      split
      · exact cancelled
      · exact onward _
  | token =>
      rw [check]
      split
      · exact cancelled
      · exact current

theorem receive_task (choice : CallerChoice) : (call.receive choice).task = call.task := by
  unfold receive
  split
  · rfl
  · split
    · rfl
    · rfl
    · split
      · split <;> rfl
      · rfl

theorem handle_task (sink : Except TtsError Unit) (event : IsolatedStreamEvent P) :
    (call.handle sink event).task = call.task := by
  cases event with
  | application receipt =>
      simp only [handle, handleApplication]
      split
      · rfl
      · split <;> rfl
  | start start =>
      simp only [handle, handleStart]
      split
      · rfl
      · split <;> rfl
  | audio audio =>
      simp only [handle, handleOutput]
      split
      · split <;> rfl
      · rfl
  | markers markers =>
      simp only [handle, handleOutput]
      split
      · split <;> rfl
      · rfl

theorem callerStep_started {choice : CallerChoice} (started : call.Started)
    (taken : call.callerStep memory choice = some (memory', call')) : call'.Started := by
  unfold callerStep at taken
  have deaf : ∀ {call : IsolatedCall P V} {stage : CallerStage P V}, stage.listens = false →
      (call.goTo stage).Started := fun silent loud => by cases silent.symm.trans loud
  cases here : call.caller <;> simp only [here] at taken
  case loading | claimed | declining | granted | admitted | stopping | quarantining |
      restoring =>
      cases taken
      exact deaf rfl
  case locking | asleep =>
      obtain ⟨budget, free, moved⟩ := Option.map_eq_some_iff.mp taken
      cases moved
      exact deaf rfl
  case attempting | pressed | leaving | marking =>
      split at taken <;> cases taken <;> exact deaf rfl
  case counting current =>
      split at taken
      · cases taken
        exact deaf rfl
      · split at taken
        · cases taken
          exact deaf rfl
        · split at taken <;> cases taken <;> exact deaf rfl
  case checking point read =>
      have moved := check_started memory here started
      rw [Option.some.inj taken] at moved
      exact moved
  case spawning =>
      split at taken
      · cases taken
        exact deaf rfl
      · cases taken
        intro _ absent
        cases absent
  case waiting =>
      cases taken
      intro _
      rw [receive_task]
      exact started (by rw [here]; rfl)
  case handling event =>
      have there : call.task ≠ .absent := started (by rw [here]; rfl)
      split at taken <;> cases taken <;> intro _ <;> rw [handle_task] <;> exact there
  case deciding =>
      have there : call.task ≠ .absent := started (by rw [here]; rfl)
      split at taken
      · cases taken
        exact deaf rfl
      · split at taken
        · cases taken
          exact fun _ => there
        · cases taken
          exact deaf rfl
  case releasing stage outcome =>
      obtain ⟨⟨budget, next⟩, step, moved⟩ := Option.map_eq_some_iff.mp taken
      cases moved
      cases next <;> exact deaf rfl
  case returned outcome => cases taken

/-- Once a native thread is there, it stays. -/
theorem taskStep_there {answer : Option (Except TtsError V)}
    (taken : call.taskStep memory answer = some (memory', call')) :
    call.task ≠ .absent ∧ call'.task ≠ .absent := by
  unfold taskStep at taken
  cases here : call.task <;> simp only [here] at taken
  case absent | ended => cases taken
  case running =>
      cases taken
      exact ⟨by simp, by simp [taskTo]⟩
  case finished result => split at taken <;> cases taken <;> exact ⟨by simp, by simp [taskTo]⟩
  case releasing stage result =>
      obtain ⟨⟨budget, next⟩, step, moved⟩ := Option.map_eq_some_iff.mp taken
      cases moved
      cases next <;> exact ⟨by simp, by simp [taskTo, TaskStage.afterRelease]⟩
  case dropped result =>
      cases result with
      | none =>
          cases taken
          exact ⟨by simp, by simp [taskTo]⟩
      | some result =>
          dsimp only at taken
          split at taken
          · cases taken
          · cases taken
            exact ⟨by simp, by simp [taskTo]⟩

theorem moves_started (started : call.Started) (moves : call.Moves call') : call'.Started := by
  cases moves with
  | caller taken => exact callerStep_started started taken
  | task taken => exact fun _ => (taskStep_there taken).2
  | emit taken =>
      obtain ⟨events, emitted, rfl⟩ := emit_same taken
      exact started
  | cancelToken => exact started

theorem check_counts {point : CheckPoint P V} {read : CancellationRead} {n : Nat} :
    (check memory call point read).2.caller ≠ .counting n := by
  have cancelled : (whenCancelled memory call point).2.caller ≠ .counting n := by
    cases point <;> simp [whenCancelled, goTo]
  have current : (whenCurrent memory call point).2.caller ≠ .counting n := by
    cases point <;> simp [whenCurrent, goTo]
  cases read with
  | generation =>
      rw [check]
      split
      · exact cancelled
      · simp [goTo]
  | stopEpoch =>
      rw [check]
      split
      · exact cancelled
      · simp [goTo]
  | token =>
      rw [check]
      split
      · exact cancelled
      · exact current

theorem receive_counts {choice : CallerChoice} {n : Nat} :
    (call.receive choice).caller ≠ .counting n := by
  unfold receive
  split
  · simp [goTo]
  · split
    · simp [goTo]
    · simp [goTo]
    · split
      · split <;> simp [goTo]
      · simp [goTo]

theorem handle_counts {sink : Except TtsError Unit} {event : IsolatedStreamEvent P} {n : Nat} :
    (call.handle sink event).caller ≠ .counting n := by
  cases event with
  | application receipt =>
      simp only [handle, handleApplication]
      split
      · simp [goTo]
      · split <;> simp [goTo]
  | start start =>
      simp only [handle, handleStart]
      split
      · simp [goTo]
      · split <;> simp [goTo]
  | audio audio =>
      simp only [handle, handleOutput]
      split
      · split <;> simp [goTo]
      · simp [goTo]
  | markers markers =>
      simp only [handle, handleOutput]
      split
      · split <;> simp [goTo]
      · simp [goTo]

/-- A caller counts from the counter as it is. -/
theorem callerStep_counts {choice : CallerChoice} {n : Nat}
    (taken : call.callerStep memory choice = some (memory', call'))
    (counts : call'.caller = .counting n) : n = memory'.budget.inFlight := by
  unfold callerStep at taken
  cases here : call.caller <;> simp only [here] at taken
  case claimed =>
      cases taken
      cases counts
      rfl
  case counting current =>
      split at taken
      · cases taken
        cases counts
      · split at taken
        · cases taken
          cases counts
          rfl
        · split at taken
          · cases taken
            cases counts
          · cases taken
            cases counts
            rfl
  case loading | declining | granted | admitted | stopping | quarantining | restoring =>
      cases taken
      cases counts
  case locking | asleep =>
      obtain ⟨budget, free, moved⟩ := Option.map_eq_some_iff.mp taken
      cases moved
      cases counts
  case attempting | pressed | leaving | marking =>
      split at taken <;> cases taken <;> cases counts
  case checking point read =>
      have other : (check memory call point read).2.caller ≠ .counting n := check_counts
      rw [Option.some.inj taken] at other
      exact absurd counts other
  case spawning =>
      split at taken
      · cases taken
        cases counts
      · cases taken
        cases streams : call.streaming <;> simp [goTo, streams] at counts
  case waiting =>
      cases taken
      exact absurd counts receive_counts
  case handling event =>
      split at taken <;> cases taken <;> exact absurd counts handle_counts
  case deciding =>
      split at taken
      · cases taken
        cases counts
      · split at taken <;> cases taken <;> cases counts
  case releasing stage outcome =>
      obtain ⟨⟨budget, next⟩, step, moved⟩ := Option.map_eq_some_iff.mp taken
      cases moved
      cases next <;> cases counts
  case returned outcome => cases taken

end IsolatedCall

/-- The counter moves only under the lock. -/
theorem LeaseStep.counter {budget budget' : IsolationBudget} {lease lease' : Lease}
    (step : LeaseStep budget lease budget' lease') (staged : lease.staged = true) :
    budget'.inFlight = budget.inFlight ∨ lease.locks = true := by
  have released : ∀ {e : String} {q : Bool} {stage : ReleaseStage} {next : Option ReleaseStage},
      budget.release e q stage = some (budget', next) →
        budget'.inFlight = budget.inFlight ∨ stage = .uncounting := by
    intro e q stage next step
    cases stage with
    | locking =>
        obtain ⟨locked, taken, moved⟩ := Option.map_eq_some_iff.mp step
        obtain ⟨_, rfl⟩ := IsolationBudget.lock_eq_some.mp taken
        cases moved
        exact .inl rfl
    | uncounting => exact .inr rfl
    | reading => cases step; exact .inl rfl
    | unmarking => cases step; exact .inl rfl
    | vacating => cases step; exact .inl rfl
    | notifying => cases step; exact .inl rfl
  cases step with
  | granted room => exact .inr rfl
  | locked free =>
      obtain ⟨_, rfl⟩ := IsolationBudget.lock_eq_some.mp free
      exact .inl rfl
  | released step =>
      rcases released step with same | rfl
      · exact .inl same
      · exact .inr rfl
  | taskReleased step =>
      rename_i e c q stage next
      rcases released step with same | rfl
      · exact .inl same
      · cases c <;> first | exact .inr rfl | cases staged
  | still | claimed | declined | admitted | slept | gaveUp | spawned | forwent | swapped | marked |
      left | ending | taskLeft | taskEnding => exact .inl rfl

namespace IsolationState

variable {state next : IsolationState P V} {event : IsolationEvent P V} {index : Nat}
  {call call' : IsolatedCall P V} {memory : IsolationMemory}

/-- Callers count from the counter as it is, and have the native threads that they listen to. -/
structure Alive (state : IsolationState P V) : Prop where
  kept : state.Kept
  started : ∀ call ∈ state.calls, call.Started
  counted : ∀ call ∈ state.calls, ∀ n, call.caller = .counting n →
    n = state.memory.budget.inFlight

theorem lease_at (found : state.calls[index]? = some call) :
    state.leases[index]? = some call.lease := by
  rw [leases, List.getElem?_map, found]
  rfl

/-- A caller that counts has the lock, so no other thread moves the counter. -/
theorem Alive.counted_replace (alive : state.Alive) (found : state.calls[index]? = some call)
    (step : LeaseStep state.memory.budget call.lease memory.budget call'.lease)
    (own : ∀ n, call'.caller = .counting n → n = memory.budget.inFlight) :
    ∀ other ∈ (state.replace index (memory, call')).calls, ∀ n, other.caller = .counting n →
      n = memory.budget.inFlight := by
  intro other member n counts
  obtain ⟨place, there⟩ := List.mem_iff_getElem?.mp member
  by_cases same : index = place
  · subst same
    obtain ⟨inside, _⟩ := List.getElem?_eq_some_iff.mp found
    cases (List.getElem?_set_self inside).symm.trans there
    exact own n counts
  · have before : state.calls[place]? = some other := (List.getElem?_set_ne same).symm.trans there
    have exactly := alive.counted other (List.mem_of_getElem? before) n counts
    have staged := alive.kept.staged call.lease (List.mem_of_getElem? (lease_at found))
    rcases step.counter staged with still | locks
    · rw [still]
      exact exactly
    · have locks' : other.lease.locks = true := by
        rw [IsolatedCall.lease, counts]
        rfl
      have one : state.memory.budget.availability.toNat ≤ 1 := Bool.toNat_le _
      exact absurd (alive.kept.locks.unique one (lease_at found) locks (lease_at before) locks')
        same

theorem step_alive (alive : state.Alive) (taken : state.step event = some next) : next.Alive where
  kept := step_kept alive.kept taken
  started := by
    refine step_invariant (fun _ _ _ _ _ listens => ?_) (fun _ _ _ started moves => ?_) alive.kept
      alive.started taken
    · cases listens
    · exact IsolatedCall.moves_started started moves
  counted := by
    cases event with
    | begins engineId streaming parameters token =>
        cases taken
        intro call member n counts
        rcases List.mem_append.mp member with before | own
        · exact alive.counted call before n counts
        · rw [List.mem_singleton.mp own] at counts
          cases counts
    | caller index choice =>
        obtain ⟨call, found, more⟩ := Option.bind_eq_some_iff.mp taken
        obtain ⟨⟨memory, call'⟩, step, rfl⟩ := Option.map_eq_some_iff.mp more
        exact alive.counted_replace found (IsolatedCall.callerStep_lease step)
          fun n counts => IsolatedCall.callerStep_counts step counts
    | task index answer =>
        obtain ⟨call, found, more⟩ := Option.bind_eq_some_iff.mp taken
        obtain ⟨⟨memory, call'⟩, step, rfl⟩ := Option.map_eq_some_iff.mp more
        refine alive.counted_replace found (IsolatedCall.taskStep_lease step) fun n counts => ?_
        have staged := alive.kept.staged call.lease (List.mem_of_getElem? (lease_at found))
        rw [(IsolatedCall.taskStep_eq step).1] at counts
        have counting : call.caller = .counting n := counts
        have early :=
          IsolatedCall.task_absent staged (by rw [counting]; exact .inr (.inr (.inl rfl)))
        exact absurd early.1 (IsolatedCall.taskStep_there step).1
    | emit index event =>
        obtain ⟨call, found, more⟩ := Option.bind_eq_some_iff.mp taken
        obtain ⟨call', step, rfl⟩ := Option.map_eq_some_iff.mp more
        obtain ⟨events, emitted, rfl⟩ := IsolatedCall.emit_same step
        exact alive.counted_replace found (.still _ _)
          (alive.counted call (List.mem_of_getElem? found))
    | cancelToken index =>
        obtain ⟨call, found, rfl⟩ := Option.map_eq_some_iff.mp taken
        exact alive.counted_replace found (.still _ _)
          (alive.counted call (List.mem_of_getElem? found))
    | setGeneration generation =>
        cases taken
        exact alive.counted
    | stop engineId =>
        cases taken
        exact alive.counted
    | prepareRecoveryProbe engineId =>
        cases taken
        exact alive.counted

theorem run_alive {events : List (IsolationEvent P V)}
    (run : runSteps step .new events = some state) : state.Alive := by
  have start : (IsolationState.new : IsolationState P V).Alive :=
    ⟨BudgetKept.new, fun _ member => absurd member List.not_mem_nil,
      fun _ member => absurd member List.not_mem_nil⟩
  exact run_preserves (fun _ _ _ alive taken => step_alive alive taken) start run

/-! ## The end -/

/-- A step of one of the threads. Native calls give this answer. -/
def ordinary (answer : Option (Except TtsError V)) : IsolationEvent P V → Prop
  | .caller _ .usual => True
  | .task _ other => other = answer
  | _ => False

def rank (state : IsolationState P V) : Nat := (state.calls.map IsolatedCall.rank).sum

/-- The lock keeps nobody from a step: it is free, or this thread has it. -/
def Clear (memory : IsolationMemory) (call : IsolatedCall P V) : Prop :=
  memory.budget.availability = false ∨ call.lease.locks = true

theorem caller_free (staged : call.lease.staged = true) (clear : Clear memory call)
    (blocks : call.caller.blocks = true) : memory.budget.availability = false := by
  refine clear.resolve_right fun locks => ?_
  unfold CallerStage.blocks at blocks
  split at blocks
  · rename_i here
    have absent := (IsolatedCall.task_absent staged (by rw [here]; exact .inl rfl)).1
    rw [IsolatedCall.lease, here, absent] at locks
    cases locks
  · rename_i here
    have absent := (IsolatedCall.task_absent staged (by rw [here]; exact .inl rfl)).1
    rw [IsolatedCall.lease, here, absent] at locks
    cases locks
  · rename_i here
    rw [IsolatedCall.lease, here] at locks
    cases locks
  · cases blocks

theorem task_free (staged : call.lease.staged = true) (clear : Clear memory call)
    (blocks : call.task.blocks = true) : memory.budget.availability = false := by
  refine clear.resolve_right fun locks => ?_
  unfold TaskStage.blocks at blocks
  split at blocks
  · rename_i here
    rw [IsolatedCall.lease, here] at staged locks
    cases role : call.caller.role <;> rw [role] at staged locks <;>
      first | exact absurd locks Bool.false_ne_true | cases staged
  · cases blocks

/-- **Every call goes on** that has not come to its end, where the lock lets it. -/
theorem call_advances (answer : Option (Except TtsError V)) (alive : state.Alive)
    (found : state.calls[index]? = some call) (going : call.concluded = false)
    (clear : Clear state.memory call) :
    ∃ event, ordinary answer event ∧ ∃ moved,
      state.step event = some (state.replace index moved) ∧ moved.2.rank < call.rank := by
  have member := List.mem_of_getElem? found
  have staged := alive.kept.staged call.lease (List.mem_of_getElem? (lease_at found))
  have byCaller : (∀ outcome, call.caller ≠ .returned outcome) →
      (call.caller = .waiting → call.events ≠ [] ∨ call.task.hasEnded = true) →
      ∃ event, ordinary answer event ∧ ∃ moved,
        state.step event = some (state.replace index moved) ∧ moved.2.rank < call.rank := by
    intro going heard
    have absent : call.caller = .spawning → call.task = .absent := by
      intro here
      exact (IsolatedCall.task_absent staged (by rw [here]; exact .inr (.inr (.inr (.inr rfl))))).1
    obtain ⟨moved, step, lower⟩ := IsolatedCall.caller_advances going
      (caller_free staged clear) heard absent (alive.counted call member)
    refine ⟨.caller index .usual, trivial, moved, ?_, lower⟩
    rw [IsolationState.step, found, Option.bind_some, step, Option.map_some]
  have byTask : call.task.moving = true → call.receives = false ∨ call.events = [] →
      ∃ event, ordinary answer event ∧ ∃ moved,
        state.step event = some (state.replace index moved) ∧ moved.2.rank < call.rank := by
    intro moving room
    obtain ⟨moved, step, lower⟩ :=
      IsolatedCall.task_advances answer moving (task_free staged clear) room
    refine ⟨.task index answer, rfl, moved, ?_, lower⟩
    rw [IsolationState.step, found, Option.bind_some, step, Option.map_some]
  have moving : call.task ≠ .absent → call.task.hasEnded = false → call.task.moving = true := by
    intro there running
    cases task : call.task with
    | absent => exact absurd task there
    | ended result => rw [task] at running; cases running
    | running => rfl
    | finished result => rfl
    | releasing stage result => rfl
    | dropped result => rfl
  cases here : call.caller with
  | returned outcome =>
      refine byTask ?_ (.inl (by rw [IsolatedCall.receives, here]; rfl))
      unfold IsolatedCall.concluded at going
      rw [here] at going
      cases task : call.task with
      | absent => rw [task] at going; cases going
      | ended result => rw [task] at going; cases going
      | running => rfl
      | finished result => rfl
      | releasing stage result => rfl
      | dropped result => rfl
  | waiting =>
      by_cases silent : call.events = [] ∧ call.task.hasEnded = false
      · have there : call.task ≠ .absent := alive.started call member (by rw [here]; rfl)
        exact byTask (moving there silent.2) (.inr silent.1)
      · refine byCaller (fun outcome same => by cases here.symm.trans same) fun _ => ?_
        rw [not_and_or, Bool.not_eq_false] at silent
        exact silent
  | _ =>
      refine byCaller (fun outcome same => ?_) fun same => ?_
      · cases here.symm.trans same
      · cases here.symm.trans same

/-- Where a call has not come to its end, one can go on. -/
theorem exists_clear (alive : state.Alive)
    (going : ¬ ∀ call ∈ state.calls, call.concluded = true) :
    ∃ (index : Nat) (call : IsolatedCall P V), state.calls[index]? = some call ∧
      call.concluded = false ∧ Clear state.memory call := by
  cases held : state.memory.budget.availability with
  | false =>
      simp only [not_forall, Bool.not_eq_true] at going
      obtain ⟨call, member, going⟩ := going
      obtain ⟨index, found⟩ := List.mem_iff_getElem?.mp member
      exact ⟨index, call, found, going, .inl held⟩
  | true =>
      have one : state.leases.countP Lease.locks = 1 := by
        have counts := alive.kept.locks
        rw [held] at counts
        exact counts
      obtain ⟨lease, there, locks⟩ := List.countP_pos_iff.mp (one ▸ Nat.one_pos)
      obtain ⟨call, member, rfl⟩ := List.mem_map.mp there
      obtain ⟨index, found⟩ := List.mem_iff_getElem?.mp member
      refine ⟨index, call, found, ?_, .inr locks⟩
      cases ended : call.concluded with
      | false => rfl
      | true =>
          have free := (IsolatedCall.settled_lease (IsolatedCall.settled_of_concluded ended)).1
          cases free.symm.trans locks

end IsolationState

/-- **Isolated calls come to their end.** From every state that a run reaches, steps of the
callers and of the native threads alone lead to a state where every call has returned, every
native thread has ended and the budget is as it was in the beginning, whatever the native
calls answer. -/
theorem calls_finish {events : List (IsolationEvent P V)} {state : IsolationState P V}
    (run : runSteps IsolationState.step .new events = some state)
    (answer : Option (Except TtsError V)) :
    ∃ steps final, (∀ event ∈ steps, IsolationState.ordinary answer event) ∧
      runSteps IsolationState.step state steps = some final ∧
      (∀ call ∈ final.calls, call.concluded = true) ∧
      final.calls.length = state.calls.length ∧ final.memory.budget = .new := by
  have lowers : ∀ here : IsolationState P V,
      here.Alive ∧ here.calls.length = state.calls.length →
      ¬ (∀ call ∈ here.calls, call.concluded = true) →
      ∃ event next, IsolationState.ordinary answer event ∧ here.step event = some next ∧
        (next.Alive ∧ next.calls.length = state.calls.length) ∧ next.rank < here.rank := by
    rintro here ⟨alive, same⟩ going
    obtain ⟨index, call, found, going, clear⟩ := IsolationState.exists_clear alive going
    obtain ⟨event, usual, moved, taken, lower⟩ :=
      IsolationState.call_advances answer alive found going clear
    refine ⟨event, _, usual, taken, ⟨IsolationState.step_alive alive taken, ?_⟩, ?_⟩
    · rw [← same]
      exact List.length_set
    · exact sum_rank_set found lower
  obtain ⟨steps, final, usual, further, ⟨alive, same⟩, ended⟩ :=
    finishes IsolationState.rank lowers ⟨IsolationState.run_alive run, rfl⟩
  refine ⟨steps, final, usual, further, ended, same, alive.kept.settled fun call member => ?_⟩
  exact IsolatedCall.settled_of_concluded (ended call member)

theorem calls_finish_leftBehind :
    ∃ steps final, runSteps IsolationState.step .new (leftBehind ++ steps) = some final ∧
      final.memory.budget = .new := by
  have left : (runSteps IsolationState.step .new leftBehind).isSome = true := by rfl
  obtain ⟨state, run⟩ := Option.isSome_iff_exists.mp left
  obtain ⟨steps, final, _, further, _, _, rest⟩ := calls_finish run none
  exact ⟨steps, final, runSteps_append run further, rest⟩

end Omnivox.Execution
