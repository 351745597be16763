import Mathlib
import Omnivox.Execution.IsolationLimits

/-!
# How isolated calls end

What is true of a call by itself is kept by the steps of its two threads, whatever the others
do (`call_invariant`).

A call that answers has the answer of its native thread, which is past its lease. One that
leaves a running native call behind has marked the lease, and says so (`returned_calls`).
-/

set_option autoImplicit false

namespace Omnivox.Execution

open Foundations Synthesis

variable {P V : Type}

/-! ## Single calls -/

namespace IsolatedCall

/-- One step of a call, whatever the memory is. -/
inductive Moves : IsolatedCall P V → IsolatedCall P V → Prop where
  | caller {call call' : IsolatedCall P V} {memory memory' : IsolationMemory}
      {choice : CallerChoice} (taken : call.callerStep memory choice = some (memory', call')) :
      Moves call call'
  | task {call call' : IsolatedCall P V} {memory memory' : IsolationMemory}
      {answer : Option (Except TtsError V)}
      (taken : call.taskStep memory answer = some (memory', call')) : Moves call call'
  | emit {call call' : IsolatedCall P V} {event : IsolatedStreamEvent P}
      (taken : call.emit event = some call') : Moves call call'
  | cancelToken (call : IsolatedCall P V) :
      Moves call { call with token := call.token.map fun _ => true }

end IsolatedCall

namespace IsolationState

variable {state next : IsolationState P V} {holds : IsolatedCall P V → Prop}

theorem holds_set {calls : List (IsolatedCall P V)} {index : Nat} {call : IsolatedCall P V}
    (every : ∀ call ∈ calls, holds call) (one : holds call) :
    ∀ other ∈ calls.set index call, holds other := by
  intro other member
  rcases List.mem_or_eq_of_mem_set member with before | same
  · exact every other before
  · rw [same]
    exact one

/-- A property of calls that each call keeps by itself is kept by every step. -/
theorem step_invariant
    (begun : ∀ engineId streaming parameters generation token,
      holds (.begun engineId streaming parameters generation token))
    (moves : ∀ call call', call.lease.staged = true → holds call → call.Moves call' → holds call')
    {event : IsolationEvent P V} (kept : state.Kept) (every : ∀ call ∈ state.calls, holds call)
    (taken : state.step event = some next) : ∀ call ∈ next.calls, holds call := by
  have moved : ∀ {index : Nat} {call call' : IsolatedCall P V},
      state.calls[index]? = some call → call.Moves call' →
        ∀ other ∈ state.calls.set index call', holds other := by
    intro index call call' found move
    have member := List.mem_of_getElem? found
    have staged := kept.staged call.lease (List.mem_map_of_mem member)
    exact holds_set every (moves call call' staged (every call member) move)
  cases event with
  | begins engineId streaming parameters token =>
      cases taken
      intro call member
      rcases List.mem_append.mp member with before | own
      · exact every call before
      · rw [List.mem_singleton.mp own]
        exact begun _ _ _ _ _
  | caller index choice =>
      obtain ⟨call, found, more⟩ := Option.bind_eq_some_iff.mp taken
      obtain ⟨⟨memory, call'⟩, step, rfl⟩ := Option.map_eq_some_iff.mp more
      exact moved found (.caller step)
  | task index answer =>
      obtain ⟨call, found, more⟩ := Option.bind_eq_some_iff.mp taken
      obtain ⟨⟨memory, call'⟩, step, rfl⟩ := Option.map_eq_some_iff.mp more
      exact moved found (.task step)
  | emit index event =>
      obtain ⟨call, found, more⟩ := Option.bind_eq_some_iff.mp taken
      obtain ⟨call', step, rfl⟩ := Option.map_eq_some_iff.mp more
      exact moved found (.emit step)
  | cancelToken index =>
      obtain ⟨call, found, rfl⟩ := Option.map_eq_some_iff.mp taken
      exact moved found (.cancelToken call)
  | setGeneration generation =>
      cases taken
      exact every
  | stop engineId =>
      cases taken
      exact every
  | prepareRecoveryProbe engineId =>
      cases taken
      exact every

/-- **Invariant rule** for single calls. -/
theorem call_invariant
    (begun : ∀ engineId streaming parameters generation token,
      holds (.begun engineId streaming parameters generation token))
    (moves : ∀ call call', call.lease.staged = true → holds call → call.Moves call' → holds call')
    {events : List (IsolationEvent P V)} (run : runSteps step .new events = some state) :
    ∀ call ∈ state.calls, holds call := by
  have start : (new : IsolationState P V).Kept ∧
      ∀ call ∈ (new : IsolationState P V).calls, holds call :=
    ⟨BudgetKept.new, fun call member => absurd member List.not_mem_nil⟩
  have preserved : ∀ (state : IsolationState P V) event next,
      (state.Kept ∧ ∀ call ∈ state.calls, holds call) → step state event = some next →
        next.Kept ∧ ∀ call ∈ next.calls, holds call := by
    intro state event next both taken
    exact ⟨step_kept both.1 taken, step_invariant begun moves both.1 both.2 taken⟩
  exact (run_preserves preserved start run).2

end IsolationState

/-! ## Outcomes -/

/-- The outcomes behind which a native call may still run. -/
def IsolationOutcome.stops : IsolationOutcome V → Bool
  | .superseded | .refused _ => true
  | _ => false

/-- The native thread is there and not done. -/
def TaskStage.moving : TaskStage V → Bool
  | .absent | .ended _ => false
  | _ => true

namespace IsolatedCall

/-- What an outcome says about the native thread and the mark. -/
def Explains (call : IsolatedCall P V) : IsolationOutcome V → Prop
  | .answered answer => call.task = .ended (some answer) ∧ call.quarantined = false
  | .incomplete => ∃ value, call.task = .ended (some (.ok value)) ∧ call.quarantined = false
  | .notAvailable | .notStarted _ => call.task = .absent ∧ call.quarantined = false
  | .terminated => call.task.lost = true ∧ call.quarantined = false
  | .superseded =>
      call.quarantined = true ∨ (call.task = .absent ∧ call.quarantined = false) ∨
        ∃ answer, call.task = .ended (some answer) ∧ call.quarantined = false
  | .refused _ => call.quarantined = true

/-- What the program point of the caller says. -/
def Honest (call : IsolatedCall P V) : Prop :=
  match call.caller with
  | .checking (.arrival answer) _ =>
      call.task = .ended (some answer) ∧ call.quarantined = false
  | .stopping outcome | .marking outcome => outcome.stops = true ∧ call.quarantined = false
  | .quarantining outcome => outcome.stops = true ∧ call.quarantined = true
  | .leaving outcome | .releasing _ outcome | .returned outcome => call.Explains outcome
  | _ => call.quarantined = false

/-! ### Steps of the caller -/

variable {call call' : IsolatedCall P V} {memory memory' : IsolationMemory}

theorem task_absent (staged : call.lease.staged = true)
    (early : call.caller.role = .outside ∨ call.caller.role = .contending ∨
      call.caller.role = .claiming ∨ call.caller.role = .granted ∨
      call.caller.role = .starting) : call.task = .absent ∧ call.quarantined = false := by
  obtain ⟨absent, unmarked⟩ := LeaseStep.alone_of_staged staged early
  refine ⟨?_, unmarked⟩
  unfold TaskStage.role at absent
  split at absent
  · assumption
  all_goals cases absent

theorem whenCancelled_honest {point : CheckPoint P V} {read : CancellationRead}
    (here : call.caller = .checking point read) (staged : call.lease.staged = true)
    (honest : call.Honest) : (whenCancelled memory call point).2.Honest := by
  rw [Honest, here] at honest
  cases point with
  | pressure =>
      have early := task_absent staged (by rw [here]; exact .inr (.inl rfl))
      exact .inr (.inl early)
  | admission =>
      have early := task_absent staged (by rw [here]; exact .inr (.inr (.inr (.inr rfl))))
      exact .inr (.inl early)
  | poll => exact honest
  | event event => exact honest
  | arrival answer => exact .inr (.inr ⟨answer, honest⟩)

theorem conclude_explains {answer : Except TtsError V}
    (arrived : call.task = .ended (some answer) ∧ call.quarantined = false) :
    call.Explains (call.conclude answer) := by
  unfold conclude
  cases answer with
  | error error => exact arrived
  | ok value =>
      dsimp only
      split
      · exact ⟨value, arrived⟩
      · exact arrived

theorem whenCurrent_honest {point : CheckPoint P V} {read : CancellationRead}
    (here : call.caller = .checking point read) (honest : call.Honest) :
    (whenCurrent memory call point).2.Honest := by
  rw [Honest, here] at honest
  cases point with
  | pressure => exact honest
  | admission => exact honest
  | poll => exact honest
  | event event => exact honest
  | arrival answer => exact conclude_explains honest

theorem check_honest (memory : IsolationMemory) {point : CheckPoint P V} {read : CancellationRead}
    (here : call.caller = .checking point read) (staged : call.lease.staged = true)
    (honest : call.Honest) : (check memory call point read).2.Honest := by
  have onward : ∀ next, (call.goTo (.checking point next)).Honest := by
    intro next
    rw [Honest, here] at honest
    cases point <;> exact honest
  cases read with
  | generation =>
      rw [check]
      split
      · exact whenCancelled_honest here staged honest
      · exact onward _
  | stopEpoch =>
      rw [check]
      split
      · exact whenCancelled_honest here staged honest
      · exact onward _
  | token =>
      rw [check]
      split
      · exact whenCancelled_honest here staged honest
      · exact whenCurrent_honest here honest

theorem receive_honest (here : call.caller = .waiting) (honest : call.Honest)
    (choice : CallerChoice) : (call.receive choice).Honest := by
  rw [Honest, here] at honest
  unfold receive
  split
  · exact honest
  · split
    · rename_i ended
      exact ⟨ended, honest⟩
    · rename_i ended
      refine ⟨?_, honest⟩
      rw [goTo, ended]
      rfl
    · split
      · split
        · rename_i lost
          exact ⟨lost, honest⟩
        · exact honest
      · exact honest

theorem handle_honest {event : IsolatedStreamEvent P} (here : call.caller = .handling event)
    (honest : call.Honest) (sink : Except TtsError Unit) : (call.handle sink event).Honest := by
  rw [Honest, here] at honest
  have output : ∀ event, (call.handleOutput event sink).Honest := by
    intro event
    unfold handleOutput
    split
    · split
      · exact honest
      · exact ⟨rfl, honest⟩
    · exact ⟨rfl, honest⟩
  have started : ∀ start, (call.handleStart start sink).Honest := by
    intro start
    unfold handleStart
    split
    · exact ⟨rfl, honest⟩
    · split
      · exact honest
      · exact ⟨rfl, honest⟩
  have applied : ∀ receipt, (call.handleApplication receipt).Honest := by
    intro receipt
    unfold handleApplication
    split
    · exact ⟨rfl, honest⟩
    · split
      · exact ⟨rfl, honest⟩
      · exact honest
  cases event with
  | application receipt => exact applied receipt
  | start start => exact started start
  | audio audio => exact output _
  | markers markers => exact output _

/-- A call that was stopped is marked when it leaves. -/
theorem explains_of_stops {outcome : IsolationOutcome V} (stops : outcome.stops = true)
    (marked : call.quarantined = true) : call.Explains outcome := by
  cases outcome with
  | superseded => exact .inl marked
  | refused error => exact marked
  | answered answer => cases stops
  | notAvailable => cases stops
  | notStarted error => cases stops
  | incomplete => cases stops
  | terminated => cases stops

theorem callerStep_honest {choice : CallerChoice} (staged : call.lease.staged = true)
    (honest : call.Honest) (taken : call.callerStep memory choice = some (memory', call')) :
    call'.Honest := by
  have fresh := honest
  rw [Honest] at fresh
  unfold callerStep at taken
  cases here : call.caller with
  | loading =>
      simp only [here] at taken fresh
      cases taken
      exact fresh
  | locking =>
      simp only [here] at taken fresh
      obtain ⟨budget, free, moved⟩ := Option.map_eq_some_iff.mp taken
      cases moved
      exact fresh
  | asleep =>
      simp only [here] at taken fresh
      obtain ⟨budget, free, moved⟩ := Option.map_eq_some_iff.mp taken
      cases moved
      exact fresh
  | attempting =>
      simp only [here] at taken fresh
      split at taken
      · cases taken
        exact fresh
      · cases taken
        exact fresh
  | claimed =>
      simp only [here] at taken fresh
      cases taken
      exact fresh
  | counting current =>
      simp only [here] at taken fresh
      split at taken
      · cases taken
        exact fresh
      · split at taken
        · cases taken
          exact fresh
        · split at taken
          · cases taken
            exact fresh
          · cases taken
            exact fresh
  | declining =>
      simp only [here] at taken fresh
      cases taken
      exact fresh
  | pressed =>
      simp only [here] at taken fresh
      split at taken
      · cases taken
        exact fresh
      · cases taken
        have early := task_absent staged (by rw [here]; exact .inr (.inl rfl))
        exact early
  | granted =>
      simp only [here] at taken fresh
      cases taken
      exact fresh
  | checking point read =>
      simp only [here] at taken
      have moved := check_honest memory here staged honest
      rw [Option.some.inj taken] at moved
      exact moved
  | admitted =>
      simp only [here] at taken fresh
      cases taken
      exact fresh
  | spawning =>
      simp only [here] at taken fresh
      split at taken
      · cases taken
        exact fresh
      · cases taken
        rw [Honest]
        cases call.streaming <;> exact fresh
  | restoring error =>
      simp only [here] at taken fresh
      cases taken
      have early := task_absent staged (by rw [here]; exact .inr (.inr (.inr (.inr rfl))))
      exact early
  | waiting =>
      simp only [here] at taken
      cases taken
      exact receive_honest here honest choice
  | handling event =>
      simp only [here] at taken
      split at taken
      · cases taken
        exact handle_honest here honest _
      · cases taken
        exact handle_honest here honest _
  | deciding =>
      simp only [here] at taken fresh
      split at taken
      · cases taken
        exact ⟨rfl, fresh⟩
      · split at taken
        · cases taken
          exact fresh
        · cases taken
          exact ⟨rfl, fresh⟩
  | stopping outcome =>
      simp only [here] at taken fresh
      cases taken
      exact fresh
  | marking outcome =>
      simp only [here] at taken fresh
      split at taken
      · rename_i marked
        cases taken
        exact explains_of_stops fresh.1 marked
      · cases taken
        exact ⟨fresh.1, rfl⟩
  | quarantining outcome =>
      simp only [here] at taken fresh
      cases taken
      exact explains_of_stops fresh.1 fresh.2
  | leaving outcome =>
      simp only [here] at taken fresh
      split at taken
      · cases taken
        exact fresh
      · cases taken
        exact fresh
  | releasing stage outcome =>
      simp only [here] at taken fresh
      obtain ⟨⟨budget, next⟩, step, moved⟩ := Option.map_eq_some_iff.mp taken
      cases moved
      cases next with
      | none => exact fresh
      | some stage => exact fresh
  | returned outcome =>
      simp only [here] at taken
      cases taken

/-! ### Steps of the native thread -/

/-- A native thread that takes a step was there and is not done, and a lost one stays lost. -/
theorem taskStep_eq {answer : Option (Except TtsError V)}
    (taken : call.taskStep memory answer = some (memory', call')) :
    call' = call.taskTo call'.task ∧ call.task.moving = true ∧
      (call.task.lost = true → call'.task.lost = true) := by
  unfold taskStep at taken
  cases here : call.task with
  | absent =>
      simp only [here] at taken
      cases taken
  | running =>
      simp only [here] at taken
      cases taken
      exact ⟨rfl, rfl, fun lost => by cases lost⟩
  | finished answer =>
      simp only [here] at taken
      have stays : (TaskStage.finished answer).lost = true →
          (TaskStage.dropped answer).lost = true ∧
            (TaskStage.releasing .locking answer).lost = true := by
        intro lost
        cases answer with
        | none => exact ⟨rfl, rfl⟩
        | some answer => cases lost
      split at taken
      · cases taken
        exact ⟨rfl, rfl, fun lost => (stays lost).1⟩
      · cases taken
        exact ⟨rfl, rfl, fun lost => (stays lost).2⟩
  | releasing stage answer =>
      simp only [here] at taken
      obtain ⟨⟨budget, next⟩, step, moved⟩ := Option.map_eq_some_iff.mp taken
      cases moved
      refine ⟨rfl, rfl, fun lost => ?_⟩
      cases answer with
      | none => cases next <;> rfl
      | some answer => cases lost
  | dropped answer =>
      cases answer with
      | none =>
          simp only [here] at taken
          cases taken
          exact ⟨rfl, rfl, fun _ => rfl⟩
      | some answer =>
          simp only [here] at taken
          split at taken
          · cases taken
          · cases taken
            exact ⟨rfl, rfl, fun lost => by cases lost⟩
  | ended answer =>
      simp only [here] at taken
      cases taken

theorem ne_absent (moving : call.task.moving = true) : call.task ≠ .absent := by
  intro same
  rw [same] at moving
  cases moving

theorem ne_ended (moving : call.task.moving = true) (answer : Option (Except TtsError V)) :
    call.task ≠ .ended answer := by
  intro same
  rw [same] at moving
  cases moving

/-- What was said of a thread that is not done is true of it later. -/
theorem Explains.taskTo {outcome : IsolationOutcome V} {task : TaskStage V}
    (explains : call.Explains outcome) (moving : call.task.moving = true)
    (lost : call.task.lost = true → task.lost = true) : (call.taskTo task).Explains outcome := by
  cases outcome with
  | answered answer => exact absurd explains.1 (ne_ended moving _)
  | incomplete =>
      obtain ⟨value, ended, _⟩ := explains
      exact absurd ended (ne_ended moving _)
  | notAvailable => exact absurd explains.1 (ne_absent moving)
  | notStarted error => exact absurd explains.1 (ne_absent moving)
  | terminated => exact ⟨lost explains.1, explains.2⟩
  | refused error => exact explains
  | superseded =>
      rcases explains with marked | ⟨absent, _⟩ | ⟨answer, ended, _⟩
      · exact .inl marked
      · exact absurd absent (ne_absent moving)
      · exact absurd ended (ne_ended moving _)

theorem taskStep_honest {answer : Option (Except TtsError V)} (honest : call.Honest)
    (taken : call.taskStep memory answer = some (memory', call')) : call'.Honest := by
  obtain ⟨same, moving, lost⟩ := taskStep_eq taken
  rw [same]
  rw [Honest] at honest ⊢
  cases here : call.caller with
  | leaving outcome =>
      simp only [here] at honest
      simp only [taskTo, here]
      exact honest.taskTo moving lost
  | releasing stage outcome =>
      simp only [here] at honest
      simp only [taskTo, here]
      exact honest.taskTo moving lost
  | returned outcome =>
      simp only [here] at honest
      simp only [taskTo, here]
      exact honest.taskTo moving lost
  | checking point read =>
      simp only [here] at honest
      simp only [taskTo, here]
      cases point with
      | arrival answer => exact absurd honest.1 (ne_ended moving _)
      | pressure => exact honest
      | admission => exact honest
      | poll => exact honest
      | event event => exact honest
  | _ =>
      simp only [here] at honest
      simp only [taskTo, here]
      exact honest

theorem moves_honest (staged : call.lease.staged = true) (honest : call.Honest)
    (moves : call.Moves call') : call'.Honest := by
  cases moves with
  | caller taken => exact callerStep_honest staged honest taken
  | task taken => exact taskStep_honest honest taken
  | emit taken =>
      obtain ⟨events, emitted, rfl⟩ := emit_same taken
      exact honest
  | cancelToken => exact honest

end IsolatedCall

/-- **How calls end.** The outcome of a call that has returned tells what became of its native
thread: an answer is the answer of the thread, which has ended. A lease that is still taken for
a call that has returned is marked, or its native thread was lost, and a native call that runs
behind its caller is always marked. -/
theorem returned_calls {events : List (IsolationEvent P V)} {state : IsolationState P V}
    (run : runSteps IsolationState.step .new events = some state) :
    ∀ call ∈ state.calls, ∀ outcome, call.caller = .returned outcome →
      call.Explains outcome ∧
      (call.lease.claims = true → call.quarantined = true ∨ call.task.lost = true) ∧
      (call.native = true → call.quarantined = true ∧ outcome.stops = true) := by
  intro call member outcome returned
  have honest : call.Honest :=
    IsolationState.call_invariant (fun _ _ _ _ _ => rfl)
      (fun _ _ staged honest moves => IsolatedCall.moves_honest staged honest moves) run call member
  rw [IsolatedCall.Honest, returned] at honest
  dsimp only at honest
  have free : ∀ {task : TaskStage V}, call.task = task → task.role = .absent ∨ task.role = .gone →
      call.lease.claims = false := by
    intro task same role
    rw [IsolatedCall.lease, returned, same]
    rcases role with role | role <;> rw [role] <;> rfl
  refine ⟨honest, ?_, ?_⟩
  · intro taken
    cases outcome with
    | answered answer => exact absurd (free honest.1 (.inr rfl)) (by simp [taken])
    | incomplete =>
        obtain ⟨value, ended, _⟩ := honest
        exact absurd (free ended (.inr rfl)) (by simp [taken])
    | notAvailable => exact absurd (free honest.1 (.inl rfl)) (by simp [taken])
    | notStarted error => exact absurd (free honest.1 (.inl rfl)) (by simp [taken])
    | terminated => exact .inr honest.1
    | refused error => exact .inl honest
    | superseded =>
        rcases honest with marked | ⟨absent, _⟩ | ⟨answer, ended, _⟩
        · exact .inl marked
        · exact absurd (free absent (.inl rfl)) (by simp [taken])
        · exact absurd (free ended (.inr rfl)) (by simp [taken])
  · intro running
    have runs : call.task = .running := by
      unfold IsolatedCall.native at running
      split at running
      · assumption
      · cases running
    cases outcome with
    | answered answer => cases honest.1.symm.trans runs
    | incomplete =>
        obtain ⟨value, ended, _⟩ := honest
        cases ended.symm.trans runs
    | notAvailable => cases honest.1.symm.trans runs
    | notStarted error => cases honest.1.symm.trans runs
    | terminated =>
        have lost := honest.1
        rw [runs] at lost
        cases lost
    | refused error => exact ⟨honest, rfl⟩
    | superseded =>
        rcases honest with marked | ⟨absent, _⟩ | ⟨answer, ended, _⟩
        · exact ⟨marked, rfl⟩
        · cases absent.symm.trans runs
        · cases ended.symm.trans runs

/-- The generation moves on behind a native call. -/
def leftBehind : List (IsolationEvent Nat Nat) :=
  .begins "espeak" true none none ::
    (IsolationEvent.callerSteps 0 11 ++ .setGeneration 1 :: IsolationEvent.callerSteps 0 6)

theorem returned_calls_leftBehind :
    ∃ state, runSteps IsolationState.step .new leftBehind = some state ∧
      ∃ call ∈ state.calls, call.caller = .returned .superseded ∧ call.native = true ∧
        call.quarantined = true := by
  have left : (runSteps IsolationState.step .new leftBehind).bind (fun state =>
      state.calls[0]?.map fun call => (call.caller, call.native)) =
        some (.returned .superseded, true) := by rfl
  obtain ⟨state, run, more⟩ := Option.bind_eq_some_iff.mp left
  obtain ⟨call, found, both⟩ := Option.map_eq_some_iff.mp more
  obtain ⟨returned, running⟩ := Prod.mk.inj both
  have member := List.mem_of_getElem? found
  have told := (returned_calls run call member .superseded returned).2.2 running
  exact ⟨state, run, call, member, returned, running, told.1⟩

end Omnivox.Execution
