import Mathlib
import Omnivox.Execution.NativeStreams

/-!
# Superseded calls

A call is told that it was cancelled by one of three reads: of the generation, of the stop
epoch of its engine, or of its token. A caller makes them again for every event and for the
answer. So a call that is cancelled before the last of these reads hands nothing more on and
does not answer, whatever its native thread still sends (`superseded_calls`).
-/

set_option autoImplicit false

namespace Omnivox.Execution

open Foundations Synthesis

variable {P V : Type}

/-- The caller has not yet read the stop epoch. -/
def CallerStage.loads : CallerStage P V → Bool
  | .loading => true
  | _ => false

/-- The read tells that the call was cancelled. -/
def CancellationRead.detects (memory : IsolationMemory) (call : IsolatedCall P V) :
    CancellationRead → Prop
  | .generation => memory.generation ≠ call.generation
  | .stopEpoch => memory.stopEpoch call.engineId ≠ call.stopEpoch
  | .token => call.token = some true

namespace IsolatedCall

variable {call call' call'' : IsolatedCall P V} {memory memory' : IsolationMemory}
  {read : CancellationRead}

/-! ## What a step leaves alone -/

/-- What cancels a call is not changed by threads. A caller that loads reads the stop epoch. -/
structure Frame (memory : IsolationMemory) (call : IsolatedCall P V) (memory' : IsolationMemory)
    (call' : IsolatedCall P V) : Prop where
  current : memory'.generation = memory.generation
  epochs : memory'.stopEpoch = memory.stopEpoch
  engineId : call'.engineId = call.engineId
  generation : call'.generation = call.generation
  token : call'.token = call.token
  stopEpoch : call'.stopEpoch = call.stopEpoch ∨
    call.caller.loads = true ∧ call'.stopEpoch = memory.stopEpoch call.engineId
  loaded : call'.caller.loads = true → call.caller.loads = true

/-- A step to a point where the stop epoch was read. -/
theorem Frame.goTo {stage : CallerStage P V} (current : memory'.generation = memory.generation)
    (epochs : memory'.stopEpoch = memory.stopEpoch) (loaded : stage.loads = false) :
    Frame memory call memory' (call.goTo stage) := by
  refine ⟨current, epochs, rfl, rfl, rfl, .inl rfl, fun loads => ?_⟩
  cases loaded.symm.trans loads

theorem check_frame (memory : IsolationMemory) (call : IsolatedCall P V) (point : CheckPoint P V)
    (read : CancellationRead) :
    Frame memory call (check memory call point read).1 (check memory call point read).2 := by
  have cancelled : Frame memory call (whenCancelled memory call point).1
      (whenCancelled memory call point).2 := by
    cases point <;> exact .goTo rfl rfl rfl
  have current : Frame memory call (whenCurrent memory call point).1
      (whenCurrent memory call point).2 := by
    cases point <;> exact .goTo rfl rfl rfl
  cases read with
  | generation =>
      rw [check]
      split
      · exact cancelled
      · exact .goTo rfl rfl rfl
  | stopEpoch =>
      rw [check]
      split
      · exact cancelled
      · exact .goTo rfl rfl rfl
  | token =>
      rw [check]
      split
      · exact cancelled
      · exact current

theorem receive_frame (choice : CallerChoice) : Frame memory call memory (call.receive choice) := by
  unfold receive
  split
  · exact ⟨rfl, rfl, rfl, rfl, rfl, .inl rfl, fun loads => by cases loads⟩
  · split
    · exact .goTo rfl rfl rfl
    · exact .goTo rfl rfl rfl
    · split
      · split <;> exact .goTo rfl rfl rfl
      · exact .goTo rfl rfl rfl

theorem handle_frame (sink : Except TtsError Unit) (event : IsolatedStreamEvent P) :
    Frame memory call memory (call.handle sink event) := by
  have output : ∀ event, Frame memory call memory (call.handleOutput event sink) := by
    intro event
    unfold handleOutput
    split
    · split <;> exact ⟨rfl, rfl, rfl, rfl, rfl, .inl rfl, fun loads => by cases loads⟩
    · exact .goTo rfl rfl rfl
  have applied : ∀ receipt, Frame memory call memory (call.handleApplication receipt) := by
    intro receipt
    unfold handleApplication
    split
    · exact .goTo rfl rfl rfl
    · split
      · exact .goTo rfl rfl rfl
      · exact ⟨rfl, rfl, rfl, rfl, rfl, .inl rfl, fun loads => by cases loads⟩
  have started : ∀ start, Frame memory call memory (call.handleStart start sink) := by
    intro start
    unfold handleStart
    split
    · exact .goTo rfl rfl rfl
    · split <;> exact ⟨rfl, rfl, rfl, rfl, rfl, .inl rfl, fun loads => by cases loads⟩
  cases event with
  | application receipt => exact applied receipt
  | start start => exact started start
  | audio audio => exact output _
  | markers markers => exact output _

theorem callerStep_frame {choice : CallerChoice}
    (taken : call.callerStep memory choice = some (memory', call')) :
    Frame memory call memory' call' := by
  unfold callerStep at taken
  cases here : call.caller <;> simp only [here] at taken
  case loading =>
      cases taken
      refine ⟨rfl, rfl, rfl, rfl, rfl, .inr ⟨?_, rfl⟩, fun loads => by cases loads⟩
      rw [here]
      rfl
  case locking | asleep =>
      obtain ⟨budget, free, moved⟩ := Option.map_eq_some_iff.mp taken
      cases moved
      exact .goTo rfl rfl rfl
  case claimed | declining | granted | stopping | quarantining =>
      cases taken
      exact .goTo rfl rfl rfl
  case attempting | pressed | leaving =>
      split at taken <;> cases taken <;> exact .goTo rfl rfl rfl
  case counting current =>
      split at taken
      · cases taken
        exact .goTo rfl rfl rfl
      · split at taken
        · cases taken
          exact .goTo rfl rfl rfl
        · split at taken <;> cases taken <;> exact .goTo rfl rfl rfl
  case checking point read =>
      have frame := check_frame memory call point read
      rw [Option.some.inj taken] at frame
      exact frame
  case admitted =>
      cases taken
      exact ⟨rfl, rfl, rfl, rfl, rfl, .inl rfl, fun loads => by cases loads⟩
  case spawning =>
      split at taken
      · cases taken
        exact .goTo rfl rfl rfl
      · cases taken
        refine ⟨rfl, rfl, rfl, rfl, rfl, .inl rfl, fun loads => ?_⟩
        cases streams : call.streaming <;> rw [streams] at loads <;> cases loads
  case restoring error =>
      cases taken
      refine .goTo ?_ ?_ rfl <;> split <;> rfl
  case waiting =>
      cases taken
      exact receive_frame choice
  case handling event =>
      split at taken <;> cases taken <;> exact handle_frame _ event
  case deciding =>
      split at taken
      · cases taken
        exact .goTo rfl rfl rfl
      · split at taken <;> cases taken <;> exact .goTo rfl rfl rfl
  case marking outcome =>
      split at taken
      · cases taken
        exact .goTo rfl rfl rfl
      · cases taken
        exact ⟨rfl, rfl, rfl, rfl, rfl, .inl rfl, fun loads => by cases loads⟩
  case releasing stage outcome =>
      obtain ⟨⟨budget, next⟩, step, moved⟩ := Option.map_eq_some_iff.mp taken
      cases moved
      cases next <;> exact .goTo rfl rfl rfl
  case returned outcome => cases taken

/-- Neither does a native thread. -/
theorem taskStep_frame {answer : Option (Except TtsError V)}
    (taken : call.taskStep memory answer = some (memory', call')) :
    Frame memory call memory' call' := by
  have frame : ∀ {memory' : IsolationMemory} {stage : TaskStage V},
      memory'.generation = memory.generation → memory'.stopEpoch = memory.stopEpoch →
        Frame memory call memory' (call.taskTo stage) :=
    fun current epochs => ⟨current, epochs, rfl, rfl, rfl, .inl rfl, fun loads => loads⟩
  unfold taskStep at taken
  cases here : call.task <;> simp only [here] at taken
  case absent | ended => cases taken
  case running =>
      cases taken
      exact frame rfl rfl
  case finished answer =>
      split at taken <;> cases taken <;> exact frame rfl rfl
  case releasing stage answer =>
      obtain ⟨⟨budget, next⟩, step, moved⟩ := Option.map_eq_some_iff.mp taken
      cases moved
      exact frame rfl rfl
  case dropped answer =>
      cases answer with
      | none =>
          cases taken
          exact frame rfl rfl
      | some answer =>
          dsimp only at taken
          split at taken
          · cases taken
          · cases taken
            exact frame rfl rfl

/-! ## A call that is told -/

theorem check_told {point : CheckPoint P V} {next : CancellationRead}
    (here : call.caller = .checking point next) (told : read.detects memory call)
    (early : call.caller.progress ≤ read.index) :
    (check memory call point next).2.caller.progress ≤ read.index := by
  have cancelled : (whenCancelled memory call point).2.caller.progress ≤ read.index := by
    cases point <;> exact Nat.zero_le _
  rw [here] at early
  have before : (∃ event, point = .event event) ∨ (∃ answer, point = .arrival answer) →
      next.index ≤ read.index := by
    rintro (⟨event, rfl⟩ | ⟨answer, rfl⟩) <;> exact early
  have onward : ∀ later : CancellationRead, (next.index ≤ read.index → later.index ≤ read.index) →
      (call.goTo (.checking point later)).caller.progress ≤ read.index := by
    intro later behind
    cases point with
    | pressure => exact Nat.zero_le _
    | admission => exact Nat.zero_le _
    | poll => exact Nat.zero_le _
    | event event => exact behind (before (.inl ⟨event, rfl⟩))
    | arrival answer => exact behind (before (.inr ⟨answer, rfl⟩))
  cases next with
  | generation =>
      rw [check]
      split
      · exact cancelled
      · rename_i same
        refine onward _ fun _ => ?_
        cases read with
        | generation => exact absurd told same
        | stopEpoch => exact le_rfl
        | token => decide
  | stopEpoch =>
      rw [check]
      split
      · exact cancelled
      · rename_i same
        refine onward _ fun behind => ?_
        cases read with
        | generation => exact absurd behind (by decide)
        | stopEpoch => exact absurd told same
        | token => exact le_rfl
  | token =>
      rw [check]
      split
      · exact cancelled
      · rename_i current
        cases point with
        | pressure => exact Nat.zero_le _
        | admission => exact Nat.zero_le _
        | poll => exact Nat.zero_le _
        | event event =>
            have behind := before (.inl ⟨event, rfl⟩)
            cases read with
            | generation => exact absurd behind (by decide)
            | stopEpoch => exact absurd behind (by decide)
            | token => exact absurd told current
        | arrival answer =>
            have behind := before (.inr ⟨answer, rfl⟩)
            cases read with
            | generation => exact absurd behind (by decide)
            | stopEpoch => exact absurd behind (by decide)
            | token => exact absurd told current

theorem index_bounds (read : CancellationRead) : 1 ≤ read.index ∧ read.index ≤ 3 := by
  cases read <;> decide

/-- **A caller that will be told hands nothing on**, and comes no further. -/
theorem callerStep_told {choice : CallerChoice} (told : read.detects memory call)
    (early : call.caller.progress ≤ read.index)
    (taken : call.callerStep memory choice = some (memory', call')) :
    call'.forwarded = call.forwarded ∧ call'.caller.progress ≤ read.index := by
  have bounds := index_bounds read
  rcases callerStep_stream taken with ⟨event, sink, here, _⟩ | quiet
  · have far : call.caller.progress = 4 := by
      rw [here]
      rfl
    omega
  · refine ⟨quiet.forwarded, ?_⟩
    rcases quiet.steady with slow | ⟨point, next, here⟩
    · omega
    · have moved := check_told here told early
      unfold callerStep at taken
      simp only [here] at taken
      rw [Option.some.inj taken] at moved
      exact moved

/-- A later state of a call that has not passed the read. -/
structure Behind (read : CancellationRead) (call call' : IsolatedCall P V) : Prop where
  engineId : call'.engineId = call.engineId
  generation : call'.generation = call.generation
  stopEpoch : call'.stopEpoch = call.stopEpoch
  token : call.token = some true → call'.token = some true
  loaded : call'.caller.loads = false
  forwarded : call'.forwarded = call.forwarded
  early : call'.caller.progress ≤ read.index

theorem Behind.detects (behind : Behind read call call') (told : read.detects memory call) :
    read.detects memory call' := by
  cases read with
  | generation =>
      rw [CancellationRead.detects, behind.generation]
      exact told
  | stopEpoch =>
      rw [CancellationRead.detects, behind.engineId, behind.stopEpoch]
      exact told
  | token => exact behind.token told

/-- A step of one of the threads. -/
theorem Behind.frame (behind : Behind read call call') (frame : Frame memory call' memory' call'')
    (forwarded : call''.forwarded = call'.forwarded)
    (early : call''.caller.progress ≤ read.index) : Behind read call call'' where
  engineId := frame.engineId.trans behind.engineId
  generation := frame.generation.trans behind.generation
  stopEpoch := by
    rcases frame.stopEpoch with same | ⟨loads, _⟩
    · exact same.trans behind.stopEpoch
    · cases behind.loaded.symm.trans loads
  token cancelled := frame.token.trans (behind.token cancelled)
  loaded := by
    cases loads : call''.caller.loads with
    | false => rfl
    | true => cases behind.loaded.symm.trans (frame.loaded loads)
  forwarded := forwarded.trans behind.forwarded
  early := early

theorem Behind.emit {event : IsolatedStreamEvent P} (behind : Behind read call call')
    (taken : call'.emit event = some call'') : Behind read call call'' := by
  obtain ⟨events, emitted, rfl⟩ := emit_same taken
  exact ⟨behind.engineId, behind.generation, behind.stopEpoch, behind.token, behind.loaded,
    behind.forwarded, behind.early⟩

end IsolatedCall

/-! ## Runs -/

/-- An event that sets the generation to this one. -/
def IsolationEvent.restores (generation : Nat) : IsolationEvent P V → Bool
  | .setGeneration current => current == generation
  | _ => false

/-- An event that stops an engine. -/
def IsolationEvent.stops (engineId : String) : IsolationEvent P V → Bool
  | .stop stopped => stopped == engineId
  | _ => false

/-- The event cancels the call at this index, and this read tells it. -/
def IsolationEvent.cancels (index : Nat) (call : IsolatedCall P V) :
    IsolationEvent P V → Option CancellationRead
  | .setGeneration current => if current ≠ call.generation then some .generation else none
  | .stop engineId => if engineId = call.engineId then some .stopEpoch else none
  | .cancelToken other => if other = index ∧ call.token.isSome then some .token else none
  | _ => none

/-- What a read tells stays told: the generation does not come back, and the stop epoch of the
engine does not wrap. -/
def CancellationRead.lasts (call : IsolatedCall P V) (whole after : List (IsolationEvent P V)) :
    CancellationRead → Prop
  | .generation => ∀ event ∈ after, event.restores call.generation = false
  | .stopEpoch => whole.countP (IsolationEvent.stops call.engineId) < 2 ^ 64
  | .token => True

namespace IsolationState

variable {state next final : IsolationState P V} {event : IsolationEvent P V}
  {events : List (IsolationEvent P V)} {read : CancellationRead} {index n : Nat}
  {call : IsolatedCall P V} {engineId : String} {generation : Nat}

/-- What a step does to what cancels calls. -/
theorem step_memory (taken : state.step event = some next) :
    next.memory.generation = state.memory.generation ∧
        next.memory.stopEpoch = state.memory.stopEpoch ∨
      (∃ current, event = .setGeneration current ∧ next.memory.generation = current ∧
        next.memory.stopEpoch = state.memory.stopEpoch) ∨
      ∃ engineId, event = .stop engineId ∧ next.memory.generation = state.memory.generation ∧
        next.memory.stopEpoch = Function.update state.memory.stopEpoch engineId
          (wrappingAdd 64 (state.memory.stopEpoch engineId) 1) := by
  cases event with
  | begins engineId streaming parameters token =>
      cases taken
      exact .inl ⟨rfl, rfl⟩
  | caller index choice =>
      obtain ⟨call, found, more⟩ := Option.bind_eq_some_iff.mp taken
      obtain ⟨⟨memory, call'⟩, step, rfl⟩ := Option.map_eq_some_iff.mp more
      have frame := IsolatedCall.callerStep_frame step
      exact .inl ⟨frame.current, frame.epochs⟩
  | task index answer =>
      obtain ⟨call, found, more⟩ := Option.bind_eq_some_iff.mp taken
      obtain ⟨⟨memory, call'⟩, step, rfl⟩ := Option.map_eq_some_iff.mp more
      have frame := IsolatedCall.taskStep_frame step
      exact .inl ⟨frame.current, frame.epochs⟩
  | emit index event =>
      obtain ⟨call, found, more⟩ := Option.bind_eq_some_iff.mp taken
      obtain ⟨call', step, rfl⟩ := Option.map_eq_some_iff.mp more
      exact .inl ⟨rfl, rfl⟩
  | cancelToken index =>
      obtain ⟨call, found, rfl⟩ := Option.map_eq_some_iff.mp taken
      exact .inl ⟨rfl, rfl⟩
  | setGeneration current =>
      cases taken
      exact .inr (.inl ⟨current, rfl, rfl, rfl⟩)
  | stop engineId =>
      cases taken
      exact .inr (.inr ⟨engineId, rfl, rfl, rfl⟩)
  | prepareRecoveryProbe engineId =>
      cases taken
      exact .inl ⟨rfl, rfl⟩

/-- A generation that is over does not come back by itself. -/
theorem run_generation (over' : state.memory.generation ≠ generation)
    (never : ∀ event ∈ events, event.restores generation = false)
    (run : runSteps step state events = some final) : final.memory.generation ≠ generation := by
  induction events generalizing state with
  | nil =>
      cases run
      exact over'
  | cons event rest ih =>
      obtain ⟨next, taken, further⟩ := runSteps_cons run
      refine ih ?_ (fun later member => never later (List.mem_cons_of_mem _ member)) further
      rcases step_memory taken with ⟨same, _⟩ | ⟨current, rfl, same, _⟩ | ⟨_, _, same, _⟩
      · rw [same]
        exact over'
      · rw [same]
        exact beq_eq_false_iff_ne.mp (never _ List.mem_cons_self)
      · rw [same]
        exact over'

/-- The stop epoch of an engine is the number of its stops, and no call has read a later
one. -/
structure Epochs (engineId : String) (n : Nat) (state : IsolationState P V) : Prop where
  exactly : state.memory.stopEpoch engineId = n
  older : ∀ call ∈ state.calls, call.engineId = engineId → call.stopEpoch ≤ n

theorem Epochs.set {memory : IsolationMemory} {call' : IsolatedCall P V}
    (epochs : state.Epochs engineId n) (found : state.calls[index]? = some call)
    (frame : IsolatedCall.Frame state.memory call memory call') :
    (state.replace index (memory, call')).Epochs engineId n where
  exactly := (congrFun frame.epochs engineId).trans epochs.exactly
  older other member same := by
    rcases List.mem_or_eq_of_mem_set member with before | rfl
    · exact epochs.older other before same
    · rw [frame.engineId] at same
      rcases frame.stopEpoch with kept | ⟨_, loaded⟩
      · rw [kept]
        exact epochs.older call (List.mem_of_getElem? found) same
      · rw [loaded, same]
        exact epochs.exactly.le

theorem step_epochs (epochs : state.Epochs engineId n)
    (few : n + (event.stops engineId).toNat < 2 ^ 64) (taken : state.step event = some next) :
    next.Epochs engineId (n + (event.stops engineId).toNat) := by
  cases event with
  | begins other streaming parameters token =>
      cases taken
      refine ⟨epochs.exactly, fun call member same => ?_⟩
      rcases List.mem_append.mp member with before | own
      · exact epochs.older call before same
      · rw [List.mem_singleton.mp own]
        exact Nat.zero_le _
  | caller index choice =>
      obtain ⟨call, found, more⟩ := Option.bind_eq_some_iff.mp taken
      obtain ⟨⟨memory, call'⟩, step, rfl⟩ := Option.map_eq_some_iff.mp more
      exact epochs.set found (IsolatedCall.callerStep_frame step)
  | task index answer =>
      obtain ⟨call, found, more⟩ := Option.bind_eq_some_iff.mp taken
      obtain ⟨⟨memory, call'⟩, step, rfl⟩ := Option.map_eq_some_iff.mp more
      exact epochs.set found (IsolatedCall.taskStep_frame step)
  | emit index event =>
      obtain ⟨call, found, more⟩ := Option.bind_eq_some_iff.mp taken
      obtain ⟨call', step, rfl⟩ := Option.map_eq_some_iff.mp more
      refine ⟨epochs.exactly, fun other member same => ?_⟩
      rcases List.mem_or_eq_of_mem_set member with before | rfl
      · exact epochs.older other before same
      · obtain ⟨events, emitted, rfl⟩ := IsolatedCall.emit_same step
        exact epochs.older call (List.mem_of_getElem? found) same
  | cancelToken index =>
      obtain ⟨call, found, rfl⟩ := Option.map_eq_some_iff.mp taken
      refine ⟨epochs.exactly, fun other member same => ?_⟩
      rcases List.mem_or_eq_of_mem_set member with before | rfl
      · exact epochs.older other before same
      · exact epochs.older call (List.mem_of_getElem? found) same
  | setGeneration current =>
      cases taken
      exact ⟨epochs.exactly, epochs.older⟩
  | prepareRecoveryProbe other =>
      cases taken
      exact ⟨epochs.exactly, epochs.older⟩
  | stop stopped =>
      cases taken
      by_cases own : stopped = engineId
      · subst own
        have one :
            (IsolationEvent.stops stopped (.stop stopped : IsolationEvent P V)).toNat = 1 := by
          rw [IsolationEvent.stops, beq_self_eq_true]
          rfl
        rw [one] at few ⊢
        refine ⟨?_, fun call member same => (epochs.older call member same).trans (Nat.le_succ n)⟩
        simp only [Function.update_self, epochs.exactly]
        exact wrappingAdd_of_lt few
      · have none :
            (IsolationEvent.stops engineId (.stop stopped : IsolationEvent P V)).toNat = 0 := by
          rw [IsolationEvent.stops, beq_eq_false_iff_ne.mpr own]
          rfl
        rw [none]
        refine ⟨?_, epochs.older⟩
        simp only [Function.update_of_ne (Ne.symm own), epochs.exactly, Nat.add_zero]

theorem run_epochs (epochs : state.Epochs engineId n)
    (few : n + events.countP (IsolationEvent.stops engineId) < 2 ^ 64)
    (run : runSteps step state events = some final) :
    final.Epochs engineId (n + events.countP (IsolationEvent.stops engineId)) := by
  induction events generalizing state n with
  | nil =>
      cases run
      exact epochs
  | cons event rest ih =>
      obtain ⟨next, taken, further⟩ := runSteps_cons run
      have counted : (event :: rest).countP (IsolationEvent.stops engineId) =
          (event.stops engineId).toNat + rest.countP (IsolationEvent.stops engineId) := by
        rw [List.countP_cons, Nat.add_comm]
        cases event.stops engineId <;> rfl
      rw [counted, ← Nat.add_assoc] at few ⊢
      exact ih (step_epochs epochs (by omega) taken) few further

/-! ## What happens to a call that is told -/

/-- The call at this index has not passed the read. -/
def Follows (read : CancellationRead) (index : Nat) (call : IsolatedCall P V)
    (state : IsolationState P V) : Prop :=
  ∃ call', state.calls[index]? = some call' ∧ call.Behind read call'

theorem follows_set {memory : IsolationMemory} {other call' : IsolatedCall P V} {place : Nat}
    (follows : state.Follows read index call) (found : state.calls[place]? = some other)
    (moved : call.Behind read other → call.Behind read call') :
    (state.replace place (memory, call')).Follows read index call := by
  obtain ⟨current, there, behind⟩ := follows
  by_cases own : place = index
  · subst own
    cases found.symm.trans there
    obtain ⟨inside, _⟩ := List.getElem?_eq_some_iff.mp found
    exact ⟨call', List.getElem?_set_self inside, moved behind⟩
  · exact ⟨current, (List.getElem?_set_ne own).trans there, behind⟩

/-- **Every step leaves a call that is told where it is.** -/
theorem step_follows (follows : state.Follows read index call)
    (told : read.detects state.memory call) (taken : state.step event = some next) :
    next.Follows read index call := by
  cases event with
  | begins engineId streaming parameters token =>
      cases taken
      obtain ⟨current, there, behind⟩ := follows
      obtain ⟨inside, _⟩ := List.getElem?_eq_some_iff.mp there
      exact ⟨current, (List.getElem?_append_left inside).trans there, behind⟩
  | caller place choice =>
      obtain ⟨other, found, more⟩ := Option.bind_eq_some_iff.mp taken
      obtain ⟨⟨memory, call'⟩, step, rfl⟩ := Option.map_eq_some_iff.mp more
      refine follows_set follows found fun behind => ?_
      obtain ⟨forwarded, early⟩ :=
        IsolatedCall.callerStep_told (behind.detects told) behind.early step
      exact behind.frame (IsolatedCall.callerStep_frame step) forwarded early
  | task place answer =>
      obtain ⟨other, found, more⟩ := Option.bind_eq_some_iff.mp taken
      obtain ⟨⟨memory, call'⟩, step, rfl⟩ := Option.map_eq_some_iff.mp more
      refine follows_set follows found fun behind => ?_
      have same := (IsolatedCall.taskStep_eq step).1
      refine behind.frame (IsolatedCall.taskStep_frame step) ?_ ?_
      · rw [same]
        rfl
      · rw [same]
        exact behind.early
  | emit place event =>
      obtain ⟨other, found, more⟩ := Option.bind_eq_some_iff.mp taken
      obtain ⟨call', step, rfl⟩ := Option.map_eq_some_iff.mp more
      exact follows_set follows found fun behind => behind.emit step
  | cancelToken place =>
      obtain ⟨other, found, rfl⟩ := Option.map_eq_some_iff.mp taken
      refine follows_set follows found fun behind => ?_
      refine ⟨behind.engineId, behind.generation, behind.stopEpoch, fun cancelled => ?_,
        behind.loaded, behind.forwarded, behind.early⟩
      rw [behind.token cancelled]
      rfl
  | setGeneration current =>
      cases taken
      exact follows
  | stop engineId =>
      cases taken
      exact follows
  | prepareRecoveryProbe engineId =>
      cases taken
      exact follows

/-- **Every run leaves it there** while it is told. -/
theorem run_follows (follows : state.Follows read index call)
    (told : ∀ earlier later middle, events = earlier ++ later →
      runSteps step state earlier = some middle → read.detects middle.memory call)
    (run : runSteps step state events = some final) : final.Follows read index call := by
  induction events generalizing state with
  | nil =>
      cases run
      exact follows
  | cons event rest ih =>
      obtain ⟨next, taken, further⟩ := runSteps_cons run
      refine ih (step_follows follows (told [] _ state rfl rfl) taken) ?_ further
      intro earlier later middle split reached
      refine told (event :: earlier) later middle (congrArg (event :: ·) split) ?_
      rw [runSteps, taken]
      exact reached

/-- The call behind the event that cancels it, and that its read tells. -/
theorem told_of_cancels {cause : IsolationEvent P V} (found : state.calls[index]? = some call)
    (cancels : cause.cancels index call = some read) (taken : state.step cause = some next) :
    ∃ call', next.calls[index]? = some call' ∧ call'.forwarded = call.forwarded ∧
      call'.caller = call.caller ∧ call'.engineId = call.engineId ∧
      call'.generation = call.generation ∧ call'.stopEpoch = call.stopEpoch ∧
      (read = .generation ∧ next.memory.generation ≠ call.generation ∨
        read = .stopEpoch ∧ cause.stops call.engineId = true ∨
        read = .token ∧ call'.token = some true) := by
  cases cause with
  | setGeneration current =>
      rw [IsolationEvent.cancels] at cancels
      split at cancels
      · rename_i other
        cases cancels
        cases taken
        exact ⟨call, found, rfl, rfl, rfl, rfl, rfl, .inl ⟨rfl, other⟩⟩
      · cases cancels
  | stop engineId =>
      rw [IsolationEvent.cancels] at cancels
      split at cancels
      · rename_i own
        cases cancels
        cases taken
        exact ⟨call, found, rfl, rfl, rfl, rfl, rfl, .inr (.inl ⟨rfl, beq_iff_eq.mpr own⟩)⟩
      · cases cancels
  | cancelToken other =>
      rw [IsolationEvent.cancels] at cancels
      split at cancels
      · rename_i both
        obtain ⟨rfl, given⟩ := both
        cases cancels
        obtain ⟨token, present⟩ := Option.isSome_iff_exists.mp given
        obtain ⟨current, there, rfl⟩ := Option.map_eq_some_iff.mp taken
        cases found.symm.trans there
        obtain ⟨inside, _⟩ := List.getElem?_eq_some_iff.mp found
        refine ⟨_, List.getElem?_set_self inside, rfl, rfl, rfl, rfl, rfl, .inr (.inr ⟨rfl, ?_⟩)⟩
        simp only [present, Option.map_some]
      · cases cancels
  | begins engineId streaming parameters token => cases cancels
  | caller place choice => cases cancels
  | task place answer => cases cancels
  | emit place event => cases cancels
  | prepareRecoveryProbe engineId => cases cancels

end IsolationState

/-- A caller has received audio, and has not yet read the generation behind it. -/
def receivedAudio : List (IsolationEvent Nat Nat) :=
  .begins "espeak" true none none ::
    (IsolationEvent.callerSteps 0 14 ++ .emit 0 (.audio 7) :: IsolationEvent.callerSteps 0 1)

end Omnivox.Execution
