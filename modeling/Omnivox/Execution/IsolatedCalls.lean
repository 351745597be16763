import Mathlib
import Omnivox.Execution.IsolationBudget
import Omnivox.Foundations.Bounded
import Omnivox.Synthesis.Contracts

/-!
# Isolated calls of native engines

A native synthesis runs in a thread of its own, so that the synthesis worker can leave an
obsolete one behind. The caller takes a lease of the budget, starts the thread, and polls for
its messages and for whatever cancels the call: the generation, the stop epoch of the engine,
and a token of the request. A stream sends events before its result, which the caller hands on
to the sink.

Every atomic access, every wait for the lock and every message is a step, and so is every
store from outside.
-/

set_option autoImplicit false

namespace Omnivox.Execution

open Foundations Synthesis

def ISOLATED_STREAM_EVENT_CAPACITY : Nat := 4

/-! ## Program points -/

/-- What a native stream sends before its result. -/
inductive IsolatedStreamEvent (P : Type) where
  | application (receipt : P)
  | start (start : P)
  | audio (audio : P)
  | markers (markers : P)
  deriving Repr, DecidableEq

/-- What a call ends with. A panic of the native call leaves no answer. -/
inductive IsolationOutcome (V : Type) where
  | answered (answer : Except TtsError V)
  | superseded
  | notAvailable
  | notStarted (error : String)
  | refused (error : TtsError)
  | incomplete
  | terminated

/-- The result of a call. -/
def IsolationOutcome.result {V : Type} (engineId : String) (streaming : Bool) :
    IsolationOutcome V → Except TtsError V
  | .answered answer => answer
  | .superseded => .error (.synthesisFailed
      s!"{engineId} synthesis was superseded; its result was discarded")
  | .notAvailable => .error .notAvailable
  | .notStarted error =>
      if streaming then .error (.synthesisFailed
        s!"could not start isolated {engineId} streaming synthesis: {error}")
      else .error (.synthesisFailed s!"could not start isolated {engineId} synthesis: {error}")
  | .refused error => .error error
  | .incomplete => .error (.synthesisFailed
      "Native stream completed without application and start metadata")
  | .terminated =>
      if streaming then .error (.synthesisFailed
        s!"isolated {engineId} streaming task terminated without a result")
      else .error (.synthesisFailed
        s!"isolated {engineId} synthesis task terminated without a result")

/-- Where a caller asks whether its call was cancelled. -/
inductive CheckPoint (P V : Type) where
  | pressure
  | admission
  | poll
  | event (event : IsolatedStreamEvent P)
  | arrival (answer : Except TtsError V)

/-- What is read for it, in this order. -/
inductive CancellationRead where
  | generation
  | stopEpoch
  | token
  deriving Repr, DecidableEq

inductive CallerStage (P V : Type) where
  | loading
  | locking
  | attempting
  | claimed
  | counting (current : Nat)
  | declining
  | pressed
  | asleep
  | granted
  | checking (point : CheckPoint P V) (read : CancellationRead)
  | admitted
  | spawning
  | restoring (error : String)
  | waiting
  | handling (event : IsolatedStreamEvent P)
  | deciding
  | stopping (outcome : IsolationOutcome V)
  | marking (outcome : IsolationOutcome V)
  | quarantining (outcome : IsolationOutcome V)
  | leaving (outcome : IsolationOutcome V)
  | releasing (stage : ReleaseStage) (outcome : IsolationOutcome V)
  | returned (outcome : IsolationOutcome V)

/-- The thread of the native call. There is no answer after a panic. -/
inductive TaskStage (V : Type) where
  | absent
  | running
  | finished (answer : Option (Except TtsError V))
  | releasing (stage : ReleaseStage) (answer : Option (Except TtsError V))
  | dropped (answer : Option (Except TtsError V))
  | ended (answer : Option (Except TtsError V))

/-- The caller still owns its end of the channel. -/
def CallerStage.receives {P V : Type} : CallerStage P V → Bool
  | .leaving _ | .releasing _ _ | .returned _ => false
  | _ => true

/-- What a caller has at a program point. -/
def CallerStage.role {P V : Type} : CallerStage P V → CallerRole
  | .loading | .locking | .asleep => .outside
  | .attempting | .pressed | .checking .pressure _ => .contending
  | .claimed | .counting _ | .declining => .claiming
  | .granted => .granted
  | .checking .admission _ | .admitted | .spawning | .restoring _ => .starting
  | .checking _ _ | .waiting | .handling _ | .deciding | .stopping _ | .marking _ | .leaving _ =>
      .holding
  | .quarantining _ => .quarantining
  | .releasing stage _ => .releasing stage
  | .returned _ => .gone

/-- What a native thread has. -/
def TaskStage.role {V : Type} : TaskStage V → TaskRole
  | .absent => .absent
  | .running | .finished _ => .holding
  | .releasing stage _ => .releasing stage
  | .dropped _ | .ended _ => .gone

/-- The native thread is gone without an answer, or on its way there. -/
def TaskStage.lost {V : Type} : TaskStage V → Bool
  | .finished none | .releasing _ none | .dropped none | .ended none => true
  | _ => false

/-- The next point of a caller that ends the lease. -/
def CallerStage.afterRelease {P V : Type} (outcome : IsolationOutcome V) :
    Option ReleaseStage → CallerStage P V
  | some stage => .releasing stage outcome
  | none => .returned outcome

/-- The next point of a native thread that ends the lease. -/
def TaskStage.afterRelease {V : Type} (answer : Option (Except TtsError V)) :
    Option ReleaseStage → TaskStage V
  | some stage => .releasing stage answer
  | none => .dropped answer

/-- One call with its two threads and their lease. `emitted` and `forwarded` are the events
that the native call has sent and the ones that the sink and the application have seen. -/
structure IsolatedCall (P V : Type) where
  engineId : String
  streaming : Bool
  parameters : Option (P → Except TtsError Unit)
  generation : Nat
  stopEpoch : Nat
  token : Option Bool
  caller : CallerStage P V
  task : TaskStage V
  prepareRecovery : Bool
  quarantined : Bool
  receiptSeen : Bool
  startSeen : Bool
  events : List (IsolatedStreamEvent P)
  emitted : List (IsolatedStreamEvent P)
  forwarded : List (IsolatedStreamEvent P)

/-- The budget, the recovery marks of the engines, and what cancels calls. -/
structure IsolationMemory where
  budget : IsolationBudget
  recoverBeforeNextCall : String → Bool
  generation : Nat
  stopEpoch : String → Nat

variable {P V : Type}

namespace IsolationMemory

/-- Nothing runs. -/
def new : IsolationMemory where
  budget := .new
  recoverBeforeNextCall := fun _ => false
  generation := 0
  stopEpoch := fun _ => 0

def setBudget (memory : IsolationMemory) (budget : IsolationBudget) : IsolationMemory :=
  { memory with budget := budget }

def setRecover (memory : IsolationMemory) (engineId : String) (recover : Bool) :
    IsolationMemory :=
  { memory with recoverBeforeNextCall :=
      Function.update memory.recoverBeforeNextCall engineId recover }

end IsolationMemory

/-! ## Events of a native stream -/

namespace IsolatedCall

/-- The call at another program point of its caller. -/
def goTo (call : IsolatedCall P V) (stage : CallerStage P V) : IsolatedCall P V :=
  { call with caller := stage }

/-- The call at another program point of its native thread. -/
def taskTo (call : IsolatedCall P V) (stage : TaskStage V) : IsolatedCall P V :=
  { call with task := stage }

def forward (call : IsolatedCall P V) (event : IsolatedStreamEvent P) : IsolatedCall P V :=
  { call with forwarded := call.forwarded ++ [event] }

/-- Both the receipt and the start came. -/
def metadataSeen (call : IsolatedCall P V) : Bool := call.receiptSeen && call.startSeen

/-- With native parameters, output comes behind the receipt and the start. -/
def outputAllowed (call : IsolatedCall P V) : Bool :=
  call.parameters.isNone || call.metadataSeen

/-- What the sink answers to output that is allowed. -/
def handleOutput (call : IsolatedCall P V) (event : IsolatedStreamEvent P)
    (sink : Except TtsError Unit) : IsolatedCall P V :=
  if call.outputAllowed then
    match sink with
    | .ok _ => (call.forward event).goTo (.checking .poll .generation)
    | .error error => (call.forward event).goTo (.stopping (.refused error))
  else
    call.goTo (.stopping (.refused (.synthesisFailed
      "Native output preceded application/start metadata")))

def validateReceipt (call : IsolatedCall P V) (receipt : P) : Except TtsError Unit :=
  match call.parameters with
  | none => .error (.synthesisFailed "Unexpected native application")
  | some validate => validate receipt

/-- A receipt is checked, and comes once, before the start. -/
def handleApplication (call : IsolatedCall P V) (receipt : P) : IsolatedCall P V :=
  match call.validateReceipt receipt with
  | .error error => call.goTo (.stopping (.refused error))
  | .ok _ =>
      if call.receiptSeen || call.startSeen then
        call.goTo (.stopping (.refused (.synthesisFailed "Repeated or late native application")))
      else
        ({ call with receiptSeen := true }.forward (.application receipt)).goTo
          (.checking .poll .generation)

/-- With native parameters, a start comes once, behind the receipt. -/
def handleStart (call : IsolatedCall P V) (start : P) (sink : Except TtsError Unit) :
    IsolatedCall P V :=
  if call.parameters.isSome && (!call.receiptSeen || call.startSeen) then
    call.goTo (.stopping (.refused (.synthesisFailed
      "Native stream start without one preceding application")))
  else
    match sink with
    | .ok _ =>
        ({ call with startSeen := true }.forward (.start start)).goTo (.checking .poll .generation)
    | .error error =>
        ({ call with startSeen := true }.forward (.start start)).goTo (.stopping (.refused error))

/-- Take an event. The answer of the sink matters only where the sink is called. -/
def handle (call : IsolatedCall P V) (sink : Except TtsError Unit) :
    IsolatedStreamEvent P → IsolatedCall P V
  | .application receipt => call.handleApplication receipt
  | .start start => call.handleStart start sink
  | .audio audio => call.handleOutput (.audio audio) sink
  | .markers markers => call.handleOutput (.markers markers) sink

/-- The result has arrived, and the call was not cancelled. -/
def conclude (call : IsolatedCall P V) : Except TtsError V → IsolationOutcome V
  | .error error => .answered (.error error)
  | .ok value =>
      if call.streaming && call.parameters.isSome && !call.metadataSeen then .incomplete
      else .answered (.ok value)

/-- The caller still owns its end of the channel. -/
def receives (call : IsolatedCall P V) : Bool := call.caller.receives

/-- The call as the budget sees it. -/
def lease (call : IsolatedCall P V) : Lease :=
  ⟨call.engineId, call.caller.role, call.task.role, call.quarantined⟩

end IsolatedCall

/-! ## Steps -/

/-- What the scheduler, the clock, the system and the sink decide for a caller. -/
inductive CallerChoice where
  | usual
  | other
  | systemError (error : String)
  | sink (answer : Except TtsError Unit)

namespace IsolatedCall

/-- A cancelled call leaves, or stops its native call when that already runs. -/
def whenCancelled (memory : IsolationMemory) (call : IsolatedCall P V) :
    CheckPoint P V → IsolationMemory × IsolatedCall P V
  | .pressure =>
      (memory.setBudget memory.budget.unlock, call.goTo (.returned .superseded))
  | .admission => (memory, call.goTo (.leaving .superseded))
  | .poll => (memory, call.goTo .deciding)
  | .event _ => (memory, call.goTo (.checking .poll .generation))
  | .arrival _ => (memory, call.goTo (.leaving .superseded))

def whenCurrent (memory : IsolationMemory) (call : IsolatedCall P V) :
    CheckPoint P V → IsolationMemory × IsolatedCall P V
  | .pressure => (memory, call.goTo .pressed)
  | .admission => (memory, call.goTo .admitted)
  | .poll => (memory, call.goTo .waiting)
  | .event event => (memory, call.goTo (.handling event))
  | .arrival answer => (memory, call.goTo (.leaving (call.conclude answer)))

/-- One read of `was_cancelled`. -/
def check (memory : IsolationMemory) (call : IsolatedCall P V) (point : CheckPoint P V) :
    CancellationRead → IsolationMemory × IsolatedCall P V
  | .generation =>
      if memory.generation ≠ call.generation then whenCancelled memory call point
      else (memory, call.goTo (.checking point .stopEpoch))
  | .stopEpoch =>
      if memory.stopEpoch call.engineId ≠ call.stopEpoch then whenCancelled memory call point
      else (memory, call.goTo (.checking point .token))
  | .token =>
      if call.token = some true then whenCancelled memory call point
      else whenCurrent memory call point

/-- Receive what is there. Without a message the wait times out, or the channel is closed. -/
def receive (call : IsolatedCall P V) (choice : CallerChoice) : IsolatedCall P V :=
  match call.events with
  | event :: rest => { call with events := rest }.goTo (.checking (.event event) .generation)
  | [] =>
      match call.task with
      | .ended (some answer) => call.goTo (.checking (.arrival answer) .generation)
      | .ended none => call.goTo (.leaving .terminated)
      | _ =>
          match choice with
          | .other =>
              if call.task.lost then call.goTo (.leaving .terminated)
              else call.goTo (.checking .poll .generation)
          | _ => call.goTo (.checking .poll .generation)

/-- A step of the caller. -/
def callerStep (call : IsolatedCall P V) (memory : IsolationMemory) (choice : CallerChoice) :
    Option (IsolationMemory × IsolatedCall P V) :=
  match call.caller with
  | .loading =>
      some (memory, { call with stopEpoch := memory.stopEpoch call.engineId }.goTo .locking)
  | .locking => memory.budget.lock.map fun budget =>
      (memory.setBudget budget, call.goTo .attempting)
  | .attempting =>
      if memory.budget.engineActive call.engineId then
        some (memory, call.goTo (.checking .pressure .generation))
      else
        some (memory.setBudget (memory.budget.setActive call.engineId true), call.goTo .claimed)
  | .claimed => some (memory, call.goTo (.counting memory.budget.inFlight))
  | .counting current =>
      if current ≥ MAX_ISOLATED_CALLS then some (memory, call.goTo .declining)
      else
        match choice with
        | .other => some (memory, call.goTo (.counting memory.budget.inFlight))
        | _ =>
            if memory.budget.inFlight = current then
              some (memory.setBudget { memory.budget with inFlight := current + 1 },
                call.goTo .granted)
            else some (memory, call.goTo (.counting memory.budget.inFlight))
  | .declining =>
      some (memory.setBudget (memory.budget.setActive call.engineId false),
        call.goTo (.checking .pressure .generation))
  | .pressed =>
      match choice with
      | .other => some (memory.setBudget memory.budget.unlock, call.goTo .asleep)
      | _ =>
          some (memory.setBudget memory.budget.unlock, call.goTo (.returned .notAvailable))
  | .asleep => memory.budget.lock.map fun budget =>
      (memory.setBudget budget, call.goTo .attempting)
  | .granted =>
      some (memory.setBudget memory.budget.unlock, call.goTo (.checking .admission .generation))
  | .checking point read => some (check memory call point read)
  | .admitted =>
      some (memory.setRecover call.engineId false,
        { call with prepareRecovery := memory.recoverBeforeNextCall call.engineId }.goTo .spawning)
  | .spawning =>
      match choice with
      | .systemError error => some (memory, call.goTo (.restoring error))
      | _ =>
          some (memory, (call.taskTo .running).goTo
            (if call.streaming then .checking .poll .generation else .waiting))
  | .restoring error =>
      some (if call.prepareRecovery then memory.setRecover call.engineId true else memory,
        call.goTo (.leaving (.notStarted error)))
  | .waiting => some (memory, call.receive choice)
  | .handling event =>
      match choice with
      | .sink answer => some (memory, call.handle answer event)
      | _ => some (memory, call.handle (.ok ()) event)
  | .deciding =>
      if memory.stopEpoch call.engineId ≠ call.stopEpoch then
        some (memory, call.goTo (.stopping .superseded))
      else
        match choice with
        | .other => some (memory, call.goTo .waiting)
        | _ => some (memory, call.goTo (.stopping .superseded))
  | .stopping outcome => some (memory, call.goTo (.marking outcome))
  | .marking outcome =>
      if call.quarantined then some (memory, call.goTo (.leaving outcome))
      else some (memory, { call with quarantined := true }.goTo (.quarantining outcome))
  | .quarantining outcome =>
      some (memory.setBudget { memory.budget with
        quarantined := wrappingAdd 64 memory.budget.quarantined 1 }, call.goTo (.leaving outcome))
  | .leaving outcome =>
      if call.task.role.holds then some (memory, call.goTo (.returned outcome))
      else some (memory, call.goTo (.releasing .locking outcome))
  | .releasing stage outcome =>
      (memory.budget.release call.engineId call.quarantined stage).map fun moved =>
        (memory.setBudget moved.1, call.goTo (.afterRelease outcome moved.2))
  | .returned _ => none

/-- A step of the native thread. A result has to find room among the events. -/
def taskStep (call : IsolatedCall P V) (memory : IsolationMemory)
    (answer : Option (Except TtsError V)) : Option (IsolationMemory × IsolatedCall P V) :=
  match call.task with
  | .absent => none
  | .running => some (memory, call.taskTo (.finished answer))
  | .finished answer =>
      if call.caller.role.holds then some (memory, call.taskTo (.dropped answer))
      else some (memory, call.taskTo (.releasing .locking answer))
  | .releasing stage answer =>
      (memory.budget.release call.engineId call.quarantined stage).map fun moved =>
        (memory.setBudget moved.1, call.taskTo (.afterRelease answer moved.2))
  | .dropped none => some (memory, call.taskTo (.ended none))
  | .dropped (some answer) =>
      if call.receives && call.events.length ≥ ISOLATED_STREAM_EVENT_CAPACITY then none
      else some (memory, call.taskTo (.ended (some answer)))
  | .ended _ => none

/-- The native call sends an event, which waits for room. Nobody receives the events of a call
that has returned. -/
def emit (call : IsolatedCall P V) (event : IsolatedStreamEvent P) : Option (IsolatedCall P V) :=
  match call.task with
  | .running =>
      if call.streaming then
        if call.receives then
          if call.events.length ≥ ISOLATED_STREAM_EVENT_CAPACITY then none
          else some { call with
            events := call.events ++ [event]
            emitted := call.emitted ++ [event] }
        else some { call with emitted := call.emitted ++ [event] }
      else none
  | _ => none

end IsolatedCall

/-! ## The system -/

/-- All calls that ever began. -/
structure IsolationState (P V : Type) where
  memory : IsolationMemory
  calls : List (IsolatedCall P V)

/-- What happens next: a call begins, one of its threads takes a step, or something outside
cancels it. -/
inductive IsolationEvent (P V : Type) where
  | begins (engineId : String) (streaming : Bool)
      (parameters : Option (P → Except TtsError Unit)) (token : Option Bool)
  | caller (index : Nat) (choice : CallerChoice)
  | task (index : Nat) (answer : Option (Except TtsError V))
  | emit (index : Nat) (event : IsolatedStreamEvent P)
  | cancelToken (index : Nat)
  | setGeneration (generation : Nat)
  | stop (engineId : String)
  | prepareRecoveryProbe (engineId : String)

/-- A call that has read the generation. -/
def IsolatedCall.begun (engineId : String) (streaming : Bool)
    (parameters : Option (P → Except TtsError Unit)) (generation : Nat) (token : Option Bool) :
    IsolatedCall P V where
  engineId := engineId
  streaming := streaming
  parameters := parameters
  generation := generation
  stopEpoch := 0
  token := token
  caller := .loading
  task := .absent
  prepareRecovery := false
  quarantined := false
  receiptSeen := false
  startSeen := false
  events := []
  emitted := []
  forwarded := []

namespace IsolationState

def new : IsolationState P V := ⟨.new, []⟩

/-- One call has taken a step. -/
def replace (state : IsolationState P V) (index : Nat)
    (moved : IsolationMemory × IsolatedCall P V) : IsolationState P V :=
  ⟨moved.1, state.calls.set index moved.2⟩

def step (state : IsolationState P V) : IsolationEvent P V → Option (IsolationState P V)
  | .begins engineId streaming parameters token =>
      some { state with calls := state.calls ++
        [.begun engineId streaming parameters state.memory.generation token] }
  | .caller index choice =>
      state.calls[index]?.bind fun call =>
        (call.callerStep state.memory choice).map (state.replace index)
  | .task index answer =>
      state.calls[index]?.bind fun call =>
        (call.taskStep state.memory answer).map (state.replace index)
  | .emit index event =>
      state.calls[index]?.bind fun call =>
        (call.emit event).map fun call => state.replace index (state.memory, call)
  | .cancelToken index =>
      state.calls[index]?.map fun call =>
        state.replace index (state.memory, { call with token := call.token.map fun _ => true })
  | .setGeneration generation =>
      some { state with memory := { state.memory with generation := generation } }
  | .stop engineId =>
      some { state with memory := { state.memory with
        stopEpoch := Function.update state.memory.stopEpoch engineId
          (wrappingAdd 64 (state.memory.stopEpoch engineId) 1) } }
  | .prepareRecoveryProbe engineId =>
      some { state with memory := state.memory.setRecover engineId true }

end IsolationState

end Omnivox.Execution
