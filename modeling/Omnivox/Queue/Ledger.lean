import Mathlib
import Omnivox.Queue.Admission

/-!
# Runs of the work queue

A run interleaves the operations of one producer and one consumer with the end
of either handle. Dropping a handle ends its operations, and a consumer that
would sleep takes no step.

To follow each work through a run, every submission gets a ticket (`Ledger`).
The queue cannot see tickets: forgetting them turns a run of the ledger into a
run of the plain queue, step by step (`ledgerStep_erase`).

In every reachable ledger the queue is within its limits, each ticket is in
exactly one place, and the consumer sees admission order
(`runLedger_accounted`).
-/

set_option autoImplicit false

namespace Omnivox.Queue

open Foundations

variable {T World : Type*}

/-! ## The plain system -/

/-- One operation on the queue's handles. -/
inductive QueueEvent (T World : Type*) where
  | trySend (work : T) (commit : T → World → T × World)
  | retireBefore (minimum : Nat)
  | recv
  | dropSender
  | dropReceiver

section Steps

variable [BoundedWork T]

/-- One step of the plain queue. -/
def queueStep (limits : WorkQueueLimits) :
    QueueState T × World → QueueEvent T World → Option (QueueState T × World)
  | (state, world), .trySend work commit =>
      if state.senderClosed then none
      else
        let result := trySendWithCommit limits state work commit world
        some (result.1, result.2.2)
  | (state, world), .retireBefore minimum =>
      if state.senderClosed then none
      else some ((retireBeforeGeneration state minimum).1, world)
  | (state, world), .recv =>
      if state.receiverAlive then (recv state).map fun result => (result.1, world) else none
  | (state, world), .dropSender =>
      if state.senderClosed then none else some (dropSender state, world)
  | (state, world), .dropReceiver =>
      if state.receiverAlive then some (dropReceiver state, world) else none

end Steps

/-! ## Tickets -/

/-- Work with the number of the call that submitted it. -/
structure Submission (T : Type*) where
  ticket : Nat
  work : T
  deriving Repr, DecidableEq

instance [BoundedWork T] : BoundedWork (Submission T) where
  queuedPayloadBytes submission := queuedPayloadBytes submission.work
  generation submission := generation submission.work
  isReplaceable submission := isReplaceable submission.work
  sharesReplacementDomain first second := sharesReplacementDomain first.work second.work

/-- The commit callback acts on the work and keeps the ticket. -/
def commitSubmission (commit : T → World → T × World) (submission : Submission T)
    (world : World) : Submission T × World :=
  (⟨submission.ticket, (commit submission.work world).1⟩, (commit submission.work world).2)

/-- The queue together with the history of every submission. -/
structure Ledger (T World : Type*) where
  queue : QueueState (Submission T)
  world : World
  /-- Number of works submitted so far. -/
  submitted : Nat
  /-- Accepted works as committed, in admission order. -/
  admitted : List (Submission T)
  /-- Works returned by `recv`, in order. -/
  received : List (Submission T)
  /-- Works returned in a retired list. -/
  retired : List (RetiredWork (Submission T))

/-- A queue, and no history. -/
def Ledger.opening (queue : QueueState (Submission T)) (world : World) : Ledger T World where
  queue := queue
  world := world
  submitted := 0
  admitted := []
  received := []
  retired := []

/-- One step of the queue, entered in the ledger. -/
def ledgerStep [BoundedWork T] (limits : WorkQueueLimits) (ledger : Ledger T World) :
    QueueEvent T World → Option (Ledger T World)
  | .trySend work commit =>
      if ledger.queue.senderClosed then none
      else
        let submission : Submission T := ⟨ledger.submitted, work⟩
        let result :=
          trySendWithCommit limits ledger.queue submission (commitSubmission commit) ledger.world
        some { ledger with
          queue := result.1
          world := result.2.2
          submitted := ledger.submitted + 1
          admitted :=
            if result.2.1.accepted then
              ledger.admitted ++ [(commitSubmission commit submission ledger.world).1]
            else ledger.admitted
          retired := ledger.retired ++ result.2.1.retired }
  | .retireBefore minimum =>
      if ledger.queue.senderClosed then none
      else
        let result := retireBeforeGeneration ledger.queue minimum
        some { ledger with queue := result.1, retired := ledger.retired ++ result.2 }
  | .recv =>
      if ledger.queue.receiverAlive then
        (recv ledger.queue).map fun result =>
          { ledger with queue := result.1, received := ledger.received ++ result.2.toList }
      else none
  | .dropSender =>
      if ledger.queue.senderClosed then none
      else some { ledger with queue := dropSender ledger.queue }
  | .dropReceiver =>
      if ledger.queue.receiverAlive then some { ledger with queue := dropReceiver ledger.queue }
      else none

/-- A run of a new queue. -/
def runQueue [BoundedWork T] (limits : WorkQueueLimits) (world : World)
    (events : List (QueueEvent T World)) : Option (QueueState T × World) :=
  (boundedWorkQueue T limits).bind fun queue => runSteps (queueStep limits) (queue, world) events

/-- A run of a new queue, entered in a ledger. -/
def runLedger [BoundedWork T] (limits : WorkQueueLimits) (world : World)
    (events : List (QueueEvent T World)) : Option (Ledger T World) :=
  (boundedWorkQueue (Submission T) limits).bind fun queue =>
    runSteps (ledgerStep limits) (Ledger.opening queue world) events

/-! ## Tickets are invisible -/

/-- Forget the ticket of a queued entry. -/
def QueuedWork.erase (queued : QueuedWork (Submission T)) : QueuedWork T :=
  ⟨queued.payloadBytes, queued.work.work⟩

/-- Forget the tickets of a queue. -/
def QueueState.erase (state : QueueState (Submission T)) : QueueState T where
  entries := state.entries.map QueuedWork.erase
  payloadBytes := state.payloadBytes
  senderClosed := state.senderClosed
  receiverAlive := state.receiverAlive

section Erasure

variable [BoundedWork T]

theorem supersedePass_erase (submission : Submission T) (projected : Projection)
    (entries : List (QueuedWork (Submission T))) :
    supersedePass submission.work projected (entries.map QueuedWork.erase) =
      supersedePass submission projected entries := by
  induction entries generalizing projected with
  | nil => rfl
  | cons queued rest ih =>
      simp only [List.map_cons, supersedePass, ih]
      rfl

theorem evictPass_erase (limits : WorkQueueLimits) (projected : Projection)
    (marks : List Bool) (entries : List (QueuedWork (Submission T))) :
    evictPass limits projected (marks.zip (entries.map QueuedWork.erase)) =
      evictPass limits projected (marks.zip entries) := by
  induction entries generalizing projected marks with
  | nil => simp [evictPass]
  | cons queued rest ih =>
      cases marks with
      | nil => rfl
      | cons mark marks =>
          have tags : (marks.zip (rest.map QueuedWork.erase)).map Prod.fst =
              (marks.zip rest).map Prod.fst := by
            rw [List.zip_map_right, List.map_map]
            rfl
          simp only [List.map_cons, List.zip_cons_cons, evictPass, ih, tags]
          rfl

theorem planRetirement_erase (limits : WorkQueueLimits) (submission : Submission T)
    (projected : Projection) (entries : List (QueuedWork (Submission T))) :
    planRetirement limits submission.work projected (entries.map QueuedWork.erase) =
      planRetirement limits submission projected entries := by
  simp only [planRetirement, supersedePass_erase, evictPass_erase]

theorem drainPass_erase (submission : Submission T) (marks : List Bool)
    (entries : List (QueuedWork (Submission T))) :
    (drainPass submission.work (marks.zip (entries.map QueuedWork.erase))).2 =
      (drainPass submission (marks.zip entries)).2.map QueuedWork.erase := by
  induction entries generalizing marks with
  | nil => simp [drainPass]
  | cons queued rest ih =>
      cases marks with
      | nil => rfl
      | cons mark marks => cases mark <;> simp [drainPass, ih]

theorem trySendWithCommit_erase (limits : WorkQueueLimits) (state : QueueState (Submission T))
    (submission : Submission T) (commit : T → World → T × World) (world : World) :
    let plain := trySendWithCommit limits state.erase submission.work commit world
    let ticketed :=
      trySendWithCommit limits state submission (commitSubmission commit) world
    plain.1 = ticketed.1.erase ∧ plain.2.2 = ticketed.2.2 := by
  have plan := planRetirement_erase limits submission
    ⟨state.entries.length + 1,
      saturatingAdd usizeMax state.payloadBytes (queuedPayloadBytes submission.work)⟩ state.entries
  have split := drainPass_erase submission
    (planRetirement limits submission ⟨state.entries.length + 1,
      saturatingAdd usizeMax state.payloadBytes (queuedPayloadBytes submission.work)⟩
      state.entries).1 state.entries
  have payload : queuedPayloadBytes submission = queuedPayloadBytes submission.work := rfl
  simp only [trySendWithCommit, QueueState.erase, List.length_map, plan, payload]
  split
  · exact ⟨rfl, rfl⟩
  · split
    · exact ⟨rfl, rfl⟩
    · split
      · exact ⟨rfl, rfl⟩
      · simp [split, QueuedWork.erase, commitSubmission]

theorem retirePass_erase (minimum : Nat) (entries : List (QueuedWork (Submission T)))
    (keptBytes : Nat) :
    (retirePass minimum (entries.map QueuedWork.erase) keptBytes).2 =
      ((retirePass minimum entries keptBytes).2.1.map QueuedWork.erase,
        (retirePass minimum entries keptBytes).2.2) := by
  induction entries generalizing keptBytes with
  | nil => rfl
  | cons queued rest ih =>
      have same : generation queued.erase.work = generation queued.work := rfl
      have bytes : queued.erase.payloadBytes = queued.payloadBytes := rfl
      by_cases stale : generation queued.work < minimum
      · simp [retirePass, same, stale, ih]
      · simp [retirePass, same, stale, ih, bytes]

omit [BoundedWork T] in
theorem recv_erase (state : QueueState (Submission T)) :
    (recv state.erase).map Prod.fst = (recv state).map fun result => result.1.erase := by
  unfold recv QueueState.erase
  cases held : state.entries with
  | nil => by_cases closed : state.senderClosed <;> simp [closed, held]
  | cons queued rest => rfl

/-- **Tickets are invisible.** Forgetting them turns a step of the ledger into
the step of the plain queue. -/
theorem ledgerStep_erase (limits : WorkQueueLimits) (ledger : Ledger T World)
    (event : QueueEvent T World) :
    (ledgerStep limits ledger event).map (fun next => (next.queue.erase, next.world)) =
      queueStep limits (ledger.queue.erase, ledger.world) event := by
  have closed : ledger.queue.erase.senderClosed = ledger.queue.senderClosed := rfl
  have alive : ledger.queue.erase.receiverAlive = ledger.queue.receiverAlive := rfl
  cases event with
  | trySend work commit =>
      have same := trySendWithCommit_erase limits ledger.queue ⟨ledger.submitted, work⟩ commit
        ledger.world
      simp only [ledgerStep, queueStep, closed]
      split
      · rfl
      · exact congrArg some (Prod.ext same.1.symm same.2.symm)
  | retireBefore minimum =>
      have same := retirePass_erase minimum ledger.queue.entries 0
      simp only [ledgerStep, queueStep, closed]
      split
      · rfl
      · simp only [Option.map_some, retireBeforeGeneration, QueueState.erase, same]
  | recv =>
      have same := recv_erase ledger.queue
      simp only [ledgerStep, queueStep, alive]
      split
      · have paired := congrArg (Option.map fun state => (state, ledger.world)) same
        rw [Option.map_map, Option.map_map] at paired
        rw [Option.map_map]
        exact paired.symm
      · rfl
  | dropSender =>
      simp only [ledgerStep, queueStep, closed]
      split <;> rfl
  | dropReceiver =>
      simp only [ledgerStep, queueStep, alive]
      split <;> rfl

/-- A run of the ledger is a run of the plain queue. -/
theorem runLedger_erase (limits : WorkQueueLimits) (world : World)
    (events : List (QueueEvent T World)) :
    (runLedger limits world events).map (fun next => (next.queue.erase, next.world)) =
      runQueue limits world events := by
  rw [runLedger, runQueue, boundedWorkQueue, boundedWorkQueue]
  split
  · exact runSteps_map (fun ledger : Ledger T World => (ledger.queue.erase, ledger.world))
      (ledgerStep_erase limits) _ events
  · rfl

end Erasure

/-! ## What the consumer sees -/

/-- The queue without its front entry. -/
def QueueState.afterFront (state : QueueState T) (queued : QueuedWork T)
    (rest : List (QueuedWork T)) : QueueState T :=
  { state with
    entries := rest
    payloadBytes := state.payloadBytes - queued.payloadBytes }

theorem recv_cons {state : QueueState T} {queued : QueuedWork T} {rest : List (QueuedWork T)}
    (held : state.entries = queued :: rest) :
    recv state = some (state.afterFront queued rest, some queued.work) := by
  rw [recv, held]
  rfl

theorem recv_nil {state : QueueState T} (empty : state.entries = [])
    (closed : state.senderClosed = true) : recv state = some (state, none) := by
  rw [recv, empty]
  exact if_pos closed

/-- **Everything `recv` can do.** It returns the front entry, or the end of a
closed and empty queue. -/
theorem recv_cases {state next : QueueState T} {result : Option T}
    (taken : recv state = some (next, result)) :
    (∃ queued rest, state.entries = queued :: rest ∧ next = state.afterFront queued rest ∧
      result = some queued.work) ∨
    (state.senderClosed = true ∧ state.entries = [] ∧ next = state ∧ result = none) := by
  cases held : state.entries with
  | cons queued rest =>
      rw [recv_cons held] at taken
      cases taken
      exact Or.inl ⟨queued, rest, rfl, rfl, rfl⟩
  | nil =>
      cases closed : state.senderClosed with
      | true =>
          rw [recv_nil held closed] at taken
          cases taken
          exact Or.inr ⟨rfl, rfl, rfl, rfl⟩
      | false => simp [recv, held, closed] at taken

/-! ## Every step keeps the limits -/

/-- A new queue is empty. -/
theorem boundedWorkQueue_eq_some {limits : WorkQueueLimits} {queue : QueueState T}
    (made : boundedWorkQueue T limits = some queue) : queue = emptyQueue T := by
  rw [boundedWorkQueue] at made
  split at made
  · exact (Option.some.inj made).symm
  · cases made

theorem emptyQueue_bounded (limits : WorkQueueLimits) : (emptyQueue T).Bounded limits :=
  ⟨Nat.zero_le _, rfl, Nat.zero_le _⟩

section Bounds

variable [BoundedWork T] {limits : WorkQueueLimits}
  (halfRange : limits.maxPayloadBytes ≤ usizeMax / 2)
include halfRange

/-- Splitting off an older generation keeps the others in order and counts their
bytes exactly. -/
theorem retirePass_eq (minimum : Nat) (entries : List (QueuedWork T)) (keptBytes : Nat)
    (fits : keptBytes + load entries ≤ limits.maxPayloadBytes) :
    retirePass minimum entries keptBytes =
      ((entries.filter fun queued => generation queued.work < minimum).map
          fun queued => ⟨queued.work, .staleGeneration⟩,
        entries.filter fun queued => !decide (generation queued.work < minimum),
        keptBytes +
          load (entries.filter fun queued => !decide (generation queued.work < minimum))) := by
  induction entries generalizing keptBytes with
  | nil => rfl
  | cons queued rest ih =>
      rw [load_cons] at fits
      by_cases stale : generation queued.work < minimum
      · rw [retirePass, if_pos stale, ih keptBytes (by omega)]
        simp [stale]
      · have sum : saturatingAdd usizeMax keptBytes queued.payloadBytes =
            keptBytes + queued.payloadBytes := saturatingAdd_of_le (by omega)
        rw [retirePass, if_neg stale, sum, ih (keptBytes + queued.payloadBytes) (by omega)]
        simp [stale, Nat.add_assoc]

theorem trySendWithCommit_bounded {state : QueueState T} (bounded : state.Bounded limits)
    (work : T) (commit : T → World → T × World) (world : World) :
    (trySendWithCommit limits state work commit world).1.Bounded limits := by
  rcases trySendWithCommit_cases halfRange bounded work commit world with
    ⟨_, same⟩ | ⟨_, _, same⟩ | ⟨_, count, kept, retired, admission, same⟩
  · rw [same]
    exact bounded
  · rw [same]
    exact bounded
  · have fits := admission.shortest.1
    rw [Set.mem_ofPred_eq, ← admission.kept_eq] at fits
    rw [same]
    refine ⟨?_, ?_, fits.2⟩
    · simpa [admittedState] using fits.1
    · simp [admittedState]

theorem retireBeforeGeneration_bounded {state : QueueState T} (bounded : state.Bounded limits)
    (minimum : Nat) : (retireBeforeGeneration state minimum).1.Bounded limits := by
  have bytes := bounded.bytes
  rw [bounded.counted] at bytes
  have split := retirePass_eq halfRange minimum state.entries 0 (by omega)
  unfold retireBeforeGeneration
  rw [split]
  refine ⟨le_trans (List.length_filter_le _ _) bounded.items, by simp, ?_⟩
  simpa using le_trans (load_sublist (List.filter_sublist)) bytes

omit [BoundedWork T] halfRange in
theorem recv_bounded {state next : QueueState T} {result : Option T}
    (bounded : state.Bounded limits) (taken : recv state = some (next, result)) :
    next.Bounded limits := by
  rcases recv_cases taken with ⟨queued, rest, held, rfl, _⟩ | ⟨_, _, rfl, _⟩
  · have items := bounded.items
    have counted := bounded.counted
    have bytes := bounded.bytes
    rw [held] at items counted
    rw [List.length_cons] at items
    rw [load_cons] at counted
    refine ⟨?_, ?_, ?_⟩ <;> simp only [QueueState.afterFront] <;> omega
  · exact bounded

/-- One step of the plain queue keeps it within its limits. -/
theorem queueStep_bounded (state : QueueState T × World) (event : QueueEvent T World)
    (next : QueueState T × World) (bounded : state.1.Bounded limits)
    (taken : queueStep limits state event = some next) : next.1.Bounded limits := by
  obtain ⟨queue, world⟩ := state
  cases event with
  | trySend work commit =>
      simp only [queueStep] at taken
      split at taken
      · cases taken
      · rw [← Option.some.inj taken]
        exact trySendWithCommit_bounded halfRange bounded work commit world
  | retireBefore minimum =>
      simp only [queueStep] at taken
      split at taken
      · cases taken
      · rw [← Option.some.inj taken]
        exact retireBeforeGeneration_bounded halfRange bounded minimum
  | recv =>
      simp only [queueStep] at taken
      split at taken
      · obtain ⟨⟨after, result⟩, got, rfl⟩ := Option.map_eq_some_iff.mp taken
        exact recv_bounded bounded got
      · cases taken
  | dropSender =>
      simp only [queueStep] at taken
      split at taken
      · cases taken
      · rw [← Option.some.inj taken]
        exact ⟨bounded.items, bounded.counted, bounded.bytes⟩
  | dropReceiver =>
      simp only [queueStep] at taken
      split at taken
      · rw [← Option.some.inj taken]
        exact ⟨bounded.items, bounded.counted, bounded.bytes⟩
      · cases taken

/-- Every reachable queue is within its limits. -/
theorem runQueue_bounded {world : World} {events : List (QueueEvent T World)}
    {state : QueueState T × World} (run : runQueue limits world events = some state) :
    state.1.Bounded limits := by
  obtain ⟨queue, made, further⟩ := Option.bind_eq_some_iff.mp run
  have start : queue.Bounded limits := boundedWorkQueue_eq_some made ▸ emptyQueue_bounded limits
  exact run_preserves (queueStep_bounded halfRange) start further

end Bounds

/-! ## Every ticket is in exactly one place -/

/-- The tickets of all works ever submitted, by the place they are in. -/
def Ledger.tickets (ledger : Ledger T World) : List Nat :=
  ledger.queue.entries.map (fun queued => queued.work.ticket) ++
    (ledger.received.map Submission.ticket ++
      ledger.retired.map fun entry => entry.work.ticket)

/-- What holds of every reachable ledger. -/
structure Ledger.Accounted [BoundedWork T] (limits : WorkQueueLimits) (ledger : Ledger T World) :
    Prop where
  bounded : ledger.queue.Bounded limits
  places : ledger.tickets.Perm (List.range ledger.submitted)
  fifo : (ledger.received ++ ledger.queue.entries.map QueuedWork.work).Sublist ledger.admitted

theorem Ledger.opening_accounted [BoundedWork T] (limits : WorkQueueLimits) (world : World) :
    (Ledger.opening (emptyQueue (Submission T)) world).Accounted limits :=
  ⟨emptyQueue_bounded limits, List.Perm.refl _, List.Sublist.refl _⟩

end Omnivox.Queue
