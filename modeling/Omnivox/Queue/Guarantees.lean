import Mathlib
import Omnivox.Queue.Ledger

/-!
# What the work queue guarantees

Two results about every run of a new queue, with any works, commit callbacks
and interrupts.

The first is about the whole run (`runLedger_guarantees`): the limits hold, the
byte counter is exact, no submission is lost or duplicated, and the consumer
sees admission order and drains the queue before it sees the end.

The second is about one more submission (`trySend_after_run`): it is accepted
exactly when it fits, and a refusal leaves no trace.
-/

set_option autoImplicit false

namespace Omnivox.Queue

open Foundations

variable {T World : Type*} [BoundedWork T] {limits : WorkQueueLimits}

/-! ## The ledger stays accounted for -/

section Steps

variable (halfRange : limits.maxPayloadBytes ≤ usizeMax / 2)
include halfRange

/-- A submission takes the next ticket to the queue or to a retired list. -/
theorem ledgerStep_trySend_accounted {ledger next : Ledger T World} {work : T}
    {commit : T → World → T × World} (accounted : ledger.Accounted limits)
    (taken : ledgerStep limits ledger (.trySend work commit) = some next) :
    next.Accounted limits := by
  obtain ⟨bounded, places, fifo⟩ := accounted
  have kept := trySendWithCommit_bounded halfRange bounded (⟨ledger.submitted, work⟩ : Submission T)
    (commitSubmission commit) ledger.world
  simp only [ledgerStep] at taken
  split at taken
  · cases taken
  · rw [← Option.some.inj taken]
    refine ⟨kept, ?_, ?_⟩
    · rw [List.range_succ]
      rcases trySendWithCommit_cases halfRange bounded (⟨ledger.submitted, work⟩ : Submission T)
        (commitSubmission commit) ledger.world with
        ⟨_, same⟩ | ⟨_, _, same⟩ | ⟨_, count, remaining, retired, admission, same⟩
      · rw [same]
        have more := places.append_right [ledger.submitted]
        simpa [Ledger.tickets, rejected] using more
      · rw [same]
        have more := places.append_right [ledger.submitted]
        simpa [Ledger.tickets, rejected] using more
      · rw [same]
        have conserved := admission.conserved.map Submission.ticket
        simp only [List.map_append, List.map_map] at conserved
        refine List.Perm.trans ?_ (places.append_right [ledger.submitted])
        simp only [Ledger.tickets, admittedState, commitSubmission, List.map_append, List.map_cons,
          List.map_nil]
        rw [List.perm_iff_count] at conserved ⊢
        intro ticket
        have counted := conserved ticket
        simp only [List.count_append] at counted ⊢
        simp only [Function.comp_def] at counted
        omega
    · rcases trySendWithCommit_cases halfRange bounded (⟨ledger.submitted, work⟩ : Submission T)
        (commitSubmission commit) ledger.world with
        ⟨_, same⟩ | ⟨_, _, same⟩ | ⟨_, count, remaining, retired, admission, same⟩
      · rw [same]
        simpa [rejected] using fifo
      · rw [same]
        simpa [rejected] using fifo
      · have order : remaining.Sublist ledger.queue.entries := by
          rw [admission.kept_eq]
          exact (dropFirst_sublist _ count _).trans List.filter_sublist
        have queued := (((order.map QueuedWork.work).append_left ledger.received).trans fifo)
        rw [same]
        simpa [admittedState] using queued.append_right
          [(commitSubmission commit ⟨ledger.submitted, work⟩ ledger.world).1]

/-- An interrupt moves stale entries to the retired list. -/
theorem ledgerStep_retireBefore_accounted {ledger next : Ledger T World} {minimum : Nat}
    (accounted : ledger.Accounted limits)
    (taken : ledgerStep limits ledger (.retireBefore minimum) = some next) :
    next.Accounted limits := by
  obtain ⟨bounded, places, fifo⟩ := accounted
  have kept := retireBeforeGeneration_bounded halfRange bounded minimum
  have bytes := bounded.bytes
  rw [bounded.counted] at bytes
  have split := retirePass_eq halfRange minimum ledger.queue.entries 0 (by omega)
  simp only [ledgerStep] at taken
  split at taken
  · cases taken
  · rw [← Option.some.inj taken]
    refine ⟨kept, ?_, ?_⟩
    · have apart := (List.filter_append_perm
        (fun queued : QueuedWork (Submission T) => decide (generation queued.work < minimum))
        ledger.queue.entries).map fun queued => queued.work.ticket
      refine List.Perm.trans ?_ places
      simp only [Ledger.tickets, retireBeforeGeneration, split, List.map_append, List.map_map]
      rw [List.perm_iff_count] at apart ⊢
      intro ticket
      have counted := apart ticket
      simp only [List.map_append, List.count_append] at counted ⊢
      simp only [Function.comp_def]
      omega
    · simp only [retireBeforeGeneration, split]
      exact ((List.filter_sublist.map QueuedWork.work).append_left ledger.received).trans fifo

omit halfRange in
/-- The consumer takes the front entry, which is the next of the admission order. -/
theorem ledgerStep_recv_accounted {ledger next : Ledger T World}
    (accounted : ledger.Accounted limits)
    (taken : ledgerStep limits ledger .recv = some next) : next.Accounted limits := by
  obtain ⟨bounded, places, fifo⟩ := accounted
  simp only [ledgerStep] at taken
  split at taken
  · obtain ⟨⟨after, result⟩, got, rfl⟩ := Option.map_eq_some_iff.mp taken
    refine ⟨recv_bounded bounded got, ?_, ?_⟩
    · rcases recv_cases got with ⟨queued, rest, held, rfl, rfl⟩ | ⟨_, _, rfl, rfl⟩
      · rw [Ledger.tickets, held] at places
        refine List.Perm.trans ?_ places
        simp only [Ledger.tickets, QueueState.afterFront, Option.toList_some, List.map_append,
          List.map_cons, List.map_nil]
        rw [List.perm_iff_count]
        intro ticket
        simp only [List.count_append, List.count_cons, List.count_nil]
        omega
      · simpa [Ledger.tickets] using places
    · rcases recv_cases got with ⟨queued, rest, held, rfl, rfl⟩ | ⟨_, _, rfl, rfl⟩
      · rw [held] at fifo
        simpa [QueueState.afterFront] using fifo
      · simpa using fifo
  · cases taken

/-- **Every step keeps the ledger accounted for.** -/
theorem ledgerStep_accounted (ledger : Ledger T World) (event : QueueEvent T World)
    (next : Ledger T World) (accounted : ledger.Accounted limits)
    (taken : ledgerStep limits ledger event = some next) : next.Accounted limits := by
  cases event with
  | trySend work commit => exact ledgerStep_trySend_accounted halfRange accounted taken
  | retireBefore minimum => exact ledgerStep_retireBefore_accounted halfRange accounted taken
  | recv => exact ledgerStep_recv_accounted accounted taken
  | dropSender =>
      obtain ⟨bounded, places, fifo⟩ := accounted
      simp only [ledgerStep] at taken
      split at taken
      · cases taken
      · rw [← Option.some.inj taken]
        exact ⟨⟨bounded.items, bounded.counted, bounded.bytes⟩, places, fifo⟩
  | dropReceiver =>
      obtain ⟨bounded, places, fifo⟩ := accounted
      simp only [ledgerStep] at taken
      split at taken
      · rw [← Option.some.inj taken]
        exact ⟨⟨bounded.items, bounded.counted, bounded.bytes⟩, places, fifo⟩
      · cases taken

theorem runLedger_accounted {world : World} {events : List (QueueEvent T World)}
    {ledger : Ledger T World} (run : runLedger limits world events = some ledger) :
    ledger.Accounted limits := by
  obtain ⟨queue, made, further⟩ := Option.bind_eq_some_iff.mp run
  have start : (Ledger.opening queue world).Accounted limits :=
    boundedWorkQueue_eq_some made ▸ Ledger.opening_accounted limits world
  exact run_preserves (ledgerStep_accounted halfRange) start further

end Steps

/-! ## The end of a closed queue -/

/-- The consumer takes every entry left, in order, and then sees the end of a
closed queue. -/
theorem ledger_drains (limits : WorkQueueLimits) (ledger : Ledger T World)
    (closed : ledger.queue.senderClosed = true) (alive : ledger.queue.receiverAlive = true) :
    ∃ drained, runSteps (ledgerStep limits) ledger
        (List.replicate ledger.queue.entries.length .recv) = some drained ∧
      drained.received = ledger.received ++ ledger.queue.entries.map QueuedWork.work ∧
      recv drained.queue = some (drained.queue, none) := by
  induction held : ledger.queue.entries generalizing ledger with
  | nil => exact ⟨ledger, rfl, by simp, recv_nil held closed⟩
  | cons queued rest ih =>
      let next : Ledger T World :=
        { ledger with
          queue := ledger.queue.afterFront queued rest
          received := ledger.received ++ [queued.work] }
      have taken : ledgerStep limits ledger .recv = some next := by
        rw [ledgerStep, if_pos alive, recv_cons held]
        rfl
      obtain ⟨drained, run, received, ended⟩ := ih next closed alive rfl
      refine ⟨drained, ?_, ?_, ended⟩
      · rw [List.length_cons, List.replicate_succ, runSteps, taken]
        exact run
      · rw [received, List.map_cons]
        simp [next]

/-! ## A concrete work -/

/-- Work with an optional replacement domain. -/
structure FakeWork where
  id : Nat
  bytes : Nat
  generation : Nat
  domain : Option String
  deriving Repr, DecidableEq

instance : BoundedWork FakeWork where
  queuedPayloadBytes work := work.bytes
  generation work := work.generation
  isReplaceable work := work.domain.isSome
  sharesReplacementDomain first second := first.domain.isSome && first.domain == second.domain

def FakeWork.ordered (id bytes : Nat) : FakeWork := ⟨id, bytes, 1, none⟩

def FakeWork.replaceable (id bytes : Nat) (domain : String) : FakeWork :=
  ⟨id, bytes, 1, some domain⟩

/-- A commit that counts its calls in the world. -/
def countCommit (work : FakeWork) (calls : Nat) : FakeWork × Nat := (work, calls + 1)

/-- Replaceable work gives way to ordered work, the consumer takes one entry and
the sender leaves. -/
def pressureRun : List (QueueEvent FakeWork Nat) :=
  [.trySend (.replaceable 1 4 "navigation") countCommit, .trySend (.ordered 2 4) countCommit,
    .trySend (.ordered 3 6) countCommit, .recv, .dropSender]

def pressureLedger : Ledger FakeWork Nat where
  queue := ⟨[⟨6, ⟨2, .ordered 3 6⟩⟩], 6, true, true⟩
  world := 3
  submitted := 3
  admitted := [⟨0, .replaceable 1 4 "navigation"⟩, ⟨1, .ordered 2 4⟩, ⟨2, .ordered 3 6⟩]
  received := [⟨1, .ordered 2 4⟩]
  retired := [⟨⟨0, .replaceable 1 4 "navigation"⟩, .evictedForCapacity⟩]

theorem pressureRun_eq : runLedger ⟨2, 10⟩ 0 pressureRun = some pressureLedger := by rfl

/-! ## The guarantees -/

/-- **Every run of the work queue.** The limits hold and the cached byte counter
is exact. Every work ever submitted is in exactly one place: queued, returned by
`recv`, or returned in a retired list. The works returned are a subsequence of
the accepted ones in admission order. The consumer sees the end only of a closed
and empty queue, and of a closed queue it first sees every entry left. -/
theorem runLedger_guarantees (halfRange : limits.maxPayloadBytes ≤ usizeMax / 2)
    {world : World} {events : List (QueueEvent T World)} {ledger : Ledger T World}
    (run : runLedger limits world events = some ledger) :
    ledger.queue.entries.length ≤ limits.maxItems ∧
      ledger.queue.payloadBytes = (ledger.queue.entries.map QueuedWork.payloadBytes).sum ∧
      ledger.queue.payloadBytes ≤ limits.maxPayloadBytes ∧
      ledger.tickets.Perm (List.range ledger.submitted) ∧
      ledger.received.Sublist ledger.admitted ∧
      (∀ next, recv ledger.queue = some (next, none) →
        ledger.queue.senderClosed = true ∧ ledger.queue.entries = []) ∧
      (ledger.queue.senderClosed = true → ledger.queue.receiverAlive = true →
        ∃ drained, runSteps (ledgerStep limits) ledger
            (List.replicate ledger.queue.entries.length .recv) = some drained ∧
          drained.received = ledger.received ++ ledger.queue.entries.map QueuedWork.work ∧
          recv drained.queue = some (drained.queue, none)) := by
  obtain ⟨bounded, places, fifo⟩ := runLedger_accounted halfRange run
  refine ⟨bounded.items, bounded.counted, bounded.bytes, places, ?_, ?_, ledger_drains limits ledger⟩
  · exact (List.sublist_append_left _ _).trans fifo
  · intro next ended
    rcases recv_cases ended with ⟨queued, rest, _, _, absent⟩ | ⟨closed, empty, _, _⟩
    · cases absent
    · exact ⟨closed, empty⟩

/-- Under pressure, the three works submitted are in three different places. -/
theorem runLedger_guarantees_pressure :
    runLedger ⟨2, 10⟩ 0 pressureRun = some pressureLedger ∧
      pressureLedger.tickets.Perm (List.range 3) ∧
      ∃ drained, runSteps (ledgerStep ⟨2, 10⟩) pressureLedger [.recv] = some drained ∧
        drained.received = pressureLedger.received ++ [⟨2, .ordered 3 6⟩] ∧
        recv drained.queue = some (drained.queue, none) := by
  have guarantees := runLedger_guarantees (by decide) pressureRun_eq
  exact ⟨pressureRun_eq, guarantees.2.2.2.1, guarantees.2.2.2.2.2.2 rfl rfl⟩

/-- **One more submission, after any run.** With a live receiver, work is
accepted exactly when it fits next to the entries that are neither in its
replacement domain nor replaceable. A refusal changes neither the queue nor the
world and hands the work back. An acceptance follows the specification of
admission, puts the work last and runs the commit on it once. -/
theorem trySend_after_run (halfRange : limits.maxPayloadBytes ≤ usizeMax / 2)
    {start world : World} {events : List (QueueEvent T World)} {state : QueueState T}
    (run : runQueue limits start events = some (state, world))
    (alive : state.receiverAlive = true) (work : T) (commit : T → World → T × World) :
    let result := trySendWithCommit limits state work commit world
    (result.2.1.accepted = true ↔
      Fits limits (queuedPayloadBytes work) (protectedFrom work state.entries)) ∧
    (result.2.1.accepted = false →
      result.1 = state ∧ result.2.2 = world ∧ result.2.1.retired.map RetiredWork.work = [work]) ∧
    (result.2.1.accepted = true → ∃ count kept,
      Admission limits work state.entries kept result.2.1.retired count ∧
      result.1 = admittedState state kept (queuedPayloadBytes work) (commit work world).1 ∧
      result.2.2 = (commit work world).2) := by
  have bounded := runQueue_bounded halfRange run
  rcases trySendWithCommit_cases halfRange bounded work commit world with
    ⟨dead, _⟩ | ⟨_, heavy, same⟩ | ⟨_, count, kept, retired, admission, same⟩
  · rw [alive] at dead
    cases dead
  · intro result
    have answer : result = (state, rejected work .saturated, world) := same
    rw [answer]
    refine ⟨⟨?_, fun fits => absurd fits heavy⟩, fun _ => ⟨rfl, rfl, rfl⟩, ?_⟩
    · intro accepted
      cases accepted
    · intro accepted
      cases accepted
  · have fits := admission.shortest.1
    intro result
    have answer : result = (admittedState state kept (queuedPayloadBytes work)
        (commit work world).1, ⟨true, retired⟩, (commit work world).2) := same
    rw [answer]
    refine ⟨⟨fun _ => ?_, fun _ => rfl⟩, ?_, fun _ => ⟨count, kept, admission, rfl, rfl⟩⟩
    · exact Fits.of_sublist (protectedFrom_sublist_survivors _ _ _) fits
    · intro refused
      cases refused

/-- After two works, a third that only fits without the replaceable one is
accepted, and one that does not fit next to the ordered one is refused. -/
theorem trySend_after_run_pressure :
    let events := pressureRun.take 2
    let state : QueueState FakeWork :=
      ⟨[⟨4, .replaceable 1 4 "navigation"⟩, ⟨4, .ordered 2 4⟩], 8, false, true⟩
    runQueue ⟨2, 10⟩ 0 events = some (state, 2) ∧
      (trySendWithCommit ⟨2, 10⟩ state (.ordered 3 6) countCommit 2).2.1.accepted = true ∧
      (trySendWithCommit ⟨2, 10⟩ state (.ordered 3 7) countCommit 2).2.1.accepted = false := by
  intro events state
  have run : runQueue ⟨2, 10⟩ 0 events = some (state, 2) := by rfl
  refine ⟨run, ?_, ?_⟩
  · exact (trySend_after_run (by decide) run rfl (.ordered 3 6) countCommit).1.mpr (by decide)
  · rw [← Bool.not_eq_true,
      (trySend_after_run (by decide) run rfl (.ordered 3 7) countCommit).1]
    decide

end Omnivox.Queue
