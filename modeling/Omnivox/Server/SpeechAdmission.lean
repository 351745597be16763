import Mathlib
import Omnivox.Foundations.Pools
import Omnivox.Queue.Ledger
import Omnivox.Server.KeyedCancellation

/-!
# Cancellation follows admission

A timeline and its lease go together: the reader prepares them, admission
activates the lease inside the work queue, and the lease lives on with the
request until the worker or the player is done with it, or until a request that was
rejected, replaced or retired is dropped.

A run interleaves these operations in any order. Wherever it stands, the leases of all
live requests and the registry are consistent (`SpeechState.Sound`), and therefore
admission cancels exactly what the queue supersedes
(`keyed_cancellation_follows_admission`).
-/

set_option autoImplicit false

namespace Omnivox.Server

open Foundations Presentation Queue

variable {Body : Type}

/-! ## Requests -/

/-- Messages sent from the reader thread to the synthesis worker. Only a timeline has
a lease. -/
inductive SynthRequest (Body : Type) where
  | timeline (timeline : TimelineDocument Body) (payloadBytes generation : Nat)
      (cancellation : Option KeyedCancellationLease)
  | other (payloadBytes generation : Nat)
  deriving DecidableEq

namespace SynthRequest

def cancellation : SynthRequest Body → Option KeyedCancellationLease
  | .timeline _ _ _ cancellation => cancellation
  | .other _ _ => none

/-- The callback of admission. -/
def commitAdmission (request : SynthRequest Body) (cancellations : KeyedCancellations) :
    SynthRequest Body × KeyedCancellations :=
  match request with
  | .timeline document payloadBytes generation (some lease) =>
      (.timeline document payloadBytes generation (some (lease.activate cancellations).1),
        (lease.activate cancellations).2)
  | _ => (request, cancellations)

/-- The end of a request is the end of its lease. -/
def drop (request : SynthRequest Body) (cancellations : KeyedCancellations) :
    KeyedCancellations :=
  match request.cancellation with
  | some lease => lease.drop cancellations
  | none => cancellations

end SynthRequest

instance : BoundedWork (SynthRequest Body) where
  queuedPayloadBytes
    | .timeline _ payloadBytes _ _ => payloadBytes
    | .other payloadBytes _ => payloadBytes
  generation
    | .timeline _ _ generation _ => generation
    | .other _ generation => generation
  isReplaceable
    | .timeline timeline _ _ _ => timeline.effectiveDeliveryPolicy == .replaceable
    | .other _ _ => false
  sharesReplacementDomain
    | .timeline timeline _ _ _, .timeline other _ _ _ => timeline.sharesReplacementDomain other
    | _, _ => false

def beginKeyedCancellation (nextToken : Nat) (timeline : TimelineDocument Body) :
    Option KeyedCancellationLease :=
  (ReplacementDomain.fromTimeline timeline).map fun domain => .prepare domain nextToken

def synthesisQueueLimits : WorkQueueLimits where
  maxItems := 32
  maxPayloadBytes := 32 * 1024 * 1024

def enqueueSynthesis (queue : QueueState (SynthRequest Body)) (request : SynthRequest Body)
    (cancellations : KeyedCancellations) :
    QueueState (SynthRequest Body) × EnqueueOutcome (SynthRequest Body) × KeyedCancellations :=
  trySendWithCommit synthesisQueueLimits queue request SynthRequest.commitAdmission cancellations

/-! ## The system -/

/-- The queue, the registry, and the live requests outside the queue. -/
structure SpeechState (Body : Type) where
  queue : QueueState (SynthRequest Body)
  cancellations : KeyedCancellations
  nextToken : Nat
  /-- Requests of the reader that were not submitted yet. -/
  prepared : List (SynthRequest Body)
  /-- Requests that the worker received, up to the end of their playback. -/
  held : List (SynthRequest Body)
  /-- Requests that were rejected, replaced, evicted or retired, until they are dropped. -/
  retired : List (SynthRequest Body)

/-- The state the server starts in. -/
def SpeechState.opening (Body : Type) : SpeechState Body where
  queue := emptyQueue _
  cancellations := .empty
  nextToken := 0
  prepared := []
  held := []
  retired := []

/-- One operation of the reader, the worker or the player. A number is the place of a
request in its list. -/
inductive SpeechEvent (Body : Type) where
  | prepareTimeline (timeline : TimelineDocument Body) (aggregate : Bool)
      (payloadBytes generation : Nat)
  | prepareOther (payloadBytes generation : Nat)
  | enqueue (index : Nat)
  | discard (index : Nat)
  | recv
  | finish (index : Nat)
  | dropRetired (index : Nat)
  | cancelQueuedSynthesisBefore (generation : Nat)
  | dropSender
  | dropReceiver
  /-- The end of the shared queue, with both of its handles. -/
  | dropQueue

section Steps

variable (checks : BodyChecks Body)

/-- One step of the system. A timeline that is prepared was validated by its decoder. -/
def speechStep (state : SpeechState Body) : SpeechEvent Body → Option (SpeechState Body)
  | .prepareTimeline timeline aggregate payloadBytes generation =>
      if (timeline.validate checks aggregate).isOk then
        some { state with
          nextToken := state.nextToken + 1
          prepared := state.prepared ++ [.timeline timeline payloadBytes generation
            (beginKeyedCancellation state.nextToken timeline)] }
      else none
  | .prepareOther payloadBytes generation =>
      some { state with prepared := state.prepared ++ [.other payloadBytes generation] }
  | .enqueue index =>
      if state.queue.senderClosed then none
      else (state.prepared[index]?).map fun request =>
        let result := enqueueSynthesis state.queue request state.cancellations
        { state with
          queue := result.1
          cancellations := result.2.2
          prepared := state.prepared.eraseIdx index
          retired := state.retired ++ result.2.1.retired.map RetiredWork.work }
  | .discard index =>
      (state.prepared[index]?).map fun request =>
        { state with
          cancellations := request.drop state.cancellations
          prepared := state.prepared.eraseIdx index }
  | .recv =>
      if state.queue.receiverAlive then
        (recv state.queue).map fun result =>
          { state with queue := result.1, held := state.held ++ result.2.toList }
      else none
  | .finish index =>
      (state.held[index]?).map fun request =>
        { state with
          cancellations := request.drop state.cancellations
          held := state.held.eraseIdx index }
  | .dropRetired index =>
      (state.retired[index]?).map fun request =>
        { state with
          cancellations := request.drop state.cancellations
          retired := state.retired.eraseIdx index }
  | .cancelQueuedSynthesisBefore generation =>
      if state.queue.senderClosed then none
      else
        let result := retireBeforeGeneration state.queue generation
        some { state with
          queue := result.1
          retired := state.retired ++ result.2.map RetiredWork.work }
  | .dropSender =>
      if state.queue.senderClosed then none
      else some { state with queue := dropSender state.queue }
  | .dropReceiver =>
      if state.queue.receiverAlive then some { state with queue := dropReceiver state.queue }
      else none
  | .dropQueue =>
      if state.queue.senderClosed && !state.queue.receiverAlive then
        some { state with
          queue := { state.queue with entries := [], payloadBytes := 0 }
          retired := state.retired ++ state.queue.entries.map QueuedWork.work }
      else none

/-- A run of the system from its start. -/
def runSpeech (events : List (SpeechEvent Body)) : Option (SpeechState Body) :=
  runSteps (speechStep checks) (SpeechState.opening Body) events

end Steps

/-! ## What is live -/

namespace SynthRequest

/-- The domain of a request. -/
def domain (request : SynthRequest Body) : Option ReplacementDomain :=
  request.cancellation.map KeyedCancellationLease.domain

/-- The lease is on the domain of the timeline, which was validated. -/
def Matches (checks : BodyChecks Body) : SynthRequest Body → Prop
  | .timeline document _ _ cancellation =>
      document.Validated checks ∧
        cancellation.map KeyedCancellationLease.domain = ReplacementDomain.fromTimeline document
  | .other _ _ => True

/-- Every lease of the request is in the given phase. -/
def Phase (active : Bool) (request : SynthRequest Body) : Prop :=
  ∀ lease ∈ request.cancellation, lease.active = active

theorem Matches.commitAdmission {checks : BodyChecks Body} {request : SynthRequest Body}
    (same : request.Matches checks) (cancellations : KeyedCancellations) :
    (request.commitAdmission cancellations).1.Matches checks := by
  cases request with
  | timeline document payloadBytes generation cancellation =>
      cases cancellation with
      | none => exact same
      | some lease =>
          refine ⟨same.1, ?_⟩
          rw [Option.map_some, KeyedCancellationLease.activate_domain]
          exact same.2
  | other payloadBytes generation => exact same

theorem commitAdmission_phase {request : SynthRequest Body} (waiting : request.Phase false)
    (cancellations : KeyedCancellations) :
    (request.commitAdmission cancellations).1.Phase true := by
  cases request with
  | timeline document payloadBytes generation cancellation =>
      cases cancellation with
      | none =>
          intro lease member
          cases member
      | some lease =>
          intro activated member
          cases member
          rw [KeyedCancellationLease.activate_of_inactive (waiting lease rfl)]
  | other payloadBytes generation =>
      intro lease member
      cases member

/-- Two requests have one domain. -/
theorem sameDomain_iff {request queued : SynthRequest Body} :
    (∃ domain, request.domain = some domain ∧ queued.domain = some domain) ↔
      request.domain.isSome ∧ queued.domain = request.domain := by
  constructor
  · rintro ⟨domain, own, other⟩
    exact ⟨Option.isSome_iff_exists.mpr ⟨domain, own⟩, other.trans own.symm⟩
  · rintro ⟨present, same⟩
    obtain ⟨domain, own⟩ := Option.isSome_iff_exists.mp present
    exact ⟨domain, own, same.trans own⟩

/-- **The queue and the registry agree** on what a request supersedes. -/
theorem shares_iff_of_matches {checks : BodyChecks Body} {request queued : SynthRequest Body}
    (same : request.Matches checks) (same' : queued.Matches checks) :
    sharesReplacementDomain request queued = true ↔
      ∃ domain, request.domain = some domain ∧ queued.domain = some domain := by
  cases request with
  | other payloadBytes generation =>
      constructor
      · intro shares
        cases shares
      · rintro ⟨domain, absent, _⟩
        cases absent
  | timeline document payloadBytes generation cancellation =>
      cases queued with
      | other payloadBytes' generation' =>
          constructor
          · intro shares
            cases shares
          · rintro ⟨domain, _, absent⟩
            cases absent
      | timeline document' payloadBytes' generation' cancellation' =>
          have agree := domains_eq_iff_sharesReplacementDomain same.1 same'.1
          rw [← same.2, ← same'.2] at agree
          exact agree.symm

end SynthRequest

namespace SpeechState

/-- The requests in the queue. -/
def queued (state : SpeechState Body) : List (SynthRequest Body) :=
  state.queue.entries.map QueuedWork.work

/-- All live requests. -/
def requests (state : SpeechState Body) : Multiset (SynthRequest Body) :=
  ↑state.prepared + ↑state.queued + ↑state.held + ↑state.retired

/-- All live leases. -/
def leases (state : SpeechState Body) : Multiset KeyedCancellationLease :=
  state.requests.filterMap SynthRequest.cancellation

/-- **The invariant of the system.** -/
structure Sound (checks : BodyChecks Body) (state : SpeechState Body) : Prop where
  bounded : state.queue.Bounded synthesisQueueLimits
  registered : Registered state.cancellations state.nextToken state.leases
  matching : ∀ request ∈ state.requests, request.Matches checks
  waiting : ∀ request ∈ state.prepared, request.Phase false
  queuedActive : ∀ request ∈ state.queued, request.Phase true
  heldActive : ∀ request ∈ state.held, request.Phase true

end SpeechState

/-- One request among others. -/
theorem Registered.dropRequest {cancellations : KeyedCancellations} {nextToken : Nat}
    {request : SynthRequest Body} {others : Multiset (SynthRequest Body)}
    (registered : Registered cancellations nextToken
      ((request ::ₘ others).filterMap SynthRequest.cancellation)) :
    Registered (request.drop cancellations) nextToken
      (others.filterMap SynthRequest.cancellation) := by
  unfold SynthRequest.drop
  cases held : request.cancellation with
  | none => rwa [Multiset.filterMap_cons_none _ _ held] at registered
  | some lease =>
      rw [Multiset.filterMap_cons_some _ _ _ held] at registered
      exact registered.drop

theorem Registered.commitRequest {cancellations : KeyedCancellations} {nextToken : Nat}
    {request : SynthRequest Body} {others : Multiset (SynthRequest Body)}
    (registered : Registered cancellations nextToken
      ((request ::ₘ others).filterMap SynthRequest.cancellation))
    (waiting : request.Phase false) :
    Registered (request.commitAdmission cancellations).2 nextToken
      (((request.commitAdmission cancellations).1 ::ₘ others).filterMap
        SynthRequest.cancellation) := by
  cases request with
  | timeline document payloadBytes generation cancellation =>
      cases cancellation with
      | none => exact registered
      | some lease =>
          have held (lease' : KeyedCancellationLease) :
              (SynthRequest.timeline document payloadBytes generation (some lease') ::ₘ
                others).filterMap SynthRequest.cancellation =
                  lease' ::ₘ others.filterMap SynthRequest.cancellation :=
            Multiset.filterMap_cons_some _ _ _ rfl
          rw [held] at registered
          rw [SynthRequest.commitAdmission, held]
          exact registered.activate (waiting lease rfl)
  | other payloadBytes generation => exact registered

/-! ## Steps -/

section Preservation

variable {checks : BodyChecks Body}

theorem phase_eraseIdx {active : Bool} {list : List (SynthRequest Body)}
    (phase : ∀ request ∈ list, request.Phase active) (index : Nat) :
    ∀ request ∈ list.eraseIdx index, request.Phase active :=
  fun request member => phase request (List.mem_of_mem_eraseIdx member)

namespace SpeechState

/-- A step that only moves requests. -/
theorem Sound.move {state next : SpeechState Body} (sound : state.Sound checks)
    (bounded : next.queue.Bounded synthesisQueueLimits) (requests : next.requests = state.requests)
    (cancellations : next.cancellations = state.cancellations)
    (nextToken : next.nextToken = state.nextToken)
    (waiting : ∀ request ∈ next.prepared, request.Phase false)
    (queuedActive : ∀ request ∈ next.queued, request.Phase true)
    (heldActive : ∀ request ∈ next.held, request.Phase true) : next.Sound checks where
  bounded := bounded
  registered := by
    rw [leases, requests, cancellations, nextToken]
    exact sound.registered
  matching := by
    rw [requests]
    exact sound.matching
  waiting := waiting
  queuedActive := queuedActive
  heldActive := heldActive

/-- A step that drops one request. -/
theorem Sound.dropOne {state next : SpeechState Body} {request : SynthRequest Body}
    (sound : state.Sound checks) (bounded : next.queue.Bounded synthesisQueueLimits)
    (requests : state.requests = request ::ₘ next.requests)
    (cancellations : next.cancellations = request.drop state.cancellations)
    (nextToken : next.nextToken = state.nextToken)
    (waiting : ∀ request ∈ next.prepared, request.Phase false)
    (queuedActive : ∀ request ∈ next.queued, request.Phase true)
    (heldActive : ∀ request ∈ next.held, request.Phase true) : next.Sound checks where
  bounded := bounded
  registered := by
    have registered := sound.registered
    rw [leases, requests] at registered
    rw [cancellations, nextToken]
    exact registered.dropRequest
  matching := by
    intro other member
    exact sound.matching other (requests ▸ Multiset.mem_cons_of_mem member)
  waiting := waiting
  queuedActive := queuedActive
  heldActive := heldActive

/-- A step that prepares one more request. -/
theorem Sound.addOne {state next : SpeechState Body} {request : SynthRequest Body}
    (sound : state.Sound checks) (queue : next.queue = state.queue)
    (prepared : next.prepared = state.prepared ++ [request]) (held : next.held = state.held)
    (retired : next.retired = state.retired)
    (registered : Registered next.cancellations next.nextToken
      ((request ::ₘ state.requests).filterMap SynthRequest.cancellation))
    (same : request.Matches checks) (waiting : request.Phase false) : next.Sound checks := by
  have requests : next.requests = request ::ₘ state.requests := by
    simp only [SpeechState.requests, queued, queue, prepared, held, retired, ← Multiset.coe_add,
      ← Multiset.singleton_add, ← Multiset.coe_singleton]
    abel
  refine ⟨queue ▸ sound.bounded, ?_, ?_, ?_, ?_, ?_⟩
  · rw [leases, requests]
    exact registered
  · intro other member
    rw [requests, Multiset.mem_cons] at member
    rcases member with rfl | before
    · exact same
    · exact sound.matching other before
  · intro other member
    rw [prepared, List.mem_append, List.mem_singleton] at member
    rcases member with before | rfl
    · exact sound.waiting other before
    · exact waiting
  · rw [queued, queue]
    exact sound.queuedActive
  · rw [held]
    exact sound.heldActive

theorem opening_sound : (opening Body).Sound checks where
  bounded := emptyQueue_bounded _
  registered := registered_empty
  matching := fun _ member => absurd member (Multiset.notMem_zero _)
  waiting := fun _ member => absurd member List.not_mem_nil
  queuedActive := fun _ member => absurd member List.not_mem_nil
  heldActive := fun _ member => absurd member List.not_mem_nil

/-- **What enqueueing one prepared request does**: it changes nothing but hands the
request back, or the request is committed, in the queue and out of what is prepared. -/
theorem Sound.enqueue_cases {state : SpeechState Body} (sound : state.Sound checks)
    (request : SynthRequest Body) :
    (∃ reason, enqueueSynthesis state.queue request state.cancellations =
      (state.queue, rejected request reason, state.cancellations)) ∨
    ∃ queue retired, enqueueSynthesis state.queue request state.cancellations =
        (queue, ⟨true, retired⟩, (request.commitAdmission state.cancellations).2) ∧
      queue.Bounded synthesisQueueLimits ∧
      ((retired.map RetiredWork.work : Multiset (SynthRequest Body)) +
          (queue.entries.map QueuedWork.work : Multiset (SynthRequest Body)) =
        (request.commitAdmission state.cancellations).1 ::ₘ
          (state.queued : Multiset (SynthRequest Body))) ∧
      retiredFor .replaced retired = state.queued.filter (sharesReplacementDomain request) := by
  have halfRange : synthesisQueueLimits.maxPayloadBytes ≤ usizeMax / 2 := by decide
  rcases trySendWithCommit_cases halfRange sound.bounded request SynthRequest.commitAdmission
    state.cancellations with ⟨_, same⟩ | ⟨_, _, same⟩ | ⟨_, count, kept, retired, admission, same⟩
  · exact Or.inl ⟨_, same⟩
  · exact Or.inl ⟨_, same⟩
  · refine Or.inr ⟨_, retired, same, ?_, ?_, ?_⟩
    · have bounded := trySendWithCommit_bounded halfRange sound.bounded request
        SynthRequest.commitAdmission state.cancellations
      rwa [same] at bounded
    · have conserved := Multiset.coe_eq_coe.mpr admission.conserved
      rw [← Multiset.coe_add] at conserved
      simp only [admittedState, List.map_append, List.map_cons, List.map_nil, ← Multiset.coe_add,
        Multiset.coe_singleton, SpeechState.queued, ← conserved, ← Multiset.singleton_add]
      abel
    · rw [admission.replaced, SpeechState.queued, List.filter_map]
      rfl

/-- The step of an enqueued request. -/
theorem Sound.enqueue {state : SpeechState Body} (sound : state.Sound checks) {index : Nat}
    {request : SynthRequest Body} (found : state.prepared[index]? = some request) :
    let result := enqueueSynthesis state.queue request state.cancellations
    Sound checks { state with
      queue := result.1
      cancellations := result.2.2
      prepared := state.prepared.eraseIdx index
      retired := state.retired ++ result.2.1.retired.map RetiredWork.work } := by
  intro result
  have waiting : request.Phase false :=
    sound.waiting request (List.mem_of_getElem? found)
  have before : state.requests = request ::ₘ (↑(state.prepared.eraseIdx index) + ↑state.queued +
      ↑state.held + ↑state.retired) := by
    simp only [SpeechState.requests, coe_eraseIdx found, Multiset.cons_add]
  rcases sound.enqueue_cases request with ⟨reason, same⟩ |
    ⟨queue, retired, same, bounded, conserved, _⟩
  · have answer : result = (state.queue, rejected request reason, state.cancellations) := same
    rw [answer]
    refine sound.move sound.bounded ?_ rfl rfl (phase_eraseIdx sound.waiting index)
      sound.queuedActive sound.heldActive
    rw [before]
    simp only [SpeechState.requests, SpeechState.queued, rejected, List.map_cons, List.map_nil,
      ← Multiset.coe_add, Multiset.coe_singleton, ← Multiset.singleton_add]
    abel
  · have answer : result =
        (queue, ⟨true, retired⟩, (request.commitAdmission state.cancellations).2) := same
    rw [answer]
    have requests : SpeechState.requests { state with
        queue := queue
        cancellations := (request.commitAdmission state.cancellations).2
        prepared := state.prepared.eraseIdx index
        retired := state.retired ++ retired.map RetiredWork.work } =
          (request.commitAdmission state.cancellations).1 ::ₘ
            (↑(state.prepared.eraseIdx index) + ↑state.queued + ↑state.held + ↑state.retired) := by
      have queued : (retired.map RetiredWork.work : Multiset (SynthRequest Body)) +
          (queue.entries.map QueuedWork.work : Multiset (SynthRequest Body)) =
            {(request.commitAdmission state.cancellations).1} +
              (state.queued : Multiset (SynthRequest Body)) :=
        conserved
      rw [← Multiset.singleton_add]
      calc SpeechState.requests _
          = ↑(state.prepared.eraseIdx index) + (↑(retired.map RetiredWork.work) +
              ↑(queue.entries.map QueuedWork.work)) + ↑state.held + ↑state.retired := by
            simp only [SpeechState.requests, SpeechState.queued, ← Multiset.coe_add]
            abel
        _ = _ := by
            rw [queued]
            abel
    have registered := sound.registered
    rw [leases, before] at registered
    refine ⟨bounded, ?_, ?_, phase_eraseIdx sound.waiting index, ?_, sound.heldActive⟩
    · rw [leases, requests]
      exact registered.commitRequest waiting
    · intro other member
      rw [requests, Multiset.mem_cons] at member
      have matching := sound.matching
      rw [before] at matching
      rcases member with rfl | others
      · exact (matching request (Multiset.mem_cons_self _ _)).commitAdmission _
      · exact matching other (Multiset.mem_cons_of_mem others)
    · intro other member
      have place : other ∈ (request.commitAdmission state.cancellations).1 ::ₘ
          (state.queued : Multiset (SynthRequest Body)) := by
        rw [← conserved]
        exact Multiset.mem_add.mpr (Or.inr member)
      rcases Multiset.mem_cons.mp place with rfl | before
      · exact SynthRequest.commitAdmission_phase waiting _
      · exact sound.queuedActive other before

/-- The step of a received request. -/
theorem Sound.receive {state : SpeechState Body} (sound : state.Sound checks)
    {result : QueueState (SynthRequest Body) × Option (SynthRequest Body)}
    (taken : recv state.queue = some result) :
    Sound checks { state with
      queue := result.1
      held := state.held ++ result.2.toList } := by
  obtain ⟨queue, request⟩ := result
  have bounded := recv_bounded sound.bounded taken
  rcases recv_cases taken with ⟨queued, rest, front, rfl, rfl⟩ | ⟨_, _, rfl, rfl⟩
  · have order : state.queued = queued.work :: rest.map QueuedWork.work := by
      rw [SpeechState.queued, front, List.map_cons]
    have active := sound.queuedActive
    rw [order] at active
    refine sound.move bounded ?_ rfl rfl sound.waiting ?_ ?_
    · simp only [SpeechState.requests, order]
      simp only [SpeechState.queued, QueueState.afterFront, Option.toList_some,
        ← Multiset.coe_add, ← Multiset.cons_coe, ← Multiset.singleton_add]
      abel
    · exact fun other member => active other (List.mem_cons_of_mem _ member)
    · intro other member
      rcases List.mem_append.mp member with before | received
      · exact sound.heldActive other before
      · rw [Option.toList_some, List.mem_singleton] at received
        exact active other (received ▸ List.mem_cons_self)
  · refine sound.move bounded ?_ rfl rfl sound.waiting sound.queuedActive ?_
    · simp only [SpeechState.requests, SpeechState.queued, Option.toList_none, List.append_nil]
    · rw [Option.toList_none, List.append_nil]
      exact sound.heldActive

/-- The step of an interrupt. -/
theorem Sound.retire {state : SpeechState Body} (sound : state.Sound checks)
    (generation : Nat) :
    Sound checks { state with
      queue := (retireBeforeGeneration state.queue generation).1
      retired := state.retired ++
        (retireBeforeGeneration state.queue generation).2.map RetiredWork.work } := by
  have halfRange : synthesisQueueLimits.maxPayloadBytes ≤ usizeMax / 2 := by decide
  have bytes := sound.bounded.bytes
  rw [sound.bounded.counted] at bytes
  have split := retirePass_eq halfRange generation state.queue.entries 0 (by omega)
  refine sound.move (retireBeforeGeneration_bounded halfRange sound.bounded generation) ?_ rfl rfl
    sound.waiting ?_ sound.heldActive
  · have parts : ((retireBeforeGeneration state.queue generation).2.map RetiredWork.work :
          Multiset (SynthRequest Body)) +
        ((retireBeforeGeneration state.queue generation).1.entries.map QueuedWork.work :
          Multiset (SynthRequest Body)) = state.queued := by
      rw [retireBeforeGeneration, split, List.map_map, Multiset.coe_add]
      exact Multiset.coe_eq_coe.mpr (List.map_append ▸ (List.filter_append_perm _ _).map _)
    rw [SpeechState.requests, SpeechState.requests, ← parts]
    simp only [SpeechState.queued, ← Multiset.coe_add]
    abel
  · intro other member
    rw [SpeechState.queued, retireBeforeGeneration, split] at member
    obtain ⟨queued, kept, rfl⟩ := List.mem_map.mp member
    exact sound.queuedActive _ (List.mem_map_of_mem (List.mem_of_mem_filter kept))

/-- **Every step** keeps the invariant. -/
theorem speechStep_sound (state : SpeechState Body) (event : SpeechEvent Body)
    (next : SpeechState Body) (sound : state.Sound checks)
    (taken : speechStep checks state event = some next) : next.Sound checks := by
  cases event with
  | prepareTimeline timeline aggregate payloadBytes generation =>
      obtain ⟨valid, same⟩ := Option.ite_none_right_eq_some.mp taken
      cases same
      have validated : timeline.Validated checks := by
        refine ⟨aggregate, ?_⟩
        cases answer : timeline.validate checks aggregate with
        | ok u => rfl
        | error e =>
            rw [answer] at valid
            cases valid
      refine sound.addOne rfl rfl rfl rfl ?_ ⟨validated, ?_⟩ ?_
      · cases domain : ReplacementDomain.fromTimeline timeline with
        | none =>
            have absent : SynthRequest.cancellation (.timeline timeline payloadBytes generation
                (beginKeyedCancellation state.nextToken timeline)) = none := by
              rw [SynthRequest.cancellation, beginKeyedCancellation, domain, Option.map_none]
            rw [Multiset.filterMap_cons_none _ _ absent]
            exact sound.registered.skip
        | some domain' =>
            have present : SynthRequest.cancellation (.timeline timeline payloadBytes generation
                (beginKeyedCancellation state.nextToken timeline)) =
                  some (.prepare domain' state.nextToken) := by
              rw [SynthRequest.cancellation, beginKeyedCancellation, domain, Option.map_some]
            rw [Multiset.filterMap_cons_some _ _ _ present]
            exact sound.registered.prepare domain'
      · rw [beginKeyedCancellation, Option.map_map]
        exact Option.map_id'
      · intro lease member
        obtain ⟨domain, _, rfl⟩ := Option.map_eq_some_iff.mp member
        rfl
  | prepareOther payloadBytes generation =>
      cases taken
      refine sound.addOne rfl rfl rfl rfl ?_ trivial ?_
      · rw [Multiset.filterMap_cons_none _ _ rfl]
        exact sound.registered
      · intro lease member
        cases member
  | enqueue index =>
      obtain ⟨_, submitted⟩ := Option.ite_none_left_eq_some.mp taken
      obtain ⟨request, found, same⟩ := Option.map_eq_some_iff.mp submitted
      cases same
      exact sound.enqueue found
  | discard index =>
      obtain ⟨request, found, rfl⟩ := Option.map_eq_some_iff.mp taken
      refine sound.dropOne sound.bounded ?_ rfl rfl (phase_eraseIdx sound.waiting index)
        sound.queuedActive sound.heldActive
      simp only [SpeechState.requests, coe_eraseIdx found, Multiset.cons_add, SpeechState.queued]
  | recv =>
      obtain ⟨_, received⟩ := Option.ite_none_right_eq_some.mp taken
      obtain ⟨result, found, same⟩ := Option.map_eq_some_iff.mp received
      cases same
      exact sound.receive found
  | finish index =>
      obtain ⟨request, found, rfl⟩ := Option.map_eq_some_iff.mp taken
      refine sound.dropOne sound.bounded ?_ rfl rfl sound.waiting sound.queuedActive
        (phase_eraseIdx sound.heldActive index)
      simp only [SpeechState.requests, coe_eraseIdx found, Multiset.cons_add, Multiset.add_cons,
        SpeechState.queued]
  | dropRetired index =>
      obtain ⟨request, found, rfl⟩ := Option.map_eq_some_iff.mp taken
      refine sound.dropOne sound.bounded ?_ rfl rfl sound.waiting sound.queuedActive
        sound.heldActive
      simp only [SpeechState.requests, coe_eraseIdx found, Multiset.add_cons, SpeechState.queued]
  | cancelQueuedSynthesisBefore generation =>
      obtain ⟨_, same⟩ := Option.ite_none_left_eq_some.mp taken
      cases same
      exact sound.retire generation
  | dropSender =>
      obtain ⟨_, same⟩ := Option.ite_none_left_eq_some.mp taken
      cases same
      exact sound.move ⟨sound.bounded.items, sound.bounded.counted, sound.bounded.bytes⟩ rfl rfl rfl
        sound.waiting sound.queuedActive sound.heldActive
  | dropReceiver =>
      obtain ⟨_, same⟩ := Option.ite_none_right_eq_some.mp taken
      cases same
      exact sound.move ⟨sound.bounded.items, sound.bounded.counted, sound.bounded.bytes⟩ rfl rfl rfl
        sound.waiting sound.queuedActive sound.heldActive
  | dropQueue =>
      obtain ⟨_, same⟩ := Option.ite_none_right_eq_some.mp taken
      cases same
      refine sound.move ⟨Nat.zero_le _, rfl, Nat.zero_le _⟩ ?_ rfl rfl sound.waiting ?_
        sound.heldActive
      · simp only [SpeechState.requests, SpeechState.queued, List.map_nil, ← Multiset.coe_add,
          Multiset.coe_nil]
        abel
      · exact fun _ member => absurd member List.not_mem_nil

end SpeechState

/-- **Every run** keeps the invariant. -/
theorem runSpeech_sound {events : List (SpeechEvent Body)} {state : SpeechState Body}
    (run : runSpeech checks events = some state) : state.Sound checks :=
  run_preserves SpeechState.speechStep_sound SpeechState.opening_sound run

/-! ## Admission and cancellation -/

/-- The token that is active for the domain of a request. -/
def SynthRequest.previous (request : SynthRequest Body) (cancellations : KeyedCancellations) :
    Option Nat :=
  request.domain.bind fun domain => cancellations.active.lookup domain

/-- **A commit** cancels the previous token of the domain, enters its own, and leaves
every other domain alone. -/
theorem SynthRequest.commitAdmission_cancels {request : SynthRequest Body}
    (waiting : request.Phase false) (cancellations : KeyedCancellations) :
    (request.commitAdmission cancellations).2.cancelled =
        cancellations.cancelled ∪ (request.previous cancellations).toFinset ∧
      (∀ lease ∈ request.cancellation,
        (request.commitAdmission cancellations).2.active.lookup lease.domain =
          some lease.token) ∧
      ∀ domain, request.domain ≠ some domain →
        (request.commitAdmission cancellations).2.active.lookup domain =
          cancellations.active.lookup domain := by
  cases request with
  | timeline document payloadBytes generation cancellation =>
      cases cancellation with
      | none =>
          refine ⟨(Finset.union_empty _).symm, ?_, fun _ _ => rfl⟩
          intro lease member
          cases member
      | some lease =>
          have activated := KeyedCancellationLease.activate_of_inactive (waiting lease rfl)
            cancellations
          refine ⟨?_, ?_, ?_⟩
          · rw [SynthRequest.commitAdmission, activated]
            rfl
          · intro own member
            cases member
            rw [SynthRequest.commitAdmission, activated]
            exact AList.lookup_insert _
          · intro domain apart
            have other : domain ≠ lease.domain := fun same => apart (congrArg some same.symm)
            rw [SynthRequest.commitAdmission, activated]
            exact AList.lookup_insert_ne other
  | other payloadBytes generation =>
      refine ⟨(Finset.union_empty _).symm, ?_, fun _ _ => rfl⟩
      intro lease member
      cases member

namespace SpeechState

variable {state : SpeechState Body} {request : SynthRequest Body}

/-- A live request of a sound state. -/
theorem Sound.matches_queued (sound : state.Sound checks) {queued : SynthRequest Body}
    (member : queued ∈ state.queued) : queued.Matches checks := by
  apply sound.matching
  simp only [SpeechState.requests, Multiset.mem_add, Multiset.mem_coe]
  exact Or.inl (Or.inl (Or.inr member))

theorem Sound.matches_prepared (sound : state.Sound checks)
    (member : request ∈ state.prepared) : request.Matches checks := by
  apply sound.matching
  simp only [SpeechState.requests, Multiset.mem_add, Multiset.mem_coe]
  exact Or.inl (Or.inl (Or.inl member))

/-- A live lease of a sound state. -/
theorem mem_leases {lease : KeyedCancellationLease} (member : request ∈ state.requests)
    (owned : request.cancellation = some lease) : lease ∈ state.leases :=
  (Multiset.mem_filterMap _ _).mpr ⟨request, member, owned⟩

/-- **What the queue replaces is cancelled**: the lease of a queued request in the same
domain is cancelled already, or it is the one in the registry. -/
theorem Sound.replaced_cancelled (sound : state.Sound checks) {queued : SynthRequest Body}
    (member : queued ∈ state.queued) {domain : ReplacementDomain}
    (own : request.domain = some domain) {lease : KeyedCancellationLease}
    (owned : queued.cancellation = some lease) (same : lease.domain = domain) :
    lease.token ∈
      state.cancellations.cancelled ∪ (request.previous state.cancellations).toFinset := by
  rw [Finset.mem_union, Option.mem_toFinset, SynthRequest.previous, own, Option.bind_some, ← same]
  by_cases cancelled : lease.token ∈ state.cancellations.cancelled
  · exact Or.inl cancelled
  · have live : queued ∈ state.requests := by
      simp only [SpeechState.requests, Multiset.mem_add, Multiset.mem_coe]
      exact Or.inl (Or.inl (Or.inr member))
    exact Or.inr (sound.registered.current lease (mem_leases live owned)
      (sound.queuedActive queued member lease owned) cancelled)

/-- **One admission**, wherever a run stands. -/
theorem Sound.admission (sound : state.Sound checks) (prepared : request ∈ state.prepared) :
    let result := enqueueSynthesis state.queue request state.cancellations
    (result.2.1.accepted = true →
      result.2.2.cancelled =
          state.cancellations.cancelled ∪ (request.previous state.cancellations).toFinset ∧
        (∀ lease ∈ request.cancellation,
          result.2.2.active.lookup lease.domain = some lease.token ∧
            lease.token ∉ result.2.2.cancelled) ∧
        (∀ domain, request.domain ≠ some domain →
          result.2.2.active.lookup domain = state.cancellations.active.lookup domain) ∧
        retiredFor .replaced result.2.1.retired =
          state.queued.filter (fun queued => request.domain.isSome ∧ queued.domain = request.domain) ∧
        ∀ replaced ∈ retiredFor .replaced result.2.1.retired,
          ∀ lease ∈ replaced.cancellation, lease.token ∈ result.2.2.cancelled) ∧
    (result.2.1.accepted = false → result.2.2 = state.cancellations) := by
  intro result
  have waiting := sound.waiting request prepared
  rcases sound.enqueue_cases request with ⟨reason, same⟩ | ⟨queue, retired, same, _, _, replaced⟩
  · have answer : result = (state.queue, rejected request reason, state.cancellations) := same
    rw [answer]
    refine ⟨?_, fun _ => rfl⟩
    intro accepted
    cases accepted
  · have answer : result =
        (queue, ⟨true, retired⟩, (request.commitAdmission state.cancellations).2) := same
    rw [answer]
    obtain ⟨cancelled, entered, others⟩ :=
      SynthRequest.commitAdmission_cancels waiting state.cancellations
    have live : request ∈ state.requests := by
      simp only [SpeechState.requests, Multiset.mem_add, Multiset.mem_coe]
      exact Or.inl (Or.inl (Or.inl prepared))
    have superseded : retiredFor .replaced retired = state.queued.filter
        fun queued => request.domain.isSome ∧ queued.domain = request.domain := by
      rw [replaced]
      refine List.filter_congr fun queued member => ?_
      rw [Bool.eq_iff_iff, decide_eq_true_iff, SynthRequest.shares_iff_of_matches
        (sound.matches_prepared prepared) (sound.matches_queued member)]
      exact SynthRequest.sameDomain_iff
    refine ⟨fun _ => ⟨cancelled, ?_, others, superseded, ?_⟩, ?_⟩
    · intro lease owned
      refine ⟨entered lease owned, ?_⟩
      have leaseLive := mem_leases live owned
      have inactive := waiting lease owned
      rw [cancelled, Finset.mem_union, not_or, Option.mem_toFinset]
      refine ⟨sound.registered.waiting lease leaseLive inactive, ?_⟩
      intro entry
      obtain ⟨domain, _, entry⟩ := Option.bind_eq_some_iff.mp entry
      exact sound.registered.entry_ne leaseLive inactive domain entry
    · intro other member lease owned
      have place := superseded ▸ member
      obtain ⟨queued, same⟩ := List.mem_filter.mp place
      obtain ⟨present, domains⟩ := of_decide_eq_true same
      obtain ⟨domain, own⟩ := Option.isSome_iff_exists.mp present
      have leaseDomain : other.domain = some lease.domain := congrArg _ owned
      rw [own, leaseDomain] at domains
      exact cancelled ▸ sound.replaced_cancelled queued own owned (Option.some.inj domains)
    · intro refused
      cases refused

end SpeechState

/-- **Keyed cancellation follows admission.** -/
theorem keyed_cancellation_follows_admission {events : List (SpeechEvent Body)}
    {state : SpeechState Body} (run : runSpeech checks events = some state) :
    (∀ request ∈ state.prepared,
      let result := enqueueSynthesis state.queue request state.cancellations
      (result.2.1.accepted = true →
        result.2.2.cancelled =
            state.cancellations.cancelled ∪ (request.previous state.cancellations).toFinset ∧
          (∀ lease ∈ request.cancellation,
            result.2.2.active.lookup lease.domain = some lease.token ∧
              lease.token ∉ result.2.2.cancelled) ∧
          (∀ domain, request.domain ≠ some domain →
            result.2.2.active.lookup domain = state.cancellations.active.lookup domain) ∧
          retiredFor .replaced result.2.1.retired = state.queued.filter
            (fun queued => request.domain.isSome ∧ queued.domain = request.domain) ∧
          ∀ replaced ∈ retiredFor .replaced result.2.1.retired,
            ∀ lease ∈ replaced.cancellation, lease.token ∈ result.2.2.cancelled) ∧
      (result.2.1.accepted = false → result.2.2 = state.cancellations)) ∧
    (∀ lease ∈ state.leases,
      (lease.drop state.cancellations).cancelled = state.cancellations.cancelled ∧
        ∀ domain, (lease.drop state.cancellations).active.lookup domain =
          if lease.active = true ∧ domain = lease.domain ∧
              state.cancellations.active.lookup domain = some lease.token then none
          else state.cancellations.active.lookup domain) ∧
    (∀ domain, (state.leases.filter fun lease => lease.active = true ∧ lease.domain = domain ∧
      lease.token ∉ state.cancellations.cancelled).card ≤ 1) ∧
    ∀ first second : TimelineDocument Body, first.Validated checks → second.Validated checks →
      ((∃ domain, ReplacementDomain.fromTimeline first = some domain ∧
          ReplacementDomain.fromTimeline second = some domain) ↔
        first.sharesReplacementDomain second = true) ∧
      (first.sharesReplacementDomain second = true →
        first.effectiveDeliveryPolicy = .replaceable ∧
          second.effectiveDeliveryPolicy = .replaceable) := by
  have sound := runSpeech_sound run
  refine ⟨fun request prepared => sound.admission prepared, ?_,
    sound.registered.current_unique, ?_⟩
  · intro lease _
    exact ⟨lease.drop_cancelled _, lease.drop_lookup _⟩
  · intro first second firstValid secondValid
    exact ⟨domains_eq_iff_sharesReplacementDomain firstValid secondValid,
      TimelineDocument.replaceable_of_sharesReplacementDomain⟩

end Preservation

/-! ## Two presentations of one domain -/

/-- Every body is accepted. -/
def acceptBodies : BodyChecks Unit where
  registryGeneration := fun _ => 1
  legacy := fun _ _ => .ok ()
  mixed := fun _ _ _ => .ok ()
  shapes := fun _ _ => .ok ()

/-- A replaceable presentation of version 2. -/
def navigation (generation : Nat) : TimelineDocument Unit :=
  .legacy ⟨2, generation, generation, some .replaceable, some "speaker", ()⟩

def navigationDomain : ReplacementDomain := ⟨2, some "speaker"⟩

/-- The first presentation waits in the queue while the second one is prepared. -/
def navigationState : SpeechState Unit where
  queue := ⟨[⟨10, .timeline (navigation 1) 10 0 (some ⟨navigationDomain, 0, true⟩)⟩], 10, false, true⟩
  cancellations := ⟨AList.insert navigationDomain 0 ∅, ∅⟩
  nextToken := 2
  prepared := [.timeline (navigation 2) 10 0 (some ⟨navigationDomain, 1, false⟩)]
  held := []
  retired := []

theorem navigationState_run : runSpeech acceptBodies
    [.prepareTimeline (navigation 1) false 10 0, .enqueue 0,
      .prepareTimeline (navigation 2) false 10 0] = some navigationState := by
  rfl

/-- Admitting the second presentation cancels the first one, and nothing else. -/
theorem keyed_cancellation_of_navigation :
    (enqueueSynthesis navigationState.queue
      (.timeline (navigation 2) 10 0 (some ⟨navigationDomain, 1, false⟩))
      navigationState.cancellations).2.2.cancelled = {0} :=
  ((keyed_cancellation_follows_admission navigationState_run).1 _ List.mem_cons_self).1 (by rfl)
    |>.1.trans (by decide)

end Omnivox.Server
