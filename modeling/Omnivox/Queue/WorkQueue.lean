import Omnivox.Foundations.Bounded

/-!
# The bounded work queue

The handoff from the protocol loop to synthesis. One producer admits work
without waiting, one consumer takes it in order, and both are bounded by a
number of items and a number of payload bytes.

Every operation holds the queue's lock from its first read to its last write,
so each is a function on the locked state. The caller's commit callback is a
function on the admitted work and on the rest of the program (`world`), which
the queue itself never looks at.
-/

set_option autoImplicit false

namespace Omnivox.Queue

open Foundations

/-- Resource limits for work waiting behind the active synthesis request. -/
structure WorkQueueLimits where
  maxItems : Nat
  maxPayloadBytes : Nat
  deriving Repr, DecidableEq

/-- What `bounded_work_queue` asserts of its limits. -/
def WorkQueueLimits.Positive (limits : WorkQueueLimits) : Prop :=
  0 < limits.maxItems ∧ 0 < limits.maxPayloadBytes

instance (limits : WorkQueueLimits) : Decidable limits.Positive :=
  inferInstanceAs (Decidable (_ ∧ _))

/-- Metadata needed to bound and selectively coalesce queued work. -/
class BoundedWork (T : Type*) where
  queuedPayloadBytes : T → Nat
  generation : T → Nat
  isReplaceable : T → Bool
  sharesReplacementDomain : T → T → Bool

export BoundedWork (queuedPayloadBytes generation isReplaceable sharesReplacementDomain)

inductive RetirementReason where
  | replaced
  | evictedForCapacity
  | staleGeneration
  | saturated
  | receiverClosed
  deriving Repr, DecidableEq

structure RetiredWork (T : Type*) where
  work : T
  reason : RetirementReason
  deriving Repr, DecidableEq

structure EnqueueOutcome (T : Type*) where
  accepted : Bool
  retired : List (RetiredWork T)
  deriving Repr, DecidableEq

/-- Queued work with its payload size as it was when the work was admitted. -/
structure QueuedWork (T : Type*) where
  payloadBytes : Nat
  work : T
  deriving Repr, DecidableEq

/-- What the lock protects. -/
structure QueueState (T : Type*) where
  entries : List (QueuedWork T)
  payloadBytes : Nat
  senderClosed : Bool
  receiverAlive : Bool
  deriving Repr, DecidableEq

/-- The state a new queue starts in. -/
def emptyQueue (T : Type*) : QueueState T where
  entries := []
  payloadBytes := 0
  senderClosed := false
  receiverAlive := true

/-- A new queue. `none` is the failed assertion. -/
def boundedWorkQueue (T : Type*) (limits : WorkQueueLimits) : Option (QueueState T) :=
  if limits.Positive then some (emptyQueue T) else none

def exceedsLimits (items bytes : Nat) (limits : WorkQueueLimits) : Bool :=
  decide (items > limits.maxItems) || decide (bytes > limits.maxPayloadBytes)

def rejected {T : Type*} (work : T) (reason : RetirementReason) : EnqueueOutcome T where
  accepted := false
  retired := [⟨work, reason⟩]

/-- The counters admission would leave behind. -/
structure Projection where
  items : Nat
  bytes : Nat
  deriving Repr, DecidableEq

variable {T World : Type*}

/-- The counters without one queued entry. -/
def Projection.remove (projected : Projection) (queued : QueuedWork T) : Projection where
  items := projected.items - 1
  bytes := projected.bytes - queued.payloadBytes

variable [BoundedWork T]

/-! ## Admission -/

/-- First pass: a newer request in the same replacement domain supersedes every
older queued member. -/
def supersedePass (work : T) : Projection → List (QueuedWork T) → List Bool × Projection
  | projected, [] => ([], projected)
  | projected, queued :: rest =>
      let retire := sharesReplacementDomain work queued.work
      let projected := if retire then projected.remove queued else projected
      let next := supersedePass work projected rest
      (retire :: next.1, next.2)

/-- Second pass: capacity pressure may discard other replaceable work in FIFO
order. It stops at the first entry whose removal brings the counters within the
limits. -/
def evictPass (limits : WorkQueueLimits) :
    Projection → List (Bool × QueuedWork T) → List Bool × Projection
  | projected, [] => ([], projected)
  | projected, (retire, queued) :: rest =>
      if !retire && isReplaceable queued.work then
        let projected := projected.remove queued
        if !exceedsLimits projected.items projected.bytes limits then
          (true :: rest.map Prod.fst, projected)
        else
          let next := evictPass limits projected rest
          (true :: next.1, next.2)
      else
        let next := evictPass limits projected rest
        (retire :: next.1, next.2)

/-- Which entries would be retired, and the counters that would leave. -/
def planRetirement (limits : WorkQueueLimits) (work : T) (projected : Projection)
    (entries : List (QueuedWork T)) : List Bool × Projection :=
  let superseded := supersedePass work projected entries
  if exceedsLimits superseded.2.items superseded.2.bytes limits then
    evictPass limits superseded.2 (superseded.1.zip entries)
  else superseded

/-- Third pass: split the entries by their marks and name the reason again. -/
def drainPass (work : T) :
    List (Bool × QueuedWork T) → List (RetiredWork T) × List (QueuedWork T)
  | [] => ([], [])
  | (retire, queued) :: rest =>
      let next := drainPass work rest
      if retire then
        let reason :=
          if sharesReplacementDomain work queued.work then RetirementReason.replaced
          else RetirementReason.evictedForCapacity
        (⟨queued.work, reason⟩ :: next.1, next.2)
      else
        (next.1, queued :: next.2)

/-- Admit work and run `commit` after it is queued but before the consumer can
observe it. -/
def trySendWithCommit (limits : WorkQueueLimits) (state : QueueState T) (work : T)
    (commit : T → World → T × World) (world : World) :
    QueueState T × EnqueueOutcome T × World :=
  let payloadBytes := queuedPayloadBytes work
  if !state.receiverAlive then
    (state, rejected work .receiverClosed, world)
  else if payloadBytes > limits.maxPayloadBytes then
    (state, rejected work .saturated, world)
  else
    -- A deque never holds `usize::MAX` entries, so its `saturating_add(1)` is exact.
    let projected : Projection :=
      ⟨state.entries.length + 1, saturatingAdd usizeMax state.payloadBytes payloadBytes⟩
    let plan := planRetirement limits work projected state.entries
    if exceedsLimits plan.2.items plan.2.bytes limits then
      (state, rejected work .saturated, world)
    else
      let drained := drainPass work (plan.1.zip state.entries)
      let queued : QueueState T :=
        { state with
          entries := drained.2 ++ [⟨payloadBytes, work⟩]
          payloadBytes := plan.2.bytes - payloadBytes }
      let committed := commit work world
      let queued : QueueState T :=
        { queued with
          entries := queued.entries.dropLast ++ [⟨payloadBytes, committed.1⟩] }
      ({ queued with payloadBytes := plan.2.bytes },
        { accepted := true, retired := drained.1 }, committed.2)

/-! ## Interrupts and the consumer -/

/-- Split off the entries of an older generation, counting the bytes kept. -/
def retirePass (minimum : Nat) :
    List (QueuedWork T) → Nat → List (RetiredWork T) × List (QueuedWork T) × Nat
  | [], keptBytes => ([], [], keptBytes)
  | queued :: rest, keptBytes =>
      if generation queued.work < minimum then
        let next := retirePass minimum rest keptBytes
        (⟨queued.work, .staleGeneration⟩ :: next.1, next.2.1, next.2.2)
      else
        let next := retirePass minimum rest (saturatingAdd usizeMax keptBytes queued.payloadBytes)
        (next.1, queued :: next.2.1, next.2.2)

/-- Remove queued requests made obsolete by an interrupt generation. -/
def retireBeforeGeneration (state : QueueState T) (minimum : Nat) :
    QueueState T × List (RetiredWork T) :=
  let split := retirePass minimum state.entries 0
  ({ state with entries := split.2.1, payloadBytes := split.2.2 }, split.1)

omit [BoundedWork T] in
/-- Take the oldest entry. `none` is the consumer going to sleep on the queue's
condition, `some (_, none)` is the end of a closed queue. -/
def recv (state : QueueState T) : Option (QueueState T × Option T) :=
  match state.entries with
  | queued :: rest =>
      some ({ state with
        entries := rest
        payloadBytes := state.payloadBytes - queued.payloadBytes }, some queued.work)
  | [] => if state.senderClosed then some (state, none) else none

def dropSender (state : QueueState T) : QueueState T := { state with senderClosed := true }

def dropReceiver (state : QueueState T) : QueueState T := { state with receiverAlive := false }

end Omnivox.Queue
