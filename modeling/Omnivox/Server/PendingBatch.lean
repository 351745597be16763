import Omnivox.Audio.ToneParameters

/-!
# The pending legacy transaction

Legacy commands queue items one at a time and a later command dispatches them
together. A transaction is bounded by a number of items and a number of payload
bytes, and the first item over a limit poisons it: nothing of it is ever
synthesized, and dispatching it returns the failure.

The batch after any calls is `PendingBatch.holding` of the items pushed since
the last `take` or `clear` (`after_eq`), and
`pending_batch_all_or_nothing` reads the whole contract off that.
-/

set_option autoImplicit false

namespace Omnivox.Server

open Foundations Audio

/-! ## Queue items -/

/-- How a queued tone participates in presentation time. -/
inductive TonePlacement where
  | independent
  | insert
  | overlay
  deriving Repr, DecidableEq

/-- Items that can be queued for processing. A path is the bytes the system
gives for it, which need not be text. -/
inductive QueueItem where
  | speech (text : String)
  | code (text : String)
  | tone (frequency : F32) (duration : Nat) (placement : TonePlacement)
  | shapedTone (tone : ToneParameters) (placement : TonePlacement)
  | silence (duration : Nat)
  | audioIcon (path : List UInt8)
  deriving Repr, DecidableEq

def isContinuation (byte : UInt8) : Bool := byte &&& 192 == 128

/-- The second bytes a three-byte sequence may have. -/
def secondOfThree (byte second : UInt8) : Bool :=
  if byte = 0xE0 then 0xA0 ≤ second && second ≤ 0xBF
  else if byte = 0xED then 0x80 ≤ second && second ≤ 0x9F
  else 0x80 ≤ second && second ≤ 0xBF

/-- The second bytes a four-byte sequence may have. -/
def secondOfFour (byte second : UInt8) : Bool :=
  if byte = 0xF0 then 0x90 ≤ second && second ≤ 0xBF
  else if byte = 0xF4 then 0x80 ≤ second && second ≤ 0x8F
  else 0x80 ≤ second && second ≤ 0xBF

/-- How many bytes the decoder takes at `byte`, and whether they are a
character. What is not is the longest beginning of one. -/
def utf8Chunk (byte : UInt8) (rest : List UInt8) : Nat × Bool :=
  let second := rest.getD 0 0
  let third := rest.getD 1 0
  let fourth := rest.getD 2 0
  if byte < 0x80 then (1, true)
  else if 0xC2 ≤ byte && byte ≤ 0xDF then
    if isContinuation second then (2, true) else (1, false)
  else if 0xE0 ≤ byte && byte ≤ 0xEF then
    if !secondOfThree byte second then (1, false)
    else if isContinuation third then (3, true) else (2, false)
  else if 0xF0 ≤ byte && byte ≤ 0xF4 then
    if !secondOfFour byte second then (1, false)
    else if !isContinuation third then (2, false)
    else if isContinuation fourth then (4, true) else (3, false)
  else (1, false)

/-- The length of `to_string_lossy`, in which a replacement character of three
bytes stands for each run of bytes that is no character. -/
def lossyLength : List UInt8 → Nat
  | [] => 0
  | byte :: rest =>
      let chunk := utf8Chunk byte rest
      (if chunk.2 then chunk.1 else 3) + lossyLength (rest.drop (chunk.1 - 1))
  termination_by bytes => bytes.length

def queueItemPayloadBytes : QueueItem → Nat
  | .speech text => text.utf8ByteSize
  | .code text => text.utf8ByteSize
  | .audioIcon path => lossyLength path
  | .tone _ _ _ => 0
  | .shapedTone _ _ => 0
  | .silence _ => 0

/-! ## The batch -/

def maxPendingItems : Nat := 4096

def maxPendingPayloadBytes : Nat := 16 * 1024 * 1024

inductive PendingOverflow where
  | itemCount (attempted : Nat)
  | payloadBytes (attempted : Nat)
  deriving Repr, DecidableEq

structure PendingBatch where
  items : List QueueItem
  payloadBytes : Nat
  overflow : Option PendingOverflow
  deriving Repr, DecidableEq

namespace PendingBatch

def default : PendingBatch where
  items := []
  payloadBytes := 0
  overflow := none

/-- The limit that an item would break, if any. -/
def overflowing (attemptedItems attemptedBytes : Nat) : Option PendingOverflow :=
  if attemptedItems > maxPendingItems then some (.itemCount attemptedItems)
  else if attemptedBytes > maxPendingPayloadBytes then some (.payloadBytes attemptedBytes)
  else none

/-- Queue one item, or poison the pending transaction. Later items are ignored
until the batch is taken or cleared. -/
def push (batch : PendingBatch) (item : QueueItem) : PendingBatch × Option PendingOverflow :=
  if batch.overflow.isSome then (batch, none)
  else
    let attemptedItems := saturatingAdd usizeMax batch.items.length 1
    let attemptedBytes := saturatingAdd usizeMax batch.payloadBytes (queueItemPayloadBytes item)
    match overflowing attemptedItems attemptedBytes with
    | some overflow => ({ items := [], payloadBytes := 0, overflow := some overflow }, some overflow)
    | none =>
        ({ batch with items := batch.items ++ [item], payloadBytes := attemptedBytes }, none)

def isEmpty (batch : PendingBatch) : Bool := batch.items.isEmpty && batch.overflow.isNone

def take (batch : PendingBatch) : PendingBatch × Except PendingOverflow (List QueueItem) :=
  match batch.overflow with
  | some overflow => ({ items := [], payloadBytes := 0, overflow := none }, .error overflow)
  | none => ({ batch with items := [], payloadBytes := 0 }, .ok batch.items)

def clear (_ : PendingBatch) : PendingBatch where
  items := []
  payloadBytes := 0
  overflow := none

end PendingBatch

/-! ## Calls and what they belong to -/

inductive PendingCall where
  | push (item : QueueItem)
  | take
  | clear
  deriving Repr, DecidableEq

def PendingBatch.call (batch : PendingBatch) : PendingCall → PendingBatch
  | .push item => (batch.push item).1
  | .take => batch.take.1
  | .clear => batch.clear

/-- The batch after a sequence of calls. -/
def PendingBatch.after (batch : PendingBatch) (calls : List PendingCall) : PendingBatch :=
  calls.foldl PendingBatch.call batch

def pushedBy (items : List QueueItem) : PendingCall → List QueueItem
  | .push item => items ++ [item]
  | .take => []
  | .clear => []

/-- The items pushed since the last `take` or `clear`. -/
def pushedSince (calls : List PendingCall) : List QueueItem := calls.foldl pushedBy []

/-- The batch and what the pushes of the current transaction returned, in order. -/
def PendingBatch.answer (state : PendingBatch × List (Option PendingOverflow)) :
    PendingCall → PendingBatch × List (Option PendingOverflow)
  | .push item => ((state.1.push item).1, state.2 ++ [(state.1.push item).2])
  | .take => (state.1.take.1, [])
  | .clear => (state.1.clear, [])

/-- What the pushes since the last `take` or `clear` returned. -/
def answersSince (calls : List PendingCall) : List (Option PendingOverflow) :=
  (calls.foldl PendingBatch.answer (PendingBatch.default, [])).2

/-! ## What a transaction amounts to -/

def payloadOf (items : List QueueItem) : Nat := (items.map queueItemPayloadBytes).sum

/-- Both limits hold. -/
def WithinLimits (items : List QueueItem) : Prop :=
  items.length ≤ maxPendingItems ∧ payloadOf items ≤ maxPendingPayloadBytes

/-- Every prefix is within both limits. -/
def Fits (items : List QueueItem) : Prop := ∀ before, before <+: items → WithinLimits before

/-- The overflow of items that break a limit. The count of bytes stops at the
largest machine word, which no text in memory reaches. -/
def overflowOf (items : List QueueItem) : PendingOverflow :=
  if items.length > maxPendingItems then .itemCount items.length
  else .payloadBytes (min (payloadOf items) usizeMax)

/-- `item`, after items that fit, is the first to break a limit. -/
structure FirstBroken (items before : List QueueItem) (item : QueueItem) : Prop where
  here : before ++ [item] <+: items
  fits : Fits before
  broken : ¬ WithinLimits (before ++ [item])

theorem payloadOf_concat (items : List QueueItem) (item : QueueItem) :
    payloadOf (items ++ [item]) = payloadOf items + queueItemPayloadBytes item := by
  rw [payloadOf, payloadOf, List.map_append, List.sum_append]
  rfl

theorem Fits.nil : Fits [] := by
  intro before prefixed
  rw [List.prefix_nil.mp prefixed]
  exact ⟨Nat.zero_le _, Nat.zero_le _⟩

/-- Items that fit still do after one more that keeps the limits. -/
theorem Fits.concat {items : List QueueItem} {item : QueueItem} (fits : Fits items)
    (within : WithinLimits (items ++ [item])) : Fits (items ++ [item]) := by
  intro before prefixed
  rcases List.prefix_concat_iff.mp prefixed with whole | earlier
  · rw [whole]
    exact within
  · exact fits before earlier

/-- A first broken item stays the first when more is pushed. -/
theorem FirstBroken.grown {items before : List QueueItem} {item : QueueItem}
    (first : FirstBroken items before item) (more : List QueueItem) :
    FirstBroken (items ++ more) before item where
  here := first.here.trans (List.prefix_append _ _)
  fits := first.fits
  broken := first.broken

theorem FirstBroken.not_fits {items before : List QueueItem} {item : QueueItem}
    (first : FirstBroken items before item) : ¬ Fits items :=
  fun fits => first.broken (fits _ first.here)

theorem FirstBroken.length_lt {items before : List QueueItem} {item : QueueItem}
    (first : FirstBroken items before item) : before.length < items.length := by
  have length := first.here.length_le
  rw [List.length_append, List.length_singleton] at length
  exact length

/-- A first broken item is not behind another one. -/
theorem FirstBroken.not_shorter {items before before' : List QueueItem} {item item' : QueueItem}
    (first : FirstBroken items before item) (other : FirstBroken items before' item') :
    ¬ before.length < before'.length := by
  intro shorter
  have within : before' <+: items := (List.prefix_append _ _).trans other.here
  have inside : before ++ [item] <+: before' := by
    refine List.prefix_of_prefix_length_le first.here within ?_
    rw [List.length_append, List.length_singleton]
    exact shorter
  exact first.broken (other.fits _ inside)

/-- **At most one item is the first to break a limit.** -/
theorem FirstBroken.unique {items before before' : List QueueItem} {item item' : QueueItem}
    (first : FirstBroken items before item) (other : FirstBroken items before' item') :
    before ++ [item] = before' ++ [item'] := by
  have same : before.length = before'.length :=
    Nat.le_antisymm (Nat.le_of_not_lt (other.not_shorter first))
      (Nat.le_of_not_lt (first.not_shorter other))
  have lengths : (before ++ [item]).length = (before' ++ [item']).length := by
    rw [List.length_append, List.length_append, same]
    rfl
  exact (List.prefix_of_prefix_length_le first.here other.here lengths.le).eq_of_length lengths

/-! ## What the batch holds -/

/-- The batch of a transaction: the items themselves while they fit, and only the
failure once one did not. -/
inductive Pending (items : List QueueItem) :
    PendingBatch × List (Option PendingOverflow) → Prop where
  | within (fits : Fits items) :
      Pending items
        ({ items := items, payloadBytes := payloadOf items, overflow := none },
          List.replicate items.length none)
  | poisoned {before : List QueueItem} {item : QueueItem} (first : FirstBroken items before item) :
      Pending items
        ({ items := [], payloadBytes := 0, overflow := some (overflowOf (before ++ [item])) },
          List.replicate before.length none ++
            some (overflowOf (before ++ [item])) ::
              List.replicate (items.length - before.length - 1) none)

theorem overflowing_of_within {items : List QueueItem} (within : WithinLimits items) :
    PendingBatch.overflowing items.length (min (payloadOf items) usizeMax) = none := by
  have few : ¬ items.length > maxPendingItems := Nat.not_lt.mpr within.1
  have small : ¬ min (payloadOf items) usizeMax > maxPendingPayloadBytes :=
    Nat.not_lt.mpr (le_trans (Nat.min_le_left _ _) within.2)
  rw [PendingBatch.overflowing, if_neg few, if_neg small]

theorem overflowing_of_broken {items : List QueueItem} (broken : ¬ WithinLimits items) :
    PendingBatch.overflowing items.length (min (payloadOf items) usizeMax) =
      some (overflowOf items) := by
  rw [PendingBatch.overflowing, overflowOf]
  split
  · rfl
  · rename_i few
    have large : min (payloadOf items) usizeMax > maxPendingPayloadBytes := by
      have exceeds : maxPendingPayloadBytes < payloadOf items := by
        by_contra small
        exact broken ⟨Nat.not_lt.mp few, Nat.not_lt.mp small⟩
      exact lt_min exceeds (by decide)
    rw [if_pos large]

/-- **What one push does.** -/
theorem Pending.push {items : List QueueItem}
    {state : PendingBatch × List (Option PendingOverflow)} (pending : Pending items state)
    (item : QueueItem) : Pending (items ++ [item]) (PendingBatch.answer state (.push item)) := by
  cases pending with
  | within fits =>
      have few : items.length + 1 ≤ usizeMax :=
        le_trans (Nat.succ_le_succ (fits items List.prefix_rfl).1) (by decide)
      have attempted : saturatingAdd usizeMax items.length 1 = (items ++ [item]).length := by
        rw [saturatingAdd_of_le few, List.length_append, List.length_singleton]
      have bytes : saturatingAdd usizeMax (payloadOf items) (queueItemPayloadBytes item) =
          min (payloadOf (items ++ [item])) usizeMax := by
        rw [payloadOf_concat, saturatingAdd]
      rw [PendingBatch.answer]
      unfold PendingBatch.push
      simp only [Option.isSome_none, Bool.false_eq_true, if_false, attempted, bytes]
      by_cases kept : WithinLimits (items ++ [item])
      · have exact_bytes : min (payloadOf (items ++ [item])) usizeMax =
            payloadOf (items ++ [item]) :=
          Nat.min_eq_left (le_trans kept.2 (by decide))
        have answers : List.replicate items.length (none : Option PendingOverflow) ++ [none] =
            List.replicate (items ++ [item]).length none := by
          rw [List.length_append, List.length_singleton, List.replicate_succ']
        rw [overflowing_of_within kept, exact_bytes, answers]
        exact .within (fits.concat kept)
      · have first : FirstBroken (items ++ [item]) items item := ⟨List.prefix_rfl, fits, kept⟩
        have after : (items ++ [item]).length - items.length - 1 = 0 := by
          rw [List.length_append, List.length_singleton]
          omega
        have poisoned := Pending.poisoned first
        rw [after] at poisoned
        rw [overflowing_of_broken kept]
        exact poisoned
  | @poisoned before broken first =>
      have after : (items ++ [item]).length - before.length - 1 =
          (items.length - before.length - 1) + 1 := by
        have shorter := first.length_lt
        rw [List.length_append, List.length_singleton]
        omega
      have poisoned := Pending.poisoned (first.grown [item])
      rw [after, List.replicate_succ'] at poisoned
      simpa [PendingBatch.answer, PendingBatch.push] using poisoned

/-- **What one call does** to the batch and to the transaction it belongs to. -/
theorem Pending.call {items : List QueueItem}
    {state : PendingBatch × List (Option PendingOverflow)} (pending : Pending items state)
    (call : PendingCall) : Pending (pushedBy items call) (PendingBatch.answer state call) := by
  cases call with
  | push item => exact pending.push item
  | take => cases pending <;> exact .within Fits.nil
  | clear => exact .within Fits.nil

/-- **Every run of calls keeps the batch of its transaction.** -/
theorem pending_since (calls : List PendingCall) :
    Pending (pushedSince calls)
      (calls.foldl PendingBatch.answer (PendingBatch.default, [])) := by
  induction calls using List.reverseRecOn with
  | nil => exact .within Fits.nil
  | append_singleton calls call ih =>
      rw [pushedSince, List.foldl_append, List.foldl_append]
      exact ih.call call

/-- Answering keeps the batch that the calls lead to. -/
theorem answer_batch (calls : List PendingCall)
    (state : PendingBatch × List (Option PendingOverflow)) :
    (calls.foldl PendingBatch.answer state).1 = state.1.after calls := by
  induction calls generalizing state with
  | nil => rfl
  | cons call calls ih =>
      rw [List.foldl_cons, ih, PendingBatch.after, PendingBatch.after, List.foldl_cons]
      cases call <;> rfl

/-! ## All or nothing -/

/-- A transaction of `items` that left `batch`, its pushes having returned
`answers`, is all or nothing. -/
structure AllOrNothing (items : List QueueItem) (batch : PendingBatch)
    (answers : List (Option PendingOverflow)) : Prop where
  complete : Fits items →
    batch.take.2 = .ok items ∧ answers = List.replicate items.length none
  refused : ∀ before item, FirstBroken items before item →
    batch.take.2 = .error (overflowOf (before ++ [item])) ∧
      answers = List.replicate before.length none ++
        some (overflowOf (before ++ [item])) ::
          List.replicate (items.length - before.length - 1) none
  decided : Fits items ∨ ∃ before item, FirstBroken items before item
  empty : batch.isEmpty = true ↔ items = []
  payload : batch.payloadBytes = payloadOf batch.items
  forgotten : batch.take.1 = PendingBatch.default ∧ batch.clear = PendingBatch.default

theorem Pending.allOrNothing {items : List QueueItem} {batch : PendingBatch}
    {answers : List (Option PendingOverflow)} (pending : Pending items (batch, answers)) :
    AllOrNothing items batch answers := by
  cases pending with
  | within fits =>
      exact {
        complete := fun _ => ⟨rfl, rfl⟩
        refused := fun before item first => absurd fits first.not_fits
        decided := .inl fits
        empty := by simp [PendingBatch.isEmpty]
        payload := rfl
        forgotten := ⟨rfl, rfl⟩ }
  | @poisoned before item first =>
      exact {
        complete := fun fits => absurd fits first.not_fits
        refused := fun before' item' other => by
          have same := first.unique other
          have length : before.length = before'.length := by
            have lengths := congrArg List.length same
            simpa using lengths
          rw [← same, ← length]
          exact ⟨rfl, rfl⟩
        decided := .inr ⟨before, item, first⟩
        empty := by
          have some_items : items ≠ [] :=
            List.ne_nil_of_length_pos (Nat.lt_of_le_of_lt (Nat.zero_le _) first.length_lt)
          simp [PendingBatch.isEmpty, some_items]
        payload := rfl
        forgotten := ⟨rfl, rfl⟩ }

/-- **Legacy transactions are all or nothing.** Whatever was pushed, taken and
cleared before, the batch answers for the items pushed since the last `take` or
`clear` and for nothing else. -/
theorem pending_batch_all_or_nothing (calls : List PendingCall) :
    AllOrNothing (pushedSince calls) (PendingBatch.default.after calls) (answersSince calls) := by
  have pending := pending_since calls
  rw [← Prod.eta (calls.foldl PendingBatch.answer (PendingBatch.default, [])), answer_batch]
    at pending
  exact pending.allOrNothing

end Omnivox.Server
