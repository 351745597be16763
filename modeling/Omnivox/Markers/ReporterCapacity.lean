import Mathlib
import Omnivox.Audio.AudioBuffer
import Omnivox.Foundations.Bounded
import Omnivox.Foundations.Fallible
import Omnivox.Foundations.Pools

/-!
# The capacity of the marker reporter

Playback markers are reserved before the audio thread can reach them. The capacity
counts the reserved records and their bytes, and one flag allows one terminal
record at a time.

Every reserved record is released once, when it is dropped. As long as the counters
are those of the live records, no release underflows (`dropMessages_tally`).
-/

set_option autoImplicit false

namespace Omnivox.Markers

open Audio Foundations

structure MarkerReporterLimits where
  maxEvents : Nat
  maxBytes : Nat
  deriving Repr, DecidableEq

/-- A record and its length. -/
structure ReservedMarkerRecord where
  record : String
  bytes : Nat
  bytes_eq : bytes = record.utf8ByteSize
  deriving DecidableEq

def ReservedMarkerRecord.new (record : String) : ReservedMarkerRecord where
  record := record
  bytes := record.utf8ByteSize
  bytes_eq := rfl

inductive MarkerReporterMessage where
  | event (record : ReservedMarkerRecord)
  | startAndChoice (started choice : ReservedMarkerRecord)
  | terminal (record : String)
  deriving DecidableEq

structure MarkerReporterCapacityState where
  events : Nat
  bytes : Nat
  terminalInFlight : Bool
  closed : Bool
  deriving Repr, DecidableEq

def MarkerReporterCapacityState.new : MarkerReporterCapacityState where
  events := 0
  bytes := 0
  terminalInFlight := false
  closed := false

/-! ## Reservation -/

/-- The encoded bytes of a batch. -/
def batchBytes (records : List String) : Except AudioError Nat :=
  records.foldlM (fun total record =>
    orError (.invalidFormat "marker reporter batch byte count overflowed")
      (checkedAdd usizeMax total record.utf8ByteSize)) 0

/-- What one turn of the waiting loop comes to. -/
inductive Reservation where
  | refused (error : AudioError)
  | cancelled
  | waits
  | granted (records : List ReservedMarkerRecord)
  deriving DecidableEq

namespace MarkerReporterCapacityState

/-- The checks before the lock is taken. -/
def checkBatch (limits : MarkerReporterLimits) (records : List String) : Except AudioError Nat := do
  let byteCount ← batchBytes records
  ensure (records.length ≤ limits.maxEvents) (.invalidFormat
    s!"marker reporter batch contains {records.length} events; limit is {limits.maxEvents}")
  ensure (byteCount ≤ limits.maxBytes) (.invalidFormat
    s!"marker reporter batch contains {byteCount} encoded bytes; limit is {limits.maxBytes}")
  return byteCount

/-- One turn of `reserve_marker_records`. -/
def reserveMarkerRecords (limits : MarkerReporterLimits) (state : MarkerReporterCapacityState)
    (records : List String) (keepWaiting : Bool) : MarkerReporterCapacityState × Reservation :=
  match checkBatch limits records with
  | .error error => (state, .refused error)
  | .ok byteCount =>
      if state.closed then
        (state, .refused (.playbackError "marker reporter stopped before playback was queued"))
      else if !keepWaiting then (state, .cancelled)
      else
        let eventsFit := state.events ≤ limits.maxEvents - records.length
        let bytesFit := state.bytes ≤ limits.maxBytes - byteCount
        if eventsFit ∧ bytesFit then
          ({ state with
              events := state.events + records.length
              bytes := state.bytes + byteCount },
            .granted (records.map ReservedMarkerRecord.new))
        else (state, .waits)

/-- `Drop for ReservedMarkerRecord`. `none` is a counter that would underflow. -/
def releaseMarker (state : MarkerReporterCapacityState) (bytes : Nat) :
    Option MarkerReporterCapacityState :=
  if 1 ≤ state.events ∧ bytes ≤ state.bytes then
    some { state with events := state.events - 1, bytes := state.bytes - bytes }
  else none

/-- `Drop for ReservedTerminalRecord`. -/
def releaseTerminal (state : MarkerReporterCapacityState) : MarkerReporterCapacityState :=
  { state with terminalInFlight := false }

def close (state : MarkerReporterCapacityState) : MarkerReporterCapacityState :=
  { state with closed := true }

/-- The end of a message is the end of what it reserves. -/
def dropMessage (state : MarkerReporterCapacityState) :
    MarkerReporterMessage → Option MarkerReporterCapacityState
  | .event record => state.releaseMarker record.bytes
  | .startAndChoice started choice => do
      let state ← state.releaseMarker started.bytes
      state.releaseMarker choice.bytes
  | .terminal _ => some state.releaseTerminal

def dropMessages (state : MarkerReporterCapacityState) :
    List MarkerReporterMessage → Option MarkerReporterCapacityState
  | [] => some state
  | message :: rest => (state.dropMessage message).bind fun next => next.dropMessages rest

end MarkerReporterCapacityState

/-! ## What a message holds -/

namespace MarkerReporterMessage

/-- The reserved records of a message. -/
def records : MarkerReporterMessage → List ReservedMarkerRecord
  | .event record => [record]
  | .startAndChoice started choice => [started, choice]
  | .terminal _ => []

def isTerminal : MarkerReporterMessage → Bool
  | .terminal _ => true
  | _ => false

/-- The lines that the writer makes of a message. -/
def lines : MarkerReporterMessage → List String
  | .event record => [record.record]
  | .startAndChoice started choice => [started.record, choice.record]
  | .terminal record => [record]

/-- A message other than a terminal one holds a reservation. -/
theorem one_le (message : MarkerReporterMessage) :
    1 ≤ message.records.length + message.isTerminal.toNat := by
  cases message <;> exact Nat.le_add_left _ _

end MarkerReporterMessage

/-- The terminal records among messages. -/
def terminalCount (messages : List MarkerReporterMessage) : Nat :=
  (messages.map fun message => message.isTerminal.toNat).sum

@[simp] theorem terminalCount_nil : terminalCount [] = 0 := rfl

@[simp] theorem terminalCount_cons (message : MarkerReporterMessage)
    (rest : List MarkerReporterMessage) :
    terminalCount (message :: rest) = message.isTerminal.toNat + terminalCount rest := by
  simp [terminalCount]

/-- Messages are at most as many as what they hold. -/
theorem length_le (messages : List MarkerReporterMessage) :
    messages.length ≤
      (messages.flatMap MarkerReporterMessage.records).length + terminalCount messages := by
  induction messages with
  | nil => exact Nat.le_refl _
  | cons message rest ih =>
      have one := message.one_le
      rw [List.length_cons, List.flatMap_cons, List.length_append, terminalCount_cons]
      omega

/-- The flag after terminal records were dropped, when it counted those and others. -/
theorem remaining_terminals {flag : Bool} {dropped left : Nat}
    (counted : flag.toNat = left + dropped) : (flag && dropped == 0).toNat = left := by
  cases flag with
  | false =>
      rw [Bool.false_and]
      rw [Bool.toNat_false] at counted ⊢
      omega
  | true =>
      cases dropped with
      | zero => exact counted
      | succ dropped =>
          rw [Bool.toNat_true] at counted
          change 0 = left
          omega

/-! ## Releases -/

namespace MarkerReporterCapacityState

/-- The counters are those of the live records. -/
def Counts (state : MarkerReporterCapacityState) (live : Multiset ReservedMarkerRecord) : Prop :=
  Tally ReservedMarkerRecord.bytes state.events state.bytes live

variable {state : MarkerReporterCapacityState} {live : Multiset ReservedMarkerRecord}

theorem releaseMarker_counts {record : ReservedMarkerRecord}
    (counts : state.Counts (record ::ₘ live)) :
    ∃ next, state.releaseMarker record.bytes = some next ∧ next.Counts live ∧
      next.terminalInFlight = state.terminalInFlight ∧ next.closed = state.closed :=
  ⟨_, if_pos counts.counted, counts.remove, rfl, rfl⟩

/-- **Dropping a message** releases what it reserves. -/
theorem dropMessage_counts {message : MarkerReporterMessage}
    (counts : state.Counts (↑message.records + live)) :
    ∃ next, state.dropMessage message = some next ∧ next.Counts live ∧
      next.terminalInFlight = (state.terminalInFlight && message.isTerminal.toNat == 0) ∧
      next.closed = state.closed := by
  cases message with
  | event record =>
      obtain ⟨next, released, counts, flag, closed⟩ := releaseMarker_counts counts
      exact ⟨next, released, counts, flag.trans (Bool.and_true _).symm, closed⟩
  | startAndChoice started choice =>
      have both : state.Counts (started ::ₘ choice ::ₘ live) := by
        simpa [MarkerReporterMessage.records, ← Multiset.cons_coe] using counts
      obtain ⟨middle, released, counts, flag, closed⟩ := releaseMarker_counts both
      obtain ⟨next, released', counts, flag', closed'⟩ := releaseMarker_counts counts
      refine ⟨next, ?_, counts, ?_, closed'.trans closed⟩
      · rw [dropMessage, released]
        exact released'
      · rw [flag', flag]
        exact (Bool.and_true _).symm
  | terminal record =>
      refine ⟨state.releaseTerminal, rfl, ?_, (Bool.and_false _).symm, rfl⟩
      exact (Multiset.zero_add live) ▸ counts

/-- **Dropping messages** releases what they reserve: no counter underflows. -/
theorem dropMessages_counts {messages : List MarkerReporterMessage}
    (counts : state.Counts (↑(messages.flatMap MarkerReporterMessage.records) + live)) :
    ∃ next, state.dropMessages messages = some next ∧ next.Counts live ∧
      next.terminalInFlight = (state.terminalInFlight && terminalCount messages == 0) ∧
      next.closed = state.closed := by
  induction messages generalizing state with
  | nil =>
      refine ⟨state, rfl, ?_, (Bool.and_true _).symm, rfl⟩
      exact (Multiset.zero_add live) ▸ counts
  | cons message rest ih =>
      have split : state.Counts (↑message.records +
          (↑(rest.flatMap MarkerReporterMessage.records) + live)) := by
        rw [List.flatMap_cons, ← Multiset.coe_add, Multiset.add_assoc] at counts
        exact counts
      obtain ⟨middle, dropped, counts, flag, closed⟩ := dropMessage_counts split
      obtain ⟨next, dropped', counts, flag', closed'⟩ := ih counts
      refine ⟨next, ?_, counts, ?_, closed'.trans closed⟩
      · rw [dropMessages, dropped]
        exact dropped'
      · rw [flag', flag, terminalCount_cons, Bool.and_assoc]
        cases message.isTerminal <;> simp

/-! ## Grants -/

theorem batchBytes_eq_ok {records : List String} {byteCount : Nat}
    (counted : batchBytes records = .ok byteCount) :
    byteCount = (records.map String.utf8ByteSize).sum := by
  have general : ∀ (records : List String) (total : Nat),
      records.foldlM (fun total record =>
        orError (AudioError.invalidFormat "marker reporter batch byte count overflowed")
          (checkedAdd usizeMax total record.utf8ByteSize)) total = .ok byteCount →
        byteCount = total + (records.map String.utf8ByteSize).sum := by
    intro records
    induction records with
    | nil =>
        intro total done
        cases done
        rfl
    | cons record rest ih =>
        intro total done
        obtain ⟨next, added, further⟩ := foldlM_cons_eq_ok.mp done
        have sum := (checkedAdd_eq_some.mp (orError_eq_ok.mp added)).1
        rw [ih next further, List.map_cons, List.sum_cons]
        omega
  have total := general records 0 counted
  rwa [Nat.zero_add] at total

theorem checkBatch_eq_ok {limits : MarkerReporterLimits} {records : List String}
    {byteCount : Nat} (checked : checkBatch limits records = .ok byteCount) :
    byteCount = (records.map String.utf8ByteSize).sum ∧ records.length ≤ limits.maxEvents ∧
      byteCount ≤ limits.maxBytes := by
  obtain ⟨total, counted, checked⟩ := bind_eq_ok.mp checked
  obtain ⟨⟨⟩, events, checked⟩ := bind_eq_ok.mp checked
  obtain ⟨⟨⟩, bytes, same⟩ := bind_eq_ok.mp checked
  cases same
  exact ⟨batchBytes_eq_ok counted, of_decide_eq_true (ensure_eq_ok.mp events),
    of_decide_eq_true (ensure_eq_ok.mp bytes)⟩

/-- **Everything a turn of the waiting loop can do.** It grants the batch and counts it
within the limits, or it changes nothing. -/
theorem reserveMarkerRecords_cases (limits : MarkerReporterLimits) (records : List String)
    (keepWaiting : Bool) (counts : state.Counts live) :
    ((state.reserveMarkerRecords limits records keepWaiting).1 = state ∧
      ∀ granted, (state.reserveMarkerRecords limits records keepWaiting).2 ≠ .granted granted) ∨
    ∃ next granted, state.reserveMarkerRecords limits records keepWaiting =
        (next, .granted granted) ∧
      granted.map ReservedMarkerRecord.record = records ∧
      next.Counts (↑granted + live) ∧ next.events ≤ limits.maxEvents ∧
      next.bytes ≤ limits.maxBytes ∧ next.terminalInFlight = state.terminalInFlight ∧
      next.closed = state.closed := by
  unfold reserveMarkerRecords
  cases checked : checkBatch limits records with
  | error error => exact Or.inl ⟨rfl, fun granted impossible => by cases impossible⟩
  | ok byteCount =>
      cases state.closed with
      | true => exact Or.inl ⟨rfl, fun granted impossible => by cases impossible⟩
      | false =>
          cases keepWaiting with
          | false => exact Or.inl ⟨rfl, fun granted impossible => by cases impossible⟩
          | true =>
              obtain ⟨total, events, bytes⟩ := checkBatch_eq_ok checked
              by_cases fits : state.events ≤ limits.maxEvents - records.length ∧
                  state.bytes ≤ limits.maxBytes - byteCount
              · refine Or.inr ⟨_, _, if_pos fits, ?_, ?_, ?_, ?_, rfl, rfl⟩
                · rw [List.map_map]
                  exact List.map_id _
                · have more := counts.add ↑(records.map ReservedMarkerRecord.new)
                  have weights : (records.map ReservedMarkerRecord.new).map
                      ReservedMarkerRecord.bytes = records.map String.utf8ByteSize := by
                    rw [List.map_map]
                    rfl
                  rw [Multiset.coe_card, List.length_map, Multiset.map_coe, Multiset.sum_coe,
                    weights, ← total] at more
                  exact more
                · dsimp only
                  omega
                · dsimp only
                  omega
              · refine Or.inl ?_
                simp only [Bool.not_true, Bool.false_eq_true, if_false, if_neg fits]
                exact ⟨trivial, fun granted impossible => by cases impossible⟩

end MarkerReporterCapacityState

end Omnivox.Markers
