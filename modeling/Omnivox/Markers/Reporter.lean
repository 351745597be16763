import Mathlib
import Omnivox.Foundations.Runs
import Omnivox.Markers.ReporterCapacity

/-!
# The bounded marker reporter

Producers reserve records, emit them alone or in pairs, or drop them. One writer
takes the messages from a bounded channel and writes their lines. Terminal records
go through the same channel, one at a time.

A run interleaves the operations of any number of producers with the steps of the
writer, the end of the writer included. Wherever it stands, the counters are those of
the live records, the channel has room for every reserved record, and the messages
that were emitted are those reported, in hand and in the channel, in this order
(`ReporterState.Sound`).
-/

set_option autoImplicit false

namespace Omnivox.Markers

open Audio Foundations

/-! ## The system -/

/-- The writer thread: where it stands in its loop, or how far it has ended. -/
inductive ReporterWriter where
  | waiting
  | reporting (message : MarkerReporterMessage)
  | reported (message : MarkerReporterMessage)
  /-- The receiver is dropped, the close guard is not. -/
  | stopped
  | closed
  deriving DecidableEq

namespace ReporterWriter

/-- The receiver exists. -/
def alive : ReporterWriter → Bool
  | .waiting | .reporting _ | .reported _ => true
  | .stopped | .closed => false

/-- The message that the writer owns. -/
def held : ReporterWriter → List MarkerReporterMessage
  | .reporting message | .reported message => [message]
  | _ => []

/-- The message that the writer has yet to report. -/
def unreported : ReporterWriter → List MarkerReporterMessage
  | .reporting message => [message]
  | _ => []

end ReporterWriter

structure ReporterState where
  capacity : MarkerReporterCapacityState
  /-- The reserved records of the producers. -/
  reserved : List ReservedMarkerRecord
  /-- The terminal records that are reserved and not sent yet. -/
  terminals : List String
  channel : List MarkerReporterMessage
  writer : ReporterWriter
  /-- Every message that entered the channel, in order. -/
  emitted : List MarkerReporterMessage
  /-- Every message that was reported, in order. -/
  reported : List MarkerReporterMessage
  /-- The lines that the output accepted, in order. -/
  written : List String
  /-- Number of messages whose lines the output did not all accept. -/
  failedWrites : Nat
  deriving DecidableEq

/-- A new reporter. `none` is a channel bound that overflows. -/
def markerReporterChannel (limits : MarkerReporterLimits) : Option ReporterState :=
  (checkedAdd usizeMax limits.maxEvents 1).map fun _ =>
    { capacity := .new
      reserved := []
      terminals := []
      channel := []
      writer := .waiting
      emitted := []
      reported := []
      written := []
      failedWrites := 0 }

/-- The bound of the channel. The extra slot is protected by the terminal reservation. -/
def MarkerReporterLimits.channelBound (limits : MarkerReporterLimits) : Nat :=
  limits.maxEvents + 1

/-- One operation of a producer or of the writer. A number is the place of a record in
its list. -/
inductive ReporterEvent where
  | reserveMarkerRecords (records : List String) (keepWaiting : Bool)
  | emit (index : Nat)
  /-- The second number is a place in what is left without the first record. -/
  | emitStartAndChoice (started choice : Nat)
  | dropReserved (index : Nat)
  | reserveTerminal (record : String)
  | sendTerminal (index : Nat)
  | receive
  /-- Report the message in hand to an output that accepts this many of its lines. -/
  | report (accepted : Nat)
  | finishReport
  | dropReceiver
  | close
  deriving Repr, DecidableEq

namespace ReporterState

variable (limits : MarkerReporterLimits)

/-- A message in the channel. `none` is a full channel, where the sender blocks; without
a receiver the message comes back and is dropped. -/
def send (state : ReporterState) (message : MarkerReporterMessage) : Option ReporterState :=
  if !state.writer.alive then
    (state.capacity.dropMessage message).map fun capacity => { state with capacity := capacity }
  else if state.channel.length < limits.channelBound then
    some { state with
      channel := state.channel ++ [message]
      emitted := state.emitted ++ [message] }
  else none

/-- One step of the system. -/
def step (state : ReporterState) : ReporterEvent → Option ReporterState
  | .reserveMarkerRecords records keepWaiting =>
      let result := state.capacity.reserveMarkerRecords limits records keepWaiting
      match result.2 with
      | .granted granted => some { state with
          capacity := result.1
          reserved := state.reserved ++ granted }
      | _ => some { state with capacity := result.1 }
  | .emit index =>
      (state.reserved[index]?).bind fun record =>
        send limits { state with reserved := state.reserved.eraseIdx index } (.event record)
  | .emitStartAndChoice started choice =>
      (state.reserved[started]?).bind fun first =>
        ((state.reserved.eraseIdx started)[choice]?).bind fun second =>
          send limits
            { state with reserved := (state.reserved.eraseIdx started).eraseIdx choice }
            (.startAndChoice first second)
  | .dropReserved index =>
      (state.reserved[index]?).bind fun record =>
        (state.capacity.releaseMarker record.bytes).map fun capacity =>
          { state with capacity := capacity, reserved := state.reserved.eraseIdx index }
  | .reserveTerminal record =>
      -- A closed reporter refuses the record, a terminal in flight makes it wait.
      if state.capacity.closed || state.capacity.terminalInFlight then some state
      else some { state with
        capacity := { state.capacity with terminalInFlight := true }
        terminals := state.terminals ++ [record] }
  | .sendTerminal index =>
      (state.terminals[index]?).bind fun record =>
        send limits { state with terminals := state.terminals.eraseIdx index } (.terminal record)
  | .receive =>
      match state.writer, state.channel with
      | .waiting, message :: rest =>
          some { state with writer := .reporting message, channel := rest }
      | _, _ => none
  | .report accepted =>
      match state.writer with
      | .reporting message => some { state with
          writer := .reported message
          reported := state.reported ++ [message]
          written := state.written ++ message.lines.take accepted
          failedWrites :=
            if accepted < message.lines.length then state.failedWrites + 1
            else state.failedWrites }
      | _ => none
  | .finishReport =>
      match state.writer with
      | .reported message => (state.capacity.dropMessage message).map fun capacity =>
          { state with writer := .waiting, capacity := capacity }
      | _ => none
  | .dropReceiver =>
      if state.writer.alive then
        (state.capacity.dropMessages (state.writer.held ++ state.channel)).map fun capacity =>
          { state with capacity := capacity, writer := .stopped, channel := [] }
      else none
  | .close =>
      if state.writer = .stopped then
        some { state with capacity := state.capacity.close, writer := .closed }
      else none

end ReporterState

/-- A run of a new reporter. -/
def runReporter (limits : MarkerReporterLimits) (events : List ReporterEvent) :
    Option ReporterState :=
  (markerReporterChannel limits).bind fun state =>
    runSteps (ReporterState.step limits) state events

/-! ## The invariant -/

namespace ReporterState

/-- The messages that are owned by the writer or the channel. -/
def inFlight (state : ReporterState) : List MarkerReporterMessage :=
  state.writer.held ++ state.channel

/-- The live reserved records, with those of messages that a producer holds. -/
def live (state : ReporterState) (outside : List MarkerReporterMessage) :
    Multiset ReservedMarkerRecord :=
  ↑state.reserved + ↑((outside ++ state.inFlight).flatMap MarkerReporterMessage.records)

/-- **The invariant of the reporter**, while a producer holds the given messages. -/
structure Sound (limits : MarkerReporterLimits) (state : ReporterState)
    (outside : List MarkerReporterMessage) : Prop where
  counts : state.capacity.Counts (state.live outside)
  events : state.capacity.events ≤ limits.maxEvents
  bytes : state.capacity.bytes ≤ limits.maxBytes
  terminal : state.capacity.terminalInFlight.toNat =
    state.terminals.length + terminalCount (outside ++ state.inFlight)
  ended : state.writer.alive = false → state.channel = []
  fifo : state.writer.alive = true →
    state.reported ++ state.writer.unreported ++ state.channel = state.emitted
  order : state.reported <+: state.emitted
  written : state.failedWrites = 0 → state.written = state.reported.flatMap MarkerReporterMessage.lines

variable {limits : MarkerReporterLimits} {state next : ReporterState}

/-- Messages are bounded by what they hold. -/
theorem Sound.channel_le {outside : List MarkerReporterMessage}
    (sound : state.Sound limits outside) :
    outside.length + state.channel.length ≤ limits.channelBound := by
  have some := length_le (outside ++ state.inFlight)
  have records : ((outside ++ state.inFlight).flatMap MarkerReporterMessage.records).length ≤
      state.capacity.events := by
    rw [sound.counts.count_eq, live, Multiset.card_add, Multiset.coe_card, Multiset.coe_card]
    omega
  have terminals := sound.terminal
  have bool := Bool.toNat_le state.capacity.terminalInFlight
  have events := sound.events
  rw [inFlight, List.length_append, List.length_append] at some
  rw [inFlight] at records terminals
  rw [MarkerReporterLimits.channelBound]
  omega

/-- **The channel has room** for a message that a producer holds. -/
theorem Sound.room {message : MarkerReporterMessage} (sound : state.Sound limits [message]) :
    state.channel.length < limits.channelBound := by
  have bound := sound.channel_le
  rw [List.length_singleton] at bound
  omega

/-- **Sending** a message never blocks and keeps the invariant. -/
theorem Sound.send {message : MarkerReporterMessage} (sound : state.Sound limits [message]) :
    ∃ next, state.send limits message = some next ∧ next.Sound limits [] := by
  cases alive : state.writer.alive with
  | true =>
      refine ⟨{ state with
        channel := state.channel ++ [message]
        emitted := state.emitted ++ [message] }, ?_, ?_⟩
      · rw [ReporterState.send, alive, Bool.not_true, if_neg Bool.false_ne_true,
          if_pos sound.room]
      · have moved : ([message] ++ state.inFlight).Perm
            (state.writer.held ++ (state.channel ++ [message])) := by
          rw [← List.append_assoc state.writer.held]
          exact List.perm_append_comm
        refine ⟨?_, sound.events, sound.bytes, ?_, ?_, ?_, ?_, sound.written⟩
        · have counts := sound.counts
          rw [live, Multiset.coe_eq_coe.mpr (moved.flatMap_right _)] at counts
          exact counts
        · have count := (moved.map fun message => message.isTerminal.toNat).sum_eq
          exact sound.terminal.trans (congrArg _ count)
        · intro dead
          cases alive.symm.trans dead
        · intro _
          rw [← sound.fifo alive, List.append_assoc, List.append_assoc, List.append_assoc]
        · exact sound.order.trans (List.prefix_append _ _)
  | false =>
      have split : state.capacity.Counts (↑message.records + state.live []) := by
        have counts := sound.counts
        rw [live, List.singleton_append, List.flatMap_cons, ← Multiset.coe_add] at counts
        have moved : (↑message.records + state.live []) = ↑state.reserved + (↑message.records +
            ↑(state.inFlight.flatMap MarkerReporterMessage.records)) := by
          rw [live, List.nil_append]
          exact add_left_comm _ _ _
        rwa [moved]
      obtain ⟨capacity, dropped, counts, flag, closed⟩ :=
        MarkerReporterCapacityState.dropMessage_counts split
      refine ⟨{ state with capacity := capacity }, ?_, ?_⟩
      · rw [ReporterState.send, alive, dropped]
        rfl
      · have fewer := split.le counts
        have terminal := sound.terminal
        rw [List.singleton_append, terminalCount_cons, Nat.add_comm message.isTerminal.toNat,
          ← Nat.add_assoc] at terminal
        exact
          { counts := counts
            events := Nat.le_trans fewer.1 sound.events
            bytes := Nat.le_trans fewer.2 sound.bytes
            terminal := flag ▸ remaining_terminals terminal
            ended := sound.ended
            fifo := sound.fifo
            order := sound.order
            written := sound.written }

/-- A producer takes the records of a message out of what it reserved. -/
theorem Sound.hold {message : MarkerReporterMessage} {reserved : List ReservedMarkerRecord}
    {terminals : List String} (sound : state.Sound limits [])
    (records : (state.reserved : Multiset ReservedMarkerRecord) = ↑message.records + ↑reserved)
    (terminalRecords : state.terminals.length = terminals.length + message.isTerminal.toNat) :
    Sound limits { state with reserved := reserved, terminals := terminals } [message] where
  counts := by
    have counts := sound.counts
    rw [live, records, List.nil_append] at counts
    rw [live, List.singleton_append, List.flatMap_cons, ← Multiset.coe_add]
    have moved : (↑reserved + (↑message.records +
        ↑(state.inFlight.flatMap MarkerReporterMessage.records)) : Multiset ReservedMarkerRecord) =
          ↑message.records + ↑reserved +
            ↑(state.inFlight.flatMap MarkerReporterMessage.records) := by
      rw [add_left_comm, add_assoc]
    exact moved ▸ counts
  events := sound.events
  bytes := sound.bytes
  terminal := by
    have terminal := sound.terminal
    rw [List.nil_append, terminalRecords] at terminal
    rw [List.singleton_append, terminalCount_cons, ← Nat.add_assoc]
    exact terminal
  ended := sound.ended
  fifo := sound.fifo
  order := sound.order
  written := sound.written

theorem Sound.holdReserved (sound : state.Sound limits []) {index : Nat}
    {record : ReservedMarkerRecord} (found : state.reserved[index]? = some record) :
    Sound limits { state with reserved := state.reserved.eraseIdx index } [.event record] :=
  sound.hold (coe_eraseIdx found) rfl

theorem Sound.holdTerminal (sound : state.Sound limits []) {index : Nat} {record : String}
    (found : state.terminals[index]? = some record) :
    Sound limits { state with terminals := state.terminals.eraseIdx index } [.terminal record] := by
  have length : state.terminals.length = (state.terminals.eraseIdx index).length + 1 := by
    have cards := congrArg Multiset.card (coe_eraseIdx found)
    rwa [Multiset.card_cons, Multiset.coe_card, Multiset.coe_card] at cards
  exact sound.hold (Multiset.zero_add _).symm length

/-- **Emitting** a reserved record never blocks. -/
theorem Sound.emit (sound : state.Sound limits []) {index : Nat} {record : ReservedMarkerRecord}
    (found : state.reserved[index]? = some record) :
    ∃ next, state.step limits (.emit index) = some next ∧ next.Sound limits [] := by
  obtain ⟨next, sent, sound⟩ := (sound.holdReserved found).send
  exact ⟨next, Option.bind_eq_some_iff.mpr ⟨record, found, sent⟩, sound⟩

/-- **Emitting a pair** never blocks. -/
theorem Sound.emitStartAndChoice (sound : state.Sound limits []) {started choice : Nat}
    {first second : ReservedMarkerRecord} (foundFirst : state.reserved[started]? = some first)
    (foundSecond : (state.reserved.eraseIdx started)[choice]? = some second) :
    ∃ next, state.step limits (.emitStartAndChoice started choice) = some next ∧
      next.Sound limits [] := by
  have records : (state.reserved : Multiset ReservedMarkerRecord) = ↑[first, second] +
      ↑((state.reserved.eraseIdx started).eraseIdx choice) := by
    rw [coe_eraseIdx foundFirst, coe_eraseIdx foundSecond]
    rfl
  have held : Sound limits
      { state with reserved := (state.reserved.eraseIdx started).eraseIdx choice }
      [.startAndChoice first second] :=
    sound.hold records rfl
  obtain ⟨next, sent, sound⟩ := held.send
  exact ⟨next, Option.bind_eq_some_iff.mpr ⟨first, foundFirst,
    Option.bind_eq_some_iff.mpr ⟨second, foundSecond, sent⟩⟩, sound⟩

/-- **Sending the terminal record** never blocks. -/
theorem Sound.sendTerminal (sound : state.Sound limits []) {index : Nat} {record : String}
    (found : state.terminals[index]? = some record) :
    ∃ next, state.step limits (.sendTerminal index) = some next ∧ next.Sound limits [] := by
  obtain ⟨next, sent, sound⟩ := (sound.holdTerminal found).send
  exact ⟨next, Option.bind_eq_some_iff.mpr ⟨record, found, sent⟩, sound⟩

/-- The start of a new reporter. -/
theorem markerReporterChannel_sound (made : markerReporterChannel limits = some state) :
    state.Sound limits [] := by
  obtain ⟨bound, _, rfl⟩ := Option.map_eq_some_iff.mp made
  exact
    { counts := Tally.empty
      events := Nat.zero_le _
      bytes := Nat.zero_le _
      terminal := rfl
      ended := fun _ => rfl
      fifo := fun _ => rfl
      order := List.prefix_refl _
      written := fun _ => rfl }

/-- Releases only lower the counters. -/
theorem Sound.release {outside : List MarkerReporterMessage} {capacity : MarkerReporterCapacityState}
    {freed left : Multiset ReservedMarkerRecord} (sound : state.Sound limits outside)
    (split : state.live outside = freed + left) (counts : capacity.Counts left) :
    capacity.events ≤ limits.maxEvents ∧ capacity.bytes ≤ limits.maxBytes := by
  have before := sound.counts
  rw [split] at before
  have fewer := before.le counts
  exact ⟨Nat.le_trans fewer.1 sound.events, Nat.le_trans fewer.2 sound.bytes⟩

theorem Sound.reserveMarkerRecords (sound : state.Sound limits []) {records : List String}
    {keepWaiting : Bool}
    (taken : state.step limits (.reserveMarkerRecords records keepWaiting) = some next) :
    next.Sound limits [] := by
  rcases MarkerReporterCapacityState.reserveMarkerRecords_cases limits records keepWaiting
    sound.counts with ⟨same, notGranted⟩ |
      ⟨capacity, granted, grants, _, counts, events, bytes, flag, _⟩
  · have unchanged : next = state := by
      simp only [step] at taken
      rw [same] at taken
      exact (Option.some.inj taken).symm
    exact unchanged ▸ sound
  · rw [step, grants] at taken
    cases taken
    refine ⟨?_, events, bytes, ?_, sound.ended, sound.fifo, sound.order, sound.written⟩
    · have more : live { state with
          capacity := capacity, reserved := state.reserved ++ granted } [] =
            ↑granted + state.live [] := by
        simp only [live, inFlight, ← Multiset.coe_add]
        abel
      rw [more]
      exact counts
    · exact flag ▸ sound.terminal

theorem Sound.dropReserved (sound : state.Sound limits []) {index : Nat}
    {record : ReservedMarkerRecord} (found : state.reserved[index]? = some record) :
    ∃ capacity, state.capacity.releaseMarker record.bytes = some capacity ∧
      Sound limits
        { state with capacity := capacity, reserved := state.reserved.eraseIdx index } [] := by
  have split : state.live [] = {record} +
      live { state with reserved := state.reserved.eraseIdx index } [] := by
    rw [live, coe_eraseIdx found, Multiset.cons_add, Multiset.singleton_add]
    rfl
  have counted := sound.counts
  rw [split, Multiset.singleton_add] at counted
  obtain ⟨capacity, released, counts, flag, _⟩ :=
    MarkerReporterCapacityState.releaseMarker_counts counted
  have bounds := sound.release split counts
  exact ⟨capacity, released,
    { counts := counts
      events := bounds.1
      bytes := bounds.2
      terminal := flag ▸ sound.terminal
      ended := sound.ended
      fifo := sound.fifo
      order := sound.order
      written := sound.written }⟩

theorem Sound.reserveTerminal (sound : state.Sound limits []) (record : String)
    (idle : state.capacity.terminalInFlight = false) :
    Sound limits { state with
      capacity := { state.capacity with terminalInFlight := true }
      terminals := state.terminals ++ [record] } [] := by
  have terminal := sound.terminal
  rw [idle, Bool.toNat_false] at terminal
  refine ⟨sound.counts, sound.events, sound.bytes, ?_, sound.ended, sound.fifo, sound.order,
    sound.written⟩
  change 1 = (state.terminals ++ [record]).length + terminalCount ([] ++ state.inFlight)
  rw [List.length_append, List.length_singleton]
  omega

/-- The writer and the channel own the same messages as before. -/
theorem Sound.advance {writer : ReporterWriter} {channel reported : List MarkerReporterMessage}
    {written : List String} {failedWrites : Nat} (sound : state.Sound limits [])
    (alive : writer.alive = true) (inFlight : state.inFlight = writer.held ++ channel)
    (fifo : reported ++ writer.unreported ++ channel = state.emitted)
    (lines : failedWrites = 0 → written = reported.flatMap MarkerReporterMessage.lines) :
    Sound limits { state with
      writer := writer, channel := channel, reported := reported, written := written
      failedWrites := failedWrites } [] where
  counts := by
    have counts := sound.counts
    rw [live, inFlight] at counts
    exact counts
  events := sound.events
  bytes := sound.bytes
  terminal := by
    have terminal := sound.terminal
    rw [inFlight] at terminal
    exact terminal
  ended := by
    intro dead
    cases alive.symm.trans dead
  fifo := fun _ => fifo
  order := ⟨writer.unreported ++ channel, (List.append_assoc _ _ _).symm.trans fifo⟩
  written := lines

theorem Sound.receive (sound : state.Sound limits []) {message : MarkerReporterMessage}
    {rest : List MarkerReporterMessage} (writer : state.writer = .waiting)
    (channel : state.channel = message :: rest) :
    Sound limits { state with writer := .reporting message, channel := rest } [] := by
  have fifo := sound.fifo (writer ▸ rfl)
  rw [writer, channel] at fifo
  refine sound.advance rfl ?_ ?_ sound.written
  · rw [inFlight, writer, channel]
    rfl
  · simpa [ReporterWriter.unreported] using fifo

theorem Sound.report (sound : state.Sound limits []) {message : MarkerReporterMessage}
    (writer : state.writer = .reporting message) (accepted : Nat) :
    Sound limits { state with
      writer := .reported message
      reported := state.reported ++ [message]
      written := state.written ++ message.lines.take accepted
      failedWrites :=
        if accepted < message.lines.length then state.failedWrites + 1
        else state.failedWrites } [] := by
  have fifo := sound.fifo (writer ▸ rfl)
  rw [writer] at fifo
  refine sound.advance rfl ?_ ?_ ?_
  · rw [inFlight, writer]
    rfl
  · simpa [ReporterWriter.unreported] using fifo
  · intro healthy
    split at healthy
    · cases healthy
    · rename_i whole
      rw [sound.written healthy, List.flatMap_append, List.flatMap_singleton,
        List.take_of_length_le (Nat.not_lt.mp whole)]

theorem Sound.finishReport (sound : state.Sound limits []) {message : MarkerReporterMessage}
    (writer : state.writer = .reported message) :
    ∃ capacity, state.capacity.dropMessage message = some capacity ∧
      Sound limits { state with writer := .waiting, capacity := capacity } [] := by
  have inFlight : state.inFlight = message :: state.channel := by
    rw [ReporterState.inFlight, writer]
    rfl
  have split : state.live [] = ↑message.records +
      live { state with writer := .waiting } [] := by
    rw [live, inFlight, List.nil_append, List.flatMap_cons, ← Multiset.coe_add]
    exact add_left_comm _ _ _
  have counted := sound.counts
  rw [split] at counted
  obtain ⟨capacity, dropped, counts, flag, _⟩ :=
    MarkerReporterCapacityState.dropMessage_counts counted
  have bounds := sound.release split counts
  have fifo := sound.fifo (writer ▸ rfl)
  rw [writer] at fifo
  have terminal := sound.terminal
  rw [inFlight, List.nil_append, terminalCount_cons, Nat.add_comm message.isTerminal.toNat,
    ← Nat.add_assoc] at terminal
  exact ⟨capacity, dropped,
    { counts := counts
      events := bounds.1
      bytes := bounds.2
      terminal := flag ▸ remaining_terminals terminal
      ended := fun dead => by cases dead
      fifo := fun _ => fifo
      order := sound.order
      written := sound.written }⟩

/-- **The end of the writer** releases everything that was in flight. -/
theorem Sound.dropReceiver (sound : state.Sound limits []) :
    ∃ capacity, state.capacity.dropMessages (state.writer.held ++ state.channel) = some capacity ∧
      Sound limits { state with capacity := capacity, writer := .stopped, channel := [] } [] := by
  have split : state.live [] = ↑(state.inFlight.flatMap MarkerReporterMessage.records) +
      ↑state.reserved := by
    rw [live, List.nil_append]
    exact add_comm _ _
  have counted := sound.counts
  rw [split] at counted
  obtain ⟨capacity, dropped, counts, flag, _⟩ :=
    MarkerReporterCapacityState.dropMessages_counts counted
  have bounds := sound.release split counts
  exact ⟨capacity, dropped,
    { counts := by
        change capacity.Counts (↑state.reserved + 0)
        rw [Multiset.add_zero]
        exact counts
      events := bounds.1
      bytes := bounds.2
      terminal := flag ▸ remaining_terminals sound.terminal
      ended := fun _ => rfl
      fifo := fun impossible => by cases impossible
      order := sound.order
      written := sound.written }⟩

/-- **Every step** keeps the invariant. -/
theorem step_sound (state : ReporterState) (event : ReporterEvent) (next : ReporterState)
    (sound : state.Sound limits []) (taken : state.step limits event = some next) :
    next.Sound limits [] := by
  cases event with
  | reserveMarkerRecords records keepWaiting => exact sound.reserveMarkerRecords taken
  | emit index =>
      obtain ⟨record, found, _⟩ := Option.bind_eq_some_iff.mp taken
      obtain ⟨next', taken', sound'⟩ := sound.emit found
      cases taken.symm.trans taken'
      exact sound'
  | emitStartAndChoice started choice =>
      obtain ⟨first, foundFirst, rest⟩ := Option.bind_eq_some_iff.mp taken
      obtain ⟨second, foundSecond, _⟩ := Option.bind_eq_some_iff.mp rest
      obtain ⟨next', taken', sound'⟩ := sound.emitStartAndChoice foundFirst foundSecond
      cases taken.symm.trans taken'
      exact sound'
  | dropReserved index =>
      obtain ⟨record, found, rest⟩ := Option.bind_eq_some_iff.mp taken
      obtain ⟨capacity, released, same⟩ := Option.map_eq_some_iff.mp rest
      obtain ⟨capacity', released', sound'⟩ := sound.dropReserved found
      cases released.symm.trans released'
      exact same ▸ sound'
  | reserveTerminal record =>
      simp only [step] at taken
      split at taken
      · exact Option.some.inj taken ▸ sound
      · rename_i free
        rw [Bool.or_eq_true, not_or, Bool.not_eq_true, Bool.not_eq_true] at free
        exact Option.some.inj taken ▸ sound.reserveTerminal record free.2
  | sendTerminal index =>
      obtain ⟨record, found, _⟩ := Option.bind_eq_some_iff.mp taken
      obtain ⟨next', taken', sound'⟩ := sound.sendTerminal found
      cases taken.symm.trans taken'
      exact sound'
  | receive =>
      simp only [step] at taken
      split at taken
      · rename_i message rest writer channel
        exact Option.some.inj taken ▸ sound.receive writer channel
      · cases taken
  | report accepted =>
      simp only [step] at taken
      split at taken
      · rename_i message writer
        exact Option.some.inj taken ▸ sound.report writer accepted
      · cases taken
  | finishReport =>
      simp only [step] at taken
      split at taken
      · rename_i message writer
        obtain ⟨capacity, dropped, same⟩ := Option.map_eq_some_iff.mp taken
        obtain ⟨capacity', dropped', sound'⟩ := sound.finishReport writer
        cases dropped.symm.trans dropped'
        exact same ▸ sound'
      · cases taken
  | dropReceiver =>
      obtain ⟨_, rest⟩ := Option.ite_none_right_eq_some.mp taken
      obtain ⟨capacity, dropped, same⟩ := Option.map_eq_some_iff.mp rest
      obtain ⟨capacity', dropped', sound'⟩ := sound.dropReceiver
      cases dropped.symm.trans dropped'
      exact same ▸ sound'
  | close =>
      obtain ⟨writer, same⟩ := Option.ite_none_right_eq_some.mp taken
      have empty := sound.ended (writer ▸ rfl)
      have inFlight : state.inFlight = [] := by
        rw [ReporterState.inFlight, writer, empty]
        rfl
      have counts := sound.counts
      have terminal := sound.terminal
      rw [live, inFlight] at counts
      rw [inFlight] at terminal
      refine Option.some.inj same ▸ ⟨?_, sound.events, sound.bytes, ?_, fun _ => empty, ?_,
        sound.order, sound.written⟩
      · rw [live, ReporterState.inFlight, empty]
        exact counts
      · rw [ReporterState.inFlight, empty]
        exact terminal
      · intro impossible
        cases impossible

end ReporterState

/-! ## The writer catches up -/

/-- The steps of a writer whose output accepts every line. -/
def ReporterEvent.ofWriter : ReporterEvent → Bool
  | .receive | .finishReport => true
  | .report accepted => accepted == 2
  | _ => false

namespace ReporterState

variable {limits : MarkerReporterLimits} {state : ReporterState}

/-- The writer reaches the given state by its own steps. -/
def Reaches (limits : MarkerReporterLimits) (state next : ReporterState) : Prop :=
  ∃ events, (∀ event ∈ events, event.ofWriter = true) ∧
    runSteps (step limits) state events = some next

theorem Reaches.refl (state : ReporterState) : Reaches limits state state :=
  ⟨[], fun _ member => absurd member List.not_mem_nil, rfl⟩

theorem Reaches.trans {first second third : ReporterState} (start : Reaches limits first second)
    (rest : Reaches limits second third) : Reaches limits first third := by
  obtain ⟨events, own, run⟩ := start
  obtain ⟨events', own', run'⟩ := rest
  refine ⟨events ++ events', ?_, runSteps_append run run'⟩
  intro event member
  rcases List.mem_append.mp member with before | after
  · exact own event before
  · exact own' event after

theorem Reaches.single {event : ReporterEvent} {state next : ReporterState}
    (own : event.ofWriter = true) (taken : state.step limits event = some next) :
    Reaches limits state next := by
  refine ⟨[event], ?_, ?_⟩
  · intro event' member
    exact List.mem_singleton.mp member ▸ own
  · rw [runSteps, taken]
    rfl

/-- No message has more than two lines. -/
theorem lines_length_le (message : MarkerReporterMessage) : ¬ 2 < message.lines.length := by
  cases message with
  | event record => exact Nat.not_lt.mpr (Nat.le_succ 1)
  | startAndChoice started choice => exact Nat.lt_irrefl 2
  | terminal record => exact Nat.not_lt.mpr (Nat.le_succ 1)

/-- The number of steps the writer has ahead of it. -/
def backlog (state : ReporterState) : Nat :=
  3 * state.channel.length + match state.writer with
    | .reporting _ => 2
    | .reported _ => 1
    | _ => 0

/-- The writer has taken a step: nothing was emitted and nothing was lost. -/
structure Advanced (limits : MarkerReporterLimits) (state next : ReporterState) : Prop where
  sound : next.Sound limits []
  alive : next.writer.alive = true
  emitted : next.emitted = state.emitted
  failedWrites : next.failedWrites = state.failedWrites

/-- **A writer with work ahead of it** can take its next step. -/
theorem Sound.progress (sound : state.Sound limits []) (alive : state.writer.alive = true)
    (ahead : state.backlog ≠ 0) :
    ∃ event next, event.ofWriter = true ∧ state.step limits event = some next ∧
      Advanced limits state next ∧ next.backlog < state.backlog := by
  cases writer : state.writer with
  | waiting =>
      cases channel : state.channel with
      | nil => exact absurd (by rw [backlog, writer, channel]; rfl) ahead
      | cons message rest =>
          refine ⟨.receive, { state with writer := .reporting message, channel := rest }, rfl, ?_,
            ⟨sound.receive writer channel, rfl, rfl, rfl⟩, ?_⟩
          · rw [step, writer, channel]
          · simp only [backlog, writer, channel, List.length_cons]
            omega
  | reporting message =>
      have taken : state.step limits (.report 2) = some { state with
          writer := .reported message
          reported := state.reported ++ [message]
          written := state.written ++ message.lines.take 2
          failedWrites :=
            if 2 < message.lines.length then state.failedWrites + 1
            else state.failedWrites } := by
        rw [step, writer]
      refine ⟨.report 2, _, rfl, taken, ⟨sound.report writer 2, rfl, rfl, ?_⟩, ?_⟩
      · exact if_neg (lines_length_le message)
      · simp only [backlog, writer]
        omega
  | reported message =>
      obtain ⟨capacity, dropped, sound'⟩ := sound.finishReport writer
      refine ⟨.finishReport, { state with writer := .waiting, capacity := capacity }, rfl, ?_,
        ⟨sound', rfl, rfl, rfl⟩, ?_⟩
      · rw [step, writer]
        exact Option.map_eq_some_iff.mpr ⟨capacity, dropped, rfl⟩
      · simp only [backlog, writer]
        omega
  | stopped =>
      rw [writer] at alive
      cases alive
  | closed =>
      rw [writer] at alive
      cases alive

/-- Nothing is left when the writer has no work ahead of it. -/
theorem Sound.reported_all (sound : state.Sound limits []) (alive : state.writer.alive = true)
    (done : state.backlog = 0) : state.reported = state.emitted := by
  have fifo := sound.fifo alive
  have empty : state.channel = [] := by
    rw [backlog] at done
    exact List.length_eq_zero_iff.mp (by omega)
  have idle : state.writer.unreported = [] := by
    cases writer : state.writer with
    | reporting message =>
        simp only [backlog, writer] at done
        omega
    | waiting => rfl
    | reported message => rfl
    | stopped => rfl
    | closed => rfl
  rw [empty, idle, List.append_nil, List.append_nil] at fifo
  exact fifo

/-- **The writer catches up**: left alone with an output that accepts every line, it
reports everything that was emitted. -/
theorem Sound.catches_up (sound : state.Sound limits []) (alive : state.writer.alive = true) :
    ∃ next, Reaches limits state next ∧ Advanced limits state next ∧
      next.reported = state.emitted := by
  induction size : state.backlog using Nat.strong_induction_on generalizing state with
  | _ _ ih =>
      subst size
      by_cases done : state.backlog = 0
      · exact ⟨state, .refl state, ⟨sound, alive, rfl, rfl⟩, sound.reported_all alive done⟩
      · obtain ⟨event, middle, own, taken, advanced, less⟩ := sound.progress alive done
        obtain ⟨next, reaches, further, reported⟩ :=
          ih _ less advanced.sound advanced.alive rfl
        exact ⟨next, (Reaches.single own taken).trans reaches,
          ⟨further.sound, further.alive, further.emitted.trans advanced.emitted,
            further.failedWrites.trans advanced.failedWrites⟩,
          reported.trans advanced.emitted⟩

end ReporterState

/-- **Every run** keeps the invariant. -/
theorem runReporter_sound {limits : MarkerReporterLimits} {events : List ReporterEvent}
    {state : ReporterState} (run : runReporter limits events = some state) :
    state.Sound limits [] := by
  obtain ⟨start, made, steps⟩ := Option.bind_eq_some_iff.mp run
  exact run_preserves ReporterState.step_sound
    (ReporterState.markerReporterChannel_sound made) steps

/-! ## The guarantees -/

/-- **The bounded marker reporter.** -/
theorem reporter_guarantees {limits : MarkerReporterLimits} {events : List ReporterEvent}
    {state : ReporterState} (run : runReporter limits events = some state) :
    -- The counters are those of the live records, within the limits.
    (state.capacity.events = (state.live []).card ∧ state.capacity.events ≤ limits.maxEvents) ∧
    (state.capacity.bytes = ((state.live []).map fun record => record.record.utf8ByteSize).sum ∧
      state.capacity.bytes ≤ limits.maxBytes) ∧
    -- No release underflows.
    (∀ index < state.reserved.length, (state.step limits (.dropReserved index)).isSome) ∧
    (∀ message, state.writer = .reported message →
      (state.step limits .finishReport).isSome) ∧
    (state.writer.alive = true → (state.step limits .dropReceiver).isSome) ∧
    -- One terminal record at a time, and room for everything that is reserved.
    state.terminals.length + terminalCount state.inFlight ≤ 1 ∧
    state.channel.length ≤ limits.channelBound ∧
    (state.reserved ≠ [] ∨ state.terminals ≠ [] → state.channel.length < limits.channelBound) ∧
    (∀ index < state.reserved.length, (state.step limits (.emit index)).isSome) ∧
    (∀ started < state.reserved.length, ∀ choice < state.reserved.length - 1,
      (state.step limits (.emitStartAndChoice started choice)).isSome) ∧
    (∀ index < state.terminals.length, (state.step limits (.sendTerminal index)).isSome) ∧
    -- Messages are reported once and in order, and lines written as they are reported.
    (state.writer.alive = true →
      state.reported ++ state.writer.unreported ++ state.channel = state.emitted) ∧
    state.reported <+: state.emitted ∧
    (state.failedWrites = 0 →
      state.written = state.reported.flatMap MarkerReporterMessage.lines) ∧
    (∀ before message after, state.emitted = before ++ message :: after →
      before.length < state.reported.length → before ++ [message] <+: state.reported) ∧
    (state.writer.alive = true → ∃ next, ReporterState.Reaches limits state next ∧
      next.reported = state.emitted ∧
      (state.failedWrites = 0 →
        next.written = state.emitted.flatMap MarkerReporterMessage.lines)) := by
  have sound := runReporter_sound run
  have lengths : (state.live []).map ReservedMarkerRecord.bytes =
      (state.live []).map fun record => record.record.utf8ByteSize :=
    Multiset.map_congr rfl fun record _ => record.bytes_eq
  have firstOf {T : Type} {list : List T} (filled : list ≠ []) : ∃ a, list[0]? = some a := by
    obtain ⟨a, rest, rfl⟩ := List.exists_cons_of_ne_nil filled
    exact ⟨a, rfl⟩
  refine ⟨⟨sound.counts.count_eq, sound.events⟩,
    ⟨lengths ▸ sound.counts.total_eq, sound.bytes⟩, ?_, ?_, ?_, ?_, ?_, ?_, ?_, ?_, ?_, sound.fifo,
    sound.order, sound.written, ?_, ?_⟩
  · intro index inside
    have found := List.getElem?_eq_getElem inside
    obtain ⟨capacity, released, _⟩ := sound.dropReserved found
    exact Option.isSome_iff_exists.mpr ⟨_, Option.bind_eq_some_iff.mpr
      ⟨_, found, Option.map_eq_some_iff.mpr ⟨capacity, released, rfl⟩⟩⟩
  · intro message writer
    obtain ⟨capacity, dropped, _⟩ := sound.finishReport writer
    rw [ReporterState.step, writer]
    exact Option.isSome_iff_exists.mpr
      ⟨_, Option.map_eq_some_iff.mpr ⟨capacity, dropped, rfl⟩⟩
  · intro alive
    obtain ⟨capacity, dropped, _⟩ := sound.dropReceiver
    rw [ReporterState.step, if_pos alive]
    exact Option.isSome_iff_exists.mpr
      ⟨_, Option.map_eq_some_iff.mpr ⟨capacity, dropped, rfl⟩⟩
  · have terminal := sound.terminal
    rw [List.nil_append] at terminal
    exact terminal ▸ Bool.toNat_le _
  · have bound := sound.channel_le
    rwa [List.length_nil, Nat.zero_add] at bound
  · rintro (filled | filled)
    · obtain ⟨record, found⟩ := firstOf filled
      exact (sound.holdReserved found).room
    · obtain ⟨record, found⟩ := firstOf filled
      exact (sound.holdTerminal found).room
  · intro index inside
    obtain ⟨next, taken, _⟩ := sound.emit (List.getElem?_eq_getElem inside)
    exact Option.isSome_iff_exists.mpr ⟨next, taken⟩
  · intro started inside choice inside'
    have left : choice < (state.reserved.eraseIdx started).length := by
      rw [List.length_eraseIdx_of_lt inside]
      exact inside'
    obtain ⟨next, taken, _⟩ := sound.emitStartAndChoice (List.getElem?_eq_getElem inside)
      (List.getElem?_eq_getElem left)
    exact Option.isSome_iff_exists.mpr ⟨next, taken⟩
  · intro index inside
    obtain ⟨next, taken, _⟩ := sound.sendTerminal (List.getElem?_eq_getElem inside)
    exact Option.isSome_iff_exists.mpr ⟨next, taken⟩
  · intro before message after split inside
    have first : before ++ [message] <+: state.emitted := by
      rw [split]
      exact ⟨after, List.append_assoc _ _ _⟩
    refine List.prefix_of_prefix_length_le first sound.order ?_
    rw [List.length_append, List.length_singleton]
    exact inside
  · intro alive
    obtain ⟨next, reaches, advanced, reported⟩ := sound.catches_up alive
    refine ⟨next, reaches, reported, fun healthy => ?_⟩
    rw [← reported]
    exact advanced.sound.written (advanced.failedWrites.trans healthy)

/-! ## A blocked writer -/

/-- The writer is reporting the first of two records, which fill both limits. -/
def blockedState : ReporterState where
  capacity := ⟨2, 6, false, false⟩
  reserved := []
  terminals := []
  channel := [.event (.new "two")]
  writer := .reporting (.event (.new "one"))
  emitted := [.event (.new "one"), .event (.new "two")]
  reported := []
  written := []
  failedWrites := 0

theorem blockedState_run : runReporter ⟨2, 6⟩
    [.reserveMarkerRecords ["one", "two"] true, .emit 0, .receive, .emit 0,
      .reserveMarkerRecords ["x"] true] = some blockedState := by
  decide

/-- The third record waits, and once the writer goes on it writes the first two in order. -/
theorem blocked_writer_keeps_reserved_marker_memory_bounded :
    blockedState.channel.length ≤ 3 ∧ ∃ next,
      ReporterState.Reaches ⟨2, 6⟩ blockedState next ∧ next.written = ["one", "two"] := by
  obtain ⟨_, _, _, _, _, _, channel, _, _, _, _, _, _, _, _, drains⟩ :=
    reporter_guarantees blockedState_run
  obtain ⟨next, reaches, _, written⟩ := drains rfl
  exact ⟨channel, next, reaches, written rfl⟩

end Omnivox.Markers
