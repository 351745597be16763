import Mathlib
import Omnivox.Foundations.Runs
import Omnivox.Server.ProtocolLines

/-!
# Remote sessions

Two lanes of one authenticated session, held by connections that come and go.
One lock guards the session ID, the flag of each lane and the record of what was
captured when the session started. Connections reserve a lane, ask for the
startup record and drop the lane, in any order between them.

A connection reads its input as records. A record is put together across socket
timeouts, with a bound on what is kept.

The invariant of the lanes is `Consistent`; the record of a session is
`Consistent.retained`. The records of a stream are its lines, whatever the
segments and the timeouts were (`Records.readAll_eq`).
-/

set_option autoImplicit false

namespace Omnivox.Server

open Foundations

/-! ## The session -/

/-- A shared value and the allocation it lives in. -/
structure Arc (α : Type*) where
  address : Nat
  value : α
  deriving Repr, DecidableEq

section Lanes

variable {RemoteStartup : Type*}

structure Session (RemoteStartup : Type*) where
  id : String
  lanes : Fin 2 → Bool
  startup : Option (Arc RemoteStartup)

/-- `Session::default`. -/
def Session.default : Session RemoteStartup where
  id := ""
  lanes := fun _ => false
  startup := none

structure Lane where
  index : Fin 2
  deriving Repr, DecidableEq

namespace Lane

def reserve (state : Session RemoteStartup) (id : String) (index : Fin 2) :
    Session RemoteStartup × Option Lane :=
  if ((∃ lane, state.lanes lane = true) ∧ state.id ≠ id) ∨ state.lanes index = true then
    (state, none)
  else
    let state := if state.id ≠ id then { state with id := id, startup := none } else state
    ({ state with lanes := Function.update state.lanes index true }, some ⟨index⟩)

/-- What `capture` returns is given, and where it would be allocated. -/
def startup (state : Session RemoteStartup) (address : Nat) (capture : Option RemoteStartup) :
    Session RemoteStartup × Option (Arc RemoteStartup) :=
  match state.startup, capture with
  | some startup, _ => (state, some startup)
  | none, none => (state, none)
  | none, some record => ({ state with startup := some ⟨address, record⟩ }, some ⟨address, record⟩)

def drop (lane : Lane) (state : Session RemoteStartup) : Session RemoteStartup :=
  { state with lanes := Function.update state.lanes lane.index false }

end Lane

/-! ## The connections -/

/-- A connection that holds a lane, with the session ID it reserved it for. -/
structure Holder where
  connection : Nat
  id : String
  lane : Lane
  deriving Repr, DecidableEq

/-- The session, the lanes that live, the number of lanes reserved so far, and every
capture so far with the session ID of the lane it was made for. -/
structure Connections (RemoteStartup : Type*) where
  session : Session RemoteStartup
  live : List Holder
  reserved : Nat
  captures : List (String × RemoteStartup)

/-- The sections under the session's lock. -/
inductive LaneStep (RemoteStartup : Type*)
  | reserve (id : String) (index : Fin 2)
  | startup (holder : Holder) (capture : Option RemoteStartup)
  | drop (holder : Holder)

namespace Connections

def start : Connections RemoteStartup where
  session := Session.default
  live := []
  reserved := 0
  captures := []

/-- What a call of `startup` returns. -/
def startupFor (state : Connections RemoteStartup) (capture : Option RemoteStartup) :
    Option (Arc RemoteStartup) :=
  (Lane.startup state.session state.captures.length capture).2

/-- The captures after a call of `startup`: it captures when nothing is recorded. -/
def capturesAfter (state : Connections RemoteStartup) (holder : Holder)
    (capture : Option RemoteStartup) : List (String × RemoteStartup) :=
  match state.session.startup, capture with
  | none, some record => state.captures ++ [(holder.id, record)]
  | _, _ => state.captures

/-- Whether `reserve` gives a lane. -/
def Reserves (state : Connections RemoteStartup) (id : String) (index : Fin 2) : Prop :=
  ¬ (((∃ lane, state.session.lanes lane = true) ∧ state.session.id ≠ id) ∨
    state.session.lanes index = true)

def reserve (state : Connections RemoteStartup) (id : String) (index : Fin 2) :
    Connections RemoteStartup :=
  match Lane.reserve state.session id index with
  | (session, none) => { state with session := session }
  | (session, some lane) =>
    { state with
      session := session
      live := ⟨state.reserved, id, lane⟩ :: state.live
      reserved := state.reserved + 1 }

/-- One section of one connection. Only a lane that lives can be used. -/
def next (state : Connections RemoteStartup) : LaneStep RemoteStartup →
    Option (Connections RemoteStartup)
  | .reserve id index => some (state.reserve id index)
  | .startup holder capture =>
    if holder ∈ state.live then
      some { state with
        session := (Lane.startup state.session state.captures.length capture).1
        captures := state.capturesAfter holder capture }
    else none
  | .drop holder =>
    if holder ∈ state.live then
      some { state with
        session := holder.lane.drop state.session
        live := state.live.erase holder }
    else none

/-- A reservation with another session ID that succeeds. -/
def Replaces (state : Connections RemoteStartup) : LaneStep RemoteStartup → Prop
  | .reserve id index => state.session.id ≠ id ∧ state.Reserves id index
  | _ => False

end Connections

/-! ## What one section does -/

namespace Connections

variable {state after : Connections RemoteStartup}

theorem reserve_refused {id : String} {index : Fin 2} (refused : ¬ state.Reserves id index) :
    state.reserve id index = state := by
  unfold Reserves at refused
  rw [reserve, Lane.reserve, if_pos (not_not.mp refused)]

/-- The session once a lane of it is given. -/
def enter (state : Connections RemoteStartup) (id : String) (index : Fin 2) :
    Connections RemoteStartup :=
  { state with
    session :=
      { id := id
        lanes := Function.update state.session.lanes index true
        startup := if state.session.id ≠ id then none else state.session.startup }
    live := ⟨state.reserved, id, ⟨index⟩⟩ :: state.live
    reserved := state.reserved + 1 }

theorem reserve_admitted {id : String} {index : Fin 2} (admitted : state.Reserves id index) :
    state.reserve id index = state.enter id index := by
  unfold Reserves at admitted
  rw [reserve, Lane.reserve, if_neg admitted, enter]
  by_cases same : state.session.id = id
  · subst same
    simp
  · simp [same]

/-- **A step**, read backwards. -/
theorem next_cases {step : LaneStep RemoteStartup} (taken : state.next step = some after) :
    after = state ∨
      (∃ id index, step = .reserve id index ∧ state.Reserves id index ∧
        after = state.enter id index) ∨
      (∃ holder record, step = .startup holder (some record) ∧ holder ∈ state.live ∧
        state.session.startup = none ∧
        after = { state with
          session := { state.session with startup := some ⟨state.captures.length, record⟩ }
          captures := state.captures ++ [(holder.id, record)] }) ∨
      (∃ holder, step = .drop holder ∧ holder ∈ state.live ∧
        after = { state with
          session := holder.lane.drop state.session
          live := state.live.erase holder }) := by
  cases step with
  | reserve id index =>
      have result : state.reserve id index = after := Option.some.inj taken
      by_cases admitted : state.Reserves id index
      · exact Or.inr (Or.inl ⟨id, index, rfl, admitted, result ▸ reserve_admitted admitted⟩)
      · exact Or.inl (result ▸ reserve_refused admitted)
  | startup holder capture =>
      rw [next, Option.ite_none_right_eq_some] at taken
      obtain ⟨held, result⟩ := taken
      have result := Option.some.inj result
      subst result
      cases recorded : state.session.startup with
      | some startup => exact Or.inl (by simp [Lane.startup, capturesAfter, recorded])
      | none =>
          cases capture with
          | none => exact Or.inl (by simp [Lane.startup, capturesAfter, recorded])
          | some record =>
              refine Or.inr (Or.inr (Or.inl ⟨holder, record, rfl, held, rfl, ?_⟩))
              simp [Lane.startup, capturesAfter, recorded]
  | drop holder =>
      rw [next, Option.ite_none_right_eq_some] at taken
      obtain ⟨held, result⟩ := taken
      exact Or.inr (Or.inr (Or.inr ⟨holder, rfl, held, (Option.some.inj result).symm⟩))

end Connections

/-! ## The invariant -/

/-- **The lanes and the record belong to the current session.** -/
structure Consistent (state : Connections RemoteStartup) : Prop where
  /-- At most one lane for each index. -/
  apart : (state.live.map fun holder => holder.lane.index).Nodup
  /-- Every lane that lives was reserved with the current session ID. -/
  current : ∀ holder ∈ state.live, holder.id = state.session.id
  flags : ∀ index, state.session.lanes index = true ↔
    ∃ holder ∈ state.live, holder.lane.index = index
  /-- The record is a capture for the current session ID. -/
  recorded : ∀ startup, state.session.startup = some startup →
    state.captures[startup.address]? = some (state.session.id, startup.value)

namespace Consistent

open Connections

variable {state after : Connections RemoteStartup}

theorem start : Consistent (Connections.start : Connections RemoteStartup) where
  apart := List.nodup_nil
  current := fun _ held => absurd held List.not_mem_nil
  flags := by simp [Connections.start, Session.default]
  recorded := by simp [Connections.start, Session.default]

/-- No lane lives when another session is admitted. -/
theorem idle (consistent : Consistent state) {id : String} {index : Fin 2}
    (admitted : state.Reserves id index) (other : state.session.id ≠ id) : state.live = [] := by
  apply List.eq_nil_iff_forall_not_mem.mpr
  intro holder held
  apply admitted
  exact Or.inl ⟨⟨_, (consistent.flags _).mpr ⟨holder, held, rfl⟩⟩, other⟩

theorem enter (consistent : Consistent state) {id : String} {index : Fin 2}
    (admitted : state.Reserves id index) : Consistent (state.enter id index) where
  apart := by
    refine List.nodup_cons.mpr ⟨?_, consistent.apart⟩
    intro taken
    obtain ⟨holder, held, same⟩ := List.mem_map.mp taken
    apply admitted
    exact Or.inr ((consistent.flags index).mpr ⟨holder, held, same⟩)
  current := by
    intro holder held
    rcases List.mem_cons.mp held with rfl | held
    · rfl
    · by_cases same : state.session.id = id
      · exact (consistent.current holder held).trans same
      · rw [consistent.idle admitted same] at held
        exact absurd held List.not_mem_nil
  flags := by
    intro lane
    by_cases same : lane = index
    · subst same
      simp [Connections.enter]
    · have other : ¬ index = lane := fun equal => same equal.symm
      simp [Connections.enter, Function.update_of_ne same, consistent.flags lane, other]
  recorded := by
    intro startup kept
    by_cases same : state.session.id = id
    · subst same
      apply consistent.recorded
      simpa [Connections.enter] using kept
    · simp [Connections.enter, same] at kept

theorem capture (consistent : Consistent state) {holder : Holder} (held : holder ∈ state.live)
    (record : RemoteStartup) :
    Consistent { state with
      session := { state.session with startup := some ⟨state.captures.length, record⟩ }
      captures := state.captures ++ [(holder.id, record)] } where
  apart := consistent.apart
  current := consistent.current
  flags := consistent.flags
  recorded := by
    intro startup kept
    cases kept
    simp [consistent.current holder held]

theorem drop (consistent : Consistent state) {holder : Holder} (held : holder ∈ state.live) :
    Consistent { state with
      session := holder.lane.drop state.session
      live := state.live.erase holder } where
  apart := consistent.apart.sublist (List.erase_sublist.map _)
  current := fun other kept => consistent.current other (List.mem_of_mem_erase kept)
  flags := by
    intro index
    -- The lane that is dropped is the only one with its index.
    have nodup : state.live.Nodup := consistent.apart.of_map
    have only : ∀ other ∈ state.live, other.lane.index = holder.lane.index → other = holder :=
      fun other kept same => List.inj_on_of_nodup_map consistent.apart kept held same
    by_cases same : index = holder.lane.index
    · subst same
      simp only [Lane.drop, Function.update_self, Bool.false_eq_true, false_iff]
      rintro ⟨other, kept, same⟩
      have equal := only other (List.mem_of_mem_erase kept) same
      exact (List.Nodup.mem_erase_iff nodup).mp kept |>.1 equal
    · simp only [Lane.drop, Function.update_of_ne same, consistent.flags index]
      constructor
      · rintro ⟨other, kept, rfl⟩
        refine ⟨other, (List.Nodup.mem_erase_iff nodup).mpr ⟨?_, kept⟩, rfl⟩
        rintro rfl
        exact same rfl
      · rintro ⟨other, kept, rfl⟩
        exact ⟨other, List.mem_of_mem_erase kept, rfl⟩
  recorded := consistent.recorded

/-- **Every section keeps the invariant.** -/
theorem next (consistent : Consistent state) {step : LaneStep RemoteStartup}
    (taken : state.next step = some after) : Consistent after := by
  rcases next_cases taken with rfl | ⟨id, index, -, admitted, rfl⟩ |
    ⟨holder, record, -, held, -, rfl⟩ | ⟨holder, -, held, rfl⟩
  · exact consistent
  · exact consistent.enter admitted
  · exact consistent.capture held record
  · exact consistent.drop held

theorem run {steps : List (LaneStep RemoteStartup)} (consistent : Consistent state)
    (ran : runSteps Connections.next state steps = some after) : Consistent after :=
  run_preserves (fun _ _ _ holds taken => Consistent.next holds taken) consistent ran

end Consistent

/-! ## The startup record -/

namespace Connections

variable {state after : Connections RemoteStartup}

/-- A run in which no reservation with another session ID succeeds. -/
def KeepsSession (state : Connections RemoteStartup)
    (steps : List (LaneStep RemoteStartup)) : Prop :=
  Along Connections.next (fun current step _ => ¬ current.Replaces step) state steps

/-- A record is left alone by every section but a reservation for another session. -/
theorem next_retains {step : LaneStep RemoteStartup} (taken : state.next step = some after)
    (keeps : ¬ state.Replaces step) {startup : Arc RemoteStartup}
    (recorded : state.session.startup = some startup) :
    after.session.startup = some startup := by
  rcases next_cases taken with rfl | ⟨id, index, rfl, admitted, rfl⟩ |
    ⟨holder, record, -, -, absent, -⟩ | ⟨holder, -, -, rfl⟩
  · exact recorded
  · have same : state.session.id = id := by
      by_contra other
      exact keeps ⟨other, admitted⟩
    simpa [enter, same] using recorded
  · rw [recorded] at absent
    cases absent
  · exact recorded

/-- **The record stays** as long as no other session is admitted. -/
theorem run_retains {steps : List (LaneStep RemoteStartup)}
    (ran : runSteps Connections.next state steps = some after)
    (keeps : state.KeepsSession steps) {startup : Arc RemoteStartup}
    (recorded : state.session.startup = some startup) :
    after.session.startup = some startup := by
  induction steps generalizing state with
  | nil =>
      rw [runSteps_nil, Option.some.injEq] at ran
      exact ran ▸ recorded
  | cons step rest ih =>
      obtain ⟨next, taken, further⟩ := runSteps_cons ran
      obtain ⟨kept, keepsRest⟩ := keeps next taken
      exact ih further keepsRest (next_retains taken kept recorded)

/-- What is recorded is returned, and nothing is captured. -/
theorem startupFor_recorded {startup : Arc RemoteStartup}
    (recorded : state.session.startup = some startup) (capture : Option RemoteStartup) :
    state.startupFor capture = some startup := by
  unfold startupFor Lane.startup
  rw [recorded]

/-- What is returned is recorded from then on. -/
theorem recorded_of_startupFor {holder : Holder} {capture : Option RemoteStartup}
    {startup : Arc RemoteStartup} (taken : state.next (.startup holder capture) = some after)
    (returned : state.startupFor capture = some startup) :
    after.session.startup = some startup := by
  rw [next, Option.ite_none_right_eq_some] at taken
  obtain ⟨-, result⟩ := taken
  have result := Option.some.inj result
  subst result
  unfold startupFor at returned
  unfold Lane.startup at returned ⊢
  split at returned
  · rename_i recorded
    rw [← returned, recorded]
  · cases returned
  · exact returned

/-- A call uses a lane that lives before and after it. -/
theorem startup_held {holder : Holder} {capture : Option RemoteStartup}
    (taken : state.next (.startup holder capture) = some after) :
    holder ∈ state.live ∧ after.live = state.live ∧ after.session.id = state.session.id := by
  rw [next, Option.ite_none_right_eq_some] at taken
  obtain ⟨held, result⟩ := taken
  have result := Option.some.inj result
  subst result
  refine ⟨held, rfl, ?_⟩
  unfold Lane.startup
  split <;> rfl

/-- A capture that fails leaves everything as it was. -/
theorem next_failed {holder : Holder}
    (taken : state.next (.startup holder none) = some after)
    (absent : state.session.startup = none) :
    state.startupFor none = none ∧ after = state := by
  rw [next, Option.ite_none_right_eq_some] at taken
  obtain ⟨-, result⟩ := taken
  have result := Option.some.inj result
  subst result
  simp [startupFor, capturesAfter, Lane.startup, absent]

end Connections

end Lanes

/-! ## Records -/

/-- What a read from the socket or the pipe gives: a timeout, another error, or at least
one byte. -/
inductive Arrival
  | timedOut
  | failed
  | bytes (first : UInt8) (rest : List UInt8)
  deriving Repr, DecidableEq

/-- Why reading stops. -/
inductive ReadError
  | unexpectedEof
  | invalidData
  | failed
  deriving Repr, DecidableEq

/-- A buffered reader: the bytes that are buffered, and what will still arrive. -/
structure ArrivalReader where
  buffer : List UInt8
  arrivals : List Arrival
  deriving Repr, DecidableEq

/-- The result of `fill_buf`. -/
inductive Fill
  | bytes (available : List UInt8)
  | timedOut
  | failed
  deriving Repr, DecidableEq

namespace ArrivalReader

/-- `fill_buf` reads only when the buffer is empty. No bytes are the end of the input. -/
def fillBuf (reader : ArrivalReader) : ArrivalReader × Fill :=
  match reader.buffer, reader.arrivals with
  | first :: rest, _ => (reader, .bytes (first :: rest))
  | [], [] => (reader, .bytes [])
  | [], .timedOut :: later => (⟨[], later⟩, .timedOut)
  | [], .failed :: later => (⟨[], later⟩, .failed)
  | [], .bytes first rest :: later => (⟨first :: rest, later⟩, .bytes (first :: rest))

def consume (reader : ArrivalReader) (count : Nat) : ArrivalReader :=
  { reader with buffer := reader.buffer.drop count }

end ArrivalReader

structure Records where
  reader : ArrivalReader
  pending : List UInt8
  deriving Repr, DecidableEq

namespace Records

def new (reader : ArrivalReader) : Records := ⟨reader, []⟩

/-- One fill: a record, or nothing yet, or the error that ends the connection. -/
def next (records : Records) (limit : Nat) : Records × Except ReadError (Option (List UInt8)) :=
  match records.reader.fillBuf with
  | (reader, .timedOut) => ({ records with reader := reader }, .ok none)
  | (reader, .failed) => ({ records with reader := reader }, .error .failed)
  | (reader, .bytes bytes) =>
    if bytes = [] then ({ records with reader := reader }, .error .unexpectedEof)
    else
      let position := bytes.findIdx? fun byte => byte == newline
      let count := position.elim bytes.length fun index => index + 1
      if records.pending.length + count > limit then
        ({ records with reader := reader }, .error .invalidData)
      else
        let pending := records.pending ++ bytes.take count
        let reader := reader.consume count
        if position.isSome then
          if 0 ∈ pending ∨ fromUtf8 pending = none then (⟨reader, pending⟩, .error .invalidData)
          else (⟨reader, []⟩, .ok (some pending))
        else (⟨reader, pending⟩, .ok none)

end Records

/-! ### Progress -/

/-- What an arrival is worth in calls. -/
def Arrival.weight : Arrival → Nat
  | .bytes _ rest => rest.length + 2
  | _ => 1

/-- Every call that goes on uses some of this. -/
def ArrivalReader.weight (reader : ArrivalReader) : Nat :=
  reader.buffer.length + (reader.arrivals.map Arrival.weight).sum

/-- The bytes up to the first failure. -/
def streamOf : List Arrival → List UInt8
  | [] => []
  | .timedOut :: later => streamOf later
  | .failed :: _ => []
  | .bytes first rest :: later => first :: rest ++ streamOf later

/-- How the input ends. -/
def endOf : List Arrival → ReadError
  | [] => .unexpectedEof
  | .failed :: _ => .failed
  | _ :: later => endOf later

/-- The bytes that are still to be read. -/
def ArrivalReader.stream (reader : ArrivalReader) : List UInt8 :=
  reader.buffer ++ streamOf reader.arrivals

/-- A fill that offers bytes keeps the stream, and the offer is the buffer. -/
theorem ArrivalReader.fillBuf_bytes {reader next : ArrivalReader} {bytes : List UInt8}
    (filled : reader.fillBuf = (next, .bytes bytes)) (some : bytes ≠ []) :
    next.buffer = bytes ∧ next.stream = reader.stream ∧
      endOf next.arrivals = endOf reader.arrivals ∧ next.weight ≤ reader.weight := by
  obtain ⟨buffer, arrivals⟩ := reader
  unfold fillBuf at filled
  dsimp only at filled
  split at filled
  · cases filled
    exact ⟨rfl, rfl, rfl, Nat.le_refl _⟩
  · cases filled
    exact absurd rfl some
  · cases filled
  · cases filled
  · cases filled
    refine ⟨rfl, rfl, rfl, ?_⟩
    simp [weight, Arrival.weight]

/-- A fill that offers nothing meets the end of the input. -/
theorem ArrivalReader.fillBuf_end {reader next : ArrivalReader}
    (filled : reader.fillBuf = (next, .bytes [])) :
    reader.stream = [] ∧ endOf reader.arrivals = .unexpectedEof := by
  obtain ⟨buffer, arrivals⟩ := reader
  unfold fillBuf at filled
  dsimp only at filled
  split at filled
  · cases filled
  · exact ⟨rfl, rfl⟩
  · cases filled
  · cases filled
  · cases filled

theorem ArrivalReader.fillBuf_timedOut {reader next : ArrivalReader}
    (filled : reader.fillBuf = (next, .timedOut)) :
    next.stream = reader.stream ∧ endOf next.arrivals = endOf reader.arrivals ∧
      next.weight < reader.weight := by
  obtain ⟨buffer, arrivals⟩ := reader
  unfold fillBuf at filled
  dsimp only at filled
  split at filled
  · cases filled
  · cases filled
  · cases filled
    refine ⟨rfl, rfl, ?_⟩
    simp [weight, Arrival.weight]
  · cases filled
  · cases filled

theorem ArrivalReader.fillBuf_failed {reader next : ArrivalReader}
    (filled : reader.fillBuf = (next, .failed)) :
    reader.stream = [] ∧ endOf reader.arrivals = .failed := by
  obtain ⟨buffer, arrivals⟩ := reader
  unfold fillBuf at filled
  dsimp only at filled
  split at filled
  · cases filled
  · cases filled
  · cases filled
  · exact ⟨rfl, rfl⟩
  · cases filled

/-- Taking bytes off the buffer. -/
theorem ArrivalReader.consume_weight {reader : ArrivalReader} {count : Nat} (some : 0 < count)
    (filled : reader.buffer ≠ []) : (reader.consume count).weight < reader.weight := by
  have nonempty : 0 < reader.buffer.length := List.length_pos_of_ne_nil filled
  simp only [weight, consume, List.length_drop]
  omega

theorem ArrivalReader.consume_stream {reader : ArrivalReader} {taken left : List UInt8}
    (buffered : reader.buffer = taken ++ left) :
    reader.stream = taken ++ (reader.consume taken.length).stream := by
  simp [stream, consume, buffered]

namespace Records

variable {records : Records} {limit : Nat}

/-- A fill within a line. -/
theorem next_open {reader : ArrivalReader} {bytes : List UInt8}
    (filled : records.reader.fillBuf = (reader, .bytes bytes)) (some : bytes ≠ [])
    (whole : newline ∉ bytes) :
    records.next limit =
      if records.pending.length + bytes.length > limit then
        ({ records with reader := reader }, .error .invalidData)
      else (⟨reader.consume bytes.length, records.pending ++ bytes⟩, .ok none) := by
  have none : (bytes.findIdx? fun byte => byte == newline) = none := by
    rw [List.findIdx?_eq_none_iff]
    intro byte member
    rw [beq_eq_false_iff_ne]
    rintro rfl
    exact whole member
  unfold next
  simp [filled, some, none]

/-- A fill that ends a line. -/
theorem next_line {reader : ArrivalReader} {line rest : List UInt8}
    (filled : records.reader.fillBuf = (reader, .bytes (line ++ newline :: rest)))
    (first : newline ∉ line) :
    records.next limit =
      if records.pending.length + (line.length + 1) > limit then
        ({ records with reader := reader }, .error .invalidData)
      else if 0 ∈ records.pending ++ (line ++ [newline]) ∨
          fromUtf8 (records.pending ++ (line ++ [newline])) = none then
        (⟨reader.consume (line.length + 1), records.pending ++ (line ++ [newline])⟩,
          .error .invalidData)
      else (⟨reader.consume (line.length + 1), []⟩,
        .ok (some (records.pending ++ (line ++ [newline])))) := by
  have found : ((line ++ newline :: rest).findIdx? fun byte => byte == newline) =
      some line.length := by
    have none : (line.findIdx? fun byte => byte == newline) = none := by
      rw [List.findIdx?_eq_none_iff]
      intro byte member
      rw [beq_eq_false_iff_ne]
      rintro rfl
      exact first member
    rw [List.findIdx?_append, none, List.findIdx?_cons]
    simp
  have taken : (line ++ newline :: rest).take (line.length + 1) = line ++ [newline] := by
    rw [List.append_cons]
    apply List.take_left'
    simp
  unfold next
  simp only [filled, found, Option.elim_some, taken, Option.isSome_some, if_true]
  rw [if_neg (by simp)]

/-- A call that goes on uses something up. -/
theorem next_weight {after : Records} {record : Option (List UInt8)}
    (read : records.next limit = (after, .ok record)) :
    after.reader.weight < records.reader.weight := by
  cases fill : records.reader.fillBuf with
  | mk reader offered =>
    cases offered with
    | timedOut =>
        rw [next, fill] at read
        cases read
        exact (ArrivalReader.fillBuf_timedOut fill).2.2
    | failed =>
        rw [next, fill] at read
        cases read
    | bytes bytes =>
        by_cases nothing : bytes = []
        · rw [next, fill] at read
          simp [nothing] at read
        · obtain ⟨buffered, -, -, weight⟩ := ArrivalReader.fillBuf_bytes fill nothing
          refine Nat.lt_of_lt_of_le ?_ weight
          rcases newline_cases bytes with whole | ⟨line, rest, rfl, first⟩
          · rw [next_open fill nothing whole] at read
            split at read
            · cases read
            · cases read
              apply ArrivalReader.consume_weight (List.length_pos_of_ne_nil nothing)
              exact buffered ▸ nothing
          · rw [next_line fill first] at read
            split at read
            · cases read
            · split at read
              · cases read
              · cases read
                apply ArrivalReader.consume_weight (Nat.succ_pos _)
                exact buffered ▸ nothing

/-- Call `next` until it fails: the records, and the error. -/
def readAll (limit : Nat) (records : Records) : List (List UInt8) × ReadError :=
  match _ : records.next limit with
  | (_, .error error) => ([], error)
  | (after, .ok none) => readAll limit after
  | (after, .ok (some record)) =>
    (record :: (readAll limit after).1, (readAll limit after).2)
termination_by records.reader.weight
decreasing_by
  all_goals
    rename_i read
    exact next_weight read

theorem readAll_error {after : Records} {error : ReadError}
    (read : records.next limit = (after, .error error)) :
    readAll limit records = ([], error) := by
  rw [readAll]
  split <;> rename_i read' <;> rw [read] at read' <;> cases read'
  rfl

theorem readAll_none {after : Records} (read : records.next limit = (after, .ok none)) :
    readAll limit records = readAll limit after := by
  rw [readAll]
  split <;> rename_i read' <;> rw [read] at read' <;> cases read'
  rfl

theorem readAll_some {after : Records} {record : List UInt8}
    (read : records.next limit = (after, .ok (some record))) :
    readAll limit records =
      (record :: (readAll limit after).1, (readAll limit after).2) := by
  rw [readAll]
  split <;> rename_i read' <;> rw [read] at read' <;> cases read'
  rfl

end Records

/-! ### The lines of a stream -/

/-- The lines that end, each with its newline. -/
def completeLines (bytes : List UInt8) : List (List UInt8) :=
  (bytes.splitOn newline).dropLast.map fun line => line ++ [newline]

/-- What comes after the last newline. -/
def unfinishedLine (bytes : List UInt8) : List UInt8 := (bytes.splitOn newline).getLastD []

/-- A line that may be a record. -/
def isRecord (limit : Nat) (line : List UInt8) : Bool :=
  line.length ≤ limit && (fromUtf8 line).isSome && !line.contains 0

/-- The records of a stream, and the error after them. -/
def recordsOf (limit : Nat) (bytes : List UInt8) (ending : ReadError) :
    List (List UInt8) × ReadError :=
  ((completeLines bytes).takeWhile (isRecord limit),
    if (completeLines bytes).all (isRecord limit) ∧ (unfinishedLine bytes).length ≤ limit then
      ending
    else .invalidData)

section Lines

variable {limit : Nat} {ending : ReadError}

theorem recordsOf_open {bytes : List UInt8} (whole : newline ∉ bytes) :
    recordsOf limit bytes ending =
      ([], if bytes.length ≤ limit then ending else .invalidData) := by
  have pieces : bytes.splitOn newline = [bytes] := by
    apply List.splitOn_eq_singleton
    exact whole
  simp [recordsOf, completeLines, unfinishedLine, pieces]

theorem recordsOf_line {line : List UInt8} (first : newline ∉ line) (rest : List UInt8) :
    recordsOf limit (line ++ newline :: rest) ending =
      if isRecord limit (line ++ [newline]) then
        ((line ++ [newline]) :: (recordsOf limit rest ending).1, (recordsOf limit rest ending).2)
      else ([], .invalidData) := by
  have pieces : (line ++ newline :: rest).splitOn newline = line :: rest.splitOn newline :=
    List.splitOn_append_cons_self_of_not_mem first rest
  have some : rest.splitOn newline ≠ [] := List.splitOn_ne_nil _ _
  have complete : completeLines (line ++ newline :: rest) =
      (line ++ [newline]) :: completeLines rest := by
    rw [completeLines, pieces, List.dropLast_cons_of_ne_nil some, List.map_cons]
    rfl
  have unfinished : unfinishedLine (line ++ newline :: rest) = unfinishedLine rest := by
    obtain ⟨piece, more, restPieces⟩ := List.exists_cons_of_ne_nil some
    rw [unfinishedLine, unfinishedLine, pieces, restPieces]
    rfl
  rw [recordsOf, recordsOf, complete, unfinished]
  by_cases valid : isRecord limit (line ++ [newline]) = true
  · simp [valid]
  · simp [valid]

/-- Too many bytes without a newline are never part of a record. -/
theorem recordsOf_overlong {start more : List UInt8} (whole : newline ∉ start)
    (long : limit < start.length) : recordsOf limit (start ++ more) ending = ([], .invalidData) := by
  rcases newline_cases more with none | ⟨line, rest, rfl, first⟩
  · have absent : newline ∉ start ++ more := by simp [whole, none]
    rw [recordsOf_open absent, if_neg]
    rw [List.length_append]
    omega
  · have absent : newline ∉ start ++ line := by simp [whole, first]
    have invalid : isRecord limit (start ++ line ++ [newline]) = false := by
      simp [isRecord]
      omega
    rw [← List.append_assoc, recordsOf_line absent, invalid]
    rfl

end Lines

/-- **Records are the lines of the stream.** The induction is on what is left to read,
with the pending bytes as the beginning of the stream. -/
theorem Records.readAll_pending {limit : Nat} (records : Records)
    (whole : newline ∉ records.pending) (short : records.pending.length ≤ limit) :
    records.readAll limit =
      recordsOf limit (records.pending ++ records.reader.stream)
        (endOf records.reader.arrivals) := by
  induction size : records.reader.weight using Nat.strong_induction_on generalizing records with
  | _ _ ih =>
    subst size
    cases fill : records.reader.fillBuf with
    | mk reader offered =>
      cases offered with
      | timedOut =>
          obtain ⟨stream, ending, less⟩ := ArrivalReader.fillBuf_timedOut fill
          have read : records.next limit = ({ records with reader := reader }, .ok none) := by
            rw [next, fill]
          rw [readAll_none read, ih _ less { records with reader := reader } whole short rfl,
            stream, ending]
      | failed =>
          obtain ⟨stream, ending⟩ := ArrivalReader.fillBuf_failed fill
          have read : records.next limit = ({ records with reader := reader }, .error .failed) := by
            rw [next, fill]
          rw [readAll_error read, stream, List.append_nil, recordsOf_open whole, if_pos short,
            ending]
      | bytes bytes =>
          by_cases nothing : bytes = []
          · subst nothing
            obtain ⟨stream, ending⟩ := ArrivalReader.fillBuf_end fill
            have read : records.next limit =
                ({ records with reader := reader }, .error .unexpectedEof) := by
              rw [next, fill]
              rfl
            rw [readAll_error read, stream, List.append_nil, recordsOf_open whole, if_pos short,
              ending]
          · have weight := @next_weight records limit
            obtain ⟨buffered, stream, ending, -⟩ := ArrivalReader.fillBuf_bytes fill nothing
            rw [← stream, ← ending]
            rcases newline_cases bytes with absent | ⟨line, rest, rfl, first⟩
            · have read : records.next limit = _ := next_open fill nothing absent
              have more : reader.stream = bytes ++ (reader.consume bytes.length).stream :=
                ArrivalReader.consume_stream (by rw [buffered, List.append_nil])
              have longer : newline ∉ records.pending ++ bytes := by simp [whole, absent]
              rw [more, ← List.append_assoc]
              by_cases long : records.pending.length + bytes.length > limit
              · rw [if_pos long] at read
                rw [readAll_error read, recordsOf_overlong longer]
                rw [List.length_append]
                exact long
              · rw [if_neg long] at read
                have within : (records.pending ++ bytes).length ≤ limit := by
                  rw [List.length_append]
                  omega
                rw [readAll_none read, ih _ (weight read) _ longer within rfl]
                rfl
            · have read : records.next limit = _ := next_line fill first
              have more : reader.stream =
                  line ++ newline :: (reader.consume (line.length + 1)).stream := by
                have split : reader.buffer = (line ++ [newline]) ++ rest := by simp [buffered]
                simpa using ArrivalReader.consume_stream split
              have absent : newline ∉ records.pending ++ line := by simp [whole, first]
              rw [more, ← List.append_assoc, recordsOf_line absent, List.append_assoc]
              by_cases long : records.pending.length + (line.length + 1) > limit
              · have invalid :
                    isRecord limit (records.pending ++ (line ++ [newline])) = false := by
                  simp [isRecord]
                  omega
                rw [if_pos long] at read
                rw [readAll_error read, invalid]
                rfl
              · rw [if_neg long] at read
                by_cases bad : 0 ∈ records.pending ++ (line ++ [newline]) ∨
                    fromUtf8 (records.pending ++ (line ++ [newline])) = none
                · have invalid :
                      isRecord limit (records.pending ++ (line ++ [newline])) = false := by
                    rcases bad with zero | undecodable
                    · simp [isRecord, zero]
                    · simp [isRecord, undecodable]
                  rw [if_pos bad] at read
                  rw [readAll_error read, invalid]
                  rfl
                · have valid :
                      isRecord limit (records.pending ++ (line ++ [newline])) = true := by
                    obtain ⟨zero, decodable⟩ := not_or.mp bad
                    have decodable := Option.isSome_iff_ne_none.mpr decodable
                    simp only [isRecord, decodable, Bool.and_true, Bool.and_eq_true,
                      decide_eq_true_eq, Bool.not_eq_true', List.contains_eq_mem,
                      decide_eq_false_iff_not]
                    refine ⟨?_, zero⟩
                    simp only [List.length_append, List.length_singleton]
                    omega
                  rw [if_neg bad] at read
                  rw [readAll_some read, valid, if_pos rfl,
                    ih _ (weight read) _ List.not_mem_nil (Nat.zero_le _) rfl]
                  rfl

/-! ## The result -/

/-- What holds of the lanes and of the startup record in a state of the connections. -/
structure SessionGuarantees {RemoteStartup : Type*} (state : Connections RemoteStartup) :
    Prop where
  apart : (state.live.map fun holder => holder.lane.index).Nodup
  current : ∀ holder ∈ state.live, holder.id = state.session.id
  flags : ∀ index, state.session.lanes index = true ↔
    ∃ holder ∈ state.live, holder.lane.index = index
  /-- Another session is admitted only when no lane lives. -/
  idle : ∀ id index, state.session.id ≠ id → state.Reserves id index → state.live = []
  /-- What a lane is given was captured for its session ID. -/
  own : ∀ holder capture after startup,
    state.next (.startup holder capture) = some after →
    state.startupFor capture = some startup →
    after.captures[startup.address]? = some (holder.id, startup.value)
  /-- Every later call is given the same record, and captures nothing, until a reservation
  with another session ID succeeds. -/
  retained : ∀ holder capture after startup,
    state.next (.startup holder capture) = some after →
    state.startupFor capture = some startup →
    ∀ later final, runSteps Connections.next after later = some final →
    after.KeepsSession later →
    ∀ holder' capture' final', final.next (.startup holder' capture') = some final' →
      holder'.id = holder.id ∧ final.startupFor capture' = some startup ∧ final' = final
  /-- A failed capture records nothing. -/
  failed : ∀ holder after, state.next (.startup holder none) = some after →
    state.session.startup = none → state.startupFor none = none ∧ after = state

namespace Connections

variable {RemoteStartup : Type*} {state after : Connections RemoteStartup}

/-- The session ID stays as long as no other session is admitted. -/
theorem next_id {step : LaneStep RemoteStartup} (taken : state.next step = some after)
    (keeps : ¬ state.Replaces step) : after.session.id = state.session.id := by
  rcases next_cases taken with rfl | ⟨id, index, rfl, admitted, rfl⟩ |
    ⟨holder, record, -, -, -, rfl⟩ | ⟨holder, -, -, rfl⟩
  · rfl
  · by_contra other
    apply keeps
    exact ⟨fun same => other same.symm, admitted⟩
  · rfl
  · rfl

theorem run_id {steps : List (LaneStep RemoteStartup)}
    (ran : runSteps Connections.next state steps = some after)
    (keeps : state.KeepsSession steps) : after.session.id = state.session.id := by
  induction steps generalizing state with
  | nil =>
      rw [runSteps_nil, Option.some.injEq] at ran
      rw [ran]
  | cons step rest ih =>
      obtain ⟨next, taken, further⟩ := runSteps_cons ran
      obtain ⟨kept, keepsRest⟩ := keeps next taken
      rw [ih further keepsRest, next_id taken kept]

/-- A call on a recorded session changes nothing. -/
theorem next_recorded {holder : Holder} {capture : Option RemoteStartup}
    {startup : Arc RemoteStartup} (recorded : state.session.startup = some startup)
    (taken : state.next (.startup holder capture) = some after) : after = state := by
  rw [next, Option.ite_none_right_eq_some] at taken
  obtain ⟨-, result⟩ := taken
  have result := Option.some.inj result
  subst result
  simp [Lane.startup, capturesAfter, recorded]

end Connections

theorem Consistent.guarantees {RemoteStartup : Type*} {state : Connections RemoteStartup}
    (consistent : Consistent state) : SessionGuarantees state where
  apart := consistent.apart
  current := consistent.current
  flags := consistent.flags
  idle := fun _ _ other admitted => consistent.idle admitted other
  own := by
    intro holder capture after startup taken returned
    have recorded := Connections.recorded_of_startupFor taken returned
    obtain ⟨held, -, sameId⟩ := Connections.startup_held taken
    rw [consistent.current holder held, ← sameId]
    exact (consistent.next taken).recorded startup recorded
  retained := by
    intro holder capture after startup taken returned later final ran keeps holder' capture'
      final' called
    have recorded := Connections.recorded_of_startupFor taken returned
    have kept := Connections.run_retains ran keeps recorded
    obtain ⟨held, -, sameId⟩ := Connections.startup_held taken
    obtain ⟨held', -, -⟩ := Connections.startup_held called
    refine ⟨?_, Connections.startupFor_recorded kept capture',
      Connections.next_recorded kept called⟩
    have reached := (consistent.next taken).run ran
    rw [reached.current holder' held', Connections.run_id ran keeps, sameId,
      consistent.current holder held]
  failed := fun _ _ taken absent => Connections.next_failed taken absent

/-- **Remote session lanes and their records.** In every interleaving of the
connections the lanes and the startup record belong to the current session; and
whatever the segments and the timeouts of a stream are, `Records.next` gives the
lines of the stream up to the first that is no record. -/
theorem remote_sessions {RemoteStartup : Type*} :
    (∀ (steps : List (LaneStep RemoteStartup)) (state : Connections RemoteStartup),
      runSteps Connections.next Connections.start steps = some state →
        SessionGuarantees state) ∧
      ∀ (limit : Nat) (arrivals : List Arrival),
        (Records.new ⟨[], arrivals⟩).readAll limit =
          recordsOf limit (streamOf arrivals) (endOf arrivals) := by
  constructor
  · intro steps state ran
    exact (Consistent.run Consistent.start ran).guarantees
  · intro limit arrivals
    exact Records.readAll_pending (Records.new ⟨[], arrivals⟩) List.not_mem_nil (Nat.zero_le _)

/-- One connection captures and leaves, another comes. -/
def recovery : List (LaneStep Nat) :=
  [.reserve "one" 0, .startup ⟨0, "one", ⟨0⟩⟩ (some 7), .drop ⟨0, "one", ⟨0⟩⟩, .reserve "one" 1]

/-- A session that lost its lane is given the same record again. -/
theorem recovered_session_keeps_record :
    ∃ final, runSteps Connections.next Connections.start recovery = some final ∧
      final.startupFor (some 9) = some ⟨0, 7⟩ ∧ SessionGuarantees final :=
  ⟨_, rfl, rfl, remote_sessions.1 recovery _ rfl⟩

end Omnivox.Server
