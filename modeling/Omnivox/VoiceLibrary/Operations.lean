import Omnivox.Foundations.Json
import Omnivox.Server.ProtocolLines
import Omnivox.VoiceLibrary.Metadata

/-!
# The journal of a validation operation

A supervisor writes down what it observes of one validation: a record for each change of state,
in a frame that ends with the digest of the record. A record names the digest of the record
before it, and the first one that of the plan.

A journal is read from its bytes frame by frame. Whatever does not fit is damage, which is never
removed, and a damaged journal is not extended.

SHA-256 and the readers of `serde_json` are parameters. A read that panics or does not finish is
a fault.
-/

set_option autoImplicit false

namespace Omnivox.VoiceLibrary

open Foundations
open Server (fromUtf8 newline)

def MAX_RECORD_BYTES : Nat := 8 * 1024
def MAX_RECORDS : Nat := 1024
def MAX_JOURNAL_BYTES : Nat := MAX_RECORDS * (MAX_RECORD_BYTES + 66)

/-- The text of an error. -/
def LibraryError.describe : LibraryError → String
  | .invalid reason => s!"invalid voice library: {reason}"
  | .json reason => s!"invalid voice-library JSON: {reason}"
  | .io reason => s!"could not read voice library: {reason}"
  | .asset path reason => s!"could not verify voice-library asset {path}: {reason}"

/-! ## Transitions -/

inductive ValidationState where
  | prepared
  | validating
  | staged
  | cancelled
  | failed
  | recoveryFailed
  deriving Repr, DecidableEq

inductive Cleanup where
  | notStarted
  | unconfirmed
  | confirmed
  deriving Repr, DecidableEq

structure Transition where
  state : ValidationState
  cleanup : Cleanup
  evidenceSha256 : Option String
  detail : Option String
  deriving Repr, DecidableEq

/-- The states that may follow a state, or come first. -/
def validTransition : Option ValidationState → ValidationState → Bool
  | none, .prepared => true
  | some .prepared, .validating => true
  | some .prepared, .cancelled => true
  | some .prepared, .failed => true
  | some .validating, .staged => true
  | some .validating, .cancelled => true
  | some .validating, .failed => true
  | some .validating, .recoveryFailed => true
  | _, _ => false

/-- What is said of the cleanup in a state. -/
def expectedCleanup (previous : Option ValidationState) : ValidationState → Cleanup
  | .prepared => .notStarted
  | .validating => .unconfirmed
  | .recoveryFailed => .unconfirmed
  | .cancelled => if previous = some .prepared then .notStarted else .confirmed
  | .failed => if previous = some .prepared then .notStarted else .confirmed
  | .staged => .confirmed

/-- An outcome that is explained. -/
def ValidationState.explained : ValidationState → Bool
  | .cancelled => true
  | .failed => true
  | .recoveryFailed => true
  | _ => false

def Transition.validate (transition : Transition) (previous : Option ValidationState) :
    Except LibraryError Unit := do
  require (validTransition previous transition.state)
    "invalid validation operation state transition"
  require (transition.cleanup == expectedCleanup previous transition.state)
    "operation cleanup statement contradicts its state"
  require (transition.evidenceSha256.isSome == (transition.state == .staged))
    "staged validation requires exactly one evidence digest"
  transition.evidenceSha256.toList.forM sha256
  require (transition.detail.isSome == transition.state.explained)
    "operation outcome requires a bounded explanation"
  transition.detail.toList.forM fun value => text value 1024

/-! ## Records -/

structure JournalRecord where
  schemaVersion : Nat
  sequence : Nat
  previousSha256 : String
  planSha256 : String
  /-- Diagnostics only. -/
  writerPid : Nat
  recordedUnixSeconds : Nat
  transition : Transition
  deriving Repr, DecidableEq

def ValidationState.name : ValidationState → String
  | .prepared => "prepared"
  | .validating => "validating"
  | .staged => "staged"
  | .cancelled => "cancelled"
  | .failed => "failed"
  | .recoveryFailed => "recovery_failed"

def Cleanup.name : Cleanup → String
  | .notStarted => "not_started"
  | .unconfirmed => "unconfirmed"
  | .confirmed => "confirmed"

def Transition.toJson (transition : Transition) : Json :=
  .object [
    ("state", .string transition.state.name),
    ("cleanup", .string transition.cleanup.name),
    ("evidence_sha256", Json.nullOr .string transition.evidenceSha256),
    ("detail", Json.nullOr .string transition.detail)]

def JournalRecord.toJson (record : JournalRecord) : Json :=
  .object [
    ("schema_version", .number record.schemaVersion),
    ("sequence", .number record.sequence),
    ("previous_sha256", .string record.previousSha256),
    ("plan_sha256", .string record.planSha256),
    ("writer_pid", .number record.writerPid),
    ("recorded_unix_seconds", .number record.recordedUnixSeconds),
    ("transition", record.transition.toJson)]

/-- `serde_json::to_vec`. -/
def JournalRecord.toVec (record : JournalRecord) : List UInt8 := record.toJson.text

/-- What the journal takes from outside: SHA-256 in lower-case hexadecimal, and the readers of
JSON text. -/
structure JournalCodec where
  digest : List UInt8 → String
  /-- `DuplicateFreeJson`. -/
  duplicateFree : List UInt8 → Except String Unit
  fromSlice : List UInt8 → Except String JournalRecord

def JournalCodec.decode (codec : JournalCodec) (bytes : List UInt8) (limit : Nat) :
    Except LibraryError JournalRecord := do
  require (bytes.length ≤ limit) "JSON input exceeds byte limit"
  (codec.duplicateFree bytes).mapError .json
  (codec.fromSlice bytes).mapError .json

/-! ## Journals -/

/-- A validation request, of which the journal reads the source bytes. -/
structure ValidationPlan where
  source : List UInt8
  deriving Repr, DecidableEq

/-- All complete, consistent records up to the first damaged frame. -/
structure Journal where
  records : List JournalRecord
  digest : String
  bytes : List UInt8
  damage : Option String
  deriving Repr, DecidableEq

/-- Why a journal is not read. -/
inductive JournalFault where
  | library (error : LibraryError)
  | panicked
  | unfinished
  deriving Repr, DecidableEq

/-- `as_bytes`. -/
def asBytes (value : String) : List UInt8 := value.toList.flatMap String.utf8EncodeChar

/-- `&bytes[start..stop]`, which panics outside. -/
def slice (bytes : List UInt8) (start stop : Nat) : Except JournalFault (List UInt8) :=
  if start ≤ stop ∧ stop ≤ bytes.length then .ok ((bytes.take stop).drop start)
  else .error .panicked

/-- `bytes[index]`, which panics outside. -/
def byteAt (bytes : List UInt8) (index : Nat) : Except JournalFault UInt8 :=
  orError .panicked bytes[index]?

/-- A check whose failure is damage. -/
def check (condition : Bool) (reason : String) : Except JournalFault Unit :=
  (require condition reason).mapError .library

namespace Journal

def state (journal : Journal) : Option ValidationState :=
  journal.records.getLast?.map fun record => record.transition.state

/-- The record of a checked frame. -/
def consistent (journal : Journal) (planSha256 : String) (record : JournalRecord) :
    Except JournalFault Unit := do
  check (record.schemaVersion == 1 && record.sequence == journal.records.length &&
      record.previousSha256 == journal.digest && record.planSha256 == planSha256)
    "operation journal identity or sequence mismatch"
  check (record.writerPid != 0 && 0 < record.recordedUnixSeconds)
    "invalid journal writer diagnostics"
  (record.transition.validate journal.state).mapError .library

/-- The record, its digest and the position behind its frame. -/
def readRecord (codec : JournalCodec) (journal : Journal) (position : Nat) (planSha256 : String) :
    Except JournalFault (JournalRecord × String × Nat) := do
  check (journal.records.length < MAX_RECORDS) "operation journal has too many records"
  let rest ← slice journal.bytes position journal.bytes.length
  let length ← orError (.library (.invalid "incomplete or oversized journal record"))
    ((rest.take (MAX_RECORD_BYTES + 1)).findIdx? fun byte => byte == newline)
  check (0 < length && length ≤ MAX_RECORD_BYTES && length + 66 ≤ rest.length)
    "incomplete journal checksum frame"
  let field ← slice rest (length + 1) (length + 65)
  let checksum ← orError (.library (.invalid "invalid journal checksum encoding")) (fromUtf8 field)
  let last ← byteAt rest (length + 65)
  let body ← slice rest 0 length
  check (last == newline && checksum == codec.digest body) "operation journal checksum mismatch"
  let record ← (codec.decode body MAX_RECORD_BYTES).mapError .library
  journal.consistent planSha256 record
  return (record, checksum, position + length + 66)

/-- Read records until the bytes end or a record is damaged. -/
def readRecords (codec : JournalCodec) (planSha256 : String) :
    Nat → Journal → Nat → Except JournalFault Journal
  | 0, _, _ => .error .unfinished
  | fuel + 1, journal, position =>
      if position < journal.bytes.length then
        match journal.readRecord codec position planSha256 with
        | .ok (record, checksum, next) =>
            readRecords codec planSha256 fuel
              { journal with records := journal.records ++ [record], digest := checksum } next
        | .error (.library error) => .ok { journal with damage := some error.describe }
        | .error fault => .error fault
      else .ok journal

/-- A journal needs its first record. -/
def requirePrepared (journal : Journal) : Journal :=
  if journal.records.isEmpty && journal.damage.isNone then
    { journal with damage := some "operation journal has no prepared record" }
  else journal

/-- Every frame takes bytes, so there are no more of them than bytes. -/
def read (codec : JournalCodec) (plan : ValidationPlan) (bytes : List UInt8) :
    Except JournalFault Journal := do
  check (bytes.length ≤ MAX_JOURNAL_BYTES) "JSON input exceeds byte limit"
  let planSha256 := codec.digest plan.source
  let journal ← readRecords codec planSha256 (bytes.length + 1) ⟨[], planSha256, bytes, none⟩ 0
  return journal.requirePrepared

/-! ## Extending -/

/-- What a process knows of itself when it writes: no time stands for a clock in front of the
Unix epoch. -/
structure Writer where
  pid : Nat
  sinceEpoch : Option Nat
  deriving Repr, DecidableEq

/-- The record of the next transition. -/
def nextRecord (codec : JournalCodec) (journal : Journal) (plan : ValidationPlan)
    (pid seconds : Nat) (transition : Transition) : JournalRecord where
  schemaVersion := 1
  sequence := journal.records.length % 2 ^ 32
  previousSha256 := journal.digest
  planSha256 := codec.digest plan.source
  writerPid := pid
  recordedUnixSeconds := seconds
  transition := transition

/-- The frame of a record: its text and its digest, each on a line. -/
def frame (codec : JournalCodec) (body : List UInt8) : List UInt8 :=
  body ++ newline :: (asBytes (codec.digest body) ++ [newline])

def nextFrame (codec : JournalCodec) (journal : Journal) (plan : ValidationPlan) (writer : Writer)
    (transition : Transition) : Except LibraryError (List UInt8) := do
  require journal.damage.isNone "damaged operation journal cannot be extended"
  require (journal.records.length < MAX_RECORDS) "operation journal has too many records"
  transition.validate journal.state
  let seconds ← orError (.invalid "system clock precedes Unix epoch") writer.sinceEpoch
  let body := (journal.nextRecord codec plan writer.pid seconds transition).toVec
  require (body.length ≤ MAX_RECORD_BYTES) "operation record exceeds byte limit"
  return frame codec body

/-- The journal of an operation that is created. -/
def fresh (codec : JournalCodec) (plan : ValidationPlan) : Journal :=
  ⟨[], codec.digest plan.source, [], none⟩

end Journal

end Omnivox.VoiceLibrary
