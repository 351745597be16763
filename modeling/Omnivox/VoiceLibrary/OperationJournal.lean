import Omnivox.Foundations.FrameLog
import Omnivox.VoiceLibrary.Operations

/-!
# What a journal keeps

The frames of a journal are chained by what each leaves behind: the number of records, the
digest of the last one and its state (`frameRules`). A frame ends its record with a newline,
which no record contains, so the bytes tell their frames (`separated`).

Reading returns the longest chain at the front of the bytes (`read_longest`). A journal that was
written frame by frame is read back (`Written.kept`), and whatever is done to its bytes behind
some frame, the records up to there are read as they were (`journal_frames`).
-/

set_option autoImplicit false

namespace Omnivox.VoiceLibrary

open Foundations
open Server (fromUtf8 fromUtf8_eq_some newline newline_cases findIdx?_newline)

/-! ## Bytes -/

theorem toByteArray_asBytes (value : String) : (asBytes value).toByteArray = value.toByteArray :=
  String.utf8Encode_toList

theorem length_asBytes (value : String) : (asBytes value).length = value.utf8ByteSize := by
  rw [← List.size_toByteArray, toByteArray_asBytes, String.size_toByteArray]

/-- Bytes are the text that they encode. -/
theorem fromUtf8_eq_some_iff {bytes : List UInt8} {value : String} :
    fromUtf8 bytes = some value ↔ bytes = asBytes value := by
  have given : (⟨bytes.toArray⟩ : ByteArray) = bytes.toByteArray :=
    ByteArray.ext List.data_toByteArray.symm
  rw [fromUtf8_eq_some, given, ← toByteArray_asBytes, List.toByteArray_inj, eq_comm]

theorem slice_eq_ok {bytes part : List UInt8} {start stop : Nat} :
    slice bytes start stop = .ok part ↔
      start ≤ stop ∧ stop ≤ bytes.length ∧ part = (bytes.take stop).drop start := by
  unfold slice
  split
  · rename_i inside
    rw [Except.ok.injEq, and_iff_right inside.1, and_iff_right inside.2, eq_comm]
  · rename_i outside
    exact iff_of_false (fun impossible => by cases impossible) fun given =>
      outside ⟨given.1, given.2.1⟩

@[simp] theorem check_eq_ok {condition : Bool} {reason : String} {u : Unit} :
    check condition reason = .ok u ↔ condition = true := by
  rw [check, mapError_eq_ok, require_eq_ok]

/-- The bytes behind a position. -/
theorem slice_rest {bytes : List UInt8} {position : Nat} (within : position ≤ bytes.length) :
    slice bytes position bytes.length = .ok (bytes.drop position) :=
  slice_eq_ok.mpr ⟨within, le_rfl, by rw [List.take_length]⟩

section Lines

variable {line behind : List UInt8}

theorem slice_body : slice (line ++ newline :: behind) 0 line.length = .ok line :=
  slice_eq_ok.mpr ⟨Nat.zero_le _, by simp, by simp⟩

/-- The digest takes 64 bytes behind the newline. -/
theorem slice_checksum (long : 64 ≤ behind.length) :
    slice (line ++ newline :: behind) (line.length + 1) (line.length + 65) =
      .ok (behind.take 64) := by
  refine slice_eq_ok.mpr ⟨by omega, ?_, ?_⟩
  · rw [List.length_append, List.length_cons]
    omega
  · have split : line ++ newline :: behind = (line ++ [newline]) ++ behind := by simp
    have front : line.length + 65 = (line ++ [newline]).length + 64 := by simp
    have skip : line.length + 1 = (line ++ [newline]).length := by simp
    rw [split, front, List.take_length_add_append, skip, List.drop_left]

theorem byteAt_last : byteAt (line ++ newline :: behind) (line.length + 65) =
    orError .panicked behind[64]? := by
  rw [byteAt, List.getElem?_append_right (by omega)]
  have index : line.length + 65 - line.length = 64 + 1 := by omega
  rw [index, List.getElem?_cons_succ]

/-- Scanning for the end of a record finds a line, or none that is short enough. -/
theorem scan_newline {rest : List UInt8} {limit length : Nat}
    (found : ((rest.take limit).findIdx? fun byte => byte == newline) = some length) :
    ∃ line behind, rest = line ++ newline :: behind ∧ newline ∉ line ∧ line.length = length := by
  rcases newline_cases (rest.take limit) with whole | ⟨line, more, split, first⟩
  · rw [List.findIdx?_eq_none_iff.mpr fun byte member => by
      rw [beq_eq_false_iff_ne]
      rintro rfl
      exact whole member] at found
    cases found
  · rw [split, findIdx?_newline first] at found
    refine ⟨line, more ++ rest.drop limit, ?_, first, Option.some.inj found⟩
    rw [← List.cons_append, ← List.append_assoc, ← split, List.take_append_drop]

theorem scan_line (first : newline ∉ line) {limit : Nat} (short : line.length < limit) :
    (((line ++ newline :: behind).take limit).findIdx? fun byte => byte == newline) =
      some line.length := by
  obtain ⟨more, rfl⟩ := Nat.exists_eq_add_of_lt short
  have front : (line ++ newline :: behind).take (line.length + more + 1) =
      line ++ newline :: behind.take more := by
    rw [Nat.add_assoc, List.take_length_add_append, List.take_succ_cons]
  rw [front, findIdx?_newline first]

end Lines

/-! ## Chained frames -/

/-- What the records so far leave behind. -/
structure ChainPoint where
  count : Nat
  digest : String
  state : Option ValidationState
  deriving Repr, DecidableEq

/-- A record and the text that it is read from. -/
structure JournalFrame where
  body : List UInt8
  record : JournalRecord
  deriving Repr, DecidableEq

/-- A frame continues a journal: its text is one bounded line that is decoded to its record, and
the record agrees with what the records before it left behind. -/
structure Continues (codec : JournalCodec) (planSha256 : String) (point : ChainPoint)
    (frame : JournalFrame) : Prop where
  room : point.count < MAX_RECORDS
  nonempty : 0 < frame.body.length
  bounded : frame.body.length ≤ MAX_RECORD_BYTES
  line : newline ∉ frame.body
  decoded : codec.decode frame.body MAX_RECORD_BYTES = .ok frame.record
  schema : frame.record.schemaVersion = 1
  sequence : frame.record.sequence = point.count
  previous : frame.record.previousSha256 = point.digest
  plan : frame.record.planSha256 = planSha256
  pid : frame.record.writerPid ≠ 0
  seconds : 0 < frame.record.recordedUnixSeconds
  transition : frame.record.transition.validate point.state = .ok ()

/-- How the frames of a journal are chained. -/
def frameRules (codec : JournalCodec) (planSha256 : String) :
    FrameRules ChainPoint JournalFrame UInt8 where
  accepts := Continues codec planSha256
  after point frame :=
    ⟨point.count + 1, codec.digest frame.body, some frame.record.transition.state⟩
  bytes frame := Journal.frame codec frame.body

/-- Where a chain begins. -/
def ChainPoint.start (planSha256 : String) : ChainPoint := ⟨0, planSha256, none⟩

/-- How the frames of the journal of a plan are chained, and where they begin. -/
abbrev rulesOf (codec : JournalCodec) (plan : ValidationPlan) :
    FrameRules ChainPoint JournalFrame UInt8 := frameRules codec (codec.digest plan.source)

abbrev startOf (codec : JournalCodec) (plan : ValidationPlan) : ChainPoint :=
  .start (codec.digest plan.source)

variable {codec : JournalCodec} {planSha256 : String}

/-- Two lines that end the same bytes are the same. -/
theorem line_determined {first second rest rest' : List UInt8} (line : newline ∉ first)
    (line' : newline ∉ second) (same : first ++ newline :: rest = second ++ newline :: rest') :
    first = second := by
  have index := findIdx?_newline line rest
  rw [same, findIdx?_newline line' rest', Option.some.injEq] at index
  exact (List.append_inj same index.symm).1

/-- **The bytes of a journal tell its frames.** -/
theorem separated : (frameRules codec planSha256).Separated where
  nonempty := by
    intro point frame _ empty
    have lengths := congrArg List.length empty
    simp [frameRules, Journal.frame] at lengths
  determined := by
    intro point first second rest rest' accepted accepted' same
    dsimp only [frameRules, Journal.frame] at same
    simp only [List.append_assoc, List.cons_append] at same
    have body := line_determined accepted.line accepted'.line same
    have decoded := accepted.decoded
    rw [body, accepted'.decoded] at decoded
    obtain ⟨body₁, record₁⟩ := first
    obtain ⟨body₂, record₂⟩ := second
    rw [JournalFrame.mk.injEq]
    exact ⟨body, (Except.ok.inj decoded).symm⟩

namespace Journal

def point (journal : Journal) : ChainPoint :=
  ⟨journal.records.length, journal.digest, journal.state⟩

/-- The checks of a record that was decoded. -/
theorem consistent_eq_ok {journal : Journal} {record : JournalRecord} :
    journal.consistent planSha256 record = .ok () ↔
      record.schemaVersion = 1 ∧ record.sequence = journal.point.count ∧
        record.previousSha256 = journal.point.digest ∧ record.planSha256 = planSha256 ∧
        record.writerPid ≠ 0 ∧ 0 < record.recordedUnixSeconds ∧
        record.transition.validate journal.point.state = .ok () := by
  rw [consistent, seq_eq_ok, seq_eq_ok, check_eq_ok, check_eq_ok, mapError_eq_ok]
  simp [point, and_assoc]

/-- **A record that is read** is that of a frame that continues the journal. -/
theorem readRecord_ok {journal : Journal} {position next : Nat} {record : JournalRecord}
    {checksum : String} (within : position ≤ journal.bytes.length)
    (read : journal.readRecord codec position planSha256 = .ok (record, checksum, next)) :
    ∃ frame rest, Continues codec planSha256 journal.point frame ∧ frame.record = record ∧
      checksum = codec.digest frame.body ∧
      journal.bytes.drop position = Journal.frame codec frame.body ++ rest ∧
      next = position + (Journal.frame codec frame.body).length := by
  rw [readRecord, seq_eq_ok, check_eq_ok, decide_eq_true_eq] at read
  obtain ⟨room, read⟩ := read
  rw [slice_rest within, ok_bind, bind_eq_ok] at read
  obtain ⟨length, scanned, read⟩ := read
  rw [orError_eq_ok] at scanned
  obtain ⟨line, behind, split, first, rfl⟩ := scan_newline scanned
  rw [split, seq_eq_ok, check_eq_ok] at read
  obtain ⟨lengths, read⟩ := read
  simp only [Bool.and_eq_true, decide_eq_true_eq, List.length_append, List.length_cons] at lengths
  obtain ⟨⟨nonempty, bounded⟩, whole⟩ := lengths
  rw [slice_checksum (by omega), ok_bind, bind_eq_ok] at read
  obtain ⟨text, encoded, read⟩ := read
  rw [orError_eq_ok, fromUtf8_eq_some_iff] at encoded
  rw [byteAt_last, bind_eq_ok] at read
  obtain ⟨last, ended, read⟩ := read
  rw [orError_eq_ok] at ended
  rw [slice_body, ok_bind, seq_eq_ok, check_eq_ok, Bool.and_eq_true, beq_iff_eq, beq_iff_eq] at read
  obtain ⟨⟨rfl, rfl⟩, read⟩ := read
  rw [bind_eq_ok] at read
  obtain ⟨decodedRecord, decoded, read⟩ := read
  rw [mapError_eq_ok] at decoded
  rw [seq_eq_ok, consistent_eq_ok] at read
  obtain ⟨⟨schema, sequence, previous, plan, pid, seconds, transition⟩, result⟩ := read
  cases result
  have frameBytes : line ++ newline :: behind =
      Journal.frame codec line ++ behind.drop 65 := by
    have tail : behind = behind.take 64 ++ newline :: behind.drop 65 := by
      obtain ⟨inside, here⟩ := List.getElem?_eq_some_iff.mp ended
      conv_lhs => rw [← List.take_append_drop 64 behind]
      rw [List.drop_eq_getElem_cons inside, here]
    rw [Journal.frame, ← encoded]
    conv_lhs => rw [tail]
    simp
  have frameLength : (Journal.frame codec line).length = line.length + 66 := by
    have short := congrArg List.length encoded
    rw [List.length_take, Nat.min_eq_left (by omega)] at short
    rw [Journal.frame, List.length_append, List.length_cons, List.length_append, ← short]
    rfl
  refine ⟨⟨line, record⟩, behind.drop 65, ?_, rfl, rfl, split.trans frameBytes, ?_⟩
  · exact ⟨room, nonempty, bounded, first, decoded, schema, sequence, previous, plan, pid,
      seconds, transition⟩
  · rw [frameLength, Nat.add_assoc]

/-- A digest is 64 bytes long. -/
theorem length_digest (hex : ∀ bytes, sha256 (codec.digest bytes) = .ok ()) (body : List UInt8) :
    (asBytes (codec.digest body)).length = 64 := by
  have checked := hex body
  rw [sha256, require_eq_ok, Bool.and_eq_true, decide_eq_true_eq] at checked
  rw [length_asBytes, checked.1]

/-- A frame that continues the journal is read. -/
theorem readRecord_of_continues (hex : ∀ bytes, sha256 (codec.digest bytes) = .ok ())
    {journal : Journal} {position : Nat} {frame : JournalFrame} {rest : List UInt8}
    (within : position ≤ journal.bytes.length)
    (continues : Continues codec planSha256 journal.point frame)
    (split : journal.bytes.drop position = Journal.frame codec frame.body ++ rest) :
    journal.readRecord codec position planSha256 =
      .ok (frame.record, codec.digest frame.body,
        position + (Journal.frame codec frame.body).length) := by
  have digestLength := length_digest hex frame.body
  have bytes : journal.bytes.drop position = frame.body ++ newline ::
      (asBytes (codec.digest frame.body) ++ newline :: rest) := by
    rw [split, Journal.frame]
    simp
  have room : check (journal.records.length < MAX_RECORDS)
      "operation journal has too many records" = .ok () :=
    check_eq_ok.mpr (decide_eq_true continues.room)
  have lengths : check (0 < frame.body.length && frame.body.length ≤ MAX_RECORD_BYTES &&
      frame.body.length + 66 ≤ (frame.body ++ newline ::
        (asBytes (codec.digest frame.body) ++ newline :: rest)).length)
      "incomplete journal checksum frame" = .ok () := by
    rw [check_eq_ok]
    simp only [Bool.and_eq_true, decide_eq_true_eq, List.length_append, List.length_cons,
      digestLength]
    exact ⟨⟨continues.nonempty, continues.bounded⟩, by omega⟩
  have field : (asBytes (codec.digest frame.body) ++ newline :: rest).take 64 =
      asBytes (codec.digest frame.body) := List.take_left' digestLength
  have last : (asBytes (codec.digest frame.body) ++ newline :: rest)[64]? = some newline := by
    rw [List.getElem?_append_right digestLength.le, digestLength, Nat.sub_self,
      List.getElem?_cons_zero]
  have text : fromUtf8 (asBytes (codec.digest frame.body)) = some (codec.digest frame.body) :=
    fromUtf8_eq_some_iff.mpr rfl
  have sums : check (newline == newline && codec.digest frame.body == codec.digest frame.body)
      "operation journal checksum mismatch" = .ok () := by simp
  have agreed : journal.consistent planSha256 frame.record = .ok () :=
    consistent_eq_ok.mpr ⟨continues.schema, continues.sequence, continues.previous,
      continues.plan, continues.pid, continues.seconds, continues.transition⟩
  rw [readRecord, room, ok_bind, slice_rest within, ok_bind, bytes,
    scan_line continues.line (Nat.lt_succ_of_le continues.bounded)]
  have long : 64 ≤ (asBytes (codec.digest frame.body) ++ newline :: rest).length := by
    rw [List.length_append, digestLength]
    omega
  dsimp only [orError]
  rw [ok_bind, lengths, ok_bind, slice_checksum long, ok_bind, field, text]
  dsimp only [orError]
  rw [ok_bind, byteAt_last, last]
  dsimp only [orError]
  rw [ok_bind, slice_body, ok_bind, sums, ok_bind, continues.decoded]
  dsimp only [Except.mapError]
  rw [ok_bind, agreed, ok_bind]
  have frameLength : (Journal.frame codec frame.body).length = frame.body.length + 66 := by
    rw [Journal.frame, List.length_append, List.length_cons, List.length_append, digestLength]
    rfl
  rw [frameLength, Nat.add_assoc]
  rfl

/-- A fault is an error of the library. -/
def Damage (fault : JournalFault) : Prop := ∃ error, fault = .library error

theorem damage_mapError {α : Type} (answer : Except LibraryError α) :
    FailsWith Damage (answer.mapError JournalFault.library) := by
  cases answer with
  | ok a => exact FailsWith.ok a
  | error error => exact FailsWith.error ⟨error, rfl⟩

theorem damage_check (condition : Bool) (reason : String) :
    FailsWith Damage (check condition reason) :=
  damage_mapError _

/-- **Reading a record does not panic**: the offsets rest on the test of the length. -/
theorem damage_readRecord (codec : JournalCodec) (journal : Journal) {position : Nat}
    (within : position ≤ journal.bytes.length) (planSha256 : String) :
    FailsWith Damage (journal.readRecord codec position planSha256) := by
  rw [readRecord, slice_rest within]
  refine FailsWith.bind (damage_check _ _) fun _ => ?_
  rw [ok_bind]
  refine FailsWith.bind_of_ok (FailsWith.orError ⟨_, rfl⟩) fun length scanned => ?_
  rw [orError_eq_ok] at scanned
  obtain ⟨line, behind, split, -, rfl⟩ := scan_newline scanned
  rw [split]
  refine FailsWith.bind_of_ok (damage_check _ _) fun _ lengths => ?_
  rw [check_eq_ok] at lengths
  simp only [Bool.and_eq_true, decide_eq_true_eq, List.length_append, List.length_cons] at lengths
  have long : 64 < behind.length := by omega
  rw [slice_checksum long.le, ok_bind]
  refine FailsWith.bind (FailsWith.orError ⟨_, rfl⟩) fun checksum => ?_
  rw [byteAt_last, List.getElem?_eq_getElem long]
  dsimp only [orError]
  rw [ok_bind, slice_body, ok_bind]
  refine FailsWith.bind (damage_check _ _) fun _ => ?_
  refine FailsWith.bind (damage_mapError _) fun record => ?_
  refine FailsWith.bind ?_ fun _ => FailsWith.ok _
  unfold consistent
  exact FailsWith.bind (damage_check _ _) fun _ =>
    FailsWith.bind (damage_check _ _) fun _ => damage_mapError _

/-! ## Reading -/

/-- The journal after some more frames. -/
def after (codec : JournalCodec) (journal : Journal) (frame : JournalFrame) : Journal :=
  { journal with
    records := journal.records ++ [frame.record]
    digest := codec.digest frame.body }

theorem point_after (codec : JournalCodec) (planSha256 : String) (journal : Journal)
    (frame : JournalFrame) : (journal.after codec frame).point =
      (frameRules codec planSha256).after journal.point frame := by
  simp [after, point, state, frameRules]

/-- What reading makes of bytes: the records of a chain of frames, and damage if bytes remain
behind it. -/
structure Keeps (codec : JournalCodec) (planSha256 : String) (before : Journal)
    (frames : List JournalFrame) (rest : List UInt8) (journal : Journal) : Prop where
  records : journal.records = before.records ++ frames.map JournalFrame.record
  digest : journal.digest =
    ((frameRules codec planSha256).left before.point frames).digest
  bytes : journal.bytes = before.bytes
  damage : journal.damage = none ↔ rest = []

/-- **The loop reads the longest chain** behind its position. -/
theorem readRecords_longest (hex : ∀ bytes, sha256 (codec.digest bytes) = .ok ()) (fuel : Nat)
    (before : Journal) (position : Nat) (intact : before.damage = none)
    (within : position ≤ before.bytes.length) (enough : before.bytes.length < position + fuel) :
    ∃ journal frames rest, readRecords codec planSha256 fuel before position = .ok journal ∧
      (frameRules codec planSha256).Longest before.point (before.bytes.drop position) frames rest ∧
      Keeps codec planSha256 before frames rest journal := by
  induction fuel generalizing before position with
  | zero => omega
  | succ fuel ih =>
      rw [readRecords]
      by_cases more : position < before.bytes.length
      · rw [if_pos more]
        cases read : before.readRecord codec position planSha256 with
        | error fault =>
            have failed := damage_readRecord codec before within planSha256
            rw [read] at failed
            obtain ⟨error, rfl⟩ := failed fault rfl
            have remaining : before.bytes.drop position ≠ [] := by
              rw [ne_eq, List.drop_eq_nil_iff]
              omega
            refine ⟨_, [], before.bytes.drop position, rfl, ⟨rfl, trivial, ?_⟩, by simp, rfl, rfl,
              iff_of_false (by simp) remaining⟩
            rintro ⟨frame, rest, continues, split⟩
            rw [readRecord_of_continues hex within continues split] at read
            cases read
        | ok answer =>
            obtain ⟨record, checksum, next⟩ := answer
            obtain ⟨frame, rest, continues, rfl, rfl, split, rfl⟩ := readRecord_ok within read
            have lengths := congrArg List.length split
            rw [List.length_drop, List.length_append] at lengths
            have positive : 0 < (Journal.frame codec frame.body).length := by
              rw [Journal.frame, List.length_append, List.length_cons]
              omega
            obtain ⟨journal, frames, behind, result, longest, kept⟩ :=
              ih (before.after codec frame)
                (position + (Journal.frame codec frame.body).length) intact
                (by change _ ≤ before.bytes.length; omega)
                (by change before.bytes.length < _; omega)
            have remaining : (before.after codec frame).bytes.drop
                (position + (Journal.frame codec frame.body).length) = rest := by
              change before.bytes.drop _ = rest
              rw [← List.drop_drop, split, List.drop_left]
            rw [remaining, point_after codec planSha256] at longest
            refine ⟨journal, frame :: frames, behind, result, ?_, ?_⟩
            · refine ⟨?_, ⟨continues, longest.chain⟩, longest.stuck⟩
              rw [split, FrameRules.written_cons, List.append_assoc, ← longest.split]
              rfl
            · have digest := kept.digest
              rw [point_after codec planSha256] at digest
              refine ⟨?_, digest, kept.bytes, kept.damage⟩
              rw [kept.records]
              simp [after]
      · rw [if_neg more]
        have ended : before.bytes.drop position = [] := List.drop_eq_nil_of_le (by omega)
        refine ⟨before, [], [], rfl, ⟨ended, trivial, separated.not_begins_nil⟩, by simp, rfl, rfl,
          iff_of_true intact rfl⟩

/-- What is read from bytes: the records of their longest chain of frames, and damage if bytes
remain behind it or there is no record. -/
structure ReadFrom (codec : JournalCodec) (plan : ValidationPlan) (bytes : List UInt8)
    (frames : List JournalFrame) (rest : List UInt8) (journal : Journal) : Prop where
  longest : (rulesOf codec plan).Longest
    (startOf codec plan) bytes frames rest
  records : journal.records = frames.map JournalFrame.record
  digest : journal.digest = ((rulesOf codec plan).left
    (startOf codec plan) frames).digest
  bytes : journal.bytes = bytes
  damage : journal.damage = none ↔ rest = [] ∧ frames ≠ []

/-- **A journal is read** from any bytes within the limit. -/
theorem read_longest (hex : ∀ bytes, sha256 (codec.digest bytes) = .ok ()) (plan : ValidationPlan)
    {bytes : List UInt8} (bounded : bytes.length ≤ MAX_JOURNAL_BYTES) :
    ∃ journal frames rest, read codec plan bytes = .ok journal ∧
      ReadFrom codec plan bytes frames rest journal := by
  obtain ⟨journal, frames, rest, result, longest, kept⟩ :
      ∃ journal frames rest, readRecords codec (codec.digest plan.source) (bytes.length + 1)
          ⟨[], codec.digest plan.source, bytes, none⟩ 0 = .ok journal ∧
        (frameRules codec (codec.digest plan.source)).Longest
          (Journal.point ⟨[], codec.digest plan.source, bytes, none⟩) (bytes.drop 0) frames rest ∧
        Keeps codec (codec.digest plan.source) ⟨[], codec.digest plan.source, bytes, none⟩ frames
          rest journal :=
    readRecords_longest hex (bytes.length + 1) ⟨[], codec.digest plan.source, bytes, none⟩ 0 rfl
      (Nat.zero_le _) (by simp)
  have limited : check (bytes.length ≤ MAX_JOURNAL_BYTES) "JSON input exceeds byte limit" =
      .ok () := check_eq_ok.mpr (decide_eq_true bounded)
  refine ⟨journal.requirePrepared, frames, rest, ?_, longest, ?_, ?_, ?_, ?_⟩
  · rw [read, limited, ok_bind]
    dsimp only
    rw [result, ok_bind]
    rfl
  · rw [← List.nil_append (frames.map JournalFrame.record), ← kept.records, requirePrepared]
    split <;> rfl
  · rw [requirePrepared]
    split <;> exact kept.digest
  · rw [requirePrepared]
    split <;> exact kept.bytes
  · have records : journal.records.isEmpty = true ↔ frames = [] := by
      rw [kept.records]
      simp
    rw [requirePrepared]
    split
    · rename_i unprepared
      rw [Bool.and_eq_true] at unprepared
      exact iff_of_false (by simp) fun given => given.2 (records.mp unprepared.1)
    · rename_i prepared
      rw [Bool.and_eq_true, not_and, Option.isNone_iff_eq_none] at prepared
      constructor
      · intro intact
        exact ⟨kept.damage.mp intact, fun none => prepared (records.mpr none) intact⟩
      · intro given
        exact kept.damage.mpr given.1

end Journal

/-! ## Writing -/

/-- A process has an identifier, and its clock is behind the Unix epoch. -/
structure Journal.Writer.Positive (writer : Journal.Writer) : Prop where
  pid : writer.pid ≠ 0
  seconds : ∀ seconds, writer.sinceEpoch = some seconds → 0 < seconds

/-- The text of a record is read back. -/
structure JournalCodec.Reads (codec : JournalCodec) (record : JournalRecord) : Prop where
  duplicateFree : codec.duplicateFree record.toVec = .ok ()
  fromSlice : codec.fromSlice record.toVec = .ok record

/-- A record in a frame of its own text. -/
def JournalRecord.inFrame (record : JournalRecord) : JournalFrame := ⟨record.toVec, record⟩

/-- No record contains a newline. -/
theorem newline_notMem_toVec (record : JournalRecord) : newline ∉ record.toVec := by
  intro member
  have printable := printable_text record.toJson newline member
  revert printable
  decide

theorem length_toVec_pos (record : JournalRecord) : 0 < record.toVec.length := by
  rw [JournalRecord.toVec, JournalRecord.toJson, Json.text]
  exact Nat.succ_pos _

/-- What is known of a frame that is written. -/
theorem nextFrame_ok {journal : Journal} {plan : ValidationPlan} {writer : Journal.Writer}
    {transition : Transition} {bytes : List UInt8}
    (given : journal.nextFrame codec plan writer transition = .ok bytes) :
    journal.damage = none ∧ journal.records.length < MAX_RECORDS ∧
      transition.validate journal.state = .ok () ∧
      ∃ seconds, writer.sinceEpoch = some seconds ∧
        (journal.nextRecord codec plan writer.pid seconds transition).toVec.length ≤
          MAX_RECORD_BYTES ∧
        bytes = Journal.frame codec
          (journal.nextRecord codec plan writer.pid seconds transition).toVec := by
  rw [Journal.nextFrame, seq_eq_ok, require_eq_ok, Option.isNone_iff_eq_none] at given
  obtain ⟨intact, given⟩ := given
  rw [seq_eq_ok, require_eq_ok, decide_eq_true_eq] at given
  obtain ⟨room, given⟩ := given
  rw [seq_eq_ok] at given
  obtain ⟨valid, given⟩ := given
  rw [bind_eq_ok] at given
  obtain ⟨seconds, clock, given⟩ := given
  rw [orError_eq_ok] at clock
  dsimp only at given
  rw [seq_eq_ok, require_eq_ok, decide_eq_true_eq] at given
  obtain ⟨bounded, result⟩ := given
  exact ⟨intact, room, valid, seconds, clock, bounded, (Except.ok.inj result).symm⟩

/-- **A frame that is written continues the journal.** -/
theorem continues_nextFrame {journal : Journal} {plan : ValidationPlan} {writer : Journal.Writer}
    {transition : Transition} {bytes : List UInt8} {seconds : Nat} (positive : writer.Positive)
    (clock : writer.sinceEpoch = some seconds)
    (reads : codec.Reads (journal.nextRecord codec plan writer.pid seconds transition))
    (given : journal.nextFrame codec plan writer transition = .ok bytes) :
    Continues codec (codec.digest plan.source) journal.point
      (journal.nextRecord codec plan writer.pid seconds transition).inFrame := by
  obtain ⟨-, room, valid, seconds', clock', bounded, -⟩ := nextFrame_ok given
  obtain rfl := Option.some.inj (clock.symm.trans clock')
  have decoded : codec.decode (journal.nextRecord codec plan writer.pid seconds transition).toVec
      MAX_RECORD_BYTES = .ok (journal.nextRecord codec plan writer.pid seconds transition) := by
    rw [JournalCodec.decode, seq_eq_ok, seq_eq_ok, require_eq_ok, mapError_eq_ok, mapError_eq_ok]
    exact ⟨decide_eq_true bounded, reads.duplicateFree, reads.fromSlice⟩
  have sequence : journal.records.length % 2 ^ 32 = journal.records.length :=
    Nat.mod_eq_of_lt (Nat.lt_trans room (by decide))
  exact ⟨room, length_toVec_pos _, bounded, newline_notMem_toVec _, decoded, rfl, sequence, rfl,
    rfl, positive.pid, positive.seconds seconds clock, valid⟩

/-- The journals of an operation: each is read from the bytes of the one before it and the next
frame. -/
inductive Written (codec : JournalCodec) (plan : ValidationPlan) :
    Journal → List JournalRecord → Prop where
  | fresh : Written codec plan (Journal.fresh codec plan) []
  | append {journal next : Journal} {records : List JournalRecord} {writer : Journal.Writer}
      {transition : Transition} {seconds : Nat} {bytes : List UInt8}
      (written : Written codec plan journal records) (positive : writer.Positive)
      (clock : writer.sinceEpoch = some seconds)
      (reads : codec.Reads (journal.nextRecord codec plan writer.pid seconds transition))
      (given : journal.nextFrame codec plan writer transition = .ok bytes)
      (reread : Journal.read codec plan (journal.bytes ++ bytes) = .ok next) :
      Written codec plan next
        (records ++ [journal.nextRecord codec plan writer.pid seconds transition])

section Chains

variable {plan : ValidationPlan} {frames : List JournalFrame}

theorem left_concat (point : ChainPoint) (frame : JournalFrame) :
    (frameRules codec planSha256).left point (frames ++ [frame]) =
      (frameRules codec planSha256).after ((frameRules codec planSha256).left point frames) frame :=
  List.foldl_concat ..

/-- What a journal of these frames leaves behind. -/
theorem left_start (frames : List JournalFrame) :
    (frameRules codec planSha256).left (.start planSha256) frames =
      ⟨frames.length, ((frameRules codec planSha256).left (.start planSha256) frames).digest,
        (frames.map JournalFrame.record).getLast?.map fun record => record.transition.state⟩ := by
  induction frames using List.reverseRecOn with
  | nil => rfl
  | append_singleton frames frame ih =>
      rw [left_concat, ih]
      simp [frameRules]

/-- A journal has at most so many frames. -/
theorem length_le_of_chain {point : ChainPoint}
    (chain : (frameRules codec planSha256).Chain point frames) (nonempty : frames ≠ []) :
    point.count + frames.length ≤ MAX_RECORDS := by
  induction frames generalizing point with
  | nil => exact absurd rfl nonempty
  | cons frame rest ih =>
      obtain ⟨continues, chain⟩ := chain
      have room := continues.room
      by_cases ended : rest = []
      · subst ended
        rw [List.length_cons, List.length_nil]
        omega
      · have further := ih chain ended
        have count : ((frameRules codec planSha256).after point frame).count =
            point.count + 1 := rfl
        rw [count] at further
        rw [List.length_cons]
        omega

theorem length_frame (hex : ∀ bytes, sha256 (codec.digest bytes) = .ok ()) (body : List UInt8) :
    (Journal.frame codec body).length = body.length + 66 := by
  rw [Journal.frame, List.length_append, List.length_cons, List.length_append,
    Journal.length_digest hex]
  rfl

theorem length_written_le (hex : ∀ bytes, sha256 (codec.digest bytes) = .ok ())
    {point : ChainPoint} (chain : (frameRules codec planSha256).Chain point frames) :
    ((frameRules codec planSha256).written frames).length ≤
      frames.length * (MAX_RECORD_BYTES + 66) := by
  induction frames generalizing point with
  | nil => exact Nat.zero_le _
  | cons frame rest ih =>
      obtain ⟨continues, chain⟩ := chain
      have further := ih chain
      have bounded := continues.bounded
      have here : ((frameRules codec planSha256).bytes frame).length = frame.body.length + 66 :=
        length_frame hex frame.body
      rw [FrameRules.written_cons, List.length_append, here, List.length_cons, Nat.succ_mul]
      omega

/-- The bytes of a chain are within the limit. -/
theorem bounded_of_chain (hex : ∀ bytes, sha256 (codec.digest bytes) = .ok ())
    (chain : (frameRules codec planSha256).Chain (.start planSha256) frames) :
    ((frameRules codec planSha256).written frames).length ≤ MAX_JOURNAL_BYTES := by
  by_cases none : frames = []
  · subst none
    exact Nat.zero_le _
  · have count := length_le_of_chain chain none
    have start : (ChainPoint.start planSha256).count = 0 := rfl
    rw [start, Nat.zero_add] at count
    exact (length_written_le hex chain).trans (Nat.mul_le_mul_right _ count)

/-- **The bytes of a chain are read** as its records, without damage if there is one. -/
theorem read_written (hex : ∀ bytes, sha256 (codec.digest bytes) = .ok ())
    (chain : (rulesOf codec plan).Chain
      (startOf codec plan) frames) :
    ∃ journal, Journal.read codec plan
        ((rulesOf codec plan).written frames) = .ok journal ∧
      Journal.ReadFrom codec plan
        ((rulesOf codec plan).written frames) frames [] journal := by
  obtain ⟨journal, others, rest, result, holds⟩ :=
    Journal.read_longest hex plan (bounded_of_chain hex chain)
  have whole : (rulesOf codec plan).Longest
      (startOf codec plan)
      ((rulesOf codec plan).written frames ++ []) frames [] :=
    FrameRules.longest_written chain separated.not_begins_nil
  rw [List.append_nil] at whole
  obtain ⟨rfl, rfl⟩ := holds.longest.unique whole separated
  exact ⟨journal, result, holds⟩

end Chains

/-- What is known of a journal that was written. -/
structure Kept (codec : JournalCodec) (plan : ValidationPlan) (journal : Journal)
    (records : List JournalRecord) : Prop where
  chain : (rulesOf codec plan).Chain (startOf codec plan)
    (records.map JournalRecord.inFrame)
  recorded : journal.records = records
  digest : journal.digest = ((rulesOf codec plan).left
    (startOf codec plan) (records.map JournalRecord.inFrame)).digest
  bytes : journal.bytes = (rulesOf codec plan).written
    (records.map JournalRecord.inFrame)
  intact : journal.damage = none

theorem record_inFrame (records : List JournalRecord) :
    (records.map JournalRecord.inFrame).map JournalFrame.record = records := by
  rw [List.map_map]
  exact List.map_id records

namespace Kept

variable {plan : ValidationPlan} {journal : Journal} {records : List JournalRecord}

theorem point (kept : Kept codec plan journal records) :
    journal.point = (rulesOf codec plan).left
      (startOf codec plan) (records.map JournalRecord.inFrame) := by
  rw [left_start, record_inFrame, List.length_map, ← kept.digest]
  rw [Journal.point, Journal.state, kept.recorded]

/-- **The next frame is read back** behind the others. -/
theorem append (hex : ∀ bytes, sha256 (codec.digest bytes) = .ok ())
    (kept : Kept codec plan journal records) {writer : Journal.Writer} {transition : Transition}
    {seconds : Nat} {bytes : List UInt8} (positive : writer.Positive)
    (clock : writer.sinceEpoch = some seconds)
    (reads : codec.Reads (journal.nextRecord codec plan writer.pid seconds transition))
    (given : journal.nextFrame codec plan writer transition = .ok bytes) :
    ∃ next, Journal.read codec plan (journal.bytes ++ bytes) = .ok next ∧
      Kept codec plan next
        (records ++ [journal.nextRecord codec plan writer.pid seconds transition]) := by
  have continues := continues_nextFrame positive clock reads given
  rw [kept.point] at continues
  obtain ⟨-, -, -, seconds', clock', -, rfl⟩ := nextFrame_ok given
  obtain rfl := Option.some.inj (clock.symm.trans clock')
  have chain : (rulesOf codec plan).Chain
      (startOf codec plan)
      ((records ++ [journal.nextRecord codec plan writer.pid seconds transition]).map
        JournalRecord.inFrame) := by
    rw [List.map_append, FrameRules.chain_append]
    exact ⟨kept.chain, continues, trivial⟩
  obtain ⟨next, result, holds⟩ := read_written hex chain
  have bytes : (rulesOf codec plan).written
      ((records ++ [journal.nextRecord codec plan writer.pid seconds transition]).map
        JournalRecord.inFrame) = journal.bytes ++ Journal.frame codec
          (journal.nextRecord codec plan writer.pid seconds transition).toVec := by
    rw [List.map_append, FrameRules.written_append, ← kept.bytes, List.map_singleton,
      FrameRules.written_cons, FrameRules.written_nil, List.append_nil]
    rfl
  rw [← bytes]
  refine ⟨next, result, chain, ?_, holds.digest, holds.bytes, ?_⟩
  · rw [holds.records, record_inFrame]
  · exact holds.damage.mpr ⟨rfl, by simp⟩

/-- A journal with a record is what is read from its bytes. -/
theorem read (hex : ∀ bytes, sha256 (codec.digest bytes) = .ok ())
    (kept : Kept codec plan journal records) (nonempty : records ≠ []) :
    Journal.read codec plan journal.bytes = .ok journal := by
  obtain ⟨again, result, holds⟩ := read_written hex kept.chain
  have intact : again.damage = none :=
    holds.damage.mpr ⟨rfl, fun none => nonempty (List.map_eq_nil_iff.mp none)⟩
  have same : again = journal := by
    obtain ⟨records₁, digest₁, bytes₁, damage₁⟩ := again
    obtain ⟨records₂, digest₂, bytes₂, damage₂⟩ := journal
    rw [Journal.mk.injEq]
    refine ⟨?_, holds.digest.trans kept.digest.symm, holds.bytes.trans kept.bytes.symm,
      intact.trans kept.intact.symm⟩
    exact holds.records.trans ((record_inFrame records).trans kept.recorded.symm)
  rw [kept.bytes, result, same]

end Kept

/-- **What was written is known.** -/
theorem Written.kept (hex : ∀ bytes, sha256 (codec.digest bytes) = .ok ())
    {plan : ValidationPlan} {journal : Journal} {records : List JournalRecord}
    (written : Written codec plan journal records) : Kept codec plan journal records := by
  induction written with
  | fresh => exact ⟨trivial, rfl, rfl, rfl, rfl⟩
  | append _ positive clock reads given reread ih =>
      obtain ⟨next, again, kept⟩ := ih.append hex positive clock reads given
      rw [reread] at again
      obtain rfl := Except.ok.inj again
      exact kept

/-! ## Alterations -/

/-- Bytes behind some frames are a chain that continues them. -/
def IsContinuation (codec : JournalCodec) (plan : ValidationPlan) (front : List JournalRecord)
    (tail : List UInt8) : Prop :=
  ∃ more, (rulesOf codec plan).Chain
      ((rulesOf codec plan).left (startOf codec plan)
        (front.map JournalRecord.inFrame)) more ∧
    tail = (rulesOf codec plan).written more

/-- Bytes behind some frames begin with a frame that continues them. -/
def BeginsContinuation (codec : JournalCodec) (plan : ValidationPlan)
    (front : List JournalRecord) (tail : List UInt8) : Prop :=
  (rulesOf codec plan).Begins
    ((rulesOf codec plan).left (startOf codec plan)
      (front.map JournalRecord.inFrame)) tail

/-- What is read from records and the bytes behind them: the records as they were, with more
only if the bytes continue them; and damage, which stays, unless the bytes are a continuation. -/
structure Recovered (codec : JournalCodec) (plan : ValidationPlan) (front : List JournalRecord)
    (tail : List UInt8) (altered : Journal) : Prop where
  kept : front <+: altered.records
  only : ¬ BeginsContinuation codec plan front tail → altered.records = front ∧
    (altered.damage = none ↔ tail = [] ∧ front ≠ [])
  damaged : ¬ IsContinuation codec plan front tail → altered.damage ≠ none
  refused : altered.damage ≠ none → ∀ writer transition,
    altered.nextFrame codec plan writer transition =
      .error (.invalid "damaged operation journal cannot be extended")

theorem nextFrame_of_damaged {journal : Journal} (damaged : journal.damage ≠ none)
    (plan : ValidationPlan) (writer : Journal.Writer) (transition : Transition) :
    journal.nextFrame codec plan writer transition =
      .error (.invalid "damaged operation journal cannot be extended") := by
  have given : journal.damage.isNone = false := by
    rw [← Bool.not_eq_true, Option.isNone_iff_eq_none]
    exact damaged
  rw [Journal.nextFrame, given]
  rfl

/-- **Whatever follows the frames of a journal**, they are read as they were. -/
theorem read_altered (hex : ∀ bytes, sha256 (codec.digest bytes) = .ok ()) {plan : ValidationPlan}
    {front : List JournalRecord} {tail : List UInt8}
    (chain : (rulesOf codec plan).Chain
      (startOf codec plan) (front.map JournalRecord.inFrame))
    (bounded : ((rulesOf codec plan).written
      (front.map JournalRecord.inFrame) ++ tail).length ≤ MAX_JOURNAL_BYTES) :
    ∃ altered, Journal.read codec plan ((rulesOf codec plan).written
        (front.map JournalRecord.inFrame) ++ tail) = .ok altered ∧
      Recovered codec plan front tail altered := by
  obtain ⟨altered, frames, rest, result, holds⟩ := Journal.read_longest hex plan bounded
  obtain ⟨further, rfl, longest⟩ := holds.longest.keeps separated chain
  have records : altered.records = front ++ further.map JournalFrame.record := by
    rw [holds.records, List.map_append, record_inFrame]
  refine ⟨altered, result, ?_, ?_, ?_, fun damaged writer transition =>
    nextFrame_of_damaged damaged plan writer transition⟩
  · rw [records]
    exact List.prefix_append _ _
  · intro stuck
    cases further with
    | nil =>
        obtain rfl : tail = rest := longest.split
        rw [records, List.map_nil, List.append_nil, holds.damage, List.append_nil, ne_eq,
          List.map_eq_nil_iff]
        exact ⟨rfl, Iff.rfl⟩
    | cons frame further =>
        refine absurd ⟨frame, (rulesOf codec plan).written further ++ rest,
          longest.chain.1, ?_⟩ stuck
        rw [longest.split, FrameRules.written_cons, List.append_assoc]
  · intro unlike intact
    obtain ⟨rfl, -⟩ := holds.damage.mp intact
    refine unlike ⟨further, longest.chain, ?_⟩
    rw [longest.split, List.append_nil]

/-- **A journal keeps what was written to it.** Appending frame after frame and reading gives
exactly the records that were written. From any bytes within the limit the longest chain of
frames is read, with damage if bytes remain. And however the bytes of a written journal are cut
off and continued, the records of the frames that stayed whole are read as they were. -/
theorem journal_frames (codec : JournalCodec) (plan : ValidationPlan)
    (hex : ∀ bytes, sha256 (codec.digest bytes) = .ok ()) :
    (∀ journal records, Written codec plan journal records →
      (records ≠ [] → Journal.read codec plan journal.bytes = .ok journal ∧
        journal.records = records ∧ journal.damage = none) ∧
      ∀ writer transition seconds bytes, writer.Positive → writer.sinceEpoch = some seconds →
        codec.Reads (journal.nextRecord codec plan writer.pid seconds transition) →
        journal.nextFrame codec plan writer transition = .ok bytes →
        ∃ next, Journal.read codec plan (journal.bytes ++ bytes) = .ok next ∧
          next.records =
            records ++ [journal.nextRecord codec plan writer.pid seconds transition] ∧
          next.damage = none) ∧
    (∀ bytes : List UInt8, bytes.length ≤ MAX_JOURNAL_BYTES →
      ∃ journal frames rest, Journal.read codec plan bytes = .ok journal ∧
        Journal.ReadFrom codec plan bytes frames rest journal ∧
        ∀ others behind, (rulesOf codec plan).Chain
            (startOf codec plan) others →
          bytes = (rulesOf codec plan).written others ++ behind →
          others <+: frames) ∧
    ∀ journal records, Written codec plan journal records → ∀ (cut : Nat) (suffix : List UInt8),
      (journal.bytes.take cut ++ suffix).length ≤ MAX_JOURNAL_BYTES →
      ∃ count partly altered,
        journal.bytes.take cut = (rulesOf codec plan).written
          ((records.take count).map JournalRecord.inFrame) ++ partly ∧
        (partly = [] ∨ ∃ record, records[count]? = some record ∧
          partly <+: Journal.frame codec record.toVec ∧
          partly.length < (Journal.frame codec record.toVec).length) ∧
        Journal.read codec plan (journal.bytes.take cut ++ suffix) = .ok altered ∧
        Recovered codec plan (records.take count) (partly ++ suffix) altered ∧
        (suffix = [] → altered.records = records.take count ∧
          (altered.damage = none ↔ partly = [] ∧ records.take count ≠ [])) := by
  refine ⟨?_, ?_, ?_⟩
  · intro journal records written
    have kept := written.kept hex
    refine ⟨fun nonempty => ⟨kept.read hex nonempty, kept.recorded, kept.intact⟩, ?_⟩
    intro writer transition seconds bytes positive clock reads given
    obtain ⟨next, reread, further⟩ := kept.append hex positive clock reads given
    exact ⟨next, reread, further.recorded, further.intact⟩
  · intro bytes bounded
    obtain ⟨journal, frames, rest, result, holds⟩ := Journal.read_longest hex plan bounded
    exact ⟨journal, frames, rest, result, holds, fun others behind chain split =>
      holds.longest.covers separated chain split⟩
  · intro journal records written cut suffix bounded
    have kept := written.kept hex
    obtain ⟨count, partly, split, kind⟩ := FrameRules.take_written (rulesOf codec plan)
      (records.map JournalRecord.inFrame) cut
    rw [← kept.bytes, ← List.map_take] at split
    have chain := FrameRules.chain_take kept.chain count
    rw [← List.map_take] at chain
    rw [split, List.append_assoc] at bounded ⊢
    obtain ⟨altered, result, recovered⟩ := read_altered hex chain bounded
    refine ⟨count, partly, altered, rfl, ?_, result, recovered, ?_⟩
    · rcases kind with rfl | ⟨frame, here, front, shorter⟩
      · exact .inl rfl
      · rw [List.getElem?_map, Option.map_eq_some_iff] at here
        obtain ⟨record, here, rfl⟩ := here
        exact .inr ⟨record, here, front, shorter⟩
    · rintro rfl
      rw [List.append_nil] at recovered
      refine recovered.only ?_
      rcases kind with rfl | ⟨frame, here, front, shorter⟩
      · exact separated.not_begins_nil
      · have accepted := FrameRules.accepts_of_chain kept.chain here
        rw [← List.map_take] at accepted
        exact separated.not_begins_of_cut accepted front shorter

/-! ### A prepared operation -/

def samplePlan : ValidationPlan := ⟨asBytes "{}"⟩

def sampleWriter : Journal.Writer := ⟨4711, some 1700000000⟩

def preparedTransition : Transition := ⟨.prepared, .notStarted, none, none⟩

def preparedRecord : JournalRecord where
  schemaVersion := 1
  sequence := 0
  previousSha256 := "44136fa355b3678a1146ad16f7e8649e94fb4fc21fe77e8310c060f61caaff8a"
  planSha256 := "44136fa355b3678a1146ad16f7e8649e94fb4fc21fe77e8310c060f61caaff8a"
  writerPid := 4711
  recordedUnixSeconds := 1700000000
  transition := preparedTransition

/-- The digests of the plan and of the record, and the reader of the record. -/
def sampleCodec : JournalCodec where
  digest bytes :=
    if bytes = preparedRecord.toVec then
      "6354c1d3656dd270bb6aab1be02f51be4b33b06c43b8878452383625df4ed40d"
    else "44136fa355b3678a1146ad16f7e8649e94fb4fc21fe77e8310c060f61caaff8a"
  duplicateFree _ := .ok ()
  fromSlice bytes :=
    if bytes = preparedRecord.toVec then .ok preparedRecord else .error "expected value"

theorem sampleCodec_hex (bytes : List UInt8) : sha256 (sampleCodec.digest bytes) = .ok () := by
  dsimp only [sampleCodec]
  split <;> decide +kernel

/-- The first record is read back from its frame. -/
theorem journal_frames_prepared :
    ∃ next, Journal.read sampleCodec samplePlan
        ((Journal.fresh sampleCodec samplePlan).bytes ++
          Journal.frame sampleCodec preparedRecord.toVec) = .ok next ∧
      next.records = [preparedRecord] ∧ next.damage = none := by
  have record : (Journal.fresh sampleCodec samplePlan).nextRecord sampleCodec samplePlan
      sampleWriter.pid 1700000000 preparedTransition = preparedRecord := by decide +kernel
  have reads : sampleCodec.Reads preparedRecord := ⟨rfl, by simp only [sampleCodec, if_true]⟩
  have given : (Journal.fresh sampleCodec samplePlan).nextFrame sampleCodec samplePlan
      sampleWriter preparedTransition = .ok (Journal.frame sampleCodec preparedRecord.toVec) := by
    have short : preparedRecord.toVec.length ≤ MAX_RECORD_BYTES := by decide +kernel
    refine seq_eq_ok.mpr ⟨rfl, seq_eq_ok.mpr ⟨rfl, seq_eq_ok.mpr ⟨rfl, bind_eq_ok.mpr
      ⟨1700000000, rfl, ?_⟩⟩⟩⟩
    dsimp only
    rw [record, seq_eq_ok, require_eq_ok]
    exact ⟨decide_eq_true short, rfl⟩
  have written := ((journal_frames sampleCodec samplePlan sampleCodec_hex).1 _ _ .fresh).2
    sampleWriter preparedTransition 1700000000 _ ⟨by decide, fun seconds clock => by
      cases clock
      decide⟩ rfl (by rw [record]; exact reads) given
  rw [record] at written
  exact written

/-- No frame at all is read with damage: there is no record. -/
theorem read_no_frames :
    Written sampleCodec samplePlan (Journal.fresh sampleCodec samplePlan) [] ∧
      Journal.read sampleCodec samplePlan (Journal.fresh sampleCodec samplePlan).bytes =
        .ok ⟨[], sampleCodec.digest samplePlan.source, [],
          some "operation journal has no prepared record"⟩ :=
  ⟨.fresh, rfl⟩

end Omnivox.VoiceLibrary
