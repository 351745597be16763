import Mathlib
import Omnivox.Foundations.Bounded

/-!
# Protocol lines from a byte stream

The reader drains one newline-delimited record at a time from whatever segments
the buffer offers. It keeps a bounded beginning of the record and counts the
rest.

The records are those of the byte stream itself, however it was cut into
segments: split at the newlines, without one trailing carriage return
(`readProtocolLines_eq`). The length of a record is counted up to the largest
machine word.
-/

set_option autoImplicit false

namespace Omnivox.Server

open Foundations

def maxProtocolLineBytes : Nat := 512 * 1024

/-- `b'\n'`. -/
def newline : UInt8 := 10

/-- `b'\r'`. -/
def carriageReturn : UInt8 := 13

/-- A record and its bytes: the text of a line, or the logical length of one that is
rejected. -/
inductive BoundedProtocolLine where
  | line (text : String)
  | oversized (bytes : Nat)
  | invalidUtf8 (bytes : Nat)
  deriving DecidableEq

/-- `String::from_utf8`. -/
def fromUtf8 (bytes : List UInt8) : Option String := String.fromUTF8? ⟨bytes.toArray⟩

/-! ## The reader -/

/-- A buffered reader: the bytes that are left, and the number of fills so far. -/
structure BufReader where
  remaining : List UInt8
  fills : Nat
  deriving Repr, DecidableEq

/-- A slice has at most `isize::MAX` bytes. -/
def maxSliceBytes : Nat := wordMax 63

section Reading

variable (cut : Nat → Nat)

namespace BufReader

/-- `fill_buf`: a beginning of the bytes that are left, empty only at their end. The
cut says how many bytes, beyond one, each fill would offer. -/
def fillBuf (reader : BufReader) : List UInt8 :=
  reader.remaining.take (min (cut reader.fills + 1) maxSliceBytes)

def consume (reader : BufReader) (amount : Nat) : BufReader where
  remaining := reader.remaining.drop amount
  fills := reader.fills + 1

end BufReader

/-- The locals of the loop. -/
structure RecordSoFar where
  stored : List UInt8
  totalContentBytes : Nat
  lastContentByte : Option UInt8
  sawInput : Bool
  deriving Repr, DecidableEq

namespace RecordSoFar

def start : RecordSoFar where
  stored := []
  totalContentBytes := 0
  lastContentByte := none
  sawInput := false

/-- The content of one segment. -/
def absorb (record : RecordSoFar) (content : List UInt8) : RecordSoFar :=
  let retainedLimit := saturatingAdd usizeMax maxProtocolLineBytes 1
  let retain := min content.length (retainedLimit - record.stored.length)
  { stored := record.stored ++ content.take retain
    totalContentBytes := saturatingAdd usizeMax record.totalContentBytes content.length
    lastContentByte := content.getLast?.or record.lastContentByte
    sawInput := true }

/-- What is returned once the record is complete. -/
def finish (record : RecordSoFar) : BoundedProtocolLine :=
  let trailingCarriageReturn := record.lastContentByte == some carriageReturn
  let logicalBytes := record.totalContentBytes - trailingCarriageReturn.toNat
  if maxProtocolLineBytes < logicalBytes then .oversized logicalBytes
  else
    let stored := if trailingCarriageReturn then record.stored.dropLast else record.stored
    match fromUtf8 stored with
    | some text => .line text
    | none => .invalidUtf8 logicalBytes

end RecordSoFar

/-- One fill: the content it adds, the bytes it consumes, and whether it ends the
record. -/
structure Segment where
  content : List UInt8
  consumed : Nat
  ends : Bool
  deriving Repr, DecidableEq

/-- Cut the available bytes at their first newline. -/
def segmentOf (available : List UInt8) : Segment :=
  let position := available.findIdx? fun byte => byte == newline
  let contentLength := position.getD available.length
  { content := available.take contentLength
    consumed := saturatingAdd usizeMax contentLength position.isSome.toNat
    ends := position.isSome }

theorem segmentOf_open {available : List UInt8} (whole : newline ∉ available)
    (slice : available.length ≤ maxSliceBytes) :
    segmentOf available = ⟨available, available.length, false⟩ := by
  have none : (available.findIdx? fun byte => byte == newline) = none := by
    rw [List.findIdx?_eq_none_iff]
    intro byte member
    rw [beq_eq_false_iff_ne]
    rintro rfl
    exact whole member
  have word : available.length + 0 ≤ usizeMax := Nat.le_trans slice (by decide)
  unfold segmentOf
  simp only [none, Option.getD_none, List.take_length, Option.isSome_none, Bool.toNat_false,
    saturatingAdd_of_le word, Nat.add_zero]

/-- The first newline is behind the line that it ends. -/
theorem findIdx?_newline {line : List UInt8} (first : newline ∉ line) (rest : List UInt8) :
    ((line ++ newline :: rest).findIdx? fun byte => byte == newline) = some line.length := by
  have none : (line.findIdx? fun byte => byte == newline) = none := by
    rw [List.findIdx?_eq_none_iff]
    intro byte member
    rw [beq_eq_false_iff_ne]
    rintro rfl
    exact first member
  rw [List.findIdx?_append, none, List.findIdx?_cons]
  simp

theorem segmentOf_ended {line rest : List UInt8} (first : newline ∉ line)
    (slice : (line ++ newline :: rest).length ≤ maxSliceBytes) :
    segmentOf (line ++ newline :: rest) = ⟨line, line.length + 1, true⟩ := by
  have word : line.length + 1 ≤ usizeMax := by
    rw [List.length_append, List.length_cons] at slice
    exact Nat.le_trans (by omega) (Nat.le_trans slice (by decide))
  unfold segmentOf
  simp only [findIdx?_newline first, Option.getD_some, List.take_left, Option.isSome_some,
    Bool.toNat_true, saturatingAdd_of_le word]

/-- Bytes without a newline, or cut at the first one. -/
theorem newline_cases (bytes : List UInt8) :
    newline ∉ bytes ∨ ∃ line rest, bytes = line ++ newline :: rest ∧ newline ∉ line := by
  by_cases member : newline ∈ bytes
  · obtain ⟨line, rest, split, first⟩ := List.eq_append_cons_of_mem member
    exact Or.inr ⟨line, rest, split, first⟩
  · exact Or.inl member

/-- A fill that offers something consumes something. -/
theorem segmentOf_consumed_pos {available : List UInt8} (filled : available ≠ [])
    (slice : available.length ≤ maxSliceBytes) : 0 < (segmentOf available).consumed := by
  rcases newline_cases available with whole | ⟨line, rest, rfl, first⟩
  · rw [segmentOf_open whole slice]
    exact List.length_pos_of_ne_nil filled
  · rw [segmentOf_ended first slice]
    exact Nat.succ_pos _

theorem BufReader.fillBuf_le (reader : BufReader) :
    (reader.fillBuf cut).length ≤ maxSliceBytes := by
  rw [fillBuf, List.length_take]
  omega

/-- Nothing is offered only at the end. -/
theorem BufReader.fillBuf_eq_nil {reader : BufReader} :
    reader.fillBuf cut = [] ↔ reader.remaining = [] := by
  have some : min (cut reader.fills + 1) maxSliceBytes ≠ 0 := by
    have wide : 0 < maxSliceBytes := by decide
    omega
  rw [fillBuf, List.take_eq_nil_iff]
  exact or_iff_right some

/-- The loop, from a record so far. -/
def readRecord (reader : BufReader) (record : RecordSoFar) :
    BufReader × Option BoundedProtocolLine :=
  let available := reader.fillBuf cut
  if _ : available = [] then
    (reader.consume 0, if record.sawInput then some record.finish else none)
  else
    let segment := segmentOf available
    let record := record.absorb segment.content
    let next := reader.consume segment.consumed
    if segment.ends then (next, some record.finish) else readRecord next record
termination_by reader.remaining.length
decreasing_by
  rename_i filled _
  have consumed : 0 < (segmentOf (reader.fillBuf cut)).consumed :=
    segmentOf_consumed_pos filled (reader.fillBuf_le cut)
  have left : 0 < reader.remaining.length :=
    List.length_pos_of_ne_nil fun ended => filled ((reader.fillBuf_eq_nil cut).mpr ended)
  rw [BufReader.consume, List.length_drop]
  omega

/-- Read and drain one newline-delimited record. -/
def readBoundedProtocolLine (reader : BufReader) : BufReader × Option BoundedProtocolLine :=
  readRecord cut reader RecordSoFar.start

end Reading

/-! ## What is kept of a record -/

/-- The record so far after the given content. -/
structure RecordSoFar.Holds (record : RecordSoFar) (content : List UInt8) : Prop where
  stored : record.stored = content.take (maxProtocolLineBytes + 1)
  counted : record.totalContentBytes = min content.length usizeMax
  last : record.lastContentByte = content.getLast?

theorem RecordSoFar.start_holds : RecordSoFar.start.Holds [] where
  stored := rfl
  counted := rfl
  last := rfl

/-- **One segment more.** -/
theorem RecordSoFar.Holds.absorb {record : RecordSoFar} {content : List UInt8}
    (holds : record.Holds content) (segment : List UInt8) :
    (record.absorb segment).Holds (content ++ segment) := by
  have limit : saturatingAdd usizeMax maxProtocolLineBytes 1 = maxProtocolLineBytes + 1 :=
    saturatingAdd_of_le (by decide)
  refine ⟨?_, ?_, ?_⟩
  · change record.stored ++ segment.take (min segment.length
      (saturatingAdd usizeMax maxProtocolLineBytes 1 - record.stored.length)) = _
    rw [limit, holds.stored, List.take_append, List.length_take]
    refine congrArg _ (List.take_eq_take_iff.mpr ?_)
    omega
  · change saturatingAdd usizeMax record.totalContentBytes segment.length = _
    rw [holds.counted, saturatingAdd, List.length_append]
    omega
  · change segment.getLast?.or record.lastContentByte = _
    rw [holds.last, List.getLast?_append]

/-! ## The specification -/

/-- The content without one trailing carriage return. -/
def stripCarriageReturn (content : List UInt8) : List UInt8 :=
  if content.getLast? = some carriageReturn then content.dropLast else content

/-- The records of a byte stream: its pieces between newlines, and what is left at the
end unless it is empty. -/
def protocolRecords (bytes : List UInt8) : List (List UInt8) :=
  let pieces := bytes.splitOn newline
  if pieces.getLast? = some [] then pieces.dropLast else pieces

/-- Too long, or a line, or no text. The given length is what an oversized record
reports. -/
def classifyAs (content : List UInt8) (length : Nat) : BoundedProtocolLine :=
  let logical := stripCarriageReturn content
  if maxProtocolLineBytes < logical.length then .oversized length
  else match fromUtf8 logical with
    | some text => .line text
    | none => .invalidUtf8 logical.length

/-- The specification of one record. -/
def classify (content : List UInt8) : BoundedProtocolLine :=
  classifyAs content (stripCarriageReturn content).length

/-- The record as it is counted by a machine word. -/
def classifyCounted (content : List UInt8) : BoundedProtocolLine :=
  classifyAs content
    (min content.length usizeMax - (content.length - (stripCarriageReturn content).length))

/-- Up to the largest machine word the count is exact. -/
theorem classifyCounted_eq {content : List UInt8} (word : content.length ≤ usizeMax) :
    classifyCounted content = classify content := by
  have shorter : (stripCarriageReturn content).length ≤ content.length := by
    unfold stripCarriageReturn
    split
    · exact (List.dropLast_sublist content).length_le
    · exact Nat.le_refl _
  have length : min content.length usizeMax -
      (content.length - (stripCarriageReturn content).length) =
        (stripCarriageReturn content).length := by
    omega
  rw [classifyCounted, classify, length]

/-- **The end of a record** is its classification. -/
theorem RecordSoFar.Holds.finish {record : RecordSoFar} {content : List UInt8}
    (holds : record.Holds content) : record.finish = classifyCounted content := by
  have wide : maxProtocolLineBytes + 1 < usizeMax := by decide
  have whole : content.length ≤ maxProtocolLineBytes + 1 → record.stored = content := by
    intro short
    rw [holds.stored, List.take_of_length_le short]
  unfold RecordSoFar.finish classifyCounted classifyAs
  dsimp only
  rw [holds.last, holds.counted]
  by_cases trailing : content.getLast? = some carriageReturn
  · have strip : stripCarriageReturn content = content.dropLast := if_pos trailing
    have filled : 0 < content.length := by
      cases content with
      | nil => cases trailing
      | cons byte rest => exact Nat.succ_pos _
    rw [strip, trailing, beq_self_eq_true, List.length_dropLast]
    have drop : min content.length usizeMax - (content.length - (content.length - 1)) =
        min content.length usizeMax - true.toNat := by
      rw [Bool.toNat_true]
      omega
    rw [drop]
    by_cases long : maxProtocolLineBytes < content.length - 1
    · rw [if_pos long, if_pos (by rw [Bool.toNat_true]; omega)]
    · have exact : min content.length usizeMax - true.toNat = content.length - 1 := by
        rw [Bool.toNat_true]
        omega
      rw [if_neg long, exact, if_neg long, if_pos rfl, whole (by omega)]
  · have strip : stripCarriageReturn content = content := if_neg trailing
    have other : (content.getLast? == some carriageReturn) = false := beq_false_of_ne trailing
    rw [strip, other, Nat.sub_self, Bool.toNat_false, Nat.sub_zero]
    by_cases long : maxProtocolLineBytes < content.length
    · rw [if_pos long, if_pos (by omega)]
    · have exact : min content.length usizeMax = content.length := by omega
      rw [exact, if_neg long, if_neg Bool.false_ne_true, if_neg long, whole (by omega)]

/-! ## One call -/

section Calls

variable (cut : Nat → Nat)

/-- The loop up to a newline. The induction is on what is left of the line: a fill ends
within it or takes the newline too. -/
theorem readRecord_ended {line rest : List UInt8} (first : newline ∉ line) {reader : BufReader}
    {record : RecordSoFar} {content : List UInt8} (holds : record.Holds content)
    (remaining : reader.remaining = line ++ newline :: rest) :
    ∃ fills, readRecord cut reader record =
      (⟨rest, fills⟩, some (classifyCounted (content ++ line))) := by
  induction size : line.length using Nat.strong_induction_on
    generalizing line reader record content with
  | _ _ ih =>
      subst size
      have wide : 0 < maxSliceBytes := by decide
      have slice := reader.fillBuf_le cut
      have filled : reader.fillBuf cut ≠ [] := by
        intro ended
        have nothing := (reader.fillBuf_eq_nil cut).mp ended
        rw [remaining] at nothing
        exact List.append_ne_nil_of_right_ne_nil _ (List.cons_ne_nil _ _) nothing
      rw [readRecord, dif_neg filled]
      have offered : reader.fillBuf cut =
          (line ++ newline :: rest).take (min (cut reader.fills + 1) maxSliceBytes) := by
        rw [BufReader.fillBuf, remaining]
      generalize amountEq : min (cut reader.fills + 1) maxSliceBytes = amount at offered
      have some : 0 < amount := by omega
      by_cases inside : amount ≤ line.length
      · have available : reader.fillBuf cut = line.take amount := by
          rw [offered, List.take_append_of_le_length inside]
        have open' : segmentOf (reader.fillBuf cut) = ⟨line.take amount, amount, false⟩ := by
          have whole : newline ∉ line.take amount := fun member =>
            first (List.mem_of_mem_take member)
          rw [available, segmentOf_open whole (by rw [← available]; exact slice),
            List.length_take_of_le inside]
        rw [open']
        have next : (reader.consume amount).remaining =
            line.drop amount ++ newline :: rest := by
          rw [BufReader.consume, remaining, List.drop_append_of_le_length inside]
        have shorter : (line.drop amount).length < line.length := by
          rw [List.length_drop]
          omega
        obtain ⟨fills, rest'⟩ := ih _ shorter
          (fun member => first (List.mem_of_mem_drop member)) (holds.absorb (line.take amount))
          next rfl
        refine ⟨fills, ?_⟩
        rw [List.append_assoc, List.take_append_drop] at rest'
        exact rest'
      · have available : reader.fillBuf cut =
            line ++ newline :: rest.take (amount - line.length - 1) := by
          rw [offered, List.take_append, List.take_of_length_le (by omega)]
          obtain ⟨more, moreEq⟩ : ∃ more, amount - line.length = more + 1 :=
            ⟨amount - line.length - 1, by omega⟩
          rw [moreEq, List.take_succ_cons, Nat.add_sub_cancel]
        have closed : segmentOf (reader.fillBuf cut) = ⟨line, line.length + 1, true⟩ := by
          rw [available, segmentOf_ended first (by rw [← available]; exact slice)]
        rw [closed]
        have left : (line ++ newline :: rest).drop (line.length + 1) = rest := by
          rw [List.drop_append, List.drop_of_length_le (by omega), Nat.add_sub_cancel_left]
          rfl
        refine ⟨reader.fills + 1, ?_⟩
        dsimp only
        rw [if_pos rfl, (holds.absorb line).finish, BufReader.consume, remaining, left]

/-- The loop up to the end of the stream. -/
theorem readRecord_last {reader : BufReader} {record : RecordSoFar} {content : List UInt8}
    (holds : record.Holds content) (first : newline ∉ reader.remaining) :
    ∃ fills, readRecord cut reader record =
      (⟨[], fills⟩, if record.sawInput || !reader.remaining.isEmpty then
        some (classifyCounted (content ++ reader.remaining)) else none) := by
  induction size : reader.remaining.length using Nat.strong_induction_on
    generalizing reader record content with
  | _ _ ih =>
      subst size
      have wide : 0 < maxSliceBytes := by decide
      have slice := reader.fillBuf_le cut
      rw [readRecord]
      by_cases ended : reader.remaining = []
      · have nothing := (reader.fillBuf_eq_nil cut).mpr ended
        refine ⟨reader.fills + 1, ?_⟩
        rw [dif_pos nothing, BufReader.consume, ended, List.append_nil, holds.finish]
        simp
      · have filled : reader.fillBuf cut ≠ [] := fun nothing =>
          ended ((reader.fillBuf_eq_nil cut).mp nothing)
        rw [dif_neg filled]
        generalize availableEq : reader.fillBuf cut = available at filled slice
        have taken : available =
            reader.remaining.take (min (cut reader.fills + 1) maxSliceBytes) := by
          rw [← availableEq, BufReader.fillBuf]
        have whole : newline ∉ available := fun member =>
          first (List.mem_of_mem_take (taken ▸ member))
        have positive : 0 < available.length := List.length_pos_of_ne_nil filled
        have rejoin : available ++ reader.remaining.drop available.length = reader.remaining := by
          have prefix' : available <+: reader.remaining := by
            rw [taken]
            exact List.take_prefix _ _
          obtain ⟨rest, split⟩ := prefix'
          rw [← split, List.drop_left]
        rw [segmentOf_open whole slice]
        have shorter : (reader.consume available.length).remaining.length <
            reader.remaining.length := by
          have some : 0 < reader.remaining.length := List.length_pos_of_ne_nil ended
          rw [BufReader.consume, List.length_drop]
          omega
        have first' : newline ∉ (reader.consume available.length).remaining := fun member =>
          first (List.mem_of_mem_drop member)
        obtain ⟨fills, rest⟩ := ih _ shorter (holds.absorb available) first' rfl
        refine ⟨fills, ?_⟩
        have saw : (record.absorb available).sawInput = true := rfl
        have more : (!reader.remaining.isEmpty) = true := by
          simpa using ended
        dsimp only at rest ⊢
        rw [if_neg Bool.false_ne_true, rest, saw, more, Bool.true_or, Bool.or_true,
          List.append_assoc]
        change (_, if true = true then some (classifyCounted (content ++
          (available ++ reader.remaining.drop available.length))) else none) = _
        rw [rejoin]

/-- **One call**: the record up to the first newline, and the bytes after it. -/
theorem readBoundedProtocolLine_ended {line : List UInt8} (first : newline ∉ line)
    (rest : List UInt8) (fills : Nat) :
    ∃ fills', readBoundedProtocolLine cut ⟨line ++ newline :: rest, fills⟩ =
      (⟨rest, fills'⟩, some (classifyCounted line)) :=
  readRecord_ended cut first RecordSoFar.start_holds rfl

/-- The last call that returns a record, and every call after it. -/
theorem readBoundedProtocolLine_last {bytes : List UInt8} (first : newline ∉ bytes)
    (fills : Nat) :
    ∃ fills', readBoundedProtocolLine cut ⟨bytes, fills⟩ =
      (⟨[], fills'⟩, if bytes = [] then none else some (classifyCounted bytes)) := by
  obtain ⟨fills', read⟩ := readRecord_last cut RecordSoFar.start_holds
    (show newline ∉ (BufReader.mk bytes fills).remaining from first)
  refine ⟨fills', ?_⟩
  rw [readBoundedProtocolLine, read]
  cases bytes with
  | nil => rfl
  | cons byte rest => rfl

/-- A record takes bytes from the stream. -/
theorem readBoundedProtocolLine_shorter {reader next : BufReader} {line : BoundedProtocolLine}
    (read : readBoundedProtocolLine cut reader = (next, some line)) :
    next.remaining.length < reader.remaining.length := by
  obtain ⟨bytes, fills⟩ := reader
  rcases newline_cases bytes with whole | ⟨line', rest, rfl, first⟩
  · obtain ⟨fills', last⟩ := readBoundedProtocolLine_last cut whole fills
    rw [last] at read
    injection read with nextEq lineEq
    subst nextEq
    by_cases ended : bytes = []
    · rw [if_pos ended] at lineEq
      cases lineEq
    · exact List.length_pos_of_ne_nil ended
  · obtain ⟨fills', ended⟩ := readBoundedProtocolLine_ended cut first rest fills
    rw [ended] at read
    injection read with nextEq lineEq
    subst nextEq
    dsimp only
    rw [List.length_append, List.length_cons]
    omega

end Calls

/-! ## The records of a stream -/

theorem protocolRecords_nil : protocolRecords [] = [] := rfl

/-- The remainder without a newline is a record of its own. -/
theorem protocolRecords_last {bytes : List UInt8} (whole : newline ∉ bytes)
    (filled : bytes ≠ []) : protocolRecords bytes = [bytes] := by
  have pieces : bytes.splitOn newline = [bytes] := by
    apply List.splitOn_eq_singleton
    exact whole
  have kept : ¬ [bytes].getLast? = some [] := by
    rw [List.getLast?_singleton, Option.some.injEq]
    exact filled
  unfold protocolRecords
  rw [pieces]
  exact if_neg kept

/-- A newline ends a record. -/
theorem protocolRecords_append {line : List UInt8} (first : newline ∉ line)
    (rest : List UInt8) :
    protocolRecords (line ++ newline :: rest) = line :: protocolRecords rest := by
  have pieces : (line ++ newline :: rest).splitOn newline = line :: rest.splitOn newline :=
    List.splitOn_append_cons_self_of_not_mem first rest
  obtain ⟨piece, more, restPieces⟩ : ∃ piece more, rest.splitOn newline = piece :: more :=
    List.exists_cons_of_ne_nil (List.splitOn_ne_nil _ _)
  unfold protocolRecords
  dsimp only
  rw [pieces, restPieces, List.getLast?_cons_cons, List.dropLast_cons_cons]
  split <;> rfl

/-- Repeat until no record is left. -/
def readProtocolLines (cut : Nat → Nat) (reader : BufReader) : List BoundedProtocolLine :=
  match _ : readBoundedProtocolLine cut reader with
  | (next, some line) => line :: readProtocolLines cut next
  | (_, none) => []
termination_by reader.remaining.length
decreasing_by
  rename_i read
  exact readBoundedProtocolLine_shorter cut read

/-- **Independence of later records**: whatever the first record is, the ones after it
are those of the bytes after its newline. -/
theorem readProtocolLines_append {cut : Nat → Nat} {line : List UInt8}
    (first : newline ∉ line) (rest : List UInt8) (fills : Nat) :
    ∃ fills', readProtocolLines cut ⟨line ++ newline :: rest, fills⟩ =
      classifyCounted line :: readProtocolLines cut ⟨rest, fills'⟩ := by
  obtain ⟨fills', read⟩ := readBoundedProtocolLine_ended cut first rest fills
  refine ⟨fills', ?_⟩
  rw [readProtocolLines]
  split
  · rename_i next line' read'
    rw [read] at read'
    cases read'
    rfl
  · rename_i next read'
    rw [read] at read'
    cases read'

theorem readProtocolLines_last {cut : Nat → Nat} {bytes : List UInt8}
    (whole : newline ∉ bytes) (fills : Nat) :
    readProtocolLines cut ⟨bytes, fills⟩ =
      if bytes = [] then [] else [classifyCounted bytes] := by
  have ended : ∀ fills, readProtocolLines cut ⟨[], fills⟩ = [] := by
    intro fills
    obtain ⟨fills', read⟩ :=
      readBoundedProtocolLine_last cut (List.not_mem_nil (a := newline)) fills
    rw [if_pos rfl] at read
    rw [readProtocolLines]
    split
    · rename_i next line read'
      rw [read] at read'
      cases read'
    · rfl
  by_cases empty : bytes = []
  · rw [if_pos empty, empty, ended]
  · obtain ⟨fills', read⟩ := readBoundedProtocolLine_last cut whole fills
    rw [if_neg empty] at read
    rw [if_neg empty, readProtocolLines]
    split
    · rename_i next line read'
      rw [read] at read'
      cases read'
      rw [ended]
    · rename_i next read'
      rw [read] at read'
      cases read'

/-- **Framing is independent of buffering.** The induction is on the bytes that are left:
each newline takes one record off the stream and off the specification. -/
theorem readProtocolLines_eq (cut : Nat → Nat) (bytes : List UInt8) (fills : Nat) :
    readProtocolLines cut ⟨bytes, fills⟩ = (protocolRecords bytes).map classifyCounted := by
  induction size : bytes.length using Nat.strong_induction_on generalizing bytes fills with
  | _ _ ih =>
      subst size
      rcases newline_cases bytes with whole | ⟨line, rest, rfl, first⟩
      · rw [readProtocolLines_last whole]
        by_cases ended : bytes = []
        · rw [if_pos ended, ended, protocolRecords_nil, List.map_nil]
        · rw [if_neg ended, protocolRecords_last whole ended]
          rfl
      · obtain ⟨fills', read⟩ := readProtocolLines_append first rest fills
        have shorter : rest.length < (line ++ newline :: rest).length := by
          rw [List.length_append, List.length_cons]
          omega
        rw [read, protocolRecords_append first, List.map_cons, ih _ shorter rest fills' rfl]

/-! ## What a line holds, and what the reader holds -/

/-- A line has exactly the bytes of its record. -/
theorem fromUtf8_eq_some {bytes : List UInt8} {text : String} :
    fromUtf8 bytes = some text ↔ text.toByteArray = ⟨bytes.toArray⟩ := by
  unfold fromUtf8 String.fromUTF8?
  constructor
  · intro decoded
    split at decoded
    · cases decoded
      rfl
    · cases decoded
  · intro bytesEq
    have valid : ByteArray.IsValidUTF8 ⟨bytes.toArray⟩ := bytesEq ▸ text.isValidUTF8
    rw [dif_pos valid, Option.some.injEq]
    exact String.toByteArray_inj.mp bytesEq.symm

theorem classifyCounted_eq_line {content : List UInt8} {text : String} :
    classifyCounted content = .line text ↔
      (stripCarriageReturn content).length ≤ maxProtocolLineBytes ∧
        text.toByteArray = ⟨(stripCarriageReturn content).toArray⟩ := by
  unfold classifyCounted classifyAs
  dsimp only
  rw [← fromUtf8_eq_some]
  split
  · rename_i long
    constructor
    · intro impossible
      cases impossible
    · intro given
      omega
  · rename_i short
    rw [and_iff_right (Nat.not_lt.mp short)]
    split
    · rename_i decoded found
      rw [found, BoundedProtocolLine.line.injEq, Option.some.injEq]
    · rename_i found
      rw [found]
      constructor <;> intro impossible <;> cases impossible

/-- The reader and the record after each fill of one call. The flag says that the record
has ended. -/
inductive AfterFills (cut : Nat → Nat) (reader : BufReader) :
    Bool → BufReader → RecordSoFar → Prop
  | start : AfterFills cut reader false reader RecordSoFar.start
  | fill {current : BufReader} {record : RecordSoFar} :
      AfterFills cut reader false current record → current.fillBuf cut ≠ [] →
      AfterFills cut reader (segmentOf (current.fillBuf cut)).ends
        (current.consume (segmentOf (current.fillBuf cut)).consumed)
        (record.absorb (segmentOf (current.fillBuf cut)).content)

/-- **Bounded memory**: at most one byte beyond the limit is kept. -/
theorem AfterFills.stored_le {cut : Nat → Nat} {reader current : BufReader} {ended : Bool}
    {record : RecordSoFar} (after : AfterFills cut reader ended current record) :
    record.stored.length ≤ maxProtocolLineBytes + 1 := by
  have holds : ∃ content, record.Holds content := by
    induction after with
    | start => exact ⟨[], RecordSoFar.start_holds⟩
    | fill _ _ ih =>
        obtain ⟨content, holds⟩ := ih
        exact ⟨_, holds.absorb _⟩
  obtain ⟨content, holds⟩ := holds
  rw [holds.stored, List.length_take]
  exact Nat.min_le_left _ _

/-! ## The result -/

/-- **Protocol framing is independent of buffering.** -/
theorem protocol_framing (cut : Nat → Nat) (fills : Nat) :
    (∀ bytes, readProtocolLines cut ⟨bytes, fills⟩ =
        (protocolRecords bytes).map classifyCounted) ∧
      (∀ content, content.length ≤ usizeMax → classifyCounted content = classify content) ∧
      (∀ content, classifyCounted content =
        if maxProtocolLineBytes < (stripCarriageReturn content).length then
          .oversized (min content.length usizeMax -
            (content.length - (stripCarriageReturn content).length))
        else classify content) ∧
      (∀ content text, classifyCounted content = .line text ↔
        (stripCarriageReturn content).length ≤ maxProtocolLineBytes ∧
          text.toByteArray = ⟨(stripCarriageReturn content).toArray⟩) ∧
      (∀ reader ended current record, AfterFills cut reader ended current record →
        record.stored.length ≤ maxProtocolLineBytes + 1) ∧
      (∀ line rest, newline ∉ line → readProtocolLines cut ⟨line ++ newline :: rest, fills⟩ =
        classifyCounted line :: readProtocolLines cut ⟨rest, fills⟩) := by
  refine ⟨fun bytes => readProtocolLines_eq cut bytes fills, fun _ => classifyCounted_eq, ?_,
    fun _ _ => classifyCounted_eq_line, fun _ _ _ _ => AfterFills.stored_le, ?_⟩
  · intro content
    unfold classifyCounted classify classifyAs
    dsimp only
    split <;> rfl
  · intro line rest first
    rw [readProtocolLines_eq, readProtocolLines_eq, protocolRecords_append first, List.map_cons]

/-- An unbounded line without a carriage return has more bytes than are counted. -/
theorem classifyCounted_ne {content : List UInt8} (wide : usizeMax < content.length)
    (plain : carriageReturn ∉ content) : classifyCounted content ≠ classify content := by
  have strip : stripCarriageReturn content = content :=
    if_neg fun trailing => plain (List.mem_of_getLast? trailing)
  have long : maxProtocolLineBytes < content.length :=
    Nat.lt_trans (by decide) wide
  unfold classifyCounted classify classifyAs
  dsimp only
  rw [strip, if_pos long, if_pos long]
  intro equal
  injection equal with lengths
  omega

/-- The length of an oversized line stops at the largest machine word. -/
theorem oversized_length_saturates :
    ¬ ∀ (cut : Nat → Nat) (bytes : List UInt8),
      readProtocolLines cut ⟨bytes, 0⟩ = (protocolRecords bytes).map classify := by
  intro framing
  have spaces : ∀ (count : Nat) (byte : UInt8), byte ≠ 32 →
      byte ∉ List.replicate count (32 : UInt8) := fun count byte other member =>
    other (List.eq_of_mem_replicate member)
  have long : usizeMax < (List.replicate (usizeMax + 1) (32 : UInt8)).length := by
    rw [List.length_replicate]
    exact Nat.lt_succ_self _
  have filled : List.replicate (usizeMax + 1) (32 : UInt8) ≠ [] :=
    List.ne_nil_of_length_pos (Nat.zero_lt_of_lt long)
  have read := framing (fun _ => 0) (List.replicate (usizeMax + 1) 32)
  rw [readProtocolLines_eq, protocolRecords_last (spaces _ _ (by decide)) filled,
    List.map_singleton, List.map_singleton, List.singleton_inj] at read
  exact classifyCounted_ne long (spaces _ _ (by decide)) read

end Omnivox.Server
