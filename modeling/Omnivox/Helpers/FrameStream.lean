import Mathlib
import Omnivox.Foundations.Fallible
import Omnivox.Helpers.SynthesisFrames
import Omnivox.Server.ProtocolLines

/-!
# Helper frames on a pipe

A frame is the JSON of one message and a newline. The reader takes it from whatever segments the
pipe offers, and never more than the largest frame and a line ending.

One read is decided by the bytes alone, however the pipe cuts them (`readFrame_eq`). A reader gets
back the messages that were written, and when the pipe breaks, those whose frames came through
whole and no other, and it knows whether more was to come (`frames_read_back`).
-/

set_option autoImplicit false

namespace Omnivox.Helpers

open Foundations Server

/-- The faults of a frame, with those of its JSON. -/
inductive FrameError (Fault : Type) where
  | frameTooLarge
  | truncatedFrame
  | json (fault : Fault)
  deriving Repr, DecidableEq

/-- `serde_json` for the messages of one direction. -/
structure FrameCodec (Message Fault : Type) where
  toVec : Message → Except Fault (List UInt8)
  fromSlice : List UInt8 → Except Fault Message

variable {Message Fault : Type}

/-! ## Writing -/

/-- Encode one newline-terminated helper frame after enforcing its wire bound. -/
def encodeFrame (codec : FrameCodec Message Fault) (message : Message) :
    Except (FrameError Fault) (List UInt8) := do
  let frame ← (codec.toVec message).mapError .json
  ensure (frame.length ≤ MAX_HELPER_FRAME_BYTES) .frameTooLarge
  return frame ++ [newline]

/-- What a pipe takes when `write_frame` is called for one message after another. -/
def writeFrames (codec : FrameCodec Message Fault) :
    List Message → Except (FrameError Fault) (List UInt8)
  | [] => .ok []
  | message :: rest => do
      let frame ← encodeFrame codec message
      let later ← writeFrames codec rest
      return frame ++ later

/-! ## Reading -/

/-- `Read::take`: a reader with a limit. -/
structure LimitedReader where
  inner : BufReader
  limit : Nat
  deriving Repr, DecidableEq

/-- The bytes up to the first newline, and the newline. -/
def firstFrame : List UInt8 → List UInt8
  | [] => []
  | byte :: rest => if byte = newline then [byte] else byte :: firstFrame rest

/-- What `read_frame` makes of the bytes that it has read. -/
def decodeFrame (codec : FrameCodec Message Fault) (frame : List UInt8) :
    Except (FrameError Fault) (Option Message) :=
  if frame = [] then .ok none
  else if frame.getLast? = some newline then do
    let frame := stripCarriageReturn frame.dropLast
    ensure (frame.length ≤ MAX_HELPER_FRAME_BYTES) .frameTooLarge
    let message ← (codec.fromSlice frame).mapError .json
    return some message
  else .error (if MAX_HELPER_FRAME_BYTES < frame.length then .frameTooLarge else .truncatedFrame)

section Reading

variable (cut : Nat → Nat)

namespace LimitedReader

def fillBuf (reader : LimitedReader) : List UInt8 := (reader.inner.fillBuf cut).take reader.limit

def consume (reader : LimitedReader) (amount : Nat) : LimitedReader where
  inner := reader.inner.consume (min amount reader.limit)
  limit := reader.limit - min amount reader.limit

/-- The bytes in sight. -/
def visible (reader : LimitedReader) : List UInt8 := reader.inner.remaining.take reader.limit

theorem fillBuf_eq (reader : LimitedReader) :
    reader.fillBuf cut =
      reader.visible.take (min (cut reader.inner.fills + 1) maxSliceBytes) := by
  rw [fillBuf, BufReader.fillBuf, visible, List.take_take, List.take_take, Nat.min_comm]

/-- What a fill offers is a beginning of what is in sight. -/
theorem visible_eq (reader : LimitedReader) :
    ∃ more, reader.visible = reader.fillBuf cut ++ more := by
  rw [fillBuf_eq]
  exact ⟨_, (List.take_append_drop _ _).symm⟩

theorem fillBuf_slice (reader : LimitedReader) :
    (reader.fillBuf cut).length ≤ maxSliceBytes := by
  rw [fillBuf_eq, List.length_take]
  omega

theorem fillBuf_le (reader : LimitedReader) : (reader.fillBuf cut).length ≤ reader.limit := by
  rw [fillBuf, List.length_take]
  omega

theorem visible_of_fillBuf {reader : LimitedReader} (nothing : reader.fillBuf cut = []) :
    reader.visible = [] := by
  have wide : 0 < maxSliceBytes := by decide
  rw [fillBuf_eq, List.take_eq_nil_iff] at nothing
  exact nothing.resolve_left (by omega)

/-- What is in sight behind the bytes that are consumed. -/
theorem visible_consume {reader : LimitedReader} {taken more : List UInt8}
    (sight : reader.visible = taken ++ more) (fits : taken.length ≤ reader.limit) :
    (reader.consume taken.length).visible = more := by
  rw [consume, visible, BufReader.consume, Nat.min_eq_left fits, ← List.drop_take]
  change reader.visible.drop taken.length = more
  rw [sight, List.drop_left]

end LimitedReader

/-- A fill takes no more than it was offered. -/
theorem segmentOf_consumed_le {available : List UInt8} (slice : available.length ≤ maxSliceBytes) :
    (segmentOf available).consumed ≤ available.length := by
  rcases newline_cases available with whole | ⟨line, rest, rfl, first⟩
  · rw [segmentOf_open whole slice]
  · rw [segmentOf_ended first slice, List.length_append, List.length_cons]
    dsimp only
    omega

/-- `read_until(b'\n')`, from the bytes that it has so far. -/
def readUntil (reader : LimitedReader) (frame : List UInt8) : LimitedReader × List UInt8 :=
  let segment := segmentOf (reader.fillBuf cut)
  let next := reader.consume segment.consumed
  let frame := frame ++ (reader.fillBuf cut).take segment.consumed
  if _ : segment.ends = true ∨ segment.consumed = 0 then (next, frame) else readUntil next frame
termination_by reader.limit
decreasing_by
  rename_i further
  have consumed : (segmentOf (reader.fillBuf cut)).consumed ≠ 0 := fun nothing =>
    further (.inr nothing)
  have offered := segmentOf_consumed_le (reader.fillBuf_slice cut)
  have limited := reader.fillBuf_le cut
  rw [LimitedReader.consume]
  dsimp only
  omega

/-- Read one bounded helper frame. A clean end before a frame is `none`. -/
def readFrame (codec : FrameCodec Message Fault) (reader : BufReader) :
    BufReader × Except (FrameError Fault) (Option Message) :=
  let read := readUntil cut ⟨reader, MAX_HELPER_FRAME_BYTES + 2⟩ []
  (read.1.inner, decodeFrame codec read.2)

end Reading

/-! ## One read -/

theorem firstFrame_append {line : List UInt8} (first : newline ∉ line) (rest : List UInt8) :
    firstFrame (line ++ rest) = line ++ firstFrame rest := by
  induction line with
  | nil => rfl
  | cons byte line ih =>
      obtain ⟨here, there⟩ := not_or.mp (fun member => first (List.mem_cons.mpr member))
      rw [List.cons_append, firstFrame, if_neg (Ne.symm here), ih there, List.cons_append]

theorem firstFrame_line {line : List UInt8} (first : newline ∉ line) (rest : List UInt8) :
    firstFrame (line ++ newline :: rest) = line ++ [newline] := by
  rw [firstFrame_append first, firstFrame, if_pos rfl]

theorem firstFrame_open {bytes : List UInt8} (first : newline ∉ bytes) :
    firstFrame bytes = bytes := by
  have whole := firstFrame_append first []
  rwa [List.append_nil, firstFrame, List.append_nil] at whole

/-- **The loop** reads up to the first newline in sight. The induction is on the limit: a fill
ends within the frame or takes its newline too. -/
theorem readUntil_eq (cut : Nat → Nat) (reader : LimitedReader) (frame : List UInt8) :
    ∃ fills limit, readUntil cut reader frame =
      (⟨⟨reader.inner.remaining.drop (firstFrame reader.visible).length, fills⟩, limit⟩,
        frame ++ firstFrame reader.visible) := by
  induction size : reader.limit using Nat.strong_induction_on generalizing reader frame with
  | _ _ ih =>
      subst size
      have slice := reader.fillBuf_slice cut
      have limited := reader.fillBuf_le cut
      obtain ⟨more, sight⟩ := reader.visible_eq cut
      have nothing : reader.fillBuf cut = [] → reader.visible = [] :=
        LimitedReader.visible_of_fillBuf cut
      rw [readUntil]
      generalize reader.fillBuf cut = available at slice limited sight nothing
      rcases newline_cases available with whole | ⟨line, rest, rfl, first⟩
      · rw [segmentOf_open whole slice]
        dsimp only
        by_cases ended : available = []
        · rw [dif_pos (.inr (by rw [ended]; rfl)), nothing ended, ended]
          exact ⟨_, _, rfl⟩
        · have some : 0 < available.length := List.length_pos_of_ne_nil ended
          rw [dif_neg (by simp only [Bool.false_eq_true, false_or]; omega)]
          have shorter : (reader.consume available.length).limit < reader.limit := by
            rw [LimitedReader.consume]
            dsimp only
            omega
          obtain ⟨fills, limit, read⟩ :=
            ih _ shorter (reader.consume available.length) (frame ++ available) rfl
          refine ⟨fills, limit, ?_⟩
          rw [List.take_length, read, LimitedReader.visible_consume sight limited, sight,
            firstFrame_append whole, List.append_assoc, List.length_append,
            LimitedReader.consume, BufReader.consume, Nat.min_eq_left limited, List.drop_drop]
      · rw [segmentOf_ended first slice]
        dsimp only
        rw [dif_pos (.inl rfl)]
        have taken : (line ++ newline :: rest).take (line.length + 1) = line ++ [newline] := by
          rw [List.take_length_add_append, List.take_succ_cons, List.take_zero]
        have within : line.length + 1 ≤ reader.limit := by
          rw [List.length_append, List.length_cons] at limited
          omega
        refine ⟨reader.inner.fills + 1, reader.limit - (line.length + 1), ?_⟩
        rw [taken, sight, List.append_assoc, List.cons_append, firstFrame_line first,
          List.length_append, List.length_singleton, LimitedReader.consume, BufReader.consume,
          Nat.min_eq_left within]

/-- **One read** is decided by the bytes that are left, however the pipe cuts them. -/
theorem readFrame_eq (cut : Nat → Nat) (codec : FrameCodec Message Fault) (reader : BufReader) :
    ∃ fills, readFrame cut codec reader =
      (⟨reader.remaining.drop
          (firstFrame (reader.remaining.take (MAX_HELPER_FRAME_BYTES + 2))).length, fills⟩,
        decodeFrame codec (firstFrame (reader.remaining.take (MAX_HELPER_FRAME_BYTES + 2)))) := by
  obtain ⟨fills, limit, read⟩ := readUntil_eq cut ⟨reader, MAX_HELPER_FRAME_BYTES + 2⟩ []
  refine ⟨fills, ?_⟩
  rw [readFrame, read, List.nil_append, LimitedReader.visible]

/-- A message takes at least a byte. -/
theorem remaining_of_readFrame {cut : Nat → Nat} {codec : FrameCodec Message Fault}
    {reader next : BufReader} {message : Message}
    (read : readFrame cut codec reader = (next, .ok (some message))) :
    next.remaining.length < reader.remaining.length := by
  obtain ⟨fills, result⟩ := readFrame_eq cut codec reader
  rw [read] at result
  obtain ⟨rest, decoded⟩ := Prod.mk.inj result
  rw [rest, List.length_drop]
  have taken : firstFrame (reader.remaining.take (MAX_HELPER_FRAME_BYTES + 2)) ≠ [] := by
    intro nothing
    rw [nothing, decodeFrame, if_pos rfl] at decoded
    cases decoded
  have some : 0 < (firstFrame (reader.remaining.take (MAX_HELPER_FRAME_BYTES + 2))).length :=
    List.length_pos_of_ne_nil taken
  have left : 0 < reader.remaining.length := by
    refine List.length_pos_of_ne_nil fun ended => taken ?_
    rw [ended, List.take_nil, firstFrame]
  omega

/-! ## The reader of a connection -/

/-- Hand on messages up to the end of the pipe, or a frame at fault. -/
def readFrames (cut : Nat → Nat) (codec : FrameCodec Message Fault) (reader : BufReader) :
    List Message × Except (FrameError Fault) Unit :=
  match _ : readFrame cut codec reader with
  | (_, .error fault) => ([], .error fault)
  | (_, .ok none) => ([], .ok ())
  | (next, .ok (some message)) =>
      let later := readFrames cut codec next
      (message :: later.1, later.2)
termination_by reader.remaining.length
decreasing_by
  rename_i read
  exact remaining_of_readFrame read

/-- What the JSON of messages promises: it is read back, it is one line, and no carriage return
ends it. -/
structure FrameCodec.Lawful (codec : FrameCodec Message Fault) : Prop where
  readsBack : ∀ message bytes, codec.toVec message = .ok bytes →
    codec.fromSlice bytes = .ok message
  oneLine : ∀ message bytes, codec.toVec message = .ok bytes → newline ∉ bytes
  lastByte : ∀ message bytes, codec.toVec message = .ok bytes →
    bytes.getLast? ≠ some carriageReturn

section RoundTrip

variable {codec : FrameCodec Message Fault} {message : Message} {text frame : List UInt8}

theorem encodeFrame_eq_ok :
    encodeFrame codec message = .ok frame ↔ ∃ text, codec.toVec message = .ok text ∧
      text.length ≤ MAX_HELPER_FRAME_BYTES ∧ text ++ [newline] = frame := by
  simp only [encodeFrame, bind_eq_ok, mapError_eq_ok, ensure_eq_ok, decide_eq_true_eq,
    exists_const]
  constructor
  · rintro ⟨text, encoded, short, same⟩
    exact ⟨text, encoded, short, Except.ok.inj same⟩
  · rintro ⟨text, encoded, short, rfl⟩
    exact ⟨text, encoded, short, rfl⟩

theorem writeFrames_cons {rest : List Message} {written : List UInt8} :
    writeFrames codec (message :: rest) = .ok written ↔ ∃ frame later,
      encodeFrame codec message = .ok frame ∧ writeFrames codec rest = .ok later ∧
        frame ++ later = written := by
  simp only [writeFrames, bind_eq_ok]
  constructor
  · rintro ⟨frame, encoded, later, wrote, same⟩
    exact ⟨frame, later, encoded, wrote, Except.ok.inj same⟩
  · rintro ⟨frame, later, encoded, wrote, rfl⟩
    exact ⟨frame, encoded, later, wrote, rfl⟩

/-- **A whole frame** is read as its message, and nothing behind it is touched. -/
theorem readFrame_whole (cut : Nat → Nat) (lawful : codec.Lawful)
    (encoded : codec.toVec message = .ok text) (short : text.length ≤ MAX_HELPER_FRAME_BYTES)
    (rest : List UInt8) (fills : Nat) :
    ∃ fills', readFrame cut codec ⟨text ++ newline :: rest, fills⟩ =
      (⟨rest, fills'⟩, .ok (some message)) := by
  obtain ⟨fills', read⟩ := readFrame_eq cut codec ⟨text ++ newline :: rest, fills⟩
  refine ⟨fills', ?_⟩
  have first := lawful.oneLine message text encoded
  obtain ⟨room, fits⟩ : ∃ room, MAX_HELPER_FRAME_BYTES + 2 = text.length + (room + 1) :=
    ⟨MAX_HELPER_FRAME_BYTES + 1 - text.length, by omega⟩
  have bytes : firstFrame ((text ++ newline :: rest).take (MAX_HELPER_FRAME_BYTES + 2)) =
      text ++ [newline] := by
    rw [fits, List.take_length_add_append, List.take_succ_cons, firstFrame_line first]
  have behind : (text ++ newline :: rest).drop (text.length + 1) = rest := by
    rw [List.drop_length_add_append]
    rfl
  have strip : stripCarriageReturn text = text :=
    if_neg (lawful.lastByte message text encoded)
  have checked : ensure (text.length ≤ MAX_HELPER_FRAME_BYTES) FrameError.frameTooLarge =
      (.ok () : Except (FrameError Fault) Unit) := ensure_eq_ok.mpr (decide_eq_true short)
  have decoded : decodeFrame codec (text ++ [newline]) = .ok (some message) := by
    rw [decodeFrame, if_neg (List.append_ne_nil_of_right_ne_nil _ (List.cons_ne_nil _ _)),
      if_pos List.getLast?_concat, List.dropLast_concat, strip]
    dsimp only
    rw [checked, ok_bind, lawful.readsBack message text encoded]
    rfl
  rw [read, bytes, decoded, List.length_append, List.length_singleton, behind]

/-- **A frame without its end** is the clean end of the pipe, or truncated. -/
theorem readFrame_part (cut : Nat → Nat) (codec : FrameCodec Message Fault)
    {part : List UInt8} (first : newline ∉ part) (short : part.length ≤ MAX_HELPER_FRAME_BYTES)
    (fills : Nat) :
    (readFrame cut codec ⟨part, fills⟩).2 =
      if part = [] then .ok none else .error .truncatedFrame := by
  obtain ⟨fills', read⟩ := readFrame_eq cut codec ⟨part, fills⟩
  rw [read]
  dsimp only
  rw [List.take_of_length_le (by omega), firstFrame_open first, decodeFrame]
  by_cases ended : part = []
  · rw [if_pos ended, if_pos ended]
  · have last : part.getLast? ≠ some newline := fun same =>
      first (List.mem_of_getLast? same)
    rw [if_neg ended, if_neg ended, if_neg last, if_neg (by omega)]

theorem readFrames_message {cut : Nat → Nat} {reader next : BufReader}
    (read : readFrame cut codec reader = (next, .ok (some message))) :
    readFrames cut codec reader =
      (message :: (readFrames cut codec next).1, (readFrames cut codec next).2) := by
  rw [readFrames]
  split
  · rename_i failed
    cases read.symm.trans failed
  · rename_i ended
    cases read.symm.trans ended
  · rename_i here
    cases read.symm.trans here
    rfl

theorem readFrames_end {cut : Nat → Nat} {reader : BufReader}
    (read : (readFrame cut codec reader).2 = .ok none) :
    readFrames cut codec reader = ([], .ok ()) := by
  rw [readFrames]
  split
  · rename_i failed
    rw [failed] at read
    cases read
  · rfl
  · rename_i here
    rw [here] at read
    cases read

theorem readFrames_fault {cut : Nat → Nat} {reader : BufReader} {fault : FrameError Fault}
    (read : (readFrame cut codec reader).2 = .error fault) :
    readFrames cut codec reader = ([], .error fault) := by
  rw [readFrames]
  split
  · rename_i failed
    rw [failed] at read
    rw [Except.error.inj read]
  · rename_i ended
    rw [ended] at read
    cases read
  · rename_i here
    rw [here] at read
    cases read

theorem readFrames_part (cut : Nat → Nat) (codec : FrameCodec Message Fault)
    {part : List UInt8} (first : newline ∉ part) (short : part.length ≤ MAX_HELPER_FRAME_BYTES)
    (fills : Nat) :
    readFrames cut codec ⟨part, fills⟩ =
      ([], if part = [] then .ok () else .error .truncatedFrame) := by
  have answer := readFrame_part cut codec first short fills
  by_cases nothing : part = []
  · rw [if_pos nothing] at answer ⊢
    exact readFrames_end answer
  · rw [if_neg nothing] at answer ⊢
    exact readFrames_fault answer

/-- The messages that were read of what arrived, of what was sent. -/
structure ReadsBack (codec : FrameCodec Message Fault) (messages : List Message)
    (arrived : List UInt8) (read : List Message × Except (FrameError Fault) Unit) : Prop where
  inOrder : read.1 <+: messages
  /-- Every message whose frame came through is there. -/
  all : ∀ more bytes, more <+: messages → writeFrames codec more = .ok bytes →
    bytes <+: arrived → more <+: read.1
  /-- The pipe ended cleanly when it ended between two frames. -/
  ended : ∃ whole, writeFrames codec read.1 = .ok whole ∧ whole <+: arrived ∧
    read.2 = if arrived = whole then .ok () else .error .truncatedFrame

/-- No frame at all. -/
theorem ReadsBack.part {messages : List Message} {part : List UInt8}
    (none : ∀ message rest frame, messages = message :: rest →
      encodeFrame codec message = .ok frame → ¬ frame <+: part) :
    ReadsBack codec messages part
      ([], if part = [] then .ok () else .error .truncatedFrame) where
  inOrder := List.nil_prefix
  all := by
    intro more bytes front wrote came
    cases more with
    | nil => exact List.nil_prefix
    | cons message later =>
        obtain ⟨behind, rfl⟩ := front
        obtain ⟨frame, further, encoded, _, rfl⟩ := writeFrames_cons.mp wrote
        exact absurd ((List.prefix_append frame further).trans came)
          (none message (later ++ behind) frame rfl encoded)
  ended := ⟨[], rfl, List.nil_prefix, rfl⟩

/-- One frame more in front. -/
theorem ReadsBack.cons {rest : List Message} {arrived : List UInt8}
    {read : List Message × Except (FrameError Fault) Unit}
    (encoded : encodeFrame codec message = .ok frame)
    (reads : ReadsBack codec rest arrived read) :
    ReadsBack codec (message :: rest) (frame ++ arrived) (message :: read.1, read.2) where
  inOrder := List.cons_prefix_cons.mpr ⟨rfl, reads.inOrder⟩
  all := by
    intro more bytes front wrote came
    cases more with
    | nil => exact List.nil_prefix
    | cons head later =>
        obtain ⟨rfl, laterFront⟩ := List.cons_prefix_cons.mp front
        obtain ⟨frame', further, encoded', laterWrote, rfl⟩ := writeFrames_cons.mp wrote
        obtain rfl : frame = frame' := Except.ok.inj (encoded.symm.trans encoded')
        have laterCame := (List.prefix_append_right_inj frame).mp came
        exact List.cons_prefix_cons.mpr
          ⟨rfl, reads.all later further laterFront laterWrote laterCame⟩
  ended := by
    obtain ⟨whole, wrote, came, result⟩ := reads.ended
    refine ⟨frame ++ whole, writeFrames_cons.mpr ⟨frame, whole, encoded, wrote, rfl⟩,
      (List.prefix_append_right_inj frame).mpr came, ?_⟩
    simp only [List.append_cancel_left_eq]
    exact result

end RoundTrip

/-- **Frames are read back.** The messages of a writer come to the reader in their order, however
the pipe cuts the bytes. Wherever the pipe breaks, the reader has exactly the messages whose
frames came through whole. The end is clean between two frames, and anywhere else the last frame
is truncated. -/
theorem frames_read_back {codec : FrameCodec Message Fault} (lawful : codec.Lawful)
    {messages : List Message} {written arrived : List UInt8}
    (wrote : writeFrames codec messages = .ok written) (came : arrived <+: written)
    (cut : Nat → Nat) (fills : Nat) :
    ReadsBack codec messages arrived (readFrames cut codec ⟨arrived, fills⟩) := by
  induction messages generalizing written arrived fills with
  | nil =>
      cases wrote
      obtain rfl := List.prefix_nil.mp came
      rw [readFrames_part cut codec List.not_mem_nil (Nat.zero_le _)]
      exact ReadsBack.part fun message rest frame same => by cases same
  | cons message rest ih =>
      obtain ⟨frame, later, encoded, restWrote, rfl⟩ := writeFrames_cons.mp wrote
      obtain ⟨text, json, short, rfl⟩ := encodeFrame_eq_ok.mp encoded
      by_cases whole : text ++ [newline] <+: arrived
      · -- the frame came through
        obtain ⟨behind, rfl⟩ := whole
        have restCame := (List.prefix_append_right_inj (text ++ [newline])).mp came
        obtain ⟨fills', read⟩ := readFrame_whole cut lawful json short behind fills
        have reads := (ih restWrote restCame fills').cons encoded
        rw [List.append_assoc, List.singleton_append] at reads ⊢
        rw [readFrames_message read]
        exact reads
      · -- the pipe broke within it
        have inside : arrived <+: text ++ [newline] :=
          (List.prefix_or_prefix_of_prefix came (List.prefix_append _ later)).resolve_right whole
        have part : arrived <+: text := by
          rcases List.prefix_concat_iff.mp inside with rfl | part
          · exact absurd (List.prefix_refl _) whole
          · exact part
        have first : newline ∉ arrived := fun member =>
          lawful.oneLine message text json (part.subset member)
        rw [readFrames_part cut codec first (part.length_le.trans short)]
        refine ReadsBack.part fun head tail frame same encoded' => ?_
        obtain ⟨rfl, rfl⟩ := List.cons.inj same
        obtain rfl : text ++ [newline] = frame := Except.ok.inj (encoded.symm.trans encoded')
        exact whole

/-- Truth values as `serde_json` writes and reads them. -/
def truthCodec : FrameCodec Bool String where
  toVec
    | true => .ok [116, 114, 117, 101]
    | false => .ok [102, 97, 108, 115, 101]
  fromSlice bytes :=
    if bytes = [116, 114, 117, 101] then .ok true
    else if bytes = [102, 97, 108, 115, 101] then .ok false
    else .error "expected a boolean"

theorem truthCodec_lawful : truthCodec.Lawful where
  readsBack message bytes encoded := by
    cases message <;> cases encoded <;> rfl
  oneLine message bytes encoded := by
    cases message <;> cases encoded <;> decide
  lastByte message bytes encoded := by
    cases message <;> cases encoded <;> decide

theorem frames_read_back_broken :
    ∃ read, readFrames id truthCodec ⟨[116, 114, 117, 101, 10, 102, 97, 108], 0⟩ = read ∧
      [true] <+: read.1 ∧ read.1 <+: [true, false] := by
  have wrote : writeFrames truthCodec [true, false] =
      .ok [116, 114, 117, 101, 10, 102, 97, 108, 115, 101, 10] := rfl
  have reads : ReadsBack truthCodec [true, false] [116, 114, 117, 101, 10, 102, 97, 108]
      (readFrames id truthCodec ⟨[116, 114, 117, 101, 10, 102, 97, 108], 0⟩) :=
    frames_read_back truthCodec_lawful wrote (by decide) id 0
  exact ⟨_, rfl, reads.all [true] [116, 114, 117, 101, 10] (by decide) rfl (by decide),
    reads.inOrder⟩

end Omnivox.Helpers
