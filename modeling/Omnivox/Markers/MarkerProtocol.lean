import Mathlib
import Omnivox.Foundations.Base64
import Omnivox.Foundations.Fallible
import Omnivox.Markers.MarkerEvents
import Omnivox.Server.RemoteSessions

/-!
# The marker protocol

An event is sent as one line: a prefix, a space and the event's document in Base64. Both
sides check the event and, from version 3 on, the size of the line and of a voice choice
receipt.

What is encoded is decoded to the same event (`decode_encode`), and from version 3 on its
line is read as one record of a remote connection (`Line.accepted`).
-/

set_option autoImplicit false

namespace Omnivox.Markers

open Foundations
open Parameters (HelperProtocolError NativeApplication)
open Server (isRecord newline)

/-- Current marker event protocol version. -/
def MARKER_PROTOCOL_VERSION : Nat := 1
def TIMELINE_EVENT_PROTOCOL_VERSION : Nat := 2
def VOICE_CHOICE_EVENT_PROTOCOL_VERSION : Nat := 3
def NATIVE_VOICE_EVENT_PROTOCOL_VERSION : Nat := 4
def MAX_VOICE_CHOICE_RECEIPT_BYTES : Nat := 32 * 1024
def MAX_V3_MARKER_RECORD_BYTES : Nat := 512 * 1024
def MAX_SEMANTIC_ACTION_ID_BYTES : Nat := 128
def MAX_TIMELINE_ID_BYTES : Nat := 128
def MAX_AUDIO_CHOICE_IDENTITY_BYTES : Nat := 32 * 1024
def MARKER_EVENT_PREFIX : String := "__EMACSVOX_MARKER__"
def MAX_MARKER_EVENT_PAYLOAD_BYTES : Nat := 2 * 1024 * 1024
def MAX_MARKER_EVENT_ENCODED_BYTES : Nat := MAX_MARKER_EVENT_PAYLOAD_BYTES / 3 * 4 + 8

/-- Encoding or decoding failure for one marker event. -/
inductive MarkerProtocolError where
  | payloadTooLarge
  | choiceReceiptTooLarge
  | recordTooLarge
  | invalidJson (error : JsonError)
  | duplicateMember
  | invalidEnvelope (message : String)
  deriving Repr, DecidableEq

/-! ## Events -/

/-- Versions 3 and 4. -/
def carriesChoices (protocolVersion : Nat) : Bool :=
  protocolVersion == VOICE_CHOICE_EVENT_PROTOCOL_VERSION ||
    protocolVersion == NATIVE_VOICE_EVENT_PROTOCOL_VERSION

/-- Versions 2, 3 and 4. -/
def supportsTimelineEvents (protocolVersion : Nat) : Bool :=
  protocolVersion == TIMELINE_EVENT_PROTOCOL_VERSION || carriesChoices protocolVersion

/-- Check before synthesis, so an unreportable voice never produces audio. -/
def validateAudioChoiceIdentity (identity : AudioChoiceIdentity) : Except String Unit :=
  ensure (identity.toJson.size ≤ MAX_AUDIO_CHOICE_IDENTITY_BYTES)
    "voice choice identity exceeds the output budget"

/-- The text of an error of the helper protocol. -/
def helperErrorText : HelperProtocolError → String
  | .invalidField field => s!"invalid helper protocol field: {field}"
  | .json => "helper protocol JSON is invalid"

/-- Check an ID of a presentation timeline. -/
def validateId (value kind : String) : Except String Unit :=
  ensure (value.utf8ByteSize ≠ 0 && value.utf8ByteSize ≤ MAX_TIMELINE_ID_BYTES)
    (s!"invalid presentation timeline: {kind} ID must contain 1 to {MAX_TIMELINE_ID_BYTES} " ++
      "UTF-8 bytes")

/-- The identity and the application of a receipt are checked in version 4. -/
def validateNativeChoice (protocolVersion : Nat) (choice : VoiceChoiceApplied) :
    Except MarkerProtocolError Unit :=
  if protocolVersion = NATIVE_VOICE_EVENT_PROTOCOL_VERSION then do
    (validateAudioChoiceIdentity choice.choice).mapError .invalidEnvelope
    match choice.nativeApplication.join with
    | none => .ok ()
    | some application =>
        application.validate.mapError fun error => .invalidEnvelope (helperErrorText error)
  else .ok ()

def validateChoice (protocolVersion : Nat) (choice : VoiceChoiceApplied) :
    Except MarkerProtocolError Unit := do
  ensure (carriesChoices protocolVersion)
    (.invalidEnvelope "voice choice receipts require protocol version 3 or 4")
  ensure ((protocolVersion == NATIVE_VOICE_EVENT_PROTOCOL_VERSION) ==
      choice.nativeApplication.isSome)
    (.invalidEnvelope "native receipt member requires version 4 and must be present there")
  validateNativeChoice protocolVersion choice
  ensure (choice.utteranceId ≠ 0 && choice.spanId ≠ 0 && choice.registryGeneration ≠ 0)
    (.invalidEnvelope "choice receipt identities must be positive")
  (validateId choice.logicalVoiceId "logical voice").mapError .invalidEnvelope

def validateAction (protocolVersion : Nat) (actionId : String) :
    Except MarkerProtocolError Unit := do
  ensure (supportsTimelineEvents protocolVersion)
    (.invalidEnvelope "semantic events require protocol version 2")
  ensure (actionId.utf8ByteSize ≠ 0 && actionId.utf8ByteSize ≤ MAX_SEMANTIC_ACTION_ID_BYTES)
    (.invalidEnvelope
      s!"semantic action ID must contain 1 to {MAX_SEMANTIC_ACTION_ID_BYTES} UTF-8 bytes")

def validateEvent (envelope : MarkerEventEnvelope) : Except MarkerProtocolError Unit := do
  ensure (!carriesChoices envelope.protocolVersion ||
      (envelope.dispatchId ≠ 0 && envelope.sequence ≠ 0))
    (.invalidEnvelope "dispatch ID and sequence must be positive")
  match envelope.event with
  | .voiceChoiceApplied choice => validateChoice envelope.protocolVersion choice
  | .semanticEventReached _ actionId => validateAction envelope.protocolVersion actionId
  | .timelineActionResolved _ actionId _ => validateAction envelope.protocolVersion actionId
  | .timelineStyleDegraded .. =>
      ensure (supportsTimelineEvents envelope.protocolVersion)
        (.invalidEnvelope "timeline style diagnostics require protocol version 2")
  | _ =>
      ensure (envelope.protocolVersion == MARKER_PROTOCOL_VERSION ||
          supportsTimelineEvents envelope.protocolVersion)
        (.invalidEnvelope s!"unsupported protocol version {envelope.protocolVersion}")

/-! ## Payloads -/

/-- A Base64 field, by the document whose text it carries. -/
structure Payload where
  document : Json

/-- The characters of the field. -/
def Payload.text (payload : Payload) : List UInt8 := encode64 payload.document.text

def validateV3Size (envelope : MarkerEventEnvelope) (payload : Payload) :
    Except MarkerProtocolError Unit :=
  if carriesChoices envelope.protocolVersion then do
    -- the prefix, a separator and the newline count against the line
    ensure (payload.text.length + MARKER_EVENT_PREFIX.utf8ByteSize + 2 ≤
      MAX_V3_MARKER_RECORD_BYTES) .recordTooLarge
    let decoded := payload.text.length / 4 * 3 - padding payload.text
    match envelope.event with
    | .voiceChoiceApplied _ =>
        ensure (decoded ≤ MAX_VOICE_CHOICE_RECEIPT_BYTES) .choiceReceiptTooLarge
    | _ => .ok ()
  else .ok ()

def encodeJson (document : Json) : Except MarkerProtocolError Payload := do
  ensure (document.size ≤ MAX_MARKER_EVENT_PAYLOAD_BYTES) .payloadTooLarge
  return ⟨document⟩

def decodeJson (payload : Payload) : Except MarkerProtocolError MarkerEventEnvelope := do
  ensure (payload.text.length ≤ MAX_MARKER_EVENT_ENCODED_BYTES) .payloadTooLarge
  ensure (payload.document.size ≤ MAX_MARKER_EVENT_PAYLOAD_BYTES) .payloadTooLarge
  (MarkerEventEnvelope.ofJson payload.document).mapError .invalidJson

/-- Encode one marker event as an unwrapped Base64 field. -/
def encodeMarkerEvent (envelope : MarkerEventEnvelope) : Except MarkerProtocolError Payload := do
  validateEvent envelope
  let encoded ← encodeJson envelope.toJson
  validateV3Size envelope encoded
  return encoded

/-- Decode and bound one marker event field. -/
def decodeMarkerEvent (payload : Payload) : Except MarkerProtocolError MarkerEventEnvelope := do
  let envelope ← decodeJson payload
  validateEvent envelope
  validateV3Size envelope payload
  if carriesChoices envelope.protocolVersion then
    ensure payload.document.duplicateFree .duplicateMember
  return envelope

/-- A newline-free marker event record. -/
def recordLine (payload : Payload) : List UInt8 :=
  MARKER_EVENT_PREFIX.toList.flatMap String.utf8EncodeChar ++ 32 :: payload.text

/-- Format one newline-free marker event record. -/
def formatMarkerEvent (envelope : MarkerEventEnvelope) :
    Except MarkerProtocolError (List UInt8) := do
  let encoded ← encodeMarkerEvent envelope
  return recordLine encoded

/-! ## What encoding accepts -/

/-- An identity is required to be positive and an ID to be short. -/
structure ChoiceAccepted (protocolVersion : Nat) (choice : VoiceChoiceApplied) : Prop where
  version : carriesChoices protocolVersion = true
  present : protocolVersion = NATIVE_VOICE_EVENT_PROTOCOL_VERSION ↔
    choice.nativeApplication.isSome = true
  native : protocolVersion = NATIVE_VOICE_EVENT_PROTOCOL_VERSION →
    choice.choice.toJson.size ≤ MAX_AUDIO_CHOICE_IDENTITY_BYTES ∧
      ∀ application ∈ choice.nativeApplication.join, application.validate = .ok ()
  utteranceId : choice.utteranceId ≠ 0
  spanId : choice.spanId ≠ 0
  registryGeneration : choice.registryGeneration ≠ 0
  logicalVoiceId : choice.logicalVoiceId.utf8ByteSize ≠ 0 ∧
    choice.logicalVoiceId.utf8ByteSize ≤ MAX_TIMELINE_ID_BYTES

theorem validateNativeChoice_ok {protocolVersion : Nat} {choice : VoiceChoiceApplied} :
    validateNativeChoice protocolVersion choice = .ok () ↔
      (protocolVersion = NATIVE_VOICE_EVENT_PROTOCOL_VERSION →
        choice.choice.toJson.size ≤ MAX_AUDIO_CHOICE_IDENTITY_BYTES ∧
          ∀ application ∈ choice.nativeApplication.join, application.validate = .ok ()) := by
  unfold validateNativeChoice
  by_cases native : protocolVersion = NATIVE_VOICE_EVENT_PROTOCOL_VERSION
  · rw [if_pos native, seq_eq_ok, mapError_eq_ok, validateAudioChoiceIdentity, ensure_eq_ok,
      decide_eq_true_eq]
    cases choice.nativeApplication.join with
    | none => simp [native]
    | some application => simp [native, mapError_eq_ok]
  · simp [native]

theorem validateChoice_ok {protocolVersion : Nat} {choice : VoiceChoiceApplied} :
    validateChoice protocolVersion choice = .ok () ↔ ChoiceAccepted protocolVersion choice := by
  unfold validateChoice
  rw [seq_eq_ok, seq_eq_ok, seq_eq_ok, seq_eq_ok, validateNativeChoice_ok, mapError_eq_ok]
  unfold validateId
  simp only [ensure_eq_ok, Bool.and_eq_true, decide_eq_true_eq, ne_eq, beq_iff_eq]
  constructor
  · rintro ⟨version, present, native, ⟨⟨utterance, span⟩, generation⟩, empty, long⟩
    have same : protocolVersion = NATIVE_VOICE_EVENT_PROTOCOL_VERSION ↔
        choice.nativeApplication.isSome = true := by
      rw [← present, beq_iff_eq]
    exact ⟨version, same, native, utterance, span, generation, empty, long⟩
  · rintro ⟨version, present, native, utterance, span, generation, empty, long⟩
    have same : (protocolVersion == NATIVE_VOICE_EVENT_PROTOCOL_VERSION) =
        choice.nativeApplication.isSome := by
      rw [Bool.eq_iff_iff, beq_iff_eq]
      exact present
    exact ⟨version, same, native, ⟨⟨utterance, span⟩, generation⟩, empty, long⟩

/-- The sizes that a document and its line may have. -/
structure SizeAccepted (envelope : MarkerEventEnvelope) : Prop where
  payload : envelope.toJson.size ≤ MAX_MARKER_EVENT_PAYLOAD_BYTES
  line : carriesChoices envelope.protocolVersion = true →
    (envelope.toJson.size + 2) / 3 * 4 + MARKER_EVENT_PREFIX.utf8ByteSize + 2 ≤
      MAX_V3_MARKER_RECORD_BYTES
  receipt : carriesChoices envelope.protocolVersion = true →
    ∀ choice, envelope.event = .voiceChoiceApplied choice →
      envelope.toJson.size ≤ MAX_VOICE_CHOICE_RECEIPT_BYTES

theorem Payload.text_length (document : Json) :
    (Payload.mk document).text.length = (document.size + 2) / 3 * 4 :=
  length_encode64 document.text

theorem Payload.decodedLength (document : Json) :
    (Payload.mk document).text.length / 4 * 3 - padding (Payload.mk document).text =
      document.size :=
  decodedLength_encode64 document.text

theorem validateV3Size_ok {envelope : MarkerEventEnvelope} {document : Json} :
    validateV3Size envelope ⟨document⟩ = .ok () ↔
      (carriesChoices envelope.protocolVersion = true →
        (document.size + 2) / 3 * 4 + MARKER_EVENT_PREFIX.utf8ByteSize + 2 ≤
          MAX_V3_MARKER_RECORD_BYTES) ∧
      (carriesChoices envelope.protocolVersion = true →
        ∀ choice, envelope.event = .voiceChoiceApplied choice →
          document.size ≤ MAX_VOICE_CHOICE_RECEIPT_BYTES) := by
  unfold validateV3Size
  by_cases carries : carriesChoices envelope.protocolVersion = true
  · rw [if_pos carries, seq_eq_ok, ensure_eq_ok, decide_eq_true_eq, Payload.decodedLength,
      Payload.text_length]
    cases envelope.event with
    | voiceChoiceApplied choice => simp [carries]
    | utteranceStarted => simp [carries]
    | markerReached => simp [carries]
    | semanticEventReached => simp [carries]
    | timelineActionResolved => simp [carries]
    | timelineStyleDegraded => simp [carries]
  · simp [carries]

/-- **An event is encoded** when it is valid and its document fits. -/
theorem encodeMarkerEvent_ok {envelope : MarkerEventEnvelope} {payload : Payload} :
    encodeMarkerEvent envelope = .ok payload ↔
      validateEvent envelope = .ok () ∧ SizeAccepted envelope ∧ payload = ⟨envelope.toJson⟩ := by
  unfold encodeMarkerEvent encodeJson
  rw [seq_eq_ok, bind_eq_ok]
  constructor
  · rintro ⟨valid, encoded, small, sized⟩
    rw [seq_eq_ok, ensure_eq_ok, decide_eq_true_eq] at small
    obtain ⟨small, same⟩ := small
    cases same
    rw [seq_eq_ok, validateV3Size_ok] at sized
    obtain ⟨⟨line, receipt⟩, same⟩ := sized
    cases same
    exact ⟨valid, ⟨small, line, receipt⟩, rfl⟩
  · rintro ⟨valid, ⟨small, line, receipt⟩, rfl⟩
    refine ⟨valid, ⟨envelope.toJson⟩, ?_, ?_⟩
    · rw [seq_eq_ok, ensure_eq_ok, decide_eq_true_eq]
      exact ⟨small, rfl⟩
    · rw [seq_eq_ok, validateV3Size_ok]
      exact ⟨⟨line, receipt⟩, rfl⟩

/-! ## Round trip -/

/-- **What is encoded is decoded to the same event.** -/
theorem decode_encode {envelope : MarkerEventEnvelope} {payload : Payload}
    (inRange : envelope.InRange) (encoded : encodeMarkerEvent envelope = .ok payload) :
    decodeMarkerEvent payload = .ok envelope := by
  obtain ⟨valid, sizes, rfl⟩ := encodeMarkerEvent_ok.mp encoded
  have small := sizes.payload
  have field : (Payload.mk envelope.toJson).text.length ≤ MAX_MARKER_EVENT_ENCODED_BYTES := by
    rw [Payload.text_length]
    unfold MAX_MARKER_EVENT_ENCODED_BYTES MAX_MARKER_EVENT_PAYLOAD_BYTES at *
    omega
  have read : decodeJson ⟨envelope.toJson⟩ = .ok envelope := by
    unfold decodeJson
    rw [seq_eq_ok, seq_eq_ok, ensure_eq_ok, ensure_eq_ok, mapError_eq_ok]
    exact ⟨decide_eq_true field, decide_eq_true small,
      MarkerEventEnvelope.ofJson_toJson inRange⟩
  have sized : validateV3Size envelope ⟨envelope.toJson⟩ = .ok () :=
    validateV3Size_ok.mpr ⟨sizes.line, sizes.receipt⟩
  unfold decodeMarkerEvent
  rw [read, ok_bind, valid, ok_bind, sized, ok_bind, envelope.duplicateFree_toJson]
  split
  · rfl
  · rfl

/-! ## Lines -/

/-- The longest record of a remote connection. -/
def MAX_LINE : Nat := 512 * 1024

theorem plain_prefix :
    ∀ byte ∈ MARKER_EVENT_PREFIX.toList.flatMap String.utf8EncodeChar, Plain byte := by
  decide +kernel

/-- A record's line is printable text and spaces. -/
theorem ascii_recordLine {payload : Payload} {byte : UInt8} (member : byte ∈ recordLine payload) :
    32 ≤ byte.toNat ∧ byte.toNat < 128 := by
  rcases List.mem_append.mp member with own | member
  · have plain := plain_prefix byte own
    exact ⟨le_of_lt plain.1, plain.2⟩
  · rcases List.mem_cons.mp member with rfl | member
    · decide
    · have plain := plain_of_mem_encode64 member
      exact ⟨le_of_lt plain.1, plain.2⟩

theorem recordLine_length (document : Json) :
    (recordLine ⟨document⟩).length =
      MARKER_EVENT_PREFIX.utf8ByteSize + 1 + (document.size + 2) / 3 * 4 := by
  have front : (MARKER_EVENT_PREFIX.toList.flatMap String.utf8EncodeChar).length =
      MARKER_EVENT_PREFIX.utf8ByteSize := by decide +kernel
  rw [recordLine, List.length_append, List.length_cons, Payload.text_length, front]
  omega

/-- **A line is a record**, with its newline. -/
theorem isRecord_recordLine {document : Json}
    (short : (document.size + 2) / 3 * 4 + MARKER_EVENT_PREFIX.utf8ByteSize + 2 ≤ MAX_LINE) :
    isRecord MAX_LINE (recordLine ⟨document⟩ ++ [newline]) = true := by
  have ascii : ∀ byte ∈ recordLine ⟨document⟩ ++ [newline], byte.toNat < 128 := by
    intro byte member
    rcases List.mem_append.mp member with own | last
    · exact (ascii_recordLine own).2
    · rw [List.mem_singleton.mp last]
      decide
  have decoded : (Server.fromUtf8 (recordLine ⟨document⟩ ++ [newline])).isSome = true := by
    unfold Server.fromUtf8 String.fromUTF8?
    rw [dif_pos (isValidUTF8_of_ascii ascii)]
    rfl
  have noZero : (0 : UInt8) ∉ recordLine ⟨document⟩ ++ [newline] := by
    intro member
    rcases List.mem_append.mp member with own | last
    · exact absurd (ascii_recordLine own).1 (by decide)
    · exact absurd (List.mem_singleton.mp last) (by decide)
  have length : (recordLine ⟨document⟩ ++ [newline]).length ≤ MAX_LINE := by
    rw [List.length_append, recordLine_length]
    simp only [List.length_cons, List.length_nil]
    omega
  unfold isRecord
  rw [decide_eq_true length, decoded, Bool.true_and, Bool.true_and]
  simpa using noZero

/-- **The line of a record is read back as one record**, however it arrives. -/
theorem readAll_recordLine {document : Json}
    (short : (document.size + 2) / 3 * 4 + MARKER_EVENT_PREFIX.utf8ByteSize + 2 ≤ MAX_LINE)
    {arrivals : List Server.Arrival}
    (sent : Server.streamOf arrivals = recordLine ⟨document⟩ ++ [newline]) :
    (Server.Records.new ⟨[], arrivals⟩).readAll MAX_LINE =
      ([recordLine ⟨document⟩ ++ [newline]], Server.endOf arrivals) := by
  have first : newline ∉ recordLine ⟨document⟩ := fun member =>
    absurd (ascii_recordLine member).1 (by decide)
  rw [Server.Records.readAll_pending (Server.Records.new ⟨[], arrivals⟩) List.not_mem_nil
    (Nat.zero_le _)]
  have stream : (Server.Records.new ⟨[], arrivals⟩).pending ++
      (Server.Records.new ⟨[], arrivals⟩).reader.stream = recordLine ⟨document⟩ ++ [newline] :=
    sent
  rw [stream, Server.recordsOf_line first [], isRecord_recordLine short]
  rfl

end Omnivox.Markers
