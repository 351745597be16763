import Omnivox.Markers.MarkerProtocol
import Omnivox.Synthesis.Contracts
import Omnivox.Text.OffsetTracking

/-!
# Terminal events of previews

A preview ends with one control event: its status, the choices whose audio was accepted, the one
that was started last, a message, and the rate and the disabled engines that it was run with.
Room for the last three is checked before the preview is admitted. When it ends, the list of
accepted choices is shortened until the event fits.

Versions 2 and 3 differ in what is said of a choice, and share everything else (`PreviewForm`).
How `serde_json` writes and reads an `f32` is a parameter.
-/

set_option autoImplicit false

namespace Omnivox.Previews

open Foundations
open Engines (AcssDimension PostSynthesisDimension PhysicalVoiceId ResolutionReason)
open Markers (AudioChoiceIdentity Payload acssOfJson acssToJson effectOfJson effectsToJson
  helperErrorText listOfJson reasonInRange reasonOfJson reasonToJson u32Max
  validateAudioChoiceIdentity voiceOfJson voiceToJson MAX_AUDIO_CHOICE_IDENTITY_BYTES)
open Parameters (NativeApplication MAX_CONTROL_PAYLOAD_BYTES stringsOfJson stringsToJson)
open Synthesis (isCharBoundary)
open Text (splitAtByte)

def CONTROL_PROTOCOL_VERSION : Nat := 1
def MAX_CONTROL_ENCODED_BYTES : Nat := MAX_CONTROL_PAYLOAD_BYTES / 3 * 4 + 8
def MAX_ACCEPTED_AUDIO_CHOICES : Nat := 32
def MAX_PREVIEW_MESSAGE_BYTES : Nat := 1024
def MAX_NATIVE_AUDIO_CHOICE_BYTES : Nat := 48 * 1024

/-! ## Identities -/

/-- The identity of version 3: what version 2 says of a choice, and a receipt of its native
parameters. -/
structure NativeAudioChoiceIdentity where
  common : AudioChoiceIdentity
  nativeApplication : Option NativeApplication
  deriving Repr, DecidableEq

/-- Flat wire identity with its independently observed playback flag. -/
structure AcceptedAudioChoice where
  identity : AudioChoiceIdentity
  playbackStarted : Bool
  deriving Repr, DecidableEq

structure AcceptedNativeAudioChoice where
  identity : NativeAudioChoiceIdentity
  playbackStarted : Bool
  deriving Repr, DecidableEq

/-- The members that every identity has. -/
def identityMembers (identity : AudioChoiceIdentity) : List (String × Json) :=
  [("choice_id", Json.nullOr .string identity.choiceId),
    ("reason", reasonToJson identity.reason),
    ("realized", voiceToJson identity.realized),
    ("degraded_acss", acssToJson identity.degradedAcss),
    ("degraded_effects", effectsToJson identity.degradedEffects)]

def identityNames : List String :=
  ["choice_id", "reason", "realized", "degraded_acss", "degraded_effects"]

def identityOfMembers (members : List (String × Json)) : Except JsonError AudioChoiceIdentity := do
  let choiceId ← Json.required "choice_id" (Json.nullable Json.asString) members
  let reason ← Json.required "reason" reasonOfJson members
  let realized ← Json.required "realized" voiceOfJson members
  let degradedAcss ← Json.required "degraded_acss" (listOfJson acssOfJson) members
  let degradedEffects ← Json.required "degraded_effects" (listOfJson effectOfJson) members
  return ⟨choiceId, reason, realized, degradedAcss, degradedEffects⟩

def asBool : Json → Except JsonError Bool
  | .bool value => .ok value
  | _ => .error .invalidType

def nativeMembers (identity : NativeAudioChoiceIdentity) : List (String × Json) :=
  identityMembers identity.common ++
    [("native_application", Json.nullOr NativeApplication.toJson identity.nativeApplication)]

def nativeOfMembers (members : List (String × Json)) :
    Except JsonError NativeAudioChoiceIdentity := do
  let common ← identityOfMembers members
  let application ← Json.required "native_application" (Json.nullable NativeApplication.ofJson)
    members
  return ⟨common, application⟩

def NativeAudioChoiceIdentity.toJson (identity : NativeAudioChoiceIdentity) : Json :=
  .object (nativeMembers identity)

def NativeAudioChoiceIdentity.ofJson (document : Json) :
    Except JsonError NativeAudioChoiceIdentity := do
  let members ← document.asObject
  Json.denyUnknown (identityNames ++ ["native_application"]) members
  nativeOfMembers members

def AcceptedAudioChoice.toJson (accepted : AcceptedAudioChoice) : Json :=
  .object (identityMembers accepted.identity ++
    [("playback_started", .bool accepted.playbackStarted)])

def AcceptedAudioChoice.ofJson (document : Json) : Except JsonError AcceptedAudioChoice := do
  let members ← document.asObject
  Json.denyUnknown (identityNames ++ ["playback_started"]) members
  let identity ← identityOfMembers members
  let playbackStarted ← Json.required "playback_started" asBool members
  return ⟨identity, playbackStarted⟩

def AcceptedNativeAudioChoice.toJson (accepted : AcceptedNativeAudioChoice) : Json :=
  .object (nativeMembers accepted.identity ++
    [("playback_started", .bool accepted.playbackStarted)])

def AcceptedNativeAudioChoice.ofJson (document : Json) :
    Except JsonError AcceptedNativeAudioChoice := do
  let members ← document.asObject
  Json.denyUnknown (identityNames ++ ["native_application", "playback_started"]) members
  let identity ← nativeOfMembers members
  let playbackStarted ← Json.required "playback_started" asBool members
  return ⟨identity, playbackStarted⟩

def validateApplication : Option NativeApplication → Except String Unit
  | none => .ok ()
  | some application => application.validate.mapError helperErrorText

/-- Checked by the producer before any PCM can be accepted. -/
def NativeAudioChoiceIdentity.validate (identity : NativeAudioChoiceIdentity) :
    Except String Unit := do
  validateAudioChoiceIdentity identity.common
  validateApplication identity.nativeApplication
  ensure (identity.toJson.size ≤ MAX_NATIVE_AUDIO_CHOICE_BYTES)
    "native voice evidence exceeds the output budget"

/-! ## Responses -/

/-- Terminal state of a one-shot voice preview. -/
inductive PreviewStatus where
  | completed
  | cancelled
  | failed
  deriving Repr, DecidableEq

def PreviewStatus.name : PreviewStatus → String
  | .completed => "completed"
  | .cancelled => "cancelled"
  | .failed => "failed"

def previewStatuses : List PreviewStatus := [.completed, .cancelled, .failed]

def PreviewStatus.ofJson : Json → Except JsonError PreviewStatus :=
  Json.oneOf previewStatuses PreviewStatus.name

structure PreviewResponse (Accepted Identity : Type) where
  status : PreviewStatus
  acceptedAudio : List Accepted
  acceptedAudioTruncated : Bool
  lastStarted : Option Identity
  message : Option String
  baseRate : ℚ
  effectiveDisabledEngineIds : List String
  deriving Repr, DecidableEq

abbrev VoicePreviewResponseV2 : Type := PreviewResponse AcceptedAudioChoice AudioChoiceIdentity

abbrev VoicePreviewResponseV3 : Type :=
  PreviewResponse AcceptedNativeAudioChoice NativeAudioChoiceIdentity

structure ControlResponseEnvelope (Accepted Identity : Type) where
  protocolVersion : Nat
  requestId : Option Nat
  response : PreviewResponse Accepted Identity
  deriving Repr, DecidableEq

/-- How an `f32` is written, and read from its digits. -/
structure RateText where
  write : ℚ → Fraction
  read : Fraction → ℚ

def RateText.ofJson (rates : RateText) : Json → Except JsonError ℚ
  | .fraction value => .ok (rates.read value)
  | .number value => .ok value
  | _ => .error .invalidType

/-- What a version says of a choice, and the bytes that are reserved for it. -/
structure PreviewForm (Accepted Identity : Type) where
  tag : String
  acceptedToJson : Accepted → Json
  acceptedOfJson : Json → Except JsonError Accepted
  identityToJson : Identity → Json
  identityOfJson : Json → Except JsonError Identity
  identityBytes : Nat

def previewV2 : PreviewForm AcceptedAudioChoice AudioChoiceIdentity where
  tag := "preview_voice_completed_v2"
  acceptedToJson := AcceptedAudioChoice.toJson
  acceptedOfJson := AcceptedAudioChoice.ofJson
  identityToJson := AudioChoiceIdentity.toJson
  identityOfJson := AudioChoiceIdentity.ofJson
  identityBytes := MAX_AUDIO_CHOICE_IDENTITY_BYTES

def previewV3 : PreviewForm AcceptedNativeAudioChoice NativeAudioChoiceIdentity where
  tag := "preview_voice_completed_v3"
  acceptedToJson := AcceptedNativeAudioChoice.toJson
  acceptedOfJson := AcceptedNativeAudioChoice.ofJson
  identityToJson := NativeAudioChoiceIdentity.toJson
  identityOfJson := NativeAudioChoiceIdentity.ofJson
  identityBytes := MAX_NATIVE_AUDIO_CHOICE_BYTES

inductive ControlCodecError where
  | payloadTooLarge
  | invalidJson (error : JsonError)
  | duplicateMember
  | invalidResponse (message : String)
  deriving Repr, DecidableEq

namespace PreviewForm

variable {Accepted Identity : Type} (form : PreviewForm Accepted Identity) (rates : RateText)

def toMembers (response : PreviewResponse Accepted Identity) : List (String × Json) :=
  [("status", .string response.status.name),
    ("accepted_audio", .array (response.acceptedAudio.map form.acceptedToJson)),
    ("accepted_audio_truncated", .bool response.acceptedAudioTruncated),
    ("last_started", Json.nullOr form.identityToJson response.lastStarted),
    ("message", Json.nullOr .string response.message),
    ("base_rate", .fraction (rates.write response.baseRate)),
    ("effective_disabled_engine_ids", stringsToJson response.effectiveDisabledEngineIds)]

def ofMembers (members : List (String × Json)) :
    Except JsonError (PreviewResponse Accepted Identity) := do
  Json.denyUnknown ["status", "accepted_audio", "accepted_audio_truncated", "last_started",
    "message", "base_rate", "effective_disabled_engine_ids"] members
  let status ← Json.required "status" PreviewStatus.ofJson members
  let acceptedAudio ← Json.required "accepted_audio" (listOfJson form.acceptedOfJson) members
  let truncated ← Json.required "accepted_audio_truncated" asBool members
  let lastStarted ← Json.required "last_started" (Json.nullable form.identityOfJson) members
  let message ← Json.required "message" (Json.nullable Json.asString) members
  let baseRate ← Json.required "base_rate" rates.ofJson members
  let disabled ← Json.required "effective_disabled_engine_ids" stringsOfJson members
  return ⟨status, acceptedAudio, truncated, lastStarted, message, baseRate, disabled⟩

/-- The members of the response stand beside those of the envelope, behind its tag. -/
def envelopeToJson (envelope : ControlResponseEnvelope Accepted Identity) : Json :=
  .object (("protocol_version", .number envelope.protocolVersion) ::
    ("request_id", Json.nullOr .number envelope.requestId) ::
    ("type", .string form.tag) :: form.toMembers rates envelope.response)

/-- A response of another type is refused. -/
def responseOfMembers (members : List (String × Json)) :
    Except JsonError (PreviewResponse Accepted Identity) := do
  let tag ← Json.required "type" Json.asString members
  if tag = form.tag then form.ofMembers rates (Json.remaining ["type"] members)
  else .error (.unknownVariant tag)

def envelopeOfJson (document : Json) :
    Except JsonError (ControlResponseEnvelope Accepted Identity) := do
  let members ← document.asObject
  let protocolVersion ← Json.required "protocol_version" (Json.asNumber u32Max) members
  let requestId ← Json.optional "request_id" (Json.asNumber u64Max) members
  let response ← form.responseOfMembers rates
    (Json.remaining ["protocol_version", "request_id"] members)
  return ⟨protocolVersion, requestId, response⟩

/-- The payload of a record, behind the prefix of its line. -/
def formatControlEvent (envelope : ControlResponseEnvelope Accepted Identity) :
    Except ControlCodecError Payload := do
  let document := form.envelopeToJson rates envelope
  ensure (document.size ≤ MAX_CONTROL_PAYLOAD_BYTES) .payloadTooLarge
  return ⟨document⟩

def decodeJson (payload : Payload) :
    Except ControlCodecError (ControlResponseEnvelope Accepted Identity) := do
  ensure (payload.text.length ≤ MAX_CONTROL_ENCODED_BYTES) .payloadTooLarge
  ensure (payload.document.size ≤ MAX_CONTROL_PAYLOAD_BYTES) .payloadTooLarge
  (form.envelopeOfJson rates payload.document).mapError .invalidJson

/-! ## Bounded events -/

/-- Reserve room for a bounded identity and maximally escaped diagnostic before admission. -/
def validateMetadataBudget (baseRate : ℚ) (disabled : List String) : Except String Unit := do
  let envelope : ControlResponseEnvelope Accepted Identity :=
    ⟨CONTROL_PROTOCOL_VERSION, some u64Max,
      ⟨.cancelled, [], false, none, none, baseRate, disabled⟩⟩
  let fixed := (form.envelopeToJson rates envelope).size
  ensure (saturatingAdd usizeMax (saturatingAdd usizeMax fixed form.identityBytes)
      (6 * MAX_PREVIEW_MESSAGE_BYTES) ≤ MAX_CONTROL_PAYLOAD_BYTES)
    "preview frozen metadata leaves insufficient terminal output space"

/-- Pop accepted choices, of which so many are left, until the event fits. -/
def formatShortened (requestId : Nat) : Nat → PreviewResponse Accepted Identity →
    Except ControlCodecError Payload
  | 0, response =>
      form.formatControlEvent rates ⟨CONTROL_PROTOCOL_VERSION, some requestId, response⟩
  | left + 1, response =>
      match form.formatControlEvent rates ⟨CONTROL_PROTOCOL_VERSION, some requestId, response⟩ with
      | .error .payloadTooLarge =>
          formatShortened requestId left
            { response with
              acceptedAudio := response.acceptedAudio.dropLast
              acceptedAudioTruncated := true }
      | answer => answer

end PreviewForm

/-- Step back to a character boundary. -/
def boundaryBelow (text : List Char) : Nat → Nat
  | 0 => 0
  | offset + 1 => if isCharBoundary text (offset + 1) then offset + 1 else boundaryBelow text offset

def truncateMessage (message : String) : String :=
  String.ofList (splitAtByte message.toList
    (boundaryBelow message.toList (min message.utf8ByteSize MAX_PREVIEW_MESSAGE_BYTES))).1

/-- Keep so many choices at most. -/
def limitAccepted {Accepted Identity : Type} (response : PreviewResponse Accepted Identity) :
    PreviewResponse Accepted Identity :=
  if MAX_ACCEPTED_AUDIO_CHOICES < response.acceptedAudio.length then
    { response with
      acceptedAudio := response.acceptedAudio.take MAX_ACCEPTED_AUDIO_CHOICES
      acceptedAudioTruncated := true }
  else response

/-- Shrink only the acceptance list and diagnostic text. -/
def PreviewForm.boundedEvent {Accepted Identity : Type} (form : PreviewForm Accepted Identity)
    (rates : RateText) (response : PreviewResponse Accepted Identity) (requestId : Nat) :
    Except ControlCodecError Payload :=
  let limited := limitAccepted response
  let shortened := { limited with message := limited.message.map truncateMessage }
  form.formatShortened rates requestId shortened.acceptedAudio.length shortened

/-! ## The two versions -/

namespace VoicePreviewResponseV2

def validateMetadataBudget : RateText → ℚ → List String → Except String Unit :=
  previewV2.validateMetadataBudget

def boundedEvent : RateText → VoicePreviewResponseV2 → Nat → Except ControlCodecError Payload :=
  previewV2.boundedEvent

def decodeResponse (rates : RateText) (payload : Payload) : Except ControlCodecError
    (ControlResponseEnvelope AcceptedAudioChoice AudioChoiceIdentity) :=
  previewV2.decodeJson rates payload

end VoicePreviewResponseV2

namespace VoicePreviewResponseV3

def validateMetadataBudget : RateText → ℚ → List String → Except String Unit :=
  previewV3.validateMetadataBudget

def boundedEvent : RateText → VoicePreviewResponseV3 → Nat → Except ControlCodecError Payload :=
  previewV3.boundedEvent

def validate (response : VoicePreviewResponseV3) : Except String Unit := do
  ensure (0 ≤ response.baseRate && response.baseRate ≤ 2 &&
      response.acceptedAudio.length ≤ MAX_ACCEPTED_AUDIO_CHOICES &&
      response.message.all fun message => message.utf8ByteSize ≤ MAX_PREVIEW_MESSAGE_BYTES)
    "invalid native preview terminal bounds"
  response.acceptedAudio.forM fun accepted => accepted.identity.validate
  response.lastStarted.toList.forM NativeAudioChoiceIdentity.validate

def decodeResponse (rates : RateText) (payload : Payload) : Except ControlCodecError
    (ControlResponseEnvelope AcceptedNativeAudioChoice NativeAudioChoiceIdentity) := do
  let envelope ← previewV3.decodeJson rates payload
  ensure payload.document.duplicateFree .duplicateMember
  (validate envelope.response).mapError .invalidResponse
  return envelope

end VoicePreviewResponseV3

end Omnivox.Previews
