import Mathlib
import Omnivox.Foundations.Fallible
import Omnivox.Presentation.TimelinePart
import Omnivox.Text.Whitespace

/-!
# Timeline documents

A payload is the Base64 encoding of a JSON document. The version in the document
selects its reader. The readers share the transport bounds, and a document that
came in parts must have the size that its parts declared.

Base64 and JSON are third-party components: each answers with a value or with the
text of its failure. The speech spans and actions of a document play no part in
the transport. They are its body, and the checks on them are any check.
-/

set_option autoImplicit false

namespace Omnivox.Presentation

open Foundations
open String (utf8Len)
open Text (trim)

/-! ## Documents -/

/-- Scheduling contract for one complete structured presentation. -/
inductive PresentationDeliveryPolicy where
  | ordered
  | replaceable
  | urgent
  deriving Repr, DecidableEq

/-- Callback ownership recovered from a decoded timeline envelope. -/
structure PresentationTimelineIdentity where
  generation : Nat
  dispatchId : Nat
  deriving Repr, DecidableEq

/-- An identity needs a nonzero dispatch identifier. -/
def PresentationTimelineIdentity.new (generation dispatchId : Nat) :
    Option PresentationTimelineIdentity :=
  if dispatchId != 0 then some ⟨generation, dispatchId⟩ else none

/-- A document of version 1 to 3. Version 1 omits the delivery policy. -/
structure PresentationTimelineEnvelope (Body : Type) where
  protocolVersion : Nat
  generation : Nat
  dispatchId : Nat
  deliveryPolicy : Option PresentationDeliveryPolicy
  replacementKey : Option String
  body : Body
  deriving Repr, DecidableEq

/-- What the documents from version 4 on have in common. -/
structure VersionedTimeline (Body : Type) where
  protocolVersion : Nat
  generation : Nat
  dispatchId : Nat
  deliveryPolicy : PresentationDeliveryPolicy
  replacementKey : Option String
  body : Body
  deriving Repr, DecidableEq

abbrev PresentationTimelineV4 := VersionedTimeline

abbrev PresentationTimelineV5 := VersionedTimeline

abbrev PresentationTimelineV6 := VersionedTimeline

/-- A decoded document retains its original representation through admission. -/
inductive TimelineDocument (Body : Type) where
  | legacy (timeline : PresentationTimelineEnvelope Body)
  | layered (timeline : PresentationTimelineV4 Body)
  | native (timeline : PresentationTimelineV5 Body)
  | rich (timeline : PresentationTimelineV6 Body)
  deriving Repr, DecidableEq

namespace TimelineDocument

variable {Body : Type}

def protocolVersion : TimelineDocument Body → Nat
  | .legacy timeline => timeline.protocolVersion
  | .layered timeline => timeline.protocolVersion
  | .native timeline => timeline.protocolVersion
  | .rich timeline => timeline.protocolVersion

def generation : TimelineDocument Body → Nat
  | .legacy timeline => timeline.generation
  | .layered timeline => timeline.generation
  | .native timeline => timeline.generation
  | .rich timeline => timeline.generation

def dispatchId : TimelineDocument Body → Nat
  | .legacy timeline => timeline.dispatchId
  | .layered timeline => timeline.dispatchId
  | .native timeline => timeline.dispatchId
  | .rich timeline => timeline.dispatchId

end TimelineDocument

/-! ## Readers -/

/-- A reader of one document version: it parses the bytes and checks the result. -/
structure DocumentReader (Timeline : Type) where
  fromSlice : List UInt8 → Except String Timeline
  validate : Bool → Timeline → Except PresentationTimelineError Unit

/-- The decoders that a timeline document passes through. -/
structure TimelineCodec (Body : Type) where
  /-- `STANDARD.decode`. -/
  base64 : List Char → Except String (List UInt8)
  /-- The version field of the JSON document. -/
  version : List UInt8 → Except String Nat
  /-- `DuplicateFreeJson`. -/
  duplicateFree : List UInt8 → Except String Unit
  legacy : DocumentReader (PresentationTimelineEnvelope Body)
  layered : DocumentReader (PresentationTimelineV4 Body)
  native : DocumentReader (PresentationTimelineV5 Body)
  rich : DocumentReader (PresentationTimelineV6 Body)

/-- A decode failure with any trustworthy callback ownership. -/
structure PresentationTimelineDecodeError where
  identity : Option PresentationTimelineIdentity
  error : PresentationTimelineError
  deriving Repr, DecidableEq

/-- A text between braces is what is in them. -/
def unbracePayload (payload : List Char) : List Char :=
  match trim payload with
  | '{' :: rest => if rest.getLast? = some '}' then rest.dropLast else '{' :: rest
  | trimmed => trimmed

def sizeError (aggregate : Bool) : PresentationTimelineError :=
  if aggregate then .aggregatePayloadTooLarge else .payloadTooLarge

def limit (aggregate : Bool) : Nat :=
  if aggregate then maxTimelineAggregateBytes else maxTimelinePayloadBytes

/-- The padding characters at the end of a payload. -/
def paddingCount (payload : List Char) : Nat := (payload.rtakeWhile fun c => c == '=').length

def decodedBase64Length (payload : List Char) : Except PresentationTimelineError Nat := do
  let payload := unbracePayload payload
  let padding := paddingCount payload
  invalidIf (utf8Len payload % 4 != 0 || 2 < padding)
    "multipart timeline has an invalid Base64 length"
  return utf8Len payload / 4 * 3 - padding

section Decoding

variable {Body : Type} (codec : TimelineCodec Body)

/-- The bytes of a payload within its bounds. -/
def decodePayload (payload : List Char) (encodedLimit decodedLimit : Nat) (aggregate : Bool) :
    Except PresentationTimelineError (List UInt8) := do
  let payload := unbracePayload payload
  ensure (utf8Len payload ≤ encodedLimit) (sizeError aggregate)
  let bytes ← (codec.base64 payload).mapError .invalidBase64
  ensure (bytes.length ≤ decodedLimit) (sizeError aggregate)
  return bytes

def decodePresentationTimelineDocument (payload : List Char) (encodedLimit decodedLimit : Nat)
    (aggregate : Bool) :
    Except PresentationTimelineError (PresentationTimelineEnvelope Body) := do
  let json ← decodePayload codec payload encodedLimit decodedLimit aggregate
  (codec.legacy.fromSlice json).mapError .invalidJson

def decodePresentationTimelineWithLimit (payload : List Char) (encodedLimit decodedLimit : Nat)
    (aggregate : Bool) :
    Except PresentationTimelineError (PresentationTimelineEnvelope Body) := do
  let timeline ← decodePresentationTimelineDocument codec payload encodedLimit decodedLimit aggregate
  codec.legacy.validate aggregate timeline
  return timeline

def decodePresentationTimelineWithIdentity (payload : List Char) (encodedLimit decodedLimit : Nat)
    (aggregate : Bool) :
    Except PresentationTimelineDecodeError (PresentationTimelineEnvelope Body) := do
  let timeline ← (decodePresentationTimelineDocument codec payload encodedLimit decodedLimit
    aggregate).mapError fun error => ⟨none, error⟩
  let identity := PresentationTimelineIdentity.new timeline.generation timeline.dispatchId
  (codec.legacy.validate aggregate timeline).mapError fun error => ⟨identity, error⟩
  return timeline

/-- Decode, validate, and bound one structured presentation payload. -/
def decodePresentationTimeline (payload : List Char) :
    Except PresentationTimelineDecodeError (PresentationTimelineEnvelope Body) :=
  decodePresentationTimelineWithIdentity codec payload maxTimelineEncodedBytes
    maxTimelinePayloadBytes false

/-- Decode one reassembled payload of version 3 under the aggregate bounds. -/
def decodeMultipartPresentationTimeline (payload : List Char) (declaredDecodedBytes : Nat) :
    Except PresentationTimelineError (PresentationTimelineEnvelope Body) := do
  ensure (declaredDecodedBytes ≤ maxTimelineAggregateBytes &&
    utf8Len payload ≤ maxTimelineAggregateEncodedBytes) .aggregatePayloadTooLarge
  let timeline ← decodePresentationTimelineWithLimit codec payload maxTimelineAggregateEncodedBytes
    maxTimelineAggregateBytes true
  let actualDecodedBytes ← decodedBase64Length payload
  let sizes := s!"{declaredDecodedBytes} decoded bytes but contained {actualDecodedBytes}"
  invalidIf (actualDecodedBytes != declaredDecodedBytes) s!"multipart timeline declared {sizes}"
  invalidIf (timeline.protocolVersion != presentationTimelineProtocolV3)
    "multipart transport requires a version 3 timeline"
  return timeline

/-- The decoders of versions 4, 5 and 6. They differ in their reader and in the text
for a size that is not the declared one. -/
def decodeVersionedTimeline (reader : DocumentReader (VersionedTimeline Body)) (sizeText : String)
    (payload : List Char) (declared : Option Nat) :
    Except PresentationTimelineDecodeError (VersionedTimeline Body) := do
  let aggregate := declared.isSome
  let decode : Except PresentationTimelineError (VersionedTimeline Body) := do
    ensure (declared.all fun size => size != 0 && size ≤ limit aggregate) (sizeError aggregate)
    let bytes ← decodePayload codec payload (divCeil (limit aggregate) 3 * 4) (limit aggregate)
      aggregate
    ensure (declared.all fun size => size == bytes.length) (.invalidTimeline sizeText)
    (codec.duplicateFree bytes).mapError .invalidJson
    (reader.fromSlice bytes).mapError .invalidJson
  let timeline ← decode.mapError fun error => ⟨none, error⟩
  let identity := PresentationTimelineIdentity.new timeline.generation timeline.dispatchId
  (reader.validate aggregate timeline).mapError fun error => ⟨identity, error⟩
  return timeline

def decodeTimelineV4 := decodeVersionedTimeline codec codec.layered
  "multipart timeline decoded size differs from its declaration"

def decodeTimelineV5 := decodeVersionedTimeline codec codec.native
  "multipart decoded size differs from declaration"

def decodeTimelineV6 := decodeVersionedTimeline codec codec.rich
  "multipart decoded size differs from declaration"

/-- The version of the document in a payload. -/
def documentVersion (payload : List Char) (aggregateBytes : Option Nat) :
    Except PresentationTimelineError Nat := do
  let aggregate := aggregateBytes.isSome
  ensure (aggregateBytes.all fun size => size ≤ limit aggregate) (sizeError aggregate)
  let bytes ← decodePayload codec payload (divCeil (limit aggregate) 3 * 4) (limit aggregate)
    aggregate
  (codec.version bytes).mapError .invalidJson

/-- Select the versioned decoder within existing transport bounds. -/
def decodeTimelineDocument (payload : List Char) (aggregateBytes : Option Nat) :
    Except PresentationTimelineDecodeError (TimelineDocument Body) := do
  let version ← (documentVersion codec payload aggregateBytes).mapError fun error => ⟨none, error⟩
  if version == 6 || version == 7 then
    (decodeTimelineV6 codec payload aggregateBytes).map .rich
  else if version == 5 then (decodeTimelineV5 codec payload aggregateBytes).map .native
  else if version == 4 then (decodeTimelineV4 codec payload aggregateBytes).map .layered
  else match aggregateBytes with
    | some bytes =>
        ((decodeMultipartPresentationTimeline codec payload bytes).mapError fun error =>
          ⟨none, error⟩).map .legacy
    | none => (decodePresentationTimeline codec payload).map .legacy

end Decoding

end Omnivox.Presentation
