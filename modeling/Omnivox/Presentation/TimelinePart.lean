import Mathlib
import Omnivox.Foundations.Bounded
import Omnivox.Foundations.Fallible
import Omnivox.Text.Whitespace

/-!
# One part of a timeline

A timeline too large for one line travels in parts, each a line of seven words:
version, generation, dispatch identifier, index, count, decoded size and a
fragment of the Base64 encoding. A part that is accepted is within the transport
bounds (`PresentationTimelinePart.Accepted`).
-/

set_option autoImplicit false

namespace Omnivox.Presentation

open Foundations
open String (utf8Len)
open Text (splitWhitespace parseU64 isWhitespace)

/-! ## Bounds -/

/-- Structured timeline version supporting bounded multipart transport. -/
def presentationTimelineProtocolV3 : Nat := 3

/-- Maximum decoded JSON accepted in one timeline request. -/
def maxTimelinePayloadBytes : Nat := 256 * 1024

/-- Conservative maximum encoded size for the decoded request bound. -/
def maxTimelineEncodedBytes : Nat := (maxTimelinePayloadBytes / 3) * 4 + 8

/-- Maximum decoded JSON accepted across one multipart timeline. -/
def maxTimelineAggregateBytes : Nat := 16 * 1024 * 1024

/-- `usize::div_ceil`. -/
def divCeil (value divisor : Nat) : Nat := (value + divisor - 1) / divisor

/-- Exact maximum Base64 size of one aggregate at the decoded request bound. -/
def maxTimelineAggregateEncodedBytes : Nat := divCeil maxTimelineAggregateBytes 3 * 4

/-- Maximum number of transport fragments in one multipart timeline. -/
def maxTimelineParts : Nat := 64

/-! ## Errors -/

/-- The failures of the third-party decoders are their displayed texts. -/
inductive PresentationTimelineError where
  | payloadTooLarge
  | aggregatePayloadTooLarge
  | invalidBase64 (source : String)
  | invalidJson (source : String)
  | invalidTimeline (message : String)
  deriving Repr, DecidableEq

def PresentationTimelineError.toString : PresentationTimelineError → String
  | .payloadTooLarge => s!"timeline payload exceeds the {maxTimelinePayloadBytes}-byte limit"
  | .aggregatePayloadTooLarge =>
      s!"multipart timeline payload exceeds the {maxTimelineAggregateBytes}-byte aggregate limit"
  | .invalidBase64 source => s!"timeline payload is not valid Base64: {source}"
  | .invalidJson source => s!"timeline payload is not valid JSON: {source}"
  | .invalidTimeline message => s!"invalid presentation timeline: {message}"

def invalidIf (condition : Bool) (message : String) : Except PresentationTimelineError Unit :=
  ensure (!condition) (.invalidTimeline message)

theorem invalidIf_eq_ok {condition : Bool} {message : String} {u : Unit} :
    invalidIf condition message = .ok u ↔ condition = false := by
  rw [invalidIf, ensure_eq_ok, Bool.not_eq_true']

/-! ## Parts -/

/-- One bounded fragment of the Base64 encoding of a timeline JSON document. -/
structure PresentationTimelinePart where
  protocolVersion : Nat
  generation : Nat
  dispatchId : Nat
  partIndex : Nat
  partCount : Nat
  decodedBytes : Nat
  encodedFragment : List Char
  deriving Repr, DecidableEq

/-- A character of the Base64 alphabet, or padding. -/
def isBase64 (c : Char) : Bool := c.isAlphanum || c == '+' || c == '/' || c == '='

def parseNumber (field : List Char) (name : String) : Except PresentationTimelineError Nat :=
  orError (.invalidTimeline s!"timeline part {name} must be an unsigned integer") (parseU64 field)

/-- `usize::try_from` for a number of a part. -/
def fitsServer (name : String) (number : Nat) : Except PresentationTimelineError Nat := do
  ensure (number ≤ usizeMax) (.invalidTimeline s!"timeline {name} does not fit this server")
  return number

/-- The versions that travel in parts. -/
def supportedPartVersion (legacyOnly : Bool) (version : Nat) : Bool :=
  version == presentationTimelineProtocolV3 || (!legacyOnly && 4 ≤ version && version ≤ 7)

def decodeTimelinePartVersion (arguments : List Char) (legacyOnly : Bool) :
    Except PresentationTimelineError PresentationTimelinePart :=
  match splitWhitespace arguments with
  | [versionField, generationField, dispatchField, indexField, countField, bytesField,
      encodedFragment] => do
      let version ← parseNumber versionField "version"
      let generation ← parseNumber generationField "generation"
      let dispatchId ← parseNumber dispatchField "dispatch ID"
      let index ← parseNumber indexField "index"
      let partIndex ← fitsServer "part index" index
      let count ← parseNumber countField "count"
      let partCount ← fitsServer "part count" count
      let bytes ← parseNumber bytesField "decoded byte count"
      let decodedBytes ← fitsServer "decoded byte count" bytes
      invalidIf (!supportedPartVersion legacyOnly version)
        s!"unsupported timeline part version {version}"
      invalidIf (generation == 0) "timeline part generation must be positive"
      invalidIf (dispatchId == 0) "timeline part dispatch ID must be positive"
      invalidIf (partCount == 0 || maxTimelineParts < partCount)
        s!"timeline part count must be between 1 and {maxTimelineParts}"
      invalidIf (partCount ≤ partIndex) "timeline part index must be less than its count"
      invalidIf (decodedBytes == 0 || maxTimelineAggregateBytes < decodedBytes)
        s!"timeline decoded byte count must be between 1 and {maxTimelineAggregateBytes}"
      invalidIf (encodedFragment.isEmpty || maxTimelineEncodedBytes < utf8Len encodedFragment)
        s!"timeline encoded fragment must contain 1 to {maxTimelineEncodedBytes} bytes"
      invalidIf (!encodedFragment.all isBase64)
        "timeline part fragment contains a non-Base64 character"
      invalidIf (partIndex + 1 < partCount && encodedFragment.contains '=')
        "only the final timeline part may contain Base64 padding"
      return { protocolVersion := asU32 version, generation, dispatchId, partIndex, partCount,
               decodedBytes, encodedFragment }
  | _ => .error (.invalidTimeline
      "timeline part requires version, generation, dispatch ID, index, count, decoded bytes, and fragment")

/-- Decode multipart headers for either supported aggregate document version. -/
def decodeAnyTimelinePart (arguments : List Char) :
    Except PresentationTimelineError PresentationTimelinePart :=
  decodeTimelinePartVersion arguments false

/-- The transport bounds of a part. -/
structure PresentationTimelinePart.Accepted (part : PresentationTimelinePart) : Prop where
  version : 3 ≤ part.protocolVersion ∧ part.protocolVersion ≤ 7
  generation : 0 < part.generation
  dispatchId : 0 < part.dispatchId
  index : part.partIndex < part.partCount
  count : part.partCount ≤ maxTimelineParts
  decodedBytes : 0 < part.decodedBytes ∧ part.decodedBytes ≤ maxTimelineAggregateBytes
  fragment : part.encodedFragment ≠ [] ∧ utf8Len part.encodedFragment ≤ maxTimelineEncodedBytes
  base64 : ∀ c ∈ part.encodedFragment, isBase64 c = true
  padding : part.partIndex + 1 < part.partCount → '=' ∉ part.encodedFragment

/-- **What is accepted is within the bounds.** -/
theorem decodeAnyTimelinePart_accepted {arguments : List Char} {part : PresentationTimelinePart}
    (decoded : decodeAnyTimelinePart arguments = .ok part) : part.Accepted := by
  unfold decodeAnyTimelinePart decodeTimelinePartVersion at decoded
  split at decoded
  · obtain ⟨version, _, decoded⟩ := bind_eq_ok.mp decoded
    obtain ⟨generation, _, decoded⟩ := bind_eq_ok.mp decoded
    obtain ⟨dispatchId, _, decoded⟩ := bind_eq_ok.mp decoded
    obtain ⟨index, _, decoded⟩ := bind_eq_ok.mp decoded
    obtain ⟨partIndex, _, decoded⟩ := bind_eq_ok.mp decoded
    obtain ⟨count, _, decoded⟩ := bind_eq_ok.mp decoded
    obtain ⟨partCount, _, decoded⟩ := bind_eq_ok.mp decoded
    obtain ⟨bytes, _, decoded⟩ := bind_eq_ok.mp decoded
    obtain ⟨decodedBytes, _, decoded⟩ := bind_eq_ok.mp decoded
    obtain ⟨_, supported, decoded⟩ := bind_eq_ok.mp decoded
    obtain ⟨_, positiveGeneration, decoded⟩ := bind_eq_ok.mp decoded
    obtain ⟨_, positiveDispatch, decoded⟩ := bind_eq_ok.mp decoded
    obtain ⟨_, countBound, decoded⟩ := bind_eq_ok.mp decoded
    obtain ⟨_, indexBound, decoded⟩ := bind_eq_ok.mp decoded
    obtain ⟨_, bytesBound, decoded⟩ := bind_eq_ok.mp decoded
    obtain ⟨_, fragmentBound, decoded⟩ := bind_eq_ok.mp decoded
    obtain ⟨_, alphabet, decoded⟩ := bind_eq_ok.mp decoded
    obtain ⟨_, padding, decoded⟩ := bind_eq_ok.mp decoded
    cases decoded
    rw [invalidIf_eq_ok] at supported positiveGeneration positiveDispatch countBound indexBound
    rw [invalidIf_eq_ok] at bytesBound fragmentBound alphabet padding
    have range : 3 ≤ version ∧ version ≤ 7 := by
      simp only [supportedPartVersion, presentationTimelineProtocolV3, Bool.not_eq_false',
        Bool.or_eq_true, beq_iff_eq, Bool.not_false, Bool.true_and, Bool.and_eq_true,
        decide_eq_true_eq] at supported
      omega
    have exact : asU32 version = version :=
      asU32_of_le (Nat.le_trans range.2 (by decide))
    simp only [beq_eq_false_iff_ne, ne_eq, Bool.or_eq_false_iff, decide_eq_false_iff_not, not_le,
      not_lt] at positiveGeneration positiveDispatch countBound indexBound bytesBound fragmentBound
    refine ⟨?_, Nat.pos_of_ne_zero positiveGeneration, Nat.pos_of_ne_zero positiveDispatch,
      indexBound, countBound.2, ⟨Nat.pos_of_ne_zero bytesBound.1, bytesBound.2⟩,
      ⟨?_, fragmentBound.2⟩, ?_, ?_⟩
    · simp only [exact]
      exact range
    · exact List.isEmpty_eq_false_iff.mp fragmentBound.1
    · exact List.all_eq_true.mp (by simpa only [Bool.not_eq_false'] using alphabet)
    · intro further member
      rw [decide_eq_true further, Bool.true_and, List.contains_eq_mem] at padding
      exact absurd (decide_eq_true member) (Bool.eq_false_iff.mp padding)
  · cases decoded

/-- A Base64 character is no white space. -/
theorem isWhitespace_of_isBase64 {c : Char} (base64 : isBase64 c = true) :
    isWhitespace c = false := by
  have range : 43 ≤ c.toNat ∧ c.toNat ≤ 122 := by
    simp only [isBase64, Char.isAlphanum, Char.isAlpha, Char.isUpper, Char.isLower, Char.isDigit,
      Bool.or_eq_true, Bool.and_eq_true, decide_eq_true_eq, beq_iff_eq, ge_iff_le,
      UInt32.le_iff_toNat_le] at base64
    rcases base64 with (((((⟨low, high⟩ | ⟨low, high⟩) | ⟨low, high⟩) | rfl) | rfl) | rfl)
    · exact ⟨Nat.le_trans (by decide) low, Nat.le_trans high (by decide)⟩
    · exact ⟨Nat.le_trans (by decide) low, Nat.le_trans high (by decide)⟩
    · exact ⟨Nat.le_trans (by decide) low, Nat.le_trans high (by decide)⟩
    · decide
    · decide
    · decide
  simp only [isWhitespace, Bool.or_eq_false_iff, Bool.and_eq_false_iff, decide_eq_false_iff_not,
    beq_eq_false_iff_ne, not_le]
  omega

end Omnivox.Presentation
