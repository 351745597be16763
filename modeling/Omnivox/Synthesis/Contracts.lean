import Mathlib
import Omnivox.Audio.AudioBuffer
import Omnivox.Engines.Contracts
import Omnivox.Foundations.Bounded
import Omnivox.Foundations.Fallible
import Omnivox.Foundations.Keyed

/-!
# Synthesis requests and results

Everything an engine needs to synthesize one utterance, and what it returns: audio, markers
and an anchor for every requested position. A result is checked against its request.
Offsets into the text are byte offsets.
-/

set_option autoImplicit false

namespace Omnivox.Synthesis

open Engines Foundations
open Audio (AudioBuffer)
open String (utf8Len)

def MAX_SYNTHESIS_ANCHORS : Nat := 4096
def MAX_SYNTHESIS_ANCHOR_ID_BYTES : Nat := 128

/-- Why an engine did not synthesize. -/
inductive TtsError where
  | voiceNotFound (reason : String)
  | synthesisFailed (reason : String)
  | notAvailable
  | invalidParameter (reason : String)
  deriving Repr, DecidableEq

/-- The text of an error. -/
def TtsError.toText : TtsError → String
  | .voiceNotFound reason => s!"Voice not found: {reason}"
  | .synthesisFailed reason => s!"Synthesis failed: {reason}"
  | .notAvailable => "Engine not available"
  | .invalidParameter reason => s!"Invalid parameter: {reason}"

/-- Settings of one synthesis. A finite `f32` is the exact number it stands for. -/
structure TtsSettings where
  voice : String
  rate : ℚ
  pitch : ℚ
  volume : ℚ
  deriving Repr, DecidableEq

/-- Which side of a requested source-text boundary owns an action. -/
inductive AnchorAffinity where
  | before
  | after
  deriving Repr, DecidableEq

/-- One opaque source-text position requested by the presentation compiler. -/
structure RequestedAnchor where
  id : String
  textOffset : Nat
  affinity : AnchorAffinity
  deriving Repr, DecidableEq

/-- Accuracy with which an engine or common fallback resolved an anchor. -/
inductive AnchorResolution where
  | exact
  | wordBoundary
  | spanBoundary
  | omitted
  deriving Repr, DecidableEq

/-- Result for exactly one requested opaque anchor. -/
structure ResolvedAnchor where
  id : String
  frameOffset : Option Nat
  resolution : AnchorResolution
  deriving Repr, DecidableEq

/-- Strongest placement guarantee available for requested source-text anchors. -/
inductive AnchorSupport where
  | none
  | wordBoundary
  | exact
  deriving Repr, DecidableEq

inductive SynthesisMarkerKind where
  | word
  | sentence
  | phoneme
  | nativeIndex
  deriving Repr, DecidableEq

/-- A position in synthesized audio with optional source-text metadata. -/
structure SynthesisMarker where
  kind : SynthesisMarkerKind
  frameOffset : Nat
  textStart : Option Nat
  textLength : Option Nat
  value : Option String
  deriving Repr, DecidableEq

/-- Everything an engine needs to synthesize one utterance. -/
structure SynthesisRequest where
  text : List Char
  settings : TtsSettings
  normalizedAcss : NormalizedAcss
  requestedVoice : Option PhysicalVoiceId
  logicalVoiceId : Option String
  anchors : List RequestedAnchor
  deriving Repr, DecidableEq

/-- Metadata known before the first canonical PCM window is produced. -/
structure SynthesisStreamStart where
  engineId : String
  actualVoice : Option PhysicalVoiceId
  degradedAcss : List AcssDimension
  deriving Repr, DecidableEq

/-- Metadata finalized after the last canonical PCM window. -/
structure SynthesisStreamCompletion where
  frameCount : Nat
  deriving Repr, DecidableEq

/-- Buffered synthesis output and metadata describing what was realized. -/
structure SynthesisResult (F : Type) where
  audio : AudioBuffer F
  engineId : String
  actualVoice : Option PhysicalVoiceId
  markers : List SynthesisMarker
  anchors : List ResolvedAnchor
  degradedAcss : List AcssDimension
  deriving Repr, DecidableEq

/-! ## Resolving anchors -/

/-- The word starts that an engine marked, with their frames. -/
def wordStarts (markers : List SynthesisMarker) : List (Nat × Nat) :=
  (markers.filter fun marker => marker.kind == .word).filterMap fun marker =>
    marker.textStart.map fun start => (start, marker.frameOffset)

/-- The nearest word start on the side of the anchor: the first of the smallest, or the last
of the greatest. -/
def nearestWord (requested : RequestedAnchor) (starts : List (Nat × Nat)) : Option (Nat × Nat) :=
  match requested.affinity with
  | .before => (starts.filter fun start => requested.textOffset ≤ start.1).argmin Prod.fst
  | .after => (starts.filter fun start => start.1 ≤ requested.textOffset).reverse.argmax Prod.fst

def approximateAtWordBoundary (requested : RequestedAnchor) (markers : List SynthesisMarker)
    (frameCount : Nat) : Option ResolvedAnchor :=
  (nearestWord requested (wordStarts markers)).map fun start =>
    ⟨requested.id, some (min start.2 frameCount), .wordBoundary⟩

/-- The anchor that a missing result is completed by. -/
def completeAnchor (support : AnchorSupport) (markers : List SynthesisMarker) (frameCount : Nat)
    (requested : RequestedAnchor) : ResolvedAnchor :=
  let approximation := match support with
    | .none => none
    | _ => approximateAtWordBoundary requested markers frameCount
  approximation.getD ⟨requested.id, none, .omitted⟩

/-- Where the requests ask for an anchor. -/
def requestedPosition (anchors : List RequestedAnchor) (resolved : ResolvedAnchor) : Nat :=
  (anchors.findIdx? fun requested => requested.id == resolved.id).getD usizeMax

variable {F : Type}

/-- Complete anchor results according to an engine's advertised support. Exact engine
results win. -/
def SynthesisResult.resolveAnchors (result : SynthesisResult F) (request : SynthesisRequest)
    (support : AnchorSupport) : SynthesisResult F :=
  let complete := fun (anchors : List ResolvedAnchor) (requested : RequestedAnchor) =>
    if anchors.any fun anchor => anchor.id == requested.id then anchors
    else anchors ++ [completeAnchor support result.markers result.audio.length requested]
  { result with
    anchors := sortBy (requestedPosition request.anchors)
      (request.anchors.foldl complete result.anchors) }

/-! ## Checking -/

def invalidResult (message : String) : TtsError :=
  .synthesisFailed s!"invalid synthesis result: {message}"

/-- `is_char_boundary`. -/
def isCharBoundary : List Char → Nat → Bool
  | _, 0 => true
  | [], _ + 1 => false
  | character :: rest, offset =>
      character.utf8Size ≤ offset && isCharBoundary rest (offset - character.utf8Size)

/-- Check each requested anchor, after the identifiers seen so far. -/
def validateEachAnchor (text : List Char) :
    List String → List RequestedAnchor → Except TtsError Unit
  | _, [] => .ok ()
  | seen, anchor :: rest => do
      ensure (!anchor.id.isEmpty && anchor.id.utf8ByteSize ≤ MAX_SYNTHESIS_ANCHOR_ID_BYTES)
        (.invalidParameter "requested anchor ID is empty or too long")
      ensure (!seen.contains anchor.id)
        (.invalidParameter s!"duplicate requested anchor ID: {anchor.id}")
      ensure (anchor.textOffset ≤ utf8Len text && isCharBoundary text anchor.textOffset)
        (.invalidParameter
          s!"requested anchor {anchor.id} is not a UTF-8 boundary in the synthesis text")
      validateEachAnchor text (anchor.id :: seen) rest

def validateRequestedAnchors (anchors : List RequestedAnchor) (text : List Char) :
    Except TtsError Unit := do
  ensure (anchors.length ≤ MAX_SYNTHESIS_ANCHORS)
    (.invalidParameter s!"synthesis request exceeds the {MAX_SYNTHESIS_ANCHORS}-anchor limit")
  validateEachAnchor text [] anchors

def validateOmission (frameCount : Nat) (anchor : ResolvedAnchor) : Except TtsError Unit :=
  match anchor.resolution, anchor.frameOffset with
  | .omitted, none => .ok ()
  | .omitted, some _ | _, none =>
      .error (invalidResult s!"resolved anchor {anchor.id} has inconsistent omission state")
  | _, some offset =>
      ensure (offset ≤ frameCount)
        (invalidResult s!"anchor offset {offset} exceeds audio frame count {frameCount}")

/-- Check each resolved anchor, after the identifiers seen so far. -/
def validateEachResolved (requested : List RequestedAnchor) (frameCount : Nat) :
    List String → List ResolvedAnchor → Except TtsError Unit
  | _, [] => .ok ()
  | seen, anchor :: rest => do
      ensure (!seen.contains anchor.id && requested.any fun request => request.id == anchor.id)
        (invalidResult s!"unknown or duplicate resolved anchor ID: {anchor.id}")
      validateOmission frameCount anchor
      validateEachResolved requested frameCount (anchor.id :: seen) rest

def validateResolvedAnchors (resolved : List ResolvedAnchor) (requested : List RequestedAnchor)
    (frameCount : Nat) : Except TtsError Unit := do
  ensure (resolved.length == requested.length)
    (invalidResult s!"resolved {resolved.length} anchors for {requested.length} requests")
  validateEachResolved requested frameCount [] resolved

/-- The offsets of a text are `u32`, so their sum does not overflow a `usize`. -/
def validateTextRange (marker : SynthesisMarker) (text : List Char) : Except TtsError Unit :=
  match marker.textStart, marker.textLength with
  | none, none => .ok ()
  | some start, some length => do
      ensure (start + length ≤ utf8Len text) (invalidResult
        s!"marker source range {start}..{start + length} exceeds text length {utf8Len text}")
      ensure (isCharBoundary text start && isCharBoundary text (start + length)) (invalidResult
        s!"marker source range {start}..{start + length} is not on UTF-8 boundaries")
  | _, _ => .error (invalidResult "marker source range must contain both start and length")

def validateMarker (frameCount : Nat) (text : List Char) (marker : SynthesisMarker) :
    Except TtsError Unit := do
  ensure (marker.frameOffset ≤ frameCount) (invalidResult
    s!"marker offset {marker.frameOffset} exceeds audio frame count {frameCount}")
  validateTextRange marker text

/-- `\x7b:?\x7d` of a voice identifier. -/
def debugVoice (id : PhysicalVoiceId) : String :=
  "PhysicalVoiceId \x7b engine_id: " ++ id.engineId.quote ++ ", voice_id: " ++ id.voiceId.quote ++
    " \x7d"

def debugActualVoice : Option PhysicalVoiceId → String
  | some id => "Some(" ++ debugVoice id ++ ")"
  | none => "None"

/-- The voice that a result names belongs to its engine and is the requested one. -/
def validateVoice (result : SynthesisResult F) (request : SynthesisRequest) :
    Except TtsError Unit := do
  match result.actualVoice with
  | none => .ok ()
  | some voice =>
      ensure (voice.engineId == result.engineId) (invalidResult <|
        s!"actual voice engine {voice.engineId} does not match result engine {result.engineId}")
  match request.requestedVoice with
  | none => .ok ()
  | some requested => do
      ensure (requested.engineId == result.engineId) (invalidResult <|
        s!"result engine {result.engineId} does not match requested engine {requested.engineId}")
      ensure (result.actualVoice == some requested) (invalidResult <|
        "actual voice " ++ debugActualVoice result.actualVoice ++
          " does not match exact requested voice " ++ debugVoice requested)

/-- Validate engine identity and marker bounds against the originating request. -/
def SynthesisResult.validate (result : SynthesisResult F) (request : SynthesisRequest) :
    Except TtsError Unit := do
  validateRequestedAnchors request.anchors request.text
  ensure (!result.engineId.isEmpty) (invalidResult "engine ID is empty")
  validateVoice result request
  result.markers.forM (validateMarker result.audio.length request.text)
  validateResolvedAnchors result.anchors request.anchors result.audio.length

end Omnivox.Synthesis
