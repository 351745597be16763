import Mathlib
import Omnivox.Audio.ProgressivePcm
import Omnivox.Foundations.Bounded
import Omnivox.Foundations.Chunks
import Omnivox.Helpers.SynthesisFrames

/-!
# The progressive sink of a helper

A helper process writes a synthesis as frames while its engine streams. Audio is
rounded to 16 bits and cut into chunks of a bounded size; markers are checked
against the audio that was sent and the markers before them. The first failing
call ends the synthesis with an error frame.

This is protocol version 5, without cancellation. An engine streams canonical
stereo audio.
-/

set_option autoImplicit false

namespace Omnivox.Helpers

open Foundations Synthesis
open Audio (AudioBuffer sampleRate channelCount)

/-- The characters that fit into so many bytes. -/
def bytePrefix : Nat → List Char → List Char
  | _, [] => []
  | room, character :: rest =>
      if character.utf8Size ≤ room then
        character :: bytePrefix (room - character.utf8Size) rest
      else []

def boundedMessage (message : String) : String :=
  let message := if message.isEmpty then "helper error" else message
  if message.utf8ByteSize ≤ MAX_HELPER_MESSAGE_BYTES then message
  else String.ofList (bytePrefix MAX_HELPER_MESSAGE_BYTES message.toList)

/-- `map_tts_error` and `error_response_body`. -/
def errorResponseBody : TtsError → HelperResponseBody
  | .voiceNotFound reason => .error .voiceNotFound (boundedMessage reason) false
  | .notAvailable => .error .notAvailable "the helper engine is not available" true
  | .invalidParameter reason => .error .invalidParameter (boundedMessage reason) false
  | .synthesisFailed reason => .error .synthesisFailed (boundedMessage reason) true

/-- The samples of a buffer as they lie in memory. -/
def interleaved {F : Type} (audio : AudioBuffer F) : List F :=
  audio.flatMap fun frame => [frame.1, frame.2]

/-- The samples of one chunk. -/
def samplesPerChunk : Nat := MAX_HELPER_AUDIO_CHUNK_BYTES / sampleBytes

/-- What a helper runtime knows of its engine, and the size of an encoded frame. -/
structure HelperRuntime where
  descriptorId : String
  encodedBytes : HelperResponseBody → Nat

/-- The sink, with the frames written so far. -/
structure ProgressiveWireSink where
  expectedVoiceId : String
  started : Bool
  nextSequence : Nat
  frameCount : Nat
  pcmBytes : Nat
  markerCount : Nat
  lastMarkerOffset : Option Nat
  sent : List HelperResponseBody
  deriving Repr, DecidableEq

abbrev WireOutcome (α : Type) := Outcome ProgressiveWireSink TtsError α

namespace ProgressiveWireSink

def new (expectedVoiceId : String) : ProgressiveWireSink where
  expectedVoiceId := expectedVoiceId
  started := false
  nextSequence := 0
  frameCount := 0
  pcmBytes := 0
  markerCount := 0
  lastMarkerOffset := none
  sent := []

section

variable (runtime : HelperRuntime)

/-- Write a frame that is valid and fits its limit. -/
def send (sink : ProgressiveWireSink) (body : HelperResponseBody) : WireOutcome Unit :=
  match body.validate with
  | .error fault => (sink, .error (.synthesisFailed fault.toText))
  | .ok _ =>
      if runtime.encodedBytes body ≤ MAX_HELPER_FRAME_BYTES then
        ({ sink with sent := sink.sent ++ [body] }, .ok ())
      else (sink, .error (.synthesisFailed HelperProtocolError.frameTooLarge.toText))

def ensureStarted (sink : ProgressiveWireSink) (actualVoiceId : String) : WireOutcome Unit :=
  if sink.started then (sink, .ok ())
  else
    andThen (sink.send runtime (.synthesisStarted sampleRate channelCount actualVoiceId))
      fun sink _ => ({ sink with started := true }, .ok ())

def start (sink : ProgressiveWireSink) (start : SynthesisStreamStart) : WireOutcome Unit :=
  if sink.started then
    (sink, .error (.synthesisFailed "progressive engine started one synthesis twice"))
  else if start.engineId ≠ runtime.descriptorId then
    (sink, .error (.synthesisFailed
      s!"progressive engine reported {start.engineId}, expected {runtime.descriptorId}"))
  else
    match start.actualVoice with
    | none =>
        (sink, .error (.synthesisFailed "progressive engine did not identify its actual voice"))
    | some actualVoice =>
        if actualVoice.engineId ≠ runtime.descriptorId ||
            actualVoice.voiceId ≠ sink.expectedVoiceId then
          (sink, .error (.synthesisFailed <|
            s!"progressive engine synthesized with {actualVoice.engineId}:" ++
              s!"{actualVoice.voiceId}, expected {runtime.descriptorId}:{sink.expectedVoiceId}"))
        else sink.ensureStarted runtime actualVoice.voiceId

variable {F : Type} [PcmSample F]

/-- Write samples as one chunk. `from_bytes` checks what the frame checks again. -/
def sendChunk (sink : ProgressiveWireSink) (samples : List F) : WireOutcome Unit :=
  let pcm := samples.map PcmSample.f32ToI16
  match validatePcm pcm with
  | .error fault => (sink, .error (.synthesisFailed fault.toText))
  | .ok _ =>
      andThen (sink.send runtime (.audioChunk sink.nextSequence pcm)) fun sink _ =>
        match checkedAdd (wordMax 32) sink.nextSequence 1 with
        | none => (sink, .error (.synthesisFailed "helper PCM sequence overflowed"))
        | some nextSequence => ({ sink with nextSequence := nextSequence }, .ok ())

def sendChunks : ProgressiveWireSink → List (List F) → WireOutcome Unit
  | sink, [] => (sink, .ok ())
  | sink, samples :: rest =>
      andThen (sink.sendChunk runtime samples) fun sink _ => sendChunks sink rest

/-- `checked_add` and `filter` of the byte count assign only what they keep. -/
def audio (sink : ProgressiveWireSink) (audio : AudioBuffer F) : WireOutcome Unit :=
  if !sink.started then
    (sink, .error (.synthesisFailed "progressive engine emitted audio before starting"))
  else if audio.isEmpty then
    (sink, .error (.synthesisFailed "progressive engine emitted an empty audio window"))
  else
    match checkedMul usizeMax (interleaved audio).length sampleBytes with
    | none => (sink, .error (.synthesisFailed "helper PCM size overflowed"))
    | some windowBytes =>
        match (checkedAdd usizeMax sink.pcmBytes windowBytes).filter
            (· ≤ MAX_HELPER_SYNTHESIS_BYTES) with
        | none => (sink, .error (.synthesisFailed
            s!"PCM exceeds the {MAX_HELPER_SYNTHESIS_BYTES}-byte helper limit"))
        | some pcmBytes =>
            andThen (sendChunks runtime { sink with pcmBytes := pcmBytes }
                (chunks samplesPerChunk (interleaved audio))) fun sink _ =>
              match checkedAdd u64Max sink.frameCount audio.length with
              | none => (sink, .error (.synthesisFailed "helper frame count overflowed"))
              | some frameCount => ({ sink with frameCount := frameCount }, .ok ())

omit [PcmSample F] in
def markers (sink : ProgressiveWireSink) (markers : List SynthesisMarker)
    (anchors : List ResolvedAnchor) : WireOutcome Unit :=
  if !sink.started then
    (sink, .error (.synthesisFailed "progressive engine emitted markers before starting"))
  else
    match helperMarkersFromParts markers anchors true with
    | .error e => (sink, .error e)
    | .ok batch =>
        if batch.isEmpty then
          (sink, .error (.synthesisFailed "progressive engine emitted an empty marker batch"))
        else
          match (checkedAdd usizeMax sink.markerCount batch.length).filter
              (· ≤ MAX_HELPER_MARKERS) with
          | none => (sink, .error (.synthesisFailed
              s!"the engine returned more than {MAX_HELPER_MARKERS} helper markers"))
          | some markerCount =>
              let admitted := admitMarkers
                (fun offset => TtsError.synthesisFailed
                  s!"progressive marker at frame {offset} arrived after {sink.frameCount} audio frames")
                (fun _ _ => .synthesisFailed "progressive markers are not monotonic")
                sink.frameCount sink.lastMarkerOffset batch
              let sink := { sink with
                markerCount := markerCount
                lastMarkerOffset := admitted.1 }
              match admitted.2 with
              | .error e => (sink, .error e)
              | .ok _ => sink.send runtime (.markers batch)

def complete (sink : ProgressiveWireSink) (reportedFrameCount : Nat) : WireOutcome Unit :=
  andThen (sink.ensureStarted runtime sink.expectedVoiceId) fun sink _ =>
    if reportedFrameCount ≠ sink.frameCount then
      (sink, .error (.synthesisFailed <|
        s!"progressive engine reported {reportedFrameCount} frames after emitting " ++
          s!"{sink.frameCount}"))
    else if sink.lastMarkerOffset.any fun offset => offset > reportedFrameCount then
      (sink, .error (.synthesisFailed
        s!"progressive engine marker exceeds the {reportedFrameCount}-frame result"))
    else (sink, .ok ())

/-- One call of the engine. -/
def call (sink : ProgressiveWireSink) : SinkCall F → WireOutcome Unit
  | .start start => sink.start runtime start
  | .audio window => sink.audio runtime window
  | .markers batch anchors => sink.markers runtime batch anchors

/-- The calls of an engine, which gives up at the first failing one. -/
def calls : ProgressiveWireSink → List (SinkCall F) → WireOutcome Unit
  | sink, [] => (sink, .ok ())
  | sink, call :: rest => andThen (sink.call runtime call) fun sink _ => calls sink rest

/-- `finish_synthesis`: a terminal frame that cannot be written is dropped. -/
def finishSynthesis (sink : ProgressiveWireSink) (terminal : HelperResponseBody) :
    ProgressiveWireSink :=
  (sink.send runtime terminal).1

/-- The terminal frame of a synthesis that failed. -/
def finishFailed (sink : ProgressiveWireSink) (e : TtsError) : ProgressiveWireSink :=
  finishSynthesis runtime sink (errorResponseBody e)

/-- The synthesis of an engine that makes these calls and completes with a frame count. -/
def progressiveSynthesisWorker (expectedVoiceId : String) (script : List (SinkCall F))
    (frameCount : Nat) : ProgressiveWireSink :=
  match calls runtime (new expectedVoiceId) script with
  | (sink, .ok _) =>
      match sink.complete runtime frameCount with
      | (sink, .ok _) => sink.finishSynthesis runtime (.synthesisCompleted frameCount)
      | (sink, .error e) => sink.finishFailed runtime e
  | (sink, .error e) => finishFailed runtime (sink.ensureStarted runtime expectedVoiceId).1 e

end

end ProgressiveWireSink

end Omnivox.Helpers
