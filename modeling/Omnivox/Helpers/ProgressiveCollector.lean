import Mathlib
import Omnivox.Audio.ProgressivePcm
import Omnivox.Foundations.Bounded
import Omnivox.Helpers.SynthesisFrames

/-!
# Collecting a progressive helper synthesis

The client reads the frames of a synthesis in order and passes what they carry on
to a sink: the start, the audio converted to the canonical format, the markers in
canonical frames. Every frame is checked first. A sink that fails is not called
again, while the stream is still checked to its terminal frame.

The sink answers each call from the calls before it. The responses carry the
negotiated protocol version and the ID of their request.
-/

set_option autoImplicit false

namespace Omnivox.Helpers

open Foundations Synthesis
open Audio (AudioBuffer AudioError ProgressivePcmCanonicalizer Resampler channelCount)
open Engines (AcssDimension PhysicalVoiceId)

/-- Why an exchange with a helper failed. -/
inductive HelperEngineError where
  | protocol (fault : HelperProtocolError)
  | unexpectedResponse (reason : String)
  | audioSequenceMismatch (expected received : Nat)
  | audioFrameAlignment
  | synthesisTooLarge
  | frameCountMismatch (reported received : Nat)
  | markerOutOfRange (offset frameCount : Nat)
  | markerBehindAudio (offset received : Nat)
  | markerOrderMismatch (previous received : Nat)
  | actualVoiceMismatch (expected received : String)
  | remote (code : HelperErrorCode) (message : String) (retryable : Bool)
  | transport (reason : String)
  deriving Repr, DecidableEq

inductive SynthesisPhase where
  | awaitingStart
  | streamingAudio
  | streamingMarkers
  | terminal
  deriving Repr, DecidableEq

/-- The displayed text of an audio error. -/
def audioErrorText : AudioError → String
  | .cancelled => "Audio preparation cancelled"
  | .invalidFormat message => s!"Invalid buffer format: {message}"
  | .fileNotFound message => s!"File not found: {message}"
  | .decodeError message => s!"Decode error: {message}"
  | .playbackError message => s!"Playback error: {message}"
  | .deviceNotFound message => s!"Device not found: {message}"
  | .effectError message => s!"Effect error: {message}"
  | .timelineError message => s!"Timeline render error: {message}"

/-- An audio error that ends an exchange. -/
def transportError (e : AudioError) : HelperEngineError := .transport (audioErrorText e)

/-- The realized voice is the expected one, if any is. -/
def checkActualVoice (expectedVoiceId : Option String) (actualVoiceId : String) :
    Except HelperEngineError Unit :=
  match expectedVoiceId with
  | none => .ok ()
  | some expected =>
      ensure (actualVoiceId = expected) (.actualVoiceMismatch expected actualVoiceId)

def duplicateStart : HelperEngineError := .unexpectedResponse "duplicate synthesis_started"

def dataBeforeStart : HelperEngineError :=
  .unexpectedResponse "synthesis data before synthesis_started"

def afterTerminal : HelperEngineError := .unexpectedResponse "response after terminal result"

def nonSynthesisResponse : HelperEngineError :=
  .unexpectedResponse "non-synthesis response in synthesis stream"

inductive ProgressiveHelperSynthesisResult where
  | completed
  | cancelled
  deriving Repr, DecidableEq

/-- What a collector is created for: the engine, the voice it expects, and the sink as its
answers to a call after earlier calls. A resampler is acquired for a sample rate. -/
structure StreamConsumer (R F : Type) where
  engineId : String
  expectedVoiceId : Option String
  degradedAcss : List AcssDimension
  answer : List (SinkCall F) → SinkCall F → Except TtsError Unit
  acquire : Nat → Except AudioError R

structure ProgressiveHelperCollector (R F : Type) where
  phase : SynthesisPhase
  nextSequence : Nat
  channels : Nat
  canonicalizer : Option (ProgressivePcmCanonicalizer R F)
  sourceFrameCount : Nat
  frameCount : Nat
  pcmBytes : Nat
  canonicalPcmBytes : Nat
  markerCount : Nat
  lastMarkerOffset : Option Nat
  /-- The calls that the sink received. -/
  delivered : List (SinkCall F)
  consumerStopped : Bool
  consumerError : Option TtsError

namespace ProgressiveHelperCollector

variable {R F : Type}

def new : ProgressiveHelperCollector R F where
  phase := .awaitingStart
  nextSequence := 0
  channels := 0
  canonicalizer := none
  sourceFrameCount := 0
  frameCount := 0
  pcmBytes := 0
  canonicalPcmBytes := 0
  markerCount := 0
  lastMarkerOffset := none
  delivered := []
  consumerStopped := false
  consumerError := none

abbrev Collected (R F α : Type) := Outcome (ProgressiveHelperCollector R F) HelperEngineError α

section

variable (consumer : StreamConsumer R F)

/-- Call the sink and keep its failure. -/
def callSink (collector : ProgressiveHelperCollector R F) (call : SinkCall F) :
    ProgressiveHelperCollector R F :=
  let called := { collector with delivered := collector.delivered ++ [call] }
  match consumer.answer collector.delivered call with
  | .ok _ => called
  | .error e => { called with consumerStopped := true, consumerError := some e }

/-- Call the sink unless it failed before. -/
def callUnlessStopped (collector : ProgressiveHelperCollector R F) (call : SinkCall F) :
    ProgressiveHelperCollector R F :=
  if collector.consumerStopped then collector else collector.callSink consumer call

/-- Count the canonical windows and pass them on. -/
def forwardAudio : ProgressiveHelperCollector R F → List (AudioBuffer F) → Collected R F Unit
  | collector, [] => (collector, .ok ())
  | collector, window :: rest =>
      match ((checkedMul usizeMax window.length channelCount).bind fun samples =>
          checkedMul usizeMax samples sampleBytes) with
      | none => (collector, .error .synthesisTooLarge)
      | some bytes =>
          match (checkedAdd usizeMax collector.canonicalPcmBytes bytes).filter
              (· ≤ MAX_HELPER_SYNTHESIS_BYTES) with
          | none => (collector, .error .synthesisTooLarge)
          | some canonicalPcmBytes =>
              let collector := { collector with canonicalPcmBytes := canonicalPcmBytes }
              match checkedAdd u64Max collector.frameCount window.length with
              | none => (collector, .error .synthesisTooLarge)
              | some frameCount =>
                  forwardAudio
                    (callUnlessStopped consumer { collector with frameCount := frameCount }
                      (.audio window)) rest

variable [PcmSample F] [Resampler R F]

omit [PcmSample F] [Resampler R F] in
def acceptStarted (collector : ProgressiveHelperCollector R F) (sampleRate channels : Nat)
    (actualVoiceId : String) : Collected R F (Option ProgressiveHelperSynthesisResult) :=
  match checkActualVoice consumer.expectedVoiceId actualVoiceId with
  | .error e => (collector, .error e)
  | .ok _ =>
      match ProgressivePcmCanonicalizer.new sampleRate channels (consumer.acquire sampleRate) with
      | .error e => (collector, .error (.transport
          s!"progressive helper PCM cannot be canonicalized: {audioErrorText e}"))
      | .ok canonicalizer =>
          let collector := { collector with
            channels := channels
            canonicalizer := some canonicalizer
            phase := .streamingAudio }
          (collector.callSink consumer (.start {
            engineId := consumer.engineId
            actualVoice := some ⟨consumer.engineId, actualVoiceId⟩
            degradedAcss := consumer.degradedAcss }), .ok none)

/-- A chunk of PCM. The format and the converter are there once a synthesis started. -/
def acceptAudio (collector : ProgressiveHelperCollector R F) (sequence : Nat)
    (samples : List Int16) : Collected R F (Option ProgressiveHelperSynthesisResult) :=
  if sequence ≠ collector.nextSequence then
    (collector, .error (.audioSequenceMismatch collector.nextSequence sequence))
  else if samples.length % collector.channels ≠ 0 then (collector, .error .audioFrameAlignment)
  else
    match (checkedAdd usizeMax collector.pcmBytes (samples.length * sampleBytes)).filter
        (· ≤ MAX_HELPER_SYNTHESIS_BYTES) with
    | none => (collector, .error .synthesisTooLarge)
    | some pcmBytes =>
        let collector := { collector with pcmBytes := pcmBytes }
        match checkedAdd u64Max collector.sourceFrameCount
            (samples.length / collector.channels) with
        | none => (collector, .error .synthesisTooLarge)
        | some sourceFrameCount =>
            let collector := { collector with sourceFrameCount := sourceFrameCount }
            match collector.canonicalizer with
            | none => (collector, .error dataBeforeStart)
            | some canonicalizer =>
                let pushed := canonicalizer.pushInterleaved (samples.map PcmSample.i16ToF32)
                let collector := { collector with canonicalizer := some pushed.1 }
                match pushed.2 with
                | .error e => (collector, .error (transportError e))
                | .ok windows =>
                    andThen (collector.forwardAudio consumer windows) fun collector _ =>
                      match checkedAdd (wordMax 32) collector.nextSequence 1 with
                      | none => (collector, .error
                          (.transport "helper PCM sequence overflowed"))
                      | some nextSequence =>
                          ({ collector with nextSequence := nextSequence }, .ok none)

/-- The markers of a batch in canonical frames. -/
def canonicalMarkers (sampleRate : Nat) (batch : List HelperMarker) :
    Except AudioError (List HelperMarker) :=
  batch.mapM fun marker =>
    (Audio.canonicalFrameOffset sampleRate marker.frameOffset).map fun frameOffset =>
      { marker with frameOffset := frameOffset }

omit [PcmSample F] [Resampler R F] in
def acceptMarkers (collector : ProgressiveHelperCollector R F) (batch : List HelperMarker) :
    Collected R F (Option ProgressiveHelperSynthesisResult) :=
  match (checkedAdd usizeMax collector.markerCount batch.length).filter
      (· ≤ MAX_HELPER_MARKERS) with
  | none => (collector, .error (.protocol .tooManyMarkers))
  | some markerCount =>
      let admitted := admitMarkers
        (fun offset => HelperEngineError.markerBehindAudio offset collector.sourceFrameCount)
        HelperEngineError.markerOrderMismatch collector.sourceFrameCount
        collector.lastMarkerOffset batch
      let collector := { collector with
        markerCount := markerCount
        lastMarkerOffset := admitted.1 }
      match admitted.2 with
      | .error e => (collector, .error e)
      | .ok _ =>
          match collector.canonicalizer with
          | none => (collector, .error dataBeforeStart)
          | some canonicalizer =>
              match canonicalMarkers canonicalizer.sourceSampleRate batch with
              | .error e => (collector, .error (transportError e))
              | .ok batch =>
                  let parts := splitHelperMarkers batch
                  (collector.callUnlessStopped consumer (.markers parts.1 parts.2), .ok none)

omit [PcmSample F] in
def acceptCompleted (collector : ProgressiveHelperCollector R F) (frameCount : Nat) :
    Collected R F (Option ProgressiveHelperSynthesisResult) :=
  if frameCount ≠ collector.sourceFrameCount then
    (collector, .error (.frameCountMismatch frameCount collector.sourceFrameCount))
  else
    match collector.lastMarkerOffset.filter fun offset => offset > frameCount with
    | some offset => (collector, .error (.markerOutOfRange offset frameCount))
    | none =>
        match collector.canonicalizer with
        | none => (collector, .error dataBeforeStart)
        | some canonicalizer =>
            let finished := canonicalizer.finish
            let collector := { collector with canonicalizer := some finished.1 }
            match finished.2 with
            | .error e => (collector, .error (transportError e))
            | .ok windows =>
                andThen (collector.forwardAudio consumer windows) fun collector _ =>
                  ({ collector with phase := .terminal }, .ok (some .completed))

/-- Take one frame. -/
def accept (collector : ProgressiveHelperCollector R F) (body : HelperResponseBody) :
    Collected R F (Option ProgressiveHelperSynthesisResult) :=
  match body.validate with
  | .error fault => (collector, .error (.protocol fault))
  | .ok _ =>
      if collector.phase = .terminal then (collector, .error afterTerminal)
      else
        match body with
        | .synthesisStarted sampleRate channels actualVoiceId =>
            if collector.phase = .awaitingStart then
              collector.acceptStarted consumer sampleRate channels actualVoiceId
            else (collector, .error duplicateStart)
        | .audioChunk sequence samples =>
            if collector.phase = .streamingAudio then
              collector.acceptAudio consumer sequence samples
            else (collector, .error dataBeforeStart)
        | .markers batch =>
            if collector.phase = .streamingAudio then collector.acceptMarkers consumer batch
            else (collector, .error dataBeforeStart)
        | .synthesisCompleted frameCount =>
            if collector.phase = .streamingAudio then
              collector.acceptCompleted consumer frameCount
            else (collector, .error dataBeforeStart)
        | .synthesisCancelled =>
            ({ collector with phase := .terminal }, .ok (some .cancelled))
        | .error code message retryable =>
            ({ collector with phase := .terminal }, .error (.remote code message retryable))
        | .other _ => (collector, .error nonSynthesisResponse)

/-- Take the frames of an exchange, up to its result or its failure. -/
def receive : ProgressiveHelperCollector R F → List HelperResponseBody →
    Collected R F (Option ProgressiveHelperSynthesisResult)
  | collector, [] => (collector, .ok none)
  | collector, body :: rest =>
      match collector.accept consumer body with
      | (collector, .ok none) => receive collector rest
      | (collector, .ok (some result)) => (collector, .ok (some result))
      | (collector, .error e) => (collector, .error e)

end

end ProgressiveHelperCollector

end Omnivox.Helpers
