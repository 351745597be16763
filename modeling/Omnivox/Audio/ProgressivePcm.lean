import Mathlib
import Omnivox.Audio.AudioBuffer
import Omnivox.Foundations.Bounded
import Omnivox.Foundations.Chunks
import Omnivox.Foundations.Fallible

/-!
# Progressive conversion of native PCM

Native callbacks deliver interleaved samples in pieces of any size. The converter
feeds them to one continuous resampler in windows of 512 frames and keeps at most
one incomplete window. Native audio at the canonical rate has no resampler and
passes through.

The resampler is a third-party component. It is an abstract state machine here:
each call answers with channels of samples or a failure, and nothing else is
assumed of it.
-/

set_option autoImplicit false

namespace Omnivox.Audio

open Foundations

/-- A resampler as its driver sees it. A failure carries its displayed text. -/
class Resampler (R : Type) (F : outParam Type) where
  process : R → List (List F) → Outcome R String (List (List F))
  processPartial : R → Option (List (List F)) → Outcome R String (List (List F))

/-- Standard channel count. -/
def channelCount : Nat := 2

/-- Native input frames retained between progressive conversion calls. -/
def inputWindowFrames : Nat := 512

structure ProgressivePcmCanonicalizer (R F : Type) where
  sourceSampleRate : Nat
  sourceChannels : Nat
  resampler : Option R
  pendingChannels : List (List F)
  sourceFrames : Nat
  outputFrames : Nat
  finished : Bool
  deriving DecidableEq

def validateFormat (rate channels : Nat) : Except AudioError Unit := do
  ensure (rate != 0) (.invalidFormat "sample rate must be greater than zero")
  ensure (channels == 1 || channels == channelCount) (.invalidFormat
    s!"only mono or stereo progressive PCM is supported, received {channels} channels")

/-- The two samples of an interleaved stereo frame. -/
def stereoFrame {F : Type} : List F → Option (Frame F)
  | [left, right] => some (left, right)
  | _ => none

/-- Interleaved samples as stereo frames, mono samples on both channels. -/
def stereoFrames {F : Type} (channels : Nat) (samples : List F) : AudioBuffer F :=
  if channels == channelCount then (chunksExact channelCount samples).filterMap stereoFrame
  else samples.map fun sample => (sample, sample)

/-- `AudioBuffer::try_from_interleaved_f32` at the canonical rate, where nothing
is resampled. -/
def tryFromInterleaved {F : Type} (samples : List F) (channels : Nat) :
    Except AudioError (AudioBuffer F) := do
  ensure (channels == 1 || channels == channelCount) (.invalidFormat
    s!"only mono or stereo PCM is supported, received {channels} channels")
  ensure (samples.length % channels == 0) (.invalidFormat
    s!"sample count {samples.length} is not aligned to {channels} channels")
  return stereoFrames channels samples

/-- Map a native frame boundary into the canonical playback clock. -/
def canonicalFrameOffset (sourceSampleRate sourceFrame : Nat) : Except AudioError Nat := do
  let numerator ← orError (.invalidFormat "frame conversion overflowed")
    ((checkedMul (wordMax 128) sourceFrame sampleRate).bind fun value =>
      checkedAdd (wordMax 128) value (sourceSampleRate / 2))
  let frames := numerator / sourceSampleRate
  ensure (frames ≤ u64Max) (.invalidFormat "frame conversion overflowed")
  return frames

/-- The available frames that the limit leaves room for. -/
def permittedFrames (outputFrames available : Nat) : Option Nat → Nat
  | none => available
  | some limit => min (limit - outputFrames) available

/-- The output count after collecting one answer of the resampler, and the window
that it adds, if any. -/
def collectFrames {F : Type} (sourceChannels outputFrames : Nat) (output : List (List F))
    (frameLimit : Option Nat) : Except AudioError (Nat × List (AudioBuffer F)) :=
  match output with
  | [] => .error (.invalidFormat "progressive resampler returned no channels")
  | first :: others =>
      if output.length != sourceChannels ||
          output.any fun channel => channel.length != first.length then
        .error (.invalidFormat "progressive resampler returned inconsistent channels")
      else
        let permitted := permittedFrames outputFrames first.length frameLimit
        if permitted == 0 then .ok (outputFrames, [])
        else
          let second := others.headD []
          let buffer : AudioBuffer F :=
            if sourceChannels == 1 then (first.take permitted).map fun sample => (sample, sample)
            else (first.take permitted).zip (second.take permitted)
          match checkedAdd u64Max outputFrames buffer.length with
          | none => .error (.invalidFormat "canonical frame count overflowed")
          | some total => .ok (total, [buffer])

def resamplingError (error : String) : AudioError :=
  .invalidFormat s!"could not resample progressive PCM: {error}"

namespace ProgressivePcmCanonicalizer

variable {R F : Type} [Resampler R F]

omit [Resampler R F] in
/-- Create a converter for one invariant native PCM format. The resampler comes
from the idle cache or is built anew. -/
def new (sourceSampleRate sourceChannels : Nat) (acquire : Except AudioError R) :
    Except AudioError (ProgressivePcmCanonicalizer R F) := do
  validateFormat sourceSampleRate sourceChannels
  let selected : Except AudioError (Option R) :=
    if sourceSampleRate == sampleRate then .ok none else acquire.map some
  let resampler ← selected
  return {
    sourceSampleRate := sourceSampleRate
    sourceChannels := sourceChannels
    resampler := resampler
    pendingChannels := List.replicate sourceChannels []
    sourceFrames := 0
    outputFrames := 0
    finished := false }

/-- Make a call on the resampler and keep its new state. -/
def call (converter : ProgressivePcmCanonicalizer R F)
    (request : R → Outcome R String (List (List F))) :
    Outcome (ProgressivePcmCanonicalizer R F) AudioError (List (List F)) :=
  match converter.resampler with
  -- the expectation of the source: this branch is never taken
  | none => (converter, .error (.invalidFormat "non-native sample rate has a resampler"))
  | some resampler =>
      let answer := request resampler
      ({ converter with resampler := some answer.1 },
        answer.2.mapError resamplingError)

omit [Resampler R F] in
/-- Collect what the resampler returned, up to the frame limit. -/
def collectOutput (converter : ProgressivePcmCanonicalizer R F) (output : List (List F))
    (frameLimit : Option Nat) (windows : List (AudioBuffer F)) :
    Outcome (ProgressivePcmCanonicalizer R F) AudioError (List (AudioBuffer F)) :=
  match collectFrames converter.sourceChannels converter.outputFrames output frameLimit with
  | .error e => (converter, .error e)
  | .ok collected => ({ converter with outputFrames := collected.1 }, .ok (windows ++ collected.2))

/-- The loop over complete windows, from a cursor. Each turn consumes a window, so
the number of pending frames is fuel enough. -/
def drainWindows : Nat → ProgressivePcmCanonicalizer R F → Nat → List (AudioBuffer F) →
    Outcome (ProgressivePcmCanonicalizer R F) AudioError (List (AudioBuffer F) × Nat)
  | 0, converter, consumed, windows => (converter, .ok (windows, consumed))
  | fuel + 1, converter, consumed, windows =>
      if (converter.pendingChannels.headD []).length - consumed ≥ inputWindowFrames then
        let input := converter.pendingChannels.map fun channel =>
          (channel.drop consumed).take inputWindowFrames
        andThen (converter.call fun resampler => Resampler.process resampler input)
          fun converter output =>
            andThen (converter.collectOutput output none windows) fun converter windows =>
              drainWindows fuel converter (consumed + inputWindowFrames) windows
      else (converter, .ok (windows, consumed))

def processCompleteWindows (converter : ProgressivePcmCanonicalizer R F) :
    Outcome (ProgressivePcmCanonicalizer R F) AudioError (List (AudioBuffer F)) :=
  andThen (converter.drainWindows (converter.pendingChannels.headD []).length 0 [])
    fun converter result =>
      if result.2 > 0 then
        ({ converter with
          pendingChannels := converter.pendingChannels.map fun channel => channel.drop result.2 },
          .ok result.1)
      else (converter, .ok result.1)

/-- Convert another non-final interleaved PCM window. -/
def pushInterleaved (converter : ProgressivePcmCanonicalizer R F) (samples : List F) :
    Outcome (ProgressivePcmCanonicalizer R F) AudioError (List (AudioBuffer F)) :=
  if converter.finished then
    (converter, .error (.invalidFormat "progressive PCM converter is already finished"))
  else if samples.isEmpty then (converter, .ok [])
  else if samples.length % converter.sourceChannels != 0 then
    (converter, .error (.invalidFormat
      s!"progressive sample count {samples.length} is not aligned to {converter.sourceChannels} channels"))
  else
    let frameCount := samples.length / converter.sourceChannels
    match checkedAdd u64Max converter.sourceFrames frameCount with
    | none => (converter, .error (.invalidFormat "native frame count overflowed"))
    | some sourceFrames =>
        let converter := { converter with sourceFrames := sourceFrames }
        match converter.resampler with
        | none =>
            match tryFromInterleaved samples converter.sourceChannels with
            | .error e => (converter, .error e)
            | .ok buffer =>
                match checkedAdd u64Max converter.outputFrames buffer.length with
                | none => (converter, .error (.invalidFormat "canonical frame count overflowed"))
                | some outputFrames =>
                    ({ converter with outputFrames := outputFrames }, .ok [buffer])
        | some _ =>
            let pending := (chunksExact converter.sourceChannels samples).foldl
              (fun channels frame =>
                List.zipWith (fun channel sample => channel ++ [sample]) channels frame)
              converter.pendingChannels
            { converter with pendingChannels := pending }.processCompleteWindows

/-- At most so many calls that flush the filter, until the target is reached or a
call brings nothing. -/
def flushTail (targetFrames : Nat) : Nat → ProgressivePcmCanonicalizer R F →
    List (AudioBuffer F) →
    Outcome (ProgressivePcmCanonicalizer R F) AudioError (List (AudioBuffer F))
  | 0, converter, windows => (converter, .ok windows)
  | turns + 1, converter, windows =>
      if converter.outputFrames ≥ targetFrames then (converter, .ok windows)
      else
        andThen (converter.call fun resampler => Resampler.processPartial resampler none)
          fun converter output =>
            let before := converter.outputFrames
            andThen (converter.collectOutput output (some targetFrames) windows)
              fun converter windows =>
                if converter.outputFrames == before then (converter, .ok windows)
                else flushTail targetFrames turns converter windows

/-- Hand the incomplete window to the resampler. -/
def flushPending (targetFrames : Nat) (converter : ProgressivePcmCanonicalizer R F) :
    Outcome (ProgressivePcmCanonicalizer R F) AudioError (List (AudioBuffer F)) :=
  if (converter.pendingChannels.headD []).isEmpty then (converter, .ok [])
  else
    andThen (converter.call fun resampler =>
        Resampler.processPartial resampler (some converter.pendingChannels))
      fun converter output =>
        andThen (converter.collectOutput output (some targetFrames) []) fun converter windows =>
          ({ converter with pendingChannels := converter.pendingChannels.map fun _ => [] },
            .ok windows)

/-- Flush the filter and return the final canonical windows. -/
def finish (converter : ProgressivePcmCanonicalizer R F) :
    Outcome (ProgressivePcmCanonicalizer R F) AudioError (List (AudioBuffer F)) :=
  if converter.finished then
    (converter, .error (.invalidFormat "progressive PCM converter is already finished"))
  else
    let converter := { converter with finished := true }
    if converter.resampler.isNone || converter.sourceFrames == 0 then (converter, .ok [])
    else
      match canonicalFrameOffset converter.sourceSampleRate converter.sourceFrames with
      | .error e => (converter, .error e)
      | .ok targetFrames =>
          if converter.outputFrames > targetFrames then
            (converter, .error (.invalidFormat
              s!"progressive resampler emitted {converter.outputFrames} frames for a {targetFrames}-frame result"))
          else
            andThen (converter.flushPending targetFrames) fun converter windows =>
              andThen (converter.flushTail targetFrames 4 windows) fun converter windows =>
                if converter.outputFrames != targetFrames then
                  (converter, .error (.invalidFormat
                    s!"progressive resampler completed with {converter.outputFrames} of {targetFrames} frames"))
                else (converter, .ok windows)

/-- Push pieces in order and finish, collecting every frame. A failure ends the
conversion, as it does for every caller. -/
def convert (converter : ProgressivePcmCanonicalizer R F) (pieces : List (List F)) :
    Outcome (ProgressivePcmCanonicalizer R F) AudioError (AudioBuffer F) :=
  andThen (runAll pushInterleaved converter pieces) fun converter windows =>
    andThen converter.finish fun converter last =>
      (converter, .ok (windows.flatten ++ last.flatten))

end ProgressivePcmCanonicalizer

end Omnivox.Audio
