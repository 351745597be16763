import Mathlib
import Omnivox.Audio.AudioBuffer
import Omnivox.Foundations.Bounded
import Omnivox.Foundations.Bracketed
import Omnivox.Foundations.Fallible

/-!
# Silence trimming

The buffered trimmer scans a whole buffer from both ends. The progressive one
receives it in windows, keeps a bounded number of leading silent frames, and
holds silence back after audible frames until later sound releases it or the end
proves it trailing.
-/

set_option autoImplicit false

namespace Omnivox.Audio

open Foundations

/-- What trimming asks of a sample. -/
class TrimmedSample (F : Type*) where
  /-- `sample.abs() > threshold` -/
  exceeds : F → F → Bool
  /-- `(secs * SAMPLE_RATE as f32) as usize` -/
  paddingFrames : F → Nat

export TrimmedSample (exceeds paddingFrames)

/-- Exact samples. The conversion to `usize` drops the fraction and stops at both
ends of the range. -/
instance : TrimmedSample ℚ where
  exceeds sample threshold := decide (sample > threshold) || decide (-sample > threshold)
  paddingFrames secs := min (secs * sampleRate).floor.toNat usizeMax

variable {F : Type*}

/-- Frame changes made by a trimmer. -/
structure SilenceTrimReport where
  inputFrames : Nat
  outputFrames : Nat
  removedLeadingFrames : Nat
  removedTrailingFrames : Nat
  deriving Repr, DecidableEq

/-- Map an input frame offset into the trimmed buffer. -/
def SilenceTrimReport.mapFrameOffset (report : SilenceTrimReport) (frameOffset : Nat) : Nat :=
  min (frameOffset - report.removedLeadingFrames) report.outputFrames

variable [TrimmedSample F]

/-- Either channel of the frame exceeds the threshold. -/
def audibleFrame (threshold : F) (frame : Frame F) : Bool :=
  exceeds frame.1 threshold || exceeds frame.2 threshold

/-! ## The buffered trimmer -/

structure SilenceTrimmer (F : Type*) where
  /-- Amplitude threshold below which samples are considered silence. -/
  threshold : F
  /-- Padding to preserve before the first audible frame, in seconds. -/
  leadingPaddingSecs : F
  /-- Padding to preserve after the last audible frame, in seconds. -/
  trailingPaddingSecs : F

/-- Trim the buffer and report how its frame timeline changed. -/
def SilenceTrimmer.processWithReport (trimmer : SilenceTrimmer F) (buffer : AudioBuffer F) :
    AudioBuffer F × SilenceTrimReport :=
  let inputFrames := buffer.length
  if buffer.isEmpty then
    (buffer, ⟨inputFrames, 0, 0, 0⟩)
  else
    let leadingFrames := paddingFrames trimmer.leadingPaddingSecs
    let trailingFrames := paddingFrames trimmer.trailingPaddingSecs
    let audible := markedAt (audibleFrame trimmer.threshold) buffer
    match (List.range inputFrames).find? audible with
    | none => ([], ⟨inputFrames, 0, inputFrames, 0⟩)
    | some firstSound =>
        -- a first audible frame guarantees a last one, so the default is never taken
        let lastSound := ((List.range inputFrames).reverse.find? audible).getD firstSound
        let startFrame := firstSound - leadingFrames
        let endFrame := min
          (saturatingAdd usizeMax (saturatingAdd usizeMax lastSound trailingFrames) 1) inputFrames
        let outputFrames := endFrame - startFrame
        let samples :=
          if startFrame > 0 || endFrame < inputFrames then
            (buffer.drop startFrame).take (endFrame - startFrame)
          else buffer
        (samples, ⟨inputFrames, outputFrames, startFrame, inputFrames - endFrame⟩)

/-! ## The progressive trimmer -/

structure ProgressiveSilenceTrimmer (F : Type*) where
  threshold : F
  leadingPaddingFrames : Nat
  trailingPaddingFrames : Nat
  leading : List (Frame F)
  pendingSilence : List (Frame F)
  inputFrames : Nat
  outputFrames : Nat
  leadingSilenceFrames : Nat
  removedLeadingFrames : Option Nat
  audible : Bool
  finished : Bool

namespace ProgressiveSilenceTrimmer

/-- An incremental trimmer with the settings of a buffered one. -/
def withAsymmetricPadding (threshold leadingPaddingSecs trailingPaddingSecs : F) :
    ProgressiveSilenceTrimmer F where
  threshold := threshold
  leadingPaddingFrames := paddingFrames leadingPaddingSecs
  trailingPaddingFrames := paddingFrames trailingPaddingSecs
  leading := []
  pendingSilence := []
  inputFrames := 0
  outputFrames := 0
  leadingSilenceFrames := 0
  removedLeadingFrames := none
  audible := false
  finished := false

/-- One turn of the loop over a window, on the trimmer and the output so far. -/
def processFrame (state : ProgressiveSilenceTrimmer F × List (Frame F)) (frame : Frame F) :
    ProgressiveSilenceTrimmer F × List (Frame F) :=
  let output := state.2
  let trimmer := { state.1 with inputFrames := saturatingAdd usizeMax state.1.inputFrames 1 }
  let audible := audibleFrame trimmer.threshold frame
  if !trimmer.audible then
    if !audible then
      let leading := trimmer.leading ++ [frame]
      ({ trimmer with
          leadingSilenceFrames := saturatingAdd usizeMax trimmer.leadingSilenceFrames 1
          leading :=
            if leading.length > trimmer.leadingPaddingFrames then leading.tail else leading },
        output)
    else
      ({ trimmer with
          audible := true
          removedLeadingFrames := some (trimmer.leadingSilenceFrames - trimmer.leading.length)
          leading := [] },
        output ++ trimmer.leading ++ [frame])
  else if audible then
    ({ trimmer with pendingSilence := [] }, output ++ trimmer.pendingSilence ++ [frame])
  else
    ({ trimmer with pendingSilence := trimmer.pendingSilence ++ [frame] }, output)

/-- Process one window, returning any frames now known to be part of the trimmed
result. -/
def processWindow (trimmer : ProgressiveSilenceTrimmer F) (input : AudioBuffer F) :
    Except AudioError (ProgressiveSilenceTrimmer F × AudioBuffer F) :=
  if trimmer.finished then
    .error (.effectError "progressive silence trimmer is already finished")
  else
    let processed := input.foldl processFrame (trimmer, [])
    .ok ({ processed.1 with
        outputFrames := saturatingAdd usizeMax processed.1.outputFrames processed.2.length },
      processed.2)

omit [TrimmedSample F] in
/-- Return final retained trailing padding and the complete trim report. -/
def finish (trimmer : ProgressiveSilenceTrimmer F) :
    Except AudioError (ProgressiveSilenceTrimmer F × AudioBuffer F × SilenceTrimReport) :=
  if trimmer.finished then
    .error (.effectError "progressive silence trimmer is already finished")
  else
    let trimmer := { trimmer with finished := true }
    if !trimmer.audible then
      .ok ({ trimmer with
          leading := []
          pendingSilence := []
          removedLeadingFrames := some trimmer.inputFrames },
        [], ⟨trimmer.inputFrames, 0, trimmer.inputFrames, 0⟩)
    else
      let pendingFrames := trimmer.pendingSilence.length
      let retainedFrames := min pendingFrames trimmer.trailingPaddingFrames
      let tail := trimmer.pendingSilence.drop (pendingFrames - retainedFrames)
      let trimmer := { trimmer with
        pendingSilence := []
        outputFrames := saturatingAdd usizeMax trimmer.outputFrames retainedFrames }
      .ok (trimmer, tail,
        ⟨trimmer.inputFrames, trimmer.outputFrames, trimmer.removedLeadingFrames.getD 0,
          pendingFrames - retainedFrames⟩)

/-- Process windows in order, collecting what each returns. -/
def processWindows : ProgressiveSilenceTrimmer F → List (AudioBuffer F) →
    Except AudioError (ProgressiveSilenceTrimmer F × AudioBuffer F)
  | trimmer, [] => .ok (trimmer, [])
  | trimmer, window :: rest => do
      let first ← trimmer.processWindow window
      let others ← processWindows first.1 rest
      return (others.1, first.2 ++ others.2)

/-- Process windows and finish: all the samples returned, and the report. -/
def trimWindows (trimmer : ProgressiveSilenceTrimmer F) (windows : List (AudioBuffer F)) :
    Except AudioError (AudioBuffer F × SilenceTrimReport) := do
  let processed ← trimmer.processWindows windows
  let finished ← processed.1.finish
  return (processed.2 ++ finished.2.1, finished.2.2)

end ProgressiveSilenceTrimmer

end Omnivox.Audio
