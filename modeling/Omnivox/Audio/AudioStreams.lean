import Mathlib
import Omnivox.Audio.StreamItems
import Omnivox.Foundations.Evolution

/-!
# The audio streams

The three streams with everything that was queued on them. A step is a section under the
gate of a stream, or what a detached thread, a producer or a consumer does between two of
them, in any order.

A caller captures the generation of its request, and its predicate holds while no other
generation is current.
-/

set_option autoImplicit false

namespace Omnivox.Audio

open Foundations

variable {F : Type}

inductive SinkKind where
  | device
  | followingDevice
  | pulse
  | null
  deriving Repr, DecidableEq

/-- The sinks, the generation of the callers, and the items in the order of their
admission. -/
structure AudioStreams (F : Type) where
  kind : SinkKind
  maxDepth : StreamType → Nat
  control : AudioControl
  generation : Nat
  items : List (PlaybackItem F)

/-- What a producer sends: a window of whole frames, or the end. -/
inductive ProducerMessage (F : Type) where
  | window (audio : AudioBuffer F) (cues : List PlaybackCue)
  | complete (cues : List PlaybackCue)
  deriving Repr, DecidableEq

def ProducerMessage.message : ProducerMessage F → ProgressivePlaybackMessage F
  | .window audio cues => .audio (interleaved audio) cues
  | .complete cues => .complete cues

/-- Check the cues against the buffer. -/
def QueueForm.prepare (form : QueueForm) (audio : AudioBuffer F) : Except AudioError QueueForm :=
  match form with
  | .untracked => .ok .untracked
  | .tracked cues cancellation =>
      (preparePlaybackCues cues audio.length).map fun prepared => .tracked prepared cancellation

inductive StreamStep (F : Type) where
  | overtake
  | stop (stream : StreamType)
  | interruptOutput (replaces : Bool)
  | cancelRequest (token : CancellationToken)
  | queue (stream : StreamType) (audio : AudioBuffer F) (form : QueueForm) (captured : Nat)
      (refusal : Option AudioError)
  | scheduleOverlay (stream : StreamType) (audio : AudioBuffer F)
      (cancellation : Option CancellationToken) (captured : Nat)
  | checkOverlay (i : Nat) (barrierCancelled : Bool)
  | queueOverlay (i : Nat) (refusal : Option AudioError)
  | queueProgressive (cancellation : CancellationToken) (captured : Nat)
      (refusal : Option AudioError)
  | send (i : Nat) (message : ProducerMessage F)
  | dropProducer (i : Nat)
  | attach (i : Nat) (force : Bool) (refusal : Option AudioError)
  | poll (i : Nat) (outputClosed : Bool)
  deriving Repr, DecidableEq

namespace AudioStreams

/-- The number of items pending on a stream, the playing one included. -/
def pending (streams : AudioStreams F) (stream : StreamType) : Nat :=
  (streams.items.filter fun item => decide (item.stream = stream) && item.isLive).length

def backlogFull (streams : AudioStreams F) (stream : StreamType) : Bool :=
  decide (streams.maxDepth stream ≤ streams.pending stream)

/-- The sink of a stream drops its sources. -/
def clear (streams : AudioStreams F) (stream : StreamType) : AudioStreams F :=
  { streams with
    items := streams.items.map fun item => if item.stream = stream then item.clear else item }

/-- Clear a backlog that is at capacity. -/
def prepareQueue (streams : AudioStreams F) (stream : StreamType) : AudioStreams F :=
  if streams.backlogFull stream then streams.clear stream else streams

/-- Change one item. -/
def modify (streams : AudioStreams F) (i : Nat) (change : PlaybackItem F → PlaybackItem F) :
    AudioStreams F :=
  match streams.items[i]? with
  | some item => { streams with items := streams.items.set i (change item) }
  | none => streams

/-- Admit a new item. -/
def admitItem (streams : AudioStreams F) (item : PlaybackItem F) : AudioStreams F :=
  { streams with items := streams.items ++ [item] }

/-- Stop a specific stream. -/
def stop (streams : AudioStreams F) (stream : StreamType) : AudioStreams F :=
  let stopped := { streams with control := streams.control.stop stream }
  if stream = .sound ∨ streams.kind = .pulse then stopped.clear stream else stopped

/-- Publish or retire the queues of the device, under all gates. -/
def interruptOutput (streams : AudioStreams F) (replaces : Bool) : AudioStreams F :=
  let interrupted := { streams with
    control := streams.control.interruptOutput
    generation := streams.generation + 1 }
  if replaces then ((interrupted.clear .speech).clear .tone).clear .sound else interrupted

def cancelRequest (streams : AudioStreams F) (token : CancellationToken) : AudioStreams F :=
  if own : token ≠ streams.control.speechStopCancellation ∧
      token ≠ streams.control.toneStopCancellation then
    { streams with control := streams.control.cancelRequest token own }
  else streams

/-- Queue a buffer while the predicate of the caller holds. -/
def queue (streams : AudioStreams F) (stream : StreamType) (audio : AudioBuffer F)
    (form : QueueForm) (captured : Nat) (refusal : Option AudioError) : AudioStreams F :=
  if captured ≠ streams.generation then streams
  else
    match form.prepare audio with
    | .error _ => streams
    | .ok form =>
        if audio.isEmpty then streams
        else
          let prepared := streams.prepareQueue stream
          if refusal.isSome then prepared
          else prepared.admitItem ⟨stream, captured, true, 0,
            .queued (streams.control.newSource stream audio form)⟩

/-- Schedule an overlay after its barriers while the predicate of the caller holds. -/
def scheduleOverlay (streams : AudioStreams F) (stream : StreamType) (audio : AudioBuffer F)
    (cancellation : Option CancellationToken) (captured : Nat) : AudioStreams F :=
  if audio.isEmpty ∨ captured ≠ streams.generation then streams
  else streams.admitItem ⟨stream, captured, false, 0,
    .scheduled audio cancellation (streams.control.scheduleGenerations stream) false⟩

/-- An overlay thread at the gate of its stream. -/
def queueOverlay (streams : AudioStreams F) (i : Nat) (refusal : Option AudioError) :
    AudioStreams F :=
  match streams.items[i]? with
  | some item =>
      let prepared := if item.overlayAdmitted streams.control then streams.prepareQueue item.stream
        else streams
      { prepared with items := prepared.items.set i (item.queueOverlay streams.control refusal) }
  | none => streams

/-- Queue a progressive source while the predicate of the caller holds. -/
def queueProgressive (streams : AudioStreams F) (cancellation : CancellationToken)
    (captured : Nat) (refusal : Option AudioError) : AudioStreams F :=
  if captured ≠ streams.generation then streams
  else
    let prepared := streams.prepareQueue .speech
    let queued := queueProgressiveSpeech streams.control cancellation
      (decide (streams.kind = .null)) ⟨streams.backlogFull .speech, refusal⟩
    let prepared := { prepared with control := queued.1 }
    match queued.2 with
    | .error _ => prepared
    | .ok playback => prepared.admitItem ⟨.speech, captured, decide (streams.kind = .null), 0,
        .progressive playback⟩

/-- Attach a progressive source under the gate of speech. -/
def attach (streams : AudioStreams F) (i : Nat) (force : Bool) (refusal : Option AudioError) :
    AudioStreams F :=
  match streams.items[i]? with
  | some item =>
      let attached := item.attach streams.control ⟨streams.backlogFull .speech, refusal⟩ force
      let prepared := if item.readyToAttach streams.control force
        then streams.prepareQueue .speech else streams
      { prepared with control := attached.1, items := prepared.items.set i attached.2 }
  | none => streams

def next (streams : AudioStreams F) : StreamStep F → AudioStreams F
  | .overtake => { streams with generation := streams.generation + 1 }
  | .stop stream => streams.stop stream
  | .interruptOutput replaces => streams.interruptOutput replaces
  | .cancelRequest token => streams.cancelRequest token
  | .queue stream audio form captured refusal => streams.queue stream audio form captured refusal
  | .scheduleOverlay stream audio cancellation captured =>
      streams.scheduleOverlay stream audio cancellation captured
  | .checkOverlay i barrierCancelled =>
      streams.modify i fun item => item.checkOverlay streams.control barrierCancelled
  | .queueOverlay i refusal => streams.queueOverlay i refusal
  | .queueProgressive cancellation captured refusal =>
      streams.queueProgressive cancellation captured refusal
  | .send i message => streams.modify i fun item => item.send streams.control.tokens message.message
  | .dropProducer i => streams.modify i PlaybackItem.dropProducer
  | .attach i force refusal => streams.attach i force refusal
  | .poll i outputClosed =>
      streams.modify i fun item => item.poll streams.control.tokens outputClosed

def run (streams : AudioStreams F) (steps : List (StreamStep F)) : AudioStreams F :=
  steps.foldl next streams

/-- Three idle streams. -/
def new (kind : SinkKind) (maxDepth : StreamType → Nat) : AudioStreams F where
  kind := kind
  maxDepth := maxDepth
  control := .new
  generation := 0
  items := []

end AudioStreams

end Omnivox.Audio
