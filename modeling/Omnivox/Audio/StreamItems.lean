import Mathlib
import Omnivox.Audio.ProgressivePlayback
import Omnivox.Foundations.Timed

/-!
# What is queued on an audio stream

An item is what a caller queued on a stream once its predicate held: a buffered source, a
progressive playback, or an overlay whose thread still waits for its barriers. The
operations here are about one item. Each is a section under the gate of the stream, or what
a detached thread or a consumer does between two of them.

An item remembers the generation its caller checked, whether it was appended to the queue
of its stream, and how many samples its source has returned since.
-/

set_option autoImplicit false

namespace Omnivox.Audio

open Foundations

variable {F : Type}

/-! ## Buffered sources -/

/-- Untracked audio which participates in stream-wide smooth stopping. -/
structure SmoothStopBufferSource (F : Type) where
  inner : BufferSource F
  cancellation : PlaybackCancellation
  deriving Repr, DecidableEq

def SmoothStopBufferSource.next (source : SmoothStopBufferSource F) (tokens : CancellationTokens) :
    Polled (SmoothStopBufferSource F) F :=
  let gained := source.cancellation.nextGain tokens source.inner.position
  match gained.2 with
  | none => ⟨{ source with cancellation := gained.1 }, [], none⟩
  | some gain =>
      let advanced := source.inner.next
      ⟨{ inner := advanced.1, cancellation := gained.1 }, [], advanced.2.map (·, gain)⟩

/-- The sources of whole buffers. -/
inductive BufferedSource (F : Type) where
  | plain (source : BufferSource F)
  | smoothStop (source : SmoothStopBufferSource F)
  | tracked (source : TrackedBufferSource F)
  deriving Repr, DecidableEq

namespace BufferedSource

def next (tokens : CancellationTokens) : BufferedSource F → Polled (BufferedSource F) F
  | .plain source =>
      let advanced := source.next
      ⟨.plain advanced.1, [], advanced.2.map (·, .unity)⟩
  | .smoothStop source =>
      let polled := source.next tokens
      ⟨.smoothStop polled.source, polled.cues, polled.sample⟩
  | .tracked source =>
      let polled := source.next tokens
      ⟨.tracked polled.source, polled.cues, polled.sample⟩

def cancellation : BufferedSource F → PlaybackCancellation
  | .plain _ => .new none none none
  | .smoothStop source => source.cancellation
  | .tracked source => source.cancellation

def position : BufferedSource F → Nat
  | .plain source => source.position
  | .smoothStop source => source.inner.position
  | .tracked source => source.inner.position

/-- What its ticket was told. Untracked audio has none. -/
def completion : BufferedSource F → PlaybackCompletion
  | .plain _ => none
  | .smoothStop _ => none
  | .tracked source => source.completion

/-- What its ticket was told once the source is dropped. -/
def dropped : BufferedSource F → PlaybackCompletion
  | .plain _ => none
  | .smoothStop _ => none
  | .tracked source => source.completion.report .cancelled

end BufferedSource

/-- How a buffer is queued: untracked, or with a ticket, a token of the caller and cues. -/
inductive QueueForm where
  | untracked
  | tracked (cues : List PlaybackCue) (cancellation : Option CancellationToken)
  deriving Repr, DecidableEq

/-- The source of a buffer that is appended, with the stop token then in place. -/
def AudioControl.newSource (control : AudioControl) (stream : StreamType) (audio : AudioBuffer F) :
    QueueForm → BufferedSource F
  | .untracked =>
      match control.smoothStopCancellation stream with
      | some token => .smoothStop ⟨.new (interleaved audio),
          .new none (some token) (AudioControl.smoothStopFadeFrames stream)⟩
      | none => .plain (.new (interleaved audio))
  | .tracked cues cancellation =>
      .tracked (.newWithCueOptions (interleaved audio) cues cancellation
        (control.smoothStopCancellation stream) (AudioControl.smoothStopFadeFrames stream))

/-! ## Items -/

/-- An overlay thread holds its buffer until its barriers complete, and notes when it has
passed its first checks. -/
inductive ItemState (F : Type) where
  | scheduled (audio : AudioBuffer F) (cancellation : Option CancellationToken)
      (generation : Nat) (checked : Bool)
  | queued (source : BufferedSource F)
  | progressive (playback : ProgressivePlayback F)
  | retired (completion : PlaybackCompletion)
  deriving Repr, DecidableEq

structure PlaybackItem (F : Type) where
  stream : StreamType
  captured : Nat
  appended : Bool
  emitted : Nat
  state : ItemState F
  deriving Repr, DecidableEq

namespace PlaybackItem

/-- What the ticket of an item was told. -/
def ticket (item : PlaybackItem F) : PlaybackCompletion :=
  match item.state with
  | .scheduled _ _ _ _ => none
  | .queued source => source.completion
  | .progressive playback => playback.place.ticket
  | .retired completion => completion

/-- Whether the queue of its stream counts it. -/
def isLive (item : PlaybackItem F) : Bool :=
  match item.state with
  | .queued _ => true
  | .progressive playback =>
      match playback.place with
      | .attached _ => true
      | _ => false
  | _ => false

/-- The queue drops its source. -/
def clear (item : PlaybackItem F) : PlaybackItem F :=
  match item.state with
  | .queued source => { item with state := .retired source.dropped }
  | .progressive playback =>
      match playback.place with
      | .attached _ => { item with state := .progressive playback.dropSource }
      | _ => item
  | _ => item

end PlaybackItem

/-- A source that has returned its last is dropped by its queue. -/
def ProgressivePlayback.releaseEnded (playback : ProgressivePlayback F) : ProgressivePlayback F :=
  match playback.place with
  | .attached source => if source.phase = .ended then playback.dropSource else playback
  | _ => playback

namespace PlaybackItem

/-- A part of a call of the consumer. Its output may have been closed. -/
def poll (item : PlaybackItem F) (tokens : CancellationTokens) (outputClosed : Bool) :
    PlaybackItem F :=
  match item.state with
  | .queued source =>
      if outputClosed then { item with state := .retired source.dropped }
      else
        let polled := source.next tokens
        match polled.sample with
        | some _ => { item with state := .queued polled.source, emitted := item.emitted + 1 }
        | none => { item with state := .retired polled.source.dropped }
  | .progressive playback =>
      let consumed := playback.consume tokens outputClosed
      { item with
        state := .progressive consumed.1.releaseEnded
        emitted := item.emitted + (ticks consumed.2).length }
  | _ => item

/-- A message of a producer that is sent. -/
def send (item : PlaybackItem F) (tokens : CancellationTokens)
    (message : ProgressivePlaybackMessage F) : PlaybackItem F :=
  match item.state with
  | .progressive playback =>
      match playback.producer with
      | none => item
      | some producer =>
          match playback.send producer tokens message with
          | .sent channel => { item with state := .progressive { playback with channel := channel } }
          | _ => item
  | _ => item

def dropProducer (item : PlaybackItem F) : PlaybackItem F :=
  match item.state with
  | .progressive playback => { item with state := .progressive playback.dropProducer }
  | _ => item

/-- Whether an attachment of the item gets past its checks. -/
def readyToAttach (item : PlaybackItem F) (control : AudioControl) (force : Bool) : Bool :=
  match item.state with
  | .progressive playback =>
      playback.producer.any fun producer => playback.readyToAttach producer control force
  | _ => false

/-- An attachment, with the control it leaves. -/
def attach (item : PlaybackItem F) (control : AudioControl) (queue : QueueAnswer) (force : Bool) :
    AudioControl × PlaybackItem F :=
  match item.state with
  | .progressive playback =>
      match playback.producer with
      | none => (control, item)
      | some producer =>
          let produced := playback.attachIfPrimed producer control queue force
          (produced.control, { item with
            appended := item.appended || match produced.playback.place with
              | .attached _ => true
              | _ => false
            state := .progressive produced.playback })
  | _ => (control, item)

/-- The first checks of an overlay thread, once its barriers are done. -/
def checkOverlay (item : PlaybackItem F) (control : AudioControl) (barrierCancelled : Bool) :
    PlaybackItem F :=
  match item.state with
  | .scheduled audio cancellation generation false =>
      if barrierCancelled || cancellation.any control.tokens.isCancelled ||
          control.scheduleGenerations item.stream != generation then
        { item with state := .retired (some .cancelled) }
      else { item with state := .scheduled audio cancellation generation true }
  | _ => item

/-- Whether the predicate of an overlay thread holds at the gate. -/
def overlayAdmitted (item : PlaybackItem F) (control : AudioControl) : Bool :=
  match item.state with
  | .scheduled _ _ generation true => control.scheduleGenerations item.stream == generation
  | _ => false

/-- An overlay thread at the gate: it appends its source, or is refused. -/
def queueOverlay (item : PlaybackItem F) (control : AudioControl) (refusal : Option AudioError) :
    PlaybackItem F :=
  match item.state with
  | .scheduled audio cancellation generation true =>
      if control.scheduleGenerations item.stream != generation || refusal.isSome then
        { item with state := .retired (some .cancelled) }
      else
        { item with
          appended := true
          state := .queued (control.newSource item.stream audio (.tracked [] cancellation)) }
  | _ => item

end PlaybackItem

end Omnivox.Audio
