import Mathlib
import Omnivox.Audio.AudioControl
import Omnivox.Foundations.Bounded

/-!
# Progressive playback

A producer supplies one progressive source with windows of samples through a channel of
bounded capacity. Cues wait at the producer for the next window, or for the end.

The source is attached to the speech queue once a few windows are in the channel, or at
the end of a shorter stream. Until then the producer holds it. On a queue that is not a
real device the source is attached at once.

The queue decides whether its backlog is full and whether it accepts a source: these are
arguments of the calls that attach. A call that has to wait for room in the channel has no
answer yet, and is made again.
-/

set_option autoImplicit false

namespace Omnivox.Audio

open Foundations

def PROGRESSIVE_PLAYBACK_CAPACITY : Nat := 4
def PROGRESSIVE_PLAYBACK_PREBUFFER_WINDOWS : Nat := 3
def LETTER_PLAYBACK_PREBUFFER_FRAMES : Nat := sampleRate * 40 / 1000

inductive ProgressivePlaybackMessage (F : Type) where
  | audio (samples : List F) (cues : List PlaybackCue)
  | complete (cues : List PlaybackCue)
  deriving Repr, DecidableEq

/-- Bounded producer for one progressively queued speech source. `finish` consumes it, so a
producer always has its end of the channel. -/
structure ProgressivePlaybackProducer where
  requestCancellation : CancellationToken
  streamCancellation : CancellationToken
  publishedFrames : Nat
  lastCueOffset : Option Nat
  pendingCues : List PlaybackCue
  prebufferedAudioWindows : Nat
  letterNavigation : Bool
  deriving Repr, DecidableEq

/-- Where the source is: with its producer, as a pending attachment that remembers the
schedule generation, in the speech queue, or gone. -/
inductive SourcePlace (F : Type) where
  | pendingAttachment (source : ProgressivePlaybackSource F) (generation : Nat)
  | attached (source : ProgressivePlaybackSource F)
  | dropped (completion : PlaybackCompletion)
  deriving Repr, DecidableEq

/-- Whether the queue is full, and the error of the queue that does not accept. -/
structure QueueAnswer where
  backlogFull : Bool
  refusal : Option AudioError
  deriving Repr, DecidableEq

/-- A producer, unless it is dropped, its source, and the messages between them. -/
structure ProgressivePlayback (F : Type) where
  producer : Option ProgressivePlaybackProducer
  channel : List (ProgressivePlaybackMessage F)
  place : SourcePlace F
  deriving Repr, DecidableEq

/-- What a call of the producer leaves. A call without an answer waits for room in the
channel. -/
structure Produced (F : Type) where
  control : AudioControl
  playback : ProgressivePlayback F
  answer : Option (Except AudioError Unit)

namespace ProgressivePlaybackSource

variable {F : Type}

/-- A source that is dropped tells its ticket that it was cancelled, if it told nothing
before. -/
def drop (source : ProgressivePlaybackSource F) : SourcePlace F :=
  .dropped (source.completion.report .cancelled)

/-- Follow another stop token. -/
def followStream (source : ProgressivePlaybackSource F) (stream : CancellationToken) :
    ProgressivePlaybackSource F :=
  { source with cancellation := { source.cancellation with stream := some stream } }

end ProgressivePlaybackSource

/-- What the ticket of a playback was told. -/
def SourcePlace.ticket {F : Type} : SourcePlace F → PlaybackCompletion
  | .pendingAttachment source _ => source.completion
  | .attached source => source.completion
  | .dropped completion => completion

namespace ProgressivePlaybackProducer

/-- Enough audio for the source to be attached. -/
def primed (producer : ProgressivePlaybackProducer) : Bool :=
  decide (PROGRESSIVE_PLAYBACK_PREBUFFER_WINDOWS ≤ producer.prebufferedAudioWindows) ||
    (producer.letterNavigation &&
      decide (LETTER_PLAYBACK_PREBUFFER_FRAMES ≤ producer.publishedFrames))

def isCancelled (producer : ProgressivePlaybackProducer) (tokens : CancellationTokens) : Bool :=
  tokens.isCancelled producer.requestCancellation || tokens.isCancelled producer.streamCancellation

/-- The pending cues go with a message. -/
def takeCues (producer : ProgressivePlaybackProducer) : ProgressivePlaybackProducer :=
  { producer with pendingCues := [] }

/-- One more window was sent. -/
def countWindow (producer : ProgressivePlaybackProducer) (publishedFrames : Nat) :
    ProgressivePlaybackProducer :=
  { producer with
    publishedFrames := publishedFrames
    prebufferedAudioWindows := saturatingAdd usizeMax producer.prebufferedAudioWindows 1 }

def cuesOutOfOrder : AudioError :=
  .invalidFormat "progressive playback cues are out of order"

def cueBehind (producer : ProgressivePlaybackProducer) (cue : PlaybackCue) : AudioError :=
  .invalidFormat s!"progressive playback cue {cue.identifier} at frame {cue.frameOffset} arrived after {producer.publishedFrames} frames"

/-- The check of one cue after the previous offset. -/
def checkCue (producer : ProgressivePlaybackProducer) (previous : Option Nat) (cue : PlaybackCue) :
    Except AudioError (Option Nat) :=
  if cue.frameOffset < producer.publishedFrames then .error (producer.cueBehind cue)
  else if previous.any fun offset => decide (cue.frameOffset < offset) then .error cuesOutOfOrder
  else .ok (some cue.frameOffset)

/-- The checks of `push_cues`, with the offset of the last cue. -/
def checkCues (producer : ProgressivePlaybackProducer) (cues : List PlaybackCue) :
    Except AudioError (Option Nat) :=
  if cues.isEmpty then
    .error (.invalidFormat "progressive playback cue batch is empty")
  else cues.foldlM producer.checkCue producer.lastCueOffset

end ProgressivePlaybackProducer

/-- One attempt to send. -/
inductive Sent (F : Type) where
  | sent (channel : List (ProgressivePlaybackMessage F))
  | full
  | failed (error : AudioError)
  deriving Repr, DecidableEq

namespace ProgressivePlayback

variable {F : Type}

def dropProducer (playback : ProgressivePlayback F) : ProgressivePlayback F :=
  match playback.place with
  | .pendingAttachment source _ =>
      { playback with producer := none, channel := [], place := source.drop }
  | _ => { playback with producer := none }

def dropSource (playback : ProgressivePlayback F) : ProgressivePlayback F :=
  match playback.place with
  | .pendingAttachment source _ => { playback with channel := [], place := source.drop }
  | .attached source => { playback with channel := [], place := source.drop }
  | .dropped _ => playback

/-- Send, unless cancelled: the receiver may be gone, or the channel may be full. -/
def send (playback : ProgressivePlayback F) (producer : ProgressivePlaybackProducer)
    (tokens : CancellationTokens) (message : ProgressivePlaybackMessage F) : Sent F :=
  if producer.isCancelled tokens then
    .failed (.playbackError "progressive playback was cancelled")
  else
    match playback.place with
    | .dropped _ => .failed (.playbackError "progressive playback consumer stopped")
    | _ =>
        if playback.channel.length < PROGRESSIVE_PLAYBACK_CAPACITY then
          .sent (playback.channel ++ [message])
        else .full

def cancelledUnprimed : AudioError :=
  .playbackError "progressive playback was cancelled before it was primed"

/-- The part of the attachment under the gate of the speech queue. -/
def attach (playback : ProgressivePlayback F) (producer : ProgressivePlaybackProducer)
    (source : ProgressivePlaybackSource F) (control : AudioControl) (queue : QueueAnswer) :
    Produced F :=
  let control' := if queue.backlogFull then control.replaceSpeechStop else control
  let stream := if queue.backlogFull then control'.speechStopCancellation
    else producer.streamCancellation
  let source := if queue.backlogFull then source.followStream stream else source
  let playback := { playback with producer := some { producer with streamCancellation := stream } }
  match queue.refusal with
  | some error =>
      ⟨control', { playback with channel := [], place := source.drop }, some (.error error)⟩
  | none => ⟨control', { playback with place := .attached source }, some (.ok ())⟩

/-- Whether an attachment gets past its checks. -/
def readyToAttach (playback : ProgressivePlayback F) (producer : ProgressivePlaybackProducer)
    (control : AudioControl) (force : Bool) : Bool :=
  match playback.place with
  | .pendingAttachment _ generation =>
      (force || producer.primed) && !producer.isCancelled control.tokens &&
        control.scheduleGenerations .speech == generation
  | _ => false

/-- Attach a source that is pending and has enough audio, or is forced. -/
def attachIfPrimed (playback : ProgressivePlayback F) (producer : ProgressivePlaybackProducer)
    (control : AudioControl) (queue : QueueAnswer) (force : Bool) : Produced F :=
  match playback.place with
  | .pendingAttachment source generation =>
      if !force && !producer.primed then ⟨control, playback, some (.ok ())⟩
      else if producer.isCancelled control.tokens ||
          control.scheduleGenerations .speech != generation then
        ⟨control, playback.dropSource, some (.error cancelledUnprimed)⟩
      else playback.attach producer source control queue
  | _ => ⟨control, playback, some (.ok ())⟩

/-! ## The calls of the producer -/

def useLetterNavigationPrebuffer (playback : ProgressivePlayback F)
    (producer : ProgressivePlaybackProducer) (control : AudioControl) : Produced F :=
  if producer.publishedFrames ≠ 0 then
    ⟨control, playback, some (.error (.playbackError
      "letter playback reserve must be selected before PCM"))⟩
  else
    ⟨control, { playback with producer := some { producer with letterNavigation := true } },
      some (.ok ())⟩

def pushAudio (playback : ProgressivePlayback F) (producer : ProgressivePlaybackProducer)
    (control : AudioControl) (queue : QueueAnswer) (audio : AudioBuffer F) : Produced F :=
  if audio.isEmpty then
    ⟨control, playback, some (.error (.invalidFormat "progressive playback audio window is empty"))⟩
  else
    match checkedAdd u64Max producer.publishedFrames audio.length with
    | none => ⟨control, playback, some (.error (.invalidFormat
        "progressive playback frame count overflowed"))⟩
    | some publishedFrames =>
        let message := .audio (interleaved audio) producer.pendingCues
        match playback.send producer.takeCues control.tokens message with
        | .full => ⟨control, playback, none⟩
        | .failed error =>
            ⟨control, { playback with producer := some producer.takeCues }, some (.error error)⟩
        | .sent channel =>
            let producer := producer.takeCues.countWindow publishedFrames
            let playback := { playback with producer := some producer, channel := channel }
            playback.attachIfPrimed producer control queue false

def pushCues (playback : ProgressivePlayback F) (producer : ProgressivePlaybackProducer)
    (control : AudioControl) (cues : List PlaybackCue) : Produced F :=
  match producer.checkCues cues with
  | .error error => ⟨control, playback, some (.error error)⟩
  | .ok previous =>
      let producer := { producer with
        pendingCues := producer.pendingCues ++ cues
        lastCueOffset := previous }
      ⟨control, { playback with producer := some producer }, some (.ok ())⟩

/-- The producer is dropped, whatever the answer. -/
def finish (playback : ProgressivePlayback F) (producer : ProgressivePlaybackProducer)
    (control : AudioControl) (queue : QueueAnswer) : Produced F :=
  match producer.lastCueOffset.filter fun offset => decide (producer.publishedFrames < offset) with
  | some offset => ⟨control, playback.dropProducer, some (.error (.invalidFormat
      s!"progressive playback cue at frame {offset} exceeds the {producer.publishedFrames}-frame stream"))⟩
  | none =>
      let message := .complete producer.pendingCues
      match playback.send producer.takeCues control.tokens message with
      | .full => ⟨control, playback, none⟩
      | .failed error => ⟨control, playback.dropProducer, some (.error error)⟩
      | .sent channel =>
          let playback := { playback with producer := some producer.takeCues, channel := channel }
          let attached := playback.attachIfPrimed producer.takeCues control queue true
          { attached with playback := attached.playback.dropProducer }

/-! ## The consumer -/

/-- What a wait for the channel comes to. -/
def receive (playback : ProgressivePlayback F) :
    Received F × List (ProgressivePlaybackMessage F) :=
  match playback.channel with
  | .audio samples cues :: rest => (.audio samples cues, rest)
  | .complete cues :: rest => (.complete cues, rest)
  | [] => (if playback.producer.isSome then .timeout else .disconnected, [])

/-- One part of a call on an attached source: up to its return or its wait, or the end of
its wait. -/
def consume (playback : ProgressivePlayback F) (tokens : CancellationTokens)
    (outputClosed : Bool) : ProgressivePlayback F × Playback F :=
  match playback.place with
  | .attached source =>
      match source.phase with
      | .checking =>
          let polled := source.check tokens outputClosed
          ({ playback with place := .attached polled.source }, polled.playback)
      | .waiting =>
          let received := playback.receive
          let polled := source.receive received.1
          ({ playback with place := .attached polled.source, channel := received.2 },
            polled.playback)
      | .ended => (playback, [])
  | _ => (playback, [])

end ProgressivePlayback

/-! ## Queueing -/

def newProducer (requestCancellation streamCancellation : CancellationToken) :
    ProgressivePlaybackProducer where
  requestCancellation := requestCancellation
  streamCancellation := streamCancellation
  publishedFrames := 0
  lastCueOffset := none
  pendingCues := []
  prebufferedAudioWindows := 0
  letterNavigation := false

/-- Queue one progressive speech source, once its predicate holds. The source is attached at
once to a queue without a device. -/
def queueProgressiveSpeech {F : Type} (control : AudioControl) (cancellation : CancellationToken)
    (null : Bool) (queue : QueueAnswer) : AudioControl × Except AudioError (ProgressivePlayback F) :=
  let control := if queue.backlogFull then control.replaceSpeechStop else control
  let source := ProgressivePlaybackSource.new cancellation control.speechStopCancellation
    (some SPEECH_STOP_FADE_FRAMES)
  let producer := newProducer cancellation control.speechStopCancellation
  if null then
    match queue.refusal with
    | some error => (control, .error error)
    | none => (control, .ok ⟨some producer, [], .attached source⟩)
  else
    (control, .ok ⟨some producer, [],
      .pendingAttachment source (control.scheduleGenerations .speech)⟩)

end Omnivox.Audio
