import Mathlib
import Omnivox.Audio.AudioBuffer
import Omnivox.Foundations.Fallible
import Omnivox.Foundations.Keyed

/-!
# Playback sources

A queue consumes a source one interleaved sample at a time. A source carries cues for
frame boundaries, watches the cancellation tokens of its request and of its stream, and
reports once how its playback ended. A source that has started fades out after a
cancellation, from a complete frame on.

A buffered source holds its samples. A progressive source receives them in windows while
it is consumed: it looks at its tokens, and only then waits for the next window.

Samples come out with the gain they are to be multiplied with; the gain `unity` is 1.0.
-/

set_option autoImplicit false

namespace Omnivox.Audio

open Foundations

/-- Number of interleaved channels. -/
def CHANNELS : Nat := 2

def SPEECH_STOP_FADE_FRAMES : Nat := sampleRate * 3 / 1000
def TONE_STOP_FADE_FRAMES : Nat := sampleRate * 5 / 1000

/-- The interleaved samples of a buffer. -/
def interleaved {F : Type} (audio : AudioBuffer F) : List F :=
  audio.flatMap fun frame => [frame.1, frame.2]

theorem length_interleaved {F : Type} (audio : AudioBuffer F) :
    (interleaved audio).length = CHANNELS * audio.length := by
  induction audio with
  | nil => rfl
  | cons frame rest ih =>
      have tail : (rest.flatMap fun frame => [frame.1, frame.2]).length = CHANNELS * rest.length := ih
      have whole : (frame :: rest).length = rest.length + 1 := rfl
      rw [interleaved, List.flatMap_cons, List.length_append, tail, whole, Nat.mul_succ, Nat.add_comm]
      rfl

/-! ## Tokens, tickets and cues -/

/-- A cancellation signal, told apart by the order in which it was made. -/
abbrev CancellationToken := Nat

/-- The tokens made so far, and the cancelled ones. -/
structure CancellationTokens where
  made : Nat
  cancelled : Finset CancellationToken
  cancelled_lt : ∀ token ∈ cancelled, token < made

namespace CancellationTokens

def isCancelled (tokens : CancellationTokens) (token : CancellationToken) : Bool :=
  decide (token ∈ tokens.cancelled)

/-- A token that nothing else holds. -/
def fresh (tokens : CancellationTokens) : CancellationTokens × CancellationToken :=
  ({ tokens with
    made := tokens.made + 1
    cancelled_lt := fun token member => Nat.lt_succ_of_lt (tokens.cancelled_lt token member) },
    tokens.made)

/-- Permanently mark a token as cancelled. -/
def cancel (tokens : CancellationTokens) (token : CancellationToken) : CancellationTokens where
  made := max tokens.made (token + 1)
  cancelled := insert token tokens.cancelled
  cancelled_lt other member := by
    rcases Finset.mem_insert.mp member with rfl | before
    · exact (Nat.lt_succ_self other).trans_le (Nat.le_max_right _ _)
    · exact (tokens.cancelled_lt other before).trans_le (Nat.le_max_left _ _)

theorem isCancelled_fresh (tokens : CancellationTokens) (token : CancellationToken) :
    tokens.fresh.1.isCancelled token = tokens.isCancelled token := rfl

theorem isCancelled_cancel (tokens : CancellationTokens) (token other : CancellationToken) :
    (tokens.cancel token).isCancelled other = (other == token || tokens.isCancelled other) := by
  simp only [isCancelled, cancel, Finset.mem_insert, Bool.decide_or]
  rfl

/-- A token that is made is not cancelled. -/
theorem not_isCancelled_made (tokens : CancellationTokens) :
    tokens.isCancelled tokens.made = false :=
  decide_eq_false fun member => absurd (tokens.cancelled_lt _ member) (Nat.lt_irrefl _)

end CancellationTokens

/-- Terminal state of one queued audio buffer. -/
inductive PlaybackStatus where
  | completed
  | cancelled
  deriving Repr, DecidableEq

/-- What a completion has told its ticket. -/
abbrev PlaybackCompletion := Option PlaybackStatus

/-- Only the first report counts. -/
def PlaybackCompletion.report (completion : PlaybackCompletion) (status : PlaybackStatus) :
    PlaybackCompletion :=
  match completion with
  | none => some status
  | some told => some told

/-- An opaque caller-defined cue attached to a canonical audio frame. -/
structure PlaybackCue where
  frameOffset : Nat
  identifier : Nat
  deriving Repr, DecidableEq

/-- Check the offsets and sort by them, cues of one frame as they were. -/
def preparePlaybackCues (cues : List PlaybackCue) (frameCount : Nat) :
    Except AudioError (List PlaybackCue) :=
  match cues.find? fun cue => decide (frameCount < cue.frameOffset) with
  | some cue => .error (.invalidFormat
      s!"playback cue {cue.identifier} offset {cue.frameOffset} exceeds buffer frame count {frameCount}")
  | none => .ok (sortBy PlaybackCue.frameOffset cues)

/-! ## Samples and gains -/

/-- A sample is multiplied by 1.0, or by the gain of a fade of so many frames at one of
them. -/
inductive Gain where
  | unity
  | smoothFade (fadeFrames frame : Nat)
  deriving Repr, DecidableEq

/-- What the consumer of a source sees: cue callbacks and samples. -/
abbrev Playback (F : Type) := List (PlaybackCue ⊕ (F × Gain))

/-- A source after one call, with the callbacks it made and the sample it returned. -/
structure Polled (Source F : Type) where
  source : Source
  cues : List PlaybackCue
  sample : Option (F × Gain)

def Polled.playback {Source F : Type} (polled : Polled Source F) : Playback F :=
  polled.cues.map Sum.inl ++ polled.sample.toList.map Sum.inr

/-- Interleaved samples and the next of them. -/
structure BufferSource (F : Type) where
  samples : List F
  position : Nat
  deriving Repr, DecidableEq

namespace BufferSource

variable {F : Type}

def new (samples : List F) : BufferSource F where
  samples := samples
  position := 0

def next (source : BufferSource F) : BufferSource F × Option F :=
  match source.samples[source.position]? with
  | some sample => ({ source with position := source.position + 1 }, some sample)
  | none => (source, none)

/-- The samples that are left. -/
def rest (source : BufferSource F) : List F := source.samples.drop source.position

theorem next_of_nil {source : BufferSource F} (ended : source.rest = []) :
    source.next = (source, none) := by
  have past : source.samples.length ≤ source.position := List.drop_eq_nil_iff.mp ended
  rw [next, List.getElem?_eq_none past]

theorem next_of_cons {source : BufferSource F} {sample : F} {more : List F}
    (left : source.rest = sample :: more) :
    source.next = ({ source with position := source.position + 1 }, some sample) ∧
      rest { source with position := source.position + 1 } = more := by
  have found : source.samples[source.position]? = some sample := by
    rw [← List.head?_drop, ← rest, left, List.head?_cons]
  have tail : source.samples.drop (source.position + 1) = more := by
    rw [← List.tail_drop, ← rest, left, List.tail_cons]
  rw [next, found]
  exact ⟨rfl, tail⟩

end BufferSource

/-! ## Cancellation of a source -/

inductive CancellationFadeState where
  | playing
  | fading (samplesEmitted : Nat)
  | finished
  deriving Repr, DecidableEq

/-- Per-source cancellation which can de-click an active source. -/
structure PlaybackCancellation where
  request : Option CancellationToken
  stream : Option CancellationToken
  fadeFrames : Option Nat
  state : CancellationFadeState
  deriving Repr, DecidableEq

namespace PlaybackCancellation

def new (request stream : Option CancellationToken) (fadeFrames : Option Nat) :
    PlaybackCancellation where
  request := request
  stream := stream
  fadeFrames := fadeFrames
  state := .playing

def isRequested (cancellation : PlaybackCancellation) (tokens : CancellationTokens) : Bool :=
  cancellation.request.any tokens.isCancelled || cancellation.stream.any tokens.isCancelled

def hasBegun (cancellation : PlaybackCancellation) : Bool :=
  cancellation.state != .playing

def fadeSamples (cancellation : PlaybackCancellation) : Nat :=
  cancellation.fadeFrames.getD 0 * CHANNELS

/-- The next sample of a fade. -/
def fade (cancellation : PlaybackCancellation) (samplesEmitted : Nat) :
    PlaybackCancellation × Option Gain :=
  let gain := Gain.smoothFade (cancellation.fadeFrames.getD 0) (samplesEmitted / CHANNELS)
  if cancellation.fadeSamples ≤ samplesEmitted + 1 then
    ({ cancellation with state := .finished }, some gain)
  else ({ cancellation with state := .fading (samplesEmitted + 1) }, some gain)

/-- The gain for the next sample, or none once cancellation is terminal. The position is
that of the next interleaved sample. -/
def nextGain (cancellation : PlaybackCancellation) (tokens : CancellationTokens)
    (position : Nat) : PlaybackCancellation × Option Gain :=
  match cancellation.state with
  | .finished => (cancellation, none)
  | .fading samplesEmitted => cancellation.fade samplesEmitted
  | .playing =>
      if position % CHANNELS = 0 ∧ cancellation.isRequested tokens = true then
        if position = 0 ∨ cancellation.fadeSamples = 0 then
          ({ cancellation with state := .finished }, none)
        else cancellation.fade 0
      else (cancellation, some .unity)

/-- Without a cancellation the gain is unity. -/
theorem nextGain_of_unrequested {cancellation : PlaybackCancellation}
    {tokens : CancellationTokens} (playing : cancellation.state = .playing)
    (unrequested : cancellation.isRequested tokens = false) (position : Nat) :
    cancellation.nextGain tokens position = (cancellation, some .unity) := by
  rw [nextGain, playing]
  dsimp only
  rw [if_neg]
  rintro ⟨-, requested⟩
  rw [unrequested] at requested
  cases requested

end PlaybackCancellation

/-! ## Buffered sources -/

/-- Buffer source that reports natural exhaustion and cancellation distinctly, and calls
back at its cues. -/
structure TrackedBufferSource (F : Type) where
  inner : BufferSource F
  completion : PlaybackCompletion
  cancellation : PlaybackCancellation
  cues : List PlaybackCue
  nextCue : Nat
  deriving Repr, DecidableEq

namespace TrackedBufferSource

variable {F : Type}

def newWithCueOptions (samples : List F) (cues : List PlaybackCue)
    (requestCancellation streamCancellation : Option CancellationToken)
    (fadeFrames : Option Nat) : TrackedBufferSource F where
  inner := .new samples
  completion := none
  cancellation := .new requestCancellation streamCancellation fadeFrames
  cues := cues
  nextCue := 0

/-- The cues of the current frame, at a frame boundary. -/
def reportCuesAtCurrentFrame (source : TrackedBufferSource F) :
    TrackedBufferSource F × List PlaybackCue :=
  if source.inner.position % CHANNELS ≠ 0 then (source, [])
  else
    let due := (source.cues.drop source.nextCue).takeWhile fun cue =>
      cue.frameOffset == source.inner.position / CHANNELS
    ({ source with nextCue := source.nextCue + due.length }, due)

def report (source : TrackedBufferSource F) (status : PlaybackStatus) : TrackedBufferSource F :=
  { source with completion := source.completion.report status }

/-- The part of a call after the cancellation let it through. -/
def advance (source : TrackedBufferSource F) (tokens : CancellationTokens) (gain : Gain) :
    Polled (TrackedBufferSource F) F :=
  let reported := if source.cancellation.hasBegun then (source, [])
    else source.reportCuesAtCurrentFrame
  let advanced := reported.1.inner.next
  let source := { reported.1 with inner := advanced.1 }
  match advanced.2 with
  | some sample => ⟨source, reported.2, some (sample, gain)⟩
  | none =>
      let status := if source.cancellation.hasBegun || source.cancellation.isRequested tokens
        then PlaybackStatus.cancelled else .completed
      ⟨source.report status, reported.2, none⟩

def next (source : TrackedBufferSource F) (tokens : CancellationTokens) :
    Polled (TrackedBufferSource F) F :=
  let gained := source.cancellation.nextGain tokens source.inner.position
  let source := { source with cancellation := gained.1 }
  match gained.2 with
  | none => ⟨source.report .cancelled, [], none⟩
  | some gain => source.advance tokens gain

/-- So many calls, or as many as it takes to the end. -/
def play (tokens : CancellationTokens) :
    Nat → TrackedBufferSource F → TrackedBufferSource F × Playback F
  | 0, source => (source, [])
  | calls + 1, source =>
      let polled := source.next tokens
      match polled.sample with
      | none => (polled.source, polled.playback)
      | some _ =>
          let played := play tokens calls polled.source
          (played.1, polled.playback ++ played.2)

end TrackedBufferSource

/-! ## Progressive sources -/

/-- A source that checks its tokens, waits for its channel, or has returned its last. -/
inductive SourcePhase where
  | checking
  | waiting
  | ended
  deriving Repr, DecidableEq

/-- What a wait for the channel comes to. -/
inductive Received (F : Type) where
  | audio (samples : List F) (cues : List PlaybackCue)
  | complete (cues : List PlaybackCue)
  | timeout
  | disconnected
  deriving Repr, DecidableEq

/-- Tracked source that stays alive while bounded PCM windows arrive. -/
structure ProgressivePlaybackSource (F : Type) where
  current : BufferSource F
  position : Nat
  completion : PlaybackCompletion
  cancellation : PlaybackCancellation
  cues : List PlaybackCue
  phase : SourcePhase
  deriving Repr, DecidableEq

namespace ProgressivePlaybackSource

variable {F : Type}

def new (requestCancellation streamCancellation : CancellationToken) (fadeFrames : Option Nat) :
    ProgressivePlaybackSource F where
  current := .new []
  position := 0
  completion := none
  cancellation := .new (some requestCancellation) (some streamCancellation) fadeFrames
  cues := []
  phase := .checking

/-- The cues of the current frame, at a frame boundary. -/
def reportCuesAtCurrentFrame (source : ProgressivePlaybackSource F) :
    ProgressivePlaybackSource F × List PlaybackCue :=
  if source.position % CHANNELS ≠ 0 then (source, [])
  else
    let due := source.cues.takeWhile fun cue => cue.frameOffset == source.position / CHANNELS
    ({ source with cues := source.cues.drop due.length }, due)

def report (source : ProgressivePlaybackSource F) (status : PlaybackStatus) :
    ProgressivePlaybackSource F :=
  { source with completion := source.completion.report status }

/-- Report, and return the end. -/
def finish (source : ProgressivePlaybackSource F) (status : PlaybackStatus) :
    ProgressivePlaybackSource F :=
  { source.report status with phase := .ended }

/-- A call up to the point where it returns or has to wait for its channel. Its output may
have been closed. -/
def check (source : ProgressivePlaybackSource F) (tokens : CancellationTokens)
    (outputClosed : Bool) : Polled (ProgressivePlaybackSource F) F :=
  if outputClosed then ⟨source.finish .cancelled, [], none⟩
  else
    let gained := source.cancellation.nextGain tokens source.position
    let source := { source with cancellation := gained.1 }
    match gained.2 with
    | none => ⟨source.finish .cancelled, [], none⟩
    | some gain =>
        let reported := if source.cancellation.hasBegun then (source, [])
          else source.reportCuesAtCurrentFrame
        let advanced := reported.1.current.next
        match advanced.2 with
        | some sample =>
            ⟨{ reported.1 with current := advanced.1, position := reported.1.position + 1 },
              reported.2, some (sample, gain)⟩
        | none =>
            if source.cancellation.hasBegun then ⟨reported.1.finish .cancelled, reported.2, none⟩
            else ⟨{ reported.1 with phase := .waiting }, reported.2, none⟩

/-- The end of a wait. -/
def receive (source : ProgressivePlaybackSource F) :
    Received F → Polled (ProgressivePlaybackSource F) F
  | .audio samples cues =>
      ⟨{ source with
        cues := source.cues ++ cues
        current := .new samples
        phase := .checking }, [], none⟩
  | .complete cues =>
      let reported := { source with cues := source.cues ++ cues }.reportCuesAtCurrentFrame
      let status := if reported.1.cues.isEmpty then PlaybackStatus.completed else .cancelled
      ⟨reported.1.finish status, reported.2, none⟩
  | .timeout => ⟨{ source with phase := .checking }, [], none⟩
  | .disconnected => ⟨source.finish .cancelled, [], none⟩

end ProgressivePlaybackSource

end Omnivox.Audio
