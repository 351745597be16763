import Mathlib
import Omnivox.Audio.BufferedPlayback
import Omnivox.Audio.ProgressivePlayback

/-!
# Runs of a progressive playback

A run is any sequence of calls of the producer and parts of calls of the consumer, in any
order, while nothing is cancelled. Beside it books are kept of the samples that were
published and of the cues that were accepted and sent.

What was played, what the source still holds and what is in the channel make up what was
published, and every cue that is not called back yet is ahead of the source (`Plays`). A
pending source has at most two windows in its channel (`Held`).
-/

set_option autoImplicit false

namespace Omnivox.Audio

open Foundations

variable {F : Type}

/-! ## The source without a cancellation -/

namespace ProgressivePlaybackSource

theorem reportCuesAtCurrentFrame_eq (source : ProgressivePlaybackSource F) :
    source.reportCuesAtCurrentFrame =
      ({ source with cues := source.cues.drop (dueCues source.position source.cues).length },
        dueCues source.position source.cues) := by
  unfold reportCuesAtCurrentFrame dueCues
  split
  · rfl
  · rfl

/-- The source once the cues that are due were called back. -/
def called (source : ProgressivePlaybackSource F) : ProgressivePlaybackSource F :=
  { source with cues := source.cues.drop (dueCues source.position source.cues).length }

variable {source : ProgressivePlaybackSource F} {tokens : CancellationTokens}

/-- In a window, a call returns the next sample. -/
theorem check_of_cons (playing : source.cancellation.state = .playing)
    (unrequested : source.cancellation.isRequested tokens = false) {sample : F} {more : List F}
    (left : source.current.rest = sample :: more) :
    source.check tokens false =
      ⟨{ source.called with
          current := { source.current with position := source.current.position + 1 }
          position := source.position + 1 },
        dueCues source.position source.cues, some (sample, .unity)⟩ := by
  have begun := TrackedBufferSource.hasBegun_of_playing playing
  have moved := (BufferSource.next_of_cons left).1
  simp only [check, Bool.false_eq_true, if_false,
    PlaybackCancellation.nextGain_of_unrequested playing unrequested, begun,
    reportCuesAtCurrentFrame_eq, moved, called]

/-- After a window, a call waits for the channel. -/
theorem check_of_nil (playing : source.cancellation.state = .playing)
    (unrequested : source.cancellation.isRequested tokens = false)
    (ended : source.current.rest = []) :
    source.check tokens false =
      ⟨{ source.called with phase := .waiting }, dueCues source.position source.cues, none⟩ := by
  have begun := TrackedBufferSource.hasBegun_of_playing playing
  have stays := BufferSource.next_of_nil ended
  simp only [check, Bool.false_eq_true, if_false,
    PlaybackCancellation.nextGain_of_unrequested playing unrequested, begun,
    reportCuesAtCurrentFrame_eq, stays, called]

end ProgressivePlaybackSource

/-! ## The channel -/

def channelSamples (channel : List (ProgressivePlaybackMessage F)) : List F :=
  channel.flatMap fun
    | .audio samples _ => samples
    | .complete _ => []

def channelCues (channel : List (ProgressivePlaybackMessage F)) : List PlaybackCue :=
  channel.flatMap fun
    | .audio _ cues => cues
    | .complete cues => cues

theorem channelSamples_append (channel : List (ProgressivePlaybackMessage F))
    (message : ProgressivePlaybackMessage F) :
    channelSamples (channel ++ [message]) = channelSamples channel ++ channelSamples [message] :=
  List.flatMap_append

theorem channelCues_append (channel : List (ProgressivePlaybackMessage F))
    (message : ProgressivePlaybackMessage F) :
    channelCues (channel ++ [message]) = channelCues channel ++ channelCues [message] :=
  List.flatMap_append

/-- Windows of whole frames, each with cues that are not behind its start, and the end as
the last message of a finished stream. -/
def ChannelFlows (finished : Bool) : Nat → List (ProgressivePlaybackMessage F) → Prop
  | _, [] => finished = false
  | start, .audio samples cues :: rest =>
      samples.length % CHANNELS = 0 ∧ CuesAhead start cues ∧
        ChannelFlows finished (start + samples.length) rest
  | start, .complete cues :: rest => finished = true ∧ rest = [] ∧ CuesAhead start cues

/-- One more window. -/
theorem ChannelFlows.window {start : Nat} {channel : List (ProgressivePlaybackMessage F)}
    (flows : ChannelFlows false start channel) {samples : List F} {cues : List PlaybackCue}
    (whole : samples.length % CHANNELS = 0)
    (ahead : CuesAhead (start + (channelSamples channel).length) cues) :
    ChannelFlows false start (channel ++ [.audio samples cues]) := by
  induction channel generalizing start with
  | nil => exact ⟨whole, ahead, rfl⟩
  | cons message rest ih =>
      cases message with
      | audio window early =>
          obtain ⟨frames, first, further⟩ := flows
          refine ⟨frames, first, ih further ?_⟩
          rw [Nat.add_assoc, ← List.length_append]
          exact ahead
      | complete early => exact absurd flows.1 (Bool.false_ne_true)

/-- The end of the stream. -/
theorem ChannelFlows.ending {start : Nat} {channel : List (ProgressivePlaybackMessage F)}
    (flows : ChannelFlows false start channel) {cues : List PlaybackCue}
    (ahead : CuesAhead (start + (channelSamples channel).length) cues) :
    ChannelFlows true start (channel ++ [.complete cues]) := by
  induction channel generalizing start with
  | nil => exact ⟨rfl, rfl, ahead⟩
  | cons message rest ih =>
      cases message with
      | audio window early =>
          obtain ⟨frames, first, further⟩ := flows
          refine ⟨frames, first, ih further ?_⟩
          rw [Nat.add_assoc, ← List.length_append]
          exact ahead
      | complete early => exact absurd flows.1 (Bool.false_ne_true)

/-! ## Histories -/

/-- The samples that were published, the cues that were accepted, those that were sent, and
whether the end was. -/
structure PlaybackBooks (F : Type) where
  pushed : List F
  accepted : List PlaybackCue
  sent : List PlaybackCue
  finished : Bool
  deriving Repr, DecidableEq

/-- A playback with its control, its books, what was played, and how often the source was
attached. -/
structure ProgressiveHistory (F : Type) where
  control : AudioControl
  playback : ProgressivePlayback F
  books : PlaybackBooks F
  played : Playback F
  attachments : Nat

inductive PlaybackStep (F : Type) where
  | useLetterNavigationPrebuffer
  | pushAudio (audio : AudioBuffer F) (queue : QueueAnswer)
  | pushCues (cues : List PlaybackCue)
  | finish (queue : QueueAnswer)
  | drop
  | consume
  deriving Repr, DecidableEq

def SourcePlace.isAttached : SourcePlace F → Bool
  | .attached _ => true
  | _ => false

namespace ProgressiveHistory

/-- After a call of the producer: an accepted call is entered in the books. -/
def record (history : ProgressiveHistory F) (produced : Produced F)
    (entered : PlaybackBooks F) : ProgressiveHistory F where
  control := produced.control
  playback := produced.playback
  books := match produced.answer with
    | some (.ok ()) => entered
    | _ => history.books
  played := history.played
  attachments := history.attachments +
    if !history.playback.place.isAttached && produced.playback.place.isAttached then 1 else 0

def consume (history : ProgressiveHistory F) : ProgressiveHistory F :=
  let consumed := history.playback.consume history.control.tokens false
  { history with playback := consumed.1, played := history.played ++ consumed.2 }

/-- One step while there is a producer. -/
def call (history : ProgressiveHistory F) (producer : ProgressivePlaybackProducer) :
    PlaybackStep F → ProgressiveHistory F
  | .useLetterNavigationPrebuffer =>
      history.record (history.playback.useLetterNavigationPrebuffer producer history.control)
        history.books
  | .pushAudio audio queue =>
      history.record (history.playback.pushAudio producer history.control queue audio)
        { history.books with
          pushed := history.books.pushed ++ interleaved audio
          sent := history.books.sent ++ producer.pendingCues }
  | .pushCues cues =>
      history.record (history.playback.pushCues producer history.control cues)
        { history.books with accepted := history.books.accepted ++ cues }
  | .finish queue =>
      history.record (history.playback.finish producer history.control queue)
        { history.books with sent := history.books.sent ++ producer.pendingCues, finished := true }
  | .drop => { history with playback := history.playback.dropProducer }
  | .consume => history.consume

/-- One step of the producer or of the consumer. A producer that is dropped makes no call. -/
def next (history : ProgressiveHistory F) (step : PlaybackStep F) : ProgressiveHistory F :=
  match history.playback.producer with
  | some producer => history.call producer step
  | none =>
      match step with
      | .consume => history.consume
      | _ => history

def run (history : ProgressiveHistory F) (steps : List (PlaybackStep F)) : ProgressiveHistory F :=
  steps.foldl next history

/-- A playback that was just queued. -/
def start (control : AudioControl) (playback : ProgressivePlayback F) : ProgressiveHistory F where
  control := control
  playback := playback
  books := { pushed := [], accepted := [], sent := [], finished := false }
  played := []
  attachments := if playback.place.isAttached then 1 else 0

/-- So many parts of calls of the consumer. -/
def drained (history : ProgressiveHistory F) : Nat → ProgressiveHistory F
  | 0 => history
  | parts + 1 => history.consume.drained parts

def ticket (history : ProgressiveHistory F) : PlaybackCompletion := history.playback.place.ticket

end ProgressiveHistory

/-! ## Invariants -/

/-- The cues were accepted in order, and those that were sent are the first of them. When
the end was sent, all cues were, and none is beyond the end. -/
structure PlaybackBooks.Kept (books : PlaybackBooks F) : Prop where
  ordered : CuesOrdered books.accepted
  sent : books.sent <+: books.accepted
  finished : books.finished = true →
    books.sent = books.accepted ∧ ∀ cue ∈ books.accepted, cue.time ≤ books.pushed.length

/-- The tokens of a producer are not cancelled: that of its request, which is no stop token,
and that of its stream, which is the stop token in place. -/
structure ProducerTokens (control : AudioControl) (producer : ProgressivePlaybackProducer) :
    Prop where
  request_active : control.tokens.isCancelled producer.requestCancellation = false
  request_made : producer.requestCancellation < control.tokens.made
  request_private : producer.requestCancellation ≠ control.speechStopCancellation
  stream : producer.streamCancellation = control.speechStopCancellation

/-- The producer knows what the books say. -/
structure ProducerFlows (books : PlaybackBooks F) (producer : ProgressivePlaybackProducer) :
    Prop where
  published : CHANNELS * producer.publishedFrames = books.pushed.length
  cues : books.sent ++ producer.pendingCues = books.accepted
  last : ∀ cue ∈ books.accepted,
    ∃ offset, producer.lastCueOffset = some offset ∧ cue.frameOffset ≤ offset
  ahead : ∀ cue ∈ producer.pendingCues, producer.publishedFrames ≤ cue.frameOffset
  unfinished : books.finished = false

/-- A pending source is as new, and everything that was sent is in its channel. -/
structure Fresh (books : PlaybackBooks F) (control : AudioControl)
    (channel : List (ProgressivePlaybackMessage F)) (producer : ProgressivePlaybackProducer)
    (source : ProgressivePlaybackSource F) (generation : Nat) : Prop where
  source : source = .new producer.requestCancellation producer.streamCancellation
    (some SPEECH_STOP_FADE_FRAMES)
  generation : generation = control.scheduleGenerations .speech
  flows : ChannelFlows books.finished 0 channel
  samples : channelSamples channel = books.pushed
  cues : channelCues channel = books.sent

/-- Between the calls of the producer the channel of a pending source has fewer windows
than the source is attached with. -/
structure Held (books : PlaybackBooks F) (control : AudioControl)
    (channel : List (ProgressivePlaybackMessage F)) (producer : ProgressivePlaybackProducer)
    (source : ProgressivePlaybackSource F) (generation : Nat) : Prop
    extends Fresh books control channel producer source generation where
  windows : channel.length = producer.prebufferedAudioWindows
  unprimed : producer.primed = false

/-- What the phase of an attached source says. A source that has ended has played what was
published, and completed exactly when the stream was finished. -/
def PhaseKept (books : PlaybackBooks F) (playback : ProgressivePlayback F)
    (source : ProgressivePlaybackSource F) : Prop :=
  match source.phase with
  | .checking =>
      source.completion = none ∧ CuesAhead source.position source.cues ∧
        ChannelFlows books.finished (source.position + source.current.rest.length) playback.channel
  | .waiting =>
      source.completion = none ∧ source.current.rest = [] ∧
        CuesAhead (source.position + 1) source.cues ∧
        ChannelFlows books.finished source.position playback.channel
  | .ended =>
      source.completion =
          some (if books.finished then PlaybackStatus.completed else .cancelled) ∧
        source.current.rest = [] ∧ CuesAhead (source.position + 1) source.cues ∧
        playback.channel = [] ∧ playback.producer = none ∧
        (books.finished = true → source.cues = [])

/-- An attached source on its way through what was published. -/
structure Plays (books : PlaybackBooks F) (tokens : CancellationTokens)
    (playback : ProgressivePlayback F) (played : Playback F)
    (source : ProgressivePlaybackSource F) : Prop where
  samples : ticks played ++
      (source.current.rest ++ channelSamples playback.channel).map (·, Gain.unity) =
    books.pushed.map (·, Gain.unity)
  cues : marks played ++ (source.cues ++ channelCues playback.channel) = books.sent
  timed : TimedFrom PlaybackCue.time 0 played
  position : source.position = (ticks played).length
  whole : (source.position + source.current.rest.length) % CHANNELS = 0
  playing : source.cancellation.state = .playing
  unrequested : source.cancellation.isRequested tokens = false
  phase : PhaseKept books playback source

/-- A history without cancellations, by the place of the source. -/
def Consistent (history : ProgressiveHistory F) : Prop :=
  match history.playback.place with
  | .pendingAttachment source generation =>
      history.books.Kept ∧ history.attachments = 0 ∧ history.played = [] ∧
        ∃ producer, history.playback.producer = some producer ∧
          ProducerTokens history.control producer ∧ ProducerFlows history.books producer ∧
          Held history.books history.control history.playback.channel producer source generation
  | .attached source =>
      history.books.Kept ∧ history.attachments = 1 ∧
        (∀ producer, history.playback.producer = some producer →
          ProducerTokens history.control producer ∧ ProducerFlows history.books producer) ∧
        Plays history.books history.control.tokens history.playback history.played source
  | .dropped completion =>
      completion = some .cancelled ∧ history.books.finished = false ∧ history.attachments = 0 ∧
        history.played = []

/-! ## The consumer keeps the invariant -/

section Consumer

variable {books : PlaybackBooks F} {tokens : CancellationTokens}
  {playback : ProgressivePlayback F} {played : Playback F} {source : ProgressivePlaybackSource F}

/-- What the source holds is in order. -/
theorem Plays.ordered (plays : Plays books tokens playback played source) (kept : books.Kept) :
    CuesOrdered source.cues := by
  have sent : CuesOrdered books.sent := kept.ordered.sublist kept.sent.sublist
  rw [← plays.cues] at sent
  exact (List.pairwise_append.mp (CuesOrdered.suffix sent)).1

/-- What was played, what is held and what is in the channel is what was published. -/
theorem Plays.length (plays : Plays books tokens playback played source) :
    source.position + (source.current.rest.length + (channelSamples playback.channel).length) =
      books.pushed.length := by
  have lengths := congrArg List.length plays.samples
  rw [List.length_append, List.length_map, List.length_map, List.length_append,
    ← plays.position] at lengths
  exact lengths

/-- The callbacks of a part of a call, each at its time. -/
theorem Plays.called_timed (plays : Plays books tokens playback played source) (kept : books.Kept)
    (ahead : CuesAhead source.position source.cues) :
    TimedFrom PlaybackCue.time 0
        (played ++ (dueCues source.position source.cues).map Sum.inl) ∧
      marks (played ++ (dueCues source.position source.cues).map Sum.inl) ++
        (source.called.cues ++ channelCues playback.channel) = books.sent ∧
      CuesAhead (source.position + 1) source.called.cues := by
  obtain ⟨parts, due, later⟩ := dueCues_spec (plays.ordered kept) ahead
  refine ⟨?_, ?_, later⟩
  · rw [timedFrom_append]
    refine ⟨plays.timed, ?_⟩
    rw [Nat.zero_add, ← plays.position]
    exact timedFrom_map_inl due
  · rw [marks_append, marks_map_inl, List.append_assoc, ← List.append_assoc (dueCues _ _)]
    have whole : dueCues source.position source.cues ++ source.called.cues = source.cues := parts
    rw [whole]
    exact plays.cues

theorem Plays.sample (plays : Plays books tokens playback played source) (kept : books.Kept)
    (checking : source.phase = .checking) {sample : F} {more : List F}
    (left : source.current.rest = sample :: more) :
    Plays books tokens
      { playback with place := .attached (source.check tokens false).source }
      (played ++ (source.check tokens false).playback) (source.check tokens false).source := by
  have phase := plays.phase
  rw [PhaseKept, checking] at phase
  obtain ⟨untold, ahead, flows⟩ := phase
  obtain ⟨timed, cues, later⟩ := plays.called_timed kept ahead
  rw [ProgressivePlaybackSource.check_of_cons plays.playing plays.unrequested left]
  have tail := (BufferSource.next_of_cons left).2
  have start : source.position + 1 + more.length =
      source.position + source.current.rest.length := by
    rw [left, List.length_cons]
    omega
  have out : played ++ Polled.playback
        (⟨{ source.called with
              current := { source.current with position := source.current.position + 1 }
              position := source.position + 1 },
            dueCues source.position source.cues, some (sample, .unity)⟩ :
          Polled (ProgressivePlaybackSource F) F) =
      played ++ (dueCues source.position source.cues).map Sum.inl ++ [Sum.inr (sample, .unity)] := by
    rw [Polled.playback, List.append_assoc]
    rfl
  rw [out]
  refine ⟨?_, ?_, ?_, ?_, ?_, plays.playing, plays.unrequested, ?_⟩
  · have before := plays.samples
    rw [left] at before
    rw [ticks_append, ticks_append, ticks_map_inl, List.append_nil]
    dsimp only
    rw [tail, ← before, List.append_assoc]
    rfl
  · rw [marks_append]
    simpa using cues
  · rw [timedFrom_append]
    exact ⟨timed, trivial⟩
  · rw [ticks_append, ticks_append, ticks_map_inl, List.append_nil, List.length_append,
      ← plays.position]
    rfl
  · dsimp only
    rw [tail, start]
    exact plays.whole
  · rw [PhaseKept]
    have same : source.called.phase = .checking := checking
    rw [same]
    refine ⟨untold, later, ?_⟩
    dsimp only
    rw [tail, start]
    exact flows

theorem Plays.wait (plays : Plays books tokens playback played source) (kept : books.Kept)
    (checking : source.phase = .checking) (ended : source.current.rest = []) :
    Plays books tokens
      { playback with place := .attached (source.check tokens false).source }
      (played ++ (source.check tokens false).playback) (source.check tokens false).source := by
  have phase := plays.phase
  rw [PhaseKept, checking] at phase
  obtain ⟨untold, ahead, flows⟩ := phase
  obtain ⟨timed, cues, later⟩ := plays.called_timed kept ahead
  rw [ProgressivePlaybackSource.check_of_nil plays.playing plays.unrequested ended]
  have out : played ++ Polled.playback
        (⟨{ source.called with phase := .waiting }, dueCues source.position source.cues, none⟩ :
          Polled (ProgressivePlaybackSource F) F) =
      played ++ (dueCues source.position source.cues).map Sum.inl := by
    rw [Polled.playback]
    simp
  rw [out]
  refine ⟨?_, cues, timed, ?_, plays.whole, plays.playing, plays.unrequested, ?_⟩
  · rw [ticks_append, ticks_map_inl, List.append_nil]
    exact plays.samples
  · rw [ticks_append, ticks_map_inl, List.append_nil]
    exact plays.position
  · refine ⟨untold, ended, later, ?_⟩
    rw [ended] at flows
    exact flows

theorem whole_add {first second : Nat} (whole : first % CHANNELS = 0)
    (whole' : second % CHANNELS = 0) : (first + second) % CHANNELS = 0 := by
  rw [Nat.add_mod, whole, whole']
  rfl

/-- The end of a wait by a window: the source goes on with it. -/
theorem Plays.window (plays : Plays books tokens playback played source)
    (waiting : source.phase = .waiting) {window : List F} {more : List PlaybackCue}
    {rest : List (ProgressivePlaybackMessage F)}
    (queued : playback.channel = .audio window more :: rest) :
    Plays books tokens
      { playback with
        place := .attached (source.receive (.audio window more)).source
        channel := rest }
      played (source.receive (.audio window more)).source := by
  have phase := plays.phase
  rw [PhaseKept, waiting, queued] at phase
  obtain ⟨untold, ended, ahead, frames, early, further⟩ := phase
  have whole := plays.whole
  have samples := plays.samples
  have cues := plays.cues
  rw [ended] at whole samples
  rw [queued] at samples cues
  refine ⟨samples, ?_, plays.timed, plays.position, ?_, plays.playing, plays.unrequested, ?_⟩
  · rw [← cues]
    exact congrArg (marks played ++ ·) (List.append_assoc _ _ _)
  · exact whole_add whole frames
  · refine ⟨untold, ?_, further⟩
    intro cue member
    rcases List.mem_append.mp member with held | arrived
    · exact (Nat.le_succ _).trans (ahead cue held)
    · exact early cue arrived

/-- The end of a wait by the end of the stream: the cues that are left are due now, and the
source completes. -/
theorem Plays.complete (plays : Plays books tokens playback played source) (kept : books.Kept)
    (waiting : source.phase = .waiting) (gone : playback.producer = none)
    {more : List PlaybackCue} {rest : List (ProgressivePlaybackMessage F)}
    (queued : playback.channel = .complete more :: rest) :
    Plays books tokens
      { playback with place := .attached (source.receive (.complete more)).source, channel := rest }
      (played ++ (source.receive (.complete more)).playback)
      (source.receive (.complete more)).source := by
  have phase := plays.phase
  rw [PhaseKept, waiting, queued] at phase
  obtain ⟨untold, ended, ahead, finished, last, early⟩ := phase
  have whole := plays.whole
  have samples := plays.samples
  have cues := plays.cues
  have length := plays.length
  rw [ended] at whole samples length
  rw [queued] at samples cues length
  subst last
  obtain ⟨all, within⟩ := kept.finished finished
  have total : source.position = books.pushed.length := length
  have here : ∀ cue ∈ source.cues ++ more, cue.time = source.position := by
    intro cue member
    have accepted : cue ∈ books.accepted := by
      rw [← all, ← cues]
      exact List.mem_append_right _ (by simpa [channelCues] using member)
    have bound : cue.time ≤ source.position := total ▸ within cue accepted
    rcases List.mem_append.mp member with held | arrived
    · exact le_antisymm bound ((Nat.le_succ _).trans (ahead cue held))
    · exact le_antisymm bound (early cue arrived)
  have due : dueCues source.position (source.cues ++ more) = source.cues ++ more :=
    dueCues_all here whole
  have received : source.receive (.complete more) =
      ⟨{ source with
          cues := []
          completion := source.completion.report .completed
          phase := .ended }, source.cues ++ more, none⟩ := by
    simp only [ProgressivePlaybackSource.receive,
      ProgressivePlaybackSource.reportCuesAtCurrentFrame_eq, due, List.drop_length,
      List.isEmpty_nil, if_true]
    rfl
  have out : played ++ (source.receive (.complete more)).playback =
      played ++ (source.cues ++ more).map Sum.inl := by
    rw [received, Polled.playback]
    simp
  rw [out, received]
  refine ⟨?_, ?_, ?_, ?_, ?_, plays.playing, plays.unrequested, ?_⟩
  · rw [ticks_append, ticks_map_inl, List.append_nil]
    dsimp only
    rw [ended]
    exact samples
  · rw [marks_append, marks_map_inl, ← cues]
    simp [channelCues]
  · rw [timedFrom_append, Nat.zero_add, ← plays.position]
    exact ⟨plays.timed, timedFrom_map_inl here⟩
  · rw [ticks_append, ticks_map_inl, List.append_nil]
    exact plays.position
  · dsimp only
    rw [ended]
    exact whole
  · refine ⟨?_, ended, fun _ member => absurd member List.not_mem_nil, rfl, gone, fun _ => rfl⟩
    rw [untold, finished]
    rfl

/-- A source that only changes its phase. -/
theorem Plays.rephase (plays : Plays books tokens playback played source)
    {completion : PlaybackCompletion} {phase : SourcePhase}
    (keeps : PhaseKept books playback { source with completion := completion, phase := phase }) :
    Plays books tokens
      { playback with
        place := .attached { source with completion := completion, phase := phase } }
      played { source with completion := completion, phase := phase } :=
  ⟨plays.samples, plays.cues, plays.timed, plays.position, plays.whole, plays.playing,
    plays.unrequested, keeps⟩

/-- The end of a wait without a message. -/
theorem Plays.timeout (plays : Plays books tokens playback played source)
    (waiting : source.phase = .waiting) :
    Plays books tokens
      { playback with place := .attached (source.receive .timeout).source } played
      (source.receive .timeout).source := by
  have phase := plays.phase
  rw [PhaseKept, waiting] at phase
  obtain ⟨untold, ended, ahead, flows⟩ := phase
  refine plays.rephase ⟨untold, fun cue member => (Nat.le_succ _).trans (ahead cue member), ?_⟩
  dsimp only
  rw [ended]
  exact flows

/-- The end of a wait for a producer that was dropped. -/
theorem Plays.disconnected (plays : Plays books tokens playback played source)
    (waiting : source.phase = .waiting) (gone : playback.producer = none)
    (empty : playback.channel = []) :
    Plays books tokens
      { playback with place := .attached (source.receive .disconnected).source } played
      (source.receive .disconnected).source := by
  have phase := plays.phase
  rw [PhaseKept, waiting, empty] at phase
  obtain ⟨untold, ended, ahead, unfinished⟩ := phase
  have unfinished : books.finished = false := unfinished
  refine plays.rephase ⟨?_, ended, ahead, empty, gone, ?_⟩
  · rw [unfinished]
    exact congrArg (PlaybackCompletion.report · .cancelled) untold
  · intro finished
    rw [unfinished] at finished
    cases finished

/-- **A part of a call of the consumer** keeps what was published in order. -/
theorem Plays.consume (plays : Plays books tokens playback played source) (kept : books.Kept)
    (place : playback.place = .attached source)
    (unfinished : ∀ producer, playback.producer = some producer → books.finished = false) :
    ∃ source', (playback.consume tokens false).1.place = .attached source' ∧
      (playback.consume tokens false).1.producer = playback.producer ∧
      Plays books tokens (playback.consume tokens false).1
        (played ++ (playback.consume tokens false).2) source' := by
  unfold ProgressivePlayback.consume
  rw [place]
  dsimp only
  cases phase : source.phase with
  | checking =>
      refine ⟨(source.check tokens false).source, rfl, rfl, ?_⟩
      cases left : source.current.rest with
      | nil => exact plays.wait kept phase left
      | cons sample more => exact plays.sample kept phase left
  | waiting =>
      refine ⟨(source.receive playback.receive.1).source, rfl, rfl, ?_⟩
      have quiet : ∀ received, (source.receive received).playback = [] →
          played ++ (source.receive received).playback = played := by
        intro received silent
        rw [silent, List.append_nil]
      by_cases queued : playback.channel = []
      · rcases Option.eq_none_or_eq_some playback.producer with gone | ⟨producer, alive⟩
        · have received : playback.receive = (.disconnected, playback.channel) := by
            rw [ProgressivePlayback.receive, queued, gone]
            rfl
          rw [received, quiet .disconnected rfl]
          exact plays.disconnected phase gone queued
        · have received : playback.receive = (.timeout, playback.channel) := by
            rw [ProgressivePlayback.receive, queued, alive]
            rfl
          rw [received, quiet .timeout rfl]
          exact plays.timeout phase
      · obtain ⟨message, rest, queued⟩ := List.exists_cons_of_ne_nil queued
        cases message with
        | audio window more =>
            have received : playback.receive = (.audio window more, rest) := by
              rw [ProgressivePlayback.receive, queued]
            rw [received, quiet (.audio window more) rfl]
            exact plays.window phase queued
        | complete more =>
            have received : playback.receive = (.complete more, rest) := by
              rw [ProgressivePlayback.receive, queued]
            have finished : books.finished = true := by
              have flows := plays.phase
              rw [PhaseKept, phase, queued] at flows
              exact flows.2.2.2.1
            have gone : playback.producer = none := by
              rw [Option.eq_none_iff_forall_ne_some]
              intro producer alive
              have notYet := unfinished producer alive
              rw [finished] at notYet
              cases notYet
            rw [received]
            exact plays.complete kept phase gone queued
  | ended =>
      refine ⟨source, place, rfl, ?_⟩
      rw [List.append_nil]
      exact plays

end Consumer

/-! ## The checks of cues -/

namespace ProgressivePlaybackProducer

variable {producer : ProgressivePlaybackProducer}

theorem checkCue_eq_ok {previous last : Option Nat} {cue : PlaybackCue} :
    producer.checkCue previous cue = .ok last ↔
      producer.publishedFrames ≤ cue.frameOffset ∧
        (∀ offset, previous = some offset → offset ≤ cue.frameOffset) ∧
          last = some cue.frameOffset := by
  unfold checkCue
  split
  · rename_i behind
    constructor
    · intro result
      cases result
    · rintro ⟨ahead, _⟩
      exact absurd ahead (Nat.not_le.mpr behind)
  · rename_i ahead
    have ahead : producer.publishedFrames ≤ cue.frameOffset := Nat.not_lt.mp ahead
    cases previous with
    | none =>
        constructor
        · intro result
          cases result
          exact ⟨ahead, fun _ absent => absurd absent (by simp), rfl⟩
        · rintro ⟨_, _, rfl⟩
          rfl
    | some offset =>
        rw [Option.any_some]
        split
        · rename_i late
          constructor
          · intro result
            cases result
          · rintro ⟨_, inOrder, _⟩
            exact absurd (inOrder offset rfl) (Nat.not_le.mpr (of_decide_eq_true late))
        · rename_i inOrder
          constructor
          · intro result
            cases result
            refine ⟨ahead, ?_, rfl⟩
            rintro _ ⟨⟩
            exact Nat.not_lt.mp fun late => inOrder (decide_eq_true late)
          · rintro ⟨_, _, rfl⟩
            rfl

/-- **Accepted cues** are not behind the producer, in order, and not before the cues that
were accepted earlier. -/
theorem checkCues_fold {previous last : Option Nat} {cues : List PlaybackCue}
    (checked : cues.foldlM producer.checkCue previous = .ok last) :
    (∀ cue ∈ cues, producer.publishedFrames ≤ cue.frameOffset) ∧ CuesOrdered cues ∧
      (∀ offset, previous = some offset → (∀ cue ∈ cues, offset ≤ cue.frameOffset) ∧
        ∃ final, last = some final ∧ offset ≤ final) ∧
      ∀ cue ∈ cues, ∃ final, last = some final ∧ cue.frameOffset ≤ final := by
  induction cues generalizing previous with
  | nil =>
      cases checked
      refine ⟨fun _ member => absurd member List.not_mem_nil, List.Pairwise.nil, ?_,
        fun _ member => absurd member List.not_mem_nil⟩
      rintro offset rfl
      exact ⟨fun _ member => absurd member List.not_mem_nil, offset, rfl, le_rfl⟩
  | cons cue rest ih =>
      obtain ⟨middle, first, further⟩ := foldlM_cons_eq_ok.mp checked
      obtain ⟨ahead, inOrder, rfl⟩ := checkCue_eq_ok.mp first
      obtain ⟨restAhead, restOrdered, after, bounded⟩ := ih further
      obtain ⟨later, final, same, below⟩ := after cue.frameOffset rfl
      refine ⟨List.forall_mem_cons.mpr ⟨ahead, restAhead⟩,
        List.pairwise_cons.mpr ⟨later, restOrdered⟩, ?_,
        List.forall_mem_cons.mpr ⟨⟨final, same, below⟩, bounded⟩⟩
      intro offset before
      have below' := inOrder offset before
      exact ⟨List.forall_mem_cons.mpr ⟨below', fun other member => below'.trans (later other member)⟩,
        final, same, below'.trans below⟩

end ProgressivePlaybackProducer

end Omnivox.Audio
