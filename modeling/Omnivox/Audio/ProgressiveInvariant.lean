import Mathlib
import Omnivox.Audio.ProgressiveRuns

/-!
# The invariant of a progressive playback

Every call of the producer keeps the invariant of a run, and so does the consumer
(`Consistent.next`). A call of the producer either only collects cues, or sends a message,
which may attach the source, or drops the producer.
-/

set_option autoImplicit false

namespace Omnivox.Audio

open Foundations

variable {F : Type}

/-! ## Tokens -/

section Tokens

variable {control : AudioControl} {producer : ProgressivePlaybackProducer}

theorem ProducerTokens.not_cancelled (held : ProducerTokens control producer) :
    producer.isCancelled control.tokens = false := by
  rw [ProgressivePlaybackProducer.isCancelled, held.request_active, held.stream,
    control.speech_active]
  rfl

/-- A full backlog puts a new stop token in place, which the producer follows. -/
theorem ProducerTokens.replaced (held : ProducerTokens control producer) :
    ProducerTokens control.replaceSpeechStop
      { producer with streamCancellation := control.replaceSpeechStop.speechStopCancellation } where
  request_active := by
    rw [AudioControl.isCancelled_replaceSpeechStop, held.request_active, Bool.or_false,
      beq_eq_false_iff_ne]
    exact held.request_private
  request_made := control.lt_made_tokensReplacing _ held.request_made.le
  request_private := Nat.ne_of_lt held.request_made
  stream := rfl

theorem ProducerTokens.unrequested (held : ProducerTokens control producer) :
    (PlaybackCancellation.new (some producer.requestCancellation)
      (some producer.streamCancellation) (some SPEECH_STOP_FADE_FRAMES)).isRequested
        control.tokens = false := by
  have notCancelled := held.not_cancelled
  rw [ProgressivePlaybackProducer.isCancelled] at notCancelled
  rw [PlaybackCancellation.isRequested]
  exact notCancelled

end Tokens

/-! ## The attachment -/

section Attachment

variable {books : PlaybackBooks F} {control : AudioControl} {producer : ProgressivePlaybackProducer}
  {source : ProgressivePlaybackSource F} {generation : Nat}

/-- A source that is just attached. -/
theorem Fresh.plays {tokens : CancellationTokens} {playback : ProgressivePlayback F}
    {channel : List (ProgressivePlaybackMessage F)}
    (fresh : Fresh books control channel producer source generation)
    (queued : playback.channel = channel) {stream : CancellationToken}
    (unrequested : (PlaybackCancellation.new (some producer.requestCancellation) (some stream)
      (some SPEECH_STOP_FADE_FRAMES)).isRequested tokens = false) :
    Plays books tokens playback [] (source.followStream stream) := by
  have new := fresh.source
  subst new queued
  refine ⟨?_, ?_, trivial, rfl, rfl, rfl, unrequested, ?_⟩
  · rw [← fresh.samples]
    rfl
  · rw [← fresh.cues]
    rfl
  · exact ⟨rfl, fun _ member => absurd member List.not_mem_nil, fresh.flows⟩

/-- What an attachment leaves: the source in the queue, or dropped with an error. -/
def Attaches (books : PlaybackBooks F) (producer : ProgressivePlaybackProducer)
    (produced : Produced F) : Prop :=
  (∃ error, produced.answer = some (.error error) ∧
      produced.playback.place = .dropped (some .cancelled)) ∨
    (produced.answer = some (.ok ()) ∧
      ∃ source stream, produced.playback.place = .attached source ∧
        produced.playback.producer = some { producer with streamCancellation := stream } ∧
        Plays books produced.control.tokens produced.playback [] source ∧
        ProducerTokens produced.control { producer with streamCancellation := stream })

/-- The source is attached with the stop token that is then in place. -/
theorem Fresh.attach {playback : ProgressivePlayback F}
    (fresh : Fresh books control playback.channel producer source generation)
    (held : ProducerTokens control producer) (queue : QueueAnswer) :
    Attaches books producer (playback.attach producer source control queue) := by
  have untold : source.completion.report .cancelled = some .cancelled := by
    rw [fresh.source]
    rfl
  unfold ProgressivePlayback.attach
  cases refused : queue.refusal with
  | some error =>
      refine Or.inl ⟨error, rfl, ?_⟩
      cases queue.backlogFull with
      | false => exact congrArg SourcePlace.dropped untold
      | true => exact congrArg SourcePlace.dropped untold
  | none =>
      refine Or.inr ⟨rfl, ?_⟩
      cases queue.backlogFull with
      | false =>
          have same : source.followStream producer.streamCancellation = source := by
            rw [fresh.source]
            rfl
          refine ⟨_, producer.streamCancellation, congrArg SourcePlace.attached same.symm, rfl, ?_,
            held⟩
          refine fresh.plays ?_ held.unrequested
          rfl
      | true =>
          refine ⟨_, _, rfl, rfl, ?_, held.replaced⟩
          refine fresh.plays ?_ held.replaced.unrequested
          rfl

/-- **Attachment of a primed source**, or at the end of the stream. -/
theorem Fresh.attachIfPrimed {playback : ProgressivePlayback F}
    (fresh : Fresh books control playback.channel producer source generation)
    (place : playback.place = .pendingAttachment source generation)
    (held : ProducerTokens control producer) (queue : QueueAnswer) {force : Bool}
    (ready : (force || producer.primed) = true) :
    Attaches books producer (playback.attachIfPrimed producer control queue force) := by
  have goes : (!force && !producer.primed) = false := by
    rw [← Bool.not_or, ready]
    rfl
  have current : (control.scheduleGenerations .speech != generation) = false := by
    rw [fresh.generation, bne_self_eq_false]
  unfold ProgressivePlayback.attachIfPrimed
  rw [place]
  dsimp only
  rw [goes, held.not_cancelled, current]
  exact fresh.attach held queue

/-- A source that is not primed stays with its producer. -/
theorem attachIfPrimed_of_unprimed {playback : ProgressivePlayback F}
    (unprimed : producer.primed = false) (queue : QueueAnswer) :
    playback.attachIfPrimed producer control queue false = ⟨control, playback, some (.ok ())⟩ := by
  unfold ProgressivePlayback.attachIfPrimed
  rw [unprimed]
  split
  · rfl
  · rfl

/-- A source that is not pending is not attached again. -/
theorem attachIfPrimed_of_attached {playback : ProgressivePlayback F}
    (place : playback.place = .attached source) (queue : QueueAnswer) (force : Bool) :
    playback.attachIfPrimed producer control queue force =
      ⟨control, playback, some (.ok ())⟩ := by
  unfold ProgressivePlayback.attachIfPrimed
  rw [place]

end Attachment

/-! ## Calls that do not send -/

section Calls

variable {history : ProgressiveHistory F} {producer : ProgressivePlaybackProducer}

theorem record_unchanged {answer : Option (Except AudioError Unit)} {entered : PlaybackBooks F}
    (notOk : answer ≠ some (.ok ())) :
    history.record ⟨history.control, history.playback, answer⟩ entered = history := by
  have counted : (!history.playback.place.isAttached && history.playback.place.isAttached) = false :=
    Bool.not_and_self _
  match answer with
  | none =>
      rw [ProgressiveHistory.record, counted]
      rfl
  | some (.error error) =>
      rw [ProgressiveHistory.record, counted]
      rfl
  | some (.ok ()) => exact absurd rfl notOk

theorem record_same_place {control : AudioControl} {playback : ProgressivePlayback F}
    {entered : PlaybackBooks F} (place : playback.place = history.playback.place) :
    history.record ⟨control, playback, some (.ok ())⟩ entered =
      { history with control := control, playback := playback, books := entered } := by
  rw [ProgressiveHistory.record]
  dsimp only
  rw [place, Bool.not_and_self]
  rfl

/-- What a call leaves of a producer that only collects cues or changes its reserve. -/
structure Recollects (books books' : PlaybackBooks F) (control : AudioControl)
    (producer producer' : ProgressivePlaybackProducer) : Prop where
  pushed : books'.pushed = books.pushed
  sent : books'.sent = books.sent
  finished : books'.finished = books.finished
  request : producer'.requestCancellation = producer.requestCancellation
  stream : producer'.streamCancellation = producer.streamCancellation
  windows : producer'.prebufferedAudioWindows = producer.prebufferedAudioWindows
  unprimed : producer.primed = false → producer'.primed = false
  kept : books.Kept → ProducerFlows books producer → books'.Kept ∧ ProducerFlows books' producer'

theorem Plays.reproducer {books books' : PlaybackBooks F} {tokens : CancellationTokens}
    {playback : ProgressivePlayback F} {played : Playback F} {source : ProgressivePlaybackSource F}
    (plays : Plays books tokens playback played source) (pushed : books'.pushed = books.pushed)
    (sent : books'.sent = books.sent) (finished : books'.finished = books.finished)
    {producer producer' : ProgressivePlaybackProducer} (alive : playback.producer = some producer) :
    Plays books' tokens { playback with producer := some producer' } played source := by
  refine ⟨pushed ▸ plays.samples, sent ▸ plays.cues, plays.timed, plays.position, plays.whole,
    plays.playing, plays.unrequested, ?_⟩
  have phase := plays.phase
  unfold PhaseKept at *
  cases at_ : source.phase with
  | checking =>
      rw [at_] at phase
      rw [finished]
      exact phase
  | waiting =>
      rw [at_] at phase
      rw [finished]
      exact phase
  | ended =>
      rw [at_] at phase
      have gone := phase.2.2.2.2.1
      rw [alive] at gone
      cases gone

theorem Consistent.recollect {producer' : ProgressivePlaybackProducer} {books' : PlaybackBooks F}
    (consistent : Consistent history) (alive : history.playback.producer = some producer)
    (keeps : Recollects history.books books' history.control producer producer') :
    Consistent { history with
      playback := { history.playback with producer := some producer' }
      books := books' } := by
  unfold Consistent at *
  cases place : history.playback.place with
  | pendingAttachment source generation =>
      rw [place] at consistent
      obtain ⟨kept, count, silent, known, same, tokens, flows, held⟩ := consistent
      obtain rfl : known = producer := Option.some.inj (same.symm.trans alive)
      obtain ⟨kept', flows'⟩ := keeps.kept kept flows
      refine ⟨kept', count, silent, producer', rfl, ?_, flows', ?_⟩
      · exact ⟨keeps.request ▸ tokens.request_active, keeps.request ▸ tokens.request_made,
          keeps.request ▸ tokens.request_private, keeps.stream ▸ tokens.stream⟩
      · refine ⟨⟨?_, held.generation, ?_, ?_, ?_⟩, ?_, keeps.unprimed held.unprimed⟩
        · rw [keeps.request, keeps.stream]
          exact held.source
        · rw [keeps.finished]
          exact held.flows
        · rw [keeps.pushed]
          exact held.samples
        · rw [keeps.sent]
          exact held.cues
        · rw [keeps.windows]
          exact held.windows
  | attached source =>
      rw [place] at consistent
      obtain ⟨kept, count, knows, plays⟩ := consistent
      obtain ⟨tokens, flows⟩ := knows producer alive
      obtain ⟨kept', flows'⟩ := keeps.kept kept flows
      refine ⟨kept', count, ?_, plays.reproducer keeps.pushed keeps.sent keeps.finished alive⟩
      rintro _ ⟨⟩
      exact ⟨⟨keeps.request ▸ tokens.request_active, keeps.request ▸ tokens.request_made,
        keeps.request ▸ tokens.request_private, keeps.stream ▸ tokens.stream⟩, flows'⟩
  | dropped completion =>
      rw [place] at consistent
      obtain ⟨told, unfinished, count, silent⟩ := consistent
      exact ⟨told, keeps.finished.trans unfinished, count, silent⟩

/-- The reserve for letters is selected before there is audio, so it primes nothing. -/
theorem recollects_useLetterNavigation {books : PlaybackBooks F} {control : AudioControl}
    (first : producer.publishedFrames = 0) :
    Recollects books books control producer { producer with letterNavigation := true } where
  pushed := rfl
  sent := rfl
  finished := rfl
  request := rfl
  stream := rfl
  windows := rfl
  unprimed unprimed := by
    rw [ProgressivePlaybackProducer.primed, Bool.or_eq_false_iff] at *
    refine ⟨unprimed.1, ?_⟩
    rw [first]
    rfl
  kept kept flows := ⟨kept, flows.published, flows.cues, flows.last, flows.ahead, flows.unfinished⟩

/-- Accepted cues wait for the next window. -/
theorem recollects_pushCues {books : PlaybackBooks F} {control : AudioControl}
    {cues : List PlaybackCue} {last : Option Nat} (checked : producer.checkCues cues = .ok last) :
    Recollects books { books with accepted := books.accepted ++ cues } control producer
      { producer with pendingCues := producer.pendingCues ++ cues, lastCueOffset := last } where
  pushed := rfl
  sent := rfl
  finished := rfl
  request := rfl
  stream := rfl
  windows := rfl
  unprimed unprimed := unprimed
  kept kept flows := by
    unfold ProgressivePlaybackProducer.checkCues at checked
    split at checked
    · cases checked
    · obtain ⟨ahead, ordered, after, bounded⟩ :=
        ProgressivePlaybackProducer.checkCues_fold checked
      refine ⟨⟨?_, ?_, ?_⟩, flows.published, ?_, ?_, ?_, flows.unfinished⟩
      · rw [CuesOrdered, List.pairwise_append]
        refine ⟨kept.ordered, ordered, ?_⟩
        intro earlier before cue member
        obtain ⟨offset, same, below⟩ := flows.last earlier before
        exact below.trans ((after offset same).1 cue member)
      · exact kept.sent.trans (List.prefix_append _ _)
      · intro finished
        have unfinished := flows.unfinished
        rw [show books.finished = true from finished] at unfinished
        cases unfinished
      · rw [← List.append_assoc, flows.cues]
      · intro cue member
        rcases List.mem_append.mp member with earlier | new
        · obtain ⟨offset, same, below⟩ := flows.last cue earlier
          obtain ⟨_, final, same', above⟩ := after offset same
          exact ⟨final, same', below.trans above⟩
        · exact bounded cue new
      · intro cue member
        rcases List.mem_append.mp member with waiting | new
        · exact flows.ahead cue waiting
        · exact ahead cue new

theorem consistent_useLetterNavigation (consistent : Consistent history)
    (alive : history.playback.producer = some producer) :
    Consistent (history.record
      (history.playback.useLetterNavigationPrebuffer producer history.control) history.books) := by
  unfold ProgressivePlayback.useLetterNavigationPrebuffer
  split
  · rw [record_unchanged (by simp)]
    exact consistent
  · rename_i first
    rw [record_same_place]
    · exact consistent.recollect alive (recollects_useLetterNavigation (not_not.mp first))
    · rfl

theorem consistent_pushCues (consistent : Consistent history)
    (alive : history.playback.producer = some producer) (cues : List PlaybackCue) :
    Consistent (history.record (history.playback.pushCues producer history.control cues)
      { history.books with accepted := history.books.accepted ++ cues }) := by
  unfold ProgressivePlayback.pushCues
  split
  · rw [record_unchanged (by simp)]
    exact consistent
  · rename_i last checked
    dsimp only
    rw [record_same_place]
    · exact consistent.recollect alive (recollects_pushCues checked)
    · rfl

end Calls

/-! ## Calls that send -/

section Sending

variable {books books' : PlaybackBooks F} {control : AudioControl} {tokens : CancellationTokens}
  {playback : ProgressivePlayback F} {played : Playback F} {source : ProgressivePlaybackSource F}
  {producer : ProgressivePlaybackProducer} {message : ProgressivePlaybackMessage F}
  {channel : List (ProgressivePlaybackMessage F)}

/-- What a message adds to the books, and that it may follow what was published. -/
structure Enters (books books' : PlaybackBooks F) (message : ProgressivePlaybackMessage F) :
    Prop where
  pushed : books'.pushed = books.pushed ++ channelSamples [message]
  sent : books'.sent = books.sent ++ channelCues [message]
  flows : ∀ start channel, start + (channelSamples channel).length = books.pushed.length →
    ChannelFlows books.finished start channel → ChannelFlows books'.finished start (channel ++ [message])

theorem Plays.send (plays : Plays books tokens playback played source)
    (enters : Enters books books' message) (alive : playback.producer = some producer)
    (producer' : Option ProgressivePlaybackProducer) :
    Plays books' tokens
      { playback with producer := producer', channel := playback.channel ++ [message] }
      played source := by
  have total := plays.length
  refine ⟨?_, ?_, plays.timed, plays.position, plays.whole, plays.playing, plays.unrequested, ?_⟩
  · dsimp only
    rw [enters.pushed, channelSamples_append]
    simp only [List.map_append, ← plays.samples, List.append_assoc]
  · dsimp only
    rw [enters.sent, channelCues_append, ← plays.cues]
    simp only [List.append_assoc]
  · have phase := plays.phase
    unfold PhaseKept at *
    cases at_ : source.phase with
    | checking =>
        rw [at_] at phase
        obtain ⟨untold, ahead, flows⟩ := phase
        exact ⟨untold, ahead, enters.flows _ _ ((Nat.add_assoc _ _ _).trans total) flows⟩
    | waiting =>
        rw [at_] at phase
        obtain ⟨untold, ended, ahead, flows⟩ := phase
        rw [ended, List.length_nil, Nat.zero_add] at total
        exact ⟨untold, ended, ahead, enters.flows _ _ total flows⟩
    | ended =>
        rw [at_] at phase
        have gone := phase.2.2.2.2.1
        rw [alive] at gone
        cases gone

theorem Fresh.send {generation : Nat} {producer' : ProgressivePlaybackProducer}
    (fresh : Fresh books control channel producer source generation)
    (enters : Enters books books' message)
    (request : producer'.requestCancellation = producer.requestCancellation)
    (stream : producer'.streamCancellation = producer.streamCancellation) :
    Fresh books' control (channel ++ [message]) producer' source generation := by
  refine ⟨?_, fresh.generation, ?_, ?_, ?_⟩
  · rw [request, stream]
    exact fresh.source
  · refine enters.flows 0 channel ?_ fresh.flows
    rw [Nat.zero_add, fresh.samples]
  · rw [channelSamples_append, fresh.samples, enters.pushed]
  · rw [channelCues_append, fresh.cues, enters.sent]

/-- Cues that wait at the producer are not behind what was published. -/
theorem ProducerFlows.cuesAhead (flows : ProducerFlows books producer) :
    CuesAhead books.pushed.length producer.pendingCues := by
  intro cue member
  rw [← flows.published]
  exact Nat.mul_le_mul_left CHANNELS (flows.ahead cue member)

theorem ProducerFlows.enters_audio (flows : ProducerFlows books producer)
    (audio : AudioBuffer F) :
    Enters books
      { books with
        pushed := books.pushed ++ interleaved audio
        sent := books.sent ++ producer.pendingCues }
      (.audio (interleaved audio) producer.pendingCues) := by
  refine ⟨?_, ?_, ?_⟩
  · rw [channelSamples, List.flatMap_singleton]
  · rw [channelCues, List.flatMap_singleton]
  · intro start channel total before
    rw [flows.unfinished] at before
    dsimp only
    rw [flows.unfinished]
    refine before.window ?_ ?_
    · rw [length_interleaved, Nat.mul_mod_right]
    · rw [total]
      exact flows.cuesAhead

theorem ProducerFlows.enters_complete (flows : ProducerFlows books producer) :
    Enters books
      { books with sent := books.sent ++ producer.pendingCues, finished := true }
      (.complete producer.pendingCues) := by
  refine ⟨?_, ?_, ?_⟩
  · rw [channelSamples, List.flatMap_singleton, List.append_nil]
  · rw [channelCues, List.flatMap_singleton]
  · intro start channel total before
    rw [flows.unfinished] at before
    refine before.ending ?_
    rw [total]
    exact flows.cuesAhead

/-- A send that is not cancelled, to a source that is there, waits only for a full channel. -/
theorem send_of_present (active : producer.isCancelled tokens = false)
    (present : ∀ completion, playback.place ≠ .dropped completion) :
    playback.send producer tokens message =
      if playback.channel.length < PROGRESSIVE_PLAYBACK_CAPACITY then
        .sent (playback.channel ++ [message])
      else .full := by
  unfold ProgressivePlayback.send
  rw [active]
  cases place : playback.place with
  | pendingAttachment source generation => rfl
  | attached source => rfl
  | dropped completion => exact absurd place (present completion)

/-- A send to a source that is gone fails. -/
theorem send_of_dropped {completion : PlaybackCompletion}
    (gone : playback.place = .dropped completion) :
    ∃ error, playback.send producer tokens message = .failed error := by
  unfold ProgressivePlayback.send
  cases producer.isCancelled tokens with
  | true => exact ⟨_, rfl⟩
  | false =>
      rw [gone]
      exact ⟨_, rfl⟩

/-- The channel of a pending source has room. -/
theorem Held.room {generation : Nat}
    (held : Held books control playback.channel producer source generation) :
    playback.channel.length < PROGRESSIVE_PLAYBACK_CAPACITY ∧
      producer.prebufferedAudioWindows < PROGRESSIVE_PLAYBACK_PREBUFFER_WINDOWS := by
  have unprimed := held.unprimed
  rw [ProgressivePlaybackProducer.primed, Bool.or_eq_false_iff] at unprimed
  have few := Nat.not_le.mp (of_decide_eq_false unprimed.1)
  have windows := held.windows
  unfold PROGRESSIVE_PLAYBACK_PREBUFFER_WINDOWS at few
  unfold PROGRESSIVE_PLAYBACK_CAPACITY PROGRESSIVE_PLAYBACK_PREBUFFER_WINDOWS
  omega

end Sending

section Steps

variable {history : ProgressiveHistory F} {producer : ProgressivePlaybackProducer}

/-- The invariant at each place of the source. -/
theorem Consistent.places (consistent : Consistent history) :
    (∃ completion, history.playback.place = .dropped completion ∧
        completion = some .cancelled ∧ history.books.finished = false ∧ history.attachments = 0 ∧
        history.played = []) ∨
      (∃ source, history.playback.place = .attached source ∧
        history.books.Kept ∧ history.attachments = 1 ∧
        (∀ producer, history.playback.producer = some producer →
          ProducerTokens history.control producer ∧ ProducerFlows history.books producer) ∧
        Plays history.books history.control.tokens history.playback history.played source) ∨
      (∃ source generation, history.playback.place = .pendingAttachment source generation ∧
        history.books.Kept ∧ history.attachments = 0 ∧ history.played = [] ∧
        ∃ producer, history.playback.producer = some producer ∧
          ProducerTokens history.control producer ∧ ProducerFlows history.books producer ∧
          Held history.books history.control history.playback.channel producer source
            generation) := by
  unfold Consistent at consistent
  split at consistent
  · rename_i source generation place
    exact Or.inr (Or.inr ⟨source, generation, place, consistent⟩)
  · rename_i source place
    exact Or.inr (Or.inl ⟨source, place, consistent⟩)
  · rename_i completion place
    exact Or.inl ⟨completion, place, consistent⟩

/-- The producer after its window was sent. -/
theorem ProducerFlows.pushed {books : PlaybackBooks F} (flows : ProducerFlows books producer)
    (kept : books.Kept) {audio : AudioBuffer F} {publishedFrames : Nat}
    (counted : checkedAdd u64Max producer.publishedFrames audio.length = some publishedFrames) :
    PlaybackBooks.Kept { books with
        pushed := books.pushed ++ interleaved audio
        sent := books.sent ++ producer.pendingCues } ∧
      ProducerFlows { books with
          pushed := books.pushed ++ interleaved audio
          sent := books.sent ++ producer.pendingCues }
        (producer.takeCues.countWindow publishedFrames) := by
  obtain ⟨rfl, _⟩ := checkedAdd_eq_some.mp counted
  refine ⟨⟨kept.ordered, ?_, ?_⟩, ?_, ?_, flows.last,
    fun _ member => absurd member List.not_mem_nil, flows.unfinished⟩
  · rw [flows.cues]
  · intro finished
    have unfinished := flows.unfinished
    rw [show books.finished = true from finished] at unfinished
    cases unfinished
  · rw [List.length_append, ← flows.published, length_interleaved, ← Nat.mul_add]
    rfl
  · exact (List.append_nil _).trans flows.cues

theorem Consistent.of_attached {source : ProgressivePlaybackSource F}
    (place : history.playback.place = .attached source) (kept : history.books.Kept)
    (count : history.attachments = 1)
    (knows : ∀ producer, history.playback.producer = some producer →
      ProducerTokens history.control producer ∧ ProducerFlows history.books producer)
    (plays : Plays history.books history.control.tokens history.playback history.played source) :
    Consistent history := by
  unfold Consistent
  rw [place]
  exact ⟨kept, count, knows, plays⟩

theorem Consistent.of_pending {source : ProgressivePlaybackSource F} {generation : Nat}
    (place : history.playback.place = .pendingAttachment source generation)
    (kept : history.books.Kept) (count : history.attachments = 0) (silent : history.played = [])
    (alive : history.playback.producer = some producer)
    (tokens : ProducerTokens history.control producer) (flows : ProducerFlows history.books producer)
    (held : Held history.books history.control history.playback.channel producer source
      generation) : Consistent history := by
  unfold Consistent
  rw [place]
  exact ⟨kept, count, silent, producer, alive, tokens, flows, held⟩

/-- A call that leaves an unattached source attached, or dropped with an error. -/
theorem consistent_record_attaches {books : PlaybackBooks F} {produced : Produced F}
    {source : ProgressivePlaybackSource F} {generation : Nat}
    (place : history.playback.place = .pendingAttachment source generation)
    (count : history.attachments = 0) (silent : history.played = [])
    (unfinished : history.books.finished = false) (attaches : Attaches books producer produced)
    (kept : books.Kept) (flows : ProducerFlows books producer) :
    Consistent (history.record produced books) := by
  rcases attaches with ⟨error, failed, gone⟩ | ⟨accepted, attached, stream, there, same, plays, tokens⟩
  · unfold Consistent
    have dropped : (history.record produced books).playback.place = .dropped (some .cancelled) := gone
    rw [dropped]
    refine ⟨rfl, ?_, ?_, silent⟩
    · rw [ProgressiveHistory.record, failed]
      exact unfinished
    · rw [ProgressiveHistory.record, gone, place]
      exact count
  · have entered : (history.record produced books).books = books := by
      rw [ProgressiveHistory.record, accepted]
    refine .of_attached there ?_ ?_ ?_ ?_
    · rw [entered]
      exact kept
    · rw [ProgressiveHistory.record, there, place]
      exact congrArg (· + 1) count
    · intro other alive
      obtain rfl : { producer with streamCancellation := stream } = other :=
        Option.some.inj (same.symm.trans alive)
      rw [entered]
      exact ⟨tokens, flows.published, flows.cues, flows.last, flows.ahead, flows.unfinished⟩
    · rw [show (history.record produced books).played = [] from silent, entered]
      exact plays

/-- Nothing changes for a source that is gone. -/
theorem consistent_of_dropped {history' : ProgressiveHistory F} {completion : PlaybackCompletion}
    (kept : completion = some .cancelled ∧ history.books.finished = false ∧
      history.attachments = 0 ∧ history.played = [])
    (place : history'.playback.place = .dropped completion)
    (finished : history'.books.finished = history.books.finished)
    (attachments : history'.attachments = history.attachments)
    (played : history'.played = history.played) : Consistent history' := by
  obtain ⟨told, unfinished, count, silent⟩ := kept
  unfold Consistent
  rw [place]
  exact ⟨told, finished.trans unfinished, attachments.trans count, played.trans silent⟩

theorem ProducerTokens.counted {control : AudioControl} (tokens : ProducerTokens control producer)
    (publishedFrames : Nat) :
    ProducerTokens control (producer.takeCues.countWindow publishedFrames) :=
  ⟨tokens.request_active, tokens.request_made, tokens.request_private, tokens.stream⟩

theorem consistent_pushAudio (consistent : Consistent history)
    (alive : history.playback.producer = some producer) (audio : AudioBuffer F)
    (queue : QueueAnswer) :
    Consistent (history.record
      (history.playback.pushAudio producer history.control queue audio)
      { history.books with
        pushed := history.books.pushed ++ interleaved audio
        sent := history.books.sent ++ producer.pendingCues }) := by
  unfold ProgressivePlayback.pushAudio
  split
  · rw [record_unchanged (by simp)]
    exact consistent
  · split
    · rw [record_unchanged (by simp)]
      exact consistent
    · rename_i publishedFrames counted
      dsimp only
      rcases consistent.places with ⟨completion, place, gone⟩ | ⟨source, place, kept, count, knows, plays⟩ |
        ⟨source, generation, place, kept, count, silent, known, same, tokens, flows, held⟩
      · obtain ⟨error, failed⟩ := send_of_dropped place
        rw [failed]
        refine consistent_of_dropped gone place rfl ?_ rfl
        rw [ProgressiveHistory.record, place]
        rfl
      · obtain ⟨tokens, flows⟩ := knows producer alive
        obtain ⟨kept', flows'⟩ := flows.pushed kept counted
        have active : producer.takeCues.isCancelled history.control.tokens = false :=
          tokens.not_cancelled
        rw [send_of_present active (by simp [place])]
        by_cases room : history.playback.channel.length < PROGRESSIVE_PLAYBACK_CAPACITY
        · rw [if_pos room]
          dsimp only
          rw [attachIfPrimed_of_attached]
          · rw [record_same_place]
            · refine .of_attached place kept' count ?_ (plays.send (flows.enters_audio audio) alive _)
              rintro _ ⟨⟩
              exact ⟨tokens.counted publishedFrames, flows'⟩
            · rfl
          · exact place
        · rw [if_neg room]
          dsimp only
          rw [record_unchanged (by simp)]
          exact consistent
      · obtain rfl : known = producer := Option.some.inj (same.symm.trans alive)
        obtain ⟨kept', flows'⟩ := flows.pushed kept counted
        obtain ⟨room, few⟩ := held.room
        have active : known.takeCues.isCancelled history.control.tokens = false :=
          tokens.not_cancelled
        rw [send_of_present active (by simp [place]), if_pos room]
        dsimp only
        have fresh : Fresh _ history.control _ (known.takeCues.countWindow publishedFrames) source
            generation := held.toFresh.send (flows.enters_audio audio) rfl rfl
        cases primed : (known.takeCues.countWindow publishedFrames).primed with
        | true =>
            refine consistent_record_attaches place count silent flows.unfinished ?_ kept' flows'
            refine fresh.attachIfPrimed ?_ (tokens.counted publishedFrames) queue ?_
            · exact place
            · exact primed
        | false =>
            have exact : saturatingAdd usizeMax known.prebufferedAudioWindows 1 =
                known.prebufferedAudioWindows + 1 := by
              refine saturatingAdd_of_le ?_
              unfold PROGRESSIVE_PLAYBACK_PREBUFFER_WINDOWS at few
              exact (Nat.succ_le_of_lt few).trans (by decide)
            rw [attachIfPrimed_of_unprimed primed, record_same_place]
            · refine .of_pending place kept' count silent rfl (tokens.counted publishedFrames) flows'
                ⟨fresh, ?_, primed⟩
              rw [List.length_append, held.windows]
              exact exact.symm
            · rfl

/-! ## The end of the producer -/

theorem Plays.orphaned {books : PlaybackBooks F} {tokens : CancellationTokens}
    {playback : ProgressivePlayback F} {played : Playback F} {source : ProgressivePlaybackSource F}
    (plays : Plays books tokens playback played source) :
    Plays books tokens { playback with producer := none } played source := by
  refine ⟨plays.samples, plays.cues, plays.timed, plays.position, plays.whole, plays.playing,
    plays.unrequested, ?_⟩
  have phase := plays.phase
  unfold PhaseKept at *
  cases at_ : source.phase with
  | checking =>
      rw [at_] at phase
      exact phase
  | waiting =>
      rw [at_] at phase
      exact phase
  | ended =>
      rw [at_] at phase
      obtain ⟨told, ended, ahead, empty, _, none⟩ := phase
      exact ⟨told, ended, ahead, empty, rfl, none⟩

theorem dropProducer_of_attached {playback : ProgressivePlayback F}
    {source : ProgressivePlaybackSource F} (place : playback.place = .attached source) :
    playback.dropProducer = { playback with producer := none } := by
  rw [ProgressivePlayback.dropProducer, place]

theorem dropProducer_of_dropped {playback : ProgressivePlayback F}
    {completion : PlaybackCompletion} (place : playback.place = .dropped completion) :
    playback.dropProducer = { playback with producer := none } := by
  rw [ProgressivePlayback.dropProducer, place]

theorem dropProducer_of_pending {playback : ProgressivePlayback F}
    {source : ProgressivePlaybackSource F} {generation : Nat}
    (place : playback.place = .pendingAttachment source generation) :
    playback.dropProducer = { playback with producer := none, channel := [], place := source.drop } := by
  rw [ProgressivePlayback.dropProducer, place]

/-- **Without its producer** an attached source goes on, and a pending one is cancelled. -/
theorem Consistent.dropProducer (consistent : Consistent history) :
    Consistent { history with playback := history.playback.dropProducer } := by
  rcases consistent.places with ⟨completion, place, gone⟩ | ⟨source, place, kept, count, knows, plays⟩ |
    ⟨source, generation, place, kept, count, silent, known, same, tokens, flows, held⟩
  · refine consistent_of_dropped gone ?_ rfl rfl rfl
    rw [dropProducer_of_dropped place]
    exact place
  · rw [dropProducer_of_attached place]
    exact .of_attached place kept count (fun _ alive => nomatch alive) plays.orphaned
  · have told : source.drop = .dropped (some .cancelled) := by
      rw [held.source]
      rfl
    have gone : (some PlaybackStatus.cancelled : PlaybackCompletion) = some .cancelled ∧
        history.books.finished = false ∧ history.attachments = 0 ∧ history.played = [] :=
      ⟨rfl, flows.unfinished, count, silent⟩
    refine consistent_of_dropped gone ?_ rfl rfl rfl
    rw [dropProducer_of_pending place]
    exact told

theorem record_dropProducer {error : AudioError} {entered : PlaybackBooks F} :
    history.record ⟨history.control, history.playback.dropProducer, some (.error error)⟩ entered =
      { history with playback := history.playback.dropProducer } := by
  have counted : (!history.playback.place.isAttached &&
      history.playback.dropProducer.place.isAttached) = false := by
    cases place : history.playback.place with
    | pendingAttachment source generation =>
        rw [dropProducer_of_pending place]
        rfl
    | attached source => rfl
    | dropped completion =>
        rw [dropProducer_of_dropped place]
        exact congrArg SourcePlace.isAttached place
  rw [ProgressiveHistory.record]
  dsimp only
  rw [counted]
  rfl

/-- At an accepted end every cue is sent, and none is beyond the end. -/
theorem ProducerFlows.kept_finished {books : PlaybackBooks F} (flows : ProducerFlows books producer)
    (kept : books.Kept)
    (within : (producer.lastCueOffset.filter fun offset =>
      decide (producer.publishedFrames < offset)) = none) :
    PlaybackBooks.Kept
      { books with sent := books.sent ++ producer.pendingCues, finished := true } := by
  refine ⟨kept.ordered, ?_, fun _ => ⟨flows.cues, ?_⟩⟩
  · rw [flows.cues]
  · intro cue member
    obtain ⟨offset, same, below⟩ := flows.last cue member
    rw [same, Option.filter_some] at within
    split at within
    · cases within
    · rename_i bounded
      have bound : offset ≤ producer.publishedFrames :=
        Nat.not_lt.mp fun beyond => bounded (decide_eq_true beyond)
      dsimp only
      rw [← flows.published]
      exact Nat.mul_le_mul_left CHANNELS (below.trans bound)

/-- The end of a stream that was not attached before. -/
theorem consistent_record_finished {books : PlaybackBooks F} {produced : Produced F}
    {source : ProgressivePlaybackSource F} {generation : Nat}
    (place : history.playback.place = .pendingAttachment source generation)
    (count : history.attachments = 0) (silent : history.played = [])
    (unfinished : history.books.finished = false) (attaches : Attaches books producer produced)
    (kept : books.Kept) :
    Consistent (history.record { produced with playback := produced.playback.dropProducer }
      books) := by
  rcases attaches with ⟨error, failed, gone⟩ | ⟨accepted, attached, stream, there, same, plays, tokens⟩
  · have told : (some PlaybackStatus.cancelled : PlaybackCompletion) = some .cancelled ∧
        history.books.finished = false ∧ history.attachments = 0 ∧ history.played = [] :=
      ⟨rfl, unfinished, count, silent⟩
    rw [dropProducer_of_dropped gone]
    refine consistent_of_dropped told gone ?_ ?_ rfl
    · rw [ProgressiveHistory.record, failed]
    · rw [ProgressiveHistory.record, gone, place]
      rfl
  · rw [dropProducer_of_attached there]
    have entered : (history.record { produced with
        playback := { produced.playback with producer := none } } books).books = books := by
      rw [ProgressiveHistory.record, accepted]
    refine .of_attached there ?_ ?_ (fun _ alive => nomatch alive) ?_
    · rw [entered]
      exact kept
    · rw [ProgressiveHistory.record, there, place]
      exact congrArg (· + 1) count
    · rw [entered, show (history.record { produced with
        playback := { produced.playback with producer := none } } books).played = [] from silent]
      exact plays.orphaned

theorem consistent_finish (consistent : Consistent history)
    (alive : history.playback.producer = some producer) (queue : QueueAnswer) :
    Consistent (history.record (history.playback.finish producer history.control queue)
      { history.books with
        sent := history.books.sent ++ producer.pendingCues, finished := true }) := by
  unfold ProgressivePlayback.finish
  split
  · rw [record_dropProducer]
    exact consistent.dropProducer
  · rename_i within
    dsimp only
    rcases consistent.places with ⟨completion, place, gone⟩ | ⟨source, place, kept, count, knows, plays⟩ |
      ⟨source, generation, place, kept, count, silent, known, same, tokens, flows, held⟩
    · obtain ⟨error, failed⟩ := send_of_dropped place
      rw [failed]
      dsimp only
      rw [record_dropProducer]
      exact consistent.dropProducer
    · obtain ⟨tokens, flows⟩ := knows producer alive
      have active : producer.takeCues.isCancelled history.control.tokens = false :=
        tokens.not_cancelled
      rw [send_of_present active (by simp [place])]
      by_cases room : history.playback.channel.length < PROGRESSIVE_PLAYBACK_CAPACITY
      · rw [if_pos room]
        dsimp only
        rw [attachIfPrimed_of_attached]
        · dsimp only
          rw [dropProducer_of_attached]
          · rw [record_same_place]
            · exact .of_attached place (flows.kept_finished kept within) count
                (fun _ alive => nomatch alive) (plays.send flows.enters_complete alive none)
            · rfl
          · exact place
        · exact place
      · rw [if_neg room]
        dsimp only
        rw [record_unchanged (by simp)]
        exact consistent
    · obtain rfl : known = producer := Option.some.inj (same.symm.trans alive)
      obtain ⟨room, _⟩ := held.room
      have active : known.takeCues.isCancelled history.control.tokens = false :=
        tokens.not_cancelled
      have taken : ProducerTokens history.control known.takeCues :=
        ⟨tokens.request_active, tokens.request_made, tokens.request_private, tokens.stream⟩
      rw [send_of_present active (by simp [place]), if_pos room]
      dsimp only
      have fresh : Fresh _ history.control _ known.takeCues source generation :=
        held.toFresh.send flows.enters_complete rfl rfl
      have attaches : Attaches
          { history.books with
            sent := history.books.sent ++ known.pendingCues
            finished := true }
          known.takeCues (ProgressivePlayback.attachIfPrimed
          { history.playback with
            producer := some known.takeCues
            channel := history.playback.channel ++ [.complete known.pendingCues] }
          known.takeCues history.control queue true) := by
        refine fresh.attachIfPrimed ?_ taken queue (Bool.true_or _)
        exact place
      exact consistent_record_finished place count silent flows.unfinished attaches
        (flows.kept_finished kept within)

/-! ## Runs -/

theorem Consistent.consume (consistent : Consistent history) : Consistent history.consume := by
  rcases consistent.places with ⟨completion, place, gone⟩ | ⟨source, place, kept, count, knows, plays⟩ |
    ⟨source, generation, place, kept, count, silent, known, same, tokens, flows, held⟩
  · have idle : history.playback.consume history.control.tokens false = (history.playback, []) := by
      rw [ProgressivePlayback.consume, place]
    rw [ProgressiveHistory.consume, idle, List.append_nil]
    exact consistent
  · obtain ⟨source', place', alive, plays'⟩ := plays.consume kept place fun producer alive =>
      (knows producer alive).2.unfinished
    refine .of_attached place' kept count ?_ plays'
    intro producer there
    exact knows producer (alive.symm.trans there)
  · have idle : history.playback.consume history.control.tokens false = (history.playback, []) := by
      rw [ProgressivePlayback.consume, place]
    rw [ProgressiveHistory.consume, idle, List.append_nil]
    exact consistent

/-- **Every step keeps the invariant.** -/
theorem Consistent.next (consistent : Consistent history) (step : PlaybackStep F) :
    Consistent (history.next step) := by
  unfold ProgressiveHistory.next
  split
  · rename_i producer alive
    cases step with
    | useLetterNavigationPrebuffer => exact consistent_useLetterNavigation consistent alive
    | pushAudio audio queue => exact consistent_pushAudio consistent alive audio queue
    | pushCues cues => exact consistent_pushCues consistent alive cues
    | finish queue => exact consistent_finish consistent alive queue
    | drop => exact consistent.dropProducer
    | consume => exact consistent.consume
  · split
    · exact consistent.consume
    · exact consistent

theorem Consistent.run (consistent : Consistent history) (steps : List (PlaybackStep F)) :
    Consistent (history.run steps) := by
  induction steps generalizing history with
  | nil => exact consistent
  | cons step rest ih => exact ih (consistent.next step)

end Steps

end Omnivox.Audio
