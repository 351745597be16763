import Mathlib
import Omnivox.Audio.ProgressiveInvariant

/-!
# Progressive playback is buffered playback

A finished stream plays the samples of all its windows with each accepted cue at its time.
That is what a buffered source plays, and there is only one such playback
(`progressive_playback_equals_buffered`).

Rejected cues change nothing. A rejected end drops the producer: a source that is attached
goes on with what was sent to it, and a source that is still pending is discarded with the
windows in its channel (`rejected_finish_discards_pending`).
-/

set_option autoImplicit false

namespace Omnivox.Audio

open Foundations

variable {F : Type}

/-! ## Queueing -/

/-- What nothing cancelled and nothing but the caller holds. -/
structure RequestToken (control : AudioControl) (cancellation : CancellationToken) : Prop where
  active : control.tokens.isCancelled cancellation = false
  made : cancellation < control.tokens.made
  private_stop : cancellation ≠ control.speechStopCancellation

/-- The token stays so when the stop token is replaced for a full backlog. -/
theorem RequestToken.tokens {control : AudioControl} {cancellation : CancellationToken}
    (request : RequestToken control cancellation) (backlogFull : Bool) :
    ProducerTokens (if backlogFull then control.replaceSpeechStop else control)
      (newProducer cancellation
        (if backlogFull then control.replaceSpeechStop else control).speechStopCancellation) := by
  have before : ProducerTokens control (newProducer cancellation control.speechStopCancellation) :=
    ⟨request.active, request.made, request.private_stop, rfl⟩
  cases backlogFull with
  | false => exact before
  | true => exact before.replaced

theorem consistent_queued {control control' : AudioControl} {cancellation : CancellationToken}
    {null : Bool} {queue : QueueAnswer} {playback : ProgressivePlayback F}
    (request : RequestToken control cancellation)
    (queued : queueProgressiveSpeech control cancellation null queue = (control', .ok playback)) :
    Consistent (.start control' playback) := by
  have kept : PlaybackBooks.Kept (⟨[], [], [], false⟩ : PlaybackBooks F) :=
    ⟨List.Pairwise.nil, List.prefix_refl _, fun finished => nomatch finished⟩
  have tokens := request.tokens queue.backlogFull
  unfold queueProgressiveSpeech at queued
  generalize (if queue.backlogFull = true then control.replaceSpeechStop else control) = current
    at tokens queued
  have flows : ProducerFlows (⟨[], [], [], false⟩ : PlaybackBooks F)
      (newProducer cancellation current.speechStopCancellation) :=
    ⟨rfl, rfl, fun _ member => absurd member List.not_mem_nil,
      fun _ member => absurd member List.not_mem_nil, rfl⟩
  cases null with
  | true =>
      rw [if_pos rfl] at queued
      split at queued
      · cases queued
      · cases queued
        refine .of_attached rfl kept rfl ?_ ?_
        · rintro _ ⟨⟩
          exact ⟨tokens, flows⟩
        · exact ⟨rfl, rfl, trivial, rfl, rfl, rfl, tokens.unrequested,
            rfl, fun _ member => absurd member List.not_mem_nil, rfl⟩
  | false =>
      rw [if_neg Bool.false_ne_true] at queued
      cases queued
      exact .of_pending rfl kept rfl rfl rfl tokens flows ⟨⟨rfl, rfl, rfl, rfl, rfl⟩, rfl, rfl⟩

/-! ## Draining -/

/-- What a message takes the consumer, at most. -/
def messageParts : ProgressivePlaybackMessage F → Nat
  | .audio samples _ => samples.length + 2
  | .complete _ => 2

def SourcePhase.parts : SourcePhase → Nat
  | .checking => 2
  | .waiting => 1
  | .ended => 0

/-- The parts of calls after which a source without producer has ended. -/
def ProgressivePlayback.remaining (playback : ProgressivePlayback F) : Nat :=
  match playback.place with
  | .attached source =>
      source.current.rest.length + source.phase.parts + (playback.channel.map messageParts).sum
  | _ => 0

section Draining

variable {books : PlaybackBooks F} {tokens : CancellationTokens}
  {playback : ProgressivePlayback F} {played : Playback F} {source : ProgressivePlaybackSource F}

/-- A source that has ended stays as it is. -/
theorem consume_of_ended (place : playback.place = .attached source) (ended : source.phase = .ended) :
    playback.consume tokens false = (playback, []) := by
  rw [ProgressivePlayback.consume, place]
  dsimp only
  rw [ended]

/-- **Progress.** Without its producer, a source that has not ended has less to do after
each part of a call. -/
theorem Plays.progress (plays : Plays books tokens playback played source)
    (place : playback.place = .attached source) (gone : playback.producer = none)
    (active : source.phase ≠ .ended) :
    (playback.consume tokens false).1.remaining < playback.remaining := by
  unfold ProgressivePlayback.consume
  rw [place]
  dsimp only
  cases phase : source.phase with
  | checking =>
      cases left : source.current.rest with
      | nil =>
          rw [ProgressivePlaybackSource.check_of_nil plays.playing plays.unrequested left]
          unfold ProgressivePlayback.remaining
          rw [place]
          dsimp only
          rw [phase]
          exact Nat.add_lt_add_right (Nat.lt_succ_self _) _
      | cons sample more =>
          have tail := (BufferSource.next_of_cons left).2
          rw [ProgressivePlaybackSource.check_of_cons plays.playing plays.unrequested left]
          unfold ProgressivePlayback.remaining
          rw [place]
          dsimp only [ProgressivePlaybackSource.called]
          rw [tail, left, List.length_cons]
          omega
  | waiting =>
      dsimp only
      by_cases queued : playback.channel = []
      · have received : playback.receive = (.disconnected, playback.channel) := by
          rw [ProgressivePlayback.receive, queued, gone]
          rfl
        rw [received]
        unfold ProgressivePlayback.remaining
        rw [place]
        dsimp only [ProgressivePlaybackSource.receive, ProgressivePlaybackSource.finish,
          ProgressivePlaybackSource.report]
        rw [phase]
        exact Nat.add_lt_add_right (Nat.lt_succ_self _) _
      · obtain ⟨message, rest, queued⟩ := List.exists_cons_of_ne_nil queued
        have flows := plays.phase
        rw [PhaseKept, phase] at flows
        obtain ⟨_, ended, _⟩ := flows
        unfold ProgressivePlayback.remaining
        rw [place]
        cases message with
        | audio window more =>
            have received : playback.receive = (.audio window more, rest) := by
              rw [ProgressivePlayback.receive, queued]
            rw [received, queued]
            dsimp only [ProgressivePlaybackSource.receive]
            rw [phase, ended]
            have arrived : (BufferSource.new window).rest = window := rfl
            simp only [arrived, SourcePhase.parts, List.map_cons, List.sum_cons, messageParts,
              List.length_nil]
            omega
        | complete more =>
            have received : playback.receive = (.complete more, rest) := by
              rw [ProgressivePlayback.receive, queued]
            rw [received, queued]
            dsimp only [ProgressivePlaybackSource.receive]
            rw [ProgressivePlaybackSource.reportCuesAtCurrentFrame_eq]
            dsimp only [ProgressivePlaybackSource.finish, ProgressivePlaybackSource.report]
            rw [phase, ended]
            simp only [SourcePhase.parts, List.map_cons, List.sum_cons, messageParts,
              List.length_nil]
            omega
  | ended => exact absurd phase active

end Draining

section Guarantees

variable {history : ProgressiveHistory F}

/-- A source that is not attached is left alone. -/
theorem drained_of_unattached (unattached : history.playback.place.isAttached = false)
    (parts : Nat) : history.drained parts = history := by
  induction parts with
  | zero => rfl
  | succ parts ih =>
      have idle : history.consume = history := by
        have nothing : history.playback.consume history.control.tokens false =
            (history.playback, []) := by
          unfold ProgressivePlayback.consume
          cases place : history.playback.place with
          | attached source =>
              rw [place] at unattached
              cases unattached
          | pendingAttachment source generation => rfl
          | dropped completion => rfl
        rw [ProgressiveHistory.consume, nothing, List.append_nil]
      rw [ProgressiveHistory.drained, idle]
      exact ih

/-- **A source without producer ends**, after so many parts of calls. -/
theorem drained_ended (consistent : Consistent history) (gone : history.playback.producer = none)
    (attached : history.playback.place.isAttached = true) {parts : Nat}
    (enough : history.playback.remaining ≤ parts) :
    ∃ source, (history.drained parts).playback.place = .attached source ∧
      source.phase = .ended ∧
      Plays history.books (history.drained parts).control.tokens (history.drained parts).playback
        (history.drained parts).played source := by
  induction parts generalizing history with
  | zero =>
      rcases consistent.places with ⟨completion, place, _⟩ | ⟨source, place, kept, count, knows, plays⟩ |
        ⟨source, generation, place, _⟩
      · rw [place] at attached
        cases attached
      · refine ⟨source, place, ?_, plays⟩
        by_contra active
        have progress := plays.progress place gone active
        omega
      · rw [place] at attached
        cases attached
  | succ parts ih =>
      rcases consistent.places with ⟨completion, place, _⟩ | ⟨source, place, kept, count, knows, plays⟩ |
        ⟨source, generation, place, _⟩
      · rw [place] at attached
        cases attached
      · obtain ⟨source', place', alive, plays'⟩ := plays.consume kept place fun producer there =>
          (knows producer there).2.unfinished
        have fewer : history.consume.playback.remaining ≤ parts := by
          by_cases ended : source.phase = .ended
          · have idle : history.playback.consume history.control.tokens false =
                (history.playback, []) := consume_of_ended place ended
            have flows := plays.phase
            rw [PhaseKept, ended] at flows
            obtain ⟨_, rest, _, empty, _⟩ := flows
            have nothing : history.playback.remaining = 0 := by
              unfold ProgressivePlayback.remaining
              rw [place]
              dsimp only
              rw [rest, ended, empty]
              rfl
            rw [ProgressiveHistory.consume, idle]
            exact nothing.le.trans (Nat.zero_le _)
          · exact Nat.le_of_lt_succ ((plays.progress place gone ended).trans_le enough)
        have attached' : history.consume.playback.place.isAttached = true := by
          rw [show history.consume.playback.place = .attached source' from place']
          rfl
        exact ih consistent.consume (alive.trans gone) attached' fewer
      · rw [place] at attached
        cases attached

/-- What an ended source has played. -/
theorem Plays.ended {books : PlaybackBooks F} {tokens : CancellationTokens}
    {playback : ProgressivePlayback F} {played : Playback F} {source : ProgressivePlaybackSource F}
    (plays : Plays books tokens playback played source) (ended : source.phase = .ended) :
    ticks played = books.pushed.map (·, Gain.unity) ∧ marks played ++ source.cues = books.sent ∧
      CuesAhead (books.pushed.length + 1) source.cues ∧
      (books.finished = true → source.cues = []) ∧
      source.completion = some (if books.finished then PlaybackStatus.completed else .cancelled) := by
  have flows := plays.phase
  rw [PhaseKept, ended] at flows
  obtain ⟨told, rest, ahead, empty, _, all⟩ := flows
  have samples := plays.samples
  have cues := plays.cues
  have length := plays.length
  rw [rest, empty] at samples length
  rw [empty] at cues
  have total : source.position = books.pushed.length := length
  refine ⟨?_, ?_, total ▸ ahead, all, told⟩
  · exact (List.append_nil _).symm.trans samples
  · exact (congrArg (marks played ++ ·) (List.append_nil _)).symm.trans cues

/-! ## Told once -/

/-- A source that is gone stays gone, with what its ticket was told. -/
theorem next_of_dropped {completion : PlaybackCompletion}
    (place : history.playback.place = .dropped completion) (step : PlaybackStep F) :
    (history.next step).playback.place = .dropped completion := by
  have idle : history.consume.playback.place = .dropped completion := by
    rw [ProgressiveHistory.consume]
    unfold ProgressivePlayback.consume
    rw [place]
    exact place
  have dropped : history.playback.dropProducer.place = .dropped completion := by
    rw [dropProducer_of_dropped place]
    exact place
  unfold ProgressiveHistory.next
  split
  · rename_i producer alive
    cases step with
    | useLetterNavigationPrebuffer =>
        show (history.playback.useLetterNavigationPrebuffer producer history.control).playback.place = _
        unfold ProgressivePlayback.useLetterNavigationPrebuffer
        split
        · exact place
        · exact place
    | pushAudio audio queue =>
        show (history.playback.pushAudio producer history.control queue audio).playback.place = _
        unfold ProgressivePlayback.pushAudio
        split
        · exact place
        · split
          · exact place
          · dsimp only
            obtain ⟨error, failed⟩ := send_of_dropped place
            rw [failed]
            exact place
    | pushCues cues =>
        show (history.playback.pushCues producer history.control cues).playback.place = _
        unfold ProgressivePlayback.pushCues
        split
        · exact place
        · exact place
    | finish queue =>
        show (history.playback.finish producer history.control queue).playback.place = _
        unfold ProgressivePlayback.finish
        split
        · exact dropped
        · dsimp only
          obtain ⟨error, failed⟩ := send_of_dropped place
          rw [failed]
          exact dropped
    | drop => exact dropped
    | consume => exact idle
  · split
    · exact idle
    · exact place

/-- **A ticket is told once.** -/
theorem Consistent.ticket_next (consistent : Consistent history) {status : PlaybackStatus}
    (told : history.ticket = some status) (step : PlaybackStep F) :
    (history.next step).ticket = some status := by
  rcases consistent.places with ⟨completion, place, _⟩ | ⟨source, place, kept, count, knows, plays⟩ |
    ⟨source, generation, place, kept, count, silent, known, same, tokens, flows, held⟩
  · rw [ProgressiveHistory.ticket, next_of_dropped place]
    rw [ProgressiveHistory.ticket, place] at told
    exact told
  · have completion : source.completion = some status := by
      rw [ProgressiveHistory.ticket, place] at told
      exact told
    have flows := plays.phase
    unfold PhaseKept at flows
    cases phase : source.phase with
    | checking =>
        rw [phase] at flows
        rw [flows.1] at completion
        cases completion
    | waiting =>
        rw [phase] at flows
        rw [flows.1] at completion
        cases completion
    | ended =>
        rw [phase] at flows
        have gone := flows.2.2.2.2.1
        have idle : history.consume = history := by
          rw [ProgressiveHistory.consume, consume_of_ended place phase, List.append_nil]
        have stays : history.next step = history := by
          unfold ProgressiveHistory.next
          rw [gone]
          dsimp only
          split
          · exact idle
          · rfl
        rw [stays]
        exact told
  · rw [ProgressiveHistory.ticket, place, held.source] at told
    cases told

theorem Consistent.ticket_run (consistent : Consistent history) {status : PlaybackStatus}
    (told : history.ticket = some status) (steps : List (PlaybackStep F)) :
    (history.run steps).ticket = some status := by
  induction steps generalizing history with
  | nil => exact told
  | cons step rest ih => exact ih (consistent.next step) (consistent.ticket_next told step)

/-! ## The guarantees -/

/-- The buffered playback of the published samples with the accepted cues. -/
def PlaybackBooks.buffered (books : PlaybackBooks F)
    (requestCancellation streamCancellation : Option CancellationToken) (fadeFrames : Option Nat) :
    TrackedBufferSource F :=
  .newWithCueOptions books.pushed books.accepted requestCancellation streamCancellation fadeFrames

/-- What holds at every moment of a progressive playback without cancellations. -/
structure KeepsToBuffered (history : ProgressiveHistory F) : Prop where
  /-- Rejected cues change nothing. -/
  rejected_cues : ∀ producer cues error, history.playback.producer = some producer →
    (history.playback.pushCues producer history.control cues).answer = some (.error error) →
      history.next (.pushCues cues) = history
  /-- A rejected end drops the producer, and nothing else of a source that is attached. -/
  rejected_finish_attached : ∀ producer queue error, history.playback.producer = some producer →
    (history.playback.finish producer history.control queue).answer = some (.error error) →
      history.playback.place.isAttached = true →
        history.next (.finish queue) =
          { history with playback := { history.playback with producer := none } }
  /-- A rejected end cancels a source that is not attached. -/
  rejected_finish_pending : ∀ producer queue error, history.playback.producer = some producer →
    (history.playback.finish producer history.control queue).answer = some (.error error) →
      history.playback.place.isAttached = false →
        (history.next (.finish queue)).ticket = some .cancelled
  /-- A finished stream is played as the buffered source plays it. -/
  finished : history.books.finished = true → ∀ parts, history.playback.remaining ≤ parts →
    ∀ requestCancellation streamCancellation fadeFrames tokens,
      (PlaybackCancellation.new requestCancellation streamCancellation fadeFrames).isRequested tokens =
          false →
      ∀ calls, history.books.pushed.length < calls →
        (history.drained parts).played =
            (TrackedBufferSource.play tokens calls
              (history.books.buffered requestCancellation streamCancellation fadeFrames)).2 ∧
          (TrackedBufferSource.play tokens calls
            (history.books.buffered requestCancellation streamCancellation fadeFrames)).1.completion =
            some .completed
  /-- The accepted cues are those the buffered source is prepared with. -/
  prepared : history.books.finished = true →
    preparePlaybackCues history.books.accepted (history.books.pushed.length / CHANNELS) =
      .ok history.books.accepted
  /-- A finished stream yields what was published, each accepted cue at its frame, and
  completes. -/
  completes : history.books.finished = true → ∀ parts, history.playback.remaining ≤ parts →
    ticks (history.drained parts).played = history.books.pushed.map (·, Gain.unity) ∧
      marks (history.drained parts).played = history.books.accepted ∧
      TimedFrom PlaybackCue.time 0 (history.drained parts).played ∧
      (history.drained parts).ticket = some .completed
  /-- Without an end, the ticket is told of a cancellation. A source that is attached plays
  what was sent to it all the same. -/
  unfinished : history.books.finished = false → history.playback.producer = none →
    ∀ parts, history.playback.remaining ≤ parts →
      (history.drained parts).ticket = some .cancelled ∧
        (history.playback.place.isAttached = true →
          ticks (history.drained parts).played = history.books.pushed.map (·, Gain.unity) ∧
          TimedFrom PlaybackCue.time 0 (history.drained parts).played ∧
          marks (history.drained parts).played = history.books.sent.filter fun cue =>
            decide (cue.time ≤ history.books.pushed.length))
  /-- The source is attached at most once. -/
  attached_once : history.attachments ≤ 1
  /-- No send waits for a source that is not attached. -/
  never_waits : history.playback.place.isAttached = false → ∀ producer message,
    history.playback.producer = some producer →
      history.playback.send producer history.control.tokens message ≠ .full
  /-- The ticket is told once. -/
  told_once : ∀ status, history.ticket = some status → ∀ steps,
    (history.run steps).ticket = some status

theorem rejected_cues (history : ProgressiveHistory F)
    {producer : ProgressivePlaybackProducer} {cues : List PlaybackCue} {error : AudioError}
    (alive : history.playback.producer = some producer)
    (rejected : (history.playback.pushCues producer history.control cues).answer =
      some (.error error)) : history.next (.pushCues cues) = history := by
  unfold ProgressiveHistory.next
  rw [alive]
  show history.record (history.playback.pushCues producer history.control cues) _ = history
  unfold ProgressivePlayback.pushCues at *
  cases checked : producer.checkCues cues with
  | error text => exact record_unchanged (by simp)
  | ok last =>
      rw [checked] at rejected
      cases rejected

theorem Consistent.rejected_finish_attached (consistent : Consistent history)
    {producer : ProgressivePlaybackProducer} {queue : QueueAnswer} {error : AudioError}
    (alive : history.playback.producer = some producer)
    (rejected : (history.playback.finish producer history.control queue).answer =
      some (.error error))
    {source : ProgressivePlaybackSource F} (place : history.playback.place = .attached source) :
    history.next (.finish queue) =
      { history with playback := { history.playback with producer := none } } := by
  unfold ProgressiveHistory.next
  rw [alive]
  show history.record (history.playback.finish producer history.control queue) _ = _
  unfold ProgressivePlayback.finish at *
  cases beyond : producer.lastCueOffset.filter fun offset =>
      decide (producer.publishedFrames < offset) with
  | some offset =>
      dsimp only
      rw [record_dropProducer, dropProducer_of_attached place]
  | none =>
      -- an end that is not beyond is accepted, or waits for room
      rw [beyond] at rejected
      dsimp only at rejected
      have tokens : ProducerTokens history.control producer := by
        unfold Consistent at consistent
        rw [place] at consistent
        exact (consistent.2.2.1 producer alive).1
      have active : producer.takeCues.isCancelled history.control.tokens = false :=
        tokens.not_cancelled
      rw [send_of_present active (by simp [place])] at rejected
      by_cases room : history.playback.channel.length < PROGRESSIVE_PLAYBACK_CAPACITY
      · rw [if_pos room] at rejected
        dsimp only at rejected
        rw [attachIfPrimed_of_attached] at rejected
        · cases rejected
        · exact place
      · rw [if_neg room] at rejected
        cases rejected

/-- **A rejected end cancels a source that is not attached.** -/
theorem Consistent.rejected_finish_pending (consistent : Consistent history)
    {producer : ProgressivePlaybackProducer} {queue : QueueAnswer} {error : AudioError}
    (alive : history.playback.producer = some producer)
    (rejected : (history.playback.finish producer history.control queue).answer =
      some (.error error))
    (unattached : history.playback.place.isAttached = false) :
    (history.next (.finish queue)).ticket = some .cancelled := by
  rcases consistent.places with ⟨completion, place, told, _⟩ | ⟨source, place, _⟩ |
    ⟨source, generation, place, kept, count, silent, known, same, tokens, flows, held⟩
  · rw [ProgressiveHistory.ticket, next_of_dropped place]
    exact told
  · rw [place] at unattached
    cases unattached
  · obtain rfl : known = producer := Option.some.inj (same.symm.trans alive)
    unfold ProgressiveHistory.next
    rw [alive]
    show (history.playback.finish known history.control queue).playback.place.ticket = _
    unfold ProgressivePlayback.finish at *
    cases beyond : known.lastCueOffset.filter fun offset =>
        decide (known.publishedFrames < offset) with
    | some offset =>
        dsimp only
        rw [dropProducer_of_pending place, held.source]
        rfl
    | none =>
        rw [beyond] at rejected
        dsimp only at rejected ⊢
        have active : known.takeCues.isCancelled history.control.tokens = false :=
          tokens.not_cancelled
        have taken : ProducerTokens history.control known.takeCues :=
          ⟨tokens.request_active, tokens.request_made, tokens.request_private, tokens.stream⟩
        have fresh : Fresh _ history.control _ known.takeCues source generation :=
          held.toFresh.send flows.enters_complete rfl rfl
        rw [send_of_present active (by simp [place]), if_pos held.room.1] at rejected ⊢
        dsimp only at rejected ⊢
        have attaches : Attaches
            { history.books with
              sent := history.books.sent ++ known.pendingCues
              finished := true }
            known.takeCues (ProgressivePlayback.attachIfPrimed
              { history.playback with
                producer := some known.takeCues
                channel := history.playback.channel ++ [.complete known.pendingCues] }
              known.takeCues history.control queue true) := by
          refine fresh.attachIfPrimed ?_ taken queue (Bool.true_or _)
          exact place
        rcases attaches with ⟨text, failed, gone⟩ | ⟨accepted, _⟩
        · rw [dropProducer_of_dropped gone]
          exact congrArg SourcePlace.ticket gone
        · rw [accepted] at rejected
          cases rejected

/-- A pending source leaves room in its channel, and a source that is gone refuses. -/
theorem Consistent.never_waits (consistent : Consistent history)
    (unattached : history.playback.place.isAttached = false)
    {producer : ProgressivePlaybackProducer} {message : ProgressivePlaybackMessage F}
    (alive : history.playback.producer = some producer) :
    history.playback.send producer history.control.tokens message ≠ .full := by
  rcases consistent.places with ⟨completion, place, _⟩ | ⟨source, place, _⟩ |
    ⟨source, generation, place, kept, count, silent, known, same, tokens, flows, held⟩
  · obtain ⟨error, failed⟩ := send_of_dropped place
    rw [failed]
    intro waits
    cases waits
  · rw [place] at unattached
    cases unattached
  · obtain rfl : known = producer := Option.some.inj (same.symm.trans alive)
    rw [send_of_present tokens.not_cancelled (by simp [place]), if_pos held.room.1]
    intro waits
    cases waits

/-- A finished stream has no producer, and its source is attached. -/
theorem Consistent.finished_attached (consistent : Consistent history)
    (finished : history.books.finished = true) :
    history.playback.producer = none ∧ history.playback.place.isAttached = true ∧
      history.books.Kept := by
  rcases consistent.places with ⟨completion, place, _, unfinished, _⟩ |
    ⟨source, place, kept, count, knows, plays⟩ |
    ⟨source, generation, place, kept, count, silent, known, same, tokens, flows, held⟩
  · rw [finished] at unfinished
    cases unfinished
  · refine ⟨?_, by rw [place]; rfl, kept⟩
    rw [Option.eq_none_iff_forall_ne_some]
    intro producer alive
    have unfinished := (knows producer alive).2.unfinished
    rw [finished] at unfinished
    cases unfinished
  · have unfinished := flows.unfinished
    rw [finished] at unfinished
    cases unfinished

theorem Consistent.completes (consistent : Consistent history)
    (finished : history.books.finished = true) {parts : Nat}
    (enough : history.playback.remaining ≤ parts) :
    ticks (history.drained parts).played = history.books.pushed.map (·, Gain.unity) ∧
      marks (history.drained parts).played = history.books.accepted ∧
      TimedFrom PlaybackCue.time 0 (history.drained parts).played ∧
      (history.drained parts).ticket = some .completed := by
  obtain ⟨gone, attached, kept⟩ := consistent.finished_attached finished
  obtain ⟨source, place, ended, plays⟩ := drained_ended consistent gone attached enough
  obtain ⟨samples, cues, _, all, told⟩ := plays.ended ended
  rw [all finished, List.append_nil, (kept.finished finished).1] at cues
  rw [finished] at told
  refine ⟨samples, cues, plays.timed, ?_⟩
  rw [ProgressiveHistory.ticket, place]
  exact told

/-- **The buffered source plays the same**, and completes. -/
theorem PlaybackBooks.Kept.buffered_plays {books : PlaybackBooks F} (kept : books.Kept)
    (finished : books.finished = true)
    {requestCancellation streamCancellation : Option CancellationToken} {fadeFrames : Option Nat}
    {tokens : CancellationTokens}
    (unrequested : (PlaybackCancellation.new requestCancellation streamCancellation
      fadeFrames).isRequested tokens = false) {calls : Nat} (enough : books.pushed.length < calls) :
    let played := TrackedBufferSource.play tokens calls
      (books.buffered requestCancellation streamCancellation fadeFrames)
    TimedFrom PlaybackCue.time 0 played.2 ∧ marks played.2 = books.accepted ∧
      ticks played.2 = books.pushed.map (·, Gain.unity) ∧
      played.1.completion = some .completed := by
  have within := (kept.finished finished).2
  exact TrackedBufferSource.play_onTime
    (books.buffered requestCancellation streamCancellation fadeFrames) rfl unrequested
    kept.ordered (fun cue _ => Nat.zero_le _)
    (fun cue member => (within cue member).trans (Nat.zero_add _).ge) enough

/-- Without an end the ticket is told of a cancellation, once what was sent is played. -/
theorem Consistent.unfinished (consistent : Consistent history)
    (unfinished : history.books.finished = false) (gone : history.playback.producer = none)
    {parts : Nat} (enough : history.playback.remaining ≤ parts) :
    (history.drained parts).ticket = some .cancelled ∧
      (history.playback.place.isAttached = true →
        ticks (history.drained parts).played = history.books.pushed.map (·, Gain.unity) ∧
        TimedFrom PlaybackCue.time 0 (history.drained parts).played ∧
        marks (history.drained parts).played = history.books.sent.filter fun cue =>
          decide (cue.time ≤ history.books.pushed.length)) := by
  cases attached : history.playback.place.isAttached with
  | true =>
      obtain ⟨source, place, ended, plays⟩ := drained_ended consistent gone attached enough
      obtain ⟨samples, cues, later, _, told⟩ := plays.ended ended
      rw [unfinished] at told
      have length : (ticks (history.drained parts).played).length = history.books.pushed.length := by
        rw [samples, List.length_map]
      refine ⟨?_, fun _ => ⟨samples, plays.timed, ?_⟩⟩
      · rw [ProgressiveHistory.ticket, place]
        exact told
      · -- what was called back is within the samples, and what is left is beyond them
        have before : ∀ cue ∈ marks (history.drained parts).played,
            decide (cue.time ≤ history.books.pushed.length) = true := by
          intro cue member
          have bound := TimedFrom.due_le (l := (history.drained parts).played) plays.timed member
          rw [Nat.zero_add, length] at bound
          exact decide_eq_true bound
        have after : ∀ cue ∈ source.cues, ¬decide (cue.time ≤ history.books.pushed.length) = true :=
          fun cue member within => absurd (of_decide_eq_true within) (Nat.not_le.mpr (later cue member))
        rw [← cues, List.filter_append, List.filter_eq_self.mpr before,
          List.filter_eq_nil_iff.mpr after, List.append_nil]
  | false =>
      rw [drained_of_unattached attached]
      refine ⟨?_, fun contradiction => nomatch contradiction⟩
      rcases consistent.places with ⟨completion, place, told, _⟩ | ⟨source, place, _⟩ |
        ⟨source, generation, place, kept, count, silent, known, same, _⟩
      · rw [ProgressiveHistory.ticket, place]
        exact told
      · rw [place] at attached
        cases attached
      · rw [gone] at same
        cases same

theorem Consistent.keepsToBuffered (consistent : Consistent history) : KeepsToBuffered history where
  rejected_cues _ _ _ alive rejected := rejected_cues history alive rejected
  rejected_finish_attached producer queue error alive rejected attached := by
    cases place : history.playback.place with
    | attached source => exact consistent.rejected_finish_attached alive rejected place
    | pendingAttachment source generation =>
        rw [place] at attached
        cases attached
    | dropped completion =>
        rw [place] at attached
        cases attached
  rejected_finish_pending _ _ _ alive rejected unattached :=
    consistent.rejected_finish_pending alive rejected unattached
  finished finished parts enough request stream fadeFrames tokens unrequested calls more := by
    obtain ⟨samples, cues, timed, _⟩ := consistent.completes finished enough
    obtain ⟨_, _, kept⟩ := consistent.finished_attached finished
    obtain ⟨timed', cues', samples', told⟩ := kept.buffered_plays finished unrequested more
    exact ⟨timed.unique timed' (cues.trans cues'.symm) (samples.trans samples'.symm), told⟩
  prepared finished := by
    obtain ⟨_, _, kept⟩ := consistent.finished_attached finished
    refine preparePlaybackCues_of_ordered kept.ordered fun cue member => ?_
    have bound := (kept.finished finished).2 cue member
    unfold PlaybackCue.time CHANNELS at bound
    unfold CHANNELS
    omega
  completes finished _ enough := consistent.completes finished enough
  unfinished unfinished gone _ enough := consistent.unfinished unfinished gone enough
  attached_once := by
    rcases consistent.places with ⟨_, _, _, _, count, _⟩ | ⟨_, _, _, count, _⟩ | ⟨_, _, _, _, count, _⟩
    · exact count.le.trans zero_le_one
    · exact count.le
    · exact count.le.trans zero_le_one
  never_waits unattached _ _ alive := consistent.never_waits unattached alive
  told_once _ told steps := consistent.ticket_run told steps

end Guarantees

/-- **Progressive playback is buffered playback**, from the moment it is queued, in every
run without cancellations. -/
theorem progressive_playback_equals_buffered {control control' : AudioControl}
    {cancellation : CancellationToken} {null : Bool} {queue : QueueAnswer}
    {playback : ProgressivePlayback F} (request : RequestToken control cancellation)
    (queued : queueProgressiveSpeech control cancellation null queue = (control', .ok playback))
    (steps : List (PlaybackStep F)) :
    KeepsToBuffered ((ProgressiveHistory.start control' playback).run steps) :=
  ((consistent_queued request queued).run steps).keepsToBuffered

/-! ## A short stream -/

/-- The queue accepts what it is given. -/
def openQueue : QueueAnswer := ⟨false, none⟩

/-- A stream that was queued for a device. -/
def queuedStream : ProgressiveHistory Nat :=
  let control := AudioControl.new.newRequest
  match queueProgressiveSpeech control.1 control.2 false openQueue with
  | (control, .ok playback) => .start control playback
  | (control, .error _) => .start control ⟨none, [], .dropped none⟩

/-- One window, and a cue beyond it. -/
def shortStream : List (PlaybackStep Nat) :=
  [.pushAudio [(7, 8)] openQueue, .pushCues [⟨5, 1⟩]]

/-- The published window is never played: the end is rejected while the source is pending. -/
theorem rejected_finish_discards_pending :
    (queuedStream.run shortStream).books.pushed = [7, 8] ∧
      (queuedStream.run (shortStream ++ [.finish openQueue])).ticket = some .cancelled ∧
      ((queuedStream.run (shortStream ++ [.finish openQueue])).drained 10).played = [] := by
  decide

/-- The guarantees hold on the way to the rejected end. -/
theorem progressive_playback_equals_buffered_short :
    KeepsToBuffered (queuedStream.run shortStream) :=
  have request : RequestToken AudioControl.new.newRequest.1 AudioControl.new.newRequest.2 :=
    ⟨rfl, by decide, by decide⟩
  have queued : queueProgressiveSpeech AudioControl.new.newRequest.1
      AudioControl.new.newRequest.2 false openQueue =
        (queuedStream.control, .ok queuedStream.playback) := rfl
  progressive_playback_equals_buffered request queued shortStream

end Omnivox.Audio
