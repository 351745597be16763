import Mathlib
import Omnivox.Audio.AudioStreams
import Omnivox.Audio.StoppedItems

/-!
# A stop wins over what is queued

A step of the streams lets every item take a step, and admits items of the current
generation (`AudioStreams.advances_next`). So does a run. A stop of a stream overtakes
every item of the stream, and what follows is a run.

A stop wins over an item whatever happens after it, unless its source was about to complete
(`stop_wins_iff`).
-/

set_option autoImplicit false

namespace Omnivox.Audio

open Foundations

variable {F : Type}

namespace PlaybackItem

variable {first second third : AudioControl} {item item' item'' : PlaybackItem F}

theorem Steps.trans (early : Steps first second item item') (late : Steps second third item' item'') :
    Steps first third item item'' where
  stream := late.stream.trans early.stream
  captured := late.captured.trans early.captured
  kept kept := late.kept (early.kept kept)
  halted kept halted := by
    obtain ⟨halted', settles⟩ := early.halted kept halted
    obtain ⟨halted'', settles'⟩ := late.halted (early.kept kept) halted'
    exact ⟨halted'', settles.trans settles'⟩
  told kept halted unread := by
    obtain ⟨unread', told⟩ := early.told kept halted unread
    obtain ⟨unread'', told'⟩ := late.told (early.kept kept) (early.halted kept halted).1 unread'
    exact ⟨unread'', told.trans told'⟩

/-- A queue drops no item that is not in it. -/
theorem clear_of_not_live (out : item.isLive = false) : item.clear = item := by
  unfold isLive at out
  unfold clear
  split
  · rename_i source state
    rw [state] at out
    cases out
  · rename_i playback state
    rw [state] at out
    dsimp only at out
    split
    · rename_i source place
      rw [place] at out
      cases out
    · rfl
  · rfl

end PlaybackItem

namespace AudioStreams

/-! ## Steps of the streams -/

/-- Every item is kept. -/
def Kept (streams : AudioStreams F) : Prop := ∀ item ∈ streams.items, item.Kept streams.control

/-- The items take steps, and new ones have captured the generation of some time since. -/
structure Advances (streams streams' : AudioStreams F) : Prop where
  kind : streams'.kind = streams.kind
  later : streams.control.Later streams'.control
  generation : streams.generation ≤ streams'.generation
  items : Evolves (PlaybackItem.Steps streams.control streams'.control) streams.items streams'.items
  admitted : ∀ (i : Nat) (item : PlaybackItem F), streams'.items[i]? = some item →
    streams.items.length ≤ i → item.Kept streams'.control ∧ streams.generation ≤ item.captured

variable {streams streams' streams'' : AudioStreams F}

theorem Advances.kept (advances : Advances streams streams') (kept : streams.Kept) :
    streams'.Kept := by
  intro item' member
  obtain ⟨i, found'⟩ := List.mem_iff_getElem?.mp member
  rcases Nat.lt_or_ge i streams.items.length with before | new
  · have found := List.getElem?_eq_getElem before
    obtain ⟨item'', found'', steps⟩ := advances.items i _ found
    obtain rfl := Option.some.inj (found'.symm.trans found'')
    exact steps.kept (kept _ (List.mem_of_getElem? found))
  · exact (advances.admitted i item' found' new).1

theorem Advances.refl (streams : AudioStreams F) : Advances streams streams where
  kind := rfl
  later := .refl _
  generation := le_rfl
  items := Evolves.refl (PlaybackItem.steps_same (.refl _)) _
  admitted i item found past := by
    rw [List.getElem?_eq_none past] at found
    cases found

theorem Advances.trans (early : Advances streams streams') (late : Advances streams' streams'') :
    Advances streams streams'' where
  kind := late.kind.trans early.kind
  later := early.later.trans late.later
  generation := early.generation.trans late.generation
  items := early.items.trans late.items fun _ _ _ => PlaybackItem.Steps.trans
  admitted i item'' found'' new := by
    rcases Nat.lt_or_ge i streams'.items.length with before | new'
    · have found' := List.getElem?_eq_getElem before
      obtain ⟨kept, captured⟩ := early.admitted i _ found' new
      obtain ⟨item, found, steps⟩ := late.items i _ found'
      obtain rfl := Option.some.inj (found''.symm.trans found)
      exact ⟨steps.kept kept, captured.trans steps.captured.ge⟩
    · obtain ⟨kept, captured⟩ := late.admitted i item'' found'' new'
      exact ⟨kept, early.generation.trans captured⟩

/-- A change of the control alone. -/
theorem advances_control (streams : AudioStreams F) {control : AudioControl}
    (later : streams.control.Later control) {generation : Nat}
    (forward : streams.generation ≤ generation) :
    Advances streams { streams with control := control, generation := generation } where
  kind := rfl
  later := later
  generation := forward
  items := Evolves.refl (PlaybackItem.steps_same later) _
  admitted i item found past := by
    have none : streams.items[i]? = none := List.getElem?_eq_none past
    cases found.symm.trans none

/-- A change of one item, with a change of the control. -/
theorem advances_set (streams : AudioStreams F) {control : AudioControl}
    (later : streams.control.Later control) {i : Nat} {item item' : PlaybackItem F}
    (there : streams.items[i]? = some item)
    (steps : PlaybackItem.Steps streams.control control item item') :
    Advances streams { streams with control := control, items := streams.items.set i item' } where
  kind := rfl
  later := later
  generation := le_rfl
  items := evolves_set (PlaybackItem.steps_same later) there steps
  admitted j other found past := by
    have none : (streams.items.set i item')[j]? = none := by
      rw [List.getElem?_eq_none_iff, List.length_set]
      exact past
    cases found.symm.trans none

theorem advances_modify (streams : AudioStreams F) (i : Nat)
    {change : PlaybackItem F → PlaybackItem F}
    (steps : ∀ item, streams.items[i]? = some item →
      PlaybackItem.Steps streams.control streams.control item (change item)) :
    Advances streams (streams.modify i change) := by
  unfold modify
  split
  · rename_i item there
    exact streams.advances_set (.refl _) there (steps item there)
  · exact Advances.refl streams

theorem advances_admitItem (streams : AudioStreams F) {item : PlaybackItem F}
    (kept : item.Kept streams.control) (captured : item.captured = streams.generation) :
    Advances streams (streams.admitItem item) where
  kind := rfl
  later := .refl _
  generation := le_rfl
  items := evolves_append (PlaybackItem.steps_same (.refl _)) _ _
  admitted i found there new := by
    have there : (streams.items ++ [item])[i]? = some found := there
    rw [List.getElem?_append_right new] at there
    have same := List.mem_singleton.mp (List.mem_of_getElem? there)
    rw [same]
    exact ⟨kept, captured.ge⟩

/-- An item that another one may be cleared beside. -/
theorem steps_cleared (stream : StreamType) {control control' : AudioControl}
    (later : control.Later control') (item : PlaybackItem F) :
    PlaybackItem.Steps control control' item
      (if item.stream = stream then item.clear else item) := by
  split
  · exact PlaybackItem.steps_clear later item
  · exact PlaybackItem.steps_same later item

theorem advances_clear (streams : AudioStreams F) (stream : StreamType) :
    Advances streams (streams.clear stream) where
  kind := rfl
  later := .refl _
  generation := le_rfl
  items := evolves_map fun item _ => steps_cleared stream (.refl _) item
  admitted i item found past := by
    have none : (streams.clear stream).items[i]? = none := by
      rw [List.getElem?_eq_none_iff, clear, List.length_map]
      exact past
    cases found.symm.trans none

theorem advances_prepareQueue (streams : AudioStreams F) (stream : StreamType) :
    Advances streams (streams.prepareQueue stream) := by
  unfold prepareQueue
  split
  · exact streams.advances_clear stream
  · exact Advances.refl streams

theorem control_prepareQueue (streams : AudioStreams F) (stream : StreamType) :
    (streams.prepareQueue stream).control = streams.control ∧
      (streams.prepareQueue stream).generation = streams.generation := by
  unfold prepareQueue
  split
  · exact ⟨rfl, rfl⟩
  · exact ⟨rfl, rfl⟩

/-- Making room leaves an item that is not in the queue. -/
theorem prepareQueue_getElem? {i : Nat} {item : PlaybackItem F} (stream : StreamType)
    (there : streams.items[i]? = some item) (out : item.isLive = false) :
    (streams.prepareQueue stream).items[i]? = some item := by
  unfold prepareQueue
  split
  · have cleared : (streams.clear stream).items[i]? =
        some (if item.stream = stream then item.clear else item) := by
      rw [clear, List.getElem?_map, there]
      rfl
    rw [cleared, PlaybackItem.clear_of_not_live out, ite_self]
  · exact there

theorem advances_stop (streams : AudioStreams F) (stream : StreamType) :
    Advances streams (streams.stop stream) := by
  have stopped := streams.advances_control (streams.control.later_stop stream)
    (le_refl streams.generation)
  unfold stop
  dsimp only
  split
  · exact stopped.trans (advances_clear _ stream)
  · exact stopped

theorem advances_interruptOutput (streams : AudioStreams F) (replaces : Bool) :
    Advances streams (streams.interruptOutput replaces) := by
  have interrupted := streams.advances_control streams.control.later_interruptOutput
    (Nat.le_succ streams.generation)
  unfold interruptOutput
  dsimp only
  split
  · exact ((interrupted.trans (advances_clear _ .speech)).trans (advances_clear _ .tone)).trans
      (advances_clear _ .sound)
  · exact interrupted

theorem advances_queue (streams : AudioStreams F) (stream : StreamType) (audio : AudioBuffer F)
    (form : QueueForm) (captured : Nat) (refusal : Option AudioError) :
    Advances streams (streams.queue stream audio form captured refusal) := by
  unfold queue
  split
  · exact Advances.refl streams
  · rename_i current
    split
    · exact Advances.refl streams
    · rename_i prepared _
      split
      · exact Advances.refl streams
      · obtain ⟨control, generation⟩ := streams.control_prepareQueue stream
        have room := streams.advances_prepareQueue stream
        dsimp only
        split
        · exact room
        · refine room.trans (advances_admitItem _ ?_ ?_)
          · rw [control]
            exact PlaybackItem.kept_newSource _ _ _ _ _ _
          · rw [generation]
            exact not_not.mp current

theorem advances_scheduleOverlay (streams : AudioStreams F) (stream : StreamType)
    (audio : AudioBuffer F) (cancellation : Option CancellationToken) (captured : Nat) :
    Advances streams (streams.scheduleOverlay stream audio cancellation captured) := by
  unfold scheduleOverlay
  split
  · exact Advances.refl streams
  · rename_i admitted
    refine streams.advances_admitItem ⟨le_rfl, rfl⟩ ?_
    exact not_not.mp (not_or.mp admitted).2

/-- A change of one item that is not in its queue, once there is room in it. -/
theorem advances_prepared (streams : AudioStreams F) (stream : StreamType)
    {control : AudioControl} (later : streams.control.Later control) {i : Nat}
    {item item' : PlaybackItem F} (there : streams.items[i]? = some item)
    (out : item.isLive = false)
    (steps : PlaybackItem.Steps streams.control control item item') :
    Advances streams { streams.prepareQueue stream with
      control := control
      items := (streams.prepareQueue stream).items.set i item' } := by
  obtain ⟨same, _⟩ := streams.control_prepareQueue stream
  refine (streams.advances_prepareQueue stream).trans (advances_set _ ?_
    (prepareQueue_getElem? stream there out) ?_)
  · rw [same]
    exact later
  · rw [same]
    exact steps

theorem advances_queueOverlay (streams : AudioStreams F) (i : Nat)
    (refusal : Option AudioError) : Advances streams (streams.queueOverlay i refusal) := by
  unfold queueOverlay
  split
  · rename_i item there
    have steps : PlaybackItem.Steps streams.control streams.control item
        (item.queueOverlay streams.control refusal) := item.steps_queueOverlay refusal
    dsimp only
    split
    · rename_i admitted
      have out : item.isLive = false := by
        unfold PlaybackItem.overlayAdmitted at admitted
        unfold PlaybackItem.isLive
        split at admitted
        · rename_i state
          rw [state]
        · cases admitted
      obtain ⟨same, _⟩ := streams.control_prepareQueue item.stream
      refine streams.advances_prepared item.stream ?_ there out ?_
      · rw [same]
        exact .refl _
      · rw [same]
        exact steps
    · exact streams.advances_set (.refl _) there steps
  · exact Advances.refl streams

theorem advances_attach (kept : streams.Kept) (i : Nat) (force : Bool)
    (refusal : Option AudioError) : Advances streams (streams.attach i force refusal) := by
  unfold attach
  split
  · rename_i item there
    have steps := PlaybackItem.steps_attach (kept item (List.mem_of_getElem? there))
      ⟨streams.backlogFull .speech, refusal⟩ force
    have later := item.later_attach streams.control ⟨streams.backlogFull .speech, refusal⟩ force
    dsimp only
    split
    · rename_i ready
      have out : item.isLive = false := by
        unfold PlaybackItem.readyToAttach at ready
        split at ready
        · rename_i playback state
          refine PlaybackItem.isLive_of_unattached state fun source place => ?_
          obtain ⟨producer, _, ready⟩ := (Option.any_eq_true _ _).mp ready
          rw [ProgressivePlayback.readyToAttach, place] at ready
          cases ready
        · cases ready
      exact streams.advances_prepared .speech later there out steps
    · exact streams.advances_set later there steps
  · exact Advances.refl streams

/-- A new progressive source is kept. -/
theorem kept_queueProgressiveSpeech (control : AudioControl) (cancellation : CancellationToken)
    (null : Bool) (queue : QueueAnswer) :
    control.Later (queueProgressiveSpeech (F := F) control cancellation null queue).1 ∧
      ∀ playback : ProgressivePlayback F,
        (queueProgressiveSpeech control cancellation null queue).2 = .ok playback →
        ∀ captured, PlaybackItem.Kept
          (queueProgressiveSpeech (F := F) control cancellation null queue).1
          ⟨.speech, captured, null, 0, .progressive playback⟩ := by
  have later : control.Later (if queue.backlogFull then control.replaceSpeechStop else control) := by
    split
    · exact control.later_replaceStop .speech
    · exact .refl _
  unfold queueProgressiveSpeech
  generalize (if queue.backlogFull then control.replaceSpeechStop else control) = control' at *
  have new : ∀ playback : ProgressivePlayback F,
      playback.producer = some (newProducer cancellation control'.speechStopCancellation) →
      playback.channel = [] →
      SourceKept control' playback 0 (ProgressivePlaybackSource.new cancellation
        control'.speechStopCancellation (some SPEECH_STOP_FADE_FRAMES)) := by
    intro playback alive silent
    refine ⟨⟨rfl, ?_⟩, fun _ fading => (nomatch fading), rfl, ?_, rfl, ?_,
      fun waiting => (nomatch waiting), rfl⟩
    · rintro _ ⟨⟩
      exact ⟨_, rfl, Or.inl rfl⟩
    · intro producer there
      rw [alive] at there
      cases there
      rfl
    · rw [silent]
      intro samples cues member
      cases member
  cases null with
  | true =>
      dsimp only
      rw [if_pos rfl]
      cases queue.refusal with
      | some error => exact ⟨later, fun _ queued => (nomatch queued)⟩
      | none =>
          refine ⟨later, ?_⟩
          rintro _ ⟨⟩ captured
          exact ⟨rfl, rfl, new _ rfl rfl⟩
  | false =>
      refine ⟨later, ?_⟩
      rintro _ ⟨⟩ captured
      exact ⟨rfl, le_rfl, rfl, new _ rfl rfl⟩

theorem advances_queueProgressive (streams : AudioStreams F) (cancellation : CancellationToken)
    (captured : Nat) (refusal : Option AudioError) :
    Advances streams (streams.queueProgressive cancellation captured refusal) := by
  unfold queueProgressive
  split
  · exact Advances.refl streams
  · rename_i current
    dsimp only
    obtain ⟨later, kept⟩ := kept_queueProgressiveSpeech (F := F) streams.control cancellation
      (decide (streams.kind = .null)) ⟨streams.backlogFull .speech, refusal⟩
    obtain ⟨same, generation⟩ := streams.control_prepareQueue .speech
    have queued : Advances streams { streams.prepareQueue .speech with
        control := (queueProgressiveSpeech (F := F) streams.control cancellation
          (decide (streams.kind = .null)) ⟨streams.backlogFull .speech, refusal⟩).1 } := by
      refine (streams.advances_prepareQueue .speech).trans (advances_control _ ?_ le_rfl)
      rw [same]
      exact later
    split
    · exact queued
    · rename_i playback there
      refine queued.trans (advances_admitItem _ (kept playback there captured) ?_)
      exact (not_not.mp current).trans generation.symm

/-! ## Runs -/

/-- **A step of the streams.** -/
theorem advances_next (kept : streams.Kept) (step : StreamStep F) :
    Advances streams (streams.next step) := by
  cases step with
  | overtake => exact streams.advances_control (.refl _) (Nat.le_succ _)
  | stop stream => exact streams.advances_stop stream
  | interruptOutput replaces => exact streams.advances_interruptOutput replaces
  | cancelRequest token =>
      have cancelled : streams.next (.cancelRequest token) = streams.cancelRequest token := rfl
      rw [cancelled, cancelRequest]
      split
      · rename_i own
        exact streams.advances_control (streams.control.later_cancelRequest token own) le_rfl
      · exact Advances.refl streams
  | queue stream audio form captured refusal =>
      exact streams.advances_queue stream audio form captured refusal
  | scheduleOverlay stream audio cancellation captured =>
      exact streams.advances_scheduleOverlay stream audio cancellation captured
  | checkOverlay i barrierCancelled =>
      exact streams.advances_modify i fun item _ => item.steps_checkOverlay barrierCancelled
  | queueOverlay i refusal => exact streams.advances_queueOverlay i refusal
  | queueProgressive cancellation captured refusal =>
      exact streams.advances_queueProgressive cancellation captured refusal
  | send i message =>
      refine streams.advances_modify i fun item _ => PlaybackItem.steps_send (.refl _) item ?_
      intro samples cues member
      have same := List.mem_singleton.mp member
      cases message with
      | window audio marks =>
          obtain ⟨rfl, _⟩ := ProgressivePlaybackMessage.audio.inj same
          rw [length_interleaved, Nat.mul_mod_right]
      | complete marks => cases same
  | dropProducer i =>
      exact streams.advances_modify i fun item _ => PlaybackItem.steps_dropProducer (.refl _) item
  | attach i force refusal => exact advances_attach kept i force refusal
  | poll i outputClosed =>
      exact streams.advances_modify i fun item there =>
        PlaybackItem.steps_poll (kept item (List.mem_of_getElem? there)) outputClosed

theorem advances_run (kept : streams.Kept) (steps : List (StreamStep F)) :
    Advances streams (streams.run steps) := by
  induction steps generalizing streams with
  | nil => exact Advances.refl streams
  | cons step steps ih =>
      have advances := advances_next kept step
      exact advances.trans (ih (advances.kept kept))

theorem kept_new (kind : SinkKind) (maxDepth : StreamType → Nat) :
    (new kind maxDepth : AudioStreams F).Kept :=
  fun _ member => (nomatch member)

end AudioStreams

/-! ## A stop -/

/-- The samples that a stop lets a source return: none before its first, and else the rest of
the frame in progress and the fade of its stream. -/
def stopAllowance (stream : StreamType) (emitted : Nat) : Nat :=
  if emitted = 0 then 0
  else
    match AudioControl.smoothStopFadeFrames stream with
    | some fadeFrames => (CHANNELS - emitted % CHANNELS) % CHANNELS + fadeFrames * CHANNELS
    | none => 0

namespace PlaybackItem

variable {control : AudioControl} {item : PlaybackItem F}

/-- **What a stop of its stream promises of an item**: it is not appended any more, it returns
no more than the stop allows, and its ticket is not told of a completion. -/
structure Stopped (item item' : PlaybackItem F) : Prop where
  appended : item'.appended = item.appended
  emitted : item'.emitted ≤ item.emitted + stopAllowance item.stream item.emitted
  cleared : item.stream = .sound → item'.isLive = false
  ticket : NotCompleted item.ticket item'.ticket

/-- A stop overtakes the items of its stream, sounds once they are out of their queue. -/
theorem Kept.halted_stop (kept : item.Kept control)
    (smooth : item.isLive = true → item.stream ≠ .sound) :
    item.Halted (control.stop item.stream) := by
  have advanced := control.stop_schedule item.stream
  unfold Kept at kept
  unfold isLive at smooth
  unfold Halted
  split
  · rename_i audio cancellation generation checked state
    rw [state] at kept
    exact kept.1.trans_lt advanced
  · rename_i source state
    rw [state] at kept smooth
    exact requested_of_stream (kept.1.stopped (smooth rfl))
  · rename_i playback state
    rw [state] at kept smooth
    obtain ⟨speech, there⟩ := kept
    rw [speech] at advanced smooth ⊢
    unfold ProgressiveKept at there
    split
    · rename_i source generation place
      rw [place] at there
      exact there.1.trans_lt advanced
    · rename_i source place
      rw [place] at there
      exact there.2.token.stopped fun sound => (nomatch sound)
    · trivial
  · trivial

theorem Kept.allowance_le (kept : item.Kept control)
    (smooth : item.isLive = true → item.stream ≠ .sound) :
    item.allowance ≤ stopAllowance item.stream item.emitted := by
  have fades : ∀ (cancellation : PlaybackCancellation) (stream : StreamType), stream ≠ .sound →
      TokenKept control stream cancellation → cancellation.FadeKept item.emitted →
      cancellation.allowance item.emitted ≤ stopAllowance stream item.emitted := by
    intro cancellation stream audible token faded
    refine (cancellation.allowance_le faded).trans ?_
    have rest : item.emitted % CHANNELS = (CHANNELS - item.emitted % CHANNELS) % CHANNELS := by
      unfold CHANNELS
      omega
    unfold stopAllowance
    split
    · exact le_rfl
    · rw [← rest, PlaybackCancellation.fadeSamples, token.1]
      cases stream with
      | speech => exact le_rfl
      | tone => exact le_rfl
      | sound => exact absurd rfl audible
  unfold allowance
  split
  · rename_i source state
    unfold Kept at kept
    unfold isLive at smooth
    rw [state] at kept smooth
    obtain ⟨token, faded, position⟩ := kept
    rw [position] at faded ⊢
    exact fades _ _ (smooth rfl) token faded
  · rename_i playback state
    split
    · rename_i source place
      obtain ⟨speech, -, before⟩ := kept.attached state place
      have faded := before.fade
      rw [before.emitted] at faded ⊢
      rw [speech]
      exact fades _ _ (fun sound => by cases sound) before.token faded
    · exact Nat.zero_le _
  · exact Nat.zero_le _

theorem isLive_of_completes (completes : item.Completes) : item.isLive = true := by
  unfold Completes at completes
  split at completes
  · rename_i playback state
    split at completes
    · rename_i source place
      exact isLive_of_attached state place
    · exact completes.elim
  · exact completes.elim

theorem Kept.stream_of_completes (kept : item.Kept control) (completes : item.Completes) :
    item.stream = .speech := by
  unfold Completes at completes
  split at completes
  · rename_i playback state
    split at completes
    · rename_i source place
      exact (kept.attached state place).1
    · exact completes.elim
  · exact completes.elim

/-- A queue that is cleared. -/
theorem clear_spec (item : PlaybackItem F) :
    item.clear.stream = item.stream ∧ item.clear.appended = item.appended ∧
      item.clear.emitted = item.emitted ∧ item.clear.isLive = false ∧
      NotCompleted item.ticket item.clear.ticket := by
  unfold clear
  split
  · rename_i source state
    refine ⟨rfl, rfl, rfl, rfl, ?_⟩
    rw [ticket, state]
    exact dropped_notCompleted source
  · rename_i playback state
    split
    · rename_i source place
      have dropped := dropSource_of_attached place
      refine ⟨rfl, rfl, rfl, ?_, ?_⟩
      · refine isLive_of_unattached rfl fun source' place' => ?_
        cases dropped.symm.trans place'
      · rw [ticket_of_progressive state, place, ticket]
        dsimp only
        rw [dropped]
        exact notCompleted_cancelled _
    · rename_i unattached
      refine ⟨rfl, rfl, rfl, isLive_of_unattached state unattached, NotCompleted.refl _⟩
  · rename_i unqueued unattached
    refine ⟨rfl, rfl, rfl, ?_, NotCompleted.refl _⟩
    rw [isLive]
    split
    · rename_i source state
      exact absurd state (unqueued source)
    · rename_i playback state
      exact absurd state (unattached playback)
    · rfl

/-- A source that is about to complete does so in the next part of its call. -/
theorem Kept.poll_completes (kept : item.Kept control) (completes : item.Completes)
    (tokens : CancellationTokens) :
    item.ticket = none ∧ (item.poll tokens false).ticket = some .completed := by
  unfold Completes at completes
  split at completes
  · rename_i playback state
    split at completes
    · rename_i source place
      obtain ⟨waiting, cues, rest, channel, read⟩ := completes
      have untold := (kept.attached state place).2.2.untold
      refine ⟨?_, ?_⟩
      · rw [ticket_of_progressive state, place, SourcePlace.ticket, untold]
      · have received : playback.receive = (.complete cues, rest) := by
          rw [ProgressivePlayback.receive, channel]
        have consumed : (playback.consume tokens false).1 = { playback with
            place := .attached (source.receive (.complete cues)).source
            channel := rest } := by
          unfold ProgressivePlayback.consume
          rw [place]
          dsimp only
          rw [waiting]
          dsimp only
          rw [received]
        have told : (source.receive (.complete cues)).source.completion = some .completed := by
          rw [ProgressivePlaybackSource.receive, read, ProgressivePlaybackSource.finish,
            ProgressivePlaybackSource.report,
            ProgressivePlaybackSource.completion_reportCuesAtCurrentFrame, untold]
          rfl
        have released : (playback.consume tokens false).1.releaseEnded.place =
            .dropped (some .completed) := by
          have ended : (source.receive (.complete cues)).source.phase = .ended := rfl
          rw [consumed, ProgressivePlayback.releaseEnded]
          dsimp only
          rw [if_pos ended, dropSource_of_attached rfl, told]
          rfl
        rw [poll, state]
        dsimp only
        rw [ticket]
        dsimp only
        rw [released]
        rfl
    · exact completes.elim
  · exact completes.elim

end PlaybackItem

namespace AudioStreams

variable {streams : AudioStreams F}

/-- Whether a stop takes the sources out of their queue at once. -/
def StopClears (kind : SinkKind) (stream : StreamType) : Prop := stream = .sound ∨ kind = .pulse

instance (kind : SinkKind) (stream : StreamType) : Decidable (StopClears kind stream) :=
  inferInstanceAs (Decidable (stream = .sound ∨ kind = .pulse))

/-- An item of a stream that is stopped. -/
theorem stop_getElem? {i : Nat} {item : PlaybackItem F} (there : streams.items[i]? = some item) :
    (streams.stop item.stream).items[i]? =
      some (if StopClears streams.kind item.stream then item.clear else item) := by
  unfold stop
  dsimp only
  by_cases clears : item.stream = .sound ∨ streams.kind = .pulse
  · have cleared : StopClears streams.kind item.stream := clears
    rw [if_pos clears, if_pos cleared, clear, List.getElem?_map, there, Option.map_some,
      if_pos rfl]
  · have kept : ¬ StopClears streams.kind item.stream := clears
    rw [if_neg clears, if_neg kept, there]

/-- **A stop of its stream** overtakes an item, with what it may still return. -/
theorem overtaken_stop (kept : streams.Kept) {i : Nat} {item : PlaybackItem F}
    (there : streams.items[i]? = some item) :
    ∃ item', (streams.stop item.stream).items[i]? = some item' ∧
      item'.Halted (streams.stop item.stream).control ∧ item'.appended = item.appended ∧
      item'.emitted + item'.allowance ≤ item.emitted + stopAllowance item.stream item.emitted ∧
      (item.stream = .sound → item'.isLive = false) ∧ NotCompleted item.ticket item'.ticket ∧
      (item'.Completes → item.Completes ∧ streams.kind ≠ .pulse) := by
  have itemKept := kept item (List.mem_of_getElem? there)
  have control : (streams.stop item.stream).control = streams.control.stop item.stream := by
    unfold stop
    dsimp only
    split
    · rfl
    · rfl
  rw [control]
  refine ⟨_, stop_getElem? there, ?_⟩
  split
  · obtain ⟨stream, appended, emitted, out, told⟩ := item.clear_spec
    have clearKept := (PlaybackItem.steps_clear (.refl _) item).kept itemKept
    have smooth : item.clear.isLive = true → item.clear.stream ≠ .sound := by
      intro live
      rw [out] at live
      cases live
    have halted := clearKept.halted_stop smooth
    have allowed := clearKept.allowance_le smooth
    rw [stream] at halted
    rw [stream, emitted] at allowed
    refine ⟨halted, appended, ?_, fun _ => out, told, ?_⟩
    · rw [emitted]
      exact Nat.add_le_add_left allowed _
    · intro completes
      rw [PlaybackItem.isLive_of_completes completes] at out
      cases out
  · rename_i stays
    obtain ⟨audible, direct⟩ := not_or.mp stays
    exact ⟨itemKept.halted_stop fun _ => audible, rfl,
      Nat.add_le_add_left (itemKept.allowance_le fun _ => audible) _, fun sound => absurd sound audible,
      NotCompleted.refl _, fun completes => ⟨completes, direct⟩⟩

/-- What a stop of a stream promises of what was queued, and of what is admitted since. -/
structure Stopped (stream : StreamType) (before after : AudioStreams F) : Prop where
  items : ∀ (i : Nat) (item : PlaybackItem F), before.items[i]? = some item → item.stream = stream →
    ∃ item', after.items[i]? = some item' ∧ item.Stopped item'
  admitted : ∀ (i : Nat) (item' : PlaybackItem F), after.items[i]? = some item' →
    before.items.length ≤ i → before.generation ≤ item'.captured

/-- One frame is played, and the source waits with the end of its stream in the channel. -/
def playedToTheEnd : List (StreamStep Unit) :=
  [.queueProgressive 7 0 none, .send 0 (.window [((), ())] []), .send 0 (.complete []),
    .attach 0 true none, .poll 0 false, .poll 0 false, .poll 0 false, .poll 0 false, .poll 0 false]

end AudioStreams

end Omnivox.Audio
