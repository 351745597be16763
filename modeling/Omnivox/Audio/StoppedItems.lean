import Mathlib
import Omnivox.Audio.StoppedSources

/-!
# Items after a stop

A stop of its stream overtakes an item: it is not appended to its queue any more, and its
source returns what it is allowed. Its ticket is not told of a completion, unless its source
is about to complete. `PlaybackItem.Steps` says so of one step, and the operations of an
item are shown to be such steps.
-/

set_option autoImplicit false

namespace Omnivox.Audio

open Foundations

variable {F : Type}

/-! ## Invariants of an item -/

/-- A source fades as its stream does, and follows the stop token of its stream, unless the
one it follows is cancelled. -/
def TokenKept (control : AudioControl) (stream : StreamType) (cancellation : PlaybackCancellation) :
    Prop :=
  cancellation.fadeFrames = AudioControl.smoothStopFadeFrames stream ∧
    ∀ inPlace, control.smoothStopCancellation stream = some inPlace →
      ∃ token, cancellation.stream = some token ∧
        (token = inPlace ∨ control.tokens.isCancelled token = true)

theorem TokenKept.later {control control' : AudioControl} {stream : StreamType}
    {cancellation : PlaybackCancellation} (kept : TokenKept control stream cancellation)
    (later : control.Later control') : TokenKept control' stream cancellation := by
  refine ⟨kept.1, ?_⟩
  intro inPlace' there'
  obtain ⟨inPlace, there⟩ : ∃ inPlace, control.smoothStopCancellation stream = some inPlace := by
    cases stream with
    | speech => exact ⟨_, rfl⟩
    | tone => exact ⟨_, rfl⟩
    | sound => cases there'
  obtain ⟨token, follows, holds⟩ := kept.2 inPlace there
  refine ⟨token, follows, ?_⟩
  rcases holds with rfl | gone
  · rcases later.replaced stream token there with stays | gone
    · exact Or.inl (Option.some.inj (stays.symm.trans there'))
    · exact Or.inr gone
  · exact Or.inr (later.cancelled token gone)

theorem TokenKept.same {control : AudioControl} {stream : StreamType}
    {cancellation cancellation' : PlaybackCancellation} (kept : TokenKept control stream cancellation)
    (same : cancellation.SameTokens cancellation') : TokenKept control stream cancellation' := by
  refine ⟨same.fadeFrames.trans kept.1, ?_⟩
  rw [same.stream]
  exact kept.2

/-- **A stop** of its stream cancels the token that a source follows. -/
theorem TokenKept.stopped {control : AudioControl} {stream : StreamType}
    {cancellation : PlaybackCancellation} (kept : TokenKept control stream cancellation)
    (smooth : stream ≠ .sound) :
    ∃ token, cancellation.stream = some token ∧
      (control.stop stream).tokens.isCancelled token = true := by
  obtain ⟨inPlace, there⟩ : ∃ inPlace, control.smoothStopCancellation stream = some inPlace := by
    cases stream with
    | speech => exact ⟨_, rfl⟩
    | tone => exact ⟨_, rfl⟩
    | sound => exact absurd rfl smooth
  obtain ⟨token, follows, holds⟩ := kept.2 inPlace there
  refine ⟨token, follows, ?_⟩
  rcases holds with rfl | gone
  · exact control.stop_cancels there
  · exact (control.later_stop stream).cancelled token gone

/-- The channel carries whole frames. -/
def WholeWindows (channel : List (ProgressivePlaybackMessage F)) : Prop :=
  ∀ samples cues, .audio samples cues ∈ channel → samples.length % CHANNELS = 0

/-- The source waits for its channel with the end of the stream at its head, and leaves no
cue. -/
def ProgressivePlaybackSource.Completes (source : ProgressivePlaybackSource F)
    (channel : List (ProgressivePlaybackMessage F)) : Prop :=
  source.phase = .waiting ∧ ∃ cues rest, channel = .complete cues :: rest ∧
    (reportCuesAtCurrentFrame { source with cues := source.cues ++ cues }).1.cues = []

/-- A progressive source that its producer feeds. -/
structure SourceKept (control : AudioControl) (playback : ProgressivePlayback F) (emitted : Nat)
    (source : ProgressivePlaybackSource F) : Prop where
  token : TokenKept control .speech source.cancellation
  fade : source.cancellation.FadeKept source.position
  emitted : source.position = emitted
  producer : ∀ producer, playback.producer = some producer →
    source.cancellation.stream = some producer.streamCancellation
  whole : (source.position + source.current.rest.length) % CHANNELS = 0
  windows : WholeWindows playback.channel
  waits : source.phase = .waiting →
    source.current.rest = [] ∧ source.cancellation.hasBegun = false
  untold : source.completion = none

/-- A pending source has returned nothing, and remembers a generation that is not ahead. -/
def ProgressiveKept (control : AudioControl) (playback : ProgressivePlayback F) (appended : Bool)
    (emitted : Nat) : Prop :=
  match playback.place with
  | .pendingAttachment source generation =>
      generation ≤ control.scheduleGenerations .speech ∧ source.position = 0 ∧
        SourceKept control playback emitted source
  | .attached source => appended = true ∧ SourceKept control playback emitted source
  | .dropped _ => True

namespace PlaybackItem

/-- What holds of every item that was admitted. -/
def Kept (control : AudioControl) (item : PlaybackItem F) : Prop :=
  match item.state with
  | .scheduled _ _ generation _ =>
      generation ≤ control.scheduleGenerations item.stream ∧ item.emitted = 0
  | .queued source =>
      TokenKept control item.stream source.cancellation ∧
        source.cancellation.FadeKept source.position ∧ source.position = item.emitted
  | .progressive playback =>
      item.stream = .speech ∧ ProgressiveKept control playback item.appended item.emitted
  | .retired _ => True

/-- An item that a stop of its stream overtook. -/
def Halted (control : AudioControl) (item : PlaybackItem F) : Prop :=
  match item.state with
  | .scheduled _ _ generation _ => generation < control.scheduleGenerations item.stream
  | .queued source => source.cancellation.isRequested control.tokens = true
  | .progressive playback =>
      match playback.place with
      | .pendingAttachment _ generation => generation < control.scheduleGenerations .speech
      | .attached source => ∃ token, source.cancellation.stream = some token ∧
          control.tokens.isCancelled token = true
      | .dropped _ => True
  | .retired _ => True

/-- The samples that an item may still return once it is stopped. -/
def allowance (item : PlaybackItem F) : Nat :=
  match item.state with
  | .queued source => source.cancellation.allowance source.position
  | .progressive playback =>
      match playback.place with
      | .attached source => source.cancellation.allowance source.position
      | _ => 0
  | _ => 0

/-- Its source is about to complete. -/
def Completes (item : PlaybackItem F) : Prop :=
  match item.state with
  | .progressive playback =>
      match playback.place with
      | .attached source => source.Completes playback.channel
      | _ => False
  | _ => False

/-- What becomes of a stopped item: it is not appended, and a sample uses up its
allowance. -/
structure Settles (item item' : PlaybackItem F) : Prop where
  appended : item'.appended = item.appended
  live : item'.isLive = true → item.isLive = true
  emitted : item'.emitted + item'.allowance ≤ item.emitted + item.allowance

theorem Settles.refl (item : PlaybackItem F) : item.Settles item := ⟨rfl, id, le_rfl⟩

theorem Settles.trans {first second third : PlaybackItem F} (early : first.Settles second)
    (late : second.Settles third) : first.Settles third :=
  ⟨late.appended.trans early.appended, early.live ∘ late.live, late.emitted.trans early.emitted⟩

/-- What one step makes of an item. -/
structure Steps (control control' : AudioControl) (item item' : PlaybackItem F) : Prop where
  stream : item'.stream = item.stream
  captured : item'.captured = item.captured
  kept : item.Kept control → item'.Kept control'
  halted : item.Kept control → item.Halted control → item'.Halted control' ∧ item.Settles item'
  told : item.Kept control → item.Halted control → ¬ item.Completes →
    ¬ item'.Completes ∧ NotCompleted item.ticket item'.ticket

variable {control control' : AudioControl} {item : PlaybackItem F}

theorem Kept.later (kept : item.Kept control) (later : control.Later control') :
    item.Kept control' := by
  unfold Kept at *
  split at kept
  · exact ⟨kept.1.trans (later.schedule _), kept.2⟩
  · exact ⟨kept.1.later later, kept.2⟩
  · rename_i playback _
    refine ⟨kept.1, ?_⟩
    have there := kept.2
    unfold ProgressiveKept at *
    split at there
    · exact ⟨there.1.trans (later.schedule _), there.2.1,
        { there.2.2 with token := there.2.2.token.later later }⟩
    · exact ⟨there.1, { there.2 with token := there.2.token.later later }⟩
    · trivial
  · trivial

theorem Kept.attached {playback : ProgressivePlayback F} {source : ProgressivePlaybackSource F}
    (kept : item.Kept control) (state : item.state = .progressive playback)
    (place : playback.place = .attached source) :
    item.stream = .speech ∧ item.appended = true ∧
      SourceKept control playback item.emitted source := by
  unfold Kept at kept
  rw [state] at kept
  obtain ⟨speech, there⟩ := kept
  unfold ProgressiveKept at there
  rw [place] at there
  exact ⟨speech, there⟩

theorem isLive_of_attached {playback : ProgressivePlayback F} {source : ProgressivePlaybackSource F}
    (state : item.state = .progressive playback) (place : playback.place = .attached source) :
    item.isLive = true := by
  rw [isLive, state]
  dsimp only
  rw [place]

theorem isLive_of_unattached {playback : ProgressivePlayback F}
    (state : item.state = .progressive playback)
    (unattached : ∀ source, playback.place ≠ .attached source) : item.isLive = false := by
  rw [isLive, state]
  dsimp only
  split
  · rename_i source place
    exact absurd place (unattached source)
  · rfl

theorem isRequested_later {cancellation : PlaybackCancellation} (later : control.Later control')
    (requested : cancellation.isRequested control.tokens = true) :
    cancellation.isRequested control'.tokens = true := by
  rw [PlaybackCancellation.isRequested, Bool.or_eq_true, Option.any_eq_true, Option.any_eq_true]
    at *
  rcases requested with ⟨token, held, cancelled⟩ | ⟨token, held, cancelled⟩
  · exact Or.inl ⟨token, held, later.cancelled token cancelled⟩
  · exact Or.inr ⟨token, held, later.cancelled token cancelled⟩

theorem Halted.later (halted : item.Halted control) (later : control.Later control') :
    item.Halted control' := by
  unfold Halted at *
  split at halted
  · exact halted.trans_le (later.schedule _)
  · exact isRequested_later later halted
  · split at halted
    · exact halted.trans_le (later.schedule _)
    · obtain ⟨token, held, cancelled⟩ := halted
      exact ⟨token, held, later.cancelled token cancelled⟩
    · trivial
  · trivial

/-- An item that is left alone. -/
theorem steps_same (later : control.Later control') (item : PlaybackItem F) :
    Steps control control' item item where
  stream := rfl
  captured := rfl
  kept kept := kept.later later
  halted _ halted := ⟨halted.later later, Settles.refl _⟩
  told _ _ unread := ⟨unread, NotCompleted.refl _⟩

/-- An item whose source is retired. -/
theorem steps_retire {completion : PlaybackCompletion}
    (told : item.Kept control → item.Halted control → ¬ item.Completes →
      NotCompleted item.ticket completion) :
    Steps control control' item { item with state := .retired completion } where
  stream := rfl
  captured := rfl
  kept _ := trivial
  halted _ _ := ⟨trivial, rfl, fun live => (nomatch live), Nat.add_le_add_left (Nat.zero_le _) _⟩
  told kept halted unread := ⟨id, told kept halted unread⟩

/-- A progressive playback whose source is dropped. -/
theorem steps_drop {playback playback' : ProgressivePlayback F} {completion : PlaybackCompletion}
    (state : item.state = .progressive playback) (dropped : playback'.place = .dropped completion)
    (told : item.Kept control → item.Halted control → ¬ item.Completes →
      NotCompleted item.ticket completion) :
    Steps control control' item { item with state := .progressive playback' } where
  stream := rfl
  captured := rfl
  kept kept := by
    unfold Kept at kept ⊢
    rw [state] at kept
    refine ⟨kept.1, ?_⟩
    unfold ProgressiveKept
    rw [dropped]
    trivial
  halted _ _ := by
    refine ⟨?_, rfl, ?_, ?_⟩
    · unfold Halted
      dsimp only
      rw [dropped]
      trivial
    · intro live
      rw [isLive_of_unattached rfl fun source place => by cases dropped.symm.trans place] at live
      cases live
    · have nothing : allowance { item with state := .progressive playback' } = 0 := by
        unfold allowance
        dsimp only
        rw [dropped]
      rw [nothing]
      exact Nat.add_le_add_left (Nat.zero_le _) _
  told kept halted unread := by
    refine ⟨?_, ?_⟩
    · unfold Completes
      dsimp only
      rw [dropped]
      exact id
    · have reported : ticket { item with state := .progressive playback' } = completion := by
        unfold ticket
        dsimp only
        rw [dropped]
        rfl
      rw [reported]
      exact told kept halted unread

theorem dropped_notCompleted (source : BufferedSource F) :
    NotCompleted source.completion source.dropped := by
  cases source with
  | plain source => exact NotCompleted.refl _
  | smoothStop source => exact NotCompleted.refl _
  | tracked source => exact notCompleted_cancelled _

theorem dropSource_of_attached {playback : ProgressivePlayback F}
    {source : ProgressivePlaybackSource F} (place : playback.place = .attached source) :
    playback.dropSource.place = .dropped (source.completion.report .cancelled) := by
  rw [ProgressivePlayback.dropSource, place]
  rfl

theorem dropSource_of_pending {playback : ProgressivePlayback F}
    {source : ProgressivePlaybackSource F} {generation : Nat}
    (place : playback.place = .pendingAttachment source generation) :
    playback.dropSource.place = .dropped (source.completion.report .cancelled) := by
  rw [ProgressivePlayback.dropSource, place]
  rfl

theorem ticket_of_progressive {playback : ProgressivePlayback F}
    (state : item.state = .progressive playback) : item.ticket = playback.place.ticket := by
  rw [ticket, state]

/-- A queue that is cleared. -/
theorem steps_clear (later : control.Later control') (item : PlaybackItem F) :
    Steps control control' item item.clear := by
  unfold clear
  split
  · rename_i source state
    refine steps_retire fun _ _ _ => ?_
    rw [ticket, state]
    exact dropped_notCompleted source
  · rename_i playback state
    split
    · rename_i source place
      refine steps_drop state (dropSource_of_attached place) fun _ _ _ => ?_
      rw [ticket_of_progressive state, place]
      exact notCompleted_cancelled _
    · exact steps_same later item
  · exact steps_same later item

/-- What a step may do to an attached source: it keeps what is kept, and once it is
requested to stop, a sample uses up its allowance and it does not complete. -/
structure AttachedSteps (control control' : AudioControl) (playback playback' : ProgressivePlayback F)
    (emitted emitted' : Nat) (source source' : ProgressivePlaybackSource F) : Prop where
  same : source.cancellation.SameTokens source'.cancellation
  kept : SourceKept control playback emitted source → SourceKept control' playback' emitted' source'
  used : SourceKept control playback emitted source →
    source.cancellation.isRequested control.tokens = true →
      emitted' + source'.cancellation.allowance source'.position ≤
        emitted + source.cancellation.allowance source.position
  unread : SourceKept control playback emitted source →
    (∃ token, source.cancellation.stream = some token ∧ control.tokens.isCancelled token = true) →
    ¬ source.Completes playback.channel → ¬ source'.Completes playback'.channel
  told : source'.completion = source.completion

/-- A stream token that is cancelled requests the stop. -/
theorem requested_of_stream {cancellation : PlaybackCancellation} {tokens : CancellationTokens}
    (cancelled : ∃ token, cancellation.stream = some token ∧ tokens.isCancelled token = true) :
    cancellation.isRequested tokens = true := by
  obtain ⟨token, follows, gone⟩ := cancelled
  rw [PlaybackCancellation.isRequested, follows, Option.any_some, gone, Bool.or_true]

theorem steps_attached (later : control.Later control') {playback playback' : ProgressivePlayback F}
    {source source' : ProgressivePlaybackSource F} {emitted' : Nat}
    (state : item.state = .progressive playback) (place : playback.place = .attached source)
    (place' : playback'.place = .attached source')
    (attached : AttachedSteps control control' playback playback' item.emitted emitted' source
      source') :
    Steps control control' item
      { item with state := .progressive playback', emitted := emitted' } := by
  have stopped : item.Halted control →
      ∃ token, source.cancellation.stream = some token ∧
        control.tokens.isCancelled token = true := by
    intro halted
    unfold Halted at halted
    rw [state] at halted
    dsimp only at halted
    rw [place] at halted
    exact halted
  have allowed : item.allowance = source.cancellation.allowance source.position := by
    rw [allowance, state]
    dsimp only
    rw [place]
  have allowed' : allowance { item with state := .progressive playback', emitted := emitted' } =
      source'.cancellation.allowance source'.position := by
    rw [allowance]
    dsimp only
    rw [place']
  refine ⟨rfl, rfl, ?_, ?_, ?_⟩
  · intro kept
    obtain ⟨speech, appended, before⟩ := kept.attached state place
    refine ⟨speech, ?_⟩
    unfold ProgressiveKept
    rw [place']
    exact ⟨appended, attached.kept before⟩
  · intro kept halted
    refine ⟨?_, rfl, fun _ => isLive_of_attached state place, ?_⟩
    · unfold Halted
      dsimp only
      rw [place']
      dsimp only
      obtain ⟨token, follows, gone⟩ := stopped halted
      exact ⟨token, attached.same.stream.trans follows, later.cancelled token gone⟩
    · rw [allowed, allowed']
      exact attached.used (kept.attached state place).2.2 (requested_of_stream (stopped halted))
  · intro kept halted unread
    refine ⟨?_, ?_⟩
    · unfold Completes at unread ⊢
      rw [state] at unread
      dsimp only at unread ⊢
      rw [place] at unread
      rw [place']
      exact attached.unread (kept.attached state place).2.2 (stopped halted) unread
    · rw [ticket_of_progressive state, place, ticket]
      dsimp only
      rw [place', SourcePlace.ticket, SourcePlace.ticket, attached.told]
      exact NotCompleted.refl _

/-- A playback whose source is gone. -/
theorem steps_gone {playback playback' : ProgressivePlayback F}
    {completion : PlaybackCompletion} (state : item.state = .progressive playback)
    (place : playback.place = .dropped completion) (place' : playback'.place = .dropped completion) :
    Steps control control' item { item with state := .progressive playback' } := by
  refine steps_drop state place' fun _ _ _ => ?_
  rw [ticket_of_progressive state, place]
  exact NotCompleted.refl _

/-- A source that stays pending. -/
theorem steps_pending (later : control.Later control') {playback playback' : ProgressivePlayback F}
    {source : ProgressivePlaybackSource F} {generation : Nat}
    (state : item.state = .progressive playback)
    (place : playback.place = .pendingAttachment source generation)
    (place' : playback'.place = .pendingAttachment source generation)
    (keeps : SourceKept control playback item.emitted source →
      SourceKept control' playback' item.emitted source) :
    Steps control control' item { item with state := .progressive playback' } := by
  have allowed : item.allowance = 0 := by
    rw [allowance, state]
    dsimp only
    rw [place]
  have allowed' : allowance { item with state := .progressive playback' } = 0 := by
    rw [allowance]
    dsimp only
    rw [place']
  refine ⟨rfl, rfl, ?_, ?_, ?_⟩
  · intro kept
    unfold Kept at kept ⊢
    rw [state] at kept
    refine ⟨kept.1, ?_⟩
    have there := kept.2
    unfold ProgressiveKept at there ⊢
    rw [place] at there
    rw [place']
    exact ⟨there.1.trans (later.schedule _), there.2.1, keeps there.2.2⟩
  · intro kept halted
    refine ⟨?_, rfl, ?_, ?_⟩
    · unfold Halted at halted ⊢
      rw [state] at halted
      dsimp only at halted ⊢
      rw [place] at halted
      rw [place']
      exact halted.trans_le (later.schedule _)
    · intro live
      rw [isLive_of_unattached rfl fun source place => by cases place'.symm.trans place] at live
      cases live
    · rw [allowed, allowed']
  · intro kept halted _
    refine ⟨?_, ?_⟩
    · unfold Completes
      dsimp only
      rw [place']
      exact id
    · rw [ticket_of_progressive state, place, ticket]
      dsimp only
      rw [place']
      exact NotCompleted.refl _

/-- A producer that is dropped. -/
theorem steps_dropProducer (later : control.Later control') (item : PlaybackItem F) :
    Steps control control' item item.dropProducer := by
  unfold dropProducer
  split
  · rename_i playback state
    cases place : playback.place with
    | pendingAttachment source generation =>
        have dropped : playback.dropProducer.place =
            .dropped (source.completion.report .cancelled) := by
          rw [ProgressivePlayback.dropProducer, place]
          rfl
        refine steps_drop state dropped fun _ _ _ => ?_
        rw [ticket_of_progressive state, place]
        exact notCompleted_cancelled _
    | attached source =>
        have orphaned : playback.dropProducer = { playback with producer := none } := by
          rw [ProgressivePlayback.dropProducer, place]
        rw [orphaned]
        refine steps_attached later state place place ⟨PlaybackCancellation.SameTokens.refl _, ?_,
          fun _ _ => le_rfl, fun _ _ unread => unread, rfl⟩
        intro kept
        exact ⟨kept.token.later later, kept.fade, kept.emitted, fun _ alive => (nomatch alive),
          kept.whole, kept.windows, kept.waits, kept.untold⟩
    | dropped completion =>
        refine steps_gone state place ?_
        rw [ProgressivePlayback.dropProducer, place]
  · exact steps_same later item

/-- A message that is sent. A producer that follows a cancelled token sends none. -/
theorem steps_send (later : control.Later control') (item : PlaybackItem F)
    {message : ProgressivePlaybackMessage F} (whole : WholeWindows [message]) :
    Steps control control' item (item.send control.tokens message) := by
  unfold send
  split
  · rename_i playback state
    split
    · exact steps_same later item
    · rename_i producer alive
      split
      · rename_i channel sent
        unfold ProgressivePlayback.send at sent
        split at sent
        · cases sent
        · rename_i active
          have appended : ∀ place, (∀ completion, place ≠ SourcePlace.dropped completion) →
              playback.place = place → channel = playback.channel ++ [message] := by
            intro place present there
            rw [there] at sent
            split at sent
            · exact absurd rfl (present _)
            · split at sent
              · cases sent
                rfl
              · cases sent
          have windows : ∀ channel', channel' = playback.channel ++ [message] →
              WholeWindows playback.channel → WholeWindows channel' := by
            rintro _ rfl kept samples cues member
            rcases List.mem_append.mp member with queued | new
            · exact kept samples cues queued
            · exact whole samples cues new
          cases place : playback.place with
          | pendingAttachment source generation =>
              have channel' := appended _ (fun _ same => by cases same) place
              refine steps_pending later state place rfl fun kept => ?_
              exact ⟨kept.token.later later, kept.fade, kept.emitted, kept.producer, kept.whole,
                windows _ channel' kept.windows, kept.waits, kept.untold⟩
          | attached source =>
              have channel' := appended _ (fun _ same => by cases same) place
              refine steps_attached later state place rfl ⟨PlaybackCancellation.SameTokens.refl _,
                ?_, fun _ _ => le_rfl, ?_, rfl⟩
              · intro kept
                exact ⟨kept.token.later later, kept.fade, kept.emitted, kept.producer, kept.whole,
                  windows _ channel' kept.windows, kept.waits, kept.untold⟩
              · -- The producer of a halted source is cancelled, and sends nothing.
                rintro kept ⟨token, follows, cancelled⟩
                rw [kept.producer producer alive] at follows
                obtain rfl := Option.some.inj follows
                rw [ProgressivePlaybackProducer.isCancelled, cancelled, Bool.or_true] at active
                exact absurd rfl active
          | dropped completion =>
              rw [place] at sent
              cases sent
      · exact steps_same later item
  · exact steps_same later item

/-! ## A part of a call of the consumer -/

theorem ticks_playback {Source : Type} (polled : Polled Source F) :
    ticks polled.playback = polled.sample.toList := by
  rw [Polled.playback, ticks_append, ticks_map_inl, List.nil_append]
  cases polled.sample with
  | none => rfl
  | some sample => rfl

/-- A source that ended is dropped by its queue. -/
theorem steps_released {playback playback' : ProgressivePlayback F}
    {source' : ProgressivePlaybackSource F} (state : item.state = .progressive playback)
    (place' : playback'.place = .attached source') (ended : source'.phase = .ended)
    (told : item.Kept control → item.Halted control → ¬ item.Completes →
      NotCompleted item.ticket source'.completion) :
    Steps control control' item { item with state := .progressive playback'.releaseEnded } := by
  have released : playback'.releaseEnded = playback'.dropSource := by
    rw [ProgressivePlayback.releaseEnded, place']
    exact if_pos ended
  rw [released]
  refine steps_drop state (dropSource_of_attached place') fun kept halted unread => ?_
  exact (told kept halted unread).trans (notCompleted_cancelled _)

theorem releaseEnded_of_active {playback : ProgressivePlayback F}
    {source : ProgressivePlaybackSource F} (place : playback.place = .attached source)
    (active : source.phase ≠ .ended) : playback.releaseEnded = playback := by
  rw [ProgressivePlayback.releaseEnded, place]
  exact if_neg active

/-- The check of a source that is not waiting. -/
theorem steps_check {playback : ProgressivePlayback F} {source : ProgressivePlaybackSource F}
    (kept : item.Kept control) (state : item.state = .progressive playback)
    (place : playback.place = .attached source) (checking : source.phase = .checking)
    {source' : ProgressivePlaybackSource F} {sample : Option (F × Gain)}
    (checks : ProgressivePlaybackSource.Checks source control.tokens source' sample) :
    Steps control control item { item with
      state := .progressive
        (ProgressivePlayback.releaseEnded { playback with place := .attached source' })
      emitted := item.emitted + sample.toList.length } := by
  obtain ⟨_, _, before⟩ := kept.attached state place
  obtain ⟨same, faded, _, used, begins⟩ :=
    PlaybackCancellation.nextGain_spec control.tokens before.fade
  cases checks with
  | ended cues cancellation same' =>
      rw [Option.toList_none, List.length_nil, Nat.add_zero]
      refine steps_released state rfl rfl fun _ _ _ => ?_
      rw [ticket_of_progressive state, place]
      exact notCompleted_cancelled _
  | sample cues sample more gain left gained =>
      have still : source.phase ≠ .ended := by
        rw [checking]
        exact fun ended => (nomatch ended)
      rw [Option.toList_some, List.length_singleton]
      rw [releaseEnded_of_active rfl]
      swap
      · exact still
      have moved := (BufferSource.next_of_cons left).2
      refine steps_attached (AudioControl.Later.refl control) state place rfl
        ⟨same, fun _ => ⟨before.token.same same, faded, ?_, ?_, ?_, before.windows, ?_,
          before.untold⟩, ?_, ?_, rfl⟩
      · exact congrArg (· + 1) before.emitted
      · intro producer alive
        exact same.stream.trans (before.producer producer alive)
      · have whole := before.whole
        rw [left, List.length_cons] at whole
        dsimp only
        rw [moved]
        unfold CHANNELS at *
        omega
      · intro waiting
        have waiting : source.phase = .waiting := waiting
        rw [checking] at waiting
        cases waiting
      · intro _ requested
        have spent := used requested fun stopped => by cases gained.symm.trans stopped
        dsimp only
        omega
      · intro _ _ _ completes
        have waiting : source.phase = .waiting := completes.1
        rw [checking] at waiting
        cases waiting
  | waits cues left unbegun =>
      have still : SourcePhase.waiting ≠ .ended := fun ended => by cases ended
      rw [Option.toList_none, List.length_nil, Nat.add_zero]
      rw [releaseEnded_of_active rfl still]
      refine steps_attached (AudioControl.Later.refl control) state place rfl
        ⟨PlaybackCancellation.SameTokens.refl _, fun _ => ⟨before.token, before.fade,
          before.emitted, before.producer, before.whole, before.windows, fun _ => ⟨left, ?_⟩,
          before.untold⟩,
          fun _ _ => le_rfl, ?_, rfl⟩
      · rw [PlaybackCancellation.nextGain_of_unbegun unbegun] at unbegun
        exact unbegun
      · -- At the end of a window a source that is requested to stop does not wait.
        intro _ cancelled _ _
        have boundary := before.whole
        rw [left, List.length_nil, Nat.add_zero] at boundary
        rw [begins (requested_of_stream cancelled) boundary] at unbegun
        cases unbegun

/-- The end of a wait. -/
theorem steps_receive {playback : ProgressivePlayback F} {source : ProgressivePlaybackSource F}
    (kept : item.Kept control) (state : item.state = .progressive playback)
    (place : playback.place = .attached source) (waiting : source.phase = .waiting) :
    Steps control control item { item with
      state := .progressive (ProgressivePlayback.releaseEnded { playback with
        place := .attached (source.receive playback.receive.1).source
        channel := playback.receive.2 }) } := by
  obtain ⟨_, _, before⟩ := kept.attached state place
  obtain ⟨read, unbegun⟩ := before.waits waiting
  have boundary := before.whole
  rw [read, List.length_nil, Nat.add_zero] at boundary
  have fresh : ∀ phase : SourcePhase, phase = .checking → phase ≠ .ended := by
    rintro _ rfl ended
    cases ended
  unfold ProgressivePlayback.receive
  rcases channel : playback.channel with _ | ⟨message, rest⟩
  · dsimp only
    split
    · rw [ProgressivePlaybackSource.receive]
      dsimp only
      rw [releaseEnded_of_active rfl (fresh _ rfl)]
      refine steps_attached (AudioControl.Later.refl control) state place rfl
        ⟨PlaybackCancellation.SameTokens.refl _, fun _ => ⟨before.token, before.fade,
          before.emitted, before.producer, before.whole, ?_, fun waits => (nomatch waits),
            before.untold⟩,
          fun _ _ => le_rfl, fun _ _ _ completes => (nomatch completes.1), rfl⟩
      intro samples cues member
      cases member
    · rw [ProgressivePlaybackSource.receive]
      refine steps_released state rfl rfl fun _ _ _ => ?_
      rw [ticket_of_progressive state, place]
      exact notCompleted_cancelled _
  · have windows := before.windows
    rw [channel] at windows
    cases message with
    | audio samples cues =>
        dsimp only
        rw [ProgressivePlaybackSource.receive]
        dsimp only
        rw [releaseEnded_of_active rfl (fresh _ rfl)]
        refine steps_attached (AudioControl.Later.refl control) state place rfl
          ⟨PlaybackCancellation.SameTokens.refl _, fun _ => ⟨before.token, before.fade,
            before.emitted, before.producer, ?_, ?_, fun waits => (nomatch waits),
            before.untold⟩,
            fun _ _ => le_rfl, fun _ _ _ completes => (nomatch completes.1), rfl⟩
        · have whole := windows samples cues List.mem_cons_self
          have all : (BufferSource.new samples).rest = samples := rfl
          dsimp only
          rw [all]
          unfold CHANNELS at *
          omega
        · intro samples' cues' member
          exact windows samples' cues' (List.mem_cons_of_mem _ member)
    | complete cues =>
        dsimp only
        rw [ProgressivePlaybackSource.receive]
        dsimp only
        refine steps_released state rfl rfl fun _ _ unread => ?_
        unfold Completes at unread
        rw [state] at unread
        dsimp only at unread
        rw [place] at unread
        rw [ticket_of_progressive state, place]
        -- A cue is left, or the source would complete.
        have cueLeft : (ProgressivePlaybackSource.reportCuesAtCurrentFrame { source with
            cues := source.cues ++ cues }).1.cues.isEmpty = false := by
          rw [List.isEmpty_eq_false_iff]
          exact fun none => unread ⟨waiting, cues, rest, channel, none⟩
        rw [cueLeft, ProgressivePlaybackSource.finish, ProgressivePlaybackSource.report,
          ProgressivePlaybackSource.completion_reportCuesAtCurrentFrame]
        exact notCompleted_cancelled _

/-- A call on a buffered source. -/
theorem steps_next {source : BufferedSource F} (kept : item.Kept control)
    (state : item.state = .queued source) {sample : F × Gain}
    (returned : (source.next control.tokens).sample = some sample) :
    Steps control control item { item with
      state := .queued (source.next control.tokens).source
      emitted := item.emitted + 1 } := by
  have there := kept
  unfold Kept at there
  rw [state] at there
  obtain ⟨token, fade, emitted⟩ := there
  obtain ⟨same, sampled, _⟩ := BufferedSource.next_spec fade
  obtain ⟨position, faded, told, used⟩ := sampled sample returned
  have follows : ∀ halted : item.Halted control,
      source.cancellation.isRequested control.tokens = true := by
    intro halted
    unfold Halted at halted
    rw [state] at halted
    exact halted
  refine ⟨rfl, rfl, ?_, ?_, ?_⟩
  · intro _
    refine ⟨token.same same, ?_, ?_⟩
    · rw [position]
      exact faded
    · rw [position, emitted]
  · intro _ halted
    have live : item.isLive = true := by
      rw [isLive, state]
    refine ⟨(same.isRequested _).trans (follows halted), rfl, fun _ => live, ?_⟩
    have spent := used (follows halted)
    have allowed : item.allowance = source.cancellation.allowance source.position := by
      rw [allowance, state]
    rw [allowed, allowance]
    dsimp only
    rw [position]
    omega
  · intro _ _ _
    refine ⟨id, ?_⟩
    rw [ticket, ticket, state]
    dsimp only
    rw [told]
    exact NotCompleted.refl _

/-- **A part of a call of the consumer.** -/
theorem steps_poll (kept : item.Kept control) (outputClosed : Bool) :
    Steps control control item (item.poll control.tokens outputClosed) := by
  have later := AudioControl.Later.refl control
  unfold poll
  split
  · rename_i source state
    split
    · refine steps_retire fun _ _ _ => ?_
      rw [ticket, state]
      exact dropped_notCompleted source
    · dsimp only
      split
      · rename_i sample returned
        exact steps_next kept state returned
      · rename_i returned
        have there := kept
        unfold Kept at there
        rw [state] at there
        obtain ⟨_, _, told⟩ := BufferedSource.next_spec there.2.1
        refine steps_retire fun _ halted _ => ?_
        unfold Halted at halted
        rw [state] at halted
        rw [ticket, state]
        exact told halted returned
  · rename_i playback state
    have nothing : ∀ played : Playback F, played = [] → (ticks played).length = 0 := by
      rintro _ rfl
      rfl
    unfold ProgressivePlayback.consume
    rcases place : playback.place with source | source | completion
    · dsimp only
      rw [nothing _ rfl, Nat.add_zero, ProgressivePlayback.releaseEnded, place]
      dsimp only
      rw [← state]
      exact steps_same later item
    · dsimp only
      rcases phase : source.phase with _ | _ | _
      · dsimp only
        rw [ticks_playback]
        exact steps_check kept state place phase
          (ProgressivePlaybackSource.checks_check (kept.attached state place).2.2.fade _)
      · dsimp only
        have silent : (source.receive playback.receive.1).sample = none := by
          cases playback.receive.1 with
          | audio samples cues => rfl
          | complete cues => rfl
          | timeout => rfl
          | disconnected => rfl
        rw [ticks_playback, silent, Option.toList_none, List.length_nil, Nat.add_zero]
        exact steps_receive kept state place phase
      · dsimp only
        rw [nothing _ rfl, Nat.add_zero]
        refine steps_released state place phase fun _ _ _ => ?_
        rw [ticket_of_progressive state, place]
        exact NotCompleted.refl _
    · dsimp only
      rw [nothing _ rfl, Nat.add_zero, ProgressivePlayback.releaseEnded, place]
      dsimp only
      rw [← state]
      exact steps_same later item
  · exact steps_same later item

/-! ## Attachments and overlays -/

/-- A step that no overtaken item takes. -/
theorem steps_of_unhalted {item' : PlaybackItem F} (stream : item'.stream = item.stream)
    (captured : item'.captured = item.captured)
    (kept : item.Kept control → item'.Kept control') (unhalted : ¬ item.Halted control) :
    Steps control control' item item' :=
  ⟨stream, captured, kept, fun _ halted => absurd halted unhalted,
    fun _ halted _ => absurd halted unhalted⟩

theorem later_attach (item : PlaybackItem F) (control : AudioControl) (queue : QueueAnswer)
    (force : Bool) : control.Later (item.attach control queue force).1 := by
  unfold attach
  split
  · split
    · exact AudioControl.Later.refl control
    · dsimp only
      unfold ProgressivePlayback.attachIfPrimed
      split
      · split
        · exact AudioControl.Later.refl control
        · split
          · exact AudioControl.Later.refl control
          · unfold ProgressivePlayback.attach
            dsimp only
            have later : control.Later
                (if queue.backlogFull then control.replaceSpeechStop else control) := by
              split
              · exact control.later_replaceStop .speech
              · exact AudioControl.Later.refl control
            split
            · exact later
            · exact later
      · exact AudioControl.Later.refl control
  · exact AudioControl.Later.refl control

/-- An attachment under the gate. The source follows the token that is in place then. -/
theorem steps_attachNow {playback : ProgressivePlayback F}
    {producer : ProgressivePlaybackProducer} {source : ProgressivePlaybackSource F}
    {generation : Nat} {queue : QueueAnswer} (state : item.state = .progressive playback)
    (alive : playback.producer = some producer)
    (place : playback.place = .pendingAttachment source generation)
    (current : control.scheduleGenerations .speech = generation) (accepted : queue.refusal = none) :
    Steps control (playback.attach producer source control queue).control item
      { item with
        appended := true
        state := .progressive (playback.attach producer source control queue).playback } := by
  refine steps_of_unhalted rfl rfl ?_ ?_
  · intro kept
    unfold Kept at kept
    rw [state] at kept
    obtain ⟨speech, there⟩ := kept
    unfold ProgressiveKept at there
    rw [place] at there
    obtain ⟨-, start, before⟩ := there
    refine ⟨speech, ?_⟩
    unfold ProgressiveKept
    rcases playback.attach_accepted producer source control accepted with
      attached | attached
    · rw [attached]
      refine ⟨rfl, before.token, before.fade, before.emitted, ?_, before.whole, before.windows,
        before.waits, before.untold⟩
      rintro _ ⟨⟩
      exact before.producer producer alive
    · rw [attached]
      refine ⟨rfl, ⟨before.token.1, ?_⟩, before.fade, before.emitted, ?_, before.whole,
        before.windows, before.waits, before.untold⟩
      · intro inPlace there
        exact ⟨inPlace, there, Or.inl rfl⟩
      · rintro _ ⟨⟩
        rfl
  · intro halted
    unfold Halted at halted
    rw [state] at halted
    dsimp only at halted
    rw [place] at halted
    dsimp only at halted
    rw [current] at halted
    exact Nat.lt_irrefl _ halted

/-- **An attachment.** An overtaken source is not attached. -/
theorem steps_attach (kept : item.Kept control) (queue : QueueAnswer) (force : Bool) :
    Steps control (item.attach control queue force).1 item (item.attach control queue force).2 := by
  have later := AudioControl.Later.refl control
  unfold attach
  split
  · rename_i playback state
    split
    · exact steps_same later item
    · rename_i producer alive
      unfold ProgressivePlayback.attachIfPrimed
      rcases place : playback.place with source | source | completion
      · rename_i generation
        dsimp only
        split
        · rw [place]
          dsimp only
          rw [Bool.or_false, ← state]
          exact steps_same later item
        · split
          · have dropped := dropSource_of_pending place
            rw [dropped, Bool.or_false]
            refine steps_drop state dropped fun _ _ _ => ?_
            rw [ticket_of_progressive state, place]
            exact notCompleted_cancelled _
          · rename_i passes
            rw [Bool.or_eq_true, not_or] at passes
            have current : control.scheduleGenerations .speech = generation := by
              have same := passes.2
              rw [bne_iff_ne, ne_eq, not_not] at same
              exact same
            rcases accepted : queue.refusal with _ | error
            · have placed : ∃ attached,
                  (playback.attach producer source control queue).playback.place =
                    .attached attached := by
                unfold ProgressivePlayback.attach
                rw [accepted]
                exact ⟨_, rfl⟩
              obtain ⟨attached, placed⟩ := placed
              rw [placed, Bool.or_true]
              exact steps_attachNow state alive place current accepted
            · have placed : ∃ completion : PlaybackCompletion,
                  (playback.attach producer source control queue).playback.place =
                    .dropped completion ∧ NotCompleted source.completion completion := by
                unfold ProgressivePlayback.attach
                rw [accepted]
                dsimp only
                split
                · exact ⟨_, rfl, notCompleted_cancelled _⟩
                · exact ⟨_, rfl, notCompleted_cancelled _⟩
              obtain ⟨completion, placed, told⟩ := placed
              rw [placed, Bool.or_false]
              refine steps_drop state placed fun _ _ _ => ?_
              rw [ticket_of_progressive state, place]
              exact told
      · dsimp only
        rw [place]
        have appended := (kept.attached state place).2.1
        dsimp only
        rw [Bool.or_true, ← appended, ← state]
        exact steps_same later item
      · dsimp only
        rw [place]
        dsimp only
        rw [Bool.or_false, ← state]
        exact steps_same later item
  · exact steps_same later item

theorem steps_checkOverlay (item : PlaybackItem F) (barrierCancelled : Bool) :
    Steps control control item (item.checkOverlay control barrierCancelled) := by
  have later := AudioControl.Later.refl control
  unfold checkOverlay
  split
  · rename_i audio cancellation generation state
    split
    · refine steps_retire fun _ _ _ => ?_
      rw [ticket, state]
      exact notCompleted_cancelled none
    · have same : ∀ {item' : PlaybackItem F}, item' = { item with
          state := .scheduled audio cancellation generation true } →
          (item'.Kept control ↔ item.Kept control) ∧ (item'.Halted control ↔ item.Halted control) ∧
            item'.allowance = item.allowance ∧ item'.ticket = item.ticket ∧ ¬ item'.Completes := by
        rintro _ rfl
        refine ⟨?_, ?_, ?_, ?_, id⟩
        · unfold Kept
          rw [state]
        · unfold Halted
          rw [state]
        · rw [allowance, allowance, state]
        · rw [ticket, ticket, state]
      obtain ⟨sameKept, sameHalted, allowed, told, unread⟩ := same rfl
      refine ⟨rfl, rfl, sameKept.mpr, ?_, ?_⟩
      · intro _ halted
        exact ⟨sameHalted.mpr halted, rfl, fun live => (nomatch live),
          Nat.add_le_add_left allowed.le _⟩
      · intro _ _ _
        exact ⟨unread, told ▸ NotCompleted.refl _⟩
  · exact steps_same later item

/-- A new buffered source follows the stop token in place. -/
theorem tokenKept_newSource (control : AudioControl) (stream : StreamType) (audio : AudioBuffer F)
    (form : QueueForm) :
    TokenKept control stream (control.newSource stream audio form).cancellation ∧
      (control.newSource stream audio form).cancellation.state = .playing ∧
      (control.newSource stream audio form).position = 0 := by
  have follows : ∀ cancellation : PlaybackCancellation,
      cancellation.fadeFrames = AudioControl.smoothStopFadeFrames stream →
      cancellation.stream = control.smoothStopCancellation stream →
      TokenKept control stream cancellation :=
    fun cancellation fades token =>
      ⟨fades, fun inPlace there => ⟨inPlace, token.trans there, Or.inl rfl⟩⟩
  unfold AudioControl.newSource
  cases form with
  | untracked =>
      cases stream with
      | speech => exact ⟨follows _ rfl rfl, rfl, rfl⟩
      | tone => exact ⟨follows _ rfl rfl, rfl, rfl⟩
      | sound => exact ⟨follows _ rfl rfl, rfl, rfl⟩
  | tracked cues cancellation => exact ⟨follows _ rfl rfl, rfl, rfl⟩

/-- A new buffered source is kept. -/
theorem kept_newSource (control : AudioControl) (stream : StreamType) (audio : AudioBuffer F)
    (form : QueueForm) (captured : Nat) (appended : Bool) :
    Kept control
      ⟨stream, captured, appended, 0, .queued (control.newSource stream audio form)⟩ := by
  obtain ⟨follows, playing, start⟩ := tokenKept_newSource control stream audio form
  refine ⟨follows, ?_, start⟩
  intro samplesEmitted fading
  rw [playing] at fading
  cases fading

/-- An overlay thread at the gate. An overtaken overlay is not appended. -/
theorem steps_queueOverlay (item : PlaybackItem F) (refusal : Option AudioError) :
    Steps control control item (item.queueOverlay control refusal) := by
  have later := AudioControl.Later.refl control
  unfold queueOverlay
  split
  · rename_i audio cancellation generation state
    split
    · refine steps_retire fun _ _ _ => ?_
      rw [ticket, state]
      exact notCompleted_cancelled none
    · rename_i passes
      rw [Bool.or_eq_true, not_or, bne_iff_ne, ne_eq, not_not] at passes
      refine steps_of_unhalted rfl rfl ?_ ?_
      · intro kept
        unfold Kept at kept
        rw [state] at kept
        have start := kept.2
        have new := kept_newSource control item.stream audio (.tracked [] cancellation)
          item.captured true
        unfold Kept at new ⊢
        dsimp only at new ⊢
        rw [start]
        exact new
      · intro halted
        unfold Halted at halted
        rw [state] at halted
        dsimp only at halted
        rw [passes.1] at halted
        exact Nat.lt_irrefl _ halted
  · exact steps_same later item

end PlaybackItem

end Omnivox.Audio
