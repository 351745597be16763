import Mathlib
import Omnivox.Audio.StreamItems

/-!
# Sources after a stop

A source whose cancellation is requested returns a bounded number of samples more: the rest
of a frame in progress and a fade, and nothing when it had returned none
(`PlaybackCancellation.nextGain_spec`). A buffered source does not complete any more
(`BufferedSource.next_spec`).
-/

set_option autoImplicit false

namespace Omnivox.Audio

open Foundations

variable {F : Type}

/-! ## The samples that are left -/

namespace PlaybackCancellation

/-- The samples that a source at a position may still return once it is requested to stop. -/
def allowance (cancellation : PlaybackCancellation) (position : Nat) : Nat :=
  match cancellation.state with
  | .finished => 0
  | .fading samplesEmitted => cancellation.fadeSamples - samplesEmitted
  | .playing => if position = 0 then 0 else position % CHANNELS + cancellation.fadeSamples

/-- A fade is under way, after the first sample. -/
def FadeKept (cancellation : PlaybackCancellation) (position : Nat) : Prop :=
  ∀ samplesEmitted, cancellation.state = .fading samplesEmitted →
    position ≠ 0 ∧ samplesEmitted < cancellation.fadeSamples

/-- Apart from its state, a cancellation stays as it was made. -/
structure SameTokens (cancellation cancellation' : PlaybackCancellation) : Prop where
  request : cancellation'.request = cancellation.request
  stream : cancellation'.stream = cancellation.stream
  fadeFrames : cancellation'.fadeFrames = cancellation.fadeFrames

theorem SameTokens.refl (cancellation : PlaybackCancellation) :
    cancellation.SameTokens cancellation :=
  ⟨rfl, rfl, rfl⟩

theorem SameTokens.isRequested {cancellation cancellation' : PlaybackCancellation}
    (same : cancellation.SameTokens cancellation') (tokens : CancellationTokens) :
    cancellation'.isRequested tokens = cancellation.isRequested tokens := by
  rw [PlaybackCancellation.isRequested, same.request, same.stream, PlaybackCancellation.isRequested]

/-- The bound of a stop: the rest of a frame in progress, and a fade. -/
theorem allowance_le (cancellation : PlaybackCancellation) {position : Nat}
    (kept : cancellation.FadeKept position) :
    cancellation.allowance position ≤
      if position = 0 then 0 else position % CHANNELS + cancellation.fadeSamples := by
  unfold allowance
  split
  · exact Nat.zero_le _
  · rename_i samplesEmitted fading
    rw [if_neg (kept samplesEmitted fading).1]
    exact (Nat.sub_le _ _).trans (Nat.le_add_left _ _)
  · exact le_rfl

theorem SameTokens.fadeSamples {cancellation cancellation' : PlaybackCancellation}
    (same : cancellation.SameTokens cancellation') :
    cancellation'.fadeSamples = cancellation.fadeSamples := by
  rw [PlaybackCancellation.fadeSamples, same.fadeFrames, PlaybackCancellation.fadeSamples]

variable {cancellation : PlaybackCancellation} {position : Nat}

/-- A sample of a fade. -/
theorem fade_spec (position samplesEmitted : Nat) (within : samplesEmitted < cancellation.fadeSamples) :
    cancellation.SameTokens (cancellation.fade samplesEmitted).1 ∧
      (cancellation.fade samplesEmitted).1.hasBegun = true ∧
      (∀ next, (cancellation.fade samplesEmitted).1.state = .fading next →
        next < cancellation.fadeSamples) ∧
      (cancellation.fade samplesEmitted).1.allowance (position + 1) + 1 ≤
        cancellation.fadeSamples - samplesEmitted := by
  unfold fade
  dsimp only
  split
  · refine ⟨⟨rfl, rfl, rfl⟩, rfl, fun _ fading => (nomatch fading), ?_⟩
    rw [allowance]
    dsimp only
    omega
  · rename_i more
    refine ⟨⟨rfl, rfl, rfl⟩, rfl, ?_, ?_⟩
    · rintro next ⟨⟩
      exact Nat.not_le.mp more
    · have same : fadeSamples { cancellation with state := .fading (samplesEmitted + 1) } =
          cancellation.fadeSamples := rfl
      rw [allowance]
      dsimp only
      rw [same]
      omega

/-- **A gain uses up the allowance** of a source that is requested to stop. -/
theorem nextGain_spec (tokens : CancellationTokens) (kept : cancellation.FadeKept position) :
    cancellation.SameTokens (cancellation.nextGain tokens position).1 ∧
      (cancellation.nextGain tokens position).1.FadeKept (position + 1) ∧
      ((cancellation.nextGain tokens position).2 = none →
        (cancellation.nextGain tokens position).1.hasBegun = true) ∧
      (cancellation.isRequested tokens = true →
        (cancellation.nextGain tokens position).2 ≠ none →
        (cancellation.nextGain tokens position).1.allowance (position + 1) + 1 ≤
          cancellation.allowance position) ∧
      (cancellation.isRequested tokens = true → position % CHANNELS = 0 →
        (cancellation.nextGain tokens position).1.hasBegun = true) := by
  cases state : cancellation.state with
  | finished =>
      have gained : cancellation.nextGain tokens position = (cancellation, none) := by
        rw [nextGain, state]
      have begun : cancellation.hasBegun = true := by
        rw [hasBegun, state]
        rfl
      rw [gained]
      refine ⟨SameTokens.refl _, ?_, fun _ => begun, fun _ some => absurd rfl some,
        fun _ _ => begun⟩
      intro samplesEmitted fading
      rw [state] at fading
      cases fading
  | fading samplesEmitted =>
      obtain ⟨started, within⟩ := kept samplesEmitted state
      have gained : cancellation.nextGain tokens position = cancellation.fade samplesEmitted := by
        rw [nextGain, state]
      obtain ⟨same, begun, below, used⟩ := fade_spec position samplesEmitted within
      rw [gained]
      refine ⟨same, ?_, fun _ => begun, ?_, fun _ _ => begun⟩
      · intro next fading
        exact ⟨Nat.succ_ne_zero _, (below next fading).trans_eq same.fadeSamples.symm⟩
      · intro _ _
        have allowed : cancellation.allowance position =
            cancellation.fadeSamples - samplesEmitted := by
          rw [allowance, state]
        rw [allowed]
        exact used
  | playing =>
      have unfaded : ∀ samplesEmitted, cancellation.state ≠ .fading samplesEmitted := by
        intro samplesEmitted fading
        rw [state] at fading
        cases fading
      by_cases stops : position % CHANNELS = 0 ∧ cancellation.isRequested tokens = true
      · by_cases silent : position = 0 ∨ cancellation.fadeSamples = 0
        · have gained : cancellation.nextGain tokens position =
              ({ cancellation with state := .finished }, none) := by
            rw [nextGain, state]
            dsimp only
            rw [if_pos stops, if_pos silent]
          rw [gained]
          exact ⟨⟨rfl, rfl, rfl⟩, fun _ fading => (by cases fading), fun _ => rfl,
            fun _ some => absurd rfl some, fun _ _ => rfl⟩
        · have gained : cancellation.nextGain tokens position = cancellation.fade 0 := by
            rw [nextGain, state]
            dsimp only
            rw [if_pos stops, if_neg silent]
          obtain ⟨started, audible⟩ := not_or.mp silent
          obtain ⟨same, begun, below, used⟩ :=
            fade_spec position 0 (Nat.pos_of_ne_zero audible)
          rw [gained]
          refine ⟨same, ?_, fun _ => begun, ?_, fun _ _ => begun⟩
          · intro next fading
            exact ⟨Nat.succ_ne_zero _, (below next fading).trans_eq same.fadeSamples.symm⟩
          · intro _ _
            have allowed : cancellation.allowance position =
                position % CHANNELS + cancellation.fadeSamples := by
              rw [allowance, state]
              exact if_neg started
            rw [allowed, stops.1]
            exact used.trans (Nat.zero_add _).ge
      · have gained : cancellation.nextGain tokens position = (cancellation, some .unity) := by
          rw [nextGain, state]
          dsimp only
          rw [if_neg stops]
        rw [gained]
        refine ⟨SameTokens.refl _, fun _ fading => absurd fading (unfaded _),
          fun ended => (by cases ended), ?_, fun requested boundary => absurd ⟨boundary, requested⟩ stops⟩
        intro requested _
        have inside : position % CHANNELS ≠ 0 := fun boundary => stops ⟨boundary, requested⟩
        rw [allowance, allowance, state]
        dsimp only
        unfold CHANNELS at inside ⊢
        rw [if_neg (Nat.succ_ne_zero _), if_neg (by omega)]
        omega

end PlaybackCancellation

/-! ## Tickets -/

/-- What a ticket was told stays, and it is not told of a completion. -/
def NotCompleted (before after : PlaybackCompletion) : Prop :=
  (∀ status, before = some status → after = some status) ∧
    (after = some .completed → before = some .completed)

theorem NotCompleted.refl (told : PlaybackCompletion) : NotCompleted told told :=
  ⟨fun _ => id, id⟩

theorem NotCompleted.trans {first second third : PlaybackCompletion}
    (early : NotCompleted first second) (late : NotCompleted second third) :
    NotCompleted first third :=
  ⟨fun status told => late.1 status (early.1 status told), fun told => early.2 (late.2 told)⟩

theorem notCompleted_cancelled (told : PlaybackCompletion) :
    NotCompleted told (told.report .cancelled) := by
  cases told with
  | none => exact ⟨fun _ told => (nomatch told), fun told => (nomatch told)⟩
  | some status => exact NotCompleted.refl _

/-! ## Buffered sources -/

theorem BufferSource.position_next (source : BufferSource F) :
    source.next.1.position = source.position + source.next.2.toList.length := by
  rw [BufferSource.next]
  split
  · rfl
  · rfl

namespace TrackedBufferSource

variable (source : TrackedBufferSource F) (tokens : CancellationTokens)

/-- A call that the cancellation does not let through. -/
theorem next_of_stopped
    (stopped : (source.cancellation.nextGain tokens source.inner.position).2 = none) :
    source.next tokens =
      ⟨report { source with
        cancellation := (source.cancellation.nextGain tokens source.inner.position).1 } .cancelled,
        [], none⟩ := by
  rw [next]
  rw [stopped]

/-- A call that the cancellation lets through. -/
theorem next_of_gain {gain : Gain}
    (gained : (source.cancellation.nextGain tokens source.inner.position).2 = some gain) :
    (source.next tokens).source.cancellation =
        (source.cancellation.nextGain tokens source.inner.position).1 ∧
      (source.next tokens).source.inner = source.inner.next.1 ∧
      (source.next tokens).sample = source.inner.next.2.map (·, gain) ∧
      (source.next tokens).source.completion =
        match source.inner.next.2 with
        | some _ => source.completion
        | none => source.completion.report
            (if (source.cancellation.nextGain tokens source.inner.position).1.hasBegun ||
                (source.cancellation.nextGain tokens source.inner.position).1.isRequested tokens
              then .cancelled else .completed) := by
  have reported : ∀ current : TrackedBufferSource F,
      (if current.cancellation.hasBegun then (current, [])
        else current.reportCuesAtCurrentFrame).1.inner = current.inner ∧
      (if current.cancellation.hasBegun then (current, [])
        else current.reportCuesAtCurrentFrame).1.cancellation = current.cancellation ∧
      (if current.cancellation.hasBegun then (current, [])
        else current.reportCuesAtCurrentFrame).1.completion = current.completion := by
    intro current
    split
    · exact ⟨rfl, rfl, rfl⟩
    · rw [reportCuesAtCurrentFrame]
      split
      · exact ⟨rfl, rfl, rfl⟩
      · exact ⟨rfl, rfl, rfl⟩
  rw [next]
  rw [gained]
  dsimp only
  rw [advance]
  obtain ⟨inner, cancellation, completion⟩ := reported { source with
    cancellation := (source.cancellation.nextGain tokens source.inner.position).1 }
  rw [inner]
  cases moved : source.inner.next.2 with
  | some sample => exact ⟨cancellation, rfl, rfl, completion⟩
  | none =>
      refine ⟨cancellation, rfl, rfl, ?_⟩
      rw [cancellation]
      exact congrArg (PlaybackCompletion.report · _) completion

end TrackedBufferSource

namespace BufferedSource

variable {source : BufferedSource F} {tokens : CancellationTokens}

/-- **A call on a buffered source**: the tokens stay, a sample moves it on and uses up the
allowance of a source that is requested to stop, and such a source does not complete. -/
theorem next_spec (kept : source.cancellation.FadeKept source.position) :
    source.cancellation.SameTokens (source.next tokens).source.cancellation ∧
      (∀ sample, (source.next tokens).sample = some sample →
        (source.next tokens).source.position = source.position + 1 ∧
        (source.next tokens).source.cancellation.FadeKept (source.position + 1) ∧
        (source.next tokens).source.completion = source.completion ∧
        (source.cancellation.isRequested tokens = true →
          (source.next tokens).source.cancellation.allowance (source.position + 1) + 1 ≤
            source.cancellation.allowance source.position)) ∧
      (source.cancellation.isRequested tokens = true → (source.next tokens).sample = none →
        NotCompleted source.completion (source.next tokens).source.dropped) := by
  cases source with
  | plain source =>
      have moved := source.position_next
      refine ⟨PlaybackCancellation.SameTokens.refl _, ?_, fun requested => (nomatch requested)⟩
      intro sample returned
      have there : source.next.2.map (·, Gain.unity) = some sample := returned
      obtain ⟨value, found, _⟩ := Option.map_eq_some_iff.mp there
      rw [found] at moved
      exact ⟨moved, fun _ fading => (nomatch fading), rfl, fun requested => (nomatch requested)⟩
  | smoothStop source =>
      obtain ⟨same, faded, _, used, _⟩ := PlaybackCancellation.nextGain_spec tokens kept
      have moved := source.inner.position_next
      cases gained : (source.cancellation.nextGain tokens source.inner.position).2 with
      | none =>
          have stopped : source.next tokens = ⟨{ source with
              cancellation := (source.cancellation.nextGain tokens source.inner.position).1 },
              [], none⟩ := by
            rw [SmoothStopBufferSource.next, gained]
          rw [next, stopped]
          exact ⟨same, fun _ returned => (nomatch returned), fun _ _ => NotCompleted.refl _⟩
      | some gain =>
          have went : source.next tokens = ⟨⟨source.inner.next.1,
              (source.cancellation.nextGain tokens source.inner.position).1⟩, [],
              source.inner.next.2.map (·, gain)⟩ := by
            rw [SmoothStopBufferSource.next, gained]
          rw [next, went]
          refine ⟨same, ?_, fun _ _ => NotCompleted.refl _⟩
          intro sample returned
          obtain ⟨value, found, _⟩ := Option.map_eq_some_iff.mp returned
          rw [found] at moved
          refine ⟨moved, faded, rfl, fun requested => used requested ?_⟩
          exact fun stopped => by cases gained.symm.trans stopped
  | tracked source =>
      have kept : source.cancellation.FadeKept source.inner.position := kept
      obtain ⟨same, faded, _, used, _⟩ := PlaybackCancellation.nextGain_spec tokens kept
      have moved := source.inner.position_next
      cases gained : (source.cancellation.nextGain tokens source.inner.position).2 with
      | none =>
          rw [next, source.next_of_stopped tokens gained]
          refine ⟨same, fun _ returned => (nomatch returned), fun _ _ => ?_⟩
          exact (notCompleted_cancelled _).trans (notCompleted_cancelled _)
      | some gain =>
          obtain ⟨cancellation, inner, sampled, told⟩ := source.next_of_gain tokens gained
          have kept' := same
          rw [← cancellation] at kept' faded used
          refine ⟨kept', ?_, ?_⟩
          · intro sample returned
            obtain ⟨value, found, _⟩ := Option.map_eq_some_iff.mp (sampled.symm.trans returned)
            rw [found] at moved told
            refine ⟨(congrArg BufferSource.position inner).trans moved, faded, told, ?_⟩
            intro requested
            exact used requested fun stopped => by cases gained.symm.trans stopped
          · intro requested returned
            have exhausted : source.inner.next.2 = none :=
              Option.map_eq_none_iff.mp (sampled.symm.trans returned)
            rw [exhausted] at told
            have cancelled : (source.cancellation.nextGain tokens source.inner.position).1.isRequested
                tokens = true := (same.isRequested tokens).trans requested
            rw [cancelled, Bool.or_true, if_pos rfl] at told
            have reported : NotCompleted source.completion (source.next tokens).source.completion :=
              told ▸ notCompleted_cancelled _
            exact reported.trans (notCompleted_cancelled _)

end BufferedSource

/-! ## Progressive sources -/

/-- A cancellation that does not begin is left as it is. -/
theorem PlaybackCancellation.nextGain_of_unbegun {cancellation : PlaybackCancellation}
    {tokens : CancellationTokens} {position : Nat}
    (unbegun : (cancellation.nextGain tokens position).1.hasBegun = false) :
    (cancellation.nextGain tokens position).1 = cancellation := by
  have begins : ∀ samplesEmitted, (cancellation.fade samplesEmitted).1.hasBegun = true := by
    intro samplesEmitted
    rw [fade]
    split
    · rfl
    · rfl
  unfold nextGain at unbegun ⊢
  split
  · rfl
  · rename_i samplesEmitted state
    rw [state] at unbegun
    dsimp only at unbegun
    rw [begins] at unbegun
    cases unbegun
  · rename_i state
    rw [state] at unbegun
    dsimp only at unbegun
    split
    · rename_i stops
      rw [if_pos stops] at unbegun
      split at unbegun
      · cases unbegun
      · rw [begins] at unbegun
        cases unbegun
    · rfl

namespace ProgressivePlaybackSource

variable {source : ProgressivePlaybackSource F} {tokens : CancellationTokens}

/-- What a part of a call makes of a source, apart from its cues. -/
inductive Checks (source : ProgressivePlaybackSource F) (tokens : CancellationTokens) :
    ProgressivePlaybackSource F → Option (F × Gain) → Prop
  | ended (cues cancellation) (same : source.cancellation.SameTokens cancellation) :
      Checks source tokens
        { source with
          cues := cues
          cancellation := cancellation
          completion := source.completion.report .cancelled
          phase := .ended } none
  | sample (cues) (sample : F) (more : List F) (gain : Gain) (left : source.current.rest = sample :: more)
      (gained : (source.cancellation.nextGain tokens source.position).2 = some gain) :
      Checks source tokens
        { source with
          cues := cues
          cancellation := (source.cancellation.nextGain tokens source.position).1
          current := { source.current with position := source.current.position + 1 }
          position := source.position + 1 } (some (sample, gain))
  | waits (cues) (left : source.current.rest = [])
      (unbegun : (source.cancellation.nextGain tokens source.position).1.hasBegun = false) :
      Checks source tokens { source with cues := cues, phase := .waiting } none

theorem checks_check (kept : source.cancellation.FadeKept source.position) (outputClosed : Bool) :
    Checks source tokens (source.check tokens outputClosed).source
      (source.check tokens outputClosed).sample := by
  obtain ⟨same, _⟩ := PlaybackCancellation.nextGain_spec tokens kept
  have reported : ∀ current : ProgressivePlaybackSource F, ∃ cues,
      (if current.cancellation.hasBegun then (current, [])
        else current.reportCuesAtCurrentFrame).1 = { current with cues := cues } := by
    intro current
    split
    · exact ⟨current.cues, rfl⟩
    · rw [reportCuesAtCurrentFrame]
      split
      · exact ⟨current.cues, rfl⟩
      · exact ⟨_, rfl⟩
  unfold check
  split
  · exact .ended source.cues source.cancellation (PlaybackCancellation.SameTokens.refl _)
  · dsimp only
    cases gained : (source.cancellation.nextGain tokens source.position).2 with
    | none => exact .ended source.cues _ same
    | some gain =>
        dsimp only
        obtain ⟨cues, heard⟩ := reported { source with
          cancellation := (source.cancellation.nextGain tokens source.position).1 }
        rw [heard]
        cases left : source.current.rest with
        | nil =>
            have stays := BufferSource.next_of_nil left
            rw [stays]
            dsimp only
            split
            · exact .ended cues _ same
            · rename_i unbegun
              have unbegun : (source.cancellation.nextGain tokens source.position).1.hasBegun = false :=
                Bool.eq_false_iff.mpr unbegun
              have unchanged := PlaybackCancellation.nextGain_of_unbegun unbegun
              rw [unchanged]
              exact .waits cues left unbegun
        | cons sample more =>
            have moved := (BufferSource.next_of_cons left).1
            rw [moved]
            exact .sample cues sample more gain left gained

end ProgressivePlaybackSource

/-- What an attachment that the queue accepts comes to: with room in the backlog the source
keeps its stop token, and else it follows the new one. -/
theorem ProgressivePlayback.attach_accepted (playback : ProgressivePlayback F)
    (producer : ProgressivePlaybackProducer) (source : ProgressivePlaybackSource F)
    (control : AudioControl) {queue : QueueAnswer} (accepted : queue.refusal = none) :
    playback.attach producer source control queue =
        ⟨control, { playback with producer := some producer, place := .attached source },
          some (.ok ())⟩ ∨
      playback.attach producer source control queue =
        ⟨control.replaceSpeechStop, { playback with
          producer := some { producer with
            streamCancellation := control.replaceSpeechStop.speechStopCancellation }
          place := .attached
            (source.followStream control.replaceSpeechStop.speechStopCancellation) },
          some (.ok ())⟩ := by
  unfold ProgressivePlayback.attach
  rw [accepted]
  by_cases full : queue.backlogFull = true
  · refine Or.inr ?_
    simp only [full, if_true]
  · refine Or.inl ?_
    simp only [full, if_false, Bool.false_eq_true]

theorem ProgressivePlaybackSource.completion_reportCuesAtCurrentFrame
    (source : ProgressivePlaybackSource F) :
    source.reportCuesAtCurrentFrame.1.completion = source.completion := by
  rw [reportCuesAtCurrentFrame]
  split
  · rfl
  · rfl

end Omnivox.Audio
