import Mathlib
import Omnivox.Audio.FadeOuts

/-!
# The fade of buffered sources

The sources of whole buffers obey the law of a fade in every run (`BufferedSource.lawful`), and a
tracked one reports a cancellation before its end (`BufferedSource.reports_tracked`).

They also say how many samples are left. That is too few in one case: cancelled in the middle of a
frame with no fade, a source still completes the frame (`BufferedSource.predicts_iff`).
-/

set_option autoImplicit false

namespace Omnivox.Audio

open Foundations

variable {F : Type}

/-! ## Predictions -/

namespace PlaybackCancellation

def remainingSamples (cancellation : PlaybackCancellation) (tokens : CancellationTokens)
    (position : Nat) : Nat :=
  match cancellation.state with
  | .finished => 0
  | .fading samplesEmitted => cancellation.fadeSamples - samplesEmitted
  | .playing =>
      if cancellation.isRequested tokens then
        if position = 0 ∨ cancellation.fadeSamples = 0 then 0
        else
          let frameRemainder := position % CHANNELS
          let samplesToBoundary := if frameRemainder = 0 then 0 else CHANNELS - frameRemainder
          samplesToBoundary + cancellation.fadeSamples
      else usizeMax

end PlaybackCancellation

def BufferSource.sizeHint (source : BufferSource F) : Nat × Option Nat :=
  let remaining := source.samples.length - source.position
  (remaining, some remaining)

def BufferSource.currentFrameLen (source : BufferSource F) : Option Nat :=
  some (source.samples.length - source.position)

def SmoothStopBufferSource.sizeHint (source : SmoothStopBufferSource F)
    (tokens : CancellationTokens) : Nat × Option Nat :=
  let limit := source.cancellation.remainingSamples tokens source.inner.position
  (0, source.inner.sizeHint.2.map fun maximum => min maximum limit)

def SmoothStopBufferSource.currentFrameLen (source : SmoothStopBufferSource F)
    (tokens : CancellationTokens) : Option Nat :=
  source.inner.currentFrameLen.map fun remaining =>
    min remaining (source.cancellation.remainingSamples tokens source.inner.position)

def TrackedBufferSource.sizeHint (source : TrackedBufferSource F)
    (tokens : CancellationTokens) : Nat × Option Nat :=
  let limit := source.cancellation.remainingSamples tokens source.inner.position
  (0, source.inner.sizeHint.2.map fun maximum => min maximum limit)

def TrackedBufferSource.currentFrameLen (source : TrackedBufferSource F)
    (tokens : CancellationTokens) : Option Nat :=
  source.inner.currentFrameLen.map fun remaining =>
    min remaining (source.cancellation.remainingSamples tokens source.inner.position)

namespace BufferedSource

def sizeHint (source : BufferedSource F) (tokens : CancellationTokens) : Nat × Option Nat :=
  match source with
  | .plain source => source.sizeHint
  | .smoothStop source => source.sizeHint tokens
  | .tracked source => source.sizeHint tokens

def currentFrameLen (source : BufferedSource F) (tokens : CancellationTokens) : Option Nat :=
  match source with
  | .plain source => source.currentFrameLen
  | .smoothStop source => source.currentFrameLen tokens
  | .tracked source => source.currentFrameLen tokens

/-! ## Calls on a buffered source -/

def inner : BufferedSource F → BufferSource F
  | .plain source => source
  | .smoothStop source => source.inner
  | .tracked source => source.inner

theorem position_eq (source : BufferedSource F) : source.position = source.inner.position := by
  cases source <;> rfl

end BufferedSource

theorem TrackedBufferSource.cues_advance (source : TrackedBufferSource F)
    (tokens : CancellationTokens) (gain : Gain) (begun : source.cancellation.hasBegun = true) :
    (source.advance tokens gain).cues = [] := by
  unfold advance
  rw [if_pos begun]
  dsimp only
  split <;> rfl

namespace BufferedSource

variable {source : BufferedSource F} {tokens : CancellationTokens}

/-- A call that the cancellation does not let through. -/
theorem next_of_none
    (stopped : (source.cancellation.nextGain tokens source.position).2 = none) :
    (source.next tokens).sample = none ∧ (source.next tokens).cues = [] ∧
      (source.next tokens).source.cancellation =
        (source.cancellation.nextGain tokens source.position).1 ∧
      (source.next tokens).source.inner = source.inner := by
  cases source with
  | plain source =>
      have playing : (BufferedSource.plain source).cancellation.nextGain tokens
          (BufferedSource.plain source).position =
          ((BufferedSource.plain source).cancellation, some .unity) :=
        PlaybackCancellation.nextGain_of_unrequested rfl rfl _
      rw [playing] at stopped
      cases stopped
  | smoothStop source =>
      have stopped : (source.cancellation.nextGain tokens source.inner.position).2 = none := stopped
      have called : source.next tokens = ⟨{ source with
          cancellation := (source.cancellation.nextGain tokens source.inner.position).1 },
          [], none⟩ := by
        rw [SmoothStopBufferSource.next, stopped]
      rw [next, called]
      exact ⟨rfl, rfl, rfl, rfl⟩
  | tracked source =>
      rw [next, source.next_of_stopped tokens stopped]
      exact ⟨rfl, rfl, rfl, rfl⟩

/-- A call that the cancellation lets through. -/
theorem next_of_some {gain : Gain}
    (gained : (source.cancellation.nextGain tokens source.position).2 = some gain) :
    (source.next tokens).sample = source.inner.next.2.map (·, gain) ∧
      ((source.cancellation.nextGain tokens source.position).1.hasBegun = true →
        (source.next tokens).cues = []) ∧
      (source.next tokens).source.cancellation =
        (source.cancellation.nextGain tokens source.position).1 ∧
      (source.next tokens).source.inner = source.inner.next.1 := by
  cases source with
  | plain source =>
      have playing : (BufferedSource.plain source).cancellation.nextGain tokens
          (BufferedSource.plain source).position =
          ((BufferedSource.plain source).cancellation, some .unity) :=
        PlaybackCancellation.nextGain_of_unrequested rfl rfl _
      rw [playing] at gained ⊢
      cases gained
      exact ⟨rfl, fun _ => rfl, rfl, rfl⟩
  | smoothStop source =>
      have gained : (source.cancellation.nextGain tokens source.inner.position).2 = some gain :=
        gained
      have called : source.next tokens = ⟨⟨source.inner.next.1,
          (source.cancellation.nextGain tokens source.inner.position).1⟩, [],
          source.inner.next.2.map (·, gain)⟩ := by
        rw [SmoothStopBufferSource.next, gained]
      rw [next, called]
      exact ⟨rfl, fun _ => rfl, rfl, rfl⟩
  | tracked source =>
      have gained : (source.cancellation.nextGain tokens source.inner.position).2 = some gain :=
        gained
      obtain ⟨cancellation, inner, sample, -⟩ := source.next_of_gain tokens gained
      refine ⟨sample, fun begun => ?_, cancellation, inner⟩
      have called : source.next tokens = { source with
          cancellation := (source.cancellation.nextGain tokens source.inner.position).1 }.advance
          tokens gain := by
        rw [TrackedBufferSource.next, gained]
      rw [next, called]
      exact TrackedBufferSource.cues_advance _ tokens gain begun

/-- What the consumer sees of a call. -/
def observe (source : BufferedSource F) (tokens : CancellationTokens) : Observed F where
  requested := source.cancellation.isRequested tokens
  begun := (source.next tokens).source.cancellation.hasBegun
  cues := (source.next tokens).cues
  outcome :=
    match (source.next tokens).sample with
    | some value => .sample value
    | none => .ended

/-- A buffered source is called until it ends, and afterwards. -/
def consumption : Consumption (BufferedSource F) F where
  cancellation := BufferedSource.cancellation
  position := BufferedSource.position
  rest := fun source => source.inner.rest
  steps := fun tokens source observed source' =>
    observed = source.observe tokens ∧ source' = (source.next tokens).source
  holds := fun _ => True
  finished := fun _ source => source.cancellation.state = .finished ∨ source.inner.rest = []

theorem outcome_of_none (none : (source.next tokens).sample = none) :
    (source.observe tokens).outcome = .ended := by
  unfold observe
  dsimp only
  rw [none]

theorem outcome_of_some {value : F × Gain} (taken : (source.next tokens).sample = some value) :
    (source.observe tokens).outcome = .sample value := by
  unfold observe
  dsimp only
  rw [taken]

/-- A call on a source with no samples left. -/
theorem next_of_drained {gain : Gain} (left : source.inner.rest = [])
    (gained : (source.cancellation.nextGain tokens source.position).2 = some gain) :
    (source.next tokens).sample = none ∧ (source.next tokens).source.inner = source.inner := by
  obtain ⟨sample, -, -, inner⟩ := next_of_some gained
  rw [BufferSource.next_of_nil left] at sample inner
  exact ⟨sample, inner⟩

/-- A call that takes a sample. -/
theorem next_of_left {gain : Gain} {value : F} {more : List F}
    (left : source.inner.rest = value :: more)
    (gained : (source.cancellation.nextGain tokens source.position).2 = some gain) :
    (source.next tokens).sample = some (value, gain) ∧
      (source.next tokens).source.inner.rest = more ∧
      (source.next tokens).source.position = source.position + 1 := by
  obtain ⟨sample, -, -, inner⟩ := next_of_some gained
  obtain ⟨moved, tail⟩ := BufferSource.next_of_cons left
  rw [moved] at sample inner
  refine ⟨sample, ?_, ?_⟩
  · rw [inner]
    exact tail
  · rw [position_eq, position_eq, inner]

theorem moves_next (source : BufferedSource F) (tokens : CancellationTokens) :
    consumption.Moves tokens source (source.observe tokens) (source.next tokens).source := by
  cases gained : (source.cancellation.nextGain tokens source.position).2 with
  | none =>
      obtain ⟨sample, cues, asked, inner⟩ := next_of_none gained
      refine .stopped gained (outcome_of_none sample) cues asked ?_
        (congrArg BufferSource.rest inner)
      exact (position_eq _).trans ((congrArg BufferSource.position inner).trans
        (position_eq _).symm)
  | some gain =>
      obtain ⟨-, cues, asked, inner⟩ := next_of_some gained
      have quiet : (source.next tokens).source.cancellation.hasBegun = true →
          (source.observe tokens).cues = [] := fun begun => cues (asked ▸ begun)
      cases left : source.inner.rest with
      | nil =>
          obtain ⟨sample, same⟩ := next_of_drained left gained
          refine .drained left ((congrArg BufferSource.rest same).trans left)
            (Or.inl (outcome_of_none sample)) quiet asked ?_
          exact (position_eq _).trans ((congrArg BufferSource.position same).trans
            (position_eq _).symm)
      | cons value more =>
          obtain ⟨sample, rest, position⟩ := next_of_left left gained
          refine .sample value gain gained ?_ (outcome_of_some sample) quiet asked position
          exact left.trans (congrArg (value :: ·) rest.symm)

end BufferedSource

/-- A cancellation that lets nothing through is finished. -/
theorem finished_of_none {cancellation : PlaybackCancellation} {tokens : CancellationTokens}
    {position : Nat} (none : (cancellation.nextGain tokens position).2 = none) :
    (cancellation.nextGain tokens position).1.state = .finished := by
  unfold PlaybackCancellation.nextGain at none ⊢
  cases state : cancellation.state with
  | finished => exact state
  | fading samplesEmitted =>
      rw [state] at none
      dsimp only at none
      rw [fade_gain] at none
      cases none
  | playing =>
      rw [state] at none
      dsimp only at none ⊢
      split at none
      · rename_i stops
        rw [if_pos stops]
        split at none
        · rename_i silent
          rw [if_pos silent]
        · rw [fade_gain] at none
          cases none
      · cases none

theorem nextGain_of_finished {cancellation : PlaybackCancellation} (tokens : CancellationTokens)
    (position : Nat) (finished : cancellation.state = .finished) :
    cancellation.nextGain tokens position = (cancellation, none) := by
  unfold PlaybackCancellation.nextGain
  rw [finished]

namespace BufferedSource

/-- **A buffered source is consumed as the law asks.** -/
theorem lawful : Consumption.Lawful (consumption : Consumption (BufferedSource F) F) where
  requested := by
    rintro tokens source observed source' ⟨rfl, rfl⟩
    rfl
  begun := by
    rintro tokens source observed source' ⟨rfl, rfl⟩
    rfl
  moves := by
    rintro tokens source observed source' ⟨rfl, rfl⟩ -
    exact moves_next source tokens
  keeps := fun _ held => held
  finishes := by
    rintro tokens source observed source' ⟨rfl, rfl⟩ - - - ended
    cases gained : (source.cancellation.nextGain tokens source.position).2 with
    | none =>
        obtain ⟨-, -, asked, -⟩ := next_of_none gained
        exact Or.inl (asked ▸ finished_of_none gained)
    | some gain =>
        cases left : source.inner.rest with
        | nil =>
            obtain ⟨-, same⟩ := next_of_drained left gained
            exact Or.inr ((congrArg BufferSource.rest same).trans left)
        | cons value more =>
            obtain ⟨sample, -, -⟩ := next_of_left left gained
            rw [outcome_of_some sample] at ended
            cases ended
  stays := by
    rintro tokens source observed source' ⟨rfl, rfl⟩ finished
    have silent : (source.next tokens).sample = none →
        (source.observe tokens).sample? = none := by
      intro none
      rw [Observed.sample?, outcome_of_none none]
    rcases finished with finished | left
    · have stopped := nextGain_of_finished tokens source.position finished
      obtain ⟨sample, -, asked, -⟩ := next_of_none (congrArg Prod.snd stopped)
      rw [stopped] at asked
      exact ⟨Or.inl (asked ▸ finished), silent sample⟩
    · cases gained : (source.cancellation.nextGain tokens source.position).2 with
      | none =>
          obtain ⟨sample, -, -, same⟩ := next_of_none gained
          exact ⟨Or.inr ((congrArg BufferSource.rest same).trans left), silent sample⟩
      | some gain =>
          obtain ⟨sample, same⟩ := next_of_drained left gained
          exact ⟨Or.inr ((congrArg BufferSource.rest same).trans left), silent sample⟩
  cancel := fun _ finished => finished

/-- What was taken and what is left are what there was. -/
theorem length_rest {start source : BufferedSource F} {from' tokens : CancellationTokens}
    {trace : List (Observed F)} (run : consumption.Run start from' trace source tokens) :
    (emitted trace).length + source.inner.rest.length = start.inner.rest.length := by
  induction run with
  | start => exact Nat.zero_add _
  | cancel before token ih => exact ih
  | @step trace source source' tokens observed before made ih =>
      obtain ⟨rfl, rfl⟩ := made
      rw [← ih, emitted_concat, List.length_append]
      cases gained : (source.cancellation.nextGain tokens source.position).2 with
      | none =>
          obtain ⟨sample, -, -, same⟩ := next_of_none gained
          rw [Observed.sample?, outcome_of_none sample, same]
          rfl
      | some gain =>
          cases rest : source.inner.rest with
          | nil =>
              obtain ⟨sample, same⟩ := next_of_drained rest gained
              rw [Observed.sample?, outcome_of_none sample, same, rest]
              rfl
          | cons value more =>
              obtain ⟨sample, tail, -⟩ := next_of_left rest gained
              rw [Observed.sample?, outcome_of_some sample, tail, List.length_cons]
              exact (Nat.add_right_comm _ _ _).trans rfl

end BufferedSource

/-! ## What is left -/

namespace PlaybackCancellation

/-- The count is right: a fade is under way, or the frame in progress is followed by one. -/
structure Counts (cancellation : PlaybackCancellation) (position : Nat) : Prop where
  within : ∀ samplesEmitted, cancellation.state = .fading samplesEmitted →
    samplesEmitted < cancellation.fadeSamples
  joint : cancellation.state = .playing → position % CHANNELS ≠ 0 → cancellation.fadeSamples ≠ 0

variable {cancellation : PlaybackCancellation} {tokens : CancellationTokens} {position : Nat}

/-- A sample of a fade takes one off. -/
theorem remainingSamples_fade (tokens : CancellationTokens) (position position' : Nat)
    {samplesEmitted : Nat} (within : samplesEmitted < cancellation.fadeSamples) :
    (cancellation.fade samplesEmitted).1.remainingSamples tokens position + 1 =
        cancellation.fadeSamples - samplesEmitted ∧
      (cancellation.fade samplesEmitted).1.Counts position' := by
  unfold fade
  dsimp only
  split
  · rename_i last
    refine ⟨?_, fun _ fading => (by cases fading), fun playing => (by cases playing)⟩
    unfold remainingSamples
    dsimp only
    omega
  · rename_i more
    refine ⟨?_, ?_, fun playing => (by cases playing)⟩
    · unfold remainingSamples
      dsimp only
      have same : fadeSamples { cancellation with state := .fading (samplesEmitted + 1) } =
          cancellation.fadeSamples := rfl
      rw [same]
      omega
    · rintro next ⟨⟩
      exact Nat.lt_of_not_le more

/-- Where nothing is let through nothing is left. -/
theorem remainingSamples_of_none
    (requested : cancellation.isRequested tokens = true)
    (none : (cancellation.nextGain tokens position).2 = none) :
    cancellation.remainingSamples tokens position = 0 ∧
      (cancellation.nextGain tokens position).1.remainingSamples tokens position = 0 ∧
      (cancellation.nextGain tokens position).1.Counts position := by
  have finished := finished_of_none none
  refine ⟨?_, ?_, ?_, ?_⟩
  · unfold nextGain at none
    unfold remainingSamples
    cases state : cancellation.state with
    | finished => rfl
    | fading samplesEmitted =>
        rw [state] at none
        dsimp only at none
        rw [fade_gain] at none
        cases none
    | playing =>
        rw [state] at none
        dsimp only at none ⊢
        rw [if_pos requested]
        split at none
        · split at none
          · rename_i silent
            rw [if_pos silent]
          · rw [fade_gain] at none
            cases none
        · cases none
  · unfold remainingSamples
    rw [finished]
  · intro samplesEmitted fading
    cases finished.symm.trans fading
  · intro playing
    cases finished.symm.trans playing

/-- **A gain takes one off** what is left. -/
theorem Counts.some {gain : Gain} (counts : cancellation.Counts position)
    (requested : cancellation.isRequested tokens = true)
    (gained : (cancellation.nextGain tokens position).2 = some gain) :
    (cancellation.nextGain tokens position).1.remainingSamples tokens (position + 1) + 1 =
        cancellation.remainingSamples tokens position ∧
      (cancellation.nextGain tokens position).1.Counts (position + 1) ∧
      (position % CHANNELS = 0 → (cancellation.nextGain tokens position).1.Counts position) := by
  unfold nextGain at gained ⊢
  cases state : cancellation.state with
  | finished =>
      rw [state] at gained
      cases gained
  | fading samplesEmitted =>
      have within := counts.within samplesEmitted state
      have remaining : cancellation.remainingSamples tokens position =
          cancellation.fadeSamples - samplesEmitted := by
        unfold remainingSamples
        rw [state]
      obtain ⟨off, next⟩ := remainingSamples_fade tokens (position + 1) (position + 1) within
      rw [remaining]
      exact ⟨off, next, fun _ => (remainingSamples_fade tokens position position within).2⟩
  | playing =>
      rw [state] at gained
      dsimp only at gained ⊢
      by_cases boundary : position % CHANNELS = 0
      · rw [if_pos ⟨boundary, requested⟩] at gained ⊢
        split at gained
        · cases gained
        · rename_i audible
          rw [if_neg audible]
          have fading := Nat.pos_of_ne_zero (not_or.mp audible).2
          have remaining : cancellation.remainingSamples tokens position =
              cancellation.fadeSamples - 0 := by
            unfold remainingSamples
            rw [state]
            dsimp only
            rw [if_pos requested, if_neg audible, if_pos boundary]
            omega
          obtain ⟨off, next⟩ := remainingSamples_fade tokens (position + 1) (position + 1) fading
          rw [remaining]
          exact ⟨off, next, fun _ => (remainingSamples_fade tokens position position fading).2⟩
      · have goes : ¬(position % CHANNELS = 0 ∧ cancellation.isRequested tokens = true) :=
          fun stops => boundary stops.1
        rw [if_neg goes]
        have fading := counts.joint state boundary
        refine ⟨?_, ?_, fun even => absurd even boundary⟩
        · unfold remainingSamples
          rw [state]
          dsimp only
          rw [if_pos requested, if_pos requested]
          have next : ¬(position + 1 = 0 ∨ cancellation.fadeSamples = 0) :=
            not_or.mpr ⟨Nat.succ_ne_zero _, fading⟩
          have here : ¬(position = 0 ∨ cancellation.fadeSamples = 0) := by
            refine not_or.mpr ⟨?_, fading⟩
            rintro rfl
            exact boundary rfl
          rw [if_neg next, if_neg here, if_neg boundary]
          unfold CHANNELS at *
          rw [if_pos (by omega)]
          omega
        · exact ⟨counts.within, fun _ _ => fading⟩

/-- What is left once a stop is requested does not depend on what else is cancelled. -/
theorem remainingSamples_cancel (requested : cancellation.isRequested tokens = true)
    (token : CancellationToken) (position : Nat) :
    cancellation.remainingSamples (tokens.cancel token) position =
      cancellation.remainingSamples tokens position := by
  unfold remainingSamples
  rw [requested, isRequested_cancel requested token]

end PlaybackCancellation

namespace BufferedSource

variable {source : BufferedSource F} {tokens : CancellationTokens}

/-- The samples that a source says are left. -/
def samplesLeft (source : BufferedSource F) (tokens : CancellationTokens) : Nat :=
  min source.inner.rest.length (source.cancellation.remainingSamples tokens source.position)

/-- In a state that was asked to stop, what is left is taken or lost. -/
structure Counted (start : BufferedSource F) (from' : CancellationTokens)
    (trace : List (Observed F)) (source : BufferedSource F) (tokens : CancellationTokens) :
    Prop where
  requested : source.cancellation.isRequested tokens = true
  counts : source.cancellation.Counts source.position
  whole : (source.position + source.inner.rest.length) % CHANNELS = 0
  total : (emitted trace).length + source.samplesLeft tokens = start.samplesLeft from'
  ended : (∃ observed ∈ trace, observed.outcome = .ended) → source.samplesLeft tokens = 0

variable {start : BufferedSource F} {from' : CancellationTokens} {trace : List (Observed F)}

/-- A call without a sample loses nothing: nothing was left. -/
theorem Counted.silent (counted : Counted start from' trace source tokens)
    (none : (source.next tokens).sample = none)
    (requested : (source.next tokens).source.cancellation.isRequested tokens = true)
    (counts : (source.next tokens).source.cancellation.Counts (source.next tokens).source.position)
    (inner : (source.next tokens).source.inner = source.inner)
    (before : source.samplesLeft tokens = 0)
    (after : (source.next tokens).source.samplesLeft tokens = 0) :
    Counted start from' (trace ++ [source.observe tokens]) (source.next tokens).source tokens where
  requested := requested
  counts := counts
  whole := by
    rw [position_eq, inner, ← position_eq]
    exact counted.whole
  total := by
    rw [emitted_concat, Observed.sample?, outcome_of_none none, after, ← counted.total, before]
    exact congrArg List.length (List.append_nil _)
  ended := fun _ => after

/-- **A call takes off what it returns.** -/
theorem Counted.step (counted : Counted start from' trace source tokens) :
    Counted start from' (trace ++ [source.observe tokens]) (source.next tokens).source tokens := by
  have requested : (source.next tokens).source.cancellation.isRequested tokens = true :=
    ((moves_next source tokens).sameTokens.isRequested tokens).trans counted.requested
  have position : ∀ next : BufferedSource F, next.inner = source.inner →
      next.position = source.position := by
    intro next same
    rw [position_eq, same, ← position_eq]
  cases gained : (source.cancellation.nextGain tokens source.position).2 with
  | none =>
      obtain ⟨sample, -, asked, inner⟩ := next_of_none gained
      obtain ⟨before, after, counts⟩ :=
        PlaybackCancellation.remainingSamples_of_none counted.requested gained
      refine counted.silent sample requested ?_ inner ?_ ?_
      · rw [asked, position _ inner]
        exact counts
      · rw [samplesLeft, before, Nat.min_zero]
      · rw [samplesLeft, asked, position _ inner, after, Nat.min_zero]
  | some gain =>
      obtain ⟨off, next, still⟩ := counted.counts.some counted.requested gained
      obtain ⟨-, -, asked, -⟩ := next_of_some gained
      cases rest : source.inner.rest with
      | nil =>
          obtain ⟨sample, inner⟩ := next_of_drained rest gained
          have boundary := counted.whole
          rw [rest, List.length_nil, Nat.add_zero] at boundary
          refine counted.silent sample requested ?_ inner ?_ ?_
          · rw [asked, position _ inner]
            exact still boundary
          · rw [samplesLeft, rest, List.length_nil, Nat.zero_min]
          · rw [samplesLeft, inner, rest, List.length_nil, Nat.zero_min]
      | cons value more =>
          obtain ⟨sample, tail, moved⟩ := next_of_left rest gained
          have whole := counted.whole
          have total := counted.total
          rw [samplesLeft, rest, List.length_cons, ← off] at total
          rw [rest, List.length_cons] at whole
          have positive : 0 < source.samplesLeft tokens := by
            rw [samplesLeft, rest, List.length_cons, ← off]
            exact Nat.lt_min.mpr ⟨Nat.succ_pos _, Nat.succ_pos _⟩
          refine ⟨requested, ?_, ?_, ?_, ?_⟩
          · rw [asked, moved]
            exact next
          · rw [moved, tail, Nat.add_assoc, Nat.add_comm 1]
            exact whole
          · rw [emitted_concat, Observed.sample?, outcome_of_some sample, samplesLeft, asked, moved,
              tail, ← total]
            have one : (emitted trace ++ (some (value, gain)).toList).length =
                (emitted trace).length + 1 := List.length_append
            rw [one]
            omega
          · rintro ⟨ending, member, ended⟩
            rcases List.mem_append.mp member with earlier | last
            · have nothing := counted.ended ⟨ending, earlier, ended⟩
              omega
            · rw [List.mem_singleton.mp last, outcome_of_some sample] at ended
              cases ended

/-- **Every run takes off what it returns.** -/
theorem Counted.run (requested : start.cancellation.isRequested from' = true)
    (counts : start.cancellation.Counts start.position)
    (whole : (start.position + start.inner.rest.length) % CHANNELS = 0)
    (run : consumption.Run start from' trace source tokens) :
    Counted start from' trace source tokens := by
  induction run with
  | start =>
      refine ⟨requested, counts, whole, Nat.zero_add _, ?_⟩
      rintro ⟨ending, absent, -⟩
      exact absurd absent List.not_mem_nil
  | cancel before token ih =>
      have same : ∀ state : BufferedSource F, ∀ known : CancellationTokens,
          state.cancellation.isRequested known = true →
          state.samplesLeft (known.cancel token) = state.samplesLeft known := by
        intro state known asked
        rw [samplesLeft, PlaybackCancellation.remainingSamples_cancel asked, ← samplesLeft]
      refine ⟨isRequested_cancel ih.requested token, ih.counts, ih.whole, ?_, ?_⟩
      · rw [same _ _ ih.requested]
        exact ih.total
      · rw [same _ _ ih.requested]
        exact ih.ended
  | step before made ih =>
      obtain ⟨rfl, rfl⟩ := made
      exact ih.step

/-- Both predictions of a source agree. They are at least what is still taken in any run, and
exactly that once a stop is requested. -/
def Predicts (source : BufferedSource F) (tokens : CancellationTokens) : Prop :=
  ∃ length, source.currentFrameLen tokens = some length ∧
    (source.sizeHint tokens).2 = some length ∧
    (∀ trace source' tokens', consumption.Run source tokens trace source' tokens' →
      (emitted trace).length ≤ length) ∧
    (source.cancellation.isRequested tokens = true →
      ∀ trace source' tokens', consumption.Run source tokens trace source' tokens' →
        (∃ observed ∈ trace, observed.outcome = .ended) → (emitted trace).length = length)

/-- A stop is requested in the middle of a frame, and there is no fade. -/
def SplitWithoutFade (source : BufferedSource F) (tokens : CancellationTokens) : Prop :=
  source.cancellation.isRequested tokens = true ∧ source.cancellation.state = .playing ∧
    source.position % CHANNELS ≠ 0 ∧ source.cancellation.fadeSamples = 0

/-- Both predictions are the samples left. -/
theorem predictions_eq (bounded : source.inner.rest.length ≤ usizeMax) :
    source.currentFrameLen tokens = some (source.samplesLeft tokens) ∧
      (source.sizeHint tokens).2 = some (source.samplesLeft tokens) := by
  have rest : source.inner.rest.length = source.inner.samples.length - source.inner.position :=
    List.length_drop
  unfold samplesLeft
  rw [rest] at bounded ⊢
  cases source with
  | plain source =>
      have unlimited : (BufferedSource.plain source).cancellation.remainingSamples tokens
          (BufferedSource.plain source).position = usizeMax := rfl
      rw [unlimited, Nat.min_eq_left bounded]
      exact ⟨rfl, rfl⟩
  | smoothStop source => exact ⟨rfl, rfl⟩
  | tracked source => exact ⟨rfl, rfl⟩

/-- The frame that is completed was not predicted. -/
theorem not_predicts_of_split (whole : (source.position + source.inner.rest.length) % CHANNELS = 0)
    (bounded : source.inner.rest.length ≤ usizeMax) (split : SplitWithoutFade source tokens) :
    ¬Predicts source tokens := by
  obtain ⟨requested, state, inside, unfaded⟩ := split
  rintro ⟨length, predicted, -, atLeast, -⟩
  have nothing : source.samplesLeft tokens = 0 := by
    unfold samplesLeft PlaybackCancellation.remainingSamples
    rw [state]
    dsimp only
    rw [if_pos requested, if_pos (Or.inr unfaded), Nat.min_zero]
  have zero : length = 0 := by
    rw [(predictions_eq bounded).1, nothing] at predicted
    exact (Option.some.inj predicted).symm
  have gained : (source.cancellation.nextGain tokens source.position).2 = some .unity := by
    unfold PlaybackCancellation.nextGain
    rw [state]
    dsimp only
    rw [if_neg fun stops => inside stops.1]
  cases rest : source.inner.rest with
  | nil =>
      rw [rest, List.length_nil, Nat.add_zero] at whole
      exact inside whole
  | cons value more =>
      obtain ⟨sample, -, -⟩ := next_of_left rest gained
      have few := atLeast _ _ _ (.step (.start) ⟨rfl, rfl⟩)
      rw [emitted_concat, Observed.sample?, outcome_of_some sample, zero] at few
      exact absurd few (Nat.not_succ_le_zero 0)

/-- **A source predicts what is left**, but in the middle of a frame that no fade follows. -/
theorem predicts_iff {fadeFrames : Nat} {samples : List F}
    (obeys : consumption.Obeys fadeFrames samples trace source tokens)
    (bounded : source.inner.rest.length ≤ usizeMax) :
    Predicts source tokens ↔ ¬SplitWithoutFade source tokens := by
  refine ⟨fun predicts split => not_predicts_of_split obeys.whole bounded split predicts, ?_⟩
  intro joint
  obtain ⟨frame, hint⟩ := @predictions_eq F source tokens bounded
  by_cases requested : source.cancellation.isRequested tokens = true
  · have counts : source.cancellation.Counts source.position := by
      refine ⟨?_, fun playing inside unfaded => joint ⟨requested, playing, inside, unfaded⟩⟩
      intro samplesEmitted fading
      have stage := obeys.stage
      generalize requestedAt trace = asked at stage
      cases stage with
      | playing _ state => cases state.symm.trans fading
      | fading before known taken state started within =>
          cases state.symm.trans fading
          exact within
      | finished before taken state => cases state.symm.trans fading
    have counted : ∀ {trace source' tokens'},
        consumption.Run source tokens trace source' tokens' →
        Counted source tokens trace source' tokens' :=
      fun run => Counted.run requested counts obeys.whole run
    refine ⟨source.samplesLeft tokens, frame, hint, ?_, ?_⟩
    · intro later source' tokens' run
      exact (counted run).total ▸ Nat.le_add_right _ _
    · intro _ later source' tokens' run ended
      have total := (counted run).total
      rw [(counted run).ended ended] at total
      exact total
  · have playing : source.cancellation.state = .playing := by
      have unnoted : requestedAt trace = none := by
        by_contra noted
        exact requested (obeys.permanent noted)
      have stage := obeys.stage
      rw [unnoted] at stage
      cases stage with
      | playing _ state => exact state
    have all : source.samplesLeft tokens = source.inner.rest.length := by
      unfold samplesLeft PlaybackCancellation.remainingSamples
      rw [playing]
      dsimp only
      rw [if_neg requested, Nat.min_eq_left bounded]
    refine ⟨source.samplesLeft tokens, frame, hint, ?_, fun asked => absurd asked requested⟩
    intro later source' tokens' run
    rw [all, ← length_rest run]
    exact Nat.le_add_right _ _

/-- A call tells the ticket when it ends, and of a cancellation that is requested. -/
theorem tells_tracked {source : BufferedSource F} {tokens : CancellationTokens}
    (tracked : ∃ own, source = .tracked own) :
    (∃ own, (source.next tokens).source = .tracked own) ∧
      ((source.observe tokens).ends = false →
        (source.next tokens).source.completion = source.completion) ∧
      ((source.observe tokens).ends = true → ∃ status,
        (source.next tokens).source.completion = source.completion.report status ∧
          ((source.observe tokens).requested = true → status = .cancelled)) := by
  obtain ⟨own, rfl⟩ := tracked
  refine ⟨⟨_, rfl⟩, ?_⟩
  cases gained : (own.cancellation.nextGain tokens own.inner.position).2 with
  | none =>
      obtain ⟨sample, -, -, -⟩ := @next_of_none F (.tracked own) tokens gained
      have ends : ((BufferedSource.tracked own).observe tokens).ends = true := by
        rw [Observed.ends, outcome_of_none sample]
      refine ⟨fun goes => (by cases ends.symm.trans goes), fun _ => ⟨.cancelled, ?_, fun _ => rfl⟩⟩
      rw [next, own.next_of_stopped tokens gained]
      rfl
  | some gain =>
      obtain ⟨-, -, -, told⟩ := own.next_of_gain tokens gained
      cases left : own.inner.rest with
      | nil =>
          obtain ⟨sample, -⟩ := @next_of_drained F (.tracked own) tokens gain left gained
          have ends : ((BufferedSource.tracked own).observe tokens).ends = true := by
            rw [Observed.ends, outcome_of_none sample]
          rw [BufferSource.next_of_nil left] at told
          refine ⟨fun goes => (by cases ends.symm.trans goes), fun _ => ⟨_, told, ?_⟩⟩
          intro requested
          have same := sameTokens_nextGain own.cancellation tokens own.inner.position
          have asked : own.cancellation.isRequested tokens = true := requested
          rw [same.isRequested, asked, Bool.or_true, if_pos rfl]
      | cons value more =>
          obtain ⟨sample, -, -⟩ := @next_of_left F (.tracked own) tokens gain value more left gained
          have goes : ((BufferedSource.tracked own).observe tokens).ends = false := by
            rw [Observed.ends, outcome_of_some sample]
          rw [(BufferSource.next_of_cons left).1] at told
          exact ⟨fun _ => told, fun ends => (by cases ends.symm.trans goes)⟩

/-- **A tracked source reports a cancellation** before its end. -/
theorem reports_tracked {own : TrackedBufferSource F} (unreported : own.completion = none)
    {from' tokens : CancellationTokens} {trace : List (Observed F)} {source : BufferedSource F}
    (run : consumption.Run (.tracked own) from' trace source tokens) :
    ReportsCancelled trace source.completion := by
  have untold : (BufferedSource.tracked own).completion = none := unreported
  refine (Consumption.Run.reports (fun source => ∃ other, source = .tracked other) completion
    ⟨own, rfl⟩ untold ?_ run).2.2
  rintro tokens source observed source' ⟨rfl, rfl⟩ tracked
  exact tells_tracked tracked

end BufferedSource

end Omnivox.Audio
