import Mathlib
import Omnivox.Audio.PlaybackSource
import Omnivox.Foundations.Timed

/-!
# Cues on time

In samples, the time of a cue is the first sample of its frame. A source that goes through
cues in order of their offsets, none of them behind it, calls each of them back at its
time: those that are due now, and no later one (`dueCues_spec`).

A buffered source that is not cancelled plays its samples with unity gain, each cue at its
time, and reports completion (`TrackedBufferSource.play_onTime`).
-/

set_option autoImplicit false

namespace Omnivox.Audio

open Foundations

/-- The samples before a cue. -/
def PlaybackCue.time (cue : PlaybackCue) : Nat := CHANNELS * cue.frameOffset

/-- In order of their offsets. -/
def CuesOrdered (cues : List PlaybackCue) : Prop :=
  cues.Pairwise fun first second => first.frameOffset ≤ second.frameOffset

/-- None of the cues is behind a position. -/
def CuesAhead (position : Nat) (cues : List PlaybackCue) : Prop :=
  ∀ cue ∈ cues, position ≤ cue.time

/-- The cues at the front that are called back at a position. -/
def dueCues (position : Nat) (cues : List PlaybackCue) : List PlaybackCue :=
  if position % CHANNELS ≠ 0 then []
  else cues.takeWhile fun cue => cue.frameOffset == position / CHANNELS

theorem CuesOrdered.suffix {earlier later : List PlaybackCue}
    (ordered : CuesOrdered (earlier ++ later)) : CuesOrdered later :=
  (List.pairwise_append.mp ordered).2.1

/-- At a frame boundary a cue is due when its offset is that frame. -/
theorem time_eq_iff {position : Nat} (boundary : position % CHANNELS = 0) (cue : PlaybackCue) :
    cue.time = position ↔ cue.frameOffset = position / CHANNELS := by
  unfold PlaybackCue.time CHANNELS at *
  omega

/-- Between frame boundaries no cue is due. -/
theorem time_ne_of_odd {position : Nat} (inside : position % CHANNELS ≠ 0) (cue : PlaybackCue) :
    cue.time ≠ position := by
  unfold PlaybackCue.time CHANNELS at *
  omega

theorem time_le_time {first second : PlaybackCue} (le : first.frameOffset ≤ second.frameOffset) :
    first.time ≤ second.time :=
  Nat.mul_le_mul_left CHANNELS le

/-- **Each cue in its time.** The cues that are called back are due now, and the others
later. -/
theorem dueCues_spec {position : Nat} {cues : List PlaybackCue} (ordered : CuesOrdered cues)
    (ahead : CuesAhead position cues) :
    dueCues position cues ++ cues.drop (dueCues position cues).length = cues ∧
      (∀ cue ∈ dueCues position cues, cue.time = position) ∧
      CuesAhead (position + 1) (cues.drop (dueCues position cues).length) := by
  unfold dueCues
  split
  · rename_i inside
    refine ⟨rfl, fun _ member => absurd member List.not_mem_nil, ?_⟩
    intro cue member
    exact Nat.lt_of_le_of_ne (ahead cue member) (time_ne_of_odd inside cue).symm
  · rename_i boundary
    have boundary : position % CHANNELS = 0 := not_not.mp boundary
    clear ‹¬_›
    induction cues with
    | nil =>
        exact ⟨rfl, fun _ member => absurd member List.not_mem_nil,
          fun _ member => absurd member List.not_mem_nil⟩
    | cons cue rest ih =>
        obtain ⟨first, others⟩ := List.pairwise_cons.mp ordered
        by_cases here : cue.frameOffset = position / CHANNELS
        · have restAhead : CuesAhead position rest :=
            fun other member => ahead other (List.mem_cons_of_mem _ member)
          obtain ⟨parts, due, later⟩ := ih others restAhead
          have front : (cue :: rest).takeWhile (fun cue => cue.frameOffset == position / CHANNELS) =
              cue :: rest.takeWhile fun cue => cue.frameOffset == position / CHANNELS :=
            List.takeWhile_cons_of_pos (beq_iff_eq.mpr here)
          rw [front, List.length_cons, List.drop_succ_cons]
          refine ⟨congrArg (cue :: ·) parts, ?_, later⟩
          intro other member
          rcases List.mem_cons.mp member with rfl | member
          · exact (time_eq_iff boundary _).mpr here
          · exact due other member
        · have none : (cue :: rest).takeWhile (fun cue => cue.frameOffset == position / CHANNELS) =
              [] :=
            List.takeWhile_cons_of_neg fun same => here (eq_of_beq same)
          rw [none]
          refine ⟨rfl, fun _ member => absurd member List.not_mem_nil, ?_⟩
          have notDue : cue.time ≠ position := fun due => here ((time_eq_iff boundary cue).mp due)
          have behind : position < cue.time :=
            Nat.lt_of_le_of_ne (ahead cue List.mem_cons_self) notDue.symm
          intro other member
          rcases List.mem_cons.mp member with rfl | member
          · exact behind
          · exact behind.trans_le (time_le_time (first other member))

/-- Cues that are neither behind a position nor after it are all called back there. -/
theorem dueCues_all {position : Nat} {cues : List PlaybackCue}
    (here : ∀ cue ∈ cues, cue.time = position) (boundary : position % CHANNELS = 0) :
    dueCues position cues = cues := by
  unfold dueCues
  rw [if_neg (not_not.mpr boundary), List.takeWhile_eq_self_iff]
  intro cue member
  exact beq_iff_eq.mpr ((time_eq_iff boundary cue).mp (here cue member))

/-- Cues in order and within the buffer are prepared as they are. -/
theorem preparePlaybackCues_of_ordered {cues : List PlaybackCue} {frameCount : Nat}
    (ordered : CuesOrdered cues) (within : ∀ cue ∈ cues, cue.frameOffset ≤ frameCount) :
    preparePlaybackCues cues frameCount = .ok cues := by
  have none : (cues.find? fun cue => decide (frameCount < cue.frameOffset)) = none := by
    rw [List.find?_eq_none]
    intro cue member beyond
    exact absurd (of_decide_eq_true beyond) (Nat.not_lt.mpr (within cue member))
  rw [preparePlaybackCues, none]
  exact congrArg Except.ok (List.Pairwise.insertionSort_eq ordered)

/-! ## Buffered sources without cancellation -/

namespace TrackedBufferSource

variable {F : Type}

/-- The cues that are not called back yet. -/
def cuesLeft (source : TrackedBufferSource F) : List PlaybackCue :=
  source.cues.drop source.nextCue

theorem reportCuesAtCurrentFrame_eq (source : TrackedBufferSource F) :
    source.reportCuesAtCurrentFrame =
      ({ source with nextCue :=
          source.nextCue + (dueCues source.inner.position source.cuesLeft).length },
        dueCues source.inner.position source.cuesLeft) := by
  unfold reportCuesAtCurrentFrame dueCues
  split
  · rfl
  · rfl

/-- A call without a cancellation: the cues that are due, and the next sample. -/
theorem next_of_unrequested {source : TrackedBufferSource F} {tokens : CancellationTokens}
    (playing : source.cancellation.state = .playing)
    (unrequested : source.cancellation.isRequested tokens = false) :
    source.next tokens = source.advance tokens .unity := by
  unfold next
  rw [PlaybackCancellation.nextGain_of_unrequested playing unrequested]

theorem hasBegun_of_playing {cancellation : PlaybackCancellation}
    (playing : cancellation.state = .playing) : cancellation.hasBegun = false := by
  rw [PlaybackCancellation.hasBegun, playing]
  rfl

theorem advance_of_playing {source : TrackedBufferSource F} (tokens : CancellationTokens)
    (playing : source.cancellation.state = .playing) :
    source.advance tokens .unity =
      let due := dueCues source.inner.position source.cuesLeft
      let advanced := source.inner.next
      let reported := { source with nextCue := source.nextCue + due.length, inner := advanced.1 }
      match advanced.2 with
      | some sample => ⟨reported, due, some (sample, .unity)⟩
      | none =>
          let status := if source.cancellation.isRequested tokens
            then PlaybackStatus.cancelled else .completed
          ⟨reported.report status, due, none⟩ := by
  have begun := hasBegun_of_playing playing
  cases moved : source.inner.next.2 with
  | none =>
      simp only [advance, begun, Bool.false_eq_true, if_false, reportCuesAtCurrentFrame_eq,
        Bool.false_or, moved]
  | some sample =>
      simp only [advance, begun, Bool.false_eq_true, if_false, reportCuesAtCurrentFrame_eq, moved]

/-- The source after the callbacks of a call and the move to the next sample. -/
theorem cuesLeft_advanced (source : TrackedBufferSource F) (inner : BufferSource F) (count : Nat) :
    cuesLeft { source with nextCue := source.nextCue + count, inner := inner } =
      source.cuesLeft.drop count := by
  rw [cuesLeft, cuesLeft, List.drop_drop]

/-- **Buffered playback without a cancellation**: every sample, every cue at its time, and
completion. -/
theorem play_onTime (source : TrackedBufferSource F) {tokens : CancellationTokens} {calls : Nat}
    (playing : source.cancellation.state = .playing)
    (unrequested : source.cancellation.isRequested tokens = false)
    (ordered : CuesOrdered source.cuesLeft) (ahead : CuesAhead source.inner.position source.cuesLeft)
    (within : ∀ cue ∈ source.cuesLeft,
      cue.time ≤ source.inner.position + source.inner.rest.length)
    (enough : source.inner.rest.length < calls) :
    TimedFrom PlaybackCue.time source.inner.position (source.play tokens calls).2 ∧
      marks (source.play tokens calls).2 = source.cuesLeft ∧
      ticks (source.play tokens calls).2 = source.inner.rest.map (·, Gain.unity) ∧
      (source.play tokens calls).1.completion = source.completion.report .completed := by
  induction calls generalizing source with
  | zero => exact absurd enough (Nat.not_lt_zero _)
  | succ calls ih =>
      obtain ⟨parts, due, later⟩ := dueCues_spec ordered ahead
      rw [play, next_of_unrequested playing unrequested, advance_of_playing tokens playing]
      generalize left : source.inner.rest = rest at *
      cases rest with
      | nil =>
          rw [BufferSource.next_of_nil left]
          simp only [unrequested, Bool.false_eq_true, if_false, Polled.playback,
            Option.toList_none, List.map_nil, List.append_nil, marks_map_inl, ticks_map_inl]
          refine ⟨timedFrom_map_inl due, ?_, trivial, rfl⟩
          -- nothing can be due later than the end
          have none : source.cuesLeft.drop (dueCues source.inner.position source.cuesLeft).length
              = [] := by
            rw [List.eq_nil_iff_forall_not_mem]
            intro cue member
            have early := within cue (List.mem_of_mem_drop member)
            have late := later cue member
            rw [List.length_nil] at early
            omega
          rw [none, List.append_nil] at parts
          exact parts
      | cons sample more =>
          obtain ⟨moved, tail⟩ := BufferSource.next_of_cons left
          rw [moved]
          dsimp only
          generalize due' : dueCues source.inner.position source.cuesLeft = dueNow at *
          have rest := cuesLeft_advanced source
            { source.inner with position := source.inner.position + 1 } dueNow.length
          generalize advanced : ({ source with
            nextCue := source.nextCue + dueNow.length
            inner := { source.inner with position := source.inner.position + 1 } } :
              TrackedBufferSource F) = next at *
          have position : next.inner.position = source.inner.position + 1 := by rw [← advanced]
          have samples : next.inner.rest = more := by rw [← advanced, ← tail]
          obtain ⟨timed, cues, heard, told⟩ := @ih next (by rw [← advanced]; exact playing)
            (by rw [← advanced]; exact unrequested)
            (by rw [rest]; exact CuesOrdered.suffix (parts ▸ ordered))
            (by rw [rest, position]; exact later)
            (by
              rw [rest, position, samples]
              intro cue member
              have bound := within cue (List.mem_of_mem_drop member)
              rw [List.length_cons] at bound
              omega)
            (by rw [samples]; exact Nat.lt_of_succ_lt_succ enough)
          refine ⟨?_, ?_, ?_, ?_⟩
          · rw [Polled.playback, List.append_assoc, timedFrom_append]
            refine ⟨timedFrom_map_inl due, ?_⟩
            rw [ticks_map_inl, List.length_nil, Nat.add_zero]
            rw [position] at timed
            exact timed
          · rw [Polled.playback, marks_append, marks_append, marks_map_inl, cues, rest]
            simpa using parts
          · rw [Polled.playback, ticks_append, ticks_append, ticks_map_inl, heard, samples]
            rfl
          · rw [told, ← advanced]

end TrackedBufferSource

end Omnivox.Audio
