import Mathlib
import Omnivox.Audio.CallbackBoundaries

/-!
# The converted stream

Between two pushes the converter is where the samples so far have taken it, so
the calls on the resampler and the frames that come out depend on the
concatenation of the pieces alone. A conversion that succeeds completes the
canonical length of its native frames, and the canonical clock is monotone, so
that no native frame of an utterance is mapped behind its end
(`convert_cut_invariant`).
-/

set_option autoImplicit false

namespace Omnivox.Audio

open Foundations

variable {R F : Type} [Resampler R F]

/-! ## Counting frames -/

omit [Resampler R F] in
/-- The output count grows by the frames collected. -/
theorem collectFrames_counts {channels outputFrames total : Nat} {output : List (List F)}
    {frameLimit : Option Nat} {windows : List (AudioBuffer F)}
    (collected : collectFrames channels outputFrames output frameLimit = .ok (total, windows)) :
    total = outputFrames + windows.flatten.length := by
  unfold collectFrames at collected
  split at collected
  · cases collected
  · split at collected
    · cases collected
    · dsimp only at collected
      split at collected
      · cases collected
        rfl
      · split at collected
        · cases collected
        · rename_i sum added
          cases collected
          rw [(checkedAdd_eq_some.mp added).1, List.flatten_singleton]

theorem convertWindows_counts [Inhabited F] {channels : Nat} {core final : R × Nat}
    {frames : List (List F)} {windows : List (AudioBuffer F)}
    (converted : convertWindows channels core frames = (final, .ok windows)) :
    final.2 = core.2 + windows.flatten.length := by
  unfold convertWindows at converted
  generalize (chunksExact inputWindowFrames frames).map (channelsOf channels) = inputs at converted
  induction inputs generalizing core windows with
  | nil =>
      cases converted
      rfl
  | cons input rest ih =>
      obtain ⟨middle, first, answer, further⟩ := andThen_eq_ok.mp converted
      obtain ⟨last, others, run, same⟩ := andThen_eq_ok.mp further
      cases same
      have tail := ih run
      have head : middle.2 = core.2 + first.flatten.length := by
        unfold convertWindow at answer
        dsimp only at answer
        split at answer
        · cases answer
        · split at answer
          · cases answer
          · rename_i collected
            cases answer
            exact collectFrames_counts collected
      rw [tail, head, List.flatten_append, List.length_append, Nat.add_assoc]

omit [Resampler R F] in
theorem collectOutput_counts {converter final : ProgressivePcmCanonicalizer R F}
    {output : List (List F)} {frameLimit : Option Nat} {windows collected : List (AudioBuffer F)}
    (done : converter.collectOutput output frameLimit windows = (final, .ok collected)) :
    final.outputFrames + windows.flatten.length =
      converter.outputFrames + collected.flatten.length := by
  unfold ProgressivePcmCanonicalizer.collectOutput at done
  split at done
  · cases done
  · rename_i added found
    have total := collectFrames_counts found
    cases done
    simp only [List.flatten_append, List.length_append]
    omega

omit [Resampler R F] in
theorem call_counts {converter final : ProgressivePcmCanonicalizer R F}
    {request : R → Outcome R String (List (List F))} {output : List (List F)}
    (called : converter.call request = (final, .ok output)) :
    final.outputFrames = converter.outputFrames := by
  unfold ProgressivePcmCanonicalizer.call at called
  split at called
  · cases called
  · have state := congrArg Prod.fst called
    exact (congrArg (fun state => state.outputFrames) state).symm

theorem flushTail_counts {target turns : Nat} {converter final : ProgressivePcmCanonicalizer R F}
    {windows flushed : List (AudioBuffer F)}
    (done : converter.flushTail target turns windows = (final, .ok flushed)) :
    final.outputFrames + windows.flatten.length =
      converter.outputFrames + flushed.flatten.length := by
  induction turns generalizing converter windows with
  | zero =>
      cases done
      rfl
  | succ turns ih =>
      unfold ProgressivePcmCanonicalizer.flushTail at done
      split at done
      · cases done
        rfl
      · obtain ⟨called, output, calling, further⟩ := andThen_eq_ok.mp done
        obtain ⟨collected, more, collecting, rest⟩ := andThen_eq_ok.mp further
        have held := call_counts calling
        have grown := collectOutput_counts collecting
        split at rest
        · cases rest
          omega
        · have tail := ih rest
          omega

theorem flushPending_counts {target : Nat} {converter final : ProgressivePcmCanonicalizer R F}
    {flushed : List (AudioBuffer F)}
    (done : converter.flushPending target = (final, .ok flushed)) :
    final.outputFrames = converter.outputFrames + flushed.flatten.length := by
  unfold ProgressivePcmCanonicalizer.flushPending at done
  split at done
  · cases done
    rfl
  · obtain ⟨called, output, calling, further⟩ := andThen_eq_ok.mp done
    obtain ⟨collected, more, collecting, rest⟩ := andThen_eq_ok.mp further
    have held := call_counts calling
    have grown := collectOutput_counts collecting
    cases rest
    simp only [List.flatten_nil, List.length_nil, Nat.add_zero] at grown
    rw [grown, held]

/-- The end of a stream without native frames. -/
theorem finish_empty {converter : ProgressivePcmCanonicalizer R F}
    (active : converter.finished = false) (empty : converter.sourceFrames = 0) :
    converter.finish = ({ converter with finished := true }, .ok []) := by
  have unfinished : ¬converter.finished = true := by
    rw [active]
    exact Bool.false_ne_true
  have nothing : (converter.resampler.isNone || converter.sourceFrames == 0) = true := by
    rw [empty]
    exact Bool.or_true _
  unfold ProgressivePcmCanonicalizer.finish
  rw [if_neg unfinished]
  exact if_pos nothing

/-- **The end** of a resampled stream with frames in it: the output completes the
canonical length. -/
theorem finish_counts {converter final : ProgressivePcmCanonicalizer R F}
    {flushed : List (AudioBuffer F)} (resampled : converter.resampler.isSome = true)
    (some_frames : converter.sourceFrames ≠ 0)
    (done : converter.finish = (final, .ok flushed)) :
    canonicalFrameOffset converter.sourceSampleRate converter.sourceFrames =
      .ok (converter.outputFrames + flushed.flatten.length) := by
  have sounding : ¬(converter.resampler.isNone || converter.sourceFrames == 0) = true := by
    rw [← Option.not_isSome, resampled, beq_eq_false_iff_ne.mpr some_frames]
    exact Bool.false_ne_true
  unfold ProgressivePcmCanonicalizer.finish at done
  split at done
  · cases done
  · replace done := (if_neg sounding).symm.trans done
    split at done
    · cases done
    · rename_i target offset
      split at done
      · cases done
      · obtain ⟨emptied, windows, pending, further⟩ := andThen_eq_ok.mp done
        obtain ⟨complete, all, tail, rest⟩ := andThen_eq_ok.mp further
        have first := flushPending_counts pending
        have second := flushTail_counts tail
        split at rest
        · cases rest
        · rename_i reached
          cases rest
          have exact : final.outputFrames = target := by simpa using reached
          rw [offset, ← exact]
          refine congrArg Except.ok ?_
          simp only at first
          omega

/-! ## The canonical clock -/

theorem canonicalFrameOffset_eq_ok {rate frame offset : Nat}
    (mapped : canonicalFrameOffset rate frame = .ok offset) :
    offset = (frame * sampleRate + rate / 2) / rate := by
  unfold canonicalFrameOffset at mapped
  obtain ⟨numerator, scaled, further⟩ := bind_eq_ok.mp mapped
  obtain ⟨_, _, result⟩ := bind_eq_ok.mp further
  cases result
  obtain ⟨product, multiplied, added⟩ := Option.bind_eq_some_iff.mp (orError_eq_ok.mp scaled)
  rw [(checkedAdd_eq_some.mp added).1, (checkedMul_eq_some.mp multiplied).1]

/-- A later native frame is not mapped earlier. -/
theorem canonicalFrameOffset_mono {rate first second low high : Nat} (before : first ≤ second)
    (mappedFirst : canonicalFrameOffset rate first = .ok low)
    (mappedSecond : canonicalFrameOffset rate second = .ok high) : low ≤ high := by
  rw [canonicalFrameOffset_eq_ok mappedFirst, canonicalFrameOffset_eq_ok mappedSecond]
  exact Nat.div_le_div_right (Nat.add_le_add_right (Nat.mul_le_mul_right _ before) _)

/-- Both clocks start together. -/
theorem canonicalFrameOffset_zero {rate : Nat} (audible : rate ≠ 0) (word : rate ≤ wordMax 32) :
    canonicalFrameOffset rate 0 = .ok 0 := by
  have narrow : wordMax 32 ≤ wordMax 128 := by decide
  have half : rate / 2 ≤ wordMax 128 :=
    Nat.le_trans (Nat.div_le_self rate 2) (Nat.le_trans word narrow)
  have scaled : ((checkedMul (wordMax 128) 0 sampleRate).bind fun value =>
      checkedAdd (wordMax 128) value (rate / 2)) = some (rate / 2) := by
    have product : checkedMul (wordMax 128) 0 sampleRate = some 0 :=
      checkedMul_eq_some.mpr ⟨rfl, Nat.zero_le _⟩
    rw [product, Option.bind_some]
    refine checkedAdd_eq_some.mpr ⟨(Nat.zero_add _).symm, ?_⟩
    rwa [Nat.zero_add]
  have below : rate / 2 / rate = 0 :=
    Nat.div_eq_of_lt (Nat.div_lt_self (Nat.pos_of_ne_zero audible) (by decide))
  unfold canonicalFrameOffset
  refine bind_eq_ok.mpr ⟨_, orError_eq_ok.mpr scaled, ?_⟩
  rw [below]
  exact bind_eq_ok.mpr ⟨(), ensure_eq_ok.mpr (decide_eq_true (Nat.zero_le _)), rfl⟩

/-- At the canonical rate the clock does not change. -/
theorem canonicalFrameOffset_sampleRate {frame : Nat} (inRange : frame ≤ u64Max) :
    canonicalFrameOffset sampleRate frame = .ok frame := by
  have wide : u64Max * sampleRate + sampleRate / 2 ≤ wordMax 128 := by decide
  have room : frame * sampleRate + sampleRate / 2 ≤ wordMax 128 :=
    Nat.le_trans (Nat.add_le_add_right (Nat.mul_le_mul_right _ inRange) _) wide
  have scaled : ((checkedMul (wordMax 128) frame sampleRate).bind fun value =>
      checkedAdd (wordMax 128) value (sampleRate / 2)) =
        some (frame * sampleRate + sampleRate / 2) := by
    have product : checkedMul (wordMax 128) frame sampleRate = some (frame * sampleRate) :=
      checkedMul_eq_some.mpr ⟨rfl, Nat.le_trans (Nat.le_add_right _ _) room⟩
    rw [product, Option.bind_some]
    exact checkedAdd_of_le room
  have back : (frame * sampleRate + sampleRate / 2) / sampleRate = frame := by
    unfold sampleRate
    omega
  unfold canonicalFrameOffset
  refine bind_eq_ok.mpr ⟨_, orError_eq_ok.mpr scaled, ?_⟩
  rw [back]
  exact bind_eq_ok.mpr ⟨(), ensure_eq_ok.mpr (decide_eq_true inRange), rfl⟩

/-! ## Any two cuts -/

/-- A call on the resampler. -/
inductive ResamplerCall (F : Type) where
  | process (input : List (List F))
  | processPartial (input : Option (List (List F)))
  deriving Repr, DecidableEq

/-- A resampler with a record of the calls made on it. -/
structure Recorded (R F : Type) where
  resampler : R
  calls : List (ResamplerCall F)
  deriving Repr, DecidableEq

instance : Resampler (Recorded R F) F where
  process recorded input :=
    let answer := Resampler.process recorded.resampler input
    (⟨answer.1, recorded.calls ++ [.process input]⟩, answer.2)
  processPartial recorded input :=
    let answer := Resampler.processPartial recorded.resampler input
    (⟨answer.1, recorded.calls ++ [.processPartial input]⟩, answer.2)

section Cuts

variable [Inhabited F] {rate channels : Nat}

omit [Resampler R F] in
/-- What a new converter is. -/
theorem new_eq_ok {acquire : Except AudioError R} {converter : ProgressivePcmCanonicalizer R F}
    (made : ProgressivePcmCanonicalizer.new rate channels acquire = .ok converter) :
    rate ≠ 0 ∧ (channels = 1 ∨ channels = channelCount) ∧
      ((rate = sampleRate ∧ converter = passState channels []) ∨
        ∃ resampler, converter = heldState rate channels (resampler, 0) []) := by
  obtain ⟨_, valid, further⟩ := bind_eq_ok.mp made
  obtain ⟨resampler, acquired, result⟩ := bind_eq_ok.mp further
  obtain ⟨_, audible, format⟩ := bind_eq_ok.mp valid
  have supported : channels = 1 ∨ channels = channelCount := by simpa using format
  have positive : 0 < channels := by
    rcases supported with rfl | rfl <;> decide
  refine ⟨by simpa using audible, supported, ?_⟩
  cases result
  split at acquired
  · rename_i canonical
    cases acquired
    refine Or.inl ⟨beq_iff_eq.mp canonical, ?_⟩
    obtain rfl := beq_iff_eq.mp canonical
    rw [passState, List.length_nil, Nat.zero_div]
  · obtain ⟨found, _, rfl⟩ : ∃ found, acquire = .ok found ∧ resampler = some found := by
      cases acquire with
      | error e => cases acquired
      | ok found =>
          cases acquired
          exact ⟨found, rfl, rfl⟩
    refine Or.inr ⟨found, ?_⟩
    rw [heldState, chunkRest_start positive, channelsOf_nil, List.length_nil, Nat.zero_div]

/-- **Any two cuts make the same calls and answer the same.** -/
theorem convert_eq_of_flatten_eq {acquire : Except AudioError R}
    {converter : ProgressivePcmCanonicalizer R F}
    (made : ProgressivePcmCanonicalizer.new rate channels acquire = .ok converter)
    {first second : List (List F)} (alignedFirst : ∀ piece ∈ first, piece.length % channels = 0)
    (alignedSecond : ∀ piece ∈ second, piece.length % channels = 0)
    (same : first.flatten = second.flatten)
    (inRange : first.flatten.length / channels ≤ u64Max) :
    (converter.convert first).1.resampler = (converter.convert second).1.resampler ∧
      (converter.convert first).2 = (converter.convert second).2 := by
  have inRangeSecond := inRange
  rw [same] at inRangeSecond
  unfold ProgressivePcmCanonicalizer.convert
  obtain ⟨_, supported, ⟨_, rfl⟩ | ⟨resampler, rfl⟩⟩ := new_eq_ok made
  · obtain ⟨_, runFirst, framesFirst⟩ := pushes_pass (R := R) supported alignedFirst inRange
    obtain ⟨_, runSecond, framesSecond⟩ := pushes_pass (R := R) supported alignedSecond inRangeSecond
    rw [runFirst, runSecond, andThen_ok, andThen_ok, framesFirst, framesSecond, same]
    exact ⟨rfl, rfl⟩
  · have positive : 0 < channels := by
      rcases supported with rfl | rfl <;> decide
    have answersFirst := pushes_resampled positive rate resampler alignedFirst inRange
    have answersSecond := pushes_resampled positive rate resampler alignedSecond inRangeSecond
    rw [same] at answersFirst
    rcases answersFirst with ⟨final, output, windows, run⟩ | ⟨final, e, windows, failed, kept⟩
    · rcases answersSecond with ⟨final', output', windows', run'⟩ | ⟨_, _, windows', _⟩
      · rw [windows] at windows'
        cases windows'
        rw [run, run']
        exact ⟨rfl, rfl⟩
      · rw [windows] at windows'
        cases windows'
    · rcases answersSecond with ⟨_, _, windows', _⟩ | ⟨final', e', windows', failed', kept'⟩
      · rw [windows] at windows'
        cases windows'
      · rw [windows] at windows'
        cases windows'
        rw [andThen_of_error failed, andThen_of_error failed']
        exact ⟨kept.trans kept'.symm, rfl⟩

/-- After every successful push less than one window is pending. -/
theorem pending_lt {acquire : Except AudioError R} {converter : ProgressivePcmCanonicalizer R F}
    (made : ProgressivePcmCanonicalizer.new rate channels acquire = .ok converter)
    {pieces : List (List F)} (aligned : ∀ piece ∈ pieces, piece.length % channels = 0)
    (inRange : pieces.flatten.length / channels ≤ u64Max)
    {state : ProgressivePcmCanonicalizer R F} {windows : List (AudioBuffer F)}
    (pushed : runAll ProgressivePcmCanonicalizer.pushInterleaved converter pieces =
      (state, .ok windows)) :
    ∀ channel ∈ state.pendingChannels, channel.length < inputWindowFrames := by
  obtain ⟨_, supported, ⟨_, rfl⟩ | ⟨resampler, rfl⟩⟩ := new_eq_ok made
  · obtain ⟨_, run, _⟩ := pushes_pass (R := R) supported aligned inRange
    rw [run] at pushed
    cases pushed
    intro channel member
    rw [List.eq_of_mem_replicate member]
    exact inputWindowFrames_pos
  · have positive : 0 < channels := by
      rcases supported with rfl | rfl <;> decide
    rcases pushes_resampled positive rate resampler aligned inRange with
      ⟨final, output, _, run⟩ | ⟨_, _, _, failed, _⟩
    · rw [run] at pushed
      cases pushed
      intro channel member
      obtain ⟨index, _, rfl⟩ := List.mem_map.mp member
      rw [List.length_map]
      exact chunkRest_length_lt inputWindowFrames_pos _
    · rw [pushed] at failed
      cases failed

/-- **A conversion that succeeds completes the canonical length.** -/
theorem convert_length (word : rate ≤ wordMax 32) {acquire : Except AudioError R}
    {converter final : ProgressivePcmCanonicalizer R F}
    (made : ProgressivePcmCanonicalizer.new rate channels acquire = .ok converter)
    {pieces : List (List F)} (aligned : ∀ piece ∈ pieces, piece.length % channels = 0)
    (inRange : pieces.flatten.length / channels ≤ u64Max) {output : AudioBuffer F}
    (converted : converter.convert pieces = (final, .ok output)) :
    canonicalFrameOffset rate (pieces.flatten.length / channels) = .ok output.length := by
  obtain ⟨pushedState, windows, pushed, further⟩ := andThen_eq_ok.mp converted
  obtain ⟨finishedState, last, finished, result⟩ := andThen_eq_ok.mp further
  cases result
  obtain ⟨audible, supported, ⟨rfl, rfl⟩ | ⟨resampler, rfl⟩⟩ := new_eq_ok made
  · obtain ⟨_, run, frames⟩ := pushes_pass (R := R) supported aligned inRange
    rw [run] at pushed
    cases pushed
    cases finished
    rw [List.length_append, frames, stereoFrames_length supported]
    exact canonicalFrameOffset_sampleRate inRange
  · have positive : 0 < channels := by
      rcases supported with rfl | rfl <;> decide
    rcases pushes_resampled positive rate resampler aligned inRange with
      ⟨core, collected, made, run⟩ | ⟨_, _, _, failed, _⟩
    · rw [run] at pushed
      cases pushed
      have counted := convertWindows_counts made
      rw [Nat.zero_add] at counted
      by_cases frames : pieces.flatten.length / channels = 0
      · -- no native frame: nothing was converted and nothing is flushed
        have none : chunksExact channels pieces.flatten = [] := by
          rw [← List.length_eq_zero_iff, chunksExact_length, frames]
        have few : ([] : List (List F)).length < inputWindowFrames := inputWindowFrames_pos
        rw [none, convertWindows_of_lt _ _ few] at made
        cases made
        rw [finish_empty rfl frames] at finished
        cases finished
        rw [frames]
        exact canonicalFrameOffset_zero audible word
      · have complete := finish_counts rfl frames finished
        rw [List.length_append, ← counted]
        exact complete
    · rw [pushed] at failed
      cases failed

end Cuts

omit [Resampler R F] in
/-- A misaligned push is rejected, and the converter is as it was. -/
theorem pushInterleaved_misaligned [Resampler R F] (converter : ProgressivePcmCanonicalizer R F)
    {samples : List F} (misaligned : samples.length % converter.sourceChannels ≠ 0) :
    ∃ e, converter.pushInterleaved samples = (converter, .error e) := by
  have filled : samples.isEmpty = false := by
    cases samples with
    | nil => exact absurd (Nat.zero_mod _) misaligned
    | cons sample rest => rfl
  have apart : (samples.length % converter.sourceChannels != 0) = true := bne_iff_ne.mpr misaligned
  unfold ProgressivePcmCanonicalizer.pushInterleaved
  cases converter.finished with
  | true => exact ⟨_, rfl⟩
  | false =>
      simp only [Bool.false_eq_true, if_false, filled, apart, if_true]
      exact ⟨_, rfl⟩

/-- **Callback boundaries are invisible.** Two cuts of one sequence of native
samples make the same calls on the resampler and answer with the same frames, or
the same failure. Less than a window is pending after every successful push. A
conversion that succeeds has the canonical length of its native frames. A
misaligned push changes nothing. The canonical clock is monotone. -/
theorem convert_cut_invariant [Inhabited F] {rate channels : Nat} (word : rate ≤ wordMax 32)
    {acquire : Except AudioError (Recorded R F)}
    {converter : ProgressivePcmCanonicalizer (Recorded R F) F}
    (made : ProgressivePcmCanonicalizer.new rate channels acquire = .ok converter)
    {first second : List (List F)} (alignedFirst : ∀ piece ∈ first, piece.length % channels = 0)
    (alignedSecond : ∀ piece ∈ second, piece.length % channels = 0)
    (same : first.flatten = second.flatten)
    (inRange : first.flatten.length / channels ≤ u64Max) :
    ((converter.convert first).1.resampler.map Recorded.calls =
        (converter.convert second).1.resampler.map Recorded.calls ∧
      (converter.convert first).2 = (converter.convert second).2) ∧
    (∀ state windows, runAll ProgressivePcmCanonicalizer.pushInterleaved converter first =
        (state, .ok windows) →
      ∀ channel ∈ state.pendingChannels, channel.length < inputWindowFrames) ∧
    (∀ final output, converter.convert first = (final, .ok output) →
      canonicalFrameOffset rate (first.flatten.length / channels) = .ok output.length) ∧
    (∀ (state : ProgressivePcmCanonicalizer (Recorded R F) F) (samples : List F),
      samples.length % state.sourceChannels ≠ 0 →
        ∃ e, state.pushInterleaved samples = (state, .error e)) ∧
    (∀ marker frame low high, marker ≤ frame → canonicalFrameOffset rate marker = .ok low →
      canonicalFrameOffset rate frame = .ok high → low ≤ high) := by
  have equal := convert_eq_of_flatten_eq made alignedFirst alignedSecond same inRange
  refine ⟨⟨congrArg (Option.map Recorded.calls) equal.1, equal.2⟩, ?_, ?_, ?_, ?_⟩
  · intro state windows pushed
    exact pending_lt made alignedFirst inRange pushed
  · intro final output converted
    exact convert_length word made alignedFirst inRange converted
  · intro state samples misaligned
    exact pushInterleaved_misaligned state misaligned
  · intro marker frame low high before mappedMarker mappedFrame
    exact canonicalFrameOffset_mono before mappedMarker mappedFrame

/-- A resampler for half the canonical rate that repeats every sample. -/
instance repeatingResampler : Resampler Unit Int where
  process _ input :=
    ((), .ok (input.map fun channel => channel.flatMap fun sample => [sample, sample]))
  processPartial _ input :=
    ((), .ok ((input.getD []).map fun channel => channel.flatMap fun sample => [sample, sample]))

/-- Three mono samples at half the canonical rate, in one piece and in three with
an empty one between. -/
theorem convert_cut_invariant_mono :
    let converter : ProgressivePcmCanonicalizer (Recorded Unit Int) Int :=
      ⟨22050, 1, some ⟨(), []⟩, [[]], 0, 0, false⟩
    ((converter.convert [[1, 2, 3]]).1.resampler.map Recorded.calls =
        (converter.convert [[1], [], [2, 3]]).1.resampler.map Recorded.calls ∧
      (converter.convert [[1, 2, 3]]).2 = (converter.convert [[1], [], [2, 3]]).2) := by
  have made : (ProgressivePcmCanonicalizer.new 22050 1 (.ok ⟨(), []⟩) :
      Except AudioError (ProgressivePcmCanonicalizer (Recorded Unit Int) Int)) =
        .ok ⟨22050, 1, some ⟨(), []⟩, [[]], 0, 0, false⟩ := rfl
  exact (convert_cut_invariant (by decide) made (by decide) (by decide) rfl (by decide)).1

end Omnivox.Audio
