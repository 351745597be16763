import Omnivox.Audio.ToneOscillator

/-!
# Envelopes of tones

A tone without an envelope fades in and out over ten milliseconds, or over half of
its frames when it is shorter. One with an envelope follows four segments, whose
boundaries are scaled to its frames in whole numbers, and is held under a cap near
its two ends.

Both levels stay within zero and one, and are zero at the first and the last frame
(`fadeLevel_spec`, `Envelope.level_spec`). No boundary overtakes the next one
(`Envelope.new_spec`).
-/

set_option autoImplicit false

namespace Omnivox.Audio

open Foundations Real

/-- A level, which is between zero and one. -/
def IsLevel (level : ℝ) : Prop := 0 ≤ level ∧ level ≤ 1

/-- **What is asked of the level of a frame**: it is computed, it is between zero and one,
and the first and the last frame are silent. -/
structure LevelOf (frames frame : Nat) (computed : Except ToneFailure ℝ) (level : ℝ) : Prop where
  computed : computed = .ok level
  between : IsLevel level
  silent : frame = 0 ∨ frame + 1 = frames → level = 0

/-- A part of a whole, as a fraction. -/
theorem fraction_isLevel {part whole : Nat} (le : part ≤ whole) (positive : 0 < whole) :
    IsLevel ((part : ℝ) / whole) := by
  have size : (0 : ℝ) < whole := Nat.cast_pos.mpr positive
  exact ⟨by positivity, (div_le_one size).mpr (Nat.cast_le.mpr le)⟩

/-! ## Fades -/

/-- Ten milliseconds, but no more than half of the frames. -/
def fadeFrames (frames : Nat) : Nat := min ⌊(sampleRate : ℚ) * (1 / 100)⌋₊ (frames / 2)

theorem fadeFrames_eq (frames : Nat) : fadeFrames frames = min 441 (frames / 2) := by
  have whole : (sampleRate : ℚ) * (1 / 100) = (441 : ℕ) := by norm_num [sampleRate]
  rw [fadeFrames, whole, Nat.floor_natCast]

/-- The level of a frame that fades in, fades out or does neither. -/
noncomputable def fadeLevel (frames frame : Nat) : Except ToneFailure ℝ :=
  if frame < fadeFrames frames then quotient frame (fadeFrames frames)
  else do
    let fadeOut ← difference frames (fadeFrames frames)
    if fadeOut ≤ frame then do
      let last ← difference frames 1
      let left ← difference last frame
      quotient left (fadeFrames frames)
    else .ok 1

/-- **Fades.** -/
theorem fadeLevel_spec {frames frame : Nat} (several : 2 ≤ frames) (inside : frame < frames) :
    ∃ level, LevelOf frames frame (fadeLevel frames frame) level := by
  have positive : 0 < fadeFrames frames := by
    rw [fadeFrames_eq]
    omega
  have half : fadeFrames frames + fadeFrames frames ≤ frames := by
    rw [fadeFrames_eq]
    omega
  have divisor : (fadeFrames frames : ℝ) ≠ 0 := Nat.cast_ne_zero.mpr positive.ne'
  unfold fadeLevel
  generalize fadeFrames frames = fade at *
  by_cases rising : frame < fade
  · rw [if_pos rising, quotient_ok divisor]
    refine ⟨_, rfl, fraction_isLevel rising.le positive, ?_⟩
    intro edge
    have first : frame = 0 := by omega
    rw [first, Nat.cast_zero, zero_div]
  · rw [if_neg rising, difference_ok (by omega), ok_bind]
    by_cases falling : frames - fade ≤ frame
    · rw [if_pos falling, difference_ok (by omega), ok_bind, difference_ok (by omega), ok_bind,
        quotient_ok divisor]
      refine ⟨_, rfl, fraction_isLevel (by omega) positive, ?_⟩
      intro edge
      have last : frames - 1 - frame = 0 := by omega
      rw [last, Nat.cast_zero, zero_div]
    · rw [if_neg falling]
      exact ⟨1, rfl, ⟨zero_le_one, le_rfl⟩, fun edge => by omega⟩

/-! ## Attack, decay, sustain and release -/

/-- A number of a shape, which validation asks to be finite. -/
noncomputable def realOf : F32 → ℝ
  | .finite value => value
  | .infinite _ => 0
  | .nan => 0

structure Envelope where
  curve : EnvelopeCurve
  attackEnd : Nat
  decayEnd : Nat
  releaseStart : Nat
  last : Nat
  sustain : ℝ
  cap : Nat

namespace Envelope

/-- A time scaled to the frames. -/
def boundary (last denominator time : Nat) : Except ToneFailure Nat :=
  if denominator = 0 then .error .divisionByZero else .ok (time * last / denominator)

/-- Without time to sustain, the release starts where the decay ends. -/
def releaseFrom (adsr : AdsrEnvelope) (durationMs last denominator decayEnd : Nat) :
    Except ToneFailure Nat :=
  if durationMs ≤ adsr.attackMs + adsr.decayMs + adsr.releaseMs then .ok decayEnd
  else do
    let release ← boundary last denominator adsr.releaseMs
    difference last release

/-- The curve of the shape is set as the envelope is made. -/
noncomputable def new (adsr : AdsrEnvelope) (curve : EnvelopeCurve) (frames durationMs : Nat) :
    Except ToneFailure Envelope := do
  let last ← difference frames 1
  let denominator := max (adsr.attackMs + adsr.decayMs + adsr.releaseMs) durationMs
  let decayEnd ← boundary last denominator (adsr.attackMs + adsr.decayMs)
  let attackEnd ← boundary last denominator adsr.attackMs
  let releaseStart ← releaseFrom adsr durationMs last denominator decayEnd
  .ok
    { curve
      attackEnd
      decayEnd
      releaseStart
      last
      sustain := realOf adsr.sustainLevel
      cap := min (sampleRate / 1000) (last / 2) }

/-- The exponential curve is `exp_m1`, scaled to end at one. -/
noncomputable def rise (envelope : Envelope) (fraction : ℝ) : ℝ :=
  match envelope.curve with
  | .linear => fraction
  | .exponential => (exp (4.0 * fraction) - 1) / (exp 4.0 - 1)

/-- The way down from one to what is sustained. -/
noncomputable def decay (envelope : Envelope) (fraction : ℝ) : ℝ :=
  match envelope.curve with
  | .linear => 1 + (envelope.sustain - 1) * fraction
  | .exponential => envelope.sustain + (1 - envelope.sustain) * envelope.rise (1 - fraction)

/-- The level of the segment a frame is in. -/
noncomputable def segment (envelope : Envelope) (frame : Nat) : Except ToneFailure ℝ :=
  if frame < envelope.attackEnd then do
    let fraction ← quotient frame envelope.attackEnd
    .ok (envelope.rise fraction)
  else if frame < envelope.decayEnd then do
    let part ← difference frame envelope.attackEnd
    let whole ← difference envelope.decayEnd envelope.attackEnd
    let fraction ← quotient part whole
    .ok (envelope.decay fraction)
  else if frame < envelope.releaseStart ∨ envelope.releaseStart = envelope.last then
    .ok envelope.sustain
  else do
    let part ← difference envelope.last frame
    let whole ← difference envelope.last envelope.releaseStart
    let fraction ← quotient part whole
    .ok (envelope.sustain * envelope.rise fraction)

/-- What a level may not exceed near the two ends. -/
noncomputable def edgeCap (envelope : Envelope) (frame : Nat) : Except ToneFailure ℝ := do
  let left ← difference envelope.last frame
  if min frame left < envelope.cap then do
    let x ← quotient (min frame left : Nat) envelope.cap
    .ok (x * x * (3.0 - 2.0 * x))
  else .ok 1

noncomputable def level (envelope : Envelope) (frame : Nat) : Except ToneFailure ℝ := do
  let segmentLevel ← envelope.segment frame
  let cap ← envelope.edgeCap frame
  .ok (min segmentLevel cap)

/-- **A well-formed envelope**: no boundary overtakes the next one, and there is an edge
at both ends. -/
structure WellFormed (envelope : Envelope) (frames : Nat) : Prop where
  attack : envelope.attackEnd ≤ envelope.decayEnd
  decay : envelope.decayEnd ≤ envelope.releaseStart
  release : envelope.releaseStart ≤ envelope.last
  last : envelope.last + 1 = frames
  sustain : IsLevel envelope.sustain
  cap : 0 < envelope.cap

theorem boundary_ok {denominator : Nat} (positive : 0 < denominator) (last time : Nat) :
    boundary last denominator time = .ok (time * last / denominator) := if_neg positive.ne'

/-- **The boundaries are in order.** The release takes the rest that the others leave, also
when the times exceed the duration. -/
theorem new_spec {adsr : AdsrEnvelope} (curve : EnvelopeCurve) {frames durationMs : Nat}
    (several : 3 ≤ frames) (some : 0 < durationMs) (sustain : IsLevel (realOf adsr.sustainLevel)) :
    ∃ envelope, new adsr curve frames durationMs = .ok envelope ∧ envelope.WellFormed frames := by
  obtain ⟨attack, decay, sustainLevel, release⟩ := adsr
  have denominatorPos : 0 < max (attack + decay + release) durationMs :=
    lt_of_lt_of_le some (le_max_right _ _)
  have total : attack + decay + release ≤ max (attack + decay + release) durationMs :=
    le_max_left _ _
  unfold new
  dsimp only at sustain ⊢
  rw [difference_ok (by omega), ok_bind, boundary_ok denominatorPos, ok_bind,
    boundary_ok denominatorPos, ok_bind]
  generalize denominatorEq : max (attack + decay + release) durationMs = denominator at *
  generalize lastEq : frames - 1 = last at *
  have attacked : attack * last / denominator ≤ (attack + decay) * last / denominator :=
    Nat.div_le_div_right (Nat.mul_le_mul_right last (Nat.le_add_right _ _))
  have shared : (attack + decay) * last / denominator + release * last / denominator ≤ last :=
    calc (attack + decay) * last / denominator + release * last / denominator
        ≤ ((attack + decay) * last + release * last) / denominator :=
          Nat.div_add_div_le_add_div
      _ = (attack + decay + release) * last / denominator := by rw [← Nat.add_mul]
      _ ≤ denominator * last / denominator := Nat.div_le_div_right (Nat.mul_le_mul_right last total)
      _ = last := Nat.mul_div_cancel_left last denominatorPos
  have capPos : 0 < min (sampleRate / 1000) (last / 2) := by
    have rate : sampleRate / 1000 = 44 := rfl
    rw [rate]
    omega
  have whole : last + 1 = frames := by omega
  unfold releaseFrom
  dsimp only
  rw [boundary_ok denominatorPos]
  generalize (attack + decay) * last / denominator = decayEnd at *
  generalize attack * last / denominator = attackEnd at *
  generalize release * last / denominator = releaseEnd at *
  have decayed : decayEnd ≤ last := by omega
  have released : decayEnd ≤ last - releaseEnd := by omega
  split
  · exact ⟨_, rfl, attacked, le_rfl, decayed, whole, sustain, capPos⟩
  · rw [ok_bind, difference_ok (by omega), ok_bind]
    exact ⟨_, rfl, attacked, released, Nat.sub_le last releaseEnd, whole, sustain, capPos⟩

theorem rise_isLevel (envelope : Envelope) {fraction : ℝ} (between : IsLevel fraction) :
    IsLevel (envelope.rise fraction) := by
  unfold rise
  split
  · exact between
  · rw [decimals.2.2.1]
    have scale : (0 : ℝ) < exp 4 - 1 := sub_pos.mpr (one_lt_exp_iff.mpr (by norm_num))
    have low : 1 ≤ exp (4 * fraction) := one_le_exp (by linarith [between.1])
    have high : exp (4 * fraction) ≤ exp 4 := exp_le_exp.mpr (by linarith [between.2])
    exact ⟨div_nonneg (by linarith) scale.le, (div_le_one scale).mpr (by linarith)⟩

theorem decay_isLevel {envelope : Envelope} (sustain : IsLevel envelope.sustain) {fraction : ℝ}
    (between : IsLevel fraction) : IsLevel (envelope.decay fraction) := by
  have rest : IsLevel (1 - fraction) := ⟨by linarith [between.2], by linarith [between.1]⟩
  have left := rise_isLevel envelope rest
  obtain ⟨low, high⟩ := sustain
  obtain ⟨low', high'⟩ := between
  obtain ⟨low'', high''⟩ := left
  unfold decay
  split
  · constructor <;> nlinarith
  · constructor <;> nlinarith

/-- **Each segment has a level.** -/
theorem segment_spec {envelope : Envelope} {frames frame : Nat}
    (formed : envelope.WellFormed frames) (inside : frame < frames) : ∃ level, envelope.segment frame = .ok level ∧ IsLevel level := by
  have ends := formed.last
  have release := formed.release
  unfold segment
  split
  · rename_i attacking
    have positive : 0 < envelope.attackEnd := by omega
    rw [quotient_ok (Nat.cast_ne_zero.mpr positive.ne'), ok_bind]
    exact ⟨_, rfl, rise_isLevel _ (fraction_isLevel attacking.le positive)⟩
  · split
    · rename_i attacked decaying
      have positive : 0 < envelope.decayEnd - envelope.attackEnd := by omega
      rw [difference_ok (by omega), ok_bind, difference_ok (by omega), ok_bind,
        quotient_ok (Nat.cast_ne_zero.mpr positive.ne'), ok_bind]
      exact ⟨_, rfl, decay_isLevel formed.sustain (fraction_isLevel (by omega) positive)⟩
    · split
      · exact ⟨_, rfl, formed.sustain⟩
      · rename_i released
        obtain ⟨after, shorter⟩ := not_or.mp released
        have positive : 0 < envelope.last - envelope.releaseStart := by omega
        rw [difference_ok (by omega), ok_bind, difference_ok (by omega), ok_bind,
          quotient_ok (Nat.cast_ne_zero.mpr positive.ne'), ok_bind]
        have risen := rise_isLevel envelope
          (fraction_isLevel (show envelope.last - frame ≤ envelope.last - envelope.releaseStart by
            omega) positive)
        exact ⟨_, rfl, mul_nonneg formed.sustain.1 risen.1,
          mul_le_one₀ formed.sustain.2 risen.1 risen.2⟩

/-- The cap is a level, and zero at both ends. -/
theorem edgeCap_spec {envelope : Envelope} {frames frame : Nat}
    (formed : envelope.WellFormed frames) (inside : frame < frames) : ∃ cap, LevelOf frames frame (envelope.edgeCap frame) cap := by
  have ends := formed.last
  unfold edgeCap
  rw [difference_ok (by omega), ok_bind]
  by_cases near : min frame (envelope.last - frame) < envelope.cap
  · rw [if_pos near, quotient_ok (Nat.cast_ne_zero.mpr formed.cap.ne'), ok_bind, decimals.1,
      decimals.2.1]
    obtain ⟨low, high⟩ := fraction_isLevel near.le formed.cap
    refine ⟨_, rfl, ⟨?_, ?_⟩, ?_⟩
    · exact mul_nonneg (mul_nonneg low low) (by linarith)
    · nlinarith [mul_nonneg low (sq_nonneg
        (((min frame (envelope.last - frame) : Nat) : ℝ) / envelope.cap - 1)),
        sq_nonneg (((min frame (envelope.last - frame) : Nat) : ℝ) / envelope.cap - 1)]
    · intro edge
      have none : min frame (envelope.last - frame) = 0 := by omega
      rw [none, Nat.cast_zero, zero_div, zero_mul, zero_mul]
  · rw [if_neg near]
    have far := formed.cap
    exact ⟨1, rfl, ⟨zero_le_one, le_rfl⟩, fun edge => by omega⟩

/-- **The level of an envelope.** -/
theorem level_spec {envelope : Envelope} {frames frame : Nat} (formed : envelope.WellFormed frames)
    (inside : frame < frames) : ∃ level, LevelOf frames frame (envelope.level frame) level := by
  obtain ⟨segment, segmented, low, high⟩ := segment_spec formed inside
  obtain ⟨cap, capped, ⟨low', high'⟩, silent⟩ := edgeCap_spec formed inside
  refine ⟨min segment cap, ?_, ⟨le_min low low', (min_le_left _ _).trans high⟩, ?_⟩
  · rw [level, segmented, ok_bind, capped, ok_bind]
  · intro edge
    rw [silent edge]
    exact min_eq_right low

end Envelope

end Omnivox.Audio
