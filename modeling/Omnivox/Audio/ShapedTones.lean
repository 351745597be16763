import Omnivox.Audio.ToneEnvelope
import Omnivox.Foundations.Mixing

/-!
# Shaped tones

A tone that validation accepts is rendered frame by frame: what the oscillator of its
waveform gives at the phase of the frame, at the volume of the tone, under the level
of the frame. The right side is a mix of the left one and the frame before. A tone of
the Classic shape takes an older path, a sine with the same fades.

`shaped_tones_rendered` says what comes out when nobody cancels: the frames of the
duration, silent at both ends and within the volume, over the partial sum of the
waveform whose harmonics stay below half the sample rate. The Classic path computes
its sine whatever its frequency, and validation lets it go beyond that limit
(`classic_tone_above_nyquist`).
-/

set_option autoImplicit false

namespace Omnivox.Audio

open Foundations Real

/-! ## Generation -/

/-- What a poll of the cancellation answers. Polls are counted from zero. -/
def checkCancelled (cancelled : Nat → Bool) (poll : Nat) : Except ToneFailure Unit :=
  if cancelled poll then .error (.audio .cancelled) else .ok ()

/-- A poll every 256 frames. -/
def pollFrame (cancelled : Nat → Bool) (frame : Nat) : Except ToneFailure Unit :=
  if frame ≠ 0 ∧ frame % 256 = 0 then checkCancelled cancelled (frame / 256) else .ok ()

/-- The part of the frame before that the right side keeps: 0.01 milliseconds. -/
noncomputable def delaySamples : ℝ := sampleRate * 0.00001

namespace ToneParameters

noncomputable def frequency (tone : ToneParameters) : ℝ := realOf tone.frequencyHz

noncomputable def gain (tone : ToneParameters) : ℝ := realOf tone.volume

noncomputable def endFrequency (tone : ToneParameters) : ℝ :=
  (tone.shape.endFrequencyHz.map realOf).getD tone.frequency

noncomputable def pulseWidth (tone : ToneParameters) : ℝ :=
  (tone.shape.pulseWidth.map realOf).getD 0.5

noncomputable def maximumFrequencyHz (tone : ToneParameters) : ℝ :=
  max tone.frequency tone.endFrequency

end ToneParameters

namespace ToneGenerator

/-- One frame of the Classic path, which computes the sample before it anew. -/
noncomputable def classicFrame (frequency volume : ℝ) (frames frame : Nat) :
    Except ToneFailure (Frame ℝ) := do
  let left := sin (2.0 * π * frequency * (frame / sampleRate)) * volume
  let right :=
    if frame = 0 then left * (1 - delaySamples)
    else
      sin (2.0 * π * frequency * ((frame - 1) / sampleRate)) * volume * delaySamples +
        sin (2.0 * π * frequency * (frame / sampleRate)) * volume * (1 - delaySamples)
  let envelope ← fadeLevel frames frame
  .ok (left * envelope, right * envelope)

/-- The frames of the Classic path, and the last poll. -/
noncomputable def classicFrames (frequency volume : ℝ) (frames : Nat) (cancelled : Nat → Bool) :
    Except ToneFailure (AudioBuffer ℝ) := do
  let samples ← (List.range frames).mapM fun frame => do
    pollFrame cancelled frame
    classicFrame frequency volume frames frame
  checkCancelled cancelled ((frames - 1) / 256 + 1)
  .ok samples

noncomputable def generateInterruptible (frequency : ℝ) (durationMs : Nat) (volume : ℝ)
    (cancelled : Nat → Bool) : Except ToneFailure (AudioBuffer ℝ) := do
  checkCancelled cancelled 0
  let frames := ⌊(sampleRate * durationMs : ℚ) / 1000⌋₊
  if frames = 0 then .ok [] else classicFrames frequency volume frames cancelled

/-- Only a pulse and a sawtooth have all harmonics. -/
noncomputable def makeExtended (tone : ToneParameters) :
    Except ToneFailure (Option ExtendedOscillator) :=
  if tone.shape.waveform = .pulse ∨ tone.shape.waveform = .sawtooth then do
    let extended ← ExtendedOscillator.new tone.shape.waveform tone.pulseWidth
      tone.maximumFrequencyHz
    .ok (some extended)
  else .ok none

noncomputable def makeEnvelope (tone : ToneParameters) (frames : Nat) :
    Except ToneFailure (Option Envelope) :=
  match tone.shape.envelope with
  | none => .ok none
  | some adsr => do
    let envelope ← Envelope.new adsr (tone.shape.envelopeCurve.getD .linear) frames tone.durationMs
    .ok (some envelope)

/-- The oscillator that is used, at a phase. -/
noncomputable def samplePhase (oscillator : Oscillator) (extended : Option ExtendedOscillator)
    (phase : ℝ) : ℝ :=
  match extended with
  | none => oscillator.samplePhase phase
  | some extended => extended.sample phase

/-- The sample of a frame. A sweep integrates its frequency. -/
noncomputable def sampleFrame (tone : ToneParameters) (frames : Nat) (oscillator : Oscillator)
    (extended : Option ExtendedOscillator) (frame : Nat) : Except ToneFailure ℝ :=
  match tone.shape.endFrequencyHz with
  | some frequencyHz => do
    let time : ℝ := frame / sampleRate
    let duration : ℝ := frames / sampleRate
    let swept ← quotient (0.5 * (realOf frequencyHz - tone.frequency) * time * time) duration
    .ok (samplePhase oscillator extended (2.0 * π * (tone.frequency * time + swept)))
  | none =>
    match extended with
    | some extended => .ok (extended.sample (2.0 * π * tone.frequency * frame / sampleRate))
    | none => .ok (oscillator.sample frame)

/-- The level of a frame, by the envelope or the fades. -/
noncomputable def levelOf (envelope : Option Envelope) (frames frame : Nat) :
    Except ToneFailure ℝ :=
  match envelope with
  | none => fadeLevel frames frame
  | some envelope => envelope.level frame

/-- The loop over the frames that are left, from the index of the next one and the left
sample before it. -/
noncomputable def renderFrames (cancelled : Nat → Bool) (sample level : Nat → Except ToneFailure ℝ)
    (volume : ℝ) : (remaining frame : Nat) → (previous : ℝ) →
      Except ToneFailure (AudioBuffer ℝ)
  | 0, _, _ => .ok []
  | remaining + 1, frame, previous => do
    pollFrame cancelled frame
    let sampled ← sample frame
    let left := sampled * volume
    let right := previous * delaySamples + left * (1 - delaySamples)
    let leveled ← level frame
    let rest ← renderFrames cancelled sample level volume remaining (frame + 1) left
    .ok ((left * leveled, right * leveled) :: rest)

/-- The path of shapes other than Classic. -/
noncomputable def renderShaped (tone : ToneParameters) (cancelled : Nat → Bool) :
    Except ToneFailure (AudioBuffer ℝ) := do
  let frames := sampleRate * tone.durationMs / 1000
  let oscillator := Oscillator.new tone.shape.waveform tone.maximumFrequencyHz
  let extended ← makeExtended tone
  let envelope ← makeEnvelope tone frames
  checkCancelled cancelled 0
  let samples ← renderFrames cancelled (sampleFrame tone frames oscillator extended)
    (levelOf envelope frames) tone.gain frames 0 0
  checkCancelled cancelled ((frames - 1) / 256 + 1)
  .ok samples

noncomputable def generateShaped (tone : ToneParameters) (cancelled : Nat → Bool) :
    Except ToneFailure (AudioBuffer ℝ) := do
  checkCancelled cancelled 0
  tone.validate.mapError fun message => .audio (.invalidFormat message)
  if tone.shape = .default then
    generateInterruptible tone.frequency tone.durationMs tone.gain fun poll => cancelled (poll + 1)
  else renderShaped tone fun poll => cancelled (poll + 1)

end ToneGenerator

/-! ## What is rendered -/

namespace ToneParameters

def frames (tone : ToneParameters) : Nat := sampleRate * tone.durationMs / 1000

/-- The duration of the frames, in seconds. -/
noncomputable def duration (tone : ToneParameters) : ℝ := tone.frames / sampleRate

/-- The frequency at a time, which moves evenly to the end of the sweep. -/
noncomputable def frequencyAt (tone : ToneParameters) (time : ℝ) : ℝ :=
  tone.frequency + (tone.endFrequency - tone.frequency) * time / tone.duration

/-- The phase at a time. -/
noncomputable def phaseAt (tone : ToneParameters) (time : ℝ) : ℝ :=
  2.0 * π * (tone.frequency * time +
    0.5 * (tone.endFrequency - tone.frequency) * time * time / tone.duration)

/-- The harmonics of a tone. A Classic one is its fundamental. -/
noncomputable def harmonics (tone : ToneParameters) : Finset ℕ :=
  if tone.shape = .default then {1}
  else tone.shape.waveform.harmonicsBelow tone.maximumFrequencyHz

/-- The left sample of a frame before its level, over some harmonics. -/
noncomputable def leftOver (tone : ToneParameters) (harmonics : Finset ℕ) (frame : Nat) : ℝ :=
  tone.gain *
    tone.shape.waveform.partialSum tone.pulseWidth harmonics (tone.phaseAt (frame / sampleRate))

/-- The left sample of a frame before its level. -/
noncomputable def left (tone : ToneParameters) (frame : Nat) : ℝ :=
  tone.leftOver tone.harmonics frame

/-- The left sample before a frame. -/
noncomputable def previous (tone : ToneParameters) : Nat → ℝ
  | 0 => 0
  | frame + 1 => tone.left frame

/-- The right sample of a frame before its level. -/
noncomputable def right (tone : ToneParameters) (frame : Nat) : ℝ :=
  tone.previous frame * delaySamples + tone.left frame * (1 - delaySamples)

/-- **The phase integrates the frequency.** -/
theorem hasDerivAt_phaseAt (tone : ToneParameters) (time : ℝ) :
    HasDerivAt tone.phaseAt (2 * π * tone.frequencyAt time) time := by
  have linear : HasDerivAt (fun time => tone.frequency * time) tone.frequency time := by
    simpa using (hasDerivAt_id time).const_mul tone.frequency
  have square : HasDerivAt (fun time => 0.5 * (tone.endFrequency - tone.frequency) * time * time)
      ((tone.endFrequency - tone.frequency) * time) time := by
    have inner := ((hasDerivAt_id time).const_mul
      (0.5 * (tone.endFrequency - tone.frequency))).mul (hasDerivAt_id time)
    refine inner.congr_deriv ?_
    simp only [id_eq, mul_one, half_eq]
    ring
  refine ((linear.add (square.div_const tone.duration)).const_mul (2.0 * π)).congr_deriv ?_
  rw [decimals.1]
  rfl

/-- What validation says of the numbers of a tone. -/
structure Validated (tone : ToneParameters) : Prop where
  frequency : 0 < tone.frequency
  shaped : tone.shape ≠ .default → tone.frequency ≤ 20000
  duration : 0 < tone.durationMs
  gain : 0 ≤ tone.gain ∧ tone.gain ≤ 1
  pulseWidth : 0 < tone.pulseWidth ∧ tone.pulseWidth < 1
  endFrequency : 0 < tone.endFrequency
  swept : ∀ frequency ∈ tone.shape.endFrequencyHz, realOf frequency ≤ 20000
  sustain : ∀ adsr ∈ tone.shape.envelope, IsLevel (realOf adsr.sustainLevel)

theorem audible_real {maximum : ℚ} {value : F32} (checked : audible maximum value = true) :
    0 < realOf value ∧ realOf value ≤ maximum := by
  cases value with
  | finite value =>
      rw [audible, Bool.and_eq_true, decide_eq_true_eq, decide_eq_true_eq] at checked
      exact ⟨Rat.cast_pos.mpr checked.1, Rat.cast_le.mpr checked.2⟩
  | infinite negative => exact absurd checked Bool.false_ne_true
  | nan => exact absurd checked Bool.false_ne_true

theorem inUnitRange_real {value : F32} (checked : value.inUnitRange = true) :
    IsLevel (realOf value) := by
  cases value with
  | finite value =>
      rw [F32.inUnitRange, Bool.and_eq_true, decide_eq_true_eq,
        decide_eq_true_eq] at checked
      have most : (value : ℝ) ≤ 1 := by exact_mod_cast checked.2
      exact ⟨Rat.cast_nonneg.mpr checked.1, most⟩
  | infinite negative => exact absurd checked Bool.false_ne_true
  | nan => exact absurd checked Bool.false_ne_true

theorem pulseWidthInRange_real {value : F32} (checked : pulseWidthInRange value = true) :
    0 < realOf value ∧ realOf value < 1 := by
  cases value with
  | finite value =>
      rw [pulseWidthInRange, Bool.and_eq_true, decide_eq_true_eq, decide_eq_true_eq] at checked
      have low : 0 < value := by linarith [checked.1]
      have high : value < 1 := by linarith [checked.2]
      have below : (value : ℝ) < 1 := by exact_mod_cast high
      exact ⟨Rat.cast_pos.mpr low, below⟩
  | infinite negative => exact absurd checked Bool.false_ne_true
  | nan => exact absurd checked Bool.false_ne_true

theorem validatePulseWidth_real {waveform : Waveform} {width : Option F32}
    (checked : validatePulseWidth waveform width = .ok ()) :
    ∀ value ∈ width, 0 < realOf value ∧ realOf value < 1 := by
  intro value given
  rw [Option.mem_def] at given
  subst given
  cases waveform with
  | pulse => exact pulseWidthInRange_real (ensure_eq_ok.mp checked)
  | sine => exact absurd checked (by simp [validatePulseWidth])
  | triangle => exact absurd checked (by simp [validatePulseWidth])
  | square => exact absurd checked (by simp [validatePulseWidth])
  | sawtooth => exact absurd checked (by simp [validatePulseWidth])

/-- **What a validated tone is.** -/
theorem validated_of_ok {tone : ToneParameters} (valid : tone.validate = .ok ()) :
    tone.Validated := by
  unfold validate at valid
  obtain ⟨audibleChecked, valid⟩ := seq_eq_ok.mp valid
  obtain ⟨durationChecked, valid⟩ := seq_eq_ok.mp valid
  obtain ⟨volumeChecked, valid⟩ := seq_eq_ok.mp valid
  obtain ⟨widthChecked, valid⟩ := seq_eq_ok.mp valid
  obtain ⟨endChecked, valid⟩ := seq_eq_ok.mp valid
  obtain ⟨-, valid⟩ := seq_eq_ok.mp valid
  have positive := audible_real (ensure_eq_ok.mp audibleChecked)
  have widths := validatePulseWidth_real widthChecked
  have ends : ∀ frequency ∈ tone.shape.endFrequencyHz,
      0 < realOf frequency ∧ realOf frequency ≤ 20000 := by
    intro frequency given
    have checked := ensure_eq_ok.mp endChecked
    rw [Option.mem_def.mp given] at checked
    have bounds := audible_real checked
    exact ⟨bounds.1, bounds.2.trans (by norm_num [maxShapedToneFrequencyHz])⟩
  have maximum : tone.shape ≠ .default → tone.frequency ≤ 20000 := by
    intro shaped
    have limit : tone.maximumFrequency = 20000 := if_neg shaped
    have below := positive.2
    rw [limit] at below
    exact_mod_cast below
  refine ⟨positive.1, maximum, ?_, inUnitRange_real (ensure_eq_ok.mp volumeChecked), ?_, ?_,
    fun frequency given => (ends frequency given).2, ?_⟩
  · have checked := ensure_eq_ok.mp durationChecked
    rw [Bool.and_eq_true, decide_eq_true_eq] at checked
    exact Nat.pos_of_ne_zero checked.1
  · unfold pulseWidth
    cases given : tone.shape.pulseWidth with
    | none => exact ⟨by norm_num, by norm_num⟩
    | some width => exact widths width given
  · unfold endFrequency
    cases given : tone.shape.endFrequencyHz with
    | none => exact positive.1
    | some frequency => exact (ends frequency given).1
  · intro adsr given
    rw [Option.mem_def.mp given] at valid
    exact inUnitRange_real (ensure_eq_ok.mp (seq_eq_ok.mp valid).2)

theorem several_frames {tone : ToneParameters} (some : 0 < tone.durationMs) : 44 ≤ tone.frames := by
  have rate : sampleRate = 44100 := rfl
  rw [frames, rate]
  omega

end ToneParameters

/-! ## From samples and levels to frames -/

/-- **What a rendered tone is.** Its frames are those of its duration, no sample is beyond
its volume, and the first and the last frame are silent. Each frame is the left and the
right sample under a level, and the left one comes from harmonics below half the sample
rate during the whole sweep, unless it is a Classic tone beyond that limit. -/
structure Rendered (tone : ToneParameters) (buffer : AudioBuffer ℝ) : Prop where
  length : buffer.length = sampleRate * tone.durationMs / 1000
  bounded : ∀ frame ∈ buffer, |frame.1| ≤ tone.gain ∧ |frame.2| ≤ tone.gain
  first : buffer.head? = some (0, 0)
  last : buffer.getLast? = some (0, 0)
  samples : ∃ envelope, ToneGenerator.makeEnvelope tone tone.frames = .ok envelope ∧
    (∀ made ∈ envelope, made.WellFormed tone.frames) ∧
    ∀ index < tone.frames, ∃ level,
      LevelOf tone.frames index (ToneGenerator.levelOf envelope tone.frames index) level ∧
        buffer[index]? = some (tone.left index * level, tone.right index * level)
  band : (tone.shape = .default → tone.frequency < halfSampleRate) →
    ∀ n ∈ tone.harmonics, ∀ time, 0 ≤ time → time ≤ tone.duration →
      n * tone.frequencyAt time < halfSampleRate

namespace ToneGenerator

theorem delaySamples_isLevel : IsLevel delaySamples := by
  constructor <;> norm_num [delaySamples, sampleRate]

/-- Samples within one, under levels, are a rendered tone. -/
theorem rendered_of {tone : ToneParameters} (valid : tone.Validated)
    (quiet : ∀ frame, |tone.left frame| ≤ tone.gain)
    {envelope : Option Envelope} (made : makeEnvelope tone tone.frames = .ok envelope)
    (formed : ∀ made ∈ envelope, made.WellFormed tone.frames) {level : Nat → ℝ}
    (leveled : ∀ index < tone.frames,
      LevelOf tone.frames index (levelOf envelope tone.frames index) (level index))
    (band : (tone.shape = .default → tone.frequency < halfSampleRate) →
      ∀ n ∈ tone.harmonics, ∀ time, 0 ≤ time → time ≤ tone.duration →
        n * tone.frequencyAt time < halfSampleRate) :
    Rendered tone ((List.range tone.frames).map fun frame =>
      (tone.left frame * level frame, tone.right frame * level frame)) := by
  have several := ToneParameters.several_frames valid.duration
  have quiet' : ∀ frame, |tone.previous frame| ≤ tone.gain := by
    intro frame
    cases frame with
    | zero =>
        rw [ToneParameters.previous, abs_zero]
        exact valid.gain.1
    | succ frame => exact quiet frame
  have right : ∀ frame, |tone.right frame| ≤ tone.gain := by
    intro frame
    have mixed := abs_mix_le (quiet frame) (quiet' frame) delaySamples_isLevel.1
      delaySamples_isLevel.2
    rwa [add_comm] at mixed
  have silent : ∀ frame < tone.frames, frame = 0 ∨ frame + 1 = tone.frames →
      (tone.left frame * level frame, tone.right frame * level frame) = (0, 0) := by
    intro frame inside edge
    rw [(leveled frame inside).silent edge, mul_zero, mul_zero]
  refine
    { length := by rw [List.length_map, List.length_range]; rfl
      bounded := ?_
      first := ?_
      last := ?_
      samples := ⟨envelope, made, formed, fun index inside =>
        ⟨level index, leveled index inside, ?_⟩⟩
      band := band }
  · intro frame member
    obtain ⟨index, inside, rfl⟩ := List.mem_map.mp member
    obtain ⟨low, high⟩ := (leveled index (List.mem_range.mp inside)).between
    exact ⟨abs_scale_le (quiet index) low high, abs_scale_le (right index) low high⟩
  · rw [List.head?_map, List.head?_range, if_neg (by omega), Option.map_some,
      silent 0 (by omega) (Or.inl rfl)]
  · rw [List.getLast?_map, List.getLast?_range, if_neg (by omega), Option.map_some,
      silent (tone.frames - 1) (by omega) (Or.inr (by omega))]
  · rw [List.getElem?_map, List.getElem?_range inside, Option.map_some]

/-- Every frame has a level. -/
theorem levelOf_spec {tone : ToneParameters} (valid : tone.Validated) :
    ∃ envelope, makeEnvelope tone tone.frames = .ok envelope ∧
      (∀ made ∈ envelope, made.WellFormed tone.frames) ∧
      ∃ level : Nat → ℝ, ∀ index < tone.frames,
        LevelOf tone.frames index (levelOf envelope tone.frames index) (level index) := by
  have several := ToneParameters.several_frames valid.duration
  have sustain := valid.sustain
  unfold makeEnvelope
  cases given : tone.shape.envelope with
  | none =>
      have leveled : ∀ index, ∃ level, index < tone.frames →
          LevelOf tone.frames index (fadeLevel tone.frames index) level := by
        intro index
        by_cases inside : index < tone.frames
        · obtain ⟨level, spec⟩ := fadeLevel_spec (by omega) inside
          exact ⟨level, fun _ => spec⟩
        · exact ⟨0, fun inside' => absurd inside' inside⟩
      choose level spec using leveled
      exact ⟨none, rfl, nofun, level, spec⟩
  | some adsr =>
      obtain ⟨envelope, made, formed⟩ := Envelope.new_spec (tone.shape.envelopeCurve.getD .linear)
        (show 3 ≤ tone.frames by omega) valid.duration (sustain adsr given)
      have leveled : ∀ index, ∃ level, index < tone.frames →
          LevelOf tone.frames index (envelope.level index) level := by
        intro index
        by_cases inside : index < tone.frames
        · obtain ⟨level, spec⟩ := Envelope.level_spec formed inside
          exact ⟨level, fun _ => spec⟩
        · exact ⟨0, fun inside' => absurd inside' inside⟩
      choose level spec using leveled
      refine ⟨some envelope, ?_, ?_, level, spec⟩
      · dsimp only
        rw [made]
        rfl
      · intro made' member
        rw [← Option.mem_some_iff.mp member]
        exact formed

/-! ## The Classic path -/

theorem pollFrame_ok {cancelled : Nat → Bool} (never : ∀ poll, cancelled poll = false)
    (frame : Nat) : pollFrame cancelled frame = .ok () := by
  unfold pollFrame checkCancelled
  rw [never]
  split <;> rfl

theorem checkCancelled_ok {cancelled : Nat → Bool} (never : ∀ poll, cancelled poll = false)
    (poll : Nat) : checkCancelled cancelled poll = .ok () := by
  rw [checkCancelled, never]
  rfl

/-- A Classic tone is its fundamental. -/
theorem left_classic {tone : ToneParameters} (classic : tone.shape = .default) (frame : Nat) :
    tone.left frame = sin (2.0 * π * tone.frequency * (frame / sampleRate)) * tone.gain := by
  have same : tone.endFrequency = tone.frequency := by
    rw [ToneParameters.endFrequency, classic]
    rfl
  have phase : tone.phaseAt (frame / sampleRate) =
      2.0 * π * tone.frequency * (frame / sampleRate) := by
    rw [ToneParameters.phaseAt, same, decimals.1]
    ring
  rw [ToneParameters.left, ToneParameters.leftOver, phase, ToneParameters.harmonics,
    if_pos classic, classic]
  simp only [Waveform.partialSum, ToneShape.default, Waveform.normalisation, Waveform.fourier,
    Finset.sum_singleton, if_true, Nat.cast_one, one_mul, zero_mul, add_zero]
  exact mul_comm _ _

theorem classicFrame_ok {tone : ToneParameters} (classic : tone.shape = .default) {frame : Nat}
    {level : ℝ} (leveled : fadeLevel tone.frames frame = .ok level) :
    classicFrame tone.frequency tone.gain tone.frames frame =
      .ok (tone.left frame * level, tone.right frame * level) := by
  unfold classicFrame
  rw [leveled, ok_bind, ToneParameters.right, left_classic classic]
  cases frame with
  | zero =>
      rw [if_pos rfl, ToneParameters.previous, zero_mul, zero_add]
  | succ frame =>
      rw [if_neg (Nat.succ_ne_zero frame), ToneParameters.previous, left_classic classic]
      push_cast
      rw [add_sub_cancel_right]

/-- **The Classic path.** -/
theorem generateInterruptible_ok {tone : ToneParameters} (classic : tone.shape = .default)
    (valid : tone.Validated) {cancelled : Nat → Bool} (never : ∀ poll, cancelled poll = false)
    {level : Nat → ℝ} (leveled : ∀ index < tone.frames,
      LevelOf tone.frames index (fadeLevel tone.frames index) (level index)) :
    generateInterruptible tone.frequency tone.durationMs tone.gain cancelled =
      .ok ((List.range tone.frames).map fun frame =>
        (tone.left frame * level frame, tone.right frame * level frame)) := by
  have several := ToneParameters.several_frames valid.duration
  have counted : ⌊(sampleRate * tone.durationMs : ℚ) / 1000⌋₊ = tone.frames := by
    have whole := Nat.floor_div_eq_div (K := ℚ) (sampleRate * tone.durationMs) 1000
    push_cast at whole
    exact whole
  have computed : (List.range tone.frames).mapM (fun frame => do
      pollFrame cancelled frame
      classicFrame tone.frequency tone.gain tone.frames frame) =
        .ok ((List.range tone.frames).map fun frame =>
          (tone.left frame * level frame, tone.right frame * level frame)) := by
    refine mapM_ok fun frame inside => ?_
    rw [pollFrame_ok never, ok_bind]
    exact classicFrame_ok classic (leveled frame (List.mem_range.mp inside)).computed
  unfold generateInterruptible classicFrames
  rw [checkCancelled_ok never, ok_bind, counted, if_neg (by omega), computed, ok_bind,
    checkCancelled_ok never]
  rfl

/-! ## The path of other shapes -/

theorem maximumFrequency_pos {tone : ToneParameters} (valid : tone.Validated) :
    0 < tone.maximumFrequencyHz := lt_max_of_lt_left valid.frequency

/-- **The oscillator that is used gives the partial sum of the waveform.** -/
theorem makeExtended_spec {tone : ToneParameters} (valid : tone.Validated) :
    ∃ extended, makeExtended tone = .ok extended ∧ ∀ phase,
      samplePhase (Oscillator.new tone.shape.waveform tone.maximumFrequencyHz) extended phase =
          tone.shape.waveform.partialSum tone.pulseWidth
            (tone.shape.waveform.harmonicsBelow tone.maximumFrequencyHz) phase ∧
        |samplePhase (Oscillator.new tone.shape.waveform tone.maximumFrequencyHz) extended
          phase| ≤ 1 := by
  have positive := maximumFrequency_pos valid
  unfold makeExtended
  by_cases full : tone.shape.waveform = .pulse ∨ tone.shape.waveform = .sawtooth
  · obtain ⟨extended, made, sampled⟩ := ExtendedOscillator.sample_spec full valid.pulseWidth.1
      valid.pulseWidth.2 positive
    rw [if_pos full, made, ok_bind]
    exact ⟨some extended, rfl, sampled⟩
  · rw [if_neg full]
    refine ⟨none, rfl, fun phase => ?_⟩
    unfold samplePhase
    obtain ⟨noPulse, noSawtooth⟩ := not_or.mp full
    cases waveform : tone.shape.waveform with
    | sine => exact Oscillator.sine_spec tone.pulseWidth tone.maximumFrequencyHz phase
    | triangle => exact Oscillator.triangle_spec tone.pulseWidth positive phase
    | square => exact Oscillator.square_spec tone.pulseWidth positive phase
    | pulse => exact absurd waveform noPulse
    | sawtooth => exact absurd waveform noSawtooth

/-- **A frame is sampled at its phase**, with and without a sweep. -/
theorem sampleFrame_ok {tone : ToneParameters} (valid : tone.Validated)
    (extended : Option ExtendedOscillator) (frame : Nat) :
    sampleFrame tone tone.frames (Oscillator.new tone.shape.waveform tone.maximumFrequencyHz)
        extended frame =
      .ok (samplePhase (Oscillator.new tone.shape.waveform tone.maximumFrequencyHz) extended
        (tone.phaseAt (frame / sampleRate))) := by
  have several := ToneParameters.several_frames valid.duration
  have lasting : (tone.frames : ℝ) / sampleRate ≠ 0 :=
    div_ne_zero (Nat.cast_ne_zero.mpr (by omega)) (Nat.cast_ne_zero.mpr (by decide))
  unfold sampleFrame
  cases sweep : tone.shape.endFrequencyHz with
  | some frequencyHz =>
      have reached : tone.endFrequency = realOf frequencyHz := by
        rw [ToneParameters.endFrequency, sweep]
        rfl
      dsimp only
      rw [quotient_ok lasting, ok_bind, ToneParameters.phaseAt, reached, ToneParameters.duration]
  | none =>
      have steady : tone.endFrequency = tone.frequency := by
        rw [ToneParameters.endFrequency, sweep]
        rfl
      have phase : tone.phaseAt (frame / sampleRate) =
          2.0 * π * tone.frequency * frame / sampleRate := by
        rw [ToneParameters.phaseAt, steady, decimals.1]
        ring
      rw [phase]
      cases extended with
      | some extended => rfl
      | none =>
          have maximum : tone.maximumFrequencyHz = tone.frequency := by
            rw [ToneParameters.maximumFrequencyHz, steady, max_self]
          dsimp only [samplePhase]
          rw [Oscillator.sample, Oscillator.new, maximum]

/-- **The loop over the frames.** The left sample of each is the one before the next. -/
theorem renderFrames_ok {cancelled : Nat → Bool} (never : ∀ poll, cancelled poll = false)
    {sample level : Nat → Except ToneFailure ℝ} {volume : ℝ} {sampled leveled : Nat → ℝ}
    (before : Nat → ℝ) (next : ∀ frame, before (frame + 1) = sampled frame * volume) {frames : Nat}
    (samples : ∀ frame < frames, sample frame = .ok (sampled frame))
    (levels : ∀ frame < frames, level frame = .ok (leveled frame)) (remaining frame : Nat)
    (inside : frame + remaining = frames) :
    renderFrames cancelled sample level volume remaining frame (before frame) =
      .ok ((List.range' frame remaining).map fun frame =>
        (sampled frame * volume * leveled frame,
          (before frame * delaySamples + sampled frame * volume * (1 - delaySamples)) *
            leveled frame)) := by
  induction remaining generalizing frame with
  | zero => rfl
  | succ remaining ih =>
      have rest := ih (frame + 1) (by omega)
      rw [next] at rest
      rw [renderFrames, pollFrame_ok never, ok_bind, samples frame (by omega), ok_bind,
        levels frame (by omega), ok_bind, rest, ok_bind, List.range'_succ, List.map_cons]

/-- **The path of other shapes.** -/
theorem renderShaped_ok {tone : ToneParameters} (shaped : tone.shape ≠ .default)
    (valid : tone.Validated) {cancelled : Nat → Bool} (never : ∀ poll, cancelled poll = false)
    {envelope : Option Envelope} (made : makeEnvelope tone tone.frames = .ok envelope)
    {level : Nat → ℝ} (leveled : ∀ index < tone.frames,
      LevelOf tone.frames index (levelOf envelope tone.frames index) (level index)) :
    renderShaped tone cancelled =
        .ok ((List.range tone.frames).map fun frame =>
          (tone.left frame * level frame, tone.right frame * level frame)) ∧
      ∀ frame, |tone.left frame| ≤ tone.gain := by
  obtain ⟨extended, extendedMade, spec⟩ := makeExtended_spec valid
  let sampled : Nat → ℝ := fun frame =>
    samplePhase (Oscillator.new tone.shape.waveform tone.maximumFrequencyHz) extended
      (tone.phaseAt (frame / sampleRate))
  have left : ∀ frame, sampled frame * tone.gain = tone.left frame := by
    intro frame
    rw [ToneParameters.left, ToneParameters.leftOver, ToneParameters.harmonics, if_neg shaped,
      ← (spec _).1]
    exact mul_comm _ _
  have rendered := renderFrames_ok never tone.previous
    (fun frame => (left frame).symm)
    (fun frame _ => sampleFrame_ok valid extended frame)
    (fun frame inside => (leveled frame inside).computed) tone.frames 0 (Nat.zero_add _)
  constructor
  · unfold renderShaped
    dsimp only
    rw [extendedMade, ok_bind]
    have counted : sampleRate * tone.durationMs / 1000 = tone.frames := rfl
    rw [counted, made, ok_bind, checkCancelled_ok never, ok_bind]
    have start : tone.previous 0 = 0 := rfl
    rw [start] at rendered
    rw [rendered, ok_bind, checkCancelled_ok never, ok_bind, ← List.range_eq_range']
    refine congrArg Except.ok (List.map_congr_left fun frame _ => ?_)
    change (sampled frame * tone.gain * _, (_ + sampled frame * tone.gain * _) * _) = _
    rw [left]
    rfl
  · intro frame
    rw [← left frame]
    have bounded := (spec (tone.phaseAt (frame / sampleRate))).2
    rw [mul_comm, abs_mul, abs_of_nonneg valid.gain.1]
    exact mul_le_of_le_one_right valid.gain.1 bounded

/-! ## The band -/

/-- A frequency on the way of a sweep is at most the larger end. -/
theorem frequencyAt_le {tone : ToneParameters} (valid : tone.Validated) {time : ℝ}
    (positive : 0 ≤ time) (inside : time ≤ tone.duration) :
    tone.frequencyAt time ≤ tone.maximumFrequencyHz := by
  have several := ToneParameters.several_frames valid.duration
  have lasting : 0 < tone.duration :=
    div_pos (Nat.cast_pos.mpr (by omega)) (Nat.cast_pos.mpr (by decide))
  have part : 0 ≤ time / tone.duration ∧ time / tone.duration ≤ 1 :=
    ⟨div_nonneg positive lasting.le, (div_le_one lasting).mpr inside⟩
  have start : tone.frequency ≤ tone.maximumFrequencyHz := le_max_left _ _
  have finish : tone.endFrequency ≤ tone.maximumFrequencyHz := le_max_right _ _
  rw [ToneParameters.frequencyAt, mul_div_assoc]
  nlinarith

/-- **No harmonic reaches half the sample rate**, at any time of the sweep. -/
theorem band_of {tone : ToneParameters} (valid : tone.Validated)
    (classic : tone.shape = .default → tone.frequency < halfSampleRate) {n : ℕ}
    (member : n ∈ tone.harmonics) {time : ℝ} (positive : 0 ≤ time)
    (inside : time ≤ tone.duration) : n * tone.frequencyAt time < halfSampleRate := by
  have top := frequencyAt_le valid positive inside
  have scaled : (n : ℝ) * tone.frequencyAt time ≤ n * tone.maximumFrequencyHz :=
    mul_le_mul_of_nonneg_left top (Nat.cast_nonneg n)
  rw [ToneParameters.harmonics] at member
  split at member
  · rename_i plain
    have same : tone.maximumFrequencyHz = tone.frequency := by
      have steady : tone.endFrequency = tone.frequency := by
        rw [ToneParameters.endFrequency, plain]
        rfl
      rw [ToneParameters.maximumFrequencyHz, steady, max_self]
    rw [Finset.mem_singleton.mp member, Nat.cast_one, one_mul]
    exact lt_of_le_of_lt (top.trans same.le) (classic plain)
  · exact lt_of_le_of_lt scaled (Finset.mem_filter.mp member).2

/-- Validation passes, and the shape chooses the path. -/
theorem generateShaped_eq {tone : ToneParameters} (valid : tone.validate = .ok ())
    {cancelled : Nat → Bool} (never : ∀ poll, cancelled poll = false) :
    generateShaped tone cancelled =
      if tone.shape = .default then
        generateInterruptible tone.frequency tone.durationMs tone.gain fun poll =>
          cancelled (poll + 1)
      else renderShaped tone fun poll => cancelled (poll + 1) := by
  unfold generateShaped
  rw [checkCancelled_ok never, ok_bind, valid]
  rfl

/-- **Shaped tones are bounded and band-limited.** A tone that validation accepts is
rendered, when nobody cancels, without a division by zero or a difference below zero. -/
theorem shaped_tones_rendered {tone : ToneParameters} (valid : tone.validate = .ok ())
    {cancelled : Nat → Bool} (never : ∀ poll, cancelled poll = false) :
    ∃ buffer, generateShaped tone cancelled = .ok buffer ∧ Rendered tone buffer := by
  have validated := ToneParameters.validated_of_ok valid
  have never' : ∀ poll, cancelled (poll + 1) = false := fun poll => never (poll + 1)
  obtain ⟨envelope, made, formed, level, leveled⟩ := levelOf_spec validated
  rw [generateShaped_eq valid never]
  by_cases classic : tone.shape = .default
  · have plain : envelope = none := by
      unfold makeEnvelope at made
      rw [classic] at made
      exact (Except.ok.inj made).symm
    have quiet : ∀ frame, |tone.left frame| ≤ tone.gain := by
      intro frame
      rw [left_classic classic, mul_comm, abs_mul, abs_of_nonneg validated.gain.1]
      exact mul_le_of_le_one_right validated.gain.1 (abs_sin_le_one _)
    refine ⟨_, ?_, rendered_of validated quiet made formed leveled fun limit n member time positive
      inside => band_of validated limit member positive inside⟩
    rw [if_pos classic]
    rw [plain] at leveled
    exact generateInterruptible_ok classic validated never' leveled
  · obtain ⟨rendered, quiet⟩ := renderShaped_ok classic validated never' made leveled
    refine ⟨_, ?_, rendered_of validated quiet made formed leveled fun limit n member time positive
      inside => band_of validated limit member positive inside⟩
    rw [if_neg classic]
    exact rendered

/-- A sweep of a narrow pulse in one millisecond, with an envelope that is longer. -/
def chirp : ToneParameters where
  frequencyHz := .finite 440
  durationMs := 1
  volume := .finite (1 / 2)
  shape :=
    { waveform := .pulse
      pulseWidth := some (.finite (1 / 4))
      endFrequencyHz := some (.finite 880)
      envelopeCurve := some .exponential
      envelope := some ⟨10, 20, .finite (1 / 2), 30⟩ }

theorem shaped_tones_rendered_chirp :
    ∃ buffer, generateShaped chirp (fun _ => false) = .ok buffer ∧ Rendered chirp buffer :=
  shaped_tones_rendered (by decide +kernel) (fun _ => rfl)

/-! ## A Classic tone beyond the limit -/

/-- A Classic tone at the highest frequency that validation accepts. -/
def shrill : ToneParameters where
  frequencyHz := .finite 24000
  durationMs := 1
  volume := .finite 1
  shape := .default

/-- No harmonic of a tone beyond the limit adds anything. -/
theorem leftOver_shrill {harmonics : Finset ℕ}
    (below : ∀ n ∈ harmonics, (n : ℝ) * shrill.frequencyAt 0 < halfSampleRate) (frame : Nat) :
    shrill.leftOver harmonics frame = 0 := by
  have start : shrill.frequencyAt 0 = 24000 := by
    norm_num [ToneParameters.frequencyAt, ToneParameters.frequency, shrill, realOf]
  have none : ∑ n ∈ harmonics,
      ((Waveform.sine.fourier shrill.pulseWidth n).1 *
          sin (n * shrill.phaseAt (frame / sampleRate)) +
        (Waveform.sine.fourier shrill.pulseWidth n).2 *
          cos (n * shrill.phaseAt (frame / sampleRate))) = 0 := by
    refine Finset.sum_eq_zero fun n member => ?_
    have other : n ≠ 1 := by
      intro one
      have low := below n member
      rw [one, start, halfSampleRate_eq] at low
      norm_num at low
    simp only [Waveform.fourier, if_neg other, zero_mul, add_zero]
  have waveform : shrill.shape.waveform = .sine := rfl
  rw [ToneParameters.leftOver, waveform, Waveform.partialSum, none, mul_zero, mul_zero]

/-- **A Classic tone is a sine whatever its frequency**, so its left side need not come from
harmonics below half the sample rate. -/
theorem classic_tone_above_nyquist :
    ¬ ∀ tone : ToneParameters, tone.validate = .ok () →
      ∀ buffer, generateShaped tone (fun _ => false) = .ok buffer →
        ∃ harmonics : Finset ℕ,
          (∀ n ∈ harmonics, ∀ time, 0 ≤ time → time ≤ tone.duration →
            (n : ℝ) * tone.frequencyAt time < halfSampleRate) ∧
          ∀ index < tone.frames, ∃ level,
            buffer[index]?.map Prod.fst = some (tone.leftOver harmonics index * level) := by
  intro claim
  have valid : shrill.validate = .ok () := by decide +kernel
  have never : ∀ poll, (fun _ : Nat => false) poll = false := fun _ => rfl
  have validated := ToneParameters.validated_of_ok valid
  have frames : shrill.frames = 44 := rfl
  have leveled : ∀ index, ∃ level, index < shrill.frames →
      LevelOf shrill.frames index (fadeLevel shrill.frames index) level := by
    intro index
    by_cases inside : index < shrill.frames
    · obtain ⟨level, spec⟩ := fadeLevel_spec (show 2 ≤ shrill.frames by omega) inside
      exact ⟨level, fun _ => spec⟩
    · exact ⟨0, fun inside' => absurd inside' inside⟩
  choose level spec using leveled
  have generated := generateInterruptible_ok rfl validated never spec
  obtain ⟨harmonics, below, agrees⟩ := claim shrill valid _
    ((generateShaped_eq valid never).trans ((if_pos rfl).trans generated))
  obtain ⟨other, same⟩ := agrees 1 (by rw [frames]; decide)
  have lasting : 0 ≤ shrill.duration :=
    div_nonneg (Nat.cast_nonneg _) (Nat.cast_nonneg _)
  rw [leftOver_shrill (fun n member => below n member 0 le_rfl lasting), zero_mul,
    List.getElem?_map, List.getElem?_range (by rw [frames]; decide), Option.map_some,
    Option.map_some, Option.some.injEq] at same
  -- the second frame fades in, over 22 frames
  have faded : level 1 = 1 / 22 := by
    have computed := (spec 1 (by rw [frames]; decide)).computed
    have fade : fadeFrames shrill.frames = 22 := by
      rw [fadeFrames_eq]
      rfl
    rw [fadeLevel, fade, if_pos (by decide), quotient_ok (by norm_num)] at computed
    have value := Except.ok.inj computed
    push_cast at value
    exact value.symm
  have gain : shrill.gain = 1 := by norm_num [ToneParameters.gain, shrill, realOf]
  have frequency : shrill.frequency = 24000 := by
    norm_num [ToneParameters.frequency, shrill, realOf]
  rw [left_classic rfl, faded, gain, mul_one, frequency, decimals.1] at same
  have zero : sin (2 * π * 24000 * ((1 : ℕ) / sampleRate)) = 0 := by linarith
  obtain ⟨n, turns⟩ := sin_eq_zero_iff.mp zero
  have pi := pi_ne_zero
  have whole : (n : ℝ) * 147 = 160 := by
    have scaled : (n : ℝ) * π * 147 = 160 * π := by
      rw [turns]
      norm_num [sampleRate]
      ring
    have cancelled : π * ((n : ℝ) * 147 - 160) = 0 := by linarith
    rcases mul_eq_zero.mp cancelled with circle | rest
    · exact absurd circle pi
    · linarith
  have exact' : n * 147 = 160 := by exact_mod_cast whole
  omega

end ToneGenerator

end Omnivox.Audio
