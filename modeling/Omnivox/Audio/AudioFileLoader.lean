import Omnivox.Foundations.Bounded
import Omnivox.Foundations.Fallible
import Omnivox.Audio.AudioBuffer
import Omnivox.Audio.AudioCache

/-!
# Loading an audio file

The loader turns what a decoder yields into canonical samples: a bounded number
of them is taken, one or many channels become two, and another sample rate is
resampled by linear interpolation. Every index and the even sample count that a
buffer asserts are checked here as the program checks them, so a panic is an
answer of its own.

`convertSamples_eq` says what every sequence of samples becomes. It panics in one case:
stereo at the canonical rate with an incomplete last frame, which neither
interpolation nor a channel conversion discards.
-/

set_option autoImplicit false

namespace Omnivox.Audio

open Foundations

inductive LoadFault where
  /-- An index out of range, or a buffer with an odd number of samples. -/
  | panicked
  | failed (error : AudioError)
  deriving Repr, DecidableEq

variable {K : Type}

/-- `samples[index]`. -/
def sampleAt (samples : List K) (index : Nat) : Except LoadFault K :=
  orError .panicked samples[index]?

/-- `AudioBuffer::new`. -/
def newBuffer (samples : List K) : Except LoadFault (List K) :=
  if samples.length % 2 = 0 then .ok samples else .error .panicked

/-- Convert mono samples to stereo by duplicating each sample. -/
def monoToStereo (mono : List K) : List K := mono.flatMap fun sample => [sample, sample]

def downmixFrame (samples : List K) (channels frame : Nat) : Except LoadFault (List K) := do
  let offset := frame * channels
  let left ← sampleAt samples offset
  let right ← sampleAt samples (if 2 ≤ channels then offset + 1 else offset)
  return [left, right]

/-- Downmix multi-channel audio to stereo by taking the first two channels. -/
def downmixToStereo (samples : List K) (channels : Nat) : Except LoadFault (List K) := do
  let frames ← (List.range (samples.length / channels)).mapM (downmixFrame samples channels)
  return frames.flatten

/-- The number of frames at another rate, a half rounded up. -/
def roundedFrames (frames fromRate toRate : Nat) : Nat :=
  ⌊(frames * toRate / fromRate : ℚ) + 1 / 2⌋₊

/-- `max_raw_samples`. -/
def maxRawSamples (channels rate : Nat) : Option Nat := do
  let frames ← checkedMul usizeMax rate maxAudioDurationSecs
  checkedMul usizeMax frames channels

/-- Two channels of the samples. -/
def toStereo (raw : List K) (channels : Nat) : Except LoadFault (List K) :=
  if channels = 1 then .ok (monoToStereo raw)
  else if channels = 2 then .ok raw
  else downmixToStereo raw channels

section Resampling

variable [Field K] [LinearOrder K] [FloorSemiring K]

/-- One frame between two neighbouring frames of the source. -/
def resampleFrame (samples : List K) (fromFrames : Nat) (ratio : K) (index : Nat) :
    Except LoadFault (List K) := do
  let position := index * ratio
  let source := ⌊position⌋₊
  let fraction := position - source
  let next := min (source + 1) (fromFrames - 1)
  let l0 ← sampleAt samples (source * 2)
  let l1 ← sampleAt samples (next * 2)
  let r0 ← sampleAt samples (source * 2 + 1)
  let r1 ← sampleAt samples (next * 2 + 1)
  return [l0 + (l1 - l0) * fraction, r0 + (r1 - r0) * fraction]

/-- Linear interpolation resampling for stereo audio. -/
def resampleLinear (samples : List K) (fromRate toRate : Nat) : Except LoadFault (List K) := do
  let fromFrames := samples.length / 2
  let toFrames := roundedFrames fromFrames fromRate toRate
  let frames ← (List.range toFrames).mapM
    (resampleFrame samples fromFrames (fromRate / toRate : K))
  return frames.flatten

def toCanonicalRate (stereo : List K) (rate : Nat) : Except LoadFault (List K) :=
  if rate ≠ sampleRate then resampleLinear stereo rate sampleRate else .ok stereo

/-- What some samples of a file become. -/
def convertSamples (channels rate : Nat) (raw : List K) : Except LoadFault (List K) := do
  let stereo ← toStereo raw channels
  let final ← toCanonicalRate stereo rate
  newBuffer final

/-- What is taken of the decoder. -/
def takeSamples (path : String) (limit : Nat) (decoded : List K) : Except LoadFault (List K) :=
  let raw := decoded.take (saturatingAdd usizeMax limit 1)
  if raw.length > limit then
    .error (.failed (.decodeError
      s!"{path} exceeds the {maxAudioDurationSecs}-second decoded duration limit"))
  else .ok raw

/-- The part of `load_uncached` behind the decoder, which reports `channels` and
`rate` and yields `decoded`. -/
def convert (path : String) (channels rate : Nat) (decoded : List K) :
    Except LoadFault (List K) := do
  ensure (decide (channels ≠ 0) && decide (rate ≠ 0))
    (LoadFault.failed (.decodeError s!"{path} reports an invalid audio format"))
  let limit ← orError
    (LoadFault.failed (.decodeError s!"{path} reports an unbounded audio format"))
    (maxRawSamples channels rate)
  let raw ← takeSamples path limit decoded
  if raw.isEmpty then .ok [] else convertSamples channels rate raw

end Resampling

/-! ## Stereo frames -/

/-- Interleaved frames hold their sides one after the other. -/
theorem getElem?_frames {α : Type*} (left right : α → K) (l : List α) (index side : Nat)
    (one : side < 2) :
    (l.map fun a => [left a, right a]).flatten[2 * index + side]? =
      l[index]?.map (if side = 0 then left else right) := by
  induction l generalizing index with
  | nil => rfl
  | cons a l ih =>
      rw [List.map_cons, List.flatten_cons]
      cases index with
      | zero =>
          rcases Nat.lt_succ_iff_lt_or_eq.mp one with low | rfl
          · rw [Nat.lt_one_iff.mp low]
            rfl
          · rfl
      | succ index =>
          have further : 2 * (index + 1) + side = 2 * index + side + 1 + 1 := by omega
          rw [further]
          exact ih index

theorem length_frames {α : Type*} (left right : α → K) (l : List α) :
    (l.map fun a => [left a, right a]).flatten.length = 2 * l.length := by
  induction l with
  | nil => rfl
  | cons a l ih =>
      rw [List.map_cons, List.flatten_cons, List.length_append, ih, List.length_cons,
        List.length_cons, List.length_cons, List.length_nil]
      omega

/-- The sample of a frame of the source that one side of the output is made of:
the first two channels, or the only one twice. -/
def sourceSample (raw : List K) (channels frame side : Nat) : Option K :=
  raw[frame * channels + if side = 0 ∨ channels < 2 then 0 else 1]?

/-- Both sides of every frame of the source are there. -/
theorem sourceSample_isSome {raw : List K} {channels frame : Nat} (some_channel : 0 < channels)
    (inside : frame < raw.length / channels) (side : Nat) :
    ∃ sample, sourceSample raw channels frame side = some sample := by
  have whole : (frame + 1) * channels ≤ raw.length :=
    (Nat.mul_le_mul_right channels inside).trans (Nat.div_mul_le_self _ _)
  rw [Nat.add_mul, Nat.one_mul] at whole
  rw [sourceSample]
  refine ⟨_, List.getElem?_eq_getElem ?_⟩
  split <;> omega

/-- Stereo samples hold the two channels of the source, frame by frame. -/
structure StereoOf (raw : List K) (channels : Nat) (stereo : List K) : Prop where
  frames : stereo.length / 2 = raw.length / channels
  samples : ∀ frame side, frame < raw.length / channels → side < 2 →
    stereo[2 * frame + side]? = sourceSample raw channels frame side
  even : channels ≠ 2 → stereo.length % 2 = 0
  same : channels = 2 → stereo = raw

section Stereo

variable [Zero K]

/-- A side of a frame of the source. -/
def sideOf (raw : List K) (channels side frame : Nat) : K :=
  (sourceSample raw channels frame side).getD 0

theorem sourceSample_eq {raw : List K} {channels frame side : Nat} (some_channel : 0 < channels)
    (inside : frame < raw.length / channels) :
    sourceSample raw channels frame side = some (sideOf raw channels side frame) := by
  obtain ⟨sample, found⟩ := sourceSample_isSome some_channel inside side
  rw [sideOf, found, Option.getD_some]

/-- The samples at the place of a frame are its sides. -/
theorem downmixFrame_ok (raw : List K) {channels frame : Nat} (many : 2 ≤ channels)
    (inside : frame < raw.length / channels) :
    downmixFrame raw channels frame =
      .ok [sideOf raw channels 0 frame, sideOf raw channels 1 frame] := by
  have some_channel : 0 < channels := Nat.lt_of_lt_of_le Nat.zero_lt_two many
  have left : raw[frame * channels]? = some (sideOf raw channels 0 frame) := by
    rw [← sourceSample_eq some_channel inside, sourceSample, if_pos (.inl rfl), Nat.add_zero]
  have right : raw[frame * channels + 1]? = some (sideOf raw channels 1 frame) := by
    rw [← sourceSample_eq some_channel inside, sourceSample, if_neg (by omega)]
  rw [downmixFrame, if_pos many, sampleAt, sampleAt, left, right]
  rfl

omit [Zero K] in
theorem monoToStereo_of (raw : List K) : StereoOf raw 1 (monoToStereo raw) := by
  have written : monoToStereo raw = (raw.map fun sample => [id sample, id sample]).flatten := rfl
  have length := length_frames id id raw
  rw [written]
  exact {
    frames := by rw [length, Nat.div_one, Nat.mul_div_cancel_left _ Nat.zero_lt_two]
    samples := by
      intro frame side inside one
      rw [getElem?_frames id id raw frame side one, ite_self, Option.map_id, sourceSample,
        if_pos (.inr Nat.one_lt_two), Nat.mul_one, Nat.add_zero]
      rfl
    even := fun _ => by rw [length, Nat.mul_mod_right]
    same := nofun }

omit [Zero K] in
theorem stereo_of (raw : List K) : StereoOf raw 2 raw where
  frames := rfl
  samples := by
    intro frame side inside one
    rcases Nat.lt_succ_iff_lt_or_eq.mp one with low | rfl
    · rw [Nat.lt_one_iff.mp low, sourceSample, if_pos (.inl rfl), Nat.mul_comm]
    · rw [sourceSample, if_neg (by decide), Nat.mul_comm]
  even := fun other => absurd rfl other
  same := fun _ => rfl

/-- **A channel conversion never fails**, and keeps the channels. -/
theorem toStereo_ok (raw : List K) {channels : Nat} (some_channel : 0 < channels) :
    ∃ stereo, toStereo raw channels = .ok stereo ∧ StereoOf raw channels stereo := by
  rw [toStereo]
  by_cases mono : channels = 1
  · rw [if_pos mono, mono]
    exact ⟨_, rfl, monoToStereo_of raw⟩
  · rw [if_neg mono]
    by_cases stereo : channels = 2
    · rw [if_pos stereo, stereo]
      exact ⟨_, rfl, stereo_of raw⟩
    · have many : 2 ≤ channels := by omega
      have converted := mapM_ok fun frame member =>
        downmixFrame_ok raw many (List.mem_range.mp member)
      have length := length_frames (sideOf raw channels 0) (sideOf raw channels 1)
        (List.range (raw.length / channels))
      rw [List.length_range] at length
      rw [if_neg stereo, downmixToStereo, converted]
      refine ⟨_, rfl, ?_⟩
      exact {
        frames := by rw [length, Nat.mul_div_cancel_left _ Nat.zero_lt_two]
        samples := by
          intro frame side inside one
          rw [getElem?_frames _ _ _ frame side one, List.getElem?_range inside, Option.map_some]
          rcases Nat.lt_succ_iff_lt_or_eq.mp one with low | rfl
          · rw [Nat.lt_one_iff.mp low, if_pos rfl, sourceSample_eq some_channel inside]
          · rw [if_neg Nat.one_ne_zero, sourceSample_eq some_channel inside]
        even := fun _ => by rw [length, Nat.mul_mod_right]
        same := fun two => absurd two stereo }

end Stereo

/-! ## Interpolation -/

/-- A resampled frame starts inside the source. -/
theorem source_position_lt {frames fromRate toRate index : Nat} (positive : 0 < fromRate)
    (inside : index < roundedFrames frames fromRate toRate) :
    index * fromRate < frames * toRate := by
  rw [roundedFrames, ← Nat.succ_le_iff, Nat.le_floor_iff (by positivity)] at inside
  have rate : (0 : ℚ) < fromRate := Nat.cast_pos.mpr positive
  have exact_position : (index : ℚ) + 1 / 2 ≤ frames * toRate / fromRate := by
    push_cast at inside
    linarith
  have scaled := (le_div_iff₀ rate).mp exact_position
  have below : (index * fromRate : ℚ) < frames * toRate := by nlinarith
  exact_mod_cast below

section Interpolation

variable [Field K] [LinearOrder K] [IsStrictOrderedRing K] [FloorSemiring K]

omit [FloorSemiring K] in
/-- **An interpolated value lies between its neighbours.** -/
theorem interpolated_mem {first second fraction : K} (low : 0 ≤ fraction) (high : fraction ≤ 1) :
    first + (second - first) * fraction ∈ Set.uIcc first second := by
  have segment := Convex.add_smul_sub_mem (convex_uIcc first second) Set.left_mem_uIcc
    Set.right_mem_uIcc ⟨low, high⟩
  rwa [smul_eq_mul, mul_comm] at segment

/-- The frame of the source that a resampled frame starts in. -/
def sourceFrame (K : Type) [Field K] [LinearOrder K] [FloorSemiring K] (fromRate toRate index : Nat) :
    Nat := ⌊(index * (fromRate / toRate) : K)⌋₊

theorem sourceFrame_lt {frames fromRate toRate index : Nat} (positive : 0 < fromRate)
    (target : 0 < toRate) (inside : index < roundedFrames frames fromRate toRate) :
    sourceFrame K fromRate toRate index < frames := by
  have below := source_position_lt positive inside
  have rate : (0 : K) < toRate := Nat.cast_pos.mpr target
  rw [sourceFrame, Nat.floor_lt (by positivity), ← mul_div_assoc, div_lt_iff₀ rate]
  exact_mod_cast below

/-- One side of a resampled frame. -/
def interpolated (value : Nat → Nat → K) (frames fromRate toRate side index : Nat) : K :=
  value side (sourceFrame K fromRate toRate index) +
    (value side (min (sourceFrame K fromRate toRate index + 1) (frames - 1)) -
      value side (sourceFrame K fromRate toRate index)) *
        (index * (fromRate / toRate) - sourceFrame K fromRate toRate index)

/-- **Resampling stays inside the source**, whatever the rates. -/
theorem resampleLinear_ok {samples : List K} {value : Nat → Nat → K}
    (holds : ∀ frame side, frame < samples.length / 2 → side < 2 →
      samples[2 * frame + side]? = some (value side frame))
    {fromRate toRate : Nat} (positive : 0 < fromRate) (target : 0 < toRate) :
    resampleLinear samples fromRate toRate =
      .ok ((List.range (roundedFrames (samples.length / 2) fromRate toRate)).map fun index =>
        [interpolated value (samples.length / 2) fromRate toRate 0 index,
          interpolated value (samples.length / 2) fromRate toRate 1 index]).flatten := by
  have each : ∀ index ∈ List.range (roundedFrames (samples.length / 2) fromRate toRate),
      resampleFrame samples (samples.length / 2) (fromRate / toRate : K) index =
        .ok [interpolated value (samples.length / 2) fromRate toRate 0 index,
          interpolated value (samples.length / 2) fromRate toRate 1 index] := by
    intro index member
    have inside := sourceFrame_lt (K := K) positive target (List.mem_range.mp member)
    have following : min (sourceFrame K fromRate toRate index + 1) (samples.length / 2 - 1) <
        samples.length / 2 := by omega
    have l0 := holds _ 0 inside Nat.zero_lt_two
    have r0 := holds _ 1 inside Nat.one_lt_two
    have l1 := holds _ 0 following Nat.zero_lt_two
    have r1 := holds _ 1 following Nat.one_lt_two
    rw [Nat.mul_comm 2] at l0 r0 l1 r1
    rw [Nat.add_zero] at l0 l1
    rw [sourceFrame] at l0 r0 l1 r1
    rw [resampleFrame, sampleAt, sampleAt, sampleAt, sampleAt, l0, l1, r0, r1]
    rfl
  rw [resampleLinear, mapM_ok each]
  rfl

end Interpolation

/-! ## What a file becomes -/

section Loading

variable [Field K] [LinearOrder K] [IsStrictOrderedRing K] [FloorSemiring K]

/-- Stereo samples that are bounded, of the right length, and between the samples
of the source. -/
structure Canonical (channels rate : Nat) (raw out : List K) : Prop where
  even : out.length % 2 = 0
  bounded : out.length / 2 ≤ maxAudioDurationSecs * sampleRate
  frames : out.length / 2 = roundedFrames (raw.length / channels) rate sampleRate
  between : ∀ index side sample, side < 2 → out[2 * index + side]? = some sample →
    ∃ frame first second, frame < raw.length / channels ∧
      sourceSample raw channels frame side = some first ∧
      sourceSample raw channels (min (frame + 1) (raw.length / channels - 1)) side = some second ∧
      sample ∈ Set.uIcc first second

/-- Stereo with an incomplete last frame, at the canonical rate. -/
def Incomplete (channels rate : Nat) (raw : List K) : Prop :=
  channels = 2 ∧ rate = sampleRate ∧ raw.length % 2 = 1

omit [Field K] [LinearOrder K] [IsStrictOrderedRing K] [FloorSemiring K] in
theorem roundedFrames_same (frames : Nat) : roundedFrames frames sampleRate sampleRate = frames := by
  have rate : ((sampleRate : Nat) : ℚ) ≠ 0 := by norm_num [sampleRate]
  rw [roundedFrames, mul_div_assoc, div_self rate, mul_one, Nat.floor_eq_iff (by positivity)]
  constructor <;> linarith

omit [Field K] [LinearOrder K] [IsStrictOrderedRing K] [FloorSemiring K] in
/-- A bounded duration has a bounded number of frames at any rate. -/
theorem roundedFrames_le {frames rate : Nat} (positive : 0 < rate)
    (short : frames ≤ rate * maxAudioDurationSecs) :
    roundedFrames frames rate sampleRate ≤ maxAudioDurationSecs * sampleRate := by
  have rate_pos : (0 : ℚ) < rate := Nat.cast_pos.mpr positive
  have length : (frames * sampleRate / rate : ℚ) ≤ (maxAudioDurationSecs * sampleRate : Nat) := by
    rw [div_le_iff₀ rate_pos]
    exact_mod_cast (show frames * sampleRate ≤ maxAudioDurationSecs * sampleRate * rate by nlinarith)
  rw [roundedFrames, ← Nat.lt_succ_iff, Nat.floor_lt (by positivity)]
  push_cast at length ⊢
  linarith

section Samples

variable {channels rate : Nat} {raw stereo : List K}

omit [Field K] [IsStrictOrderedRing K] [FloorSemiring K] in
/-- At the canonical rate whole frames are kept as they are. -/
theorem canonical_same (some_channel : 0 < channels)
    (short : raw.length / channels ≤ maxAudioDurationSecs * sampleRate)
    (converted : StereoOf raw channels stereo) (even : stereo.length % 2 = 0) :
    Canonical channels sampleRate raw stereo := by
  refine ⟨even, ?_, ?_, ?_⟩
  · rw [converted.frames]
    exact short
  · rw [converted.frames, roundedFrames_same]
  · intro index side sample one found
    have inside : index < raw.length / channels := by
      obtain ⟨within, _⟩ := List.getElem?_eq_some_iff.mp found
      rw [← converted.frames]
      omega
    rw [converted.samples index side inside one] at found
    obtain ⟨second, neighbour⟩ := sourceSample_isSome some_channel
      (show min (index + 1) (raw.length / channels - 1) < raw.length / channels by omega) side
    exact ⟨index, sample, second, inside, found, neighbour, Set.left_mem_uIcc⟩

/-- At another rate every frame lies between two neighbours. -/
theorem canonical_resampled (some_channel : 0 < channels) (positive : 0 < rate)
    (short : raw.length / channels ≤ rate * maxAudioDurationSecs)
    (converted : StereoOf raw channels stereo) :
    ∃ out, resampleLinear stereo rate sampleRate = .ok out ∧ Canonical channels rate raw out := by
  have holds : ∀ frame side, frame < stereo.length / 2 → side < 2 →
      stereo[2 * frame + side]? = some (sideOf raw channels side frame) := by
    intro frame side inside one
    rw [converted.frames] at inside
    rw [converted.samples frame side inside one, sourceSample_eq some_channel inside]
  have target : 0 < sampleRate := by decide
  refine ⟨_, resampleLinear_ok holds positive target, ?_⟩
  have length := length_frames
    (interpolated (sideOf raw channels) (stereo.length / 2) rate sampleRate 0)
    (interpolated (sideOf raw channels) (stereo.length / 2) rate sampleRate 1)
    (List.range (roundedFrames (stereo.length / 2) rate sampleRate))
  rw [List.length_range] at length
  refine ⟨?_, ?_, ?_, ?_⟩
  · rw [length, Nat.mul_mod_right]
  · rw [length, Nat.mul_div_cancel_left _ Nat.zero_lt_two, converted.frames]
    exact roundedFrames_le positive short
  · rw [length, Nat.mul_div_cancel_left _ Nat.zero_lt_two, converted.frames]
  · intro index side sample one found
    rw [getElem?_frames _ _ _ index side one] at found
    obtain ⟨place, listed, rfl⟩ := Option.map_eq_some_iff.mp found
    obtain ⟨within, same⟩ := List.getElem?_eq_some_iff.mp listed
    rw [List.getElem_range] at same
    rw [List.length_range, same] at within
    rw [converted.frames] at within ⊢
    have inside := sourceFrame_lt (K := K) positive target within
    have following : min (sourceFrame K rate sampleRate place + 1) (raw.length / channels - 1) <
        raw.length / channels := by omega
    have fraction : (0 : K) ≤ place * (rate / sampleRate) - sourceFrame K rate sampleRate place ∧
        place * (rate / sampleRate) - sourceFrame K rate sampleRate place ≤ (1 : K) := by
      have low := Nat.floor_le (show (0 : K) ≤ place * (rate / sampleRate) by positivity)
      have high := Nat.lt_floor_add_one ((place * (rate / sampleRate) : K))
      rw [sourceFrame]
      constructor <;> linarith
    refine ⟨sourceFrame K rate sampleRate place, _, _, inside,
      sourceSample_eq some_channel inside, sourceSample_eq some_channel following, ?_⟩
    have mixed : ∀ side', interpolated (sideOf raw channels) (raw.length / channels) rate sampleRate
        side' place ∈ Set.uIcc (sideOf raw channels side' (sourceFrame K rate sampleRate place))
          (sideOf raw channels side'
            (min (sourceFrame K rate sampleRate place + 1) (raw.length / channels - 1))) :=
      fun side' => interpolated_mem fraction.1 fraction.2
    rcases Nat.lt_succ_iff_lt_or_eq.mp one with low | rfl
    · rw [Nat.lt_one_iff.mp low, if_pos rfl]
      exact mixed 0
    · rw [if_neg Nat.one_ne_zero]
      exact mixed 1

/-- **What the samples of a file become.** -/
theorem convertSamples_eq (some_channel : 0 < channels) (positive : 0 < rate)
    (short : raw.length ≤ rate * maxAudioDurationSecs * channels) :
    (Incomplete channels rate raw → convertSamples channels rate raw = .error .panicked) ∧
      (¬ Incomplete channels rate raw →
        ∃ out, convertSamples channels rate raw = .ok out ∧ Canonical channels rate raw out) := by
  obtain ⟨stereo, done, converted⟩ := toStereo_ok raw some_channel
  have frames : raw.length / channels ≤ rate * maxAudioDurationSecs := by
    rw [← Nat.mul_div_cancel (rate * maxAudioDurationSecs) some_channel]
    exact Nat.div_le_div_right short
  rw [convertSamples, done, ok_bind, toCanonicalRate]
  constructor
  · rintro ⟨two, same, odd⟩
    rw [if_neg (not_not.mpr same), ok_bind, newBuffer, converted.same two, odd]
    rfl
  · intro whole
    by_cases same : rate = sampleRate
    · have even : stereo.length % 2 = 0 := by
        by_cases two : channels = 2
        · rw [converted.same two]
          by_contra odd
          exact whole ⟨two, same, by omega⟩
        · exact converted.even two
      rw [if_neg (not_not.mpr same), ok_bind, newBuffer, if_pos even]
      refine ⟨stereo, rfl, ?_⟩
      rw [same] at frames ⊢
      exact canonical_same some_channel (by rw [Nat.mul_comm]; exact frames) converted even
    · obtain ⟨out, resampled, canonical⟩ :=
        canonical_resampled some_channel positive frames converted
      rw [if_pos same, resampled, ok_bind, newBuffer, if_pos canonical.even]
      exact ⟨out, rfl, canonical⟩

end Samples

theorem maxRawSamples_eq_some {channels rate limit : Nat}
    (within : maxRawSamples channels rate = some limit) :
    limit = rate * maxAudioDurationSecs * channels ∧ limit ≤ usizeMax := by
  obtain ⟨frames, first, second⟩ := Option.bind_eq_some_iff.mp within
  obtain ⟨rfl, _⟩ := checkedMul_eq_some.mp first
  obtain ⟨rfl, small⟩ := checkedMul_eq_some.mp second
  exact ⟨rfl, small⟩

/-- The conversion of a file is safe: it does not panic, and what it returns is
canonical. -/
def Safe (path : String) (channels rate : Nat) (decoded : List K) : Prop :=
  convert path channels rate decoded ≠ .error .panicked ∧
    ∀ out, convert path channels rate decoded = .ok out → Canonical channels rate decoded out

omit [Field K] [IsStrictOrderedRing K] [FloorSemiring K] in
/-- An error that is not a panic is safe. -/
theorem safe_of_error {channels rate : Nat} {decoded : List K} {error : LoadFault}
    (reported : error ≠ .panicked) :
    (.error error : Except LoadFault (List K)) ≠ .error .panicked ∧
      ∀ out, (.error error : Except LoadFault (List K)) = .ok out →
        Canonical channels rate decoded out := by
  constructor
  · intro same
    exact reported (Except.error.inj same)
  · intro out done
    cases done

omit [Field K] [IsStrictOrderedRing K] [FloorSemiring K] in
/-- What is returned does not panic, so it is safe when it is canonical. -/
theorem safe_of_ok {channels rate : Nat} {decoded out : List K}
    (canonical : Canonical channels rate decoded out) :
    (.ok out : Except LoadFault (List K)) ≠ .error .panicked ∧
      ∀ out', (.ok out : Except LoadFault (List K)) = .ok out' →
        Canonical channels rate decoded out' := by
  constructor
  · intro same
    cases same
  · intro out' same
    cases same
    exact canonical

omit [Field K] [LinearOrder K] [IsStrictOrderedRing K] [FloorSemiring K] in
/-- Samples within the limit are all taken. -/
theorem take_eq_self {channels rate limit : Nat} {decoded : List K}
    (within : maxRawSamples channels rate = some limit)
    (few : (decoded.take (saturatingAdd usizeMax limit 1)).length ≤ limit) :
    decoded.take (saturatingAdd usizeMax limit 1) = decoded := by
  obtain ⟨rfl, small⟩ := maxRawSamples_eq_some within
  have even : rate * maxAudioDurationSecs * channels =
      2 * (rate * 15 * channels) := by rw [maxAudioDurationSecs]; ring
  have odd : usizeMax = 2 * 9223372036854775807 + 1 := by decide
  have room : rate * maxAudioDurationSecs * channels + 1 ≤ usizeMax := by omega
  rw [saturatingAdd_of_le room] at few ⊢
  rw [List.length_take] at few
  exact List.take_of_length_le (by omega)

/-- **Loading is safe exactly** unless the file is stereo at the canonical rate,
within the limit, and ends inside a frame. -/
theorem convert_safe_iff (path : String) (channels rate : Nat) (decoded : List K) :
    Safe path channels rate decoded ↔
      ¬ (Incomplete channels rate decoded ∧
        decoded.length ≤ rate * maxAudioDurationSecs * channels) := by
  unfold Safe convert
  by_cases valid : channels ≠ 0 ∧ rate ≠ 0
  · obtain ⟨some_channel, positive⟩ := valid
    have checked : (decide (channels ≠ 0) && decide (rate ≠ 0)) = true := by
      simp [some_channel, positive]
    rw [ensure, if_pos checked, ok_bind]
    cases within : maxRawSamples channels rate with
    | none =>
        refine iff_of_true (safe_of_error (by intro same; cases same)) ?_
        rintro ⟨⟨rfl, rfl, -⟩, -⟩
        revert within
        decide
    | some limit =>
        rw [orError, ok_bind, takeSamples]
        obtain ⟨same, -⟩ := maxRawSamples_eq_some within
        by_cases few : (decoded.take (saturatingAdd usizeMax limit 1)).length ≤ limit
        · have all := take_eq_self within few
          rw [all] at few ⊢
          rw [if_neg (Nat.not_lt.mpr few), ok_bind]
          rw [same] at few
          cases nothing : decoded.isEmpty with
          | true =>
              rw [if_pos rfl, List.isEmpty_iff.mp nothing]
              have zero : roundedFrames 0 rate sampleRate = 0 := by norm_num [roundedFrames]
              have none_left : ([] : List K).length / 2 = 0 := by
                rw [List.length_nil, Nat.zero_div]
              have canonical : Canonical channels rate ([] : List K) [] := by
                refine ⟨rfl, none_left.le.trans (Nat.zero_le _), ?_, ?_⟩
                · rw [List.length_nil, Nat.zero_div, Nat.zero_div, zero]
                · intro index side sample _ found
                  cases found
              refine iff_of_true (safe_of_ok canonical) ?_
              rintro ⟨⟨-, -, odd⟩, -⟩
              cases odd
          | false =>
              rw [if_neg Bool.false_ne_true]
              obtain ⟨panics, returns⟩ := convertSamples_eq
                (Nat.pos_of_ne_zero some_channel) (Nat.pos_of_ne_zero positive) few
              by_cases incomplete : Incomplete channels rate decoded
              · refine iff_of_false (fun safe => safe.1 (panics incomplete)) ?_
                exact not_not.mpr ⟨incomplete, few⟩
              · obtain ⟨out, done, canonical⟩ := returns incomplete
                refine iff_of_true ?_ fun both => incomplete both.1
                rw [done]
                exact safe_of_ok canonical
        · rw [if_pos (Nat.not_le.mp few)]
          refine iff_of_true (safe_of_error (by intro same; cases same)) ?_
          rintro ⟨-, bounded⟩
          rw [List.length_take] at few
          omega
  · have checked : ¬ (decide (channels ≠ 0) && decide (rate ≠ 0)) = true := by
      simpa using valid
    rw [ensure, if_neg checked]
    refine iff_of_true (safe_of_error (by intro same; cases same)) ?_
    rintro ⟨⟨rfl, rfl, -⟩, -⟩
    exact valid ⟨by decide, by decide⟩

theorem convert_safe_iff_half_frame :
    Safe "half.wav" 2 44100 [(0 : ℚ)] ↔
      ¬ (Incomplete 2 44100 [(0 : ℚ)] ∧
        [(0 : ℚ)].length ≤ 44100 * maxAudioDurationSecs * 2) :=
  convert_safe_iff "half.wav" 2 44100 [(0 : ℚ)]

/-- One sample of a stereo file at the canonical rate. -/
theorem convert_half_frame_panics :
    convert "half.wav" 2 44100 [(0 : ℚ)] = .error .panicked := by
  have limit : maxRawSamples 2 44100 = some 2646000 := by decide
  rw [convert, limit]
  rfl

end Loading

end Omnivox.Audio
