import Omnivox.Audio.AudioBuffer
import Omnivox.Audio.ToneParameters
import Omnivox.Foundations.Harmonics

/-!
# Oscillators of shaped tones

An oscillator adds the harmonics of a waveform that stay below half the sample
rate, up to a fixed number of them. Sine, triangle and square waves have odd
harmonics only; pulse and sawtooth have all. The weights of a waveform share one
factor, which keeps the sum of their amplitudes within one whatever the frequency.

`wave` says what a waveform is, in pieces, and `partialSum` is what its Fourier
coefficients give over some harmonics. Both oscillators compute such a sum, which
stays within one (`Oscillator.samplePhase_spec`, `ExtendedOscillator.sample_spec`).

Samples are real numbers.
-/

set_option autoImplicit false

namespace Omnivox.Audio

open Foundations Real

/-! ## The two oscillators -/

/-- What stops a tone: an error of its own, or a division by zero or a difference below
zero, which the source does not check for. -/
inductive ToneFailure where
  | audio (error : AudioError)
  | divisionByZero
  | underflow
  deriving Repr, DecidableEq

/-- A quotient, where the divisor is not a constant of the source. -/
noncomputable def quotient (a b : ℝ) : Except ToneFailure ℝ :=
  if b = 0 then .error .divisionByZero else .ok (a / b)

def difference (a b : Nat) : Except ToneFailure Nat :=
  if a < b then .error .underflow else .ok (a - b)

theorem quotient_ok {a b : ℝ} (nonzero : b ≠ 0) : quotient a b = .ok (a / b) := if_neg nonzero

theorem difference_ok {a b : Nat} (le : b ≤ a) : difference a b = .ok (a - b) :=
  if_neg (Nat.not_lt.mpr le)

/-- Harmonics stay below it. -/
noncomputable def halfSampleRate : ℝ := sampleRate / 2.0

theorem halfSampleRate_eq : halfSampleRate = 22050 := by norm_num [halfSampleRate, sampleRate]

/-- The numbers of the formulas are written as in the source. -/
theorem decimals : (2.0 : ℝ) = 2 ∧ (3.0 : ℝ) = 3 ∧ (4.0 : ℝ) = 4 ∧ (8.0 : ℝ) = 8 := by
  norm_num

theorem half_eq : (0.5 : ℝ) = 1 / 2 := by norm_num

def maxHarmonics : Nat := 32

def maxExtendedHarmonics : Nat := 64

/-- The weights are those of the array that are counted. -/
structure Oscillator where
  frequency : ℝ
  weights : List ℝ

namespace Oscillator

/-- The number of the harmonic at an index. -/
def harmonic (k : Nat) : Nat := 2 * k + 1

noncomputable def squareBound : ℝ :=
  ((List.range maxHarmonics).map fun k => 1 / (harmonic k : ℝ)).sum

/-- The weight at an index, or nothing where the loop breaks. The divisors are positive
constants. -/
noncomputable def weight (waveform : Waveform) (k : Nat) : Option ℝ :=
  match waveform with
  | .sine => if k = 0 then some 1 else none
  | .pulse | .sawtooth => none
  | .square => some (1 / (squareBound * harmonic k))
  | .triangle =>
      some ((if k % 2 = 0 then 1 else -1) * 8.0 / (π * π * harmonic k * harmonic k))

/-- The loop over the indices, which breaks at the first harmonic that is too high. -/
noncomputable def weightsFrom (waveform : Waveform) (frequency : ℝ) : List Nat → List ℝ
  | [] => []
  | k :: rest =>
      if halfSampleRate ≤ harmonic k * frequency then []
      else
        match weight waveform k with
        | none => []
        | some value => value :: weightsFrom waveform frequency rest

noncomputable def new (waveform : Waveform) (frequency : ℝ) : Oscillator where
  frequency := frequency
  weights := weightsFrom waveform frequency (List.range maxHarmonics)

noncomputable def samplePhase (oscillator : Oscillator) (phase : ℝ) : ℝ :=
  (oscillator.weights.foldl
    (addHarmonic (fun weight point => weight * point.1) (sin (2.0 * phase), cos (2.0 * phase)))
    (0, (sin phase, cos phase))).1

noncomputable def sample (oscillator : Oscillator) (frame : Nat) : ℝ :=
  oscillator.samplePhase (2.0 * π * oscillator.frequency * frame / sampleRate)

end Oscillator

/-- The sine and the cosine weights of the harmonics that are counted. -/
structure ExtendedOscillator where
  weights : List (ℝ × ℝ)

namespace ExtendedOscillator

/-- The sum of the amplitudes of all harmonics that may be used, before they are scaled. -/
noncomputable def bound (waveform : Waveform) (width : ℝ) : ℝ :=
  ((List.range' 1 maxExtendedHarmonics).map fun n =>
    if waveform = .pulse then |sin (π * n * width)| / n else 1 / (n : ℝ)).sum

noncomputable def coefficient (waveform : Waveform) (width : ℝ) (n : Nat) :
    Except ToneFailure (ℝ × ℝ) :=
  if waveform = .pulse then do
    let cosine ← quotient (sin (2.0 * π * n * width)) (2.0 * n * bound waveform width)
    let sine ← quotient (1 - cos (2.0 * π * n * width)) (2.0 * n * bound waveform width)
    .ok (sine, cosine)
  else do
    let sine ← quotient (-1) (n * bound waveform width)
    .ok (sine, 0)

noncomputable def new (waveform : Waveform) (width maximumFrequency : ℝ) :
    Except ToneFailure ExtendedOscillator := do
  let weights ← ((List.range' 1 maxExtendedHarmonics).takeWhile fun n : Nat =>
    decide ((n : ℝ) * maximumFrequency < halfSampleRate)).mapM (coefficient waveform width)
  .ok ⟨weights⟩

noncomputable def sample (oscillator : ExtendedOscillator) (phase : ℝ) : ℝ :=
  (oscillator.weights.foldl
    (addHarmonic (fun weight point => weight.1 * point.1 + weight.2 * point.2)
      (sin phase, cos phase))
    (0, (sin phase, cos phase))).1

end ExtendedOscillator

/-! ## The waveforms -/

namespace Waveform

/-- The pieces of a waveform over one period, from -1 to 1. A sine has none. -/
noncomputable def pieces (width : ℝ) : Waveform → List Piece
  | .sine => []
  | .triangle =>
      [⟨0, π / 2.0, 0, 2.0 / π⟩, ⟨π / 2.0, 3.0 * π / 2.0, 2.0, -2.0 / π⟩,
        ⟨3.0 * π / 2.0, 2.0 * π, -4.0, 2.0 / π⟩]
  | .square => [⟨0, π, 1, 0⟩, ⟨π, 2.0 * π, -1, 0⟩]
  | .pulse => [⟨0, 2.0 * π * width, 1, 0⟩, ⟨2.0 * π * width, 2.0 * π, -1, 0⟩]
  | .sawtooth => [⟨0, 2.0 * π, -1, 1 / π⟩]

/-- The Fourier coefficients of a waveform at a harmonic: of its sine, then of its
cosine. -/
noncomputable def fourier (width : ℝ) (waveform : Waveform) (n : ℕ) : ℝ × ℝ :=
  match waveform with
  | .sine => (if n = 1 then 1 else 0, 0)
  | other =>
      (((other.pieces width).map (·.sineIntegral n)).sum / π,
        ((other.pieces width).map (·.cosineIntegral n)).sum / π)

/-- The factor that is shared by the harmonics of a waveform. -/
noncomputable def normalisation (width : ℝ) : Waveform → ℝ
  | .sine | .triangle => 1
  | .square => π / (4.0 * Oscillator.squareBound)
  | .pulse => π / (4.0 * ExtendedOscillator.bound .pulse width)
  | .sawtooth => π / (2.0 * ExtendedOscillator.bound .sawtooth width)

/-- The highest harmonic that is used. -/
def highestHarmonic : Waveform → ℕ
  | .sine => 1
  | .triangle | .square => Oscillator.harmonic (maxHarmonics - 1)
  | .pulse | .sawtooth => maxExtendedHarmonics

/-- **The partial sum of a waveform** over some harmonics, at its volume. -/
noncomputable def partialSum (width : ℝ) (waveform : Waveform) (harmonics : Finset ℕ)
    (phase : ℝ) : ℝ :=
  waveform.normalisation width *
    ∑ n ∈ harmonics,
      ((waveform.fourier width n).1 * sin (n * phase) +
        (waveform.fourier width n).2 * cos (n * phase))

/-- The harmonics that stay below half the sample rate. -/
noncomputable def harmonicsBelow (waveform : Waveform) (frequency : ℝ) : Finset ℕ :=
  (Finset.Icc 1 waveform.highestHarmonic).filter fun n => n * frequency < halfSampleRate

end Waveform

/-! ## The coefficients -/

namespace Waveform

variable {n : ℕ} (width : ℝ)

theorem sin_two_pi_mul (n : ℕ) : sin (n * (2 * π)) = 0 := by
  have same : (n : ℝ) * (2 * π) = (2 * n : ℕ) * π := by
    push_cast
    ring
  rw [same, sin_nat_mul_pi]

theorem sin_three_halves (n : ℕ) : sin (n * (3 * π / 2)) = -sin (n * (π / 2)) := by
  have same : (n : ℝ) * (3 * π / 2) = n * (2 * π) - n * (π / 2) := by ring
  rw [same, sin_sub, sin_two_pi_mul, cos_nat_mul_two_pi]
  ring

theorem cos_three_halves (n : ℕ) : cos (n * (3 * π / 2)) = cos (n * (π / 2)) := by
  have same : (n : ℝ) * (3 * π / 2) = n * (2 * π) - n * (π / 2) := by ring
  rw [same, cos_sub, sin_two_pi_mul, cos_nat_mul_two_pi]
  ring

theorem fourier_triangle (positive : 0 < n) :
    fourier width .triangle n = (8 * sin (n * (π / 2)) / (π ^ 2 * n ^ 2), 0) := by
  have number : (n : ℝ) ≠ 0 := Nat.cast_ne_zero.mpr positive.ne'
  have pi := pi_ne_zero
  simp only [fourier, pieces, decimals, List.map_cons, List.map_nil, List.sum_cons, List.sum_nil,
    Piece.sineIntegral_eq _ positive, Piece.cosineIntegral_eq _ positive, Piece.sinePrimitive,
    Piece.cosinePrimitive, sin_two_pi_mul, sin_three_halves, cos_three_halves,
    cos_nat_mul_two_pi, mul_zero, sin_zero, cos_zero, Prod.mk.injEq]
  constructor
  · field_simp
    ring
  · field_simp
    ring

theorem fourier_square (positive : 0 < n) :
    fourier width .square n = (2 * (1 - cos (n * π)) / (π * n), 0) := by
  have number : (n : ℝ) ≠ 0 := Nat.cast_ne_zero.mpr positive.ne'
  have pi := pi_ne_zero
  simp only [fourier, pieces, decimals, List.map_cons, List.map_nil, List.sum_cons, List.sum_nil,
    Piece.sineIntegral_eq _ positive, Piece.cosineIntegral_eq _ positive, Piece.sinePrimitive,
    Piece.cosinePrimitive, sin_two_pi_mul, cos_nat_mul_two_pi, sin_nat_mul_pi, mul_zero, sin_zero,
    cos_zero, Prod.mk.injEq]
  constructor
  · field_simp
    ring
  · field_simp
    ring

theorem fourier_pulse (positive : 0 < n) :
    fourier width .pulse n = (2 * (1 - cos (n * (2 * π * width))) / (π * n),
      2 * sin (n * (2 * π * width)) / (π * n)) := by
  have number : (n : ℝ) ≠ 0 := Nat.cast_ne_zero.mpr positive.ne'
  have pi := pi_ne_zero
  simp only [fourier, pieces, decimals, List.map_cons, List.map_nil, List.sum_cons, List.sum_nil,
    Piece.sineIntegral_eq _ positive, Piece.cosineIntegral_eq _ positive, Piece.sinePrimitive,
    Piece.cosinePrimitive, sin_two_pi_mul, cos_nat_mul_two_pi, mul_zero, sin_zero, cos_zero,
    Prod.mk.injEq]
  constructor
  · field_simp
    ring
  · field_simp
    ring

theorem fourier_sawtooth (positive : 0 < n) :
    fourier width .sawtooth n = (-2 / (π * n), 0) := by
  have number : (n : ℝ) ≠ 0 := Nat.cast_ne_zero.mpr positive.ne'
  have pi := pi_ne_zero
  simp only [fourier, pieces, decimals, List.map_cons, List.map_nil, List.sum_cons, List.sum_nil,
    Piece.sineIntegral_eq _ positive, Piece.cosineIntegral_eq _ positive, Piece.sinePrimitive,
    Piece.cosinePrimitive, sin_two_pi_mul, cos_nat_mul_two_pi, mul_zero, sin_zero, cos_zero,
    Prod.mk.injEq]
  constructor
  · field_simp
    ring
  · field_simp
    ring

end Waveform

/-! ## Odd harmonics -/

namespace Oscillator

/-- A waveform whose loop has a weight at every index. -/
theorem weightsFrom_eq {waveform : Waveform} {value : Nat → ℝ}
    (weighted : ∀ k, weight waveform k = some (value k)) (frequency : ℝ) (indices : List Nat) :
    weightsFrom waveform frequency indices =
      (indices.takeWhile fun k => decide (harmonic k * frequency < halfSampleRate)).map value := by
  induction indices with
  | nil => rfl
  | cons k rest ih =>
      rw [weightsFrom]
      by_cases high : halfSampleRate ≤ harmonic k * frequency
      · rw [if_pos high, List.takeWhile_cons_of_neg (by simpa using high)]
        rfl
      · rw [if_neg high, weighted, List.takeWhile_cons_of_pos (by simpa using high), ih]
        rfl

/-- **What an oscillator adds**, for a waveform with a weight at every index. -/
theorem samplePhase_sum {waveform : Waveform} {value : Nat → ℝ}
    (weighted : ∀ k, weight waveform k = some (value k)) {frequency : ℝ} (positive : 0 < frequency)
    (phase : ℝ) :
    ∃ kept ≤ maxHarmonics,
      (∀ k < maxHarmonics, harmonic k * frequency < halfSampleRate ↔ k < kept) ∧
        (new waveform frequency).samplePhase phase =
          ∑ k ∈ Finset.range kept, value k * sin (harmonic k * phase) := by
  have down : ∀ k, decide ((harmonic (k + 1) : ℝ) * frequency < halfSampleRate) = true →
      decide ((harmonic k : ℝ) * frequency < halfSampleRate) = true := by
    intro k fits
    rw [decide_eq_true_eq] at fits ⊢
    refine lt_of_le_of_lt (mul_le_mul_of_nonneg_right ?_ positive.le) fits
    exact_mod_cast Nat.succ_le_succ (Nat.mul_le_mul_left 2 (Nat.le_succ k))
  obtain ⟨kept, le, first, fits⟩ := takeWhile_range'
    (fun k => decide ((harmonic k : ℝ) * frequency < halfSampleRate)) down 0 maxHarmonics
  have angle : ∀ k : ℕ, phase + k * (2 * phase) = harmonic k * phase := by
    intro k
    rw [harmonic]
    push_cast
    ring
  refine ⟨kept, le, ?_, ?_⟩
  · intro k bound
    have same := fits k bound
    rwa [Nat.zero_add, decide_eq_true_eq] at same
  · rw [samplePhase, new, weightsFrom_eq weighted, List.range_eq_range', first, decimals.1]
    rw [foldl_turn, zero_add, sum_zipIdx_range']
    refine Finset.sum_congr rfl fun k _ => ?_
    rw [angle, Nat.zero_add]

/-- A sum over the indices that are kept, as one over the harmonics of the waveform. -/
theorem sum_harmonicsBelow {waveform : Waveform}
    (highest : waveform.highestHarmonic = harmonic (maxHarmonics - 1)) {frequency : ℝ} {kept : ℕ}
    (le : kept ≤ maxHarmonics)
    (fits : ∀ k < maxHarmonics, harmonic k * frequency < halfSampleRate ↔ k < kept) (term : ℕ → ℝ)
    (even : ∀ n, term (2 * n + 2) = 0) :
    ∑ n ∈ waveform.harmonicsBelow frequency, term n =
      ∑ k ∈ Finset.range kept, term (harmonic k) := by
  refine sum_progression term (by decide) ?_ ?_
  · intro k bound
    refine Finset.mem_filter.mpr ⟨Finset.mem_Icc.mpr ⟨Nat.succ_pos _, ?_⟩, ?_⟩
    · rw [highest, harmonic]
      omega
    · exact (fits k (by omega)).mpr bound
  · intro n member other
    obtain ⟨inside, below⟩ := Finset.mem_filter.mp member
    obtain ⟨low, high⟩ := Finset.mem_Icc.mp inside
    rw [highest, harmonic] at high
    rcases Nat.even_or_odd' n with ⟨m, rfl | rfl⟩
    · obtain ⟨m, rfl⟩ := Nat.exists_eq_succ_of_ne_zero (show m ≠ 0 by omega)
      exact even m
    · have counted : m < maxHarmonics := by
        unfold maxHarmonics at high ⊢
        omega
      exact absurd rfl (other m ((fits m counted).mp below))

theorem squareBound_pos : 0 < squareBound := by
  refine List.sum_pos _ ?_ (by simp [maxHarmonics])
  intro value member
  obtain ⟨k, -, rfl⟩ := List.mem_map.mp member
  exact one_div_pos.mpr (Nat.cast_pos.mpr (Nat.succ_pos _))

theorem harmonic_pos (k : Nat) : 0 < harmonic k := Nat.succ_pos _

theorem cast_harmonic_pos (k : Nat) : (0 : ℝ) < harmonic k := Nat.cast_pos.mpr (harmonic_pos k)

theorem squareBound_eq :
    squareBound = ∑ k ∈ Finset.range maxHarmonics, 1 / (harmonic k : ℝ) := by
  rfl

/-- The sign of a harmonic of a triangle wave. -/
theorem sin_harmonic (k : Nat) :
    sin ((harmonic k : ℝ) * (π / 2)) = if k % 2 = 0 then 1 else -1 := by
  have angle : (harmonic k : ℝ) * (π / 2) = k * π + π / 2 := by
    rw [harmonic]
    push_cast
    ring
  rw [angle, sin_add_pi_div_two, cos_nat_mul_pi]
  rcases Nat.mod_two_eq_zero_or_one k with even | odd
  · rw [if_pos even, (Nat.even_iff.mpr even).neg_one_pow]
  · rw [if_neg (by omega), (Nat.odd_iff.mpr odd).neg_one_pow]

/-- **A partial sum within one**, for a waveform of odd harmonics. -/
theorem samplePhase_spec {waveform : Waveform} {value : Nat → ℝ} (width : ℝ)
    (weighted : ∀ k, weight waveform k = some (value k))
    (highest : waveform.highestHarmonic = harmonic (maxHarmonics - 1))
    (sine : ∀ k, waveform.normalisation width * (waveform.fourier width (harmonic k)).1 = value k)
    (even : ∀ n, (waveform.fourier width (2 * n + 2)).1 = 0)
    (cosine : ∀ n, (waveform.fourier width (n + 1)).2 = 0)
    (total : ∑ k ∈ Finset.range maxHarmonics, |value k| ≤ 1)
    {frequency : ℝ} (positive : 0 < frequency) (phase : ℝ) :
    (new waveform frequency).samplePhase phase =
        waveform.partialSum width (waveform.harmonicsBelow frequency) phase ∧
      |(new waveform frequency).samplePhase phase| ≤ 1 := by
  obtain ⟨kept, le, fits, sampled⟩ := samplePhase_sum weighted positive phase
  have vanishes : ∀ n, (waveform.fourier width (2 * n + 2)).1 * sin ((2 * n + 2 : ℕ) * phase) +
      (waveform.fourier width (2 * n + 2)).2 * cos ((2 * n + 2 : ℕ) * phase) = 0 := by
    intro n
    rw [even, cosine (2 * n + 1), zero_mul, zero_mul, add_zero]
  constructor
  · rw [sampled, Waveform.partialSum, sum_harmonicsBelow highest le fits _ vanishes,
      Finset.mul_sum]
    refine Finset.sum_congr rfl fun k _ => ?_
    have plain : (waveform.fourier width (harmonic k)).2 = 0 := cosine (2 * k)
    rw [← sine k, plain]
    ring
  · rw [sampled]
    refine abs_sum_le_one le ?_ (fun k => abs_nonneg (value k)) total
    intro k _
    rw [abs_mul]
    exact mul_le_of_le_one_right (abs_nonneg _) (abs_sin_le_one _)

theorem square_spec (width : ℝ) {frequency : ℝ} (positive : 0 < frequency) (phase : ℝ) :
    (new .square frequency).samplePhase phase =
        Waveform.square.partialSum width (Waveform.square.harmonicsBelow frequency) phase ∧
      |(new .square frequency).samplePhase phase| ≤ 1 := by
  have bound := squareBound_pos
  refine samplePhase_spec width (fun _ => rfl) rfl ?_ ?_ ?_ ?_ positive phase
  · intro k
    have number := cast_harmonic_pos k
    have angle : (harmonic k : ℝ) * π = k * (2 * π) + π := by
      rw [harmonic]
      push_cast
      ring
    rw [Waveform.fourier_square width (harmonic_pos k), Waveform.normalisation, angle, cos_add_pi,
      cos_nat_mul_two_pi, decimals.2.2.1]
    have pi := pi_ne_zero
    field_simp
    ring
  · intro n
    have angle : ((2 * n + 2 : ℕ) : ℝ) * π = (n + 1 : ℕ) * (2 * π) := by
      push_cast
      ring
    rw [Waveform.fourier_square width (Nat.succ_pos _), angle, cos_nat_mul_two_pi]
    simp
  · intro n
    rw [Waveform.fourier_square width (Nat.succ_pos _)]
  · have scaled : ∀ k, |1 / (squareBound * harmonic k)| = 1 / squareBound * (1 / harmonic k) := by
      intro k
      rw [abs_of_pos (one_div_pos.mpr (mul_pos bound (cast_harmonic_pos k))), one_div_mul_one_div]
    rw [Finset.sum_congr rfl fun k _ => scaled k, ← Finset.mul_sum, ← squareBound_eq,
      one_div_mul_cancel bound.ne']

/-- The odd reciprocal squares stay below π² / 8. -/
theorem sum_harmonic_sq_le :
    ∑ k ∈ Finset.range maxHarmonics, 1 / ((harmonic k : ℝ) * harmonic k) ≤ π * π / 8 := by
  have rational : ∑ k ∈ Finset.range maxHarmonics, 1 / ((harmonic k : ℚ) * harmonic k) ≤
      123 / 100 := by
    decide +kernel
  have real : ∑ k ∈ Finset.range maxHarmonics, 1 / ((harmonic k : ℝ) * harmonic k) ≤
      123 / 100 := by
    have cast := (Rat.cast_le (K := ℝ)).mpr rational
    push_cast at cast
    exact cast
  nlinarith [pi_gt_d2]

theorem triangle_spec (width : ℝ) {frequency : ℝ} (positive : 0 < frequency) (phase : ℝ) :
    (new .triangle frequency).samplePhase phase =
        Waveform.triangle.partialSum width (Waveform.triangle.harmonicsBelow frequency) phase ∧
      |(new .triangle frequency).samplePhase phase| ≤ 1 := by
  have pi := pi_pos
  refine samplePhase_spec width (fun _ => rfl) rfl ?_ ?_ ?_ ?_ positive phase
  · intro k
    have number := cast_harmonic_pos k
    rw [Waveform.fourier_triangle width (harmonic_pos k), Waveform.normalisation, sin_harmonic,
      decimals.2.2.2]
    field_simp
  · intro n
    have angle : ((2 * n + 2 : ℕ) : ℝ) * (π / 2) = (n + 1 : ℕ) * π := by
      push_cast
      ring
    rw [Waveform.fourier_triangle width (Nat.succ_pos _), angle, sin_nat_mul_pi]
    simp
  · intro n
    rw [Waveform.fourier_triangle width (Nat.succ_pos _)]
  · have scaled : ∀ k, |(if k % 2 = 0 then (1 : ℝ) else -1) * 8.0 /
        (π * π * harmonic k * harmonic k)| =
          8 / (π * π) * (1 / ((harmonic k : ℝ) * harmonic k)) := by
      intro k
      have number := cast_harmonic_pos k
      have sign : |(if k % 2 = 0 then (1 : ℝ) else -1)| = 1 := by
        split <;> simp
      rw [decimals.2.2.2, abs_div, abs_mul, sign, abs_of_pos (show (0 : ℝ) < 8 by norm_num),
        abs_of_pos (by positivity : 0 < π * π * harmonic k * harmonic k)]
      field_simp
    rw [Finset.sum_congr rfl fun k _ => scaled k, ← Finset.mul_sum]
    calc 8 / (π * π) * ∑ k ∈ Finset.range maxHarmonics, 1 / ((harmonic k : ℝ) * harmonic k)
        ≤ 8 / (π * π) * (π * π / 8) :=
          mul_le_mul_of_nonneg_left sum_harmonic_sq_le (by positivity)
      _ = 1 := by field_simp

/-- A sine is its only harmonic. -/
theorem sine_spec (width : ℝ) (frequency phase : ℝ) :
    (new .sine frequency).samplePhase phase =
        Waveform.sine.partialSum width (Waveform.sine.harmonicsBelow frequency) phase ∧
      |(new .sine frequency).samplePhase phase| ≤ 1 := by
  have indices : List.range maxHarmonics = 0 :: List.range' 1 31 := rfl
  have second : List.range' 1 31 = 1 :: List.range' 2 30 := rfl
  have only : Finset.Icc 1 Waveform.sine.highestHarmonic = {1} := rfl
  have number : harmonic 0 = 1 := rfl
  unfold samplePhase new Waveform.partialSum Waveform.harmonicsBelow
  rw [indices, weightsFrom, number, only, Finset.sum_filter, Finset.sum_singleton]
  by_cases high : halfSampleRate ≤ (1 : ℕ) * frequency
  · rw [if_pos high, if_neg (not_lt.mpr high)]
    simp
  · have rest : weightsFrom .sine frequency (List.range' 1 31) = [] := by
      rw [second, weightsFrom]
      split
      · rfl
      · rfl
    rw [if_neg high, if_pos (not_le.mp high)]
    simp only [weight, if_true, rest, List.foldl_cons, List.foldl_nil, addHarmonic,
      Waveform.normalisation, Waveform.fourier]
    constructor
    · simp
    · simpa using abs_sin_le_one phase

end Oscillator

/-! ## All harmonics -/

namespace ExtendedOscillator

/-- The amplitude of a harmonic before it is scaled. -/
noncomputable def amplitude (waveform : Waveform) (width : ℝ) (n : ℕ) : ℝ :=
  if waveform = .pulse then |sin (π * n * width)| / n else 1 / (n : ℝ)

theorem amplitude_nonneg (waveform : Waveform) (width : ℝ) (n : ℕ) :
    0 ≤ amplitude waveform width n := by
  unfold amplitude
  split <;> positivity

theorem bound_eq (waveform : Waveform) (width : ℝ) :
    bound waveform width =
      ∑ k ∈ Finset.range maxExtendedHarmonics, amplitude waveform width (k + 1) := by
  have summed := sum_zipIdx_range' (amplitude waveform width) Prod.fst 1 maxExtendedHarmonics
  rw [List.zipIdx_map_fst] at summed
  rw [bound]
  refine summed.trans (Finset.sum_congr rfl fun k _ => ?_)
  rw [Nat.add_comm]

/-- **The bound is not zero**, as the fundamental always has an amplitude. -/
theorem bound_pos {waveform : Waveform} {width : ℝ} (low : 0 < width) (high : width < 1) :
    0 < bound waveform width := by
  rw [bound_eq]
  refine Finset.sum_pos' (fun k _ => amplitude_nonneg _ _ _)
    ⟨0, Finset.mem_range.mpr (by decide), ?_⟩
  unfold amplitude
  split
  · have inside : 0 < sin (π * (0 + 1 : ℕ) * width) := by
      rw [zero_add, Nat.cast_one, mul_one]
      exact sin_pos_of_pos_of_lt_pi (mul_pos pi_pos low) (mul_lt_of_lt_one_right pi_pos high)
    rw [abs_of_pos inside]
    exact div_pos inside (by norm_num)
  · norm_num

/-- The weights of a harmonic. -/
noncomputable def scaledWeights (waveform : Waveform) (width : ℝ) (n : ℕ) : ℝ × ℝ :=
  if waveform = .pulse then
    ((1 - cos (2.0 * π * n * width)) / (2.0 * n * bound waveform width),
      sin (2.0 * π * n * width) / (2.0 * n * bound waveform width))
  else (-1 / (n * bound waveform width), 0)

theorem coefficient_ok {waveform : Waveform} {width : ℝ} (bounded : 0 < bound waveform width)
    {n : ℕ} (positive : 0 < n) :
    coefficient waveform width n = .ok (scaledWeights waveform width n) := by
  have number : (0 : ℝ) < n := Nat.cast_pos.mpr positive
  have double : 2.0 * (n : ℝ) * bound waveform width ≠ 0 := by
    rw [decimals.1]
    positivity
  have single : (n : ℝ) * bound waveform width ≠ 0 := by positivity
  unfold coefficient scaledWeights
  split
  · rw [quotient_ok double, quotient_ok double]
    rfl
  · rw [quotient_ok single]
    rfl

/-- **The weights are those of the waveform**, at its volume. -/
theorem scaledWeights_eq {waveform : Waveform} (full : waveform = .pulse ∨ waveform = .sawtooth)
    {width : ℝ} (bounded : 0 < bound waveform width) {n : ℕ} (positive : 0 < n) :
    scaledWeights waveform width n =
      (waveform.normalisation width * (waveform.fourier width n).1,
        waveform.normalisation width * (waveform.fourier width n).2) := by
  have number : (n : ℝ) ≠ 0 := Nat.cast_ne_zero.mpr positive.ne'
  have pi := pi_ne_zero
  have angle : 2 * π * n * width = n * (2 * π * width) := by ring
  rcases full with rfl | rfl
  · rw [Waveform.fourier_pulse width positive, Waveform.normalisation, scaledWeights, if_pos rfl,
      decimals.1, decimals.2.2.1, angle]
    ext
    · field_simp
      ring
    · field_simp
      ring
  · rw [Waveform.fourier_sawtooth width positive, Waveform.normalisation, scaledWeights,
      if_neg (by decide), decimals.1]
    ext
    · field_simp
    · simp

/-- A harmonic stays within its amplitude. -/
theorem abs_harmonic_le {waveform : Waveform} {width : ℝ} (bounded : 0 < bound waveform width)
    {n : ℕ} (positive : 0 < n) (angle : ℝ) :
    |(scaledWeights waveform width n).1 * sin angle +
        (scaledWeights waveform width n).2 * cos angle| ≤
      amplitude waveform width n / bound waveform width := by
  have number : (0 : ℝ) < n := Nat.cast_pos.mpr positive
  refine abs_sine_add_cosine_le (div_nonneg (amplitude_nonneg _ _ _) bounded.le) (le_of_eq ?_) angle
  unfold scaledWeights amplitude
  rw [decimals.1]
  split
  · have double : 2 * π * n * width = 2 * (π * n * width) := by ring
    have square := sin_sq_add_cos_sq (π * n * width)
    rw [div_pow _ (bound waveform width), div_pow _ (n : ℝ), sq_abs, double, cos_two_mul,
      sin_two_mul]
    field_simp
    have rest : cos (π * n * width) ^ 2 = 1 - sin (π * n * width) ^ 2 := by linarith
    ring_nf
    ring_nf at rest
    nlinarith
  · field_simp
    ring

theorem sample_spec {waveform : Waveform} (full : waveform = .pulse ∨ waveform = .sawtooth)
    {width : ℝ} (low : 0 < width) (high : width < 1) {frequency : ℝ} (positive : 0 < frequency) :
    ∃ oscillator, new waveform width frequency = .ok oscillator ∧ ∀ phase,
      oscillator.sample phase =
          waveform.partialSum width (waveform.harmonicsBelow frequency) phase ∧
        |oscillator.sample phase| ≤ 1 := by
  have bounded : 0 < bound waveform width := bound_pos low high
  have down : ∀ n : ℕ, decide (((n + 1 : ℕ) : ℝ) * frequency < halfSampleRate) = true →
      decide ((n : ℝ) * frequency < halfSampleRate) = true := by
    intro n fits
    rw [decide_eq_true_eq] at fits ⊢
    refine lt_of_le_of_lt (mul_le_mul_of_nonneg_right ?_ positive.le) fits
    exact_mod_cast Nat.le_succ n
  obtain ⟨kept, le, first, fits⟩ := takeWhile_range'
    (fun n : ℕ => decide ((n : ℝ) * frequency < halfSampleRate)) down 1 maxExtendedHarmonics
  have weighed : (List.range' 1 kept).mapM (coefficient waveform width) =
      .ok ((List.range' 1 kept).map (scaledWeights waveform width)) := by
    refine mapM_ok fun n member => coefficient_ok bounded ?_
    exact (List.mem_range'_1.mp member).1
  have highest : waveform.highestHarmonic = maxExtendedHarmonics := by
    rcases full with rfl | rfl <;> rfl
  refine ⟨⟨(List.range' 1 kept).map (scaledWeights waveform width)⟩, ?_, ?_⟩
  · rw [new, first, weighed]
    rfl
  · intro phase
    have sampled : (ExtendedOscillator.mk ((List.range' 1 kept).map
        (scaledWeights waveform width))).sample phase =
          ∑ k ∈ Finset.range kept,
            ((scaledWeights waveform width (k + 1)).1 * sin ((k + 1 : ℕ) * phase) +
              (scaledWeights waveform width (k + 1)).2 * cos ((k + 1 : ℕ) * phase)) := by
      rw [sample, foldl_turn, zero_add, sum_zipIdx_range']
      refine Finset.sum_congr rfl fun k _ => ?_
      have angle : phase + k * phase = (k + 1 : ℕ) * phase := by
        push_cast
        ring
      rw [angle, Nat.add_comm 1 k]
    have met : ∀ k < kept, 1 * k + 1 ∈ waveform.harmonicsBelow frequency := by
      intro k bound
      have below := (fits k (by omega)).mpr bound
      rw [decide_eq_true_eq, Nat.add_comm 1 k] at below
      rw [Nat.one_mul]
      refine Finset.mem_filter.mpr ⟨Finset.mem_Icc.mpr ⟨Nat.succ_pos _, ?_⟩, below⟩
      rw [highest]
      omega
    have all : ∀ n ∈ waveform.harmonicsBelow frequency, ∃ k < kept, 1 * k + 1 = n := by
      intro n member
      obtain ⟨inside, below⟩ := Finset.mem_filter.mp member
      obtain ⟨positive', small⟩ := Finset.mem_Icc.mp inside
      rw [highest] at small
      obtain ⟨k, rfl⟩ := Nat.exists_eq_add_of_le' positive'
      refine ⟨k, (fits k (by omega)).mp ?_, by rw [Nat.one_mul]⟩
      rw [decide_eq_true_eq, Nat.add_comm 1 k]
      exact below
    constructor
    · have harmonics := sum_progression (fun n : ℕ =>
        (waveform.fourier width n).1 * sin (n * phase) +
          (waveform.fourier width n).2 * cos (n * phase)) Nat.one_pos met (by
        intro n member other
        obtain ⟨k, bound, same⟩ := all n member
        exact absurd same (other k bound))
      rw [sampled, Waveform.partialSum, harmonics, Finset.mul_sum]
      refine Finset.sum_congr rfl fun k _ => ?_
      rw [scaledWeights_eq full bounded (Nat.succ_pos k), Nat.one_mul]
      ring
    · rw [sampled]
      refine abs_sum_le_one le (fun k _ => abs_harmonic_le bounded (Nat.succ_pos k) _)
        (fun k => div_nonneg (amplitude_nonneg _ _ _) bounded.le) ?_
      rw [← Finset.sum_div, ← bound_eq, div_self bounded.ne']

end ExtendedOscillator

end Omnivox.Audio
