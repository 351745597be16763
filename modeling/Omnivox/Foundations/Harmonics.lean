import Mathlib

/-!
# Harmonics

A wave that is linear on each of its pieces has the Fourier coefficients that its
pieces add up to, and each is a difference of an antiderivative at the two ends
(`Piece.sineIntegral_eq`, `Piece.cosineIntegral_eq`).

The sines and cosines of equally spaced angles come from one another by turning a
point of the circle through the same step (`foldl_turn`), so a partial sum needs
one sine and one cosine in all.

Harmonics below a frequency are the first ones: where one is too high, all later
ones are (`takeWhile_range'`). A sum over them is one over the turns of such a loop
(`sum_progression`).
-/

set_option autoImplicit false

namespace Omnivox.Foundations

open Real

/-! ## Waves in pieces -/

/-- A piece of a wave, linear between two phases. -/
structure Piece where
  start : ℝ
  stop : ℝ
  intercept : ℝ
  slope : ℝ

namespace Piece

/-- What the piece adds to the sine coefficient of a harmonic. -/
noncomputable def sineIntegral (piece : Piece) (n : ℕ) : ℝ :=
  ∫ phase in piece.start..piece.stop,
    (piece.intercept + piece.slope * phase) * sin (n * phase)

/-- What the piece adds to the cosine coefficient of a harmonic. -/
noncomputable def cosineIntegral (piece : Piece) (n : ℕ) : ℝ :=
  ∫ phase in piece.start..piece.stop,
    (piece.intercept + piece.slope * phase) * cos (n * phase)

/-- An antiderivative of the sine of a harmonic times a linear function. -/
noncomputable def sinePrimitive (piece : Piece) (n : ℕ) (phase : ℝ) : ℝ :=
  piece.slope * sin (n * phase) / n ^ 2 -
    (piece.intercept + piece.slope * phase) * cos (n * phase) / n

/-- An antiderivative of the cosine of a harmonic times a linear function. -/
noncomputable def cosinePrimitive (piece : Piece) (n : ℕ) (phase : ℝ) : ℝ :=
  piece.slope * cos (n * phase) / n ^ 2 +
    (piece.intercept + piece.slope * phase) * sin (n * phase) / n

variable {n : ℕ}

theorem hasDerivAt_sin_mul (n : ℕ) (phase : ℝ) :
    HasDerivAt (fun phase : ℝ => sin (n * phase)) (cos (n * phase) * n) phase :=
  (hasDerivAt_sin (n * phase)).comp phase (by simpa using (hasDerivAt_id phase).const_mul (n : ℝ))

theorem hasDerivAt_cos_mul (n : ℕ) (phase : ℝ) :
    HasDerivAt (fun phase : ℝ => cos (n * phase)) (-sin (n * phase) * n) phase :=
  (hasDerivAt_cos (n * phase)).comp phase (by simpa using (hasDerivAt_id phase).const_mul (n : ℝ))

theorem hasDerivAt_linear (piece : Piece) (phase : ℝ) :
    HasDerivAt (fun phase => piece.intercept + piece.slope * phase) piece.slope phase := by
  simpa using ((hasDerivAt_id phase).const_mul piece.slope).const_add piece.intercept

theorem hasDerivAt_sinePrimitive (piece : Piece) (positive : 0 < n) (phase : ℝ) :
    HasDerivAt (piece.sinePrimitive n)
      ((piece.intercept + piece.slope * phase) * sin (n * phase)) phase := by
  have number : (n : ℝ) ≠ 0 := Nat.cast_ne_zero.mpr positive.ne'
  have first := ((hasDerivAt_sin_mul n phase).const_mul piece.slope).div_const ((n : ℝ) ^ 2)
  have second := ((piece.hasDerivAt_linear phase).mul (hasDerivAt_cos_mul n phase)).div_const
    (n : ℝ)
  refine (first.sub second).congr_deriv ?_
  field_simp
  ring

theorem hasDerivAt_cosinePrimitive (piece : Piece) (positive : 0 < n) (phase : ℝ) :
    HasDerivAt (piece.cosinePrimitive n)
      ((piece.intercept + piece.slope * phase) * cos (n * phase)) phase := by
  have number : (n : ℝ) ≠ 0 := Nat.cast_ne_zero.mpr positive.ne'
  have first := ((hasDerivAt_cos_mul n phase).const_mul piece.slope).div_const ((n : ℝ) ^ 2)
  have second := ((piece.hasDerivAt_linear phase).mul (hasDerivAt_sin_mul n phase)).div_const
    (n : ℝ)
  refine (first.add second).congr_deriv ?_
  field_simp
  ring

theorem sineIntegral_eq (piece : Piece) (positive : 0 < n) :
    piece.sineIntegral n =
      piece.sinePrimitive n piece.stop - piece.sinePrimitive n piece.start := by
  refine intervalIntegral.integral_eq_sub_of_hasDerivAt
    (fun phase _ => piece.hasDerivAt_sinePrimitive positive phase) ?_
  exact Continuous.intervalIntegrable (by fun_prop) _ _

theorem cosineIntegral_eq (piece : Piece) (positive : 0 < n) :
    piece.cosineIntegral n =
      piece.cosinePrimitive n piece.stop - piece.cosinePrimitive n piece.start := by
  refine intervalIntegral.integral_eq_sub_of_hasDerivAt
    (fun phase _ => piece.hasDerivAt_cosinePrimitive positive phase) ?_
  exact Continuous.intervalIntegrable (by fun_prop) _ _

end Piece

/-! ## Turning a point of the circle -/

/-- The sine and cosine of a sum of two angles, from those of the two. -/
def turn (step point : ℝ × ℝ) : ℝ × ℝ :=
  (point.1 * step.2 + point.2 * step.1, point.2 * step.2 - point.1 * step.1)

theorem turn_eq (step angle : ℝ) :
    turn (sin step, cos step) (sin angle, cos angle) =
      (sin (angle + step), cos (angle + step)) := by
  rw [turn, sin_add, cos_add]

/-- One step of a loop over equally spaced angles: what an item adds, and the next angle. -/
def addHarmonic {Item : Type*} (term : Item → ℝ × ℝ → ℝ) (step : ℝ × ℝ)
    (state : ℝ × (ℝ × ℝ)) (item : Item) : ℝ × (ℝ × ℝ) :=
  (state.1 + term item state.2, turn step state.2)

/-- **Equally spaced angles.** A loop that turns its point after each item meets the
sine and the cosine of the angle at each. -/
theorem foldl_turn {Item : Type*} (term : Item → ℝ × ℝ → ℝ) (step : ℝ) (items : List Item)
    (value angle : ℝ) :
    (items.foldl (addHarmonic term (sin step, cos step)) (value, (sin angle, cos angle))).1 =
      value + (items.zipIdx.map fun item =>
        term item.1 (sin (angle + item.2 * step), cos (angle + item.2 * step))).sum := by
  induction items generalizing value angle with
  | nil => simp
  | cons item rest ih =>
      have later : ∀ index : ℕ, angle + step + index * step = angle + (index + 1 : ℕ) * step := by
        intro index
        push_cast
        ring
      rw [List.foldl_cons, addHarmonic, turn_eq, ih, List.zipIdx_cons', List.map_cons,
        List.sum_cons, List.map_map, add_assoc]
      simp [Function.comp_def, later]

/-- **A sum of a sine and a cosine** is within the length of its two weights. -/
theorem abs_sine_add_cosine_le {a b bound : ℝ} (positive : 0 ≤ bound)
    (weights : a ^ 2 + b ^ 2 ≤ bound ^ 2) (angle : ℝ) :
    |a * sin angle + b * cos angle| ≤ bound := by
  refine abs_le_of_sq_le_sq ?_ positive
  nlinarith [sin_sq_add_cos_sq angle, sq_nonneg (a * cos angle - b * sin angle)]

/-! ## Harmonics below a frequency -/

/-- **The harmonics below a limit are the first ones**, so that a loop that stops at the
first one that is too high meets them all. -/
theorem takeWhile_range' (below : ℕ → Bool)
    (down : ∀ n, below (n + 1) = true → below n = true) (start count : ℕ) :
    ∃ kept ≤ count, (List.range' start count).takeWhile below = List.range' start kept ∧
      ∀ k < count, below (start + k) = true ↔ k < kept := by
  induction count generalizing start with
  | zero => exact ⟨0, le_rfl, rfl, nofun⟩
  | succ count ih =>
      rw [List.range'_succ]
      cases first : below start with
      | true =>
          obtain ⟨kept, le, prefix', fits⟩ := ih (start + 1)
          refine ⟨kept + 1, Nat.succ_le_succ le, ?_, ?_⟩
          · rw [List.takeWhile_cons_of_pos first, prefix', List.range'_succ]
          · intro k bound
            cases k with
            | zero => exact ⟨fun _ => Nat.succ_pos kept, fun _ => first⟩
            | succ k =>
                have later := fits k (Nat.lt_of_succ_lt_succ bound)
                rw [Nat.add_assoc, Nat.add_comm 1 k] at later
                rw [later, Nat.succ_lt_succ_iff]
      | false =>
          have stops : ¬ below start = true := by
            rw [first]
            exact Bool.false_ne_true
          have reach : ∀ k, below (start + k) = true → below start = true := by
            intro k
            induction k with
            | zero => exact id
            | succ k step => exact fun fits => step (down _ fits)
          refine ⟨0, Nat.zero_le _, ?_, ?_⟩
          · rw [List.takeWhile_cons_of_neg stops]
            rfl
          · intro k _
            exact ⟨fun fits => absurd (reach k fits) stops, fun none => absurd none k.not_lt_zero⟩

/-- A sum over the items of a loop, each with its index. -/
theorem sum_zipIdx_range' {Item : Type*} (item : ℕ → Item) (term : Item × ℕ → ℝ)
    (start kept : ℕ) :
    ((((List.range' start kept).map item).zipIdx).map term).sum =
      ∑ k ∈ Finset.range kept, term (item (start + k), k) := by
  induction kept with
  | zero => rfl
  | succ kept ih =>
      rw [List.range'_concat, List.map_append, List.zipIdx_append, List.map_append,
        List.sum_append, ih, Finset.sum_range_succ]
      simp

/-- **A sum over an arithmetic progression**, where every other term is zero. -/
theorem sum_progression {harmonics : Finset ℕ} {stride kept : ℕ} (term : ℕ → ℝ)
    (positive : 0 < stride) (met : ∀ k < kept, stride * k + 1 ∈ harmonics)
    (others : ∀ n ∈ harmonics, (∀ k < kept, stride * k + 1 ≠ n) → term n = 0) :
    ∑ n ∈ harmonics, term n = ∑ k ∈ Finset.range kept, term (stride * k + 1) := by
  have inside : (Finset.range kept).image (fun k => stride * k + 1) ⊆ harmonics := by
    intro n member
    obtain ⟨k, bound, rfl⟩ := Finset.mem_image.mp member
    exact met k (Finset.mem_range.mp bound)
  have injective : Set.InjOn (fun k => stride * k + 1) (Finset.range kept) := by
    intro j _ k _ same
    exact Nat.eq_of_mul_eq_mul_left positive (Nat.succ_injective same)
  rw [← Finset.sum_subset inside, Finset.sum_image injective]
  intro n member outside
  refine others n member fun k bound same => outside ?_
  exact Finset.mem_image.mpr ⟨k, Finset.mem_range.mpr bound, same⟩

/-- A sum of some of the terms whose sizes add up to at most one. -/
theorem abs_sum_le_one {kept count : ℕ} (le : kept ≤ count) {term size : ℕ → ℝ}
    (bounded : ∀ k < kept, |term k| ≤ size k) (positive : ∀ k, 0 ≤ size k)
    (total : ∑ k ∈ Finset.range count, size k ≤ 1) :
    |∑ k ∈ Finset.range kept, term k| ≤ 1 :=
  calc |∑ k ∈ Finset.range kept, term k|
      ≤ ∑ k ∈ Finset.range kept, |term k| := Finset.abs_sum_le_sum_abs _ _
    _ ≤ ∑ k ∈ Finset.range kept, size k :=
        Finset.sum_le_sum fun k member => bounded k (Finset.mem_range.mp member)
    _ ≤ ∑ k ∈ Finset.range count, size k :=
        Finset.sum_le_sum_of_subset_of_nonneg (Finset.range_mono le) fun k _ _ => positive k
    _ ≤ 1 := total

end Omnivox.Foundations
