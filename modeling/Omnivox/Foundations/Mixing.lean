import Mathlib

/-!
# Mixes of bounded values

Values that stay within a bound, in the numbers of an ordered field: a mix of two of
them stays within it (`abs_mix_le`), one that is scaled down does too, and one that
is fed into another adds its part (`abs_feed_le`).
-/

set_option autoImplicit false

namespace Omnivox.Foundations

variable {K : Type*} [Field K] [LinearOrder K] [IsStrictOrderedRing K]

/-- **A mix of two bounded values is bounded.** -/
theorem abs_mix_le {a b bound amount : K} (first : |a| ≤ bound) (second : |b| ≤ bound)
    (low : 0 ≤ amount) (high : amount ≤ 1) : |a * (1 - amount) + b * amount| ≤ bound := by
  have rest : 0 ≤ 1 - amount := sub_nonneg.mpr high
  calc |a * (1 - amount) + b * amount|
      ≤ |a * (1 - amount)| + |b * amount| := abs_add_le _ _
    _ = |a| * (1 - amount) + |b| * amount := by
        rw [abs_mul, abs_mul, abs_of_nonneg rest, abs_of_nonneg low]
    _ ≤ bound * (1 - amount) + bound * amount :=
        add_le_add (mul_le_mul_of_nonneg_right first rest) (mul_le_mul_of_nonneg_right second low)
    _ = bound := by ring

/-- A value scaled down stays bounded. -/
theorem abs_scale_le {a bound amount : K} (within : |a| ≤ bound) (low : 0 ≤ amount)
    (high : amount ≤ 1) : |a * amount| ≤ bound := by
  rw [abs_mul, abs_of_nonneg low]
  exact (mul_le_of_le_one_right (abs_nonneg a) high).trans within

/-- A value with some of another one added is bounded by both. -/
theorem abs_feed_le {a b bound bound' amount most : K} (first : |a| ≤ bound) (second : |b| ≤ bound')
    (low : 0 ≤ amount) (high : amount ≤ most) : |a + b * amount| ≤ bound + bound' * most := by
  have positive : 0 ≤ bound' := (abs_nonneg b).trans second
  calc |a + b * amount|
      ≤ |a| + |b * amount| := abs_add_le _ _
    _ = |a| + |b| * amount := by rw [abs_mul, abs_of_nonneg low]
    _ ≤ bound + bound' * most :=
        add_le_add first (mul_le_mul second high low positive)

end Omnivox.Foundations
