import Mathlib

/-!
# Bounded machine arithmetic

Machine counters are natural numbers below a limit. The two ways a program
leaves the exact range are kept apart: a saturating operation stops at the
limit, a checked operation reports that the exact result does not fit. A cast
to a narrower word drops the high bits, and a wrapping operation starts again
at zero.

Saturating subtraction stops at zero, which is what subtraction of natural
numbers already does, so it has no definition of its own here.
-/

set_option autoImplicit false

namespace Omnivox.Foundations

/-- The largest value of an unsigned machine word of `width` bits. -/
def wordMax (width : Nat) : Nat := 2 ^ width - 1

/-- `usize::MAX` on a target with 64-bit pointers. -/
abbrev usizeMax : Nat := wordMax 64

/-- `u64::MAX`. -/
abbrev u64Max : Nat := wordMax 64

/-- Addition that stops at the limit. -/
def saturatingAdd (limit a b : Nat) : Nat := min (a + b) limit

/-- Addition that fails when the exact sum exceeds the limit. -/
def checkedAdd (limit a b : Nat) : Option Nat :=
  if a + b ≤ limit then some (a + b) else none

/-- Multiplication that fails when the exact product exceeds the limit. -/
def checkedMul (limit a b : Nat) : Option Nat :=
  if a * b ≤ limit then some (a * b) else none

/-- Addition of words that starts again at zero. -/
def wrappingAdd (width a b : Nat) : Nat := (a + b) % 2 ^ width

/-- `value as u32`. -/
def asU32 (value : Nat) : Nat := value % 2 ^ 32

/-- Below the limit a saturating sum is exact. -/
theorem saturatingAdd_of_le {limit a b : Nat} (fits : a + b ≤ limit) :
    saturatingAdd limit a b = a + b :=
  Nat.min_eq_left fits

theorem saturatingAdd_le (limit a b : Nat) : saturatingAdd limit a b ≤ limit :=
  Nat.min_le_right _ _

/-- Below the width a wrapping sum is exact. -/
theorem wrappingAdd_of_lt {width a b : Nat} (fits : a + b < 2 ^ width) :
    wrappingAdd width a b = a + b :=
  Nat.mod_eq_of_lt fits

/-- A wrapping sum that is larger than what was added to did not wrap. -/
theorem wrappingAdd_lt_self {width a b : Nat} (bound : a < 2 ^ width) (small : b < 2 ^ width)
    (wraps : 2 ^ width ≤ a + b) : wrappingAdd width a b < a := by
  have reduced : (a + b) % 2 ^ width = a + b - 2 ^ width := by
    rw [Nat.mod_eq_sub_mod wraps, Nat.mod_eq_of_lt (by omega)]
  rw [wrappingAdd, reduced]
  omega

theorem checkedAdd_of_le {limit a b : Nat} (fits : a + b ≤ limit) :
    checkedAdd limit a b = some (a + b) :=
  if_pos fits

/-- A checked sum that is returned is exact and within the limit. -/
theorem checkedAdd_eq_some {limit a b c : Nat} :
    checkedAdd limit a b = some c ↔ c = a + b ∧ a + b ≤ limit := by
  unfold checkedAdd
  split
  · rename_i fits
    simp only [Option.some.injEq]
    exact ⟨fun same => ⟨same.symm, fits⟩, fun both => both.1.symm⟩
  · rename_i exceeds
    simp only [reduceCtorEq, false_iff, not_and]
    exact fun _ => exceeds

theorem checkedMul_eq_some {limit a b c : Nat} :
    checkedMul limit a b = some c ↔ c = a * b ∧ a * b ≤ limit := by
  unfold checkedMul
  split
  · rename_i fits
    simp only [Option.some.injEq]
    exact ⟨fun same => ⟨same.symm, fits⟩, fun both => both.1.symm⟩
  · rename_i exceeds
    simp only [reduceCtorEq, false_iff, not_and]
    exact fun _ => exceeds

theorem asU32_le (value : Nat) : asU32 value ≤ wordMax 32 :=
  Nat.le_sub_one_of_lt (Nat.mod_lt _ (by decide))

theorem asU32_of_le {value : Nat} (fits : value ≤ wordMax 32) : asU32 value = value :=
  Nat.mod_eq_of_lt (Nat.lt_of_le_of_lt fits (by decide))

/-! ## Single precision -/

/-- An `f32` as the checks see it: a finite value is the exact number it stands
for. -/
inductive F32 where
  | finite (value : ℚ)
  | infinite (negative : Bool)
  | nan
  deriving Repr, DecidableEq

/-- Finite, and between zero and one. -/
def F32.inUnitRange : F32 → Bool
  | .finite value => decide (0 ≤ value) && decide (value ≤ 1)
  | .infinite _ => false
  | .nan => false

end Omnivox.Foundations
