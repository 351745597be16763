import Mathlib
import Omnivox.Foundations.Bounded

/-!
# Words of a line

Arguments come as one line of text and are cut at white space. A number is a
string of decimal digits, with an optional plus sign, that fits its word.
-/

set_option autoImplicit false

namespace Omnivox.Text

open Foundations

/-- The Unicode white space. -/
def isWhitespace (c : Char) : Bool :=
  let point := c.toNat
  (9 ≤ point && point ≤ 13) || point == 0x20 || point == 0x85 || point == 0xA0 ||
    point == 0x1680 || (0x2000 ≤ point && point ≤ 0x200A) || point == 0x2028 || point == 0x2029 ||
    point == 0x202F || point == 0x205F || point == 0x3000

/-- `str::split_whitespace`. -/
def splitWhitespace (text : List Char) : List (List Char) :=
  (text.splitOnP isWhitespace).filter fun word => !word.isEmpty

/-- `str::trim`. -/
def trim (text : List Char) : List Char := (text.dropWhile isWhitespace).rdropWhile isWhitespace

/-- The digits of a number behind its plus sign. -/
def unsignedDigits : List Char → List Char
  | '+' :: rest => rest
  | field => field

/-- One more digit behind a number. -/
def appendDigit (number : Nat) (digit : Char) : Option Nat := do
  let shifted ← checkedMul u64Max number 10
  if digit.isDigit then checkedAdd u64Max shifted (digit.toNat - '0'.toNat) else none

/-- `str::parse::<u64>`. -/
def parseU64 (field : List Char) : Option Nat :=
  let digits := unsignedDigits field
  if digits.isEmpty then none else digits.foldlM appendDigit 0

/-- Nothing is trimmed from a text without white space. -/
theorem trim_of_forall {text : List Char} (words : ∀ c ∈ text, isWhitespace c = false) :
    trim text = text := by
  have front : text.dropWhile isWhitespace = text := by
    cases text with
    | nil => rfl
    | cons c rest => rw [List.dropWhile_cons, words c List.mem_cons_self, if_neg Bool.false_ne_true]
  rw [trim, front, List.rdropWhile_eq_self_iff]
  intro filled space
  rw [words _ (List.getLast_mem filled)] at space
  cases space

end Omnivox.Text
