import Mathlib

/-!
# Base64 text

Bytes are written as groups of four characters of an alphabet of 64, the last group
padded with equals signs. The number of bytes can be read off the length of the
text and its padding (`decodedLength_encode64`), and the text is ASCII without
control characters (`plain_of_mem_encode64`).
-/

set_option autoImplicit false

namespace Omnivox.Foundations

/-- `=` -/
def padCharacter : UInt8 := 61

/-- The character of a number: upper case, lower case, digits, `+` and `/`. -/
def base64Code (n : Nat) : Nat :=
  if n < 26 then 65 + n
  else if n < 52 then 71 + n
  else if n < 62 then n - 4
  else if n = 62 then 43
  else 47

def base64Digit (n : Nat) : UInt8 := (base64Code (n % 64)).toUInt8

def encode64 : List UInt8 → List UInt8
  | [] => []
  | [a] =>
      [base64Digit (a.toNat / 4), base64Digit (a.toNat % 4 * 16), padCharacter, padCharacter]
  | [a, b] =>
      [base64Digit (a.toNat / 4), base64Digit (a.toNat % 4 * 16 + b.toNat / 16),
        base64Digit (b.toNat % 16 * 4), padCharacter]
  | a :: b :: c :: rest =>
      base64Digit (a.toNat / 4) :: base64Digit (a.toNat % 4 * 16 + b.toNat / 16) ::
        base64Digit (b.toNat % 16 * 4 + c.toNat / 64) :: base64Digit (c.toNat % 64) ::
          encode64 rest

theorem toNat_base64Digit (n : Nat) : (base64Digit n).toNat = base64Code (n % 64) := by
  have small : base64Code (n % 64) < 256 := by
    unfold base64Code
    split_ifs <;> omega
  exact Nat.mod_eq_of_lt small

/-- A digit is no padding. -/
theorem base64Digit_ne_pad (n : Nat) : base64Digit n ≠ padCharacter := by
  intro same
  have number := congrArg UInt8.toNat same
  have equals : padCharacter.toNat = 61 := rfl
  rw [toNat_base64Digit, equals] at number
  unfold base64Code at number
  split_ifs at number <;> omega

/-- **The text has four characters for every three bytes.** -/
theorem length_encode64 (bytes : List UInt8) :
    (encode64 bytes).length = (bytes.length + 2) / 3 * 4 := by
  induction bytes using encode64.induct with
  | case1 => rfl
  | case2 a => simp [encode64]
  | case3 a b => simp [encode64]
  | case4 a b c rest ih =>
      rw [encode64]
      simp only [List.length_cons, ih]
      omega

/-- The padding at the end of a text. -/
def padding (text : List UInt8) : Nat :=
  (text.reverse.takeWhile fun byte => byte == padCharacter).length

theorem padding_cons {byte : UInt8} (digit : byte ≠ padCharacter) (text : List UInt8) :
    padding (byte :: text) = padding text := by
  unfold padding
  rw [List.reverse_cons, List.takeWhile_append]
  split
  · rename_i whole
    have stop : [byte].takeWhile (fun byte => byte == padCharacter) = [] := by
      rw [List.takeWhile_cons, if_neg (by simpa using digit)]
    rw [stop, List.append_nil, whole]
  · rfl

/-- The last group is padded to four characters. -/
theorem padding_encode64 (bytes : List UInt8) :
    padding (encode64 bytes) = (3 - bytes.length % 3) % 3 := by
  induction bytes using encode64.induct with
  | case1 => rfl
  | case2 a =>
      rw [encode64, padding_cons (base64Digit_ne_pad _), padding_cons (base64Digit_ne_pad _)]
      rfl
  | case3 a b =>
      rw [encode64, padding_cons (base64Digit_ne_pad _), padding_cons (base64Digit_ne_pad _),
        padding_cons (base64Digit_ne_pad _)]
      rfl
  | case4 a b c rest ih =>
      rw [encode64, padding_cons (base64Digit_ne_pad _), padding_cons (base64Digit_ne_pad _),
        padding_cons (base64Digit_ne_pad _), padding_cons (base64Digit_ne_pad _), ih]
      simp only [List.length_cons]
      omega

/-- **The length of the bytes**, from the text. -/
theorem decodedLength_encode64 (bytes : List UInt8) :
    (encode64 bytes).length / 4 * 3 - padding (encode64 bytes) = bytes.length := by
  rw [length_encode64, padding_encode64]
  omega

/-- Printable ASCII. -/
def Plain (byte : UInt8) : Prop := 32 < byte.toNat ∧ byte.toNat < 128

instance (byte : UInt8) : Decidable (Plain byte) := inferInstanceAs (Decidable (_ ∧ _))

theorem plain_base64Digit (n : Nat) : Plain (base64Digit n) := by
  unfold Plain
  rw [toNat_base64Digit]
  unfold base64Code
  split_ifs <;> omega

/-- **The text is plain.** -/
theorem plain_of_mem_encode64 {bytes : List UInt8} {byte : UInt8}
    (member : byte ∈ encode64 bytes) : Plain byte := by
  have pad : Plain padCharacter := by decide
  induction bytes using encode64.induct with
  | case1 => cases member
  | case2 a =>
      simp only [encode64, List.mem_cons, List.not_mem_nil, or_false] at member
      rcases member with rfl | rfl | rfl | rfl
      · exact plain_base64Digit _
      · exact plain_base64Digit _
      · exact pad
      · exact pad
  | case3 a b =>
      simp only [encode64, List.mem_cons, List.not_mem_nil, or_false] at member
      rcases member with rfl | rfl | rfl | rfl
      · exact plain_base64Digit _
      · exact plain_base64Digit _
      · exact plain_base64Digit _
      · exact pad
  | case4 a b c rest ih =>
      simp only [encode64, List.mem_cons] at member
      rcases member with rfl | rfl | rfl | rfl | later
      · exact plain_base64Digit _
      · exact plain_base64Digit _
      · exact plain_base64Digit _
      · exact plain_base64Digit _
      · exact ih later

/-- ASCII bytes are UTF-8. -/
theorem isValidUTF8_of_ascii {bytes : List UInt8} (ascii : ∀ byte ∈ bytes, byte.toNat < 128) :
    ByteArray.IsValidUTF8 ⟨bytes.toArray⟩ := by
  induction bytes using List.reverseRecOn with
  | nil => exact ByteArray.isValidUTF8_empty
  | append_singleton bytes byte ih =>
      have before := ih fun other member => ascii other (List.mem_append_left _ member)
      have small : byte.toNat < 128 := ascii byte (List.mem_append_right _ List.mem_cons_self)
      have valid : byte.toNat.isValidChar := Or.inl (by omega)
      have number : (Char.ofNat byte.toNat).toNat = byte.toNat := by
        rw [Char.toNat_ofNat, if_pos valid]
      have code : (Char.ofNat byte.toNat).toUInt8 = byte := by
        apply UInt8.toNat_inj.mp
        have low : (Char.ofNat byte.toNat).toUInt8.toNat = (Char.ofNat byte.toNat).toNat % 256 := rfl
        rw [low, number, Nat.mod_eq_of_lt (by omega)]
      have single : (Char.ofNat byte.toNat).utf8Size = 1 := by
        rw [Char.utf8Size_eq_one_iff, UInt32.le_iff_toNat_le]
        have bound : (Char.ofNat byte.toNat).toNat ≤ 127 := by omega
        exact bound
      have grown := before.push single
      rw [code] at grown
      simpa [ByteArray.push] using grown

end Omnivox.Foundations
