import Mathlib
import Omnivox.Foundations.Fallible

/-!
# Documents as member trees

A document is a tree of members in the order of its text, which may name a member
twice. Numbers are natural, or have digits behind the point and a negative exponent. The
compact text has an exact size, a number with more digits never has a shorter text
(`decimal_length_mono`), and a string never takes more than six bytes for each of its own
(`quotedSize_le`).

A record is read from the members of an object: a member may be required, optional
or nullable, a member that is named twice is refused, and so is an unknown member
where the record does not allow any.
-/

set_option autoImplicit false

namespace Omnivox.Foundations

/-- A number by its digits: in front of the point, behind it, and the negative exponent. -/
structure Fraction where
  whole : Nat
  digits : List (Fin 10)
  exponent : Option Nat
  deriving Repr, DecidableEq

inductive Json where
  | null
  | bool (value : Bool)
  | number (value : Nat)
  | fraction (value : Fraction)
  | string (value : String)
  | array (items : List Json)
  | object (members : List (String × Json))

/-! ## Compact text -/

/-- The decimal digits of a number. -/
def decimal (n : Nat) : List UInt8 :=
  if n = 0 then [48] else (Nat.digits 10 n).reverse.map fun digit => 48 + digit.toUInt8

/-- The digits behind the point. -/
def pointed (digits : List (Fin 10)) : List UInt8 :=
  if digits = [] then [] else 46 :: digits.map fun digit => 48 + digit.val.toUInt8

/-- A negative exponent. -/
def exponentText : Option Nat → List UInt8
  | none => []
  | some exponent => 101 :: 45 :: decimal exponent

def Fraction.text (value : Fraction) : List UInt8 :=
  decimal value.whole ++ pointed value.digits ++ exponentText value.exponent

/-- A character inside a string. -/
def escaped (c : Char) : List UInt8 :=
  if c = '"' ∨ c = '\\' then [92, c.toNat.toUInt8]
  else if c.toNat = 8 then [92, 98]
  else if c.toNat = 9 then [92, 116]
  else if c.toNat = 10 then [92, 110]
  else if c.toNat = 12 then [92, 102]
  else if c.toNat = 13 then [92, 114]
  else if c.toNat < 32 then
    -- a unicode escape of four hexadecimal digits
    [92, 117, 48, 48, 48 + (c.toNat / 16).toUInt8,
      if c.toNat % 16 < 10 then 48 + (c.toNat % 16).toUInt8 else 87 + (c.toNat % 16).toUInt8]
  else String.utf8EncodeChar c

def quoted (s : String) : List UInt8 := 34 :: (s.toList.flatMap escaped ++ [34])

mutual

/-- The text of a document without white space. -/
def Json.text : Json → List UInt8
  | .null => "null".toList.flatMap String.utf8EncodeChar
  | .bool true => "true".toList.flatMap String.utf8EncodeChar
  | .bool false => "false".toList.flatMap String.utf8EncodeChar
  | .number value => decimal value
  | .fraction value => value.text
  | .string value => quoted value
  | .array [] => [91, 93]
  | .array (item :: rest) => 91 :: (item.text ++ Json.moreItems rest ++ [93])
  | .object [] => [123, 125]
  | .object ((name, value) :: rest) =>
      123 :: (quoted name ++ 58 :: value.text ++ Json.moreMembers rest ++ [125])

/-- Further items, a comma before each. -/
def Json.moreItems : List Json → List UInt8
  | [] => []
  | item :: rest => 44 :: (item.text ++ Json.moreItems rest)

/-- Further members, a comma before each. -/
def Json.moreMembers : List (String × Json) → List UInt8
  | [] => []
  | (name, value) :: rest => 44 :: (quoted name ++ 58 :: value.text ++ Json.moreMembers rest)

end

/-- The bytes of the text. -/
def Json.size (document : Json) : Nat := document.text.length

/-- The bytes of a string, with its quotes. -/
def quotedSize (s : String) : Nat := (quoted s).length

/-- The bytes of further items and their commas. -/
def itemsSize (items : List Json) : Nat := (items.map fun item => item.size + 1).sum

/-- The bytes of further members and their commas. -/
def membersSize (members : List (String × Json)) : Nat :=
  (members.map fun member => quotedSize member.1 + member.2.size + 2).sum

theorem moreItems_length (items : List Json) :
    (Json.moreItems items).length = itemsSize items := by
  induction items with
  | nil => rfl
  | cons item rest ih =>
      rw [Json.moreItems, List.length_cons, List.length_append, ih, itemsSize, itemsSize,
        List.map_cons, List.sum_cons, Json.size]
      omega

theorem moreMembers_length (members : List (String × Json)) :
    (Json.moreMembers members).length = membersSize members := by
  induction members with
  | nil => rfl
  | cons member rest ih =>
      rw [Json.moreMembers, List.length_cons, List.length_append, ih, membersSize, membersSize,
        List.map_cons, List.sum_cons, Json.size, quotedSize]
      simp only [List.length_append, List.length_cons]
      omega

@[simp] theorem size_null : Json.size .null = 4 := rfl

@[simp] theorem size_number (n : Nat) : Json.size (.number n) = (decimal n).length := rfl

@[simp] theorem size_string (s : String) : Json.size (.string s) = quotedSize s := rfl

@[simp] theorem size_array_nil : Json.size (.array []) = 2 := rfl

/-- Each member takes its text and a comma or a brace. -/
@[simp] theorem size_object (member : String × Json) (rest : List (String × Json)) :
    Json.size (.object (member :: rest)) = 1 + membersSize (member :: rest) := by
  rw [Json.size, Json.text, membersSize, List.map_cons, List.sum_cons]
  simp only [List.length_cons, List.length_append, moreMembers_length, membersSize, Json.size,
    quotedSize, List.length_nil]
  omega

theorem membersSize_append (first second : List (String × Json)) :
    membersSize (first ++ second) = membersSize first + membersSize second := by
  rw [membersSize, List.map_append, List.sum_append]
  rfl

theorem membersSize_cons (member : String × Json) (rest : List (String × Json)) :
    membersSize (member :: rest) =
      quotedSize member.1 + member.2.size + 2 + membersSize rest := by
  rw [membersSize, List.map_cons, List.sum_cons]
  rfl

theorem membersSize_nil : membersSize [] = 0 := rfl

/-- **A smaller number is not longer.** -/
theorem decimal_length_mono {m n : Nat} (below : m ≤ n) :
    (decimal m).length ≤ (decimal n).length := by
  unfold decimal
  by_cases zero : m = 0
  · subst zero
    by_cases zero' : n = 0
    · rw [if_pos rfl, if_pos zero']
    · rw [if_pos rfl, if_neg zero', List.length_map, List.length_reverse]
      exact List.length_pos_iff.mpr (Nat.digits_ne_nil_iff_ne_zero.mpr zero')
  · have positive : n ≠ 0 := by omega
    rw [if_neg zero, if_neg positive, List.length_map, List.length_map, List.length_reverse,
      List.length_reverse]
    exact Nat.le_length_digits_le 10 m n below

/-! ### Printable texts -/

/-- A byte that is not a control byte, such as the newline. -/
def Printable (byte : UInt8) : Prop := 32 ≤ byte.toNat

instance (byte : UInt8) : Decidable (Printable byte) :=
  inferInstanceAs (Decidable (32 ≤ byte.toNat))

/-- The bytes of a literal. -/
theorem printable_literal {bytes : List UInt8}
    (all : (bytes.all fun byte => Printable byte) = true) :
    ∀ byte ∈ bytes, Printable byte := by
  simpa using all

/-- A digit behind a printable byte that leaves room for it. -/
theorem printable_digit {base : UInt8} {digit : Nat} (printable : Printable base)
    (room : base.toNat + digit < 256) : Printable (base + digit.toUInt8) := by
  unfold Printable at printable ⊢
  rw [UInt8.toNat_add, Nat.toUInt8_eq, UInt8.toNat_ofNat']
  omega

theorem printable_decimal (n : Nat) : ∀ byte ∈ decimal n, Printable byte := by
  intro byte member
  unfold decimal at member
  split at member
  · rw [List.mem_singleton.mp member]
    decide
  · obtain ⟨digit, listed, rfl⟩ := List.mem_map.mp member
    have below := Nat.digits_lt_base (by norm_num) (List.mem_reverse.mp listed)
    exact printable_digit (by decide) (by simp only [UInt8.reduceToNat]; omega)

theorem printable_fraction (value : Fraction) : ∀ byte ∈ value.text, Printable byte := by
  have digits : ∀ byte ∈ pointed value.digits, Printable byte := by
    unfold pointed
    split
    · exact fun _ absent => absurd absent List.not_mem_nil
    · rw [List.forall_mem_cons, List.forall_mem_map]
      refine ⟨by decide, fun digit _ => printable_digit (by decide) ?_⟩
      have below := digit.isLt
      simp only [UInt8.reduceToNat]
      omega
  have exponent : ∀ byte ∈ exponentText value.exponent, Printable byte := by
    cases value.exponent with
    | none => exact fun _ absent => absurd absent List.not_mem_nil
    | some exponent =>
        rw [exponentText, List.forall_mem_cons, List.forall_mem_cons]
        exact ⟨by decide, by decide, printable_decimal exponent⟩
  rw [Fraction.text, List.forall_mem_append, List.forall_mem_append]
  exact ⟨⟨printable_decimal value.whole, digits⟩, exponent⟩

theorem printable_utf8EncodeChar {c : Char} (printable : 32 ≤ c.toNat) :
    ∀ byte ∈ String.utf8EncodeChar c, Printable byte := by
  have code : c.toNat = c.val.toNat := rfl
  rw [code] at printable
  intro byte member
  unfold String.utf8EncodeChar at member
  dsimp only at member
  split at member
  · rw [List.mem_singleton.mp member, Printable, UInt8.toNat_ofNat']
    omega
  · split at member
    · simp only [List.mem_cons, List.not_mem_nil, or_false] at member
      rcases member with rfl | rfl <;> rw [Printable, UInt8.toNat_ofNat'] <;> omega
    · split at member
      · simp only [List.mem_cons, List.not_mem_nil, or_false] at member
        rcases member with rfl | rfl | rfl <;> rw [Printable, UInt8.toNat_ofNat'] <;> omega
      · simp only [List.mem_cons, List.not_mem_nil, or_false] at member
        rcases member with rfl | rfl | rfl | rfl <;> rw [Printable, UInt8.toNat_ofNat'] <;> omega

theorem printable_escaped (c : Char) : ∀ byte ∈ escaped c, Printable byte := by
  unfold escaped
  split
  · rename_i special
    rcases special with rfl | rfl <;> exact printable_literal (by decide)
  · split
    · exact printable_literal (by decide)
    · split
      · exact printable_literal (by decide)
      · split
        · exact printable_literal (by decide)
        · split
          · exact printable_literal (by decide)
          · split
            · exact printable_literal (by decide)
            · split
              · rename_i control
                -- only the last two bytes depend on the character
                have first : Printable (48 + (c.toNat / 16).toUInt8) :=
                  printable_digit (by decide) (by simp only [UInt8.reduceToNat]; omega)
                have second : Printable (if c.toNat % 16 < 10 then 48 + (c.toNat % 16).toUInt8
                    else 87 + (c.toNat % 16).toUInt8) := by
                  split <;>
                    exact printable_digit (by decide) (by simp only [UInt8.reduceToNat]; omega)
                simp only [List.forall_mem_cons]
                exact ⟨by decide, by decide, by decide, by decide, first, second,
                  fun _ absent => absurd absent List.not_mem_nil⟩
              · rename_i printable
                exact printable_utf8EncodeChar (Nat.le_of_not_lt printable)

theorem printable_quoted (s : String) : ∀ byte ∈ quoted s, Printable byte := by
  unfold quoted
  rw [List.forall_mem_cons, List.forall_mem_append]
  refine ⟨by decide, fun byte member => ?_, printable_literal (by decide)⟩
  obtain ⟨c, -, inside⟩ := List.mem_flatMap.mp member
  exact printable_escaped c byte inside

mutual

/-- **The text of a document is printable.** -/
theorem printable_text : ∀ document : Json, ∀ byte ∈ document.text, Printable byte
  | .null => printable_literal (by decide)
  | .bool true => printable_literal (by decide)
  | .bool false => printable_literal (by decide)
  | .number value => printable_decimal value
  | .fraction value => printable_fraction value
  | .string value => printable_quoted value
  | .array [] => printable_literal (by decide)
  | .array (item :: rest) => by
      rw [Json.text, List.forall_mem_cons, List.forall_mem_append, List.forall_mem_append]
      exact ⟨by decide, ⟨printable_text item, printable_moreItems rest⟩,
        printable_literal (by decide)⟩
  | .object [] => printable_literal (by decide)
  | .object ((name, value) :: rest) => by
      rw [Json.text]
      simp only [List.forall_mem_cons, List.forall_mem_append]
      exact ⟨by decide, ⟨⟨printable_quoted name, by decide, printable_text value⟩,
        printable_moreMembers rest⟩, by decide, fun _ absent => absurd absent List.not_mem_nil⟩

theorem printable_moreItems : ∀ items : List Json, ∀ byte ∈ Json.moreItems items, Printable byte
  | [] => fun _ absent => absurd absent List.not_mem_nil
  | item :: rest => by
      rw [Json.moreItems, List.forall_mem_cons, List.forall_mem_append]
      exact ⟨by decide, printable_text item, printable_moreItems rest⟩

theorem printable_moreMembers :
    ∀ members : List (String × Json), ∀ byte ∈ Json.moreMembers members, Printable byte
  | [] => fun _ absent => absurd absent List.not_mem_nil
  | (name, value) :: rest => by
      rw [Json.moreMembers]
      simp only [List.forall_mem_cons, List.forall_mem_append]
      exact ⟨by decide, ⟨printable_quoted name, by decide, printable_text value⟩,
        printable_moreMembers rest⟩

end

/-- A character that stands for itself and takes one byte. -/
structure Unescaped (c : Char) : Prop where
  printable : 32 ≤ c.toNat
  ascii : c.toNat < 128
  quote : c ≠ '"'
  backslash : c ≠ '\\'

theorem Unescaped.utf8Size {c : Char} (plain : Unescaped c) : c.utf8Size = 1 := by
  rw [Char.utf8Size_eq_one_iff, UInt32.le_iff_toNat_le]
  exact Nat.le_of_lt_succ plain.ascii

theorem escaped_length {c : Char} (plain : Unescaped c) : (escaped c).length = 1 := by
  have printable := plain.printable
  unfold escaped
  rw [if_neg (not_or.mpr ⟨plain.quote, plain.backslash⟩), if_neg (by omega), if_neg (by omega),
    if_neg (by omega), if_neg (by omega), if_neg (by omega), if_neg (by omega),
    String.length_utf8EncodeChar, plain.utf8Size]

/-- A text without special characters takes its length and the quotes. -/
theorem quotedSize_plain {s : String} (plain : ∀ c ∈ s.toList, Unescaped c) :
    quotedSize s = s.length + 2 := by
  have sizes : ∀ l : List Char, (∀ c ∈ l, Unescaped c) →
      (l.flatMap escaped).length = l.length := by
    intro l
    induction l with
    | nil => exact fun _ => rfl
    | cons c rest ih =>
        intro plain
        rw [List.flatMap_cons, List.length_append, escaped_length (plain c List.mem_cons_self),
          ih fun later member => plain later (List.mem_cons_of_mem _ member), List.length_cons,
          Nat.add_comm]
  rw [quotedSize, quoted, List.length_cons, List.length_append, sizes _ plain,
    String.length_toList]
  rfl

/-- Its bytes are its characters. -/
theorem utf8ByteSize_plain {s : String} (plain : ∀ c ∈ s.toList, Unescaped c) :
    s.utf8ByteSize = s.length := by
  have sizes : ∀ l : List Char, (∀ c ∈ l, Unescaped c) → String.utf8Len l = l.length := by
    intro l
    induction l with
    | nil => exact fun _ => rfl
    | cons c rest ih =>
        intro plain
        rw [String.utf8Len_cons, (plain c List.mem_cons_self).utf8Size,
          ih fun later member => plain later (List.mem_cons_of_mem _ member), List.length_cons]
  rw [← String.utf8Len_toList, sizes _ plain, String.length_toList]

/-- A character takes six bytes for each of its own at most. -/
theorem escaped_length_le (c : Char) : (escaped c).length ≤ 6 * c.utf8Size := by
  have positive := Char.utf8Size_pos c
  unfold escaped
  split_ifs <;> simp only [List.length_cons, List.length_nil, String.length_utf8EncodeChar] <;>
    omega

/-- **A string takes six bytes for each of its own at most**, and the quotes. -/
theorem quotedSize_le (s : String) : quotedSize s ≤ 6 * s.utf8ByteSize + 2 := by
  have sizes : ∀ l : List Char, (l.flatMap escaped).length ≤ 6 * String.utf8Len l := by
    intro l
    induction l with
    | nil => exact Nat.zero_le _
    | cons c rest ih =>
        have here := escaped_length_le c
        rw [List.flatMap_cons, List.length_append, String.utf8Len_cons]
        omega
  have whole := sizes s.toList
  rw [String.utf8Len_toList] at whole
  rw [quotedSize, quoted, List.length_cons, List.length_append, List.length_singleton]
  omega

/-! ## Members -/

/-- Why a document is not a value of a type. -/
inductive JsonError where
  | invalidType
  | missingField (name : String)
  | duplicateField (name : String)
  | unknownField (name : String)
  | unknownVariant (name : String)
  deriving Repr, DecidableEq

namespace Json

def asObject : Json → Except JsonError (List (String × Json))
  | .object members => .ok members
  | _ => .error .invalidType

def asArray : Json → Except JsonError (List Json)
  | .array items => .ok items
  | _ => .error .invalidType

def asString : Json → Except JsonError String
  | .string value => .ok value
  | _ => .error .invalidType

/-- A number of a machine type. -/
def asNumber (limit : Nat) : Json → Except JsonError Nat
  | .number value => if value ≤ limit then .ok value else .error .invalidType
  | _ => .error .invalidType

/-- Null, or a value. -/
def nullable {α : Type} (decode : Json → Except JsonError α) : Json → Except JsonError (Option α)
  | .null => .ok none
  | value => (decode value).map some

/-- The value of a member, which may be named once at most. -/
def member? (name : String) (members : List (String × Json)) :
    Except JsonError (Option Json) :=
  match members.filter fun member => member.1 == name with
  | [] => .ok none
  | [member] => .ok (some member.2)
  | _ => .error (.duplicateField name)

def required {α : Type} (name : String) (decode : Json → Except JsonError α)
    (members : List (String × Json)) : Except JsonError α := do
  let found ← member? name members
  let value ← orError (.missingField name) found
  decode value

/-- A member that may be absent or null. -/
def optional {α : Type} (name : String) (decode : Json → Except JsonError α)
    (members : List (String × Json)) : Except JsonError (Option α) := do
  let found ← member? name members
  match found with
  | none => .ok none
  | some value => nullable decode value

/-- An absent value is null. -/
def nullOr {α : Type} (encode : α → Json) : Option α → Json
  | none => .null
  | some value => encode value

/-- A value of an enumeration, by its name. -/
def oneOf {α : Type} (values : List α) (name : α → String) (document : Json) :
    Except JsonError α := do
  let text ← document.asString
  orError (.unknownVariant text) (values.find? fun value => name value == text)

/-- Refuse members that a record does not know. -/
def denyUnknown (known : List String) (members : List (String × Json)) :
    Except JsonError Unit :=
  match members.find? fun member => !known.contains member.1 with
  | none => .ok ()
  | some member => .error (.unknownField member.1)

variable {α : Type} {name other : String} {value : Json} {rest members : List (String × Json)}
  {decode : Json → Except JsonError α}

@[simp] theorem member?_nil (name : String) : member? name [] = .ok none := rfl

/-- Another member is passed over. -/
@[simp] theorem member?_cons_of_ne (different : other ≠ name) :
    member? name ((other, value) :: rest) = member? name rest := by
  unfold member?
  rw [List.filter_cons_of_neg (by simpa using different)]

/-- A member that is not named again is found. -/
@[simp] theorem member?_cons_self (once : ∀ member ∈ rest, member.1 ≠ name) :
    member? name ((name, value) :: rest) = .ok (some value) := by
  have none : rest.filter (fun member => member.1 == name) = [] := by
    rw [List.filter_eq_nil_iff]
    intro member there
    simpa using once member there
  unfold member?
  rw [List.filter_cons_of_pos (by simp), none]

theorem required_of_found (found : member? name members = .ok (some value)) :
    required name decode members = decode value := by
  unfold required
  rw [found]
  rfl

theorem optional_of_found (found : member? name members = .ok (some value)) :
    optional name decode members = nullable decode value := by
  unfold optional
  rw [found]
  rfl

theorem denyUnknown_of_known {known : List String}
    (all : ∀ member ∈ members, member.1 ∈ known) : denyUnknown known members = .ok () := by
  have none : (members.find? fun member => !known.contains member.1) = none := by
    rw [List.find?_eq_none]
    intro member there
    simpa using all member there
  unfold denyUnknown
  rw [none]

/-- What is written as null or a value is read back. -/
theorem nullable_nullOr {encode : α → Json} {value : Option α} (present : ∀ a, encode a ≠ .null)
    (reads : ∀ a ∈ value, decode (encode a) = .ok a) :
    nullable decode (nullOr encode value) = .ok value := by
  cases value with
  | none => rfl
  | some a =>
      have read := reads a rfl
      unfold nullOr nullable
      split
      · rename_i null
        exact absurd null (present a)
      · rw [read]
        rfl

/-- Items that are written one by one are read back. -/
theorem mapM_decode {encode : α → Json} {values : List α}
    (reads : ∀ value ∈ values, decode (encode value) = .ok value) :
    (values.map encode).mapM decode = .ok values := by
  induction values with
  | nil => rfl
  | cons value rest ih =>
      rw [List.map_cons, List.mapM_cons, reads value List.mem_cons_self,
        ih fun later member => reads later (List.mem_cons_of_mem _ member)]
      rfl

/-- A name that no other value has is read back. -/
theorem oneOf_name {values : List α} {encode : α → String} {wanted : α} (member : wanted ∈ values)
    (distinct : ∀ other ∈ values, encode other = encode wanted → other = wanted) :
    oneOf values encode (.string (encode wanted)) = .ok wanted := by
  have found : (values.find? fun value => encode value == encode wanted) = some wanted := by
    induction values with
    | nil => cases member
    | cons first rest ih =>
        by_cases same : encode first = encode wanted
        · rw [List.find?_cons_of_pos (by simpa using same),
            distinct first List.mem_cons_self same]
        · have later : wanted ∈ rest := by
            rcases List.mem_cons.mp member with rfl | later
            · exact absurd rfl same
            · exact later
          rw [List.find?_cons_of_neg (by simpa using same)]
          exact ih later fun other there => distinct other (List.mem_cons_of_mem _ there)
  unfold oneOf asString
  rw [ok_bind, found]
  rfl

/-- The members that a record does not take itself. -/
def remaining (taken : List String) (members : List (String × Json)) :
    List (String × Json) :=
  members.filter fun member => !taken.contains member.1

/-- What stands before the other members of a record is taken from them. -/
theorem remaining_append {taken : List String} {front content : List (String × Json)}
    (own : ∀ member ∈ front, member.1 ∈ taken)
    (foreign : ∀ member ∈ content, member.1 ∉ taken) :
    remaining taken (front ++ content) = content := by
  have none : front.filter (fun member => !taken.contains member.1) = [] := by
    rw [List.filter_eq_nil_iff]
    intro member there
    simpa using own member there
  have all : content.filter (fun member => !taken.contains member.1) = content := by
    rw [List.filter_eq_self]
    intro member there
    simpa using foreign member there
  rw [remaining, List.filter_append, none, all, List.nil_append]

end Json

mutual

/-- No object in the document names a member twice. -/
def Json.duplicateFree : Json → Bool
  | .array items => Json.itemsDuplicateFree items
  | .object members => decide (members.map Prod.fst).Nodup && Json.membersDuplicateFree members
  | .null => true
  | .bool _ => true
  | .number _ => true
  | .fraction _ => true
  | .string _ => true

def Json.itemsDuplicateFree : List Json → Bool
  | [] => true
  | item :: rest => item.duplicateFree && Json.itemsDuplicateFree rest

def Json.membersDuplicateFree : List (String × Json) → Bool
  | [] => true
  | (_, value) :: rest => value.duplicateFree && Json.membersDuplicateFree rest

end

attribute [local simp] Json.duplicateFree Json.itemsDuplicateFree Json.membersDuplicateFree

theorem itemsDuplicateFree_iff {items : List Json} :
    Json.itemsDuplicateFree items = true ↔ ∀ item ∈ items, item.duplicateFree = true := by
  induction items with
  | nil => exact ⟨fun _ _ member => (List.not_mem_nil member).elim, fun _ => rfl⟩
  | cons item rest ih =>
      rw [Json.itemsDuplicateFree, Bool.and_eq_true, ih, List.forall_mem_cons]

theorem membersDuplicateFree_iff {members : List (String × Json)} :
    Json.membersDuplicateFree members = true ↔
      ∀ member ∈ members, member.2.duplicateFree = true := by
  induction members with
  | nil => exact ⟨fun _ _ member => (List.not_mem_nil member).elim, fun _ => rfl⟩
  | cons member rest ih =>
      rw [Json.membersDuplicateFree, Bool.and_eq_true, ih, List.forall_mem_cons]

end Omnivox.Foundations
