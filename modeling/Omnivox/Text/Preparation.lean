import Mathlib
import Omnivox.Foundations.Bounded

/-!
# Speech text preparation

Punctuation characters are replaced by their spoken names and, if caps are split,
a space is put before each uppercase letter that follows a lowercase one. The
reserved separator `[*]` becomes a space before its own characters are looked up.

A text is the list of its characters, and a position in it counts bytes.
-/

set_option autoImplicit false

namespace Omnivox.Text

open Foundations

/-! ## Punctuation tables -/

inductive PunctuationLevel where
  | none
  | some
  | all
  deriving Repr, DecidableEq

/-- A missing entry and an explicit null both preserve the character. -/
abbrev PunctuationTable := Char → Option (Option (List Char))

structure PunctuationProfile where
  fallback : PunctuationLevel
  table : PunctuationTable

structure PunctuationTables where
  none : PunctuationTable
  some : PunctuationTable
  all : PunctuationTable
  profiles : String → Option PunctuationProfile

def PunctuationTables.table (tables : PunctuationTables) : PunctuationLevel → PunctuationTable
  | .none => tables.none
  | .some => tables.some
  | .all => tables.all

/-- The part of the speech state that text preparation reads. A selected profile
is one of the tables' profiles. -/
structure TtsState where
  punctuationTables : PunctuationTables
  punctuationLevel : PunctuationLevel
  punctuationProfile : Option String
  splitCaps : Bool
  selected : ∀ id, punctuationProfile = Option.some id →
    (punctuationTables.profiles id).isSome = true

/-- The table selected for this request. -/
def TtsState.punctuationTable (state : TtsState) : PunctuationTable :=
  match chosen : state.punctuationProfile with
  | .some id => ((state.punctuationTables.profiles id).get (state.selected id chosen)).table
  | .none => state.punctuationTables.table state.punctuationLevel

/-! ## Letter case -/

/-- The Unicode letter case of the characters outside ASCII. -/
class UnicodeCase where
  uppercase : Char → Bool
  lowercase : Char → Bool

variable [UnicodeCase]

def isUppercase (c : Char) : Bool :=
  if 'A' ≤ c ∧ c ≤ 'Z' then true else '\x7f' < c && UnicodeCase.uppercase c

def isLowercase (c : Char) : Bool :=
  if 'a' ≤ c ∧ c ≤ 'z' then true else '\x7f' < c && UnicodeCase.lowercase c

@[simp] theorem isUppercase_space : isUppercase ' ' = false := rfl

@[simp] theorem isLowercase_space : isLowercase ' ' = false := rfl

/-! ## Preparation -/

/-- In-band separator for a short boundary inside speech text. -/
def legacySpeechSeparator : List Char := ['[', '*', ']']

/-- What is spoken for a character that does not start a separator. -/
def spoken (table : PunctuationTable) (character : Char) : List Char :=
  match (table character).bind id with
  | .some replacement => ' ' :: replacement ++ [' ']
  | .none => [character]

/-- Replace punctuation characters with spoken names. -/
def applyPunctuationTable (table : PunctuationTable) : List Char → List Char
  | [] => []
  | '[' :: '*' :: ']' :: rest => ' ' :: applyPunctuationTable table rest
  | character :: rest => spoken table character ++ applyPunctuationTable table rest

/-- The loop of `insertSpaceBeforeUppercase` behind a character. -/
def insertSpacesAfter (previousLower : Bool) : List Char → List Char
  | [] => []
  | character :: rest =>
      if isUppercase character && previousLower then
        ' ' :: character :: insertSpacesAfter (isLowercase character) rest
      else character :: insertSpacesAfter (isLowercase character) rest

/-- Insert a space before each uppercase letter that follows a lowercase letter. -/
def insertSpaceBeforeUppercase (input : List Char) : List Char := insertSpacesAfter false input

structure CapitalizationTone where
  id : String
  textOffset : Nat
  frequencyHz : F32
  durationMs : Nat
  deriving Repr, DecidableEq

structure PreparedSpeechText where
  text : List Char
  capitalizationTones : List CapitalizationTone
  deriving Repr, DecidableEq

/-- Apply speech preprocessing without inferring capitalization presentation. -/
def prepareSpeechText (text : List Char) (state : TtsState) : PreparedSpeechText :=
  let processed := applyPunctuationTable state.punctuationTable text
  { text := if state.splitCaps then insertSpaceBeforeUppercase processed else processed
    capitalizationTones := [] }

end Omnivox.Text
