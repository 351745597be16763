import Mathlib
import Omnivox.Foundations.Bounded
import Omnivox.Foundations.Landmarks
import Omnivox.Text.OffsetMapper
import Omnivox.Text.Preparation

/-!
# Source offsets through text preparation

The second preparation remaps requested byte offsets of the source while it
writes the prepared text. It has its own scanner for each of the two passes, and
an offset mapper that waits for the scanner to come past the requested offsets in
order. A requested offset that the scanner never stops at would keep the mapper
waiting, with zero for it and for every later one.
-/

set_option autoImplicit false

namespace Omnivox.Text

open Foundations
open String (utf8Len)

/-! ## The scanners with offsets -/

/-- The loop of `applyPunctuationWithOffsets` from a position of the text on. -/
def punctuateRecording (table : PunctuationTable) :
    List Char → Nat → List Char → OffsetMapper → List Char × OffsetMapper
  | [], _, output, mapped => (output, mapped)
  | '[' :: '*' :: ']' :: rest, position, output, mapped =>
      let mapped := mapped.record position (utf8Len output)
      let output := output ++ [' ']
      let mapped := [1, 2, 3].foldl
        (fun mapped boundary => mapped.record (position + boundary) (utf8Len output)) mapped
      punctuateRecording table rest (position + 3) output mapped
  | character :: rest, position, output, mapped =>
      let mapped := mapped.record position (utf8Len output)
      punctuateRecording table rest (position + character.utf8Size)
        (output ++ spoken table character) mapped

def applyPunctuationWithOffsets (text : List Char) (table : PunctuationTable)
    (offsets : List Nat) : List Char × List Nat :=
  let (output, mapped) := punctuateRecording table text 0 [] (OffsetMapper.new offsets)
  let mapped := mapped.record (utf8Len text) (utf8Len output)
  (output, mapped.finish)

variable [UnicodeCase]

/-- The loop of `insertSpaceBeforeUppercaseWithOffsets` from a position of the
text on. -/
def insertSpacesRecording : List Char → Nat → Bool → List Char → OffsetMapper →
    List Char × OffsetMapper
  | [], _, _, output, mapped => (output, mapped)
  | character :: rest, position, previousLower, output, mapped =>
      let output := if isUppercase character && previousLower then output ++ [' '] else output
      let mapped := mapped.record position (utf8Len output)
      insertSpacesRecording rest (position + character.utf8Size) (isLowercase character)
        (output ++ [character]) mapped

def insertSpaceBeforeUppercaseWithOffsets (text : List Char) (offsets : List Nat) :
    List Char × List Nat :=
  let (output, mapped) := insertSpacesRecording text 0 false [] (OffsetMapper.new offsets)
  let mapped := mapped.record (utf8Len text) (utf8Len output)
  (output, mapped.finish)

/-- Apply speech preprocessing and remap caller-requested UTF-8 boundaries. -/
def prepareSpeechTextWithOffsets (text : List Char) (state : TtsState) (offsets : List Nat) :
    PreparedSpeechText × List Nat :=
  let (punctuated, offsets) := applyPunctuationWithOffsets text state.punctuationTable offsets
  let (split, offsets) :=
    if state.splitCaps then insertSpaceBeforeUppercaseWithOffsets punctuated offsets
    else (punctuated, offsets)
  ({ text := split, capitalizationTones := [] }, offsets)

end Omnivox.Text
