import Omnivox.Foundations.Markup
import Omnivox.Foundations.StableSort
import Omnivox.Synthesis.Anchors

/-!
# The input of eSpeak

A request with anchors is given to eSpeak as marked-up text: the five special
characters are written as entities and every anchor becomes a mark. Beside it
stands a map from the character boundaries of the generated text to the byte
boundaries of the caller's text, by which the positions that eSpeak reports are
taken back.

`forRequest_generated` says what is generated: the tokens `requestTokens`, and
the byte boundaries `trail` along them. `espeak_input_keeps_text` states what
follows for the text and for its map. The map holds 32-bit offsets, so it is
right exactly for a text whose length they can express.
-/

set_option autoImplicit false

namespace Omnivox.Synthesis

open Foundations
open Text (IsCharBoundary splitAtByte splitAtByte_append)
open String (utf8Len)

/-! ## The input -/

/-- `espeakENDPAUSE` of the native interface. -/
def espeakEndPause : Nat := 0x1000

/-- `espeakSSML` of the native interface. -/
def espeakSsml : Nat := 0x10

structure EspeakInput where
  text : List Char
  flags : Nat
  /-- For marked-up input, the byte boundary of the caller's text at each
  character boundary of the generated one. -/
  sourceBoundaries : Option (List Nat)
  deriving Repr, DecidableEq

/-- The text being generated, and the byte boundaries along it. -/
structure Generated where
  text : List Char
  boundaries : List Nat
  deriving Repr, DecidableEq

namespace Generated

/-- `append_generated_text`: only behind the last character lies the end. -/
def appendText (out : Generated) (text : List Char) (sourceStart sourceEnd : Nat) : Generated where
  text := out.text ++ text
  boundaries := out.boundaries ++ (List.range text.length).map fun index =>
    if index + 1 = text.length then sourceEnd else sourceStart

/-- What a mark for the anchor with this index contains. -/
def markContent (index : Nat) : List Char :=
  "mark name=\"ovx".toList ++ (Nat.repr index).toList ++ "\"/".toList

/-- `append_espeak_anchor`. -/
def appendAnchor (out : Generated) (index sourceOffset : Nat) : Generated :=
  out.appendText ('<' :: markContent index ++ ['>']) sourceOffset sourceOffset

/-- The entity that a special character is written as. -/
def escaped : Char → Option (List Char)
  | '&' => some "&amp;".toList
  | '<' => some "&lt;".toList
  | '>' => some "&gt;".toList
  | '"' => some "&quot;".toList
  | '\'' => some "&apos;".toList
  | _ => none

def appendCharacter (out : Generated) (character : Char) (sourceStart : Nat) : Generated :=
  let sourceEnd := sourceStart + character.utf8Size
  match escaped character with
  | some text => out.appendText text (asU32 sourceStart) (asU32 sourceEnd)
  | none =>
      { text := out.text ++ [character], boundaries := out.boundaries ++ [asU32 sourceEnd] }

/-- Append the anchors that lie at `position`. The rest of them is returned. -/
def appendAnchorsAt (position : Nat) :
    List (RequestedAnchor × Nat) → Generated → List (RequestedAnchor × Nat) × Generated
  | [], out => ([], out)
  | anchor :: anchors, out =>
      if anchor.1.textOffset = position then
        appendAnchorsAt position anchors (out.appendAnchor anchor.2 anchor.1.textOffset)
      else (anchor :: anchors, out)

def appendAnchors (anchors : List (RequestedAnchor × Nat)) (out : Generated) : Generated :=
  anchors.foldl (fun out anchor => out.appendAnchor anchor.2 anchor.1.textOffset) out

/-- The loop over the characters, and what is left of the anchors behind it. -/
def appendSource : List Char → Nat → List (RequestedAnchor × Nat) → Generated → Generated
  | [], _, anchors, out => appendAnchors anchors out
  | character :: rest, position, anchors, out =>
      let placed := appendAnchorsAt position anchors out
      appendSource rest (position + character.utf8Size) placed.1
        (placed.2.appendCharacter character position)

end Generated

/-- The anchors with their indices, sorted by offset and index. -/
def arranged (anchors : List RequestedAnchor) : List (RequestedAnchor × Nat) :=
  anchors.zipIdx.insertionSort (keyThenNumber RequestedAnchor.textOffset)

namespace EspeakInput

/-- `CString::new`. -/
def cString (text : List Char) (reason : String) : Except TtsError (List Char) :=
  if text.contains '\x00' then .error (.synthesisFailed reason) else .ok text

def generate (request : SynthesisRequest) : Generated :=
  let opened := Generated.appendText { text := [], boundaries := [0] } "<speak>".toList 0 0
  let filled := Generated.appendSource request.text 0 (arranged request.anchors) opened
  let sourceEnd := asU32 (utf8Len request.text)
  filled.appendText "</speak>".toList sourceEnd sourceEnd

def forRequest (request : SynthesisRequest) : Except TtsError EspeakInput :=
  if request.anchors.isEmpty then do
    let text ← cString request.text "Text contains null bytes"
    return { text := text, flags := espeakEndPause, sourceBoundaries := none }
  else do
    let generated := generate request
    let text ← cString generated.text "Generated eSpeak SSML contains a null byte"
    return {
      text := text
      flags := espeakEndPause ||| espeakSsml
      sourceBoundaries := some generated.boundaries }

/-- The byte boundaries of a text, from `position` on. -/
def characterBoundaries : List Char → Nat → List Nat
  | [], position => [position]
  | character :: rest, position =>
      position :: characterBoundaries rest (position + character.utf8Size)

/-- `u32::try_from`. -/
def tryU32 (value : Nat) : Option Nat := if value ≤ wordMax 32 then some value else none

/-- Convert a one-based character range to a byte range. -/
def utf8RangeForCharacters (text : List Char) (oneBasedStart characterLength : Nat) :
    Option (Nat × Nat) := do
  let startCharacter ← if oneBasedStart = 0 then none else some (oneBasedStart - 1)
  let endCharacter ← checkedAdd usizeMax startCharacter characterLength
  let start ← (characterBoundaries text 0)[startCharacter]?
  let stop ← (characterBoundaries text 0)[endCharacter]?
  return (← tryU32 start, ← tryU32 (stop - start))

def sourceRange (input : EspeakInput) (plainText : List Char)
    (oneBasedStart characterLength : Nat) : Option (Nat × Nat) :=
  match input.sourceBoundaries with
  | some boundaries => do
      let startCharacter ← if oneBasedStart = 0 then none else some (oneBasedStart - 1)
      let endCharacter ← checkedAdd usizeMax startCharacter characterLength
      let start ← boundaries[startCharacter]?
      let stop ← boundaries[endCharacter]?
      return (start, stop - start)
  | none => utf8RangeForCharacters plainText oneBasedStart characterLength

end EspeakInput

/-! ## Boundaries along tokens -/

/-- The byte boundary of the source behind each character of written tokens, from
`position` on. Inside an entity it is still the start of its character, and a tag
lies between two characters. -/
def trail : Nat → List Token → List Nat
  | _, [] => []
  | position, .character c :: tokens =>
      List.replicate ((escape c).length - 1) position ++
        (position + c.utf8Size) :: trail (position + c.utf8Size) tokens
  | position, .tag content :: tokens =>
      List.replicate (content.length + 2) position ++ trail position tokens

section Trail

theorem escape_ne_nil (c : Char) : escape c ≠ [] := by
  unfold escape
  split <;> exact List.cons_ne_nil _ _

theorem length_trail (position : Nat) (tokens : List Token) :
    (trail position tokens).length = (tokens.flatMap Token.encode).length := by
  induction tokens generalizing position with
  | nil => rfl
  | cons token tokens ih =>
      cases token with
      | character c =>
          have some_character := List.length_pos_iff.mpr (escape_ne_nil c)
          rw [trail, List.length_append, List.length_replicate, List.length_cons, ih,
            List.flatMap_cons, List.length_append, Token.encode]
          omega
      | tag content =>
          rw [trail, List.length_append, List.length_replicate, ih, List.flatMap_cons,
            List.length_append, Token.encode, List.cons_append, List.length_cons,
            List.length_append, List.length_singleton]

theorem trail_append (position : Nat) (first second : List Token) :
    trail position (first ++ second) =
      trail position first ++ trail (position + utf8Len (charactersOf first)) second := by
  induction first generalizing position with
  | nil => rfl
  | cons token first ih =>
      cases token with
      | character c =>
          rw [List.cons_append, trail, trail, ih, charactersOf_character, String.utf8Len_cons,
            List.append_assoc, List.cons_append, Nat.add_comm (utf8Len _), Nat.add_assoc]
      | tag content =>
          rw [List.cons_append, trail, trail, ih, charactersOf_tag, List.append_assoc]

/-- **Behind the written tokens** lies the end of their characters. -/
theorem trail_at (position : Nat) (first later : List Token) :
    (position :: trail position (first ++ later))[(first.flatMap Token.encode).length]? =
      some (position + utf8Len (charactersOf first)) := by
  induction first generalizing position with
  | nil => rfl
  | cons token first ih =>
      cases token with
      | character c =>
          have written : (position :: trail position (.character c :: first ++ later)) =
              (position :: List.replicate ((escape c).length - 1) position) ++
                ((position + c.utf8Size) :: trail (position + c.utf8Size) (first ++ later)) := rfl
          have some_character := List.length_pos_iff.mpr (escape_ne_nil c)
          have front : (position :: List.replicate ((escape c).length - 1) position).length =
              (escape c).length := by
            rw [List.length_cons, List.length_replicate]
            omega
          rw [written, List.flatMap_cons, List.length_append, Token.encode,
            List.getElem?_append_right (by rw [front]; exact Nat.le_add_right _ _), front,
            Nat.add_sub_cancel_left, ih, charactersOf_character, String.utf8Len_cons,
            Nat.add_comm (utf8Len _), Nat.add_assoc]
      | tag content =>
          have written : (position :: trail position (.tag content :: first ++ later)) =
              List.replicate (content.length + 2) position ++
                (position :: trail position (first ++ later)) := by
            rw [List.cons_append, trail, ← List.cons_append, ← List.replicate_succ,
              List.replicate_succ', List.append_assoc, List.singleton_append]
          have length : (Token.tag content).encode.length = content.length + 2 := by
            rw [Token.encode, List.cons_append, List.length_cons, List.length_append,
              List.length_singleton]
          rw [written, List.flatMap_cons, List.length_append, length,
            List.getElem?_append_right (by rw [List.length_replicate]; exact Nat.le_add_right _ _),
            List.length_replicate, Nat.add_sub_cancel_left, ih, charactersOf_tag]

/-- Every boundary is the end of a beginning of the characters. -/
theorem mem_trail {position boundary : Nat} {tokens : List Token}
    (member : boundary ∈ position :: trail position tokens) :
    ∃ before, before <+: charactersOf tokens ∧ boundary = position + utf8Len before := by
  induction tokens generalizing position with
  | nil => exact ⟨[], List.nil_prefix, by rw [List.mem_singleton.mp member]; rfl⟩
  | cons token tokens ih =>
      cases token with
      | character c =>
          rw [trail, ← List.cons_append, ← List.replicate_succ] at member
          rcases List.mem_append.mp member with inside | behind
          · exact ⟨[], List.nil_prefix, List.eq_of_mem_replicate inside⟩
          · obtain ⟨before, prefixed, same⟩ := ih behind
            refine ⟨c :: before, ?_, ?_⟩
            · rw [charactersOf_character]
              exact (List.prefix_cons_inj c).mpr prefixed
            · rw [same, String.utf8Len_cons]
              omega
      | tag content =>
          rw [trail, ← List.cons_append, ← List.replicate_succ] at member
          rcases List.mem_append.mp member with inside | behind
          · exact ⟨[], List.nil_prefix, List.eq_of_mem_replicate inside⟩
          · exact ih (List.mem_cons_of_mem _ behind)

theorem le_of_mem_trail {position boundary : Nat} {tokens : List Token}
    (member : boundary ∈ trail position tokens) : position ≤ boundary := by
  obtain ⟨before, _, same⟩ := mem_trail (List.mem_cons_of_mem _ member)
  omega

/-- **The boundaries never go back.** -/
theorem trail_sorted (position : Nat) (tokens : List Token) :
    (position :: trail position tokens).Pairwise (· ≤ ·) := by
  rw [List.pairwise_cons]
  refine ⟨fun boundary member => le_of_mem_trail member, ?_⟩
  induction tokens generalizing position with
  | nil => exact List.Pairwise.nil
  | cons token tokens ih =>
      cases token with
      | character c =>
          rw [trail, List.pairwise_append, List.pairwise_cons]
          refine ⟨List.pairwise_replicate.mpr (.inr (Nat.le_refl _)),
            ⟨fun boundary member => le_of_mem_trail member, ih _⟩, ?_⟩
          intro first inside second behind
          rw [List.eq_of_mem_replicate inside]
          rcases List.mem_cons.mp behind with rfl | later
          · exact Nat.le_add_right _ _
          · exact (Nat.le_add_right _ _).trans (le_of_mem_trail later)
      | tag content =>
          rw [trail, List.pairwise_append]
          refine ⟨List.pairwise_replicate.mpr (.inr (Nat.le_refl _)), ih _, ?_⟩
          intro first inside second behind
          rw [List.eq_of_mem_replicate inside]
          exact le_of_mem_trail behind

end Trail

/-! ## What is generated -/

def markToken (anchor : RequestedAnchor × Nat) : Token := .tag (Generated.markContent anchor.2)

/-- An anchor of the list lies at `position`. -/
def liesAt (position : Nat) (anchor : RequestedAnchor × Nat) : Bool :=
  anchor.1.textOffset = position

/-- The characters of a text from `position` on, each behind the marks that lie at
it. -/
def sourceTokens : List Char → Nat → List (RequestedAnchor × Nat) → List Token
  | [], _, anchors => anchors.map markToken
  | character :: rest, position, anchors =>
      (anchors.takeWhile (liesAt position)).map markToken ++
        .character character :: sourceTokens rest (position + character.utf8Size)
          (anchors.dropWhile (liesAt position))

/-- The tokens of a request. -/
def requestTokens (request : SynthesisRequest) : List Token :=
  .tag "speak".toList :: sourceTokens request.text 0 (arranged request.anchors) ++
    [.tag "/speak".toList]

/-- The anchors lie on boundaries of the text from `position` on, in order. -/
structure Placed (text : List Char) (position : Nat) (anchors : List (RequestedAnchor × Nat)) :
    Prop where
  ordered : anchors.Pairwise fun first second => first.1.textOffset ≤ second.1.textOffset
  ahead : ∀ anchor ∈ anchors, position ≤ anchor.1.textOffset
  boundary : ∀ anchor ∈ anchors, IsCharBoundary text (anchor.1.textOffset - position)

section Placing

variable {text rest : List Char} {character : Char} {position : Nat}
  {anchors : List (RequestedAnchor × Nat)}

/-- At the end of a text every anchor lies at its end. -/
theorem Placed.at_end (placed : Placed [] position anchors) :
    ∀ anchor ∈ anchors, anchor.1.textOffset = position := by
  intro anchor member
  have ahead := placed.ahead anchor member
  obtain ⟨before, after, split, length⟩ := placed.boundary anchor member
  rw [(List.append_eq_nil_iff.mp split.symm).1] at length
  have none_left : anchor.1.textOffset - position = 0 := length.symm
  omega

/-- The anchors that do not lie at a character lie behind it. -/
theorem Placed.behind (placed : Placed (character :: rest) position anchors) :
    ∀ anchor ∈ anchors.dropWhile (liesAt position), position < anchor.1.textOffset := by
  induction anchors with
  | nil => nofun
  | cons first anchors ih =>
      have ordered := List.pairwise_cons.mp placed.ordered
      have ahead := placed.ahead first List.mem_cons_self
      rw [List.dropWhile_cons]
      split
      · exact ih ⟨ordered.2, fun anchor member => placed.ahead anchor (List.mem_cons_of_mem _ member),
          fun anchor member => placed.boundary anchor (List.mem_cons_of_mem _ member)⟩
      · rename_i elsewhere
        have apart : first.1.textOffset ≠ position := of_decide_eq_false (Bool.eq_false_iff.mpr elsewhere)
        intro anchor member
        rcases List.mem_cons.mp member with rfl | later
        · omega
        · have order := ordered.1 anchor later
          omega

/-- The anchors behind a character are placed in the rest of the text. -/
theorem Placed.following (placed : Placed (character :: rest) position anchors) :
    Placed rest (position + character.utf8Size) (anchors.dropWhile (liesAt position)) := by
  have inside : ∀ anchor ∈ anchors.dropWhile (liesAt position),
      position + character.utf8Size ≤ anchor.1.textOffset ∧
        IsCharBoundary rest (anchor.1.textOffset - (position + character.utf8Size)) := by
    intro anchor member
    have behind := placed.behind anchor member
    obtain ⟨before, after, split, length⟩ :=
      placed.boundary anchor ((List.dropWhile_suffix _).subset member)
    cases before with
    | nil =>
        have none_left : anchor.1.textOffset - position = 0 := length.symm
        omega
    | cons first before =>
        obtain ⟨rfl, split'⟩ := List.cons.inj split
        rw [String.utf8Len_cons] at length
        exact ⟨by omega, before, after, split', by omega⟩
  exact ⟨placed.ordered.sublist (List.dropWhile_suffix _).sublist, fun anchor member =>
    (inside anchor member).1, fun anchor member => (inside anchor member).2⟩

end Placing

namespace Generated

/-- Write tokens whose characters start at `position` of the source. -/
def emit (out : Generated) (position : Nat) (tokens : List Token) : Generated where
  text := out.text ++ tokens.flatMap Token.encode
  boundaries := out.boundaries ++ (trail position tokens).map asU32

theorem emit_nil (out : Generated) (position : Nat) : out.emit position [] = out := by
  rw [emit, trail, List.flatMap_nil, List.append_nil, List.map_nil, List.append_nil]

/-- **Writing tokens one after the other** writes them all. -/
theorem emit_emit (out : Generated) (position : Nat) (first second : List Token) :
    (out.emit position first).emit (position + utf8Len (charactersOf first)) second =
      out.emit position (first ++ second) := by
  rw [emit, emit, emit, trail_append, List.flatMap_append, List.map_append, List.append_assoc,
    List.append_assoc]

/-- Every boundary of an appended text but the last is its start. -/
theorem appendText_boundaries (out : Generated) {text : List Char} (some_text : text ≠ [])
    (sourceStart sourceEnd : Nat) :
    (out.appendText text sourceStart sourceEnd).boundaries =
      out.boundaries ++ List.replicate (text.length - 1) sourceStart ++ [sourceEnd] := by
  have positive := List.length_pos_iff.mpr some_text
  obtain ⟨count, length⟩ : ∃ count, text.length = count + 1 := ⟨text.length - 1, by omega⟩
  have inner : (List.range count).map (fun index => if index + 1 = count + 1 then sourceEnd
      else sourceStart) = List.replicate count sourceStart := by
    rw [List.eq_replicate_iff]
    refine ⟨by rw [List.length_map, List.length_range], fun boundary member => ?_⟩
    obtain ⟨index, listed, rfl⟩ := List.mem_map.mp member
    have below := List.mem_range.mp listed
    rw [if_neg (by omega)]
  rw [appendText, length, List.range_succ, List.map_append, inner, List.map_singleton, if_pos rfl,
    Nat.add_sub_cancel, List.append_assoc]

/-- A tag is written between two characters. -/
theorem appendText_tag (out : Generated) (content : List Char) (position : Nat) :
    out.appendText ('<' :: content ++ ['>']) (asU32 position) (asU32 position) =
      out.emit position [.tag content] := by
  have text : (out.appendText ('<' :: content ++ ['>']) (asU32 position) (asU32 position)).text =
      (out.emit position [.tag content]).text := by
    rw [appendText, emit, List.flatMap_singleton, Token.encode]
  have boundaries : (out.appendText ('<' :: content ++ ['>']) (asU32 position)
      (asU32 position)).boundaries = (out.emit position [.tag content]).boundaries := by
    have length : ('<' :: content ++ ['>']).length = content.length + 2 := by
      rw [List.cons_append, List.length_cons, List.length_append, List.length_singleton]
    rw [appendText_boundaries out (by simp), emit, trail, trail, List.append_nil,
      List.map_replicate, List.append_assoc, length, ← List.replicate_succ']
    rfl
  rw [Generated.mk.injEq]
  exact ⟨text, boundaries⟩

theorem appendAnchor_eq (out : Generated) (anchor : RequestedAnchor × Nat)
    (small : anchor.1.textOffset ≤ wordMax 32) :
    out.appendAnchor anchor.2 anchor.1.textOffset =
      out.emit anchor.1.textOffset [markToken anchor] := by
  have tag := appendText_tag out (markContent anchor.2) anchor.1.textOffset
  rw [asU32_of_le small] at tag
  exact tag

/-- The source writes its entities as the markup reads them. -/
theorem escape_eq (c : Char) : escape c = (escaped c).getD [c] := by
  unfold escaped
  split
  case h_6 => simp [escape, entityName, *]
  all_goals rfl

theorem appendCharacter_eq (out : Generated) (character : Char) (position : Nat) :
    out.appendCharacter character position = out.emit position [.character character] := by
  have written := escape_eq character
  have boundaries : (trail position [Token.character character]).map asU32 =
      List.replicate ((escape character).length - 1) (asU32 position) ++
        [asU32 (position + character.utf8Size)] := by
    rw [trail, trail, List.map_append, List.map_replicate, List.map_singleton]
  rw [appendCharacter, emit, boundaries, List.flatMap_singleton, Token.encode]
  split
  · rename_i text known
    rw [known, Option.getD_some] at written
    rw [written] at boundaries ⊢
    rw [Generated.mk.injEq]
    refine ⟨rfl, ?_⟩
    rw [← List.append_assoc, ← appendText_boundaries out (written ▸ escape_ne_nil character)]
  · rename_i plain
    rw [plain, Option.getD_none] at written
    rw [written]
    rfl

/-- **Marks at one position** are written there. -/
theorem foldl_appendAnchor (out : Generated) {position : Nat}
    {anchors : List (RequestedAnchor × Nat)} (small : position ≤ wordMax 32)
    (here : ∀ anchor ∈ anchors, anchor.1.textOffset = position) :
    appendAnchors anchors out = out.emit position (anchors.map markToken) := by
  induction anchors generalizing out with
  | nil => rw [List.map_nil, emit_nil]; rfl
  | cons anchor anchors ih =>
      rw [List.forall_mem_cons] at here
      have first := appendAnchor_eq out anchor (by rw [here.1]; exact small)
      have rest := ih (out.appendAnchor anchor.2 anchor.1.textOffset) here.2
      have both := emit_emit out position [markToken anchor] (anchors.map markToken)
      rw [here.1] at first
      rw [appendAnchors, List.foldl_cons, ← appendAnchors, rest, here.1, first, List.map_cons]
      exact both

/-- The anchors that lie at a character are written in front of it. -/
theorem appendAnchorsAt_eq (out : Generated) (position : Nat)
    (anchors : List (RequestedAnchor × Nat)) :
    appendAnchorsAt position anchors out =
      (anchors.dropWhile (liesAt position),
        appendAnchors (anchors.takeWhile (liesAt position)) out) := by
  induction anchors generalizing out with
  | nil => rfl
  | cons anchor anchors ih =>
      rw [appendAnchorsAt, List.dropWhile_cons, List.takeWhile_cons, liesAt]
      split
      · rename_i here
        rw [ih, decide_eq_true here, if_pos rfl, if_pos rfl, appendAnchors, appendAnchors,
          List.foldl_cons]
      · rename_i elsewhere
        rw [decide_eq_false elsewhere, if_neg Bool.false_ne_true, if_neg Bool.false_ne_true]
        rfl

theorem charactersOf_marks (anchors : List (RequestedAnchor × Nat)) :
    charactersOf (anchors.map markToken) = [] := by
  induction anchors with
  | nil => rfl
  | cons anchor anchors ih =>
      rw [List.map_cons, markToken, charactersOf_tag, ih]

/-- **The loop over the source** writes its characters and its marks. -/
theorem appendSource_eq {text : List Char} {position : Nat}
    {anchors : List (RequestedAnchor × Nat)} (placed : Placed text position anchors)
    (small : ∀ anchor ∈ anchors, anchor.1.textOffset ≤ wordMax 32) (out : Generated) :
    appendSource text position anchors out = out.emit position (sourceTokens text position anchors) := by
  induction text generalizing position anchors out with
  | nil =>
      rw [appendSource, sourceTokens]
      cases anchors with
      | nil => rw [List.map_nil, emit_nil]; rfl
      | cons anchor anchors =>
          have here := placed.at_end
          have fits := small anchor List.mem_cons_self
          rw [here anchor List.mem_cons_self] at fits
          exact foldl_appendAnchor out fits here
  | cons character rest ih =>
      rw [appendSource, appendAnchorsAt_eq, sourceTokens]
      dsimp only
      rw [ih placed.following fun anchor member => small anchor ((List.dropWhile_suffix _).subset member)]
      have marks : appendAnchors (anchors.takeWhile (liesAt position)) out =
          out.emit position ((anchors.takeWhile (liesAt position)).map markToken) := by
        cases taken : anchors.takeWhile (liesAt position) with
        | nil => rw [List.map_nil, emit_nil]; rfl
        | cons anchor others =>
            have here : ∀ other ∈ anchor :: others, other.1.textOffset = position := by
              intro other member
              rw [← taken] at member
              have lies : liesAt position other = true := List.mem_takeWhile_imp member
              exact of_decide_eq_true lies
            have inside : anchor ∈ anchors := by
              have member : anchor ∈ anchors.takeWhile (liesAt position) := by
                rw [taken]
                exact List.mem_cons_self
              exact (List.takeWhile_prefix _).subset member
            have fits := small anchor inside
            rw [here anchor List.mem_cons_self] at fits
            exact foldl_appendAnchor out fits here
      have written := emit_emit out position ((anchors.takeWhile (liesAt position)).map markToken)
        [.character character]
      rw [charactersOf_marks, String.utf8Len_nil, Nat.add_zero] at written
      have all := emit_emit out position ((anchors.takeWhile (liesAt position)).map markToken ++
        [.character character]) (sourceTokens rest (position + character.utf8Size)
          (anchors.dropWhile (liesAt position)))
      rw [charactersOf_append, charactersOf_marks, List.nil_append] at all
      rw [marks, appendCharacter_eq, written]
      have size : utf8Len (charactersOf [Token.character character]) = character.utf8Size := by
        rw [charactersOf_character, charactersOf_nil, String.utf8Len_cons, String.utf8Len_nil,
          Nat.zero_add]
      rw [size, List.append_assoc, List.singleton_append] at all
      exact all

end Generated

/-! ## The tokens of a request -/

theorem charactersOf_sourceTokens (text : List Char) (position : Nat)
    (anchors : List (RequestedAnchor × Nat)) :
    charactersOf (sourceTokens text position anchors) = text := by
  induction text generalizing position anchors with
  | nil => exact Generated.charactersOf_marks anchors
  | cons character rest ih =>
      rw [sourceTokens, charactersOf_append, Generated.charactersOf_marks, charactersOf_character,
        ih, List.nil_append]

theorem charactersOf_requestTokens (request : SynthesisRequest) :
    charactersOf (requestTokens request) = request.text := by
  rw [requestTokens, List.cons_append, charactersOf_tag, charactersOf_append,
    charactersOf_sourceTokens]
  exact List.append_nil _

/-- The text before an anchor. -/
def textBefore (text : List Char) (anchor : RequestedAnchor) : List Char :=
  (splitAtByte text anchor.textOffset).1

theorem tagsWithin_marks (before : List Char) (anchors : List (RequestedAnchor × Nat)) :
    tagsWithin before (anchors.map markToken) =
      anchors.map fun anchor => (Generated.markContent anchor.2, before) := by
  induction anchors with
  | nil => rfl
  | cons anchor anchors ih => rw [List.map_cons, List.map_cons, markToken, tagsWithin, ih]

theorem splitAtByte_of_length {before after : List Char} {offset : Nat}
    (length : utf8Len before = offset) : (splitAtByte (before ++ after) offset).1 = before := by
  rw [← length, splitAtByte_append]

/-- **Every mark stands behind the text before its anchor.** -/
theorem tagsWithin_sourceTokens {whole before text : List Char}
    {anchors : List (RequestedAnchor × Nat)} (split : whole = before ++ text)
    (placed : Placed text (utf8Len before) anchors) :
    tagsWithin before (sourceTokens text (utf8Len before) anchors) =
      anchors.map fun anchor => (Generated.markContent anchor.2, textBefore whole anchor.1) := by
  induction text generalizing before anchors with
  | nil =>
      rw [sourceTokens, tagsWithin_marks]
      refine List.map_congr_left fun anchor member => ?_
      rw [textBefore, split, splitAtByte_of_length (placed.at_end anchor member).symm]
  | cons character rest ih =>
      have split' : whole = (before ++ [character]) ++ rest := by
        rw [split, List.append_assoc, List.singleton_append]
      have length : utf8Len (before ++ [character]) = utf8Len before + character.utf8Size := by
        rw [String.utf8Len_append, String.utf8Len_cons, String.utf8Len_nil, Nat.zero_add]
      have following := placed.following
      rw [← length] at following
      have further := ih split' following
      rw [length] at further
      have here : ((anchors.takeWhile (liesAt (utf8Len before))).map fun anchor =>
          (Generated.markContent anchor.2, before)) =
          (anchors.takeWhile (liesAt (utf8Len before))).map fun anchor =>
            (Generated.markContent anchor.2, textBefore whole anchor.1) := by
        refine List.map_congr_left fun anchor member => ?_
        have lies : liesAt (utf8Len before) anchor = true := List.mem_takeWhile_imp member
        rw [textBefore, split, splitAtByte_of_length (of_decide_eq_true lies).symm]
      rw [sourceTokens, tagsWithin_append, tagsWithin_marks, Generated.charactersOf_marks,
        List.append_nil, tagsWithin, further, here, ← List.map_append,
        List.takeWhile_append_dropWhile]

/-- The tokens up to a place of the text, and those behind it. -/
theorem sourceTokens_append (before after : List Char) {position : Nat}
    {anchors : List (RequestedAnchor × Nat)} (placed : Placed (before ++ after) position anchors) :
    ∃ front anchors', sourceTokens (before ++ after) position anchors =
        front ++ sourceTokens after (position + utf8Len before) anchors' ∧
      charactersOf front = before ∧ Placed after (position + utf8Len before) anchors' ∧
        anchors' <:+ anchors := by
  induction before generalizing position anchors with
  | nil => exact ⟨[], anchors, rfl, rfl, placed, List.suffix_rfl⟩
  | cons character before ih =>
      obtain ⟨front, anchors', same, characters, placed', suffix⟩ := ih placed.following
      have length : position + character.utf8Size + utf8Len before =
          position + utf8Len (character :: before) := by
        rw [String.utf8Len_cons]
        omega
      rw [length] at same placed'
      refine ⟨(anchors.takeWhile (liesAt position)).map markToken ++ .character character :: front,
        anchors', ?_, ?_, placed', suffix.trans (List.dropWhile_suffix _)⟩
      · rw [List.cons_append, sourceTokens, same, List.append_assoc, List.cons_append]
      · rw [charactersOf_append, Generated.charactersOf_marks, charactersOf_character, characters,
          List.nil_append]

/-- Text in front of every anchor is written in one piece. -/
theorem sourceTokens_ahead {middle after : List Char} {position : Nat}
    {anchors : List (RequestedAnchor × Nat)}
    (ahead : ∀ anchor ∈ anchors, position + utf8Len middle ≤ anchor.1.textOffset) :
    sourceTokens (middle ++ after) position anchors =
      middle.map .character ++ sourceTokens after (position + utf8Len middle) anchors := by
  induction middle generalizing position with
  | nil => rfl
  | cons character middle ih =>
      have wide : 0 < character.utf8Size := Char.utf8Size_pos character
      have length : utf8Len (character :: middle) = utf8Len middle + character.utf8Size :=
        String.utf8Len_cons _ _
      have apart : ∀ anchor ∈ anchors, ¬ liesAt position anchor = true := by
        intro anchor member here
        have later := ahead anchor member
        have same : anchor.1.textOffset = position := of_decide_eq_true here
        omega
      have taken : anchors.takeWhile (liesAt position) = [] := by
        cases anchors with
        | nil => rfl
        | cons anchor anchors =>
            rw [List.takeWhile_cons, if_neg (apart anchor List.mem_cons_self)]
      have dropped : anchors.dropWhile (liesAt position) = anchors := by
        cases anchors with
        | nil => rfl
        | cons anchor anchors =>
            rw [List.dropWhile_cons, if_neg (apart anchor List.mem_cons_self)]
      have ahead' : ∀ anchor ∈ anchors,
          position + character.utf8Size + utf8Len middle ≤ anchor.1.textOffset := by
        intro anchor member
        have later := ahead anchor member
        omega
      have further := ih ahead'
      have place : position + character.utf8Size + utf8Len middle =
          position + utf8Len (character :: middle) := by omega
      rw [List.cons_append, sourceTokens, taken, dropped, further, place]
      rfl

/-- **Text without an anchor inside is written in one piece.** -/
theorem sourceTokens_piece {middle after : List Char} {position : Nat}
    {anchors : List (RequestedAnchor × Nat)} (placed : Placed (middle ++ after) position anchors)
    (free : ∀ anchor ∈ anchors, ¬ (position < anchor.1.textOffset ∧
      anchor.1.textOffset < position + utf8Len middle)) :
    ∃ marks later, sourceTokens (middle ++ after) position anchors =
        marks ++ middle.map .character ++ later ∧ charactersOf marks = [] := by
  cases middle with
  | nil => exact ⟨[], _, rfl, rfl⟩
  | cons character middle =>
      have length : utf8Len (character :: middle) = utf8Len middle + character.utf8Size :=
        String.utf8Len_cons _ _
      have ahead : ∀ anchor ∈ anchors.dropWhile (liesAt position),
          position + character.utf8Size + utf8Len middle ≤ anchor.1.textOffset := by
        intro anchor member
        have behind := placed.behind anchor member
        have outside := free anchor ((List.dropWhile_suffix _).subset member)
        omega
      refine ⟨(anchors.takeWhile (liesAt position)).map markToken,
        sourceTokens after (position + character.utf8Size + utf8Len middle)
          (anchors.dropWhile (liesAt position)), ?_, Generated.charactersOf_marks _⟩
      rw [List.cons_append, sourceTokens, sourceTokens_ahead ahead, List.append_assoc]
      rfl

/-! ## The arrangement of the anchors -/

theorem arranged_perm (anchors : List RequestedAnchor) : (arranged anchors).Perm anchors.zipIdx :=
  List.perm_insertionSort _ _

/-- **Anchors are arranged by their offsets**, those of one offset by their indices. -/
theorem arranged_ordered (anchors : List RequestedAnchor) :
    (arranged anchors).Pairwise fun first second =>
      first.1.textOffset < second.1.textOffset ∨
        first.1.textOffset = second.1.textOffset ∧ first.2 < second.2 := by
  have sorted := List.pairwise_insertionSort (keyThenNumber RequestedAnchor.textOffset)
    anchors.zipIdx
  have distinct : (arranged anchors).Pairwise fun first second => first.2 ≠ second.2 := by
    have numbers : anchors.zipIdx.Pairwise fun first second => first.2 ≠ second.2 :=
      (zipIdx_pairwise anchors 0).imp Nat.ne_of_lt
    exact (arranged_perm anchors).symm.pairwise numbers Ne.symm
  refine (sorted.and distinct).imp ?_
  rintro first second ⟨below | ⟨level, early⟩, apart⟩
  · exact .inl below
  · exact .inr ⟨level, lt_of_le_of_ne early apart⟩

theorem mem_arranged {anchors : List RequestedAnchor} {anchor : RequestedAnchor × Nat} :
    anchor ∈ arranged anchors ↔ anchors[anchor.2]? = some anchor.1 := by
  rw [(arranged_perm anchors).mem_iff, List.mem_zipIdx_iff_getElem?]

theorem arranged_placed {text : List Char} {anchors : List RequestedAnchor}
    (boundaries : ∀ anchor ∈ anchors, IsCharBoundary text anchor.textOffset) :
    Placed text 0 (arranged anchors) where
  ordered := (arranged_ordered anchors).imp fun order => by
    rcases order with below | level
    · exact below.le
    · exact level.1.le
  ahead := fun _ _ => Nat.zero_le _
  boundary := fun anchor member =>
    boundaries anchor.1 (List.mem_of_getElem? (mem_arranged.mp member))

/-! ## Marks -/

theorem markContent_injective : Function.Injective Generated.markContent := by
  intro first second same
  unfold Generated.markContent at same
  have digits := List.append_cancel_right same
  exact Nat.repr_injective (String.toList_injective (List.append_cancel_left digits))

/-- A mark holds neither a bracket nor a null character. -/
theorem mem_markContent {index : Nat} {c : Char} (member : c ∈ Generated.markContent index) :
    c ∈ "mark name=\"ovx\"/".toList ∨ c.isDigit = true := by
  have opening : "mark name=\"ovx".toList ⊆ "mark name=\"ovx\"/".toList := by decide +kernel
  have closing : "\"/".toList ⊆ "mark name=\"ovx\"/".toList := by decide +kernel
  unfold Generated.markContent at member
  rcases List.mem_append.mp member with front | last
  · rcases List.mem_append.mp front with first | digit
    · exact Or.inl (opening first)
    · right
      rw [Nat.toList_repr] at digit
      exact Nat.isDigit_of_mem_toDigits (by decide) (by decide) digit
  · exact Or.inl (closing last)

theorem tag_mem_sourceTokens {text content : List Char} {position : Nat}
    {anchors : List (RequestedAnchor × Nat)}
    (member : Token.tag content ∈ sourceTokens text position anchors) :
    ∃ index, content = Generated.markContent index := by
  have marks : ∀ anchors : List (RequestedAnchor × Nat), Token.tag content ∈ anchors.map markToken →
      ∃ index, content = Generated.markContent index := by
    intro anchors listed
    obtain ⟨anchor, _, same⟩ := List.mem_map.mp listed
    exact ⟨anchor.2, (Token.tag.inj same).symm⟩
  induction text generalizing position anchors with
  | nil => exact marks anchors member
  | cons character rest ih =>
      rw [sourceTokens] at member
      rcases List.mem_append.mp member with mark | behind
      · exact marks _ mark
      · rcases List.mem_cons.mp behind with other | later
        · cases other
        · exact ih later

/-- The tags of a request are the two that enclose it and its marks. -/
theorem tag_mem_requestTokens {request : SynthesisRequest} {content : List Char}
    (member : Token.tag content ∈ requestTokens request) :
    (content = "speak".toList ∨ content = "/speak".toList) ∨
      ∃ index, content = Generated.markContent index := by
  rw [requestTokens, List.cons_append] at member
  rcases List.mem_cons.mp member with opens | inside
  · exact .inl (.inl (Token.tag.inj opens))
  · rcases List.mem_append.mp inside with body | closes
    · exact .inr (tag_mem_sourceTokens body)
    · exact .inl (.inr (Token.tag.inj (List.mem_singleton.mp closes)))

/-- No tag holds a closing bracket or a null character. -/
theorem not_mem_tag {request : SynthesisRequest} {content : List Char}
    (member : Token.tag content ∈ requestTokens request) : '>' ∉ content ∧ '\x00' ∉ content := by
  rcases tag_mem_requestTokens member with (rfl | rfl) | ⟨index, rfl⟩
  · decide
  · decide
  · constructor
    · intro inside
      rcases mem_markContent inside with plain | digit
      · revert plain
        decide
      · cases digit
    · intro inside
      rcases mem_markContent inside with plain | digit
      · revert plain
        decide
      · cases digit

theorem requestTokens_proper (request : SynthesisRequest) :
    ∀ token ∈ requestTokens request, token.Proper := by
  intro token member
  cases token with
  | character c => exact trivial
  | tag content => exact (not_mem_tag member).1

/-- Writing a character writes no null character for it. -/
theorem null_not_mem_escape {c : Char} (other : c ≠ '\x00') : '\x00' ∉ escape c := by
  unfold escape
  split
  · rename_i name named
    unfold entityName at named
    split at named <;> cases named <;> decide
  · rw [List.mem_singleton]
    exact other.symm

/-- **No null character is added** to a text without one. -/
theorem null_not_mem_encode {request : SynthesisRequest} (no_null : '\x00' ∉ request.text) :
    '\x00' ∉ (requestTokens request).flatMap Token.encode := by
  intro member
  obtain ⟨token, listed, inside⟩ := List.mem_flatMap.mp member
  cases token with
  | character c =>
      have known : c ∈ request.text := by
        rw [← charactersOf_requestTokens request]
        exact List.mem_filterMap.mpr ⟨_, listed, rfl⟩
      exact null_not_mem_escape (fun same => no_null (same ▸ known)) inside
  | tag content =>
      have plain : '\x00' ∉ '<' :: content ++ ['>'] := by
        simpa using (not_mem_tag listed).2
      exact plain inside

/-! ## Generating -/

/-- **What is generated for a request.** -/
theorem generate_eq {request : SynthesisRequest}
    (boundaries : ∀ anchor ∈ request.anchors, IsCharBoundary request.text anchor.textOffset)
    (small : ∀ anchor ∈ request.anchors, anchor.textOffset ≤ wordMax 32) :
    EspeakInput.generate request =
      { text := (requestTokens request).flatMap Token.encode
        boundaries := (0 :: trail 0 (requestTokens request)).map asU32 } := by
  have opened := Generated.appendText_tag { text := [], boundaries := [0] } "speak".toList 0
  have placed := arranged_placed boundaries
  have fits : ∀ anchor ∈ arranged request.anchors, anchor.1.textOffset ≤ wordMax 32 :=
    fun anchor member => small anchor.1 (List.mem_of_getElem? (mem_arranged.mp member))
  have closed := fun out : Generated =>
    Generated.appendText_tag out "/speak".toList (utf8Len request.text)
  have first := Generated.emit_emit { text := [], boundaries := [0] } 0 [.tag "speak".toList]
    (sourceTokens request.text 0 (arranged request.anchors))
  have second := Generated.emit_emit { text := [], boundaries := [0] } 0
    ([.tag "speak".toList] ++ sourceTokens request.text 0 (arranged request.anchors))
    [.tag "/speak".toList]
  rw [charactersOf_append, charactersOf_sourceTokens, charactersOf_tag, charactersOf_nil,
    List.nil_append, Nat.zero_add] at second
  rw [charactersOf_tag, charactersOf_nil, String.utf8Len_nil, Nat.zero_add] at first
  have start : Generated.appendText { text := [], boundaries := [0] } "<speak>".toList 0 0 =
      Generated.emit { text := [], boundaries := [0] } 0 [.tag "speak".toList] := opened
  rw [EspeakInput.generate, start, Generated.appendSource_eq placed fits, first]
  have finish := closed (Generated.emit { text := [], boundaries := [0] } 0
    ([.tag "speak".toList] ++ sourceTokens request.text 0 (arranged request.anchors)))
  rw [second] at finish
  exact finish

/-! ## The text and its map -/

/-- The input, read as `tokens`, keeps the text of the request and its anchors. -/
structure KeepsText (request : SynthesisRequest) (input : EspeakInput) (tokens : List Token) :
    Prop where
  reads : Reads input.text tokens
  decoded : charactersOf tokens = request.text
  tags : tagsWithin [] tokens =
    ("speak".toList, []) :: ((arranged request.anchors).map fun anchor =>
      (Generated.markContent anchor.2, textBefore request.text anchor.1)) ++
        [("/speak".toList, request.text)]
  order : (arranged request.anchors).Pairwise fun first second =>
    first.1.textOffset < second.1.textOffset ∨
      first.1.textOffset = second.1.textOffset ∧ first.2 < second.2
  once : ∀ index anchor, request.anchors[index]? = some anchor →
    ((tagsWithin [] tokens).filter fun tag => tag.1 = Generated.markContent index) =
      [(Generated.markContent index, textBefore request.text anchor)]

/-- The input maps the boundaries of the generated text to those of the request. -/
structure KeepsMap (request : SynthesisRequest) (input : EspeakInput) (boundaries : List Nat) :
    Prop where
  given : input.sourceBoundaries = some boundaries
  length : boundaries.length = input.text.length + 1
  ordered : boundaries.Pairwise (· ≤ ·)
  within : ∀ boundary ∈ boundaries, IsCharBoundary request.text boundary
  first : boundaries.head? = some 0
  last : boundaries.getLast? = some (utf8Len request.text)
  pieces : ∀ before middle after, request.text = before ++ middle ++ after →
    (∀ anchor ∈ request.anchors, ¬ (utf8Len before < anchor.textOffset ∧
      anchor.textOffset < utf8Len before + utf8Len middle)) →
    ∃ front back tokens, input.text = front ++ middle.flatMap escape ++ back ∧
      Reads front tokens ∧ charactersOf tokens = before
  ranges : ∀ front middle back tokens, input.text = front ++ middle.flatMap escape ++ back →
    Reads front tokens → input.text.length ≤ usizeMax →
      input.sourceRange request.text (front.length + 1) (middle.flatMap escape).length =
        some (utf8Len (charactersOf tokens), utf8Len middle)

section Keeping

variable {request : SynthesisRequest}

/-- The tags of a request with the text in front of each. -/
theorem tagsWithin_requestTokens
    (boundaries : ∀ anchor ∈ request.anchors, IsCharBoundary request.text anchor.textOffset) :
    tagsWithin [] (requestTokens request) =
      ("speak".toList, []) :: ((arranged request.anchors).map fun anchor =>
        (Generated.markContent anchor.2, textBefore request.text anchor.1)) ++
          [("/speak".toList, request.text)] := by
  have whole : request.text = [] ++ request.text := rfl
  have source := tagsWithin_sourceTokens whole (arranged_placed boundaries)
  rw [String.utf8Len_nil] at source
  rw [requestTokens, List.cons_append, tagsWithin, tagsWithin_append, source,
    charactersOf_sourceTokens, tagsWithin, tagsWithin, List.nil_append, List.cons_append]

theorem markContent_ne {content : List Char} (other : content.head? ≠ some 'm') (index : Nat) :
    content ≠ Generated.markContent index := by
  rintro rfl
  exact other rfl

/-- **Every anchor has exactly one mark**, behind the text before it. -/
theorem marks_once {index : Nat} {anchor : RequestedAnchor}
    (known : request.anchors[index]? = some anchor) :
    ((("speak".toList, []) :: ((arranged request.anchors).map fun anchor =>
      (Generated.markContent anchor.2, textBefore request.text anchor.1)) ++
        [("/speak".toList, request.text)]).filter
          fun tag => tag.1 = Generated.markContent index) =
      [(Generated.markContent index, textBefore request.text anchor)] := by
  have opens : "speak".toList ≠ Generated.markContent index := markContent_ne (by decide) index
  have closes : "/speak".toList ≠ Generated.markContent index := markContent_ne (by decide) index
  have same : ∀ other : RequestedAnchor × Nat,
      decide (Generated.markContent other.2 = Generated.markContent index) =
        decide (other.2 = index) := fun other =>
    decide_eq_decide.mpr markContent_injective.eq_iff
  have found : (arranged request.anchors).filter (fun other => other.2 = index) =
      [(anchor, index)] := by
    have perm := (arranged_perm request.anchors).filter fun other => decide (other.2 = index)
    have numbered : request.anchors.zipIdx.filter (fun other => other.2 = index) =
        [(anchor, index)] := by
      have member : (anchor, index) ∈ request.anchors.zipIdx.filter (fun other => other.2 = index) :=
        List.mem_filter.mpr ⟨List.mem_zipIdx_iff_getElem?.mpr known, decide_eq_true rfl⟩
      have once : (request.anchors.zipIdx.filter (fun other => other.2 = index)).Pairwise
          fun first second => first.2 < second.2 := (zipIdx_pairwise request.anchors 0).filter _
      have all : ∀ other ∈ request.anchors.zipIdx.filter (fun other => other.2 = index),
          other.2 = index := fun other inside => of_decide_eq_true (List.mem_filter.mp inside).2
      cases listed : request.anchors.zipIdx.filter (fun other => other.2 = index) with
      | nil =>
          rw [listed] at member
          cases member
      | cons first rest =>
          rw [listed] at member once all
          cases rest with
          | nil => rw [List.mem_singleton.mp member]
          | cons second rest =>
              have apart := (List.pairwise_cons.mp once).1 second List.mem_cons_self
              rw [all first List.mem_cons_self,
                all second (List.mem_cons_of_mem _ List.mem_cons_self)] at apart
              exact absurd apart (Nat.lt_irrefl _)
    rw [numbered] at perm
    exact List.perm_singleton.mp perm
  have composed : (fun tag : List Char × List Char => decide (tag.1 = Generated.markContent index)) ∘
      (fun anchor : RequestedAnchor × Nat =>
        (Generated.markContent anchor.2, textBefore request.text anchor.1)) =
      fun other => decide (other.2 = index) := by
    funext other
    exact same other
  generalize "speak".toList = opening at opens
  generalize "/speak".toList = closing at closes
  rw [List.cons_append, List.filter_cons, List.filter_append, List.filter_singleton,
    decide_eq_false opens, decide_eq_false closes, List.filter_map, composed, found,
    if_neg Bool.false_ne_true, cond_false, List.append_nil, List.map_singleton]

/-- The map of a request whose length fits its type. -/
theorem keepsMap_of_le {text : List Char}
    (boundaries : ∀ anchor ∈ request.anchors, IsCharBoundary request.text anchor.textOffset)
    (short : utf8Len request.text ≤ wordMax 32)
    (written : text = (requestTokens request).flatMap Token.encode) (flags : Nat) :
    KeepsMap request
      { text := text, flags := flags,
        sourceBoundaries := some ((0 :: trail 0 (requestTokens request)).map asU32) }
      ((0 :: trail 0 (requestTokens request)).map asU32) := by
  subst written
  have along : ∀ boundary ∈ 0 :: trail 0 (requestTokens request),
      IsCharBoundary request.text boundary ∧ boundary ≤ utf8Len request.text := by
    intro boundary member
    obtain ⟨before, ⟨after, whole⟩, same⟩ := mem_trail member
    rw [charactersOf_requestTokens] at whole
    rw [Nat.zero_add] at same
    have length := congrArg utf8Len whole
    rw [String.utf8Len_append] at length
    exact ⟨⟨before, after, whole.symm, same.symm⟩, by omega⟩
  have same : (0 :: trail 0 (requestTokens request)).map asU32 =
      0 :: trail 0 (requestTokens request) := by
    rw [List.map_congr_left (g := id), List.map_id]
    intro boundary member
    exact asU32_of_le ((along boundary member).2.trans short)
  have reads := reads_encode (requestTokens_proper request)
  rw [same]
  constructor
  · rfl
  · rw [List.length_cons, length_trail]
  · exact trail_sorted 0 _
  · exact fun boundary member => (along boundary member).1
  · rfl
  · have final := trail_at 0 (requestTokens request) []
    rw [List.append_nil, Nat.zero_add, charactersOf_requestTokens] at final
    rw [List.getLast?_eq_getElem?, List.length_cons, length_trail, Nat.add_sub_cancel]
    exact final
  · intro before middle after whole free
    have placed := arranged_placed boundaries
    rw [whole, List.append_assoc] at placed
    obtain ⟨front, anchors, split, characters, placed', suffix⟩ :=
      sourceTokens_append before (middle ++ after) placed
    rw [Nat.zero_add] at split placed'
    obtain ⟨marks, later, piece, none_else⟩ := sourceTokens_piece placed' (by
      intro anchor member inside
      have known := mem_arranged.mp (suffix.subset member)
      exact free anchor.1 (List.mem_of_getElem? known) inside)
    have tokens : requestTokens request = (.tag "speak".toList :: front ++ marks) ++
        (middle.map .character ++ (later ++ [.tag "/speak".toList])) := by
      rw [requestTokens, whole, List.append_assoc, split, piece]
      simp only [List.cons_append, List.append_assoc]
    have proper : ∀ token ∈ Token.tag "speak".toList :: front ++ marks, token.Proper := by
      intro token member
      refine requestTokens_proper request token ?_
      rw [tokens]
      exact List.mem_append_left _ member
    refine ⟨(Token.tag "speak".toList :: front ++ marks).flatMap Token.encode,
      (later ++ [Token.tag "/speak".toList]).flatMap Token.encode, _, ?_, reads_encode proper, ?_⟩
    · change (requestTokens request).flatMap Token.encode = _
      rw [tokens]
      simp only [List.flatMap_append, flatMap_encode_characters, List.append_assoc]
    · rw [List.cons_append, charactersOf_tag, charactersOf_append, characters, none_else,
        List.append_nil]
  · intro front middle back tokens whole read small
    have proper := requestTokens_proper request
    change (requestTokens request).flatMap Token.encode = _ at whole
    have middle_reads : Reads (middle.flatMap escape) (middle.map .character) := by
      rw [← flatMap_encode_characters]
      refine reads_encode fun token member => ?_
      obtain ⟨c, _, rfl⟩ := List.mem_map.mp member
      exact trivial
    obtain ⟨later, split, front_written⟩ :=
      Reads.of_prefix proper read (whole.trans (List.append_assoc _ _ _))
    obtain ⟨later', split', end_written⟩ := Reads.of_prefix proper (read.append middle_reads) whole
    have start_at := trail_at 0 tokens later
    have end_at := trail_at 0 (tokens ++ middle.map .character) later'
    rw [← split, ← front_written, Nat.zero_add] at start_at
    rw [← split', ← end_written, Nat.zero_add, charactersOf_append, charactersOf_map_character,
      String.utf8Len_append, List.length_append] at end_at
    have fits : front.length + (middle.flatMap escape).length ≤ usizeMax := by
      change ((requestTokens request).flatMap Token.encode).length ≤ usizeMax at small
      rw [whole, List.length_append, List.length_append] at small
      omega
    rw [EspeakInput.sourceRange]
    dsimp only
    rw [if_neg (Nat.succ_ne_zero _), Nat.add_sub_cancel]
    simp only [Option.bind_eq_bind, Option.bind_some, checkedAdd_of_le fits, start_at, end_at,
      Option.pure_def, Nat.add_sub_cancel_left]

/-- The end of the map, whatever the length of the text. -/
theorem getLast?_boundaries (request : SynthesisRequest) :
    ((0 :: trail 0 (requestTokens request)).map asU32).getLast? =
      some (asU32 (utf8Len request.text)) := by
  have final := trail_at 0 (requestTokens request) []
  rw [List.append_nil, Nat.zero_add, charactersOf_requestTokens] at final
  rw [List.getLast?_eq_getElem?, List.length_map, List.length_cons, length_trail,
    Nat.add_sub_cancel, List.getElem?_map, final]
  rfl

theorem forRequest_generated (some_anchor : request.anchors ≠ []) (no_null : '\x00' ∉ request.text)
    (boundaries : ∀ anchor ∈ request.anchors, IsCharBoundary request.text anchor.textOffset)
    (small : ∀ anchor ∈ request.anchors, anchor.textOffset ≤ wordMax 32) :
    EspeakInput.forRequest request = .ok {
      text := (requestTokens request).flatMap Token.encode
      flags := espeakEndPause ||| espeakSsml
      sourceBoundaries := some ((0 :: trail 0 (requestTokens request)).map asU32) } := by
  have anchored : request.anchors.isEmpty = false := by
    rw [List.isEmpty_eq_false_iff]
    exact some_anchor
  have clean : ((requestTokens request).flatMap Token.encode).contains '\x00' = false := by
    rw [Bool.eq_false_iff]
    intro found
    exact null_not_mem_encode no_null (List.contains_iff_mem.mp found)
  unfold EspeakInput.forRequest
  rw [anchored, if_neg Bool.false_ne_true, generate_eq boundaries small]
  dsimp only
  rw [EspeakInput.cString, clean, if_neg Bool.false_ne_true]
  rfl

/-- **Anchored input keeps the text**, and maps its boundaries exactly if their
type can hold the length of the text. The offset of an anchor is a 32-bit word. -/
theorem espeak_input_keeps_text (some_anchor : request.anchors ≠ [])
    (no_null : '\x00' ∉ request.text)
    (boundaries : ∀ anchor ∈ request.anchors, IsCharBoundary request.text anchor.textOffset)
    (small : ∀ anchor ∈ request.anchors, anchor.textOffset ≤ wordMax 32) :
    ∃ input tokens, EspeakInput.forRequest request = .ok input ∧ KeepsText request input tokens ∧
      ((∃ map, KeepsMap request input map) ↔ utf8Len request.text ≤ wordMax 32) := by
  refine ⟨_, requestTokens request,
    forRequest_generated some_anchor no_null boundaries small, ?_, ?_⟩
  · have tags := tagsWithin_requestTokens boundaries
    refine ⟨reads_encode (requestTokens_proper request), charactersOf_requestTokens request, tags,
      arranged_ordered request.anchors, fun index anchor known => ?_⟩
    rw [tags]
    exact marks_once known
  · constructor
    · rintro ⟨map, keeps⟩
      have last := keeps.last
      have given : some ((0 :: trail 0 (requestTokens request)).map asU32) = some map := keeps.given
      rw [← Option.some.inj given, getLast?_boundaries, Option.some.injEq] at last
      rw [← last]
      exact asU32_le _
    · intro short
      exact ⟨_, keepsMap_of_le boundaries short rfl _⟩

end Keeping

/-- A request with special characters, one of two bytes, and anchors out of order. -/
def markedRequest (text : List Char) (anchors : List RequestedAnchor) : SynthesisRequest where
  text := text
  settings := ⟨"", 1, 1, 1⟩
  normalizedAcss := ⟨none, none, none, none, none, none⟩
  requestedVoice := none
  logicalVoiceId := none
  anchors := anchors

theorem espeak_input_keeps_text_coincident :
    ∃ input tokens,
      EspeakInput.forRequest (markedRequest ['é', '<', 'a']
        [⟨"second", 2, .before⟩, ⟨"first", 0, .before⟩, ⟨"third", 2, .after⟩]) = .ok input ∧
      KeepsText (markedRequest ['é', '<', 'a']
        [⟨"second", 2, .before⟩, ⟨"first", 0, .before⟩, ⟨"third", 2, .after⟩]) input tokens ∧
      ((∃ map, KeepsMap (markedRequest ['é', '<', 'a']
        [⟨"second", 2, .before⟩, ⟨"first", 0, .before⟩, ⟨"third", 2, .after⟩]) input map) ↔
        utf8Len ['é', '<', 'a'] ≤ wordMax 32) := by
  refine espeak_input_keeps_text (by decide) (by decide) ?_ (by decide)
  intro anchor member
  simp only [markedRequest, List.mem_cons, List.not_mem_nil, or_false] at member
  rcases member with rfl | rfl | rfl
  · exact ⟨['é'], ['<', 'a'], rfl, rfl⟩
  · exact ⟨[], ['é', '<', 'a'], rfl, rfl⟩
  · exact ⟨['é'], ['<', 'a'], rfl, rfl⟩

/-- The end of the map of a text of one-byte characters. -/
theorem espeak_input_map_end (count : Nat) :
    utf8Len (List.replicate count 'a') = count ∧
      ∃ input map,
        EspeakInput.forRequest (markedRequest (List.replicate count 'a')
          [⟨"start", 0, .before⟩]) = .ok input ∧
        input.sourceBoundaries = some map ∧ map.getLast? = some (asU32 count) := by
  have length : utf8Len (List.replicate count 'a') = count := by
    induction count with
    | zero => rfl
    | succ count ih =>
        rw [List.replicate_succ, String.utf8Len_cons, ih]
        rfl
  have no_null : '\x00' ∉ (markedRequest (List.replicate count 'a')
      [⟨"start", 0, .before⟩]).text := by
    intro member
    exact absurd (List.eq_of_mem_replicate member) (by decide)
  have only : ∀ anchor ∈ (markedRequest (List.replicate count 'a')
      [⟨"start", 0, .before⟩]).anchors, anchor.textOffset = 0 := by
    intro anchor member
    rw [List.mem_singleton.mp member]
  have generated := forRequest_generated (List.cons_ne_nil _ _) no_null
    (fun anchor member => by rw [only anchor member]; exact ⟨[], _, rfl, rfl⟩)
    (fun anchor member => by rw [only anchor member]; exact Nat.zero_le _)
  have last := getLast?_boundaries (markedRequest (List.replicate count 'a')
    [⟨"start", 0, .before⟩])
  have text : (markedRequest (List.replicate count 'a') [⟨"start", 0, .before⟩]).text =
      List.replicate count 'a' := rfl
  rw [text, length] at last
  exact ⟨length, _, _, generated, rfl, last⟩

/-- The map of four gigabytes of text ends at zero. -/
theorem espeak_input_map_wraps :
    utf8Len (List.replicate (2 ^ 32) 'a') = 2 ^ 32 ∧
      ∃ input map,
        EspeakInput.forRequest (markedRequest (List.replicate (2 ^ 32) 'a')
          [⟨"start", 0, .before⟩]) = .ok input ∧
        input.sourceBoundaries = some map ∧ map.getLast? = some 0 := by
  have zero : asU32 (2 ^ 32) = 0 := by decide
  have wraps := espeak_input_map_end (2 ^ 32)
  rw [zero] at wraps
  exact wraps

end Omnivox.Synthesis
