import Mathlib

/-!
# Text with tags

Marked-up text is a list of tokens: characters, five of which are written as
entities, and tags between angle brackets. `Reads` takes such a text apart again,
one token at a time and from the front.

Writing and reading agree (`reads_encode`), and a beginning of a written text that
can be read on its own is the writing of the first tokens (`Reads.of_prefix`).
-/

set_option autoImplicit false

namespace Omnivox.Foundations

inductive Token where
  | character (c : Char)
  | tag (content : List Char)
  deriving Repr, DecidableEq

/-! ## Writing -/

/-- The names of the five entities. -/
def entityName : Char → Option (List Char)
  | '&' => some ['a', 'm', 'p']
  | '<' => some ['l', 't']
  | '>' => some ['g', 't']
  | '"' => some ['q', 'u', 'o', 't']
  | '\'' => some ['a', 'p', 'o', 's']
  | _ => none

/-- A character as it stands in marked-up text. -/
def escape (c : Char) : List Char :=
  match entityName c with
  | some name => '&' :: name ++ [';']
  | none => [c]

def Token.encode : Token → List Char
  | .character c => escape c
  | .tag content => '<' :: content ++ ['>']

/-- No tag ends inside its content. -/
def Token.Proper : Token → Prop
  | .character _ => True
  | .tag content => '>' ∉ content

def Token.character? : Token → Option Char
  | .character c => some c
  | .tag _ => none

/-- The characters between the tags. -/
def charactersOf (tokens : List Token) : List Char := tokens.filterMap Token.character?

/-- The tags with the characters in front of each, after `before`. -/
def tagsWithin : List Char → List Token → List (List Char × List Char)
  | _, [] => []
  | before, .character c :: tokens => tagsWithin (before ++ [c]) tokens
  | before, .tag content :: tokens => (content, before) :: tagsWithin before tokens

@[simp] theorem charactersOf_nil : charactersOf [] = [] := rfl

@[simp] theorem charactersOf_character (c : Char) (tokens : List Token) :
    charactersOf (.character c :: tokens) = c :: charactersOf tokens := rfl

@[simp] theorem charactersOf_tag (content : List Char) (tokens : List Token) :
    charactersOf (.tag content :: tokens) = charactersOf tokens := rfl

@[simp] theorem charactersOf_append (first second : List Token) :
    charactersOf (first ++ second) = charactersOf first ++ charactersOf second :=
  List.filterMap_append

@[simp] theorem charactersOf_map_character (text : List Char) :
    charactersOf (text.map Token.character) = text := by
  induction text with
  | nil => rfl
  | cons c text ih => rw [List.map_cons, charactersOf_character, ih]

theorem tagsWithin_append (before : List Char) (first second : List Token) :
    tagsWithin before (first ++ second) =
      tagsWithin before first ++ tagsWithin (before ++ charactersOf first) second := by
  induction first generalizing before with
  | nil => rw [List.nil_append, charactersOf_nil, List.append_nil, tagsWithin, List.nil_append]
  | cons token first ih =>
      cases token with
      | character c =>
          rw [List.cons_append, tagsWithin, tagsWithin, ih, charactersOf_character,
            List.append_assoc, List.singleton_append]
      | tag content =>
          rw [List.cons_append, tagsWithin, tagsWithin, ih, charactersOf_tag, List.cons_append]

theorem flatMap_encode_characters (text : List Char) :
    (text.map Token.character).flatMap Token.encode = text.flatMap escape := by
  rw [List.flatMap_map]
  rfl

/-! ## Reading -/

/-- The character that an entity name stands for. -/
def namedCharacter (name : List Char) : Option Char :=
  ['&', '<', '>', '"', '\''].find? fun c => entityName c == some name

/-- What stands in front of the first `stop`, and what follows it. -/
def readUntil (stop : Char) : List Char → Option (List Char × List Char)
  | [] => none
  | c :: rest =>
      if c = stop then some ([], rest)
      else (readUntil stop rest).map fun found => (c :: found.1, found.2)

/-- The first token of a text, and the text behind it. -/
def readToken : List Char → Option (Token × List Char)
  | [] => none
  | c :: rest =>
      if c = '<' then (readUntil '>' rest).map fun found => (.tag found.1, found.2)
      else if c = '&' then
        (readUntil ';' rest).bind fun found =>
          (namedCharacter found.1).map fun named => (.character named, found.2)
      else some (.character c, rest)

/-- The text is these tokens. -/
inductive Reads : List Char → List Token → Prop where
  | done : Reads [] []
  | token {text rest : List Char} {token : Token} {tokens : List Token}
      (here : readToken text = some (token, rest)) (behind : Reads rest tokens) :
      Reads text (token :: tokens)

theorem readUntil_append {stop : Char} {content : List Char} (inside : stop ∉ content)
    (more : List Char) : readUntil stop (content ++ stop :: more) = some (content, more) := by
  induction content with
  | nil => rw [List.nil_append, readUntil, if_pos rfl]
  | cons c content ih =>
      rw [List.mem_cons, not_or] at inside
      rw [List.cons_append, readUntil, if_neg (Ne.symm inside.1), ih inside.2]
      rfl

/-- What is read does not depend on what follows. -/
theorem readUntil_more {stop : Char} {text content rest : List Char}
    (found : readUntil stop text = some (content, rest)) (more : List Char) :
    readUntil stop (text ++ more) = some (content, rest ++ more) := by
  induction text generalizing content with
  | nil => cases found
  | cons c text ih =>
      rw [readUntil] at found
      rw [List.cons_append, readUntil]
      split at found
      · rename_i here
        cases found
        rw [if_pos here]
      · rename_i other
        obtain ⟨⟨inner, behind⟩, deeper, same⟩ := Option.map_eq_some_iff.mp found
        cases same
        rw [if_neg other, ih deeper]
        rfl

theorem namedCharacter_entityName {c : Char} {name : List Char}
    (named : entityName c = some name) : namedCharacter name = some c ∧ ';' ∉ name := by
  unfold entityName at named
  split at named <;> cases named <;> decide

/-- A character without an entity is neither bracket nor ampersand. -/
theorem ne_of_entityName_none {c : Char} (plain : entityName c = none) : c ≠ '<' ∧ c ≠ '&' := by
  constructor
  · rintro rfl
    cases plain
  · rintro rfl
    cases plain

/-- **A written token is read again**, whatever follows. -/
theorem readToken_encode {token : Token} (proper : token.Proper) (more : List Char) :
    readToken (token.encode ++ more) = some (token, more) := by
  cases token with
  | character c =>
      rw [Token.encode, escape]
      split
      · rename_i name named
        obtain ⟨stands, closed⟩ := namedCharacter_entityName named
        rw [List.cons_append, List.cons_append, List.append_assoc, List.singleton_append, readToken,
          if_neg (by decide), if_pos rfl, readUntil_append closed, Option.bind_some, stands]
        rfl
      · rename_i plain
        obtain ⟨bracket, ampersand⟩ := ne_of_entityName_none plain
        rw [List.singleton_append, readToken, if_neg bracket, if_neg ampersand]
  | tag content =>
      rw [Token.encode, List.cons_append, List.cons_append, List.append_assoc,
        List.singleton_append, readToken, if_pos rfl, readUntil_append proper]
      rfl

theorem readToken_more {text rest : List Char} {token : Token}
    (found : readToken text = some (token, rest)) (more : List Char) :
    readToken (text ++ more) = some (token, rest ++ more) := by
  cases text with
  | nil => cases found
  | cons c text =>
      rw [readToken] at found
      rw [List.cons_append, readToken]
      split at found
      · rename_i bracket
        obtain ⟨⟨content, behind⟩, closed, same⟩ := Option.map_eq_some_iff.mp found
        cases same
        rw [if_pos bracket, readUntil_more closed]
        rfl
      · rename_i bracket
        rw [if_neg bracket]
        split at found
        · rename_i ampersand
          obtain ⟨⟨name, behind⟩, closed, stands⟩ := Option.bind_eq_some_iff.mp found
          obtain ⟨named, known, same⟩ := Option.map_eq_some_iff.mp stands
          cases same
          rw [if_pos ampersand, readUntil_more closed, Option.bind_some, known]
          rfl
        · rename_i ampersand
          cases found
          rw [if_neg ampersand]

/-- **A written text reads as its tokens.** -/
theorem reads_encode {tokens : List Token} (proper : ∀ token ∈ tokens, token.Proper) :
    Reads (tokens.flatMap Token.encode) tokens := by
  induction tokens with
  | nil => exact .done
  | cons token tokens ih =>
      rw [List.forall_mem_cons] at proper
      exact .token (readToken_encode proper.1 _) (ih proper.2)

/-- Texts that can be read on their own can be read one after the other. -/
theorem Reads.append {first second : List Char} {tokens more : List Token}
    (reads : Reads first tokens) (further : Reads second more) :
    Reads (first ++ second) (tokens ++ more) := by
  induction reads with
  | done => exact further
  | token here behind ih => exact .token (readToken_more here second) ih

/-- **A beginning that can be read on its own** is the writing of the first tokens. -/
theorem Reads.of_prefix {front back : List Char} {first tokens : List Token}
    (proper : ∀ token ∈ tokens, token.Proper) (reads : Reads front first)
    (whole : tokens.flatMap Token.encode = front ++ back) :
    ∃ later, tokens = first ++ later ∧ front = first.flatMap Token.encode := by
  induction reads generalizing tokens with
  | done => exact ⟨tokens, rfl, rfl⟩
  | @token text rest token others here behind ih =>
      have further := readToken_more here back
      rw [← whole] at further
      cases tokens with
      | nil => cases further
      | cons head tail =>
          rw [List.forall_mem_cons] at proper
          rw [List.flatMap_cons, readToken_encode proper.1] at further
          rw [Option.some.injEq, Prod.mk.injEq] at further
          obtain ⟨rfl, remains⟩ := further
          obtain ⟨later, same, written⟩ := ih proper.2 remains
          refine ⟨later, by rw [same, List.cons_append], ?_⟩
          have length : text.length = ((head :: others).flatMap Token.encode).length := by
            have lengths := congrArg List.length whole
            have parts : (tail.flatMap Token.encode).length = rest.length + back.length := by
              rw [remains, List.length_append]
            rw [List.flatMap_cons, List.length_append, List.length_append, parts] at lengths
            rw [List.flatMap_cons, List.length_append, ← written]
            omega
          have prefixed : (head :: others).flatMap Token.encode <+:
              (head :: tail).flatMap Token.encode := by
            rw [same, ← List.cons_append, List.flatMap_append]
            exact List.prefix_append _ _
          have front_prefix : text <+: (head :: tail).flatMap Token.encode := by
            rw [whole]
            exact List.prefix_append _ _
          exact (List.prefix_of_prefix_length_le front_prefix prefixed length.le).eq_of_length
            length

end Omnivox.Foundations
