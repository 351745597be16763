import Mathlib
import Omnivox.Audio.TimelineRenderer
import Omnivox.Foundations.Bins
import Omnivox.Foundations.Intervals
import Omnivox.Synthesis.Anchors
import Omnivox.Text.Chunking

/-!
# The actions of a speech span

The text of a span is prepared and cut into chunks, and each action of the span is given a
chunk and an offset in it. An action in front of its position goes to the first chunk that
ends behind it, one behind its position to the last chunk that begins in front of it.

Every action is placed on a boundary of its chunk, and the anchors of a chunk are accepted
by its synthesis request (`prepareTimelineTextLayout_places`). Chunking keeps the order of
two actions exactly unless the first one, in front of its position, and the second one,
behind its position, share the space between two chunks
(`prepareTimelineTextLayout_ordered`).
-/

set_option autoImplicit false

namespace Omnivox.Presentation

open Foundations Synthesis Text
open Audio (MAX_TIMELINE_ACTIONS_PER_WINDOW)
open String (utf8Len)

/-! ## Positions -/

def MAX_TIMELINE_AGGREGATE_BYTES : Nat := 16 * 1024 * 1024
def MAX_TIMELINE_ACTIONS_PER_SPEECH_WINDOW : Nat := 512
def MAX_PUNCTUATION_NAME_BYTES : Nat := 64

inductive PresentationAffinity where
  | before
  | after
  deriving Repr, DecidableEq

/-- Where the presentation puts an action. -/
inductive PresentationTimelinePosition where
  | spanBoundary (spanId : Nat) (affinity : PresentationAffinity)
  | textOffset (spanId utf8Offset : Nat) (affinity : PresentationAffinity)
  deriving Repr, DecidableEq

structure PresentationTimelineAction where
  id : String
  position : PresentationTimelinePosition
  deriving Repr, DecidableEq

/-- `max_chunk_words`. Zero must never turn a configured limit into unlimited synthesis. -/
structure ChunkWordLimit where
  words : Nat
  bounds : 1 ≤ words ∧ words ≤ 100

/-- The placement of one action in the chunks of its span. -/
structure PreparedTimelineActionPosition where
  chunkIndex : Nat
  localOffset : Nat
  affinity : AnchorAffinity
  deriving Repr, DecidableEq

structure PreparedTimelineSpanLayout where
  chunks : List PreparedSpeechChunk
  actionPositions : List PreparedTimelineActionPosition
  deriving Repr, DecidableEq

/-- An action in its chunk. -/
structure TimelineChunkAction where
  id : String
  textOffset : Nat
  affinity : AnchorAffinity
  deriving Repr, DecidableEq

def PresentationTimelinePosition.affinity : PresentationTimelinePosition → AnchorAffinity
  | .spanBoundary _ .before | .textOffset _ _ .before => .before
  | .spanBoundary _ .after | .textOffset _ _ .after => .after

/-- The text offset that an action asks for. -/
def PresentationTimelinePosition.textOffset? : PresentationTimelinePosition → Option Nat
  | .spanBoundary _ _ => none
  | .textOffset _ utf8Offset _ => some utf8Offset

/-! ## The layout -/

/-- The tones of a span are numbered. -/
def nameTones (id : Nat) (prepared : PreparedSpeechText) : PreparedSpeechText :=
  { prepared with
    capitalizationTones := prepared.capitalizationTones.mapIdx fun index tone =>
      { tone with id := s!"omnivox.cap.{id}.{index}" } }

/-- The search that an affinity asks for. -/
def searchOf : AnchorAffinity → Search
  | .before => .forwards
  | .after => .backwards

/-- The first chunk that ends behind the offset, or the last one; the last chunk that begins
in front of the offset, or the first one. -/
def locateTimelineChunk (chunks : List PreparedSpeechChunk) (offset : Nat)
    (affinity : AnchorAffinity) : Nat :=
  match affinity with
  | .before => min (partitionPoint (fun chunk => decide (chunk.sourceEnd ≤ offset)) chunks)
      (chunks.length - 1)
  | .after => partitionPoint (fun chunk => decide (chunk.sourceStart < offset)) chunks - 1

/-- Place an action. A missing chunk is a panic, and so is a chunk that ends in front of its
start. -/
def placeTimelineAction (chunks : List PreparedSpeechChunk) (preparedOffset : Nat)
    (affinity : AnchorAffinity) : Option PreparedTimelineActionPosition :=
  let chunkIndex := locateTimelineChunk chunks preparedOffset affinity
  chunks[chunkIndex]?.bind fun chunk =>
    if chunk.sourceStart ≤ chunk.sourceEnd then
      some ⟨chunkIndex,
        max chunk.sourceStart (min preparedOffset chunk.sourceEnd) - chunk.sourceStart, affinity⟩
    else none

/-- The prepared offset of an action, and the mapped offsets of those behind it. A mapped
offset that is missing is a panic. -/
def nextOffset (chunks : List PreparedSpeechChunk) (mappedOffsets : List Nat) :
    PresentationTimelinePosition → Option (Nat × List Nat)
  | .spanBoundary _ .before => some (0, mappedOffsets)
  | .spanBoundary _ .after =>
      some ((chunks.getLast?.map PreparedSpeechChunk.sourceEnd).getD 0, mappedOffsets)
  | .textOffset _ _ _ =>
      match mappedOffsets with
      | [] => none
      | offset :: later => some (offset, later)

/-- Place the actions in their order. -/
def placeTimelineActions (chunks : List PreparedSpeechChunk) :
    List Nat → List PresentationTimelineAction → Option (List PreparedTimelineActionPosition)
  | _, [] => some []
  | mappedOffsets, action :: rest => do
      let (preparedOffset, mappedOffsets) ← nextOffset chunks mappedOffsets action.position
      let position ← placeTimelineAction chunks preparedOffset action.position.affinity
      let later ← placeTimelineActions chunks mappedOffsets rest
      return position :: later

/-- Cut the text of a span into chunks and place its actions. -/
def prepareTimelineTextLayout [UnicodeCase] (id : Nat) (text : List Char)
    (actions : List PresentationTimelineAction) (state : TtsState)
    (maxChunkWords : ChunkWordLimit) : Option PreparedTimelineSpanLayout := do
  let sourceOffsets := actions.filterMap fun action => action.position.textOffset?
  let (prepared, mappedOffsets) := prepareSpeechTextWithOffsets text state sourceOffsets
  let chunks := chunkPreparedSpeech (nameTones id prepared) maxChunkWords.words
  let actionPositions ← placeTimelineActions chunks mappedOffsets actions
  return ⟨chunks, actionPositions⟩

/-- The number of actions of each chunk, capitalization included. A chunk that is missing is
a panic. -/
def actionCounts (layout : PreparedTimelineSpanLayout) : Option (List Nat) :=
  fileAll (fun count () => count + 1)
    (layout.chunks.map fun chunk => chunk.capitalizationTones.length)
    (layout.actionPositions.map fun position => (position.chunkIndex, ()))

def maxWindowActions : Nat :=
  min (min MAX_TIMELINE_ACTIONS_PER_SPEECH_WINDOW MAX_SYNTHESIS_ANCHORS)
    MAX_TIMELINE_ACTIONS_PER_WINDOW

/-- No chunk has more actions than a speech window may have. -/
def validateTimelineSpanLayout (spanId : Nat) (layout : PreparedTimelineSpanLayout) :
    Option (Except String Unit) := do
  let counts ← actionCounts layout
  return counts.zipIdx.forM fun (actionCount, chunkIndex) =>
    ensure (actionCount ≤ maxWindowActions)
      (s!"span {spanId} chunk {chunkIndex + 1} contains {actionCount} actions including " ++
        s!"capitalization anchors; maximum is {maxWindowActions}")

/-- The actions of each chunk, in the order of the span. -/
def timelineChunkActions (layout : PreparedTimelineSpanLayout)
    (actions : List PresentationTimelineAction) : Option (List (List TimelineChunkAction)) :=
  fileAll (fun placed action => placed ++ [action]) (layout.chunks.map fun _ => [])
    ((actions.zip layout.actionPositions).map fun (action, position) =>
      (position.chunkIndex, ⟨action.id, position.localOffset, position.affinity⟩))

/-- The anchors of a chunk. -/
def requestedTimelineAnchors (tones : List CapitalizationTone)
    (actions : List TimelineChunkAction) : List RequestedAnchor :=
  tones.map (fun tone => ⟨tone.id, tone.textOffset, .before⟩) ++
    actions.map fun action => ⟨action.id, action.textOffset, action.affinity⟩

/-! ## What a span may hold -/

/-- **The limits of a span**: a timeline document has at most sixteen megabytes, and a
spoken name of a punctuation character is short. -/
structure SpanLimits (text : List Char) (state : TtsState) : Prop where
  bytes : utf8Len text ≤ MAX_TIMELINE_AGGREGATE_BYTES
  names : ∀ c name, state.punctuationTable c = some (some name) →
    utf8Len name ≤ MAX_PUNCTUATION_NAME_BYTES

theorem utf8Len_spoken {table : PunctuationTable} {limit : Nat}
    (names : ∀ c name, table c = some (some name) → utf8Len name ≤ limit) (c : Char) :
    utf8Len (spoken table c) ≤ (limit + 2) * c.utf8Size := by
  have wide := Char.utf8Size_pos c
  have least : limit + 2 ≤ (limit + 2) * c.utf8Size := Nat.le_mul_of_pos_right _ wide
  unfold spoken
  cases entry : table c with
  | none =>
      have single : utf8Len [c] = c.utf8Size := Nat.zero_add _
      have more : 1 * c.utf8Size ≤ (limit + 2) * c.utf8Size :=
        Nat.mul_le_mul_right _ (by omega)
      simp only [Option.bind_none, single]
      omega
  | some replacement =>
      cases replacement with
      | none =>
          have single : utf8Len [c] = c.utf8Size := Nat.zero_add _
          have more : 1 * c.utf8Size ≤ (limit + 2) * c.utf8Size :=
            Nat.mul_le_mul_right _ (by omega)
          simp only [Option.bind_some, id_eq, single]
          omega
      | some name =>
          have short := names c name entry
          have space : utf8Len [' '] = 1 := rfl
          simp only [Option.bind_some, id_eq, List.cons_append, String.utf8Len_cons,
            String.utf8Len_append, space, utf8Size_space]
          omega

/-- Spoken names make a text longer by their greatest length. -/
theorem utf8Len_applyPunctuationTable {table : PunctuationTable} {limit : Nat}
    (names : ∀ c name, table c = some (some name) → utf8Len name ≤ limit) (text : List Char) :
    utf8Len (applyPunctuationTable table text) ≤ (limit + 2) * utf8Len text := by
  induction text using scan_induction with
  | empty => exact Nat.zero_le _
  | separator rest ih =>
      rw [applyPunctuationTable_separator, String.utf8Len_cons, utf8Size_space, utf8Len_separator,
        Nat.mul_add]
      omega
  | character c rest other ih =>
      have here := utf8Len_spoken names c
      rw [applyPunctuationTable_character table other, String.utf8Len_append,
        String.utf8Len_cons, Nat.mul_add]
      omega

/-- At most one space is put in front of each character. -/
theorem utf8Len_insertSpacesAfter [UnicodeCase] (previousLower : Bool) (text : List Char) :
    utf8Len (insertSpacesAfter previousLower text) ≤ 2 * utf8Len text := by
  induction text generalizing previousLower with
  | nil => exact Nat.zero_le _
  | cons c rest ih =>
      have here := ih (isLowercase c)
      have wide := Char.utf8Size_pos c
      have space : Char.utf8Size ' ' = 1 := rfl
      rw [insertSpacesAfter]
      split
      · rw [String.utf8Len_cons, String.utf8Len_cons, String.utf8Len_cons, space]
        omega
      · rw [String.utf8Len_cons, String.utf8Len_cons]
        omega

/-- **The prepared text of a span has `u32` offsets.** -/
theorem SpanLimits.fits [UnicodeCase] {text : List Char} {state : TtsState}
    (limits : SpanLimits text state) :
    utf8Len (prepareSpeechText text state).text ≤ wordMax 32 := by
  have punctuated := utf8Len_applyPunctuationTable limits.names text
  have bytes := limits.bytes
  have word : wordMax 32 = 4294967295 := rfl
  unfold MAX_PUNCTUATION_NAME_BYTES at punctuated
  unfold MAX_TIMELINE_AGGREGATE_BYTES at bytes
  unfold prepareSpeechText
  simp only
  cases state.splitCaps with
  | false =>
      rw [if_neg Bool.false_ne_true]
      omega
  | true =>
      have split := utf8Len_insertSpacesAfter false
        (applyPunctuationTable state.punctuationTable text)
      rw [if_pos rfl]
      unfold insertSpaceBeforeUppercase
      omega

/-! ## The chunks of a prepared text -/

/-- **Chunks in order**, each with its range of the text. -/
structure ChunksOf (text : List Char) (chunks : List PreparedSpeechChunk) : Prop where
  some_chunk : chunks ≠ []
  intervals : Intervals PreparedSpeechChunk.sourceStart PreparedSpeechChunk.sourceEnd chunks
  texts : ∀ chunk ∈ chunks, chunk.text = slice text chunk.sourceStart chunk.sourceEnd
  boundaries : ∀ chunk ∈ chunks, IsCharBoundary text chunk.sourceStart ∧
    IsCharBoundary text chunk.sourceEnd

theorem isCharBoundary_zero (text : List Char) : IsCharBoundary text 0 := ⟨[], text, rfl, rfl⟩

theorem isCharBoundary_end (text : List Char) : IsCharBoundary text (utf8Len text) :=
  ⟨text, [], (List.append_nil text).symm, rfl⟩

theorem chunksOf_chunkPreparedSpeech {prepared : PreparedSpeechText} {maxWords : Nat}
    (positive : 0 < maxWords) (fits : utf8Len prepared.text ≤ wordMax 32) :
    ChunksOf prepared.text (chunkPreparedSpeech prepared maxWords) := by
  obtain ⟨lead, words, layout⟩ := exists_layout prepared.text
  have spans := wordSpans_layout layout
  rcases Nat.lt_or_ge maxWords words.length with long | short
  · obtain ⟨groups, flat, filled, cut⟩ := cutInto_groups layout positive long
    have inside : ∀ range ∈ groupRanges (utf8Len lead) groups, range.2 ≤ wordMax 32 :=
      fun range member => ((cut.boundaries range member).2.le).trans fits
    have reports := reports_of_fits cut inside
    refine ⟨?_, ⟨fun chunk member => le_of_lt (reports.filled chunk member), reports.increasing⟩,
      reports.texts, ?_⟩
    · rw [cut.chunks]
      intro nothing
      cases groups with
      | nil =>
          rw [← flat] at long
          exact absurd long (Nat.not_lt_zero _)
      | cons group rest => cases nothing
    · rw [cut.chunks]
      intro chunk member
      obtain ⟨range, inRanges, rfl⟩ := List.mem_map.mp member
      have stop := asU32_of_le (inside range inRanges)
      have start := asU32_of_le
        ((Nat.le_of_lt (cut.filled range inRanges)).trans (inside range inRanges))
      show IsCharBoundary prepared.text (asU32 range.1) ∧
        IsCharBoundary prepared.text (asU32 range.2)
      rw [start, stop]
      exact cut.boundaries range inRanges
  · have whole : chunkPreparedSpeech prepared maxWords =
        [⟨prepared.text, prepared.capitalizationTones, 0, asU32 (utf8Len prepared.text)⟩] := by
      unfold chunkPreparedSpeech
      rw [dif_neg]
      rintro ⟨more, -⟩
      rw [spans, length_rangesFrom] at more
      omega
    rw [whole, asU32_of_le fits]
    refine ⟨List.cons_ne_nil _ _, ⟨?_, List.pairwise_singleton _ _⟩, ?_, ?_⟩
    · intro chunk member
      rw [List.mem_singleton.mp member]
      exact Nat.zero_le _
    · intro chunk member
      rw [List.mem_singleton.mp member]
      have all := slice_append [] prepared.text []
      rw [List.nil_append, List.append_nil, String.utf8Len_nil, Nat.zero_add] at all
      exact all.symm
    · intro chunk member
      rw [List.mem_singleton.mp member]
      exact ⟨isCharBoundary_zero _, isCharBoundary_end _⟩

/-- A text without tones has chunks without tones. -/
theorem chunkPreparedSpeech_tones {prepared : PreparedSpeechText} {maxWords : Nat}
    (toneless : prepared.capitalizationTones = []) :
    ∀ chunk ∈ chunkPreparedSpeech prepared maxWords, chunk.capitalizationTones = [] := by
  intro chunk member
  unfold chunkPreparedSpeech at member
  simp only at member
  split at member
  · obtain ⟨range, -, rfl⟩ := List.mem_map.mp member
    show tonesWithin prepared.capitalizationTones range.1 range.2 = []
    rw [toneless]
    rfl
  · rw [List.mem_singleton.mp member]
    exact toneless

/-! ## Places -/

/-- Where a chunk list holds an offset. -/
def placed (chunks : List PreparedSpeechChunk) (offset : Nat) (affinity : AnchorAffinity) :
    PreparedTimelineActionPosition where
  chunkIndex := locateTimelineChunk chunks offset affinity
  localOffset := (chunks[locateTimelineChunk chunks offset affinity]?.map fun chunk =>
    clampTo PreparedSpeechChunk.sourceStart PreparedSpeechChunk.sourceEnd chunk offset -
      chunk.sourceStart).getD 0
  affinity := affinity

theorem locateTimelineChunk_eq (chunks : List PreparedSpeechChunk) (offset : Nat)
    (affinity : AnchorAffinity) :
    locateTimelineChunk chunks offset affinity =
      place PreparedSpeechChunk.sourceStart PreparedSpeechChunk.sourceEnd chunks offset
        (searchOf affinity) := by
  cases affinity <;> rfl

section Placing

variable {text : List Char} {chunks : List PreparedSpeechChunk}

theorem ChunksOf.located (cut : ChunksOf text chunks) (offset : Nat) (affinity : AnchorAffinity) :
    ∃ chunk, chunks[locateTimelineChunk chunks offset affinity]? = some chunk ∧ chunk ∈ chunks := by
  have inside := place_lt PreparedSpeechChunk.sourceStart PreparedSpeechChunk.sourceEnd offset
    (searchOf affinity) cut.some_chunk
  rw [← locateTimelineChunk_eq] at inside
  exact ⟨_, List.getElem?_eq_getElem inside, List.getElem_mem inside⟩

theorem ChunksOf.placeTimelineAction (cut : ChunksOf text chunks) (offset : Nat)
    (affinity : AnchorAffinity) :
    placeTimelineAction chunks offset affinity = some (placed chunks offset affinity) := by
  obtain ⟨chunk, here, member⟩ := cut.located offset affinity
  have filled := cut.intervals.filled chunk member
  unfold Presentation.placeTimelineAction placed
  simp only [here, Option.bind_some, if_pos filled, Option.map_some, Option.getD_some]
  rfl

/-- **A place lies on a boundary of its chunk.** -/
theorem ChunksOf.placed_boundary (cut : ChunksOf text chunks) {offset : Nat}
    (boundary : IsCharBoundary text offset) (affinity : AnchorAffinity) :
    ∃ chunk, chunks[(placed chunks offset affinity).chunkIndex]? = some chunk ∧
      (placed chunks offset affinity).localOffset ≤ utf8Len chunk.text ∧
      IsCharBoundary chunk.text (placed chunks offset affinity).localOffset := by
  obtain ⟨chunk, here, member⟩ := cut.located offset affinity
  have filled := cut.intervals.filled chunk member
  obtain ⟨start, stop⟩ := cut.boundaries chunk member
  obtain ⟨behind, ahead⟩ := @clampTo_mem _ _ _ PreparedSpeechChunk.sourceStart
    PreparedSpeechChunk.sourceEnd chunk offset filled
  have moved : IsCharBoundary text
      (clampTo PreparedSpeechChunk.sourceStart PreparedSpeechChunk.sourceEnd chunk offset) := by
    rcases clampTo_cases PreparedSpeechChunk.sourceStart PreparedSpeechChunk.sourceEnd chunk
      offset with same | same | same
    · rw [same]
      exact boundary
    · rw [same]
      exact start
    · rw [same]
      exact stop
  have inChunk := start.slice stop moved behind ahead
  rw [← cut.texts chunk member] at inChunk
  refine ⟨chunk, here, ?_⟩
  unfold placed
  simp only [here, Option.map_some, Option.getD_some]
  exact ⟨inChunk.le, inChunk⟩

end Placing

/-! ## The layout of a span -/

section Layout

variable [UnicodeCase] {id : Nat} {text : List Char} {actions : List PresentationTimelineAction}
  {state : TtsState} {maxChunkWords : ChunkWordLimit}

/-- The chunks of a span. -/
def spanChunks (text : List Char) (state : TtsState) (maxChunkWords : ChunkWordLimit) :
    List PreparedSpeechChunk :=
  chunkPreparedSpeech (prepareSpeechText text state) maxChunkWords.words

/-- **The mapped prepared offset** of an action. -/
def preparedOffset (text : List Char) (state : TtsState) (maxChunkWords : ChunkWordLimit) :
    PresentationTimelinePosition → Nat
  | .spanBoundary _ .before => 0
  | .spanBoundary _ .after =>
      ((spanChunks text state maxChunkWords).getLast?.map PreparedSpeechChunk.sourceEnd).getD 0
  | .textOffset _ utf8Offset _ => preparedPosition state text utf8Offset

/-- The text offsets of the actions are boundaries of the text. -/
def OffsetsInText (text : List Char) (actions : List PresentationTimelineAction) : Prop :=
  ∀ action ∈ actions, ∀ offset, action.position.textOffset? = some offset →
    IsCharBoundary text offset

theorem spanChunks_chunksOf (limits : SpanLimits text state) (maxChunkWords : ChunkWordLimit) :
    ChunksOf (prepareSpeechText text state).text (spanChunks text state maxChunkWords) :=
  chunksOf_chunkPreparedSpeech maxChunkWords.bounds.1 limits.fits

theorem preparedOffset_boundary (limits : SpanLimits text state)
    {position : PresentationTimelinePosition}
    (inText : ∀ offset, position.textOffset? = some offset → IsCharBoundary text offset) :
    IsCharBoundary (prepareSpeechText text state).text
      (preparedOffset text state maxChunkWords position) := by
  cases position with
  | spanBoundary spanId affinity =>
      cases affinity with
      | before => exact isCharBoundary_zero _
      | after =>
          have cut := spanChunks_chunksOf limits maxChunkWords
          obtain ⟨front, last, split⟩ := List.eq_nil_or_concat'
            (spanChunks text state maxChunkWords) |>.resolve_left cut.some_chunk
          have member : last ∈ spanChunks text state maxChunkWords := by
            rw [split]
            exact List.mem_append_right _ List.mem_cons_self
          unfold preparedOffset
          simp only
          rw [split, List.getLast?_concat, Option.map_some, Option.getD_some]
          exact (cut.boundaries last member).2
  | textOffset spanId utf8Offset affinity =>
      exact (preparedPositions state text).boundary utf8Offset (inText utf8Offset rfl)

/-- The actions are placed one by one at their prepared offsets. -/
theorem placeTimelineActions_eq (limits : SpanLimits text state)
    (maxChunkWords : ChunkWordLimit) (actions : List PresentationTimelineAction) :
    placeTimelineActions (spanChunks text state maxChunkWords)
        ((actions.filterMap fun action => action.position.textOffset?).map
          (preparedPosition state text)) actions =
      some (actions.map fun action => placed (spanChunks text state maxChunkWords)
        (preparedOffset text state maxChunkWords action.position) action.position.affinity) := by
  have cut := spanChunks_chunksOf limits maxChunkWords
  induction actions with
  | nil => rfl
  | cons action rest ih =>
      obtain ⟨name, position⟩ := action
      have next : ∀ later, nextOffset (spanChunks text state maxChunkWords)
          ((position.textOffset?.toList.map (preparedPosition state text)) ++ later) position =
            some (preparedOffset text state maxChunkWords position, later) := by
        intro later
        cases position with
        | spanBoundary spanId affinity => cases affinity <;> rfl
        | textOffset spanId utf8Offset affinity => rfl
      have offsets : ((⟨name, position⟩ :: rest : List PresentationTimelineAction).filterMap
          fun action => action.position.textOffset?) =
            position.textOffset?.toList ++ rest.filterMap fun action =>
              action.position.textOffset? := by
        cases position <;> rfl
      rw [placeTimelineActions, offsets, List.map_append, next, List.map_cons]
      simp only [Option.bind_eq_bind, Option.bind_some, cut.placeTimelineAction, ih]
      rfl

/-- **The layout of a span**: its chunks, and a place in them for each action. -/
theorem prepareTimelineTextLayout_eq (limits : SpanLimits text state)
    (inText : OffsetsInText text actions) :
    prepareTimelineTextLayout id text actions state maxChunkWords =
      some ⟨spanChunks text state maxChunkWords,
        actions.map fun action => placed (spanChunks text state maxChunkWords)
          (preparedOffset text state maxChunkWords action.position) action.position.affinity⟩ := by
  let asked := actions.filterMap fun action => action.position.textOffset?
  have boundaries : ∀ offset ∈ asked, IsCharBoundary text offset := by
    intro offset member
    obtain ⟨action, inActions, here⟩ := List.mem_filterMap.mp member
    exact inText action inActions offset here
  have fits : ∀ offset ∈ asked, preparedPosition state text offset ≤ wordMax 32 := by
    intro offset member
    exact ((preparedPositions state text).boundary offset (boundaries offset member)).le.trans
      limits.fits
  have same : (prepareSpeechTextWithOffsets text state asked).1 = prepareSpeechText text state :=
    (prepareSpeechTextWithOffsets_text state asked).1
  have offsets := prepareSpeechTextWithOffsets_offsets state boundaries fits
  have named : nameTones id (prepareSpeechText text state) = prepareSpeechText text state := rfl
  unfold prepareTimelineTextLayout
  simp only
  rw [show prepareSpeechTextWithOffsets text state asked =
    (prepareSpeechText text state, asked.map (preparedPosition state text)) from
      Prod.ext same offsets]
  simp only [named]
  have all := placeTimelineActions_eq limits maxChunkWords actions
  unfold spanChunks at all ⊢
  rw [all]
  rfl

/-! ## Every action has a place -/

/-- **The place of an action** is a boundary of an existing chunk. -/
structure PlacedIn (chunks : List PreparedSpeechChunk) (action : PresentationTimelineAction)
    (position : PreparedTimelineActionPosition) : Prop where
  affinity : position.affinity = action.position.affinity
  chunk : ∃ chunk : PreparedSpeechChunk, chunks[position.chunkIndex]? = some chunk ∧
    position.localOffset ≤ utf8Len chunk.text ∧ IsCharBoundary chunk.text position.localOffset

theorem placed_placedIn (limits : SpanLimits text state) (inText : OffsetsInText text actions) :
    ∀ action ∈ actions, PlacedIn (spanChunks text state maxChunkWords) action
      (placed (spanChunks text state maxChunkWords)
        (preparedOffset text state maxChunkWords action.position) action.position.affinity) := by
  intro action member
  have boundary := @preparedOffset_boundary _ text state maxChunkWords limits action.position
    fun offset asked => inText action member offset asked
  exact ⟨rfl, (spanChunks_chunksOf limits maxChunkWords).placed_boundary boundary
    action.position.affinity⟩

end Layout

/-! ## The actions of a chunk -/

/-- An identifier that an anchor may have. -/
def AnchorName (id : String) : Prop :=
  id.isEmpty = false ∧ id.utf8ByteSize ≤ MAX_SYNTHESIS_ANCHOR_ID_BYTES

/-- **What becomes of the actions of a chunk.** -/
structure ChunkActions (chunks : List PreparedSpeechChunk)
    (actions : List PresentationTimelineAction)
    (positions : List PreparedTimelineActionPosition) (index : Nat)
    (placedActions : List TimelineChunkAction) : Prop where
  names : (placedActions.map TimelineChunkAction.id).Sublist
    (actions.map PresentationTimelineAction.id)
  boundaries : ∀ chunk : PreparedSpeechChunk, chunks[index]? = some chunk →
    ∀ action ∈ placedActions, IsCharBoundary chunk.text action.textOffset
  count : placedActions.length =
    (positions.filter fun position => position.chunkIndex == index).length

theorem chunkActions_itemsOf {actions : List PresentationTimelineAction}
    {chunks : List PreparedSpeechChunk}
    {places : PresentationTimelineAction → PreparedTimelineActionPosition}
    (placedIn : ∀ action ∈ actions, PlacedIn chunks action (places action)) (index : Nat) :
    ChunkActions chunks actions (actions.map places) index
      (itemsOf index (actions.map fun action => ((places action).chunkIndex,
        (⟨action.id, (places action).localOffset, (places action).affinity⟩ :
          TimelineChunkAction)))) := by
  have items : itemsOf index (actions.map fun action => ((places action).chunkIndex,
      (⟨action.id, (places action).localOffset, (places action).affinity⟩ :
        TimelineChunkAction))) =
      (actions.filter fun action => (places action).chunkIndex == index).map fun action =>
        ⟨action.id, (places action).localOffset, (places action).affinity⟩ := by
    unfold itemsOf
    rw [List.filter_map, List.map_map]
    rfl
  rw [items]
  refine ⟨?_, ?_, ?_⟩
  · rw [List.map_map]
    exact (List.filter_sublist).map PresentationTimelineAction.id
  · intro chunk here action member
    obtain ⟨source, inFiltered, rfl⟩ := List.mem_map.mp member
    obtain ⟨inActions, same⟩ := List.mem_filter.mp inFiltered
    obtain ⟨-, found, there, -, boundary⟩ := placedIn source inActions
    rw [eq_of_beq same, here] at there
    rw [Option.some.inj there]
    exact boundary
  · rw [List.length_map, List.filter_map, List.length_map]
    rfl

/-- The number of actions of a chunk is counted. -/
theorem actionCounts_eq {layout : PreparedTimelineSpanLayout}
    (inside : ∀ position ∈ layout.actionPositions, position.chunkIndex < layout.chunks.length) :
    ∃ counts, actionCounts layout = some counts ∧
      ∀ (index : Nat) (chunk : PreparedSpeechChunk), layout.chunks[index]? = some chunk →
        counts[index]? = some (chunk.capitalizationTones.length +
          (layout.actionPositions.filter fun position => position.chunkIndex == index).length) := by
  have counted : ∀ (units : List Unit) (start : Nat),
      units.foldl (fun count () => count + 1) start = start + units.length := by
    intro units
    induction units with
    | nil => exact fun _ => rfl
    | cons _ rest ih =>
        intro start
        rw [List.foldl_cons, ih, List.length_cons]
        omega
  obtain ⟨counts, filed, -, places⟩ := @fileAll_eq_some Nat Unit (fun count () => count + 1)
    (layout.chunks.map fun chunk => chunk.capitalizationTones.length)
    (layout.actionPositions.map fun position => (position.chunkIndex, ())) (by
      intro item member
      obtain ⟨position, inPositions, rfl⟩ := List.mem_map.mp member
      rw [List.length_map]
      exact inside position inPositions)
  refine ⟨counts, filed, fun index chunk here => ?_⟩
  rw [places index, List.getElem?_map, here, Option.map_some, Option.map_some, counted]
  unfold itemsOf
  rw [List.filter_map, List.length_map, List.length_map]
  rfl

/-- An accepted layout has few actions in each chunk. -/
theorem validateTimelineSpanLayout_eq {spanId : Nat} {layout : PreparedTimelineSpanLayout}
    (inside : ∀ position ∈ layout.actionPositions, position.chunkIndex < layout.chunks.length) :
    ∃ checked, validateTimelineSpanLayout spanId layout = some checked ∧
      (checked = .ok () → ∀ (index : Nat) (chunk : PreparedSpeechChunk),
        layout.chunks[index]? = some chunk → chunk.capitalizationTones.length +
          (layout.actionPositions.filter fun position => position.chunkIndex == index).length ≤
            maxWindowActions) := by
  obtain ⟨counts, counted, places⟩ := actionCounts_eq inside
  unfold validateTimelineSpanLayout
  rw [counted]
  refine ⟨_, rfl, fun accepted index chunk here => ?_⟩
  have member : (_, index) ∈ counts.zipIdx :=
    List.mem_zipIdx_iff_getElem?.mpr (places index chunk here)
  exact of_decide_eq_true (ensure_eq_ok.mp (forM_eq_ok.mp accepted _ member))

/-- **Every action is placed, and every chunk takes its actions.** Each action of a span has
a place on a boundary of an existing chunk, in the order of the span. If the layout is
accepted and the identifiers are distinct and short, the request of each chunk accepts the
anchors of its actions. -/
theorem prepareTimelineTextLayout_places [UnicodeCase] (id : Nat) {text : List Char}
    {actions : List PresentationTimelineAction} {state : TtsState}
    (maxChunkWords : ChunkWordLimit) (limits : SpanLimits text state)
    (inText : OffsetsInText text actions) :
    ∃ layout, prepareTimelineTextLayout id text actions state maxChunkWords = some layout ∧
      List.Forall₂ (PlacedIn layout.chunks) actions layout.actionPositions ∧
      ∃ checked, validateTimelineSpanLayout id layout = some checked ∧
        (checked = .ok () → (actions.map PresentationTimelineAction.id).Nodup →
          (∀ action ∈ actions, AnchorName action.id) →
          ∃ byChunk, timelineChunkActions layout actions = some byChunk ∧
            byChunk.length = layout.chunks.length ∧
            ∀ (index : Nat) (chunk : PreparedSpeechChunk) (chunkActions : List TimelineChunkAction),
              layout.chunks[index]? = some chunk → byChunk[index]? = some chunkActions →
                ∀ request : SynthesisRequest, request.text = chunk.text →
                  request.withAnchors
                      (requestedTimelineAnchors chunk.capitalizationTones chunkActions) =
                    .ok { request with
                      anchors := requestedTimelineAnchors chunk.capitalizationTones chunkActions }) := by
  have cut := spanChunks_chunksOf limits maxChunkWords
  have placedIn := @placed_placedIn _ text actions state maxChunkWords limits inText
  let places := fun action : PresentationTimelineAction =>
    placed (spanChunks text state maxChunkWords)
      (preparedOffset text state maxChunkWords action.position) action.position.affinity
  have inside : ∀ position ∈ actions.map places,
      position.chunkIndex < (spanChunks text state maxChunkWords).length := by
    intro position member
    obtain ⟨action, inActions, rfl⟩ := List.mem_map.mp member
    obtain ⟨-, chunk, here, -⟩ := placedIn action inActions
    exact (List.getElem?_eq_some_iff.mp here).1
  refine ⟨_, prepareTimelineTextLayout_eq limits inText, ?_, ?_⟩
  · rw [List.forall₂_map_right_iff, List.forall₂_same]
    exact placedIn
  · obtain ⟨checked, validated, few⟩ := @validateTimelineSpanLayout_eq id
      ⟨spanChunks text state maxChunkWords, actions.map places⟩ inside
    refine ⟨checked, validated, fun accepted distinct named => ?_⟩
    have zipped : (actions.zip (actions.map places)).map (fun entry =>
        (entry.2.chunkIndex, (⟨entry.1.id, entry.2.localOffset, entry.2.affinity⟩ :
          TimelineChunkAction))) =
        actions.map fun action => ((places action).chunkIndex,
          (⟨action.id, (places action).localOffset, (places action).affinity⟩ :
            TimelineChunkAction)) := by
      rw [← List.map_prod_left_eq_zip, List.map_map]
      rfl
    obtain ⟨byChunk, filed, length, bins⟩ := @fileAll_eq_some (List TimelineChunkAction)
      TimelineChunkAction (fun filed action => filed ++ [action])
      ((spanChunks text state maxChunkWords).map fun _ => [])
      (actions.map fun action => ((places action).chunkIndex,
        (⟨action.id, (places action).localOffset, (places action).affinity⟩ :
          TimelineChunkAction))) (by
        intro item member
        obtain ⟨action, inActions, rfl⟩ := List.mem_map.mp member
        rw [List.length_map]
        exact inside _ (List.mem_map_of_mem inActions))
    rw [List.length_map] at length
    refine ⟨byChunk, ?_, length, ?_⟩
    · unfold timelineChunkActions
      rw [← filed]
      exact congrArg (fileAll _ _) zipped
    · intro index chunk chunkActions here taken request sameText
      have appended : ∀ (start items : List TimelineChunkAction),
          items.foldl (fun filed action => filed ++ [action]) start = start ++ items := by
        intro start items
        induction items generalizing start with
        | nil => exact (List.append_nil start).symm
        | cons item rest ih =>
            rw [List.foldl_cons, ih, List.append_assoc, List.cons_append, List.nil_append]
      rw [bins index, List.getElem?_map, here, Option.map_some, Option.map_some, appended,
        List.nil_append] at taken
      have own := chunkActions_itemsOf placedIn index
      rw [Option.some.inj taken] at own
      have member : chunk ∈ spanChunks text state maxChunkWords := List.mem_of_getElem? here
      have toneless : chunk.capitalizationTones = [] := chunkPreparedSpeech_tones rfl chunk member
      have count := few accepted index chunk here
      rw [← own.count, toneless, List.length_nil, Nat.zero_add] at count
      have asked : requestedTimelineAnchors chunk.capitalizationTones chunkActions =
          chunkActions.map fun action => ⟨action.id, action.textOffset, action.affinity⟩ := by
        rw [toneless]
        rfl
      rw [asked]
      refine SynthesisRequest.withAnchors_eq_ok ?_ ?_ ?_
      · rw [List.length_map]
        exact count.trans (by decide)
      · rw [List.map_map]
        exact distinct.sublist own.names
      · intro anchor inAnchors
        obtain ⟨action, inChunk, rfl⟩ := List.mem_map.mp inAnchors
        obtain ⟨source, inActions, sameId⟩ := List.mem_map.mp
          (own.names.subset (List.mem_map_of_mem inChunk))
        obtain ⟨nonempty, short⟩ := named source inActions
        rw [sameId] at nonempty short
        exact ⟨nonempty, short, sameText ▸ own.boundaries chunk here action inChunk⟩

/-- Two words, chunked one word at a time. -/
def oneWord : ChunkWordLimit := ⟨1, by decide⟩

/-- An action in front of the space between the words and one behind it. -/
def spaceActions : List PresentationTimelineAction :=
  [⟨"ahead", .textOffset 1 1 .before⟩, ⟨"behind", .textOffset 1 2 .after⟩]

theorem spaceActions_inText : OffsetsInText ['a', ' ', 'b'] spaceActions := by
  intro action member offset asked
  rcases List.mem_cons.mp member with rfl | later
  · obtain rfl : 1 = offset := Option.some.inj asked
    exact ⟨['a'], [' ', 'b'], rfl, rfl⟩
  · rw [List.mem_singleton.mp later] at asked
    obtain rfl : 2 = offset := Option.some.inj asked
    exact ⟨['a', ' '], ['b'], rfl, rfl⟩

theorem spaceActions_limits : SpanLimits ['a', ' ', 'b'] (bangState false) := by
  refine ⟨by decide, fun c name entry => ?_⟩
  change bangTable c = _ at entry
  unfold bangTable at entry
  split at entry
  · obtain rfl := Option.some.inj (Option.some.inj entry)
    decide
  · cases entry

/-- The actions around a space are placed, and each chunk takes its own. -/
theorem prepareTimelineTextLayout_places_words :
    ∃ layout, prepareTimelineTextLayout 1 ['a', ' ', 'b'] spaceActions (bangState false) oneWord =
        some layout ∧
      List.Forall₂ (PlacedIn layout.chunks) spaceActions layout.actionPositions ∧
      ∃ byChunk, timelineChunkActions layout spaceActions = some byChunk ∧
        ∀ (index : Nat) (chunk : PreparedSpeechChunk) (chunkActions : List TimelineChunkAction),
          layout.chunks[index]? = some chunk → byChunk[index]? = some chunkActions →
            ∀ request : SynthesisRequest, request.text = chunk.text →
              request.withAnchors
                  (requestedTimelineAnchors chunk.capitalizationTones chunkActions) =
                .ok { request with
                  anchors := requestedTimelineAnchors chunk.capitalizationTones chunkActions } := by
  obtain ⟨layout, prepared, placedIn, checked, validated, accepts⟩ :=
    prepareTimelineTextLayout_places 1 oneWord spaceActions_limits spaceActions_inText
  have evaluated : prepareTimelineTextLayout 1 ['a', ' ', 'b'] spaceActions (bangState false)
      oneWord = some ⟨[⟨['a'], [], 0, 1⟩, ⟨['b'], [], 2, 3⟩],
        [⟨1, 0, .before⟩, ⟨0, 1, .after⟩]⟩ := by decide +kernel
  obtain rfl := Option.some.inj (evaluated.symm.trans prepared)
  have accepted : checked = .ok () := Option.some.inj (validated.symm.trans rfl)
  obtain ⟨byChunk, filed, -, requests⟩ := accepts accepted (by decide) (by
    intro action member
    rcases List.mem_cons.mp member with rfl | later
    · exact ⟨rfl, by decide⟩
    · rw [List.mem_singleton.mp later]
      exact ⟨rfl, by decide⟩)
  exact ⟨_, prepared, placedIn, byChunk, filed, requests⟩

/-! ## The order of the actions -/

/-- Not behind, in the order of the chunks and then of the offsets. -/
def PreparedTimelineActionPosition.NotBehind (first second : PreparedTimelineActionPosition) :
    Prop :=
  first.chunkIndex < second.chunkIndex ∨
    first.chunkIndex = second.chunkIndex ∧ first.localOffset ≤ second.localOffset

/-- Two offsets in the space between two chunks, its ends included. -/
def ShareSpace (chunks : List PreparedSpeechChunk) (first second : Nat) : Prop :=
  ShareGap PreparedSpeechChunk.sourceStart PreparedSpeechChunk.sourceEnd chunks first second

theorem placed_notBehind {text : List Char} {chunks : List PreparedSpeechChunk}
    (cut : ChunksOf text chunks) {first second : Nat} (before : first < second)
    (ahead back : AnchorAffinity) :
    (placed chunks first ahead).NotBehind (placed chunks second back) ↔
      ¬ (ahead = .before ∧ back = .after ∧ ShareSpace chunks first second) := by
  obtain ⟨a, here, inFirst⟩ := cut.located first ahead
  obtain ⟨b, there, inSecond⟩ := cut.located second back
  have order := placed_ordered cut.intervals cut.some_chunk before
    (locateTimelineChunk_eq chunks first ahead ▸ here)
    (locateTimelineChunk_eq chunks second back ▸ there)
  rw [← locateTimelineChunk_eq, ← locateTimelineChunk_eq] at order
  have searches : (searchOf ahead = .forwards ∧ searchOf back = .backwards ∧
      ShareGap PreparedSpeechChunk.sourceStart PreparedSpeechChunk.sourceEnd chunks first second) ↔
        (ahead = .before ∧ back = .after ∧ ShareSpace chunks first second) := by
    cases ahead <;> cases back <;> simp [searchOf, ShareSpace]
  rw [searches] at order
  rw [← order]
  unfold PreparedTimelineActionPosition.NotBehind placed
  simp only [here, there, Option.map_some, Option.getD_some]
  refine or_congr Iff.rfl (and_congr_right fun same => ?_)
  -- in one chunk the offsets are counted from one start
  obtain rfl : a = b := Option.some.inj (by rw [← here, ← there, same])
  have behind := (@clampTo_mem _ _ _ PreparedSpeechChunk.sourceStart
    PreparedSpeechChunk.sourceEnd a first (cut.intervals.filled a inFirst)).1
  have behind' := (@clampTo_mem _ _ _ PreparedSpeechChunk.sourceStart
    PreparedSpeechChunk.sourceEnd a second (cut.intervals.filled a inFirst)).1
  omega

/-- **Chunking and the order of actions.** Of two actions with prepared offsets in order, the
first is placed not behind the second, exactly unless it is in front of its position, the
second is behind its own, and both lie in the space between two chunks. -/
theorem prepareTimelineTextLayout_ordered [UnicodeCase] (id : Nat) {text : List Char}
    {actions : List PresentationTimelineAction} {state : TtsState}
    (maxChunkWords : ChunkWordLimit) (limits : SpanLimits text state)
    (inText : OffsetsInText text actions) :
    ∃ layout, prepareTimelineTextLayout id text actions state maxChunkWords = some layout ∧
      ∀ (i j : Nat) (first second : PresentationTimelineAction)
        (firstPlace secondPlace : PreparedTimelineActionPosition),
        actions[i]? = some first → actions[j]? = some second →
        layout.actionPositions[i]? = some firstPlace →
        layout.actionPositions[j]? = some secondPlace →
        preparedOffset text state maxChunkWords first.position <
          preparedOffset text state maxChunkWords second.position →
        (firstPlace.NotBehind secondPlace ↔
          ¬ (first.position.affinity = .before ∧ second.position.affinity = .after ∧
            ShareSpace layout.chunks (preparedOffset text state maxChunkWords first.position)
              (preparedOffset text state maxChunkWords second.position))) := by
  refine ⟨_, prepareTimelineTextLayout_eq limits inText, ?_⟩
  intro i j first second firstPlace secondPlace here there placedHere placedThere before
  rw [List.getElem?_map, here, Option.map_some] at placedHere
  rw [List.getElem?_map, there, Option.map_some] at placedThere
  rw [← Option.some.inj placedHere, ← Option.some.inj placedThere]
  exact placed_notBehind (spanChunks_chunksOf limits maxChunkWords) before
    first.position.affinity second.position.affinity

/-- Two actions in front of the second word are in order. -/
theorem prepareTimelineTextLayout_ordered_words :
    ∃ layout, prepareTimelineTextLayout 1 ['a', ' ', 'b'] spaceActions (bangState false) oneWord =
        some layout ∧
      ∀ firstPlace secondPlace : PreparedTimelineActionPosition,
        layout.actionPositions[0]? = some firstPlace →
        layout.actionPositions[1]? = some secondPlace →
        (firstPlace.NotBehind secondPlace ↔ ¬ ShareSpace layout.chunks 1 2) := by
  obtain ⟨layout, prepared, ordered⟩ :=
    prepareTimelineTextLayout_ordered 1 oneWord spaceActions_limits spaceActions_inText
  refine ⟨layout, prepared, fun firstPlace secondPlace here there => ?_⟩
  rw [ordered 0 1 _ _ firstPlace secondPlace rfl rfl here there (by decide)]
  exact not_congr ⟨fun crossed => crossed.2.2, fun shared => ⟨rfl, rfl, shared⟩⟩

/-- An action in front of the space between two chunks is placed behind one at its end. -/
theorem prepareTimelineTextLayout_crosses :
    preparedOffset ['a', ' ', 'b'] (bangState false) oneWord (.textOffset 1 1 .before) <
        preparedOffset ['a', ' ', 'b'] (bangState false) oneWord (.textOffset 1 2 .after) ∧
      (prepareTimelineTextLayout 1 ['a', ' ', 'b'] spaceActions (bangState false) oneWord).map
          PreparedTimelineSpanLayout.actionPositions =
        some [⟨1, 0, .before⟩, ⟨0, 1, .after⟩] ∧
      ¬ PreparedTimelineActionPosition.NotBehind ⟨1, 0, .before⟩ ⟨0, 1, .after⟩ := by
  refine ⟨by decide, by decide +kernel, ?_⟩
  rintro (less | ⟨same, -⟩)
  · exact absurd less (by decide)
  · exact absurd same (by decide)

end Omnivox.Presentation
