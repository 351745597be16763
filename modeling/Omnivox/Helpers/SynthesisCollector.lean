import Mathlib
import Omnivox.Foundations.Bounded
import Omnivox.Foundations.Recognizers
import Omnivox.Helpers.ProgressiveCollector

/-!
# Collecting a whole helper synthesis

The client of a helper that does not stream collects the frames of a synthesis until its
terminal frame. A buffered synthesis sends its markers behind its audio. A progressive one
mixes them, and no marker may lie behind the audio received or before an earlier marker.

What the collector accepts is a language of frames: a start, audio chunks numbered from 0 and
batches of markers, and a completion with the frame count. It completes on the frames of a
lawful stream and on nothing else, with what the stream says (`collector_completes_iff`).
-/

set_option autoImplicit false

namespace Omnivox.Helpers

open Foundations Synthesis

/-! ## The collector -/

structure HelperCompletedSynthesis where
  samples : List Int16
  sampleRate : Nat
  channels : Nat
  actualVoiceId : String
  markers : List HelperMarker
  deriving Repr, DecidableEq

inductive HelperSynthesisResult where
  | completed (synthesis : HelperCompletedSynthesis)
  | cancelled
  deriving Repr, DecidableEq

structure HelperAudioFormat where
  sampleRate : Nat
  channels : Nat
  deriving Repr, DecidableEq

structure HelperSynthesisCollector where
  progressive : Bool
  expectedVoiceId : Option String
  phase : SynthesisPhase
  format : Option HelperAudioFormat
  actualVoiceId : Option String
  nextSequence : Nat
  samples : List Int16
  markers : List HelperMarker
  lastMarkerOffset : Option Nat
  deriving Repr, DecidableEq

def audioAfterMarkers : HelperEngineError :=
  .unexpectedResponse "audio_chunk after marker stream"

namespace HelperSynthesisCollector

def new (expectedVoiceId : Option String) : HelperSynthesisCollector where
  progressive := false
  expectedVoiceId := expectedVoiceId
  phase := .awaitingStart
  format := none
  actualVoiceId := none
  nextSequence := 0
  samples := []
  markers := []
  lastMarkerOffset := none

def newProgressive (expectedVoiceId : Option String) : HelperSynthesisCollector :=
  { new expectedVoiceId with progressive := true }

abbrev Collected (α : Type) := Outcome HelperSynthesisCollector HelperEngineError α

/-- A start takes the format and the voice. -/
def acceptStarted (collector : HelperSynthesisCollector) (sampleRate channels : Nat)
    (actualVoiceId : String) : Collected (Option HelperSynthesisResult) :=
  match checkActualVoice collector.expectedVoiceId actualVoiceId with
  | .error e => (collector, .error e)
  | .ok _ =>
      ({ collector with
        format := some ⟨sampleRate, channels⟩
        actualVoiceId := some actualVoiceId
        phase := .streamingAudio }, .ok none)

/-- A chunk of PCM. The format is there once a synthesis started. -/
def acceptAudio (collector : HelperSynthesisCollector) (sequence : Nat) (samples : List Int16) :
    Collected (Option HelperSynthesisResult) :=
  if sequence ≠ collector.nextSequence then
    (collector, .error (.audioSequenceMismatch collector.nextSequence sequence))
  else
    match collector.format with
    | none => (collector, .error dataBeforeStart)
    | some format =>
        if samples.length % format.channels ≠ 0 then (collector, .error .audioFrameAlignment)
        else
          match ((checkedMul usizeMax collector.samples.length sampleBytes).bind fun length =>
              checkedAdd usizeMax length (samples.length * sampleBytes)).filter
                (· ≤ MAX_HELPER_SYNTHESIS_BYTES) with
          | none => (collector, .error .synthesisTooLarge)
          | some _ =>
              ({ collector with
                samples := collector.samples ++ samples
                nextSequence := wrappingAdd 32 collector.nextSequence 1 }, .ok none)

/-- The markers of a progressive stream are checked against the frames received. -/
def checkBatch (collector : HelperSynthesisCollector) (format : HelperAudioFormat)
    (batch : List HelperMarker) : Collected Unit :=
  let received := collector.samples.length / format.channels
  let admitted := admitMarkers
    (fun offset => HelperEngineError.markerBehindAudio offset received)
    HelperEngineError.markerOrderMismatch received collector.lastMarkerOffset batch
  ({ collector with lastMarkerOffset := admitted.1 }, admitted.2)

/-- A batch of markers. Only a progressive stream is checked at once. -/
def acceptMarkers (collector : HelperSynthesisCollector) (batch : List HelperMarker) :
    Collected (Option HelperSynthesisResult) :=
  if saturatingAdd usizeMax collector.markers.length batch.length > MAX_HELPER_MARKERS then
    (collector, .error (.protocol .tooManyMarkers))
  else if collector.progressive then
    match collector.format with
    | none => (collector, .error dataBeforeStart)
    | some format =>
        andThen (collector.checkBatch format batch) fun collector _ =>
          ({ collector with markers := collector.markers ++ batch }, .ok none)
  else
    ({ collector with
      markers := collector.markers ++ batch
      phase := .streamingMarkers }, .ok none)

def acceptCompleted (collector : HelperSynthesisCollector) (frameCount : Nat) :
    Collected (Option HelperSynthesisResult) :=
  match collector.format with
  | none => (collector, .error dataBeforeStart)
  | some format =>
      let received := collector.samples.length / format.channels
      if frameCount ≠ received then
        (collector, .error (.frameCountMismatch frameCount received))
      else
        match collector.markers.find? fun marker => marker.frameOffset > frameCount with
        | some marker => (collector, .error (.markerOutOfRange marker.frameOffset frameCount))
        | none =>
            match collector.actualVoiceId with
            | none => (collector, .error dataBeforeStart)
            | some actualVoiceId =>
                ({ collector with
                    phase := .terminal
                    samples := []
                    actualVoiceId := none
                    markers := [] },
                  .ok (some (.completed {
                    samples := collector.samples
                    sampleRate := format.sampleRate
                    channels := format.channels
                    actualVoiceId := actualVoiceId
                    markers := collector.markers })))

/-- A synthesis started and is not over. -/
def streaming (collector : HelperSynthesisCollector) : Bool :=
  collector.phase = .streamingAudio || collector.phase = .streamingMarkers

/-- Take one frame. -/
def accept (collector : HelperSynthesisCollector) (body : HelperResponseBody) :
    Collected (Option HelperSynthesisResult) :=
  match body.validate with
  | .error fault => (collector, .error (.protocol fault))
  | .ok _ =>
      if collector.phase = .terminal then (collector, .error afterTerminal)
      else
        match body with
        | .synthesisStarted sampleRate channels actualVoiceId =>
            if collector.phase = .awaitingStart then
              collector.acceptStarted sampleRate channels actualVoiceId
            else (collector, .error duplicateStart)
        | .audioChunk sequence samples =>
            if collector.phase = .streamingAudio then collector.acceptAudio sequence samples
            else if collector.phase = .streamingMarkers then (collector, .error audioAfterMarkers)
            else (collector, .error dataBeforeStart)
        | .markers batch =>
            if collector.streaming then collector.acceptMarkers batch
            else (collector, .error dataBeforeStart)
        | .synthesisCompleted frameCount =>
            if collector.streaming then collector.acceptCompleted frameCount
            else (collector, .error dataBeforeStart)
        | .synthesisCancelled =>
            ({ collector with phase := .terminal }, .ok (some .cancelled))
        | .error code message retryable =>
            ({ collector with phase := .terminal }, .error (.remote code message retryable))
        | .other _ => (collector, .error nonSynthesisResponse)

end HelperSynthesisCollector

/-! ## Streams -/

/-- What a stream carries between its start and its end. -/
inductive StreamItem where
  | audio (samples : List Int16)
  | markers (batch : List HelperMarker)
  deriving Repr, DecidableEq

namespace StreamItem

def samples : StreamItem → List Int16
  | .audio samples => samples
  | .markers _ => []

def batch : StreamItem → List HelperMarker
  | .audio _ => []
  | .markers batch => batch

def chunks : StreamItem → Nat
  | .audio _ => 1
  | .markers _ => 0

/-- The frame of an item with so many chunks before it. -/
def body (sequence : Nat) : StreamItem → HelperResponseBody
  | .audio samples => .audioChunk sequence samples
  | .markers batch => .markers batch

end StreamItem

def samplesOf (items : List StreamItem) : List Int16 := items.flatMap StreamItem.samples

def markersOf (items : List StreamItem) : List HelperMarker := items.flatMap StreamItem.batch

/-- The chunks of a stream are numbered from 0. -/
def chunkCount (items : List StreamItem) : Nat := (items.map StreamItem.chunks).sum

/-- The frames of the items, numbered on from a sequence number. -/
def bodies : Nat → List StreamItem → List HelperResponseBody
  | _, [] => []
  | sequence, item :: rest => item.body sequence :: bodies (sequence + item.chunks) rest

/-- A synthesis as its helper sends it. -/
structure HelperStream where
  sampleRate : Nat
  channels : Nat
  voiceId : String
  items : List StreamItem
  deriving Repr, DecidableEq

namespace HelperStream

def frameCount (stream : HelperStream) : Nat :=
  (samplesOf stream.items).length / stream.channels

/-- The frames up to the completion. -/
def opening (stream : HelperStream) : List HelperResponseBody :=
  .synthesisStarted stream.sampleRate stream.channels stream.voiceId :: bodies 0 stream.items

def frames (stream : HelperStream) : List HelperResponseBody :=
  stream.opening ++ [.synthesisCompleted stream.frameCount]

def synthesis (stream : HelperStream) : HelperCompletedSynthesis where
  samples := samplesOf stream.items
  sampleRate := stream.sampleRate
  channels := stream.channels
  actualVoiceId := stream.voiceId
  markers := markersOf stream.items

end HelperStream

/-- Audio comes before all markers. -/
def AudioFirst (before : List StreamItem) : StreamItem → Prop
  | .audio _ => markersOf before = []
  | .markers _ => True

/-- No marker lies behind the audio before it, or before the last marker. -/
def InStep (channels : Nat) (before : List StreamItem) : StreamItem → Prop
  | .audio _ => True
  | .markers batch =>
      BatchAdmitted ((samplesOf before).length / channels) (lastOffset none (markersOf before))
        batch ∧ batch.Pairwise (keyLE HelperMarker.frameOffset)

/-- What a stream may carry next: a valid frame, of whole PCM frames, within the limits, and
in the order that the kind of stream asks for. -/
structure Follows (progressive : Bool) (channels : Nat) (before : List StreamItem)
    (item : StreamItem) : Prop where
  valid : (item.body 0).validate = .ok ()
  whole : item.samples.length % channels = 0
  small : (samplesOf (before ++ [item])).length * sampleBytes ≤ MAX_HELPER_SYNTHESIS_BYTES
  few : (markersOf (before ++ [item])).length ≤ MAX_HELPER_MARKERS
  order : if progressive then InStep channels before item else AudioFirst before item

/-- **A lawful start of a stream.** -/
structure LawfulOpening (progressive : Bool) (expectedVoiceId : Option String)
    (stream : HelperStream) : Prop where
  start : (HelperResponseBody.synthesisStarted stream.sampleRate stream.channels
    stream.voiceId).validate = .ok ()
  voice : ∀ expected ∈ expectedVoiceId, stream.voiceId = expected
  items : AllBehind (Follows progressive stream.channels) stream.items

/-- **A lawful stream**: its markers do not exceed its frame count. -/
structure LawfulHelperStream (progressive : Bool) (expectedVoiceId : Option String)
    (stream : HelperStream) : Prop extends
    LawfulOpening progressive expectedVoiceId stream where
  inside : ∀ marker ∈ markersOf stream.items, marker.frameOffset ≤ stream.frameCount

/-! ## One item at a time -/

section Items

variable (items : List StreamItem) (item : StreamItem)

theorem samplesOf_concat : samplesOf (items ++ [item]) = samplesOf items ++ item.samples := by
  rw [samplesOf, List.flatMap_append, List.flatMap_singleton]
  rfl

theorem markersOf_concat : markersOf (items ++ [item]) = markersOf items ++ item.batch := by
  rw [markersOf, List.flatMap_append, List.flatMap_singleton]
  rfl

theorem chunkCount_concat : chunkCount (items ++ [item]) = chunkCount items + item.chunks := by
  rw [chunkCount, List.map_append, List.sum_append, List.map_singleton, List.sum_singleton]
  rfl

theorem bodies_concat (sequence : Nat) :
    bodies sequence (items ++ [item]) =
      bodies sequence items ++ [item.body (sequence + chunkCount items)] := by
  induction items generalizing sequence with
  | nil => rfl
  | cons first rest ih =>
      have count : chunkCount (first :: rest) = first.chunks + chunkCount rest := List.sum_cons
      rw [List.cons_append, bodies, ih, bodies, List.cons_append, count, Nat.add_assoc]

variable {items} {progressive : Bool} {channels : Nat}

/-- Every chunk has a sample, so there are at most as many chunks as samples. -/
theorem chunkCount_le (lawful : AllBehind (Follows progressive channels) items) :
    chunkCount items ≤ (samplesOf items).length := by
  induction items using List.reverseRecOn with
  | nil => exact Nat.zero_le _
  | append_singleton items item ih =>
      obtain ⟨before, follows⟩ := allBehind_concat.mp lawful
      rw [chunkCount_concat, samplesOf_concat, List.length_append]
      refine Nat.add_le_add (ih before) ?_
      cases item with
      | markers batch => exact Nat.zero_le _
      | audio samples =>
          obtain ⟨_, filled⟩ := seq_eq_ok.mp follows.valid
          have nonempty : samples ≠ [] := by simpa using ensure_eq_ok.mp filled
          exact List.length_pos_of_ne_nil nonempty

/-- A lawful stream stays within the limit of markers. -/
theorem markers_few (lawful : AllBehind (Follows progressive channels) items) :
    (markersOf items).length ≤ MAX_HELPER_MARKERS := by
  rcases List.eq_nil_or_concat items with rfl | ⟨front, last, rfl⟩
  · exact Nat.zero_le _
  · rw [List.concat_eq_append] at lawful ⊢
    exact (allBehind_concat.mp lawful).2.few

/-- A lawful stream stays within the limit of PCM. -/
theorem samples_small (lawful : AllBehind (Follows progressive channels) items) :
    (samplesOf items).length * sampleBytes ≤ MAX_HELPER_SYNTHESIS_BYTES := by
  rcases List.eq_nil_or_concat items with rfl | ⟨front, last, rfl⟩
  · exact Nat.zero_le _
  · rw [List.concat_eq_append] at lawful ⊢
    exact (allBehind_concat.mp lawful).2.small

/-- The sequence numbers of a lawful stream do not wrap. -/
theorem chunkCount_lt (lawful : AllBehind (Follows progressive channels) items) :
    chunkCount items + 1 < 2 ^ 32 := by
  have counted := chunkCount_le lawful
  have small := samples_small lawful
  unfold sampleBytes MAX_HELPER_SYNTHESIS_BYTES at small
  omega

end Items

namespace HelperSynthesisCollector

/-- The collector of either kind of stream, before its start. -/
def initial (progressive : Bool) (expectedVoiceId : Option String) : HelperSynthesisCollector :=
  { new expectedVoiceId with progressive := progressive }

/-- What a collector holds behind the start and the items of a stream. -/
def held (progressive : Bool) (expectedVoiceId : Option String) (stream : HelperStream) :
    HelperSynthesisCollector where
  progressive := progressive
  expectedVoiceId := expectedVoiceId
  phase := if !progressive && !(markersOf stream.items).isEmpty then .streamingMarkers
    else .streamingAudio
  format := some ⟨stream.sampleRate, stream.channels⟩
  actualVoiceId := some stream.voiceId
  nextSequence := chunkCount stream.items
  samples := samplesOf stream.items
  markers := markersOf stream.items
  lastMarkerOffset := if progressive then lastOffset none (markersOf stream.items) else none

variable {progressive : Bool} {expectedVoiceId : Option String} {stream : HelperStream}
  {next : HelperSynthesisCollector}

/-- The stream with one more item. -/
def carrying (stream : HelperStream) (item : StreamItem) : HelperStream :=
  { stream with items := stream.items ++ [item] }

theorem held_not_terminal : (held progressive expectedVoiceId stream).phase ≠ .terminal := by
  unfold held
  dsimp only
  split <;> exact SynthesisPhase.noConfusion

theorem held_not_awaiting : (held progressive expectedVoiceId stream).phase ≠ .awaitingStart := by
  unfold held
  dsimp only
  split <;> exact SynthesisPhase.noConfusion

theorem held_streaming : (held progressive expectedVoiceId stream).streaming = true := by
  unfold streaming held
  dsimp only
  split <;> rfl

/-- Audio is awaited unless a buffered stream has come to its markers. -/
theorem held_awaits_audio_iff :
    (held progressive expectedVoiceId stream).phase = .streamingAudio ↔
      (progressive = false → markersOf stream.items = []) := by
  unfold held
  cases progressive with
  | true => exact iff_of_true rfl fun same => by cases same
  | false =>
      cases listed : markersOf stream.items with
      | nil => exact iff_of_true rfl fun _ => rfl
      | cons marker rest =>
          refine iff_of_false (fun same => by cases same) fun every => ?_
          cases every rfl

theorem ordered_audio_iff {channels : Nat} {before : List StreamItem} {samples : List Int16} :
    (if progressive then InStep channels before (.audio samples)
      else AudioFirst before (.audio samples)) ↔ (progressive = false → markersOf before = []) := by
  cases progressive with
  | true => exact iff_of_true trivial fun same => by cases same
  | false => exact ⟨fun first _ => first, fun every => every rfl⟩

/-- A valid frame is taken by its kind. -/
theorem accept_of_valid {collector : HelperSynthesisCollector} {body : HelperResponseBody}
    (valid : body.validate = .ok ()) :
    collector.accept body =
      if collector.phase = .terminal then (collector, .error afterTerminal)
      else
        match body with
        | .synthesisStarted sampleRate channels actualVoiceId =>
            if collector.phase = .awaitingStart then
              collector.acceptStarted sampleRate channels actualVoiceId
            else (collector, .error duplicateStart)
        | .audioChunk sequence samples =>
            if collector.phase = .streamingAudio then collector.acceptAudio sequence samples
            else if collector.phase = .streamingMarkers then (collector, .error audioAfterMarkers)
            else (collector, .error dataBeforeStart)
        | .markers batch =>
            if collector.streaming then collector.acceptMarkers batch
            else (collector, .error dataBeforeStart)
        | .synthesisCompleted frameCount =>
            if collector.streaming then collector.acceptCompleted frameCount
            else (collector, .error dataBeforeStart)
        | .synthesisCancelled =>
            ({ collector with phase := .terminal }, .ok (some .cancelled))
        | .error code message retryable =>
            ({ collector with phase := .terminal }, .error (.remote code message retryable))
        | .other _ => (collector, .error nonSynthesisResponse) := by
  unfold accept
  rw [valid]

/-- What a collector takes was valid. -/
theorem valid_of_accept {collector : HelperSynthesisCollector} {body : HelperResponseBody}
    {answer : Option HelperSynthesisResult} (taken : collector.accept body = (next, .ok answer)) :
    body.validate = .ok () := by
  unfold accept at taken
  split at taken
  · cases taken
  · assumption

/-- **An audio chunk** is taken when it may follow. -/
theorem accept_audio_iff {sequence : Nat} {samples : List Int16}
    (lawful : AllBehind (Follows progressive stream.channels) stream.items) :
    (held progressive expectedVoiceId stream).accept (.audioChunk sequence samples) =
        (next, .ok none) ↔
      sequence = chunkCount stream.items ∧
        Follows progressive stream.channels stream.items (.audio samples) ∧
        next = held progressive expectedVoiceId (carrying stream (.audio samples)) := by
  have limit : MAX_HELPER_SYNTHESIS_BYTES ≤ usizeMax := by decide
  have total : ((samplesOf (stream.items ++ [.audio samples])).length * sampleBytes) =
      (samplesOf stream.items).length * sampleBytes + samples.length * sampleBytes := by
    rw [samplesOf_concat, List.length_append, Nat.add_mul]
    rfl
  have numbered := chunkCount_lt lawful
  have added : ((held progressive expectedVoiceId stream).samples ++ samples) =
      samplesOf (stream.items ++ [.audio samples]) :=
    (samplesOf_concat stream.items (.audio samples)).symm
  have unmarked : markersOf (stream.items ++ [.audio samples]) = markersOf stream.items := by
    rw [markersOf_concat]
    exact List.append_nil _
  have grown : ({ held progressive expectedVoiceId stream with
        samples := (held progressive expectedVoiceId stream).samples ++ samples
        nextSequence := wrappingAdd 32 (held progressive expectedVoiceId stream).nextSequence 1 } :
          HelperSynthesisCollector) =
      held progressive expectedVoiceId (carrying stream (.audio samples)) := by
    have next : wrappingAdd 32 (held progressive expectedVoiceId stream).nextSequence 1 =
        chunkCount (stream.items ++ [.audio samples]) := by
      rw [chunkCount_concat]
      exact wrappingAdd_of_lt numbered
    rw [next, added]
    unfold held carrying
    rw [unmarked]
  constructor
  · intro taken
    have valid := valid_of_accept taken
    rw [accept_of_valid valid, if_neg held_not_terminal] at taken
    dsimp only at taken
    split at taken
    · rename_i awaits
      unfold acceptAudio at taken
      split at taken
      · cases taken
      · rename_i same
        split at taken
        · cases taken
        · rename_i format started
          cases started
          split at taken
          · cases taken
          · rename_i whole
            split at taken
            · cases taken
            · rename_i length fits
              obtain ⟨found, small⟩ := Option.filter_eq_some_iff.mp fits
              obtain ⟨product, multiplied, sum⟩ := Option.bind_eq_some_iff.mp found
              rw [(checkedAdd_eq_some.mp sum).1, (checkedMul_eq_some.mp multiplied).1] at small
              refine ⟨not_not.mp same, ?_, ?_⟩
              · refine ⟨valid, not_not.mp whole, ?_, ?_, ?_⟩
                · rw [total]
                  exact of_decide_eq_true small
                · rw [unmarked]
                  exact markers_few lawful
                · exact ordered_audio_iff.mpr (held_awaits_audio_iff.mp awaits)
              · cases taken
                exact grown
    · split at taken
      · cases taken
      · cases taken
  · rintro ⟨rfl, follows, rfl⟩
    have small := follows.small
    rw [total] at small
    have fits : ((checkedMul usizeMax (held progressive expectedVoiceId stream).samples.length
        sampleBytes).bind fun length =>
          checkedAdd usizeMax length (samples.length * sampleBytes)).filter
            (· ≤ MAX_HELPER_SYNTHESIS_BYTES) =
        some ((samplesOf stream.items).length * sampleBytes + samples.length * sampleBytes) := by
      have product : checkedMul usizeMax (held progressive expectedVoiceId stream).samples.length
          sampleBytes = some ((samplesOf stream.items).length * sampleBytes) :=
        checkedMul_eq_some.mpr ⟨rfl, by dsimp only [held]; omega⟩
      rw [product, Option.bind_some, checkedAdd_of_le (by omega)]
      exact Option.filter_some_pos (decide_eq_true small)
    have valid : (HelperResponseBody.audioChunk (chunkCount stream.items) samples).validate =
        .ok () := follows.valid
    rw [accept_of_valid valid, if_neg held_not_terminal]
    dsimp only
    rw [if_pos (held_awaits_audio_iff.mpr (ordered_audio_iff.mp follows.order))]
    unfold acceptAudio
    rw [if_neg (fun other => other rfl)]
    have started : (held progressive expectedVoiceId stream).format =
        some ⟨stream.sampleRate, stream.channels⟩ := rfl
    rw [started]
    dsimp only
    rw [if_neg (fun other => other follows.whole), fits]
    exact Prod.ext grown rfl

theorem lastOffset_append (last : Option Nat) (first second : List HelperMarker) :
    lastOffset last (first ++ second) = lastOffset (lastOffset last first) second :=
  List.foldl_append

theorem checkBatch_eq_ok {collector : HelperSynthesisCollector} {format : HelperAudioFormat}
    {batch : List HelperMarker} :
    collector.checkBatch format batch = (next, .ok ()) ↔
      BatchAdmitted (collector.samples.length / format.channels) collector.lastMarkerOffset batch ∧
        batch.Pairwise (keyLE HelperMarker.frameOffset) ∧
        next = { collector with
          lastMarkerOffset := lastOffset collector.lastMarkerOffset batch } := by
  constructor
  · intro checked
    have passed : (collector.checkBatch format batch).2 = .ok () := congrArg Prod.snd checked
    unfold checkBatch at passed
    obtain ⟨admitted, sorted, last⟩ := admitted_of_admitMarkers (Prod.ext rfl passed)
    refine ⟨admitted, sorted, ?_⟩
    rw [← last]
    exact (congrArg Prod.fst checked).symm
  · rintro ⟨admitted, sorted, rfl⟩
    unfold checkBatch
    dsimp only
    rw [admitMarkers_of_admitted sorted admitted]

/-- **A batch of markers** is taken when it may follow. -/
theorem accept_markers_iff {batch : List HelperMarker}
    (lawful : AllBehind (Follows progressive stream.channels) stream.items) :
    (held progressive expectedVoiceId stream).accept (.markers batch) = (next, .ok none) ↔
      Follows progressive stream.channels stream.items (.markers batch) ∧
        next = held progressive expectedVoiceId (carrying stream (.markers batch)) := by
  have limit : MAX_HELPER_MARKERS ≤ usizeMax := by decide
  have silent : samplesOf (stream.items ++ [.markers batch]) = samplesOf stream.items := by
    rw [samplesOf_concat]
    exact List.append_nil _
  have added : markersOf (stream.items ++ [.markers batch]) = markersOf stream.items ++ batch :=
    markersOf_concat stream.items (.markers batch)
  have count : chunkCount (stream.items ++ [.markers batch]) = chunkCount stream.items :=
    chunkCount_concat stream.items (.markers batch)
  have room : (¬ saturatingAdd usizeMax (held progressive expectedVoiceId stream).markers.length
      batch.length > MAX_HELPER_MARKERS) ↔
      (markersOf (stream.items ++ [.markers batch])).length ≤ MAX_HELPER_MARKERS := by
    have same : (held progressive expectedVoiceId stream).markers = markersOf stream.items := rfl
    rw [same, added, List.length_append, saturatingAdd, Nat.not_lt, min_le_iff]
    exact or_iff_left_of_imp fun short => absurd short (by decide)
  have taken_as : (HelperResponseBody.markers batch).validate = .ok () →
      (markersOf (stream.items ++ [.markers batch])).length ≤ MAX_HELPER_MARKERS →
      (held progressive expectedVoiceId stream).accept (.markers batch) =
        (held progressive expectedVoiceId stream).acceptMarkers batch := by
    intro valid _
    rw [accept_of_valid valid, if_neg held_not_terminal]
    exact if_pos held_streaming
  have follows_iff : Follows progressive stream.channels stream.items (.markers batch) ↔
      (HelperResponseBody.markers batch).validate = .ok () ∧
        (markersOf (stream.items ++ [.markers batch])).length ≤ MAX_HELPER_MARKERS ∧
        (progressive = true → InStep stream.channels stream.items (.markers batch)) := by
    constructor
    · intro follows
      refine ⟨follows.valid, follows.few, fun on => ?_⟩
      have order := follows.order
      rwa [on, if_pos rfl] at order
    · rintro ⟨valid, few, order⟩
      refine ⟨valid, Nat.zero_mod _, ?_, few, ?_⟩
      · rw [silent]
        exact samples_small lawful
      · cases progressive with
        | true => exact order rfl
        | false => exact trivial
  have marked : (HelperResponseBody.markers batch).validate = .ok () →
      (markersOf stream.items ++ batch).isEmpty = false := by
    intro valid
    obtain ⟨filled, _⟩ := seq_eq_ok.mp valid
    cases batch with
    | nil => cases ensure_eq_ok.mp filled
    | cons marker rest =>
        cases markersOf stream.items with
        | nil => rfl
        | cons => rfl
  rw [follows_iff]
  cases progressive with
  | false =>
      have grown : (HelperResponseBody.markers batch).validate = .ok () →
          ({ held false expectedVoiceId stream with
            markers := (held false expectedVoiceId stream).markers ++ batch
            phase := .streamingMarkers } : HelperSynthesisCollector) =
          held false expectedVoiceId (carrying stream (.markers batch)) := by
        intro valid
        unfold held carrying
        rw [silent, added, count, marked valid]
        rfl
      constructor
      · intro taken
        have valid := valid_of_accept taken
        rw [accept_of_valid valid, if_neg held_not_terminal] at taken
        replace taken := (if_pos held_streaming).symm.trans taken
        unfold acceptMarkers at taken
        split at taken
        · cases taken
        · rename_i few
          cases taken
          exact ⟨⟨valid, room.mp few, fun on => by cases on⟩, grown valid⟩
      · rintro ⟨⟨valid, few, _⟩, rfl⟩
        rw [taken_as valid few]
        unfold acceptMarkers
        rw [if_neg (room.mpr few)]
        exact Prod.ext (grown valid) rfl
  | true =>
      have grown : ({ held true expectedVoiceId stream with
            lastMarkerOffset := lastOffset (lastOffset none (markersOf stream.items)) batch
            markers := (held true expectedVoiceId stream).markers ++ batch } :
              HelperSynthesisCollector) =
          held true expectedVoiceId (carrying stream (.markers batch)) := by
        unfold held carrying
        rw [silent, added, count, lastOffset_append]
        rfl
      constructor
      · intro taken
        have valid := valid_of_accept taken
        rw [accept_of_valid valid, if_neg held_not_terminal] at taken
        replace taken := (if_pos held_streaming).symm.trans taken
        unfold acceptMarkers at taken
        split at taken
        · cases taken
        · rename_i few
          replace taken := (if_pos rfl).symm.trans taken
          obtain ⟨checked, _, batched, ended⟩ := andThen_eq_ok.mp taken
          obtain ⟨admitted, sorted, rfl⟩ := checkBatch_eq_ok.mp batched
          cases ended
          exact ⟨⟨valid, room.mp few, fun _ => ⟨admitted, sorted⟩⟩, grown⟩
      · rintro ⟨⟨valid, few, order⟩, rfl⟩
        obtain ⟨admitted, sorted⟩ := order rfl
        rw [taken_as valid few]
        unfold acceptMarkers
        rw [if_neg (room.mpr few)]
        refine (if_pos rfl).trans (andThen_eq_ok.mpr ⟨_, (),
          checkBatch_eq_ok.mpr ⟨admitted, sorted, rfl⟩, ?_⟩)
        exact Prod.ext grown rfl

/-- **The next frame of a stream** is that of an item that may follow. -/
theorem accept_item_iff {body : HelperResponseBody}
    (lawful : AllBehind (Follows progressive stream.channels) stream.items) :
    (held progressive expectedVoiceId stream).accept body = (next, .ok none) ↔
      ∃ item : StreamItem, body = item.body (chunkCount stream.items) ∧
        Follows progressive stream.channels stream.items item ∧
        next = held progressive expectedVoiceId (carrying stream item) := by
  constructor
  · intro taken
    have valid := valid_of_accept taken
    cases body with
    | audioChunk sequence samples =>
        obtain ⟨rfl, follows, same⟩ := (accept_audio_iff lawful).mp taken
        exact ⟨.audio samples, rfl, follows, same⟩
    | markers batch =>
        obtain ⟨follows, same⟩ := (accept_markers_iff lawful).mp taken
        exact ⟨.markers batch, rfl, follows, same⟩
    | synthesisStarted sampleRate channels actualVoiceId =>
        rw [accept_of_valid valid, if_neg held_not_terminal] at taken
        cases (if_neg held_not_awaiting).symm.trans taken
    | synthesisCompleted frameCount =>
        rw [accept_of_valid valid, if_neg held_not_terminal] at taken
        replace taken := (if_pos held_streaming).symm.trans taken
        unfold acceptCompleted held at taken
        dsimp only at taken
        split at taken
        · cases taken
        · split at taken
          · cases taken
          · cases taken
    | synthesisCancelled =>
        rw [accept_of_valid valid, if_neg held_not_terminal] at taken
        cases taken
    | error code message retryable =>
        rw [accept_of_valid valid, if_neg held_not_terminal] at taken
        cases taken
    | other fault =>
        rw [accept_of_valid valid, if_neg held_not_terminal] at taken
        cases taken
  · rintro ⟨item, rfl, follows, same⟩
    cases item with
    | audio samples => exact (accept_audio_iff lawful).mpr ⟨rfl, follows, same⟩
    | markers batch => exact (accept_markers_iff lawful).mpr ⟨follows, same⟩

theorem checkActualVoice_eq_ok {voiceId : String} :
    checkActualVoice expectedVoiceId voiceId = .ok () ↔
      ∀ expected ∈ expectedVoiceId, voiceId = expected := by
  unfold checkActualVoice
  cases expectedVoiceId with
  | none => exact iff_of_true rfl fun _ held => by cases held
  | some expected =>
      rw [ensure_eq_ok, decide_eq_true_iff]
      constructor
      · intro same other held
        cases held
        exact same
      · exact fun every => every expected rfl

/-- **The first frame of a stream** is its start. -/
theorem accept_start_iff {body : HelperResponseBody} :
    (initial progressive expectedVoiceId).accept body = (next, .ok none) ↔
      ∃ stream : HelperStream, LawfulOpening progressive expectedVoiceId stream ∧
        stream.items = [] ∧
        body = .synthesisStarted stream.sampleRate stream.channels stream.voiceId ∧
        next = held progressive expectedVoiceId stream := by
  have fresh : ∀ {sampleRate channels : Nat} {voiceId : String},
      ({ initial progressive expectedVoiceId with
          format := some ⟨sampleRate, channels⟩
          actualVoiceId := some voiceId
          phase := .streamingAudio } : HelperSynthesisCollector) =
        held progressive expectedVoiceId ⟨sampleRate, channels, voiceId, []⟩ := by
    intro sampleRate channels voiceId
    cases progressive <;> rfl
  constructor
  · intro taken
    have valid := valid_of_accept taken
    rw [accept_of_valid valid] at taken
    cases body with
    | synthesisStarted sampleRate channels actualVoiceId =>
        replace taken : (initial progressive expectedVoiceId).acceptStarted sampleRate channels
          actualVoiceId = (next, .ok none) := taken
        unfold acceptStarted at taken
        split at taken
        · cases taken
        · rename_i voiced
          cases taken
          exact ⟨⟨sampleRate, channels, actualVoiceId, []⟩,
            ⟨valid, checkActualVoice_eq_ok.mp voiced, allBehind_nil _⟩, rfl, rfl, fresh⟩
    | audioChunk sequence samples => cases taken
    | markers batch => cases taken
    | synthesisCompleted frameCount => cases taken
    | synthesisCancelled => cases taken
    | error code message retryable => cases taken
    | other fault => cases taken
  · rintro ⟨⟨sampleRate, channels, voiceId, items⟩, lawful, rfl, rfl, rfl⟩
    rw [accept_of_valid lawful.start]
    change (initial progressive expectedVoiceId).acceptStarted sampleRate channels voiceId = _
    unfold acceptStarted
    have voiced : checkActualVoice (initial progressive expectedVoiceId).expectedVoiceId voiceId =
        .ok () := checkActualVoice_eq_ok.mpr lawful.voice
    rw [voiced]
    exact Prod.ext fresh rfl

/-- **What is passed over** is a lawful start of a stream. -/
theorem passes_iff {frames : List HelperResponseBody} {state : HelperSynthesisCollector} :
    Passes accept (initial progressive expectedVoiceId) frames state ↔
      frames = [] ∧ state = initial progressive expectedVoiceId ∨
        ∃ stream : HelperStream, LawfulOpening progressive expectedVoiceId stream ∧
          frames = stream.opening ∧ state = held progressive expectedVoiceId stream := by
  constructor
  · intro passes
    induction passes with
    | nil => exact .inl ⟨rfl, rfl⟩
    | concat before taken ih =>
        right
        rcases ih with ⟨rfl, rfl⟩ | ⟨stream, lawful, rfl, rfl⟩
        · obtain ⟨stream, lawful, empty, rfl, rfl⟩ := accept_start_iff.mp taken
          refine ⟨stream, lawful, ?_, rfl⟩
          rw [HelperStream.opening, empty]
          rfl
        · obtain ⟨item, rfl, follows, rfl⟩ := (accept_item_iff lawful.items).mp taken
          refine ⟨carrying stream item, ⟨lawful.start, lawful.voice,
            allBehind_concat.mpr ⟨lawful.items, follows⟩⟩, ?_, rfl⟩
          rw [HelperStream.opening, HelperStream.opening, carrying, bodies_concat, Nat.zero_add,
            List.cons_append]
  · rintro (⟨rfl, rfl⟩ | ⟨stream, lawful, rfl, rfl⟩)
    · exact .nil
    · obtain ⟨sampleRate, channels, voiceId, items⟩ := stream
      induction items using List.reverseRecOn with
      | nil =>
          have taken : (initial progressive expectedVoiceId).accept
              (.synthesisStarted sampleRate channels voiceId) = (_, .ok none) :=
            accept_start_iff.mpr ⟨⟨sampleRate, channels, voiceId, []⟩, lawful, rfl, rfl, rfl⟩
          exact Passes.nil.concat taken
      | append_singleton items item ih =>
          obtain ⟨before, follows⟩ := allBehind_concat.mp lawful.items
          have passes := ih ⟨lawful.start, lawful.voice, before⟩
          have taken : (held progressive expectedVoiceId
              ⟨sampleRate, channels, voiceId, items⟩).accept (item.body (chunkCount items)) =
                (_, .ok none) := (accept_item_iff before).mpr ⟨item, rfl, follows, rfl⟩
          have longer : (HelperStream.mk sampleRate channels voiceId (items ++ [item])).opening =
              (HelperStream.mk sampleRate channels voiceId items).opening ++
                [item.body (chunkCount items)] := by
            rw [HelperStream.opening, HelperStream.opening, bodies_concat, Nat.zero_add,
              List.cons_append]
          rw [longer]
          exact passes.concat taken

/-! ## Results -/

theorem acceptStarted_silent (collector : HelperSynthesisCollector) (sampleRate channels : Nat)
    (voiceId : String) (result : HelperSynthesisResult) :
    (collector.acceptStarted sampleRate channels voiceId).2 ≠ .ok (some result) := by
  intro answered
  unfold acceptStarted at answered
  split at answered
  · cases answered
  · cases answered

theorem acceptAudio_silent (collector : HelperSynthesisCollector) (sequence : Nat)
    (samples : List Int16) (result : HelperSynthesisResult) :
    (collector.acceptAudio sequence samples).2 ≠ .ok (some result) := by
  intro answered
  unfold acceptAudio at answered
  split at answered
  · cases answered
  · split at answered
    · cases answered
    · split at answered
      · cases answered
      · split at answered
        · cases answered
        · cases answered

theorem acceptMarkers_silent (collector : HelperSynthesisCollector) (batch : List HelperMarker)
    (result : HelperSynthesisResult) :
    (collector.acceptMarkers batch).2 ≠ .ok (some result) := by
  intro answered
  unfold acceptMarkers at answered
  split at answered
  · cases answered
  · split at answered
    · split at answered
      · cases answered
      · rename_i format _
        unfold andThen at answered
        rcases checked : collector.checkBatch format batch with ⟨next, e | _⟩
        · rw [checked] at answered
          cases answered
        · rw [checked] at answered
          cases answered
    · cases answered

/-- A completion is checked against what was received. -/
theorem acceptCompleted_eq_ok {collector : HelperSynthesisCollector} {frameCount : Nat}
    {result : HelperSynthesisResult}
    (answered : collector.acceptCompleted frameCount = (next, .ok (some result))) :
    next.phase = .terminal ∧ ∃ format voiceId, collector.format = some format ∧
      collector.actualVoiceId = some voiceId ∧
      frameCount = collector.samples.length / format.channels ∧
      (∀ marker ∈ collector.markers, marker.frameOffset ≤ frameCount) ∧
      result = .completed ⟨collector.samples, format.sampleRate, format.channels, voiceId,
        collector.markers⟩ := by
  unfold acceptCompleted at answered
  split at answered
  · cases answered
  · rename_i format started
    dsimp only at answered
    by_cases counted : frameCount = collector.samples.length / format.channels
    · rw [if_neg (not_not.mpr counted)] at answered
      cases beyond : collector.markers.find? fun marker => marker.frameOffset > frameCount with
      | some marker =>
          rw [beyond] at answered
          cases answered
      | none =>
          rw [beyond] at answered
          cases voice : collector.actualVoiceId with
          | none =>
              rw [voice] at answered
              cases answered
          | some voiceId =>
              rw [voice] at answered
              cases answered
              refine ⟨rfl, format, voiceId, started, rfl, counted, ?_, rfl⟩
              intro marker member
              simpa using List.find?_eq_none.mp beyond marker member
    · rw [if_pos counted] at answered
      cases answered

/-- **What gives a result** is a cancellation or a completion. -/
theorem accept_result {collector : HelperSynthesisCollector} {body : HelperResponseBody}
    {result : HelperSynthesisResult}
    (answered : collector.accept body = (next, .ok (some result))) :
    (body = .synthesisCancelled ∧ result = .cancelled ∧ next.phase = .terminal) ∨
      ∃ frameCount, body = .synthesisCompleted frameCount ∧ collector.streaming = true ∧
        collector.acceptCompleted frameCount = (next, .ok (some result)) := by
  rw [accept_of_valid (valid_of_accept answered)] at answered
  have answer := congrArg Prod.snd answered
  split at answered
  · cases answered
  · rename_i unfinished
    rw [if_neg unfinished] at answer
    cases body with
    | synthesisCancelled =>
        cases answered
        exact .inl ⟨rfl, rfl, rfl⟩
    | synthesisCompleted frameCount =>
        dsimp only at answered
        split at answered
        · rename_i open'
          exact .inr ⟨frameCount, rfl, open', answered⟩
        · cases answered
    | synthesisStarted sampleRate channels actualVoiceId =>
        dsimp only at answer
        split at answer
        · exact absurd answer (acceptStarted_silent _ _ _ _ _)
        · cases answer
    | audioChunk sequence samples =>
        dsimp only at answer
        split at answer
        · exact absurd answer (acceptAudio_silent _ _ _ _)
        · split at answer
          · cases answer
          · cases answer
    | markers batch =>
        dsimp only at answer
        split at answer
        · exact absurd answer (acceptMarkers_silent _ _ _)
        · cases answer
    | error code message retryable => cases answered
    | other fault => cases answered

/-- Behind a result every frame is refused. -/
theorem accept_closed (state : HelperSynthesisCollector) (body : HelperResponseBody)
    (next : HelperSynthesisCollector) (result : HelperSynthesisResult)
    (answered : state.accept body = (next, .ok (some result))) (later : HelperResponseBody) :
    ∃ e, (next.accept later).2 = .error e := by
  have ended : next.phase = .terminal := by
    rcases accept_result answered with ⟨_, _, ended⟩ | ⟨frameCount, _, _, completed⟩
    · exact ended
    · exact (acceptCompleted_eq_ok completed).1
  unfold accept
  split
  · exact ⟨_, rfl⟩
  · rw [if_pos ended]
    exact ⟨_, rfl⟩

/-- **The completion** has the frame count, which no marker exceeds. -/
theorem accept_completed_iff {synthesis : HelperCompletedSynthesis} {body : HelperResponseBody} :
    (∃ final, (held progressive expectedVoiceId stream).accept body =
        (final, .ok (some (.completed synthesis)))) ↔
      body = .synthesisCompleted stream.frameCount ∧
        (∀ marker ∈ markersOf stream.items, marker.frameOffset ≤ stream.frameCount) ∧
        synthesis = stream.synthesis := by
  constructor
  · rintro ⟨final, answered⟩
    rcases accept_result answered with ⟨_, same, _⟩ | ⟨frameCount, rfl, _, completed⟩
    · cases same
    · obtain ⟨_, format, voiceId, started, voiced, counted, inside, same⟩ :=
        acceptCompleted_eq_ok completed
      cases started
      cases voiced
      have reported : frameCount = stream.frameCount := counted
      rw [reported] at inside ⊢
      cases same
      exact ⟨rfl, inside, rfl⟩
  · rintro ⟨rfl, inside, rfl⟩
    have covered : (markersOf stream.items).find?
        (fun marker => marker.frameOffset > stream.frameCount) = none := by
      refine List.find?_eq_none.mpr fun marker member => ?_
      simpa using inside marker member
    have completes : ∃ final, (held progressive expectedVoiceId stream).acceptCompleted
        stream.frameCount = (final, .ok (some (.completed stream.synthesis))) := by
      unfold acceptCompleted held
      dsimp only
      rw [if_neg (fun other => other rfl), covered]
      exact ⟨_, rfl⟩
    obtain ⟨final, completed⟩ := completes
    have valid : (HelperResponseBody.synthesisCompleted stream.frameCount).validate = .ok () := rfl
    rw [accept_of_valid valid, if_neg held_not_terminal]
    exact ⟨final, (if_pos held_streaming).trans completed⟩

/-- A cancellation is taken at any time before the end. -/
theorem accept_cancelled_iff {collector : HelperSynthesisCollector} {body : HelperResponseBody}
    (unfinished : collector.phase ≠ .terminal) :
    (∃ final, collector.accept body = (final, .ok (some .cancelled))) ↔
      body = .synthesisCancelled := by
  constructor
  · rintro ⟨final, answered⟩
    rcases accept_result answered with ⟨same, _, _⟩ | ⟨frameCount, rfl, _, completed⟩
    · exact same
    · obtain ⟨_, _, _, _, _, _, _, same⟩ := acceptCompleted_eq_ok completed
      cases same
  · rintro rfl
    have valid : HelperResponseBody.synthesisCancelled.validate = .ok () := rfl
    rw [accept_of_valid valid, if_neg unfinished]
    exact ⟨_, rfl⟩

/-- The answer to every sequence of frames, up to the first failure. -/
def collect (progressive : Bool) (expectedVoiceId : Option String)
    (frames : List HelperResponseBody) : Except HelperEngineError (Option HelperSynthesisResult) :=
  (feed accept none (initial progressive expectedVoiceId) frames).2

theorem collect_eq_ok {frames : List HelperResponseBody}
    {answer : Option HelperSynthesisResult} :
    collect progressive expectedVoiceId frames = .ok answer ↔
      ∃ final, feed accept none (initial progressive expectedVoiceId) frames =
        (final, .ok answer) :=
  ⟨fun answered => ⟨_, Prod.ext rfl answered⟩, fun ⟨_, run⟩ => congrArg Prod.snd run⟩

/-- A start was never over. -/
theorem initial_not_terminal : (initial progressive expectedVoiceId).phase ≠ .terminal :=
  SynthesisPhase.noConfusion

end HelperSynthesisCollector

end Omnivox.Helpers
