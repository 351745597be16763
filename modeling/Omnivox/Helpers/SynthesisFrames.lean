import Mathlib
import Omnivox.Foundations.Fallible
import Omnivox.Foundations.Keyed
import Omnivox.Synthesis.Contracts

/-!
# Frames of a helper synthesis

A helper process answers a synthesis request with frames: the start with the
format and the voice, chunks of signed 16-bit PCM, batches of markers, and one
terminal frame. Every frame is validated on both sides, and has a bounded
encoding.

Requested anchors travel among the markers. An omitted anchor has no frame; it
is sent with frame 0.
-/

set_option autoImplicit false

namespace Omnivox.Helpers

open Foundations Synthesis

def MAX_HELPER_FRAME_BYTES : Nat := 1024 * 1024
def MAX_HELPER_AUDIO_CHUNK_BYTES : Nat := 256 * 1024
def MAX_HELPER_SYNTHESIS_BYTES : Nat := 128 * 1024 * 1024
def MAX_HELPER_MARKERS : Nat := 4096
def MAX_HELPER_STRING_BYTES : Nat := 16 * 1024
def MAX_HELPER_MESSAGE_BYTES : Nat := 16 * 1024
def MAX_SAMPLE_RATE : Nat := 384000
def MAX_CHANNELS : Nat := 8

/-- `size_of::<i16>()`. -/
def sampleBytes : Nat := 2

inductive HelperMarkerKind where
  | word
  | sentence
  | phoneme
  | nativeIndex
  | requestedAnchor
  deriving Repr, DecidableEq

structure HelperMarker where
  kind : HelperMarkerKind
  frameOffset : Nat
  textStart : Option Nat
  textLength : Option Nat
  value : Option String
  resolution : Option AnchorResolution
  deriving Repr, DecidableEq

inductive HelperErrorCode where
  | invalidRequest
  | unsupportedVersion
  | payloadTooLarge
  | notAvailable
  | voiceNotFound
  | invalidParameter
  | busy
  | synthesisFailed
  | internal
  deriving Repr, DecidableEq

inductive HelperProtocolError where
  | frameTooLarge
  | audioChunkTooLarge
  | invalidAudioLength
  | tooManyMarkers
  | invalidField (field : String)
  deriving Repr, DecidableEq

/-- The frames of a synthesis. PCM is given as its samples. Any other response is
given as the fault that its validation finds, if any. -/
inductive HelperResponseBody where
  | synthesisStarted (sampleRate channels : Nat) (actualVoiceId : String)
  | audioChunk (sequence : Nat) (samples : List Int16)
  | markers (batch : List HelperMarker)
  | synthesisCompleted (frameCount : Nat)
  | synthesisCancelled
  | error (code : HelperErrorCode) (message : String) (retryable : Bool)
  | other (fault : Option HelperProtocolError)
  deriving Repr, DecidableEq

/-- The text of an error. -/
def HelperProtocolError.toText : HelperProtocolError → String
  | .frameTooLarge => s!"helper frame exceeds the {MAX_HELPER_FRAME_BYTES}-byte limit"
  | .audioChunkTooLarge =>
      s!"helper PCM chunk exceeds the {MAX_HELPER_AUDIO_CHUNK_BYTES}-byte limit"
  | .invalidAudioLength =>
      "helper PCM chunk must contain one or more complete signed 16-bit samples"
  | .tooManyMarkers => s!"helper marker batch exceeds the {MAX_HELPER_MARKERS}-marker limit"
  | .invalidField field => s!"invalid helper protocol field: {field}"

/-! ## Validation -/

/-- Whole samples are an even number of bytes. -/
def validatePcm (samples : List Int16) : Except HelperProtocolError Unit := do
  ensure (samples.length * sampleBytes ≤ MAX_HELPER_AUDIO_CHUNK_BYTES) .audioChunkTooLarge
  ensure (!samples.isEmpty) .invalidAudioLength

def validateNonemptyString (value field : String) : Except HelperProtocolError Unit :=
  ensure (!value.isEmpty && value.utf8ByteSize ≤ MAX_HELPER_STRING_BYTES) (.invalidField field)

def HelperMarker.validate (marker : HelperMarker) : Except HelperProtocolError Unit := do
  ensure (marker.value.all fun value => value.utf8ByteSize ≤ MAX_HELPER_STRING_BYTES)
    (.invalidField "marker.value")
  ensure (marker.kind ≠ .requestedAnchor || marker.value.any fun value =>
      !value.isEmpty && value.utf8ByteSize ≤ MAX_SYNTHESIS_ANCHOR_ID_BYTES)
    (.invalidField "marker.value")
  ensure (marker.kind = .requestedAnchor || marker.resolution.isNone)
    (.invalidField "marker.resolution")

/-- Validation of a response of protocol version 5 with a request ID. -/
def HelperResponseBody.validate : HelperResponseBody → Except HelperProtocolError Unit
  | .synthesisStarted sampleRate channels actualVoiceId => do
      ensure (sampleRate ≠ 0 && sampleRate ≤ MAX_SAMPLE_RATE) (.invalidField "sample_rate")
      ensure (channels ≠ 0 && channels ≤ MAX_CHANNELS) (.invalidField "channels")
      validateNonemptyString actualVoiceId "actual_voice_id"
  | .audioChunk _ samples => validatePcm samples
  | .markers batch => do
      ensure (!batch.isEmpty) (.invalidField "markers")
      ensure (batch.length ≤ MAX_HELPER_MARKERS) .tooManyMarkers
      batch.forM HelperMarker.validate
  | .error _ message _ => validateNonemptyString message "error.message"
  | .synthesisCompleted _ => .ok ()
  | .synthesisCancelled => .ok ()
  | .other none => .ok ()
  | .other (some fault) => .error fault

/-! ## Markers and anchors -/

def HelperMarkerKind.ofSynthesis : SynthesisMarkerKind → HelperMarkerKind
  | .word => .word
  | .sentence => .sentence
  | .phoneme => .phoneme
  | .nativeIndex => .nativeIndex

def HelperMarkerKind.toSynthesis : HelperMarkerKind → Option SynthesisMarkerKind
  | .word => some .word
  | .sentence => some .sentence
  | .phoneme => some .phoneme
  | .nativeIndex => some .nativeIndex
  | .requestedAnchor => none

namespace HelperMarker

def ofMarker (marker : SynthesisMarker) : HelperMarker where
  kind := .ofSynthesis marker.kind
  frameOffset := marker.frameOffset
  textStart := marker.textStart
  textLength := marker.textLength
  value := marker.value
  resolution := none

def ofAnchor (includeResolution : Bool) (anchor : ResolvedAnchor) : HelperMarker where
  kind := .requestedAnchor
  frameOffset := anchor.frameOffset.getD 0
  textStart := none
  textLength := none
  value := some anchor.id
  resolution := if includeResolution then some anchor.resolution else none

/-- The synthesis marker, unless it stands for an anchor. -/
def toMarker (marker : HelperMarker) : Option SynthesisMarker :=
  marker.kind.toSynthesis.map fun kind =>
    { kind := kind
      frameOffset := marker.frameOffset
      textStart := marker.textStart
      textLength := marker.textLength
      value := marker.value }

/-- The anchor that a marker stands for. A validated one has an ID. -/
def toAnchor (marker : HelperMarker) : Option ResolvedAnchor :=
  if marker.kind = .requestedAnchor then
    let resolution := marker.resolution.getD .exact
    some {
      id := marker.value.getD ""
      frameOffset := if resolution = .omitted then none else some marker.frameOffset
      resolution := resolution }
  else none

end HelperMarker

def helperMarkersFromParts (synthesisMarkers : List SynthesisMarker)
    (anchors : List ResolvedAnchor) (includeAnchorResolutions : Bool) :
    Except TtsError (List HelperMarker) := do
  let markers := synthesisMarkers.map HelperMarker.ofMarker ++
    (anchors.filter fun anchor => includeAnchorResolutions || anchor.resolution = .exact).map
      (HelperMarker.ofAnchor includeAnchorResolutions)
  ensure (markers.length ≤ MAX_HELPER_MARKERS) (.synthesisFailed
    s!"the engine returned more than {MAX_HELPER_MARKERS} helper markers")
  return sortBy HelperMarker.frameOffset markers

def splitHelperMarkers (markers : List HelperMarker) :
    List SynthesisMarker × List ResolvedAnchor :=
  (markers.filterMap HelperMarker.toMarker, markers.filterMap HelperMarker.toAnchor)

/-- Both sides check a batch marker by marker: none lies behind the audio or before the
marker ahead of it. The frame of the last marker is kept, also on failure. -/
def admitMarkers {ε : Type} (behind : Nat → ε) (disordered : Nat → Nat → ε) (received : Nat) :
    Option Nat → List HelperMarker → Outcome (Option Nat) ε Unit
  | last, [] => (last, .ok ())
  | last, marker :: rest =>
      if marker.frameOffset < received then (last, .error (behind marker.frameOffset))
      else if last.any fun previous => marker.frameOffset < previous then
        (last, .error (disordered (last.getD 0) marker.frameOffset))
      else admitMarkers behind disordered received (some marker.frameOffset) rest

/-! ### Merging and splitting -/

@[simp] theorem toMarker_ofMarker (marker : SynthesisMarker) :
    (HelperMarker.ofMarker marker).toMarker = some marker := by
  obtain ⟨kind, frameOffset, textStart, textLength, value⟩ := marker
  cases kind <;> rfl

@[simp] theorem toAnchor_ofMarker (marker : SynthesisMarker) :
    (HelperMarker.ofMarker marker).toAnchor = none := by
  obtain ⟨kind, frameOffset, textStart, textLength, value⟩ := marker
  cases kind <;> rfl

@[simp] theorem toMarker_ofAnchor (includeResolution : Bool) (anchor : ResolvedAnchor) :
    (HelperMarker.ofAnchor includeResolution anchor).toMarker = none := rfl

/-- An anchor has a frame unless it was omitted. -/
def OmissionConsistent (anchor : ResolvedAnchor) : Prop :=
  anchor.frameOffset = none ↔ anchor.resolution = .omitted

/-- A consistent anchor survives the placeholder frame. -/
theorem toAnchor_ofAnchor {anchor : ResolvedAnchor} (consistent : OmissionConsistent anchor) :
    (HelperMarker.ofAnchor true anchor).toAnchor = some anchor := by
  obtain ⟨id, frameOffset, resolution⟩ := anchor
  unfold OmissionConsistent at consistent
  cases frameOffset with
  | none =>
      have omitted := consistent.mp rfl
      dsimp only at omitted
      subst omitted
      rfl
  | some frame =>
      have kept : resolution ≠ .omitted := fun omitted => by
        have none := consistent.mpr omitted
        cases none
      simp [HelperMarker.ofAnchor, HelperMarker.toAnchor, kept]

/-- The markers of a batch with their frames in order. -/
def wireMarkers (markers : List SynthesisMarker) (anchors : List ResolvedAnchor) :
    List HelperMarker :=
  sortBy HelperMarker.frameOffset
    (markers.map HelperMarker.ofMarker ++ anchors.map (HelperMarker.ofAnchor true))

theorem helperMarkersFromParts_eq (markers : List SynthesisMarker)
    (anchors : List ResolvedAnchor) :
    helperMarkersFromParts markers anchors true =
      if markers.length + anchors.length ≤ MAX_HELPER_MARKERS then
        .ok (wireMarkers markers anchors)
      else .error (.synthesisFailed
        s!"the engine returned more than {MAX_HELPER_MARKERS} helper markers") := by
  unfold helperMarkersFromParts wireMarkers
  by_cases few : markers.length + anchors.length ≤ MAX_HELPER_MARKERS
  · simp [few, ensure]
  · simp [few, ensure]

theorem wireMarkers_perm (markers : List SynthesisMarker) (anchors : List ResolvedAnchor) :
    (wireMarkers markers anchors).Perm
      (markers.map HelperMarker.ofMarker ++ anchors.map (HelperMarker.ofAnchor true)) :=
  List.perm_insertionSort _ _

theorem wireMarkers_length (markers : List SynthesisMarker) (anchors : List ResolvedAnchor) :
    (wireMarkers markers anchors).length = markers.length + anchors.length := by
  rw [(wireMarkers_perm markers anchors).length_eq, List.length_append, List.length_map,
    List.length_map]

/-- Every marker of a batch stands for a marker or for an anchor. -/
theorem mem_wireMarkers {markers : List SynthesisMarker} {anchors : List ResolvedAnchor}
    {marker : HelperMarker} :
    marker ∈ wireMarkers markers anchors ↔
      (∃ source ∈ markers, HelperMarker.ofMarker source = marker) ∨
        ∃ anchor ∈ anchors, HelperMarker.ofAnchor true anchor = marker := by
  rw [(wireMarkers_perm markers anchors).mem_iff, List.mem_append, List.mem_map, List.mem_map]

theorem wireMarkers_sorted (markers : List SynthesisMarker) (anchors : List ResolvedAnchor) :
    (wireMarkers markers anchors).Pairwise (keyLE HelperMarker.frameOffset) :=
  sortBy_pairwise

theorem filterMap_toMarker (markers : List SynthesisMarker) (anchors : List ResolvedAnchor) :
    (markers.map HelperMarker.ofMarker ++
      anchors.map (HelperMarker.ofAnchor true)).filterMap HelperMarker.toMarker = markers := by
  rw [List.filterMap_append, List.filterMap_map, List.filterMap_map]
  have own : HelperMarker.toMarker ∘ HelperMarker.ofMarker = some :=
    funext fun marker => toMarker_ofMarker marker
  have other : HelperMarker.toMarker ∘ HelperMarker.ofAnchor true = fun _ => none :=
    funext fun anchor => toMarker_ofAnchor true anchor
  rw [own, other, List.filterMap_some, List.filterMap_none, List.append_nil]

theorem filterMap_toAnchor {markers : List SynthesisMarker} {anchors : List ResolvedAnchor}
    (consistent : ∀ anchor ∈ anchors, OmissionConsistent anchor) :
    (markers.map HelperMarker.ofMarker ++
      anchors.map (HelperMarker.ofAnchor true)).filterMap HelperMarker.toAnchor = anchors := by
  rw [List.filterMap_append, List.filterMap_map, List.filterMap_map]
  have other : HelperMarker.toAnchor ∘ HelperMarker.ofMarker = fun _ => none :=
    funext fun marker => toAnchor_ofMarker marker
  rw [other, List.filterMap_none, List.nil_append]
  induction anchors with
  | nil => rfl
  | cons anchor anchors ih =>
      have here : (HelperMarker.toAnchor ∘ HelperMarker.ofAnchor true) anchor = some anchor :=
        toAnchor_ofAnchor (consistent anchor List.mem_cons_self)
      rw [List.filterMap_cons_some here,
        ih fun later member => consistent later (List.mem_cons_of_mem _ member)]

/-- **A batch survives the wire**: the same markers in order, and the same anchors. -/
theorem split_wireMarkers {markers : List SynthesisMarker} {anchors : List ResolvedAnchor}
    (ordered : markers.Pairwise (keyLE SynthesisMarker.frameOffset))
    (consistent : ∀ anchor ∈ anchors, OmissionConsistent anchor) :
    (splitHelperMarkers (wireMarkers markers anchors)).1 = markers ∧
      (splitHelperMarkers (wireMarkers markers anchors)).2.Perm anchors := by
  have perm := wireMarkers_perm markers anchors
  constructor
  · -- the markers are a sorted part, and nothing else becomes a marker
    have sorted : (markers.map HelperMarker.ofMarker).Pairwise
        (keyLE HelperMarker.frameOffset) := List.pairwise_map.mpr ordered
    have part := sublist_sortBy sorted
      (List.sublist_append_left _ (anchors.map (HelperMarker.ofAnchor true)))
    have kept := part.filterMap HelperMarker.toMarker
    have whole := filterMap_toMarker markers []
    rw [List.map_nil, List.append_nil] at whole
    rw [whole] at kept
    have count := (perm.filterMap HelperMarker.toMarker).length_eq
    rw [filterMap_toMarker] at count
    exact (kept.eq_of_length count.symm).symm
  · have same := perm.filterMap HelperMarker.toAnchor
    rwa [filterMap_toAnchor consistent] at same

/-- The anchors with a frame keep their order. -/
theorem split_wireMarkers_resolved {markers : List SynthesisMarker}
    {anchors : List ResolvedAnchor}
    (ordered : (anchors.filterMap ResolvedAnchor.frameOffset).Pairwise (· ≤ ·))
    (consistent : ∀ anchor ∈ anchors, OmissionConsistent anchor) :
    (splitHelperMarkers (wireMarkers markers anchors)).2.filter
        (fun anchor => anchor.frameOffset.isSome) =
      anchors.filter fun anchor => anchor.frameOffset.isSome := by
  have keeps : ∀ anchor ∈ anchors.filter fun anchor => anchor.frameOffset.isSome,
      OmissionConsistent anchor :=
    fun anchor member => consistent anchor (List.mem_of_mem_filter member)
  have sorted : ((anchors.filter fun anchor => anchor.frameOffset.isSome).map
      (HelperMarker.ofAnchor true)).Pairwise (keyLE HelperMarker.frameOffset) := by
    rw [List.pairwise_map]
    rw [List.pairwise_filterMap] at ordered
    refine (ordered.filter _).imp_of_mem ?_
    intro first second memberFirst memberSecond inOrder
    obtain ⟨low, lowHeld⟩ := Option.isSome_iff_exists.mp (List.mem_filter.mp memberFirst).2
    obtain ⟨high, highHeld⟩ := Option.isSome_iff_exists.mp (List.mem_filter.mp memberSecond).2
    have below : low ≤ high := inOrder low lowHeld high highHeld
    simpa [keyLE, HelperMarker.ofAnchor, lowHeld, highHeld] using below
  have part := sublist_sortBy sorted
    (((List.filter_sublist (l := anchors)).map (HelperMarker.ofAnchor true)).trans
      (List.sublist_append_right (markers.map HelperMarker.ofMarker) _))
  have kept := (part.filterMap HelperMarker.toAnchor).filter
    fun anchor => anchor.frameOffset.isSome
  have whole := @filterMap_toAnchor [] _ keeps
  rw [List.map_nil, List.nil_append] at whole
  rw [whole] at kept
  simp only [List.filter_filter, Bool.and_self] at kept
  have same := ((wireMarkers_perm markers anchors).filterMap HelperMarker.toAnchor).filter
    fun anchor => anchor.frameOffset.isSome
  rw [filterMap_toAnchor consistent] at same
  exact (kept.eq_of_length same.length_eq.symm).symm

/-! ### Admitting a batch -/

/-- The frame of the last marker after a batch. -/
def lastOffset (last : Option Nat) (batch : List HelperMarker) : Option Nat :=
  batch.foldl (fun _ marker => some marker.frameOffset) last

/-- No marker of a batch lies behind the audio or before the last marker. -/
def BatchAdmitted (received : Nat) (last : Option Nat) (batch : List HelperMarker) : Prop :=
  ∀ marker ∈ batch, received ≤ marker.frameOffset ∧
    ∀ previous ∈ last, previous ≤ marker.frameOffset

section Admitting

variable {ε : Type} {behind : Nat → ε} {disordered : Nat → Nat → ε} {received : Nat}
  {last : Option Nat} {batch : List HelperMarker}

/-- A marker that follows the audio and the last marker is admitted. -/
theorem admitMarkers_cons {marker : HelperMarker} {rest : List HelperMarker}
    (reached : received ≤ marker.frameOffset)
    (follows : ∀ previous ∈ last, previous ≤ marker.frameOffset) :
    admitMarkers behind disordered received last (marker :: rest) =
      admitMarkers behind disordered received (some marker.frameOffset) rest := by
  have ordered : ¬ (last.any fun previous => marker.frameOffset < previous) = true := by
    intro disordered
    obtain ⟨previous, held, before⟩ := (Option.any_eq_true _ _).mp disordered
    exact absurd (follows previous held) (Nat.not_le.mpr (of_decide_eq_true before))
  rw [admitMarkers, if_neg (Nat.not_lt.mpr reached), if_neg ordered]

/-- **A batch in order is admitted as a whole or not at all.** -/
theorem admitMarkers_of_admitted (sorted : batch.Pairwise (keyLE HelperMarker.frameOffset))
    (admitted : BatchAdmitted received last batch) :
    admitMarkers behind disordered received last batch = (lastOffset last batch, .ok ()) := by
  induction batch generalizing last with
  | nil => rfl
  | cons marker rest ih =>
      obtain ⟨ahead, sorted⟩ := List.pairwise_cons.mp sorted
      obtain ⟨reached, follows⟩ := admitted marker List.mem_cons_self
      rw [admitMarkers_cons reached follows]
      refine ih sorted fun later member => ⟨?_, ?_⟩
      · exact (admitted later (List.mem_cons_of_mem _ member)).1
      · intro previous same
        cases same
        exact ahead later member

/-- The frames of an admitted batch were checked one by one. -/
theorem admitted_of_admitMarkers {next : Option Nat}
    (result : admitMarkers behind disordered received last batch = (next, .ok ())) :
    BatchAdmitted received last batch ∧
      batch.Pairwise (keyLE HelperMarker.frameOffset) ∧ next = lastOffset last batch := by
  induction batch generalizing last with
  | nil =>
      cases result
      exact ⟨fun _ member => (List.not_mem_nil member).elim, .nil, rfl⟩
  | cons marker rest ih =>
      by_cases reached : received ≤ marker.frameOffset
      · by_cases follows : ∀ previous ∈ last, previous ≤ marker.frameOffset
        · rw [admitMarkers_cons reached follows] at result
          obtain ⟨admitted, sorted, same⟩ := ih result
          have ahead : ∀ later ∈ rest, marker.frameOffset ≤ later.frameOffset :=
            fun later member => (admitted later member).2 _ rfl
          refine ⟨fun later member => ?_, List.pairwise_cons.mpr ⟨ahead, sorted⟩, same⟩
          rcases List.mem_cons.mp member with rfl | member
          · exact ⟨reached, follows⟩
          · exact ⟨(admitted later member).1, fun previous held =>
              Nat.le_trans (follows previous held) (ahead later member)⟩
        · simp only [not_forall, Nat.not_le] at follows
          obtain ⟨previous, held, before⟩ := follows
          have disordered : (last.any fun previous => marker.frameOffset < previous) = true :=
            (Option.any_eq_true _ _).mpr ⟨previous, held, decide_eq_true before⟩
          rw [admitMarkers, if_neg (Nat.not_lt.mpr reached), if_pos disordered] at result
          cases result
      · rw [admitMarkers, if_pos (Nat.lt_of_not_le reached)] at result
        cases result

/-- Behind a batch in order, the last frame is the greatest. -/
theorem lastOffset_getD (sorted : batch.Pairwise (keyLE HelperMarker.frameOffset))
    (follows : ∀ marker ∈ batch, last.getD 0 ≤ marker.frameOffset) :
    (lastOffset last batch).getD 0 =
      (batch.map HelperMarker.frameOffset).foldl max (last.getD 0) := by
  induction batch generalizing last with
  | nil => rfl
  | cons marker rest ih =>
      obtain ⟨ahead, sorted⟩ := List.pairwise_cons.mp sorted
      have here := follows marker List.mem_cons_self
      have tail : (lastOffset (some marker.frameOffset) rest).getD 0 = _ := ih sorted ahead
      rw [List.map_cons, List.foldl_cons, Nat.max_eq_right here]
      exact tail

end Admitting

/-! ## Calls on a sink -/

/-- A call on a synthesis stream sink. -/
inductive SinkCall (F : Type) where
  | start (start : SynthesisStreamStart)
  | audio (window : Audio.AudioBuffer F)
  | markers (batch : List SynthesisMarker) (anchors : List ResolvedAnchor)
  deriving Repr, DecidableEq

/-- What the process boundary asks of a sample. -/
class PcmSample (F : Type) where
  f32ToI16 : F → Int16
  i16ToF32 : Int16 → F

/-- The conversions in exact arithmetic. -/
instance : PcmSample ℚ where
  f32ToI16 sample :=
    let sample := min (max sample (-1)) 1
    if sample ≤ -1 then Int16.minValue
    else Int16.ofInt (round (sample * Int16.maxValue.toInt))
  i16ToF32 sample := sample.toInt / 32768

end Omnivox.Helpers
