import Mathlib
import Omnivox.Audio.CanonicalClock
import Omnivox.Helpers.ProgressiveCollector
import Omnivox.Helpers.ProgressiveWireSink

/-!
# The process boundary of a streaming engine

An engine streams into the sink of its helper process, and the client collects the
frames. For a legal stream the boundary should not show: the sink of the client
gets one start, the audio after rounding to 16 bits, and every batch of markers
and anchors after as many frames of audio as the engine emitted before it.

An omitted anchor has no frame, and the wire gives it frame 0. Both sides then
compare that frame with the audio and the markers before it, so the boundary is
transparent exactly when every omitted anchor comes before the first audio and
before the first marker beyond frame 0 (`process_boundary_transparent_iff`).
-/

set_option autoImplicit false

namespace Omnivox.Helpers

open Foundations Synthesis
open Audio (AudioBuffer Frame Resampler ProgressivePcmCanonicalizer sampleRate channelCount)

/-! ## Legal streams -/

/-- The frames of a batch. An omitted anchor counts as frame 0. -/
def frameOffsets (batch : List SynthesisMarker) (anchors : List ResolvedAnchor) : List Nat :=
  batch.map SynthesisMarker.frameOffset ++ anchors.map fun anchor => anchor.frameOffset.getD 0

/-- How far a stream has come: the audio frames, the greatest frame of a marker or an
anchor, and the number of these. -/
structure StreamProgress where
  frames : Nat
  latest : Nat
  markers : Nat
  deriving Repr, DecidableEq

namespace StreamProgress

def start : StreamProgress := ⟨0, 0, 0⟩

def next {F : Type} (progress : StreamProgress) : SinkCall F → StreamProgress
  | .start _ => progress
  | .audio window => { progress with frames := progress.frames + window.length }
  | .markers batch anchors => { progress with
      latest := (frameOffsets batch anchors).foldl max progress.latest
      markers := progress.markers + (batch.length + anchors.length) }

/-- A frame that may follow: not behind the audio, and not before an earlier frame. -/
structure Reaches (progress : StreamProgress) (frame : Nat) : Prop where
  audio : progress.frames ≤ frame
  order : progress.latest ≤ frame
  word : frame ≤ u64Max

end StreamProgress

/-- The bytes of a stereo frame of PCM. -/
def frameBytes : Nat := channelCount * sampleBytes

section

variable {R F : Type} [PcmSample F]

/-- A window that may follow. -/
structure LegalWindow (runtime : HelperRuntime) (progress : StreamProgress)
    (window : AudioBuffer F) : Prop where
  nonempty : window ≠ []
  fits : (progress.frames + window.length) * frameBytes ≤ MAX_HELPER_SYNTHESIS_BYTES
  encoded : ∀ sequence, ∀ chunk ∈ chunks samplesPerChunk (interleaved window),
    runtime.encodedBytes (.audioChunk sequence (chunk.map PcmSample.f32ToI16)) ≤
      MAX_HELPER_FRAME_BYTES

/-- A batch that may follow. -/
structure LegalBatch (runtime : HelperRuntime) (progress : StreamProgress)
    (batch : List SynthesisMarker) (anchors : List ResolvedAnchor) : Prop where
  nonempty : batch ≠ [] ∨ anchors ≠ []
  few : progress.markers + (batch.length + anchors.length) ≤ MAX_HELPER_MARKERS
  ordered : batch.Pairwise (keyLE SynthesisMarker.frameOffset)
  anchorsOrdered : (anchors.filterMap ResolvedAnchor.frameOffset).Pairwise (· ≤ ·)
  consistent : ∀ anchor ∈ anchors, OmissionConsistent anchor
  markersReach : ∀ marker ∈ batch, progress.Reaches marker.frameOffset
  anchorsReach : ∀ anchor ∈ anchors, ∀ frame ∈ anchor.frameOffset, progress.Reaches frame
  values : ∀ marker ∈ batch, ∀ value ∈ marker.value,
    value.utf8ByteSize ≤ MAX_HELPER_STRING_BYTES
  ids : ∀ anchor ∈ anchors, anchor.id.isEmpty = false ∧
    anchor.id.utf8ByteSize ≤ MAX_SYNTHESIS_ANCHOR_ID_BYTES
  encoded : runtime.encodedBytes (.markers (wireMarkers batch anchors)) ≤ MAX_HELPER_FRAME_BYTES

/-- A call that may follow the start. -/
def LegalCall (runtime : HelperRuntime) (progress : StreamProgress) : SinkCall F → Prop
  | .start _ => False
  | .audio window => LegalWindow runtime progress window
  | .markers batch anchors => LegalBatch runtime progress batch anchors

/-- **A legal stream**: a start with the requested engine and voice, legal calls, and a
completion with the emitted frame count that no marker exceeds. -/
structure LegalStream (runtime : HelperRuntime) (consumer : StreamConsumer R F)
    (voiceId : String) (start : SynthesisStreamStart) (script : List (SinkCall F))
    (frameCount : Nat) : Prop where
  engine : start.engineId = runtime.descriptorId
  consumerEngine : consumer.engineId = runtime.descriptorId
  voice : start.actualVoice = some ⟨runtime.descriptorId, voiceId⟩
  expected : ∀ expected ∈ consumer.expectedVoiceId, expected = voiceId
  voiceBytes : voiceId.isEmpty = false ∧ voiceId.utf8ByteSize ≤ MAX_HELPER_STRING_BYTES
  startEncoded : runtime.encodedBytes (.synthesisStarted sampleRate channelCount voiceId) ≤
    MAX_HELPER_FRAME_BYTES
  calls : AdmittedAlong (LegalCall runtime) StreamProgress.next .start script
  counted : frameCount = (script.foldl StreamProgress.next .start).frames
  covered : (script.foldl StreamProgress.next .start).latest ≤ frameCount
  completionEncoded : runtime.encodedBytes (.synthesisCompleted frameCount) ≤
    MAX_HELPER_FRAME_BYTES

/-- An omitted anchor comes before any audio and before any frame beyond 0. -/
def OmittedAdmitted (progress : StreamProgress) : SinkCall F → Prop
  | .markers _ anchors => (∃ anchor ∈ anchors, anchor.resolution = .omitted) →
      progress.frames = 0 ∧ progress.latest = 0
  | _ => True

/-- Every omitted anchor of a stream comes early. -/
def OmittedEarly (script : List (SinkCall F)) : Prop :=
  AdmittedAlong OmittedAdmitted StreamProgress.next .start script

/-! ## Transparency -/

omit [PcmSample F] in
def startsOf (calls : List (SinkCall F)) : List SynthesisStreamStart :=
  calls.filterMap fun call =>
    match call with
    | .start start => some start
    | _ => none

def audioOf (calls : List (SinkCall F)) : AudioBuffer F :=
  calls.flatMap fun call =>
    match call with
    | .audio window => window
    | _ => []

/-- A batch with the audio frames before it. -/
structure PlacedBatch where
  frames : Nat
  batch : List SynthesisMarker
  anchors : List ResolvedAnchor
  deriving Repr, DecidableEq

/-- The batches of a stream that has so many frames of audio before it. -/
def batchesOf : Nat → List (SinkCall F) → List PlacedBatch
  | _, [] => []
  | frames, .start _ :: rest => batchesOf frames rest
  | frames, .audio window :: rest => batchesOf (frames + window.length) rest
  | frames, .markers batch anchors :: rest => ⟨frames, batch, anchors⟩ :: batchesOf frames rest

/-- Anchors have no order among those of other frames, and those with a frame keep theirs. -/
structure SameBatch (emitted received : PlacedBatch) : Prop where
  frames : received.frames = emitted.frames
  batch : received.batch = emitted.batch
  anchors : received.anchors.Perm emitted.anchors
  order : received.anchors.filter (fun anchor => anchor.frameOffset.isSome) =
    emitted.anchors.filter fun anchor => anchor.frameOffset.isSome

/-- `f32_to_i16` and back. -/
def roundTrip (frame : Frame F) : Frame F :=
  (PcmSample.i16ToF32 (PcmSample.f32ToI16 frame.1), PcmSample.i16ToF32 (PcmSample.f32ToI16 frame.2))

/-- The boundary did not show to the sink of the client. -/
structure Transparent (consumer : StreamConsumer R F) (start : SynthesisStreamStart)
    (script : List (SinkCall F))
    (run : ProgressiveHelperCollector.Collected R F (Option ProgressiveHelperSynthesisResult)) :
    Prop where
  completed : run.2 = .ok (some .completed)
  starts : startsOf run.1.delivered =
    [{ start with degradedAcss := consumer.degradedAcss }]
  audio : audioOf run.1.delivered = (audioOf script).map roundTrip
  batches : List.Forall₂ SameBatch (batchesOf 0 script) (batchesOf 0 run.1.delivered)

/-- The frames that a helper writes for a stream, collected in order. -/
def acrossBoundary [Resampler R F] (runtime : HelperRuntime) (consumer : StreamConsumer R F)
    (voiceId : String) (start : SynthesisStreamStart) (script : List (SinkCall F))
    (frameCount : Nat) :
    ProgressiveHelperCollector.Collected R F (Option ProgressiveHelperSynthesisResult) :=
  ProgressiveHelperCollector.receive consumer .new
    (ProgressiveWireSink.progressiveSynthesisWorker runtime voiceId (.start start :: script)
      frameCount).sent

end

/-! ## Legal batches on the wire -/

section Batches

variable {runtime : HelperRuntime} {progress : StreamProgress} {batch : List SynthesisMarker}
  {anchors : List ResolvedAnchor} {last : Option Nat}

theorem wireMarkers_frames (batch : List SynthesisMarker) (anchors : List ResolvedAnchor) :
    ((wireMarkers batch anchors).map HelperMarker.frameOffset).Perm
      (frameOffsets batch anchors) := by
  have same := (wireMarkers_perm batch anchors).map HelperMarker.frameOffset
  rw [List.map_append, List.map_map, List.map_map] at same
  exact same

/-- An anchor without a frame was omitted. -/
theorem omitted_of_none {anchor : ResolvedAnchor} (consistent : OmissionConsistent anchor)
    (absent : anchor.frameOffset = none) : anchor.resolution = .omitted :=
  consistent.mp absent

/-- A legal batch passes its own validation. -/
theorem LegalBatch.valid (legal : LegalBatch runtime progress batch anchors) :
    (HelperResponseBody.markers (wireMarkers batch anchors)).validate = .ok () := by
  have length := wireMarkers_length batch anchors
  have few := legal.few
  refine bind_eq_ok.mpr ⟨(), ensure_eq_ok.mpr ?_, bind_eq_ok.mpr ⟨(), ensure_eq_ok.mpr ?_,
    forM_eq_ok.mpr fun marker member => ?_⟩⟩
  · cases empty : wireMarkers batch anchors with
    | cons => rfl
    | nil =>
        rw [empty, List.length_nil] at length
        rcases legal.nonempty with some | some
        · exact absurd (List.length_eq_zero_iff.mp (by omega)) some
        · exact absurd (List.length_eq_zero_iff.mp (by omega)) some
  · rw [length]
    exact decide_eq_true (by omega)
  · rcases mem_wireMarkers.mp member with ⟨source, held, rfl⟩ | ⟨anchor, held, rfl⟩
    · have short := legal.values source held
      obtain ⟨kind, frameOffset, textStart, textLength, value⟩ := source
      cases value with
      | none => cases kind <;> rfl
      | some value =>
          have small : value.utf8ByteSize ≤ MAX_HELPER_STRING_BYTES := short value rfl
          cases kind <;> simp [HelperMarker.validate, HelperMarker.ofMarker,
            HelperMarkerKind.ofSynthesis, ensure, small] <;> rfl
    · obtain ⟨named, short⟩ := legal.ids anchor held
      have bounds : MAX_SYNTHESIS_ANCHOR_ID_BYTES ≤ MAX_HELPER_STRING_BYTES := by decide
      have small := Nat.le_trans short bounds
      simp [HelperMarker.validate, HelperMarker.ofAnchor, ensure, small, short, named]
      rfl

/-- **A legal batch is admitted when its omitted anchors are early.** -/
theorem LegalBatch.admitted_iff (legal : LegalBatch runtime progress batch anchors)
    (level : last.getD 0 = progress.latest) :
    BatchAdmitted progress.frames last (wireMarkers batch anchors) ↔
      ((∃ anchor ∈ anchors, anchor.resolution = .omitted) →
        progress.frames = 0 ∧ progress.latest = 0) := by
  have latest : ∀ previous ∈ last, previous = progress.latest := by
    intro previous held
    cases held
    exact level
  constructor
  · rintro admitted ⟨anchor, held, omitted⟩
    have absent := (legal.consistent anchor held).mpr omitted
    obtain ⟨reached, follows⟩ := admitted _ (mem_wireMarkers.mpr (.inr ⟨anchor, held, rfl⟩))
    have placeholder : (HelperMarker.ofAnchor true anchor).frameOffset = 0 := by
      simp [HelperMarker.ofAnchor, absent]
    rw [placeholder] at reached follows
    refine ⟨Nat.le_zero.mp reached, ?_⟩
    rw [← level]
    cases last with
    | none => rfl
    | some previous => exact Nat.le_zero.mp (follows previous rfl)
  · intro early marker member
    rcases mem_wireMarkers.mp member with ⟨source, held, rfl⟩ | ⟨anchor, held, rfl⟩
    · have reaches := legal.markersReach source held
      refine ⟨reaches.audio, fun previous found => ?_⟩
      rw [latest previous found]
      exact reaches.order
    · cases placed : anchor.frameOffset with
      | none =>
          have omitted := omitted_of_none (legal.consistent anchor held) placed
          obtain ⟨silent, first⟩ := early ⟨anchor, held, omitted⟩
          refine ⟨silent ▸ Nat.zero_le _, fun previous found => ?_⟩
          rw [latest previous found, first]
          exact Nat.zero_le _
      | some frame =>
          have reaches := legal.anchorsReach anchor held frame placed
          have there : (HelperMarker.ofAnchor true anchor).frameOffset = frame := by
            simp [HelperMarker.ofAnchor, placed]
          rw [there]
          refine ⟨reaches.audio, fun previous found => ?_⟩
          rw [latest previous found]
          exact reaches.order

/-- The last frame on the wire keeps up with the stream. -/
theorem lastOffset_wireMarkers
    (admitted : BatchAdmitted progress.frames last (wireMarkers batch anchors))
    (level : last.getD 0 = progress.latest) :
    (lastOffset last (wireMarkers batch anchors)).getD 0 =
      (frameOffsets batch anchors).foldl max progress.latest := by
  have follows : ∀ marker ∈ wireMarkers batch anchors, last.getD 0 ≤ marker.frameOffset := by
    intro marker member
    cases last with
    | none => exact Nat.zero_le _
    | some previous => exact (admitted marker member).2 previous rfl
  rw [lastOffset_getD (wireMarkers_sorted batch anchors) follows, level]
  exact (wireMarkers_frames batch anchors).foldl_eq _

end Batches

/-! ## The helper's side -/

namespace ProgressiveWireSink

variable {R F : Type} [PcmSample F] {runtime : HelperRuntime}

/-- The state of a started sink. -/
structure At (progress : StreamProgress) (sequence : Nat) (last : Option Nat)
    (sink : ProgressiveWireSink) : Prop where
  started : sink.started = true
  sequence : sink.nextSequence = sequence
  frames : sink.frameCount = progress.frames
  bytes : sink.pcmBytes = progress.frames * frameBytes
  markers : sink.markerCount = progress.markers
  last : sink.lastMarkerOffset = last

/-- The frames of chunks that start with a sequence number. -/
def chunkFrames : Nat → List (List F) → List HelperResponseBody
  | _, [] => []
  | sequence, samples :: rest =>
      .audioChunk sequence (samples.map PcmSample.f32ToI16) :: chunkFrames (sequence + 1) rest

omit [PcmSample F] in
theorem send_of_valid {sink : ProgressiveWireSink} {body : HelperResponseBody}
    (valid : body.validate = .ok ()) (fits : runtime.encodedBytes body ≤ MAX_HELPER_FRAME_BYTES) :
    sink.send runtime body = ({ sink with sent := sink.sent ++ [body] }, .ok ()) := by
  unfold send
  rw [valid]
  exact if_pos fits

theorem validatePcm_of_fits {samples : List Int16} (nonempty : samples ≠ [])
    (fits : samples.length ≤ samplesPerChunk) : validatePcm samples = .ok () := by
  refine bind_eq_ok.mpr ⟨(), ensure_eq_ok.mpr ?_, ensure_eq_ok.mpr ?_⟩
  · have bytes : samples.length * sampleBytes ≤ samplesPerChunk * sampleBytes :=
      Nat.mul_le_mul_right _ fits
    exact decide_eq_true bytes
  · cases samples with
    | nil => exact absurd rfl nonempty
    | cons => rfl

/-- One chunk is written. -/
theorem sendChunk_sent {sink : ProgressiveWireSink} {samples : List F}
    (nonempty : samples ≠ []) (short : samples.length ≤ samplesPerChunk)
    (numbered : sink.nextSequence + 1 ≤ wordMax 32)
    (fits : runtime.encodedBytes
      (.audioChunk sink.nextSequence (samples.map PcmSample.f32ToI16)) ≤ MAX_HELPER_FRAME_BYTES) :
    sink.sendChunk runtime samples =
      ({ sink with
          nextSequence := sink.nextSequence + 1
          sent := sink.sent ++ chunkFrames sink.nextSequence [samples] }, .ok ()) := by
  have valid : validatePcm (samples.map PcmSample.f32ToI16) = .ok () :=
    validatePcm_of_fits (fun empty => nonempty (List.map_eq_nil_iff.mp empty))
      (by rwa [List.length_map])
  have wired : (HelperResponseBody.audioChunk sink.nextSequence
      (samples.map PcmSample.f32ToI16)).validate = .ok () := valid
  unfold sendChunk
  simp only [valid]
  rw [send_of_valid wired fits, andThen_ok]
  simp only [checkedAdd_of_le numbered]
  rfl

/-- All chunks are written, in order. -/
theorem sendChunks_sent {sink : ProgressiveWireSink} {pieces : List (List F)}
    (pieced : ∀ piece ∈ pieces, piece ≠ [] ∧ piece.length ≤ samplesPerChunk)
    (numbered : sink.nextSequence + pieces.length ≤ wordMax 32)
    (fits : ∀ sequence, ∀ piece ∈ pieces, runtime.encodedBytes
      (.audioChunk sequence (piece.map PcmSample.f32ToI16)) ≤ MAX_HELPER_FRAME_BYTES) :
    sendChunks runtime sink pieces =
      ({ sink with
          nextSequence := sink.nextSequence + pieces.length
          sent := sink.sent ++ chunkFrames sink.nextSequence pieces }, .ok ()) := by
  induction pieces generalizing sink with
  | nil =>
      unfold sendChunks chunkFrames
      rw [List.append_nil]
      rfl
  | cons piece rest ih =>
      rw [List.length_cons] at numbered
      obtain ⟨nonempty, short⟩ := pieced piece List.mem_cons_self
      have first : sink.sendChunk runtime piece = _ :=
        sendChunk_sent nonempty short (by omega) (fits _ piece List.mem_cons_self)
      unfold sendChunks
      rw [first, andThen_ok, ih (fun later member => pieced later (List.mem_cons_of_mem _ member))
        (by dsimp only; omega)
        (fun sequence later member => fits sequence later (List.mem_cons_of_mem _ member))]
      simp only [List.append_assoc, List.length_cons, Nat.add_assoc, Nat.add_comm 1]
      rfl

omit [PcmSample F] in
theorem interleaved_length (window : AudioBuffer F) :
    (interleaved window).length = window.length * channelCount := by
  induction window with
  | nil => rfl
  | cons frame rest ih =>
      have split : interleaved (frame :: rest) = frame.1 :: frame.2 :: interleaved rest := rfl
      rw [split, List.length_cons, List.length_cons, ih, List.length_cons, Nat.succ_mul]
      rfl

omit [PcmSample F] in
theorem At.ready {progress : StreamProgress} {sequence : Nat} {last : Option Nat}
    {sink : ProgressiveWireSink} (here : At progress sequence last sink) :
    (!sink.started) = false := by
  rw [here.started]
  rfl

/-- **A legal window is written.** -/
theorem audio_sent {progress : StreamProgress} {sequence : Nat} {last : Option Nat}
    {sink : ProgressiveWireSink} {window : AudioBuffer F} (here : At progress sequence last sink)
    (legal : LegalWindow runtime progress window)
    (few : sequence ≤ progress.frames * channelCount) :
    ∃ sink', sink.audio runtime window = (sink', .ok ()) ∧
      At (progress.next (.audio window))
        (sequence + (chunks samplesPerChunk (interleaved window)).length) last sink' ∧
      sink'.sent = sink.sent ++
        chunkFrames sequence (chunks samplesPerChunk (interleaved window)) := by
  have positive : 0 < samplesPerChunk := by decide
  have limits : MAX_HELPER_SYNTHESIS_BYTES ≤ wordMax 32 := by decide
  have wide : wordMax 32 ≤ usizeMax := by decide
  have wide' : wordMax 32 ≤ u64Max := wide
  have fits := legal.fits
  have count := chunks_length_le positive (interleaved window)
  rw [interleaved_length] at count
  unfold frameBytes channelCount sampleBytes at *
  have window' : checkedMul usizeMax (interleaved window).length 2 =
      some (window.length * 2 * 2) := by
    rw [checkedMul_eq_some, interleaved_length]
    exact ⟨rfl, by unfold channelCount; omega⟩
  have total : (checkedAdd usizeMax sink.pcmBytes (window.length * 2 * 2)).filter
      (· ≤ MAX_HELPER_SYNTHESIS_BYTES) = some ((progress.frames + window.length) * (2 * 2)) := by
    rw [here.bytes, checkedAdd_of_le (by unfold frameBytes channelCount sampleBytes; omega)]
    have same : progress.frames * frameBytes + window.length * 2 * 2 =
        (progress.frames + window.length) * (2 * 2) := by
      unfold frameBytes channelCount sampleBytes
      omega
    rw [same]
    exact Option.filter_some_pos (decide_eq_true fits)
  have written : sendChunks runtime
      { sink with pcmBytes := (progress.frames + window.length) * (2 * 2) }
      (chunks samplesPerChunk (interleaved window)) = _ :=
    sendChunks_sent (fun piece member => mem_chunks positive member)
      (by rw [show sink.nextSequence = sequence from here.sequence]; omega) legal.encoded
  have frames : checkedAdd u64Max sink.frameCount window.length =
      some (progress.frames + window.length) := by
    rw [here.frames]
    exact checkedAdd_of_le (by omega)
  have filled : window.isEmpty = false := by
    cases window with
    | nil => exact absurd rfl legal.nonempty
    | cons => rfl
  refine ⟨{ sink with
      pcmBytes := (progress.frames + window.length) * (2 * 2)
      nextSequence :=
        sink.nextSequence + (chunks samplesPerChunk (interleaved window)).length
      frameCount := progress.frames + window.length
      sent := sink.sent ++ chunkFrames sink.nextSequence
        (chunks samplesPerChunk (interleaved window)) }, ?_, ?_, ?_⟩
  · unfold ProgressiveWireSink.audio
    rw [here.ready, filled, if_neg Bool.false_ne_true, if_neg Bool.false_ne_true]
    simp only [sampleBytes, window', total, written, andThen_ok, frames]
  · exact ⟨here.started, congrArg (· + _) here.sequence, rfl, rfl, here.markers, here.last⟩
  · rw [← here.sequence]

omit [PcmSample F] in
/-- Up to the check of its frames, a legal batch is like any other. -/
theorem markers_checked {progress : StreamProgress} {sequence : Nat} {last : Option Nat}
    {sink : ProgressiveWireSink} {batch : List SynthesisMarker} {anchors : List ResolvedAnchor}
    (here : At progress sequence last sink) (legal : LegalBatch runtime progress batch anchors) :
    (BatchAdmitted progress.frames last (wireMarkers batch anchors) →
      ∃ sink', sink.markers runtime batch anchors = (sink', .ok ()) ∧
        At (progress.next (.markers batch anchors : SinkCall F)) sequence
          (lastOffset last (wireMarkers batch anchors)) sink' ∧
        sink'.sent = sink.sent ++ [.markers (wireMarkers batch anchors)]) ∧
    (¬ BatchAdmitted progress.frames last (wireMarkers batch anchors) →
      ∃ sink' e, sink.markers runtime batch anchors = (sink', .error e) ∧
        sink'.started = true ∧ sink'.sent = sink.sent) := by
  have few := legal.few
  have length := wireMarkers_length batch anchors
  have limit : MAX_HELPER_MARKERS ≤ usizeMax := by decide
  have merged : helperMarkersFromParts batch anchors true = .ok (wireMarkers batch anchors) := by
    rw [helperMarkersFromParts_eq, if_pos (by omega)]
  have filled : (wireMarkers batch anchors).isEmpty = false := by
    obtain ⟨_, nonempty, _⟩ := bind_eq_ok.mp legal.valid
    simpa using ensure_eq_ok.mp nonempty
  have counted : (checkedAdd usizeMax sink.markerCount (wireMarkers batch anchors).length).filter
      (· ≤ MAX_HELPER_MARKERS) = some (progress.markers + (batch.length + anchors.length)) := by
    rw [here.markers, length, checkedAdd_of_le (by omega)]
    exact Option.filter_some_pos (decide_eq_true few)
  constructor
  · intro admitted
    refine ⟨{ sink with
        markerCount := progress.markers + (batch.length + anchors.length)
        lastMarkerOffset := lastOffset last (wireMarkers batch anchors)
        sent := sink.sent ++ [.markers (wireMarkers batch anchors)] }, ?_, ?_, rfl⟩
    · unfold ProgressiveWireSink.markers
      rw [here.ready, if_neg Bool.false_ne_true]
      simp only [merged, filled, counted, here.frames, here.last, Bool.false_eq_true, if_false,
        admitMarkers_of_admitted (wireMarkers_sorted batch anchors) admitted]
      exact send_of_valid legal.valid legal.encoded
    · exact ⟨here.started, here.sequence, here.frames, here.bytes, rfl, rfl⟩
  · intro rejected
    unfold ProgressiveWireSink.markers
    rw [here.ready, if_neg Bool.false_ne_true]
    simp only [merged, filled, counted, here.frames, here.last, Bool.false_eq_true, if_false]
    split
    · rename_i e failed
      exact ⟨_, e, rfl, here.started, rfl⟩
    · rename_i passed
      exact absurd (admitted_of_admitMarkers (Prod.ext rfl passed)).1 rejected

/-! ### Whole runs of the helper -/

omit [PcmSample F] in
/-- No completion has been written. -/
def Unfinished (sink : ProgressiveWireSink) : Prop :=
  ∀ frameCount, HelperResponseBody.synthesisCompleted frameCount ∉ sink.sent

omit [PcmSample F] in
theorem unfinished_send {sink : ProgressiveWireSink} (unfinished : Unfinished sink)
    {body : HelperResponseBody} (other : ∀ frameCount, body ≠ .synthesisCompleted frameCount) :
    Unfinished (sink.send runtime body).1 := by
  unfold send
  split
  · exact unfinished
  · split
    · intro frameCount member
      rcases List.mem_append.mp member with earlier | last
      · exact unfinished frameCount earlier
      · exact other frameCount (List.mem_singleton.mp last).symm
    · exact unfinished

omit [PcmSample F] in
theorem errorResponseBody_ne (e : TtsError) (frameCount : Nat) :
    errorResponseBody e ≠ .synthesisCompleted frameCount := by
  cases e <;> exact fun same => by cases same

omit [PcmSample F] in
theorem chunkFrames_ne [PcmSample F] (sequence : Nat) (pieces : List (List F))
    {body : HelperResponseBody} (member : body ∈ chunkFrames sequence pieces) (frameCount : Nat) :
    body ≠ .synthesisCompleted frameCount := by
  induction pieces generalizing sequence with
  | nil => cases member
  | cons piece rest ih =>
      rcases List.mem_cons.mp member with rfl | later
      · exact fun same => by cases same
      · exact ih (sequence + 1) later

omit [PcmSample F] in
theorem new_start {consumer : StreamConsumer R F} {voiceId : String}
    {start : SynthesisStreamStart} {script : List (SinkCall F)} {frameCount : Nat}
    [PcmSample F] (legal : LegalStream runtime consumer voiceId start script frameCount) :
    ∃ sink', (new voiceId).start runtime start = (sink', .ok ()) ∧ At .start 0 none sink' ∧
      sink'.sent = [.synthesisStarted sampleRate channelCount voiceId] := by
  have valid : (HelperResponseBody.synthesisStarted sampleRate channelCount voiceId).validate =
      .ok () := by
    refine bind_eq_ok.mpr ⟨(), by decide, bind_eq_ok.mpr ⟨(), by decide, ensure_eq_ok.mpr ?_⟩⟩
    rw [legal.voiceBytes.1]
    exact decide_eq_true legal.voiceBytes.2
  refine ⟨{ new voiceId with
      started := true
      sent := [.synthesisStarted sampleRate channelCount voiceId] }, ?_, ?_, rfl⟩
  · simp only [ProgressiveWireSink.start, new, legal.engine, legal.voice, ensureStarted,
      Bool.false_eq_true, if_false, ne_eq, not_true_eq_false, decide_false, Bool.or_self]
    rw [send_of_valid valid legal.startEncoded]
    rfl
  · exact ⟨rfl, rfl, rfl, rfl, rfl, rfl⟩

end ProgressiveWireSink

/-! ## The client's side -/

namespace ProgressiveHelperCollector

open Audio (passState stereoFrames pushInterleaved_pass)

variable {R F : Type} {consumer : StreamConsumer R F}

/-- The state of a collector that received so many samples. -/
structure At (progress : StreamProgress) (sequence : Nat) (last : Option Nat) (received : List F)
    (collector : ProgressiveHelperCollector R F) : Prop where
  phase : collector.phase = .streamingAudio
  sequence : collector.nextSequence = sequence
  channels : collector.channels = channelCount
  canonicalizer : collector.canonicalizer = some (passState channelCount received)
  received : received.length = progress.frames * channelCount
  sourceFrames : collector.sourceFrameCount = progress.frames
  frames : collector.frameCount = progress.frames
  bytes : collector.pcmBytes = progress.frames * frameBytes
  canonicalBytes : collector.canonicalPcmBytes = progress.frames * frameBytes
  markers : collector.markerCount = progress.markers
  last : collector.lastMarkerOffset = last
  running : collector.consumerStopped = false

variable (accepting : ∀ earlier call, consumer.answer earlier call = .ok ())
include accepting

theorem callSink_accepted (collector : ProgressiveHelperCollector R F) (call : SinkCall F) :
    collector.callSink consumer call =
      { collector with delivered := collector.delivered ++ [call] } := by
  unfold callSink
  rw [accepting]

theorem callUnlessStopped_accepted {collector : ProgressiveHelperCollector R F}
    (running : collector.consumerStopped = false) (call : SinkCall F) :
    collector.callUnlessStopped consumer call =
      { collector with delivered := collector.delivered ++ [call] } := by
  have going : ¬ collector.consumerStopped = true := ne_true_of_eq_false running
  unfold callUnlessStopped
  rw [if_neg going]
  exact callSink_accepted accepting collector call

/-- Windows within the limit are all passed on. -/
theorem forwardAudio_accepted {collector : ProgressiveHelperCollector R F}
    (windows : List (AudioBuffer F)) (running : collector.consumerStopped = false)
    (fits : collector.canonicalPcmBytes + windows.flatten.length * frameBytes ≤
      MAX_HELPER_SYNTHESIS_BYTES)
    (counted : collector.frameCount + windows.flatten.length ≤ u64Max) :
    collector.forwardAudio consumer windows =
      ({ collector with
          canonicalPcmBytes := collector.canonicalPcmBytes + windows.flatten.length * frameBytes
          frameCount := collector.frameCount + windows.flatten.length
          delivered := collector.delivered ++ windows.map .audio }, .ok ()) := by
  induction windows generalizing collector with
  | nil =>
      simp only [List.flatten_nil, List.length_nil, Nat.zero_mul, Nat.add_zero, List.map_nil,
        List.append_nil]
      rfl
  | cons window rest ih =>
      have limit : MAX_HELPER_SYNTHESIS_BYTES ≤ usizeMax := by decide
      rw [List.flatten_cons, List.length_append] at fits counted
      unfold frameBytes channelCount sampleBytes at *
      have bytes : ((checkedMul usizeMax window.length 2).bind fun samples =>
          checkedMul usizeMax samples 2) = some (window.length * (2 * 2)) := by
        rw [checkedMul_eq_some.mpr ⟨rfl, by omega⟩, Option.bind_some, checkedMul_eq_some]
        exact ⟨by omega, by omega⟩
      have total : (checkedAdd usizeMax collector.canonicalPcmBytes
          (window.length * (2 * 2))).filter (· ≤ MAX_HELPER_SYNTHESIS_BYTES) =
          some (collector.canonicalPcmBytes + window.length * (2 * 2)) := by
        rw [checkedAdd_of_le (by omega)]
        exact Option.filter_some_pos (decide_eq_true (by omega))
      have frames : checkedAdd u64Max collector.frameCount window.length =
          some (collector.frameCount + window.length) := checkedAdd_of_le (by omega)
      unfold forwardAudio
      simp only [channelCount, sampleBytes, bytes, total, frames]
      rw [callUnlessStopped_accepted accepting (by exact running), ih (by exact running)
        (by dsimp only; omega) (by dsimp only; omega)]
      simp only [List.flatten_cons, List.length_append, List.map_cons, List.append_assoc,
        Nat.add_mul, Nat.add_assoc]
      rfl

variable [PcmSample F] [Resampler R F]

/-- The calls of some windows. -/
def windowCalls (windows : List (AudioBuffer F)) : List (SinkCall F) := windows.map .audio

/-- **A chunk of whole frames is passed on.** -/
theorem accept_chunk {progress : StreamProgress} {sequence : Nat} {last : Option Nat}
    {received : List F} {collector : ProgressiveHelperCollector R F} {samples : List Int16}
    (here : At progress sequence last received collector) (nonempty : samples ≠ [])
    (short : samples.length ≤ samplesPerChunk) (whole : channelCount ∣ samples.length)
    (fits : (progress.frames + samples.length / channelCount) * frameBytes ≤
      MAX_HELPER_SYNTHESIS_BYTES)
    (numbered : sequence + 1 ≤ wordMax 32) :
    ∃ collector' windows, collector.accept consumer (.audioChunk sequence samples) =
        (collector', .ok none) ∧
      At { progress with frames := progress.frames + samples.length / channelCount }
        (sequence + 1) last (received ++ samples.map PcmSample.i16ToF32) collector' ∧
      collector'.delivered = collector.delivered ++ windowCalls windows ∧
      windows.flatten = stereoFrames channelCount (samples.map PcmSample.i16ToF32) := by
  obtain ⟨count, counted⟩ := whole
  have limit : MAX_HELPER_SYNTHESIS_BYTES ≤ usizeMax := by decide
  have limit' : MAX_HELPER_SYNTHESIS_BYTES ≤ u64Max := limit
  have half : samples.length / channelCount = count := by
    rw [counted]
    exact Nat.mul_div_cancel_left count (by decide)
  have length : (samples.map PcmSample.i16ToF32 : List F).length = channelCount * count := by
    rw [List.length_map, counted]
  have alignedBefore : received.length % channelCount = 0 := by
    rw [here.received]
    exact Nat.mul_mod_left _ _
  have aligned : (samples.map PcmSample.i16ToF32 : List F).length % channelCount = 0 := by
    rw [length]
    exact Nat.mul_mod_right _ _
  rw [half] at fits ⊢
  have inRange : (received ++ samples.map PcmSample.i16ToF32).length / channelCount ≤ u64Max := by
    rw [List.length_append, here.received, length]
    unfold frameBytes channelCount sampleBytes at *
    omega
  obtain ⟨windows, pushed, flattened⟩ :=
    pushInterleaved_pass (R := R) (.inr rfl) alignedBefore aligned inRange
  have frames : windows.flatten.length = count := by
    rw [flattened, Audio.stereoFrames_length (.inr rfl), length]
    exact Nat.mul_div_cancel_left count (by decide)
  have wired : (HelperResponseBody.audioChunk sequence samples).validate = .ok () :=
    ProgressiveWireSink.validatePcm_of_fits nonempty short
  have total : (checkedAdd usizeMax collector.pcmBytes (samples.length * sampleBytes)).filter
      (· ≤ MAX_HELPER_SYNTHESIS_BYTES) = some ((progress.frames + count) * frameBytes) := by
    have same : progress.frames * frameBytes + samples.length * sampleBytes =
        (progress.frames + count) * frameBytes := by
      unfold frameBytes channelCount sampleBytes at *
      omega
    rw [here.bytes, checkedAdd_of_le (by omega), same]
    exact Option.filter_some_pos (decide_eq_true fits)
  have source : checkedAdd u64Max collector.sourceFrameCount (samples.length / collector.channels) =
      some (progress.frames + count) := by
    rw [here.sourceFrames, here.channels, half]
    unfold frameBytes channelCount sampleBytes at *
    exact checkedAdd_of_le (by omega)
  have streaming : ¬ collector.phase = .terminal := by
    rw [here.phase]
    exact fun same => by cases same
  have next : checkedAdd (wordMax 32) collector.nextSequence 1 = some (sequence + 1) := by
    rw [here.sequence]
    exact checkedAdd_of_le numbered
  refine ⟨{ collector with
      pcmBytes := (progress.frames + count) * frameBytes
      sourceFrameCount := progress.frames + count
      canonicalizer := some (passState channelCount (received ++ samples.map PcmSample.i16ToF32))
      canonicalPcmBytes := collector.canonicalPcmBytes + windows.flatten.length * frameBytes
      frameCount := collector.frameCount + windows.flatten.length
      delivered := collector.delivered ++ windowCalls windows
      nextSequence := sequence + 1 }, windows, ?_, ?_, rfl, flattened⟩
  · unfold accept
    simp only [wired]
    rw [if_neg streaming, if_pos here.phase]
    unfold acceptAudio
    rw [if_neg (by rw [here.sequence]; exact fun other => other rfl),
      if_neg (by rw [here.channels, counted]; exact fun other => other (Nat.mul_mod_right _ _))]
    simp only [total, source, here.canonicalizer, pushed]
    rw [forwardAudio_accepted accepting windows (by exact here.running)
      (by dsimp only; rw [here.canonicalBytes, frames, ← Nat.add_mul]; exact fits)
      (by
        dsimp only
        rw [here.frames, frames]
        unfold frameBytes channelCount sampleBytes at *
        omega), andThen_ok]
    simp only [next]
    rfl
  · refine ⟨here.phase, rfl, here.channels, rfl, ?_, rfl, ?_, rfl, ?_, here.markers, here.last,
      here.running⟩
    · rw [List.length_append, here.received, length, Nat.mul_comm channelCount, ← Nat.add_mul]
    · dsimp only
      rw [here.frames, frames]
    · dsimp only
      rw [here.canonicalBytes, frames, ← Nat.add_mul]

omit accepting in
/-- A frame without a result leads on to the next one. -/
theorem receive_cons {collector next : ProgressiveHelperCollector R F} {body : HelperResponseBody}
    (taken : collector.accept consumer body = (next, .ok none)) (more : List HelperResponseBody) :
    collector.receive consumer (body :: more) = next.receive consumer more := by
  rw [receive]
  simp only [taken]

/-- **The chunks of a window are passed on** as the window after rounding. -/
theorem receive_chunks {progress : StreamProgress} {sequence : Nat} {last : Option Nat}
    {received : List F} {collector : ProgressiveHelperCollector R F} {pieces : List (List F)}
    (here : At progress sequence last received collector)
    (pieced : ∀ piece ∈ pieces, (piece ≠ [] ∧ piece.length ≤ samplesPerChunk) ∧
      channelCount ∣ piece.length)
    (fits : (progress.frames + pieces.flatten.length / channelCount) * frameBytes ≤
      MAX_HELPER_SYNTHESIS_BYTES)
    (numbered : sequence + pieces.length ≤ wordMax 32) :
    ∃ collector' received' windows,
      (∀ more, collector.receive consumer
          (ProgressiveWireSink.chunkFrames sequence pieces ++ more) =
        collector'.receive consumer more) ∧
      At { progress with frames := progress.frames + pieces.flatten.length / channelCount }
        (sequence + pieces.length) last received' collector' ∧
      collector'.delivered = collector.delivered ++ windowCalls windows ∧
      windows.flatten = stereoFrames channelCount
        (pieces.flatten.map fun sample => PcmSample.i16ToF32 (PcmSample.f32ToI16 sample)) := by
  induction pieces generalizing progress sequence received collector with
  | nil =>
      refine ⟨collector, received, [], fun _ => rfl, ?_, (List.append_nil _).symm, ?_⟩
      · simpa using here
      · simp [stereoFrames, chunksExact]
  | cons piece rest ih =>
      obtain ⟨⟨nonempty, short⟩, whole⟩ := pieced piece List.mem_cons_self
      have split : (piece ++ rest.flatten).length / channelCount =
          piece.length / channelCount + rest.flatten.length / channelCount := by
        rw [List.length_append]
        exact Nat.add_div_of_dvd_right whole
      rw [List.flatten_cons, split] at fits
      rw [List.length_cons] at numbered
      have mapped : (piece.map PcmSample.f32ToI16).length = piece.length := List.length_map _
      have rounded : piece.map (PcmSample.f32ToI16 (F := F)) ≠ [] :=
        fun empty => nonempty (List.map_eq_nil_iff.mp empty)
      obtain ⟨middle, windows, taken, there, delivered, same⟩ :=
        accept_chunk accepting here rounded (by rwa [mapped]) (by rwa [mapped]) (by
            rw [mapped]
            unfold frameBytes channelCount sampleBytes at *
            omega) (by omega)
      rw [mapped] at there
      obtain ⟨final, received', others, further, done, deliveredLater, sameLater⟩ :=
        ih there (fun later member => pieced later (List.mem_cons_of_mem _ member))
          (by dsimp only; rwa [Nat.add_assoc]) (by omega)
      refine ⟨final, received', windows ++ others, fun more => ?_, ?_, ?_, ?_⟩
      · rw [ProgressiveWireSink.chunkFrames, List.cons_append, receive_cons taken]
        exact further more
      · rw [List.flatten_cons, split, List.length_cons, Nat.add_comm rest.length,
          ← Nat.add_assoc, ← Nat.add_assoc]
        exact done
      · rw [deliveredLater, delivered, List.append_assoc, windowCalls, windowCalls, windowCalls,
          List.map_append]
      · have alignedPiece : (piece.map fun sample =>
            (PcmSample.i16ToF32 (PcmSample.f32ToI16 sample) : F)).length % channelCount = 0 := by
          rw [List.length_map]
          exact Nat.mod_eq_zero_of_dvd whole
        rw [List.flatten_append, same, sameLater, List.map_map, List.flatten_cons,
          List.map_append, Audio.stereoFrames_append (.inr rfl) alignedPiece]
        rfl

omit accepting [PcmSample F] [Resampler R F] in
theorem canonicalMarkers_sampleRate {batch : List HelperMarker}
    (words : ∀ marker ∈ batch, marker.frameOffset ≤ u64Max) :
    canonicalMarkers sampleRate batch = .ok batch := by
  unfold canonicalMarkers
  induction batch with
  | nil => rfl
  | cons marker rest ih =>
      have here := Audio.canonicalFrameOffset_sampleRate (words marker List.mem_cons_self)
      rw [List.mapM_cons, here, ih fun later member => words later (List.mem_cons_of_mem _ member)]
      rfl

/-- **An admitted batch is passed on.** -/
theorem accept_batch {runtime : HelperRuntime} {progress : StreamProgress} {sequence : Nat}
    {last : Option Nat} {received : List F} {collector : ProgressiveHelperCollector R F}
    {batch : List SynthesisMarker} {anchors : List ResolvedAnchor}
    (here : At progress sequence last received collector)
    (legal : LegalBatch runtime progress batch anchors)
    (admitted : BatchAdmitted progress.frames last (wireMarkers batch anchors)) :
    ∃ collector', collector.accept consumer (.markers (wireMarkers batch anchors)) =
        (collector', .ok none) ∧
      At (progress.next (.markers batch anchors : SinkCall F)) sequence
        (lastOffset last (wireMarkers batch anchors)) received collector' ∧
      collector'.delivered = collector.delivered ++
        [.markers (splitHelperMarkers (wireMarkers batch anchors)).1
          (splitHelperMarkers (wireMarkers batch anchors)).2] := by
  have few := legal.few
  have limit : MAX_HELPER_MARKERS ≤ usizeMax := by decide
  have counted : (checkedAdd usizeMax collector.markerCount
      (wireMarkers batch anchors).length).filter (· ≤ MAX_HELPER_MARKERS) =
      some (progress.markers + (batch.length + anchors.length)) := by
    rw [here.markers, wireMarkers_length, checkedAdd_of_le (by omega)]
    exact Option.filter_some_pos (decide_eq_true few)
  have words : ∀ marker ∈ wireMarkers batch anchors, marker.frameOffset ≤ u64Max := by
    intro marker member
    rcases mem_wireMarkers.mp member with ⟨source, held, rfl⟩ | ⟨anchor, held, rfl⟩
    · exact (legal.markersReach source held).word
    · cases placed : anchor.frameOffset with
      | none => simp [HelperMarker.ofAnchor, placed]
      | some frame =>
          simpa [HelperMarker.ofAnchor, placed] using
            (legal.anchorsReach anchor held frame placed).word
  have streaming : ¬ collector.phase = .terminal := by
    rw [here.phase]
    exact fun same => by cases same
  have mapped : canonicalMarkers
      (passState channelCount received : ProgressivePcmCanonicalizer R F).sourceSampleRate
      (wireMarkers batch anchors) = .ok (wireMarkers batch anchors) :=
    canonicalMarkers_sampleRate words
  refine ⟨{ collector with
      markerCount := progress.markers + (batch.length + anchors.length)
      lastMarkerOffset := lastOffset last (wireMarkers batch anchors)
      delivered := collector.delivered ++
        [.markers (splitHelperMarkers (wireMarkers batch anchors)).1
          (splitHelperMarkers (wireMarkers batch anchors)).2] }, ?_, ?_, rfl⟩
  · unfold accept
    simp only [legal.valid]
    rw [if_neg streaming, if_pos here.phase]
    unfold acceptMarkers
    simp only [counted, here.sourceFrames, here.last, here.canonicalizer, mapped,
      admitMarkers_of_admitted (wireMarkers_sorted batch anchors) admitted]
    rw [callUnlessStopped_accepted accepting (by exact here.running)]
  · exact ⟨here.phase, here.sequence, here.channels, here.canonicalizer, here.received,
      here.sourceFrames, here.frames, here.bytes, here.canonicalBytes, rfl, rfl, here.running⟩

/-- **The start is passed on.** -/
theorem accept_start {runtime : HelperRuntime} {voiceId : String} {start : SynthesisStreamStart}
    {script : List (SinkCall F)} {frameCount : Nat}
    (legal : LegalStream runtime consumer voiceId start script frameCount) :
    ∃ collector, (new : ProgressiveHelperCollector R F).accept consumer
        (.synthesisStarted sampleRate channelCount voiceId) = (collector, .ok none) ∧
      At .start 0 none [] collector ∧
      collector.delivered = [.start { start with degradedAcss := consumer.degradedAcss }] := by
  have valid : (HelperResponseBody.synthesisStarted sampleRate channelCount voiceId).validate =
      .ok () := by
    refine bind_eq_ok.mpr ⟨(), by decide, bind_eq_ok.mpr ⟨(), by decide, ensure_eq_ok.mpr ?_⟩⟩
    rw [legal.voiceBytes.1]
    exact decide_eq_true legal.voiceBytes.2
  have voice : checkActualVoice consumer.expectedVoiceId voiceId = .ok () := by
    unfold checkActualVoice
    split
    · rfl
    · rename_i expected held
      rw [legal.expected expected held]
      exact ensure_eq_ok.mpr (decide_eq_true rfl)
  have fresh : (ProgressivePcmCanonicalizer.new sampleRate channelCount
      (consumer.acquire sampleRate) : Except _ (ProgressivePcmCanonicalizer R F)) =
      .ok (passState channelCount []) := by
    simp [ProgressivePcmCanonicalizer.new, passState, Audio.validateFormat, ensure]
    rfl
  have told : (⟨consumer.engineId, some ⟨consumer.engineId, voiceId⟩, consumer.degradedAcss⟩ :
      SynthesisStreamStart) = { start with degradedAcss := consumer.degradedAcss } := by
    rw [legal.consumerEngine, legal.engine, legal.voice]
  refine ⟨{ (new : ProgressiveHelperCollector R F) with
      channels := channelCount
      canonicalizer := some (passState channelCount [])
      phase := .streamingAudio
      delivered := [.start { start with degradedAcss := consumer.degradedAcss }] }, ?_, ?_, rfl⟩
  · unfold accept
    simp only [valid]
    rw [if_neg (fun same => by cases same), if_pos (by rfl)]
    unfold acceptStarted
    simp only [voice, fresh]
    rw [callSink_accepted accepting, told]
    rfl
  · exact ⟨rfl, rfl, rfl, rfl, rfl, rfl, rfl, rfl, rfl, rfl, rfl, rfl⟩

omit accepting in
/-- **The completion ends the stream.** -/
theorem accept_completion {progress : StreamProgress} {sequence : Nat} {last : Option Nat}
    {received : List F} {collector : ProgressiveHelperCollector R F}
    (here : At progress sequence last received collector)
    (covered : last.getD 0 ≤ progress.frames) :
    ∃ collector', collector.accept consumer (.synthesisCompleted progress.frames) =
        (collector', .ok (some .completed)) ∧ collector'.delivered = collector.delivered := by
  have streaming : ¬ collector.phase = .terminal := by
    rw [here.phase]
    exact fun same => by cases same
  have within : (last.filter fun offset => offset > progress.frames) = none := by
    cases last with
    | none => rfl
    | some offset =>
        exact Option.filter_some_neg (by simpa using covered)
  have finished : (passState channelCount received : ProgressivePcmCanonicalizer R F).finish =
      ({ passState channelCount received with finished := true }, .ok []) := rfl
  refine ⟨{ collector with
      canonicalizer := some { passState channelCount received with finished := true }
      phase := .terminal }, ?_, rfl⟩
  unfold accept
  simp only [HelperResponseBody.validate]
  rw [if_neg streaming, if_pos here.phase]
  unfold acceptCompleted
  rw [if_neg (by rw [here.sourceFrames]; exact fun other => other rfl)]
  simp only [here.last, within, here.canonicalizer, finished]
  rfl

omit accepting in
/-- Only a completion frame completes a synthesis. -/
theorem completed_of_accept {collector collector' : ProgressiveHelperCollector R F}
    {body : HelperResponseBody}
    (taken : collector.accept consumer body = (collector', .ok (some .completed))) :
    ∃ frameCount, body = .synthesisCompleted frameCount := by
  unfold accept at taken
  split at taken
  · cases taken
  split at taken
  · cases taken
  split at taken
  · split at taken
    · unfold acceptStarted at taken
      split at taken
      · cases taken
      · split at taken <;> cases taken
    · cases taken
  · split at taken
    · unfold acceptAudio at taken
      split at taken
      · cases taken
      split at taken
      · cases taken
      split at taken
      · cases taken
      dsimp only at taken
      split at taken
      · cases taken
      split at taken
      · cases taken
      split at taken
      · cases taken
      obtain ⟨_, _, _, last⟩ := andThen_eq_ok.mp taken
      split at last <;> cases last
    · cases taken
  · split at taken
    · unfold acceptMarkers at taken
      split at taken
      · cases taken
      dsimp only at taken
      split at taken
      · cases taken
      split at taken
      · cases taken
      split at taken <;> cases taken
    · cases taken
  · exact ⟨_, rfl⟩
  · cases taken
  · cases taken
  · cases taken

omit accepting in
/-- **A stream without a completion frame is not completed.** -/
theorem completion_of_receive {collector : ProgressiveHelperCollector R F}
    {frames : List HelperResponseBody}
    (completed : (collector.receive consumer frames).2 = .ok (some .completed)) :
    ∃ frameCount, HelperResponseBody.synthesisCompleted frameCount ∈ frames := by
  induction frames generalizing collector with
  | nil => cases completed
  | cons body rest ih =>
      rw [receive] at completed
      split at completed
      · obtain ⟨frameCount, member⟩ := ih completed
        exact ⟨frameCount, List.mem_cons_of_mem _ member⟩
      · rename_i result taken
        cases completed
        obtain ⟨frameCount, rfl⟩ := completed_of_accept taken
        exact ⟨frameCount, List.mem_cons_self⟩
      · cases completed

end ProgressiveHelperCollector

/-! ## Both sides -/

section Both

open ProgressiveWireSink (interleaved_length audio_sent markers_checked)

variable {R F : Type} [PcmSample F] [Resampler R F] {runtime : HelperRuntime}
  {consumer : StreamConsumer R F}

omit [PcmSample F] in
theorem stereoFrames_interleaved (window : AudioBuffer F) :
    Audio.stereoFrames channelCount (interleaved window) = window := by
  induction window with
  | nil => simp [interleaved, Audio.stereoFrames, chunksExact]
  | cons frame rest ih =>
      have split : interleaved (frame :: rest) = [frame.1, frame.2] ++ interleaved rest := rfl
      have whole : [frame.1, frame.2].length % channelCount = 0 := Nat.mod_self channelCount
      rw [split, Audio.stereoFrames_append (.inr rfl) whole, ih]
      simp [Audio.stereoFrames, channelCount, chunksExact, Audio.stereoFrame]

omit [PcmSample F] in
theorem map_interleaved {G : Type} (f : F → G) (window : AudioBuffer F) :
    (interleaved window).map f = interleaved (window.map (Prod.map f f)) := by
  induction window with
  | nil => rfl
  | cons frame rest ih =>
      have split : interleaved (frame :: rest) = [frame.1, frame.2] ++ interleaved rest := rfl
      rw [split, List.map_append, ih]
      rfl

omit [PcmSample F] in
theorem batchesOf_append (frames : Nat) (first second : List (SinkCall F)) :
    batchesOf frames (first ++ second) =
      batchesOf frames first ++ batchesOf (frames + (audioOf first).length) second := by
  induction first generalizing frames with
  | nil => rfl
  | cons call rest ih =>
      cases call with
      | start start => exact ih frames
      | audio window =>
          have split : audioOf (.audio window :: rest) = window ++ audioOf rest := rfl
          rw [List.cons_append, batchesOf, batchesOf, ih, split, List.length_append,
            Nat.add_assoc]
      | markers batch anchors =>
          have split : audioOf (.markers batch anchors :: rest) = audioOf rest := rfl
          rw [List.cons_append, batchesOf, batchesOf, ih, split, List.cons_append]

omit [PcmSample F] in
theorem audioOf_windowCalls (windows : List (AudioBuffer F)) :
    audioOf (ProgressiveHelperCollector.windowCalls windows) = windows.flatten := by
  induction windows with
  | nil => rfl
  | cons window rest ih => exact congrArg (window ++ ·) ih

omit [PcmSample F] in
theorem startsOf_windowCalls (windows : List (AudioBuffer F)) :
    startsOf (ProgressiveHelperCollector.windowCalls windows) = [] := by
  induction windows with
  | nil => rfl
  | cons window rest ih => exact ih

omit [PcmSample F] in
theorem batchesOf_windowCalls (frames : Nat) (windows : List (AudioBuffer F)) :
    batchesOf frames (ProgressiveHelperCollector.windowCalls windows) = [] := by
  induction windows generalizing frames with
  | nil => rfl
  | cons window rest ih => exact ih (frames + window.length)

/-- The sink has written what the collector has taken. -/
structure Synchronized (progress : StreamProgress) (sink : ProgressiveWireSink)
    (collector : ProgressiveHelperCollector R F) : Prop where
  agree : ∃ sequence last received, sink.At progress sequence last ∧
    collector.At progress sequence last received ∧ last.getD 0 = progress.latest ∧
    sequence ≤ progress.frames * channelCount

/-- What becomes of legal calls when all of them get through. -/
structure Relayed (runtime : HelperRuntime) (consumer : StreamConsumer R F)
    (progress : StreamProgress) (script : List (SinkCall F))
    (sink : ProgressiveWireSink) (collector : ProgressiveHelperCollector R F)
    (sink' : ProgressiveWireSink) (collector' : ProgressiveHelperCollector R F) : Prop where
  called : sink.calls runtime script = (sink', .ok ())
  agree : Synchronized (script.foldl StreamProgress.next progress) sink' collector'
  written : ∃ frames, sink'.sent = sink.sent ++ frames ∧
    ∀ more, collector.receive consumer (frames ++ more) = collector'.receive consumer more
  delivered : ∃ calls, collector'.delivered = collector.delivered ++ calls ∧
    startsOf calls = [] ∧ audioOf calls = (audioOf script).map roundTrip ∧
    List.Forall₂ SameBatch (batchesOf progress.frames script) (batchesOf progress.frames calls)

variable (accepting : ∀ earlier call, consumer.answer earlier call = .ok ())
include accepting

/-- A legal window gets through. -/
theorem relayed_window {progress : StreamProgress} {sink : ProgressiveWireSink}
    {collector : ProgressiveHelperCollector R F} {window : AudioBuffer F}
    (agree : Synchronized progress sink collector) (legal : LegalWindow runtime progress window) :
    ∃ sink' collector',
      Relayed runtime consumer progress [.audio window] sink collector sink' collector' := by
  obtain ⟨sequence, last, received, sinkHere, here, level, few⟩ := agree.agree
  have positive : 0 < samplesPerChunk := by decide
  have fits := legal.fits
  have flat := chunks_flatten positive (interleaved window)
  have count := chunks_length_le positive (interleaved window)
  have limit : MAX_HELPER_SYNTHESIS_BYTES ≤ wordMax 32 := by decide
  rw [interleaved_length] at count
  have half : (chunks samplesPerChunk (interleaved window)).flatten.length / channelCount =
      window.length := by
    rw [flat, interleaved_length]
    exact Nat.mul_div_cancel _ (by decide)
  have numbered : sequence + (chunks samplesPerChunk (interleaved window)).length ≤
      (progress.frames + window.length) * channelCount := by
    rw [Nat.add_mul]
    omega
  obtain ⟨sink', called, sinkThere, sent⟩ := audio_sent sinkHere legal few
  obtain ⟨collector', received', windows, taken, there, delivered, same⟩ :=
    ProgressiveHelperCollector.receive_chunks accepting here
      (fun piece member => ⟨mem_chunks positive member,
        dvd_length_of_mem_chunks (by decide)
          ⟨window.length, by rw [interleaved_length, Nat.mul_comm]⟩ member⟩)
      (by rwa [half])
      (by unfold frameBytes channelCount sampleBytes at *; omega)
  rw [half] at there
  rw [flat, map_interleaved, stereoFrames_interleaved] at same
  refine ⟨sink', collector', ?_, ⟨_, last, received', sinkThere, there, level, numbered⟩,
    ⟨_, sent, taken⟩, ⟨_, delivered, startsOf_windowCalls windows, ?_, ?_⟩⟩
  · rw [ProgressiveWireSink.calls, ProgressiveWireSink.call, called]
    rfl
  · have single : audioOf [(.audio window : SinkCall F)] = window := List.append_nil _
    rw [audioOf_windowCalls, same, single]
    rfl
  · rw [batchesOf_windowCalls]
    exact .nil

/-- A legal batch whose omitted anchors are early gets through. -/
theorem relayed_batch {progress : StreamProgress} {sink : ProgressiveWireSink}
    {collector : ProgressiveHelperCollector R F} {batch : List SynthesisMarker}
    {anchors : List ResolvedAnchor} (agree : Synchronized progress sink collector)
    (legal : LegalBatch runtime progress batch anchors)
    (early : (∃ anchor ∈ anchors, anchor.resolution = .omitted) →
      progress.frames = 0 ∧ progress.latest = 0) :
    ∃ sink' collector',
      Relayed runtime consumer progress [.markers batch anchors] sink collector sink'
        collector' := by
  obtain ⟨sequence, last, received, sinkHere, here, level, few⟩ := agree.agree
  have admitted := (legal.admitted_iff level).mpr early
  obtain ⟨sink', called, sinkThere, sent⟩ :=
    (markers_checked (F := F) sinkHere legal).1 admitted
  obtain ⟨collector', taken, there, delivered⟩ :=
    ProgressiveHelperCollector.accept_batch accepting here legal admitted
  obtain ⟨sameBatch, sameAnchors⟩ := split_wireMarkers legal.ordered legal.consistent
  have resolved := @split_wireMarkers_resolved batch _ legal.anchorsOrdered legal.consistent
  refine ⟨sink', collector', ?_,
    ⟨sequence, _, received, sinkThere, there, lastOffset_wireMarkers admitted level, few⟩,
    ⟨_, sent, fun more => ProgressiveHelperCollector.receive_cons taken more⟩,
    ⟨_, delivered, rfl, rfl, ?_⟩⟩
  · rw [ProgressiveWireSink.calls, ProgressiveWireSink.call, called]
    rfl
  · exact .cons ⟨rfl, sameBatch, sameAnchors, resolved⟩ .nil

omit accepting in
/-- Calls that get through one after the other get through together. -/
theorem Relayed.cons {progress : StreamProgress} {call : SinkCall F} {rest : List (SinkCall F)}
    {sink middle sink' : ProgressiveWireSink}
    {collector between collector' : ProgressiveHelperCollector R F}
    (first : Relayed runtime consumer progress [call] sink collector middle between)
    (later : Relayed runtime consumer (progress.next call) rest middle between sink' collector') :
    Relayed runtime consumer progress (call :: rest) sink collector sink' collector' := by
  have one : sink.call runtime call = (middle, .ok ()) := by
    have called := first.called
    rw [ProgressiveWireSink.calls] at called
    obtain ⟨_, _, same, rest⟩ := andThen_eq_ok.mp called
    cases rest
    exact same
  obtain ⟨frames, sent, taken⟩ := first.written
  obtain ⟨frames', sent', taken'⟩ := later.written
  obtain ⟨calls, delivered, starts, audio, batches⟩ := first.delivered
  obtain ⟨calls', delivered', starts', audio', batches'⟩ := later.delivered
  have length : progress.frames + (audioOf [call]).length = (progress.next call).frames := by
    cases call with
    | start start => rfl
    | audio window =>
        have single : audioOf [(.audio window : SinkCall F)] = window := List.append_nil _
        rw [single]
        rfl
    | markers batch anchors => rfl
  have split : audioOf (call :: rest) = audioOf [call] ++ audioOf rest :=
    @List.flatMap_append _ _ [call] _ _
  refine ⟨?_, later.agree, ⟨frames ++ frames', ?_, fun more => ?_⟩,
    ⟨calls ++ calls', ?_, ?_, ?_, ?_⟩⟩
  · rw [ProgressiveWireSink.calls, one]
    exact later.called
  · rw [sent', sent, List.append_assoc]
  · rw [List.append_assoc, taken, taken']
  · rw [delivered', delivered, List.append_assoc]
  · unfold startsOf at starts starts' ⊢
    rw [List.filterMap_append, starts, starts', List.append_nil]
  · have joined : audioOf (calls ++ calls') = audioOf calls ++ audioOf calls' :=
      List.flatMap_append
    rw [joined, audio, audio', split, List.map_append]
  · have whole := batchesOf_append progress.frames [call] rest
    rw [List.singleton_append, length] at whole
    have heard : (audioOf calls).length = (audioOf [call]).length := by
      rw [audio, List.length_map]
    rw [whole, batchesOf_append, heard, length]
    exact List.rel_append batches batches'

/-- **Legal calls with early omissions all get through.** -/
theorem relayed_script {progress : StreamProgress} {sink : ProgressiveWireSink}
    {collector : ProgressiveHelperCollector R F} {script : List (SinkCall F)}
    (agree : Synchronized progress sink collector)
    (legal : AdmittedAlong (LegalCall runtime) StreamProgress.next progress script)
    (early : AdmittedAlong OmittedAdmitted StreamProgress.next progress script) :
    ∃ sink' collector',
      Relayed runtime consumer progress script sink collector sink' collector' := by
  induction script generalizing progress sink collector with
  | nil =>
      exact ⟨sink, collector, rfl, agree, ⟨[], (List.append_nil _).symm, fun _ => rfl⟩,
        ⟨[], (List.append_nil _).symm, rfl, rfl, .nil⟩⟩
  | cons call rest ih =>
      obtain ⟨legalHere, legalLater⟩ := admittedAlong_cons.mp legal
      obtain ⟨earlyHere, earlyLater⟩ := admittedAlong_cons.mp early
      have first : ∃ middle between,
          Relayed runtime consumer progress [call] sink collector middle between := by
        cases call with
        | start start => exact legalHere.elim
        | audio window => exact relayed_window accepting agree legalHere
        | markers batch anchors => exact relayed_batch accepting agree legalHere earlyHere
      obtain ⟨middle, between, first⟩ := first
      obtain ⟨sink', collector', later⟩ := ih first.agree legalLater earlyLater
      exact ⟨sink', collector', first.cons later⟩

omit accepting in
/-- **A late omission is refused**, and no completion was written before. -/
theorem calls_refused {progress : StreamProgress} {sequence : Nat} {last : Option Nat}
    {sink : ProgressiveWireSink} {script : List (SinkCall F)}
    (here : sink.At progress sequence last) (level : last.getD 0 = progress.latest)
    (few : sequence ≤ progress.frames * channelCount)
    (unfinished : sink.Unfinished)
    (legal : AdmittedAlong (LegalCall runtime) StreamProgress.next progress script)
    (late : ¬ AdmittedAlong OmittedAdmitted StreamProgress.next progress script) :
    ∃ sink' e, sink.calls runtime script = (sink', .error e) ∧ sink'.started = true ∧
      sink'.Unfinished := by
  induction script generalizing progress sequence last sink with
  | nil => exact absurd (admittedAlong_nil _ _ _) late
  | cons call rest ih =>
      obtain ⟨legalHere, legalLater⟩ := admittedAlong_cons.mp legal
      rw [admittedAlong_cons] at late
      cases call with
      | start start => exact legalHere.elim
      | audio window =>
          have positive : 0 < samplesPerChunk := by decide
          have count := chunks_length_le positive (interleaved window)
          rw [interleaved_length] at count
          obtain ⟨middle, called, there, sent⟩ := audio_sent here legalHere few
          have still : middle.Unfinished := by
            intro frameCount member
            rw [sent] at member
            rcases List.mem_append.mp member with earlier | now
            · exact unfinished frameCount earlier
            · exact ProgressiveWireSink.chunkFrames_ne _ _ now frameCount rfl
          obtain ⟨sink', e, failed, started, still'⟩ := ih there level
            (by
              have grown : (progress.next (.audio window)).frames * channelCount =
                  progress.frames * channelCount + window.length * channelCount := Nat.add_mul _ _ _
              rw [grown]
              omega)
            still legalLater (fun early => late ⟨trivial, early⟩)
          refine ⟨sink', e, ?_, started, still'⟩
          rw [ProgressiveWireSink.calls, ProgressiveWireSink.call, called]
          exact failed
      | markers batch anchors =>
          have checked := markers_checked (F := F) here legalHere
          by_cases admitted : BatchAdmitted progress.frames last (wireMarkers batch anchors)
          · obtain ⟨middle, called, there, sent⟩ := checked.1 admitted
            have still : middle.Unfinished := by
              intro frameCount member
              rw [sent] at member
              rcases List.mem_append.mp member with earlier | now
              · exact unfinished frameCount earlier
              · cases List.mem_singleton.mp now
            obtain ⟨sink', e, failed, started, still'⟩ := ih there
              (lastOffset_wireMarkers admitted level) few still legalLater
              (fun early => late ⟨(legalHere.admitted_iff level).mp admitted, early⟩)
            refine ⟨sink', e, ?_, started, still'⟩
            rw [ProgressiveWireSink.calls, ProgressiveWireSink.call, called]
            exact failed
          · obtain ⟨sink', e, failed, started, sent⟩ := checked.2 admitted
            refine ⟨sink', e, ?_, started, ?_⟩
            · rw [ProgressiveWireSink.calls, ProgressiveWireSink.call, failed]
              rfl
            · intro frameCount
              rw [sent]
              exact unfinished frameCount

omit accepting in
theorem synthesized_start {voiceId : String} {start : SynthesisStreamStart}
    {script : List (SinkCall F)} {sink : ProgressiveWireSink}
    (started : (ProgressiveWireSink.new voiceId).start runtime start = (sink, .ok ())) :
    (ProgressiveWireSink.new voiceId).calls runtime (.start start :: script) =
      sink.calls runtime script := by
  rw [ProgressiveWireSink.calls, ProgressiveWireSink.call, started]
  rfl

omit accepting in
theorem writes_completion {progress : StreamProgress} {sequence : Nat} {last : Option Nat}
    {sink : ProgressiveWireSink} (here : sink.At progress sequence last)
    (covered : last.getD 0 ≤ progress.frames) :
    sink.complete runtime progress.frames = (sink, .ok ()) := by
  have within : (sink.lastMarkerOffset.any fun offset => offset > progress.frames) = false := by
    rw [here.last]
    cases last with
    | none => rfl
    | some offset => simpa using covered
  unfold ProgressiveWireSink.complete ProgressiveWireSink.ensureStarted
  rw [if_pos here.started, andThen_ok, if_neg (fun other => other here.frames.symm), within]
  rfl

/-- **Early omissions leave the boundary transparent.** -/
theorem transparent_of_early {voiceId : String} {start : SynthesisStreamStart}
    {script : List (SinkCall F)} {frameCount : Nat}
    (legal : LegalStream runtime consumer voiceId start script frameCount)
    (early : OmittedEarly script) :
    Transparent consumer start script
      (acrossBoundary runtime consumer voiceId start script frameCount) := by
  obtain ⟨sink, started, sinkHere, sent⟩ := ProgressiveWireSink.new_start legal
  obtain ⟨collector, taken, here, delivered⟩ :=
    ProgressiveHelperCollector.accept_start accepting legal
  have agree : Synchronized .start sink collector :=
    ⟨0, none, [], sinkHere, here, rfl, Nat.le_refl 0⟩
  obtain ⟨sink', collector', relayed⟩ := relayed_script accepting agree legal.calls early
  obtain ⟨sequence, last, received, sinkThere, there, level, _⟩ := relayed.agree.agree
  obtain ⟨frames, written, further⟩ := relayed.written
  obtain ⟨calls, heard, starts, audio, batches⟩ := relayed.delivered
  have covered : last.getD 0 ≤ (script.foldl StreamProgress.next .start).frames := by
    rw [level, ← legal.counted]
    exact legal.covered
  obtain ⟨final, completed, same⟩ :=
    @ProgressiveHelperCollector.accept_completion R F consumer _ _ _ _ _ _ _ there covered
  have output : (ProgressiveWireSink.progressiveSynthesisWorker runtime voiceId
      (.start start :: script) frameCount).sent =
      .synthesisStarted sampleRate channelCount voiceId ::
        (frames ++ [.synthesisCompleted frameCount]) := by
    unfold ProgressiveWireSink.progressiveSynthesisWorker
    rw [synthesized_start started, relayed.called]
    simp only [legal.counted, writes_completion sinkThere covered]
    unfold ProgressiveWireSink.finishSynthesis
    rw [ProgressiveWireSink.send_of_valid rfl (legal.counted ▸ legal.completionEncoded)]
    simp only [written, sent, List.cons_append, List.nil_append]
  have run : acrossBoundary runtime consumer voiceId start script frameCount =
      (final, .ok (some .completed)) := by
    unfold acrossBoundary
    rw [output, ProgressiveHelperCollector.receive_cons taken, further, legal.counted,
      ProgressiveHelperCollector.receive]
    simp only [completed]
  rw [run]
  have all : final.delivered =
      .start { start with degradedAcss := consumer.degradedAcss } :: calls := by
    rw [same, heard, delivered]
    rfl
  refine ⟨rfl, ?_, ?_, ?_⟩
  · rw [all]
    exact congrArg (_ :: ·) starts
  · rw [all]
    exact audio
  · rw [all]
    exact batches

omit accepting in
/-- **A late omission ends the synthesis in an error.** -/
theorem not_transparent_of_late {voiceId : String} {start : SynthesisStreamStart}
    {script : List (SinkCall F)} {frameCount : Nat}
    (legal : LegalStream runtime consumer voiceId start script frameCount)
    (late : ¬ OmittedEarly script) :
    ¬ Transparent consumer start script
      (acrossBoundary runtime consumer voiceId start script frameCount) := by
  intro transparent
  obtain ⟨sink, started, here, sent⟩ := ProgressiveWireSink.new_start legal
  have unfinished : sink.Unfinished := by
    intro count member
    rw [sent] at member
    cases List.mem_singleton.mp member
  obtain ⟨sink', e, failed, begun, unfinished'⟩ :=
    calls_refused here rfl (Nat.le_refl 0) unfinished legal.calls late
  have output : (ProgressiveWireSink.progressiveSynthesisWorker runtime voiceId
      (.start start :: script) frameCount).sent =
      (sink'.send runtime (errorResponseBody e)).1.sent := by
    unfold ProgressiveWireSink.progressiveSynthesisWorker
    rw [synthesized_start started, failed]
    simp only [ProgressiveWireSink.ensureStarted, begun, if_true]
    rfl
  obtain ⟨count, member⟩ := ProgressiveHelperCollector.completion_of_receive transparent.completed
  rw [output] at member
  exact ProgressiveWireSink.unfinished_send unfinished'
    (ProgressiveWireSink.errorResponseBody_ne e) count member

end Both

/-! ## The condition -/

/-- **The process boundary is transparent** for a legal stream exactly when every omitted
anchor comes before the first audio and before any frame beyond 0. -/
theorem process_boundary_transparent_iff {R F : Type} [PcmSample F] [Resampler R F]
    {runtime : HelperRuntime} {consumer : StreamConsumer R F}
    (accepting : ∀ earlier call, consumer.answer earlier call = .ok ())
    {voiceId : String} {start : SynthesisStreamStart} {script : List (SinkCall F)}
    {frameCount : Nat} (legal : LegalStream runtime consumer voiceId start script frameCount) :
    Transparent consumer start script
        (acrossBoundary runtime consumer voiceId start script frameCount) ↔
      OmittedEarly script := by
  constructor
  · intro transparent
    by_contra late
    exact not_transparent_of_late legal late transparent
  · exact transparent_of_early accepting legal

/-! ### One frame and one omitted anchor -/

/-- Audio at the canonical rate has no resampler. -/
instance : Resampler Empty ℚ where
  process resampler _ := resampler.elim
  processPartial resampler _ := resampler.elim

/-- A client that accepts everything. -/
def acceptingConsumer : StreamConsumer Empty ℚ where
  engineId := "eloquence"
  expectedVoiceId := some "reed"
  degradedAcss := []
  answer _ _ := .ok ()
  acquire _ := .error (.invalidFormat "no resampler")

/-- A helper, with the encoded sizes of the frames below. -/
def shortFrames : HelperRuntime where
  descriptorId := "eloquence"
  encodedBytes
    | .synthesisStarted _ _ _ => 162
    | .audioChunk _ _ => 106
    | .markers _ => 149
    | .synthesisCompleted _ => 82
    | _ => 200

def reedStart : SynthesisStreamStart := ⟨"eloquence", some ⟨"eloquence", "reed"⟩, []⟩

/-- An anchor that the engine could not place. -/
def omittedBell : SinkCall ℚ := .markers [] [⟨"bell", none, .omitted⟩]

def silentFrame : SinkCall ℚ := .audio [(0, 0)]

theorem legal_omittedBell {progress : StreamProgress}
    (few : progress.markers + (0 + 1) ≤ MAX_HELPER_MARKERS) :
    LegalCall shortFrames progress omittedBell where
  nonempty := .inr fun same => by cases same
  few := few
  ordered := .nil
  anchorsOrdered := .nil
  consistent _ member := by
    cases List.mem_singleton.mp member
    exact ⟨fun _ => rfl, fun _ => rfl⟩
  markersReach _ member := by cases member
  anchorsReach _ member _ held := by
    cases List.mem_singleton.mp member
    cases held
  values _ member := by cases member
  ids _ member := by
    cases List.mem_singleton.mp member
    decide
  encoded := show 149 ≤ MAX_HELPER_FRAME_BYTES by decide

theorem legal_silentFrame {progress : StreamProgress}
    (fits : (progress.frames + 1) * frameBytes ≤ MAX_HELPER_SYNTHESIS_BYTES) :
    LegalCall shortFrames progress silentFrame where
  nonempty := fun same => by cases same
  fits := fits
  encoded _ _ _ := show 106 ≤ MAX_HELPER_FRAME_BYTES by decide

/-- A short stream of legal calls is legal. -/
theorem legal_short {script : List (SinkCall ℚ)}
    (calls : AdmittedAlong (LegalCall shortFrames) StreamProgress.next .start script)
    (counted : 1 = (script.foldl StreamProgress.next .start).frames)
    (covered : (script.foldl StreamProgress.next .start).latest ≤ 1) :
    LegalStream shortFrames acceptingConsumer "reed" reedStart script 1 where
  engine := rfl
  consumerEngine := rfl
  voice := rfl
  expected _ held := by
    cases held
    rfl
  voiceBytes := by decide
  startEncoded := show 162 ≤ MAX_HELPER_FRAME_BYTES by decide
  calls := calls
  counted := counted
  covered := covered
  completionEncoded := show 82 ≤ MAX_HELPER_FRAME_BYTES by decide

theorem omitted_first_legal :
    LegalStream shortFrames acceptingConsumer "reed" reedStart [omittedBell, silentFrame] 1 :=
  legal_short
    (admittedAlong_cons.mpr ⟨legal_omittedBell (by decide),
      admittedAlong_cons.mpr ⟨legal_silentFrame (by decide), admittedAlong_nil _ _ _⟩⟩)
    rfl (by decide)

theorem omitted_first_transparent :
    Transparent acceptingConsumer reedStart [omittedBell, silentFrame]
      (acrossBoundary shortFrames acceptingConsumer "reed" reedStart
        [omittedBell, silentFrame] 1) :=
  (process_boundary_transparent_iff (fun _ _ => rfl) omitted_first_legal).mpr
    (admittedAlong_cons.mpr ⟨fun _ => ⟨rfl, rfl⟩,
      admittedAlong_cons.mpr ⟨trivial, admittedAlong_nil _ _ _⟩⟩)

/-- **The same anchor after the frame of audio ends the synthesis.** -/
theorem omitted_last_not_transparent :
    LegalStream shortFrames acceptingConsumer "reed" reedStart [silentFrame, omittedBell] 1 ∧
      ¬ Transparent acceptingConsumer reedStart [silentFrame, omittedBell]
        (acrossBoundary shortFrames acceptingConsumer "reed" reedStart
          [silentFrame, omittedBell] 1) := by
  have legal : LegalStream shortFrames acceptingConsumer "reed" reedStart
      [silentFrame, omittedBell] 1 :=
    legal_short
      (admittedAlong_cons.mpr ⟨legal_silentFrame (by decide),
        admittedAlong_cons.mpr ⟨legal_omittedBell (by decide), admittedAlong_nil _ _ _⟩⟩)
      rfl (by decide)
  refine ⟨legal, not_transparent_of_late legal fun early => ?_⟩
  obtain ⟨_, later⟩ := admittedAlong_cons.mp early
  obtain ⟨there, _⟩ := admittedAlong_cons.mp later
  obtain ⟨silent, _⟩ := there ⟨_, List.mem_singleton.mpr rfl, rfl⟩
  cases silent

end Omnivox.Helpers
