import Mathlib
import Omnivox.Foundations.Recognizers
import Omnivox.Helpers.ProcessBoundary

/-!
# What the sink of a progressive collector hears

Whatever a helper sends and whatever the sink answers: the sink hears what a sink that accepts
everything would, up to the first call that it refuses, and what becomes of the exchange is the
same. It hears one start, for the expected voice, then audio within the limits and batches of
markers (`sink_contract`).

A collector with a sink is a view of the collector with the sink that accepts everything
(`hearing`), and every step commutes with the view.
-/

set_option autoImplicit false

namespace Omnivox.Helpers

open Foundations Synthesis
open Audio (AudioBuffer AudioError ProgressivePcmCanonicalizer Resampler channelCount)
open Engines (AcssDimension PhysicalVoiceId)

variable {R F : Type}

/-- The same consumer with a sink that accepts every call. -/
def StreamConsumer.willing (consumer : StreamConsumer R F) : StreamConsumer R F :=
  { consumer with answer := fun _ _ => .ok () }

namespace ProgressiveHelperCollector

/-! ## The view -/

section

variable (consumer : StreamConsumer R F)

/-- The collector whose sink refuses calls, of the one whose sink accepts them. -/
def hearing (ideal : ProgressiveHelperCollector R F) : ProgressiveHelperCollector R F :=
  let heard := heardOf consumer.answer ideal.delivered
  { ideal with
    delivered := heard.1
    consumerStopped := heard.2.isSome
    consumerError := heard.2 }

/-- The sink accepted everything, and nothing came before the start. -/
structure Unrefused (ideal : ProgressiveHelperCollector R F) : Prop where
  accepts : ideal.consumerStopped = false
  silent : ideal.phase = .awaitingStart → ideal.delivered = []

/-- A step of the one collector is the view of a step of the other. -/
structure Echoes {α : Type} (outcome ideal : Collected R F α) : Prop where
  view : outcome = (hearing consumer ideal.1, ideal.2)
  unrefused : ideal.1.Unrefused

end

variable {consumer : StreamConsumer R F} {ideal : ProgressiveHelperCollector R F} {α : Type}

/-- A step that calls no sink. -/
theorem Echoes.same (unrefused : ideal.Unrefused) (answer : Except HelperEngineError α) :
    Echoes consumer (hearing consumer ideal, answer) (ideal, answer) := ⟨rfl, unrefused⟩

theorem callUnlessStopped_willing (unrefused : ideal.Unrefused) (call : SinkCall F) :
    ideal.callUnlessStopped consumer.willing call =
      { ideal with delivered := ideal.delivered ++ [call] } := by
  rw [callUnlessStopped, if_neg (by rw [unrefused.accepts]; decide)]
  rfl

/-- **A call that is offered** is heard unless one was refused before. -/
theorem callUnlessStopped_echoes (consumer : StreamConsumer R F) (unrefused : ideal.Unrefused)
    (call : SinkCall F) :
    (hearing consumer ideal).callUnlessStopped consumer call =
      hearing consumer (ideal.callUnlessStopped consumer.willing call) := by
  rw [callUnlessStopped_willing unrefused]
  simp only [hearing, heardOf_concat]
  rcases heardOf consumer.answer ideal.delivered with ⟨heard, failure⟩
  cases failure with
  | some e => rfl
  | none =>
      simp only [callUnlessStopped, callSink, hear, Option.isSome_none, Bool.false_eq_true,
        ↓reduceIte]
      cases consumer.answer heard call <;> rfl

theorem unrefused_call (consumer : StreamConsumer R F) (unrefused : ideal.Unrefused)
    (begun : ideal.phase ≠ .awaitingStart) (call : SinkCall F) :
    (ideal.callUnlessStopped consumer.willing call).Unrefused := by
  rw [callUnlessStopped_willing unrefused]
  exact ⟨unrefused.accepts, fun waiting => absurd waiting begun⟩

theorem call_echoes {collector : ProgressiveHelperCollector R F}
    (view : collector = hearing consumer ideal) (unrefused : ideal.Unrefused)
    (begun : ideal.phase ≠ .awaitingStart) (call : SinkCall F)
    (answer : Except HelperEngineError α) :
    Echoes consumer (collector.callUnlessStopped consumer call, answer)
      (ideal.callUnlessStopped consumer.willing call, answer) := by
  subst view
  rw [callUnlessStopped_echoes consumer unrefused]
  exact ⟨rfl, unrefused_call consumer unrefused begun call⟩

theorem callSink_eq {collector : ProgressiveHelperCollector R F}
    (listening : collector.consumerStopped = false) (call : SinkCall F) :
    collector.callSink consumer call = collector.callUnlessStopped consumer call := by
  rw [callUnlessStopped, if_neg (by rw [listening]; exact Bool.false_ne_true)]

/-- A step behind a step. -/
theorem Echoes.andThen {β : Type} {outcome ideal : Collected R F α}
    {next : ProgressiveHelperCollector R F → α → Collected R F β}
    {next' : ProgressiveHelperCollector R F → α → Collected R F β}
    (first : Echoes consumer outcome ideal)
    (rest : ∀ a, ideal.1.Unrefused →
      Echoes consumer (next (hearing consumer ideal.1) a) (next' ideal.1 a)) :
    Echoes consumer (Foundations.andThen outcome next) (Foundations.andThen ideal next') := by
  obtain ⟨state, answer⟩ := ideal
  obtain ⟨rfl, unrefused⟩ := first
  cases answer with
  | ok a => exact rest a unrefused
  | error e => exact .same unrefused _

/-! ## Steps of the view -/

/-- **Converted audio** is offered window by window. -/
theorem forwardAudio_echoes {collector : ProgressiveHelperCollector R F}
    (view : collector = hearing consumer ideal) (unrefused : ideal.Unrefused)
    (begun : ideal.phase ≠ .awaitingStart) (windows : List (AudioBuffer F)) :
    Echoes consumer (collector.forwardAudio consumer windows)
      (ideal.forwardAudio consumer.willing windows) := by
  subst view
  induction windows generalizing ideal with
  | nil => exact .same unrefused _
  | cons window rest ih =>
      unfold forwardAudio
      split
      · exact .same unrefused _
      · have bytes : (hearing consumer ideal).canonicalPcmBytes = ideal.canonicalPcmBytes := rfl
        rw [bytes]
        split
        · exact .same unrefused _
        · have frames : (hearing consumer ideal).frameCount = ideal.frameCount := rfl
          dsimp only
          rw [frames]
          split
          · exact ⟨rfl, unrefused.accepts, unrefused.silent⟩
          · rename_i canonicalPcmBytes _ _ frameCount _
            have counted : Unrefused { ideal with
                canonicalPcmBytes := canonicalPcmBytes, frameCount := frameCount } :=
              ⟨unrefused.accepts, unrefused.silent⟩
            have echo := callUnlessStopped_echoes consumer counted (.audio window)
            have later := ih (unrefused_call consumer counted begun (.audio window)) ?_
            · rw [← echo] at later
              exact later
            · rw [callUnlessStopped_willing counted]
              exact begun

theorem callUnlessStopped_phase (collector : ProgressiveHelperCollector R F) (call : SinkCall F) :
    (collector.callUnlessStopped consumer call).phase = collector.phase := by
  unfold callUnlessStopped callSink
  split
  · rfl
  · dsimp only
    split <;> rfl

theorem acceptStarted_echoes (unrefused : ideal.Unrefused) (waiting : ideal.phase = .awaitingStart)
    (sampleRate channels : Nat) (actualVoiceId : String) :
    Echoes consumer
      ((hearing consumer ideal).acceptStarted consumer sampleRate channels actualVoiceId)
      (ideal.acceptStarted consumer.willing sampleRate channels actualVoiceId) := by
  simp only [acceptStarted, StreamConsumer.willing]
  cases checkActualVoice consumer.expectedVoiceId actualVoiceId with
  | error e => exact .same unrefused _
  | ok expected =>
      cases ProgressivePcmCanonicalizer.new sampleRate channels (consumer.acquire sampleRate) with
      | error e => exact .same unrefused _
      | ok canonicalizer =>
          generalize opening : ({ ideal with
            channels := channels
            canonicalizer := some canonicalizer
            phase := .streamingAudio } : ProgressiveHelperCollector R F) = opened
          have begun : opened.Unrefused := by
            rw [← opening]
            exact ⟨unrefused.accepts, fun later => by cases later⟩
          have silent : (hearing consumer opened).consumerStopped = false := by
            rw [← opening]
            simp only [hearing, unrefused.silent waiting]
            rfl
          have echo := callUnlessStopped_echoes consumer begun (.start {
            engineId := consumer.engineId
            actualVoice := some ⟨consumer.engineId, actualVoiceId⟩
            degradedAcss := consumer.degradedAcss })
          have streaming : opened.phase ≠ .awaitingStart := by
            rw [← opening]
            exact fun later => by cases later
          have after := unrefused_call consumer begun streaming (.start {
            engineId := consumer.engineId
            actualVoice := some ⟨consumer.engineId, actualVoiceId⟩
            degradedAcss := consumer.degradedAcss })
          rw [← callSink_eq begun.accepts] at echo after
          rw [← callSink_eq silent] at echo
          subst opening
          exact ⟨congrArg (fun collector => (collector, _)) echo, after⟩

variable [PcmSample F] [Resampler R F]

theorem acceptAudio_echoes (unrefused : ideal.Unrefused) (streaming : ideal.phase = .streamingAudio)
    (sequence : Nat) (samples : List Int16) :
    Echoes consumer ((hearing consumer ideal).acceptAudio consumer sequence samples)
      (ideal.acceptAudio consumer.willing sequence samples) := by
  unfold acceptAudio
  have next : (hearing consumer ideal).nextSequence = ideal.nextSequence := rfl
  have channels : (hearing consumer ideal).channels = ideal.channels := rfl
  have bytes : (hearing consumer ideal).pcmBytes = ideal.pcmBytes := rfl
  have frames : (hearing consumer ideal).sourceFrameCount = ideal.sourceFrameCount := rfl
  have canonicalizer : (hearing consumer ideal).canonicalizer = ideal.canonicalizer := rfl
  rw [next, channels, bytes]
  split
  · exact .same unrefused _
  · split
    · exact .same unrefused _
    · split
      · exact .same unrefused _
      · dsimp only
        rw [frames]
        split
        · exact ⟨rfl, unrefused.accepts, unrefused.silent⟩
        · rw [canonicalizer]
          split
          · exact ⟨rfl, unrefused.accepts, unrefused.silent⟩
          · split
            · exact ⟨rfl, unrefused.accepts, unrefused.silent⟩
            · refine .andThen ?_ fun done unrefused => ?_
              · refine forwardAudio_echoes ?_ ?_ ?_ _
                · rfl
                · exact ⟨unrefused.accepts, unrefused.silent⟩
                · exact streaming.trans_ne SynthesisPhase.noConfusion
              · generalize (forwardAudio consumer.willing _ _).1 = ideal at unrefused ⊢
                have next : (hearing consumer ideal).nextSequence = ideal.nextSequence := rfl
                rw [next]
                split
                · exact .same unrefused _
                · exact ⟨rfl, unrefused.accepts, unrefused.silent⟩

omit [PcmSample F] [Resampler R F] in
theorem acceptMarkers_echoes (unrefused : ideal.Unrefused)
    (streaming : ideal.phase = .streamingAudio) (batch : List HelperMarker) :
    Echoes consumer ((hearing consumer ideal).acceptMarkers consumer batch)
      (ideal.acceptMarkers consumer.willing batch) := by
  unfold acceptMarkers
  have markers : (hearing consumer ideal).markerCount = ideal.markerCount := rfl
  have frames : (hearing consumer ideal).sourceFrameCount = ideal.sourceFrameCount := rfl
  have last : (hearing consumer ideal).lastMarkerOffset = ideal.lastMarkerOffset := rfl
  have canonicalizer : (hearing consumer ideal).canonicalizer = ideal.canonicalizer := rfl
  rw [markers, frames, last, canonicalizer]
  split
  · exact .same unrefused _
  · dsimp only
    split
    · exact ⟨rfl, unrefused.accepts, unrefused.silent⟩
    · split
      · exact ⟨rfl, unrefused.accepts, unrefused.silent⟩
      · split
        · exact ⟨rfl, unrefused.accepts, unrefused.silent⟩
        · refine call_echoes ?_ ?_ ?_ _ _
          · rfl
          · exact ⟨unrefused.accepts, unrefused.silent⟩
          · exact streaming.trans_ne SynthesisPhase.noConfusion

omit [PcmSample F] in
theorem acceptCompleted_echoes (unrefused : ideal.Unrefused)
    (streaming : ideal.phase = .streamingAudio) (frameCount : Nat) :
    Echoes consumer ((hearing consumer ideal).acceptCompleted consumer frameCount)
      (ideal.acceptCompleted consumer.willing frameCount) := by
  unfold acceptCompleted
  have frames : (hearing consumer ideal).sourceFrameCount = ideal.sourceFrameCount := rfl
  have last : (hearing consumer ideal).lastMarkerOffset = ideal.lastMarkerOffset := rfl
  have canonicalizer : (hearing consumer ideal).canonicalizer = ideal.canonicalizer := rfl
  rw [frames, last, canonicalizer]
  split
  · exact .same unrefused _
  · split
    · exact .same unrefused _
    · split
      · exact .same unrefused _
      · dsimp only
        split
        · exact ⟨rfl, unrefused.accepts, unrefused.silent⟩
        · refine .andThen ?_ fun done unrefused => ?_
          · refine forwardAudio_echoes ?_ ?_ ?_ _
            · rfl
            · exact ⟨unrefused.accepts, unrefused.silent⟩
            · exact streaming.trans_ne SynthesisPhase.noConfusion
          · exact ⟨rfl, unrefused.accepts, fun later => by cases later⟩

/-- **Every step commutes with the view.** -/
theorem accept_echoes (unrefused : ideal.Unrefused) (body : HelperResponseBody) :
    Echoes consumer ((hearing consumer ideal).accept consumer body)
      (ideal.accept consumer.willing body) := by
  unfold accept
  have phase : (hearing consumer ideal).phase = ideal.phase := rfl
  split
  · exact .same unrefused _
  · rw [phase]
    split
    · exact .same unrefused _
    · cases body with
      | synthesisStarted sampleRate channels actualVoiceId =>
          dsimp only
          split
          · rename_i waiting
            exact acceptStarted_echoes unrefused waiting _ _ _
          · exact .same unrefused _
      | audioChunk sequence samples =>
          dsimp only
          split
          · rename_i streaming
            exact acceptAudio_echoes unrefused streaming _ _
          · exact .same unrefused _
      | markers batch =>
          dsimp only
          split
          · rename_i streaming
            exact acceptMarkers_echoes unrefused streaming _
          · exact .same unrefused _
      | synthesisCompleted frameCount =>
          dsimp only
          split
          · rename_i streaming
            exact acceptCompleted_echoes unrefused streaming _
          · exact .same unrefused _
      | synthesisCancelled => exact ⟨rfl, unrefused.accepts, fun later => by cases later⟩
      | error code message retryable =>
          exact ⟨rfl, unrefused.accepts, fun later => by cases later⟩
      | other kind => exact .same unrefused _

/-- **Every run commutes with the view.** -/
theorem receive_echoes (unrefused : ideal.Unrefused) (bodies : List HelperResponseBody) :
    Echoes consumer ((hearing consumer ideal).receive consumer bodies)
      (ideal.receive consumer.willing bodies) := by
  induction bodies generalizing ideal with
  | nil => exact .same unrefused _
  | cons body rest ih =>
      obtain ⟨view, unrefused⟩ :
          Echoes consumer ((hearing consumer ideal).accept consumer body)
            (ideal.accept consumer.willing body) := accept_echoes unrefused body
      unfold receive
      rw [view]
      generalize ideal.accept consumer.willing body = taken at unrefused ⊢
      rcases taken with ⟨next, e | result⟩
      · exact .same unrefused _
      · cases result with
        | none => exact ih unrefused
        | some result => exact .same unrefused _

end ProgressiveHelperCollector

/-! ## What is offered -/

/-- The markers and anchors of a call. -/
def SinkCall.markerCount : SinkCall F → Nat
  | .markers batch anchors => batch.length + anchors.length
  | _ => 0

def markersIn (calls : List (SinkCall F)) : Nat := (calls.map SinkCall.markerCount).sum

/-- One start, for the engine and the voice that the consumer expects, and no other. -/
def OpensWithStart (consumer : StreamConsumer R F) (calls : List (SinkCall F)) : Prop :=
  ∃ voiceId rest,
    calls = .start {
      engineId := consumer.engineId
      actualVoice := some ⟨consumer.engineId, voiceId⟩
      degradedAcss := consumer.degradedAcss } :: rest ∧
    startsOf rest = [] ∧ ∀ expected ∈ consumer.expectedVoiceId, expected = voiceId

/-- **What a sink is offered**: nothing, or a start and then audio and markers, within the
limits of a synthesis. -/
structure LawfulOffer (consumer : StreamConsumer R F) (calls : List (SinkCall F)) : Prop where
  opening : calls = [] ∨ OpensWithStart consumer calls
  audio : (audioOf calls).length * frameBytes ≤ MAX_HELPER_SYNTHESIS_BYTES
  markers : markersIn calls ≤ MAX_HELPER_MARKERS

theorem audioOf_concat (calls : List (SinkCall F)) (call : SinkCall F) :
    audioOf (calls ++ [call]) = audioOf calls ++ audioOf [call] :=
  List.flatMap_append

theorem markersIn_concat (calls : List (SinkCall F)) (call : SinkCall F) :
    markersIn (calls ++ [call]) = markersIn calls + call.markerCount := by
  rw [markersIn, List.map_append, List.sum_append]
  rfl

theorem OpensWithStart.concat {consumer : StreamConsumer R F} {calls : List (SinkCall F)}
    {call : SinkCall F} (opens : OpensWithStart consumer calls) (plain : startsOf [call] = []) :
    OpensWithStart consumer (calls ++ [call]) := by
  obtain ⟨voiceId, rest, rfl, silent, expected⟩ := opens
  refine ⟨voiceId, rest ++ [call], rfl, ?_, expected⟩
  rw [startsOf, List.filterMap_append]
  exact List.append_eq_nil_iff.mpr ⟨silent, plain⟩

/-- Every item of a batch is a marker or an anchor. -/
theorem splitHelperMarkers_length (batch : List HelperMarker) :
    (splitHelperMarkers batch).1.length + (splitHelperMarkers batch).2.length ≤ batch.length := by
  induction batch with
  | nil => exact le_rfl
  | cons marker rest ih =>
      simp only [splitHelperMarkers, List.filterMap_cons, List.length_cons] at ih ⊢
      cases kind : marker.kind <;>
        simp [HelperMarker.toMarker, HelperMarker.toAnchor, HelperMarkerKind.toSynthesis, kind] <;>
        omega

theorem canonicalMarkers_length {sampleRate : Nat} {batch canonical : List HelperMarker}
    (converted : ProgressiveHelperCollector.canonicalMarkers sampleRate batch = .ok canonical) :
    canonical.length = batch.length :=
  (mapM_eq_ok.mp converted).length_eq.symm

namespace ProgressiveHelperCollector

variable {consumer : StreamConsumer R F} {collector : ProgressiveHelperCollector R F}

/-- What is counted covers what was offered. -/
structure Counted (consumer : StreamConsumer R F) (phase : SynthesisPhase)
    (calls : List (SinkCall F)) (canonicalPcmBytes markerCount : Nat) : Prop where
  opening : calls = [] ∨ OpensWithStart consumer calls
  waiting : phase = .awaitingStart → calls = []
  streaming : phase = .streamingAudio → OpensWithStart consumer calls
  audio : (audioOf calls).length * frameBytes ≤ canonicalPcmBytes
  bytes : canonicalPcmBytes ≤ MAX_HELPER_SYNTHESIS_BYTES
  markers : markersIn calls ≤ markerCount
  few : markerCount ≤ MAX_HELPER_MARKERS

/-- What a collector counts covers what its sink has received. -/
def Covers (consumer : StreamConsumer R F) (collector : ProgressiveHelperCollector R F) : Prop :=
  Counted consumer collector.phase collector.delivered collector.canonicalPcmBytes
    collector.markerCount

theorem Covers.lawful (covers : Covers consumer collector) :
    LawfulOffer consumer collector.delivered :=
  ⟨covers.opening, covers.audio.trans covers.bytes, covers.markers.trans covers.few⟩

/-- A call reaches the sink. -/
theorem callSink_fields (consumer : StreamConsumer R F)
    (collector : ProgressiveHelperCollector R F) (call : SinkCall F) :
    ∃ stopped error, collector.callSink consumer call =
      { collector with
        delivered := collector.delivered ++ [call]
        consumerStopped := stopped
        consumerError := error } := by
  unfold callSink
  dsimp only
  split <;> exact ⟨_, _, rfl⟩

/-- A call behind the start, of what was counted. -/
theorem Covers.call (covers : Covers consumer collector) {call : SinkCall F}
    (streaming : collector.phase = .streamingAudio) (plain : startsOf [call] = [])
    (audio : ((audioOf collector.delivered).length + (audioOf [call]).length) * frameBytes ≤
      collector.canonicalPcmBytes)
    (markers : markersIn collector.delivered + call.markerCount ≤ collector.markerCount) :
    Covers consumer (collector.callUnlessStopped consumer call) := by
  unfold callUnlessStopped
  split
  · exact covers
  · obtain ⟨stopped, error, same⟩ := callSink_fields consumer collector call
    have opens := (covers.streaming streaming).concat plain
    rw [same]
    refine ⟨.inr opens, fun waiting => ?_, fun _ => opens, ?_, covers.bytes, ?_, covers.few⟩
    · cases streaming.symm.trans waiting
    · rw [audioOf_concat, List.length_append]
      exact audio
    · rw [markersIn_concat]
      exact markers

theorem forwardAudio_covers (covers : Covers consumer collector)
    (streaming : collector.phase = .streamingAudio) (windows : List (AudioBuffer F)) :
    Covers consumer (collector.forwardAudio consumer windows).1 := by
  induction windows generalizing collector with
  | nil => exact covers
  | cons window rest ih =>
      unfold forwardAudio
      split
      · exact covers
      · rename_i bytes measured
        split
        · exact covers
        · rename_i canonicalPcmBytes counted
          obtain ⟨samples, first, second⟩ := Option.bind_eq_some_iff.mp measured
          obtain ⟨rfl, _⟩ := checkedMul_eq_some.mp first
          obtain ⟨rfl, _⟩ := checkedMul_eq_some.mp second
          obtain ⟨total, small⟩ := Option.filter_eq_some_iff.mp counted
          obtain ⟨rfl, _⟩ := checkedAdd_eq_some.mp total
          have grown : Counted consumer collector.phase collector.delivered
              (collector.canonicalPcmBytes + window.length * channelCount * sampleBytes)
              collector.markerCount :=
            { covers with
              audio := covers.audio.trans (Nat.le_add_right _ _)
              bytes := of_decide_eq_true small }
          dsimp only
          split
          · exact grown
          · refine ih (Covers.call ?_ streaming ?_ ?_ ?_) ?_
            · exact grown
            · rfl
            · have single : audioOf [(.audio window : SinkCall F)] = window := List.append_nil _
              rw [single, Nat.add_mul]
              refine Nat.add_le_add covers.audio (le_of_eq ?_)
              rw [frameBytes, Nat.mul_assoc]
            · exact covers.markers
            · rw [callUnlessStopped_phase]
              exact streaming

theorem acceptStarted_covers (covers : Covers consumer collector)
    (waiting : collector.phase = .awaitingStart) (sampleRate channels : Nat)
    (actualVoiceId : String) :
    Covers consumer (collector.acceptStarted consumer sampleRate channels actualVoiceId).1 := by
  have nothing := covers.waiting waiting
  unfold acceptStarted
  split
  · exact covers
  · rename_i expected
    split
    · exact covers
    · have opens : OpensWithStart consumer [.start {
          engineId := consumer.engineId
          actualVoice := some ⟨consumer.engineId, actualVoiceId⟩
          degradedAcss := consumer.degradedAcss }] := by
        refine ⟨actualVoiceId, [], rfl, rfl, fun voice there => ?_⟩
        unfold checkActualVoice at expected
        rw [Option.mem_def.mp there] at expected
        exact (of_decide_eq_true (ensure_eq_ok.mp expected)).symm
      dsimp only
      obtain ⟨stopped, error, same⟩ := callSink_fields consumer { collector with
          channels := channels
          canonicalizer := some _
          phase := .streamingAudio } (.start {
            engineId := consumer.engineId
            actualVoice := some ⟨consumer.engineId, actualVoiceId⟩
            degradedAcss := consumer.degradedAcss })
      rw [same]
      unfold Covers
      dsimp only
      rw [nothing]
      exact {
        opening := .inr opens
        waiting := fun later => by cases later
        streaming := fun _ => opens
        audio := Nat.zero_le _
        bytes := covers.bytes
        markers := Nat.zero_le _
        few := covers.few }

variable [PcmSample F] [Resampler R F]

theorem acceptAudio_covers (covers : Covers consumer collector)
    (streaming : collector.phase = .streamingAudio) (sequence : Nat) (samples : List Int16) :
    Covers consumer (collector.acceptAudio consumer sequence samples).1 := by
  unfold acceptAudio
  split
  · exact covers
  · split
    · exact covers
    · split
      · exact covers
      · dsimp only
        split
        · exact covers
        · split
          · exact covers
          · split
            · exact covers
            · refine andThen_preserves ?_ fun next done forwarded => ?_
              · refine forwardAudio_covers ?_ ?_ _
                · exact covers
                · exact streaming
              · split <;> exact forwarded

omit [PcmSample F] [Resampler R F] in
theorem acceptMarkers_covers (covers : Covers consumer collector)
    (streaming : collector.phase = .streamingAudio) (batch : List HelperMarker) :
    Covers consumer (collector.acceptMarkers consumer batch).1 := by
  unfold acceptMarkers
  split
  · exact covers
  · rename_i markerCount counted
    obtain ⟨total, small⟩ := Option.filter_eq_some_iff.mp counted
    obtain ⟨rfl, _⟩ := checkedAdd_eq_some.mp total
    have grown : Counted consumer collector.phase collector.delivered collector.canonicalPcmBytes
        (collector.markerCount + batch.length) :=
      { covers with
        markers := covers.markers.trans (Nat.le_add_right _ _)
        few := of_decide_eq_true small }
    dsimp only
    split
    · exact grown
    · split
      · exact grown
      · split
        · exact grown
        · rename_i canonical converted
          refine Covers.call ?_ streaming ?_ ?_ ?_
          · exact grown
          · rfl
          · exact covers.audio
          · refine Nat.add_le_add covers.markers ((splitHelperMarkers_length _).trans ?_)
            exact (canonicalMarkers_length converted).le

omit [PcmSample F] in
theorem acceptCompleted_covers (covers : Covers consumer collector)
    (streaming : collector.phase = .streamingAudio) (frameCount : Nat) :
    Covers consumer (collector.acceptCompleted consumer frameCount).1 := by
  unfold acceptCompleted
  split
  · exact covers
  · split
    · exact covers
    · split
      · exact covers
      · dsimp only
        split
        · exact covers
        · refine andThen_preserves ?_ fun next done forwarded => ?_
          · refine forwardAudio_covers ?_ ?_ _
            · exact covers
            · exact streaming
          · exact { forwarded with
              waiting := fun later => by cases later
              streaming := fun later => by cases later }

theorem accept_covers (covers : Covers consumer collector) (body : HelperResponseBody) :
    Covers consumer (collector.accept consumer body).1 := by
  have ended : Counted consumer .terminal collector.delivered collector.canonicalPcmBytes
      collector.markerCount :=
    { covers with
      waiting := fun later => by cases later
      streaming := fun later => by cases later }
  unfold accept
  split
  · exact covers
  · split
    · exact covers
    · split
      · split
        · rename_i waiting
          exact acceptStarted_covers covers waiting _ _ _
        · exact covers
      · split
        · rename_i streaming
          exact acceptAudio_covers covers streaming _ _
        · exact covers
      · split
        · rename_i streaming
          exact acceptMarkers_covers covers streaming _
        · exact covers
      · split
        · rename_i streaming
          exact acceptCompleted_covers covers streaming _
        · exact covers
      · exact ended
      · exact ended
      · exact covers

theorem receive_covers (covers : Covers consumer collector) (bodies : List HelperResponseBody) :
    Covers consumer (collector.receive consumer bodies).1 := by
  induction bodies generalizing collector with
  | nil => exact covers
  | cons body rest ih =>
      have step := accept_covers covers body
      unfold receive
      generalize collector.accept consumer body = taken at step ⊢
      rcases taken with ⟨next, e | result⟩
      · exact step
      · cases result with
        | none => exact ih step
        | some result => exact step

omit [PcmSample F] [Resampler R F] in
theorem covers_new : Covers consumer (.new : ProgressiveHelperCollector R F) where
  opening := .inl rfl
  waiting _ := rfl
  streaming later := by cases later
  audio := Nat.zero_le _
  bytes := Nat.zero_le _
  markers := Nat.zero_le _
  few := Nat.zero_le _

end ProgressiveHelperCollector

/-- **The contract of the sink.** Whatever frames a helper sends, the sink is called with what a
sink would be that accepts everything, up to the first call that it refuses, and the collector
keeps that refusal and no other. The result of the exchange does not depend on the sink. What
a sink is offered is one start, for the engine and the expected voice, and then audio and
markers within the limits. -/
theorem sink_contract [PcmSample F] [Resampler R F] (consumer : StreamConsumer R F)
    (bodies : List HelperResponseBody) :
    let run := ProgressiveHelperCollector.receive consumer .new bodies
    let willing := ProgressiveHelperCollector.receive consumer.willing .new bodies
    run.2 = willing.2 ∧
      Heard consumer.answer willing.1.delivered run.1.delivered run.1.consumerError ∧
      run.1.consumerStopped = run.1.consumerError.isSome ∧
      LawfulOffer consumer willing.1.delivered := by
  intro run willing
  have fresh : (ProgressiveHelperCollector.new : ProgressiveHelperCollector R F).Unrefused :=
    ⟨rfl, fun _ => rfl⟩
  have echo : run = (willing.1.hearing consumer, willing.2) :=
    (ProgressiveHelperCollector.receive_echoes fresh bodies).view
  rw [echo]
  refine ⟨rfl, heard_heardOf _, rfl, ?_⟩
  have start : ProgressiveHelperCollector.Covers consumer.willing
      (.new : ProgressiveHelperCollector R F) := ProgressiveHelperCollector.covers_new
  have offer := (ProgressiveHelperCollector.receive_covers start bodies).lawful
  exact ⟨offer.opening, offer.audio, offer.markers⟩

end Omnivox.Helpers
