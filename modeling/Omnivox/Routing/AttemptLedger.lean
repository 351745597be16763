import Mathlib
import Omnivox.Routing.Attempts
import Omnivox.Routing.Retries

/-!
# The ledger of attempts

A ledger reads what the attempts for one chunk exchange with the outside, and says what may
follow (`AttemptLedger.allows`): a bounded number of engine calls, all with the same text, none
to a target that failed, none after output was committed or a parameter refused; one start of
playback before all else that is played, and everything played as the engine of the latest call
emitted it; one settlement for each permit, under the same engine.

Every run of the progressive loop is accepted by its ledger and ends without a held probe
(`fallback_never_splices`).
-/

set_option autoImplicit false

namespace Omnivox.Routing

open Engines Foundations Synthesis
open Audio (AudioBuffer)

/-- What has been exchanged so far. -/
structure AttemptLedger (F Application : Type) where
  calls : Nat
  /-- The voice of the latest call, and what its engine has emitted. -/
  current : Option PhysicalVoiceId
  emitted : List (Callback F Application)
  /-- The permit held, until it is settled. -/
  permit : Option (String × EnginePermit)
  committed : Bool
  failedEngines : List String
  failedVoices : List PhysicalVoiceId
  refused : Bool

namespace AttemptLedger

variable {Engine F Parameters Application : Type}

def new : AttemptLedger F Application where
  calls := 0
  current := none
  emitted := []
  permit := none
  committed := false
  failedEngines := []
  failedVoices := []
  refused := false

def held (engineId : String) : EngineAccess → Option (String × EnginePermit)
  | .permit permit => some (engineId, permit)
  | .denied _ => none

/-- A call to an engine. -/
def called (ledger : AttemptLedger F Application) (request : SynthesisRequest) :
    AttemptLedger F Application :=
  { ledger with calls := ledger.calls + 1, current := request.requestedVoice, emitted := [] }

/-- A failure of a voice or its engine. -/
def fail (ledger : AttemptLedger F Application) (realized : PhysicalVoiceId) :
    TtsError → AttemptLedger F Application
  | .synthesisFailed _ | .notAvailable =>
      { ledger with failedEngines := realized.engineId :: ledger.failedEngines }
  | .voiceNotFound _ => { ledger with failedVoices := realized :: ledger.failedVoices }
  | .invalidParameter _ => { ledger with refused := true }

/-- What the engine of the latest call answered. -/
def answered {α : Type} (ledger : AttemptLedger F Application) (answer : Except TtsError α) :
    AttemptLedger F Application :=
  match ledger.current, answer with
  | some realized, .error error => ledger.fail realized error
  | _, _ => ledger

def next (ledger : AttemptLedger F Application) :
    Exchange (Query Engine F Parameters Application) Query.Answer → AttemptLedger F Application
  | ⟨.acquire engineId, access⟩ => { ledger with permit := held engineId access }
  | ⟨.recordSuccess _ _, _⟩ => { ledger with permit := none }
  | ⟨.recordFailure _ _, _⟩ => { ledger with permit := none }
  | ⟨.releaseProbe _, _⟩ => { ledger with permit := none }
  | ⟨.synthesize _ request, answer⟩ => (ledger.called request).answered answer
  | ⟨.synthesizeWithParameters _ request _, answer⟩ => (ledger.called request).answered answer
  | ⟨.synthesizeStream _ request _, _⟩ => ledger.called request
  | ⟨.emitted callback, _⟩ => { ledger with emitted := callback :: ledger.emitted }
  | ⟨.returned answer, _⟩ => ledger.answered answer
  | ⟨.startAttempt _ _, _⟩ => { ledger with committed := true }
  | ⟨.attemptFailed realized _ error, _⟩ => ledger.fail realized error
  | _ => ledger

theorem answered_ok {α : Type} {ledger : AttemptLedger F Application} (result : α) :
    ledger.answered (.ok result) = ledger := by
  rw [answered]
  intro realized error _ failed
  cases failed

theorem answered_error {α : Type} {ledger : AttemptLedger F Application}
    {realized : PhysicalVoiceId} {error : TtsError} (current : ledger.current = some realized) :
    ledger.answered (.error error : Except TtsError α) = ledger.fail realized error := by
  simp only [answered, current]

/-- No recovery probe is held. -/
def NoProbe (ledger : AttemptLedger F Application) : Prop :=
  ∀ engineId, ledger.permit ≠ some (engineId, .recoveryProbe)

/-- Another engine call may follow: with the same text, for a target that has not failed. -/
structure MayCall (chunk : List Char) (anchors : List RequestedAnchor)
    (ledger : AttemptLedger F Application) (request : SynthesisRequest) : Prop where
  bounded : ledger.calls < MAX_RUNTIME_SYNTHESIS_ATTEMPTS
  same_text : request.text = chunk
  same_anchors : request.anchors = anchors
  uncommitted : ledger.committed = false
  not_refused : ledger.refused = false
  fresh : ∃ realized, request.requestedVoice = some realized ∧
    realized.engineId ∉ ledger.failedEngines ∧ realized ∉ ledger.failedVoices

/-- The engine of the latest call has emitted the start, whatever the style omits. -/
def Emits (ledger : AttemptLedger F Application) (start : SynthesisStreamStart) : Prop :=
  ∃ given, Callback.start given ∈ ledger.emitted ∧
    start = { given with degradedAcss := start.degradedAcss }

/-- What may be exchanged next. -/
def allows (chunk : List Char) (anchors : List RequestedAnchor)
    (ledger : AttemptLedger F Application) :
    Exchange (Query Engine F Parameters Application) Query.Answer → Prop
  | ⟨.acquire _, _⟩ => ledger.NoProbe ∧ ledger.committed = false ∧ ledger.refused = false
  | ⟨.recordSuccess engineId permit, _⟩ => ledger.permit = some (engineId, permit)
  | ⟨.recordFailure engineId _, _⟩ => ∃ permit, ledger.permit = some (engineId, permit)
  | ⟨.releaseProbe engineId, _⟩ => ledger.permit = some (engineId, .recoveryProbe)
  | ⟨.synthesize _ request, _⟩ => MayCall chunk anchors ledger request
  | ⟨.synthesizeWithParameters _ request _, _⟩ => MayCall chunk anchors ledger request
  | ⟨.synthesizeStream _ request _, _⟩ => MayCall chunk anchors ledger request
  | ⟨.startAttempt _ start, _⟩ => ledger.committed = false ∧ ledger.Emits start
  | ⟨.audio audio, _⟩ => ledger.committed = true ∧ Callback.audio audio ∈ ledger.emitted
  | ⟨.markers markers anchors, _⟩ =>
      ledger.committed = true ∧ Callback.markers markers anchors ∈ ledger.emitted
  | _ => True

end AttemptLedger

variable {Engine F Parameters Application : Type}

/-- The ledger of the attempts for one chunk, as a monitor. -/
def attemptMonitor (chunk : List Char) (anchors : List RequestedAnchor) :
    Monitor (Query Engine F Parameters Application) Query.Answer where
  State := AttemptLedger F Application
  assumes _ _ := True
  allows := AttemptLedger.allows chunk anchors
  next := AttemptLedger.next

/-! ## The queries -/

section Queries

variable {chunk : List Char} {anchors : List RequestedAnchor} {ledger : AttemptLedger F Application}

/-- What the attempts keep by their ledger. -/
abbrev Accounts (chunk : List Char) (anchors : List RequestedAnchor) {α : Type}
    (wanted : α → AttemptLedger F Application → Prop)
    (program : Attempting Engine F Parameters Application α)
    (ledger : AttemptLedger F Application) : Prop :=
  Keeps (attemptMonitor chunk anchors) wanted program ledger

theorem accounts_isStale {wanted : Bool → AttemptLedger F Application → Prop}
    (either : ∀ stale, wanted stale ledger) :
    Accounts chunk anchors wanted (isStale : Attempting Engine F Parameters Application Bool)
      ledger :=
  fun stale _ => ⟨trivial, either stale⟩

theorem accounts_tell {query : Query Engine F Parameters Application}
    {wanted : Unit → AttemptLedger F Application → Prop}
    (allowed : ∀ answer, ledger.allows chunk anchors ⟨query, answer⟩)
    (after : ∀ answer, wanted () (ledger.next ⟨query, answer⟩)) :
    Accounts chunk anchors wanted (tell query) ledger :=
  fun answer _ => ⟨allowed answer, after answer⟩

end Queries

/-! ## The sink -/

/-- What the sink and the ledger agree on during a call, which started from a base. -/
structure SinkHolds (base : AttemptLedger F Application)
    (sink : RoutedAttemptStreamSink Parameters Application)
    (ledger : AttemptLedger F Application) : Prop where
  frame : ledger = { base with committed := ledger.committed, emitted := ledger.emitted }
  committed : ledger.committed = sink.outputCommitted
  start : ∀ start, sink.pendingStart = some start → ledger.Emits start
  markers : ∀ pending ∈ sink.pendingMarkers,
    Callback.markers pending.1 pending.2 ∈ ledger.emitted

section Sink

variable {chunk : List Char} {anchors : List RequestedAnchor}
  {base ledger : AttemptLedger F Application}
  {sink : RoutedAttemptStreamSink Parameters Application}
  {checks : NativeChecks Parameters Application}

/-- The sink is held by what it has pending. -/
theorem SinkHolds.of_same (holds : SinkHolds base sink ledger)
    {other : RoutedAttemptStreamSink Parameters Application}
    (start : other.pendingStart = sink.pendingStart)
    (markers : other.pendingMarkers = sink.pendingMarkers)
    (committed : other.outputCommitted = sink.outputCommitted) : SinkHolds base other ledger where
  frame := holds.frame
  committed := holds.committed.trans committed.symm
  start given pending := holds.start given (start ▸ pending)
  markers pending member := holds.markers pending (markers ▸ member)

theorem SinkHolds.playback (holds : SinkHolds base sink ledger) (answer : Except TtsError Unit) :
    SinkHolds base (sink.playback answer).1 ledger := by
  cases answer with
  | ok _ => exact holds
  | error error => exact holds.of_same rfl rfl rfl

theorem SinkHolds.checkAndAttach (holds : SinkHolds base sink ledger) :
    SinkHolds base (sink.checkAndAttach checks).1 ledger := by
  rw [RoutedAttemptStreamSink.checkAndAttach]
  split
  · exact holds
  · split
    · split
      · exact holds.of_same rfl rfl rfl
      · exact holds
    · exact holds
  · split
    · exact holds
    · exact holds
    · exact holds.of_same rfl rfl rfl

/-- Checking the receipt changes nothing that is pending. -/
theorem accounts_checkNativeReceipt (holds : SinkHolds base sink ledger) :
    Accounts chunk anchors (fun outcome after => SinkHolds base outcome.1 after ∧ after = ledger)
      (sink.checkNativeReceipt checks :
        Attempting Engine F Parameters Application (SinkOutcome Parameters Application Unit))
      ledger := by
  rw [RoutedAttemptStreamSink.checkNativeReceipt]
  split
  · refine keeps_bind.mpr (accounts_isStale fun stale => ?_)
    cases stale with
    | true => exact ⟨holds, rfl⟩
    | false => exact ⟨holds.checkAndAttach, rfl⟩
  · exact ⟨holds, rfl⟩

/-- The markers that were held back are those of the engine. -/
theorem accounts_drainMarkers {pending : List (List SynthesisMarker × List ResolvedAnchor)}
    (holds : SinkHolds base sink ledger) (committed : ledger.committed = true)
    (emitted : ∀ given ∈ pending, Callback.markers given.1 given.2 ∈ ledger.emitted) :
    Accounts chunk anchors (fun outcome after => SinkHolds base outcome.1 after ∧ after = ledger)
      (RoutedAttemptStreamSink.drainMarkers pending sink :
        Attempting Engine F Parameters Application (SinkOutcome Parameters Application Unit))
      ledger := by
  induction pending generalizing sink with
  | nil => exact ⟨holds, rfl⟩
  | cons given rest ih =>
      obtain ⟨here, later⟩ := List.forall_mem_cons.mp emitted
      intro answer _
      refine ⟨⟨committed, here⟩, ?_⟩
      cases answer with
      | error error => exact ⟨holds.of_same rfl rfl rfl, rfl⟩
      | ok _ => exact ih holds later

/-- Before the first output the start of the engine is handed on, once. -/
theorem accounts_commitPreamble (holds : SinkHolds base sink ledger) :
    Accounts chunk anchors (fun outcome after => SinkHolds base outcome.1 after ∧
        after.emitted = ledger.emitted ∧ (outcome.2 = .ok () → after.committed = true))
      (sink.commitPreamble checks :
        Attempting Engine F Parameters Application (SinkOutcome Parameters Application Unit))
      ledger := by
  refine keeps_andThen (accounts_checkNativeReceipt holds) ?_ ?_
  · rintro checked _ after ⟨kept, rfl⟩
    split
    · rename_i committed
      exact ⟨kept, rfl, fun _ => kept.committed.trans committed⟩
    · rename_i uncommitted
      split
      · exact ⟨kept, rfl, fun failed => by cases failed⟩
      · rename_i start pending
        have fresh : after.committed = false :=
          kept.committed.trans (Bool.not_eq_true _ ▸ uncommitted)
        intro answer _
        refine ⟨⟨fresh, kept.start start pending⟩, ?_⟩
        -- from here on the ledger and the sink are both committed
        have committing : SinkHolds base
            { checked with pendingStart := none, outputCommitted := true }
            { after with committed := true } := by
          refine ⟨?_, rfl, ?_, kept.markers⟩
          · rw [kept.frame]
          · intro given none
            cases none
        cases answer with
        | error error => exact ⟨committing.of_same rfl rfl rfl, rfl, fun failed => by cases failed⟩
        | ok _ =>
            have drained : SinkHolds base
                { checked with pendingStart := none, outputCommitted := true, pendingMarkers := [] }
                { after with committed := true } :=
              ⟨committing.frame, rfl, committing.start, fun given none => absurd none List.not_mem_nil⟩
            refine keeps_mono (accounts_drainMarkers drained rfl kept.markers) ?_
            rintro outcome last ⟨last_holds, rfl⟩
            exact ⟨last_holds, rfl, fun _ => rfl⟩
  · rintro checked error after ⟨kept, rfl⟩
    exact ⟨kept, rfl, fun failed => by cases failed⟩

/-- A start that the sink accepts is held back as the engine emitted it. -/
theorem accounts_start {start : SynthesisStreamStart} (holds : SinkHolds base sink ledger)
    (emitted : Callback.start start ∈ ledger.emitted) :
    Accounts chunk anchors (fun outcome after => SinkHolds base outcome.1 after)
      (sink.start checks start :
        Attempting Engine F Parameters Application (SinkOutcome Parameters Application Unit))
      ledger := by
  refine keeps_andThen (accounts_checkNativeReceipt holds) ?_ ?_
  · rintro checked _ after ⟨kept, rfl⟩
    split
    · exact kept
    · split
      · exact kept
      · refine ⟨kept.frame, kept.committed, ?_, kept.markers⟩
        intro given pending
        obtain rfl := Option.some.inj pending
        exact ⟨start, emitted, rfl⟩
  · rintro checked error after ⟨kept, rfl⟩
    exact kept

theorem SinkHolds.acceptFrames (holds : SinkHolds base sink ledger) (frames : Nat) :
    SinkHolds base (sink.acceptFrames frames).1 ledger := by
  rw [RoutedAttemptStreamSink.acceptFrames]
  split
  · split
    · exact holds.of_same rfl rfl rfl
    · exact holds.of_same rfl rfl rfl
  · exact holds.of_same rfl rfl rfl

/-- Audio is played after the start, as the engine emitted it. -/
theorem accounts_audio {audio : AudioBuffer F} (holds : SinkHolds base sink ledger)
    (emitted : Callback.audio audio ∈ ledger.emitted) :
    Accounts chunk anchors (fun outcome after => SinkHolds base outcome.1 after)
      (sink.audio checks audio :
        Attempting Engine F Parameters Application (SinkOutcome Parameters Application Unit))
      ledger := by
  refine keeps_andThen (accounts_checkNativeReceipt holds) ?_ ?_
  · rintro checked _ after ⟨kept, rfl⟩
    split
    · split
      · exact kept
      · exact kept
    · refine keeps_andThen (accounts_commitPreamble kept) ?_ ?_
      · rintro committed _ last ⟨committed_kept, same, started⟩
        intro answer _
        refine ⟨⟨started rfl, same ▸ emitted⟩, ?_⟩
        cases answer with
        | error error => exact committed_kept.of_same rfl rfl rfl
        | ok _ => exact committed_kept.acceptFrames audio.length
      · rintro committed error last ⟨committed_kept, _⟩
        exact committed_kept
  · rintro checked error after ⟨kept, rfl⟩
    exact kept

/-- Markers are played after the start or held back, as the engine emitted them. -/
theorem accounts_markers {markers : List SynthesisMarker} {resolved : List ResolvedAnchor}
    (holds : SinkHolds base sink ledger)
    (emitted : Callback.markers markers resolved ∈ ledger.emitted) :
    Accounts chunk anchors (fun outcome after => SinkHolds base outcome.1 after)
      (sink.markers checks markers resolved :
        Attempting Engine F Parameters Application (SinkOutcome Parameters Application Unit))
      ledger := by
  refine keeps_andThen (accounts_checkNativeReceipt holds) ?_ ?_
  · rintro checked _ after ⟨kept, rfl⟩
    split
    · rename_i committed
      intro answer _
      exact ⟨⟨kept.committed.trans committed, emitted⟩, kept.playback answer⟩
    · split
      · exact kept
      · refine ⟨kept.frame, kept.committed, kept.start, ?_⟩
        intro given member
        rcases List.mem_append.mp member with before | added
        · exact kept.markers given before
        · rw [List.mem_singleton.mp added]
          exact emitted
  · rintro checked error after ⟨kept, rfl⟩
    exact kept

theorem SinkHolds.record (holds : SinkHolds base sink ledger) (application : Application) :
    SinkHolds base (sink.record checks application) ledger := by
  rw [RoutedAttemptStreamSink.record]
  split
  · split
    · exact holds.of_same rfl rfl rfl
    · exact holds.of_same rfl rfl rfl
  · exact holds.of_same rfl rfl rfl
  · exact holds.of_same rfl rfl rfl

theorem accounts_handle {callback : Callback F Application} (holds : SinkHolds base sink ledger)
    (emitted : callback ∈ ledger.emitted) :
    Accounts chunk anchors (fun outcome after => SinkHolds base outcome.1 after)
      (sink.handle checks callback :
        Attempting Engine F Parameters Application (SinkOutcome Parameters Application Unit))
      ledger := by
  cases callback with
  | start given => exact accounts_start holds emitted
  | audio given => exact accounts_audio holds emitted
  | markers given resolved => exact accounts_markers holds emitted
  | receipt application =>
      rw [RoutedAttemptStreamSink.handle]
      split
      · exact holds.record application
      · exact holds

/-- What an engine emits, it has emitted from then on. -/
theorem SinkHolds.emit (holds : SinkHolds base sink ledger) (callback : Callback F Application) :
    SinkHolds base sink { ledger with emitted := callback :: ledger.emitted } where
  frame := by rw [holds.frame]
  committed := holds.committed
  start start pending := by
    obtain ⟨given, member, same⟩ := holds.start start pending
    exact ⟨given, List.mem_cons_of_mem _ member, same⟩
  markers pending member := List.mem_cons_of_mem _ (holds.markers pending member)

/-- The sink through a failure of the engine. -/
theorem SinkHolds.fail (holds : SinkHolds base sink ledger) (realized : PhysicalVoiceId)
    (error : TtsError) : SinkHolds (base.fail realized error) sink (ledger.fail realized error) where
  frame := by
    rw [holds.frame]
    cases error with
    | voiceNotFound reason => rfl
    | synthesisFailed reason => rfl
    | notAvailable => rfl
    | invalidParameter reason => rfl
  committed := by
    rw [← holds.committed]
    cases error with
    | voiceNotFound reason => rfl
    | synthesisFailed reason => rfl
    | notAvailable => rfl
    | invalidParameter reason => rfl
  start start pending := by
    have emits := holds.start start pending
    cases error with
    | voiceNotFound reason => exact emits
    | synthesisFailed reason => exact emits
    | notAvailable => exact emits
    | invalidParameter reason => exact emits
  markers pending member := by
    have emitted := holds.markers pending member
    cases error with
    | voiceNotFound reason => exact emitted
    | synthesisFailed reason => exact emitted
    | notAvailable => exact emitted
    | invalidParameter reason => exact emitted

/-- The base of a call, after what its engine answered. -/
def answeredBase {α : Type} (base : AttemptLedger F Application) (realized : PhysicalVoiceId) :
    Except TtsError α → AttemptLedger F Application
  | .ok _ => base
  | .error error => base.fail realized error

/-- **An engine drives the sink**, whatever it emits, and what it answers is noted. -/
theorem accounts_drive {realized : PhysicalVoiceId} (script : EngineScript F Application)
    (called : base.current = some realized) (holds : SinkHolds base sink ledger) :
    Accounts chunk anchors
      (fun outcome after => SinkHolds (answeredBase base realized outcome.2) outcome.1 after)
      (RoutedAttemptStreamSink.drive checks script sink :
        Attempting Engine F Parameters Application
          (SinkOutcome Parameters Application SynthesisStreamCompletion)) ledger := by
  induction script generalizing sink ledger with
  | returns answer =>
      refine keeps_bind.mpr (accounts_tell (fun _ => trivial) fun _ => ?_)
      have current : ledger.current = some realized := by
        rw [holds.frame]
        exact called
      show SinkHolds _ sink (ledger.answered answer)
      cases answer with
      | ok completion =>
          rw [AttemptLedger.answered_ok]
          exact holds
      | error error =>
          rw [AttemptLedger.answered_error current]
          exact holds.fail realized error
  | emits callback next ih =>
      refine keeps_bind.mpr (accounts_tell (fun _ => trivial) fun _ => ?_)
      refine keeps_bind.mpr (keeps_mono (accounts_handle (holds.emit callback)
        List.mem_cons_self) ?_)
      rintro ⟨handled, answer⟩ after kept
      exact ih answer kept

end Sink

end Omnivox.Routing
