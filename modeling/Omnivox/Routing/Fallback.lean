import Mathlib
import Omnivox.Routing.AttemptLedger

/-!
# Runtime fallback

What one attempt hands to the next (`Trying`): a valid snapshot in which everything that
failed so far is excluded, and a route of it. Every exit of an attempt settles the permit, and
only an attempt that has played nothing is followed by another (`accounts_attemptOnce`).

So one call of the progressive loop calls a bounded number of engines, plays the output of one
of them, and leaves no recovery probe behind (`fallback_never_splices`).
-/

set_option autoImplicit false

namespace Omnivox.Routing

open Engines Foundations Synthesis

variable {Engine F Parameters Application : Type}

/-! ## What failures leave -/

/-- What has failed is excluded, and no parameter was refused. -/
structure AttemptLedger.Excluded (ledger : AttemptLedger F Application)
    (inventory : List EngineDescriptor) : Prop where
  engines : ∀ engineId ∈ ledger.failedEngines, EngineExcluded inventory engineId
  voices : ∀ realized ∈ ledger.failedVoices, VoiceExcluded inventory realized
  not_refused : ledger.refused = false

/-- What came of an attempt that began with a base and failed with an error. -/
structure Fails (base : AttemptLedger F Application) (realized : PhysicalVoiceId)
    (error : TtsError) (ledger : AttemptLedger F Application) : Prop where
  bounded : ledger.calls ≤ base.calls + 1
  excluded : ∀ inventory, base.Excluded inventory → FailureExcludes inventory realized error →
    ledger.Excluded inventory

/-- A snapshot and a route of it, to be tried. -/
structure Trying (engines : EngineRegistry Engine) (attempt : Nat) (route : LogicalRoute Engine)
    (routing : LogicalVoiceRoutingSnapshot) (ledger : AttemptLedger F Application) : Prop where
  valid : ValidInventory routing.inventory
  routes : ∃ text definition resolution, Routes routing engines text route definition resolution
  bounded : ledger.calls < attempt
  uncommitted : ledger.committed = false
  excluded : ledger.Excluded routing.inventory

/-- The permit is settled, and nothing else changed. -/
def Settled (ledger after : AttemptLedger F Application) : Prop :=
  after.NoProbe ∧ after = { ledger with permit := after.permit }

section Failures

variable {base ledger after : AttemptLedger F Application} {realized : PhysicalVoiceId}
  {error : TtsError} {inventory : List EngineDescriptor}

theorem AttemptLedger.noProbe_of_none (settled : ledger.permit = none) : ledger.NoProbe := by
  intro engineId held
  rw [settled] at held
  cases held

/-- Later failures exclude more. -/
theorem AttemptLedger.Excluded.record (excluded : ledger.Excluded inventory) :
    ledger.Excluded (recordRuntimeFailure inventory realized error).1 where
  engines engineId member := (excluded.engines engineId member).record
  voices realized member := (excluded.voices realized member).record
  not_refused := excluded.not_refused

/-- A failure that is excluded may be noted. -/
theorem AttemptLedger.Excluded.fail (excluded : ledger.Excluded inventory)
    (noted : FailureExcludes inventory realized error) :
    (ledger.fail realized error).Excluded inventory := by
  cases error with
  | voiceNotFound reason =>
      exact ⟨excluded.engines, List.forall_mem_cons.mpr ⟨noted, excluded.voices⟩,
        excluded.not_refused⟩
  | synthesisFailed reason =>
      exact ⟨List.forall_mem_cons.mpr ⟨noted, excluded.engines⟩, excluded.voices,
        excluded.not_refused⟩
  | notAvailable =>
      exact ⟨List.forall_mem_cons.mpr ⟨noted, excluded.engines⟩, excluded.voices,
        excluded.not_refused⟩
  | invalidParameter reason => exact noted.elim

theorem Fails.refl : Fails base realized error base :=
  ⟨Nat.le_succ _, fun _ excluded _ => excluded⟩

/-- A call that has not failed yet. -/
theorem Fails.called (request : SynthesisRequest) :
    Fails base realized error (base.called request) :=
  ⟨le_rfl, fun _ excluded _ => ⟨excluded.engines, excluded.voices, excluded.not_refused⟩⟩

theorem AttemptLedger.fail_calls : (ledger.fail realized error).calls = ledger.calls := by
  cases error with
  | voiceNotFound reason => rfl
  | synthesisFailed reason => rfl
  | notAvailable => rfl
  | invalidParameter reason => rfl

theorem AttemptLedger.fail_committed :
    (ledger.fail realized error).committed = ledger.committed := by
  cases error with
  | voiceNotFound reason => rfl
  | synthesisFailed reason => rfl
  | notAvailable => rfl
  | invalidParameter reason => rfl

theorem AttemptLedger.fail_permit : (ledger.fail realized error).permit = ledger.permit := by
  cases error with
  | voiceNotFound reason => rfl
  | synthesisFailed reason => rfl
  | notAvailable => rfl
  | invalidParameter reason => rfl

theorem Fails.fail (fails : Fails base realized error ledger) :
    Fails base realized error (ledger.fail realized error) where
  bounded := by
    rw [AttemptLedger.fail_calls]
    exact fails.bounded
  excluded inventory excluded noted := (fails.excluded inventory excluded noted).fail noted

/-- What playback and permits did has no part in a failure. -/
theorem Fails.of_same (fails : Fails base realized error ledger)
    (same : after = { ledger with
      current := after.current, emitted := after.emitted, permit := after.permit,
      committed := after.committed }) :
    Fails base realized error after := by
  rw [same]
  exact ⟨fails.bounded, fun inventory excluded noted =>
    ⟨(fails.excluded inventory excluded noted).engines,
      (fails.excluded inventory excluded noted).voices,
      (fails.excluded inventory excluded noted).not_refused⟩⟩

end Failures

section Attempts

variable {chunk : List Char} {anchors : List RequestedAnchor}
  {base ledger : AttemptLedger F Application} {route : LogicalRoute Engine}
  {routing : LogicalVoiceRoutingSnapshot} {engines : EngineRegistry Engine} {error : TtsError}
  {attempt : Nat} {permit : EnginePermit}

/-! ## Permits -/

theorem accounts_unlessStale {α : Type} {wanted : α → AttemptLedger F Application → Prop}
    {stop go : Attempting Engine F Parameters Application α}
    (stops : Accounts chunk anchors wanted stop ledger)
    (goes : Accounts chunk anchors wanted go ledger) :
    Accounts chunk anchors wanted
      (isStale >>= fun stale => if stale = true then stop else go) ledger := by
  refine keeps_bind.mpr (accounts_isStale fun stale => ?_)
  cases stale with
  | true => exact stops
  | false => exact goes

/-- A held probe is released. -/
theorem accounts_releaseProbeIfHeld {engineId : String}
    (held : ledger.permit = some (engineId, permit)) :
    Accounts chunk anchors (fun _ after => Settled ledger after)
      (releaseProbeIfHeld engineId permit : Attempting Engine F Parameters Application Unit)
      ledger := by
  rw [releaseProbeIfHeld]
  split
  · rename_i probe
    subst probe
    exact accounts_tell (fun _ => held) fun _ => ⟨AttemptLedger.noProbe_of_none rfl, rfl⟩
  · rename_i normal
    refine ⟨?_, rfl⟩
    intro other probe
    rw [held] at probe
    exact normal (Prod.mk.inj (Option.some.inj probe)).2

theorem accounts_recordFailure {engineId reason : String}
    (held : ledger.permit = some (engineId, permit)) :
    Accounts chunk anchors (fun _ after => Settled ledger after)
      (tell (.recordFailure engineId reason) :
        Attempting Engine F Parameters Application Unit) ledger :=
  accounts_tell (fun _ => ⟨permit, held⟩) fun _ => ⟨AttemptLedger.noProbe_of_none rfl, rfl⟩

theorem accounts_recordSuccess {engineId : String}
    (held : ledger.permit = some (engineId, permit)) :
    Accounts chunk anchors (fun _ after => Settled ledger after)
      (tell (.recordSuccess engineId permit) : Attempting Engine F Parameters Application Unit)
      ledger :=
  accounts_tell (fun _ => held) fun _ => ⟨AttemptLedger.noProbe_of_none rfl, rfl⟩

/-- However a synthesis failed, its permit is settled. -/
theorem accounts_recordSynthesisFailure
    (held : ledger.permit = some (route.realized.engineId, permit)) :
    Accounts chunk anchors (fun _ after => Settled ledger after)
      (recordSynthesisFailure route error permit :
        Attempting Engine F Parameters Application Unit) ledger := by
  cases error with
  | synthesisFailed reason => exact accounts_recordFailure held
  | voiceNotFound reason => exact accounts_releaseProbeIfHeld held
  | invalidParameter reason => exact accounts_releaseProbeIfHeld held
  | notAvailable =>
      cases permit with
      | normal => exact accounts_releaseProbeIfHeld held
      | recoveryProbe => exact accounts_recordFailure held

/-- What an admission leaves of the permit. -/
def Admits (engineId : String) (ledger : AttemptLedger F Application) :
    Admission → AttemptLedger F Application → Prop
  | .admitted permit, after => after = { ledger with permit := some (engineId, permit) }
  | .cancelled, after => Settled ledger after
  | .failed _, after => Settled ledger after

theorem accounts_admitProbe
    (held : ledger.permit = some (route.realized.engineId, .recoveryProbe)) :
    Accounts chunk anchors (Admits route.realized.engineId ledger)
      (admitProbe route : Attempting Engine F Parameters Application Admission) ledger := by
  intro answer _
  refine ⟨trivial, ?_⟩
  cases answer with
  | ok _ =>
      show ledger = { ledger with permit := some (route.realized.engineId, .recoveryProbe) }
      rw [← held]
  | error preparationError =>
      refine accounts_unlessStale ?_ ?_
      · exact keeps_bind.mpr (accounts_releaseProbeIfHeld held)
      · exact keeps_bind.mpr (accounts_recordFailure held)

/-- **An admission holds its permit or has settled it.** -/
theorem accounts_admitAttempt (settled : ledger.NoProbe) (uncommitted : ledger.committed = false)
    (not_refused : ledger.refused = false) :
    Accounts chunk anchors (Admits route.realized.engineId ledger)
      (admitAttempt route : Attempting Engine F Parameters Application Admission) ledger := by
  refine accounts_unlessStale ⟨settled, rfl⟩ ?_
  intro access _
  refine ⟨⟨settled, uncommitted, not_refused⟩, ?_⟩
  cases access with
  | denied reason => exact ⟨AttemptLedger.noProbe_of_none rfl, rfl⟩
  | permit permit =>
      have held : ({ ledger with permit := some (route.realized.engineId, permit) } :
          AttemptLedger F Application).permit = some (route.realized.engineId, permit) := rfl
      refine accounts_unlessStale ?_ ?_
      · exact keeps_bind.mpr (accounts_releaseProbeIfHeld held)
      · split
        · rename_i probe
          subst probe
          exact accounts_admitProbe held
        · exact rfl

/-! ## After a failure -/

/-- A selected retry is to be tried next. -/
def Selects (engines : EngineRegistry Engine) (attempt : Nat) :
    Outcome LogicalVoiceRoutingSnapshot (RuntimeSynthesisOutcome F) (LogicalRoute Engine) →
      AttemptLedger F Application → Prop
  | (routing, .ok retry), after => attempt < MAX_RUNTIME_SYNTHESIS_ATTEMPTS ∧ after.NoProbe ∧
      Trying engines (attempt + 1) retry routing after
  | (_, .error outcome), after => (∀ result, outcome ≠ .ready result) ∧ after.NoProbe

/-- What an attempt leads to: an end, or a retry that may be tried. -/
def Continues {Outcome : Type} (engines : EngineRegistry Engine) (attempt : Nat) :
    LoopStep Engine Outcome → AttemptLedger F Application → Prop
  | .ended ending _, after => (∃ outcome, ending = .returned outcome) ∧ after.NoProbe
  | .again route routing, after => attempt < MAX_RUNTIME_SYNTHESIS_ATTEMPTS ∧ after.NoProbe ∧
      Trying engines (attempt + 1) route routing after

/-- The retry of a recorded failure may be tried. -/
theorem Trying.retry {retry : LogicalRoute Engine}
    (trying : Trying engines attempt route routing base)
    (fails : Fails base route.realized error ledger) (uncommitted : ledger.committed = false)
    (retried : (routing.rerouteAfterFailure route error engines).2 = .retry retry) :
    Trying engines (attempt + 1) retry (routing.rerouteAfterFailure route error engines).1
      ledger := by
  obtain ⟨recorded, resolved, routed, _, rfl⟩ := rerouteAfterFailure_retry retried
  obtain ⟨_, definition, resolution, routes⟩ := resolveCurrentWithText_ok routed
  refine ⟨?_, ⟨none, definition, resolution, routes.reported _⟩, ?_, uncommitted, ?_⟩
  · rw [rerouteAfterFailure_snapshot]
    exact recordRuntimeFailure_valid trying.valid
  · have begun := trying.bounded
    have called := fails.bounded
    omega
  · rw [rerouteAfterFailure_snapshot]
    exact fails.excluded _ trying.excluded.record (record_excludes trying.valid recorded)

theorem accounts_selectRetry (within : attempt ≤ MAX_RUNTIME_SYNTHESIS_ATTEMPTS)
    (trying : Trying engines attempt route routing base)
    (fails : Fails base route.realized error ledger) (settled : ledger.NoProbe)
    (uncommitted : ledger.committed = false) :
    Accounts chunk anchors (Selects engines attempt)
      (selectRetry route routing engines error attempt : Attempting Engine F Parameters Application
        (Outcome LogicalVoiceRoutingSnapshot (RuntimeSynthesisOutcome F) (LogicalRoute Engine)))
      ledger := by
  have retried : ∀ retry, (routing.rerouteAfterFailure route error engines).2 = .retry retry →
      Trying engines (attempt + 1) retry (routing.rerouteAfterFailure route error engines).1
        ledger := fun _ => trying.retry fails uncommitted
  rw [selectRetry]
  generalize routing.rerouteAfterFailure route error engines = outcome at retried
  obtain ⟨next, reroute⟩ := outcome
  dsimp only
  split
  · exact ⟨fun result same => (by cases same), settled⟩
  · rename_i not_last
    cases reroute with
    | retry retry =>
        refine keeps_bind.mpr (accounts_tell (fun _ => trivial) fun _ => ?_)
        exact ⟨by omega, settled, retried retry rfl⟩
    | notRetryable => exact ⟨fun result same => (by cases same), settled⟩
    | exhausted reason => exact ⟨fun result same => (by cases same), settled⟩

/-- **A failed attempt ends, or a retry follows.** -/
theorem accounts_retryAfter {Outcome : Type} {finish : RuntimeSynthesisOutcome F → Ending Outcome}
    (finishes : ∀ outcome, (∀ result, outcome ≠ .ready result) →
      ∃ finished, finish outcome = .returned finished)
    (within : attempt ≤ MAX_RUNTIME_SYNTHESIS_ATTEMPTS)
    (trying : Trying engines attempt route routing base)
    (fails : Fails base route.realized error ledger) (settled : ledger.NoProbe)
    (uncommitted : ledger.committed = false) :
    Accounts chunk anchors (Continues engines attempt)
      (retryAfter finish route routing engines error attempt :
        Attempting Engine F Parameters Application (LoopStep Engine Outcome)) ledger := by
  refine keeps_bind.mpr (accounts_tell (fun _ => trivial) fun _ => ?_)
  have noted : (ledger.fail route.realized error).NoProbe := by
    rw [AttemptLedger.NoProbe, AttemptLedger.fail_permit]
    exact settled
  have unplayed : (ledger.fail route.realized error).committed = false := by
    rw [AttemptLedger.fail_committed]
    exact uncommitted
  refine keeps_bind.mpr (keeps_mono
    (accounts_selectRetry within trying fails.fail noted unplayed) ?_)
  rintro ⟨next, selected⟩ after selects
  cases selected with
  | ok retry => exact selects
  | error outcome => exact ⟨finishes outcome selects.1, selects.2⟩

/-! ## Calls -/

/-- What a call answers and what came of it. A result that was returned may still be refused,
with any error. -/
def Answers {α : Type} (base : AttemptLedger F Application) (realized : PhysicalVoiceId) :
    Except TtsError α → AttemptLedger F Application → Prop
  | .ok _, after => ∀ error, Fails base realized error after
  | .error error, after => Fails base realized error after

theorem Answers.bind {α β : Type} {realized : PhysicalVoiceId} {answer : Except TtsError α}
    (answers : Answers base realized answer ledger) (check : α → Except TtsError β) :
    Answers base realized (answer >>= check) ledger := by
  cases answer with
  | error error => exact answers
  | ok result =>
      show Answers base realized (check result) ledger
      cases check result with
      | error error => exact answers error
      | ok checked => exact answers

/-- What an engine answers is noted. -/
theorem answers_answeredBase {α : Type} {realized : PhysicalVoiceId} (request : SynthesisRequest)
    (answer : Except TtsError α) :
    Answers base realized answer (answeredBase (base.called request) realized answer) := by
  cases answer with
  | ok result => exact fun error => Fails.called request
  | error error => exact (Fails.called request).fail

theorem answeredBase_permit {α : Type} {realized : PhysicalVoiceId} (request : SynthesisRequest)
    (answer : Except TtsError α) :
    (answeredBase (base.called request) realized answer).permit = base.permit := by
  cases answer with
  | ok result => rfl
  | error error => exact AttemptLedger.fail_permit

theorem answeredBase_committed {α : Type} {realized : PhysicalVoiceId} (request : SynthesisRequest)
    (answer : Except TtsError α) :
    (answeredBase (base.called request) realized answer).committed = base.committed := by
  cases answer with
  | ok result => rfl
  | error error => exact AttemptLedger.fail_committed

/-- The route that is tried may be called. -/
theorem Trying.mayCall {request : SynthesisRequest}
    (trying : Trying engines attempt route routing base)
    (within : attempt ≤ MAX_RUNTIME_SYNTHESIS_ATTEMPTS) (same_text : request.text = chunk)
    (same_anchors : request.anchors = anchors)
    (voice : request.requestedVoice = some route.realized) :
    AttemptLedger.MayCall chunk anchors base request := by
  obtain ⟨_, _, _, routes⟩ := trying.routes
  obtain ⟨engine_open, voice_open⟩ := routes.not_excluded trying.valid
  refine ⟨Nat.lt_of_lt_of_le trying.bounded within, same_text, same_anchors, trying.uncommitted,
    trying.excluded.not_refused, route.realized, voice, ?_, ?_⟩
  · intro failed
    exact engine_open (trying.excluded.engines _ failed)
  · intro failed
    exact voice_open (trying.excluded.voices _ failed)

/-- A call that returns its whole result. -/
structure Called {α : Type} (base : AttemptLedger F Application) (realized : PhysicalVoiceId)
    (answer : Except TtsError α) (after : AttemptLedger F Application) : Prop where
  answers : Answers base realized answer after
  permit : after.permit = base.permit
  committed : after.committed = base.committed

theorem Called.bind {α β : Type} {realized : PhysicalVoiceId} {answer : Except TtsError α}
    (called : Called base realized answer ledger) (check : α → Except TtsError β) :
    Called base realized (answer >>= check) ledger :=
  ⟨called.answers.bind check, called.permit, called.committed⟩

theorem Called.map {α β : Type} {realized : PhysicalVoiceId} {answer : Except TtsError α}
    (called : Called base realized answer ledger) (change : α → β) :
    Called base realized (answer.map change) ledger := by
  cases answer with
  | ok result => exact ⟨called.answers, called.permit, called.committed⟩
  | error error => exact ⟨called.answers, called.permit, called.committed⟩

/-- A call to the engine of the request's voice is noted with its answer. -/
theorem called_answered {α : Type} {realized : PhysicalVoiceId} {request : SynthesisRequest}
    (voice : request.requestedVoice = some realized) (answer : Except TtsError α) :
    Called base realized answer ((base.called request).answered answer) := by
  have noted : (base.called request).answered answer =
      answeredBase (base.called request) realized answer := by
    cases answer with
    | ok result => rw [AttemptLedger.answered_ok, answeredBase]
    | error error => rw [AttemptLedger.answered_error voice, answeredBase]
  rw [noted]
  exact ⟨answers_answeredBase request answer, answeredBase_permit request answer,
    answeredBase_committed request answer⟩

/-- A failed call is followed by a retry or ends the loop. -/
theorem accounts_afterCall {Outcome : Type} {finish : RuntimeSynthesisOutcome F → Ending Outcome}
    (finishes : ∀ outcome, (∀ result, outcome ≠ .ready result) →
      ∃ finished, finish outcome = .returned finished)
    (within : attempt ≤ MAX_RUNTIME_SYNTHESIS_ATTEMPTS)
    (trying : Trying engines attempt route routing base)
    (fails : Fails base route.realized error ledger)
    (held : ledger.permit = some (route.realized.engineId, permit))
    (uncommitted : ledger.committed = false) :
    Accounts chunk anchors (Continues engines attempt)
      (do
        recordSynthesisFailure route error permit
        retryAfter finish route routing engines error attempt :
        Attempting Engine F Parameters Application (LoopStep Engine Outcome)) ledger := by
  refine keeps_bind.mpr (keeps_mono (accounts_recordSynthesisFailure held) ?_)
  rintro _ after ⟨settled, same⟩
  refine accounts_retryAfter finishes within trying (fails.of_same ?_) settled ?_
  · rw [same]
  · rw [same]
    exact uncommitted

end Attempts

/-! ## The progressive loop -/

section Progressive

variable {call : PreparedSynthesis Engine Parameters Application}
  {base ledger : AttemptLedger F Application} {route : LogicalRoute Engine}
  {routing : LogicalVoiceRoutingSnapshot} {error : TtsError} {attempt : Nat}
  {permit : EnginePermit} {prepared : PreparedVoiceAttempt Parameters Application}

theorem fromRetry_returned (outcome : RuntimeSynthesisOutcome F)
    (not_ready : ∀ result, outcome ≠ .ready result) :
    ∃ finished : PreparedSynthesisOutcome F Parameters Application,
      PreparedSynthesisOutcome.fromRetry outcome = .returned finished := by
  cases outcome with
  | ready result => exact absurd rfl (not_ready result)
  | cancelled => exact ⟨.cancelled, rfl⟩
  | failed => exact ⟨.failed, rfl⟩
  | exhausted => exact ⟨.exhausted, rfl⟩

/-- Release the permit and end. -/
theorem accounts_released (held : ledger.permit = some (route.realized.engineId, permit))
    (outcome : PreparedSynthesisOutcome F Parameters Application) :
    Accounts call.chunk call.anchors (Continues call.engines attempt)
      (do
        releaseProbeIfHeld route.realized.engineId permit
        pure (endedWith routing outcome) :
        Attempting Engine F Parameters Application
          (LoopStep Engine (PreparedSynthesisOutcome F Parameters Application))) ledger := by
  refine keeps_bind.mpr (keeps_mono (accounts_releaseProbeIfHeld held) ?_)
  rintro _ after ⟨settled, _⟩
  exact ⟨⟨outcome, rfl⟩, settled⟩

/-- A buffered attempt calls its engine at most once. -/
theorem accounts_synthesizeBuffered (within : attempt ≤ MAX_RUNTIME_SYNTHESIS_ATTEMPTS)
    (trying : Trying call.engines attempt route routing base) :
    Accounts call.chunk call.anchors (Called base route.realized)
      (call.synthesizeBuffered route (call.request prepared route) prepared :
        Attempting Engine F Parameters Application
          (Except TtsError (SynthesisResult F × PreparedVoiceAttempt Parameters Application)))
      base := by
  have may : AttemptLedger.MayCall call.chunk call.anchors base (call.request prepared route) :=
    trying.mayCall within rfl rfl rfl
  have voice : (call.request prepared route).requestedVoice = some route.realized := rfl
  rw [PreparedSynthesis.synthesizeBuffered]
  split
  · intro answer _
    exact ⟨may, (called_answered voice answer).map _⟩
  · split
    · exact ⟨Fails.refl, rfl, rfl⟩
    · intro answer _
      exact ⟨may, (called_answered voice answer).map _⟩
  · intro answer _
    exact ⟨may, (called_answered voice answer).bind _⟩

theorem accounts_bufferedAttempt (within : attempt ≤ MAX_RUNTIME_SYNTHESIS_ATTEMPTS)
    (trying : Trying call.engines attempt route routing base)
    (held : base.permit = some (route.realized.engineId, permit)) (support : AnchorSupport) :
    Accounts call.chunk call.anchors (Continues call.engines attempt)
      (call.bufferedAttempt attempt route routing permit support prepared :
        Attempting Engine F Parameters Application
          (LoopStep Engine (PreparedSynthesisOutcome F Parameters Application))) base := by
  refine keeps_bind.mpr (keeps_mono (accounts_synthesizeBuffered within trying) ?_)
  intro answer after called
  have finished := called.bind fun tentative => do
    return (← PreparedSynthesis.finishResult support (call.request prepared route)
      tentative.2.acss tentative.1, tentative.2)
  have still_held : after.permit = some (route.realized.engineId, permit) :=
    called.permit.trans held
  dsimp only
  generalize (answer >>= fun tentative => do
    return (← PreparedSynthesis.finishResult support (call.request prepared route)
      tentative.2.acss tentative.1, tentative.2)) = synthesis at finished ⊢
  cases synthesis with
  | ok checked =>
      refine keeps_bind.mpr (keeps_mono (accounts_recordSuccess still_held) ?_)
      rintro _ last ⟨settled, _⟩
      exact accounts_unlessStale ⟨⟨_, rfl⟩, settled⟩ ⟨⟨_, rfl⟩, settled⟩
  | error error =>
      refine accounts_unlessStale (accounts_released still_held _) ?_
      exact accounts_afterCall fromRetry_returned within trying finished.answers still_held
        (called.committed.trans trying.uncommitted)

/-- What a stream leaves: an account of its engine's answer, and the sink that holds by it. -/
def Streams {α : Type} (base : AttemptLedger F Application) (realized : PhysicalVoiceId)
    (outcome : SinkOutcome Parameters Application α) (after : AttemptLedger F Application) : Prop :=
  ∃ account, Answers base realized outcome.2 account ∧ account.permit = base.permit ∧
    SinkHolds account outcome.1 after

/-- A completed stream commits at most what it has pending. -/
theorem accounts_completeStream {request : SynthesisRequest}
    {completion : SynthesisStreamCompletion}
    {sink : RoutedAttemptStreamSink Parameters Application} (holds : SinkHolds base sink ledger) :
    Accounts call.chunk call.anchors (fun outcome after => SinkHolds base outcome.1 after)
      (call.completeStream request sink completion : Attempting Engine F Parameters Application
        (SinkOutcome Parameters Application (Option (SynthesisResult F)))) ledger := by
  rw [PreparedSynthesis.completeStream]
  have checked : Accounts call.chunk call.anchors
      (fun outcome after => SinkHolds base outcome.1 after)
      (if call.style.isNative = true then
        (sink.checkNativeReceipt call.checks).andThen fun sink _ =>
          pure (sink, PreparedSynthesis.checkNativeCompletion sink completion)
      else pure (sink, .ok ()) : Attempting Engine F Parameters Application
        (SinkOutcome Parameters Application Unit)) ledger := by
    split
    · refine keeps_andThen (accounts_checkNativeReceipt holds) ?_ ?_
      · rintro checked _ after ⟨kept, rfl⟩
        exact kept
      · rintro checked error after ⟨kept, rfl⟩
        exact kept
    · exact holds
  refine keeps_andThen checked ?_ ?_
  · intro checked _ after kept
    split
    · refine keeps_andThen (accounts_commitPreamble kept) ?_ ?_
      · rintro committed _ last ⟨committed_kept, _⟩
        exact committed_kept
      · rintro committed error last ⟨committed_kept, _⟩
        exact committed_kept
    · refine ⟨kept.frame, kept.committed, ?_, ?_⟩
      · intro start none
        cases none
      · intro given none
        exact absurd none List.not_mem_nil
  · intro checked error after kept
    exact kept

/-- An engine makes its stream: the sink holds by what the engine answered. -/
theorem accounts_runStream {request : SynthesisRequest} {script : EngineScript F Application}
    {sink : RoutedAttemptStreamSink Parameters Application}
    (voice : request.requestedVoice = some route.realized)
    (holds : SinkHolds (base.called request) sink ledger) :
    Accounts call.chunk call.anchors (Streams base route.realized)
      (call.runStream request script sink : Attempting Engine F Parameters Application
        (SinkOutcome Parameters Application
          (SynthesisStreamCompletion × Option (SynthesisResult F)))) ledger := by
  refine keeps_andThen (accounts_drive script voice holds) ?_ ?_
  · intro driven completion after kept
    refine keeps_andThen (accounts_completeStream kept) ?_ ?_
    · intro completed result last held
      exact ⟨base.called request, fun error => Fails.called request, rfl, held⟩
    · intro completed error last held
      exact ⟨base.called request, Fails.called request, rfl, held⟩
  · intro driven error after kept
    exact ⟨(base.called request).fail route.realized error, (Fails.called request).fail,
      AttemptLedger.fail_permit, kept⟩

/-- **An attempt on a streaming engine**: a retry follows only if it has played nothing. -/
theorem accounts_streamAttempt (within : attempt ≤ MAX_RUNTIME_SYNTHESIS_ATTEMPTS)
    (trying : Trying call.engines attempt route routing base)
    (held : base.permit = some (route.realized.engineId, permit)) :
    Accounts call.chunk call.anchors (Continues call.engines attempt)
      (call.streamAttempt attempt route routing permit prepared :
        Attempting Engine F Parameters Application
          (LoopStep Engine (PreparedSynthesisOutcome F Parameters Application))) base := by
  refine keeps_perform_bind.mpr fun script _ => ⟨trying.mayCall within rfl rfl rfl, ?_⟩
  have begun : SinkHolds (base.called (call.request prepared route))
      (call.attemptSink route prepared) (base.called (call.request prepared route)) := by
    refine ⟨rfl, trying.uncommitted, ?_, ?_⟩
    · intro start none
      cases none
    · intro given none
      exact absurd none List.not_mem_nil
  refine keeps_bind.mpr (keeps_mono (accounts_runStream rfl begun) ?_)
  rintro ⟨sink, answer⟩ after ⟨account, answers, kept_permit, holds⟩
  have still_held : after.permit = some (route.realized.engineId, permit) := by
    rw [holds.frame]
    exact kept_permit.trans held
  cases answer with
  | ok completed =>
      obtain ⟨completion, result⟩ := completed
      refine keeps_bind.mpr (keeps_mono (accounts_recordSuccess still_held) ?_)
      rintro _ last ⟨settled, _⟩
      refine accounts_unlessStale ⟨⟨_, rfl⟩, settled⟩ ?_
      cases result with
      | some result => exact ⟨⟨_, rfl⟩, settled⟩
      | none => exact ⟨⟨_, rfl⟩, settled⟩
  | error error =>
      refine accounts_unlessStale (accounts_released still_held _) ?_
      split
      · exact accounts_released still_held _
      · split
        · -- output was committed: the permit is settled and the loop ends
          refine keeps_bind.mpr (keeps_mono (accounts_recordSynthesisFailure still_held) ?_)
          rintro _ last ⟨settled, _⟩
          exact ⟨⟨_, rfl⟩, settled⟩
        · rename_i uncommitted
          have fails : Fails base route.realized error account := answers
          refine accounts_afterCall fromRetry_returned within trying (fails.of_same ?_) still_held
            (holds.committed.trans (Bool.not_eq_true _ ▸ uncommitted))
          rw [holds.frame]

/-- An admitted attempt calls one engine, or none if its style or the playback sink refuses. -/
theorem accounts_admittedAttempt (within : attempt ≤ MAX_RUNTIME_SYNTHESIS_ATTEMPTS)
    (trying : Trying call.engines attempt route routing base)
    (held : base.permit = some (route.realized.engineId, permit)) :
    Accounts call.chunk call.anchors (Continues call.engines attempt)
      (call.admittedAttempt attempt route routing permit :
        Attempting Engine F Parameters Application
          (LoopStep Engine (PreparedSynthesisOutcome F Parameters Application))) base := by
  refine keeps_perform_bind.mpr fun described _ => ⟨trivial, ?_⟩
  generalize call.style.prepare routing route described.descriptor = preparation
  cases preparation with
  | error message =>
      refine keeps_bind.mpr (keeps_mono (accounts_releaseProbeIfHeld held) ?_)
      rintro _ after ⟨settled, _⟩
      exact keeps_bind.mpr (accounts_tell (fun _ => trivial) fun _ => ⟨⟨_, rfl⟩, settled⟩)
  | ok prepared =>
      refine keeps_perform_bind.mpr fun answer _ => ⟨trivial, ?_⟩
      cases answer with
      | error error => exact accounts_released held _
      | ok _ =>
          refine accounts_unlessStale (accounts_released held _) ?_
          split
          · exact accounts_bufferedAttempt within trying held _
          · exact accounts_streamAttempt within trying held

theorem accounts_attemptOnce (within : attempt ≤ MAX_RUNTIME_SYNTHESIS_ATTEMPTS)
    (trying : Trying call.engines attempt route routing base) (settled : base.NoProbe) :
    Accounts call.chunk call.anchors (Continues call.engines attempt)
      (call.attemptOnce attempt route routing : Attempting Engine F Parameters Application
        (LoopStep Engine (PreparedSynthesisOutcome F Parameters Application))) base := by
  refine keeps_bind.mpr (keeps_mono
    (accounts_admitAttempt settled trying.uncommitted trying.excluded.not_refused) ?_)
  intro admission after admits
  cases admission with
  | cancelled => exact ⟨⟨_, rfl⟩, admits.1⟩
  | failed error =>
      obtain ⟨after_settled, same⟩ := admits
      have fails : Fails base route.realized error base := Fails.refl
      refine accounts_retryAfter fromRetry_returned within trying (fails.of_same ?_) after_settled ?_
      · rw [same]
      · rw [same]
        exact trying.uncommitted
  | admitted permit =>
      obtain rfl : after = { base with permit := some (route.realized.engineId, permit) } := admits
      refine accounts_admittedAttempt within ?_ rfl
      exact ⟨trying.valid, trying.routes, trying.bounded, trying.uncommitted,
        trying.excluded.engines, trying.excluded.voices, trying.excluded.not_refused⟩

/-- **The attempts go on while some are left**, by induction on how many. -/
theorem accounts_attemptLoop {Outcome : Type}
    {attemptOnce : Nat → LogicalRoute Engine → LogicalVoiceRoutingSnapshot →
      Attempting Engine F Parameters Application (LoopStep Engine Outcome)}
    {chunk : List Char} {anchors : List RequestedAnchor} {engines : EngineRegistry Engine}
    (each : ∀ attempt route routing (ledger : AttemptLedger F Application),
      attempt ≤ MAX_RUNTIME_SYNTHESIS_ATTEMPTS → Trying engines attempt route routing ledger →
        ledger.NoProbe → Accounts chunk anchors (Continues engines attempt)
          (attemptOnce attempt route routing) ledger) (left : Nat) :
    ∀ {attempt : Nat} {route : LogicalRoute Engine} {routing : LogicalVoiceRoutingSnapshot}
      {ledger : AttemptLedger F Application},
      attempt + left = MAX_RUNTIME_SYNTHESIS_ATTEMPTS + 1 →
      attempt ≤ MAX_RUNTIME_SYNTHESIS_ATTEMPTS → Trying engines attempt route routing ledger →
      ledger.NoProbe → Accounts chunk anchors
        (fun ended after => (∃ outcome, ended.1 = .returned outcome) ∧ after.NoProbe)
        (attemptLoop attemptOnce left attempt route routing) ledger := by
  induction left with
  | zero =>
      intro attempt route routing ledger total within
      omega
  | succ left ih =>
      intro attempt route routing ledger total within trying settled
      refine keeps_bind.mpr (keeps_mono (each _ _ _ _ within trying settled) ?_)
      intro step after continues
      cases step with
      | ended ending routing => exact continues
      | again retry rerouted =>
          obtain ⟨more, after_settled, again⟩ := continues
          exact ih (by omega) (by omega) again after_settled

/-- A route for a text may be tried first. -/
theorem trying_first {engines : EngineRegistry Engine} {text : List Char}
    {compatible : LogicalRoute Engine} (valid : ValidInventory routing.inventory)
    (routed : routing.routeForText route text engines = .ok compatible) :
    Trying engines 1 compatible routing
      (AttemptLedger.new : AttemptLedger F Application) := by
  rw [LogicalVoiceRoutingSnapshot.routeForText, bind_eq_ok] at routed
  obtain ⟨resolved, resolves, result⟩ := routed
  obtain rfl := Except.ok.inj result
  obtain ⟨_, definition, resolution, routes⟩ :=
    resolveCurrentWithText_ok (mapError_eq_ok.mp resolves)
  refine ⟨valid, ⟨_, definition, resolution, routes.reported _⟩, Nat.one_pos, rfl, ?_⟩
  exact ⟨fun _ none => absurd none List.not_mem_nil, fun _ none => absurd none List.not_mem_nil,
    rfl⟩

theorem accounts_synthesizeCompatible (valid : ValidInventory routing.inventory) :
    Accounts call.chunk call.anchors
      (fun ended after => (∃ outcome, ended.1 = .returned outcome) ∧ after.NoProbe)
      (call.synthesizeCompatible route routing : Attempting Engine F Parameters Application
        (Ending (PreparedSynthesisOutcome F Parameters Application) ×
          LogicalVoiceRoutingSnapshot)) AttemptLedger.new := by
  have settled : (AttemptLedger.new : AttemptLedger F Application).NoProbe :=
    AttemptLedger.noProbe_of_none rfl
  rw [PreparedSynthesis.synthesizeCompatible]
  split
  · exact ⟨⟨_, rfl⟩, settled⟩
  · rename_i compatible routed
    exact accounts_attemptLoop (fun _ _ _ _ => accounts_attemptOnce)
      MAX_RUNTIME_SYNTHESIS_ATTEMPTS (by omega) (by decide) (trying_first valid routed) settled

theorem accounts_synthesizePrepared (valid : ValidInventory routing.inventory) :
    Accounts call.chunk call.anchors
      (fun ended after => (∃ outcome, ended.1 = .returned outcome) ∧ after.NoProbe)
      (call.synthesizePrepared route routing : Attempting Engine F Parameters Application
        (Ending (PreparedSynthesisOutcome F Parameters Application) ×
          LogicalVoiceRoutingSnapshot)) AttemptLedger.new := by
  have settled : (AttemptLedger.new : AttemptLedger F Application).NoProbe :=
    AttemptLedger.noProbe_of_none rfl
  refine accounts_unlessStale ⟨⟨_, rfl⟩, settled⟩ ?_
  split
  · exact ⟨⟨_, rfl⟩, settled⟩
  · dsimp only
    split
    · -- a native style needs a sink that keeps evidence
      refine keeps_perform_bind.mpr fun evident _ => ⟨trivial, ?_⟩
      split
      · exact accounts_synthesizeCompatible valid
      · exact ⟨⟨_, rfl⟩, settled⟩
    · exact keeps_bind.mpr (accounts_synthesizeCompatible valid)

end Progressive

/-! ## Every run -/

/-- What the runs of a program of attempts look like: there is one for every environment, it
returns and does not panic, each of its exchanges is allowed by the ledger of those before it,
and at its end no recovery probe is held. -/
structure NeverSplices {Outcome : Type} (chunk : List Char) (anchors : List RequestedAnchor)
    (program : Attempting Engine F Parameters Application
      (Ending Outcome × LogicalVoiceRoutingSnapshot)) : Prop where
  terminates : ∀ environment, Runs program (program.run environment []).1
    (program.run environment []).2
  returns : ∀ trace ended, Runs program trace ended → ∃ outcome, ended.1 = .returned outcome
  allowed : ∀ trace ended, Runs program trace ended →
    ∀ before exchange later, trace = before ++ exchange :: later →
      (before.foldl AttemptLedger.next AttemptLedger.new).allows chunk anchors exchange
  settled : ∀ trace ended, Runs program trace ended →
    (trace.foldl AttemptLedger.next AttemptLedger.new :
      AttemptLedger F Application).NoProbe

/-- **Runtime fallback never splices and always settles its probe**, whatever the engines, the
playback sink and the rest of the environment do. -/
theorem fallback_never_splices (call : PreparedSynthesis Engine Parameters Application)
    (route : LogicalRoute Engine) (routing : LogicalVoiceRoutingSnapshot)
    (valid : ValidInventory routing.inventory) :
    NeverSplices call.chunk call.anchors
      (call.synthesizePrepared route routing : Attempting Engine F Parameters Application
        (Ending (PreparedSynthesisOutcome F Parameters Application) ×
          LogicalVoiceRoutingSnapshot)) := by
  have accounts : Accounts call.chunk call.anchors
      (fun ended after => (∃ outcome, ended.1 = .returned outcome) ∧ after.NoProbe)
      (call.synthesizePrepared route routing : Attempting Engine F Parameters Application
        (Ending (PreparedSynthesisOutcome F Parameters Application) ×
          LogicalVoiceRoutingSnapshot)) AttemptLedger.new := accounts_synthesizePrepared valid
  have assumed : ∀ trace, (attemptMonitor call.chunk call.anchors).Assumed
      (AttemptLedger.new : AttemptLedger F Application)
      (trace : List (Exchange (Query Engine F Parameters Application) Query.Answer)) :=
    fun _ _ _ _ _ => trivial
  refine ⟨fun environment => runs_run environment _ [], ?_, ?_, ?_⟩
  · intro trace ended runs
    exact ((keeps_run accounts runs).2 (assumed trace)).1
  · intro trace ended runs before exchange later split
    exact (keeps_run accounts runs).1 before exchange later split (assumed _)
  · intro trace ended runs
    exact ((keeps_run accounts runs).2 (assumed trace)).2

/-- One engine with a default voice, which the voice of the chunk prefers. -/
theorem fallback_never_splices_single_engine :
    let engine : EngineDescriptor :=
      { id := "espeak", availability := .available, health := .healthy
        acss := ⟨true, true, true, true, true, true⟩, textRepertoire := .unicode
        postSynthesisDimensions := []
        voices := [⟨⟨"espeak", "espeak:en"⟩, "English", some "en", none, .available⟩]
        defaultVoiceId := some "espeak:en", espeakVariants := [] }
    let definition : LogicalVoiceDefinition :=
      { id := "voice-bolden", language := some "en", preferences := [.engineDefault "espeak"]
        acss := ⟨none, none, none, none, none, none⟩
        effects := ⟨none, none, none, none, none, none, none⟩ }
    let routing : LogicalVoiceRoutingSnapshot :=
      { definitions := [definition], registryGeneration := 1, layeredDefinitions := []
        engineDefinitions := [], previewChoiceIndex := none, fallbackPolicy := ⟨[], true, none, []⟩
        inventory := [engine], disabledEngineIds := [], enginePermissions := ⟨[], []⟩ }
    let resolution : VoiceResolution :=
      { logicalVoiceId := "voice-bolden", requested := some (.engineDefault "espeak")
        realized := ⟨"espeak", "espeak:en"⟩, reason := .preferred, failedAttempts := [] }
    let route : LogicalRoute Unit :=
      { resolution := resolution, logicalVoiceId := "voice-bolden"
        reportedLogicalVoiceId := some "voice-bolden", engine := ()
        realized := resolution.realized, acss := definition.acss.degradeFor engine.acss
        effects := definition.effects.degradeFor engine.postSynthesisDimensions }
    let call : PreparedSynthesis Unit Unit Unit :=
      { chunk := "hello".toList, anchors := []
        style :=
          { isNative := false, isLegacy := false
            prepare := fun routing route descriptor => .ok
              { registryGeneration := routing.registryGeneration, resolution := route.resolution
                choiceIndex := some 0, choiceId := none
                settings := { voice := route.realized.voiceId, rate := 1, pitch := 1, volume := 1 }
                acss := definition.acss.degradeFor descriptor.acss, effects := route.effects
                native := .notRequested, nativeApplication := none } }
        engines := ((EngineRegistry.new.insert ⟨some (), engine⟩).toOption).getD .new
        checks := ⟨fun _ _ _ => .ok (), fun _ => .ok ()⟩ }
    NeverSplices call.chunk call.anchors
      (call.synthesizePrepared route routing : Attempting Unit ℚ Unit Unit
        (Ending (PreparedSynthesisOutcome ℚ Unit Unit) × LogicalVoiceRoutingSnapshot)) := by
  intro engine definition routing resolution route call
  exact fallback_never_splices call route routing (.of_validated (by decide) (by decide))

end Omnivox.Routing
