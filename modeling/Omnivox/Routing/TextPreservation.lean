import Mathlib
import Omnivox.Routing.Attempts
import Omnivox.Routing.TextRetries

/-!
# Text preservation

A ledger follows the snapshot through the failures that are noted, and says where an engine
call may go: to the voice that the chunk leads to (`TextLedger.allows`). A first attempt goes
there. A retry is resolved without the text, so it goes there if the engine that is first in
line supports the chunk (`TextLedger.assumes`), which nothing ensures.

Every run of either loop keeps to the ledger as long as that holds
(`fallback_preserves_text_of_first_in_line`); a run in which it fails sends the chunk to an
engine that cannot speak it (`retry_ignores_text`).
-/

set_option autoImplicit false

namespace Omnivox.Routing

open Engines Foundations Synthesis

variable {Engine F Parameters Application : Type}

/-- The snapshot as failures have changed it, and a failure that no retry has followed yet. -/
structure TextLedger where
  snapshot : LogicalVoiceRoutingSnapshot
  pending : Option (Nat × TtsError)
  deriving Repr, DecidableEq

namespace TextLedger

def next (ledger : TextLedger) :
    Exchange (Query Engine F Parameters Application) Query.Answer → TextLedger
  | ⟨.attemptFailed realized attempt error, _⟩ =>
      { snapshot := ledger.snapshot.recorded realized error, pending := some (attempt, error) }
  | ⟨.retrying _, _⟩ => { ledger with pending := none }
  | _ => ledger

/-- A call with the chunk goes to the voice that the chunk leads to, on an engine that supports
every character of it. -/
def GoesTo (ledger : TextLedger) (engines : EngineRegistry Engine) (logicalVoiceId : String)
    (chunk : List Char) (request : SynthesisRequest) : Prop :=
  request.text = chunk ∧ ∃ realized, request.requestedVoice = some realized ∧
    Reaches ledger.snapshot engines logicalVoiceId chunk realized ∧
    Supports ledger.snapshot.inventory realized.engineId chunk

/-- Calls and retries go where the chunk leads. -/
def allows (engines : EngineRegistry Engine) (logicalVoiceId : String) (chunk : List Char)
    (ledger : TextLedger) :
    Exchange (Query Engine F Parameters Application) Query.Answer → Prop
  | ⟨.synthesize _ request, _⟩ => ledger.GoesTo engines logicalVoiceId chunk request
  | ⟨.synthesizeWithParameters _ request _, _⟩ =>
      ledger.GoesTo engines logicalVoiceId chunk request
  | ⟨.synthesizeStream _ request _, _⟩ => ledger.GoesTo engines logicalVoiceId chunk request
  | ⟨.retrying realized, _⟩ => Reaches ledger.snapshot engines logicalVoiceId chunk realized
  | _ => True

/-- A failure that may be retried leaves an engine first in line that supports the chunk. -/
def assumes (logicalVoiceId : String) (chunk : List Char) (ledger : TextLedger) :
    Exchange (Query Engine F Parameters Application) Query.Answer → Prop
  | ⟨.attemptFailed realized attempt error, _⟩ => attempt < MAX_RUNTIME_SYNTHESIS_ATTEMPTS →
      (∀ reason, error ≠ .invalidParameter reason) →
        FirstInLineSpeaks (ledger.snapshot.recorded realized error) logicalVoiceId chunk
  | _ => True

/-- A failure that no retry followed was the last one allowed, refused a parameter, or left
nothing for the chunk. -/
def Unretried (engines : EngineRegistry Engine) (logicalVoiceId : String) (chunk : List Char)
    (ledger : TextLedger) : Prop :=
  ∀ attempt error, ledger.pending = some (attempt, error) →
    attempt = MAX_RUNTIME_SYNTHESIS_ATTEMPTS ∨ (∃ reason, error = .invalidParameter reason) ∨
      ∀ realized, ¬ Reaches ledger.snapshot engines logicalVoiceId chunk realized

/-- Failures leave the repertoires as they are. -/
theorem supports_after {engineId : String} {text : List Char}
    (trace : List (Exchange (Query Engine F Parameters Application) Query.Answer))
    (ledger : TextLedger) :
    Supports (trace.foldl next ledger).snapshot.inventory engineId text ↔
      Supports ledger.snapshot.inventory engineId text := by
  induction trace generalizing ledger with
  | nil => exact Iff.rfl
  | cons exchange rest ih =>
      rw [List.foldl_cons, ih]
      rcases exchange with ⟨query, answer⟩
      cases query
      case attemptFailed realized attempt error => exact supports_recorded
      all_goals exact Iff.rfl

end TextLedger

/-- Where the chunk of a voice goes, as a monitor. -/
def textMonitor (engines : EngineRegistry Engine) (logicalVoiceId : String) (chunk : List Char) :
    Monitor (Query Engine F Parameters Application) Query.Answer where
  State := TextLedger
  assumes := TextLedger.assumes logicalVoiceId chunk
  allows := TextLedger.allows engines logicalVoiceId chunk
  next := TextLedger.next

/-! ## What the ledger does not read -/

/-- A query that neither calls an engine with a text nor notes a failure or a retry. -/
def Query.Aside : Query Engine F Parameters Application → Prop
  | .synthesize _ _ => False
  | .synthesizeWithParameters _ _ _ => False
  | .synthesizeStream _ _ _ => False
  | .attemptFailed _ _ _ => False
  | .retrying _ => False
  | _ => True

/-- A program of asides. -/
abbrev Asides {α : Type} (program : Attempting Engine F Parameters Application α) : Prop :=
  Asks Query.Aside program

section Asides

variable {checks : NativeChecks Parameters Application}
  {sink : RoutedAttemptStreamSink Parameters Application}

theorem asides_tell {query : Query Engine F Parameters Application} (aside : query.Aside) :
    Asides (tell query) := ⟨aside, fun _ => trivial⟩

theorem asides_isStale : Asides (isStale : Attempting Engine F Parameters Application Bool) :=
  asks_perform trivial

theorem asides_checkNativeReceipt :
    Asides (sink.checkNativeReceipt checks :
      Attempting Engine F Parameters Application (SinkOutcome Parameters Application Unit)) := by
  rw [RoutedAttemptStreamSink.checkNativeReceipt]
  split
  · refine asks_bind asides_isStale fun stale => ?_
    split
    · exact asks_pure _
    · exact asks_pure _
  · exact asks_pure _

theorem asides_drainMarkers {pending : List (List SynthesisMarker × List ResolvedAnchor)} :
    Asides (RoutedAttemptStreamSink.drainMarkers pending sink :
      Attempting Engine F Parameters Application (SinkOutcome Parameters Application Unit)) := by
  induction pending generalizing sink with
  | nil => exact asks_pure _
  | cons given rest ih =>
      refine asks_bind (asks_perform trivial) fun answer => ?_
      exact asks_andThen (asks_pure _) fun sink _ => ih

theorem asides_commitPreamble :
    Asides (sink.commitPreamble checks :
      Attempting Engine F Parameters Application (SinkOutcome Parameters Application Unit)) := by
  refine asks_andThen asides_checkNativeReceipt fun sink _ => ?_
  split
  · exact asks_pure _
  · split
    · exact asks_pure _
    · refine asks_bind (asks_perform trivial) fun answer => ?_
      exact asks_andThen (asks_pure _) fun sink _ => asides_drainMarkers

theorem asides_handle (callback : Callback F Application) :
    Asides (sink.handle checks callback :
      Attempting Engine F Parameters Application (SinkOutcome Parameters Application Unit)) := by
  cases callback with
  | start given =>
      refine asks_andThen asides_checkNativeReceipt fun sink _ => ?_
      split
      · exact asks_pure _
      · split
        · exact asks_pure _
        · exact asks_pure _
  | audio given =>
      refine asks_andThen asides_checkNativeReceipt fun sink _ => ?_
      split
      · split
        · exact asks_pure _
        · exact asks_pure _
      · refine asks_andThen asides_commitPreamble fun sink _ => ?_
        refine asks_bind (asks_perform trivial) fun answer => ?_
        exact asks_andThen (asks_pure _) fun sink _ => asks_pure _
  | markers given anchors =>
      refine asks_andThen asides_checkNativeReceipt fun sink _ => ?_
      split
      · exact asks_bind (asks_perform trivial) fun answer => asks_pure _
      · split
        · exact asks_pure _
        · exact asks_pure _
  | receipt application =>
      rw [RoutedAttemptStreamSink.handle]
      split
      · exact asks_pure _
      · exact asks_pure _

/-- Whatever an engine emits, driving the sink is an aside. -/
theorem asides_drive (script : EngineScript F Application) :
    Asides (RoutedAttemptStreamSink.drive checks script sink :
      Attempting Engine F Parameters Application
        (SinkOutcome Parameters Application SynthesisStreamCompletion)) := by
  induction script generalizing sink with
  | returns answer =>
      exact asks_bind (asides_tell trivial) fun _ => asks_pure _
  | emits callback next ih =>
      refine asks_bind (asides_tell trivial) fun _ => ?_
      exact asks_bind (asides_handle callback) fun handled => ih handled.2

variable {call : PreparedSynthesis Engine Parameters Application}

theorem asides_completeStream {request : SynthesisRequest}
    {completion : SynthesisStreamCompletion} :
    Asides (call.completeStream request sink completion : Attempting Engine F Parameters Application
      (SinkOutcome Parameters Application (Option (SynthesisResult F)))) := by
  refine asks_andThen ?_ fun sink _ => ?_
  · split
    · exact asks_andThen asides_checkNativeReceipt fun sink _ => asks_pure _
    · exact asks_pure _
  · split
    · exact asks_andThen asides_commitPreamble fun sink _ => asks_pure _
    · exact asks_pure _

theorem asides_runStream {request : SynthesisRequest} {script : EngineScript F Application} :
    Asides (call.runStream request script sink : Attempting Engine F Parameters Application
      (SinkOutcome Parameters Application
        (SynthesisStreamCompletion × Option (SynthesisResult F)))) :=
  asks_andThen (asides_drive script) fun _ _ =>
    asks_andThen asides_completeStream fun _ _ => asks_pure _

theorem asides_releaseProbeIfHeld {engineId : String} {permit : EnginePermit} :
    Asides (releaseProbeIfHeld engineId permit :
      Attempting Engine F Parameters Application Unit) := by
  rw [releaseProbeIfHeld]
  split
  · exact asides_tell trivial
  · exact asks_pure _

theorem asides_recordSynthesisFailure {route : LogicalRoute Engine} {error : TtsError}
    {permit : EnginePermit} :
    Asides (recordSynthesisFailure route error permit :
      Attempting Engine F Parameters Application Unit) := by
  rw [recordSynthesisFailure.eq_def]
  split
  · exact asides_tell trivial
  · exact asides_tell trivial
  · exact asides_releaseProbeIfHeld
  · exact asides_releaseProbeIfHeld
  · exact asides_releaseProbeIfHeld

theorem asides_admitProbe {route : LogicalRoute Engine} :
    Asides (admitProbe route : Attempting Engine F Parameters Application Admission) := by
  refine asks_bind (asks_perform trivial) fun answer => ?_
  cases answer with
  | ok _ => exact asks_pure _
  | error preparationError =>
      refine asks_bind asides_isStale fun stale => ?_
      split
      · exact asks_bind asides_releaseProbeIfHeld fun _ => asks_pure _
      · exact asks_bind (asides_tell trivial) fun _ => asks_pure _

theorem asides_admitAttempt {route : LogicalRoute Engine} :
    Asides (admitAttempt route : Attempting Engine F Parameters Application Admission) := by
  refine asks_bind asides_isStale fun stale => ?_
  split
  · exact asks_pure _
  · refine asks_bind (asks_perform trivial) fun access => ?_
    cases access with
    | denied reason => exact asks_pure _
    | permit permit =>
        refine asks_bind asides_isStale fun stale => ?_
        split
        · exact asks_bind asides_releaseProbeIfHeld fun _ => asks_pure _
        · split
          · exact asides_admitProbe
          · exact asks_pure _

end Asides

/-! ## The loops -/

/-- What the attempts keep by the ledger of a text. -/
abbrev KeepsText (engines : EngineRegistry Engine) (logicalVoiceId : String) (chunk : List Char)
    {α : Type} (wanted : α → TextLedger → Prop)
    (program : Attempting Engine F Parameters Application α) (ledger : TextLedger) : Prop :=
  Keeps (textMonitor engines logicalVoiceId chunk) wanted program ledger

/-- A route of the ledger's snapshot that the chunk leads to. -/
structure OnRoute (engines : EngineRegistry Engine) (logicalVoiceId : String) (chunk : List Char)
    (route : LogicalRoute Engine) (routing : LogicalVoiceRoutingSnapshot) (ledger : TextLedger) :
    Prop where
  coherent : Coherent routing
  named : route.logicalVoiceId = logicalVoiceId
  routes : ∃ text definition resolution, Routes routing engines text route definition resolution
  reaches : Reaches routing engines logicalVoiceId chunk route.realized
  ledger : ledger = ⟨routing, none⟩

/-- What an attempt leads to. -/
def ContinuesText {Outcome : Type} (engines : EngineRegistry Engine) (logicalVoiceId : String)
    (chunk : List Char) (exhausted : Outcome) : LoopStep Engine Outcome → TextLedger → Prop
  | .ended ending _, after => after.Unretried engines logicalVoiceId chunk ∧
      (ending = .returned exhausted → after.pending ≠ none)
  | .again route routing, after => OnRoute engines logicalVoiceId chunk route routing after

/-- How a loop ends: it is exhausted without a failure only if the chunk led nowhere. -/
def EndsText {Outcome : Type} (engines : EngineRegistry Engine) (logicalVoiceId : String)
    (chunk : List Char) (exhausted : Outcome)
    (ended : Ending Outcome × LogicalVoiceRoutingSnapshot) (after : TextLedger) : Prop :=
  after.Unretried engines logicalVoiceId chunk ∧
    (ended.1 = .returned exhausted → after.pending = none →
      ∀ realized, ¬ Reaches after.snapshot engines logicalVoiceId chunk realized)

section Loops

variable {engines : EngineRegistry Engine} {logicalVoiceId : String} {chunk : List Char}
  {ledger : TextLedger} {route : LogicalRoute Engine} {routing : LogicalVoiceRoutingSnapshot}
  {error : TtsError} {attempt : Nat} {permit : EnginePermit}

/-- An aside leaves the ledger to what follows. -/
theorem keepsText_aside {α β : Type} {wanted : β → TextLedger → Prop}
    {first : Attempting Engine F Parameters Application α}
    {next : α → Attempting Engine F Parameters Application β} (aside : Asides first)
    (later : ∀ result, KeepsText engines logicalVoiceId chunk wanted (next result) ledger) :
    KeepsText engines logicalVoiceId chunk wanted (first >>= next) ledger := by
  have quiet : ∀ query : Query Engine F Parameters Application, query.Aside → ∀ answer state,
      (textMonitor engines logicalVoiceId chunk).allows state ⟨query, answer⟩ ∧
        (textMonitor engines logicalVoiceId chunk).next state ⟨query, answer⟩ = state := by
    intro query aside answer state
    cases query
    all_goals first
      | exact ⟨trivial, rfl⟩
      | exact aside.elim
  refine keeps_bind.mpr (keeps_mono (keeps_of_asks quiet aside) ?_)
  rintro result _ rfl
  exact later result

theorem unretried_of_none (settled : ledger.pending = none) :
    ledger.Unretried engines logicalVoiceId chunk := by
  intro attempt error pending
  rw [settled] at pending
  cases pending

/-- An end without a failure, and not for want of a route. -/
theorem OnRoute.ends {Outcome : Type} {exhausted outcome : Outcome}
    (on_route : OnRoute engines logicalVoiceId chunk route routing ledger)
    (other : outcome ≠ exhausted) :
    ContinuesText engines logicalVoiceId chunk exhausted
      (.ended (.returned outcome) routing : LoopStep Engine Outcome) ledger := by
  have settled : ledger.pending = none := by rw [on_route.ledger]
  refine ⟨unretried_of_none settled, ?_⟩
  intro same
  exact absurd (Ending.returned.inj same) other

/-- A selected retry is a route that the chunk leads to. -/
def SelectsText (engines : EngineRegistry Engine) (logicalVoiceId : String) (chunk : List Char) :
    Outcome LogicalVoiceRoutingSnapshot (RuntimeSynthesisOutcome F) (LogicalRoute Engine) →
      TextLedger → Prop
  | (routing, .ok retry), after => OnRoute engines logicalVoiceId chunk retry routing after
  | (_, .error _), after => after.Unretried engines logicalVoiceId chunk ∧ after.pending ≠ none

theorem keepsText_selectRetry (within : attempt ≤ MAX_RUNTIME_SYNTHESIS_ATTEMPTS)
    (coherent : Coherent routing)
    (routes : ∃ text definition resolution, Routes routing engines text route definition resolution)
    (speaks : attempt < MAX_RUNTIME_SYNTHESIS_ATTEMPTS →
      (∀ reason, error ≠ .invalidParameter reason) →
      FirstInLineSpeaks (routing.recorded route.realized error) route.logicalVoiceId chunk) :
    KeepsText engines route.logicalVoiceId chunk
      (SelectsText engines route.logicalVoiceId chunk)
      (selectRetry route routing engines error attempt : Attempting Engine F Parameters Application
        (Outcome LogicalVoiceRoutingSnapshot (RuntimeSynthesisOutcome F) (LogicalRoute Engine)))
      ⟨routing.recorded route.realized error, some (attempt, error)⟩ := by
  obtain ⟨text, definition, resolution, routes⟩ := routes
  have recorded : (routing.rerouteAfterFailure route error engines).1 =
      routing.recorded route.realized error := rerouteAfterFailure_snapshot route error
  have retried : ∀ retry, (routing.rerouteAfterFailure route error engines).2 = .retry retry →
      ∃ definition resolution, Routes (routing.recorded route.realized error) engines none retry
        definition resolution := by
    intro retry same
    obtain ⟨_, resolved, found, _, rfl⟩ := rerouteAfterFailure_retry same
    rw [recorded] at found
    obtain ⟨_, definition, resolution, again⟩ := resolveCurrentWithText_ok found
    exact ⟨definition, resolution, again.reported _⟩
  have reroutes := fun more => rerouteAfterFailure_text coherent routes (speaks more)
  rw [selectRetry]
  generalize routing.rerouteAfterFailure route error engines = outcome at recorded retried reroutes
  obtain ⟨next, reroute⟩ := outcome
  obtain rfl : next = routing.recorded route.realized error := recorded
  dsimp only
  split
  · rename_i last
    refine ⟨?_, by simp⟩
    rintro _ _ ⟨⟩
    exact Or.inl last
  · rename_i not_last
    have rerouted := reroutes (by omega)
    cases reroute with
    | retry retry =>
        obtain ⟨named, reaches⟩ := rerouted
        refine keeps_perform_bind.mpr fun _ _ => ⟨reaches, ?_⟩
        obtain ⟨definition, resolution, again⟩ := retried retry rfl
        exact ⟨coherent.recorded _ _, named, ⟨none, definition, resolution, again⟩, reaches, rfl⟩
    | notRetryable =>
        refine ⟨?_, by simp⟩
        rintro _ _ ⟨⟩
        exact Or.inr (Or.inl rerouted)
    | exhausted reason =>
        refine ⟨?_, by simp⟩
        rintro _ _ ⟨⟩
        exact Or.inr (Or.inr rerouted)

/-- **A retry goes where the chunk leads, or there is nowhere to go.** -/
theorem keepsText_retryAfter {Outcome : Type} {exhausted : Outcome}
    {finish : RuntimeSynthesisOutcome F → Ending Outcome}
    (within : attempt ≤ MAX_RUNTIME_SYNTHESIS_ATTEMPTS)
    (on_route : OnRoute engines logicalVoiceId chunk route routing ledger) :
    KeepsText engines logicalVoiceId chunk (ContinuesText engines logicalVoiceId chunk exhausted)
      (retryAfter finish route routing engines error attempt :
        Attempting Engine F Parameters Application (LoopStep Engine Outcome)) ledger := by
  obtain ⟨coherent, rfl, routes, _, rfl⟩ := on_route
  refine keeps_perform_bind.mpr fun _ assumed => ⟨trivial, ?_⟩
  refine keeps_bind.mpr (keeps_mono (keepsText_selectRetry within coherent routes assumed) ?_)
  rintro ⟨next, selected⟩ after selects
  cases selected with
  | ok retry => exact selects
  | error outcome => exact ⟨selects.1, fun _ => selects.2⟩

/-- A call to the engine of the route goes where the chunk leads. -/
theorem OnRoute.goesTo {request : SynthesisRequest}
    (on_route : OnRoute engines logicalVoiceId chunk route routing ledger)
    (same_text : request.text = chunk) (voice : request.requestedVoice = some route.realized) :
    ledger.GoesTo engines logicalVoiceId chunk request := by
  rw [on_route.ledger]
  exact ⟨same_text, route.realized, voice, on_route.reaches,
    on_route.reaches.supports on_route.coherent.valid⟩

/-- A route for the chunk is tried first. -/
theorem onRoute_first {compatible : LogicalRoute Engine} (coherent : Coherent routing)
    (routed : routing.routeForText route chunk engines = .ok compatible) :
    OnRoute engines route.logicalVoiceId chunk compatible routing ⟨routing, none⟩ := by
  rw [LogicalVoiceRoutingSnapshot.routeForText, bind_eq_ok] at routed
  obtain ⟨resolved, resolves, result⟩ := routed
  obtain rfl := Except.ok.inj result
  obtain ⟨named, definition, resolution, routes⟩ :=
    resolveCurrentWithText_ok (mapError_eq_ok.mp resolves)
  exact ⟨coherent, named, ⟨_, definition, resolution, routes.reported _⟩, named ▸ routes.reaches,
    rfl⟩

/-- **The attempts go on while some are left**, by induction on how many. -/
theorem keepsText_attemptLoop {Outcome : Type} {exhausted : Outcome}
    {attemptOnce : Nat → LogicalRoute Engine → LogicalVoiceRoutingSnapshot →
      Attempting Engine F Parameters Application (LoopStep Engine Outcome)}
    (each : ∀ attempt route routing ledger, attempt ≤ MAX_RUNTIME_SYNTHESIS_ATTEMPTS →
      OnRoute engines logicalVoiceId chunk route routing ledger →
        KeepsText engines logicalVoiceId chunk
          (ContinuesText engines logicalVoiceId chunk exhausted)
          (attemptOnce attempt route routing) ledger) (left : Nat) :
    ∀ {attempt : Nat} {route : LogicalRoute Engine} {routing : LogicalVoiceRoutingSnapshot}
      {ledger : TextLedger}, attempt + left = MAX_RUNTIME_SYNTHESIS_ATTEMPTS + 1 →
      OnRoute engines logicalVoiceId chunk route routing ledger →
      KeepsText engines logicalVoiceId chunk (EndsText engines logicalVoiceId chunk exhausted)
        (attemptLoop attemptOnce left attempt route routing) ledger := by
  induction left with
  | zero =>
      intro attempt route routing ledger _ on_route
      refine ⟨unretried_of_none (by rw [on_route.ledger]), ?_⟩
      intro panicked
      cases panicked
  | succ left ih =>
      intro attempt route routing ledger total on_route
      refine keeps_bind.mpr (keeps_mono (each _ _ _ _ (by omega) on_route) ?_)
      intro step after continues
      cases step with
      | ended ending routing =>
          refine ⟨continues.1, ?_⟩
          intro same settled
          exact absurd settled (continues.2 same)
      | again retry rerouted => exact ih (by omega) continues

end Loops

/-! ## The progressive loop -/

section Progressive

variable {call : PreparedSynthesis Engine Parameters Application} {logicalVoiceId : String}
  {ledger : TextLedger} {route : LogicalRoute Engine} {routing : LogicalVoiceRoutingSnapshot}
  {error : TtsError} {attempt : Nat} {permit : EnginePermit}
  {prepared : PreparedVoiceAttempt Parameters Application}

/-- What one attempt of the progressive loop keeps. -/
abbrev PreparedText (call : PreparedSynthesis Engine Parameters Application)
    (logicalVoiceId : String)
    (program : Attempting Engine F Parameters Application
      (LoopStep Engine (PreparedSynthesisOutcome F Parameters Application)))
    (ledger : TextLedger) : Prop :=
  KeepsText call.engines logicalVoiceId call.chunk
    (ContinuesText call.engines logicalVoiceId call.chunk .exhausted) program ledger

/-- Release the permit and end. -/
theorem preparedText_released {outcome : PreparedSynthesisOutcome F Parameters Application}
    (on_route : OnRoute call.engines logicalVoiceId call.chunk route routing ledger)
    (other : outcome ≠ .exhausted) :
    PreparedText call logicalVoiceId
      (do
        releaseProbeIfHeld route.realized.engineId permit
        pure (endedWith routing outcome) :
        Attempting Engine F Parameters Application
          (LoopStep Engine (PreparedSynthesisOutcome F Parameters Application))) ledger :=
  keepsText_aside asides_releaseProbeIfHeld fun _ => on_route.ends other

/-- Settle the permit and look for a retry. -/
theorem preparedText_failedAttempt (within : attempt ≤ MAX_RUNTIME_SYNTHESIS_ATTEMPTS)
    (on_route : OnRoute call.engines logicalVoiceId call.chunk route routing ledger) :
    PreparedText call logicalVoiceId
      (call.failedAttempt attempt route routing permit error :
        Attempting Engine F Parameters Application
          (LoopStep Engine (PreparedSynthesisOutcome F Parameters Application))) ledger :=
  keepsText_aside asides_recordSynthesisFailure fun _ => keepsText_retryAfter within on_route

/-- A buffered synthesis calls the engine of the route, if any. -/
theorem keepsText_synthesizeBuffered
    (on_route : OnRoute call.engines logicalVoiceId call.chunk route routing ledger) :
    KeepsText call.engines logicalVoiceId call.chunk (fun _ after => after = ledger)
      (call.synthesizeBuffered route (call.request prepared route) prepared :
        Attempting Engine F Parameters Application
          (Except TtsError (SynthesisResult F × PreparedVoiceAttempt Parameters Application)))
      ledger := by
  have goes : ledger.GoesTo call.engines logicalVoiceId call.chunk (call.request prepared route) :=
    on_route.goesTo rfl rfl
  rw [PreparedSynthesis.synthesizeBuffered]
  split
  · exact keeps_perform_bind.mpr fun _ _ => ⟨goes, rfl⟩
  · split
    · exact rfl
    · exact keeps_perform_bind.mpr fun _ _ => ⟨goes, rfl⟩
  · exact keeps_perform_bind.mpr fun _ _ => ⟨goes, rfl⟩

theorem preparedText_bufferedAttempt (within : attempt ≤ MAX_RUNTIME_SYNTHESIS_ATTEMPTS)
    (on_route : OnRoute call.engines logicalVoiceId call.chunk route routing ledger)
    (support : AnchorSupport) :
    PreparedText call logicalVoiceId
      (call.bufferedAttempt attempt route routing permit support prepared :
        Attempting Engine F Parameters Application
          (LoopStep Engine (PreparedSynthesisOutcome F Parameters Application))) ledger := by
  refine keeps_bind.mpr (keeps_mono (keepsText_synthesizeBuffered on_route) ?_)
  rintro answer _ rfl
  dsimp only
  split
  · refine keepsText_aside (asides_tell trivial) fun _ => ?_
    refine keepsText_aside asides_isStale fun stale => ?_
    split
    · exact on_route.ends (by simp)
    · exact on_route.ends (by simp)
  · refine keepsText_aside asides_isStale fun stale => ?_
    split
    · exact preparedText_released on_route (by simp)
    · exact preparedText_failedAttempt within on_route

theorem preparedText_streamAttempt (within : attempt ≤ MAX_RUNTIME_SYNTHESIS_ATTEMPTS)
    (on_route : OnRoute call.engines logicalVoiceId call.chunk route routing ledger) :
    PreparedText call logicalVoiceId
      (call.streamAttempt attempt route routing permit prepared :
        Attempting Engine F Parameters Application
          (LoopStep Engine (PreparedSynthesisOutcome F Parameters Application))) ledger := by
  refine keeps_perform_bind.mpr fun script _ => ⟨on_route.goesTo rfl rfl, ?_⟩
  refine keepsText_aside asides_runStream ?_
  rintro ⟨sink, answer⟩
  cases answer with
  | ok completed =>
      refine keepsText_aside (asides_tell trivial) fun _ => ?_
      refine keepsText_aside asides_isStale fun stale => ?_
      split
      · exact on_route.ends (by simp)
      · split
        · exact on_route.ends (by simp)
        · exact on_route.ends (by simp)
  | error error =>
      refine keepsText_aside asides_isStale fun stale => ?_
      split
      · exact preparedText_released on_route (by simp)
      · split
        · exact preparedText_released on_route (by simp)
        · split
          · exact keepsText_aside asides_recordSynthesisFailure fun _ => on_route.ends (by simp)
          · exact preparedText_failedAttempt within on_route

theorem preparedText_attemptOnce (within : attempt ≤ MAX_RUNTIME_SYNTHESIS_ATTEMPTS)
    (on_route : OnRoute call.engines logicalVoiceId call.chunk route routing ledger) :
    PreparedText call logicalVoiceId
      (call.attemptOnce attempt route routing : Attempting Engine F Parameters Application
        (LoopStep Engine (PreparedSynthesisOutcome F Parameters Application))) ledger := by
  refine keepsText_aside asides_admitAttempt fun admission => ?_
  cases admission with
  | cancelled => exact on_route.ends (by simp)
  | failed error => exact keepsText_retryAfter within on_route
  | admitted permit =>
      refine keepsText_aside (asks_perform trivial) fun described => ?_
      generalize call.style.prepare routing route described.descriptor = preparation
      cases preparation with
      | error message =>
          refine keepsText_aside asides_releaseProbeIfHeld fun _ => ?_
          exact keepsText_aside (asides_tell trivial) fun _ => on_route.ends (by simp)
      | ok prepared =>
          refine keepsText_aside (asks_perform trivial) fun answer => ?_
          cases answer with
          | error error => exact preparedText_released on_route (by simp)
          | ok _ =>
              refine keepsText_aside asides_isStale fun stale => ?_
              split
              · exact preparedText_released on_route (by simp)
              · split
                · exact preparedText_bufferedAttempt within on_route _
                · exact preparedText_streamAttempt within on_route

theorem keepsText_synthesizePrepared (coherent : Coherent routing) :
    KeepsText call.engines route.logicalVoiceId call.chunk
      (EndsText call.engines route.logicalVoiceId call.chunk .exhausted)
      (call.synthesizePrepared route routing : Attempting Engine F Parameters Application
        (Ending (PreparedSynthesisOutcome F Parameters Application) ×
          LogicalVoiceRoutingSnapshot)) ⟨routing, none⟩ := by
  have cancelled : ∀ outcome : PreparedSynthesisOutcome F Parameters Application,
      outcome ≠ .exhausted → EndsText call.engines route.logicalVoiceId call.chunk .exhausted
        (.returned outcome, routing) ⟨routing, none⟩ := by
    intro outcome other
    refine ⟨unretried_of_none rfl, ?_⟩
    intro same
    exact absurd (Ending.returned.inj same) other
  have compatible : KeepsText call.engines route.logicalVoiceId call.chunk
      (EndsText call.engines route.logicalVoiceId call.chunk .exhausted)
      (call.synthesizeCompatible route routing : Attempting Engine F Parameters Application
        (Ending (PreparedSynthesisOutcome F Parameters Application) ×
          LogicalVoiceRoutingSnapshot)) ⟨routing, none⟩ := by
    rw [PreparedSynthesis.synthesizeCompatible]
    cases routed : routing.routeForText route call.chunk call.engines with
    | error reason =>
        exact ⟨unretried_of_none rfl, fun _ _ => coherent.unroutable routed⟩
    | ok compatible =>
        exact keepsText_attemptLoop (fun _ _ _ _ => preparedText_attemptOnce)
          MAX_RUNTIME_SYNTHESIS_ATTEMPTS (by omega) (onRoute_first coherent routed)
  refine keepsText_aside asides_isStale fun stale => ?_
  split
  · exact cancelled _ (by simp)
  · split
    · exact cancelled _ (by simp)
    · dsimp only
      split
      · refine keepsText_aside (asks_perform trivial) fun evident => ?_
        split
        · exact compatible
        · exact cancelled _ (by simp)
      · exact compatible

end Progressive

/-! ## The buffered loop -/

section Buffered

variable {call : BufferedSynthesis Engine} {logicalVoiceId : String} {ledger : TextLedger}
  {route : LogicalRoute Engine} {routing : LogicalVoiceRoutingSnapshot} {attempt : Nat}

theorem keepsText_synthesizeOnce
    (on_route : OnRoute call.engines logicalVoiceId call.chunk route routing ledger) :
    KeepsText call.engines logicalVoiceId call.chunk (fun _ after => after = ledger)
      (call.synthesizeOnce route :
        Attempting Engine F Parameters Application (Except TtsError (SynthesisResult F)))
      ledger := by
  have styled : Asides (call.attemptAcss route :
      Attempting Engine F Parameters Application AcssApplication) := by
    rw [BufferedSynthesis.attemptAcss]
    split
    · exact asks_pure _
    · exact asks_bind (asks_perform trivial) fun _ => asks_pure _
  refine keepsText_aside styled fun acss => ?_
  refine keeps_perform_bind.mpr fun answer _ => ⟨on_route.goesTo rfl rfl, ?_⟩
  cases answer with
  | error error => exact rfl
  | ok result => exact keepsText_aside (asks_perform trivial) fun _ => rfl

theorem keepsText_attemptOnce (within : attempt ≤ MAX_RUNTIME_SYNTHESIS_ATTEMPTS)
    (on_route : OnRoute call.engines logicalVoiceId call.chunk route routing ledger) :
    KeepsText call.engines logicalVoiceId call.chunk
      (ContinuesText call.engines logicalVoiceId call.chunk .exhausted)
      (call.attemptOnce attempt route routing : Attempting Engine F Parameters Application
        (LoopStep Engine (RuntimeSynthesisOutcome F))) ledger := by
  refine keepsText_aside asides_admitAttempt fun admission => ?_
  cases admission with
  | cancelled => exact on_route.ends (by simp)
  | failed error => exact keepsText_retryAfter within on_route
  | admitted permit =>
      refine keeps_bind.mpr (keeps_mono (keepsText_synthesizeOnce on_route) ?_)
      rintro answer _ rfl
      cases answer with
      | ok result =>
          refine keepsText_aside (asides_tell trivial) fun _ => ?_
          refine keepsText_aside asides_isStale fun stale => ?_
          split
          · exact on_route.ends (by simp)
          · exact on_route.ends (by simp)
      | error error =>
          refine keepsText_aside asides_isStale fun stale => ?_
          split
          · exact keepsText_aside asides_releaseProbeIfHeld fun _ => on_route.ends (by simp)
          · exact keepsText_aside asides_recordSynthesisFailure fun _ =>
              keepsText_retryAfter within on_route

theorem keepsText_synthesizeWithRuntimeFallback (coherent : Coherent routing) :
    KeepsText call.engines route.logicalVoiceId call.chunk
      (EndsText call.engines route.logicalVoiceId call.chunk .exhausted)
      (call.synthesizeWithRuntimeFallback route routing :
        Attempting Engine F Parameters Application
          (Ending (RuntimeSynthesisOutcome F) × LogicalVoiceRoutingSnapshot)) ⟨routing, none⟩ := by
  have ends : ∀ outcome : RuntimeSynthesisOutcome F, outcome ≠ .exhausted →
      EndsText call.engines route.logicalVoiceId call.chunk .exhausted
        (.returned outcome, routing) ⟨routing, none⟩ := by
    intro outcome other
    refine ⟨unretried_of_none rfl, ?_⟩
    intro same
    exact absurd (Ending.returned.inj same) other
  refine keepsText_aside asides_isStale fun stale => ?_
  split
  · exact ends _ (by simp)
  · split
    · exact ends _ (by simp)
    · cases routed : routing.routeForText route call.chunk call.engines with
      | error reason =>
          exact ⟨unretried_of_none rfl, fun _ _ => coherent.unroutable routed⟩
      | ok compatible =>
          exact keepsText_attemptLoop (fun _ _ _ _ => keepsText_attemptOnce)
            MAX_RUNTIME_SYNTHESIS_ATTEMPTS (by omega) (onRoute_first coherent routed)

end Buffered

/-! ## Every run -/

/-- Every call and every retry goes where the chunk leads, as long as every failure up to it
has left an engine first in line that supports the chunk; and after a run of such failures the
loop has stopped looking only where it had to. -/
structure KeepsToText {Outcome : Type} (engines : EngineRegistry Engine)
    (logicalVoiceId : String) (chunk : List Char) (routing : LogicalVoiceRoutingSnapshot)
    (exhausted : Outcome) (program : Attempting Engine F Parameters Application
      (Ending Outcome × LogicalVoiceRoutingSnapshot)) : Prop where
  allowed : ∀ trace ended, Runs program trace ended →
    ∀ before exchange later, trace = before ++ exchange :: later →
      (textMonitor engines logicalVoiceId chunk).Assumed (⟨routing, none⟩ : TextLedger)
        (before ++ [exchange]) →
      (before.foldl TextLedger.next ⟨routing, none⟩).allows engines logicalVoiceId chunk exchange
  ends : ∀ trace ended, Runs program trace ended →
    (textMonitor engines logicalVoiceId chunk).Assumed (⟨routing, none⟩ : TextLedger) trace →
    EndsText engines logicalVoiceId chunk exhausted ended
      (trace.foldl TextLedger.next ⟨routing, none⟩)

theorem KeepsText.every_run {Outcome : Type} {engines : EngineRegistry Engine}
    {logicalVoiceId : String} {chunk : List Char} {routing : LogicalVoiceRoutingSnapshot}
    {exhausted : Outcome} {program : Attempting Engine F Parameters Application
      (Ending Outcome × LogicalVoiceRoutingSnapshot)}
    (kept : KeepsText engines logicalVoiceId chunk
      (EndsText engines logicalVoiceId chunk exhausted) program ⟨routing, none⟩) :
    KeepsToText engines logicalVoiceId chunk routing exhausted program where
  allowed _ _ runs := (keeps_run kept runs).1
  ends _ _ runs := (keeps_run kept runs).2

/-- **Both loops keep to the text while the engine that is first in line supports it.** -/
theorem fallback_preserves_text_of_first_in_line
    (call : PreparedSynthesis Engine Parameters Application) (buffered : BufferedSynthesis Engine)
    (route : LogicalRoute Engine) (routing : LogicalVoiceRoutingSnapshot)
    (coherent : Coherent routing) :
    KeepsToText call.engines route.logicalVoiceId call.chunk routing .exhausted
        (call.synthesizePrepared route routing : Attempting Engine F Parameters Application
          (Ending (PreparedSynthesisOutcome F Parameters Application) ×
            LogicalVoiceRoutingSnapshot)) ∧
      KeepsToText buffered.engines route.logicalVoiceId buffered.chunk routing .exhausted
        (buffered.synthesizeWithRuntimeFallback route routing :
          Attempting Engine F Parameters Application
            (Ending (RuntimeSynthesisOutcome F) × LogicalVoiceRoutingSnapshot)) :=
  ⟨KeepsText.every_run (keepsText_synthesizePrepared coherent),
    KeepsText.every_run (keepsText_synthesizeWithRuntimeFallback coherent)⟩

/-! ## A retry that ignores the text -/

namespace IgnoredText

/-- An engine with one voice. -/
def engine (id : String) (textRepertoire : TextRepertoire) : EngineDescriptor where
  id := id
  availability := .available
  health := .healthy
  acss := ⟨true, true, true, true, true, true⟩
  textRepertoire := textRepertoire
  postSynthesisDimensions := []
  voices := [⟨⟨id, "default"⟩, id, none, none, .available⟩]
  defaultVoiceId := some "default"
  espeakVariants := []

def inventory : List EngineDescriptor :=
  [engine "dectalk" .unknown, engine "eloquence" .windows1252, engine "espeak" .unicode]

theorem inventory_valid : ValidInventory inventory := .of_validated (by decide) (by decide)

/-- The engines registered one after another, each under its identifier as a handle. -/
def engines : EngineRegistry String :=
  inventory.foldl (fun registry descriptor =>
    (registry.insert ⟨some descriptor.id, descriptor⟩).toOption.getD registry) .new

/-- Eloquence first, then DECtalk, then eSpeak. -/
def routing : LogicalVoiceRoutingSnapshot where
  definitions :=
    [{ id := "voice-bolden", language := none
       preferences := [.engineDefault "eloquence", .engineDefault "dectalk",
         .engineDefault "espeak"]
       acss := ⟨none, none, none, none, none, none⟩
       effects := ⟨none, none, none, none, none, none, none⟩ }]
  registryGeneration := 1
  layeredDefinitions := []
  engineDefinitions := []
  previewChoiceIndex := none
  fallbackPolicy := .default
  inventory := inventory
  disabledEngineIds := []
  enginePermissions := ⟨[], []⟩

def route : LogicalRoute String where
  resolution :=
    { logicalVoiceId := "voice-bolden", requested := some (.engineDefault "eloquence")
      realized := ⟨"eloquence", "default"⟩, reason := .preferred, failedAttempts := [] }
  logicalVoiceId := "voice-bolden"
  reportedLogicalVoiceId := some "voice-bolden"
  engine := "eloquence"
  realized := ⟨"eloquence", "default"⟩
  acss := ⟨⟨none, none, none, none, none, none⟩, []⟩
  effects := ⟨⟨none, none, none, none, none, none, none⟩, []⟩

/-- A chunk that DECtalk cannot speak. -/
def call : BufferedSynthesis String where
  chunk := ['é']
  anchors := []
  settings := ⟨"default", 1, 1, 1⟩
  requestedAcss := none
  engines := engines

/-- The chunk of a layered voice, for the progressive loop. -/
def layered : PreparedSynthesis String Unit Unit where
  chunk := ['é']
  anchors := []
  style :=
    { isNative := false, isLegacy := false
      prepare := fun routing route _ => .ok
        { registryGeneration := routing.registryGeneration, resolution := route.resolution
          choiceIndex := some 0, choiceId := none, settings := ⟨route.realized.voiceId, 1, 1, 1⟩
          acss := route.acss, effects := route.effects, native := .notRequested
          nativeApplication := none } }
  engines := engines
  checks := ⟨fun _ _ _ => .ok (), fun _ => .ok ()⟩

/-- No engine has any audio to give. -/
def answer : (query : Query String ℚ Unit Unit) → query.Answer
  | .stale => false
  | .acquire _ => .permit .normal
  | .prepareRecoveryProbe _ => .ok ()
  | .descriptor name => ⟨engine name .unknown, .bufferedPcm, .none⟩
  | .supportsNative => true
  | .preflightAttempt _ => .ok ()
  | .synthesize _ _ => .error (.synthesisFailed "no audio")
  | .synthesizeWithParameters _ _ _ => .error (.synthesisFailed "no audio")
  | .synthesizeStream _ _ _ => .returns (.error (.synthesisFailed "no audio"))
  | .startAttempt _ _ => .ok ()
  | .audio _ => .ok ()
  | .markers _ _ => .ok ()
  | .recordSuccess _ _ => ()
  | .recordFailure _ _ => ()
  | .releaseProbe _ => ()
  | .rejectedPreparation _ => ()
  | .emitted _ => ()
  | .returned _ => ()
  | .attemptFailed _ _ _ => ()
  | .retrying _ => ()

def program : Attempting String ℚ Unit Unit
    (Ending (RuntimeSynthesisOutcome ℚ) × LogicalVoiceRoutingSnapshot) :=
  call.synthesizeWithRuntimeFallback route routing

def trace : List (Exchange (Query String ℚ Unit Unit) Query.Answer) :=
  (program.run (fun _ => answer) []).1

end IgnoredText

/-- Three engines, each with a voice of its own. -/
theorem fallback_preserves_text_three_engines :
    KeepsToText IgnoredText.engines "voice-bolden" ['é'] IgnoredText.routing .exhausted
        (IgnoredText.layered.synthesizePrepared IgnoredText.route IgnoredText.routing :
          Attempting String ℚ Unit Unit
            (Ending (PreparedSynthesisOutcome ℚ Unit Unit) × LogicalVoiceRoutingSnapshot)) ∧
      KeepsToText IgnoredText.engines "voice-bolden" ['é'] IgnoredText.routing .exhausted
        IgnoredText.program :=
  fallback_preserves_text_of_first_in_line IgnoredText.layered IgnoredText.call IgnoredText.route
    IgnoredText.routing
    ⟨IgnoredText.inventory_valid, fun restricted => absurd rfl restricted⟩

/-- Every call and every retry goes where the chunk leads, whatever engine is first in line. -/
def PreservesText {Outcome : Type} (engines : EngineRegistry Engine) (logicalVoiceId : String)
    (chunk : List Char) (routing : LogicalVoiceRoutingSnapshot)
    (program : Attempting Engine F Parameters Application
      (Ending Outcome × LogicalVoiceRoutingSnapshot)) : Prop :=
  ∀ trace ended, Runs program trace ended →
    ∀ before exchange later, trace = before ++ exchange :: later →
      (before.foldl TextLedger.next ⟨routing, none⟩).allows engines logicalVoiceId chunk exchange

/-- **A retry ignores the text**: Eloquence fails, and the chunk goes to DECtalk, which is next
in line and cannot speak it, while eSpeak could. -/
theorem retry_ignores_text :
    ¬ PreservesText IgnoredText.engines "voice-bolden" ['é'] IgnoredText.routing
      IgnoredText.program := by
  intro preserves
  have runs := runs_run (fun _ => IgnoredText.answer) IgnoredText.program []
  have allowed := preserves _ _ runs (IgnoredText.trace.take 12)
    ⟨.synthesize "dectalk" (IgnoredText.call.request ⟨⟨none, none, none, none, none, none⟩, []⟩
      { IgnoredText.route with realized := ⟨"dectalk", "default"⟩ }),
      .error (.synthesisFailed "no audio")⟩ (IgnoredText.trace.drop 13) rfl
  obtain ⟨_, realized, voice, _, supports⟩ := allowed
  obtain rfl := Option.some.inj voice
  have unsupported : ¬ Supports IgnoredText.inventory "dectalk" ['é'] := by
    rintro ⟨engine, member, own, speaks⟩
    have ascii : TextRepertoire.unknown.supportsCharacter 'é' = false := by decide
    simp only [IgnoredText.inventory, List.mem_cons, List.not_mem_nil, or_false] at member
    rcases member with rfl | rfl | rfl
    · have spoken := speaks 'é' List.mem_cons_self
      rw [IgnoredText.engine, ascii] at spoken
      cases spoken
    · exact absurd own (by decide)
    · exact absurd own (by decide)
  exact unsupported ((TextLedger.supports_after _ _).mp supports)


end Omnivox.Routing
