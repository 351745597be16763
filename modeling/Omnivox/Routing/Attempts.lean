import Mathlib
import Omnivox.Routing.AttemptSink

/-!
# Synthesis attempts

One chunk is synthesized by a bounded number of attempts. Each attempt asks runtime health
for a permit, calls one engine and settles the permit. After a retryable failure the next
attempt follows another route.

The progressive loop and the buffered one ask for an attempt and select a retry alike.
-/

set_option autoImplicit false

namespace Omnivox.Routing

open Engines Foundations Synthesis

/-- Maximum synthesis attempts for one routed chunk, including the first try. -/
def MAX_RUNTIME_SYNTHESIS_ATTEMPTS : Nat := 4

variable {Engine F Parameters Application : Type}

/-! ## Admission -/

/-- What comes of asking for an attempt. A failed admission counts as a failure of the
route. -/
inductive Admission where
  | admitted (permit : EnginePermit)
  | cancelled
  | failed (error : TtsError)
  deriving Repr, DecidableEq

def acquirePermit (engineId : String) :
    Attempting Engine F Parameters Application EngineAccess := .perform (Query.acquire engineId)

def prepareRecoveryProbe (engine : Engine) :
    Attempting Engine F Parameters Application (Except TtsError Unit) :=
  .perform (Query.prepareRecoveryProbe engine)

def releaseProbeIfHeld (engineId : String) (permit : EnginePermit) :
    Attempting Engine F Parameters Application Unit :=
  if permit = .recoveryProbe then tell (.releaseProbe engineId) else pure ()

/-- Prepare the engine of a recovery probe. -/
def admitProbe (route : LogicalRoute Engine) :
    Attempting Engine F Parameters Application Admission := do
  match ← prepareRecoveryProbe route.engine with
  | .ok _ => pure (.admitted .recoveryProbe)
  | .error preparationError =>
      if ← isStale then
        releaseProbeIfHeld route.realized.engineId .recoveryProbe
        pure .cancelled
      else
        let error := TtsError.synthesisFailed
          s!"recovery preparation failed: {preparationError.toText}"
        tell (.recordFailure route.realized.engineId error.toText)
        pure (.failed error)

/-- Ask for a permit, unless the attempt is obsolete. -/
def admitAttempt (route : LogicalRoute Engine) :
    Attempting Engine F Parameters Application Admission := do
  if ← isStale then pure .cancelled
  else
    match ← acquirePermit route.realized.engineId with
    | .denied _ => pure (.failed .notAvailable)
    | .permit permit =>
        if ← isStale then
          releaseProbeIfHeld route.realized.engineId permit
          pure .cancelled
        else if permit = .recoveryProbe then admitProbe route
        else pure (.admitted permit)

/-! ## After a failure -/

inductive RuntimeSynthesisOutcome (F : Type) where
  | ready (result : SynthesisResult F)
  | cancelled
  | failed
  | exhausted

/-- How a loop ends: with an outcome, or in a panic. -/
inductive Ending (Outcome : Type) where
  | returned (outcome : Outcome)
  | panicked (message : String)

/-- What one attempt leads to: the end of the loop or the next attempt. -/
inductive LoopStep (Engine Outcome : Type) where
  | ended (ending : Ending Outcome) (routing : LogicalVoiceRoutingSnapshot)
  | again (route : LogicalRoute Engine) (routing : LogicalVoiceRoutingSnapshot)

/-- Settle the permit of a failed synthesis. -/
def recordSynthesisFailure (route : LogicalRoute Engine) (error : TtsError)
    (permit : EnginePermit) : Attempting Engine F Parameters Application Unit :=
  match error, permit with
  | .synthesisFailed _, _ | .notAvailable, .recoveryProbe =>
      tell (.recordFailure route.realized.engineId error.toText)
  | .notAvailable, .normal | .voiceNotFound _, _ | .invalidParameter _, _ =>
      releaseProbeIfHeld route.realized.engineId permit

/-- Exclude the failed target and choose the next route. The last attempt excludes it as
well. -/
def selectRetry (route : LogicalRoute Engine) (routing : LogicalVoiceRoutingSnapshot)
    (engines : EngineRegistry Engine) (error : TtsError) (attempt : Nat) :
    Attempting Engine F Parameters Application
      (Outcome LogicalVoiceRoutingSnapshot (RuntimeSynthesisOutcome F) (LogicalRoute Engine)) := do
  let (routing, reroute) := routing.rerouteAfterFailure route error engines
  if attempt = MAX_RUNTIME_SYNTHESIS_ATTEMPTS then pure (routing, .error .exhausted)
  else
    match reroute with
    | .retry retry => do
        tell (.retrying retry.realized)
        pure (routing, .ok retry)
    | .notRetryable => pure (routing, .error .failed)
    | .exhausted _ => pure (routing, .error .exhausted)

/-- Note a failure that may be retried and go on with a retry, or end. -/
def retryAfter {Outcome : Type} (finish : RuntimeSynthesisOutcome F → Ending Outcome)
    (route : LogicalRoute Engine) (routing : LogicalVoiceRoutingSnapshot)
    (engines : EngineRegistry Engine) (error : TtsError) (attempt : Nat) :
    Attempting Engine F Parameters Application (LoopStep Engine Outcome) := do
  tell (.attemptFailed route.realized attempt error)
  match ← selectRetry route routing engines error attempt with
  | (routing, .ok retry) => pure (.again retry routing)
  | (routing, .error outcome) => pure (.ended (finish outcome) routing)

/-- Go through the attempts, at most as many as are left. -/
def attemptLoop {Outcome : Type}
    (attemptOnce : Nat → LogicalRoute Engine → LogicalVoiceRoutingSnapshot →
      Attempting Engine F Parameters Application (LoopStep Engine Outcome)) :
    Nat → Nat → LogicalRoute Engine → LogicalVoiceRoutingSnapshot →
      Attempting Engine F Parameters Application (Ending Outcome × LogicalVoiceRoutingSnapshot)
  | 0, _, _, routing =>
      pure (.panicked "the bounded routed synthesis loop always returns", routing)
  | left + 1, attempt, route, routing => do
      match ← attemptOnce attempt route routing with
      | .ended ending routing => pure (ending, routing)
      | .again route routing => attemptLoop attemptOnce left (attempt + 1) route routing

/-! ## The progressive loop -/

inductive PreparedSynthesisOutcome (F Parameters Application : Type) where
  | streamed (completion : SynthesisStreamCompletion)
  | buffered (result : SynthesisResult F) (attempt : PreparedVoiceAttempt Parameters Application)
  | cancelled
  | failed
  | exhausted

def PreparedSynthesisOutcome.fromRetry :
    RuntimeSynthesisOutcome F → Ending (PreparedSynthesisOutcome F Parameters Application)
  | .ready _ => .panicked "retry selection never succeeds"
  | .cancelled => .returned .cancelled
  | .failed => .returned .failed
  | .exhausted => .returned .exhausted

/-- One chunk to synthesize. -/
structure PreparedSynthesis (Engine Parameters Application : Type) where
  chunk : List Char
  anchors : List RequestedAnchor
  style : AttemptStyle Engine Parameters Application
  engines : EngineRegistry Engine
  checks : NativeChecks Parameters Application

/-- An end that is not a panic. -/
abbrev endedWith (routing : LogicalVoiceRoutingSnapshot)
    (outcome : PreparedSynthesisOutcome F Parameters Application) :
    LoopStep Engine (PreparedSynthesisOutcome F Parameters Application) :=
  .ended (.returned outcome) routing

def describe (engine : Engine) : Attempting Engine F Parameters Application RuntimeDescriptor :=
  .perform (Query.descriptor engine)

def preflight (attempt : PreparedVoiceAttempt Parameters Application) :
    Attempting Engine F Parameters Application (Except TtsError Unit) :=
  .perform (Query.preflightAttempt attempt)

def synthesize (engine : Engine) (request : SynthesisRequest) :
    Attempting Engine F Parameters Application (Except TtsError (SynthesisResult F)) :=
  .perform (Query.synthesize engine request)

def synthesizeWithParameters (engine : Engine) (request : SynthesisRequest)
    (parameters : Parameters) :
    Attempting Engine F Parameters Application
      (Except TtsError (SynthesisResult F × Application)) :=
  .perform (Query.synthesizeWithParameters engine request parameters)

def synthesizeStream (engine : Engine) (request : SynthesisRequest)
    (parameters : Option Parameters) :
    Attempting Engine F Parameters Application (EngineScript F Application) :=
  .perform (Query.synthesizeStream engine request parameters)

namespace PreparedSynthesis

variable (call : PreparedSynthesis Engine Parameters Application)

def request (prepared : PreparedVoiceAttempt Parameters Application)
    (route : LogicalRoute Engine) : SynthesisRequest where
  text := call.chunk
  settings := prepared.settings
  normalizedAcss := prepared.acss.style.clamped
  requestedVoice := some route.realized
  logicalVoiceId := route.reportedLogicalVoiceId
  anchors := call.anchors

/-- The synthesis failed: settle the permit and look for a retry, unless the attempt is
obsolete. -/
def failedAttempt (attempt : Nat) (route : LogicalRoute Engine)
    (routing : LogicalVoiceRoutingSnapshot) (permit : EnginePermit) (error : TtsError) :
    Attempting Engine F Parameters Application
      (LoopStep Engine (PreparedSynthesisOutcome F Parameters Application)) := do
  recordSynthesisFailure route error permit
  retryAfter PreparedSynthesisOutcome.fromRetry route routing call.engines error attempt

/-- The result of the engine with its evidence, tentative until it is validated. -/
def synthesizeBuffered (route : LogicalRoute Engine) (request : SynthesisRequest)
    (prepared : PreparedVoiceAttempt Parameters Application) :
    Attempting Engine F Parameters Application
      (Except TtsError (SynthesisResult F × PreparedVoiceAttempt Parameters Application)) :=
  let withEvidence := fun (application : Option Application) (result : SynthesisResult F) =>
    (result, { prepared with nativeApplication := application })
  match prepared.native with
  | .notRequested => do
      let answer ← synthesize route.engine request
      pure (answer.map (withEvidence none))
  | .commonOnly reason =>
      match call.checks.degraded reason with
      | .error error => pure (.error error)
      | .ok application => do
          let answer ← synthesize route.engine request
          pure (answer.map (withEvidence (some application)))
  | .parameters parameters => do
      let answer ← synthesizeWithParameters route.engine request parameters
      pure do
        let (result, application) ← answer
        call.checks.validateApplication prepared.resolution.realized.engineId parameters
          application
        return withEvidence (some application) result

/-- Complete and check a buffered result. -/
def finishResult (support : AnchorSupport) (request : SynthesisRequest)
    (acss : AcssApplication) (result : SynthesisResult F) :
    Except TtsError (SynthesisResult F) := do
  let result := result.resolveAnchors request support
  result.validate request
  return { result with degradedAcss := acss.omitted }

/-- An attempt on an engine that returns its whole result. -/
def bufferedAttempt (attempt : Nat) (route : LogicalRoute Engine)
    (routing : LogicalVoiceRoutingSnapshot) (permit : EnginePermit) (support : AnchorSupport)
    (prepared : PreparedVoiceAttempt Parameters Application) :
    Attempting Engine F Parameters Application
      (LoopStep Engine (PreparedSynthesisOutcome F Parameters Application)) := do
  let request := call.request prepared route
  let answer ← call.synthesizeBuffered route request prepared
  let synthesis := do
    let (result, prepared) ← answer
    return (← finishResult support request prepared.acss result, prepared)
  match synthesis with
  | .ok (result, prepared) =>
      tell (.recordSuccess route.realized.engineId permit)
      if ← isStale then pure (endedWith routing .cancelled)
      else pure (endedWith routing (.buffered result prepared))
  | .error error =>
      if ← isStale then
        releaseProbeIfHeld route.realized.engineId permit
        pure (endedWith routing .cancelled)
      else call.failedAttempt attempt route routing permit error

/-- The sink that a streaming attempt starts with. -/
def attemptSink (route : LogicalRoute Engine)
    (prepared : PreparedVoiceAttempt Parameters Application) :
    RoutedAttemptStreamSink Parameters Application where
  prepared := prepared
  validateIdentity := !call.style.isLegacy
  nativeReceipt := call.style.isNative
  receipt := .pending
  receiptEngineId := route.realized.engineId
  nativeAcceptedFrames := 0
  pendingStart := none
  pendingMarkers := []
  outputCommitted := false
  audioAccepted := false
  outputFailed := false

/-- A completed native stream has named itself and played the frames that it counts. -/
def checkNativeCompletion (sink : RoutedAttemptStreamSink Parameters Application)
    (completion : SynthesisStreamCompletion) : Except TtsError Unit := do
  ensure (sink.pendingStart.isSome || sink.outputCommitted)
    (.synthesisFailed "native stream completed without metadata")
  ensure (completion.frameCount == sink.nativeAcceptedFrames)
    (.synthesisFailed "native completion frame count mismatch")

/-- The result of a native stream that has played nothing. -/
def emptyResult (request : SynthesisRequest)
    (sink : RoutedAttemptStreamSink Parameters Application) :
    Except TtsError (SynthesisResult F) := do
  let start ← orError (.synthesisFailed "empty native stream omitted metadata") sink.pendingStart
  let result : SynthesisResult F :=
    { audio := []
      engineId := start.engineId
      actualVoice := start.actualVoice
      markers := sink.pendingMarkers.flatMap Prod.fst
      anchors := sink.pendingMarkers.flatMap Prod.snd
      degradedAcss := start.degradedAcss }
  result.validate request
  return result

/-- What follows a completed stream: commit it, or keep an empty native one as a result. -/
def completeStream (request : SynthesisRequest)
    (sink : RoutedAttemptStreamSink Parameters Application)
    (completion : SynthesisStreamCompletion) :
    Attempting Engine F Parameters Application
      (SinkOutcome Parameters Application (Option (SynthesisResult F))) :=
  let native := call.style.isNative
  let checked : Attempting Engine F Parameters Application
      (SinkOutcome Parameters Application Unit) :=
    if native then (sink.checkNativeReceipt call.checks).andThen fun sink _ =>
      pure (sink, checkNativeCompletion sink completion)
    else pure (sink, .ok ())
  checked.andThen fun sink _ =>
    if !native || 0 < completion.frameCount then
      (sink.commitPreamble call.checks).andThen fun sink _ => pure (sink, .ok none)
    else
      pure ({ sink with pendingStart := none, pendingMarkers := [] },
        (emptyResult request sink).map some)

/-- What an engine makes of its stream. -/
def runStream (request : SynthesisRequest) (script : EngineScript F Application)
    (sink : RoutedAttemptStreamSink Parameters Application) :
    Attempting Engine F Parameters Application (SinkOutcome Parameters Application
      (SynthesisStreamCompletion × Option (SynthesisResult F))) :=
  (RoutedAttemptStreamSink.drive call.checks script sink).andThen fun sink completion =>
    (call.completeStream request sink completion).andThen fun sink result =>
      pure (sink, .ok (completion, result))

/-- An attempt on a streaming engine. -/
def streamAttempt (attempt : Nat) (route : LogicalRoute Engine)
    (routing : LogicalVoiceRoutingSnapshot) (permit : EnginePermit)
    (prepared : PreparedVoiceAttempt Parameters Application) :
    Attempting Engine F Parameters Application
      (LoopStep Engine (PreparedSynthesisOutcome F Parameters Application)) := do
  let request := call.request prepared route
  let parameters := match prepared.native with
    | .parameters parameters => some parameters
    | _ => none
  let script ← synthesizeStream route.engine request parameters
  match ← call.runStream request script (call.attemptSink route prepared) with
  | (sink, .ok (completion, result)) =>
      tell (.recordSuccess route.realized.engineId permit)
      if ← isStale then pure (endedWith routing .cancelled)
      else
        match result with
        | some result => pure (endedWith routing (.buffered result sink.prepared))
        | none => pure (endedWith routing (.streamed completion))
  | (sink, .error error) =>
      if ← isStale then
        releaseProbeIfHeld route.realized.engineId permit
        pure (endedWith routing .cancelled)
      else if sink.outputFailed then
        -- the consumer shares one output device across voices
        releaseProbeIfHeld route.realized.engineId permit
        pure (endedWith routing .failed)
      else if sink.outputCommitted then
        recordSynthesisFailure route error permit
        pure (endedWith routing .failed)
      else call.failedAttempt attempt route routing permit error

/-- An admitted attempt: prepare the style, let the playback sink check it, call the
engine. -/
def admittedAttempt (attempt : Nat) (route : LogicalRoute Engine)
    (routing : LogicalVoiceRoutingSnapshot) (permit : EnginePermit) :
    Attempting Engine F Parameters Application
      (LoopStep Engine (PreparedSynthesisOutcome F Parameters Application)) := do
  let described ← describe route.engine
  match call.style.prepare routing route described.descriptor with
  | .error message =>
      releaseProbeIfHeld route.realized.engineId permit
      tell (.rejectedPreparation message)
      pure (endedWith routing .failed)
  | .ok prepared =>
      match ← preflight prepared with
      | .error _ =>
          releaseProbeIfHeld route.realized.engineId permit
          pure (endedWith routing .failed)
      | .ok _ =>
          if ← isStale then
            releaseProbeIfHeld route.realized.engineId permit
            pure (endedWith routing .cancelled)
          else if described.audioOutput ≠ .streamingPcm ∨
              (call.anchors ≠ [] ∧ described.requestedAnchors = .none) then
            call.bufferedAttempt attempt route routing permit described.requestedAnchors prepared
          else call.streamAttempt attempt route routing permit prepared

def attemptOnce (attempt : Nat) (route : LogicalRoute Engine)
    (routing : LogicalVoiceRoutingSnapshot) :
    Attempting Engine F Parameters Application
      (LoopStep Engine (PreparedSynthesisOutcome F Parameters Application)) := do
  match ← admitAttempt route with
  | .cancelled => pure (endedWith routing .cancelled)
  | .failed error =>
      retryAfter PreparedSynthesisOutcome.fromRetry route routing call.engines error attempt
  | .admitted permit => call.admittedAttempt attempt route routing permit

def supportsNative : Attempting Engine F Parameters Application Bool :=
  .perform Query.supportsNative

/-- Start with a route that can preserve the chunk. -/
def synthesizeCompatible (route : LogicalRoute Engine) (routing : LogicalVoiceRoutingSnapshot) :
    Attempting Engine F Parameters Application
      (Ending (PreparedSynthesisOutcome F Parameters Application) ×
        LogicalVoiceRoutingSnapshot) :=
  match routing.routeForText route call.chunk call.engines with
  | .error _ => pure (.returned .exhausted, routing)
  | .ok compatible =>
      attemptLoop call.attemptOnce MAX_RUNTIME_SYNTHESIS_ATTEMPTS 1 compatible routing

/-- Route one chunk through its attempts while refusing to splice a retry after accepted
output. -/
def synthesizePrepared (route : LogicalRoute Engine) (routing : LogicalVoiceRoutingSnapshot) :
    Attempting Engine F Parameters Application
      (Ending (PreparedSynthesisOutcome F Parameters Application) ×
        LogicalVoiceRoutingSnapshot) := do
  if ← isStale then pure (.returned .cancelled, routing)
  else
    match call.style.validateDefinition routing route.logicalVoiceId with
    | .error _ => pure (.returned .failed, routing)
    | .ok _ =>
        let evident ← if call.style.isNative then supportsNative else pure true
        if evident then call.synthesizeCompatible route routing
        else pure (.returned .failed, routing)

end PreparedSynthesis

/-! ## The buffered loop -/

def PITCH_LEVELS : List ℚ := [1/2, 3/5, 7/10, 4/5, 9/10, 1, 6/5, 7/5, 17/10, 2]

/-- Interpolate the ten ACSS pitch levels. -/
def normalizedAveragePitch (value : ℚ) : ℚ :=
  let position := clampNormalized value * (PITCH_LEVELS.length - 1)
  let lower := position.floor.toNat
  let upper := min (lower + 1) (PITCH_LEVELS.length - 1)
  let low := PITCH_LEVELS.getD lower 2
  low + (PITCH_LEVELS.getD upper 2 - low) * (position - lower)

def applyNormalizedAcss (settings : TtsSettings) (style : NormalizedAcss) : TtsSettings :=
  { settings with
    rate := style.rate.getD settings.rate
    pitch := (style.averagePitch.map normalizedAveragePitch).getD settings.pitch
    volume := style.volume.getD settings.volume }

/-- One chunk to synthesize without streaming. -/
structure BufferedSynthesis (Engine : Type) where
  chunk : List Char
  anchors : List RequestedAnchor
  settings : TtsSettings
  requestedAcss : Option NormalizedAcss
  engines : EngineRegistry Engine

namespace BufferedSynthesis

variable (call : BufferedSynthesis Engine)

def request (acss : AcssApplication) (route : LogicalRoute Engine) : SynthesisRequest where
  text := call.chunk
  settings := applyNormalizedAcss { call.settings with voice := route.realized.voiceId } acss.style
  normalizedAcss := acss.style.clamped
  requestedVoice := some route.realized
  logicalVoiceId := route.reportedLogicalVoiceId
  anchors := call.anchors

/-- The style of the attempt, degraded for its engine. -/
def attemptAcss (route : LogicalRoute Engine) :
    Attempting Engine F Parameters Application AcssApplication := do
  match call.requestedAcss with
  | none => pure route.acss
  | some style =>
      let described ← describe route.engine
      pure (style.degradeFor described.descriptor.acss)

def synthesizeOnce (route : LogicalRoute Engine) :
    Attempting Engine F Parameters Application (Except TtsError (SynthesisResult F)) := do
  let acss ← call.attemptAcss route
  let request := call.request acss route
  match ← synthesize route.engine request with
  | .error error => pure (.error error)
  | .ok result =>
      let described ← describe route.engine
      pure (PreparedSynthesis.finishResult described.requestedAnchors request acss result)

def attemptOnce (attempt : Nat) (route : LogicalRoute Engine)
    (routing : LogicalVoiceRoutingSnapshot) :
    Attempting Engine F Parameters Application (LoopStep Engine (RuntimeSynthesisOutcome F)) := do
  match ← admitAttempt route with
  | .cancelled => pure (.ended (.returned .cancelled) routing)
  | .failed error => retryAfter Ending.returned route routing call.engines error attempt
  | .admitted permit =>
      match ← call.synthesizeOnce route with
      | .ok result =>
          tell (.recordSuccess route.realized.engineId permit)
          if ← isStale then pure (.ended (.returned .cancelled) routing)
          else pure (.ended (.returned (.ready result)) routing)
      | .error error =>
          if ← isStale then
            releaseProbeIfHeld route.realized.engineId permit
            pure (.ended (.returned .cancelled) routing)
          else
            recordSynthesisFailure route error permit
            retryAfter Ending.returned route routing call.engines error attempt

/-- Synthesize one chunk, resolving the logical voice again after retryable failures. -/
def synthesizeWithRuntimeFallback (route : LogicalRoute Engine)
    (routing : LogicalVoiceRoutingSnapshot) :
    Attempting Engine F Parameters Application
      (Ending (RuntimeSynthesisOutcome F) × LogicalVoiceRoutingSnapshot) := do
  if ← isStale then pure (.returned .cancelled, routing)
  else if routing.hasNativeDefinition route.logicalVoiceId then pure (.returned .failed, routing)
  else
    match routing.routeForText route call.chunk call.engines with
    | .error _ => pure (.returned .exhausted, routing)
    | .ok compatible =>
        attemptLoop call.attemptOnce MAX_RUNTIME_SYNTHESIS_ATTEMPTS 1 compatible routing

end BufferedSynthesis

end Omnivox.Routing
