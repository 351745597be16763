import Mathlib
import Omnivox.Engines.RuntimeHealth
import Omnivox.Foundations.Interaction
import Omnivox.Routing.Snapshot

/-!
# The sink of an attempt

An attempt to synthesize works with what is outside by queries: whether it is obsolete,
runtime health, the engines and the playback sink. A streaming engine is the tree of what it
calls back, by the answers that it gets.

The engine drives a sink that holds back its first output until the engine has named itself
and, for a native choice, handed in a valid receipt. With its first output the attempt is
committed.
-/

set_option autoImplicit false

namespace Omnivox.Routing

open Engines Foundations Synthesis
open Audio (AudioBuffer)

/-! ## What an attempt works with -/

/-- How one choice treats its native parameters. -/
inductive NativeChoiceExecution (Parameters : Type) where
  | notRequested
  | commonOnly (reason : String)
  | parameters (parameters : Parameters)
  deriving Repr, DecidableEq

/-- Values of the actual attempt, independent of subsequent route mutations. -/
structure PreparedVoiceAttempt (Parameters Application : Type) where
  registryGeneration : Nat
  resolution : VoiceResolution
  choiceIndex : Option Nat
  choiceId : Option String
  settings : TtsSettings
  acss : AcssApplication
  effects : PostSynthesisApplication
  native : NativeChoiceExecution Parameters
  nativeApplication : Option Application
  deriving Repr, DecidableEq

/-- A span's immutable input, by what an attempt asks of it. -/
structure AttemptStyle (Engine Parameters Application : Type) where
  isNative : Bool
  isLegacy : Bool
  prepare : LogicalVoiceRoutingSnapshot → LogicalRoute Engine → EngineDescriptor →
    Except String (PreparedVoiceAttempt Parameters Application)

def AttemptStyle.validateDefinition {Engine Parameters Application : Type}
    (style : AttemptStyle Engine Parameters Application) (routing : LogicalVoiceRoutingSnapshot)
    (id : String) : Except String Unit :=
  ensure (routing.hasNativeDefinition id == style.isNative)
    "native definitions require an engine-layered request"

/-- Checks of native evidence. -/
structure NativeChecks (Parameters Application : Type) where
  validateApplication : String → Parameters → Application → Except TtsError Unit
  degraded : String → Except TtsError Application

inductive AudioOutputMode where
  | bufferedPcm
  | streamingPcm
  | externalPlayback
  deriving Repr, DecidableEq

/-- What an engine tells about itself. -/
structure RuntimeDescriptor where
  descriptor : EngineDescriptor
  audioOutput : AudioOutputMode
  requestedAnchors : AnchorSupport
  deriving Repr, DecidableEq

/-- What a streaming engine calls back. -/
inductive Callback (F Application : Type) where
  | start (start : SynthesisStreamStart)
  | audio (audio : AudioBuffer F)
  | markers (markers : List SynthesisMarker) (anchors : List ResolvedAnchor)
  | receipt (application : Application)

/-- A streaming call as the engine goes through it: callbacks, each answered, and a result. -/
inductive EngineScript (F Application : Type) where
  | returns (answer : Except TtsError SynthesisStreamCompletion)
  | emits (callback : Callback F Application)
      (next : Except TtsError Unit → EngineScript F Application)

/-- What an attempt asks of its environment, and what it lets it know. -/
inductive Query (Engine F Parameters Application : Type) where
  | stale
  | acquire (engineId : String)
  | prepareRecoveryProbe (engine : Engine)
  | recordSuccess (engineId : String) (permit : EnginePermit)
  | recordFailure (engineId reason : String)
  | releaseProbe (engineId : String)
  | descriptor (engine : Engine)
  | supportsNative
  | rejectedPreparation (message : String)
  | preflightAttempt (attempt : PreparedVoiceAttempt Parameters Application)
  | synthesize (engine : Engine) (request : SynthesisRequest)
  | synthesizeWithParameters (engine : Engine) (request : SynthesisRequest)
      (parameters : Parameters)
  | synthesizeStream (engine : Engine) (request : SynthesisRequest)
      (parameters : Option Parameters)
  | emitted (callback : Callback F Application)
  | returned (answer : Except TtsError SynthesisStreamCompletion)
  | startAttempt (attempt : PreparedVoiceAttempt Parameters Application)
      (start : SynthesisStreamStart)
  | audio (audio : AudioBuffer F)
  | markers (markers : List SynthesisMarker) (anchors : List ResolvedAnchor)
  | attemptFailed (realized : PhysicalVoiceId) (attempt : Nat) (error : TtsError)
  | retrying (realized : PhysicalVoiceId)

/-- What a query is answered with. -/
def Query.Answer {Engine F Parameters Application : Type} :
    Query Engine F Parameters Application → Type
  | .stale => Bool
  | .acquire _ => EngineAccess
  | .prepareRecoveryProbe _ => Except TtsError Unit
  | .descriptor _ => RuntimeDescriptor
  | .supportsNative => Bool
  | .preflightAttempt _ => Except TtsError Unit
  | .synthesize _ _ => Except TtsError (SynthesisResult F)
  | .synthesizeWithParameters _ _ _ => Except TtsError (SynthesisResult F × Application)
  | .synthesizeStream _ _ _ => EngineScript F Application
  | .startAttempt _ _ => Except TtsError Unit
  | .audio _ => Except TtsError Unit
  | .markers _ _ => Except TtsError Unit
  | _ => Unit

/-- A program of attempts. -/
abbrev Attempting (Engine F Parameters Application : Type) : Type → Type :=
  Program (Query Engine F Parameters Application) Query.Answer

section Queries

variable {Engine F Parameters Application : Type}

/-- Whether the generation has moved on or the request is cancelled. -/
def isStale : Attempting Engine F Parameters Application Bool := .perform Query.stale

/-- Let the environment know. -/
def tell (query : Query Engine F Parameters Application) :
    Attempting Engine F Parameters Application Unit := .ask query fun _ => .done ()

def startPlayback (attempt : PreparedVoiceAttempt Parameters Application)
    (start : SynthesisStreamStart) :
    Attempting Engine F Parameters Application (Except TtsError Unit) :=
  .perform (Query.startAttempt attempt start)

def playAudio (audio : AudioBuffer F) :
    Attempting Engine F Parameters Application (Except TtsError Unit) :=
  .perform (Query.audio audio)

def playMarkers (markers : List SynthesisMarker) (anchors : List ResolvedAnchor) :
    Attempting Engine F Parameters Application (Except TtsError Unit) :=
  .perform (Query.markers markers anchors)

end Queries

variable {Engine F Parameters Application : Type}

/-! ## The sink of a streaming attempt -/

inductive Receipt (Application : Type) where
  | pending
  | ready (application : Application)
  | invalid (reason : String)
  deriving Repr, DecidableEq

/-- The sink of one attempt, with the receipt that its engine has to hand in. -/
structure RoutedAttemptStreamSink (Parameters Application : Type) where
  prepared : PreparedVoiceAttempt Parameters Application
  validateIdentity : Bool
  nativeReceipt : Bool
  receipt : Receipt Application
  receiptEngineId : String
  nativeAcceptedFrames : Nat
  pendingStart : Option SynthesisStreamStart
  pendingMarkers : List (List SynthesisMarker × List ResolvedAnchor)
  outputCommitted : Bool
  audioAccepted : Bool
  outputFailed : Bool
  deriving Repr, DecidableEq

/-- The sink after a step, and the answer of the step. -/
abbrev SinkOutcome (Parameters Application α : Type) : Type :=
  Outcome (RoutedAttemptStreamSink Parameters Application) TtsError α

namespace RoutedAttemptStreamSink

/-- Keep the receipt that the engine hands in. A second one makes it invalid. -/
def record (checks : NativeChecks Parameters Application)
    (sink : RoutedAttemptStreamSink Parameters Application) (application : Application) :
    RoutedAttemptStreamSink Parameters Application :=
  match sink.receipt, sink.prepared.native with
  | .pending, .parameters parameters =>
      match checks.validateApplication sink.receiptEngineId parameters application with
      | .ok _ => { sink with receipt := .ready application }
      | .error error => { sink with receipt := .invalid error.toText }
  | .pending, _ => { sink with receipt := .invalid "unexpected native application receipt" }
  | _, _ => { sink with receipt := .invalid "repeated native application receipt" }

/-- Copy bounded evidence once. -/
def attach (sink : RoutedAttemptStreamSink Parameters Application) (application : Application) :
    RoutedAttemptStreamSink Parameters Application :=
  { sink with
    prepared := { sink.prepared with
      nativeApplication := sink.prepared.nativeApplication.or (some application) } }

/-- The evidence that the attempt needs so far, attached. -/
def checkAndAttach (checks : NativeChecks Parameters Application)
    (sink : RoutedAttemptStreamSink Parameters Application) :
    SinkOutcome Parameters Application Unit :=
  match sink.prepared.native with
  | .notRequested => (sink, .ok ())
  | .commonOnly reason =>
      if sink.prepared.nativeApplication.isNone then
        match checks.degraded reason with
        | .ok application => (sink.attach application, .ok ())
        | .error error => (sink, .error error)
      else (sink, .ok ())
  | .parameters _ =>
      match sink.receipt with
      | .pending => (sink, .error (.synthesisFailed "missing native application receipt"))
      | .invalid reason => (sink, .error (.synthesisFailed reason))
      | .ready application => (sink.attach application, .ok ())

def checkNativeReceipt (checks : NativeChecks Parameters Application)
    (sink : RoutedAttemptStreamSink Parameters Application) :
    Attempting Engine F Parameters Application (SinkOutcome Parameters Application Unit) := do
  if sink.nativeReceipt then
    if ← isStale then
      pure (sink, .error (.synthesisFailed "obsolete native attempt"))
    else pure (sink.checkAndAttach checks)
  else pure (sink, .ok ())

/-- An error of the playback sink is not the engine's. -/
def playback (sink : RoutedAttemptStreamSink Parameters Application) (answer : Except TtsError Unit) :
    SinkOutcome Parameters Application Unit :=
  match answer with
  | .ok _ => (sink, .ok ())
  | .error error => ({ sink with outputFailed := true }, .error error)

/-- Hand on the markers that were held back. -/
def drainMarkers : List (List SynthesisMarker × List ResolvedAnchor) →
    RoutedAttemptStreamSink Parameters Application → Attempting Engine F Parameters Application (SinkOutcome Parameters Application Unit)
  | [], sink => pure (sink, .ok ())
  | pending :: rest, sink => do
      let answer ← playMarkers pending.1 pending.2
      Program.andThen (pure (sink.playback answer)) fun sink _ => drainMarkers rest sink

/-- Commit to the attempt before its first output. -/
def commitPreamble (checks : NativeChecks Parameters Application)
    (sink : RoutedAttemptStreamSink Parameters Application) :
    Attempting Engine F Parameters Application (SinkOutcome Parameters Application Unit) :=
  (sink.checkNativeReceipt checks).andThen fun sink _ => do
    if sink.outputCommitted then pure (sink, .ok ())
    else
      match sink.pendingStart with
      | none => pure (sink, .error
          (.synthesisFailed "progressive engine emitted output without stream metadata"))
      | some start =>
          let committed := { sink with pendingStart := none, outputCommitted := true }
          let answer ← startPlayback sink.prepared start
          Program.andThen (pure (committed.playback answer)) fun sink _ =>
            drainMarkers sink.pendingMarkers { sink with pendingMarkers := [] }

def start (checks : NativeChecks Parameters Application)
    (sink : RoutedAttemptStreamSink Parameters Application) (start : SynthesisStreamStart) :
    Attempting Engine F Parameters Application (SinkOutcome Parameters Application Unit) :=
  (sink.checkNativeReceipt checks).andThen fun sink _ =>
    if sink.pendingStart.isSome || sink.outputCommitted then
      pure (sink, .error
        (.synthesisFailed "progressive engine emitted stream metadata more than once"))
    else if sink.validateIdentity &&
        (start.engineId != sink.prepared.resolution.realized.engineId ||
          start.actualVoice != some sink.prepared.resolution.realized) then
      pure (sink, .error
        (.synthesisFailed "stream metadata does not match the exact prepared voice"))
    else
      pure ({ sink with
        pendingStart := some { start with degradedAcss := sink.prepared.acss.omitted } }, .ok ())

/-- Count the frames that a native stream has played. -/
def acceptFrames (sink : RoutedAttemptStreamSink Parameters Application) (frames : Nat) :
    SinkOutcome Parameters Application Unit :=
  let sink := { sink with audioAccepted := true }
  if sink.nativeReceipt then
    match checkedAdd u64Max sink.nativeAcceptedFrames frames with
    | some total => ({ sink with nativeAcceptedFrames := total }, .ok ())
    | none => (sink, .error (.synthesisFailed "native frame count overflow"))
  else (sink, .ok ())

def audio (checks : NativeChecks Parameters Application)
    (sink : RoutedAttemptStreamSink Parameters Application) (audio : AudioBuffer F) :
    Attempting Engine F Parameters Application (SinkOutcome Parameters Application Unit) :=
  (sink.checkNativeReceipt checks).andThen fun sink _ =>
    if sink.nativeReceipt && audio.isEmpty then
      if sink.pendingStart.isNone && !sink.outputCommitted then
        pure (sink, .error (.synthesisFailed "native audio preceded stream metadata"))
      else pure (sink, .ok ())
    else
      (sink.commitPreamble checks).andThen fun sink _ => do
        let answer ← playAudio audio
        Program.andThen (pure (sink.playback answer)) fun sink _ =>
          pure (sink.acceptFrames audio.length)

def markers (checks : NativeChecks Parameters Application)
    (sink : RoutedAttemptStreamSink Parameters Application) (markers : List SynthesisMarker)
    (anchors : List ResolvedAnchor) : Attempting Engine F Parameters Application (SinkOutcome Parameters Application Unit) :=
  (sink.checkNativeReceipt checks).andThen fun sink _ => do
    if sink.outputCommitted then
      let answer ← playMarkers markers anchors
      pure (sink.playback answer)
    else if sink.pendingStart.isNone then
      pure (sink, .error
        (.synthesisFailed "progressive engine emitted markers before stream metadata"))
    else
      pure ({ sink with pendingMarkers := sink.pendingMarkers ++ [(markers, anchors)] }, .ok ())

/-- What the sink does with a callback. Only an engine that was given parameters can hand in
a receipt. -/
def handle (checks : NativeChecks Parameters Application)
    (sink : RoutedAttemptStreamSink Parameters Application) :
    Callback F Application → Attempting Engine F Parameters Application (SinkOutcome Parameters Application Unit)
  | .start given => sink.start checks given
  | .audio given => sink.audio checks given
  | .markers given anchors => sink.markers checks given anchors
  | .receipt application =>
      match sink.prepared.native with
      | .parameters _ => pure (sink.record checks application, .ok ())
      | _ => pure (sink, .ok ())

/-- A streaming engine drives the sink. -/
def drive (checks : NativeChecks Parameters Application) :
    EngineScript F Application → RoutedAttemptStreamSink Parameters Application →
      Attempting Engine F Parameters Application (SinkOutcome Parameters Application SynthesisStreamCompletion)
  | .returns answer, sink => do
      tell (.returned answer)
      pure (sink, answer)
  | .emits callback next, sink => do
      tell (.emitted callback)
      let handled ← sink.handle checks callback
      drive checks (next handled.2) handled.1

end RoutedAttemptStreamSink

end Omnivox.Routing
