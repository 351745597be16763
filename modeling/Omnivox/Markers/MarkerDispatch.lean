import Mathlib
import Omnivox.Audio.PlaybackSource
import Omnivox.Markers.MarkerProtocol
import Omnivox.Routing.AttemptSink

/-!
# Dispatches and their utterances

A dispatch numbers the events of all its utterances, one after the other. When an
utterance is prepared for playback all its events are made: the start, the choice it is
spoken with, the resolved actions and omitted styles, and the markers and semantic events
in the order of their frames. Every event but the choice has a cue.

What a preparation begins with is stated once (`prepared_records`).
-/

set_option autoImplicit false

namespace Omnivox.Markers

open Foundations
open Audio (PlaybackCue)
open Engines (AcssDimension PhysicalVoiceId PostSynthesisDimension)
open Parameters (ApplicationStatus NativeApplication)
open Synthesis (AnchorResolution SynthesisMarker)

/-! ## Attempts -/

inductive VoiceAttemptKind where
  | legacy
  | layered
  | engineLayered
  deriving Repr, DecidableEq

/-- Values of the actual attempt, with its kind. -/
structure PreparedVoiceAttempt (Parameters : Type) extends
    Routing.PreparedVoiceAttempt Parameters NativeApplication where
  kind : VoiceAttemptKind

def PreparedVoiceAttempt.audioIdentity {Parameters : Type}
    (attempt : PreparedVoiceAttempt Parameters) : AudioChoiceIdentity where
  choiceId := attempt.choiceId
  reason := attempt.resolution.reason
  realized := attempt.resolution.realized
  degradedAcss := attempt.acss.omitted
  degradedEffects := attempt.effects.omitted

/-! ## Plans -/

/-- References to applied plans, by the number of the last one. -/
structure NativePlanReferences where
  next : Nat
  deriving Repr, DecidableEq

/-- The name of a plan on this connection. -/
def publicId (number : Nat) : String := "native-plan-" ++ toString number

/-- The next number, unless they are used up. -/
def increment (counter : Nat) : Option Nat :=
  if counter < u64Max then some (counter + 1) else none

/-- An applied plan is told under its public name. -/
def NativePlanReferences.publish (plans : NativePlanReferences)
    (application : NativeApplication) : Option (NativePlanReferences × NativeApplication) :=
  if application.status ≠ ApplicationStatus.applied then some (plans, application)
  else do
    let number ← increment plans.next
    return (⟨number⟩, { application with planId := some (publicId number) })

/-! ## Dispatches -/

/-- Per-dispatch sequence and route context used while synthesis queues chunks. A dispatch
of version 4 publishes native plans, and no other does. -/
structure MarkerDispatchContext where
  dispatchId : Nat
  protocolVersion : Nat
  nextSequence : Nat
  nextUtteranceId : Nat
  nativePlans : Option NativePlanReferences
  native : nativePlans.isSome = true ↔ protocolVersion = NATIVE_VOICE_EVENT_PROTOCOL_VERSION

structure PlaybackVoiceChoice (Parameters : Type) where
  spanId : Nat
  attempt : PreparedVoiceAttempt Parameters

structure PlaybackSemanticEvent where
  actionId : String
  frameOffset : Nat
  deriving Repr, DecidableEq

structure PlaybackTimelineResolution where
  actionId : String
  resolution : AnchorResolution
  deriving Repr, DecidableEq

structure PreparedMarkerPlayback where
  pairedStart : Bool
  cues : List PlaybackCue
  events : List MarkerEventEnvelope
  dispatchId : Nat
  protocolVersion : Nat
  utteranceId : Nat
  deriving Repr, DecidableEq

section

variable {Parameters : Type}

def PlaybackVoiceChoice.event (choice : PlaybackVoiceChoice Parameters) (utteranceId : Nat)
    (nativeApplication : Option (Option NativeApplication)) : MarkerEvent :=
  .voiceChoiceApplied {
    utteranceId := utteranceId
    spanId := choice.spanId
    registryGeneration := choice.attempt.registryGeneration
    logicalVoiceId := choice.attempt.resolution.logicalVoiceId
    choice := choice.attempt.audioIdentity
    nativeApplication := nativeApplication }

namespace MarkerDispatchContext

def new (dispatchId : Nat) : MarkerDispatchContext where
  dispatchId := dispatchId
  protocolVersion := MARKER_PROTOCOL_VERSION
  nextSequence := 0
  nextUtteranceId := 0
  nativePlans := none
  native := by decide

def withTimelineEvents (dispatchId : Nat) : MarkerDispatchContext where
  dispatchId := dispatchId
  protocolVersion := TIMELINE_EVENT_PROTOCOL_VERSION
  nextSequence := 0
  nextUtteranceId := 0
  nativePlans := none
  native := by decide

def withVoiceChoiceEvents (dispatchId : Nat) : MarkerDispatchContext where
  dispatchId := dispatchId
  protocolVersion := VOICE_CHOICE_EVENT_PROTOCOL_VERSION
  nextSequence := 0
  nextUtteranceId := 0
  nativePlans := none
  native := by decide

def withNativeEvents (dispatchId : Nat) (plans : NativePlanReferences) :
    MarkerDispatchContext where
  dispatchId := dispatchId
  protocolVersion := NATIVE_VOICE_EVENT_PROTOCOL_VERSION
  nextSequence := 0
  nextUtteranceId := 0
  nativePlans := some plans
  native := by simp

def supportsNative (context : MarkerDispatchContext) : Bool :=
  context.protocolVersion == NATIVE_VOICE_EVENT_PROTOCOL_VERSION

/-- An event of this dispatch. -/
def envelope (context : MarkerDispatchContext) (sequence : Nat) (event : MarkerEvent) :
    MarkerEventEnvelope where
  protocolVersion := context.protocolVersion
  dispatchId := context.dispatchId
  sequence := sequence
  event := event

/-! ### Preparation -/

/-- A preparation under way: the last number given, and what is made so far. -/
structure Preparation where
  nextSequence : Nat
  events : List MarkerEventEnvelope
  cues : List PlaybackCue

/-- An event with its cue. -/
def pushEvent (context : MarkerDispatchContext) (state : Preparation)
    (placed : Nat × MarkerEvent) : Option Preparation := do
  let sequence ← increment state.nextSequence
  return {
    nextSequence := sequence
    events := state.events ++ [context.envelope sequence placed.2]
    cues := state.cues ++ [⟨placed.1, state.events.length⟩] }

/-- What a receipt says about native parameters, and the plans where they changed. -/
def publishApplication (context : MarkerDispatchContext)
    (application : Option NativeApplication) :
    Option (Option NativePlanReferences × Option (Option NativeApplication)) :=
  match context.nativePlans, application with
  | none, _ => some (none, none)
  | some _, none => some (none, some none)
  | some plans, some application => do
      let published ← plans.publish application
      return (some published.1, some (some published.2))

/-- Identifier 1 deliberately has no separate audio cue: the first cue publishes the start
and the choice together. -/
def pushChoice (context : MarkerDispatchContext) (state : Preparation) (utteranceId : Nat) :
    Option (PlaybackVoiceChoice Parameters) →
      Option (Option NativePlanReferences × Preparation)
  | none => some (none, state)
  | some choice => do
      let published ← context.publishApplication choice.attempt.nativeApplication
      let sequence ← increment state.nextSequence
      return (published.1, { state with
        nextSequence := sequence
        events := state.events ++
          [context.envelope sequence (choice.event utteranceId published.2)] })

/-- The markers and semantic events of an utterance, by frame and then in their order. -/
def pendingEvents (utteranceId : Nat) (markers : List SynthesisMarker)
    (semanticEvents : List PlaybackSemanticEvent) : List (Nat × MarkerEvent) :=
  (markers.map (fun marker =>
      (marker.frameOffset, MarkerEvent.markerReached utteranceId marker)) ++
    semanticEvents.map fun event =>
      (event.frameOffset, MarkerEvent.semanticEventReached utteranceId event.actionId)).mergeSort
    fun first second => decide (first.1 ≤ second.1)

/-- What an utterance tells at its first frame, after its start. -/
def diagnostics (utteranceId : Nat) (resolutions : List PlaybackTimelineResolution)
    (degradedAcss : List AcssDimension) (degradedEffects : List PostSynthesisDimension) :
    List (Nat × MarkerEvent) :=
  resolutions.map (fun resolution =>
      (0, .timelineActionResolved utteranceId resolution.actionId resolution.resolution)) ++
    if degradedAcss ≠ [] ∨ degradedEffects ≠ [] then
      [(0, .timelineStyleDegraded utteranceId degradedAcss degradedEffects)]
    else []

/-- The same dispatch, further on; the plans may be as they were. -/
def advanced (context : MarkerDispatchContext) (sequence utteranceId : Nat)
    (published : Option NativePlanReferences) : MarkerDispatchContext :=
  { context with
    nextSequence := sequence
    nextUtteranceId := utteranceId
    nativePlans := context.nativePlans.map published.getD
    native := by rw [Option.isSome_map]; exact context.native }

/-- The assertions before a preparation. -/
def Assertions (context : MarkerDispatchContext) (semanticEvents : List PlaybackSemanticEvent)
    (resolutions : List PlaybackTimelineResolution) (degradedAcss : List AcssDimension)
    (degradedEffects : List PostSynthesisDimension)
    (choice : Option (PlaybackVoiceChoice Parameters)) : Prop :=
  (choice.isNone = true ∨ carriesChoices context.protocolVersion = true) ∧
    ((semanticEvents = [] ∧ resolutions = [] ∧ degradedAcss = [] ∧ degradedEffects = []) ∨
      supportsTimelineEvents context.protocolVersion = true)

instance (context : MarkerDispatchContext) (semanticEvents : List PlaybackSemanticEvent)
    (resolutions : List PlaybackTimelineResolution) (degradedAcss : List AcssDimension)
    (degradedEffects : List PostSynthesisDimension)
    (choice : Option (PlaybackVoiceChoice Parameters)) :
    Decidable (context.Assertions semanticEvents resolutions degradedAcss degradedEffects choice) :=
  inferInstanceAs (Decidable (_ ∧ _))

/-- Make all events of an utterance. There is no result where an assertion fails or the
numbers are used up. -/
def prepareTimelineUtteranceWithChoice (context : MarkerDispatchContext) (text engineId : String)
    (actualVoice : Option PhysicalVoiceId) (logicalVoiceId : Option String)
    (sampleRate frameCount : Nat) (markers : List SynthesisMarker)
    (semanticEvents : List PlaybackSemanticEvent)
    (resolutions : List PlaybackTimelineResolution) (degradedAcss : List AcssDimension)
    (degradedEffects : List PostSynthesisDimension)
    (choice : Option (PlaybackVoiceChoice Parameters)) :
    Option (MarkerDispatchContext × PreparedMarkerPlayback) :=
  if context.Assertions semanticEvents resolutions degradedAcss degradedEffects choice then do
    let utteranceId ← increment context.nextUtteranceId
    let started ← context.pushEvent ⟨context.nextSequence, [], []⟩
      (0, .utteranceStarted utteranceId text engineId actualVoice logicalVoiceId sampleRate
        frameCount)
    let chosen ← context.pushChoice started utteranceId choice
    let finished ← (diagnostics utteranceId resolutions degradedAcss degradedEffects ++
      pendingEvents utteranceId markers semanticEvents).foldlM context.pushEvent chosen.2
    return (context.advanced finished.nextSequence utteranceId chosen.1, {
      pairedStart := choice.isSome
      cues := finished.cues
      events := finished.events
      dispatchId := context.dispatchId
      protocolVersion := context.protocolVersion
      utteranceId := utteranceId })
  else none

/-! ### What a preparation begins with -/

variable {context : MarkerDispatchContext}

theorem increment_some {counter next : Nat} (taken : increment counter = some next) :
    next = counter + 1 ∧ next ≤ u64Max := by
  unfold increment at taken
  split at taken
  · rename_i room
    cases taken
    exact ⟨rfl, room⟩
  · cases taken

/-- Events are only added behind. -/
theorem foldlM_pushEvent {placed : List (Nat × MarkerEvent)} {state final : Preparation}
    (pushed : placed.foldlM context.pushEvent state = some final) :
    ∃ more, final.events = state.events ++ more := by
  induction placed generalizing state with
  | nil =>
      cases pushed
      exact ⟨[], (List.append_nil _).symm⟩
  | cons event rest ih =>
      rw [List.foldlM_cons, Option.bind_eq_bind, Option.bind_eq_some_iff] at pushed
      obtain ⟨next, first, later⟩ := pushed
      obtain ⟨more, events⟩ := ih later
      unfold pushEvent at first
      rw [Option.bind_eq_bind, Option.bind_eq_some_iff] at first
      obtain ⟨sequence, -, same⟩ := first
      cases same
      exact ⟨_, events.trans (List.append_assoc _ _ _)⟩

/-- The records that are told together at the first frame. -/
def firstRecords (prepared : PreparedMarkerPlayback) : List MarkerEventEnvelope :=
  prepared.events.take (if prepared.pairedStart then 2 else 1)

/-- The start of an utterance, as the next record of a dispatch. -/
def startRecord (context : MarkerDispatchContext) (text engineId : String)
    (actualVoice : Option PhysicalVoiceId) (logicalVoiceId : Option String)
    (sampleRate frameCount : Nat) : MarkerEventEnvelope :=
  context.envelope (context.nextSequence + 1)
    (.utteranceStarted (context.nextUtteranceId + 1) text engineId actualVoice logicalVoiceId
      sampleRate frameCount)

/-- The choice of an utterance, as the record after its start. -/
def choiceRecord (context : MarkerDispatchContext) (choice : PlaybackVoiceChoice Parameters)
    (told : Option (Option NativeApplication)) : MarkerEventEnvelope :=
  context.envelope (context.nextSequence + 2) (choice.event (context.nextUtteranceId + 1) told)

/-- What a preparation begins with: the start, and the choice if there is one. -/
def Begins (context : MarkerDispatchContext) (start : MarkerEventEnvelope)
    (choice : Option (PlaybackVoiceChoice Parameters)) (first : List MarkerEventEnvelope) : Prop :=
  match choice with
  | none => first = [start]
  | some choice => context.nextSequence + 2 ≤ u64Max ∧ ∃ plans told,
      context.publishApplication choice.attempt.nativeApplication = some (plans, told) ∧
        first = [start, context.choiceRecord choice told]

/-- **A preparation begins with the start and the choice.** -/
theorem prepared_records {text engineId : String} {actualVoice : Option PhysicalVoiceId}
    {logicalVoiceId : Option String} {sampleRate frameCount : Nat}
    {markers : List SynthesisMarker} {semanticEvents : List PlaybackSemanticEvent}
    {resolutions : List PlaybackTimelineResolution} {degradedAcss : List AcssDimension}
    {degradedEffects : List PostSynthesisDimension}
    {choice : Option (PlaybackVoiceChoice Parameters)} {after : MarkerDispatchContext}
    {prepared : PreparedMarkerPlayback}
    (made : context.prepareTimelineUtteranceWithChoice text engineId actualVoice logicalVoiceId
      sampleRate frameCount markers semanticEvents resolutions degradedAcss degradedEffects
      choice = some (after, prepared)) :
    context.nextUtteranceId + 1 ≤ u64Max ∧ context.nextSequence + 1 ≤ u64Max ∧
      context.Begins (context.startRecord text engineId actualVoice logicalVoiceId sampleRate
        frameCount) choice (firstRecords prepared) := by
  unfold prepareTimelineUtteranceWithChoice at made
  obtain ⟨-, made⟩ := Option.ite_none_right_eq_some.mp made
  simp only [Option.bind_eq_bind, Option.bind_eq_some_iff] at made
  obtain ⟨utteranceId, utterance, started, start, chosen, chose, finished, rest, result⟩ := made
  obtain ⟨rfl, utteranceRoom⟩ := increment_some utterance
  unfold pushEvent at start
  rw [Option.bind_eq_bind, Option.bind_eq_some_iff] at start
  obtain ⟨sequence, taken, same⟩ := start
  obtain ⟨rfl, sequenceRoom⟩ := increment_some taken
  cases same
  obtain ⟨more, events⟩ := foldlM_pushEvent rest
  cases result
  refine ⟨utteranceRoom, sequenceRoom, ?_⟩
  unfold pushChoice at chose
  cases choice with
  | none =>
      cases chose
      show List.take 1 finished.events = _
      rw [events]
      rfl
  | some choice =>
      dsimp only at chose
      simp only [Option.bind_eq_bind, Option.bind_eq_some_iff] at chose
      obtain ⟨⟨plans, told⟩, published, next, second, same⟩ := chose
      obtain ⟨rfl, room⟩ := increment_some second
      cases same
      refine ⟨room, plans, told, published, ?_⟩
      show List.take 2 finished.events = _
      rw [events]
      rfl

end MarkerDispatchContext

end

end Omnivox.Markers
