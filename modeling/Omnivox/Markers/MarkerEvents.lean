import Mathlib
import Omnivox.Engines.Resolver
import Omnivox.Foundations.Bounded
import Omnivox.Foundations.Json
import Omnivox.Parameters.NativeApplication
import Omnivox.Synthesis.Contracts

/-!
# Marker events

The events of a dispatch that a client is told while it plays, each in an envelope
with the protocol version, the dispatch and its number in the sequence. An event is
written as one flat document: the members of the envelope, a tag, and the members of
the event.

An envelope whose numbers are in the range of their machine types is read back from its
document (`MarkerEventEnvelope.ofJson_toJson`), which names no member twice
(`MarkerEventEnvelope.duplicateFree_toJson`).
-/

set_option autoImplicit false

namespace Omnivox.Markers

open Foundations
open Engines (AcssDimension PhysicalVoiceId PostSynthesisDimension ResolutionReason)
open Parameters (NativeApplication)
open Synthesis (AnchorResolution SynthesisMarker SynthesisMarkerKind)

abbrev u32Max : Nat := wordMax 32

/-! ## Identities -/

/-- Identity of accepted or consumed audio. -/
structure AudioChoiceIdentity where
  choiceId : Option String
  reason : ResolutionReason
  realized : PhysicalVoiceId
  degradedAcss : List AcssDimension
  degradedEffects : List PostSynthesisDimension
  deriving Repr, DecidableEq

/-- Which choice a span is spoken with. The native application is absent in version 3;
in version 4 it is there and may be null. -/
structure VoiceChoiceApplied where
  utteranceId : Nat
  spanId : Nat
  registryGeneration : Nat
  logicalVoiceId : String
  choice : AudioChoiceIdentity
  nativeApplication : Option (Option NativeApplication)
  deriving Repr, DecidableEq

/-- Playback events available to marker-aware clients. -/
inductive MarkerEvent where
  | voiceChoiceApplied (choice : VoiceChoiceApplied)
  | utteranceStarted (utteranceId : Nat) (text engineId : String)
      (actualVoice : Option PhysicalVoiceId) (logicalVoiceId : Option String)
      (sampleRate frameCount : Nat)
  | markerReached (utteranceId : Nat) (marker : SynthesisMarker)
  | semanticEventReached (utteranceId : Nat) (actionId : String)
  | timelineActionResolved (utteranceId : Nat) (actionId : String)
      (resolution : AnchorResolution)
  | timelineStyleDegraded (utteranceId : Nat) (degradedAcss : List AcssDimension)
      (degradedEffects : List PostSynthesisDimension)
  deriving Repr, DecidableEq

structure MarkerEventEnvelope where
  protocolVersion : Nat
  dispatchId : Nat
  sequence : Nat
  event : MarkerEvent
  deriving Repr, DecidableEq

/-! ## Names -/

def acssName : AcssDimension → String
  | .rate => "rate"
  | .averagePitch => "average_pitch"
  | .pitchRange => "pitch_range"
  | .stress => "stress"
  | .richness => "richness"
  | .volume => "volume"

def acssDimensions : List AcssDimension :=
  [.rate, .averagePitch, .pitchRange, .stress, .richness, .volume]

def effectName : PostSynthesisDimension → String
  | .gain => "gain"
  | .lowPass => "low_pass"
  | .highPass => "high_pass"
  | .pan => "pan"
  | .chorus => "chorus"
  | .reverb => "reverb"
  | .echo => "echo"

def postSynthesisDimensions : List PostSynthesisDimension :=
  [.gain, .lowPass, .highPass, .pan, .chorus, .reverb, .echo]

def resolutionName : AnchorResolution → String
  | .exact => "exact"
  | .wordBoundary => "word_boundary"
  | .spanBoundary => "span_boundary"
  | .omitted => "omitted"

def anchorResolutions : List AnchorResolution :=
  [.exact, .wordBoundary, .spanBoundary, .omitted]

def markerKindName : SynthesisMarkerKind → String
  | .word => "word"
  | .sentence => "sentence"
  | .phoneme => "phoneme"
  | .nativeIndex => "native_index"

def synthesisMarkerKinds : List SynthesisMarkerKind := [.word, .sentence, .phoneme, .nativeIndex]

def acssOfJson : Json → Except JsonError AcssDimension := Json.oneOf acssDimensions acssName

def effectOfJson : Json → Except JsonError PostSynthesisDimension :=
  Json.oneOf postSynthesisDimensions effectName

def resolutionOfJson : Json → Except JsonError AnchorResolution :=
  Json.oneOf anchorResolutions resolutionName

def markerKindOfJson : Json → Except JsonError SynthesisMarkerKind :=
  Json.oneOf synthesisMarkerKinds markerKindName

theorem acssOfJson_name (dimension : AcssDimension) :
    acssOfJson (.string (acssName dimension)) = .ok dimension := by
  apply Json.oneOf_name
  · cases dimension <;> decide
  · cases dimension <;> decide

theorem effectOfJson_name (dimension : PostSynthesisDimension) :
    effectOfJson (.string (effectName dimension)) = .ok dimension := by
  apply Json.oneOf_name
  · cases dimension <;> decide
  · cases dimension <;> decide

theorem resolutionOfJson_name (resolution : AnchorResolution) :
    resolutionOfJson (.string (resolutionName resolution)) = .ok resolution := by
  apply Json.oneOf_name
  · cases resolution <;> decide
  · cases resolution <;> decide

theorem markerKindOfJson_name (kind : SynthesisMarkerKind) :
    markerKindOfJson (.string (markerKindName kind)) = .ok kind := by
  apply Json.oneOf_name
  · cases kind <;> decide
  · cases kind <;> decide

/-! ## Documents -/

/-- The items of an array. -/
def listOfJson {α : Type} (decode : Json → Except JsonError α) (document : Json) :
    Except JsonError (List α) := do
  let items ← document.asArray
  items.mapM decode

def acssToJson (dimensions : List AcssDimension) : Json :=
  .array (dimensions.map fun dimension => .string (acssName dimension))

def effectsToJson (dimensions : List PostSynthesisDimension) : Json :=
  .array (dimensions.map fun dimension => .string (effectName dimension))

def voiceToJson (voice : PhysicalVoiceId) : Json :=
  .object [("engine_id", .string voice.engineId), ("voice_id", .string voice.voiceId)]

def voiceOfJson (document : Json) : Except JsonError PhysicalVoiceId := do
  let members ← document.asObject
  let engineId ← Json.required "engine_id" Json.asString members
  let voiceId ← Json.required "voice_id" Json.asString members
  return ⟨engineId, voiceId⟩

def reasonToJson : ResolutionReason → Json
  | .preferred => .object [("reason", .string "preferred")]
  | .explicitAlternative index =>
      .object [("reason", .string "explicit_alternative"), ("preference_index", .number index)]
  | .sameLanguageOnRequestedEngine =>
      .object [("reason", .string "same_language_on_requested_engine")]
  | .preferredEngine index =>
      .object [("reason", .string "preferred_engine"), ("preferred_index", .number index)]
  | .globalDefault => .object [("reason", .string "global_default")]
  | .fallbackEngine index =>
      .object [("reason", .string "fallback_engine"), ("fallback_index", .number index)]

def reasonOfJson (document : Json) : Except JsonError ResolutionReason := do
  let members ← document.asObject
  let tag ← Json.required "reason" Json.asString members
  if tag = "preferred" then return .preferred
  else if tag = "explicit_alternative" then
    let index ← Json.required "preference_index" (Json.asNumber u64Max) members
    return .explicitAlternative index
  else if tag = "same_language_on_requested_engine" then return .sameLanguageOnRequestedEngine
  else if tag = "preferred_engine" then
    let index ← Json.required "preferred_index" (Json.asNumber u64Max) members
    return .preferredEngine index
  else if tag = "global_default" then return .globalDefault
  else if tag = "fallback_engine" then
    let index ← Json.required "fallback_index" (Json.asNumber u64Max) members
    return .fallbackEngine index
  else .error (.unknownVariant tag)

def AudioChoiceIdentity.toJson (identity : AudioChoiceIdentity) : Json :=
  .object [
    ("choice_id", Json.nullOr .string identity.choiceId),
    ("reason", reasonToJson identity.reason),
    ("realized", voiceToJson identity.realized),
    ("degraded_acss", acssToJson identity.degradedAcss),
    ("degraded_effects", effectsToJson identity.degradedEffects)]

def AudioChoiceIdentity.ofJson (document : Json) : Except JsonError AudioChoiceIdentity := do
  let members ← document.asObject
  Json.denyUnknown ["choice_id", "reason", "realized", "degraded_acss", "degraded_effects"] members
  let choiceId ← Json.required "choice_id" (Json.nullable Json.asString) members
  let reason ← Json.required "reason" reasonOfJson members
  let realized ← Json.required "realized" voiceOfJson members
  let degradedAcss ← Json.required "degraded_acss" (listOfJson acssOfJson) members
  let degradedEffects ← Json.required "degraded_effects" (listOfJson effectOfJson) members
  return ⟨choiceId, reason, realized, degradedAcss, degradedEffects⟩

def markerToJson (marker : SynthesisMarker) : Json :=
  .object [
    ("kind", .string (markerKindName marker.kind)),
    ("frame_offset", .number marker.frameOffset),
    ("text_start", Json.nullOr .number marker.textStart),
    ("text_length", Json.nullOr .number marker.textLength),
    ("value", Json.nullOr .string marker.value)]

def markerOfJson (document : Json) : Except JsonError SynthesisMarker := do
  let members ← document.asObject
  let kind ← Json.required "kind" markerKindOfJson members
  let frameOffset ← Json.required "frame_offset" (Json.asNumber u64Max) members
  let textStart ← Json.optional "text_start" (Json.asNumber u32Max) members
  let textLength ← Json.optional "text_length" (Json.asNumber u32Max) members
  let value ← Json.optional "value" Json.asString members
  return ⟨kind, frameOffset, textStart, textLength, value⟩

/-- An absent application is skipped. -/
def nativeMember (application : Option (Option NativeApplication)) : List (String × Json) :=
  match application with
  | none => []
  | some application =>
      [("native_application", Json.nullOr NativeApplication.toJson application)]

def VoiceChoiceApplied.toMembers (choice : VoiceChoiceApplied) : List (String × Json) :=
  [("utterance_id", .number choice.utteranceId),
    ("span_id", .number choice.spanId),
    ("registry_generation", .number choice.registryGeneration),
    ("logical_voice_id", .string choice.logicalVoiceId),
    ("choice", choice.choice.toJson)] ++ nativeMember choice.nativeApplication

/-- The presence of the member is recorded. -/
def nativeOfMembers (members : List (String × Json)) :
    Except JsonError (Option (Option NativeApplication)) := do
  let found ← Json.member? "native_application" members
  match found with
  | none => return none
  | some value =>
      let application ← Json.nullable NativeApplication.ofJson value
      return some application

def VoiceChoiceApplied.ofMembers (members : List (String × Json)) :
    Except JsonError VoiceChoiceApplied := do
  Json.denyUnknown ["utterance_id", "span_id", "registry_generation", "logical_voice_id",
    "choice", "native_application"] members
  let utteranceId ← Json.required "utterance_id" (Json.asNumber u64Max) members
  let spanId ← Json.required "span_id" (Json.asNumber u64Max) members
  let registryGeneration ← Json.required "registry_generation" (Json.asNumber u64Max) members
  let logicalVoiceId ← Json.required "logical_voice_id" Json.asString members
  let choice ← Json.required "choice" AudioChoiceIdentity.ofJson members
  let nativeApplication ← nativeOfMembers members
  return ⟨utteranceId, spanId, registryGeneration, logicalVoiceId, choice, nativeApplication⟩

def MarkerEvent.toMembers : MarkerEvent → List (String × Json)
  | .voiceChoiceApplied choice =>
      ("type", .string "voice_choice_applied") :: choice.toMembers
  | .utteranceStarted utteranceId text engineId actualVoice logicalVoiceId sampleRate
      frameCount =>
      [("type", .string "utterance_started"),
        ("utterance_id", .number utteranceId),
        ("text", .string text),
        ("engine_id", .string engineId),
        ("actual_voice", Json.nullOr voiceToJson actualVoice),
        ("logical_voice_id", Json.nullOr .string logicalVoiceId),
        ("sample_rate", .number sampleRate),
        ("frame_count", .number frameCount)]
  | .markerReached utteranceId marker =>
      [("type", .string "marker_reached"), ("utterance_id", .number utteranceId),
        ("marker", markerToJson marker)]
  | .semanticEventReached utteranceId actionId =>
      [("type", .string "semantic_event_reached"), ("utterance_id", .number utteranceId),
        ("action_id", .string actionId)]
  | .timelineActionResolved utteranceId actionId resolution =>
      [("type", .string "timeline_action_resolved"), ("utterance_id", .number utteranceId),
        ("action_id", .string actionId), ("resolution", .string (resolutionName resolution))]
  | .timelineStyleDegraded utteranceId degradedAcss degradedEffects =>
      [("type", .string "timeline_style_degraded"), ("utterance_id", .number utteranceId),
        ("degraded_acss", acssToJson degradedAcss),
        ("degraded_effects", effectsToJson degradedEffects)]

def utteranceStartedOfMembers (members : List (String × Json)) :
    Except JsonError MarkerEvent := do
  let utteranceId ← Json.required "utterance_id" (Json.asNumber u64Max) members
  let text ← Json.required "text" Json.asString members
  let engineId ← Json.required "engine_id" Json.asString members
  let actualVoice ← Json.optional "actual_voice" voiceOfJson members
  let logicalVoiceId ← Json.optional "logical_voice_id" Json.asString members
  let sampleRate ← Json.required "sample_rate" (Json.asNumber u32Max) members
  let frameCount ← Json.required "frame_count" (Json.asNumber u64Max) members
  return .utteranceStarted utteranceId text engineId actualVoice logicalVoiceId sampleRate
    frameCount

def markerReachedOfMembers (members : List (String × Json)) :
    Except JsonError MarkerEvent := do
  let utteranceId ← Json.required "utterance_id" (Json.asNumber u64Max) members
  let marker ← Json.required "marker" markerOfJson members
  return .markerReached utteranceId marker

def semanticEventReachedOfMembers (members : List (String × Json)) :
    Except JsonError MarkerEvent := do
  let utteranceId ← Json.required "utterance_id" (Json.asNumber u64Max) members
  let actionId ← Json.required "action_id" Json.asString members
  return .semanticEventReached utteranceId actionId

def timelineActionResolvedOfMembers (members : List (String × Json)) :
    Except JsonError MarkerEvent := do
  let utteranceId ← Json.required "utterance_id" (Json.asNumber u64Max) members
  let actionId ← Json.required "action_id" Json.asString members
  let resolution ← Json.required "resolution" resolutionOfJson members
  return .timelineActionResolved utteranceId actionId resolution

def timelineStyleDegradedOfMembers (members : List (String × Json)) :
    Except JsonError MarkerEvent := do
  let utteranceId ← Json.required "utterance_id" (Json.asNumber u64Max) members
  let degradedAcss ← Json.required "degraded_acss" (listOfJson acssOfJson) members
  let degradedEffects ← Json.required "degraded_effects" (listOfJson effectOfJson) members
  return .timelineStyleDegraded utteranceId degradedAcss degradedEffects

/-- The tag decides how the other members are read. -/
def MarkerEvent.ofMembers (members : List (String × Json)) : Except JsonError MarkerEvent := do
  let tag ← Json.required "type" Json.asString members
  let content := Json.remaining ["type"] members
  if tag = "voice_choice_applied" then
    let choice ← VoiceChoiceApplied.ofMembers content
    return .voiceChoiceApplied choice
  else if tag = "utterance_started" then utteranceStartedOfMembers content
  else if tag = "marker_reached" then markerReachedOfMembers content
  else if tag = "semantic_event_reached" then semanticEventReachedOfMembers content
  else if tag = "timeline_action_resolved" then timelineActionResolvedOfMembers content
  else if tag = "timeline_style_degraded" then timelineStyleDegradedOfMembers content
  else .error (.unknownVariant tag)

/-- The members of the event stand beside those of the envelope. -/
def MarkerEventEnvelope.toJson (envelope : MarkerEventEnvelope) : Json :=
  .object (("protocol_version", .number envelope.protocolVersion) ::
    ("dispatch_id", .number envelope.dispatchId) ::
    ("sequence", .number envelope.sequence) :: envelope.event.toMembers)

def MarkerEventEnvelope.ofJson (document : Json) : Except JsonError MarkerEventEnvelope := do
  let members ← document.asObject
  let protocolVersion ← Json.required "protocol_version" (Json.asNumber u32Max) members
  let dispatchId ← Json.required "dispatch_id" (Json.asNumber u64Max) members
  let sequence ← Json.required "sequence" (Json.asNumber u64Max) members
  let event ← MarkerEvent.ofMembers
    (Json.remaining ["protocol_version", "dispatch_id", "sequence"] members)
  return ⟨protocolVersion, dispatchId, sequence, event⟩

/-! ## Ranges -/

/-- The numbers of a record fit their machine types. -/
def reasonInRange : ResolutionReason → Prop
  | .explicitAlternative index => index ≤ u64Max
  | .preferredEngine index => index ≤ u64Max
  | .fallbackEngine index => index ≤ u64Max
  | _ => True

structure MarkerInRange (marker : SynthesisMarker) : Prop where
  frameOffset : marker.frameOffset ≤ u64Max
  textStart : ∀ start ∈ marker.textStart, start ≤ u32Max
  textLength : ∀ length ∈ marker.textLength, length ≤ u32Max

structure VoiceChoiceApplied.InRange (choice : VoiceChoiceApplied) : Prop where
  utteranceId : choice.utteranceId ≤ u64Max
  spanId : choice.spanId ≤ u64Max
  registryGeneration : choice.registryGeneration ≤ u64Max
  reason : reasonInRange choice.choice.reason
  nativeApplication : ∀ present ∈ choice.nativeApplication, ∀ application ∈ present,
    NativeApplication.InRange application

def MarkerEvent.InRange : MarkerEvent → Prop
  | .voiceChoiceApplied choice => choice.InRange
  | .utteranceStarted utteranceId _ _ _ _ sampleRate frameCount =>
      utteranceId ≤ u64Max ∧ sampleRate ≤ u32Max ∧ frameCount ≤ u64Max
  | .markerReached utteranceId marker => utteranceId ≤ u64Max ∧ MarkerInRange marker
  | .semanticEventReached utteranceId _ => utteranceId ≤ u64Max
  | .timelineActionResolved utteranceId _ _ => utteranceId ≤ u64Max
  | .timelineStyleDegraded utteranceId _ _ => utteranceId ≤ u64Max

structure MarkerEventEnvelope.InRange (envelope : MarkerEventEnvelope) : Prop where
  protocolVersion : envelope.protocolVersion ≤ u32Max
  dispatchId : envelope.dispatchId ≤ u64Max
  sequence : envelope.sequence ≤ u64Max
  event : envelope.event.InRange

/-! ## Reading what was written -/

attribute [local simp] VoiceChoiceApplied.toMembers MarkerEvent.toMembers

theorem asNumber_of_le {limit n : Nat} (fits : n ≤ limit) :
    Json.asNumber limit (.number n) = .ok n :=
  if_pos fits

theorem asString_string (value : String) : Json.asString (.string value) = .ok value := rfl

theorem listOfJson_map {α : Type} {decode : Json → Except JsonError α} {encode : α → Json}
    (reads : ∀ value, decode (encode value) = .ok value) (values : List α) :
    listOfJson decode (.array (values.map encode)) = .ok values :=
  Json.mapM_decode fun value _ => reads value

theorem acssOfJson_toJson (dimensions : List AcssDimension) :
    listOfJson acssOfJson (acssToJson dimensions) = .ok dimensions :=
  listOfJson_map acssOfJson_name dimensions

theorem effectsOfJson_toJson (dimensions : List PostSynthesisDimension) :
    listOfJson effectOfJson (effectsToJson dimensions) = .ok dimensions :=
  listOfJson_map effectOfJson_name dimensions

theorem nullableString (value : Option String) :
    Json.nullable Json.asString (Json.nullOr Json.string value) = .ok value :=
  Json.nullable_nullOr (fun _ same => by cases same) fun _ _ => rfl

theorem nullableNumber {limit : Nat} {value : Option Nat} (fits : ∀ n ∈ value, n ≤ limit) :
    Json.nullable (Json.asNumber limit) (Json.nullOr Json.number value) = .ok value :=
  Json.nullable_nullOr (fun _ same => by cases same) fun n held => asNumber_of_le (fits n held)

theorem voiceOfJson_toJson (voice : PhysicalVoiceId) :
    voiceOfJson (voiceToJson voice) = .ok voice := by
  unfold voiceOfJson voiceToJson
  simp [Json.asObject, ok_bind, Json.required_of_found, asString_string]

theorem nullableVoice (voice : Option PhysicalVoiceId) :
    Json.nullable voiceOfJson (Json.nullOr voiceToJson voice) = .ok voice :=
  Json.nullable_nullOr (fun _ same => by cases same) fun voice _ => voiceOfJson_toJson voice

theorem reasonOfJson_toJson {reason : ResolutionReason} (inRange : reasonInRange reason) :
    reasonOfJson (reasonToJson reason) = .ok reason := by
  unfold reasonOfJson reasonToJson
  cases reason with
  | preferred => rfl
  | sameLanguageOnRequestedEngine => rfl
  | globalDefault => rfl
  | explicitAlternative index =>
      have number := asNumber_of_le inRange
      simp [Json.asObject, ok_bind, Json.required_of_found, asString_string, number]
  | preferredEngine index =>
      have number := asNumber_of_le inRange
      simp [Json.asObject, ok_bind, Json.required_of_found, asString_string, number]
  | fallbackEngine index =>
      have number := asNumber_of_le inRange
      simp [Json.asObject, ok_bind, Json.required_of_found, asString_string, number]

theorem AudioChoiceIdentity.ofJson_toJson {identity : AudioChoiceIdentity}
    (inRange : reasonInRange identity.reason) : ofJson identity.toJson = .ok identity := by
  unfold ofJson toJson
  simp [Json.asObject, ok_bind, Json.denyUnknown_of_known, Json.required_of_found,
    nullableString, reasonOfJson_toJson inRange, voiceOfJson_toJson, acssOfJson_toJson,
    effectsOfJson_toJson]

theorem markerOfJson_toJson {marker : SynthesisMarker} (inRange : MarkerInRange marker) :
    markerOfJson (markerToJson marker) = .ok marker := by
  unfold markerOfJson markerToJson
  simp [Json.asObject, ok_bind, Json.required_of_found, Json.optional_of_found,
    markerKindOfJson_name, asNumber_of_le inRange.frameOffset, nullableString,
    nullableNumber inRange.textStart, nullableNumber inRange.textLength]

theorem nullableApplication {application : Option NativeApplication}
    (inRange : ∀ held ∈ application, NativeApplication.InRange held) :
    Json.nullable NativeApplication.ofJson
      (Json.nullOr NativeApplication.toJson application) = .ok application :=
  Json.nullable_nullOr (fun _ same => by cases same)
    fun held member => NativeApplication.ofJson_toJson (inRange held member)

/-- **A choice is read back**, with the presence of its last member. -/
theorem VoiceChoiceApplied.ofMembers_toMembers {choice : VoiceChoiceApplied}
    (inRange : choice.InRange) : ofMembers choice.toMembers = .ok choice := by
  obtain ⟨utteranceId, spanId, registryGeneration, logicalVoiceId, identity, native⟩ := choice
  have utterance := asNumber_of_le inRange.utteranceId
  have span := asNumber_of_le inRange.spanId
  have generation := asNumber_of_le inRange.registryGeneration
  have read := AudioChoiceIdentity.ofJson_toJson inRange.reason
  dsimp only at utterance span generation read
  unfold ofMembers toMembers nativeOfMembers
  cases native with
  | none =>
      simp [nativeMember, ok_bind, Json.denyUnknown_of_known, Json.required_of_found, utterance,
        span, generation, asString_string, read]
  | some application =>
      have present := nullableApplication (inRange.nativeApplication application rfl)
      simp [nativeMember, ok_bind, Json.denyUnknown_of_known, Json.required_of_found, utterance,
        span, generation, asString_string, read, present]

/-- An event's own members are named neither like its tag nor like the envelope's. -/
def ownNames (members : List (String × Json)) : Prop :=
  ∀ member ∈ members,
    member.1 ∉ ["protocol_version", "dispatch_id", "sequence"] ∧ member.1 ∉ ["type"]

theorem VoiceChoiceApplied.ownNames_toMembers (choice : VoiceChoiceApplied) :
    ownNames choice.toMembers := by
  intro member there
  unfold toMembers nativeMember at there
  cases held : choice.nativeApplication with
  | none =>
      simp only [held, List.append_nil, List.mem_cons, List.not_mem_nil, or_false] at there
      rcases there with rfl | rfl | rfl | rfl | rfl <;> simp
  | some application =>
      simp only [held, List.cons_append, List.nil_append, List.mem_cons, List.not_mem_nil,
        or_false] at there
      rcases there with rfl | rfl | rfl | rfl | rfl | rfl <;> simp

/-- The tag of an event, and its own members after it. -/
theorem MarkerEvent.toMembers_eq (event : MarkerEvent) :
    ∃ tag content, event.toMembers = ("type", Json.string tag) :: content ∧
      ownNames content := by
  cases event with
  | voiceChoiceApplied choice => exact ⟨_, _, rfl, choice.ownNames_toMembers⟩
  | utteranceStarted => exact ⟨_, _, rfl, by simp [ownNames]⟩
  | markerReached => exact ⟨_, _, rfl, by simp [ownNames]⟩
  | semanticEventReached => exact ⟨_, _, rfl, by simp [ownNames]⟩
  | timelineActionResolved => exact ⟨_, _, rfl, by simp [ownNames]⟩
  | timelineStyleDegraded => exact ⟨_, _, rfl, by simp [ownNames]⟩

/-- The content of an event is what follows its tag. -/
theorem remaining_content {tag : Json} {content : List (String × Json)}
    (own : ownNames content) :
    Json.remaining ["type"] (("type", tag) :: content) = content := by
  have taken : Json.remaining ["type"] ([("type", tag)] ++ content) = content :=
    Json.remaining_append (by simp) fun member there => (own member there).2
  exact taken

/-- **An event is read back** from its members. -/
theorem MarkerEvent.ofMembers_toMembers {event : MarkerEvent} (inRange : event.InRange) :
    ofMembers event.toMembers = .ok event := by
  unfold ofMembers
  cases event with
  | voiceChoiceApplied choice =>
      have read := VoiceChoiceApplied.ofMembers_toMembers inRange
      have content := @remaining_content (.string "voice_choice_applied") _
        choice.ownNames_toMembers
      have tag : Json.required "type" Json.asString
          (MarkerEvent.toMembers (.voiceChoiceApplied choice)) =
          .ok "voice_choice_applied" :=
        Json.required_of_found (Json.member?_cons_self fun member there named =>
          (choice.ownNames_toMembers member there).2 (by simp [named]))
      rw [tag, ok_bind, if_pos rfl, toMembers, content, read]
      rfl
  | utteranceStarted utteranceId text engineId actualVoice logicalVoiceId sampleRate frameCount =>
      obtain ⟨utterance, rate, frames⟩ := inRange
      simp [toMembers, utteranceStartedOfMembers, Json.remaining, ok_bind,
        Json.required_of_found, Json.optional_of_found, asString_string,
        asNumber_of_le utterance, asNumber_of_le rate, asNumber_of_le frames, nullableVoice,
        nullableString]
  | markerReached utteranceId marker =>
      obtain ⟨utterance, range⟩ := inRange
      simp [toMembers, markerReachedOfMembers, Json.remaining, ok_bind, Json.required_of_found,
        asString_string, asNumber_of_le utterance, markerOfJson_toJson range]
  | semanticEventReached utteranceId actionId =>
      simp [toMembers, semanticEventReachedOfMembers, Json.remaining, ok_bind,
        Json.required_of_found, asString_string, asNumber_of_le inRange]
  | timelineActionResolved utteranceId actionId resolution =>
      simp [toMembers, timelineActionResolvedOfMembers, Json.remaining, ok_bind,
        Json.required_of_found, asString_string, asNumber_of_le inRange, resolutionOfJson_name]
  | timelineStyleDegraded utteranceId degradedAcss degradedEffects =>
      simp [toMembers, timelineStyleDegradedOfMembers, Json.remaining, ok_bind,
        Json.required_of_found, asString_string, asNumber_of_le inRange, acssOfJson_toJson,
        effectsOfJson_toJson]

/-- The members of an event, without those of its envelope. -/
theorem MarkerEvent.foreign_toMembers (event : MarkerEvent) :
    ∀ member ∈ event.toMembers,
      member.1 ∉ ["protocol_version", "dispatch_id", "sequence"] := by
  obtain ⟨tag, content, members, own⟩ := event.toMembers_eq
  rw [members]
  intro member there
  rcases List.mem_cons.mp there with rfl | there
  · simp
  · exact (own member there).1

/-- A reserved name is none of the event's own. -/
theorem MarkerEvent.ne_of_reserved {event : MarkerEvent} {name : String}
    (reserved : name ∈ ["protocol_version", "dispatch_id", "sequence"]) :
    ∀ member ∈ event.toMembers, member.1 ≠ name :=
  fun member there named => event.foreign_toMembers member there (named ▸ reserved)

/-- **An envelope is read back** from its document. -/
theorem MarkerEventEnvelope.ofJson_toJson {envelope : MarkerEventEnvelope}
    (inRange : envelope.InRange) : ofJson envelope.toJson = .ok envelope := by
  obtain ⟨protocolVersion, dispatchId, sequence, event⟩ := envelope
  have read := MarkerEvent.ofMembers_toMembers inRange.event
  have version := asNumber_of_le inRange.protocolVersion
  have dispatch := asNumber_of_le inRange.dispatchId
  have number := asNumber_of_le inRange.sequence
  dsimp only at version dispatch number read
  have content : Json.remaining ["protocol_version", "dispatch_id", "sequence"]
      ([("protocol_version", .number protocolVersion), ("dispatch_id", .number dispatchId),
        ("sequence", .number sequence)] ++ event.toMembers) = event.toMembers :=
    Json.remaining_append (by simp) event.foreign_toMembers
  have versionFound : Json.required "protocol_version" (Json.asNumber u32Max)
      (("protocol_version", .number protocolVersion) :: ("dispatch_id", .number dispatchId) ::
        ("sequence", .number sequence) :: event.toMembers) = .ok protocolVersion := by
    rw [Json.required_of_found, version]
    exact Json.member?_cons_self (List.forall_mem_cons.mpr ⟨by simp,
      List.forall_mem_cons.mpr ⟨by simp, MarkerEvent.ne_of_reserved (by simp)⟩⟩)
  have dispatchFound : Json.required "dispatch_id" (Json.asNumber u64Max)
      (("protocol_version", .number protocolVersion) :: ("dispatch_id", .number dispatchId) ::
        ("sequence", .number sequence) :: event.toMembers) = .ok dispatchId := by
    rw [Json.required_of_found, dispatch]
    rw [Json.member?_cons_of_ne (by simp)]
    exact Json.member?_cons_self (List.forall_mem_cons.mpr ⟨by simp,
      MarkerEvent.ne_of_reserved (by simp)⟩)
  have sequenceFound : Json.required "sequence" (Json.asNumber u64Max)
      (("protocol_version", .number protocolVersion) :: ("dispatch_id", .number dispatchId) ::
        ("sequence", .number sequence) :: event.toMembers) = .ok sequence := by
    rw [Json.required_of_found, number]
    rw [Json.member?_cons_of_ne (by simp), Json.member?_cons_of_ne (by simp)]
    exact Json.member?_cons_self (MarkerEvent.ne_of_reserved (by simp))
  unfold ofJson toJson Json.asObject
  rw [ok_bind, versionFound, ok_bind, dispatchFound, ok_bind, sequenceFound, ok_bind]
  rw [List.cons_append, List.cons_append, List.cons_append, List.nil_append] at content
  rw [content, read]
  rfl

/-! ## No member twice -/

theorem duplicateFree_nullOr {α : Type} {encode : α → Json} {value : Option α}
    (plain : ∀ a ∈ value, (encode a).duplicateFree = true) :
    (Json.nullOr encode value).duplicateFree = true := by
  cases value with
  | none => rfl
  | some a => exact plain a rfl

theorem duplicateFree_strings {α : Type} (name : α → String) (values : List α) :
    (Json.array (values.map fun value => .string (name value))).duplicateFree = true := by
  rw [Json.duplicateFree, itemsDuplicateFree_iff]
  intro item there
  obtain ⟨value, -, rfl⟩ := List.mem_map.mp there
  rfl

/-- An object whose names differ, of documents without doubles. -/
theorem duplicateFree_object {members : List (String × Json)}
    (names : (members.map Prod.fst).Nodup)
    (values : ∀ member ∈ members, member.2.duplicateFree = true) :
    (Json.object members).duplicateFree = true := by
  rw [Json.duplicateFree, Bool.and_eq_true, membersDuplicateFree_iff]
  exact ⟨decide_eq_true names, values⟩

theorem duplicateFree_application (application : NativeApplication) :
    application.toJson.duplicateFree = true := by
  have identity : ∀ held ∈ application.identity,
      (Parameters.CatalogueIdentity.toJson held).duplicateFree = true := by
    intro held _
    exact duplicateFree_object (by simp) (by simp [Json.duplicateFree])
  have status : application.status.toJson.duplicateFree = true := by
    cases application.status <;> rfl
  have masked : (Parameters.stringsToJson application.maskedParameters).duplicateFree = true :=
    duplicateFree_strings id application.maskedParameters
  have plan : (Json.nullOr Json.string application.planId).duplicateFree = true :=
    duplicateFree_nullOr fun _ _ => rfl
  have reason : (Json.nullOr Json.string application.reason).duplicateFree = true :=
    duplicateFree_nullOr fun _ _ => rfl
  exact duplicateFree_object (by simp)
    (by simp [status, plan, duplicateFree_nullOr identity, masked, reason])

theorem duplicateFree_voice (voice : PhysicalVoiceId) :
    (voiceToJson voice).duplicateFree = true :=
  duplicateFree_object (by simp) (by simp [Json.duplicateFree])

theorem duplicateFree_identity (identity : AudioChoiceIdentity) :
    identity.toJson.duplicateFree = true := by
  have choice : (Json.nullOr Json.string identity.choiceId).duplicateFree = true :=
    duplicateFree_nullOr fun _ _ => rfl
  have reason : (reasonToJson identity.reason).duplicateFree = true := by
    unfold reasonToJson
    cases identity.reason with
    | preferred => rfl
    | explicitAlternative => exact duplicateFree_object (by simp) (by simp [Json.duplicateFree])
    | sameLanguageOnRequestedEngine => rfl
    | preferredEngine => exact duplicateFree_object (by simp) (by simp [Json.duplicateFree])
    | globalDefault => rfl
    | fallbackEngine => exact duplicateFree_object (by simp) (by simp [Json.duplicateFree])
  have acss : (acssToJson identity.degradedAcss).duplicateFree = true :=
    duplicateFree_strings acssName identity.degradedAcss
  have effects : (effectsToJson identity.degradedEffects).duplicateFree = true :=
    duplicateFree_strings effectName identity.degradedEffects
  exact duplicateFree_object (by simp)
    (by simp [choice, reason, duplicateFree_voice, acss, effects])

theorem duplicateFree_marker (marker : SynthesisMarker) :
    (markerToJson marker).duplicateFree = true := by
  have start : (Json.nullOr Json.number marker.textStart).duplicateFree = true :=
    duplicateFree_nullOr fun _ _ => rfl
  have length : (Json.nullOr Json.number marker.textLength).duplicateFree = true :=
    duplicateFree_nullOr fun _ _ => rfl
  have value : (Json.nullOr Json.string marker.value).duplicateFree = true :=
    duplicateFree_nullOr fun _ _ => rfl
  exact duplicateFree_object (by simp) (by simp [Json.duplicateFree, start, length, value])

/-- The members of an event have different names, and their values no doubles. -/
theorem MarkerEvent.duplicateFree_toMembers (event : MarkerEvent) :
    (event.toMembers.map Prod.fst).Nodup ∧
      ∀ member ∈ event.toMembers, member.2.duplicateFree = true := by
  cases event with
  | voiceChoiceApplied choice =>
      obtain ⟨utteranceId, spanId, generation, logicalVoiceId, choice, native⟩ := choice
      have identity := duplicateFree_identity choice
      unfold toMembers VoiceChoiceApplied.toMembers nativeMember
      cases native with
      | none => exact ⟨by simp, by simp [Json.duplicateFree, identity]⟩
      | some application =>
          have native : (Json.nullOr NativeApplication.toJson application).duplicateFree = true :=
            duplicateFree_nullOr fun held _ => duplicateFree_application held
          exact ⟨by simp, by simp [Json.duplicateFree, identity, native]⟩
  | utteranceStarted utteranceId text engineId actualVoice logicalVoiceId sampleRate frameCount =>
      have voice : (Json.nullOr voiceToJson actualVoice).duplicateFree = true :=
        duplicateFree_nullOr fun held _ => duplicateFree_voice held
      have logical : (Json.nullOr Json.string logicalVoiceId).duplicateFree = true :=
        duplicateFree_nullOr fun _ _ => rfl
      exact ⟨by simp [toMembers], by simp [toMembers, Json.duplicateFree, voice, logical]⟩
  | markerReached utteranceId marker =>
      exact ⟨by simp [toMembers],
        by simp [toMembers, Json.duplicateFree, duplicateFree_marker marker]⟩
  | semanticEventReached => exact ⟨by simp [toMembers], by simp [toMembers, Json.duplicateFree]⟩
  | timelineActionResolved => exact ⟨by simp [toMembers], by simp [toMembers, Json.duplicateFree]⟩
  | timelineStyleDegraded utteranceId degradedAcss degradedEffects =>
      have acss : (acssToJson degradedAcss).duplicateFree = true :=
        duplicateFree_strings acssName degradedAcss
      have effects : (effectsToJson degradedEffects).duplicateFree = true :=
        duplicateFree_strings effectName degradedEffects
      exact ⟨by simp [toMembers], by simp [toMembers, Json.duplicateFree, acss, effects]⟩

/-- **No member of an envelope is named twice**, at any depth. -/
theorem MarkerEventEnvelope.duplicateFree_toJson (envelope : MarkerEventEnvelope) :
    envelope.toJson.duplicateFree = true := by
  obtain ⟨names, values⟩ := envelope.event.duplicateFree_toMembers
  have absent : ∀ name ∈ ["protocol_version", "dispatch_id", "sequence"],
      name ∉ envelope.event.toMembers.map Prod.fst := by
    intro name reserved there
    obtain ⟨member, held, rfl⟩ := List.mem_map.mp there
    exact MarkerEvent.ne_of_reserved reserved member held rfl
  have version := absent "protocol_version" (by simp)
  have dispatch := absent "dispatch_id" (by simp)
  have sequence := absent "sequence" (by simp)
  refine duplicateFree_object ?_ ?_
  · simp only [List.map_cons, List.nodup_cons, List.mem_cons]
    exact ⟨by simpa using version, by simpa using dispatch, sequence, names⟩
  · simp only [List.forall_mem_cons]
    exact ⟨rfl, rfl, rfl, values⟩

end Omnivox.Markers
