import Mathlib
import Omnivox.Engines.LogicalVoices
import Omnivox.Engines.RoutingPolicy
import Omnivox.Synthesis.Contracts

/-!
# Routing snapshots

A batch is routed by a snapshot: the registered definitions, the effective fallback policy
and an inventory that the batch alone changes. A route is resolved in the snapshot, after a
runtime failure again without the voice or engine that failed, and for one chunk of text
without the engines that cannot speak it.
-/

set_option autoImplicit false

namespace Omnivox.Routing

open Engines Foundations
open Synthesis (TtsError)

def IMPLICIT_LEGACY_VOICE_ID : String := "__omnivox_internal_legacy__"

/-- Immutable registration state plus a batch-local mutable inventory. -/
structure LogicalVoiceRoutingSnapshot where
  definitions : List LogicalVoiceDefinition
  registryGeneration : Nat
  layeredDefinitions : List LayeredVoiceDefinition
  engineDefinitions : List EngineLayeredVoiceDefinition
  previewChoiceIndex : Option Nat
  fallbackPolicy : FallbackPolicy
  inventory : List EngineDescriptor
  disabledEngineIds : List String
  enginePermissions : EngineSelectionPermissions
  deriving Repr, DecidableEq

/-- Physical route selected for one logical voice within a dispatched batch. -/
structure LogicalRoute (Engine : Type) where
  resolution : VoiceResolution
  logicalVoiceId : String
  reportedLogicalVoiceId : Option String
  engine : Engine
  realized : PhysicalVoiceId
  acss : AcssApplication
  effects : PostSynthesisApplication

/-- What follows a runtime failure. -/
inductive RuntimeReroute (Engine : Type) where
  | retry (route : LogicalRoute Engine)
  | notRetryable
  | exhausted (reason : String)

/-! ## Runtime failures -/

/-- The voices of an engine with the realized one among them, if the engine offers it. -/
def listRealized (engine : EngineDescriptor) (realized : PhysicalVoiceId) :
    List VoiceDescriptor :=
  if engine.voices.any fun voice => voice.id == realized then engine.voices
  else engine.voices ++ (engine.voice realized.voiceId).toList

/-- The voice as one that is not available. -/
def markUnavailable (reason : String) (voice : VoiceDescriptor) : VoiceDescriptor × Bool :=
  ({ voice with availability := .unavailable reason }, true)

/-- What a failure leaves of its engine, and whether it was recorded. -/
def recordOnEngine (realized : PhysicalVoiceId) (error : TtsError) (engine : EngineDescriptor) :
    EngineDescriptor × Bool :=
  match error with
  | .voiceNotFound reason =>
      let recorded := updateFirst (fun voice => voice.id == realized) (markUnavailable reason)
        (listRealized engine realized)
      ({ engine with voices := recorded.1 }, recorded.2)
  | .notAvailable =>
      ({ engine with
        availability := .unavailable "runtime synthesis reported engine unavailable" }, true)
  | .synthesisFailed reason => ({ engine with health := .failed reason }, true)
  | .invalidParameter _ => (engine, false)

/-- Exclude the failed runtime target, and tell whether that was done. -/
def recordRuntimeFailure (inventory : List EngineDescriptor) (realized : PhysicalVoiceId)
    (error : TtsError) : List EngineDescriptor × Bool :=
  updateFirst (fun engine => engine.id == realized.engineId) (recordOnEngine realized error)
    inventory

/-! ## Capture -/

namespace LogicalVoiceRoutingSnapshot

def layered : RegisteredVoiceDefinition → Option LayeredVoiceDefinition
  | .layered definition => some definition
  | _ => none

def engineLayered : RegisteredVoiceDefinition → Option EngineLayeredVoiceDefinition
  | .engineLayered definition => some definition
  | _ => none

/-- The registered definitions of a session, under a policy and an inventory. -/
def ofRegistry {Engine : Type} (logicalVoices : LogicalVoiceRegistry)
    (engineRegistry : EngineRegistry Engine) (fallbackPolicy : FallbackPolicy)
    (inventory : List EngineDescriptor) (disabledEngineIds : List String) :
    LogicalVoiceRoutingSnapshot where
  definitions := logicalVoices.definitions
  registryGeneration := logicalVoices.generation
  layeredDefinitions := logicalVoices.registeredDefinitions.filterMap layered
  engineDefinitions := logicalVoices.registeredDefinitions.filterMap engineLayered
  previewChoiceIndex := none
  fallbackPolicy := fallbackPolicy
  inventory := inventory
  disabledEngineIds := disabledEngineIds
  enginePermissions := engineRegistry.selectionPermissions

section

variable {Engine : Type}

def captureWithPolicy (logicalVoices : LogicalVoiceRegistry)
    (engineRegistry : EngineRegistry Engine) (routingPolicy : RoutingPolicyRegistry) :
    LogicalVoiceRoutingSnapshot :=
  ofRegistry logicalVoices engineRegistry
    (routingPolicy.effectiveFallbackPolicy logicalVoices.fallbackPolicy)
    (routingPolicy.projectInventory engineRegistry.inventory)
    routingPolicy.policy.disabledEngineIds

/-- Preview retains its private empty fallback policy but honors explicit administrative
engine disablement. -/
def capturePreview (logicalVoices : LogicalVoiceRegistry)
    (engineRegistry : EngineRegistry Engine) (routingPolicy : RoutingPolicyRegistry) :
    LogicalVoiceRoutingSnapshot :=
  ofRegistry logicalVoices engineRegistry logicalVoices.fallbackPolicy
    (routingPolicy.projectInventory engineRegistry.inventory)
    routingPolicy.policy.disabledEngineIds

/-- Replace the dispatch-time inventory with the worker's current runtime view. -/
def replaceInventory (snapshot : LogicalVoiceRoutingSnapshot)
    (inventory : List EngineDescriptor) : LogicalVoiceRoutingSnapshot :=
  { snapshot with inventory := inventory.map (projectDescriptor snapshot.disabledEngineIds) }

/-- The selector of one choice of a private draft. -/
def draftSelector (snapshot : LogicalVoiceRoutingSnapshot) (index : Nat) :
    Except String VoiceSelector :=
  match snapshot.layeredDefinitions, snapshot.engineDefinitions with
  | [definition], [] =>
      orError "preview choice index is absent from the draft"
        ((definition.choices[index]?).map VoiceChoice.selector)
  | [], [definition] =>
      orError "preview choice index is absent from the draft"
        ((definition.choices[index]?).map EngineVoiceChoice.selector)
  | _, _ => .error "individual preview requires one private layered draft"

/-- Restrict a validated private draft without renumbering its authoritative choices. -/
def restrictPreviewToChoice (snapshot : LogicalVoiceRoutingSnapshot) (index : Nat) :
    Except String LogicalVoiceRoutingSnapshot :=
  match snapshot.definitions with
  | [definition] => do
      let selector ← snapshot.draftSelector index
      return { snapshot with
        definitions := [{ definition with preferences := [selector] }]
        previewChoiceIndex := some index
        fallbackPolicy := .default }
  | _ => .error "individual preview requires one private layered draft"

/-! ## Routes -/

/-- Whether the registry holds an engine-layered definition of a voice. -/
def hasNativeDefinition (snapshot : LogicalVoiceRoutingSnapshot) (id : String) : Bool :=
  snapshot.engineDefinitions.any fun definition => definition.id == id

def routeFromResolution (resolution : VoiceResolution) (definition : LogicalVoiceDefinition)
    (inventory : List EngineDescriptor) (engineRegistry : EngineRegistry Engine) :
    Except String (LogicalRoute Engine) := do
  let engine ← orError
    (s!"logical voice {resolution.logicalVoiceId} resolved to missing engine " ++
      resolution.realized.engineId)
    (engineRegistry.engine resolution.realized.engineId)
  let descriptor ← orError
    s!"logical voice {resolution.logicalVoiceId} resolved to an engine missing from inventory"
    (inventory.find? fun descriptor => descriptor.id == resolution.realized.engineId)
  return {
    resolution := resolution
    logicalVoiceId := resolution.logicalVoiceId
    reportedLogicalVoiceId := some resolution.logicalVoiceId
    engine := engine
    realized := resolution.realized
    acss := definition.acss.degradeFor descriptor.acss
    effects := definition.effects.degradeFor descriptor.postSynthesisDimensions }

/-- Map the reason of a restricted draft back into the full one. -/
def previewResolution (previewChoiceIndex : Option Nat) (resolution : VoiceResolution) :
    Except String VoiceResolution :=
  match previewChoiceIndex with
  | none => .ok resolution
  | some index => do
      ensure (resolution.reason == .preferred) "individual preview attempted a policy substitute"
      return if 0 < index then { resolution with reason := .explicitAlternative index }
        else resolution

def unresolved (error : VoiceResolutionError) : String :=
  s!"no usable physical voice for logical voice {error.logicalVoiceId}"

def resolveCurrentWithText (snapshot : LogicalVoiceRoutingSnapshot) (logicalVoiceId : String)
    (text : Option (List Char)) (engineRegistry : EngineRegistry Engine) :
    Except String (LogicalRoute Engine) := do
  let definition ← orError s!"logical voice {logicalVoiceId} no longer has a definition"
    (snapshot.definitions.find? fun definition => definition.id == logicalVoiceId)
  let resolution ← (resolveVoiceWithPermissions snapshot.inventory definition
    snapshot.fallbackPolicy text snapshot.enginePermissions).mapError unresolved
  let resolution ← previewResolution snapshot.previewChoiceIndex resolution
  routeFromResolution resolution definition snapshot.inventory engineRegistry

def resolveCurrent (snapshot : LogicalVoiceRoutingSnapshot) (logicalVoiceId : String)
    (engineRegistry : EngineRegistry Engine) : Except String (LogicalRoute Engine) :=
  snapshot.resolveCurrentWithText logicalVoiceId none engineRegistry

def initialRoute (snapshot : LogicalVoiceRoutingSnapshot) (logicalVoiceId : String)
    (engineRegistry : EngineRegistry Engine) : Except String (LogicalRoute Engine) :=
  if snapshot.hasNativeDefinition logicalVoiceId then
    .error "engine-layered voices require native routing support"
  else snapshot.resolveCurrent logicalVoiceId engineRegistry

/-- Resolve an admitted engine-layered timeline or private-preview choice. -/
def initialNativeRoute (snapshot : LogicalVoiceRoutingSnapshot) (logicalVoiceId : String)
    (engineRegistry : EngineRegistry Engine) : Except String (LogicalRoute Engine) :=
  if snapshot.hasNativeDefinition logicalVoiceId then
    snapshot.resolveCurrent logicalVoiceId engineRegistry
  else .error "native request has no admitted engine-layered definition"

/-- The implicit definition of engine-local legacy state. -/
def legacyDefinition (requestedVoice : PhysicalVoiceId) : LogicalVoiceDefinition where
  id := IMPLICIT_LEGACY_VOICE_ID
  language := none
  preferences := [.exact requestedVoice]
  acss := ⟨none, none, none, none, none, none⟩
  effects := ⟨none, none, none, none, none, none, none⟩

def withLegacyDefinition (snapshot : LogicalVoiceRoutingSnapshot)
    (requestedVoice : PhysicalVoiceId) : LogicalVoiceRoutingSnapshot :=
  { snapshot with
    definitions := (snapshot.definitions.filter fun definition =>
      definition.id != IMPLICIT_LEGACY_VOICE_ID) ++ [legacyDefinition requestedVoice] }

/-- Route engine-local legacy state through the normal runtime fallback path. -/
def initialLegacyRoute (snapshot : LogicalVoiceRoutingSnapshot)
    (requestedVoice : PhysicalVoiceId) (engineRegistry : EngineRegistry Engine) :
    Outcome LogicalVoiceRoutingSnapshot String (LogicalRoute Engine) :=
  let next := snapshot.withLegacyDefinition requestedVoice
  (next, (next.resolveCurrent IMPLICIT_LEGACY_VOICE_ID engineRegistry).map fun route =>
    { route with reportedLogicalVoiceId := none })

/-- Exclude the failed runtime target locally and resolve the same logical voice again.
Invalid settings are not route failures and are not retried. -/
def rerouteAfterFailure (snapshot : LogicalVoiceRoutingSnapshot) (route : LogicalRoute Engine)
    (error : TtsError) (engineRegistry : EngineRegistry Engine) :
    LogicalVoiceRoutingSnapshot × RuntimeReroute Engine :=
  let recorded := recordRuntimeFailure snapshot.inventory route.realized error
  let next := { snapshot with inventory := recorded.1 }
  if recorded.2 then
    match next.resolveCurrent route.logicalVoiceId engineRegistry with
    | .ok retry =>
        if retry.realized ≠ route.realized then
          (next, .retry { retry with reportedLogicalVoiceId := route.reportedLogicalVoiceId })
        else
          (next, .exhausted
            s!"logical voice {route.logicalVoiceId} resolved back to its failed runtime target")
    | .error reason => (next, .exhausted reason)
  else (next, .notRetryable)

def textIncompatibility (snapshot : LogicalVoiceRoutingSnapshot) (route : LogicalRoute Engine)
    (text : List Char) : Option (Nat × Char) :=
  (snapshot.inventory.find? fun descriptor => descriptor.id == route.realized.engineId).bind
    fun descriptor => descriptor.textRepertoire.firstUnsupported text

/-- Upper-case hexadecimal digits, four at least. -/
def codepoint (character : Char) : String :=
  let digits := (Nat.toDigits 16 character.toNat).map Char.toUpper
  String.ofList (List.replicate (4 - digits.length) '0' ++ digits)

def incompatibleRoute (route : LogicalRoute Engine) (incompatibility : Option (Nat × Char))
    (error : String) : String :=
  match incompatibility with
  | some (utf8Offset, character) =>
      s!"{error}; current engine {route.realized.engineId} cannot encode " ++
        s!"U+{codepoint character} at UTF-8 byte offset {utf8Offset}"
  | none => error

/-- Resolve a route whose documented input repertoire can preserve a text. -/
def routeForText (snapshot : LogicalVoiceRoutingSnapshot) (route : LogicalRoute Engine)
    (text : List Char) (engineRegistry : EngineRegistry Engine) :
    Except String (LogicalRoute Engine) := do
  let resolved ← (snapshot.resolveCurrentWithText route.logicalVoiceId (some text)
    engineRegistry).mapError
      (incompatibleRoute route (snapshot.textIncompatibility route text))
  return { resolved with reportedLogicalVoiceId := route.reportedLogicalVoiceId }

end

end LogicalVoiceRoutingSnapshot

/-! ## What a route was resolved to -/

section

variable {Engine : Type} {snapshot : LogicalVoiceRoutingSnapshot}
  {engines : EngineRegistry Engine}

/-- What a route comes from: a definition of its voice and a resolution of it. -/
structure Routes (snapshot : LogicalVoiceRoutingSnapshot) (engines : EngineRegistry Engine)
    (text : Option (List Char)) (route : LogicalRoute Engine) (definition : LogicalVoiceDefinition)
    (resolution : VoiceResolution) : Prop where
  defined : snapshot.definitions.find? (fun other => other.id == route.logicalVoiceId) =
    some definition
  resolved : resolveVoiceWithPermissions snapshot.inventory definition snapshot.fallbackPolicy text
    snapshot.enginePermissions = .ok resolution
  realized : resolution.realized = route.realized
  registered : engines.engine route.realized.engineId = some route.engine

/-- What a route is reported as has no part in it. -/
theorem Routes.reported {text : Option (List Char)} {route : LogicalRoute Engine}
    {definition : LogicalVoiceDefinition} {resolution : VoiceResolution}
    (routes : Routes snapshot engines text route definition resolution) (id : Option String) :
    Routes snapshot engines text { route with reportedLogicalVoiceId := id } definition
      resolution :=
  ⟨routes.defined, routes.resolved, routes.realized, routes.registered⟩

theorem previewResolution_ok {index : Option Nat} {resolution mapped : VoiceResolution}
    (accepted : LogicalVoiceRoutingSnapshot.previewResolution index resolution = .ok mapped) :
    mapped.realized = resolution.realized ∧
      mapped.logicalVoiceId = resolution.logicalVoiceId := by
  cases index with
  | none =>
      obtain rfl := Except.ok.inj accepted
      exact ⟨rfl, rfl⟩
  | some index =>
      rw [LogicalVoiceRoutingSnapshot.previewResolution, bind_eq_ok] at accepted
      obtain ⟨_, _, result⟩ := accepted
      obtain rfl := Except.ok.inj result
      split
      · exact ⟨rfl, rfl⟩
      · exact ⟨rfl, rfl⟩

theorem routeFromResolution_ok {resolution : VoiceResolution} {definition : LogicalVoiceDefinition}
    {inventory : List EngineDescriptor} {route : LogicalRoute Engine}
    (routed : LogicalVoiceRoutingSnapshot.routeFromResolution resolution definition inventory
      engines = .ok route) :
    route.realized = resolution.realized ∧ route.logicalVoiceId = resolution.logicalVoiceId ∧
      engines.engine route.realized.engineId = some route.engine := by
  rw [LogicalVoiceRoutingSnapshot.routeFromResolution, bind_eq_ok] at routed
  obtain ⟨engine, registered, routed⟩ := routed
  rw [bind_eq_ok] at routed
  obtain ⟨descriptor, _, result⟩ := routed
  obtain rfl := Except.ok.inj result
  exact ⟨rfl, rfl, orError_eq_ok.mp registered⟩

/-- A resolution is one of the definition it was asked for. -/
theorem resolution_logicalVoiceId {inventory : List EngineDescriptor}
    {definition : LogicalVoiceDefinition} {policy : FallbackPolicy} {text : Option (List Char)}
    {permissions : EngineSelectionPermissions} {resolution : VoiceResolution}
    (resolved : resolveVoiceWithPermissions inventory definition policy text permissions =
      .ok resolution) :
    resolution.logicalVoiceId = definition.id := by
  have first := resolve_firstRealized inventory definition policy text permissions
  rw [resolved] at first
  obtain ⟨_, _, _, _, _, _, result⟩ := first
  rw [result]
  rfl

/-- **What a resolved route comes from.** -/
theorem resolveCurrentWithText_ok {logicalVoiceId : String} {text : Option (List Char)}
    {route : LogicalRoute Engine}
    (routed : snapshot.resolveCurrentWithText logicalVoiceId text engines = .ok route) :
    route.logicalVoiceId = logicalVoiceId ∧
      ∃ definition resolution, Routes snapshot engines text route definition resolution := by
  rw [LogicalVoiceRoutingSnapshot.resolveCurrentWithText, bind_eq_ok] at routed
  obtain ⟨definition, found, routed⟩ := routed
  rw [bind_eq_ok] at routed
  obtain ⟨resolution, resolved, routed⟩ := routed
  rw [bind_eq_ok] at routed
  obtain ⟨mapped, accepted, made⟩ := routed
  rw [orError_eq_ok] at found
  rw [mapError_eq_ok] at resolved
  obtain ⟨kept, named⟩ := previewResolution_ok accepted
  obtain ⟨realized, voice, registered⟩ := routeFromResolution_ok made
  have matched := List.find?_some found
  have asked : definition.id = logicalVoiceId := eq_of_beq matched
  have same : route.logicalVoiceId = logicalVoiceId := by
    rw [voice, named, resolution_logicalVoiceId resolved, asked]
  refine ⟨same, definition, resolution, ?_, resolved, ?_, registered⟩
  · rw [same]
    exact found
  · rw [realized, kept]

end

end Omnivox.Routing
