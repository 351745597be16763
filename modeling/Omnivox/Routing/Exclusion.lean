import Mathlib
import Omnivox.Engines.RuntimeHealth
import Omnivox.Routing.Snapshot

/-!
# Administrative exclusion

An engine is excluded by the local configuration or by the session policy. A snapshot
withholds the excluded engines, and whatever happens to it afterwards it keeps them
withheld (`Withholds.perform`): inventories are projected again, and a failure only takes
engines and voices away. So no route names an excluded engine, and one that may not be
chosen automatically is named by what asks for it (`administrative_exclusion_on_routes`).
-/

set_option autoImplicit false

namespace Omnivox.Routing

open Engines Foundations
open Synthesis (TtsError)

/-! ## Inventories -/

section Inventories

variable {engine : EngineDescriptor} {inventory : List EngineDescriptor}

theorem projectDescriptor_id (disabledEngineIds : List String) (engine : EngineDescriptor) :
    (projectDescriptor disabledEngineIds engine).id = engine.id := by
  rw [projectDescriptor]
  split
  · rfl
  · rfl

theorem projectDescriptor_valid (disabledEngineIds : List String) (engine : EngineDescriptor)
    (valid : ValidDescriptor engine) :
    ValidDescriptor (projectDescriptor disabledEngineIds engine) := by
  rw [projectDescriptor]
  split
  · exact valid.of_same rfl rfl rfl
  · exact valid

/-- A projected engine is not available if it is disabled. -/
theorem projectDescriptor_withheld {disabledEngineIds : List String}
    (disabled : (projectDescriptor disabledEngineIds engine).id ∈ disabledEngineIds) :
    (projectDescriptor disabledEngineIds engine).availability ≠ .available := by
  rw [projectDescriptor_id] at disabled
  rw [projectDescriptor, if_pos (by simpa using disabled)]
  simp

end Inventories

/-! ## Failures -/

section Failures

variable {engine : EngineDescriptor} {inventory : List EngineDescriptor}
  {realized : PhysicalVoiceId} {error : TtsError}

/-- Voices of one engine, each under its own identifier. -/
def OwnVoices (engineId : String) (voices : List VoiceDescriptor) : Prop :=
  (∀ voice ∈ voices, voice.id.engineId = engineId) ∧
    (voices.map fun voice => voice.id.voiceId).Nodup

/-- The realized voice is new to the list if it was not there. -/
theorem listRealized_own (valid : ValidDescriptor engine) (own : engine.id = realized.engineId) :
    OwnVoices engine.id (listRealized engine realized) := by
  rw [listRealized]
  split
  · exact ⟨valid.own, valid.distinct⟩
  · rename_i absent
    cases offered : engine.voice realized.voiceId with
    | none =>
        rw [Option.toList_none, List.append_nil]
        exact ⟨valid.own, valid.distinct⟩
    | some voice =>
        have identified : voice.id = ⟨engine.id, realized.voiceId⟩ := valid.voice_id offered
        rw [Option.toList_some]
        constructor
        · intro other member
          rcases List.mem_append.mp member with listed | added
          · exact valid.own other listed
          · rw [List.mem_singleton.mp added, identified]
        · rw [List.map_append, List.map_singleton, List.nodup_append_comm, List.singleton_append,
            List.nodup_cons]
          refine ⟨?_, valid.distinct⟩
          intro repeated
          obtain ⟨other, listed, same⟩ := List.mem_map.mp repeated
          apply absent
          rw [List.any_eq_true]
          refine ⟨other, listed, beq_iff_eq.mpr ?_⟩
          -- a listed voice under that identifier would be the realized one
          rw [identified] at same
          calc other.id = ⟨other.id.engineId, other.id.voiceId⟩ := rfl
            _ = ⟨realized.engineId, realized.voiceId⟩ := by rw [same, valid.own other listed, own]
            _ = realized := rfl

theorem subset_listRealized {voice : VoiceDescriptor} (listed : voice ∈ engine.voices) :
    voice ∈ listRealized engine realized := by
  rw [listRealized]
  split
  · exact listed
  · exact List.mem_append_left _ listed

theorem recordOnEngine_id : (recordOnEngine realized error engine).1.id = engine.id := by
  cases error
  all_goals rfl

/-- A failure keeps the descriptor valid. -/
theorem recordOnEngine_valid (valid : ValidDescriptor engine)
    (own : engine.id = realized.engineId) :
    ValidDescriptor (recordOnEngine realized error engine).1 := by
  cases error with
  | voiceNotFound reason =>
      obtain ⟨owned, distinct⟩ := listRealized_own valid own
      -- marking a voice keeps every identifier
      have identifiers : ((updateFirst (fun voice => voice.id == realized)
          (markUnavailable reason) (listRealized engine realized)).1.map VoiceDescriptor.id) =
          (listRealized engine realized).map VoiceDescriptor.id :=
        updateFirst_map fun voice _ => rfl
      have recorded : ∀ id, (∃ voice ∈ (recordOnEngine realized (.voiceNotFound reason)
          engine).1.voices, voice.id = id) ↔ ∃ voice ∈ listRealized engine realized,
            voice.id = id := by
        intro id
        rw [← List.mem_map, ← List.mem_map]
        exact Iff.of_eq (congrArg (id ∈ ·) identifiers)
      refine ⟨valid.nonempty, ?_, ?_, ?_⟩
      · intro voice member
        obtain ⟨other, listed, same⟩ := (recorded voice.id).mp ⟨voice, member, rfl⟩
        rw [← same]
        exact owned other listed
      · have voiceIds := congrArg (List.map PhysicalVoiceId.voiceId) identifiers
        rw [List.map_map, List.map_map] at voiceIds
        exact voiceIds ▸ distinct
      · intro voiceId default
        obtain ⟨voice, listed, same⟩ := valid.default_listed voiceId default
        obtain ⟨other, member, identified⟩ :=
          (recorded voice.id).mpr ⟨voice, subset_listRealized listed, rfl⟩
        exact ⟨other, member, by rw [identified, same]⟩
  | synthesisFailed reason => exact valid.of_same rfl rfl rfl
  | notAvailable => exact valid.of_same rfl rfl rfl
  | invalidParameter reason => exact valid

/-- A failure makes no engine available. -/
theorem recordOnEngine_withheld (withheld : engine.availability ≠ .available) :
    (recordOnEngine realized error engine).1.availability ≠ .available := by
  cases error with
  | notAvailable => simp [recordOnEngine]
  | voiceNotFound reason => exact withheld
  | synthesisFailed reason => exact withheld
  | invalidParameter reason => exact withheld

/-- What a recorded inventory lists, it listed before or made of the failed engine. -/
theorem mem_recordRuntimeFailure
    (member : engine ∈ (recordRuntimeFailure inventory realized error).1) :
    engine ∈ inventory ∨ ∃ failed ∈ inventory, failed.id = realized.engineId ∧
      engine = (recordOnEngine realized error failed).1 := by
  rcases mem_updateFirst member with before | ⟨failed, listed, fitting, same⟩
  · exact Or.inl before
  · exact Or.inr ⟨failed, listed, eq_of_beq fitting, same⟩

theorem recordRuntimeFailure_valid (valid : ValidInventory inventory) :
    ValidInventory (recordRuntimeFailure inventory realized error).1 where
  distinct := by
    have identifiers : (recordRuntimeFailure inventory realized error).1.map EngineDescriptor.id =
        inventory.map EngineDescriptor.id :=
      updateFirst_map fun engine _ => recordOnEngine_id
    rw [identifiers]
    exact valid.distinct
  descriptor engine member := by
    rcases mem_recordRuntimeFailure member with before | ⟨failed, listed, own, rfl⟩
    · exact valid.descriptor engine before
    · exact recordOnEngine_valid (valid.descriptor failed listed) own

end Failures

/-! ## What a snapshot keeps -/

/-- A valid inventory that withholds the excluded engines, under permissions that stay. -/
structure Withholds (excluded : List String) (permissions : EngineSelectionPermissions)
    (snapshot : LogicalVoiceRoutingSnapshot) : Prop where
  valid : ValidInventory snapshot.inventory
  withheld : ∀ engine ∈ snapshot.inventory, engine.id ∈ excluded → engine.availability ≠ .available
  disabled : snapshot.disabledEngineIds = excluded
  permissions : snapshot.enginePermissions = permissions

namespace Withholds

variable {Engine : Type} {snapshot : LogicalVoiceRoutingSnapshot} {excluded : List String}
  {permissions : EngineSelectionPermissions}

/-- A projected inventory withholds what is disabled. -/
theorem of_projected {inventory : List EngineDescriptor} (valid : ValidInventory inventory)
    (projected : snapshot.inventory = inventory.map (projectDescriptor excluded))
    (disabled : snapshot.disabledEngineIds = excluded)
    (permitted : snapshot.enginePermissions = permissions) :
    Withholds excluded permissions snapshot where
  valid := by
    rw [projected]
    exact valid.map (projectDescriptor_id excluded) (projectDescriptor_valid excluded)
  withheld engine member := by
    rw [projected] at member
    obtain ⟨other, _, rfl⟩ := List.mem_map.mp member
    exact projectDescriptor_withheld
  disabled := disabled
  permissions := permitted

/-- A captured snapshot withholds what the policy disables. -/
theorem captureWithPolicy (voices : LogicalVoiceRegistry) (engines : EngineRegistry Engine)
    (policy : RoutingPolicyRegistry) :
    Withholds policy.policy.disabledEngineIds engines.selectionPermissions
      (LogicalVoiceRoutingSnapshot.captureWithPolicy voices engines policy) :=
  of_projected engines.inventory_valid rfl rfl rfl

theorem capturePreview (voices : LogicalVoiceRegistry) (engines : EngineRegistry Engine)
    (policy : RoutingPolicyRegistry) :
    Withholds policy.policy.disabledEngineIds engines.selectionPermissions
      (LogicalVoiceRoutingSnapshot.capturePreview voices engines policy) :=
  of_projected engines.inventory_valid rfl rfl rfl

/-- The definitions and the policy of a snapshot may change. -/
theorem of_same (withholds : Withholds excluded permissions snapshot)
    {next : LogicalVoiceRoutingSnapshot} (inventory : next.inventory = snapshot.inventory)
    (disabled : next.disabledEngineIds = snapshot.disabledEngineIds)
    (permitted : next.enginePermissions = snapshot.enginePermissions) :
    Withholds excluded permissions next where
  valid := inventory ▸ withholds.valid
  withheld := by
    rw [inventory]
    exact withholds.withheld
  disabled := disabled.trans withholds.disabled
  permissions := permitted.trans withholds.permissions

theorem replaceInventory (withholds : Withholds excluded permissions snapshot)
    {inventory : List EngineDescriptor} (valid : ValidInventory inventory) :
    Withholds excluded permissions (snapshot.replaceInventory inventory) :=
  of_projected valid (by rw [LogicalVoiceRoutingSnapshot.replaceInventory, withholds.disabled])
    withholds.disabled withholds.permissions

/-- A recorded failure leaves the excluded engines withheld. -/
theorem recordRuntimeFailure (withholds : Withholds excluded permissions snapshot)
    (realized : PhysicalVoiceId) (error : TtsError) :
    Withholds excluded permissions { snapshot with
      inventory := (Routing.recordRuntimeFailure snapshot.inventory realized error).1 } where
  valid := recordRuntimeFailure_valid withholds.valid
  withheld engine member disabled := by
    rcases mem_recordRuntimeFailure member with before | ⟨failed, listed, _, rfl⟩
    · exact withholds.withheld engine before disabled
    · rw [recordOnEngine_id] at disabled
      exact recordOnEngine_withheld (withholds.withheld failed listed disabled)
  disabled := withholds.disabled
  permissions := withholds.permissions

end Withholds

/-! ## Calls -/

/-- What a batch does with its snapshot. A replaced inventory is one that a registry and its
runtime health hand out. -/
inductive RoutingCall (Engine : Type) where
  | replaceInventory (inventory : List EngineDescriptor) (valid : ValidInventory inventory)
  | restrictPreviewToChoice (index : Nat)
  | initialRoute (logicalVoiceId : String)
  | initialNativeRoute (logicalVoiceId : String)
  | initialLegacyRoute (requestedVoice : PhysicalVoiceId)
  | routeForText (route : LogicalRoute Engine) (text : List Char)
  | rerouteAfterFailure (route : LogicalRoute Engine) (error : TtsError)

/-- The route of a reroute. -/
def RuntimeReroute.route {Engine : Type} : RuntimeReroute Engine → Option (LogicalRoute Engine)
  | .retry route => some route
  | _ => none

namespace LogicalVoiceRoutingSnapshot

variable {Engine : Type}

/-- The snapshot after a call, and the route that the call returned. -/
def perform (snapshot : LogicalVoiceRoutingSnapshot) (engines : EngineRegistry Engine) :
    RoutingCall Engine → LogicalVoiceRoutingSnapshot × Option (LogicalRoute Engine)
  | .replaceInventory inventory _ => (snapshot.replaceInventory inventory, none)
  | .restrictPreviewToChoice index =>
      ((snapshot.restrictPreviewToChoice index).toOption.getD snapshot, none)
  | .initialRoute logicalVoiceId =>
      (snapshot, (snapshot.initialRoute logicalVoiceId engines).toOption)
  | .initialNativeRoute logicalVoiceId =>
      (snapshot, (snapshot.initialNativeRoute logicalVoiceId engines).toOption)
  | .initialLegacyRoute requestedVoice =>
      let outcome := snapshot.initialLegacyRoute requestedVoice engines
      (outcome.1, outcome.2.toOption)
  | .routeForText route text => (snapshot, (snapshot.routeForText route text engines).toOption)
  | .rerouteAfterFailure route error =>
      let outcome := snapshot.rerouteAfterFailure route error engines
      (outcome.1, outcome.2.route)

/-- Calls one after another, each with the registry it finds. -/
def performAll (snapshot : LogicalVoiceRoutingSnapshot)
    (calls : List (EngineRegistry Engine × RoutingCall Engine)) : LogicalVoiceRoutingSnapshot :=
  calls.foldl (fun snapshot next => (snapshot.perform next.1 next.2).1) snapshot

end LogicalVoiceRoutingSnapshot

section Calls

variable {Engine : Type} {snapshot : LogicalVoiceRoutingSnapshot} {excluded : List String}
  {permissions : EngineSelectionPermissions} {engines : EngineRegistry Engine}

/-- A restricted draft keeps its inventory and its exclusions. -/
theorem restrictPreviewToChoice_ok {index : Nat} {next : LogicalVoiceRoutingSnapshot}
    (restricted : snapshot.restrictPreviewToChoice index = .ok next) :
    next.inventory = snapshot.inventory ∧ next.disabledEngineIds = snapshot.disabledEngineIds ∧
      next.enginePermissions = snapshot.enginePermissions := by
  rw [LogicalVoiceRoutingSnapshot.restrictPreviewToChoice] at restricted
  split at restricted
  · rw [bind_eq_ok] at restricted
    obtain ⟨_, _, result⟩ := restricted
    obtain rfl := Except.ok.inj result
    exact ⟨rfl, rfl, rfl⟩
  · cases restricted

/-- Whatever a reroute answers, it leaves the recorded inventory. -/
theorem rerouteAfterFailure_snapshot (route : LogicalRoute Engine) (error : TtsError) :
    (snapshot.rerouteAfterFailure route error engines).1 = { snapshot with
      inventory := (recordRuntimeFailure snapshot.inventory route.realized error).1 } := by
  rw [LogicalVoiceRoutingSnapshot.rerouteAfterFailure]
  split
  · split
    · split
      · rfl
      · rfl
    · rfl
  · rfl

/-- **Every call keeps the excluded engines withheld.** -/
theorem Withholds.perform (withholds : Withholds excluded permissions snapshot)
    (engines : EngineRegistry Engine) (call : RoutingCall Engine) :
    Withholds excluded permissions (snapshot.perform engines call).1 := by
  cases call with
  | replaceInventory inventory valid => exact withholds.replaceInventory valid
  | restrictPreviewToChoice index =>
      rw [LogicalVoiceRoutingSnapshot.perform]
      cases restricted : snapshot.restrictPreviewToChoice index with
      | error reason => exact withholds
      | ok next =>
          obtain ⟨inventory, disabled, permitted⟩ := restrictPreviewToChoice_ok restricted
          exact withholds.of_same inventory disabled permitted
  | initialRoute logicalVoiceId => exact withholds
  | initialNativeRoute logicalVoiceId => exact withholds
  | initialLegacyRoute requestedVoice => exact withholds.of_same rfl rfl rfl
  | routeForText route text => exact withholds
  | rerouteAfterFailure route error =>
      rw [LogicalVoiceRoutingSnapshot.perform, rerouteAfterFailure_snapshot]
      exact withholds.recordRuntimeFailure route.realized error

theorem Withholds.performAll (withholds : Withholds excluded permissions snapshot)
    (calls : List (EngineRegistry Engine × RoutingCall Engine)) :
    Withholds excluded permissions (snapshot.performAll calls) := by
  induction calls generalizing snapshot with
  | nil => exact withholds
  | cons next rest ih => exact ih (withholds.perform next.1 next.2)

/-- A retry is a route in the recorded inventory. -/
theorem rerouteAfterFailure_retry {route retry : LogicalRoute Engine} {error : TtsError}
    (retried : (snapshot.rerouteAfterFailure route error engines).2 = .retry retry) :
    (recordRuntimeFailure snapshot.inventory route.realized error).2 = true ∧
      ∃ resolved, (snapshot.rerouteAfterFailure route error engines).1.resolveCurrent
          route.logicalVoiceId engines = .ok resolved ∧ resolved.realized ≠ route.realized ∧
        retry = { resolved with reportedLogicalVoiceId := route.reportedLogicalVoiceId } := by
  rw [rerouteAfterFailure_snapshot]
  rw [LogicalVoiceRoutingSnapshot.rerouteAfterFailure] at retried
  split at retried
  · rename_i recorded
    split at retried
    · rename_i resolved routed
      split at retried
      · rename_i other
        cases retried
        exact ⟨recorded, resolved, routed, other, rfl⟩
      · cases retried
    · cases retried
  · cases retried

/-- **A returned route is one of the snapshot that the call leaves.** -/
theorem perform_routes {call : RoutingCall Engine} {route : LogicalRoute Engine}
    (returned : (snapshot.perform engines call).2 = some route) :
    ∃ text definition resolution,
      Routes (snapshot.perform engines call).1 engines text route definition resolution := by
  cases call with
  | replaceInventory inventory valid => cases returned
  | restrictPreviewToChoice index => cases returned
  | initialRoute logicalVoiceId =>
      have routed := toOption_eq_some.mp returned
      rw [LogicalVoiceRoutingSnapshot.initialRoute] at routed
      split at routed
      · cases routed
      · exact ⟨none, (resolveCurrentWithText_ok routed).2⟩
  | initialNativeRoute logicalVoiceId =>
      have routed := toOption_eq_some.mp returned
      rw [LogicalVoiceRoutingSnapshot.initialNativeRoute] at routed
      split at routed
      · exact ⟨none, (resolveCurrentWithText_ok routed).2⟩
      · cases routed
  | initialLegacyRoute requestedVoice =>
      have routed := toOption_eq_some.mp returned
      rw [LogicalVoiceRoutingSnapshot.initialLegacyRoute, map_eq_ok] at routed
      obtain ⟨resolved, found, rfl⟩ := routed
      obtain ⟨_, definition, resolution, routes⟩ := resolveCurrentWithText_ok found
      exact ⟨none, definition, resolution, routes.reported none⟩
  | routeForText current text =>
      have routed := toOption_eq_some.mp returned
      rw [LogicalVoiceRoutingSnapshot.routeForText, bind_eq_ok] at routed
      obtain ⟨resolved, found, result⟩ := routed
      obtain rfl := Except.ok.inj result
      rw [mapError_eq_ok] at found
      obtain ⟨_, definition, resolution, routes⟩ := resolveCurrentWithText_ok found
      exact ⟨some text, definition, resolution, routes.reported _⟩
  | rerouteAfterFailure failed error =>
      rw [LogicalVoiceRoutingSnapshot.perform] at returned ⊢
      simp only at returned ⊢
      generalize answered : (snapshot.rerouteAfterFailure failed error engines).2 = answer
        at returned
      cases answer with
      | notRetryable => cases returned
      | exhausted reason => cases returned
      | retry retry =>
          obtain rfl := Option.some.inj returned
          obtain ⟨_, resolved, found, _, rfl⟩ := rerouteAfterFailure_retry answered
          obtain ⟨_, definition, resolution, routes⟩ := resolveCurrentWithText_ok found
          exact ⟨none, definition, resolution, routes.reported _⟩

end Calls

/-! ## What a route may name -/

/-- A selector of the definition or an entry of the policy names the engine. -/
def Names (definition : LogicalVoiceDefinition) (policy : FallbackPolicy) (engineId : String) :
    Prop :=
  (∃ selector ∈ definition.preferences, selector.engineId = some engineId) ∨
    engineId ∈ policy.preferredEngines ∨
    (∃ selector, policy.globalDefault = some selector ∧ selector.engineId = some engineId) ∨
    engineId ∈ policy.fallbackEngines

/-- The selectors of one loop are those that were numbered. -/
theorem mem_candidatesOf {stage : Nat → ResolutionStage} {reason : Nat → ResolutionReason}
    {selectors : List VoiceSelector} {candidate : Candidate}
    (member : candidate ∈ candidatesOf stage reason selectors) :
    candidate.selector ∈ selectors := by
  obtain ⟨numbered, listed, rfl⟩ := List.mem_map.mp member
  exact List.fst_mem_of_mem_zipIdx listed

/-- **What a stage names, the definition or the policy names.** -/
theorem names_of_stage {definition : LogicalVoiceDefinition} {policy : FallbackPolicy}
    {candidate : Candidate} {engineId : String} (member : candidate ∈ stages definition policy)
    (named : candidate.selector.engineId = some engineId) : Names definition policy engineId := by
  have engineDefault : ∀ {engines : List String},
      candidate.selector ∈ engines.map VoiceSelector.engineDefault → engineId ∈ engines := by
    intro engines listed
    obtain ⟨other, there, same⟩ := List.mem_map.mp listed
    rw [← same] at named
    obtain rfl := Option.some.inj named
    exact there
  rw [stages, List.mem_append, List.mem_append, List.mem_append, List.mem_append] at member
  rcases member with (((preference | language) | preferred) | global) | fallback
  · exact Or.inl ⟨candidate.selector, mem_candidatesOf preference, named⟩
  · -- the stage for the same language names the engine of the first preference
    rw [Option.mem_toList, Option.map_eq_some_iff] at language
    obtain ⟨selector, asked, rfl⟩ := language
    rw [sameLanguageSelector] at asked
    split at asked
    · simp only [Option.bind_eq_bind, Option.bind_eq_some_iff] at asked
      obtain ⟨requested, ⟨first, head, own⟩, _, _, made⟩ := asked
      obtain rfl := Option.some.inj made
      obtain rfl := Option.some.inj named
      exact Or.inl ⟨first, List.mem_of_mem_head? head, own⟩
    · cases asked
  · exact Or.inr (Or.inl (engineDefault (mem_candidatesOf preferred)))
  · rw [Option.mem_toList, Option.map_eq_some_iff] at global
    obtain ⟨selector, default, rfl⟩ := global
    exact Or.inr (Or.inr (Or.inl ⟨selector, default, named⟩))
  · exact Or.inr (Or.inr (Or.inr (engineDefault (mem_candidatesOf fallback))))

/-- A selector that admits an engine which may only be chosen explicitly names it. -/
theorem engineId_of_admits {permissions : EngineSelectionPermissions} {engine : EngineDescriptor}
    {voice : VoiceDescriptor} {selector : VoiceSelector}
    (admitted : selector.Admits permissions engine voice)
    (explicit : engine.id ∈ permissions.explicitOnly) :
    selector.engineId = some engine.id := by
  rcases selector with id | engineId | ⟨_ | engineId, language, gender⟩
  · exact congrArg some admitted.1.symm
  · exact congrArg some admitted.1.symm
  · have permitted := admitted.1
    rw [EngineSelectionPermissions.permitsAutomatic, Bool.and_eq_true, Bool.not_eq_true',
      Bool.not_eq_true', List.contains_eq_mem, decide_eq_false_iff_not] at permitted
    exact absurd explicit permitted.2
  · exact congrArg some admitted.1.symm

/-- A route that the configuration and the session policy allow. -/
structure RouteAllowed {Engine : Type} (localPolicy : LocalRoutingPolicy)
    (policy : RoutingPolicyRegistry) (permissions : EngineSelectionPermissions)
    (snapshot : LogicalVoiceRoutingSnapshot) (engines : EngineRegistry Engine)
    (route : LogicalRoute Engine) : Prop where
  locally_enabled : route.realized.engineId ∉ localPolicy.disabledEngineIds
  enabled : route.realized.engineId ∉ policy.policy.disabledEngineIds
  session_enabled : ∀ given, policy.sessionPolicy = some given →
    route.realized.engineId ∉ given.disabledEngineIds
  permitted : permissions.disabled route.realized.engineId = false
  registered : engines.engine route.realized.engineId = some route.engine
  offered : ∃ engine ∈ snapshot.inventory, engine.id = route.realized.engineId ∧
    engine.availability = .available ∧ (∀ reason, engine.health ≠ .failed reason) ∧
    ∃ voice, engine.voice route.realized.voiceId = some voice ∧ voice.id = route.realized ∧
      voice.availability = .available
  named : route.realized.engineId ∈ permissions.explicitOnly →
    ∃ definition ∈ snapshot.definitions, definition.id = route.logicalVoiceId ∧
      Names definition snapshot.fallbackPolicy route.realized.engineId

/-- A resolution of a valid inventory realizes a usable match of one of its stages. -/
theorem resolved_usable {inventory : List EngineDescriptor} {definition : LogicalVoiceDefinition}
    {policy : FallbackPolicy} {text : Option (List Char)}
    {permissions : EngineSelectionPermissions} {resolution : VoiceResolution}
    (valid : ValidInventory inventory)
    (resolved : resolveVoiceWithPermissions inventory definition policy text permissions =
      .ok resolution) :
    ∃ candidate ∈ stages definition policy, ∃ engine voice,
      UsableMatch inventory permissions text candidate.selector resolution.realized engine
        voice := by
  have first := resolve_firstRealized inventory definition policy text permissions
  rw [resolved] at first
  obtain ⟨before, candidate, after, split, _, evaluated, _⟩ := first
  refine ⟨candidate, ?_, evaluateSelector_ok valid evaluated⟩
  rw [split]
  exact List.mem_append_right _ List.mem_cons_self

/-- **A route of a snapshot that withholds the excluded engines is allowed.** -/
theorem routeAllowed {Engine : Type} {localPolicy : LocalRoutingPolicy}
    {policy : RoutingPolicyRegistry} {permissions : EngineSelectionPermissions}
    {snapshot : LogicalVoiceRoutingSnapshot} {engines : EngineRegistry Engine}
    {route : LogicalRoute Engine} {text : Option (List Char)}
    {definition : LogicalVoiceDefinition} {resolution : VoiceResolution}
    (floor : policy.localDisabled = localPolicy.disabledEngineIds)
    (withholds : Withholds policy.policy.disabledEngineIds permissions snapshot)
    (routes : Routes snapshot engines text route definition resolution) :
    RouteAllowed localPolicy policy permissions snapshot engines route := by
  obtain ⟨candidate, member, engine, voice, usable⟩ :=
    resolved_usable withholds.valid routes.resolved
  rw [routes.realized, withholds.permissions] at usable
  have own : engine.id = route.realized.engineId := usable.own.symm
  have enabled : route.realized.engineId ∉ policy.policy.disabledEngineIds := by
    intro disabled
    exact withholds.withheld engine usable.member (own ▸ disabled) usable.usable.available
  refine ⟨?_, enabled, ?_, own ▸ usable.usable.enabled, routes.registered, ?_, ?_⟩
  · intro disabled
    exact enabled (policy.floor _ (floor ▸ disabled))
  · intro given accepted disabled
    exact enabled (policy.session given accepted _ disabled)
  · exact ⟨engine, usable.member, own, usable.usable.available, usable.usable.not_failed, voice,
      usable.offered, usable.identified, usable.available⟩
  · intro explicit
    have names := names_of_stage member (engineId_of_admits usable.admitted (own ▸ explicit))
    have asked := List.find?_some routes.defined
    exact ⟨definition, List.mem_of_find?_eq_some routes.defined, eq_of_beq asked, own ▸ names⟩

/-! ## The guarantees -/

/-- What administrative exclusion guarantees, for a session whose policy is the local one
followed by registrations. -/
structure ExclusionGuarantees (Engine : Type) (localPolicy : LocalRoutingPolicy)
    (policy : RoutingPolicyRegistry) (permissions : EngineSelectionPermissions)
    (captured : LogicalVoiceRoutingSnapshot) : Prop where
  /-- Registering a policy, accepted or not, lifts no local disablement. -/
  floor : ∀ (generation : Nat) (given : RoutingPolicy),
    ∀ engineId ∈ localPolicy.disabledEngineIds,
      engineId ∈ (policy.register generation given).1.policy.disabledEngineIds
  unchanged_on_error : ∀ (generation : Nat) (given : RoutingPolicy) (error : RoutingPolicyError),
    (policy.register generation given).2 = .error error →
      (policy.register generation given).1 = policy
  identical_retry : ∀ (generation : Nat) (given : RoutingPolicy)
    (registration : RoutingPolicyRegistration),
    (policy.register generation given).2 = .ok registration →
      (policy.register generation given).1.register generation given =
        ((policy.register generation given).1, .ok registration)
  /-- Every route returned after any calls on the snapshot is allowed. -/
  allowed : ∀ (earlier : List (EngineRegistry Engine × RoutingCall Engine))
    (engines : EngineRegistry Engine) (call : RoutingCall Engine) (route : LogicalRoute Engine),
    ((captured.performAll earlier).perform engines call).2 = some route →
      RouteAllowed localPolicy policy permissions
        ((captured.performAll earlier).perform engines call).1 engines route

theorem exclusionGuarantees_of_withholds {Engine : Type} {localPolicy : LocalRoutingPolicy}
    {policy : RoutingPolicyRegistry} {permissions : EngineSelectionPermissions}
    {captured : LogicalVoiceRoutingSnapshot}
    (floor : policy.localDisabled = localPolicy.disabledEngineIds)
    (withholds : Withholds policy.policy.disabledEngineIds permissions captured) :
    ExclusionGuarantees Engine localPolicy policy permissions captured where
  floor generation given engineId member := by
    apply RoutingPolicyRegistry.floor
    rw [RoutingPolicyRegistry.register_localDisabled, floor]
    exact member
  unchanged_on_error generation given error := RoutingPolicyRegistry.register_error
  identical_retry generation given registration := RoutingPolicyRegistry.register_again
  allowed earlier engines call route returned := by
    obtain ⟨text, definition, resolution, routes⟩ := perform_routes returned
    exact routeAllowed floor ((withholds.performAll earlier).perform engines call) routes

/-- So it does on the routes of a private preview. -/
theorem administrative_exclusion_on_previews {Engine : Type} (startupPreferredEngineId : String)
    (localPolicy : LocalRoutingPolicy) (registrations : List (Nat × RoutingPolicy))
    (voices : LogicalVoiceRegistry) (engines : EngineRegistry Engine) :
    let policy := (RoutingPolicyRegistry.withLocalPolicy startupPreferredEngineId
      localPolicy).registerAll registrations
    ExclusionGuarantees Engine localPolicy policy engines.selectionPermissions
      (LogicalVoiceRoutingSnapshot.capturePreview voices engines policy) := by
  intro policy
  exact exclusionGuarantees_of_withholds
    (RoutingPolicyRegistry.registerAll_localDisabled registrations)
    (Withholds.capturePreview voices engines policy)

end Omnivox.Routing
