import Mathlib
import Omnivox.Engines.CircuitBreaker
import Omnivox.Engines.RoutingPolicy
import Omnivox.Engines.StartupRescan

/-!
# The reported inventory generation

A client is told of the engines under one number: the saturating sum of the generations of
the registry, of the runtime health and of the routing policy. Control requests, rescans
and circuit-breaker operations are taken one after another, under a clock that does not go
back.

The reported number never decreases (`inventory_generation_never_decreases`). It identifies
the listed engines while it is below its limit, no release drops the circuit of a listed
engine, and the first session policy does not change what is disabled under the generation
of the startup policy (`inventory_generation_identifies_engines`). That generation may be
reused, and the engines then change under one number (`reused_generation_changes_engines`).
-/

set_option autoImplicit false

namespace Omnivox.Engines

open Foundations

/-! ## Requests and responses -/

/-- The requests that read or change what the inventory generation stands for. -/
inductive ControlRequest where
  | inventory
  | setRoutingPolicy (routingPolicyGeneration : Nat) (policy : RoutingPolicy)
  | requestEngineRecoveryProbe (engineId : String)
  | registerLogicalVoices (accepted : Bool)
  deriving Repr, DecidableEq

/-- What a client is told of the inventory. -/
structure InventoryResponse where
  inventoryGeneration : Nat
  preferredEngineId : String
  routingPolicy : RoutingPolicyRegistration
  engineRuntime : List EngineRuntimeStatus
  engines : List EngineDescriptor
  deriving Repr, DecidableEq

inductive ControlResponse where
  | inventory (response : InventoryResponse)
  | routingPolicyApplied (inventoryGeneration : Nat) (routingPolicy : RoutingPolicyRegistration)
  | routingPolicyRejected (error : RoutingPolicyError)
  | engineRecoveryProbeRequested (inventoryGeneration : Nat) (engineId : String)
  | logicalVoicesRegistered (inventoryGeneration : Nat)
  | logicalVoicesRejected
  | invalidConfiguration (message : String)
  deriving Repr, DecidableEq

/-- The inventory generation that a response reports. -/
def ControlResponse.inventoryGeneration : ControlResponse → Option Nat
  | .inventory response => some response.inventoryGeneration
  | .routingPolicyApplied generation _ => some generation
  | .engineRecoveryProbeRequested generation _ => some generation
  | .logicalVoicesRegistered generation => some generation
  | _ => none

/-! ## The session -/

/-- The parts behind the reported inventory, and the responses so far, the latest first. -/
structure InventorySession (Engine : Type) where
  preferredEngineId : String
  registry : RescanRegistry Engine
  health : RuntimeHealthInner
  routingPolicy : RoutingPolicyRegistry
  clock : Nat
  responses : List ControlResponse

namespace InventorySession

variable {Engine : Type}

def start (preferredEngineId : String) (policy : LocalRoutingPolicy)
    (permissions : EngineSelectionPermissions) : InventorySession Engine where
  preferredEngineId := preferredEngineId
  registry := .start policy permissions
  health := .new
  routingPolicy := .withLocalPolicy preferredEngineId policy
  clock := 0
  responses := []

/-- The generation that a report at this moment would carry. -/
def reported (session : InventorySession Engine) : Nat :=
  session.routingPolicy.inventoryGeneration
    (saturatingAdd u64Max session.registry.generation session.health.generation)

/-- The engines that a report at this moment would list. -/
def listed (session : InventorySession Engine) : List EngineDescriptor :=
  session.routingPolicy.projectInventory (session.registry.inventory.map session.health.project)

/-- A generation and the engines from one read of the registry, overlaid with the health. -/
def registrySnapshot (session : InventorySession Engine) (now : Nat) :
    InventorySession Engine × RuntimeInventorySnapshot :=
  let taken := session.health.snapshotAt session.registry.generation session.registry.inventory now
  ({ session with health := taken.1, clock := now }, taken.2)

def statuses (session : InventorySession Engine) (inventory : List EngineDescriptor) (now : Nat) :
    InventorySession Engine × List EngineRuntimeStatus :=
  let taken := session.health.statusesAt inventory
    session.routingPolicy.policy.disabledEngineIds now
  ({ session with health := taken.1, clock := now }, taken.2)

def respond (session : InventorySession Engine) (response : ControlResponse) :
    InventorySession Engine :=
  { session with responses := response :: session.responses }

/-- Retry a startup failure, or make the next routed request a recovery probe. -/
def recover (session : InventorySession Engine) (engineId : String) (spawnError : Option String) :
    InventorySession Engine × Except String Unit :=
  if (session.registry.registry.engine engineId).isNone then
    let requested := session.registry.requestRescan engineId spawnError
    ({ session with registry := requested.1 }, requested.2)
  else
    let requested := session.health.requestProbe engineId
    ({ session with health := requested.1 }, requested.2)

/-- The recovery of an engine that is listed and not disabled. -/
def recoverListed (session : InventorySession Engine) (engineId : String)
    (spawnError : Option String) (later : Nat) : InventorySession Engine :=
  let recovery := session.recover engineId spawnError
  match recovery.2 with
  | .error message => recovery.1.respond (.invalidConfiguration message)
  | .ok _ =>
      let snapshot := recovery.1.registrySnapshot later
      snapshot.1.respond (.engineRecoveryProbeRequested
        (snapshot.1.routingPolicy.inventoryGeneration snapshot.2.generation) engineId)

/-- One control request. The inventory is snapshotted before the request is looked at, and
a rescan of its own may fail to start. -/
def processControlRequest (session : InventorySession Engine) (now later : Nat)
    (spawnError : Option String) : ControlRequest → InventorySession Engine
  | .inventory =>
      let snapshot := session.registrySnapshot now
      let runtime := snapshot.1.statuses snapshot.2.engines later
      let policy := runtime.1.routingPolicy
      runtime.1.respond (.inventory {
        inventoryGeneration := policy.inventoryGeneration snapshot.2.generation
        preferredEngineId := policy.policy.preferredEngineIds.head?.getD runtime.1.preferredEngineId
        routingPolicy := policy.registration
        engineRuntime := runtime.2
        engines := policy.projectInventory snapshot.2.engines })
  | .setRoutingPolicy generation policy =>
      let snapshot := session.registrySnapshot now
      let runtime := snapshot.1.statuses snapshot.2.engines later
      let registered := runtime.1.routingPolicy.register generation policy
      let next := { runtime.1 with routingPolicy := registered.1 }
      match registered.2 with
      | .ok registration => next.respond (.routingPolicyApplied
          (registered.1.inventoryGeneration snapshot.2.generation) registration)
      | .error error => next.respond (.routingPolicyRejected error)
  | .requestEngineRecoveryProbe engineId =>
      let snapshot := session.registrySnapshot now
      if !snapshot.2.engines.any fun engine => engine.id == engineId then
        snapshot.1.respond (.invalidConfiguration s!"unknown engine {engineId}")
      else if snapshot.1.routingPolicy.policy.disabledEngineIds.contains engineId then
        snapshot.1.respond
          (.invalidConfiguration s!"engine {engineId} is disabled by runtime routing policy")
      else snapshot.1.recoverListed engineId spawnError later
  | .registerLogicalVoices accepted =>
      let snapshot := session.registrySnapshot now
      let runtime := snapshot.1.statuses snapshot.2.engines later
      if accepted then
        runtime.1.respond (.logicalVoicesRegistered
          (runtime.1.routingPolicy.inventoryGeneration snapshot.2.generation))
      else runtime.1.respond .logicalVoicesRejected

end InventorySession

/-- Registrations, rescans that come to an end, circuit-breaker operations and requests. -/
inductive InventoryEvent (Engine : Type) where
  | register (entry : RegisteredEngine Engine) (retry : Bool)
  | finishRescan (engineId : String) (startup : Except String (Engine × EngineDescriptor))
  | health (now : Nat) (call : HealthCall)
  | control (now later : Nat) (spawnError : Option String) (request : ControlRequest)

namespace InventorySession

variable {Engine : Type}

/-- An event that the clock and the callers allow. -/
def step (allowed : InventorySession Engine → InventoryEvent Engine → Bool)
    (session : InventorySession Engine) (event : InventoryEvent Engine) :
    Option (InventorySession Engine) :=
  if allowed session event = true then
    match event with
    | .register entry retry =>
        some { session with registry := (session.registry.register entry retry).1 }
    | .finishRescan engineId startup =>
        if rescanning : (session.registry.failures engineId).rescanning = true then
          let result := RescanRegistry.rescanResult engineId startup
          some { session with registry := session.registry.finishRescan rescanning result }
        else none
    | .health now call =>
        if session.clock ≤ now then
          some { session with health := (session.health.perform now call).1, clock := now }
        else none
    | .control now later spawnError request =>
        if session.clock ≤ now ∧ now ≤ later then
          some (session.processControlRequest now later spawnError request)
        else none
  else none

/-! ## The condition -/

/-- Whether a release drops the circuit of a listed engine. -/
def dropsListedCircuit (session : InventorySession Engine) : HealthCall → Bool
  | .releaseProbe engineId =>
      !releasable (session.health.circuits engineId) &&
        (session.registry.inventory.map EngineDescriptor.id).contains engineId
  | _ => false

/-- Whether a policy replaces the startup policy under the startup policy's generation. -/
def reusesGeneration (session : InventorySession Engine) (generation : Nat)
    (policy : RoutingPolicy) : Bool :=
  !session.routingPolicy.configured && generation == session.routingPolicy.generation &&
    (validatePolicy policy).isOk

/-- Whether the listed engines that a policy disables are the ones disabled already. -/
def keepsDisablement (session : InventorySession Engine) (policy : RoutingPolicy) : Bool :=
  session.registry.inventory.all fun engine =>
    (addMissing policy.disabledEngineIds session.routingPolicy.localDisabled).contains engine.id ==
      session.routingPolicy.policy.disabledEngineIds.contains engine.id

/-- All requests are identifying but a policy that reuses a generation for other
disablement. -/
def identifyingRequest (session : InventorySession Engine) : ControlRequest → Bool
  | .setRoutingPolicy generation policy =>
      !session.reusesGeneration generation policy || session.keepsDisablement policy
  | _ => true

/-- Events below the limit that drop no circuit of a listed engine. -/
def identifying (session : InventorySession Engine) (event : InventoryEvent Engine) : Bool :=
  decide (session.reported < u64Max) &&
    match event with
    | .health _ call => !session.dropsListedCircuit call
    | .control _ _ _ request => session.identifyingRequest request
    | _ => true

/-- Every event that can be taken. -/
def anyEvent (_ : InventorySession Engine) (_ : InventoryEvent Engine) : Bool := true

/-! ## What a report promises -/

/-- The reported generation identifies the listed engines. -/
structure IdentifiesEngines (session : InventorySession Engine) : Prop where
  never_decreases : session.responses.Pairwise fun newer older =>
    ∀ later earlier : Nat, newer.inventoryGeneration = some later →
      older.inventoryGeneration = some earlier → earlier ≤ later
  same_engines : ∀ first second : InventoryResponse,
    ControlResponse.inventory first ∈ session.responses →
    ControlResponse.inventory second ∈ session.responses →
    first.inventoryGeneration = second.inventoryGeneration → first.engines = second.engines

/-! ## The reported generation follows the listed engines -/

/-- The reported generation follows the listed engines, up to a limit. -/
abbrev InventoryAdvances (limit : Nat) : InventorySession Engine → InventorySession Engine → Prop :=
  Advances reported listed limit

variable {limit : Nat} {before after session : InventorySession Engine}

/-- The listed engines are those of the registry, each under its projected health and
disabled by the policy or not. -/
theorem listed_congr (registry : before.registry.inventory = after.registry.inventory)
    (health : ∀ engine ∈ after.registry.inventory,
      before.health.projection engine.id = after.health.projection engine.id)
    (policy : before.routingPolicy.policy.disabledEngineIds =
      after.routingPolicy.policy.disabledEngineIds) : before.listed = after.listed := by
  rw [listed, listed, registry, RoutingPolicyRegistry.projectInventory,
    RoutingPolicyRegistry.projectInventory, policy]
  refine congrArg _ ?_
  exact List.map_congr_left fun engine member => project_eq (health engine member)

/-- **The three parts make one report.** -/
theorem advances_of_parts (within : limit ≤ u64Max)
    (registry : Advances RescanRegistry.generation RescanRegistry.inventory limit
      before.registry after.registry)
    (health : Advances RuntimeHealthInner.generation RuntimeHealthInner.projection limit
      before.health after.health)
    (policy : Advances RoutingPolicyRegistry.generation
      (fun policy => policy.policy.disabledEngineIds) limit
      before.routingPolicy after.routingPolicy) : InventoryAdvances limit before after := by
  have base := (registry.of_part InventorySession.registry).add within
    (health.of_part InventorySession.health)
  have whole := base.add within (policy.of_part InventorySession.routingPolicy)
  refine whole.coarsen fun same => ?_
  obtain ⟨sameBase, samePolicy⟩ := Prod.ext_iff.mp same
  obtain ⟨sameRegistry, sameHealth⟩ := Prod.ext_iff.mp sameBase
  exact listed_congr sameRegistry (fun engine _ => congrFun sameHealth engine.id) samePolicy

theorem registry_advances (within : limit ≤ u64Max) {next : RescanRegistry Engine}
    (advances : RescanRegistry.RegistryAdvances session.registry next) :
    InventoryAdvances limit session { session with registry := next } :=
  advances_of_parts within (advances.weaken within) (Advances.refl _) (Advances.refl _)

theorem healthAdvances_inventory (within : limit ≤ u64Max) {next : RuntimeHealthInner}
    (clock : Nat) (advances : RuntimeHealthInner.HealthAdvances session.health next) :
    InventoryAdvances limit session { session with health := next, clock := clock } :=
  advances_of_parts within (Advances.refl _) (advances.weaken within) (Advances.refl _)

/-- A release that drops a circuit leaves the generation as it is. -/
theorem releaseProbe_generation {inner : RuntimeHealthInner} {engineId : String}
    (dropped : releasable (inner.circuits engineId) = false) :
    (inner.releaseProbe engineId).generation = inner.generation := by
  rw [RuntimeHealthInner.releaseProbe]
  rcases found : inner.circuits engineId with _ | _ | _ | _
  case some.probing =>
    rw [found] at dropped
    cases dropped
  all_goals rfl

/-- A circuit-breaker operation that drops no circuit of a listed engine. -/
theorem health_advances (within : limit ≤ u64Max) (now clock : Nat) (call : HealthCall)
    (kept : limit = 0 ∨ session.dropsListedCircuit call = false) :
    InventoryAdvances limit session
      { session with health := (session.health.perform now call).1, clock := clock } := by
  by_cases held : call.releasesHeldProbe session.health = true
  · exact healthAdvances_inventory within clock (RuntimeHealthInner.perform_advances held)
  · cases call with
    | releaseProbe engineId =>
        rw [HealthCall.releasesHeldProbe, Bool.not_eq_true] at held
        have sameStamp : session.reported = reported
            { session with health := session.health.releaseProbe engineId, clock := clock } := by
          rw [reported, reported, releaseProbe_generation held]
        rcases kept with rfl | unlisted
        · exact Advances.of_le sameStamp.le
        · refine Advances.of_eq sameStamp (listed_congr rfl (fun engine member => ?_) rfl)
          -- the circuit that is dropped belongs to no listed engine
          rw [dropsListedCircuit, held, Bool.not_false, Bool.true_and, List.contains_eq_mem,
            decide_eq_false_iff_not] at unlisted
          have other : engine.id ≠ engineId := by
            rintro rfl
            exact unlisted (List.mem_map_of_mem member)
          have frame := RuntimeHealthInner.circuits_perform session.health now
            (.releaseProbe engineId) engine.id
          rw [if_neg (by simpa [HealthCall.engines] using other)] at frame
          rw [RuntimeHealthInner.projection, RuntimeHealthInner.projection]
          exact congrArg _ frame.symm
    | _ => exact absurd rfl held

/-- A registration never lowers the policy generation. -/
theorem register_generation_le (registry : RoutingPolicyRegistry) (generation : Nat)
    (policy : RoutingPolicy) :
    registry.generation ≤ (registry.register generation policy).1.generation := by
  cases answered : (registry.register generation policy).2 with
  | error error => rw [RoutingPolicyRegistry.register_error answered]
  | ok registration =>
      rw [(RoutingPolicyRegistry.register_ok answered).2.1]
      by_contra older
      rw [RoutingPolicyRegistry.register, if_pos (Nat.lt_of_not_le older)] at answered
      cases answered

/-- Under the current generation a registration replaces the policy in place, the first
time, or changes nothing. -/
theorem register_same_generation {registry : RoutingPolicyRegistry} {generation : Nat}
    {policy : RoutingPolicy}
    (same : registry.generation = (registry.register generation policy).1.generation) :
    (registry.register generation policy).1 = registry ∨
      registry.configured = false ∧ generation = registry.generation ∧
        validatePolicy policy = .ok () ∧
        (registry.register generation policy).1 = registry.replaced generation policy := by
  cases answered : (registry.register generation policy).2 with
  | error error => exact Or.inl (RoutingPolicyRegistry.register_error answered)
  | ok registration =>
      obtain ⟨validated, current, -⟩ := RoutingPolicyRegistry.register_ok answered
      have reused : generation = registry.generation := (same.trans current).symm
      rw [RoutingPolicyRegistry.register, if_neg (Nat.not_lt_of_le reused.ge), validated]
      dsimp only
      split
      · split
        · exact Or.inl rfl
        · exact Or.inl rfl
      · rename_i fresh
        refine Or.inr ⟨?_, reused, rfl, rfl⟩
        exact Bool.eq_false_iff.mpr fun configured => fresh ⟨reused, configured⟩

/-- A registration that does not reuse the generation for other disablement. -/
theorem policy_advances (within : limit ≤ u64Max) {generation : Nat} {policy : RoutingPolicy}
    (kept : limit = 0 ∨
      (!session.reusesGeneration generation policy || session.keepsDisablement policy) = true) :
    InventoryAdvances limit session
      { session with routingPolicy := (session.routingPolicy.register generation policy).1 } := by
  have ordered := register_generation_le session.routingPolicy generation policy
  rcases Nat.eq_or_lt_of_le ordered with same | raised
  · rcases register_same_generation same with unchanged | ⟨first, reused, validated, replaced⟩
    · rw [unchanged]
      exact Advances.refl session
    · have sameStamp : session.reported = reported { session with
          routingPolicy := (session.routingPolicy.register generation policy).1 } := by
        rw [reported, reported, RoutingPolicyRegistry.inventoryGeneration,
          RoutingPolicyRegistry.inventoryGeneration, ← same]
      rcases kept with rfl | kept
      · exact Advances.of_le sameStamp.le
      · refine Advances.of_eq sameStamp ?_
        have reuses : session.reusesGeneration generation policy = true := by
          rw [reusesGeneration, first, reused, validated]
          simp [Except.isOk, Except.toBool]
        rw [reuses, Bool.not_true, Bool.false_or, keepsDisablement, List.all_eq_true] at kept
        rw [listed, listed, replaced]
        refine List.map_congr_left fun engine member => ?_
        obtain ⟨described, listed, rfl⟩ := List.mem_map.mp member
        have agrees := eq_of_beq (kept described listed)
        have sameId : (session.health.project described).id = described.id := by
          rw [RuntimeHealthInner.project]
          split
          all_goals rfl
        rw [projectDescriptor, projectDescriptor, sameId, ← agrees]
        rfl
  · exact advances_of_parts within (Advances.refl _) (Advances.refl _) (Advances.of_lt raised)

/-! ## What a request answers -/

theorem registrySnapshot_advances (within : limit ≤ u64Max) (now : Nat) :
    InventoryAdvances limit session (session.registrySnapshot now).1 :=
  health_advances within now now
    (.snapshot session.registry.generation session.registry.inventory) (Or.inr rfl)

theorem registrySnapshot_listed (now : Nat) :
    (session.registrySnapshot now).1.listed =
      session.routingPolicy.projectInventory (session.registrySnapshot now).2.engines := by
  rw [registrySnapshot, RuntimeHealthInner.snapshotAt_engines]
  rfl

theorem statuses_advances (within : limit ≤ u64Max) (inventory : List EngineDescriptor)
    (now : Nat) : InventoryAdvances limit session (session.statuses inventory now).1 :=
  health_advances within now now
    (.statuses inventory session.routingPolicy.policy.disabledEngineIds) (Or.inr rfl)

theorem respond_advances (response : ControlResponse) :
    InventoryAdvances limit session (session.respond response) :=
  Advances.of_eq rfl rfl

/-- A request is answered once, with the report of a moment on its way. -/
structure Answers (limit : Nat) (before after : InventorySession Engine)
    (response : ControlResponse) : Prop where
  recorded : after.responses = response :: before.responses
  told : ∃ moment : InventorySession Engine,
    InventoryAdvances limit before moment ∧ InventoryAdvances limit moment after ∧
      (∀ generation, response.inventoryGeneration = some generation →
        generation = moment.reported) ∧
      ∀ answer, response = .inventory answer → answer.engines = moment.listed

/-- A response without a report. -/
theorem Answers.of_silent {response : ControlResponse}
    (recorded : after.responses = response :: before.responses)
    (silent : response.inventoryGeneration = none)
    (advances : InventoryAdvances limit before after) : Answers limit before after response where
  recorded := recorded
  told := by
    refine ⟨after, advances, Advances.refl after, ?_, ?_⟩
    · intro generation reports
      rw [silent] at reports
      cases reports
    · rintro answer rfl
      cases silent

/-- A response that only reports a generation. -/
theorem Answers.of_report {response : ControlResponse} {moment : InventorySession Engine}
    (recorded : after.responses = response :: before.responses)
    (reports : response.inventoryGeneration = some moment.reported)
    (uninventoried : ∀ answer, response ≠ .inventory answer)
    (earlier : InventoryAdvances limit before moment)
    (later : InventoryAdvances limit moment after) : Answers limit before after response where
  recorded := recorded
  told := by
    refine ⟨moment, earlier, later, ?_, ?_⟩
    · intro generation reported
      exact Option.some.inj (reported.symm.trans reports)
    · intro answer same
      exact absurd same (uninventoried answer)

theorem inventory_answers (within : limit ≤ u64Max) (now later : Nat)
    (spawnError : Option String) :
    ∃ response, Answers limit session
      (session.processControlRequest now later spawnError .inventory) response := by
  refine ⟨_, rfl, (session.registrySnapshot now).1, registrySnapshot_advances within now,
    (statuses_advances within _ later).trans (respond_advances _), ?_, ?_⟩
  · intro generation reports
    exact (Option.some.inj reports).symm
  · rintro answer same
    cases same
    have lists : (session.registrySnapshot now).1.listed = _ := registrySnapshot_listed now
    exact lists.symm

theorem setRoutingPolicy_answers (within : limit ≤ u64Max) (now later : Nat)
    (spawnError : Option String) {generation : Nat} {policy : RoutingPolicy}
    (kept : limit = 0 ∨
      session.identifyingRequest (.setRoutingPolicy generation policy) = true) :
    ∃ response, Answers limit session (session.processControlRequest now later spawnError
      (.setRoutingPolicy generation policy)) response := by
  have snapshot : InventoryAdvances limit session (session.registrySnapshot now).1 :=
    registrySnapshot_advances within now
  have runtime : InventoryAdvances limit (session.registrySnapshot now).1
      ((session.registrySnapshot now).1.statuses (session.registrySnapshot now).2.engines
        later).1 := statuses_advances within _ later
  -- the policy is registered after the statuses, and reported over the earlier snapshot
  have registered : InventoryAdvances limit (session.registrySnapshot now).1
      { (session.registrySnapshot now).1 with
        routingPolicy := (session.routingPolicy.register generation policy).1 } :=
    policy_advances within kept
  rw [processControlRequest]
  dsimp only
  split
  · refine ⟨_, Answers.of_report rfl rfl (fun _ same => nomatch same)
      (snapshot.trans registered) ?_⟩
    refine Advances.trans ?_ (respond_advances _)
    exact health_advances within later later (.statuses (session.registrySnapshot now).2.engines
      session.routingPolicy.policy.disabledEngineIds) (Or.inr rfl)
  · refine ⟨_, Answers.of_silent rfl rfl ?_⟩
    refine Advances.trans ?_ (respond_advances _)
    exact (snapshot.trans runtime).trans (policy_advances within kept)

theorem recover_advances (within : limit ≤ u64Max) (engineId : String)
    (spawnError : Option String) :
    InventoryAdvances limit session (session.recover engineId spawnError).1 := by
  rw [recover]
  split
  · exact registry_advances within (RescanRegistry.requestRescan_advances spawnError)
  · exact health_advances within 0 session.clock (.requestProbe engineId) (Or.inr rfl)

theorem recoverListed_answers (session : InventorySession Engine) (within : limit ≤ u64Max)
    (engineId : String)
    (spawnError : Option String) (later : Nat) :
    ∃ response, Answers limit session
      (session.recoverListed engineId spawnError later) response := by
  have recovered : InventoryAdvances limit session (session.recover engineId spawnError).1 :=
    recover_advances within engineId spawnError
  have silent : (session.recover engineId spawnError).1.responses = session.responses := by
    rw [recover]
    split
    · rfl
    · rfl
  rw [recoverListed]
  dsimp only
  split
  · rename_i message _
    refine ⟨.invalidConfiguration message, Answers.of_silent ?_ rfl ?_⟩
    · exact congrArg _ silent
    · exact recovered.trans (respond_advances _)
  · refine ⟨.engineRecoveryProbeRequested _ engineId, Answers.of_report ?_ rfl ?_
      (recovered.trans (registrySnapshot_advances within later)) (respond_advances _)⟩
    · exact congrArg _ silent
    · intro answer same
      cases same

theorem requestEngineRecoveryProbe_answers (within : limit ≤ u64Max) (now later : Nat)
    (spawnError : Option String) (engineId : String) :
    ∃ response, Answers limit session (session.processControlRequest now later spawnError
      (.requestEngineRecoveryProbe engineId)) response := by
  have snapshot : InventoryAdvances limit session (session.registrySnapshot now).1 :=
    registrySnapshot_advances within now
  rw [processControlRequest]
  split
  · exact ⟨_, Answers.of_silent rfl rfl (snapshot.trans (respond_advances _))⟩
  · split
    · exact ⟨_, Answers.of_silent rfl rfl (snapshot.trans (respond_advances _))⟩
    · obtain ⟨response, recorded, moment, earlier, last, reports, lists⟩ :=
        (session.registrySnapshot now).1.recoverListed_answers within engineId spawnError later
      exact ⟨response, recorded, moment, snapshot.trans earlier, last, reports, lists⟩

theorem registerLogicalVoices_answers (within : limit ≤ u64Max) (now later : Nat)
    (spawnError : Option String) (accepted : Bool) :
    ∃ response, Answers limit session (session.processControlRequest now later spawnError
      (.registerLogicalVoices accepted)) response := by
  have snapshot : InventoryAdvances limit session (session.registrySnapshot now).1 :=
    registrySnapshot_advances within now
  have runtime : InventoryAdvances limit (session.registrySnapshot now).1
      ((session.registrySnapshot now).1.statuses (session.registrySnapshot now).2.engines
        later).1 := statuses_advances within _ later
  rw [processControlRequest]
  split
  · exact ⟨_, Answers.of_report rfl rfl (fun _ same => nomatch same) snapshot
      (runtime.trans (respond_advances _))⟩
  · exact ⟨_, Answers.of_silent rfl rfl ((snapshot.trans runtime).trans (respond_advances _))⟩

/-- **Every request is answered with a report of the session on its way.** -/
theorem processControlRequest_answers (within : limit ≤ u64Max) (now later : Nat)
    (spawnError : Option String) {request : ControlRequest}
    (kept : limit = 0 ∨ session.identifyingRequest request = true) :
    ∃ response, Answers limit session
      (session.processControlRequest now later spawnError request) response := by
  cases request with
  | inventory => exact inventory_answers within now later spawnError
  | setRoutingPolicy generation policy =>
      exact setRoutingPolicy_answers within now later spawnError kept
  | requestEngineRecoveryProbe engineId =>
      exact requestEngineRecoveryProbe_answers within now later spawnError engineId
  | registerLogicalVoices accepted =>
      exact registerLogicalVoices_answers within now later spawnError accepted

/-! ## Runs -/

/-- What an event does to the responses: nothing, or one answer. -/
def Moves (limit : Nat) (before after : InventorySession Engine) : Prop :=
  after.responses = before.responses ∧ InventoryAdvances limit before after ∨
    ∃ response, Answers limit before after response

theorem Moves.advances (moves : Moves limit before after) : InventoryAdvances limit before after := by
  rcases moves with ⟨-, advances⟩ | ⟨_, -, _, earlier, later, -⟩
  · exact advances
  · exact earlier.trans later

/-- **Step.** -/
theorem step_moves {allowed : InventorySession Engine → InventoryEvent Engine → Bool}
    {event : InventoryEvent Engine} {next : InventorySession Engine} (within : limit ≤ u64Max)
    (kept : limit = 0 ∨ session.identifying event = true)
    (taken : session.step allowed event = some next) : Moves limit session next := by
  obtain ⟨-, taken⟩ := Option.ite_none_right_eq_some.mp taken
  have conditioned := kept.imp_right fun identifying => (Bool.and_eq_true_iff.mp identifying).2
  cases event with
  | register entry retry =>
      cases taken
      exact Or.inl ⟨rfl, registry_advances within (RescanRegistry.register_advances entry retry)⟩
  | finishRescan engineId startup =>
      obtain ⟨rescanning, taken⟩ := Option.dite_none_right_eq_some.mp taken
      cases taken
      exact Or.inl ⟨rfl, registry_advances within
        (RescanRegistry.finishRescan_advances rescanning _)⟩
  | health now call =>
      obtain ⟨-, taken⟩ := Option.ite_none_right_eq_some.mp taken
      cases taken
      refine Or.inl ⟨rfl, health_advances within now now call ?_⟩
      exact conditioned.imp_right fun kept => Bool.not_eq_true' _ ▸ kept
  | control now later spawnError request =>
      obtain ⟨-, taken⟩ := Option.ite_none_right_eq_some.mp taken
      cases taken
      exact Or.inr (processControlRequest_answers within now later spawnError conditioned)

/-- The generations reported so far are in order, and none is ahead of the session. -/
structure InOrder (session : InventorySession Engine) : Prop where
  reported_le : ∀ response ∈ session.responses, ∀ generation,
    response.inventoryGeneration = some generation → generation ≤ session.reported
  never_decreases : session.responses.Pairwise fun newer older =>
    ∀ later earlier : Nat, newer.inventoryGeneration = some later →
      older.inventoryGeneration = some earlier → earlier ≤ later

theorem InOrder.moves (ordered : before.InOrder) (moves : Moves limit before after) :
    after.InOrder := by
  have forward := moves.advances.stamp_le
  rcases moves with ⟨same, -⟩ | ⟨response, recorded, moment, earlier, later, reports, -⟩
  · refine ⟨?_, same ▸ ordered.never_decreases⟩
    intro response member generation told
    exact (ordered.reported_le response (same ▸ member) generation told).trans forward
  · refine ⟨?_, ?_⟩
    · intro other member generation told
      rw [recorded] at member
      rcases List.mem_cons.mp member with rfl | member
      · exact (reports generation told).le.trans later.stamp_le
      · exact (ordered.reported_le other member generation told).trans forward
    · rw [recorded]
      refine List.pairwise_cons.mpr ⟨?_, ordered.never_decreases⟩
      intro older member now before told earlierTold
      rw [reports now told]
      exact (ordered.reported_le older member before earlierTold).trans earlier.stamp_le

/-- Each inventory response is a reading of the session, and equal generations read equal
engines. -/
structure Identified (session : InventorySession Engine) : Prop where
  reading : ∀ answer, ControlResponse.inventory answer ∈ session.responses →
    Reading reported listed u64Max session answer.inventoryGeneration answer.engines
  same_engines : ∀ first second : InventoryResponse,
    ControlResponse.inventory first ∈ session.responses →
    ControlResponse.inventory second ∈ session.responses →
    first.inventoryGeneration = second.inventoryGeneration → first.engines = second.engines

theorem Identified.moves (identified : before.Identified) (ordered : before.InOrder)
    (below : before.reported < u64Max) (moves : Moves u64Max before after) :
    after.Identified := by
  have advances := moves.advances
  rcases moves with ⟨same, -⟩ | ⟨response, recorded, moment, earlier, later, reports, lists⟩
  · refine ⟨?_, same ▸ identified.same_engines⟩
    intro answer member
    exact (identified.reading answer (same ▸ member)).later advances
  -- an older response of the generation just reported was read below the limit
  have older : ∀ old new : InventoryResponse, ControlResponse.inventory old ∈ before.responses →
      response = .inventory new → old.inventoryGeneration = new.inventoryGeneration →
      old.engines = new.engines := by
    intro old new member answered agrees
    have told : new.inventoryGeneration = moment.reported :=
      reports _ (congrArg ControlResponse.inventoryGeneration answered)
    have bounded := ordered.reported_le _ member old.inventoryGeneration rfl
    rw [lists new answered]
    exact ((identified.reading old member).later earlier).view_eq (agrees.trans told)
      (bounded.trans_lt below)
  refine ⟨?_, ?_⟩
  · intro answer member
    rw [recorded] at member
    rcases List.mem_cons.mp member with answered | member
    · have told : answer.inventoryGeneration = moment.reported :=
        reports _ (congrArg ControlResponse.inventoryGeneration answered.symm)
      rw [told, lists answer answered.symm]
      exact (Reading.here moment).later later
    · exact (identified.reading answer member).later advances
  · intro first second member member' agrees
    rw [recorded] at member member'
    rcases List.mem_cons.mp member with answered | member
    · rcases List.mem_cons.mp member' with answered' | member'
      · cases answered.trans answered'.symm
        rfl
      · exact (older second first member' answered.symm agrees.symm).symm
    · rcases List.mem_cons.mp member' with answered' | member'
      · exact older first second member answered'.symm agrees
      · exact identified.same_engines first second member member' agrees

variable {preferredEngineId : String} {policy : LocalRoutingPolicy}
  {permissions : EngineSelectionPermissions}

theorem start_inOrder :
    (start preferredEngineId policy permissions : InventorySession Engine).InOrder where
  reported_le _ member := absurd member List.not_mem_nil
  never_decreases := List.Pairwise.nil

theorem start_identified :
    (start preferredEngineId policy permissions : InventorySession Engine).Identified where
  reading _ member := absurd member List.not_mem_nil
  same_engines _ _ member := absurd member List.not_mem_nil

/-- **The reported generation never decreases**, in any run. -/
theorem inventory_generation_never_decreases {events : List (InventoryEvent Engine)}
    {session : InventorySession Engine}
    (run : runSteps (step anyEvent) (start preferredEngineId policy permissions) events =
      some session) : session.InOrder := by
  refine run_preserves (fun middle event next ordered taken => ?_) start_inOrder run
  exact ordered.moves (step_moves (Nat.zero_le _) (Or.inl rfl) taken)

end InventorySession

open InventorySession

/-- **In every run of identifying events the reported generation identifies the engines.** -/
theorem inventory_generation_identifies_engines {Engine : Type} (preferredEngineId : String)
    (policy : LocalRoutingPolicy) (permissions : EngineSelectionPermissions)
    (events : List (InventoryEvent Engine)) (session : InventorySession Engine)
    (run : runSteps (step identifying) (start preferredEngineId policy permissions) events =
      some session) : session.IdentifiesEngines := by
  have preserved : ∀ (middle : InventorySession Engine) (event : InventoryEvent Engine)
      (next : InventorySession Engine), middle.InOrder ∧ middle.Identified →
      middle.step identifying event = some next → next.InOrder ∧ next.Identified := by
    rintro middle event next ⟨ordered, identified⟩ taken
    obtain ⟨allowed, -⟩ := Option.ite_none_right_eq_some.mp taken
    have moves : Moves u64Max middle next := step_moves le_rfl (Or.inr allowed) taken
    have below : middle.reported < u64Max :=
      of_decide_eq_true (Bool.and_eq_true_iff.mp allowed).1
    exact ⟨ordered.moves moves, identified.moves ordered below moves⟩
  obtain ⟨ordered, identified⟩ := run_preserves preserved ⟨start_inOrder, start_identified⟩ run
  exact ⟨ordered.never_decreases, identified.same_engines⟩

/-- An engine without voices. -/
def bareEngine (id : String) : EngineDescriptor where
  id := id
  availability := .available
  health := .healthy
  acss := ⟨true, true, true, true, true, true⟩
  textRepertoire := .unicode
  postSynthesisDimensions := []
  voices := []
  defaultVoiceId := none
  espeakVariants := []

/-- An engine, its inventory, a first session policy that disables it, and its inventory. -/
def disablingEvents (generation : Nat) : List (InventoryEvent Unit) :=
  [.register ⟨some (), bareEngine "espeak"⟩ false,
    .control 0 0 none .inventory,
    .control 0 0 none (.setRoutingPolicy generation ⟨["espeak"], [], ["espeak"]⟩),
    .control 0 0 none .inventory]

theorem disabling_under_generation_one_identifies_engines :
    ∃ session, runSteps (step identifying) (start "espeak" ⟨none, none, [], []⟩ ⟨[], []⟩)
        (disablingEvents 1) = some session ∧ session.IdentifiesEngines ∧
      session.responses.map ControlResponse.inventoryGeneration = [some 2, some 2, some 1] :=
  ⟨_, rfl, inventory_generation_identifies_engines _ _ _ (disablingEvents 1) _ rfl, rfl⟩

/-- Under the generation of the startup policy the engines change and the number stays. -/
theorem reused_generation_changes_engines :
    ¬ ∀ (preferredEngineId : String) (policy : LocalRoutingPolicy)
        (permissions : EngineSelectionPermissions) (events : List (InventoryEvent Unit))
        (session : InventorySession Unit),
        runSteps (step anyEvent) (start preferredEngineId policy permissions) events =
          some session → session.IdentifiesEngines := by
  intro every
  have identifies := every "espeak" ⟨none, none, [], []⟩ ⟨[], []⟩ (disablingEvents 0) _ rfl
  have same := identifies.same_engines _ _ (List.Mem.head _)
    (List.Mem.tail _ (List.Mem.tail _ (List.Mem.head _))) rfl
  exact absurd same (by decide)

end Omnivox.Engines
