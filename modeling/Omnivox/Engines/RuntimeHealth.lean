import Mathlib
import Omnivox.Engines.Contracts
import Omnivox.Foundations.Bounded
import Omnivox.Foundations.Versions

/-!
# Runtime engine health

A circuit opens when an engine fails. It becomes ready when the cooldown has elapsed or a
probe is requested, and a ready circuit grants one recovery probe at a time. The table of
circuits is behind one lock, so each operation is one step.

An operation acts on the circuit of the engine it names and on no other
(`circuits_perform`), and the health generation follows the projected health
(`perform_advances`). Times and durations are in nanoseconds.
-/

set_option autoImplicit false

namespace Omnivox.Engines

open Foundations

/-- `u32::MAX`. -/
abbrev u32Max : Nat := wordMax 32

def secondNanos : Nat := 1000000000

def FIRST_COOLDOWN : Nat := 5 * secondNanos
def SECOND_COOLDOWN : Nat := 15 * secondNanos
def THIRD_COOLDOWN : Nat := 30 * secondNanos
def MAX_COOLDOWN : Nat := 60 * secondNanos

def cooldownFor : Nat → Nat
  | 0 | 1 => FIRST_COOLDOWN
  | 2 => SECOND_COOLDOWN
  | 3 => THIRD_COOLDOWN
  | _ => MAX_COOLDOWN

inductive EnginePermit where
  | normal
  | recoveryProbe
  deriving Repr, DecidableEq

inductive EngineAccess where
  | permit (permit : EnginePermit)
  | denied (reason : String)
  deriving Repr, DecidableEq

structure RuntimeInventorySnapshot where
  generation : Nat
  engines : List EngineDescriptor
  deriving Repr, DecidableEq

/-- The open state is named `opened`. -/
inductive CircuitState where
  | opened (failures : Nat) (reason : String) (retryAt : Nat)
  | ready (failures : Nat) (reason : String)
  | probing (failures : Nat) (reason : String)
  deriving Repr, DecidableEq

inductive EngineCircuitStatus where
  | closed
  | cooldown
  | ready
  | probing
  deriving Repr, DecidableEq

/-- Dynamic operational state for one inventory engine. -/
structure EngineRuntimeStatus where
  engineId : String
  circuit : EngineCircuitStatus
  lastFailure : Option String
  cooldownRemainingMs : Option Nat
  disabledByPolicy : Bool
  deriving Repr, DecidableEq

def projectedHealth : CircuitState → EngineHealth
  | .opened _ reason _ => .failed s!"runtime failure: {reason}; recovery probe pending"
  | .ready _ reason => .degraded s!"runtime failure: {reason}; recovery probe ready"
  | .probing _ reason => .failed s!"runtime failure: {reason}; recovery probe in progress"

/-- What the lock protects. -/
@[ext]
structure RuntimeHealthInner where
  generation : Nat
  circuits : String → Option CircuitState
  generation_le : generation ≤ u64Max

namespace RuntimeHealthInner

def new : RuntimeHealthInner where
  generation := 0
  circuits := fun _ => none
  generation_le := Nat.zero_le _

def insert (inner : RuntimeHealthInner) (engineId : String) (circuit : CircuitState) :
    RuntimeHealthInner :=
  { inner with circuits := Function.update inner.circuits engineId (some circuit) }

def remove (inner : RuntimeHealthInner) (engineId : String) : RuntimeHealthInner :=
  { inner with circuits := Function.update inner.circuits engineId none }

def advanceGeneration (inner : RuntimeHealthInner) : RuntimeHealthInner :=
  { inner with
    generation := saturatingAdd u64Max inner.generation 1
    generation_le := saturatingAdd_le _ _ _ }

/-- An open circuit whose cooldown has elapsed becomes ready. -/
def promoteReady (inner : RuntimeHealthInner) (engineId : String) (now : Nat) :
    RuntimeHealthInner :=
  match inner.circuits engineId with
  | some (.opened failures reason retryAt) =>
      if retryAt ≤ now then
        ((inner.remove engineId).insert engineId (.ready failures reason)).advanceGeneration
      else inner
  | _ => inner

def acquireAt (inner : RuntimeHealthInner) (engineId : String) (now : Nat) :
    RuntimeHealthInner × EngineAccess :=
  let inner := inner.promoteReady engineId now
  match inner.circuits engineId with
  | none => (inner.remove engineId, .permit .normal)
  | some (.ready failures reason) =>
      (((inner.remove engineId).insert engineId (.probing failures reason)).advanceGeneration,
        .permit .recoveryProbe)
  | some (.opened failures reason retryAt) =>
      ((inner.remove engineId).insert engineId (.opened failures reason retryAt),
        .denied s!"runtime failure: {reason}; recovery probe pending")
  | some (.probing failures reason) =>
      ((inner.remove engineId).insert engineId (.probing failures reason),
        .denied s!"runtime failure: {reason}; recovery probe in progress")

/-- The failures a circuit counts. -/
def failuresOf : Option CircuitState → Nat
  | some (.opened failures _ _) => failures
  | some (.ready failures _) => failures
  | some (.probing failures _) => failures
  | none => 0

def recordFailureAt (inner : RuntimeHealthInner) (engineId reason : String) (now : Nat) :
    RuntimeHealthInner × Nat :=
  let failures := saturatingAdd u32Max (failuresOf (inner.circuits engineId)) 1
  let cooldown := cooldownFor failures
  (((inner.remove engineId).insert engineId
    (.opened failures reason (now + cooldown))).advanceGeneration, cooldown)

def recordSuccess (inner : RuntimeHealthInner) (engineId : String) (permit : EnginePermit) :
    RuntimeHealthInner :=
  if permit ≠ .recoveryProbe then inner
  else
    match inner.circuits engineId with
    | some (.probing _ _) => (inner.remove engineId).advanceGeneration
    | _ => inner

def releaseProbe (inner : RuntimeHealthInner) (engineId : String) : RuntimeHealthInner :=
  let removed := inner.remove engineId
  match inner.circuits engineId with
  | some (.probing failures reason) =>
      (removed.insert engineId (.ready failures reason)).advanceGeneration
  | _ => removed

/-- Make the next routed request an immediate recovery probe. -/
def requestProbe (inner : RuntimeHealthInner) (engineId : String) :
    RuntimeHealthInner × Except String Unit :=
  let removed := inner.remove engineId
  match inner.circuits engineId with
  | none => (removed, .error s!"engine {engineId} has no runtime failure to recover")
  | some (.opened failures reason _) | some (.ready failures reason) =>
      ((removed.insert engineId (.ready failures reason)).advanceGeneration, .ok ())
  | some (.probing failures reason) =>
      (removed.insert engineId (.probing failures reason),
        .error s!"engine {engineId} recovery probe is already in progress")

/-- The descriptor with the health its circuit projects. -/
def project (inner : RuntimeHealthInner) (descriptor : EngineDescriptor) : EngineDescriptor :=
  match inner.circuits descriptor.id with
  | some circuit => { descriptor with health := projectedHealth circuit }
  | none => descriptor

/-- Walk an inventory: promote each engine, then report on it. -/
def walk {Report : Type} (report : RuntimeHealthInner → EngineDescriptor → Report) (now : Nat) :
    RuntimeHealthInner → List EngineDescriptor → RuntimeHealthInner × List Report
  | inner, [] => (inner, [])
  | inner, descriptor :: rest =>
      let inner := inner.promoteReady descriptor.id now
      let walked := walk report now inner rest
      (walked.1, report inner descriptor :: walked.2)

def snapshotAt (inner : RuntimeHealthInner) (baseGeneration : Nat)
    (inventory : List EngineDescriptor) (now : Nat) :
    RuntimeHealthInner × RuntimeInventorySnapshot :=
  let walked := walk project now inner inventory
  (walked.1, {
    generation := saturatingAdd u64Max baseGeneration walked.1.generation
    engines := walked.2 })

/-- The status of one engine. -/
def status (disabledEngineIds : List String) (now : Nat) (inner : RuntimeHealthInner)
    (descriptor : EngineDescriptor) : EngineRuntimeStatus :=
  let disabled := disabledEngineIds.contains descriptor.id
  match inner.circuits descriptor.id with
  | none => ⟨descriptor.id, .closed, none, none, disabled⟩
  | some (.opened _ reason retryAt) =>
      ⟨descriptor.id, .cooldown, some reason,
        some (min ((retryAt - now) / 1000000) u64Max), disabled⟩
  | some (.ready _ reason) => ⟨descriptor.id, .ready, some reason, some 0, disabled⟩
  | some (.probing _ reason) => ⟨descriptor.id, .probing, some reason, none, disabled⟩

def statusesAt (inner : RuntimeHealthInner) (inventory : List EngineDescriptor)
    (disabledEngineIds : List String) (now : Nat) :
    RuntimeHealthInner × List EngineRuntimeStatus :=
  walk (status disabledEngineIds now) now inner inventory

end RuntimeHealthInner

/-! ## Operations -/

inductive HealthCall where
  | acquire (engineId : String)
  | recordFailure (engineId reason : String)
  | recordSuccess (engineId : String) (permit : EnginePermit)
  | releaseProbe (engineId : String)
  | requestProbe (engineId : String)
  | snapshot (baseGeneration : Nat) (inventory : List EngineDescriptor)
  | statuses (inventory : List EngineDescriptor) (disabledEngineIds : List String)
  deriving Repr, DecidableEq

inductive HealthAnswer where
  | access (access : EngineAccess)
  | cooldown (duration : Nat)
  | settled
  | requested (result : Except String Unit)
  | inventory (snapshot : RuntimeInventorySnapshot)
  | statuses (engines : List EngineRuntimeStatus)

/-- The engines an operation is on. -/
def HealthCall.engines : HealthCall → List String
  | .acquire engineId => [engineId]
  | .recordFailure engineId _ => [engineId]
  | .recordSuccess engineId _ => [engineId]
  | .releaseProbe engineId => [engineId]
  | .requestProbe engineId => [engineId]
  | .snapshot _ inventory => inventory.map EngineDescriptor.id
  | .statuses inventory _ => inventory.map EngineDescriptor.id

namespace RuntimeHealthInner

def perform (inner : RuntimeHealthInner) (now : Nat) :
    HealthCall → RuntimeHealthInner × HealthAnswer
  | .acquire engineId =>
      let result := inner.acquireAt engineId now
      (result.1, .access result.2)
  | .recordFailure engineId reason =>
      let result := inner.recordFailureAt engineId reason now
      (result.1, .cooldown result.2)
  | .recordSuccess engineId permit => (inner.recordSuccess engineId permit, .settled)
  | .releaseProbe engineId => (inner.releaseProbe engineId, .settled)
  | .requestProbe engineId =>
      let result := inner.requestProbe engineId
      (result.1, .requested result.2)
  | .snapshot baseGeneration inventory =>
      let result := inner.snapshotAt baseGeneration inventory now
      (result.1, .inventory result.2)
  | .statuses inventory disabledEngineIds =>
      let result := inner.statusesAt inventory disabledEngineIds now
      (result.1, .statuses result.2)

/-! ## The circuit of one engine -/

@[simp] theorem insert_circuits (inner : RuntimeHealthInner) (engineId : String)
    (circuit : CircuitState) :
    (inner.insert engineId circuit).circuits =
      Function.update inner.circuits engineId (some circuit) := rfl

@[simp] theorem remove_circuits (inner : RuntimeHealthInner) (engineId : String) :
    (inner.remove engineId).circuits = Function.update inner.circuits engineId none := rfl

@[simp] theorem advanceGeneration_circuits (inner : RuntimeHealthInner) :
    inner.advanceGeneration.circuits = inner.circuits := rfl

/-- Putting a circuit back changes nothing. -/
theorem insert_remove_self {inner : RuntimeHealthInner} {engineId : String}
    {circuit : CircuitState} (found : inner.circuits engineId = some circuit) :
    (inner.remove engineId).insert engineId circuit = inner := by
  apply RuntimeHealthInner.ext
  · rfl
  · rw [insert_circuits, remove_circuits, Function.update_idem, ← found, Function.update_eq_self]

/-- The circuit after a promotion. -/
def promoted (now : Nat) : Option CircuitState → Option CircuitState
  | some (.opened failures reason retryAt) =>
      if retryAt ≤ now then some (.ready failures reason)
      else some (.opened failures reason retryAt)
  | circuit => circuit

theorem promoted_promoted (now : Nat) (circuit : Option CircuitState) :
    promoted now (promoted now circuit) = promoted now circuit := by
  rcases circuit with _ | ⟨failures, reason, retryAt⟩ | _ | _
  case some.opened =>
    by_cases due : retryAt ≤ now
    · simp [promoted, due]
    · simp [promoted, due]
  all_goals rfl

theorem promoteReady_circuits (inner : RuntimeHealthInner) (engineId : String) (now : Nat) :
    (inner.promoteReady engineId now).circuits =
      Function.update inner.circuits engineId (promoted now (inner.circuits engineId)) := by
  rcases found : inner.circuits engineId with _ | ⟨failures, reason, retryAt⟩ | _ | _
  case some.opened =>
    by_cases due : retryAt ≤ now
    · simp [promoteReady, promoted, found, due]
    · simp [promoteReady, promoted, found, due]
  all_goals simp [promoteReady, promoted, found]

/-- The promotions of a list of engines. -/
def promoteAll (inner : RuntimeHealthInner) (engines : List String) (now : Nat) :
    RuntimeHealthInner :=
  engines.foldl (fun inner engineId => inner.promoteReady engineId now) inner

theorem promoteAll_circuits (inner : RuntimeHealthInner) (engines : List String) (now : Nat)
    (engineId : String) :
    (inner.promoteAll engines now).circuits engineId =
      if engineId ∈ engines then promoted now (inner.circuits engineId)
      else inner.circuits engineId := by
  induction engines generalizing inner with
  | nil => simp [promoteAll]
  | cons first rest ih =>
      have unfolded : inner.promoteAll (first :: rest) now =
          (inner.promoteReady first now).promoteAll rest now := rfl
      rw [unfolded, ih, promoteReady_circuits]
      by_cases same : engineId = first
      · subst same
        simp [promoted_promoted]
      · simp [same]

theorem walk_inner {Report : Type} (report : RuntimeHealthInner → EngineDescriptor → Report)
    (now : Nat) (inner : RuntimeHealthInner) (inventory : List EngineDescriptor) :
    (walk report now inner inventory).1 =
      inner.promoteAll (inventory.map EngineDescriptor.id) now := by
  induction inventory generalizing inner with
  | nil => rfl
  | cons descriptor rest ih =>
      rw [walk, List.map_cons]
      exact ih _

/-- A walk that reports on each engine's own circuit reports on the table it leaves. -/
theorem walk_reports {Report : Type} {report : RuntimeHealthInner → EngineDescriptor → Report}
    (own : ∀ (first second : RuntimeHealthInner) (descriptor : EngineDescriptor),
      first.circuits descriptor.id = second.circuits descriptor.id →
      report first descriptor = report second descriptor)
    (now : Nat) (inner : RuntimeHealthInner) (inventory : List EngineDescriptor) :
    (walk report now inner inventory).2 =
      inventory.map (report (inner.promoteAll (inventory.map EngineDescriptor.id) now)) := by
  induction inventory generalizing inner with
  | nil => rfl
  | cons descriptor rest ih =>
      rw [walk, List.map_cons, List.map_cons]
      refine congrArg₂ List.cons ?_ (ih _)
      -- the later promotions leave the first engine's circuit as its own promotion did
      apply own
      have later := promoteAll_circuits (inner.promoteReady descriptor.id now)
        (rest.map EngineDescriptor.id) now descriptor.id
      rw [promoteReady_circuits, Function.update_self, promoted_promoted, ite_self] at later
      rw [promoteReady_circuits, Function.update_self]
      exact later.symm

theorem snapshotAt_engines (inner : RuntimeHealthInner) (baseGeneration : Nat)
    (inventory : List EngineDescriptor) (now : Nat) :
    (inner.snapshotAt baseGeneration inventory now).2.engines =
      inventory.map (inner.snapshotAt baseGeneration inventory now).1.project := by
  rw [snapshotAt, walk_reports, walk_inner]
  intro first second descriptor same
  rw [project, project, same]

end RuntimeHealthInner

/-- What an operation makes of the circuit of an engine it is on. -/
def HealthCall.circuitAfter (now : Nat) (circuit : Option CircuitState) :
    HealthCall → Option CircuitState
  | .acquire _ =>
      match RuntimeHealthInner.promoted now circuit with
      | some (.ready failures reason) => some (.probing failures reason)
      | other => other
  | .recordFailure _ reason =>
      let failures := saturatingAdd u32Max (RuntimeHealthInner.failuresOf circuit) 1
      some (.opened failures reason (now + cooldownFor failures))
  | .recordSuccess _ .normal => circuit
  | .recordSuccess _ .recoveryProbe =>
      match circuit with
      | some (.probing _ _) => none
      | other => other
  | .releaseProbe _ =>
      match circuit with
      | some (.probing failures reason) => some (.ready failures reason)
      | _ => none
  | .requestProbe _ =>
      match circuit with
      | some (.opened failures reason _) => some (.ready failures reason)
      | other => other
  | .snapshot _ _ | .statuses _ _ => RuntimeHealthInner.promoted now circuit

attribute [local simp] HealthCall.circuitAfter

namespace RuntimeHealthInner

theorem acquireAt_circuits (inner : RuntimeHealthInner) (engineId : String) (now : Nat) :
    (inner.acquireAt engineId now).1.circuits =
      Function.update inner.circuits engineId
        ((HealthCall.acquire engineId).circuitAfter now (inner.circuits engineId)) := by
  have promotion := promoteReady_circuits inner engineId now
  have promotedAt : (inner.promoteReady engineId now).circuits engineId =
      promoted now (inner.circuits engineId) := by
    rw [promotion, Function.update_self]
  rcases found : promoted now (inner.circuits engineId) with _ | _ | _ | _
  all_goals simp [acquireAt, HealthCall.circuitAfter, promotedAt, promotion, found]

theorem recordFailureAt_circuits (inner : RuntimeHealthInner) (engineId reason : String)
    (now : Nat) :
    (inner.recordFailureAt engineId reason now).1.circuits =
      Function.update inner.circuits engineId
        ((HealthCall.recordFailure engineId reason).circuitAfter now
          (inner.circuits engineId)) := by
  simp [recordFailureAt, HealthCall.circuitAfter]

theorem recordSuccess_circuits (inner : RuntimeHealthInner) (engineId : String)
    (permit : EnginePermit) (now : Nat) :
    (inner.recordSuccess engineId permit).circuits =
      Function.update inner.circuits engineId
        ((HealthCall.recordSuccess engineId permit).circuitAfter now (inner.circuits engineId)) := by
  cases permit with
  | normal => simp [recordSuccess, HealthCall.circuitAfter]
  | recoveryProbe =>
      rcases found : inner.circuits engineId with _ | _ | _ | _
      all_goals simp [recordSuccess, HealthCall.circuitAfter, found]

theorem releaseProbe_circuits (inner : RuntimeHealthInner) (engineId : String) (now : Nat) :
    (inner.releaseProbe engineId).circuits =
      Function.update inner.circuits engineId
        ((HealthCall.releaseProbe engineId).circuitAfter now (inner.circuits engineId)) := by
  rcases found : inner.circuits engineId with _ | _ | _ | _
  all_goals simp [releaseProbe, HealthCall.circuitAfter, found]

theorem requestProbe_circuits (inner : RuntimeHealthInner) (engineId : String) (now : Nat) :
    (inner.requestProbe engineId).1.circuits =
      Function.update inner.circuits engineId
        ((HealthCall.requestProbe engineId).circuitAfter now (inner.circuits engineId)) := by
  rcases found : inner.circuits engineId with _ | _ | _ | _
  all_goals simp [requestProbe, HealthCall.circuitAfter, found]

/-- Reading back a table that an operation changed at its one engine. -/
theorem update_circuits (inner : RuntimeHealthInner) (now : Nat) {call : HealthCall}
    {named : String} (alone : call.engines = [named]) (engineId : String) :
    Function.update inner.circuits named (call.circuitAfter now (inner.circuits named)) engineId =
      if engineId ∈ call.engines then call.circuitAfter now (inner.circuits engineId)
      else inner.circuits engineId := by
  rw [Function.update_apply, alone]
  simp only [List.mem_singleton]
  split
  · rename_i same
    rw [same]
  · rfl

/-- **An operation acts on the circuits of the engines it is on, one by one.** -/
theorem circuits_perform (inner : RuntimeHealthInner) (now : Nat) (call : HealthCall)
    (engineId : String) :
    (inner.perform now call).1.circuits engineId =
      if engineId ∈ call.engines then call.circuitAfter now (inner.circuits engineId)
      else inner.circuits engineId := by
  cases call with
  | acquire named =>
      rw [perform, acquireAt_circuits]
      exact update_circuits inner now rfl engineId
  | recordFailure named reason =>
      rw [perform, recordFailureAt_circuits]
      exact update_circuits inner now rfl engineId
  | recordSuccess named permit =>
      rw [perform, recordSuccess_circuits inner named permit now]
      exact update_circuits inner now rfl engineId
  | releaseProbe named =>
      rw [perform, releaseProbe_circuits inner named now]
      exact update_circuits inner now rfl engineId
  | requestProbe named =>
      rw [perform, requestProbe_circuits inner named now]
      exact update_circuits inner now rfl engineId
  | snapshot baseGeneration inventory =>
      rw [perform, snapshotAt, walk_inner, promoteAll_circuits]
      rfl
  | statuses inventory disabledEngineIds =>
      rw [perform, statusesAt, walk_inner, promoteAll_circuits]
      rfl

/-! ## The health generation -/

/-- The health that the circuits impose on the engines. -/
def projection (inner : RuntimeHealthInner) (engineId : String) : Option EngineHealth :=
  (inner.circuits engineId).map projectedHealth

/-- The generation follows the projected health. -/
def HealthAdvances : RuntimeHealthInner → RuntimeHealthInner → Prop :=
  Advances RuntimeHealthInner.generation RuntimeHealthInner.projection u64Max

theorem HealthAdvances.of_circuits {before after : RuntimeHealthInner}
    (sameGeneration : before.generation = after.generation)
    (sameCircuits : after.circuits = before.circuits) : HealthAdvances before after :=
  Advances.of_eq sameGeneration (by
    funext engineId
    rw [projection, projection, sameCircuits])

/-- A changed table under an advanced generation. -/
theorem HealthAdvances.of_advanceGeneration {before changed : RuntimeHealthInner}
    (sameGeneration : changed.generation = before.generation) :
    HealthAdvances before changed.advanceGeneration where
  stamp_le := by
    have bound := before.generation_le
    simp only [advanceGeneration, saturatingAdd, sameGeneration]
    omega
  stamp_lt _ below := by
    simp only [advanceGeneration, saturatingAdd, sameGeneration]
    omega

theorem promoteReady_advances (inner : RuntimeHealthInner) (engineId : String) (now : Nat) :
    HealthAdvances inner (inner.promoteReady engineId now) := by
  rw [promoteReady]
  split
  · split
    · exact HealthAdvances.of_advanceGeneration rfl
    · exact Advances.refl inner
  · exact Advances.refl inner

theorem promoteAll_advances (inner : RuntimeHealthInner) (engines : List String) (now : Nat) :
    HealthAdvances inner (inner.promoteAll engines now) := by
  induction engines generalizing inner with
  | nil => exact Advances.refl inner
  | cons first rest ih => exact (promoteReady_advances inner first now).trans (ih _)

end RuntimeHealthInner

/-- A circuit that a release leaves in its place: a held probe, or none at all. -/
def releasable : Option CircuitState → Bool
  | some (.opened _ _ _) => false
  | some (.ready _ _) => false
  | some (.probing _ _) => true
  | none => true

/-- Any other release removes a circuit that it does not put back. -/
def HealthCall.releasesHeldProbe (inner : RuntimeHealthInner) : HealthCall → Bool
  | .releaseProbe engineId => releasable (inner.circuits engineId)
  | _ => true

namespace RuntimeHealthInner

theorem acquireAt_advances (inner : RuntimeHealthInner) (engineId : String) (now : Nat) :
    HealthAdvances inner (inner.acquireAt engineId now).1 := by
  refine (promoteReady_advances inner engineId now).trans ?_
  rw [acquireAt]
  split
  · rename_i absent
    exact HealthAdvances.of_circuits rfl (by simp [← absent])
  · exact HealthAdvances.of_advanceGeneration rfl
  · rename_i found
    exact HealthAdvances.of_circuits rfl (by simp [found])
  · rename_i found
    exact HealthAdvances.of_circuits rfl (by simp [found])

theorem recordSuccess_advances (inner : RuntimeHealthInner) (engineId : String)
    (permit : EnginePermit) : HealthAdvances inner (inner.recordSuccess engineId permit) := by
  rw [recordSuccess]
  split
  · exact Advances.refl inner
  · split
    · exact HealthAdvances.of_advanceGeneration rfl
    · exact Advances.refl inner

theorem requestProbe_advances (inner : RuntimeHealthInner) (engineId : String) :
    HealthAdvances inner (inner.requestProbe engineId).1 := by
  rw [requestProbe]
  split
  · rename_i absent
    exact HealthAdvances.of_circuits rfl (by simp [absent])
  · exact HealthAdvances.of_advanceGeneration rfl
  · exact HealthAdvances.of_advanceGeneration rfl
  · rename_i found
    exact HealthAdvances.of_circuits rfl (by simp [found])

theorem releaseProbe_advances {inner : RuntimeHealthInner} {engineId : String}
    (held : (HealthCall.releaseProbe engineId).releasesHeldProbe inner = true) :
    HealthAdvances inner (inner.releaseProbe engineId) := by
  rw [HealthCall.releasesHeldProbe] at held
  rcases found : inner.circuits engineId with _ | _ | _ | _
  case none =>
    rw [releaseProbe, found]
    exact HealthAdvances.of_circuits rfl (by simp [found])
  case some.probing =>
    rw [releaseProbe, found]
    exact HealthAdvances.of_advanceGeneration rfl
  all_goals
    rw [found] at held
    exact absurd held Bool.false_ne_true

/-- **The generation follows the projected health** through every operation, as long as
no release drops a circuit. -/
theorem perform_advances {inner : RuntimeHealthInner} {now : Nat} {call : HealthCall}
    (held : call.releasesHeldProbe inner = true) :
    HealthAdvances inner (inner.perform now call).1 := by
  cases call with
  | acquire engineId => exact acquireAt_advances inner engineId now
  | recordFailure engineId reason => exact HealthAdvances.of_advanceGeneration rfl
  | recordSuccess engineId permit => exact recordSuccess_advances inner engineId permit
  | releaseProbe engineId => exact releaseProbe_advances held
  | requestProbe engineId => exact requestProbe_advances inner engineId
  | snapshot baseGeneration inventory =>
      rw [perform, snapshotAt, walk_inner]
      exact promoteAll_advances inner _ now
  | statuses inventory disabledEngineIds =>
      rw [perform, statusesAt, walk_inner]
      exact promoteAll_advances inner _ now

end RuntimeHealthInner

end Omnivox.Engines
