import Mathlib
import Omnivox.Engines.RuntimeHealth

/-!
# The circuit breaker over whole runs

A run interleaves the operations of any number of callers under a clock that does not go
back. Beside the table stands a ledger of what each engine has been through, kept from the
calls and their answers alone: the failures since its circuit was closed, the time of the
last one, and whether a probe is held or has been requested.

While every release is of a held probe or of an engine without a circuit, the table
follows the ledger (`circuit_breaker_guarantees`). A release of an open circuit drops the
circuit: the engine is granted normal access at once (`released_open_circuit_is_dropped`).
-/

set_option autoImplicit false

namespace Omnivox.Engines

open Foundations

/-! ## The ledger -/

/-- What one engine has been through. -/
structure EngineLedger where
  failures : Nat
  lastFailure : Nat
  probeHeld : Bool
  probeRequested : Bool
  deriving Repr, DecidableEq

namespace EngineLedger

/-- A closed circuit. -/
def closed : EngineLedger where
  failures := 0
  lastFailure := 0
  probeHeld := false
  probeRequested := false

/-- When the cooldown for the failures since closing has elapsed. -/
def deadline (ledger : EngineLedger) : Nat :=
  ledger.lastFailure + cooldownFor ledger.failures

/-- The ledger after an operation on the engine. -/
def after (ledger : EngineLedger) (now : Nat) : HealthCall → HealthAnswer → EngineLedger
  | .acquire _, .access (.permit .recoveryProbe) => { ledger with probeHeld := true }
  | .recordFailure _ _, _ =>
      { failures := ledger.failures + 1
        lastFailure := now
        probeHeld := false
        probeRequested := false }
  | .recordSuccess _ .recoveryProbe, _ => if ledger.probeHeld then closed else ledger
  | .releaseProbe _, _ => { ledger with probeHeld := false }
  | .requestProbe _, .requested (.ok _) => { ledger with probeRequested := true }
  | _, _ => ledger

end EngineLedger

/-! ## Runs -/

structure HealthWorld where
  inner : RuntimeHealthInner
  clock : Nat
  ledger : String → EngineLedger

def HealthWorld.new : HealthWorld where
  inner := .new
  clock := 0
  ledger := fun _ => .closed

structure TimedCall where
  now : Nat
  call : HealthCall
  deriving Repr, DecidableEq

namespace HealthWorld

/-- The world after a call. -/
def performed (world : HealthWorld) (timed : TimedCall) : HealthWorld where
  inner := (world.inner.perform timed.now timed.call).1
  clock := timed.now
  ledger := fun engineId =>
    if engineId ∈ timed.call.engines then
      (world.ledger engineId).after timed.now timed.call
        (world.inner.perform timed.now timed.call).2
    else world.ledger engineId

/-- A call that the clock and the callers allow. -/
def step (allowed : RuntimeHealthInner → HealthCall → Bool) (world : HealthWorld)
    (timed : TimedCall) : Option HealthWorld :=
  if world.clock ≤ timed.now ∧ allowed world.inner timed.call = true then
    some (world.performed timed)
  else none

end HealthWorld

/-- Callers that may release at any time. -/
def anyRelease (_ : RuntimeHealthInner) (_ : HealthCall) : Bool := true

/-- Callers that release a held probe, or nothing. -/
def heldReleases (inner : RuntimeHealthInner) (call : HealthCall) : Bool :=
  call.releasesHeldProbe inner

/-! ## The guarantees -/

/-- What a circuit breaker promises about the next call, and about two snapshots. -/
structure CircuitGuarantees (allowed : RuntimeHealthInner → HealthCall → Bool)
    (world : HealthWorld) : Prop where
  /-- Operations on one engine never change another engine's circuit. -/
  frame : ∀ (now : Nat) (call : HealthCall) (engineId : String), engineId ∉ call.engines →
    (world.inner.perform now call).1.circuits engineId = world.inner.circuits engineId
  /-- Normal access is for engines without a failure since their circuit was closed. -/
  normal : ∀ (now : Nat) (engineId : String), world.clock ≤ now →
    ((world.inner.acquireAt engineId now).2 = .permit .normal ↔
      (world.ledger engineId).failures = 0)
  /-- While a probe is held the engine is denied. -/
  held_denied : ∀ (now : Nat) (engineId : String), world.clock ≤ now →
    (world.ledger engineId).probeHeld = true →
    ∃ reason, (world.inner.acquireAt engineId now).2 = .denied reason
  /-- While a probe is held another request fails without changing state. -/
  held_requested : ∀ engineId : String, (world.ledger engineId).probeHeld = true →
    ∃ message, world.inner.requestProbe engineId = (world.inner, .error message)
  /-- A failed engine is denied until its cooldown has elapsed or a probe is requested. -/
  cooldown : ∀ (now : Nat) (engineId : String), world.clock ≤ now →
    0 < (world.ledger engineId).failures → (world.ledger engineId).probeRequested = false →
    now < (world.ledger engineId).deadline →
    ∃ reason, (world.inner.acquireAt engineId now).2 = .denied reason
  /-- A success with a normal permit changes nothing. -/
  normal_success : ∀ engineId : String, world.inner.recordSuccess engineId .normal = world.inner
  /-- A circuit counts the failures since it was closed. -/
  failures_counted : ∀ engineId : String,
    RuntimeHealthInner.failuresOf (world.inner.circuits engineId) =
      min (world.ledger engineId).failures u32Max
  /-- Only a failure and a successful probe change the count. -/
  failures_kept : ∀ (now : Nat) (call : HealthCall) (engineId : String),
    allowed world.inner call = true → (∀ reason, call ≠ .recordFailure engineId reason) →
    call ≠ .recordSuccess engineId .recoveryProbe →
    RuntimeHealthInner.failuresOf ((world.inner.perform now call).1.circuits engineId) =
      RuntimeHealthInner.failuresOf (world.inner.circuits engineId)
  /-- The health generation never decreases. -/
  generation_le : ∀ (now : Nat) (call : HealthCall), allowed world.inner call = true →
    world.inner.generation ≤ (world.inner.perform now call).1.generation
  /-- Below saturation it increases with every change of a projected health. -/
  generation_lt : ∀ (now : Nat) (call : HealthCall) (engineId : String),
    allowed world.inner call = true →
    world.inner.projection engineId ≠ (world.inner.perform now call).1.projection engineId →
    world.inner.generation < u64Max →
    world.inner.generation < (world.inner.perform now call).1.generation
  /-- Two snapshots under one generation below saturation project the same health. -/
  snapshots : ∀ (first second : TimedCall) (base : Nat) (inventory again : List EngineDescriptor)
    (between : List TimedCall) (last : HealthWorld),
    first.call = .snapshot base inventory → second.call = .snapshot base again →
    runSteps (HealthWorld.step allowed) world (first :: between) = some last →
    last.clock ≤ second.now →
    (world.inner.snapshotAt base inventory first.now).2.generation =
      (last.inner.snapshotAt base again second.now).2.generation →
    (world.inner.snapshotAt base inventory first.now).2.generation < u64Max →
    (∀ engineId, (world.inner.snapshotAt base inventory first.now).1.projection engineId =
        (last.inner.snapshotAt base again second.now).1.projection engineId) ∧
      (inventory = again → (world.inner.snapshotAt base inventory first.now).2.engines =
        (last.inner.snapshotAt base again second.now).2.engines)

/-! ## The table follows the ledger -/

/-- The circuit that a ledger calls for. -/
def EngineLedger.Tracks (ledger : EngineLedger) (clock : Nat) : Option CircuitState → Prop
  | none => ledger.failures = 0 ∧ ledger.probeHeld = false
  | some (.opened failures _ retryAt) =>
      0 < ledger.failures ∧ failures = min ledger.failures u32Max ∧
        ledger.probeHeld = false ∧ retryAt = ledger.deadline
  | some (.ready failures _) =>
      0 < ledger.failures ∧ failures = min ledger.failures u32Max ∧
        ledger.probeHeld = false ∧ (ledger.probeRequested = true ∨ ledger.deadline ≤ clock)
  | some (.probing failures _) =>
      0 < ledger.failures ∧ failures = min ledger.failures u32Max ∧
        ledger.probeHeld = true ∧ (ledger.probeRequested = true ∨ ledger.deadline ≤ clock)

theorem cooldownFor_of_four_le {failures : Nat} (many : 4 ≤ failures) :
    cooldownFor failures = MAX_COOLDOWN := by
  rw [cooldownFor]
  all_goals omega

/-- Saturation does not shorten a cooldown. -/
theorem cooldownFor_min {limit : Nat} (wide : 4 ≤ limit) (failures : Nat) :
    cooldownFor (min failures limit) = cooldownFor failures := by
  by_cases fits : failures ≤ limit
  · rw [Nat.min_eq_left fits]
  · have beyond : limit ≤ failures := Nat.le_of_not_le fits
    rw [Nat.min_eq_right beyond, cooldownFor_of_four_le wide,
      cooldownFor_of_four_le (wide.trans beyond)]

theorem four_le_u32Max : 4 ≤ u32Max := by decide

namespace EngineLedger

open RuntimeHealthInner

variable {ledger : EngineLedger} {clock now : Nat} {circuit : Option CircuitState}

theorem Tracks.failures_eq (tracks : ledger.Tracks clock circuit) :
    failuresOf circuit = min ledger.failures u32Max := by
  rcases circuit with _ | _ | _ | _
  case none =>
    rw [tracks.1]
    rfl
  all_goals exact tracks.2.1

/-- Time passes, and a due circuit is promoted. -/
theorem Tracks.promoted (tracks : ledger.Tracks clock circuit) (later : clock ≤ now) :
    ledger.Tracks now (promoted now circuit) := by
  rcases circuit with _ | ⟨failures, reason, retryAt⟩ | ⟨failures, reason⟩ | ⟨failures, reason⟩
  case none => exact tracks
  case some.opened =>
    obtain ⟨positive, counted, free, due⟩ := tracks
    rw [RuntimeHealthInner.promoted]
    split
    · rename_i elapsed
      exact ⟨positive, counted, free, Or.inr (due ▸ elapsed)⟩
    · exact ⟨positive, counted, free, due⟩
  all_goals
    obtain ⟨positive, counted, free, requested⟩ := tracks
    exact ⟨positive, counted, free, requested.imp_right fun elapsed => elapsed.trans later⟩

/-- Time passes. -/
theorem Tracks.later (tracks : ledger.Tracks clock circuit) (later : clock ≤ now) :
    ledger.Tracks now circuit := by
  rcases circuit with _ | _ | _ | _
  case none => exact tracks
  case some.opened => exact tracks
  all_goals
    obtain ⟨positive, counted, free, requested⟩ := tracks
    exact ⟨positive, counted, free, requested.imp_right fun elapsed => elapsed.trans later⟩

end EngineLedger

/-! ## Answers -/

/-- The access that a promoted circuit gives. -/
def accessOf : Option CircuitState → EngineAccess
  | none => .permit .normal
  | some (.ready _ _) => .permit .recoveryProbe
  | some (.opened _ reason _) => .denied s!"runtime failure: {reason}; recovery probe pending"
  | some (.probing _ reason) => .denied s!"runtime failure: {reason}; recovery probe in progress"

theorem acquireAt_access (inner : RuntimeHealthInner) (engineId : String) (now : Nat) :
    (inner.acquireAt engineId now).2 =
      accessOf (RuntimeHealthInner.promoted now (inner.circuits engineId)) := by
  have promotedAt : (inner.promoteReady engineId now).circuits engineId =
      RuntimeHealthInner.promoted now (inner.circuits engineId) := by
    rw [RuntimeHealthInner.promoteReady_circuits, Function.update_self]
  rw [← promotedAt, RuntimeHealthInner.acquireAt]
  rcases (inner.promoteReady engineId now).circuits engineId with _ | _ | _ | _
  all_goals rfl

/-- What a request for a probe comes to. -/
def requestOf (engineId : String) : Option CircuitState → Except String Unit
  | none => .error s!"engine {engineId} has no runtime failure to recover"
  | some (.probing _ _) => .error s!"engine {engineId} recovery probe is already in progress"
  | some _ => .ok ()

theorem requestProbe_result (inner : RuntimeHealthInner) (engineId : String) :
    (inner.requestProbe engineId).2 = requestOf engineId (inner.circuits engineId) := by
  rw [RuntimeHealthInner.requestProbe]
  rcases inner.circuits engineId with _ | _ | _ | _
  all_goals rfl

/-! ## One operation -/

section OneCircuit

open RuntimeHealthInner

variable {ledger : EngineLedger} {clock now : Nat} {circuit : Option CircuitState}
  {inner : RuntimeHealthInner} {engineId : String}

theorem acquire_tracks (tracks : ledger.Tracks clock circuit) (later : clock ≤ now) :
    (ledger.after now (.acquire engineId) (.access (accessOf (promoted now circuit)))).Tracks now
      ((HealthCall.acquire engineId).circuitAfter now circuit) := by
  have next := tracks.promoted later
  rw [HealthCall.circuitAfter]
  generalize promoted now circuit = current at next
  rcases current with _ | _ | _ | _
  case some.ready =>
    obtain ⟨positive, counted, -, requested⟩ := next
    exact ⟨positive, counted, rfl, requested⟩
  all_goals exact next

theorem recordFailure_tracks {reason : String} {answer : HealthAnswer}
    (tracks : ledger.Tracks clock circuit) :
    (ledger.after now (.recordFailure engineId reason) answer).Tracks now
      ((HealthCall.recordFailure engineId reason).circuitAfter now circuit) := by
  have counted : saturatingAdd u32Max (failuresOf circuit) 1 =
      min (ledger.failures + 1) u32Max := by
    rw [tracks.failures_eq, saturatingAdd]
    omega
  refine ⟨Nat.succ_pos _, counted, rfl, ?_⟩
  rw [counted, cooldownFor_min four_le_u32Max]
  rfl

theorem recordSuccess_tracks {permit : EnginePermit} {answer : HealthAnswer}
    (tracks : ledger.Tracks clock circuit) (later : clock ≤ now) :
    (ledger.after now (.recordSuccess engineId permit) answer).Tracks now
      ((HealthCall.recordSuccess engineId permit).circuitAfter now circuit) := by
  have next := tracks.later later
  cases permit with
  | normal => exact next
  | recoveryProbe =>
      rw [EngineLedger.after]
      rcases circuit with _ | _ | _ | _
      case some.probing =>
        rw [if_pos next.2.2.1]
        exact ⟨rfl, rfl⟩
      case none =>
        rw [if_neg (Bool.eq_false_iff.mp next.2)]
        exact next
      all_goals
        rw [if_neg (Bool.eq_false_iff.mp next.2.2.1)]
        exact next

theorem releaseProbe_tracks {answer : HealthAnswer} (held : releasable circuit = true)
    (tracks : ledger.Tracks clock circuit) (later : clock ≤ now) :
    (ledger.after now (.releaseProbe engineId) answer).Tracks now
      ((HealthCall.releaseProbe engineId).circuitAfter now circuit) := by
  have next := tracks.later later
  rcases circuit with _ | _ | _ | _
  case none => exact ⟨next.1, rfl⟩
  case some.probing =>
    obtain ⟨positive, counted, -, requested⟩ := next
    exact ⟨positive, counted, rfl, requested⟩
  all_goals exact absurd held Bool.false_ne_true

theorem requestProbe_tracks (tracks : ledger.Tracks clock circuit) (later : clock ≤ now) :
    (ledger.after now (.requestProbe engineId) (.requested (requestOf engineId circuit))).Tracks now
      ((HealthCall.requestProbe engineId).circuitAfter now circuit) := by
  have next := tracks.later later
  rcases circuit with _ | _ | _ | _
  case none => exact next
  case some.probing => exact next
  all_goals
    obtain ⟨positive, counted, free, -⟩ := next
    exact ⟨positive, counted, free, Or.inl rfl⟩

/-- **The circuit of an engine follows its ledger through every operation on it.** -/
theorem perform_tracks {call : HealthCall} (held : call.releasesHeldProbe inner = true)
    (on : engineId ∈ call.engines) (tracks : ledger.Tracks clock (inner.circuits engineId))
    (later : clock ≤ now) :
    (ledger.after now call (inner.perform now call).2).Tracks now
      (call.circuitAfter now (inner.circuits engineId)) := by
  cases call with
  | acquire named =>
      obtain rfl := List.mem_singleton.mp on
      rw [perform, acquireAt_access]
      exact acquire_tracks tracks later
  | recordFailure named reason =>
      obtain rfl := List.mem_singleton.mp on
      exact recordFailure_tracks tracks
  | recordSuccess named permit =>
      obtain rfl := List.mem_singleton.mp on
      exact recordSuccess_tracks tracks later
  | releaseProbe named =>
      obtain rfl := List.mem_singleton.mp on
      exact releaseProbe_tracks held tracks later
  | requestProbe named =>
      obtain rfl := List.mem_singleton.mp on
      rw [perform, requestProbe_result]
      exact requestProbe_tracks tracks later
  | snapshot baseGeneration inventory => exact tracks.promoted later
  | statuses inventory disabledEngineIds => exact tracks.promoted later

end OneCircuit

/-! ## Runs of held releases -/

/-- Every circuit follows the ledger of its engine. -/
def HealthWorld.TableFollows (world : HealthWorld) : Prop :=
  ∀ engineId, (world.ledger engineId).Tracks world.clock (world.inner.circuits engineId)

theorem HealthWorld.new_tableFollows : HealthWorld.new.TableFollows := fun _ => ⟨rfl, rfl⟩

/-- A call that is taken is allowed, and not before the clock. -/
theorem HealthWorld.step_eq_some {allowed : RuntimeHealthInner → HealthCall → Bool}
    {world next : HealthWorld} {timed : TimedCall} (taken : world.step allowed timed = some next) :
    world.clock ≤ timed.now ∧ allowed world.inner timed.call = true ∧
      next = world.performed timed := by
  obtain ⟨⟨later, held⟩, same⟩ := Option.ite_none_right_eq_some.mp taken
  exact ⟨later, held, (Option.some.inj same).symm⟩

/-- **Step.** -/
theorem HealthWorld.step_tableFollows (world : HealthWorld) (timed : TimedCall)
    (next : HealthWorld) (follows : world.TableFollows)
    (taken : world.step heldReleases timed = some next) : next.TableFollows := by
  obtain ⟨later, held, rfl⟩ := step_eq_some taken
  intro engineId
  rw [performed, RuntimeHealthInner.circuits_perform]
  by_cases on : engineId ∈ timed.call.engines
  · simp only [if_pos on]
    exact perform_tracks held on (follows engineId) later
  · simp only [if_neg on]
    exact (follows engineId).later later

theorem HealthWorld.run_tableFollows {world : HealthWorld} {labels : List TimedCall}
    (run : runSteps (step heldReleases) .new labels = some world) : world.TableFollows :=
  run_preserves step_tableFollows new_tableFollows run

/-- A step of held releases lets the generation follow the projected health. -/
theorem HealthWorld.step_advances (world : HealthWorld) (timed : TimedCall) (next : HealthWorld)
    (taken : world.step heldReleases timed = some next) :
    RuntimeHealthInner.HealthAdvances world.inner next.inner := by
  obtain ⟨-, held, rfl⟩ := step_eq_some taken
  exact RuntimeHealthInner.perform_advances held

/-! ## The guarantees hold -/

section Guarantees

open RuntimeHealthInner

variable {world : HealthWorld}

theorem normal_iff (follows : world.TableFollows) {now : Nat} (later : world.clock ≤ now)
    (engineId : String) :
    (world.inner.acquireAt engineId now).2 = .permit .normal ↔
      (world.ledger engineId).failures = 0 := by
  have next := (follows engineId).promoted later
  rw [acquireAt_access]
  generalize promoted now (world.inner.circuits engineId) = circuit at next
  rcases circuit with _ | _ | _ | _
  case none => exact iff_of_true rfl next.1
  all_goals
    apply iff_of_false
    · intro granted
      cases granted
    · exact next.1.ne'

theorem held_acquire_denied (follows : world.TableFollows) {now : Nat} (later : world.clock ≤ now)
    {engineId : String} (held : (world.ledger engineId).probeHeld = true) :
    ∃ reason, (world.inner.acquireAt engineId now).2 = .denied reason := by
  have next := (follows engineId).promoted later
  rw [acquireAt_access]
  generalize promoted now (world.inner.circuits engineId) = circuit at next
  rcases circuit with _ | _ | _ | _
  case none => exact absurd held (Bool.eq_false_iff.mp next.2)
  case some.probing => exact ⟨_, rfl⟩
  all_goals exact absurd held (Bool.eq_false_iff.mp next.2.2.1)

theorem held_request_fails (follows : world.TableFollows) {engineId : String}
    (held : (world.ledger engineId).probeHeld = true) :
    ∃ message, world.inner.requestProbe engineId = (world.inner, .error message) := by
  have tracks := follows engineId
  rw [requestProbe]
  rcases found : world.inner.circuits engineId with _ | _ | _ | ⟨failures, reason⟩
  case some.probing =>
    exact ⟨_, Prod.ext (insert_remove_self found) rfl⟩
  all_goals rw [found] at tracks
  case none => exact absurd held (Bool.eq_false_iff.mp tracks.2)
  all_goals exact absurd held (Bool.eq_false_iff.mp tracks.2.2.1)

theorem cooldown_denied (follows : world.TableFollows) {now : Nat} (later : world.clock ≤ now)
    {engineId : String} (failed : 0 < (world.ledger engineId).failures)
    (unrequested : (world.ledger engineId).probeRequested = false)
    (early : now < (world.ledger engineId).deadline) :
    ∃ reason, (world.inner.acquireAt engineId now).2 = .denied reason := by
  have next := (follows engineId).promoted later
  rw [acquireAt_access]
  generalize promoted now (world.inner.circuits engineId) = circuit at next
  rcases circuit with _ | _ | _ | _
  case none => exact absurd next.1 failed.ne'
  case some.ready =>
    rcases next.2.2.2 with requested | elapsed
    · exact absurd requested (Bool.eq_false_iff.mp unrequested)
    · exact absurd elapsed (Nat.not_le_of_lt early)
  all_goals exact ⟨_, rfl⟩

theorem failuresOf_promoted (now : Nat) (circuit : Option CircuitState) :
    failuresOf (promoted now circuit) = failuresOf circuit := by
  rcases circuit with _ | ⟨failures, reason, retryAt⟩ | _ | _
  case some.opened =>
    rw [promoted]
    split
    all_goals rfl
  all_goals rfl

/-- Promotion, release and request keep the count. -/
theorem failuresOf_perform {inner : RuntimeHealthInner} {now : Nat} {call : HealthCall}
    {engineId : String} (held : call.releasesHeldProbe inner = true)
    (noFailure : ∀ reason, call ≠ .recordFailure engineId reason)
    (noSuccess : call ≠ .recordSuccess engineId .recoveryProbe) :
    failuresOf ((inner.perform now call).1.circuits engineId) =
      failuresOf (inner.circuits engineId) := by
  rw [circuits_perform]
  split
  · rename_i on
    cases call with
    | acquire named =>
        rw [← failuresOf_promoted now (inner.circuits engineId), HealthCall.circuitAfter]
        rcases promoted now (inner.circuits engineId) with _ | _ | _ | _
        all_goals rfl
    | recordFailure named reason =>
        obtain rfl := List.mem_singleton.mp on
        exact absurd rfl (noFailure reason)
    | recordSuccess named permit =>
        obtain rfl := List.mem_singleton.mp on
        cases permit with
        | normal => rfl
        | recoveryProbe => exact absurd rfl noSuccess
    | releaseProbe named =>
        obtain rfl := List.mem_singleton.mp on
        rw [HealthCall.releasesHeldProbe] at held
        generalize inner.circuits engineId = circuit at held
        rcases circuit with _ | _ | _ | _
        case none => rfl
        case some.probing => rfl
        all_goals exact absurd held Bool.false_ne_true
    | requestProbe named =>
        rcases inner.circuits engineId with _ | _ | _ | _
        all_goals rfl
    | snapshot baseGeneration inventory => exact failuresOf_promoted now _
    | statuses inventory disabledEngineIds => exact failuresOf_promoted now _
  · rfl

theorem saturatingAdd_cancel {limit base first second : Nat}
    (same : saturatingAdd limit base first = saturatingAdd limit base second)
    (below : saturatingAdd limit base first < limit) : first = second ∧ first < limit := by
  simp only [saturatingAdd] at same below
  omega

/-- Equal circuits project equal health onto a descriptor. -/
theorem project_eq {first second : RuntimeHealthInner} {descriptor : EngineDescriptor}
    (same : first.projection descriptor.id = second.projection descriptor.id) :
    first.project descriptor = second.project descriptor := by
  rw [projection, projection] at same
  rw [project, project]
  generalize first.circuits descriptor.id = one at same
  generalize second.circuits descriptor.id = other at same
  rcases one with _ | one
  all_goals rcases other with _ | other
  case none.none => rfl
  case some.some =>
    exact congrArg (fun health => { descriptor with health := health }) (Option.some.inj same)
  all_goals cases same

/-- **One generation, one projected health.** -/
theorem snapshots_agree {first second : TimedCall} {base : Nat}
    {inventory again : List EngineDescriptor} {between : List TimedCall} {last : HealthWorld}
    (firstCall : first.call = .snapshot base inventory)
    (run : runSteps (HealthWorld.step heldReleases) world (first :: between) = some last)
    (same : (world.inner.snapshotAt base inventory first.now).2.generation =
      (last.inner.snapshotAt base again second.now).2.generation)
    (below : (world.inner.snapshotAt base inventory first.now).2.generation < u64Max) :
    (∀ engineId, (world.inner.snapshotAt base inventory first.now).1.projection engineId =
        (last.inner.snapshotAt base again second.now).1.projection engineId) ∧
      (inventory = again → (world.inner.snapshotAt base inventory first.now).2.engines =
        (last.inner.snapshotAt base again second.now).2.engines) := by
  obtain ⟨next, taken, rest⟩ := runSteps_cons run
  obtain ⟨-, -, rfl⟩ := HealthWorld.step_eq_some taken
  have start : (world.performed first).inner =
      (world.inner.snapshotAt base inventory first.now).1 := by
    rw [HealthWorld.performed, firstCall]
    rfl
  -- from the first snapshot to the second, the generation follows the projections
  have path : Advances (fun state : HealthWorld => state.inner.generation)
      (fun state => state.inner.projection) u64Max (world.performed first) last :=
    Advances.run (fun state label further step =>
      have advances := HealthWorld.step_advances state label further step
      ⟨advances.stamp_le, advances.stamp_lt⟩) rest
  have between_advances : HealthAdvances (world.performed first).inner last.inner :=
    ⟨path.stamp_le, path.stamp_lt⟩
  have held : (HealthCall.snapshot base again).releasesHeldProbe last.inner = true := rfl
  have whole : HealthAdvances (world.inner.snapshotAt base inventory first.now).1
      (last.inner.snapshotAt base again second.now).1 :=
    start ▸ between_advances.trans (perform_advances held)
  obtain ⟨sameStamp, unsaturated⟩ := saturatingAdd_cancel same below
  have sameView := whole.view_eq sameStamp unsaturated
  refine ⟨fun engineId => congrFun sameView engineId, ?_⟩
  rintro rfl
  rw [snapshotAt_engines, snapshotAt_engines]
  refine List.map_congr_left fun descriptor _ => project_eq (congrFun sameView descriptor.id)

end Guarantees

/-- **Every run of held releases keeps the circuit breaker's promises.** -/
theorem circuit_breaker_guarantees (labels : List TimedCall) (world : HealthWorld)
    (run : runSteps (HealthWorld.step heldReleases) .new labels = some world) :
    CircuitGuarantees heldReleases world where
  frame now call engineId off := by
    rw [RuntimeHealthInner.circuits_perform, if_neg off]
  normal now engineId later := normal_iff (HealthWorld.run_tableFollows run) later engineId
  held_denied now engineId later := held_acquire_denied (HealthWorld.run_tableFollows run) later
  held_requested engineId := held_request_fails (HealthWorld.run_tableFollows run)
  cooldown now engineId later := cooldown_denied (HealthWorld.run_tableFollows run) later
  normal_success engineId := rfl
  failures_counted engineId := (HealthWorld.run_tableFollows run engineId).failures_eq
  failures_kept now call engineId held := failuresOf_perform held
  generation_le now call held := (RuntimeHealthInner.perform_advances held).stamp_le
  generation_lt now call engineId held changed :=
    (RuntimeHealthInner.perform_advances held).stamp_lt fun same =>
      changed (congrFun same engineId)
  snapshots first second base inventory again between last firstCall _ between_run _ :=
    snapshots_agree firstCall between_run

/-- A failure, a recovery probe after the cooldown, and its release. -/
def releasedProbeRun : List TimedCall :=
  [⟨0, .recordFailure "dectalk" "helper exited"⟩, ⟨5000000000, .acquire "dectalk"⟩,
    ⟨5000000000, .releaseProbe "dectalk"⟩]

theorem released_probe_keeps_guarantees :
    ∃ world, runSteps (HealthWorld.step heldReleases) .new releasedProbeRun = some world ∧
      CircuitGuarantees heldReleases world ∧ (world.ledger "dectalk").failures = 1 :=
  ⟨_, rfl, circuit_breaker_guarantees releasedProbeRun _ rfl, rfl⟩

/-- A release of an open circuit grants the failed engine normal access at once. -/
theorem released_open_circuit_is_dropped :
    ¬ ∀ (labels : List TimedCall) (world : HealthWorld),
      runSteps (HealthWorld.step anyRelease) .new labels = some world →
      CircuitGuarantees anyRelease world := by
  intro every
  have guarantees := every
    [⟨0, .recordFailure "dectalk" "helper exited"⟩, ⟨0, .releaseProbe "dectalk"⟩] _ rfl
  have granted := (guarantees.normal 0 "dectalk" le_rfl).mp rfl
  exact absurd granted Nat.one_ne_zero

end Omnivox.Engines
