import Mathlib
import Omnivox.Engines.EngineRegistry
import Omnivox.Engines.VoiceDefinitions
import Omnivox.Text.Whitespace

/-!
# The session routing policy

A client replaces the complete policy under a generation. Local disablement is a floor: the
registry carries that every locally disabled engine stays disabled, whatever is registered,
and so does every engine that the accepted policy disables.
-/

set_option autoImplicit false

namespace Omnivox.Engines

open Foundations

/-- Global engine order and administrative disablement for one server session. -/
structure RoutingPolicy where
  preferredEngineIds : List String
  fallbackEngineIds : List String
  disabledEngineIds : List String
  deriving Repr, DecidableEq

/-- Result of an atomic routing-policy replacement or idempotent retry. -/
structure RoutingPolicyRegistration where
  routingPolicyGeneration : Nat
  policy : RoutingPolicy
  deriving Repr, DecidableEq

/-- Validation and generation errors that leave the policy untouched. -/
inductive RoutingPolicyError where
  | staleGeneration (current received : Nat)
  | generationConflict (generation : Nat)
  | invalidEngineId (field : String)
  | duplicateEngine (field engineId : String)
  deriving Repr, DecidableEq

def validPolicyEngineId (engineId : String) : Bool :=
  !(engineId.isEmpty || MAX_ENGINE_ID_BYTES < engineId.utf8ByteSize ||
    engineId.toList.any Text.isWhitespace)

/-- Check the identifiers of one field, after those seen so far. -/
def validateField (field : String) : List String → List String → Except RoutingPolicyError Unit
  | _, [] => .ok ()
  | seen, engineId :: rest => do
      ensure (validPolicyEngineId engineId) (.invalidEngineId field)
      ensure (!seen.contains engineId) (.duplicateEngine field engineId)
      validateField field (engineId :: seen) rest

def validatePolicy (policy : RoutingPolicy) : Except RoutingPolicyError Unit := do
  validateField "preferred_engine_ids" [] policy.preferredEngineIds
  validateField "fallback_engine_ids" [] policy.fallbackEngineIds
  validateField "disabled_engine_ids" [] policy.disabledEngineIds

/-- Add the engines that are missing. -/
def addMissing (engines missing : List String) : List String :=
  missing.foldl (fun engines engine =>
    if engines.contains engine then engines else engines ++ [engine]) engines

theorem mem_addMissing {engines missing : List String} {engine : String} :
    engine ∈ addMissing engines missing ↔ engine ∈ engines ∨ engine ∈ missing := by
  induction missing generalizing engines with
  | nil => simp [addMissing]
  | cons first rest ih =>
      have unfolded : addMissing engines (first :: rest) =
          addMissing (if engines.contains first then engines else engines ++ [first]) rest := rfl
      rw [unfolded, ih, List.mem_cons]
      split
      · rename_i present
        rw [List.contains_eq_mem, decide_eq_true_eq] at present
        constructor
        · rintro (before | later)
          · exact Or.inl before
          · exact Or.inr (Or.inr later)
        · rintro (before | rfl | later)
          · exact Or.inl before
          · exact Or.inl present
          · exact Or.inr later
      · rw [List.mem_append, List.mem_singleton, or_assoc]

/-- Reader-thread-owned routing policy and client generation. Local disablement is never
lifted. -/
structure RoutingPolicyRegistry where
  generation : Nat
  configured : Bool
  policy : RoutingPolicy
  localDisabled : List String
  localFallback : Option (List String)
  sessionPolicy : Option RoutingPolicy
  floor : ∀ engine ∈ localDisabled, engine ∈ policy.disabledEngineIds
  session : ∀ given, sessionPolicy = some given →
    ∀ engine ∈ given.disabledEngineIds, engine ∈ policy.disabledEngineIds
  deriving DecidableEq

namespace RoutingPolicyRegistry

/-- Seed ordinary startup. Only local disablement remains a floor after replacement. -/
def withLocalPolicy (startupPreferredEngineId : String) (policy : LocalRoutingPolicy) :
    RoutingPolicyRegistry where
  generation := 0
  configured := false
  policy :=
    { preferredEngineIds := policy.preferredEngineIds.getD [startupPreferredEngineId]
      fallbackEngineIds := policy.fallbackEngineIds.getD []
      disabledEngineIds := policy.disabledEngineIds }
  localDisabled := policy.disabledEngineIds
  localFallback := policy.fallbackEngineIds
  sessionPolicy := none
  floor _ member := member
  session _ given := nomatch given

def registration (registry : RoutingPolicyRegistry) : RoutingPolicyRegistration where
  routingPolicyGeneration := registry.generation
  policy := registry.policy

/-- The registry under a new session policy. -/
def replaced (registry : RoutingPolicyRegistry) (generation : Nat) (policy : RoutingPolicy) :
    RoutingPolicyRegistry where
  generation := generation
  configured := true
  policy := { policy with
    disabledEngineIds := addMissing policy.disabledEngineIds registry.localDisabled }
  localDisabled := registry.localDisabled
  localFallback := registry.localFallback
  sessionPolicy := some policy
  floor _ member := mem_addMissing.mpr (Or.inr member)
  session _ given _ member := mem_addMissing.mpr (Or.inl (Option.some.inj given ▸ member))

/-- Atomically replace the complete policy. -/
def register (registry : RoutingPolicyRegistry) (generation : Nat) (policy : RoutingPolicy) :
    Outcome RoutingPolicyRegistry RoutingPolicyError RoutingPolicyRegistration :=
  if generation < registry.generation then
    (registry, .error (.staleGeneration registry.generation generation))
  else
    match validatePolicy policy with
    | .error error => (registry, .error error)
    | .ok _ =>
        if generation = registry.generation ∧ registry.configured = true then
          if registry.sessionPolicy ≠ some policy then
            (registry, .error (.generationConflict generation))
          else (registry, .ok registry.registration)
        else
          let next := registry.replaced generation policy
          (next, .ok next.registration)

/-- Combine independent engine order with registration-owned voice policy. -/
def effectiveFallbackPolicy (registry : RoutingPolicyRegistry) (base : FallbackPolicy) :
    FallbackPolicy :=
  { base with
    preferredEngines := registry.policy.preferredEngineIds
    fallbackEngines :=
      if registry.configured then registry.policy.fallbackEngineIds
      else registry.localFallback.getD base.fallbackEngines }

end RoutingPolicyRegistry

/-- The descriptor, unavailable if the engine is disabled. -/
def projectDescriptor (disabledEngineIds : List String) (descriptor : EngineDescriptor) :
    EngineDescriptor :=
  if disabledEngineIds.contains descriptor.id then
    { descriptor with availability := .unavailable "disabled by runtime routing policy" }
  else descriptor

/-- Mark configured disabled engines unavailable without losing their order. -/
def RoutingPolicyRegistry.projectInventory (registry : RoutingPolicyRegistry)
    (inventory : List EngineDescriptor) : List EngineDescriptor :=
  inventory.map (projectDescriptor registry.policy.disabledEngineIds)

/-- Combine base and health inventory generation with policy generation. -/
def RoutingPolicyRegistry.inventoryGeneration (registry : RoutingPolicyRegistry)
    (baseGeneration : Nat) : Nat :=
  saturatingAdd u64Max baseGeneration registry.generation

/-! ## Registrations -/

namespace RoutingPolicyRegistry

variable {registry : RoutingPolicyRegistry} {generation : Nat} {policy : RoutingPolicy}

/-- **A registration that fails changes nothing.** -/
theorem register_error {error : RoutingPolicyError}
    (failed : (registry.register generation policy).2 = .error error) :
    (registry.register generation policy).1 = registry := by
  rw [register] at failed ⊢
  split
  · rfl
  · rename_i current
    rw [if_neg current] at failed
    split
    · rfl
    · rename_i validated
      rw [validated] at failed
      simp only at failed
      split
      · split
        · rfl
        · rfl
      · rename_i fresh
        rw [if_neg fresh] at failed
        cases failed

/-- What an accepted registration leaves: itself, under its generation. -/
theorem register_ok {registration : RoutingPolicyRegistration}
    (accepted : (registry.register generation policy).2 = .ok registration) :
    validatePolicy policy = .ok () ∧
      (registry.register generation policy).1.generation = generation ∧
      (registry.register generation policy).1.configured = true ∧
      (registry.register generation policy).1.sessionPolicy = some policy ∧
      registration = (registry.register generation policy).1.registration := by
  rw [register] at accepted ⊢
  split
  · rename_i stale
    rw [if_pos stale] at accepted
    cases accepted
  · rename_i current
    rw [if_neg current] at accepted
    split
    · rename_i validated
      rw [validated] at accepted
      cases accepted
    · rename_i validated
      rw [validated] at accepted
      simp only at accepted
      split
      · rename_i same
        rw [if_pos same] at accepted
        split
        · rename_i other
          rw [if_pos other] at accepted
          cases accepted
        · rename_i agrees
          rw [if_neg agrees] at accepted
          cases accepted
          exact ⟨validated, same.1.symm, same.2, not_not.mp agrees, rfl⟩
      · rename_i fresh
        rw [if_neg fresh] at accepted
        cases accepted
        exact ⟨validated, rfl, rfl, rfl, rfl⟩

/-- **An identical retry succeeds and changes nothing.** -/
theorem register_again {registration : RoutingPolicyRegistration}
    (accepted : (registry.register generation policy).2 = .ok registration) :
    (registry.register generation policy).1.register generation policy =
      ((registry.register generation policy).1, .ok registration) := by
  obtain ⟨validated, sameGeneration, configured, samePolicy, answered⟩ := register_ok accepted
  rw [answered]
  generalize (registry.register generation policy).1 = next at *
  rw [register, if_neg (Nat.not_lt_of_le sameGeneration.le), validated]
  simp only
  rw [if_pos ⟨sameGeneration.symm, configured⟩, if_neg (not_not_intro samePolicy)]

/-- A registration keeps the local floor as it is. -/
theorem register_localDisabled :
    (registry.register generation policy).1.localDisabled = registry.localDisabled := by
  cases answered : (registry.register generation policy).2 with
  | error error => rw [register_error answered]
  | ok registration =>
      rw [register]
      split
      · rfl
      · split
        · rfl
        · split
          · split
            · rfl
            · rfl
          · rfl

/-- Registrations one after another. -/
def registerAll (registry : RoutingPolicyRegistry) (registrations : List (Nat × RoutingPolicy)) :
    RoutingPolicyRegistry :=
  registrations.foldl (fun registry next => (registry.register next.1 next.2).1) registry

theorem registerAll_localDisabled (registrations : List (Nat × RoutingPolicy)) :
    (registry.registerAll registrations).localDisabled = registry.localDisabled := by
  induction registrations generalizing registry with
  | nil => rfl
  | cons next rest ih => exact ih.trans register_localDisabled

end RoutingPolicyRegistry

end Omnivox.Engines
