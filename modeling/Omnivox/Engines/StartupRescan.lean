import Mathlib
import Omnivox.Engines.EngineRegistry
import Omnivox.Foundations.Versions

/-!
# Rescans of startup failures

An engine that failed to start stays registered without a handle, and the registry may
keep the factory that is to be tried again. A rescan marks the entry and runs the factory
on a thread of its own; its result is published under one lock. A rescanned engine comes
with a valid descriptor under the same identifier, so the registry stays valid.

Every change of the registry advances its generation (`register_advances`,
`requestRescan_advances`, `finishRescan_advances`).
-/

set_option autoImplicit false

namespace Omnivox.Engines

open Foundations

/-! ## Changing an entry -/

/-- A change of the entry of one engine that keeps its identifier and its validity. -/
structure EntryChange (Engine : Type) (engineId : String) where
  change : RegisteredEngine Engine → RegisteredEngine Engine
  same_id : ∀ entry, entry.descriptor.id = engineId → (change entry).descriptor.id = engineId
  valid : ∀ entry, entry.descriptor.id = engineId → ValidDescriptor entry.descriptor →
    ValidDescriptor (change entry).descriptor

namespace EntryChange

variable {Engine : Type} {engineId : String}

/-- The change, of the entry that it is about. -/
def on (change : EntryChange Engine engineId) (entry : RegisteredEngine Engine) :
    RegisteredEngine Engine :=
  if entry.descriptor.id = engineId then change.change entry else entry

theorem on_id (change : EntryChange Engine engineId) (entry : RegisteredEngine Engine) :
    (change.on entry).descriptor.id = entry.descriptor.id := by
  rw [on]
  split
  · rename_i same
    rw [change.same_id entry same, same]
  · rfl

theorem on_valid (change : EntryChange Engine engineId) {entry : RegisteredEngine Engine}
    (valid : ValidDescriptor entry.descriptor) : ValidDescriptor (change.on entry).descriptor := by
  rw [on]
  split
  · rename_i same
    exact change.valid entry same valid
  · exact valid

end EntryChange

namespace EngineRegistry

variable {Engine : Type} {engineId : String}

/-- Change the entry of an engine that is not disabled, and advance the generation. -/
def update (registry : EngineRegistry Engine) (change : EntryChange Engine engineId)
    (permitted : registry.selectionPermissions.disabled engineId = false) :
    EngineRegistry Engine :=
  { registry with
    generation := saturatingAdd u64Max registry.generation 1
    entries := registry.entries.map change.on
    distinct := by
      have same : (registry.entries.map change.on).map (fun entry => entry.descriptor.id) =
          registry.entries.map fun entry => entry.descriptor.id := by
        rw [List.map_map]
        exact List.map_congr_left fun entry _ => change.on_id entry
      rw [same]
      exact registry.distinct
    valid := by
      intro entry member
      obtain ⟨before, listed, rfl⟩ := List.mem_map.mp member
      exact change.on_valid (registry.valid before listed)
    excluded := by
      intro entry member disabled
      obtain ⟨before, listed, rfl⟩ := List.mem_map.mp member
      rw [change.on_id] at disabled
      have other : before.descriptor.id ≠ engineId := by
        rintro rfl
        exact absurd disabled (Bool.eq_false_iff.mp permitted)
      rw [EntryChange.on, if_neg other]
      exact registry.excluded before listed disabled }

/-- What a registration leaves of the rest of the registry. -/
theorem insert_ok {registry next : EngineRegistry Engine} {entry : RegisteredEngine Engine}
    (inserted : registry.insert entry = .ok next) :
    next.generation = saturatingAdd u64Max registry.generation 1 ∧
      next.selectionPermissions = registry.selectionPermissions := by
  rw [insert] at inserted
  split at inserted
  · cases inserted
  · dsimp only at inserted
    split at inserted
    · cases inserted
    · cases inserted
      exact ⟨rfl, rfl⟩

end EngineRegistry

/-! ## The registry with its startup failures -/

/-- What the registry keeps of a failed startup: whether it has a factory to retry, and
whether a retry is in flight. -/
structure StartupFailure where
  retry : Bool
  rescanning : Bool
  deriving Repr, DecidableEq

/-- A rescanned engine, under a descriptor that passed its checks. -/
structure Rescanned (Engine : Type) (engineId : String) where
  engine : Engine
  descriptor : EngineDescriptor
  same_id : descriptor.id = engineId
  valid : ValidDescriptor descriptor

/-- The engines of a session with the failures of their startup. A disabled engine is never
rescanned. -/
structure RescanRegistry (Engine : Type) where
  registry : EngineRegistry Engine
  failures : String → StartupFailure
  generation_le : registry.generation ≤ u64Max
  permitted : ∀ engineId, (failures engineId).rescanning = true →
    registry.selectionPermissions.disabled engineId = false

namespace RescanRegistry

variable {Engine : Type}

def generation (registry : RescanRegistry Engine) : Nat := registry.registry.generation

def inventory (registry : RescanRegistry Engine) : List EngineDescriptor :=
  registry.registry.inventory

/-- A session without engines, under its local permissions. -/
def start (policy : LocalRoutingPolicy) (permissions : EngineSelectionPermissions) :
    RescanRegistry Engine where
  registry := ((EngineRegistry.new.configureLocalSelection policy permissions).toOption).getD .new
  failures := fun _ => ⟨false, false⟩
  generation_le := Nat.zero_le _
  permitted _ rescanning := nomatch rescanning

/-- Add one engine, with the factory of a failed startup if it has one. A disabled engine
loses it. -/
def register (registry : RescanRegistry Engine) (entry : RegisteredEngine Engine)
    (retry : Bool) : Outcome (RescanRegistry Engine) EngineRegistryError Unit :=
  match inserted : registry.registry.insert entry with
  | .error error => (registry, .error error)
  | .ok next =>
      let kept := retry && !registry.registry.selectionPermissions.disabled entry.descriptor.id
      ({ registry := next
         failures := Function.update registry.failures entry.descriptor.id ⟨kept, false⟩
         generation_le := by
           rw [(EngineRegistry.insert_ok inserted).1]
           exact saturatingAdd_le _ _ _
         permitted := by
           intro engineId rescanning
           rw [(EngineRegistry.insert_ok inserted).2]
           rw [Function.update_apply] at rescanning
           split at rescanning
           · cases rescanning
           · exact registry.permitted engineId rescanning }, .ok ())

/-- The registry after a change of one entry and of what is kept of its failure. -/
def changed (registry : RescanRegistry Engine) {engineId : String}
    (change : EntryChange Engine engineId)
    (permitted : registry.registry.selectionPermissions.disabled engineId = false)
    (failure : StartupFailure) : RescanRegistry Engine where
  registry := registry.registry.update change permitted
  failures := Function.update registry.failures engineId failure
  generation_le := saturatingAdd_le _ _ _
  permitted := by
    intro other rescanning
    rw [Function.update_apply] at rescanning
    split at rescanning
    · rename_i same
      rw [same]
      exact permitted
    · exact registry.permitted other rescanning

/-- The entry is unavailable for the given reason. -/
def unavailableChange (Engine : Type) (engineId reason : String) : EntryChange Engine engineId where
  change entry :=
    { entry with descriptor := { entry.descriptor with availability := .unavailable reason } }
  same_id _ same := same
  valid _ _ valid := valid.of_same rfl rfl rfl

/-- The entry failed for the given reason. -/
def failedChange (Engine : Type) (engineId reason : String) : EntryChange Engine engineId where
  change entry :=
    { entry with descriptor := { entry.descriptor with
        availability := .unavailable reason
        health := .failed reason } }
  same_id _ same := same
  valid _ _ valid := valid.of_same rfl rfl rfl

/-- The handle and the descriptor become visible together. -/
def rescannedChange {engineId : String} (rescanned : Rescanned Engine engineId) :
    EntryChange Engine engineId where
  change _ := { engine := some rescanned.engine, descriptor := rescanned.descriptor }
  same_id _ _ := rescanned.same_id
  valid _ _ _ := rescanned.valid

/-- Publish the result of a rescan in flight. -/
def finishRescan (registry : RescanRegistry Engine) {engineId : String}
    (rescanning : (registry.failures engineId).rescanning = true) :
    Except String (Rescanned Engine engineId) → RescanRegistry Engine
  | .ok rescanned =>
      registry.changed (rescannedChange rescanned) (registry.permitted engineId rescanning)
        ⟨false, false⟩
  | .error reason =>
      registry.changed (failedChange Engine engineId reason)
        (registry.permitted engineId rescanning)
        { registry.failures engineId with rescanning := false }

/-- Retry one startup failure, with at most one retry per engine in flight. The thread that
runs the factory may fail to start. -/
def requestRescan (registry : RescanRegistry Engine) (engineId : String)
    (spawnError : Option String) : Outcome (RescanRegistry Engine) String Unit :=
  if disabled : registry.registry.selectionPermissions.disabled engineId = true then
    (registry, .error "disabled by local engine configuration")
  else if !registry.inventory.any fun engine => engine.id == engineId then
    (registry, .error s!"unknown engine {engineId}")
  else if (registry.failures engineId).rescanning then
    (registry, .error s!"engine {engineId} rescan is already in progress")
  else if !(registry.failures engineId).retry then
    (registry, .error s!"engine {engineId} has no startup failure to rescan")
  else
    let marked := registry.changed
      (unavailableChange Engine engineId "Runtime rescan in progress")
      (Bool.eq_false_iff.mpr disabled) ⟨true, true⟩
    match spawnError with
    | none => (marked, .ok ())
    | some error =>
        let reason := s!"Could not start engine rescan: {error}"
        have rescanning : (marked.failures engineId).rescanning = true := by
          simp [marked, changed]
        (marked.finishRescan rescanning (.error reason), .error reason)

/-- What a factory came to, after the checks of its engine. A panic is an error as well. -/
def rescanResult (engineId : String) (startup : Except String (Engine × EngineDescriptor)) :
    Except String (Rescanned Engine engineId) :=
  match startup with
  | .error reason => .error reason
  | .ok (engine, descriptor) =>
      match checked : validateDescriptor descriptor with
      | .error error => .error error.message
      | .ok _ =>
          if usable : descriptor.id = engineId ∧ descriptor.canSynthesize = true then
            .ok ⟨engine, descriptor, usable.1, validateDescriptor_ok checked⟩
          else .error "Rescanned engine returned an unavailable or mismatched descriptor"

/-! ## The generation of the registry -/

/-- The generation follows the inventory. -/
abbrev RegistryAdvances : RescanRegistry Engine → RescanRegistry Engine → Prop :=
  Advances generation inventory u64Max

variable {registry : RescanRegistry Engine} {engineId : String}

/-- A change that comes with an advanced generation. -/
theorem RegistryAdvances.of_advanced {next : RescanRegistry Engine}
    (advanced : next.generation = saturatingAdd u64Max registry.generation 1) :
    RegistryAdvances registry next where
  stamp_le := by
    have bound : registry.generation ≤ u64Max := registry.generation_le
    rw [advanced, saturatingAdd]
    omega
  stamp_lt _ below := by
    rw [advanced, saturatingAdd]
    omega

theorem register_advances (entry : RegisteredEngine Engine) (retry : Bool) :
    RegistryAdvances registry (registry.register entry retry).1 := by
  rw [register]
  split
  · exact Advances.refl registry
  · rename_i next inserted
    exact RegistryAdvances.of_advanced (EngineRegistry.insert_ok inserted).1

theorem changed_advances (change : EntryChange Engine engineId)
    (permitted : registry.registry.selectionPermissions.disabled engineId = false)
    (failure : StartupFailure) :
    RegistryAdvances registry (registry.changed change permitted failure) :=
  RegistryAdvances.of_advanced rfl

theorem finishRescan_advances (rescanning : (registry.failures engineId).rescanning = true)
    (result : Except String (Rescanned Engine engineId)) :
    RegistryAdvances registry (registry.finishRescan rescanning result) := by
  cases result with
  | ok rescanned => exact changed_advances _ _ _
  | error reason => exact changed_advances _ _ _

theorem requestRescan_advances (spawnError : Option String) :
    RegistryAdvances registry (registry.requestRescan engineId spawnError).1 := by
  rw [requestRescan]
  split
  · exact Advances.refl registry
  · split
    · exact Advances.refl registry
    · split
      · exact Advances.refl registry
      · split
        · exact Advances.refl registry
        · cases spawnError with
          | none => exact changed_advances _ _ _
          | some error =>
              dsimp only
              exact (changed_advances _ _ _).trans (finishRescan_advances _ _)

end RescanRegistry

end Omnivox.Engines
