import Mathlib
import Omnivox.Engines.NativeChoices
import Omnivox.Engines.Resolution
import Omnivox.Foundations.Versions

/-!
# The logical voice registry

A session registers complete sets of definitions under a generation. Three admission paths
normalize and validate differently and share one generation domain. A generation names one
content: a retry of the content is accepted and resolves it again, other content is a
conflict, and an older generation is stale.

The content follows the generation (`perform_advances`), the definitions are the projection
of what was registered, and every definition has one binding (`Coherent`).
-/

set_option autoImplicit false

namespace Omnivox.Engines

open Foundations

/-- Resolution state returned for each registered logical voice. -/
inductive LogicalVoiceBinding where
  | resolved (resolution : VoiceResolution)
  | unresolved (error : VoiceResolutionError)
  deriving Repr, DecidableEq

namespace LogicalVoiceBinding

def logicalVoiceId : LogicalVoiceBinding → String
  | .resolved resolution => resolution.logicalVoiceId
  | .unresolved error => error.logicalVoiceId

def isUnresolved : LogicalVoiceBinding → Bool
  | .resolved _ => false
  | .unresolved _ => true

end LogicalVoiceBinding

/-- Result of an atomic registry replacement or idempotent retry. -/
structure LogicalVoiceRegistration where
  registryGeneration : Nat
  bindings : List LogicalVoiceBinding
  deriving Repr, DecidableEq

structure NativeVoiceRegistration where
  registryGeneration : Nat
  definitionCount : Nat
  unresolvedLogicalVoiceIds : List String
  nativeStatus : List NativeChoiceStatus
  deriving Repr, DecidableEq

/-- Session state. Definitions remain client-owned. -/
structure LogicalVoiceRegistry where
  enginePermissions : EngineSelectionPermissions
  generation : Nat
  definitions : List LogicalVoiceDefinition
  registeredDefinitions : List RegisteredVoiceDefinition
  fallbackPolicy : FallbackPolicy
  bindings : List LogicalVoiceBinding
  deriving Repr, DecidableEq

/-- The encoded lengths of requests and acknowledgements. `none` does not encode. -/
structure NativeEncoding where
  request : VoiceRegistrationV3 → Option Nat
  acknowledgement : NativeVoiceRegistration → Option Nat

namespace LogicalVoiceRegistry

def withEnginePermissions (enginePermissions : EngineSelectionPermissions) :
    LogicalVoiceRegistry where
  enginePermissions := enginePermissions
  generation := 0
  definitions := []
  registeredDefinitions := []
  fallbackPolicy := .default
  bindings := []

/-- The binding of one definition. -/
def bind (registry : LogicalVoiceRegistry) (inventory : List EngineDescriptor)
    (fallbackPolicy : FallbackPolicy) (definition : LogicalVoiceDefinition) :
    LogicalVoiceBinding :=
  match resolveVoiceWithPermissions inventory definition fallbackPolicy none
      registry.enginePermissions with
  | .ok resolution => .resolved resolution
  | .error error => .unresolved error

def resolveWithPolicy (registry : LogicalVoiceRegistry) (inventory : List EngineDescriptor)
    (fallbackPolicy : FallbackPolicy) : LogicalVoiceRegistration where
  registryGeneration := registry.generation
  bindings := registry.definitions.map (registry.bind inventory fallbackPolicy)

/-- Resolve the current definitions again after inventory or health changes. -/
def resolveAll (registry : LogicalVoiceRegistry) (inventory : List EngineDescriptor) :
    LogicalVoiceRegistration :=
  registry.resolveWithPolicy inventory registry.fallbackPolicy

/-- Retain the bindings of a resolution. -/
def publish (registry : LogicalVoiceRegistry) (inventory : List EngineDescriptor) :
    LogicalVoiceRegistry × LogicalVoiceRegistration :=
  let registration := registry.resolveAll inventory
  ({ registry with bindings := registration.bindings }, registration)

/-- The end that `register` and `replace_definitions` share: compare under the current
generation, replace under a later one. -/
def commit (registry : LogicalVoiceRegistry) (generation : Nat)
    (registered : List RegisteredVoiceDefinition) (projection : List LogicalVoiceDefinition)
    (fallbackPolicy : FallbackPolicy) (inventory : List EngineDescriptor) :
    Outcome LogicalVoiceRegistry LogicalVoiceRegistryError LogicalVoiceRegistration :=
  if generation = registry.generation then
    if registered ≠ registry.registeredDefinitions ∨ fallbackPolicy ≠ registry.fallbackPolicy then
      (registry, .error (.generationConflict generation))
    else
      let published := registry.publish inventory
      (published.1, .ok published.2)
  else
    let replaced := { registry with
      generation := generation
      definitions := projection
      registeredDefinitions := registered
      fallbackPolicy := fallbackPolicy }
    let published := replaced.publish inventory
    (published.1, .ok published.2)

/-- The legacy admission: validate, then clamp. -/
def register (registry : LogicalVoiceRegistry) (generation : Nat)
    (definitions : List LogicalVoiceDefinition) (fallbackPolicy : FallbackPolicy)
    (inventory : List EngineDescriptor) :
    Outcome LogicalVoiceRegistry LogicalVoiceRegistryError LogicalVoiceRegistration :=
  if generation < registry.generation then
    (registry, .error (.staleGeneration registry.generation generation))
  else
    match validateRegistration definitions fallbackPolicy with
    | .error error => (registry, .error error)
    | .ok _ =>
        let clamped := definitions.map fun definition =>
          { definition with acss := definition.acss.clamped }
        registry.commit generation (clamped.map .legacy) clamped fallbackPolicy inventory

/-- Clamp or validate one definition, and project it. -/
def normalizeDefinition :
    RegisteredVoiceDefinition →
      Except ChoiceTuningError (RegisteredVoiceDefinition × LogicalVoiceDefinition)
  | .legacy definition =>
      let clamped := { definition with acss := definition.acss.clamped }
      .ok (.legacy clamped, clamped)
  | .layered definition => do
      definition.validate
      return (.layered definition, definition.legacyProjection)
  | .engineLayered definition =>
      .ok (.engineLayered definition, definition.commonProjection.legacyProjection)

/-- What `replace_definitions` checks before it compares generations. -/
def prepareReplacement (registry : LogicalVoiceRegistry) (generation : Nat)
    (definitions : List RegisteredVoiceDefinition) (fallbackPolicy : FallbackPolicy) :
    Except ChoiceTuningError (List (RegisteredVoiceDefinition × LogicalVoiceDefinition)) := do
  ensure (generation != 0) (.invalid "registry generation must be positive")
  ensure (registry.generation ≤ generation)
    (.registry (.staleGeneration registry.generation generation))
  ensure (definitions.length ≤ MAX_LOGICAL_VOICES)
    (.registry (.tooManyDefinitions definitions.length MAX_LOGICAL_VOICES))
  let normalized ← definitions.mapM normalizeDefinition
  (validateRegistration (normalized.map Prod.snd) fallbackPolicy).mapError .registry
  return normalized

def replaceDefinitions (registry : LogicalVoiceRegistry) (generation : Nat)
    (definitions : List RegisteredVoiceDefinition) (fallbackPolicy : FallbackPolicy)
    (inventory : List EngineDescriptor) :
    Outcome LogicalVoiceRegistry ChoiceTuningError LogicalVoiceRegistration :=
  match registry.prepareReplacement generation definitions fallbackPolicy with
  | .error error => (registry, .error error)
  | .ok normalized =>
      let committed := registry.commit generation (normalized.map Prod.fst)
        (normalized.map Prod.snd) fallbackPolicy inventory
      (committed.1, committed.2.mapError .registry)

/-- Mixed legacy and layered definitions. -/
def registerV2 (registry : LogicalVoiceRegistry) (generation : Nat)
    (definitions : List RegisteredVoiceDefinition) (fallbackPolicy : FallbackPolicy)
    (inventory : List EngineDescriptor) :
    Outcome LogicalVoiceRegistry ChoiceTuningError LogicalVoiceRegistration :=
  if definitions.any RegisteredVoiceDefinition.isEngineLayered then
    (registry, .error (.invalid "engine-layered definitions require v3 admission"))
  else registry.replaceDefinitions generation definitions fallbackPolicy inventory

/-- The native status of the engine-layered definitions. -/
def nativeStatus (snapshot : NativeCatalogueSnapshot) :
    RegisteredVoiceDefinition → Except NativeChoiceError (List NativeChoiceStatus)
  | .engineLayered definition => definition.statuses snapshot
  | _ => .ok []

/-- What `register_v3` checks before it works on a candidate. -/
def prepareV3 (encoding : NativeEncoding) (registry : LogicalVoiceRegistry)
    (request : VoiceRegistrationV3) (snapshot : NativeCatalogueSnapshot) :
    Except NativeChoiceError (List NativeChoiceStatus) := do
  ensure (!(request.registryGeneration != 0 && request.registryGeneration < registry.generation))
    (.common (.registry (.staleGeneration registry.generation request.registryGeneration)))
  request.validate encoding.request
  collectAll (nativeStatus snapshot) request.definitions

/-- The acknowledgement of a candidate. -/
def acknowledge (candidate : LogicalVoiceRegistry) (registration : LogicalVoiceRegistration)
    (nativeStatus : List NativeChoiceStatus) : NativeVoiceRegistration where
  registryGeneration := candidate.generation
  definitionCount := candidate.registeredDefinitions.length
  unresolvedLogicalVoiceIds := (registration.bindings.filter
    LogicalVoiceBinding.isUnresolved).map LogicalVoiceBinding.logicalVoiceId
  nativeStatus := nativeStatus

/-- The acknowledgement must be within the control bound. -/
def checkAcknowledgement (encoding : NativeEncoding) (result : NativeVoiceRegistration) :
    Except NativeChoiceError Unit := do
  let length ← orError (.common (.invalid "invalid native acknowledgement"))
    (encoding.acknowledgement result)
  ensure (length ≤ MAX_CONTROL_PAYLOAD_BYTES)
    (.common (.invalid "native acknowledgement exceeds control bound"))

/-- Pure admission against an immutable metadata snapshot: work on a candidate and swap. -/
def registerV3 (encoding : NativeEncoding) (registry : LogicalVoiceRegistry)
    (request : VoiceRegistrationV3) (snapshot : NativeCatalogueSnapshot) :
    Outcome LogicalVoiceRegistry NativeChoiceError NativeVoiceRegistration :=
  match prepareV3 encoding registry request snapshot with
  | .error error => (registry, .error error)
  | .ok status =>
      let replaced := registry.replaceDefinitions request.registryGeneration request.definitions
        request.fallbackPolicy snapshot.inventory
      match replaced.2 with
      | .error error => (registry, .error (.common error))
      | .ok registration =>
          let result := replaced.1.acknowledge registration status
          match checkAcknowledgement encoding result with
          | .error error => (registry, .error error)
          | .ok _ => (replaced.1, .ok result)

end LogicalVoiceRegistry

/-! ## Calls -/

inductive RegistryCall where
  | register (generation : Nat) (definitions : List LogicalVoiceDefinition)
      (fallbackPolicy : FallbackPolicy) (inventory : List EngineDescriptor)
  | registerV2 (generation : Nat) (definitions : List RegisteredVoiceDefinition)
      (fallbackPolicy : FallbackPolicy) (inventory : List EngineDescriptor)
  | registerV3 (request : VoiceRegistrationV3) (snapshot : NativeCatalogueSnapshot)

namespace RegistryCall

def generation : RegistryCall → Nat
  | .register generation _ _ _ => generation
  | .registerV2 generation _ _ _ => generation
  | .registerV3 request _ => request.registryGeneration

def fallbackPolicy : RegistryCall → FallbackPolicy
  | .register _ _ fallbackPolicy _ => fallbackPolicy
  | .registerV2 _ _ fallbackPolicy _ => fallbackPolicy
  | .registerV3 request _ => request.fallbackPolicy

def inventory : RegistryCall → List EngineDescriptor
  | .register _ _ _ inventory => inventory
  | .registerV2 _ _ _ inventory => inventory
  | .registerV3 _ snapshot => snapshot.inventory

/-- The clamp that every path makes of a legacy definition. -/
def normalizeLegacy : RegisteredVoiceDefinition → RegisteredVoiceDefinition
  | .legacy definition => .legacy { definition with acss := definition.acss.clamped }
  | other => other

/-- The content that a call carries. -/
def content : RegistryCall → List RegisteredVoiceDefinition
  | .register _ definitions _ _ => definitions.map fun definition =>
      normalizeLegacy (.legacy definition)
  | .registerV2 _ definitions _ _ => definitions.map normalizeLegacy
  | .registerV3 request _ => request.definitions.map normalizeLegacy

/-- The same request against another inventory. A v3 request keeps its snapshot. -/
def against (call : RegistryCall) (inventory : List EngineDescriptor) : RegistryCall :=
  match call with
  | .register generation definitions fallbackPolicy _ =>
      .register generation definitions fallbackPolicy inventory
  | .registerV2 generation definitions fallbackPolicy _ =>
      .registerV2 generation definitions fallbackPolicy inventory
  | .registerV3 request snapshot => .registerV3 request snapshot

end RegistryCall

/-- The error of any of the three paths. -/
inductive RegistryCallError where
  | registry (error : LogicalVoiceRegistryError)
  | choice (error : ChoiceTuningError)
  | native (error : NativeChoiceError)
  deriving Repr, DecidableEq

/-- The answer of any of the three paths. -/
inductive RegistryAnswer where
  | registration (registration : LogicalVoiceRegistration)
  | native (registration : NativeVoiceRegistration)
  deriving Repr, DecidableEq

namespace LogicalVoiceRegistry

def perform (encoding : NativeEncoding) (registry : LogicalVoiceRegistry) :
    RegistryCall → Outcome LogicalVoiceRegistry RegistryCallError RegistryAnswer
  | .register generation definitions fallbackPolicy inventory =>
      let result := registry.register generation definitions fallbackPolicy inventory
      (result.1, (result.2.mapError .registry).map .registration)
  | .registerV2 generation definitions fallbackPolicy inventory =>
      let result := registry.registerV2 generation definitions fallbackPolicy inventory
      (result.1, (result.2.mapError .choice).map .registration)
  | .registerV3 request snapshot =>
      let result := registerV3 encoding registry request snapshot
      (result.1, (result.2.mapError .native).map .native)

/-- The calls of a session, one after another. -/
def performAll (encoding : NativeEncoding) (registry : LogicalVoiceRegistry)
    (calls : List RegistryCall) : LogicalVoiceRegistry :=
  calls.foldl (fun registry call => (registry.perform encoding call).1) registry

end LogicalVoiceRegistry

/-! ## Bindings -/

namespace LogicalVoiceRegistry

theorem bind_logicalVoiceId (registry : LogicalVoiceRegistry) (inventory : List EngineDescriptor)
    (fallbackPolicy : FallbackPolicy) (definition : LogicalVoiceDefinition) :
    (registry.bind inventory fallbackPolicy definition).logicalVoiceId = definition.id := by
  have first := resolve_firstRealized inventory definition fallbackPolicy none
    registry.enginePermissions
  rw [LogicalVoiceRegistry.bind]
  cases resolved : resolveVoiceWithPermissions inventory definition fallbackPolicy none
      registry.enginePermissions with
  | ok resolution =>
      rw [resolved] at first
      obtain ⟨_, candidate, _, _, _, _, result⟩ := first
      exact congrArg VoiceResolution.logicalVoiceId result
  | error error =>
      rw [resolved] at first
      exact first.1

/-- One binding for each definition, in the same order. -/
theorem resolveAll_ids (registry : LogicalVoiceRegistry) (inventory : List EngineDescriptor) :
    (registry.resolveAll inventory).bindings.map LogicalVoiceBinding.logicalVoiceId =
      registry.definitions.map LogicalVoiceDefinition.id := by
  rw [resolveAll, resolveWithPolicy, List.map_map]
  refine List.map_congr_left fun definition _ => ?_
  exact bind_logicalVoiceId registry inventory registry.fallbackPolicy definition

end LogicalVoiceRegistry

/-! ## Admission -/

/-- What an accepted call makes of the registry. -/
structure Admitted (before : LogicalVoiceRegistry) (generation : Nat)
    (content : List RegisteredVoiceDefinition) (fallbackPolicy : FallbackPolicy)
    (inventory : List EngineDescriptor) (after : LogicalVoiceRegistry) : Prop where
  not_stale : before.generation ≤ generation
  permissions : after.enginePermissions = before.enginePermissions
  generation_eq : after.generation = generation
  content_eq : after.registeredDefinitions = content
  policy_eq : after.fallbackPolicy = fallbackPolicy
  retried : generation = before.generation → before.registeredDefinitions = content ∧
    before.fallbackPolicy = fallbackPolicy ∧ after.definitions = before.definitions
  replaced : generation ≠ before.generation →
    after.definitions = content.map RegisteredVoiceDefinition.projection
  distinct : ((content.map RegisteredVoiceDefinition.projection).map
    LogicalVoiceDefinition.id).Nodup
  resolved : after.bindings = (after.resolveAll inventory).bindings

namespace LogicalVoiceRegistry

section Commit

variable {registry after : LogicalVoiceRegistry} {generation : Nat}
  {registered : List RegisteredVoiceDefinition} {projection : List LogicalVoiceDefinition}
  {fallbackPolicy : FallbackPolicy} {inventory : List EngineDescriptor}
  {registration : LogicalVoiceRegistration}

theorem commit_error {error : LogicalVoiceRegistryError}
    (failed : (registry.commit generation registered projection fallbackPolicy inventory).2 =
      .error error) :
    (registry.commit generation registered projection fallbackPolicy inventory).1 = registry := by
  rw [commit] at failed ⊢
  split
  · rename_i same
    rw [if_pos same] at failed
    split
    · rfl
    · rename_i agrees
      rw [if_neg agrees] at failed
      cases failed
  · rename_i other
    rw [if_neg other] at failed
    cases failed

theorem commit_ok
    (committed : registry.commit generation registered projection fallbackPolicy inventory =
      (after, .ok registration)) (notStale : registry.generation ≤ generation)
    (projected : projection = registered.map RegisteredVoiceDefinition.projection)
    (distinct : (projection.map LogicalVoiceDefinition.id).Nodup) :
    Admitted registry generation registered fallbackPolicy inventory after ∧
      registration = after.resolveAll inventory := by
  rw [commit] at committed
  split at committed
  · rename_i same
    split at committed
    · cases committed
    · rename_i agrees
      rw [not_or, not_not, not_not] at agrees
      obtain ⟨content, policy⟩ := agrees
      cases committed
      refine ⟨⟨notStale, rfl, same.symm, content.symm, policy.symm, ?_, ?_, ?_, rfl⟩, rfl⟩
      · intro _
        exact ⟨content.symm, policy.symm, rfl⟩
      · intro other
        exact absurd same other
      · exact projected ▸ distinct
  · rename_i other
    cases committed
    refine ⟨⟨notStale, rfl, rfl, rfl, rfl, ?_, ?_, ?_, rfl⟩, rfl⟩
    · intro same
      exact absurd same other
    · intro _
      exact projected
    · exact projected ▸ distinct

/-- The content under its own generation is accepted again. -/
theorem commit_again (sameGeneration : registry.generation = generation)
    (sameContent : registry.registeredDefinitions = registered)
    (samePolicy : registry.fallbackPolicy = fallbackPolicy) :
    registry.commit generation registered projection fallbackPolicy inventory =
      ((registry.publish inventory).1, .ok (registry.publish inventory).2) := by
  rw [commit, if_pos sameGeneration.symm, if_neg]
  rw [not_or, not_not, not_not]
  exact ⟨sameContent.symm, samePolicy.symm⟩

end Commit

/-! ### Each path -/

/-- What normalization makes of the definitions, and their projections. -/
theorem mapM_normalizeDefinition {definitions : List RegisteredVoiceDefinition}
    {normalized : List (RegisteredVoiceDefinition × LogicalVoiceDefinition)}
    (result : definitions.mapM normalizeDefinition = .ok normalized) :
    normalized.map Prod.fst = definitions.map RegistryCall.normalizeLegacy ∧
      normalized.map Prod.snd =
        (normalized.map Prod.fst).map RegisteredVoiceDefinition.projection := by
  induction definitions generalizing normalized with
  | nil =>
      rw [List.mapM_nil] at result
      cases result
      exact ⟨rfl, rfl⟩
  | cons definition rest ih =>
      rw [List.mapM_cons, bind_eq_ok] at result
      obtain ⟨first, here, result⟩ := result
      rw [bind_eq_ok] at result
      obtain ⟨others, later, result⟩ := result
      cases result
      obtain ⟨content, projected⟩ := ih later
      have shape : first.1 = RegistryCall.normalizeLegacy definition ∧
          first.2 = first.1.projection := by
        cases definition with
        | legacy definition =>
            cases here
            exact ⟨rfl, rfl⟩
        | layered definition =>
            rw [normalizeDefinition, bind_eq_ok] at here
            obtain ⟨_, _, here⟩ := here
            cases here
            exact ⟨rfl, rfl⟩
        | engineLayered definition =>
            cases here
            exact ⟨rfl, rfl⟩
      refine ⟨?_, ?_⟩
      · rw [List.map_cons, List.map_cons, content, shape.1]
      · rw [List.map_cons, List.map_cons, List.map_cons, projected, shape.2]

section Paths

variable {encoding : NativeEncoding} {registry after later : LogicalVoiceRegistry}
  {generation : Nat} {fallbackPolicy : FallbackPolicy} {inventory : List EngineDescriptor}

theorem register_error {definitions : List LogicalVoiceDefinition}
    {error : LogicalVoiceRegistryError}
    (failed : (registry.register generation definitions fallbackPolicy inventory).2 =
      .error error) :
    (registry.register generation definitions fallbackPolicy inventory).1 = registry := by
  rw [register] at failed ⊢
  split
  · rfl
  · rename_i current
    rw [if_neg current] at failed
    split
    · rfl
    · rename_i validated
      rw [validated] at failed
      exact commit_error failed

theorem register_ok {definitions : List LogicalVoiceDefinition}
    {registration : LogicalVoiceRegistration}
    (accepted : registry.register generation definitions fallbackPolicy inventory =
      (after, .ok registration)) :
    Admitted registry generation
      (definitions.map fun definition => RegistryCall.normalizeLegacy (.legacy definition))
      fallbackPolicy inventory after := by
  rw [register] at accepted
  split at accepted
  · cases accepted
  · rename_i current
    split at accepted
    · cases accepted
    · rename_i validated
      have distinct := validateRegistration_ok validated
      have content : (definitions.map fun definition =>
          RegistryCall.normalizeLegacy (.legacy definition)) =
          (definitions.map fun definition =>
            { definition with acss := definition.acss.clamped }).map .legacy := by
        rw [List.map_map]
        rfl
      rw [content]
      refine (commit_ok accepted (Nat.le_of_not_lt current) ?_ ?_).1
      · rw [List.map_map]
        exact (List.map_id _).symm
      · rw [List.map_map]
        exact distinct

theorem register_again {definitions : List LogicalVoiceDefinition}
    {registration : LogicalVoiceRegistration}
    (accepted : registry.register generation definitions fallbackPolicy inventory =
      (after, .ok registration))
    (sameGeneration : later.generation = generation)
    (sameContent : later.registeredDefinitions = after.registeredDefinitions)
    (samePolicy : later.fallbackPolicy = fallbackPolicy) (again : List EngineDescriptor) :
    later.register generation definitions fallbackPolicy again =
      ((later.publish again).1, .ok (later.publish again).2) := by
  have content := (register_ok accepted).content_eq
  rw [register] at accepted
  rw [register, if_neg (Nat.not_lt_of_le sameGeneration.le)]
  split at accepted
  · cases accepted
  · split at accepted
    · cases accepted
    · refine commit_again sameGeneration ?_ samePolicy
      rw [sameContent, content, List.map_map]
      rfl

/-! ### Replacement -/

theorem replaceDefinitions_error {definitions : List RegisteredVoiceDefinition}
    {error : ChoiceTuningError}
    (failed : (registry.replaceDefinitions generation definitions fallbackPolicy inventory).2 =
      .error error) :
    (registry.replaceDefinitions generation definitions fallbackPolicy inventory).1 =
      registry := by
  rw [replaceDefinitions] at failed ⊢
  split
  · rfl
  · rename_i normalized prepared
    rw [prepared] at failed
    have refused : ∃ cause, (registry.commit generation (normalized.map Prod.fst)
        (normalized.map Prod.snd) fallbackPolicy inventory).2 = .error cause := by
      simp only at failed
      cases committed : (registry.commit generation (normalized.map Prod.fst)
          (normalized.map Prod.snd) fallbackPolicy inventory).2 with
      | error cause => exact ⟨cause, rfl⟩
      | ok registration =>
          rw [committed] at failed
          cases failed
    obtain ⟨cause, refused⟩ := refused
    exact commit_error refused

/-- What a prepared replacement has passed. -/
theorem prepareReplacement_ok {definitions : List RegisteredVoiceDefinition}
    {normalized : List (RegisteredVoiceDefinition × LogicalVoiceDefinition)}
    (prepared : registry.prepareReplacement generation definitions fallbackPolicy =
      .ok normalized) :
    registry.generation ≤ generation ∧
      normalized.map Prod.fst = definitions.map RegistryCall.normalizeLegacy ∧
      normalized.map Prod.snd =
        (normalized.map Prod.fst).map RegisteredVoiceDefinition.projection ∧
      ((normalized.map Prod.snd).map LogicalVoiceDefinition.id).Nodup := by
  rw [prepareReplacement, bind_eq_ok] at prepared
  obtain ⟨_, _, prepared⟩ := prepared
  rw [bind_eq_ok] at prepared
  obtain ⟨_, notStale, prepared⟩ := prepared
  rw [bind_eq_ok] at prepared
  obtain ⟨_, _, prepared⟩ := prepared
  rw [bind_eq_ok] at prepared
  obtain ⟨pairs, mapped, prepared⟩ := prepared
  rw [bind_eq_ok] at prepared
  obtain ⟨_, validated, prepared⟩ := prepared
  cases prepared
  rw [ensure_eq_ok, decide_eq_true_eq] at notStale
  obtain ⟨content, projected⟩ := mapM_normalizeDefinition mapped
  exact ⟨notStale, content, projected, validateRegistration_ok (mapError_eq_ok.mp validated)⟩

/-- The preparation depends on the registry through its generation alone. -/
theorem prepareReplacement_again {definitions : List RegisteredVoiceDefinition}
    {normalized : List (RegisteredVoiceDefinition × LogicalVoiceDefinition)}
    (prepared : registry.prepareReplacement generation definitions fallbackPolicy =
      .ok normalized) (notStale : later.generation ≤ generation) :
    later.prepareReplacement generation definitions fallbackPolicy = .ok normalized := by
  rw [prepareReplacement, bind_eq_ok] at prepared ⊢
  obtain ⟨_, positive, prepared⟩ := prepared
  rw [bind_eq_ok] at prepared
  obtain ⟨_, _, rest⟩ := prepared
  refine ⟨(), positive, bind_eq_ok.mpr ⟨(), ?_, rest⟩⟩
  exact ensure_eq_ok.mpr (decide_eq_true notStale)

theorem replaceDefinitions_ok {definitions : List RegisteredVoiceDefinition}
    {registration : LogicalVoiceRegistration}
    (accepted : registry.replaceDefinitions generation definitions fallbackPolicy inventory =
      (after, .ok registration)) :
    Admitted registry generation (definitions.map RegistryCall.normalizeLegacy) fallbackPolicy
        inventory after ∧ registration = after.resolveAll inventory := by
  rw [replaceDefinitions] at accepted
  split at accepted
  · cases accepted
  · rename_i normalized prepared
    obtain ⟨notStale, content, projected, distinct⟩ := prepareReplacement_ok prepared
    obtain ⟨here, answered⟩ := Prod.mk.inj accepted
    have committed : registry.commit generation (normalized.map Prod.fst)
        (normalized.map Prod.snd) fallbackPolicy inventory = (after, .ok registration) :=
      Prod.ext here (mapError_eq_ok.mp answered)
    exact content ▸ commit_ok committed notStale projected distinct

theorem replaceDefinitions_again {definitions : List RegisteredVoiceDefinition}
    {registration : LogicalVoiceRegistration}
    (accepted : registry.replaceDefinitions generation definitions fallbackPolicy inventory =
      (after, .ok registration))
    (sameGeneration : later.generation = generation)
    (sameContent : later.registeredDefinitions = after.registeredDefinitions)
    (samePolicy : later.fallbackPolicy = fallbackPolicy) (again : List EngineDescriptor) :
    later.replaceDefinitions generation definitions fallbackPolicy again =
      ((later.publish again).1, .ok (later.publish again).2) := by
  have admitted := (replaceDefinitions_ok accepted).1
  rw [replaceDefinitions] at accepted
  rw [replaceDefinitions]
  split at accepted
  · cases accepted
  · rename_i normalized prepared
    obtain ⟨_, content, _, _⟩ := prepareReplacement_ok prepared
    have contentNow : later.registeredDefinitions = normalized.map Prod.fst := by
      rw [sameContent, admitted.content_eq, content]
    rw [prepareReplacement_again prepared sameGeneration.le]
    simp only [commit_again sameGeneration contentNow samePolicy]
    rfl

/-! ### The v2 and v3 paths -/

theorem registerV2_error {definitions : List RegisteredVoiceDefinition}
    {error : ChoiceTuningError}
    (failed : (registry.registerV2 generation definitions fallbackPolicy inventory).2 =
      .error error) :
    (registry.registerV2 generation definitions fallbackPolicy inventory).1 = registry := by
  rw [registerV2] at failed ⊢
  split
  · rfl
  · rename_i admissible
    rw [if_neg admissible] at failed
    exact replaceDefinitions_error failed

/-- An accepted v2 call is an accepted replacement. -/
theorem registerV2_ok {definitions : List RegisteredVoiceDefinition}
    {registration : LogicalVoiceRegistration}
    (accepted : registry.registerV2 generation definitions fallbackPolicy inventory =
      (after, .ok registration)) :
    definitions.any RegisteredVoiceDefinition.isEngineLayered = false ∧
      registry.replaceDefinitions generation definitions fallbackPolicy inventory =
        (after, .ok registration) := by
  rw [registerV2] at accepted
  split at accepted
  · cases accepted
  · rename_i admissible
    exact ⟨Bool.eq_false_iff.mpr admissible, accepted⟩

theorem registerV3_error {request : VoiceRegistrationV3} {snapshot : NativeCatalogueSnapshot}
    {error : NativeChoiceError}
    (failed : (registerV3 encoding registry request snapshot).2 = .error error) :
    (registerV3 encoding registry request snapshot).1 = registry := by
  rw [registerV3] at failed ⊢
  split
  · rfl
  · rename_i status prepared
    rw [prepared] at failed
    simp only at failed ⊢
    split
    · rfl
    · rename_i registration replaced
      rw [replaced] at failed
      simp only at failed
      split
      · rfl
      · rename_i checked
        rw [checked] at failed
        cases failed

/-- An accepted v3 call is an accepted replacement whose acknowledgement is in bounds. -/
theorem registerV3_ok {request : VoiceRegistrationV3} {snapshot : NativeCatalogueSnapshot}
    {result : NativeVoiceRegistration}
    (accepted : registerV3 encoding registry request snapshot = (after, .ok result)) :
    ∃ status registration, prepareV3 encoding registry request snapshot = .ok status ∧
      registry.replaceDefinitions request.registryGeneration request.definitions
        request.fallbackPolicy snapshot.inventory = (after, .ok registration) ∧
      result = after.acknowledge registration status ∧
      checkAcknowledgement encoding result = .ok () := by
  rw [registerV3] at accepted
  split at accepted
  · cases accepted
  · rename_i status prepared
    simp only at accepted
    split at accepted
    · cases accepted
    · rename_i registration replaced
      split at accepted
      · cases accepted
      · rename_i checked
        obtain ⟨rfl, answered⟩ := Prod.mk.inj accepted
        obtain rfl := Except.ok.inj answered
        exact ⟨status, registration, prepared, Prod.ext rfl replaced, rfl, checked⟩

/-- The checks before the candidate depend on the registry through staleness alone. -/
theorem prepareV3_again {request : VoiceRegistrationV3} {snapshot : NativeCatalogueSnapshot}
    {status : List NativeChoiceStatus}
    (prepared : prepareV3 encoding registry request snapshot = .ok status)
    (notStale : later.generation ≤ request.registryGeneration) :
    prepareV3 encoding later request snapshot = .ok status := by
  rw [prepareV3, bind_eq_ok] at prepared ⊢
  obtain ⟨_, _, rest⟩ := prepared
  refine ⟨(), ensure_eq_ok.mpr ?_, rest⟩
  rw [Bool.not_eq_true', Bool.and_eq_false_iff]
  exact Or.inr (decide_eq_false (Nat.not_lt_of_le notStale))

/-- Registries that agree on their content resolve it to the same bindings. -/
theorem resolveAll_congr (samePermissions : later.enginePermissions = after.enginePermissions)
    (sameGeneration : later.generation = after.generation)
    (sameDefinitions : later.definitions = after.definitions)
    (samePolicy : later.fallbackPolicy = after.fallbackPolicy)
    (inventory : List EngineDescriptor) :
    later.resolveAll inventory = after.resolveAll inventory := by
  have binds : later.bind inventory = after.bind inventory := by
    funext fallbackPolicy definition
    rw [LogicalVoiceRegistry.bind, LogicalVoiceRegistry.bind, samePermissions]
  rw [resolveAll, resolveAll, resolveWithPolicy, resolveWithPolicy, sameGeneration,
    sameDefinitions, samePolicy, binds]

theorem registerV3_again {request : VoiceRegistrationV3} {snapshot : NativeCatalogueSnapshot}
    {result : NativeVoiceRegistration}
    (accepted : registerV3 encoding registry request snapshot = (after, .ok result))
    (sameGeneration : later.generation = after.generation)
    (sameContent : later.registeredDefinitions = after.registeredDefinitions)
    (sameDefinitions : later.definitions = after.definitions)
    (samePolicy : later.fallbackPolicy = after.fallbackPolicy)
    (samePermissions : later.enginePermissions = after.enginePermissions) :
    registerV3 encoding later request snapshot =
      ((later.publish snapshot.inventory).1, .ok result) := by
  obtain ⟨status, registration, prepared, replaced, rfl, checked⟩ := registerV3_ok accepted
  obtain ⟨admitted, registered⟩ := replaceDefinitions_ok replaced
  have generationNow := sameGeneration.trans admitted.generation_eq
  have again := replaceDefinitions_again replaced generationNow sameContent
    (samePolicy.trans admitted.policy_eq) snapshot.inventory
  have resolution : (later.publish snapshot.inventory).2 = registration := by
    rw [registered]
    exact resolveAll_congr samePermissions sameGeneration sameDefinitions samePolicy _
  have acknowledgement : (later.publish snapshot.inventory).1.acknowledge
      (later.publish snapshot.inventory).2 status = after.acknowledge registration status := by
    rw [resolution, acknowledge, acknowledge]
    simp only [publish, sameGeneration, sameContent]
  rw [registerV3, prepareV3_again prepared generationNow.le]
  simp only [again, acknowledgement, checked]

end Paths

/-! ### Any path -/

/-- The answer of a path, with the error and the result of any path. -/
theorem answer_error {ε δ α β : Type} {answer : Except ε α} {text : ε → δ} {result : α → β}
    {error : δ} (failed : (answer.mapError text).map result = .error error) :
    ∃ cause, answer = .error cause := by
  cases answer with
  | error cause => exact ⟨cause, rfl⟩
  | ok a => cases failed

theorem answer_ok {ε δ α β : Type} {answer : Except ε α} {text : ε → δ} {result : α → β}
    {b : β} (succeeded : (answer.mapError text).map result = .ok b) : ∃ a, answer = .ok a := by
  obtain ⟨a, same, _⟩ := map_eq_ok.mp succeeded
  exact ⟨a, mapError_eq_ok.mp same⟩

variable {encoding : NativeEncoding} {registry : LogicalVoiceRegistry} {call : RegistryCall}

/-- **A call that fails changes nothing.** -/
theorem perform_error {error : RegistryCallError}
    (failed : (registry.perform encoding call).2 = .error error) :
    (registry.perform encoding call).1 = registry := by
  cases call with
  | register generation definitions fallbackPolicy inventory =>
      obtain ⟨cause, refused⟩ := answer_error failed
      exact register_error refused
  | registerV2 generation definitions fallbackPolicy inventory =>
      obtain ⟨cause, refused⟩ := answer_error failed
      exact registerV2_error refused
  | registerV3 request snapshot =>
      obtain ⟨cause, refused⟩ := answer_error failed
      exact registerV3_error refused

/-- **A call that succeeds is admitted under its generation and content.** -/
theorem perform_ok {answer : RegistryAnswer}
    (succeeded : (registry.perform encoding call).2 = .ok answer) :
    Admitted registry call.generation call.content call.fallbackPolicy call.inventory
      (registry.perform encoding call).1 := by
  cases call with
  | register generation definitions fallbackPolicy inventory =>
      obtain ⟨registration, accepted⟩ := answer_ok succeeded
      exact register_ok (Prod.ext rfl accepted)
  | registerV2 generation definitions fallbackPolicy inventory =>
      obtain ⟨registration, accepted⟩ := answer_ok succeeded
      have replaced := (registerV2_ok (Prod.ext rfl accepted)).2
      exact (replaceDefinitions_ok replaced).1
  | registerV3 request snapshot =>
      obtain ⟨result, accepted⟩ := answer_ok succeeded
      obtain ⟨_, _, _, replaced, _, _⟩ := registerV3_ok (Prod.ext rfl accepted)
      exact (replaceDefinitions_ok replaced).1

/-- The content of a registry. -/
def contentOf (registry : LogicalVoiceRegistry) :
    List RegisteredVoiceDefinition × FallbackPolicy × List LogicalVoiceDefinition ×
      EngineSelectionPermissions :=
  (registry.registeredDefinitions, registry.fallbackPolicy, registry.definitions,
    registry.enginePermissions)

/-- **The content follows the generation.** -/
theorem perform_advances (limit : Nat) :
    Advances LogicalVoiceRegistry.generation contentOf limit registry
      (registry.perform encoding call).1 := by
  cases performed : (registry.perform encoding call).2 with
  | error error =>
      rw [perform_error performed]
      exact Advances.refl registry
  | ok answer =>
      have admitted := perform_ok performed
      have rises : registry.generation ≤ (registry.perform encoding call).1.generation :=
        admitted.generation_eq ▸ admitted.not_stale
      refine ⟨rises, fun changed _ => lt_of_le_of_ne rises ?_⟩
      -- under the same generation the content was compared and found equal
      intro same
      apply changed
      obtain ⟨content, policy, definitions⟩ :=
        admitted.retried (admitted.generation_eq.symm.trans same.symm)
      rw [contentOf, contentOf, admitted.content_eq, admitted.policy_eq, admitted.permissions,
        definitions, content, policy]

theorem performAll_advances (limit : Nat) (calls : List RegistryCall) :
    Advances LogicalVoiceRegistry.generation contentOf limit registry
      (registry.performAll encoding calls) := by
  induction calls generalizing registry with
  | nil => exact Advances.refl registry
  | cons call rest ih => exact (perform_advances limit).trans ih

/-- Along a run, one generation has one content. -/
theorem performAll_content {calls : List RegistryCall}
    (same : registry.generation = (registry.performAll encoding calls).generation) :
    contentOf registry = contentOf (registry.performAll encoding calls) :=
  (performAll_advances (registry.generation + 1) calls).view_eq same (Nat.lt_succ_self _)

/-! ### Coherence -/

/-- The definitions are the projection of what was registered, each with its own
identifier and one binding. -/
structure Coherent (registry : LogicalVoiceRegistry) : Prop where
  projected : registry.definitions =
    registry.registeredDefinitions.map RegisteredVoiceDefinition.projection
  distinct : (registry.definitions.map LogicalVoiceDefinition.id).Nodup
  bound : registry.bindings.map LogicalVoiceBinding.logicalVoiceId =
    registry.definitions.map LogicalVoiceDefinition.id

theorem coherent_withEnginePermissions (permissions : EngineSelectionPermissions) :
    Coherent (withEnginePermissions permissions) where
  projected := rfl
  distinct := List.nodup_nil
  bound := rfl

theorem Coherent.perform (coherent : Coherent registry) (call : RegistryCall) :
    Coherent (registry.perform encoding call).1 := by
  cases performed : (registry.perform encoding call).2 with
  | error error =>
      rw [perform_error performed]
      exact coherent
  | ok answer =>
      have admitted := perform_ok performed
      have projected : (registry.perform encoding call).1.definitions =
          call.content.map RegisteredVoiceDefinition.projection := by
        by_cases same : call.generation = registry.generation
        · obtain ⟨content, _, definitions⟩ := admitted.retried same
          rw [definitions, coherent.projected, content]
        · exact admitted.replaced same
      refine ⟨?_, ?_, ?_⟩
      · rw [projected, admitted.content_eq]
      · rw [projected]
        exact admitted.distinct
      · rw [admitted.resolved]
        exact resolveAll_ids _ _

theorem Coherent.performAll (coherent : Coherent registry) (calls : List RegistryCall) :
    Coherent (registry.performAll encoding calls) := by
  induction calls generalizing registry with
  | nil => exact coherent
  | cons call rest ih => exact ih (coherent.perform call)

/-! ### Retries -/

/-- A retry under an unchanged generation succeeds and changes the bindings alone. -/
theorem perform_again {later : LogicalVoiceRegistry} {answer : RegistryAnswer}
    (succeeded : (registry.perform encoding call).2 = .ok answer)
    (sameGeneration : (registry.perform encoding call).1.generation = later.generation)
    (sameContent : contentOf (registry.perform encoding call).1 = contentOf later)
    (inventory : List EngineDescriptor) :
    ∃ again, later.perform encoding (call.against inventory) =
      ((later.publish (call.against inventory).inventory).1, .ok again) := by
  have admitted := perform_ok succeeded
  obtain ⟨content, rest⟩ := Prod.mk.inj sameContent
  obtain ⟨policy, rest⟩ := Prod.mk.inj rest
  obtain ⟨definitions, permissions⟩ := Prod.mk.inj rest
  have generationNow := sameGeneration.symm.trans admitted.generation_eq
  have policyNow := policy.symm.trans admitted.policy_eq
  cases call with
  | register generation definitions fallbackPolicy _ =>
      obtain ⟨registration, accepted⟩ := answer_ok succeeded
      refine ⟨.registration (later.publish inventory).2, ?_⟩
      rw [RegistryCall.against, LogicalVoiceRegistry.perform, register_again (Prod.ext rfl accepted)
        generationNow content.symm policyNow]
      rfl
  | registerV2 generation definitions fallbackPolicy _ =>
      obtain ⟨registration, accepted⟩ := answer_ok succeeded
      obtain ⟨admissible, replaced⟩ := registerV2_ok (Prod.ext rfl accepted)
      refine ⟨.registration (later.publish inventory).2, ?_⟩
      rw [RegistryCall.against, LogicalVoiceRegistry.perform, registerV2,
        if_neg (Bool.eq_false_iff.mp admissible),
        replaceDefinitions_again replaced generationNow content.symm policyNow]
      rfl
  | registerV3 request snapshot =>
      obtain ⟨result, accepted⟩ := answer_ok succeeded
      refine ⟨.native result, ?_⟩
      rw [RegistryCall.against, LogicalVoiceRegistry.perform, registerV3_again
        (Prod.ext rfl accepted) sameGeneration.symm content.symm definitions.symm policy.symm
        permissions.symm]
      rfl

/-! ## The guarantees -/

/-- What holds in a state, about its next calls and the runs after them. -/
structure RegistryGuarantees (encoding : NativeEncoding) (registry : LogicalVoiceRegistry) :
    Prop where
  /-- The generation never decreases. -/
  generation_le : ∀ call, registry.generation ≤ (registry.perform encoding call).1.generation
  /-- A call that returns an error leaves the registry unchanged. -/
  error_unchanged : ∀ (call : RegistryCall) (error : RegistryCallError),
    (registry.perform encoding call).2 = .error error →
    (registry.perform encoding call).1 = registry
  /-- Two successful calls of one generation carried one content and policy. -/
  one_content : ∀ (first second : RegistryCall) (between : List RegistryCall)
    (answer answer' : RegistryAnswer),
    (registry.perform encoding first).2 = .ok answer →
    (((registry.perform encoding first).1.performAll encoding between).perform encoding
      second).2 = .ok answer' →
    first.generation = second.generation →
    first.content = second.content ∧ first.fallbackPolicy = second.fallbackPolicy
  /-- A successful call succeeds again while its generation is current, and changes nothing
  but the bindings' resolution against the inventory. -/
  retry : ∀ (call : RegistryCall) (between : List RegistryCall) (answer : RegistryAnswer)
    (inventory : List EngineDescriptor), (registry.perform encoding call).2 = .ok answer →
    ((registry.perform encoding call).1.performAll encoding between).generation =
      call.generation →
    ∃ again, ((registry.perform encoding call).1.performAll encoding between).perform encoding
        (call.against inventory) =
      ({ (registry.perform encoding call).1.performAll encoding between with
          bindings := (((registry.perform encoding call).1.performAll encoding
            between).resolveAll (call.against inventory).inventory).bindings }, .ok again)
  /-- The definitions are the projection of the registered ones, with one binding each. -/
  coherent : Coherent registry

theorem Coherent.guarantees (coherent : Coherent registry) :
    RegistryGuarantees encoding registry where
  generation_le call := (perform_advances 0).stamp_le
  error_unchanged call error failed := perform_error failed
  one_content first second between answer answer' succeeded succeeded' same := by
    have admitted := perform_ok succeeded
    have admitted' := perform_ok succeeded'
    have along : Advances LogicalVoiceRegistry.generation contentOf 0
        (registry.perform encoding first).1
        ((registry.perform encoding first).1.performAll encoding between) :=
      performAll_advances 0 between
    have current : second.generation =
        ((registry.perform encoding first).1.performAll encoding between).generation := by
      refine le_antisymm ?_ admitted'.not_stale
      rw [← same, ← admitted.generation_eq]
      exact along.stamp_le
    have kept : contentOf (registry.perform encoding first).1 =
        contentOf ((registry.perform encoding first).1.performAll encoding between) :=
      performAll_content (by rw [admitted.generation_eq, same, current])
    obtain ⟨content, rest⟩ := Prod.mk.inj kept
    obtain ⟨policy, _⟩ := Prod.mk.inj rest
    obtain ⟨content', policy', _⟩ := admitted'.retried current
    refine ⟨?_, ?_⟩
    · rw [← admitted.content_eq, content, content']
    · rw [← admitted.policy_eq, policy, policy']
  retry call between answer inventory succeeded current := by
    have admitted := perform_ok succeeded
    have sameGeneration : (registry.perform encoding call).1.generation =
        ((registry.perform encoding call).1.performAll encoding between).generation := by
      rw [admitted.generation_eq, current]
    exact perform_again succeeded sameGeneration (performAll_content sameGeneration) inventory
  coherent := coherent

end LogicalVoiceRegistry

/-- **Registry generations identify content**, over every sequence of calls on the three
paths. -/
theorem registry_generations_identify_content (encoding : NativeEncoding)
    (permissions : EngineSelectionPermissions) (calls : List RegistryCall) :
    LogicalVoiceRegistry.RegistryGuarantees encoding
      ((LogicalVoiceRegistry.withEnginePermissions permissions).performAll encoding calls) :=
  ((LogicalVoiceRegistry.coherent_withEnginePermissions permissions).performAll calls).guarantees

end Omnivox.Engines
