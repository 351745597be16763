import Mathlib
import Omnivox.Engines.TextResolution
import Omnivox.Routing.Retries

/-!
# Retries of a text

The route of a chunk is resolved with its text, a retry without (`rerouteAfterFailure`). So a
retry goes where the text would have led exactly as far as the engine that is first in line
supports it (`FirstInLineSpeaks`, `reroute_retry_reaches`, `reroute_exhausted_reaches`).
-/

set_option autoImplicit false

namespace Omnivox.Routing

open Engines Foundations
open Synthesis (TtsError)

variable {Engine : Type}

/-- A snapshot as it is made: over a valid inventory, and restricted to one choice only for a
private preview, without a policy. -/
structure Coherent (snapshot : LogicalVoiceRoutingSnapshot) : Prop where
  valid : ValidInventory snapshot.inventory
  restricted : snapshot.previewChoiceIndex ≠ none → snapshot.fallbackPolicy = .default ∧
    ∀ definition ∈ snapshot.definitions, definition.preferences.length ≤ 1

/-- The voice that a chunk leads to: the first in the order of resolution that is usable and
supports the chunk, on an engine that the session has. -/
def Reaches (snapshot : LogicalVoiceRoutingSnapshot) (engines : EngineRegistry Engine)
    (logicalVoiceId : String) (chunk : List Char) (realized : PhysicalVoiceId) : Prop :=
  ∃ definition, snapshot.definitions.find? (fun other => other.id == logicalVoiceId) =
      some definition ∧
    Engines.realizes snapshot.inventory definition snapshot.fallbackPolicy (some chunk)
      snapshot.enginePermissions = some realized ∧
    ∃ engine, engines.engine realized.engineId = some engine

/-- The engine that is first in line for a voice, whatever the text, supports the chunk. -/
def FirstInLineSpeaks (snapshot : LogicalVoiceRoutingSnapshot) (logicalVoiceId : String)
    (chunk : List Char) : Prop :=
  ∀ definition engine,
    snapshot.definitions.find? (fun other => other.id == logicalVoiceId) = some definition →
    FirstInLine snapshot.inventory snapshot.enginePermissions snapshot.fallbackPolicy definition
      engine →
    ∀ character ∈ chunk, engine.textRepertoire.supportsCharacter character = true

/-- The snapshot after a failure. -/
def LogicalVoiceRoutingSnapshot.recorded (snapshot : LogicalVoiceRoutingSnapshot)
    (realized : PhysicalVoiceId) (error : TtsError) : LogicalVoiceRoutingSnapshot :=
  { snapshot with inventory := (recordRuntimeFailure snapshot.inventory realized error).1 }

section

variable {snapshot : LogicalVoiceRoutingSnapshot} {engines : EngineRegistry Engine}
  {text : Option (List Char)} {chunk : List Char} {logicalVoiceId : String}

/-- A failure leaves the repertoires as they are. -/
theorem supports_recorded {realized : PhysicalVoiceId} {error : TtsError} {engineId : String} :
    Supports (snapshot.recorded realized error).inventory engineId chunk ↔
      Supports snapshot.inventory engineId chunk := by
  have repertoires : (recordRuntimeFailure snapshot.inventory realized error).1.map
        (fun engine => (engine.id, engine.textRepertoire)) =
      snapshot.inventory.map fun engine => (engine.id, engine.textRepertoire) := by
    refine updateFirst_map fun engine _ => ?_
    cases error with
    | voiceNotFound reason => rfl
    | synthesisFailed reason => rfl
    | notAvailable => rfl
    | invalidParameter reason => rfl
  have listed : ∀ inventory : List EngineDescriptor, Supports inventory engineId chunk ↔
      ∃ entry ∈ inventory.map fun engine => (engine.id, engine.textRepertoire),
        entry.1 = engineId ∧ ∀ character ∈ chunk, entry.2.supportsCharacter character = true := by
    intro inventory
    simp only [Supports, List.mem_map, exists_exists_and_eq_and]
  rw [listed, listed]
  rw [LogicalVoiceRoutingSnapshot.recorded, repertoires]

/-! ## Coherent snapshots -/

theorem Coherent.recorded (coherent : Coherent snapshot) (realized : PhysicalVoiceId)
    (error : TtsError) : Coherent (snapshot.recorded realized error) where
  valid := recordRuntimeFailure_valid coherent.valid
  restricted := coherent.restricted

theorem Coherent.captureWithPolicy (voices : LogicalVoiceRegistry) (policy : RoutingPolicyRegistry) :
    Coherent (LogicalVoiceRoutingSnapshot.captureWithPolicy voices engines policy) where
  valid := (Withholds.captureWithPolicy voices engines policy).valid
  restricted restricted := absurd rfl restricted

theorem Coherent.capturePreview (voices : LogicalVoiceRegistry) (policy : RoutingPolicyRegistry) :
    Coherent (LogicalVoiceRoutingSnapshot.capturePreview voices engines policy) where
  valid := (Withholds.capturePreview voices engines policy).valid
  restricted restricted := absurd rfl restricted

theorem Coherent.replaceInventory (coherent : Coherent snapshot)
    {inventory : List EngineDescriptor} (valid : ValidInventory inventory) :
    Coherent (snapshot.replaceInventory inventory) where
  valid := valid.map (projectDescriptor_id _) (projectDescriptor_valid _)
  restricted := coherent.restricted

/-- A restricted draft has one preference and no policy. -/
theorem Coherent.restrictPreviewToChoice (coherent : Coherent snapshot) {index : Nat}
    {next : LogicalVoiceRoutingSnapshot}
    (restricted : snapshot.restrictPreviewToChoice index = .ok next) : Coherent next := by
  rw [LogicalVoiceRoutingSnapshot.restrictPreviewToChoice] at restricted
  split at restricted
  · rw [bind_eq_ok] at restricted
    obtain ⟨selector, _, result⟩ := restricted
    obtain rfl := Except.ok.inj result
    refine ⟨coherent.valid, fun _ => ⟨rfl, ?_⟩⟩
    intro definition member
    rw [List.mem_singleton.mp member]
    exact le_rfl
  · cases restricted

/-! ## What a snapshot resolves -/

/-- Of a restricted snapshot only the preference is left. -/
theorem Coherent.preferred (coherent : Coherent snapshot) {definition : LogicalVoiceDefinition}
    {resolution : VoiceResolution} (listed : definition ∈ snapshot.definitions)
    (restricted : snapshot.previewChoiceIndex ≠ none)
    (resolved : resolveVoiceWithPermissions snapshot.inventory definition snapshot.fallbackPolicy
      text snapshot.enginePermissions = .ok resolution) :
    resolution.reason = .preferred := by
  obtain ⟨no_policy, single⟩ := coherent.restricted restricted
  have first := resolve_firstRealized snapshot.inventory definition snapshot.fallbackPolicy text
    snapshot.enginePermissions
  rw [resolved] at first
  obtain ⟨before, candidate, after, split, _, _, result⟩ := first
  rw [result]
  show candidate.reason = .preferred
  have member : candidate ∈ stages definition snapshot.fallbackPolicy := by
    rw [split]
    simp
  rw [no_policy] at member
  have few := single definition listed
  cases preferences : definition.preferences with
  | nil => simp [stages, candidatesOf, sameLanguageSelector, FallbackPolicy.default, preferences] at member
  | cons selector rest =>
      rw [preferences, List.length_cons] at few
      obtain rfl : rest = [] := List.eq_nil_of_length_eq_zero (by omega)
      have only : candidate = ⟨.preference 0, preferenceReason 0, selector⟩ := by
        simpa [stages, candidatesOf, sameLanguageSelector, FallbackPolicy.default, preferences]
          using member
      rw [only]
      rfl

/-- A voice that is realized on an engine that the session has is a route. -/
theorem Coherent.resolves (coherent : Coherent snapshot) {definition : LogicalVoiceDefinition}
    {realized : PhysicalVoiceId} {engine : Engine}
    (defined : snapshot.definitions.find? (fun other => other.id == logicalVoiceId) =
      some definition)
    (realizes : Engines.realizes snapshot.inventory definition snapshot.fallbackPolicy text
      snapshot.enginePermissions = some realized)
    (registered : engines.engine realized.engineId = some engine) :
    ∃ route, snapshot.resolveCurrentWithText logicalVoiceId text engines = .ok route := by
  obtain ⟨resolution, resolved, rfl⟩ := Option.map_eq_some_iff.mp realizes
  rw [toOption_eq_some] at resolved
  have accepted : ∃ mapped, LogicalVoiceRoutingSnapshot.previewResolution
      snapshot.previewChoiceIndex resolution = .ok mapped := by
    cases index : snapshot.previewChoiceIndex with
    | none => exact ⟨resolution, rfl⟩
    | some choice =>
        have preferred := coherent.preferred (List.mem_of_find?_eq_some defined)
          (by rw [index]; simp) resolved
        refine ⟨_, bind_eq_ok.mpr ⟨(), ?_, rfl⟩⟩
        rw [ensure_eq_ok, preferred]
        rfl
  obtain ⟨mapped, accepted⟩ := accepted
  obtain ⟨kept, _⟩ := previewResolution_ok accepted
  obtain ⟨_, _, descriptor, voice, usable⟩ := resolved_usable coherent.valid resolved
  have described : snapshot.inventory.find? (fun other => other.id == mapped.realized.engineId) =
      some descriptor := by
    rw [kept]
    exact coherent.valid.find?_eq_some.mpr ⟨usable.member, usable.own.symm⟩
  have made : ∃ route, LogicalVoiceRoutingSnapshot.routeFromResolution mapped definition
      snapshot.inventory engines = .ok route := by
    simp only [LogicalVoiceRoutingSnapshot.routeFromResolution, bind_eq_ok]
    exact ⟨_, engine, orError_eq_ok.mpr (kept ▸ registered), descriptor,
      orError_eq_ok.mpr described, rfl⟩
  obtain ⟨route, made⟩ := made
  exact ⟨route, bind_eq_ok.mpr ⟨definition, orError_eq_ok.mpr defined,
    bind_eq_ok.mpr ⟨resolution, mapError_eq_ok.mpr resolved,
      bind_eq_ok.mpr ⟨mapped, accepted, made⟩⟩⟩⟩

/-- What a route is resolved to. -/
theorem Routes.realizes {route : LogicalRoute Engine} {definition : LogicalVoiceDefinition}
    {resolution : VoiceResolution}
    (routes : Routes snapshot engines text route definition resolution) :
    Engines.realizes snapshot.inventory definition snapshot.fallbackPolicy text
      snapshot.enginePermissions = some route.realized := by
  rw [Engines.realizes, routes.resolved, ← routes.realized]
  rfl

/-- **A route for a text is one that the text leads to.** -/
theorem Routes.reaches {route : LogicalRoute Engine} {definition : LogicalVoiceDefinition}
    {resolution : VoiceResolution}
    (routes : Routes snapshot engines (some chunk) route definition resolution) :
    Reaches snapshot engines route.logicalVoiceId chunk route.realized :=
  ⟨definition, routes.defined, routes.realizes, route.engine, routes.registered⟩

/-- What a text leads to supports it. -/
theorem Reaches.supports (valid : ValidInventory snapshot.inventory) {realized : PhysicalVoiceId}
    (reaches : Reaches snapshot engines logicalVoiceId chunk realized) :
    Supports snapshot.inventory realized.engineId chunk := by
  obtain ⟨_, _, realizes, _⟩ := reaches
  exact realizes_supports valid realizes

/-- A text that is refused leads nowhere. -/
theorem Coherent.refused (coherent : Coherent snapshot) {reason : String}
    (refused : snapshot.resolveCurrentWithText logicalVoiceId (some chunk) engines =
      .error reason) (realized : PhysicalVoiceId) :
    ¬ Reaches snapshot engines logicalVoiceId chunk realized := by
  rintro ⟨definition, defined, realizes, engine, registered⟩
  obtain ⟨route, resolved⟩ := coherent.resolves defined realizes registered
  rw [refused] at resolved
  cases resolved

theorem Coherent.unroutable (coherent : Coherent snapshot) {route : LogicalRoute Engine}
    {reason : String} (refused : snapshot.routeForText route chunk engines = .error reason)
    (realized : PhysicalVoiceId) :
    ¬ Reaches snapshot engines route.logicalVoiceId chunk realized := by
  cases resolved : snapshot.resolveCurrentWithText route.logicalVoiceId (some chunk) engines with
  | error unresolved => exact coherent.refused resolved realized
  | ok other =>
      rw [LogicalVoiceRoutingSnapshot.routeForText, resolved] at refused
      cases refused

/-! ## Retries -/

/-- **A retry goes where the text leads**, if the engine that is first in line supports it. -/
theorem resolveCurrent_reaches (coherent : Coherent snapshot)
    (speaks : FirstInLineSpeaks snapshot logicalVoiceId chunk) {route : LogicalRoute Engine}
    (resolved : snapshot.resolveCurrent logicalVoiceId engines = .ok route) :
    route.logicalVoiceId = logicalVoiceId ∧
      Reaches snapshot engines logicalVoiceId chunk route.realized := by
  obtain ⟨rfl, definition, resolution, routes⟩ := resolveCurrentWithText_ok resolved
  refine ⟨rfl, definition, routes.defined, ?_, route.engine, routes.registered⟩
  obtain ⟨engine, member, own, first⟩ := realizes_firstInLine coherent.valid routes.realizes
  exact realizes_of_supports coherent.valid routes.realizes
    ⟨engine, member, own, speaks definition engine routes.defined first⟩

/-- **Where there is no retry, the text leads nowhere**, if the engine that is first in line
supports it. -/
theorem resolveCurrent_refused (coherent : Coherent snapshot)
    (speaks : FirstInLineSpeaks snapshot logicalVoiceId chunk) {reason : String}
    (refused : snapshot.resolveCurrent logicalVoiceId engines = .error reason)
    (realized : PhysicalVoiceId) :
    ¬ Reaches snapshot engines logicalVoiceId chunk realized := by
  rintro ⟨definition, defined, realizes, engine, registered⟩
  cases first : Engines.realizes snapshot.inventory definition snapshot.fallbackPolicy none
      snapshot.enginePermissions with
  | none =>
      rw [realizes_none_of_none coherent.valid first] at realizes
      cases realizes
  | some other =>
      -- the two resolutions agree, so the engine of the first is registered as well
      obtain ⟨front, member, own, in_line⟩ := realizes_firstInLine coherent.valid first
      have same := realizes_of_supports coherent.valid first
        ⟨front, member, own, speaks definition front defined in_line⟩
      rw [realizes] at same
      obtain rfl := Option.some.inj same
      obtain ⟨route, resolved⟩ := coherent.resolves defined first registered
      rw [LogicalVoiceRoutingSnapshot.resolveCurrent, resolved] at refused
      cases refused

/-- A failure of a route is recorded, unless a parameter was refused. -/
theorem Routes.recorded (valid : ValidInventory snapshot.inventory) {route : LogicalRoute Engine}
    {definition : LogicalVoiceDefinition} {resolution : VoiceResolution}
    (routes : Routes snapshot engines text route definition resolution) {error : TtsError}
    (accepted : ∀ reason, error ≠ .invalidParameter reason) :
    (recordRuntimeFailure snapshot.inventory route.realized error).2 = true := by
  obtain ⟨_, _, engine, voice, usable⟩ := resolved_usable valid routes.resolved
  rw [routes.realized] at usable
  refine updateFirst_takes usable.member (beq_iff_eq.mpr usable.own.symm) ?_
  intro other member fitting
  obtain rfl : other = engine := List.inj_on_of_nodup_map valid.distinct member usable.member
    ((eq_of_beq fitting).trans usable.own)
  cases error with
  | synthesisFailed reason => rfl
  | notAvailable => rfl
  | invalidParameter reason => exact absurd rfl (accepted reason)
  | voiceNotFound reason =>
      -- an offered voice that is not listed is listed first
      have listed : ∃ marked ∈ listRealized other route.realized, marked.id = route.realized := by
        rw [listRealized]
        split
        · rename_i present
          obtain ⟨marked, there, same⟩ := List.any_eq_true.mp present
          exact ⟨marked, there, eq_of_beq same⟩
        · rw [usable.offered]
          exact ⟨voice, by simp, usable.identified⟩
      obtain ⟨marked, there, same⟩ := listed
      exact updateFirst_takes there (beq_iff_eq.mpr same) fun _ _ _ => rfl

/-- What a reroute after an error does to a chunk in the snapshot that it leaves. -/
def ReroutesText (snapshot : LogicalVoiceRoutingSnapshot) (engines : EngineRegistry Engine)
    (logicalVoiceId : String) (chunk : List Char) (error : TtsError) :
    RuntimeReroute Engine → Prop
  | .retry retry => retry.logicalVoiceId = logicalVoiceId ∧
      Reaches snapshot engines logicalVoiceId chunk retry.realized
  | .notRetryable => ∃ reason, error = .invalidParameter reason
  | .exhausted _ => ∀ realized, ¬ Reaches snapshot engines logicalVoiceId chunk realized

/-- **A reroute keeps to the chunk**, if the engine that is first in line then supports it. -/
theorem rerouteAfterFailure_text (coherent : Coherent snapshot) {route : LogicalRoute Engine}
    {definition : LogicalVoiceDefinition} {resolution : VoiceResolution}
    (routes : Routes snapshot engines text route definition resolution) {error : TtsError}
    (speaks : (∀ reason, error ≠ .invalidParameter reason) →
      FirstInLineSpeaks (snapshot.recorded route.realized error) route.logicalVoiceId chunk) :
    ReroutesText (snapshot.recorded route.realized error) engines route.logicalVoiceId chunk error
      (snapshot.rerouteAfterFailure route error engines).2 := by
  have refused : (recordRuntimeFailure snapshot.inventory route.realized error).2 ≠ true →
      ∃ reason, error = .invalidParameter reason := by
    intro unrecorded
    by_contra accepted
    exact unrecorded (routes.recorded coherent.valid fun reason same => accepted ⟨reason, same⟩)
  rw [LogicalVoiceRoutingSnapshot.rerouteAfterFailure]
  split
  · rename_i recorded
    have excludes := record_excludes coherent.valid recorded
    have accepted : ∀ reason, error ≠ .invalidParameter reason := by
      rintro reason rfl
      exact excludes
    have next := coherent.recorded route.realized error
    split
    · rename_i resolved found
      obtain ⟨named, reaches⟩ := resolveCurrent_reaches next (speaks accepted) found
      split
      · exact ⟨named, reaches⟩
      · -- a route back to the failed target would be one to what is excluded
        rename_i back
        obtain ⟨_, _, _, again⟩ := resolveCurrentWithText_ok found
        obtain ⟨engine_open, voice_open⟩ := again.not_excluded next.valid
        rw [not_not.mp back] at engine_open voice_open
        cases error with
        | voiceNotFound reason => exact absurd excludes voice_open
        | synthesisFailed reason => exact absurd excludes engine_open
        | notAvailable => exact absurd excludes engine_open
        | invalidParameter reason => exact absurd rfl (accepted reason)
    · rename_i reason unresolved
      exact resolveCurrent_refused next (speaks accepted) unresolved
  · rename_i unrecorded
    exact refused unrecorded

end

end Omnivox.Routing
