import Omnivox.Parameters.PlanGuarantees

/-!
# Native plan composition

A plan gives each parameter the value of the first source that applies: the context, the
native patch, the mapped common value, the default. Applying the parameters in the order of
the plan leaves each at its planned value, whatever the side effects do on the way, and does
not disturb one whose planned value is unknown (`AppliedInOrder.restored`). A plan that
passes all other checks is refused exactly when a side effect leads back to where it came from
(`native_plan_composition`).
-/

set_option autoImplicit false

namespace Omnivox.Parameters

open Foundations
open Engines (Adjustment NativePatch NativeValue ParameterError PhysicalVoiceId VoiceSelector
  VoiceStylePatch)

/-! ## Applying a plan -/

section Applying

variable {catalogue : ParameterCatalogue} {parameters : PlannedParameters}
  {order : List String} {before after : String → NativeValue} {id : String}
  {planned : PlannedParameter}

/-- Applying a parameter sets it to its planned value, when that is known, and changes at most
its side effects besides. -/
structure Applied (catalogue : ParameterCatalogue) (parameters : PlannedParameters) (id : String)
    (before after : String → NativeValue) : Prop where
  sets : ∀ planned value, parameters.lookup id = some planned → planned.value = some value →
    after id = value
  leaves : ∀ planned, parameters.lookup id = some planned → planned.value = none →
    after id = before id
  frame : ∀ other, other ≠ id → other ∉ sideEffectsOf catalogue id → after other = before other

/-- Applying parameters one after another. -/
inductive AppliedInOrder (catalogue : ParameterCatalogue) (parameters : PlannedParameters) :
    List String → (String → NativeValue) → (String → NativeValue) → Prop where
  | nil (state : String → NativeValue) : AppliedInOrder catalogue parameters [] state state
  | cons {id : String} {rest : List String} {before middle after : String → NativeValue}
      (first : Applied catalogue parameters id before middle)
      (further : AppliedInOrder catalogue parameters rest middle after) :
      AppliedInOrder catalogue parameters (id :: rest) before after

/-- What is neither applied nor a side effect stays. -/
theorem AppliedInOrder.frame (applied : AppliedInOrder catalogue parameters order before after)
    (absent : id ∉ order) (unaffected : ∀ other ∈ order, id ∉ sideEffectsOf catalogue other) :
    after id = before id := by
  induction applied with
  | nil => rfl
  | cons first _ ih =>
      obtain ⟨here, later⟩ := List.forall_mem_cons.mp unaffected
      obtain ⟨different, elsewhere⟩ := List.ne_and_not_mem_of_not_mem_cons absent
      rw [ih elsewhere later, first.frame id different here]

/-- **A parameter of a dependency order** ends at its planned value. -/
theorem AppliedInOrder.restored {value : NativeValue}
    (applied : AppliedInOrder catalogue parameters order before after)
    (ordered : order.Pairwise fun earlier later => earlier ∉ sideEffectsOf catalogue later)
    (distinct : order.Nodup) (member : id ∈ order) (found : parameters.lookup id = some planned)
    (known : planned.value = some value) : after id = value := by
  induction applied with
  | nil => exact absurd member List.not_mem_nil
  | cons first further ih =>
      obtain ⟨apart, ordered⟩ := List.pairwise_cons.mp ordered
      obtain ⟨fresh, distinct⟩ := List.nodup_cons.mp distinct
      rcases List.mem_cons.mp member with rfl | later
      · rw [further.frame fresh apart]
        exact first.sets planned value found known
      · exact ih ordered distinct later

/-- A parameter whose planned value is unknown is not disturbed, if it is no side effect. -/
theorem AppliedInOrder.undisturbed
    (applied : AppliedInOrder catalogue parameters order before after)
    (unaffected : ∀ other ∈ order, id ∉ sideEffectsOf catalogue other)
    (found : parameters.lookup id = some planned) (unknown : planned.value = none) :
    after id = before id := by
  induction applied with
  | nil => rfl
  | @cons head _ start middle _ first _ ih =>
      obtain ⟨here, later⟩ := List.forall_mem_cons.mp unaffected
      have kept : middle id = start id := by
        by_cases same : id = head
        · subst same
          exact first.leaves planned found unknown
        · exact first.frame id same here
      rw [ih later, kept]

end Applying

/-! ## The first source that applies -/

/-- Whether a contextual patch sets a common input. -/
def contextSets (context : VoiceStylePatch) : CommonInput → Bool
  | .rateOffset => context.rateOffset.isSome
  | .averagePitch => context.averagePitch.isSome
  | .pitchRange => context.pitchRange.isSome
  | .stress => context.stress.isSome
  | .richness => context.richness.isSome
  | .gain => context.gain.isSome
  | .lowPass => context.lowPass.isSome
  | .highPass => context.highPass.isSome
  | .pan => context.pan.isSome
  | .reverb => context.reverb.isSome
  | .echo => context.echo.isSome
  | .chorus => context.chorus.isSome
  | .rate | .volume => false

/-- An output of a mapping one of whose inputs the context sets. -/
def InContext (catalogue : ParameterCatalogue) (context : VoiceStylePatch) (id : String) : Prop :=
  ∃ mapping ∈ catalogue.mappings, id ∈ mapping.nativeOutputs ∧
    ∃ input ∈ mapping.commonInputs, contextSets context input = true

/-- The patch names a parameter. -/
def Names (native : Option NativePatch) (id : String) : Prop :=
  ∃ patch ∈ native, ∃ operation, (id, operation) ∈ patch.parameters

/-- The value that the first source that applies gives to a parameter. -/
inductive FirstSource (catalogue : ParameterCatalogue) (mappedCommon : List (String × NativeValue))
    (native : Option NativePatch) (context : VoiceStylePatch) (descriptor : ParameterDescriptor) :
    Option NativeValue → Prop where
  | contextMapped (value : NativeValue) (set : InContext catalogue context descriptor.id)
      (mapped : (descriptor.id, value) ∈ mappedCommon) :
      FirstSource catalogue mappedCommon native context descriptor (some value)
  | contextDefault (set : InContext catalogue context descriptor.id)
      (unmapped : ∀ value, (descriptor.id, value) ∉ mappedCommon) :
      FirstSource catalogue mappedCommon native context descriptor descriptor.default.value
  | nativeSet (value : NativeValue) (patch : NativePatch)
      (free : ¬InContext catalogue context descriptor.id) (given : native = some patch)
      (named : (descriptor.id, .set value) ∈ patch.parameters) :
      FirstSource catalogue mappedCommon native context descriptor (some value)
  | nativeDefault (patch : NativePatch) (free : ¬InContext catalogue context descriptor.id)
      (given : native = some patch) (named : (descriptor.id, .default) ∈ patch.parameters) :
      FirstSource catalogue mappedCommon native context descriptor descriptor.default.value
  | mapped (value : NativeValue) (free : ¬InContext catalogue context descriptor.id)
      (unnamed : ¬Names native descriptor.id) (mapped : (descriptor.id, value) ∈ mappedCommon) :
      FirstSource catalogue mappedCommon native context descriptor (some value)
  | default (free : ¬InContext catalogue context descriptor.id)
      (unnamed : ¬Names native descriptor.id)
      (unmapped : ∀ value, (descriptor.id, value) ∉ mappedCommon) :
      FirstSource catalogue mappedCommon native context descriptor descriptor.default.value

/-! ## The law -/

/-- A descriptor of a supported parameter of the voice that can be reset. -/
structure Resettable (descriptor : ParameterDescriptor) : Prop where
  voice : descriptor.scope = .voice
  supported : descriptor.availability.status = .supported
  reset : descriptor.default.resetSupported = true

/-- Applying one planned parameter can change another. -/
def Disturbs (catalogue : ParameterCatalogue) (first second : String) : Prop :=
  ∃ descriptor ∈ catalogue.parameters, Resettable descriptor ∧ descriptor.id = first ∧
    second ∈ descriptor.sideEffects

/-- The entries of an ordered map. -/
def InKeyOrder {β : Type} (entries : List (String × β)) : Prop :=
  (entries.map Prod.fst).Pairwise (· < ·)

/-- What a plan promises. -/
structure PlanLaw (catalogue : ParameterCatalogue) (mappedCommon : List (String × NativeValue))
    (native : Option NativePatch) (context : VoiceStylePatch) (plan : NativePlan) : Prop where
  /-- The planned parameters are the resettable ones. -/
  plans : ∀ id, id ∈ plan.parameters.map Prod.fst ↔
    ∃ descriptor ∈ catalogue.parameters, Resettable descriptor ∧ descriptor.id = id
  /-- Each has the value of its first source, and is masked when the context keeps the patch
  from it. -/
  valued : ∀ descriptor ∈ catalogue.parameters, Resettable descriptor →
    ∃ planned, plan.parameters.lookup descriptor.id = some planned ∧
      FirstSource catalogue mappedCommon native context descriptor planned.value ∧
      (planned.maskedNative = true ↔
        InContext catalogue context descriptor.id ∧ Names native descriptor.id)
  /-- The order has each planned parameter once. -/
  permutes : plan.applicationOrder.Perm (plan.parameters.map Prod.fst) ∧
    plan.applicationOrder.Nodup
  /-- Applying all of them leaves each at its planned value. -/
  restores : ∀ before after : String → NativeValue,
    AppliedInOrder catalogue plan.parameters plan.applicationOrder before after →
    ∀ id planned value, plan.parameters.lookup id = some planned → planned.value = some value →
    after id = value
  /-- A parameter whose planned value is unknown stays as it was at every point. -/
  undisturbed : ∀ applied : List String, applied <+: plan.applicationOrder →
    ∀ before after : String → NativeValue,
    AppliedInOrder catalogue plan.parameters applied before after →
    ∀ id planned, plan.parameters.lookup id = some planned → planned.value = none →
    after id = before id

/-- What composing promises. -/
structure ComposeLaw (catalogue : ParameterCatalogue) (expectedIdentity : CatalogueIdentity)
    (realized : PhysicalVoiceId) (mappedCommon : List (String × NativeValue))
    (native : Option NativePatch) (context : VoiceStylePatch) : Prop where
  never_panics : compose catalogue expectedIdentity realized mappedCommon native context ≠
    .error .panicked
  plans : ∀ plan, compose catalogue expectedIdentity realized mappedCommon native context =
    .ok plan → PlanLaw catalogue mappedCommon native context plan
  /-- Inputs that pass all other checks are refused for a cycle of side effects, and only for
  one. -/
  cycle : ∀ prepared, prepare catalogue expectedIdentity realized mappedCommon native context =
      .ok prepared →
    (compose catalogue expectedIdentity realized mappedCommon native context =
        .error .dependencyCycle ↔ ∃ id, Relation.TransGen (Disturbs catalogue) id id) ∧
      (compose catalogue expectedIdentity realized mappedCommon native context ≠
        .error .dependencyCycle →
        ∃ plan, compose catalogue expectedIdentity realized mappedCommon native context = .ok plan)

/-! ### Sources -/

theorem mem_contextualInputs {context : VoiceStylePatch} {explicit : List CommonInput}
    (given : contextualInputs context = .ok explicit) (input : CommonInput) :
    input ∈ explicit ↔ contextSets context input = true := by
  rw [contextualInputs, seq_eq_ok] at given
  obtain ⟨-, given⟩ := given
  cases given
  cases input <;> simp [contextSets]

theorem contextual_iff {catalogue : ParameterCatalogue} {context : VoiceStylePatch}
    {explicit : List CommonInput} (given : contextualInputs context = .ok explicit) (id : String) :
    (catalogue.contextual explicit).contains id = true ↔ InContext catalogue context id := by
  rw [List.contains_iff_mem, ParameterCatalogue.contextual, List.mem_flatMap]
  constructor
  · rintro ⟨mapping, listed, output⟩
    obtain ⟨member, set⟩ := List.mem_filter.mp listed
    obtain ⟨input, within, explicitly⟩ := List.any_eq_true.mp set
    refine ⟨mapping, member, output, input, within, ?_⟩
    exact (mem_contextualInputs given input).mp (List.contains_iff_mem.mp explicitly)
  · rintro ⟨mapping, member, output, input, within, set⟩
    refine ⟨mapping, List.mem_filter.mpr ⟨member, ?_⟩, output⟩
    refine List.any_eq_true.mpr ⟨input, within, List.contains_iff_mem.mpr ?_⟩
    exact (mem_contextualInputs given input).mpr set

theorem InKeyOrder.distinct {β : Type} {entries : List (String × β)}
    (ordered : InKeyOrder entries) : (entries.map Prod.fst).Nodup :=
  ordered.imp fun below => below.ne

/-- A parameter without an entry has no value. -/
theorem unlisted_of_lookup {β : Type} {entries : List (String × β)} {id : String}
    (distinct : (entries.map Prod.fst).Nodup) (absent : entries.lookup id = none) (value : β) :
    (id, value) ∉ entries := by
  intro member
  rw [(lookup_eq_some_iff_mem distinct).mpr member] at absent
  cases absent

section Sources

variable {catalogue : ParameterCatalogue} {mappedCommon : List (String × NativeValue)}
  {native : Option NativePatch} {context : VoiceStylePatch} {contextual : List String}
  {descriptor : ParameterDescriptor}

/-- An operation that is found is one of the patch. -/
theorem names_of_lookup (distinct : ((nativeOperations native).map Prod.fst).Nodup)
    {operation : Adjustment NativeValue}
    (named : (nativeOperations native).lookup descriptor.id = some operation) :
    ∃ patch, native = some patch ∧ (descriptor.id, operation) ∈ patch.parameters := by
  cases native with
  | none => cases named
  | some patch => exact ⟨patch, rfl, (lookup_eq_some_iff_mem distinct).mp named⟩

theorem not_names_of_lookup (distinct : ((nativeOperations native).map Prod.fst).Nodup)
    (unnamed : (nativeOperations native).lookup descriptor.id = none) :
    ¬Names native descriptor.id := by
  rintro ⟨patch, given, operation, member⟩
  cases given
  exact unlisted_of_lookup distinct unnamed operation member

/-- A contextual output keeps what it was mapped to, or its default, from the patch. -/
theorem plannedFor_contextual {operations : List (String × Adjustment NativeValue)} {id : String}
    (set : id ∈ contextual) (default : Option NativeValue) :
    let planned := plannedFor catalogue mappedCommon operations contextual id
      ⟨default, .engineDefault, false⟩
    planned.value = (mappedCommon.lookup id).or default ∧
      planned.maskedNative = (operations.lookup id).isSome := by
  cases mapped : mappedCommon.lookup id <;> cases named : operations.lookup id <;>
    simp [plannedFor, PlannedParameter.marked, PlannedParameter.mapped, nativeChange, set, mapped,
      named]

/-- Any other parameter has the value of its operation, or is as it was mapped. -/
theorem plannedFor_free {operations : List (String × Adjustment NativeValue)} {id : String}
    (free : id ∉ contextual) (default : Option NativeValue) :
    let planned := plannedFor catalogue mappedCommon operations contextual id
      ⟨default, .engineDefault, false⟩
    planned.value = (match operations.lookup id with
      | some (.set value) => some value
      | some .default => (catalogue.descriptor id).bind fun descriptor => descriptor.default.value
      | none => (mappedCommon.lookup id).or default) ∧
      planned.maskedNative = false := by
  rcases mapped : mappedCommon.lookup id with _ | _ <;>
    rcases named : operations.lookup id with _ | _ | _ <;>
    simp [plannedFor, PlannedParameter.marked, PlannedParameter.mapped, nativeChange, free, mapped,
      named, PlannedParameter.adjusted]

/-- **The passes give the value of the first source.** -/
theorem plannedFor_firstSource (distinctMapped : (mappedCommon.map Prod.fst).Nodup)
    (distinctOperations : ((nativeOperations native).map Prod.fst).Nodup)
    (inContext : contextual.contains descriptor.id = true ↔
      InContext catalogue context descriptor.id)
    (found : catalogue.descriptor descriptor.id = some descriptor) :
    let planned := plannedFor catalogue mappedCommon (nativeOperations native) contextual
      descriptor.id ⟨descriptor.default.value, .engineDefault, false⟩
    FirstSource catalogue mappedCommon native context descriptor planned.value ∧
      (planned.maskedNative = true ↔
        InContext catalogue context descriptor.id ∧ Names native descriptor.id) := by
  intro planned
  rw [List.contains_iff_mem] at inContext
  have unmapped : mappedCommon.lookup descriptor.id = none →
      ∀ value, (descriptor.id, value) ∉ mappedCommon := unlisted_of_lookup distinctMapped
  by_cases set : InContext catalogue context descriptor.id
  · obtain ⟨value, masked⟩ : planned.value = _ ∧ planned.maskedNative = _ :=
      plannedFor_contextual (inContext.mpr set) descriptor.default.value
    rw [value, masked, and_iff_right set]
    constructor
    · cases mapped : mappedCommon.lookup descriptor.id with
      | some value =>
          exact FirstSource.contextMapped value set
            ((lookup_eq_some_iff_mem distinctMapped).mp mapped)
      | none => exact FirstSource.contextDefault set (unmapped mapped)
    · cases named : (nativeOperations native).lookup descriptor.id with
      | some operation =>
          obtain ⟨patch, given, member⟩ := names_of_lookup distinctOperations named
          exact iff_of_true rfl ⟨patch, given, operation, member⟩
      | none =>
          exact iff_of_false Bool.false_ne_true (not_names_of_lookup distinctOperations named)
  · obtain ⟨value, masked⟩ : planned.value = _ ∧ planned.maskedNative = _ :=
      plannedFor_free (fun member => set (inContext.mp member)) descriptor.default.value
    rw [value, masked]
    refine ⟨?_, iff_of_false Bool.false_ne_true fun both => set both.1⟩
    cases named : (nativeOperations native).lookup descriptor.id with
    | some operation =>
        obtain ⟨patch, given, member⟩ := names_of_lookup distinctOperations named
        cases operation with
        | set value => exact FirstSource.nativeSet value patch set given member
        | default =>
            rw [found]
            exact FirstSource.nativeDefault patch set given member
    | none =>
        have unnamed := not_names_of_lookup distinctOperations named
        cases mapped : mappedCommon.lookup descriptor.id with
        | some value =>
            exact FirstSource.mapped value set unnamed
              ((lookup_eq_some_iff_mem distinctMapped).mp mapped)
        | none => exact FirstSource.default set unnamed (unmapped mapped)

end Sources

/-! ### Composing -/

section Composing

variable {catalogue : ParameterCatalogue} {expectedIdentity : CatalogueIdentity}
  {realized : PhysicalVoiceId} {mappedCommon : List (String × NativeValue)}
  {native : Option NativePatch} {context : VoiceStylePatch}
  {prepared : PlannedParameters × (String → Option Nat)}

theorem plannable_iff {descriptor : ParameterDescriptor} :
    ParameterCatalogue.plannable descriptor = true ↔ Resettable descriptor := by
  simp only [ParameterCatalogue.plannable, Bool.and_eq_true, decide_eq_true_eq]
  constructor
  · rintro ⟨⟨voice, supported⟩, reset⟩
    exact ⟨voice, supported, reset⟩
  · intro resettable
    exact ⟨⟨resettable.voice, resettable.supported⟩, resettable.reset⟩

/-- The planned parameters are the resettable ones. -/
theorem Prepared.mem_keys (holds : Prepared catalogue mappedCommon native context prepared)
    (id : String) : id ∈ prepared.1.map Prod.fst ↔
      ∃ descriptor ∈ catalogue.parameters, Resettable descriptor ∧ descriptor.id = id := by
  simp only [holds.keys, List.mem_map, ParameterCatalogue.mem_descriptors, plannable_iff, and_assoc]

/-- An edge of the planned parameters is a disturbance. -/
theorem Prepared.pointsTo_iff (holds : Prepared catalogue mappedCommon native context prepared)
    (first second : String) :
    PointsTo (prepared.1.map Prod.fst) (sideEffectsOf catalogue) first second ↔
      Disturbs catalogue first second := by
  rw [PointsTo, holds.mem_keys]
  constructor
  · rintro ⟨⟨descriptor, member, resettable, rfl⟩, effect⟩
    rw [sideEffectsOf_descriptor holds.distinct
      (ParameterCatalogue.mem_descriptors.mpr ⟨member, plannable_iff.mpr resettable⟩)] at effect
    exact ⟨descriptor, member, resettable, rfl, effect⟩
  · rintro ⟨descriptor, member, resettable, rfl, effect⟩
    refine ⟨⟨descriptor, member, resettable, rfl⟩, ?_⟩
    rwa [sideEffectsOf_descriptor holds.distinct
      (ParameterCatalogue.mem_descriptors.mpr ⟨member, plannable_iff.mpr resettable⟩)]

/-- There is no cycle when nothing disturbs itself along the way. -/
theorem Prepared.acyclic_iff (holds : Prepared catalogue mappedCommon native context prepared) :
    Acyclic (prepared.1.map Prod.fst) (sideEffectsOf catalogue) ↔
      ¬∃ id, Relation.TransGen (Disturbs catalogue) id id := by
  have same : PointsTo (prepared.1.map Prod.fst) (sideEffectsOf catalogue) =
      Disturbs catalogue := by
    funext first second
    exact propext (holds.pointsTo_iff first second)
  rw [Acyclic, same, not_exists]

/-- **Composing a prepared plan** orders it, or finds that some parameters are left out. -/
theorem Prepared.compose (holds : Prepared catalogue mappedCommon native context prepared)
    (done : prepare catalogue expectedIdentity realized mappedCommon native context =
      .ok prepared) :
    ∃ order left, (order ++ left).Perm (prepared.1.map Prod.fst) ∧
      InDependencyOrder (sideEffectsOf catalogue) order ∧
      (order.length = prepared.1.length ↔
        ¬∃ id, Relation.TransGen (Disturbs catalogue) id id) ∧
      Parameters.compose catalogue expectedIdentity realized mappedCommon native context =
        if order.length = prepared.1.length then
          .ok ⟨realized, catalogue.identity, prepared.1, order⟩
        else .error .dependencyCycle := by
  obtain ⟨order, left, found, listed, ordered, pointed⟩ := holds.ordered
  refine ⟨order, left, listed, ordered, ?_, ?_⟩
  · rw [← holds.acyclic_iff, ← ordered.length_eq_iff_acyclic listed holds.closed pointed,
      List.length_map]
  · have answered : orError PlanError.panicked (some order) = .ok order := rfl
    rw [Parameters.compose, done, ok_bind, found, answered, ok_bind]
    by_cases complete : order.length = prepared.1.length
    · rw [if_pos complete, decide_eq_true complete]
      rfl
    · rw [if_neg complete, decide_eq_false complete]
      rfl

theorem Prepared.planLaw (holds : Prepared catalogue mappedCommon native context prepared)
    (distinctMapped : (mappedCommon.map Prod.fst).Nodup)
    (distinctOperations : ((nativeOperations native).map Prod.fst).Nodup) {order : List String}
    (listed : order.Perm (prepared.1.map Prod.fst))
    (ordered : InDependencyOrder (sideEffectsOf catalogue) order) :
    PlanLaw catalogue mappedCommon native context
      ⟨realized, catalogue.identity, prepared.1, order⟩ where
  plans := holds.mem_keys
  valued descriptor member resettable := by
    obtain ⟨explicit, given, lookups⟩ := holds.planned
    have found := (ParameterCatalogue.descriptor_eq_some holds.distinct).mpr
      ⟨ParameterCatalogue.mem_descriptors.mpr ⟨member, plannable_iff.mpr resettable⟩, rfl⟩
    refine ⟨_, by rw [lookups, found]; rfl, ?_⟩
    exact plannedFor_firstSource distinctMapped distinctOperations (contextual_iff given _) found
  permutes := ⟨listed, listed.nodup_iff.mpr holds.keys_distinct⟩
  restores before after applied id planned value found known := by
    have restorable : Restorable prepared.1 id := ⟨planned, found, by rw [known]; rfl⟩
    exact applied.restored ordered.apart (listed.nodup_iff.mpr holds.keys_distinct)
      (listed.mem_iff.mpr restorable.planned) found known
  undisturbed part within before after applied id planned found unknown := by
    refine applied.undisturbed ?_ found unknown
    intro other member effect
    -- a side effect reaches only a parameter whose value is known
    obtain ⟨reached, foundAgain, known⟩ :=
      holds.reaches other (listed.mem_iff.mp (within.subset member)) id effect
    rw [found] at foundAgain
    cases foundAgain
    rw [unknown] at known
    cases known

end Composing

/-- **Native plan composition.** Composing does not panic. Each planned parameter has the value
of the first source that applies, applying the plan in its order leaves every parameter at its
planned value, and a plan is refused for its side effects exactly when they are cyclic. -/
theorem native_plan_composition (catalogue : ParameterCatalogue)
    (expectedIdentity : CatalogueIdentity) (realized : PhysicalVoiceId)
    (mappedCommon : List (String × NativeValue)) (native : Option NativePatch)
    (context : VoiceStylePatch) (mappedInOrder : InKeyOrder mappedCommon)
    (nativeInOrder : ∀ patch ∈ native, InKeyOrder patch.parameters) :
    ComposeLaw catalogue expectedIdentity realized mappedCommon native context := by
  have distinctOperations : ((nativeOperations native).map Prod.fst).Nodup := by
    cases native with
    | none => exact List.nodup_nil
    | some patch => exact (nativeInOrder patch rfl).distinct
  cases done : prepare catalogue expectedIdentity realized mappedCommon native context with
  | error error =>
      have failed : compose catalogue expectedIdentity realized mappedCommon native context =
          .error error := by
        rw [compose, done]
        rfl
      refine ⟨?_, ?_, ?_⟩
      · rw [failed]
        intro same
        cases same
        exact noPanic_prepare _ done rfl
      · intro plan composed
        rw [failed] at composed
        cases composed
      · intro prepared succeeded
        rw [done] at succeeded
        cases succeeded
  | ok prepared =>
      have holds := prepare_ok mappedInOrder.distinct distinctOperations done
      obtain ⟨order, left, listed, ordered, acyclic, composed⟩ := holds.compose done
      have complete : order.length = prepared.1.length → left = [] := by
        intro same
        have lengths := listed.length_eq
        rw [List.length_append, List.length_map] at lengths
        exact List.length_eq_zero_iff.mp (by omega)
      by_cases whole : order.length = prepared.1.length
      · rw [if_pos whole] at composed
        rw [complete whole, List.append_nil] at listed
        refine ⟨?_, ?_, ?_⟩
        · rw [composed]
          intro same
          cases same
        · intro plan given
          rw [composed] at given
          cases given
          exact holds.planLaw mappedInOrder.distinct distinctOperations listed ordered
        · intro again succeeded
          rw [composed]
          exact ⟨iff_of_false (fun same => by cases same) (acyclic.mp whole),
            fun _ => ⟨_, rfl⟩⟩
      · rw [if_neg whole] at composed
        refine ⟨?_, ?_, ?_⟩
        · rw [composed]
          intro same
          cases same
        · intro plan given
          rw [composed] at given
          cases given
        · intro again succeeded
          rw [composed]
          exact ⟨iff_of_true rfl (not_not.mp fun none => whole (acyclic.mpr none)),
            fun refused => absurd rfl refused⟩

/-! ### A voice with two parameters -/

def breathIdentity : CatalogueIdentity where
  schemaId := "flite.v1"
  profileId := "slt"
  catalogueRevision := String.ofList (List.replicate 64 '0')
  runtimeGeneration := 1

/-- Setting the breath moves the tilt. -/
def breath : ParameterDescriptor where
  id := "breath"
  label := "Breath"
  help := "How much breath is heard"
  group := "quality"
  order := 0
  unit := none
  valueType := .integer 0 100 1
  scope := .voice
  adjustable := true
  availability := ⟨.supported, none⟩
  default := ⟨.qualifiedProfile, some (.integer 0), true⟩
  sideEffects := ["tilt"]

def tilt : ParameterDescriptor :=
  { breath with
    id := "tilt"
    label := "Tilt"
    help := "The tilt of the spectrum"
    sideEffects := [] }

def breathCatalogue : ParameterCatalogue where
  engineId := "flite"
  identity := breathIdentity
  voiceId := some "slt"
  parameters := [tilt, breath]
  mappings := [⟨[.richness], ["tilt"]⟩]

/-- A context that sets the richness. -/
def richContext : VoiceStylePatch where
  averagePitch := none
  pitchRange := none
  stress := none
  richness := some .default
  gain := none
  lowPass := none
  highPass := none
  pan := none
  reverb := none
  echo := none
  chorus := none
  rateOffset := none

def breathPatch : NativePatch where
  engineId := "flite"
  schemaId := "flite.v1"
  parameters := [("breath", .set (.integer 30)), ("tilt", .set (.integer 10))]

/-- The breath is set and applied first; the tilt is kept from the patch. -/
theorem native_plan_composition_breath :
    compose breathCatalogue breathIdentity ⟨"flite", "slt"⟩ [("breath", .integer 5)]
        (some breathPatch) richContext =
      .ok ⟨⟨"flite", "slt"⟩, breathIdentity,
        [("breath", ⟨some (.integer 30), .nativeSet, false⟩),
          ("tilt", ⟨some (.integer 0), .contextMapping, true⟩)], ["breath", "tilt"]⟩ ∧
      ComposeLaw breathCatalogue breathIdentity ⟨"flite", "slt"⟩ [("breath", .integer 5)]
        (some breathPatch) richContext := by
  refine ⟨by decide, ?_⟩
  refine native_plan_composition _ _ _ _ _ _ (List.pairwise_singleton _ _) ?_
  intro patch given
  cases given
  unfold InKeyOrder
  decide

end Omnivox.Parameters
