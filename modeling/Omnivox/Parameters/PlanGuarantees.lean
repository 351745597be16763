import Omnivox.Parameters.Planning

/-!
# What planning guarantees

Each planned parameter is made of its own default, common value and operation, whatever the
other entries are (`lookup_passes`). Every side effect reaches a planned parameter whose value
is known, and ordering a prepared plan does not fail (`prepare_ok`, `Prepared.ordered`). The
passes expect what was checked before them, so preparing does not panic (`noPanic_prepare`).
-/

set_option autoImplicit false

namespace Omnivox.Parameters

open Foundations
open Engines (Adjustment NativePatch NativeValue ParameterError PhysicalVoiceId VoiceSelector
  VoiceStylePatch)

/-! ## Valid catalogues -/

namespace ParameterCatalogue

theorem validateParameters_ok {voiceId : Option String} {seen : List String}
    {parameters : List ParameterDescriptor}
    (valid : validateParameters voiceId seen parameters = .ok ()) :
    (parameters.map ParameterDescriptor.id).Nodup ∧
      ∀ descriptor ∈ parameters, descriptor.id ∉ seen ∧ descriptor.validate = .ok () := by
  induction parameters generalizing seen with
  | nil => simp
  | cons descriptor rest ih =>
      rw [validateParameters, seq_eq_ok, seq_eq_ok, seq_eq_ok] at valid
      obtain ⟨described, fresh, -, further⟩ := valid
      obtain ⟨distinct, others⟩ := ih further
      rw [ensure_eq_ok, Bool.not_eq_true', List.contains_eq_mem, decide_eq_false_iff_not] at fresh
      constructor
      · rw [List.map_cons, List.nodup_cons]
        refine ⟨?_, distinct⟩
        intro repeated
        obtain ⟨other, member, same⟩ := List.mem_map.mp repeated
        exact (others other member).1 (same ▸ List.mem_cons_self)
      · refine List.forall_mem_cons.mpr ⟨⟨fresh, described⟩, ?_⟩
        intro other member
        exact ⟨fun before => (others other member).1 (List.mem_cons_of_mem _ before),
          (others other member).2⟩

/-- A valid catalogue describes each of its parameters once. -/
theorem validate_ok {catalogue : ParameterCatalogue} (valid : catalogue.validate = .ok ()) :
    (catalogue.parameters.map ParameterDescriptor.id).Nodup ∧
      ∀ descriptor ∈ catalogue.parameters, descriptor.validate = .ok () := by
  unfold validate at valid
  obtain ⟨_, -, valid⟩ := bind_eq_ok.mp valid
  obtain ⟨_, -, valid⟩ := bind_eq_ok.mp valid
  obtain ⟨_, -, valid⟩ := bind_eq_ok.mp valid
  obtain ⟨_, -, valid⟩ := bind_eq_ok.mp valid
  obtain ⟨_, described, -⟩ := bind_eq_ok.mp valid
  obtain ⟨distinct, each⟩ := validateParameters_ok described
  exact ⟨distinct, fun descriptor member => (each descriptor member).2⟩


/-- An adjustable parameter of the voice can be reset. -/
theorem resetSupported_of_adjustable {descriptor : ParameterDescriptor}
    (valid : descriptor.validate = .ok ()) (voice : descriptor.scope = .voice)
    (adjustable : descriptor.adjustable = true) : descriptor.default.resetSupported = true := by
  unfold ParameterDescriptor.validate at valid
  obtain ⟨_, -, valid⟩ := bind_eq_ok.mp valid
  obtain ⟨_, -, valid⟩ := bind_eq_ok.mp valid
  obtain ⟨_, -, valid⟩ := bind_eq_ok.mp valid
  obtain ⟨_, -, valid⟩ := bind_eq_ok.mp valid
  obtain ⟨_, -, valid⟩ := bind_eq_ok.mp valid
  obtain ⟨_, -, valid⟩ := bind_eq_ok.mp valid
  obtain ⟨_, resettable, -⟩ := bind_eq_ok.mp valid
  simpa [voice, adjustable] using resettable

/-! ## Descriptors of a plan -/

variable {catalogue : ParameterCatalogue} {id : String} {descriptor : ParameterDescriptor}

theorem mem_descriptors : descriptor ∈ catalogue.descriptors ↔
    descriptor ∈ catalogue.parameters ∧ plannable descriptor = true := by
  rw [descriptors, mem_sortBy, List.mem_filter]

theorem descriptors_distinct
    (distinct : (catalogue.parameters.map ParameterDescriptor.id).Nodup) :
    (catalogue.descriptors.map ParameterDescriptor.id).Nodup := by
  have sorted : catalogue.descriptors.Perm (catalogue.parameters.filter plannable) :=
    List.perm_insertionSort _ _
  rw [(sorted.map ParameterDescriptor.id).nodup_iff]
  exact distinct.sublist (List.filter_sublist.map _)

theorem descriptor_eq_some
    (distinct : (catalogue.parameters.map ParameterDescriptor.id).Nodup) :
    catalogue.descriptor id = some descriptor ↔
      descriptor ∈ catalogue.descriptors ∧ descriptor.id = id :=
  find?_key_eq_some (descriptors_distinct distinct)

/-- What an operation names is planned, if the operation was validated. -/
theorem descriptor_of_validated (valid : catalogue.validate = .ok ())
    {operation : String × Adjustment NativeValue}
    (validated : catalogue.validateOperation operation = .ok ()) :
    ∃ descriptor, catalogue.descriptor operation.1 = some descriptor := by
  obtain ⟨distinct, each⟩ := validate_ok valid
  unfold validateOperation at validated
  obtain ⟨descriptor, found, validated⟩ := bind_eq_ok.mp validated
  obtain ⟨_, adjustable, -⟩ := bind_eq_ok.mp validated
  rw [orError_eq_ok, described, find?_key_eq_some distinct] at found
  obtain ⟨member, named⟩ := found
  rw [ensure_eq_ok, Bool.and_eq_true, Bool.and_eq_true, decide_eq_true_eq,
    decide_eq_true_eq] at adjustable
  obtain ⟨⟨voice, adjusted⟩, supported⟩ := adjustable
  have resettable := resetSupported_of_adjustable (each descriptor member) voice adjusted
  refine ⟨descriptor, (descriptor_eq_some distinct).mpr ⟨mem_descriptors.mpr ⟨member, ?_⟩, named⟩⟩
  simp [plannable, voice, supported, resettable]

end ParameterCatalogue

/-! ## Values -/

section Values

variable {catalogue : ParameterCatalogue} {contextual : List String}
  {parameters next : PlannedParameters}

theorem changePlanned_ok {id : String} {change : PlannedParameter → PlannedParameter} :
    changePlanned id change parameters = .ok next ↔
      (parameters.lookup id).isSome = true ∧ next = reviseAt id change parameters := by
  rw [changePlanned, seq_eq_ok, ensure_eq_ok]
  exact and_congr_right fun _ => ⟨fun done => by cases done; rfl, fun same => by rw [same]; rfl⟩

theorem applyMapped_ok {entry : String × NativeValue}
    (done : applyMapped catalogue parameters entry = .ok next) :
    next = reviseAt entry.1 (PlannedParameter.mapped entry.2) parameters := by
  unfold applyMapped at done
  obtain ⟨_, -, done⟩ := bind_eq_ok.mp done
  obtain ⟨_, -, done⟩ := bind_eq_ok.mp done
  exact (changePlanned_ok.mp done).2

/-- What one operation of the native patch does to its parameter. -/
def nativeChange (catalogue : ParameterCatalogue) (contextual : List String) (id : String)
    (operation : Adjustment NativeValue) (planned : PlannedParameter) : PlannedParameter :=
  if contextual.contains id then { planned with maskedNative := true }
  else planned.adjusted ((catalogue.descriptor id).bind fun descriptor => descriptor.default.value)
    operation

theorem applyNative_ok {operation : String × Adjustment NativeValue}
    (done : applyNative catalogue contextual parameters operation = .ok next) :
    next = reviseAt operation.1 (nativeChange catalogue contextual operation.1 operation.2)
      parameters := by
  unfold applyNative at done
  split at done
  · rename_i masked
    rw [(changePlanned_ok.mp done).2]
    congr 1
    funext planned
    rw [nativeChange, if_pos masked]
  · rename_i free
    obtain ⟨_, -, done⟩ := bind_eq_ok.mp done
    rw [(changePlanned_ok.mp done).2]
    congr 1
    funext planned
    rw [nativeChange, if_neg free]

/-- The planned parameter that the passes make of a default. -/
def plannedFor (catalogue : ParameterCatalogue) (mappedCommon : List (String × NativeValue))
    (operations : List (String × Adjustment NativeValue)) (contextual : List String) (id : String)
    (planned : PlannedParameter) : PlannedParameter :=
  let mapped := ((mappedCommon.lookup id).map (PlannedParameter.mapped · planned)).getD planned
  let marked := mapped.marked contextual id
  ((operations.lookup id).map (nativeChange catalogue contextual id · marked)).getD marked

theorem lookup_defaults (catalogue : ParameterCatalogue) (id : String) :
    catalogue.defaults.lookup id = (catalogue.descriptor id).map fun descriptor =>
      ⟨descriptor.default.value, .engineDefault, false⟩ :=
  lookup_map_find ParameterDescriptor.id _ catalogue.descriptors id

theorem lookup_markContextual (contextual : List String) (parameters : PlannedParameters)
    (id : String) : (markContextual contextual parameters).lookup id =
      (parameters.lookup id).map (PlannedParameter.marked contextual id) :=
  lookup_map_entries (fun key planned => PlannedParameter.marked contextual key planned) parameters
    id

/-- **The passes** make each planned parameter of its own default, common value and
operation. -/
theorem lookup_passes {mappedCommon : List (String × NativeValue)}
    {operations : List (String × Adjustment NativeValue)} {final : PlannedParameters}
    (distinctMapped : (mappedCommon.map Prod.fst).Nodup)
    (distinctOperations : (operations.map Prod.fst).Nodup)
    (mapped : mappedCommon.foldlM (applyMapped catalogue) catalogue.defaults = .ok parameters)
    (adjusted : operations.foldlM (applyNative catalogue contextual)
      (markContextual contextual parameters) = .ok final) (id : String) :
    final.lookup id = (catalogue.descriptor id).map fun descriptor =>
      plannedFor catalogue mappedCommon operations contextual id
        ⟨descriptor.default.value, .engineDefault, false⟩ := by
  rw [foldl_of_foldlM_eq_ok (fun _ _ _ => applyNative_ok) adjusted,
    lookup_foldl_reviseAt (nativeChange catalogue contextual) distinctOperations,
    lookup_markContextual,
    foldl_of_foldlM_eq_ok (fun _ _ _ => applyMapped_ok) mapped,
    lookup_foldl_reviseAt (fun _ value => PlannedParameter.mapped value) distinctMapped,
    lookup_defaults, Option.map_map, Option.map_map, Option.map_map]
  rfl

theorem keys_applyMapped {entry : String × NativeValue}
    (done : applyMapped catalogue parameters entry = .ok next) :
    next.map Prod.fst = parameters.map Prod.fst := by
  rw [applyMapped_ok done, keys_reviseAt]

theorem keys_applyNative {operation : String × Adjustment NativeValue}
    (done : applyNative catalogue contextual parameters operation = .ok next) :
    next.map Prod.fst = parameters.map Prod.fst := by
  rw [applyNative_ok done, keys_reviseAt]

@[simp] theorem keys_markContextual :
    (markContextual contextual parameters).map Prod.fst = parameters.map Prod.fst := by
  rw [markContextual, List.map_map]
  rfl

@[simp] theorem keys_defaults : catalogue.defaults.map Prod.fst =
    catalogue.descriptors.map ParameterDescriptor.id := by
  rw [ParameterCatalogue.defaults, List.map_map]
  rfl

end Values

/-! ## Side effects -/

section SideEffects

variable {parameters : PlannedParameters} {incoming final : String → Option Nat}

/-- The side effects of applying a planned parameter. -/
def sideEffectsOf (catalogue : ParameterCatalogue) (id : String) : List String :=
  ((catalogue.descriptor id).map ParameterDescriptor.sideEffects).getD []

/-- A planned parameter whose value is known. -/
def Restorable (parameters : PlannedParameters) (id : String) : Prop :=
  ∃ planned, parameters.lookup id = some planned ∧ planned.value.isSome = true

theorem countEffect_ok {descriptor : ParameterDescriptor} {target : String}
    (done : countEffect parameters descriptor incoming target = .ok final) :
    (∀ id, final id = (incoming id).map (· + [target].count id)) ∧
      Restorable parameters target := by
  unfold countEffect at done
  obtain ⟨count, counted, done⟩ := bind_eq_ok.mp done
  obtain ⟨planned, found, done⟩ := bind_eq_ok.mp done
  obtain ⟨_, known, done⟩ := bind_eq_ok.mp done
  rw [orError_eq_ok] at counted found
  rw [ensure_eq_ok] at known
  cases done
  refine ⟨?_, planned, found, known⟩
  intro id
  by_cases same : id = target
  · subst same
    simp [counted]
  · rw [Function.update_of_ne same, List.count_singleton, if_neg (by simpa using Ne.symm same)]
    simp

theorem countEffects_ok {descriptor : ParameterDescriptor} {targets : List String}
    (done : targets.foldlM (countEffect parameters descriptor) incoming = .ok final) :
    (∀ id, final id = (incoming id).map (· + targets.count id)) ∧
      ∀ target ∈ targets, Restorable parameters target := by
  induction targets generalizing incoming with
  | nil =>
      cases done
      simp
  | cons target rest ih =>
      obtain ⟨middle, first, further⟩ := foldlM_cons_eq_ok.mp done
      obtain ⟨counted, restorable⟩ := countEffect_ok first
      obtain ⟨others, reached⟩ := ih further
      refine ⟨?_, List.forall_mem_cons.mpr ⟨restorable, reached⟩⟩
      intro id
      rw [others, counted, Option.map_map]
      congr 1
      funext count
      rw [Function.comp_apply, Nat.add_assoc, ← List.count_append, List.singleton_append]

/-- **Counting** adds the side effects of all descriptors, and each reaches a planned
parameter whose value is known. -/
theorem countAll_ok {descriptors : List ParameterDescriptor}
    (done : descriptors.foldlM (countEffects parameters) incoming = .ok final) :
    (∀ id, final id = (incoming id).map
      (· + (descriptors.flatMap ParameterDescriptor.sideEffects).count id)) ∧
      ∀ descriptor ∈ descriptors, ∀ target ∈ descriptor.sideEffects,
        Restorable parameters target := by
  induction descriptors generalizing incoming with
  | nil =>
      cases done
      simp
  | cons descriptor rest ih =>
      obtain ⟨middle, first, further⟩ := foldlM_cons_eq_ok.mp done
      obtain ⟨counted, restorable⟩ := countEffects_ok first
      obtain ⟨others, reached⟩ := ih further
      refine ⟨?_, List.forall_mem_cons.mpr ⟨restorable, reached⟩⟩
      intro id
      rw [others, counted, Option.map_map, List.flatMap_cons]
      congr 1
      funext count
      rw [Function.comp_apply, List.count_append, Nat.add_assoc]

end SideEffects

/-! ## A prepared plan -/

section Prepared

variable {catalogue : ParameterCatalogue} {expectedIdentity : CatalogueIdentity}
  {realized : PhysicalVoiceId} {mappedCommon : List (String × NativeValue)}
  {native : Option NativePatch} {context : VoiceStylePatch}
  {prepared : PlannedParameters × (String → Option Nat)}

/-- What planning knows before it orders the parameters. -/
structure Prepared (catalogue : ParameterCatalogue) (mappedCommon : List (String × NativeValue))
    (native : Option NativePatch) (context : VoiceStylePatch)
    (prepared : PlannedParameters × (String → Option Nat)) : Prop where
  distinct : (catalogue.parameters.map ParameterDescriptor.id).Nodup
  keys : prepared.1.map Prod.fst = catalogue.descriptors.map ParameterDescriptor.id
  planned : ∃ explicit, contextualInputs context = .ok explicit ∧ ∀ id,
    prepared.1.lookup id = (catalogue.descriptor id).map fun descriptor =>
      plannedFor catalogue mappedCommon (nativeOperations native) (catalogue.contextual explicit) id
        ⟨descriptor.default.value, .engineDefault, false⟩
  counted : ∀ id ∈ prepared.1.map Prod.fst, prepared.2 id =
    some ((edgesFrom (sideEffectsOf catalogue) (prepared.1.map Prod.fst)).count id)
  reaches : ∀ id ∈ prepared.1.map Prod.fst, ∀ target ∈ sideEffectsOf catalogue id,
    Restorable prepared.1 target

theorem sideEffectsOf_descriptor
    (distinct : (catalogue.parameters.map ParameterDescriptor.id).Nodup)
    {descriptor : ParameterDescriptor} (member : descriptor ∈ catalogue.descriptors) :
    sideEffectsOf catalogue descriptor.id = descriptor.sideEffects := by
  rw [sideEffectsOf, (ParameterCatalogue.descriptor_eq_some distinct).mpr ⟨member, rfl⟩]
  rfl

/-- The side effects of the planned parameters are those of the descriptors. -/
theorem edgesFrom_descriptors
    (distinct : (catalogue.parameters.map ParameterDescriptor.id).Nodup) :
    edgesFrom (sideEffectsOf catalogue) (catalogue.descriptors.map ParameterDescriptor.id) =
      catalogue.descriptors.flatMap ParameterDescriptor.sideEffects := by
  rw [edgesFrom, List.flatMap_map]
  apply List.flatMap_congr
  intro descriptor member
  exact sideEffectsOf_descriptor distinct member

theorem prepare_ok (distinctMapped : (mappedCommon.map Prod.fst).Nodup)
    (distinctOperations : ((nativeOperations native).map Prod.fst).Nodup)
    (done : prepare catalogue expectedIdentity realized mappedCommon native context =
      .ok prepared) : Prepared catalogue mappedCommon native context prepared := by
  unfold prepare at done
  obtain ⟨_, valid, done⟩ := bind_eq_ok.mp done
  obtain ⟨_, -, done⟩ := bind_eq_ok.mp done
  obtain ⟨_, -, done⟩ := bind_eq_ok.mp done
  obtain ⟨_, -, done⟩ := bind_eq_ok.mp done
  obtain ⟨explicit, given, done⟩ := bind_eq_ok.mp done
  obtain ⟨parameters, mapped, done⟩ := bind_eq_ok.mp done
  obtain ⟨final, adjusted, done⟩ := bind_eq_ok.mp done
  obtain ⟨incoming, counted, done⟩ := bind_eq_ok.mp done
  rw [mapError_eq_ok] at valid given
  cases done
  obtain ⟨distinct, _⟩ := ParameterCatalogue.validate_ok valid
  have lookups := lookup_passes distinctMapped distinctOperations mapped adjusted
  have mappedKeys : parameters.map Prod.fst =
      catalogue.descriptors.map ParameterDescriptor.id :=
    foldlM_keeps (fun state => state.map Prod.fst =
        catalogue.descriptors.map ParameterDescriptor.id)
      (fun _ _ _ _ kept step => (keys_applyMapped step).trans kept) keys_defaults mapped
  have keys : final.map Prod.fst = catalogue.descriptors.map ParameterDescriptor.id :=
    foldlM_keeps (fun state => state.map Prod.fst =
        catalogue.descriptors.map ParameterDescriptor.id)
      (fun _ _ _ _ kept step => (keys_applyNative step).trans kept)
      (keys_markContextual.trans mappedKeys) adjusted
  obtain ⟨counts, reached⟩ := countAll_ok counted
  refine ⟨distinct, keys, ⟨explicit, given, lookups⟩, ?_, ?_⟩
  · intro id member
    dsimp only at member ⊢
    have planned : (final.lookup id).isSome = true := by
      rw [List.lookup_isSome_iff]
      obtain ⟨entry, listed, same⟩ := List.mem_map.mp member
      exact ⟨entry, listed, by simp [same]⟩
    obtain ⟨value, found⟩ := Option.isSome_iff_exists.mp planned
    rw [counts, uncounted, found, keys, edgesFrom_descriptors distinct]
    simp
  · intro id member target effect
    dsimp only at member ⊢
    rw [keys] at member
    obtain ⟨descriptor, listed, rfl⟩ := List.mem_map.mp member
    rw [sideEffectsOf_descriptor distinct listed] at effect
    exact reached descriptor listed target effect

/-- What is restorable is planned. -/
theorem Restorable.planned {parameters : PlannedParameters} {id : String}
    (restorable : Restorable parameters id) : id ∈ parameters.map Prod.fst := by
  obtain ⟨planned, found, -⟩ := restorable
  have known : (parameters.lookup id).isSome = true := by rw [found]; rfl
  obtain ⟨entry, member, same⟩ := List.lookup_isSome_iff.mp known
  exact List.mem_map.mpr ⟨entry, member, (eq_of_beq same).symm⟩

theorem Prepared.keys_distinct (holds : Prepared catalogue mappedCommon native context prepared) :
    (prepared.1.map Prod.fst).Nodup := by
  rw [holds.keys]
  exact ParameterCatalogue.descriptors_distinct holds.distinct

theorem Prepared.closed (holds : Prepared catalogue mappedCommon native context prepared) :
    ∀ id ∈ prepared.1.map Prod.fst, ∀ target ∈ sideEffectsOf catalogue id,
      target ∈ prepared.1.map Prod.fst := by
  intro id member target effect
  exact (holds.reaches id member target effect).planned

/-- **Ordering a prepared plan** does not fail. -/
theorem Prepared.ordered (holds : Prepared catalogue mappedCommon native context prepared) :
    ∃ order left, applicationOrder catalogue prepared.1 prepared.2 = some order ∧
      (order ++ left).Perm (prepared.1.map Prod.fst) ∧
      InDependencyOrder (sideEffectsOf catalogue) order ∧
      ∀ id ∈ left, id ∈ edgesFrom (sideEffectsOf catalogue) left := by
  have looksUp : ∀ id ∈ prepared.1.map Prod.fst,
      (catalogue.descriptor id).map ParameterDescriptor.sideEffects =
        some (sideEffectsOf catalogue id) := by
    intro id member
    rw [holds.keys] at member
    obtain ⟨descriptor, listed, rfl⟩ := List.mem_map.mp member
    rw [sideEffectsOf, (ParameterCatalogue.descriptor_eq_some holds.distinct).mpr ⟨listed, rfl⟩]
    rfl
  refine Dependable.dependencyOrder holds.keys_distinct looksUp holds.closed
    (Dependable.start holds.counted ?_) le_rfl
  intro id
  simp

end Prepared

/-! ## Panics -/

section Panics

variable {catalogue : ParameterCatalogue} {parameters : PlannedParameters}

/-- The answer is not a panic. -/
def NoPanic (error : PlanError) : Prop := error ≠ .panicked

theorem noPanic_mapError {α : Type} (answer : Except ParameterError α) :
    FailsWith NoPanic (answer.mapError PlanError.parameter) := by
  cases answer with
  | ok a => exact FailsWith.ok a
  | error e => exact FailsWith.error (by intro same; cases same)

/-- A parameter with a descriptor is planned, if the descriptors are. -/
theorem lookup_of_descriptor {id : String} {descriptor : ParameterDescriptor}
    (keys : parameters.map Prod.fst = catalogue.descriptors.map ParameterDescriptor.id)
    (found : catalogue.descriptor id = some descriptor) : (parameters.lookup id).isSome = true := by
  have member : id ∈ parameters.map Prod.fst := by
    rw [ParameterCatalogue.descriptor] at found
    rw [keys]
    have named := List.find?_some found
    exact List.mem_map.mpr ⟨descriptor, List.mem_of_find?_eq_some found, eq_of_beq named⟩
  obtain ⟨entry, listed, same⟩ := List.mem_map.mp member
  exact List.lookup_isSome_iff.mpr ⟨entry, listed, by simp [same]⟩

theorem noPanic_changePlanned {id : String} {change : PlannedParameter → PlannedParameter}
    (planned : (parameters.lookup id).isSome = true) :
    FailsWith NoPanic (changePlanned id change parameters) := by
  rw [changePlanned]
  refine FailsWith.bind (FailsWith.ensure fun absent => ?_) fun _ => FailsWith.ok _
  rw [planned] at absent
  cases absent

theorem noPanic_applyMapped {entry : String × NativeValue}
    (keys : parameters.map Prod.fst = catalogue.descriptors.map ParameterDescriptor.id) :
    FailsWith NoPanic (applyMapped catalogue parameters entry) := by
  unfold applyMapped
  refine FailsWith.bind_of_ok (FailsWith.orError (by intro same; cases same)) ?_
  intro descriptor found
  rw [orError_eq_ok] at found
  refine FailsWith.bind (FailsWith.ensure fun _ => by intro same; cases same) fun _ => ?_
  exact noPanic_changePlanned (lookup_of_descriptor keys found)

theorem noPanic_applyNative {contextual : List String}
    {operation : String × Adjustment NativeValue} {descriptor : ParameterDescriptor}
    (keys : parameters.map Prod.fst = catalogue.descriptors.map ParameterDescriptor.id)
    (found : catalogue.descriptor operation.1 = some descriptor) :
    FailsWith NoPanic (applyNative catalogue contextual parameters operation) := by
  have planned := lookup_of_descriptor keys found
  unfold applyNative
  split
  · exact noPanic_changePlanned planned
  · refine FailsWith.bind (FailsWith.ensure fun absent => ?_) fun _ => noPanic_changePlanned planned
    rw [found] at absent
    simp at absent

theorem noPanic_countEffect {descriptor : ParameterDescriptor} {incoming : String → Option Nat}
    {target : String}
    (within : ∀ id, (incoming id).isSome = true → (parameters.lookup id).isSome = true) :
    FailsWith NoPanic (countEffect parameters descriptor incoming target) := by
  unfold countEffect
  refine FailsWith.bind_of_ok (FailsWith.orError (by intro same; cases same)) ?_
  intro count counted
  rw [orError_eq_ok] at counted
  obtain ⟨planned, found⟩ := Option.isSome_iff_exists.mp (within target (by rw [counted]; rfl))
  rw [found]
  refine FailsWith.bind (FailsWith.ok planned) fun _ => ?_
  exact FailsWith.bind (FailsWith.ensure fun _ => by intro same; cases same) fun _ =>
    FailsWith.ok _

/-- Every count is that of a planned parameter. -/
def CountsPlanned (parameters : PlannedParameters) (incoming : String → Option Nat) : Prop :=
  ∀ id, (incoming id).isSome = true → (parameters.lookup id).isSome = true

theorem CountsPlanned.countEffect {descriptor : ParameterDescriptor}
    {incoming next : String → Option Nat} {target : String}
    (counts : CountsPlanned parameters incoming)
    (done : Parameters.countEffect parameters descriptor incoming target = .ok next) :
    CountsPlanned parameters next := by
  intro id counted
  rw [(countEffect_ok done).1, Option.isSome_map] at counted
  exact counts id counted

theorem noPanic_countEffects {descriptor : ParameterDescriptor} {incoming : String → Option Nat}
    (counts : CountsPlanned parameters incoming) :
    FailsWith NoPanic (countEffects parameters incoming descriptor) :=
  FailsWith.foldlM_of_keeps (CountsPlanned parameters)
    (fun _ _ _ counts => noPanic_countEffect counts)
    (fun _ _ _ _ counts done => counts.countEffect done) counts

theorem CountsPlanned.countEffects {descriptor : ParameterDescriptor}
    {incoming next : String → Option Nat} (counts : CountsPlanned parameters incoming)
    (done : Parameters.countEffects parameters incoming descriptor = .ok next) :
    CountsPlanned parameters next :=
  foldlM_keeps (CountsPlanned parameters)
    (fun _ _ _ _ counts done => counts.countEffect done) counts done

variable {expectedIdentity : CatalogueIdentity} {realized : PhysicalVoiceId}
  {mappedCommon : List (String × NativeValue)} {native : Option NativePatch}
  {context : VoiceStylePatch}

/-- The operations of a validated patch name planned parameters. -/
theorem operation_planned (valid : catalogue.validate = .ok ())
    (validated : validateNativeFor catalogue realized native = .ok ())
    {operation : String × Adjustment NativeValue} (member : operation ∈ nativeOperations native) :
    ∃ descriptor, catalogue.descriptor operation.1 = some descriptor := by
  cases native with
  | none => exact absurd member List.not_mem_nil
  | some patch =>
      rw [validateNativeFor, validateFor, seq_eq_ok, seq_eq_ok, seq_eq_ok, seq_eq_ok,
        forM_eq_ok] at validated
      obtain ⟨-, -, -, -, each⟩ := validated
      exact ParameterCatalogue.descriptor_of_validated valid (each operation member)

/-- **Preparing does not panic**: what the passes expect was checked before. -/
theorem noPanic_prepare : FailsWith NoPanic
    (prepare catalogue expectedIdentity realized mappedCommon native context) := by
  unfold prepare
  refine FailsWith.bind_of_ok (noPanic_mapError _) fun _ valid => ?_
  refine FailsWith.bind (FailsWith.ensure fun _ => by intro same; cases same) fun _ => ?_
  refine FailsWith.bind (FailsWith.ensure fun _ => by intro same; cases same) fun _ => ?_
  refine FailsWith.bind_of_ok (noPanic_mapError _) fun _ validated => ?_
  refine FailsWith.bind (noPanic_mapError _) fun explicit => ?_
  rw [mapError_eq_ok] at valid validated
  let planned := fun state : PlannedParameters =>
    state.map Prod.fst = catalogue.descriptors.map ParameterDescriptor.id
  refine FailsWith.bind_of_ok (FailsWith.foldlM_of_keeps planned
    (fun _ _ _ kept => noPanic_applyMapped kept)
    (fun _ _ _ _ kept step => (keys_applyMapped step).trans kept) keys_defaults) ?_
  intro parameters mapped
  have keys : planned parameters := foldlM_keeps planned
    (fun _ _ _ _ kept step => (keys_applyMapped step).trans kept) keys_defaults mapped
  refine FailsWith.bind (FailsWith.foldlM_of_keeps planned ?_
    (fun _ _ _ _ kept step => (keys_applyNative step).trans kept)
    (keys_markContextual.trans keys)) fun final => ?_
  · intro operation member state kept
    obtain ⟨descriptor, found⟩ := operation_planned valid validated member
    exact noPanic_applyNative kept found
  · refine FailsWith.bind (FailsWith.foldlM_of_keeps (CountsPlanned final)
      (fun _ _ _ counts => noPanic_countEffects counts)
      (fun _ _ _ _ counts done => counts.countEffects done) ?_) fun _ => FailsWith.ok _
    intro id counted
    rwa [uncounted, Option.isSome_map] at counted

end Panics

end Omnivox.Parameters
