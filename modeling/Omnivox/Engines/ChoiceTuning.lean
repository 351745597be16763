import Omnivox.Engines.Resolution
import Omnivox.Engines.VoiceDefinitions

/-!
# Per-choice tuning

The style of an utterance has three layers: the shared style of its definition, the patch of
the choice that was realized, and the context. `compose` applies the patches one after the
other. Each dimension is then that of the last operation present (`compose_layers`), a rate
offset taking the place of an absolute rate.

The choice is recovered from the reason of a resolution. It is the first choice whose selector
is realized, and none when the voice came from the policy (`resolved_selected`).

Host rates and pans are finite, and a computed rate is rounded to an `f32`.
-/

set_option autoImplicit false

namespace Omnivox.Engines

open Foundations

/-! ## Layers -/

/-- An operation on one member of a style. -/
def replace {T : Type} (operation : Option (Adjustment T)) (destination : Option T) : Option T :=
  match operation with
  | some (.set value) => some value
  | some .default => none
  | none => destination

/-- The members that patches act on. -/
structure TunedStyle where
  acss : NormalizedAcss
  effects : PostSynthesisStyle
  rate : Option Int
  deriving Repr, DecidableEq

/-- Any rate offset drops the absolute rate. -/
def VoiceStylePatch.apply (patch : VoiceStylePatch) (style : TunedStyle) : TunedStyle where
  acss :=
    { style.acss with
      averagePitch := replace patch.averagePitch style.acss.averagePitch
      pitchRange := replace patch.pitchRange style.acss.pitchRange
      stress := replace patch.stress style.acss.stress
      richness := replace patch.richness style.acss.richness
      rate := if patch.rateOffset.isSome then none else style.acss.rate }
  effects :=
    { gain := replace patch.gain style.effects.gain
      lowPass := replace patch.lowPass style.effects.lowPass
      highPass := replace patch.highPass style.effects.highPass
      pan := replace patch.pan style.effects.pan
      chorus := replace patch.chorus style.effects.chorus
      reverb := replace patch.reverb style.effects.reverb
      echo := replace patch.echo style.effects.echo }
  rate := replace patch.rateOffset style.rate

/-- Complete request state before capability adaptation. -/
structure ComposedVoiceStyle where
  choiceId : Option String
  acss : NormalizedAcss
  effects : PostSynthesisStyle
  deriving Repr, DecidableEq

/-- `apply_rate_offset`, with a rounding to the nearest `f32`. -/
def applyRateOffset (nearest : ℚ → ℚ) (baseRate : ℚ) (offsetPoints : Int) : ℚ :=
  clampNormalized (nearest (baseRate + nearest (offsetPoints / 100)))

/-- A nonzero offset is applied to the host rate. -/
def offsetRate (nearest : ℚ → ℚ) (baseRate : ℚ) (style : TunedStyle) : Option ℚ :=
  match style.rate.filter fun offset => offset != 0 with
  | some offset => some (applyRateOffset nearest baseRate offset)
  | none => style.acss.rate

namespace LayeredVoiceDefinition

/-- Preserve the resolver's original preference occurrence; never join physical identities. -/
def selectedIndex : ResolutionReason → Except ChoiceTuningError (Option Nat)
  | .preferred => .ok (some 0)
  | .explicitAlternative preferenceIndex =>
      if 0 < preferenceIndex then .ok (some preferenceIndex)
      else .error (.invalid "invalid alternative index")
  | _ => .ok none

def selectedChoice (layered : LayeredVoiceDefinition) (resolution : VoiceResolution) :
    Except ChoiceTuningError (Option Nat) := do
  ensure (resolution.logicalVoiceId = layered.id)
    (.invalid "resolution belongs to another definition")
  let index ← selectedIndex resolution.reason
  ensure (index.all fun index => index < layered.choices.length)
    (.invalid "resolution has no matching choice record")
  return index

/-- The choice of an index that may be absent. -/
def choiceAt (layered : LayeredVoiceDefinition) :
    Option Nat → Except ChoiceTuningError (Option VoiceChoice)
  | none => .ok none
  | some index => (orError (.invalid "unknown choice index") layered.choices[index]?).map some

/-- The patches of the choice and of the context, in the order in which they are applied. -/
def patches (choice : Option VoiceChoice) (context : VoiceStylePatch) : List VoiceStylePatch :=
  (choice.map VoiceChoice.adjustments).toList ++ [context]

/-- The style that the layers make. -/
def tuned (layered : LayeredVoiceDefinition) (choice : Option VoiceChoice)
    (context : VoiceStylePatch) : TunedStyle :=
  (patches choice context).foldl (fun style patch => patch.apply style)
    ⟨layered.shared.acss, layered.shared.effects, layered.shared.rateOffset⟩

/-- Compose fresh shared, choice and context layers, then existing placement. Zero or default
offset preserves a host rate above one. -/
def compose (nearest : ℚ → ℚ) (layered : LayeredVoiceDefinition) (choiceIndex : Option Nat)
    (context : VoiceStylePatch) (baseRate : ℚ) (placementPan : Option ℚ) :
    Except ChoiceTuningError ComposedVoiceStyle := do
  layered.validate
  context.validate
  ensure (0 ≤ baseRate && baseRate ≤ 2) (.invalid "host rate must be finite in [0, 2]")
  placementPan.toList.forM normalized
  let choice ← layered.choiceAt choiceIndex
  let style := layered.tuned choice context
  return {
    choiceId := choice.map VoiceChoice.id
    acss := { style.acss with rate := offsetRate nearest baseRate style }
    effects := { style.effects with pan := placementPan.or style.effects.pan } }

end LayeredVoiceDefinition

/-! ## The last operation present -/

/-- The last operation present decides, and the shared value where none is. -/
def lastPresent {T : Type} (shared : Option T) (operations : List (Option (Adjustment T))) :
    Option T :=
  match operations.reduceOption.getLast? with
  | some (.set value) => some value
  | some .default => none
  | none => shared

theorem lastPresent_concat {T : Type} (shared : Option T)
    (operations : List (Option (Adjustment T))) (operation : Option (Adjustment T)) :
    lastPresent shared (operations ++ [operation]) =
      replace operation (lastPresent shared operations) := by
  unfold lastPresent
  rw [List.reduceOption_append]
  cases operation with
  | none => simp [List.reduceOption, replace]
  | some operation => cases operation <;> simp [List.reduceOption, replace]

/-- **Replacing one after another** leaves the last operation present. -/
theorem foldl_replace {T : Type} (shared : Option T) (operations : List (Option (Adjustment T))) :
    operations.foldl (fun value operation => replace operation value) shared =
      lastPresent shared operations := by
  induction operations using List.reverseRecOn with
  | nil => rfl
  | append_singleton before last ih =>
      rw [List.foldl_concat, ih, lastPresent_concat]

/-- What applying one patch replaces, applying many replaces one after another. -/
theorem foldl_apply {T : Type} (read : TunedStyle → Option T)
    (member : VoiceStylePatch → Option (Adjustment T))
    (replaces : ∀ (patch : VoiceStylePatch) (style : TunedStyle),
      read (patch.apply style) = replace (member patch) (read style))
    (applied : List VoiceStylePatch) (style : TunedStyle) :
    read (applied.foldl (fun style patch => patch.apply style) style) =
      lastPresent (read style) (applied.map member) := by
  rw [← foldl_replace, List.foldl_map]
  induction applied generalizing style with
  | nil => rfl
  | cons patch rest ih => rw [List.foldl_cons, List.foldl_cons, ih, replaces]

/-- An absolute rate is dropped by any rate offset that is present. -/
theorem foldl_apply_rate (applied : List VoiceStylePatch) (style : TunedStyle) :
    (applied.foldl (fun style patch => patch.apply style) style).acss.rate =
      if applied.any fun patch => patch.rateOffset.isSome then none else style.acss.rate := by
  induction applied generalizing style with
  | nil => rfl
  | cons patch rest ih =>
      have first : (patch.apply style).acss.rate =
          if patch.rateOffset.isSome then none else style.acss.rate := rfl
      rw [List.foldl_cons, ih, List.any_cons, first]
      cases patch.rateOffset.isSome <;>
        cases rest.any fun patch => patch.rateOffset.isSome <;> rfl

theorem foldl_apply_volume (applied : List VoiceStylePatch) (style : TunedStyle) :
    (applied.foldl (fun style patch => patch.apply style) style).acss.volume =
      style.acss.volume := by
  induction applied generalizing style with
  | nil => rfl
  | cons patch rest ih =>
      rw [List.foldl_cons, ih]
      rfl

/-! ## Composition -/

namespace LayeredVoiceDefinition

/-- **Each dimension is that of the last operation present** among the shared value, the patch
of the choice and the context. -/
structure Layers (nearest : ℚ → ℚ) (layered : LayeredVoiceDefinition)
    (choice : Option VoiceChoice) (context : VoiceStylePatch) (baseRate : ℚ)
    (placementPan : Option ℚ) (composed : ComposedVoiceStyle) : Prop where
  choiceId : composed.choiceId = choice.map VoiceChoice.id
  averagePitch : composed.acss.averagePitch = lastPresent layered.shared.acss.averagePitch
    ((patches choice context).map VoiceStylePatch.averagePitch)
  pitchRange : composed.acss.pitchRange = lastPresent layered.shared.acss.pitchRange
    ((patches choice context).map VoiceStylePatch.pitchRange)
  stress : composed.acss.stress = lastPresent layered.shared.acss.stress
    ((patches choice context).map VoiceStylePatch.stress)
  richness : composed.acss.richness = lastPresent layered.shared.acss.richness
    ((patches choice context).map VoiceStylePatch.richness)
  gain : composed.effects.gain = lastPresent layered.shared.effects.gain
    ((patches choice context).map VoiceStylePatch.gain)
  lowPass : composed.effects.lowPass = lastPresent layered.shared.effects.lowPass
    ((patches choice context).map VoiceStylePatch.lowPass)
  highPass : composed.effects.highPass = lastPresent layered.shared.effects.highPass
    ((patches choice context).map VoiceStylePatch.highPass)
  reverb : composed.effects.reverb = lastPresent layered.shared.effects.reverb
    ((patches choice context).map VoiceStylePatch.reverb)
  echo : composed.effects.echo = lastPresent layered.shared.effects.echo
    ((patches choice context).map VoiceStylePatch.echo)
  chorus : composed.effects.chorus = lastPresent layered.shared.effects.chorus
    ((patches choice context).map VoiceStylePatch.chorus)
  /-- The placement overrides every layer. -/
  pan : composed.effects.pan = placementPan.or (lastPresent layered.shared.effects.pan
    ((patches choice context).map VoiceStylePatch.pan))
  /-- A rate offset that is not zero replaces the absolute rate. -/
  offset : ∀ points, lastPresent layered.shared.rateOffset
      ((patches choice context).map VoiceStylePatch.rateOffset) = some points → points ≠ 0 →
    composed.acss.rate = some (applyRateOffset nearest baseRate points)
  /-- Without one, the absolute rate stays unless some patch has an operation on the offset. -/
  rate : (∀ points, lastPresent layered.shared.rateOffset
      ((patches choice context).map VoiceStylePatch.rateOffset) = some points → points = 0) →
    composed.acss.rate =
      if (patches choice context).any fun patch => patch.rateOffset.isSome then none
      else layered.shared.acss.rate
  volume : composed.acss.volume = layered.shared.acss.volume

variable {nearest : ℚ → ℚ} {layered : LayeredVoiceDefinition} {index : Option Nat}
  {context : VoiceStylePatch} {baseRate : ℚ} {placementPan : Option ℚ}

theorem compose_layers {composed : ComposedVoiceStyle}
    (done : layered.compose nearest index context baseRate placementPan = .ok composed) :
    ∃ choice, layered.choiceAt index = .ok choice ∧
      Layers nearest layered choice context baseRate placementPan composed := by
  unfold compose at done
  obtain ⟨_, -, done⟩ := bind_eq_ok.mp done
  obtain ⟨_, -, done⟩ := bind_eq_ok.mp done
  obtain ⟨_, -, done⟩ := bind_eq_ok.mp done
  obtain ⟨_, -, done⟩ := bind_eq_ok.mp done
  obtain ⟨choice, chosen, done⟩ := bind_eq_ok.mp done
  cases done
  have offsets : (layered.tuned choice context).rate = lastPresent layered.shared.rateOffset
      ((patches choice context).map VoiceStylePatch.rateOffset) :=
    foldl_apply TunedStyle.rate VoiceStylePatch.rateOffset (fun _ _ => rfl) _ _
  refine ⟨choice, chosen, rfl,
    foldl_apply (fun style => style.acss.averagePitch) _ (fun _ _ => rfl) _ _,
    foldl_apply (fun style => style.acss.pitchRange) _ (fun _ _ => rfl) _ _,
    foldl_apply (fun style => style.acss.stress) _ (fun _ _ => rfl) _ _,
    foldl_apply (fun style => style.acss.richness) _ (fun _ _ => rfl) _ _,
    foldl_apply (fun style => style.effects.gain) _ (fun _ _ => rfl) _ _,
    foldl_apply (fun style => style.effects.lowPass) _ (fun _ _ => rfl) _ _,
    foldl_apply (fun style => style.effects.highPass) _ (fun _ _ => rfl) _ _,
    foldl_apply (fun style => style.effects.reverb) _ (fun _ _ => rfl) _ _,
    foldl_apply (fun style => style.effects.echo) _ (fun _ _ => rfl) _ _,
    foldl_apply (fun style => style.effects.chorus) _ (fun _ _ => rfl) _ _,
    congrArg placementPan.or
      (foldl_apply (fun style => style.effects.pan) _ (fun _ _ => rfl) _ _), ?_, ?_, ?_⟩
  · intro points last nonzero
    dsimp only
    rw [offsetRate, offsets, last, Option.filter_some, if_pos (bne_iff_ne.mpr nonzero)]
  · intro zero
    have dropped : (layered.tuned choice context).rate.filter (fun offset => offset != 0) =
        none := by
      rw [offsets, Option.filter_eq_none_iff]
      intro points last
      rw [zero points last]
      decide
    dsimp only
    rw [offsetRate, dropped]
    exact foldl_apply_rate _ _
  · exact foldl_apply_volume _ _

/-- Valid layers compose, for every choice that there is. -/
theorem compose_succeeds (nearest : ℚ → ℚ) (valid : layered.validate = .ok ())
    (contextual : context.validate = .ok ())
    (hostRate : 0 ≤ baseRate ∧ baseRate ≤ 2)
    (placement : ∀ pan, placementPan = some pan → 0 ≤ pan ∧ pan ≤ 1)
    (within : ∀ i, index = some i → i < layered.choices.length) :
    ∃ composed, layered.compose nearest index context baseRate placementPan = .ok composed := by
  have host : ensure (0 ≤ baseRate && baseRate ≤ 2)
      (ChoiceTuningError.invalid "host rate must be finite in [0, 2]") = .ok () := by
    simpa using hostRate
  have panned : placementPan.toList.forM normalized = .ok () := by
    refine forM_eq_ok.mpr fun pan given => ?_
    rw [Option.mem_toList] at given
    simpa [normalized] using placement pan given
  obtain ⟨choice, chosen⟩ : ∃ choice, layered.choiceAt index = .ok choice := by
    cases index with
    | none => exact ⟨none, rfl⟩
    | some i =>
        rw [choiceAt, List.getElem?_eq_getElem (within i rfl)]
        exact ⟨_, rfl⟩
  unfold compose
  exact ⟨_, seq_eq_ok.mpr ⟨valid, seq_eq_ok.mpr ⟨contextual, seq_eq_ok.mpr ⟨host,
    seq_eq_ok.mpr ⟨panned, bind_eq_ok.mpr ⟨choice, chosen, rfl⟩⟩⟩⟩⟩⟩

end LayeredVoiceDefinition

/-! ## The choice that was realized -/

/-- The occurrence among the preferences that a voice was resolved through: the first one that
is realized, or none of them. -/
def ResolvedThrough (evaluate : VoiceSelector → Except ResolutionFailure PhysicalVoiceId)
    (preferences : List VoiceSelector) (realized : PhysicalVoiceId) : Option Nat → Prop
  | some index => ∃ before selector after, preferences = before ++ selector :: after ∧
      before.length = index ∧ (∀ earlier ∈ before, ∃ failure, evaluate earlier = .error failure) ∧
      evaluate selector = .ok realized
  | none => ∀ selector ∈ preferences, ∃ failure, evaluate selector = .error failure

/-- A candidate of a policy stage is no choice. -/
theorem selectedIndex_of_policy {definition : LogicalVoiceDefinition} {policy : FallbackPolicy}
    {candidate : Candidate}
    (later : candidate ∈ ((sameLanguageSelector definition policy).map
        (Candidate.mk .sameLanguageOnRequestedEngine .sameLanguageOnRequestedEngine)).toList ++
      (candidatesOf .preferredEngine .preferredEngine
          (policy.preferredEngines.map .engineDefault) ++
        ((policy.globalDefault.map (Candidate.mk .globalDefault .globalDefault)).toList ++
          candidatesOf .fallbackEngine .fallbackEngine
            (policy.fallbackEngines.map .engineDefault)))) :
    LayeredVoiceDefinition.selectedIndex candidate.reason = .ok none := by
  simp only [List.mem_append, candidatesOf, List.mem_map, Option.mem_toList, Option.map_eq_some_iff]
    at later
  rcases later with ⟨_, _, rfl⟩ | ⟨_, _, rfl⟩ | ⟨_, _, rfl⟩ | ⟨_, _, rfl⟩ <;> rfl

/-- The candidates of a list of numbered selectors. -/
theorem candidatesOf_split {stage : Nat → ResolutionStage} {reason : Nat → ResolutionReason}
    {selectors : List VoiceSelector} {before after : List Candidate} {candidate : Candidate}
    (split : candidatesOf stage reason selectors = before ++ candidate :: after) :
    candidate.reason = reason before.length ∧
      selectors = before.map Candidate.selector ++ candidate.selector ::
        after.map Candidate.selector := by
  have listed : (candidatesOf stage reason selectors).map Candidate.selector = selectors := by
    rw [candidatesOf, List.map_map]
    exact List.zipIdx_map_fst 0 selectors
  constructor
  · have found : (candidatesOf stage reason selectors)[before.length]? = some candidate := by
      rw [split]
      simp
    rw [candidatesOf, List.getElem?_map, Option.map_eq_some_iff] at found
    obtain ⟨⟨selector, number⟩, numbered, rfl⟩ := found
    rw [List.getElem?_zipIdx, Option.map_eq_some_iff] at numbered
    obtain ⟨_, _, same⟩ := numbered
    rw [Prod.mk.injEq] at same
    dsimp only
    rw [← same.2, Nat.zero_add]
  · rw [← listed, split, List.map_append, List.map_cons]

/-- **The reason of a resolution recovers the choice** that it was resolved through. -/
theorem resolved_selected {engines : List EngineDescriptor} {layered : LayeredVoiceDefinition}
    {policy : FallbackPolicy} {text : Option (List Char)}
    {permissions : EngineSelectionPermissions} {resolution : VoiceResolution}
    (resolved : resolveVoiceWithPermissions engines layered.legacyProjection policy text
      permissions = .ok resolution) :
    ∃ index, layered.selectedChoice resolution = .ok index ∧
      (∀ i, index = some i → i < layered.choices.length) ∧
      ResolvedThrough (evaluateSelector engines policy.preferredEngines text permissions)
        layered.legacyProjection.preferences resolution.realized index := by
  have first := resolve_firstRealized engines layered.legacyProjection policy text permissions
  rw [resolved] at first
  obtain ⟨before, candidate, after, split, failures, realized, made⟩ := first
  have failed := evaluate_error_of_failed failures
  have owner : resolution.logicalVoiceId = layered.id := by
    rw [made]
    rfl
  have reason : resolution.reason = candidate.reason := by
    rw [made]
    rfl
  have count : layered.legacyProjection.preferences.length = layered.choices.length :=
    List.length_map _
  have numbered : (candidatesOf .preference preferenceReason
      layered.legacyProjection.preferences).map Candidate.selector =
      layered.legacyProjection.preferences := by
    rw [candidatesOf, List.map_map]
    exact List.zipIdx_map_fst 0 layered.legacyProjection.preferences
  rw [stages, List.append_assoc, List.append_assoc, List.append_assoc] at split
  -- a policy stage comes after every preference
  have fromPolicy : LayeredVoiceDefinition.selectedIndex candidate.reason = .ok none →
      (∀ earlier ∈ candidatesOf .preference preferenceReason
        layered.legacyProjection.preferences, earlier ∈ before) →
      layered.selectedChoice resolution = .ok none ∧
        ResolvedThrough (evaluateSelector engines policy.preferredEngines text permissions)
          layered.legacyProjection.preferences resolution.realized none := by
    intro unselected passed
    constructor
    · rw [LayeredVoiceDefinition.selectedChoice, owner, reason, unselected]
      simp only [ensure, decide_true, if_true]
      rfl
    · intro selector member
      rw [← numbered] at member
      obtain ⟨earlier, among, rfl⟩ := List.mem_map.mp member
      exact failed earlier (passed earlier among)
  rcases List.append_eq_append_iff.mp split with ⟨passed, rfl, rest⟩ | ⟨further, here, rest⟩
  · have unselected := selectedIndex_of_policy (by
      rw [rest]
      exact List.mem_append_right passed (List.mem_cons_self (a := candidate) (l := after)))
    obtain ⟨selected, through⟩ := fromPolicy unselected fun earlier among =>
      List.mem_append_left passed among
    exact ⟨none, selected, by simp, through⟩
  · cases further with
    | nil =>
        rw [List.append_nil] at here
        have unselected := selectedIndex_of_policy (by
          rw [List.nil_append] at rest
          rw [← rest]
          exact List.mem_cons_self (a := candidate) (l := after))
        obtain ⟨selected, through⟩ := fromPolicy unselected fun earlier among => here ▸ among
        exact ⟨none, selected, by simp, through⟩
    | cons found further =>
        obtain ⟨rfl, -⟩ := List.cons.inj rest
        obtain ⟨numberedReason, parts⟩ := candidatesOf_split here
        have within : before.length < layered.choices.length := by
          rw [← count, parts]
          simp
        refine ⟨some before.length, ?_, ?_, before.map Candidate.selector, candidate.selector,
          further.map Candidate.selector, parts, List.length_map _, ?_, realized⟩
        · have index : LayeredVoiceDefinition.selectedIndex candidate.reason =
              .ok (some before.length) := by
            rw [numberedReason, preferenceReason]
            cases before with
            | nil => rfl
            | cons _ _ => simp [LayeredVoiceDefinition.selectedIndex]
          rw [LayeredVoiceDefinition.selectedChoice, owner, reason, index]
          simp only [ensure, decide_true, if_true]
          rw [ok_bind, ok_bind, Option.all_some, decide_eq_true within]
          rfl
        · intro i same
          rwa [← Option.some.inj same]
        · intro earlier member
          obtain ⟨attempted, among, rfl⟩ := List.mem_map.mp member
          exact failed attempted among

/-! ## Whose voice it is -/

/-- The voices of an engine are listed under its own identifier. -/
def OwnVoices (engines : List EngineDescriptor) : Prop :=
  ∀ engine ∈ engines, ∀ voice ∈ engine.voices, voice.id.engineId = engine.id

theorem findUsableEngine_named {engines : List EngineDescriptor} {engineId : String}
    {permissions : EngineSelectionPermissions} {engine : EngineDescriptor}
    (found : findUsableEngine engines engineId permissions = .ok engine) :
    engine ∈ engines ∧ engine.id = engineId := by
  rw [findUsableEngine, bind_eq_ok] at found
  obtain ⟨_, -, found⟩ := found
  rw [bind_eq_ok] at found
  obtain ⟨other, found, checked⟩ := found
  rw [orError_eq_ok] at found
  have named := List.find?_some found
  split at checked
  · cases checked
  · cases checked
  · obtain rfl := Except.ok.inj checked
    exact ⟨List.mem_of_find?_eq_some found, eq_of_beq named⟩

/-- **A selector that names an engine is realized by a voice of it**, and one that names a voice
by that voice. -/
theorem evaluateSelector_identity {engines : List EngineDescriptor} (own : OwnVoices engines)
    {preferredEngines : List String} {text : Option (List Char)}
    {permissions : EngineSelectionPermissions} {selector : VoiceSelector}
    {realized : PhysicalVoiceId}
    (evaluated : evaluateSelector engines preferredEngines text permissions selector =
      .ok realized) :
    (∀ engineId, selector.engineId = some engineId → realized.engineId = engineId) ∧
      ∀ id, selector = .exact id → realized = id := by
  have onEngine : ∀ engineId language gender,
      evaluateOnEngine engines engineId language gender text permissions = .ok realized →
      realized.engineId = engineId := by
    intro engineId language gender chosen
    rw [evaluateOnEngine, bind_eq_ok] at chosen
    obtain ⟨engine, found, chosen⟩ := chosen
    rw [bind_eq_ok] at chosen
    obtain ⟨id, voiced, chosen⟩ := chosen
    rw [bind_eq_ok] at chosen
    obtain ⟨_, -, result⟩ := chosen
    obtain rfl := Except.ok.inj result
    obtain ⟨member, named⟩ := findUsableEngine_named found
    obtain ⟨voice, matching, rfl⟩ := chooseVoice_ok voiced
    rw [own engine member voice (mem_matchingVoices.mp matching).1, named]
  cases selector with
  | exact id =>
      rw [evaluateSelector, evaluateExact, bind_eq_ok] at evaluated
      obtain ⟨engine, found, evaluated⟩ := evaluated
      rw [bind_eq_ok] at evaluated
      obtain ⟨voice, offered, evaluated⟩ := evaluated
      rw [orError_eq_ok] at offered
      obtain ⟨member, named⟩ := findUsableEngine_named found
      have identity := EngineDescriptor.voice_id_of_own (own engine member) offered
      have same : realized = id := by
        split at evaluated
        · rw [seq_eq_ok] at evaluated
          obtain ⟨-, result⟩ := evaluated
          obtain rfl := Except.ok.inj result
          rw [identity, named]
        · cases evaluated
      subst same
      exact ⟨fun engineId named => Option.some.inj named, fun id named =>
        VoiceSelector.exact.inj named⟩
  | engineDefault engineId =>
      have realizedOn := onEngine engineId none none evaluated
      exact ⟨fun other named => realizedOn.trans (Option.some.inj named),
        fun id named => by cases named⟩
  | properties engineId language gender =>
      refine ⟨?_, fun id named => by cases named⟩
      intro other named
      cases engineId with
      | none => cases named
      | some engineId =>
          have realizedOn := onEngine engineId language gender evaluated
          exact realizedOn.trans (Option.some.inj named)

end Omnivox.Engines
