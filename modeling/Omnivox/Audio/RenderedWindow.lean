import Mathlib
import Omnivox.Audio.TimelineRenderer
import Omnivox.Foundations.Keyed

/-!
# What a rendered window sounds like

The copy walks the insertions with a cursor in the speech and one in the output. What it
has written is followed by silence, and at the end the output is the speech opened at the
insertions (`copyPrimary_opened`).

An action that is mixed in adds its volume times its resource where it sounds, and
lengthens the output if it is an overlay (`mixAction_ok`). The bounds that the code
checks hold once the window is validated: an insertion ends within the primary clock that
it advances.
-/

set_option autoImplicit false

namespace Omnivox.Audio

open Foundations
open Timeline (AudioActionMode EffectBus FrameInsertion FrameMap ResolvedTimelineAction
  ScheduledAction ScheduledTimeline TimelineActionId TimelineActionKind TimelineError insertedBy
  insertionOf insertionsOf inserts_or_not placeAction placeActions placeActions_outputFrame
  splicesOf splicesOf_cons splicesOf_ordered spliceTotal_splicesOf timelineOf)

/-! ## Writing samples -/

/-- A buffer that a vector of samples can hold. -/
def Addressable (buffer : AudioBuffer ℚ) : Prop := buffer.length * channels * 4 ≤ wordMax 63

theorem copyFrameRange_ok {primary output : AudioBuffer ℚ} {sourceStart sourceEnd outputStart : Nat}
    (inOrder : sourceStart ≤ sourceEnd) (inside : sourceEnd ≤ primary.length)
    (fits : outputStart + (sourceEnd - sourceStart) ≤ output.length)
    (held : output.length * channels ≤ usizeMax) :
    copyFrameRange primary sourceStart sourceEnd output outputStart =
      .ok (overwrite output outputStart
        ((primary.drop sourceStart).take (sourceEnd - sourceStart))) := by
  have stereo : channels = 2 := rfl
  rw [stereo] at held
  simp only [copyFrameRange, bind_eq_ok, ensure_eq_ok, orError_eq_ok, checkedMul_eq_some,
    checkedAdd_eq_some, Bool.and_eq_true, decide_eq_true_eq, stereo]
  exact ⟨(), ⟨inOrder, inside⟩, _, ⟨rfl, by omega⟩, _, ⟨rfl, by omega⟩, (), by omega, rfl⟩

theorem frameToSampleOffset_ok {frame : Nat} (held : frame * channels ≤ usizeMax) :
    frameToSampleOffset frame = .ok (frame * channels) := by
  have stereo : channels = 2 := rfl
  have inRange : frame ≤ usizeMax := by
    rw [stereo] at held
    omega
  rw [frameToSampleOffset, orError_eq_ok, fitsUsize, if_pos inRange, Option.bind_some,
    checkedMul_eq_some]
  exact ⟨rfl, held⟩

theorem mixSamples_ok {output input : AudioBuffer ℚ} {outputFrame : Nat} (volume : ℚ)
    (fits : outputFrame + input.length ≤ output.length)
    (held : (outputFrame + input.length) * channels ≤ usizeMax) :
    mixSamples output outputFrame input volume =
      .ok (addAt output outputFrame (input.map fun frame => volume • frame)) := by
  have stereo : channels = 2 := rfl
  rw [stereo] at held
  simp only [mixSamples, bind_eq_ok, ensure_eq_ok, orError_eq_ok, checkedAdd_eq_some,
    decide_eq_true_eq]
  refine ⟨_, frameToSampleOffset_ok (by rw [stereo]; omega), _, ⟨rfl, ?_⟩, (), ?_, rfl⟩
  · rw [stereo]
    omega
  · rw [stereo]
    omega

theorem mixSamplesExtending_ok (output : AudioBuffer ℚ) {input : AudioBuffer ℚ} {outputFrame : Nat}
    (volume : ℚ) (held : (outputFrame + input.length) * channels ≤ usizeMax) :
    mixSamplesExtending output outputFrame input volume =
      .ok (addAt (extendTo output (outputFrame + input.length)) outputFrame
        (input.map fun frame => volume • frame)) := by
  have stereo : channels = 2 := rfl
  have longEnough : outputFrame + input.length ≤
      (extendTo output (outputFrame + input.length)).length := by
    rw [length_extendTo]
    exact Nat.le_max_right _ _
  rw [stereo] at held
  rw [mixSamplesExtending, frameToSampleOffset_ok (by rw [stereo]; omega), ok_bind,
    checkedAdd_of_le (by rw [stereo]; omega)]
  exact mixSamples_ok volume longEnough (by rw [stereo]; omega)

/-- Mixing in and lengthening, place by place. -/
theorem valueAt_mixed {output input : AudioBuffer ℚ} {outputFrame : Nat} (volume : ℚ)
    (fits : outputFrame + input.length ≤ output.length) (frame : Nat) :
    valueAt (addAt output outputFrame (input.map fun sample => volume • sample)) frame =
      valueAt output frame + volume • valueFrom outputFrame input frame := by
  rw [valueAt_addAt (by rw [List.length_map]; exact fits)]
  unfold valueFrom
  split
  · rw [valueAt_map (smul_zero volume)]
  · rw [smul_zero]

/-! ## The copy -/

/-- The turn of the copy at an insertion. -/
theorem copyUpToInsertion_ok {primary : AudioBuffer ℚ} {state : CopyState}
    {insertion : FrameInsertion} (inOrder : state.sourceFrame ≤ insertion.sourceFrame)
    (inside : insertion.sourceFrame ≤ primary.length)
    (fits : state.outputFrame + (insertion.sourceFrame - state.sourceFrame) ≤ state.output.length)
    (held : state.output.length * channels ≤ usizeMax) (addressed : primary.length ≤ usizeMax)
    (room : insertion.outputFrame + insertion.durationFrames ≤ u64Max) :
    copyUpToInsertion primary state insertion =
      .ok ⟨insertion.sourceFrame, insertion.outputFrame + insertion.durationFrames,
        overwrite state.output state.outputFrame ((primary.drop state.sourceFrame).take
          (insertion.sourceFrame - state.sourceFrame))⟩ := by
  have small : insertion.sourceFrame ≤ usizeMax := Nat.le_trans inside addressed
  rw [copyUpToInsertion, fitsUsize, if_pos small, orError, ok_bind,
    copyFrameRange_ok inOrder inside fits held, ok_bind, checkedAdd_of_le room, orError, ok_bind,
    fitsUsize, if_pos room]
  rfl

/-- The copy from a state on. -/
def copyFrom (primary : AudioBuffer ℚ) (insertions : List FrameInsertion) (state : CopyState) :
    Except AudioError (AudioBuffer ℚ) := do
  let state ← insertions.foldlM (copyUpToInsertion primary) state
  copyFrameRange primary state.sourceFrame primary.length state.output state.outputFrame

theorem copyFrom_cons {primary : AudioBuffer ℚ} {insertion : FrameInsertion}
    {rest : List FrameInsertion} {state next : CopyState}
    (turn : copyUpToInsertion primary state insertion = .ok next) :
    copyFrom primary (insertion :: rest) state = copyFrom primary rest next := by
  unfold copyFrom
  rw [List.foldlM_cons, turn, ok_bind]

/-- **The copy** goes on from what is done: the rest of the speech follows, opened at the
insertions to come. -/
theorem copyFrom_opened {primary done : AudioBuffer ℚ} {start shift count : Nat}
    {actions : List ResolvedTimelineAction}
    (inOrder : actions.Pairwise fun first second => first.sourceFrame ≤ second.sourceFrame)
    (behind : ∀ resolved ∈ actions, start ≤ resolved.sourceFrame)
    (bounds : ∀ resolved ∈ actions, resolved.sourceFrame ≤ primary.length)
    (here : done.length = start + shift) (inside : start ≤ primary.length)
    (left : count = primary.length - start + insertedBy actions)
    (held : (primary.length + shift + insertedBy actions) * channels ≤ usizeMax) :
    copyFrom primary (insertionsOf shift actions)
        ⟨start, start + shift, done ++ List.replicate count 0⟩ =
      .ok (done ++ opened start (splicesOf actions) primary) := by
  have stereo : channels = 2 := rfl
  rw [stereo] at held
  induction actions generalizing start shift done count with
  | nil =>
      have rest : ((primary.drop start).take (primary.length - start)).length =
          primary.length - start := by
        rw [List.length_take_of_le]
        rw [List.length_drop]
      rw [Timeline.insertedBy_nil] at left held
      show copyFrameRange primary start primary.length _ (start + shift) = _
      rw [copyFrameRange_ok inside le_rfl
          (by rw [List.length_append, List.length_replicate]; omega)
          (by rw [List.length_append, List.length_replicate, stereo]; omega),
        overwrite_silence here (by omega), rest, left, Nat.add_zero, Nat.sub_self,
        List.replicate_zero, List.append_nil,
        List.take_of_length_le (le_of_eq (List.length_drop ..))]
      rfl
  | cons resolved rest ih =>
      have now := behind resolved List.mem_cons_self
      have bound := bounds resolved List.mem_cons_self
      obtain ⟨later, restInOrder⟩ := List.pairwise_cons.mp inOrder
      have restBounds : ∀ other ∈ rest, other.sourceFrame ≤ primary.length :=
        fun other member => bounds other (List.mem_cons_of_mem _ member)
      rw [Timeline.insertedBy_cons] at left held
      rw [insertionsOf, splicesOf_cons]
      rcases inserts_or_not shift resolved with ⟨cut, insertion⟩ | ⟨cut, insertion, none⟩
      · -- the speech up to the cut, the silence of the insertion, and the rest
        have piece : ((primary.drop start).take (resolved.sourceFrame - start)).length =
            resolved.sourceFrame - start := by
          rw [List.length_take_of_le]
          rw [List.length_drop]
          omega
        have turn := @copyUpToInsertion_ok primary
          ⟨start, start + shift, done ++ List.replicate count 0⟩
          ⟨resolved.sourceFrame, resolved.sourceFrame + shift, resolved.action.kind.insertedFrames⟩
          now bound (by simp only [List.length_append, List.length_replicate]; omega)
          (by simp only [List.length_append, List.length_replicate, stereo]; omega) (by omega)
          (show _ ≤ usizeMax by simp only; omega)
        have silence : count - (resolved.sourceFrame - start) =
            resolved.action.kind.insertedFrames +
              (primary.length - resolved.sourceFrame + insertedBy rest) := by
          omega
        rw [insertion, Option.toList_some, List.singleton_append, copyFrom_cons turn, cut,
          List.singleton_append, opened]
        simp only
        rw [overwrite_silence here (by omega), piece, silence, ← List.replicate_append_replicate,
          ← List.append_assoc, Nat.add_assoc]
        rw [ih restInOrder later restBounds
          (by rw [List.length_append, List.length_append, List.length_replicate]; omega) bound rfl
          (by omega)]
        simp only [List.append_assoc]
      · rw [insertion, Option.toList_none, List.nil_append, cut, List.nil_append, none,
          Nat.add_zero]
        rw [none] at left held
        exact ih restInOrder
          (fun other member => behind other (List.mem_cons_of_mem _ member)) restBounds here inside
          (by omega) (by omega)

/-! ## What an action adds -/

/-- The PCM of an action. -/
def audioOf (resources : List PreparedAudioResource) (id : TimelineActionId) : AudioBuffer ℚ :=
  ((resourceOf resources id).map PreparedAudioResource.audio).getD []

/-- What an action sounds like at an output frame. -/
def soundAt (resources : List PreparedAudioResource) (frame : Nat) (action : ScheduledAction) :
    Frame ℚ :=
  match action.kind with
  | .audio _ durationFrames volume _ =>
      if action.outputFrame ≤ frame ∧ frame < action.outputFrame + durationFrames then
        exactly volume • valueAt (audioOf resources action.id) (frame - action.outputFrame)
      else 0
  | _ => 0

/-- There is one buffer of the declared duration for each audio action. -/
structure Supplies (resources : List PreparedAudioResource) (timeline : ScheduledTimeline) :
    Prop where
  distinct : (resources.map PreparedAudioResource.id).Nodup
  declared : ∀ action ∈ timeline.actions, action.kind.IsAudio →
    ∃ resource ∈ resources, resource.id = action.id ∧
      resource.audio.length = action.kind.soundingFrames
  addressable : ∀ resource ∈ resources, Addressable resource.audio

/-- The entry of an action is its one resource. -/
theorem resourceOf_eq {resources : List PreparedAudioResource}
    (distinct : (resources.map PreparedAudioResource.id).Nodup) {resource : PreparedAudioResource}
    (member : resource ∈ resources) : resourceOf resources resource.id = some resource := by
  have distinct' : (resources.reverse.map PreparedAudioResource.id).Nodup := by
    rw [List.map_reverse, List.nodup_reverse]
    exact distinct
  exact (find?_key_eq_some distinct').mpr ⟨List.mem_reverse.mpr member, rfl⟩

/-- What the checks of a window need of an action on the primary clock. -/
structure Placed (primaryOutputFrames : Nat) (action : ScheduledAction) : Prop where
  starts : action.outputFrame ≤ primaryOutputFrames
  /-- An insertion ends within the clock that it advances. -/
  inserted : action.outputFrame + action.kind.insertedFrames ≤ primaryOutputFrames

theorem placed_of_mem {primarySourceFrames : Nat} {sorted : List ResolvedTimelineAction}
    (bounds : ∀ resolved ∈ sorted, resolved.sourceFrame ≤ primarySourceFrames)
    {action : ScheduledAction}
    (member : action ∈ (timelineOf primarySourceFrames sorted).actions) :
    Placed (timelineOf primarySourceFrames sorted).primaryOutputFrames action := by
  obtain ⟨earlier, later, split⟩ := List.append_of_mem member
  have sources := Timeline.origins_of_split split
  have placement := placeActions_outputFrame split
  have within : action.sourceFrame ≤ primarySourceFrames := by
    refine bounds action.origin ?_
    rw [sources]
    exact List.mem_append_right _ List.mem_cons_self
  have total : insertedBy sorted = insertedBy (earlier.map ScheduledAction.origin) +
      (action.kind.insertedFrames + insertedBy (later.map ScheduledAction.origin)) := by
    rw [sources, Timeline.insertedBy_append, Timeline.insertedBy_cons]
    rfl
  have clock : (timelineOf primarySourceFrames sorted).primaryOutputFrames =
      primarySourceFrames + insertedBy sorted := rfl
  refine ⟨?_, ?_⟩
  · omega
  · omega

section

variable {resources : List PreparedAudioResource} {primaryOutputFrames : Nat}
  {action : ScheduledAction} {mixed : AudioBuffer ℚ}

/-- **One turn of the mixing loop** adds what the action sounds like, and lengthens the
output to its end. -/
theorem mixAction_ok (distinct : (resources.map PreparedAudioResource.id).Nodup)
    (declared : action.kind.IsAudio → ∃ resource ∈ resources, resource.id = action.id ∧
      resource.audio.length = action.kind.soundingFrames)
    (addressable : ∀ resource ∈ resources, Addressable resource.audio)
    (placed : Placed primaryOutputFrames action)
    (bounded : primaryOutputFrames ≤ MAX_TIMELINE_RENDER_FRAMES)
    (long : primaryOutputFrames ≤ mixed.length) :
    ∃ next, mixAction resources mixed action = .ok next ∧
      (∀ frame, valueAt next frame = valueAt mixed frame + soundAt resources frame action) ∧
      next.length = max mixed.length action.exactEnd := by
  obtain ⟨id, sourceFrame, outputFrame, kind, before, after⟩ := action
  have starts : outputFrame ≤ primaryOutputFrames := placed.starts
  cases kind with
  | semanticEvent =>
      exact ⟨mixed, rfl, fun frame => (add_zero _).symm,
        (Nat.max_eq_left (Nat.le_trans starts long)).symm⟩
  | effectState change =>
      exact ⟨mixed, rfl, fun frame => (add_zero _).symm,
        (Nat.max_eq_left (Nat.le_trans starts long)).symm⟩
  | audio mode durationFrames volume effectBus =>
      obtain ⟨resource, member, same, duration⟩ := declared trivial
      have length : resource.audio.length = durationFrames := duration
      have found : resourceOf resources id = some resource := by
        have named : resource.id = id := same
        rw [← named]
        exact resourceOf_eq distinct member
      have held : (outputFrame + resource.audio.length) * channels ≤ usizeMax := by
        have small := addressable resource member
        have stereo : channels = 2 := rfl
        have limit : MAX_TIMELINE_RENDER_FRAMES = 5292000 := rfl
        have word : wordMax 63 = 9223372036854775807 := rfl
        have whole : usizeMax = 18446744073709551615 := rfl
        rw [Addressable, stereo, word] at small
        rw [stereo, whole]
        omega
      have sounds : ∀ frame, exactly volume • valueFrom outputFrame resource.audio frame =
          soundAt resources frame
            ⟨id, sourceFrame, outputFrame, .audio mode durationFrames volume effectBus, before,
              after⟩ := by
        intro frame
        have pcm : audioOf resources id = resource.audio := by
          rw [audioOf, found]
          rfl
        simp only [soundAt, valueFrom, pcm]
        by_cases started : outputFrame ≤ frame
        · by_cases sounding : frame < outputFrame + durationFrames
          · rw [if_pos started, if_pos ⟨started, sounding⟩]
          · rw [if_pos started, if_neg (fun both => sounding both.2), valueAt_of_le (by omega),
              smul_zero]
        · rw [if_neg started, if_neg (fun both => started both.1), smul_zero]
      cases mode with
      | insert =>
          have ends : outputFrame + durationFrames ≤ primaryOutputFrames := placed.inserted
          have fits : outputFrame + resource.audio.length ≤ mixed.length := by omega
          refine ⟨_, ?_, fun frame => (valueAt_mixed (exactly volume) fits frame).trans
            (congrArg _ (sounds frame)), ?_⟩
          · simp only [mixAction, found, orError, ok_bind]
            exact mixSamples_ok (exactly volume) fits held
          · rw [length_addAt (by rw [List.length_map]; exact fits)]
            exact (Nat.max_eq_left (by show outputFrame + durationFrames ≤ _; omega)).symm
      | overlay =>
          have fits : outputFrame + resource.audio.length ≤
              (extendTo mixed (outputFrame + resource.audio.length)).length := by
            rw [length_extendTo]
            exact Nat.le_max_right _ _
          refine ⟨_, ?_, fun frame => (valueAt_mixed (exactly volume) fits frame).trans ?_, ?_⟩
          · simp only [mixAction, found, orError, ok_bind]
            exact mixSamplesExtending_ok mixed (exactly volume) held
          · rw [valueAt_extendTo, sounds frame]
          · rw [length_addAt (by rw [List.length_map]; exact fits), length_extendTo, length]
            rfl

/-- The end of the last action, or a frame behind it. -/
def lastEnd (start : Nat) (actions : List ScheduledAction) : Nat :=
  actions.foldl (fun latest action => max latest action.exactEnd) start

theorem lastEnd_max (first second : Nat) (actions : List ScheduledAction) :
    lastEnd (max first second) actions = max first (lastEnd second actions) := by
  induction actions generalizing second with
  | nil => rfl
  | cons action rest ih =>
      show lastEnd (max (max first second) action.exactEnd) rest =
        max first (lastEnd (max second action.exactEnd) rest)
      rw [Nat.max_assoc, ih]

/-- **The mixing loop** adds what all actions sound like. -/
theorem mixActions_ok {actions : List ScheduledAction}
    (distinct : (resources.map PreparedAudioResource.id).Nodup)
    (declared : ∀ action ∈ actions, action.kind.IsAudio → ∃ resource ∈ resources,
      resource.id = action.id ∧ resource.audio.length = action.kind.soundingFrames)
    (addressable : ∀ resource ∈ resources, Addressable resource.audio)
    (placed : ∀ action ∈ actions, Placed primaryOutputFrames action)
    (bounded : primaryOutputFrames ≤ MAX_TIMELINE_RENDER_FRAMES)
    (long : primaryOutputFrames ≤ mixed.length) :
    ∃ final, actions.foldlM (mixAction resources) mixed = .ok final ∧
      (∀ frame, valueAt final frame =
        valueAt mixed frame + (actions.map (soundAt resources frame)).sum) ∧
      final.length = lastEnd mixed.length actions := by
  induction actions generalizing mixed with
  | nil => exact ⟨mixed, rfl, fun frame => (add_zero _).symm, rfl⟩
  | cons action rest ih =>
      obtain ⟨next, turn, sounds, length⟩ := mixAction_ok distinct
        (declared action List.mem_cons_self) addressable (placed action List.mem_cons_self)
        bounded long
      obtain ⟨final, run, total, last⟩ := ih
        (fun other member => declared other (List.mem_cons_of_mem _ member))
        (fun other member => placed other (List.mem_cons_of_mem _ member))
        (Nat.le_trans long (length ▸ Nat.le_max_left _ _))
      refine ⟨final, foldlM_cons_eq_ok.mpr ⟨next, turn, run⟩, fun frame => ?_, ?_⟩
      · rw [total frame, sounds frame, List.map_cons, List.sum_cons, add_assoc]
      · rw [last, length]
        rfl

end

/-! ## The window -/

/-- The frame of the primary speech that the frame map moves to an output frame. -/
def primaryAt (primary : AudioBuffer ℚ) (timeline : ScheduledTimeline) (frame : Nat) : Frame ℚ :=
  (((List.range primary.length).find? fun source =>
    (timeline.frameMap.mapAfter source).toOption == some frame).map (valueAt primary)).getD 0

/-- The sum of everything that sounds at an output frame. -/
def mixedAt (carry primary : AudioBuffer ℚ) (timeline : ScheduledTimeline)
    (resources : List PreparedAudioResource) (frame : Nat) : Frame ℚ :=
  primaryAt primary timeline frame + valueAt carry frame +
    (timeline.actions.map (soundAt resources frame)).sum

/-- The code's bounds on a window. -/
structure WithinLimits (timeline : ScheduledTimeline) : Prop where
  actions : timeline.actions.length ≤ MAX_TIMELINE_ACTIONS_PER_WINDOW
  frames : timeline.primaryOutputFrames ≤ MAX_TIMELINE_RENDER_FRAMES

section

variable {describe : TimelineError → String} {primary : AudioBuffer ℚ}
  {sorted : List ResolvedTimelineAction} {resources : List PreparedAudioResource}

theorem validateWindow_ok (schedulable : Timeline.Schedulable primary.length sorted)
    (limits : WithinLimits (timelineOf primary.length sorted))
    (supplies : Supplies resources (timelineOf primary.length sorted))
    (within : ∀ resolved ∈ sorted, resolved.sourceFrame ≤ primary.length) :
    validateWindow describe primary (timelineOf primary.length sorted) resources = .ok () := by
  have all : (splicesOf sorted).filter (fun splice => splice.position ≤ primary.length) =
      splicesOf sorted := by
    rw [List.filter_eq_self]
    intro splice member
    obtain ⟨resolved, held, same⟩ := Timeline.mem_splicesOf member
    exact decide_eq_true (same ▸ within resolved held)
  have scheduled : (timelineOf primary.length sorted).frameMap.mapAfter primary.length =
      .ok (timelineOf primary.length sorted).primaryOutputFrames := by
    rw [schedulable.mapAfter le_rfl, splicedAfter, all, spliceTotal_splicesOf]
    rfl
  unfold validateWindow
  rw [seq_eq_ok, ensure_eq_ok, decide_eq_true_eq]
  refine ⟨limits.actions, ?_⟩
  rw [scheduled]
  show (ensure _ _ >>= fun _ => _) = _
  rw [seq_eq_ok, ensure_eq_ok, beq_iff_eq]
  refine ⟨rfl, ?_⟩
  rw [seq_eq_ok, ensureDistinct_eq_ok]
  refine ⟨⟨supplies.distinct, fun _ _ => List.not_mem_nil⟩, forM_eq_ok.mpr fun action member => ?_⟩
  have declared := supplies.declared action member
  unfold validateResource
  cases kind : action.kind with
  | audio mode durationFrames volume effectBus =>
      rw [kind] at declared
      obtain ⟨resource, inResources, same, duration⟩ := declared trivial
      have found : resources.find? (fun resource => resource.id == action.id) = some resource :=
        (find?_key_eq_some supplies.distinct).mpr ⟨inResources, same⟩
      simp only [found]
      rw [ensure_eq_ok, beq_iff_eq]
      exact duration
  | semanticEvent => rfl
  | effectState change => rfl

/-- The copy into a silent window is the speech opened at the insertions. -/
theorem copyPrimary_opened
    (inOrder : sorted.Pairwise fun first second => first.sourceFrame ≤ second.sourceFrame)
    (bounds : ∀ resolved ∈ sorted, resolved.sourceFrame ≤ primary.length)
    (bounded : (timelineOf primary.length sorted).primaryOutputFrames ≤
      MAX_TIMELINE_RENDER_FRAMES) :
    copyPrimaryWithInsertions primary (timelineOf primary.length sorted)
        (List.replicate (timelineOf primary.length sorted).primaryOutputFrames 0) =
      .ok (opened 0 (splicesOf sorted) primary) := by
  have clock : (timelineOf primary.length sorted).primaryOutputFrames =
      primary.length + insertedBy sorted := rfl
  have limit : MAX_TIMELINE_RENDER_FRAMES = 5292000 := rfl
  have stereo : channels = 2 := rfl
  have whole : usizeMax = 18446744073709551615 := rfl
  have held : (primary.length + 0 + insertedBy sorted) * channels ≤ usizeMax := by
    rw [stereo, whole]
    omega
  exact @copyFrom_opened primary [] 0 0 _ sorted inOrder (fun _ _ => Nat.zero_le _) bounds rfl
    (Nat.zero_le _) (by omega) held

/-- The opened speech is the primary frame that the frame map moves to each place. -/
theorem valueAt_opened_primary (schedulable : Timeline.Schedulable primary.length sorted)
    (inOrder : sorted.Pairwise fun first second => first.sourceFrame ≤ second.sourceFrame)
    (frame : Nat) :
    valueAt (opened 0 (splicesOf sorted) primary) frame =
      primaryAt primary (timelineOf primary.length sorted) frame := by
  have bounds : ∀ splice ∈ splicesOf sorted, splice.position ≤ primary.length := by
    intro splice member
    obtain ⟨resolved, held, same⟩ := Timeline.mem_splicesOf member
    exact same ▸ schedulable.inBounds resolved held
  rw [valueAt_opened (splicesOf_ordered inOrder) bounds, primaryAt, sourceOf]
  congr 2
  refine List.find?_congr fun source member => ?_
  rw [schedulable.mapAfter (Nat.le_of_lt (List.mem_range.mp member))]
  rfl

/-- The completion frame of a timeline is the last end of its clock and its actions. -/
theorem completionFrame_lastEnd (primarySourceFrames : Nat) (sorted : List ResolvedTimelineAction) :
    (timelineOf primarySourceFrames sorted).completionFrame =
      lastEnd (timelineOf primarySourceFrames sorted).primaryOutputFrames
        (timelineOf primarySourceFrames sorted).actions := by
  have loop : ∀ (schedule : Timeline.Schedule) (actions : List ResolvedTimelineAction),
      (actions.foldl Timeline.Schedule.extend schedule).completionFrame =
        lastEnd schedule.completionFrame
          (placeActions schedule.shift schedule.effectState actions) := by
    intro schedule actions
    induction actions generalizing schedule with
    | nil => rfl
    | cons resolved rest ih =>
        rw [List.foldl_cons, ih]
        rfl
  have clock : (timelineOf primarySourceFrames sorted).primaryOutputFrames =
      max (primarySourceFrames + insertedBy sorted) primarySourceFrames :=
    (Nat.max_eq_left (Nat.le_add_right _ _)).symm
  rw [clock, lastEnd_max, Nat.max_comm]
  exact congrArg (fun latest => max latest (primarySourceFrames + insertedBy sorted))
    (loop (Timeline.Schedule.start primarySourceFrames) sorted)

/-- **The mixed window** is the sum of what sounds at each place. -/
theorem mixWindow_ok {carry : AudioBuffer ℚ}
    (schedulable : Timeline.Schedulable primary.length sorted)
    (inOrder : sorted.Pairwise fun first second => first.sourceFrame ≤ second.sourceFrame)
    (limits : WithinLimits (timelineOf primary.length sorted))
    (supplies : Supplies resources (timelineOf primary.length sorted))
    (addressable : Addressable carry) :
    ∃ mixed, mixWindow describe carry primary (timelineOf primary.length sorted) resources =
        .ok mixed ∧
      (∀ frame, valueAt mixed frame =
        mixedAt carry primary (timelineOf primary.length sorted) resources frame) ∧
      mixed.length = max carry.length (timelineOf primary.length sorted).completionFrame := by
  have clock : (opened 0 (splicesOf sorted) primary).length =
      (timelineOf primary.length sorted).primaryOutputFrames := by
    have bounds : ∀ splice ∈ splicesOf sorted, splice.position ≤ primary.length := by
      intro splice member
      obtain ⟨resolved, held, same⟩ := Timeline.mem_splicesOf member
      exact same ▸ schedulable.inBounds resolved held
    rw [length_opened (splicesOf_ordered inOrder) (fun _ _ => Nat.zero_le _) bounds,
      spliceTotal_splicesOf]
    rfl
  have small := limits.frames
  have fits : (timelineOf primary.length sorted).primaryOutputFrames ≤ usizeMax :=
    Nat.le_trans small (by decide)
  have held : (0 + carry.length) * channels ≤ usizeMax := by
    have stereo : channels = 2 := rfl
    have word : wordMax 63 = 9223372036854775807 := rfl
    have whole : usizeMax = 18446744073709551615 := rfl
    rw [Addressable, stereo, word] at addressable
    rw [stereo, whole]
    omega
  have carryFits : 0 + carry.length ≤ (extendTo (opened 0 (splicesOf sorted) primary)
      (0 + carry.length)).length := by
    rw [length_extendTo]
    exact Nat.le_max_right _ _
  have carried := mixSamplesExtending_ok (opened 0 (splicesOf sorted) primary) 1 held
  have length : (addAt (extendTo (opened 0 (splicesOf sorted) primary) (0 + carry.length)) 0
      (carry.map fun frame => (1 : ℚ) • frame)).length =
        max (timelineOf primary.length sorted).primaryOutputFrames carry.length := by
    rw [length_addAt (by rw [List.length_map]; exact carryFits), length_extendTo, clock,
      Nat.zero_add]
  obtain ⟨mixed, run, total, last⟩ := mixActions_ok supplies.distinct supplies.declared
    supplies.addressable (fun action => placed_of_mem schedulable.inBounds) small
    (length ▸ Nat.le_max_left _ _)
  refine ⟨mixed, ?_, fun frame => ?_, ?_⟩
  · unfold mixWindow
    rw [validateWindow_ok schedulable limits supplies schedulable.inBounds, ok_bind, fitsUsize,
      if_pos fits, orError, ok_bind]
    show (ensure _ _ >>= fun _ => _) = _
    rw [seq_eq_ok, ensure_eq_ok, decide_eq_true_eq]
    refine ⟨small, ?_⟩
    rw [copyPrimary_opened inOrder schedulable.inBounds small, ok_bind, carried, ok_bind]
    exact run
  · rw [total frame, valueAt_mixed 1 carryFits, valueAt_extendTo,
      valueAt_opened_primary schedulable inOrder, valueFrom_zero, one_smul]
    rfl
  · rw [last, length, Nat.max_comm, lastEnd_max, completionFrame_lastEnd]

end

/-- **What a rendered window is.** The tail begins at the end of the primary clock. -/
structure RenderedExactly (carry primary : AudioBuffer ℚ) (timeline : ScheduledTimeline)
    (resources : List PreparedAudioResource) (finalWindow : Bool) (next : TimelineAudioRenderer)
    (rendered : RenderedTimelineWindow) (tail : AudioBuffer ℚ) : Prop where
  length : rendered.audio.length = timeline.primaryOutputFrames
  samples : ∀ frame, valueAt (rendered.audio ++ tail) frame =
    clampFrame (mixedAt carry primary timeline resources frame)
  /-- The tail ends with the last overlay or the tail carried over. -/
  ends : timeline.primaryOutputFrames + tail.length = max carry.length timeline.completionFrame
  overlayTail : rendered.overlayTail = if finalWindow ∧ tail ≠ [] then some tail else none
  carried : next.overlayCarry = if finalWindow then [] else tail
  semantic : rendered.semanticEvents = semanticEvents timeline
  mapped : rendered.frameMap = timeline.frameMap

@[simp] theorem clampFrame_zero : clampFrame 0 = 0 := rfl

theorem publish_exact {carry primary mixed : AudioBuffer ℚ} {timeline : ScheduledTimeline}
    {resources : List PreparedAudioResource} (finalWindow : Bool)
    (sounds : ∀ frame, valueAt mixed frame = mixedAt carry primary timeline resources frame)
    (length : mixed.length = max carry.length timeline.completionFrame)
    (completes : timeline.primaryOutputFrames ≤ timeline.completionFrame) :
    RenderedExactly carry primary timeline resources finalWindow
      (TimelineAudioRenderer.publish mixed timeline finalWindow).1
      (TimelineAudioRenderer.publish mixed timeline finalWindow).2
      ((mixed.map clampFrame).drop timeline.primaryOutputFrames) := by
  have whole : (mixed.map clampFrame).length = mixed.length := List.length_map _
  have enough : timeline.primaryOutputFrames ≤ mixed.length := by omega
  have rest : ((mixed.map clampFrame).drop timeline.primaryOutputFrames).length =
      mixed.length - timeline.primaryOutputFrames := by
    rw [List.length_drop, whole]
  have empty : (mixed.map clampFrame).drop timeline.primaryOutputFrames ≠ [] ↔
      (mixed.map clampFrame).length > timeline.primaryOutputFrames := by
    rw [← List.length_pos_iff, rest, whole]
    omega
  have kept : (if (mixed.map clampFrame).length > timeline.primaryOutputFrames then
      some ((mixed.map clampFrame).drop timeline.primaryOutputFrames) else none) =
      if (mixed.map clampFrame).drop timeline.primaryOutputFrames ≠ [] then
        some ((mixed.map clampFrame).drop timeline.primaryOutputFrames) else none := by
    simp only [empty]
  refine ⟨?_, fun frame => ?_, by omega, ?_, ?_, rfl, rfl⟩
  · exact List.length_take_of_le (whole ▸ enough)
  · have joined : (TimelineAudioRenderer.publish mixed timeline finalWindow).2.audio ++
        (mixed.map clampFrame).drop timeline.primaryOutputFrames = mixed.map clampFrame :=
      List.take_append_drop _ _
    rw [joined, valueAt_map clampFrame_zero, sounds]
  · show (if finalWindow = true then if (mixed.map clampFrame).length > _ then _ else none
      else none) = _
    rw [kept]
    cases finalWindow <;> simp
  · show (if finalWindow = true then [] else
      (if (mixed.map clampFrame).length > _ then some _ else none).getD []) = _
    rw [kept]
    by_cases nothing : (mixed.map clampFrame).drop timeline.primaryOutputFrames = []
    · rw [if_neg (not_not_intro nothing), nothing]
      rfl
    · rw [if_pos nothing]
      rfl

/-- **Rendering a window is exact.** A window over the buffer that its timeline was built
for is rendered. Every frame of its audio and of the tail behind it is the clamped sum of
the primary frame that is moved there, the tail carried over and the actions that cover it.
A window that fails, complete or incremental, leaves the tail as it was. -/
theorem render_window_exact (describe : TimelineError → String) (renderer : TimelineAudioRenderer)
    (primary : AudioBuffer ℚ) (resources : List PreparedAudioResource) (finalWindow : Bool) :
    (∀ (actions : List ResolvedTimelineAction) (timeline : ScheduledTimeline),
      ScheduledTimeline.build primary.length actions = .ok timeline → WithinLimits timeline →
      Supplies resources timeline → Addressable renderer.overlayCarry →
      ∃ next rendered tail,
        renderer.renderWindowWithResources describe primary timeline resources finalWindow =
          (next, .ok rendered) ∧
        RenderedExactly renderer.overlayCarry primary timeline resources finalWindow next rendered
          tail) ∧
    (∀ (timeline : ScheduledTimeline) (next : TimelineAudioRenderer) (error : AudioError),
      renderer.renderWindowWithResources describe primary timeline resources finalWindow =
        (next, .error error) → next = renderer) ∧
    (∀ (sourceStart : Nat) (actions : List ResolvedTimelineAction) (next : TimelineAudioRenderer)
      (error : AudioError),
      renderer.renderIncrementalSharedWindow describe primary sourceStart actions resources
        finalWindow = (next, .error error) → next = renderer) := by
  have unchanged : ∀ (timeline : ScheduledTimeline) (next : TimelineAudioRenderer)
      (error : AudioError),
      renderer.renderWindowWithResources describe primary timeline resources finalWindow =
        (next, .error error) → next = renderer := by
    intro timeline next error failed
    unfold TimelineAudioRenderer.renderWindowWithResources at failed
    split at failed
    · exact (Prod.mk.inj failed).1.symm
    · cases (Prod.mk.inj failed).2
  refine ⟨?_, unchanged, ?_⟩
  · intro actions timeline built limits supplies addressable
    obtain ⟨schedulable, rfl⟩ := ScheduledTimeline.build_eq_ok.mp built
    have inOrder := (sortNumbered_stable ResolvedTimelineAction.sourceFrame actions).sorted
    obtain ⟨mixed, run, sounds, length⟩ := @mixWindow_ok describe primary _ resources
      renderer.overlayCarry schedulable inOrder limits supplies addressable
    refine ⟨_, _, _, ?_, publish_exact finalWindow sounds length (Nat.le_max_right _ _)⟩
    rw [TimelineAudioRenderer.renderWindowWithResources, run]
  · intro sourceStart actions next error failed
    unfold TimelineAudioRenderer.renderIncrementalSharedWindow at failed
    split at failed
    · exact (Prod.mk.inj failed).1.symm
    · exact unchanged _ next error failed

end Omnivox.Audio
