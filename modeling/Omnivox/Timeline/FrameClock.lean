import Mathlib
import Omnivox.Foundations.Splicing
import Omnivox.Timeline.ScheduledTimeline

/-!
# The output clock of a scheduled timeline

Scheduling is a fold of checked steps over the sorted actions. A step succeeds
exactly when its action is admitted (`scheduleAction_eq_ok`), so a timeline is
built exactly when every action is admitted where it comes
(`ScheduledTimeline.build_isOk_iff`).

The insertions of a timeline are intervals spliced into the source clock, so the
output clock is tiled by source frames and insertions. The frame map recomputes
the shift of the loop from the insertions alone.
-/

set_option autoImplicit false

namespace Omnivox.Timeline

open Foundations

/-! ## What an action asks for -/

/-- The frames an action adds to the primary clock. -/
def TimelineActionKind.insertedFrames : TimelineActionKind → Nat
  | .audio .insert durationFrames _ _ => durationFrames
  | _ => 0

/-- The frames an action sounds for. -/
def TimelineActionKind.soundingFrames : TimelineActionKind → Nat
  | .audio _ durationFrames _ _ => durationFrames
  | _ => 0

def TimelineActionKind.IsAudio : TimelineActionKind → Prop
  | .audio .. => True
  | _ => False

/-- Audio is not empty and its volume lies between silence and unity. -/
def TimelineActionKind.WellFormed : TimelineActionKind → Prop
  | .audio _ durationFrames volume _ => 0 < durationFrames ∧ volume.inUnitRange = true
  | _ => True

/-- An effect state begins when none is active, and is replaced or ended when
one is. -/
def TimelineActionKind.LegalWhen (active : Bool) : TimelineActionKind → Prop
  | .effectState (.begin _) => active = false
  | .effectState (.replace _) => active = true
  | .effectState .end => active = true
  | _ => True

/-- The effect state an admitted action leaves behind. -/
def TimelineActionKind.effectAfter (current : Option EffectStateId) :
    TimelineActionKind → Option EffectStateId
  | .effectState (.begin state) => some state
  | .effectState (.replace state) => some state
  | .effectState .end => none
  | _ => current

/-- The frames a list of actions adds to the primary clock. -/
def insertedBy (actions : List ResolvedTimelineAction) : Nat :=
  (actions.map fun resolved => resolved.action.kind.insertedFrames).sum

/-- The effect state a list of actions leaves behind. -/
def effectAfterAll (actions : List ResolvedTimelineAction) : Option EffectStateId :=
  actions.foldl (fun current resolved => resolved.action.kind.effectAfter current) none

/-- **When a timeline can be built.** Every action is in bounds, well formed and
legal where it comes, and neither the primary clock nor the end of any action
leaves the range of a frame counter. -/
structure Schedulable (primarySourceFrames : Nat) (sorted : List ResolvedTimelineAction) :
    Prop where
  primary : primarySourceFrames + insertedBy sorted ≤ u64Max
  inBounds : ∀ resolved ∈ sorted, resolved.sourceFrame ≤ primarySourceFrames
  wellFormed : ∀ resolved ∈ sorted, resolved.action.kind.WellFormed
  legal : ∀ earlier resolved later, sorted = earlier ++ resolved :: later →
    resolved.action.kind.LegalWhen (effectAfterAll earlier).isSome
  ends : ∀ earlier resolved later, sorted = earlier ++ resolved :: later →
    resolved.sourceFrame + insertedBy earlier + resolved.action.kind.soundingFrames ≤ u64Max

/-! ## One turn of the loop -/

theorem addFrames_eq_ok {first second sum : Nat} :
    addFrames first second = .ok sum ↔ first + second ≤ u64Max ∧ sum = first + second := by
  rw [addFrames, orError_eq_ok, checkedAdd_eq_some]
  exact And.comm

theorem validateActionKind_eq_ok {kind : TimelineActionKind} {u : Unit} :
    validateActionKind kind = .ok u ↔ kind.WellFormed := by
  cases kind with
  | audio mode durationFrames volume effectBus =>
      simp only [validateActionKind, TimelineActionKind.WellFormed, bind_eq_ok, ensure_eq_ok,
        bne_iff_ne, Nat.pos_iff_ne_zero]
      constructor
      · rintro ⟨_, filled, audible⟩
        exact ⟨filled, audible⟩
      · rintro ⟨filled, audible⟩
        exact ⟨u, filled, audible⟩
  | semanticEvent => exact ⟨fun _ => trivial, fun _ => rfl⟩
  | effectState change => exact ⟨fun _ => trivial, fun _ => rfl⟩

theorem applyEffectChange_eq_ok {kind : TimelineActionKind}
    {current after : Option EffectStateId} :
    applyEffectChange kind current = .ok after ↔
      kind.LegalWhen current.isSome ∧ after = kind.effectAfter current := by
  cases kind with
  | audio mode durationFrames volume effectBus =>
      simp [applyEffectChange, TimelineActionKind.LegalWhen, TimelineActionKind.effectAfter,
        eq_comm]
  | semanticEvent =>
      simp [applyEffectChange, TimelineActionKind.LegalWhen, TimelineActionKind.effectAfter,
        eq_comm]
  | effectState change =>
      cases change <;> cases current <;>
        simp [applyEffectChange, TimelineActionKind.LegalWhen, TimelineActionKind.effectAfter,
          eq_comm]

/-- The scheduled form of an admitted action. -/
def placeAction (shift : Nat) (current : Option EffectStateId)
    (resolved : ResolvedTimelineAction) : ScheduledAction where
  id := resolved.action.id
  sourceFrame := resolved.sourceFrame
  outputFrame := resolved.sourceFrame + shift
  kind := resolved.action.kind
  effectStateBefore := current
  effectStateAfter := resolved.action.kind.effectAfter current

/-- The insertion an action makes, if any. -/
def insertionOf (shift : Nat) (resolved : ResolvedTimelineAction) : Option FrameInsertion :=
  match resolved.action.kind with
  | .audio .insert durationFrames _ _ =>
      some ⟨resolved.sourceFrame, resolved.sourceFrame + shift, durationFrames⟩
  | _ => none

/-- The schedule with one more action, as exact arithmetic has it. -/
def Schedule.extend (schedule : Schedule) (resolved : ResolvedTimelineAction) : Schedule where
  insertions := schedule.insertions ++ (insertionOf schedule.shift resolved).toList
  scheduled := schedule.scheduled ++ [placeAction schedule.shift schedule.effectState resolved]
  shift := schedule.shift + resolved.action.kind.insertedFrames
  effectState := resolved.action.kind.effectAfter schedule.effectState
  completionFrame := max schedule.completionFrame
    (resolved.sourceFrame + schedule.shift + resolved.action.kind.soundingFrames)

/-- What one turn of the loop checks. -/
structure Admits (primarySourceFrames : Nat) (schedule : Schedule)
    (resolved : ResolvedTimelineAction) : Prop where
  inBounds : resolved.sourceFrame ≤ primarySourceFrames
  wellFormed : resolved.action.kind.WellFormed
  legal : resolved.action.kind.LegalWhen schedule.effectState.isSome
  room : resolved.sourceFrame + schedule.shift + resolved.action.kind.soundingFrames ≤ u64Max
  shiftRoom : schedule.shift + resolved.action.kind.insertedFrames ≤ u64Max

theorem placeAction_endFrame {shift endFrame : Nat} (current : Option EffectStateId)
    {resolved : ResolvedTimelineAction} (inRange : resolved.sourceFrame + shift ≤ u64Max) :
    (placeAction shift current resolved).endFrame = .ok endFrame ↔
      resolved.sourceFrame + shift + resolved.action.kind.soundingFrames ≤ u64Max ∧
        endFrame = resolved.sourceFrame + shift + resolved.action.kind.soundingFrames := by
  unfold ScheduledAction.endFrame placeAction TimelineActionKind.soundingFrames
  cases resolved.action.kind with
  | audio mode durationFrames volume effectBus => exact addFrames_eq_ok
  | semanticEvent => simp [inRange, eq_comm]
  | effectState change => simp [inRange, eq_comm]

theorem Schedule.push_eq_ok {schedule next : Schedule} {resolved : ResolvedTimelineAction}
    (inRange : schedule.shift ≤ u64Max) :
    schedule.push (placeAction schedule.shift schedule.effectState resolved)
        (max schedule.completionFrame
          (resolved.sourceFrame + schedule.shift + resolved.action.kind.soundingFrames)) =
        .ok next ↔
      schedule.shift + resolved.action.kind.insertedFrames ≤ u64Max ∧
        next = schedule.extend resolved := by
  obtain ⟨⟨id, kind⟩, sourceFrame⟩ := resolved
  cases kind with
  | audio mode durationFrames volume effectBus =>
      cases mode with
      | insert =>
          simp only [push, placeAction, extend, insertionOf, TimelineActionKind.insertedFrames,
            bind_eq_ok, addFrames_eq_ok]
          constructor
          · rintro ⟨shift, ⟨room, rfl⟩, result⟩
            cases result
            exact ⟨room, rfl⟩
          · rintro ⟨room, rfl⟩
            exact ⟨_, ⟨room, rfl⟩, rfl⟩
      | overlay =>
          simp [push, placeAction, extend, insertionOf, TimelineActionKind.insertedFrames, inRange,
            eq_comm]
  | semanticEvent =>
      simp [push, placeAction, extend, insertionOf, TimelineActionKind.insertedFrames, inRange,
        eq_comm]
  | effectState change =>
      simp [push, placeAction, extend, insertionOf, TimelineActionKind.insertedFrames, inRange,
        eq_comm]

/-- **One turn of the loop** succeeds exactly when the action is admitted. -/
theorem scheduleAction_eq_ok (primarySourceFrames : Nat) (schedule : Schedule)
    (resolved : ResolvedTimelineAction) (next : Schedule) :
    scheduleAction primarySourceFrames schedule resolved = .ok next ↔
      Admits primarySourceFrames schedule resolved ∧ next = schedule.extend resolved := by
  simp only [scheduleAction, bind_eq_ok, ensure_eq_ok, decide_eq_true_eq,
    validateActionKind_eq_ok, addFrames_eq_ok, applyEffectChange_eq_ok]
  constructor
  · rintro ⟨_, inBounds, _, wellFormed, outputFrame, ⟨inRange, rfl⟩, after, ⟨legal, rfl⟩,
      endFrame, ended, pushed⟩
    obtain ⟨room, rfl⟩ := (placeAction_endFrame schedule.effectState inRange).mp ended
    obtain ⟨shiftRoom, result⟩ := (Schedule.push_eq_ok (by omega)).mp pushed
    exact ⟨⟨inBounds, wellFormed, legal, room, shiftRoom⟩, result⟩
  · rintro ⟨⟨inBounds, wellFormed, legal, room, shiftRoom⟩, result⟩
    have inRange : resolved.sourceFrame + schedule.shift ≤ u64Max := by omega
    exact ⟨(), inBounds, (), wellFormed, _, ⟨inRange, rfl⟩, _, ⟨legal, rfl⟩, _,
      (placeAction_endFrame _ inRange).mpr ⟨room, rfl⟩,
      (Schedule.push_eq_ok (by omega)).mpr ⟨shiftRoom, result⟩⟩

/-! ## The whole loop -/

/-- The scheduled forms of a list of actions. -/
def placeActions : Nat → Option EffectStateId → List ResolvedTimelineAction → List ScheduledAction
  | _, _, [] => []
  | shift, current, resolved :: rest =>
      placeAction shift current resolved ::
        placeActions (shift + resolved.action.kind.insertedFrames)
          (resolved.action.kind.effectAfter current) rest

/-- The insertions of a list of actions. -/
def insertionsOf : Nat → List ResolvedTimelineAction → List FrameInsertion
  | _, [] => []
  | shift, resolved :: rest =>
      (insertionOf shift resolved).toList ++
        insertionsOf (shift + resolved.action.kind.insertedFrames) rest

@[simp] theorem insertedBy_nil : insertedBy [] = 0 := rfl

@[simp] theorem insertedBy_cons (resolved : ResolvedTimelineAction)
    (rest : List ResolvedTimelineAction) :
    insertedBy (resolved :: rest) = resolved.action.kind.insertedFrames + insertedBy rest := by
  simp [insertedBy]

@[simp] theorem insertedBy_append (first second : List ResolvedTimelineAction) :
    insertedBy (first ++ second) = insertedBy first + insertedBy second := by
  simp [insertedBy]

/-- What the loop leaves in each of its variables but the completion frame. -/
theorem foldl_extend (schedule : Schedule) (actions : List ResolvedTimelineAction) :
    let final := actions.foldl Schedule.extend schedule
    final.shift = schedule.shift + insertedBy actions ∧
      final.effectState = actions.foldl
        (fun current resolved => resolved.action.kind.effectAfter current) schedule.effectState ∧
      final.scheduled =
        schedule.scheduled ++ placeActions schedule.shift schedule.effectState actions ∧
      final.insertions = schedule.insertions ++ insertionsOf schedule.shift actions := by
  induction actions generalizing schedule with
  | nil => simp [placeActions, insertionsOf]
  | cons resolved rest ih =>
      obtain ⟨shift, effect, scheduled, insertions⟩ := ih (schedule.extend resolved)
      refine ⟨?_, effect, ?_, ?_⟩
      · rw [List.foldl_cons, shift, insertedBy_cons]
        exact Nat.add_assoc _ _ _
      · rw [List.foldl_cons, scheduled, placeActions]
        simp [Schedule.extend]
      · rw [List.foldl_cons, insertions, insertionsOf]
        simp [Schedule.extend]

/-- The end of a scheduled action, without an upper bound on counters. -/
def ScheduledAction.exactEnd (scheduled : ScheduledAction) : Nat :=
  scheduled.outputFrame + scheduled.kind.soundingFrames

/-- The completion frame is the latest end. -/
theorem foldl_extend_completion (schedule : Schedule) (actions : List ResolvedTimelineAction) :
    IsGreatest {frame | frame = schedule.completionFrame ∨
        ∃ scheduled ∈ placeActions schedule.shift schedule.effectState actions,
          scheduled.exactEnd = frame}
      (actions.foldl Schedule.extend schedule).completionFrame := by
  induction actions generalizing schedule with
  | nil =>
      refine ⟨Or.inl rfl, ?_⟩
      rintro frame (rfl | ⟨scheduled, member, _⟩)
      · exact Nat.le_refl _
      · cases member
  | cons resolved rest ih =>
      obtain ⟨attained, greatest⟩ := ih (schedule.extend resolved)
      rw [List.foldl_cons, placeActions]
      refine ⟨?_, ?_⟩
      · rcases attained with before | ⟨scheduled, member, same⟩
        · rcases Nat.le_total schedule.completionFrame
            (placeAction schedule.shift schedule.effectState resolved).exactEnd with later | earlier
          · refine Or.inr ⟨_, List.mem_cons_self, ?_⟩
            rw [before]
            exact (Nat.max_eq_right later).symm
          · refine Or.inl ?_
            rw [before]
            exact Nat.max_eq_left earlier
        · exact Or.inr ⟨scheduled, List.mem_cons_of_mem _ member, same⟩
      · have first := greatest (Or.inl rfl)
        rintro frame (rfl | ⟨scheduled, member, rfl⟩)
        · exact Nat.le_trans (Nat.le_max_left _ _) first
        · rcases List.mem_cons.mp member with rfl | later
          · exact Nat.le_trans (Nat.le_max_right _ _) first
          · exact greatest (Or.inr ⟨scheduled, later, rfl⟩)

/-- The variables of the loop before its first turn. -/
def Schedule.start (primarySourceFrames : Nat) : Schedule :=
  ⟨[], [], 0, none, primarySourceFrames⟩

/-- The timeline of sorted actions, as exact arithmetic has it. -/
def timelineOf (primarySourceFrames : Nat) (sorted : List ResolvedTimelineAction) :
    ScheduledTimeline where
  frameMap := ⟨insertionsOf 0 sorted⟩
  actions := placeActions 0 none sorted
  primaryOutputFrames := primarySourceFrames + insertedBy sorted
  completionFrame := max
    (sorted.foldl Schedule.extend (Schedule.start primarySourceFrames)).completionFrame
    (primarySourceFrames + insertedBy sorted)

/-- The guards of the loop are the conditions on the sorted actions. -/
theorem schedulable_iff {primarySourceFrames : Nat} {sorted : List ResolvedTimelineAction} :
    Schedulable primarySourceFrames sorted ↔
      AdmittedAlong (Admits primarySourceFrames) Schedule.extend
          (Schedule.start primarySourceFrames) sorted ∧
        primarySourceFrames + insertedBy sorted ≤ u64Max := by
  have reached : ∀ earlier : List ResolvedTimelineAction,
      (earlier.foldl Schedule.extend (Schedule.start primarySourceFrames)).shift =
          insertedBy earlier ∧
        (earlier.foldl Schedule.extend (Schedule.start primarySourceFrames)).effectState =
          effectAfterAll earlier := by
    intro earlier
    obtain ⟨shift, effect, _⟩ := foldl_extend (Schedule.start primarySourceFrames) earlier
    exact ⟨shift.trans (Nat.zero_add _), effect⟩
  constructor
  · rintro ⟨primary, inBounds, wellFormed, legal, ends⟩
    refine ⟨?_, primary⟩
    intro earlier resolved later split
    obtain ⟨shift, effect⟩ := reached earlier
    have member : resolved ∈ sorted := by
      rw [split]
      exact List.mem_append_right _ List.mem_cons_self
    refine ⟨inBounds resolved member, wellFormed resolved member, ?_, ?_, ?_⟩
    · rw [effect]
      exact legal earlier resolved later split
    · rw [shift]
      exact ends earlier resolved later split
    · rw [split, insertedBy_append, insertedBy_cons] at primary
      rw [shift]
      omega
  · rintro ⟨along, primary⟩
    have everywhere : ∀ resolved ∈ sorted, ∃ earlier later, sorted = earlier ++ resolved :: later :=
      fun resolved member => List.append_of_mem member
    refine ⟨primary, ?_, ?_, ?_, ?_⟩
    · intro resolved member
      obtain ⟨earlier, later, split⟩ := everywhere resolved member
      exact (along earlier resolved later split).inBounds
    · intro resolved member
      obtain ⟨earlier, later, split⟩ := everywhere resolved member
      exact (along earlier resolved later split).wellFormed
    · intro earlier resolved later split
      have legal := (along earlier resolved later split).legal
      rwa [(reached earlier).2] at legal
    · intro earlier resolved later split
      have room := (along earlier resolved later split).room
      rwa [(reached earlier).1] at room

/-- **Building a timeline** succeeds exactly on schedulable actions, with the
timeline that exact arithmetic gives. -/
theorem ScheduledTimeline.build_eq_ok {primarySourceFrames : Nat}
    {actions : List ResolvedTimelineAction} {timeline : ScheduledTimeline} :
    build primarySourceFrames actions = .ok timeline ↔
      Schedulable primarySourceFrames (sortNumbered ResolvedTimelineAction.sourceFrame actions) ∧
        timeline = timelineOf primarySourceFrames
          (sortNumbered ResolvedTimelineAction.sourceFrame actions) := by
  obtain ⟨shift, _, scheduled, insertions⟩ := foldl_extend (Schedule.start primarySourceFrames)
    (sortNumbered ResolvedTimelineAction.sourceFrame actions)
  have shifted := shift.trans (Nat.zero_add _)
  have exact : ∀ final, final = (sortNumbered ResolvedTimelineAction.sourceFrame actions).foldl
      Schedule.extend (Schedule.start primarySourceFrames) →
      (⟨⟨final.insertions⟩, final.scheduled, primarySourceFrames + final.shift,
        max final.completionFrame (primarySourceFrames + final.shift)⟩ : ScheduledTimeline) =
      timelineOf primarySourceFrames
        (sortNumbered ResolvedTimelineAction.sourceFrame actions) := by
    rintro final rfl
    rw [shifted, scheduled, insertions]
    rfl
  simp only [build, bind_eq_ok, addFrames_eq_ok, schedulable_iff,
    foldlM_eq_ok_iff (scheduleAction_eq_ok primarySourceFrames)]
  constructor
  · rintro ⟨_, ⟨along, rfl⟩, primaryOutputFrames, ⟨room, rfl⟩, result⟩
    refine ⟨⟨along, ?_⟩, (Except.ok.inj result).symm.trans (exact _ rfl)⟩
    exact shifted ▸ room
  · rintro ⟨⟨along, primary⟩, rfl⟩
    refine ⟨_, ⟨along, rfl⟩, _, ⟨?_, rfl⟩, congrArg Except.ok (exact _ rfl)⟩
    exact shifted.symm ▸ primary

/-! ## The output clock -/

/-- The cuts that a list of actions makes in the source clock. -/
def splicesOf (actions : List ResolvedTimelineAction) : List Splice :=
  actions.filterMap fun resolved =>
    match resolved.action.kind with
    | .audio .insert durationFrames _ _ => some ⟨resolved.sourceFrame, durationFrames⟩
    | _ => none

theorem splicesOf_append (first second : List ResolvedTimelineAction) :
    splicesOf (first ++ second) = splicesOf first ++ splicesOf second :=
  List.filterMap_append

/-- Each cut is made by an action of its source frame. -/
theorem mem_splicesOf {splice : Splice} {actions : List ResolvedTimelineAction}
    (member : splice ∈ splicesOf actions) :
    ∃ resolved ∈ actions, resolved.sourceFrame = splice.position := by
  obtain ⟨resolved, held, made⟩ := List.mem_filterMap.mp member
  refine ⟨resolved, held, ?_⟩
  split at made
  · cases made
    rfl
  · cases made

theorem splicesOf_cons (resolved : ResolvedTimelineAction) (rest : List ResolvedTimelineAction) :
    splicesOf (resolved :: rest) = splicesOf [resolved] ++ splicesOf rest :=
  splicesOf_append [resolved] rest

/-- An action makes one cut and one insertion of one length, or neither. -/
theorem inserts_or_not (shift : Nat) (resolved : ResolvedTimelineAction) :
    (splicesOf [resolved] = [⟨resolved.sourceFrame, resolved.action.kind.insertedFrames⟩] ∧
      insertionOf shift resolved = some ⟨resolved.sourceFrame, resolved.sourceFrame + shift,
        resolved.action.kind.insertedFrames⟩) ∨
    (splicesOf [resolved] = [] ∧ insertionOf shift resolved = none ∧
      resolved.action.kind.insertedFrames = 0) := by
  unfold splicesOf insertionOf TimelineActionKind.insertedFrames
  cases kind : resolved.action.kind with
  | audio mode durationFrames volume effectBus => cases mode <;> simp [kind]
  | semanticEvent => simp [kind]
  | effectState change => simp [kind]

theorem spliceTotal_splicesOf (actions : List ResolvedTimelineAction) :
    spliceTotal (splicesOf actions) = insertedBy actions := by
  induction actions with
  | nil => rfl
  | cons resolved rest ih =>
      rw [splicesOf_cons, spliceTotal_append, ih, insertedBy_cons]
      rcases inserts_or_not 0 resolved with ⟨cut, _⟩ | ⟨cut, _, none⟩
      · simp [cut]
      · simp [cut, none]

/-- The insertions of the frame map are the cuts, each placed on the new line. -/
theorem insertionsOf_placed (shift : Nat) (actions : List ResolvedTimelineAction) :
    (insertionsOf shift actions).map
        (fun insertion => (insertion.outputFrame, insertion.durationFrames)) =
      placed shift (splicesOf actions) := by
  induction actions generalizing shift with
  | nil => rfl
  | cons resolved rest ih =>
      rw [insertionsOf, List.map_append, ih, splicesOf_cons]
      rcases inserts_or_not shift resolved with ⟨cut, insertion⟩ | ⟨cut, insertion, none⟩
      · simp [cut, insertion, placed]
      · simp [cut, insertion, none]

theorem insertionsOf_splices (shift : Nat) (actions : List ResolvedTimelineAction) :
    (insertionsOf shift actions).map
        (fun insertion => (⟨insertion.sourceFrame, insertion.durationFrames⟩ : Splice)) =
      splicesOf actions := by
  induction actions generalizing shift with
  | nil => rfl
  | cons resolved rest ih =>
      rw [insertionsOf, List.map_append, ih, splicesOf_cons]
      rcases inserts_or_not shift resolved with ⟨cut, insertion⟩ | ⟨cut, insertion, _⟩
      · simp [cut, insertion]
      · simp [cut, insertion]

/-- Cuts of sorted actions come in order. -/
theorem splicesOf_ordered {actions : List ResolvedTimelineAction}
    (sorted : actions.Pairwise fun first second => first.sourceFrame ≤ second.sourceFrame) :
    Ordered (splicesOf actions) := by
  induction actions with
  | nil => exact List.Pairwise.nil
  | cons resolved rest ih =>
      rw [List.pairwise_cons] at sorted
      rw [splicesOf_cons, Ordered, List.pairwise_append]
      refine ⟨?_, ih sorted.2, ?_⟩
      · rcases inserts_or_not 0 resolved with ⟨cut, _⟩ | ⟨cut, _⟩
        · rw [cut]
          exact List.pairwise_singleton _ _
        · rw [cut]
          exact List.Pairwise.nil
      · intro first memberFirst second memberSecond
        obtain ⟨_, inFirst, same⟩ := mem_splicesOf memberFirst
        obtain ⟨other, inRest, same'⟩ := mem_splicesOf memberSecond
        rw [List.mem_singleton] at inFirst
        rw [← same, ← same', inFirst]
        exact sorted.1 other inRest

/-- A checked sum of durations is exact while it stays in range. -/
theorem foldlM_addFrames {insertions : List FrameInsertion} {frame : Nat}
    (room : frame + (insertions.map FrameInsertion.durationFrames).sum ≤ u64Max) :
    insertions.foldlM (fun frame insertion => addFrames frame insertion.durationFrames) frame =
      .ok (frame + (insertions.map FrameInsertion.durationFrames).sum) := by
  induction insertions generalizing frame with
  | nil => rfl
  | cons insertion rest ih =>
      rw [List.map_cons, List.sum_cons, ← Nat.add_assoc] at room ⊢
      have here : addFrames frame insertion.durationFrames =
          .ok (frame + insertion.durationFrames) := addFrames_eq_ok.mpr ⟨by omega, rfl⟩
      exact foldlM_cons_eq_ok.mpr ⟨_, here, ih room⟩

/-- The frame map of a timeline moves source frames as its cuts do. -/
theorem mapWith_timelineOf {shift sourceFrame : Nat} {actions : List ResolvedTimelineAction}
    (p : Nat → Bool)
    (room : sourceFrame + insertedBy actions ≤ u64Max) :
    (FrameMap.mk (insertionsOf shift actions)).mapWith sourceFrame
        (fun insertion => p insertion.sourceFrame) =
      .ok (sourceFrame +
        spliceTotal ((splicesOf actions).filter fun splice => p splice.position)) := by
  have lengths : (((insertionsOf shift actions).filter fun insertion =>
      p insertion.sourceFrame).map FrameInsertion.durationFrames).sum =
        spliceTotal ((splicesOf actions).filter fun splice => p splice.position) := by
    rw [← insertionsOf_splices shift actions, List.filter_map, spliceTotal, List.map_map]
    rfl
  have bound : spliceTotal ((splicesOf actions).filter fun splice => p splice.position) ≤
      insertedBy actions := by
    rw [← spliceTotal_splicesOf]
    exact spliceTotal_sublist List.filter_sublist
  rw [FrameMap.mapWith, foldlM_addFrames, lengths]
  rw [lengths]
  omega

theorem mapBefore_timelineOf {shift sourceFrame : Nat} {actions : List ResolvedTimelineAction}
    (room : sourceFrame + insertedBy actions ≤ u64Max) :
    (FrameMap.mk (insertionsOf shift actions)).mapBefore sourceFrame =
      .ok (splicedBefore (splicesOf actions) sourceFrame) :=
  mapWith_timelineOf (fun position => position < sourceFrame) room

theorem mapAfter_timelineOf {shift sourceFrame : Nat} {actions : List ResolvedTimelineAction}
    (room : sourceFrame + insertedBy actions ≤ u64Max) :
    (FrameMap.mk (insertionsOf shift actions)).mapAfter sourceFrame =
      .ok (splicedAfter (splicesOf actions) sourceFrame) :=
  mapWith_timelineOf (fun position => position ≤ sourceFrame) room

/-- The output frame lies in the insertion with the given index. -/
def FrameMap.Covers (frameMap : FrameMap) (outputFrame index : Nat) : Prop :=
  ∃ insertion, frameMap.insertions[index]? = some insertion ∧
    insertion.outputFrame ≤ outputFrame ∧
    outputFrame < insertion.outputFrame + insertion.durationFrames

theorem covers_iff_inInterval {actions : List ResolvedTimelineAction} {outputFrame index : Nat} :
    (FrameMap.mk (insertionsOf 0 actions)).Covers outputFrame index ↔
      InInterval (splicesOf actions) outputFrame index := by
  unfold FrameMap.Covers InInterval
  rw [← insertionsOf_placed, List.getElem?_map]
  constructor
  · rintro ⟨insertion, held, start, stop⟩
    refine ⟨insertion.outputFrame, insertion.durationFrames, ?_, start, stop⟩
    rw [held]
    rfl
  · rintro ⟨start, length, held, from_start, to_end⟩
    obtain ⟨insertion, found, same⟩ := Option.map_eq_some_iff.mp held
    cases same
    exact ⟨insertion, found, from_start, to_end⟩

/-- The action a scheduled action came from. -/
def ScheduledAction.origin (scheduled : ScheduledAction) : ResolvedTimelineAction :=
  ⟨⟨scheduled.id, scheduled.kind⟩, scheduled.sourceFrame⟩

theorem placeActions_origin (shift : Nat) (current : Option EffectStateId)
    (actions : List ResolvedTimelineAction) :
    (placeActions shift current actions).map ScheduledAction.origin = actions := by
  induction actions generalizing shift current with
  | nil => rfl
  | cons resolved rest ih =>
      rw [placeActions, List.map_cons, ih]
      rfl

/-- Each action is placed behind the insertions of the actions before it. -/
theorem placeActions_outputFrame {shift : Nat} {current : Option EffectStateId}
    {actions : List ResolvedTimelineAction} {earlier later : List ScheduledAction}
    {scheduled : ScheduledAction}
    (split : placeActions shift current actions = earlier ++ scheduled :: later) :
    scheduled.outputFrame =
      scheduled.sourceFrame + (shift + insertedBy (earlier.map ScheduledAction.origin)) := by
  induction actions generalizing shift current earlier with
  | nil => exact absurd split.symm (by simp [placeActions])
  | cons resolved rest ih =>
      rw [placeActions] at split
      cases earlier with
      | nil =>
          obtain ⟨rfl, _⟩ := List.cons.inj split
          rfl
      | cons first earlier =>
          obtain ⟨rfl, tail⟩ := List.cons.inj split
          rw [ih tail, List.map_cons, insertedBy_cons, ← Nat.add_assoc shift]
          rfl

end Omnivox.Timeline
