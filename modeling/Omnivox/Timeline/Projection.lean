import Omnivox.Timeline.FrameClock

/-!
# The timeline is an exact projection

The results on whole timelines. A timeline that was built orders its actions
stably, tiles its output clock with source frames and insertions, places every
action where the map of its own insertions says, and ends with its last audio
(`ExactProjection`). Timelines are built for exactly the schedulable actions
(`ScheduledTimeline.build_projects`).
-/

set_option autoImplicit false

namespace Omnivox.Timeline

open Foundations

/-- **What a built timeline is.** -/
structure ExactProjection (primarySourceFrames : Nat) (actions : List ResolvedTimelineAction)
    (timeline : ScheduledTimeline) : Prop where
  /-- The scheduled actions are the actions, stably sorted by source frame. -/
  sorted : StableSortOf ResolvedTimelineAction.sourceFrame actions
    (timeline.actions.map ScheduledAction.origin)
  /-- Every output frame is one source frame or lies in one insertion, not both. -/
  tiled : ∀ frame < timeline.primaryOutputFrames,
    ((∃! source, source < primarySourceFrames ∧ timeline.frameMap.mapAfter source = .ok frame) ∧
      ∀ index, ¬ timeline.frameMap.Covers frame index) ∨
    ((∃! index, timeline.frameMap.Covers frame index) ∧
      ∀ source < primarySourceFrames, timeline.frameMap.mapAfter source ≠ .ok frame)
  /-- An action is shifted by the insertions scheduled before it. -/
  shifted : ∀ earlier scheduled later, timeline.actions = earlier ++ scheduled :: later →
    scheduled.outputFrame =
      scheduled.sourceFrame + insertedBy (earlier.map ScheduledAction.origin)
  /-- An action lies between the two images of its source frame. -/
  between : ∀ scheduled ∈ timeline.actions, ∃ low high,
    timeline.frameMap.mapBefore scheduled.sourceFrame = .ok low ∧
      timeline.frameMap.mapAfter scheduled.sourceFrame = .ok high ∧
      low ≤ scheduled.outputFrame ∧ scheduled.outputFrame ≤ high
  /-- The timeline completes with the primary clock and the last audio. -/
  completion : IsGreatest {frame | frame = timeline.primaryOutputFrames ∨
      ∃ scheduled ∈ timeline.actions, scheduled.kind.IsAudio ∧ scheduled.endFrame = .ok frame}
    timeline.completionFrame

section

variable {primarySourceFrames : Nat} {sorted : List ResolvedTimelineAction}

/-- The actions around a scheduled action come from the actions around its origin. -/
theorem origins_of_split {earlier later : List ScheduledAction} {scheduled : ScheduledAction}
    (split : (timelineOf primarySourceFrames sorted).actions = earlier ++ scheduled :: later) :
    sorted = earlier.map ScheduledAction.origin ++
      scheduled.origin :: later.map ScheduledAction.origin := by
  have origins : (timelineOf primarySourceFrames sorted).actions.map ScheduledAction.origin =
      sorted := placeActions_origin 0 none sorted
  rw [← origins, split, List.map_append, List.map_cons]

variable (schedulable : Schedulable primarySourceFrames sorted)
  (inOrder : sorted.Pairwise fun first second => first.sourceFrame ≤ second.sourceFrame)

include schedulable

/-- Source frames within the primary speech move as the cuts do. -/
theorem Schedulable.mapAfter {sourceFrame : Nat} (within : sourceFrame ≤ primarySourceFrames) :
    (timelineOf primarySourceFrames sorted).frameMap.mapAfter sourceFrame =
      .ok (splicedAfter (splicesOf sorted) sourceFrame) := by
  have primary := schedulable.primary
  exact mapAfter_timelineOf (by omega)

theorem Schedulable.mapBefore {sourceFrame : Nat} (within : sourceFrame ≤ primarySourceFrames) :
    (timelineOf primarySourceFrames sorted).frameMap.mapBefore sourceFrame =
      .ok (splicedBefore (splicesOf sorted) sourceFrame) := by
  have primary := schedulable.primary
  exact mapBefore_timelineOf (by omega)

include inOrder

theorem Schedulable.tiled {frame : Nat}
    (within : frame < (timelineOf primarySourceFrames sorted).primaryOutputFrames) :
    ((∃! source, source < primarySourceFrames ∧
        (timelineOf primarySourceFrames sorted).frameMap.mapAfter source = .ok frame) ∧
      ∀ index, ¬ (timelineOf primarySourceFrames sorted).frameMap.Covers frame index) ∨
    ((∃! index, (timelineOf primarySourceFrames sorted).frameMap.Covers frame index) ∧
      ∀ source < primarySourceFrames,
        (timelineOf primarySourceFrames sorted).frameMap.mapAfter source ≠ .ok frame) := by
  have image : ∀ source < primarySourceFrames,
      ((timelineOf primarySourceFrames sorted).frameMap.mapAfter source = .ok frame ↔
        splicedAfter (splicesOf sorted) source = frame) := by
    intro source below
    rw [schedulable.mapAfter (Nat.le_of_lt below), Except.ok.injEq]
  have bounds : ∀ splice ∈ splicesOf sorted, splice.position ≤ primarySourceFrames := by
    intro splice member
    obtain ⟨resolved, held, same⟩ := mem_splicesOf member
    exact same ▸ schedulable.inBounds resolved held
  have covered : ∀ index, (timelineOf primarySourceFrames sorted).frameMap.Covers frame index ↔
      InInterval (splicesOf sorted) frame index := fun _ => covers_iff_inInterval
  have onLine : frame < primarySourceFrames + spliceTotal (splicesOf sorted) := by
    rw [spliceTotal_splicesOf]
    exact within
  rcases splicing_tiles (splicesOf_ordered inOrder) bounds onLine with
    ⟨⟨source, ⟨below, moved⟩, only⟩, outside⟩ | ⟨⟨index, inside, only⟩, outside⟩
  · refine Or.inl ⟨⟨source, ⟨below, (image source below).mpr moved⟩, ?_⟩, ?_⟩
    · rintro other ⟨otherBelow, otherMoved⟩
      exact only other ⟨otherBelow, (image other otherBelow).mp otherMoved⟩
    · intro index inside
      exact outside index ((covered index).mp inside)
  · refine Or.inr ⟨⟨index, (covered index).mpr inside, ?_⟩, ?_⟩
    · intro other otherInside
      exact only other ((covered other).mp otherInside)
    · intro source below moved
      exact outside source below ((image source below).mp moved)

/-- An action lies between the images of its source frame: cuts of earlier
actions are at or before it, cuts of later actions at or behind it. -/
theorem Schedulable.between {earlier later : List ScheduledAction} {scheduled : ScheduledAction}
    (split : (timelineOf primarySourceFrames sorted).actions = earlier ++ scheduled :: later) :
    ∃ low high,
      (timelineOf primarySourceFrames sorted).frameMap.mapBefore scheduled.sourceFrame = .ok low ∧
        (timelineOf primarySourceFrames sorted).frameMap.mapAfter scheduled.sourceFrame =
          .ok high ∧
        low ≤ scheduled.outputFrame ∧ scheduled.outputFrame ≤ high := by
  have sources := origins_of_split split
  have within : scheduled.sourceFrame ≤ primarySourceFrames := by
    refine schedulable.inBounds scheduled.origin ?_
    rw [sources]
    exact List.mem_append_right _ List.mem_cons_self
  have placement := placeActions_outputFrame split
  rw [sources, List.pairwise_append, List.pairwise_cons] at inOrder
  obtain ⟨_, ⟨behind, _⟩, before⟩ := inOrder
  have front : ∀ splice ∈ splicesOf (earlier.map ScheduledAction.origin),
      splice.position ≤ scheduled.sourceFrame := by
    intro splice member
    obtain ⟨resolved, held, same⟩ := mem_splicesOf member
    exact same ▸ before resolved held scheduled.origin List.mem_cons_self
  have back : ∀ splice ∈ splicesOf (scheduled.origin :: later.map ScheduledAction.origin),
      scheduled.sourceFrame ≤ splice.position := by
    intro splice member
    obtain ⟨resolved, held, same⟩ := mem_splicesOf member
    rcases List.mem_cons.mp held with rfl | held
    · exact Nat.le_of_eq same
    · exact same ▸ behind resolved held
  have around := spliced_between front back
  rw [← splicesOf_append, ← sources, spliceTotal_splicesOf] at around
  refine ⟨_, _, schedulable.mapBefore within, schedulable.mapAfter within, ?_, ?_⟩
  · rw [placement, Nat.zero_add]
    exact around.1
  · rw [placement, Nat.zero_add]
    exact around.2

/-- The timeline ends with the primary clock or with the last audio, since an
action that is not audio ends within the primary clock. -/
theorem Schedulable.completion :
    IsGreatest {frame | frame = (timelineOf primarySourceFrames sorted).primaryOutputFrames ∨
        ∃ scheduled ∈ (timelineOf primarySourceFrames sorted).actions,
          scheduled.kind.IsAudio ∧ scheduled.endFrame = .ok frame}
      (timelineOf primarySourceFrames sorted).completionFrame := by
  have primary := schedulable.primary
  obtain ⟨attained, greatest⟩ :=
    foldl_extend_completion (Schedule.start primarySourceFrames) sorted
  have ends : ∀ scheduled ∈ (timelineOf primarySourceFrames sorted).actions,
      scheduled.kind.IsAudio → scheduled.endFrame = .ok scheduled.exactEnd := by
    intro scheduled member audio
    obtain ⟨earlier, later, split⟩ := List.append_of_mem member
    have placement := placeActions_outputFrame split
    have room := schedulable.ends _ _ _ (origins_of_split split)
    unfold ScheduledAction.endFrame ScheduledAction.exactEnd
    cases kind : scheduled.kind with
    | audio mode durationFrames volume effectBus =>
        simp only [ScheduledAction.origin, kind, TimelineActionKind.soundingFrames] at room
        refine addFrames_eq_ok.mpr ⟨?_, rfl⟩
        omega
    | semanticEvent =>
        rw [kind] at audio
        cases audio
    | effectState change =>
        rw [kind] at audio
        cases audio
  have silent : ∀ scheduled ∈ (timelineOf primarySourceFrames sorted).actions,
      ¬ scheduled.kind.IsAudio →
        scheduled.exactEnd ≤ (timelineOf primarySourceFrames sorted).primaryOutputFrames := by
    intro scheduled member notAudio
    obtain ⟨earlier, later, split⟩ := List.append_of_mem member
    obtain ⟨low, high, _, mapped, _, below⟩ := schedulable.between inOrder split
    have within : scheduled.sourceFrame ≤ primarySourceFrames := by
      have origin : scheduled.origin ∈ sorted := by
        rw [← placeActions_origin 0 none sorted]
        exact List.mem_map_of_mem member
      exact schedulable.inBounds _ origin
    rw [schedulable.mapAfter within] at mapped
    have far := splicedAfter_le (splicesOf sorted) scheduled.sourceFrame
    rw [spliceTotal_splicesOf, Except.ok.inj mapped] at far
    have still : scheduled.kind.soundingFrames = 0 := by
      unfold TimelineActionKind.soundingFrames
      split
      · rename_i kind
        rw [kind] at notAudio
        exact absurd trivial notAudio
      · rfl
    simp only [ScheduledAction.exactEnd, still, timelineOf]
    omega
  refine ⟨?_, ?_⟩
  · rcases Nat.le_total (primarySourceFrames + insertedBy sorted)
      (sorted.foldl Schedule.extend (Schedule.start primarySourceFrames)).completionFrame with
      late | early
    · have final : (timelineOf primarySourceFrames sorted).completionFrame = _ :=
        Nat.max_eq_left late
      rw [final]
      rcases attained with source | ⟨scheduled, member, same⟩
      · refine Or.inl (Nat.le_antisymm ?_ late)
        rw [source]
        exact Nat.le_add_right _ _
      · by_cases audio : scheduled.kind.IsAudio
        · exact Or.inr ⟨scheduled, member, audio, same ▸ ends scheduled member audio⟩
        · exact Or.inl (Nat.le_antisymm (same ▸ silent scheduled member audio) late)
    · exact Or.inl (Nat.max_eq_right early)
  · rintro frame (rfl | ⟨scheduled, member, audio, ended⟩)
    · exact Nat.le_max_right _ _
    · rw [ends scheduled member audio, Except.ok.injEq] at ended
      subst ended
      exact Nat.le_trans (greatest (Or.inr ⟨scheduled, member, rfl⟩)) (Nat.le_max_left _ _)

end

/-- **Timelines are exact projections.** Whatever is built is one, and building
succeeds for exactly the schedulable actions. -/
theorem ScheduledTimeline.build_projects (primarySourceFrames : Nat)
    (actions : List ResolvedTimelineAction) :
    (∀ timeline, build primarySourceFrames actions = .ok timeline →
      ExactProjection primarySourceFrames actions timeline) ∧
    (∀ sorted, StableSortOf ResolvedTimelineAction.sourceFrame actions sorted →
      (Schedulable primarySourceFrames sorted ↔
        ∃ timeline, build primarySourceFrames actions = .ok timeline)) := by
  have stable := sortNumbered_stable ResolvedTimelineAction.sourceFrame actions
  refine ⟨?_, ?_⟩
  · intro timeline built
    obtain ⟨schedulable, rfl⟩ := build_eq_ok.mp built
    refine ⟨?_, ?_, ?_, ?_, schedulable.completion stable.sorted⟩
    · rw [timelineOf, placeActions_origin]
      exact stable
    · intro frame within
      exact schedulable.tiled stable.sorted within
    · intro earlier scheduled later split
      rw [placeActions_outputFrame split, Nat.zero_add]
    · intro scheduled member
      obtain ⟨earlier, later, split⟩ := List.append_of_mem member
      exact schedulable.between stable.sorted split
  · intro sorted isSort
    rw [isSort.unique stable]
    constructor
    · intro schedulable
      exact ⟨_, build_eq_ok.mpr ⟨schedulable, rfl⟩⟩
    · rintro ⟨timeline, built⟩
      exact (build_eq_ok.mp built).1

/-- An overlay, an insertion and an event on one frame, given after a later
event: the insertion shifts what comes behind it. -/
example :
    let id : TimelineActionId := ⟨"a", rfl, by decide⟩
    let audio mode duration : TimelineActionKind := .audio mode duration (.finite 1) .dry
    (ScheduledTimeline.build 8
      [⟨⟨id, .semanticEvent⟩, 6⟩, ⟨⟨id, audio .overlay 9⟩, 5⟩, ⟨⟨id, audio .insert 3⟩, 5⟩,
        ⟨⟨id, .semanticEvent⟩, 5⟩]).map
      (fun timeline => (timeline.actions.map ScheduledAction.outputFrame,
        timeline.primaryOutputFrames, timeline.completionFrame)) =
      .ok ([5, 5, 8, 9], 11, 14) := by
  rfl

end Omnivox.Timeline
