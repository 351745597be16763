import Mathlib
import Omnivox.Audio.RenderedWindow

/-!
# Windows rendered one after another

A timeline can be rendered in one window, or its speech can be cut into consecutive
windows that are rendered as they are synthesized. Every action goes to a window that
holds its source frame, and what sounds beyond a window is carried into the next one.

The carried tail is clamped before it is carried. So the samples of the pieces are what
clamping the running sum after every window gives, while one window clamps the whole sum
once. The pieces agree with the whole exactly where this is the same
(`progressive_agrees_iff`).
-/

set_option autoImplicit false

namespace Omnivox.Audio

open Foundations
open Timeline (ResolvedTimelineAction ScheduledAction ScheduledTimeline
  Schedulable TimelineActionId TimelineError insertedBy insertedBy_append insertedBy_cons
  placeAction placeActions splicesOf splicesOf_append splicesOf_cons timelineOf)

/-! ## Progressive rendering -/

/-- One piece of a progressively synthesized timeline. -/
structure TimelineWindow where
  primary : AudioBuffer ℚ
  actions : List ResolvedTimelineAction
  resources : List PreparedAudioResource

/-- Render the windows in order, with the last one final. -/
def renderPieces (describe : TimelineError → String) :
    TimelineAudioRenderer → Nat → List TimelineWindow → Except AudioError (List RenderedTimelineWindow)
  | _, _, [] => .ok []
  | renderer, sourceStart, window :: rest =>
      match renderer.renderIncrementalSharedWindow describe window.primary sourceStart
        window.actions window.resources rest.isEmpty with
      | (_, .error error) => .error error
      | (next, .ok rendered) =>
          (renderPieces describe next (sourceStart + window.primary.length) rest).map
            (rendered :: ·)

def joinedAudio (pieces : List RenderedTimelineWindow) : AudioBuffer ℚ :=
  pieces.flatMap RenderedTimelineWindow.audio

/-- The tail that is left behind the last piece. -/
def finalTail (pieces : List RenderedTimelineWindow) : Option (AudioBuffer ℚ) :=
  pieces.getLast?.bind RenderedTimelineWindow.overlayTail

def RenderedSemanticEvent.delay (published : Nat) (event : RenderedSemanticEvent) :
    RenderedSemanticEvent :=
  ⟨event.id, event.frameOffset + published⟩

/-- The semantic events of all pieces, behind the output frames published before. -/
def joinedEvents : Nat → List RenderedTimelineWindow → List RenderedSemanticEvent
  | _, [] => []
  | published, piece :: rest =>
      piece.semanticEvents.map (RenderedSemanticEvent.delay published) ++
        joinedEvents (published + piece.audio.length) rest

/-- **The pieces are the whole**, cut. -/
structure Agrees (pieces : List RenderedTimelineWindow) (complete : RenderedTimelineWindow) :
    Prop where
  audio : joinedAudio pieces = complete.audio
  tail : finalTail pieces = complete.overlayTail
  events : joinedEvents 0 pieces = complete.semanticEvents

/-! ## The cut -/

/-- An action on the clock of a line that begins at a source frame. -/
def earlierBy (distance : Nat) (resolved : ResolvedTimelineAction) : ResolvedTimelineAction :=
  ⟨resolved.action, resolved.sourceFrame - distance⟩

def laterBy (distance : Nat) (resolved : ResolvedTimelineAction) : ResolvedTimelineAction :=
  ⟨resolved.action, resolved.sourceFrame + distance⟩

/-- The actions of a window in the order of its timeline. -/
def TimelineWindow.sorted (window : TimelineWindow) : List ResolvedTimelineAction :=
  sortNumbered ResolvedTimelineAction.sourceFrame window.actions

/-- The timeline of a window that begins at a source frame. -/
def TimelineWindow.timeline (window : TimelineWindow) (sourceStart : Nat) : ScheduledTimeline :=
  timelineOf window.primary.length (window.sorted.map (earlierBy sourceStart))

/-- Audio and semantic events leave the effect state alone. -/
def LeavesEffects (resolved : ResolvedTimelineAction) : Prop :=
  resolved.action.kind.IsAudio ∨ resolved.action.kind = .semanticEvent

/-- A window holds its actions and the resources of them, within the limits. -/
structure WindowFits (resources : List PreparedAudioResource) (sourceStart : Nat)
    (window : TimelineWindow) : Prop where
  within : ∀ resolved ∈ window.actions, sourceStart ≤ resolved.sourceFrame ∧
    resolved.sourceFrame ≤ sourceStart + window.primary.length
  limits : WithinLimits (window.timeline sourceStart)
  supplies : Supplies window.resources (window.timeline sourceStart)
  shared : ∀ resource ∈ window.resources, resource ∈ resources

/-- Consecutive windows from a source frame on. -/
def WindowsFit (resources : List PreparedAudioResource) : Nat → List TimelineWindow → Prop
  | _, [] => True
  | sourceStart, window :: rest =>
      WindowFits resources sourceStart window ∧
        WindowsFit resources (sourceStart + window.primary.length) rest

/-- **A cut** of a primary buffer into consecutive windows, which keeps the order of the
actions. -/
structure IsCut (windows : List TimelineWindow) (primary : AudioBuffer ℚ)
    (actions : List ResolvedTimelineAction) (resources : List PreparedAudioResource) : Prop where
  nonempty : windows ≠ []
  joined : windows.flatMap TimelineWindow.primary = primary
  ordered : windows.flatMap TimelineWindow.sorted =
    sortNumbered ResolvedTimelineAction.sourceFrame actions
  fits : WindowsFit resources 0 windows

/-- What the windows that have begun add at an output frame, each on its own. -/
def sounds : Nat → List TimelineWindow → Nat → List (Frame ℚ)
  | _, [], _ => []
  | sourceStart, window :: rest, frame =>
      mixedAt [] window.primary (window.timeline sourceStart) window.resources frame ::
        if (window.timeline sourceStart).primaryOutputFrames ≤ frame then
          sounds (sourceStart + window.primary.length) rest
            (frame - (window.timeline sourceStart).primaryOutputFrames)
        else []

/-- A running sum that is clamped after every window. -/
def runningClamp (carried : Frame ℚ) (added : List (Frame ℚ)) : Frame ℚ :=
  added.foldl (fun running sound => clampFrame (running + sound)) carried

/-! ## A timeline in two parts -/

/-- A scheduled action further on. -/
def ScheduledAction.delay (sources frames : Nat) (action : ScheduledAction) : ScheduledAction :=
  { action with sourceFrame := action.sourceFrame + sources
                outputFrame := action.outputFrame + frames }

theorem insertedBy_laterBy (distance : Nat) (actions : List ResolvedTimelineAction) :
    insertedBy (actions.map (laterBy distance)) = insertedBy actions := by
  rw [insertedBy, List.map_map]
  rfl

theorem splicesOf_laterBy (distance : Nat) (actions : List ResolvedTimelineAction) :
    splicesOf (actions.map (laterBy distance)) =
      (splicesOf actions).map (Splice.delay distance) := by
  rw [splicesOf, splicesOf, List.filterMap_map, List.map_filterMap]
  refine List.filterMap_congr fun resolved _ => ?_
  obtain ⟨⟨id, kind⟩, sourceFrame⟩ := resolved
  cases kind with
  | audio mode durationFrames volume effectBus => cases mode <;> rfl
  | semanticEvent => rfl
  | effectState change => rfl

theorem effectAfter_of_leaves {resolved : ResolvedTimelineAction}
    (leaves : LeavesEffects resolved) (current : Option Timeline.EffectStateId) :
    resolved.action.kind.effectAfter current = current := by
  obtain ⟨⟨id, kind⟩, sourceFrame⟩ := resolved
  cases kind with
  | audio mode durationFrames volume effectBus => rfl
  | semanticEvent => rfl
  | effectState change =>
      rcases leaves with audio | semantic
      · cases audio
      · cases semantic

/-- The actions of a second part are placed as on their own, further on. -/
theorem placeActions_laterBy {actions : List ResolvedTimelineAction}
    (leaves : ∀ resolved ∈ actions, LeavesEffects resolved) (distance shift ahead : Nat) :
    placeActions (ahead + shift) none (actions.map (laterBy distance)) =
      (placeActions shift none actions).map (ScheduledAction.delay distance (distance + ahead)) := by
  induction actions generalizing shift with
  | nil => rfl
  | cons resolved rest ih =>
      have kept := effectAfter_of_leaves (leaves resolved List.mem_cons_self) none
      have kept' : (laterBy distance resolved).action.kind.effectAfter none = none := kept
      rw [List.map_cons, placeActions, placeActions, kept, kept', List.map_cons,
        Nat.add_assoc ahead shift]
      refine congrArg₂ _ ?_ (ih (fun other member => leaves other (List.mem_cons_of_mem _ member)) _)
      simp only [placeAction, laterBy, ScheduledAction.delay, kept]
      congr 1
      omega

theorem placeActions_append {first second : List ResolvedTimelineAction}
    (leaves : ∀ resolved ∈ first, LeavesEffects resolved) (shift : Nat) :
    placeActions shift none (first ++ second) =
      placeActions shift none first ++ placeActions (shift + insertedBy first) none second := by
  induction first generalizing shift with
  | nil => rfl
  | cons resolved rest ih =>
      have kept := effectAfter_of_leaves (leaves resolved List.mem_cons_self) none
      rw [List.cons_append, placeActions, placeActions, kept, List.cons_append,
        ih (fun other member => leaves other (List.mem_cons_of_mem _ member)), insertedBy_cons,
        Nat.add_assoc]

theorem soundAt_delay (resources : List PreparedAudioResource) (sources frames frame : Nat)
    (action : ScheduledAction) :
    soundAt resources frame (ScheduledAction.delay sources frames action) =
      if frames ≤ frame then soundAt resources (frame - frames) action else 0 := by
  obtain ⟨id, sourceFrame, outputFrame, kind, before, after⟩ := action
  cases kind with
  | audio mode durationFrames volume effectBus =>
      show (if outputFrame + frames ≤ frame ∧ frame < outputFrame + frames + durationFrames then
        exactly volume • valueAt (audioOf resources id) (frame - (outputFrame + frames)) else 0) =
        if frames ≤ frame then
          if outputFrame ≤ frame - frames ∧ frame - frames < outputFrame + durationFrames then
            exactly volume • valueAt (audioOf resources id) (frame - frames - outputFrame) else 0
        else 0
      by_cases begun : frames ≤ frame
      · rw [if_pos begun]
        by_cases sounding :
          outputFrame ≤ frame - frames ∧ frame - frames < outputFrame + durationFrames
        · rw [if_pos sounding, if_pos (by omega)]
          congr 2
          omega
        · rw [if_neg sounding, if_neg (by omega)]
      · rw [if_neg begun, if_neg (by omega)]
  | semanticEvent => exact (ite_self _).symm
  | effectState change => exact (ite_self _).symm

theorem sum_soundAt_delay (resources : List PreparedAudioResource) (sources frames frame : Nat)
    (actions : List ScheduledAction) :
    ((actions.map (ScheduledAction.delay sources frames)).map (soundAt resources frame)).sum =
      if frames ≤ frame then (actions.map (soundAt resources (frame - frames))).sum else 0 := by
  induction actions with
  | nil => exact (ite_self _).symm
  | cons action rest ih =>
      rw [List.map_cons, List.map_cons, List.sum_cons, ih, soundAt_delay, List.map_cons,
        List.sum_cons]
      by_cases begun : frames ≤ frame
      · rw [if_pos begun, if_pos begun, if_pos begun]
      · rw [if_neg begun, if_neg begun, if_neg begun, add_zero]

theorem lastEnd_delay (sources frames start : Nat) (actions : List ScheduledAction) :
    lastEnd (frames + start) (actions.map (ScheduledAction.delay sources frames)) =
      frames + lastEnd start actions := by
  induction actions generalizing start with
  | nil => rfl
  | cons action rest ih =>
      have ends : max (frames + start) (ScheduledAction.delay sources frames action).exactEnd =
          frames + max start action.exactEnd := by
        simp only [ScheduledAction.delay, Timeline.ScheduledAction.exactEnd]
        omega
      show lastEnd (max (frames + start) (ScheduledAction.delay sources frames action).exactEnd)
        (rest.map (ScheduledAction.delay sources frames)) = frames + lastEnd (max start _) rest
      rw [ends, ih]

section

variable {front back : AudioBuffer ℚ} {first second : List ResolvedTimelineAction}

/-- The timeline of two parts, the second behind the first. -/
def jointTimeline (front back : AudioBuffer ℚ) (first second : List ResolvedTimelineAction) :
    ScheduledTimeline :=
  timelineOf (front.length + back.length) (first ++ second.map (laterBy front.length))

theorem joint_clock :
    (jointTimeline front back first second).primaryOutputFrames =
      (timelineOf front.length first).primaryOutputFrames +
        (timelineOf back.length second).primaryOutputFrames := by
  show front.length + back.length + insertedBy (first ++ second.map (laterBy front.length)) =
    front.length + insertedBy first + (back.length + insertedBy second)
  rw [insertedBy_append, insertedBy_laterBy]
  omega

theorem joint_actions (leavesFirst : ∀ resolved ∈ first, LeavesEffects resolved)
    (leavesSecond : ∀ resolved ∈ second, LeavesEffects resolved) :
    (jointTimeline front back first second).actions =
      (timelineOf front.length first).actions ++
        (timelineOf back.length second).actions.map (ScheduledAction.delay front.length
          (timelineOf front.length first).primaryOutputFrames) := by
  show placeActions 0 none (first ++ second.map (laterBy front.length)) = _
  rw [placeActions_append leavesFirst, Nat.zero_add]
  exact congrArg (placeActions 0 none first ++ ·)
    (placeActions_laterBy leavesSecond front.length 0 (insertedBy first))

theorem joint_completion (leavesFirst : ∀ resolved ∈ first, LeavesEffects resolved)
    (leavesSecond : ∀ resolved ∈ second, LeavesEffects resolved) :
    (jointTimeline front back first second).completionFrame =
      max (timelineOf front.length first).completionFrame
        ((timelineOf front.length first).primaryOutputFrames +
          (timelineOf back.length second).completionFrame) := by
  have latest : ∀ (start : Nat) (some others : List ScheduledAction),
      lastEnd start (some ++ others) = lastEnd (lastEnd start some) others := by
    intro start some others
    exact List.foldl_append
  have clock : (jointTimeline front back first second).primaryOutputFrames =
      max ((timelineOf front.length first).primaryOutputFrames +
        (timelineOf back.length second).primaryOutputFrames)
        (timelineOf front.length first).primaryOutputFrames := by
    rw [joint_clock]
    omega
  have whole := completionFrame_lastEnd (front.length + back.length)
    (first ++ second.map (laterBy front.length))
  show (jointTimeline front back first second).completionFrame = _
  change (jointTimeline front back first second).completionFrame =
    lastEnd (jointTimeline front back first second).primaryOutputFrames
      (jointTimeline front back first second).actions at whole
  rw [whole, joint_actions leavesFirst leavesSecond, latest, clock, lastEnd_max,
    ← completionFrame_lastEnd, Nat.max_comm, lastEnd_max, lastEnd_delay,
    ← completionFrame_lastEnd]

theorem joint_semanticEvents (leavesFirst : ∀ resolved ∈ first, LeavesEffects resolved)
    (leavesSecond : ∀ resolved ∈ second, LeavesEffects resolved) :
    semanticEvents (jointTimeline front back first second) =
      semanticEvents (timelineOf front.length first) ++
        (semanticEvents (timelineOf back.length second)).map (RenderedSemanticEvent.delay
          (timelineOf front.length first).primaryOutputFrames) := by
  unfold semanticEvents
  rw [joint_actions leavesFirst leavesSecond, List.filter_append, List.map_append, List.filter_map,
    List.map_map, List.map_map]
  rfl

/-- **The sum of a timeline in two parts** is the sum of the first, and behind its clock
that of the second. -/
theorem joint_mixedAt (leavesFirst : ∀ resolved ∈ first, LeavesEffects resolved)
    (leavesSecond : ∀ resolved ∈ second, LeavesEffects resolved)
    (whole : Schedulable (front ++ back).length (first ++ second.map (laterBy front.length)))
    (schedulableFirst : Schedulable front.length first)
    (schedulableSecond : Schedulable back.length second)
    (inOrderFirst : first.Pairwise fun a b => a.sourceFrame ≤ b.sourceFrame)
    (inOrderSecond : second.Pairwise fun a b => a.sourceFrame ≤ b.sourceFrame)
    (resources : List PreparedAudioResource) (frame : Nat) :
    mixedAt [] (front ++ back) (jointTimeline front back first second) resources frame =
      mixedAt [] front (timelineOf front.length first) resources frame +
        if (timelineOf front.length first).primaryOutputFrames ≤ frame then
          mixedAt [] back (timelineOf back.length second) resources
            (frame - (timelineOf front.length first).primaryOutputFrames)
        else 0 := by
  have inOrder : (first ++ second.map (laterBy front.length)).Pairwise
      fun a b => a.sourceFrame ≤ b.sourceFrame := by
    rw [List.pairwise_append]
    refine ⟨inOrderFirst, List.pairwise_map.mpr (inOrderSecond.imp fun le =>
      Nat.add_le_add_right le _), fun a inFirst b inSecond => ?_⟩
    obtain ⟨origin, _, rfl⟩ := List.mem_map.mp inSecond
    exact Nat.le_trans (schedulableFirst.inBounds a inFirst) (Nat.le_add_left _ _)
  have boundsFirst : ∀ splice ∈ splicesOf first, splice.position ≤ front.length := by
    intro splice member
    obtain ⟨resolved, held, same⟩ := Timeline.mem_splicesOf member
    exact same ▸ schedulableFirst.inBounds resolved held
  have length : (opened 0 (splicesOf first) front).length =
      (timelineOf front.length first).primaryOutputFrames := by
    rw [length_opened (Timeline.splicesOf_ordered inOrderFirst) (fun _ _ => Nat.zero_le _)
      boundsFirst, Timeline.spliceTotal_splicesOf]
    rfl
  have named : jointTimeline front back first second =
      timelineOf (front ++ back).length (first ++ second.map (laterBy front.length)) := by
    rw [List.length_append]
    rfl
  have primary : primaryAt (front ++ back) (jointTimeline front back first second) frame =
      primaryAt front (timelineOf front.length first) frame +
        if (timelineOf front.length first).primaryOutputFrames ≤ frame then
          primaryAt back (timelineOf back.length second)
            (frame - (timelineOf front.length first).primaryOutputFrames)
        else 0 := by
    rw [named, ← valueAt_opened_primary whole inOrder,
      ← valueAt_opened_primary schedulableFirst inOrderFirst,
      ← valueAt_opened_primary schedulableSecond inOrderSecond, splicesOf_append,
      splicesOf_laterBy, opened_append back (Timeline.splicesOf_ordered inOrderFirst)
        (fun _ _ => Nat.zero_le _) boundsFirst (Nat.zero_le _), valueAt_append, length]
    by_cases begun : (timelineOf front.length first).primaryOutputFrames ≤ frame
    · rw [if_neg (Nat.not_lt.mpr begun), if_pos begun,
        @valueAt_of_le _ _ (opened 0 (splicesOf first) front) _ (length ▸ begun), zero_add]
    · rw [if_pos (Nat.lt_of_not_ge begun), if_neg begun, add_zero]
  simp only [mixedAt, valueAt_nil, add_zero]
  rw [primary, joint_actions leavesFirst leavesSecond, List.map_append, List.sum_append,
    sum_soundAt_delay]
  by_cases begun : (timelineOf front.length first).primaryOutputFrames ≤ frame
  · rw [if_pos begun, if_pos begun, if_pos begun]
    abel
  · rw [if_neg begun, if_neg begun, if_neg begun]
    abel

theorem legal_of_leaves {actions : List ResolvedTimelineAction}
    (leaves : ∀ resolved ∈ actions, LeavesEffects resolved)
    (earlier : List ResolvedTimelineAction) (resolved : ResolvedTimelineAction)
    (later : List ResolvedTimelineAction) (split : actions = earlier ++ resolved :: later) :
    resolved.action.kind.LegalWhen (Timeline.effectAfterAll earlier).isSome := by
  have here := leaves resolved (split ▸ List.mem_append_right _ List.mem_cons_self)
  obtain ⟨⟨id, kind⟩, sourceFrame⟩ := resolved
  cases kind with
  | audio mode durationFrames volume effectBus => trivial
  | semanticEvent => trivial
  | effectState change =>
      rcases here with audio | semantic
      · cases audio
      · cases semantic

/-- What can be scheduled can be scheduled in two parts. -/
theorem schedulable_parts (leavesFirst : ∀ resolved ∈ first, LeavesEffects resolved)
    (leavesSecond : ∀ resolved ∈ second, LeavesEffects resolved)
    (whole : Schedulable (front.length + back.length) (first ++ second.map (laterBy front.length)))
    (inFront : ∀ resolved ∈ first, resolved.sourceFrame ≤ front.length) :
    Schedulable front.length first ∧ Schedulable back.length second := by
  have primary := whole.primary
  rw [insertedBy_append, insertedBy_laterBy] at primary
  refine ⟨⟨by omega, inFront, ?_, legal_of_leaves leavesFirst, ?_⟩,
    ⟨by omega, ?_, ?_, legal_of_leaves leavesSecond, ?_⟩⟩
  · exact fun resolved member => whole.wellFormed resolved (List.mem_append_left _ member)
  · rintro earlier resolved later rfl
    exact whole.ends earlier resolved _ (List.append_assoc _ _ _)
  · intro resolved member
    have bound : resolved.sourceFrame + front.length ≤ front.length + back.length :=
      whole.inBounds (laterBy front.length resolved)
        (List.mem_append_right _ (List.mem_map_of_mem member))
    omega
  · exact fun resolved member => whole.wellFormed (laterBy front.length resolved)
      (List.mem_append_right _ (List.mem_map_of_mem member))
  · rintro earlier resolved later rfl
    have ends := whole.ends (first ++ earlier.map (laterBy front.length))
      (laterBy front.length resolved) (later.map (laterBy front.length))
      (by rw [List.map_append, List.map_cons, List.append_assoc])
    rw [insertedBy_append, insertedBy_laterBy] at ends
    have frame : (laterBy front.length resolved).sourceFrame =
        resolved.sourceFrame + front.length := rfl
    have kind : (laterBy front.length resolved).action.kind = resolved.action.kind := rfl
    rw [frame, kind] at ends
    omega

end

/-! ## One window -/

theorem TimelineWindow.mem_sorted {window : TimelineWindow} {resolved : ResolvedTimelineAction} :
    resolved ∈ window.sorted ↔ resolved ∈ window.actions :=
  (sortNumbered_stable ResolvedTimelineAction.sourceFrame window.actions).perm.mem_iff

/-- A tail is no longer than what was carried and the resources. -/
theorem addressable_tail {carry primary tail : AudioBuffer ℚ} {sorted : List ResolvedTimelineAction}
    (bounds : ∀ resolved ∈ sorted, resolved.sourceFrame ≤ primary.length)
    {resources : List PreparedAudioResource}
    (supplies : Supplies resources (timelineOf primary.length sorted)) (small : Addressable carry)
    (ends : (timelineOf primary.length sorted).primaryOutputFrames + tail.length =
      max carry.length (timelineOf primary.length sorted).completionFrame) :
    Addressable tail := by
  have stereo : channels = 2 := rfl
  have word : wordMax 63 = 9223372036854775807 := rfl
  have latest : ∀ (actions : List ScheduledAction) (start bound : Nat), start ≤ bound →
      (∀ action ∈ actions, action.exactEnd ≤ bound) → lastEnd start actions ≤ bound := by
    intro actions
    induction actions with
    | nil => exact fun _ _ le _ => le
    | cons action rest ih =>
        intro start bound le each
        exact ih _ bound (Nat.max_le.mpr ⟨le, each action List.mem_cons_self⟩)
          fun other member => each other (List.mem_cons_of_mem _ member)
  have completes : (timelineOf primary.length sorted).completionFrame ≤
      (timelineOf primary.length sorted).primaryOutputFrames + 1152921504606846975 := by
    rw [completionFrame_lastEnd]
    refine latest _ _ _ (Nat.le_add_right _ _) fun action member => ?_
    have starts := (placed_of_mem bounds member).starts
    have sounding : action.kind.soundingFrames ≤ 1152921504606846975 := by
      cases kind : action.kind with
      | audio mode durationFrames volume effectBus =>
          obtain ⟨resource, inResources, _, duration⟩ :=
            supplies.declared action member (kind ▸ trivial)
          have fits := supplies.addressable resource inResources
          rw [Addressable, stereo, word] at fits
          rw [kind] at duration
          show _ ≤ _
          omega
      | semanticEvent => exact Nat.zero_le _
      | effectState change => exact Nat.zero_le _
    exact Nat.add_le_add starts sounding
  rw [Addressable, stereo, word] at small ⊢
  omega

/-- The window's own rendering, on the clock of the window. -/
theorem renderIncremental_ok {describe : TimelineError → String} {renderer : TimelineAudioRenderer}
    {resources : List PreparedAudioResource} {window : TimelineWindow} {sourceStart : Nat}
    (finalWindow : Bool) (fits : WindowFits resources sourceStart window)
    (schedulable : Schedulable window.primary.length (window.sorted.map (earlierBy sourceStart)))
    (inRange : sourceStart + window.primary.length ≤ u64Max)
    (small : Addressable renderer.overlayCarry) :
    ∃ next rendered tail,
      renderer.renderIncrementalSharedWindow describe window.primary sourceStart window.actions
        window.resources finalWindow = (next, .ok rendered) ∧
      RenderedExactly renderer.overlayCarry window.primary (window.timeline sourceStart)
        window.resources finalWindow next rendered tail := by
  have sorts : sortNumbered ResolvedTimelineAction.sourceFrame
      (window.actions.map (earlierBy sourceStart)) =
      window.sorted.map (earlierBy sourceStart) := by
    refine sortNumbered_map fun a inFirst b inSecond => ?_
    have first := (fits.within a inFirst).1
    have second := (fits.within b inSecond).1
    show a.sourceFrame - sourceStart ≤ b.sourceFrame - sourceStart ↔ _
    omega
  have relative : ∀ resolved ∈ window.actions,
      TimelineAudioRenderer.relativeAction sourceStart (sourceStart + window.primary.length)
        resolved = .ok (earlierBy sourceStart resolved) := by
    intro resolved member
    obtain ⟨low, high⟩ := fits.within resolved member
    unfold TimelineAudioRenderer.relativeAction
    rw [seq_eq_ok, ensure_eq_ok, Bool.and_eq_true, decide_eq_true_eq, decide_eq_true_eq]
    exact ⟨⟨low, high⟩, rfl⟩
  have built : ScheduledTimeline.build window.primary.length
      (window.actions.map (earlierBy sourceStart)) = .ok (window.timeline sourceStart) := by
    rw [ScheduledTimeline.build_eq_ok, sorts]
    exact ⟨schedulable, rfl⟩
  have timeline : TimelineAudioRenderer.incrementalTimeline describe window.primary sourceStart
      window.actions = .ok (window.timeline sourceStart) := by
    unfold TimelineAudioRenderer.incrementalTimeline
    rw [checkedAdd_of_le inRange, orError, ok_bind, mapM_ok relative, ok_bind, built]
    rfl
  have inOrder : (window.sorted.map (earlierBy sourceStart)).Pairwise
      fun a b => a.sourceFrame ≤ b.sourceFrame := by
    rw [← sorts]
    exact (sortNumbered_stable ResolvedTimelineAction.sourceFrame _).sorted
  obtain ⟨mixed, run, total, length⟩ := @mixWindow_ok describe window.primary _ window.resources
    renderer.overlayCarry schedulable inOrder fits.limits fits.supplies small
  refine ⟨_, _, _, ?_, publish_exact finalWindow total length (Nat.le_max_right _ _)⟩
  unfold TimelineAudioRenderer.renderIncrementalSharedWindow
  rw [timeline]
  simp only
  unfold TimelineAudioRenderer.renderSharedWindow TimelineAudioRenderer.renderWindowWithResources
  have here : mixWindow describe renderer.overlayCarry window.primary (window.timeline sourceStart)
      window.resources = .ok mixed := run
  rw [here]

/-! ## All windows -/

/-- The timeline of consecutive windows from a source frame on. -/
def timelineFrom (sourceStart : Nat) (windows : List TimelineWindow) : ScheduledTimeline :=
  timelineOf (windows.flatMap TimelineWindow.primary).length
    ((windows.flatMap TimelineWindow.sorted).map (earlierBy sourceStart))

theorem WindowsFit.behind {resources : List PreparedAudioResource} {sourceStart : Nat}
    {windows : List TimelineWindow} (fits : WindowsFit resources sourceStart windows) :
    ∀ resolved ∈ windows.flatMap TimelineWindow.sorted, sourceStart ≤ resolved.sourceFrame := by
  induction windows generalizing sourceStart with
  | nil => exact fun _ member => (List.not_mem_nil member).elim
  | cons window rest ih =>
      intro resolved member
      rw [List.flatMap_cons, List.mem_append] at member
      rcases member with here | later
      · exact (fits.1.within resolved (TimelineWindow.mem_sorted.mp here)).1
      · exact Nat.le_trans (Nat.le_add_right _ _) (ih fits.2 resolved later)

/-- The actions of the windows behind the first one, on the clock of the first. -/
theorem sorted_cons {resources : List PreparedAudioResource} {sourceStart : Nat}
    {window : TimelineWindow} {rest : List TimelineWindow}
    (fits : WindowsFit resources sourceStart (window :: rest)) :
    ((window :: rest).flatMap TimelineWindow.sorted).map (earlierBy sourceStart) =
      window.sorted.map (earlierBy sourceStart) ++
        (((rest.flatMap TimelineWindow.sorted).map
          (earlierBy (sourceStart + window.primary.length))).map
            (laterBy window.primary.length)) := by
  rw [List.flatMap_cons, List.map_append, List.map_map]
  refine congrArg _ (List.map_congr_left fun resolved member => ?_)
  have behind := fits.2.behind resolved member
  have frame : resolved.sourceFrame - sourceStart =
      resolved.sourceFrame - (sourceStart + window.primary.length) + window.primary.length := by
    omega
  show (⟨resolved.action, _⟩ : ResolvedTimelineAction) = ⟨resolved.action, _⟩
  rw [frame]
  rfl

theorem timelineFrom_cons {resources : List PreparedAudioResource} {sourceStart : Nat}
    {window : TimelineWindow} {rest : List TimelineWindow}
    (fits : WindowsFit resources sourceStart (window :: rest)) :
    timelineFrom sourceStart (window :: rest) =
      jointTimeline window.primary (rest.flatMap TimelineWindow.primary)
        (window.sorted.map (earlierBy sourceStart))
        ((rest.flatMap TimelineWindow.sorted).map
          (earlierBy (sourceStart + window.primary.length))) := by
  unfold timelineFrom jointTimeline
  rw [sorted_cons fits, List.flatMap_cons, List.length_append]

/-- What a cut that can be rendered provides, from a source frame on. -/
structure Renderable (resources : List PreparedAudioResource) (sourceStart : Nat)
    (windows : List TimelineWindow) : Prop where
  fits : WindowsFit resources sourceStart windows
  leaves : ∀ resolved ∈ windows.flatMap TimelineWindow.sorted, LeavesEffects resolved
  inOrder : (windows.flatMap TimelineWindow.sorted).Pairwise
    fun first second => first.sourceFrame ≤ second.sourceFrame
  schedulable : Schedulable (windows.flatMap TimelineWindow.primary).length
    ((windows.flatMap TimelineWindow.sorted).map (earlierBy sourceStart))
  inRange : sourceStart + (windows.flatMap TimelineWindow.primary).length ≤ u64Max

section

variable {resources : List PreparedAudioResource} {sourceStart : Nat} {window : TimelineWindow}
  {rest : List TimelineWindow}

theorem Renderable.leaves_first (renderable : Renderable resources sourceStart (window :: rest)) :
    ∀ resolved ∈ window.sorted.map (earlierBy sourceStart), LeavesEffects resolved := by
  intro resolved member
  obtain ⟨origin, held, rfl⟩ := List.mem_map.mp member
  exact renderable.leaves origin (List.mem_append_left _ held)

theorem Renderable.leaves_rest (renderable : Renderable resources sourceStart (window :: rest)) :
    ∀ resolved ∈ (rest.flatMap TimelineWindow.sorted).map
      (earlierBy (sourceStart + window.primary.length)), LeavesEffects resolved := by
  intro resolved member
  obtain ⟨origin, held, rfl⟩ := List.mem_map.mp member
  exact renderable.leaves origin (List.mem_append_right _ held)

theorem Renderable.parts (renderable : Renderable resources sourceStart (window :: rest)) :
    Schedulable window.primary.length (window.sorted.map (earlierBy sourceStart)) ∧
      Schedulable (rest.flatMap TimelineWindow.primary).length
        ((rest.flatMap TimelineWindow.sorted).map
          (earlierBy (sourceStart + window.primary.length))) := by
  have whole := renderable.schedulable
  rw [sorted_cons renderable.fits, List.flatMap_cons, List.length_append] at whole
  refine schedulable_parts renderable.leaves_first renderable.leaves_rest whole ?_
  intro resolved member
  obtain ⟨origin, held, rfl⟩ := List.mem_map.mp member
  have bound := (renderable.fits.1.within origin (TimelineWindow.mem_sorted.mp held)).2
  show origin.sourceFrame - sourceStart ≤ _
  omega

/-- The windows behind the first one can be rendered on their own. -/
theorem Renderable.behind (renderable : Renderable resources sourceStart (window :: rest)) :
    Renderable resources (sourceStart + window.primary.length) rest := by
  have inRange := renderable.inRange
  have inOrder := renderable.inOrder
  rw [List.flatMap_cons, List.length_append] at inRange
  rw [List.flatMap_cons, List.pairwise_append] at inOrder
  exact ⟨renderable.fits.2, fun resolved member =>
    renderable.leaves resolved (List.mem_append_right _ member), inOrder.2.1, renderable.parts.2,
    by omega⟩

end

/-- **What the pieces are.** Together with the tail behind them they end where the whole
timeline does, and each of their frames is the running sum, clamped after every window. -/
structure PiecesExact (carry : AudioBuffer ℚ) (sourceStart : Nat) (windows : List TimelineWindow)
    (pieces : List RenderedTimelineWindow) : Prop where
  length : (joinedAudio pieces).length = (timelineFrom sourceStart windows).primaryOutputFrames
  samples : ∀ frame, valueAt (joinedAudio pieces ++ (finalTail pieces).getD []) frame =
    runningClamp (valueAt carry frame) (sounds sourceStart windows frame)
  ends : (joinedAudio pieces ++ (finalTail pieces).getD []).length =
    max carry.length (timelineFrom sourceStart windows).completionFrame
  filled : finalTail pieces ≠ some []
  events : ∀ published, joinedEvents published pieces =
    (semanticEvents (timelineFrom sourceStart windows)).map (RenderedSemanticEvent.delay published)

theorem mixedAt_carry (carry primary : AudioBuffer ℚ) (timeline : ScheduledTimeline)
    (resources : List PreparedAudioResource) (frame : Nat) :
    mixedAt carry primary timeline resources frame =
      valueAt carry frame + mixedAt [] primary timeline resources frame := by
  simp only [mixedAt, valueAt_nil, add_zero]
  abel

theorem piecesExact_last {carry : AudioBuffer ℚ} {sourceStart : Nat} {window : TimelineWindow}
    {next : TimelineAudioRenderer} {rendered : RenderedTimelineWindow} {tail : AudioBuffer ℚ}
    (exact : RenderedExactly carry window.primary (window.timeline sourceStart) window.resources
      true next rendered tail) :
    PiecesExact carry sourceStart [window] [rendered] := by
  have timeline : timelineFrom sourceStart [window] = window.timeline sourceStart := by
    unfold timelineFrom TimelineWindow.timeline
    rw [List.flatMap_cons, List.flatMap_cons, List.flatMap_nil, List.flatMap_nil, List.append_nil,
      List.append_nil]
  have audio : joinedAudio [rendered] = rendered.audio := List.append_nil _
  have behind : (finalTail [rendered]).getD [] = tail := by
    show rendered.overlayTail.getD [] = tail
    rw [exact.overlayTail]
    by_cases nothing : tail = []
    · simp [nothing]
    · simp [nothing]
  refine ⟨?_, fun frame => ?_, ?_, ?_, fun published => ?_⟩
  · rw [audio, timeline, exact.length]
  · rw [audio, behind, exact.samples, mixedAt_carry]
    unfold sounds
    split <;> rfl
  · rw [audio, behind, List.length_append, exact.length, exact.ends, timeline]
  · show rendered.overlayTail ≠ some []
    rw [exact.overlayTail]
    by_cases nothing : tail = []
    · simp [nothing]
    · simp [nothing]
  · rw [timeline, ← exact.semantic]
    exact List.append_nil _

theorem piecesExact_cons {resources : List PreparedAudioResource} {carry : AudioBuffer ℚ}
    {sourceStart : Nat} {window : TimelineWindow} {rest : List TimelineWindow}
    {next : TimelineAudioRenderer} {rendered : RenderedTimelineWindow} {tail : AudioBuffer ℚ}
    {pieces : List RenderedTimelineWindow}
    (renderable : Renderable resources sourceStart (window :: rest))
    (exact : RenderedExactly carry window.primary (window.timeline sourceStart) window.resources
      false next rendered tail) (more : pieces ≠ [])
    (later : PiecesExact tail (sourceStart + window.primary.length) rest pieces) :
    PiecesExact carry sourceStart (window :: rest) (rendered :: pieces) := by
  have audio : joinedAudio (rendered :: pieces) = rendered.audio ++ joinedAudio pieces := rfl
  have behind : finalTail (rendered :: pieces) = finalTail pieces := by
    unfold finalTail
    rw [List.getLast?_cons_of_ne_nil more]
  have clock : (timelineFrom sourceStart (window :: rest)).primaryOutputFrames =
      (window.timeline sourceStart).primaryOutputFrames +
        (timelineFrom (sourceStart + window.primary.length) rest).primaryOutputFrames := by
    rw [timelineFrom_cons renderable.fits, joint_clock]
    rfl
  have completes : (timelineFrom sourceStart (window :: rest)).completionFrame =
      max (window.timeline sourceStart).completionFrame
        ((window.timeline sourceStart).primaryOutputFrames +
          (timelineFrom (sourceStart + window.primary.length) rest).completionFrame) := by
    rw [timelineFrom_cons renderable.fits,
      joint_completion renderable.leaves_first renderable.leaves_rest]
    rfl
  refine ⟨?_, fun frame => ?_, ?_, behind ▸ later.filled, fun published => ?_⟩
  · rw [audio, List.length_append, exact.length, later.length, clock]
  · rw [audio, behind, List.append_assoc, valueAt_append, exact.length]
    have carried := exact.samples frame
    rw [valueAt_append, exact.length, mixedAt_carry] at carried
    unfold sounds
    by_cases published : (window.timeline sourceStart).primaryOutputFrames ≤ frame
    · rw [if_neg (Nat.not_lt.mpr published)] at carried
      rw [if_neg (Nat.not_lt.mpr published), if_pos published, later.samples, carried]
      rfl
    · rw [if_pos (Nat.lt_of_not_ge published)] at carried
      rw [if_pos (Nat.lt_of_not_ge published), if_neg published, carried]
      rfl
  · have total := later.ends
    have here := exact.ends
    rw [audio, behind, List.append_assoc, List.length_append, exact.length, total, completes]
    omega
  · have frames := exact.length
    rw [joinedEvents, exact.semantic, frames, later.events, timelineFrom_cons renderable.fits,
      joint_semanticEvents renderable.leaves_first renderable.leaves_rest, List.map_append,
      List.map_map]
    refine congrArg _ (List.map_congr_left fun event _ => ?_)
    simp only [RenderedSemanticEvent.delay, Function.comp_apply, RenderedSemanticEvent.mk.injEq,
      true_and]
    show event.frameOffset + (published + (window.timeline sourceStart).primaryOutputFrames) =
      event.frameOffset + (window.timeline sourceStart).primaryOutputFrames + published
    omega

/-- **The windows are rendered**, one after another. -/
theorem renderPieces_ok {describe : TimelineError → String}
    {resources : List PreparedAudioResource} {windows : List TimelineWindow} {sourceStart : Nat}
    {renderer : TimelineAudioRenderer} (nonempty : windows ≠ [])
    (renderable : Renderable resources sourceStart windows)
    (small : Addressable renderer.overlayCarry) :
    ∃ pieces, renderPieces describe renderer sourceStart windows = .ok pieces ∧ pieces ≠ [] ∧
      PiecesExact renderer.overlayCarry sourceStart windows pieces := by
  induction windows generalizing sourceStart renderer with
  | nil => exact absurd rfl nonempty
  | cons window rest ih =>
      have inRange : sourceStart + window.primary.length ≤ u64Max := by
        have whole := renderable.inRange
        rw [List.flatMap_cons, List.length_append] at whole
        omega
      obtain ⟨next, rendered, tail, run, exact⟩ := @renderIncremental_ok describe renderer
        resources window sourceStart rest.isEmpty renderable.fits.1 renderable.parts.1 inRange small
      cases rest with
      | nil =>
          refine ⟨[rendered], ?_, List.cons_ne_nil _ _, piecesExact_last exact⟩
          rw [renderPieces, run]
          rfl
      | cons second others =>
          have carried : next.overlayCarry = tail := exact.carried
          have smallTail : Addressable next.overlayCarry := by
            rw [carried]
            exact addressable_tail renderable.parts.1.inBounds renderable.fits.1.supplies small
              exact.ends
          obtain ⟨pieces, runs, more, later⟩ := ih (List.cons_ne_nil _ _) renderable.behind smallTail
          rw [carried] at later
          refine ⟨rendered :: pieces, ?_, List.cons_ne_nil _ _,
            piecesExact_cons renderable exact more later⟩
          rw [renderPieces, run]
          simp only
          rw [runs]
          rfl

/-! ## The pieces and the whole -/

/-- A window's own resources sound like those of the whole timeline. -/
theorem mixedAt_shared {primary : AudioBuffer ℚ} {timeline : ScheduledTimeline}
    {own resources : List PreparedAudioResource} (supplies : Supplies own timeline)
    (distinct : (resources.map PreparedAudioResource.id).Nodup)
    (shared : ∀ resource ∈ own, resource ∈ resources) (frame : Nat) :
    mixedAt [] primary timeline own frame = mixedAt [] primary timeline resources frame := by
  have same : timeline.actions.map (soundAt own frame) =
      timeline.actions.map (soundAt resources frame) := by
    refine List.map_congr_left fun action member => ?_
    unfold soundAt
    cases kind : action.kind with
    | audio mode durationFrames volume effectBus =>
        obtain ⟨resource, inOwn, named, _⟩ := supplies.declared action member (kind ▸ trivial)
        have pcm : audioOf own action.id = audioOf resources action.id := by
          rw [audioOf, audioOf, ← named, resourceOf_eq supplies.distinct inOwn,
            resourceOf_eq distinct (shared resource inOwn)]
        simp only [pcm]
    | semanticEvent => rfl
    | effectState change => rfl
  rw [mixedAt, mixedAt, same]

/-- What the windows add, each on its own, is what sounds in the whole timeline. -/
theorem sum_sounds {resources : List PreparedAudioResource} {windows : List TimelineWindow}
    {sourceStart : Nat} (distinct : (resources.map PreparedAudioResource.id).Nodup)
    (renderable : Renderable resources sourceStart windows) (frame : Nat) :
    (sounds sourceStart windows frame).sum =
      mixedAt [] (windows.flatMap TimelineWindow.primary) (timelineFrom sourceStart windows)
        resources frame := by
  induction windows generalizing sourceStart frame with
  | nil =>
      simp only [mixedAt, valueAt_nil, add_zero]
      exact (zero_add _).symm
  | cons window rest ih =>
      have first : (window.sorted.map (earlierBy sourceStart)).Pairwise
          fun a b => a.sourceFrame ≤ b.sourceFrame := by
        have whole := renderable.inOrder
        rw [List.flatMap_cons, List.pairwise_append] at whole
        exact List.pairwise_map.mpr (whole.1.imp fun le => Nat.sub_le_sub_right le _)
      have second : ((rest.flatMap TimelineWindow.sorted).map
          (earlierBy (sourceStart + window.primary.length))).Pairwise
          fun a b => a.sourceFrame ≤ b.sourceFrame :=
        List.pairwise_map.mpr (renderable.behind.inOrder.imp fun le => Nat.sub_le_sub_right le _)
      have whole : Schedulable (window.primary ++ rest.flatMap TimelineWindow.primary).length
          (window.sorted.map (earlierBy sourceStart) ++
            ((rest.flatMap TimelineWindow.sorted).map
              (earlierBy (sourceStart + window.primary.length))).map
                (laterBy window.primary.length)) := by
        rw [← sorted_cons renderable.fits]
        exact renderable.schedulable
      rw [sounds, List.sum_cons, timelineFrom_cons renderable.fits, List.flatMap_cons,
        joint_mixedAt renderable.leaves_first renderable.leaves_rest whole renderable.parts.1
          renderable.parts.2 first second,
        mixedAt_shared renderable.fits.1.supplies distinct renderable.fits.1.shared]
      refine congrArg _ ?_
      by_cases begun : (window.timeline sourceStart).primaryOutputFrames ≤ frame
      · rw [if_pos begun, ih renderable.behind]
        exact (if_pos begun).symm
      · rw [if_neg begun]
        exact (if_neg begun).symm

/-- **Progressive rendering agrees with complete rendering** exactly where clamping the
running sum after every window is clamping the whole sum once. -/
theorem progressive_agrees_iff (describe : TimelineError → String)
    {windows : List TimelineWindow} {primary : AudioBuffer ℚ}
    {actions : List ResolvedTimelineAction} {resources : List PreparedAudioResource}
    {timeline : ScheduledTimeline}
    (built : ScheduledTimeline.build primary.length actions = .ok timeline)
    (leaves : ∀ resolved ∈ actions, LeavesEffects resolved) (limits : WithinLimits timeline)
    (supplies : Supplies resources timeline) (cut : IsCut windows primary actions resources) :
    ∃ pieces next complete,
      renderPieces describe .new 0 windows = .ok pieces ∧
      TimelineAudioRenderer.new.renderSharedWindow describe primary timeline resources true =
        (next, .ok complete) ∧
      (Agrees pieces complete ↔ ∀ frame,
        runningClamp 0 (sounds 0 windows frame) = clampFrame (sounds 0 windows frame).sum) := by
  obtain ⟨schedulable, rfl⟩ := ScheduledTimeline.build_eq_ok.mp built
  have stable := sortNumbered_stable ResolvedTimelineAction.sourceFrame actions
  have kept : (sortNumbered ResolvedTimelineAction.sourceFrame actions).map (earlierBy 0) =
      sortNumbered ResolvedTimelineAction.sourceFrame actions := List.map_id _
  have renderable : Renderable resources 0 windows := by
    have primaryBound := schedulable.primary
    refine ⟨cut.fits, ?_, ?_, ?_, ?_⟩
    · rw [cut.ordered]
      exact fun resolved member => leaves resolved (stable.perm.mem_iff.mp member)
    · rw [cut.ordered]
      exact stable.sorted
    · rw [cut.ordered, kept, cut.joined]
      exact schedulable
    · rw [cut.joined]
      omega
  have carries : TimelineAudioRenderer.new.overlayCarry = [] := rfl
  have silent : Addressable TimelineAudioRenderer.new.overlayCarry := by
    show 0 * channels * 4 ≤ wordMax 63
    decide
  obtain ⟨pieces, runs, -, exact⟩ := @renderPieces_ok describe _ _ _ _ cut.nonempty renderable
    silent
  obtain ⟨next, complete, tail, run, whole⟩ :=
    (render_window_exact describe .new primary resources true).1 actions _ built limits supplies
      silent
  refine ⟨pieces, next, complete, runs, run, ?_⟩
  have named : timelineFrom 0 windows = timelineOf primary.length
      (sortNumbered ResolvedTimelineAction.sourceFrame actions) := by
    rw [timelineFrom, cut.joined, cut.ordered, kept]
  have total : ∀ frame, (sounds 0 windows frame).sum = mixedAt [] primary (timelineOf primary.length
      (sortNumbered ResolvedTimelineAction.sourceFrame actions)) resources frame := by
    intro frame
    rw [sum_sounds supplies.distinct renderable, cut.joined, named]
  have audioLength : (joinedAudio pieces).length = complete.audio.length := by
    rw [exact.length, named, whole.length]
  have tailIs : complete.overlayTail = if tail ≠ [] then some tail else none := by
    have held := whole.overlayTail
    simpa using held
  have events : joinedEvents 0 pieces = complete.semanticEvents := by
    rw [exact.events 0, named, whole.semantic]
    exact List.map_id _
  have sameLength : (joinedAudio pieces ++ (finalTail pieces).getD []).length =
      (complete.audio ++ tail).length := by
    rw [exact.ends, named, List.length_append, whole.length, whole.ends]
  have joins : Agrees pieces complete ↔
      joinedAudio pieces ++ (finalTail pieces).getD [] = complete.audio ++ tail := by
    have filled := exact.filled
    constructor
    · intro agrees
      have behind := agrees.tail
      rw [tailIs] at behind
      rw [agrees.audio, behind]
      by_cases nothing : tail = []
      · simp [nothing]
      · simp [nothing]
    · intro same
      obtain ⟨audio, behind⟩ := List.append_inj same audioLength
      refine ⟨audio, ?_, events⟩
      rw [tailIs]
      cases held : finalTail pieces with
      | none =>
          rw [held] at behind
          have nothing : tail = [] := behind.symm
          rw [if_neg (not_not_intro nothing)]
      | some last =>
          rw [held] at behind filled
          have nonempty : tail ≠ [] := fun nothing => filled (by
            have last : last = tail := behind
            rw [last, nothing])
          have last : last = tail := behind
          rw [if_pos nonempty, last]
  rw [joins]
  constructor
  · intro same frame
    have value := exact.samples frame
    rw [same, whole.samples] at value
    rw [total frame]
    exact value.symm
  · intro clamps
    refine eq_of_valueAt sameLength fun frame => ?_
    rw [exact.samples, whole.samples, carries, ← total frame, ← clamps frame]
    rfl

/-! ## Two loud overlays across a cut -/

def firstOverlay : TimelineActionId := ⟨"a", rfl, by decide⟩

def secondOverlay : TimelineActionId := ⟨"b", rfl, by decide⟩

/-- An overlay of two frames at the beginning of the speech. -/
def longOverlay (id : TimelineActionId) : ResolvedTimelineAction :=
  ⟨⟨id, .audio .overlay 2 (.finite 1) .dry⟩, 0⟩

def overlayActions : List ResolvedTimelineAction :=
  [longOverlay firstOverlay, longOverlay secondOverlay]

def loudResources : List PreparedAudioResource :=
  [⟨firstOverlay, [(4/5, 4/5), (4/5, 4/5)]⟩, ⟨secondOverlay, [(4/5, 4/5), (4/5, 4/5)]⟩]

def overlaySpeech : AudioBuffer ℚ := [(0, 0), (-1/2, -1/2)]

/-- The speech cut between its two frames, with both overlays in the first window. -/
def overlayWindows : List TimelineWindow :=
  [⟨[(0, 0)], overlayActions, loudResources⟩, ⟨[(-1/2, -1/2)], [], []⟩]

theorem overlay_built :
    ScheduledTimeline.build overlaySpeech.length overlayActions =
      .ok (timelineOf 2 overlayActions) := by
  rfl

theorem overlay_leaves : ∀ resolved ∈ overlayActions, LeavesEffects resolved := by
  intro resolved member
  rcases List.mem_cons.mp member with rfl | member
  · exact Or.inl trivial
  · rw [List.mem_singleton.mp member]
    exact Or.inl trivial

/-- Both overlays have their buffers, in a window of any length. -/
theorem overlay_supplies (frames : Nat) :
    Supplies loudResources (timelineOf frames overlayActions) := by
  have small : ∀ resource ∈ loudResources, resource.audio.length = 2 := by
    intro resource member
    rcases List.mem_cons.mp member with rfl | member
    · rfl
    · rw [List.mem_singleton.mp member]
      rfl
  refine ⟨by decide, ?_, fun resource member => ?_⟩
  · intro action member _
    rcases List.mem_cons.mp member with rfl | member
    · exact ⟨_, List.mem_cons_self, rfl, rfl⟩
    · rw [List.mem_singleton.mp member]
      exact ⟨_, List.mem_cons_of_mem _ List.mem_cons_self, rfl, rfl⟩
  · rw [Addressable, small resource member]
    decide

theorem overlay_cut : IsCut overlayWindows overlaySpeech overlayActions loudResources := by
  refine ⟨List.cons_ne_nil _ _, rfl, rfl, ⟨?_, ⟨by decide, by decide⟩, overlay_supplies 1,
    fun _ member => member⟩, ⟨?_, ⟨by decide, by decide⟩, ?_, ?_⟩, trivial⟩
  · intro resolved member
    rcases List.mem_cons.mp member with rfl | member
    · exact ⟨le_rfl, Nat.zero_le _⟩
    · rw [List.mem_singleton.mp member]
      exact ⟨le_rfl, Nat.zero_le _⟩
  · exact fun _ member => (List.not_mem_nil member).elim
  · exact ⟨List.nodup_nil, fun _ member => (List.not_mem_nil member).elim,
      fun _ member => (List.not_mem_nil member).elim⟩
  · exact fun _ member => (List.not_mem_nil member).elim

/-- The two renderings are compared on this input. -/
theorem overlay_agrees_iff : ∃ pieces next complete,
    renderPieces (fun _ => "") .new 0 overlayWindows = .ok pieces ∧
    TimelineAudioRenderer.new.renderSharedWindow (fun _ => "") overlaySpeech
      (timelineOf 2 overlayActions) loudResources true = (next, .ok complete) ∧
    (Agrees pieces complete ↔ ∀ frame, runningClamp 0 (sounds 0 overlayWindows frame) =
      clampFrame (sounds 0 overlayWindows frame).sum) :=
  progressive_agrees_iff (fun _ => "") overlay_built overlay_leaves ⟨by decide, by decide⟩
    (overlay_supplies 2) overlay_cut

/-- The pieces sound softer than the whole: the overlays were clamped before the negative
sample was added. -/
theorem overlay_disagrees :
    IsCut overlayWindows overlaySpeech overlayActions loudResources ∧
      Supplies loudResources (timelineOf 2 overlayActions) ∧
      WithinLimits (timelineOf 2 overlayActions) ∧
      ∃ pieces next complete,
        renderPieces (fun _ => "") .new 0 overlayWindows = .ok pieces ∧
        TimelineAudioRenderer.new.renderSharedWindow (fun _ => "") overlaySpeech
          (timelineOf 2 overlayActions) loudResources true = (next, .ok complete) ∧
        ¬ Agrees pieces complete := by
  have progressive : (renderPieces (fun _ => "") .new 0 overlayWindows).toOption.map joinedAudio =
      some [(1, 1), (1/2, 1/2)] := by
    decide +kernel
  have once : (TimelineAudioRenderer.new.renderSharedWindow (fun _ => "") overlaySpeech
      (timelineOf 2 overlayActions) loudResources true).2.toOption.map
        RenderedTimelineWindow.audio = some [(1, 1), (1, 1)] := by
    decide +kernel
  obtain ⟨pieces, runs, softer⟩ := Option.map_eq_some_iff.mp progressive
  obtain ⟨complete, run, louder⟩ := Option.map_eq_some_iff.mp once
  refine ⟨overlay_cut, overlay_supplies 2, ⟨by decide, by decide⟩, pieces, _, complete,
    toOption_eq_some.mp runs, Prod.ext rfl (toOption_eq_some.mp run), fun agrees => ?_⟩
  have same := agrees.audio
  rw [softer, louder] at same
  exact absurd same (by decide +kernel)

end Omnivox.Audio
