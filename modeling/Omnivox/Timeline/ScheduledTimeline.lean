import Mathlib
import Omnivox.Foundations.Bounded
import Omnivox.Foundations.Fallible
import Omnivox.Foundations.StableSort

/-!
# Frame projection of a presentation timeline

The pure scheduler of the core library. It takes actions whose source positions
have resolved to frames of the primary speech, and projects them onto an output
clock. Inserted audio advances that clock, overlays do not.

Frame counters are `u64`, and every addition is checked. A source position that
has not been resolved yet plays no part here, so an action is its identifier and
its kind.
-/

set_option autoImplicit false

namespace Omnivox.Timeline

open Foundations

/-! ## Identifiers -/

/-- Maximum UTF-8 size of an opaque action or effect-state identifier. -/
def maxTimelineIdBytes : Nat := 128

/-- A bounded, stable identifier for one timeline action. -/
structure TimelineActionId where
  value : String
  nonempty : value.isEmpty = false
  short : value.utf8ByteSize ≤ maxTimelineIdBytes
  deriving Repr, DecidableEq

/-- A bounded identifier for a complete persistent post-synthesis state. -/
structure EffectStateId where
  value : String
  nonempty : value.isEmpty = false
  short : value.utf8ByteSize ≤ maxTimelineIdBytes
  deriving Repr, DecidableEq

inductive TimelineError where
  | emptyIdentifier (kind : String)
  | identifierTooLong (kind : String) (actual : Nat)
  | frameOverflow
  | sourceFrameOutOfBounds (action : TimelineActionId) (sourceFrame primarySourceFrames : Nat)
  | emptyAudioAction
  | invalidAudioVolume (volume : F32)
  | effectAlreadyActive
  | noEffectToReplace
  | noEffectToEnd
  deriving Repr, DecidableEq

/-- The checks of `validate_identifier`, with their evidence. -/
def validateIdentifier (value kind : String) : Except TimelineError
    (PLift (value.isEmpty = false ∧ value.utf8ByteSize ≤ maxTimelineIdBytes)) :=
  if empty : value.isEmpty = true then .error (.emptyIdentifier kind)
  else if long : value.utf8ByteSize > maxTimelineIdBytes then
    .error (.identifierTooLong kind value.utf8ByteSize)
  else .ok ⟨Bool.eq_false_iff.mpr empty, Nat.le_of_not_gt long⟩

def TimelineActionId.new (value : String) : Except TimelineError TimelineActionId := do
  let valid ← validateIdentifier value "action"
  return ⟨value, valid.down.1, valid.down.2⟩

def EffectStateId.new (value : String) : Except TimelineError EffectStateId := do
  let valid ← validateIdentifier value "effect state"
  return ⟨value, valid.down.1, valid.down.2⟩

/-! ## Actions -/

/-- Whether an audio action advances the primary speech clock. -/
inductive AudioActionMode where
  | insert
  | overlay
  deriving Repr, DecidableEq

/-- Which post-synthesis effect state an audio action uses. -/
inductive EffectBus where
  | dry
  | speech
  deriving Repr, DecidableEq

/-- A complete-state transition on the persistent post-synthesis effect bus. -/
inductive EffectStateChange where
  | begin (state : EffectStateId)
  | replace (state : EffectStateId)
  | «end»
  deriving Repr, DecidableEq

/-- One engine-neutral timeline operation. -/
inductive TimelineActionKind where
  | audio (mode : AudioActionMode) (durationFrames : Nat) (volume : F32) (effectBus : EffectBus)
  | semanticEvent
  | effectState (change : EffectStateChange)
  deriving Repr, DecidableEq

structure TimelineAction where
  id : TimelineActionId
  kind : TimelineActionKind
  deriving Repr, DecidableEq

/-- One action whose source position has resolved to a primary-frame boundary. -/
structure ResolvedTimelineAction where
  action : TimelineAction
  sourceFrame : Nat
  deriving Repr, DecidableEq

/-! ## The frame map -/

/-- One insertion represented in a piecewise source-to-output map. -/
structure FrameInsertion where
  sourceFrame : Nat
  outputFrame : Nat
  durationFrames : Nat
  deriving Repr, DecidableEq

/-- Piecewise source-to-output mapping produced by serial insertions. -/
structure FrameMap where
  insertions : List FrameInsertion
  deriving Repr, DecidableEq

/-- Sum of two frame counters. -/
def addFrames (first second : Nat) : Except TimelineError Nat :=
  orError .frameOverflow (checkedAdd u64Max first second)

def FrameMap.mapWith (frameMap : FrameMap) (sourceFrame : Nat) (inclusion : FrameInsertion → Bool) :
    Except TimelineError Nat :=
  (frameMap.insertions.filter inclusion).foldlM
    (fun frame insertion => addFrames frame insertion.durationFrames) sourceFrame

/-- Map immediately before insertions anchored at `sourceFrame`. -/
def FrameMap.mapBefore (frameMap : FrameMap) (sourceFrame : Nat) : Except TimelineError Nat :=
  frameMap.mapWith sourceFrame fun insertion => insertion.sourceFrame < sourceFrame

/-- Map after every insertion anchored at `sourceFrame`. -/
def FrameMap.mapAfter (frameMap : FrameMap) (sourceFrame : Nat) : Except TimelineError Nat :=
  frameMap.mapWith sourceFrame fun insertion => insertion.sourceFrame ≤ sourceFrame

/-! ## Scheduling -/

/-- One action placed on the output clock with effect-state snapshots. -/
structure ScheduledAction where
  id : TimelineActionId
  sourceFrame : Nat
  outputFrame : Nat
  kind : TimelineActionKind
  effectStateBefore : Option EffectStateId
  effectStateAfter : Option EffectStateId
  deriving Repr, DecidableEq

def ScheduledAction.endFrame (scheduled : ScheduledAction) : Except TimelineError Nat :=
  match scheduled.kind with
  | .audio _ durationFrames _ _ => addFrames scheduled.outputFrame durationFrames
  | _ => .ok scheduled.outputFrame

/-- Pure projection of resolved actions onto primary and audible output clocks. -/
structure ScheduledTimeline where
  frameMap : FrameMap
  actions : List ScheduledAction
  /-- End of speech plus serial insertions, excluding overlay tails. -/
  primaryOutputFrames : Nat
  /-- End of all primary audio and overlay tails. -/
  completionFrame : Nat
  deriving Repr, DecidableEq

def validateActionKind : TimelineActionKind → Except TimelineError Unit
  | .audio _ durationFrames volume _ => do
      ensure (durationFrames != 0) .emptyAudioAction
      ensure volume.inUnitRange (.invalidAudioVolume volume)
  | _ => .ok ()

/-- The effect state after an action. -/
def applyEffectChange (kind : TimelineActionKind) (current : Option EffectStateId) :
    Except TimelineError (Option EffectStateId) :=
  match kind with
  | .effectState (.begin state) =>
      if current.isNone then .ok (some state) else .error .effectAlreadyActive
  | .effectState (.replace state) =>
      if current.isSome then .ok (some state) else .error .noEffectToReplace
  | .effectState .end => if current.isSome then .ok none else .error .noEffectToEnd
  | _ => .ok current

/-- The variables of the scheduling loop. -/
structure Schedule where
  insertions : List FrameInsertion
  scheduled : List ScheduledAction
  shift : Nat
  effectState : Option EffectStateId
  completionFrame : Nat
  deriving Repr, DecidableEq

/-- Push a scheduled action, and its insertion when it makes one. -/
def Schedule.push (schedule : Schedule) (scheduledAction : ScheduledAction)
    (completionFrame : Nat) : Except TimelineError Schedule :=
  match scheduledAction.kind with
  | .audio .insert durationFrames _ _ => do
      let shift ← addFrames schedule.shift durationFrames
      return {
        insertions := schedule.insertions ++
          [⟨scheduledAction.sourceFrame, scheduledAction.outputFrame, durationFrames⟩]
        scheduled := schedule.scheduled ++ [scheduledAction]
        shift := shift
        effectState := scheduledAction.effectStateAfter
        completionFrame := completionFrame }
  | _ =>
      .ok {
        insertions := schedule.insertions
        scheduled := schedule.scheduled ++ [scheduledAction]
        shift := schedule.shift
        effectState := scheduledAction.effectStateAfter
        completionFrame := completionFrame }

/-- One turn of the scheduling loop. -/
def scheduleAction (primarySourceFrames : Nat) (schedule : Schedule)
    (resolved : ResolvedTimelineAction) : Except TimelineError Schedule := do
  ensure (resolved.sourceFrame ≤ primarySourceFrames)
    (.sourceFrameOutOfBounds resolved.action.id resolved.sourceFrame primarySourceFrames)
  validateActionKind resolved.action.kind
  let outputFrame ← addFrames resolved.sourceFrame schedule.shift
  let before := schedule.effectState
  let after ← applyEffectChange resolved.action.kind schedule.effectState
  let scheduledAction : ScheduledAction :=
    { id := resolved.action.id
      sourceFrame := resolved.sourceFrame
      outputFrame := outputFrame
      kind := resolved.action.kind
      effectStateBefore := before
      effectStateAfter := after }
  let endFrame ← scheduledAction.endFrame
  schedule.push scheduledAction (max schedule.completionFrame endFrame)

/-- Schedule resolved actions. Equal source frames preserve input order. -/
def ScheduledTimeline.build (primarySourceFrames : Nat) (actions : List ResolvedTimelineAction) :
    Except TimelineError ScheduledTimeline := do
  let indexed := sortNumbered ResolvedTimelineAction.sourceFrame actions
  let schedule ← indexed.foldlM (scheduleAction primarySourceFrames)
    ⟨[], [], 0, none, primarySourceFrames⟩
  let primaryOutputFrames ← addFrames primarySourceFrames schedule.shift
  return {
    frameMap := ⟨schedule.insertions⟩
    actions := schedule.scheduled
    primaryOutputFrames := primaryOutputFrames
    completionFrame := max schedule.completionFrame primaryOutputFrames }

end Omnivox.Timeline
