import Mathlib
import Omnivox.Audio.AudioBuffer
import Omnivox.Foundations.Transducers

/-!
# Post-synthesis processing

Filters, pan, chorus, echo and reverb with state that persists between render
windows. In each window the parameters ramp from those of the last window to the
target, over five milliseconds or over the window when it is shorter.

Samples are the numbers of an ordered field with floors; the exponential and the
sine are parameters.

A buffer that is passed window by window gives what one pass over its frames
gives, with the ramp of its first window (`processWindows_eq`). So two cuts give
the same audio, state and tail when their first windows ramp alike, or when the
parameters are at the target already (`process_windows_cut_invariant`). The cut
matters otherwise: a first window shorter than five milliseconds makes a shorter
ramp (`rampsAlike_iff`, `short_first_window_shortens_ramp`).
-/

set_option autoImplicit false

namespace Omnivox.Audio

open Foundations

def effectBoundaryRampFrames : Nat := sampleRate / 200

def maxEffectTailFrames : Nat := sampleRate * 4

def quietTailFrames : Nat := sampleRate / 50

def chorusBufferFrames : Nat := sampleRate * 14 / 1000

def echoDelayFrames : Nat := sampleRate * 180 / 1000

def reverbDelays : Fin 4 → Nat := ![1309, 1637, 1811, 1931]

/-- The functions of the floating-point library, and π. -/
structure Transcendentals (K : Type*) where
  exp : K → K
  sin : K → K
  pi : K

variable {K : Type*}

/-- Concrete parameters. -/
structure PostSynthesisParameters (K : Type*) where
  gain : K
  lowPassHz : Option K
  highPassHz : Option K
  pan : K
  chorus : K
  reverb : K
  echo : K
  deriving Repr, DecidableEq

structure EffectiveParameters (K : Type*) where
  gain : K
  lowPassHz : K
  lowPassMix : K
  highPassHz : K
  highPassMix : K
  pan : K
  chorus : K
  reverb : K
  echo : K
  deriving Repr, DecidableEq

/-- The delay lines are rings; a position is a place in its ring. -/
structure PostSynthesisProcessor (K : Type*) where
  current : EffectiveParameters K
  lowState : Frame K
  highInput : Frame K
  highOutput : Frame K
  chorus : Fin chorusBufferFrames → Frame K
  chorusPosition : Fin chorusBufferFrames
  chorusPhase : K
  chorusActive : Bool
  echo : Fin echoDelayFrames → Frame K
  echoPosition : Fin echoDelayFrames
  reverb : (line : Fin 4) → Fin (reverbDelays line) → Frame K
  reverbPositions : (line : Fin 4) → Fin (reverbDelays line)
  tailActive : Bool

structure ProcessedEffectWindow (K : Type*) where
  audio : AudioBuffer K
  tail : Option (AudioBuffer K)
  deriving Repr, DecidableEq

/-- The next position of a ring. -/
def advance {size : Nat} (position : Fin size) : Fin size :=
  ⟨(position.val + 1) % size, Nat.mod_lt _ position.pos⟩

section Processing

variable [Field K] [LinearOrder K] [FloorRing K]

def quietThreshold : K := 1 / 10000

/-- `f32::EPSILON`. -/
def epsilon : K := 1 / 2 ^ 23

def chorusBaseDelayFrames : K := sampleRate * 7 / 1000

def chorusMaxDepthFrames : K := sampleRate * 5 / 1000

def chorusLfoHz : K := 8 / 10

def chorusMaxWetMix : K := 45 / 100

/-- `clamp`. -/
def clampTo (low high value : K) : K :=
  if value < low then low else if high < value then high else value

/-! ## Parameters -/

namespace PostSynthesisParameters

def default : PostSynthesisParameters K where
  gain := 1
  lowPassHz := none
  highPassHz := none
  pan := 0
  chorus := 0
  reverb := 0
  echo := 0

/-- Every number is finite here, so no value is replaced by its fallback. -/
def sanitized (parameters : PostSynthesisParameters K) : PostSynthesisParameters K where
  gain := clampTo 0 4 parameters.gain
  lowPassHz := parameters.lowPassHz.map (clampTo 80 20000)
  highPassHz := parameters.highPassHz.map (clampTo 20 8000)
  pan := clampTo (-1) 1 parameters.pan
  chorus := clampTo 0 1 parameters.chorus
  reverb := clampTo 0 1 parameters.reverb
  echo := clampTo 0 1 parameters.echo

end PostSynthesisParameters

namespace EffectiveParameters

/-- `From<PostSynthesisParameters>`. -/
def ofParameters (value : PostSynthesisParameters K) : EffectiveParameters K :=
  let value := value.sanitized
  { gain := value.gain
    lowPassHz := value.lowPassHz.getD 20000
    lowPassMix := if value.lowPassHz.isSome then 1 else 0
    highPassHz := value.highPassHz.getD 20
    highPassMix := if value.highPassHz.isSome then 1 else 0
    pan := value.pan
    chorus := value.chorus
    reverb := value.reverb
    echo := value.echo }

def blend (amount start target : K) : K := start + (target - start) * amount

def interpolate (parameters target : EffectiveParameters K) (amount : K) :
    EffectiveParameters K where
  gain := blend amount parameters.gain target.gain
  lowPassHz := blend amount parameters.lowPassHz target.lowPassHz
  lowPassMix := blend amount parameters.lowPassMix target.lowPassMix
  highPassHz := blend amount parameters.highPassHz target.highPassHz
  highPassMix := blend amount parameters.highPassMix target.highPassMix
  pan := blend amount parameters.pan target.pan
  chorus := blend amount parameters.chorus target.chorus
  reverb := blend amount parameters.reverb target.reverb
  echo := blend amount parameters.echo target.echo

omit [LinearOrder K] [FloorRing K] in
theorem blend_one (start target : K) : blend 1 start target = target := by
  unfold blend
  ring

omit [LinearOrder K] [FloorRing K] in
theorem blend_self (amount value : K) : blend amount value value = value := by
  unfold blend
  ring

omit [LinearOrder K] [FloorRing K] in
/-- At the end of the ramp the parameters are the target's. -/
theorem interpolate_one (parameters target : EffectiveParameters K) :
    parameters.interpolate target 1 = target := by
  simp only [interpolate, blend_one]

omit [LinearOrder K] [FloorRing K] in
/-- Nothing ramps between equal parameters. -/
theorem interpolate_self (parameters : EffectiveParameters K) (amount : K) :
    parameters.interpolate parameters amount = parameters := by
  simp only [interpolate, blend_self]

omit [LinearOrder K] [FloorRing K] in
/-- Only at the end of a ramp are the parameters those of a different target. -/
theorem eq_of_blend_eq {amount start target : K} (short : amount ≠ 1)
    (reached : blend amount start target = target) : start = target := by
  have product : (target - start) * (amount - 1) = 0 := by
    unfold blend at reached
    linear_combination reached
  rcases mul_eq_zero.mp product with none | full
  · exact (sub_eq_zero.mp none).symm
  · exact absurd (sub_eq_zero.mp full) short

omit [LinearOrder K] [FloorRing K] in
theorem eq_of_interpolate_eq {parameters target : EffectiveParameters K} {amount : K}
    (short : amount ≠ 1) (reached : parameters.interpolate target amount = target) :
    parameters = target := by
  obtain ⟨gain, lowPassHz, lowPassMix, highPassHz, highPassMix, pan, chorus, reverb, echo⟩ :=
    parameters
  obtain ⟨gain', lowPassHz', lowPassMix', highPassHz', highPassMix', pan', chorus', reverb',
    echo'⟩ := target
  simp only [interpolate, mk.injEq] at reached ⊢
  obtain ⟨h1, h2, h3, h4, h5, h6, h7, h8, h9⟩ := reached
  exact ⟨eq_of_blend_eq short h1, eq_of_blend_eq short h2, eq_of_blend_eq short h3,
    eq_of_blend_eq short h4, eq_of_blend_eq short h5, eq_of_blend_eq short h6,
    eq_of_blend_eq short h7, eq_of_blend_eq short h8, eq_of_blend_eq short h9⟩

end EffectiveParameters

/-! ## One frame -/

namespace PostSynthesisProcessor

variable (functions : Transcendentals K)

def new : PostSynthesisProcessor K where
  current := .ofParameters .default
  lowState := (0, 0)
  highInput := (0, 0)
  highOutput := (0, 0)
  chorus := fun _ => (0, 0)
  chorusPosition := ⟨0, by decide⟩
  chorusPhase := 0
  chorusActive := false
  echo := fun _ => (0, 0)
  echoPosition := ⟨0, by decide⟩
  reverb := fun _ _ => (0, 0)
  reverbPositions := fun line => ⟨0, by revert line; decide⟩
  tailActive := false

def hasTail (processor : PostSynthesisProcessor K) : Bool := processor.tailActive

/-- The filters of one channel. -/
structure ChannelFilters (K : Type*) where
  sample : K
  lowState : K
  highInput : K
  highOutput : K

/-- Gain, low pass and high pass of one channel. -/
def filterChannel (parameters : EffectiveParameters K) (channel : ChannelFilters K) :
    ChannelFilters K :=
  let sample := channel.sample * parameters.gain
  let lowAlpha := 1 - functions.exp (-2 * functions.pi * parameters.lowPassHz / sampleRate)
  let lowState := channel.lowState + lowAlpha * (sample - channel.lowState)
  let sample := sample * (1 - parameters.lowPassMix) + lowState * parameters.lowPassMix
  let dt := 1 / (sampleRate : K)
  let rc := 1 / (2 * functions.pi * parameters.highPassHz)
  let highAlpha := rc / (rc + dt)
  let high := highAlpha * (channel.highOutput + sample - channel.highInput)
  { sample := sample * (1 - parameters.highPassMix) + high * parameters.highPassMix
    lowState := lowState
    highInput := sample
    highOutput := high }

/-- Both channels of a frame through their filters. -/
def filterFrame (processor : PostSynthesisProcessor K) (frame : Frame K)
    (parameters : EffectiveParameters K) : PostSynthesisProcessor K × Frame K :=
  let left := filterChannel functions parameters
    ⟨frame.1, processor.lowState.1, processor.highInput.1, processor.highOutput.1⟩
  let right := filterChannel functions parameters
    ⟨frame.2, processor.lowState.2, processor.highInput.2, processor.highOutput.2⟩
  ({ processor with
      lowState := (left.lowState, right.lowState)
      highInput := (left.highInput, right.highInput)
      highOutput := (left.highOutput, right.highOutput) },
    (left.sample, right.sample))

/-- A negative pan turns the right channel down, a positive one the left. -/
def panFrame (frame : Frame K) (pan : K) : Frame K :=
  if pan < 0 then (frame.1, frame.2 * (1 + pan)) else (frame.1 * (1 - pan), frame.2)

/-- The two entries of the ring next to a delay, and its fraction between them. -/
def chorusDelayedFrame (buffer : Fin chorusBufferFrames → Frame K)
    (writePosition : Fin chorusBufferFrames) (delayFrames : K) : Frame K × Frame K × K :=
  let wholeFrames := ⌊delayFrames⌋.toNat
  let fraction := delayFrames - wholeFrames
  let newer : Fin chorusBufferFrames :=
    ⟨(writePosition.val + chorusBufferFrames - wholeFrames) % chorusBufferFrames,
      Nat.mod_lt _ writePosition.pos⟩
  let older : Fin chorusBufferFrames :=
    ⟨(newer.val + chorusBufferFrames - 1) % chorusBufferFrames, Nat.mod_lt _ writePosition.pos⟩
  (buffer newer, buffer older, fraction)

/-- `chorus_delayed_sample` of the channel that is read. -/
def chorusDelayedSample (buffer : Fin chorusBufferFrames → Frame K)
    (writePosition : Fin chorusBufferFrames) (channel : Frame K → K) (delayFrames : K) : K :=
  let read := chorusDelayedFrame buffer writePosition delayFrames
  channel read.1 * (1 - read.2.2) + channel read.2.1 * read.2.2

/-- The remainder of a division that truncates. -/
def remainder (value modulus : K) : K :=
  let quotient := value / modulus
  value - modulus * (if 0 ≤ quotient then ⌊quotient⌋ else ⌈quotient⌉)

def processChorus (processor : PostSynthesisProcessor K) (frame : Frame K) (amount : K) :
    PostSynthesisProcessor K × Frame K :=
  if amount ≤ epsilon then
    ({ processor with
        chorus := Function.update processor.chorus processor.chorusPosition (0, 0)
        chorusPosition := advance processor.chorusPosition
        chorusPhase := 0
        chorusActive := false },
      frame)
  else
    let processor :=
      if processor.chorusActive then processor
      else
        { processor with
          chorus := fun _ => (0, 0)
          chorusPosition := ⟨0, by decide⟩
          chorusPhase := 0
          chorusActive := true }
    let depth := chorusMaxDepthFrames * amount
    let leftDelay := chorusBaseDelayFrames + depth * functions.sin processor.chorusPhase
    let rightDelay :=
      chorusBaseDelayFrames + depth * functions.sin (processor.chorusPhase + functions.pi)
    let delayed : Frame K :=
      (chorusDelayedSample processor.chorus processor.chorusPosition Prod.fst leftDelay,
        chorusDelayedSample processor.chorus processor.chorusPosition Prod.snd rightDelay)
    let wet := amount * chorusMaxWetMix
    let dry := 1 - wet * (1 / 2)
    ({ processor with
        chorus := Function.update processor.chorus processor.chorusPosition frame
        chorusPosition := advance processor.chorusPosition
        chorusPhase :=
          remainder (processor.chorusPhase + 2 * functions.pi * chorusLfoHz / sampleRate)
            (2 * functions.pi) },
      (clampTo (-1) 1 (frame.1 * dry + delayed.1 * wet),
        clampTo (-1) 1 (frame.2 * dry + delayed.2 * wet)))

/-- What is kept in a delay line: the frame and some of what comes out of the line. -/
def fed (level feedback : K) (frame delayed : Frame K) : Frame K :=
  if 0 < level then (frame.1 + delayed.1 * feedback, frame.2 + delayed.2 * feedback) else (0, 0)

def processEcho (processor : PostSynthesisProcessor K) (frame : Frame K) (level : K) :
    PostSynthesisProcessor K × Frame K :=
  let delayed := processor.echo processor.echoPosition
  let echoFeedback := level * (72 / 100)
  let echoMix := level * (7 / 10)
  ({ processor with
      echo := Function.update processor.echo processor.echoPosition
        (fed level echoFeedback frame delayed)
      echoPosition := advance processor.echoPosition },
    (frame.1 + delayed.1 * echoMix, frame.2 + delayed.2 * echoMix))

/-- What comes out of each reverb line. -/
def reverbDelayed (processor : PostSynthesisProcessor K) (line : Fin 4) : Frame K :=
  processor.reverb line (processor.reverbPositions line)

def processReverb (processor : PostSynthesisProcessor K) (frame : Frame K) (level : K) :
    PostSynthesisProcessor K × Frame K :=
  let reverberated := (List.finRange 4).foldl
    (fun (sum : Frame K) line =>
      (sum.1 + (processor.reverbDelayed line).1, sum.2 + (processor.reverbDelayed line).2)) (0, 0)
  let feedback (line : Fin 4) : K := level * (68 / 100 + line.val * (35 / 1000))
  ({ processor with
      reverb := fun line => Function.update (processor.reverb line)
        (processor.reverbPositions line)
        (fed level (feedback line) frame (processor.reverbDelayed line))
      reverbPositions := fun line => advance (processor.reverbPositions line) },
    (frame.1 + reverberated.1 * level * (15 / 100),
      frame.2 + reverberated.2 * level * (15 / 100)))

def processFrame (processor : PostSynthesisProcessor K) (frame : Frame K)
    (parameters : EffectiveParameters K) : PostSynthesisProcessor K × Frame K :=
  let sourceAudible := quietThreshold < |frame.1| ∨ quietThreshold < |frame.2|
  let processor :=
    if sourceAudible ∧ (0 < parameters.echo ∨ 0 < parameters.reverb) then
      { processor with tailActive := true }
    else processor
  let filtered := filterFrame functions processor frame parameters
  let panned := panFrame filtered.2 parameters.pan
  let chorused := processChorus functions filtered.1 panned parameters.chorus
  let echoed := processEcho chorused.1 chorused.2 parameters.echo
  let reverberated := processReverb echoed.1 echoed.2 parameters.reverb
  (reverberated.1, (clampTo (-1) 1 reverberated.2.1, clampTo (-1) 1 reverberated.2.2))

/-! ## The tail -/

/-- A frame with no sample above the threshold. -/
def isQuiet (frame : Frame K) : Bool := |frame.1| ≤ quietThreshold && |frame.2| ≤ quietThreshold

/-- The loop over the frames of the tail that are left, from the index of the next one
and the number of quiet frames before it. -/
def flushFrames (parameters : EffectiveParameters K) (minimumFrames : Nat) :
    (left frameIndex quietFrames : Nat) → PostSynthesisProcessor K →
      PostSynthesisProcessor K × AudioBuffer K
  | 0, _, _, processor => (processor, [])
  | left + 1, frameIndex, quietFrames, processor =>
    let processed := processFrame functions processor (0, 0) parameters
    let quietFrames := if isQuiet processed.2 then quietFrames + 1 else 0
    if minimumFrames ≤ frameIndex ∧ quietTailFrames ≤ quietFrames then
      (processed.1, [processed.2])
    else
      let rest := flushFrames parameters minimumFrames left (frameIndex + 1) quietFrames
        processed.1
      (rest.1, processed.2 :: rest.2)

/-- The tail up to its last audible frame. -/
def flushTail (processor : PostSynthesisProcessor K) (parameters : EffectiveParameters K) :
    PostSynthesisProcessor K × AudioBuffer K :=
  let minimumFrames := max echoDelayFrames ((List.ofFn reverbDelays).foldl max 0)
  let flushed := flushFrames functions parameters minimumFrames maxEffectTailFrames 0 0 processor
  ({ flushed.1 with tailActive := false }, flushed.2.rdropWhile isQuiet)

/-- `then` on a tail that is not empty. -/
def nonemptyTail (tail : AudioBuffer K) : Option (AudioBuffer K) :=
  if tail = [] then none else some tail

/-! ## Windows -/

/-- How far the parameters of a frame are from those before the window to the target. -/
def rampAmount (rampFrames frameIndex : Nat) : K :=
  if frameIndex < rampFrames ∧ 0 < rampFrames then ((frameIndex + 1 : Nat) : K) / rampFrames else 1

def rampFrames (window : AudioBuffer K) : Nat := min window.length effectBoundaryRampFrames

/-- Each frame with its index. -/
def processFrames (current target : EffectiveParameters K) (ramp : Nat)
    (processor : PostSynthesisProcessor K) (frames : List (Frame K × Nat)) :
    PostSynthesisProcessor K × AudioBuffer K :=
  transduce
    (fun processor frame => processFrame functions processor frame.1
      (current.interpolate target (rampAmount ramp frame.2)))
    processor frames

/-- The end of a window whose frames are passed: the target is current, and a final
window flushes the tail. -/
def endWindow (target : EffectiveParameters K) (finalWindow : Bool)
    (passed : PostSynthesisProcessor K × AudioBuffer K) :
    PostSynthesisProcessor K × ProcessedEffectWindow K :=
  let processor := { passed.1 with current := target }
  if finalWindow && processor.tailActive then
    let flushed := flushTail functions processor target
    (flushed.1, ⟨passed.2, nonemptyTail flushed.2⟩)
  else (processor, ⟨passed.2, none⟩)

def processWindow (processor : PostSynthesisProcessor K) (input : AudioBuffer K)
    (target : PostSynthesisParameters K) (finalWindow : Bool) :
    PostSynthesisProcessor K × ProcessedEffectWindow K :=
  let target := EffectiveParameters.ofParameters target
  endWindow functions target finalWindow
    (processFrames functions processor.current target (rampFrames input) processor input.zipIdx)

def finish (processor : PostSynthesisProcessor K) :
    PostSynthesisProcessor K × Option (AudioBuffer K) :=
  if !processor.tailActive then (processor, none)
  else
    let flushed := flushTail functions processor processor.current
    (flushed.1, nonemptyTail flushed.2)

/-- A buffer that was cut into windows, passed one after another. Only the last window is
final. -/
def processWindows (target : PostSynthesisParameters K) (finalWindow : Bool) :
    PostSynthesisProcessor K → List (AudioBuffer K) →
      PostSynthesisProcessor K × ProcessedEffectWindow K
  | processor, [] => (processor, ⟨[], none⟩)
  | processor, [window] => processWindow functions processor window target finalWindow
  | processor, window :: next :: rest =>
    let processed := processWindow functions processor window target false
    let later := processWindows target finalWindow processed.1 (next :: rest)
    (later.1, ⟨processed.2.audio ++ later.2.audio, later.2.tail⟩)

/-! ## What a window does -/

section Windows

variable {functions : Transcendentals K} {processor : PostSynthesisProcessor K}

/-- The processor with other parameters between windows. -/
def withCurrent (processor : PostSynthesisProcessor K) (current : EffectiveParameters K) :
    PostSynthesisProcessor K :=
  { processor with current := current }

theorem processChorus_withCurrent (frame : Frame K) (amount : K)
    (current : EffectiveParameters K) :
    processChorus functions (processor.withCurrent current) frame amount =
      ((processChorus functions processor frame amount).1.withCurrent current,
        (processChorus functions processor frame amount).2) := by
  unfold processChorus withCurrent
  by_cases off : amount ≤ epsilon
  · simp only [if_pos off]
  · cases active : processor.chorusActive <;>
      simp only [if_neg off, active, Bool.false_eq_true, if_true, if_false]

/-- **The parameters between windows are read by no frame.** -/
theorem processFrame_withCurrent (frame : Frame K) (parameters current : EffectiveParameters K) :
    processFrame functions (processor.withCurrent current) frame parameters =
      ((processFrame functions processor frame parameters).1.withCurrent current,
        (processFrame functions processor frame parameters).2) := by
  have filtered : ∀ processor : PostSynthesisProcessor K,
      filterFrame functions (processor.withCurrent current) frame parameters =
        ((filterFrame functions processor frame parameters).1.withCurrent current,
          (filterFrame functions processor frame parameters).2) := fun _ => rfl
  have echoed : ∀ (processor : PostSynthesisProcessor K) frame level,
      processEcho (processor.withCurrent current) frame level =
        ((processEcho processor frame level).1.withCurrent current,
          (processEcho processor frame level).2) := fun _ _ _ => rfl
  have reverberated : ∀ (processor : PostSynthesisProcessor K) frame level,
      processReverb (processor.withCurrent current) frame level =
        ((processReverb processor frame level).1.withCurrent current,
          (processReverb processor frame level).2) := fun _ _ _ => rfl
  have marked : { processor.withCurrent current with tailActive := true } =
      PostSynthesisProcessor.withCurrent { processor with tailActive := true } current := rfl
  unfold processFrame
  dsimp only
  rw [marked, ← apply_ite (fun processor => withCurrent processor current)]
  simp only [filtered, processChorus_withCurrent, echoed, reverberated]

/-- A pass whose parameters are the target's at every frame. -/
def steadyFrames (functions : Transcendentals K) (target : EffectiveParameters K)
    (processor : PostSynthesisProcessor K) (frames : AudioBuffer K) :
    PostSynthesisProcessor K × AudioBuffer K :=
  transduce (fun processor frame => processFrame functions processor frame target) processor frames

theorem steadyFrames_withCurrent (target current : EffectiveParameters K)
    (frames : AudioBuffer K) :
    steadyFrames functions target (processor.withCurrent current) frames =
      ((steadyFrames functions target processor frames).1.withCurrent current,
        (steadyFrames functions target processor frames).2) := by
  have passed := transduce_map
    (fun processor frame => processFrame functions processor frame target)
    (fun processor frame => processFrame functions processor frame target)
    (fun processor => processor.withCurrent current) id
    (fun _ frame => processFrame_withCurrent frame target current) processor frames
  rw [List.map_id] at passed
  exact passed

/-- Frames that no ramp reaches. -/
theorem processFrames_steady {current target : EffectiveParameters K} {ramp : Nat}
    {frames : List (Frame K × Nat)}
    (reached : ∀ frame ∈ frames, current.interpolate target (rampAmount ramp frame.2) = target) :
    processFrames functions current target ramp processor frames =
      steadyFrames functions target processor (frames.map Prod.fst) := by
  induction frames generalizing processor with
  | nil => rfl
  | cons frame rest ih =>
      have first := reached frame List.mem_cons_self
      have later := fun other member => reached other (List.mem_cons_of_mem frame member)
      unfold processFrames steadyFrames at ih ⊢
      rw [List.map_cons, transduce_cons, transduce_cons, first, ih later]

omit [LinearOrder K] [FloorRing K] in
/-- After the ramp the amount is one. -/
theorem rampAmount_of_le {ramp index : Nat} (after : ramp ≤ index) :
    rampAmount ramp index = (1 : K) := by
  rw [rampAmount, if_neg]
  omega

/-- A window that starts at the target does not ramp. -/
theorem processFrames_arrived (target : EffectiveParameters K) (ramp : Nat)
    (window : AudioBuffer K) :
    processFrames functions target target ramp processor window.zipIdx =
      steadyFrames functions target processor window := by
  have fixed : ∀ frame ∈ window.zipIdx,
      target.interpolate target (rampAmount ramp frame.2) = target :=
    fun frame _ => target.interpolate_self _
  rw [processFrames_steady fixed, List.zipIdx_map_fst]

/-- Frames after those of the first window are past its ramp. -/
theorem processFrames_append {current target : EffectiveParameters K} {ramp : Nat}
    (window rest : AudioBuffer K) (within : ramp ≤ window.length) :
    processFrames functions current target ramp processor (window ++ rest).zipIdx =
      ((steadyFrames functions target
          (processFrames functions current target ramp processor window.zipIdx).1 rest).1,
        (processFrames functions current target ramp processor window.zipIdx).2 ++
          (steadyFrames functions target
            (processFrames functions current target ramp processor window.zipIdx).1 rest).2) := by
  have past : ∀ frame ∈ rest.zipIdx (0 + window.length),
      current.interpolate target (rampAmount ramp frame.2) = target := by
    intro frame member
    have index := List.le_snd_of_mem_zipIdx member
    rw [rampAmount_of_le (by omega), EffectiveParameters.interpolate_one]
  have later : ∀ processor, processFrames functions current target ramp processor _ = _ :=
    fun _ => processFrames_steady past
  rw [List.zipIdx_map_fst] at later
  rw [List.zipIdx_append, processFrames, transduce_append]
  change ((processFrames functions current target ramp _ _).1, _ ++
    (processFrames functions current target ramp _ _).2) = _
  rw [later]
  rfl

/-- The end of a window does not look at the parameters before it. -/
theorem endWindow_withCurrent (target current : EffectiveParameters K) (finalWindow : Bool)
    (passed : PostSynthesisProcessor K × AudioBuffer K) :
    endWindow functions target finalWindow (passed.1.withCurrent current, passed.2) =
      endWindow functions target finalWindow passed := rfl

/-- A window that is not final has no tail. -/
theorem endWindow_open (target : EffectiveParameters K)
    (passed : PostSynthesisProcessor K × AudioBuffer K) :
    endWindow functions target false passed =
      (passed.1.withCurrent target, ⟨passed.2, none⟩) := rfl

/-- The end of a window adds nothing to its audio. -/
theorem endWindow_audio (target : EffectiveParameters K) (finalWindow : Bool)
    (passed : PostSynthesisProcessor K × AudioBuffer K) :
    (endWindow functions target finalWindow passed).2.audio = passed.2 := by
  unfold endWindow
  cases closing : finalWindow && passed.1.tailActive <;>
    simp only [closing, Bool.false_eq_true, if_true, if_false]

/-- What is heard before the end of a window stays in front. -/
theorem endWindow_append (target : EffectiveParameters K) (finalWindow : Bool)
    (audio : AudioBuffer K) (passed : PostSynthesisProcessor K × AudioBuffer K) :
    endWindow functions target finalWindow (passed.1, audio ++ passed.2) =
      ((endWindow functions target finalWindow passed).1,
        ⟨audio ++ (endWindow functions target finalWindow passed).2.audio,
          (endWindow functions target finalWindow passed).2.tail⟩) := by
  unfold endWindow
  cases closing : finalWindow && passed.1.tailActive <;>
    simp only [closing, Bool.false_eq_true, if_true, if_false]

/-- **One pass.** Windows give what one pass over all frames gives, with the ramp of the
first window. The induction is on the windows after the first: from the second one on
the parameters are at the target. -/
theorem processWindows_eq (target : PostSynthesisParameters K) (finalWindow : Bool)
    (window : AudioBuffer K) (rest : List (AudioBuffer K)) :
    processWindows functions target finalWindow processor (window :: rest) =
      endWindow functions (.ofParameters target) finalWindow
        (processFrames functions processor.current (.ofParameters target) (rampFrames window)
          processor (window ++ rest.flatten).zipIdx) := by
  induction rest generalizing processor window with
  | nil => rw [processWindows, processWindow, List.flatten_nil, List.append_nil]
  | cons next rest ih =>
      generalize arrivedEq : EffectiveParameters.ofParameters target = arrived at ih ⊢
      generalize passedEq : processFrames functions processor.current arrived
        (rampFrames window) processor window.zipIdx = passed
      have first : processWindow functions processor window target false =
          (passed.1.withCurrent arrived, ⟨passed.2, none⟩) := by
        rw [processWindow, arrivedEq, passedEq, endWindow_open]
      have within : rampFrames window ≤ window.length := Nat.min_le_left _ _
      have current : (passed.1.withCurrent arrived).current = arrived := rfl
      rw [processWindows, first]
      dsimp only
      rw [ih, current, processFrames_arrived, steadyFrames_withCurrent, endWindow_withCurrent,
        ← endWindow_append, List.flatten_cons, processFrames_append _ _ within, passedEq]

/-- The audio of a window has the frames of its input. -/
theorem processWindow_length (target : PostSynthesisParameters K) (finalWindow : Bool)
    (window : AudioBuffer K) :
    (processWindow functions processor window target finalWindow).2.audio.length =
      window.length := by
  rw [processWindow, endWindow_audio, processFrames, transduce_length, List.length_zipIdx]

/-- A cut whose first window has the ramp of the whole, or that has nothing to ramp. -/
def RampsAlike (processor : PostSynthesisProcessor K) (target : PostSynthesisParameters K)
    (first second : AudioBuffer K) : Prop :=
  rampFrames first = rampFrames second ∨ processor.current = .ofParameters target

/-- The parameters of a frame of a buffer that ramps over the given frames. -/
def frameParameters (processor : PostSynthesisProcessor K) (target : PostSynthesisParameters K)
    (ramp frameIndex : Nat) : EffectiveParameters K :=
  processor.current.interpolate (.ofParameters target) (rampAmount ramp frameIndex)

/-- **The condition is exact**: every frame is given the same parameters only when the first
windows ramp alike. The last frame of the shorter ramp tells them apart. -/
theorem rampsAlike_iff [IsStrictOrderedRing K] {target : PostSynthesisParameters K}
    {first : AudioBuffer K} (filled : first ≠ []) (rest : List (AudioBuffer K)) :
    processor.RampsAlike target first (first ++ rest.flatten) ↔
      ∀ index < (first ++ rest.flatten).length,
        processor.frameParameters target (rampFrames first) index =
          processor.frameParameters target (rampFrames (first ++ rest.flatten)) index := by
  constructor
  · rintro (ramps | arrived) index -
    · rw [ramps]
    · simp only [frameParameters, arrived, EffectiveParameters.interpolate_self]
  · intro same
    by_contra apart
    obtain ⟨ramps, arrived⟩ := not_or.mp apart
    have some : 0 < first.length := List.length_pos_of_ne_nil filled
    have positive : 0 < effectBoundaryRampFrames := by decide
    have total : (first ++ rest.flatten).length = first.length + rest.flatten.length :=
      List.length_append
    have shorter : 0 < rampFrames first ∧ rampFrames first < rampFrames (first ++ rest.flatten) ∧
        rampFrames first ≤ first.length := by
      unfold rampFrames at ramps ⊢
      omega
    obtain ⟨starts, below, within⟩ := shorter
    generalize rampFrames first = ramp at *
    generalize rampFrames (first ++ rest.flatten) = whole at *
    have last := same (ramp - 1) (by omega)
    have short : rampAmount ramp (ramp - 1) = (1 : K) := by
      rw [rampAmount, if_pos ⟨by omega, starts⟩, Nat.sub_add_cancel starts]
      exact div_self (Nat.cast_ne_zero.mpr (by omega))
    have long : rampAmount whole (ramp - 1) ≠ (1 : K) := by
      rw [rampAmount, if_pos ⟨by omega, by omega⟩, Nat.sub_add_cancel starts]
      intro one
      rw [div_eq_one_iff_eq (Nat.cast_ne_zero.mpr (by omega)), Nat.cast_inj] at one
      omega
    unfold frameParameters at last
    rw [short, EffectiveParameters.interpolate_one] at last
    exact arrived (EffectiveParameters.eq_of_interpolate_eq long last.symm)

/-- **Two cuts of one buffer** agree when their first windows ramp alike. -/
theorem processWindows_congr {target : PostSynthesisParameters K} {first first' : AudioBuffer K}
    {rest rest' : List (AudioBuffer K)} (finalWindow : Bool)
    (same : first ++ rest.flatten = first' ++ rest'.flatten)
    (alike : processor.RampsAlike target first first') :
    processWindows functions target finalWindow processor (first :: rest) =
      processWindows functions target finalWindow processor (first' :: rest') := by
  rw [processWindows_eq, processWindows_eq, same]
  rcases alike with ramps | arrived
  · rw [ramps]
  · rw [arrived, processFrames_arrived, processFrames_arrived]

/-- **Post-synthesis processing across windows.** The audio has the frames of the input, a
window that is not final has no tail, and the cut into windows does not matter when the
first windows ramp alike. -/
theorem process_windows_cut_invariant [IsStrictOrderedRing K] (functions : Transcendentals K)
    (processor : PostSynthesisProcessor K) (target : PostSynthesisParameters K)
    (finalWindow : Bool) :
    (∀ first rest, processor.RampsAlike target first (first ++ rest.flatten) →
        processWindows functions target finalWindow processor (first :: rest) =
          processWindow functions processor (first ++ rest.flatten) target finalWindow) ∧
      (∀ (first : AudioBuffer K) (rest : List (AudioBuffer K)), first ≠ [] →
        (processor.RampsAlike target first (first ++ rest.flatten) ↔
          ∀ index < (first ++ rest.flatten).length,
            processor.frameParameters target (rampFrames first) index =
              processor.frameParameters target (rampFrames (first ++ rest.flatten)) index)) ∧
      (∀ first rest first' rest', first ++ rest.flatten = first' ++ rest'.flatten →
        processor.RampsAlike target first first' →
          processWindows functions target finalWindow processor (first :: rest) =
            processWindows functions target finalWindow processor (first' :: rest')) ∧
      (∀ window, (processWindow functions processor window target finalWindow).2.audio.length =
        window.length) ∧
      (∀ first rest, (processWindows functions target finalWindow processor
        (first :: rest)).2.audio.length = (first ++ rest.flatten).length) ∧
      ∀ window, (processWindow functions processor window target false).2.tail = none := by
  refine ⟨?_, fun _ rest filled => rampsAlike_iff filled rest, ?_,
    processWindow_length target finalWindow, ?_, fun _ => rfl⟩
  · intro first rest alike
    have whole : first ++ rest.flatten = (first ++ rest.flatten) ++ ([] : List _).flatten := by
      rw [List.flatten_nil, List.append_nil]
    rw [processWindows_congr finalWindow whole alike, processWindows]
  · intro first rest first' rest' same alike
    exact processWindows_congr finalWindow same alike
  · intro first rest
    rw [processWindows_eq, endWindow_audio, processFrames, transduce_length, List.length_zipIdx]

end Windows

/-! ## Where the cut matters -/

/-- Parameters that only turn the volume up or down. -/
def gainOnly (gain : K) : EffectiveParameters K :=
  { EffectiveParameters.ofParameters PostSynthesisParameters.default with gain := gain }

/-- The library functions over the reals. -/
noncomputable def realFunctions : Transcendentals ℝ := ⟨Real.exp, Real.sin, Real.pi⟩

theorem gainOnly_eq (gain : ℝ) :
    gainOnly gain = ⟨gain, 20000, 0, 20, 0, 0, 0, 0, 0⟩ := by
  simp [gainOnly, EffectiveParameters.ofParameters, PostSynthesisParameters.default,
    PostSynthesisParameters.sanitized, clampTo]
  norm_num

/-- A new processor scales a frame, and nothing else. -/
theorem processFrame_gainOnly (frame : Frame ℝ) (gain : ℝ) :
    (processFrame realFunctions new frame (gainOnly gain)).2 =
      (clampTo (-1) 1 (frame.1 * gain), clampTo (-1) 1 (frame.2 * gain)) := by
  have off : (0 : ℝ) ≤ epsilon := by
    unfold epsilon
    positivity
  have silent : (List.finRange 4).foldl (fun (sum : Frame ℝ) line =>
      (sum.1 + ((0 : ℝ), (0 : ℝ)).1, sum.2 + ((0 : ℝ), (0 : ℝ)).2)) (0, 0) = (0, 0) := by
    simp [List.finRange_succ]
  rw [gainOnly_eq]
  simp only [processFrame, filterFrame, filterChannel, panFrame, processChorus, if_pos off,
    processEcho, processReverb, reverbDelayed, new, lt_irrefl, or_self, and_false, if_false,
    silent]
  simp

/-- Twice the volume. -/
noncomputable def loud : PostSynthesisParameters ℝ := { PostSynthesisParameters.default with gain := 2 }

/-- A quiet frame. -/
noncomputable def soft : Frame ℝ := (1 / 4, 1 / 4)

/-- On the way to twice the volume. -/
theorem interpolate_loud (amount : ℝ) :
    (new : PostSynthesisProcessor ℝ).current.interpolate (.ofParameters loud) amount =
      gainOnly (1 + amount) := by
  have start : (new : PostSynthesisProcessor ℝ).current = gainOnly 1 := by
    simp [new, gainOnly, EffectiveParameters.ofParameters, PostSynthesisParameters.default,
      PostSynthesisParameters.sanitized, clampTo]
  have target : EffectiveParameters.ofParameters loud = gainOnly 2 := by
    simp [loud, gainOnly, EffectiveParameters.ofParameters, PostSynthesisParameters.default,
      PostSynthesisParameters.sanitized, clampTo]
    norm_num
  rw [start, target, gainOnly_eq, gainOnly_eq, gainOnly_eq]
  simp only [EffectiveParameters.interpolate, EffectiveParameters.blend_self]
  simp [EffectiveParameters.blend]
  norm_num

/-- The first frame of a ramp to twice the volume. -/
theorem processFrames_loud_head (ramp : Nat) (some : 0 < ramp) (rest : List (Frame ℝ)) :
    (processFrames realFunctions (new : PostSynthesisProcessor ℝ).current (.ofParameters loud)
      ramp new (soft :: rest).zipIdx).2.head? =
        Option.some (clampTo (-1) 1 (1 / 4 * (1 + 1 / (ramp : ℝ))),
          clampTo (-1) 1 (1 / 4 * (1 + 1 / (ramp : ℝ)))) := by
  have first : rampAmount ramp 0 = (1 / ramp : ℝ) := by
    rw [rampAmount, if_pos ⟨some, some⟩]
    simp
  rw [List.zipIdx_cons, processFrames, transduce_cons, List.head?_cons]
  dsimp only
  rw [interpolate_loud, processFrame_gainOnly, first]
  rfl

/-- **A short first window shortens the ramp**: two equal frames to be played twice as loud,
in one window and in two. -/
theorem short_first_window_shortens_ramp :
    ¬ ∀ (processor : PostSynthesisProcessor ℝ) (target : PostSynthesisParameters ℝ)
      (finalWindow : Bool) (first : AudioBuffer ℝ) (rest : List (AudioBuffer ℝ)),
      first ≠ [] → (∀ window ∈ rest, window ≠ []) →
        processWindows realFunctions target finalWindow processor (first :: rest) =
          processWindow realFunctions processor (first ++ rest.flatten) target finalWindow := by
  intro invariant
  have equal := invariant new loud false [soft] [[soft]] (by simp) (by simp)
  have audio := congrArg (fun result => result.2.audio.head?) equal
  rw [processWindows_eq, processWindow, endWindow_audio, endWindow_audio] at audio
  have short : rampFrames [soft] = 1 := rfl
  have long : rampFrames ([soft] ++ [[soft]].flatten) = 2 := rfl
  rw [short, long] at audio
  have one := processFrames_loud_head 1 (by decide) [soft]
  have two := processFrames_loud_head 2 (by decide) [soft]
  have both := one.symm.trans (audio.trans two)
  norm_num [clampTo] at both

/-- The same frames once the volume has been reached. -/
theorem process_windows_cut_invariant_arrived :
    processWindows realFunctions .default true new [[soft], [soft]] =
      processWindow realFunctions new [soft, soft] .default true :=
  (process_windows_cut_invariant realFunctions new .default true).1 [soft] [[soft]] (Or.inr rfl)

end PostSynthesisProcessor

end Processing

end Omnivox.Audio
