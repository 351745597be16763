import Omnivox.Audio.PostSynthesis
import Omnivox.Foundations.Mixing

/-!
# The effects are stable

The coefficients of the filters change from frame to frame while parameters ramp,
so no argument about a fixed filter applies. Each state is bounded by itself
instead: the low pass is a convex combination of its state and its input, and so
is what the high pass takes away from its input, whatever the coefficients. The
feedback of every delay line stays below one.

`Within` collects the bounds, `processFrame_within` shows that a frame keeps them,
and `post_synthesis_stable` follows for windows and tails of any length.
-/

set_option autoImplicit false

namespace Omnivox.Audio

open Foundations

variable {K : Type*} [Field K] [LinearOrder K]

/-! ## Bounded values -/

/-- Both sides of a frame are within `bound`. -/
def FrameWithin (bound : K) (frame : Frame K) : Prop := |frame.1| ≤ bound ∧ |frame.2| ≤ bound

section Bounds

variable [IsStrictOrderedRing K]

omit [IsStrictOrderedRing K] in
theorem FrameWithin.mono {bound bound' : K} {frame : Frame K} (within : FrameWithin bound frame)
    (le : bound ≤ bound') : FrameWithin bound' frame :=
  ⟨within.1.trans le, within.2.trans le⟩

omit [Field K] [IsStrictOrderedRing K] in
theorem clampTo_mem {low high value : K} (order : low ≤ high) :
    low ≤ clampTo low high value ∧ clampTo low high value ≤ high := by
  unfold clampTo
  split
  · exact ⟨le_rfl, order⟩
  · rename_i above
    split
    · exact ⟨order, le_rfl⟩
    · rename_i below
      exact ⟨not_lt.mp above, not_lt.mp below⟩

theorem abs_clampTo_le (value : K) : |clampTo (-1) 1 value| ≤ 1 :=
  abs_le.mpr (clampTo_mem (by linarith [(zero_le_one : (0 : K) ≤ 1)]))

end Bounds

/-! ## Valid parameters -/

/-- Parameters as a sanitized target gives them, or as a ramp between such
targets. -/
structure Valid (parameters : EffectiveParameters K) : Prop where
  gain : 0 ≤ parameters.gain ∧ parameters.gain ≤ 4
  lowPassHz : 80 ≤ parameters.lowPassHz ∧ parameters.lowPassHz ≤ 20000
  lowPassMix : 0 ≤ parameters.lowPassMix ∧ parameters.lowPassMix ≤ 1
  highPassHz : 20 ≤ parameters.highPassHz ∧ parameters.highPassHz ≤ 8000
  highPassMix : 0 ≤ parameters.highPassMix ∧ parameters.highPassMix ≤ 1
  pan : -1 ≤ parameters.pan ∧ parameters.pan ≤ 1
  chorus : 0 ≤ parameters.chorus ∧ parameters.chorus ≤ 1
  reverb : 0 ≤ parameters.reverb ∧ parameters.reverb ≤ 1
  echo : 0 ≤ parameters.echo ∧ parameters.echo ≤ 1

section Parameters

variable [IsStrictOrderedRing K]

/-- A mix is used or not. -/
theorem mix_mem (used : Bool) :
    0 ≤ (if used then 1 else 0 : K) ∧ (if used then 1 else 0 : K) ≤ 1 := by
  cases used
  · exact ⟨le_rfl, zero_le_one⟩
  · exact ⟨zero_le_one, le_rfl⟩

omit [Field K] [IsStrictOrderedRing K] in
theorem getD_clampTo_mem {low high absent : K} (order : low ≤ high)
    (inside : low ≤ absent ∧ absent ≤ high) (given : Option K) :
    low ≤ (given.map (clampTo low high)).getD absent ∧
      (given.map (clampTo low high)).getD absent ≤ high := by
  cases given with
  | none => exact inside
  | some value => exact clampTo_mem order

/-- **Every target is valid**, whatever was asked for. -/
theorem ofParameters_valid (value : PostSynthesisParameters K) :
    Valid (EffectiveParameters.ofParameters value) where
  gain := clampTo_mem (by norm_num)
  lowPassHz := getD_clampTo_mem (by norm_num) (by norm_num) value.lowPassHz
  lowPassMix := mix_mem _
  highPassHz := getD_clampTo_mem (by norm_num) (by norm_num) value.highPassHz
  highPassMix := mix_mem _
  pan := clampTo_mem (by norm_num)
  chorus := clampTo_mem (by norm_num)
  reverb := clampTo_mem (by norm_num)
  echo := clampTo_mem (by norm_num)

theorem blend_mem {low high start target amount : K} (first : low ≤ start ∧ start ≤ high)
    (second : low ≤ target ∧ target ≤ high) (positive : 0 ≤ amount) (part : amount ≤ 1) :
    low ≤ EffectiveParameters.blend amount start target ∧
      EffectiveParameters.blend amount start target ≤ high := by
  unfold EffectiveParameters.blend
  constructor <;> nlinarith

/-- **A ramp between valid parameters is valid.** -/
theorem interpolate_valid {start target : EffectiveParameters K} (first : Valid start)
    (second : Valid target) {amount : K} (positive : 0 ≤ amount) (part : amount ≤ 1) :
    Valid (start.interpolate target amount) where
  gain := blend_mem first.gain second.gain positive part
  lowPassHz := blend_mem first.lowPassHz second.lowPassHz positive part
  lowPassMix := blend_mem first.lowPassMix second.lowPassMix positive part
  highPassHz := blend_mem first.highPassHz second.highPassHz positive part
  highPassMix := blend_mem first.highPassMix second.highPassMix positive part
  pan := blend_mem first.pan second.pan positive part
  chorus := blend_mem first.chorus second.chorus positive part
  reverb := blend_mem first.reverb second.reverb positive part
  echo := blend_mem first.echo second.echo positive part

theorem rampAmount_mem (ramp index : Nat) :
    0 ≤ (PostSynthesisProcessor.rampAmount ramp index : K) ∧
      (PostSynthesisProcessor.rampAmount ramp index : K) ≤ 1 := by
  unfold PostSynthesisProcessor.rampAmount
  split
  · rename_i inside
    have size : (0 : K) < ramp := Nat.cast_pos.mpr inside.2
    refine ⟨by positivity, (div_le_one size).mpr ?_⟩
    exact_mod_cast inside.1
  · exact ⟨zero_le_one, le_rfl⟩

end Parameters

/-! ## Bounds of the state -/

/-- What is asked of the functions of the library: the exponential of a negative
number is positive and at most one, the sine is within one, and π is positive. -/
structure Transcendentals.Lawful (functions : Transcendentals K) : Prop where
  pi : 0 < functions.pi
  exp : ∀ x, x ≤ 0 → 0 < functions.exp x ∧ functions.exp x ≤ 1
  sin : ∀ x, |functions.sin x| ≤ 1

/-- **The bounds of every state.** What the high pass takes away from its input is
bounded like the input, which bounds its output. -/
structure Within (processor : PostSynthesisProcessor K) : Prop where
  current : Valid processor.current
  lowState : FrameWithin 4 processor.lowState
  highInput : FrameWithin 4 processor.highInput
  highTaken : FrameWithin 4 (processor.highInput.1 - processor.highOutput.1,
    processor.highInput.2 - processor.highOutput.2)
  chorus : ∀ index, FrameWithin 8 (processor.chorus index)
  echo : ∀ index, FrameWithin 29 (processor.echo index)
  reverb : ∀ line index, FrameWithin 135 (processor.reverb line index)

/-- The bounds of one channel of the filters, its sample being within `bound`. -/
structure ChannelWithin (bound : K) (channel : PostSynthesisProcessor.ChannelFilters K) :
    Prop where
  sample : |channel.sample| ≤ bound
  lowState : |channel.lowState| ≤ 4
  highInput : |channel.highInput| ≤ 4
  highTaken : |channel.highInput - channel.highOutput| ≤ 4

section State

variable [IsStrictOrderedRing K]

/-- What is left of a bounded value when something bounded is taken away. -/
theorem abs_left_le {a b : K} (whole : |a| ≤ 4) (taken : |a - b| ≤ 4) : |b| ≤ 8 := by
  rw [abs_le] at *
  constructor <;> linarith

theorem Within.highOutput {processor : PostSynthesisProcessor K} (within : Within processor) :
    FrameWithin 8 processor.highOutput :=
  ⟨abs_left_le within.highInput.1 within.highTaken.1,
    abs_left_le within.highInput.2 within.highTaken.2⟩

/-- **The coefficient of the low pass** is between zero and one. -/
theorem lowAlpha_mem {functions : Transcendentals K} (lawful : functions.Lawful)
    {parameters : EffectiveParameters K} (valid : Valid parameters) :
    0 ≤ 1 - functions.exp (-2 * functions.pi * parameters.lowPassHz / sampleRate) ∧
      1 - functions.exp (-2 * functions.pi * parameters.lowPassHz / sampleRate) ≤ 1 := by
  have frequency : 0 ≤ parameters.lowPassHz := le_trans (by norm_num) valid.lowPassHz.1
  have scaled : 0 ≤ 2 * functions.pi * parameters.lowPassHz / sampleRate :=
    div_nonneg (mul_nonneg (mul_nonneg (by norm_num) lawful.pi.le) frequency) (Nat.cast_nonneg _)
  have negative : -2 * functions.pi * parameters.lowPassHz / sampleRate ≤ 0 := by
    have same : -2 * functions.pi * parameters.lowPassHz / sampleRate =
        -(2 * functions.pi * parameters.lowPassHz / sampleRate) := by ring
    rw [same]
    exact neg_nonpos.mpr scaled
  obtain ⟨positive, small⟩ := lawful.exp _ negative
  constructor <;> linarith

/-- **The coefficient of the high pass** is between zero and one. -/
theorem highAlpha_mem {functions : Transcendentals K} (lawful : functions.Lawful)
    {parameters : EffectiveParameters K} (valid : Valid parameters) :
    0 ≤ 1 / (2 * functions.pi * parameters.highPassHz) /
        (1 / (2 * functions.pi * parameters.highPassHz) + 1 / sampleRate) ∧
      1 / (2 * functions.pi * parameters.highPassHz) /
        (1 / (2 * functions.pi * parameters.highPassHz) + 1 / sampleRate) ≤ 1 := by
  have frequency : 0 < parameters.highPassHz := lt_of_lt_of_le (by norm_num) valid.highPassHz.1
  have rc : 0 < 1 / (2 * functions.pi * parameters.highPassHz) :=
    one_div_pos.mpr (mul_pos (mul_pos (by norm_num) lawful.pi) frequency)
  have dt : 0 ≤ 1 / (sampleRate : K) := div_nonneg zero_le_one (Nat.cast_nonneg _)
  exact ⟨div_nonneg rc.le (add_nonneg rc.le dt),
    (div_le_one (by linarith)).mpr (by linarith)⟩

/-- **One channel of the filters keeps its bounds**, whatever the coefficients
were before. -/
theorem filterChannel_within {functions : Transcendentals K} (lawful : functions.Lawful)
    {parameters : EffectiveParameters K} (valid : Valid parameters)
    (channel : PostSynthesisProcessor.ChannelFilters K) (within : ChannelWithin 1 channel) :
    ChannelWithin 8 (PostSynthesisProcessor.filterChannel functions parameters channel) := by
  obtain ⟨alpha, alpha'⟩ := lowAlpha_mem lawful valid
  obtain ⟨beta, beta'⟩ := highAlpha_mem lawful valid
  unfold PostSynthesisProcessor.filterChannel
  dsimp only
  generalize 1 - functions.exp (-2 * functions.pi * parameters.lowPassHz / sampleRate) =
    lowAlpha at *
  generalize 1 / (2 * functions.pi * parameters.highPassHz) /
    (1 / (2 * functions.pi * parameters.highPassHz) + 1 / (sampleRate : K)) = highAlpha at *
  have loud : |channel.sample * parameters.gain| ≤ 4 := by
    rw [abs_mul, abs_of_nonneg valid.gain.1]
    nlinarith [within.sample, valid.gain.1, valid.gain.2, abs_nonneg channel.sample]
  have low : |channel.lowState + lowAlpha *
      (channel.sample * parameters.gain - channel.lowState)| ≤ 4 := by
    have mixed := abs_mix_le within.lowState loud alpha alpha'
    convert mixed using 2
    ring
  generalize channel.lowState + lowAlpha * (channel.sample * parameters.gain - channel.lowState) =
    lowState at *
  have mixed := abs_mix_le loud low valid.lowPassMix.1 valid.lowPassMix.2
  generalize channel.sample * parameters.gain * (1 - parameters.lowPassMix) +
    lowState * parameters.lowPassMix = middle at *
  have taken : |middle - highAlpha * (channel.highOutput + middle - channel.highInput)| ≤ 4 := by
    -- what is taken away moves from its last value towards the input
    have convex := abs_mix_le mixed within.highTaken beta beta'
    convert convex using 2
    ring
  have passed := abs_left_le mixed taken
  have wide : |middle| ≤ 8 := mixed.trans (by norm_num)
  exact ⟨abs_mix_le wide passed valid.highPassMix.1 valid.highPassMix.2, low, mixed, taken⟩

theorem filterFrame_within {functions : Transcendentals K} (lawful : functions.Lawful)
    {processor : PostSynthesisProcessor K} (within : Within processor) {frame : Frame K}
    (quiet : FrameWithin 1 frame) {parameters : EffectiveParameters K} (valid : Valid parameters) :
    Within (processor.filterFrame functions frame parameters).1 ∧
      FrameWithin 8 (processor.filterFrame functions frame parameters).2 := by
  have left := filterChannel_within lawful valid
    ⟨frame.1, processor.lowState.1, processor.highInput.1, processor.highOutput.1⟩
    ⟨quiet.1, within.lowState.1, within.highInput.1, within.highTaken.1⟩
  have right := filterChannel_within lawful valid
    ⟨frame.2, processor.lowState.2, processor.highInput.2, processor.highOutput.2⟩
    ⟨quiet.2, within.lowState.2, within.highInput.2, within.highTaken.2⟩
  refine ⟨?_, left.sample, right.sample⟩
  exact { within with
    lowState := ⟨left.lowState, right.lowState⟩
    highInput := ⟨left.highInput, right.highInput⟩
    highTaken := ⟨left.highTaken, right.highTaken⟩ }

theorem panFrame_within {bound : K} {frame : Frame K} (within : FrameWithin bound frame) {pan : K}
    (valid : -1 ≤ pan ∧ pan ≤ 1) :
    FrameWithin bound (PostSynthesisProcessor.panFrame frame pan) := by
  unfold PostSynthesisProcessor.panFrame
  split
  · rename_i negative
    exact ⟨within.1, abs_scale_le within.2 (by linarith) (by linarith)⟩
  · rename_i positive
    exact ⟨abs_scale_le within.1 (by linarith) (by linarith), within.2⟩

omit [IsStrictOrderedRing K] in
/-- Writing a bounded value keeps a bounded line bounded. -/
theorem update_within {size : Nat} {bound : K} {line : Fin size → Frame K}
    (within : ∀ index, FrameWithin bound (line index)) {value : Frame K}
    (small : FrameWithin bound value) (position : Fin size) :
    ∀ index, FrameWithin bound (Function.update line position value index) := by
  intro index
  by_cases here : index = position
  · rw [here, Function.update_self]
    exact small
  · rw [Function.update_of_ne here]
    exact within index

theorem zero_within {bound : K} (positive : 0 ≤ bound) :
    FrameWithin bound (0, 0) := by
  have silent : |(0 : K)| ≤ bound := by rwa [abs_zero]
  exact ⟨silent, silent⟩

/-- **A delay line stays bounded** while its feedback leaves room for its input. -/
theorem fed_within {input bound level feedback : K} (most : K) {frame delayed : Frame K}
    (source : FrameWithin input frame) (held : FrameWithin bound delayed)
    (positive : 0 ≤ feedback) (part : feedback ≤ most) (room : input + bound * most ≤ bound) :
    FrameWithin bound (PostSynthesisProcessor.fed level feedback frame delayed) := by
  unfold PostSynthesisProcessor.fed
  split
  · exact ⟨(abs_feed_le source.1 held.1 positive part).trans room,
      (abs_feed_le source.2 held.2 positive part).trans room⟩
  · exact zero_within ((abs_nonneg _).trans held.1)

theorem processEcho_within {processor : PostSynthesisProcessor K} (within : Within processor)
    {frame : Frame K} (source : FrameWithin 8 frame) {level : K} (valid : 0 ≤ level ∧ level ≤ 1) :
    Within (processor.processEcho frame level).1 ∧
      FrameWithin 29 (processor.processEcho frame level).2 := by
  have delayed := within.echo processor.echoPosition
  have kept : FrameWithin 29 (PostSynthesisProcessor.fed level (level * (72 / 100)) frame
      (processor.echo processor.echoPosition)) :=
    fed_within (72 / 100) source delayed (by linarith) (by linarith) (by norm_num)
  have bound : (8 : K) + 29 * (7 / 10) ≤ 29 := by norm_num
  have positive : 0 ≤ level * (7 / 10) := by linarith
  have part : level * (7 / 10) ≤ 7 / 10 := by linarith
  exact ⟨{ within with echo := update_within within.echo kept _ },
    (abs_feed_le source.1 delayed.1 positive part).trans bound,
    (abs_feed_le source.2 delayed.2 positive part).trans bound⟩

theorem processReverb_within {processor : PostSynthesisProcessor K} (within : Within processor)
    {frame : Frame K} (source : FrameWithin 29 frame) {level : K} (valid : 0 ≤ level ∧ level ≤ 1) :
    Within (processor.processReverb frame level).1 := by
  refine { within with reverb := fun line => update_within (within.reverb line) ?_ _ }
  have last : ((line.val : Nat) : K) ≤ 3 := by exact_mod_cast Nat.le_of_lt_succ line.isLt
  have first : (0 : K) ≤ line.val := Nat.cast_nonneg _
  refine fed_within (785 / 1000) source (within.reverb line _) ?_ ?_ (by norm_num)
  · exact mul_nonneg valid.1 (by linarith)
  · nlinarith [valid.1, valid.2]

end State

/-! ## The chorus -/

section Chorus

variable [FloorRing K]

namespace PostSynthesisProcessor

theorem chorusBufferFrames_pos : 0 < chorusBufferFrames := by decide

/-- The processor whose chorus line is read: a chorus that was off starts anew. -/
def chorusStarted (processor : PostSynthesisProcessor K) : PostSynthesisProcessor K :=
  if processor.chorusActive then processor
  else
    { processor with
      chorus := fun _ => (0, 0)
      chorusPosition := ⟨0, chorusBufferFrames_pos⟩
      chorusPhase := 0
      chorusActive := true }

/-- How far behind the position that is written the two sides of the chorus read. -/
def chorusDelays (functions : Transcendentals K) (processor : PostSynthesisProcessor K)
    (amount : K) : K × K :=
  (chorusBaseDelayFrames + chorusMaxDepthFrames * amount *
      functions.sin processor.chorusStarted.chorusPhase,
    chorusBaseDelayFrames + chorusMaxDepthFrames * amount *
      functions.sin (processor.chorusStarted.chorusPhase + functions.pi))

/-- **A read of the chorus is inside its line**: the delay is not negative, and neither of
the two differences that give the indices runs below zero. The remainder by the length
of the line is then a place of the line. -/
def ReadsInside (processor : PostSynthesisProcessor K) (delay : K) : Prop :=
  0 ≤ ⌊delay⌋ ∧
    ⌊delay⌋.toNat ≤ processor.chorusStarted.chorusPosition.val + chorusBufferFrames

end PostSynthesisProcessor

open PostSynthesisProcessor

/-- What a chorus that is on stores and gives. -/
theorem processChorus_on (functions : Transcendentals K) (processor : PostSynthesisProcessor K)
    {amount : K} (on : ¬ amount ≤ epsilon) (frame : Frame K) :
    ∃ position phase output,
      processChorus functions processor frame amount =
        ({ processor.chorusStarted with
            chorus := Function.update processor.chorusStarted.chorus
              processor.chorusStarted.chorusPosition frame
            chorusPosition := position
            chorusPhase := phase },
          (clampTo (-1) 1 (output : Frame K).1, clampTo (-1) 1 output.2)) ∧
      output =
        (frame.1 * (1 - amount * chorusMaxWetMix * (1 / 2)) +
            chorusDelayedSample processor.chorusStarted.chorus
              processor.chorusStarted.chorusPosition Prod.fst
              (processor.chorusDelays functions amount).1 * (amount * chorusMaxWetMix),
          frame.2 * (1 - amount * chorusMaxWetMix * (1 / 2)) +
            chorusDelayedSample processor.chorusStarted.chorus
              processor.chorusStarted.chorusPosition Prod.snd
              (processor.chorusDelays functions amount).2 * (amount * chorusMaxWetMix)) := by
  unfold processChorus
  rw [if_neg on]
  exact ⟨_, _, _, rfl, rfl⟩

variable [IsStrictOrderedRing K]

/-- **The delay moves by less than its base**, so the chorus never reads ahead of the
position that is written, nor behind the oldest frame. -/
theorem chorusDelay_inside {processor : PostSynthesisProcessor K} {amount wave : K}
    (valid : 0 ≤ amount ∧ amount ≤ 1) (bounded : |wave| ≤ 1) :
    processor.ReadsInside (chorusBaseDelayFrames + chorusMaxDepthFrames * amount * wave) := by
  have base : (chorusBaseDelayFrames : K) = 3087 / 10 := by
    norm_num [chorusBaseDelayFrames, sampleRate]
  have most : (chorusMaxDepthFrames : K) = 2205 / 10 := by
    norm_num [chorusMaxDepthFrames, sampleRate]
  have swing : |amount * wave| ≤ 1 := by
    rw [mul_comm]
    exact abs_scale_le bounded valid.1 valid.2
  obtain ⟨low, high⟩ := abs_le.mp swing
  have delay : chorusBaseDelayFrames + chorusMaxDepthFrames * amount * wave =
      3087 / 10 + 2205 / 10 * (amount * wave) := by
    rw [base, most]
    ring
  have positive : 0 ≤ 3087 / 10 + 2205 / 10 * (amount * wave) := by linarith
  have short : 3087 / 10 + 2205 / 10 * (amount * wave) < ((617 : ℤ) : K) := by
    push_cast
    linarith
  rw [delay]
  refine ⟨Int.floor_nonneg.mpr positive, ?_⟩
  have whole : ⌊(3087 / 10 + 2205 / 10 * (amount * wave) : K)⌋ < 617 := Int.floor_lt.mpr short
  have size : chorusBufferFrames = 617 := rfl
  omega

omit [FloorRing K] in
theorem chorusStarted_within
    {processor : PostSynthesisProcessor K} (within : Within processor) :
    Within processor.chorusStarted := by
  unfold chorusStarted
  split
  · exact within
  · exact { within with chorus := fun _ => zero_within (by norm_num) }

theorem processChorus_within (functions : Transcendentals K)
    {processor : PostSynthesisProcessor K} (within : Within processor) {frame : Frame K}
    (source : FrameWithin 8 frame) (amount : K) :
    Within (processChorus functions processor frame amount).1 ∧
      FrameWithin 8 (processChorus functions processor frame amount).2 := by
  by_cases off : amount ≤ epsilon
  · unfold processChorus
    rw [if_pos off]
    exact ⟨{ within with chorus := update_within within.chorus (zero_within (by norm_num)) _ },
      source⟩
  · obtain ⟨position, phase, output, processed, -⟩ :=
      processChorus_on functions processor off frame
    have started := chorusStarted_within within
    rw [processed]
    have clamped : FrameWithin 1 (clampTo (-1) 1 output.1, clampTo (-1) 1 output.2) :=
      ⟨abs_clampTo_le _, abs_clampTo_le _⟩
    exact ⟨{ started with chorus := update_within started.chorus source _ },
      clamped.mono (by norm_num)⟩

end Chorus

/-! ## One frame -/

section Frames

variable [FloorRing K] [IsStrictOrderedRing K]

open PostSynthesisProcessor

omit [FloorRing K] [IsStrictOrderedRing K] in
/-- A mark that a tail is due touches no bounded value. -/
theorem Within.marked {processor : PostSynthesisProcessor K} (within : Within processor)
    (active : Bool) : Within { processor with tailActive := active } :=
  { within with }

/-- **A frame keeps every bound**, and what is heard of it is within one. -/
theorem processFrame_within {functions : Transcendentals K} (lawful : functions.Lawful)
    {processor : PostSynthesisProcessor K} (within : Within processor) {frame : Frame K}
    (quiet : FrameWithin 1 frame) {parameters : EffectiveParameters K} (valid : Valid parameters) :
    Within (processFrame functions processor frame parameters).1 ∧
      FrameWithin 1 (processFrame functions processor frame parameters).2 := by
  have passed : ∀ start : PostSynthesisProcessor K, Within start →
      let filtered := filterFrame functions start frame parameters
      let chorused := processChorus functions filtered.1 (panFrame filtered.2 parameters.pan)
        parameters.chorus
      let echoed := processEcho chorused.1 chorused.2 parameters.echo
      Within (processReverb echoed.1 echoed.2 parameters.reverb).1 := by
    intro start bounded
    obtain ⟨filtered, loud⟩ := filterFrame_within lawful bounded quiet valid
    have panned := panFrame_within loud valid.pan
    obtain ⟨chorused, wide⟩ := processChorus_within functions filtered panned parameters.chorus
    obtain ⟨echoed, wider⟩ := processEcho_within chorused wide valid.echo
    exact processReverb_within echoed wider valid.reverb
  have clamped : FrameWithin 1 (processFrame functions processor frame parameters).2 :=
    ⟨abs_clampTo_le _, abs_clampTo_le _⟩
  refine ⟨?_, clamped⟩
  unfold processFrame
  dsimp only
  split
  · exact passed _ (within.marked true)
  · exact passed _ within

/-- What a frame is processed with: the frame and the parameters at it. -/
abbrev EffectInput (K : Type*) := Frame K × EffectiveParameters K

/-- `process_frame` on a frame with its parameters. -/
def processInput (functions : Transcendentals K) (processor : PostSynthesisProcessor K)
    (input : EffectInput K) : PostSynthesisProcessor K × Frame K :=
  processFrame functions processor input.1 input.2

/-- A frame of samples within one, with valid parameters. -/
structure EffectInput.Allowed (input : EffectInput K) : Prop where
  quiet : FrameWithin 1 input.1
  valid : Valid input.2

/-- A moment of a run: a state, and the frame that it processes. -/
abbrev Moment (K : Type*) := PostSynthesisProcessor K × EffectInput K

/-- **A stable moment.** The state before and after the frame is within its bounds, the
chorus reads inside its line, and what is heard is within one. -/
structure Moment.Stable (functions : Transcendentals K) (moment : Moment K) : Prop where
  before : Within moment.1
  after : Within (processInput functions moment.1 moment.2).1
  left : ReadsInside moment.1 (moment.1.chorusDelays functions moment.2.2.chorus).1
  right : ReadsInside moment.1 (moment.1.chorusDelays functions moment.2.2.chorus).2
  high : FrameWithin 8 (processInput functions moment.1 moment.2).1.highOutput
  heard : FrameWithin 1 (processInput functions moment.1 moment.2).2

theorem stable_of_within {functions : Transcendentals K} (lawful : functions.Lawful)
    {moment : Moment K} (within : Within moment.1) (allowed : moment.2.Allowed) :
    moment.Stable functions where
  before := within
  after := (processFrame_within lawful within allowed.quiet allowed.valid).1
  high := (processFrame_within lawful within allowed.quiet allowed.valid).1.highOutput
  left := chorusDelay_inside allowed.valid.chorus (lawful.sin _)
  right := chorusDelay_inside allowed.valid.chorus (lawful.sin _)
  heard := (processFrame_within lawful within allowed.quiet allowed.valid).2

/-- **A pass is stable at each of its moments**, and ends within the bounds. -/
theorem pass_stable {functions : Transcendentals K} (lawful : functions.Lawful)
    {processor : PostSynthesisProcessor K} (within : Within processor)
    {inputs : List (EffectInput K)} (allowed : ∀ input ∈ inputs, input.Allowed) :
    (∀ moment ∈ moments (processInput functions) processor inputs,
        Moment.Stable functions moment) ∧
      Within (transduce (processInput functions) processor inputs).1 ∧
      ∀ frame ∈ (transduce (processInput functions) processor inputs).2, FrameWithin 1 frame := by
  have keeps : ∀ state (input : EffectInput K), Within state → input.Allowed →
      Within (processInput functions state input).1 ∧
        FrameWithin 1 (processInput functions state input).2 :=
    fun state input start good => processFrame_within lawful start good.quiet good.valid
  refine ⟨?_, transduce_keeps _ keeps within allowed⟩
  intro moment met
  obtain ⟨start, good⟩ := moments_keep _ (fun state input start good =>
    (keeps state input start good).1) within allowed moment met
  exact stable_of_within lawful start good

/-! ## A pass over frames -/

omit [IsStrictOrderedRing K] in
/-- The frames of a window with their parameters. -/
def windowInputs (current target : EffectiveParameters K) (input : AudioBuffer K) :
    List (EffectInput K) :=
  input.zipIdx.map fun frame =>
    (frame.1, current.interpolate target (rampAmount (rampFrames input) frame.2))

/-- Silent frames at the same parameters. -/
def silentInputs (parameters : EffectiveParameters K) (count : Nat) : List (EffectInput K) :=
  List.replicate count ((0, 0), parameters)

omit [IsStrictOrderedRing K] in
theorem processFrames_eq (functions : Transcendentals K) (current target : EffectiveParameters K)
    (processor : PostSynthesisProcessor K) (input : AudioBuffer K) :
    processFrames functions current target (rampFrames input) processor input.zipIdx =
      transduce (processInput functions) processor (windowInputs current target input) := by
  have read := transduce_map (processInput functions)
    (fun processor (frame : Frame K × Nat) => processFrame functions processor frame.1
      (current.interpolate target (rampAmount (rampFrames input) frame.2))) id
    (fun frame => (frame.1, current.interpolate target (rampAmount (rampFrames input) frame.2)))
    (fun _ _ => rfl) processor input.zipIdx
  exact read.symm

omit [IsStrictOrderedRing K] in
/-- **A tail is a pass over silent frames**, at most as many as are left. -/
theorem flushFrames_eq (functions : Transcendentals K) (parameters : EffectiveParameters K)
    (minimumFrames left frameIndex quietFrames : Nat) (processor : PostSynthesisProcessor K) :
    (flushFrames functions parameters minimumFrames left frameIndex quietFrames
        processor).2.length ≤ left ∧
      flushFrames functions parameters minimumFrames left frameIndex quietFrames processor =
        transduce (processInput functions) processor (silentInputs parameters
          (flushFrames functions parameters minimumFrames left frameIndex quietFrames
            processor).2.length) := by
  induction left generalizing frameIndex quietFrames processor with
  | zero => exact ⟨le_rfl, rfl⟩
  | succ left ih =>
      rw [flushFrames]
      dsimp only
      generalize (if isQuiet (processFrame functions processor (0, 0) parameters).2
        then quietFrames + 1 else 0) = quiet
      split
      · exact ⟨Nat.succ_le_succ (Nat.zero_le left), rfl⟩
      · rename_i more
        obtain ⟨short, rest⟩ := ih (frameIndex + 1) quiet
          (processFrame functions processor (0, 0) parameters).1
        refine ⟨Nat.succ_le_succ short, ?_⟩
        rw [List.length_cons, silentInputs, List.replicate_succ, transduce_cons]
        exact congrArg₂ Prod.mk (congrArg Prod.fst rest)
          (congrArg (List.cons _) (congrArg Prod.snd rest))

omit [FloorRing K] in
theorem windowInputs_allowed {current target : EffectiveParameters K} (first : Valid current)
    (second : Valid target) {window : AudioBuffer K}
    (quiet : ∀ frame ∈ window, FrameWithin 1 frame) :
    ∀ input ∈ windowInputs current target window, input.Allowed := by
  intro input member
  obtain ⟨frame, inside, rfl⟩ := List.mem_map.mp member
  obtain ⟨positive, part⟩ := rampAmount_mem (K := K) (rampFrames window) frame.2
  exact ⟨quiet frame.1 (List.fst_mem_of_mem_zipIdx inside),
    interpolate_valid first second positive part⟩

theorem silentInputs_allowed {parameters : EffectiveParameters K} (valid : Valid parameters)
    (count : Nat) : ∀ input ∈ silentInputs parameters count, input.Allowed := by
  intro input member
  rw [List.eq_of_mem_replicate member]
  exact ⟨zero_within zero_le_one, valid⟩

end Frames

/-! ## Calls -/

/-- A call of a processor. -/
inductive EffectCall (K : Type*) where
  | window (input : AudioBuffer K) (target : PostSynthesisParameters K) (finalWindow : Bool)
  | finish

section Calls

variable [FloorRing K]

open PostSynthesisProcessor

/-- `process_window`, or `finish` as a window without audio. -/
def EffectCall.perform (functions : Transcendentals K) (processor : PostSynthesisProcessor K) :
    EffectCall K → PostSynthesisProcessor K × ProcessedEffectWindow K
  | .window input target finalWindow => processWindow functions processor input target finalWindow
  | .finish =>
    let finished := PostSynthesisProcessor.finish functions processor
    (finished.1, ⟨[], finished.2⟩)

/-- The frames that a flush of the tail passes, before the quiet ones are dropped. -/
def tailFrames (functions : Transcendentals K) (processor : PostSynthesisProcessor K)
    (parameters : EffectiveParameters K) : AudioBuffer K :=
  (flushFrames functions parameters (max echoDelayFrames ((List.ofFn reverbDelays).foldl max 0))
    maxEffectTailFrames 0 0 processor).2

/-- The moments of a flush, when a tail is due. -/
def tailMoments (functions : Transcendentals K) (processor : PostSynthesisProcessor K)
    (parameters : EffectiveParameters K) : List (Moment K) :=
  if processor.tailActive then
    moments (processInput functions) processor
      (silentInputs parameters (tailFrames functions processor parameters).length)
  else []

/-- The processor at the end of the frames of a window. -/
def windowPassed (functions : Transcendentals K) (processor : PostSynthesisProcessor K)
    (input : AudioBuffer K) (target : EffectiveParameters K) : PostSynthesisProcessor K :=
  (transduce (processInput functions) processor
    (windowInputs processor.current target input)).1.withCurrent target

/-- The moments of a call: those of its frames, then those of its tail. -/
def EffectCall.frameMoments (functions : Transcendentals K)
    (processor : PostSynthesisProcessor K) : EffectCall K → List (Moment K)
  | .window input target finalWindow =>
    moments (processInput functions) processor
        (windowInputs processor.current (.ofParameters target) input) ++
      if finalWindow then
        tailMoments functions (windowPassed functions processor input (.ofParameters target))
          (.ofParameters target)
      else []
  | .finish => tailMoments functions processor processor.current

/-- Calls one after another. -/
def runEffects (functions : Transcendentals K) (processor : PostSynthesisProcessor K)
    (calls : List (EffectCall K)) : PostSynthesisProcessor K × List (ProcessedEffectWindow K) :=
  transduce (EffectCall.perform functions) processor calls

/-- Every frame that a run processes, with the state that it meets. -/
def runMoments (functions : Transcendentals K) (processor : PostSynthesisProcessor K)
    (calls : List (EffectCall K)) : List (Moment K) :=
  (moments (EffectCall.perform functions) processor calls).flatMap fun moment =>
    moment.2.frameMoments functions moment.1

/-- A call whose samples are within one. -/
def EffectCall.Quiet : EffectCall K → Prop
  | .window input _ _ => ∀ frame ∈ input, FrameWithin 1 frame
  | .finish => True

/-- A call that flushes the tail when one is due. -/
def EffectCall.closes : EffectCall K → Bool
  | .window _ _ finalWindow => finalWindow
  | .finish => true

/-- What a call may give: samples within one, and a tail of bounded length. -/
structure ProcessedEffectWindow.Heard (result : ProcessedEffectWindow K) : Prop where
  audio : ∀ frame ∈ result.audio, FrameWithin 1 frame
  tail : ∀ tail ∈ result.tail, (∀ frame ∈ tail, FrameWithin 1 frame) ∧
    tail.length ≤ maxEffectTailFrames

/-! ## Every call is stable -/

variable [IsStrictOrderedRing K]

omit [IsStrictOrderedRing K] in
theorem flushTail_eq (functions : Transcendentals K) (processor : PostSynthesisProcessor K)
    (parameters : EffectiveParameters K) :
    flushTail functions processor parameters =
      ({ (flushFrames functions parameters
            (max echoDelayFrames ((List.ofFn reverbDelays).foldl max 0))
            maxEffectTailFrames 0 0 processor).1 with
          tailActive := false },
        (tailFrames functions processor parameters).rdropWhile isQuiet) := by
  rw [flushTail, tailFrames]

theorem flushTail_stable {functions : Transcendentals K} (lawful : functions.Lawful)
    {processor : PostSynthesisProcessor K} (within : Within processor)
    {parameters : EffectiveParameters K} (valid : Valid parameters) :
    (∀ moment ∈ tailMoments functions processor parameters, moment.Stable functions) ∧
      Within (flushTail functions processor parameters).1 ∧
      (∀ frame ∈ (flushTail functions processor parameters).2, FrameWithin 1 frame) ∧
      (flushTail functions processor parameters).2.length ≤ maxEffectTailFrames := by
  obtain ⟨short, passed⟩ := flushFrames_eq functions parameters
    (max echoDelayFrames ((List.ofFn reverbDelays).foldl max 0)) maxEffectTailFrames 0 0 processor
  obtain ⟨stable, last, heard⟩ := pass_stable lawful within
    (silentInputs_allowed valid (tailFrames functions processor parameters).length)
  unfold tailFrames at stable last heard
  rw [← passed] at last heard
  have kept : (tailFrames functions processor parameters).rdropWhile isQuiet <+:
      tailFrames functions processor parameters := List.rdropWhile_prefix isQuiet _
  rw [flushTail_eq]
  dsimp only
  refine ⟨?_, last.marked false, fun frame member => heard frame (kept.subset member),
    kept.length_le.trans short⟩
  unfold tailMoments
  split
  · exact stable
  · exact nofun

omit [Field K] [LinearOrder K] [FloorRing K] [IsStrictOrderedRing K] in
theorem nonemptyTail_mem {tail given : AudioBuffer K} (member : given ∈ nonemptyTail tail) :
    given = tail := by
  unfold nonemptyTail at member
  split at member
  · exact nomatch member
  · exact (Option.mem_some_iff.mp member).symm

omit [IsStrictOrderedRing K] in
theorem processWindow_eq (functions : Transcendentals K) (processor : PostSynthesisProcessor K)
    (input : AudioBuffer K) (target : PostSynthesisParameters K) (finalWindow : Bool) :
    processWindow functions processor input target finalWindow =
      let passed := windowPassed functions processor input (.ofParameters target)
      let audio := (transduce (processInput functions) processor
        (windowInputs processor.current (.ofParameters target) input)).2
      if finalWindow && passed.tailActive then
        ((flushTail functions passed (.ofParameters target)).1,
          ⟨audio, nonemptyTail (flushTail functions passed (.ofParameters target)).2⟩)
      else (passed, ⟨audio, none⟩) := by
  rw [processWindow, processFrames_eq, endWindow]
  rfl

/-- **A call keeps every bound**, at each frame that it processes. -/
theorem perform_stable {functions : Transcendentals K} (lawful : functions.Lawful)
    {processor : PostSynthesisProcessor K} (within : Within processor) {call : EffectCall K}
    (quiet : call.Quiet) :
    (∀ moment ∈ call.frameMoments functions processor, moment.Stable functions) ∧
      Within (call.perform functions processor).1 ∧
      (call.perform functions processor).2.Heard := by
  cases call with
  | window input target finalWindow =>
      have valid := ofParameters_valid target
      obtain ⟨stable, last, heard⟩ := pass_stable lawful within
        (windowInputs_allowed within.current valid quiet)
      have passed : Within (windowPassed functions processor input (.ofParameters target)) :=
        { last with current := valid }
      obtain ⟨flushing, flushed, tail, short⟩ := flushTail_stable lawful passed valid
      refine ⟨?_, ?_⟩
      · intro moment member
        rw [EffectCall.frameMoments] at member
        rcases List.mem_append.mp member with early | late
        · exact stable moment early
        · split at late
          · exact flushing moment late
          · exact absurd late List.not_mem_nil
      · rw [EffectCall.perform, processWindow_eq]
        dsimp only
        split
        · refine ⟨flushed, heard, ?_⟩
          intro given member
          dsimp only at member
          rw [nonemptyTail_mem member]
          exact ⟨tail, short⟩
        · exact ⟨passed, heard, nofun⟩
  | finish =>
      obtain ⟨flushing, flushed, tail, short⟩ := flushTail_stable lawful within within.current
      refine ⟨flushing, ?_⟩
      rw [EffectCall.perform, PostSynthesisProcessor.finish]
      dsimp only
      split
      · exact ⟨within, nofun, nofun⟩
      · refine ⟨flushed, nofun, ?_⟩
        intro given member
        dsimp only at member
        rw [nonemptyTail_mem member]
        exact ⟨tail, short⟩

omit [FloorRing K] in
theorem new_within : Within (new : PostSynthesisProcessor K) where
  current := ofParameters_valid _
  lowState := zero_within (by norm_num)
  highInput := zero_within (by norm_num)
  highTaken := by
    have silent : FrameWithin (4 : K) (0, 0) := zero_within (by norm_num)
    simpa [new] using silent
  chorus _ := zero_within (by norm_num)
  echo _ := zero_within (by norm_num)
  reverb _ _ := zero_within (by norm_num)

/-! ## No tail without effects -/

/-- A moment at which something audible is fed to the echo or the reverb. -/
def Moment.Feeds (moment : Moment K) : Prop :=
  (quietThreshold < |moment.2.1.1| ∨ quietThreshold < |moment.2.1.2|) ∧
    (0 < moment.2.2.echo ∨ 0 < moment.2.2.reverb)

omit [IsStrictOrderedRing K]

theorem processChorus_tailActive (functions : Transcendentals K)
    (processor : PostSynthesisProcessor K) (frame : Frame K) (amount : K) :
    (processChorus functions processor frame amount).1.tailActive = processor.tailActive := by
  unfold processChorus
  split
  · rfl
  · dsimp only
    split <;> rfl

/-- **Only a frame that feeds an effect makes a tail due.** -/
theorem processInput_tailActive {functions : Transcendentals K}
    {processor : PostSynthesisProcessor K} {input : EffectInput K}
    (idle : processor.tailActive = false) (starved : ¬ Moment.Feeds (processor, input)) :
    (processInput functions processor input).1.tailActive = false := by
  have still : ¬ ((quietThreshold < |input.1.1| ∨ quietThreshold < |input.1.2|) ∧
      (0 < input.2.echo ∨ 0 < input.2.reverb)) := starved
  unfold processInput processFrame
  dsimp only
  rw [if_neg still]
  exact (processChorus_tailActive functions _ _ _).trans idle

theorem pass_tailActive {functions : Transcendentals K} {processor : PostSynthesisProcessor K}
    (idle : processor.tailActive = false) {inputs : List (EffectInput K)}
    (starved : ∀ moment ∈ moments (processInput functions) processor inputs,
      ¬ Moment.Feeds moment) :
    (transduce (processInput functions) processor inputs).1.tailActive = false := by
  induction inputs generalizing processor with
  | nil => exact idle
  | cons input rest ih =>
      rw [moments_cons, List.forall_mem_cons] at starved
      exact ih (processInput_tailActive idle starved.1) starved.2

/-- A call that feeds no effect leaves no tail due, and has none. -/
theorem perform_unfed {functions : Transcendentals K} {processor : PostSynthesisProcessor K}
    (idle : processor.tailActive = false) {call : EffectCall K}
    (starved : ∀ moment ∈ call.frameMoments functions processor, ¬ Moment.Feeds moment) :
    (call.perform functions processor).1.tailActive = false ∧
      (call.perform functions processor).2.tail = none := by
  cases call with
  | window input target finalWindow =>
      have still : (windowPassed functions processor input
          (.ofParameters target)).tailActive = false :=
        pass_tailActive idle fun moment member => starved moment (List.mem_append_left _ member)
      rw [EffectCall.perform, processWindow_eq]
      dsimp only
      have open' : (finalWindow && (windowPassed functions processor input
          (.ofParameters target)).tailActive) = false := by
        rw [still, Bool.and_false]
      rw [if_neg (by rw [Bool.not_eq_true]; exact open')]
      exact ⟨still, rfl⟩
  | finish =>
      rw [EffectCall.perform, PostSynthesisProcessor.finish, if_pos (by rw [idle]; rfl)]
      exact ⟨idle, rfl⟩

/-- After a call that closes, no tail is due. -/
theorem perform_closes (functions : Transcendentals K) (processor : PostSynthesisProcessor K)
    {call : EffectCall K} (closes : call.closes = true) :
    (call.perform functions processor).1.tailActive = false := by
  cases call with
  | window input target finalWindow =>
      change finalWindow = true at closes
      rw [EffectCall.perform, processWindow_eq, closes]
      dsimp only
      rw [Bool.true_and]
      split
      · rfl
      · rename_i idle
        exact Bool.not_eq_true _ |>.mp idle
  | finish =>
      rw [EffectCall.perform, PostSynthesisProcessor.finish]
      split
      · rename_i idle
        exact Bool.not_eq_true' _ |>.mp idle
      · rfl

/-- **A run that feeds no effect has no tail.** -/
theorem run_unfed {functions : Transcendentals K} {processor : PostSynthesisProcessor K}
    (idle : processor.tailActive = false) {calls : List (EffectCall K)}
    (starved : ∀ moment ∈ runMoments functions processor calls, ¬ Moment.Feeds moment) :
    ∀ result ∈ (runEffects functions processor calls).2, result.tail = none := by
  induction calls generalizing processor with
  | nil => exact nofun
  | cons call rest ih =>
      unfold runMoments at starved ih
      rw [moments_cons, List.flatMap_cons] at starved
      obtain ⟨still, none⟩ := perform_unfed idle fun moment member =>
        starved moment (List.mem_append_left _ member)
      rw [runEffects, transduce_cons]
      exact List.forall_mem_cons.mpr ⟨none, ih still fun moment member =>
        starved moment (List.mem_append_right _ member)⟩

/-- No tail is due at the start, nor after a call that closed. -/
theorem run_idle (functions : Transcendentals K) {calls : List (EffectCall K)}
    (closed : ∀ call ∈ calls.getLast?, call.closes = true) :
    (runEffects functions new calls).1.tailActive = false := by
  rcases List.eq_nil_or_concat calls with rfl | ⟨rest, call, rfl⟩
  · rfl
  · rw [List.concat_eq_append] at closed ⊢
    have last : call.closes = true := closed call (by simp)
    rw [runEffects, transduce_append]
    exact perform_closes functions _ last

/-- **The effects are stable.** From a new processor on, whatever windows with samples
within one are passed and whenever the tail is finished: every state that a frame meets
or leaves is within its bounds, the chorus reads inside its line, and everything heard
is within one. A tail has a bounded length. There is none when nothing audible was fed
to an effect since the start, or since a call that closed. -/
theorem post_synthesis_stable [IsStrictOrderedRing K] {functions : Transcendentals K}
    (lawful : functions.Lawful) {calls : List (EffectCall K)}
    (quiet : ∀ call ∈ calls, call.Quiet) :
    (∀ moment ∈ runMoments functions new calls, Moment.Stable functions moment) ∧
      Within (runEffects functions new calls).1 ∧
      (∀ result ∈ (runEffects functions new calls).2, result.Heard) ∧
      ∀ before since, calls = before ++ since →
        (∀ call ∈ before.getLast?, call.closes = true) →
        (∀ moment ∈ runMoments functions (runEffects functions new before).1 since,
          ¬ Moment.Feeds moment) →
        ∀ result ∈ (runEffects functions (runEffects functions new before).1 since).2,
          result.tail = none := by
  have keeps : ∀ state (call : EffectCall K), Within state → call.Quiet →
      Within (call.perform functions state).1 ∧ (call.perform functions state).2.Heard :=
    fun state call within silent => (perform_stable lawful within silent).2
  obtain ⟨last, heard⟩ := transduce_keeps (EffectCall.perform functions) keeps new_within quiet
  refine ⟨?_, last, heard, fun before since _ closed starved =>
    run_unfed (run_idle functions closed) starved⟩
  intro moment member
  obtain ⟨call, met, inside⟩ := List.mem_flatMap.mp member
  obtain ⟨within, silent⟩ := moments_keep (EffectCall.perform functions)
    (fun state call start good => (keeps state call start good).1) new_within quiet call met
  exact (perform_stable lawful within silent).1 moment inside

/-- The functions of the reals are as asked. -/
theorem realFunctions_lawful : realFunctions.Lawful where
  pi := Real.pi_pos
  exp x negative := ⟨Real.exp_pos x, Real.exp_le_one_iff.mpr negative⟩
  sin := Real.abs_sin_le_one

/-- A loud frame with echo, whose tail is flushed with it. -/
noncomputable def echoed : List (EffectCall ℝ) :=
  [.window [(1, -1)] { PostSynthesisParameters.default with echo := 1 } true, .finish]

theorem post_synthesis_stable_echoed :
    (∀ moment ∈ runMoments realFunctions new echoed, Moment.Stable realFunctions moment) ∧
      ∀ result ∈ (runEffects realFunctions new echoed).2, result.Heard := by
  have quiet : ∀ call ∈ echoed, call.Quiet := by
    intro call member
    simp only [echoed, List.mem_cons, List.not_mem_nil, or_false] at member
    rcases member with rfl | rfl
    · intro frame inside
      rw [List.mem_singleton.mp inside]
      exact ⟨by norm_num, by norm_num⟩
    · trivial
  have stable := post_synthesis_stable realFunctions_lawful quiet
  exact ⟨stable.1, stable.2.2.1⟩

end Calls

end Omnivox.Audio
