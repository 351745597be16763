import Mathlib
import Omnivox.Audio.ProgressivePcm

/-!
# Native callback boundaries are invisible

The state of the converter between two pushes is a function of the samples
pushed so far, however they were cut: the resampler has seen their complete
windows, and the rest is pending (`heldState`). At the canonical rate there is no
resampler, and the samples have passed through (`passState`).
-/

set_option autoImplicit false

namespace Omnivox.Audio

open Foundations

variable {R F : Type}

/-! ## Channels of frames -/

section

variable [Inhabited F]

/-- The samples of each channel, of a list of native frames. -/
def channelsOf (channels : Nat) (frames : List (List F)) : List (List F) :=
  (List.range channels).map fun index => frames.map fun frame => frame.getD index default

theorem channelsOf_nil (channels : Nat) :
    channelsOf channels ([] : List (List F)) = List.replicate channels [] := by
  simp only [channelsOf, List.map_nil, List.map_const', List.length_range]

/-- The first channel has a sample for each frame. -/
theorem channelsOf_head_length {channels : Nat} (positive : 0 < channels)
    (frames : List (List F)) : ((channelsOf channels frames).headD []).length = frames.length := by
  obtain ⟨fewer, rfl⟩ := Nat.exists_eq_succ_of_ne_zero (Nat.pos_iff_ne_zero.mp positive)
  rw [channelsOf, List.range_succ_eq_map, List.map_cons, List.headD_cons, List.length_map]

theorem channelsOf_slice (channels start count : Nat) (frames : List (List F)) :
    (channelsOf channels frames).map (fun channel => (channel.drop start).take count) =
      channelsOf channels ((frames.drop start).take count) := by
  simp only [channelsOf, List.map_map, List.map_take, List.map_drop, Function.comp_def]

theorem channelsOf_drop (channels start : Nat) (frames : List (List F)) :
    (channelsOf channels frames).map (fun channel => channel.drop start) =
      channelsOf channels (frames.drop start) := by
  simp only [channelsOf, List.map_map, List.map_drop, Function.comp_def]

/-- Pushing one frame extends every channel by its sample. -/
theorem channelsOf_push {channels : Nat} (frames : List (List F)) {frame : List F}
    (whole : frame.length = channels) :
    List.zipWith (fun channel sample => channel ++ [sample]) (channelsOf channels frames) frame =
      channelsOf channels (frames ++ [frame]) := by
  apply List.ext_getElem
  · rw [List.length_zipWith, channelsOf, channelsOf, List.length_map, List.length_map,
      List.length_range, whole, Nat.min_self]
  · intro index below _
    rw [List.length_zipWith] at below
    have inFrame : index < frame.length := Nat.lt_of_lt_of_le below (Nat.min_le_right _ _)
    simp [channelsOf, List.getElem?_eq_getElem inFrame]

theorem channelsOf_pushes {channels : Nat} (frames more : List (List F))
    (whole : ∀ frame ∈ more, frame.length = channels) :
    more.foldl (fun held frame => List.zipWith (fun channel sample => channel ++ [sample]) held frame)
        (channelsOf channels frames) = channelsOf channels (frames ++ more) := by
  induction more generalizing frames with
  | nil => rw [List.foldl_nil, List.append_nil]
  | cons frame rest ih =>
      rw [List.foldl_cons, channelsOf_push frames (whole frame List.mem_cons_self),
        ih _ fun other member => whole other (List.mem_cons_of_mem _ member), List.append_assoc,
        List.singleton_append]

end

/-! ## Complete windows -/

variable [Resampler R F]

/-- One complete window, on the resampler and the output count alone. -/
def convertWindow (channels : Nat) (core : R × Nat) (input : List (List F)) :
    Outcome (R × Nat) AudioError (List (AudioBuffer F)) :=
  let answer := Resampler.process core.1 input
  match answer.2 with
  | .error error => ((answer.1, core.2), .error (resamplingError error))
  | .ok output =>
      match collectFrames channels core.2 output none with
      | .error e => ((answer.1, core.2), .error e)
      | .ok collected => ((answer.1, collected.1), .ok collected.2)

omit [Resampler R F] in
/-- The converter with the given resampler and output count. -/
def ProgressivePcmCanonicalizer.withCore (converter : ProgressivePcmCanonicalizer R F)
    (core : R × Nat) : ProgressivePcmCanonicalizer R F :=
  { converter with
    resampler := some core.1
    outputFrames := core.2 }

/-- The calls on a run of complete windows. -/
def convertWindows [Inhabited F] (channels : Nat) (core : R × Nat) (frames : List (List F)) :
    Outcome (R × Nat) AudioError (List (AudioBuffer F)) :=
  runAll (convertWindow channels) core
    ((chunksExact inputWindowFrames frames).map (channelsOf channels))

theorem inputWindowFrames_pos : 0 < inputWindowFrames := by decide

/-- Without a complete window there is no call. -/
theorem convertWindows_of_lt [Inhabited F] (channels : Nat) (core : R × Nat)
    {frames : List (List F)} (short : frames.length < inputWindowFrames) :
    convertWindows channels core frames = (core, .ok []) := by
  rw [convertWindows, chunksExact_of_lt short]
  rfl

theorem convertWindows_of_le [Inhabited F] (channels : Nat) (core : R × Nat)
    {frames : List (List F)} (full : inputWindowFrames ≤ frames.length) :
    convertWindows channels core frames =
      andThen (convertWindow channels core (channelsOf channels (frames.take inputWindowFrames)))
        fun core first =>
          andThen (convertWindows channels core (frames.drop inputWindowFrames))
            fun core others => (core, .ok (first ++ others)) := by
  rw [convertWindows, chunksExact_of_le inputWindowFrames_pos full]
  rfl

/-- One turn of the loop is one complete window. -/
theorem call_collect_eq (converter : ProgressivePcmCanonicalizer R F) (core : R × Nat)
    (input : List (List F)) (windows : List (AudioBuffer F)) :
    andThen ((converter.withCore core).call fun resampler => Resampler.process resampler input)
        (fun converter output => converter.collectOutput output none windows) =
      ((converter.withCore (convertWindow converter.sourceChannels core input).1),
        (convertWindow converter.sourceChannels core input).2.map (windows ++ ·)) := by
  unfold convertWindow ProgressivePcmCanonicalizer.call
  dsimp only [ProgressivePcmCanonicalizer.withCore]
  cases (Resampler.process core.1 input).2 with
  | error error => rfl
  | ok output =>
      simp only [Except.mapError, andThen_ok, ProgressivePcmCanonicalizer.collectOutput]
      cases collectFrames converter.sourceChannels core.2 output none <;> rfl

/-- The loop makes the calls of the complete windows behind its cursor. -/
theorem drainWindows_eq [Inhabited F] (converter : ProgressivePcmCanonicalizer R F)
    {frames : List (List F)} (positive : 0 < converter.sourceChannels)
    (pending : converter.pendingChannels = channelsOf converter.sourceChannels frames)
    (fuel : Nat) (core : R × Nat) (consumed : Nat) (windows : List (AudioBuffer F))
    (enough : frames.length - consumed ≤ fuel) :
    (converter.withCore core).drainWindows fuel consumed windows =
      (converter.withCore (convertWindows converter.sourceChannels core (frames.drop consumed)).1,
        (convertWindows converter.sourceChannels core (frames.drop consumed)).2.map fun output =>
          (windows ++ output,
            consumed + (frames.drop consumed).length / inputWindowFrames * inputWindowFrames)) := by
  have head : (converter.pendingChannels.headD []).length = frames.length := by
    rw [pending, channelsOf_head_length positive]
  have ended : ∀ fuel core windows consumed, (frames.drop consumed).length < inputWindowFrames →
      (converter.withCore core).drainWindows fuel consumed windows =
        (converter.withCore core, .ok (windows, consumed)) := by
    intro fuel core windows consumed short
    cases fuel with
    | zero => rfl
    | succ fuel =>
        rw [List.length_drop] at short
        have stop : ¬ (converter.pendingChannels.headD []).length - consumed ≥ inputWindowFrames := by
          rw [head]
          exact Nat.not_le_of_gt short
        exact if_neg stop
  induction fuel generalizing core consumed windows with
  | zero =>
      have short : (frames.drop consumed).length < inputWindowFrames := by
        rw [List.length_drop]
        exact Nat.lt_of_le_of_lt enough inputWindowFrames_pos
      rw [ended _ _ _ _ short, convertWindows_of_lt _ _ short, Nat.div_eq_of_lt short]
      simp [Except.map]
  | succ fuel ih =>
      rcases Nat.lt_or_ge (frames.drop consumed).length inputWindowFrames with short | full
      · rw [ended _ _ _ _ short, convertWindows_of_lt _ _ short, Nat.div_eq_of_lt short]
        simp [Except.map]
      · have turn : (converter.pendingChannels.headD []).length - consumed ≥ inputWindowFrames := by
          rw [head, ← List.length_drop]
          exact full
        have slice : converter.pendingChannels.map
            (fun channel => (channel.drop consumed).take inputWindowFrames) =
            channelsOf converter.sourceChannels ((frames.drop consumed).take inputWindowFrames) := by
          rw [pending, channelsOf_slice]
        have positiveWindow := inputWindowFrames_pos
        have fuelLeft : frames.length - (consumed + inputWindowFrames) ≤ fuel := by omega
        have count : (frames.drop consumed).length / inputWindowFrames =
            (frames.drop (consumed + inputWindowFrames)).length / inputWindowFrames + 1 := by
          rw [List.length_drop] at full
          rw [List.length_drop, List.length_drop, ← Nat.sub_sub]
          exact Nat.div_eq_sub_div inputWindowFrames_pos full
        have step := call_collect_eq converter core
          (channelsOf converter.sourceChannels ((frames.drop consumed).take inputWindowFrames))
          windows
        have unfolded : (converter.withCore core).drainWindows (fuel + 1) consumed windows =
            andThen (andThen ((converter.withCore core).call fun resampler =>
                Resampler.process resampler (channelsOf converter.sourceChannels
                  ((frames.drop consumed).take inputWindowFrames)))
              fun converter output => converter.collectOutput output none windows)
              fun next windows => next.drainWindows fuel (consumed + inputWindowFrames) windows := by
          rw [andThen_assoc, ← slice]
          exact if_pos turn
        rw [unfolded, step, convertWindows_of_le _ _ full, List.drop_drop, count]
        obtain ⟨middle, answer⟩ := convertWindow converter.sourceChannels core
          (channelsOf converter.sourceChannels ((frames.drop consumed).take inputWindowFrames))
        cases answer with
        | error e => rfl
        | ok first =>
            simp only [Except.map, andThen_ok]
            rw [ih middle _ _ fuelLeft]
            obtain ⟨final, answer⟩ := convertWindows converter.sourceChannels middle
              (frames.drop (consumed + inputWindowFrames))
            cases answer with
            | error e => rfl
            | ok others =>
                simp only [Except.map, andThen_ok, List.append_assoc, Nat.succ_mul,
                  Nat.add_assoc, Nat.add_comm inputWindowFrames]

/-- **Complete windows.** Their calls are made and the rest stays pending. -/
theorem processCompleteWindows_eq [Inhabited F] (converter : ProgressivePcmCanonicalizer R F)
    {frames : List (List F)} (positive : 0 < converter.sourceChannels)
    (pending : converter.pendingChannels = channelsOf converter.sourceChannels frames)
    (core : R × Nat) :
    (∃ final output, convertWindows converter.sourceChannels core frames = (final, .ok output) ∧
      (converter.withCore core).processCompleteWindows =
        ({ converter.withCore final with
          pendingChannels :=
            channelsOf converter.sourceChannels (chunkRest inputWindowFrames frames) },
          .ok output)) ∨
    (∃ final e, convertWindows converter.sourceChannels core frames = (final, .error e) ∧
      (converter.withCore core).processCompleteWindows = (converter.withCore final, .error e)) := by
  have head : ((converter.withCore core).pendingChannels.headD []).length = frames.length := by
    change (converter.pendingChannels.headD []).length = frames.length
    rw [pending, channelsOf_head_length positive]
  have drained := drainWindows_eq converter positive pending frames.length core 0 []
    (Nat.sub_le _ _)
  rw [List.drop_zero, Nat.zero_add] at drained
  unfold ProgressivePcmCanonicalizer.processCompleteWindows
  rw [head, drained]
  obtain ⟨final, answer⟩ := convertWindows converter.sourceChannels core frames
  cases answer with
  | error e => exact Or.inr ⟨final, e, rfl, rfl⟩
  | ok output =>
      refine Or.inl ⟨final, output, rfl, ?_⟩
      simp only [Except.map, andThen_ok, List.nil_append]
      split
      · rw [chunkRest, ← channelsOf_drop, ← pending]
        rfl
      · rename_i nothing
        have none : frames.length / inputWindowFrames * inputWindowFrames = 0 := by omega
        rw [chunkRest, none, List.drop_zero, ← pending]
        rfl

/-- The calls on a stream: those on its beginning, then those on its rest with
what follows. -/
theorem convertWindows_append [Inhabited F] (channels : Nat) (core : R × Nat)
    (first second : List (List F)) :
    convertWindows channels core (first ++ second) =
      andThen (convertWindows channels core first) fun core output =>
        andThen (convertWindows channels core (chunkRest inputWindowFrames first ++ second))
          fun core others => (core, .ok (output ++ others)) := by
  rw [convertWindows, chunksExact_append inputWindowFrames_pos, List.map_append, runAll_append]
  rfl

/-! ## Resampled audio -/

section Resampled

variable [Inhabited F] {sampleRate channels : Nat}

variable (sampleRate channels) in
omit [Resampler R F] in
/-- **The state after the given samples**, however they were cut. -/
def heldState (core : R × Nat) (samples : List F) : ProgressivePcmCanonicalizer R F where
  sourceSampleRate := sampleRate
  sourceChannels := channels
  resampler := some core.1
  pendingChannels :=
    channelsOf channels (chunkRest inputWindowFrames (chunksExact channels samples))
  sourceFrames := samples.length / channels
  outputFrames := core.2
  finished := false

variable (sampleRate channels) in
/-- The answer to some pushes is the answer of the resampler to the windows they
complete. -/
def AnswersWindows (core : R × Nat) (before : List F) (pushed : List F)
    (answer : Outcome (ProgressivePcmCanonicalizer R F) AudioError (List (AudioBuffer F))) : Prop :=
  (∃ final output,
    convertWindows channels core (chunkRest inputWindowFrames (chunksExact channels before) ++
      chunksExact channels pushed) = (final, .ok output) ∧
    answer = (heldState sampleRate channels final (before ++ pushed), .ok output)) ∨
  (∃ final e,
    convertWindows channels core (chunkRest inputWindowFrames (chunksExact channels before) ++
      chunksExact channels pushed) = (final, .error e) ∧
    answer.2 = .error e ∧ answer.1.resampler = some final.1)

variable (positive : 0 < channels)
include positive

/-- Nothing pushed completes no window. -/
theorem convertWindows_nothing (core : R × Nat) (before : List F) :
    convertWindows channels core
      (chunkRest inputWindowFrames (chunksExact channels before) ++ chunksExact channels []) =
        (core, .ok []) := by
  rw [chunksExact_of_lt (l := []) positive, List.append_nil]
  exact convertWindows_of_lt _ _ (chunkRest_length_lt inputWindowFrames_pos _)

/-- **One push** of aligned samples. -/
theorem pushInterleaved_held (core : R × Nat) {before pushed : List F}
    (alignedBefore : before.length % channels = 0) (aligned : pushed.length % channels = 0)
    (inRange : (before ++ pushed).length / channels ≤ u64Max) :
    AnswersWindows sampleRate channels core before pushed
      ((heldState sampleRate channels core before).pushInterleaved pushed) := by
  cases filled : pushed.isEmpty with
  | true =>
      obtain rfl := List.isEmpty_iff.mp filled
      refine Or.inl ⟨core, [], convertWindows_nothing positive core before, ?_⟩
      rw [List.append_nil]
      rfl
  | false =>
      have counted : (before ++ pushed).length / channels =
          before.length / channels + pushed.length / channels := by
        rw [List.length_append]
        exact Nat.add_div_of_dvd_right (Nat.dvd_of_mod_eq_zero alignedBefore)
      have added : checkedAdd u64Max (before.length / channels) (pushed.length / channels) =
          some ((before ++ pushed).length / channels) := by
        rw [counted] at inRange ⊢
        exact checkedAdd_of_le inRange
      have pending : (chunksExact channels pushed).foldl
          (fun held frame => List.zipWith (fun channel sample => channel ++ [sample]) held frame)
          (channelsOf channels (chunkRest inputWindowFrames (chunksExact channels before))) =
          channelsOf channels (chunkRest inputWindowFrames (chunksExact channels before) ++
            chunksExact channels pushed) :=
        channelsOf_pushes _ _ fun frame member => length_of_mem_chunksExact member
      have rest : chunkRest inputWindowFrames
          (chunkRest inputWindowFrames (chunksExact channels before) ++
            chunksExact channels pushed) =
          chunkRest inputWindowFrames (chunksExact channels (before ++ pushed)) := by
        rw [← chunkRest_append inputWindowFrames_pos,
          chunksExact_append_of_aligned positive alignedBefore]
      let pushedState : ProgressivePcmCanonicalizer R F :=
        { heldState sampleRate channels core before with
          sourceFrames := (before ++ pushed).length / channels
          pendingChannels :=
            channelsOf channels (chunkRest inputWindowFrames (chunksExact channels before) ++
              chunksExact channels pushed) }
      have push : (heldState sampleRate channels core before).pushInterleaved pushed =
          (pushedState.withCore core).processCompleteWindows := by
        simp only [ProgressivePcmCanonicalizer.pushInterleaved, heldState, filled, aligned, added,
          pending, Bool.false_eq_true, if_false, bne_self_eq_false]
        rfl
      rw [push]
      rcases processCompleteWindows_eq pushedState positive rfl core with
        ⟨final, output, windows, done⟩ | ⟨final, e, windows, done⟩
      · refine Or.inl ⟨final, output, windows, ?_⟩
        rw [done, rest]
        rfl
      · refine Or.inr ⟨final, e, windows, ?_, ?_⟩
        · rw [done]
        · rw [done]
          rfl

/-- **All pushes.** -/
theorem runAll_pushInterleaved_held (core : R × Nat) {before : List F} (pieces : List (List F))
    (alignedBefore : before.length % channels = 0)
    (aligned : ∀ piece ∈ pieces, piece.length % channels = 0)
    (inRange : (before ++ pieces.flatten).length / channels ≤ u64Max) :
    AnswersWindows sampleRate channels core before pieces.flatten
      (runAll ProgressivePcmCanonicalizer.pushInterleaved
        (heldState sampleRate channels core before) pieces) := by
  induction pieces generalizing core before with
  | nil =>
      refine Or.inl ⟨core, [], convertWindows_nothing positive core before, ?_⟩
      rw [List.flatten_nil, List.append_nil]
      rfl
  | cons piece rest ih =>
      rw [List.flatten_cons, ← List.append_assoc] at inRange
      have alignedPiece := aligned piece List.mem_cons_self
      have alignedBoth : (before ++ piece).length % channels = 0 := by
        rw [List.length_append, Nat.add_mod, alignedBefore, alignedPiece]
        rfl
      have firstRange : (before ++ piece).length / channels ≤ u64Max := by
        exact Nat.le_trans (Nat.div_le_div_right (List.sublist_append_left _ _).length_le) inRange
      have windows : convertWindows channels core
          (chunkRest inputWindowFrames (chunksExact channels before) ++
            chunksExact channels (piece :: rest).flatten) =
          andThen (convertWindows channels core
              (chunkRest inputWindowFrames (chunksExact channels before) ++
                chunksExact channels piece))
            fun core output =>
              andThen (convertWindows channels core
                  (chunkRest inputWindowFrames (chunksExact channels (before ++ piece)) ++
                    chunksExact channels rest.flatten))
                fun core others => (core, .ok (output ++ others)) := by
        rw [List.flatten_cons, chunksExact_append_of_aligned positive alignedPiece,
          ← List.append_assoc, convertWindows_append,
          ← chunkRest_append inputWindowFrames_pos,
          ← chunksExact_append_of_aligned positive alignedBefore]
      have push : AnswersWindows sampleRate channels core before piece _ :=
        pushInterleaved_held positive core alignedBefore alignedPiece firstRange
      rcases push with ⟨middle, output, first, pushed⟩ | ⟨middle, e, first, failed, kept⟩
      · have further := ih middle alignedBoth
          (fun other member => aligned other (List.mem_cons_of_mem _ member)) inRange
        rcases further with ⟨final, others, second, done⟩ | ⟨final, e, second, failed, kept⟩
        · refine Or.inl ⟨final, output ++ others, ?_, ?_⟩
          · rw [windows, first, andThen_ok, second, andThen_ok]
          · rw [runAll, pushed, andThen_ok, done, andThen_ok, List.flatten_cons, List.append_assoc]
        · refine Or.inr ⟨final, e, ?_, ?_, ?_⟩
          · rw [windows, first, andThen_ok, second, andThen_error]
          · rw [runAll, pushed, andThen_ok, andThen_of_error failed]
          · rw [runAll, pushed, andThen_ok, andThen_of_error failed]
            exact kept
      · refine Or.inr ⟨middle, e, ?_, ?_, ?_⟩
        · rw [windows, first, andThen_error]
        · rw [runAll, andThen_of_error failed]
        · rw [runAll, andThen_of_error failed]
          exact kept

omit [Resampler R F] [Inhabited F] in
/-- Nothing is pending before the first push. -/
theorem chunkRest_start : chunkRest inputWindowFrames (chunksExact channels ([] : List F)) = [] := by
  rw [chunksExact_of_lt (l := []) positive]
  exact chunkRest_of_lt inputWindowFrames_pos

/-- **All pushes on a new converter.** They succeed with what the resampler makes
of all complete windows, or fail where it fails. -/
theorem pushes_resampled (sampleRate : Nat) (resampler : R) {pieces : List (List F)}
    (aligned : ∀ piece ∈ pieces, piece.length % channels = 0)
    (inRange : pieces.flatten.length / channels ≤ u64Max) :
    let pushes := runAll ProgressivePcmCanonicalizer.pushInterleaved
      (heldState sampleRate channels (resampler, 0) []) pieces
    let windows := convertWindows channels (resampler, 0) (chunksExact channels pieces.flatten)
    (∃ final output, windows = (final, .ok output) ∧
      pushes = (heldState sampleRate channels final pieces.flatten, .ok output)) ∨
    (∃ final e, windows = (final, .error e) ∧ pushes.2 = .error e ∧
      pushes.1.resampler = some final.1) := by
  rw [← List.nil_append pieces.flatten] at inRange
  have answers : AnswersWindows sampleRate channels (resampler, 0) [] pieces.flatten _ :=
    runAll_pushInterleaved_held positive (resampler, 0) pieces (Nat.zero_mod _) aligned inRange
  unfold AnswersWindows at answers
  rw [chunkRest_start positive, List.nil_append, List.nil_append] at answers
  exact answers

end Resampled

/-! ## Audio at the canonical rate -/

section PassThrough

variable {channels : Nat} (supported : channels = 1 ∨ channels = channelCount)
include supported

theorem tryFromInterleaved_eq {samples : List F} (aligned : samples.length % channels = 0) :
    tryFromInterleaved samples channels = .ok (stereoFrames channels samples) := by
  have format : (channels == 1 || channels == channelCount) = true := by
    rcases supported with rfl | rfl <;> rfl
  have whole : (samples.length % channels == 0) = true := beq_iff_eq.mpr aligned
  refine bind_eq_ok.mpr ⟨(), ensure_eq_ok.mpr format, ?_⟩
  exact bind_eq_ok.mpr ⟨(), ensure_eq_ok.mpr whole, rfl⟩

theorem stereoFrames_append {first : List F} (aligned : first.length % channels = 0)
    (second : List F) :
    stereoFrames channels (first ++ second) =
      stereoFrames channels first ++ stereoFrames channels second := by
  unfold stereoFrames
  rcases supported with rfl | rfl
  · simp [channelCount]
  · rw [if_pos (by rfl), if_pos (by rfl), if_pos (by rfl),
      chunksExact_append_of_aligned (by decide) aligned, List.filterMap_append]

omit supported in
/-- Whole stereo frames are all kept. -/
theorem filterMap_stereoFrame_length {frames : List (List F)}
    (whole : ∀ frame ∈ frames, frame.length = channelCount) :
    (frames.filterMap stereoFrame).length = frames.length := by
  induction frames with
  | nil => rfl
  | cons frame rest ih =>
      have tail := ih fun other member => whole other (List.mem_cons_of_mem _ member)
      obtain ⟨left, right, rfl⟩ := List.length_eq_two.mp (whole frame List.mem_cons_self)
      have kept : stereoFrame [left, right] = some (left, right) := rfl
      rw [List.filterMap_cons_some kept, List.length_cons, List.length_cons, tail]

theorem stereoFrames_length (samples : List F) :
    (stereoFrames channels samples).length = samples.length / channels := by
  unfold stereoFrames
  rcases supported with rfl | rfl
  · simp [channelCount]
  · rw [if_pos (by rfl), filterMap_stereoFrame_length fun frame => length_of_mem_chunksExact,
      chunksExact_length]

/-- The state at the canonical rate, after the given samples. -/
def passState (channels : Nat) (samples : List F) : ProgressivePcmCanonicalizer R F where
  sourceSampleRate := sampleRate
  sourceChannels := channels
  resampler := none
  pendingChannels := List.replicate channels []
  sourceFrames := samples.length / channels
  outputFrames := samples.length / channels
  finished := false

/-- **One push** passes aligned samples through. -/
theorem pushInterleaved_pass {before pushed : List F}
    (alignedBefore : before.length % channels = 0) (aligned : pushed.length % channels = 0)
    (inRange : (before ++ pushed).length / channels ≤ u64Max) :
    ∃ windows, (passState channels before : ProgressivePcmCanonicalizer R F).pushInterleaved pushed =
        (passState channels (before ++ pushed), .ok windows) ∧
      windows.flatten = stereoFrames channels pushed := by
  cases filled : pushed.isEmpty with
  | true =>
      obtain rfl := List.isEmpty_iff.mp filled
      refine ⟨[], ?_, ?_⟩
      · rw [List.append_nil]
        rfl
      · refine (List.length_eq_zero_iff.mp ?_).symm
        rw [stereoFrames_length supported]
        exact Nat.zero_div _
  | false =>
      have counted : (before ++ pushed).length / channels =
          before.length / channels + pushed.length / channels := by
        rw [List.length_append]
        exact Nat.add_div_of_dvd_right (Nat.dvd_of_mod_eq_zero alignedBefore)
      have added : checkedAdd u64Max (before.length / channels) (pushed.length / channels) =
          some ((before ++ pushed).length / channels) := by
        rw [counted] at inRange ⊢
        exact checkedAdd_of_le inRange
      refine ⟨[stereoFrames channels pushed], ?_, List.append_nil _⟩
      simp only [ProgressivePcmCanonicalizer.pushInterleaved, passState, filled, aligned, added,
        tryFromInterleaved_eq supported aligned, stereoFrames_length supported,
        Bool.false_eq_true, if_false, bne_self_eq_false]

/-- **All pushes.** -/
theorem runAll_pushInterleaved_pass {before : List F} (pieces : List (List F))
    (alignedBefore : before.length % channels = 0)
    (aligned : ∀ piece ∈ pieces, piece.length % channels = 0)
    (inRange : (before ++ pieces.flatten).length / channels ≤ u64Max) :
    ∃ windows, runAll ProgressivePcmCanonicalizer.pushInterleaved
        (passState channels before : ProgressivePcmCanonicalizer R F) pieces =
        (passState channels (before ++ pieces.flatten), .ok windows) ∧
      windows.flatten = stereoFrames channels pieces.flatten := by
  induction pieces generalizing before with
  | nil =>
      refine ⟨[], ?_, ?_⟩
      · rw [List.flatten_nil, List.append_nil]
        rfl
      · refine (List.length_eq_zero_iff.mp ?_).symm
        rw [stereoFrames_length supported]
        exact Nat.zero_div _
  | cons piece rest ih =>
      rw [List.flatten_cons, ← List.append_assoc] at inRange ⊢
      have alignedPiece := aligned piece List.mem_cons_self
      have alignedBoth : (before ++ piece).length % channels = 0 := by
        rw [List.length_append, Nat.add_mod, alignedBefore, alignedPiece]
        rfl
      have firstRange : (before ++ piece).length / channels ≤ u64Max :=
        Nat.le_trans (Nat.div_le_div_right (List.sublist_append_left _ _).length_le) inRange
      obtain ⟨output, pushed, first⟩ :=
        pushInterleaved_pass (R := R) supported alignedBefore alignedPiece firstRange
      obtain ⟨others, run, second⟩ := ih alignedBoth
        (fun other member => aligned other (List.mem_cons_of_mem _ member)) inRange
      refine ⟨output ++ others, ?_, ?_⟩
      · rw [runAll, pushed, andThen_ok, run, andThen_ok]
      · rw [List.flatten_append, first, second, stereoFrames_append supported alignedPiece]

/-- **All pushes on a new converter** pass their samples through. -/
theorem pushes_pass {pieces : List (List F)}
    (aligned : ∀ piece ∈ pieces, piece.length % channels = 0)
    (inRange : pieces.flatten.length / channels ≤ u64Max) :
    ∃ windows, runAll ProgressivePcmCanonicalizer.pushInterleaved
        (passState channels [] : ProgressivePcmCanonicalizer R F) pieces =
        (passState channels pieces.flatten, .ok windows) ∧
      windows.flatten = stereoFrames channels pieces.flatten := by
  rw [← List.nil_append pieces.flatten] at inRange
  have run := runAll_pushInterleaved_pass (R := R) supported pieces (Nat.zero_mod _) aligned inRange
  rwa [List.nil_append] at run

end PassThrough

end Omnivox.Audio
