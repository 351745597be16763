import Mathlib
import Omnivox.Audio.SilenceTrimmer

/-!
# Buffered and progressive trimming compared

Both trimmers are described by the bracket of the audible frames: leading
silence, the sounding middle, trailing silence. Both keep the last padded frames
of the leading silence and the whole middle. They part at the end, where the
buffered trimmer keeps the first padded frames of the trailing silence and the
progressive one keeps the last.

So they always agree on the report, and they agree on the samples exactly when
the two ends of the trailing silence are the same frames
(`trimWindows_eq_iff`). Silence below the threshold need not be zero, so that is
not always the case (`trimWindows_differs`).
-/

set_option autoImplicit false

namespace Omnivox.Audio

open Foundations

variable {F : Type*} [TrimmedSample F]

/-! ## The buffered trimmer -/

/-- Nothing is left of a silent buffer. -/
theorem processWithReport_of_silent (trimmer : SilenceTrimmer F) {buffer : AudioBuffer F}
    (silent : Unmarked (audibleFrame trimmer.threshold) buffer) :
    trimmer.processWithReport buffer = ([], ⟨buffer.length, 0, buffer.length, 0⟩) := by
  unfold SilenceTrimmer.processWithReport
  cases buffer with
  | nil => rfl
  | cons frame rest =>
      have none := silent.find_none (List.range (frame :: rest).length)
      simp only [List.isEmpty_cons, Bool.false_eq_true, if_false, none]

omit [TrimmedSample F] in
/-- The part of three joined lists from inside the first to inside the third. -/
theorem slice_append (front middle back : List (Frame F)) {start : Nat} (extra : Nat)
    (inFront : start ≤ front.length) :
    ((front ++ middle ++ back).drop start).take (front.length + middle.length + extra - start) =
      front.drop start ++ middle ++ back.take extra := by
  have length : front.length + middle.length + extra - start =
      (front.drop start ++ middle).length + extra := by
    rw [List.length_append, List.length_drop]
    omega
  rw [List.append_assoc, List.drop_append_of_le_length inFront, ← List.append_assoc, length,
    List.take_length_add_append]

/-- **The buffered trimmer.** It keeps the end of the leading silence, the
middle, and the beginning of the trailing silence. -/
theorem processWithReport_of_bracketed (trimmer : SilenceTrimmer F)
    {front middle back : List (Frame F)}
    (bracket : Bracketed (audibleFrame trimmer.threshold) front middle back)
    (inRange : (front ++ middle ++ back).length ≤ usizeMax) :
    trimmer.processWithReport (front ++ middle ++ back) =
      (front.rtake (paddingFrames trimmer.leadingPaddingSecs) ++ middle ++
          back.take (paddingFrames trimmer.trailingPaddingSecs),
        ⟨(front ++ middle ++ back).length,
          min front.length (paddingFrames trimmer.leadingPaddingSecs) + middle.length +
            min back.length (paddingFrames trimmer.trailingPaddingSecs),
          front.length - paddingFrames trimmer.leadingPaddingSecs,
          back.length - paddingFrames trimmer.trailingPaddingSecs⟩) := by
  have sounding := bracket.middle_pos
  have filled : (front ++ middle ++ back).isEmpty = false := by
    rw [List.isEmpty_eq_false_iff]
    intro empty
    have lengths := congrArg List.length empty
    simp only [List.length_append, List.length_nil] at lengths
    omega
  unfold SilenceTrimmer.processWithReport
  simp only [filled, Bool.false_eq_true, if_false, bracket.find_first, bracket.find_last,
    Option.getD_some]
  generalize paddingFrames trimmer.leadingPaddingSecs = leading
  generalize paddingFrames trimmer.trailingPaddingSecs = trailing
  have total : (front ++ middle ++ back).length = front.length + middle.length + back.length := by
    rw [List.length_append, List.length_append]
  have stop : min (saturatingAdd usizeMax
      (saturatingAdd usizeMax (front.length + middle.length - 1) trailing) 1)
        (front ++ middle ++ back).length =
      front.length + middle.length + min back.length trailing := by
    rw [total] at inRange ⊢
    unfold saturatingAdd
    omega
  have slice := slice_append front middle back (min back.length trailing)
    (Nat.sub_le front.length leading)
  have padding : back.take (min back.length trailing) = back.take trailing := by
    rw [Nat.min_comm]
    exact List.take_eq_take_min.symm
  rw [padding] at slice
  rw [stop, total]
  refine Prod.ext ?_ ?_
  · -- a slice of everything is the buffer itself
    split
    · exact slice
    · rename_i whole
      simp only [gt_iff_lt, Bool.or_eq_true, decide_eq_true_eq, not_or, Nat.not_lt] at whole
      obtain ⟨fromStart, toEnd⟩ := whole
      have all : min back.length trailing = back.length := by omega
      rw [Nat.le_zero.mp fromStart, all, List.drop_zero, Nat.sub_zero, ← total,
        List.take_length] at slice
      rw [slice, List.rtake, Nat.le_zero.mp fromStart, List.drop_zero]
  · simp only [SilenceTrimReport.mk.injEq, true_and]
    omega

/-! ## The progressive trimmer -/

/-- Keeping the last few frames, one frame at a time. -/
theorem rtake_concat {α : Type*} (l : List α) (a : α) (keep : Nat) :
    (if (l.rtake keep ++ [a]).length > keep then (l.rtake keep ++ [a]).tail
      else l.rtake keep ++ [a]) = (l ++ [a]).rtake keep := by
  unfold List.rtake
  rw [List.length_append, List.length_append, List.length_drop, List.length_singleton]
  rcases Nat.lt_or_ge l.length keep with few | many
  · rw [if_neg (by omega), Nat.sub_eq_zero_of_le few, Nat.sub_eq_zero_of_le (Nat.le_of_lt few)]
    rfl
  · have index : l.length + 1 - keep = l.length - keep + 1 := by omega
    rw [if_pos (by omega), index, ← List.drop_append_of_le_length (Nat.sub_le _ _), List.tail_drop]

section

variable (threshold : F) (leadingFrames trailingFrames : Nat)

/-- The trimmer after silence only. -/
def silentState (consumed : List (Frame F)) (outputFrames : Nat) : ProgressiveSilenceTrimmer F :=
  ⟨threshold, leadingFrames, trailingFrames, consumed.rtake leadingFrames, [], consumed.length,
    outputFrames, consumed.length, none, false, false⟩

/-- The trimmer after sound, with the silence it holds back. -/
def soundingState (front back : List (Frame F)) (inputFrames outputFrames : Nat) :
    ProgressiveSilenceTrimmer F :=
  ⟨threshold, leadingFrames, trailingFrames, [], back, inputFrames, outputFrames, front.length,
    some (front.length - leadingFrames), true, false⟩

/-- **What the progressive trimmer knows** of the frames it has consumed, and
what it has emitted of them. It does not depend on how they were cut. -/
inductive Tracks (consumed emitted : List (Frame F)) : ProgressiveSilenceTrimmer F → Prop where
  | silent (outputFrames : Nat) (silence : Unmarked (audibleFrame threshold) consumed)
      (nothing : emitted = []) :
      Tracks consumed emitted
        (silentState threshold leadingFrames trailingFrames consumed outputFrames)
  | sounding (front middle back : List (Frame F)) (outputFrames : Nat)
      (bracket : Bracketed (audibleFrame threshold) front middle back)
      (split : consumed = front ++ middle ++ back)
      (output : emitted = front.rtake leadingFrames ++ middle) :
      Tracks consumed emitted
        (soundingState threshold leadingFrames trailingFrames front back consumed.length
          outputFrames)

end

section

variable {threshold : F} {leadingFrames trailingFrames : Nat}

/-- A new trimmer has consumed nothing. -/
theorem withAsymmetricPadding_tracks (threshold leadingPaddingSecs trailingPaddingSecs : F) :
    Tracks threshold (paddingFrames leadingPaddingSecs) (paddingFrames trailingPaddingSecs) [] []
      (ProgressiveSilenceTrimmer.withAsymmetricPadding threshold leadingPaddingSecs
        trailingPaddingSecs) := by
  have fresh : ProgressiveSilenceTrimmer.withAsymmetricPadding threshold leadingPaddingSecs
      trailingPaddingSecs = silentState threshold (paddingFrames leadingPaddingSecs)
        (paddingFrames trailingPaddingSecs) [] 0 := by
    rw [silentState, List.rtake_nil]
    rfl
  rw [fresh]
  exact Tracks.silent 0 (unmarked_nil _) rfl

/-- **One frame.** Leading silence is kept to its last frames, the first sound
releases it, silence after sound is held back, and further sound releases that. -/
theorem Tracks.step {consumed emitted output : List (Frame F)}
    {trimmer : ProgressiveSilenceTrimmer F} {frame : Frame F}
    (tracks : Tracks threshold leadingFrames trailingFrames consumed (emitted ++ output) trimmer)
    (inRange : consumed.length < usizeMax) :
    Tracks threshold leadingFrames trailingFrames (consumed ++ [frame])
      (emitted ++ (ProgressiveSilenceTrimmer.processFrame (trimmer, output) frame).2)
      (ProgressiveSilenceTrimmer.processFrame (trimmer, output) frame).1 := by
  have counted : saturatingAdd usizeMax consumed.length 1 = (consumed ++ [frame]).length := by
    rw [saturatingAdd_of_le inRange, List.length_append, List.length_singleton]
  cases tracks with
  | silent outputFrames silence nothing =>
      obtain ⟨rfl, rfl⟩ := List.append_eq_nil_iff.mp nothing
      cases audible : audibleFrame threshold frame with
      | false =>
          have kept : ProgressiveSilenceTrimmer.processFrame
              (silentState threshold leadingFrames trailingFrames consumed outputFrames, []) frame =
              (silentState threshold leadingFrames trailingFrames (consumed ++ [frame])
                outputFrames, []) := by
            unfold silentState
            simp only [ProgressiveSilenceTrimmer.processFrame, audible, counted, Bool.not_false,
              if_true, rtake_concat]
          rw [kept]
          exact Tracks.silent outputFrames (silence.concat audible) rfl
      | true =>
          have removed : consumed.length - (consumed.rtake leadingFrames).length =
              consumed.length - leadingFrames := by
            rw [List.rtake, List.length_drop]
            omega
          have released : ProgressiveSilenceTrimmer.processFrame
              (silentState threshold leadingFrames trailingFrames consumed outputFrames, []) frame =
              (soundingState threshold leadingFrames trailingFrames consumed []
                (consumed ++ [frame]).length outputFrames,
                consumed.rtake leadingFrames ++ [frame]) := by
            simp only [ProgressiveSilenceTrimmer.processFrame, silentState, soundingState, audible,
              counted, removed, Bool.not_false, Bool.not_true, Bool.false_eq_true, if_true,
              if_false, List.nil_append]
          rw [released]
          exact Tracks.sounding consumed [frame] [] outputFrames (silence.bracketed audible)
            (List.append_nil _).symm rfl
  | sounding front middle back outputFrames bracket split emission =>
      cases audible : audibleFrame threshold frame with
      | false =>
          have held : ProgressiveSilenceTrimmer.processFrame
              (soundingState threshold leadingFrames trailingFrames front back consumed.length
                outputFrames, output) frame =
              (soundingState threshold leadingFrames trailingFrames front (back ++ [frame])
                (consumed ++ [frame]).length outputFrames, output) := by
            simp only [ProgressiveSilenceTrimmer.processFrame, soundingState, audible, counted,
              Bool.not_true, Bool.false_eq_true, if_false]
          rw [held]
          refine Tracks.sounding front middle (back ++ [frame]) outputFrames
            (bracket.unmarked audible) ?_ emission
          rw [split, List.append_assoc _ back]
      | true =>
          have released : ProgressiveSilenceTrimmer.processFrame
              (soundingState threshold leadingFrames trailingFrames front back consumed.length
                outputFrames, output) frame =
              (soundingState threshold leadingFrames trailingFrames front []
                (consumed ++ [frame]).length outputFrames, output ++ back ++ [frame]) := by
            simp only [ProgressiveSilenceTrimmer.processFrame, soundingState, audible, counted,
              Bool.not_true, Bool.false_eq_true, if_true, if_false]
          rw [released]
          refine Tracks.sounding front (middle ++ back ++ [frame]) [] outputFrames
            (bracket.marked audible) ?_ ?_
          · rw [split, List.append_nil]
            simp only [List.append_assoc]
          · rw [← List.append_assoc, ← List.append_assoc, emission]
            simp only [List.append_assoc]

/-- The frames of one window, from any point within it. -/
theorem Tracks.frames {consumed emitted output input : List (Frame F)}
    {trimmer : ProgressiveSilenceTrimmer F}
    (tracks : Tracks threshold leadingFrames trailingFrames consumed (emitted ++ output) trimmer)
    (inRange : (consumed ++ input).length ≤ usizeMax) :
    Tracks threshold leadingFrames trailingFrames (consumed ++ input)
      (emitted ++ (input.foldl ProgressiveSilenceTrimmer.processFrame (trimmer, output)).2)
      (input.foldl ProgressiveSilenceTrimmer.processFrame (trimmer, output)).1 := by
  induction input generalizing consumed trimmer output with
  | nil =>
      rw [List.append_nil]
      exact tracks
  | cons frame rest ih =>
      have whole : consumed ++ frame :: rest = consumed ++ [frame] ++ rest := by simp
      rw [whole] at inRange ⊢
      have room : consumed.length < usizeMax := by
        rw [List.length_append, List.length_append, List.length_singleton] at inRange
        omega
      exact ih (tracks.step room) inRange

/-- Nothing is emitted that was not consumed. -/
theorem Tracks.emitted_le {consumed emitted : List (Frame F)}
    {trimmer : ProgressiveSilenceTrimmer F}
    (tracks : Tracks threshold leadingFrames trailingFrames consumed emitted trimmer) :
    emitted.length ≤ consumed.length := by
  cases tracks with
  | silent _ _ nothing =>
      rw [nothing]
      exact Nat.zero_le _
  | sounding front middle back _ _ split emission =>
      rw [split, emission]
      simp only [List.rtake, List.length_append, List.length_drop]
      omega

/-- A further count of output frames changes nothing else. -/
theorem Tracks.withOutputFrames {consumed emitted : List (Frame F)}
    {trimmer : ProgressiveSilenceTrimmer F}
    (tracks : Tracks threshold leadingFrames trailingFrames consumed emitted trimmer)
    (outputFrames : Nat) :
    Tracks threshold leadingFrames trailingFrames consumed emitted
      { trimmer with outputFrames := outputFrames } := by
  cases tracks with
  | silent _ silence nothing => exact Tracks.silent outputFrames silence nothing
  | sounding front middle back _ bracket split emission =>
      exact Tracks.sounding front middle back outputFrames bracket split emission

theorem Tracks.unfinished {consumed emitted : List (Frame F)}
    {trimmer : ProgressiveSilenceTrimmer F}
    (tracks : Tracks threshold leadingFrames trailingFrames consumed emitted trimmer) :
    trimmer.finished = false := by
  cases tracks <;> rfl

/-- Frames within a window leave the output count alone. -/
theorem foldl_processFrame_outputFrames (state : ProgressiveSilenceTrimmer F × List (Frame F))
    (input : List (Frame F)) :
    (input.foldl ProgressiveSilenceTrimmer.processFrame state).1.outputFrames =
      state.1.outputFrames := by
  induction input generalizing state with
  | nil => rfl
  | cons frame rest ih =>
      rw [List.foldl_cons, ih]
      unfold ProgressiveSilenceTrimmer.processFrame
      dsimp only
      split
      · split <;> rfl
      · split <;> rfl

/-- **One window.** The trimmer accepts it and counts what it emits. -/
theorem Tracks.window {consumed emitted : List (Frame F)} {trimmer : ProgressiveSilenceTrimmer F}
    (tracks : Tracks threshold leadingFrames trailingFrames consumed emitted trimmer)
    (counted : trimmer.outputFrames = emitted.length) (input : AudioBuffer F)
    (inRange : (consumed ++ input).length ≤ usizeMax) :
    ∃ next output, trimmer.processWindow input = .ok (next, output) ∧
      Tracks threshold leadingFrames trailingFrames (consumed ++ input) (emitted ++ output) next ∧
      next.outputFrames = (emitted ++ output).length := by
  have within : Tracks threshold leadingFrames trailingFrames consumed (emitted ++ []) trimmer := by
    rwa [List.append_nil]
  have further := within.frames inRange
  have total : saturatingAdd usizeMax trimmer.outputFrames
      (input.foldl ProgressiveSilenceTrimmer.processFrame (trimmer, [])).2.length =
        (emitted ++ (input.foldl ProgressiveSilenceTrimmer.processFrame (trimmer, [])).2).length := by
    have fewer := further.emitted_le
    rw [List.length_append] at fewer ⊢
    rw [counted]
    exact saturatingAdd_of_le (Nat.le_trans fewer inRange)
  refine ⟨_, _, ?_, further.withOutputFrames _, total⟩
  rw [ProgressiveSilenceTrimmer.processWindow, tracks.unfinished]
  simp only [Bool.false_eq_true, if_false, foldl_processFrame_outputFrames]
  rfl

/-- **All windows.** However a buffer is cut, the trimmer tracks its frames. -/
theorem Tracks.windows {consumed emitted : List (Frame F)} {trimmer : ProgressiveSilenceTrimmer F}
    (tracks : Tracks threshold leadingFrames trailingFrames consumed emitted trimmer)
    (counted : trimmer.outputFrames = emitted.length) (windows : List (AudioBuffer F))
    (inRange : (consumed ++ windows.flatten).length ≤ usizeMax) :
    ∃ next output, trimmer.processWindows windows = .ok (next, output) ∧
      Tracks threshold leadingFrames trailingFrames (consumed ++ windows.flatten)
        (emitted ++ output) next ∧
      next.outputFrames = (emitted ++ output).length := by
  induction windows generalizing consumed emitted trimmer with
  | nil =>
      refine ⟨trimmer, [], rfl, ?_, ?_⟩
      · rwa [List.flatten_nil, List.append_nil, List.append_nil]
      · rwa [List.append_nil]
  | cons window rest ih =>
      rw [List.flatten_cons, ← List.append_assoc] at inRange ⊢
      have first : (consumed ++ window).length ≤ usizeMax := by
        rw [List.length_append] at inRange
        exact Nat.le_trans (Nat.le_add_right _ _) inRange
      obtain ⟨middle, output, processed, tracks', counted'⟩ := tracks.window counted window first
      obtain ⟨final, outputs, others, tracks'', counted''⟩ := ih tracks' counted' inRange
      rw [List.append_assoc emitted] at tracks'' counted''
      refine ⟨final, output ++ outputs, ?_, tracks'', counted''⟩
      rw [ProgressiveSilenceTrimmer.processWindows, processed]
      refine bind_eq_ok.mpr ⟨(middle, output), rfl, ?_⟩
      exact bind_eq_ok.mpr ⟨(final, outputs), others, rfl⟩

/-- **The end.** Of the silence held back, the last frames are kept. -/
theorem Tracks.finish {consumed emitted : List (Frame F)} {trimmer : ProgressiveSilenceTrimmer F}
    (tracks : Tracks threshold leadingFrames trailingFrames consumed emitted trimmer)
    (counted : trimmer.outputFrames = emitted.length) (inRange : consumed.length ≤ usizeMax) :
    ∃ final tail report, trimmer.finish = .ok (final, tail, report) ∧
      ((Unmarked (audibleFrame threshold) consumed ∧ emitted ++ tail = [] ∧
        report = ⟨consumed.length, 0, consumed.length, 0⟩) ∨
      ∃ front middle back, Bracketed (audibleFrame threshold) front middle back ∧
        consumed = front ++ middle ++ back ∧
        emitted ++ tail = front.rtake leadingFrames ++ middle ++ back.rtake trailingFrames ∧
        report = ⟨consumed.length,
          min front.length leadingFrames + middle.length + min back.length trailingFrames,
          front.length - leadingFrames, back.length - trailingFrames⟩) := by
  cases tracks with
  | silent outputFrames silence nothing =>
      exact ⟨_, _, _, rfl, Or.inl ⟨silence, by rw [nothing, List.append_nil], rfl⟩⟩
  | sounding front middle back outputFrames bracket split emission =>
      have kept : (front.rtake leadingFrames).length = min front.length leadingFrames := by
        rw [List.rtake, List.length_drop]
        omega
      have total : consumed.length = front.length + middle.length + back.length := by
        rw [split, List.length_append, List.length_append]
      have written : outputFrames = min front.length leadingFrames + middle.length := by
        have length : outputFrames = emitted.length := counted
        rw [length, emission, List.length_append, kept]
      have output : saturatingAdd usizeMax outputFrames (min back.length trailingFrames) =
          min front.length leadingFrames + middle.length + min back.length trailingFrames := by
        rw [written]
        exact saturatingAdd_of_le (by omega)
      have index : back.length - min back.length trailingFrames = back.length - trailingFrames := by
        omega
      refine ⟨_, _, _, rfl, Or.inr ⟨front, middle, back, bracket, split, ?_, ?_⟩⟩
      · rw [emission]
        exact congrArg (fun start => front.rtake leadingFrames ++ middle ++ back.drop start) index
      · simp only [soundingState, output, index, Option.getD_some]

end

/-! ## Where the two agree -/

/-- The two ends of the trailing silence that padding would keep are the same
frames, or nothing is audible. -/
def TrailingEndsAgree (threshold : F) (trailingFrames : Nat) (buffer : AudioBuffer F) : Prop :=
  let silence := buffer.rtakeWhile fun frame => !audibleFrame threshold frame
  Unmarked (audibleFrame threshold) buffer ∨
    silence.take trailingFrames = silence.rtake trailingFrames

/-- **Progressive against buffered trimming.** For every cut of a buffer into
windows the progressive trimmer succeeds with the report of the buffered one. Its
samples are the same exactly when the ends of the trailing silence agree. -/
theorem trimWindows_eq_iff (trimmer : SilenceTrimmer F) (windows : List (AudioBuffer F))
    (inRange : windows.flatten.length ≤ usizeMax) :
    let progressive := ProgressiveSilenceTrimmer.withAsymmetricPadding trimmer.threshold
      trimmer.leadingPaddingSecs trimmer.trailingPaddingSecs
    (∃ samples, progressive.trimWindows windows =
      .ok (samples, (trimmer.processWithReport windows.flatten).2)) ∧
    (progressive.trimWindows windows = .ok (trimmer.processWithReport windows.flatten) ↔
      TrailingEndsAgree trimmer.threshold (paddingFrames trimmer.trailingPaddingSecs)
        windows.flatten) := by
  intro progressive
  have start : Tracks trimmer.threshold (paddingFrames trimmer.leadingPaddingSecs)
      (paddingFrames trimmer.trailingPaddingSecs) [] [] progressive :=
    withAsymmetricPadding_tracks _ _ _
  obtain ⟨next, output, processed, tracks, counted⟩ := start.windows rfl windows inRange
  rw [List.nil_append] at tracks
  rw [List.nil_append] at tracks counted
  obtain ⟨final, tail, report, finished, cases⟩ := tracks.finish counted inRange
  have result : progressive.trimWindows windows = .ok (output ++ tail, report) := by
    refine bind_eq_ok.mpr ⟨(next, output), processed, ?_⟩
    exact bind_eq_ok.mpr ⟨(final, tail, report), finished, rfl⟩
  rw [result]
  rcases cases with ⟨silence, samples, rfl⟩ | ⟨front, middle, back, bracket, split, samples, rfl⟩
  · rw [processWithReport_of_silent trimmer silence, samples]
    exact ⟨⟨[], rfl⟩, ⟨fun _ => Or.inl silence, fun _ => rfl⟩⟩
  · rw [split] at inRange
    have buffered := processWithReport_of_bracketed trimmer bracket inRange
    rw [split, buffered, samples]
    refine ⟨⟨_, rfl⟩, ?_⟩
    have sounds : ¬ Unmarked (audibleFrame trimmer.threshold) (front ++ middle ++ back) := by
      intro unmarked
      obtain ⟨first, rest, opens, mark⟩ := bracket.opening
      have silent := unmarked first (by simp [opens])
      rw [mark] at silent
      cases silent
    unfold TrailingEndsAgree
    rw [bracket.rtakeWhile]
    constructor
    · intro same
      have samples := congrArg Prod.fst (Except.ok.inj same)
      exact Or.inr (List.append_cancel_left samples).symm
    · rintro (silent | ends)
      · exact absurd silent sounds
      · rw [ends]

/-- The result applied to constant silence, whose two ends are the same. -/
theorem trimWindows_eq_iff_constant :
    let trimmer : SilenceTrimmer ℚ := ⟨1 / 64, 0, 3 / 2 / 44100⟩
    let windows : List (AudioBuffer ℚ) := [[(1 / 2, 1 / 2)], [(0, 0), (0, 0)]]
    (ProgressiveSilenceTrimmer.withAsymmetricPadding trimmer.threshold
      trimmer.leadingPaddingSecs trimmer.trailingPaddingSecs).trimWindows windows =
        .ok (trimmer.processWithReport windows.flatten) :=
  (trimWindows_eq_iff ⟨1 / 64, 0, 3 / 2 / 44100⟩ [[(1 / 2, 1 / 2)], [(0, 0), (0, 0)]]
    (by decide)).2.mpr (Or.inr (by decide +kernel))

/-- Two unequal silent frames after the last sound, and padding for one of them:
the buffered trimmer keeps the first, the progressive one the second. -/
theorem trimWindows_differs :
    let trimmer : SilenceTrimmer ℚ := ⟨1 / 64, 0, 3 / 2 / 44100⟩
    let windows : List (AudioBuffer ℚ) :=
      [[(1 / 2, 1 / 2)], [(1 / 1024, 1 / 1024)], [(1 / 512, 1 / 512)]]
    trimmer.processWithReport windows.flatten =
        ([(1 / 2, 1 / 2), (1 / 1024, 1 / 1024)], ⟨3, 2, 0, 1⟩) ∧
      (ProgressiveSilenceTrimmer.withAsymmetricPadding trimmer.threshold
        trimmer.leadingPaddingSecs trimmer.trailingPaddingSecs).trimWindows windows =
          .ok ([(1 / 2, 1 / 2), (1 / 512, 1 / 512)], ⟨3, 2, 0, 1⟩) ∧
      (1 / 1024 : ℚ) ≠ 1 / 512 := by
  refine ⟨by decide +kernel, by decide +kernel, by decide +kernel⟩

end Omnivox.Audio
