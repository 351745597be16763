import Mathlib
import Omnivox.Audio.PlaybackSource

/-!
# The control of the audio streams

Speech, tones and sounds have a queue each. Speech and tones also have a stop token, which
their sources share: a stop cancels it and puts a new one in its place. A stop token is
never cancelled while it is in its place, and callers do not hold it.

Every stream counts its stops in a schedule generation.
-/

set_option autoImplicit false

namespace Omnivox.Audio

/-- Which audio stream to route to. -/
inductive StreamType where
  | speech
  | tone
  | sound
  deriving Repr, DecidableEq

/-- Stop tokens and schedule generations, and the tokens of the callers beside them. -/
structure AudioControl where
  tokens : CancellationTokens
  scheduleGenerations : StreamType → Nat
  speechStopCancellation : CancellationToken
  toneStopCancellation : CancellationToken
  speech_made : speechStopCancellation < tokens.made
  tone_made : toneStopCancellation < tokens.made
  speech_active : tokens.isCancelled speechStopCancellation = false
  tone_active : tokens.isCancelled toneStopCancellation = false
  apart : speechStopCancellation ≠ toneStopCancellation

namespace AudioControl

def new : AudioControl where
  tokens := { made := 2, cancelled := ∅, cancelled_lt := fun _ member => nomatch member }
  scheduleGenerations _ := 0
  speechStopCancellation := 0
  toneStopCancellation := 1
  speech_made := Nat.zero_lt_two
  tone_made := Nat.one_lt_two
  speech_active := rfl
  tone_active := rfl
  apart := Nat.zero_ne_one

/-- A caller makes a token. -/
def newRequest (control : AudioControl) : AudioControl × CancellationToken :=
  ({ control with
    tokens := control.tokens.fresh.1
    speech_made := Nat.lt_succ_of_lt control.speech_made
    tone_made := Nat.lt_succ_of_lt control.tone_made
    speech_active := control.speech_active
    tone_active := control.tone_active },
    control.tokens.fresh.2)

def smoothStopCancellation (control : AudioControl) : StreamType → Option CancellationToken
  | .speech => some control.speechStopCancellation
  | .tone => some control.toneStopCancellation
  | .sound => none

def smoothStopFadeFrames : StreamType → Option Nat
  | .speech => some SPEECH_STOP_FADE_FRAMES
  | .tone => some TONE_STOP_FADE_FRAMES
  | .sound => none

section Replacing

variable (control : AudioControl)

/-- The tokens once a new one is made and an earlier one is cancelled. -/
def tokensReplacing (previous : CancellationToken) : CancellationTokens :=
  control.tokens.fresh.1.cancel previous

theorem isCancelled_tokensReplacing (previous token : CancellationToken) :
    (control.tokensReplacing previous).isCancelled token =
      (token == previous || control.tokens.isCancelled token) := by
  rw [tokensReplacing, CancellationTokens.isCancelled_cancel,
    CancellationTokens.isCancelled_fresh]

/-- The token that is made is another one, and not cancelled. -/
theorem replacement_active {previous : CancellationToken} (made : previous < control.tokens.made) :
    (control.tokensReplacing previous).isCancelled control.tokens.made = false := by
  rw [isCancelled_tokensReplacing, CancellationTokens.not_isCancelled_made, Bool.or_false,
    beq_eq_false_iff_ne]
  exact Nat.ne_of_gt made

theorem kept_active {previous token : CancellationToken} (other : token ≠ previous)
    (active : control.tokens.isCancelled token = false) :
    (control.tokensReplacing previous).isCancelled token = false := by
  rw [isCancelled_tokensReplacing, active, Bool.or_false, beq_eq_false_iff_ne]
  exact other

theorem lt_made_tokensReplacing (previous : CancellationToken) {token : CancellationToken}
    (made : token ≤ control.tokens.made) : token < (control.tokensReplacing previous).made :=
  (Nat.lt_succ_of_le made).trans_le (Nat.le_max_left _ _)

end Replacing

/-- Put a new stop token in the place of that of speech, and cancel the previous one. -/
def replaceSpeechStop (control : AudioControl) : AudioControl where
  tokens := control.tokensReplacing control.speechStopCancellation
  scheduleGenerations := control.scheduleGenerations
  speechStopCancellation := control.tokens.made
  toneStopCancellation := control.toneStopCancellation
  speech_made := control.lt_made_tokensReplacing _ le_rfl
  tone_made := control.lt_made_tokensReplacing _ control.tone_made.le
  speech_active := control.replacement_active control.speech_made
  tone_active := control.kept_active control.apart.symm control.tone_active
  apart := Nat.ne_of_gt control.tone_made

theorem isCancelled_replaceSpeechStop (control : AudioControl) (token : CancellationToken) :
    control.replaceSpeechStop.tokens.isCancelled token =
      (token == control.speechStopCancellation || control.tokens.isCancelled token) :=
  control.isCancelled_tokensReplacing _ token

/-- Put a new stop token in the place of that of tones, and cancel the previous one. -/
def replaceToneStop (control : AudioControl) : AudioControl where
  tokens := control.tokensReplacing control.toneStopCancellation
  scheduleGenerations := control.scheduleGenerations
  speechStopCancellation := control.speechStopCancellation
  toneStopCancellation := control.tokens.made
  speech_made := control.lt_made_tokensReplacing _ control.speech_made.le
  tone_made := control.lt_made_tokensReplacing _ le_rfl
  speech_active := control.kept_active control.apart control.speech_active
  tone_active := control.replacement_active control.tone_made
  apart := Nat.ne_of_lt control.speech_made

/-- Sounds have no stop token. -/
def replaceStop (control : AudioControl) : StreamType → AudioControl
  | .speech => control.replaceSpeechStop
  | .tone => control.replaceToneStop
  | .sound => control

/-- What was scheduled on the stream before is overtaken. -/
def advanceSchedule (control : AudioControl) (stream : StreamType) : AudioControl :=
  { control with
    scheduleGenerations :=
      Function.update control.scheduleGenerations stream (control.scheduleGenerations stream + 1) }

/-- The part of a stop that is not about the queue. -/
def stop (control : AudioControl) (stream : StreamType) : AudioControl :=
  (control.advanceSchedule stream).replaceStop stream

/-- The same for an interruption of the output, which is about every stream. -/
def interruptOutput (control : AudioControl) : AudioControl :=
  (((control.advanceSchedule .speech).advanceSchedule .tone).advanceSchedule
    .sound).replaceSpeechStop.replaceToneStop

/-- A caller cancels a token of its own. -/
def cancelRequest (control : AudioControl) (token : CancellationToken)
    (own : token ≠ control.speechStopCancellation ∧ token ≠ control.toneStopCancellation) :
    AudioControl where
  tokens := control.tokens.cancel token
  scheduleGenerations := control.scheduleGenerations
  speechStopCancellation := control.speechStopCancellation
  toneStopCancellation := control.toneStopCancellation
  speech_made := control.speech_made.trans_le (Nat.le_max_left _ _)
  tone_made := control.tone_made.trans_le (Nat.le_max_left _ _)
  speech_active := by
    rw [CancellationTokens.isCancelled_cancel, control.speech_active, Bool.or_false,
      beq_eq_false_iff_ne]
    exact own.1.symm
  tone_active := by
    rw [CancellationTokens.isCancelled_cancel, control.tone_active, Bool.or_false,
      beq_eq_false_iff_ne]
    exact own.2.symm
  apart := control.apart

/-! ## Controls only move forward -/

/-- A later control: what was cancelled is cancelled, no schedule goes back, and a stop token
that lost its place is cancelled. -/
structure Later (control control' : AudioControl) : Prop where
  cancelled : ∀ token, control.tokens.isCancelled token = true →
    control'.tokens.isCancelled token = true
  schedule : ∀ stream, control.scheduleGenerations stream ≤ control'.scheduleGenerations stream
  replaced : ∀ stream token, control.smoothStopCancellation stream = some token →
    control'.smoothStopCancellation stream = some token ∨ control'.tokens.isCancelled token = true

theorem Later.refl (control : AudioControl) : control.Later control :=
  ⟨fun _ => id, fun _ => le_rfl, fun _ _ => Or.inl⟩

theorem Later.trans {first second third : AudioControl} (early : first.Later second)
    (late : second.Later third) : first.Later third where
  cancelled token before := late.cancelled token (early.cancelled token before)
  schedule stream := (early.schedule stream).trans (late.schedule stream)
  replaced stream token before := by
    rcases early.replaced stream token before with stays | gone
    · exact late.replaced stream token stays
    · exact Or.inr (late.cancelled token gone)

theorem isCancelled_replaced (control : AudioControl) (previous : CancellationToken) :
    (control.tokensReplacing previous).isCancelled previous = true := by
  rw [isCancelled_tokensReplacing, beq_self_eq_true, Bool.true_or]

theorem isCancelled_kept (control : AudioControl) (previous : CancellationToken)
    {token : CancellationToken} (before : control.tokens.isCancelled token = true) :
    (control.tokensReplacing previous).isCancelled token = true := by
  rw [isCancelled_tokensReplacing, before, Bool.or_true]

theorem later_replaceStop (control : AudioControl) (stream : StreamType) :
    control.Later (control.replaceStop stream) := by
  cases stream with
  | sound => exact Later.refl control
  | speech =>
      refine ⟨fun _ => control.isCancelled_kept _, fun _ => le_rfl, ?_⟩
      intro stream token before
      cases stream with
      | speech =>
          obtain rfl : control.speechStopCancellation = token := Option.some.inj before
          exact Or.inr (control.isCancelled_replaced _)
      | tone => exact Or.inl before
      | sound => exact Or.inl before
  | tone =>
      refine ⟨fun _ => control.isCancelled_kept _, fun _ => le_rfl, ?_⟩
      intro stream token before
      cases stream with
      | speech => exact Or.inl before
      | tone =>
          obtain rfl : control.toneStopCancellation = token := Option.some.inj before
          exact Or.inr (control.isCancelled_replaced _)
      | sound => exact Or.inl before

theorem scheduleGenerations_advanceSchedule (control : AudioControl) (stream other : StreamType) :
    (control.advanceSchedule stream).scheduleGenerations other =
      if other = stream then control.scheduleGenerations stream + 1
      else control.scheduleGenerations other :=
  Function.update_apply _ _ _ _

theorem later_advanceSchedule (control : AudioControl) (stream : StreamType) :
    control.Later (control.advanceSchedule stream) := by
  refine ⟨fun _ => id, ?_, ?_⟩
  · intro other
    rw [scheduleGenerations_advanceSchedule]
    split
    · rename_i same
      rw [same]
      exact Nat.le_succ _
    · exact le_rfl
  · intro other token before
    cases other with
    | speech => exact Or.inl before
    | tone => exact Or.inl before
    | sound => exact Or.inl before

theorem later_stop (control : AudioControl) (stream : StreamType) :
    control.Later (control.stop stream) :=
  (control.later_advanceSchedule stream).trans (later_replaceStop _ stream)

theorem later_interruptOutput (control : AudioControl) : control.Later control.interruptOutput :=
  (((control.later_advanceSchedule .speech).trans (later_advanceSchedule _ .tone)).trans
    (later_advanceSchedule _ .sound)).trans
    ((later_replaceStop _ .speech).trans (later_replaceStop _ .tone))

theorem later_cancelRequest (control : AudioControl) (token : CancellationToken)
    (own : token ≠ control.speechStopCancellation ∧ token ≠ control.toneStopCancellation) :
    control.Later (control.cancelRequest token own) := by
  refine ⟨?_, fun _ => le_rfl, ?_⟩
  · intro other before
    have cancelled := control.tokens.isCancelled_cancel token other
    rw [before, Bool.or_true] at cancelled
    exact cancelled
  · intro stream other before
    cases stream with
    | speech => exact Or.inl before
    | tone => exact Or.inl before
    | sound => exact Or.inl before

/-- A stop advances the schedule of its stream. -/
theorem stop_schedule (control : AudioControl) (stream : StreamType) :
    control.scheduleGenerations stream < (control.stop stream).scheduleGenerations stream := by
  have advanced := control.scheduleGenerations_advanceSchedule stream stream
  rw [if_pos rfl] at advanced
  have same : (control.stop stream).scheduleGenerations stream =
      (control.advanceSchedule stream).scheduleGenerations stream := by
    cases stream with
    | speech => rfl
    | tone => rfl
    | sound => rfl
  omega

/-- A stop cancels the stop token of its stream. -/
theorem stop_cancels (control : AudioControl) {stream : StreamType} {token : CancellationToken}
    (inPlace : control.smoothStopCancellation stream = some token) :
    (control.stop stream).tokens.isCancelled token = true := by
  cases stream with
  | speech =>
      obtain rfl : control.speechStopCancellation = token := Option.some.inj inPlace
      exact (control.advanceSchedule .speech).isCancelled_replaced _
  | tone =>
      obtain rfl : control.toneStopCancellation = token := Option.some.inj inPlace
      exact (control.advanceSchedule .tone).isCancelled_replaced _
  | sound => cases inPlace

end AudioControl

end Omnivox.Audio
