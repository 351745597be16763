import Mathlib
import Omnivox.Audio.BufferedFades

/-!
# The fade of playback sources

A source of bounded windows obeys the law of a fade too, in every run (`AttachedSource.lawful`). It
does not look at its tokens again when it receives the end, so a cancellation during its last wait
is only reported where a cue stays behind (`AttachedSource.Timely`).

`declick_fade` states the law of all sources.
-/

set_option autoImplicit false

namespace Omnivox.Audio

open Foundations

variable {F : Type}

/-! ## Progressive sources -/

namespace ProgressivePlaybackSource

variable {source : ProgressivePlaybackSource F} {tokens : CancellationTokens}

/-- Reporting cues changes the cues that are left. -/
theorem reportCues_eq (source : ProgressivePlaybackSource F) :
    ∃ cues heard, (if source.cancellation.hasBegun then (source, [])
        else source.reportCuesAtCurrentFrame) = ({ source with cues := cues }, heard) ∧
      (source.cancellation.hasBegun = true → heard = []) := by
  by_cases begun : source.cancellation.hasBegun = true
  · rw [if_pos begun]
    exact ⟨source.cues, [], rfl, fun _ => rfl⟩
  · rw [if_neg begun, reportCuesAtCurrentFrame]
    split
    · exact ⟨source.cues, [], rfl, fun _ => rfl⟩
    · exact ⟨_, _, rfl, fun absurdity => absurd absurdity begun⟩

/-- What the first part of a call makes of a source whose output is open. -/
inductive Checked (source : ProgressivePlaybackSource F) (tokens : CancellationTokens) :
    Polled (ProgressivePlaybackSource F) F → Prop
  | stopped (gained : (source.cancellation.nextGain tokens source.position).2 = none) :
      Checked source tokens ⟨finish { source with
        cancellation := (source.cancellation.nextGain tokens source.position).1 } .cancelled,
        [], none⟩
  | sample (cues heard : List PlaybackCue) (value : F) (more : List F) (gain : Gain)
      (gained : (source.cancellation.nextGain tokens source.position).2 = some gain)
      (left : source.current.rest = value :: more)
      (quiet : (source.cancellation.nextGain tokens source.position).1.hasBegun = true →
        heard = []) :
      Checked source tokens ⟨{ source with
        cues := cues
        cancellation := (source.cancellation.nextGain tokens source.position).1
        current := { source.current with position := source.current.position + 1 }
        position := source.position + 1 }, heard, some (value, gain)⟩
  | drained (cues heard : List PlaybackCue)
      (left : source.current.rest = [])
      (begun : (source.cancellation.nextGain tokens source.position).1.hasBegun = true)
      (quiet : heard = []) :
      Checked source tokens ⟨finish { source with
        cues := cues
        cancellation := (source.cancellation.nextGain tokens source.position).1 } .cancelled,
        heard, none⟩
  | waits (cues heard : List PlaybackCue) (left : source.current.rest = [])
      (unbegun : (source.cancellation.nextGain tokens source.position).1.hasBegun = false) :
      Checked source tokens ⟨{ source with
        cues := cues
        cancellation := (source.cancellation.nextGain tokens source.position).1
        phase := .waiting }, heard, none⟩

theorem checked (source : ProgressivePlaybackSource F) (tokens : CancellationTokens) :
    Checked source tokens (source.check tokens false) := by
  unfold check
  rw [if_neg Bool.false_ne_true]
  dsimp only
  cases gained : (source.cancellation.nextGain tokens source.position).2 with
  | none => exact .stopped gained
  | some gain =>
      dsimp only
      obtain ⟨cues, heard, reported, quiet⟩ := reportCues_eq { source with
        cancellation := (source.cancellation.nextGain tokens source.position).1 }
      rw [reported]
      cases left : source.current.rest with
      | nil =>
          rw [BufferSource.next_of_nil left]
          dsimp only
          split
          · rename_i begun
            exact .drained cues heard left begun (quiet begun)
          · rename_i unbegun
            exact .waits cues heard left (Bool.not_eq_true _ ▸ unbegun)
      | cons value more =>
          rw [(BufferSource.next_of_cons left).1]
          exact .sample cues heard value more gain gained left quiet

/-- At a frame boundary the cues of the frame leave the others. -/
theorem reportCuesAtCurrentFrame_cues (source : ProgressivePlaybackSource F) :
    ∃ cues heard, source.reportCuesAtCurrentFrame = ({ source with cues := cues }, heard) ∧
      ((∃ cue ∈ source.cues, cue.frameOffset ≠ source.position / CHANNELS) → cues ≠ []) := by
  unfold reportCuesAtCurrentFrame
  split
  · refine ⟨source.cues, [], rfl, ?_⟩
    rintro ⟨cue, member, -⟩ none
    rw [none] at member
    cases member
  · refine ⟨_, _, rfl, ?_⟩
    rintro ⟨cue, member, elsewhere⟩ none
    -- all cues are due
    have all := List.drop_eq_nil_iff.mp none
    have whole := (List.takeWhile_prefix (l := source.cues) fun cue =>
      cue.frameOffset == source.position / CHANNELS).eq_of_length_le all
    rw [← whole] at member
    have due := List.mem_takeWhile_imp member
    exact elsewhere (beq_iff_eq.mp due)

end ProgressivePlaybackSource

/-- A progressive source, and whether its output was closed. -/
structure AttachedSource (F : Type) where
  source : ProgressivePlaybackSource F
  closed : Bool

/-- The samples of a message. -/
def Received.samples : Received F → List F
  | .audio samples _ => samples
  | _ => []

/-- How a part of a call ends. -/
def Polled.outcome (polled : Polled (ProgressivePlaybackSource F) F) : PollOutcome F :=
  match polled.sample, polled.source.phase with
  | some value, _ => .sample value
  | none, .ended => .ended
  | none, .waiting => .waits
  | none, .checking => .received polled.source.current.rest

def Polled.observed (polled : Polled (ProgressivePlaybackSource F) F) (requested : Bool) :
    Observed F where
  requested := requested
  begun := polled.source.cancellation.hasBegun
  cues := polled.cues
  outcome := polled.outcome

/-- A call checks the tokens and, where it waits, receives a message of whole frames. The output
may be closed before a check, and stays so. -/
inductive ProgressiveSteps
    (admits : CancellationTokens → ProgressivePlaybackSource F → Received F → Prop)
    (tokens : CancellationTokens) : AttachedSource F → Observed F → AttachedSource F → Prop
  | check (source : ProgressivePlaybackSource F) (closed closes : Bool)
      (free : source.phase ≠ .waiting) :
      ProgressiveSteps admits tokens ⟨source, closed⟩
        ((source.check tokens (closed || closes)).observed
          (source.cancellation.isRequested tokens))
        ⟨(source.check tokens (closed || closes)).source, closed || closes⟩
  | receive (source : ProgressivePlaybackSource F) (closed : Bool) (message : Received F)
      (waiting : source.phase = .waiting) (frames : message.samples.length % CHANNELS = 0)
      (admitted : admits tokens source message) :
      ProgressiveSteps admits tokens ⟨source, closed⟩
        ((source.receive message).observed (source.cancellation.isRequested tokens))
        ⟨(source.receive message).source, closed⟩

namespace AttachedSource

variable {admits : CancellationTokens → ProgressivePlaybackSource F → Received F → Prop}
  {source : ProgressivePlaybackSource F} {tokens : CancellationTokens}

/-- A source that waits has played its window, and no fade has begun. -/
def consumption (admits : CancellationTokens → ProgressivePlaybackSource F → Received F → Prop) :
    Consumption (AttachedSource F) F where
  cancellation := fun attached => attached.source.cancellation
  position := fun attached => attached.source.position
  rest := fun attached => attached.source.current.rest
  steps := ProgressiveSteps admits
  holds := fun attached => attached.source.phase = .waiting →
    attached.source.current.rest = [] ∧ attached.source.cancellation.hasBegun = false
  finished := fun tokens attached => attached.closed = true ∨
    attached.source.cancellation.state = .finished ∨
    attached.source.current.rest = [] ∧ attached.source.phase ≠ .waiting ∧
      attached.source.cancellation.isRequested tokens = true ∧
      attached.source.position % CHANNELS = 0

/-- What a message makes of a source that waits: more samples, the same, or the end. -/
theorem receive_cases (source : ProgressivePlaybackSource F) (message : Received F) :
    (∃ cues, (source.receive message).source = { source with
        cues := cues
        current := .new message.samples
        phase := .checking }) ∨
      (source.receive message).source = { source with phase := .checking } ∧
        message.samples = [] ∨
      ∃ cues status, (source.receive message).source =
        ProgressivePlaybackSource.finish { source with cues := cues } status := by
  cases message with
  | audio samples cues => exact Or.inl ⟨_, rfl⟩
  | timeout => exact Or.inr (Or.inl ⟨rfl, rfl⟩)
  | disconnected => exact Or.inr (Or.inr ⟨source.cues, .cancelled, rfl⟩)
  | complete cues =>
      obtain ⟨left, heard, reported, -⟩ := ProgressivePlaybackSource.reportCuesAtCurrentFrame_cues
        { source with cues := source.cues ++ cues }
      refine Or.inr (Or.inr ⟨left, if left.isEmpty then .completed else .cancelled, ?_⟩)
      unfold ProgressivePlaybackSource.receive
      dsimp only
      rw [reported]

/-- A message does not touch the cancellation. -/
theorem same_receive (source : ProgressivePlaybackSource F) (message : Received F) :
    (source.receive message).source.cancellation = source.cancellation ∧
      (source.receive message).source.position = source.position := by
  rcases receive_cases source message with ⟨cues, received⟩ | ⟨received, -⟩ |
    ⟨cues, status, received⟩
  · rw [received]
    exact ⟨rfl, rfl⟩
  · rw [received]
    exact ⟨rfl, rfl⟩
  · rw [received]
    exact ⟨rfl, rfl⟩

theorem sample_receive (source : ProgressivePlaybackSource F) (message : Received F) :
    (source.receive message).sample = none := by
  cases message <;> rfl

theorem sample_observed (polled : Polled (ProgressivePlaybackSource F) F) (requested : Bool) :
    (polled.observed requested).sample? = polled.sample := by
  unfold Observed.sample? Polled.observed Polled.outcome
  dsimp only
  cases polled.sample with
  | some value => rfl
  | none => cases polled.source.phase <;> rfl

theorem outcome_of_ended {polled : Polled (ProgressivePlaybackSource F) F}
    (silent : polled.sample = none) (ended : polled.source.phase = .ended) :
    polled.outcome = .ended := by
  rw [Polled.outcome, silent, ended]

theorem outcome_of_checking {polled : Polled (ProgressivePlaybackSource F) F}
    (silent : polled.sample = none) (checking : polled.source.phase = .checking) :
    polled.outcome = .received polled.source.current.rest := by
  rw [Polled.outcome, silent, checking]

/-- A wait that ends is a step of the law. -/
theorem moves_receive {closed : Bool} {message : Received F}
    (frames : message.samples.length % CHANNELS = 0) (left : source.current.rest = [])
    (unbegun : source.cancellation.hasBegun = false) :
    (consumption admits).Moves tokens ⟨source, closed⟩
      ((source.receive message).observed (source.cancellation.isRequested tokens))
      ⟨(source.receive message).source, closed⟩ := by
  have silent := sample_receive source message
  obtain ⟨same, position⟩ := same_receive source message
  have outcome : ((source.receive message).observed
      (source.cancellation.isRequested tokens)).outcome = (source.receive message).outcome := rfl
  rcases receive_cases source message with ⟨cues, received⟩ | ⟨received, -⟩ |
    ⟨cues, status, received⟩
  · have refilled : (source.receive message).source.current.rest = message.samples := by
      rw [received]
      rfl
    have checking : (source.receive message).source.phase = .checking := by rw [received]
    refine .refilled message.samples left refilled frames (Or.inl ?_) unbegun same position
    rw [outcome, outcome_of_checking silent checking, refilled]
  · have refilled : (source.receive message).source.current.rest = [] := by
      rw [received]
      exact left
    have checking : (source.receive message).source.phase = .checking := by rw [received]
    refine .refilled [] left refilled rfl (Or.inl ?_) unbegun same position
    rw [outcome, outcome_of_checking silent checking, refilled]
  · have refilled : (source.receive message).source.current.rest = [] := by
      rw [received]
      exact left
    have ended : (source.receive message).source.phase = .ended := by
      rw [received]
      rfl
    refine .refilled [] left refilled rfl (Or.inr ⟨?_, rfl⟩) unbegun same position
    rw [outcome, outcome_of_ended silent ended]

/-- A check is a step of the law. -/
theorem moves_check {closed : Bool} (outputClosed : Bool) :
    (consumption admits).Moves tokens ⟨source, closed⟩
      ((source.check tokens outputClosed).observed (source.cancellation.isRequested tokens))
      ⟨(source.check tokens outputClosed).source, outputClosed⟩ := by
  cases outputClosed with
  | true => exact .closed rfl rfl rfl rfl rfl
  | false =>
      have checked := source.checked tokens
      revert checked
      generalize source.check tokens false = polled
      intro checked
      cases checked with
      | stopped gained => exact .stopped gained rfl rfl rfl rfl rfl
      | sample cues heard value more gain gained left quiet =>
          have tail := (BufferSource.next_of_cons left).2
          refine .sample value gain gained ?_ rfl quiet rfl rfl
          exact left.trans (congrArg (value :: ·) tail.symm)
      | drained cues heard left begun quiet =>
          exact .drained left left (Or.inl rfl) (fun _ => quiet) rfl rfl
      | waits cues heard left unbegun =>
          refine .drained left left (Or.inr ⟨rfl, unbegun⟩) ?_ rfl rfl
          intro begun
          cases unbegun.symm.trans begun

/-- A source that waits played its window without a fade, after any step. -/
theorem keeps_steps {attached attached' : AttachedSource F} {observed : Observed F}
    (made : ProgressiveSteps admits tokens attached observed attached') :
    attached'.source.phase = .waiting → attached'.source.current.rest = [] ∧
      attached'.source.cancellation.hasBegun = false := by
  intro waiting
  cases made with
  | receive source closed message _ _ _ =>
      have waiting : (source.receive message).source.phase = .waiting := waiting
      rcases receive_cases source message with ⟨cues, received⟩ | ⟨received, -⟩ |
        ⟨cues, status, received⟩ <;>
      · rw [received] at waiting
        cases waiting
  | check source closed closes free =>
      have waiting : (source.check tokens (closed || closes)).source.phase = .waiting := waiting
      have goal : (source.check tokens (closed || closes)).source.current.rest = [] ∧
          (source.check tokens (closed || closes)).source.cancellation.hasBegun = false := by
        cases outputClosed : closed || closes with
        | true =>
            rw [outputClosed] at waiting
            cases waiting
        | false =>
            rw [outputClosed] at waiting
            have checked := source.checked tokens
            revert checked waiting
            generalize source.check tokens false = polled
            intro waiting checked
            cases checked with
            | stopped => cases waiting
            | sample => exact absurd waiting free
            | drained => cases waiting
            | waits cues heard left unbegun => exact ⟨left, unbegun⟩
      exact goal

/-- A cancelled source that ended is over: its output is closed, or its cancellation is finished, or
it has played its window and is at a frame boundary. -/
def Over (tokens : CancellationTokens) (source : ProgressivePlaybackSource F) : Prop :=
  source.cancellation.state = .finished ∨
    source.current.rest = [] ∧ source.phase ≠ .waiting ∧
      source.cancellation.isRequested tokens = true ∧ source.position % CHANNELS = 0

/-- The end of a wait, after a request. -/
theorem over_receive {message : Received F} (left : source.current.rest = [])
    (boundary : source.position % CHANNELS = 0)
    (requested : source.cancellation.isRequested tokens = true)
    (ended : (source.receive message).outcome = .ended) :
    Over tokens (source.receive message).source := by
  have silent := sample_receive source message
  obtain ⟨same, position⟩ := same_receive source message
  rcases receive_cases source message with ⟨cues, received⟩ | ⟨received, -⟩ |
    ⟨cues, status, received⟩
  · have checking : (source.receive message).source.phase = .checking := by rw [received]
    cases (outcome_of_checking silent checking).symm.trans ended
  · have checking : (source.receive message).source.phase = .checking := by rw [received]
    cases (outcome_of_checking silent checking).symm.trans ended
  · refine Or.inr ⟨?_, ?_, ?_, ?_⟩
    · rw [received]
      exact left
    · rw [received]
      exact fun waiting => by cases waiting
    · rw [same]
      exact requested
    · rw [position]
      exact boundary

/-- The end of a check, after a request. -/
theorem over_check (whole : (source.position + source.current.rest.length) % CHANNELS = 0)
    (requested : source.cancellation.isRequested tokens = true)
    (ended : (source.check tokens false).outcome = .ended) :
    Over tokens (source.check tokens false).source := by
  have same := sameTokens_nextGain source.cancellation tokens source.position
  have checked := source.checked tokens
  revert checked ended
  generalize source.check tokens false = polled
  intro ended checked
  cases checked with
  | stopped gained => exact Or.inl (finished_of_none gained)
  | sample => cases ended
  | waits => cases ended
  | drained cues heard left begun quiet =>
      rw [left, List.length_nil, Nat.add_zero] at whole
      refine Or.inr ⟨left, ?_, (same.isRequested tokens).trans requested, whole⟩
      intro waiting
      cases waiting

/-- **What is over stays over**, and returns no sample. -/
theorem Over.check (done : Over tokens source) :
    Over tokens (source.check tokens false).source ∧ (source.check tokens false).sample = none := by
  have same := sameTokens_nextGain source.cancellation tokens source.position
  have checked := source.checked tokens
  revert checked
  generalize source.check tokens false = polled
  intro checked
  rcases done with finished | ⟨left, free, requested, boundary⟩
  · have stopped := nextGain_of_finished tokens source.position finished
    cases checked with
    | stopped => exact ⟨Or.inl (by rw [stopped]; exact finished), rfl⟩
    | sample _ _ _ _ _ gained => cases (congrArg Prod.snd stopped).symm.trans gained
    | drained => exact ⟨Or.inl (by rw [stopped]; exact finished), rfl⟩
    | waits => exact ⟨Or.inl (by rw [stopped]; exact finished), rfl⟩
  · have begins := hasBegun_of_stops requested boundary
    have lasts := (same.isRequested tokens).trans requested
    cases checked with
    | stopped gained => exact ⟨Or.inl (finished_of_none gained), rfl⟩
    | sample _ _ _ _ _ _ rest => cases left.symm.trans rest
    | drained => exact ⟨Or.inr ⟨left, fun waiting => (by cases waiting), lasts, boundary⟩, rfl⟩
    | waits _ _ _ unbegun => cases begins.symm.trans unbegun

/-- **A progressive source is consumed as the law asks.** -/
theorem lawful : Consumption.Lawful (consumption admits : Consumption (AttachedSource F) F) where
  requested := fun made => by cases made <;> rfl
  begun := fun made => by cases made <;> rfl
  moves := by
    intro tokens attached observed attached' made holds
    cases made with
    | check source closed closes free => exact moves_check (closed || closes)
    | receive source closed message waiting frames admitted =>
        obtain ⟨left, unbegun⟩ := holds waiting
        exact moves_receive frames left unbegun
  keeps := fun made _ => keeps_steps made
  finishes := by
    intro tokens attached observed attached' made holds whole asked ended
    cases made with
    | receive source closed message waiting frames admitted =>
        have left := (holds waiting).1
        have boundary : (source.position + source.current.rest.length) % CHANNELS = 0 := whole
        rw [left, List.length_nil, Nat.add_zero] at boundary
        exact Or.inr (over_receive left boundary asked ended)
    | check source closed closes free =>
        cases outputClosed : closed || closes with
        | true => exact Or.inl rfl
        | false =>
            rw [outputClosed] at ended
            exact Or.inr (over_check whole asked ended)
  stays := by
    intro tokens attached observed attached' made done
    cases made with
    | receive source closed message waiting frames admitted =>
        obtain ⟨same, -⟩ := same_receive source message
        refine ⟨?_, ?_⟩
        · rcases done with closing | finished | ⟨-, free, -⟩
          · exact Or.inl closing
          · exact Or.inr (Or.inl ((congrArg PlaybackCancellation.state same).trans finished))
          · exact absurd waiting free
        · exact (sample_observed _ _).trans (sample_receive source message)
    | check source closed closes free =>
        cases outputClosed : closed || closes with
        | true => exact ⟨Or.inl rfl, rfl⟩
        | false =>
            have opened : closed = false := (Bool.or_eq_false_iff.mp outputClosed).1
            rcases done with closing | done
            · cases opened.symm.trans closing
            · obtain ⟨stays, silent⟩ := Over.check (done : Over tokens source)
              exact ⟨Or.inr stays, (sample_observed _ _).trans silent⟩
  cancel := by
    rintro tokens attached token (closing | finished | ⟨left, free, requested, boundary⟩)
    · exact Or.inl closing
    · exact Or.inr (Or.inl finished)
    · exact Or.inr (Or.inr ⟨left, free, isRequested_cancel requested token, boundary⟩)

/-- The end is not received after a request, unless a cue stays behind. -/
def Timely (tokens : CancellationTokens) (source : ProgressivePlaybackSource F)
    (message : Received F) : Prop :=
  ∀ cues, message = .complete cues → source.cancellation.isRequested tokens = true →
    ∃ cue ∈ source.cues ++ cues, cue.frameOffset ≠ source.position / CHANNELS

/-- What a part of a call tells the ticket: nothing while it goes on, and a status at its end. -/
structure Tells (source : ProgressivePlaybackSource F)
    (polled : Polled (ProgressivePlaybackSource F) F) (requested : Bool) : Prop where
  goes : (polled.observed requested).ends = false → polled.source.completion = source.completion
  ends : (polled.observed requested).ends = true → ∃ status,
    polled.source.completion = source.completion.report status ∧
      (requested = true → status = .cancelled)

theorem tells_cancelled {polled : Polled (ProgressivePlaybackSource F) F} (requested : Bool)
    (ended : polled.outcome = .ended)
    (told : polled.source.completion = source.completion.report .cancelled) :
    Tells source polled requested where
  goes := by
    intro goes
    unfold Observed.ends Polled.observed at goes
    dsimp only at goes
    rw [ended] at goes
    cases goes
  ends := fun _ => ⟨.cancelled, told, fun _ => rfl⟩

theorem tells_nothing {polled : Polled (ProgressivePlaybackSource F) F} (requested : Bool)
    (goes : polled.outcome ≠ .ended) (told : polled.source.completion = source.completion) :
    Tells source polled requested where
  goes := fun _ => told
  ends := by
    intro ends
    unfold Observed.ends Polled.observed at ends
    dsimp only at ends
    split at ends
    · rename_i ended
      exact absurd ended goes
    · cases ends

theorem tells_check (source : ProgressivePlaybackSource F) (tokens : CancellationTokens)
    (outputClosed requested : Bool) :
    Tells source (source.check tokens outputClosed) requested := by
  cases outputClosed with
  | true => exact tells_cancelled requested rfl rfl
  | false =>
      have checked := source.checked tokens
      revert checked
      generalize source.check tokens false = polled
      intro checked
      cases checked with
      | stopped => exact tells_cancelled requested rfl rfl
      | sample => exact tells_nothing requested (fun ended => by cases ended) rfl
      | drained => exact tells_cancelled requested rfl rfl
      | waits => exact tells_nothing requested (fun ended => by cases ended) rfl

/-- **The end that is received in time** tells of a cancellation. -/
theorem tells_receive {message : Received F} (timely : Timely tokens source message) :
    Tells source (source.receive message) (source.cancellation.isRequested tokens) := by
  cases message with
  | audio samples cues => exact tells_nothing _ (fun ended => by cases ended) rfl
  | timeout => exact tells_nothing _ (fun ended => by cases ended) rfl
  | disconnected => exact tells_cancelled _ rfl rfl
  | complete cues =>
      obtain ⟨left, heard, reported, stays⟩ := ProgressivePlaybackSource.reportCuesAtCurrentFrame_cues
        { source with cues := source.cues ++ cues }
      have received : source.receive (.complete cues) =
          ⟨ProgressivePlaybackSource.finish { source with cues := left }
            (if left.isEmpty then .completed else .cancelled), heard, none⟩ := by
        unfold ProgressivePlaybackSource.receive
        dsimp only
        rw [reported]
      rw [received]
      refine ⟨fun goes => (by cases goes), fun _ => ⟨_, rfl, fun requested => ?_⟩⟩
      have behind := stays (timely cues rfl requested)
      rw [if_neg (by simpa using behind)]

/-- **A progressive source reports a cancellation** before its end, when the end is received in
time. -/
theorem reports_timely {start attached : AttachedSource F}
    (unreported : start.source.completion = none) {from' tokens : CancellationTokens}
    {trace : List (Observed F)}
    (run : (consumption Timely).Run start from' trace attached tokens) :
    ReportsCancelled trace attached.source.completion := by
  refine (Consumption.Run.reports (fun _ => True) (fun attached => attached.source.completion)
    trivial unreported ?_ run).2.2
  intro tokens attached observed attached' made _
  cases made with
  | check source closed closes free =>
      obtain ⟨goes, ends⟩ := tells_check source tokens (closed || closes)
        (source.cancellation.isRequested tokens)
      exact ⟨trivial, goes, ends⟩
  | receive source closed message waiting frames timely =>
      obtain ⟨goes, ends⟩ := tells_receive timely
      exact ⟨trivial, goes, ends⟩

end AttachedSource

/-! ## The law -/

section Law

variable (request stream : Option CancellationToken) (fadeFrames : Option Nat)
  (from' : CancellationTokens) (samples : List F)

/-- **De-click fade law.** In every run of a source, whenever its tokens are cancelled, the law of a
fade holds. A tracked source reports the cancellation, and a progressive one where it receives the
end in time. A buffered source predicts what is left, but in the middle of a frame that no fade
follows. -/
theorem declick_fade (stereo : samples.length % CHANNELS = 0)
    (bounded : samples.length ≤ usizeMax) :
    (∀ cues trace source tokens, BufferedSource.consumption.Run
        (.tracked (.newWithCueOptions samples cues request stream fadeFrames)) from' trace source
        tokens →
      FadeLaw (fadeFrames.getD 0) samples trace ∧ ReportsCancelled trace source.completion ∧
        (source.Predicts tokens ↔ ¬source.SplitWithoutFade tokens)) ∧
    (∀ trace source tokens, BufferedSource.consumption.Run
        (.smoothStop ⟨.new samples, .new request stream fadeFrames⟩) from' trace source tokens →
      FadeLaw (fadeFrames.getD 0) samples trace ∧
        (source.Predicts tokens ↔ ¬source.SplitWithoutFade tokens)) ∧
    (∀ requestToken streamToken trace attached tokens,
      (AttachedSource.consumption fun _ _ (_ : Received F) => True).Run
        ⟨.new requestToken streamToken fadeFrames, false⟩ from' trace attached tokens →
      FadeLaw (fadeFrames.getD 0) [] trace) ∧
    (∀ requestToken streamToken trace (attached : AttachedSource F) tokens,
      (AttachedSource.consumption AttachedSource.Timely).Run
        ⟨.new requestToken streamToken fadeFrames, false⟩ from' trace attached tokens →
      ReportsCancelled trace attached.source.completion) := by
  have buffered : ∀ (start : BufferedSource F) trace source tokens, start.position = 0 →
      start.inner.rest = samples → start.cancellation.state = .playing →
      start.cancellation.fadeFrames = fadeFrames →
      BufferedSource.consumption.Run start from' trace source tokens →
      FadeLaw (fadeFrames.getD 0) samples trace ∧
        (source.Predicts tokens ↔ ¬source.SplitWithoutFade tokens) := by
    intro start trace source tokens position rest playing fade run
    have obeys := Consumption.Obeys.run BufferedSource.lawful
      (Consumption.Obeys.start position stereo rest playing (congrArg (·.getD 0) fade) trivial) run
    have length := BufferedSource.length_rest run
    rw [rest] at length
    exact ⟨obeys.law, BufferedSource.predicts_iff obeys (by omega)⟩
  refine ⟨?_, ?_, ?_, ?_⟩
  · intro cues trace source tokens run
    obtain ⟨law, predicts⟩ := buffered _ trace source tokens rfl rfl rfl rfl run
    exact ⟨law, BufferedSource.reports_tracked rfl run, predicts⟩
  · intro trace source tokens run
    exact buffered _ trace source tokens rfl rfl rfl rfl run
  · intro requestToken streamToken trace attached tokens run
    have obeys := Consumption.Obeys.run AttachedSource.lawful
      (Consumption.Obeys.start rfl rfl rfl rfl rfl fun waiting => by cases waiting) run
    exact obeys.law
  · intro requestToken streamToken trace attached tokens run
    exact AttachedSource.reports_timely rfl run

end Law

theorem none_cancelled : ∀ token ∈ (∅ : Finset CancellationToken), token < 2 := by
  intro token absent
  exact absurd absent (Finset.notMem_empty token)

/-- Two tokens, none of them cancelled. -/
def twoTokens : CancellationTokens where
  made := 2
  cancelled := ∅
  cancelled_lt := none_cancelled

/-- A sound that is played once, with a fade of one frame. -/
theorem declick_fade_sound :
    FadeLaw 1 [3, 5] [(BufferedSource.tracked
      (.newWithCueOptions [3, 5] [] (some 0) (some 1) (some 1))).observe twoTokens] :=
  ((declick_fade (some 0) (some 1) (some 1) twoTokens [3, 5] rfl (by decide)).1 [] _ _ _
    (.step .start ⟨rfl, rfl⟩)).1

/-- **Two slips.** A sound without a fade that is cancelled after the first sample of a frame says
that nothing is left. A progressive source that is cancelled while it waits behind its last frame
reports that it completed. -/
theorem declick_fade_fails :
    (∃ trace source tokens, BufferedSource.consumption.Run
        (.tracked (.newWithCueOptions [3, 5] [] (some 0) none none)) twoTokens trace source
        tokens ∧ ¬source.Predicts tokens) ∧
      ∃ trace attached tokens, (AttachedSource.consumption fun _ _ (_ : Received Nat) => True).Run
        ⟨.new 0 1 (some 1), false⟩ twoTokens trace attached tokens ∧
        ¬ReportsCancelled trace attached.source.completion := by
  constructor
  · have called := Consumption.Run.step
      (.start : BufferedSource.consumption.Run
        (.tracked (.newWithCueOptions [3, 5] [] (some 0) none none)) twoTokens [] _ twoTokens)
      ⟨rfl, rfl⟩
    refine ⟨_, _, _, called.cancel 0, ?_⟩
    exact BufferedSource.not_predicts_of_split rfl (by decide) ⟨rfl, rfl, by decide, rfl⟩
  · have waits := Consumption.Run.step
      (.start : (AttachedSource.consumption fun _ _ (_ : Received Nat) => True).Run
        ⟨.new 0 1 (some 1), false⟩ twoTokens [] _ twoTokens)
      (ProgressiveSteps.check _ _ false (by decide))
    have window := waits.step (ProgressiveSteps.receive _ _ (.audio [3, 5] []) rfl rfl trivial)
    have left := window.step (ProgressiveSteps.check _ _ false (by decide))
    have right := left.step (ProgressiveSteps.check _ _ false (by decide))
    have drained := right.step (ProgressiveSteps.check _ _ false (by decide))
    have completed := (drained.cancel 0).step
      (ProgressiveSteps.receive _ _ (.complete []) rfl rfl trivial)
    refine ⟨_, _, _, completed, ?_⟩
    intro reports
    cases reports _ rfl rfl

end Omnivox.Audio
