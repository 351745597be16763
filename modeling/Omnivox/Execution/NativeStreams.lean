import Mathlib
import Omnivox.Execution.CallOutcomes

/-!
# Streams of isolated calls

What a caller hands on from a native stream is a part of what the native call has sent, in the
same order. With native parameters it is a receipt that was validated, then a start, and then
audio and markers, and a stream without receipt and start does not succeed
(`native_streams`).
-/

set_option autoImplicit false

namespace Omnivox.Execution

open Foundations Synthesis

variable {P V : Type}

/-! ## What a step does to a stream -/

def IsolatedStreamEvent.isApplication : IsolatedStreamEvent P → Bool
  | .application _ => true
  | _ => false

def IsolatedStreamEvent.isStart : IsolatedStreamEvent P → Bool
  | .start _ => true
  | _ => false

def IsolatedStreamEvent.isOutput : IsolatedStreamEvent P → Bool
  | .audio _ | .markers _ => true
  | _ => false

/-- The outcome that a caller has come to. -/
def CallerStage.outcome : CallerStage P V → Option (IsolationOutcome V)
  | .stopping outcome | .marking outcome | .quarantining outcome | .leaving outcome
  | .releasing _ outcome | .returned outcome => some outcome
  | _ => none

/-- The event that a caller has received and not yet handed on. -/
def CallerStage.pending : CallerStage P V → List (IsolatedStreamEvent P)
  | .checking (.event event) _ | .handling event => [event]
  | _ => []

/-- The native call has answered. -/
def IsolationOutcome.answers : IsolationOutcome V → Bool
  | .answered _ => true
  | _ => false

/-- The reads of a check in their order. -/
def CancellationRead.index : CancellationRead → Nat
  | .generation => 1
  | .stopEpoch => 2
  | .token => 3

/-- How far a caller has come with the last check of an event or an answer. Behind it are the
event that is handed on, and the answer. -/
def CallerStage.progress : CallerStage P V → Nat
  | .checking (.event _) read | .checking (.arrival _) read => read.index
  | .handling _ => 4
  | .stopping (.answered _) | .marking (.answered _) | .quarantining (.answered _)
  | .leaving (.answered _) | .releasing _ (.answered _) | .returned (.answered _) => 4
  | _ => 0

theorem CallerStage.progress_of_outcome {stage : CallerStage P V} {outcome : IsolationOutcome V}
    (ends : stage.outcome = some outcome) :
    stage.progress = if outcome.answers then 4 else 0 := by
  cases stage <;> cases ends <;> cases outcome <;> rfl

namespace IsolatedCall

variable {call call' : IsolatedCall P V} {memory memory' : IsolationMemory}

/-- The events that may still be handed on. -/
def line (call : IsolatedCall P V) : List (IsolatedStreamEvent P) :=
  call.caller.pending ++ call.events

/-- A step that hands nothing on. It may drop an event, and answers only with the answer that
has passed its last check. -/
structure Quiet (call call' : IsolatedCall P V) : Prop where
  streaming : call'.streaming = call.streaming
  parameters : call'.parameters = call.parameters
  receiptSeen : call'.receiptSeen = call.receiptSeen
  startSeen : call'.startSeen = call.startSeen
  forwarded : call'.forwarded = call.forwarded
  emitted : call'.emitted = call.emitted
  line : call'.line.Sublist call.line
  outcome : ∀ outcome, call'.caller.outcome = some outcome →
    outcome.answers = false ∨ call.caller.outcome = some outcome ∨
      ∃ answer, call.caller = .checking (.arrival answer) .token ∧ outcome = call.conclude answer
  steady : call'.caller.progress ≤ max 1 call.caller.progress ∨
    ∃ point read, call.caller = .checking point read

theorem Quiet.goTo {stage : CallerStage P V} (fewer : stage.pending.Sublist call.caller.pending)
    (outcome : ∀ outcome, stage.outcome = some outcome →
      outcome.answers = false ∨ call.caller.outcome = some outcome ∨
        ∃ answer, call.caller = .checking (.arrival answer) .token ∧
          outcome = call.conclude answer)
    (steady : stage.progress ≤ max 1 call.caller.progress ∨
      ∃ point read, call.caller = .checking point read) : call.Quiet (call.goTo stage) :=
  ⟨rfl, rfl, rfl, rfl, rfl, rfl, fewer.append_right _, outcome, steady⟩

/-- A step to a point without event and outcome. -/
theorem Quiet.silent {stage : CallerStage P V} (idle : stage.pending = [])
    (unfinished : stage.outcome = none) (calm : decide (stage.progress ≤ 1) = true) :
    call.Quiet (call.goTo stage) := by
  refine .goTo ?_ (fun outcome same => ?_) (.inl (le_max_of_le_left (of_decide_eq_true calm)))
  · rw [idle]
    exact List.nil_sublist _
  · rw [unfinished] at same
    cases same

/-- A step to an outcome that is no answer. -/
theorem Quiet.fails {stage : CallerStage P V} {outcome : IsolationOutcome V}
    (idle : stage.pending = []) (ends : stage.outcome = some outcome)
    (silent : outcome.answers = false) : call.Quiet (call.goTo stage) := by
  refine .goTo ?_ (fun other same => ?_) ?_
  · rw [idle]
    exact List.nil_sublist _
  · rw [ends] at same
    cases same
    exact .inl silent
  · rw [CallerStage.progress_of_outcome ends, silent]
    exact .inl (Nat.zero_le _)

/-- A step of a caller that keeps its outcome. -/
theorem Quiet.keeps {stage : CallerStage P V} {outcome : IsolationOutcome V}
    (idle : stage.pending = []) (ends : stage.outcome = some outcome)
    (before : call.caller.outcome = some outcome) : call.Quiet (call.goTo stage) := by
  refine .goTo ?_ (fun other same => .inr (.inl ?_)) ?_
  · rw [idle]
    exact List.nil_sublist _
  · rw [before, ← ends, same]
  · rw [CallerStage.progress_of_outcome ends, CallerStage.progress_of_outcome before]
    exact .inl (le_max_right _ _)

theorem whenCancelled_quiet {point : CheckPoint P V} :
    call.Quiet (whenCancelled memory call point).2 := by
  cases point with
  | pressure => exact .fails rfl rfl rfl
  | admission => exact .fails rfl rfl rfl
  | poll => exact .silent rfl rfl rfl
  | event event => exact .silent rfl rfl rfl
  | arrival answer => exact .fails rfl rfl rfl

theorem whenCurrent_quiet {point : CheckPoint P V} (here : call.caller = .checking point .token) :
    call.Quiet (whenCurrent memory call point).2 := by
  cases point with
  | pressure => exact .silent rfl rfl rfl
  | admission => exact .silent rfl rfl rfl
  | poll => exact .silent rfl rfl rfl
  | event event =>
      refine .goTo ?_ (fun outcome same => by cases same) (.inr ⟨_, _, here⟩)
      rw [here]
      exact List.Sublist.refl _
  | arrival answer =>
      refine .goTo (List.nil_sublist _) (fun outcome same => ?_) (.inr ⟨_, _, here⟩)
      cases same
      exact .inr (.inr ⟨answer, here, rfl⟩)

theorem check_quiet (memory : IsolationMemory) {point : CheckPoint P V} {read : CancellationRead}
    (here : call.caller = .checking point read) : call.Quiet (check memory call point read).2 := by
  have onward : ∀ next, call.Quiet (call.goTo (.checking point next)) := by
    intro next
    refine .goTo ?_ (fun outcome same => by cases same) (.inr ⟨_, _, here⟩)
    rw [here]
    cases point <;> exact List.Sublist.refl _
  cases read with
  | generation =>
      rw [check]
      split
      · exact whenCancelled_quiet
      · exact onward _
  | stopEpoch =>
      rw [check]
      split
      · exact whenCancelled_quiet
      · exact onward _
  | token =>
      rw [check]
      split
      · exact whenCancelled_quiet
      · exact whenCurrent_quiet here

theorem receive_quiet (here : call.caller = .waiting) (choice : CallerChoice) :
    call.Quiet (call.receive choice) := by
  unfold receive
  split
  · rename_i event rest queued
    refine ⟨rfl, rfl, rfl, rfl, rfl, rfl, ?_, (fun outcome same => by cases same),
      .inl (le_max_left _ _)⟩
    rw [line, line, here, queued]
    exact List.Sublist.refl _
  · split
    · exact .silent rfl rfl rfl
    · exact .fails rfl rfl rfl
    · split
      · split
        · exact .fails rfl rfl rfl
        · exact .silent rfl rfl rfl
      · exact .silent rfl rfl rfl

/-- **A step of a caller hands on the event it handles, or nothing.** -/
theorem callerStep_stream {choice : CallerChoice}
    (taken : call.callerStep memory choice = some (memory', call')) :
    (∃ event sink, call.caller = .handling event ∧ call' = call.handle sink event) ∨
      call.Quiet call' := by
  unfold callerStep at taken
  cases here : call.caller with
  | handling event =>
      simp only [here] at taken
      left
      split at taken
      · cases taken
        exact ⟨event, _, rfl, rfl⟩
      · cases taken
        exact ⟨event, _, rfl, rfl⟩
  | loading =>
      simp only [here] at taken
      cases taken
      right
      refine ⟨rfl, rfl, rfl, rfl, rfl, rfl, (List.nil_sublist _).append_right _,
        (fun outcome same => by cases same), .inl (Nat.zero_le _)⟩
  | locking =>
      simp only [here] at taken
      obtain ⟨budget, free, moved⟩ := Option.map_eq_some_iff.mp taken
      cases moved
      exact .inr (.silent rfl rfl rfl)
  | asleep =>
      simp only [here] at taken
      obtain ⟨budget, free, moved⟩ := Option.map_eq_some_iff.mp taken
      cases moved
      exact .inr (.silent rfl rfl rfl)
  | attempting =>
      simp only [here] at taken
      split at taken
      · cases taken
        exact .inr (.silent rfl rfl rfl)
      · cases taken
        exact .inr (.silent rfl rfl rfl)
  | claimed =>
      simp only [here] at taken
      cases taken
      exact .inr (.silent rfl rfl rfl)
  | counting current =>
      simp only [here] at taken
      split at taken
      · cases taken
        exact .inr (.silent rfl rfl rfl)
      · split at taken
        · cases taken
          exact .inr (.silent rfl rfl rfl)
        · split at taken
          · cases taken
            exact .inr (.silent rfl rfl rfl)
          · cases taken
            exact .inr (.silent rfl rfl rfl)
  | declining =>
      simp only [here] at taken
      cases taken
      exact .inr (.silent rfl rfl rfl)
  | pressed =>
      simp only [here] at taken
      split at taken
      · cases taken
        exact .inr (.silent rfl rfl rfl)
      · cases taken
        exact .inr (.fails rfl rfl rfl)
  | granted =>
      simp only [here] at taken
      cases taken
      exact .inr (.silent rfl rfl rfl)
  | checking point read =>
      simp only [here] at taken
      have moved := check_quiet memory here
      rw [Option.some.inj taken] at moved
      exact .inr moved
  | admitted =>
      simp only [here] at taken
      cases taken
      right
      refine ⟨rfl, rfl, rfl, rfl, rfl, rfl, (List.nil_sublist _).append_right _,
        (fun outcome same => by cases same), .inl (Nat.zero_le _)⟩
  | spawning =>
      simp only [here] at taken
      split at taken
      · cases taken
        exact .inr (.silent rfl rfl rfl)
      · cases taken
        right
        have calm : ∀ streaming : Bool,
            (if streaming = true then CallerStage.checking .poll .generation
              else CallerStage.waiting : CallerStage P V).pending = [] ∧
            (if streaming = true then CallerStage.checking .poll .generation
              else CallerStage.waiting : CallerStage P V).outcome = none ∧
            (if streaming = true then CallerStage.checking .poll .generation
              else CallerStage.waiting : CallerStage P V).progress = 0 := by
          intro streaming
          cases streaming <;> exact ⟨rfl, rfl, rfl⟩
        obtain ⟨idle, unfinished, still⟩ := calm call.streaming
        refine ⟨rfl, rfl, rfl, rfl, rfl, rfl, ?_, fun outcome same => ?_, .inl ?_⟩
        · refine List.Sublist.append_right ?_ _
          change List.Sublist (CallerStage.pending (ite _ _ _)) _
          rw [idle]
          exact List.nil_sublist _
        · cases unfinished.symm.trans same
        · exact le_of_eq_of_le still (Nat.zero_le _)
  | restoring error =>
      simp only [here] at taken
      cases taken
      exact .inr (.fails rfl rfl rfl)
  | waiting =>
      simp only [here] at taken
      cases taken
      exact .inr (receive_quiet here choice)
  | deciding =>
      simp only [here] at taken
      split at taken
      · cases taken
        exact .inr (.fails rfl rfl rfl)
      · split at taken
        · cases taken
          exact .inr (.silent rfl rfl rfl)
        · cases taken
          exact .inr (.fails rfl rfl rfl)
  | stopping outcome =>
      simp only [here] at taken
      cases taken
      exact .inr (.keeps rfl rfl (by rw [here]; rfl))
  | marking outcome =>
      simp only [here] at taken
      split at taken
      · cases taken
        exact .inr (.keeps rfl rfl (by rw [here]; rfl))
      · cases taken
        right
        refine ⟨rfl, rfl, rfl, rfl, rfl, rfl, (List.nil_sublist _).append_right _,
          fun other same => .inr (.inl ?_), ?_⟩
        · rw [here]
          exact same
        · have same : (CallerStage.quarantining outcome : CallerStage P V).progress =
              (CallerStage.marking outcome : CallerStage P V).progress := by
            cases outcome <;> rfl
          rw [here]
          exact .inl (le_max_of_le_right same.le)
  | quarantining outcome =>
      simp only [here] at taken
      cases taken
      exact .inr (.keeps rfl rfl (by rw [here]; rfl))
  | leaving outcome =>
      simp only [here] at taken
      split at taken
      · cases taken
        exact .inr (.keeps rfl rfl (by rw [here]; rfl))
      · cases taken
        exact .inr (.keeps rfl rfl (by rw [here]; rfl))
  | releasing stage outcome =>
      simp only [here] at taken
      obtain ⟨⟨budget, next⟩, step, moved⟩ := Option.map_eq_some_iff.mp taken
      cases moved
      cases next with
      | none => exact .inr (.keeps rfl rfl (by rw [here]; rfl))
      | some stage => exact .inr (.keeps rfl rfl (by rw [here]; rfl))
  | returned outcome =>
      simp only [here] at taken
      cases taken

/-! ## Handing on -/

/-- What may be handed on: a valid receipt first, and with native parameters a start behind it
and output behind both. -/
def Allowed (call : IsolatedCall P V) : IsolatedStreamEvent P → Prop
  | .application receipt => ∃ validate, call.parameters = some validate ∧
      validate receipt = .ok () ∧ call.receiptSeen = false ∧ call.startSeen = false
  | .start _ => call.parameters.isSome = true → call.receiptSeen = true ∧ call.startSeen = false
  | .audio _ | .markers _ =>
      call.parameters.isSome = true → call.receiptSeen = true ∧ call.startSeen = true

/-- A step that hands an event on. -/
structure HandsOn (call call' : IsolatedCall P V) (event : IsolatedStreamEvent P) : Prop where
  allowed : call.Allowed event
  streaming : call'.streaming = call.streaming
  parameters : call'.parameters = call.parameters
  receiptSeen : call'.receiptSeen = (call.receiptSeen || event.isApplication)
  startSeen : call'.startSeen = (call.startSeen || event.isStart)
  forwarded : call'.forwarded = call.forwarded ++ [event]
  emitted : call'.emitted = call.emitted
  line : call.line = event :: call'.line
  outcome : ∀ outcome, call'.caller.outcome = some outcome → outcome.answers = false

theorem handleOutput_cases {event : IsolatedStreamEvent P} (here : call.caller = .handling event)
    (output : event.isOutput = true) (sink : Except TtsError Unit) :
    call.HandsOn (call.handleOutput event sink) event ∨
      call.Quiet (call.handleOutput event sink) := by
  have line : call.line = event :: call.events := by
    rw [IsolatedCall.line, here]
    rfl
  have plain : event.isApplication = false ∧ event.isStart = false := by
    cases event <;> first | exact ⟨rfl, rfl⟩ | cases output
  unfold handleOutput
  split
  · rename_i allowed
    have permitted : call.Allowed event := by
      have both : call.parameters.isSome = true →
          call.receiptSeen = true ∧ call.startSeen = true := by
        intro native
        unfold outputAllowed metadataSeen at allowed
        rw [← Option.not_isSome, native, Bool.not_true, Bool.false_or, Bool.and_eq_true] at allowed
        exact allowed
      cases event with
      | audio audio => exact both
      | markers markers => exact both
      | application receipt => cases output
      | start start => cases output
    left
    have receipt : call.receiptSeen = (call.receiptSeen || event.isApplication) := by
      rw [plain.1, Bool.or_false]
    have start : call.startSeen = (call.startSeen || event.isStart) := by
      rw [plain.2, Bool.or_false]
    split
    · exact ⟨permitted, rfl, rfl, receipt, start, rfl, rfl, line, fun _ same => by cases same⟩
    · refine ⟨permitted, rfl, rfl, receipt, start, rfl, rfl, line, fun _ same => ?_⟩
      cases same
      rfl
  · exact .inr (.fails rfl rfl rfl)

theorem handleStart_cases {start : P} (here : call.caller = .handling (.start start))
    (sink : Except TtsError Unit) : call.HandsOn (call.handleStart start sink) (.start start) ∨
      call.Quiet (call.handleStart start sink) := by
  have line : call.line = .start start :: call.events := by
    rw [IsolatedCall.line, here]
    rfl
  unfold handleStart
  split
  · exact .inr (.fails rfl rfl rfl)
  · rename_i allowed
    have permitted : call.Allowed (.start start) := by
      intro native
      rw [native, Bool.true_and, Bool.or_eq_true, not_or, Bool.not_eq_true,
        Bool.not_eq_false'] at allowed
      exact ⟨allowed.1, Bool.eq_false_of_not_eq_true allowed.2⟩
    left
    have receipt : call.receiptSeen =
        (call.receiptSeen || (IsolatedStreamEvent.start start).isApplication) :=
      (Bool.or_false _).symm
    have started : true = (call.startSeen || (IsolatedStreamEvent.start start).isStart) :=
      (Bool.or_true _).symm
    split
    · exact ⟨permitted, rfl, rfl, receipt, started, rfl, rfl, line, fun _ same => by cases same⟩
    · refine ⟨permitted, rfl, rfl, receipt, started, rfl, rfl, line, fun _ same => ?_⟩
      cases same
      rfl

theorem handleApplication_cases {receipt : P}
    (here : call.caller = .handling (.application receipt)) :
    call.HandsOn (call.handleApplication receipt) (.application receipt) ∨
      call.Quiet (call.handleApplication receipt) := by
  have line : call.line = .application receipt :: call.events := by
    rw [IsolatedCall.line, here]
    rfl
  unfold handleApplication
  split
  · exact .inr (.fails rfl rfl rfl)
  · rename_i valid
    split
    · exact .inr (.fails rfl rfl rfl)
    · rename_i fresh
      left
      obtain ⟨noReceipt, noStart⟩ := Bool.or_eq_false_iff.mp (Bool.eq_false_of_not_eq_true fresh)
      refine ⟨?_, rfl, rfl, (Bool.or_true _).symm, (Bool.or_false _).symm, rfl, rfl, line,
        fun _ same => by cases same⟩
      unfold validateReceipt at valid
      split at valid
      · cases valid
      · rename_i validate given
        exact ⟨validate, given, valid, noReceipt, noStart⟩

/-- **What a caller handles** it hands on if that is allowed, or it stops the native call. -/
theorem handle_cases {event : IsolatedStreamEvent P} (here : call.caller = .handling event)
    (sink : Except TtsError Unit) :
    call.HandsOn (call.handle sink event) event ∨ call.Quiet (call.handle sink event) := by
  cases event with
  | application receipt => exact handleApplication_cases here
  | start start => exact handleStart_cases here sink
  | audio audio => exact handleOutput_cases here rfl sink
  | markers markers => exact handleOutput_cases here rfl sink

/-! ## The contract -/

/-- What was handed on, with native parameters and without. -/
def Ordered (call : IsolatedCall P V) : Prop :=
  match call.parameters with
  | none => ∀ event ∈ call.forwarded, event.isApplication = false
  | some validate =>
      match call.receiptSeen, call.startSeen with
      | false, false => call.forwarded = []
      | false, true => False
      | true, false => ∃ receipt, validate receipt = .ok () ∧
          call.forwarded = [.application receipt]
      | true, true => ∃ receipt start output, validate receipt = .ok () ∧
          call.forwarded = .application receipt :: .start start :: output ∧
            ∀ event ∈ output, event.isOutput = true

/-- The events that were handed on are a part of the sent ones, with those on their way behind
them, and a native stream that succeeds had its receipt and its start. -/
structure StreamKept (call : IsolatedCall P V) : Prop where
  ordered : call.Ordered
  sent : (call.forwarded ++ call.line).Sublist call.emitted
  complete : ∀ value, call.caller.outcome = some (.answered (.ok value)) →
    call.streaming = true → call.parameters.isSome = true → call.metadataSeen = true

theorem ordered_handsOn {event : IsolatedStreamEvent P} (ordered : call.Ordered)
    (handsOn : call.HandsOn call' event) : call'.Ordered := by
  unfold Ordered at ordered ⊢
  rw [handsOn.parameters, handsOn.receiptSeen, handsOn.startSeen, handsOn.forwarded]
  have allowed := handsOn.allowed
  cases parameters : call.parameters with
  | none =>
      rw [parameters] at ordered
      intro other member
      rcases List.mem_append.mp member with before | own
      · exact ordered other before
      · rw [List.mem_singleton.mp own]
        cases event with
        | application receipt =>
            obtain ⟨validate, given, _⟩ := allowed
            rw [parameters] at given
            cases given
        | start start => rfl
        | audio audio => rfl
        | markers markers => rfl
  | some validate =>
      rw [parameters] at ordered
      have native : call.parameters.isSome = true := by rw [parameters]; rfl
      cases event with
      | application receipt =>
          obtain ⟨other, given, valid, noReceipt, noStart⟩ := allowed
          rw [parameters] at given
          cases given
          rw [noReceipt, noStart] at ordered ⊢
          rw [show call.forwarded = [] from ordered]
          exact ⟨receipt, valid, rfl⟩
      | start start =>
          obtain ⟨receipt, noStart⟩ := allowed native
          rw [receipt, noStart] at ordered ⊢
          obtain ⟨told, valid, only⟩ := ordered
          rw [only]
          exact ⟨told, start, [], valid, rfl, fun _ member => absurd member List.not_mem_nil⟩
      | audio audio =>
          obtain ⟨receipt, started⟩ := allowed native
          rw [receipt, started] at ordered ⊢
          obtain ⟨told, start, output, valid, before, plain⟩ := ordered
          rw [before]
          refine ⟨told, start, output ++ [.audio audio], valid, rfl, fun other member => ?_⟩
          rcases List.mem_append.mp member with early | own
          · exact plain other early
          · rw [List.mem_singleton.mp own]
            rfl
      | markers markers =>
          obtain ⟨receipt, started⟩ := allowed native
          rw [receipt, started] at ordered ⊢
          obtain ⟨told, start, output, valid, before, plain⟩ := ordered
          rw [before]
          refine ⟨told, start, output ++ [.markers markers], valid, rfl, fun other member => ?_⟩
          rcases List.mem_append.mp member with early | own
          · exact plain other early
          · rw [List.mem_singleton.mp own]
            rfl

theorem ordered_same (ordered : call.Ordered) (parameters : call'.parameters = call.parameters)
    (receipt : call'.receiptSeen = call.receiptSeen) (start : call'.startSeen = call.startSeen)
    (forwarded : call'.forwarded = call.forwarded) : call'.Ordered := by
  unfold Ordered at ordered ⊢
  rw [parameters, receipt, start, forwarded]
  exact ordered

theorem metadata_of_conclude {answer : Except TtsError V} {value : V}
    (concluded : call.conclude answer = .answered (.ok value)) (streams : call.streaming = true)
    (native : call.parameters.isSome = true) : call.metadataSeen = true := by
  unfold conclude at concluded
  cases answer with
  | error error => cases concluded
  | ok other =>
      dsimp only at concluded
      split at concluded
      · cases concluded
      · rename_i complete
        rw [streams, native, Bool.true_and, Bool.true_and, Bool.not_eq_true,
          Bool.not_eq_false'] at complete
        exact complete

theorem Quiet.kept (quiet : call.Quiet call') (kept : call.StreamKept) : call'.StreamKept where
  ordered := ordered_same kept.ordered quiet.parameters quiet.receiptSeen quiet.startSeen
    quiet.forwarded
  sent := by
    rw [quiet.forwarded, quiet.emitted]
    exact (quiet.line.append_left _).trans kept.sent
  complete value ends streams native := by
    rw [quiet.streaming] at streams
    rw [quiet.parameters] at native
    rw [metadataSeen, quiet.receiptSeen, quiet.startSeen]
    rcases quiet.outcome _ ends with silent | before | ⟨answer, _, concluded⟩
    · cases silent
    · exact kept.complete value before streams native
    · exact metadata_of_conclude concluded.symm streams native

theorem HandsOn.kept {event : IsolatedStreamEvent P} (handsOn : call.HandsOn call' event)
    (kept : call.StreamKept) : call'.StreamKept where
  ordered := ordered_handsOn kept.ordered handsOn
  sent := by
    have sent := kept.sent
    rw [handsOn.line] at sent
    rw [handsOn.forwarded, handsOn.emitted, List.append_assoc]
    exact sent
  complete value ends _ _ := by
    cases handsOn.outcome _ ends

theorem moves_stream (kept : call.StreamKept) (moves : call.Moves call') : call'.StreamKept := by
  cases moves with
  | caller taken =>
      rcases callerStep_stream taken with ⟨event, sink, here, rfl⟩ | quiet
      · rcases handle_cases here sink with handsOn | quiet
        · exact handsOn.kept kept
        · exact quiet.kept kept
      · exact quiet.kept kept
  | task taken =>
      rw [(taskStep_eq taken).1]
      exact ⟨kept.ordered, kept.sent, kept.complete⟩
  | cancelToken => exact ⟨kept.ordered, kept.sent, kept.complete⟩
  | @emit _ event taken =>
      have longer : (call.forwarded ++ call.line).Sublist (call.emitted ++ [event]) :=
        kept.sent.trans (List.sublist_append_left _ _)
      have later : (call.forwarded ++ (call.line ++ [event])).Sublist
          (call.emitted ++ [event]) := by
        rw [← List.append_assoc]
        exact kept.sent.append_right _
      unfold emit at taken
      split at taken
      · split at taken
        · split at taken
          · split at taken
            · cases taken
            · cases taken
              refine ⟨kept.ordered, ?_, kept.complete⟩
              rw [IsolatedCall.line, List.append_assoc] at later
              exact later
          · cases taken
            exact ⟨kept.ordered, longer, kept.complete⟩
        · cases taken
      · cases taken

end IsolatedCall

/-- A native stream sends an event, and its caller hands it on. -/
def IsolationEvent.sends (event : IsolatedStreamEvent Nat) : List (IsolationEvent Nat Nat) :=
  .emit 0 event :: IsolationEvent.callerSteps 0 8

/-- A native stream sends its receipt, its start and audio, and answers. -/
def answeredStream : List (IsolationEvent Nat Nat) :=
  .begins "espeak" true (some fun _ => .ok ()) none :: (IsolationEvent.callerSteps 0 14 ++
    IsolationEvent.sends (.application 1) ++ IsolationEvent.sends (.start 2) ++
    IsolationEvent.sends (.audio 3) ++ List.replicate 3 (.task 0 (some (.ok 4))) ++
    IsolationEvent.callerSteps 0 10)

end Omnivox.Execution
