import Mathlib

/-!
# Logs of frames

A log is a concatenation of frames. Which frame may come next depends on what the frames before
it have left behind (`Chain`), and a frame that may come next is told by the bytes that it
begins (`Separated`).

The bytes of a log then have one longest chain of frames at their front, and every other chain
at their front is a part of it (`Longest.covers`). The frames in front of an alteration are
kept, whatever follows them (`Longest.keeps`). A frame that is cut off is none
(`Separated.not_begins_of_cut`).
-/

set_option autoImplicit false

namespace Omnivox.Foundations

variable {σ A B : Type*}

/-- How frames are chained: what a frame leaves behind, and its bytes. -/
structure FrameRules (σ A B : Type*) where
  accepts : σ → A → Prop
  after : σ → A → σ
  bytes : A → List B

namespace FrameRules

variable (rules : FrameRules σ A B)

/-- What is left behind by frames one after the other. -/
def left (state : σ) (frames : List A) : σ := frames.foldl rules.after state

/-- The frames may come one after the other. -/
def Chain : σ → List A → Prop
  | _, [] => True
  | state, frame :: rest => rules.accepts state frame ∧ Chain (rules.after state frame) rest

/-- The bytes of the log. -/
def written (frames : List A) : List B := frames.flatMap rules.bytes

/-- Some frame that may come next is at the front of the bytes. -/
def Begins (state : σ) (bytes : List B) : Prop :=
  ∃ frame rest, rules.accepts state frame ∧ bytes = rules.bytes frame ++ rest

/-- Bytes tell the frame that they begin with, and a frame is not empty. -/
structure Separated : Prop where
  nonempty : ∀ {state frame}, rules.accepts state frame → rules.bytes frame ≠ []
  determined : ∀ {state first second rest rest'}, rules.accepts state first →
    rules.accepts state second → rules.bytes first ++ rest = rules.bytes second ++ rest' →
    first = second

/-- The chain at the front of the bytes that cannot be continued, and the bytes behind it. -/
structure Longest (state : σ) (bytes : List B) (frames : List A) (rest : List B) : Prop where
  split : bytes = rules.written frames ++ rest
  chain : rules.Chain state frames
  stuck : ¬ rules.Begins (rules.left state frames) rest

variable {rules} {state : σ} {frames more : List A} {bytes rest tail : List B}

@[simp] theorem left_nil : rules.left state [] = state := rfl

@[simp] theorem left_cons (frame : A) :
    rules.left state (frame :: more) = rules.left (rules.after state frame) more := rfl

theorem left_append :
    rules.left state (frames ++ more) = rules.left (rules.left state frames) more :=
  List.foldl_append

@[simp] theorem written_nil : rules.written [] = [] := rfl

@[simp] theorem written_cons (frame : A) :
    rules.written (frame :: more) = rules.bytes frame ++ rules.written more := List.flatMap_cons

theorem written_append :
    rules.written (frames ++ more) = rules.written frames ++ rules.written more :=
  List.flatMap_append

theorem chain_append : rules.Chain state (frames ++ more) ↔
    rules.Chain state frames ∧ rules.Chain (rules.left state frames) more := by
  induction frames generalizing state with
  | nil => exact (and_iff_right trivial).symm
  | cons frame rest ih => rw [List.cons_append, Chain, Chain, ih, left_cons, and_assoc]

/-- **A chain at the front is a part of the longest one.** -/
theorem Longest.covers (longest : rules.Longest state bytes frames rest)
    (separated : rules.Separated) {others : List A} {behind : List B}
    (chain : rules.Chain state others) (split : bytes = rules.written others ++ behind) :
    others <+: frames := by
  induction others generalizing state bytes frames with
  | nil => exact List.nil_prefix
  | cons other others ih =>
      obtain ⟨accepted, chain⟩ := chain
      rw [written_cons, List.append_assoc] at split
      cases frames with
      | nil =>
          have front := longest.split
          rw [written_nil, List.nil_append, split] at front
          exact absurd ⟨other, _, accepted, front.symm⟩ longest.stuck
      | cons frame frames =>
          have front := longest.split
          rw [split, written_cons, List.append_assoc] at front
          obtain rfl := separated.determined accepted longest.chain.1 front
          have remaining : rules.Longest (rules.after state other)
              (rules.written frames ++ rest) frames rest :=
            ⟨rfl, longest.chain.2, longest.stuck⟩
          have further := ih remaining chain (List.append_cancel_left front).symm
          exact List.cons_prefix_cons.mpr ⟨rfl, further⟩

/-- There is one longest chain. -/
theorem Longest.unique (first : rules.Longest state bytes frames rest)
    (second : rules.Longest state bytes more tail) (separated : rules.Separated) :
    frames = more ∧ rest = tail := by
  have same : frames = more :=
    (second.covers separated first.chain first.split).eq_of_length_le
      (first.covers separated second.chain second.split).length_le
  subst same
  have split := first.split
  rw [second.split] at split
  exact ⟨rfl, (List.append_cancel_left split).symm⟩

/-- **The frames at the front are kept**, whatever follows them. -/
theorem Longest.keeps (longest : rules.Longest state (rules.written frames ++ tail) more rest)
    (separated : rules.Separated) (chain : rules.Chain state frames) :
    ∃ further, more = frames ++ further ∧
      rules.Longest (rules.left state frames) tail further rest := by
  obtain ⟨further, rfl⟩ := longest.covers separated chain rfl
  have split := longest.split
  rw [written_append, List.append_assoc] at split
  refine ⟨further, rfl, List.append_cancel_left split, (chain_append.mp longest.chain).2, ?_⟩
  have stuck := longest.stuck
  rwa [left_append] at stuck

/-- A chain that is followed by no frame is the longest one. -/
theorem longest_written (chain : rules.Chain state frames)
    (stuck : ¬ rules.Begins (rules.left state frames) tail) :
    rules.Longest state (rules.written frames ++ tail) frames tail :=
  ⟨rfl, chain, stuck⟩

theorem Separated.not_begins_nil (separated : rules.Separated) : ¬ rules.Begins state [] := by
  rintro ⟨frame, rest, accepted, split⟩
  exact separated.nonempty accepted (List.append_eq_nil_iff.mp split.symm).1

/-- **A frame that is cut off is none.** -/
theorem Separated.not_begins_of_cut (separated : rules.Separated) {frame : A}
    (accepted : rules.accepts state frame) {cut : List B} (front : cut <+: rules.bytes frame)
    (shorter : cut.length < (rules.bytes frame).length) : ¬ rules.Begins state cut := by
  rintro ⟨other, rest, accepted', rfl⟩
  obtain ⟨missing, whole⟩ := front
  rw [List.append_assoc] at whole
  have same : rules.bytes other ++ (rest ++ missing) = rules.bytes frame ++ [] := by
    rw [whole, List.append_nil]
  obtain rfl := separated.determined accepted' accepted same
  rw [List.length_append] at shorter
  omega

/-- A cut of a log is within one of its frames, or behind them all. -/
theorem take_written (rules : FrameRules σ A B) (frames : List A) (cut : Nat) : ∃ count partly,
    (rules.written frames).take cut = rules.written (frames.take count) ++ partly ∧
      (partly = [] ∨ ∃ frame, frames[count]? = some frame ∧ partly <+: rules.bytes frame ∧
        partly.length < (rules.bytes frame).length) := by
  induction frames generalizing cut with
  | nil => exact ⟨0, [], by simp, .inl rfl⟩
  | cons frame rest ih =>
      by_cases within : cut < (rules.bytes frame).length
      · refine ⟨0, (rules.bytes frame).take cut, ?_, .inr ⟨frame, rfl, List.take_prefix _ _, ?_⟩⟩
        · rw [written_cons, List.take_append_of_le_length within.le, List.take_zero, written_nil,
            List.nil_append]
        · rw [List.length_take]
          omega
      · obtain ⟨count, partly, split, kind⟩ := ih (cut - (rules.bytes frame).length)
        refine ⟨count + 1, partly, ?_, ?_⟩
        · rw [written_cons, List.take_append, List.take_of_length_le (Nat.le_of_not_lt within),
            split, List.take_succ_cons, written_cons, List.append_assoc]
        · rwa [List.getElem?_cons_succ]

theorem chain_take (chain : rules.Chain state frames) (count : Nat) :
    rules.Chain state (frames.take count) := by
  rw [← List.take_append_drop count frames] at chain
  exact (chain_append.mp chain).1

/-- A frame of a chain may come where it is. -/
theorem accepts_of_chain (chain : rules.Chain state frames) {count : Nat} {frame : A}
    (here : frames[count]? = some frame) :
    rules.accepts (rules.left state (frames.take count)) frame := by
  have split : frames = frames.take count ++ frame :: frames.drop (count + 1) := by
    obtain ⟨within, rfl⟩ := List.getElem?_eq_some_iff.mp here
    rw [← List.drop_eq_getElem_cons within, List.take_append_drop]
  rw [split, chain_append] at chain
  exact chain.2.1

end FrameRules

end Omnivox.Foundations
