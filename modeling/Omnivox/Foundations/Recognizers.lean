import Mathlib
import Omnivox.Foundations.Fallible

/-!
# Recognizers

A recognizer takes items one after another. After each it goes on, answers with a
result or fails, and the first failure ends the run. When every item behind a result
is refused, the runs with a result are those whose last item gives it and whose other
items are passed over (`feed_some_iff`).

What a language asks of an item may depend on the items before it (`AllBehind`).

A listener is called with items. It may fail, and hears the items up to the first one it
fails on (`heard_heardOf`).
-/

set_option autoImplicit false

namespace Omnivox.Foundations

/-! ## Items and what is before them -/

section AllBehind

variable {α : Type*}

/-- Every item of a list has a property of the items before it. -/
def AllBehind (holds : List α → α → Prop) (items : List α) : Prop :=
  ∀ front item back, items = front ++ item :: back → holds front item

theorem allBehind_nil (holds : List α → α → Prop) : AllBehind holds [] := by
  intro front item back split
  cases front with
  | nil => cases split
  | cons first rest => cases split

/-- **One more item** is asked about all the items before it. -/
theorem allBehind_concat {holds : List α → α → Prop} {items : List α} {item : α} :
    AllBehind holds (items ++ [item]) ↔ AllBehind holds items ∧ holds items item := by
  constructor
  · intro every
    constructor
    · intro front other back split
      exact every front other (back ++ [item]) (by rw [split, List.append_assoc, List.cons_append])
    · exact every items item [] rfl
  · rintro ⟨before, last⟩ front other back split
    rcases List.eq_nil_or_concat back with rfl | ⟨middle, final, rfl⟩
    · obtain ⟨rfl, same⟩ := List.append_inj' split rfl
      cases same
      exact last
    · rw [List.concat_eq_append, ← List.cons_append, ← List.append_assoc] at split
      obtain ⟨rfl, _⟩ := List.append_inj' split rfl
      exact before front other middle rfl

end AllBehind

/-! ## Runs -/

section Feeding

variable {σ ε β ρ : Type*} {accept : σ → β → Outcome σ ε (Option ρ)}

/-- Take items one after another up to the first failure. The answer is that to the last. -/
def feed (accept : σ → β → Outcome σ ε (Option ρ)) :
    Option ρ → σ → List β → Outcome σ ε (Option ρ)
  | answer, state, [] => (state, .ok answer)
  | _, state, item :: rest =>
      match accept state item with
      | (next, .ok answer) => feed accept answer next rest
      | (next, .error e) => (next, .error e)

/-- The items are passed over without a result, and lead from one state to another. -/
inductive Passes (accept : σ → β → Outcome σ ε (Option ρ)) (start : σ) : List β → σ → Prop where
  | nil : Passes accept start [] start
  | concat {front : List β} {state next : σ} {item : β} (before : Passes accept start front state)
      (taken : accept state item = (next, .ok none)) : Passes accept start (front ++ [item]) next

/-- A property of the state that both steps keep. -/
theorem andThen_preserves {α γ : Type*} {holds : σ → Prop} {outcome : Outcome σ ε α}
    {next : σ → α → Outcome σ ε γ} (first : holds outcome.1)
    (later : ∀ state a, holds state → holds (next state a).1) :
    holds (andThen outcome next).1 := by
  obtain ⟨state, answer⟩ := outcome
  cases answer with
  | error e => exact first
  | ok a => exact later state a first

theorem feed_cons_ok {answer answer' : Option ρ} {state next : σ} {item : β}
    (taken : accept state item = (next, .ok answer')) (rest : List β) :
    feed accept answer state (item :: rest) = feed accept answer' next rest := by
  rw [feed, taken]

theorem feed_cons_error {answer : Option ρ} {state next : σ} {item : β} {e : ε}
    (failed : accept state item = (next, .error e)) (rest : List β) :
    feed accept answer state (item :: rest) = (next, .error e) := by
  rw [feed, failed]

/-- A run goes on from where its items have led. -/
theorem Passes.feed {start state : σ} {front : List β} (passes : Passes accept start front state)
    (rest : List β) : feed accept none start (front ++ rest) = feed accept none state rest := by
  induction passes generalizing rest with
  | nil => rfl
  | concat before taken ih =>
      rw [List.append_assoc, ih, List.singleton_append, feed_cons_ok taken]

/-- Items that are passed over, one before the others. -/
theorem Passes.cons {start next final : σ} {item : β} {rest : List β}
    (taken : accept start item = (next, .ok none)) (passes : Passes accept next rest final) :
    Passes accept start (item :: rest) final := by
  induction passes with
  | nil => exact Passes.nil.concat taken
  | concat before last ih => exact ih.concat last

/-- **Runs without a result** pass over all of their items. -/
theorem feed_none_iff {start final : σ} {items : List β}
    (closed : ∀ state item next result, accept state item = (next, .ok (some result)) →
      ∀ later, ∃ e, (accept next later).2 = .error e) :
    feed accept none start items = (final, .ok none) ↔ Passes accept start items final := by
  constructor
  · intro run
    induction items generalizing start with
    | nil =>
        cases run
        exact .nil
    | cons item rest ih =>
        rcases taken : accept start item with ⟨next, e | answer⟩
        · rw [feed_cons_error taken] at run
          cases run
        · rw [feed_cons_ok taken] at run
          cases answer with
          | none => exact .cons taken (ih run)
          | some result =>
              cases rest with
              | nil => cases run
              | cons later rest =>
                  obtain ⟨e, refused⟩ := closed start item next result taken later
                  rw [feed_cons_error (Prod.ext rfl refused : accept next later = (_, .error e))]
                    at run
                  cases run
  · intro passes
    have run := passes.feed []
    rwa [List.append_nil] at run

/-- **Runs with a result** have it from their last item. -/
theorem feed_some_iff {start final : σ} {items : List β} {result : ρ}
    (closed : ∀ state item next result, accept state item = (next, .ok (some result)) →
      ∀ later, ∃ e, (accept next later).2 = .error e) :
    feed accept none start items = (final, .ok (some result)) ↔
      ∃ front last state, items = front ++ [last] ∧ Passes accept start front state ∧
        accept state last = (final, .ok (some result)) := by
  constructor
  · intro run
    induction items generalizing start with
    | nil => cases run
    | cons item rest ih =>
        rcases taken : accept start item with ⟨next, e | answer⟩
        · rw [feed_cons_error taken] at run
          cases run
        · rw [feed_cons_ok taken] at run
          cases answer with
          | none =>
              obtain ⟨front, last, state, rfl, passes, answered⟩ := ih run
              exact ⟨item :: front, last, state, rfl, .cons taken passes, answered⟩
          | some other =>
              cases rest with
              | nil =>
                  cases run
                  exact ⟨[], item, start, rfl, .nil, taken⟩
              | cons later rest =>
                  obtain ⟨e, refused⟩ := closed start item next other taken later
                  rw [feed_cons_error (Prod.ext rfl refused : accept next later = (_, .error e))]
                    at run
                  cases run
  · rintro ⟨front, last, state, rfl, passes, answered⟩
    rw [passes.feed, feed_cons_ok answered]
    rfl

end Feeding

/-! ## Listeners -/

section Hearing

variable {α ε : Type*} {answer : List α → α → Except ε Unit}

/-- What a listener has heard, and the failure of the last call. A listener answers each call
from the calls before it, and hears nothing behind its first failure. -/
def hear (answer : List α → α → Except ε Unit) (heard : List α × Option ε) (call : α) :
    List α × Option ε :=
  match heard.2 with
  | some _ => heard
  | none =>
      match answer heard.1 call with
      | .ok _ => (heard.1 ++ [call], none)
      | .error e => (heard.1 ++ [call], some e)

def heardOf (answer : List α → α → Except ε Unit) (calls : List α) : List α × Option ε :=
  calls.foldl (hear answer) ([], none)

theorem heardOf_concat (calls : List α) (call : α) :
    heardOf answer (calls ++ [call]) = hear answer (heardOf answer calls) call := by
  rw [heardOf, List.foldl_append]
  rfl

/-- The calls up to the first that fails. -/
inductive Heard (answer : List α → α → Except ε Unit) (calls : List α) :
    List α → Option ε → Prop where
  | whole (willing : AllBehind (fun before call => answer before call = .ok ()) calls) :
      Heard answer calls calls none
  | cut {front back : List α} {call : α} {e : ε} (split : calls = front ++ call :: back)
      (willing : AllBehind (fun before call => answer before call = .ok ()) front)
      (failed : answer front call = .error e) : Heard answer calls (front ++ [call]) (some e)

/-- **A listener hears the calls up to its first failure.** -/
theorem heard_heardOf (calls : List α) :
    Heard answer calls (heardOf answer calls).1 (heardOf answer calls).2 := by
  induction calls using List.reverseRecOn with
  | nil => exact .whole (allBehind_nil _)
  | append_singleton calls call ih =>
      rw [heardOf_concat]
      rcases before : heardOf answer calls with ⟨heard, failure⟩
      rw [before] at ih
      cases ih with
      | whole willing =>
          cases told : answer heard call with
          | ok accepted =>
              simp only [hear, told]
              exact .whole (allBehind_concat.mpr ⟨willing, told⟩)
          | error e =>
              simp only [hear, told]
              exact .cut rfl willing told
      | cut split willing failed =>
          have longer := congrArg (· ++ [call]) split
          simp only [List.append_assoc, List.cons_append] at longer
          exact .cut longer willing failed

end Hearing

end Omnivox.Foundations
