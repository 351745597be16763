import Mathlib
import Omnivox.Foundations.Fallible

/-!
# Programs that interact

A program asks its environment queries and continues with the answers. What the environment
answers is open: a run is any sequence of answers, and every environment leads to one
(`runs_run`), since a program is a finite tree.

A monitor reads a run from outside. It keeps a state of its own, it may assume something of
an exchange, and it allows the exchange or not. What a program keeps is computed along the
program (`Keeps`), and then every run is accepted (`keeps_run`).
-/

set_option autoImplicit false

namespace Omnivox.Foundations

universe u v

/-- A finite tree of queries, each followed by a program for every answer. -/
inductive Program (Query : Type u) (Answer : Query → Type v) (α : Type v) where
  | done (result : α)
  | ask (query : Query) (next : Answer query → Program Query Answer α)

/-- A query with its answer. -/
structure Exchange (Query : Type u) (Answer : Query → Type v) where
  query : Query
  answer : Answer query

section

variable {Query : Type u} {Answer : Query → Type v} {α β : Type v}

namespace Program

def bind (first : Program Query Answer α) (next : α → Program Query Answer β) :
    Program Query Answer β :=
  match first with
  | .done result => next result
  | .ask query continuation => .ask query fun answer => (continuation answer).bind next

instance : Monad (Program Query Answer) where
  pure := .done
  bind := bind

/-- One query as a program. -/
def perform (query : Query) : Program Query Answer (Answer query) := .ask query .done

/-- Go on with the answer of a step that may fail, unless it failed. -/
def andThen {σ ε : Type v} (first : Program Query Answer (Outcome σ ε α))
    (next : σ → α → Program Query Answer (Outcome σ ε β)) :
    Program Query Answer (Outcome σ ε β) := do
  match ← first with
  | (state, .ok a) => next state a
  | (state, .error error) => pure (state, .error error)

/-- The run that an environment leads to, which answers by what was exchanged before. -/
def run (environment : List (Exchange Query Answer) → (query : Query) → Answer query) :
    List (Exchange Query Answer) → Program Query Answer α → List (Exchange Query Answer) × α
  | _, .done result => ([], result)
  | earlier, .ask query next =>
      let answer := environment earlier query
      let rest := run environment (earlier ++ [⟨query, answer⟩]) (next answer)
      (⟨query, answer⟩ :: rest.1, rest.2)

end Program

/-- The exchanges of a complete run, and its result. -/
inductive Runs : Program Query Answer α → List (Exchange Query Answer) → α → Prop where
  | done (result : α) : Runs (.done result) [] result
  | ask (query : Query) (answer : Answer query) {next : Answer query → Program Query Answer α}
      {trace : List (Exchange Query Answer)} {result : α}
      (rest : Runs (next answer) trace result) :
      Runs (.ask query next) (⟨query, answer⟩ :: trace) result

/-- **Every environment leads to a run.** -/
theorem runs_run (environment : List (Exchange Query Answer) → (query : Query) → Answer query)
    (program : Program Query Answer α) (earlier : List (Exchange Query Answer)) :
    Runs program (program.run environment earlier).1 (program.run environment earlier).2 := by
  induction program generalizing earlier with
  | done result => exact .done result
  | ask query next ih => exact .ask query _ (ih _ _)

/-! ## What a program asks -/

/-- Every query that a program may come to is of a kind. -/
def Asks (kind : Query → Prop) : Program Query Answer α → Prop
  | .done _ => True
  | .ask query next => kind query ∧ ∀ answer, Asks kind (next answer)

theorem asks_pure {kind : Query → Prop} (result : α) :
    Asks kind (pure result : Program Query Answer α) := trivial

theorem asks_perform {kind : Query → Prop} {query : Query} (fits : kind query) :
    Asks kind (.perform query : Program Query Answer (Answer query)) :=
  ⟨fits, fun _ => trivial⟩

theorem asks_bind {kind : Query → Prop} {first : Program Query Answer α}
    {next : α → Program Query Answer β} (here : Asks kind first)
    (later : ∀ result, Asks kind (next result)) : Asks kind (first >>= next) := by
  induction first with
  | done result => exact later result
  | ask query continuation ih => exact ⟨here.1, fun answer => ih answer (here.2 answer)⟩

theorem asks_andThen {σ ε : Type v} {kind : Query → Prop}
    {first : Program Query Answer (Outcome σ ε α)}
    {next : σ → α → Program Query Answer (Outcome σ ε β)} (here : Asks kind first)
    (later : ∀ state result, Asks kind (next state result)) : Asks kind (first.andThen next) := by
  refine asks_bind here ?_
  rintro ⟨state, answer⟩
  cases answer with
  | ok result => exact later state result
  | error error => exact asks_pure _

/-! ## Monitors -/

/-- A reader of runs, with a state of its own. -/
structure Monitor (Query : Type u) (Answer : Query → Type v) where
  State : Type
  assumes : State → Exchange Query Answer → Prop
  allows : State → Exchange Query Answer → Prop
  next : State → Exchange Query Answer → State

namespace Monitor

variable (monitor : Monitor Query Answer)

/-- The state after a trace. -/
def after (state : monitor.State) (trace : List (Exchange Query Answer)) : monitor.State :=
  trace.foldl monitor.next state

/-- Every exchange is as assumed in the state that those before it lead to. -/
def Assumed (state : monitor.State) (trace : List (Exchange Query Answer)) : Prop :=
  ∀ before exchange later, trace = before ++ exchange :: later →
    monitor.assumes (monitor.after state before) exchange

/-- Every exchange is allowed in the state that those before it lead to, as long as the
exchanges up to it are as assumed. -/
def Accepts (state : monitor.State) (trace : List (Exchange Query Answer)) : Prop :=
  ∀ before exchange later, trace = before ++ exchange :: later →
    monitor.Assumed state (before ++ [exchange]) →
    monitor.allows (monitor.after state before) exchange

variable {monitor} {state : monitor.State} {exchange : Exchange Query Answer}
  {trace : List (Exchange Query Answer)}

theorem assumed_cons :
    monitor.Assumed state (exchange :: trace) ↔
      monitor.assumes state exchange ∧ monitor.Assumed (monitor.next state exchange) trace := by
  constructor
  · intro assumed
    refine ⟨assumed [] exchange trace rfl, ?_⟩
    intro before other later split
    exact assumed (exchange :: before) other later (congrArg (exchange :: ·) split)
  · rintro ⟨here, rest⟩ before other later split
    cases before with
    | nil =>
        obtain ⟨rfl, _⟩ := List.cons.inj split
        exact here
    | cons first before =>
        obtain ⟨rfl, tail⟩ := List.cons.inj split
        exact rest before other later tail

theorem accepts_nil : monitor.Accepts state [] := by
  intro before exchange later split
  exact absurd split (by simp)

theorem accepts_cons
    (accepted : monitor.assumes state exchange →
      monitor.allows state exchange ∧ monitor.Accepts (monitor.next state exchange) trace) :
    monitor.Accepts state (exchange :: trace) := by
  intro before other later split assumed
  cases before with
  | nil =>
      obtain ⟨rfl, _⟩ := List.cons.inj split
      exact (accepted (assumed_cons.mp assumed).1).1
  | cons first before =>
      obtain ⟨rfl, tail⟩ := List.cons.inj split
      obtain ⟨here, rest⟩ := assumed_cons.mp assumed
      exact (accepted here).2 before other later tail rest

end Monitor

/-! ## What a program keeps -/

/-- Whatever is answered, as long as it is as assumed, every exchange is allowed and the
result is as wanted. -/
def Keeps (monitor : Monitor Query Answer) (wanted : α → monitor.State → Prop) :
    Program Query Answer α → monitor.State → Prop
  | .done result, state => wanted result state
  | .ask query next, state => ∀ answer, monitor.assumes state ⟨query, answer⟩ →
      monitor.allows state ⟨query, answer⟩ ∧
        Keeps monitor wanted (next answer) (monitor.next state ⟨query, answer⟩)

variable {monitor : Monitor Query Answer} {state : monitor.State}

theorem keeps_perform_bind {query : Query} {next : Answer query → Program Query Answer β}
    {wanted : β → monitor.State → Prop} :
    Keeps monitor wanted (.perform query >>= next) state ↔
      ∀ answer, monitor.assumes state ⟨query, answer⟩ →
        monitor.allows state ⟨query, answer⟩ ∧
          Keeps monitor wanted (next answer) (monitor.next state ⟨query, answer⟩) := Iff.rfl

/-- What a sequence keeps, its first part keeps with what the second needs. -/
theorem keeps_bind {first : Program Query Answer α} {next : α → Program Query Answer β}
    {wanted : β → monitor.State → Prop} :
    Keeps monitor wanted (first >>= next) state ↔
      Keeps monitor (fun result state => Keeps monitor wanted (next result) state) first state := by
  induction first generalizing state with
  | done result => exact Iff.rfl
  | ask query continuation ih =>
      constructor
      · intro kept answer assumed
        obtain ⟨allowed, rest⟩ := kept answer assumed
        exact ⟨allowed, (ih answer).mp rest⟩
      · intro kept answer assumed
        obtain ⟨allowed, rest⟩ := kept answer assumed
        exact ⟨allowed, (ih answer).mpr rest⟩

theorem keeps_mono {program : Program Query Answer α} {wanted weaker : α → monitor.State → Prop}
    (kept : Keeps monitor wanted program state)
    (weakens : ∀ result state, wanted result state → weaker result state) :
    Keeps monitor weaker program state := by
  induction program generalizing state with
  | done result => exact weakens result state kept
  | ask query next ih =>
      intro answer assumed
      obtain ⟨allowed, rest⟩ := kept answer assumed
      exact ⟨allowed, ih answer rest⟩

/-- What is held between two steps is needed by the second, or wanted if the first failed. -/
theorem keeps_andThen {σ ε : Type v} {first : Program Query Answer (Outcome σ ε α)}
    {next : σ → α → Program Query Answer (Outcome σ ε β)}
    {wanted : Outcome σ ε β → monitor.State → Prop}
    {middle : Outcome σ ε α → monitor.State → Prop} (kept : Keeps monitor middle first state)
    (goes_on : ∀ reached a state, middle (reached, .ok a) state →
      Keeps monitor wanted (next reached a) state)
    (stops : ∀ reached error state, middle (reached, .error error) state →
      wanted (reached, .error error) state) :
    Keeps monitor wanted (first.andThen next) state := by
  rw [Program.andThen, keeps_bind]
  refine keeps_mono kept ?_
  rintro ⟨reached, answer⟩ state held
  cases answer with
  | error error => exact stops reached error state held
  | ok a => exact goes_on reached a state held

/-- A program that asks only what a monitor does not care about leaves its state. -/
theorem keeps_of_asks {kind : Query → Prop}
    (quiet : ∀ query, kind query → ∀ answer state, monitor.allows state ⟨query, answer⟩ ∧
      monitor.next state ⟨query, answer⟩ = state)
    {program : Program Query Answer α} (asks : Asks kind program) :
    Keeps monitor (fun _ after => after = state) program state := by
  induction program with
  | done result => exact rfl
  | ask query next ih =>
      intro answer _
      obtain ⟨allowed, same⟩ := quiet query asks.1 answer state
      refine ⟨allowed, ?_⟩
      rw [same]
      exact ih answer (asks.2 answer)

/-- **Every run of a program is accepted**, and ends as wanted if it was as assumed. -/
theorem keeps_run {program : Program Query Answer α} {wanted : α → monitor.State → Prop}
    {trace : List (Exchange Query Answer)} {result : α} (kept : Keeps monitor wanted program state)
    (runs : Runs program trace result) :
    monitor.Accepts state trace ∧
      (monitor.Assumed state trace → wanted result (monitor.after state trace)) := by
  induction runs generalizing state with
  | done result => exact ⟨Monitor.accepts_nil, fun _ => kept⟩
  | ask query answer rest ih =>
      constructor
      · apply Monitor.accepts_cons
        intro assumed
        obtain ⟨allowed, further⟩ := kept answer assumed
        exact ⟨allowed, (ih further).1⟩
      · intro assumed
        obtain ⟨here, later⟩ := Monitor.assumed_cons.mp assumed
        exact (ih (kept answer here).2).2 later

end

end Omnivox.Foundations
