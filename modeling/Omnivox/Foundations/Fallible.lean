import Mathlib

/-!
# Fallible computations

A fallible step answers with a value or an error, and a sequence of steps stops
at its first error. The rules here read a successful sequence backwards, one step
at a time.
-/

set_option autoImplicit false

namespace Omnivox.Foundations

universe u v w

variable {ε : Type u} {α β σ : Type v} {γ : Type w}

/-- An absent value is the given error. -/
def orError (error : ε) : Option α → Except ε α
  | some a => .ok a
  | none => .error error

/-- Stop with the given error unless the condition holds. -/
def ensure (condition : Bool) (error : ε) : Except ε Unit :=
  if condition then .ok () else .error error

@[simp] theorem orError_eq_ok {error : ε} {value : Option α} {a : α} :
    orError error value = .ok a ↔ value = some a := by
  cases value <;> simp [orError]

@[simp] theorem ensure_eq_ok {condition : Bool} {error : ε} {u : Unit} :
    ensure condition error = .ok u ↔ condition = true := by
  cases condition <;> simp [ensure]

theorem mapError_eq_ok {δ : Type u} {answer : Except δ α} {text : δ → ε} {a : α} :
    answer.mapError text = .ok a ↔ answer = .ok a := by
  cases answer with
  | error e =>
      constructor
      · intro result
        cases result
      · intro result
        cases result
  | ok b =>
      constructor
      · intro result
        cases result
        rfl
      · intro result
        cases result
        rfl

theorem toOption_eq_some {answer : Except ε α} {a : α} :
    answer.toOption = some a ↔ answer = .ok a := by
  cases answer with
  | error e => simp [Except.toOption]
  | ok b => simp [Except.toOption]

theorem map_eq_ok {answer : Except ε α} {next : α → β} {b : β} :
    answer.map next = .ok b ↔ ∃ a, answer = .ok a ∧ next a = b := by
  cases answer with
  | error e =>
      constructor
      · intro result
        cases result
      · rintro ⟨_, failed, _⟩
        cases failed
  | ok a =>
      constructor
      · intro result
        cases result
        exact ⟨a, rfl, rfl⟩
      · rintro ⟨_, same, rfl⟩
        cases same
        rfl

theorem ok_bind (a : α) (next : α → Except ε β) : (Except.ok a >>= next) = next a := rfl

/-- A sequence succeeds when both of its steps do. -/
theorem bind_eq_ok {first : Except ε α} {next : α → Except ε β} {b : β} :
    (first >>= next) = .ok b ↔ ∃ a, first = .ok a ∧ next a = .ok b := by
  cases first with
  | error e =>
      constructor
      · intro result
        cases result
      · rintro ⟨_, failed, _⟩
        cases failed
  | ok a =>
      constructor
      · intro result
        exact ⟨a, rfl, result⟩
      · rintro ⟨_, same, result⟩
        cases same
        exact result

/-- A check before a computation. -/
theorem seq_eq_ok {first : Except ε PUnit} {next : Except ε β} {b : β} :
    (first >>= fun _ => next) = .ok b ↔ first = .ok ⟨⟩ ∧ next = .ok b := by
  rw [bind_eq_ok]
  exact ⟨fun ⟨_, checked, result⟩ => ⟨checked, result⟩, fun ⟨checked, result⟩ =>
    ⟨⟨⟩, checked, result⟩⟩

theorem foldlM_cons_eq_ok {step : σ → γ → Except ε σ} {state final : σ} {a : γ} {rest : List γ} :
    (a :: rest).foldlM step state = .ok final ↔
      ∃ next, step state a = .ok next ∧ rest.foldlM step next = .ok final := by
  rw [List.foldlM_cons]
  exact bind_eq_ok

/-- A fold whose steps can only succeed with one result is the fold of the results. -/
theorem foldl_of_foldlM_eq_ok {step : σ → γ → Except ε σ} {next : σ → γ → σ}
    (spec : ∀ state a final, step state a = .ok final → final = next state a)
    {state final : σ} {l : List γ} (done : l.foldlM step state = .ok final) :
    final = l.foldl next state := by
  induction l generalizing state with
  | nil =>
      cases done
      rfl
  | cons a rest ih =>
      obtain ⟨middle, first, further⟩ := foldlM_cons_eq_ok.mp done
      rw [spec state a middle first] at further
      exact ih further

/-- What every step keeps, a fold keeps. -/
theorem foldlM_keeps (holds : σ → Prop) {step : σ → γ → Except ε σ} {state final : σ}
    {l : List γ} (keeps : ∀ a ∈ l, ∀ state next, holds state → step state a = .ok next → holds next)
    (initial : holds state) (done : l.foldlM step state = .ok final) : holds final := by
  induction l generalizing state with
  | nil =>
      cases done
      exact initial
  | cons a rest ih =>
      obtain ⟨middle, first, further⟩ := foldlM_cons_eq_ok.mp done
      obtain ⟨here, later⟩ := List.forall_mem_cons.mp keeps
      exact ih later (here state middle initial first) further

/-- A check of every element succeeds when each does. -/
theorem forM_eq_ok {check : γ → Except ε PUnit} {l : List γ} {u : PUnit} :
    l.forM check = .ok u ↔ ∀ a ∈ l, check a = .ok ⟨⟩ := by
  induction l with
  | nil => exact ⟨fun _ _ member => (List.not_mem_nil member).elim, fun _ => rfl⟩
  | cons a rest ih =>
      have split : (a :: rest).forM check = (check a >>= fun _ => rest.forM check) := rfl
      rw [split, bind_eq_ok, List.forall_mem_cons, ← ih]
      exact ⟨fun ⟨_, here, later⟩ => ⟨here, later⟩, fun ⟨here, later⟩ => ⟨⟨⟩, here, later⟩⟩

/-- A sequence of answers holds one for each element. -/
theorem mapM_eq_ok {step : γ → Except ε β} {l : List γ} {out : List β} :
    l.mapM step = .ok out ↔ List.Forall₂ (fun a b => step a = .ok b) l out := by
  induction l generalizing out with
  | nil =>
      rw [List.mapM_nil, List.forall₂_nil_left_iff]
      constructor
      · intro result
        cases result
        rfl
      · rintro rfl
        rfl
  | cons a rest ih =>
      rw [List.mapM_cons, bind_eq_ok]
      constructor
      · rintro ⟨b, here, result⟩
        obtain ⟨others, later, joined⟩ := bind_eq_ok.mp result
        cases joined
        exact List.Forall₂.cons here (ih.mp later)
      · intro matched
        cases matched with
        | cons here later => exact ⟨_, here, bind_eq_ok.mpr ⟨_, ih.mpr later, rfl⟩⟩

/-- Each answer is that of an element. -/
theorem mem_of_mapM_eq_ok {step : γ → Except ε β} {l : List γ} {out : List β}
    (done : l.mapM step = .ok out) : ∀ b ∈ out, ∃ a ∈ l, step a = .ok b := by
  have matched := mapM_eq_ok.mp done
  clear done
  induction matched with
  | nil => exact fun _ member => (List.not_mem_nil member).elim
  | cons here _ ih =>
      refine List.forall_mem_cons.mpr ⟨⟨_, List.mem_cons_self, here⟩, fun b member => ?_⟩
      obtain ⟨a, held, answered⟩ := ih b member
      exact ⟨a, List.mem_cons_of_mem _ held, answered⟩

/-- Each element has its answer. -/
theorem answer_of_mapM_eq_ok {step : γ → Except ε β} {l : List γ} {out : List β}
    (done : l.mapM step = .ok out) : ∀ a ∈ l, ∃ b ∈ out, step a = .ok b := by
  have matched := mapM_eq_ok.mp done
  clear done
  induction matched with
  | nil => exact fun _ member => (List.not_mem_nil member).elim
  | cons here _ ih =>
      refine List.forall_mem_cons.mpr ⟨⟨_, List.mem_cons_self, here⟩, fun a member => ?_⟩
      obtain ⟨b, held, answered⟩ := ih a member
      exact ⟨b, List.mem_cons_of_mem _ held, answered⟩

/-- Steps that all answer make the list of the answers. -/
theorem mapM_ok {step : γ → Except ε β} {next : γ → β} {l : List γ}
    (each : ∀ a ∈ l, step a = .ok (next a)) : l.mapM step = .ok (l.map next) := by
  rw [mapM_eq_ok, List.forall₂_map_right_iff]
  exact List.forall₂_same.mpr each

/-- A list of steps that all find something finds it all. -/
theorem mapM_eq_some {step : γ → Option β} {l : List γ} (finds : ∀ a ∈ l, ∃ b, step a = some b) :
    ∃ out, l.mapM step = some out ∧ ∀ b ∈ out, ∃ a ∈ l, step a = some b := by
  induction l with
  | nil => exact ⟨[], rfl, fun _ member => (List.not_mem_nil member).elim⟩
  | cons a rest ih =>
      obtain ⟨⟨b, here⟩, later⟩ := List.forall_mem_cons.mp finds
      obtain ⟨out, found, sources⟩ := ih later
      refine ⟨b :: out, ?_, List.forall_mem_cons.mpr ⟨⟨a, List.mem_cons_self, here⟩,
        fun c member => ?_⟩⟩
      · rw [List.mapM_cons, here, found]
        rfl
      · obtain ⟨source, inRest, made⟩ := sources c member
        exact ⟨source, List.mem_cons_of_mem _ inRest, made⟩

/-- A fold whose steps first answer and then go on answers everywhere, and goes on with the
answers. -/
theorem foldlM_bind_eq_ok [Inhabited β] {answer : γ → Except ε β} {next : σ → β → Except ε σ}
    {state final : σ} {l : List γ} :
    l.foldlM (fun state a => answer a >>= next state) state = .ok final ↔
      ∃ given : γ → β, (∀ a ∈ l, answer a = .ok (given a)) ∧
        (l.map given).foldlM next state = .ok final := by
  constructor
  · intro done
    refine ⟨fun a => (answer a).toOption.getD default, ?_⟩
    induction l generalizing state with
    | nil => exact ⟨fun _ member => (List.not_mem_nil member).elim, done⟩
    | cons a rest ih =>
        obtain ⟨middle, first, further⟩ := foldlM_cons_eq_ok.mp done
        obtain ⟨b, here, first⟩ := bind_eq_ok.mp first
        obtain ⟨later, folded⟩ := ih further
        have given : answer a = .ok ((answer a).toOption.getD default) := by
          rw [here]
          rfl
        refine ⟨List.forall_mem_cons.mpr ⟨given, later⟩, ?_⟩
        rw [List.map_cons]
        refine foldlM_cons_eq_ok.mpr ⟨middle, ?_, folded⟩
        rw [here]
        exact first
  · rintro ⟨given, answers, folded⟩
    induction l generalizing state with
    | nil => exact folded
    | cons a rest ih =>
        obtain ⟨here, later⟩ := List.forall_mem_cons.mp answers
        rw [List.map_cons] at folded
        obtain ⟨middle, first, folded⟩ := foldlM_cons_eq_ok.mp folded
        refine foldlM_cons_eq_ok.mpr ⟨middle, ?_, ih later folded⟩
        rw [here]
        exact first

/-- Stop at the first element whose key was seen before. -/
def ensureDistinct {κ : Type*} [BEq κ] (key : γ → κ) (error : γ → ε) :
    List κ → List γ → Except ε Unit
  | _, [] => .ok ()
  | seen, a :: rest => do
      ensure (!seen.contains (key a)) (error a)
      ensureDistinct key error (key a :: seen) rest

/-- No key is there twice, and none was seen before. -/
theorem ensureDistinct_eq_ok {κ : Type*} [BEq κ] [LawfulBEq κ] {key : γ → κ} {error : γ → ε}
    {seen : List κ} {l : List γ} {u : Unit} :
    ensureDistinct key error seen l = .ok u ↔
      (l.map key).Nodup ∧ ∀ a ∈ l, key a ∉ seen := by
  induction l generalizing seen with
  | nil => exact ⟨fun _ => ⟨List.nodup_nil, fun _ member => (List.not_mem_nil member).elim⟩,
      fun _ => rfl⟩
  | cons a rest ih =>
      rw [ensureDistinct, seq_eq_ok, ensure_eq_ok, ih, List.map_cons, List.nodup_cons,
        List.forall_mem_cons, Bool.not_eq_true', ← Bool.not_eq_true, List.contains_iff_mem]
      constructor
      · rintro ⟨fresh, distinct, unseen⟩
        refine ⟨⟨?_, distinct⟩, fresh, fun b member => ?_⟩
        · intro again
          obtain ⟨b, member, same⟩ := List.mem_map.mp again
          exact unseen b member (same ▸ List.mem_cons_self)
        · exact fun before => unseen b member (List.mem_cons_of_mem _ before)
      · rintro ⟨⟨once, distinct⟩, fresh, unseen⟩
        refine ⟨fresh, distinct, fun b member before => ?_⟩
        rcases List.mem_cons.mp before with same | earlier
        · exact once (same ▸ List.mem_map_of_mem member)
        · exact unseen b member earlier

/-! ## Which errors -/

/-- Every error of an answer is an allowed one. -/
def FailsWith (allowed : ε → Prop) (answer : Except ε α) : Prop :=
  ∀ error, answer = .error error → allowed error

namespace FailsWith

variable {allowed : ε → Prop}

theorem ok (a : α) : FailsWith allowed (.ok a : Except ε α) := by
  intro e failed
  cases failed

theorem error {e : ε} (here : allowed e) : FailsWith allowed (.error e : Except ε α) := by
  intro other failed
  rw [← Except.error.inj failed]
  exact here

theorem ensure {condition : Bool} {e : ε} (here : condition = false → allowed e) :
    FailsWith allowed (ensure condition e) := by
  cases condition with
  | true => exact ok ()
  | false => exact error (here rfl)

theorem orError {value : Option α} {e : ε} (here : allowed e) :
    FailsWith allowed (orError e value) := by
  cases value with
  | none => exact error here
  | some a => exact ok a

theorem bind {first : Except ε α} {next : α → Except ε β} (before : FailsWith allowed first)
    (behind : ∀ a, FailsWith allowed (next a)) : FailsWith allowed (first >>= next) := by
  cases first with
  | error e => exact error (before e rfl)
  | ok a => exact behind a

theorem foldlM {step : σ → γ → Except ε σ} {l : List γ}
    (each : ∀ a ∈ l, ∀ state, FailsWith allowed (step state a)) (state : σ) :
    FailsWith allowed (l.foldlM step state) := by
  induction l generalizing state with
  | nil => exact ok state
  | cons a rest ih =>
      rw [List.foldlM_cons]
      exact bind (each a List.mem_cons_self state) fun next =>
        ih (fun b member => each b (List.mem_cons_of_mem _ member)) next

/-- What is behind may rest on the answer before. -/
theorem bind_of_ok {first : Except ε α} {next : α → Except ε β}
    (before : FailsWith allowed first)
    (behind : ∀ a, first = .ok a → FailsWith allowed (next a)) :
    FailsWith allowed (first >>= next) := by
  cases first with
  | error e => exact error (before e rfl)
  | ok a => exact behind a rfl

/-- Steps that fail in an allowed way where an invariant holds that they keep. -/
theorem foldlM_of_keeps (holds : σ → Prop) {step : σ → γ → Except ε σ} {l : List γ}
    (each : ∀ a ∈ l, ∀ state, holds state → FailsWith allowed (step state a))
    (keeps : ∀ a ∈ l, ∀ state next, holds state → step state a = .ok next → holds next)
    {state : σ} (initial : holds state) : FailsWith allowed (l.foldlM step state) := by
  induction l generalizing state with
  | nil => exact ok state
  | cons a rest ih =>
      rw [List.foldlM_cons]
      obtain ⟨here, later⟩ := List.forall_mem_cons.mp each
      obtain ⟨kept, keepsLater⟩ := List.forall_mem_cons.mp keeps
      exact bind_of_ok (here state initial) fun next stepped =>
        ih later keepsLater (kept state next initial stepped)

end FailsWith

/-! ## A fold of guarded steps -/

/-- Every element is admitted in the state that the elements before it lead to. -/
def AdmittedAlong (admits : σ → γ → Prop) (next : σ → γ → σ) (state : σ) (l : List γ) : Prop :=
  ∀ earlier a later, l = earlier ++ a :: later → admits (earlier.foldl next state) a

theorem admittedAlong_nil (admits : σ → γ → Prop) (next : σ → γ → σ) (state : σ) :
    AdmittedAlong admits next state [] := by
  intro earlier a later split
  exact absurd split (by simp)

theorem admittedAlong_cons {admits : σ → γ → Prop} {next : σ → γ → σ} {state : σ} {a : γ}
    {rest : List γ} :
    AdmittedAlong admits next state (a :: rest) ↔
      admits state a ∧ AdmittedAlong admits next (next state a) rest := by
  constructor
  · intro along
    refine ⟨along [] a rest rfl, ?_⟩
    intro earlier b later split
    exact along (a :: earlier) b later (congrArg (a :: ·) split)
  · rintro ⟨here, along⟩ earlier b later split
    cases earlier with
    | nil =>
        obtain ⟨rfl, _⟩ := List.cons.inj split
        exact here
    | cons c earlier =>
        obtain ⟨rfl, tail⟩ := List.cons.inj split
        exact along earlier b later tail

/-- **Guarded folds.** When a step succeeds exactly where its guard holds, a fold
of it succeeds exactly when every guard along the way holds, with the result of
the unguarded fold. -/
theorem foldlM_eq_ok_iff {step : σ → γ → Except ε σ} {admits : σ → γ → Prop}
    {next : σ → γ → σ}
    (spec : ∀ state a final, step state a = .ok final ↔ admits state a ∧ final = next state a)
    {state final : σ} {l : List γ} :
    l.foldlM step state = .ok final ↔
      AdmittedAlong admits next state l ∧ final = l.foldl next state := by
  induction l generalizing state with
  | nil =>
      rw [List.foldlM_nil, List.foldl_nil]
      constructor
      · intro result
        cases result
        exact ⟨admittedAlong_nil admits next final, rfl⟩
      · rintro ⟨_, rfl⟩
        rfl
  | cons a rest ih =>
      rw [foldlM_cons_eq_ok, admittedAlong_cons, List.foldl_cons]
      constructor
      · rintro ⟨middle, first, further⟩
        obtain ⟨here, rfl⟩ := (spec _ _ _).mp first
        obtain ⟨along, result⟩ := ih.mp further
        exact ⟨⟨here, along⟩, result⟩
      · rintro ⟨⟨here, along⟩, result⟩
        exact ⟨next state a, (spec _ _ _).mpr ⟨here, rfl⟩, ih.mpr ⟨along, result⟩⟩

/-! ## Failures that keep the state -/

/-- The state after a step that may fail, and its answer. -/
abbrev Outcome (σ : Type*) (ε : Type*) (α : Type*) := σ × Except ε α

/-- Go on with the answer, unless the step failed. -/
def andThen {σ ε α β : Type*} (outcome : Outcome σ ε α) (next : σ → α → Outcome σ ε β) :
    Outcome σ ε β :=
  match outcome with
  | (state, .ok a) => next state a
  | (state, .error e) => (state, .error e)

section

variable {σ ε α β γ : Type*}

@[simp] theorem andThen_ok (state : σ) (a : α) (next : σ → α → Outcome σ ε β) :
    andThen (state, .ok a) next = next state a := rfl

@[simp] theorem andThen_error (state : σ) (e : ε) (next : σ → α → Outcome σ ε β) :
    andThen (state, .error e) next = (state, .error e) := rfl

/-- A failure is passed on with its state. -/
theorem andThen_of_error {outcome : Outcome σ ε α} {e : ε} (failed : outcome.2 = .error e)
    (next : σ → α → Outcome σ ε β) : andThen outcome next = (outcome.1, .error e) := by
  obtain ⟨state, answer⟩ := outcome
  simp only at failed
  rw [failed]
  rfl

theorem andThen_assoc (outcome : Outcome σ ε α) (next : σ → α → Outcome σ ε β)
    (last : σ → β → Outcome σ ε γ) :
    andThen (andThen outcome next) last =
      andThen outcome fun state a => andThen (next state a) last := by
  obtain ⟨state, answer⟩ := outcome
  cases answer <;> rfl

/-- A sequence of steps succeeds when both do. -/
theorem andThen_eq_ok {outcome : Outcome σ ε α} {next : σ → α → Outcome σ ε β} {final : σ} {b : β} :
    andThen outcome next = (final, .ok b) ↔
      ∃ state a, outcome = (state, .ok a) ∧ next state a = (final, .ok b) := by
  obtain ⟨state, answer⟩ := outcome
  cases answer with
  | error e =>
      constructor
      · intro result
        cases result
      · rintro ⟨_, _, failed, _⟩
        cases failed
  | ok a =>
      constructor
      · intro result
        exact ⟨state, a, rfl, result⟩
      · rintro ⟨_, _, same, result⟩
        cases same
        exact result

/-- Take a step for each element and collect what the steps answer, up to the
first failure. -/
def runAll (step : σ → γ → Outcome σ ε (List β)) : σ → List γ → Outcome σ ε (List β)
  | state, [] => (state, .ok [])
  | state, a :: rest =>
      andThen (step state a) fun state first =>
        andThen (runAll step state rest) fun state others => (state, .ok (first ++ others))

/-- A run of two lists is a run of the first and then of the second. -/
theorem runAll_append (step : σ → γ → Outcome σ ε (List β)) (state : σ) (first second : List γ) :
    runAll step state (first ++ second) =
      andThen (runAll step state first) fun state output =>
        andThen (runAll step state second) fun state others => (state, .ok (output ++ others)) := by
  induction first generalizing state with
  | nil =>
      simp only [List.nil_append, runAll, andThen_ok]
      obtain ⟨final, answer⟩ := runAll step state second
      cases answer <;> rfl
  | cons a first ih =>
      simp only [List.cons_append, runAll]
      obtain ⟨next, answer⟩ := step state a
      cases answer with
      | error e => rfl
      | ok output =>
          simp only [andThen_ok, ih]
          obtain ⟨middle, answer⟩ := runAll step next first
          cases answer with
          | error e => rfl
          | ok outputs =>
              simp only [andThen_ok]
              obtain ⟨final, answer⟩ := runAll step middle second
              cases answer with
              | error e => rfl
              | ok others => simp only [andThen_ok, List.append_assoc]

end

end Omnivox.Foundations
