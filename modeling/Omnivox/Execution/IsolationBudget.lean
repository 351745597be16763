import Mathlib
import Omnivox.Foundations.Bounded
import Omnivox.Foundations.Processes

/-!
# The budget of isolated calls

All engines share a budget of two native calls. A call takes a lease of it under the lock: it
claims the slot of its engine, counts itself, and gives both back when the lease ends. The
lease has a clone with the caller and one with the native thread, and ends with the later of
them. A caller that leaves its native call behind marks the lease first, without the lock.

This is the protocol of the leases alone. Its steps are those of a caller's role or of the
role of a native thread, and the budget counts the roles at every step (`BudgetKept.step`).
-/

set_option autoImplicit false

namespace Omnivox.Execution

open Foundations

def MAX_ISOLATED_CALLS : Nat := 2

/-- The counters, the lock, and whether the slot of an engine is taken. -/
structure IsolationBudget where
  inFlight : Nat
  quarantined : Nat
  availability : Bool
  engineActive : String → Bool

/-- The end of a lease. -/
inductive ReleaseStage where
  | locking
  | reading
  | unmarking
  | uncounting
  | vacating
  | notifying
  deriving Repr, DecidableEq

namespace IsolationBudget

/-- Nothing runs, and the lock is free. -/
def new : IsolationBudget where
  inFlight := 0
  quarantined := 0
  availability := false
  engineActive := fun _ => false

def lock (budget : IsolationBudget) : Option IsolationBudget :=
  if budget.availability then none else some { budget with availability := true }

def unlock (budget : IsolationBudget) : IsolationBudget := { budget with availability := false }

def setActive (budget : IsolationBudget) (engineId : String) (active : Bool) : IsolationBudget :=
  { budget with engineActive := Function.update budget.engineActive engineId active }

/-- `fetch_sub(1)` of an unsigned word, which wraps. -/
def fetchSub (n : Nat) : Nat := if n = 0 then usizeMax else n - 1

/-- The lock is held from its acquisition to the notification. The mark, the count and the
slot are given back in this order. -/
def release (budget : IsolationBudget) (engineId : String) (quarantined : Bool) :
    ReleaseStage → Option (IsolationBudget × Option ReleaseStage)
  | .locking => budget.lock.map fun budget => (budget, some .reading)
  | .reading => some (budget, some (if quarantined then .unmarking else .uncounting))
  | .unmarking =>
      some ({ budget with quarantined := fetchSub budget.quarantined }, some .uncounting)
  | .uncounting => some ({ budget with inFlight := fetchSub budget.inFlight }, some .vacating)
  | .vacating => some (budget.setActive engineId false, some .notifying)
  | .notifying => some (budget.unlock, none)

end IsolationBudget

/-! ## Roles -/

/-- What a caller has: nothing, the lock, the lock and the slot, the lock and the lease, or the
lease before and behind the start of the native thread. -/
inductive CallerRole where
  | outside
  | contending
  | claiming
  | granted
  | starting
  | holding
  | quarantining
  | releasing (stage : ReleaseStage)
  | gone
  deriving Repr, DecidableEq

inductive TaskRole where
  | absent
  | holding
  | releasing (stage : ReleaseStage)
  | gone
  deriving Repr, DecidableEq

/-- A call as the budget sees it. -/
structure Lease where
  engineId : String
  caller : CallerRole
  task : TaskRole
  quarantined : Bool
  deriving Repr, DecidableEq

def CallerRole.holds : CallerRole → Bool
  | .granted | .starting | .holding | .quarantining => true
  | _ => false

def TaskRole.holds : TaskRole → Bool
  | .holding => true
  | _ => false

def CallerRole.afterRelease : Option ReleaseStage → CallerRole
  | some stage => .releasing stage
  | none => .gone

def TaskRole.afterRelease : Option ReleaseStage → TaskRole
  | some stage => .releasing stage
  | none => .gone

/-- One step of a caller or of a native thread. -/
inductive LeaseStep : IsolationBudget → Lease → IsolationBudget → Lease → Prop where
  | still (budget : IsolationBudget) (lease : Lease) : LeaseStep budget lease budget lease
  | locked {budget locked : IsolationBudget} {e : String} {t : TaskRole} {q : Bool}
      (free : budget.lock = some locked) :
      LeaseStep budget ⟨e, .outside, t, q⟩ locked ⟨e, .contending, t, q⟩
  | claimed {budget : IsolationBudget} {e : String} {t : TaskRole} {q : Bool}
      (vacant : budget.engineActive e = false) :
      LeaseStep budget ⟨e, .contending, t, q⟩ (budget.setActive e true) ⟨e, .claiming, t, q⟩
  | declined (budget : IsolationBudget) (e : String) (t : TaskRole) (q : Bool) :
      LeaseStep budget ⟨e, .claiming, t, q⟩ (budget.setActive e false) ⟨e, .contending, t, q⟩
  | granted {budget : IsolationBudget} {e : String} {t : TaskRole} {q : Bool}
      (room : budget.inFlight < MAX_ISOLATED_CALLS) :
      LeaseStep budget ⟨e, .claiming, t, q⟩ { budget with inFlight := budget.inFlight + 1 }
        ⟨e, .granted, t, q⟩
  | admitted (budget : IsolationBudget) (e : String) (t : TaskRole) (q : Bool) :
      LeaseStep budget ⟨e, .granted, t, q⟩ budget.unlock ⟨e, .starting, t, q⟩
  | slept (budget : IsolationBudget) (e : String) (t : TaskRole) (q : Bool) :
      LeaseStep budget ⟨e, .contending, t, q⟩ budget.unlock ⟨e, .outside, t, q⟩
  | gaveUp (budget : IsolationBudget) (e : String) (t : TaskRole) (q : Bool) :
      LeaseStep budget ⟨e, .contending, t, q⟩ budget.unlock ⟨e, .gone, t, q⟩
  | spawned (budget : IsolationBudget) (e : String) (t : TaskRole) (q : Bool) :
      LeaseStep budget ⟨e, .starting, t, q⟩ budget ⟨e, .holding, .holding, q⟩
  | forwent (budget : IsolationBudget) (e : String) (t : TaskRole) (q : Bool) :
      LeaseStep budget ⟨e, .starting, t, q⟩ budget ⟨e, .holding, t, q⟩
  | swapped (budget : IsolationBudget) (e : String) (t : TaskRole) :
      LeaseStep budget ⟨e, .holding, t, false⟩ budget ⟨e, .quarantining, t, true⟩
  | marked (budget : IsolationBudget) (e : String) (t : TaskRole) (q : Bool) :
      LeaseStep budget ⟨e, .quarantining, t, q⟩
        { budget with quarantined := wrappingAdd 64 budget.quarantined 1 } ⟨e, .holding, t, q⟩
  | left {budget : IsolationBudget} {e : String} {t : TaskRole} {q : Bool} (kept : t.holds = true) :
      LeaseStep budget ⟨e, .holding, t, q⟩ budget ⟨e, .gone, t, q⟩
  | ending {budget : IsolationBudget} {e : String} {t : TaskRole} {q : Bool}
      (last : t.holds = false) :
      LeaseStep budget ⟨e, .holding, t, q⟩ budget ⟨e, .releasing .locking, t, q⟩
  | released {budget budget' : IsolationBudget} {e : String} {t : TaskRole} {q : Bool}
      {stage : ReleaseStage} {next : Option ReleaseStage}
      (step : budget.release e q stage = some (budget', next)) :
      LeaseStep budget ⟨e, .releasing stage, t, q⟩ budget' ⟨e, .afterRelease next, t, q⟩
  | taskLeft {budget : IsolationBudget} {e : String} {c : CallerRole} {q : Bool}
      (kept : c.holds = true) :
      LeaseStep budget ⟨e, c, .holding, q⟩ budget ⟨e, c, .gone, q⟩
  | taskEnding {budget : IsolationBudget} {e : String} {c : CallerRole} {q : Bool}
      (last : c.holds = false) :
      LeaseStep budget ⟨e, c, .holding, q⟩ budget ⟨e, c, .releasing .locking, q⟩
  | taskReleased {budget budget' : IsolationBudget} {e : String} {c : CallerRole} {q : Bool}
      {stage : ReleaseStage} {next : Option ReleaseStage}
      (step : budget.release e q stage = some (budget', next)) :
      LeaseStep budget ⟨e, c, .releasing stage, q⟩ budget' ⟨e, c, .afterRelease next, q⟩

/-! ## What the budget counts -/

namespace ReleaseStage

def locks : ReleaseStage → Bool
  | .locking => false
  | _ => true

def marked : ReleaseStage → Bool
  | .locking | .reading | .unmarking => true
  | _ => false

def counted : ReleaseStage → Bool
  | .locking | .reading | .unmarking | .uncounting => true
  | _ => false

def claims : ReleaseStage → Bool
  | .notifying => false
  | _ => true

end ReleaseStage

namespace Lease

/-- Where the end of the lease has come to. -/
def ending (lease : Lease) : Option ReleaseStage :=
  match lease.caller, lease.task with
  | .releasing stage, _ => some stage
  | _, .releasing stage => some stage
  | _, _ => none

/-- The lease lives: someone has a clone of it. -/
def lives (lease : Lease) : Bool := lease.caller.holds || lease.task.holds

/-- One of the two threads has the lock. -/
def locks (lease : Lease) : Bool :=
  match lease.caller with
  | .contending | .claiming | .granted => true
  | _ => lease.ending.any ReleaseStage.locks

/-- The slot of the engine is taken for this call. -/
def claims (lease : Lease) : Bool :=
  match lease.caller with
  | .claiming => true
  | _ => lease.lives || lease.ending.any ReleaseStage.claims

def counted (lease : Lease) : Bool := lease.lives || lease.ending.any ReleaseStage.counted

/-- The mark is counted behind the swap, until it is taken back. -/
def marked (lease : Lease) : Bool :=
  match lease.caller with
  | .quarantining => false
  | _ => lease.quarantined && (lease.lives || lease.ending.any ReleaseStage.marked)

/-- The slot of one engine is taken for this call. -/
def claimsOf (engineId : String) (lease : Lease) : Bool :=
  lease.engineId == engineId && lease.claims

/-- The native thread runs behind the start of the caller, ends the lease only when the caller
is gone, and only a mark that was made is taken back. -/
def staged (lease : Lease) : Bool :=
  (match lease.task, lease.caller with
    | .absent, _ => true
    | .holding, .holding | .holding, .quarantining | .holding, .gone => true
    | .holding, _ => false
    | .releasing _, .gone => true
    | .releasing _, _ => false
    | .gone, .holding | .gone, .quarantining | .gone, .releasing _ | .gone, .gone => true
    | .gone, _ => false) &&
  (match lease.caller with
    | .holding | .releasing _ | .gone => true
    | .quarantining => lease.quarantined
    | _ => !lease.quarantined) &&
  (match lease.ending with
    | some .unmarking => lease.quarantined
    | _ => true)

end Lease

/-! ## One step -/

namespace IsolationBudget

theorem lock_eq_some {budget locked : IsolationBudget} :
    budget.lock = some locked ↔
      budget.availability = false ∧ locked = { budget with availability := true } := by
  unfold lock
  cases held : budget.availability with
  | true => simp
  | false => simp [eq_comm]

theorem fetchSub_of_pos {n : Nat} (positive : 0 < n) : fetchSub n = n - 1 :=
  if_neg (Nat.ne_of_gt positive)

end IsolationBudget

/-- What the budget says about one lease. -/
structure Fits (budget : IsolationBudget) (lease : Lease) : Prop where
  staged : lease.staged = true
  locks : lease.locks = true → budget.availability = true
  claims : lease.claims = true → budget.engineActive lease.engineId = true
  counted : lease.counted = true → 0 < budget.inFlight
  marked : lease.marked = true → 0 < budget.quarantined
  limit : budget.inFlight ≤ MAX_ISOLATED_CALLS
  few : budget.quarantined ≤ budget.inFlight

/-- The budget moves as the lease does. -/
structure Balanced (budget : IsolationBudget) (lease : Lease) (budget' : IsolationBudget)
    (lease' : Lease) : Prop where
  engineId : lease'.engineId = lease.engineId
  locks : budget'.availability.toNat + lease.locks.toNat =
    budget.availability.toNat + lease'.locks.toNat
  slot : (budget'.engineActive lease.engineId).toNat + lease.claims.toNat =
    (budget.engineActive lease.engineId).toNat + lease'.claims.toNat
  others : ∀ engineId ≠ lease.engineId,
    budget'.engineActive engineId = budget.engineActive engineId
  counted : budget'.inFlight + lease.counted.toNat = budget.inFlight + lease'.counted.toNat
  marked : budget'.quarantined + lease.marked.toNat = budget.quarantined + lease'.marked.toNat
  limit : budget'.inFlight ≤ MAX_ISOLATED_CALLS
  staged : lease'.staged = true

namespace LeaseStep

variable {budget budget' : IsolationBudget} {lease lease' : Lease} {e : String} {c : CallerRole}
  {t : TaskRole} {q : Bool} {stage : ReleaseStage} {next : Option ReleaseStage}

/-- Nobody has a clone of the lease, and it is being ended. -/
structure Closing (lease : Lease) (ending : Option ReleaseStage) : Prop where
  locks : lease.locks = ending.any ReleaseStage.locks
  claims : lease.claims = ending.any ReleaseStage.claims
  counted : lease.counted = ending.any ReleaseStage.counted
  marked : lease.marked = (lease.quarantined && ending.any ReleaseStage.marked)

theorem closing_caller (last : t = .absent ∨ t = .gone) (ending : Option ReleaseStage) :
    Closing ⟨e, .afterRelease ending, t, q⟩ ending := by
  rcases last with rfl | rfl <;> cases ending <;> exact ⟨rfl, rfl, rfl, rfl⟩

theorem closing_task (ending : Option ReleaseStage) :
    Closing ⟨e, .gone, .afterRelease ending, q⟩ ending := by
  cases ending <;> exact ⟨rfl, rfl, rfl, rfl⟩

/-- **A step of the end of a lease** moves the budget as the lease moves. -/
theorem balanced_release (step : budget.release lease.engineId lease.quarantined stage =
      some (budget', next)) (fits : Fits budget lease) (here : Closing lease (some stage))
    (there : Closing lease' next) (same : lease'.engineId = lease.engineId)
    (flag : lease'.quarantined = lease.quarantined)
    (honest : stage = .unmarking → lease.quarantined = true)
    (staged : lease'.staged = true) : Balanced budget lease budget' lease' := by
  obtain ⟨_, locks, claims, counted, marked, limit, few⟩ := fits
  rw [here.locks] at locks
  rw [here.claims] at claims
  rw [here.counted] at counted
  rw [here.marked] at marked
  have kept : ∀ engineId ≠ lease.engineId,
      budget.engineActive engineId = budget.engineActive engineId := fun _ _ => rfl
  cases stage with
  | locking =>
      obtain ⟨locked, taken, moved⟩ := Option.map_eq_some_iff.mp step
      obtain ⟨free, rfl⟩ := IsolationBudget.lock_eq_some.mp taken
      cases moved
      refine ⟨same, ?_, ?_, kept, ?_, ?_, limit, staged⟩
      · rw [here.locks, there.locks, free]
        rfl
      · rw [here.claims, there.claims]
        rfl
      · rw [here.counted, there.counted]
        rfl
      · rw [here.marked, there.marked, flag]
        rfl
  | reading =>
      cases step
      refine ⟨same, ?_, ?_, kept, ?_, ?_, limit, staged⟩
      · rw [here.locks, there.locks]
        cases lease.quarantined <;> rfl
      · rw [here.claims, there.claims]
        cases lease.quarantined <;> rfl
      · rw [here.counted, there.counted]
        cases lease.quarantined <;> rfl
      · rw [here.marked, there.marked, flag]
        cases lease.quarantined <;> rfl
  | unmarking =>
      cases step
      have made : lease.quarantined = true := honest rfl
      have positive : 0 < budget.quarantined := marked (by rw [made]; rfl)
      have taken := IsolationBudget.fetchSub_of_pos positive
      refine ⟨same, ?_, ?_, kept, ?_, ?_, limit, staged⟩
      · rw [here.locks, there.locks]
        rfl
      · rw [here.claims, there.claims]
        rfl
      · rw [here.counted, there.counted]
        rfl
      · rw [here.marked, there.marked, flag, made]
        change IsolationBudget.fetchSub budget.quarantined + 1 = budget.quarantined + 0
        rw [taken]
        omega
  | uncounting =>
      cases step
      have positive := counted rfl
      have taken := IsolationBudget.fetchSub_of_pos positive
      refine ⟨same, ?_, ?_, kept, ?_, ?_, ?_, staged⟩
      · rw [here.locks, there.locks]
        rfl
      · rw [here.claims, there.claims]
        rfl
      · simp only [here.counted, there.counted, taken]
        exact Nat.sub_add_cancel positive
      · rw [here.marked, there.marked, flag]
        rfl
      · simp only [taken]
        omega
  | vacating =>
      cases step
      refine ⟨same, ?_, ?_, ?_, ?_, ?_, limit, staged⟩
      · rw [here.locks, there.locks]
        rfl
      · rw [here.claims, there.claims, claims rfl]
        simp only [IsolationBudget.setActive, Function.update_self]
        rfl
      · intro engineId other
        exact Function.update_of_ne other _ _
      · rw [here.counted, there.counted]
        rfl
      · rw [here.marked, there.marked, flag]
        rfl
  | notifying =>
      cases step
      refine ⟨same, ?_, ?_, kept, ?_, ?_, limit, staged⟩
      · rw [here.locks, there.locks, locks rfl]
        rfl
      · rw [here.claims, there.claims]
        rfl
      · rw [here.counted, there.counted]
        rfl
      · rw [here.marked, there.marked, flag]
        rfl

/-- A mark is taken back only if it was made. -/
theorem next_honest (step : budget.release e q stage = some (budget', next)) :
    next ≠ some .unmarking ∨ q = true := by
  cases stage with
  | locking =>
      obtain ⟨_, _, moved⟩ := Option.map_eq_some_iff.mp step
      cases moved
      exact .inl (fun same => by cases same)
  | reading =>
      cases q with
      | true => exact .inr rfl
      | false =>
          cases step
          exact .inl (fun same => by cases same)
  | unmarking => cases step; exact .inl (fun same => by cases same)
  | uncounting => cases step; exact .inl (fun same => by cases same)
  | vacating => cases step; exact .inl (fun same => by cases same)
  | notifying => cases step; exact .inl (fun same => by cases same)

theorem staged_task (step : budget.release e q stage = some (budget', next)) :
    (Lease.mk e .gone (.afterRelease next) q).staged = true := by
  have honest := next_honest step
  rcases next with _ | stage
  · rfl
  · cases stage
    case unmarking => exact honest.resolve_left fun other => other rfl
    all_goals rfl

theorem staged_caller (step : budget.release e q stage = some (budget', next))
    (last : t = .absent ∨ t = .gone) : (Lease.mk e (.afterRelease next) t q).staged = true := by
  have honest := next_honest step
  rcases next with _ | stage
  · rcases last with rfl | rfl <;> rfl
  · cases stage
    case unmarking =>
      have made : q = true := honest.resolve_left fun other => other rfl
      rcases last with rfl | rfl <;> exact made
    all_goals rcases last with rfl | rfl <;> rfl

theorem honest_caller (staged : (Lease.mk e (.releasing .unmarking) t q).staged = true) :
    q = true := by
  cases q with
  | true => rfl
  | false => cases t <;> cases staged

/-- Before the start of its native thread, a caller is alone with an unmarked lease. -/
theorem alone_of_staged (staged : (Lease.mk e c t q).staged = true)
    (early : c = .outside ∨ c = .contending ∨ c = .claiming ∨ c = .granted ∨ c = .starting) :
    t = .absent ∧ q = false := by
  rcases early with rfl | rfl | rfl | rfl | rfl <;> cases t <;> cases q <;>
    first | exact ⟨rfl, rfl⟩ | cases staged

/-- **A step of a lease** moves the budget as the lease moves. -/
theorem balanced (step : LeaseStep budget lease budget' lease') (fits : Fits budget lease) :
    Balanced budget lease budget' lease' := by
  cases step with
  | still => exact ⟨rfl, rfl, rfl, fun _ _ => rfl, rfl, rfl, fits.limit, fits.staged⟩
  | locked taken =>
      obtain ⟨rfl, rfl⟩ := alone_of_staged fits.staged (.inl rfl)
      obtain ⟨free, rfl⟩ := IsolationBudget.lock_eq_some.mp taken
      refine ⟨rfl, ?_, rfl, fun _ _ => rfl, rfl, rfl, fits.limit, rfl⟩
      rw [free]
      rfl
  | claimed vacant =>
      obtain ⟨rfl, rfl⟩ := alone_of_staged fits.staged (.inr (.inl rfl))
      refine ⟨rfl, rfl, ?_, ?_, rfl, rfl, fits.limit, rfl⟩
      · simp only [IsolationBudget.setActive, Function.update_self, vacant]
        rfl
      · intro engineId other
        exact Function.update_of_ne other _ _
  | declined =>
      obtain ⟨rfl, rfl⟩ := alone_of_staged fits.staged (.inr (.inr (.inl rfl)))
      have taken := fits.claims rfl
      dsimp only at taken
      refine ⟨rfl, rfl, ?_, ?_, rfl, rfl, fits.limit, rfl⟩
      · simp only [IsolationBudget.setActive, Function.update_self, taken]
        rfl
      · intro engineId other
        exact Function.update_of_ne other _ _
  | granted room =>
      obtain ⟨rfl, rfl⟩ := alone_of_staged fits.staged (.inr (.inr (.inl rfl)))
      exact ⟨rfl, rfl, rfl, fun _ _ => rfl, rfl, rfl, room, rfl⟩
  | admitted =>
      obtain ⟨rfl, rfl⟩ := alone_of_staged fits.staged (.inr (.inr (.inr (.inl rfl))))
      refine ⟨rfl, ?_, rfl, fun _ _ => rfl, rfl, rfl, fits.limit, rfl⟩
      rw [fits.locks rfl]
      rfl
  | slept =>
      obtain ⟨rfl, rfl⟩ := alone_of_staged fits.staged (.inr (.inl rfl))
      refine ⟨rfl, ?_, rfl, fun _ _ => rfl, rfl, rfl, fits.limit, rfl⟩
      rw [fits.locks rfl]
      rfl
  | gaveUp =>
      obtain ⟨rfl, rfl⟩ := alone_of_staged fits.staged (.inr (.inl rfl))
      refine ⟨rfl, ?_, rfl, fun _ _ => rfl, rfl, rfl, fits.limit, rfl⟩
      rw [fits.locks rfl]
      rfl
  | spawned =>
      obtain ⟨rfl, rfl⟩ := alone_of_staged fits.staged (.inr (.inr (.inr (.inr rfl))))
      exact ⟨rfl, rfl, rfl, fun _ _ => rfl, rfl, rfl, fits.limit, rfl⟩
  | forwent =>
      obtain ⟨rfl, rfl⟩ := alone_of_staged fits.staged (.inr (.inr (.inr (.inr rfl))))
      exact ⟨rfl, rfl, rfl, fun _ _ => rfl, rfl, rfl, fits.limit, rfl⟩
  | swapped =>
      rename_i t
      have staged := fits.staged
      cases t with
      | releasing stage => cases staged
      | absent => exact ⟨rfl, rfl, rfl, fun _ _ => rfl, rfl, rfl, fits.limit, rfl⟩
      | holding => exact ⟨rfl, rfl, rfl, fun _ _ => rfl, rfl, rfl, fits.limit, rfl⟩
      | gone => exact ⟨rfl, rfl, rfl, fun _ _ => rfl, rfl, rfl, fits.limit, rfl⟩
  | marked =>
      rename_i t q
      have staged := fits.staged
      have exact' : wrappingAdd 64 budget.quarantined 1 = budget.quarantined + 1 := by
        have few := fits.few
        have limit := fits.limit
        have machine : MAX_ISOLATED_CALLS + 1 < 2 ^ 64 := by decide
        exact wrappingAdd_of_lt (by omega)
      have made : q = true := by
        cases q with
        | true => rfl
        | false => cases t <;> cases staged
      subst made
      cases t with
      | releasing stage => cases staged
      | absent => exact ⟨rfl, rfl, rfl, fun _ _ => rfl, rfl, exact', fits.limit, rfl⟩
      | holding => exact ⟨rfl, rfl, rfl, fun _ _ => rfl, rfl, exact', fits.limit, rfl⟩
      | gone => exact ⟨rfl, rfl, rfl, fun _ _ => rfl, rfl, exact', fits.limit, rfl⟩
  | left kept =>
      rename_i t q
      cases t with
      | holding => cases q <;> exact ⟨rfl, rfl, rfl, fun _ _ => rfl, rfl, rfl, fits.limit, rfl⟩
      | absent => cases kept
      | releasing stage => cases kept
      | gone => cases kept
  | ending last =>
      rename_i t q
      have staged := fits.staged
      cases t with
      | holding => cases last
      | releasing stage => cases staged
      | absent => cases q <;> exact ⟨rfl, rfl, rfl, fun _ _ => rfl, rfl, rfl, fits.limit, rfl⟩
      | gone => cases q <;> exact ⟨rfl, rfl, rfl, fun _ _ => rfl, rfl, rfl, fits.limit, rfl⟩
  | released step =>
      rename_i t q stage next
      have staged := fits.staged
      have last : t = .absent ∨ t = .gone := by
        cases t with
        | holding => cases staged
        | releasing stage => cases staged
        | absent => exact .inl rfl
        | gone => exact .inr rfl
      refine balanced_release step fits (closing_caller last (some stage))
        (closing_caller last next) rfl rfl ?_ (staged_caller step last)
      rintro rfl
      exact honest_caller staged
  | taskLeft kept =>
      rename_i c q
      have staged := fits.staged
      cases c with
      | holding => cases q <;> exact ⟨rfl, rfl, rfl, fun _ _ => rfl, rfl, rfl, fits.limit, rfl⟩
      | quarantining =>
          cases q with
          | true => exact ⟨rfl, rfl, rfl, fun _ _ => rfl, rfl, rfl, fits.limit, rfl⟩
          | false => cases staged
      | granted => cases staged
      | starting => cases staged
      | outside => cases kept
      | contending => cases kept
      | claiming => cases kept
      | releasing stage => cases kept
      | gone => cases kept
  | taskEnding last =>
      rename_i c q
      have staged := fits.staged
      cases c with
      | gone => cases q <;> exact ⟨rfl, rfl, rfl, fun _ _ => rfl, rfl, rfl, fits.limit, rfl⟩
      | holding => cases last
      | quarantining => cases last
      | granted => cases last
      | starting => cases last
      | outside => cases staged
      | contending => cases staged
      | claiming => cases staged
      | releasing stage => cases staged
  | taskReleased step =>
      rename_i c q stage next
      have staged := fits.staged
      have gone : c = .gone := by
        cases c <;> first | rfl | cases staged
      subst gone
      refine balanced_release step fits (closing_task (some stage)) (closing_task next) rfl rfl
        ?_ (staged_task step)
      rintro rfl
      cases q with
      | true => rfl
      | false => cases staged

end LeaseStep

/-! ## All leases -/

/-- **The budget counts the leases**: the lock is held by one thread, a slot is taken for one
call, the counters are those of the counted and the marked leases, and at most two are
counted. -/
structure BudgetKept (budget : IsolationBudget) (leases : List Lease) : Prop where
  locks : Counts Lease.locks leases budget.availability.toNat
  slots : ∀ engineId,
    Counts (Lease.claimsOf engineId) leases (budget.engineActive engineId).toNat
  counted : Counts Lease.counted leases budget.inFlight
  marked : Counts Lease.marked leases budget.quarantined
  limit : budget.inFlight ≤ MAX_ISOLATED_CALLS
  staged : ∀ lease ∈ leases, lease.staged = true

/-- A marked lease is counted. -/
theorem Lease.counted_of_marked {lease : Lease} (marked : lease.marked = true) :
    lease.counted = true := by
  unfold Lease.marked at marked
  split at marked
  · cases marked
  · have later := (Bool.and_eq_true_iff.mp marked).2
    rcases Bool.or_eq_true_iff.mp later with lives | ending
    · rw [Lease.counted, lives]
      rfl
    · obtain ⟨stage, ending, early⟩ := (Option.any_eq_true _ _).mp ending
      have counted : stage.counted = true := by
        cases stage <;> first | rfl | cases early
      rw [Lease.counted, ending, Option.any_some, counted, Bool.or_true]

theorem of_toNat_pos {b : Bool} (positive : 0 < b.toNat) : b = true := by
  cases b with
  | true => rfl
  | false => cases positive

namespace BudgetKept

variable {budget budget' : IsolationBudget} {leases : List Lease} {lease lease' : Lease} {i : Nat}

theorem new : BudgetKept .new [] where
  locks := Counts.nil _
  slots _ := Counts.nil _
  counted := Counts.nil _
  marked := Counts.nil _
  limit := Nat.zero_le _
  staged _ member := absurd member List.not_mem_nil

/-- Every mark is of a counted lease. -/
theorem quarantined_le (kept : BudgetKept budget leases) :
    budget.quarantined ≤ budget.inFlight := by
  have marked : leases.countP Lease.marked = budget.quarantined := kept.marked
  rw [← marked]
  exact kept.counted.le fun lease _ => Lease.counted_of_marked

theorem fits (kept : BudgetKept budget leases) (found : leases[i]? = some lease) :
    Fits budget lease where
  staged := kept.staged lease (List.mem_of_getElem? found)
  locks held := of_toNat_pos (kept.locks.pos found held)
  claims taken := by
    have own : lease.claimsOf lease.engineId = true := by
      rw [Lease.claimsOf, beq_self_eq_true, taken]
      rfl
    exact of_toNat_pos ((kept.slots lease.engineId).pos found own)
  counted counted := kept.counted.pos found counted
  marked marked := kept.marked.pos found marked
  limit := kept.limit
  few := kept.quarantined_le

/-- **Every step keeps the counts.** -/
theorem step (kept : BudgetKept budget leases) (found : leases[i]? = some lease)
    (taken : LeaseStep budget lease budget' lease') :
    BudgetKept budget' (leases.set i lease') := by
  have balanced := taken.balanced (kept.fits found)
  refine ⟨kept.locks.set found balanced.locks, ?_, kept.counted.set found balanced.counted,
    kept.marked.set found balanced.marked, balanced.limit, ?_⟩
  · intro engineId
    refine (kept.slots engineId).set found ?_
    by_cases own : lease.engineId = engineId
    · have slot := balanced.slot
      rw [own] at slot
      rw [Lease.claimsOf, Lease.claimsOf, balanced.engineId, own, beq_self_eq_true, Bool.true_and,
        Bool.true_and]
      exact slot
    · rw [Lease.claimsOf, Lease.claimsOf, balanced.engineId, beq_eq_false_iff_ne.mpr own,
        balanced.others engineId (Ne.symm own)]
      rfl
  · intro other member
    rcases List.mem_or_eq_of_mem_set member with before | rfl
    · exact kept.staged other before
    · exact balanced.staged

/-- A new call has nothing. -/
theorem concat (kept : BudgetKept budget leases) (engineId : String) :
    BudgetKept budget (leases ++ [⟨engineId, .outside, .absent, false⟩]) where
  locks := kept.locks.concat rfl
  slots other := (kept.slots other).concat (Bool.and_false _)
  counted := kept.counted.concat rfl
  marked := kept.marked.concat rfl
  limit := kept.limit
  staged lease member := by
    rcases List.mem_append.mp member with before | own
    · exact kept.staged lease before
    · rw [List.mem_singleton.mp own]
      rfl

end BudgetKept

end Omnivox.Execution
