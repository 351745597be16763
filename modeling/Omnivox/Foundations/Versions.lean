import Mathlib
import Omnivox.Foundations.Bounded
import Omnivox.Foundations.Runs

/-!
# Version stamps

A state carries a stamp, and readers see a view of it. A step advances when the stamp
does not fall, and rises unless the view stays or the stamp is at its limit.

Advancing steps compose. So along a run of them, two states with one stamp below the
limit have one view (`Advances.view_eq`), and a reader may cache what it saw under the
stamp.

Two stamped parts make one: the saturating sum of their stamps follows both views
(`Advances.add`).
-/

set_option autoImplicit false

namespace Omnivox.Foundations

variable {State View View' Label : Type*}

/-- The stamp follows the view, up to a limit. -/
structure Advances (stamp : State → Nat) (view : State → View) (limit : Nat)
    (before after : State) : Prop where
  stamp_le : stamp before ≤ stamp after
  stamp_lt : view before ≠ view after → stamp before < limit → stamp before < stamp after

namespace Advances

variable {stamp : State → Nat} {view : State → View} {limit : Nat}

theorem refl (state : State) : Advances stamp view limit state state where
  stamp_le := le_rfl
  stamp_lt changed := absurd rfl changed

/-- A step that changes neither. -/
theorem of_eq {before after : State} (sameStamp : stamp before = stamp after)
    (sameView : view before = view after) : Advances stamp view limit before after where
  stamp_le := sameStamp.le
  stamp_lt changed := absurd sameView changed

theorem trans {before middle after : State} (first : Advances stamp view limit before middle)
    (second : Advances stamp view limit middle after) :
    Advances stamp view limit before after where
  stamp_le := first.stamp_le.trans second.stamp_le
  stamp_lt changed below := by
    by_cases moved : view before = view middle
    · have later : view middle ≠ view after := moved ▸ changed
      by_cases same : stamp middle < limit
      · exact first.stamp_le.trans_lt (second.stamp_lt later same)
      · have reached : limit ≤ stamp middle := Nat.le_of_not_lt same
        exact (below.trans_le reached).trans_le second.stamp_le
    · exact (first.stamp_lt moved below).trans_le second.stamp_le

/-- **One stamp below the limit, one view.** -/
theorem view_eq {before after : State} (advances : Advances stamp view limit before after)
    (same : stamp before = stamp after) (below : stamp before < limit) :
    view before = view after := by
  by_contra changed
  exact absurd same (advances.stamp_lt changed below).ne

/-- A step that raises the stamp may change any view. -/
theorem of_lt {before after : State} (raised : stamp before < stamp after) :
    Advances stamp view limit before after where
  stamp_le := raised.le
  stamp_lt _ _ := raised

/-- A lower limit asks for less. -/
theorem weaken {lower : Nat} {before after : State}
    (advances : Advances stamp view limit before after) (within : lower ≤ limit) :
    Advances stamp view lower before after where
  stamp_le := advances.stamp_le
  stamp_lt changed below := advances.stamp_lt changed (below.trans_le within)

/-- Under the limit zero only the order of the stamps is left. -/
theorem of_le {before after : State} (ordered : stamp before ≤ stamp after) :
    Advances stamp view 0 before after where
  stamp_le := ordered
  stamp_lt _ below := absurd below (Nat.not_lt_zero _)

/-- What the view determines on the two states follows the stamp as well. -/
theorem coarsen {before after : State} {coarse : State → View'}
    (advances : Advances stamp view limit before after)
    (determined : view before = view after → coarse before = coarse after) :
    Advances stamp coarse limit before after where
  stamp_le := advances.stamp_le
  stamp_lt changed := advances.stamp_lt fun same => changed (determined same)

/-- What holds of a part of the state, said of the whole. -/
theorem of_part {Part : Type*} {stamp : Part → Nat} {view : Part → View} (part : State → Part)
    {before after : State} (advances : Advances stamp view limit (part before) (part after)) :
    Advances (fun state => stamp (part state)) (fun state => view (part state)) limit
      before after where
  stamp_le := advances.stamp_le
  stamp_lt := advances.stamp_lt

/-- **The saturating sum of two stamps follows both views.** -/
theorem add {other : State → Nat} {beside : State → View'} {bound : Nat} {before after : State}
    (within : limit ≤ bound) (first : Advances stamp view limit before after)
    (second : Advances other beside limit before after) :
    Advances (fun state => saturatingAdd bound (stamp state) (other state))
      (fun state => (view state, beside state)) limit before after where
  stamp_le := by
    have ordered := first.stamp_le
    have ordered' := second.stamp_le
    simp only [saturatingAdd]
    omega
  stamp_lt changed below := by
    have ordered := first.stamp_le
    have ordered' := second.stamp_le
    simp only [saturatingAdd] at below ⊢
    by_cases same : view before = view after
    · have moved : beside before ≠ beside after := fun agrees =>
        changed (Prod.ext same agrees)
      have raised := second.stamp_lt moved
      omega
    · have raised := first.stamp_lt same
      omega

/-- Every run of advancing steps advances. -/
theorem run {step : State → Label → Option State}
    (advances : ∀ state label next, step state label = some next →
      Advances stamp view limit state next)
    {state final : State} {labels : List Label} (run : runSteps step state labels = some final) :
    Advances stamp view limit state final :=
  run_preserves (fun middle label next soFar taken =>
    soFar.trans (advances middle label next taken)) (refl state) run

end Advances

/-! ## Readings -/

/-- A stamp and a view that were read together, in a state from which only advancing steps
were taken. -/
structure Reading (stamp : State → Nat) (view : State → View) (limit : Nat) (state : State)
    (stamped : Nat) (seen : View) : Prop where
  stamp_le : stamped ≤ stamp state
  view_eq : stamped = stamp state → stamped < limit → seen = view state

namespace Reading

variable {stamp : State → Nat} {view : State → View} {limit : Nat}

theorem here (state : State) : Reading stamp view limit state (stamp state) (view state) where
  stamp_le := le_rfl
  view_eq _ _ := rfl

/-- A reading is still one after a step that advances. -/
theorem later {before after : State} {stamped : Nat} {seen : View}
    (reading : Reading stamp view limit before stamped seen)
    (advances : Advances stamp view limit before after) :
    Reading stamp view limit after stamped seen where
  stamp_le := reading.stamp_le.trans advances.stamp_le
  view_eq current below := by
    have here : stamped = stamp before :=
      le_antisymm reading.stamp_le (advances.stamp_le.trans current.ge)
    have same : stamp before = stamp after := here.symm.trans current
    rw [reading.view_eq here below]
    exact advances.view_eq same (here ▸ below)

end Reading

end Omnivox.Foundations
