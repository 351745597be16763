import Mathlib
import Omnivox.Presentation.DeliveryPolicy

/-!
# Keyed cancellation

A replaceable timeline owns a lease on its replacement domain. Activating the
lease enters its token in the registry and cancels the token that was there.
A lease that ends takes its own entry with it, and no other.

Between any two operations the registry holds, for each domain, the token of an
active lease, and every active lease that is not cancelled is the one in the
registry (`Registered`). So no domain has two of them
(`Registered.current_unique`).
-/

set_option autoImplicit false

namespace Omnivox.Server

open Presentation

/-! ## The registry and its leases -/

/-- The registry, and the tokens that were cancelled. A token is a number that is drawn
once: `same_token` compares allocations. -/
structure KeyedCancellations where
  active : AList fun _ : ReplacementDomain => Nat
  cancelled : Finset Nat
  deriving DecidableEq

def KeyedCancellations.empty : KeyedCancellations where
  active := ∅
  cancelled := ∅

structure KeyedCancellationLease where
  domain : ReplacementDomain
  token : Nat
  active : Bool
  deriving Repr, DecidableEq

namespace KeyedCancellationLease

/-- `KeyedCancellationRegistry::prepare`, with a new token. -/
def prepare (domain : ReplacementDomain) (token : Nat) : KeyedCancellationLease where
  domain := domain
  token := token
  active := false

def activate (lease : KeyedCancellationLease) (cancellations : KeyedCancellations) :
    KeyedCancellationLease × KeyedCancellations :=
  if lease.active then (lease, cancellations)
  else
    let previous := cancellations.active.lookup lease.domain
    ({ lease with active := true },
      { active := cancellations.active.insert lease.domain lease.token
        cancelled := cancellations.cancelled ∪ previous.toFinset })

/-- `Drop for KeyedCancellationLease`. -/
def drop (lease : KeyedCancellationLease) (cancellations : KeyedCancellations) :
    KeyedCancellations :=
  if !lease.active then cancellations
  else if cancellations.active.lookup lease.domain == some lease.token then
    { cancellations with active := cancellations.active.erase lease.domain }
  else cancellations

/-- Dropping a lease cancels nothing. -/
@[simp] theorem drop_cancelled (lease : KeyedCancellationLease)
    (cancellations : KeyedCancellations) :
    (lease.drop cancellations).cancelled = cancellations.cancelled := by
  unfold drop
  split
  · rfl
  · split <;> rfl

/-- Dropping a lease removes its own entry, if it is still there, and no other. -/
theorem drop_lookup (lease : KeyedCancellationLease) (cancellations : KeyedCancellations)
    (domain : ReplacementDomain) :
    (lease.drop cancellations).active.lookup domain =
      if lease.active = true ∧ domain = lease.domain ∧
          cancellations.active.lookup domain = some lease.token then none
      else cancellations.active.lookup domain := by
  unfold drop
  cases held : lease.active with
  | false => simp
  | true =>
      by_cases own : cancellations.active.lookup lease.domain = some lease.token
      · by_cases same : domain = lease.domain
        · subst same
          simp [own, AList.lookup_erase]
        · simp [own, same, AList.lookup_erase_ne same]
      · have kept : ¬ (cancellations.active.lookup lease.domain == some lease.token) = true := by
          simpa using own
        rw [Bool.not_true, if_neg Bool.false_ne_true, if_neg kept]
        by_cases same : domain = lease.domain
        · subst same
          simp [own]
        · simp [same]

theorem activate_of_inactive {lease : KeyedCancellationLease} (waiting : lease.active = false)
    (cancellations : KeyedCancellations) :
    lease.activate cancellations =
      ({ lease with active := true },
        { active := cancellations.active.insert lease.domain lease.token
          cancelled := cancellations.cancelled ∪
            (cancellations.active.lookup lease.domain).toFinset }) := by
  rw [activate, waiting]
  rfl

@[simp] theorem activate_domain (lease : KeyedCancellationLease)
    (cancellations : KeyedCancellations) :
    (lease.activate cancellations).1.domain = lease.domain := by
  unfold activate
  split <;> rfl

end KeyedCancellationLease

/-! ## The invariant -/

/-- What holds of the registry and all live leases between two operations. -/
structure Registered (cancellations : KeyedCancellations) (nextToken : Nat)
    (leases : Multiset KeyedCancellationLease) : Prop where
  distinct : (leases.map KeyedCancellationLease.token).Nodup
  drawn : ∀ lease ∈ leases, lease.token < nextToken
  cancelledDrawn : ∀ token ∈ cancellations.cancelled, token < nextToken
  /-- A lease that was never activated is not cancelled. -/
  waiting : ∀ lease ∈ leases, lease.active = false → lease.token ∉ cancellations.cancelled
  /-- An entry is the token of an active lease. -/
  owned : ∀ domain token, cancellations.active.lookup domain = some token →
    ∃ lease ∈ leases, lease.active = true ∧ lease.domain = domain ∧ lease.token = token
  /-- An active lease that is not cancelled is the one in the registry. -/
  current : ∀ lease ∈ leases, lease.active = true → lease.token ∉ cancellations.cancelled →
    cancellations.active.lookup lease.domain = some lease.token

theorem registered_empty : Registered KeyedCancellations.empty 0 0 where
  distinct := Multiset.nodup_zero
  drawn := by simp
  cancelledDrawn := by simp [KeyedCancellations.empty]
  waiting := by simp
  owned := by
    intro domain token entry
    simp [KeyedCancellations.empty] at entry
  current := by simp

namespace Registered

variable {cancellations : KeyedCancellations} {nextToken : Nat}
  {leases : Multiset KeyedCancellationLease} {lease : KeyedCancellationLease}

/-- Two live leases with one token are one lease. -/
theorem token_ne (registered : Registered cancellations nextToken (lease ::ₘ leases))
    {other : KeyedCancellationLease} (member : other ∈ leases) : other.token ≠ lease.token := by
  have distinct := registered.distinct
  rw [Multiset.map_cons, Multiset.nodup_cons] at distinct
  intro same
  exact distinct.1 (same ▸ Multiset.mem_map_of_mem _ member)

/-- No entry is the token of a waiting lease. -/
theorem entry_ne (registered : Registered cancellations nextToken leases) (live : lease ∈ leases)
    (waiting : lease.active = false) (domain : ReplacementDomain) :
    cancellations.active.lookup domain ≠ some lease.token := by
  intro entry
  obtain ⟨owner, ownerLive, active, _, same⟩ := registered.owned domain lease.token entry
  have ownerEq : owner = lease :=
    Multiset.inj_on_of_nodup_map registered.distinct _ ownerLive _ live same
  rw [ownerEq, waiting] at active
  cases active

/-- A token that was not drawn so far. -/
theorem prepare (registered : Registered cancellations nextToken leases)
    (domain : ReplacementDomain) :
    Registered cancellations (nextToken + 1) (.prepare domain nextToken ::ₘ leases) where
  distinct := by
    rw [Multiset.map_cons, Multiset.nodup_cons]
    refine ⟨?_, registered.distinct⟩
    intro member
    obtain ⟨lease, live, same⟩ := Multiset.mem_map.mp member
    have drawn := registered.drawn lease live
    rw [same] at drawn
    exact Nat.lt_irrefl nextToken drawn
  drawn := by
    intro lease member
    rcases Multiset.mem_cons.mp member with rfl | live
    · exact Nat.lt_succ_self nextToken
    · exact Nat.lt_succ_of_lt (registered.drawn lease live)
  cancelledDrawn := fun token member => Nat.lt_succ_of_lt (registered.cancelledDrawn token member)
  waiting := by
    intro lease member inactive
    rcases Multiset.mem_cons.mp member with rfl | live
    · exact fun cancelled => Nat.lt_irrefl nextToken (registered.cancelledDrawn _ cancelled)
    · exact registered.waiting lease live inactive
  owned := by
    intro domain token entry
    obtain ⟨lease, live, owner⟩ := registered.owned domain token entry
    exact ⟨lease, Multiset.mem_cons_of_mem live, owner⟩
  current := by
    intro lease member active
    rcases Multiset.mem_cons.mp member with rfl | live
    · cases active
    · exact registered.current lease live active

/-- Nothing needs a lease to draw a token. -/
theorem skip (registered : Registered cancellations nextToken leases) :
    Registered cancellations (nextToken + 1) leases :=
  { registered with
    drawn := fun lease live => Nat.lt_succ_of_lt (registered.drawn lease live)
    cancelledDrawn := fun token member =>
      Nat.lt_succ_of_lt (registered.cancelledDrawn token member) }

/-- The entry of a domain is drawn and belongs to a lease other than a waiting one. -/
theorem previous_ne (registered : Registered cancellations nextToken (lease ::ₘ leases))
    (waiting : lease.active = false) {domain : ReplacementDomain} {token : Nat}
    (entry : cancellations.active.lookup domain = some token) :
    ∃ owner ∈ leases, owner.active = true ∧ owner.domain = domain ∧ owner.token = token := by
  obtain ⟨owner, live, active, domainEq, tokenEq⟩ := registered.owned domain token entry
  rcases Multiset.mem_cons.mp live with rfl | live
  · rw [waiting] at active
    cases active
  · exact ⟨owner, live, active, domainEq, tokenEq⟩

/-- **Activation** keeps the invariant. -/
theorem activate (registered : Registered cancellations nextToken (lease ::ₘ leases))
    (waiting : lease.active = false) :
    Registered (lease.activate cancellations).2 nextToken
      ((lease.activate cancellations).1 ::ₘ leases) := by
  rw [KeyedCancellationLease.activate_of_inactive waiting]
  refine ⟨?_, ?_, ?_, ?_, ?_, ?_⟩
  · have distinct := registered.distinct
    rwa [Multiset.map_cons] at distinct ⊢
  · intro other member
    rcases Multiset.mem_cons.mp member with rfl | live
    · exact registered.drawn lease (Multiset.mem_cons_self _ _)
    · exact registered.drawn other (Multiset.mem_cons_of_mem live)
  · intro token member
    rcases Finset.mem_union.mp member with before | previous
    · exact registered.cancelledDrawn token before
    · obtain ⟨owner, live, _, _, rfl⟩ :=
        registered.owned _ _ (Option.mem_toFinset.mp previous)
      exact registered.drawn owner live
  · intro other member inactive
    rcases Multiset.mem_cons.mp member with rfl | live
    · cases inactive
    · intro cancelled
      rcases Finset.mem_union.mp cancelled with before | previous
      · exact registered.waiting other (Multiset.mem_cons_of_mem live) inactive before
      · exact registered.entry_ne (Multiset.mem_cons_of_mem live) inactive _
          (Option.mem_toFinset.mp previous)
  · intro domain token entry
    by_cases same : domain = lease.domain
    · subst same
      rw [AList.lookup_insert, Option.some.injEq] at entry
      exact ⟨_, Multiset.mem_cons_self _ _, rfl, rfl, entry⟩
    · rw [AList.lookup_insert_ne same] at entry
      obtain ⟨owner, live, owns⟩ := registered.previous_ne waiting entry
      exact ⟨owner, Multiset.mem_cons_of_mem live, owns⟩
  · intro other member active uncancelled
    rcases Multiset.mem_cons.mp member with rfl | live
    · exact AList.lookup_insert _
    · rw [Finset.mem_union, not_or, Option.mem_toFinset] at uncancelled
      have entry := registered.current other (Multiset.mem_cons_of_mem live) active uncancelled.1
      have apart : other.domain ≠ lease.domain := by
        intro same
        rw [same] at entry
        exact uncancelled.2 entry
      rw [AList.lookup_insert_ne apart]
      exact entry

/-- **The end of a lease** keeps the invariant. -/
theorem drop (registered : Registered cancellations nextToken (lease ::ₘ leases)) :
    Registered (lease.drop cancellations) nextToken leases where
  distinct := (Multiset.nodup_cons.mp (Multiset.map_cons _ _ _ ▸ registered.distinct)).2
  drawn := fun other live => registered.drawn other (Multiset.mem_cons_of_mem live)
  cancelledDrawn := by
    rw [KeyedCancellationLease.drop_cancelled]
    exact registered.cancelledDrawn
  waiting := by
    rw [KeyedCancellationLease.drop_cancelled]
    exact fun other live => registered.waiting other (Multiset.mem_cons_of_mem live)
  owned := by
    intro domain token entry
    rw [KeyedCancellationLease.drop_lookup] at entry
    split at entry
    · cases entry
    · rename_i kept
      obtain ⟨owner, live, active, domainEq, tokenEq⟩ := registered.owned domain token entry
      rcases Multiset.mem_cons.mp live with rfl | live
      · exact absurd ⟨active, domainEq.symm, tokenEq ▸ entry⟩ kept
      · exact ⟨owner, live, active, domainEq, tokenEq⟩
  current := by
    intro other live active uncancelled
    rw [KeyedCancellationLease.drop_cancelled] at uncancelled
    have entry := registered.current other (Multiset.mem_cons_of_mem live) active uncancelled
    rw [KeyedCancellationLease.drop_lookup, if_neg, entry]
    rintro ⟨_, _, own⟩
    rw [entry, Option.some.injEq] at own
    exact registered.token_ne live own

/-- **One lease to a domain.** -/
theorem current_unique (registered : Registered cancellations nextToken leases)
    (domain : ReplacementDomain) :
    (leases.filter fun lease => lease.active = true ∧ lease.domain = domain ∧
      lease.token ∉ cancellations.cancelled).card ≤ 1 := by
  set current := leases.filter fun lease => lease.active = true ∧ lease.domain = domain ∧
    lease.token ∉ cancellations.cancelled with currentEq
  have entry : ∀ lease ∈ current, cancellations.active.lookup domain = some lease.token := by
    intro lease member
    rw [currentEq, Multiset.mem_filter] at member
    obtain ⟨live, active, rfl, uncancelled⟩ := member
    exact registered.current lease live active uncancelled
  have distinct : (current.map KeyedCancellationLease.token).Nodup :=
    Multiset.nodup_of_le (Multiset.map_le_map (Multiset.filter_le _ _)) registered.distinct
  rw [← Multiset.card_map KeyedCancellationLease.token, ← Multiset.toFinset_card_of_nodup distinct,
    Finset.card_le_one]
  intro token member token' member'
  rw [Multiset.mem_toFinset] at member member'
  obtain ⟨lease, held, rfl⟩ := Multiset.mem_map.mp member
  obtain ⟨other, held', rfl⟩ := Multiset.mem_map.mp member'
  exact Option.some.inj ((entry lease held).symm.trans (entry other held'))

end Registered

end Omnivox.Server
