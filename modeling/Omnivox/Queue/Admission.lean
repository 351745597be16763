import Mathlib
import Omnivox.Foundations.Runs
import Omnivox.Foundations.Shedding
import Omnivox.Queue.WorkQueue

/-!
# What admission to the work queue does

Admission is specified on the list of entries alone. Work fits when it stays
within both limits together with the entries that would remain. It supersedes
its own replacement domain, and then as few replaceable entries as possible
give way, oldest first (`Admission`).

The three passes of the code work on projected counters and a vector of marks.
On a queue whose cached byte counter is right and within its limit, they compute
that specification, and they refuse exactly the work that does not fit next to
the entries that may not give way (`trySendWithCommit_cases`).
-/

set_option autoImplicit false

namespace Omnivox.Queue

open Foundations

variable {T World : Type*}

/-! ## The specification -/

/-- The cached payload of a list of entries. -/
def load (entries : List (QueuedWork T)) : Nat :=
  (entries.map QueuedWork.payloadBytes).sum

@[simp] theorem load_nil : load ([] : List (QueuedWork T)) = 0 := rfl

@[simp] theorem load_cons (queued : QueuedWork T) (rest : List (QueuedWork T)) :
    load (queued :: rest) = queued.payloadBytes + load rest := by
  simp [load]

@[simp] theorem load_append (first second : List (QueuedWork T)) :
    load (first ++ second) = load first + load second := by
  simp [load]

theorem load_perm {first second : List (QueuedWork T)} (perm : first.Perm second) :
    load first = load second :=
  (perm.map _).sum_eq

theorem load_sublist {first second : List (QueuedWork T)} (sub : first.Sublist second) :
    load first ≤ load second :=
  (sub.map _).sum_le_sum fun _ _ => Nat.zero_le _

/-- A queue within its limits whose byte counter is the sum of its entries. -/
structure QueueState.Bounded (limits : WorkQueueLimits) (state : QueueState T) : Prop where
  items : state.entries.length ≤ limits.maxItems
  counted : state.payloadBytes = load state.entries
  bytes : state.payloadBytes ≤ limits.maxPayloadBytes

/-- New work of the given payload stays within both limits next to the entries. -/
def Fits (limits : WorkQueueLimits) (payloadBytes : Nat) (entries : List (QueuedWork T)) : Prop :=
  entries.length + 1 ≤ limits.maxItems ∧ load entries + payloadBytes ≤ limits.maxPayloadBytes

instance (limits : WorkQueueLimits) (payloadBytes : Nat) (entries : List (QueuedWork T)) :
    Decidable (Fits limits payloadBytes entries) :=
  inferInstanceAs (Decidable (_ ∧ _))

/-- Fewer entries leave more room. -/
theorem Fits.of_sublist {limits : WorkQueueLimits} {payloadBytes : Nat}
    {fewer more : List (QueuedWork T)} (sub : fewer.Sublist more)
    (fits : Fits limits payloadBytes more) : Fits limits payloadBytes fewer :=
  ⟨le_trans (Nat.add_le_add_right sub.length_le 1) fits.1,
    le_trans (Nat.add_le_add_right (load_sublist sub) payloadBytes) fits.2⟩

variable [BoundedWork T]

/-- The entries that new work does not supersede. -/
def unrelated (work : T) (entries : List (QueuedWork T)) : List (QueuedWork T) :=
  entries.filter fun queued => !sharesReplacementDomain work queued.work

/-- The entries that never give way to new work: neither in its replacement
domain nor replaceable. -/
def protectedFrom (work : T) (entries : List (QueuedWork T)) : List (QueuedWork T) :=
  (unrelated work entries).filter fun queued => !isReplaceable queued.work

/-- The entries that give way under capacity pressure, oldest first. -/
def candidates (work : T) (entries : List (QueuedWork T)) : List (QueuedWork T) :=
  (unrelated work entries).filter fun queued => isReplaceable queued.work

/-- What is left of the unrelated entries when the oldest `count` replaceable
ones give way. -/
def survivors (work : T) (count : Nat) (entries : List (QueuedWork T)) : List (QueuedWork T) :=
  dropFirst (fun queued => isReplaceable queued.work) count (unrelated work entries)

/-- The works retired for one reason, in order. -/
def retiredFor (reason : RetirementReason) (retired : List (RetiredWork T)) : List T :=
  (retired.filter fun entry => entry.reason = reason).map RetiredWork.work

/-- **The specification of a successful admission.** The retired entries are the
replacement domain of the work and the shortest prefix of the candidates whose
removal makes room. Nothing else is retired, and the survivors keep their order. -/
structure Admission (limits : WorkQueueLimits) (work : T) (before kept : List (QueuedWork T))
    (retired : List (RetiredWork T)) (count : Nat) : Prop where
  replaced : retiredFor .replaced retired =
    (before.filter fun queued => sharesReplacementDomain work queued.work).map QueuedWork.work
  evicted : retiredFor .evictedForCapacity retired =
    ((candidates work before).take count).map QueuedWork.work
  reasons : ∀ entry ∈ retired, entry.reason = .replaced ∨ entry.reason = .evictedForCapacity
  kept_eq : kept = survivors work count before
  shortest : IsLeast {n | Fits limits (queuedPayloadBytes work) (survivors work n before)} count
  conserved : (retired.map RetiredWork.work ++ kept.map QueuedWork.work).Perm
    (before.map QueuedWork.work)

/-! ## The passes -/

/-- What the counters must be once the given entries remain. -/
def projectionOf (payloadBytes : Nat) (entries : List (QueuedWork T)) : Projection where
  items := entries.length + 1
  bytes := load entries + payloadBytes

omit [BoundedWork T] in
theorem exceedsLimits_projectionOf (limits : WorkQueueLimits) (payloadBytes : Nat)
    (entries : List (QueuedWork T)) :
    exceedsLimits (projectionOf payloadBytes entries).items
      (projectionOf payloadBytes entries).bytes limits =
        !decide (Fits limits payloadBytes entries) := by
  have apart : ¬ Fits limits payloadBytes entries ↔
      entries.length + 1 > limits.maxItems ∨
        load entries + payloadBytes > limits.maxPayloadBytes := by
    rw [Fits, not_and_or, not_le, not_le]
  rw [exceedsLimits, projectionOf, ← Bool.decide_or, ← decide_not, decide_eq_decide]
  exact apart.symm

omit [BoundedWork T] in
/-- Removing entries one at a time subtracts their number and their load. -/
theorem foldl_remove (projected : Projection) (entries : List (QueuedWork T)) :
    entries.foldl Projection.remove projected =
      ⟨projected.items - entries.length, projected.bytes - load entries⟩ := by
  induction entries generalizing projected with
  | nil => rfl
  | cons queued rest ih =>
      have items : projected.items - 1 - rest.length = projected.items - (rest.length + 1) := by
        omega
      have bytes : projected.bytes - queued.payloadBytes - load rest =
          projected.bytes - (queued.payloadBytes + load rest) := by
        omega
      rw [List.foldl_cons, ih, load_cons, List.length_cons, ← items, ← bytes]
      rfl

omit [BoundedWork T] in
/-- Taking part of the entries off the counters of the whole gives the counters
of the rest. -/
theorem foldl_remove_projectionOf {payloadBytes : Nat} {taken rest whole : List (QueuedWork T)}
    (perm : (taken ++ rest).Perm whole) :
    taken.foldl Projection.remove (projectionOf payloadBytes whole) =
      projectionOf payloadBytes rest := by
  have lengths : taken.length + rest.length = whole.length := by
    rw [← List.length_append, perm.length_eq]
  have loads : load taken + load rest = load whole := by
    rw [← load_append, load_perm perm]
  rw [foldl_remove]
  unfold projectionOf
  congr 1 <;> simp only <;> omega

theorem supersedePass_eq (work : T) (projected : Projection) (entries : List (QueuedWork T)) :
    supersedePass work projected entries =
      (entries.map fun queued => sharesReplacementDomain work queued.work,
        (entries.filter fun queued => sharesReplacementDomain work queued.work).foldl
          Projection.remove projected) := by
  induction entries generalizing projected with
  | nil => rfl
  | cons queued rest ih =>
      by_cases shares : sharesReplacementDomain work queued.work <;>
        simp [supersedePass, shares, ih]

/-- Each entry with the mark the first pass gives it. -/
def supersededMarks (work : T) (entries : List (QueuedWork T)) : List (Bool × QueuedWork T) :=
  entries.map fun queued => (sharesReplacementDomain work queued.work, queued)

theorem zip_supersededMarks (work : T) (entries : List (QueuedWork T)) :
    ((supersededMarks work entries).map Prod.fst).zip entries = supersededMarks work entries := by
  induction entries with
  | nil => rfl
  | cons queued rest ih =>
      unfold supersededMarks at ih ⊢
      rw [List.map_cons, List.map_cons, List.zip_cons_cons, ih]

/-- The walk of the second pass over the unrelated entries. -/
def evictWalk (limits : WorkQueueLimits) (projected : Projection)
    (entries : List (QueuedWork T)) : List Bool × Projection :=
  shed (fun queued => isReplaceable queued.work) Projection.remove
    (fun load => !exceedsLimits load.items load.bytes limits) projected entries

@[simp] theorem supersededMarks_cons (work : T) (queued : QueuedWork T)
    (rest : List (QueuedWork T)) :
    supersededMarks work (queued :: rest) =
      (sharesReplacementDomain work queued.work, queued) :: supersededMarks work rest := rfl

theorem unrelated_cons_of_shares {work : T} {queued : QueuedWork T}
    (shares : sharesReplacementDomain work queued.work = true) (rest : List (QueuedWork T)) :
    unrelated work (queued :: rest) = unrelated work rest := by
  simp [unrelated, shares]

theorem unrelated_cons_of_apart {work : T} {queued : QueuedWork T}
    (apart : sharesReplacementDomain work queued.work = false) (rest : List (QueuedWork T)) :
    unrelated work (queued :: rest) = queued :: unrelated work rest := by
  simp [unrelated, apart]

/-- The marks of the first pass leave the unrelated entries. -/
theorem leave_superseded (work : T) (entries : List (QueuedWork T)) :
    leave ((supersededMarks work entries).map Prod.fst) entries = unrelated work entries := by
  rw [supersededMarks, List.map_map]
  exact leave_map (fun queued => sharesReplacementDomain work queued.work) entries

/-- The marks of the first pass pick the replacement domain. -/
theorem pick_superseded (work : T) (entries : List (QueuedWork T)) :
    pick ((supersededMarks work entries).map Prod.fst) entries =
      entries.filter fun queued => sharesReplacementDomain work queued.work := by
  rw [supersededMarks, List.map_map]
  exact pick_map (fun queued => sharesReplacementDomain work queued.work) entries

/-- The second pass walks the unrelated entries and leaves the marks of the
others alone. -/
theorem evictPass_eq (limits : WorkQueueLimits) (work : T) (projected : Projection)
    (entries : List (QueuedWork T)) :
    let pass := evictPass limits projected (supersededMarks work entries)
    let walk := evictWalk limits projected (unrelated work entries)
    pass.2 = walk.2 ∧ pass.1.length = entries.length ∧
      leave pass.1 entries = leave walk.1 (unrelated work entries) ∧
      (pick pass.1 entries).filter (fun queued => sharesReplacementDomain work queued.work) =
        entries.filter (fun queued => sharesReplacementDomain work queued.work) ∧
      unrelated work (pick pass.1 entries) = pick walk.1 (unrelated work entries) := by
  induction entries generalizing projected with
  | nil => exact ⟨rfl, rfl, rfl, rfl, rfl⟩
  | cons queued rest ih =>
      cases shares : sharesReplacementDomain work queued.work with
      | true =>
          obtain ⟨counters, lengths, left, superseded, evicted⟩ := ih projected
          rw [unrelated_cons_of_shares shares]
          simp [evictPass, shares, counters, lengths, left, superseded,
            unrelated_cons_of_shares shares, evicted]
      | false =>
          rw [unrelated_cons_of_apart shares]
          cases replaceable : isReplaceable queued.work with
          | false =>
              obtain ⟨counters, lengths, left, superseded, evicted⟩ := ih projected
              simp only [evictWalk] at counters left evicted
              simp [evictPass, evictWalk, shed, shares, replaceable, counters, lengths, left,
                superseded, evicted]
          | true =>
              cases heavy : exceedsLimits (projected.remove queued).items
                (projected.remove queued).bytes limits with
              | true =>
                  obtain ⟨counters, lengths, left, superseded, evicted⟩ :=
                    ih (projected.remove queued)
                  simp only [evictWalk] at counters left evicted
                  simp [evictPass, evictWalk, shed, shares, replaceable, heavy, counters, lengths,
                    left, superseded, unrelated_cons_of_apart shares, evicted]
              | false =>
                  have lengths : (supersededMarks work rest).length = rest.length :=
                    List.length_map _
                  have none : unrelated work
                      (rest.filter fun queued => sharesReplacementDomain work queued.work) = [] := by
                    simp [unrelated]
                  simp [evictPass, evictWalk, shed, shares, replaceable, heavy, lengths,
                    leave_superseded, pick_superseded, unrelated_cons_of_apart shares, none]

/-- The record the third pass makes of a marked entry. -/
def retireAs (work : T) (queued : QueuedWork T) : RetiredWork T where
  work := queued.work
  reason := if sharesReplacementDomain work queued.work then .replaced else .evictedForCapacity

theorem drainPass_eq (work : T) (marks : List Bool) (entries : List (QueuedWork T))
    (aligned : marks.length = entries.length) :
    drainPass work (marks.zip entries) =
      ((pick marks entries).map (retireAs work), leave marks entries) := by
  induction entries generalizing marks with
  | nil => simp [drainPass]
  | cons queued rest ih =>
      cases marks with
      | nil => simp at aligned
      | cons mark marks =>
          have tail := ih marks (by simpa using aligned)
          cases mark <;> simp [drainPass, tail, retireAs]

theorem retiredFor_replaced (work : T) (entries : List (QueuedWork T)) :
    retiredFor .replaced (entries.map (retireAs work)) =
      (entries.filter fun queued => sharesReplacementDomain work queued.work).map
        QueuedWork.work := by
  induction entries with
  | nil => rfl
  | cons queued rest ih =>
      unfold retiredFor at ih ⊢
      by_cases shares : sharesReplacementDomain work queued.work <;>
        simp [retireAs, shares, ih]

theorem retiredFor_evicted (work : T) (entries : List (QueuedWork T)) :
    retiredFor .evictedForCapacity (entries.map (retireAs work)) =
      (unrelated work entries).map QueuedWork.work := by
  unfold unrelated
  induction entries with
  | nil => rfl
  | cons queued rest ih =>
      unfold retiredFor at ih ⊢
      by_cases shares : sharesReplacementDomain work queued.work <;>
        simp [retireAs, shares, ih]

/-! ## The passes compute the specification -/

/-- Marks that pick the replacement domain and a shortest prefix of the
candidates are an admission. -/
theorem admission_of_marks {limits : WorkQueueLimits} {work : T}
    {entries : List (QueuedWork T)} {marks : List Bool} {count : Nat}
    (aligned : marks.length = entries.length)
    (left : leave marks entries = survivors work count entries)
    (superseded : (pick marks entries).filter
        (fun queued => sharesReplacementDomain work queued.work) =
      entries.filter fun queued => sharesReplacementDomain work queued.work)
    (evicted : unrelated work (pick marks entries) = (candidates work entries).take count)
    (shortest :
      IsLeast {n | Fits limits (queuedPayloadBytes work) (survivors work n entries)} count) :
    Admission limits work entries (drainPass work (marks.zip entries)).2
      (drainPass work (marks.zip entries)).1 count := by
  rw [drainPass_eq work marks entries aligned]
  refine ⟨?_, ?_, ?_, left, shortest, ?_⟩
  · rw [retiredFor_replaced, superseded]
  · rw [retiredFor_evicted, evicted]
  · intro entry member
    obtain ⟨queued, _, rfl⟩ := List.mem_map.mp member
    unfold retireAs
    split
    · exact Or.inl rfl
    · exact Or.inr rfl
  · have works : ((pick marks entries).map (retireAs work)).map RetiredWork.work =
        (pick marks entries).map QueuedWork.work := by
      rw [List.map_map]
      rfl
    rw [works, ← List.map_append]
    exact (pick_append_leave_perm marks entries).map _

/-- What is left of the unrelated entries is an admission's survivors once every
candidate gives way. -/
theorem survivors_of_length_le {work : T} {count : Nat} {entries : List (QueuedWork T)}
    (enough : (candidates work entries).length ≤ count) :
    survivors work count entries = protectedFrom work entries :=
  dropFirst_of_length_le enough

theorem protectedFrom_sublist_survivors (work : T) (count : Nat)
    (entries : List (QueuedWork T)) :
    (protectedFrom work entries).Sublist (survivors work count entries) :=
  filter_not_sublist_dropFirst _ count _

/-- The counters after the first pass are those of the unrelated entries. -/
theorem supersedePass_counters (work : T) (payloadBytes : Nat) (entries : List (QueuedWork T)) :
    supersedePass work (projectionOf payloadBytes entries) entries =
      ((supersededMarks work entries).map Prod.fst,
        projectionOf payloadBytes (unrelated work entries)) := by
  have perm : ((entries.filter fun queued => sharesReplacementDomain work queued.work) ++
      unrelated work entries).Perm entries :=
    List.filter_append_perm _ entries
  rw [supersedePass_eq, foldl_remove_projectionOf perm, supersededMarks, List.map_map]
  rfl

/-- **The plan.** The entries marked for retirement are the replacement domain
and a prefix of the candidates. When the plan fits, that prefix is the shortest
that makes room. When it does not, nothing short of a protected entry would. -/
theorem planRetirement_cases (limits : WorkQueueLimits) (work : T)
    (entries : List (QueuedWork T)) :
    ∃ count marks,
      planRetirement limits work (projectionOf (queuedPayloadBytes work) entries) entries =
        (marks, projectionOf (queuedPayloadBytes work) (survivors work count entries)) ∧
      (Fits limits (queuedPayloadBytes work) (survivors work count entries) →
        Admission limits work entries (drainPass work (marks.zip entries)).2
          (drainPass work (marks.zip entries)).1 count) ∧
      (¬ Fits limits (queuedPayloadBytes work) (survivors work count entries) →
        ¬ Fits limits (queuedPayloadBytes work) (protectedFrom work entries)) := by
  unfold planRetirement
  rw [supersedePass_counters]
  simp only [exceedsLimits_projectionOf, zip_supersededMarks]
  by_cases fits : Fits limits (queuedPayloadBytes work) (unrelated work entries)
  · have whole : survivors work 0 entries = unrelated work entries := dropFirst_zero _ _
    refine ⟨0, (supersededMarks work entries).map Prod.fst, ?_, fun _ => ?_, fun heavy => ?_⟩
    · simp [fits, whole]
    · refine admission_of_marks (by simp [supersededMarks]) ?_ ?_ ?_ ?_
      · rw [leave_superseded, whole]
      · rw [pick_superseded, List.filter_filter]
        simp
      · rw [pick_superseded]
        simp [unrelated]
      · exact ⟨by simpa [whole] using fits, fun n _ => Nat.zero_le n⟩
    · exact absurd fits (whole ▸ heavy)
  · obtain ⟨counters, aligned, left, superseded, evicted⟩ :=
      evictPass_eq limits work (projectionOf (queuedPayloadBytes work) (unrelated work entries))
        entries
    obtain ⟨count, _, picked, dropped, reported, minimal, ending⟩ :=
      shed_shortest (fun queued : QueuedWork T => isReplaceable queued.work) Projection.remove
        (fun load => !exceedsLimits load.items load.bytes limits)
        (projectionOf (queuedPayloadBytes work) (unrelated work entries)) (unrelated work entries)
    have after : ∀ n, ((candidates work entries).take n).foldl Projection.remove
        (projectionOf (queuedPayloadBytes work) (unrelated work entries)) =
          projectionOf (queuedPayloadBytes work) (survivors work n entries) := fun n =>
      foldl_remove_projectionOf (take_append_dropFirst_perm _ n _)
    have tooFew : ∀ n < count,
        ¬ Fits limits (queuedPayloadBytes work) (survivors work n entries) := by
      intro n below
      rcases Nat.eq_zero_or_pos n with rfl | positive
      · rw [survivors, dropFirst_zero]
        exact fits
      · have heavy := minimal n below positive
        have counted := after n
        rw [candidates] at counted
        rw [counted, exceedsLimits_projectionOf] at heavy
        simpa using heavy
    refine ⟨count, (evictPass limits (projectionOf (queuedPayloadBytes work)
      (unrelated work entries)) (supersededMarks work entries)).1, ?_, fun room => ?_,
      fun heavy => ?_⟩
    · have counted := after count
      rw [candidates, ← reported] at counted
      simp only [fits, decide_false, Bool.not_false, if_true]
      exact Prod.ext rfl (counters.trans counted)
    · refine admission_of_marks aligned (left.trans dropped) superseded (evicted.trans picked) ?_
      refine ⟨room, fun n fitting => ?_⟩
      exact Nat.le_of_not_lt fun below => tooFew n below fitting
    · rcases ending with ⟨_, fitting⟩ | all
      · have counted := after count
        rw [candidates, ← reported] at counted
        rw [counted, exceedsLimits_projectionOf] at fitting
        exact absurd (by simpa using fitting) heavy
      · rwa [survivors_of_length_le (Nat.le_of_eq all.symm)] at heavy

/-- The state a successful admission leaves behind. -/
def admittedState (state : QueueState T) (kept : List (QueuedWork T)) (payloadBytes : Nat)
    (committed : T) : QueueState T :=
  { state with
    entries := kept ++ [⟨payloadBytes, committed⟩]
    payloadBytes := load kept + payloadBytes }

/-- **Everything admission can do.** A closed receiver or work that does not fit
next to the protected entries is refused and changes nothing. All other work is
admitted as specified, and the commit runs once. -/
theorem trySendWithCommit_cases {limits : WorkQueueLimits}
    (halfRange : limits.maxPayloadBytes ≤ usizeMax / 2) {state : QueueState T}
    (bounded : state.Bounded limits) (work : T) (commit : T → World → T × World)
    (world : World) :
    (state.receiverAlive = false ∧
      trySendWithCommit limits state work commit world =
        (state, rejected work .receiverClosed, world)) ∨
    (state.receiverAlive = true ∧
      ¬ Fits limits (queuedPayloadBytes work) (protectedFrom work state.entries) ∧
      trySendWithCommit limits state work commit world =
        (state, rejected work .saturated, world)) ∨
    (state.receiverAlive = true ∧ ∃ count kept retired,
      Admission limits work state.entries kept retired count ∧
      trySendWithCommit limits state work commit world =
        (admittedState state kept (queuedPayloadBytes work) (commit work world).1,
          ⟨true, retired⟩, (commit work world).2)) := by
  cases alive : state.receiverAlive with
  | false =>
      refine Or.inl ⟨rfl, ?_⟩
      simp [trySendWithCommit, alive]
  | true =>
      by_cases large : queuedPayloadBytes work > limits.maxPayloadBytes
      · refine Or.inr (Or.inl ⟨rfl, ?_, ?_⟩)
        · rintro ⟨_, bytes⟩
          omega
        · simp [trySendWithCommit, alive, large]
      · have counted : saturatingAdd usizeMax state.payloadBytes (queuedPayloadBytes work) =
            load state.entries + queuedPayloadBytes work := by
          have bytes := bounded.bytes
          rw [← bounded.counted]
          exact saturatingAdd_of_le (by omega)
        obtain ⟨count, marks, plan, admitted, refused⟩ :=
          planRetirement_cases limits work state.entries
        unfold projectionOf at plan
        by_cases fits : Fits limits (queuedPayloadBytes work) (survivors work count state.entries)
        · refine Or.inr (Or.inr ⟨rfl, count, _, _, admitted fits, ?_⟩)
          have room := exceedsLimits_projectionOf limits (queuedPayloadBytes work)
            (survivors work count state.entries)
          have kept := (admitted fits).kept_eq
          unfold projectionOf at room
          simp only [trySendWithCommit, alive, large, counted, plan, room, fits, admittedState, kept,
            Bool.not_true, Bool.false_eq_true, if_false, decide_true, List.dropLast_concat]
        · refine Or.inr (Or.inl ⟨rfl, refused fits, ?_⟩)
          have room := exceedsLimits_projectionOf limits (queuedPayloadBytes work)
            (survivors work count state.entries)
          unfold projectionOf at room
          simp only [trySendWithCommit, alive, large, counted, plan, room, fits,
            Bool.not_true, Bool.false_eq_true, if_false, decide_false, Bool.not_false, if_true]

end Omnivox.Queue
