import Mathlib

/-!
# Dependency orders

A list of nodes is put in an order in which no node comes after one of its targets. The
order grows by the least node that nothing outstanding points to, and stops when every
outstanding node is pointed to (`dependencyOrder_spec`).

Counts of incoming edges decide which nodes are ready. They are partial, and an order that
reads a missing count or takes from a count of zero fails. From the true counts that never
happens, and the order holds every node exactly when no node leads back to itself
(`length_eq_iff_acyclic`).
-/

set_option autoImplicit false

namespace Omnivox.Foundations

variable {α : Type} [LinearOrder α]

/-! ## The order -/

/-- How many outstanding edges point to each node, and which nodes are ready. -/
structure Dependencies (α : Type) where
  incoming : α → Option Nat
  ready : Finset α

/-- The least element of a set, and the others. -/
def popFirst (ready : Finset α) : Option (α × Finset α) :=
  if nonempty : ready.Nonempty then some (ready.min' nonempty, ready.erase (ready.min' nonempty))
  else none

/-- Take one edge to a target away. -/
def release (dependencies : Dependencies α) (target : α) : Option (Dependencies α) :=
  match dependencies.incoming target with
  | some (count + 1) => some {
      incoming := Function.update dependencies.incoming target (some count)
      ready := if count = 0 then insert target dependencies.ready else dependencies.ready }
  | _ => none

/-- Continue an order until no node is ready. Too little fuel fails. -/
def dependencyOrder (targets : α → Option (List α)) :
    Nat → Dependencies α → List α → Option (List α)
  | 0, dependencies, order => if dependencies.ready = ∅ then some order else none
  | fuel + 1, dependencies, order =>
      match popFirst dependencies.ready with
      | none => some order
      | some (node, ready) => do
          let outgoing ← targets node
          let released ← outgoing.foldlM release { dependencies with ready := ready }
          dependencyOrder targets fuel released (order ++ [node])

theorem popFirst_eq_none {ready : Finset α} : popFirst ready = none ↔ ready = ∅ := by
  unfold popFirst
  split
  · rename_i nonempty
    exact iff_of_false (fun absent => by cases absent) nonempty.ne_empty
  · rename_i empty
    exact iff_of_true rfl (Finset.not_nonempty_iff_eq_empty.mp empty)

theorem popFirst_eq_some {ready rest : Finset α} {node : α}
    (popped : popFirst ready = some (node, rest)) : node ∈ ready ∧ rest = ready.erase node := by
  unfold popFirst at popped
  split at popped
  · rename_i nonempty
    cases popped
    exact ⟨ready.min'_mem nonempty, rfl⟩
  · cases popped

/-! ## Edges -/

/-- The targets of all edges from some nodes. -/
def edgesFrom (targets : α → List α) (nodes : List α) : List α := nodes.flatMap targets

/-- A node has an edge to each of its targets. -/
def PointsTo (nodes : List α) (targets : α → List α) (first second : α) : Prop :=
  first ∈ nodes ∧ second ∈ targets first

/-- No node leads back to itself. -/
def Acyclic (nodes : List α) (targets : α → List α) : Prop :=
  ∀ node, ¬Relation.TransGen (PointsTo nodes targets) node node

/-- No node comes after one of its targets, or is one of them. -/
structure InDependencyOrder (targets : α → List α) (order : List α) : Prop where
  apart : order.Pairwise fun earlier later => earlier ∉ targets later
  selfless : ∀ node ∈ order, node ∉ targets node

/-! ## The invariant -/

section Invariant

variable {nodes : List α} {targets : α → List α}

/-- What holds while edges from a node of the order are owed a release. -/
structure Dependable (nodes : List α) (targets : α → List α) (order outstanding owed : List α)
    (dependencies : Dependencies α) : Prop where
  /-- Each node is in the order or outstanding. -/
  listed : (order ++ outstanding).Perm nodes
  /-- The counts are those of the edges that are not released. -/
  counted : ∀ node ∈ nodes, dependencies.incoming node =
    some ((owed ++ edgesFrom targets outstanding).count node)
  /-- A node is ready when it is outstanding and nothing points to it. -/
  ready : ∀ node, node ∈ dependencies.ready ↔
    node ∈ outstanding ∧ node ∉ owed ++ edgesFrom targets outstanding
  /-- Nothing points to a node of the order any more. -/
  settled : ∀ node ∈ order, node ∉ owed ++ edgesFrom targets outstanding
  /-- The order is one of dependency. -/
  ordered : InDependencyOrder targets order

variable {order outstanding owed : List α} {dependencies : Dependencies α} {target : α}

/-- **Releasing an edge that is owed** succeeds and leaves the others owed. -/
theorem Dependable.release
    (holds : Dependable nodes targets order outstanding (target :: owed) dependencies)
    (known : target ∈ nodes) : ∃ released, release dependencies target = some released ∧
      Dependable nodes targets order outstanding owed released := by
  have count := holds.counted target known
  rw [List.cons_append, List.count_cons_self] at count
  refine ⟨_, by rw [Foundations.release, count], ⟨holds.listed, ?_, ?_, ?_, holds.ordered⟩⟩
  · intro node listed
    by_cases same : node = target
    · rw [same]
      simp
    · have counted := holds.counted node listed
      rw [List.cons_append, List.count_cons_of_ne (Ne.symm same)] at counted
      simpa [Function.update_of_ne same] using counted
  · intro node
    have before := holds.ready node
    rw [List.cons_append, List.mem_cons, not_or] at before
    have outstanding_target : target ∈ outstanding := by
      rcases List.mem_append.mp (holds.listed.mem_iff.mpr known) with placed | waiting
      · exact absurd List.mem_cons_self (holds.settled target placed)
      · exact waiting
    by_cases same : node = target
    · subst same
      by_cases last : node ∈ owed ++ edgesFrom targets outstanding
      · have positive := List.count_pos_iff.mpr last
        rw [if_neg (by omega)]
        exact iff_of_false (fun ready => (before.mp ready).2.1 rfl) fun free => free.2 last
      · rw [List.count_eq_zero.mpr last]
        simp [outstanding_target, last]
    · split
      · rw [Finset.mem_insert, or_iff_right same, before]
        simp [same]
      · rw [before]
        simp [same]
  · intro node placed pointed
    exact holds.settled node placed (List.mem_cons_of_mem _ pointed)

theorem Dependable.releaseAll
    (holds : Dependable nodes targets order outstanding owed dependencies)
    (known : ∀ node ∈ owed, node ∈ nodes) :
    ∃ released, owed.foldlM Foundations.release dependencies = some released ∧
      Dependable nodes targets order outstanding [] released := by
  induction owed generalizing dependencies with
  | nil => exact ⟨dependencies, rfl, holds⟩
  | cons target rest ih =>
      obtain ⟨here, later⟩ := List.forall_mem_cons.mp known
      obtain ⟨released, succeeds, keeps⟩ := holds.release here
      obtain ⟨final, finishes, settles⟩ := ih keeps later
      refine ⟨final, ?_, settles⟩
      rw [List.foldlM_cons, succeeds]
      exact finishes

/-- A ready node joins the order, and its edges are owed a release. -/
theorem Dependable.place {node : α}
    (holds : Dependable nodes targets order outstanding [] dependencies)
    (distinct : nodes.Nodup) (ready : node ∈ dependencies.ready) :
    Dependable nodes targets (order ++ [node]) (outstanding.erase node) (targets node)
      { dependencies with ready := dependencies.ready.erase node } := by
  obtain ⟨waiting, free⟩ := (holds.ready node).mp ready
  have split : outstanding.Perm (node :: outstanding.erase node) := List.perm_cons_erase waiting
  have edges : (edgesFrom targets outstanding).Perm
      (targets node ++ edgesFrom targets (outstanding.erase node)) := by
    have flattened := split.flatMap_right targets
    rwa [List.flatMap_cons] at flattened
  have distinct' : (order ++ outstanding).Nodup := holds.listed.nodup_iff.mpr distinct
  have outstandingDistinct : outstanding.Nodup := distinct'.of_append_right
  rw [List.nil_append] at free
  refine ⟨?_, ?_, ?_, ?_, ?_⟩
  · rw [List.append_assoc, List.singleton_append]
    exact (split.symm.append_left order).trans holds.listed
  · intro other listed
    rw [holds.counted other listed, List.nil_append, edges.count_eq]
  · intro other
    rw [Finset.mem_erase, holds.ready other, List.nil_append, edges.mem_iff,
      outstandingDistinct.mem_erase_iff, and_assoc]
  · intro other placed
    rw [← edges.mem_iff]
    rcases List.mem_append.mp placed with before | here
    · exact holds.settled other before
    · rwa [List.mem_singleton.mp here]
  · constructor
    · rw [List.pairwise_append]
      refine ⟨holds.ordered.apart, List.pairwise_singleton _ _, ?_⟩
      intro earlier placed later here pointed
      rw [List.mem_singleton.mp here] at pointed
      apply holds.settled earlier placed
      exact List.mem_flatMap.mpr ⟨node, waiting, pointed⟩
    · intro other placed pointed
      rcases List.mem_append.mp placed with before | here
      · exact holds.ordered.selfless other before pointed
      · rw [List.mem_singleton.mp here] at pointed
        exact free (List.mem_flatMap.mpr ⟨node, waiting, pointed⟩)

/-- **Dependency ordering succeeds** with enough fuel, and every node it leaves out is
pointed to by another one that it leaves out. -/
theorem Dependable.dependencyOrder {lookup : α → Option (List α)} {fuel : Nat}
    (distinct : nodes.Nodup) (looksUp : ∀ node ∈ nodes, lookup node = some (targets node))
    (closed : ∀ node ∈ nodes, ∀ target ∈ targets node, target ∈ nodes)
    (holds : Dependable nodes targets order outstanding [] dependencies)
    (enough : outstanding.length ≤ fuel) :
    ∃ final left, Foundations.dependencyOrder lookup fuel dependencies order = some final ∧
      (final ++ left).Perm nodes ∧ InDependencyOrder targets final ∧
      ∀ node ∈ left, node ∈ edgesFrom targets left := by
  induction fuel generalizing dependencies order outstanding with
  | zero =>
      have none_left : outstanding = [] := List.length_eq_zero_iff.mp (by omega)
      have empty : dependencies.ready = ∅ := by
        apply Finset.eq_empty_of_forall_notMem
        intro node ready
        have waiting := ((holds.ready node).mp ready).1
        rw [none_left] at waiting
        exact List.not_mem_nil waiting
      refine ⟨order, [], by rw [Foundations.dependencyOrder, if_pos empty], ?_, holds.ordered, ?_⟩
      · have listed := holds.listed
        rwa [none_left] at listed
      · intro node absent
        exact absurd absent List.not_mem_nil
  | succ fuel ih =>
      rw [Foundations.dependencyOrder]
      cases popped : popFirst dependencies.ready with
      | none =>
          refine ⟨order, outstanding, rfl, holds.listed, holds.ordered, ?_⟩
          intro node waiting
          by_contra free
          have ready := (holds.ready node).mpr ⟨waiting, by rwa [List.nil_append]⟩
          rw [popFirst_eq_none.mp popped] at ready
          exact absurd ready (Finset.notMem_empty node)
      | some pair =>
          obtain ⟨node, rest⟩ := pair
          obtain ⟨ready, rfl⟩ := popFirst_eq_some popped
          have waiting := ((holds.ready node).mp ready).1
          have listed : node ∈ nodes :=
            holds.listed.mem_iff.mp (List.mem_append_right order waiting)
          obtain ⟨released, succeeds, keeps⟩ :=
            (holds.place distinct ready).releaseAll (closed node listed)
          have shorter : (outstanding.erase node).length ≤ fuel := by
            rw [List.length_erase_of_mem waiting]
            omega
          obtain ⟨final, left, finishes, facts⟩ := ih keeps shorter
          refine ⟨final, left, ?_, facts⟩
          simp only [looksUp node listed, Option.bind_eq_bind, Option.bind_some, succeeds]
          exact finishes

/-- The true counts, and the nodes that nothing points to. -/
theorem Dependable.start (counted : ∀ node ∈ nodes, dependencies.incoming node =
      some ((edgesFrom targets nodes).count node))
    (ready : ∀ node, node ∈ dependencies.ready ↔
      node ∈ nodes ∧ dependencies.incoming node = some 0) :
    Dependable nodes targets [] nodes [] dependencies where
  listed := List.Perm.refl nodes
  counted := counted
  ready node := by
    rw [ready, List.nil_append]
    refine and_congr_right fun listed => ?_
    rw [counted node listed, Option.some_inj, List.count_eq_zero]
  settled _ absent := absurd absent List.not_mem_nil
  ordered := ⟨List.Pairwise.nil, fun _ absent => absurd absent List.not_mem_nil⟩

end Invariant

/-! ## Cycles -/

section Cycles

variable {nodes : List α} {targets : α → List α} {order left : List α}

/-- An edge inside a dependency order goes forward. -/
theorem InDependencyOrder.forward (ordered : InDependencyOrder targets order) {first second : α}
    (listed : first ∈ order) (listed' : second ∈ order) (edge : second ∈ targets first) :
    order.idxOf first < order.idxOf second := by
  rcases lt_trichotomy (order.idxOf first) (order.idxOf second) with forward | same | backward
  · exact forward
  · have equal : first = second := (List.idxOf_inj listed).mp same
    subst equal
    exact absurd edge (ordered.selfless first listed)
  · have apart := List.pairwise_iff_getElem.mp ordered.apart (order.idxOf second)
      (order.idxOf first) (List.idxOf_lt_length_iff.mpr listed')
      (List.idxOf_lt_length_iff.mpr listed) backward
    rw [List.getElem_idxOf, List.getElem_idxOf] at apart
    exact absurd edge apart

/-- What leads to a node of a dependency order of all nodes stands before it. -/
theorem InDependencyOrder.leads_forward (ordered : InDependencyOrder targets order)
    (listed : ∀ node ∈ nodes, node ∈ order) {first second : α} (known : second ∈ nodes)
    (leads : Relation.TransGen (PointsTo nodes targets) first second) :
    order.idxOf first < order.idxOf second := by
  induction leads with
  | single edge => exact ordered.forward (listed _ edge.1) (listed _ known) edge.2
  | tail before edge ih =>
      exact (ih edge.1).trans (ordered.forward (listed _ edge.1) (listed _ known) edge.2)

/-- Where every node of a list is pointed to from the list and none leads back to itself, the
list is empty. -/
theorem Acyclic.eq_nil (acyclic : Acyclic nodes targets) (within : ∀ node ∈ left, node ∈ nodes)
    (pointed : ∀ node ∈ left, node ∈ edgesFrom targets left) : left = [] := by
  have strict : IsStrictOrder α (Relation.TransGen (PointsTo nodes targets)) :=
    { irrefl := acyclic, trans := fun _ _ _ => Relation.TransGen.trans }
  have wellFounded := left.toFinset.finite_toSet.wellFoundedOn
    (r := Relation.TransGen (PointsTo nodes targets))
  apply List.eq_nil_iff_forall_not_mem.mpr
  intro node member
  -- going back along edges never ends, as each node of the list has one before it
  refine wellFounded.induction (P := fun _ => False) (List.mem_toFinset.mpr member) ?_
  intro later listed ih
  obtain ⟨earlier, among, edge⟩ :=
    List.mem_flatMap.mp (pointed later (List.mem_toFinset.mp listed))
  exact ih earlier (List.mem_toFinset.mpr among)
    (Relation.TransGen.single ⟨within earlier among, edge⟩)

/-- **The order has every node exactly when there is no cycle.** -/
theorem InDependencyOrder.length_eq_iff_acyclic (ordered : InDependencyOrder targets order)
    (listed : (order ++ left).Perm nodes)
    (closed : ∀ node ∈ nodes, ∀ target ∈ targets node, target ∈ nodes)
    (pointed : ∀ node ∈ left, node ∈ edgesFrom targets left) :
    order.length = nodes.length ↔ Acyclic nodes targets := by
  have lengths := listed.length_eq
  rw [List.length_append] at lengths
  have complete : order.length = nodes.length ↔ left = [] := by
    rw [← List.length_eq_zero_iff]
    omega
  rw [complete]
  constructor
  · rintro rfl node leads
    rw [List.append_nil] at listed
    obtain ⟨last, _, edge⟩ := Relation.TransGen.tail'_iff.mp leads
    have known := closed last edge.1 node edge.2
    exact lt_irrefl _ (ordered.leads_forward (fun other => listed.mem_iff.mpr) known leads)
  · intro acyclic
    exact acyclic.eq_nil (fun node member => listed.mem_iff.mp (List.mem_append_right _ member))
      pointed

end Cycles

end Omnivox.Foundations
