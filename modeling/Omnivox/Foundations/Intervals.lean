import Mathlib

/-!
# Intervals in order

A list of closed intervals that do not touch, and where a point is placed among them: in
the first interval that ends behind it, or in the last one that begins in front of it. A
point in a gap is moved to the end of the interval it is placed in.

The two placements keep the order of points, but for one case: the first point is placed
forwards, the second one backwards, and both lie in one gap (`placed_ordered`).
-/

set_option autoImplicit false

namespace Omnivox.Foundations

variable {ι α : Type*}

/-! ## Partitions -/

/-- `partition_point` of a list that a property divides: the length of the part that has
it. -/
def partitionPoint (holds : ι → Bool) (l : List ι) : Nat := (l.takeWhile holds).length

theorem partitionPoint_le (holds : ι → Bool) (l : List ι) :
    partitionPoint holds l ≤ l.length := (List.takeWhile_sublist holds).length_le

/-- An element lies in front of the partition point exactly if it has the property. -/
theorem lt_partitionPoint {holds : ι → Bool} {l : List ι} {index : Nat} {a : ι}
    (divided : l.Pairwise fun first second => holds second = true → holds first = true)
    (here : l[index]? = some a) : index < partitionPoint holds l ↔ holds a = true := by
  induction l generalizing index with
  | nil => cases here
  | cons first rest ih =>
      obtain ⟨earlier, later⟩ := List.pairwise_cons.mp divided
      unfold partitionPoint at ih ⊢
      cases index with
      | zero =>
          obtain rfl : first = a := Option.some.inj here
          cases found : holds first with
          | true => simp [found]
          | false => simp [found]
      | succ index =>
          rw [List.getElem?_cons_succ] at here
          have member := List.mem_of_getElem? here
          cases found : holds first with
          | true =>
              rw [List.takeWhile_cons, if_pos found, List.length_cons, Nat.add_lt_add_iff_right]
              exact ih later here
          | false =>
              rw [List.takeWhile_cons, if_neg (by rw [found]; exact Bool.false_ne_true)]
              refine ⟨fun absurdity => absurd absurdity (Nat.not_lt_zero _), fun holdsLater => ?_⟩
              rw [earlier a member holdsLater] at found
              cases found

/-! ## Placing a point -/

section Placing

variable [LinearOrder α] (start stop : ι → α)

/-- Closed intervals in order, with gaps between them. -/
structure Intervals (l : List ι) : Prop where
  filled : ∀ interval ∈ l, start interval ≤ stop interval
  apart : l.Pairwise fun first second => stop first < start second

/-- The first interval that ends behind a point, or the last one. -/
def firstEndingBehind (l : List ι) (point : α) : Nat :=
  min (partitionPoint (fun interval => decide (stop interval ≤ point)) l) (l.length - 1)

/-- The last interval that begins in front of a point, or the first one. -/
def lastStartingBefore (l : List ι) (point : α) : Nat :=
  partitionPoint (fun interval => decide (start interval < point)) l - 1

/-- A point moved into an interval. -/
def clampTo (interval : ι) (point : α) : α := max (start interval) (min point (stop interval))

variable {start stop} {l : List ι} {interval : ι} {point first second : α} {index : Nat}

theorem clampTo_mem (filled : start interval ≤ stop interval) :
    start interval ≤ clampTo start stop interval point ∧
      clampTo start stop interval point ≤ stop interval :=
  ⟨le_max_left _ _, max_le filled (min_le_right _ _)⟩

/-- The moved point is the point or an end of the interval. -/
theorem clampTo_cases (start stop : ι → α) (interval : ι) (point : α) :
    clampTo start stop interval point = point ∨
      clampTo start stop interval point = start interval ∨
      clampTo start stop interval point = stop interval := by
  unfold clampTo
  rcases max_choice (start interval) (min point (stop interval)) with same | same
  · exact Or.inr (Or.inl same)
  · rcases min_choice point (stop interval) with inner | inner
    · exact Or.inl (same.trans inner)
    · exact Or.inr (Or.inr (same.trans inner))

theorem clampTo_mono (before : first ≤ second) :
    clampTo start stop interval first ≤ clampTo start stop interval second :=
  max_le_max le_rfl (min_le_min before le_rfl)

theorem firstEndingBehind_lt (stop : ι → α) (point : α) (some_interval : l ≠ []) :
    firstEndingBehind stop l point < l.length := by
  have positive := List.length_pos_iff.mpr some_interval
  unfold firstEndingBehind
  omega

theorem lastStartingBefore_lt (start : ι → α) (point : α) (some_interval : l ≠ []) :
    lastStartingBefore start l point < l.length := by
  have positive := List.length_pos_iff.mpr some_interval
  have bound := partitionPoint_le (fun interval => decide (start interval < point)) l
  unfold lastStartingBefore
  omega

namespace Intervals

/-- The starts increase. -/
theorem starts (intervals : Intervals start stop l) :
    l.Pairwise fun first second => start first < start second :=
  List.Pairwise.imp_of_mem (fun member _ apart => lt_of_le_of_lt (intervals.filled _ member) apart)
    intervals.apart

/-- The ends increase. -/
theorem stops (intervals : Intervals start stop l) :
    l.Pairwise fun first second => stop first < stop second :=
  List.Pairwise.imp_of_mem (fun _ member apart => lt_of_lt_of_le apart (intervals.filled _ member))
    intervals.apart

/-- Later intervals begin behind the end of earlier ones. -/
theorem stop_lt_start (intervals : Intervals start stop l) {earlier later : Nat} {a b : ι}
    (before : earlier < later) (here : l[earlier]? = some a) (there : l[later]? = some b) :
    stop a < start b := by
  obtain ⟨bound, rfl⟩ := List.getElem?_eq_some_iff.mp here
  obtain ⟨bound', rfl⟩ := List.getElem?_eq_some_iff.mp there
  exact (List.pairwise_iff_getElem.mp intervals.apart) earlier later bound bound' before

/-- The intervals that end in front of a point. -/
theorem lt_stops (intervals : Intervals start stop l) (here : l[index]? = some interval) :
    index < partitionPoint (fun other => decide (stop other ≤ point)) l ↔
      stop interval ≤ point := by
  have divided : l.Pairwise fun a b => decide (stop b ≤ point) = true →
      decide (stop a ≤ point) = true :=
    intervals.stops.imp fun apart holds =>
      decide_eq_true (le_trans (le_of_lt apart) (of_decide_eq_true holds))
  rw [lt_partitionPoint divided here, decide_eq_true_eq]

/-- The intervals that begin in front of a point. -/
theorem lt_starts (intervals : Intervals start stop l) (here : l[index]? = some interval) :
    index < partitionPoint (fun other => decide (start other < point)) l ↔
      start interval < point := by
  have divided : l.Pairwise fun a b => decide (start b < point) = true →
      decide (start a < point) = true :=
    intervals.starts.imp fun apart holds =>
      decide_eq_true (lt_trans apart (of_decide_eq_true holds))
  rw [lt_partitionPoint divided here, decide_eq_true_eq]

/-- Every interval in front of the place that is found forwards ends in front of the
point. -/
theorem stop_le_of_lt_first (intervals : Intervals start stop l)
    (before : index < firstEndingBehind stop l point) (here : l[index]? = some interval) :
    stop interval ≤ point :=
  (intervals.lt_stops here).mp (lt_of_lt_of_le before (min_le_left _ _))

/-- The place that is found forwards is the last one or ends behind the point. -/
theorem lt_stop_first (intervals : Intervals start stop l)
    (here : l[firstEndingBehind stop l point]? = some interval) :
    firstEndingBehind stop l point = l.length - 1 ∨ point < stop interval := by
  rcases Nat.lt_or_ge (partitionPoint (fun other => decide (stop other ≤ point)) l)
    (l.length - 1) with inside | last
  · refine Or.inr (not_le.mp fun ended => ?_)
    have behind := (intervals.lt_stops here).mpr ended
    unfold firstEndingBehind at behind
    omega
  · refine Or.inl ?_
    unfold firstEndingBehind
    omega

/-- The place that is found backwards is the first one or begins in front of the point. -/
theorem start_last_lt (intervals : Intervals start stop l)
    (here : l[lastStartingBefore start l point]? = some interval) :
    lastStartingBefore start l point = 0 ∨ start interval < point := by
  rcases Nat.eq_zero_or_pos (lastStartingBefore start l point) with first | later
  · exact Or.inl first
  · refine Or.inr ((intervals.lt_starts here).mp ?_)
    unfold lastStartingBefore at later ⊢
    omega

/-- Every interval behind the place that is found backwards begins behind the point. -/
theorem le_start_of_last_lt (intervals : Intervals start stop l)
    (behind : lastStartingBefore start l point < index) (here : l[index]? = some interval) :
    point ≤ start interval := by
  refine not_lt.mp fun begun => ?_
  have before := (intervals.lt_starts here).mpr begun
  unfold lastStartingBefore at behind
  omega

end Intervals

/-! ## The order of places -/

/-- Whether a point is placed forwards or backwards. -/
inductive Search where
  | forwards
  | backwards
  deriving DecidableEq

variable (start stop) in
/-- Where a point is placed. -/
def place (l : List ι) (point : α) : Search → Nat
  | .forwards => firstEndingBehind stop l point
  | .backwards => lastStartingBefore start l point

theorem place_lt (start stop : ι → α) (point : α) (search : Search) (some_interval : l ≠ []) :
    place start stop l point search < l.length := by
  cases search with
  | forwards => exact firstEndingBehind_lt stop point some_interval
  | backwards => exact lastStartingBefore_lt start point some_interval

variable (start stop) in
/-- Two points in one gap, its ends included. -/
def ShareGap (l : List ι) (first second : α) : Prop :=
  ∃ (index : Nat) (a b : ι), l[index]? = some a ∧ l[index + 1]? = some b ∧ stop a ≤ first ∧
    second ≤ start b

/-- **The place does not go back** if both points are placed in the same direction. -/
theorem place_mono (before : first ≤ second) (search : Search) :
    place start stop l first search ≤ place start stop l second search := by
  have longer : ∀ (earlier later : ι → Bool), (∀ a, earlier a = true → later a = true) →
      partitionPoint earlier l ≤ partitionPoint later l := by
    intro earlier later implies
    unfold partitionPoint
    induction l with
    | nil => exact le_rfl
    | cons a rest ih =>
        cases found : earlier a with
        | true =>
            rw [List.takeWhile_cons, if_pos found, List.takeWhile_cons, if_pos (implies a found)]
            exact Nat.succ_le_succ ih
        | false =>
            rw [List.takeWhile_cons, if_neg (by rw [found]; exact Bool.false_ne_true)]
            exact Nat.zero_le _
  cases search with
  | forwards =>
      have grows := longer (fun a => decide (stop a ≤ first)) (fun a => decide (stop a ≤ second))
        fun a ended => decide_eq_true (le_trans (of_decide_eq_true ended) before)
      simp only [place, firstEndingBehind]
      omega
  | backwards =>
      have grows := longer (fun a => decide (start a < first)) (fun a => decide (start a < second))
        fun a begun => decide_eq_true (lt_of_lt_of_le (of_decide_eq_true begun) before)
      simp only [place, lastStartingBefore]
      omega

/-- **Backwards, then forwards**: the place does not go back. -/
theorem backwards_le_forwards (intervals : Intervals start stop l) (some_interval : l ≠ [])
    (before : first < second) :
    lastStartingBefore start l first ≤ firstEndingBehind stop l second := by
  by_contra crossed
  have crossing := Nat.lt_of_not_ge crossed
  obtain ⟨a, here⟩ : ∃ a, l[lastStartingBefore start l first]? = some a :=
    ⟨_, List.getElem?_eq_getElem (lastStartingBefore_lt start first some_interval)⟩
  obtain ⟨b, there⟩ : ∃ b, l[firstEndingBehind stop l second]? = some b :=
    ⟨_, List.getElem?_eq_getElem (firstEndingBehind_lt stop second some_interval)⟩
  have gap := intervals.stop_lt_start crossing there here
  have begun : start a < first := by
    rcases intervals.start_last_lt here with zero | begun
    · omega
    · exact begun
  have ahead : second < stop b := by
    have inside := lastStartingBefore_lt start first some_interval
    rcases intervals.lt_stop_first there with last | ahead
    · omega
    · exact ahead
  exact absurd (lt_trans (lt_trans ahead gap) begun) (not_lt.mpr (le_of_lt before))

/-- **Forwards, then backwards**: the place goes back exactly if the points share a gap. -/
theorem backwards_lt_forwards (intervals : Intervals start stop l) (some_interval : l ≠ []) :
    lastStartingBefore start l second < firstEndingBehind stop l first ↔
      ShareGap start stop l first second := by
  constructor
  · intro crossed
    obtain ⟨earlier, same⟩ : ∃ earlier, firstEndingBehind stop l first = earlier + 1 :=
      Nat.exists_eq_add_one.mpr (Nat.lt_of_le_of_lt (Nat.zero_le _) crossed)
    have inside := firstEndingBehind_lt stop first some_interval
    rw [same] at crossed inside
    have here := List.getElem?_eq_getElem (Nat.lt_of_succ_lt inside)
    have there := List.getElem?_eq_getElem inside
    exact ⟨earlier, _, _, here, there,
      intervals.stop_le_of_lt_first (by rw [same]; exact Nat.lt_succ_self _) here,
      intervals.le_start_of_last_lt crossed there⟩
  · rintro ⟨index, a, b, here, there, ended, ahead⟩
    have inside := (List.getElem?_eq_some_iff.mp there).1
    have passed := (intervals.lt_stops here).mpr ended
    have stopped : ¬ index + 1 < partitionPoint (fun other => decide (start other < second)) l :=
      fun begun => absurd ((intervals.lt_starts there).mp begun) (not_lt.mpr ahead)
    unfold lastStartingBefore firstEndingBehind
    omega

/-- **Order of places.** Of two points in order, the first is placed in front of the second,
or in the same interval and not behind it, exactly unless it is placed forwards, the second
backwards, and they share a gap. -/
theorem placed_ordered (intervals : Intervals start stop l) (some_interval : l ≠ [])
    (before : first < second) {ahead back : Search} {a b : ι}
    (here : l[place start stop l first ahead]? = some a)
    (there : l[place start stop l second back]? = some b) :
    (place start stop l first ahead < place start stop l second back ∨
      place start stop l first ahead = place start stop l second back ∧
        clampTo start stop a first ≤ clampTo start stop b second) ↔
      ¬ (ahead = .forwards ∧ back = .backwards ∧ ShareGap start stop l first second) := by
  have ordered : place start stop l first ahead ≤ place start stop l second back →
      (place start stop l first ahead < place start stop l second back ∨
        place start stop l first ahead = place start stop l second back ∧
          clampTo start stop a first ≤ clampTo start stop b second) := by
    intro notBack
    rcases Nat.lt_or_eq_of_le notBack with less | same
    · exact Or.inl less
    · obtain rfl : a = b := Option.some.inj (by rw [← here, ← there, same])
      exact Or.inr ⟨same, clampTo_mono (le_of_lt before)⟩
  by_cases crossing : ahead = .forwards ∧ back = .backwards
  · obtain ⟨rfl, rfl⟩ := crossing
    have crossed : lastStartingBefore start l second < firstEndingBehind stop l first ↔
        ShareGap start stop l first second := backwards_lt_forwards intervals some_interval
    constructor
    · rintro inOrder ⟨-, -, shared⟩
      have back : lastStartingBefore start l second < firstEndingBehind stop l first :=
        crossed.mpr shared
      simp only [place] at inOrder
      omega
    · intro apart
      refine ordered (Nat.le_of_not_lt fun back => apart ⟨rfl, rfl, crossed.mp back⟩)
  · refine ⟨fun _ crossed => crossing ⟨crossed.1, crossed.2.1⟩, fun _ => ordered ?_⟩
    cases ahead <;> cases back
    · exact place_mono (le_of_lt before) .forwards
    · exact absurd ⟨rfl, rfl⟩ crossing
    · exact backwards_le_forwards intervals some_interval before
    · exact place_mono (le_of_lt before) .backwards

end Placing

end Omnivox.Foundations
