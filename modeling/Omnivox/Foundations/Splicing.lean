import Mathlib

/-!
# Splicing intervals into a line

A line of source positions `0, 1, …` is cut at some positions, and an interval
is spliced in at each cut. Cuts come in order of their position, and several may
fall on one position.

Splicing moves every source position right by the lengths spliced in before or
at it (`splicedAfter`), and puts each interval at its position moved right by
the lengths before it (`placed`). Together the moved positions and the intervals
tile the new line: every point of it is one or the other, in exactly one way
(`splicing_tiles`).
-/

set_option autoImplicit false

namespace Omnivox.Foundations

/-- An interval of the given length, spliced in at a source position. -/
structure Splice where
  position : Nat
  length : Nat
  deriving Repr, DecidableEq

/-- The lengths spliced in by all cuts. -/
def spliceTotal (splices : List Splice) : Nat := (splices.map Splice.length).sum

@[simp] theorem spliceTotal_nil : spliceTotal [] = 0 := rfl

@[simp] theorem spliceTotal_cons (splice : Splice) (rest : List Splice) :
    spliceTotal (splice :: rest) = splice.length + spliceTotal rest := by
  simp [spliceTotal]

@[simp] theorem spliceTotal_append (first second : List Splice) :
    spliceTotal (first ++ second) = spliceTotal first + spliceTotal second := by
  simp [spliceTotal]

/-- Fewer cuts splice in less. -/
theorem spliceTotal_sublist {fewer more : List Splice} (sub : fewer.Sublist more) :
    spliceTotal fewer ≤ spliceTotal more := by
  induction sub with
  | slnil => exact Nat.le_refl _
  | cons splice _ ih =>
      rw [spliceTotal_cons]
      exact Nat.le_trans ih (Nat.le_add_left _ _)
  | cons_cons splice _ ih =>
      rw [spliceTotal_cons, spliceTotal_cons]
      exact Nat.add_le_add_left ih _

/-- Where a source position moves, in front of the intervals cut in at it. -/
def splicedBefore (splices : List Splice) (position : Nat) : Nat :=
  position + spliceTotal (splices.filter fun splice => splice.position < position)

/-- Where a source position moves, behind the intervals cut in at it. -/
def splicedAfter (splices : List Splice) (position : Nat) : Nat :=
  position + spliceTotal (splices.filter fun splice => splice.position ≤ position)

/-- The start and length of each interval on the new line. -/
def placed : Nat → List Splice → List (Nat × Nat)
  | _, [] => []
  | shift, splice :: rest =>
      (splice.position + shift, splice.length) :: placed (shift + splice.length) rest

/-- The intervals are in the order of their cuts. -/
def Ordered (splices : List Splice) : Prop :=
  splices.Pairwise fun first second => first.position ≤ second.position

/-- The point lies in the interval with the given index. -/
def InInterval (splices : List Splice) (point index : Nat) : Prop :=
  ∃ start length, (placed 0 splices)[index]? = some (start, length) ∧
    start ≤ point ∧ point < start + length

/-- A position between two groups of cuts moves at least past the first group,
unless cuts at the position itself are left out. -/
theorem spliced_between {front back : List Splice} {position : Nat}
    (before : ∀ splice ∈ front, splice.position ≤ position)
    (behind : ∀ splice ∈ back, position ≤ splice.position) :
    splicedBefore (front ++ back) position ≤ position + spliceTotal front ∧
      position + spliceTotal front ≤ splicedAfter (front ++ back) position := by
  have none : (back.filter fun splice => splice.position < position) = [] := by
    rw [List.filter_eq_nil_iff]
    intro splice member
    simp only [decide_eq_true_eq]
    exact Nat.not_lt.mpr (behind splice member)
  have all : (front.filter fun splice => splice.position ≤ position) = front := by
    rw [List.filter_eq_self]
    intro splice member
    exact decide_eq_true (before splice member)
  rw [splicedBefore, splicedAfter, List.filter_append, List.filter_append, none, all,
    List.append_nil, spliceTotal_append]
  exact ⟨Nat.add_le_add_left (spliceTotal_sublist List.filter_sublist) position, by omega⟩

theorem splicedAfter_le (splices : List Splice) (position : Nat) :
    splicedAfter splices position ≤ position + spliceTotal splices :=
  Nat.add_le_add_left (spliceTotal_sublist List.filter_sublist) position

/-! ## One cut at a time -/

/-- The intervals of a line that is itself moved right. -/
theorem placed_shift (shift : Nat) (splices : List Splice) :
    placed shift splices =
      (placed 0 splices).map fun interval => (interval.1 + shift, interval.2) := by
  induction splices generalizing shift with
  | nil => rfl
  | cons splice rest ih =>
      rw [placed, placed, ih (shift + splice.length), ih (0 + splice.length), List.map_cons,
        List.map_map]
      refine congrArg₂ _ rfl (List.map_congr_left fun interval _ => ?_)
      simp only [Function.comp_apply, Prod.mk.injEq, and_true]
      omega

/-- Every interval starts at or behind its cut. -/
theorem le_start_of_mem_placed {splices : List Splice} {low shift : Nat}
    (bound : ∀ splice ∈ splices, low ≤ splice.position) {interval : Nat × Nat}
    (member : interval ∈ placed shift splices) : low + shift ≤ interval.1 := by
  induction splices generalizing shift with
  | nil => cases member
  | cons splice rest ih =>
      rw [placed] at member
      rcases List.mem_cons.mp member with rfl | later
      · exact Nat.add_le_add_right (bound splice List.mem_cons_self) shift
      · have further := ih (fun other inRest => bound other (List.mem_cons_of_mem _ inRest)) later
        omega

/-- Positions in front of every cut stay. -/
theorem splicedAfter_of_lt {splices : List Splice} {position : Nat}
    (before : ∀ splice ∈ splices, position < splice.position) :
    splicedAfter splices position = position := by
  have none : (splices.filter fun splice => splice.position ≤ position) = [] := by
    rw [List.filter_eq_nil_iff]
    intro splice member
    have far := before splice member
    simp only [decide_eq_true_eq]
    exact Nat.not_le_of_gt far
  rw [splicedAfter, none, spliceTotal_nil, Nat.add_zero]

theorem splicedAfter_cons_of_le {splice : Splice} {position : Nat}
    (behind : splice.position ≤ position) (rest : List Splice) :
    splicedAfter (splice :: rest) position = splicedAfter rest position + splice.length := by
  rw [splicedAfter, List.filter_cons_of_pos (by simpa using behind), spliceTotal_cons,
    splicedAfter]
  omega

theorem splicedAfter_cons_of_lt {splice : Splice} {position : Nat}
    (before : position < splice.position) (rest : List Splice) :
    splicedAfter (splice :: rest) position = splicedAfter rest position := by
  rw [splicedAfter, List.filter_cons_of_neg (by simpa using before), splicedAfter]

/-- Behind the first interval, the others lie as they would without it. -/
theorem inInterval_cons_succ {splice : Splice} {rest : List Splice} {point index : Nat}
    (behind : splice.length ≤ point) :
    InInterval (splice :: rest) point (index + 1) ↔
      InInterval rest (point - splice.length) index := by
  unfold InInterval
  rw [placed, List.getElem?_cons_succ, placed_shift (0 + splice.length) rest, List.getElem?_map]
  constructor
  · rintro ⟨start, length, held, from_start, to_end⟩
    obtain ⟨⟨start', length'⟩, found, same⟩ := Option.map_eq_some_iff.mp held
    simp only [Prod.mk.injEq] at same
    exact ⟨start', length', found, by omega, by omega⟩
  · rintro ⟨start, length, held, from_start, to_end⟩
    refine ⟨start + (0 + splice.length), length, ?_, by omega, by omega⟩
    rw [held]
    rfl

theorem inInterval_cons_zero {splice : Splice} {rest : List Splice} {point : Nat} :
    InInterval (splice :: rest) point 0 ↔
      splice.position ≤ point ∧ point < splice.position + splice.length := by
  unfold InInterval
  rw [placed, List.getElem?_cons_zero]
  constructor
  · rintro ⟨start, length, held, from_start, to_end⟩
    cases held
    exact ⟨from_start, to_end⟩
  · rintro ⟨from_start, to_end⟩
    exact ⟨_, _, rfl, from_start, to_end⟩

/-- A later interval lies behind the end of the first one. -/
theorem InInterval.behind_first {splice : Splice} {rest : List Splice} {point index : Nat}
    (ordered : Ordered (splice :: rest)) (inside : InInterval (splice :: rest) point (index + 1)) :
    splice.position + splice.length ≤ point := by
  obtain ⟨start, length, held, from_start, _⟩ := inside
  rw [placed, List.getElem?_cons_succ] at held
  have bound := le_start_of_mem_placed (List.pairwise_cons.mp ordered).1
    (List.mem_of_getElem? held)
  simp only at bound
  omega

/-! ## The tiling -/

/-- Exactly one source position moves to the point. -/
def FromSource (splices : List Splice) (sources point : Nat) : Prop :=
  ∃! source, source < sources ∧ splicedAfter splices source = point

/-- The point lies in exactly one interval. -/
def FromSplice (splices : List Splice) (point : Nat) : Prop :=
  ∃! index, InInterval splices point index

/-- **The tiling.** Every point of the new line is the image of exactly one
source position or lies in exactly one interval, and never both. -/
theorem splicing_tiles {splices : List Splice} {sources point : Nat} (ordered : Ordered splices)
    (bounds : ∀ splice ∈ splices, splice.position ≤ sources)
    (onLine : point < sources + spliceTotal splices) :
    (FromSource splices sources point ∧ ∀ index, ¬ InInterval splices point index) ∨
      (FromSplice splices point ∧
        ∀ source < sources, splicedAfter splices source ≠ point) := by
  induction splices generalizing point with
  | nil =>
      refine Or.inl ⟨⟨point, ⟨by simpa using onLine, rfl⟩, ?_⟩, ?_⟩
      · rintro source ⟨_, same⟩
        exact same
      · rintro index ⟨start, length, held, _⟩
        simp [placed] at held
  | cons splice rest ih =>
      rw [spliceTotal_cons] at onLine
      have cut : splice.position ≤ sources := bounds splice List.mem_cons_self
      have later : ∀ other ∈ rest, splice.position ≤ other.position :=
        (List.pairwise_cons.mp ordered).1
      -- in front of the first cut nothing moves, behind it everything moves at least past it
      have stays : ∀ source < splice.position, splicedAfter (splice :: rest) source = source := by
        intro source before
        rw [splicedAfter_cons_of_lt before]
        exact splicedAfter_of_lt fun other member => Nat.lt_of_lt_of_le before (later other member)
      have moves : ∀ source, splice.position ≤ source →
          splice.position + splice.length ≤ splicedAfter (splice :: rest) source := by
        intro source behind
        rw [splicedAfter_cons_of_le behind, splicedAfter]
        omega
      rcases Nat.lt_or_ge point splice.position with front | notFront
      · refine Or.inl ⟨⟨point, ⟨by omega, stays point front⟩, ?_⟩, ?_⟩
        · rintro source ⟨_, same⟩
          rcases Nat.lt_or_ge source splice.position with before | behind
          · rw [← stays source before, same]
          · have far := moves source behind
            omega
        · intro index inside
          cases index with
          | zero =>
              have inFirst := inInterval_cons_zero.mp inside
              omega
          | succ index =>
              have far := inside.behind_first ordered
              omega
      · rcases Nat.lt_or_ge point (splice.position + splice.length) with inFirst | behind
        · refine Or.inr ⟨⟨0, inInterval_cons_zero.mpr ⟨notFront, inFirst⟩, ?_⟩, ?_⟩
          · intro index inside
            cases index with
            | zero => rfl
            | succ index =>
                have far := inside.behind_first ordered
                omega
          · intro source _ same
            rcases Nat.lt_or_ge source splice.position with before | after
            · rw [stays source before] at same
              omega
            · have far := moves source after
              omega
        · -- behind the first interval, drop it and move the point left by its length
          have image : ∀ source, splicedAfter (splice :: rest) source = point ↔
              splicedAfter rest source = point - splice.length := by
            intro source
            rcases Nat.lt_or_ge source splice.position with before | after
            · have fixed := stays source before
              rw [splicedAfter_cons_of_lt before] at fixed ⊢
              omega
            · rw [splicedAfter_cons_of_le after]
              omega
          have shifted : ∀ index, InInterval (splice :: rest) point (index + 1) ↔
              InInterval rest (point - splice.length) index :=
            fun index => inInterval_cons_succ (by omega)
          have notFirst : ¬ InInterval (splice :: rest) point 0 := by
            intro inside
            have inFirst := inInterval_cons_zero.mp inside
            omega
          have onShorter : point - splice.length < sources + spliceTotal rest := by omega
          rcases ih (List.pairwise_cons.mp ordered).2
            (fun other member => bounds other (List.mem_cons_of_mem _ member)) onShorter with
            ⟨⟨source, ⟨inside, moved⟩, only⟩, outside⟩ | ⟨⟨index, inside, only⟩, outside⟩
          · refine Or.inl ⟨⟨source, ⟨inside, (image source).mpr moved⟩, ?_⟩, ?_⟩
            · rintro other ⟨otherInside, otherMoved⟩
              exact only other ⟨otherInside, (image other).mp otherMoved⟩
            · intro index held
              cases index with
              | zero => exact notFirst held
              | succ index => exact outside index ((shifted index).mp held)
          · refine Or.inr ⟨⟨index + 1, (shifted index).mpr inside, ?_⟩, ?_⟩
            · intro other held
              cases other with
              | zero => exact absurd held notFirst
              | succ other => exact congrArg (· + 1) (only other ((shifted other).mp held))
            · intro source below moved
              exact outside source below ((image source).mp moved)

end Omnivox.Foundations
