import Mathlib
import Omnivox.Foundations.Splicing

/-!
# Lines of values

A line is a list of values that is silent, that is zero, outside. Pieces are written
over it, added to it at a place, and cut off it; what that does is said place by place.

A line is opened at cuts by silence of their lengths (`opened`). Its values are then
where splicing moves them, and everything else is silent (`valueAt_opened`).
-/

set_option autoImplicit false

namespace Omnivox.Foundations

variable {M : Type*} [AddCommMonoid M]

/-- The value at a place. -/
def valueAt (line : List M) (place : Nat) : M := line.getD place 0

/-- The value at a place of a line that begins further on. -/
def valueFrom (start : Nat) (line : List M) (place : Nat) : M :=
  if start ≤ place then valueAt line (place - start) else 0

/-- A piece in place of what was there. -/
def overwrite (line : List M) (start : Nat) (piece : List M) : List M :=
  line.take start ++ piece ++ line.drop (start + piece.length)

/-- A line that is at least this long. -/
def extendTo (line : List M) (length : Nat) : List M :=
  line ++ List.replicate (length - line.length) 0

/-- A piece on top of what was there. -/
def addAt (line : List M) (start : Nat) (piece : List M) : List M :=
  line.take start ++ List.zipWith (· + ·) ((line.drop start).take piece.length) piece ++
    line.drop (start + piece.length)

theorem valueAt_of_le {line : List M} {place : Nat} (outside : line.length ≤ place) :
    valueAt line place = 0 := by
  unfold valueAt
  rw [List.getD_eq_default _ _ outside]

@[simp] theorem valueAt_nil (place : Nat) : valueAt ([] : List M) place = 0 := rfl

theorem valueAt_append (first second : List M) (place : Nat) :
    valueAt (first ++ second) place =
      if place < first.length then valueAt first place
      else valueAt second (place - first.length) := by
  unfold valueAt
  split
  · rename_i inside
    exact List.getD_append first second 0 place inside
  · rename_i behind
    exact List.getD_append_right first second 0 place (Nat.le_of_not_gt behind)

@[simp] theorem valueAt_replicate (length place : Nat) :
    valueAt (List.replicate length (0 : M)) place = 0 := by
  unfold valueAt
  by_cases inside : place < length
  · rw [List.getD_eq_getElem _ _ (by simpa using inside), List.getElem_replicate]
  · rw [List.getD_eq_default _ _ (by simpa using inside)]

theorem valueAt_take (line : List M) (length place : Nat) :
    valueAt (line.take length) place = if place < length then valueAt line place else 0 := by
  unfold valueAt
  rw [List.getD_eq_getElem?_getD, List.getElem?_take]
  split
  · rw [List.getD_eq_getElem?_getD]
  · rfl

theorem valueAt_drop (line : List M) (count place : Nat) :
    valueAt (line.drop count) place = valueAt line (count + place) := by
  unfold valueAt
  rw [List.getD_eq_getElem?_getD, List.getElem?_drop, List.getD_eq_getElem?_getD]

theorem valueAt_map {N : Type*} [AddCommMonoid N] {change : M → N} (silent : change 0 = 0)
    (line : List M) (place : Nat) : valueAt (line.map change) place = change (valueAt line place) := by
  unfold valueAt
  rw [← silent, List.getD_map]

@[simp] theorem valueAt_extendTo (line : List M) (length place : Nat) :
    valueAt (extendTo line length) place = valueAt line place := by
  unfold extendTo
  rw [valueAt_append, valueAt_replicate]
  split
  · rfl
  · rename_i behind
    exact (valueAt_of_le (Nat.le_of_not_gt behind)).symm

theorem length_extendTo (line : List M) (length : Nat) :
    (extendTo line length).length = max line.length length := by
  rw [extendTo, List.length_append, List.length_replicate]
  omega

theorem valueAt_zipWith_add {first second : List M} (same : first.length = second.length)
    (place : Nat) : valueAt (List.zipWith (· + ·) first second) place =
      valueAt first place + valueAt second place := by
  by_cases inside : place < first.length
  · unfold valueAt
    rw [List.getD_eq_getElem _ _ (by rw [List.length_zipWith]; omega), List.getElem_zipWith,
      List.getD_eq_getElem _ _ inside, List.getD_eq_getElem _ _ (same ▸ inside)]
  · rw [valueAt_of_le (by rw [List.length_zipWith]; omega), valueAt_of_le (by omega),
      valueAt_of_le (by omega), add_zero]

/-- **An added piece** sounds together with what was there. -/
theorem valueAt_addAt {line piece : List M} {start : Nat}
    (fits : start + piece.length ≤ line.length) (place : Nat) :
    valueAt (addAt line start piece) place =
      valueAt line place + valueFrom start piece place := by
  have same : ((line.drop start).take piece.length).length = piece.length := by
    rw [List.length_take_of_le]
    rw [List.length_drop]
    omega
  unfold addAt valueFrom
  rw [valueAt_append, valueAt_append, valueAt_take, valueAt_zipWith_add same, valueAt_take,
    valueAt_drop, valueAt_drop, List.length_append, List.length_take_of_le (by omega),
    List.length_zipWith, same, Nat.min_self]
  by_cases before : place < start
  · rw [if_pos (by omega), if_pos before, if_pos before, if_neg (by omega), add_zero]
  · by_cases inside : place < start + piece.length
    · rw [if_pos inside, if_neg before, if_pos (by omega), if_pos (by omega)]
      congr 2
      omega
    · rw [if_neg inside, if_pos (by omega), @valueAt_of_le _ _ piece _ (by omega), add_zero]
      congr 1
      omega

theorem length_addAt {line piece : List M} {start : Nat}
    (fits : start + piece.length ≤ line.length) :
    (addAt line start piece).length = line.length := by
  rw [addAt, List.length_append, List.length_append, List.length_take_of_le (by omega),
    List.length_zipWith, List.length_take_of_le (by rw [List.length_drop]; omega),
    List.length_drop]
  omega

/-- Nothing that starts at the beginning is moved. -/
@[simp] theorem valueFrom_zero (line : List M) (place : Nat) :
    valueFrom 0 line place = valueAt line place := by
  unfold valueFrom
  rw [if_pos (Nat.zero_le _), Nat.sub_zero]

/-- A piece written behind what is done, where there was silence. -/
theorem overwrite_silence {start count : Nat} {done piece : List M} (here : done.length = start)
    (fits : piece.length ≤ count) :
    overwrite (done ++ List.replicate count 0) start piece =
      done ++ piece ++ List.replicate (count - piece.length) 0 := by
  subst here
  rw [overwrite, List.take_left, List.drop_append, List.drop_eq_nil_of_le (by omega),
    List.nil_append, List.drop_replicate]
  congr 2
  omega

/-! ## A line that is opened at cuts -/

/-- What is left of a line from a place on, with silence at each cut. -/
def opened : Nat → List Splice → List M → List M
  | start, [], line => line.drop start
  | start, splice :: rest, line =>
      (line.drop start).take (splice.position - start) ++
        (List.replicate splice.length 0 ++ opened splice.position rest line)

theorem length_opened {start : Nat} {splices : List Splice} {line : List M}
    (ordered : Ordered splices) (behind : ∀ splice ∈ splices, start ≤ splice.position)
    (bounds : ∀ splice ∈ splices, splice.position ≤ line.length) :
    (opened start splices line).length = line.length - start + spliceTotal splices := by
  induction splices generalizing start with
  | nil => rw [opened, List.length_drop, spliceTotal_nil, Nat.add_zero]
  | cons splice rest ih =>
      have here := behind splice List.mem_cons_self
      have bound := bounds splice List.mem_cons_self
      have tail := ih (List.pairwise_cons.mp ordered).2 (List.pairwise_cons.mp ordered).1
        fun other member => bounds other (List.mem_cons_of_mem _ member)
      rw [opened, List.length_append, List.length_append, tail, List.length_replicate,
        List.length_take, List.length_drop, spliceTotal_cons]
      omega

/-- A value is where splicing moves its place. -/
theorem valueAt_opened_image {start place : Nat} {splices : List Splice} {line : List M}
    (ordered : Ordered splices) (behind : ∀ splice ∈ splices, start ≤ splice.position)
    (bounds : ∀ splice ∈ splices, splice.position ≤ line.length) (from_start : start ≤ place) :
    valueAt (opened start splices line) (splicedAfter splices place - start) =
      valueAt line place := by
  induction splices generalizing start with
  | nil =>
      rw [opened, valueAt_drop, splicedAfter, List.filter_nil, spliceTotal_nil]
      congr 1
      omega
  | cons splice rest ih =>
      have here := behind splice List.mem_cons_self
      have bound := bounds splice List.mem_cons_self
      have later := (List.pairwise_cons.mp ordered).1
      have piece : ((line.drop start).take (splice.position - start)).length =
          splice.position - start := by
        rw [List.length_take_of_le]
        rw [List.length_drop]
        omega
      rw [opened, valueAt_append, piece]
      by_cases front : place < splice.position
      · rw [splicedAfter_cons_of_lt front,
          splicedAfter_of_lt fun other member => Nat.lt_of_lt_of_le front (later other member),
          if_pos (by omega), valueAt_take, if_pos (by omega), valueAt_drop]
        congr 1
        omega
      · have tail := ih (List.pairwise_cons.mp ordered).2 later
          (fun other member => bounds other (List.mem_cons_of_mem _ member))
          (Nat.le_of_not_gt front)
        have moved : place ≤ splicedAfter rest place := Nat.le_add_right _ _
        rw [splicedAfter_cons_of_le (Nat.le_of_not_gt front), if_neg (by omega), valueAt_append,
          List.length_replicate, if_neg (by omega), ← tail]
        congr 1
        omega

/-- A place that no value moves to is silent. -/
theorem valueAt_opened_silent {start point : Nat} {splices : List Splice} {line : List M}
    (ordered : Ordered splices) (behind : ∀ splice ∈ splices, start ≤ splice.position)
    (bounds : ∀ splice ∈ splices, splice.position ≤ line.length)
    (unmoved : ∀ place, start ≤ place → place < line.length →
      splicedAfter splices place ≠ start + point) :
    valueAt (opened start splices line) point = 0 := by
  induction splices generalizing start point with
  | nil =>
      rw [opened, valueAt_drop]
      by_cases inside : start + point < line.length
      · exact absurd (Nat.add_zero _) (unmoved (start + point) (Nat.le_add_right _ _) inside)
      · exact valueAt_of_le (Nat.le_of_not_gt inside)
  | cons splice rest ih =>
      have here := behind splice List.mem_cons_self
      have bound := bounds splice List.mem_cons_self
      have later := (List.pairwise_cons.mp ordered).1
      have piece : ((line.drop start).take (splice.position - start)).length =
          splice.position - start := by
        rw [List.length_take_of_le]
        rw [List.length_drop]
        omega
      rw [opened, valueAt_append, piece]
      by_cases front : point < splice.position - start
      · have stays : splicedAfter (splice :: rest) (start + point) = start + point := by
          refine splicedAfter_of_lt fun other member => ?_
          rcases List.mem_cons.mp member with rfl | inRest
          · omega
          · have far := later other inRest
            omega
        exact absurd stays (unmoved (start + point) (Nat.le_add_right _ _) (by omega))
      · rw [if_neg front, valueAt_append, List.length_replicate]
        by_cases gap : point - (splice.position - start) < splice.length
        · rw [if_pos gap, valueAt_replicate]
        · rw [if_neg gap]
          refine ih (List.pairwise_cons.mp ordered).2 later
            (fun other member => bounds other (List.mem_cons_of_mem _ member)) ?_
          intro place further inside same
          refine unmoved place (by omega) inside ?_
          rw [splicedAfter_cons_of_le further, same]
          omega

/-- The place that splicing moves to a point, if there is one. -/
def sourceOf (splices : List Splice) (sources point : Nat) : Option Nat :=
  (List.range sources).find? fun place => splicedAfter splices place == point

/-- **An opened line** has at each point the value that was moved there, or silence. -/
theorem valueAt_opened {splices : List Splice} {line : List M} (ordered : Ordered splices)
    (bounds : ∀ splice ∈ splices, splice.position ≤ line.length) (point : Nat) :
    valueAt (opened 0 splices line) point =
      ((sourceOf splices line.length point).map (valueAt line)).getD 0 := by
  have behind : ∀ splice ∈ splices, 0 ≤ splice.position := fun _ _ => Nat.zero_le _
  cases held : sourceOf splices line.length point with
  | none =>
      refine valueAt_opened_silent ordered behind bounds fun place _ inside same => ?_
      have missed := List.find?_eq_none.mp held place (List.mem_range.mpr inside)
      rw [same, Nat.zero_add] at missed
      exact missed (beq_self_eq_true point)
  | some place =>
      have moved : splicedAfter splices place = point := by
        simpa using List.find?_some held
      have image := valueAt_opened_image ordered behind bounds (Nat.zero_le place)
      rwa [moved, Nat.sub_zero] at image

/-- A cut further on. -/
def Splice.delay (distance : Nat) (splice : Splice) : Splice :=
  ⟨splice.position + distance, splice.length⟩

/-- Cuts in the second of two lines. -/
theorem opened_delay (first second : List M) (start : Nat) (splices : List Splice) :
    opened (start + first.length) (splices.map (Splice.delay first.length)) (first ++ second) =
      opened start splices second := by
  induction splices generalizing start with
  | nil =>
      rw [List.map_nil, opened, opened, List.drop_append, List.drop_eq_nil_of_le (by omega),
        List.nil_append]
      congr 1
      omega
  | cons splice rest ih =>
      rw [List.map_cons, opened, opened, List.drop_append, List.drop_eq_nil_of_le (by omega),
        List.nil_append]
      have from_start : start + first.length - first.length = start := by omega
      have piece : splice.position + first.length - (start + first.length) =
          splice.position - start := by
        omega
      show (second.drop _).take (splice.position + first.length - _) ++
        (_ ++ opened (splice.position + first.length) _ _) = _
      rw [from_start, piece, ih]
      rfl

/-- **Two lines, each opened at its cuts,** are their join opened at all of them. -/
theorem opened_append {first : List M} (second : List M) {start : Nat} {splices : List Splice}
    (ordered : Ordered splices) (behind : ∀ splice ∈ splices, start ≤ splice.position)
    (bounds : ∀ splice ∈ splices, splice.position ≤ first.length) (inside : start ≤ first.length)
    (others : List Splice) :
    opened start (splices ++ others.map (Splice.delay first.length)) (first ++ second) =
      opened start splices first ++ opened 0 others second := by
  induction splices generalizing start with
  | nil =>
      rw [List.nil_append]
      cases others with
      | nil =>
          rw [List.map_nil, opened, opened, opened, List.drop_append_of_le_length inside,
            List.drop_zero]
      | cons splice rest =>
          have piece : splice.position + first.length - start - (first.length - start) =
              splice.position := by
            omega
          rw [List.map_cons, opened, opened, opened, List.drop_append_of_le_length inside]
          show ((first.drop start ++ second).take (splice.position + first.length - start)) ++
            (_ ++ opened (splice.position + first.length) _ _) = _
          rw [List.take_append, List.take_of_length_le (by rw [List.length_drop]; omega),
            List.length_drop, piece, opened_delay, List.append_assoc, List.drop_zero,
            Nat.sub_zero]
          rfl
  | cons splice rest ih =>
      have here := behind splice List.mem_cons_self
      have bound := bounds splice List.mem_cons_self
      rw [List.cons_append, opened, opened,
        ih (List.pairwise_cons.mp ordered).2 (List.pairwise_cons.mp ordered).1
          (fun other member => bounds other (List.mem_cons_of_mem _ member)) bound,
        List.drop_append_of_le_length inside, List.take_append_of_le_length
          (by rw [List.length_drop]; omega)]
      simp only [List.append_assoc]

/-- Lines of one length with the same value at every place are the same. -/
theorem eq_of_valueAt {first second : List M} (same : first.length = second.length)
    (values : ∀ place, valueAt first place = valueAt second place) : first = second := by
  refine List.ext_getElem same fun place inFirst inSecond => ?_
  have value := values place
  unfold valueAt at value
  rwa [List.getD_eq_getElem _ _ inFirst, List.getD_eq_getElem _ _ inSecond] at value

end Omnivox.Foundations
