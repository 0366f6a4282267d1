import Toolpath.Proofs.Proximity.Symmetry

/-!
# Candidates at a distance that is not a number

A line may start at a point with a coordinate that is not a number, and its distance from any
point is then not a number either. No comparison holds with such a distance, so the scan for the
nearest candidate, which keeps its best one only while the best distance is at most the
candidate's, always replaces its best by a candidate at such a distance, and replaces such a best
by the next candidate whatever its distance. What the scan saw before the last candidate at a
distance that is not a number is forgotten.

The scan therefore picks the first least of the candidates after the last one at a distance that
is not a number, or that last one itself when no candidate follows it. Every distance is a
non-negative number or not a number, and the non-negative ones compare as a total preorder, so
this is the first least in the sense of the greedy tour, over that last stretch of candidates.
A candidate at such a distance can be picked before one at a number: from the origin, a line
starting at `(NaN, 0)` listed after one starting at `(1, 0)` is cut first.

Main statements:
* `Proximity.nearestIndex_eq_some_iff_isScanPick`: among distances that are non-negative or not
  a number, the scan picks exactly the first least one after the last that is not a number, or
  that last one when nothing follows it;
* `orderByProximity_picks_nearest_after_unmeasured`: every round of the tour, from the origin
  and from each primitive cut, picks that candidate;
* `unmeasured_line_is_cut_before_a_near_one`: the scan prefers a line at a distance that is not a
  number to one at distance one.
-/

namespace Toolpath

open Float.Model (UnpackedFloat)

/-! ## Comparisons with a value that is not a number -/

section Comparison

variable {first second : Float}

/-- Nothing is at most a value that is not a number. -/
theorem Float.not_le_of_isNaN (missing : second.isNaN = true) : ¬ first ≤ second := by
  rw [Float.le_iff_unpack_le, (Float.isNaN_iff second).1 missing]
  cases first.toModel.unpack <;> simp [UnpackedFloat.le, UnpackedFloat.compare]

/-- A value that is at most something is a number. -/
theorem Float.isNaN_eq_false_of_le (below : first ≤ second) : first.isNaN = false := by
  cases missing : first.isNaN
  · rfl
  · rw [Float.le_iff_unpack_le, (Float.isNaN_iff first).1 missing] at below
    simp [UnpackedFloat.le, UnpackedFloat.compare] at below

/-- A value that is a non-negative number or not a number, and is a number, is non-negative. -/
theorem isNonnegative_of_isNaN_eq_false {value : Float}
    (measured : IsNonnegative value ∨ value.isNaN = true) (number : value.isNaN = false) :
    IsNonnegative value :=
  measured.resolve_right (Bool.eq_false_iff.1 number)

end Comparison

namespace Proximity

/-! ## The stretch of distances after the last one that is not a number -/

/-- The distances after the last one that is not a number: the longest end of the list in which
every distance is a number. -/
def measuredRun (distances : List Float) : List Float :=
  (distances.reverse.takeWhile fun distance => !distance.isNaN).reverse

@[simp]
theorem measuredRun_nil : measuredRun [] = [] := rfl

/-- A distance that is not a number ends every stretch before it. -/
theorem measuredRun_append_of_isNaN (distances : List Float) {distance : Float}
    (missing : distance.isNaN = true) : measuredRun (distances ++ [distance]) = [] := by
  rw [measuredRun, List.reverse_append, List.reverse_singleton, List.singleton_append,
    List.takeWhile_cons_of_neg (by simp only [missing, Bool.not_true, Bool.false_eq_true,
      not_false_eq_true]), List.reverse_nil]

/-- A distance that is a number extends the stretch before it. -/
theorem measuredRun_append_of_not_isNaN (distances : List Float) {distance : Float}
    (measured : distance.isNaN = false) :
    measuredRun (distances ++ [distance]) = measuredRun distances ++ [distance] := by
  rw [measuredRun, measuredRun, List.reverse_append, List.reverse_singleton, List.singleton_append,
    List.takeWhile_cons_of_pos (by simp only [measured, Bool.not_false]), List.reverse_cons]

theorem isNaN_eq_false_of_mem_measuredRun {distances : List Float} {distance : Float}
    (member : distance ∈ measuredRun distances) : distance.isNaN = false := by
  rw [measuredRun, List.mem_reverse] at member
  simpa using List.all_eq_true.1 List.all_takeWhile distance member

/-- The stretch is the end of the distances. -/
theorem measuredRun_suffix (distances : List Float) : measuredRun distances <:+ distances := by
  rw [measuredRun, ← List.reverse_prefix, List.reverse_reverse]
  exact List.takeWhile_prefix _

/-- When the stretch is empty, the last distance is not a number. -/
theorem isNaN_of_measuredRun_eq_nil {distances : List Float} {index : Nat}
    (bound : index < distances.length) (last : index + 1 = distances.length)
    (empty : measuredRun distances = []) : distances[index].isNaN = true := by
  rcases List.eq_nil_or_concat distances with rfl | ⟨front, final, rfl⟩
  · simp at bound
  · have atEnd : index = front.length := by simp at last; omega
    subst atEnd
    simp only [List.concat_eq_append, List.getElem_concat_length] at empty ⊢
    cases measured : final.isNaN
    · simp [measuredRun_append_of_not_isNaN front measured] at empty
    · rfl

/-- The stretch sits at the end of the distances. -/
theorem getElem?_measuredRun (distances : List Float) (position : Nat) :
    distances[distances.length - (measuredRun distances).length + position]? =
      (measuredRun distances)[position]? := by
  obtain ⟨front, split⟩ := measuredRun_suffix distances
  generalize measuredRun distances = run at split ⊢
  subst split
  rw [List.getElem?_append_right (by simp)]
  congr 1
  simp

theorem getElem_measuredRun {distances : List Float} {index position : Nat}
    (at_ : index = distances.length - (measuredRun distances).length + position)
    (bound : index < distances.length) (inRun : position < (measuredRun distances).length) :
    distances[index] = (measuredRun distances)[position] := by
  have same := getElem?_measuredRun distances position
  rw [← at_, List.getElem?_eq_getElem bound, List.getElem?_eq_getElem inRun] at same
  exact Option.some.inj same

/-! ## What the scan picks -/

/-- `index` is the candidate the scan picks among `distances`: the first least of the distances
after the last one that is not a number, or, when that one is the last distance, that one. -/
def IsScanPick (distances : List Float) (index : Nat) : Prop :=
  (measuredRun distances = [] ∧ index + 1 = distances.length) ∨
    ∃ position, index = distances.length - (measuredRun distances).length + position ∧
      IsFirstLeast (measuredRun distances) position

/-- There is one pick. -/
theorem IsScanPick.unique {distances : List Float} {index other : Nat}
    (first : IsScanPick distances index) (second : IsScanPick distances other) :
    index = other := by
  rcases first with ⟨empty, last⟩ | ⟨position, rfl, least⟩
  · rcases second with ⟨-, otherLast⟩ | ⟨otherPosition, -, ⟨bound, -⟩⟩
    · omega
    · simp [empty] at bound
  · rcases second with ⟨empty, -⟩ | ⟨otherPosition, rfl, otherLeast⟩
    · obtain ⟨bound, -⟩ := least
      simp [empty] at bound
    · rw [least.unique otherLeast]

/-- A candidate at a distance that is not a number replaces whatever the scan held. -/
theorem keepNearer_of_isNaN (best : Option (Nat × Float)) (index : Nat) {distance : Float}
    (missing : distance.isNaN = true) :
    keepNearer best (index, distance) = some (index, distance) := by
  cases best with
  | none => rfl
  | some held =>
      simp only [keepNearer]
      rw [if_neg (Float.not_le_of_isNaN missing)]

/-- A single distance that is a number is its own first least. -/
theorem isFirstLeast_singleton {distance : Float} (nonneg : IsNonnegative distance) :
    IsFirstLeast [distance] 0 :=
  ⟨by simp, by simpa using le_refl_of_isNonnegative nonneg, by simp⟩

section Step

variable {seen : List Float} {distance : Float}

/-- A new distance that is not a number is the pick. -/
theorem isScanPick_append_of_isNaN (missing : distance.isNaN = true) :
    IsScanPick (seen ++ [distance]) seen.length :=
  .inl ⟨measuredRun_append_of_isNaN seen missing, by simp⟩

/-- A new distance that is a number, after no distance that is, is the pick. -/
theorem isScanPick_append_of_measuredRun_eq_nil (empty : measuredRun seen = [])
    (nonneg : IsNonnegative distance) (number : distance.isNaN = false) :
    IsScanPick (seen ++ [distance]) seen.length := by
  have run : measuredRun (seen ++ [distance]) = [distance] := by
    rw [measuredRun_append_of_not_isNaN seen number, empty, List.nil_append]
  refine .inr ⟨0, by simp [run], ?_⟩
  rw [run]
  exact isFirstLeast_singleton nonneg

/-- The pick among the distances so far, in the stretch and at most the new distance, stays the
pick. -/
theorem isScanPick_append_of_le {index position : Nat} (bound : index < seen.length)
    (at_ : index = seen.length - (measuredRun seen).length + position)
    (least : IsFirstLeast (measuredRun seen) position) (number : distance.isNaN = false)
    (above : seen[index] ≤ distance) :
    IsScanPick (seen ++ [distance]) index := by
  have run := measuredRun_append_of_not_isNaN seen number
  have runLength := (measuredRun_suffix seen).length_le
  have held := getElem_measuredRun at_ bound least.1
  refine .inr ⟨position, by simp [run]; omega, ?_⟩
  rw [run]
  exact least.append_of_le least.1 (held ▸ above)

/-- A new distance that is a number and below the pick in the stretch is the pick. -/
theorem isScanPick_append_of_not_le {index position : Nat} (bound : index < seen.length)
    (at_ : index = seen.length - (measuredRun seen).length + position)
    (least : IsFirstLeast (measuredRun seen) position)
    (measured : ∀ value ∈ seen, IsNonnegative value ∨ value.isNaN = true)
    (nonneg : IsNonnegative distance) (number : distance.isNaN = false)
    (below : ¬ seen[index] ≤ distance) :
    IsScanPick (seen ++ [distance]) seen.length := by
  have run := measuredRun_append_of_not_isNaN seen number
  have runLength := (measuredRun_suffix seen).length_le
  have held := getElem_measuredRun at_ bound least.1
  -- the stretch holds numbers only, so with the new distance all are non-negative
  have nonnegRun : ∀ value ∈ measuredRun seen ++ [distance], IsNonnegative value := by
    intro value member
    rcases List.mem_append.1 member with inSeen | isNew
    · exact isNonnegative_of_isNaN_eq_false
        (measured value ((measuredRun_suffix seen).subset inSeen))
        (isNaN_eq_false_of_mem_measuredRun inSeen)
    · rw [List.mem_singleton.1 isNew]
      exact nonneg
  refine .inr ⟨(measuredRun seen).length, by simp [run]; omega, ?_⟩
  rw [run]
  exact least.append_of_not_le nonnegRun least.1 (held ▸ below)

/-- One step of the scan: from the pick among the distances so far, the scan holds the pick
among them and the new distance. -/
theorem IsScanPick.keepNearer {index : Nat} (bound : index < seen.length)
    (pick : IsScanPick seen index)
    (measured : ∀ value ∈ seen ++ [distance], IsNonnegative value ∨ value.isNaN = true) :
    ∃ next, ∃ nextBound : next < (seen ++ [distance]).length,
      keepNearer (some (index, seen[index])) (seen.length, distance) =
          some (next, (seen ++ [distance])[next]) ∧ IsScanPick (seen ++ [distance]) next := by
  have measuredSeen : ∀ value ∈ seen, IsNonnegative value ∨ value.isNaN = true :=
    fun value member => measured value (List.mem_append_left _ member)
  cases missing : distance.isNaN with
  | true =>
      rw [keepNearer_of_isNaN _ _ missing]
      exact ⟨seen.length, by simp, by simp, isScanPick_append_of_isNaN missing⟩
  | false =>
      have nonneg := isNonnegative_of_isNaN_eq_false (measured distance (by simp)) missing
      simp only [Proximity.keepNearer]
      rcases pick with ⟨emptyRun, last⟩ | ⟨position, at_, least⟩
      · -- the pick so far is not a number, so the new distance replaces it
        have notBelow : ¬ seen[index] ≤ distance := fun below => by
          have number := Float.isNaN_eq_false_of_le below
          rw [isNaN_of_measuredRun_eq_nil bound last emptyRun] at number
          cases number
        rw [if_neg notBelow]
        exact ⟨seen.length, by simp, by simp,
          isScanPick_append_of_measuredRun_eq_nil emptyRun nonneg missing⟩
      · split
        · next above =>
            exact ⟨index, by simp; omega, by simp [List.getElem_append_left bound],
              isScanPick_append_of_le bound at_ least missing above⟩
        · next below =>
            exact ⟨seen.length, by simp, by simp,
              isScanPick_append_of_not_le bound at_ least measuredSeen nonneg missing below⟩

end Step

/-- Over distances that are non-negative or not a number, the scan holds the candidate it picks
so far, with its distance. -/
theorem scan_isScanPick {distances : List Float}
    (measured : ∀ distance ∈ distances, IsNonnegative distance ∨ distance.isNaN = true)
    (nonempty : distances ≠ []) :
    ∃ index, ∃ bound : index < distances.length,
      distances.zipIdx.foldl (fun best entry => keepNearer best (entry.2, entry.1)) none =
          some (index, distances[index]) ∧ IsScanPick distances index := by
  induction distances using List.reverseRecOn with
  | nil => exact absurd rfl nonempty
  | append_singleton seen distance induction =>
      rw [List.zipIdx_append, List.foldl_append]
      simp only [List.zipIdx_cons, List.zipIdx_nil, List.foldl_cons, List.foldl_nil, Nat.zero_add]
      by_cases empty : seen = []
      · -- the first distance is the first pick, a number or not
        subst empty
        refine ⟨0, by simp, rfl, ?_⟩
        cases missing : distance.isNaN with
        | true => exact isScanPick_append_of_isNaN missing
        | false =>
            exact isScanPick_append_of_measuredRun_eq_nil measuredRun_nil
              (isNonnegative_of_isNaN_eq_false (measured distance (by simp)) missing) missing
      · obtain ⟨index, bound, scanned, pick⟩ :=
          induction (fun value member => measured value (List.mem_append_left _ member)) empty
        rw [scanned]
        exact pick.keepNearer bound measured

/-- Among distances that are non-negative or not a number, the scan picks exactly the first least
one after the last that is not a number, or that last one when nothing follows it. -/
theorem nearestIndex_eq_some_iff_isScanPick {distances : List Float}
    (measured : ∀ distance ∈ distances, IsNonnegative distance ∨ distance.isNaN = true)
    {index : Nat} : nearestIndex distances = some index ↔ IsScanPick distances index := by
  constructor
  · intro found
    have nonempty : distances ≠ [] := by
      rintro rfl
      cases found
    obtain ⟨picked, bound, scanned, pick⟩ := scan_isScanPick measured nonempty
    simp only [nearestIndex, scanned, Option.map_some, Option.some.injEq] at found
    exact found ▸ pick
  · intro pick
    have nonempty : distances ≠ [] := by
      rintro rfl
      rcases pick with ⟨-, last⟩ | ⟨position, -, bound, -⟩
      · simp at last
      · simp at bound
    obtain ⟨picked, bound, scanned, pickedPick⟩ := scan_isScanPick measured nonempty
    rw [nearestIndex, scanned]
    exact congrArg some (pickedPick.unique pick)

/-- Every distance from a point is a non-negative number or not a number. -/
theorem measured_distances (current : Point) (pending : List (Primitive × Point)) :
    ∀ distance ∈ pending.map (fun entry => current.distanceTo entry.2),
      IsNonnegative distance ∨ distance.isNaN = true := by
  intro distance member
  obtain ⟨entry, -, rfl⟩ := List.mem_map.1 member
  exact Point.isNonnegative_or_isNaN_distanceTo current entry.2

/-- Each round of the tour takes the candidate the scan picks. -/
theorem tour_of_ne_nil_isScanPick (current : Point) {pending : List (Primitive × Point)}
    (nonempty : pending ≠ []) :
    ∃ index, ∃ bound : index < pending.length,
      tour current pending = pending[index].1 :: tour pending[index].2 (pending.eraseIdx index) ∧
        IsScanPick (pending.map fun entry => current.distanceTo entry.2) index := by
  have found : nearestIndex (pending.map fun entry => current.distanceTo entry.2) ≠ none := by
    rw [Ne, nearestIndex_eq_none_iff, List.map_eq_nil_iff]
    exact nonempty
  obtain ⟨index, picked⟩ := Option.ne_none_iff_exists'.1 found
  have bound : index < pending.length := by
    simpa using nearestIndex_lt _ index picked
  exact ⟨index, bound, tour_of_nearestIndex picked bound,
    (nearestIndex_eq_some_iff_isScanPick (measured_distances current pending)).1 picked⟩

end Proximity

/--
Ordering by proximity picks, from the origin and then from the starting point of each primitive
cut, the first of the nearest candidates after the last one at a distance that is not a number,
or that last one itself when no candidate follows it. A candidate at a distance that is not a
number is thus picked when it is the last candidate, even where others are at a distance that is
a number, and the candidates before it are forgotten.
-/
theorem orderByProximity_picks_nearest_after_unmeasured (primitives : List Primitive)
    (origin : Point) :
    orderByProximity primitives origin =
        Proximity.tour origin (primitives.filterMap Primitive.placedEntry?) ++
          primitives.filter (fun primitive => !primitive.isPlaced) ∧
      ∀ (current : Point) (pending : List (Primitive × Point)), pending ≠ [] →
        ∃ index, ∃ bound : index < pending.length,
          Proximity.tour current pending =
              pending[index].1 :: Proximity.tour pending[index].2 (pending.eraseIdx index) ∧
            Proximity.IsScanPick (pending.map fun entry => current.distanceTo entry.2) index :=
  ⟨orderByProximity_eq_tour primitives origin,
    fun current _ nonempty => Proximity.tour_of_ne_nil_isScanPick current nonempty⟩

/-- From the origin, a line starting at `(1, 0)` and a line starting at a point whose first
coordinate is not a number, in that order, are cut with the second line first. -/
theorem unmeasured_line_is_cut_before_a_near_one :
    Point.origin.distanceTo ⟨1, 0⟩ = 1 ∧ (Point.origin.distanceTo ⟨0 / 0, 0⟩).isNaN = true ∧
      orderByProximity [.line ⟨⟨1, 0⟩, ⟨1, 1⟩⟩, .line ⟨⟨0 / 0, 0⟩, ⟨0, 0⟩⟩] Point.origin =
        [.line ⟨⟨0 / 0, 0⟩, ⟨0, 0⟩⟩, .line ⟨⟨1, 0⟩, ⟨1, 1⟩⟩] := by
  refine ⟨by decide +kernel, by decide +kernel, ?_⟩
  rw [orderByProximity_eq_tour]
  show Proximity.tour Point.origin
      [(.line ⟨⟨1, 0⟩, ⟨1, 1⟩⟩, ⟨1, 0⟩), (.line ⟨⟨0 / 0, 0⟩, ⟨0, 0⟩⟩, ⟨0 / 0, 0⟩)] ++ [] = _
  -- the line at a distance that is not a number comes last, so the scan ends on it
  rw [@Proximity.tour_of_nearestIndex _ _ 1 (by decide +kernel) (by decide)]
  rw [@Proximity.tour_of_nearestIndex _ _ 0 (by decide +kernel) (by decide)]
  simp [List.eq_nil_of_length_eq_zero (Proximity.length_tour _ [])]

end Toolpath
