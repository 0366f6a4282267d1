import Mathlib.Data.List.Induction
import Toolpath.Proofs.Geometry.Distance
import Toolpath.Proofs.Proximity.Tour

/-!
# The proximity tour is the greedy nearest-neighbour tour

The scan for the nearest candidate keeps its best candidate unless that one is farther than the
next, so among distances that can be compared it ends on the first of the least ones. Between
points with finite coordinates every distance is a non-negative number, and those compare as a
total preorder, so the tour from a finite origin over primitives whose starting points are finite
is the greedy one: the first of the pending primitives whose starting point is nearest goes first,
and the tour goes on from that starting point over the others, in their input order. Ties
therefore keep the input order.

Main statements:
* `Proximity.nearestIndex_eq_some_iff`: among non-negative distances the scan picks the first
  least one;
* `Proximity.isGreedyTour_iff`: the tour is the greedy tour, and the only one;
* `orderByProximity_is_greedy_tour`: ordering by proximity is the greedy tour over the placed
  primitives, followed by the unplaced ones.
-/

namespace Toolpath

namespace Proximity

/-! ## The first least distance -/

/-- `index` is the position of the first least value among `distances`: its value is at most
every value, and every value before it is above some value. -/
def IsFirstLeast (distances : List Float) (index : Nat) : Prop :=
  ∃ bound : index < distances.length,
    (∀ distance ∈ distances, distances[index] ≤ distance) ∧
      ∀ earlier ∈ distances.take index, ∃ distance ∈ distances, ¬ earlier ≤ distance

instance (distances : List Float) (index : Nat) : Decidable (IsFirstLeast distances index) :=
  if bound : index < distances.length then
    decidable_of_iff
      ((∀ distance ∈ distances, distances[index] ≤ distance) ∧
        ∀ earlier ∈ distances.take index, ∃ distance ∈ distances, ¬ earlier ≤ distance)
      ⟨fun least => ⟨bound, least⟩, fun ⟨_, least⟩ => least⟩
  else isFalse fun ⟨inside, _⟩ => bound inside

/-- There is one first least value. -/
theorem IsFirstLeast.unique {distances : List Float} {index other : Nat}
    (first : IsFirstLeast distances index) (second : IsFirstLeast distances other) :
    index = other := by
  -- a least value before the first least one would be above some value
  have before : ∀ {index other}, IsFirstLeast distances index → IsFirstLeast distances other →
      ¬ index < other := by
    rintro index other ⟨bound, least, -⟩ ⟨-, -, earliest⟩ below
    have member : distances[index] ∈ distances.take other :=
      List.mem_iff_getElem.2 ⟨index, by simp; omega, by simp⟩
    obtain ⟨distance, inList, above⟩ := earliest _ member
    exact above (least distance inList)
  have notBelow := before first second
  have notAbove := before second first
  omega

section Scan

variable {seen : List Float} {index : Nat} {distance : Float}

/-- A new value at least the first least one leaves it first and least. -/
theorem IsFirstLeast.append_of_le (bound : index < seen.length) (first : IsFirstLeast seen index)
    (above : seen[index] ≤ distance) :
    IsFirstLeast (seen ++ [distance]) index := by
  obtain ⟨_, least, earliest⟩ := first
  refine ⟨by simp; omega, ?_, ?_⟩
  · intro other member
    rw [List.getElem_append_left bound]
    rcases List.mem_append.1 member with inSeen | isNew
    · exact least other inSeen
    · rw [List.mem_singleton.1 isNew]
      exact above
  · intro earlier member
    rw [List.take_append_of_le_length bound.le] at member
    obtain ⟨other, inSeen, notBelow⟩ := earliest earlier member
    exact ⟨other, List.mem_append_left _ inSeen, notBelow⟩

/-- A new value below the first least one of non-negative values is the first least one. -/
theorem IsFirstLeast.append_of_not_le
    (nonneg : ∀ value ∈ seen ++ [distance], IsNonnegative value)
    (bound : index < seen.length) (first : IsFirstLeast seen index)
    (below : ¬ seen[index] ≤ distance) :
    IsFirstLeast (seen ++ [distance]) seen.length := by
  obtain ⟨_, least, -⟩ := first
  have nonnegNew : IsNonnegative distance := nonneg distance (by simp)
  have nonnegSeen : ∀ value ∈ seen, IsNonnegative value := fun value member =>
    nonneg value (List.mem_append_left _ member)
  have nonnegLeast := nonnegSeen _ (List.getElem_mem bound)
  -- the comparison is total on non-negative values, so the new value is below the least one
  have newBelow : distance ≤ seen[index] :=
    (le_total_of_isNonnegative nonnegLeast nonnegNew).resolve_left below
  refine ⟨by simp, ?_, ?_⟩
  · intro other member
    rw [List.getElem_concat_length rfl]
    rcases List.mem_append.1 member with inSeen | isNew
    · exact le_trans_of_isNonnegative nonnegNew nonnegLeast (nonnegSeen other inSeen) newBelow
        (least other inSeen)
    · rw [List.mem_singleton.1 isNew]
      exact le_refl_of_isNonnegative nonnegNew
  · intro earlier member
    rw [List.take_left' rfl] at member
    refine ⟨distance, by simp, fun earlierBelow => below ?_⟩
    exact le_trans_of_isNonnegative nonnegLeast (nonnegSeen earlier member) nonnegNew
      (least earlier member) earlierBelow

end Scan

/-- Over non-negative distances the scan holds the first least value seen so far, with its
position. -/
theorem scan_isFirstLeast {distances : List Float}
    (nonneg : ∀ distance ∈ distances, IsNonnegative distance) (nonempty : distances ≠ []) :
    ∃ index, ∃ bound : index < distances.length,
      distances.zipIdx.foldl (fun best entry => keepNearer best (entry.2, entry.1)) none =
          some (index, distances[index]) ∧
        IsFirstLeast distances index := by
  induction distances using List.reverseRecOn with
  | nil => exact absurd rfl nonempty
  | append_singleton seen distance induction =>
      rw [List.zipIdx_append, List.foldl_append]
      by_cases empty : seen = []
      · subst empty
        have least := le_refl_of_isNonnegative (nonneg distance (by simp))
        exact ⟨0, by simp, rfl, by simp, by simpa using least, by simp⟩
      · obtain ⟨index, bound, scanned, first⟩ :=
          induction (fun value member => nonneg value (List.mem_append_left _ member)) empty
        rw [scanned]
        simp only [List.zipIdx_cons, List.zipIdx_nil, List.foldl_cons, List.foldl_nil, keepNearer,
          Nat.zero_add]
        split
        · next above =>
            exact ⟨index, by simp; omega, by simp [List.getElem_append_left bound],
              first.append_of_le bound above⟩
        · next below =>
            exact ⟨seen.length, by simp, by simp, first.append_of_not_le nonneg bound below⟩

/-- Among non-negative distances, the scan picks exactly the first least one. -/
theorem nearestIndex_eq_some_iff {distances : List Float}
    (nonneg : ∀ distance ∈ distances, IsNonnegative distance) {index : Nat} :
    nearestIndex distances = some index ↔ IsFirstLeast distances index := by
  constructor
  · intro found
    have nonempty : distances ≠ [] := by
      rintro rfl
      cases found
    obtain ⟨picked, bound, scanned, first⟩ := scan_isFirstLeast nonneg nonempty
    simp only [nearestIndex, scanned, Option.map_some, Option.some.injEq] at found
    exact found ▸ first
  · intro first
    have nonempty : distances ≠ [] := List.ne_nil_of_length_pos (Nat.zero_lt_of_lt first.1)
    obtain ⟨picked, bound, scanned, pickedFirst⟩ := scan_isFirstLeast nonneg nonempty
    rw [nearestIndex, scanned]
    exact congrArg some (pickedFirst.unique first)

-- Of two equal least distances the scan keeps the first.
example : nearestIndex [2, 1, 1] = some 1 ∧ IsFirstLeast [2, 1, 1] 1 := by decide +kernel

/-! ## The greedy tour -/

/-- The greedy nearest-neighbour tour from a point over pending primitives, each with its
starting point: the first of the entries whose starting point is nearest goes first, and the tour
goes on from that starting point over the other entries, kept in their order. Between primitives
with starting points, `Primitive.distanceTo` is the distance between those points
(`Primitive.distanceTo_of_startingPoint`). -/
inductive IsGreedyTour : Point → List (Primitive × Point) → List Primitive → Prop
  | done (current : Point) : IsGreedyTour current [] []
  | visit {current : Point} {pending : List (Primitive × Point)} (index : Nat)
      {rest : List Primitive} (bound : index < pending.length)
      (nearest : IsFirstLeast (pending.map fun entry => current.distanceTo entry.2) index)
      (onward : IsGreedyTour pending[index].2 (pending.eraseIdx index) rest) :
      IsGreedyTour current pending (pending[index].1 :: rest)

section Finite

variable {current : Point} {pending : List (Primitive × Point)}

/-- From a finite point to finite points every distance is non-negative. -/
theorem isNonnegative_distances (finiteCurrent : current.isFinite = true)
    (finitePending : ∀ entry ∈ pending, entry.2.isFinite = true) :
    ∀ distance ∈ pending.map (fun entry => current.distanceTo entry.2), IsNonnegative distance := by
  intro distance member
  obtain ⟨entry, inPending, rfl⟩ := List.mem_map.1 member
  exact isNonnegative_distanceTo finiteCurrent (finitePending entry inPending)

/-- Over finite points the tour is greedy. -/
theorem isGreedyTour_tour (finiteCurrent : current.isFinite = true)
    (finitePending : ∀ entry ∈ pending, entry.2.isFinite = true) :
    IsGreedyTour current pending (tour current pending) := by
  fun_induction tour current pending with
  | case1 current pending found =>
      have empty : pending = [] := by simpa using (nearestIndex_eq_none_iff _).1 found
      subst empty
      exact .done current
  | case2 current pending index found bound chosen induction =>
      -- the next round starts from the chosen starting point, over the entries left
      have nearest := (nearestIndex_eq_some_iff
        (isNonnegative_distances finiteCurrent finitePending)).1 found
      exact .visit index bound nearest (induction (finitePending _ (List.getElem_mem bound))
        fun entry member => finitePending entry (List.mem_of_mem_eraseIdx member))

/-- Over finite points a greedy tour is the tour. -/
theorem eq_tour_of_isGreedyTour {order : List Primitive}
    (greedy : IsGreedyTour current pending order) (finiteCurrent : current.isFinite = true)
    (finitePending : ∀ entry ∈ pending, entry.2.isFinite = true) :
    order = tour current pending := by
  induction greedy with
  | done current => exact (List.eq_nil_of_length_eq_zero (length_tour current [])).symm
  | visit index bound nearest onward induction =>
      have found := (nearestIndex_eq_some_iff
        (isNonnegative_distances finiteCurrent finitePending)).2 nearest
      rw [tour_of_nearestIndex found bound, induction (finitePending _ (List.getElem_mem bound))
        fun entry member => finitePending entry (List.mem_of_mem_eraseIdx member)]

/-- Over finite points the tour is the one greedy tour. -/
theorem isGreedyTour_iff (finiteCurrent : current.isFinite = true)
    (finitePending : ∀ entry ∈ pending, entry.2.isFinite = true) (order : List Primitive) :
    IsGreedyTour current pending order ↔ order = tour current pending :=
  ⟨fun greedy => eq_tour_of_isGreedyTour greedy finiteCurrent finitePending,
    fun isTour => isTour ▸ isGreedyTour_tour finiteCurrent finitePending⟩

end Finite

end Proximity

/-- Between two primitives with starting points, the distance is the one between those points. -/
theorem Primitive.distanceTo_of_startingPoint {primitive other : Primitive} {start otherStart : Point}
    (placed : primitive.startingPoint = .ok start)
    (otherPlaced : other.startingPoint = .ok otherStart) :
    primitive.distanceTo other = .ok (start.distanceTo otherStart) := by
  simp [Primitive.distanceTo, Primitive.measurableStart, placed, otherPlaced, bind, Except.bind,
    pure, Except.pure]

/--
Proximity ordering is the stable greedy nearest-neighbour tour. From an origin with finite
coordinates, over primitives whose starting points are finite, ordering by proximity gives a list
of placed primitives followed by the unplaced ones in input order, and the placed part is exactly
the greedy tour: the first placed primitive whose starting point is nearest to the origin, then
again and again the first of those not yet chosen whose starting point is nearest to the starting
point of the one chosen last. Ties keep the input order.
-/
theorem orderByProximity_is_greedy_tour (origin : Point) (primitives : List Primitive)
    (finiteOrigin : origin.isFinite = true)
    (finiteStarts : ∀ primitive ∈ primitives, ∀ start,
      primitive.startingPoint = .ok start → start.isFinite = true)
    (placedOrder : List Primitive) :
    orderByProximity primitives origin =
        placedOrder ++ primitives.filter (fun primitive => !primitive.isPlaced) ↔
      Proximity.IsGreedyTour origin (primitives.filterMap Primitive.placedEntry?) placedOrder := by
  have finiteEntries : ∀ entry ∈ primitives.filterMap Primitive.placedEntry?,
      entry.2.isFinite = true := by
    intro entry member
    obtain ⟨primitive, inPrimitives, entered⟩ := List.mem_filterMap.1 member
    exact finiteStarts primitive inPrimitives _ (Primitive.placedEntry?_eq_some_iff.1 entered).2
  rw [orderByProximity_eq_tour, List.append_left_inj,
    Proximity.isGreedyTour_iff finiteOrigin finiteEntries, eq_comm]

/-- Two lines starting equally near the origin keep their input order. -/
theorem equally_near_lines_keep_their_order :
    Point.origin.isFinite = true ∧
      (∀ primitive ∈ [Primitive.line ⟨⟨1, 0⟩, ⟨1, 1⟩⟩, .line ⟨⟨-1, 0⟩, ⟨-1, 1⟩⟩], ∀ start,
        primitive.startingPoint = .ok start → start.isFinite = true) ∧
      orderByProximity [.line ⟨⟨1, 0⟩, ⟨1, 1⟩⟩, .line ⟨⟨-1, 0⟩, ⟨-1, 1⟩⟩] Point.origin =
        [.line ⟨⟨1, 0⟩, ⟨1, 1⟩⟩, .line ⟨⟨-1, 0⟩, ⟨-1, 1⟩⟩] ++
          [Primitive.line ⟨⟨1, 0⟩, ⟨1, 1⟩⟩, .line ⟨⟨-1, 0⟩, ⟨-1, 1⟩⟩].filter
            (fun primitive => !primitive.isPlaced) := by
  have finiteOrigin : Point.origin.isFinite = true := by decide
  have finiteStarts : ∀ primitive ∈ [Primitive.line ⟨⟨1, 0⟩, ⟨1, 1⟩⟩, .line ⟨⟨-1, 0⟩, ⟨-1, 1⟩⟩],
      ∀ start, primitive.startingPoint = .ok start → start.isFinite = true := by
    simp only [List.mem_cons, List.not_mem_nil, or_false]
    rintro primitive (rfl | rfl) start placed <;> cases placed <;> decide
  refine ⟨finiteOrigin, finiteStarts,
    (orderByProximity_is_greedy_tour _ _ finiteOrigin finiteStarts _).2 ?_⟩
  exact .visit 0 (by decide) (by decide +kernel) (.visit 0 (by decide) (by decide +kernel) (.done _))

end Toolpath
