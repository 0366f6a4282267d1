import Toolpath.Proofs.Proximity.Greedy

/-!
# Ordering by proximity twice

Ordering an order by proximity again gives it back. The second run sees the placed primitives in
the order of the greedy tour. Its first candidate is the one the first run chose first, and that
one is nearest, since the first run chose it among all placed primitives; the scan keeps the first
of equally near candidates, so it takes that one again. Each round takes the first candidate, so
the candidates left keep the order of the tour, and the argument repeats from the starting point
of the primitive just chosen.

This holds of any greedy tour, whatever its distances: nothing but comparisons the first run
already made is needed. Finite coordinates are needed only where the greedy tour and the tour the
program runs are the same.

Main statements:
* `Proximity.IsGreedyTour.revisit`: a greedy tour is the greedy tour over its own primitives in
  its own order;
* `orderByProximity_orderByProximity`: ordering an order by proximity again changes nothing,
  from a finite origin over primitives with finite starting points.
-/

namespace Toolpath

namespace Proximity

variable {current : Point} {pending : List (Primitive × Point)} {order : List Primitive}

/-- A greedy tour visits primitives of the pending entries only. -/
theorem IsGreedyTour.subset (greedy : IsGreedyTour current pending order) :
    ∀ primitive ∈ order, primitive ∈ pending.map Prod.fst := by
  induction greedy with
  | done => simp
  | visit index bound nearest onward induction =>
      intro primitive member
      rcases List.mem_cons.1 member with rfl | later
      · exact List.mem_map_of_mem (List.getElem_mem bound)
      · obtain ⟨entry, inRest, rfl⟩ := List.mem_map.1 (induction primitive later)
        exact List.mem_map_of_mem (List.mem_of_mem_eraseIdx inRest)

/-- Entries that pair each primitive with its own starting point. -/
def Entered (pending : List (Primitive × Point)) : Prop :=
  ∀ entry ∈ pending, Primitive.placedEntry? entry.1 = some entry

theorem Entered.eraseIdx (entered : Entered pending) (index : Nat) :
    Entered (pending.eraseIdx index) :=
  fun entry member => entered entry (List.mem_of_mem_eraseIdx member)

/-- The entries of primitives taken from entered entries are among those entries. -/
theorem Entered.mem_of_mem_filterMap (entered : Entered pending)
    (taken : ∀ primitive ∈ order, primitive ∈ pending.map Prod.fst) :
    ∀ entry ∈ order.filterMap Primitive.placedEntry?, entry ∈ pending := by
  intro entry member
  obtain ⟨primitive, inOrder, placed⟩ := List.mem_filterMap.1 member
  obtain ⟨held, inPending, rfl⟩ := List.mem_map.1 (taken primitive inOrder)
  rw [entered held inPending, Option.some.injEq] at placed
  exact placed ▸ inPending

/-- A greedy tour over entered entries is the greedy tour over its own primitives, in its own
order: the first of them was nearest among all pending entries, so it is first and nearest among
the entries it leaves too. -/
theorem IsGreedyTour.revisit (greedy : IsGreedyTour current pending order)
    (entered : Entered pending) :
    IsGreedyTour current (order.filterMap Primitive.placedEntry?) order := by
  induction greedy with
  | done current => exact .done current
  | @visit current pending index rest bound nearest onward induction =>
      have again := induction (entered.eraseIdx index)
      have left : ∀ entry ∈ rest.filterMap Primitive.placedEntry?, entry ∈ pending :=
        fun entry member => List.mem_of_mem_eraseIdx
          ((entered.eraseIdx index).mem_of_mem_filterMap onward.subset entry member)
      rw [List.filterMap_cons_some (entered _ (List.getElem_mem bound))]
      obtain ⟨_, least, -⟩ := nearest
      have chosenLeast : ∀ entry ∈ pending,
          current.distanceTo pending[index].2 ≤ current.distanceTo entry.2 := by
        intro entry member
        simpa using least _ (List.mem_map_of_mem member)
      -- the chosen entry goes first, and is at most as far as every entry it leaves
      refine .visit 0 (by simp) ⟨by simp, ?_, by simp⟩ again
      intro distance member
      obtain ⟨entry, inList, rfl⟩ := List.mem_map.1 member
      rcases List.mem_cons.1 inList with rfl | later
      · simpa using chosenLeast _ (List.getElem_mem bound)
      · simpa using chosenLeast entry (left entry later)

end Proximity

/-- The entries of placed primitives pair each with its starting point. -/
theorem entered_placedEntries (primitives : List Primitive) :
    Proximity.Entered (primitives.filterMap Primitive.placedEntry?) := by
  intro entry member
  obtain ⟨primitive, -, placed⟩ := List.mem_filterMap.1 member
  rw [(Primitive.placedEntry?_eq_some_iff.1 placed).1]
  exact placed

/-- Every primitive of the tour over placed primitives is placed. -/
theorem isPlaced_of_mem_tour {origin : Point} {primitives : List Primitive} {primitive : Primitive}
    (member : primitive ∈ Proximity.tour origin (primitives.filterMap Primitive.placedEntry?)) :
    primitive.isPlaced = true := by
  have visited := (Proximity.tour_perm origin _).subset member
  rw [map_fst_placed] at visited
  exact (List.mem_filter.1 visited).2

/--
Proximity ordering is idempotent. From an origin with finite coordinates, over primitives whose
starting points are finite, ordering the order by proximity again gives the same order.
-/
theorem orderByProximity_orderByProximity (origin : Point) (primitives : List Primitive)
    (finiteOrigin : origin.isFinite = true)
    (finiteStarts : ∀ primitive ∈ primitives, ∀ start,
      primitive.startingPoint = .ok start → start.isFinite = true) :
    orderByProximity (orderByProximity primitives origin) origin =
      orderByProximity primitives origin := by
  have entered := entered_placedEntries primitives
  have finiteEntries : ∀ entry ∈ primitives.filterMap Primitive.placedEntry?,
      entry.2.isFinite = true := by
    intro entry member
    obtain ⟨primitive, inPrimitives, entered⟩ := List.mem_filterMap.1 member
    exact finiteStarts primitive inPrimitives _ (Primitive.placedEntry?_eq_some_iff.1 entered).2
  have greedy := Proximity.isGreedyTour_tour finiteOrigin finiteEntries
  generalize tourOrder : Proximity.tour origin (primitives.filterMap Primitive.placedEntry?) = tour
    at greedy
  -- the entries of the tour, in its order, are among the placed entries, so finite
  have toured : ∀ entry ∈ tour.filterMap Primitive.placedEntry?,
      entry ∈ primitives.filterMap Primitive.placedEntry? :=
    entered.mem_of_mem_filterMap greedy.subset
  have placedTour : ∀ primitive ∈ tour, primitive.isPlaced = true :=
    fun primitive member => isPlaced_of_mem_tour (tourOrder ▸ member)
  have unplacedRest : ∀ primitive ∈ primitives.filter (fun primitive => !primitive.isPlaced),
      primitive.isPlaced = false := by
    intro primitive member
    simpa using (List.mem_filter.1 member).2
  have again : Proximity.tour origin (tour.filterMap Primitive.placedEntry?) = tour :=
    ((Proximity.isGreedyTour_iff finiteOrigin (fun entry member => finiteEntries entry
      (toured entry member)) tour).1 (greedy.revisit entered)).symm
  rw [orderByProximity_eq_tour primitives, tourOrder, orderByProximity_eq_tour,
    List.filterMap_append, List.filter_append,
    List.filterMap_eq_nil_iff.2 fun primitive member =>
      Primitive.placedEntry?_eq_none (unplacedRest primitive member),
    List.filter_eq_nil_iff.2 fun primitive member => by simp [placedTour primitive member],
    List.filter_eq_self.2 fun primitive member => by simp [unplacedRest primitive member],
    List.append_nil, List.nil_append, again]

/-- Three lines, one of them repeated, and an ellipse, ordered twice from the origin. -/
theorem lines_and_an_ellipse_reordered_stay_in_order :
    Point.origin.isFinite = true ∧
      (∀ primitive ∈ [Primitive.line ⟨⟨5, 0⟩, ⟨5, 1⟩⟩, .ellipse ⟨⟨0, 0⟩, ⟨1, 0⟩, 0.5, 0, 1⟩,
          .line ⟨⟨1, 0⟩, ⟨1, 1⟩⟩, .line ⟨⟨5, 0⟩, ⟨5, 1⟩⟩], ∀ start,
        primitive.startingPoint = .ok start → start.isFinite = true) ∧
      orderByProximity (orderByProximity [.line ⟨⟨5, 0⟩, ⟨5, 1⟩⟩,
          .ellipse ⟨⟨0, 0⟩, ⟨1, 0⟩, 0.5, 0, 1⟩, .line ⟨⟨1, 0⟩, ⟨1, 1⟩⟩,
          .line ⟨⟨5, 0⟩, ⟨5, 1⟩⟩] Point.origin) Point.origin =
        orderByProximity [.line ⟨⟨5, 0⟩, ⟨5, 1⟩⟩, .ellipse ⟨⟨0, 0⟩, ⟨1, 0⟩, 0.5, 0, 1⟩,
          .line ⟨⟨1, 0⟩, ⟨1, 1⟩⟩, .line ⟨⟨5, 0⟩, ⟨5, 1⟩⟩] Point.origin := by
  have finiteOrigin : Point.origin.isFinite = true := by decide
  have finiteStarts : ∀ primitive ∈ [Primitive.line ⟨⟨5, 0⟩, ⟨5, 1⟩⟩,
      .ellipse ⟨⟨0, 0⟩, ⟨1, 0⟩, 0.5, 0, 1⟩, .line ⟨⟨1, 0⟩, ⟨1, 1⟩⟩, .line ⟨⟨5, 0⟩, ⟨5, 1⟩⟩],
      ∀ start, primitive.startingPoint = .ok start → start.isFinite = true := by
    simp only [List.mem_cons, List.not_mem_nil, or_false]
    rintro primitive (rfl | rfl | rfl | rfl) start placed <;> cases placed <;> decide
  exact ⟨finiteOrigin, finiteStarts,
    orderByProximity_orderByProximity _ _ finiteOrigin finiteStarts⟩

end Toolpath
