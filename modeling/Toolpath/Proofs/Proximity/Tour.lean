import Mathlib.Data.List.InsertIdx
import Mathlib.Data.List.Perm.Basic
import Toolpath.Primitive.Proximity

/-!
# The proximity tour visits every placed primitive once

The scan for the nearest candidate finds one as soon as there is a candidate, whatever the
distances (not-a-number included), so the tour only stops when nothing is pending. Each round
takes out the chosen entry by its position, so the tour is a permutation of the pending
primitives.

Ordering by proximity therefore puts a permutation of the primitives with a starting point first,
followed by those without one in their input order. Since the tour never sees the primitives
without a starting point, removing some of them from the input only removes them from the order.

Main statements:
* `Proximity.nearestIndex_eq_none_iff`: the scan finds nothing only among no candidates;
* `Proximity.tour_of_ne_nil`: one round of the tour, taken whenever something is pending;
* `Proximity.tour_perm`: the tour is a permutation of the pending primitives;
* `orderByProximity_loses_nothing`: the order is a permutation of the input, the placed
  primitives first and the unplaced ones after them as given, with one round per placed one;
* `orderByProximity_filter`: removing unplaced primitives commutes with ordering.
-/

namespace Toolpath

open scoped List

/-- Whether a primitive has a starting point, so that ordering by proximity can place it. -/
def Primitive.isPlaced (primitive : Primitive) : Bool :=
  primitive.startingPoint.toBool

namespace Proximity

@[simp]
theorem keepNearer_none (candidate : Nat × Float) : keepNearer none candidate = some candidate :=
  rfl

/-- Once the scan holds a candidate it holds one to the end. -/
theorem foldl_keepNearer_isSome (entries : List (Float × Nat)) (best : Nat × Float) :
    (entries.foldl (fun best entry => keepNearer best (entry.2, entry.1)) (some best)).isSome := by
  induction entries generalizing best with
  | nil => rfl
  | cons entry rest induction =>
      rw [List.foldl_cons]
      obtain ⟨index, distance⟩ := best
      simp only [keepNearer]
      split
      · exact induction _
      · exact induction _

/-- The scan finds no candidate only when there is none. -/
theorem nearestIndex_eq_none_iff (distances : List Float) :
    nearestIndex distances = none ↔ distances = [] := by
  constructor
  · intro found
    cases distances with
    | nil => rfl
    | cons distance rest =>
        have isSome := foldl_keepNearer_isSome (rest.zipIdx 1) (0, distance)
        simp only [nearestIndex, List.zipIdx_cons, List.foldl_cons, keepNearer_none,
          Option.map_eq_none_iff] at found
        simp [found] at isSome
  · rintro rfl
    rfl

/-- The tour visits every pending primitive exactly once. -/
theorem tour_perm (current : Point) (pending : List (Primitive × Point)) :
    (tour current pending).Perm (pending.map Prod.fst) := by
  fun_induction tour current pending with
  | case1 current pending found =>
      have empty : pending = [] := by
        simpa using (nearestIndex_eq_none_iff _).1 found
      simp [empty]
  | case2 current pending index found bound chosen induction =>
      -- the chosen entry is taken out by its position, so the rest is what the next rounds visit
      have inMap : index < (pending.map Prod.fst).length := by
        simpa using bound
      calc chosen.fst :: tour chosen.snd (pending.eraseIdx index)
          _ ~ chosen.fst :: (pending.eraseIdx index).map Prod.fst := induction.cons _
          _ = (pending.map Prod.fst)[index] :: (pending.map Prod.fst).eraseIdx index := by
            simp [chosen, List.eraseIdx_map]
          _ ~ pending.map Prod.fst := List.getElem_cons_eraseIdx_perm inMap

/-- A round of the tour takes the entry the scan picks. -/
theorem tour_of_nearestIndex {current : Point} {pending : List (Primitive × Point)} {index : Nat}
    (found : nearestIndex (pending.map fun entry => current.distanceTo entry.2) = some index)
    (bound : index < pending.length) :
    tour current pending = pending[index].1 :: tour pending[index].2 (pending.eraseIdx index) := by
  rw [tour]
  split
  · next missing => simp [found] at missing
  · next chosen again => simp only [found, Option.some.injEq] at again; subst again; rfl

/-- One round of the tour: whenever something is pending, the scan picks an entry, which is
visited first, and the tour goes on from its starting point over the entries left. -/
theorem tour_of_ne_nil (current : Point) {pending : List (Primitive × Point)}
    (nonempty : pending ≠ []) :
    ∃ index, ∃ bound : index < pending.length,
      tour current pending =
        pending[index].1 :: tour pending[index].2 (pending.eraseIdx index) := by
  have found : nearestIndex (pending.map fun entry => current.distanceTo entry.2) ≠ none := by
    rw [Ne, nearestIndex_eq_none_iff, List.map_eq_nil_iff]
    exact nonempty
  obtain ⟨index, picked⟩ := Option.ne_none_iff_exists'.1 found
  have bound : index < pending.length := by
    simpa using nearestIndex_lt _ index picked
  exact ⟨index, bound, tour_of_nearestIndex picked bound⟩

/-- The tour has one round per pending entry. -/
theorem length_tour (current : Point) (pending : List (Primitive × Point)) :
    (tour current pending).length = pending.length := by
  simpa using (tour_perm current pending).length_eq

end Proximity

/-- A primitive paired with its starting point, when it has one: the entries the tour is run
over. -/
def Primitive.placedEntry? (primitive : Primitive) : Option (Primitive × Point) :=
  match primitive.startingPoint with
  | .ok start => some (primitive, start)
  | .error _ => none

/-- A primitive without a starting point has no entry in the tour. -/
theorem Primitive.placedEntry?_eq_none {primitive : Primitive}
    (unplaced : primitive.isPlaced = false) : primitive.placedEntry? = none := by
  cases start : primitive.startingPoint with
  | ok point => simp [Primitive.isPlaced, start, Except.toBool] at unplaced
  | error error => simp [ Primitive.placedEntry?, start]

/-- The entry of a placed primitive is the primitive with its starting point. -/
theorem Primitive.placedEntry?_eq_some_iff {primitive : Primitive} {entry : Primitive × Point} :
    primitive.placedEntry? = some entry ↔
      entry.1 = primitive ∧ primitive.startingPoint = .ok entry.2 := by
  rcases entry with ⟨shape, point⟩
  unfold placedEntry?
  cases primitive.startingPoint with
  | ok start =>
      simp only [Option.some.injEq, Prod.mk.injEq, Except.ok.injEq]
      constructor <;> rintro ⟨rfl, rfl⟩ <;> exact ⟨rfl, rfl⟩
  | error error => simp

/-- Ordering by proximity is the tour over the entries of the placed primitives, then the
unplaced primitives in input order. -/
theorem orderByProximity_eq_tour (primitives : List Primitive) (origin : Point) :
    orderByProximity primitives origin =
      Proximity.tour origin (primitives.filterMap Primitive.placedEntry?) ++
        primitives.filter (fun primitive => !primitive.isPlaced) := by
  simp only [orderByProximity]
  congr 1
  apply List.filter_congr
  intro primitive _
  cases start : primitive.startingPoint <;> simp [Primitive.isPlaced, start, Except.toBool]

/-- The primitives with a starting point, paired with it, in input order. -/
theorem map_fst_placed (primitives : List Primitive) :
    (primitives.filterMap Primitive.placedEntry?).map Prod.fst =
      primitives.filter Primitive.isPlaced := by
  induction primitives with
  | nil => rfl
  | cons primitive rest induction =>
      cases start : primitive.startingPoint <;>
        simp [start, induction, Primitive.placedEntry?, Primitive.isPlaced, Except.toBool]

/-- Ordering by proximity puts a permutation of the placed primitives first, then the unplaced
ones in input order. -/
theorem orderByProximity_eq (primitives : List Primitive) (origin : Point) :
    ∃ placedOrder, orderByProximity primitives origin =
        placedOrder ++ primitives.filter (fun primitive => !primitive.isPlaced) ∧
      placedOrder.Perm (primitives.filter Primitive.isPlaced) :=
  ⟨_, orderByProximity_eq_tour primitives origin,
    (Proximity.tour_perm origin _).trans (List.Perm.of_eq (map_fst_placed primitives))⟩

/-- Ordering by proximity loses and repeats nothing, whatever the coordinates. It is a
permutation of the primitives: first the tour of those with a starting point, each as often as
given, then those without one in input order. Every round of the tour picks an entry while any
is pending, not-a-number distances included, and takes that one entry out, so the tour has one
round per primitive with a starting point. -/
theorem orderByProximity_loses_nothing (primitives : List Primitive) (origin : Point) :
    ∃ placedOrder,
      orderByProximity primitives origin =
          placedOrder ++ primitives.filter (fun primitive => !primitive.isPlaced) ∧
        placedOrder.Perm (primitives.filter Primitive.isPlaced) ∧
        (orderByProximity primitives origin).Perm primitives ∧
        (∀ (current : Point) (pending : List (Primitive × Point)), pending ≠ [] →
          ∃ index, ∃ bound : index < pending.length,
            Proximity.tour current pending =
              pending[index].1 :: Proximity.tour pending[index].2 (pending.eraseIdx index)) ∧
        ∀ (current : Point) (pending : List (Primitive × Point)),
          (Proximity.tour current pending).length = pending.length := by
  obtain ⟨placedOrder, order, placed⟩ := orderByProximity_eq primitives origin
  refine ⟨placedOrder, order, placed, ?_,
    fun current _ nonempty => Proximity.tour_of_ne_nil current nonempty, Proximity.length_tour⟩
  rw [order]
  exact (placed.append_right _).trans (List.filter_append_perm _ primitives)

/-- An ellipse, a line and a polyline without chains are ordered with the line, the one placed
primitive, first, and the other two after it as given. -/
theorem line_goes_before_unplaced_primitives :
    orderByProximity
        [.ellipse ⟨⟨0, 0⟩, ⟨1, 0⟩, 0.5, 0, 1⟩, .line ⟨⟨3, 3⟩, ⟨3, 4⟩⟩, .polyline ⟨[]⟩] Point.origin =
      [.line ⟨⟨3, 3⟩, ⟨3, 4⟩⟩, .ellipse ⟨⟨0, 0⟩, ⟨1, 0⟩, 0.5, 0, 1⟩, .polyline ⟨[]⟩] := by
  obtain ⟨placedOrder, order, placed, -⟩ := orderByProximity_loses_nothing
    [.ellipse ⟨⟨0, 0⟩, ⟨1, 0⟩, 0.5, 0, 1⟩, .line ⟨⟨3, 3⟩, ⟨3, 4⟩⟩, .polyline ⟨[]⟩] Point.origin
  have single : placedOrder = [.line ⟨⟨3, 3⟩, ⟨3, 4⟩⟩] :=
    List.perm_singleton.1 placed
  rw [order, single]
  rfl

/-- Removing primitives that have no starting point removes no entry of the tour. -/
theorem filterMap_placedEntry?_filter (keep : Primitive → Bool)
    (keepsPlaced : ∀ primitive, primitive.isPlaced = true → keep primitive = true)
    (primitives : List Primitive) :
    (primitives.filter keep).filterMap Primitive.placedEntry? =
      primitives.filterMap Primitive.placedEntry? := by
  induction primitives with
  | nil => rfl
  | cons primitive rest induction =>
      cases kept : keep primitive with
      | true => rw [List.filter_cons_of_pos kept, List.filterMap_cons, List.filterMap_cons, induction]
      | false =>
          have unplaced : primitive.isPlaced = false := by
            cases placed : primitive.isPlaced
            · rfl
            · simp [keepsPlaced primitive placed] at kept
          rw [List.filter_cons_of_neg (by simp [kept]),
            List.filterMap_cons_none (Primitive.placedEntry?_eq_none unplaced), induction]

/-- Removing primitives without a starting point before ordering removes them from the order and
changes nothing else: the tour only sees the primitives with a starting point. -/
theorem orderByProximity_filter (keep : Primitive → Bool)
    (keepsPlaced : ∀ primitive, primitive.isPlaced = true → keep primitive = true)
    (primitives : List Primitive) (origin : Point) :
    orderByProximity (primitives.filter keep) origin =
      (orderByProximity primitives origin).filter keep := by
  rw [orderByProximity_eq_tour, orderByProximity_eq_tour,
    filterMap_placedEntry?_filter keep keepsPlaced, List.filter_append]
  congr 1
  · -- every primitive of the tour is placed, hence kept
    symm
    apply List.filter_eq_self.2
    intro primitive member
    have visited := (Proximity.tour_perm origin _).subset member
    rw [map_fst_placed] at visited
    exact keepsPlaced primitive (List.mem_filter.1 visited).2
  · rw [List.filter_filter, List.filter_filter]
    exact List.filter_congr fun primitive _ => Bool.and_comm _ _

end Toolpath
