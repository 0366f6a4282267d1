import Toolpath.Primitive.Basic

/-!
# Ordering primitives by proximity

A greedy nearest-neighbour tour: from the origin, repeatedly cut next the pending primitive whose
starting point is nearest to the starting point of the one cut last. Primitives without a starting
point (ellipses, polylines without chains) follow at the end in their input order.

The scan for the nearest keeps the earliest of equally near candidates. It replaces its current
best by a candidate unless the best distance is at most the candidate's, so a not-a-number
distance always replaces the current best, and a not-a-number best is replaced by the next
candidate.
-/

namespace Toolpath

namespace Proximity

/-- The scan for the nearest candidate: the best index and distance so far, updated by one
candidate. The best is kept only when its distance is at most the candidate's. -/
def keepNearer (best : Option (Nat × Float)) (candidate : Nat × Float) : Option (Nat × Float) :=
  match best with
  | some (index, distance) => if distance <= candidate.2 then some (index, distance) else some candidate
  | none => some candidate

/-- The position of the candidate the scan picks, for the given distances in order; `none` for
no candidates. -/
def nearestIndex (distances : List Float) : Option Nat :=
  ((distances.zipIdx).foldl (fun best entry => keepNearer best (entry.2, entry.1)) none).map Prod.fst

theorem nearestIndex_lt (distances : List Float) (index : Nat)
    (found : nearestIndex distances = some index) : index < distances.length := by
  simp only [nearestIndex] at found
  -- every index the scan can hold is the index of one of the entries
  have holds : ∀ (entries : List (Float × Nat)) (best : Option (Nat × Float)),
      (∀ entry ∈ entries, entry.2 < distances.length) →
      (∀ chosen, best = some chosen → chosen.1 < distances.length) →
      ∀ chosen, entries.foldl (fun best entry => keepNearer best (entry.2, entry.1)) best = some chosen →
        chosen.1 < distances.length := by
    intro entries
    induction entries with
    | nil => intro best _ hbest chosen h; exact hbest chosen h
    | cons entry rest ih =>
      intro best hentries hbest chosen h
      simp only [List.foldl_cons] at h
      apply ih _ (fun e he => hentries e (List.mem_cons_of_mem _ he)) _ chosen h
      intro picked hpicked
      simp only [keepNearer] at hpicked
      split at hpicked
      · split at hpicked
        · cases hpicked; exact hbest _ rfl
        · cases hpicked; exact hentries entry (by simp)
      · cases hpicked; exact hentries entry (by simp)
  obtain ⟨chosen, hchosen, rfl⟩ := Option.map_eq_some_iff.1 found
  apply holds _ none _ (by simp) chosen hchosen
  intro entry hentry
  simpa using (List.mem_zipIdx hentry).2.1

/-- The tour from a point over pending primitives with their starting points. -/
def tour (current : Point) (pending : List (Primitive × Point)) : List Primitive :=
  match found : nearestIndex (pending.map fun entry => current.distanceTo entry.2) with
  | none => []
  | some index =>
    have bound : index < pending.length := by
      have := nearestIndex_lt _ index found
      simpa using this
    let chosen := pending[index]
    chosen.1 :: tour chosen.2 (pending.eraseIdx index)
termination_by pending.length
decreasing_by
  rw [List.length_eraseIdx_of_lt bound]
  omega

end Proximity

/-- Orders primitives for cutting: the greedy nearest-neighbour tour from `origin` over those
with a starting point, then those without one in input order. -/
def orderByProximity (primitives : List Primitive) (origin : Point) : List Primitive :=
  let placed := primitives.filterMap fun primitive =>
    match primitive.startingPoint with
    | .ok start => some (primitive, start)
    | .error _ => none
  let unplaced := primitives.filter fun primitive =>
    match primitive.startingPoint with
    | .ok _ => false
    | .error _ => true
  Proximity.tour origin placed ++ unplaced

end Toolpath
