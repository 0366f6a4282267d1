import Mathlib.Data.List.Induction
import Toolpath.Proofs.Program.Engagement

/-!
# Where a cut starts and what it leaves

The starting point of a primitive is computed apart from its cut, but it is where the cut first
positions the tool: the first travel of every cut goes to the starting point. A polyline without
chains has no starting point and is cut without writing a line, and an ellipse has no starting
point and cannot be cut. For polylines this needs every chain to hold a point, as making a
polyline ensures.

A cut leaves the tracked position at the end of the primitive: the end of a line, the starting
point of a circle (the full circle returns to it), the point at proportion one of an arc (the one
its arc line goes to) and the last point of a polyline. A cut that writes nothing leaves the
position where it was, so after a compilation it is the end of the last primitive in cutting
order that wrote a line.

The tool is another matter: a line leaves it down, for the next travel or the postscript to lift
it, and a cut that writes nothing leaves it as it was. Only the other cuts leave it up.

Main statements:
* `Primitive.startingPoint_is_first_travel`: the starting point, its absence and its errors,
  against the cut;
* `Program.last_is_end_of_last_cut`: the position after a cut, and after a compilation;
* `Primitive.tool_after_cut`: the tool after a cut.
-/

namespace Toolpath

/-! ## The first travel of a cut -/

namespace Motion

/-- The point a motion travels to with the tool up, if it is a travel. -/
def travelTarget? : Motion → Option Point
  | .travel target => some target
  | _ => none

/-- Where the first travel among motions goes, if there is one. -/
def firstTravel? (motions : List Motion) : Option Point :=
  motions.findSome? travelTarget?

end Motion

/-- The first travel of a polyline's chains goes to the first point of its first chain, when every
chain has a point. -/
theorem Polyline.firstTravel?_chains (label : String) {polyline : Polyline}
    (filled : ∀ chain ∈ polyline.chains, chain ≠ []) :
    Motion.firstTravel? (polyline.chains.flatMap (chainMotions label)) =
      polyline.startingPoint? := by
  rcases polyline with ⟨_ | ⟨chain, rest⟩⟩
  · rfl
  · obtain ⟨first, points, rfl⟩ := List.exists_cons_of_ne_nil (filled chain (by simp))
    rw [List.flatMap_cons, chainMotions_cons]
    rfl

namespace Primitive

/-- The first travel of a cut goes to the primitive's starting point; without a starting point
the cut has no travel. -/
theorem firstTravel?_cutMotions (feedrate : Float) {primitive : Primitive}
    (long : primitive.HasLongChains) :
    Motion.firstTravel? (primitive.cutMotions feedrate) = primitive.startingPoint.toOption := by
  cases primitive with
  | polyline shape =>
      have filled : ∀ chain ∈ shape.chains, chain ≠ [] := fun chain member =>
        List.ne_nil_of_length_pos (by have := long chain member; omega)
      simp only [cutMotions, motions, Polyline.firstTravel?_chains shape.label filled, startingPoint]
      cases shape.startingPoint? <;> rfl
  | _ => rfl

/-- A primitive has no starting point exactly when it is an ellipse, whose start is not
implemented, or a polyline without a first point, which has no geometry. -/
theorem startingPoint_eq_error_iff {primitive : Primitive} {error : GeometryError} :
    primitive.startingPoint = .error error ↔
      (∃ shape, primitive = .ellipse shape ∧
          error = .notImplemented shape.label "starting_point") ∨
        ∃ shape, primitive = .polyline shape ∧ shape.startingPoint? = none ∧
          error = .noGeometry shape.label := by
  cases primitive with
  | polyline shape => cases start : shape.startingPoint? <;> simp [startingPoint, start, eq_comm]
  | _ => simp [startingPoint, eq_comm]

theorem motions_eq_ok_iff {feedrate : Float} {primitive : Primitive} {motions : List Motion} :
    primitive.motions feedrate = .ok motions ↔
      primitive.kind ≠ .ellipse ∧ motions = primitive.cutMotions feedrate := by
  cases primitive <;> simp [Primitive.motions, cutMotions, kind, eq_comm]

/-- A cut writes nothing exactly when it has no motions. -/
theorem codes_emit_eq_self_iff
    {machine : Machine} {state after : Plotter} {primitive : Primitive}
    (cut : primitive.emit machine state = .ok after) :
    after.codes = state.codes ↔ primitive.cutMotions machine.feedrate = [] := by
  rw [codes_emit cut, List.append_right_eq_self, cutLines_eq_nil_iff]

/-- A polyline with long chains and no starting point has no chains, so its cut has no motion. -/
theorem cutMotions_eq_nil_of_startingPoint?
    (feedrate : Float) {shape : Polyline} (long : (Primitive.polyline shape).HasLongChains)
    (unplaced : shape.startingPoint? = none) :
    (Primitive.polyline shape).cutMotions feedrate = [] := by
  rcases shape with ⟨_ | ⟨chain, rest⟩⟩
  · rfl
  · have short := long chain (by simp)
    rcases chain with _ | ⟨first, points⟩
    · simp at short
    · simp [Polyline.startingPoint?] at unplaced

section StartingPoint

variable (machine : Machine) (state : Plotter) {primitive : Primitive}

/-- A primitive has a starting point exactly when it is cut by motions whose first travel goes
there. -/
theorem startingPoint_eq_ok_iff (long : primitive.HasLongChains) (start : Point) :
    primitive.startingPoint = .ok start ↔
      ∃ motions, primitive.motions machine.feedrate = .ok motions ∧
        primitive.emit machine state = .ok (Plotter.run machine state motions) ∧
        Motion.firstTravel? motions = some start := by
  have travel := firstTravel?_cutMotions machine.feedrate long
  constructor
  · intro placed
    -- a primitive with a starting point is no ellipse, so it is cut by its motions
    have notEllipse : primitive.kind ≠ .ellipse := by
      cases primitive <;> simp_all [startingPoint, kind]
    refine ⟨_, motions_eq_ok_iff.2 ⟨notEllipse, rfl⟩, emit_eq_ok_iff.2 ⟨notEllipse, rfl⟩, ?_⟩
    rw [travel, placed]
    rfl
  · rintro ⟨motions, given, -, first⟩
    obtain ⟨-, rfl⟩ := motions_eq_ok_iff.1 given
    rw [travel] at first
    cases placed : primitive.startingPoint <;> simp_all [Except.toOption]

/-- A primitive has no geometry exactly when it is cut without writing a line. -/
theorem startingPoint_eq_noGeometry_iff (long : primitive.HasLongChains) :
    (∃ label, primitive.startingPoint = .error (.noGeometry label)) ↔
      ∃ after, primitive.emit machine state = .ok after ∧ after.codes = state.codes := by
  constructor
  · rintro ⟨label, unplaced⟩
    obtain ⟨shape, rfl, -⟩ | ⟨shape, rfl, none, -⟩ := startingPoint_eq_error_iff.1 unplaced
    · cases unplaced
    · have silent := cutMotions_eq_nil_of_startingPoint? machine.feedrate long none
      exact ⟨state, emit_eq_ok_iff.2 ⟨nofun, by rw [silent]; rfl⟩, rfl⟩
  · rintro ⟨after, cut, same⟩
    -- a cut without motions has no travel, so the primitive has no starting point
    have travel := firstTravel?_cutMotions machine.feedrate long
    rw [(codes_emit_eq_self_iff cut).1 same] at travel
    cases placed : primitive.startingPoint with
    | ok start => simp [placed, Motion.firstTravel?, Except.toOption] at travel
    | error error =>
        obtain ⟨shape, rfl, -⟩ | ⟨shape, rfl, -, rfl⟩ := startingPoint_eq_error_iff.1 placed
        · exact absurd (emit_eq_ok_iff.1 cut).1 (by simp [kind])
        · exact ⟨_, rfl⟩

/-- A primitive's start is not implemented exactly when its cut fails. -/
theorem startingPoint_eq_notImplemented_iff :
    (∃ label operation, primitive.startingPoint = .error (.notImplemented label operation)) ↔
      ∃ error, primitive.emit machine state = .error error := by
  constructor
  · rintro ⟨label, operation, unimplemented⟩
    obtain ⟨shape, rfl, -⟩ | ⟨shape, rfl, -, noGeometry⟩ :=
      startingPoint_eq_error_iff.1 unimplemented
    · exact ⟨_, emit_eq_error_iff.2 ⟨shape, rfl, rfl⟩⟩
    · cases noGeometry
  · rintro ⟨error, failed⟩
    obtain ⟨shape, rfl, -⟩ := emit_eq_error_iff.1 failed
    exact ⟨_, _, rfl⟩

end StartingPoint

/--
The starting point is where a cut begins. For every primitive whose polyline chains are long, as
making a polyline ensures, and every plotter: the primitive has a starting point exactly when it
is cut by motions whose first travel goes there; it has no geometry exactly when it is cut
without writing a line; and its start is not implemented exactly when its cut fails.
-/
theorem startingPoint_is_first_travel
    (machine : Machine) (state : Plotter) (primitive : Primitive)
    (long : primitive.HasLongChains) :
    (∀ start, primitive.startingPoint = .ok start ↔
      ∃ motions, primitive.motions machine.feedrate = .ok motions ∧
        primitive.emit machine state = .ok (Plotter.run machine state motions) ∧
        Motion.firstTravel? motions = some start) ∧
    ((∃ label, primitive.startingPoint = .error (.noGeometry label)) ↔
      ∃ after, primitive.emit machine state = .ok after ∧ after.codes = state.codes) ∧
    ((∃ label operation, primitive.startingPoint = .error (.notImplemented label operation)) ↔
      ∃ error, primitive.emit machine state = .error error) :=
  ⟨startingPoint_eq_ok_iff machine state long, startingPoint_eq_noGeometry_iff machine state long,
    startingPoint_eq_notImplemented_iff machine state⟩

end Primitive

/-- A polyline of two chains is first positioned at the first point of its first chain. -/
theorem Primitive.polyline_cut_starts_at_first_point :
    (Primitive.polyline ⟨[[⟨1, 1⟩, ⟨2, 1⟩], [⟨5, 5⟩, ⟨6, 5⟩]]⟩).HasLongChains ∧
      ∃ motions,
        (Primitive.polyline ⟨[[⟨1, 1⟩, ⟨2, 1⟩], [⟨5, 5⟩, ⟨6, 5⟩]]⟩).motions 1000 = .ok motions ∧
        (Primitive.polyline ⟨[[⟨1, 1⟩, ⟨2, 1⟩], [⟨5, 5⟩, ⟨6, 5⟩]]⟩).emit {} {} =
          .ok (Plotter.run {} {} motions) ∧
        Motion.firstTravel? motions = some ⟨1, 1⟩ := by
  have long : (Primitive.polyline ⟨[[⟨1, 1⟩, ⟨2, 1⟩], [⟨5, 5⟩, ⟨6, 5⟩]]⟩).HasLongChains := by
    decide
  exact ⟨long, ((Primitive.startingPoint_is_first_travel {} {} _ long).1 ⟨1, 1⟩).1 rfl⟩

/-! ## The position a cut leaves -/

namespace Primitive

/-- Where cutting a primitive leaves the tool: the end of a line, the starting point of a circle,
the point at proportion one of an arc, and the last point of a polyline's chains, which for a
polyline as made is the last point of its last chain. An ellipse and a polyline without points
have none. -/
def finish? : Primitive → Option Point
  | .line shape => some shape.finish
  | .circle shape => some shape.startingPoint
  | .arc shape => some (shape.findPoint 1.0)
  | .ellipse _ => none
  | .polyline shape => shape.chains.flatten.getLast?

end Primitive

/-- The last of the primitives whose cut writes a line. -/
def Machine.lastWriter? (machine : Machine) (primitives : List Primitive) : Option Primitive :=
  (primitives.filter fun primitive => !(primitive.freshLines machine).isEmpty).getLast?

theorem Machine.lastWriter?_append_singleton
    (machine : Machine) (before : List Primitive) (primitive : Primitive) :
    machine.lastWriter? (before ++ [primitive]) =
      if primitive.freshLines machine = [] then machine.lastWriter? before else some primitive := by
  by_cases silent : primitive.freshLines machine = []
  · simp [lastWriter?, silent, List.filter_append]
  · simp [lastWriter?, silent, List.filter_append, List.getLast?_append]

/-- A run leaves the position as its motions move it. -/
theorem Plotter.last_run (machine : Machine) (state : Plotter) (motions : List Motion) :
    (run machine state motions).last = motions.foldl Motion.lastAfter state.last := by
  induction motions generalizing state with
  | nil => rfl
  | cons motion rest induction => exact induction _

namespace Polyline

theorem lastAfter_drawThrough (points : List Point) (last : Option Point) :
    (drawThrough points).foldl Motion.lastAfter last = points.getLast?.or last := by
  induction points generalizing last with
  | nil => rfl
  | cons point rest induction =>
      rw [drawThrough, List.flatMap_cons, List.foldl_append, ← drawThrough, induction]
      cases rest <;> simp [Motion.lastAfter, List.getLast?_cons]

/-- A chain leaves the position at its last point, and where it was without points. -/
theorem lastAfter_chainMotions (label : String) (chain : List Point) (last : Option Point) :
    (chainMotions label chain).foldl Motion.lastAfter last = chain.getLast?.or last := by
  cases chain with
  | nil => rfl
  | cons first points =>
      rw [chainMotions_cons]
      simp only [List.foldl_cons, List.foldl_append, Motion.lastAfter, lastAfter_drawThrough]
      cases points <;> simp [List.getLast?_cons]

theorem lastAfter_chains (label : String) (chains : List (List Point)) (last : Option Point) :
    (chains.flatMap (chainMotions label)).foldl Motion.lastAfter last =
      chains.flatten.getLast?.or last := by
  induction chains generalizing last with
  | nil => rfl
  | cons chain rest induction =>
      rw [List.flatMap_cons, List.foldl_append, lastAfter_chainMotions, induction,
        List.flatten_cons, List.getLast?_append, Option.or_assoc]

end Polyline

namespace Primitive

/-- A cut leaves the position at the end of the primitive, and where it was without one. -/
theorem lastAfter_cutMotions (feedrate : Float) (primitive : Primitive) (last : Option Point) :
    (primitive.cutMotions feedrate).foldl Motion.lastAfter last = primitive.finish?.or last := by
  cases primitive with
  | polyline shape => exact Polyline.lastAfter_chains shape.label shape.chains last
  | _ => rfl

/-- A primitive has an end exactly when its cut makes a motion. -/
theorem finish?_eq_none_iff (feedrate : Float) (primitive : Primitive) :
    primitive.finish? = none ↔ primitive.cutMotions feedrate = [] := by
  cases primitive with
  | polyline shape =>
      simp only [finish?, cutMotions, motions, List.getLast?_eq_none_iff, List.flatten_eq_nil_iff,
        List.flatMap_eq_nil_iff]
      apply forall₂_congr
      intro chain _
      cases chain <;> simp [Polyline.chainMotions]
  | _ => simp [finish?, cutMotions, motions]

end Primitive

/-- Cutting primitives in order leaves the position at the end of the last one that writes a
line, and where it was when none does. -/
theorem Plotter.last_run_cuts (machine : Machine) (state : Plotter) (primitives : List Primitive) :
    (run machine state (primitives.flatMap (Primitive.cutMotions machine.feedrate))).last =
      ((machine.lastWriter? primitives).bind Primitive.finish?).or state.last := by
  induction primitives using List.reverseRecOn with
  | nil => rfl
  | append_singleton before primitive induction =>
      rw [List.flatMap_append, run_append, last_run, List.flatMap_singleton,
        Primitive.lastAfter_cutMotions, induction, Machine.lastWriter?_append_singleton]
      -- the primitive has an end exactly when it writes a line
      have ends := (Primitive.finish?_eq_none_iff machine.feedrate primitive).trans
        (Primitive.freshLines_eq_nil_iff machine primitive).symm
      by_cases silent : primitive.freshLines machine = []
      · simp [silent, ends.2 silent]
      · obtain ⟨finish, ended⟩ := Option.ne_none_iff_exists'.1 (mt ends.1 silent)
        simp [silent, ended]

/-- Asking for a cut leaves the position at the end of the primitive, and where it was when the
cut writes nothing or fails. -/
theorem Plotter.last_cut (machine : Machine) (state : Plotter) (primitive : Primitive) :
    (state.cut machine primitive).last = primitive.finish?.or state.last := by
  unfold cut
  split
  · next after cut =>
      obtain ⟨-, rfl⟩ := Primitive.emit_eq_ok_iff.1 cut
      rw [last_run, Primitive.lastAfter_cutMotions]
  · next error cut =>
      obtain ⟨shape, rfl, -⟩ := Primitive.emit_eq_error_iff.1 cut
      rfl

namespace Program

/-- The last position of a compiled program is the end of the last primitive in cutting order
that wrote a line. -/
theorem last_compile
    {config : Config} {primitives : List Primitive} {program : Program}
    (compiled : compile config primitives = .ok program) :
    program.last =
      (config.machine.lastWriter? (config.cuttingOrder primitives)).bind Primitive.finish? := by
  obtain ⟨-, cutting, finished, rfl⟩ := compile_eq_ok_iff.1 compiled
  rw [plotter_cutAll config finished, Plotter.last_run_cuts]
  exact Option.or_none

/--
The tracked position is the geometric end of the last primitive cut. Asking a plotter to cut a
primitive leaves the position at the primitive's end (the end of a line, the starting point of a
circle, the point at proportion one of an arc, the last point of a polyline), and where it was
for a polyline without chains and for an ellipse, whose cut fails. The last position of every
compiled program is therefore the end of the last primitive in cutting order that wrote a line,
and none when no primitive did.
-/
theorem last_is_end_of_last_cut :
    (∀ (machine : Machine) (state : Plotter) (primitive : Primitive),
      (state.cut machine primitive).last = primitive.finish?.or state.last) ∧
    ∀ (config : Config) (primitives : List Primitive) (program : Program),
      compile config primitives = .ok program →
        program.last =
          (config.machine.lastWriter? (config.cuttingOrder primitives)).bind Primitive.finish? :=
  ⟨Plotter.last_cut, fun _ _ _ compiled => last_compile compiled⟩

/-- A circle, a line and a polyline without chains: the program ends at the end of the line. -/
theorem circle_line_and_chainless_polyline_end_with_the_line :
    ∃ program,
      compile {} [.circle ⟨⟨5, 5⟩, 2⟩, .line ⟨⟨0, 0⟩, ⟨3, 4⟩⟩, .polyline ⟨[]⟩] = .ok program ∧
        program.last = some ⟨3, 4⟩ :=
  ⟨_, rfl,
    (last_is_end_of_last_cut.2 {} [.circle ⟨⟨5, 5⟩, 2⟩, .line ⟨⟨0, 0⟩, ⟨3, 4⟩⟩, .polyline ⟨[]⟩] _
      rfl).trans rfl⟩

end Program

/-! ## The tool after a cut -/

namespace Primitive

/-- The tool after a cut: down after a line, as it was after a cut that writes nothing, and up
after every other cut. -/
theorem tool_after_cut
    (machine : Machine) (state after : Plotter) (primitive : Primitive)
    (cut : primitive.emit machine state = .ok after) :
    after.engaged =
      if after.codes = state.codes then state.engaged else decide (primitive.kind = .line) := by
  rw [engaged_emit cut, engagedAfter_cutMotions]
  simp only [codes_emit_eq_self_iff cut]

/-- A polyline without chains, cut with the tool down, leaves it down. -/
theorem chainless_polyline_keeps_the_tool_down :
    ∃ after, (Primitive.polyline ⟨[]⟩).emit {} { engaged := true } = .ok after ∧
      after.engaged = true :=
  ⟨_, rfl, (tool_after_cut {} { engaged := true } _ (.polyline ⟨[]⟩) rfl).trans (if_pos rfl)⟩

/-- Cutting a line on a fresh plotter succeeds and leaves the tool down. -/
theorem line_cut_leaves_the_tool_down :
    Except.map Plotter.engaged ((Primitive.line ⟨⟨0, 0⟩, ⟨3, 4⟩⟩).emit {} {}) = .ok true :=
  rfl

end Primitive

end Toolpath
