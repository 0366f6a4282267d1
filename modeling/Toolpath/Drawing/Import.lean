import Toolpath.Drawing.Basic
import Toolpath.Primitive.Basic

/-!
# Importing a drawing

Each drawing entity becomes at most one primitive, in drawing order: lines, circles, arcs,
ellipses and both kinds of polyline convert; every other kind is skipped. An entity whose
geometry a primitive constructor refuses is skipped too, and both kinds of skip are counted.
Entities of block definitions follow those of the model, block by block, when asked for.

Arc angles are turned from degrees into radians and the end angle is raised by a full turn when
it lies below the start angle. The end is raised once only, so the arc sweeps counter-clockwise
by at most a full turn when the two angles lie less than a turn apart; an end more than a turn
below the start stays below it, and an end more than a turn above the start is kept. A polyline
becomes one chain; a closed one gets its first vertex again at the end unless the last vertex
equals it already.
-/

namespace Toolpath

/-- Radians per degree, as the binary64 quotient of π by 180. -/
def radiansPerDegree : Float := 3.141592653589793 / 180.0

/-- A full turn in radians. -/
def fullTurn : Float := 6.283185307179586

/-- Arc angles in radians, the end raised by one full turn when it lies below the start. An end
more than a turn below the start stays below it even so, and an end above the start is kept as
it is, however far above. -/
def counterClockwiseSweep (startDegrees endDegrees : Float) : Float × Float :=
  let start := startDegrees * radiansPerDegree
  let finish := endDegrees * radiansPerDegree
  if finish < start then (start, finish + fullTurn) else (start, finish)

/-- The chain of a polyline: a closed one returns to its first vertex. -/
def closedChain (vertices : List Point) (closed : Bool) : List Point :=
  match vertices.head?, vertices.getLast? with
  | some first, some last => if closed && !(first == last) then vertices ++ [first] else vertices
  | _, _ => vertices

/-- Whether bit 0 of polyline flags is set. -/
def closedFlag (flags : Int) : Bool :=
  flags % 2 == 1

/-- The primitive an entity converts to, `none` for a kind that does not convert. -/
def DrawingEntity.convert : DrawingEntity → Option (Except GeometryError Primitive)
  | .line first second => some (.ok (.line ⟨first, second⟩))
  | .circle center radius => some (Primitive.circle <$> Circle.make? center radius)
  | .arc center radius startDegrees endDegrees =>
    let (start, finish) := counterClockwiseSweep startDegrees endDegrees
    some (Primitive.arc <$> Arc.make? center radius start finish)
  | .ellipse center major ratio startParameter endParameter =>
    some (Primitive.ellipse <$> Ellipse.make? center major ratio startParameter endParameter)
  | .lightPolyline vertices flags =>
    some (Primitive.polyline <$> Polyline.make? [closedChain vertices (closedFlag flags)])
  | .polyline vertices flags =>
    some (Primitive.polyline <$> Polyline.make? [closedChain vertices (closedFlag flags)])
  | .vertex _ => none
  | .insertion _ => none
  | .other _ => none

/-- What an import produced: the primitives in drawing order and how many entities were left
out. -/
structure ImportReport where
  primitives : List Primitive := []
  skipped : Nat := 0
  deriving Inhabited

/-- Adds one entity to a report. -/
def ImportReport.add (report : ImportReport) (entity : DrawingEntity) : ImportReport :=
  match entity.convert with
  | some (.ok primitive) => { report with primitives := report.primitives ++ [primitive] }
  | _ => { report with skipped := report.skipped + 1 }

/-- Imports a drawing: its model entities, then, when `withBlocks` is set, the entities of its
block definitions in order. -/
def Drawing.importWith (drawing : Drawing) (withBlocks : Bool) : ImportReport :=
  let fromBlocks := if withBlocks then drawing.blocks.flatMap Block.entities else []
  (drawing.entities ++ fromBlocks).foldl ImportReport.add {}

end Toolpath
