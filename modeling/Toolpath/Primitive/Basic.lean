import Toolpath.Geometry.Point
import Toolpath.Primitive.Error

/-!
# Drawing primitives

Lines, circles, arcs, ellipses and polylines, with the constructors that check their geometry,
their labels, their starting points and the distance between two of them.

A circle or arc needs a finite centre and a finite positive radius, an arc finite angles (an end
angle below the start angle means a clockwise sweep), an ellipse a finite centre and axis, a
ratio of minor to major axis in `(0, 1]` and finite parameters, and every chain of a polyline at
least two points, all finite. A line takes any two points. The constructors check in that order
and report the first failure.
-/

namespace Toolpath

open Toolpath.Number

/-- A straight cut from `start` to `finish`. -/
structure Line where
  start : Point
  finish : Point
  deriving Inhabited

/-- A full circle. -/
structure Circle where
  center : Point
  radius : Float
  deriving Inhabited

/-- A circular arc from `startAngle` to `endAngle`, in radians. -/
structure Arc where
  center : Point
  radius : Float
  startAngle : Float
  endAngle : Float
  deriving Inhabited

/-- An elliptical arc: `major` is the vector from the centre to the end of the major axis. -/
structure Ellipse where
  center : Point
  major : Point
  ratio : Float
  startParameter : Float
  endParameter : Float
  deriving Inhabited

/-- Polygonal chains, each cut as one stroke. -/
structure Polyline where
  chains : List (List Point)
  deriving Inhabited

/-- A drawing primitive. -/
inductive Primitive where
  | line (line : Line)
  | circle (circle : Circle)
  | arc (arc : Arc)
  | ellipse (ellipse : Ellipse)
  | polyline (polyline : Polyline)
  deriving Inhabited

/-- The sense in which an arc sweeps. -/
inductive ArcDirection where
  | clockwise
  | counterClockwise
  deriving Repr, BEq, DecidableEq, Inhabited

/-- The name of a sweep sense. -/
def ArcDirection.name : ArcDirection → String
  | .clockwise => "Clockwise"
  | .counterClockwise => "CounterClockwise"

/-- Refuses a radius that is not finite and positive, quoting it in plain text. -/
def checkRadius (radius : Float) : Except GeometryError Unit :=
  if !radius.isFinite || radius <= 0.0 then
    .error (.invalidGeometry ("radius must be positive, got " ++ plainText radius))
  else .ok ()

namespace Circle

/-- A circle with a finite centre and a finite positive radius. -/
def make? (center : Point) (radius : Float) : Except GeometryError Circle := do
  if !center.isFinite then throw (.invalidGeometry "circle center must be finite")
  checkRadius radius
  return ⟨center, radius⟩

/-- The leftmost point, where cutting starts and ends. -/
def startingPoint (circle : Circle) : Point :=
  ⟨circle.center.x - circle.radius, circle.center.y⟩

/-- The label `Circle at [x,y], radius r`. -/
def label (circle : Circle) : String :=
  "Circle at [" ++ twoPlaces circle.center.x ++ "," ++ twoPlaces circle.center.y ++
    "], radius " ++ twoPlaces circle.radius

end Circle

namespace Arc

/-- An arc with a finite centre, a finite positive radius and finite angles. -/
def make? (center : Point) (radius startAngle endAngle : Float) : Except GeometryError Arc := do
  if !center.isFinite then throw (.invalidGeometry "arc center must be finite")
  checkRadius radius
  if !startAngle.isFinite || !endAngle.isFinite then
    throw (.invalidGeometry "arc angles must be finite")
  return ⟨center, radius, startAngle, endAngle⟩

/-- Clockwise exactly when the end angle minus the start angle is negative. -/
def direction (arc : Arc) : ArcDirection :=
  if arc.endAngle - arc.startAngle < 0.0 then .clockwise else .counterClockwise

/-- The point at `proportion` of the sweep: the angle `start + (end - start) · proportion` on the
circle. -/
def findPoint (arc : Arc) (proportion : Float) : Point :=
  let delta := arc.endAngle - arc.startAngle
  let angle := arc.startAngle + delta * proportion
  ⟨arc.center.x + arc.radius * angle.cos, arc.center.y + arc.radius * angle.sin⟩

/-- Where cutting starts: the point at proportion zero. -/
def startingPoint (arc : Arc) : Point :=
  arc.findPoint 0.0

/-- The label `Arc at [x, y], radius r, from a to b`. -/
def label (arc : Arc) : String :=
  "Arc at " ++ arc.center.label ++ ", radius " ++ twoPlaces arc.radius ++ ", from " ++
    twoPlaces arc.startAngle ++ " to " ++ twoPlaces arc.endAngle

end Arc

namespace Ellipse

/-- An ellipse with a finite centre and axis, a ratio in `(0, 1]` and finite parameters. -/
def make? (center major : Point) (ratio startParameter endParameter : Float) :
    Except GeometryError Ellipse := do
  if !center.isFinite || !major.isFinite then
    throw (.invalidGeometry "ellipse center and axis must be finite")
  if !(ratio > 0.0 && ratio <= 1.0) then
    throw (.invalidGeometry ("minor/major ratio must be in (0, 1], got " ++ plainText ratio))
  if !startParameter.isFinite || !endParameter.isFinite then
    throw (.invalidGeometry "ellipse parameters must be finite")
  return ⟨center, major, ratio, startParameter, endParameter⟩

/-- The label `Ellipse at [x, y], major [x, y], minor/major r start s end e`. -/
def label (ellipse : Ellipse) : String :=
  "Ellipse at " ++ ellipse.center.label ++ ", major " ++ ellipse.major.label ++
    ", minor/major " ++ twoPlaces ellipse.ratio ++ " start " ++
    twoPlaces ellipse.startParameter ++ " end " ++ twoPlaces ellipse.endParameter

end Ellipse

namespace Polyline

/-- The first chain at or after position `index` that is shorter than two points or holds a
non-finite point, with the reason it is refused. -/
def firstFault : Nat → List (List Point) → Option String
  | _, [] => none
  | index, chain :: rest =>
    if chain.length < 2 then
      some ("polyline chain " ++ natText index ++ " has " ++ natText chain.length ++
        " point(s), at least 2 required")
    else if chain.any (fun point => !point.isFinite) then
      some ("polyline chain " ++ natText index ++ " contains a non-finite point")
    else firstFault (index + 1) rest

/-- A polyline whose chains all have at least two points, all finite. No chains at all is
allowed and means no geometry. -/
def make? (chains : List (List Point)) : Except GeometryError Polyline :=
  match firstFault 0 chains with
  | some reason => .error (.invalidGeometry reason)
  | none => .ok ⟨chains⟩

/-- The first point of the first chain, if there is a chain. -/
def startingPoint? (polyline : Polyline) : Option Point :=
  match polyline.chains with
  | (first :: _) :: _ => some first
  | _ => none

/-- The label `Polyline consisting of n segments.`, counting chains. -/
def label (polyline : Polyline) : String :=
  "Polyline consisting of " ++ natText polyline.chains.length ++ " segments."

end Polyline

/-- The label `Line from [x, y] to [x, y]`. -/
def Line.label (line : Line) : String :=
  "Line from " ++ line.start.label ++ " to " ++ line.finish.label

namespace Primitive

/-- The kind of a primitive. -/
def kind : Primitive → PrimitiveKind
  | .line _ => .line
  | .circle _ => .circle
  | .arc _ => .arc
  | .ellipse _ => .ellipse
  | .polyline _ => .polyline

/-- The label of a primitive, also the comment line of its cut. -/
def label : Primitive → String
  | .line shape => shape.label
  | .circle shape => shape.label
  | .arc shape => shape.label
  | .ellipse shape => shape.label
  | .polyline shape => shape.label

/-- Where cutting the primitive starts. An ellipse has no defined start, and a polyline without
chains has no geometry. -/
def startingPoint : Primitive → Except GeometryError Point
  | .line shape => .ok shape.start
  | .circle shape => .ok shape.startingPoint
  | .arc shape => .ok shape.startingPoint
  | .ellipse shape => .error (.notImplemented shape.label "starting_point")
  | .polyline shape =>
    match shape.startingPoint? with
    | some point => .ok point
    | none => .error (.noGeometry shape.label)

/-- The starting point for a distance, a missing one reported as invalid geometry that names the
primitive. -/
def measurableStart (primitive : Primitive) : Except GeometryError Point :=
  match primitive.startingPoint with
  | .ok point => .ok point
  | .error error =>
    .error (.invalidGeometry
      ("cannot measure distance from " ++ primitive.label ++ ": " ++ error.message))

/-- The distance from the starting point of `primitive` to that of `other`. -/
def distanceTo (primitive other : Primitive) : Except GeometryError Float := do
  let start ← primitive.measurableStart
  let target ← other.measurableStart
  return start.distanceTo target

end Primitive

end Toolpath
