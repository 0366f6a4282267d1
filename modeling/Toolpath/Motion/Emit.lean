import Toolpath.Primitive.Basic
import Toolpath.Motion.Plotter

/-!
# Cutting primitives

How each primitive is cut, as a list of motions:

* a line: its comment, travel to the start, draw to the end, an empty line; the tool stays down
  until the next travel lowers it no more;
* a circle: its comment, travel to the leftmost point, engage, one full-circle arc line at the
  feed rate, disengage, an empty line;
* an arc: its comment, travel to the point at proportion zero, remember the point at proportion
  one as the position, engage, one arc line, disengage, an empty line; the arc line is `G3` for
  both senses of sweep;
* a polyline: per chain, the comment, travel to its first point, engage, draw to each further
  point (remembering it), disengage, an empty line; nothing without chains;
* an ellipse cannot be cut.

`Primitive.emit` runs those motions on a plotter state; an ellipse leaves the state as it was.
-/

namespace Toolpath

open Toolpath.Number

/-- The full-circle arc line of a circle at a feed rate. -/
def Circle.arcLine (circle : Circle) (feedrate : Float) : String :=
  "G3 I" ++ twoPlaces circle.radius ++ " J0 F" ++ twoPlaces feedrate

/-- The arc line of an arc at a feed rate: the end point, and the centre relative to the start
point. -/
def Arc.arcLine (arc : Arc) (feedrate : Float) : String :=
  let start := arc.findPoint 0.0
  let finish := arc.findPoint 1.0
  "G3 X" ++ twoPlaces finish.x ++ " Y" ++ twoPlaces finish.y ++
    " I" ++ twoPlaces (arc.center.x - start.x) ++ " J" ++ twoPlaces (arc.center.y - start.y) ++
    " F" ++ twoPlaces feedrate

/-- The motions that cut one chain of a polyline with the given label. -/
def Polyline.chainMotions (label : String) : List Point → List Motion
  | [] => []
  | first :: rest =>
    [.comment label, .travel first, .engage] ++
      rest.flatMap (fun point => [.draw point, .setLast point]) ++ [.disengage, .separator]

namespace Primitive

/-- The motions that cut a primitive at a feed rate; an ellipse cannot be cut. -/
def motions (feedrate : Float) : Primitive → Except GeometryError (List Motion)
  | .line shape =>
    .ok [.comment shape.label, .travel shape.start, .draw shape.finish, .separator]
  | .circle shape =>
    .ok [.comment shape.label, .travel shape.startingPoint, .engage,
      .raw (shape.arcLine feedrate), .disengage, .separator]
  | .arc shape =>
    .ok [.comment shape.label, .travel (shape.findPoint 0.0), .setLast (shape.findPoint 1.0),
      .engage, .raw (shape.arcLine feedrate), .disengage, .separator]
  | .ellipse shape => .error (.notImplemented shape.label "emit")
  | .polyline shape =>
    .ok (shape.chains.flatMap (Polyline.chainMotions shape.label))

/-- Cuts a primitive on a plotter state with the machine's feed rate. -/
def emit (machine : Machine) (primitive : Primitive) (state : Plotter) :
    Except GeometryError Plotter :=
  (primitive.motions machine.feedrate).map (Plotter.run machine state)

end Primitive

end Toolpath
