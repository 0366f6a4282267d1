import Toolpath.Number.Text

/-!
# Points of the drawing plane

A point is a pair of binary64 coordinates. Its label has two places per coordinate, and the
distance between two points is the Euclidean one computed in binary64 arithmetic, the differences
taken from the first point to the second.
-/

namespace Toolpath

open Toolpath.Number

/-- A point of the drawing plane. -/
structure Point where
  x : Float
  y : Float
  deriving Inhabited

namespace Point

/-- The origin of the plane. -/
def origin : Point := ⟨0.0, 0.0⟩

/-- Coordinates compared as numbers: `-0.0` equals `0.0`, and a not-a-number coordinate makes a
point unequal to every point, itself included. -/
instance : BEq Point where
  beq first second := first.x == second.x && first.y == second.y

/-- Whether both coordinates are finite. -/
def isFinite (point : Point) : Bool :=
  point.x.isFinite && point.y.isFinite

/-- The Euclidean distance from `point` to `other`, computed as
`sqrt (dx * dx + dy * dy)` with `dx = other.x - point.x` and `dy = other.y - point.y`. -/
def distanceTo (point other : Point) : Float :=
  let dx := other.x - point.x
  let dy := other.y - point.y
  (dx * dx + dy * dy).sqrt

/-- The label `[x, y]` with two places per coordinate. -/
def label (point : Point) : String :=
  "[" ++ twoPlaces point.x ++ ", " ++ twoPlaces point.y ++ "]"

/-- Whether two points have the same coordinates bit for bit, which tells `-0.0` from `0.0` and
matches a not-a-number coordinate with the same one. -/
def sameBits (point other : Point) : Bool :=
  point.x.toBits == other.x.toBits && point.y.toBits == other.y.toBits

end Point

end Toolpath
