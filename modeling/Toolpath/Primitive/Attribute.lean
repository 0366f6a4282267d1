import Toolpath.Primitive.Basic

/-!
# Named attributes of primitives

Each kind of primitive answers a fixed set of attribute names: a line `start` and `end`, a circle
`center` and `radius`, an arc also `start_angle` and `end_angle`, an ellipse `center`, `major`,
`minor_to_major`, `start_param` and `end_param`, and a polyline `segments`, its number of chains.
Any other name gives the missing attribute, which reads as empty text and turns into an error
only when a value is required.
-/

namespace Toolpath

open Toolpath.Number

/-- The value of an attribute. -/
inductive AttributeValue where
  | point (point : Point)
  | scalar (value : Float)
  | count (count : Nat)
  deriving Inhabited

/-- The text of an attribute value: a point label, two places, or the count. -/
def AttributeValue.label : AttributeValue → String
  | .point location => location.label
  | .scalar value => twoPlaces value
  | .count amount => natText amount

/-- An attribute looked up by name: present with its value, or missing from the kind. -/
inductive Attribute where
  | present (value : AttributeValue)
  | missing (kind : PrimitiveKind) (name : String)
  deriving Inhabited

namespace Attribute

/-- Whether the attribute is missing. -/
def isMissing : Attribute → Bool
  | .missing .. => true
  | .present _ => false

/-- The text of the attribute; a missing one reads as empty text. -/
def label : Attribute → String
  | .present value => value.label
  | .missing .. => ""

/-- The value, a missing attribute turned into the error that names it. -/
def require : Attribute → Except GeometryError AttributeValue
  | .present value => .ok value
  | .missing kind name => .error (.missingAttribute kind name)

/-- The point value, if the attribute is a point. -/
def asPoint? : Attribute → Option Point
  | .present (.point location) => some location
  | _ => none

/-- The number value, if the attribute is a scalar. -/
def asScalar? : Attribute → Option Float
  | .present (.scalar value) => some value
  | _ => none

end Attribute

namespace Primitive

/-- The value of a named attribute, if the kind has it. -/
def attributeValue? : Primitive → String → Option AttributeValue
  | .line shape, "start" => some (.point shape.start)
  | .line shape, "end" => some (.point shape.finish)
  | .circle shape, "center" => some (.point shape.center)
  | .circle shape, "radius" => some (.scalar shape.radius)
  | .arc shape, "center" => some (.point shape.center)
  | .arc shape, "radius" => some (.scalar shape.radius)
  | .arc shape, "start_angle" => some (.scalar shape.startAngle)
  | .arc shape, "end_angle" => some (.scalar shape.endAngle)
  | .ellipse shape, "center" => some (.point shape.center)
  | .ellipse shape, "major" => some (.point shape.major)
  | .ellipse shape, "minor_to_major" => some (.scalar shape.ratio)
  | .ellipse shape, "start_param" => some (.scalar shape.startParameter)
  | .ellipse shape, "end_param" => some (.scalar shape.endParameter)
  | .polyline shape, "segments" => some (.count shape.chains.length)
  | _, _ => none

/-- The attribute of a given name: present, or missing from the primitive's kind. -/
def member (primitive : Primitive) (name : String) : Attribute :=
  match primitive.attributeValue? name with
  | some value => .present value
  | none => .missing primitive.kind name

end Primitive

end Toolpath
