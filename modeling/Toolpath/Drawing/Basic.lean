import Toolpath.Geometry.Point

/-!
# Drawings

A drawing as an exchange file holds it: the entities of its model, then its block definitions,
each a name and entities of its own, all in file order. An entity keeps the fields the importer
reads; kinds of entity the importer does not convert keep only their type name. Heights (the
third coordinate) are not kept: nothing here uses them.
-/

namespace Toolpath

/-- An entity of a drawing. -/
inductive DrawingEntity where
  /-- A line between two points. -/
  | line (first second : Point)
  /-- A circle. -/
  | circle (center : Point) (radius : Float)
  /-- An arc, counter-clockwise from `startDegrees` to `endDegrees`. -/
  | arc (center : Point) (radius startDegrees endDegrees : Float)
  /-- An ellipse with the vector to the end of its major axis. -/
  | ellipse (center major : Point) (ratio startParameter endParameter : Float)
  /-- A light-weight polyline; bit 0 of the flags marks it closed. -/
  | lightPolyline (vertices : List Point) (flags : Int)
  /-- A polyline with vertex entities; bit 0 of the flags marks it closed. -/
  | polyline (vertices : List Point) (flags : Int)
  /-- A vertex standing on its own, outside any polyline. -/
  | vertex (location : Point)
  /-- An insertion of a block, with whether its flag says attributes follow it. -/
  | insertion (attributesFollow : Bool)
  /-- Any other kind of entity, by its type name. -/
  | other (typeName : String)
  deriving Inhabited

/-- Whether an entity is a vertex. -/
def DrawingEntity.isVertex : DrawingEntity → Bool
  | .vertex _ => true
  | _ => false

/-- Whether an entity is of a type kept by name, with that name. -/
def DrawingEntity.isNamed (entity : DrawingEntity) (name : String) : Bool :=
  match entity with
  | .other typeName => typeName == name
  | _ => false

/-- The location of a vertex, the origin for any other entity. -/
def DrawingEntity.location : DrawingEntity → Point
  | .vertex location => location
  | _ => Point.origin

/-- A block definition. -/
structure Block where
  name : String
  entities : List DrawingEntity
  deriving Inhabited

/-- A drawing: model entities, then block definitions. -/
structure Drawing where
  entities : List DrawingEntity := []
  blocks : List Block := []
  deriving Inhabited

end Toolpath
