/-!
# Kinds of primitives and their errors

The five kinds of drawing primitive, and the four ways an operation on one can fail: an
attribute the kind does not have, a polyline without chains, an operation the kind does not
implement, and geometry refused by a constructor or a distance without a starting point. Each
error has one message.
-/

namespace Toolpath

/-- The kind of a drawing primitive. -/
inductive PrimitiveKind where
  | line
  | circle
  | arc
  | ellipse
  | polyline
  deriving Repr, BEq, DecidableEq, Inhabited

/-- The name of a kind, as messages and answers spell it. -/
def PrimitiveKind.name : PrimitiveKind → String
  | .line => "Line"
  | .circle => "Circle"
  | .arc => "Arc"
  | .ellipse => "Ellipse"
  | .polyline => "PolyLine"

/-- Why an operation on a primitive failed. -/
inductive GeometryError where
  /-- The kind has no attribute of that name. -/
  | missingAttribute (kind : PrimitiveKind) (name : String)
  /-- A polyline without chains has no geometry to start from. -/
  | noGeometry (primitive : String)
  /-- The kind does not implement the operation. -/
  | notImplemented (primitive : String) (operation : String)
  /-- A constructor refused the geometry, or a distance had no starting point. -/
  | invalidGeometry (reason : String)
  deriving Repr, BEq, Inhabited

namespace GeometryError

/-- The message of an error. -/
def message : GeometryError → String
  | .missingAttribute kind name => "No member \"" ++ name ++ "\" contained in " ++ kind.name
  | .noGeometry primitive => "No geometry: " ++ primitive
  | .notImplemented primitive operation => operation ++ " not implemented for " ++ primitive
  | .invalidGeometry reason => "Invalid geometry: " ++ reason

/-- The name of the kind of error. -/
def kindName : GeometryError → String
  | .missingAttribute .. => "MissingAttribute"
  | .noGeometry .. => "NoGeometry"
  | .notImplemented .. => "NotImplemented"
  | .invalidGeometry .. => "InvalidGeometry"

/-- Whether the error says an operation is not implemented. -/
def isNotImplemented : GeometryError → Bool
  | .notImplemented .. => true
  | _ => false

end GeometryError

end Toolpath
