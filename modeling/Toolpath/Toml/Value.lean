/-!
# TOML documents

A TOML document as the reader builds it: keys with the text they were written as, values with
the stretch of text they came from, and tables that hold keys in the order they were first
defined. A table knows whether it was only implied by a longer header or a dotted key
(`implicit`), and whether a dotted key made it (`dotted`); the rules about defining a table
twice depend on both. A table named by a header covers the header and, once values are added,
the text up to its last value.
-/

namespace Toolpath.Toml

/-- A stretch of the text as byte offsets: `start` included, `stop` excluded. -/
structure Span where
  start : Nat
  stop : Nat
  deriving Inhabited, BEq

/-- A key: its name, the text it was written as, and where it stands. -/
structure Key where
  name : String
  raw : String
  span : Span
  deriving Inhabited

/-- A value of a key-value pair or of an array. Dates and times keep their text. -/
inductive Value where
  | string (text : String) (span : Span)
  | integer (value : Int) (span : Span)
  | float (value : Float) (span : Span)
  | boolean (value : Bool) (span : Span)
  | datetime (text : String) (span : Span)
  | array (items : List Value) (span : Span)
  /-- An inline table; one made by a dotted key inside another has no text of its own. -/
  | inlineTable (entries : List (Key × Value)) (dotted : Bool) (span : Option Span)
  deriving Inhabited

namespace Value

/-- Where a value stands. -/
def span? : Value → Option Span
  | .string _ span | .integer _ span | .float _ span | .boolean _ span | .datetime _ span => some span
  | .array _ span => some span
  | .inlineTable _ _ span => span

/-- The name of the type of a value, as complaints give it. -/
def typeName : Value → String
  | .string .. => "string"
  | .integer .. => "integer"
  | .float .. => "float"
  | .boolean .. => "boolean"
  | .datetime .. => "datetime"
  | .array .. => "array"
  | .inlineTable .. => "inline table"

end Value

mutual

/-- What a key of a table holds: a value, a table, or an array of tables. -/
inductive Item where
  | value (value : Value)
  | table (table : Table)
  | tables (tables : List Table)
  deriving Inhabited

/-- A table: its entries in order of definition, whether it is only implied, whether a dotted
key made it, and where it stands. -/
inductive Table where
  | mk (entries : List (Key × Item)) (implicit : Bool) (dotted : Bool) (span : Option Span)
  deriving Inhabited

end

namespace Table

/-- An empty table. -/
def empty (implicit dotted : Bool) : Table :=
  .mk [] implicit dotted none

/-- The entries of a table. -/
def entries : Table → List (Key × Item)
  | .mk entries .. => entries

/-- Whether a table is only implied. -/
def implicit : Table → Bool
  | .mk _ implicit .. => implicit

/-- Whether a dotted key made a table. -/
def dotted : Table → Bool
  | .mk _ _ dotted _ => dotted

/-- Where a table stands. -/
def span? : Table → Option Span
  | .mk _ _ _ span => span

/-- A table with other entries. -/
def withEntries (table : Table) (entries : List (Key × Item)) : Table :=
  .mk entries table.implicit table.dotted table.span?

/-- A table with another span. -/
def withSpan (table : Table) (span : Option Span) : Table :=
  .mk table.entries table.implicit table.dotted span

/-- The item under a key name. -/
def find? (table : Table) (name : String) : Option Item :=
  (table.entries.find? fun (key, _) => key.name == name).map Prod.snd

/-- The table without the entry of a key name. -/
def remove (table : Table) (name : String) : Table :=
  table.withEntries (table.entries.filter fun (key, _) => key.name != name)

/-- The table with the item under a key name replaced in place, or added at the end. -/
def put (table : Table) (key : Key) (item : Item) : Table :=
  if table.entries.any (fun (other, _) => other.name == key.name) then
    table.withEntries (table.entries.map fun (other, old) =>
      if other.name == key.name then (other, item) else (other, old))
  else table.withEntries (table.entries ++ [(key, item)])

end Table

/-- Where an item stands: an array of tables covers its first to its last table. -/
def Item.span? : Item → Option Span
  | .value held => held.span?
  | .table inner => inner.span?
  | .tables list =>
    match list.head?.bind Table.span?, list.getLast?.bind Table.span? with
    | some first, some last => some ⟨first.start, last.stop⟩
    | _, _ => none

/-- The name of the type of an item, as complaints give it. -/
def Item.typeName : Item → String
  | .value held => held.typeName
  | .table _ => "table"
  | .tables _ => "array of tables"

end Toolpath.Toml
