import Toolpath.Toml.Value

/-!
# Building a TOML document

The reader hands over each key-value pair and each table header as it finishes reading it, and
the builder files it, refusing what TOML forbids:

* a key defined twice in one table;
* a dotted key that runs through something that is not a table, or that adds to a table
  defined by a header;
* a table header for a table that is already defined (a table only implied by a longer header
  may be defined once);
* an array-of-tables header for a key that holds something else.

The table under the latest header is kept apart while its pairs arrive and filed into the
document when the next header comes or the document ends. Key-value pairs before the first
header go to the document root.
-/

namespace Toolpath.Toml

/-- Why the builder refused an entry. -/
inductive BuildError where
  /-- A key defined twice; `table` is the header path when known (empty for the root). -/
  | duplicateKey (key : String) (table : Option (List String))
  /-- A dotted key ran through a value. -/
  | extendWrongType (path : List String) (actual : String)
  deriving Inhabited

/-- The message of a refusal. -/
def BuildError.message : BuildError → String
  | .duplicateKey key none => "duplicate key `" ++ key ++ "`"
  | .duplicateKey key (some []) => "duplicate key `" ++ key ++ "` in document root"
  | .duplicateKey key (some table) =>
    "duplicate key `" ++ key ++ "` in table `" ++ ".".intercalate table ++ "`"
  | .extendWrongType path actual =>
    "dotted key `" ++ ".".intercalate path ++ "` attempted to extend non-table type (" ++
      actual ++ ")"

/-- The complaint about the last key of a header path being defined already. -/
def duplicateAt (path : List Key) : BuildError :=
  .duplicateKey (path.getLast?.map Key.raw |>.getD "")
    (some ((path.dropLast).map Key.name))

/-- Runs `change` on the table at the end of `path` below `table`, creating implicit tables
(dotted ones when `dotted`) for missing keys and entering the last table of an array of tables;
`walked` holds the keys passed so far, for complaints. -/
def Table.alterAt (change : Table → Except BuildError (Table × α)) (dotted : Bool) :
    List Key → List Key → Table → Except BuildError (Table × α)
  | _, [], table => change table
  | walked, key :: rest, table =>
    let fresh := Table.empty true dotted
    match table.find? key.name with
    | none => do
      let (inner, result) ← Table.alterAt change dotted (walked ++ [key]) rest fresh
      return (table.put key (.table inner), result)
    | some (.table inner) => do
      let (inner, result) ← Table.alterAt change dotted (walked ++ [key]) rest inner
      return (table.put key (.table inner), result)
    | some (.tables list) =>
      match list.getLast? with
      | none => do
        let (inner, result) ← Table.alterAt change dotted (walked ++ [key]) rest fresh
        return (table.put key (.tables [inner]), result)
      | some last => do
        let (inner, result) ← Table.alterAt change dotted (walked ++ [key]) rest last
        return (table.put key (.tables (list.dropLast ++ [inner])), result)
    | some (.value held) =>
      .error (.extendWrongType ((walked ++ [key]).map Key.name) held.typeName)

/-- The state of the builder. -/
structure Builder where
  /-- The document filed so far. -/
  root : Table := Table.empty false false
  /-- The table under the latest header (the root before any header). -/
  current : Table := Table.empty true false
  /-- The path of the latest header. -/
  path : List Key := []
  /-- Whether the latest header names an array of tables. -/
  inArray : Bool := false
  deriving Inhabited

namespace Builder

/-- Files a key-value pair, whose key is `prefix` then `key`, into the current table. -/
def addPair (builder : Builder) (pre : List Key) (key : Key) (value : Value) :
    Except BuildError Builder := do
  let current := match builder.current.span?, value.span? with
    | some existing, some covered => builder.current.withSpan (some ⟨existing.start, covered.stop⟩)
    | _, _ => builder.current
  let headerPath := builder.path.map Key.name
  let (current, ()) ← current.alterAt (fun table =>
      if table.dotted == pre.isEmpty then .error (.duplicateKey key.name none)
      else
        match table.entries.find? (fun (other, _) => other.name == key.name) with
        | some (other, _) => .error (.duplicateKey other.name (some headerPath))
        | none => .ok (table.put key (.value value), ())) true [] pre
  return { builder with current }

/-- Files the current table into the document. -/
def finish (builder : Builder) : Except BuildError Builder := do
  let table := builder.current
  let path := builder.path
  match path.getLast? with
  | none => return { builder with root := table, current := Table.empty true false, path := [] }
  | some last =>
    let parents := path.dropLast
    let (root, ()) ← builder.root.alterAt (fun parent =>
        if builder.inArray then
          match parent.find? last.name with
          | none => .ok (parent.put last (.tables [table]), ())
          | some (.tables list) => .ok (parent.put last (.tables (list ++ [table])), ())
          | some _ => .error (duplicateAt path)
        else
          match parent.find? last.name with
          | none => .ok (parent.put last (.table table), ())
          | some (.table existing) =>
            if existing.implicit then .ok (parent.put last (.table table), ())
            else .error (duplicateAt path)
          | some _ => .error (duplicateAt path)) false [] parents
    return { builder with root, current := Table.empty true false, path := [] }

/-- Starts the table of a `[path]` header written over `span`. A table only implied so far
becomes the current table with its entries. -/
def startTable (builder : Builder) (path : List Key) (span : Span) : Except BuildError Builder := do
  let builder ← builder.finish
  match path.getLast? with
  | none => return builder
  | some last =>
    let (root, taken) ← builder.root.alterAt (fun parent =>
        match parent.find? last.name with
        | none => .ok (parent, none)
        | some (.table existing) =>
          if existing.implicit && !existing.dotted then .ok (parent.remove last.name, some existing)
          else .error (duplicateAt path)
        | some _ => .error (duplicateAt path)) false [] path.dropLast
    let current := (taken.getD (Table.empty false false))
    return { root, current := .mk current.entries false false (some span), path, inArray := false }

/-- Starts a table of a `[[path]]` header written over `span`. -/
def startArrayTable (builder : Builder) (path : List Key) (span : Span) :
    Except BuildError Builder := do
  let builder ← builder.finish
  match path.getLast? with
  | none => return builder
  | some last =>
    let (root, ()) ← builder.root.alterAt (fun parent =>
        match parent.find? last.name with
        | none => .ok (parent.put last (.tables []), ())
        | some (.tables _) => .ok (parent, ())
        | some _ => .error (duplicateAt path)) false [] path.dropLast
    return { root, current := .mk [] false false (some span), path, inArray := true }

end Builder

end Toolpath.Toml
