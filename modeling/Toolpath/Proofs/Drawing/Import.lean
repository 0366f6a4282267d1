import Mathlib.Data.Int.Bitwise
import Toolpath.Drawing.Import
import Toolpath.Proofs.Motion.Cuts

/-!
# What importing a drawing keeps and what it counts

An import reads the entities of the drawing's model, then, when blocks are included, the entities
of every block definition in order. Each entity read either converts to a primitive, which is kept
in reading order, or is counted as skipped: a kind with no primitive, or geometry its primitive's
constructor refuses. So every entity read is kept or counted, never both and never neither.

A polyline entity converts to a polyline of one chain: its vertices, with the first one added at
the end when bit 0 of its flags marks it closed and its last vertex differs from the first. A
closed polyline that imports therefore ends at a point equal to its first, since the constructor
lets only finite points through and a finite coordinate equals itself.

Main statements:
* `ImportReport.foldl_add`: adding entities to a report keeps their conversions in order and
  counts the others;
* `DrawingEntity.converted?_eq_primitive?`: every entity converts as the rules of its kind say,
  a polyline's chain stated with bit 0 of its flags;
* `DrawingEntity.polylineChain_returns`: a closed chain ends at a point equal to its first;
* `Drawing.import_keeps_order_and_counts_the_rest`: the whole import.
-/

namespace Toolpath

open Float.Model (UnpackedFloat)

/-! ## Finite coordinates equal themselves -/

/-- A finite value equals itself; only not-a-number does not. -/
theorem Float.beq_self_of_isFinite {value : Float} (finite : value.isFinite = true) :
    (value == value) = true := by
  change value.toModel.unpack.isFinite = true at finite
  change (value.toModel.unpack.compare value.toModel.unpack == some .eq) = true
  generalize value.toModel.unpack = unpacked at finite ⊢
  cases unpacked with
  | zero sign => rfl
  | finite sign mantissa exponent _ =>
      cases sign <;> simp [UnpackedFloat.compare, Ordering.then]
  | infinity sign => cases finite
  | notANumber => cases finite

theorem Point.beq_self_of_isFinite {point : Point} (finite : point.isFinite = true) :
    (point == point) = true := by
  simp only [Point.isFinite, Bool.and_eq_true] at finite
  show (point.x == point.x && point.y == point.y) = true
  rw [Float.beq_self_of_isFinite finite.1, Float.beq_self_of_isFinite finite.2]
  rfl

/-! ## The entities an import reads -/

/-- The entities an import reads: the model's, then those of each block definition in order when
blocks are included. -/
def Drawing.processed (drawing : Drawing) (withBlocks : Bool) : List DrawingEntity :=
  drawing.entities ++ if withBlocks then drawing.blocks.flatMap Block.entities else []

/-- The primitive an entity converts to, none for a kind without one or geometry its constructor
refuses. -/
def DrawingEntity.converted? (entity : DrawingEntity) : Option Primitive :=
  match entity.convert with
  | some (.ok primitive) => some primitive
  | _ => none

namespace ImportReport

/-- Adding an entity keeps its conversion or counts it as skipped. -/
theorem add_eq (report : ImportReport) (entity : DrawingEntity) :
    report.add entity =
      match entity.converted? with
      | some primitive => { report with primitives := report.primitives ++ [primitive] }
      | none => { report with skipped := report.skipped + 1 } := by
  unfold add DrawingEntity.converted?
  rcases entity.convert with _ | _ | _ <;> rfl

/-- Adding entities in order appends their conversions in order and counts the entities that do
not convert. -/
theorem foldl_add (entities : List DrawingEntity) (report : ImportReport) :
    entities.foldl add report =
      { primitives := report.primitives ++ entities.filterMap DrawingEntity.converted?,
        skipped := report.skipped + entities.countP fun entity => entity.converted?.isNone } := by
  induction entities generalizing report with
  | nil => simp
  | cons entity rest induction =>
      rw [List.foldl_cons, induction, add_eq]
      cases converted : entity.converted? <;>
        simp [converted, Nat.add_assoc, Nat.add_comm 1]

end ImportReport

theorem Drawing.importWith_eq (drawing : Drawing) (withBlocks : Bool) :
    drawing.importWith withBlocks =
      { primitives := (drawing.processed withBlocks).filterMap DrawingEntity.converted?,
        skipped := (drawing.processed withBlocks).countP fun entity =>
          entity.converted?.isNone } := by
  rw [importWith, ImportReport.foldl_add]
  simp [processed]

/-- Every entity read is kept or counted: an entity that does not convert is one the filter of
conversions drops. -/
theorem length_filterMap_add_countP (entities : List DrawingEntity) :
    (entities.filterMap DrawingEntity.converted?).length +
        entities.countP (fun entity => entity.converted?.isNone) = entities.length := by
  induction entities with
  | nil => rfl
  | cons entity rest induction =>
      cases converted : entity.converted? <;>
        simp [converted, ← induction] <;> omega

/-! ## Polylines -/

/-- Bit 0 of the flags, read as the remainder of a division by two: a negative value keeps its
lowest bit as in two's complement. -/
theorem closedFlag_eq_testBit (flags : Int) : closedFlag flags = flags.testBit 0 := by
  rw [← Int.bit_decomp flags, Int.testBit_bit_zero, closedFlag, Int.bit_val]
  cases Int.bodd flags <;> simp

/-- The chain of a polyline: its vertices, with the first added at the end when the polyline is
closed and its first and last vertex differ. -/
theorem closedChain_eq (vertices : List Point) (closed : Bool) :
    closedChain vertices closed =
      if closed && !(vertices.head? == vertices.getLast?) then vertices ++ vertices.take 1
      else vertices := by
  cases vertices with
  | nil => simp [closedChain]
  | cons first rest =>
      simp only [closedChain, List.head?_cons, List.getLast?_cons, Option.some_beq_some,
        List.take_succ_cons, List.take_zero]

namespace DrawingEntity

/-- A polyline entity, light or with vertex entities. -/
def IsPolyline (entity : DrawingEntity) (vertices : List Point) (flags : Int) : Prop :=
  entity = .lightPolyline vertices flags ∨ entity = .polyline vertices flags

/-- The chain a polyline entity converts to: its vertices, followed by the first one exactly when
bit 0 of its flags is set and the first vertex differs from the last. -/
def polylineChain (vertices : List Point) (flags : Int) : List Point :=
  if flags.testBit 0 && !(vertices.head? == vertices.getLast?) then vertices ++ vertices.take 1
  else vertices

theorem closedChain_closedFlag (vertices : List Point) (flags : Int) :
    closedChain vertices (closedFlag flags) = polylineChain vertices flags := by
  rw [polylineChain, closedFlag_eq_testBit, closedChain_eq]

/-- What an entity converts to, kind by kind: a line to the line between its two points; a
circle, an arc with its angles turned counter-clockwise in radians, and an ellipse to what their
constructors make of their fields; a polyline of either kind to the polyline its constructor makes
of the one chain `polylineChain`; every other kind to nothing. -/
def primitive? : DrawingEntity → Option Primitive
  | .line first second => some (.line ⟨first, second⟩)
  | .circle center radius => (Circle.make? center radius).toOption.map .circle
  | .arc center radius startDegrees endDegrees =>
    (Arc.make? center radius (counterClockwiseSweep startDegrees endDegrees).1
      (counterClockwiseSweep startDegrees endDegrees).2).toOption.map .arc
  | .ellipse center major ratio startParameter endParameter =>
    (Ellipse.make? center major ratio startParameter endParameter).toOption.map .ellipse
  | .lightPolyline vertices flags | .polyline vertices flags =>
    (Polyline.make? [polylineChain vertices flags]).toOption.map .polyline
  | .vertex _ | .insertion _ | .other _ => none

/-- The importer converts every entity as `primitive?` says. -/
theorem converted?_eq_primitive? (entity : DrawingEntity) : entity.converted? = entity.primitive? := by
  -- the constructor's outcome decides both sides; a polyline's chain is rewritten first
  cases entity with
  | circle center radius =>
      simp only [converted?, convert, primitive?]
      cases Circle.make? center radius <;> rfl
  | arc center radius startDegrees endDegrees =>
      rcases sweep : counterClockwiseSweep startDegrees endDegrees with ⟨start, finish⟩
      simp only [converted?, convert, primitive?, sweep]
      cases Arc.make? center radius start finish <;> rfl
  | ellipse center major ratio startParameter endParameter =>
      simp only [converted?, convert, primitive?]
      cases Ellipse.make? center major ratio startParameter endParameter <;> rfl
  | lightPolyline vertices flags | polyline vertices flags =>
      simp only [converted?, convert, primitive?, closedChain_closedFlag]
      cases Polyline.make? [polylineChain vertices flags] <;> rfl
  | line | vertex | insertion | other => rfl

/-- A polyline entity converts to a polyline of one chain, of two finite points at least. -/
theorem polyline_chain {entity : DrawingEntity} {vertices : List Point} {flags : Int}
    (polyline : entity.IsPolyline vertices flags) {primitive : Primitive}
    (converts : entity.converted? = some primitive) :
    primitive = .polyline ⟨[polylineChain vertices flags]⟩ ∧
      2 ≤ (polylineChain vertices flags).length ∧
      ∀ point ∈ polylineChain vertices flags, point.isFinite = true := by
  have spec : entity.primitive? =
      (Polyline.make? [polylineChain vertices flags]).toOption.map .polyline := by
    rcases polyline with rfl | rfl <;> rfl
  rw [converted?_eq_primitive?, spec] at converts
  cases made : Polyline.make? [polylineChain vertices flags] with
  | error error => simp [made, Except.toOption] at converts
  | ok polyline =>
      simp only [made, Except.toOption, Option.map_some, Option.some.injEq] at converts
      have long := Polyline.two_le_length_of_make made
      obtain ⟨rfl, finite⟩ := Polyline.eq_of_make made
      exact ⟨converts.symm, long _ List.mem_cons_self, finite _ List.mem_cons_self⟩

/-- The chain of a closed polyline of finite points ends at a point equal to its first vertex:
the first vertex added, or a last vertex equal to it already. -/
theorem polylineChain_returns {vertices : List Point} {flags : Int}
    (closed : flags.testBit 0 = true) (long : 2 ≤ (polylineChain vertices flags).length)
    (finite : ∀ point ∈ polylineChain vertices flags, point.isFinite = true) :
    (vertices.head? == (polylineChain vertices flags).getLast?) = true := by
  unfold polylineChain at long finite ⊢
  by_cases appended : (flags.testBit 0 && !(vertices.head? == vertices.getLast?)) = true
  · rw [if_pos appended] at long finite ⊢
    cases vertices with
    | nil => simp at long
    | cons first rest =>
        simp only [List.head?_cons, List.take_succ_cons, List.take_zero, List.getLast?_append,
          List.getLast?_singleton]
        exact Point.beq_self_of_isFinite (finite first (by simp))
  · rw [if_neg appended]
    simpa [closed] using appended

end DrawingEntity

/--
DXF import is an order-preserving, fully accounted mapping. For every drawing and either choice
about blocks, the import keeps the conversions of the entities it reads (the model's, then those
of each block definition in order when blocks are included) in reading order, counts as skipped
the entities that do not convert, and so keeps or counts every entity read. Each entity converts as
`primitive?` says: a line to its line, a circle, an arc and an ellipse through their constructors,
an arc with its angles turned counter-clockwise, and a polyline of either kind to a polyline of one
chain, its vertices followed by the first one exactly when bit 0 of its flags is set and the first
vertex differs from the last; so a closed polyline that imports ends at a point equal to its first
vertex.
-/
theorem Drawing.import_keeps_order_and_counts_the_rest (drawing : Drawing) (withBlocks : Bool) :
    (drawing.importWith withBlocks).primitives =
        (drawing.processed withBlocks).filterMap DrawingEntity.converted? ∧
      (drawing.importWith withBlocks).skipped =
        (drawing.processed withBlocks).countP (fun entity => entity.converted?.isNone) ∧
      (drawing.importWith withBlocks).primitives.length + (drawing.importWith withBlocks).skipped =
        (drawing.processed withBlocks).length ∧
      (∀ entity : DrawingEntity, entity.converted? = entity.primitive?) ∧
      ∀ (entity : DrawingEntity) (vertices : List Point) (flags : Int) (primitive : Primitive),
        entity.IsPolyline vertices flags → entity.converted? = some primitive →
          flags.testBit 0 = true →
            (vertices.head? == (DrawingEntity.polylineChain vertices flags).getLast?) = true := by
  rw [drawing.importWith_eq withBlocks]
  refine ⟨rfl, rfl, length_filterMap_add_countP _, DrawingEntity.converted?_eq_primitive?, ?_⟩
  intro entity vertices flags primitive polyline converts closed
  obtain ⟨-, long, finite⟩ := DrawingEntity.polyline_chain polyline converts
  exact DrawingEntity.polylineChain_returns closed long finite

/-- A closed light polyline of three vertices imports as a chain that returns to its first
vertex. -/
theorem Drawing.closed_corner_imports_returning_to_its_first_vertex :
    (DrawingEntity.lightPolyline [⟨0, 0⟩, ⟨1, 0⟩, ⟨1, 1⟩] 1).IsPolyline
        [⟨0, 0⟩, ⟨1, 0⟩, ⟨1, 1⟩] 1 ∧
      (DrawingEntity.lightPolyline [⟨0, 0⟩, ⟨1, 0⟩, ⟨1, 1⟩] 1).converted? =
        some (.polyline ⟨[[⟨0, 0⟩, ⟨1, 0⟩, ⟨1, 1⟩, ⟨0, 0⟩]]⟩) ∧
      Int.testBit 1 0 = true ∧
      (some ⟨0, 0⟩ ==
        (DrawingEntity.polylineChain [⟨0, 0⟩, ⟨1, 0⟩, ⟨1, 1⟩] 1).getLast?) = true := by
  have polyline : (DrawingEntity.lightPolyline [⟨0, 0⟩, ⟨1, 0⟩, ⟨1, 1⟩] 1).IsPolyline
      [⟨0, 0⟩, ⟨1, 0⟩, ⟨1, 1⟩] 1 := .inl rfl
  have converts : (DrawingEntity.lightPolyline [⟨0, 0⟩, ⟨1, 0⟩, ⟨1, 1⟩] 1).converted? =
      some (.polyline ⟨[[⟨0, 0⟩, ⟨1, 0⟩, ⟨1, 1⟩, ⟨0, 0⟩]]⟩) := rfl
  have closed : Int.testBit 1 0 = true := rfl
  exact ⟨polyline, converts, closed,
    (Drawing.import_keeps_order_and_counts_the_rest {} false).2.2.2.2 _ _ _ _ polyline converts
      closed⟩

end Toolpath
