import Toolpath.Proofs.Motion.Cuts
import Toolpath.Proofs.Proximity.Tour
import Toolpath.Program.Compile

/-!
# What compiling produces

Compiling a valid configuration cuts the primitives in cutting order on one fresh plotter. When it
succeeds, the body is what the motions of the primitives that can be cut write from a fresh
plotter, so every later statement about the body is a statement about one list of motions.

Without skipping, compilation fails exactly when some primitive is an ellipse, at the first one:
ordering by proximity moves the placed primitives to the front and keeps the unplaced ones,
ellipses among them, in input order, so the position of the first ellipse in cutting order is the
number of placed primitives plus the unplaced ones before it.

Main statements:
* `Program.body_compile`: the body of a compiled program;
* `Program.compile_fails_exactly_at_first_ellipse`: when cutting and compiling fail, and where.
-/

namespace Toolpath

open scoped List

namespace Config

/-- The motions of a compilation: those of each primitive in cutting order that can be cut. -/
def cutMotions (config : Config) (primitives : List Primitive) : List Motion :=
  (config.cuttingOrder primitives).flatMap (Primitive.cutMotions config.machine.feedrate)

/-- The actions of a compilation, from a fresh plotter. -/
def cutActions (config : Config) (primitives : List Primitive) : List Action :=
  Motion.actionsFrom config.machine false (config.cutMotions primitives)

end Config

/-- The plotter after it is asked to cut a primitive: the cut, or the plotter as it was when the
cut fails. -/
def Plotter.cut (machine : Machine) (state : Plotter) (primitive : Primitive) : Plotter :=
  match primitive.emit machine state with
  | .ok after => after
  | .error _ => state

/-! ## Cutting in order -/

section Cutting

variable (config : Config)

/-- A primitive other than an ellipse is cut on the running plotter and counted as cut. -/
theorem cutAll_cons_of_ne_ellipse
    (index : Nat) (cutting : Cutting) {primitive : Primitive} (rest : List Primitive)
    (notEllipse : primitive.kind ≠ .ellipse) :
    cutAll config index cutting (primitive :: rest) =
      cutAll config (index + 1)
        { plotter := Plotter.run config.machine cutting.plotter
            (primitive.cutMotions config.machine.feedrate)
          emitted := cutting.emitted + 1
          skipped := cutting.skipped } rest := by
  rw [cutAll, Primitive.emit_eq_ok_iff.2 ⟨notEllipse, rfl⟩]

/-- Cutting primitives none of which is an ellipse succeeds and counts each one as cut. -/
theorem cutAll_of_forall_ne_ellipse
    (index : Nat) (cutting : Cutting) (primitives : List Primitive)
    (noEllipse : ∀ primitive ∈ primitives, primitive.kind ≠ .ellipse) :
    cutAll config index cutting primitives =
      .ok { plotter := Plotter.run config.machine cutting.plotter
              (primitives.flatMap (Primitive.cutMotions config.machine.feedrate))
            emitted := cutting.emitted + primitives.length
            skipped := cutting.skipped } := by
  induction primitives generalizing index cutting with
  | nil => rfl
  | cons primitive rest induction =>
      rw [cutAll_cons_of_ne_ellipse config index cutting rest (noEllipse primitive (by simp)),
        induction _ _ (fun other member => noEllipse other (by simp [member]))]
      simp only [List.flatMap_cons, Plotter.run_append, List.length_cons]
      congr 2
      omega

/-- Without skipping, cutting stops at the first ellipse, reporting its position. -/
theorem cutAll_at_first_ellipse
    (strict : config.output.skipUnsupported = false)
    (index : Nat) (cutting : Cutting) (before : List Primitive) (shape : Ellipse)
    (after : List Primitive)
    (noEllipse : ∀ primitive ∈ before, primitive.kind ≠ .ellipse) :
    cutAll config index cutting (before ++ .ellipse shape :: after) =
      .error (.primitive (index + before.length) shape.label
        (.notImplemented shape.label "emit")) := by
  induction before generalizing index cutting with
  | nil =>
      simp [cutAll, Primitive.emit, Primitive.motions, Except.map, GeometryError.isNotImplemented,
        strict, Primitive.label]
  | cons primitive rest induction =>
      rw [List.cons_append,
        cutAll_cons_of_ne_ellipse config index cutting _ (noEllipse primitive (by simp)),
        induction _ _ (fun other member => noEllipse other (by simp [member]))]
      simp only [List.length_cons]
      congr 2
      omega

/-- A finished cutting ran the motions of every primitive that could be cut. -/
theorem plotter_cutAll
    {index : Nat} {cutting result : Cutting} {primitives : List Primitive}
    (finished : cutAll config index cutting primitives = .ok result) :
    result.plotter = Plotter.run config.machine cutting.plotter
      (primitives.flatMap (Primitive.cutMotions config.machine.feedrate)) := by
  induction primitives generalizing index cutting with
  | nil =>
      cases finished
      rfl
  | cons primitive rest induction =>
      rw [cutAll] at finished
      split at finished
      · next after cut =>
          rw [induction finished, List.flatMap_cons, Plotter.run_append]
          obtain ⟨-, rfl⟩ := Primitive.emit_eq_ok_iff.1 cut
          rfl
      · next error cut =>
          obtain ⟨shape, rfl, -⟩ := Primitive.emit_eq_error_iff.1 cut
          split at finished
          · -- a skipped ellipse leaves the plotter and adds no motion
            have skipped := induction finished
            rw [List.flatMap_cons]
            exact skipped
          · cases finished

end Cutting

/-! ## The compiled program -/

namespace Program

variable {config : Config} {primitives : List Primitive} {program : Program}

/-- A valid configuration compiles to the frame around what cutting in order produces. -/
theorem compile_of_valid
    (valid : config.validate = .ok ()) :
    compile config primitives =
      (cutAll config 0 {} (config.cuttingOrder primitives)).map fun cutting =>
        { preamble := config.preamble
          body := cutting.plotter.codes
          postscript := config.postscript
          emitted := cutting.emitted
          skipped := cutting.skipped
          last := cutting.plotter.last } := by
  simp only [compile, valid]
  cases cutAll config 0 {} (config.cuttingOrder primitives) <;> rfl

theorem validate_of_compile
    (compiled : compile config primitives = .ok program) :
    config.validate = .ok () := by
  unfold compile at compiled
  split at compiled
  · cases compiled
  · assumption

/-- A compiled program has its cutting result in its frame. -/
theorem compile_eq_ok_iff :
    compile config primitives = .ok program ↔
      config.validate = .ok () ∧
        ∃ cutting, cutAll config 0 {} (config.cuttingOrder primitives) = .ok cutting ∧
          program =
            { preamble := config.preamble
              body := cutting.plotter.codes
              postscript := config.postscript
              emitted := cutting.emitted
              skipped := cutting.skipped
              last := cutting.plotter.last } := by
  constructor
  · intro compiled
    have valid := validate_of_compile compiled
    rw [compile_of_valid valid] at compiled
    cases finished : cutAll config 0 {} (config.cuttingOrder primitives) with
    | error error => simp [finished, Except.map] at compiled
    | ok cutting =>
        simp only [finished, Except.map, Except.ok.injEq] at compiled
        exact ⟨valid, cutting, rfl, compiled.symm⟩
  · rintro ⟨valid, cutting, finished, rfl⟩
    simp [compile_of_valid valid, finished, Except.map]

/-- The body of a compiled program is what the cut motions write on a fresh plotter. -/
theorem body_compile
    (compiled : compile config primitives = .ok program) :
    program.body = Plotter.linesFrom config.machine false (config.cutMotions primitives) := by
  obtain ⟨-, cutting, finished, rfl⟩ := compile_eq_ok_iff.1 compiled
  rw [plotter_cutAll config finished, Plotter.codes_run]
  rfl

/-- The body of a compiled program is the lines of its actions, in order. -/
theorem body_eq_cutActions
    (compiled : compile config primitives = .ok program) :
    program.body = (config.cutActions primitives).flatMap (Action.lines config.machine) := by
  obtain ⟨-, cutting, finished, rfl⟩ := compile_eq_ok_iff.1 compiled
  rw [plotter_cutAll config finished, Plotter.run_eq_performAll, Plotter.codes_performAll]
  rfl

theorem lines_compile
    (compiled : compile config primitives = .ok program) :
    program.lines = config.preamble ++ program.body ++ config.postscript := by
  obtain ⟨-, cutting, -, rfl⟩ := compile_eq_ok_iff.1 compiled
  rfl

end Program

/-! ## Compilation fails at the first ellipse -/

theorem Primitive.kind_eq_ellipse_iff (primitive : Primitive) :
    primitive.kind = .ellipse ↔ ∃ shape, primitive = .ellipse shape := by
  cases primitive <;> simp [Primitive.kind]

/-- A polyline its constructor accepts has no starting point exactly when it has no chains. -/
theorem Primitive.isPlaced_polyline_eq_false_iff
    {chains : List (List Point)} {polyline : Polyline}
    (made : Polyline.make? chains = .ok polyline) :
    (Primitive.polyline polyline).isPlaced = false ↔ polyline.chains = [] := by
  have long := Polyline.two_le_length_of_make made
  rcases polyline with ⟨_ | ⟨chain, rest⟩⟩
  · simp [Primitive.isPlaced, Primitive.startingPoint, Polyline.startingPoint?, Except.toBool]
  · have chainLong := long chain (by simp)
    rcases chain with _ | ⟨first, points⟩
    · simp at chainLong
    · simp [Primitive.isPlaced, Primitive.startingPoint, Polyline.startingPoint?, Except.toBool]

/-- A list with an ellipse splits at its first one. -/
theorem exists_first_ellipse
    {primitives : List Primitive} {shape : Ellipse}
    (member : Primitive.ellipse shape ∈ primitives) :
    ∃ before first after, primitives = before ++ Primitive.ellipse first :: after ∧
      ∀ primitive ∈ before, primitive.kind ≠ .ellipse := by
  induction primitives with
  | nil => simp at member
  | cons primitive rest induction =>
      by_cases isEllipse : primitive.kind = .ellipse
      · obtain ⟨first, rfl⟩ := (Primitive.kind_eq_ellipse_iff primitive).1 isEllipse
        exact ⟨[], first, rest, rfl, by simp⟩
      · have inRest : Primitive.ellipse shape ∈ rest := by
          rcases List.mem_cons.1 member with same | inRest
          · simp [← same, Primitive.kind] at isEllipse
          · exact inRest
        obtain ⟨before, first, after, split, noEllipse⟩ := induction inRest
        refine ⟨primitive :: before, first, after, by simp [split], ?_⟩
        intro other member
        rcases List.mem_cons.1 member with rfl | inBefore
        · exact isEllipse
        · exact noEllipse other inBefore

namespace Config

variable (config : Config)

/-- The cutting order is a permutation of the primitives. -/
theorem cuttingOrder_perm (primitives : List Primitive) :
    (config.cuttingOrder primitives).Perm primitives := by
  unfold cuttingOrder
  split
  · obtain ⟨placedOrder, order, placed⟩ :=
      orderByProximity_eq primitives (config.output.home.getD Point.origin)
    rw [order]
    exact (placed.append_right _).trans (List.filter_append_perm _ primitives)
  · exact .refl primitives

/-- In cutting order the first ellipse comes after the primitives before it in input order, or,
ordering by proximity, after every placed primitive and the unplaced ones before it. -/
theorem cuttingOrder_at_first_ellipse
    (before : List Primitive) (shape : Ellipse) (after : List Primitive)
    (noEllipse : ∀ primitive ∈ before, primitive.kind ≠ .ellipse) :
    ∃ front back,
      config.cuttingOrder (before ++ .ellipse shape :: after) =
          front ++ .ellipse shape :: back ∧
        (∀ primitive ∈ front, primitive.kind ≠ .ellipse) ∧
        front.length =
          if config.output.optimizeOrder then
            (before ++ .ellipse shape :: after).countP Primitive.isPlaced +
              before.countP (fun primitive => !primitive.isPlaced)
          else before.length := by
  unfold cuttingOrder
  split
  · obtain ⟨placedOrder, order, placed⟩ :=
      orderByProximity_eq (before ++ .ellipse shape :: after)
        (config.output.home.getD Point.origin)
    -- an ellipse has no starting point, so it stays among the unplaced primitives
    have unplaced :
        (before ++ Primitive.ellipse shape :: after).filter (fun primitive => !primitive.isPlaced) =
          before.filter (fun primitive => !primitive.isPlaced) ++
            Primitive.ellipse shape :: after.filter (fun primitive => !primitive.isPlaced) := by
      simp [List.filter_append, Primitive.isPlaced, Primitive.startingPoint, Except.toBool]
    refine ⟨placedOrder ++ before.filter (fun primitive => !primitive.isPlaced),
      after.filter (fun primitive => !primitive.isPlaced), ?_, ?_, ?_⟩
    · rw [order, unplaced, List.append_assoc]
    · intro primitive member
      rcases List.mem_append.1 member with inPlaced | inBefore
      · have isPlaced := (List.mem_filter.1 (placed.subset inPlaced)).2
        intro isEllipse
        obtain ⟨other, rfl⟩ := (Primitive.kind_eq_ellipse_iff primitive).1 isEllipse
        simp [Primitive.isPlaced, Primitive.startingPoint, Except.toBool] at isPlaced
      · exact noEllipse primitive (List.mem_filter.1 inBefore).1
    · rw [List.length_append, placed.length_eq, ← List.countP_eq_length_filter,
        ← List.countP_eq_length_filter]
  · exact ⟨before, after, rfl, noEllipse, rfl⟩

end Config

namespace Program

variable {config : Config}

/-- Without skipping, compilation stops at the first ellipse with the error of its cut, at its
position in cutting order. -/
theorem compile_at_first_ellipse
    (valid : config.validate = .ok ()) (strict : config.output.skipUnsupported = false)
    (before : List Primitive) (shape : Ellipse) (after : List Primitive)
    (noEllipse : ∀ primitive ∈ before, primitive.kind ≠ .ellipse) :
    compile config (before ++ .ellipse shape :: after) =
      .error (.primitive
        (if config.output.optimizeOrder then
          (before ++ .ellipse shape :: after).countP Primitive.isPlaced +
            before.countP (fun primitive => !primitive.isPlaced)
        else before.length)
        shape.label (.notImplemented shape.label "emit")) := by
  obtain ⟨front, back, order, frontClear, frontLength⟩ :=
    config.cuttingOrder_at_first_ellipse before shape after noEllipse
  rw [compile_of_valid valid, order,
    cutAll_at_first_ellipse config strict 0 {} front shape back frontClear, ← frontLength,
    Nat.zero_add]
  rfl

/-- Without an ellipse, compilation cuts every primitive and skips none. -/
theorem compile_of_forall_ne_ellipse
    (valid : config.validate = .ok ()) {primitives : List Primitive}
    (noEllipse : ∀ primitive ∈ primitives, primitive.kind ≠ .ellipse) :
    ∃ program, compile config primitives = .ok program ∧
      program.emitted = primitives.length ∧ program.skipped = 0 := by
  have orderClear : ∀ primitive ∈ config.cuttingOrder primitives, primitive.kind ≠ .ellipse :=
    fun primitive member =>
      noEllipse primitive ((config.cuttingOrder_perm primitives).subset member)
  rw [compile_of_valid valid, cutAll_of_forall_ne_ellipse config 0 {} _ orderClear]
  refine ⟨_, rfl, ?_, rfl⟩
  simp [(config.cuttingOrder_perm primitives).length_eq]

/-- Without skipping, compilation fails exactly when some primitive is an ellipse. -/
theorem compile_eq_error_iff_ellipse_mem
    (valid : config.validate = .ok ()) (strict : config.output.skipUnsupported = false)
    (primitives : List Primitive) :
    (∃ error, compile config primitives = .error error) ↔
      ∃ shape, Primitive.ellipse shape ∈ primitives := by
  constructor
  · rintro ⟨error, failed⟩
    by_contra noShape
    have noEllipse : ∀ primitive ∈ primitives, primitive.kind ≠ .ellipse := by
      intro primitive member isEllipse
      obtain ⟨shape, rfl⟩ := (Primitive.kind_eq_ellipse_iff primitive).1 isEllipse
      exact noShape ⟨shape, member⟩
    obtain ⟨program, compiled, -⟩ := compile_of_forall_ne_ellipse valid noEllipse
    rw [compiled] at failed
    cases failed
  · rintro ⟨shape, member⟩
    obtain ⟨before, first, after, rfl, noEllipse⟩ := exists_first_ellipse member
    exact ⟨_, compile_at_first_ellipse valid strict before first after noEllipse⟩

/--
Cutting fails exactly for an ellipse, on any plotter, with an emit that is not implemented, and a
failed cut leaves the plotter as it was. Compiling a valid configuration without skipping fails
exactly when some primitive is an ellipse: at the first one, reported at its position in cutting
order (its input position, or, ordering by proximity, the number of placed primitives plus the
unplaced ones before it) with the error of its cut. Otherwise every primitive is cut and none is
skipped.

Before the first ellipse the unplaced primitives are the polylines without a first point; for a
polyline its constructor accepts, those are the polylines without chains
(`Primitive.isPlaced_polyline_eq_false_iff`).
-/
theorem compile_fails_exactly_at_first_ellipse :
    (∀ (machine : Machine) (state : Plotter) (primitive : Primitive) (error : GeometryError),
        (primitive.emit machine state = .error error ↔
          ∃ shape, primitive = .ellipse shape ∧ error = .notImplemented shape.label "emit") ∧
        (primitive.emit machine state = .error error → state.cut machine primitive = state)) ∧
      ∀ (config : Config) (primitives : List Primitive),
        config.validate = .ok () → config.output.skipUnsupported = false →
          ((∃ error, compile config primitives = .error error) ↔
              ∃ shape, Primitive.ellipse shape ∈ primitives) ∧
          (∀ before shape after,
              primitives = before ++ Primitive.ellipse shape :: after →
              (∀ primitive ∈ before, primitive.kind ≠ .ellipse) →
              compile config primitives =
                .error (.primitive
                  (if config.output.optimizeOrder then
                    primitives.countP Primitive.isPlaced +
                      before.countP (fun primitive => !primitive.isPlaced)
                  else before.length)
                  shape.label (.notImplemented shape.label "emit"))) ∧
          ((∀ primitive ∈ primitives, primitive.kind ≠ .ellipse) →
              ∃ program, compile config primitives = .ok program ∧
                program.emitted = primitives.length ∧ program.skipped = 0) := by
  refine ⟨fun machine state primitive error => ⟨Primitive.emit_eq_error_iff, ?_⟩, ?_⟩
  · intro failed
    simp [Plotter.cut, failed]
  intro config primitives valid strict
  refine ⟨compile_eq_error_iff_ellipse_mem valid strict primitives, ?_,
    compile_of_forall_ne_ellipse valid⟩
  rintro before shape after rfl noEllipse
  exact compile_at_first_ellipse valid strict before shape after noEllipse

/-- Ordering by proximity, the ellipse after a polyline without chains is third in cutting order:
the line, the one placed primitive, goes first. -/
theorem compile_fails_after_placed_and_unplaced :
    compile { output := { optimizeOrder := true } }
        [.polyline ⟨[]⟩, .ellipse ⟨⟨0, 0⟩, ⟨2, 0⟩, 0.5, 0, 1⟩, .line ⟨⟨0, 0⟩, ⟨3, 4⟩⟩] =
      .error (.primitive 2 (Ellipse.label ⟨⟨0, 0⟩, ⟨2, 0⟩, 0.5, 0, 1⟩)
        (.notImplemented (Ellipse.label ⟨⟨0, 0⟩, ⟨2, 0⟩, 0.5, 0, 1⟩) "emit")) :=
  (compile_fails_exactly_at_first_ellipse.2 { output := { optimizeOrder := true } }
      [.polyline ⟨[]⟩, .ellipse ⟨⟨0, 0⟩, ⟨2, 0⟩, 0.5, 0, 1⟩, .line ⟨⟨0, 0⟩, ⟨3, 4⟩⟩]
      (by rfl) rfl).2.1 [.polyline ⟨[]⟩] _ [.line ⟨⟨0, 0⟩, ⟨3, 4⟩⟩] rfl
    (by simp [Primitive.kind])

end Program

end Toolpath
