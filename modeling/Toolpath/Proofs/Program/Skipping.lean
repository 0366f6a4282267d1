import Toolpath.Proofs.Program.Outcome

/-!
# Skipping unsupported primitives is removing them

When the configuration skips unsupported primitives, an ellipse, the one primitive whose cut is
not implemented, is counted as skipped and passed over. Its cut fails before it touches the
plotter, so the plotter goes on as if the ellipse had not been there. An ellipse has no starting
point either, so ordering by proximity places it among the primitives without one, and removing
it before ordering removes it from the order and changes nothing else.

Compiling with skipping therefore always succeeds and gives the body, the last position and the
count of cut primitives of compiling the primitives with every ellipse removed; the ellipses are
the skipped ones.

Main statements:
* `cutAll_of_skipping`: with skipping, cutting runs the motions of every primitive, counting the
  ellipses as skipped and the others as cut;
* `Config.cuttingOrder_filter_isEllipse`: removing the ellipses commutes with the cutting order;
* `Program.skipping_unsupported_is_removing_them`: compiling with skipping is compiling without
  the ellipses.
-/

namespace Toolpath

namespace Primitive

/-- Whether a primitive is an ellipse, the one primitive whose cut is not implemented. -/
def isEllipse : Primitive → Bool
  | .ellipse _ => true
  | _ => false

theorem isEllipse_eq_true_iff {primitive : Primitive} :
    primitive.isEllipse = true ↔ ∃ shape, primitive = .ellipse shape := by
  cases primitive <;> simp [isEllipse]

theorem isEllipse_eq_false_iff {primitive : Primitive} :
    primitive.isEllipse = false ↔ primitive.kind ≠ .ellipse := by
  cases primitive <;> simp [isEllipse, kind]

@[simp]
theorem cutMotions_ellipse (feedrate : Float) (shape : Ellipse) :
    (Primitive.ellipse shape).cutMotions feedrate = [] := rfl

/-- A primitive with a starting point is not an ellipse. -/
theorem isEllipse_of_isPlaced {primitive : Primitive} (placed : primitive.isPlaced = true) :
    primitive.isEllipse = false := by
  cases primitive <;> simp_all [isEllipse, isPlaced, startingPoint, Except.toBool]

/-- Removing the ellipses removes no motion: an ellipse has none. -/
theorem flatMap_cutMotions_filter_isEllipse (feedrate : Float) (primitives : List Primitive) :
    (primitives.filter (fun primitive => !primitive.isEllipse)).flatMap (cutMotions feedrate) =
      primitives.flatMap (cutMotions feedrate) := by
  induction primitives with
  | nil => rfl
  | cons primitive rest induction =>
      cases tested : primitive.isEllipse with
      | true =>
          obtain ⟨shape, rfl⟩ := isEllipse_eq_true_iff.1 tested
          simp [tested, induction]
      | false => simp [tested, induction]

end Primitive

/-! ## Cutting with skipping -/

section Cutting

variable {config : Config}

/-- With skipping, an ellipse is counted as skipped and leaves the plotter as it was. -/
theorem cutAll_cons_ellipse_of_skipping (skipping : config.output.skipUnsupported = true)
    (index : Nat) (cutting : Cutting) (shape : Ellipse) (rest : List Primitive) :
    cutAll config index cutting (.ellipse shape :: rest) =
      cutAll config (index + 1) { cutting with skipped := cutting.skipped + 1 } rest := by
  simp [cutAll, Primitive.emit, Primitive.motions, Except.map, GeometryError.isNotImplemented,
    skipping]

/-- With skipping, cutting always succeeds: it runs the motions of every primitive in order,
counts the ellipses as skipped and the other primitives as cut. -/
theorem cutAll_of_skipping (skipping : config.output.skipUnsupported = true)
    (index : Nat) (cutting : Cutting) (primitives : List Primitive) :
    cutAll config index cutting primitives =
      .ok { plotter := Plotter.run config.machine cutting.plotter
              (primitives.flatMap (Primitive.cutMotions config.machine.feedrate))
            emitted := cutting.emitted + primitives.countP (fun primitive => !primitive.isEllipse)
            skipped := cutting.skipped + primitives.countP Primitive.isEllipse } := by
  induction primitives generalizing index cutting with
  | nil => rfl
  | cons primitive rest induction =>
      cases tested : primitive.isEllipse with
      | true =>
          obtain ⟨shape, rfl⟩ := Primitive.isEllipse_eq_true_iff.1 tested
          rw [cutAll_cons_ellipse_of_skipping skipping, induction]
          simp [tested]
          omega
      | false =>
          rw [cutAll_cons_of_ne_ellipse config index cutting rest
            (Primitive.isEllipse_eq_false_iff.1 tested), induction]
          simp [tested, Plotter.run_append]
          omega

end Cutting

namespace Config

variable (config : Config)

/-- Removing the ellipses before ordering removes them from the cutting order and changes
nothing else. -/
theorem cuttingOrder_filter_isEllipse (primitives : List Primitive) :
    config.cuttingOrder (primitives.filter (fun primitive => !primitive.isEllipse)) =
      (config.cuttingOrder primitives).filter (fun primitive => !primitive.isEllipse) := by
  unfold cuttingOrder
  split
  · exact orderByProximity_filter _
      (fun _ placed => by simp [Primitive.isEllipse_of_isPlaced placed]) primitives _
  · rfl

end Config

namespace Program

variable {config : Config}

/-- Compiling with skipping succeeds on every list of primitives. Its body, last position and
count of cut primitives are those of compiling the same primitives with every ellipse removed;
the ellipses are the skipped primitives, so every primitive is either cut or skipped. -/
theorem skipping_unsupported_is_removing_them
    (valid : config.validate = .ok ()) (skipping : config.output.skipUnsupported = true)
    (primitives : List Primitive) :
    ∃ program kept,
      compile config primitives = .ok program ∧
        compile config (primitives.filter (fun primitive => !primitive.isEllipse)) = .ok kept ∧
        program.body = kept.body ∧ program.last = kept.last ∧
        program.emitted = kept.emitted ∧
        program.skipped = primitives.countP Primitive.isEllipse ∧
        program.emitted + program.skipped = primitives.length := by
  have order := config.cuttingOrder_perm primitives
  rw [compile_of_valid valid, compile_of_valid valid, cutAll_of_skipping skipping,
    cutAll_of_skipping skipping, Config.cuttingOrder_filter_isEllipse]
  refine ⟨_, _, rfl, rfl, ?_, ?_, ?_, ?_, ?_⟩
  · simp only [Primitive.flatMap_cutMotions_filter_isEllipse]
  · simp only [Primitive.flatMap_cutMotions_filter_isEllipse]
  · simp [List.countP_filter]
  · simp [order.countP_eq]
  · have split : primitives.length = _ :=
      List.length_eq_countP_add_countP Primitive.isEllipse
    simp only [Nat.zero_add, order.countP_eq, Bool.not_eq_true, Bool.decide_eq_false] at split ⊢
    omega

/-- Ordering by proximity with skipping, an ellipse before a line and a polyline without chains
is skipped: the program is the one for the line and the polyline alone. -/
theorem skipped_ellipse_leaves_the_rest_as_cut :
    ∃ program kept,
      compile { output := { optimizeOrder := true, skipUnsupported := true } }
          [.ellipse ⟨⟨0, 0⟩, ⟨2, 0⟩, 0.5, 0, 1⟩, .line ⟨⟨0, 0⟩, ⟨3, 4⟩⟩, .polyline ⟨[]⟩] =
          .ok program ∧
        compile { output := { optimizeOrder := true, skipUnsupported := true } }
          [.line ⟨⟨0, 0⟩, ⟨3, 4⟩⟩, .polyline ⟨[]⟩] = .ok kept ∧
        program.body = kept.body ∧ program.emitted = 2 ∧ program.skipped = 1 := by
  obtain ⟨program, kept, compiled, compiledKept, body, -, -, skipped, total⟩ :=
    @skipping_unsupported_is_removing_them { output := { optimizeOrder := true, skipUnsupported := true } }
      (by rfl) rfl
      [.ellipse ⟨⟨0, 0⟩, ⟨2, 0⟩, 0.5, 0, 1⟩, .line ⟨⟨0, 0⟩, ⟨3, 4⟩⟩, .polyline ⟨[]⟩]
  refine ⟨program, kept, compiled, compiledKept, body, ?_, skipped⟩
  simpa [skipped, List.countP_cons, Primitive.isEllipse] using total

end Program

end Toolpath
