import Toolpath.Proofs.Program.Outcome

/-!
# The body is the cuts written one after another

Each primitive writes the same lines wherever it stands in the cutting order, those it writes on a
fresh plotter, with one exception: when the tool is still down, because the last primitive that
wrote anything was a line, its travel first writes the disengage block, right after its comment.
The tracked position never reaches a written line.

Main statements:
* `Primitive.codes_emit_eq_freshLines`: a cut from any plotter appends its fresh lines, with the
  disengage block after the first when the tool is down;
* `Program.body_eq_joinedCuts`: the body of a compiled program is the fresh lines of the
  primitives in cutting order, joined that way;
* `Program.body_is_cuts_joined_by_lifts`: both, as one statement.
-/

namespace Toolpath

namespace Machine

/-- Whether the tool is still down after cutting `before` from a fresh plotter: the last of them
that writes a line is a line. -/
def leftDown (machine : Machine) (before : List Primitive) : Bool :=
  match (before.filter fun primitive => !(primitive.freshLines machine).isEmpty).getLast? with
  | some (.line _) => true
  | _ => false

/-- The lines of `primitives` cut after `before`: each one's fresh lines, with the disengage block
inserted after the first when the tool is still down from the ones before it. -/
def joinedCuts (machine : Machine) (before : List Primitive) : List Primitive → List String
  | [] => []
  | primitive :: rest =>
    (if machine.leftDown before then machine.insertLift (primitive.freshLines machine)
      else primitive.freshLines machine) ++
      joinedCuts machine (before ++ [primitive]) rest

@[simp]
theorem leftDown_nil (machine : Machine) : machine.leftDown [] = false := rfl

/-- One more primitive leaves the tool down exactly when it is a line, unless it writes nothing. -/
theorem leftDown_append_singleton
    (machine : Machine) (before : List Primitive) (primitive : Primitive) :
    machine.leftDown (before ++ [primitive]) =
      if primitive.freshLines machine = [] then machine.leftDown before
      else decide (primitive.kind = .line) := by
  unfold leftDown
  by_cases silent : primitive.freshLines machine = []
  · simp [silent, List.filter_append]
  · cases primitive <;> simp [silent, List.filter_append, Primitive.kind]

end Machine

namespace Primitive

/-- A cut that writes nothing on a fresh plotter has no motions. -/
theorem freshLines_eq_nil_iff (machine : Machine) (primitive : Primitive) :
    primitive.freshLines machine = [] ↔ primitive.cutMotions machine.feedrate = [] := by
  rw [freshLines_eq_cutLines, cutLines_eq_nil_iff]

/-- The lines a cut writes from a plotter depend only on whether its tool is down. -/
theorem cutLines_eq_freshLines (machine : Machine) (engaged : Bool) (primitive : Primitive) :
    primitive.cutLines machine engaged =
      if engaged then machine.insertLift (primitive.freshLines machine)
      else primitive.freshLines machine := by
  rw [freshLines_eq_cutLines]
  cases engaged
  · rfl
  · exact cutLines_true machine primitive

/-- A cut from any plotter appends its fresh lines, with the disengage block after the first when
the tool is down; nothing else of the plotter shows in them. -/
theorem codes_emit_eq_freshLines
    {machine : Machine} {state after : Plotter} {primitive : Primitive}
    (cut : primitive.emit machine state = .ok after) :
    after.codes =
      state.codes ++
        if state.engaged then machine.insertLift (primitive.freshLines machine)
        else primitive.freshLines machine := by
  rw [codes_emit cut, cutLines_eq_freshLines]

end Primitive

/-- A cut after `before`, from the tool `before` left, leaves the tool as `before` and the cut
primitive leave it. -/
theorem engagedAfter_cutMotions_leftDown
    (machine : Machine) (before : List Primitive) (primitive : Primitive) :
    (primitive.cutMotions machine.feedrate).foldl Motion.engagedAfter (machine.leftDown before) =
      machine.leftDown (before ++ [primitive]) := by
  rw [Primitive.engagedAfter_cutMotions, Machine.leftDown_append_singleton]
  simp only [Primitive.freshLines_eq_nil_iff]

/-- Cuts after `before` leave the tool as `before` and the cut primitives leave it. -/
theorem engagedAfter_flatMap_cutMotions
    (machine : Machine) (before primitives : List Primitive) :
    (primitives.flatMap (Primitive.cutMotions machine.feedrate)).foldl Motion.engagedAfter
        (machine.leftDown before) =
      machine.leftDown (before ++ primitives) := by
  induction primitives generalizing before with
  | nil => simp
  | cons primitive rest induction =>
      rw [List.flatMap_cons, List.foldl_append, engagedAfter_cutMotions_leftDown, induction,
        List.append_assoc, List.singleton_append]

/-- Cutting primitives after `before`, with the tool as `before` left it, writes their joined
cuts. -/
theorem linesFrom_flatMap_cutMotions
    (machine : Machine) (before primitives : List Primitive) :
    Plotter.linesFrom machine (machine.leftDown before)
        (primitives.flatMap (Primitive.cutMotions machine.feedrate)) =
      machine.joinedCuts before primitives := by
  induction primitives generalizing before with
  | nil => rfl
  | cons primitive rest induction =>
      rw [List.flatMap_cons, Plotter.linesFrom_append, engagedAfter_cutMotions_leftDown machine,
        induction, Machine.joinedCuts]
      congr 1
      exact Primitive.cutLines_eq_freshLines machine _ primitive

namespace Program

/-- The body of a compiled program is the fresh lines of the primitives in cutting order, each
with the disengage block after its first line when the tool is still down from a line. -/
theorem body_eq_joinedCuts
    {config : Config} {primitives : List Primitive} {program : Program}
    (compiled : compile config primitives = .ok program) :
    program.body = config.machine.joinedCuts [] (config.cuttingOrder primitives) := by
  rw [body_compile compiled, ← linesFrom_flatMap_cutMotions]
  rfl

/--
Compositional emission. A cut from any plotter appends the lines it writes on a fresh plotter,
except that with the tool still down the disengage block follows the first of them; and the body of
every compiled program is the fresh lines of its primitives in cutting order joined that way, the
tool being down exactly when the last primitive that wrote a line was a line. The tracked position
never shows in a written line.
-/
theorem body_is_cuts_joined_by_lifts :
    (∀ (machine : Machine) (state after : Plotter) (primitive : Primitive),
      primitive.emit machine state = .ok after →
        after.codes =
          state.codes ++
            if state.engaged then machine.insertLift (primitive.freshLines machine)
            else primitive.freshLines machine) ∧
    ∀ (config : Config) (primitives : List Primitive) (program : Program),
      compile config primitives = .ok program →
        program.body = config.machine.joinedCuts [] (config.cuttingOrder primitives) :=
  ⟨fun _ _ _ _ cut => Primitive.codes_emit_eq_freshLines cut,
    fun _ _ _ compiled => body_eq_joinedCuts compiled⟩

/-- Two lines in a row: the second one, cut with the tool still down from the first, lifts it
right after its comment. -/
theorem two_lines_join_with_one_lift :
    ∃ after program,
      (Primitive.line ⟨⟨5, 5⟩, ⟨6, 5⟩⟩).emit {} { engaged := true } = .ok after ∧
      after.codes = ({} : Machine).insertLift ((Primitive.line ⟨⟨5, 5⟩, ⟨6, 5⟩⟩).freshLines {}) ∧
      compile {} [.line ⟨⟨0, 0⟩, ⟨1, 0⟩⟩, .line ⟨⟨5, 5⟩, ⟨6, 5⟩⟩] = .ok program ∧
      program.body =
        Machine.joinedCuts {} [] [.line ⟨⟨0, 0⟩, ⟨1, 0⟩⟩, .line ⟨⟨5, 5⟩, ⟨6, 5⟩⟩] :=
  ⟨_, _, rfl, by simpa using body_is_cuts_joined_by_lifts.1 {} { engaged := true } _ _ rfl, rfl,
    body_is_cuts_joined_by_lifts.2 {} _ _ rfl⟩

end Program

end Toolpath
