import Toolpath.Proofs.Program.Outcome

/-!
# The tool is up for every rapid move and down for every cut

A caller drives the plotter with requests: any motion except a raw line, or cutting a primitive.
Along any list of requests served from a fresh plotter, the tool is down exactly when the last
engage or disengage call (counting those travel, draw and the cuts make themselves) was an engage
call, every rapid line is written with the tool up and every cutting line (`G1`, `G3`) with it
down.

The same holds of the text of a compiled program, for a reader who only sees its lines and
switches the tool at the engage and disengage words: provided the words can be told apart from
each other and from the other lines of the preamble and the body, every rapid line, the travel
home included, is read with the tool off and every cutting line with it on.

Main statements:
* `Request.engaged_serve` and `Request.safeFrom_trace`: the tool along any requests;
* `Program.readsSafely_lines`: reading a compiled program;
* `Program.tool_state_safety`: all of it, as one statement.
-/

namespace Toolpath

/-! ## Requests to the plotter -/

/-- What a caller may ask of the plotter: any motion except a raw line, or cutting a primitive. -/
inductive Request where
  | move (motion : Motion) (notRaw : ∀ line, motion ≠ .raw line)
  | cut (primitive : Primitive)

namespace Request

/-- The actions a request performs on a plotter. -/
def actions (machine : Machine) (state : Plotter) : Request → List Action
  | .move motion _ => motion.actions machine state.engaged
  | .cut primitive =>
    Motion.actionsFrom machine state.engaged (primitive.cutMotions machine.feedrate)

/-- The plotter after a request; a cut that fails leaves it as it was. -/
def apply (machine : Machine) (state : Plotter) : Request → Plotter
  | .move motion _ => state.step machine motion
  | .cut primitive => state.cut machine primitive

/-- The actions of requests served in order from a plotter. -/
def trace (machine : Machine) : Plotter → List Request → List Action
  | _, [] => []
  | state, request :: rest =>
    request.actions machine state ++ trace machine (request.apply machine state) rest

/-- Serving a request performs its actions. -/
theorem apply_eq_performAll (machine : Machine) (state : Plotter) (request : Request) :
    request.apply machine state =
      Plotter.performAll machine state (request.actions machine state) := by
  cases request with
  | move motion notRaw => exact Plotter.step_eq_performAll machine state motion
  | cut primitive =>
      show state.cut machine primitive =
        Plotter.performAll machine state
          (Motion.actionsFrom machine state.engaged (primitive.cutMotions machine.feedrate))
      unfold Plotter.cut
      split
      · next after cut =>
          obtain ⟨-, rfl⟩ := Primitive.emit_eq_ok_iff.1 cut
          exact Plotter.run_eq_performAll machine state _
      · next error cut =>
          obtain ⟨shape, rfl, -⟩ := Primitive.emit_eq_error_iff.1 cut
          rfl

theorem engaged_apply (machine : Machine) (state : Plotter) (request : Request) :
    (request.apply machine state).engaged =
      (request.actions machine state).foldl Action.engagedAfter state.engaged := by
  rw [apply_eq_performAll, Plotter.engaged_performAll]

/-- Every request writes its rapid lines with the tool up and its cutting lines with it down. -/
theorem safeFrom_actions (machine : Machine) (state : Plotter) (request : Request) :
    Action.SafeFrom state.engaged (request.actions machine state) := by
  cases request with
  | move motion notRaw => exact Motion.safeFrom_actions machine state.engaged motion notRaw
  | cut primitive => exact Primitive.safeFrom_cut machine primitive state.engaged

/-- The plotter after requests served in order. -/
def serve (machine : Machine) (state : Plotter) (requests : List Request) : Plotter :=
  requests.foldl (apply machine) state

theorem serve_eq_performAll (machine : Machine) (state : Plotter) (requests : List Request) :
    serve machine state requests =
      Plotter.performAll machine state (trace machine state requests) := by
  induction requests generalizing state with
  | nil => rfl
  | cons request rest induction =>
      change serve machine (request.apply machine state) rest = _
      rw [induction, trace, Plotter.performAll_append, ← apply_eq_performAll]

/-- After any requests the tool is down exactly when the last call was an engage call, and as it
was when there was none. -/
theorem engaged_serve (machine : Machine) (state : Plotter) (requests : List Request) :
    (serve machine state requests).engaged =
      (Action.toolCalls (trace machine state requests)).getLastD state.engaged := by
  rw [serve_eq_performAll, Plotter.engaged_performAll, Action.engagedAfter_foldl]

/-- Along any requests every rapid line is written with the tool up and every cutting line with
it down: each request is safe from the tool the ones before it left. -/
theorem safeFrom_trace (machine : Machine) (state : Plotter) (requests : List Request) :
    Action.SafeFrom state.engaged (trace machine state requests) := by
  induction requests generalizing state with
  | nil => trivial
  | cons request rest induction =>
      rw [trace, Action.SafeFrom.append_iff, ← engaged_apply]
      exact ⟨safeFrom_actions machine state request, induction _⟩

end Request

/-! ## Reading a program's lines -/

/-- A line that is no move is safe with either tool. -/
theorem safeLine_of_not_move
    {line : String} (notRapid : isRapidLine line = false) (notCutting : isCuttingLine line = false)
    (engaged : Bool) :
    SafeLine engaged line :=
  ⟨fun rapid => absurd rapid (by simp [notRapid]),
    fun cutting => absurd cutting (by simp [notCutting])⟩

namespace Machine

variable (machine : Machine)

/-- The tool as a reader of program lines sees it after a line: the engage word lowers it, the
disengage word raises it, and any other line leaves it as it was. -/
def toolAfterLine (engaged : Bool) (line : String) : Bool :=
  if line = machine.toolOn then true else if line = machine.toolOff then false else engaged

/-- Read from a tool state, every line other than the two words is safe with the tool as the
lines before it left it. -/
def ReadsSafely : Bool → List String → Prop
  | _, [] => True
  | engaged, line :: rest =>
    (line ≠ machine.toolOn → line ≠ machine.toolOff → SafeLine engaged line) ∧
      ReadsSafely (machine.toolAfterLine engaged line) rest

/-- The engage and disengage words differ from each other and from every given line. -/
def WordsApart (lines : List String) : Prop :=
  machine.toolOn ≠ machine.toolOff ∧
    ∀ line ∈ lines, line ≠ machine.toolOn ∧ line ≠ machine.toolOff

instance (lines : List String) : Decidable (machine.WordsApart lines) :=
  inferInstanceAs (Decidable (_ ∧ _))

@[simp]
theorem toolAfterLine_toolOn (engaged : Bool) :
    machine.toolAfterLine engaged machine.toolOn = true := by
  simp [toolAfterLine]

theorem toolAfterLine_toolOff
    (apart : machine.toolOn ≠ machine.toolOff) (engaged : Bool) :
    machine.toolAfterLine engaged machine.toolOff = false := by
  simp [toolAfterLine, Ne.symm apart]

/-- A call's word leaves a reader with the tool the call leaves. -/
theorem toolAfterLine_word
    (apart : machine.toolOn ≠ machine.toolOff) (engaged engage : Bool) :
    machine.toolAfterLine engaged (machine.word engage) = engage := by
  cases engage with
  | true => exact machine.toolAfterLine_toolOn engaged
  | false => exact machine.toolAfterLine_toolOff apart engaged

theorem toolAfterLine_of_ne
    {line : String} (notOn : line ≠ machine.toolOn) (notOff : line ≠ machine.toolOff)
    (engaged : Bool) :
    machine.toolAfterLine engaged line = engaged := by
  simp [toolAfterLine, notOn, notOff]

@[simp]
theorem readsSafely_nil (engaged : Bool) : machine.ReadsSafely engaged [] := trivial

@[simp]
theorem readsSafely_cons (engaged : Bool) (line : String) (rest : List String) :
    machine.ReadsSafely engaged (line :: rest) ↔
      (line ≠ machine.toolOn → line ≠ machine.toolOff → SafeLine engaged line) ∧
        machine.ReadsSafely (machine.toolAfterLine engaged line) rest :=
  Iff.rfl

theorem ReadsSafely.append_iff
    {machine : Machine} {engaged : Bool} {first second : List String} :
    machine.ReadsSafely engaged (first ++ second) ↔
      machine.ReadsSafely engaged first ∧
        machine.ReadsSafely (first.foldl machine.toolAfterLine engaged) second := by
  induction first generalizing engaged with
  | nil => simp
  | cons line rest induction =>
      simp [induction, and_assoc]

/-- Lines other than the words leave the tool to a reader as it was. -/
theorem foldl_toolAfterLine_of_plain
    {lines : List String}
    (plain : ∀ line ∈ lines, line ≠ machine.toolOn ∧ line ≠ machine.toolOff)
    (engaged : Bool) :
    lines.foldl machine.toolAfterLine engaged = engaged := by
  induction lines with
  | nil => rfl
  | cons line rest induction =>
      obtain ⟨notOn, notOff⟩ := plain line (List.mem_cons_self ..)
      rw [List.foldl_cons, toolAfterLine_of_ne machine notOn notOff]
      exact induction fun other member => plain other (List.mem_cons_of_mem _ member)

/-- Lines that are no moves are read safely whatever the tool. -/
theorem readsSafely_of_still
    {lines : List String}
    (still : ∀ line ∈ lines, isRapidLine line = false ∧ isCuttingLine line = false)
    (engaged : Bool) :
    machine.ReadsSafely engaged lines := by
  induction lines generalizing engaged with
  | nil => trivial
  | cons line rest induction =>
      obtain ⟨notRapid, notCutting⟩ := still line (List.mem_cons_self ..)
      refine ⟨fun _ _ => safeLine_of_not_move notRapid notCutting engaged, ?_⟩
      exact induction (fun other member => still other (List.mem_cons_of_mem _ member)) _

/-- The lines of one action, none of whose plain lines is a word, are read safely when the action
is safe, and leave the reader with the tool the action leaves. -/
theorem readsSafely_lines_of_safeAt
    (apart : machine.toolOn ≠ machine.toolOff) {engaged : Bool} {action : Action}
    (plain : ∀ line ∈ action.plainLines machine, line ≠ machine.toolOn ∧ line ≠ machine.toolOff)
    (safe : action.SafeAt engaged) :
    machine.ReadsSafely engaged (action.lines machine) ∧
      (action.lines machine).foldl machine.toolAfterLine engaged = action.engagedAfter engaged := by
  cases action with
  | tool engage =>
      -- the word switches the reader's tool, and the dwell after it is neither word nor move
      have still : ∀ line ∈ dwell (machine.delay engage), _ := fun _ member =>
        not_move_of_mem_dwell member
      have isWord :
          ¬(machine.word engage ≠ machine.toolOn ∧ machine.word engage ≠ machine.toolOff) := by
        cases engage <;> simp [Machine.word]
      refine ⟨⟨fun notOn notOff => absurd ⟨notOn, notOff⟩ isWord,
        readsSafely_of_still machine still _⟩, ?_⟩
      rw [Action.lines, List.foldl_cons, toolAfterLine_word machine apart]
      exact foldl_toolAfterLine_of_plain machine plain engage
  | write line =>
      obtain ⟨notOn, notOff⟩ := plain line (List.mem_singleton_self line)
      exact ⟨⟨fun _ _ => safe, trivial⟩, toolAfterLine_of_ne machine notOn notOff engaged⟩
  | place point => exact ⟨trivial, rfl⟩

/-- Reading the lines of safe actions whose plain lines are no words, the reader's tool follows
the actions' tool, so every line is read safely. -/
theorem readsSafely_flatMap_lines
    (apart : machine.toolOn ≠ machine.toolOff) {engaged : Bool} {actions : List Action}
    (plain : ∀ line ∈ actions.flatMap (Action.plainLines machine),
      line ≠ machine.toolOn ∧ line ≠ machine.toolOff)
    (safe : Action.SafeFrom engaged actions) :
    machine.ReadsSafely engaged (actions.flatMap (Action.lines machine)) ∧
      (actions.flatMap (Action.lines machine)).foldl machine.toolAfterLine engaged =
        actions.foldl Action.engagedAfter engaged := by
  induction actions generalizing engaged with
  | nil => exact ⟨trivial, rfl⟩
  | cons action rest induction =>
      simp only [List.flatMap_cons, List.forall_mem_append] at plain
      obtain ⟨first, following⟩ := readsSafely_lines_of_safeAt machine apart plain.1 safe.1
      obtain ⟨restSafe, restTool⟩ := induction plain.2 safe.2
      rw [List.flatMap_cons, ReadsSafely.append_iff, List.foldl_append, following]
      exact ⟨⟨first, restSafe⟩, restTool⟩

end Machine

/-- Cuts one after the other write their rapid lines with the tool up and their cutting lines
with it down, from either tool state. -/
theorem Primitive.safeFrom_cuts
    (machine : Machine) (engaged : Bool) (primitives : List Primitive) :
    Action.SafeFrom engaged
      (Motion.actionsFrom machine engaged
        (primitives.flatMap (Primitive.cutMotions machine.feedrate))) :=
  Primitive.cuts_of_cut machine Action.SafeFrom (fun _ => trivial)
    (fun _ _ _ first second => Action.SafeFrom.append_iff.2 ⟨first, second⟩)
    (fun primitive _ => Primitive.safeFrom_cut machine primitive) engaged

namespace Config

variable (config : Config)

/-- The preamble holds no move. -/
theorem not_move_of_mem_preamble :
    ∀ line ∈ config.preamble, isRapidLine line = false ∧ isCuttingLine line = false := by
  intro line member
  simp only [preamble, List.mem_cons, List.not_mem_nil, or_false] at member
  rcases member with rfl | rfl | rfl | rfl
  · decide
  · cases config.output.units <;> decide
  · decide
  · decide

/-- The postscript is read safely from either tool: its disengage word comes before the travel
home. -/
theorem readsSafely_postscript
    (apart : config.machine.toolOn ≠ config.machine.toolOff) (engaged : Bool) :
    config.machine.ReadsSafely engaged config.postscript := by
  have ending : ∀ engaged, config.machine.ReadsSafely engaged ["M2"] :=
    config.machine.readsSafely_of_still (by decide)
  simp only [postscript, List.cons_append, List.nil_append, Machine.readsSafely_cons,
    config.machine.toolAfterLine_toolOff apart]
  refine ⟨fun _ _ => safeLine_of_not_move (by decide) (by decide) _,
    fun _ _ => safeLine_of_not_move (by decide) (by decide) _,
    fun _ notOff => absurd rfl notOff, ?_⟩
  split
  · next home =>
      exact ⟨fun _ _ => ⟨fun _ => rfl, by simp [isCuttingLine]⟩, ending _⟩
  · exact ending false

end Config

namespace Program

variable {config : Config} {primitives : List Primitive} {program : Program}

/-- A compiled program is read safely from the top with the tool up, when its words can be told
apart from each other and from the other lines of its preamble and body. -/
theorem readsSafely_lines
    (compiled : compile config primitives = .ok program)
    (apart : config.machine.WordsApart
      (config.preamble ++
        (config.cutActions primitives).flatMap (Action.plainLines config.machine))) :
    config.machine.ReadsSafely false program.lines := by
  obtain ⟨different, plain⟩ := apart
  rw [List.forall_mem_append] at plain
  obtain ⟨plainPreamble, plainBody⟩ := plain
  -- the preamble leaves the reader's tool up, and from there it follows the body's actions
  have body := config.machine.readsSafely_flatMap_lines different plainBody
    (Primitive.safeFrom_cuts config.machine false (config.cuttingOrder primitives))
  rw [lines_compile compiled, body_eq_cutActions compiled, Machine.ReadsSafely.append_iff,
    Machine.ReadsSafely.append_iff, config.machine.foldl_toolAfterLine_of_plain plainPreamble]
  exact ⟨⟨config.machine.readsSafely_of_still config.not_move_of_mem_preamble false, body.1⟩,
    config.readsSafely_postscript different _⟩

/-- Along any requests the tool is down exactly when the last engage or disengage call was an
engage call, every rapid line is written with it up and every cutting line with it down; and a
compiled program whose words stand apart, read from the top with the tool switched at its words,
has every rapid line read with the tool up and every cutting line with it down. -/
theorem tool_state_safety :
    (∀ (machine : Machine) (state : Plotter) (requests : List Request),
      Request.serve machine state requests =
          Plotter.performAll machine state (Request.trace machine state requests) ∧
        (Request.serve machine state requests).engaged =
          (Action.toolCalls (Request.trace machine state requests)).getLastD state.engaged ∧
        Action.SafeFrom state.engaged (Request.trace machine state requests)) ∧
    ∀ (config : Config) (primitives : List Primitive) (program : Program),
      compile config primitives = .ok program →
      config.machine.WordsApart
        (config.preamble ++
          (config.cutActions primitives).flatMap (Action.plainLines config.machine)) →
      config.machine.ReadsSafely false program.lines := by
  refine ⟨fun machine state requests => ?_, fun config primitives program compiled apart => ?_⟩
  · exact ⟨Request.serve_eq_performAll machine state requests,
      Request.engaged_serve machine state requests, Request.safeFrom_trace machine state requests⟩
  · exact readsSafely_lines compiled apart

/-- A circle and then a line, with dwells: the line leaves the tool down for the postscript to
raise before the end. -/
theorem circle_then_line_reads_safely :
    ∃ program,
      compile { machine := { onDelay := 200, offDelay := 100 } }
          [.circle ⟨⟨5, 5⟩, 1⟩, .line ⟨⟨0, 0⟩, ⟨3, 4⟩⟩] = .ok program ∧
        Machine.WordsApart { onDelay := 200, offDelay := 100 }
          (Config.preamble { machine := { onDelay := 200, offDelay := 100 } } ++
            (Config.cutActions { machine := { onDelay := 200, offDelay := 100 } }
                [.circle ⟨⟨5, 5⟩, 1⟩, .line ⟨⟨0, 0⟩, ⟨3, 4⟩⟩]).flatMap
              (Action.plainLines { onDelay := 200, offDelay := 100 })) ∧
        Machine.ReadsSafely { onDelay := 200, offDelay := 100 } false program.lines :=
  ⟨_, rfl, by decide,
    tool_state_safety.2 { machine := { onDelay := 200, offDelay := 100 } }
      [.circle ⟨⟨5, 5⟩, 1⟩, .line ⟨⟨0, 0⟩, ⟨3, 4⟩⟩] _ rfl (by decide)⟩

end Program

end Toolpath
