import Mathlib
import Toolpath.Motion.Emit

/-!
# The plotter one action at a time

A motion is carried out by the plotter's routines: travel runs the disengage routine first when
the tool is down, draw runs the engage routine first when it is up, and each then writes its line
and moves the position. This module names those routines as actions (an engage or disengage
call, a written line, a new position), gives each motion its list of actions, and proves that
performing the actions is the plotter step.

From the actions two views are read: the sequence of engage and disengage calls, and the state
of the tool at the moment each line is written. The main statements are

* `Plotter.step_eq_performAll` and `Plotter.run_eq_performAll`: a step, and a run, are the
  performance of their actions;
* `Action.engagedAfter_foldl`: after any actions the tool is down exactly when the last call was
  an engage call, and as before when there was no call;
* `Action.SafeFrom.append_iff` and `Action.Toggles.append_iff`: the two properties of action
  lists used for tool safety follow the list piece by piece.
-/

namespace Toolpath

namespace Machine

/-- The word of an engage (`true`) or disengage (`false`) call. -/
def word (machine : Machine) : Bool → String
  | true => machine.toolOn
  | false => machine.toolOff

/-- The dwell, in milliseconds, after an engage (`true`) or disengage (`false`) call. -/
def delay (machine : Machine) : Bool → UInt32
  | true => machine.onDelay
  | false => machine.offDelay

end Machine

/-- One thing the plotter does: call its engage (`true`) or disengage (`false`) routine, write one
line, or set its position. -/
inductive Action where
  | tool (engage : Bool)
  | write (line : String)
  | place (point : Point)

namespace Action

/-- The lines an action writes: a routine writes its tool word and its dwell. -/
def lines (machine : Machine) : Action → List String
  | .tool engage => machine.word engage :: Machine.dwell (machine.delay engage)
  | .write line => [line]
  | .place _ => []

/-- The lines an action writes other than a tool word. -/
def plainLines (machine : Machine) : Action → List String
  | .tool engage => Machine.dwell (machine.delay engage)
  | .write line => [line]
  | .place _ => []

/-- Whether the tool is down after an action. -/
def engagedAfter (engaged : Bool) : Action → Bool
  | .tool engage => engage
  | _ => engaged

/-- The position after an action. -/
def lastAfter (last : Option Point) : Action → Option Point
  | .place point => some point
  | _ => last

/-- The routine an action calls, if it is a call. -/
def call? : Action → Option Bool
  | .tool engage => some engage
  | _ => none

/-- The engage (`true`) and disengage (`false`) calls among actions, in order. -/
def toolCalls (actions : List Action) : List Bool :=
  actions.filterMap call?

@[simp]
theorem toolCalls_nil : toolCalls [] = [] := rfl

@[simp]
theorem toolCalls_cons (action : Action) (rest : List Action) :
    toolCalls (action :: rest) = action.call?.toList ++ toolCalls rest := by
  cases action <;> rfl

@[simp]
theorem toolCalls_append (first second : List Action) :
    toolCalls (first ++ second) = toolCalls first ++ toolCalls second := by
  simp [toolCalls]

/--
After any actions the tool is down exactly when the last call among them was an engage call;
without a call it is as it was.
-/
theorem engagedAfter_foldl
    (engaged : Bool) (actions : List Action) :
    actions.foldl engagedAfter engaged = (toolCalls actions).getLastD engaged := by
  induction actions generalizing engaged with
  | nil => rfl
  | cons action rest induction =>
      rw [List.foldl_cons, induction, toolCalls_cons]
      cases action with
      | tool engage =>
          simp [engagedAfter, call?, List.getLastD_eq_getLast?, List.getLast?_cons]
      | write line => rfl
      | place point => rfl

end Action

namespace Plotter

/-- The state after one action. -/
def perform (machine : Machine) (state : Plotter) (action : Action) : Plotter where
  codes := state.codes ++ action.lines machine
  last := action.lastAfter state.last
  engaged := action.engagedAfter state.engaged

/-- The state after actions, in order. -/
def performAll (machine : Machine) (state : Plotter) (actions : List Action) : Plotter :=
  actions.foldl (perform machine) state

@[simp]
theorem performAll_nil (machine : Machine) (state : Plotter) :
    performAll machine state [] = state := rfl

theorem performAll_append
    (machine : Machine) (state : Plotter) (first second : List Action) :
    performAll machine state (first ++ second) =
      performAll machine (performAll machine state first) second := by
  simp [performAll, List.foldl_append]

/-- Performing actions appends their lines. -/
theorem codes_performAll
    (machine : Machine) (state : Plotter) (actions : List Action) :
    (performAll machine state actions).codes =
      state.codes ++ actions.flatMap (Action.lines machine) := by
  induction actions generalizing state with
  | nil => simp
  | cons action rest induction =>
      simp [performAll, List.foldl_cons] at induction ⊢
      rw [induction]
      simp [perform]

/-- Performing actions leaves the tool as the last call among them set it. -/
theorem engaged_performAll
    (machine : Machine) (state : Plotter) (actions : List Action) :
    (performAll machine state actions).engaged =
      actions.foldl Action.engagedAfter state.engaged := by
  induction actions generalizing state with
  | nil => rfl
  | cons action rest induction =>
      exact induction (perform machine state action)

end Plotter

namespace Motion

/-- The actions of a motion, given whether the tool is down before it. -/
def actions (machine : Machine) (engaged : Bool) : Motion → List Action
  | .travel target =>
    (if engaged then [.tool false] else []) ++
      [.write (Machine.travelLine target), .place target]
  | .draw target =>
    (if engaged then [] else [.tool true]) ++
      [.write (machine.drawLine target), .place target]
  | .engage => [.tool true]
  | .disengage => [.tool false]
  | .setLast point => [.place point]
  | .comment text => [.write ("(" ++ text ++ ")")]
  | .separator => [.write ""]
  | .raw line => [.write line]

/-- The actions of motions in order, each seeing the tool as the ones before left it. -/
def actionsFrom (machine : Machine) : Bool → List Motion → List Action
  | _, [] => []
  | engaged, motion :: rest =>
    motion.actions machine engaged ++ actionsFrom machine (motion.engagedAfter engaged) rest

@[simp]
theorem actionsFrom_nil (machine : Machine) (engaged : Bool) :
    actionsFrom machine engaged [] = [] := rfl

@[simp]
theorem actionsFrom_cons
    (machine : Machine) (engaged : Bool) (motion : Motion) (rest : List Motion) :
    actionsFrom machine engaged (motion :: rest) =
      motion.actions machine engaged ++
        actionsFrom machine (motion.engagedAfter engaged) rest := rfl

theorem actionsFrom_append
    (machine : Machine) (engaged : Bool) (first second : List Motion) :
    actionsFrom machine engaged (first ++ second) =
      actionsFrom machine engaged first ++
        actionsFrom machine (first.foldl engagedAfter engaged) second := by
  induction first generalizing engaged with
  | nil => rfl
  | cons motion rest induction =>
      simp [induction, List.append_assoc]

/-- The tool after a motion is the one its actions leave. -/
theorem engagedAfter_actions
    (machine : Machine) (engaged : Bool) (motion : Motion) :
    (motion.actions machine engaged).foldl Action.engagedAfter engaged =
      motion.engagedAfter engaged := by
  cases motion <;> cases engaged <;> rfl

/-- The tool after motions is the one their actions leave. -/
theorem engagedAfter_actionsFrom
    (machine : Machine) (engaged : Bool) (motions : List Motion) :
    (actionsFrom machine engaged motions).foldl Action.engagedAfter engaged =
      motions.foldl engagedAfter engaged := by
  induction motions generalizing engaged with
  | nil => rfl
  | cons motion rest induction =>
      rw [actionsFrom_cons, List.foldl_append, engagedAfter_actions, induction]
      rfl

end Motion

namespace Plotter

/-- A plotter step is the performance of the motion's actions. -/
theorem step_eq_performAll
    (machine : Machine) (state : Plotter) (motion : Motion) :
    state.step machine motion =
      performAll machine state (motion.actions machine state.engaged) := by
  rcases state with ⟨codes, last, engaged⟩
  cases motion <;> cases engaged <;>
    simp [step, performAll, perform, Motion.actions, Motion.lines, Motion.engagedAfter,
      Motion.lastAfter, Action.lines, Action.engagedAfter, Action.lastAfter, Machine.word,
      Machine.delay, Machine.engageLines, Machine.disengageLines]

/-- A run is the performance of its motions' actions. -/
theorem run_eq_performAll
    (machine : Machine) (state : Plotter) (motions : List Motion) :
    run machine state motions =
      performAll machine state (Motion.actionsFrom machine state.engaged motions) := by
  induction motions generalizing state with
  | nil => rfl
  | cons motion rest induction =>
      have engaged :
          (state.step machine motion).engaged = motion.engagedAfter state.engaged :=
        rfl
      rw [run_cons, induction, engaged, step_eq_performAll, Motion.actionsFrom_cons,
        performAll_append]

/-- A run leaves the tool as its motions do. -/
theorem engaged_run
    (machine : Machine) (state : Plotter) (motions : List Motion) :
    (run machine state motions).engaged = motions.foldl Motion.engagedAfter state.engaged := by
  rw [run_eq_performAll, engaged_performAll, Motion.engagedAfter_actionsFrom]

end Plotter

/-! ## Lines written with the tool up or down -/

/-- Whether a program line is a move of the given `G` word: the word, a space, then its
arguments. -/
def isMoveLine (word line : String) : Bool :=
  (word ++ " ").toList.isPrefixOf line.toList

/-- A word and a blank open a list that starts with a blank-free word and a blank exactly when
the two words agree. -/
theorem isPrefixOf_append_blank {word code : List Char} (rest : List Char)
    (wordPlain : ' ' ∉ word) (codePlain : ' ' ∉ code) :
    (word ++ [' ']).isPrefixOf (code ++ ' ' :: rest) = (word == code) := by
  induction word generalizing code with
  | nil =>
    cases code with
    | nil => simp [List.isPrefixOf]
    | cons first code =>
      -- the blank after the empty word meets the first letter of the code
      have letter : first ≠ ' ' := fun blank => codePlain (blank ▸ List.mem_cons_self)
      simp [List.isPrefixOf, letter.symm]
  | cons letter word ih =>
    cases code with
    | nil =>
      have notBlank : letter ≠ ' ' := fun blank => wordPlain (blank ▸ List.mem_cons_self)
      simp [List.isPrefixOf, notBlank]
    | cons first code =>
      simp only [List.mem_cons, not_or] at wordPlain codePlain
      simp [List.isPrefixOf, ih wordPlain.2 codePlain.2]

/-- A line that opens with a blank-free word and a blank is a move of a blank-free word exactly
when the two words agree. -/
theorem isMoveLine_of_opening {word line : String} (code : String)
    (opening : ∃ rest, line.toList = code.toList ++ ' ' :: rest)
    (wordPlain : ' ' ∉ word.toList) (codePlain : ' ' ∉ code.toList) :
    isMoveLine word line = (word == code) := by
  obtain ⟨rest, opens⟩ := opening
  have blank : " ".toList = [' '] := by simp
  rw [isMoveLine, opens, String.toList_append, blank,
    isPrefixOf_append_blank rest wordPlain codePlain]
  simp [String.toList_inj]

/-! Each line the plotter writes is a move of at most one blank-free word, read off its
template; a comment and the empty line are moves of no `G` word. -/

section MoveWords

variable {word : String}

@[simp]
theorem isMoveLine_travelLine (point : Point) (plain : ' ' ∉ word.toList) :
    isMoveLine word (Machine.travelLine point) = (word == "G0") :=
  isMoveLine_of_opening "G0" ⟨_, by simp [Machine.travelLine]; rfl⟩ plain (by simp)

@[simp]
theorem isMoveLine_drawLine (machine : Machine) (point : Point) (plain : ' ' ∉ word.toList) :
    isMoveLine word (machine.drawLine point) = (word == "G1") :=
  isMoveLine_of_opening "G1" ⟨_, by simp [Machine.drawLine]; rfl⟩ plain (by simp)

@[simp]
theorem isMoveLine_circleArcLine (circle : Circle) (feedrate : Float)
    (plain : ' ' ∉ word.toList) :
    isMoveLine word (circle.arcLine feedrate) = (word == "G3") :=
  isMoveLine_of_opening "G3" ⟨_, by simp [Circle.arcLine]; rfl⟩ plain (by simp)

@[simp]
theorem isMoveLine_arcArcLine (arc : Arc) (feedrate : Float) (plain : ' ' ∉ word.toList) :
    isMoveLine word (arc.arcLine feedrate) = (word == "G3") := by
  -- unfolded by delta: the equation lemma of the arc line is slow to generate
  delta Arc.arcLine
  exact isMoveLine_of_opening "G3" ⟨_, by simp; rfl⟩ plain (by simp)

@[simp]
theorem isMoveLine_dwellLine (delay : UInt32) (plain : ' ' ∉ word.toList) :
    isMoveLine word ("G4 P" ++ toString delay) = (word == "G4") :=
  isMoveLine_of_opening "G4" ⟨_, by simp; rfl⟩ plain (by simp)

@[simp]
theorem isMoveLine_comment (text : String) (opening : '(' ∉ word.toList.head?) :
    isMoveLine word ("(" ++ text ++ ")") = false := by
  simp only [isMoveLine, String.toList_append]
  cases letters : word.toList with
  | nil => simp [List.isPrefixOf]
  | cons letter _ =>
    rw [letters] at opening
    simp_all [List.isPrefixOf]

@[simp]
theorem isMoveLine_empty : isMoveLine word "" = false := by
  simp only [isMoveLine, String.toList_append, String.toList_empty]
  cases word.toList <;> simp

end MoveWords

/-- A rapid move, written with `G0`. -/
def isRapidLine (line : String) : Bool :=
  isMoveLine "G0" line

/-- A cutting move: a straight `G1` or an arc `G3`. -/
def isCuttingLine (line : String) : Bool :=
  isMoveLine "G1" line || isMoveLine "G3" line

/-- A line is safe with the tool as given when it is no rapid line with the tool down and no
cutting line with the tool up. -/
def SafeLine (engaged : Bool) (line : String) : Prop :=
  (isRapidLine line = true → engaged = false) ∧ (isCuttingLine line = true → engaged = true)

namespace Action

/-- An action is safe with the tool as given before it when the line it writes, if any, is. -/
def SafeAt (engaged : Bool) : Action → Prop
  | .write line => SafeLine engaged line
  | _ => True

/-- Every action is safe with the tool as the ones before it left it, from `engaged`. -/
def SafeFrom : Bool → List Action → Prop
  | _, [] => True
  | engaged, action :: rest => action.SafeAt engaged ∧ SafeFrom (action.engagedAfter engaged) rest

@[simp]
theorem safeFrom_nil (engaged : Bool) : SafeFrom engaged [] := trivial

@[simp]
theorem safeFrom_cons (engaged : Bool) (action : Action) (rest : List Action) :
    SafeFrom engaged (action :: rest) ↔
      action.SafeAt engaged ∧ SafeFrom (action.engagedAfter engaged) rest :=
  Iff.rfl

theorem SafeFrom.append_iff
    {engaged : Bool} {first second : List Action} :
    SafeFrom engaged (first ++ second) ↔
      SafeFrom engaged first ∧ SafeFrom (first.foldl engagedAfter engaged) second := by
  induction first generalizing engaged with
  | nil => simp
  | cons action rest induction =>
      simp [induction, and_assoc]

/-- Calls that alternate from `engaged`: each changes the tool, so an engage call is made only with
the tool up and a disengage call only with it down. -/
def Toggles : Bool → List Bool → Prop
  | _, [] => True
  | engaged, call :: rest => call = !engaged ∧ Toggles call rest

@[simp]
theorem toggles_nil (engaged : Bool) : Toggles engaged [] := trivial

@[simp]
theorem toggles_cons (engaged call : Bool) (rest : List Bool) :
    Toggles engaged (call :: rest) ↔ call = !engaged ∧ Toggles call rest :=
  Iff.rfl

theorem Toggles.append_iff
    {engaged : Bool} {first second : List Bool} :
    Toggles engaged (first ++ second) ↔
      Toggles engaged first ∧ Toggles (first.getLastD engaged) second := by
  induction first generalizing engaged with
  | nil => simp
  | cons call rest induction =>
      simp only [List.cons_append, toggles_cons, induction, List.getLastD_cons, and_assoc]

end Action

end Toolpath
