import Toolpath.Geometry.Point

/-!
# The motion context

A machine is told what to do by motions: travel to a point with the tool up, draw to a point with
the tool down, engage or disengage the tool, remember a position, or write a comment, an empty
line or a raw program line. The plotter state is the program written so far, the last position,
and whether the tool is engaged.

Travel disengages an engaged tool first and draw engages a disengaged one, so the tool is down
exactly while drawing lines are written; engaging and disengaging are always written, also when
the tool is already in that state. A dwell line follows the tool word when the machine has a
positive delay for it.

Main statements:
* `Plotter.run_append`: running two lists of motions one after the other is running their
  concatenation;
* `Plotter.codes_run`: a run only appends lines, those `Motion.lines` gives for each motion.
-/

namespace Toolpath

open Toolpath.Number

/-- The dialect of a machine: its feed rate for drawing, the words that engage and disengage the
tool, and the dwell after each, in milliseconds (zero for none). -/
structure Machine where
  feedrate : Float := 1000.0
  toolOn : String := "M3"
  toolOff : String := "M5"
  onDelay : UInt32 := 0
  offDelay : UInt32 := 0
  deriving BEq, Inhabited

namespace Machine

/-- The dwell line for a delay, none for zero. -/
def dwell (delay : UInt32) : List String :=
  if delay > 0 then ["G4 P" ++ toString delay] else []

/-- The lines that engage the tool. -/
def engageLines (machine : Machine) : List String :=
  machine.toolOn :: dwell machine.onDelay

/-- The lines that disengage the tool. -/
def disengageLines (machine : Machine) : List String :=
  machine.toolOff :: dwell machine.offDelay

/-- The line of a rapid move with the tool up. -/
def travelLine (point : Point) : String :=
  "G0 X" ++ twoPlaces point.x ++ " Y" ++ twoPlaces point.y

/-- The line of a drawing move at the machine's feed rate. -/
def drawLine (machine : Machine) (point : Point) : String :=
  "G1 X" ++ twoPlaces point.x ++ " Y" ++ twoPlaces point.y ++ " F" ++ twoPlaces machine.feedrate

end Machine

/-- One instruction to the machine. -/
inductive Motion where
  /-- Move to a point with the tool up. -/
  | travel (target : Point)
  /-- Move to a point with the tool down. -/
  | draw (target : Point)
  /-- Lower the tool. -/
  | engage
  /-- Raise the tool. -/
  | disengage
  /-- Remember a position without moving. -/
  | setLast (point : Point)
  /-- A comment line. -/
  | comment (text : String)
  /-- An empty line. -/
  | separator
  /-- A program line written as it is. -/
  | raw (line : String)
  deriving Inhabited

namespace Motion

/-- The program lines a motion appends, given whether the tool is engaged before it. -/
def lines (machine : Machine) (engaged : Bool) : Motion → List String
  | .travel target =>
    (if engaged then machine.disengageLines else []) ++ [Machine.travelLine target]
  | .draw target =>
    (if engaged then [] else machine.engageLines) ++ [machine.drawLine target]
  | .engage => machine.engageLines
  | .disengage => machine.disengageLines
  | .setLast _ => []
  | .comment text => ["(" ++ text ++ ")"]
  | .separator => [""]
  | .raw line => [line]

/-- Whether the tool is engaged after a motion. -/
def engagedAfter (engaged : Bool) : Motion → Bool
  | .travel _ => false
  | .draw _ => true
  | .engage => true
  | .disengage => false
  | _ => engaged

/-- The last position after a motion. -/
def lastAfter (last : Option Point) : Motion → Option Point
  | .travel target => some target
  | .draw target => some target
  | .setLast point => some point
  | _ => last

end Motion

/-- The state of the motion context: the program lines so far, the last position if any, and
whether the tool is engaged. -/
structure Plotter where
  codes : List String := []
  last : Option Point := none
  engaged : Bool := false
  deriving Inhabited

namespace Plotter

/-- The state after one motion. -/
def step (machine : Machine) (state : Plotter) (motion : Motion) : Plotter where
  codes := state.codes ++ motion.lines machine state.engaged
  last := motion.lastAfter state.last
  engaged := motion.engagedAfter state.engaged

/-- The state after a list of motions, in order. -/
def run (machine : Machine) (state : Plotter) (motions : List Motion) : Plotter :=
  motions.foldl (step machine) state

@[simp]
theorem run_nil (machine : Machine) (state : Plotter) : run machine state [] = state := rfl

@[simp]
theorem run_cons (machine : Machine) (state : Plotter) (motion : Motion) (rest : List Motion) :
    run machine state (motion :: rest) = run machine (step machine state motion) rest := rfl

theorem run_append (machine : Machine) (state : Plotter) (first second : List Motion) :
    run machine state (first ++ second) = run machine (run machine state first) second := by
  simp [run, List.foldl_append]

/-- The lines a list of motions appends from a given engagement, each motion seeing the
engagement left by the ones before it. -/
def linesFrom (machine : Machine) : Bool → List Motion → List String
  | _, [] => []
  | engaged, motion :: rest =>
    motion.lines machine engaged ++ linesFrom machine (motion.engagedAfter engaged) rest

/-- A run only appends: its program is the old one followed by the lines of its motions. -/
theorem codes_run (machine : Machine) (state : Plotter) (motions : List Motion) :
    (run machine state motions).codes = state.codes ++ linesFrom machine state.engaged motions := by
  induction motions generalizing state with
  | nil => simp [linesFrom]
  | cons motion rest ih =>
    simp only [run_cons, linesFrom]
    rw [ih]
    simp [step, List.append_assoc]

end Plotter

end Toolpath
