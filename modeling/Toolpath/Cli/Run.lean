import Toolpath.Cli.Arguments
import Toolpath.Files.Workspace
import Toolpath.Program.Convert
import Toolpath.Settings.File

/-!
# Running the command

The command reads its arguments, then loads the configuration file if one is named (else it
starts from the defaults), applies the overrides of the command line, converts the drawing, and
prints the program, or writes it to the output file.

Help and the version go to standard output with status `0`; refused arguments go to standard
error with status `2`; any later failure goes to standard error as a report with status `1`.
A report is the outermost message, then under `Caused by:` the messages of its causes, numbered
from `0` when there are several; a line break inside a cause is indented to stay under it.
-/

namespace Toolpath.Cli

/-- What the command printed and its exit status. -/
structure Outcome where
  status : Nat
  stdout : String := ""
  stderr : String := ""
  deriving BEq, Inhabited

/-- Indents every line of a text after the first by a number of blanks. -/
def indentLines (width : Nat) (text : String) : String :=
  "\n".intercalate (match text.splitOn "\n" with
    | first :: rest => first :: rest.map (String.ofList (List.replicate width ' ') ++ ·)
    | [] => [])

/-- A number right-aligned in a field of five characters. -/
def rightAligned (number : Nat) : String :=
  let digits := toString number
  String.ofList (List.replicate (5 - digits.length) ' ') ++ digits

/-- The report of a failure: its chain of messages, outermost first. -/
def failureReport : List String → String
  | [] => "Error: \n"
  | [outer] => "Error: " ++ outer ++ "\n"
  | [outer, cause] => "Error: " ++ outer ++ "\n\nCaused by:\n    " ++ indentLines 4 cause ++ "\n"
  | outer :: causes =>
    "Error: " ++ outer ++ "\n\nCaused by:" ++
      String.join (causes.zipIdx.map fun (cause, index) =>
        "\n" ++ rightAligned index ++ ": " ++ indentLines 7 cause) ++ "\n"

/-- The outcome of a failure. -/
def failed (chain : List String) : Outcome :=
  { status := 1, stderr := failureReport chain }

/-- The configuration an invocation starts from: loaded from its file, if it names one. The
command reads the decimal numbers of a JSON file in binary64 steps. -/
def Invocation.baseConfig (invocation : Invocation)
    (read : String → Except String (List UInt8)) : Except (List String) Config :=
  match invocation.config with
  | none => .ok {}
  | some path =>
    match Config.load .stepwise path (read path >>= textOfBytes) with
    | .ok config => .ok config
    | .error error => .error ["Failed to load config " ++ path, error.message, error.cause]

/-- A configuration with the overrides of an invocation applied. -/
def Invocation.override (invocation : Invocation) (config : Config) : Config :=
  let machine := match invocation.feedrate with
    | some feedrate => { config.machine with feedrate }
    | none => config.machine
  let units := invocation.units.getD config.output.units
  { machine
    output := { config.output with
      units
      optimizeOrder := config.output.optimizeOrder || invocation.optimizeOrder
      skipUnsupported := config.output.skipUnsupported || invocation.skipUnsupported } }

/-- The program of an invocation, or the chain of messages of its failure. -/
def Invocation.program (invocation : Invocation)
    (read : String → Except String (List UInt8)) : Except (List String) Program := do
  let config := invocation.override (← invocation.baseConfig read)
  match convertDrawing invocation.input (read invocation.input) config invocation.includeBlocks with
  | .ok program => pure program
  | .error error => throw error.chain

/-- What the command does once its arguments are read: finish, or write a file and then finish
with status `0`, unless writing fails. -/
inductive Step where
  | finish (outcome : Outcome)
  | write (path : String) (text : String)
  deriving Inhabited

/-- The outcome of a write that failed with the system's message. -/
def writeFailed (path : String) (message : String) : Outcome :=
  failed ["Failed to write " ++ path, message]

/-- What the command does with its arguments, reading files through a function that gives a
file's bytes or the system's message. -/
def command (texts : List String) (read : String → Except String (List UInt8)) : Step :=
  match parseArguments texts with
  | .error .help => .finish { status := 0, stdout := helpText }
  | .error .version => .finish { status := 0, stdout := versionText }
  | .error (.refused refusal) => .finish { status := 2, stderr := refusal.text }
  | .ok invocation =>
    match invocation.program read with
    | .error chain => .finish (failed chain)
    | .ok program =>
      match invocation.output with
      | some path => .write path program.text
      | none => .finish { status := 0, stdout := program.text }

/-- Runs the command in a workspace: its outcome and the workspace afterwards. -/
def runIn (workspace : Workspace) (texts : List String) : Outcome × Workspace :=
  match command texts workspace.read with
  | .finish outcome => (outcome, workspace)
  | .write path text =>
    match workspace.write path text with
    | .ok written => ({ status := 0 }, written)
    | .error message => (writeFailed path message, workspace)

end Toolpath.Cli
