import Toolpath.Number.Read
import Toolpath.Program.Compile
import Toolpath.Units

/-!
# Arguments of the command line

The command takes the path of a drawing by position and named arguments: `-o`/`--output`,
`-c`/`--config`, `--feedrate` and `--units` take a value; `--optimize-order`,
`--skip-unsupported` and `--include-blocks` are switches; `-h`/`--help` and `-V`/`--version`
answer at once.

Arguments are read from left to right. A long name takes its value after `=` or as the next
argument; a short name takes the rest of its argument (after an optional `=`) or the next one.
After `--` every argument stands by position. An argument that starts with `-` is never a value:
the named argument before it then has none. A named argument collects its value until the next
argument that is not its value starts; only then is the value checked and stored, so an argument
that fails is reported when the next one begins, or at the end.

A refusal is one of a few kinds, each with its own message; some end with a usage line that
lists the arguments given so far.
-/

namespace Toolpath.Cli

open Toolpath.Number

/-- The name of the command in its messages. -/
def commandName : String := "dxf2gcode"

/-- An argument the command declares. -/
inductive Argument where
  | input
  | output
  | config
  | feedrate
  | units
  | optimizeOrder
  | skipUnsupported
  | includeBlocks
  | help
  | version
  deriving BEq, DecidableEq, Inhabited

namespace Argument

/-- The named arguments, in the order they are declared. -/
def named : List Argument :=
  [.output, .config, .feedrate, .units, .optimizeOrder, .skipUnsupported, .includeBlocks, .help,
    .version]

/-- The long name, written after `--`. -/
def long? : Argument → Option String
  | .input => none
  | .output => some "output"
  | .config => some "config"
  | .feedrate => some "feedrate"
  | .units => some "units"
  | .optimizeOrder => some "optimize-order"
  | .skipUnsupported => some "skip-unsupported"
  | .includeBlocks => some "include-blocks"
  | .help => some "help"
  | .version => some "version"

/-- The short name, written after `-`. -/
def short? : Argument → Option Char
  | .output => some 'o'
  | .config => some 'c'
  | .help => some 'h'
  | .version => some 'V'
  | _ => none

/-- Whether the argument takes a value. -/
def takesValue : Argument → Bool
  | .input | .output | .config | .feedrate | .units => true
  | _ => false

/-- The name of the value in messages. -/
def placeholder : Argument → String
  | .input => "INPUT"
  | .output => "OUTPUT"
  | .config => "CONFIG"
  | .feedrate => "FEEDRATE"
  | .units => "UNITS"
  | _ => ""

/-- How messages show the argument: `<INPUT>`, `--output <OUTPUT>`, `--optimize-order`. -/
def display (argument : Argument) : String :=
  match argument.long? with
  | none => "<" ++ argument.placeholder ++ ">"
  | some name =>
    if argument.takesValue then "--" ++ name ++ " <" ++ argument.placeholder ++ ">"
    else "--" ++ name

/-- The named argument of a long name. -/
def ofLong? (name : String) : Option Argument :=
  named.find? fun argument => argument.long? == some name

/-- The named argument of a short name. -/
def ofShort? (letter : Char) : Option Argument :=
  named.find? fun argument => argument.short? == some letter

end Argument

/-- What the command is asked to do. -/
structure Invocation where
  input : String
  output : Option String := none
  config : Option String := none
  feedrate : Option Float := none
  units : Option Units := none
  optimizeOrder : Bool := false
  skipUnsupported : Bool := false
  includeBlocks : Bool := false
  deriving Inhabited

/-- The usage line: the command, `[OPTIONS]` and the drawing when no argument is named, else the
named arguments given, each once in the order given, then the drawing. -/
def usageLine (given : List Argument) : String :=
  if given.isEmpty then commandName ++ " [OPTIONS] <INPUT>"
  else
    let named := ((given.filter (· != .input)).map Argument.display).eraseDups
    " ".intercalate (commandName :: named ++ ["<INPUT>"])

/-- The end of most refusals. -/
def tryHelp : String := "\n\nFor more information, try '--help'.\n"

/-- Why the arguments are refused. -/
inductive Refusal where
  /-- An argument that the command does not know, with a similar long name if there is one,
  whether to suggest `--` before it, and the usage line. -/
  | unknown (text : String) (similar : Option String) (escape : Bool) (usage : String)
  /-- A value that its argument does not accept, and why. -/
  | invalidValue (value : String) (argument : Argument) (reason : String)
  /-- An argument that needs a value got none, or an empty path. -/
  | emptyValue (argument : Argument)
  /-- An argument given twice. -/
  | repeated (argument : Argument)
  /-- A value attached to a switch, with the usage line. -/
  | unneededValue (value : String) (argument : Argument) (usage : String)
  /-- Required arguments that are missing, with the usage line. -/
  | missing (names : List String) (usage : String)
  deriving Inhabited

/-- The message of a refusal. -/
def Refusal.text : Refusal → String
  | .unknown text similar escape usage =>
    let similarTip := match similar with
      | some name => "\n\n  tip: a similar argument exists: '" ++ name ++ "'"
      | none => ""
    let escapeTip :=
      if escape then
        (if similar.isNone then "\n" else "") ++
          "\n  tip: to pass '" ++ text ++ "' as a value, use '-- " ++ text ++ "'"
      else ""
    "error: unexpected argument '" ++ text ++ "' found" ++ similarTip ++ escapeTip ++
      "\n\nUsage: " ++ usage ++ tryHelp
  | .invalidValue value argument reason =>
    "error: invalid value '" ++ value ++ "' for '" ++ argument.display ++ "': " ++ reason ++ tryHelp
  | .emptyValue argument =>
    "error: a value is required for '" ++ argument.display ++ "' but none was supplied" ++ tryHelp
  | .repeated argument =>
    "error: the argument '" ++ argument.display ++ "' cannot be used multiple times\n\nUsage: " ++
      usageLine [] ++ tryHelp
  | .unneededValue value argument usage =>
    "error: unexpected value '" ++ value ++ "' for '" ++ argument.display ++
      "' found; no more were expected\n\nUsage: " ++ usage ++ tryHelp
  | .missing names usage =>
    "error: the following required arguments were not provided:" ++
      String.join (names.map ("\n  " ++ ·)) ++ "\n\nUsage: " ++ usage ++ tryHelp

/-- Why reading the arguments stops before the command runs. -/
inductive Stop where
  /-- Help was asked for. -/
  | help
  /-- The version was asked for. -/
  | version
  /-- The arguments are refused. -/
  | refused (refusal : Refusal)
  deriving Inhabited

/-- The help text. -/
def helpText : String :=
  "Compile DXF drawings (lines, circles, arcs, polylines) into G-code motion programs\n\n" ++
  "Usage: dxf2gcode [OPTIONS] <INPUT>\n\n" ++
  "Arguments:\n" ++
  "  <INPUT>  Input DXF file\n\n" ++
  "Options:\n" ++
  "  -o, --output <OUTPUT>      Output file (defaults to stdout)\n" ++
  "  -c, --config <CONFIG>      Configuration file (.toml or .json)\n" ++
  "      --feedrate <FEEDRATE>  Override the XY feed rate\n" ++
  "      --units <UNITS>        Override the program units (metric/mm or imperial/in)\n" ++
  "      --optimize-order       Reorder entities to shorten travel between them\n" ++
  "      --skip-unsupported     Skip entities that cannot be emitted instead of failing\n" ++
  "      --include-blocks       Also convert entities inside block definitions\n" ++
  "  -h, --help                 Print help\n" ++
  "  -V, --version              Print version\n"

/-- The version text. -/
def versionText : String := commandName ++ " " ++ generatorVersion ++ "\n"

/-! ## Similar names -/

/-- The Jaro similarity of two texts, from `0` (nothing in common) to `1` (equal): characters
match when equal and not farther apart than half the longer length less one, each matched at
most once and greedily from the left; half the matched characters that stand in a different
order count as transpositions. -/
def jaro (first second : List Char) : Float :=
  let firstLength := first.length
  let secondLength := second.length
  if firstLength == 0 && secondLength == 0 then 1.0
  else if firstLength == 0 || secondLength == 0 then 0.0
  else
    let reach := max firstLength secondLength / 2 - 1
    let letters := second.toArray
    let start : List Bool × Array Bool × Nat := ([], Array.replicate secondLength false, 0)
    let (firstFlags, secondFlags, matched) := first.zipIdx.foldl
      (fun (firstFlags, secondFlags, matched) (letter, index) =>
        let low := index - reach
        let high := min secondLength (index + reach + 1)
        let partner := (List.range' low (high - low)).find? fun position =>
          letters.getD position ' ' == letter && !secondFlags.getD position true
        match partner with
        | some position => (firstFlags ++ [true], secondFlags.set! position true, matched + 1)
        | none => (firstFlags ++ [false], secondFlags, matched))
      start
    let pick (text : List Char) (flags : List Bool) : List Char :=
      (text.zip flags).filterMap fun (letter, flag) => if flag then some letter else none
    let pairs := (pick first firstFlags).zip (pick second secondFlags.toList)
    let transpositions := (pairs.filter fun (a, b) => a != b).length / 2
    if matched == 0 then 0.0
    else
      let m := matched.toFloat
      ((m / firstLength.toFloat + m / secondLength.toFloat) +
        (matched - transpositions).toFloat / m) / 3.0

/-- The long name most similar to a text, if one is similar enough (above `0.7`); of equally
similar names the one declared last. -/
def similarLong? (text : String) : Option Argument :=
  let scored := Argument.named.filterMap fun argument =>
    argument.long?.map fun name => (jaro text.toList name.toList, argument)
  let close := scored.filter fun (score, _) => score > 0.7
  (close.foldl
    (fun best (score, argument) =>
      match best with
      | some (bestScore, _) => if score >= bestScore then some (score, argument) else best
      | none => some (score, argument))
    none).map Prod.snd

/-! ## Reading the arguments -/

/-- The state of reading: the arguments taken so far in the order they were taken, an argument
whose values are still being collected, the named argument waiting for its value, whether the
drawing was given and whether `--` was seen, and the values stored. -/
structure Reading where
  taken : List Argument := []
  pending : Option (Argument × List String) := none
  expecting : Option Argument := none
  inputSeen : Bool := false
  escaped : Bool := false
  input : Option String := none
  output : Option String := none
  config : Option String := none
  feedrate : Option Float := none
  units : Option Units := none
  optimizeOrder : Bool := false
  skipUnsupported : Bool := false
  includeBlocks : Bool := false
  deriving Inhabited

/-- Reading arguments: it can stop, and what it did before stopping stays done. -/
abbrev Parsing := ExceptT Stop (StateM Reading)

/-- Stops with a refusal. -/
def refuse {α : Type} (refusal : Refusal) : Parsing α :=
  throw (.refused refusal)

/-- The reason a text is not a floating-point number. -/
def floatComplaint (text : String) : String :=
  if text.isEmpty then "cannot parse float from empty string" else "invalid float literal"

/-- Checks and stores the value of an argument. -/
def store (argument : Argument) (value : String) : Parsing Unit := do
  match argument with
  | .input | .output | .config =>
    if value.isEmpty then refuse (.emptyValue argument)
    match argument with
    | .input => modify fun reading => { reading with input := some value }
    | .output => modify fun reading => { reading with output := some value }
    | _ => modify fun reading => { reading with config := some value }
  | .feedrate =>
    match readFloat? value.toList with
    | some number => modify fun reading => { reading with feedrate := some number }
    | none => refuse (.invalidValue value argument (floatComplaint value))
  | .units =>
    match Units.parse value with
    | .ok units => modify fun reading => { reading with units := some units }
    | .error reason => refuse (.invalidValue value argument reason)
  | .optimizeOrder => modify fun reading => { reading with optimizeOrder := true }
  | .skipUnsupported => modify fun reading => { reading with skipUnsupported := true }
  | .includeBlocks => modify fun reading => { reading with includeBlocks := true }
  | .help | .version => pure ()

/-- Acts on an argument with its collected values, once nothing is pending: help and version
stop, an argument that needs a value must have one, an argument is taken once, and then its
value is checked and stored. -/
def apply (argument : Argument) (values : List String) : Parsing Unit := do
  if argument.takesValue && values.isEmpty then refuse (.emptyValue argument)
  match argument with
  | .help => throw .help
  | .version => throw .version
  | _ =>
    let reading ← get
    if reading.taken.contains argument then
      set { reading with taken := reading.taken.erase argument }
      refuse (.repeated argument)
    set { reading with taken := reading.taken ++ [argument] }
    if argument.takesValue then
      for value in values do store argument value
    else store argument ""

/-- Acts on the pending argument, if any. -/
def settle : Parsing Unit := do
  match (← get).pending with
  | none => pure ()
  | some (argument, values) =>
    modify fun reading => { reading with pending := none }
    apply argument values

/-- Acts on the pending argument and forgets why it failed, if it did. -/
def settleQuietly : Parsing Unit :=
  tryCatch settle fun _ => pure ()

/-- Acts on an argument after the pending one. -/
def react (argument : Argument) (values : List String) : Parsing Unit := do
  settle
  apply argument values

/-- Makes a named argument wait for its value in the next argument. -/
def expect (argument : Argument) : Parsing Unit := do
  settle
  modify fun reading => { reading with pending := some (argument, []), expecting := some argument }

/-- Takes a long name with the value attached after `=`, if any. -/
def takeLong (name : String) (attached : Option String) : Parsing Unit := do
  match Argument.ofLong? name with
  | some argument =>
    if argument.takesValue then
      match attached with
      | some value => react argument [value]
      | none => expect argument
    else
      match attached with
      | some value =>
        let given := ((← get).taken.filter (· != .input)) ++ [argument]
        settleQuietly
        refuse (.unneededValue value argument (usageLine given))
      | none => react argument []
  | none =>
    settleQuietly
    let similar := similarLong? name
    if let some argument := similar then
      modify fun reading =>
        if reading.taken.contains argument then reading
        else { reading with taken := reading.taken ++ [argument] }
    let given := (← get).taken
    refuse (.unknown ("--" ++ name) (similar.bind Argument.long? |>.map ("--" ++ ·))
      similar.isNone (usageLine given))

/-- Takes the letters of a short argument after its `-`. -/
def takeShort : List Char → Parsing Unit
  | [] => pure ()
  | letter :: rest =>
    match Argument.ofShort? letter with
    | none => do
      settleQuietly
      refuse (.unknown (String.ofList ['-', letter]) none true (usageLine []))
    | some argument =>
      if !argument.takesValue then do
        react argument []
        takeShort rest
      else if rest.isEmpty then expect argument
      else
        let value := match rest with
          | '=' :: after => after
          | other => other
        react argument [String.ofList value]

/-- Takes an argument that stands by position. -/
def takePositional (text : String) : Parsing Unit := do
  if (← get).inputSeen then
    settleQuietly
    refuse (.unknown text none false (usageLine []))
  settle
  modify fun reading =>
    { reading with pending := some (.input, [text]), inputSeen := true, expecting := none }

/-- Takes one argument. -/
def takeOne (text : String) : Parsing Unit := do
  let reading ← get
  let letters := text.toList
  if reading.escaped then takePositional text
  else if text == "--" then modify fun reading => { reading with escaped := true }
  else if letters.take 2 == ['-', '-'] then
    let body := letters.drop 2
    let name := body.takeWhile (· != '=')
    let attached := match body.dropWhile (· != '=') with
      | '=' :: value => some (String.ofList value)
      | _ => none
    modify fun reading => { reading with expecting := none }
    takeLong (String.ofList name) attached
  else if letters.take 1 == ['-'] && letters.length > 1 then
    modify fun reading => { reading with expecting := none }
    takeShort (letters.drop 1)
  else
    match reading.expecting with
    | some _ =>
      modify fun reading =>
        { reading with
          pending := reading.pending.map fun (held, values) => (held, values ++ [text])
          expecting := none }
    | none => takePositional text

/-- Takes all arguments, then acts on the one still pending. -/
def takeAll (texts : List String) : Parsing Unit := do
  for text in texts do takeOne text
  settle

/-- Reads the arguments into an invocation, or says why the command stops. -/
def parseArguments (texts : List String) : Except Stop Invocation :=
  let (outcome, reading) := (takeAll texts).run.run {}
  match outcome with
  | .error stop => .error stop
  | .ok () =>
    match reading.input with
    | some input =>
      .ok {
        input
        output := reading.output
        config := reading.config
        feedrate := reading.feedrate
        units := reading.units
        optimizeOrder := reading.optimizeOrder
        skipUnsupported := reading.skipUnsupported
        includeBlocks := reading.includeBlocks }
    | none => .error (.refused (.missing ["<INPUT>"] (usageLine (reading.taken ++ [.input]))))

end Toolpath.Cli
