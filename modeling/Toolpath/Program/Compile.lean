import Toolpath.Motion.Emit
import Toolpath.Primitive.Proximity
import Toolpath.Settings.Config

/-!
# Compiling a drawing into a program

A program is a preamble (a comment naming the generator, the units word, absolute positioning,
an empty line), the body of cutting lines, and a postscript (an empty line, an end comment, the
tool-off word, a travel home when a home is configured, and the end word). Its text is every line
followed by a line break.

Compiling checks the configuration, orders the primitives by proximity from the home position
(the origin without one) when asked to, and cuts them in order on one plotter state. A primitive
that cannot be cut stops compilation, reported with its position in cutting order, unless the
configuration skips unsupported primitives; only a primitive whose cut is not implemented is
skipped, and it is counted.
-/

namespace Toolpath

open Toolpath.Number

/-- The version the program comment names. -/
def generatorVersion : String := "0.1.0"

/-- A compiled program with its counts and the last position of the tool. -/
structure Program where
  preamble : List String
  body : List String
  postscript : List String
  emitted : Nat
  skipped : Nat
  last : Option Point
  deriving Inhabited

namespace Program

/-- All lines, in order. -/
def lines (program : Program) : List String :=
  program.preamble ++ program.body ++ program.postscript

/-- The program text: every line followed by a line break. -/
def text (program : Program) : String :=
  String.join (program.lines.map (· ++ "\n"))

end Program

/-- Why compilation failed. -/
inductive CompileError where
  /-- The primitive at a position of the cutting order could not be cut. -/
  | primitive (index : Nat) (label : String) (source : GeometryError)
  /-- The configuration is invalid. -/
  | config (source : ConfigError)
  deriving Inhabited

/-- The message of a compilation error; it repeats the message of its source. -/
def CompileError.message : CompileError → String
  | .primitive index label source =>
    "Entity #" ++ natText index ++ " (" ++ label ++ ") failed: " ++ source.message
  | .config source => "Invalid configuration: " ++ source.message

namespace Config

/-- The preamble lines. -/
def preamble (config : Config) : List String :=
  ["(Generated by dxf2gcode " ++ generatorVersion ++ ")", config.output.units.gcode, "G90", ""]

/-- The postscript lines. -/
def postscript (config : Config) : List String :=
  ["", "(end of program)", config.machine.toolOff] ++
    (match config.output.home with
     | some home => [Machine.travelLine home]
     | none => []) ++
    ["M2"]

/-- The primitives in cutting order: by proximity from the home position (the origin without
one) when the configuration asks, else as given. -/
def cuttingOrder (config : Config) (primitives : List Primitive) : List Primitive :=
  if config.output.optimizeOrder then
    orderByProximity primitives (config.output.home.getD Point.origin)
  else primitives

end Config

/-- The running state of a compilation: the plotter, and how many primitives were cut and
skipped. -/
structure Cutting where
  plotter : Plotter := {}
  emitted : Nat := 0
  skipped : Nat := 0
  deriving Inhabited

/-- Cuts primitives in order from a running state, the first of them at position `index`. -/
def cutAll (config : Config) : Nat → Cutting → List Primitive → Except CompileError Cutting
  | _, cutting, [] => .ok cutting
  | index, cutting, primitive :: rest =>
    match primitive.emit config.machine cutting.plotter with
    | .ok plotter => cutAll config (index + 1) { cutting with plotter, emitted := cutting.emitted + 1 } rest
    | .error error =>
      if error.isNotImplemented && config.output.skipUnsupported then
        cutAll config (index + 1) { cutting with skipped := cutting.skipped + 1 } rest
      else .error (.primitive index primitive.label error)

/-- Compiles primitives into a program under a configuration. -/
def Program.compile (config : Config) (primitives : List Primitive) :
    Except CompileError Program := do
  match config.validate with
  | .error error => throw (.config error)
  | .ok () => pure ()
  let cutting ← cutAll config 0 {} (config.cuttingOrder primitives)
  return {
    preamble := config.preamble
    body := cutting.plotter.codes
    postscript := config.postscript
    emitted := cutting.emitted
    skipped := cutting.skipped
    last := cutting.plotter.last }

end Toolpath
