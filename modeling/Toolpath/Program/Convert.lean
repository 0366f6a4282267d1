import Toolpath.Drawing.Load
import Toolpath.Program.Compile

/-!
# Converting a drawing file into a program

Conversion loads and imports the drawing file, checks the configuration, and compiles the
imported primitives, stopping at the first failure. A failure is reported as a chain: a line
saying which stage failed, then the message of the error, then the message of each error that
caused it, outermost first. The messages of a chain often repeat one another, as each error
quotes its cause.
-/

namespace Toolpath

/-- The messages of the causes under a compilation error, outermost first. -/
def CompileError.causes : CompileError → List String
  | .primitive _ _ source => [source.message]
  | .config source => [source.message]

/-- Why a conversion failed. -/
inductive ConvertError where
  /-- The drawing file could not be imported. -/
  | importing (path : String) (source : ImportError)
  /-- The configuration is invalid. -/
  | configuration (source : ConfigError)
  /-- A primitive could not be compiled. -/
  | compiling (path : String) (source : CompileError)
  deriving Inhabited

/-- The chain of a conversion error: the stage that failed, then the error and its causes. -/
def ConvertError.chain : ConvertError → List String
  | .importing path source => ("Failed to import " ++ path) :: source.message :: source.causes
  | .configuration source =>
    let error := CompileError.config source
    "Invalid configuration" :: error.message :: error.causes
  | .compiling path source => ("Failed to compile " ++ path) :: source.message :: source.causes

/-- The chain on one line, its parts joined by a colon and a blank. -/
def ConvertError.message (error : ConvertError) : String :=
  ": ".intercalate error.chain

/-- Converts a drawing file, given its path and what reading it gave (its bytes or the system's
message), into a program under a configuration. -/
def convertDrawing (path : String) (contents : Except String (List UInt8)) (config : Config)
    (withBlocks : Bool) : Except ConvertError Program := do
  let report ← match loadDrawing path contents withBlocks with
    | .ok report => pure report
    | .error error => throw (.importing path error)
  match config.validate with
  | .error error => throw (.configuration error)
  | .ok () => pure ()
  match Program.compile config report.primitives with
  | .ok program => pure program
  | .error error => throw (.compiling path error)

end Toolpath
