import Toolpath.Dxf.Read
import Toolpath.Drawing.Import
import Toolpath.Files.Path

/-!
# Loading a drawing file

A drawing file is accepted by the extension of its name alone, `dxf` in any letter case, before
anything is read. Then its bytes are read into a drawing and imported. A file that cannot be
read gives an input-output error with the system's message.
-/

namespace Toolpath

/-- Why a drawing could not be imported. -/
inductive ImportError where
  /-- The file name does not end in `.dxf`. -/
  | unsupportedFormat (path : String)
  /-- The file is not a readable drawing. -/
  | parse (message : String)
  /-- The file could not be read. -/
  | io (message : String)
  deriving Inhabited

/-- The message of an import error. -/
def ImportError.message : ImportError → String
  | .unsupportedFormat path => "Unsupported file format: " ++ path
  | .parse message => "DXF parse error: " ++ message
  | .io message => "I/O error: " ++ message

/-- The name of the kind of an import error. -/
def ImportError.kindName : ImportError → String
  | .unsupportedFormat _ => "UnsupportedFormat"
  | .parse _ => "DxfParseError"
  | .io _ => "IoError"

/-- The messages of the causes under an import error, outermost first. -/
def ImportError.causes : ImportError → List String
  | .io message => [message]
  | _ => []

/-- Whether a path names a drawing file. -/
def isDrawingFile (path : String) : Bool :=
  match extension? path with
  | some text => text.toList.map Char.toLower == ['d', 'x', 'f']
  | none => false

/-- Loads and imports a drawing file from its path and what reading it gave: its bytes, or the
system's message. -/
def loadDrawing (path : String) (contents : Except String (List UInt8)) (withBlocks : Bool) :
    Except ImportError ImportReport :=
  if !isDrawingFile path then .error (.unsupportedFormat path) else
  match contents with
  | .error message => .error (.io message)
  | .ok bytes =>
    match Dxf.readDrawing bytes with
    | .ok drawing => .ok (drawing.importWith withBlocks)
    | .error fault => .error (.parse fault.message)

end Toolpath
