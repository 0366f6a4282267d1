import Toolpath.Files.Path

/-!
# A working directory of plain files

The command reads and writes files by path, relative to its working directory. A workspace is
such a directory holding plain files only, each a name and its text. A path leads to one of its
files when, after skipping empty components and `.`, a single name is left; the path of no
component, `..` and `/` lead to directories; a path that goes on below a name leads nowhere, or
below a file when the name is one of the files.

Reading a file gives its bytes; writing one replaces or creates it. The failures are those of the
system: a missing file, a directory where a file is wanted, or a file where a directory is
wanted.
-/

namespace Toolpath

/-- A working directory: its files, by name, in the order they were first written. -/
structure Workspace where
  files : List (String × String) := []
  deriving BEq, Inhabited

/-- Where a path leads in a workspace. -/
inductive Place where
  /-- The file of this name, which may not exist yet. -/
  | file (name : String)
  /-- A name followed by `/`: the path asks for a directory of that name. -/
  | slashed (name : String)
  /-- The working directory, its parent or the root. -/
  | directory
  /-- A path that goes on below the name of its first component. -/
  | below (name : String)
  /-- A path that leads nowhere. -/
  | missing
  deriving BEq, Inhabited

namespace Workspace

/-- The text of a file, if it exists. -/
def text? (workspace : Workspace) (name : String) : Option String :=
  workspace.files.lookup name

/-- Where a path leads. -/
def locate (path : String) : Place :=
  let parts := pathParts path
  let absolute := path.startsWith "/"
  match parts with
  | [] => if path.isEmpty then .missing else .directory
  | [".."] => if absolute then .missing else .directory
  | [name] =>
    if absolute then .missing
    else if path.endsWith "/" then .slashed name
    else .file name
  | first :: _ => if absolute then .missing else .below first

/-- Reads a file: its bytes, or the system's message. -/
def read (workspace : Workspace) (path : String) : Except String (List UInt8) :=
  match locate path with
  | .file name =>
    match workspace.text? name with
    | some text => .ok text.toUTF8.toList
    | none => .error missingFileMessage
  | .slashed name | .below name =>
    if (workspace.text? name).isSome then .error notDirectoryMessage else .error missingFileMessage
  | .directory => .error directoryMessage
  | .missing => .error missingFileMessage

/-- Writes the text of a file, creating it or replacing its text, or gives the system's
message. -/
def write (workspace : Workspace) (path : String) (text : String) : Except String Workspace :=
  match locate path with
  | .file name =>
    if (workspace.text? name).isSome then
      .ok { files := workspace.files.map fun (held, old) => (held, if held == name then text else old) }
    else .ok { files := workspace.files ++ [(name, text)] }
  | .slashed name =>
    if (workspace.text? name).isSome then .error notDirectoryMessage else .error directoryMessage
  | .below name =>
    if (workspace.text? name).isSome then .error notDirectoryMessage else .error missingFileMessage
  | .directory => .error directoryMessage
  | .missing => .error missingFileMessage

/-- The files of a workspace that another one does not hold with the same text: those created or
changed since then, in the order of the workspace. -/
def changedSince (workspace earlier : Workspace) : List (String × String) :=
  workspace.files.filter fun (name, text) => earlier.text? name != some text

end Workspace

end Toolpath
