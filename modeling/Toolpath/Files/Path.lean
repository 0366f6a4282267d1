/-!
# Paths and the system's messages about them

A path is text with components separated by `/`. Its file name is its last component, where
empty components and `.` are skipped; a path that ends in `..` or has no component names no
file. The extension of a file name is the text after its last point, unless the name has no
point or its only point leads it.

Reading or writing a file can fail; the messages below are those the system gives, with the
number of the error.
-/

namespace Toolpath

/-- The message of the system for a path that does not lead to a file. -/
def missingFileMessage : String := "No such file or directory (os error 2)"

/-- The message of the system for reading or writing a directory as a file. -/
def directoryMessage : String := "Is a directory (os error 21)"

/-- The message of the system for a path that goes on below a plain file. -/
def notDirectoryMessage : String := "Not a directory (os error 20)"

/-- The message of the system for text that is not valid UTF-8. -/
def invalidTextMessage : String := "stream did not contain valid UTF-8"

/-- The components of a path that name something: empty components and `.` are skipped. -/
def pathParts (path : String) : List String :=
  (path.splitOn "/").filter fun part => !part.isEmpty && part != "."

/-- The file name of a path, if it names one. -/
def fileName? (path : String) : Option String :=
  match (pathParts path).getLast? with
  | some ".." => none
  | other => other

/-- The extension of a path: the text after the last point of its file name, none when there is
no file name, or the name has no point or only a leading one. -/
def extension? (path : String) : Option String := do
  let name := (← fileName? path).toList
  let afterPoint := name.reverse.takeWhile (· != '.')
  if afterPoint.length == name.length then none
  else if afterPoint.length + 1 == name.length then none
  else some (String.ofList afterPoint.reverse)

/-- Reads bytes as UTF-8 text, or gives the system's message for text that is not. -/
def textOfBytes (bytes : List UInt8) : Except String String :=
  match String.fromUTF8? (ByteArray.mk bytes.toArray) with
  | some text => .ok text
  | none => .error invalidTextMessage

end Toolpath
