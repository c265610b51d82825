import ChatChain.FileSystem.Access

/-!
# The desk of a console

A console works with the files around it and prints.  It writes paths as text: relative ones begin
at the working directory.
-/

namespace ChatChain

/-- The files around a console, and what it has printed. -/
structure Desk where
  files : FileSystem := {}
  workingDirectory : Path := []
  printed : String := ""

namespace Desk

/-- Where a written path begins. -/
def origin (d : Desk) (path : String) : Path :=
  if Path.isAbsolute path then [] else d.workingDirectory

/-- Where a written path leads. -/
def locate (d : Desk) (path : String) : Except FileError Location :=
  d.files.locate (d.origin path) (Path.ofText path)

/-- What stands at a path. -/
def node (d : Desk) (path : String) : Except FileError Node := do
  d.files.nodeAt (← d.locate path)

/-- Reads a file. -/
def read (d : Desk) (path : String) : Except FileError ByteArray := do
  d.files.readAt (← d.locate path)

/-- Writes a file. -/
def write (d : Desk) (path : String) (content : ByteArray) : Except FileError Desk := do
  return { d with files := ← d.files.writeAt content (← d.locate path) }

/-- Makes the directories that lead to what a path names. -/
def makeParents (d : Desk) (path : String) : Except FileError Unit × Desk :=
  let (made, files) := d.files.makeParents (d.origin path) (Path.ofText path)
  (made, { d with files })

/-- Makes a directory after those that lead to it. -/
def makeDirectories (d : Desk) (path : String) : Except FileError Unit × Desk :=
  let (made, files) := d.files.makeDirectoriesIn (d.origin path) (Path.ofText path)
  (made, { d with files })

/-- Prints a text. -/
def print (d : Desk) (text : String) : Desk :=
  { d with printed := d.printed ++ text }

/-- The path of a name in a directory, as it is written. -/
def join (directory name : String) : String :=
  match directory.toList.getLast? with
  | none | some '/' => directory ++ name
  | some _ => directory ++ "/" ++ name

end Desk

end ChatChain
