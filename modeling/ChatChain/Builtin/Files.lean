import ChatChain.Builtin.Basic
import ChatChain.Digest.Sha256

/-!
# Commands on files

`write`, `cat`, `duplicate` and `hash`.  The last two treat their files side by side; a schedule
says which file's work makes the next step, and the results come in the order of the files
whatever it says.  The work of a file may also stall, and another one may fail in the meantime.
-/

namespace ChatChain.Builtin

/-- The name of a file that is not given one. -/
def defaultFileName : String := "output.txt"

/-- The name for the file of `write`: the given one unless it is blank. -/
def outputName (name? : Option String) : String :=
  match name? with
  | some name => if Text.isBlankText name then defaultFileName else name
  | none => defaultFileName

/-- `write`: puts its text into a file. -/
def writeCommand : Command where
  definition :=
    { name := "write"
      description := "Writes text into a file."
      arguments := [
        textArgument,
        { key := "name", kind := .text, default? := some (.text defaultFileName) }]
      defaultKey? := some "text"
      input := .text
      output := .files }
  task _ b _ := do
    let text ← boundText b "text"
    let handle ← Routine.write (outputName (b.text? "name")) text.toUTF8
    return { data := .files [handle] }

/-- The text in a file.  Bytes that are no text are the user's affair. -/
def readText (handle : FileHandle) : Routine String := do
  match String.fromUTF8? (← Routine.read handle) with
  | some text => return text
  | none => .fail (.forUsers s!"`{handle.name}` is not a text file.")

/-- `cat`: the texts in its files, line after line. -/
def catCommand : Command where
  definition :=
    { name := "cat"
      description := "Shows the contents of text files."
      input := .files
      output := .text
      requireInput := true }
  task _ _ input := do
    return .text ("\n".intercalate (← Routine.each readText input.handles))

/-- Copies a file `count` times under numbered names. -/
def copyFile (count : Nat) (handle : FileHandle) : Routine (List FileHandle) := do
  let content ← Routine.read handle
  Routine.each
    (fun n => Routine.write s!"{Number.writeNat (n + 1)}-{handle.name}" content)
    (List.range count)

/-- The most copies that `duplicate` makes of a file. -/
def maxDuplicates : Nat := 5

/-- `duplicate`: copies of its files.  What stalls may depend on the turn and the file. -/
def duplicateCommand (schedule : List Nat)
    (stalls : Nat → Nat → Option Routine.Stall := fun _ _ => none) : Command where
  definition :=
    { name := "duplicate"
      description := "Copies every file several times."
      arguments := [
        { key := "count"
          kind := .integer
          default? := some (.integer 2)
          description := "copies per file, 1 to 5" }]
      input := .files
      output := .files }
  task context b input := do
    let count ← requireRange "count" 1 maxDuplicates ((b.whole? "count").getD 2)
    let copies ← Routine.sideBySide schedule (stalls context.turn) (copyFile count) input.handles
    return { data := .files copies.flatten }

/-- The digest of a file with its name. -/
def hashLine (handle : FileHandle) : Routine String := do
  return s!"{Digest.sha256 (← Routine.read handle)}  {handle.name}"

/-- `hash`: the digests of its files.  What stalls may depend on the turn and the file. -/
def hashCommand (schedule : List Nat)
    (stalls : Nat → Nat → Option Routine.Stall := fun _ _ => none) : Command where
  definition :=
    { name := "hash"
      description := "Prints the SHA-256 digest of every file."
      input := .files
      output := .text
      requireInput := true }
  task context _ input := do
    return .text ("\n".intercalate
      (← Routine.sideBySide schedule (stalls context.turn) hashLine input.handles))

end ChatChain.Builtin
