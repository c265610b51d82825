import ChatChain.CommandLine
import ChatChain.Console.Session
import ChatChain.Report.Printer

/-!
# The program

Runs a console session on the files, the input and the output of the process.  The files that a
session can look at are read beforehand, and what it wrote is written back after every message.
-/

namespace ChatChain.Program

open Console

/-! ## Files -/

/-- The entry of a directory at an absolute path. -/
def entryAt (path : Path) : IO.FS.DirEntry :=
  { root := "", fileName := "/".intercalate path }

/-- Looks at a file or directory and notes it on the desk. -/
def observe (d : Desk) (path : Path) : IO Desk := do
  if path = [] then return d
  try
    let entry := (entryAt path).path
    if ← entry.isDir then
      return { d with files := d.files.set path .directory }
    else
      return { d with files := d.files.set path (.file (← IO.FS.readBinFile entry)) }
  catch _ => return d

/-- Notes all that a written path leads through. -/
def observeAlong (d : Desk) (path : String) : IO Desk := do
  let mut d := d
  let mut here := d.origin path
  for name in Path.ofText path do
    here := Path.advance here name
    d ← observe d here
  return d

/-- Notes what is directly inside a directory. -/
def observeInside (d : Desk) (path : String) : IO Desk := do
  let .ok location := d.locate path | return d
  let mut d := d
  try
    for entry in ← (entryAt location.path).path.readDir do
      d ← observe d (location.path ++ [entry.fileName])
  catch _ => pure ()
  return d

/-- The desk of a process with the files that the flags name. -/
def openDesk (flags : Flags) : IO Desk := do
  let here := Path.normal (Path.ofText (← IO.currentDir).toString)
  let mut d : Desk := { workingDirectory := here }
  for n in List.range here.length do
    d ← observe d (here.take (n + 1))
  for path in flags.config?.toList ++ flags.attach ++ flags.outputDir?.toList do
    d ← observeAlong d path
  for path in flags.outputDir?.toList do
    d ← observeInside d path
  return d

/-- Writes to the disk what is new on the desk. -/
def writeBack (before after : Desk) : IO Unit := do
  for (path, node) in after.files.nodes.reverse do
    unless before.files.node? path = some node do
      match node with
      | .directory => IO.FS.createDirAll (entryAt path).path
      | .file content => IO.FS.writeBinFile (entryAt path).path content

/-! ## Input and output -/

/-- Reads the next line as reversed bytes.  The flag tells whether the input goes on. -/
partial def nextLine (input : IO.FS.Stream) (line : List UInt8) : IO (List UInt8 × Bool) := do
  match (← input.read 1).toList with
  | [] => return (line, false)
  | b :: _ => if b = lineFeed then return (line, true) else nextLine input (b :: line)

/-- Prints what a session has to say, spends the time it took, and forgets both. -/
def flush (before : Desk) (s : Session) : IO Session := do
  IO.sleep (UInt32.ofNat s.world.clock)
  let output ← IO.getStdout
  output.putStr s.world.desk.printed
  output.flush
  if s.flags.report then
    for r in s.reports do
      IO.eprintln (r.print s!"console-{s.handled}")
  writeBack before s.world.desk
  return { s with
    reports := []
    world :=
      { s.world with desk := { s.world.desk with printed := "" }, clock := 0, events := [] } }

/-- Handles the lines of the input one after the other. -/
partial def eachLine (input : IO.FS.Stream) (s : Session) : IO (Except ConsoleError Unit) := do
  let (line, more) ← nextLine input []
  if !more && line.isEmpty then return .ok ()
  match lineText? (if more then endedLine line else line.reverse) with
  | none => return .error .inputUnreadable
  | some text =>
    match s.line text with
    | none => return .ok ()
    | some next =>
      let next ← flush s.world.desk next
      if more then eachLine input next else return .ok ()

/-- Runs a session. -/
def session (flags : Flags) : IO (Except ConsoleError Unit) := do
  let d ← openDesk flags
  let (started, d') := Session.start flags d
  writeBack d d'
  match started with
  | .error e => return .error e
  | .ok s =>
    let mut d := s.world.desk
    for path in s.settings.tempRoot?.toList do
      d ← observeAlong d path
    let s := { s with world := { s.world with desk := d } }
    match flags.message? with
    | none => eachLine (← IO.getStdin) (← flush d s.greet)
    | some content =>
      match s.once content with
      | none => return .ok ()
      | some (s, result) =>
        let _ ← flush d s
        return result

/-! ## Usage -/

/-- The text for a command line that cannot be run. -/
def usageText : UsageError → String
  | .unknownArgument => "unexpected argument"
  | .missingValue => "a value is required"
  | .needlessValue => "a value was not expected"
  | .repeated => "an argument cannot be used multiple times"
  | .malformedValue => "invalid value"
  | .missingArgument => "--attach needs --message"
  | .helpRequested => "Runs chained chat commands from the console"
  | .versionRequested => "pipebot 0.1.0"

/-- Whether a command line asks for a text and nothing else. -/
def isRequest : UsageError → Bool
  | .helpRequested | .versionRequested => true
  | _ => false

/-- The variables of the process that stand in for parameters. -/
def readVariables : IO (List (String × String)) := do
  let mut found := []
  for (_, name) in Parameter.variables do
    for value in (← IO.getEnv name).toList do
      found := (name, value) :: found
  return found

/-- Runs a command line.  The answer is the exit code. -/
def run (args : List String) : IO UInt32 := do
  let found ← readVariables
  match CommandLine.parse args fun name => found.lookup name with
  | .error e =>
    if isRequest e then
      IO.println (usageText e)
      return 0
    IO.eprintln ("error: " ++ usageText e)
    return 2
  | .ok flags =>
    match ← session flags with
    | .ok () => return 0
    | .error e =>
      IO.eprintln ("Error: " ++ e.message)
      return 1

end ChatChain.Program

/-- Runs the program. -/
def main (args : List String) : IO UInt32 :=
  ChatChain.Program.run args
