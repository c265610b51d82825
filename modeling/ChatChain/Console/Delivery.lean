import ChatChain.Console.Desk
import ChatChain.Platform

/-!
# Delivery on a console

The platform of a console.  A reply is printed as a block: a header, the text, and a line for every
file.  With an output directory, the files are copied there first, under safe names, and a file
that cannot be copied fails the call before anything is printed.
-/

namespace ChatChain.Console

/-- Copies a file of a reply into a directory.  The answer has the path of the copy. -/
def copyOut (temporary : FileSystem) (directory : String) (file : OutboundFile) (d : Desk) :
    Except FileError (String × Desk) := do
  let destination := Desk.join directory (FileName.sanitize file.name)
  let content ← temporary.read file.path
  return (destination, ← d.write destination content)

/-- The line for a file of a reply. -/
def fileLine (file : OutboundFile) (saved? : Option String) : String :=
  let size := Number.writeNat file.size
  let line := s!"\n[file] {file.name} ({size} bytes)"
  match saved? with
  | some saved => line ++ " -> " ++ saved
  | none => line

/-- Copies the files of a reply in order, if there is an output directory, and writes their lines.
What was copied before a failure stays. -/
def fileLines (temporary : FileSystem) (outputDir? : Option String) :
    List OutboundFile → Desk → Except FileError String × Desk
  | [], d => (.ok "", d)
  | file :: rest, d =>
    match outputDir? with
    | none =>
      let (lines, d) := fileLines temporary outputDir? rest d
      (lines.map (fileLine file none ++ ·), d)
    | some directory =>
      match copyOut temporary directory file d with
      | .error e => (.error e, d)
      | .ok (saved, d) =>
        let (lines, d) := fileLines temporary outputDir? rest d
        (lines.map (fileLine file (some saved) ++ ·), d)

/-- Prints the block of a reply. -/
def deliver (temporary : FileSystem) (outputDir? : Option String) (header : String)
    (payload : Payload) (d : Desk) : Reaction Desk :=
  match fileLines temporary outputDir? payload.files d with
  | (.error e, d) => { desk := d, result := .error (.internal e.message) }
  | (.ok lines, d) => { desk := d.print (header ++ "\n" ++ payload.content ++ lines ++ "\n") }

/-- The header of a new message. -/
def messageHeader (payload : Payload) : String :=
  match payload.replyTo? with
  | some id => s!"[reply to {id}]"
  | none => "[message]"

/-- The block that acknowledges a message. -/
def acknowledgement (message : String) (ephemeral : Bool) : String :=
  let visibility := if ephemeral then " (only you)" else ""
  s!"[{message}] pipebot is thinking...{visibility}\n"

/-- What a console does on a call. -/
def react (outputDir? : Option String) (call : Call) (temporary : FileSystem) (d : Desk) :
    Reaction Desk :=
  match call with
  | .startTyping _ | .stopTyping _ | .download _ => { desk := d }
  | .createMessage _ payload => deliver temporary outputDir? (messageHeader payload) payload d
  | .deferReply message ephemeral => { desk := d.print (acknowledgement message ephemeral) }
  | .reply message payload =>
    deliver temporary outputDir? s!"[deferred reply to {message}]" payload d

/-- Copies the attachments of a message into the chain's store. -/
def download (m : Message) (d : Desk) : Desk × Routine (List FileHandle) :=
  (d, Routine.each (fun a => Routine.copyIn a.name (d.read a.location)) m.attachments)

/-- Makes the root of the temporary storage, if it is one of the desk's directories, so that a chain
can have its own one there. -/
def ensureRoot (tempRoot? : Option String) (chainId : String) (d : Desk) :
    Except Failure Unit × Desk :=
  match tempRoot? with
  | none => (.ok (), d)
  | some root =>
    let (made, d) := d.makeParents (Desk.join root (FileName.sanitize chainId))
    (made.mapError fun e => .internal e.message, d)

/-- The platform of a console. -/
def platform (limits : Limits) (outputDir? tempRoot? : Option String) : Platform Desk where
  limits := limits
  react := react outputDir?
  download := download
  ensureRoot := ensureRoot tempRoot?

end ChatChain.Console
