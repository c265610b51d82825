import ChatChain.Console.Bot
import ChatChain.Console.Input
import ChatChain.Settings.Decoding

/-!
# Console sessions

A session is a bot on a console.  It handles the one message of the command line, or every line of
the input that is not blank, and numbers the messages from one.

* `Session.start` loads the settings and makes the output directory.
* `Session.handle` handles a message.
* `run` is a whole session.
-/

namespace ChatChain.Console

/-- Why a console gives up. -/
inductive ConsoleError where
  | settingsUnreadable (path : String)
  | settingsRefused (path : String)
  | outputDirectory (path : String)
  | builtins
  | attachmentUnreadable (path : String)
  | attachmentNoFile (path : String)
  | chainFailed (reasonCode : String)
  | inputUnreadable
  deriving DecidableEq, Repr

/-- The wording of an error. -/
def ConsoleError.message : ConsoleError → String
  | settingsUnreadable path => s!"failed to read pipebot config {path}"
  | settingsRefused path => s!"failed to parse pipebot config {path}"
  | outputDirectory path => s!"failed to create {path}"
  | builtins => "failed to register built-in commands"
  | attachmentUnreadable path => s!"failed to read attachment {path}"
  | attachmentNoFile path => s!"attachment {path} is not a file"
  | chainFailed reasonCode => s!"chain failed: {reasonCode}"
  | inputUnreadable => "failed to read stdin"

/-- The channel of all messages. -/
def channelName : String := "console"

/-- A bot on a console. -/
structure Session where
  flags : Flags
  settings : Settings
  bot : Bot Desk
  world : World Desk
  /-- How many messages have been handled. -/
  handled : Nat := 0
  /-- The reports on them, in order. -/
  reports : List Report := []

/-! ## The beginning -/

/-- Loads the settings file, if there is one. -/
def loadSettings (path? : Option String) (d : Desk) : Except ConsoleError SettingsFile :=
  match path? with
  | none => .ok {}
  | some path =>
    match (d.read path).toOption.bind String.fromUTF8? with
    | none => .error (.settingsUnreadable path)
    | some text => (SettingsFile.parse text).mapError fun _ => .settingsRefused path

/-- Makes the output directory, if there is one. -/
def makeOutputDirectory (path? : Option String) (d : Desk) : Except ConsoleError Unit × Desk :=
  match path? with
  | none => (.ok (), d)
  | some path =>
    let (made, d) := d.makeDirectories path
    (made.mapError fun _ => .outputDirectory path, d)

namespace Session

/-- Begins a session. -/
def start (flags : Flags) (d : Desk) : Except ConsoleError Session × Desk :=
  match loadSettings flags.config? d with
  | .error e => (.error e, d)
  | .ok file =>
    match makeOutputDirectory flags.outputDir? d with
    | (.error e, d) => (.error e, d)
    | (.ok (), d) =>
      let settings := Settings.resolve file flags
      match Builtin.registry settings.grammar [] with
      | .error _ => (.error .builtins, d)
      | .ok registry =>
        (.ok { flags, settings, bot := botOf flags settings registry, world := { desk := d } }, d)

/-! ## Messages -/

/-- An attachment at a path, which must be that of a regular file. -/
def attachment (d : Desk) (path : String) : Except ConsoleError Attachment :=
  match d.node path with
  | .error _ => .error (.attachmentUnreadable path)
  | .ok .directory => .error (.attachmentNoFile path)
  | .ok (.file _) => .ok { name := (Path.normal (Path.ofText path)).getLastD "", location := path }

/-- The next message. -/
def message (s : Session) (content : String) (attachments : List Attachment) : Message :=
  let number := Number.writeNat (s.handled + 1)
  { id := s!"console-{number}"
    channel := channelName
    author := s.flags.author
    guild? := s.flags.guild?
    content
    attachments }

/-- Handles a message.  There is no answer when that never ends. -/
def handle (s : Session) (content : String) (attachments : List Attachment) :
    Option (Report × Session) :=
  let m := s.message content attachments
  ((s.bot.handle m.id m).run s.world).map fun (report, world) =>
    (report, { s with world, handled := s.handled + 1, reports := s.reports ++ [report] })

/-- Handles the one message of the command line. -/
def once (s : Session) (content : String) : Option (Session × Except ConsoleError Unit) :=
  match s.flags.attach.mapM (attachment s.world.desk) with
  | .error e => some (s, .error e)
  | .ok attachments =>
    (s.handle content attachments).map fun (report, s) =>
      match report.failure? with
      | some failure => (s, .error (.chainFailed failure.reasonCode))
      | none => (s, .ok ())

/-- Greets the user. -/
def greet (s : Session) : Session :=
  let mark := s.bot.grammar.commandMark
  let banner := s!"pipebot ready; type `{mark}help` for commands, Ctrl-D to quit.\n"
  { s with world := { s.world with desk := s.world.desk.print banner } }

/-- Handles a line of input, unless it is blank. -/
def line (s : Session) (text : String) : Option Session :=
  if Text.isBlankText text then some s else (s.handle text []).map Prod.snd

/-- Handles lines of input up to one that is no text. -/
def eachLine (s : Session) : List (Option String) → Option (Session × Except ConsoleError Unit)
  | [] => some (s, .ok ())
  | none :: _ => some (s, .error .inputUnreadable)
  | some text :: rest => (s.line text).bind (eachLine · rest)

end Session

/-! ## Whole sessions -/

/-- What a session leaves. -/
structure Outcome where
  desk : Desk
  /-- The reports that are to be shown. -/
  reports : List Report := []
  result : Except ConsoleError Unit

/-- What is left when a session has ended. -/
def Session.outcome (s : Session) (result : Except ConsoleError Unit) : Outcome :=
  { desk := s.world.desk
    reports := if s.flags.report then s.reports else []
    result }

/-- A whole session with the given input.  There is no outcome when it never ends. -/
def run (flags : Flags) (d : Desk) (input : ByteArray) : Option Outcome :=
  match Session.start flags d with
  | (.error e, d) => some { desk := d, result := .error e }
  | (.ok s, _) =>
    let ended :=
      match flags.message? with
      | some content => s.once content
      | none => s.greet.eachLine (lines input)
    ended.map fun (s, result) => s.outcome result

end ChatChain.Console
