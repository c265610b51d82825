import ChatChain.Builtin.Basic

/-!
# Commands on the bot itself

`help` lists the registered commands or describes one of them, and `guild` names the current
server.
-/

namespace ChatChain.Builtin

/-- The line for a command in the list of all commands. -/
def overviewLine (mark : Char) (d : Definition) : String :=
  s!"`{mark}{d.name}` ({d.input.word} -> {d.output.word}) {d.description}"

/-- The list of all commands. -/
def overview (mark : Char) (catalog : List Definition) : String :=
  "\n".intercalate
    (["Commands:"] ++ catalog.map (overviewLine mark) ++
      [s!"Chain commands in one message, e.g. `{mark}echo hi {mark}upper`."])

/-- The spelling of a named argument in a description. -/
def flagSpelling (key : String) : String :=
  "-" ++ key

/-- The line for an argument in the description of a command. -/
def argumentLine (d : Definition) (a : Argument) : String :=
  let head :=
    if d.isDefaultKey a.key then s!"- `{a.key}` (positional, {a.kind.word})"
    else s!"- `{flagSpelling a.key}` ({a.kind.word})"
  let required := if a.required then ", required" else ""
  let default := (a.default?.map fun v => s!", default `{v.render}`").getD ""
  let choices := if a.choices = [] then "" else ", one of " ++ "/".intercalate a.choices
  let description := if a.description = "" then "" else ": " ++ a.description
  head ++ required ++ default ++ choices ++ description

/-- The first line of the description of a command, with the command's spelling. -/
def titleLine (mark : Char) (d : Definition) : String :=
  s!"`{mark}{d.name}`: {d.description}"

/-- The description of a command. -/
def describe (mark : Char) (d : Definition) : String :=
  "\n".intercalate
    ([titleLine mark d, s!"Takes {d.input.word}, produces {d.output.word}."] ++
      (if d.requireInput then ["Needs input from an attachment or a previous command."] else []) ++
      (if d.guildOnly then ["Only available in servers."] else []) ++
      d.arguments.map (argumentLine d))

/-- The name that is asked for, without blanks around it and without marks in front. -/
def requestedName? (mark : Char) (text? : Option String) : Option String :=
  match text? with
  | none => none
  | some text =>
    let name := (Text.trimChars text.toList).dropWhile (· == mark)
    if name.isEmpty then none else some (String.ofList name)

/-- `help`: the list of all commands, or the description of one. -/
def helpCommand (mark : Char) : Command where
  definition :=
    { name := "help"
      description := "Lists commands, or shows how to use one."
      arguments := [{ key := "command", kind := .text, description := "command to describe" }]
      defaultKey? := some "command"
      input := .nothing
      output := .text }
  task context b _ :=
    match requestedName? mark (b.text? "command") with
    | none => return .text (overview mark context.catalog)
    | some name =>
      match context.catalog.find? (·.name == name) with
      | some d => return .text (describe mark d)
      | none => .fail (.forUsers s!"Command `{mark}{name}` not found.")

/-- `guild`: the current server. -/
def guildCommand : Command where
  definition :=
    { name := "guild"
      description := "Shows the id of the current server."
      input := .nothing
      output := .text
      guildOnly := true }
  task context _ _ :=
    match context.guild? with
    | some id => return .text s!"This server's id is {id}."
    | none => .fail (.internal "guild-only command ran outside a guild")

end ChatChain.Builtin
