import ChatChain.Builtin.Delay
import ChatChain.Builtin.Files
import ChatChain.Builtin.Help
import ChatChain.Builtin.Number
import ChatChain.Builtin.Text

/-!
# The built-in commands

All commands that a bot brings along, and the registry of these and any others.
-/

namespace ChatChain.Builtin

/-- The built-in commands under a grammar, where files are treated side by side in the order of a
schedule. -/
def scheduledCommands (g : Grammar) (schedule : List Nat) : List Command :=
  [echoCommand, upperCommand, reverseCommand, caseCommand, repeatCommand, lengthCommand, addCommand,
    writeCommand, catCommand, duplicateCommand schedule, hashCommand schedule,
    helpCommand g.commandMark, guildCommand, delayCommand]

/-- The built-in commands under a grammar. -/
def commands (g : Grammar) : List Command :=
  scheduledCommands g []

/-- The registry of the built-in commands and some others. -/
def registry (g : Grammar) (others : List Command) : Except CommandError Registry :=
  Registry.ofList (commands g ++ others)

end ChatChain.Builtin
