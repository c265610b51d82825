import ChatChain.Task

/-!
# The registry of commands

A registry is made once from a list of commands and holds each of them under its name.  The first
command that is invalid or repeats a name spoils the list.
-/

namespace ChatChain

/-- The registered commands by name. -/
structure Registry where
  commands : Dict Command := {}

namespace Registry

/-- Adds a command: its definition must be valid and its name free. -/
def register (r : Registry) (c : Command) : Except CommandError Registry := do
  c.definition.check
  if r.commands.contains c.name then
    throw (.duplicateCommand c.name)
  return { commands := r.commands.insert c.name c }

/-- The registry of a list of commands. -/
def ofList (commands : List Command) : Except CommandError Registry :=
  commands.foldlM register {}

/-- The command with exactly this name. -/
def find? (r : Registry) (name : String) : Option Command :=
  r.commands.get? name

/-- The definitions in ascending order of their names. -/
def catalog (r : Registry) : List Definition :=
  r.commands.entries.map fun entry => entry.2.definition

/-- The number of commands. -/
def size (r : Registry) : Nat :=
  r.commands.entries.length

end Registry

end ChatChain
