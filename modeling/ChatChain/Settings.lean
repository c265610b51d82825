import ChatChain.Flags
import ChatChain.Reply
import ChatChain.Settings.File

/-!
# Settings

What is in force after a settings file and the flags are put together.  Flags take precedence over
the file, and the file over the defaults.
-/

namespace ChatChain

/-- The settings in force. -/
structure Settings where
  grammar : Grammar := {}
  /-- The root of the temporary storage; none for the usual one. -/
  tempRoot? : Option String := none
  chainLimit : Nat := 10
  /-- The time in milliseconds that a step may take, if there is a limit. -/
  stepTimeout? : Option Nat := some 120000
  templateLimit : Nat := 10
  limits : Limits := {}
  store : CommandStore := {}
  deriving DecidableEq, Repr

namespace Settings

/-- A timeout as it is written; zero stands for none. -/
def timeoutOf (ms : Nat) : Option Nat :=
  if ms = 0 then none else some ms

/-- The limits of a file, with the defaults where it gives none. -/
def limitsOf (l : LimitSettings) : Limits :=
  let base : Limits := {}
  { maxText := l.maxText?.getD base.maxText
    maxFileSize := l.maxFileSize?.getD base.maxFileSize
    maxFiles := l.maxFiles?.getD base.maxFiles }

/-- Puts a settings file and flags together. -/
def resolve (file : SettingsFile) (flags : Flags) : Settings :=
  let base : Settings := {}
  { grammar := file.grammar
    tempRoot? := flags.tempRoot?.or file.runtime.tempRoot?
    chainLimit := (flags.chainLimit?.or file.runtime.chainLimit?).getD base.chainLimit
    stepTimeout? :=
      match flags.stepTimeout?.or file.runtime.stepTimeout? with
      | some ms => timeoutOf ms
      | none => base.stepTimeout?
    templateLimit := file.runtime.templateLimit?.getD base.templateLimit
    limits := limitsOf file.limits
    store :=
      { bannedUsers := file.bans.users
        bannedGuilds := file.bans.guilds
        templates := file.templates } }

end Settings

end ChatChain
