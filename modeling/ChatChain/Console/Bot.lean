import ChatChain.Bot
import ChatChain.Builtin
import ChatChain.Console.Delivery
import ChatChain.Settings

/-!
# Bots on consoles

The bot of a console has the flags and the settings of its session.  One without either has the
built-in commands and nothing else.
-/

namespace ChatChain.Console

/-- The bot of a console. -/
def botOf (flags : Flags) (settings : Settings) (registry : Registry) : Bot Desk :=
  { grammar := settings.grammar
    registry
    store := settings.store.access
    platform := platform settings.limits flags.outputDir? settings.tempRoot?
    chainLimit := settings.chainLimit
    templateLimit := settings.templateLimit
    stepTimeout? := settings.stepTimeout? }

/-- The bot of a console without flags and settings. -/
def plainBot : Bot Desk :=
  botOf {} {} ((Builtin.registry {} []).toOption.getD {})

/-- A message for such a bot. -/
def plainMessage (content : String) : Message :=
  { id := "1", channel := "here", author := "someone", content }

/-- It has the built-in commands. -/
theorem registry_plainBot : Builtin.registry {} [] = .ok plainBot.registry := by
  have hok : (Builtin.registry {} []).isOk = true := by decide +kernel
  unfold plainBot
  cases hregistry : Builtin.registry {} [] with
  | ok registry => rfl
  | error e => exact absurd hok (by simp [hregistry, Except.isOk, Except.toBool])

end ChatChain.Console
