import ChatChain.Builtin.Basic

/-!
# Waiting

`delay` waits before it passes its text on, and adds a note to the reply.  Its reply is deferred,
so that the message is acknowledged while the chain still runs.
-/

namespace ChatChain.Builtin

/-- The longest wait in milliseconds. -/
def maxDelay : Nat := 60000

/-- `delay`: passes its text on later. -/
def delayCommand : Command where
  definition :=
    { name := "delay"
      description := "Waits before passing text on."
      arguments := [
        textArgument,
        { key := "ms"
          kind := .long
          default? := some (.long 1000)
          description := "milliseconds to wait, up to 60000" }]
      defaultKey? := some "text"
      input := .text
      output := .text
      deferReply := true }
  task _ b _ := do
    let text ← boundText b "text"
    let ms ← requireRange "ms" 0 maxDelay ((b.whole? "ms").getD 1000)
    .sleep ms <| .done
      { TaskOutput.text text with
        message? := some s!"(waited {Number.writeNat ms}ms)"
        mode := .append }

end ChatChain.Builtin
