/-!
# Failures

A failure inside a task, a platform or a store has a root cause and layers of context around it.
Only a root cause that was written for users is ever shown to them.
-/

namespace ChatChain

/-- One layer of a failure. -/
structure Cause where
  message : String
  /-- Whether the message was written for users. -/
  forUsers : Bool := false
  deriving DecidableEq, Repr

/-- A root cause with the contexts around it, the innermost first. -/
structure Failure where
  root : Cause
  contexts : List Cause := []
  deriving DecidableEq, Repr

namespace Failure

/-- A failure that only operators see. -/
def internal (message : String) : Failure :=
  { root := { message } }

/-- A failure whose message was written for users. -/
def forUsers (message : String) : Failure :=
  { root := { message, forUsers := true } }

/-- Puts a layer of context around a failure. -/
def within (f : Failure) (message : String) : Failure :=
  { f with contexts := f.contexts ++ [{ message }] }

/-- The message that a user may see. -/
def userMessage? (f : Failure) : Option String :=
  if f.root.forUsers then some f.root.message else none

/-- All messages, the outermost first. -/
def trail (f : Failure) : String :=
  ": ".intercalate ((f.root :: f.contexts).reverse.map Cause.message)

end Failure

end ChatChain
