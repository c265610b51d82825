/-!
# Cancellation tokens

Tokens come in families: a clone belongs to the family of its model, and cancelling one token
cancels all of its family for good.  A family has a flag and a notifier.  A waiter does nothing
until it is polled for the first time; then it registers with the notifier, looks at the flag,
and waits for a signal if the flag is not up.

* `Notifier` is what a family passes signals on with, and `Notifier.counting` counts the signals.
* `Tokens` is the state of any number of tokens and waiters over a notifier.
* `CancellationStep` lists what can happen to them, and `Tokens.perform` lets it happen.
-/

namespace ChatChain

/-- A notifier hands out tickets, and a signal reaches tickets that are handed out. -/
structure Notifier where
  State : Type
  Ticket : Type
  initial : State
  /-- Hands out a ticket. -/
  register : State → Ticket × State
  signal : State → State
  /-- Whether a signal has reached a ticket. -/
  isReached : State → Ticket → Bool

/-- The notifier that counts its signals.  A ticket is the count at which it was handed out. -/
def Notifier.counting : Notifier where
  State := Nat
  Ticket := Nat
  initial := 0
  register count := (count, count)
  signal count := count + 1
  isReached count ticket := ticket < count

/-- What the tokens of a family share. -/
structure Family (n : Notifier) where
  cancelled : Bool := false
  notifier : n.State := n.initial

/-- How far a waiter has come. -/
inductive WaiterStage (n : Notifier) where
  /-- It has not been polled. -/
  | idle
  /-- It has been polled and waits until a signal reaches its ticket. -/
  | waiting (ticket : n.Ticket)
  | done

/-- A waiter for one family. -/
structure Waiter (n : Notifier) where
  family : Nat
  stage : WaiterStage n := .idle

/-- Tokens and waiters. -/
structure Tokens (n : Notifier) where
  families : List (Family n) := [{}]
  /-- The family of every token. -/
  tokens : List Nat := [0]
  waiters : List (Waiter n) := []

/-- What can happen to tokens and waiters, which are numbered in the order in which they were
made. -/
inductive CancellationStep where
  | newToken
  | clone (token : Nat)
  | cancel (token : Nat)
  /-- Makes a waiter for the family of a token. -/
  | wait (token : Nat)
  | poll (waiter : Nat)
  deriving DecidableEq, Repr

variable {n : Notifier}

/-- Raises the flag.  Only the first one to raise it sends a signal. -/
def Family.cancel (f : Family n) : Family n :=
  if f.cancelled then f else { cancelled := true, notifier := n.signal f.notifier }

/-- Hands out a ticket of the notifier. -/
def Family.register (f : Family n) : n.Ticket × Family n :=
  ((n.register f.notifier).1, { f with notifier := (n.register f.notifier).2 })

/-- The stage of a waiter that looks at its ticket. -/
def Family.await (f : Family n) (ticket : n.Ticket) : WaiterStage n :=
  if n.isReached f.notifier ticket then .done else .waiting ticket

namespace WaiterStage

/-- The stage of a waiter after a poll, with what becomes of its family.  The first poll registers
before it looks at the flag; later ones look at the ticket only. -/
def poll (f : Family n) : WaiterStage n → WaiterStage n × Family n
  | .idle =>
    let (ticket, f) := f.register
    (if f.cancelled then .done else f.await ticket, f)
  | .waiting ticket => (f.await ticket, f)
  | .done => (.done, f)

def isDone : WaiterStage n → Bool
  | .done => true
  | _ => false

end WaiterStage

namespace Tokens

/-- The family of a token, with its number. -/
def family? (c : Tokens n) (token : Nat) : Option (Nat × Family n) := do
  let number ← c.tokens[token]?
  let f ← c.families[number]?
  some (number, f)

/-- Makes a token of a new family. -/
def newToken (c : Tokens n) : Tokens n :=
  { c with families := c.families ++ [{}], tokens := c.tokens ++ [c.families.length] }

/-- Makes a token of the family of another one. -/
def clone (c : Tokens n) (token : Nat) : Tokens n :=
  match c.tokens[token]? with
  | some number => { c with tokens := c.tokens ++ [number] }
  | none => c

/-- Cancels the family of a token. -/
def cancel (c : Tokens n) (token : Nat) : Tokens n :=
  match c.family? token with
  | some (number, f) => { c with families := c.families.set number f.cancel }
  | none => c

/-- Makes a waiter for the family of a token. -/
def wait (c : Tokens n) (token : Nat) : Tokens n :=
  match c.tokens[token]? with
  | some number => { c with waiters := c.waiters ++ [{ family := number }] }
  | none => c

/-- A waiter, with its family. -/
def waiter? (c : Tokens n) (waiter : Nat) : Option (Waiter n × Family n) := do
  let w ← c.waiters[waiter]?
  let f ← c.families[w.family]?
  some (w, f)

/-- Polls a waiter once. -/
def poll (c : Tokens n) (waiter : Nat) : Tokens n :=
  match c.waiter? waiter with
  | some (w, f) =>
    let (stage, f) := w.stage.poll f
    { c with
      families := c.families.set w.family f
      waiters := c.waiters.set waiter { w with stage } }
  | none => c

/-- Does one step. -/
def perform (c : Tokens n) : CancellationStep → Tokens n
  | .newToken => c.newToken
  | .clone token => c.clone token
  | .cancel token => c.cancel token
  | .wait token => c.wait token
  | .poll waiter => c.poll waiter

/-- Does steps in order.  The answer has the state after every one of them. -/
def performAll (c : Tokens n) : List CancellationStep → List (Tokens n)
  | [] => []
  | step :: steps => c.perform step :: (c.perform step).performAll steps

/-- For every token, whether it is cancelled. -/
def tokenStates (c : Tokens n) : List Bool :=
  c.tokens.map fun number => (c.families[number]?.map (·.cancelled)).getD false

/-- For every waiter, whether it is done. -/
def waiterStates (c : Tokens n) : List Bool :=
  c.waiters.map (·.stage.isDone)

end Tokens

/-- Tokens and waiters over the notifier that counts its signals. -/
abbrev Cancellation : Type :=
  Tokens .counting

/-- Does steps in order.  The answer has the state after every one of them. -/
def Cancellation.performAll (c : Cancellation) (steps : List CancellationStep) :
    List Cancellation :=
  Tokens.performAll c steps

end ChatChain
