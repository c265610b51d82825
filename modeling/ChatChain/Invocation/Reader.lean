import ChatChain.Invocation

/-!
# Reading one invocation after the other

A reader stands at a place in a text.  Every request moves it to the next invocation, which it
hands out, and then to the end of it.  Nothing is read before it is asked for.

* `Grammar.findHead?` looks for the next word that begins an invocation.
* `InvocationReader.next` hands out an invocation, and `answers` is what several requests yield.
-/

namespace ChatChain

/-- The head of an invocation in a text, with the places where its word begins and ends. -/
structure FoundHead where
  start : Nat
  stop : Nat
  head : CommandHead
  deriving DecidableEq, Repr

namespace Grammar

/-- Whether a word may begin at a place in a text: at the front, or behind a blank. -/
def mayBegin (text : List Char) (place : Nat) : Bool :=
  match (text.take place).getLast? with
  | some before => Text.isBlank before
  | none => true

/-- The head of the invocation that begins at a place. -/
def headAt? (g : Grammar) (text : List Char) (place : Nat) : Option FoundHead :=
  if mayBegin text place then
    (g.commandHead? (text.drop place)).map fun found =>
      { start := place, stop := place + found.2, head := found.1 }
  else
    none

/-- The head of the first invocation that begins at a place or behind it. -/
def findHead? (g : Grammar) (text : List Char) (place : Nat) : Option FoundHead :=
  (List.range' place (text.length - place)).findSome? (g.headAt? text)

end Grammar

/-- A text and the place from which it is read on. -/
structure InvocationReader where
  grammar : Grammar
  text : List Char
  place : Nat := 0
  deriving DecidableEq, Repr

namespace InvocationReader

/-- A reader at the front of a text. -/
def ofText (g : Grammar) (text : String) : InvocationReader :=
  { grammar := g, text := text.toList }

/-- The end of an invocation whose word ends at a place: the next invocation, or the end of the
text. -/
def regionEnd (r : InvocationReader) (place : Nat) : Nat :=
  ((r.grammar.findHead? r.text place).map FoundHead.start).getD r.text.length

/-- Hands out the next invocation and moves behind it. -/
def next (r : InvocationReader) : Option Invocation × InvocationReader :=
  match r.grammar.findHead? r.text r.place with
  | none => (none, { r with place := r.text.length })
  | some found =>
    let stop := r.regionEnd found.stop
    let region := (r.text.drop found.stop).take (stop - found.stop)
    (some (Invocation.ofRegion r.grammar found.head region), { r with place := stop })

/-- What a number of requests in a row yield. -/
def answers : Nat → InvocationReader → List (Option Invocation)
  | 0, _ => []
  | n + 1, r => r.next.1 :: answers n r.next.2

end InvocationReader

end ChatChain
