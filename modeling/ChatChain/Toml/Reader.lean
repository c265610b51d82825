/-!
# Reading from the front of a text

A reader takes something off the front of a text, or fails.  Readers run in order with `do`;
`p <|> q` tries `q` on the same text where `p` fails.

* `Reader.many` repeats a reader as long as it succeeds and takes something off.
* `Reader.separated` reads items with a separator between two of them.
-/

namespace ChatChain.Toml

/-- A reader of something of type `α`. -/
abbrev Reader (α : Type) : Type :=
  StateT (List Char) Option α

namespace Reader

variable {α β : Type}

/-- The next character, which stays. -/
def peek? : Reader (Option Char) := fun cs =>
  some (cs.head?, cs)

/-- A character with a property. -/
def satisfying (p : Char → Bool) : Reader Char
  | c :: cs => if p c then some (c, cs) else none
  | [] => none

/-- The given character. -/
def char (c : Char) : Reader Char :=
  satisfying (· == c)

/-- The given characters. -/
def chars (expected : List Char) : Reader Unit := fun cs =>
  if expected.isPrefixOf cs then some ((), cs.drop expected.length) else none

/-- The longest front with a property, which may be empty. -/
def span (p : Char → Bool) : Reader (List Char) := fun cs =>
  some (cs.takeWhile p, cs.dropWhile p)

/-- The longest front with a property, which may not be empty. -/
def span1 (p : Char → Bool) : Reader (List Char) := fun cs =>
  if (cs.takeWhile p).isEmpty then none else span p cs

/-- The end of the text. -/
def atEnd : Reader Unit
  | [] => some ((), [])
  | _ :: _ => none

/-- Reads something that may be missing. -/
def optional (p : Reader α) : Reader (Option α) := fun cs =>
  match p cs with
  | some (a, rest) => some (some a, rest)
  | none => some (none, cs)

/-- Reads as often as possible. -/
def many (p : Reader α) (cs : List Char) : Option (List α × List Char) :=
  match p cs with
  | some (a, rest) =>
    if rest.length < cs.length then
      (many p rest).map fun found => (a :: found.1, found.2)
    else
      some ([], cs)
  | none => some ([], cs)
termination_by cs.length

/-- Reads items with a separator between two of them; there may be none. -/
def separated (p : Reader α) (separator : Reader β) : Reader (List α) :=
  (do
    let first ← p
    let more ← many (separator *> p)
    return first :: more) <|> pure []

/-- A result that must exist. -/
def ofOption (a? : Option α) : Reader α :=
  StateT.lift a?

/-- What a reader makes of a whole text. -/
def readAll? (p : Reader α) (text : String) : Option α :=
  ((p <* atEnd) text.toList).map Prod.fst

end Reader

end ChatChain.Toml
