import ChatChain.Toml.Moment
import ChatChain.Toml.Numeral

/-!
# Documents

A document is a sequence of lines, each a pair, a header, or blank but for a comment.  Values nest
up to a depth of 79, and a key has at most 79 parts.

* `Reader.value` reads a value, `Reader.key` a key, and `Reader.line` a line.
* `parse?` reads a document; there is none when the text is malformed or its lines contradict each
  other.
-/

namespace ChatChain.Toml

/-- How deep arrays and tables in braces may nest, and how many parts a key may have. -/
def greatestDepth : Nat := 79

/-- Whether a character may stand in a key without quotes. -/
def isBareKeyChar (c : Char) : Bool :=
  c.isAlphanum || c == '-' || c == '_'

namespace Reader

/-! ## Keys -/

/-- One part of a key. -/
def keyPart : Reader String := do
  let cs ← span1 isBareKeyChar <|> oneLine '"' <|> oneLine '\''
  return String.ofList cs

/-- A key with the blanks around it. -/
def key : Reader Key := do
  let parts ← separated (do blanks; let part ← keyPart; blanks; return part) (char '.')
  match parts.getLast? with
  | some name =>
    if parts.length ≤ greatestDepth then return { parents := parts.dropLast, name } else failure
  | none => failure

/-! ## Values -/

/-- The words for the truth values. -/
def boolean : Reader Bool :=
  (do chars ['t', 'r', 'u', 'e']; return true) <|>
    (do chars ['f', 'a', 'l', 's', 'e']; return false)

/-- A value that holds no other values. -/
def scalar : Reader Item :=
  (do return .text (← quoted)) <|> (do return .moment (← moment)) <|>
    (do return .float (← float)) <|> (do return .integer (← integer)) <|>
    (do return .boolean (← boolean))

/-- An array whose items `item` reads.  A separator may stand behind the last one. -/
def array (item : Reader Item) : Reader (List Item) := do
  let _ ← char '['
  let items ← separated (do filling; let i ← item; filling; return i) (char ',')
  if !items.isEmpty then
    let _ ← optional (char ',')
  filling
  let _ ← char ']'
  return items

/-- A pair whose value `item` reads. -/
def pair (item : Reader Item) : Reader (Key × Item) := do
  let k ← key
  let _ ← char '='
  blanks
  return (k, ← item)

/-- A table in braces whose values `item` reads. -/
def braces (item : Reader Item) : Reader Entries := do
  let _ ← char '\x7b'
  let pairs ← separated (do let p ← pair item; blanks; return p) (char ',')
  blanks
  let _ ← char '\x7d'
  ofOption (Entries.ofPairs? pairs)

/-- A value in which at most `depth` arrays and tables nest. -/
def value : (depth : Nat) → Reader Item
  | 0 => scalar
  | depth + 1 =>
    scalar <|> (do return .array (← array (value depth))) <|>
      (do return .table .closed (← braces (value depth)))

/-! ## Lines -/

/-- The key of a header between two brackets. -/
def headerKey (opening closing : List Char) : Reader Key := do
  chars opening
  let k ← key
  chars closing
  return k

/-- A line that says something, without its end. -/
def statement : Reader Line :=
  (do return .rowHeader (← headerKey ['[', '['] [']', ']'])) <|>
    (do return .header (← headerKey ['['] [']'])) <|>
    (do
      let (k, v) ← pair (value greatestDepth)
      return .pair k v)

/-- A line with its end; a blank one says nothing. -/
def line : Reader (Option Line) := do
  blanks
  let said ← optional statement
  lineEnd
  return said

/-- The lines of a document, behind a byte order mark if there is one. -/
def document : Reader (List Line) := do
  let _ ← optional (char '\ufeff')
  return (← many line).filterMap id

end Reader

/-- The table that a document describes. -/
def parse? (text : String) : Option Entries :=
  (Reader.document.readAll? text).bind Entries.ofLines?

end ChatChain.Toml
