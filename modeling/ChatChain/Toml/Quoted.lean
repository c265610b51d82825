import ChatChain.Digest.Hex
import ChatChain.Toml.Blank

/-!
# Strings

A string stands between double quotes, where a backslash begins an escape, or between single
quotes, where every character stands for itself.  Three quotes in place of one open a string of
several lines: its first line end does not count, every other one counts as a line feed, and up to
two quotes may stand side by side in it, also right in front of the closing ones.
-/

namespace ChatChain.Toml

/-- Whether a character stands for itself between the given quotes. -/
def isPlain (quote c : Char) : Bool :=
  isPrintable c && c != quote && !(quote == '"' && c == '\\')

/-- The character that a one-letter escape stands for. -/
def escaped? : Char → Option Char
  | 'b' => some '\x08'
  | 't' => some '\t'
  | 'n' => some '\n'
  | 'f' => some '\x0c'
  | 'r' => some '\r'
  | '"' => some '"'
  | '\\' => some '\\'
  | _ => none

/-- The character with a code point, unless that is a surrogate or too large. -/
def charOf? (codePoint : Nat) : Option Char :=
  if codePoint.isValidChar then some (Char.ofNat codePoint) else none

/-- The number that hexadecimal digits write. -/
def hexNumber? (cs : List Char) : Option Nat :=
  cs.foldlM (fun n c => (Digest.hexValue? c).map fun d => 16 * n + d) 0

namespace Reader

/-- Exactly `n` characters. -/
def exactly (n : Nat) : Reader (List Char) := fun cs =>
  if n ≤ cs.length then some (cs.take n, cs.drop n) else none

/-- The character with a code point of `n` hexadecimal digits. -/
def codePoint (n : Nat) : Reader Char := do
  let digits ← exactly n
  ofOption ((hexNumber? digits).bind charOf?)

/-- What stands behind the backslash of an escape. -/
def escape : Reader Char := do
  match ← satisfying fun _ => true with
  | 'u' => codePoint 4
  | 'U' => codePoint 8
  | c => ofOption (escaped? c)

/-- A part of a string on one line. -/
def piece (quote : Char) : Reader (List Char) :=
  span1 (isPlain quote) <|>
    (if quote == '"' then do return [← char '\\' *> escape] else failure)

/-- A string on one line between the given quotes. -/
def oneLine (quote : Char) : Reader (List Char) := do
  let _ ← char quote
  let pieces ← many (piece quote)
  let _ ← char quote
  return pieces.flatten

/-- A backslash at the end of a line, which takes away all blanks and line ends behind it. -/
def continuation : Reader (List Char) := do
  let _ ← char '\\'
  blanks
  lineFeed
  let _ ← many ((do let _ ← span1 isBlank) <|> lineFeed)
  return []

/-- One or two quotes that do not close a string of several lines. -/
def innerQuotes (quote : Char) : Reader (List Char) := do
  let quotes ← span1 (· == quote)
  if quotes.length < 3 then return quotes else failure

/-- A part of a string of several lines. -/
def linePiece (quote : Char) : Reader (List Char) :=
  piece quote <|> (do lineFeed; return ['\n']) <|> innerQuotes quote <|>
    (if quote == '"' then continuation else failure)

/-- The end of a string of several lines: the three closing quotes, with up to two quotes in front
of them that belong to the string. -/
def closing (quote : Char) : Reader (List Char) := do
  let quotes ← span1 (· == quote)
  if 3 ≤ quotes.length ∧ quotes.length ≤ 5 then return quotes.drop 3 else failure

/-- A string of several lines between the given quotes. -/
def severalLines (quote : Char) : Reader (List Char) := do
  chars [quote, quote, quote]
  let _ ← optional lineFeed
  let pieces ← many (linePiece quote)
  let last ← closing quote
  return pieces.flatten ++ last

/-- A string of any kind. -/
def quoted : Reader String := do
  let cs ← severalLines '"' <|> oneLine '"' <|> severalLines '\'' <|> oneLine '\''
  return String.ofList cs

end Reader

end ChatChain.Toml
