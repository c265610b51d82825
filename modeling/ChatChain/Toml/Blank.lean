import ChatChain.Toml.Reader

/-!
# Blanks, comments and line ends

Only the space and the tab are blanks.  A line ends with a line feed, which a carriage return may
precede, and a comment runs to the end of its line.
-/

namespace ChatChain.Toml

/-- Whether a character separates the parts of a line. -/
def isBlank (c : Char) : Bool :=
  c == ' ' || c == '\t'

/-- Whether a character may stand in a comment: any but the control characters other than the
tab. -/
def isPrintable (c : Char) : Bool :=
  c == '\t' || (32 ≤ c.toNat && c.toNat != 127)

namespace Reader

/-- Blanks, which may be none. -/
def blanks : Reader Unit := do
  let _ ← span isBlank

/-- The end of a line. -/
def lineFeed : Reader Unit :=
  chars ['\n'] <|> chars ['\r', '\n']

/-- A comment without the end of its line. -/
def comment : Reader Unit := do
  let _ ← char '#'
  let _ ← span isPrintable

/-- What may stand behind the last part of a line: blanks, a comment, and the end of the line or of
the text. -/
def lineEnd : Reader Unit := do
  blanks
  let _ ← optional comment
  lineFeed <|> atEnd

/-- What may stand around the items of an array: blanks, line ends and whole comments. -/
def filling : Reader Unit := do
  let _ ← many ((do let _ ← span1 isBlank) <|> lineFeed <|> (comment *> lineFeed))

end Reader

end ChatChain.Toml
