/-!
# Lines of input

The input of a console is a sequence of bytes.  A line ends with a line feed, and a carriage return
in front of that does not belong to it; the last line may lack its end.
-/

namespace ChatChain.Console

/-- The byte that ends a line. -/
def lineFeed : UInt8 := 10

/-- The byte that may stand in front of the end of a line. -/
def carriageReturn : UInt8 := 13

/-- The bytes of a line whose end was a line feed, from its reversed bytes. -/
def endedLine : List UInt8 → List UInt8
  | [] => []
  | b :: rest => if b = carriageReturn then rest.reverse else (b :: rest).reverse

/-- Cuts bytes into lines, given the reversed bytes of the line so far. -/
def cutLines (line : List UInt8) : List UInt8 → List (List UInt8)
  | [] => if line.isEmpty then [] else [line.reverse]
  | b :: rest =>
    if b = lineFeed then endedLine line :: cutLines [] rest else cutLines (b :: line) rest

/-- The text of a line, unless its bytes are no text. -/
def lineText? (line : List UInt8) : Option String :=
  String.fromUTF8? ⟨line.toArray⟩

/-- The lines of an input, with none for a line that is no text. -/
def lines (input : ByteArray) : List (Option String) :=
  (cutLines [] input.toList).map lineText?

end ChatChain.Console
