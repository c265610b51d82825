import ChatChain.Text.Blank

/-!
# File names

Names that users choose become parts of paths.  A safe name is a non-empty word of ASCII letters,
digits, points, hyphens and underscores that does not begin with a point; `sanitize` turns any
text into one.
-/

namespace ChatChain.FileName

/-- The name of a file whose own name holds nothing usable. -/
def fallback : String := "file"

/-- Whether a character may stand in a safe name. -/
def isSafeChar (c : Char) : Bool :=
  c.isAlphanum || c == '.' || c == '-' || c == '_'

/-- The character that stands for `c` in a safe name. -/
def safeChar (c : Char) : Char :=
  if isSafeChar c then c else '_'

/-- The characters of the safe name of `raw`, which may be none. -/
def safeChars (raw : List Char) : List Char :=
  ((Text.trimChars raw).map safeChar).dropWhile (· == '.')

/-- Reduces any text to a safe name: blanks at the ends go, unsafe characters become underscores,
and leading points go. -/
def sanitize (raw : String) : String :=
  match safeChars raw.toList with
  | [] => fallback
  | cs => String.ofList cs

/-- The part of a name behind its last point, in lower case.  A point at the front begins no
extension. -/
def extension? (name : String) : Option String :=
  let reversed := name.toList.reverse
  let extension := reversed.takeWhile (· != '.')
  match reversed.dropWhile (· != '.') with
  | [] | [_] => none
  | _ :: _ :: _ =>
    if name = ".." then none else some (String.ofList (extension.reverse.map Char.toLower))

end ChatChain.FileName
