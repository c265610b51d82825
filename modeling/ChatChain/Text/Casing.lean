import ChatChain.Text.Blank
import ChatChain.Text.Cased
import ChatChain.Text.Lowercase
import ChatChain.Text.Uppercase

/-!
# Changing the case of text

Upper, lower and title case of whole texts.  A character may grow into several.  In lower case a
capital sigma that ends a word becomes the final form `ς`; title case maps character by character
and knows no final form.
-/

namespace ChatChain.Text

/-- The text in upper case. -/
def upperText (s : String) : String :=
  String.ofList (s.toList.flatMap upperChar)

/-- Whether the first character after any case-ignorable ones is cased. -/
def startsCased (cs : List Char) : Bool :=
  ((cs.dropWhile isCaseIgnorable).head?.map isCased).getD false

/-- Lower case of the characters `rest`, where `before` are the characters in front of them, the
nearest first. -/
def lowerFrom (before : List Char) : List Char → List Char
  | [] => []
  | c :: rest =>
    let image :=
      if c = 'Σ' then
        if startsCased before && !startsCased rest then ['ς'] else ['σ']
      else
        lowerChar c
    image ++ lowerFrom (c :: before) rest

/-- The text in lower case. -/
def lowerText (s : String) : String :=
  String.ofList (lowerFrom [] s.toList)

/-- Title case of the characters `cs`; `fresh` tells whether the next character starts a word. -/
def titleFrom (fresh : Bool) : List Char → List Char
  | [] => []
  | c :: rest =>
    if isBlank c then c :: titleFrom true rest
    else (if fresh then upperChar c else lowerChar c) ++ titleFrom false rest

/-- The text with every word starting in upper case and going on in lower case. -/
def titleText (s : String) : String :=
  String.ofList (titleFrom true s.toList)

end ChatChain.Text
