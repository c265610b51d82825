import ChatChain.Text.Blank

/-!
# Cutting text at marked words

Commands and named arguments are both found in the same way: some words of a text are marks, and
the text of a mark reaches to the next one.  `cutAtMarks` takes the test for a mark and splits a
text into the part before the first mark and one stretch per mark.

* `word` is the word at the front of a text.
* `cutAtMarks` asks the test only where a word may begin, that is after a blank or at the front.
-/

namespace ChatChain.Text

/-- The characters up to the first blank. -/
def word (cs : List Char) : List Char :=
  cs.takeWhile fun c => !isBlank c

/-- Splits a text at its marks.  `mark?` tells whether a mark begins here, what it says and how
many characters it covers; `fresh` tells whether a word may begin at the front.  The answer is
the text before the first mark, and for every mark what follows it up to the next one. -/
def cutAtMarks {α : Type} (mark? : List Char → Option (α × Nat)) (fresh : Bool) :
    List Char → List Char × List (α × List Char)
  | [] => ([], [])
  | c :: cs =>
    let rest := cutAtMarks mark? (isBlank c) cs
    match if fresh then mark? (c :: cs) else none with
    | some (label, covered) => ([], (label, (c :: rest.1).drop covered) :: rest.2)
    | none => (c :: rest.1, rest.2)

@[simp] theorem cutAtMarks_nil {α : Type} (mark? : List Char → Option (α × Nat)) (fresh : Bool) :
    cutAtMarks mark? fresh [] = ([], []) := rfl

end ChatChain.Text
