import ChatChain.Number.Shortest
import ChatChain.Text.Blank

/-!
# Kinds and values

A `Kind` names a shape of data: what a command takes, what it produces, and what an argument
holds.  A `Value` is data of one of the six value kinds.

* `Kind.word` is the word for a kind in messages.
* `Value.render` writes a value, and `Value.coerce?` reads text as a value of a given kind.
-/

namespace ChatChain

open Number

/-- The shapes of data. -/
inductive Kind where
  /-- No data at all. -/
  | nothing
  | text
  | integer
  | long
  | double
  | boolean
  /-- One of a declared list of names. -/
  | choice
  /-- An ordered set of temporary files. -/
  | files
  deriving DecidableEq, Repr, Inhabited

namespace Kind

/-- The word for the kind in messages. -/
def word : Kind → String
  | nothing => "nothing"
  | text => "text"
  | integer => "integer"
  | long => "long"
  | double => "number"
  | boolean => "boolean"
  | choice => "choice"
  | files => "files"

/-- Whether a `Value` can be of this kind. -/
def isValue : Kind → Bool
  | nothing | files => false
  | _ => true

end Kind

/-- Data of one of the value kinds. -/
inductive Value where
  | text (content : String)
  | integer (number : Int32)
  | long (number : Int64)
  | double (number : Binary64)
  | boolean (flag : Bool)
  /-- The name at `index` in the declared choices. -/
  | choice (index : Nat) (name : String)
  deriving DecidableEq, Repr

namespace Value

/-- The kind of a value. -/
def kind : Value → Kind
  | text _ => .text
  | integer _ => .integer
  | long _ => .long
  | double _ => .double
  | boolean _ => .boolean
  | choice .. => .choice

/-- The content of a text. -/
def asText? : Value → Option String
  | text content => some content
  | _ => none

/-- The number in a value of either whole kind. -/
def asWhole? : Value → Option Int
  | integer number => some number.toInt
  | long number => some number.toInt
  | _ => none

/-- The double nearest to a value of any number kind. -/
def asDouble? : Value → Option Binary64
  | double number => some number
  | integer number => some (.ofInt number.toInt)
  | long number => some (.ofInt number.toInt)
  | _ => none

/-- The flag in a boolean. -/
def asFlag? : Value → Option Bool
  | boolean flag => some flag
  | _ => none

/-- The index and the name of a choice. -/
def asChoice? : Value → Option (Nat × String)
  | choice index name => some (index, name)
  | _ => none

/-- The text of a value. -/
def render : Value → String
  | text content => content
  | integer number => writeInt number.toInt
  | long number => writeInt number.toInt
  | double number => number.write
  | boolean flag => if flag then "true" else "false"
  | choice _ name => name

/-! ## Reading text as a value -/

/-- The 32-bit number equal to `i`, if there is one. -/
def int32? (i : Int) : Option Int32 :=
  if Int32.minValue.toInt ≤ i ∧ i ≤ Int32.maxValue.toInt then some (.ofInt i) else none

/-- The 64-bit number equal to `i`, if there is one. -/
def int64? (i : Int) : Option Int64 :=
  if Int64.minValue.toInt ≤ i ∧ i ≤ Int64.maxValue.toInt then some (.ofInt i) else none

/-- The largest number that is read as the index of a choice is one below this. -/
def indexLimit : Nat := Nat.pow 2 64

/-- Whether two texts are equal up to the case of ASCII letters. -/
def sameIgnoringCase (a b : List Char) : Bool :=
  a.map Char.toLower == b.map Char.toLower

/-- The position of the first choice with the name `token`, up to the case of ASCII letters. -/
def indexOfChoice? (token : List Char) (choices : List String) : Option Nat :=
  choices.findIdx? fun name => sameIgnoringCase name.toList token

/-- Reads a choice.  A number is an index and nothing else; any other text is a name. -/
def choice? (token : List Char) (choices : List String) : Option Value :=
  match (unsigned? token).filter (· < indexLimit) with
  | some index => choices[index]?.map (.choice index)
  | none =>
    (indexOfChoice? token choices).bind fun index => choices[index]?.map (.choice index)

/-- Reads a flag.  Bare mention of a flag sets it. -/
def flag? (token : List Char) : Option Value :=
  if token = [] ∨ token = "true".toList then some (.boolean true)
  else if token = "false".toList then some (.boolean false)
  else none

/-- Reads `raw` as a value of the given kind.  Text is taken as it stands; for every other kind
the blanks at both ends are cut off first. -/
def coerce? (raw : String) (kind : Kind) (choices : List String) : Option Value :=
  let token := Text.trimChars raw.toList
  match kind with
  | .text => some (.text raw)
  | .integer => ((signed? token).bind int32?).map .integer
  | .long => ((signed? token).bind int64?).map .long
  | .double => ((Binary64.read? token).filter Binary64.isFinite).map .double
  | .boolean => flag? token
  | .choice => choice? token choices
  | .nothing | .files => none

/-- A value read as a kind is of that kind. -/
theorem kind_of_coerce? {raw : String} {kind : Kind} {choices : List String} {v : Value}
    (h : coerce? raw kind choices = some v) : v.kind = kind := by
  cases kind <;> simp only [coerce?, Option.some.injEq, reduceCtorEq] at h
  · subst h; rfl
  · obtain ⟨n, -, rfl⟩ := Option.map_eq_some_iff.1 h; rfl
  · obtain ⟨n, -, rfl⟩ := Option.map_eq_some_iff.1 h; rfl
  · obtain ⟨n, -, rfl⟩ := Option.map_eq_some_iff.1 h; rfl
  · unfold flag? at h
    split at h
    · cases h; rfl
    · split at h <;> cases h; rfl
  · unfold choice? at h
    split at h
    · obtain ⟨n, -, rfl⟩ := Option.map_eq_some_iff.1 h; rfl
    · obtain ⟨i, -, h⟩ := Option.bind_eq_some_iff.1 h
      obtain ⟨n, -, rfl⟩ := Option.map_eq_some_iff.1 h; rfl

end Value

end ChatChain
