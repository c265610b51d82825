import ChatChain.Number.Binary64

/-!
# The items of a TOML document

A document is a table, and its items are values, tables and arrays of tables.  A table remembers
how it came about, because that decides which later lines may add to it: a table written out in
braces is closed, one with a header of its own may not get a second one, and one made by a dotted
key belongs to the lines that share the key.

* `Entries.updateAt` goes along a path of keys, and makes the tables that are missing.
* `Entries.enter` enters a value under a dotted key.
* `Entries.openTable` and `Entries.openRow` are the two kinds of headers.
-/

namespace ChatChain.Toml

/-- How a table came about. -/
inductive TableForm where
  /-- Written out in braces. -/
  | closed
  /-- With a header of its own. -/
  | stated
  /-- On the way to a header. -/
  | implied
  /-- On the way to a dotted key. -/
  | dotted
  /-- One row of an array of tables. -/
  | row
  deriving DecidableEq, Repr

/-- A value, a table or an array of tables. -/
inductive Item where
  | text (value : String)
  | integer (value : Int)
  | float (value : Number.Binary64)
  | boolean (value : Bool)
  /-- A date, a time or both, as written. -/
  | moment (written : String)
  | array (items : List Item)
  | table (form : TableForm) (entries : List (String × Item))
  /-- The rows that headers in double brackets have opened so far. -/
  | rows (tables : List (List (String × Item)))

/-- The entries of a table, in the order in which they were made. -/
abbrev Entries := List (String × Item)

/-- A key: the names of the tables that lead to it, and its own name. -/
structure Key where
  parents : List String
  name : String
  deriving DecidableEq, Repr

namespace Entries

/-- The item under a name. -/
def get? (t : Entries) (name : String) : Option Item :=
  t.lookup name

/-- Adds an item under a new name. -/
def add (t : Entries) (name : String) (item : Item) : Entries :=
  t ++ [(name, item)]

/-- Puts an item in place of the one under the same name. -/
def replace (t : Entries) (name : String) (item : Item) : Entries :=
  t.map fun entry => if entry.1 = name then (name, item) else entry

/-- Changes the table at the end of a path.  A table that is missing on the way is made with the
form `fresh`; an array of tables is entered at its last row.  The test `passes` says, from its form
and the rest of the path, whether a table may be entered. -/
def updateAt (fresh : TableForm) (passes : TableForm → List String → Bool)
    (change : Entries → Option Entries) : List String → Entries → Option Entries
  | [], t => change t
  | name :: rest, t =>
    match t.get? name with
    | none =>
      (updateAt fresh passes change rest []).map fun child => t.add name (.table fresh child)
    | some (.table form child) =>
      if passes form rest then
        (updateAt fresh passes change rest child).map fun child =>
          t.replace name (.table form child)
      else
        none
    | some (.rows tables) =>
      match tables.getLast?, passes .row rest with
      | some last, true =>
        (updateAt fresh passes change rest last).map fun last =>
          t.replace name (.rows (tables.dropLast ++ [last]))
      | _, _ => none
    | some _ => none

/-! ## Lines -/

/-- Whether a dotted key may lead through a table.  The table that gets the entry must belong to
dotted keys alone. -/
def dottedPasses (form : TableForm) (rest : List String) : Bool :=
  match form with
  | .dotted => true
  | .implied | .row => !rest.isEmpty
  | .stated | .closed => false

/-- Whether a header may lead through a table. -/
def headerPasses (form : TableForm) (_rest : List String) : Bool :=
  form != .closed

/-- Enters a value under a key that may be dotted.  No name is given twice. -/
def enter (t : Entries) (key : Key) (value : Item) : Option Entries :=
  updateAt .dotted dottedPasses
    (fun t => if (t.get? key.name).isSome then none else some (t.add key.name value))
    key.parents t

/-- Opens the table of a header.  It is new, or was only on the way to other headers so far. -/
def openTable (t : Entries) (key : Key) : Option Entries :=
  updateAt .implied headerPasses
    (fun t =>
      match t.get? key.name with
      | none => some (t.add key.name (.table .stated []))
      | some (.table .implied child) => some (t.replace key.name (.table .stated child))
      | some _ => none)
    key.parents t

/-- Opens a new row in an array of tables. -/
def openRow (t : Entries) (key : Key) : Option Entries :=
  updateAt .implied headerPasses
    (fun t =>
      match t.get? key.name with
      | none => some (t.add key.name (.rows [[]]))
      | some (.rows tables) => some (t.replace key.name (.rows (tables ++ [[]])))
      | some _ => none)
    key.parents t

/-- The table that is written out in braces with these entries. -/
def ofPairs? (pairs : List (Key × Item)) : Option Entries :=
  pairs.foldlM (fun t pair => enter t pair.1 pair.2) []

end Entries

/-- One line of a document. -/
inductive Line where
  | pair (key : Key) (value : Item)
  | header (key : Key)
  | rowHeader (key : Key)

/-- A document up to some line. -/
structure Progress where
  root : Entries := []
  /-- The path of the table to which pairs are added. -/
  here : List String := []

/-- Takes in the next line. -/
def Progress.next? (p : Progress) : Line → Option Progress
  | .pair key value =>
    (p.root.updateAt .implied Entries.headerPasses (fun t => t.enter key value) p.here).map
      fun root => { p with root }
  | .header key =>
    (p.root.openTable key).map fun root => { root, here := key.parents ++ [key.name] }
  | .rowHeader key =>
    (p.root.openRow key).map fun root => { root, here := key.parents ++ [key.name] }

/-- The document with the given lines. -/
def Entries.ofLines? (lines : List Line) : Option Entries :=
  (lines.foldlM Progress.next? {}).map Progress.root

end ChatChain.Toml
