import ChatChain.FileSystem

/-!
# Written paths

A path is written as names between slashes.  Empty names and single points lead nowhere, two points
lead back to the directory above, and a slash at the end asks for a directory.  Names and whole
paths have limits in bytes.

* `Path.ofText` cuts a written path, and `Path.normal` keeps what tells two paths apart.
* `FileSystem.locate` follows a written path up to its last name, whether or not anything stands
  there.
-/

namespace ChatChain

namespace Path

/-- Cuts characters at every slash. -/
def cutAtSlashes : List Char → List (List Char)
  | [] => [[]]
  | c :: cs =>
    match cutAtSlashes cs with
    | [] => [[c]]
    | first :: rest => if c = '/' then [] :: first :: rest else (c :: first) :: rest

/-- The names of a written path.  A slash at either end leaves an empty one. -/
def ofText (text : String) : Path :=
  (cutAtSlashes text.toList).map String.ofList

/-- Whether a written path begins at the root. -/
def isAbsolute (text : String) : Bool :=
  text.toList.head? == some '/'

/-- The path that a text written in a directory stands for. -/
def join (directory : Path) (text : String) : Path :=
  if isAbsolute text then ofText text else directory ++ ofText text

/-- Whether a name leads nowhere. -/
def isIdle (name : String) : Bool :=
  name == "" || name == "."

/-- The names that lead somewhere. -/
def normal (path : Path) : Path :=
  path.filter fun name => !isIdle name

/-- The path that one more name leads to. -/
def advance (here : Path) (name : String) : Path :=
  if isIdle name then here
  else if name = ".." then here.dropLast
  else here ++ [name]

/-! ## Limits -/

/-- The number of bytes of a name. -/
def nameSize (name : String) : Nat :=
  (name.toList.map Char.utf8Size).foldl (· + ·) 0

/-- The number of bytes of a written path, its slashes included. -/
def size (path : Path) : Nat :=
  (path.map nameSize).foldl (· + ·) (path.length - 1)

/-- The most bytes that a name may have. -/
def maxNameSize : Nat := 255

/-- The most bytes that a written path may have. -/
def maxSize : Nat := 4095

/-- Whether a name can be that of a file or directory. -/
def fits (name : String) : Bool :=
  nameSize name ≤ maxNameSize

/-- Checks a written path as a whole.  The empty text leads nowhere. -/
def check (path : Path) : Except FileError Unit :=
  if path.any fun name => name.toList.contains '\x00' then .error .illegalName
  else if path = [""] then .error .notFound
  else if maxSize < size path then .error .nameTooLong
  else .ok ()

end Path

/-- Where a written path leads. -/
inductive Location where
  /-- A directory that is reached without a name of its own. -/
  | itself (path : Path)
  /-- A place in a directory, where something may stand or not.  The flag tells whether slashes
  follow the name, so that only a directory can be meant. -/
  | named (path : Path) (slashed : Bool)
  deriving DecidableEq, Repr

/-- The path of a location in the tree. -/
def Location.path : Location → Path
  | itself path => path
  | named path _ => path

namespace FileSystem

/-- Goes on from a directory to the directory that a name leads to. -/
def enter (fs : FileSystem) (here : Path) (name : String) : Except FileError Path :=
  let next := Path.advance here name
  if !Path.fits name then .error .nameTooLong
  else
    match fs.node? next with
    | some .directory => .ok next
    | some (.file _) => .error .notADirectory
    | none => .error .notFound

/-- Follows names from a directory.  Every one but the last must lead to a directory. -/
def follow (fs : FileSystem) (slashed : Bool) (here : Path) :
    List String → Except FileError Location
  | [] => .ok (.itself here)
  | [name] =>
    if Path.isIdle name || name == ".." then (fs.enter here name).map .itself
    else if !Path.fits name then .error .nameTooLong
    else .ok (.named (here ++ [name]) slashed)
  | name :: rest => do
    fs.follow slashed (← fs.enter here name) rest

/-- Where a path leads that is written in the directory `here`. -/
def locate (fs : FileSystem) (here path : Path) : Except FileError Location := do
  Path.check path
  fs.follow (path.getLast? == some "") here (path.filter (· != ""))

end FileSystem

end ChatChain
