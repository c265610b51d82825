/-!
# File systems

A file system is a finite tree of regular files and directories, given as a list of paths with
their nodes.  A path in the tree is the list of the names that lead to it from the root, and the
root is always a directory.  How paths are written is in `ChatChain.FileSystem.Location`, and what
can be done at them in `ChatChain.FileSystem.Access`.

* `node?_set` and `node?_erase` are the two look-up laws; everything else changes the tree through
  these two.
-/

namespace ChatChain

/-- The names of a path, the outermost first. -/
abbrev Path := List String

/-- Contents are compared by their bytes. -/
instance decidableEqContent : DecidableEq ByteArray :=
  ByteArray.instDecidableEq

/-- What a path leads to. -/
inductive Node where
  | file (content : ByteArray)
  | directory
  deriving DecidableEq

/-- Why an operation on files failed. -/
inductive FileError where
  | notFound
  | notADirectory
  | isADirectory
  | alreadyExists
  | notEmpty
  | nameTooLong
  | illegalName
  deriving DecidableEq, Repr

namespace FileError

/-- The wording of a file error. -/
def message : FileError → String
  | notFound => "No such file or directory"
  | notADirectory => "Not a directory"
  | isADirectory => "Is a directory"
  | alreadyExists => "File exists"
  | notEmpty => "Directory not empty"
  | nameTooLong => "File name too long"
  | illegalName => "Invalid argument"

end FileError

/-- A tree of files and directories. -/
structure FileSystem where
  nodes : List (Path × Node) := []

namespace FileSystem

instance : Inhabited FileSystem := ⟨{}⟩

/-- What stands at a path. -/
def node? (fs : FileSystem) (path : Path) : Option Node :=
  if path = [] then some .directory else fs.nodes.lookup path

/-- Takes away what stands at a path. -/
def erase (fs : FileSystem) (path : Path) : FileSystem :=
  ⟨fs.nodes.filter fun entry => entry.1 != path⟩

/-- Puts a node at a path, in place of what stands there. -/
def set (fs : FileSystem) (path : Path) (node : Node) : FileSystem :=
  ⟨(path, node) :: (fs.erase path).nodes⟩

/-- Whether a directory stands at a path. -/
def isDirectory (fs : FileSystem) (path : Path) : Bool :=
  fs.node? path == some .directory

/-- The content of the regular file at a path. -/
def content? (fs : FileSystem) (path : Path) : Option ByteArray :=
  match fs.node? path with
  | some (.file content) => some content
  | _ => none

/-- The names directly inside a directory. -/
def children (fs : FileSystem) (path : Path) : List String :=
  fs.nodes.filterMap fun entry =>
    match entry.1.getLast? with
    | some name => if entry.1 = path ++ [name] then some name else none
    | none => none

/-! ## Look-ups after a change -/

theorem lookup_filter_ne (nodes : List (Path × Node)) (path p : Path) :
    (nodes.filter fun entry => entry.1 != path).lookup p =
      if p = path then none else nodes.lookup p := by
  induction nodes with
  | nil => simp
  | cons entry rest ih =>
    obtain ⟨q, node⟩ := entry
    by_cases hq : q = path
    · rw [List.filter_cons_of_neg (by simp [hq]), ih]
      subst hq
      by_cases hp : p = q
      · simp [hp]
      · have : (p == q) = false := by simpa using hp
        simp only [List.lookup_cons, this, if_neg hp]
    · rw [List.filter_cons_of_pos (by simpa using hq)]
      by_cases hp : p = q
      · subst hp
        simp [hq]
      · have : (p == q) = false := by simpa using hp
        simp [List.lookup_cons, this, ih]

/-- Erasing a path leaves every other path alone. -/
theorem node?_erase (fs : FileSystem) {path : Path} (h : path ≠ []) (p : Path) :
    (fs.erase path).node? p = if p = path then none else fs.node? p := by
  unfold node? erase
  by_cases hp : p = []
  · subst hp
    simp [Ne.symm h]
  · simp [hp, lookup_filter_ne]

/-- Putting a node at a path leaves every other path alone. -/
theorem node?_set (fs : FileSystem) {path : Path} (h : path ≠ []) (node : Node) (p : Path) :
    (fs.set path node).node? p = if p = path then some node else fs.node? p := by
  unfold node? set erase
  by_cases hp : p = []
  · subst hp
    simp [Ne.symm h]
  · by_cases hpath : p = path
    · subst hpath
      simp [hp]
    · have : (p == path) = false := by simpa using hpath
      simp [hp, hpath, List.lookup_cons, this, lookup_filter_ne]

end FileSystem

end ChatChain
