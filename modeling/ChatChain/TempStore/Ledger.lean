import ChatChain.FileSystem.Access

/-!
# The ledger of temporary files

A ledger lists the paths that a chain owns.  It is drained once: every listed file is removed,
the chain's directory goes if that leaves it empty, and what becomes of each path is counted.  A
path that is entered after the drain is removed at once.

* `releaseFile` is one step of a drain and `release` is all of them.
* `abandon` is what happens to a ledger that nobody drained.
-/

namespace ChatChain

/-- The counts of one drain. -/
structure Cleanup where
  created : Nat := 0
  released : Nat := 0
  failed : Nat := 0
  deriving DecidableEq, Repr, Inhabited

/-- Whether every listed path was released. -/
def Cleanup.isBalanced (c : Cleanup) : Bool :=
  c.failed == 0 && c.created == c.released

/-- The paths that a chain owns. -/
structure Ledger where
  /-- The chain's directory, which is removed after its files. -/
  directory : Path
  /-- The paths entered and not yet released, in order, without repetition, and as they were
  written. -/
  paths : List Path := []
  drained : Bool := false
  deriving DecidableEq, Repr

namespace Ledger

/-- Releases one file.  A file that is not there counts as released. -/
def releaseFile (fs : FileSystem) (path : Path) : FileSystem × Bool :=
  match fs.removeFile path with
  | .ok fs => (fs, true)
  | .error .notFound => (fs, true)
  | .error _ => (fs, false)

/-- Releases files in order and counts those that could not be. -/
def releaseFiles (fs : FileSystem) (paths : List Path) : FileSystem × Nat :=
  paths.foldl
    (fun (fs, failed) path =>
      let (fs, released) := releaseFile fs path
      (fs, if released then failed else failed + 1))
    (fs, 0)

/-- Removes a directory if nothing is in it. -/
def releaseDirectory (fs : FileSystem) (path : Path) : FileSystem :=
  match fs.removeDirectory path with
  | .ok fs => fs
  | .error _ => fs

/-- Releases all that is listed: the files, and then the directory. -/
def release (l : Ledger) (fs : FileSystem) : FileSystem × Cleanup :=
  let (fs, failed) := releaseFiles fs l.paths
  (releaseDirectory fs l.directory,
    { created := l.paths.length, released := l.paths.length - failed, failed })

/-- Whether a path is listed, however it is written. -/
def lists (l : Ledger) (path : Path) : Bool :=
  l.paths.any fun listed => Path.normal listed == Path.normal path

/-- Enters a path.  The answer is whether it is new; after the drain no path is, and the file
there is removed. -/
def track (l : Ledger) (fs : FileSystem) (path : Path) : Bool × Ledger × FileSystem :=
  if l.drained then (false, l, (releaseFile fs path).1)
  else if l.lists path then (false, l, fs)
  else (true, { l with paths := l.paths ++ [path] }, fs)

/-- Releases all that is listed, the first time.  A later drain counts and changes nothing. -/
def drain (l : Ledger) (fs : FileSystem) : Cleanup × Ledger × FileSystem :=
  if l.drained then ({}, l, fs)
  else
    let (fs, counts) := l.release fs
    (counts, { l with paths := [], drained := true }, fs)

/-- Removes one file, whatever comes of that. -/
def discardFile (fs : FileSystem) (path : Path) : FileSystem :=
  match fs.removeFile path with
  | .ok fs => fs
  | .error _ => fs

/-- What the last holder of a ledger leaves behind: the files of an undrained one go, and then its
directory.  Nobody is left who could be told the counts. -/
def abandon (l : Ledger) (fs : FileSystem) : FileSystem :=
  if l.drained then fs else releaseDirectory (l.paths.foldl discardFile fs) l.directory

end Ledger

end ChatChain
