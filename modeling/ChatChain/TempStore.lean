import ChatChain.FileName
import ChatChain.Number.Decimal
import ChatChain.TempStore.Ledger
import ChatChain.Text.Blank

/-!
# The temporary store of a chain

Every chain has a directory of its own directly inside the root of the temporary storage.  A file
gets a fresh number and a safe name, and its path is entered in the ledger before anything is
written, so that a write that fails is released too.

* `TempStore.openIn` makes the directory.
* `allocate`, `write` and `copyIn` hand out files.
* `releaseAll` releases them, and `cleanUp` does so while the writes that were dropped take effect.
* `TempStore.Lease` is a store whose holders come and go; the last one to go releases the files.
-/

namespace ChatChain

/-- A temporary file: where it is and what it is called when it is sent. -/
structure FileHandle where
  path : Path
  name : String
  deriving DecidableEq, Repr, Inhabited

/-- The extension of a file's name in lower case. -/
def FileHandle.extension? (h : FileHandle) : Option String :=
  FileName.extension? h.name

/-- A write that was begun and that nobody waits for any more.  It cannot be taken back and takes
effect at some time of its own. -/
structure DroppedWrite where
  path : Path
  content : ByteArray
  /-- How many steps of the cleanup come before it takes effect: one for every file and a last one
  for the chain's directory. -/
  delay : Nat
  deriving DecidableEq

/-- The temporary files of one chain. -/
structure TempStore where
  ledger : Ledger
  /-- The number of the next file. -/
  next : Nat := 1
  /-- The writes that were dropped so far, in order. -/
  dropped : List DroppedWrite := []
  deriving DecidableEq

/-- Why a store could not be opened. -/
inductive OpenError where
  | blankId
  | directory (error : FileError)
  deriving DecidableEq, Repr

/-- The wording of an error on opening a store. -/
def OpenError.message : OpenError → String
  | blankId => "chain id cannot be empty"
  | directory e => e.message

namespace TempStore

/-- The directory of a store. -/
def directory (s : TempStore) : Path :=
  s.ledger.directory

/-- Makes the directory of a chain inside `root`, and the store for it. -/
def openIn (root : Path) (fs : FileSystem) (chainId : String) :
    Except OpenError TempStore × FileSystem :=
  if Text.isBlankText chainId then (.error .blankId, fs)
  else
    let directory := root ++ [FileName.sanitize chainId]
    match fs.makeDirectories directory with
    | (.ok (), fs) => (.ok { ledger := { directory } }, fs)
    | (.error e, fs) => (.error (.directory e), fs)

/-- Writes a number with at least four digits. -/
def sequenceChars (n : Nat) : List Char :=
  let digits := Number.digits n
  List.replicate (4 - digits.length) '0' ++ digits

/-- The name of the file with the given number in the chain's directory. -/
def entryName (n : Nat) (name : String) : String :=
  String.ofList (sequenceChars n ++ '-' :: name.toList)

/-- The path for the next file. -/
def nextPath (s : TempStore) (name : String) : Path :=
  s.directory ++ [entryName s.next (FileName.sanitize name)]

/-- Hands out a fresh path without writing to it. -/
def allocate (s : TempStore) (fs : FileSystem) (name : String) :
    FileHandle × TempStore × FileSystem :=
  let path := s.nextPath name
  let (_, ledger, fs) := s.ledger.track fs path
  ({ path, name := FileName.sanitize name }, { s with ledger, next := s.next + 1 }, fs)

/-- Writes a fresh file with the content, or with none when there is no content to copy. -/
def copyIn (s : TempStore) (fs : FileSystem) (name : String)
    (content : Except FileError ByteArray) :
    Except FileError FileHandle × TempStore × FileSystem :=
  let (handle, s, fs) := s.allocate fs name
  match content.bind (fs.write handle.path) with
  | .ok fs => (.ok handle, s, fs)
  | .error e => (.error e, s, fs)

/-- Writes a fresh file. -/
def write (s : TempStore) (fs : FileSystem) (name : String) (content : ByteArray) :
    Except FileError FileHandle × TempStore × FileSystem :=
  s.copyIn fs name (.ok content)

/-- Leaves a write to itself. -/
def drop (s : TempStore) (write : DroppedWrite) : TempStore :=
  { s with dropped := s.dropped ++ [write] }

/-! ## Releasing -/

/-- Releases every file of the store, while nothing is under way. -/
def releaseAll (s : TempStore) (fs : FileSystem) : Cleanup × TempStore × FileSystem :=
  let (counts, ledger, fs) := s.ledger.drain fs
  (counts, { s with ledger }, fs)

/-- What a dropped write comes to.  Nobody is told when it fails. -/
def land (fs : FileSystem) (write : DroppedWrite) : FileSystem :=
  match fs.write write.path write.content with
  | .ok fs => fs
  | .error _ => fs

/-- Lets those of the dropped writes take effect whose time comes before a step of the cleanup. -/
def landBefore (dropped : List DroppedWrite) (step : Nat) (fs : FileSystem) : FileSystem :=
  (dropped.filter fun write => write.delay == step).foldl land fs

/-- Releases files in order, beginning with a step of the cleanup, and counts those that could not
be.  The dropped writes whose time comes before the step behind the last file have taken effect in
the end. -/
def releaseFilesAmid (dropped : List DroppedWrite) (step : Nat) (fs : FileSystem) :
    List Path → FileSystem × Nat
  | [] => (landBefore dropped step fs, 0)
  | path :: rest =>
    let (fs, released) := Ledger.releaseFile (landBefore dropped step fs) path
    let (fs, failed) := releaseFilesAmid dropped (step + 1) fs rest
    (fs, if released then failed else failed + 1)

/-- Lets those of the dropped writes take effect whose time comes after so many steps of the
cleanup. -/
def landAfter (dropped : List DroppedWrite) (steps : Nat) (fs : FileSystem) : FileSystem :=
  (dropped.filter fun write => steps < write.delay).foldl land fs

/-- Releases every file of the store, and then its directory, while its dropped writes take effect.
In the end they all have. -/
def cleanUp (s : TempStore) (fs : FileSystem) : Cleanup × FileSystem :=
  if s.ledger.drained then ({}, fs)
  else
    let paths := s.ledger.paths
    let (fs, failed) := releaseFilesAmid s.dropped 0 fs paths
    ({ created := paths.length, released := paths.length - failed, failed },
      landAfter s.dropped paths.length (Ledger.releaseDirectory fs s.ledger.directory))

/-! ## Holders -/

/-- A store with its two holders: one of the store itself, which also keeps the ledger alive, and
one of the ledger alone. -/
structure Lease where
  store : TempStore
  storeHeld : Bool := true
  ledgerHeld : Bool := true
  deriving DecidableEq

namespace Lease

/-- Whether anyone still holds the ledger. -/
def isHeld (l : Lease) : Bool :=
  l.storeHeld || l.ledgerHeld

/-- Goes from one state of the holders to another.  When the last one goes, an undrained ledger is
released. -/
def settle (before after : Lease) (fs : FileSystem) : Lease × FileSystem :=
  if before.isHeld && !after.isHeld then (after, after.store.ledger.abandon fs) else (after, fs)

/-- Lets go of the store. -/
def dropStore (l : Lease) (fs : FileSystem) : Lease × FileSystem :=
  settle l { l with storeHeld := false } fs

/-- Lets go of the ledger. -/
def dropLedger (l : Lease) (fs : FileSystem) : Lease × FileSystem :=
  settle l { l with ledgerHeld := false } fs

end Lease

end TempStore

end ChatChain
