import ChatChain.TempStore

/-!
# Operations on temporary stores

What can happen around temporary stores, one operation at a time: the operations of the stores
themselves, what others do in a store's directory, and the coming and going of holders.  One store
is current; opening another one lets go of it.

* `TempStore.Operation` lists the operations.
* `TempStore.Holding.perform` performs one and answers it; `Holding.performAll` performs several.
-/

namespace ChatChain.TempStore

/-- Something that happens around temporary stores.  Handles are numbered in the order in which
they were handed out, and places are written in the current store's directory. -/
inductive Operation where
  /-- Opens a store in place of the current one. -/
  | openStore (chainId : String)
  | allocate (name : String)
  | write (name : String) (content : ByteArray)
  /-- Copies the file of a handle, or a file that does not exist. -/
  | copyFrom (name : String) (handle? : Option Nat)
  | read (handle : Nat)
  | size (handle : Nat)
  /-- Enters a place in the ledger. -/
  | track (place : String)
  /-- Somebody writes a file without entering it. -/
  | touch (place : String)
  /-- Somebody removes the file of a handle. -/
  | remove (handle : Nat)
  /-- Somebody makes a directory at the path of a handle. -/
  | makeDirectory (handle : Nat)
  /-- Releases the files of the store. -/
  | release
  /-- Drains the ledger. -/
  | drain
  | dropStore
  | dropLedger
  deriving DecidableEq

/-- The answer to an operation. -/
inductive Answer where
  | nothing
  | opened (directory : Path)
  | refused (error : OpenError)
  | handle (handle : FileHandle)
  | content (bytes : ByteArray)
  | number (n : Nat)
  | flag (b : Bool)
  | counts (counts : Cleanup)
  | failed (error : FileError)
  /-- There is no store to do that with. -/
  | noStore
  | noHandle
  deriving DecidableEq

/-- All that operations change. -/
structure Holding where
  files : FileSystem := {}
  /-- The directory in which stores are opened. -/
  root : Path := []
  /-- The current store with its holders; it stays noted when all of them have gone. -/
  lease? : Option Lease := none
  /-- The handles handed out so far, those of earlier stores included. -/
  handles : List FileHandle := []

namespace Holding

/-- The directory of the current store, or the root before the first one is opened. -/
def directory (t : Holding) : Path :=
  (t.lease?.map fun l => l.store.directory).getD t.root

/-- The current store, while it is held. -/
def held? (t : Holding) : Option Lease :=
  t.lease?.filter Lease.storeHeld

/-- The current ledger, while it is held on its own. -/
def heldLedger? (t : Holding) : Option Lease :=
  t.lease?.filter Lease.ledgerHeld

/-- Puts a store that has changed in place. -/
def update (t : Holding) (l : Lease) (store : TempStore) (files : FileSystem) : Holding :=
  { t with files, lease? := some { l with store } }

/-- Lets go of the current store and its ledger, with the given files. -/
def letGo (t : Holding) (files : FileSystem) : FileSystem :=
  match t.lease? with
  | none => files
  | some l =>
    let (l, files) := l.dropStore files
    (l.dropLedger files).2

/-- Opens a store and lets go of the one before. -/
def openStore (t : Holding) (chainId : String) : Answer × Holding :=
  match TempStore.openIn t.root t.files chainId with
  | (.error e, files) => (.refused e, { t with files })
  | (.ok store, files) =>
    (.opened store.directory, { t with files := t.letGo files, lease? := some { store } })

/-- Hands out a file, which may fail after its path was entered. -/
def handOut (t : Holding) (l : Lease)
    (result : Except FileError FileHandle × TempStore × FileSystem) : Answer × Holding :=
  let (handle, store, files) := result
  let t := t.update l store files
  match handle with
  | .ok h => (.handle h, { t with handles := t.handles ++ [h] })
  | .error e => (.failed e, t)

/-- Answers a look at a file. -/
def look {α : Type} (t : Holding) (answer : α → Answer) : Except FileError α → Answer × Holding
  | .ok a => (answer a, t)
  | .error e => (.failed e, t)

/-- Answers a change to the files that others make. -/
def meddle (t : Holding) : Except FileError FileSystem → Answer × Holding
  | .ok files => (.flag true, { t with files })
  | .error _ => (.flag false, t)

/-- Does something with the current store. -/
def withStore (t : Holding) (f : Lease → Answer × Holding) : Answer × Holding :=
  match t.held? with
  | some l => f l
  | none => (.noStore, t)

/-- Does something with a handle. -/
def withHandle (t : Holding) (handle : Nat) (f : FileHandle → Answer × Holding) :
    Answer × Holding :=
  match t.handles[handle]? with
  | some h => f h
  | none => (.noHandle, t)

/-- Lets go of one holder. -/
def dropHolder (t : Holding) (drop : Lease → FileSystem → Lease × FileSystem) : Answer × Holding :=
  match t.lease? with
  | some l =>
    let (l, files) := drop l t.files
    (.nothing, { t with files, lease? := some l })
  | none => (.nothing, t)

/-- Performs an operation. -/
def perform (t : Holding) : Operation → Answer × Holding
  | .openStore chainId => t.openStore chainId
  | .allocate name => t.withStore fun l =>
    let (h, store, files) := l.store.allocate t.files name
    t.handOut l (.ok h, store, files)
  | .write name content => t.withStore fun l => t.handOut l (l.store.write t.files name content)
  | .copyFrom name none => t.withStore fun l =>
    t.handOut l (l.store.copyIn t.files name (.error .notFound))
  | .copyFrom name (some handle) => t.withStore fun l => t.withHandle handle fun h =>
    t.handOut l (l.store.copyIn t.files name (t.files.read h.path))
  | .read handle => t.withHandle handle fun h => t.look .content (t.files.read h.path)
  | .size handle => t.withHandle handle fun h => t.look .number (t.files.size h.path)
  | .track place =>
    match t.heldLedger? with
    | some l =>
      let path := Path.join l.store.directory place
      let (new, ledger, files) := l.store.ledger.track t.files path
      (.flag new, t.update l { l.store with ledger } files)
    | none => (.nothing, t)
  | .touch place => t.meddle (t.files.write (Path.join t.directory place) "x".toUTF8)
  | .remove handle => t.withHandle handle fun h => t.meddle (t.files.removeFile h.path)
  | .makeDirectory handle => t.withHandle handle fun h =>
    let (made, files) := t.files.makeDirectories h.path
    (.flag made.isOk, { t with files })
  | .release => t.withStore fun l =>
    let (counts, store, files) := l.store.releaseAll t.files
    (.counts counts, t.update l store files)
  | .drain =>
    match t.heldLedger? with
    | some l =>
      let (counts, ledger, files) := l.store.ledger.drain t.files
      (.counts counts, t.update l { l.store with ledger } files)
    | none => (.nothing, t)
  | .dropStore => t.dropHolder Lease.dropStore
  | .dropLedger => t.dropHolder Lease.dropLedger

/-- Performs operations in order.  Every answer comes with what was held after it. -/
def performAll (t : Holding) : List Operation → List (Answer × Holding)
  | [] => []
  | op :: ops =>
    let (answer, t) := t.perform op
    (answer, t) :: t.performAll ops

end Holding

end ChatChain.TempStore
