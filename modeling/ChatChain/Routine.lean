import ChatChain.Failure
import ChatChain.TempStore

/-!
# Routines

A routine is what a task or a download does, step by step: it asks for files of the chain's store,
waits, and in the end returns, fails, breaks down or never ends.  Time is virtual: only waiting
takes any, and a routine can be stopped only while it waits.

A request is answered at once, unless the routine leaves it: then nobody waits for the answer, and
what the request writes takes effect at some later time, before, during or right after the cleanup
of the chain.  Other times need no request of their own.  An earlier one is that of a `fill` by
whatever runs then, and what takes effect when the message has been handled is not written as far as
its chain is concerned.  One time is left out: between the assembly of a reply and the call that
hands it over.
Nothing else goes on by itself when a routine has ended.  A routine that is stopped while it waits
for an answer is one that leaves the request and then waits for ever; `Routine.stalling` makes it
from one whose requests are all answered.

* `FileRequest` lists what a routine may ask of the store.  `FileRequest.perform` answers, and
  `FileRequest.leave` is a request that nobody waits for.
* `Routine.interleave` runs several routines side by side in the order of a schedule, and
  `Routine.sideBySide` does so where requests may be under way when one of the routines fails.
* `Routine.run` runs a routine until it ends or is stopped.
-/

namespace ChatChain

/-- What a routine may ask of the chain's files. -/
inductive FileRequest where
  /-- A fresh path that is not written yet. -/
  | allocate (name : String)
  | write (name : String) (content : ByteArray)
  /-- A copy of a file from elsewhere, which may turn out unreadable. -/
  | copyIn (name : String) (content : Except FileError ByteArray)
  /-- Writing straight to the path of a handle. -/
  | fill (handle : FileHandle) (content : ByteArray)
  | remove (handle : FileHandle)
  | makeDirectory (handle : FileHandle)
  | read (handle : FileHandle)
  | size (handle : FileHandle)

namespace FileRequest

/-- The type of the answer to a request. -/
abbrev Answer : FileRequest → Type
  | allocate _ => FileHandle
  | write .. | copyIn .. => Except FileError FileHandle
  | fill .. | remove _ | makeDirectory _ => Except FileError Unit
  | read _ => Except FileError ByteArray
  | size _ => Except FileError Nat

/-- The path that the store hands out on a request, whether or not anything is written there. -/
def handsOut? (s : TempStore) : FileRequest → Option Path
  | allocate name | write name _ | copyIn name _ => some (s.nextPath name)
  | fill .. | remove _ | makeDirectory _ | read _ | size _ => none

/-- Keeps the file system when an operation on it failed. -/
def settle (fs : FileSystem) : Except FileError FileSystem → Except FileError Unit × FileSystem
  | .ok fs => (.ok (), fs)
  | .error e => (.error e, fs)

/-- Answers a request. -/
def perform (s : TempStore) (fs : FileSystem) :
    (r : FileRequest) → r.Answer × TempStore × FileSystem
  | allocate name => s.allocate fs name
  | write name content => s.write fs name content
  | copyIn name content => s.copyIn fs name content
  | fill handle content =>
    let (answer, fs) := settle fs (fs.write handle.path content)
    (answer, s, fs)
  | remove handle =>
    let (answer, fs) := settle fs (fs.removeFile handle.path)
    (answer, s, fs)
  | makeDirectory handle =>
    let (answer, fs) := fs.makeDirectories handle.path
    (answer, s, fs)
  | read handle => (fs.read handle.path, s, fs)
  | size handle => (fs.size handle.path, s, fs)

/-- Whether a routine has to wait for the answer.  Paths are handed out at once, and so are the
answers to what a task does to the files by itself. -/
def isAwaited : FileRequest → Bool
  | write .. | copyIn .. | fill .. | read _ | size _ => true
  | allocate _ | remove _ | makeDirectory _ => false

/-- Makes a request that nobody waits for.  A path is handed out at once.  What is written takes
effect when `delay` steps of the cleanup are over, and nothing else of the request does later. -/
def leave (s : TempStore) (fs : FileSystem) (delay : Nat) : FileRequest → TempStore × FileSystem
  | write name content | copyIn name (.ok content) =>
    let (handle, s, fs) := s.allocate fs name
    (s.drop { path := handle.path, content, delay }, fs)
  | fill handle content => (s.drop { path := handle.path, content, delay }, fs)
  | request => (request.perform s fs).2

end FileRequest

/-- A computation that may ask for files and wait. -/
inductive Routine (α : Type) : Type where
  | done (result : α)
  | fail (failure : Failure)
  /-- Breaks down without an error of its own. -/
  | panic
  /-- Waits for ever. -/
  | hang
  | sleep (ms : Nat) (next : Routine α)
  | files (request : FileRequest) (next : request.Answer → Routine α)
  /-- Makes a request and goes on without its answer. -/
  | leave (request : FileRequest) (delay : Nat) (next : Routine α)

namespace Routine

variable {α β : Type}

/-- Goes on with `f` after the result. -/
def bind : Routine α → (α → Routine β) → Routine β
  | done a, f => f a
  | fail e, _ => fail e
  | panic, _ => panic
  | hang, _ => hang
  | sleep ms next, f => sleep ms (bind next f)
  | files request next, f => files request fun answer => bind (next answer) f
  | leave request delay next, f => leave request delay (bind next f)

instance : Monad Routine where
  pure := done
  bind := bind

/-- Fails with the wording of a file error under a context. -/
def failFile (context : String) (e : FileError) : Routine α :=
  fail ((Failure.internal e.message).within context)

/-- Writes a fresh file. -/
def write (name : String) (content : ByteArray) : Routine FileHandle :=
  files (.write name content) fun
    | .ok handle => done handle
    | .error e => failFile s!"failed to write {name}" e

/-- Copies a file from elsewhere. -/
def copyIn (name : String) (content : Except FileError ByteArray) : Routine FileHandle :=
  files (.copyIn name content) fun
    | .ok handle => done handle
    | .error e => failFile s!"failed to copy {name}" e

/-- Reads a file. -/
def read (handle : FileHandle) : Routine ByteArray :=
  files (.read handle) fun
    | .ok content => done content
    | .error e => failFile s!"failed to read {handle.name}" e

/-- Returns a result or fails. -/
def ofExcept : Except Failure α → Routine α
  | .ok a => done a
  | .error e => fail e

/-- Does `f` for every member of a list, one after the other. -/
def each (f : α → Routine β) : List α → Routine (List β)
  | [] => done []
  | a :: rest => bind (f a) fun b => bind (each f rest) fun bs => done (b :: bs)

/-! ## Requests under way -/

/-- A request of a routine that is not answered any more, as on a disk that is slow: the first one
to wait for after a number of others. -/
structure Stall where
  answered : Nat
  /-- When what the request writes takes effect all the same. -/
  delay : Nat
  deriving DecidableEq, Repr

/-- Waits for ever for the answer to a request that comes after some others. -/
def stallAfter (delay answered : Nat) : Routine α → Routine α
  | sleep ms next => sleep ms (stallAfter delay answered next)
  | files request next =>
    if request.isAwaited then
      match answered with
      | 0 => leave request delay hang
      | answered + 1 => files request fun answer => stallAfter delay answered (next answer)
    else files request fun answer => stallAfter delay answered (next answer)
  | leave request left next => leave request left (stallAfter delay answered next)
  | r => r

/-- The routine where a request of it may stall. -/
def stalling (r : Routine α) : Option Stall → Routine α
  | some stall => r.stallAfter stall.delay stall.answered
  | none => r

/-- What asks for nothing cannot stall. -/
@[simp] theorem stalling_done (a : α) (stall? : Option Stall) :
    (done a).stalling stall? = done a := by
  cases stall? <;> rfl

@[simp] theorem stalling_fail (e : Failure) (stall? : Option Stall) :
    (fail e : Routine α).stalling stall? = fail e := by
  cases stall? <;> rfl

@[simp] theorem stalling_sleep (ms : Nat) (next : Routine α) (stall? : Option Stall) :
    (sleep ms next).stalling stall? = sleep ms (next.stalling stall?) := by
  cases stall? <;> rfl

/-! ## Side by side -/

/-- Runs routines side by side.  The schedule names, one after the other, the routine that makes
the next step; what it leaves undone is done in order.  The first failure ends all of them. -/
def interleave : List Nat → List (Routine α) → Routine (List α)
  | [], routines => each id routines
  | index :: schedule, routines =>
    match routines[index]? with
    | some (sleep ms next) => sleep ms (interleave schedule (routines.set index next))
    | some (files request next) =>
      files request fun answer => interleave schedule (routines.set index (next answer))
    | some (leave request delay next) =>
      leave request delay (interleave schedule (routines.set index next))
    | some (fail e) => fail e
    | some panic => panic
    | some hang | some (done _) | none => interleave schedule routines

/-- Does `f` for all members of a list, side by side.  For each of them a request may stall, and is
left to itself when another one fails. -/
def sideBySide (schedule : List Nat) (stalls : Nat → Option Stall) (f : α → Routine β)
    (as : List α) : Routine (List β) :=
  interleave schedule (as.zipIdx.map fun a => (f a.1).stalling (stalls a.2))

/-! ## Running -/

/-- What stops a routine that waits too long. -/
structure Bounds where
  /-- The time at which its step has taken too long. -/
  deadline? : Option Nat := none
  /-- The time at which everything is cancelled. -/
  cancelAt? : Option Nat := none
  deriving DecidableEq, Repr

/-- How a run ended. -/
inductive Ending (α : Type) where
  | returned (result : α)
  | failed (failure : Failure)
  | panicked
  | timedOut
  | cancelled
  /-- It waits for ever. -/
  | stuck
  deriving DecidableEq, Repr

/-- The files and the clock of a chain. -/
structure Scene where
  files : FileSystem
  store : TempStore
  /-- Milliseconds of virtual time. -/
  clock : Nat
  /-- The paths that stores handed out so far, in order. -/
  handedOut : List Path := []

namespace Scene

/-- The answer to a request. -/
def answer (s : Scene) (request : FileRequest) : request.Answer :=
  (request.perform s.store s.files).1

/-- The scene after a request was answered. -/
def asked (s : Scene) (request : FileRequest) : Scene :=
  { s with
    files := (request.perform s.store s.files).2.2
    store := (request.perform s.store s.files).2.1
    handedOut := s.handedOut ++ (request.handsOut? s.store).toList }

/-- The scene after a request was made that nobody waits for. -/
def left (s : Scene) (request : FileRequest) (delay : Nat) : Scene :=
  { s with
    files := (request.leave s.store s.files delay).2
    store := (request.leave s.store s.files delay).1
    handedOut := s.handedOut ++ (request.handsOut? s.store).toList }

end Scene

/-- Whether the time `t` comes before the time of waking up, if there is one. -/
def isBefore (t : Nat) : Option Nat → Bool
  | some wake => t < wake
  | none => true

/-- What stops a wait that ends at `wake?`, and when: the earlier of the two bounds, if it comes
before the end.  A wait that ends with a bound is not stopped. -/
def Bounds.interruption? (b : Bounds) (wake? : Option Nat) : Option (Nat × Ending α) :=
  let deadline? := b.deadline?.filter (isBefore · wake?)
  let cancel? := b.cancelAt?.filter (isBefore · wake?)
  match deadline?, cancel? with
  | some deadline, some cancel =>
    if cancel < deadline then some (cancel, .cancelled) else some (deadline, .timedOut)
  | some deadline, none => some (deadline, .timedOut)
  | none, some cancel => some (cancel, .cancelled)
  | none, none => none

/-- Runs a routine within bounds. -/
def run (b : Bounds) : Routine α → Scene → Ending α × Scene
  | done a, scene => (.returned a, scene)
  | fail e, scene => (.failed e, scene)
  | panic, scene => (.panicked, scene)
  | hang, scene =>
    match b.interruption? none with
    | some (clock, ending) => (ending, { scene with clock })
    | none => (.stuck, scene)
  | sleep ms next, scene =>
    match b.interruption? (some (scene.clock + ms)) with
    | some (clock, ending) => (ending, { scene with clock })
    | none => run b next { scene with clock := scene.clock + ms }
  | files request next, scene => run b (next (scene.answer request)) (scene.asked request)
  | leave request delay next, scene => run b next (scene.left request delay)

end Routine

end ChatChain
