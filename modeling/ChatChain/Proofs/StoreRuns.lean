import ChatChain.Proofs.Release
import ChatChain.TempStore.Operation
import Mathlib.Data.List.Dedup

/-!
# Operations on a store, one after the other

`Holding.perform` goes through many branches.  This module says once what an operation can do to the
current store and to the files, so that later modules need not look inside.

There are four groups.

* A ledger.  What entering a path and draining do, by what was entered and drained before.
* One operation.  `Effect` lists what can happen, and `perform_effect` says that every operation but
  an opening does one of these things.
* A file that is handed out.  `perform_eq_handle` says what it took.
* Several moves.  A `Move` is an operation, or something that somebody else does to the files.
  `Holding.after` is what is held after moves, and `Holding.entered` lists the paths that they enter
  in the ledger.  `Holding.Opened` is where they begin.
-/

namespace ChatChain

/-! ## A ledger -/

namespace Ledger

variable {l : Ledger} {p : Path}

theorem track_of_drained (h : l.drained = true) (fs : FileSystem) (p : Path) :
    l.track fs p = (false, l, (releaseFile fs p).1) := by
  simp [track, h]

theorem track_of_lists (h : l.drained = false) (hlists : l.lists p = true) (fs : FileSystem) :
    l.track fs p = (false, l, fs) := by
  simp [track, h, hlists]

theorem track_of_new (h : l.drained = false) (hnew : l.lists p = false) (fs : FileSystem) :
    l.track fs p = (true, { l with paths := l.paths ++ [p] }, fs) := by
  simp [track, h, hnew]

theorem drain_of_drained (h : l.drained = true) (fs : FileSystem) : l.drain fs = ({}, l, fs) := by
  simp [drain, h]

theorem drain_of_undrained (h : l.drained = false) (fs : FileSystem) :
    l.drain fs =
      ((l.release fs).2, { l with paths := [], drained := true }, (l.release fs).1) := by
  simp [drain, h]

theorem abandon_of_drained (h : l.drained = true) (fs : FileSystem) : l.abandon fs = fs := by
  simp [abandon, h]

/-- An undrained ledger that is abandoned leaves what its release leaves. -/
theorem abandon_of_undrained (h : l.drained = false) (fs : FileSystem) :
    l.abandon fs = (l.release fs).1 := by
  simp [abandon, h, foldl_discardFile, release]

/-- Entering a path takes none off the list. -/
theorem mem_paths_track (h : l.drained = false) (fs : FileSystem) (q : Path) (hp : p ∈ l.paths) :
    (l.track fs q).2.1.drained = false ∧ p ∈ (l.track fs q).2.1.paths := by
  cases hlists : l.lists q with
  | true =>
    rw [track_of_lists h hlists]
    exact ⟨h, hp⟩
  | false =>
    rw [track_of_new h hlists]
    exact ⟨h, List.mem_append_left _ hp⟩

/-- A path is on the list after it was entered, unless it was there under another spelling. -/
theorem mem_paths_track_self (h : l.drained = false) (fs : FileSystem) (p : Path) :
    (l.track fs p).2.1.drained = false ∧ (p ∈ (l.track fs p).2.1.paths ∨
      ∃ q ∈ l.paths, q ≠ p ∧ Path.normal q = Path.normal p) := by
  cases hlists : l.lists p with
  | true =>
    rw [track_of_lists h hlists]
    obtain ⟨q, hq, hsame⟩ := List.any_eq_true.1 hlists
    by_cases heq : q = p
    · exact ⟨h, Or.inl (heq ▸ hq)⟩
    · exact ⟨h, Or.inr ⟨q, hq, heq, eq_of_beq hsame⟩⟩
  | false =>
    rw [track_of_new h hlists]
    exact ⟨h, Or.inl (List.mem_append_right _ List.mem_cons_self)⟩

/-- What is on the list after a path was entered was on it before, or is that path. -/
theorem mem_paths_of_track {fs : FileSystem} {q : Path} (h : p ∈ (l.track fs q).2.1.paths) :
    p ∈ l.paths ∨ p = q := by
  unfold track at h
  split at h
  · exact Or.inl h
  · split at h
    · exact Or.inl h
    · exact (List.mem_append.1 h).imp_right List.mem_singleton.1

theorem mem_paths_of_drain {fs : FileSystem} (h : p ∈ (l.drain fs).2.1.paths) : p ∈ l.paths := by
  unfold drain at h
  split at h
  · exact h
  · exact absurd h List.not_mem_nil

/-- Entering a path and draining move no ledger to another directory. -/
theorem directory_track (l : Ledger) (fs : FileSystem) (p : Path) :
    (l.track fs p).2.1.directory = l.directory := by
  unfold track
  split
  · rfl
  · split <;> rfl

theorem directory_drain (l : Ledger) (fs : FileSystem) :
    (l.drain fs).2.1.directory = l.directory := by
  unfold drain
  split <;> rfl

end Ledger

namespace TempStore

open Fallible FileSystem Ledger ChatChain.Path

/-! ## One operation -/

namespace Operation

/-- Whether an operation opens a store in place of the current one. -/
def opens : Operation → Bool
  | openStore _ => true
  | _ => false

/-- Whether an operation drains the ledger. -/
def drains : Operation → Bool
  | release | drain => true
  | _ => false

/-- Whether an operation lets go of the store or of its ledger. -/
def drops : Operation → Bool
  | dropStore | dropLedger => true
  | _ => false

/-- Whether an operation writes a fresh file. -/
def writes : Operation → Bool
  | write .. | copyFrom .. => true
  | _ => false

end Operation

/-- Whether a file was written at a path, or nothing was done. -/
def WritesAt (fs : FileSystem) (p : Path) (fs' : FileSystem) : Prop :=
  fs' = fs ∨ ∃ content, fs.write p content = .ok fs'

theorem WritesAt.keeps {fs fs' : FileSystem} {p : Path} (h : WritesAt fs p fs') :
    KeepsDirectories fs fs' := by
  rcases h with rfl | ⟨content, hwrite⟩
  · exact .refl fs'
  · exact write_keeps hwrite

/-- The path for a file is a name in the directory of the store. -/
theorem nextPath_named (s : TempStore) (name : String) :
    ∃ entry, IsName entry ∧ s.nextPath name = s.directory ++ [entry] :=
  ⟨_, .of_isSafe (isSafe_entryName _ (FileName.isSafe_sanitize name)), rfl⟩

/-- The store after a path was entered in its ledger. -/
def entering (s : TempStore) (fs : FileSystem) (p : Path) (next : Nat) : TempStore :=
  { s with ledger := (s.ledger.track fs p).2.1, next }

/-- What an operation does to the current store and to the files. -/
inductive Effect (l : Lease) (fs : FileSystem) (op : Operation) :
    Option Path → Lease → FileSystem → Prop
  /-- It leaves the store alone, and no directory is lost. -/
  | elsewhere {fs' : FileSystem} (hkeeps : KeepsDirectories fs fs') : Effect l fs op none l fs'
  /-- It enters a path in the ledger and may write there. -/
  | entered {p : Path} {next : Nat} {fs' : FileSystem} (hheld : l.isHeld = true)
      (hwrites : WritesAt (l.store.ledger.track fs p).2.2 p fs') :
      Effect l fs op (some p) { l with store := l.store.entering fs p next } fs'
  /-- It drains the ledger. -/
  | drained (hop : op.drains = true) (hheld : l.isHeld = true) :
      Effect l fs op none
        { l with store := { l.store with ledger := (l.store.ledger.drain fs).2.1 } }
        (l.store.ledger.drain fs).2.2
  /-- It lets go of a holder, and what the last one abandons is released. -/
  | dropped {l' : Lease} (hop : op.drops = true) (hstore : l'.store = l.store) :
      Effect l fs op none l'
        (if l.isHeld && !l'.isHeld then l.store.ledger.abandon fs else fs)

theorem settle_eq (l l' : Lease) (fs : FileSystem) :
    Lease.settle l l' fs =
      (l', if l.isHeld && !l'.isHeld then l'.store.ledger.abandon fs else fs) := by
  unfold Lease.settle
  split <;> rfl

namespace Holding

/-- The path that an operation enters in the ledger of the current store, if it comes to that. -/
def entered? (t : Holding) : Operation → Option Path
  | .allocate name | .write name _ | .copyFrom name none =>
    t.held?.map fun l => l.store.nextPath name
  | .copyFrom name (some handle) =>
    t.held?.bind fun l => t.handles[handle]?.map fun _ => l.store.nextPath name
  | .track place => t.heldLedger?.map fun l => Path.join l.store.directory place
  | _ => none

variable {t : Holding} {l : Lease}

theorem held?_eq (h : t.lease? = some l) : t.held? = if l.storeHeld then some l else none := by
  simp [held?, h, Option.filter]

theorem heldLedger?_eq (h : t.lease? = some l) :
    t.heldLedger? = if l.ledgerHeld then some l else none := by
  simp [heldLedger?, h, Option.filter]

/-- What handing out a file leaves. -/
theorem handOut_snd (result : Except FileError FileHandle × TempStore × FileSystem) :
    (t.handOut l result).2.lease? = some { l with store := result.2.1 } ∧
      (t.handOut l result).2.files = result.2.2 := by
  obtain ⟨handle, store, files⟩ := result
  cases handle <;> exact ⟨rfl, rfl⟩

theorem meddle_snd (result : Except FileError FileSystem) (h : t.lease? = some l)
    (hkeeps : ∀ fs, result = .ok fs → KeepsDirectories t.files fs) :
    (t.meddle result).2.lease? = some l ∧ KeepsDirectories t.files (t.meddle result).2.files := by
  cases result with
  | error e => exact ⟨h, .refl _⟩
  | ok fs => exact ⟨h, hkeeps fs rfl⟩

theorem look_snd {α : Type} (answer : α → Answer) (result : Except FileError α) :
    (t.look answer result).2 = t := by
  cases result <;> rfl

end Holding

/-- A file that is handed out is entered in the ledger before anything is written. -/
theorem copyIn_writesAt (s : TempStore) (fs : FileSystem) (name : String)
    (content : Except FileError ByteArray) :
    (s.copyIn fs name content).2.1 = s.entering fs (s.nextPath name) (s.next + 1) ∧
      WritesAt (s.ledger.track fs (s.nextPath name)).2.2 (s.nextPath name)
        (s.copyIn fs name content).2.2 := by
  unfold copyIn allocate entering
  simp only
  split
  · next fs' hwrite =>
    obtain ⟨bytes, -, hwrite⟩ := bind_eq_ok_iff.1 hwrite
    exact ⟨rfl, Or.inr ⟨bytes, hwrite⟩⟩
  · exact ⟨rfl, Or.inl rfl⟩

namespace Holding

variable {t : Holding} {l : Lease}

/-- A write hands out a file with some content, unless there is no store or no handle. -/
theorem perform_writes (h : t.lease? = some l) {op : Operation} (hop : op.writes = true) :
    (t.entered? op = none ∧ (t.perform op).2 = t ∧
        ∀ handle, (t.perform op).1 ≠ .handle handle) ∨
      l.storeHeld = true ∧ ∃ name content, t.entered? op = some (l.store.nextPath name) ∧
        t.perform op = t.handOut l (l.store.copyIn t.files name content) := by
  cases hheld : l.storeHeld with
  | false =>
    have hnone : t.held? = none := by rw [held?_eq h, hheld]; rfl
    left
    cases op with
    | write name content => simp [entered?, perform, withStore, hnone]
    | copyFrom name handle? => cases handle? <;> simp [entered?, perform, withStore, hnone]
    | _ => exact absurd hop (by simp [Operation.writes])
  | true =>
    have hsome : t.held? = some l := by rw [held?_eq h, hheld]; rfl
    cases op with
    | write name content =>
      refine Or.inr ⟨rfl, name, .ok content, ?_, ?_⟩
      · simp [entered?, hsome]
      · simp [perform, withStore, hsome, TempStore.write]
    | copyFrom name handle? =>
      cases handle? with
      | none =>
        refine Or.inr ⟨rfl, name, .error .notFound, ?_, ?_⟩
        · simp [entered?, hsome]
        · simp [perform, withStore, hsome]
      | some handle =>
        cases hhandle : t.handles[handle]? with
        | none =>
          left
          simp [entered?, perform, withStore, withHandle, hsome, hhandle]
        | some source =>
          refine Or.inr ⟨rfl, name, t.files.read source.path, ?_, ?_⟩
          · simp [entered?, hsome, hhandle]
          · simp [perform, withStore, withHandle, hsome, hhandle]
    | _ => exact absurd hop (by simp [Operation.writes])

/-- A write enters the path of its file, if it comes to that. -/
theorem perform_writes_effect (h : t.lease? = some l) {op : Operation} (hop : op.writes = true) :
    ∃ l', (t.perform op).2.lease? = some l' ∧
      Effect l t.files op (t.entered? op) l' (t.perform op).2.files := by
  rcases perform_writes h hop with ⟨hentered, hsame, -⟩ | ⟨hheld, name, content, hentered, hperform⟩
  · rw [hentered, hsame]
    exact ⟨l, h, .elsewhere (.refl _)⟩
  · obtain ⟨hstore, hwrites⟩ := copyIn_writesAt l.store t.files name content
    obtain ⟨hlease, hfiles⟩ := handOut_snd (t := t) (l := l) (l.store.copyIn t.files name content)
    rw [hentered, hperform]
    refine ⟨_, hlease, ?_⟩
    rw [hfiles, hstore]
    exact .entered (by simp [Lease.isHeld, hheld]) hwrites

/-- Every operation but an opening does one of the things that can happen. -/
theorem perform_effect (h : t.lease? = some l) {op : Operation} (hop : op.opens = false) :
    ∃ l', (t.perform op).2.lease? = some l' ∧
      Effect l t.files op (t.entered? op) l' (t.perform op).2.files := by
  have hidle : ∃ l', t.lease? = some l' ∧ Effect l t.files op none l' t.files :=
    ⟨l, h, .elsewhere (.refl _)⟩
  cases op with
  | openStore chainId => exact absurd hop (by simp [Operation.opens])
  | allocate name =>
    simp only [perform, withStore, entered?, held?_eq h]
    cases hheld : l.storeHeld with
    | false => exact hidle
    | true =>
      refine ⟨_, rfl, .entered (by simp [Lease.isHeld, hheld]) (Or.inl rfl)⟩
  | write name content => exact perform_writes_effect h rfl
  | copyFrom name handle? => exact perform_writes_effect h rfl
  | read handle =>
    simp only [perform, withHandle, entered?]
    split
    · rw [look_snd]
      exact hidle
    · exact hidle
  | size handle =>
    simp only [perform, withHandle, entered?]
    split
    · rw [look_snd]
      exact hidle
    · exact hidle
  | track place =>
    simp only [perform, entered?, heldLedger?_eq h]
    cases hheld : l.ledgerHeld with
    | false => exact hidle
    | true => exact ⟨_, rfl, .entered (by simp [Lease.isHeld, hheld]) (Or.inl rfl)⟩
  | touch place =>
    obtain ⟨hlease, hkeeps⟩ := meddle_snd (t.files.write _ _) h fun _ => write_keeps
    exact ⟨l, hlease, .elsewhere hkeeps⟩
  | remove handle =>
    simp only [perform, withHandle, entered?]
    split
    · obtain ⟨hlease, hkeeps⟩ := meddle_snd (t.files.removeFile _) h fun _ => removeFile_keeps
      exact ⟨l, hlease, .elsewhere hkeeps⟩
    · exact hidle
  | makeDirectory handle =>
    simp only [perform, withHandle, entered?]
    split
    · exact ⟨l, h, .elsewhere (makeDirectories_keeps _ _)⟩
    · exact hidle
  | release =>
    simp only [perform, withStore, entered?, held?_eq h]
    cases hheld : l.storeHeld with
    | false => exact hidle
    | true => exact ⟨_, rfl, .drained rfl (by simp [Lease.isHeld, hheld])⟩
  | drain =>
    simp only [perform, entered?, heldLedger?_eq h]
    cases hheld : l.ledgerHeld with
    | false => exact hidle
    | true => exact ⟨_, rfl, .drained rfl (by simp [Lease.isHeld, hheld])⟩
  | dropStore =>
    simp only [perform, dropHolder, h, Lease.dropStore, settle_eq, entered?]
    exact ⟨_, rfl, .dropped rfl rfl⟩
  | dropLedger =>
    simp only [perform, dropHolder, h, Lease.dropLedger, settle_eq, entered?]
    exact ⟨_, rfl, .dropped rfl rfl⟩

/-! ## A file that is handed out -/

/-- What it took to write a file that was handed out: its path was entered before it was written. -/
theorem perform_eq_handle (h : t.lease? = some l) {op : Operation} (hop : op.writes = true)
    {handle : FileHandle} (hanswer : (t.perform op).1 = .handle handle) :
    l.storeHeld = true ∧ t.entered? op = some handle.path ∧
      (∃ name, handle.path = l.store.nextPath name) ∧
      ∃ bytes, (l.store.ledger.track t.files handle.path).2.2.write handle.path bytes =
        .ok (t.perform op).2.files := by
  obtain ⟨-, -, hno⟩ | ⟨hheld, name, content, hentered, hperform⟩ := perform_writes h hop
  · exact absurd hanswer (hno handle)
  obtain ⟨-, hfiles⟩ := handOut_snd (t := t) (l := l) (l.store.copyIn t.files name content)
  rw [hperform] at hanswer ⊢
  rw [hfiles, hentered]
  unfold copyIn allocate at hanswer ⊢
  simp only at hanswer ⊢
  split at hanswer
  · next fs' hwrite =>
    obtain ⟨bytes, -, hwrite'⟩ := bind_eq_ok_iff.1 hwrite
    obtain rfl : _ = handle := Answer.handle.inj hanswer
    exact ⟨hheld, rfl, ⟨name, rfl⟩, bytes, by simpa [hwrite] using hwrite'⟩
  · exact absurd hanswer (by simp [handOut])

end Holding

/-! ## Several moves -/

/-- Something that happens while a store is open. -/
inductive Move where
  | perform (op : Operation)
  /-- Somebody else does something to the files. -/
  | meddle (change : FileSystem → FileSystem)

namespace Move

/-- Whether a move opens a store in place of the current one. -/
def opens : Move → Bool
  | perform op => op.opens
  | meddle _ => false

/-- Whether a move lets go of the store or of its ledger. -/
def drops : Move → Bool
  | perform op => op.drops
  | meddle _ => false

end Move

namespace Holding

variable {t : Holding}

/-- What is held after a move. -/
def move (t : Holding) : Move → Holding
  | .perform op => (t.perform op).2
  | .meddle change => { t with files := change t.files }

/-- What is held after moves. -/
def after (t : Holding) (moves : List Move) : Holding :=
  moves.foldl move t

/-- The path that a move enters in the ledger of the current store, if it comes to that. -/
def enters? (t : Holding) : Move → Option Path
  | .perform op => t.entered? op
  | .meddle _ => none

/-- The paths that moves enter in the ledger, in order, each as often as it is entered. -/
def entered (t : Holding) : List Move → List Path
  | [] => []
  | m :: moves => (t.enters? m).toList ++ (t.move m).entered moves

@[simp] theorem after_nil (t : Holding) : t.after [] = t := rfl

@[simp] theorem after_cons (t : Holding) (m : Move) (moves : List Move) :
    t.after (m :: moves) = (t.move m).after moves := rfl

theorem entered_append (t : Holding) (before rest : List Move) :
    t.entered (before ++ rest) = t.entered before ++ (t.after before).entered rest := by
  induction before generalizing t with
  | nil => rfl
  | cons m before ih => simp [entered, ih]

/-- Whether the current store is held and was just opened, with its directory at a path. -/
def Opened (t : Holding) (dir : Path) : Prop :=
  ∃ fs chainId store, TempStore.openIn t.root fs chainId = (.ok store, t.files) ∧
    t.lease? = some { store } ∧ store.directory = dir

theorem opened_of_openStore {chainId : String} {dir : Path} (hnone : t.lease? = none)
    (hanswer : (t.openStore chainId).1 = .opened dir) : (t.openStore chainId).2.Opened dir := by
  unfold openStore at hanswer ⊢
  rcases hopen : openIn t.root t.files chainId with ⟨store | store, files⟩
  · simp [hopen] at hanswer
  · simp only [hopen, Answer.opened.injEq] at hanswer ⊢
    exact ⟨t.files, chainId, store, by simpa [letGo, hnone] using hopen, rfl, hanswer⟩

/-- A store that was just opened where there was nothing. -/
def opened : Holding :=
  (({ root := ["tmp"] } : Holding).openStore "c").2

theorem opened_opened : opened.Opened ["tmp", "c"] :=
  opened_of_openStore rfl (by decide +kernel)

/-- The directory of a store that was opened can be written to under its last name, and its ledger
is empty. -/
theorem Opened.spec {dir : Path} (h : t.Opened dir) :
    t.lease? = some { store := { ledger := { directory := dir } } } ∧
      ∃ root name here, IsName name ∧ dir = root ++ [name] ∧ Path.check dir = .ok () ∧
        t.files.Leads dir here := by
  obtain ⟨fs, chainId, store, hopen, hlease, hdir⟩ := h
  unfold openIn at hopen
  split at hopen
  · exact absurd (congrArg Prod.fst hopen) (by simp)
  · simp only at hopen
    split at hopen
    · next fs' hmade =>
      obtain ⟨hstore, hfiles⟩ := Prod.mk.inj hopen
      obtain rfl := Except.ok.inj hstore
      obtain rfl : _ = dir := hdir
      have hname : IsName (FileName.sanitize chainId) :=
        .of_isSafe (FileName.isSafe_sanitize chainId)
      obtain ⟨hcheck, here, hleads⟩ := leads_of_makeDirectories hname hmade
      rw [← hfiles]
      exact ⟨hlease, t.root, _, _, hname, rfl, hcheck, hleads⟩
    · exact absurd (congrArg Prod.fst hopen) (by simp)

end Holding

end TempStore

end ChatChain
