import ChatChain.Proofs.SmallSteps
import ChatChain.Proofs.StoredFiles
import Mathlib.Algebra.Order.Group.Multiset

/-!
# Files in the making

Routines side by side make files in one store.  Each file is planned first, then the store hands out
a path for it, and then it is written there.  While one routine waits between these steps, others
take theirs.

All of this is about requests that are answered.  When a routine fails, what the others have begun
is supposed to be over, and what is said of a drain that follows supposes that nothing else takes
effect during it; `ChatChain.Proofs.Cleanup` says what happens otherwise.

There are four groups.

* Files.  A `FilePiece` is one file on its way, and `FilePiece.StandsIn` says what is found at its
  path.
* The store.  `Making` is what holds of a store while a number of files is made, whoever makes them.
  `Making.allocate`, `Making.write_eq` and `Making.fill` are the steps on the way, and
  `Making.read_iff` says that everything else can be read as before.  `Stored` is what is left in
  the end.
* The terms.  Under `making`, the share of a routine is the files that it has to make and those
  that it has made.  `Copies` says that copies of files have been made in order.
* Routines.  `Making.keeps_read`, `Making.keeps_write` and `Making.keeps_copyFile` keep the terms.
-/

namespace ChatChain

open Builtin FileName FileSystem Ledger Routine TempStore

/-! ## Files -/

/-- A file that a routine has to make, from the plan to the end. -/
inductive FilePiece where
  | planned
  | allocated (path : Path)
  | written (path : Path)

namespace FilePiece

/-- The path of a file that has one. -/
def path? : FilePiece → Option Path
  | planned => none
  | allocated path | written path => some path

/-- What is found at the path of a file. -/
def StandsIn (fs : FileSystem) : FilePiece → Prop
  | planned => True
  | allocated path => fs.node? path = none
  | written path => path.all Path.fits = true ∧ ∃ content, fs.node? path = some (.file content)

/-- Changes elsewhere make no difference. -/
theorem StandsIn.congr {piece : FilePiece} {fs fs' : FileSystem} (h : piece.StandsIn fs)
    (hsame : ∀ p, piece.path? = some p → fs'.node? p = fs.node? p) : piece.StandsIn fs' := by
  cases piece with
  | planned => trivial
  | allocated path => exact (hsame path rfl).trans h
  | written path =>
    rw [StandsIn, hsame path rfl]
    exact h

/-- At the path of a file stands at most that file, under a name that fits. -/
theorem StandsIn.file {piece : FilePiece} {fs : FileSystem} {p : Path} {node : Node}
    (h : piece.StandsIn fs) (hpath : piece.path? = some p) (hnode : fs.node? p = some node) :
    p.all Path.fits = true ∧ ∃ content, node = .file content := by
  cases piece with
  | planned => exact absurd hpath (by simp [path?])
  | allocated path =>
    obtain rfl := Option.some.inj hpath
    exact absurd (hnode.symm.trans h) (by simp)
  | written path =>
    obtain rfl := Option.some.inj hpath
    obtain ⟨hfits, content, hfile⟩ := h
    exact ⟨hfits, content, Option.some.inj (hnode.symm.trans hfile)⟩

end FilePiece

/-! ## The store -/

/-- The paths that were handed out since a scene. -/
def freshPaths (s₀ s : Routine.Scene) : List Path :=
  s.store.ledger.paths.drop s₀.store.ledger.paths.length

/-- Whether nothing stands where a store has still to hand out paths. -/
def Ahead (d : String) (s : Routine.Scene) : Prop :=
  ∀ n name, s.store.next ≤ n → IsSafe name → s.files.node? [d, entryName n name] = none

/-- Nothing stands where a store whose files were all written by its chain goes on. -/
theorem Stocked.ahead {fs₀ : FileSystem} {base : List Path} {d : String} {s : Routine.Scene}
    (h : Stocked fs₀ base d s) : Ahead d s := by
  intro n name hn _
  rw [h.others _ (by simp) fun hlisted => ?_]
  · exact h.vacant _
  · obtain ⟨k, other, hk, -, hpath⟩ := h.tracked.numbered _ hlisted
    obtain rfl : n = k := eq_of_entryName_eq (by simpa using hpath)
    omega

/-- Whether a handle has a safe name, as all handles have, and does not lead where a store has still
to hand out paths. -/
structure IsInput (d : String) (s : Routine.Scene) (handle : FileHandle) : Prop where
  safe : IsSafe handle.name
  apart : ∀ n name, s.store.next ≤ n → IsSafe name →
    Path.place handle.path ≠ [d, entryName n name]

/-- What is found in a store while so many files are made, after a scene. -/
structure Making (base : List Path) (d : String) (names : String → Prop) (total : Nat)
    (s₀ : Routine.Scene) (pieces : Multiset FilePiece) (s : Routine.Scene) : Prop where
  tracked : Tracked base d s
  ahead : Ahead d s
  ledger : s.store.ledger.paths = s₀.store.ledger.paths ++ freshPaths s₀ s
  next : s.store.next = s₀.store.next + (freshPaths s₀ s).length
  named : ∀ p ∈ freshPaths s₀ s, ∃ n name, s₀.store.next ≤ n ∧ n < s.store.next ∧ IsSafe name ∧
    names name ∧ p = [d, entryName n name]
  shares : (freshPaths s₀ s : Multiset Path) = pieces.filterMap FilePiece.path?
  count : pieces.card = total
  pieces : ∀ piece ∈ pieces, piece.StandsIn s.files
  others : ∀ q, q ∉ freshPaths s₀ s → s.files.node? q = s₀.files.node? q

/-- What is left in a store after files were made at fresh paths: they are listed, nothing stood
there before, nothing else has changed, and a drain takes all that is listed away, as long as no
write is under way. -/
structure Stored (base : List Path) (d : String) (s t : Routine.Scene) (fresh : List Path) : Prop
    where
  tracked : Tracked base d t
  ahead : Ahead d t
  ledger : t.store.ledger.paths = s.store.ledger.paths ++ fresh
  handedOut : t.handedOut = s.handedOut ++ fresh
  vacant : ∀ p ∈ fresh, s.files.node? p = none
  others : ∀ q, q ∉ fresh → t.files.node? q = s.files.node? q
  released : Released t.store.ledger.paths (t.store.releaseAll t.files).2.2
    (t.store.releaseAll t.files).1
  gone : ∀ p ∈ fresh, (t.store.releaseAll t.files).2.2.node? p = none

/-- Whether nothing was lost from the ledger or from the files. -/
structure Extends (s t : Routine.Scene) : Prop where
  ledger : ∀ p ∈ s.store.ledger.paths, p ∈ t.store.ledger.paths
  files : Shrinks t.files s.files

variable {base : List Path} {d : String} {names : String → Prop} {total count : Nat}
  {s₀ s t u : Routine.Scene} {pieces others w : Multiset FilePiece} {p : Path}
  {handle : FileHandle} {handles copies : List FileHandle}

/-- A file that the store has listed can be an input. -/
theorem IsInput.of_listed (h : Tracked base d s) (hsafe : IsSafe handle.name)
    (hlisted : handle.path ∈ s.store.ledger.paths) : IsInput d s handle where
  safe := hsafe
  apart n name hn _ hplace := by
    obtain ⟨k, other, hk, -, hpath⟩ := h.numbered _ hlisted
    rw [h.place_eq hlisted, hpath] at hplace
    obtain rfl : k = n := eq_of_entryName_eq (by simpa using hplace)
    omega

theorem Extends.refl (s : Routine.Scene) : Extends s s :=
  ⟨fun _ hp => hp, .refl s.files⟩

theorem Extends.trans (h : Extends s t) (h' : Extends t u) : Extends s u :=
  ⟨fun p hp => h'.ledger p (h.ledger p hp), h'.files.trans h.files⟩

theorem freshPaths_self (s : Routine.Scene) : freshPaths s s = [] :=
  List.drop_length

/-- A path that is entered is fresh. -/
theorem freshPaths_concat (h : s.store.ledger.paths = s₀.store.ledger.paths ++ freshPaths s₀ s)
    (hentered : t.store.ledger.paths = s.store.ledger.paths ++ [p]) :
    freshPaths s₀ t = freshPaths s₀ s ++ [p] := by
  unfold freshPaths
  rw [hentered, List.drop_append_of_le_length]
  rw [h, List.length_append]
  exact Nat.le_add_right _ _

/-- What handing out a path does. -/
theorem Tracked.asked_allocate (h : Tracked base d s) {name : String} (hsafe : IsSafe name) :
    s.answer (.allocate name) = { path := s.store.nextPath name, name } ∧
      (s.asked (.allocate name)).files = s.files ∧
      (s.asked (.allocate name)).store.next = s.store.next + 1 ∧
      (s.asked (.allocate name)).store.ledger.paths =
        s.store.ledger.paths ++ [s.store.nextPath name] := by
  have hallocate := h.allocate_eq name
  rw [sanitize_of_isSafe hsafe] at hallocate
  have hstore : (s.asked (.allocate name)).store = _ :=
    congrArg (fun answered => answered.2.1) hallocate
  exact ⟨congrArg Prod.fst hallocate, congrArg (fun answered => answered.2.2) hallocate,
    by rw [hstore], by rw [hstore]⟩

namespace Making

/-- At the beginning nothing is made. -/
theorem of_planned (hstore : Tracked base d s) (hahead : Ahead d s) (names : String → Prop)
    (total : Nat) : Making base d names total s (Multiset.replicate total .planned) s where
  tracked := hstore
  ahead := hahead
  ledger := by simp [freshPaths_self]
  next := by simp [freshPaths_self]
  named p hp := absurd hp (by simp [freshPaths_self])
  shares := by
    have hnone : (Multiset.replicate total FilePiece.planned).filterMap FilePiece.path? = 0 := by
      induction total with
      | zero => rfl
      | succ total ih =>
        rw [Multiset.replicate_succ, Multiset.filterMap_cons_none _ _ rfl, ih]
    rw [hnone, freshPaths_self]
    rfl
  count := Multiset.card_replicate total _
  pieces piece hpiece := by
    rw [Multiset.eq_of_mem_replicate hpiece]
    trivial
  others q _ := rfl

/-- The files have different paths. -/
theorem nodup (h : Making base d names total s₀ pieces s) :
    (pieces.filterMap FilePiece.path?).Nodup := by
  have hnodup := h.tracked.nodup
  rw [h.ledger] at hnodup
  rw [← h.shares]
  exact Multiset.coe_nodup.2 (List.nodup_append.1 hnodup).2.1

/-- The fresh paths are those of the files that have one. -/
theorem mem_freshPaths (h : Making base d names total s₀ pieces s) :
    p ∈ freshPaths s₀ s ↔ ∃ piece ∈ pieces, piece.path? = some p := by
  rw [← Multiset.mem_coe, h.shares, Multiset.mem_filterMap]

/-- The fresh paths are those that are listed and were not listed before. -/
theorem mem_freshPaths_iff_listed (h : Making base d names total s₀ pieces s) :
    p ∈ freshPaths s₀ s ↔ p ∈ s.store.ledger.paths ∧ p ∉ s₀.store.ledger.paths := by
  have hnodup := h.tracked.nodup
  rw [h.ledger] at hnodup ⊢
  have hdisjoint := (List.nodup_append.1 hnodup).2.2
  rw [List.mem_append]
  constructor
  · exact fun hp => ⟨Or.inr hp, fun hold => hdisjoint p hold p hp rfl⟩
  · exact fun ⟨hp, hnew⟩ => hp.resolve_left hnew

/-- There are no more fresh paths than files to be made. -/
theorem length_freshPaths_le (h : Making base d names total s₀ pieces s) :
    (freshPaths s₀ s).length ≤ total := by
  rw [← Multiset.coe_card, h.shares, ← h.count]
  exact Quotient.inductionOn pieces fun made => List.length_filterMap_le _ made

/-- A path is handed out. -/
theorem allocate (h : Making base d names total s₀ ({.planned} + others) s) {name : String}
    (hsafe : IsSafe name) (hname : names name) :
    s.answer (.allocate name) = { path := s.store.nextPath name, name } ∧
      Making base d names total s₀ ({.allocated (s.store.nextPath name)} + others)
        (s.asked (.allocate name)) ∧
      Extends s (s.asked (.allocate name)) := by
  obtain ⟨hanswer, hfiles, hnext, hpaths⟩ := h.tracked.asked_allocate hsafe
  have hfresh := freshPaths_concat h.ledger hpaths
  have hpath := h.tracked.nextPath_eq name
  rw [sanitize_of_isSafe hsafe] at hpath
  refine ⟨hanswer, ?_, fun p hp => by simp [hpaths, hp], hfiles ▸ .refl s.files⟩
  have hshares := h.shares
  have hcount := h.count
  have hpieces := h.pieces
  rw [Multiset.singleton_add] at hshares hcount hpieces ⊢
  refine
    { tracked := h.tracked.perform_tracked (.allocate name)
      ahead := fun n other hn hother => ?_
      ledger := by rw [hpaths, hfresh, h.ledger, List.append_assoc]
      next := by rw [hnext, h.next, hfresh, List.length_append]; rfl
      named := fun p hp => ?_
      shares := ?_
      count := by rwa [Multiset.card_cons] at hcount ⊢
      pieces := fun piece hpiece => ?_
      others := fun q hq => ?_ }
  · rw [hnext] at hn
    rw [hfiles]
    exact h.ahead n other (by omega) hother
  · rw [hfresh, List.mem_append, List.mem_singleton] at hp
    rcases hp with hold | rfl
    · obtain ⟨n, other, hlow, hhigh, hrest⟩ := h.named p hold
      exact ⟨n, other, hlow, by omega, hrest⟩
    · have hnow := h.next
      exact ⟨s.store.next, name, by omega, by omega, hsafe, hname, hpath⟩
  · rw [Multiset.filterMap_cons_none _ _ rfl] at hshares
    rw [Multiset.filterMap_cons_some FilePiece.path? _ _ rfl, hfresh, ← Multiset.coe_add, hshares]
    exact Multiset.add_comm _ _
  · rw [hfiles]
    rcases Multiset.mem_cons.1 hpiece with rfl | hpiece
    · show s.files.node? _ = none
      rw [hpath]
      exact h.ahead _ _ (le_refl _) hsafe
    · exact hpieces piece (Multiset.mem_cons_of_mem hpiece)
  · rw [hfresh, List.mem_append, not_or] at hq
    rw [hfiles]
    exact h.others q hq.1

/-- At a path that was handed out a file can be written if the name fits. -/
theorem write_eq (h : Making base d names total s₀ pieces s) (hpiece : .allocated p ∈ pieces)
    (content : ByteArray) :
    s.files.write p content =
      if p.all Path.fits then .ok (s.files.set p (.file content)) else .error .nameTooLong := by
  have hvacant : s.files.node? p = none := h.pieces _ hpiece
  obtain ⟨n, name, -, -, hsafe, -, rfl⟩ := h.named p (h.mem_freshPaths.2 ⟨_, hpiece, rfl⟩)
  have hwrite := write_pair h.tracked.safe h.tracked.fits h.tracked.stands
    (isSafe_entryName n hsafe) (isDirectory_of_node?_eq_none hvacant) content
  simpa [h.tracked.fits] using hwrite

/-- A file is written where its path was handed out. -/
theorem fill (h : Making base d names total s₀ ({.allocated p} + others) s)
    (hfits : p.all Path.fits = true) (content : ByteArray) :
    Making base d names total s₀ ({.written p} + others)
        { s with files := s.files.set p (.file content) } ∧
      Extends s { s with files := s.files.set p (.file content) } ∧
      (s.files.set p (.file content)).node? p = some (.file content) := by
  have hshares := h.shares
  have hcount := h.count
  have hpieces := h.pieces
  have hnodup := h.nodup
  have hpiece : .allocated p ∈ ({.allocated p} + others : Multiset FilePiece) := by simp
  have hvacant : s.files.node? p = none := h.pieces _ hpiece
  have hp := h.mem_freshPaths.2 ⟨_, hpiece, rfl⟩
  obtain ⟨n, name, hlow, hhigh, hsafe, -, hpath⟩ := h.named p hp
  have hne : p ≠ [] := by simp [hpath]
  rw [Multiset.singleton_add] at hshares hcount hpieces hnodup ⊢
  rw [Multiset.filterMap_cons_some FilePiece.path? _ _ rfl] at hshares hnodup
  have hsame : ∀ q, q ≠ p → (s.files.set p (.file content)).node? q = s.files.node? q :=
    fun q hq => (node?_set _ hne _ q).trans (if_neg hq)
  refine
    ⟨{ tracked :=
          h.tracked.of_keeps (keepsDirectories_set (isDirectory_of_node?_eq_none hvacant) _) _
       ahead := fun k other hk hother => ?_
       ledger := h.ledger
       next := h.next
       named := h.named
       shares := by rwa [Multiset.filterMap_cons_some FilePiece.path? _ _ rfl]
       count := by rwa [Multiset.card_cons] at hcount ⊢
       pieces := fun piece hmem => ?_
       others := fun q hq => ?_ }, ⟨fun q hq => hq, fun q node hnode => ?_⟩,
      (node?_set _ hne _ p).trans (if_pos rfl)⟩
  · rw [hsame _ fun heq => ?_]
    · exact h.ahead k other hk hother
    · obtain rfl : k = n := eq_of_entryName_eq (by simpa [hpath] using heq)
      exact absurd hhigh (Nat.not_lt.2 hk)
  · rcases Multiset.mem_cons.1 hmem with rfl | hold
    · exact ⟨hfits, content, (node?_set _ hne _ p).trans (if_pos rfl)⟩
    · -- No other file has this path.
      refine (hpieces piece (Multiset.mem_cons_of_mem hold)).congr fun q hq => hsame q ?_
      rintro rfl
      exact (Multiset.nodup_cons.1 hnodup).1 ((Multiset.mem_filterMap _ _).2 ⟨piece, hold, hq⟩)
  · rw [hsame q fun heq => hq (heq ▸ hp)]
    exact h.others q hq
  · rw [hsame q ?_]
    · exact hnode
    · rintro rfl
      exact absurd (hvacant.symm.trans hnode) (by simp)

/-- Nothing stood before where a path was handed out. -/
theorem vacant (h : Making base d names total s₀ pieces s) (hahead : Ahead d s₀)
    (hp : p ∈ freshPaths s₀ s) : s₀.files.node? p = none := by
  obtain ⟨n, name, hlow, -, hsafe, -, rfl⟩ := h.named p hp
  exact hahead n name hlow hsafe

/-- No directories are made. -/
theorem keepsDirectories (h : Making base d names total s₀ pieces s) :
    KeepsDirectories s.files s₀.files := by
  intro q hq
  rw [isDirectory_iff] at hq ⊢
  rw [← h.others q fun hfresh => ?_]
  · exact hq
  · obtain ⟨piece, hpiece, hpath⟩ := h.mem_freshPaths.1 hfresh
    obtain ⟨-, content, hfile⟩ := (h.pieces piece hpiece).file hpath hq
    exact absurd hfile (by simp)

/-- A file can be read as before, unless it is where a path has still to be handed out. -/
theorem read_iff (h : Making base d names total s₀ pieces s) (hahead : Ahead d s₀)
    (hinput : IsInput d s₀ handle) {content : ByteArray} :
    s.files.read handle.path = .ok content ↔ s₀.files.read handle.path = .ok content := by
  constructor
  · intro hread
    obtain ⟨l, hlocate, hnode⟩ := Fallible.bind_eq_ok_iff.1 (read_eq_ok_iff.1 hread)
    have hold : s.files.node? l.path = s₀.files.node? l.path := by
      refine h.others _ fun hfresh => ?_
      obtain ⟨n, name, hlow, -, hsafe, -, hpath⟩ := h.named _ hfresh
      exact hinput.apart n name hlow hsafe ((path_of_locate hlocate).symm.trans hpath)
    exact read_eq_ok_iff.2 (Fallible.bind_eq_ok_iff.2
      ⟨l, h.keepsDirectories.locate hlocate, nodeAt_congr hold ▸ hnode⟩)
  · refine Shrinks.read fun q node hnode => ?_
    rw [h.others q fun hfresh => ?_]
    · exact hnode
    · exact absurd ((h.vacant hahead hfresh).symm.trans hnode) (by simp)

/-- What holds of a store while files are made holds when they are made. -/
theorem stored (h : Making base d names total s₀ pieces s) (hstore : Tracked base d s₀)
    (hahead : Ahead d s₀) : Stored base d s₀ s (freshPaths s₀ s) where
  tracked := h.tracked
  ahead := h.ahead
  ledger := h.ledger
  handedOut := by rw [h.tracked.handedOut, hstore.handedOut, h.ledger, List.append_assoc]
  vacant p hp := h.vacant hahead hp
  others := h.others
  released := h.tracked.released
  gone p hp := by
    have hlisted := (h.mem_freshPaths_iff_listed.1 hp).1
    obtain ⟨n, name, -, -, -, -, hpath⟩ := h.named p hp
    rw [h.tracked.releaseAll_eq]
    refine (node?_releaseDirectory_top h.tracked.safe (by simp [hpath])).trans ?_
    refine h.tracked.node?_releaseFiles hlisted fun node hnode => ?_
    obtain ⟨piece, hpiece, hpiecePath⟩ := h.mem_freshPaths.1 hp
    exact (h.pieces piece hpiece).file hpiecePath hnode

end Making

/-! ## The terms -/

/-- The terms for routines that make files. -/
def making (base : List Path) (d : String) (names : String → Prop) (total : Nat)
    (s₀ : Routine.Scene) : Terms (Multiset FilePiece) where
  holds := Making base d names total s₀
  grows := Extends
  refl := .refl
  trans := .trans

/-- Whether all files can be read. -/
def AllReadable (s : Routine.Scene) (handles : List FileHandle) : Prop :=
  ∀ handle ∈ handles, ∃ content, s.files.read handle.path = .ok content

/-- What can go wrong on the way: a file cannot be read, or the name for a new one is too long.
Neither is told to users. -/
inductive Spoils (handles : List FileHandle) (s₀ t : Routine.Scene) (e : Failure) : Prop
  | unreadable (hunreadable : ¬AllReadable s₀ handles) (hinternal : e.userMessage? = none)
  | tooLong {p : Path} (hlisted : p ∈ t.store.ledger.paths) (hnew : p ∉ s₀.store.ledger.paths)
      (hlong : p.all Path.fits = false) (hinternal : e.userMessage? = none)

theorem Spoils.internal {e : Failure} (h : Spoils handles s₀ t e) : e.userMessage? = none := by
  cases h <;> assumption

/-- What a copy must be called, and what must be in it. -/
abbrev Wanted : Type := String × Except FileError ByteArray

/-- The copies of a file, in order. -/
def wantedOf (s₀ : Routine.Scene) (count : Nat) (handle : FileHandle) : List Wanted :=
  (List.range count).map fun k => (copyName (k + 1) handle.name, s₀.files.read handle.path)

theorem mem_wantedOf {want : Wanted} (h : want ∈ handles.flatMap (wantedOf s₀ count)) :
    ∃ handle ∈ handles, ∃ k < count,
      want = (copyName (k + 1) handle.name, s₀.files.read handle.path) := by
  obtain ⟨handle, hhandle, hwant⟩ := List.mem_flatMap.1 h
  obtain ⟨k, hk, rfl⟩ := List.mem_map.1 hwant
  exact ⟨handle, hhandle, k, List.mem_range.1 hk, rfl⟩

/-- The first copy of every file is wanted. -/
theorem first_mem_wantedOf (hcount : 1 ≤ count) (hhandle : handle ∈ handles) :
    (copyName 1 handle.name, s₀.files.read handle.path) ∈
      handles.flatMap (wantedOf s₀ count) :=
  List.mem_flatMap.2 ⟨handle, hhandle, List.mem_map.2 ⟨0, List.mem_range.2 hcount, rfl⟩⟩

/-- Whether a handle is that of the copy that is wanted, at an entry for its name. -/
structure IsCopy (d : String) (s₀ t : Routine.Scene) (want : Wanted) (copy : FileHandle) : Prop
    where
  name : copy.name = want.1
  entry : ∃ n, s₀.store.next ≤ n ∧ copy.path = [d, entryName n copy.name]
  content : ∃ content, want.2 = .ok content ∧ Holds content t copy

/-- Whether handles are those of the copies that are wanted, in order, and all of a share. -/
structure Copies (d : String) (s₀ : Routine.Scene) (wanted : List Wanted) (w : Multiset FilePiece)
    (t : Routine.Scene) (copies : List FileHandle) : Prop where
  share : w = (copies.map fun copy => FilePiece.written copy.path : List FilePiece)
  each : List.Forall₂ (IsCopy d s₀ t) wanted copies

/-- A copy that is there is what was wanted. -/
theorem IsCopy.eq {want : Wanted} {copy : FileHandle} (h : IsCopy d s₀ t want copy)
    (htracked : Tracked base d t) : want = (copy.name, t.files.read copy.path) := by
  obtain ⟨content, hwant, hholds⟩ := h.content
  refine Prod.ext h.name.symm ?_
  rw [hwant, htracked.read hholds.listed hholds.fits hholds.node]

theorem Holds.of_extends {content : ByteArray} (h : Holds content s handle) (hext : Extends s t) :
    Holds content t handle where
  listed := hext.ledger _ h.listed
  fits := h.fits
  node := hext.files _ _ h.node

namespace Copies

variable {wanted wanted' : List Wanted} {w' : Multiset FilePiece} {copies' : List FileHandle}

theorem append (h : Copies d s₀ wanted w t copies) (h' : Copies d s₀ wanted' w' t copies') :
    Copies d s₀ (wanted ++ wanted') (w + w') t (copies ++ copies') where
  share := by rw [h.share, h'.share, Multiset.coe_add, List.map_append]
  each := List.rel_append h.each h'.each

/-- Where copies were wanted from each of several routines, they are all there. -/
theorem of_expected {α β : Type} {as : List α} {wanted : α → List Wanted}
    {copies : β → List FileHandle} {results : List β}
    (h : Expected (as.map fun a w t b => Copies d s₀ (wanted a) w t (copies b)) w t results) :
    Copies d s₀ (as.flatMap wanted) w t (results.flatMap copies) := by
  induction as generalizing w results with
  | nil =>
    cases h with
    | nil => exact ⟨rfl, .nil⟩
  | cons a as ih =>
    cases h with
    | cons hfirst hrest => exact hfirst.append (ih hrest)

/-- When nothing else is made, the copies are at the fresh paths. -/
theorem perm (h : Copies d s₀ wanted w t copies) (hmaking : Making base d names total s₀ w t) :
    (copies.map FileHandle.path).Perm (freshPaths s₀ t) := by
  have hshares := hmaking.shares
  rw [h.share, Multiset.filterMap_coe, List.filterMap_map] at hshares
  have hpaths : copies.filterMap (FilePiece.path? ∘ fun copy => FilePiece.written copy.path) =
      copies.map FileHandle.path := by
    rw [← List.filterMap_eq_map]
    rfl
  rw [hpaths] at hshares
  exact (Multiset.coe_eq_coe.1 hshares).symm

/-- All copies can be read, and they are what was wanted. -/
theorem map_eq (h : Copies d s₀ wanted w t copies) (htracked : Tracked base d t) :
    copies.map (fun copy => (copy.name, t.files.read copy.path)) = wanted := by
  have hequal := h.each.imp fun want copy hcopy => hcopy.eq htracked
  rw [← List.forall₂_map_right_iff (R := Eq), List.forall₂_eq_eq_eq] at hequal
  exact hequal.symm

/-- Every handle is that of a copy that was wanted. -/
theorem exists_want (h : Copies d s₀ wanted w t copies) {copy : FileHandle}
    (hcopy : copy ∈ copies) : ∃ want ∈ wanted, IsCopy d s₀ t want copy :=
  Fallible.exists_of_forall₂ h.each copy hcopy

/-- Where copies of all files were made, the files could be read. -/
theorem allReadable (hcopies : Copies d s₀ (handles.flatMap (wantedOf s₀ count)) w t copies)
    (hcount : 1 ≤ count) : AllReadable s₀ handles := by
  intro handle hhandle
  obtain ⟨copy, -, hcopy⟩ := Fallible.exists_of_forall₂ (List.Forall₂.flip hcopies.each) _
    (first_mem_wantedOf hcount hhandle)
  obtain ⟨content, hcontent, -⟩ := hcopy.content
  exact ⟨content, hcontent⟩

end Copies

/-! ## Routines -/

/-- Reading one of the files. -/
theorem Making.keeps_read (hahead : Ahead d s₀) (hhandle : handle ∈ handles)
    (hinput : IsInput d s₀ handle) (s : Routine.Scene) :
    Keeps (making base d names total s₀)
      (Finished fun _ content => s₀.files.read handle.path = .ok content)
      (Spoils handles s₀) (Routine.read handle) 0 s := by
  intro t others hgrows hholds
  have hread : ∀ content, t.files.read handle.path = .ok content ↔ _ :=
    fun content => Making.read_iff hholds hahead hinput
  rw [t.asked_read, t.answer_read]
  refine ⟨0, hholds, .refl t, ?_⟩
  cases hfound : t.files.read handle.path with
  | ok content => exact fun u _ => ⟨rfl, (hread content).1 hfound⟩
  | error e =>
    refine fun u _ => .unreadable (fun hall => ?_) rfl
    obtain ⟨content, hcontent⟩ := hall handle hhandle
    exact absurd (hfound.symm.trans ((hread content).2 hcontent)) (by simp)

/-- Writing a fresh file, in two steps. -/
theorem Making.keeps_write {name : String} (hsafe : IsSafe name) (hname : names name)
    (content : ByteArray) (s : Routine.Scene) :
    Keeps (making base d names total s₀)
      (fun w t handle => Copies d s₀ [(name, .ok content)] w t [handle]) (Spoils handles s₀)
      (Routine.write name content).split {.planned} s := by
  intro t others hgrows hholds
  obtain ⟨hanswer, hallocated, hext⟩ := Making.allocate hholds hsafe hname
  refine ⟨_, hallocated, hext, ?_⟩
  rw [hanswer]
  have hpath : t.store.nextPath name = [d, entryName t.store.next name] := by
    rw [hholds.tracked.nextPath_eq, sanitize_of_isSafe hsafe]
  generalize t.store.nextPath name = p at hpath
  have hnumber : s₀.store.next ≤ t.store.next := hholds.next ▸ Nat.le_add_right _ _
  -- Before the second step, others take theirs.
  intro u others' hgrows' hholds'
  have hwaiting : .allocated p ∈ ({.allocated p} + others' : Multiset FilePiece) := by simp
  have hwrite := Making.write_eq hholds' hwaiting content
  have hfresh := (Making.mem_freshPaths_iff_listed hholds').1
    ((Making.mem_freshPaths hholds').2 ⟨_, hwaiting, rfl⟩)
  cases hfits : p.all Path.fits with
  | true =>
    rw [if_pos hfits] at hwrite
    obtain ⟨hanswer', hasked⟩ := Scene.asked_fill_ok { path := p, name } hwrite
    obtain ⟨hfilled, hext', hnode⟩ := Making.fill hholds' hfits content
    have hheld : Holds content { u with files := u.files.set p (.file content) }
        { path := p, name } := ⟨hfresh.1, hfits, hnode⟩
    rw [hanswer', hasked]
    exact ⟨_, hfilled, hext', fun v hv =>
      ⟨rfl, .cons ⟨rfl, ⟨_, hnumber, hpath⟩, content, rfl, hheld.of_extends hv⟩ .nil⟩⟩
  | false =>
    rw [if_neg (by simp [hfits])] at hwrite
    obtain ⟨hanswer', hasked⟩ := Scene.asked_fill_error { path := p, name } hwrite
    rw [hanswer', hasked]
    exact ⟨_, hholds', .refl u, fun v hv => .tooLong (hv.ledger p hfresh.1) hfresh.2 hfits rfl⟩

/-- Copying one of the files, in small steps. -/
theorem Making.keeps_copyFile (hahead : Ahead d s₀) (hhandle : handle ∈ handles)
    (hinput : IsInput d s₀ handle)
    (hnames : ∀ k < count, names (copyName (k + 1) handle.name)) (s : Routine.Scene) :
    Keeps (making base d names total s₀) (Copies d s₀ (wantedOf s₀ count handle))
      (Spoils handles s₀) (copyFile count handle).split (count • {.planned}) s := by
  have hsplit : (copyFile count handle).split =
      (Routine.read handle).bind fun content =>
        each (fun k => (Routine.write (copyName (k + 1) handle.name) content).split)
          (List.range count) := by
    rw [← split_read]
    refine (split_bind _ _).trans (congrArg _ (funext fun content => ?_))
    exact split_each _ _
  rw [hsplit, ← zero_add (count • _)]
  refine (Making.keeps_read hahead hhandle hinput s).bind_finished fun t content _ hcontent => ?_
  have hread := hcontent t (.refl t)
  have hwrites : ∀ k ∈ List.range count, Keeps (making base d names total s₀)
      (fun w t copy => Copies d s₀ [(copyName (k + 1) handle.name, .ok content)] w t [copy])
      (Spoils handles s₀) (Routine.write (copyName (k + 1) handle.name) content).split
      {.planned} t := by
    intro k hk
    have hlt := List.mem_range.1 hk
    exact Making.keeps_write (isSafe_copyName _ hinput.safe) (hnames k hlt) content t
  have hall := (AllKeep.of_forall hwrites).keeps_each
  rw [List.length_range] at hall
  rw [each_eq_each_id]
  refine hall.imp fun w u copies hcopies => ?_
  have hwanted := Copies.of_expected (hcopies u (.refl u))
  simpa [wantedOf, hread, List.map_eq_flatMap] using hwanted

end ChatChain
