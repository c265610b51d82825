import ChatChain.Proofs.Cleanup
import ChatChain.Proofs.Neighbours
import ChatChain.Proofs.SideBySide
import ChatChain.Proofs.Values

/-!
# Files that a chain stores

A file that a chain stores stands under a numbered name in the directory of the chain, unless that
name is too long.

There are four groups.

* The store.  `Stocked` is the invariant of a store whose files were all written by the chain.
  `Stocked.write_eq` is one write, and `Stocked.write` says that it keeps the invariant.
* The terms.  `Storing` says what a routine finds while a known number of files is still to be
  written, and `Storing.write` what a write makes of it.  `storing` are the terms for routines side
  by side; when all is done, either there was room for the last file and all are `Shelved`, or the
  work failed.
* Routines.  `keeps_read`, `keeps_write_safe`, `keeps_copyFile` and `keeps_readText` keep the terms.
* The beginning and the end.  `Shelved.of_openIn` begins with a store where nothing stands,
  `Stocked.node?_cleanUp` says that a cleanup takes everything away again, and `Shelved.counts`
  that it counts all files as released.
-/

namespace ChatChain

open FileName FileSystem Ledger Number TempStore Text

/-! ## The store -/

variable {fs₀ : FileSystem} {base : List Path} {d : String} {s t : Routine.Scene}

/-- Whether all files of a chain's store were written by the chain, where nothing stood before:
there is one at every listed path, unless its name is too long, no write was dropped, and nothing
else has changed. -/
structure Stocked (fs₀ : FileSystem) (base : List Path) (d : String) (s : Routine.Scene) : Prop
    where
  vacant : ∀ names, fs₀.node? (d :: names) = none
  tracked : Tracked base d s
  undropped : s.store.dropped = []
  next : s.store.next = s.store.ledger.paths.length + 1
  node : ∀ p ∈ s.store.ledger.paths,
    if p.all Path.fits then ∃ content, s.files.node? p = some (.file content)
    else s.files.node? p = none
  others : ∀ q, q ≠ [d] → q ∉ s.store.ledger.paths → s.files.node? q = fs₀.node? q

namespace Stocked

theorem node?_nextPath (h : Stocked fs₀ base d s) (raw : String) :
    s.files.node? (s.store.nextPath raw) = none := by
  rw [h.others _ (by simp [h.tracked.nextPath_eq]) (h.tracked.nextPath_not_mem raw),
    h.tracked.nextPath_eq]
  exact h.vacant _

/-- A write enters the next path, and writes there if its name fits. -/
theorem write_eq (h : Stocked fs₀ base d s) (raw : String) (content : ByteArray) :
    s.store.write s.files raw content =
      (if (s.store.nextPath raw).all Path.fits
        then .ok { path := s.store.nextPath raw, name := sanitize raw } else .error .nameTooLong,
      { s.store with
        ledger :=
          { s.store.ledger with paths := s.store.ledger.paths ++ [s.store.nextPath raw] }
        next := s.store.next + 1 },
      if (s.store.nextPath raw).all Path.fits
        then s.files.set (s.store.nextPath raw) (.file content) else s.files) :=
  h.tracked.write_eq (isDirectory_of_node?_eq_none (h.node?_nextPath raw)) content

/-- The store takes one more path, and a file if the name fits. -/
theorem write (h : Stocked fs₀ base d s) (raw : String) (content : ByteArray) :
    Stocked fs₀ base d (s.asked (.write raw content)) ∧
      (s.asked (.write raw content)).store.ledger.paths =
        s.store.ledger.paths ++ [s.store.nextPath raw] ∧
      (s.asked (.write raw content)).files =
        if (s.store.nextPath raw).all Path.fits
          then s.files.set (s.store.nextPath raw) (.file content) else s.files := by
  have hwrite := h.write_eq raw content
  have hstore : (s.asked (.write raw content)).store =
      { s.store with
        ledger :=
          { s.store.ledger with paths := s.store.ledger.paths ++ [s.store.nextPath raw] }
        next := s.store.next + 1 } := congrArg (fun result => result.2.1) hwrite
  have hfiles : (s.asked (.write raw content)).files =
      if (s.store.nextPath raw).all Path.fits
        then s.files.set (s.store.nextPath raw) (.file content) else s.files :=
    congrArg (fun result => result.2.2) hwrite
  have hne : s.store.nextPath raw ≠ [] := by simp [h.tracked.nextPath_eq]
  have hpaths := congrArg (fun store => store.ledger.paths) hstore
  -- At other paths nothing happens.
  have hsame : ∀ q, q ≠ s.store.nextPath raw →
      (s.asked (.write raw content)).files.node? q = s.files.node? q := by
    intro q hq
    rw [hfiles]
    split
    · rw [node?_set _ hne, if_neg hq]
    · rfl
  refine ⟨⟨h.vacant, h.tracked.perform_tracked _, ?_, ?_, fun p hp => ?_,
    fun q hq hlisted => ?_⟩, hpaths, hfiles⟩
  · rw [hstore]
    exact h.undropped
  · rw [hstore, h.next]
    simp
  · rw [hpaths] at hp
    rcases List.mem_append.1 hp with hold | hnew
    · rw [hsame p fun heq => h.tracked.nextPath_not_mem raw (heq ▸ hold)]
      exact h.node p hold
    · obtain rfl := List.mem_singleton.1 hnew
      rw [hfiles]
      split
      · exact ⟨content, by rw [node?_set _ hne, if_pos rfl]⟩
      · exact h.node?_nextPath raw
  · rw [hpaths, List.mem_append, not_or, List.mem_singleton] at hlisted
    rw [hsame q hlisted.2]
    exact h.others q hq hlisted.1

end Stocked

/-! ## The terms -/

/-- Whether the names of the paths behind the first `m` are of one size. -/
def Sized (m size : Nat) (paths : List Path) : Prop :=
  ∀ i p, m ≤ i → paths[i]? = some p → (p.all Path.fits = true ↔ HasRoom size (i + 1))

theorem Sized.concat {m size : Nat} {paths : List Path} {p : Path} (h : Sized m size paths)
    (hp : p.all Path.fits = true ↔ HasRoom size (paths.length + 1)) :
    Sized m size (paths ++ [p]) := by
  intro i q hi hq
  by_cases hold : i < paths.length
  · rw [List.getElem?_append_left hold] at hq
    exact h i q hi hq
  · rw [List.getElem?_append_right (by omega), List.getElem?_singleton] at hq
    obtain ⟨hlast, rfl⟩ : i - paths.length = 0 ∧ p = q := by simpa using hq
    rwa [show i = paths.length by omega]

/-- What is found in a store where `k` of the files that make it `total` are still to be written,
those behind the first `m` under names of one size. -/
structure Storing (fs₀ : FileSystem) (base : List Path) (d : String) (m size total k : Nat)
    (s : Routine.Scene) : Prop where
  stocked : Stocked fs₀ base d s
  sized : Sized m size s.store.ledger.paths
  count : s.store.ledger.paths.countP (·.all Path.fits) + k = total
  fitting : HasRoom size total → ∀ p ∈ s.store.ledger.paths, p.all Path.fits = true

/-- Whether everything that is listed stays as it is. -/
def Grows (s t : Routine.Scene) : Prop :=
  ∀ p ∈ s.store.ledger.paths, p ∈ t.store.ledger.paths ∧ t.files.node? p = s.files.node? p

/-- The terms for routines that write files of a chain. -/
def storing (fs₀ : FileSystem) (base : List Path) (d : String) (m size total : Nat) :
    Routine.Terms Nat where
  holds := Storing fs₀ base d m size total
  grows := Grows
  refl _ _ hp := ⟨hp, rfl⟩
  trans h h' p hp := ⟨(h' p (h p hp).1).1, (h' p (h p hp).1).2.trans (h p hp).2⟩

/-- Whether a handle is that of a listed file with the given content. -/
structure Holds (content : ByteArray) (s : Routine.Scene) (h : FileHandle) : Prop where
  listed : h.path ∈ s.store.ledger.paths
  fits : h.path.all Path.fits = true
  node : s.files.node? h.path = some (.file content)

theorem Holds.of_grows {content : ByteArray} {handle : FileHandle} (h : Holds content s handle)
    (hgrows : Grows s t) : Holds content t handle where
  listed := (hgrows _ h.listed).1
  fits := h.fits
  node := (hgrows _ h.listed).2.trans h.node

namespace Storing

variable {m size total k : Nat}

/-- When all fits that is listed, the number of the next file is known. -/
theorem length_eq (h : Storing fs₀ base d m size total k s) (hroom : HasRoom size total) :
    s.store.ledger.paths.length + k = total := by
  rw [← h.count, List.countP_eq_length.2 (h.fitting hroom)]

/-- A write does one piece of the work, unless the names do not fit. -/
theorem write (h : Storing fs₀ base d m size total (k + 1) s) {raw : String}
    (hsize : Path.nameSize (sanitize raw) = size) (content : ByteArray) :
    Grows s (s.asked (.write raw content)) ∧
      ((∃ handle, s.answer (.write raw content) = .ok handle ∧ handle.name = sanitize raw ∧
          Holds content (s.asked (.write raw content)) handle ∧
          Storing fs₀ base d m size total k (s.asked (.write raw content))) ∨
        ¬HasRoom size total ∧ (∃ e, s.answer (.write raw content) = .error e) ∧
          Storing fs₀ base d m size total (k + 1) (s.asked (.write raw content))) := by
  obtain ⟨hstocked, hpaths, hfiles⟩ := h.stocked.write raw content
  have hanswer : s.answer (.write raw content) = _ :=
    congrArg Prod.fst (h.stocked.write_eq raw content)
  have hne : s.store.nextPath raw ≠ [] := by simp [h.stocked.tracked.nextPath_eq]
  have hroom : (s.store.nextPath raw).all Path.fits = true ↔
      HasRoom size (s.store.ledger.paths.length + 1) := by
    rw [← h.stocked.next, ← hsize, ← fits_entryName_iff _ (isSafe_sanitize raw)]
    simp [h.stocked.tracked.nextPath_eq, h.stocked.tracked.fits]
  have hsized := h.sized.concat hroom
  refine ⟨fun p hp => ⟨by rw [hpaths]; exact List.mem_append_left _ hp, ?_⟩, ?_⟩
  · have hother : p ≠ s.store.nextPath raw :=
      fun heq => h.stocked.tracked.nextPath_not_mem raw (heq ▸ hp)
    rw [hfiles]
    split
    · rw [node?_set _ hne, if_neg hother]
    · rfl
  cases hfits : (s.store.nextPath raw).all Path.fits with
  | true =>
    left
    refine ⟨_, by rw [hanswer, if_pos hfits], rfl, ⟨by simp [hpaths], hfits, ?_⟩, hstocked,
      by rwa [hpaths], ?_, fun hall p hp => ?_⟩
    · rw [hfiles, if_pos hfits, node?_set _ hne, if_pos rfl]
    · have hcount := h.count
      rw [hpaths, List.countP_append, List.countP_singleton, hfits, if_pos rfl]
      omega
    · rw [hpaths] at hp
      rcases List.mem_append.1 hp with hold | hnew
      · exact h.fitting hall p hold
      · obtain rfl := List.mem_singleton.1 hnew
        exact hfits
  | false =>
    right
    have hnoroom : ¬HasRoom size total := by
      intro hall
      have hlength := h.length_eq hall
      rw [hroom.2 (hall.mono (le_refl size) (by omega))] at hfits
      exact absurd hfits (by decide)
    refine ⟨hnoroom, ⟨_, by rw [hanswer, hfits]; rfl⟩, hstocked, by rwa [hpaths], ?_,
      fun hall => absurd hall hnoroom⟩
    rw [hpaths, List.countP_append, List.countP_singleton, hfits]
    exact h.count

/-- When nothing is left to be written, there was room for the last file. -/
theorem hasRoom (h : Storing fs₀ base d m size total 0 s) (hm : m < total) :
    HasRoom size total := by
  by_contra hno
  have hlate : ∀ p ∈ s.store.ledger.paths.drop (total - 1), p.all Path.fits = false := by
    intro p hp
    obtain ⟨i, hi⟩ := List.mem_iff_getElem?.1 hp
    rw [List.getElem?_drop] at hi
    have hiff := h.sized (total - 1 + i) p (by omega) hi
    rw [Bool.eq_false_iff]
    exact fun hfits => hno ((hiff.1 hfits).mono (le_refl size) (by omega))
  have hnone : (s.store.ledger.paths.drop (total - 1)).countP (·.all Path.fits) = 0 :=
    List.countP_eq_zero.2 fun p hp => by rw [hlate p hp]; decide
  have hcount := h.count
  rw [← List.take_append_drop (total - 1) s.store.ledger.paths, List.countP_append, hnone] at hcount
  have hearly := (List.countP_le_length (p := fun p : Path => p.all Path.fits)
    (l := s.store.ledger.paths.take (total - 1))).trans (List.length_take_le _ _)
  omega

end Storing

/-- Whether a store holds so many files, all of them under names that fit. -/
structure Shelved (fs₀ : FileSystem) (base : List Path) (d : String) (total : Nat)
    (s : Routine.Scene) : Prop where
  stocked : Stocked fs₀ base d s
  fitting : ∀ p ∈ s.store.ledger.paths, p.all Path.fits = true
  length : s.store.ledger.paths.length = total

theorem Storing.shelved {m size total : Nat} (h : Storing fs₀ base d m size total 0 s)
    (hroom : HasRoom size total) : Shelved fs₀ base d total s :=
  ⟨h.stocked, h.fitting hroom, h.length_eq hroom⟩

/-- More files can be written to a store. -/
theorem Shelved.storing {m : Nat} (h : Shelved fs₀ base d m s) (size k : Nat) :
    Storing fs₀ base d m size (m + k) k s where
  stocked := h.stocked
  sized i p hi hp := by
    have hlt := (List.getElem?_eq_some_iff.1 hp).1
    rw [h.length] at hlt
    omega
  count := by rw [List.countP_eq_length.2 h.fitting, h.length]
  fitting _ := h.fitting

/-! ## Routines -/

/-- A file at a listed path can be read. -/
theorem Tracked.read (h : Tracked base d s) {content : ByteArray} {p : Path}
    (hp : p ∈ s.store.ledger.paths) (hfits : p.all Path.fits = true)
    (hnode : s.files.node? p = some (.file content)) : s.files.read p = .ok content := by
  obtain ⟨n, name, -, hname, rfl⟩ := h.numbered p hp
  have hentry := isSafe_entryName n hname
  have hleads := (leads_top_iff h.safe).2 ⟨h.fits, h.stands⟩
  have hfits' : Path.fits (entryName n name) = true := by simpa [h.fits] using hfits
  refine read_eq_ok_iff.2 ((stat_name_eq_ok_iff (d := [d]) hleads (.of_isSafe hentry)).2
    ⟨?_, hfits', hnode⟩)
  exact (check_pair h.safe hentry).trans (if_neg (size_pair_le h.fits hfits'))

open Builtin Routine

variable {m size total : Nat} {content : ByteArray} {handle : FileHandle}

/-- Reading a file that the store holds. -/
theorem keeps_read (h : Holds content s handle) (fails : Routine.Scene → Failure → Prop) :
    Keeps (storing fs₀ base d m size total) (Finished fun _ read => read = content) fails
      (Routine.read handle) 0 s := by
  intro t others hgrows hholds
  have hheld := h.of_grows hgrows
  have hread := hholds.stocked.tracked.read hheld.listed hheld.fits hheld.node
  rw [t.asked_read, t.answer_read, hread]
  exact ⟨0, hholds, (storing fs₀ base d m size total).refl t, fun _ _ => ⟨rfl, rfl⟩⟩

/-- Writing a file is one piece of the work.  It fails when there is no room for its name. -/
theorem keeps_write {raw : String} (hsize : Path.nameSize (sanitize raw) = size)
    (content : ByteArray) (s : Routine.Scene) :
    Keeps (storing fs₀ base d m size total)
      (Finished fun t handle => Holds content t handle ∧ handle.name = sanitize raw)
      (fun _ _ => ¬HasRoom size total) (Routine.write raw content) 1 s := by
  intro t others hgrows hholds
  rw [Nat.add_comm] at hholds
  obtain ⟨hgrows', ⟨handle, hanswer, hname, hheld, hstoring⟩ | ⟨hnoroom, ⟨e, hanswer⟩, hstoring⟩⟩ :=
    hholds.write hsize content
  · refine ⟨0, by rwa [Nat.zero_add], hgrows', ?_⟩
    rw [hanswer]
    exact fun u hu => ⟨rfl, hheld.of_grows hu, hname⟩
  · refine ⟨1, by rwa [Nat.add_comm], hgrows', ?_⟩
    rw [hanswer]
    exact fun _ _ => hnoroom

/-- Whether a handle is that of a listed file with the given content and with a safe name of the
given size. -/
structure Filed (content : ByteArray) (size : Nat) (s : Routine.Scene) (h : FileHandle) : Prop
    extends Holds content s h where
  safe : IsSafe h.name
  size_eq : Path.nameSize h.name = size

theorem Filed.of_grows {handle : FileHandle} (h : Filed content size s handle)
    (hgrows : Grows s t) : Filed content size t handle :=
  { h with toHolds := h.toHolds.of_grows hgrows }

/-- The name for a copy of a file. -/
def copyName (n : Nat) (name : String) : String :=
  s!"{writeNat n}-{name}"

theorem toList_copyName (n : Nat) (name : String) :
    (copyName n name).toList = digits n ++ '-' :: name.toList := by
  show (writeNat n ++ "-" ++ name).toList = _
  simp [writeNat]

theorem isSafe_copyName (n : Nat) {name : String} (h : IsSafe name) : IsSafe (copyName n name) :=
  h.numbered (toList_copyName n name) fun _ hc => isDigit_of_mem_digits hc

theorem nameSize_copyName {n : Nat} (hn : n < 10) {name : String} (h : IsSafe name) :
    Path.nameSize (copyName n name) = Path.nameSize name + 2 := by
  have hdigit : digits n = [digitChar n] := by rw [digits, if_pos hn]
  rw [(isSafe_copyName n h).nameSize_eq, h.nameSize_eq, toList_copyName, hdigit]
  rfl

/-- Writing a file under a safe name. -/
theorem keeps_write_safe {name : String} (hsafe : IsSafe name) (hsize : Path.nameSize name = size)
    (content : ByteArray) (s : Routine.Scene) :
    Keeps (storing fs₀ base d m size total) (Finished (Filed content size))
      (fun _ _ => ¬HasRoom size total) (Routine.write name content) 1 s := by
  have hname := sanitize_of_isSafe hsafe
  have hsize' : Path.nameSize (sanitize name) = size := by rw [hname, hsize]
  refine (keeps_write hsize' content s).imp fun w t handle h => ?_
  obtain ⟨hdone, hholds, hkept⟩ := h t ((storing fs₀ base d m size total).refl t)
  rw [hname] at hkept
  exact ⟨hdone, { toHolds := hholds, safe := by rwa [hkept], size_eq := by rw [hkept, hsize] }⟩

/-- The work of `duplicate`, when no request stalls. -/
theorem duplicateTask_eq (schedule : List Nat) (context : TaskContext) (b : Binding)
    (input : Flow) :
    (duplicateCommand schedule).task context b input =
      (requireRange "count" 1 maxDuplicates ((b.whole? "count").getD 2)).bind fun count =>
        (interleave schedule (input.handles.map (copyFile count))).bind fun copies =>
          .done { data := .files copies.flatten } := by
  simp only [duplicateCommand, sideBySide_of_answered]
  rfl

/-- The work of `hash`, when no request stalls. -/
theorem hashTask_eq (schedule : List Nat) (context : TaskContext) (b : Binding) (input : Flow) :
    (hashCommand schedule).task context b input =
      (interleave schedule (input.handles.map hashLine)).bind fun lines =>
        .done (.text ("\n".intercalate lines)) := by
  simp only [hashCommand, sideBySide_of_answered]
  rfl

/-- Whether handles are those of so many files with the given content. -/
def AllFiled (content : ByteArray) (size count : Nat) (s : Routine.Scene)
    (handles : List FileHandle) : Prop :=
  handles.length = count ∧ ∀ h ∈ handles, Filed content size s h

/-- Copying a file writes so many files with its content. -/
theorem keeps_copyFile {count : Nat} (h : Filed content size s handle) (hcount : count < 10) :
    Keeps (storing fs₀ base d m (size + 2) total) (Finished (AllFiled content (size + 2) count))
      (fun _ _ => ¬HasRoom (size + 2) total) (copyFile count handle) count s := by
  suffices hboth : Keeps (storing fs₀ base d m (size + 2) total)
      (Finished (AllFiled content (size + 2) count)) (fun _ _ => ¬HasRoom (size + 2) total)
      (copyFile count handle) (0 + count) s by
    rwa [Nat.zero_add] at hboth
  refine (keeps_read h.toHolds _).bind_finished fun t read hgrows hread => ?_
  obtain rfl : read = content := hread t ((storing fs₀ base d m (size + 2) total).refl t)
  have hwrites : ∀ n ∈ List.range count, Keeps (storing fs₀ base d m (size + 2) total)
      (Finished (Filed read (size + 2))) (fun _ _ => ¬HasRoom (size + 2) total)
      (Routine.write (copyName (n + 1) handle.name) read) 1 t := by
    intro n hn
    have hdigit : n + 1 < 10 := by
      have hlt := List.mem_range.1 hn
      omega
    refine keeps_write_safe (isSafe_copyName _ h.safe) ?_ read t
    rw [nameSize_copyName hdigit h.safe, h.size_eq]
  rw [each_eq_each_id]
  have hall := (AllKeep.of_forall hwrites).keeps_each
  rw [List.length_range, nsmul_one] at hall
  refine hall.imp fun w u copies hcopies => ?_
  obtain ⟨hdone, hfiled⟩ :=
    (hcopies u ((storing fs₀ base d m (size + 2) total).refl u)).forall_mem
  rw [List.length_range] at hfiled
  exact ⟨hdone, hfiled⟩

theorem fromUTF8?_toUTF8 (text : String) : String.fromUTF8? text.toUTF8 = some text := by
  unfold String.fromUTF8?
  split
  · rfl
  · next hinvalid => exact absurd text.isValidUTF8 hinvalid

/-- A text is read back from the file that it was written to. -/
theorem keeps_readText {text : String} (h : Holds text.toUTF8 s handle)
    (fails : Routine.Scene → Failure → Prop) :
    Keeps (storing fs₀ base d m size total) (Finished fun _ read => read = text) fails
      (readText handle) 0 s := by
  refine (keeps_read h fails).bind_finished (l := 0) fun t content hgrows hcontent => ?_
  obtain rfl := hcontent t ((storing fs₀ base d m size total).refl t)
  simp only [fromUTF8?_toUTF8]
  exact fun _ _ => ⟨rfl, rfl⟩

/-! ## The beginning and the end -/

/-- Making a directory at the top, where nothing stands, makes that directory and no other. -/
theorem FileSystem.makeDirectories_top {fs fs' : FileSystem} (hd : IsSafe d)
    (hnone : fs.node? [d] = none) (h : fs.makeDirectories [d] = (.ok (), fs')) :
    fs' = fs.set [d] .directory := by
  have hname : Path.IsName d := .of_isSafe hd
  have hparents : (fs.makeParents [] [d]).2 = fs := by
    unfold makeParents
    split
    · rfl
    · simp [Path.normal, hname.active, makeAlong]
  unfold makeDirectories makeDirectoriesIn at h
  rw [if_neg (by simpa using hname.ne_empty)] at h
  generalize fs.makeParents [] [d] = made at h hparents
  obtain ⟨answer, fs₁⟩ := made
  obtain rfl : fs₁ = fs := hparents
  cases answer with
  | error e => exact absurd (congrArg Prod.fst h) (by simp)
  | ok _ =>
    simp only at h
    split at h
    · next fs₂ hmade =>
      obtain ⟨l, hlocate, hat⟩ := Fallible.bind_eq_ok_iff.1 hmade
      obtain ⟨-, -, here, hhere, rfl⟩ := (locate_name_eq_ok_iff (d := []) hname).1 hlocate
      obtain rfl : [] = here := Except.ok.inj hhere
      obtain rfl : fs₂ = fs' := (Prod.mk.inj h).2
      simpa [makeDirectoryAt, hnone] using hat.symm
    · exact absurd (congrArg Prod.fst h) (by simp)

theorem Tracked.place_eq (h : Tracked base d s) {p : Path} (hp : p ∈ s.store.ledger.paths) :
    Path.place p = p := by
  obtain ⟨n, name, -, hname, rfl⟩ := h.numbered p hp
  exact (Path.place_concat [d] (.of_isSafe (isSafe_entryName n hname))).trans
    (congrArg (· ++ _) (Path.place_concat [] (.of_isSafe h.safe)))

/-- A store that is opened where nothing stands holds no file yet. -/
theorem Shelved.of_openIn {fs fs' : FileSystem} {chainId : String} {store : TempStore}
    (hvacant : ∀ names, fs.node? (sanitize chainId :: names) = none)
    (h : openIn [] fs chainId = (.ok store, fs')) (clock : Nat) (base : List Path) :
    Shelved fs base (sanitize chainId) 0 { files := fs', store, clock, handedOut := base } := by
  have htracked := Tracked.of_openIn h clock base
  obtain rfl := openIn_spec h
  have hmade : fs' = fs.set [sanitize chainId] .directory := by
    unfold openIn at h
    split at h
    · exact absurd (congrArg Prod.fst h) (by simp)
    · simp only [List.nil_append] at h
      split at h
      · next fs₁ hmade =>
        obtain rfl : fs₁ = fs' := (Prod.mk.inj h).2
        exact makeDirectories_top (isSafe_sanitize chainId) (hvacant []) hmade
      · exact absurd (congrArg Prod.fst h) (by simp)
  refine ⟨⟨hvacant, htracked, rfl, rfl, by simp, fun q hq _ => ?_⟩, by simp, rfl⟩
  show fs'.node? q = fs.node? q
  rw [hmade, node?_set _ (by simp), if_neg hq]

/-- Nothing is left at a listed path where at most a file stood, under a name that fits. -/
theorem Tracked.node?_releaseFiles (h : Tracked base d s) {p : Path}
    (hp : p ∈ s.store.ledger.paths)
    (hfile : ∀ node, s.files.node? p = some node →
      p.all Path.fits = true ∧ ∃ content, node = .file content) :
    (releaseFiles s.files s.store.ledger.paths).1.node? p = none := by
  obtain ⟨hshrinks, hkeeps, hgone⟩ := releaseFiles_spec s.files s.store.ledger.paths
  by_contra hne
  obtain ⟨node, hnode⟩ := Option.ne_none_iff_exists'.1 hne
  obtain ⟨hfits, content, rfl⟩ := hfile node (hshrinks p node hnode)
  exact hgone p hp content ((h.of_keeps hkeeps s.clock).read hp hfits hnode)

namespace Stocked

/-- Releasing the files leaves nothing at their paths and nothing changed elsewhere. -/
theorem node?_releaseFiles (h : Stocked fs₀ base d s) (q : Path) :
    (releaseFiles s.files s.store.ledger.paths).1.node? q =
      if q ∈ s.store.ledger.paths then none else s.files.node? q := by
  split
  · next hq =>
    refine h.tracked.node?_releaseFiles hq fun node hnode => ?_
    have hbefore := h.node q hq
    rw [hnode] at hbefore
    split at hbefore
    · next hfits => exact ⟨hfits, by simpa using hbefore⟩
    · exact absurd hbefore (by simp)
  · next hq =>
    have hplaces : ∀ p ∈ s.store.ledger.paths, Path.place p ∈ s.store.ledger.paths :=
      fun p hp => (h.tracked.place_eq hp).symm ▸ hp
    exact ChangesOnly.releaseFiles s.files hplaces q hq

/-- A cleanup takes away all that the chain brought. -/
theorem node?_cleanUp (h : Stocked fs₀ base d s) (q : Path) :
    (s.store.cleanUp s.files).2.node? q = fs₀.node? q := by
  have hchanged := h.node?_releaseFiles
  have hkeeps := (releaseFiles_spec s.files s.store.ledger.paths).2.1
  rw [cleanUp_of_answered h.undropped, h.tracked.releaseAll_eq]
  simp only
  generalize (releaseFiles s.files s.store.ledger.paths).1 = fs₁ at hchanged hkeeps
  have hstands := hkeeps [d] h.tracked.stands
  have hempty : fs₁.children [d] = [] := by
    rw [List.eq_nil_iff_forall_not_mem]
    intro name hname
    obtain ⟨node, hnode⟩ := mem_children_iff.1 hname
    rw [hchanged] at hnode
    split at hnode
    · exact absurd hnode (by simp)
    · next hunlisted =>
      rw [h.others _ (by simp) hunlisted] at hnode
      exact absurd ((h.vacant [name]).symm.trans hnode) (by simp)
  have hlocate := locate_top h.tracked.safe h.tracked.fits fs₁
  rw [releaseDirectory_eq hlocate (isDirectory_iff.1 hstands), if_pos hempty,
    node?_erase _ (by simp)]
  split
  · next hq => exact hq ▸ (h.vacant []).symm
  · next hq =>
    rw [hchanged]
    split
    · next hq' =>
      obtain ⟨n, name, -, -, rfl⟩ := h.tracked.numbered q hq'
      exact (h.vacant _).symm
    · next hq' => exact h.others q hq hq'

end Stocked

/-- The cleanup counts what was written. -/
theorem Stocked.cleaned (h : Stocked fs₀ base d s) :
    Released s.store.ledger.paths (s.store.cleanUp s.files).2 (s.store.cleanUp s.files).1 := by
  have hcleaned := h.tracked.cleaned
  rw [h.undropped] at hcleaned
  exact hcleaned.released

/-- It fails for the files that could not be written, and for no other. -/
theorem Stocked.failed_eq (h : Stocked fs₀ base d s) :
    (s.store.cleanUp s.files).1.failed =
      s.store.ledger.paths.countP fun p => !p.all Path.fits := by
  rw [h.cleaned.failed]
  refine List.countP_congr fun p hp => ?_
  obtain ⟨n, name, -, -, rfl⟩ := h.tracked.numbered p hp
  have hgone : (s.store.cleanUp s.files).2.isDirectory [d, entryName n name] = false :=
    isDirectory_of_node?_eq_none (by rw [h.node?_cleanUp]; exact h.vacant _)
  simp [Sticks, hgone]

/-- All files of a store are released. -/
theorem Shelved.counts (h : Shelved fs₀ base d total s) :
    (s.store.cleanUp s.files).1 = { created := total, released := total, failed := 0 } := by
  have hnone : (s.store.cleanUp s.files).1.failed = 0 := by
    rw [h.stocked.failed_eq, List.countP_eq_zero]
    intro p hp
    simp [h.fitting p hp]
  rw [h.stocked.cleaned.counts_eq, hnone, h.length]
  rfl

end ChatChain
