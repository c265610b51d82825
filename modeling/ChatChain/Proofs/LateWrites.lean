import ChatChain.Proofs.Release
import ChatChain.TempStore

/-!
# Writes that take effect during a cleanup

A dropped write may take effect between two steps of a cleanup.  Before the turn of its path, it
makes no difference.  After that, and before the turn of the directory, its file stays behind, and
the directory with it.  After the turn of the directory, it makes a difference only if the directory
is still there.

There are five groups.

* One write.  `DroppedWrite.Fills` says where a write puts a file, and `isReadable_land_iff` what
  can be read afterwards.  No directory comes or goes with it, which is `SameDirectories`.
* One step.  `isReadable_landBefore_iff` is about all writes before a step,
  `isReadable_releaseFile_iff` about the step itself, and `isReadable_landAfter_iff` about the
  writes after the last one.
* All steps.  `Outlasts` says that a write comes after the turn of a path, and
  `releaseFilesAmid_spec` is the induction over the paths.
* The directory.  `isReadable_releaseDirectory_iff` says that its removal takes no file away.
* The store.  `cleanUp_of_answered` says that a cleanup is a release when no write was dropped.
-/

namespace ChatChain

open Fallible FileName FileSystem Ledger TempStore

variable {fs fs' : FileSystem} {p : Path} {d e : String} {write : DroppedWrite}
  {dropped : List DroppedWrite} {paths : List Path}

/-! ## One write -/

/-- Whether the same directories stand in two file systems. -/
structure FileSystem.SameDirectories (fs fs' : FileSystem) : Prop where
  kept : KeepsDirectories fs fs'
  old : KeepsDirectories fs' fs

namespace FileSystem.SameDirectories

theorem refl (fs : FileSystem) : SameDirectories fs fs :=
  ⟨.refl fs, .refl fs⟩

theorem trans {fs'' : FileSystem} (h : SameDirectories fs fs') (h' : SameDirectories fs' fs'') :
    SameDirectories fs fs'' :=
  ⟨h.kept.trans h'.kept, h'.old.trans h.old⟩

theorem isDirectory_eq (h : SameDirectories fs fs') (p : Path) :
    fs'.isDirectory p = fs.isDirectory p :=
  Bool.eq_iff_iff.2 ⟨h.old p, h.kept p⟩

theorem locate_eq_ok_iff (h : SameDirectories fs fs') {l : Location} :
    fs'.locate [] p = .ok l ↔ fs.locate [] p = .ok l :=
  ⟨h.old.locate, h.kept.locate⟩

theorem of_set (hfree : fs.isDirectory p = false) (content : ByteArray) :
    SameDirectories fs (fs.set p (.file content)) := by
  refine ⟨keepsDirectories_set hfree _, fun q hq => ?_⟩
  rw [isDirectory_iff, node?_set fs (ne_nil_of_not_isDirectory hfree)] at hq
  split at hq
  · exact absurd hq (by simp)
  · exact isDirectory_iff.2 hq

theorem of_releaseFile (fs : FileSystem) (p : Path) : SameDirectories fs (releaseFile fs p).1 := by
  obtain ⟨hshrinks, hkeeps, -⟩ := releaseFile_spec fs p
  exact ⟨hkeeps, hshrinks.directories⟩

theorem sticks_eq (h : SameDirectories fs fs') (p : Path) : Sticks fs' p = Sticks fs p := by
  unfold Sticks
  rw [h.isDirectory_eq]

end FileSystem.SameDirectories

/-- Whether a write puts a file at a place: its path leads there, and no directory is in the way. -/
def DroppedWrite.Fills (write : DroppedWrite) (fs : FileSystem) (p : Path) : Prop :=
  fs.locate [] write.path = .ok (.named p false) ∧ fs.isDirectory p = false

namespace DroppedWrite

theorem Fills.unique {q : Path} (h : write.Fills fs p) (h' : write.Fills fs q) : p = q := by
  obtain ⟨heq, -⟩ := Location.named.inj (Except.ok.inj (h.1.symm.trans h'.1))
  exact heq

/-- Where a write puts a file depends on the directories only. -/
theorem fills_iff (h : SameDirectories fs fs') : write.Fills fs' p ↔ write.Fills fs p := by
  unfold Fills
  rw [h.locate_eq_ok_iff, h.isDirectory_eq]

end DroppedWrite

/-- A write puts its file at the place to which its path leads, or does nothing. -/
theorem land_cases (fs : FileSystem) (write : DroppedWrite) :
    (∃ p, write.Fills fs p ∧ land fs write = fs.set p (.file write.content)) ∨
      (∀ p, ¬write.Fills fs p) ∧ land fs write = fs := by
  unfold land
  cases hwrite : fs.write write.path write.content with
  | ok fs' =>
    obtain ⟨l, hlocate, hat⟩ := bind_eq_ok_iff.1 hwrite
    obtain ⟨p, rfl, hfree, rfl⟩ := writeAt_eq_ok_iff.1 hat
    exact Or.inl ⟨p, ⟨hlocate, hfree⟩, rfl⟩
  | error e =>
    refine Or.inr ⟨?_, rfl⟩
    rintro p ⟨hlocate, hfree⟩
    have hok : fs.write write.path write.content = .ok (fs.set p (.file write.content)) :=
      bind_eq_ok_iff.2 ⟨_, hlocate, writeAt_eq_ok_iff.2 ⟨p, rfl, hfree, rfl⟩⟩
    exact absurd (hwrite.symm.trans hok) (by simp)

theorem sameDirectories_land (fs : FileSystem) (write : DroppedWrite) :
    SameDirectories fs (land fs write) := by
  rcases land_cases fs write with ⟨p, hfills, heq⟩ | ⟨-, heq⟩
  · rw [heq]
    exact .of_set hfills.2 _
  · rw [heq]
    exact .refl fs

/-- Whether a file can be read at a path. -/
def FileSystem.IsReadable (fs : FileSystem) (p : Path) : Prop :=
  ∃ content, fs.read p = .ok content

/-- The way to a place leads through the directory that the place is in, and its last name has the
size of a name. -/
theorem named_of_follow {here : Path} {slashed flag : Bool} {names : List String} {d : Path}
    {name : String} (hhere : fs.isDirectory here = true)
    (h : fs.follow slashed here names = .ok (.named (d ++ [name]) flag)) :
    fs.isDirectory d = true ∧ Path.fits name = true := by
  induction names generalizing here with
  | nil => exact absurd h (by simp [follow])
  | cons first rest ih =>
    cases rest with
    | nil =>
      rw [follow] at h
      split at h
      · obtain ⟨_, -, heq⟩ := map_eq_ok_iff.1 h
        exact absurd heq (by simp)
      · split at h
        · exact absurd h (by simp)
        · next hfits =>
          obtain ⟨heq, -⟩ := Location.named.inj (Except.ok.inj h)
          obtain ⟨rfl, hname⟩ := List.append_inj' heq rfl
          obtain rfl : first = name := by simpa using hname
          exact ⟨hhere, by simpa using hfits⟩
    | cons second others =>
      rw [follow] at h
      · obtain ⟨next, hnext, hrest⟩ := bind_eq_ok_iff.1 h
        obtain ⟨-, hdirectory, rfl⟩ := enter_eq_ok_iff.1 hnext
        exact ih hdirectory hrest
      · simp

/-- A write puts a file into directories that stand, under a name that fits. -/
theorem DroppedWrite.Fills.pair (h : write.Fills fs [d, e]) :
    fs.isDirectory [d] = true ∧ Path.fits e = true := by
  obtain ⟨_, -, hfollow⟩ := bind_eq_ok_iff.1 h.1
  exact named_of_follow (d := [d]) (isDirectory_nil fs) hfollow

/-- What can be read under a safe name in a directory at the top. -/
theorem isReadable_pair_iff (hd : IsSafe d) (hfits : Path.fits d = true) (he : IsSafe e) :
    fs.IsReadable [d, e] ↔
      fs.isDirectory [d] = true ∧ Path.fits e = true ∧
        ∃ content, fs.node? [d, e] = some (.file content) := by
  simp only [IsReadable, read_eq_ok_iff]
  constructor
  · rintro ⟨content, hstat⟩
    obtain ⟨l, hlocate, -⟩ := bind_eq_ok_iff.1 hstat
    obtain ⟨-, -, here, hleads, -⟩ :=
      (locate_name_eq_ok_iff (d := [d]) (.of_isSafe he)).1 hlocate
    obtain ⟨top, htop, -, -, rfl⟩ := (leads_concat_iff (d := []) (.of_isSafe hd)).1 hleads
    obtain rfl : [] = top := Except.ok.inj htop
    obtain ⟨-, hname, hnode⟩ :=
      (stat_name_eq_ok_iff (d := [d]) hleads (.of_isSafe he)).1 hstat
    exact ⟨hleads.isDirectory, hname, content, hnode⟩
  · rintro ⟨hstands, hname, content, hnode⟩
    have hcheck : Path.check [d, e] = .ok () :=
      (check_pair hd he).trans (if_neg (size_pair_le hfits hname))
    exact ⟨content, (stat_name_eq_ok_iff (d := [d]) ((leads_top_iff hd).2 ⟨hfits, hstands⟩)
      (.of_isSafe he)).2 ⟨hcheck, hname, hnode⟩⟩

/-- After a write, its own file can be read, and what could be before. -/
theorem isReadable_land_iff (hd : IsSafe d) (hfits : Path.fits d = true) (he : IsSafe e)
    (write : DroppedWrite) :
    (land fs write).IsReadable [d, e] ↔ fs.IsReadable [d, e] ∨ write.Fills fs [d, e] := by
  rw [isReadable_pair_iff hd hfits he, isReadable_pair_iff hd hfits he,
    (sameDirectories_land fs write).isDirectory_eq]
  rcases land_cases fs write with ⟨p, hfills, heq⟩ | ⟨hnone, heq⟩
  · rw [heq, node?_set fs (ne_nil_of_not_isDirectory hfills.2)]
    by_cases hp : [d, e] = p
    · subst hp
      simp [hfills, hfills.pair]
    · have hnot : ¬write.Fills fs [d, e] := fun hother => hp (hother.unique hfills)
      simp [hp, hnot]
  · simp [heq, hnone]

/-- The setting of a chain: a directory with a safe name at the top. -/
structure IsHome (fs : FileSystem) (d : String) : Prop where
  safe : IsSafe d
  fits : Path.fits d = true
  stands : fs.isDirectory [d] = true

theorem IsHome.of_sameDirectories (h : IsHome fs d) (hsame : SameDirectories fs fs') :
    IsHome fs' d :=
  { h with stands := (hsame.isDirectory_eq [d]).trans h.stands }

theorem IsHome.leads (h : IsHome fs d) : fs.Leads [d] [d] :=
  (leads_top_iff h.safe).2 ⟨h.fits, h.stands⟩

/-! ## One step -/

theorem sameDirectories_foldl_land (fs : FileSystem) (writes : List DroppedWrite) :
    SameDirectories fs (writes.foldl land fs) := by
  induction writes generalizing fs with
  | nil => exact .refl fs
  | cons write writes ih => exact (sameDirectories_land fs write).trans (ih _)

theorem isReadable_foldl_land_iff (hd : IsSafe d) (hfits : Path.fits d = true) (he : IsSafe e)
    (writes : List DroppedWrite) :
    (writes.foldl land fs).IsReadable [d, e] ↔
      fs.IsReadable [d, e] ∨ ∃ write ∈ writes, write.Fills fs [d, e] := by
  induction writes generalizing fs with
  | nil => simp
  | cons write writes ih =>
    have hsame := sameDirectories_land fs write
    rw [List.foldl_cons, ih, isReadable_land_iff hd hfits he]
    simp only [DroppedWrite.fills_iff hsame, List.exists_mem_cons_iff, or_assoc]

theorem sameDirectories_landBefore (dropped : List DroppedWrite) (step : Nat) (fs : FileSystem) :
    SameDirectories fs (landBefore dropped step fs) :=
  sameDirectories_foldl_land fs _

theorem sameDirectories_landAfter (dropped : List DroppedWrite) (steps : Nat) (fs : FileSystem) :
    SameDirectories fs (landAfter dropped steps fs) :=
  sameDirectories_foldl_land fs _

/-- Before a step, what is written at that time can be read. -/
theorem isReadable_landBefore_iff (hd : IsSafe d) (hfits : Path.fits d = true) (he : IsSafe e)
    (dropped : List DroppedWrite) (step : Nat) :
    (landBefore dropped step fs).IsReadable [d, e] ↔
      fs.IsReadable [d, e] ∨
        ∃ write ∈ dropped, write.delay = step ∧ write.Fills fs [d, e] := by
  unfold landBefore
  rw [isReadable_foldl_land_iff hd hfits he]
  simp only [List.mem_filter, beq_iff_eq, and_assoc]

/-- After all steps, what is written later can be read. -/
theorem isReadable_landAfter_iff (hd : IsSafe d) (hfits : Path.fits d = true) (he : IsSafe e)
    (dropped : List DroppedWrite) (steps : Nat) :
    (landAfter dropped steps fs).IsReadable [d, e] ↔
      fs.IsReadable [d, e] ∨
        ∃ write ∈ dropped, steps < write.delay ∧ write.Fills fs [d, e] := by
  unfold landAfter
  rw [isReadable_foldl_land_iff hd hfits he]
  simp only [List.mem_filter, decide_eq_true_eq, and_assoc]

/-- Releasing one file leaves the others. -/
theorem IsHome.isReadable_releaseFile_iff (h : IsHome fs d) (he : IsSafe e) {name : String}
    (hname : IsSafe name) :
    (releaseFile fs [d, name]).1.IsReadable [d, e] ↔ fs.IsReadable [d, e] ∧ [d, e] ≠ [d, name] := by
  obtain ⟨-, -, hgone⟩ := releaseFile_spec fs [d, name]
  by_cases heq : e = name
  · subst heq
    simp [IsReadable, hgone]
  · have hstat : (releaseFile fs [d, name]).1.stat [d, e] = fs.stat [d, e] :=
      stat_releaseFile h.leads (.of_isSafe hname) (.of_isSafe he) heq
    simp [IsReadable, read_eq_ok_iff, hstat, heq]

/-! ## All steps -/

namespace DroppedWrite

/-- Whether a write comes after the turn of a path in the steps of a cleanup from one on. -/
def Outlasts (write : DroppedWrite) (step : Nat) (paths : List Path) (p : Path) : Prop :=
  step ≤ write.delay ∧ p ∉ paths.drop (write.delay - step)

theorem outlasts_nil {step : Nat} : write.Outlasts step [] p ↔ step ≤ write.delay := by
  simp [Outlasts]

/-- A write after all the files comes after the turn of each. -/
theorem outlasts_of_le {step : Nat} (h : step + paths.length ≤ write.delay) (p : Path) :
    write.Outlasts step paths p := by
  refine ⟨Nat.le_trans (Nat.le_add_right _ _) h, ?_⟩
  rw [List.drop_eq_nil_of_le (by omega)]
  exact List.not_mem_nil

theorem outlasts_cons {step : Nat} {q : Path} :
    write.Outlasts step (q :: paths) p ↔
      (write.delay = step ∧ p ≠ q ∧ p ∉ paths) ∨ write.Outlasts (step + 1) paths p := by
  unfold Outlasts
  by_cases hnow : write.delay = step
  · have hpast : ¬step + 1 ≤ step := Nat.not_succ_le_self step
    rw [hnow, Nat.sub_self, List.drop_zero, List.mem_cons, not_or]
    simp only [hpast, Nat.le_refl, true_and, false_and, or_false]
  · by_cases hlater : step + 1 ≤ write.delay
    · rw [show write.delay - step = (write.delay - (step + 1)) + 1 by omega, List.drop_succ_cons]
      simp only [hnow, hlater, Nat.le_of_succ_le hlater, true_and, false_and, false_or]
    · exact iff_of_false (by omega) (by omega)

end DroppedWrite

/-- What becomes of the files of a chain while they are released and dropped writes take effect: no
directory comes or goes, the failures are counted as they are without the writes, and what can be
read is what was not released or is written after that. -/
theorem IsHome.releaseFilesAmid_spec (h : IsHome fs d) (dropped : List DroppedWrite)
    (hpaths : ∀ p ∈ paths, ∃ e, IsSafe e ∧ p = [d, e]) (step : Nat) :
    SameDirectories fs (releaseFilesAmid dropped step fs paths).1 ∧
      (releaseFilesAmid dropped step fs paths).2 = paths.countP (Sticks fs) ∧
      ∀ e, IsSafe e → ((releaseFilesAmid dropped step fs paths).1.IsReadable [d, e] ↔
        (fs.IsReadable [d, e] ∧ [d, e] ∉ paths) ∨
          ∃ write ∈ dropped, write.delay ≤ step + paths.length ∧
            write.Outlasts step paths [d, e] ∧ write.Fills fs [d, e]) := by
  induction paths generalizing fs step with
  | nil =>
    refine ⟨sameDirectories_landBefore dropped step fs, rfl, fun e he => ?_⟩
    rw [releaseFilesAmid, isReadable_landBefore_iff h.safe h.fits he]
    simp [DroppedWrite.outlasts_nil, Nat.le_antisymm_iff, and_assoc]
  | cons p paths ih =>
    obtain ⟨⟨name, hname, rfl⟩, hrest⟩ := List.forall_mem_cons.1 hpaths
    -- Neither what is written before the step nor the step itself changes the directories.
    have hwritten := sameDirectories_landBefore dropped step fs
    have hhome := h.of_sameDirectories hwritten
    have hsame := hwritten.trans (.of_releaseFile (landBefore dropped step fs) [d, name])
    obtain ⟨hdirectories, hfailed, hreadable⟩ :=
      ih (h.of_sameDirectories hsame) hrest (step + 1)
    have hreleased : (releaseFile (landBefore dropped step fs) [d, name]).2 =
        !Sticks fs [d, name] := by
      rw [releaseFile_pair h.safe hname h.fits hhome.stands, hwritten.sticks_eq]
    refine ⟨hsame.trans hdirectories, ?_, fun e he => ?_⟩
    · have hcount := List.countP_congr fun q (_ : q ∈ paths) =>
        Bool.eq_iff_iff.1 (hsame.sticks_eq q)
      simp only [releaseFilesAmid, hfailed, hreleased, hcount, List.countP_cons]
      cases Sticks fs [d, name] <;> simp
    · simp only [releaseFilesAmid]
      rw [hreadable e he, hhome.isReadable_releaseFile_iff he hname,
        isReadable_landBefore_iff h.safe h.fits he]
      simp only [DroppedWrite.fills_iff hsame, DroppedWrite.outlasts_cons, List.mem_cons,
        List.length_cons]
      constructor
      · rintro (⟨⟨hold | ⟨write, hmem, hnow, hfills⟩, hne⟩, hnot⟩ |
          ⟨write, hmem, hsoon, hlater, hfills⟩)
        · exact Or.inl ⟨hold, fun hin => hin.elim hne hnot⟩
        · exact Or.inr ⟨write, hmem, by omega, Or.inl ⟨hnow, hne, hnot⟩, hfills⟩
        · exact Or.inr ⟨write, hmem, by omega, Or.inr hlater, hfills⟩
      · rintro (⟨hold, hnot⟩ | ⟨write, hmem, hsoon, ⟨hnow, hne, hnot⟩ | hlater, hfills⟩)
        · exact Or.inl ⟨⟨Or.inl hold, fun heq => hnot (Or.inl heq)⟩, fun hin => hnot (Or.inr hin)⟩
        · exact Or.inl ⟨⟨Or.inr ⟨write, hmem, hnow, hfills⟩, hne⟩, hnot⟩
        · exact Or.inr ⟨write, hmem, by omega, hlater, hfills⟩

/-! ## The directory -/

/-- The release of the directory leaves it when a file in it can be read. -/
theorem IsHome.releaseDirectory_of_isReadable (h : IsHome fs d) (he : IsSafe e)
    (hreadable : fs.IsReadable [d, e]) : releaseDirectory fs [d] = fs := by
  obtain ⟨-, -, content, hnode⟩ := (isReadable_pair_iff h.safe h.fits he).1 hreadable
  have hchild : e ∈ fs.children [d] := mem_children_iff.2 ⟨_, hnode⟩
  rw [releaseDirectory_eq (locate_top h.safe h.fits fs) (isDirectory_iff.1 h.stands),
    if_neg (List.ne_nil_of_mem hchild)]

/-- When a file can be read just if some write puts it there, that is still so after the release of
the directory. -/
theorem IsHome.isReadable_releaseDirectory_iff (h : IsHome fs d) (he : IsSafe e)
    {Q : DroppedWrite → Prop}
    (hreadable : fs.IsReadable [d, e] ↔ ∃ write, Q write ∧ write.Fills fs [d, e]) :
    (releaseDirectory fs [d]).IsReadable [d, e] ↔
      ∃ write, Q write ∧ write.Fills (releaseDirectory fs [d]) [d, e] := by
  have hshrinks := releaseDirectory_shrinks fs [d]
  by_cases hstays : fs.IsReadable [d, e]
  · rwa [h.releaseDirectory_of_isReadable he hstays]
  · refine iff_of_false (fun ⟨content, hread⟩ => hstays ⟨content, hshrinks.read hread⟩) ?_
    rintro ⟨write, hwrite, hlocate, hfree⟩
    refine hstays (hreadable.2 ⟨write, hwrite, hshrinks.directories.locate hlocate, ?_⟩)
    unfold isDirectory at hfree ⊢
    rwa [node?_releaseDirectory_top h.safe (by simp)] at hfree

/-! ## The store -/

theorem releaseFilesAmid_nil (step : Nat) (fs : FileSystem) (paths : List Path) :
    releaseFilesAmid [] step fs paths = releaseFiles fs paths := by
  induction paths generalizing fs step with
  | nil => rfl
  | cons p paths ih =>
    rw [releaseFiles_cons, releaseFilesAmid]
    simp only [landBefore, List.filter_nil, List.foldl_nil, ih]
    split <;> rfl

/-- Without dropped writes, a cleanup is a release. -/
theorem TempStore.cleanUp_of_answered {s : TempStore} (h : s.dropped = []) (fs : FileSystem) :
    s.cleanUp fs = ((s.releaseAll fs).1, (s.releaseAll fs).2.2) := by
  unfold cleanUp releaseAll drain release
  rw [h]
  simp only [releaseFilesAmid_nil, landAfter, List.filter_nil, List.foldl_nil]
  split <;> rfl

end ChatChain
