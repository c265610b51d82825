import ChatChain.Proofs.Places
import ChatChain.TempStore.Ledger

/-!
# What a release leaves behind

A ledger lists paths, and a release goes through them one after the other.

There are five groups.

* One file.  `releaseFile_spec` and `node?_releaseFile` say what one round of a release does to the
  file system, and `releaseFile_snd_iff` when it succeeds.
* All files.  The same of a whole release.
* Names in one directory.  There the rounds do not interfere, and `countP_releaseFiles` counts the
  failures.
* Names in a directory at the top.  `Sticks` says which of them fail.
* The directory.  `releaseDirectory_eq` says when it goes, and that nothing else does.
  `release_directory` says that of the directory of a ledger.
-/

namespace ChatChain.Ledger

open Fallible FileName FileSystem ChatChain.Path

variable {fs : FileSystem}

/-! ## One file -/

/-- Releasing a file adds nothing and loses no directory, and nothing can be read at its path any
more. -/
theorem releaseFile_spec (fs : FileSystem) (p : Path) :
    Shrinks fs (releaseFile fs p).1 ∧ KeepsDirectories fs (releaseFile fs p).1 ∧
      ∀ content, (releaseFile fs p).1.read p ≠ .ok content := by
  unfold releaseFile
  cases hremove : fs.removeFile p with
  | ok fs' =>
    obtain ⟨hshrinks, hgone⟩ := removeFile_shrinks hremove
    exact ⟨hshrinks, removeFile_keeps hremove, hgone⟩
  | error e =>
    have hgone : ∀ content, fs.read p ≠ .ok content := by
      intro content hread
      obtain ⟨_, -, -, hok⟩ := removeFile_of_stat_file (read_eq_ok_iff.1 hread)
      exact absurd (hremove.symm.trans hok) (by simp)
    cases e <;> exact ⟨.refl fs, .refl fs, hgone⟩

/-- A release changes nothing but where its path leads, if a file is there. -/
theorem node?_releaseFile (fs : FileSystem) (p q : Path) :
    (releaseFile fs p).1.node? q = fs.node? q ∨
      ∃ l content, fs.locate [] p = .ok l ∧ fs.read p = .ok content ∧ l.path = q := by
  unfold releaseFile
  cases hstat : fs.stat p with
  | error e =>
    rw [removeFile_of_stat_error hstat]
    cases e <;> exact Or.inl rfl
  | ok node =>
    cases node with
    | directory =>
      rw [removeFile_of_stat_directory hstat]
      exact Or.inl rfl
    | file content =>
      obtain ⟨l, hlocate, hnode, hremove⟩ := removeFile_of_stat_file hstat
      rw [hremove]
      by_cases hq : l.path = q
      · exact Or.inr ⟨l, content, hlocate, read_eq_ok_iff.2 hstat, hq⟩
      · exact Or.inl ((node?_erase fs (ne_nil_of_nodeAt_file hnode) q).trans (if_neg (Ne.symm hq)))

/-- A path is released when a file or nothing at all is there. -/
theorem releaseFile_snd_iff {fs : FileSystem} {p : Path} :
    (releaseFile fs p).2 = true ↔
      (∃ content, fs.stat p = .ok (.file content)) ∨ fs.stat p = .error .notFound := by
  unfold releaseFile
  cases hstat : fs.stat p with
  | error e =>
    rw [removeFile_of_stat_error hstat]
    cases e <;> simp
  | ok node =>
    cases node with
    | directory =>
      rw [removeFile_of_stat_directory hstat]
      simp
    | file content =>
      obtain ⟨l, -, -, hremove⟩ := removeFile_of_stat_file hstat
      rw [hremove]
      simp

/-! ## All files -/

/-- One round of a release, given the files and how many of them could not be released before. -/
def releaseRound (s : FileSystem × Nat) (p : Path) : FileSystem × Nat :=
  ((releaseFile s.1 p).1, if (releaseFile s.1 p).2 then s.2 else s.2 + 1)

theorem releaseRound_mk (fs : FileSystem) (n : Nat) (p : Path) :
    releaseRound (fs, n) p =
      ((releaseFile fs p).1, if (releaseFile fs p).2 then n else n + 1) := rfl

theorem releaseFiles_eq_foldl (fs : FileSystem) (paths : List Path) :
    releaseFiles fs paths = paths.foldl releaseRound (fs, 0) := rfl

/-- The failures before a release only add to its count. -/
theorem foldl_releaseRound (paths : List Path) (fs : FileSystem) (n : Nat) :
    paths.foldl releaseRound (fs, n) =
      ((releaseFiles fs paths).1, (releaseFiles fs paths).2 + n) := by
  induction paths generalizing fs n with
  | nil => simp [releaseFiles_eq_foldl]
  | cons p paths ih =>
    rw [releaseFiles_eq_foldl, List.foldl_cons, List.foldl_cons, releaseRound_mk, releaseRound_mk,
      ih, ih]
    split <;> simp [Nat.add_assoc, Nat.add_comm 1]

/-- The rounds of a release behind the first one. -/
theorem releaseFiles_cons (fs : FileSystem) (p : Path) (paths : List Path) :
    releaseFiles fs (p :: paths) =
      ((releaseFiles (releaseFile fs p).1 paths).1,
        (releaseFiles (releaseFile fs p).1 paths).2 + if (releaseFile fs p).2 then 0 else 1) := by
  rw [releaseFiles_eq_foldl, List.foldl_cons, releaseRound_mk, foldl_releaseRound]

/-- Discarding a file does to the files what releasing it does. -/
theorem discardFile_eq (fs : FileSystem) (p : Path) : discardFile fs p = (releaseFile fs p).1 := by
  unfold discardFile releaseFile
  cases fs.removeFile p with
  | ok fs' => rfl
  | error e => cases e <;> rfl

theorem foldl_discardFile (fs : FileSystem) (paths : List Path) :
    paths.foldl discardFile fs = (releaseFiles fs paths).1 := by
  induction paths generalizing fs with
  | nil => rfl
  | cons p paths ih => rw [List.foldl_cons, discardFile_eq, ih, releaseFiles_cons]

/-- A release adds nothing and loses no directory, and nothing can be read at its paths any more. -/
theorem releaseFiles_spec (fs : FileSystem) (paths : List Path) :
    Shrinks fs (releaseFiles fs paths).1 ∧ KeepsDirectories fs (releaseFiles fs paths).1 ∧
      ∀ p ∈ paths, ∀ content, (releaseFiles fs paths).1.read p ≠ .ok content := by
  induction paths generalizing fs with
  | nil => exact ⟨.refl fs, .refl fs, by simp⟩
  | cons p paths ih =>
    obtain ⟨hshrinks, hkeeps, hgone⟩ := releaseFile_spec fs p
    obtain ⟨hshrinks', hkeeps', hgone'⟩ := ih (releaseFile fs p).1
    rw [releaseFiles_cons]
    refine ⟨hshrinks.trans hshrinks', hkeeps.trans hkeeps', fun q hq content hread => ?_⟩
    rcases List.mem_cons.1 hq with rfl | hq
    · exact hgone content (hshrinks'.read hread)
    · exact hgone' q hq content hread

/-- A release changes nothing but where its paths lead, and only if files are there. -/
theorem node?_releaseFiles (fs : FileSystem) (paths : List Path) (q : Path) :
    (releaseFiles fs paths).1.node? q = fs.node? q ∨
      ∃ p ∈ paths, ∃ l content, fs.locate [] p = .ok l ∧ fs.read p = .ok content ∧ l.path = q := by
  induction paths generalizing fs with
  | nil => exact Or.inl rfl
  | cons p paths ih =>
    rw [releaseFiles_cons]
    have hshrinks := (releaseFile_spec fs p).1
    rcases ih (releaseFile fs p).1 with hsame | ⟨p', hp', l, content, hlocate, hread, hl⟩
    · rcases node?_releaseFile fs p q with hfirst | hchanged
      · exact Or.inl (hsame.trans hfirst)
      · exact Or.inr ⟨p, List.mem_cons_self, hchanged⟩
    · exact Or.inr ⟨p', List.mem_cons_of_mem _ hp', l, content, hshrinks.directories.locate hlocate,
        hshrinks.read hread, hl⟩

/-! ## Names in one directory -/

variable {dir here : Path} {e name : String}

/-- Releasing a name in a directory makes no difference to another one. -/
theorem stat_releaseFile (h : fs.Leads dir here) (he : IsName e) (hname : IsName name)
    (hne : name ≠ e) :
    (releaseFile fs (dir ++ [e])).1.stat (dir ++ [name]) = fs.stat (dir ++ [name]) := by
  have hleads := h.of_keeps (releaseFile_spec fs (dir ++ [e])).2.1
  rw [stat_name h hname, stat_name hleads hname]
  rcases node?_releaseFile fs (dir ++ [e]) (here ++ [name]) with hsame | ⟨l, _, hlocate, -, hl⟩
  · rw [hsame]
  · obtain ⟨-, -, here', hleads', rfl⟩ := (locate_name_eq_ok_iff he).1 hlocate
    obtain rfl := Except.ok.inj (h.symm.trans hleads')
    exact absurd hl (by simpa [Location.path] using Ne.symm hne)

/-- A release of different names in a directory fails for those that would fail by themselves. -/
theorem countP_releaseFiles (h : fs.Leads dir here) {paths : List Path}
    (hnames : ∀ p ∈ paths, ∃ name, IsName name ∧ p = dir ++ [name]) (hnodup : paths.Nodup) :
    (releaseFiles fs paths).2 = paths.countP fun p => !(releaseFile fs p).2 := by
  induction paths generalizing fs with
  | nil => rfl
  | cons p paths ih =>
    obtain ⟨e, he, rfl⟩ := hnames p List.mem_cons_self
    obtain ⟨hnew, hrest⟩ := List.nodup_cons.1 hnodup
    have hleads := h.of_keeps (releaseFile_spec fs (dir ++ [e])).2.1
    -- The first round makes no difference to the other names.
    have hothers : ∀ q ∈ paths, (releaseFile (releaseFile fs (dir ++ [e])).1 q).2 =
        (releaseFile fs q).2 := by
      intro q hq
      obtain ⟨name, hname, rfl⟩ := hnames q (List.mem_cons_of_mem _ hq)
      have hne : name ≠ e := by
        rintro rfl
        exact hnew hq
      rw [Bool.eq_iff_iff, releaseFile_snd_iff, releaseFile_snd_iff,
        stat_releaseFile h he hname hne]
    rw [releaseFiles_cons, ih hleads (fun q hq => hnames q (List.mem_cons_of_mem _ hq)) hrest,
      List.countP_cons, List.countP_congr fun q hq => by rw [hothers q hq]]
    cases (releaseFile fs (dir ++ [e])).2 <;> rfl

/-- A release of names in a directory empties it when files at those names were all that was in
it. -/
theorem children_releaseFiles_eq_nil_iff (h : fs.Leads dir here) {paths : List Path}
    (hnames : ∀ p ∈ paths, ∃ name, IsName name ∧ p = dir ++ [name]) :
    (releaseFiles fs paths).1.children here = [] ↔
      ∀ name ∈ fs.children here,
        dir ++ [name] ∈ paths ∧ ∃ content, fs.read (dir ++ [name]) = .ok content := by
  obtain ⟨hshrinks, hkeeps, hgone⟩ := releaseFiles_spec fs paths
  rw [List.eq_nil_iff_forall_not_mem]
  constructor
  · intro hempty name hname
    obtain ⟨node, hnode⟩ := mem_children_iff.1 hname
    rcases node?_releaseFiles fs paths (here ++ [name]) with hsame | ⟨p, hp, l, content, hchanged⟩
    · exact absurd (mem_children_iff.2 ⟨node, hsame.trans hnode⟩) (hempty name)
    · obtain ⟨hlocate, hread, hl⟩ := hchanged
      obtain ⟨e, he, rfl⟩ := hnames p hp
      obtain ⟨-, -, here', hleads', rfl⟩ := (locate_name_eq_ok_iff he).1 hlocate
      obtain rfl := Except.ok.inj (h.symm.trans hleads')
      obtain rfl : e = name := by simpa [Location.path] using hl
      exact ⟨hp, content, hread⟩
  · intro hfiles name hname
    obtain ⟨node, hnode⟩ := mem_children_iff.1 hname
    have hold := hshrinks _ _ hnode
    obtain ⟨hp, content, hread⟩ := hfiles name (mem_children_iff.2 ⟨node, hold⟩)
    obtain ⟨e, he, heq⟩ := hnames _ hp
    obtain rfl : name = e := by simpa using heq
    obtain ⟨hcheck, hfits, hfile⟩ := (stat_name_eq_ok_iff h he).1 (read_eq_ok_iff.1 hread)
    obtain rfl := Option.some.inj (hold.symm.trans hfile)
    refine hgone _ hp content (read_eq_ok_iff.2 ?_)
    exact (stat_name_eq_ok_iff (h.of_keeps hkeeps) he).2 ⟨hcheck, hfits, hnode⟩

/-! ## Names in a directory at the top -/

/-- Whether a path cannot be released. -/
def Sticks (fs : FileSystem) (p : Path) : Bool :=
  fs.isDirectory p || !p.all Path.fits

variable {d : String}

/-- A safe name in a directory at the top is released unless it sticks. -/
theorem releaseFile_pair (hd : IsSafe d) (he : IsSafe e) (hfits : Path.fits d = true)
    (hdirectory : fs.isDirectory [d] = true) :
    (releaseFile fs [d, e]).2 = !Sticks fs [d, e] := by
  have hleads := (leads_top_iff hd).2 ⟨hfits, hdirectory⟩
  rw [Bool.eq_iff_iff, releaseFile_snd_iff, show [d, e] = [d] ++ [e] from rfl,
    stat_name hleads (.of_isSafe he)]
  unfold Sticks
  rw [show [d] ++ [e] = [d, e] from rfl, check_pair hd he]
  cases hfits' : Path.fits e with
  | false => by_cases hlong : Path.maxSize < Path.size [d, e] <;> simp [hlong, hfits']
  | true =>
    rw [if_neg (size_pair_le hfits hfits')]
    cases hnode : fs.node? [d, e] with
    | none => simp [isDirectory, hnode, hfits, hfits']
    | some node => cases node <;> simp [isDirectory, hnode, hfits, hfits']

/-! ## The directory -/

/-- A directory goes when nothing is in it. -/
theorem releaseDirectory_eq (hlocate : fs.locate [] dir = .ok (.named here false))
    (hnode : fs.node? here = some .directory) :
    releaseDirectory fs dir = if fs.children here = [] then fs.erase here else fs := by
  have hremove : fs.removeDirectory dir =
      if fs.children here = [] then .ok (fs.erase here) else .error .notEmpty := by
    simp [removeDirectory, hlocate, removeDirectoryAt, nodeAt, hnode]
  unfold releaseDirectory
  rw [hremove]
  by_cases hempty : fs.children here = []
  · rw [if_pos hempty, if_pos hempty]
  · rw [if_neg hempty, if_neg hempty]

/-- Nothing stands any more at the path of a directory that goes. -/
theorem missing_releaseDirectory (hlocate : fs.locate [] dir = .ok (.named here false))
    (hnode : fs.node? here = some .directory) (hne : here ≠ []) (hempty : fs.children here = []) :
    (releaseDirectory fs dir).Missing dir := by
  rw [releaseDirectory_eq hlocate hnode, if_pos hempty, missing_iff]
  cases hstat : (fs.erase here).stat dir with
  | error e => exact ⟨e, rfl⟩
  | ok node =>
    obtain ⟨l, hlocate', hat⟩ := bind_eq_ok_iff.1 hstat
    have hsame := (Shrinks.erase here).directories.locate hlocate'
    obtain rfl := Except.ok.inj (hlocate.symm.trans hsame)
    exact absurd hat (by simp [nodeAt, node?_erase fs hne])

/-- Releasing a directory takes away the place where its path leads, or nothing. -/
theorem releaseDirectory_cases (fs : FileSystem) (dir : Path) :
    releaseDirectory fs dir = fs ∨
      ∃ l, fs.locate [] dir = .ok l ∧ releaseDirectory fs dir = fs.erase l.path := by
  unfold releaseDirectory
  cases hremove : fs.removeDirectory dir with
  | error e => exact Or.inl rfl
  | ok fs' =>
    obtain ⟨l, hlocate, hat⟩ := bind_eq_ok_iff.1 hremove
    cases l with
    | itself p => exact absurd hat (by simp [removeDirectoryAt])
    | named p slashed =>
      obtain ⟨node, -, hat⟩ := bind_eq_ok_iff.1 hat
      cases node with
      | file content => exact absurd hat (by simp)
      | directory =>
        simp only at hat
        split at hat
        · exact Or.inr ⟨_, hlocate, (Except.ok.inj hat).symm⟩
        · exact absurd hat (by simp)

/-- Releasing a directory adds nothing. -/
theorem releaseDirectory_shrinks (fs : FileSystem) (dir : Path) :
    Shrinks fs (releaseDirectory fs dir) := by
  rcases releaseDirectory_cases fs dir with hsame | ⟨l, -, herase⟩
  · rw [hsame]
    exact .refl fs
  · rw [herase]
    exact .erase l.path

/-- Releasing a directory at the top changes nothing at other paths. -/
theorem node?_releaseDirectory_top (hd : IsSafe d) {q : Path} (hq : q ≠ [d]) :
    (releaseDirectory fs [d]).node? q = fs.node? q := by
  rcases releaseDirectory_cases fs [d] with hsame | ⟨l, hlocate, herase⟩
  · rw [hsame]
  · obtain ⟨-, -, here, hhere, rfl⟩ := (locate_name_eq_ok_iff (d := []) (.of_isSafe hd)).1 hlocate
    obtain rfl : [] = here := Except.ok.inj hhere
    rw [herase]
    exact (node?_erase fs (by simp [Location.path]) q).trans (if_neg hq)

/-- Whether everything in a directory is a file at one of the given paths. -/
def HoldsOnly (fs : FileSystem) (dir : Path) (paths : List Path) : Prop :=
  ∀ name ∈ fs.namesIn dir, dir ++ [name] ∈ paths ∧ ∃ content, fs.read (dir ++ [name]) = .ok content

/-- A release of names in the directory of a ledger takes the directory away when it held nothing
else, and keeps it otherwise. -/
theorem release_directory {l : Ledger} (hname : IsName name) (hdir : l.directory = dir ++ [name])
    (hcheck : Path.check l.directory = .ok ()) (hleads : fs.Leads l.directory here)
    (hnames : ∀ p ∈ l.paths, ∃ name, IsName name ∧ p = l.directory ++ [name]) :
    HoldsOnly fs l.directory l.paths ∧ (l.release fs).1.Missing l.directory ∨
      ¬HoldsOnly fs l.directory l.paths ∧ (l.release fs).1.stat l.directory = .ok .directory := by
  have hlocate : ∀ {fs : FileSystem}, fs.Leads l.directory here →
      fs.locate [] l.directory = .ok (.named here false) := by
    rw [hdir] at hcheck ⊢
    exact locate_of_leads hname hcheck
  have hholds : HoldsOnly fs l.directory l.paths ↔
      (releaseFiles fs l.paths).1.children here = [] := by
    rw [children_releaseFiles_eq_nil_iff hleads hnames]
    simp only [HoldsOnly, namesIn, hlocate hleads, Location.path]
  have hleads' := hleads.of_keeps (releaseFiles_spec fs l.paths).2.1
  have hnode := isDirectory_iff.1 hleads'.isDirectory
  have hrelease : (l.release fs).1 = releaseDirectory (releaseFiles fs l.paths).1 l.directory := rfl
  rw [hholds, hrelease]
  by_cases hempty : (releaseFiles fs l.paths).1.children here = []
  · refine Or.inl ⟨hempty, missing_releaseDirectory (hlocate hleads') hnode ?_ hempty⟩
    rw [hdir] at hleads
    obtain ⟨top, -, -, -, rfl⟩ := (leads_concat_iff hname).1 hleads
    simp
  · refine Or.inr ⟨hempty, ?_⟩
    rw [releaseDirectory_eq (hlocate hleads') hnode, if_neg hempty]
    rw [hdir] at hcheck hleads' ⊢
    exact stat_of_leads hname hcheck hleads'

/-- Nothing can be read any more at the paths that a ledger releases. -/
theorem read_release_ne_ok (l : Ledger) (fs : FileSystem) {p : Path} (hp : p ∈ l.paths)
    (content : ByteArray) : (l.release fs).1.read p ≠ .ok content := by
  intro hread
  obtain ⟨-, -, hgone⟩ := releaseFiles_spec fs l.paths
  exact hgone p hp content ((releaseDirectory_shrinks _ l.directory).read hread)

end ChatChain.Ledger
