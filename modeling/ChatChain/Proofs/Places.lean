import ChatChain.Proofs.FileNames
import ChatChain.Proofs.Files

/-!
# Where written paths lead

A path is followed from name to name, and every name on the way must lead to a directory.  This
module says what can be found at the end of a path, and how that depends on the nodes of the file
system.

There are four groups.

* What stands at a path.  `stat` is what a path leads to, and reading, writing and removing are said
  in terms of it.
* Fewer nodes.  `Shrinks` says that nothing was added, and `Shrinks.stat` that then nothing new is
  found at any path.
* Names in a directory.  `Leads` says where the directory that a path is written in is, and
  `stat_name` what a name in it leads to.
* Names in a directory at the top.  For safe names, all that matters is whether they fit.
-/

namespace ChatChain

namespace Path

/-- Whether a text is one name that leads to a place of its own in a directory. -/
structure IsName (name : String) : Prop where
  active : isIdle name = false
  onward : name ≠ ".."
  unslashed : '/' ∉ name.toList

instance (name : String) : Decidable (IsName name) :=
  decidable_of_iff (isIdle name = false ∧ name ≠ ".." ∧ '/' ∉ name.toList)
    ⟨fun h => ⟨h.1, h.2.1, h.2.2⟩, fun h => ⟨h.active, h.onward, h.unslashed⟩⟩

namespace IsName

variable {name : String}

theorem ne_empty (h : IsName name) : name ≠ "" := by
  rintro rfl
  exact absurd h.active (by decide)

/-- A safe name is one name. -/
theorem of_isSafe (h : FileName.IsSafe name) : IsName name where
  active := h.advance.1
  onward := by simpa using h.advance.2.1
  unslashed hslash := absurd (h.chars '/' hslash) (by decide)

end IsName

theorem cutAtSlashes_of_not_mem {cs : List Char} (h : '/' ∉ cs) : cutAtSlashes cs = [cs] := by
  induction cs with
  | nil => rfl
  | cons c cs ih =>
    obtain ⟨hc, hcs⟩ : '/' ≠ c ∧ '/' ∉ cs := by simpa using h
    rw [cutAtSlashes, ih hcs]
    simp [Ne.symm hc]

theorem IsName.not_isAbsolute {name : String} (h : IsName name) : isAbsolute name = false := by
  unfold isAbsolute
  cases hhead : name.toList.head? with
  | none => rfl
  | some c =>
    have hc : c ≠ '/' := by
      rintro rfl
      exact h.unslashed (List.mem_of_mem_head? hhead)
    simpa using hc

/-- A name that is written in a directory stands behind it. -/
theorem join_name (d : Path) {name : String} (h : IsName name) : join d name = d ++ [name] := by
  unfold join ofText
  rw [h.not_isAbsolute, cutAtSlashes_of_not_mem h.unslashed]
  simp

theorem normal_concat (d : Path) {name : String} (h : IsName name) :
    normal (d ++ [name]) = normal d ++ [name] := by
  simp [normal, h.active]

end Path

namespace FileSystem

open Fallible ChatChain.Path

variable {fs fs' : FileSystem} {p : Path} {content : ByteArray}

/-! ## What stands at a path -/

/-- What a path leads to. -/
def stat (fs : FileSystem) (p : Path) : Except FileError Node :=
  fs.locate [] p >>= fs.nodeAt

/-- Whether nothing stands at a path. -/
def Missing (fs : FileSystem) (p : Path) : Prop :=
  (fs.stat p).isOk = false

instance (fs : FileSystem) (p : Path) : Decidable (fs.Missing p) :=
  inferInstanceAs (Decidable (_ = false))

theorem missing_iff : fs.Missing p ↔ ∃ e, fs.stat p = .error e := by
  unfold Missing
  cases fs.stat p with
  | error e => exact ⟨fun _ => ⟨e, rfl⟩, fun _ => rfl⟩
  | ok node => simp [Except.isOk, Except.toBool]

theorem readAt_eq_ok_iff {l : Location} :
    fs.readAt l = .ok content ↔ fs.nodeAt l = .ok (.file content) := by
  unfold readAt
  cases fs.nodeAt l with
  | error e => simp
  | ok node => cases node <;> simp

/-- What can be read is the content of a file. -/
theorem read_eq_ok_iff : fs.read p = .ok content ↔ fs.stat p = .ok (.file content) := by
  simp only [read, stat, bind_eq_ok_iff, readAt_eq_ok_iff]

theorem nodeAt_congr {l : Location} (h : fs.node? l.path = fs'.node? l.path) :
    fs.nodeAt l = fs'.nodeAt l := by
  cases l with
  | itself q => rfl
  | named q slashed =>
    have hnode : fs.node? q = fs'.node? q := h
    simp only [nodeAt, hnode]

/-- What stands at a location is the node there. -/
theorem node?_of_nodeAt {l : Location} {node : Node} (h : fs.nodeAt l = .ok node) :
    node = .directory ∨ fs.node? l.path = some node := by
  cases l with
  | itself q =>
    obtain rfl := Except.ok.inj h
    exact Or.inl rfl
  | named q slashed =>
    unfold nodeAt at h
    unfold Location.path
    cases hnode : fs.node? q with
    | none => simp [hnode] at h
    | some found =>
      cases found with
      | directory =>
        simp only [hnode] at h
        exact Or.inl (Except.ok.inj h).symm
      | file other =>
        simp only [hnode] at h
        split at h
        · exact absurd h (by simp)
        · exact Or.inr (congrArg some (Except.ok.inj h))

/-- Removing a file takes away what the path leads to. -/
theorem removeFile_of_stat_file (h : fs.stat p = .ok (.file content)) :
    ∃ l, fs.locate [] p = .ok l ∧ fs.nodeAt l = .ok (.file content) ∧
      fs.removeFile p = .ok (fs.erase l.path) := by
  obtain ⟨l, hlocate, hnode⟩ := bind_eq_ok_iff.1 h
  refine ⟨l, hlocate, hnode, ?_⟩
  simp [removeFile, removeFileAt, hlocate, hnode]

theorem removeFile_of_stat_directory (h : fs.stat p = .ok .directory) :
    fs.removeFile p = .error .isADirectory := by
  obtain ⟨l, hlocate, hnode⟩ := bind_eq_ok_iff.1 h
  simp [removeFile, removeFileAt, hlocate, hnode]

/-- Where nothing stands, removing a file fails for the reason for that. -/
theorem removeFile_of_stat_error {e : FileError} (h : fs.stat p = .error e) :
    fs.removeFile p = .error e := by
  rcases bind_eq_error_iff.1 h with hlocate | ⟨l, hlocate, hnode⟩
  · simp [removeFile, hlocate]
  · simp [removeFile, removeFileAt, hlocate, hnode]

/-- Writing a file changes nothing but where its path leads. -/
theorem node?_write (h : fs.write p content = .ok fs') :
    ∃ l, fs.locate [] p = .ok l ∧ ∀ q, q ≠ l.path → fs'.node? q = fs.node? q := by
  obtain ⟨l, hlocate, hwrite⟩ := bind_eq_ok_iff.1 h
  refine ⟨l, hlocate, fun q hq => ?_⟩
  obtain ⟨here, rfl, hdirectory, rfl⟩ := writeAt_eq_ok_iff.1 hwrite
  exact (node?_set fs (ne_nil_of_not_isDirectory hdirectory) _ q).trans (if_neg hq)

/-! ## Fewer nodes -/

/-- Whether every node of a file system stood there before. -/
def Shrinks (fs fs' : FileSystem) : Prop :=
  ∀ p node, fs'.node? p = some node → fs.node? p = some node

namespace Shrinks

theorem refl (fs : FileSystem) : Shrinks fs fs := fun _ _ h => h

theorem trans {fs'' : FileSystem} (h : Shrinks fs fs') (h' : Shrinks fs' fs'') : Shrinks fs fs'' :=
  fun p node hnode => h p node (h' p node hnode)

theorem erase (q : Path) : Shrinks fs (fs.erase q) := by
  intro p node hnode
  unfold node? FileSystem.erase at *
  split at hnode
  · next hroot => rwa [if_pos hroot]
  · next hroot =>
    rw [lookup_filter_ne] at hnode
    split at hnode
    · exact absurd hnode (by simp)
    · rwa [if_neg hroot]

/-- Where nothing was added, every directory stood there before. -/
theorem directories (h : Shrinks fs fs') : KeepsDirectories fs' fs :=
  fun p hp => isDirectory_iff.2 (h p _ (isDirectory_iff.1 hp))

theorem nodeAt (h : Shrinks fs fs') {l : Location} {node : Node}
    (hnode : fs'.nodeAt l = .ok node) : fs.nodeAt l = .ok node := by
  cases l with
  | itself q => exact hnode
  | named q slashed =>
    simp only [FileSystem.nodeAt] at hnode ⊢
    cases hfound : fs'.node? q with
    | none => simp [hfound] at hnode
    | some found =>
      rw [h q found hfound]
      rwa [hfound] at hnode

/-- What a path leads to stood there before. -/
theorem stat (h : Shrinks fs fs') {node : Node} (hstat : fs'.stat p = .ok node) :
    fs.stat p = .ok node := by
  obtain ⟨l, hlocate, hnode⟩ := bind_eq_ok_iff.1 hstat
  exact bind_eq_ok_iff.2 ⟨l, h.directories.locate hlocate, h.nodeAt hnode⟩

theorem read (h : Shrinks fs fs') (hread : fs'.read p = .ok content) :
    fs.read p = .ok content :=
  read_eq_ok_iff.2 (h.stat (read_eq_ok_iff.1 hread))

end Shrinks

theorem ne_nil_of_nodeAt_file {l : Location} (h : fs.nodeAt l = .ok (.file content)) :
    l.path ≠ [] :=
  ne_nil_of_not_isDirectory (isDirectory_of_nodeAt_eq_file h)

/-- Removing a file adds nothing, and nothing can be read at its path any more. -/
theorem removeFile_shrinks (h : fs.removeFile p = .ok fs') :
    Shrinks fs fs' ∧ ∀ content, fs'.read p ≠ .ok content := by
  cases hstat : fs.stat p with
  | error e => exact absurd (h.symm.trans (removeFile_of_stat_error hstat)) (by simp)
  | ok node =>
    cases node with
    | directory => exact absurd (h.symm.trans (removeFile_of_stat_directory hstat)) (by simp)
    | file content =>
      obtain ⟨l, hlocate, hnode, hremove⟩ := removeFile_of_stat_file hstat
      obtain rfl := Except.ok.inj (h.symm.trans hremove)
      have hne := ne_nil_of_nodeAt_file hnode
      refine ⟨.erase l.path, fun other hread => ?_⟩
      obtain ⟨l', hlocate', hnode'⟩ := bind_eq_ok_iff.1 (read_eq_ok_iff.1 hread)
      obtain rfl := Except.ok.inj
        (hlocate.symm.trans ((Shrinks.erase l.path).directories.locate hlocate'))
      rcases node?_of_nodeAt hnode' with hdirectory | hfile
      · exact absurd hdirectory (by simp)
      · rw [node?_erase fs hne, if_pos rfl] at hfile
        exact absurd hfile (by simp)

/-! ## Names in a directory -/

/-- Whether the path `d` leads to the directory `here`, on the way to a name in it. -/
def Leads (fs : FileSystem) (d here : Path) : Prop :=
  (d.filter (· != "")).foldlM fs.enter [] = .ok here

variable {d here : Path} {name : String}

namespace Leads

/-- Where no directory is lost, a path leads where it led. -/
theorem of_keeps (h : fs.Leads d here) (hkeeps : KeepsDirectories fs fs') : fs'.Leads d here :=
  hkeeps.enterAll h

theorem isDirectory (h : fs.Leads d here) : fs.isDirectory here = true := by
  refine foldlM_preserves (P := fun p => fs.isDirectory p = true)
    (fun start name next _ henter => ?_) (isDirectory_nil fs) h
  obtain ⟨-, hdirectory, rfl⟩ := enter_eq_ok_iff.1 henter
  exact hdirectory

end Leads

/-- A path is entered up to its last name, and that one is not looked at. -/
theorem follow_concat (hname : IsName name) (slashed : Bool) (names : List String) (start : Path) :
    fs.follow slashed start (names ++ [name]) = (do
      let here ← names.foldlM fs.enter start
      if Path.fits name then .ok (.named (here ++ [name]) slashed) else .error .nameTooLong) := by
  induction names generalizing start with
  | nil => cases hfits : Path.fits name <;> simp [follow, hname.active, hname.onward, hfits]
  | cons first names ih =>
    rw [List.cons_append, follow, List.foldlM_cons]
    · cases fs.enter start first with
      | error e => rfl
      | ok next => exact ih next
    · simp

/-- Where a name in a directory leads. -/
theorem locate_name (d : Path) (hname : IsName name) :
    fs.locate [] (d ++ [name]) = (do
      Path.check (d ++ [name])
      let here ← (d.filter (· != "")).foldlM fs.enter []
      if Path.fits name then .ok (.named (here ++ [name]) false) else .error .nameTooLong) := by
  unfold locate
  have hlast : ((d ++ [name]).getLast? == some "") = false := by simp [hname.ne_empty]
  have hnames : (d ++ [name]).filter (· != "") = d.filter (· != "") ++ [name] := by
    simp [hname.ne_empty]
  rw [hlast, hnames, follow_concat hname]

theorem locate_name_eq_ok_iff (hname : IsName name) {l : Location} :
    fs.locate [] (d ++ [name]) = .ok l ↔
      Path.check (d ++ [name]) = .ok () ∧ Path.fits name = true ∧
        ∃ here, fs.Leads d here ∧ l = .named (here ++ [name]) false := by
  rw [locate_name d hname]
  simp only [bind_eq_ok_iff, Leads]
  constructor
  · rintro ⟨_, hcheck, here, hleads, hl⟩
    split at hl
    · next hfits => exact ⟨hcheck, hfits, here, hleads, (Except.ok.inj hl).symm⟩
    · exact absurd hl (by simp)
  · rintro ⟨hcheck, hfits, here, hleads, rfl⟩
    exact ⟨(), hcheck, here, hleads, if_pos hfits⟩

/-- What a name in a directory leads to. -/
theorem stat_name (h : fs.Leads d here) (hname : IsName name) :
    fs.stat (d ++ [name]) = (do
      Path.check (d ++ [name])
      if Path.fits name then
        match fs.node? (here ++ [name]) with
        | none => .error .notFound
        | some node => .ok node
      else .error .nameTooLong) := by
  unfold stat
  rw [locate_name d hname, show List.foldlM _ _ _ = Except.ok here from h]
  cases Path.check (d ++ [name]) with
  | error e => rfl
  | ok _ =>
    simp only [ok_bind]
    split
    · simp only [ok_bind, nodeAt]
      cases fs.node? (here ++ [name]) with
      | none => rfl
      | some node => cases node <;> rfl
    · rfl

theorem stat_name_eq_ok_iff (h : fs.Leads d here) (hname : IsName name) {node : Node} :
    fs.stat (d ++ [name]) = .ok node ↔
      Path.check (d ++ [name]) = .ok () ∧ Path.fits name = true ∧
        fs.node? (here ++ [name]) = some node := by
  rw [stat_name h hname]
  cases Path.check (d ++ [name]) with
  | error e => simp
  | ok _ =>
    cases Path.fits name with
    | false => simp
    | true => cases fs.node? (here ++ [name]) <;> simp

/-- A file that was written under a name in a directory can be read there. -/
theorem read_of_write (hname : IsName name) (h : fs.write (d ++ [name]) content = .ok fs') :
    (∃ here, fs.Leads d here) ∧ fs'.read (d ++ [name]) = .ok content := by
  obtain ⟨l, hlocate, hwrite⟩ := bind_eq_ok_iff.1 h
  obtain ⟨hcheck, hfits, here, hleads, rfl⟩ := (locate_name_eq_ok_iff hname).1 hlocate
  refine ⟨⟨here, hleads⟩, read_eq_ok_iff.2 ?_⟩
  rw [stat_name_eq_ok_iff (hleads.of_keeps (write_keeps h)) hname]
  refine ⟨hcheck, hfits, ?_⟩
  obtain ⟨_, heq, hdirectory, rfl⟩ := writeAt_eq_ok_iff.1 hwrite
  obtain ⟨rfl, -⟩ := Location.named.inj heq
  rw [node?_set fs (ne_nil_of_not_isDirectory hdirectory), if_pos rfl]

/-- Where a path leads that has one more name. -/
theorem leads_concat_iff (hname : IsName name) {there : Path} :
    fs.Leads (d ++ [name]) there ↔
      ∃ here, fs.Leads d here ∧ Path.fits name = true ∧
        fs.node? (here ++ [name]) = some .directory ∧ there = here ++ [name] := by
  have hnames : (d ++ [name]).filter (· != "") = d.filter (· != "") ++ [name] := by
    simp [hname.ne_empty]
  have hadvance : ∀ here, Path.advance here name = here ++ [name] := by
    intro here
    simp [Path.advance, hname.active, hname.onward]
  unfold Leads
  rw [hnames, List.foldlM_append]
  simp only [bind_eq_ok_iff, List.foldlM_cons, List.foldlM_nil, pure_eq_ok_iff, enter_eq_ok_iff,
    hadvance, isDirectory_iff]
  constructor
  · rintro ⟨here, hhere, _, ⟨hfits, hnode, rfl⟩, rfl⟩
    exact ⟨here, hhere, hfits, hnode, rfl⟩
  · rintro ⟨here, hhere, hfits, hnode, rfl⟩
    exact ⟨here, hhere, _, ⟨hfits, hnode, rfl⟩, rfl⟩

/-- A path that leads to a directory under a name is that of the directory. -/
theorem locate_of_leads (hname : IsName name) (hcheck : Path.check (d ++ [name]) = .ok ())
    (h : fs.Leads (d ++ [name]) here) : fs.locate [] (d ++ [name]) = .ok (.named here false) := by
  obtain ⟨top, htop, hfits, -, rfl⟩ := (leads_concat_iff hname).1 h
  exact (locate_name_eq_ok_iff hname).2 ⟨hcheck, hfits, top, htop, rfl⟩

theorem stat_of_leads (hname : IsName name) (hcheck : Path.check (d ++ [name]) = .ok ())
    (h : fs.Leads (d ++ [name]) here) : fs.stat (d ++ [name]) = .ok .directory := by
  unfold stat
  rw [locate_of_leads hname hcheck h, ok_bind]
  simp [nodeAt, isDirectory_iff.1 h.isDirectory]

/-- A directory that was made stands where its path leads. -/
theorem leads_of_makeDirectories (hname : IsName name)
    (h : fs.makeDirectories (d ++ [name]) = (.ok (), fs')) :
    Path.check (d ++ [name]) = .ok () ∧ ∃ here, fs'.Leads (d ++ [name]) (here ++ [name]) := by
  have hempty : d ++ [name] ≠ [""] := by
    intro heq
    exact hname.ne_empty (by simpa using congrArg List.getLast? heq)
  unfold makeDirectories makeDirectoriesIn at h
  rw [if_neg hempty] at h
  cases hparents : fs.makeParents [] (d ++ [name]) with
  | mk answer fs₁ =>
    cases answer with
    | error e => simp [hparents] at h
    | ok _ =>
      simp only [hparents] at h
      split at h
      · next fs₂ hmade =>
        obtain ⟨-, rfl⟩ := Prod.mk.inj h
        obtain ⟨l, hlocate, hat⟩ := bind_eq_ok_iff.1 hmade
        obtain ⟨hcheck, hfits, here, hleads, rfl⟩ := (locate_name_eq_ok_iff hname).1 hlocate
        rcases makeDirectoryAt_keeps hat with ⟨hkeeps, hthere⟩ | ⟨q, hitself, -⟩
        · have hnode := isDirectory_iff.1 hthere
          exact ⟨hcheck, here, (leads_concat_iff hname).2
            ⟨here, hleads.of_keeps hkeeps, hfits, hnode, rfl⟩⟩
        · exact absurd hitself (by simp)
      · exact absurd h (by simp)

/-- The names in a directory are those at which something stands. -/
theorem mem_children_iff : name ∈ fs.children p ↔ ∃ node, fs.node? (p ++ [name]) = some node := by
  unfold children node?
  rw [if_neg (by simp), List.mem_filterMap, ← Option.isSome_iff_exists, List.lookup_isSome_iff]
  constructor
  · rintro ⟨⟨q, node⟩, hentry, hname⟩
    refine ⟨_, hentry, ?_⟩
    split at hname
    · split at hname
      · next hq =>
        obtain rfl := Option.some.inj hname
        simpa using hq.symm
      · exact absurd hname (by simp)
    · exact absurd hname (by simp)
  · rintro ⟨⟨q, node⟩, hentry, hq⟩
    obtain rfl : p ++ [name] = q := by simpa using hq
    exact ⟨_, hentry, by simp⟩

/-- The names in the directory that a path leads to. -/
def namesIn (fs : FileSystem) (p : Path) : List String :=
  match fs.locate [] p with
  | .ok l => fs.children l.path
  | .error _ => []

/-! ## Names in a directory at the top -/

open FileName

variable {dir e : String}

theorem leads_nil (fs : FileSystem) : fs.Leads [] [] := rfl

/-- A safe name at the top leads to the directory there, if the name fits. -/
theorem leads_top_iff (hdir : IsSafe dir) :
    fs.Leads [dir] [dir] ↔ Path.fits dir = true ∧ fs.isDirectory [dir] = true := by
  rw [show [dir] = [] ++ [dir] from rfl, leads_concat_iff (.of_isSafe hdir), isDirectory_iff]
  constructor
  · rintro ⟨here, hhere, hfits, hnode, -⟩
    obtain rfl := Except.ok.inj hhere
    exact ⟨hfits, hnode⟩
  · rintro ⟨hfits, hnode⟩
    exact ⟨[], leads_nil fs, hfits, hnode, rfl⟩

/-- A safe name is checked for its size alone. -/
theorem check_of_isSafe {names : List String} (hsafe : ∀ name ∈ names, IsSafe name)
    (hne : names ≠ []) :
    Path.check names = if Path.maxSize < Path.size names then .error .nameTooLong else .ok () := by
  have hlegal : (names.any fun name => name.toList.contains '\x00') = false := by
    rw [List.any_eq_false]
    intro name hname
    rw [(hsafe name hname).contains_nul]
    decide
  have hempty : names ≠ [""] := by
    rintro rfl
    exact (hsafe "" List.mem_cons_self).advance.2.2 rfl
  unfold Path.check
  rw [hlegal, if_neg (by decide), if_neg hempty]

theorem nameSize_le_of_fits {name : String} (h : Path.fits name = true) :
    Path.nameSize name ≤ 255 :=
  of_decide_eq_true h

/-- A safe name at the top that fits leads to its place. -/
theorem locate_top (hdir : IsSafe dir) (hfits : Path.fits dir = true) (fs : FileSystem) :
    fs.locate [] [dir] = .ok (.named [dir] false) := by
  have hshort : ¬Path.maxSize < Path.size [dir] := by
    have hsize : Path.size [dir] = Path.nameSize dir := by simp [Path.size]
    have hbound := nameSize_le_of_fits hfits
    unfold Path.maxSize
    omega
  exact (locate_name_eq_ok_iff (d := []) (.of_isSafe hdir)).2
    ⟨(check_of_isSafe (by simpa using hdir) (by simp)).trans (if_neg hshort), hfits, [],
      leads_nil fs, rfl⟩

theorem check_pair (hdir : IsSafe dir) (he : IsSafe e) :
    Path.check [dir, e] =
      if Path.maxSize < Path.size [dir, e] then .error .nameTooLong else .ok () :=
  check_of_isSafe (by simpa using ⟨hdir, he⟩) (by simp)

/-- A path of two names that fit is short enough. -/
theorem size_pair_le (hdir : Path.fits dir = true) (he : Path.fits e = true) :
    ¬Path.maxSize < Path.size [dir, e] := by
  have hsize : Path.size [dir, e] = Path.nameSize dir + Path.nameSize e + 1 := by
    simp only [Path.size, List.map_cons, List.map_nil, List.foldl_cons, List.foldl_nil,
      List.length_cons, List.length_nil]
    omega
  have hbound := nameSize_le_of_fits hdir
  have hbound' := nameSize_le_of_fits he
  unfold Path.maxSize
  omega

/-- Writing under a safe name in a directory at the top, where no directory stands. -/
theorem write_pair (hdir : IsSafe dir) (hfits : Path.fits dir = true)
    (hstands : fs.isDirectory [dir] = true) (he : IsSafe e)
    (hfree : fs.isDirectory [dir, e] = false) (content : ByteArray) :
    fs.write [dir, e] content =
      if Path.fits e then .ok (fs.set [dir, e] (.file content)) else .error .nameTooLong := by
  have hleads := (leads_top_iff hdir).2 ⟨hfits, hstands⟩
  unfold FileSystem.write
  rw [show [dir, e] = [dir] ++ [e] from rfl, locate_name [dir] (.of_isSafe he),
    show List.foldlM _ _ _ = Except.ok [dir] from hleads, show [dir] ++ [e] = [dir, e] from rfl,
    check_pair hdir he]
  cases hfits' : Path.fits e with
  | false => by_cases hlong : Path.maxSize < Path.size [dir, e] <;> simp [hlong]
  | true =>
    rw [if_neg (size_pair_le hfits hfits')]
    simp [writeAt, hfree]

end FileSystem

end ChatChain
