import ChatChain.FileSystem.Access
import ChatChain.Proofs.Fallible

/-!
# Directories are kept

What operations on files do to the directories of a file system.

There are three groups.

* Directories.  `KeepsDirectories` says that no directory is lost.
* Paths.  Where no directory is lost, a path leads where it led.
* Operations.  No operation that a routine may ask for loses a directory.
-/

namespace ChatChain.FileSystem

open Fallible

variable {fs fs' : FileSystem}

/-! ## Directories -/

/-- Whether every directory of a file system is one of another. -/
def KeepsDirectories (fs fs' : FileSystem) : Prop :=
  ∀ p, fs.isDirectory p = true → fs'.isDirectory p = true

theorem KeepsDirectories.refl (fs : FileSystem) : KeepsDirectories fs fs := fun _ h => h

theorem KeepsDirectories.trans {fs'' : FileSystem} (h : KeepsDirectories fs fs')
    (h' : KeepsDirectories fs' fs'') : KeepsDirectories fs fs'' := fun p hp => h' p (h p hp)

theorem isDirectory_iff {p : Path} : fs.isDirectory p = true ↔ fs.node? p = some .directory := by
  unfold isDirectory
  simp

theorem isDirectory_nil (fs : FileSystem) : fs.isDirectory [] = true :=
  isDirectory_iff.2 rfl

theorem ne_nil_of_not_isDirectory {p : Path} (h : fs.isDirectory p = false) : p ≠ [] := by
  rintro rfl
  rw [isDirectory_nil] at h
  exact absurd h (by decide)

/-- A change in a place where there is no directory loses none. -/
theorem keepsDirectories_of_others {p : Path} (h : fs.isDirectory p = false)
    (hothers : ∀ q, q ≠ p → fs'.node? q = fs.node? q) : KeepsDirectories fs fs' := by
  intro q hq
  have hne : q ≠ p := by
    rintro rfl
    rw [hq] at h
    exact absurd h (by decide)
  rw [isDirectory_iff] at hq ⊢
  rw [hothers q hne, hq]

theorem keepsDirectories_set {p : Path} (h : fs.isDirectory p = false) (node : Node) :
    KeepsDirectories fs (fs.set p node) :=
  keepsDirectories_of_others h fun q hq =>
    (node?_set fs (ne_nil_of_not_isDirectory h) node q).trans (if_neg hq)

theorem keepsDirectories_erase {p : Path} (h : fs.isDirectory p = false) :
    KeepsDirectories fs (fs.erase p) :=
  keepsDirectories_of_others h fun q hq =>
    (node?_erase fs (ne_nil_of_not_isDirectory h) q).trans (if_neg hq)

theorem isDirectory_of_node?_eq_none {p : Path} (h : fs.node? p = none) :
    fs.isDirectory p = false := by
  unfold isDirectory
  rw [h]
  rfl

/-! ## Paths -/

/-- A directory is entered if its name fits and it stands where the name leads. -/
theorem enter_eq_ok_iff {here next : Path} {name : String} :
    fs.enter here name = .ok next ↔
      Path.fits name = true ∧ fs.isDirectory (Path.advance here name) = true ∧
        next = Path.advance here name := by
  unfold enter isDirectory
  cases Path.fits name with
  | false => simp
  | true =>
    cases hnode : fs.node? (Path.advance here name) with
    | none => simp [hnode]
    | some node => cases node <;> simp [hnode, @eq_comm _ next]

namespace KeepsDirectories

theorem enter (h : KeepsDirectories fs fs') {here next : Path} {name : String}
    (henter : fs.enter here name = .ok next) : fs'.enter here name = .ok next := by
  obtain ⟨hfits, hdirectory, hnext⟩ := enter_eq_ok_iff.1 henter
  exact enter_eq_ok_iff.2 ⟨hfits, h _ hdirectory, hnext⟩

theorem enterAll (h : KeepsDirectories fs fs') {start here : Path} {names : List String}
    (henter : names.foldlM fs.enter start = .ok here) :
    names.foldlM fs'.enter start = .ok here := by
  induction names generalizing start with
  | nil => exact henter
  | cons name names ih =>
    rw [List.foldlM_cons] at henter ⊢
    obtain ⟨next, hnext, hrest⟩ := bind_eq_ok_iff.1 henter
    exact bind_eq_ok_iff.2 ⟨next, h.enter hnext, ih hrest⟩

theorem follow (h : KeepsDirectories fs fs') {slashed : Bool} {here : Path} {names : List String}
    {l : Location} (hfollow : fs.follow slashed here names = .ok l) :
    fs'.follow slashed here names = .ok l := by
  induction names generalizing here with
  | nil => exact hfollow
  | cons name names ih =>
    cases names with
    | nil =>
      unfold FileSystem.follow at hfollow ⊢
      split at hfollow
      · next hmoves =>
        rw [if_pos hmoves]
        cases henter : fs.enter here name with
        | error e => simp [henter, Except.map] at hfollow
        | ok next =>
          rw [h.enter henter]
          rwa [henter] at hfollow
      · next hmoves =>
        rw [if_neg hmoves]
        exact hfollow
    | cons other names =>
      rw [FileSystem.follow] at hfollow ⊢
      · obtain ⟨next, henter, hrest⟩ := bind_eq_ok_iff.1 hfollow
        exact bind_eq_ok_iff.2 ⟨next, h.enter henter, ih hrest⟩
      · simp
      · simp

/-- Where no directory is lost, a path leads where it led. -/
theorem locate (h : KeepsDirectories fs fs') {here p : Path} {l : Location}
    (hlocate : fs.locate here p = .ok l) : fs'.locate here p = .ok l := by
  obtain ⟨_, hcheck, hfollow⟩ := bind_eq_ok_iff.1 hlocate
  exact bind_eq_ok_iff.2 ⟨_, hcheck, h.follow hfollow⟩

end KeepsDirectories

/-! ## Operations -/

/-- A file is written where there is no directory. -/
theorem writeAt_eq_ok_iff {l : Location} {content : ByteArray} :
    fs.writeAt content l = .ok fs' ↔
      ∃ p, l = .named p false ∧ fs.isDirectory p = false ∧ fs' = fs.set p (.file content) := by
  cases l with
  | itself p => simp [writeAt]
  | named p slashed =>
    cases slashed with
    | true => simp [writeAt]
    | false => cases hdirectory : fs.isDirectory p <;> simp [writeAt, hdirectory, @eq_comm _ fs']

/-- Writing a file loses no directory. -/
theorem write_keeps {p : Path} {content : ByteArray} (h : fs.write p content = .ok fs') :
    KeepsDirectories fs fs' := by
  obtain ⟨l, -, hwrite⟩ := bind_eq_ok_iff.1 h
  obtain ⟨q, -, hdirectory, rfl⟩ := writeAt_eq_ok_iff.1 hwrite
  exact keepsDirectories_set hdirectory _

/-- A location with a file is that of no directory. -/
theorem isDirectory_of_nodeAt_eq_file {l : Location} {content : ByteArray}
    (h : fs.nodeAt l = .ok (.file content)) : fs.isDirectory l.path = false := by
  cases l with
  | itself p => exact absurd h (by simp [nodeAt])
  | named p slashed =>
    unfold nodeAt at h
    unfold isDirectory Location.path
    cases hnode : fs.node? p with
    | none => simp [hnode] at h
    | some node =>
      cases node with
      | directory => simp [hnode] at h
      | file content => rfl

/-- Removing a file loses no directory. -/
theorem removeFile_keeps {p : Path} (h : fs.removeFile p = .ok fs') : KeepsDirectories fs fs' := by
  obtain ⟨l, -, hremove⟩ := bind_eq_ok_iff.1 h
  unfold removeFileAt at hremove
  obtain ⟨node, hnode, hremove⟩ := bind_eq_ok_iff.1 hremove
  cases node with
  | directory => exact absurd hremove (by simp)
  | file content =>
    obtain rfl := Except.ok.inj hremove
    exact keepsDirectories_erase (isDirectory_of_nodeAt_eq_file hnode)

theorem enter_eq_notFound {here : Path} {name : String}
    (h : fs.enter here name = .error .notFound) : fs.node? (Path.advance here name) = none := by
  unfold enter at h
  simp only at h
  split at h
  · exact absurd h (by simp)
  · split at h
    · exact absurd h (by simp)
    · exact absurd h (by simp)
    · assumption

theorem makeAlong_keeps (here : Path) (names : List String) (fs : FileSystem) :
    KeepsDirectories fs (fs.makeAlong here names).2 := by
  induction names generalizing here fs with
  | nil => exact .refl fs
  | cons name rest ih =>
    unfold makeAlong
    split
    · exact ih _ fs
    · next hmissing =>
      have hnone := isDirectory_of_node?_eq_none (enter_eq_notFound hmissing)
      exact (keepsDirectories_set hnone .directory).trans (ih _ _)
    · exact .refl fs

theorem makeDirectoryAt_keeps {l : Location} (h : fs.makeDirectoryAt l = .ok fs') :
    KeepsDirectories fs fs' ∧ fs'.isDirectory l.path = true ∨ ∃ p, l = .itself p ∧ fs' = fs := by
  cases l with
  | itself p => exact Or.inr ⟨p, rfl, (Except.ok.inj h).symm⟩
  | named p slashed =>
    refine Or.inl ?_
    unfold makeDirectoryAt at h
    cases hnode : fs.node? p with
    | none =>
      simp only [hnode] at h
      obtain rfl := Except.ok.inj h
      have hnone := isDirectory_of_node?_eq_none hnode
      refine ⟨keepsDirectories_set hnone .directory, isDirectory_iff.2 ?_⟩
      exact (node?_set fs (ne_nil_of_not_isDirectory hnone) .directory p).trans (if_pos rfl)
    | some node =>
      cases node with
      | directory =>
        simp only [hnode] at h
        obtain rfl := Except.ok.inj h
        exact ⟨.refl fs, isDirectory_iff.2 hnode⟩
      | file content => simp [hnode] at h

/-- Making a directory loses none. -/
theorem makeDirectories_keeps (fs : FileSystem) (p : Path) :
    KeepsDirectories fs (fs.makeDirectories p).2 := by
  have hparents : KeepsDirectories fs (fs.makeParents [] p).2 := by
    unfold makeParents
    split
    · exact .refl fs
    · exact makeAlong_keeps _ _ _
  unfold makeDirectories makeDirectoriesIn
  split
  · exact .refl fs
  · generalize fs.makeParents [] p = made at hparents
    obtain ⟨answer, fs₁⟩ := made
    cases answer with
    | error e => exact hparents
    | ok _ =>
      simp only
      split
      · next fs₂ hmade =>
        obtain ⟨l, -, hat⟩ := bind_eq_ok_iff.1 hmade
        rcases makeDirectoryAt_keeps hat with ⟨hkeeps, -⟩ | ⟨q, -, rfl⟩
        · exact hparents.trans hkeeps
        · exact hparents
      · exact hparents

end ChatChain.FileSystem
