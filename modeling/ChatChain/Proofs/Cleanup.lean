import ChatChain.Console.Bot
import ChatChain.Proofs.Answered
import ChatChain.Proofs.Expansion
import ChatChain.Proofs.Handling
import ChatChain.Proofs.LateWrites

/-!
# The cleanup of a chain

However the tasks of a chain end, its store lists all the paths that were handed out.  The cleanup
takes away what is there, but not what a dropped write puts there after the turn of its path.

There are three groups.

* The store.  `Tracked` is the invariant of a chain's store: its directory stands, and its ledger
  lists the paths that were handed out.  `perform_tracked` is one request and `run_tracked` a
  routine.
* The chain.  `execute_preserves` carries an invariant of routines over a chain, and
  `Worked.tracked` over everything up to the reply.  `Worked.undropped` does that for stores
  without dropped writes, when the tasks are those of a bot that `AnswersAll`.
* The cleanup.  `Tracked.cleaned` says what is left of the paths, and `Tracked.released` what is
  left when nothing is under way.
-/

namespace ChatChain

open FileName FileSystem Ledger TempStore

/-! ## The store -/

/-- The invariant of a chain's store: its directory stands, its ledger is open and lists what was
handed out after the paths in `base`, and every listed path has a number below the next one. -/
structure Tracked (base : List Path) (d : String) (scene : Routine.Scene) : Prop where
  safe : IsSafe d
  fits : Path.fits d = true
  directory : scene.store.ledger.directory = [d]
  stands : scene.files.isDirectory [d] = true
  undrained : scene.store.ledger.drained = false
  handedOut : scene.handedOut = base ++ scene.store.ledger.paths
  numbered : ∀ p ∈ scene.store.ledger.paths, ∃ n name, n < scene.store.next ∧ IsSafe name ∧
    p = [d, entryName n name]
  nodup : scene.store.ledger.paths.Nodup

namespace Tracked

variable {base : List Path} {d : String} {scene : Routine.Scene}

/-- Other files, as long as no directory is lost, and another time make no difference. -/
theorem of_keeps (h : Tracked base d scene) {fs : FileSystem}
    (hkeeps : KeepsDirectories scene.files fs) (clock : Nat) :
    Tracked base d { scene with files := fs, clock } :=
  { h with stands := hkeeps [d] h.stands }

theorem nextPath_eq (h : Tracked base d scene) (name : String) :
    scene.store.nextPath name = [d, entryName scene.store.next (sanitize name)] := by
  unfold nextPath TempStore.directory
  rw [h.directory]
  rfl

/-- The listed paths are those of safe names in the directory of the chain. -/
theorem paths_pair (h : Tracked base d scene) :
    ∀ p ∈ scene.store.ledger.paths, ∃ e, IsSafe e ∧ p = [d, e] := by
  intro p hp
  obtain ⟨n, name, -, hname, rfl⟩ := h.numbered p hp
  exact ⟨_, isSafe_entryName n hname, rfl⟩

/-- The path for the next file is not listed yet. -/
theorem lists_nextPath (h : Tracked base d scene) (name : String) :
    scene.store.ledger.lists (scene.store.nextPath name) = false := by
  have hsafe := isSafe_entryName scene.store.next (isSafe_sanitize name)
  unfold Ledger.lists
  rw [h.nextPath_eq, List.any_eq_false]
  intro p hp hequal
  obtain ⟨n, other, hn, hother, rfl⟩ := h.numbered p hp
  rw [beq_iff_eq, h.safe.normal_pair (isSafe_entryName n hother),
    h.safe.normal_pair hsafe] at hequal
  have hname : entryName n other = entryName scene.store.next (sanitize name) := by
    simpa using hequal
  have hsame := eq_of_entryName_eq hname
  omega

theorem nextPath_not_mem (h : Tracked base d scene) (name : String) :
    scene.store.nextPath name ∉ scene.store.ledger.paths := by
  have hnew := h.lists_nextPath name
  unfold Ledger.lists at hnew
  rw [List.any_eq_false] at hnew
  exact fun hp => hnew _ hp (by simp)

/-- Handing out a path enters it and changes nothing else. -/
theorem allocate_eq (h : Tracked base d scene) (name : String) :
    scene.store.allocate scene.files name =
      ({ path := scene.store.nextPath name, name := sanitize name },
        { scene.store with
          ledger :=
            { scene.store.ledger with
              paths := scene.store.ledger.paths ++ [scene.store.nextPath name] }
          next := scene.store.next + 1 }, scene.files) := by
  unfold TempStore.allocate track
  simp [h.undrained, h.lists_nextPath name]

/-- A path that is handed out is entered in the ledger. -/
theorem allocate (h : Tracked base d scene) (name : String) :
    (scene.store.allocate scene.files name).2.2 = scene.files ∧
      Tracked base d
        { scene with
          store := (scene.store.allocate scene.files name).2.1
          handedOut := scene.handedOut ++ [scene.store.nextPath name] } := by
  rw [h.allocate_eq]
  refine ⟨rfl, h.safe, h.fits, h.directory, h.stands, h.undrained, ?_, fun p hp => ?_, ?_⟩
  · simp [h.handedOut]
  · rcases List.mem_append.1 hp with hp | hp
    · obtain ⟨n, other, hn, hother, rfl⟩ := h.numbered p hp
      exact ⟨n, other, Nat.lt_succ_of_lt hn, hother, rfl⟩
    · obtain rfl := List.mem_singleton.1 hp
      exact ⟨_, _, Nat.lt_succ_self _, isSafe_sanitize name, h.nextPath_eq name⟩
  · refine List.nodup_append.2 ⟨h.nodup, by simp, fun p hp q hq heq => ?_⟩
    obtain rfl := List.mem_singleton.1 hq
    exact h.nextPath_not_mem name (heq ▸ hp)

/-- A write enters the next path, and writes there if its name fits. -/
theorem write_eq (h : Tracked base d scene) {raw : String}
    (hfree : scene.files.isDirectory (scene.store.nextPath raw) = false) (content : ByteArray) :
    scene.store.write scene.files raw content =
      (if (scene.store.nextPath raw).all Path.fits
        then .ok { path := scene.store.nextPath raw, name := sanitize raw }
        else .error .nameTooLong,
      { scene.store with
        ledger :=
          { scene.store.ledger with
            paths := scene.store.ledger.paths ++ [scene.store.nextPath raw] }
        next := scene.store.next + 1 },
      if (scene.store.nextPath raw).all Path.fits
        then scene.files.set (scene.store.nextPath raw) (.file content) else scene.files) := by
  have hentry := isSafe_entryName scene.store.next (isSafe_sanitize raw)
  have hwrite := write_pair h.safe h.fits h.stands hentry (h.nextPath_eq raw ▸ hfree) content
  rw [← h.nextPath_eq] at hwrite
  have hall : (scene.store.nextPath raw).all Path.fits =
      Path.fits (entryName scene.store.next (sanitize raw)) := by
    simp [h.nextPath_eq, h.fits]
  unfold TempStore.write TempStore.copyIn
  simp only [h.allocate_eq, hall, Except.bind, hwrite]
  cases Path.fits (entryName scene.store.next (sanitize raw)) <;> rfl

/-- A file that is handed out is entered in the ledger, whether or not it can be written. -/
theorem copyIn (h : Tracked base d scene) (name : String) (content : Except FileError ByteArray) :
    Tracked base d
      { scene with
        files := (scene.store.copyIn scene.files name content).2.2
        store := (scene.store.copyIn scene.files name content).2.1
        handedOut := scene.handedOut ++ [scene.store.nextPath name] } := by
  obtain ⟨hfiles, htracked⟩ := h.allocate name
  unfold TempStore.copyIn
  generalize scene.store.allocate scene.files name = allocated at hfiles htracked
  obtain ⟨handle, store, fs⟩ := allocated
  obtain rfl : fs = scene.files := hfiles
  simp only
  split
  · next fs' hwrite =>
    obtain ⟨written, -, hwrite⟩ := Fallible.bind_eq_ok_iff.1 hwrite
    exact htracked.of_keeps (write_keeps hwrite) scene.clock
  · exact htracked

theorem settle_keeps {fs : FileSystem} {result : Except FileError FileSystem}
    (h : ∀ fs', result = .ok fs' → KeepsDirectories fs fs') :
    KeepsDirectories fs (FileRequest.settle fs result).2 := by
  cases result with
  | ok fs' => exact h fs' rfl
  | error e => exact .refl fs

/-- A request keeps the invariant. -/
theorem perform_tracked (h : Tracked base d scene) (request : FileRequest) :
    Tracked base d (scene.asked request) := by
  unfold Routine.Scene.asked
  cases request with
  | allocate name =>
    obtain ⟨hfiles, htracked⟩ := h.allocate name
    show Tracked base d
      { scene with
        files := (scene.store.allocate scene.files name).2.2
        store := (scene.store.allocate scene.files name).2.1
        handedOut := scene.handedOut ++ [scene.store.nextPath name] }
    rw [hfiles]
    exact htracked
  | write name content => exact h.copyIn name (.ok content)
  | copyIn name content => exact h.copyIn name content
  | fill handle content =>
    simpa [FileRequest.handsOut?, FileRequest.perform] using
      h.of_keeps (settle_keeps fun fs' hwrite => write_keeps hwrite) scene.clock
  | remove handle =>
    simpa [FileRequest.handsOut?, FileRequest.perform] using
      h.of_keeps (settle_keeps fun fs' hremove => removeFile_keeps hremove) scene.clock
  | makeDirectory handle =>
    simpa [FileRequest.handsOut?, FileRequest.perform] using
      h.of_keeps (makeDirectories_keeps scene.files handle.path) scene.clock
  | read handle => simpa [FileRequest.handsOut?, FileRequest.perform] using h
  | size handle => simpa [FileRequest.handsOut?, FileRequest.perform] using h

/-- Dropping a write makes no difference. -/
theorem of_drop (h : Tracked base d scene) (write : DroppedWrite) :
    Tracked base d { scene with store := scene.store.drop write } :=
  { h with }

/-- A request that nobody waits for keeps the invariant. -/
theorem left_tracked (h : Tracked base d scene) (request : FileRequest) (delay : Nat) :
    Tracked base d (scene.left request delay) := by
  have hwritten : ∀ (name : String) (content : ByteArray),
      Tracked base d
        { scene with
          files := (scene.store.allocate scene.files name).2.2
          store := (scene.store.allocate scene.files name).2.1.drop
            { path := (scene.store.allocate scene.files name).1.path, content, delay }
          handedOut := scene.handedOut ++ [scene.store.nextPath name] } := by
    intro name content
    obtain ⟨hfiles, htracked⟩ := h.allocate name
    rw [hfiles]
    exact htracked.of_drop _
  cases request with
  | write name content => exact hwritten name content
  | copyIn name content =>
    cases content with
    | ok content => exact hwritten name content
    | error e => exact h.perform_tracked (.copyIn name (.error e))
  | fill handle content =>
    simpa [Routine.Scene.left, FileRequest.handsOut?, FileRequest.leave] using h.of_drop _
  | allocate name => exact h.perform_tracked (.allocate name)
  | remove handle => exact h.perform_tracked (.remove handle)
  | makeDirectory handle => exact h.perform_tracked (.makeDirectory handle)
  | read handle => exact h.perform_tracked (.read handle)
  | size handle => exact h.perform_tracked (.size handle)

/-- A routine keeps the invariant, however it ends. -/
theorem run_tracked {α : Type} (routine : Routine α) (bounds : Routine.Bounds)
    (h : Tracked base d scene) : Tracked base d (routine.run bounds scene).2 := by
  induction routine generalizing scene with
  | done a => exact h
  | fail failure => exact h
  | panic => exact h
  | hang =>
    unfold Routine.run
    split
    · exact h.of_keeps (.refl _) _
    · exact h
  | sleep ms next ih =>
    unfold Routine.run
    split
    · exact h.of_keeps (.refl _) _
    · exact ih (h.of_keeps (.refl _) _)
  | files request next ih =>
    unfold Routine.run
    exact ih _ (h.perform_tracked request)
  | leave request delay next ih =>
    unfold Routine.run
    exact ih (h.left_tracked request delay)

end Tracked

/-! ## The chain -/

namespace Executor

variable {P : Routine.Scene → Prop} {x : Executor} {chain : List ChainStep}

/-- What every task of some steps preserves, a run of them preserves. -/
theorem runFrom_preserves
    (hrun : ∀ s ∈ chain, ∀ index binding input scene, P scene →
      P (x.runTask index s binding input scene).2) {index : Nat} {data : Flow}
    {scene : Routine.Scene} (h : P scene) : P (x.runFrom index data chain scene).scene := by
  induction chain generalizing index data scene with
  | nil => exact h
  | cons s rest ih =>
    rw [runFrom]
    split
    · exact h
    · next binding hstart =>
      have hafter : P (x.runTask index s binding data scene).2 :=
        hrun s List.mem_cons_self index binding data scene h
      simp only
      split
      · exact hafter
      · exact hafter
      · exact ih (fun t ht => hrun t (List.mem_cons_of_mem _ ht)) hafter

theorem execute_preserves
    (hrun : ∀ s ∈ chain, ∀ index binding input scene, P scene →
      P (x.runTask index s binding input scene).2) {seed : Flow} {scene : Routine.Scene}
    (h : P scene) : P (x.execute chain seed scene).scene := by
  unfold execute
  split
  · exact h
  · exact runFrom_preserves hrun h

end Executor

namespace Bot

variable {σ : Type} {b : Bot σ} {m : Message} {chain : List ChainStep} {w w' : World σ}
  {base : List Path} {d : String} {store store' : TempStore}

theorem CallsOnly.tracked {records : List CallRecord} (h : CallsOnly records w w')
    (htracked : Tracked base d (w.scene store)) : Tracked base d (w'.scene store) := by
  have hscene : w'.scene store = { w.scene store with clock := w'.clock } := by
    simp [World.scene, h.files, h.handedOut]
  rw [hscene]
  exact htracked.of_keeps (.refl _) _

/-- The work of a chain keeps the invariant. -/
theorem Worked.tracked {ephemeral deferred : Bool} {outcome : Except ChainError Flow}
    {steps : List StepSummary}
    (h : Worked b m chain store w ephemeral deferred outcome steps store' w')
    (htracked : Tracked base d (w.scene store)) : Tracked base d (w'.scene store') := by
  obtain @⟨before, after, w₁, _, bounds, routine, final, runs, hbefore, -, -, hran, hafter⟩ := h
  have hfetched : Tracked base d (routine.run bounds (w₁.scene store)).2 :=
    (CallsOnly.tracked hbefore htracked).run_tracked routine bounds
  have hfinal : Tracked base d final := by
    cases hran with
    | unfetched => exact hfetched
    | executed hseed hexecution houtcome =>
      rw [← hexecution]
      exact Executor.execute_preserves
        (fun _ _ _ _ _ _ h => h.run_tracked _ _) hfetched
  exact CallsOnly.tracked hafter hfinal

/-- Whether whatever a bot runs waits for all its answers and gets them. -/
structure AnswersAll (b : Bot σ) : Prop where
  tasks : ∀ name c, b.registry.find? name = some c →
    ∀ context binding input, (c.task context binding input).Answered
  download : ∀ m desk, (b.platform.download m desk).2.Answered
  steps : ∀ index, b.stalls index = none
  downloads : b.downloadStall? = none

/-- What fetches the seed of a chain of such a bot waits for all its answers. -/
theorem AnswersAll.fetches (h : b.AnswersAll) {routine : Routine (List FileHandle)}
    (hfetches : Fetches b m routine) : routine.Answered := by
  cases hfetches with
  | nothing => trivial
  | download desk =>
    rw [h.downloads]
    exact h.download m desk

/-- The work of a chain of such a bot drops no write. -/
theorem Worked.undropped {ephemeral deferred : Bool} {outcome : Except ChainError Flow}
    {steps : List StepSummary}
    (h : Worked b m chain store w ephemeral deferred outcome steps store' w')
    (hanswers : b.AnswersAll)
    (hregistered : ∀ s ∈ chain, ∃ name, b.registry.find? name = some s.command)
    (hundropped : store.dropped = []) : store'.dropped = [] := by
  obtain @⟨before, after, w₁, _, bounds, routine, final, runs, -, -, hfetches, hran, -⟩ := h
  have hfetched : (routine.run bounds (w₁.scene store)).2.store.dropped = [] :=
    ((hanswers.fetches hfetches).run_dropped bounds _).trans hundropped
  cases hran with
  | unfetched => exact hfetched
  | executed hseed hexecution houtcome =>
    rw [← hexecution]
    refine Executor.execute_preserves (P := fun scene => scene.store.dropped = []) ?_ hfetched
    intro s hs index binding input scene hscene
    obtain ⟨name, hname⟩ := hregistered s hs
    have hanswered : ((s.command.task ((b.executor m).contextOf s index) binding input).stalling
        ((b.executor m).stalls index)).Answered := by
      rw [show (b.executor m).stalls index = none from hanswers.steps index]
      exact hanswers.tasks name s.command hname _ binding input
    exact (hanswered.run_dropped _ scene).trans hscene

end Bot

/-- An opened store begins with an empty ledger in a directory of its own. -/
theorem Tracked.of_openIn {fs fs' : FileSystem} {chainId : String} {store : TempStore}
    (h : TempStore.openIn [] fs chainId = (.ok store, fs')) (clock : Nat) (base : List Path) :
    Tracked base (sanitize chainId) { files := fs', store, clock, handedOut := base } := by
  have hsafe := isSafe_sanitize chainId
  unfold TempStore.openIn at h
  split at h
  · exact absurd (congrArg Prod.fst h) (by simp)
  · simp only [List.nil_append] at h
    cases hmade : fs.makeDirectories [sanitize chainId] with
    | mk answer fs₁ =>
      rw [hmade] at h
      cases answer with
      | error e => exact absurd (congrArg Prod.fst h) (by simp)
      | ok _ =>
        obtain ⟨hstore, rfl⟩ := Prod.mk.inj h
        obtain rfl := Except.ok.inj hstore
        obtain ⟨-, there, hleads⟩ :=
          leads_of_makeDirectories (d := []) (.of_isSafe hsafe) hmade
        obtain ⟨here, hhere, -, -, hthere⟩ :=
          (leads_concat_iff (d := []) (.of_isSafe hsafe)).1 hleads
        obtain rfl : [] = here := Except.ok.inj hhere
        obtain ⟨hfits, hstands⟩ := (leads_top_iff hsafe).1 (hthere ▸ hleads)
        exact ⟨hsafe, hfits, rfl, hstands, rfl, by simp, by simp, by simp⟩

/-- The release of a store takes away what its ledger lists, and then its directory. -/
theorem Tracked.releaseAll_eq {base : List Path} {d : String} {scene : Routine.Scene}
    (h : Tracked base d scene) :
    scene.store.releaseAll scene.files =
      ({ created := scene.store.ledger.paths.length
         released := scene.store.ledger.paths.length -
           (releaseFiles scene.files scene.store.ledger.paths).2
         failed := (releaseFiles scene.files scene.store.ledger.paths).2 },
        { scene.store with
          ledger := { scene.store.ledger with paths := [], drained := true } },
        releaseDirectory (releaseFiles scene.files scene.store.ledger.paths).1 [d]) := by
  unfold TempStore.releaseAll drain release
  simp [h.undrained, h.directory]

/-- The cleanup of a store releases what its ledger lists, and then its directory, while dropped
writes take effect. -/
theorem Tracked.cleanUp_eq {base : List Path} {d : String} {scene : Routine.Scene}
    (h : Tracked base d scene) :
    scene.store.cleanUp scene.files =
      ({ created := scene.store.ledger.paths.length
         released := scene.store.ledger.paths.length -
           (releaseFilesAmid scene.store.dropped 0 scene.files scene.store.ledger.paths).2
         failed :=
           (releaseFilesAmid scene.store.dropped 0 scene.files scene.store.ledger.paths).2 },
        landAfter scene.store.dropped scene.store.ledger.paths.length
          (releaseDirectory
            (releaseFilesAmid scene.store.dropped 0 scene.files scene.store.ledger.paths).1
            [d])) := by
  unfold TempStore.cleanUp
  simp [h.undrained, h.directory]

/-- What a cleanup leaves of the paths that were handed out while dropped writes take effect, and
how it counts them. -/
structure Cleaned (paths : List Path) (dropped : List DroppedWrite) (fs : FileSystem)
    (counts : Cleanup) : Prop where
  nodup : paths.Nodup
  readable_iff : ∀ p ∈ paths, fs.IsReadable p ↔
    ∃ write ∈ dropped, write.Outlasts 0 paths p ∧ write.Fills fs p
  created : counts.created = paths.length
  balanced : counts.created = counts.released + counts.failed
  failed : counts.failed = paths.countP (Sticks fs)

/-- An opened store has dropped nothing yet. -/
theorem dropped_of_openIn {fs fs' : FileSystem} {chainId : String} {store : TempStore}
    (h : TempStore.openIn [] fs chainId = (.ok store, fs')) : store.dropped = [] := by
  unfold TempStore.openIn at h
  split at h
  · exact absurd (congrArg Prod.fst h) (by simp)
  · simp only at h
    split at h
    · obtain rfl := Except.ok.inj (congrArg Prod.fst h)
      rfl
    · exact absurd (congrArg Prod.fst h) (by simp)

/-- What a cleanup leaves of the paths that were handed out, and how it counts them, while nothing
is under way. -/
structure Released (paths : List Path) (fs : FileSystem) (counts : Cleanup) : Prop where
  nodup : paths.Nodup
  unreadable : ∀ p ∈ paths, ∀ content, fs.read p ≠ .ok content
  created : counts.created = paths.length
  balanced : counts.created = counts.released + counts.failed
  failed : counts.failed = paths.countP (Sticks fs)

theorem Cleaned.released {paths : List Path} {fs : FileSystem} {counts : Cleanup}
    (h : Cleaned paths [] fs counts) : Released paths fs counts :=
  { nodup := h.nodup
    unreadable := fun p hp content hread => by
      obtain ⟨write, hwrite, -⟩ := (h.readable_iff p hp).1 ⟨content, hread⟩
      exact absurd hwrite (by simp)
    created := h.created
    balanced := h.balanced
    failed := h.failed }

/-- The number of paths and that of the failures say how many were released. -/
theorem Released.counts_eq {paths : List Path} {fs : FileSystem} {counts : Cleanup}
    (h : Released paths fs counts) :
    counts =
      { created := paths.length
        released := paths.length - counts.failed
        failed := counts.failed } := by
  have hcreated := h.created
  have hbalanced := h.balanced
  obtain ⟨created, released, failed⟩ := counts
  obtain rfl : created = paths.length := hcreated
  obtain rfl : released = paths.length - failed := by simp only at hbalanced; omega
  rfl

/-- The cleanup of a store takes all its files away but those that are written too late. -/
theorem Tracked.cleaned {base : List Path} {d : String} {scene : Routine.Scene}
    (h : Tracked base d scene) :
    Cleaned scene.store.ledger.paths scene.store.dropped
      (scene.store.cleanUp scene.files).2 (scene.store.cleanUp scene.files).1 := by
  have hhome : IsHome scene.files d := ⟨h.safe, h.fits, h.stands⟩
  have hpaths := h.paths_pair
  obtain ⟨hsame, hcount, hreadable⟩ :=
    hhome.releaseFilesAmid_spec scene.store.dropped hpaths 0
  rw [h.cleanUp_eq]
  generalize releaseFilesAmid scene.store.dropped 0 scene.files scene.store.ledger.paths = released
    at hsame hcount hreadable
  obtain ⟨fs, failed⟩ := released
  obtain rfl : failed = scene.store.ledger.paths.countP (Sticks scene.files) := hcount
  have hafter := sameDirectories_landAfter scene.store.dropped scene.store.ledger.paths.length
    (releaseDirectory fs [d])
  refine ⟨h.nodup, fun p hp => ?_, rfl, ?_, ?_⟩
  · obtain ⟨e, he, rfl⟩ := hpaths p hp
    -- Whatever was at the path before is released, so that only late writes are left.
    have hlate : fs.IsReadable [d, e] ↔ ∃ write,
        (write ∈ scene.store.dropped ∧ write.delay ≤ scene.store.ledger.paths.length ∧
          write.Outlasts 0 scene.store.ledger.paths [d, e]) ∧ write.Fills fs [d, e] := by
      simp only [hreadable e he, hp, not_true_eq_false, and_false, false_or,
        DroppedWrite.fills_iff hsame, and_assoc, Nat.zero_add]
    rw [isReadable_landAfter_iff h.safe h.fits he,
      (hhome.of_sameDirectories hsame).isReadable_releaseDirectory_iff he hlate]
    simp only [DroppedWrite.fills_iff hafter]
    constructor
    · rintro (⟨write, ⟨hmem, -, hlasts⟩, hfills⟩ | ⟨write, hmem, hlast, hfills⟩)
      · exact ⟨write, hmem, hlasts, hfills⟩
      · exact ⟨write, hmem, DroppedWrite.outlasts_of_le (by omega) _, hfills⟩
    · rintro ⟨write, hmem, hlasts, hfills⟩
      rcases Nat.lt_or_ge scene.store.ledger.paths.length write.delay with hlast | hsoon
      · exact Or.inr ⟨write, hmem, hlast, hfills⟩
      · exact Or.inl ⟨write, ⟨hmem, hsoon, hlasts⟩, hfills⟩
  · have hle := List.countP_le_length (p := Sticks scene.files)
      (l := scene.store.ledger.paths)
    simp only
    omega
  · refine List.countP_congr fun p hp => ?_
    obtain ⟨e, -, rfl⟩ := hpaths p hp
    rw [hafter.sticks_eq, ← hsame.sticks_eq]
    unfold Sticks isDirectory
    rw [node?_releaseDirectory_top h.safe (by simp)]

/-- The cleanup of a store takes all its files away while nothing is under way. -/
theorem Tracked.released {base : List Path} {d : String} {scene : Routine.Scene}
    (h : Tracked base d scene) :
    Released scene.store.ledger.paths (scene.store.releaseAll scene.files).2.2
      (scene.store.releaseAll scene.files).1 := by
  have hsettled : Tracked base d { scene with store := { scene.store with dropped := [] } } :=
    { h with }
  have hcleaned := hsettled.cleaned
  rw [cleanUp_of_answered rfl] at hcleaned
  exact hcleaned.released

end ChatChain
