import ChatChain.Proofs.FilePieces

/-!
# Files side by side

`duplicate` and `hash` work on all their files at the same time, and what they return is in the
order of the files, whatever the order of the work was.  A write that was begun is supposed to be
over when another file's work fails.

There are four groups.

* Copying.  `IsDuplicate` says how the work of `duplicate` can proceed: one request after the other,
  or with the two steps of each write apart.  `IsDuplicate.keeps` says that all copies are made,
  unless something goes wrong.
* Runs.  `Duplicated` is what a run of `duplicate` comes to, and `IsDuplicate.run` says so.
* Digests.  `Hashed` is what a run of `hash` comes to.
* The result.  `parallel_files_keep_order` is the result for both.
-/

namespace ChatChain

open Builtin FileName FileSystem Ledger Number Routine TempStore

variable {base : List Path} {d : String} {names : String → Prop} {total count : Nat}
  {s₀ s t : Routine.Scene} {w : Multiset FilePiece} {handles copies : List FileHandle}
  {handle : FileHandle}

/-! ## Copying -/

/-- `duplicate` with the writes of its copies in two steps each, so that others can have their turns
in between. -/
def duplicateInSteps (schedule : List Nat) (b : Binding) (handles : List FileHandle) :
    Routine TaskOutput := do
  let count ← requireRange "count" 1 maxDuplicates ((b.whole? "count").getD 2)
  let copies ← interleave schedule (handles.map fun handle => (copyFile count handle).split)
  return { data := .files copies.flatten }

/-- A way in which the work of `duplicate` can proceed. -/
inductive IsDuplicate (context : TaskContext) (b : Binding) (handles : List FileHandle) :
    Routine TaskOutput → Prop
  | whole (schedule : List Nat) :
      IsDuplicate context b handles ((duplicateCommand schedule).task context b (.files handles))
  | inSteps (schedule : List Nat) :
      IsDuplicate context b handles (duplicateInSteps schedule b handles)

/-- When no file's work is interrupted, the small steps come to the same. -/
theorem run_duplicateInSteps_nil (context : TaskContext) (b : Binding)
    (handles : List FileHandle) (bounds : Bounds) (s : Routine.Scene) :
    (duplicateInSteps [] b handles).run bounds s =
      ((duplicateCommand []).task context b (.files handles)).run bounds s := by
  have hrange : ∀ n, (requireRange "count" 1 maxDuplicates n).split =
      requireRange "count" 1 maxDuplicates n := by
    intro n
    unfold requireRange
    split <;> rfl
  have hcopies : ∀ count, interleave [] (handles.map fun handle => (copyFile count handle).split) =
      (interleave [] (handles.map (copyFile count))).split := by
    intro count
    simp only [interleave, ← each_eq_each_id, split_each]
  have hsplit : duplicateInSteps [] b handles =
      ((duplicateCommand []).task context b (.files handles)).split := by
    rw [duplicateTask_eq]
    refine Eq.symm ((split_bind _ _).trans ?_)
    rw [hrange]
    refine congrArg _ (funext fun count => (split_bind _ _).trans ?_)
    rw [Flow.handles, ← hcopies]
    rfl
  rw [hsplit, run_split]

/-- Whether an output hands on the copies of the files, all of them of a share. -/
def HandsCopies (d : String) (s₀ : Routine.Scene) (count : Nat) (handles : List FileHandle)
    (w : Multiset FilePiece) (t : Routine.Scene) (output : TaskOutput) : Prop :=
  ∃ copies, output = { data := .files copies } ∧
    Copies d s₀ (handles.flatMap (wantedOf s₀ count)) w t copies

/-- Whether a name is one for a copy of one of the files. -/
def IsCopyName (count : Nat) (handles : List FileHandle) (name : String) : Prop :=
  ∃ handle ∈ handles, ∃ k < count, name = copyName (k + 1) handle.name

/-- When the copies of each file have been made, all of them are handed on. -/
theorem keeps_handsCopies {copying : Routine (List (List FileHandle))}
    (h : Keeps (making base d names total s)
      (Expected (handles.map fun handle => Copies d s (wantedOf s count handle)))
      (Spoils handles s) copying w s) :
    Keeps (making base d names total s) (HandsCopies d s count handles) (Spoils handles s)
      (copying.bind fun copies => .done { data := .files copies.flatten }) w s := by
  rw [← add_zero w]
  refine h.bind fun t copies v _ hcopies u hu => ⟨_, rfl, ?_⟩
  rw [add_zero, ← List.flatMap_id]
  exact Copies.of_expected (hcopies u hu)

namespace IsDuplicate

variable {context : TaskContext} {b : Binding} {r : Routine TaskOutput}

/-- Where the count is out of range, nothing is done. -/
theorem eq_fail (h : IsDuplicate context b handles r)
    (hrange : ¬(1 ≤ (b.whole? "count").getD 2 ∧ (b.whole? "count").getD 2 ≤ maxDuplicates)) :
    r = .fail (.forUsers "`count` must be between 1 and 5.") := by
  have hfail : requireRange "count" 1 maxDuplicates ((b.whole? "count").getD 2) =
      .fail (.forUsers "`count` must be between 1 and 5.") := by
    have hlow : writeNat 1 = "1" := by decide +kernel
    have hhigh : writeNat maxDuplicates = "5" := by decide +kernel
    unfold requireRange
    rw [if_neg (by simpa using hrange), hlow, hhigh]
    rfl
  cases h with
  | whole schedule =>
    rw [duplicateTask_eq, hfail]
    rfl
  | inSteps schedule =>
    show Routine.bind (requireRange "count" 1 maxDuplicates _) _ = _
    rw [hfail]
    rfl

/-- However the work proceeds, all copies are made, unless something goes wrong. -/
theorem keeps (h : IsDuplicate context b handles r)
    (hcount : (b.whole? "count").getD 2 = (count : Int)) (hlow : 1 ≤ count)
    (hhigh : count ≤ maxDuplicates) (hahead : Ahead d s)
    (hinputs : ∀ handle ∈ handles, IsInput d s handle) :
    Keeps (making base d (IsCopyName count handles) total s) (HandsCopies d s count handles)
      (Spoils handles s) r (handles.length • count • {.planned}) s := by
  have hsplit : ∀ handle ∈ handles, Keeps (making base d (IsCopyName count handles) total s)
      (Copies d s (wantedOf s count handle)) (Spoils handles s) (copyFile count handle).split
      (count • {.planned}) s := fun handle hhandle =>
    Making.keeps_copyFile hahead hhandle (hinputs handle hhandle)
      (fun k hk => ⟨handle, hhandle, k, hk, rfl⟩) s
  have hrange := requireRange_natCast "count" hlow hhigh
  cases h with
  | whole schedule =>
    rw [duplicateTask_eq, hcount, hrange]
    have hwhole := AllKeep.of_forall fun handle hhandle => (hsplit handle hhandle).of_split
    exact keeps_handsCopies (hwhole.keeps_interleave schedule)
  | inSteps schedule =>
    show Keeps _ _ _ (Routine.bind (requireRange "count" 1 maxDuplicates _) _) _ _
    rw [hcount, hrange]
    exact keeps_handsCopies ((AllKeep.of_forall hsplit).keeps_interleave schedule)

end IsDuplicate

/-! ## Runs -/

/-- What a run of `duplicate` comes to.  If all files can be read and the names of all fresh paths
fit, it returns the copies of each file in order, and else it fails. -/
structure Duplicated (base : List Path) (d : String) (count : Nat) (handles : List FileHandle)
    (s : Routine.Scene) (fresh : List Path) (result : Ending TaskOutput × Routine.Scene) : Prop
    where
  stored : Stored base d s result.2 fresh
  inputs : ∀ handle ∈ handles, ∀ content,
    result.2.files.read handle.path = .ok content ↔ s.files.read handle.path = .ok content
  completed : AllReadable s handles → (∀ p ∈ fresh, p.all Path.fits = true) →
    ∃ copies, result.1 = .returned { data := .files copies } ∧
      copies.map (fun copy => (copy.name, result.2.files.read copy.path)) =
        handles.flatMap (wantedOf s count) ∧
      (copies.map FileHandle.path).Perm fresh ∧
      ∀ copy ∈ copies, IsInput d result.2 copy ∧
        ∃ n, s.store.next ≤ n ∧ copy.path = [d, entryName n copy.name]
  failed : ¬(AllReadable s handles ∧ ∀ p ∈ fresh, p.all Path.fits = true) →
    ∃ e, result.1 = .failed e ∧ e.userMessage? = none
  room : (∀ handle ∈ handles, HasRoom (Path.nameSize handle.name + 2)
      (s.store.next + handles.length * count - 1)) → ∀ p ∈ fresh, p.all Path.fits = true

section

variable (h : Making base d (IsCopyName count handles) (handles.length * count) s w t)
  (hcount : count < 10) (hstore : Tracked base d s) (hahead : Ahead d s)
  (hinputs : ∀ handle ∈ handles, IsInput d s handle)

include h hcount hinputs

/-- The names of fresh paths fit if there is room for them under the last number. -/
theorem Making.fits (hroom : ∀ handle ∈ handles,
      HasRoom (Path.nameSize handle.name + 2) (s.store.next + handles.length * count - 1))
    {p : Path} (hp : p ∈ freshPaths s t) : p.all Path.fits = true := by
  obtain ⟨n, name, -, hhigh, hsafe, ⟨handle, hhandle, k, hk, rfl⟩, rfl⟩ := h.named p hp
  have hlast : n ≤ s.store.next + handles.length * count - 1 := by
    have hnext := h.next
    have hlength := h.length_freshPaths_le
    omega
  have hten : k + 1 < 10 := by omega
  have hsize := nameSize_copyName hten (hinputs handle hhandle).safe
  have hfits := (fits_entryName_iff n hsafe).2 ((hroom handle hhandle).mono hsize.le hlast)
  simp [h.tracked.fits, hfits]

include hstore hahead

/-- When all copies have been made, they are what is returned. -/
theorem Copies.duplicated (hcopies : Copies d s (handles.flatMap (wantedOf s count)) w t copies)
    (hlow : 1 ≤ count) :
    Duplicated base d count handles s (freshPaths s t)
      (.returned { data := .files copies }, t) := by
  have hperm := hcopies.perm h
  have hfits : ∀ p ∈ freshPaths s t, p.all Path.fits = true := by
    intro p hp
    obtain ⟨copy, hcopy, rfl⟩ := List.mem_map.1 (hperm.mem_iff.2 hp)
    obtain ⟨want, -, hcopy⟩ := hcopies.exists_want hcopy
    obtain ⟨content, -, hheld⟩ := hcopy.content
    exact hheld.fits
  refine
    { stored := h.stored hstore hahead
      inputs := fun handle hhandle content => h.read_iff hahead (hinputs handle hhandle)
      completed := fun _ _ => ⟨copies, rfl, hcopies.map_eq h.tracked, hperm, fun copy hcopy => ?_⟩
      failed := fun hno => absurd ⟨hcopies.allReadable hlow, hfits⟩ hno
      room := fun _ => hfits }
  obtain ⟨want, hwant, hcopy⟩ := hcopies.exists_want hcopy
  obtain ⟨handle, hhandle, k, hk, rfl⟩ := mem_wantedOf hwant
  obtain ⟨content, -, hheld⟩ := hcopy.content
  have hten : k + 1 < 10 := by omega
  have hsafe : IsSafe copy.name := by
    rw [hcopy.name]
    exact isSafe_copyName _ (hinputs handle hhandle).safe
  exact ⟨.of_listed h.tracked hsafe hheld.listed, hcopy.entry⟩

/-- When something went wrong, either a file cannot be read or the name of a fresh path is too long.
-/
theorem Spoils.duplicated {e : Failure} (hspoils : Spoils handles s t e) :
    Duplicated base d count handles s (freshPaths s t) (.failed e, t) := by
  have hwrong : ¬(AllReadable s handles ∧ ∀ p ∈ freshPaths s t, p.all Path.fits = true) := by
    rintro ⟨hreadable, hfits⟩
    cases hspoils with
    | unreadable hunreadable => exact hunreadable hreadable
    | tooLong hlisted hnew hlong =>
      exact absurd (hfits _ (h.mem_freshPaths_iff_listed.2 ⟨hlisted, hnew⟩)) (by simp [hlong])
  exact
    { stored := h.stored hstore hahead
      inputs := fun handle hhandle content => h.read_iff hahead (hinputs handle hhandle)
      completed := fun hreadable hfits => absurd ⟨hreadable, hfits⟩ hwrong
      failed := fun _ => ⟨e, rfl, hspoils.internal⟩
      room := fun hroom p hp => h.fits hcount hinputs hroom hp }

end

/-- What a run comes to, however the work proceeds. -/
theorem IsDuplicate.run {context : TaskContext} {b : Binding} {r : Routine TaskOutput}
    (h : IsDuplicate context b handles r) (hcount : (b.whole? "count").getD 2 = (count : Int))
    (hlow : 1 ≤ count) (hhigh : count ≤ maxDuplicates) (hstore : Tracked base d s)
    (hahead : Ahead d s) (hinputs : ∀ handle ∈ handles, IsInput d s handle) (bounds : Bounds) :
    ∃ fresh, Duplicated base d count handles s fresh (r.run bounds s) := by
  have hten : count < 10 := Nat.lt_of_le_of_lt hhigh (by decide)
  have hbegin := Making.of_planned hstore hahead (IsCopyName count handles) (handles.length * count)
  rw [← Multiset.nsmul_singleton, mul_nsmul'] at hbegin
  have hends := (h.keeps hcount hlow hhigh hahead hinputs).run hbegin bounds
  generalize r.run bounds s = result at hends
  cases hends with
  | returned _ hholds hreturns =>
    obtain ⟨copies, rfl, hcopies⟩ := hreturns
    exact ⟨_, hcopies.duplicated hholds hten hstore hahead hinputs hlow⟩
  | failed _ hholds hspoils =>
    exact ⟨_, hspoils.duplicated hholds hten hstore hahead hinputs⟩

/-- Where a file's name leaves no room for the first number, it is not copied. -/
theorem Duplicated.failed_of_not_hasRoom {fresh : List Path}
    {result : Ending TaskOutput × Routine.Scene}
    (h : Duplicated base d count handles s fresh result) (hcount : 1 ≤ count)
    (hinput : IsInput d s handle) (hhandle : handle ∈ handles)
    (hfull : ¬HasRoom (Path.nameSize handle.name + 2) s.store.next) :
    ∃ e, result.1 = .failed e := by
  suffices hno : ¬(AllReadable s handles ∧ ∀ p ∈ fresh, p.all Path.fits = true) by
    obtain ⟨e, he, -⟩ := h.failed hno
    exact ⟨e, he⟩
  rintro ⟨hreadable, hfits⟩
  obtain ⟨copies, -, hcopies, hperm, hentries⟩ := h.completed hreadable hfits
  have hwant : (copyName 1 handle.name, s.files.read handle.path) ∈ _ :=
    first_mem_wantedOf hcount hhandle
  rw [← hcopies] at hwant
  obtain ⟨copy, hcopy, hsame⟩ := List.mem_map.1 hwant
  obtain ⟨-, n, hn, hpath⟩ := hentries copy hcopy
  have hname : copy.name = copyName 1 handle.name := congrArg Prod.fst hsame
  have hfit := hfits copy.path (hperm.mem_iff.1 (List.mem_map_of_mem hcopy))
  rw [hpath, hname] at hfit
  have hone : 1 < 10 := by decide
  have hroom := (fits_entryName_iff n (isSafe_copyName 1 hinput.safe)).1
    (List.all_eq_true.1 hfit _ (by simp))
  rw [nameSize_copyName hone hinput.safe] at hroom
  exact hfull (hroom.mono (Nat.le_refl _) hn)

/-! ## Digests -/

/-- The terms for routines that only look at files.  There are no shares to count. -/
def looking (s₀ : Routine.Scene) : Terms Nat where
  holds _ s := s = s₀
  grows := Eq
  refl _ := rfl
  trans := Eq.trans

/-- Whether a text is the line for a file. -/
def IsHashLine (s : Routine.Scene) (handle : FileHandle) (line : String) : Prop :=
  ∃ content, s.files.read handle.path = .ok content ∧
    line = s!"{Digest.sha256 content}  {handle.name}"

/-- What a run of `hash` comes to.  Nothing changes.  If all files can be read, it returns one line
for each file, in order, and else it fails. -/
structure Hashed (handles : List FileHandle) (s : Routine.Scene)
    (result : Ending TaskOutput × Routine.Scene) : Prop where
  scene : result.2 = s
  completed : AllReadable s handles →
    ∃ lines, result.1 = .returned (.text ("\n".intercalate lines)) ∧
      List.Forall₂ (IsHashLine s) handles lines
  failed : ¬AllReadable s handles → ∃ e, result.1 = .failed e ∧ e.userMessage? = none

/-- The line for a file, while nothing changes. -/
theorem keeps_hashLine (s : Routine.Scene) (hhandle : handle ∈ handles) :
    Keeps (looking s) (Finished fun _ line => IsHashLine s handle line)
      (fun _ e => ¬AllReadable s handles ∧ e.userMessage? = none) (hashLine handle) 0 s := by
  rintro t others rfl hholds
  rw [s.asked_read, s.answer_read]
  refine ⟨0, rfl, rfl, ?_⟩
  cases hread : s.files.read handle.path with
  | ok content => exact fun u _ => ⟨rfl, content, hread, rfl⟩
  | error e =>
    refine fun u _ => ⟨fun hall => ?_, rfl⟩
    obtain ⟨content, hcontent⟩ := hall handle hhandle
    exact absurd (hread.symm.trans hcontent) (by simp)

/-- The lines of all files, however the work proceeds. -/
theorem keeps_hashTask (context : TaskContext) (b : Binding) (schedule : List Nat)
    (handles : List FileHandle) (s : Routine.Scene) :
    Keeps (looking s)
      (Finished fun _ output => ∃ lines, output = .text ("\n".intercalate lines) ∧
        List.Forall₂ (IsHashLine s) handles lines)
      (fun _ e => ¬AllReadable s handles ∧ e.userMessage? = none)
      ((hashCommand schedule).task context b (.files handles)) 0 s := by
  have hall := AllKeep.of_forall fun handle (hhandle : handle ∈ handles) =>
    keeps_hashLine s hhandle
  have hlines := hall.keeps_interleave schedule
  rw [nsmul_zero] at hlines
  rw [hashTask_eq]
  refine hlines.bind (l := 0) fun t lines w _ hexpected u hu => ?_
  obtain ⟨rfl, hall⟩ := (hexpected u hu).forall₂
  exact ⟨rfl, lines, rfl, hall⟩

/-- What a run comes to, however the work proceeds. -/
theorem hashed (context : TaskContext) (b : Binding) (schedule : List Nat)
    (handles : List FileHandle) (bounds : Bounds) (s : Routine.Scene) :
    Hashed handles s
      (((hashCommand schedule).task context b (.files handles)).run bounds s) := by
  have hends := (keeps_hashTask context b schedule handles s).run rfl bounds
  generalize ((hashCommand schedule).task context b (.files handles)).run bounds s = result at hends
  cases hends with
  | @returned output w t hsame _ hreturns =>
    obtain ⟨-, lines, rfl, hall⟩ := hreturns
    have hreadable : AllReadable s handles := by
      intro handle hhandle
      obtain ⟨line, -, content, hread, -⟩ :=
        Fallible.exists_of_forall₂ (List.Forall₂.flip hall) _ hhandle
      exact ⟨content, hread⟩
    exact ⟨hsame.symm, fun _ => ⟨lines, rfl, hall⟩, fun hno => absurd hreadable hno⟩
  | @failed e w t hsame _ hfails =>
    exact ⟨hsame.symm, fun hreadable => absurd hreadable hfails.1, fun _ => ⟨e, rfl, hfails.2⟩⟩

/-! ## The result -/

/-- However the work on the files proceeds, what comes of it is in their order.  `duplicate` refuses
a count out of range before anything is done.  With any other count it leaves its files as they are
and returns the copies of each, with its content, at fresh paths, unless a file cannot be read or
the name for a copy is too long; then it fails, and all paths that were handed out are still listed.
`hash` changes nothing and returns a line for each file, unless one cannot be read. -/
theorem parallel_files_keep_order (context : TaskContext) (b : Binding) (bounds : Bounds)
    (hstore : Tracked base d s) (hahead : Ahead d s)
    (hinputs : ∀ handle ∈ handles, IsInput d s handle) :
    (∀ r, IsDuplicate context b handles r →
      (¬(1 ≤ (b.whole? "count").getD 2 ∧ (b.whole? "count").getD 2 ≤ maxDuplicates) →
        r.run bounds s = (.failed (.forUsers "`count` must be between 1 and 5."), s)) ∧
      ∀ count : Nat, (b.whole? "count").getD 2 = (count : Int) → 1 ≤ count →
        count ≤ maxDuplicates → ∃ fresh, Duplicated base d count handles s fresh (r.run bounds s)) ∧
    ∀ schedule, Hashed handles s
      (((hashCommand schedule).task context b (.files handles)).run bounds s) := by
  refine ⟨fun r hr => ⟨fun hrange => ?_, fun count hcount hlow hhigh => ?_⟩, fun schedule => ?_⟩
  · rw [hr.eq_fail hrange]
    rfl
  · exact hr.run hcount hlow hhigh hstore hahead hinputs bounds
  · exact hashed context b schedule handles bounds s

namespace Doubling

/-- Two files beside a chain. -/
def files : FileSystem where
  nodes := [(["b.txt"], .file "second".toUTF8), (["a.txt"], .file "first".toUTF8)]

def inputs : List FileHandle :=
  [{ path := ["a.txt"], name := "a.txt" }, { path := ["b.txt"], name := "b.txt" }]

/-- The store of the chain, just opened. -/
def scene : Routine.Scene where
  files := files.set ["1"] .directory
  store := { ledger := { directory := ["1"] } }
  clock := 0

def context : TaskContext where
  definition := (duplicateCommand []).definition
  author := "someone"

theorem stocked : Stocked files [] "1" scene := by
  have hopen : openIn [] files "1" =
      (.ok { ledger := { directory := ["1"] } }, files.set ["1"] .directory) := rfl
  have hvacant : ∀ names, files.node? ("1" :: names) = none := fun _ => rfl
  exact (Shelved.of_openIn hvacant hopen 0 []).stocked

theorem isInput : ∀ handle ∈ inputs, IsInput "1" scene handle := by
  have hplaces : ∀ handle ∈ inputs, (Path.place handle.path).length = 1 := by decide +kernel
  have hsafe : ∀ handle ∈ inputs, sanitize handle.name = handle.name := by decide +kernel
  intro handle hhandle
  refine ⟨hsafe handle hhandle ▸ isSafe_sanitize _, fun n name _ _ hplace => ?_⟩
  exact absurd (congrArg List.length hplace) (by simp [hplaces handle hhandle])

/-- Two files are copied twice, the second one first. -/
theorem copies_keep_the_order :
    Tracked [] "1" scene ∧ Ahead "1" scene ∧ (∀ handle ∈ inputs, IsInput "1" scene handle) ∧
      ∃ copies t, (duplicateInSteps [1, 0, 1, 1, 0] {} inputs).run {} scene =
          (.returned { data := .files copies }, t) ∧
        copies.map (fun copy => (copy.name, t.files.read copy.path)) =
          [("1-a.txt", .ok "first".toUTF8), ("2-a.txt", .ok "first".toUTF8),
            ("1-b.txt", .ok "second".toUTF8), ("2-b.txt", .ok "second".toUTF8)] := by
  refine ⟨stocked.tracked, stocked.ahead, isInput, ?_⟩
  obtain ⟨hduplicates, -⟩ :=
    parallel_files_keep_order context {} {} stocked.tracked stocked.ahead isInput
  obtain ⟨fresh, hdone⟩ :=
    (hduplicates _ (.inSteps [1, 0, 1, 1, 0])).2 2 rfl (by decide) (by decide)
  generalize (duplicateInSteps [1, 0, 1, 1, 0] {} inputs).run {} scene = result at hdone
  obtain ⟨ending, t⟩ := result
  have hisOk : ∀ handle ∈ inputs, (scene.files.read handle.path).isOk = true := by decide +kernel
  have hreadable : AllReadable scene inputs :=
    fun handle hhandle => ⟨_, Fallible.eq_ok_of_isOk .empty (hisOk handle hhandle)⟩
  have hroom := hdone.room (by decide +kernel)
  obtain ⟨copies, hreturned, hcopies, -⟩ := hdone.completed hreadable hroom
  refine ⟨copies, t, Prod.ext hreturned rfl, hcopies.trans ?_⟩
  decide +kernel

/-- The binding for one copy. -/
def one : Binding where
  values := Dict.ofList [("count", .integer 1)]

/-- A file whose name has 250 characters can be written and read, but not copied: the name of an
entry for the copy would have 257 characters. -/
theorem not_copied {name : String} (hsafe : IsSafe name) (hsize : Path.nameSize name = 250)
    (content : ByteArray) :
    let handle : FileHandle := { path := ["1", entryName 1 name], name }
    let filled := scene.asked (.write name content)
    scene.answer (.write name content) = .ok handle ∧
      filled.files.read handle.path = .ok content ∧
      ∃ e, (((duplicateCommand []).task context one (.files [handle])).run {} filled).1 =
        .failed e := by
  intro handle filled
  have hpath : scene.store.nextPath name = handle.path := by
    rw [stocked.tracked.nextPath_eq, sanitize_of_isSafe hsafe]
    rfl
  have hentry := (fits_entryName_iff 1 hsafe).2 (by rw [hsize]; decide +kernel)
  have hfits : handle.path.all Path.fits = true := by simp [handle, stocked.tracked.fits, hentry]
  have hwrite := stocked.write_eq name content
  obtain ⟨hfilled, hpaths, hfiles⟩ := stocked.write name content
  rw [hpath, sanitize_of_isSafe hsafe] at hwrite
  rw [hpath] at hpaths hfiles
  rw [if_pos hfits] at hwrite hfiles
  have hlisted : handle.path ∈ filled.store.ledger.paths := by simp [filled, hpaths]
  have hnode : filled.files.node? handle.path = some (.file content) := by
    rw [hfiles, node?_set _ (by simp [handle]), if_pos rfl]
  have hinput : IsInput "1" filled handle := .of_listed hfilled.tracked hsafe hlisted
  have hnext : filled.store.next = 2 := congrArg (fun result => result.2.1.next) hwrite
  have hduplicate := @IsDuplicate.whole context one [handle] []
  obtain ⟨fresh, hdone⟩ := hduplicate.run rfl (Nat.le_refl 1) (by decide) hfilled.tracked
    hfilled.ahead (List.forall_mem_singleton.2 hinput) {}
  refine ⟨congrArg Prod.fst hwrite, hfilled.tracked.read hlisted hfits hnode,
    hdone.failed_of_not_hasRoom (Nat.le_refl 1) hinput (List.mem_singleton_self handle) ?_⟩
  rw [hnext, hsize]
  decide +kernel

/-- The store hands out a file that can be read and that `duplicate` does not copy. -/
theorem long_name_is_not_copied :
    ∃ handle, scene.answer (.write (letters 250) "text".toUTF8) = .ok handle ∧
      (scene.asked (.write (letters 250) "text".toUTF8)).files.read handle.path =
        .ok "text".toUTF8 ∧ one.whole? "count" = some 1 ∧
      ∃ e, (((duplicateCommand []).task context one (.files [handle])).run {}
        (scene.asked (.write (letters 250) "text".toUTF8))).1 = .failed e := by
  have hsafe := isSafe_letters (n := 250) (by decide)
  have hsize := nameSize_letters (n := 250) (by decide)
  obtain ⟨hanswer, hread, hfailed⟩ := not_copied hsafe hsize "text".toUTF8
  exact ⟨_, hanswer, hread, rfl, hfailed⟩

end Doubling

end ChatChain
