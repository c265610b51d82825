import ChatChain.Proofs.StoreRuns
import Mathlib.Algebra.Ring.Nat

/-!
# Stores side by side

Chains run at the same time, and each of them has a store in a directory of its own inside the same
root.  This module is about stores whose calls come in any order, with other changes to the files in
between: no path is handed out twice, and no call of one store touches the files of another.

There are four groups.

* Places.  `place` is where a path leads when every name on the way leads to a directory, and
  `path_of_locate` says that it leads nowhere else.
* Changes.  `ChangesOnly` bounds what a change does to a tree, and there is one lemma for each thing
  that a store does to the files.
* One call.  `Call` lists what can be asked of a store, `perform_callEffect` says what every call
  does, and `Keeps.perform` that the store keeps to its directory.
* Turns.  `Neighbours` are stores with the files that they share, and a turn is one call of one of
  them.  `allocated_paths_are_fresh_and_confined` says what holds of every run.
-/

namespace ChatChain

/-! ## Places -/

namespace Path

/-- The place that a path leads to, when every name on the way leads to a directory. -/
def place (path : Path) : Path :=
  path.foldl advance []

theorem foldl_advance_filter (names : List String) (here : Path) :
    (names.filter (· != "")).foldl advance here = names.foldl advance here := by
  induction names generalizing here with
  | nil => rfl
  | cons name names ih =>
    by_cases hempty : name = ""
    · subst hempty
      exact ih here
    · rw [List.filter_cons_of_pos (by simpa using hempty), List.foldl_cons, List.foldl_cons, ih]

theorem IsName.advance_eq {name : String} (h : IsName name) (here : Path) :
    Path.advance here name = here ++ [name] := by
  simp [Path.advance, h.active, h.onward]

theorem place_concat (d : Path) {name : String} (h : IsName name) :
    place (d ++ [name]) = place d ++ [name] := by
  rw [place, List.foldl_append, List.foldl_cons, List.foldl_nil, h.advance_eq]
  rfl

end Path

namespace FileSystem

open Fallible ChatChain.Path

variable {fs fs' fs'' : FileSystem} {p : Path} {l : Location}

theorem path_of_follow {slashed : Bool} {here : Path} {names : List String}
    (h : fs.follow slashed here names = .ok l) : l.path = names.foldl Path.advance here := by
  induction names generalizing here with
  | nil =>
    obtain rfl := Except.ok.inj h
    rfl
  | cons name names ih =>
    cases names with
    | nil =>
      unfold follow at h
      split at h
      · cases henter : fs.enter here name with
        | error e => simp [henter, Except.map] at h
        | ok next =>
          obtain ⟨-, -, rfl⟩ := enter_eq_ok_iff.1 henter
          simp only [henter, Except.map] at h
          obtain rfl := Except.ok.inj h
          rfl
      · next hmoves =>
        obtain ⟨hactive, honward⟩ : isIdle name = false ∧ name ≠ ".." := by simpa using hmoves
        split at h
        · exact absurd h (by simp)
        · obtain rfl := Except.ok.inj h
          simp [Location.path, Path.advance, hactive, honward]
    | cons other names =>
      rw [follow] at h
      · obtain ⟨next, henter, hrest⟩ := bind_eq_ok_iff.1 h
        obtain ⟨-, -, rfl⟩ := enter_eq_ok_iff.1 henter
        exact ih hrest
      · simp

/-- A path leads to its place or nowhere. -/
theorem path_of_locate (h : fs.locate [] p = .ok l) : l.path = place p := by
  obtain ⟨_, -, hfollow⟩ := bind_eq_ok_iff.1 h
  rw [path_of_follow hfollow, foldl_advance_filter]
  rfl

/-! ## Changes -/

theorem node?_erase_of_ne (fs : FileSystem) {q : Path} (h : q ≠ p) :
    (fs.erase p).node? q = fs.node? q := by
  unfold node? erase
  rw [lookup_filter_ne, if_neg h]

/-- Whether a change leaves everything alone but some places. -/
def ChangesOnly (places : Path → Prop) (fs fs' : FileSystem) : Prop :=
  ∀ q, ¬places q → fs'.node? q = fs.node? q

namespace ChangesOnly

variable {places : Path → Prop}

theorem refl (fs : FileSystem) : ChangesOnly places fs fs := fun _ _ => rfl

theorem trans (h : ChangesOnly places fs fs') (h' : ChangesOnly places fs' fs'') :
    ChangesOnly places fs fs'' := fun q hq => (h' q hq).trans (h q hq)

theorem write {content : ByteArray} (h : fs.write p content = .ok fs') (hp : places (place p)) :
    ChangesOnly places fs fs' := by
  obtain ⟨l, hlocate, hothers⟩ := node?_write h
  refine fun q hq => hothers q ?_
  rintro rfl
  exact hq (path_of_locate hlocate ▸ hp)

theorem releaseFile (fs : FileSystem) (hp : places (place p)) :
    ChangesOnly places fs (Ledger.releaseFile fs p).1 := by
  intro q hq
  rcases Ledger.node?_releaseFile fs p q with hsame | ⟨l, _, hlocate, -, rfl⟩
  · exact hsame
  · exact absurd (path_of_locate hlocate ▸ hp) hq

theorem releaseFiles (fs : FileSystem) {paths : List Path}
    (hpaths : ∀ p ∈ paths, places (place p)) :
    ChangesOnly places fs (Ledger.releaseFiles fs paths).1 := by
  intro q hq
  rcases Ledger.node?_releaseFiles fs paths q with hsame | ⟨p, hp, l, _, hlocate, -, rfl⟩
  · exact hsame
  · exact absurd (path_of_locate hlocate ▸ hpaths p hp) hq

theorem releaseDirectory (fs : FileSystem) (hp : places (place p)) :
    ChangesOnly places fs (Ledger.releaseDirectory fs p) := by
  rcases Ledger.releaseDirectory_cases fs p with hsame | ⟨l, hlocate, herase⟩
  · rw [hsame]
    exact .refl fs
  · intro q hq
    rw [herase]
    refine node?_erase_of_ne fs ?_
    rintro rfl
    exact hq (path_of_locate hlocate ▸ hp)

/-- A drain reaches for the paths on the list and for the directory. -/
theorem drain (l : Ledger) (fs : FileSystem) (hpaths : ∀ p ∈ l.paths, places (place p))
    (hdirectory : places (place l.directory)) : ChangesOnly places fs (l.drain fs).2.2 := by
  cases hdrained : l.drained with
  | true =>
    rw [Ledger.drain_of_drained hdrained]
    exact .refl fs
  | false =>
    rw [Ledger.drain_of_undrained hdrained]
    exact (releaseFiles fs hpaths).trans (releaseDirectory _ hdirectory)

/-- Entering a path removes the file there at most. -/
theorem track (l : Ledger) (fs : FileSystem) (hp : places (place p)) :
    ChangesOnly places fs (l.track fs p).2.2 := by
  unfold Ledger.track
  split
  · exact releaseFile fs hp
  · split <;> exact .refl fs

end ChangesOnly

end FileSystem

/-! ## One call -/

namespace TempStore

open FileSystem Ledger ChatChain.Path

/-- Something that is asked of a store. -/
inductive Call where
  | allocate (name : String)
  | write (name : String) (content : ByteArray)
  /-- Copies what can be read at a path, wherever that is. -/
  | copyFrom (name : String) (source : Path)
  | releaseAll

/-- Does what is asked of a store, and hands out the file if there is one. -/
def perform (s : TempStore) (fs : FileSystem) : Call → Option FileHandle × TempStore × FileSystem
  | .allocate name =>
    let (handle, s, fs) := s.allocate fs name
    (some handle, s, fs)
  | .write name content =>
    let (result, s, fs) := s.write fs name content
    (result.toOption, s, fs)
  | .copyFrom name source =>
    let (result, s, fs) := s.copyIn fs name (fs.read source)
    (result.toOption, s, fs)
  | .releaseAll =>
    let (_, s, fs) := s.releaseAll fs
    (none, s, fs)

/-- The path that a call allocates, whether or not it can be written to. -/
def allocates? (s : TempStore) (fs : FileSystem) : Call → Option Path
  | .allocate name | .write name _ | .copyFrom name _ => some (s.allocate fs name).1.path
  | .releaseAll => none

/-- What a call does to the store and to the files. -/
inductive CallEffect (s : TempStore) (fs : FileSystem) :
    Option Path → Option FileHandle × TempStore × FileSystem → Prop
  /-- It enters the next path in the ledger, may write there, and hands out no other one. -/
  | allocated {name : String} {handle? : Option FileHandle} {fs' : FileSystem}
      (hhandle : ∀ handle ∈ handle?, handle.path = s.nextPath name)
      (hwrites : WritesAt (s.ledger.track fs (s.nextPath name)).2.2 (s.nextPath name) fs') :
      CallEffect s fs (some (s.nextPath name))
        (handle?, s.entering fs (s.nextPath name) (s.next + 1), fs')
  /-- It drains the ledger. -/
  | drained :
      CallEffect s fs none
        (none, { s with ledger := (s.ledger.drain fs).2.1 }, (s.ledger.drain fs).2.2)

theorem path_of_copyIn {s : TempStore} {fs : FileSystem} {name : String}
    {content : Except FileError ByteArray} {handle : FileHandle}
    (h : handle ∈ (s.copyIn fs name content).1.toOption) : handle.path = s.nextPath name := by
  unfold copyIn allocate at h
  simp only at h
  split at h
  · obtain rfl := Option.some.inj h
    rfl
  · exact absurd h (by simp [Except.toOption])

theorem perform_callEffect (s : TempStore) (fs : FileSystem) (c : Call) :
    CallEffect s fs (s.allocates? fs c) (s.perform fs c) := by
  have hcopy : ∀ name content, CallEffect s fs (some (s.nextPath name))
      ((s.copyIn fs name content).1.toOption, (s.copyIn fs name content).2) := by
    intro name content
    obtain ⟨hstore, hwrites⟩ := copyIn_writesAt s fs name content
    have hpath : ∀ handle, (s.copyIn fs name content).1.toOption = some handle →
        handle.path = s.nextPath name := fun _ hhandle => path_of_copyIn hhandle
    have heffect := CallEffect.allocated hpath hwrites
    rwa [← hstore] at heffect
  cases c with
  | allocate name =>
    refine .allocated (fun handle hhandle => ?_) (Or.inl rfl)
    obtain rfl := Option.some.inj hhandle
    rfl
  | write name content => exact hcopy name (.ok content)
  | copyFrom name source => exact hcopy name (fs.read source)
  | releaseAll => exact .drained

/-- Whether a store has its directory at a path, and its ledger lists names in it alone. -/
structure Keeps (s : TempStore) (dir : Path) : Prop where
  directory : s.directory = dir
  named : ∀ p ∈ s.ledger.paths, ∃ name, IsName name ∧ p = dir ++ [name]

/-- Whether a place is that of a directory or of a name in it. -/
def Holds (dir q : Path) : Prop :=
  q = place dir ∨ ∃ name, q = place dir ++ [name]

section

variable {s : TempStore} {fs : FileSystem} {dir : Path}

theorem holds_named {name : String} (hname : IsName name) : Holds dir (place (dir ++ [name])) :=
  Or.inr ⟨name, place_concat dir hname⟩

/-- A call keeps the store in its directory and changes nothing elsewhere. -/
theorem Keeps.perform (h : s.Keeps dir) (fs : FileSystem) (c : Call) :
    (s.perform fs c).2.1.Keeps dir ∧ ChangesOnly (Holds dir) fs (s.perform fs c).2.2 := by
  have heffect := perform_callEffect s fs c
  generalize s.allocates? fs c = p?, s.perform fs c = result at heffect
  cases heffect with
  | @allocated name handle? fs' hhandle hwrites =>
    obtain ⟨entry, hentry, hpath⟩ := nextPath_named s name
    rw [h.directory] at hpath
    rw [hpath] at hwrites ⊢
    constructor
    · refine ⟨(directory_track s.ledger fs _).trans h.directory, fun p hp => ?_⟩
      rcases mem_paths_of_track hp with hold | rfl
      · exact h.named p hold
      · exact ⟨entry, hentry, rfl⟩
    · refine (ChangesOnly.track s.ledger fs (holds_named hentry)).trans ?_
      rcases hwrites with rfl | ⟨content, hwrite⟩
      · exact .refl _
      · exact .write hwrite (holds_named hentry)
  | drained =>
    constructor
    · refine ⟨(directory_drain s.ledger fs).trans h.directory, fun p hp => ?_⟩
      exact h.named p (mem_paths_of_drain hp)
    · refine .drain s.ledger fs (fun p hp => ?_) (Or.inl (congrArg place h.directory))
      obtain ⟨name, hname, rfl⟩ := h.named p hp
      exact holds_named hname

/-- A store that was just opened has an empty ledger and begins to count. -/
theorem openIn_spec {root : Path} {fs' : FileSystem} {chainId : String}
    (h : openIn root fs chainId = (.ok s, fs')) :
    s = { ledger := { directory := root ++ [FileName.sanitize chainId] } } := by
  unfold openIn at h
  split at h
  · exact absurd (congrArg Prod.fst h) (by simp)
  · simp only at h
    split at h
    · exact (Except.ok.inj (Prod.mk.inj h).1).symm
    · exact absurd (congrArg Prod.fst h) (by simp)

end

end TempStore

/-! ## Turns -/

open FileName FileSystem ChatChain.Path TempStore

variable {ι : Type} [DecidableEq ι]

/-- Stores with the files that they share. -/
structure Neighbours (ι : Type) where
  stores : ι → TempStore
  files : FileSystem

/-- Something that happens to stores side by side. -/
inductive Turn (ι : Type) where
  | call (i : ι) (c : Call)
  /-- Somebody else does something to the files. -/
  | meddle (change : FileSystem → FileSystem)

namespace Neighbours

/-- The stores and the files after a turn. -/
def turn (n : Neighbours ι) : Turn ι → Neighbours ι
  | .call i c =>
    let (_, s, files) := (n.stores i).perform n.files c
    { stores := Function.update n.stores i s, files }
  | .meddle change => { n with files := change n.files }

/-- The stores and the files after turns. -/
def after (n : Neighbours ι) (turns : List (Turn ι)) : Neighbours ι :=
  turns.foldl turn n

/-- The path that a turn allocates, with its store. -/
def allocates? (n : Neighbours ι) : Turn ι → Option (ι × Path)
  | .call i c => ((n.stores i).allocates? n.files c).map fun p => (i, p)
  | .meddle _ => none

/-- The paths that turns allocate, in order. -/
def allocated (n : Neighbours ι) : List (Turn ι) → List (ι × Path)
  | [] => []
  | t :: turns => (n.allocates? t).toList ++ (n.turn t).allocated turns

/-- Whether the stores were just opened in `root` for chains with the given ids. -/
def Opened (n : Neighbours ι) (root : Path) (ids : ι → String) : Prop :=
  ∀ i, ∃ fs fs', openIn root fs (ids i) = (.ok (n.stores i), fs')

variable {n : Neighbours ι} {dirs : ι → Path}

@[simp] theorem after_cons (n : Neighbours ι) (t : Turn ι) (turns : List (Turn ι)) :
    n.after (t :: turns) = (n.turn t).after turns := rfl

theorem turn_call (n : Neighbours ι) (i : ι) (c : Call) :
    n.turn (.call i c) =
      { stores := Function.update n.stores i ((n.stores i).perform n.files c).2.1
        files := ((n.stores i).perform n.files c).2.2 } := rfl

/-- A turn hands out the next number of its store, or none. -/
theorem turn_next (n : Neighbours ι) (t : Turn ι) :
    n.allocates? t = none ∧ (∀ i, ((n.turn t).stores i).next = (n.stores i).next) ∨
      ∃ i name, n.allocates? t = some (i, (n.stores i).nextPath name) ∧
        ∀ j, ((n.turn t).stores j).next = (n.stores j).next + if j = i then 1 else 0 := by
  cases t with
  | meddle change => exact Or.inl ⟨rfl, fun _ => rfl⟩
  | call i c =>
    have heffect := perform_callEffect (n.stores i) n.files c
    rw [turn_call, allocates?]
    generalize (n.stores i).allocates? n.files c = p?, (n.stores i).perform n.files c = result
      at heffect
    cases heffect with
    | allocated hhandle hwrites =>
      refine Or.inr ⟨i, _, rfl, fun j => ?_⟩
      by_cases hj : j = i
      · subst hj
        simp [entering]
      · simp [hj]
    | drained =>
      refine Or.inl ⟨rfl, fun j => ?_⟩
      by_cases hj : j = i
      · subst hj
        simp
      · simp [Function.update_of_ne hj]

/-- Whether every store keeps to its directory. -/
def Kept (n : Neighbours ι) (dirs : ι → Path) : Prop :=
  ∀ i, (n.stores i).Keeps (dirs i)

theorem Kept.turn (h : n.Kept dirs) (t : Turn ι) : (n.turn t).Kept dirs := by
  cases t with
  | meddle change => exact h
  | call i c =>
    intro j
    rw [turn_call]
    by_cases hj : j = i
    · subst hj
      simpa using ((h j).perform n.files c).1
    · simpa [Function.update_of_ne hj] using h j

theorem Kept.after (h : n.Kept dirs) (turns : List (Turn ι)) : (n.after turns).Kept dirs := by
  induction turns generalizing n with
  | nil => exact h
  | cons t turns ih => exact ih (h.turn t)

/-- Every path that is allocated has a number that its store has not used before. -/
theorem Kept.numbered (h : n.Kept dirs) {turns : List (Turn ι)} {i : ι} {p : Path}
    (hp : (i, p) ∈ n.allocated turns) :
    ∃ k name, (n.stores i).next ≤ k ∧ k < (n.stores i).next + (n.allocated turns).length ∧
      p = dirs i ++ [entryName k (sanitize name)] := by
  induction turns generalizing n with
  | nil => exact absurd hp List.not_mem_nil
  | cons t turns ih =>
    unfold allocated at hp ⊢
    rcases n.turn_next t with ⟨hnone, hnext⟩ | ⟨j, name, hsome, hnext⟩
    · rw [hnone] at hp ⊢
      obtain ⟨k, name, hfirst, hlast, rfl⟩ := ih (h.turn t) hp
      rw [hnext] at hfirst hlast
      exact ⟨k, name, hfirst, by simpa using hlast, rfl⟩
    · rw [hsome] at hp ⊢
      have hlength : ∀ rest : List (ι × Path),
          ((some (j, (n.stores j).nextPath name)).toList ++ rest).length = rest.length + 1 := by
        simp
      rw [hlength]
      rcases List.mem_cons.1 hp with hhead | hp
      · obtain ⟨rfl, rfl⟩ := Prod.mk.inj hhead
        refine ⟨(n.stores i).next, name, le_refl _, by omega, ?_⟩
        rw [nextPath, (h i).directory]
      · obtain ⟨k, name, hfirst, hlast, rfl⟩ := ih (h.turn t) hp
        rw [hnext] at hfirst hlast
        exact ⟨k, name, by omega, by split at hlast <;> omega, rfl⟩

/-- No path is allocated twice. -/
theorem Kept.nodup (h : n.Kept dirs) (hdirs : ∀ i j, i ≠ j → dirs i ≠ dirs j)
    (turns : List (Turn ι)) : ((n.allocated turns).map Prod.snd).Nodup := by
  induction turns generalizing n with
  | nil => exact List.nodup_nil
  | cons t turns ih =>
    unfold allocated
    rcases n.turn_next t with ⟨hnone, -⟩ | ⟨j, name, hsome, hnext⟩
    · rw [hnone]
      exact ih (h.turn t)
    · rw [hsome]
      refine List.nodup_cons.2 ⟨fun hmem => ?_, ih (h.turn t)⟩
      obtain ⟨⟨i, p⟩, hp, hsame⟩ := List.mem_map.1 hmem
      obtain ⟨k, other, hfirst, -, rfl⟩ := (h.turn t).numbered hp
      rw [nextPath, (h j).directory] at hsame
      obtain ⟨hdir, hentry⟩ := List.append_inj' hsame rfl
      obtain rfl : i = j := by
        by_contra hne
        exact hdirs i j hne hdir
      -- The store has gone on to the next number.
      obtain rfl := eq_of_entryName_eq (List.singleton_inj.1 hentry)
      rw [hnext, if_pos rfl] at hfirst
      omega

/-! ### The result -/

variable {root : Path} {names : ι → String}

/-- A directory and the names in it are not in another directory beside it. -/
theorem not_holds_of_sibling {name other : String} {q : Path} (hname : IsName name)
    (hother : IsName other) (hne : name ≠ other) (hq : place (root ++ [other]) <+: q) :
    ¬Holds (root ++ [name]) q := by
  rw [place_concat root hother] at hq
  rintro (rfl | ⟨entry, rfl⟩) <;> rw [place_concat root hname] at hq
  · rw [List.prefix_append_right_inj, List.cons_prefix_cons] at hq
    exact hne hq.1.symm
  · rw [List.append_assoc, List.prefix_append_right_inj, List.singleton_append,
      List.cons_prefix_cons] at hq
    exact hne hq.1.symm

/-- Whether a call of the store `i` hands out what it allocates and leaves the other stores alone,
which have their directories at `dirs`. -/
structure Isolated (n : Neighbours ι) (dirs : ι → Path) (i : ι) (c : Call) : Prop where
  handed : ∀ handle ∈ ((n.stores i).perform n.files c).1,
    n.allocates? (.call i c) = some (i, handle.path)
  stores : ∀ j, j ≠ i → (n.turn (.call i c)).stores j = n.stores j
  /-- In the directory of another store nothing is created, changed or removed. -/
  files : ∀ j, j ≠ i → ∀ q, place (dirs j) <+: q →
    (n.turn (.call i c)).files.node? q = n.files.node? q

theorem Kept.isolated (h : n.Kept fun i => root ++ [names i]) (hnames : ∀ i, IsName (names i))
    (hne : ∀ i j, i ≠ j → names i ≠ names j) (i : ι) (c : Call) :
    n.Isolated (fun i => root ++ [names i]) i c := by
  refine ⟨fun handle hhandle => ?_, fun j hj => ?_, fun j hj q hq => ?_⟩
  · have heffect := perform_callEffect (n.stores i) n.files c
    rw [allocates?]
    generalize (n.stores i).allocates? n.files c = p?, (n.stores i).perform n.files c = result
      at heffect hhandle
    cases heffect with
    | allocated hpath hwrites => rw [hpath handle hhandle, Option.map_some]
    | drained => exact absurd hhandle (by simp)
  · exact Function.update_of_ne hj _ _
  · exact ((h i).perform n.files c).2 q
      (not_holds_of_sibling (hnames i) (hnames j) (hne i j (Ne.symm hj)) hq)

/-- Whether a name is one component of a path, made of harmless characters. -/
structure IsComponent (name : String) : Prop where
  ne_empty : name ≠ ""
  ne_point : name ≠ "."
  ne_points : name ≠ ".."
  chars : ∀ c ∈ name.toList, c.isAlphanum = true ∨ c = '.' ∨ c = '-' ∨ c = '_'

theorem IsComponent.of_isSafe {name : String} (h : IsSafe name) : IsComponent name where
  ne_empty := h.advance.2.2
  ne_point hpoint := h.head '.' (by simp [hpoint]) rfl
  ne_points hpoints := h.head '.' (by simp [hpoints]) rfl
  chars c hc := by simpa [isSafeChar, or_assoc] using h.chars c hc

/-- Whether a path is a fresh one of a chain's store: a numbered component in the chain's directory
inside the root, with a number of 64 bits.  The path leads into the directory or nowhere. -/
structure Confined (root : Path) (chainId : String) (p : Path) : Prop where
  component : ∃ k name, k < 2 ^ 64 ∧ IsComponent (entryName k (sanitize name)) ∧
    p = root ++ [sanitize chainId] ++ [entryName k (sanitize name)]
  directory : IsComponent (sanitize chainId)
  inside : ∀ (fs : FileSystem) l, fs.locate [] p = .ok l →
    place (root ++ [sanitize chainId]) <+: l.path

/-- Allocated paths are fresh and confined.  Stores that were opened in one root, for chains whose
ids have different safe names, are called in any order, with other changes to the files in between
and fewer than `2 ^ 64` files allocated.  Then no path is allocated twice, every path is a component
in the directory of its store, and no call changes anything in the directory of another store. -/
theorem allocated_paths_are_fresh_and_confined {ids : ι → String} (hopened : n.Opened root ids)
    (hids : ∀ i j, i ≠ j → sanitize (ids i) ≠ sanitize (ids j)) {turns : List (Turn ι)}
    (hfew : (n.allocated turns).length < 2 ^ 64) :
    ((n.allocated turns).map Prod.snd).Nodup ∧
      (∀ i p, (i, p) ∈ n.allocated turns → Confined root (ids i) p) ∧
      ∀ before i c rest, turns = before ++ .call i c :: rest →
        (n.after before).Isolated (fun j => root ++ [sanitize (ids j)]) i c := by
  have hsafe : ∀ j, IsName (sanitize (ids j)) := fun j => .of_isSafe (isSafe_sanitize (ids j))
  have hstores : ∀ i, n.stores i = { ledger := { directory := root ++ [sanitize (ids i)] } } := by
    intro i
    obtain ⟨fs, fs', hopen⟩ := hopened i
    exact openIn_spec hopen
  have hkept : n.Kept fun i => root ++ [sanitize (ids i)] := by
    intro i
    rw [hstores i]
    exact ⟨rfl, fun p hp => absurd hp List.not_mem_nil⟩
  refine ⟨hkept.nodup (fun i j hne hsame => ?_) turns, fun i p hp => ?_,
    fun before i c rest _ => (hkept.after before).isolated hsafe hids i c⟩
  · exact hids i j hne (by simpa using hsame)
  · obtain ⟨k, name, -, hlast, rfl⟩ := hkept.numbered hp
    rw [hstores i] at hlast
    change k < 1 + _ at hlast
    have hentry := isSafe_entryName k (isSafe_sanitize name)
    refine ⟨⟨k, name, by omega, .of_isSafe hentry, rfl⟩, .of_isSafe (isSafe_sanitize _), ?_⟩
    intro fs l hlocate
    rw [path_of_locate hlocate, place_concat _ (.of_isSafe hentry)]
    exact List.prefix_append _ _

namespace TwoChains

def tmp : Path := ["tmp"]

def ids : Bool → String
  | false => "a"
  | true => "b"

def opened₀ : Except OpenError TempStore × FileSystem :=
  openIn tmp {} (ids false)

def opened₁ : Except OpenError TempStore × FileSystem :=
  openIn tmp opened₀.2 (ids true)

/-- Two stores that were opened one after the other. -/
def start : Neighbours Bool where
  stores
    | false => { ledger := { directory := tmp ++ ["a"] } }
    | true => { ledger := { directory := tmp ++ ["b"] } }
  files := opened₁.2

/-- Names repeat, climb and look like numbered ones, and one store is drained while the other one
goes on. -/
def turns : List (Turn Bool) :=
  [.call false (.write "../b/0001-x" "one".toUTF8), .call true (.write "x" "two".toUTF8),
    .call true (.copyFrom "x" ["tmp", "a", "0001-_b_0001-x"]), .call false (.allocate ""),
    .call false .releaseAll, .call false (.write "x" "three".toUTF8)]

/-- Five paths are allocated, all of them different, and the files of the store that was not drained
are there. -/
theorem both_keep_to_their_directories :
    start.Opened tmp ids ∧ (∀ i j, i ≠ j → sanitize (ids i) ≠ sanitize (ids j)) ∧
      (start.allocated turns).length < 2 ^ 64 ∧
      ((start.allocated turns).map Prod.snd).Nodup ∧
      (∀ i p, (i, p) ∈ start.allocated turns → Confined tmp (ids i) p) ∧
      (start.after (turns.take 4)).Isolated (fun j => tmp ++ [sanitize (ids j)]) false
        .releaseAll ∧
      (start.allocated turns).map Prod.snd =
        [["tmp", "a", "0001-_b_0001-x"], ["tmp", "b", "0001-x"], ["tmp", "b", "0002-x"],
          ["tmp", "a", "0002-file"], ["tmp", "a", "0003-x"]] ∧
      (start.after turns).files.content? ["tmp", "b", "0001-x"] = some "two".toUTF8 ∧
      (start.after turns).files.content? ["tmp", "b", "0002-x"] = some "one".toUTF8 := by
  have hopened : start.Opened tmp ids := by
    rintro (_ | _)
    · exact ⟨{}, opened₀.2, Prod.ext (by decide +kernel) rfl⟩
    · exact ⟨opened₀.2, opened₁.2, Prod.ext (by decide +kernel) rfl⟩
  have hids : ∀ i j, i ≠ j → sanitize (ids i) ≠ sanitize (ids j) := by decide +kernel
  have hfew : (start.allocated turns).length < 2 ^ 64 := by decide +kernel
  obtain ⟨hnodup, hconfined, hisolated⟩ :=
    allocated_paths_are_fresh_and_confined hopened hids hfew
  refine ⟨hopened, hids, hfew, hnodup, hconfined, ?_, by decide +kernel, by decide +kernel,
    by decide +kernel⟩
  exact hisolated _ _ _ _ rfl

end TwoChains

end Neighbours

end ChatChain
