import ChatChain.Proofs.StoreRuns

/-!
# The ledger of a store over a run

Files come and go in the directory of a store while its ledger grows, and then the ledger is drained
once.  This module says what the ledger lists at any time before, and what the drain counts and
leaves.

There are four groups.

* A ledger.  `Ledger.Lists` is the invariant: the paths of the ledger are those that were entered,
  each once.
* One move.  `Tended` adds that the store is held and that its directory is there, and `Tended.move`
  that an ordinary move keeps that.
* A drain.  `Accounts` lists what it answers and what it leaves behind, and `Spent.drain` says that
  a later one does nothing.
* The run.  `drain_accounts_for_entered` puts them together.
-/

namespace ChatChain

open Fallible FileSystem Ledger ChatChain.Path

variable {fs : FileSystem} {dir here : Path} {seen : List Path}

/-! ## A ledger -/

namespace Ledger

/-- Whether an undrained ledger lists the paths that were entered, all of them names in its
directory. -/
structure Lists (l : Ledger) (dir : Path) (seen : List Path) : Prop where
  directory : l.directory = dir
  undrained : l.drained = false
  mem_iff : ∀ p, p ∈ l.paths ↔ p ∈ seen
  nodup : l.paths.Nodup
  named : ∀ p ∈ l.paths, ∃ name, IsName name ∧ p = dir ++ [name]

namespace Lists

variable {l : Ledger} {name : String}

/-- The ledger lists every path once. -/
theorem perm (h : l.Lists dir seen) : l.paths.Perm seen.dedup :=
  (List.perm_ext_iff_of_nodup h.nodup (List.nodup_dedup seen)).2 fun p => by
    rw [h.mem_iff p, List.mem_dedup]

/-- Names in the directory are told apart. -/
theorem lists_iff (h : l.Lists dir seen) (hname : IsName name) :
    l.lists (dir ++ [name]) = true ↔ dir ++ [name] ∈ l.paths := by
  unfold lists
  rw [List.any_eq_true]
  constructor
  · rintro ⟨p, hp, hsame⟩
    obtain ⟨other, hother, rfl⟩ := h.named p hp
    rw [beq_iff_eq, normal_concat dir hother, normal_concat dir hname, List.append_cancel_left_eq]
      at hsame
    rwa [hsame] at hp
  · exact fun hp => ⟨_, hp, beq_self_eq_true _⟩

/-- Entering a name keeps the files, and the ledger lists the path as well. -/
theorem track (h : l.Lists dir seen) (fs : FileSystem) (hname : IsName name) :
    (l.track fs (dir ++ [name])).2.1.Lists dir (seen ++ [dir ++ [name]]) ∧
      (l.track fs (dir ++ [name])).2.2 = fs := by
  cases hlists : l.lists (dir ++ [name]) with
  | true =>
    have hold := (h.mem_iff _).1 ((h.lists_iff hname).1 hlists)
    rw [track_of_lists h.undrained hlists]
    refine ⟨{ h with mem_iff := fun p => ?_ }, rfl⟩
    rw [h.mem_iff p, List.mem_append, List.mem_singleton]
    exact ⟨Or.inl, fun hp => hp.elim id fun hp => hp ▸ hold⟩
  | false =>
    have hnew : dir ++ [name] ∉ l.paths := fun hp => by
      rw [(h.lists_iff hname).2 hp] at hlists
      exact absurd hlists (by decide)
    rw [track_of_new h.undrained hlists]
    refine ⟨{ h with mem_iff := fun p => ?_, nodup := ?_, named := fun p hp => ?_ }, rfl⟩
    · rw [List.mem_append, List.mem_append, h.mem_iff p]
    · rw [← List.concat_eq_append]
      exact h.nodup.concat hnew
    · rcases List.mem_append.1 hp with hp | hp
      · exact h.named p hp
      · exact ⟨name, hname, List.mem_singleton.1 hp⟩

end Lists

/-- A release balances when nothing failed. -/
theorem isBalanced_release_iff {l : Ledger} {fs : FileSystem} :
    (l.release fs).2.isBalanced = true ↔ (l.release fs).2.failed = 0 := by
  unfold Cleanup.isBalanced release
  simp only [Bool.and_eq_true, beq_iff_eq, and_iff_left_iff_imp]
  intro hnone
  rw [hnone, Nat.sub_zero]

end Ledger

/-! ## One move -/

namespace TempStore

/-- Whether an operation is one of a single undrained store: it opens no other one and does not let
go of this one, and what it enters in the ledger is a name in the directory. -/
def Operation.IsOrdinary : Operation → Prop
  | .openStore _ | .release | .drain | .dropStore | .dropLedger => False
  | .track place => IsName place
  | _ => True

instance : DecidablePred Operation.IsOrdinary
  | .openStore _ | .release | .drain | .dropStore | .dropLedger => inferInstanceAs (Decidable False)
  | .track place => inferInstanceAs (Decidable (IsName place))
  | .allocate _ | .write .. | .copyFrom .. | .read _ | .size _ | .touch _ | .remove _
  | .makeDirectory _ => inferInstanceAs (Decidable True)

theorem Operation.IsOrdinary.opens {op : Operation} (h : op.IsOrdinary) : op.opens = false := by
  cases op with
  | openStore => exact h.elim
  | _ => rfl

theorem Operation.IsOrdinary.drains {op : Operation} (h : op.IsOrdinary) : op.drains = false := by
  cases op with
  | release | drain => exact h.elim
  | _ => rfl

theorem Operation.IsOrdinary.drops {op : Operation} (h : op.IsOrdinary) : op.drops = false := by
  cases op with
  | dropStore | dropLedger => exact h.elim
  | _ => rfl

/-- Whether a move is one around a single undrained store: an ordinary operation, or a change to the
files that loses no directory. -/
def Move.IsOrdinary : Move → Prop
  | .perform op => op.IsOrdinary
  | .meddle change => ∀ fs, KeepsDirectories fs (change fs)

namespace Holding

variable {t : Holding} {l : Lease} {op : Operation}

/-- Whether a store is held whose directory is there and whose ledger lists what was entered. -/
structure Tended (t : Holding) (dir here : Path) (seen : List Path) (l : Lease) : Prop where
  lease : t.lease? = some l
  storeHeld : l.storeHeld = true
  ledgerHeld : l.ledgerHeld = true
  lists : l.store.ledger.Lists dir seen
  leads : t.files.Leads dir here

/-- An ordinary operation enters names in the directory of the store. -/
theorem entered?_named (h : t.lease? = some l) (hop : op.IsOrdinary) {p : Path}
    (hp : t.entered? op = some p) : ∃ name, IsName name ∧ p = l.store.directory ++ [name] := by
  have hheld : ∀ {l'}, t.held? = some l' → l' = l := by
    intro l' hl'
    exact (Option.some.inj (h.symm.trans (Option.filter_eq_some_iff.1 hl').1)).symm
  cases op with
  | allocate name | write name content =>
    obtain ⟨l', hl', rfl⟩ := Option.map_eq_some_iff.1 hp
    rw [hheld hl']
    exact nextPath_named l.store name
  | copyFrom name handle? =>
    cases handle? with
    | none =>
      obtain ⟨l', hl', rfl⟩ := Option.map_eq_some_iff.1 hp
      rw [hheld hl']
      exact nextPath_named l.store name
    | some handle =>
      obtain ⟨l', hl', hp⟩ := Option.bind_eq_some_iff.1 hp
      obtain ⟨_, -, rfl⟩ := Option.map_eq_some_iff.1 hp
      rw [hheld hl']
      exact nextPath_named l.store name
  | track place =>
    obtain ⟨l', hl', rfl⟩ := Option.map_eq_some_iff.1 hp
    obtain rfl := Option.some.inj (h.symm.trans (Option.filter_eq_some_iff.1 hl').1)
    exact ⟨place, hop, join_name _ hop⟩
  | _ => exact absurd hp (by simp [entered?])

/-- An ordinary operation keeps a store as it should be. -/
theorem Tended.perform (h : t.Tended dir here seen l) (hop : op.IsOrdinary) :
    ∃ l', (t.perform op).2.Tended dir here (seen ++ (t.entered? op).toList) l' := by
  obtain ⟨l', hlease, heffect⟩ := perform_effect h.lease hop.opens
  generalize hp : t.entered? op = p?, hfiles : (t.perform op).2.files = files at heffect
  refine ⟨l', ?_⟩
  cases heffect with
  | elsewhere hkeeps =>
    rw [Option.toList_none, List.append_nil]
    exact { h with lease := hlease, leads := hfiles ▸ h.leads.of_keeps hkeeps }
  | entered _ hwrites =>
    obtain ⟨name, hname, rfl⟩ := entered?_named h.lease hop hp
    rw [show l.store.directory = dir from h.lists.directory] at *
    obtain ⟨hlists, hsame⟩ := h.lists.track t.files hname
    rw [hsame] at hwrites
    exact {
      lease := hlease
      storeHeld := h.storeHeld
      ledgerHeld := h.ledgerHeld
      lists := hlists
      leads := hfiles ▸ h.leads.of_keeps hwrites.keeps }
  | drained hdrains _ => exact absurd (hop.drains.symm.trans hdrains) (by decide)
  | dropped hdrops _ => exact absurd (hop.drops.symm.trans hdrops) (by decide)

/-- An ordinary move keeps a store as it should be. -/
theorem Tended.move (h : t.Tended dir here seen l) {m : Move} (hm : m.IsOrdinary) :
    ∃ l', (t.move m).Tended dir here (seen ++ (t.enters? m).toList) l' := by
  cases m with
  | perform op => exact h.perform hm
  | meddle change =>
    rw [enters?, Option.toList_none, List.append_nil]
    exact ⟨l, { h with leads := h.leads.of_keeps (hm t.files) }⟩

/-- Ordinary moves keep a store as it should be. -/
theorem Tended.after (h : t.Tended dir here seen l) {moves : List Move}
    (hmoves : ∀ m ∈ moves, m.IsOrdinary) :
    ∃ l', (t.after moves).Tended dir here (seen ++ t.entered moves) l' := by
  induction moves generalizing t seen l with
  | nil => exact ⟨l, by simpa [entered] using h⟩
  | cons m moves ih =>
    obtain ⟨l₁, h₁⟩ := h.move (hmoves m List.mem_cons_self)
    obtain ⟨l₂, h₂⟩ := ih h₁ fun m' hm' => hmoves m' (List.mem_cons_of_mem _ hm')
    rw [List.append_assoc] at h₂
    exact ⟨l₂, h₂⟩

/-- What a write changes is where a path leads that it enters. -/
theorem Tended.written (h : t.Tended dir here seen l) (hop : op.writes = true) {q : Path}
    (hq : (t.perform op).2.files.node? q ≠ t.files.node? q) :
    ∃ p, t.entered? op = some p ∧ ∃ place, t.files.locate [] p = .ok place ∧ place.path = q := by
  rcases perform_writes h.lease hop with ⟨-, hsame, -⟩ | ⟨-, name, content, hentered, hperform⟩
  · exact absurd (by rw [hsame]) hq
  · obtain ⟨-, hwrites⟩ := copyIn_writesAt l.store t.files name content
    obtain ⟨-, hfiles⟩ := handOut_snd (t := t) (l := l) (l.store.copyIn t.files name content)
    obtain ⟨entry, hentry, hpath⟩ := nextPath_named l.store name
    rw [hperform, hfiles] at hq
    have hkept : (l.store.ledger.track t.files (l.store.nextPath name)).2.2 = t.files := by
      rw [hpath, show l.store.directory = dir from h.lists.directory]
      exact (h.lists.track t.files hentry).2
    rw [hkept] at hwrites
    refine ⟨_, hentered, ?_⟩
    rcases hwrites with hsame | ⟨bytes, hwrite⟩
    · exact absurd (by rw [hsame]) hq
    · obtain ⟨place, hlocate, hothers⟩ := node?_write hwrite
      exact ⟨place, hlocate, (Decidable.not_not.1 fun hne => hq (hothers q (Ne.symm hne)))⟩

/-! ## A drain -/

/-- What a drain does to a held store. -/
theorem perform_drains (h : t.lease? = some l) (hstore : l.storeHeld = true)
    (hledger : l.ledgerHeld = true) (hop : op.drains = true) :
    t.perform op = (.counts (l.store.ledger.drain t.files).1,
      t.update l { l.store with ledger := (l.store.ledger.drain t.files).2.1 }
        (l.store.ledger.drain t.files).2.2) := by
  cases op with
  | release => simp [perform, withStore, held?_eq h, hstore, TempStore.releaseAll]
  | drain => simp [perform, heldLedger?_eq h, hledger]
  | _ => exact absurd hop (by simp [Operation.drains])

/-- Whether a store is held whose ledger was drained. -/
structure Spent (t : Holding) (l : Lease) : Prop where
  lease : t.lease? = some l
  storeHeld : l.storeHeld = true
  ledgerHeld : l.ledgerHeld = true
  drained : l.store.ledger.drained = true
  paths : l.store.ledger.paths = []

theorem Spent.of_ledger_eq (h : t.Spent l) {t' : Holding} {l' : Lease}
    (hlease : t'.lease? = some l') (hstore : l'.storeHeld = l.storeHeld)
    (hledger : l'.ledgerHeld = l.ledgerHeld) (hsame : l'.store.ledger = l.store.ledger) :
    t'.Spent l' where
  lease := hlease
  storeHeld := hstore.trans h.storeHeld
  ledgerHeld := hledger.trans h.ledgerHeld
  drained := hsame ▸ h.drained
  paths := hsame ▸ h.paths

/-- Nothing is entered any more after a drain. -/
theorem Spent.perform (h : t.Spent l) (hopens : op.opens = false) (hdrops : op.drops = false) :
    ∃ l', (t.perform op).2.Spent l' := by
  obtain ⟨l', hlease, heffect⟩ := perform_effect h.lease hopens
  generalize t.entered? op = p?, (t.perform op).2.files = files at heffect
  refine ⟨l', ?_⟩
  cases heffect with
  | elsewhere _ => exact { h with lease := hlease }
  | entered _ _ =>
    exact h.of_ledger_eq hlease rfl rfl (by rw [entering, track_of_drained h.drained])
  | drained _ _ => exact h.of_ledger_eq hlease rfl rfl (by rw [drain_of_drained h.drained])
  | dropped hop _ => exact absurd (hdrops.symm.trans hop) (by decide)

theorem Spent.move (h : t.Spent l) {m : Move} (hopens : m.opens = false)
    (hdrops : m.drops = false) : ∃ l', (t.move m).Spent l' := by
  cases m with
  | perform op => exact h.perform hopens hdrops
  | meddle change => exact ⟨l, { h with }⟩

theorem Spent.after (h : t.Spent l) {moves : List Move}
    (hmoves : ∀ m ∈ moves, m.opens = false ∧ m.drops = false) :
    ∃ l', (t.after moves).Spent l' := by
  induction moves generalizing t l with
  | nil => exact ⟨l, h⟩
  | cons m moves ih =>
    obtain ⟨hopens, hdrops⟩ := hmoves m List.mem_cons_self
    obtain ⟨l', h'⟩ := h.move hopens hdrops
    exact ih h' fun m' hm' => hmoves m' (List.mem_cons_of_mem _ hm')

/-- A later drain counts nothing and changes nothing. -/
theorem Spent.drain (h : t.Spent l) (hop : op.drains = true) : t.perform op = (.counts {}, t) := by
  rw [perform_drains h.lease h.storeHeld h.ledgerHeld hop]
  simp only [drain_of_drained h.drained, update, ← h.lease]

/-- Where removal reports what is missing, it fails for the paths with a directory alone. -/
theorem releaseFile_snd_eq {p : Path}
    (hmissing : fs.Missing p → fs.removeFile p = .error .notFound) :
    (releaseFile fs p).2 = !decide (fs.stat p = .ok .directory) := by
  rw [Bool.eq_iff_iff, releaseFile_snd_iff]
  cases hstat : fs.stat p with
  | error e =>
    have hnotFound := hmissing (missing_iff.2 ⟨e, hstat⟩)
    rw [removeFile_of_stat_error hstat] at hnotFound
    simpa using hnotFound
  | ok node => cases node <;> simp

/-- What a drain answers and what it leaves behind, where the ledger of a directory lists paths. -/
structure Accounts (dir : Path) (paths : List Path) (t : Holding) (answer : Answer)
    (t' : Holding) : Prop where
  /-- The paths with a directory are the failures, and only they upset the balance. -/
  counts : ∃ c : Cleanup, answer = .counts c ∧ c.created = paths.length ∧
    c.failed = paths.countP (fun p => t.files.stat p = .ok .directory) ∧
    c.released = c.created - c.failed ∧ (c.isBalanced = true ↔ c.failed = 0)
  gone : ∀ p ∈ paths, ∀ content, t'.files.read p ≠ .ok content
  /-- The directory goes when it held nothing else, and stays otherwise. -/
  directory : HoldsOnly t.files dir paths ∧ t'.files.Missing dir ∨
    ¬HoldsOnly t.files dir paths ∧ t'.files.stat dir = .ok .directory
  /-- Whatever happens, nothing is entered any more, and no later drain does anything. -/
  later : ∀ rest : List Move, (∀ m ∈ rest, m.opens = false ∧ m.drops = false) →
    (∃ l, (t'.after rest).lease? = some l ∧ l.store.ledger.paths = []) ∧
    ∀ again, again.drains = true → (t'.after rest).perform again = (.counts {}, t'.after rest)

/-- The first drain of a store releases what its ledger lists. -/
theorem Tended.perform_drains (h : t.Tended dir here seen l) (hop : op.drains = true) :
    (t.perform op).1 = .counts (l.store.ledger.release t.files).2 ∧
      (t.perform op).2.files = (l.store.ledger.release t.files).1 ∧
      ∃ l', (t.perform op).2.Spent l' := by
  rw [Holding.perform_drains h.lease h.storeHeld h.ledgerHeld hop,
    drain_of_undrained h.lists.undrained]
  exact ⟨rfl, rfl, _, {
    lease := rfl
    storeHeld := h.storeHeld
    ledgerHeld := h.ledgerHeld
    drained := rfl
    paths := rfl }⟩

/-- What a drain counts and leaves of a store that is as it should be. -/
theorem Tended.accounts (h : t.Tended dir here seen l) {root : Path} {name : String}
    (hname : IsName name) (hdir : dir = root ++ [name]) (hcheck : Path.check dir = .ok ())
    (hmissing : ∀ p ∈ seen, t.files.Missing p → t.files.removeFile p = .error .notFound)
    (hop : op.drains = true) :
    Accounts dir seen.dedup t (t.perform op).1 (t.perform op).2 := by
  have hmem : ∀ p, p ∈ l.store.ledger.paths ↔ p ∈ seen.dedup := fun p => by
    rw [h.lists.mem_iff p, List.mem_dedup]
  have hfailed : (l.store.ledger.release t.files).2.failed =
      seen.dedup.countP fun p => t.files.stat p = .ok .directory := by
    rw [← h.lists.perm.countP_eq]
    refine (countP_releaseFiles h.leads h.lists.named h.lists.nodup).trans ?_
    refine List.countP_congr fun p hp => ?_
    rw [releaseFile_snd_eq (hmissing p ((h.lists.mem_iff p).1 hp)), Bool.not_not]
  have hdirectory := h.lists.directory
  obtain ⟨hanswer, hfiles, l', hspent⟩ := h.perform_drains hop
  refine {
    counts := ⟨_, hanswer, h.lists.perm.length_eq, hfailed, rfl, isBalanced_release_iff⟩
    gone := fun p hp => ?_
    directory := ?_
    later := fun rest hrest => ?_ }
  · rw [hfiles]
    exact read_release_ne_ok _ _ ((hmem p).2 hp)
  · have hholds : HoldsOnly t.files dir seen.dedup ↔
        HoldsOnly t.files dir l.store.ledger.paths := by
      simp only [HoldsOnly, hmem]
    rw [hfiles, hholds]
    subst hdirectory
    exact release_directory hname hdir hcheck h.leads h.lists.named
  · obtain ⟨l'', h''⟩ := hspent.after hrest
    exact ⟨⟨l'', h''.lease, h''.paths⟩, fun again hagain => h''.drain hagain⟩

/-! ## The run -/

/-- What a ledger has on record after moves. -/
structure Records (t : Holding) (moves : List Move) (l : Lease) : Prop where
  lease : (t.after moves).lease? = some l
  /-- The count is that of the different paths that were entered. -/
  count : l.store.ledger.paths.length = (t.entered moves).dedup.length
  mem_iff : ∀ p, p ∈ l.store.ledger.paths ↔ p ∈ t.entered moves
  /-- Whatever a write changed is where a path on record leads, whether the write failed or not. -/
  written : ∀ before op rest, moves = before ++ .perform op :: rest → op.writes = true → ∀ q,
    ((t.after before).perform op).2.files.node? q ≠ (t.after before).files.node? q →
    ∃ p ∈ l.store.ledger.paths, ∃ place,
      (t.after before).files.locate [] p = .ok place ∧ place.path = q
  /-- A file that a write handed out is at a path on record. -/
  handed : ∀ before op rest handle, moves = before ++ .perform op :: rest → op.writes = true →
    ((t.after before).perform op).1 = .handle handle → handle.path ∈ l.store.ledger.paths

/-- A store that was opened is as it should be. -/
theorem Opened.tended (h : t.Opened dir) : ∃ here l, t.Tended dir here [] l := by
  obtain ⟨hlease, _, _, here, -, -, -, hleads⟩ := h.spec
  exact ⟨here, _, hlease, rfl, rfl, ⟨rfl, rfl, by simp, by simp, by simp⟩, hleads⟩

/-- The ledger of a store records what was entered since the store was opened. -/
theorem Opened.records (h : t.Opened dir) {moves : List Move}
    (hmoves : ∀ m ∈ moves, m.IsOrdinary) : ∃ l, Records t moves l := by
  obtain ⟨here, l₀, h₀⟩ := h.tended
  obtain ⟨l, hl⟩ := h₀.after hmoves
  -- What an operation among them entered is on record at the end.
  have hkept : ∀ before op rest p, moves = before ++ .perform op :: rest →
      (t.after before).entered? op = some p → p ∈ l.store.ledger.paths := by
    intro before op rest p heq hp
    rw [hl.lists.mem_iff p, List.nil_append, heq, entered_append]
    simp [entered, enters?, hp]
  have hbefore : ∀ before op rest, moves = before ++ .perform op :: rest →
      ∃ l₁, (t.after before).Tended dir here ([] ++ t.entered before) l₁ := by
    intro before op rest heq
    exact h₀.after fun m hm => hmoves m (heq ▸ List.mem_append_left _ hm)
  refine ⟨l, {
    lease := hl.lease
    count := hl.lists.perm.length_eq
    mem_iff := hl.lists.mem_iff
    written := fun before op rest heq hop q hq => ?_
    handed := fun before op rest handle heq hop hanswer => ?_ }⟩
  · obtain ⟨l₁, h₁⟩ := hbefore before op rest heq
    obtain ⟨p, hp, hplace⟩ := h₁.written hop hq
    exact ⟨p, hkept before op rest p heq hp, hplace⟩
  · obtain ⟨l₁, h₁⟩ := hbefore before op rest heq
    obtain ⟨-, hp, -⟩ := perform_eq_handle h₁.lease hop hanswer
    exact hkept before op rest handle.path heq hp

/-- A store that was opened records in its ledger every path that ordinary moves enter, once, and
whatever they write is at one of these paths.  The drain accounts for all of them and leaves nothing
of them but directories, if the file system reports what is missing. -/
theorem drain_accounts_for_entered {t : Holding} {dir : Path} (hopened : t.Opened dir)
    {moves : List Move} (hmoves : ∀ m ∈ moves, m.IsOrdinary) :
    (∃ l, Records t moves l) ∧
      ((∀ p ∈ t.entered moves, (t.after moves).files.Missing p →
          (t.after moves).files.removeFile p = .error .notFound) →
        ∀ op, op.drains = true →
          Accounts dir (t.entered moves).dedup (t.after moves) ((t.after moves).perform op).1
            ((t.after moves).perform op).2) := by
  refine ⟨hopened.records hmoves, fun hmissing op hop => ?_⟩
  obtain ⟨-, root, name, -, hname, hdir, hcheck, -⟩ := hopened.spec
  obtain ⟨here, _, h₀⟩ := hopened.tended
  obtain ⟨_, h⟩ := h₀.after hmoves
  exact h.accounts hname hdir hcheck hmissing hop

namespace Cluttered

/-- Somebody removes the file at a path, if there is one. -/
def clear (p : Path) (fs : FileSystem) : FileSystem :=
  (fs.removeFile p).toOption.getD fs

/-- Somebody puts a directory in place of the file at a path. -/
def occupy (p : Path) (fs : FileSystem) : FileSystem :=
  ((clear p fs).makeDirectories p).2

theorem clear_keeps (p : Path) (fs : FileSystem) : KeepsDirectories fs (clear p fs) := by
  unfold clear
  cases hremove : fs.removeFile p with
  | error e => exact .refl fs
  | ok fs' => exact removeFile_keeps hremove

theorem occupy_keeps (p : Path) (fs : FileSystem) : KeepsDirectories fs (occupy p fs) :=
  (clear_keeps p fs).trans (makeDirectories_keeps _ _)

/-- One write fails, one place is entered twice, a file disappears, and a directory takes the place
of another one. -/
def moves : List Move :=
  [.perform (.write "a" "one".toUTF8), .perform (.write "b" "two".toUTF8),
    .perform (.copyFrom "c" none), .perform (.track "note"), .perform (.track "note"),
    .perform (.touch "note"), .meddle (clear ["tmp", "c", "0001-a"]),
    .meddle (occupy ["tmp", "c", "note"])]

theorem isOrdinary_moves : ∀ m ∈ moves, m.IsOrdinary := by
  have hnote : (Operation.track "note").IsOrdinary := by decide
  simp only [moves, List.forall_mem_cons, List.not_mem_nil, false_imp_iff, implies_true, and_true]
  exact ⟨trivial, trivial, trivial, hnote, hnote, trivial, clear_keeps _, occupy_keeps _⟩

/-- Four paths are accounted for, and the one with the directory is the failure. -/
theorem drain_accounts_for_four :
    opened.Opened ["tmp", "c"] ∧ (∀ m ∈ moves, m.IsOrdinary) ∧
      (∃ l, Records opened moves l) ∧
      Accounts ["tmp", "c"] (opened.entered moves).dedup (opened.after moves)
        ((opened.after moves).perform .drain).1 ((opened.after moves).perform .drain).2 ∧
      ((opened.after moves).perform .drain).1 =
        .counts { created := 4, released := 3, failed := 1 } := by
  have hopened := opened_opened
  have hmissing : ∀ p ∈ opened.entered moves, (opened.after moves).files.Missing p →
      (opened.after moves).files.stat p = .error .notFound := by decide +kernel
  obtain ⟨hrecords, haccounts⟩ := drain_accounts_for_entered hopened isOrdinary_moves
  refine ⟨hopened, isOrdinary_moves, hrecords, ?_, by decide +kernel⟩
  exact haccounts (fun p hp hnone => removeFile_of_stat_error (hmissing p hp hnone)) .drain rfl

end Cluttered

end Holding

end TempStore

end ChatChain
