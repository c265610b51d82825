import ChatChain.Proofs.StoreRuns
import Mathlib.Data.List.Infix

/-!
# Files that outlive their store

A file that a store hands out is gone when the store and its ledger have been let go, with two
exceptions.  A file that is written after the drain stays: its path is released before anything is
written to it, and never again, and all it takes is that the directory is still there.  And a file
may stay whose path was entered before under another spelling, since it is released under that one.

There are three groups.

* Over a run.  `exists_lease_after` is the induction for what every operation keeps, and `Outlives`
  says that a file stays to the end.
* A path on the list.  `Doomed` is the invariant of a path that an undrained ledger lists, and
  `Doomed.not_outlives` that no file outlives it there.
* The files handed out.  `leftovers_are_late` says which ones stay.
-/

namespace ChatChain.TempStore

open Fallible FileSystem Ledger ChatChain.Path

variable {l : Lease} {fs : FileSystem} {op : Operation} {dir : Path}

/-! ## Over a run -/

/-- No operation moves a store to another directory, and none undoes a drain. -/
theorem Effect.settled {p? : Option Path} {l' : Lease} {fs' : FileSystem}
    (h : Effect l fs op p? l' fs') :
    l'.store.directory = l.store.directory ∧
      (l.store.ledger.drained = true → l'.store.ledger.drained = true) := by
  cases h with
  | elsewhere _ => exact ⟨rfl, id⟩
  | @entered p next _ _ _ =>
    refine ⟨directory_track _ _ _, fun hdrained => ?_⟩
    rw [entering, track_of_drained hdrained]
    exact hdrained
  | drained _ _ =>
    refine ⟨directory_drain _ _, fun hdrained => ?_⟩
    rw [drain_of_drained hdrained]
    exact hdrained
  | dropped _ hstore =>
    rw [hstore]
    exact ⟨rfl, id⟩

namespace Holding

variable {t : Holding} {m : Move} {moves : List Move} {p : Path}

/-- What every operation keeps of a store holds after moves. -/
theorem exists_lease_after {P : Lease → Prop}
    (hstep : ∀ {l fs op p? l' fs'}, Effect l fs op p? l' fs' → P l → P l')
    (h : t.lease? = some l) (hl : P l) (hmoves : ∀ m ∈ moves, m.opens = false) :
    ∃ l', (t.after moves).lease? = some l' ∧ P l' := by
  induction moves generalizing t l with
  | nil => exact ⟨l, h, hl⟩
  | cons m moves ih =>
    obtain ⟨hopens, hothers⟩ := List.forall_mem_cons.1 hmoves
    cases m with
    | perform op =>
      obtain ⟨l₁, h₁, heffect⟩ := perform_effect h hopens
      exact ih h₁ (hstep heffect hl) hothers
    | meddle change => exact ih h hl hothers

/-- Whether there is a file at a path all the time: now, after each of the moves, and when
everything has been let go. -/
structure Outlives (t : Holding) (p : Path) (moves : List Move) : Prop where
  always : ∀ done, done <+: moves → ∃ content, (t.after done).files.read p = .ok content
  behind : ∃ content, ((t.after moves).letGo (t.after moves).files).read p = .ok content

theorem Outlives.now (h : t.Outlives p moves) : ∃ content, t.files.read p = .ok content :=
  h.always [] List.nil_prefix

theorem Outlives.tail (h : t.Outlives p (m :: moves)) : (t.move m).Outlives p moves where
  always := fun done hdone => h.always (m :: done) (List.cons_prefix_cons.2 ⟨rfl, hdone⟩)
  behind := h.behind

/-- What letting go of a store does to the files. -/
theorem letGo_eq (h : t.lease? = some l) (fs : FileSystem) :
    t.letGo fs = if l.isHeld then l.store.ledger.abandon fs else fs := by
  obtain ⟨store, storeHeld, ledgerHeld⟩ := l
  cases storeHeld <;> cases ledgerHeld <;>
    simp [letGo, h, Lease.dropStore, Lease.dropLedger, Lease.settle, Lease.isHeld]

/-- Letting go of a drained ledger takes nothing away. -/
theorem outlives_of_drained (h : t.lease? = some l) (hdrained : l.store.ledger.drained = true)
    (hmoves : ∀ m ∈ moves, m.opens = false)
    (halways : ∀ done, done <+: moves → ∃ content, (t.after done).files.read p = .ok content) :
    t.Outlives p moves where
  always := halways
  behind := by
    obtain ⟨l', hlease', hdrained'⟩ := exists_lease_after
      (P := fun l => l.store.ledger.drained = true) (fun heffect => heffect.settled.2) h hdrained
      hmoves
    rw [letGo_eq hlease', abandon_of_drained hdrained', ite_self]
    exact halways moves (List.prefix_refl moves)

/-! ## A path on the list -/

/-- Whether an undrained ledger lists a path. -/
structure Doomed (t : Holding) (p : Path) (l : Lease) : Prop where
  lease : t.lease? = some l
  held : l.isHeld = true
  undrained : l.store.ledger.drained = false
  listed : p ∈ l.store.ledger.paths

/-- A path stays on the list until nothing can be read there. -/
theorem Doomed.perform (h : t.Doomed p l) (hop : op.opens = false) :
    (∃ l', (t.perform op).2.Doomed p l') ∨
      ∀ content, (t.perform op).2.files.read p ≠ .ok content := by
  obtain ⟨l', hlease, heffect⟩ := perform_effect h.lease hop
  generalize t.entered? op = p?, hfiles : (t.perform op).2.files = files at heffect
  cases heffect with
  | elsewhere _ => exact Or.inl ⟨_, { h with lease := hlease }⟩
  | @entered q next _ _ _ =>
    obtain ⟨hundrained, hlisted⟩ := mem_paths_track h.undrained t.files q h.listed
    exact Or.inl ⟨_, hlease, h.held, hundrained, hlisted⟩
  | drained _ _ =>
    rw [drain_of_undrained h.undrained]
    exact Or.inr (read_release_ne_ok _ _ h.listed)
  | dropped _ hstore =>
    cases hheld : l'.isHeld with
    | true => exact Or.inl ⟨l', hlease, hheld, hstore ▸ h.undrained, hstore ▸ h.listed⟩
    | false =>
      simp only [h.held, Bool.not_false, Bool.and_self, if_true, abandon_of_undrained h.undrained]
      exact Or.inr (read_release_ne_ok _ _ h.listed)

theorem Doomed.move (h : t.Doomed p l) (hm : m.opens = false) :
    (∃ l', (t.move m).Doomed p l') ∨ ∀ content, (t.move m).files.read p ≠ .ok content := by
  cases m with
  | perform op => exact h.perform hm
  | meddle change => exact Or.inl ⟨l, { h with }⟩

/-- No file outlives an undrained ledger at a path on the list. -/
theorem Doomed.not_outlives (h : t.Doomed p l) (hmoves : ∀ m ∈ moves, m.opens = false) :
    ¬t.Outlives p moves := by
  intro hout
  induction moves generalizing t l with
  | nil =>
    obtain ⟨content, hread⟩ := hout.behind
    rw [after_nil, letGo_eq h.lease, if_pos h.held] at hread
    rw [abandon_of_undrained h.undrained] at hread
    exact read_release_ne_ok _ _ h.listed content hread
  | cons m moves ih =>
    obtain ⟨hopens, hothers⟩ := List.forall_mem_cons.1 hmoves
    -- Either the path stays on the list, or it is released right now.
    rcases h.move hopens with ⟨l', h'⟩ | hgone
    · exact ih h' hothers hout.tail
    · obtain ⟨content, hread⟩ := hout.tail.now
      exact hgone content hread

/-! ## The files handed out -/

/-- A file that was handed out before the drain stays only if its path was entered under another
spelling.  One that was handed out after the drain stays unless it is removed before everything is
let go, and that the directory was still there is all it took. -/
theorem leftovers_are_late {t : Holding} {dir : Path} (hopened : t.Opened dir)
    {before rest : List Move} {op : Operation} (hbefore : ∀ m ∈ before, m.opens = false)
    (hrest : ∀ m ∈ rest, m.opens = false) (hop : op.writes = true) {h : FileHandle}
    (hanswer : ((t.after before).perform op).1 = .handle h) :
    ∃ l, (t.after before).lease? = some l ∧
      (l.store.ledger.drained = false → ((t.after before).perform op).2.Outlives h.path rest →
        ∃ p ∈ l.store.ledger.paths, p ≠ h.path ∧ Path.normal p = Path.normal h.path) ∧
      (l.store.ledger.drained = true →
        (t.after before).files.stat dir = .ok .directory ∧
        (((t.after before).perform op).2.Outlives h.path rest ↔
          ∀ done, done <+: rest → ∃ content,
            (((t.after before).perform op).2.after done).files.read h.path = .ok content)) := by
  obtain ⟨hlease₀, root, last, _, hlast, hdir, hcheck, -⟩ := hopened.spec
  obtain ⟨l, hlease, hdirectory⟩ := exists_lease_after (P := fun l => l.store.directory = dir)
    (fun heffect hl => heffect.settled.1.trans hl) hlease₀ rfl hbefore
  obtain ⟨hheld, hentered, ⟨name, hpath⟩, content, hwrite⟩ := perform_eq_handle hlease hop hanswer
  obtain ⟨l₁, hlease₁, heffect⟩ := perform_writes_effect hlease hop
  obtain ⟨entry, hentry, hnext⟩ := nextPath_named l.store name
  rw [hpath, hnext, hdirectory] at hwrite
  obtain ⟨⟨here, hleads⟩, hread⟩ := read_of_write hentry hwrite
  rw [← hdirectory, ← hnext, ← hpath] at hread
  refine ⟨l, hlease, fun hundrained hout => ?_, fun hdrained => ⟨?_, ?_, ?_⟩⟩
  · -- The path is on the list from now on, unless another spelling of it keeps it off.
    rw [hentered] at heffect
    cases heffect with
    | entered _ _ =>
      obtain ⟨hundrained₁, hlisted | hother⟩ :=
        mem_paths_track_self hundrained (t.after before).files h.path
      · have hdoomed : ((t.after before).perform op).2.Doomed h.path _ :=
          ⟨hlease₁, by simp [Lease.isHeld, hheld], hundrained₁, hlisted⟩
        exact absurd hout (hdoomed.not_outlives hrest)
      · exact hother
  · -- Entering the path only removed something, so the directory was there before.
    rw [track_of_drained hdrained] at hleads
    have hleads := hleads.of_keeps (releaseFile_spec _ _).1.directories
    rw [hdir] at hcheck hleads ⊢
    exact stat_of_leads hlast hcheck hleads
  · exact fun hout => hout.always
  · exact fun halways =>
      outlives_of_drained hlease₁ (heffect.settled.2 hdrained) hrest halways

namespace Late

/-- A drain that leaves the directory, since there is something else in it. -/
def before : List Move :=
  [.perform (.touch "stray"), .perform .drain]

/-- A write that comes too late. -/
def lateWrite : Operation :=
  .write "a.txt" "late".toUTF8

/-- Both holders are let go. -/
def rest : List Move :=
  [.perform .dropStore, .perform .dropLedger]

/-- A file that is written after the drain is left behind by all holders. -/
theorem late_file_outlives :
    opened.Opened ["tmp", "c"] ∧ (∀ m ∈ before, m.opens = false) ∧ lateWrite.writes = true ∧
      ((opened.after before).perform lateWrite).1 =
        .handle { path := ["tmp", "c", "0001-a.txt"], name := "a.txt" } ∧
      ((opened.after before).perform lateWrite).2.Outlives ["tmp", "c", "0001-a.txt"] rest := by
  have hopened := opened_opened
  have hanswer : ((opened.after before).perform lateWrite).1 =
      .handle { path := ["tmp", "c", "0001-a.txt"], name := "a.txt" } := by decide +kernel
  have hdrained : (opened.after before).lease?.map (fun l => l.store.ledger.drained) =
      some true := by decide +kernel
  have halways : ∀ done ∈ rest.inits,
      (((opened.after before).perform lateWrite).2.after done).files.read
        ["tmp", "c", "0001-a.txt"] = .ok "late".toUTF8 := by decide +kernel
  have hbefore : ∀ m ∈ before, m.opens = false := by decide
  have hrest : ∀ m ∈ rest, m.opens = false := by decide
  obtain ⟨l, hlease, -, hlate⟩ := leftovers_are_late hopened hbefore hrest rfl hanswer
  rw [hlease] at hdrained
  obtain ⟨-, houtlives⟩ := hlate (Option.some.inj hdrained)
  exact ⟨hopened, hbefore, rfl, hanswer,
    houtlives.2 fun done hdone => ⟨_, halways done ((List.mem_inits done rest).2 hdone)⟩⟩

/-- No one holds the store or its ledger any more, and the file is still there. -/
theorem late_file_is_left :
    ((opened.after before).files.read ["tmp", "c", "0001-a.txt"]).isOk = false ∧
      (opened.after (before ++ .perform lateWrite :: rest)).lease?.map Lease.isHeld = some false ∧
      (opened.after (before ++ .perform lateWrite :: rest)).files.read
        ["tmp", "c", "0001-a.txt"] = .ok "late".toUTF8 := by
  decide +kernel

end Late

end Holding

end ChatChain.TempStore
