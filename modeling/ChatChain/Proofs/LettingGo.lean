import ChatChain.Proofs.Leftovers

/-!
# Letting go of a store

A store and its ledger have a holder each.  Who lets go while the other one stays leaves everything
as it is, and the last one leaves behind what a drain would have left.  Either way the ledger is
settled then, and a settled ledger releases nothing any more.

There are three groups.

* Holders.  `Holder` names the two of them, with the operation by which each one lets go and the one
  by which it drains.  `perform_drop` and `files_perform_drain` say what these do.
* Settled ledgers.  `Settled` says that a ledger was drained or that nobody holds it any more, and
  `Settled.after` that this stays so.  `nodup_normal_track` keeps the paths on the list apart.
* The result.  `LetsGo` is what letting go of one holder does, and `letting_go_agrees_with_draining`
  says it of every run.
-/

namespace ChatChain

/-! ## Holders -/

namespace TempStore

open FileSystem Ledger

/-- The two who hold a ledger: one through the store, and one by itself. -/
inductive Holder where
  | ofStore
  | ofLedger
  deriving DecidableEq

namespace Holder

def other : Holder → Holder
  | ofStore => ofLedger
  | ofLedger => ofStore

/-- Whether the holder is still there. -/
def holds : Holder → Lease → Bool
  | ofStore, l => l.storeHeld
  | ofLedger, l => l.ledgerHeld

/-- The lease after the holder has gone. -/
def without : Holder → Lease → Lease
  | ofStore, l => { l with storeHeld := false }
  | ofLedger, l => { l with ledgerHeld := false }

/-- The operation by which the holder lets go. -/
def drop : Holder → Operation
  | ofStore => .dropStore
  | ofLedger => .dropLedger

/-- The operation by which the holder drains the ledger. -/
def drain : Holder → Operation
  | ofStore => .release
  | ofLedger => .drain

variable {x : Holder} {l : Lease}

@[simp] theorem store_without (x : Holder) (l : Lease) : (x.without l).store = l.store := by
  cases x <;> rfl

@[simp] theorem isHeld_without (x : Holder) (l : Lease) :
    (x.without l).isHeld = x.other.holds l := by
  cases x <;> simp [without, Lease.isHeld, other, holds]

theorem isHeld_eq (x : Holder) (l : Lease) : l.isHeld = (x.holds l || x.other.holds l) := by
  cases x with
  | ofStore => rfl
  | ofLedger => exact Bool.or_comm _ _

end Holder

theorem Operation.exists_drop {op : Operation} (h : op.drops = true) :
    ∃ x : Holder, op = x.drop := by
  cases op with
  | dropStore => exact ⟨.ofStore, rfl⟩
  | dropLedger => exact ⟨.ofLedger, rfl⟩
  | _ => exact absurd h (by simp [Operation.drops])

theorem Operation.exists_drain {op : Operation} (h : op.drains = true) :
    ∃ x : Holder, op = x.drain := by
  cases op with
  | release => exact ⟨.ofStore, rfl⟩
  | drain => exact ⟨.ofLedger, rfl⟩
  | _ => exact absurd h (by simp [Operation.drains])

namespace Holding

variable {t : Holding} {l : Lease} {x : Holder} {dir : Path}

/-- Letting go of a holder abandons the ledger if it was the last one. -/
theorem perform_drop (h : t.lease? = some l) (x : Holder) :
    (t.perform x.drop).2 =
      { t with
        files := if l.isHeld && !x.other.holds l then l.store.ledger.abandon t.files else t.files
        lease? := some (x.without l) } := by
  have hsettle : (t.perform x.drop).2 =
      { t with
        files := (Lease.settle l (x.without l) t.files).2
        lease? := some (Lease.settle l (x.without l) t.files).1 } := by
    cases x <;> simp only [Holder.drop, perform, dropHolder, h] <;> rfl
  rw [hsettle, settle_eq, Holder.isHeld_without, Holder.store_without]

/-- A holder that is there drains the ledger; without it there is nothing to drain. -/
theorem files_perform_drain (h : t.lease? = some l) (x : Holder) :
    (t.perform x.drain).2.files =
      if x.holds l then (l.store.ledger.drain t.files).2.2 else t.files := by
  cases hholds : x.holds l with
  | true =>
    rw [if_pos rfl]
    cases x with
    | ofStore =>
      have hheld : l.storeHeld = true := hholds
      simp [Holder.drain, perform, withStore, held?_eq h, hheld, update, releaseAll]
    | ofLedger =>
      have hheld : l.ledgerHeld = true := hholds
      simp [Holder.drain, perform, heldLedger?_eq h, hheld, update]
  | false =>
    rw [if_neg Bool.false_ne_true]
    cases x with
    | ofStore =>
      have hgone : l.storeHeld = false := hholds
      simp [Holder.drain, perform, withStore, held?_eq h, hgone]
    | ofLedger =>
      have hgone : l.ledgerHeld = false := hholds
      simp [Holder.drain, perform, heldLedger?_eq h, hgone]

end Holding

/-! ## Settled ledgers -/

/-- Whether the ledger of a store has nothing left to do: it was drained, or nobody holds it. -/
def Lease.Settled (l : Lease) : Prop :=
  l.store.ledger.drained = true ∨ l.isHeld = false

/-- Whether nothing is left to do for the current store. -/
def Holding.Settled (t : Holding) : Prop :=
  ∃ l, t.lease? = some l ∧ l.Settled

namespace Holding

variable {t : Holding} {l : Lease} {x : Holder} {dir : Path} {m : Move}

/-- A settled ledger stays settled. -/
theorem Settled.move (h : t.Settled) (hm : m.opens = false) : (t.move m).Settled := by
  obtain ⟨l, hlease, hsettled⟩ := h
  cases m with
  | meddle change => exact ⟨l, hlease, hsettled⟩
  | perform op =>
    obtain ⟨l', hlease', heffect⟩ := perform_effect hlease hm
    refine ⟨l', hlease', ?_⟩
    generalize t.entered? op = p?, (t.perform op).2.files = files at heffect
    cases heffect with
    | elsewhere _ => exact hsettled
    | entered hheld _ =>
      have hdrained := hsettled.resolve_right (by simp [hheld])
      exact Or.inl (by rw [entering, track_of_drained hdrained]; exact hdrained)
    | drained _ hheld =>
      have hdrained := hsettled.resolve_right (by simp [hheld])
      exact Or.inl (by rw [drain_of_drained hdrained]; exact hdrained)
    | dropped hdrops hstore =>
      rcases hsettled with hdrained | hgone
      · exact Or.inl (hstore ▸ hdrained)
      · -- Nobody is left, so nobody lets go.
        obtain ⟨x, rfl⟩ := Operation.exists_drop hdrops
        rw [perform_drop hlease x] at hlease'
        obtain rfl := Option.some.inj hlease'
        rw [Holder.isHeld_eq x, Bool.or_eq_false_iff] at hgone
        exact Or.inr (by rw [Holder.isHeld_without]; exact hgone.2)

theorem Settled.after (h : t.Settled) {moves : List Move} (hmoves : ∀ m ∈ moves, m.opens = false) :
    (t.after moves).Settled := by
  induction moves generalizing t with
  | nil => exact h
  | cons m moves ih =>
    obtain ⟨hm, hothers⟩ := List.forall_mem_cons.1 hmoves
    exact ih (h.move hm) hothers

/-- A settled ledger is not released again, neither by a drain nor by letting go of it. -/
theorem Settled.files_eq (h : t.Settled) {op : Operation}
    (hop : op.drains = true ∨ op.drops = true) : (t.perform op).2.files = t.files := by
  obtain ⟨l, hlease, hsettled⟩ := h
  rcases hop with hdrains | hdrops
  · obtain ⟨x, rfl⟩ := Operation.exists_drain hdrains
    rw [files_perform_drain hlease]
    split
    · next hholds =>
      have hheld : l.isHeld = true := by rw [Holder.isHeld_eq x, hholds, Bool.true_or]
      have hdrained := hsettled.resolve_right (by simp [hheld])
      rw [drain_of_drained hdrained]
    · rfl
  · obtain ⟨x, rfl⟩ := Operation.exists_drop hdrops
    rw [perform_drop hlease x]
    rcases hsettled with hdrained | hgone
    · simp only [abandon_of_drained hdrained, ite_self]
    · simp [hgone]

end Holding

end TempStore

namespace Ledger

/-- Entering a path keeps the paths on the list apart, however they are written. -/
theorem nodup_normal_track {l : Ledger} (h : (l.paths.map Path.normal).Nodup) (fs : FileSystem)
    (p : Path) : ((l.track fs p).2.1.paths.map Path.normal).Nodup := by
  cases hdrained : l.drained with
  | true => rwa [track_of_drained hdrained]
  | false =>
    cases hlists : l.lists p with
    | true => rwa [track_of_lists hdrained hlists]
    | false =>
      rw [track_of_new hdrained hlists, List.map_append, List.map_singleton,
        ← List.concat_eq_append]
      refine h.concat fun hmem => ?_
      obtain ⟨q, hq, hsame⟩ := List.mem_map.1 hmem
      unfold lists at hlists
      rw [List.any_eq_false] at hlists
      exact hlists q hq (by simp [hsame])

end Ledger

namespace TempStore

open FileSystem Ledger

/-- No operation puts a path on the list that is there under another spelling. -/
theorem Effect.nodup_normal {l l' : Lease} {fs fs' : FileSystem} {op : Operation}
    {p? : Option Path} (h : Effect l fs op p? l' fs')
    (hnodup : (l.store.ledger.paths.map Path.normal).Nodup) :
    (l'.store.ledger.paths.map Path.normal).Nodup := by
  cases h with
  | elsewhere _ => exact hnodup
  | entered _ _ => exact nodup_normal_track hnodup fs _
  | drained _ _ =>
    cases hdrained : l.store.ledger.drained with
    | true => rwa [drain_of_drained hdrained]
    | false =>
      rw [drain_of_undrained hdrained]
      exact List.nodup_nil
  | dropped _ hstore => rwa [hstore]

/-! ## The result -/

namespace Holding

variable {t : Holding} {l : Lease} {dir : Path}

/-- What it does to let go of a holder. -/
structure LetsGo (t : Holding) (l : Lease) (x : Holder) : Prop where
  /-- While the other one is there, nothing happens to the files or to the ledger. -/
  shared : x.other.holds l = true → (t.perform x.drop).2 = { t with lease? := some (x.without l) }
  /-- The last one leaves what its drain would have left, -/
  last : x.other.holds l = false → x.holds l = true →
    (t.perform x.drop).2.files = (t.perform x.drain).2.files
  /-- so that nothing can be read at the paths on the list. -/
  released : x.other.holds l = false → x.holds l = true → l.store.ledger.drained = false →
    ∀ p ∈ l.store.ledger.paths, ∀ content, (t.perform x.drop).2.files.read p ≠ .ok content
  /-- After a drain, and when the holder has gone before, nothing happens to the files. -/
  settled : l.store.ledger.drained = true ∨ x.holds l = false →
    (t.perform x.drop).2 = { t with lease? := some (x.without l) }

theorem letsGo (h : t.lease? = some l) (x : Holder) : t.LetsGo l x := by
  have hdrop := perform_drop h x
  have hfiles : x.other.holds l = false → x.holds l = true →
      (t.perform x.drop).2.files = l.store.ledger.abandon t.files := by
    intro hother hholds
    rw [hdrop, Holder.isHeld_eq x, hholds, hother]
    rfl
  refine ⟨fun hother => ?_, fun hother hholds => ?_, fun hother hholds hundrained p hp => ?_,
    fun hidle => ?_⟩
  · rw [hdrop, hother, Bool.not_true, Bool.and_false]
    rfl
  · rw [hfiles hother hholds, files_perform_drain h, if_pos hholds]
    cases hdrained : l.store.ledger.drained with
    | true => rw [abandon_of_drained hdrained, drain_of_drained hdrained]
    | false => rw [abandon_of_undrained hdrained, drain_of_undrained hdrained]
  · rw [hfiles hother hholds, abandon_of_undrained hundrained]
    exact read_release_ne_ok _ _ hp
  · rw [hdrop]
    rcases hidle with hdrained | hgone
    · rw [abandon_of_drained hdrained, ite_self]
    · rw [Holder.isHeld_eq x, hgone, Bool.false_or, Bool.and_not_self]
      rfl

/-- Letting go agrees with draining.  Whatever happened to a store that was opened, who lets go of
it while the other holder stays changes nothing, and the last holder leaves behind what a drain
would have left.  Every path is on the list of the ledger once, however it is written; and when the
ledger was drained or its last holder has gone, neither a drain nor letting go changes a file any
more, whatever happens in between. -/
theorem letting_go_agrees_with_draining (hopened : t.Opened dir) {moves : List Move}
    (hmoves : ∀ m ∈ moves, m.opens = false) :
    ∃ l, (t.after moves).lease? = some l ∧ (∀ x, (t.after moves).LetsGo l x) ∧
      (l.store.ledger.paths.map Path.normal).Nodup ∧
      (l.Settled → ∀ rest : List Move, (∀ m ∈ rest, m.opens = false) →
        ∀ op, op.drains = true ∨ op.drops = true →
          (((t.after moves).after rest).perform op).2.files =
            ((t.after moves).after rest).files) := by
  obtain ⟨hlease₀, -⟩ := hopened.spec
  obtain ⟨l, hlease, hnodup⟩ := exists_lease_after
    (P := fun l => (l.store.ledger.paths.map Path.normal).Nodup)
    (fun heffect hnodup => heffect.nodup_normal hnodup) hlease₀ List.nodup_nil hmoves
  refine ⟨l, hlease, letsGo hlease, hnodup, fun hsettled rest hrest op hop => ?_⟩
  have hafter : (t.after moves).Settled := ⟨l, hlease, hsettled⟩
  exact (hafter.after hrest).files_eq hop

namespace Orphaned

/-- Two files are written, one path is never used, a directory takes the place of another one, and
the store goes. -/
def moves : List Move :=
  [.perform (.write "a" "one".toUTF8), .perform (.write "b" "two".toUTF8),
    .perform (.allocate "c"), .perform (.remove 1), .perform (.makeDirectory 1),
    .perform .dropStore]

/-- The ledger goes after the store.  One file goes with it, and the directory that took the place
of the other one stays. -/
theorem ledger_goes_last :
    opened.Opened ["tmp", "c"] ∧ (∀ m ∈ moves, m.opens = false) ∧
      (∃ l, (opened.after moves).lease? = some l ∧ (opened.after moves).LetsGo l .ofLedger ∧
        ((opened.after moves).perform .dropLedger).2.files =
          ((opened.after moves).perform .drain).2.files) ∧
      (opened.after moves).files.read ["tmp", "c", "0001-a"] = .ok "one".toUTF8 ∧
      ((opened.after moves).perform .dropLedger).2.files.namesIn ["tmp", "c"] = ["0002-b"] := by
  have hopened := opened_opened
  have hmoves : ∀ m ∈ moves, m.opens = false := by decide
  obtain ⟨l, hlease, hletsGo, -, -⟩ := letting_go_agrees_with_draining hopened hmoves
  have hheld : (opened.after moves).lease?.map (fun l => (l.storeHeld, l.ledgerHeld)) =
      some (false, true) := by decide +kernel
  rw [hlease] at hheld
  obtain ⟨hstore, hledger⟩ := Prod.mk.inj (Option.some.inj hheld)
  refine ⟨hopened, hmoves, ⟨l, hlease, hletsGo .ofLedger, ?_⟩, by decide +kernel, by decide +kernel⟩
  exact (hletsGo .ofLedger).last hstore hledger

end Orphaned

end Holding

end TempStore

end ChatChain
