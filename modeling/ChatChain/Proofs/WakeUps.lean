import ChatChain.Cancellation
import Mathlib.Data.List.Infix
import Mathlib.Logic.Relation

/-!
# Who is cancelled and who wakes

Which tokens are cancelled and which waiters are done, read off the steps that were taken.

There are five groups.

* Notifiers.  `Notifier.Lawful` is what is asked of one: a signal reaches the tickets that were
  handed out before it, and no other.
* Families.  `Family.Waits` is what holds of a ticket while its waiter waits: a signal has reached
  it exactly when the flag is up.
* One step.  `Tokens.Moves` lists what a step can do, and every step keeps `Tokens.Sound`.
* Histories.  `SameFamily`, `CancelledBy` and `WokenBy` speak of the steps alone.
* Runs.  The state after some steps against their history.
-/

namespace ChatChain

open CancellationStep

/-! ## Notifiers -/

namespace Notifier

/-- What can happen to a notifier. -/
inductive Event where
  | register
  | signal

variable (n : Notifier)

/-- The state after an event. -/
def next (s : n.State) : Event → n.State
  | .register => (n.register s).2
  | .signal => n.signal s

/-- The state after events. -/
def after (events : List Event) : n.State :=
  events.foldl n.next n.initial

/-- The ticket that is handed out after events. -/
def ticketAt (events : List Event) : n.Ticket :=
  (n.register (n.after events)).1

/-- A signal reaches every ticket that was handed out before it, and no other. -/
def Lawful : Prop :=
  ∀ before later : List Event,
    n.isReached (n.after (before ++ .register :: later)) (n.ticketAt before) = true ↔
      Event.signal ∈ later

variable {n}

theorem after_concat (events : List Event) (e : Event) :
    n.after (events ++ [e]) = n.next (n.after events) e := by
  simp [after]

/-- The counting notifier has counted the signals. -/
theorem counting_after (events : List Event) :
    counting.after events = events.countP (· matches .signal) := by
  induction events using List.reverseRecOn with
  | nil => rfl
  | append_singleton events e ih =>
    rw [after_concat, ih, List.countP_append]
    cases e <;> rfl

theorem counting_isReached_iff (count ticket : Nat) :
    counting.isReached count ticket = true ↔ ticket < count :=
  decide_eq_true_iff

theorem counting_lawful : counting.Lawful := by
  intro before later
  have hreached : counting.isReached (counting.after (before ++ .register :: later))
      (counting.ticketAt before) = true ↔
        before.countP (· matches .signal) <
          (before ++ .register :: later).countP (· matches .signal) := by
    rw [← counting_after, ← counting_after]
    exact counting_isReached_iff _ _
  rw [hreached, List.countP_append, List.countP_cons_of_neg Bool.false_ne_true,
    Nat.lt_add_right_iff_pos, List.countP_pos_iff]
  constructor
  · rintro ⟨e, he, hsignal⟩
    cases e with
    | register => cases hsignal
    | signal => exact he
  · intro h
    exact ⟨_, h, rfl⟩

end Notifier

variable {n : Notifier}

/-! ## Families -/

namespace Family

variable {f : Family n} {ticket : n.Ticket}

/-- The flag is up when the notifier was asked for a signal, which happens once. -/
def Sound (f : Family n) : Prop :=
  ∃ events, f.notifier = n.after events ∧ (f.cancelled = true ↔ Notifier.Event.signal ∈ events)

/-- The flag was down when the ticket was handed out, and is up when there was a signal since. -/
def Waits (f : Family n) (ticket : n.Ticket) : Prop :=
  ∃ before later, Notifier.Event.signal ∉ before ∧
    f.notifier = n.after (before ++ .register :: later) ∧
    ticket = n.ticketAt before ∧ (f.cancelled = true ↔ Notifier.Event.signal ∈ later)

theorem sound_new : Sound ({} : Family n) :=
  ⟨[], rfl, by simp⟩

theorem cancelled_cancel (f : Family n) : f.cancel.cancelled = true := by
  unfold cancel
  split
  · assumption
  · rfl

theorem cancelled_register (f : Family n) : f.register.2.cancelled = f.cancelled := rfl

theorem Sound.cancel (h : f.Sound) : f.cancel.Sound := by
  unfold Family.cancel
  split
  · exact h
  · obtain ⟨events, hnotifier, -⟩ := h
    refine ⟨events ++ [.signal], ?_, by simp⟩
    rw [Notifier.after_concat, ← hnotifier]
    rfl

theorem Sound.register (h : f.Sound) : f.register.2.Sound := by
  obtain ⟨events, hnotifier, hflag⟩ := h
  refine ⟨events ++ [.register], ?_, by simpa [cancelled_register] using hflag⟩
  rw [Notifier.after_concat, ← hnotifier]
  rfl

/-- A ticket that is handed out while the flag is down waits. -/
theorem Sound.waits (h : f.Sound) (hdown : f.cancelled = false) :
    f.register.2.Waits f.register.1 := by
  obtain ⟨events, hnotifier, hflag⟩ := h
  refine ⟨events, [], by simpa [hdown] using hflag, ?_, ?_, by simp [cancelled_register, hdown]⟩
  · rw [Notifier.after_concat, ← hnotifier]
    rfl
  · rw [Notifier.ticketAt, ← hnotifier]
    rfl

theorem Waits.cancel (h : f.Waits ticket) : f.cancel.Waits ticket := by
  unfold Family.cancel
  split
  · exact h
  · obtain ⟨before, later, hbefore, hnotifier, hticket, -⟩ := h
    refine ⟨before, later ++ [.signal], hbefore, ?_, hticket, by simp⟩
    rw [← List.cons_append, ← List.append_assoc, Notifier.after_concat, ← hnotifier]
    rfl

theorem Waits.register (h : f.Waits ticket) : f.register.2.Waits ticket := by
  obtain ⟨before, later, hbefore, hnotifier, hticket, hflag⟩ := h
  refine ⟨before, later ++ [.register], hbefore, ?_, hticket,
    by simpa [cancelled_register] using hflag⟩
  rw [← List.cons_append, ← List.append_assoc, Notifier.after_concat, ← hnotifier]
  rfl

/-- No wake-up is lost or made up: the ticket is reached when the flag is up. -/
theorem Waits.isReached_eq (lawful : n.Lawful) (h : f.Waits ticket) :
    n.isReached f.notifier ticket = f.cancelled := by
  obtain ⟨before, later, -, hnotifier, rfl, hflag⟩ := h
  rw [Bool.eq_iff_iff, hnotifier, hflag]
  exact lawful before later

/-- A waiter that waits is done after a poll when its family is cancelled. -/
theorem Waits.await_eq (lawful : n.Lawful) (h : f.Waits ticket) :
    f.await ticket = if f.cancelled then .done else .waiting ticket := by
  rw [await, h.isReached_eq lawful]

end Family

/-! ## One step -/

namespace WaiterStage

variable {f : Family n} {stage : WaiterStage n}

/-- The ticket of a waiter waits. -/
def Fits (f : Family n) : WaiterStage n → Prop
  | .waiting ticket => f.Waits ticket
  | _ => True

theorem fits_await {ticket : n.Ticket} (h : f.Waits ticket) : (f.await ticket).Fits f := by
  unfold Family.await
  split
  · trivial
  · exact h

theorem Fits.cancel (h : stage.Fits f) : stage.Fits f.cancel := by
  cases stage with
  | waiting ticket => exact Family.Waits.cancel h
  | _ => trivial

theorem Fits.register (h : stage.Fits f) : stage.Fits f.register.2 := by
  cases stage with
  | waiting ticket => exact Family.Waits.register h
  | _ => trivial

theorem poll_idle (f : Family n) :
    WaiterStage.idle.poll f =
      (if f.cancelled then .done else f.register.2.await f.register.1, f.register.2) := rfl

/-- A poll registers with the family, or leaves it alone. -/
theorem poll_snd (f : Family n) (stage : WaiterStage n) :
    (stage.poll f).2 = f ∨ (stage.poll f).2 = f.register.2 := by
  cases stage with
  | idle => exact Or.inr rfl
  | _ => exact Or.inl rfl

theorem Fits.poll (hf : f.Sound) (h : stage.Fits f) : (stage.poll f).1.Fits (stage.poll f).2 := by
  cases stage with
  | idle =>
    rw [poll_idle]
    cases hdown : f.cancelled with
    | true => trivial
    | false => exact fits_await (hf.waits hdown)
  | waiting ticket => exact fits_await h
  | done => trivial

/-- A poll finishes a waiter when its family is cancelled. -/
theorem Fits.poll_eq_done_iff (lawful : n.Lawful) (hf : f.Sound) (h : stage.Fits f) :
    (stage.poll f).1 = .done ↔ stage = .done ∨ f.cancelled = true := by
  cases stage with
  | idle =>
    rw [poll_idle]
    cases hdown : f.cancelled with
    | true => simp
    | false => simp [(hf.waits hdown).await_eq lawful, Family.cancelled_register, hdown]
  | waiting ticket =>
    simp only [WaiterStage.poll, Family.Waits.await_eq lawful h, reduceCtorEq, false_or]
    split <;> simp_all
  | done => simp [WaiterStage.poll]

theorem isDone_iff : stage.isDone = true ↔ stage = .done := by
  cases stage <;> simp [isDone]

end WaiterStage

namespace Tokens

variable {c : Tokens n} {f : Family n} {r : Waiter n} {i t w : Nat}

theorem family?_eq_some_iff :
    c.family? t = some (i, f) ↔ c.tokens[t]? = some i ∧ c.families[i]? = some f := by
  simp only [family?, Option.bind_eq_bind, Option.bind_eq_some_iff, Option.some.injEq,
    Prod.mk.injEq]
  constructor
  · rintro ⟨_, htoken, _, hfamily, rfl, rfl⟩
    exact ⟨htoken, hfamily⟩
  · rintro ⟨htoken, hfamily⟩
    exact ⟨i, htoken, f, hfamily, rfl, rfl⟩

theorem waiter?_eq_some_iff :
    c.waiter? w = some (r, f) ↔ c.waiters[w]? = some r ∧ c.families[r.family]? = some f := by
  simp only [waiter?, Option.bind_eq_bind, Option.bind_eq_some_iff, Option.some.injEq,
    Prod.mk.injEq]
  constructor
  · rintro ⟨_, hwaiter, _, hfamily, rfl, rfl⟩
    exact ⟨hwaiter, hfamily⟩
  · rintro ⟨hwaiter, hfamily⟩
    exact ⟨r, hwaiter, f, hfamily, rfl, rfl⟩

/-- A token or waiter that a step names is not there. -/
def Lacks (c : Tokens n) : CancellationStep → Prop
  | .newToken => False
  | .clone t | .wait t => c.tokens[t]? = none
  | .cancel t => c.family? t = none
  | .poll w => c.waiter? w = none

/-- What a step makes of tokens and waiters. -/
inductive Moves (c : Tokens n) : CancellationStep → Tokens n → Prop
  | newToken : Moves c .newToken
      { c with families := c.families ++ [{}], tokens := c.tokens ++ [c.families.length] }
  | clone {t i : Nat} (ht : c.tokens[t]? = some i) :
      Moves c (.clone t) { c with tokens := c.tokens ++ [i] }
  | cancel {t i : Nat} {f : Family n} (ht : c.family? t = some (i, f)) :
      Moves c (.cancel t) { c with families := c.families.set i f.cancel }
  | wait {t i : Nat} (ht : c.tokens[t]? = some i) :
      Moves c (.wait t) { c with waiters := c.waiters ++ [{ family := i }] }
  | poll {w : Nat} {r : Waiter n} {f : Family n} (hw : c.waiter? w = some (r, f)) :
      Moves c (.poll w)
        { c with
          families := c.families.set r.family (r.stage.poll f).2
          waiters := c.waiters.set w { r with stage := (r.stage.poll f).1 } }
  | nothing {step : CancellationStep} (h : c.Lacks step) : Moves c step c

theorem moves_perform (c : Tokens n) (step : CancellationStep) : Moves c step (c.perform step) := by
  cases step with
  | newToken => exact .newToken
  | clone t =>
    simp only [perform, Tokens.clone]
    split
    · next ht => exact .clone ht
    · next ht => exact .nothing ht
  | cancel t =>
    simp only [perform, Tokens.cancel]
    split
    · next ht => exact .cancel ht
    · next ht => exact .nothing ht
  | wait t =>
    simp only [perform, Tokens.wait]
    split
    · next ht => exact .wait ht
    · next ht => exact .nothing ht
  | poll w =>
    simp only [perform, Tokens.poll]
    split
    · next hw => exact .poll hw
    · next hw => exact .nothing hw

/-- A step cancels a family. -/
def Cancels (c : Tokens n) (step : CancellationStep) (i : Nat) : Prop :=
  ∃ t, step = .cancel t ∧ c.tokens[t]? = some i

/-- A step polls a waiter of a family. -/
def Polls (c : Tokens n) (step : CancellationStep) (i : Nat) : Prop :=
  ∃ w r, step = .poll w ∧ c.waiters[w]? = some r ∧ r.family = i

namespace Moves

variable {c' : Tokens n} {step : CancellationStep}

/-- What a step does to a family. -/
theorem family_cases (h : Moves c step c') (hf : c.families[i]? = some f) :
    c.Cancels step i ∧ c'.families[i]? = some f.cancel ∨
      c.Polls step i ∧ c'.families[i]? = some f.register.2 ∨
      ¬ c.Cancels step i ∧ c'.families[i]? = some f := by
  have hlt := (List.getElem?_eq_some_iff.1 hf).1
  cases h with
  | newToken => exact Or.inr (Or.inr ⟨nofun, (List.getElem?_append_left hlt).trans hf⟩)
  | clone => exact Or.inr (Or.inr ⟨nofun, hf⟩)
  | wait => exact Or.inr (Or.inr ⟨nofun, hf⟩)
  | @cancel t j g ht =>
    obtain ⟨htoken, hg⟩ := family?_eq_some_iff.1 ht
    by_cases hji : j = i
    · subst hji
      obtain rfl := Option.some.inj (hg.symm.trans hf)
      exact Or.inl ⟨⟨t, rfl, htoken⟩, List.getElem?_set_self hlt⟩
    · refine Or.inr (Or.inr ⟨?_, (List.getElem?_set_ne hji).trans hf⟩)
      rintro ⟨_, ⟨⟩, htoken'⟩
      exact hji (Option.some.inj (htoken.symm.trans htoken'))
  | @poll w r g hw =>
    obtain ⟨hwaiter, hg⟩ := waiter?_eq_some_iff.1 hw
    by_cases hri : r.family = i
    · subst hri
      obtain rfl := Option.some.inj (hg.symm.trans hf)
      have hset := List.getElem?_set_self (a := (r.stage.poll g).2) hlt
      rcases r.stage.poll_snd g with hsame | hregister
      · exact Or.inr (Or.inr ⟨nofun, hset.trans (congrArg some hsame)⟩)
      · exact Or.inr (Or.inl ⟨⟨w, r, rfl, hwaiter, rfl⟩, hset.trans (congrArg some hregister)⟩)
    · exact Or.inr (Or.inr ⟨nofun, (List.getElem?_set_ne hri).trans hf⟩)
  | nothing hlacks =>
    refine Or.inr (Or.inr ⟨?_, hf⟩)
    rintro ⟨t, rfl, htoken⟩
    cases hlacks.symm.trans (family?_eq_some_iff.2 ⟨htoken, hf⟩)

/-- What a step does to a waiter. -/
theorem waiter_cases (h : Moves c step c') (hr : c.waiters[w]? = some r)
    (hf : c.families[r.family]? = some f) :
    step = .poll w ∧ c'.families[r.family]? = some (r.stage.poll f).2 ∧
        c'.waiters[w]? = some { r with stage := (r.stage.poll f).1 } ∨
      step ≠ .poll w ∧ c'.waiters[w]? = some r := by
  have hlt := (List.getElem?_eq_some_iff.1 hr).1
  cases h with
  | newToken => exact Or.inr ⟨nofun, hr⟩
  | clone => exact Or.inr ⟨nofun, hr⟩
  | cancel => exact Or.inr ⟨nofun, hr⟩
  | wait => exact Or.inr ⟨nofun, (List.getElem?_append_left hlt).trans hr⟩
  | @poll v q g hv =>
    by_cases hvw : v = w
    · subst hvw
      obtain ⟨rfl, rfl⟩ := Prod.mk.inj
        (Option.some.inj (hv.symm.trans (waiter?_eq_some_iff.2 ⟨hr, hf⟩)))
      exact Or.inl ⟨rfl, List.getElem?_set_self (List.getElem?_eq_some_iff.1 hf).1,
        List.getElem?_set_self hlt⟩
    · exact Or.inr ⟨fun h => hvw (CancellationStep.poll.inj h),
        (List.getElem?_set_ne hvw).trans hr⟩
  | nothing hlacks =>
    refine Or.inr ⟨?_, hr⟩
    rintro rfl
    cases hlacks.symm.trans (waiter?_eq_some_iff.2 ⟨hr, hf⟩)

/-- What a step does to the list of tokens. -/
theorem tokens_cases (h : Moves c step c') :
    (∃ i, c'.tokens = c.tokens ++ [i] ∧
        (step = .newToken ∧ i = c.families.length ∨
          ∃ s, step = .clone s ∧ c.tokens[s]? = some i)) ∨
      c'.tokens = c.tokens := by
  cases h with
  | newToken => exact Or.inl ⟨_, rfl, Or.inl ⟨rfl, rfl⟩⟩
  | clone ht => exact Or.inl ⟨_, rfl, Or.inr ⟨_, rfl, ht⟩⟩
  | _ => exact Or.inr rfl

/-- A step keeps the families, or adds one for a new token. -/
theorem length_families (h : Moves c step c') :
    c'.families.length = if step = .newToken then c.families.length + 1 else c.families.length := by
  cases h with
  | newToken => simp
  | nothing hlacks =>
    rw [if_neg]
    rintro rfl
    exact hlacks
  | _ => simp

/-- The family that a step makes. -/
theorem family_of_new (h : Moves c step c') (hnew : c.families.length ≤ i)
    (hf : c'.families[i]? = some f) : f = {} := by
  have hlt := (List.getElem?_eq_some_iff.1 hf).1
  cases h with
  | newToken =>
    rw [List.getElem?_append_right hnew] at hf
    simpa using List.mem_of_getElem? hf
  | cancel => exact absurd (List.length_set ▸ hlt) hnew.not_gt
  | poll => exact absurd (List.length_set ▸ hlt) hnew.not_gt
  | _ => exact absurd hlt hnew.not_gt

/-- The waiter that a step makes. -/
theorem waiter_of_new (h : Moves c step c') (hnew : c.waiters.length ≤ w)
    (hr : c'.waiters[w]? = some r) :
    w = c.waiters.length ∧ r.stage = .idle ∧
      ∃ t, step = .wait t ∧ c.tokens[t]? = some r.family := by
  have hlt := (List.getElem?_eq_some_iff.1 hr).1
  cases h with
  | wait ht =>
    rw [List.length_append, List.length_singleton] at hlt
    obtain rfl : w = c.waiters.length := by omega
    obtain rfl := by simpa using hr
    exact ⟨rfl, rfl, _, rfl, ht⟩
  | poll => exact absurd (List.length_set ▸ hlt) hnew.not_gt
  | _ => exact absurd hlt hnew.not_gt

end Moves

/-- What every step keeps: tokens and waiters have their families, and flags and tickets tell what
became of the notifiers. -/
structure Sound (c : Tokens n) : Prop where
  token : ∀ t i : Nat, c.tokens[t]? = some i → i < c.families.length
  family : ∀ (i : Nat) f, c.families[i]? = some f → f.Sound
  waiter : ∀ (w : Nat) r, c.waiters[w]? = some r →
    ∃ f, c.families[r.family]? = some f ∧ r.stage.Fits f

theorem sound_new : Sound ({} : Tokens n) where
  token t i h := by
    have hi : i = 0 := by simpa using List.mem_of_getElem? h
    simp [hi]
  family i f h := by
    have hf : f = {} := by simpa using List.mem_of_getElem? h
    exact hf ▸ Family.sound_new
  waiter w r h := nomatch h

theorem Sound.step {c' : Tokens n} {step : CancellationStep} (h : c.Sound)
    (hmoves : Moves c step c') : c'.Sound where
  token t i hi := by
    rw [hmoves.length_families]
    rcases hmoves.tokens_cases with ⟨j, heq, hj⟩ | heq
    · rw [heq, List.getElem?_append] at hi
      split at hi
      · have := h.token t i hi
        split <;> omega
      · obtain rfl : i = j := by simpa using List.mem_of_getElem? hi
        rcases hj with ⟨rfl, rfl⟩ | ⟨s, rfl, hs⟩
        · simp
        · simpa using h.token s _ hs
    · have := h.token t i (heq ▸ hi)
      split <;> omega
  family i f' hf' := by
    cases hf : c.families[i]? with
    | none =>
      rw [hmoves.family_of_new (List.getElem?_eq_none_iff.1 hf) hf']
      exact Family.sound_new
    | some f =>
      have hsound := h.family i f hf
      rcases hmoves.family_cases hf with ⟨-, hnow⟩ | ⟨-, hnow⟩ | ⟨-, hnow⟩
      all_goals obtain rfl := Option.some.inj (hnow.symm.trans hf')
      · exact hsound.cancel
      · exact hsound.register
      · exact hsound
  waiter w r' hr' := by
    cases hr : c.waiters[w]? with
    | none =>
      obtain ⟨-, hidle, t, rfl, htoken⟩ := hmoves.waiter_of_new (List.getElem?_eq_none_iff.1 hr) hr'
      have hlt : r'.family < c'.families.length := by
        rw [hmoves.length_families]
        exact h.token t _ htoken
      exact ⟨_, List.getElem?_eq_getElem hlt, hidle ▸ trivial⟩
    | some r =>
      obtain ⟨f, hf, hfits⟩ := h.waiter w r hr
      rcases hmoves.waiter_cases hr hf with ⟨-, hfamily, hnow⟩ | ⟨-, hnow⟩
      · obtain rfl := Option.some.inj (hnow.symm.trans hr')
        exact ⟨_, hfamily, hfits.poll (h.family _ _ hf)⟩
      · obtain rfl := Option.some.inj (hnow.symm.trans hr')
        rcases hmoves.family_cases hf with ⟨-, hnow⟩ | ⟨-, hnow⟩ | ⟨-, hnow⟩
        · exact ⟨_, hnow, hfits.cancel⟩
        · exact ⟨_, hnow, hfits.register⟩
        · exact ⟨_, hnow, hfits⟩

end Tokens

/-! ## Histories -/

namespace CancellationStep

/-- How many tokens and waiters there are.  One token is there from the start. -/
structure Census where
  tokens : Nat := 1
  waiters : Nat := 0

/-- The census after a step.  A step does nothing if the token that it names is not there. -/
def Census.after (c : Census) : CancellationStep → Census
  | newToken => { c with tokens := c.tokens + 1 }
  | clone t => if t < c.tokens then { c with tokens := c.tokens + 1 } else c
  | wait t => if t < c.tokens then { c with waiters := c.waiters + 1 } else c
  | cancel _ => c
  | poll _ => c

def census (steps : List CancellationStep) : Census :=
  steps.foldl Census.after {}

/-- A step was taken right after others. -/
def Took (steps before : List CancellationStep) (step : CancellationStep) : Prop :=
  before ++ [step] <+: steps

variable {steps before more : List CancellationStep} {step x : CancellationStep} {s t w : Nat}

/-- The second token was made as a clone of the first. -/
def ClonedFrom (steps : List CancellationStep) (s t : Nat) : Prop :=
  ∃ before, Took steps before (.clone s) ∧ s < (census before).tokens ∧
    t = (census before).tokens

/-- Two tokens belong together through clones. -/
def SameFamily (steps : List CancellationStep) : Nat → Nat → Prop :=
  Relation.EqvGen (ClonedFrom steps)

/-- A token or another one of its family was cancelled. -/
def CancelledBy (steps : List CancellationStep) (t : Nat) : Prop :=
  ∃ before s, Took steps before (.cancel s) ∧ s < (census before).tokens ∧ SameFamily steps s t

/-- The waiter was made for the token. -/
def WaitsFor (steps : List CancellationStep) (w t : Nat) : Prop :=
  ∃ before, Took steps before (.wait t) ∧ t < (census before).tokens ∧
    w = (census before).waiters

/-- The waiter was polled when its family was cancelled already. -/
def WokenBy (steps : List CancellationStep) (w : Nat) : Prop :=
  ∃ before t, Took steps before (.poll w) ∧ WaitsFor before w t ∧ CancelledBy before t

/-- A step cancels the family of a token, or polls one of its waiters. -/
def Touches (steps : List CancellationStep) (step : CancellationStep) (t : Nat) : Prop :=
  (∃ s, step = .cancel s ∧ SameFamily steps s t) ∨
    ∃ w s, step = .poll w ∧ WaitsFor steps w s ∧ SameFamily steps s t

theorem census_concat (steps : List CancellationStep) (step : CancellationStep) :
    census (steps ++ [step]) = (census steps).after step := by
  simp [census]

theorem not_took_nil : ¬ Took [] before step := by
  simp [Took]

theorem took_last (steps : List CancellationStep) (step : CancellationStep) :
    Took (steps ++ [step]) steps step :=
  List.prefix_rfl

theorem took_concat_iff :
    Took (steps ++ [x]) before step ↔ Took steps before step ∨ before = steps ∧ step = x := by
  rw [Took, List.prefix_concat_iff, or_comm]
  simp [Took]

/-- What was the case when a step was taken, with one more step. -/
theorem exists_took_concat_iff {P : List CancellationStep → Prop} :
    (∃ before, Took (steps ++ [x]) before step ∧ P before) ↔
      (∃ before, Took steps before step ∧ P before) ∨ x = step ∧ P steps := by
  simp only [took_concat_iff, or_and_right, exists_or]
  refine or_congr_right ⟨?_, fun ⟨hx, hP⟩ => ⟨steps, ⟨rfl, hx.symm⟩, hP⟩⟩
  rintro ⟨_, ⟨rfl, rfl⟩, hP⟩
  exact ⟨rfl, hP⟩

theorem Took.mono (h : Took steps before step) (hmore : steps <+: more) : Took more before step :=
  List.IsPrefix.trans h hmore

theorem Took.prefix_steps (h : Took steps before step) : before <+: steps :=
  (List.prefix_append _ _).trans h

theorem SameFamily.mono (h : SameFamily steps s t) (hmore : steps <+: more) :
    SameFamily more s t := by
  have hclones : ClonedFrom steps ≤ ClonedFrom more := by
    rintro a b ⟨before, htook, hb⟩
    exact ⟨before, htook.mono hmore, hb⟩
  exact Relation.EqvGen.mono hclones s t h

theorem CancelledBy.mono (h : CancelledBy steps t) (hmore : steps <+: more) :
    CancelledBy more t := by
  obtain ⟨before, s, htook, hs, hsame⟩ := h
  exact ⟨before, s, htook.mono hmore, hs, hsame.mono hmore⟩

theorem WokenBy.mono (h : WokenBy steps w) (hmore : steps <+: more) : WokenBy more w := by
  obtain ⟨before, t, htook, hwaits, hcancelled⟩ := h
  exact ⟨before, t, htook.mono hmore, hwaits, hcancelled⟩

end CancellationStep

/-! ## Runs -/

namespace Tokens

variable {steps before more : List CancellationStep} {c : Tokens n} {f : Family n} {r : Waiter n}
  {i s t w : Nat}

/-- The tokens and waiters after steps. -/
def run (n : Notifier) (steps : List CancellationStep) : Tokens n :=
  steps.foldl perform {}

theorem run_concat (steps : List CancellationStep) (step : CancellationStep) :
    run n (steps ++ [step]) = (run n steps).perform step := by
  simp [run]

theorem moves_run (n : Notifier) (steps : List CancellationStep) (step : CancellationStep) :
    Moves (run n steps) step (run n (steps ++ [step])) := by
  rw [run_concat]
  exact moves_perform _ step

/-- What every step keeps holds on. -/
theorem run_of_earlier {P : Tokens n → Prop}
    (keeps : ∀ c step c', Moves c step c' → P c → P c') (h : before <+: steps)
    (hbefore : P (run n before)) : P (run n steps) := by
  obtain ⟨rest, rfl⟩ := h
  induction rest using List.reverseRecOn with
  | nil => simpa using hbefore
  | append_singleton rest step ih =>
    rw [← List.append_assoc]
    exact keeps _ _ _ (moves_run n _ step) ih

theorem sound_run (n : Notifier) (steps : List CancellationStep) : (run n steps).Sound :=
  run_of_earlier (fun _ _ _ hmoves h => h.step hmoves) List.nil_prefix sound_new

/-- Tokens keep their families. -/
theorem token_of_earlier (h : before <+: steps) (ht : (run n before).tokens[t]? = some i) :
    (run n steps).tokens[t]? = some i := by
  refine run_of_earlier (P := fun c => c.tokens[t]? = some i) (fun c _ _ hmoves hc => ?_) h ht
  rcases hmoves.tokens_cases with ⟨j, heq, -⟩ | heq
  · rw [heq, List.getElem?_append_left (List.getElem?_eq_some_iff.1 hc).1, hc]
  · rw [heq, hc]

/-- Waiters keep their families. -/
theorem waiter_of_earlier (h : before <+: steps) (hr : (run n before).waiters[w]? = some r) :
    ∃ r', (run n steps).waiters[w]? = some r' ∧ r'.family = r.family := by
  refine (run_of_earlier (P := fun c => c.Sound ∧ ∃ r', c.waiters[w]? = some r' ∧
    r'.family = r.family) (fun c _ _ hmoves hc => ?_) h ⟨sound_run n before, r, hr, rfl⟩).2
  obtain ⟨hsound, r', hr', hfamily⟩ := hc
  refine ⟨hsound.step hmoves, ?_⟩
  obtain ⟨f, hf, -⟩ := hsound.waiter w r' hr'
  rcases hmoves.waiter_cases hr' hf with ⟨-, -, hnow⟩ | ⟨-, hnow⟩
  · exact ⟨_, hnow, hfamily⟩
  · exact ⟨r', hnow, hfamily⟩

/-- A step adds the tokens and waiters that the census adds. -/
theorem Moves.census_eq {c' : Tokens n} {step : CancellationStep} (h : Moves c step c') :
    Census.after ⟨c.tokens.length, c.waiters.length⟩ step =
      ⟨c'.tokens.length, c'.waiters.length⟩ := by
  cases h with
  | clone ht => simp [Census.after, (List.getElem?_eq_some_iff.1 ht).1]
  | wait ht => simp [Census.after, (List.getElem?_eq_some_iff.1 ht).1]
  | nothing hlacks =>
    cases step with
    | newToken => exact hlacks.elim
    | clone t => exact if_neg (List.getElem?_eq_none_iff.1 hlacks).not_gt
    | wait t => exact if_neg (List.getElem?_eq_none_iff.1 hlacks).not_gt
    | cancel t => rfl
    | poll w => rfl
  | _ => simp [Census.after]

/-- The census counts the tokens and the waiters. -/
theorem census_eq (n : Notifier) (steps : List CancellationStep) :
    census steps = ⟨(run n steps).tokens.length, (run n steps).waiters.length⟩ := by
  induction steps using List.reverseRecOn with
  | nil => rfl
  | append_singleton steps step ih =>
    rw [census_concat, ih]
    exact (moves_run n steps step).census_eq

theorem length_run (n : Notifier) (steps : List CancellationStep) :
    (run n steps).tokens.length = (census steps).tokens ∧
      (run n steps).waiters.length = (census steps).waiters := by
  rw [census_eq n steps]
  exact ⟨rfl, rfl⟩

theorem exists_token_iff :
    (∃ i, (run n steps).tokens[t]? = some i) ↔ t < (census steps).tokens := by
  rw [← (length_run n steps).1]
  simp [List.getElem?_eq_some_iff]

/-- A family is cancelled when one of its tokens was. -/
theorem cancelled_iff_took (hf : (run n steps).families[i]? = some f) :
    f.cancelled = true ↔
      ∃ s before, Took steps before (.cancel s) ∧ (run n before).tokens[s]? = some i := by
  induction steps using List.reverseRecOn generalizing f with
  | nil =>
    obtain rfl : f = {} := by simpa [run] using List.mem_of_getElem? hf
    simp [not_took_nil]
  | append_singleton steps x ih =>
    have hmoves := moves_run n steps x
    have hsplit : (∃ s before, Took (steps ++ [x]) before (.cancel s) ∧
        (run n before).tokens[s]? = some i) ↔
          (∃ s before, Took steps before (.cancel s) ∧ (run n before).tokens[s]? = some i) ∨
            (run n steps).Cancels x i := by
      simp only [exists_took_concat_iff, exists_or, Cancels]
    rw [hsplit]
    cases hold : (run n steps).families[i]? with
    | none =>
      have hge := List.getElem?_eq_none_iff.1 hold
      -- A family that is new has no token yet.
      have habsent : ∀ s, (run n steps).tokens[s]? ≠ some i := fun s hs =>
        absurd ((sound_run n steps).token s i hs) hge.not_gt
      obtain rfl := hmoves.family_of_new hge hf
      simp only [Bool.false_eq_true, false_iff, not_or, not_exists, not_and]
      refine ⟨fun s before htook hs => habsent s (token_of_earlier htook.prefix_steps hs), ?_⟩
      rintro ⟨s, -, hs⟩
      exact habsent s hs
    | some g =>
      rw [← ih hold]
      rcases hmoves.family_cases hold with
        ⟨hcancels, hnow⟩ | ⟨⟨v, q, rfl, -⟩, hnow⟩ | ⟨hcancels, hnow⟩
      all_goals obtain rfl := Option.some.inj (hnow.symm.trans hf)
      · simp [Family.cancelled_cancel, hcancels]
      · simp [Family.cancelled_register, Cancels]
      · simp [hcancels]

/-- A waiter is done when it was polled after its family was cancelled. -/
theorem done_iff_took (lawful : n.Lawful) (hr : (run n steps).waiters[w]? = some r) :
    r.stage = .done ↔
      ∃ before, Took steps before (.poll w) ∧
        ∃ q f, (run n before).waiter? w = some (q, f) ∧ f.cancelled = true := by
  induction steps using List.reverseRecOn generalizing r with
  | nil => cases hr
  | append_singleton steps x ih =>
    have hmoves := moves_run n steps x
    rw [exists_took_concat_iff]
    cases hold : (run n steps).waiters[w]? with
    | none =>
      obtain ⟨-, hidle, -⟩ := hmoves.waiter_of_new (List.getElem?_eq_none_iff.1 hold) hr
      simp only [hidle, reduceCtorEq, false_iff, not_or, not_exists, not_and]
      refine ⟨fun before htook q f hq => ?_, fun _ q f hq => ?_⟩
      · obtain ⟨q', hq', -⟩ := waiter_of_earlier htook.prefix_steps (waiter?_eq_some_iff.1 hq).1
        cases hold.symm.trans hq'
      · cases hold.symm.trans (waiter?_eq_some_iff.1 hq).1
    | some q =>
      obtain ⟨f, hf, hfits⟩ := (sound_run n steps).waiter w q hold
      rw [← ih hold]
      rcases hmoves.waiter_cases hold hf with ⟨rfl, -, hnow⟩ | ⟨hne, hnow⟩
      · obtain rfl := Option.some.inj (hnow.symm.trans hr)
        rw [hfits.poll_eq_done_iff lawful ((sound_run n steps).family _ _ hf)]
        simp [waiter?_eq_some_iff.2 ⟨hold, hf⟩]
      · obtain rfl := Option.some.inj (hnow.symm.trans hr)
        simp [hne]

/-- A clone has the family of its model. -/
theorem token_of_clonedFrom (h : ClonedFrom steps s t) :
    ∃ i, (run n steps).tokens[s]? = some i ∧ (run n steps).tokens[t]? = some i := by
  obtain ⟨before, htook, hs, rfl⟩ := h
  obtain ⟨i, hi⟩ := (exists_token_iff (n := n)).2 hs
  refine ⟨i, token_of_earlier htook.prefix_steps hi, token_of_earlier htook ?_⟩
  rw [run_concat, ← (length_run n before).1]
  simp [perform, clone, hi]

theorem token_of_sameFamily (h : SameFamily steps s t) :
    (run n steps).tokens[s]? = (run n steps).tokens[t]? := by
  induction h with
  | rel s t h =>
    obtain ⟨i, hs, ht⟩ := token_of_clonedFrom (n := n) h
    rw [hs, ht]
  | refl s => rfl
  | symm s t _ ih => exact ih.symm
  | trans s t u _ _ ihs iht => exact ihs.trans iht

/-- The token that a step makes belongs with the older tokens of its family. -/
theorem sameFamily_of_new {x : CancellationStep} {j : Nat}
    (older : ∀ s t i, (run n steps).tokens[s]? = some i → (run n steps).tokens[t]? = some i →
      SameFamily steps s t)
    (hj : x = .newToken ∧ j = (run n steps).families.length ∨
      ∃ u, x = .clone u ∧ (run n steps).tokens[u]? = some j)
    (hs : (run n steps).tokens[s]? = some j) :
    SameFamily (steps ++ [x]) s (run n steps).tokens.length := by
  rcases hj with ⟨-, rfl⟩ | ⟨u, rfl, hu⟩
  · exact absurd ((sound_run n steps).token s _ hs) (Nat.lt_irrefl _)
  · have hclone : ClonedFrom (steps ++ [.clone u]) u (run n steps).tokens.length :=
      ⟨steps, took_last steps _, exists_token_iff.1 ⟨j, hu⟩, (length_run n steps).1⟩
    exact .trans _ u _ ((older s u j hs hu).mono (List.prefix_append _ _)) (.rel _ _ hclone)

theorem sameFamily_of_token (hs : (run n steps).tokens[s]? = some i)
    (ht : (run n steps).tokens[t]? = some i) : SameFamily steps s t := by
  induction steps using List.reverseRecOn generalizing s t i with
  | nil =>
    obtain rfl : s = 0 := by simpa [run] using (List.getElem?_eq_some_iff.1 hs).1
    obtain rfl : t = 0 := by simpa [run] using (List.getElem?_eq_some_iff.1 ht).1
    exact .refl 0
  | append_singleton steps x ih =>
    have older : ∀ s t i, (run n steps).tokens[s]? = some i → (run n steps).tokens[t]? = some i →
        SameFamily steps s t := fun s t i hs ht => ih hs ht
    rcases (moves_run n steps x).tokens_cases with ⟨j, heq, hj⟩ | heq
    · -- Each of the two tokens is an older one or the one that the step made.
      have hlookup : ∀ u i, (run n (steps ++ [x])).tokens[u]? = some i →
          (run n steps).tokens[u]? = some i ∨ u = (run n steps).tokens.length ∧ i = j := by
        intro u i hu
        rw [heq, List.getElem?_append] at hu
        split at hu
        · exact Or.inl hu
        · obtain ⟨hlt, hij⟩ := List.getElem?_eq_some_iff.1 hu
          simp only [List.length_singleton, List.getElem_singleton] at hlt hij
          exact Or.inr ⟨by omega, hij.symm⟩
      rcases hlookup s i hs with hs | ⟨rfl, hi⟩
      · rcases hlookup t i ht with ht | ⟨rfl, rfl⟩
        · exact (ih hs ht).mono (List.prefix_append _ _)
        · exact sameFamily_of_new older hj hs
      · subst hi
        rcases hlookup t i ht with ht | ⟨rfl, -⟩
        · exact .symm _ _ (sameFamily_of_new older hj ht)
        · exact .refl _
    · exact (ih (heq ▸ hs) (heq ▸ ht)).mono (List.prefix_append _ _)

/-- A waiter has the family of its token. -/
theorem waiter_of_waitsFor (h : WaitsFor steps w t) :
    ∃ r, (run n steps).waiters[w]? = some r ∧ (run n steps).tokens[t]? = some r.family := by
  obtain ⟨before, htook, ht, rfl⟩ := h
  obtain ⟨i, hi⟩ := (exists_token_iff (n := n)).2 ht
  have hr : (run n (before ++ [.wait t])).waiters[(census before).waiters]? =
      some { family := i } := by
    rw [run_concat, ← (length_run n before).2]
    simp [perform, wait, hi]
  obtain ⟨r, hnow, hfamily⟩ := waiter_of_earlier htook hr
  exact ⟨r, hnow, hfamily ▸ token_of_earlier htook.prefix_steps hi⟩

theorem exists_waitsFor (hr : (run n steps).waiters[w]? = some r) : ∃ t, WaitsFor steps w t := by
  induction steps using List.reverseRecOn generalizing r with
  | nil => cases hr
  | append_singleton steps x ih =>
    cases hold : (run n steps).waiters[w]? with
    | some q =>
      obtain ⟨t, before, htook, ht⟩ := ih hold
      exact ⟨t, before, htook.mono (List.prefix_append _ _), ht⟩
    | none =>
      obtain ⟨rfl, -, t, rfl, ht⟩ :=
        (moves_run n steps x).waiter_of_new (List.getElem?_eq_none_iff.1 hold) hr
      exact ⟨t, steps, took_last steps _, exists_token_iff.1 ⟨_, ht⟩, (length_run n steps).2⟩

theorem cancelledBy_iff :
    CancelledBy steps t ↔ ∃ i f, (run n steps).family? t = some (i, f) ∧ f.cancelled = true := by
  constructor
  · rintro ⟨before, s, htook, hs, hsame⟩
    obtain ⟨i, hi⟩ := (exists_token_iff (n := n)).2 hs
    have ht : (run n steps).tokens[t]? = some i := by
      rw [← token_of_sameFamily hsame, token_of_earlier htook.prefix_steps hi]
    have hf := List.getElem?_eq_getElem ((sound_run n steps).token t i ht)
    exact ⟨i, _, family?_eq_some_iff.2 ⟨ht, hf⟩, (cancelled_iff_took hf).2 ⟨s, before, htook, hi⟩⟩
  · rintro ⟨i, f, hfamily, hcancelled⟩
    obtain ⟨ht, hf⟩ := family?_eq_some_iff.1 hfamily
    obtain ⟨s, before, htook, hs⟩ := (cancelled_iff_took hf).1 hcancelled
    exact ⟨before, s, htook, exists_token_iff.1 ⟨i, hs⟩,
      sameFamily_of_token (token_of_earlier htook.prefix_steps hs) ht⟩

theorem wokenBy_iff (lawful : n.Lawful) :
    WokenBy steps w ↔ ∃ r, (run n steps).waiters[w]? = some r ∧ r.stage = .done := by
  constructor
  · rintro ⟨before, t, htook, hwaits, hcancelled⟩
    obtain ⟨q, hq, ht⟩ := waiter_of_waitsFor (n := n) hwaits
    obtain ⟨i, f, hfamily, hflag⟩ := (cancelledBy_iff (n := n)).1 hcancelled
    obtain ⟨ht', hf⟩ := family?_eq_some_iff.1 hfamily
    obtain rfl : q.family = i := Option.some.inj (ht.symm.trans ht')
    obtain ⟨r, hr, -⟩ := waiter_of_earlier htook.prefix_steps hq
    exact ⟨r, hr, (done_iff_took lawful hr).2
      ⟨before, htook, q, f, waiter?_eq_some_iff.2 ⟨hq, hf⟩, hflag⟩⟩
  · rintro ⟨r, hr, hdone⟩
    obtain ⟨before, htook, q, f, hwaiter, hflag⟩ := (done_iff_took lawful hr).1 hdone
    obtain ⟨hq, hf⟩ := waiter?_eq_some_iff.1 hwaiter
    obtain ⟨t, hwaits⟩ := exists_waitsFor hq
    obtain ⟨q', hq', ht⟩ := waiter_of_waitsFor (n := n) hwaits
    obtain rfl := Option.some.inj (hq.symm.trans hq')
    exact ⟨before, t, htook, hwaits,
      cancelledBy_iff.2 ⟨q.family, f, family?_eq_some_iff.2 ⟨ht, hf⟩, hflag⟩⟩

theorem tokenStates_eq_true_iff :
    c.tokenStates[t]? = some true ↔ ∃ i f, c.family? t = some (i, f) ∧ f.cancelled = true := by
  simp only [tokenStates, List.getElem?_map, Option.map_eq_some_iff, family?_eq_some_iff]
  constructor
  · rintro ⟨i, ht, hflag⟩
    cases hf : c.families[i]? with
    | none => simp [hf] at hflag
    | some f => exact ⟨i, f, ⟨ht, hf⟩, by simpa [hf] using hflag⟩
  · rintro ⟨i, f, ⟨ht, hf⟩, hflag⟩
    exact ⟨i, ht, by simpa [hf] using hflag⟩

theorem waiterStates_eq_true_iff :
    c.waiterStates[w]? = some true ↔ ∃ r, c.waiters[w]? = some r ∧ r.stage = .done := by
  simp [waiterStates, WaiterStage.isDone_iff]

/-- A step that does not touch the family of a token leaves the family and its waiters alone. -/
theorem untouched {step : CancellationStep} (ht : t < (census steps).tokens)
    (h : ¬ Touches steps step t) :
    (run n (steps ++ [step])).family? t = (run n steps).family? t ∧
      ∀ w s, WaitsFor steps w s → SameFamily steps s t →
        (run n (steps ++ [step])).waiters[w]? = (run n steps).waiters[w]? := by
  constructor
  · obtain ⟨i, hi⟩ := (exists_token_iff (n := n)).2 ht
    have hf := List.getElem?_eq_getElem ((sound_run n steps).token t i hi)
    have hi' := token_of_earlier (List.prefix_append steps [step]) hi
    rw [family?_eq_some_iff.2 ⟨hi, hf⟩]
    refine family?_eq_some_iff.2 ⟨hi', ?_⟩
    rcases (moves_run n steps step).family_cases hf with
      ⟨⟨s, rfl, hs⟩, -⟩ | ⟨⟨w, r, rfl, hr, hri⟩, -⟩ | ⟨-, hnow⟩
    · exact absurd (Or.inl ⟨s, rfl, sameFamily_of_token hs hi⟩) h
    · obtain ⟨s, hwaits⟩ := exists_waitsFor hr
      obtain ⟨r', hr', hs⟩ := waiter_of_waitsFor (n := n) hwaits
      obtain rfl := Option.some.inj (hr.symm.trans hr')
      exact absurd (Or.inr ⟨w, s, rfl, hwaits, sameFamily_of_token hs (hri ▸ hi)⟩) h
    · exact hnow
  · intro w s hwaits hsame
    obtain ⟨r, hr, -⟩ := waiter_of_waitsFor (n := n) hwaits
    obtain ⟨f, hf, -⟩ := (sound_run n steps).waiter w r hr
    rw [hr]
    rcases (moves_run n steps step).waiter_cases hr hf with ⟨rfl, -⟩ | ⟨-, hnow⟩
    · exact absurd (Or.inr ⟨w, s, rfl, hwaits, hsame⟩) h
    · exact hnow

/-- The states that are reported after every one of some steps are those of the runs so far. -/
theorem getElem?_performAll (steps : List CancellationStep) (k : Nat) :
    (performAll ({} : Tokens n) steps)[k]? =
      if k < steps.length then some (run n (steps.take (k + 1))) else none := by
  suffices h : ∀ c : Tokens n, (performAll c steps)[k]? =
      if k < steps.length then some ((steps.take (k + 1)).foldl perform c) else none from h {}
  induction steps generalizing k with
  | nil => simp [performAll]
  | cons step steps ih =>
    intro c
    cases k with
    | zero => simp [performAll]
    | succ k => simp [performAll, ih]

/-- Cancellation loses no wake-up and makes none up.  A token is cancelled exactly when one of its
family was cancelled, and a waiter is done exactly when it was polled after that.  Neither is ever
undone, and a step that does not touch a family changes nothing of it. -/
theorem wakes_exactly_the_cancelled (lawful : n.Lawful) (steps : List CancellationStep) :
    (run n steps).tokenStates.length = (census steps).tokens ∧
    (run n steps).waiterStates.length = (census steps).waiters ∧
    (∀ t : Nat, (run n steps).tokenStates[t]? = some true ↔ CancelledBy steps t) ∧
    (∀ w : Nat, (run n steps).waiterStates[w]? = some true ↔ WokenBy steps w) ∧
    (∀ more,
      (∀ t : Nat, (run n steps).tokenStates[t]? = some true →
        (run n (steps ++ more)).tokenStates[t]? = some true) ∧
      ∀ w : Nat, (run n steps).waiterStates[w]? = some true →
        (run n (steps ++ more)).waiterStates[w]? = some true) ∧
    ∀ step t, t < (census steps).tokens → ¬ Touches steps step t →
      (run n (steps ++ [step])).family? t = (run n steps).family? t ∧
        ∀ w s, WaitsFor steps w s → SameFamily steps s t →
          (run n (steps ++ [step])).waiters[w]? = (run n steps).waiters[w]? := by
  have htokens : ∀ (steps : List CancellationStep) (t : Nat),
      (run n steps).tokenStates[t]? = some true ↔ CancelledBy steps t := fun steps t =>
    tokenStates_eq_true_iff.trans cancelledBy_iff.symm
  have hwaiters : ∀ (steps : List CancellationStep) (w : Nat),
      (run n steps).waiterStates[w]? = some true ↔ WokenBy steps w := fun steps w =>
    waiterStates_eq_true_iff.trans (wokenBy_iff lawful).symm
  refine ⟨?_, ?_, htokens steps, hwaiters steps, fun more => ⟨fun t ht => ?_, fun w hw => ?_⟩,
    fun step t ht h => untouched ht h⟩
  · rw [tokenStates, List.length_map, (length_run n steps).1]
  · rw [waiterStates, List.length_map, (length_run n steps).2]
  · exact (htokens _ t).2 (((htokens steps t).1 ht).mono (List.prefix_append _ _))
  · exact (hwaiters _ w).2 (((hwaiters steps w).1 hw).mono (List.prefix_append _ _))

/-- A waiter that was polled before a clone is cancelled is done after the next poll. -/
theorem wakes_exactly_the_cancelled_clone :
    Notifier.counting.Lawful ∧
      CancelledBy [.wait 0, .poll 0, .clone 0, .cancel 1, .poll 0] 0 ∧
      WokenBy [.wait 0, .poll 0, .clone 0, .cancel 1, .poll 0] 0 :=
  have h := wakes_exactly_the_cancelled Notifier.counting_lawful
    [.wait 0, .poll 0, .clone 0, .cancel 1, .poll 0]
  ⟨Notifier.counting_lawful, (h.2.2.1 0).1 (by decide), (h.2.2.2.1 0).1 (by decide)⟩

end Tokens

end ChatChain
