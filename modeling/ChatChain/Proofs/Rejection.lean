import ChatChain.Console.Bot
import ChatChain.Proofs.Execution
import ChatChain.Proofs.Handling

/-!
# Rejected chains do nothing

Everything that can be wrong with a chain before it runs is found before anything is done for it.
The first stage that finds something decides which error the user is told.

There are four groups.

* Resolving.  `Resolver.Fault` lists what can be wrong with one invocation of a message, and
  `resolveAll_eq_error_iff` says that the first faulty invocation decides.
* Binding and checking.  `bindAll_eq_error_iff` does the same for the bindings, and `Chain.Defect`
  lists what can be wrong with the chain as a whole.
* The message.  `Rejection` lists the stages in their order, and `rejection_iff` finds them in
  `Bot.prepare`.  `Faulty` says that something is wrong, at whatever stage.
* The result.  `handle_of_rejection` says that a rejected message leads to one reply, and
  `faulty_messages_are_rejected` puts everything together.
-/

namespace ChatChain

open Fallible

/-! ## Resolving -/

/-- Whether a command may not be used where the message was written. -/
def Command.Misplaced (c : Command) (m : Message) : Prop :=
  c.definition.guildOnly = true ∧ m.inGuild = false

namespace Resolver

variable {r : Resolver} {m : Message}

/-- What can be wrong with one command of a template, which must be registered. -/
inductive StepFault (r : Resolver) (m : Message) (i : Invocation) : ChainError → Prop
  | unknown (hnone : r.registered? i = none) : StepFault r m i (r.notFound i.name)
  | misplaced {c : Command} (hsome : r.registered? i = some c) (hplace : c.Misplaced m) :
      StepFault r m i (.command (.wrongEnvironment c.definition.name))

/-- The commands that a template holds for an invocation. -/
def templateCommands (r : Resolver) (t : Template) (i : Invocation) : List Invocation :=
  Invocation.parse r.grammar (fillIn t.body i.positional)

/-- What can be wrong with a template: it holds no command, it holds too many, or it holds a faulty
one. -/
inductive TemplateFault (r : Resolver) (m : Message) (t : Template) (i : Invocation) :
    ChainError → Prop
  | hollow (hempty : r.templateCommands t i = []) :
      TemplateFault r m t i (.store (.internal s!"template '{t.name}' contains no commands"))
  | overlong (hlong : r.templateLimit < (r.templateCommands t i).length) :
      TemplateFault r m t i
        (.command (.chainTooLong (r.templateCommands t i).length r.templateLimit))
  | within {e : ChainError} (hfits : (r.templateCommands t i).length ≤ r.templateLimit)
      (hfault : FirstFault (StepFault r m) (r.templateCommands t i) e) : TemplateFault r m t i e

/-- The template that an invocation means: that of the scope which it names, or else of the guild of
the message. -/
def templateOf (r : Resolver) (m : Message) (i : Invocation) : Except Failure (Option Template) :=
  r.store.findTemplate i.name (i.entity?.or m.guild?)

/-- What can be wrong with one invocation of a message. -/
inductive Fault (r : Resolver) (m : Message) (i : Invocation) : ChainError → Prop
  /-- It means a registered command that may not be used here. -/
  | misplaced {c : Command} (hsome : r.registered? i = some c) (hplace : c.Misplaced m) :
      Fault r m i (.command (.wrongEnvironment c.definition.name))
  /-- It means no registered command, and the templates cannot be asked. -/
  | unanswered {failure : Failure} (hnone : r.registered? i = none)
      (hfind : r.templateOf m i = .error failure) : Fault r m i (.store failure)
  /-- It means neither a registered command nor a template. -/
  | unknown (hnone : r.registered? i = none) (hfind : r.templateOf m i = .ok none) :
      Fault r m i (r.notFound i.name)
  /-- It means a faulty template. -/
  | template {t : Template} {e : ChainError} (hnone : r.registered? i = none)
      (hfind : r.templateOf m i = .ok (some t)) (hfault : TemplateFault r m t i e) : Fault r m i e

theorem checkPlace_eq_error_iff {c : Command} {e : ChainError} :
    checkPlace c m = .error e ↔
      c.Misplaced m ∧ e = .command (.wrongEnvironment c.definition.name) := by
  unfold checkPlace Definition.checkEnvironment Command.Misplaced
  cases c.definition.guildOnly <;> cases m.inGuild <;> simp [eq_comm]

theorem expandStep_eq_error_iff {t : Template} {caller i : Invocation} {e : ChainError} :
    r.expandStep t caller m i = .error e ↔ StepFault r m i e := by
  unfold expandStep
  cases hcommand : r.registered? i with
  | none =>
    constructor
    · intro h
      obtain rfl := Except.error.inj h
      exact .unknown hcommand
    · rintro (hnone | ⟨hsome, -⟩)
      · rfl
      · exact absurd (hcommand.symm.trans hsome) (by simp)
  | some c =>
    simp only [bind_eq_error_iff, pure_ne_error, and_false, exists_false, or_false,
      checkPlace_eq_error_iff]
    constructor
    · rintro ⟨hplace, rfl⟩
      exact .misplaced hcommand hplace
    · rintro (hnone | ⟨hsome, hplace⟩)
      · exact absurd (hcommand.symm.trans hnone) (by simp)
      · obtain rfl := Option.some.inj (hcommand.symm.trans hsome)
        exact ⟨hplace, rfl⟩

theorem expand_eq (t : Template) (i : Invocation) :
    r.expand t i m =
      if r.templateCommands t i = [] then
        .error (.store (.internal s!"template '{t.name}' contains no commands"))
      else if r.templateLimit < (r.templateCommands t i).length then
        .error (.command (.chainTooLong (r.templateCommands t i).length r.templateLimit))
      else (r.templateCommands t i).mapM (r.expandStep t i m) := rfl

theorem expand_eq_error_iff {t : Template} {i : Invocation} {e : ChainError} :
    r.expand t i m = .error e ↔ TemplateFault r m t i e := by
  rw [expand_eq]
  constructor
  · intro h
    split at h
    · next hempty =>
      obtain rfl := Except.error.inj h
      exact .hollow hempty
    · split at h
      · next hlong =>
        obtain rfl := Except.error.inj h
        exact .overlong hlong
      · next hfits =>
        refine .within (Nat.le_of_not_lt hfits) ?_
        exact (firstFault_congr fun _ _ => expandStep_eq_error_iff).1 (mapM_eq_error_iff.1 h)
  · intro h
    cases h with
    | hollow hempty => rw [if_pos hempty]
    | overlong hlong =>
      rw [if_neg (List.ne_nil_of_length_pos (Nat.zero_lt_of_lt hlong)), if_pos hlong]
    | within hfits hfault =>
      have hsome : r.templateCommands t i ≠ [] := fun hnil =>
        not_firstFault_nil (hnil ▸ hfault)
      rw [if_neg hsome, if_neg (Nat.not_lt_of_le hfits), mapM_eq_error_iff]
      exact (firstFault_congr fun _ _ => expandStep_eq_error_iff).2 hfault

theorem Fault.iff_of_registered {i : Invocation} {c : Command} {e : ChainError}
    (hsome : r.registered? i = some c) :
    Fault r m i e ↔ c.Misplaced m ∧ e = .command (.wrongEnvironment c.definition.name) := by
  constructor
  · intro h
    cases h with
    | misplaced hother hplace =>
      obtain rfl := Option.some.inj (hsome.symm.trans hother)
      exact ⟨hplace, rfl⟩
    | unanswered hnone => exact absurd (hsome.symm.trans hnone) (by simp)
    | unknown hnone => exact absurd (hsome.symm.trans hnone) (by simp)
    | template hnone => exact absurd (hsome.symm.trans hnone) (by simp)
  · rintro ⟨hplace, rfl⟩
    exact .misplaced hsome hplace

theorem Fault.iff_of_unregistered {i : Invocation} {e : ChainError}
    (hnone : r.registered? i = none) :
    Fault r m i e ↔ (∃ failure, r.templateOf m i = .error failure ∧ e = .store failure) ∨
      (r.templateOf m i = .ok none ∧ e = r.notFound i.name) ∨
      ∃ t, r.templateOf m i = .ok (some t) ∧ TemplateFault r m t i e := by
  constructor
  · intro h
    cases h with
    | misplaced hsome => exact absurd (hnone.symm.trans hsome) (by simp)
    | unanswered _ hfind => exact Or.inl ⟨_, hfind, rfl⟩
    | unknown _ hfind => exact Or.inr (Or.inl ⟨hfind, rfl⟩)
    | template _ hfind hfault => exact Or.inr (Or.inr ⟨_, hfind, hfault⟩)
  · rintro (⟨failure, hfind, rfl⟩ | ⟨hfind, rfl⟩ | ⟨t, hfind, hfault⟩)
    · exact .unanswered hnone hfind
    · exact .unknown hnone hfind
    · exact .template hnone hfind hfault

/-- An invocation has no steps exactly if something is wrong with it. -/
theorem resolve_eq_error_iff {i : Invocation} {e : ChainError} :
    r.resolve m i = .error e ↔ Fault r m i e := by
  unfold resolve
  cases hcommand : r.registered? i with
  | some c =>
    rw [Fault.iff_of_registered hcommand]
    simp only [bind_eq_error_iff, pure_ne_error, and_false, exists_false, or_false,
      checkPlace_eq_error_iff]
  | none =>
    rw [Fault.iff_of_unregistered hcommand, templateOf]
    cases r.store.findTemplate i.name (i.entity?.or m.guild?) with
    | error failure => simp [eq_comm]
    | ok found =>
      cases found with
      | none => simp [eq_comm]
      | some t => simp [expand_eq_error_iff]

/-- What can be wrong with an invocation at a position of a message, with the store as it is when
the invocation is looked up. -/
def FaultAt (r : Resolver) (m : Message) (i : Invocation × Nat) : ChainError → Prop :=
  (r.turn i.2).Fault m i.1

/-- Resolving fails with the first invocation that something is wrong with. -/
theorem resolveAll_eq_error_iff {invocations : List Invocation} {e : ChainError} :
    r.resolveAll m invocations = .error e ↔ FirstFault (FaultAt r m) invocations.zipIdx e := by
  unfold resolveAll
  simp only [bind_eq_error_iff, pure_ne_error, and_false, exists_false, or_false]
  rw [mapM_eq_error_iff]
  exact firstFault_congr fun _ _ => resolve_eq_error_iff

end Resolver

/-! ## Binding and checking -/

/-- What can be wrong with a step at a position of a chain: its arguments cannot be bound. -/
def ResolvedStep.Fault (s : ResolvedStep × Nat) (e : CommandError) : Prop :=
  s.1.bind (Chain.isPiped s.1.definition s.2) = .error e

namespace ResolvedStep

theorem bindFrom_eq_mapM (index : Nat) (steps : List ResolvedStep) :
    bindFrom index steps = (steps.zipIdx index).mapM fun s =>
      s.1.bind (Chain.isPiped s.1.definition s.2) := by
  induction steps generalizing index with
  | nil => rfl
  | cons s rest ih => rw [bindFrom, ih, List.zipIdx_cons, List.mapM_cons]

/-- Binding fails with the first step whose arguments cannot be bound. -/
theorem bindAll_eq_error_iff {steps : List ResolvedStep} {e : CommandError} :
    bindAll steps = .error e ↔ FirstFault Fault steps.zipIdx e := by
  unfold bindAll
  rw [bindFrom_eq_mapM, mapM_eq_error_iff]
  rfl

end ResolvedStep

/-- What is wrong with two commands in a row, of which the second does not take what the first one
produces. -/
def Definition.mismatch (source target : Definition) : CommandError :=
  if source.output = .nothing then .missingInput target.name source.name
  else .incompatibleChain source.name source.output target.name target.input

namespace Chain

/-- What can be wrong with a whole chain, given which kinds of input it is provided with.  It is too
long; or else its first command misses the input that it requires; or else two commands in a row do
not fit, and those before them do. -/
inductive Defect (provided : Kind → Prop) (limit : Nat) (chain : List Definition) :
    CommandError → Prop
  | overlong (hlong : limit < chain.length) :
      Defect provided limit chain (.chainTooLong chain.length limit)
  | inputless {first : Definition} (hfits : chain.length ≤ limit)
      (hfirst : first ∈ chain.head?) (hrequired : first.requireInput = true)
      (hmissing : ¬provided first.input) :
      Defect provided limit chain (.inputRequired first.name)
  | mismatched {earlier rest : List Definition} {source target : Definition}
      (hfits : chain.length ≤ limit)
      (hstart : ∀ first ∈ chain.head?, first.requireInput = true → provided first.input)
      (hchain : chain = earlier ++ source :: target :: rest)
      (hearlier : (earlier ++ [source]).IsChain Definition.Feeds)
      (hmismatch : ¬source.Feeds target) :
      Defect provided limit chain (source.mismatch target)

/-- Only the input of the first command is asked for. -/
theorem Defect.congr {provided provided' : Kind → Prop} {limit : Nat} {chain : List Definition}
    {e : CommandError} (h : Defect provided limit chain e)
    (hsame : ∀ first ∈ chain.head?, (provided first.input ↔ provided' first.input)) :
    Defect provided' limit chain e := by
  cases h with
  | overlong hlong => exact .overlong hlong
  | inputless hfits hfirst hrequired hmissing =>
    exact .inputless hfits hfirst hrequired (mt (hsame _ hfirst).2 hmissing)
  | mismatched hfits hstart hchain hearlier hmismatch =>
    exact .mismatched hfits
      (fun first hfirst hrequired => (hsame first hfirst).1 (hstart first hfirst hrequired)) hchain
      hearlier hmismatch

/-- Commands fit when every two of them in a row do. -/
theorem isChain_feeds_iff {chain : List Definition} :
    chain.IsChain Definition.Feeds ↔ ∀ (k : Nat) (source target : Definition),
      chain[k]? = some source → chain[k + 1]? = some target → source.output = target.input := by
  rw [List.isChain_iff_getElem]
  constructor
  · intro h k source target hsource htarget
    obtain ⟨hk, rfl⟩ := List.getElem?_eq_some_iff.1 hsource
    obtain ⟨hk', rfl⟩ := List.getElem?_eq_some_iff.1 htarget
    exact h k hk'
  · intro h k hk
    exact h k _ _ (List.getElem?_eq_getElem _) (List.getElem?_eq_getElem _)

theorem pairError?_eq_some_iff {source target : Definition} {e : CommandError} :
    pairError? source target = some e ↔ ¬source.Feeds target ∧ e = source.mismatch target := by
  unfold pairError? compatible Definition.Feeds Definition.mismatch
  by_cases hfits : source.output = target.input
  · simp [hfits]
  · simp only [beq_iff_eq, hfits, if_false, not_false_eq_true, true_and]
    split <;> simp [eq_comm]

/-- The leftmost pair that does not fit decides. -/
theorem linkError?_eq_some_iff {chain : List Definition} {e : CommandError} :
    linkError? chain = some e ↔ ∃ earlier source target rest,
      chain = earlier ++ source :: target :: rest ∧
        (earlier ++ [source]).IsChain Definition.Feeds ∧ ¬source.Feeds target ∧
        e = source.mismatch target := by
  induction chain with
  | nil => simp [linkError?]
  | cons first others ih =>
    cases others with
    | nil =>
      refine iff_of_false (by simp [linkError?]) ?_
      rintro ⟨earlier, source, target, rest, hchain, -⟩
      have hlength := congrArg List.length hchain
      simp only [List.length_append, List.length_cons, List.length_nil] at hlength
      omega
    | cons second others =>
      rw [linkError?, Option.or_eq_some_iff, pairError?_eq_some_iff, pairError?_eq_none_iff, ih]
      constructor
      · rintro (⟨hmismatch, rfl⟩ | ⟨hfits, earlier, source, target, rest, hchain, hearlier, h⟩)
        · exact ⟨[], first, second, others, rfl, .singleton first, hmismatch, rfl⟩
        · refine ⟨first :: earlier, source, target, rest, by rw [hchain, List.cons_append], ?_, h⟩
          refine hearlier.cons fun next hnext => ?_
          obtain rfl : second = next := by
            cases earlier with
            | nil => simpa [(List.cons.inj hchain).1] using hnext
            | cons d earlier => simpa [(List.cons.inj hchain).1] using hnext
          exact hfits
      · rintro ⟨earlier, source, target, rest, hchain, hearlier, hmismatch, he⟩
        cases earlier with
        | nil =>
          obtain ⟨rfl, hothers⟩ := List.cons.inj hchain
          obtain ⟨rfl, -⟩ := List.cons.inj hothers
          exact Or.inl ⟨hmismatch, he⟩
        | cons d earlier =>
          obtain ⟨rfl, hothers⟩ := List.cons.inj hchain
          refine Or.inr ⟨hearlier.rel_head? ?_, earlier, source, target, rest, hothers,
            hearlier.tail, hmismatch, he⟩
          cases earlier with
          | nil => simp [(List.cons.inj hothers).1]
          | cons d earlier => simp [(List.cons.inj hothers).1]

theorem startError?_eq_some_iff {chain : List Definition} {seed? : Option Kind}
    {e : CommandError} :
    startError? seed? chain = some e ↔ ∃ first ∈ chain.head?,
      first.requireInput = true ∧ seed? ≠ some first.input ∧ e = .inputRequired first.name := by
  cases chain with
  | nil => simp [startError?]
  | cons first rest =>
    rw [startError?]
    constructor
    · intro h
      split at h
      · next hmissing =>
        obtain rfl := Option.some.inj h
        exact ⟨first, rfl, hmissing.1, hmissing.2, rfl⟩
      · exact absurd h (by simp)
    · rintro ⟨other, hother, hrequired, hmissing, rfl⟩
      obtain rfl := Option.some.inj hother
      rw [if_pos ⟨hrequired, hmissing⟩]

/-- The check refuses a chain exactly for its first defect. -/
theorem check_eq_error_iff {chain : List Definition} {seed? : Option Kind} {limit : Nat}
    {e : CommandError} :
    check chain seed? limit = .error e ↔ Defect (fun kind => seed? = some kind) limit chain e := by
  have hcheck : check chain seed? limit = .error e ↔ error? chain seed? limit = some e := by
    unfold check
    cases error? chain seed? limit <;> simp
  rw [hcheck, error?]
  constructor
  · intro h
    split at h
    · next hlong =>
      obtain rfl := Option.some.inj h
      exact .overlong hlong
    · next hfits =>
      have hfits := Nat.le_of_not_lt hfits
      rw [Option.or_eq_some_iff, startError?_eq_some_iff, startError?_eq_none_iff,
        linkError?_eq_some_iff] at h
      rcases h with ⟨first, hfirst, hrequired, hmissing, rfl⟩ |
        ⟨hstart, earlier, source, target, rest, hchain, hearlier, hmismatch, rfl⟩
      · exact .inputless hfits hfirst hrequired hmissing
      · exact .mismatched hfits hstart hchain hearlier hmismatch
  · intro h
    cases h with
    | overlong hlong => rw [if_pos hlong]
    | inputless hfits hfirst hrequired hmissing =>
      rw [if_neg (Nat.not_lt_of_le hfits), Option.or_eq_some_iff, startError?_eq_some_iff]
      exact Or.inl ⟨_, hfirst, hrequired, hmissing, rfl⟩
    | mismatched hfits hstart hchain hearlier hmismatch =>
      rw [if_neg (Nat.not_lt_of_le hfits), Option.or_eq_some_iff, startError?_eq_none_iff,
        linkError?_eq_some_iff]
      exact Or.inr ⟨hstart, _, _, _, _, hchain, hearlier, hmismatch, rfl⟩

end Chain

/-! ## The message -/

namespace Bot

variable {σ : Type} {b : Bot σ} {m : Message} {chainId : String} {w w' : World σ} {r r' : Report}

/-- Whether the attachments of a message provide a chain with input of a kind. -/
def Provides (m : Message) (kind : Kind) : Prop :=
  m.attachments ≠ [] ∧ kind = .files

/-- The stages at which a message may be rejected, each after those above it, and the error that the
user is told. -/
inductive Rejection (b : Bot σ) (m : Message) : ChainError → Prop
  /-- It is unknown whether the message is to be left alone. -/
  | unasked {failure : Failure} (hban : b.store.isBanned m.author m.guild? = .error failure) :
      Rejection b m (.store failure)
  | unresolved {e : ChainError} (hban : b.store.isBanned m.author m.guild? = .ok false)
      (hfault : FirstFault (b.resolver.FaultAt m)
        (Invocation.parse b.grammar m.content).zipIdx e) : Rejection b m e
  | unbound {steps : List ResolvedStep} {e : CommandError}
      (hban : b.store.isBanned m.author m.guild? = .ok false)
      (hresolve : b.resolver.resolveAll m (Invocation.parse b.grammar m.content) = .ok steps)
      (hfault : FirstFault ResolvedStep.Fault steps.zipIdx e) : Rejection b m (.command e)
  | unfit {steps : List ResolvedStep} {chain : List ChainStep} {e : CommandError}
      (hban : b.store.isBanned m.author m.guild? = .ok false)
      (hresolve : b.resolver.resolveAll m (Invocation.parse b.grammar m.content) = .ok steps)
      (hbind : ResolvedStep.bindAll steps = .ok chain)
      (hdefect : Chain.Defect (Provides m) b.chainLimit (chain.map ChainStep.definition) e) :
      Rejection b m (.command e)

/-- A chain is checked for the input that the attachments provide it with. -/
theorem seedKind?_eq_some_iff {chain : List ChainStep} {first : Definition}
    (hfirst : first ∈ (chain.map ChainStep.definition).head?) :
    seedKind? chain m = some first.input ↔ Provides m first.input := by
  cases chain with
  | nil => simp at hfirst
  | cons step rest =>
    obtain rfl : step.definition = first := by simpa using hfirst
    have hstarts : startsWithAttachments (step :: rest) m = true ↔
        Provides m step.definition.input := by
      simp [startsWithAttachments, Provides]
    unfold seedKind?
    by_cases hprovides : Provides m step.definition.input
    · rw [if_pos (hstarts.2 hprovides)]
      exact iff_of_true (congrArg some hprovides.2.symm) hprovides
    · rw [if_neg (mt hstarts.1 hprovides)]
      exact iff_of_false (by simp) hprovides

theorem check_eq_error_iff {chain : List ChainStep} {e : ChainError} :
    (b.executor m).check chain (seedKind? chain m) = .error e ↔
      ∃ c, Chain.Defect (Provides m) b.chainLimit (chain.map ChainStep.definition) c ∧
        e = .command c := by
  rw [Executor.check_eq_error]
  refine exists_congr fun c => and_congr_left fun _ => ?_
  rw [Chain.check_eq_error_iff]
  exact ⟨fun h => h.congr fun _ => seedKind?_eq_some_iff,
    fun h => h.congr fun _ hfirst => (seedKind?_eq_some_iff hfirst).symm⟩

/-- Of a message that is not left alone it is unknown whether it is banned, or it is not. -/
theorem isBanned_of_attended (hattended : ¬b.Ignores m) :
    (∃ failure, b.store.isBanned m.author m.guild? = .error failure) ∨
      b.store.isBanned m.author m.guild? = .ok false := by
  cases hban : b.store.isBanned m.author m.guild? with
  | error failure => exact Or.inl ⟨failure, rfl⟩
  | ok banned =>
    cases banned with
    | true => exact absurd (Or.inr hban) hattended
    | false => exact Or.inr rfl

/-- As long as it is unknown whether a message is banned, nothing else is looked at. -/
theorem Rejection.eq_of_unasked {failure : Failure} {e : ChainError} (h : Rejection b m e)
    (hban : b.store.isBanned m.author m.guild? = .error failure) : e = .store failure := by
  cases h with
  | unasked hunasked => rw [Except.error.inj (hban.symm.trans hunasked)]
  | unresolved hfree => exact absurd (hban.symm.trans hfree) (by simp)
  | unbound hfree => exact absurd (hban.symm.trans hfree) (by simp)
  | unfit hfree => exact absurd (hban.symm.trans hfree) (by simp)

/-- A message that is not banned is rejected exactly if it cannot be made ready. -/
theorem rejection_iff (hban : b.store.isBanned m.author m.guild? = .ok false) {e : ChainError} :
    Rejection b m e ↔
      (b.prepare m (Invocation.parse b.grammar m.content) r).2 = .error e := by
  constructor
  · intro h
    unfold prepare
    cases h with
    | unasked hunasked => exact absurd (hban.symm.trans hunasked) (by simp)
    | unresolved hban hfault => simp only [Resolver.resolveAll_eq_error_iff.2 hfault]
    | unbound hban hresolve hfault =>
      simp only [hresolve, ResolvedStep.bindAll_eq_error_iff.2 hfault]
    | unfit hban hresolve hbind hdefect =>
      have hcheck := check_eq_error_iff.2 ⟨_, hdefect, rfl⟩
      unfold seedKind? at hcheck
      simp only [hresolve, hbind, hcheck]
  · intro h
    have hprepared := prepare_cases b m (Invocation.parse b.grammar m.content) r
    rw [h] at hprepared
    generalize (b.prepare m (Invocation.parse b.grammar m.content) r).1 = r₁ at hprepared
    cases hprepared with
    | unresolved hresolve => exact .unresolved hban (Resolver.resolveAll_eq_error_iff.1 hresolve)
    | unbound hresolve hbind =>
      exact .unbound hban hresolve (ResolvedStep.bindAll_eq_error_iff.1 hbind)
    | unfit hresolve hbind hcheck =>
      obtain ⟨c, hdefect, rfl⟩ := check_eq_error_iff.1 hcheck
      exact .unfit hban hresolve hbind hdefect

/-- A message is rejected for one reason only. -/
theorem Rejection.unique (hattended : ¬b.Ignores m) {e e' : ChainError} (h : Rejection b m e)
    (h' : Rejection b m e') : e = e' := by
  rcases isBanned_of_attended hattended with ⟨failure, hban⟩ | hban
  · rw [h.eq_of_unasked hban, h'.eq_of_unasked hban]
  · have herror := (rejection_iff (r := b.firstReport m) hban).1 h
    have herror' := (rejection_iff (r := b.firstReport m) hban).1 h'
    exact Except.error.inj (herror.symm.trans herror')

/-- A chain that is checked is neither too long nor without its input, and all its commands fit. -/
theorem check_eq_ok_iff {chain : List ChainStep} :
    (b.executor m).check chain (seedKind? chain m) = .ok () ↔
      chain.length ≤ b.chainLimit ∧
        (∀ first ∈ chain.head?, first.definition.requireInput = true →
          Provides m first.definition.input) ∧
        (chain.map ChainStep.definition).IsChain Definition.Feeds := by
  rw [Executor.check_eq_ok, Chain.check_eq_ok_iff, List.length_map]
  refine and_congr_right fun _ => and_congr_left fun _ => ?_
  cases chain with
  | nil => simp
  | cons first rest =>
    have hfirst : first.definition ∈ ((first :: rest).map ChainStep.definition).head? := rfl
    simp [seedKind?_eq_some_iff hfirst]

/-- Whether something is wrong with a chain as a whole: it is too long, its first command misses the
input that it requires, or two commands in a row do not fit. -/
inductive Unfit (b : Bot σ) (m : Message) (chain : List ChainStep) : Prop
  | overlong (hlong : b.chainLimit < chain.length)
  | inputless {first : ChainStep} (hfirst : first ∈ chain.head?)
      (hrequired : first.definition.requireInput = true)
      (hmissing : ¬Provides m first.definition.input)
  | mismatched {k : Nat} {source target : ChainStep} (hsource : chain[k]? = some source)
      (htarget : chain[k + 1]? = some target)
      (hmismatch : source.definition.output ≠ target.definition.input)

theorem Unfit.check_ne_ok {chain : List ChainStep} (h : Unfit b m chain) :
    (b.executor m).check chain (seedKind? chain m) ≠ .ok () := by
  intro hcheck
  obtain ⟨hfits, hstart, hlinks⟩ := check_eq_ok_iff.1 hcheck
  cases h with
  | overlong hlong => exact absurd hlong (Nat.not_lt_of_le hfits)
  | inputless hfirst hrequired hmissing => exact hmissing (hstart _ hfirst hrequired)
  | @mismatched k source target hsource htarget hmismatch =>
    exact hmismatch (Chain.isChain_feeds_iff.1 hlinks k source.definition target.definition
      (by simp [hsource]) (by simp [htarget]))

/-- Whether something is wrong with a message that is not left alone: with its ban, with an
invocation, with a step, or with the chain as a whole. -/
inductive Faulty (b : Bot σ) (m : Message) : Prop
  | ban {failure : Failure} (hban : b.store.isBanned m.author m.guild? = .error failure)
  | invocation {i : Invocation × Nat} {e : ChainError}
      (hi : i ∈ (Invocation.parse b.grammar m.content).zipIdx)
      (hfault : b.resolver.FaultAt m i e)
  | step {steps : List ResolvedStep} {s : ResolvedStep × Nat} {e : CommandError}
      (hresolve : b.resolver.resolveAll m (Invocation.parse b.grammar m.content) = .ok steps)
      (hs : s ∈ steps.zipIdx) (hfault : ResolvedStep.Fault s e)
  | chain {steps : List ResolvedStep} {chain : List ChainStep}
      (hresolve : b.resolver.resolveAll m (Invocation.parse b.grammar m.content) = .ok steps)
      (hbind : ResolvedStep.bindAll steps = .ok chain) (hunfit : Unfit b m chain)

/-- Everything that is wrong with a message leads to a rejection. -/
theorem exists_rejection (hattended : ¬b.Ignores m) (h : Faulty b m) : ∃ e, Rejection b m e := by
  rcases isBanned_of_attended hattended with ⟨failure, hban⟩ | hban
  · exact ⟨_, .unasked hban⟩
  · -- What is not rejected was made ready, and then nothing is wrong with it.
    have hprepared := prepare_cases b m (Invocation.parse b.grammar m.content) (b.firstReport m)
    cases hresult : (b.prepare m (Invocation.parse b.grammar m.content) (b.firstReport m)).2 with
    | error e => exact ⟨e, (rejection_iff hban).2 hresult⟩
    | ok chain =>
      exfalso
      rw [hresult] at hprepared
      obtain ⟨steps, hresolve, hbind, hcheck⟩ := hprepared.of_ok
      cases h with
      | ban hunasked => exact absurd (hban.symm.trans hunasked) (by simp)
      | invocation hi hfault =>
        obtain ⟨e, hfirst⟩ := exists_firstFault hi hfault
        exact absurd (hresolve.symm.trans (Resolver.resolveAll_eq_error_iff.2 hfirst)) (by simp)
      | step hresolve' hs hfault =>
        obtain rfl := Except.ok.inj (hresolve.symm.trans hresolve')
        obtain ⟨e, hfirst⟩ := exists_firstFault hs hfault
        exact absurd (hbind.symm.trans (ResolvedStep.bindAll_eq_error_iff.2 hfirst)) (by simp)
      | chain hresolve' hbind' hunfit =>
        obtain rfl := Except.ok.inj (hresolve.symm.trans hresolve')
        obtain rfl := Except.ok.inj (hbind.symm.trans hbind')
        exact hunfit.check_ne_ok hcheck

/-! ## The result -/

/-- A message that is rejected leads to the reply for the error and to nothing else. -/
theorem handle_of_rejection (hattended : ¬b.Ignores m) {e : ChainError} (h : Rejection b m e)
    (chainId : String) (w : World σ) :
    ∃ r, Fresh r ∧ b.handle chainId m w = b.fail m r e false w := by
  have hsome : Invocation.parse b.grammar m.content ≠ [] := fun hnone => hattended (Or.inl hnone)
  rcases isBanned_of_attended hattended with ⟨failure, hban⟩ | hban
  · obtain rfl := h.eq_of_unasked hban
    refine ⟨_, fresh_firstReport b m, ?_⟩
    unfold handle
    simp only [hsome, if_false, hban]
    rfl
  · have hprepared := prepare_cases b m (Invocation.parse b.grammar m.content) (b.firstReport m)
    have herror := (rejection_iff (r := b.firstReport m) hban).1 h
    have hhandle : b.handle chainId m =
        b.handleInvocations chainId m (Invocation.parse b.grammar m.content) (b.firstReport m) := by
      unfold handle
      simp only [hsome, if_false, hban]
      rfl
    refine ⟨_, hprepared.fresh (fresh_firstReport b m), ?_⟩
    rw [hhandle]
    unfold handleInvocations
    simp only [herror]

/-- The reaction of the platform to the reply for an error. -/
def complaint (b : Bot σ) (m : Message) (e : ChainError) (w : World σ) : Reaction σ :=
  b.platform.react (.createMessage m.channel (b.errorPayload m e false)) w.files w.desk

/-- A call that returns changes the desk as the platform reacts to it. -/
theorem call_desk (p : Platform σ) (call : Call) (w : World σ) :
    (p.call call w).map (fun done => done.2.desk) =
      (p.react call w.files w.desk).delay?.map fun _ => (p.react call w.files w.desk).desk := by
  unfold Platform.call Platform.callAside
  simp only [Step.bind_apply, Step.pure_apply]
  cases (p.react call w.files w.desk).delay? with
  | none => rfl
  | some delay => rfl

/-- Nothing but the reaction to the reply for an error changes the desk. -/
theorem fail_desk (b : Bot σ) (m : Message) (r : Report) (e : ChainError) (w : World σ) :
    (b.fail m r e false w).map (fun done => done.2.desk) =
      (b.complaint m e w).delay?.map fun _ => (b.complaint m e w).desk := by
  unfold complaint errorPayload
  rw [← call_desk]
  unfold fail dispatch
  simp only [Bool.false_eq_true, if_false, Step.bind_apply, Step.pure_apply]
  generalize b.platform.call _ w = called
  cases called with
  | none => rfl
  | some done =>
    obtain ⟨result, w₁⟩ := done
    cases result <;> rfl

/-- Whether a message led to the reply for an error and to nothing else: one call was made, no task
was started and no file or directory was touched, and the report says nothing but the error. -/
structure OnlyComplains (b : Bot σ) (m : Message) (e : ChainError) (w w' : World σ) (r : Report) :
    Prop where
  events : ∃ record : CallRecord, w'.events = w.events ++ [.call record] ∧
    record.call = .createMessage m.channel (b.errorPayload m e false)
  files : w'.files = w.files
  handedOut : w'.handedOut = w.handedOut
  desk : w'.desk = (b.complaint m e w).desk
  stepsRun : r.stepsRun = 0
  cleanup : r.cleanup = {}
  failure? : r.failure? = some (b.failureOf e)

theorem onlyComplains_of_rejection (hattended : ¬b.Ignores m) {e : ChainError}
    (h : Rejection b m e) (hrun : b.handle chainId m w = some (r, w')) :
    OnlyComplains b m e w w' r := by
  obtain ⟨r₀, hfresh, hhandle⟩ := handle_of_rejection hattended h chainId w
  rw [hhandle] at hrun
  have hdesk := b.fail_desk m r₀ e w
  rw [hrun] at hdesk
  obtain ⟨-, -, hdesk⟩ := Option.map_eq_some_iff.1 hdesk.symm
  obtain ⟨record, hcall, hrecord, rfl⟩ := fail_eq_some hrun
  exact ⟨⟨record, hrecord.events, hcall⟩, hrecord.files, hrecord.handedOut, hdesk.symm,
    hfresh.stepsRun, hfresh.cleanup, rfl⟩

theorem handle_isSome_of_rejection (hattended : ¬b.Ignores m) {e : ChainError}
    (h : Rejection b m e) :
    (b.handle chainId m w).isSome = (b.complaint m e w).delay?.isSome := by
  obtain ⟨r₀, -, hhandle⟩ := handle_of_rejection hattended h chainId w
  have hdesk := congrArg Option.isSome (b.fail_desk m r₀ e w)
  rw [Option.isSome_map, Option.isSome_map] at hdesk
  rw [hhandle, hdesk]

end Bot

/-- A message with which something is wrong is rejected at the first stage that finds it, for one
reason.  All that it leads to is the reply for that: the handling returns when the call for it does,
and does nothing else.  The check that comes last accepts exactly the chains that are not too long,
start with the input that they require, and hold commands that fit. -/
theorem faulty_messages_are_rejected {σ : Type} {b : Bot σ} {m : Message}
    (hattended : ¬b.Ignores m) :
    (b.Faulty m → ∃ e, b.Rejection m e) ∧
    (∀ e e', b.Rejection m e → b.Rejection m e' → e = e') ∧
    (∀ e, b.Rejection m e → ∀ (chainId : String) (w : World σ),
      (b.handle chainId m w).isSome = (b.complaint m e w).delay?.isSome ∧
      ∀ r w', b.handle chainId m w = some (r, w') → b.OnlyComplains m e w w' r) ∧
    ∀ (chain : List Definition) (seed? : Option Kind) (limit : Nat),
      Chain.check chain seed? limit = .ok () ↔
        chain.length ≤ limit ∧
          (∀ first ∈ chain.head?, first.requireInput = true → seed? = some first.input) ∧
          ∀ (k : Nat) (source target : Definition), chain[k]? = some source →
            chain[k + 1]? = some target → source.output = target.input := by
  refine ⟨Bot.exists_rejection hattended, fun e e' h h' => h.unique hattended h', ?_, ?_⟩
  · intro e h chainId w
    exact ⟨Bot.handle_isSome_of_rejection hattended h, fun r w' =>
      Bot.onlyComplains_of_rejection hattended h⟩
  · intro chain seed? limit
    rw [← Chain.isChain_feeds_iff]
    exact Chain.check_eq_ok_iff

namespace Misfit

open Console

/-- A message that adds to a text. -/
def message : Message :=
  plainMessage "%echo hi %add"

/-- The steps of `%echo hi %add`. -/
def steps : List ResolvedStep :=
  [{ invocation := { name := "echo", positional := "hi" }, command := Builtin.echoCommand },
    { invocation := { name := "add" }, command := Builtin.addCommand }]

/-- The steps with their bindings. -/
def chain : List ChainStep :=
  [{ command := Builtin.echoCommand
     binding :=
      { values := Dict.ofList [("text", .text "hi")], explicit := Dict.ofList [("text", ())] } },
    { command := Builtin.addCommand
      binding := { values := Dict.ofList [("amount", .long 1)] } }]

/-- A text is nothing to add to, and the user is told so. -/
theorem is_rejected :
    ¬plainBot.Ignores message ∧ plainBot.Faulty message ∧
      ∃ e r w', plainBot.Rejection message e ∧
        plainBot.handle "1" message { desk := {} } = some (r, w') ∧
        plainBot.OnlyComplains message e { desk := {} } w' r ∧
        e.reasonCode = "incompatible_chain" := by
  have hattended : ¬plainBot.Ignores message := by
    rintro (hnone | hbanned)
    · exact absurd hnone (by decide +kernel)
    · exact absurd (Except.ok.inj hbanned) (by decide +kernel)
  have hresolve : plainBot.resolver.resolveAll message
      (Invocation.parse plainBot.grammar message.content) = .ok steps := by rfl
  have hbind : ResolvedStep.bindAll steps = .ok chain := by rfl
  have hfaulty : plainBot.Faulty message :=
    .chain hresolve hbind (.mismatched (k := 0) rfl rfl (by decide))
  obtain ⟨hrejected, -, honly, -⟩ := faulty_messages_are_rejected hattended
  obtain ⟨e, he⟩ := hrejected hfaulty
  obtain ⟨-, hcomplains⟩ := honly e he "1" { desk := {} }
  have hhandle : (plainBot.handle "1" message { desk := {} }).map
      (fun done => done.1.failure?.map ChainFailure.reasonCode) =
        some (some "incompatible_chain") := by decide +kernel
  obtain ⟨⟨r, w'⟩, hrun, hcode⟩ := Option.map_eq_some_iff.1 hhandle
  have hdone := hcomplains r w' hrun
  have hreported : r.failure?.map ChainFailure.reasonCode = some "incompatible_chain" := hcode
  rw [hdone.failure?] at hreported
  exact ⟨hattended, hfaulty, e, r, w', he, hrun, hdone, Option.some.inj hreported⟩

end Misfit

end ChatChain
