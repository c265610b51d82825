import ChatChain.Proofs.Alike
import ChatChain.Proofs.Reports

/-!
# Internal error texts stay inside

What a store, a platform, the temporary storage or a task says about an error of its own is for
operators.  It makes no difference to the calls on the platform, to their payloads, or to the
report.  What a task says for users is shown to them word for word.

There are four groups.

* Steps.  `Step.Alike` relates two steps that do the same to the world and have related answers, and
  `Step.Alike.bind` puts such steps in a row.
* Surroundings.  `Bot.Alike` relates two bots that differ in the texts of their internal failures
  only.
* Handling.  There is one lemma for each part of handling a message, up to `Bot.Alike.handle`.
* The result.  `shown_of_failed` follows a failure for users to the reply, and
  `internal_texts_stay_inside` puts the two sides together.
-/

namespace ChatChain

open Fallible

variable {σ : Type}

/-! ## Steps -/

namespace Step

variable {α β α' β' : Type}

/-- Whether two steps do the same to every world and have related answers. -/
def Alike (R : α → α' → Prop) (x : Step σ α) (x' : Step σ α') : Prop :=
  ∀ w, Option.Rel (fun done done' => R done.1 done'.1 ∧ done.2 = done'.2) (x w) (x' w)

namespace Alike

variable {R : α → α' → Prop} {S : β → β' → Prop}

theorem refl (x : Step σ α) : Alike Eq x x := by
  intro w
  cases x w with
  | none => exact .none
  | some done => exact .some ⟨rfl, rfl⟩

theorem pure {a : α} {a' : α'} (h : R a a') : Alike (σ := σ) R (Pure.pure a) (Pure.pure a') :=
  fun _ => .some ⟨h, rfl⟩

theorem failure : Alike (σ := σ) R Alternative.failure Alternative.failure :=
  fun _ => .none

/-- Steps that are alike may go on with steps that are alike on related answers. -/
theorem bind {x : Step σ α} {x' : Step σ α'} {f : α → Step σ β} {f' : α' → Step σ β'}
    (hx : Alike R x x') (hf : ∀ a a', R a a' → Alike S (f a) (f' a')) :
    Alike S (x >>= f) (x' >>= f') := by
  intro w
  rw [bind_apply, bind_apply]
  have hw := hx w
  generalize x w = done at hw ⊢
  generalize x' w = done' at hw ⊢
  cases hw with
  | none => exact .none
  | some h =>
    obtain ⟨hanswer, hworld⟩ := h
    simp only [Option.bind_some, hworld]
    exact hf _ _ hanswer _

/-- Steps that are alike with equal answers are the same. -/
theorem eq {x x' : Step σ α} (h : Alike Eq x x') : x = x' := by
  funext w
  have hw := h w
  generalize x w = done at hw ⊢
  generalize x' w = done' at hw ⊢
  cases hw with
  | none => rfl
  | some h => exact congrArg some (Prod.ext h.1 h.2)

end Alike

end Step

/-! ## Surroundings -/

/-- Whether two stores give the same answers and fail on the same questions. -/
structure StoreAccess.Alike (s s' : StoreAccess) : Prop where
  isBanned : ∀ author guild?,
    Agree Failure.Any Eq (s.isBanned author guild?) (s'.isBanned author guild?)
  findTemplate : ∀ name scope?,
    Agree Failure.Any Eq (s.findTemplate name scope?) (s'.findTemplate name scope?)

/-- Whether two platforms do the same on every call and let the same calls fail. -/
structure Platform.Alike (p p' : Platform σ) : Prop where
  limits : p.limits = p'.limits
  desk : ∀ call files desk, (p.react call files desk).desk = (p'.react call files desk).desk
  delay? : ∀ call files desk, (p.react call files desk).delay? = (p'.react call files desk).delay?
  result : ∀ call files desk,
    Agree Failure.Any Eq (p.react call files desk).result (p'.react call files desk).result
  download : ∀ m desk, (p.download m desk).1 = (p'.download m desk).1 ∧
    Routine.Alike Failure.Any (p.download m desk).2 (p'.download m desk).2
  ensureRoot : ∀ chainId desk, (p.ensureRoot chainId desk).2 = (p'.ensureRoot chainId desk).2 ∧
    Agree Failure.Any Eq (p.ensureRoot chainId desk).1 (p'.ensureRoot chainId desk).1

/-- Whether two registries hold commands that are alike under the same names. -/
def Registry.Alike (r r' : Registry) : Prop :=
  List.Forall₂ (fun entry entry' => entry.1 = entry'.1 ∧ entry.2.Alike entry'.2) r.commands.entries
    r'.commands.entries

/-- Whether two bots differ in the texts of their internal failures only. -/
structure Bot.Alike (b b' : Bot σ) : Prop where
  grammar : b.grammar = b'.grammar
  registry : b.registry.Alike b'.registry
  store : b.store.Alike b'.store
  platform : b.platform.Alike b'.platform
  chainLimit : b.chainLimit = b'.chainLimit
  templateLimit : b.templateLimit = b'.templateLimit
  stepTimeout? : b.stepTimeout? = b'.stepTimeout?
  cancelAt? : b.cancelAt? = b'.cancelAt?
  storeAt : ∀ index, (b.storeAt index).Alike (b'.storeAt index)
  stalls : b.stalls = b'.stalls
  downloadStall? : b.downloadStall? = b'.downloadStall?

namespace Registry.Alike

variable {r r' : Registry}

/-- The same names mean commands that are alike. -/
theorem find? (h : r.Alike r') (name : String) :
    Option.Rel Command.Alike (r.find? name) (r'.find? name) := by
  unfold Registry.Alike at h
  unfold Registry.find? Dict.get?
  generalize r.commands.entries = entries at h
  generalize r'.commands.entries = entries' at h
  induction h with
  | nil => exact .none
  | @cons entry entry' _ _ hentry _ ih =>
    obtain ⟨hname, hcommand⟩ := hentry
    obtain ⟨key, c⟩ := entry
    obtain ⟨key', c'⟩ := entry'
    obtain rfl : key = key' := hname
    rw [List.lookup_cons, List.lookup_cons]
    cases name == key with
    | true => exact .some hcommand
    | false => exact ih

theorem catalog (h : r.Alike r') : r.catalog = r'.catalog := by
  unfold Registry.Alike at h
  unfold Registry.catalog
  generalize r.commands.entries = entries at h
  generalize r'.commands.entries = entries' at h
  induction h with
  | nil => rfl
  | cons hentry _ ih => rw [List.map_cons, List.map_cons, hentry.2.definition, ih]

end Registry.Alike

/-! ## Handling -/

/-- Whether two steps of a message mean commands that are alike. -/
structure ResolvedStep.Alike (s s' : ResolvedStep) : Prop where
  invocation : s.invocation = s'.invocation
  command : s.command.Alike s'.command
  template? : s.template? = s'.template?

/-- Binding steps that are alike has results that are alike. -/
theorem ResolvedStep.bindFrom_alike {steps steps' : List ResolvedStep}
    (h : List.Forall₂ ResolvedStep.Alike steps steps') (index : Nat) :
    Agree Eq (List.Forall₂ ChainStep.Alike) (bindFrom index steps) (bindFrom index steps') := by
  induction h generalizing index with
  | nil => exact .ok .nil
  | @cons s s' _ _ hstep _ ih =>
    have hdefinition : s.definition = s'.definition := hstep.command.definition
    have hbind : ∀ piped, Agree Eq ChainStep.Alike (s.bind piped) (s'.bind piped) := by
      intro piped
      unfold ResolvedStep.bind
      rw [hdefinition, hstep.invocation]
      exact (Agree.refl (fun _ => rfl) _).bind fun _ _ hbinding =>
        .ok ⟨hstep.command, rfl, hbinding⟩
    unfold bindFrom
    rw [hdefinition]
    exact (hbind _).bind fun _ _ hfirst => (ih (index + 1)).bind fun _ _ hothers =>
      .ok (.cons hfirst hothers)

namespace Bot

variable {b b' : Bot σ} {m : Message}

/-- Whether two outcomes of the work of a chain are alike. -/
def AlikeOutcomes {α β : Type} (r r' : Except ChainError α × β) : Prop :=
  Agree ChainError.Alike Eq r.1 r'.1 ∧ r.2 = r'.2

theorem any_alike {chain chain' : List ChainStep} (h : List.Forall₂ ChainStep.Alike chain chain')
    (f : Definition → Bool) :
    (chain.any fun step => f step.definition) = chain'.any fun step => f step.definition := by
  have hdefinitions := congrArg (List.any · f) (map_definition_of_alike h)
  simpa [Function.comp_def] using hdefinitions

theorem startsWithAttachments_alike {chain chain' : List ChainStep}
    (h : List.Forall₂ ChainStep.Alike chain chain') :
    startsWithAttachments chain m = startsWithAttachments chain' m := by
  have hhead := congrArg (fun ds : List Definition => ds.head?.map Definition.input)
    (map_definition_of_alike h)
  simp only [List.head?_map, Option.map_map] at hhead
  exact congrArg (fun input? => !m.attachments.isEmpty && input? == some Kind.files) hhead

namespace Alike

theorem executor (h : b.Alike b') (m : Message) : b.executor m = b'.executor m := by
  unfold Bot.executor
  rw [h.registry.catalog, h.chainLimit, h.stepTimeout?, h.cancelAt?, h.stalls]

theorem registered? (h : b.Alike b') (i : Invocation) :
    Option.Rel Command.Alike (b.resolver.registered? i) (b'.resolver.registered? i) := by
  unfold Resolver.registered?
  cases i.entity? with
  | some entity => exact .none
  | none => exact h.registry.find? i.name

theorem checkPlace {c c' : Command} (h : c.Alike c') (m : Message) :
    Resolver.checkPlace c m = Resolver.checkPlace c' m := by
  unfold Resolver.checkPlace
  rw [h.definition]

theorem notFound (h : b.Alike b') (name : String) :
    b.resolver.notFound name = b'.resolver.notFound name := by
  unfold Resolver.notFound resolver
  rw [h.grammar]

theorem expandStep (h : b.Alike b') (t : Template) (caller i : Invocation) :
    Agree ChainError.Alike ResolvedStep.Alike (b.resolver.expandStep t caller m i)
      (b'.resolver.expandStep t caller m i) := by
  have hcommand := h.registered? i
  unfold Resolver.expandStep
  rw [h.notFound]
  generalize b.resolver.registered? i = command? at hcommand ⊢
  generalize b'.resolver.registered? i = command?' at hcommand ⊢
  cases hcommand with
  | none => exact .error (.refl _)
  | some hcommand =>
    simp only [checkPlace hcommand]
    refine (Agree.refl ChainError.Alike.refl _).bind fun _ _ _ => .ok ⟨?_, hcommand, rfl⟩
    simp only [Resolver.inherit, hcommand.definition]

theorem expand (h : b.Alike b') (t : Template) (caller : Invocation) :
    Agree ChainError.Alike (List.Forall₂ ResolvedStep.Alike) (b.resolver.expand t caller m)
      (b'.resolver.expand t caller m) := by
  have hgrammar : b.resolver.grammar = b'.resolver.grammar := h.grammar
  have hlimit : b.resolver.templateLimit = b'.resolver.templateLimit := h.templateLimit
  unfold Resolver.expand
  simp only [hgrammar, hlimit]
  split
  · exact .error (.refl _)
  · split
    · exact .error (.refl _)
    · exact .mapM fun i _ => h.expandStep t caller i

theorem resolve (h : b.Alike b') (i : Invocation) :
    Agree ChainError.Alike (List.Forall₂ ResolvedStep.Alike) (b.resolver.resolve m i)
      (b'.resolver.resolve m i) := by
  have hcommand := h.registered? i
  have hfound : Agree Failure.Any Eq (b.resolver.store.findTemplate i.name (i.entity?.or m.guild?))
      (b'.resolver.store.findTemplate i.name (i.entity?.or m.guild?)) :=
    h.store.findTemplate i.name _
  unfold Resolver.resolve
  rw [h.notFound]
  generalize b.resolver.registered? i = command? at hcommand ⊢
  generalize b'.resolver.registered? i = command?' at hcommand ⊢
  generalize b.resolver.store.findTemplate i.name _ = found at hfound ⊢
  generalize b'.resolver.store.findTemplate i.name _ = found' at hfound ⊢
  cases hcommand with
  | some hcommand =>
    simp only [checkPlace hcommand]
    exact (Agree.refl ChainError.Alike.refl _).bind fun _ _ _ =>
      .ok (.cons ⟨rfl, hcommand, rfl⟩ .nil)
  | none =>
    cases hfound with
    | error => exact .error (.store _ _)
    | ok hsame =>
      subst hsame
      cases ‹Option Template› with
      | none => exact .error (.refl _)
      | some t => exact h.expand t i

/-- Bots that are alike are so with their stores as they are at a position of a message. -/
theorem turn (h : b.Alike b') (index : Nat) :
    Bot.Alike { b with store := b.storeAt index, storeAt := fun _ => b.storeAt index }
      { b' with store := b'.storeAt index, storeAt := fun _ => b'.storeAt index } :=
  { h with
    store := h.storeAt index
    storeAt := fun _ => h.storeAt index }

theorem resolveAll (h : b.Alike b') (invocations : List Invocation) :
    Agree ChainError.Alike (List.Forall₂ ResolvedStep.Alike)
      (b.resolver.resolveAll m invocations) (b'.resolver.resolveAll m invocations) :=
  (Agree.mapM fun i _ => (h.turn i.2).resolve i.1).bind fun _ _ hparts =>
    .ok (List.rel_flatten hparts)

/-- Preparing a chain comes to the same report, and to chains or errors that are alike. -/
theorem prepare (h : b.Alike b') (invocations : List Invocation) (r : Report) :
    (b.prepare m invocations r).1 = (b'.prepare m invocations r).1 ∧
      Agree ChainError.Alike (List.Forall₂ ChainStep.Alike) (b.prepare m invocations r).2
        (b'.prepare m invocations r).2 := by
  have hresolve := h.resolveAll (m := m) invocations
  unfold Bot.prepare
  rw [h.executor]
  generalize b.resolver.resolveAll m invocations = resolved at hresolve ⊢
  generalize b'.resolver.resolveAll m invocations = resolved' at hresolve ⊢
  cases hresolve with
  | error he => exact ⟨rfl, .error he⟩
  | @ok steps steps' hsteps =>
    have hnames : (steps.map fun s : ResolvedStep => s.command.name) =
        steps'.map fun s : ResolvedStep => s.command.name :=
      List.forall₂_eq_eq_eq ▸ List.rel_map (fun _ _ hstep =>
        congrArg Definition.name hstep.command.definition) hsteps
    have hbind := ResolvedStep.bindFrom_alike hsteps 0
    simp only [hnames, ResolvedStep.bindAll]
    generalize ResolvedStep.bindFrom 0 steps = bound at hbind ⊢
    generalize ResolvedStep.bindFrom 0 steps' = bound' at hbind ⊢
    cases hbind with
    | error he => exact ⟨rfl, .error (he ▸ .refl _)⟩
    | @ok chain chain' hchain =>
      simp only [startsWithAttachments_alike hchain, Executor.check, map_definition_of_alike hchain]
      split
      · exact ⟨rfl, .error (.refl _)⟩
      · exact ⟨rfl, .ok hchain⟩

/-! ### Replying -/

theorem callAside (h : b.Alike b') (call : Call) :
    Step.Alike (fun r r' => Agree Failure.Any Eq r.1 r'.1 ∧ r.2 = r'.2)
      (b.platform.callAside call) (b'.platform.callAside call) := by
  intro w
  have hresult := h.platform.result call w.files w.desk
  have hsucceeded : (b.platform.react call w.files w.desk).result.isOk =
      (b'.platform.react call w.files w.desk).result.isOk := by
    generalize (b.platform.react call w.files w.desk).result = result at hresult ⊢
    generalize (b'.platform.react call w.files w.desk).result = result' at hresult ⊢
    cases hresult <;> rfl
  unfold Platform.callAside
  simp only [h.platform.delay?, h.platform.desk, hsucceeded]
  cases (b'.platform.react call w.files w.desk).delay? with
  | none => exact .none
  | some delay => exact .some ⟨⟨hresult, rfl⟩, rfl⟩

theorem call (h : b.Alike b') (call : Call) :
    Step.Alike (Agree Failure.Any Eq) (b.platform.call call) (b'.platform.call call) := by
  unfold Platform.call
  refine (h.callAside call).bind fun _ _ hresult => ?_
  simp only [hresult.2]
  exact (Step.Alike.refl _).bind fun _ _ _ => .pure hresult.1

theorem dispatch (h : b.Alike b') (payload : Payload) (deferred : Bool) :
    Step.Alike (Agree Failure.Any Eq) (b.dispatch m payload deferred)
      (b'.dispatch m payload deferred) := by
  have hmap : ∀ {x x' : Except Failure Unit} (reply : ReplyKind), Agree Failure.Any Eq x x' →
      Agree Failure.Any Eq (x.map fun _ => reply) (x'.map fun _ => reply) := by
    intro x x' reply hx
    cases hx with
    | error he => exact .error he
    | ok _ => exact .ok rfl
  unfold Bot.dispatch
  cases deferred with
  | true => exact (h.call _).bind fun _ _ hx => .pure (hmap .deferred hx)
  | false => exact (h.call _).bind fun _ _ hx => .pure (hmap .message hx)

theorem fail (h : b.Alike b') (r : Report) {e e' : ChainError} (he : e.Alike e') (deferred : Bool) :
    Step.Alike Eq (b.fail m r e deferred) (b'.fail m r e' deferred) := by
  unfold Bot.fail
  simp only [h.grammar, he.reply, he.reasonCode]
  refine (h.dispatch _ deferred).bind fun result result' hresult => ?_
  cases hresult with
  | error _ => exact .pure rfl
  | ok hreply =>
    subst hreply
    exact .pure rfl

theorem deliver (h : b.Alike b') (r : Report) {payload payload' : Except ChainError Payload}
    (hpayload : Agree ChainError.Alike Eq payload payload') (deferred : Bool) :
    Step.Alike Eq (b.deliver m r payload deferred) (b'.deliver m r payload' deferred) := by
  unfold Bot.deliver
  cases hpayload with
  | error he => exact h.fail r he deferred
  | ok hsame =>
    subst hsame
    refine (h.dispatch _ deferred).bind fun result result' hresult => ?_
    cases hresult with
    | error _ => exact h.fail r (.platform _ _) deferred
    | ok hreply =>
      subst hreply
      exact .pure rfl

/-! ### Running -/

variable {chain chain' : List ChainStep}

theorem runRoutine {α : Type} {R : Failure → Failure → Prop} {routine routine' : Routine α}
    (h : Routine.Alike R routine routine') (bounds : Routine.Bounds) (store : TempStore) :
    Step.Alike (σ := σ) (fun r r' => Routine.Ending.Alike R r.1 r'.1 ∧ r.2 = r'.2)
      (Bot.runRoutine bounds routine store) (Bot.runRoutine bounds routine' store) := by
  intro w
  obtain ⟨hending, hscene⟩ := h.run bounds (w.scene store)
  unfold Bot.runRoutine
  simp only [hscene]
  exact .some ⟨⟨hending, rfl⟩, rfl⟩

theorem seedOf (h : b.Alike b') {ending ending' : Routine.Ending (List FileHandle)}
    (hending : ending.Alike Failure.Any ending') :
    Option.Rel (Agree ChainError.Alike Eq) (b.seedOf ending) (b'.seedOf ending') := by
  cases hending with
  | failed _ => exact .some (.error (.platform _ _))
  | same =>
    have hsame : b.seedOf ending = b'.seedOf ending := by
      unfold Bot.seedOf
      rw [h.stepTimeout?]
    rw [hsame]
    cases b'.seedOf ending with
    | none => exact .none
    | some seed => exact .some (.refl ChainError.Alike.refl seed)

theorem downloadSeed (h : b.Alike b') (store : TempStore) :
    Step.Alike AlikeOutcomes (b.downloadSeed m store) (b'.downloadSeed m store) := by
  unfold Bot.downloadSeed
  rw [h.executor]
  refine (Step.Alike.refl _).bind fun w _ hw => ?_
  subst hw
  split
  · exact .pure ⟨.error (.refl _), rfl⟩
  · obtain ⟨hdesk, hroutine⟩ := h.platform.download m w.desk
    simp only [hdesk, h.downloadStall?]
    refine (Step.Alike.refl _).bind fun _ _ _ => ?_
    refine (runRoutine (hroutine.stalling _) _ store).bind fun result result' hresult => ?_
    have hseed := h.seedOf hresult.1
    simp only [hresult.2]
    generalize b.seedOf result.1 = seed at hseed ⊢
    generalize b'.seedOf result'.1 = seed' at hseed ⊢
    cases hseed with
    | none => exact .failure
    | some hseed => exact .pure ⟨hseed, rfl⟩

theorem fetchSeed (h : b.Alike b') (hchain : List.Forall₂ ChainStep.Alike chain chain')
    (store : TempStore) :
    Step.Alike AlikeOutcomes (b.fetchSeed m chain store) (b'.fetchSeed m chain' store) := by
  unfold Bot.fetchSeed
  rw [startsWithAttachments_alike hchain]
  split
  · exact h.downloadSeed store
  · exact .pure ⟨.ok rfl, rfl⟩

theorem work (h : b.Alike b') (hchain : List.Forall₂ ChainStep.Alike chain chain')
    (store : TempStore) :
    Step.Alike AlikeOutcomes (b.work m chain store) (b'.work m chain' store) := by
  unfold Bot.work
  rw [h.executor]
  refine (h.fetchSeed hchain store).bind fun fetched fetched' hfetched => ?_
  obtain ⟨seed, store₁⟩ := fetched
  obtain ⟨seed', store₁'⟩ := fetched'
  obtain ⟨hseed, hstore⟩ := hfetched
  obtain rfl : store₁ = store₁' := hstore
  cases hseed with
  | error he => exact .pure ⟨.error he, rfl⟩
  | ok hsame =>
    subst hsame
    refine (Step.Alike.refl _).bind fun w _ hw => ?_
    subst hw
    have hexecution := Executor.execute_alike (x := b'.executor m) hchain ‹Flow› (w.scene store₁)
    generalize (b'.executor m).execute chain _ _ = e at hexecution ⊢
    generalize (b'.executor m).execute chain' _ _ = e' at hexecution ⊢
    simp only [hexecution.scene, hexecution.runs, hexecution.steps]
    refine (Step.Alike.refl _).bind fun _ _ _ => ?_
    have hending := hexecution.ending
    generalize e.ending = ending at hending ⊢
    generalize e'.ending = ending' at hending ⊢
    cases hending with
    | failed he => exact .pure ⟨.error he, rfl⟩
    | same =>
      cases ending with
      | completed data => exact .pure ⟨.ok rfl, rfl⟩
      | failed e => exact .pure ⟨.error (.refl e), rfl⟩
      | stuck => exact .failure

theorem workTyping (h : b.Alike b') (hchain : List.Forall₂ ChainStep.Alike chain chain')
    (store : TempStore) :
    Step.Alike AlikeOutcomes (b.workTyping m chain store) (b'.workTyping m chain' store) :=
  (h.call _).bind fun _ _ _ => (h.work hchain store).bind fun _ _ houtcome =>
    (h.call _).bind fun _ _ _ => .pure houtcome

/-- The work is shown to the user in the same way. -/
theorem workVisibly (h : b.Alike b') (hchain : List.Forall₂ ChainStep.Alike chain chain')
    (store : TempStore) (ephemeral : Bool) :
    Step.Alike (fun r r' => r.1 = r'.1 ∧ AlikeOutcomes r.2 r'.2)
      (b.workVisibly m chain store ephemeral) (b'.workVisibly m chain' store ephemeral) := by
  unfold Bot.workVisibly
  rw [any_alike hchain Definition.deferReply]
  split
  · unfold Bot.workDeferred
    refine (h.callAside _).bind fun ack ack' hack => ?_
    simp only [hack.2]
    refine (h.work hchain store).bind fun _ _ houtcome => ?_
    refine (Step.Alike.refl _).bind fun _ _ _ => .pure ⟨?_, houtcome⟩
    obtain ⟨result, t⟩ := ack
    obtain ⟨result', t'⟩ := ack'
    cases hack.1 <;> rfl
  · exact (h.workTyping hchain store).bind fun _ _ houtcome => .pure ⟨rfl, houtcome⟩

theorem payloadOf (h : b.Alike b') (hchain : List.Forall₂ ChainStep.Alike chain chain')
    (files : FileSystem) (deferred : Bool) {outcome outcome' : Except ChainError Flow}
    (houtcome : Agree ChainError.Alike Eq outcome outcome') (steps : List StepSummary) :
    Agree ChainError.Alike Eq (b.payloadOf m chain files deferred outcome steps)
      (b'.payloadOf m chain' files deferred outcome' steps) := by
  unfold Bot.payloadOf
  rw [any_alike hchain Definition.ephemeralReply, h.platform.limits]
  cases houtcome with
  | error he => exact .error he
  | ok hsame =>
    subst hsame
    exact .refl ChainError.Alike.refl _

theorem runChain (h : b.Alike b') (hchain : List.Forall₂ ChainStep.Alike chain chain')
    (store : TempStore) (r : Report) :
    Step.Alike Eq (b.runChain m chain store r) (b'.runChain m chain' store r) := by
  have hwork : Step.Alike (fun r r' => r.1 = r'.1 ∧ AlikeOutcomes r.2 r'.2)
      (b.workVisibly m chain store (chain.any fun step => step.definition.ephemeralReply))
      (b'.workVisibly m chain' store (chain'.any fun step => step.definition.ephemeralReply)) := by
    rw [any_alike hchain Definition.ephemeralReply]
    exact h.workVisibly hchain store _
  unfold Bot.runChain
  refine hwork.bind fun done done' hdone => ?_
  obtain ⟨deferred, outcome, steps, store₁⟩ := done
  obtain ⟨deferred', outcome', steps', store₁'⟩ := done'
  obtain ⟨hdeferred, houtcome, hrest⟩ := hdone
  obtain rfl : deferred = deferred' := hdeferred
  obtain ⟨rfl, rfl⟩ : steps = steps' ∧ store₁ = store₁' := Prod.mk.inj hrest
  refine (Step.Alike.refl _).bind fun w _ hw => ?_
  subst hw
  have hpayload := h.payloadOf (m := m) hchain w.files deferred houtcome steps
  exact (h.deliver _ hpayload deferred).bind fun _ _ hreport => .pure (by rw [hreport])

/-! ### The whole -/

theorem openStore (h : b.Alike b') (chainId : String) :
    Step.Alike (Agree Failure.Any Eq) (b.openStore chainId) (b'.openStore chainId) := by
  intro w
  obtain ⟨hdesk, hroot⟩ := h.platform.ensureRoot chainId w.desk
  unfold Bot.openStore
  generalize b.platform.ensureRoot chainId w.desk = answer at hdesk hroot ⊢
  generalize b'.platform.ensureRoot chainId w.desk = answer' at hdesk hroot ⊢
  obtain ⟨root, desk⟩ := answer
  obtain ⟨root', desk'⟩ := answer'
  obtain rfl : desk = desk' := hdesk
  cases hroot with
  | error _ => exact .some ⟨.error trivial, rfl⟩
  | ok _ => exact .some ⟨.refl (fun _ => trivial) _, rfl⟩

theorem handleInvocations (h : b.Alike b') (chainId : String) (invocations : List Invocation)
    (r : Report) :
    Step.Alike Eq (b.handleInvocations chainId m invocations r)
      (b'.handleInvocations chainId m invocations r) := by
  obtain ⟨hreport, hprepared⟩ := h.prepare (m := m) invocations r
  unfold Bot.handleInvocations
  generalize b.prepare m invocations r = prepared at hreport hprepared ⊢
  generalize b'.prepare m invocations r = prepared' at hreport hprepared ⊢
  obtain ⟨r₁, result⟩ := prepared
  obtain ⟨r₁', result'⟩ := prepared'
  obtain rfl : r₁ = r₁' := hreport
  cases hprepared with
  | error he => exact h.fail r₁ he false
  | ok hchain =>
    refine (h.openStore chainId).bind fun opened opened' hopened => ?_
    cases hopened with
    | error _ => exact h.fail r₁ (.storage _ _) false
    | ok hstore =>
      subst hstore
      refine (h.runChain hchain _ r₁).bind fun done done' hdone => ?_
      subst hdone
      exact .refl _

/-- Bots that are alike handle every message alike. -/
theorem handle (h : b.Alike b') (chainId : String) (m : Message) :
    Step.Alike Eq (b.handle chainId m) (b'.handle chainId m) := by
  have hbanned := h.store.isBanned m.author m.guild?
  unfold Bot.handle
  simp only [h.grammar]
  split
  · exact .pure rfl
  · generalize b.store.isBanned m.author m.guild? = banned at hbanned ⊢
    generalize b'.store.isBanned m.author m.guild? = banned' at hbanned ⊢
    cases hbanned with
    | error _ => exact h.fail _ (.store _ _) false
    | ok hsame =>
      subst hsame
      split
      · contradiction
      · exact .pure rfl
      · exact h.handleInvocations chainId _ _

end Alike

end Bot

/-! ## The result -/

/-- A chain in which a task fails ends with the failure of that task. -/
theorem Executor.FlowsFrom.ending_of_failed {x : Executor} {index : Nat} {chain : List ChainStep}
    {seed : Flow} {scene : Routine.Scene} {starts : List Start} {e : Execution}
    (h : FlowsFrom x index chain seed scene starts e) {s : Start} (hs : s ∈ starts) {f : Failure}
    (hf : s.ending x = .failed f) : e.ending = .failed (.task s.step.definition.name f) := by
  have hnone : s.output? x = none := by
    unfold Start.output?
    rw [hf]
  have hlost : ∀ {others : List Start}, (∀ t ∈ others, (t.output? x).isSome = true) →
      s ∉ others := by
    intro others hreturned hmem
    simpa [hnone] using hreturned s hmem
  have hends := h.ending
  generalize e.ending = ending at hends ⊢
  cases hends with
  | completed hall hreturned => exact absurd hs (hlost hreturned)
  | refused hnext hreturned hstart => exact absurd hs (hlost hreturned)
  | broken hstarts hreturned hlast =>
    subst hstarts
    obtain hearlier | hmem := List.mem_append.1 hs
    · exact absurd hearlier (hlost hreturned)
    · obtain rfl := List.mem_singleton.1 hmem
      rw [hf] at hlast
      exact congrArg ChainEnding.failed (Except.error.inj (Option.some.inj hlast)).symm
  | stuck hstarts hreturned hlast =>
    subst hstarts
    obtain hearlier | hmem := List.mem_append.1 hs
    · exact absurd hearlier (hlost hreturned)
    · obtain rfl := List.mem_singleton.1 hmem
      rw [hf] at hlast
      exact absurd hlast (by simp [outputOf])

namespace Bot

variable {b : Bot σ} {chainId : String} {m : Message} {w w' : World σ} {r : Report}
  {chain : List ChainStep} {seed : Flow} {scene : Routine.Scene}

/-- Without a reply of its own, a chain is answered with the reply for its error only. -/
theorem Delivered.payloads_of_error {deferred : Bool} {e : ChainError} {replies : List CallRecord}
    {r₀ : Report} (h : Delivered b m r₀ deferred (.error e) replies r) :
    payloadsOf (replies.map Event.call) = [b.errorPayload m e deferred] := by
  cases h with
  | complaint hcall => simp [payloadsOf, hcall]

theorem content_errorPayload {name : String} {f : Failure} (h : f.root.forUsers = true)
    (deferred : Bool) : (b.errorPayload m (.task name f) deferred).content = f.root.message := by
  have hshown : f.userMessage? = some f.root.message := if_pos h
  show f.userMessage?.getD (ChainError.runReply b.grammar.commandMark name) = f.root.message
  rw [hshown, Option.getD_some]

/-- A failure for users of a task on record is the only reply on record. -/
theorem Recorded.shown_of_failed {new : List Event} {r₀ : Report}
    (h : Recorded b m chain (some (seed, scene)) r₀ new r) :
    ∃ starts, Executor.FlowsFrom (b.executor m) 0 chain seed scene starts
        ((b.executor m).execute chain seed scene) ∧
      runsOf new = starts.map Start.run ∧
      ∀ s ∈ starts, ∀ f, s.ending (b.executor m) = .failed f → f.root.forUsers = true →
        ∃ p, payloadsOf new = [p] ∧ p.content = f.root.message := by
  obtain @⟨_, _, replies, _, deferred, outcome, _, _, _, hbefore, hafter, haccounts, -,
    hdelivered⟩ := h
  cases haccounts with
  | @launched _ _ starts e _ hexecution hstarts houtcome =>
    refine ⟨starts, hexecution ▸ hstarts, by simpa using hstarts.runs, ?_⟩
    intro s hs f hf hforUsers
    have hending := hstarts.ending_of_failed hs hf
    rw [houtcome] at hending
    cases outcome with
    | ok data => exact absurd hending (by simp [ChainEnding.ofOutcome])
    | error error =>
      obtain rfl : error = .task s.step.definition.name f := ChainEnding.failed.inj hending
      have hanswer : payloadsOf (replies.map Event.call) =
          [b.errorPayload m (.task s.step.definition.name f) deferred] :=
        Delivered.payloads_of_error hdelivered
      refine ⟨b.errorPayload m (.task s.step.definition.name f) deferred, ?_,
        content_errorPayload hforUsers deferred⟩
      rw [payloadsOf_append, payloadsOf_append, payloadsOf_append, payloadsOf_runs,
        payloadsOf_of_silent hbefore, payloadsOf_of_silent hafter, hanswer]
      rfl

/-- The tasks on record of a message are those of its chain, and a failure for users of one of them
is the only reply. -/
theorem shown_of_failed (h : b.handle chainId m w = some (r, w'))
    (hlaunch : b.launch? chainId m w = some (chain, seed, scene)) :
    ∃ new starts, w'.events = w.events ++ new ∧
      Executor.FlowsFrom (b.executor m) 0 chain seed scene starts
        ((b.executor m).execute chain seed scene) ∧
      runsOf new = starts.map Start.run ∧
      ∀ s ∈ starts, ∀ f, s.ending (b.executor m) = .failed f → f.root.forUsers = true →
        ∃ p, payloadsOf new = [p] ∧ p.content = f.root.message := by
  cases handle_course h with
  | ignored hignores =>
    exact absurd (hlaunch.symm.trans (launch?_eq_none (Or.inl hignores))) (by simp)
  | unready hattended hunready hfail =>
    exact absurd (hlaunch.symm.trans hunready.launch?_eq_none) (by simp)
  | executed hattended hbanned hprepared hopen hwork hdeliver =>
    obtain ⟨start?, new, hlaunched, hevents, hrecorded⟩ :=
      recorded_of_executed hattended hbanned hprepared hopen hwork hdeliver
    obtain ⟨start, rfl, hsame⟩ := Option.map_eq_some_iff.1 (hlaunched.symm.trans hlaunch)
    obtain ⟨rfl, rfl⟩ := Prod.mk.inj hsame
    obtain ⟨starts, hstarts⟩ := hrecorded.shown_of_failed
    exact ⟨new, starts, hevents, hstarts⟩

end Bot

/-- Two bots that differ in the texts of their internal failures handle every message with the same
calls, the same payloads and the same report.  When a task fails with a message for users, the only
reply is that message, whatever was said around it. -/
theorem internal_texts_stay_inside :
    (∀ b b' : Bot σ, b.Alike b' → ∀ chainId m w, b.handle chainId m w = b'.handle chainId m w) ∧
    ∀ (b : Bot σ) (chainId : String) (m : Message) (w w' : World σ) (r : Report),
      b.handle chainId m w = some (r, w') → ∀ chain seed scene,
        b.launch? chainId m w = some (chain, seed, scene) →
        ∃ new starts, w'.events = w.events ++ new ∧
          Executor.FlowsFrom (b.executor m) 0 chain seed scene starts
            ((b.executor m).execute chain seed scene) ∧
          runsOf new = starts.map Start.run ∧
          ∀ s ∈ starts, ∀ f, s.ending (b.executor m) = .failed f → f.root.forUsers = true →
            ∃ p, payloadsOf new = [p] ∧ p.content = f.root.message := by
  constructor
  · intro b b' h chainId m w
    rw [(h.handle chainId m).eq]
  · intro b chainId m w w' r h chain seed scene hlaunch
    exact Bot.shown_of_failed h hlaunch

namespace Fainting

/-- A command that fails with an apology for users and more words around it. -/
def command (words : String) : Command where
  definition :=
    { name := "faint"
      description := "Faints."
      input := .nothing
      output := .text }
  task _ _ _ := .fail ((Failure.forUsers "I feel faint.").within words)

/-- A platform that takes replies and fails on everything else. -/
def platform (words : String) : Platform Unit where
  limits := {}
  react call _ desk :=
    { desk
      result := if call.payload?.isSome then .ok () else .error (.internal words) }
  download _ desk := (desk, .fail (.internal words))
  ensureRoot _ desk := (.ok (), desk)

/-- A bot whose internal failures all have the same words. -/
def bot (words : String) : Bot Unit where
  grammar := {}
  registry := { commands := Dict.ofList [("faint", command words)] }
  store :=
    { isBanned := fun _ _ => .ok false
      findTemplate := fun _ _ => .error (.internal words) }
  platform := platform words

/-- The words make no difference to a user. -/
theorem bot_alike (words words' : String) : (bot words).Alike (bot words') where
  grammar := rfl
  registry := .cons ⟨rfl, rfl, fun _ _ _ => .fail rfl⟩ .nil
  store := ⟨fun _ _ => .ok rfl, fun _ _ => .error trivial⟩
  platform :=
    { limits := rfl
      desk := fun _ _ _ => rfl
      delay? := fun _ _ _ => rfl
      result := fun call _ _ => by
        cases hcall : call.payload?.isSome with
        | true => simpa [bot, platform, hcall] using .ok rfl
        | false => simpa [bot, platform, hcall] using .error trivial
      download := fun _ _ => ⟨rfl, .fail trivial⟩
      ensureRoot := fun _ _ => ⟨rfl, .ok rfl⟩ }
  chainLimit := rfl
  templateLimit := rfl
  stepTimeout? := rfl
  cancelAt? := rfl
  storeAt := fun _ => ⟨fun _ _ => .ok rfl, fun _ _ => .error trivial⟩
  stalls := rfl
  downloadStall? := rfl

def message : Message :=
  Console.plainMessage "%faint"

/-- Two bots with other words handle `%faint` alike, and the reply is the apology. -/
theorem words_stay_inside :
    (bot "disk full").handle "1" message { desk := () } =
        (bot "no memory").handle "1" message { desk := () } ∧
      ∃ r w', (bot "disk full").handle "1" message { desk := () } = some (r, w') ∧
        ∃ p, payloadsOf w'.events = [p] ∧ p.content = "I feel faint." := by
  refine ⟨internal_texts_stay_inside.1 _ _ (bot_alike _ _) "1" message { desk := () }, ?_⟩
  have hlaunch : ∃ scene, (bot "disk full").launch? "1" message { desk := () } =
      some ([{ command := command "disk full", binding := {} }], .nothing, scene) := ⟨_, by rfl⟩
  have hhandle : ((bot "disk full").handle "1" message { desk := () }).map
      (fun done => (runsOf done.2.events).length) = some 1 := by decide +kernel
  obtain ⟨scene, hscene⟩ := hlaunch
  obtain ⟨⟨r, w'⟩, hrun, hcount⟩ := Option.map_eq_some_iff.1 hhandle
  obtain ⟨new, starts, hevents, hflows, hruns, hshown⟩ :=
    internal_texts_stay_inside.2 (bot "disk full") "1" message { desk := () } w' r hrun _ _ _ hscene
  obtain rfl : w'.events = new := hevents
  rw [hruns, List.length_map] at hcount
  obtain ⟨s, rfl⟩ := List.length_eq_one_iff.1 hcount
  have hstep : s.step = { command := command "disk full", binding := {} } := by
    simpa using hflows.order
  have hfailed : s.ending ((bot "disk full").executor message) =
      .failed ((Failure.forUsers "I feel faint.").within "disk full") := by
    unfold Start.ending Executor.runTask
    rw [hstep]
    rfl
  exact ⟨r, w', hrun, hshown s (by simp) _ hfailed rfl⟩

end Fainting

end ChatChain
