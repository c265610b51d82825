import ChatChain.Builtin.Text
import ChatChain.Proofs.Registry
import ChatChain.Proofs.Rejection

/-!
# What the steps of a message are

An invocation that can be resolved stands for itself, with the registered command of its name, or
for the commands of one stored template.  This module says which of the two it is and what the steps
of a template are made of: what the template says stays, and the caller adds named arguments only
where the template leaves them open.

There are four groups.

* One command of a template.  `get?_inherit` says which named arguments its step has, and
  `expandStep_eq_ok_iff` what else the step is.
* One invocation.  `Yields` lists what an invocation stands for, and `resolve_eq_ok_iff` says that
  resolving finds it.
* A message.  `resolveAll_eq_ok_iff` goes through its invocations, and `grounded_of_resolveAll` and
  `check_of_resolveAll` say what holds of all its steps.  `resolveAll_store_congr` says when no
  template is looked up, and `registered_of_bindAll` that binding brings in no other commands.
* The result.  `templates_expand_once` puts everything together.
-/

namespace ChatChain

open Fallible

namespace Resolver

variable {r : Resolver} {m : Message} {t : Template} {caller i : Invocation}

/-! ## One command of a template -/

theorem get?_foldl_insertIfNew (declared : String → Bool) (entries : List (String × String))
    (named : Dict String) (key : String) :
    (entries.foldl (fun named e => if declared e.1 then named.insertIfNew e.1 e.2 else named)
      named).get? key =
      (named.get? key).or (if declared key then entries.lookup key else none) := by
  induction entries generalizing named with
  | nil => simp
  | cons e entries ih =>
    rw [List.foldl_cons, ih]
    by_cases hkey : key = e.1
    · subst hkey
      rw [Dict.lookup_cons_self]
      cases declared e.1 with
      | true => simp [Dict.get?_insertIfNew]
      | false => simp
    · rw [Dict.lookup_cons_of_ne hkey]
      cases declared e.1 <;> simp [Dict.get?_insertIfNew, hkey]

/-- The named arguments of a step are those of the template, and where the template has none those
of the caller, if the command declares them. -/
theorem get?_inherit (caller : Invocation) (c : Command) (i : Invocation) (key : String) :
    (inherit caller c i).named.get? key =
      (i.named.get? key).or
        (if (c.definition.argument? key).isSome then caller.named.get? key else none) :=
  get?_foldl_insertIfNew (fun key => (c.definition.argument? key).isSome) _ _ key

/-- What the step of one command of a template is: the command that is registered under its name,
with the name and the positional text that the template says. -/
structure ExpandsTo (r : Resolver) (m : Message) (t : Template) (caller i : Invocation)
    (s : ResolvedStep) : Prop where
  template : s.template? = some t.name
  unscoped : i.entity? = none
  command : r.registry.find? i.name = some s.command
  placed : ¬s.command.Misplaced m
  name : s.invocation.name = i.name
  entity : s.invocation.entity? = none
  positional : s.invocation.positional = i.positional
  named : ∀ key, s.invocation.named.get? key =
    (i.named.get? key).or
      (if (s.command.definition.argument? key).isSome then caller.named.get? key else none)

theorem registered?_eq_some_iff {c : Command} :
    r.registered? i = some c ↔ i.entity? = none ∧ r.registry.find? i.name = some c := by
  unfold registered?
  cases i.entity? <;> simp

theorem registered?_eq_none_iff :
    r.registered? i = none ↔ i.entity? ≠ none ∨ r.registry.find? i.name = none := by
  unfold registered?
  cases i.entity? <;> simp

theorem checkPlace_eq_ok_iff {c : Command} : checkPlace c m = .ok () ↔ ¬c.Misplaced m := by
  unfold checkPlace Definition.checkEnvironment Command.Misplaced
  cases c.definition.guildOnly <;> cases m.inGuild <;> simp

/-- The named arguments determine the step. -/
theorem ExpandsTo.eq {s : ResolvedStep} (h : r.ExpandsTo m t caller i s) :
    s = { invocation := inherit caller s.command i, command := s.command
          template? := some t.name } := by
  obtain ⟨htemplate, hscope, -, -, hname, hentity, hpositional, hnamed⟩ := h
  have hinvocation : s.invocation = inherit caller s.command i := by
    have hdict : s.invocation.named = (inherit caller s.command i).named :=
      Dict.ext_get? fun key => by rw [hnamed, get?_inherit]
    obtain ⟨⟨name, entity?, positional, named⟩, command, template?⟩ := s
    simp only [inherit] at hdict ⊢
    simp_all
  obtain ⟨invocation, command, template?⟩ := s
  simp_all

theorem expandStep_eq_ok_iff {s : ResolvedStep} :
    r.expandStep t caller m i = .ok s ↔ r.ExpandsTo m t caller i s := by
  unfold expandStep
  constructor
  · intro h
    cases hcommand : r.registered? i with
    | none => simp [hcommand] at h
    | some c =>
      simp only [hcommand, bind_eq_ok_iff, pure_eq_ok_iff] at h
      obtain ⟨_, hplace, rfl⟩ := h
      obtain ⟨hscope, hfound⟩ := registered?_eq_some_iff.1 hcommand
      exact ⟨rfl, hscope, hfound, checkPlace_eq_ok_iff.1 hplace, rfl, hscope, rfl,
        get?_inherit caller c i⟩
  · intro h
    have hcommand := registered?_eq_some_iff.2 ⟨h.unscoped, h.command⟩
    simp only [hcommand, checkPlace_eq_ok_iff.2 h.placed, ok_bind]
    exact congrArg Except.ok h.eq.symm

/-! ## One invocation -/

/-- What an invocation stands for: itself, if it has no scope and its name is registered, and else
the commands of a template, of which there are at least one and not too many. -/
inductive Yields (r : Resolver) (m : Message) (i : Invocation) : List ResolvedStep → Prop
  | registered {c : Command} (hscope : i.entity? = none)
      (hfound : r.registry.find? i.name = some c) (hplace : ¬c.Misplaced m) :
      Yields r m i [{ invocation := i, command := c }]
  | template {t : Template} {steps : List ResolvedStep}
      (hunregistered : i.entity? ≠ none ∨ r.registry.find? i.name = none)
      (hfind : r.templateOf m i = .ok (some t)) (hsome : 1 ≤ steps.length)
      (hfits : steps.length ≤ r.templateLimit)
      (hsteps : List.Forall₂ (r.ExpandsTo m t i) (r.templateCommands t i) steps) :
      Yields r m i steps

theorem expand_eq_ok_iff {steps : List ResolvedStep} :
    r.expand t i m = .ok steps ↔
      1 ≤ steps.length ∧ steps.length ≤ r.templateLimit ∧
        List.Forall₂ (r.ExpandsTo m t i) (r.templateCommands t i) steps := by
  have hmap : (r.templateCommands t i).mapM (r.expandStep t i m) = .ok steps ↔
      List.Forall₂ (r.ExpandsTo m t i) (r.templateCommands t i) steps := by
    simp only [mapM_eq_ok_iff, expandStep_eq_ok_iff]
  rw [expand_eq]
  constructor
  · intro h
    split at h
    · exact absurd h (by simp)
    · next hsome =>
      split at h
      · exact absurd h (by simp)
      · next hfits =>
        have hsteps := hmap.1 h
        rw [← hsteps.length_eq]
        exact ⟨List.length_pos_iff.2 hsome, Nat.le_of_not_lt hfits, hsteps⟩
  · rintro ⟨hsome, hfits, hsteps⟩
    rw [← hsteps.length_eq] at hsome hfits
    rw [if_neg (List.length_pos_iff.1 hsome), if_neg (Nat.not_lt_of_le hfits), hmap]
    exact hsteps

theorem resolve_eq_ok_iff {steps : List ResolvedStep} :
    r.resolve m i = .ok steps ↔ r.Yields m i steps := by
  unfold resolve
  cases hcommand : r.registered? i with
  | some c =>
    obtain ⟨hscope, hfound⟩ := registered?_eq_some_iff.1 hcommand
    simp only [bind_eq_ok_iff, pure_eq_ok_iff]
    constructor
    · rintro ⟨_, hplace, rfl⟩
      exact .registered hscope hfound (checkPlace_eq_ok_iff.1 hplace)
    · intro h
      cases h with
      | registered _ hother hplace =>
        obtain rfl := Option.some.inj (hfound.symm.trans hother)
        exact ⟨(), checkPlace_eq_ok_iff.2 hplace, rfl⟩
      | template hunregistered =>
        exact absurd (hcommand.symm.trans (registered?_eq_none_iff.2 hunregistered)) (by simp)
  | none =>
    have hunregistered := registered?_eq_none_iff.1 hcommand
    constructor
    · intro h
      cases hfind : r.store.findTemplate i.name (i.entity?.or m.guild?) with
      | error failure => simp [hfind] at h
      | ok found =>
        cases found with
        | none => simp [hfind] at h
        | some t =>
          simp only [hfind] at h
          obtain ⟨hsome, hfits, hsteps⟩ := expand_eq_ok_iff.1 h
          exact .template hunregistered hfind hsome hfits hsteps
    · intro h
      cases h with
      | registered hscope hfound =>
        have hsome := registered?_eq_some_iff.2 ⟨hscope, hfound⟩
        exact absurd (hcommand.symm.trans hsome) (by simp)
      | template _ hfind hsome hfits hsteps =>
        unfold templateOf at hfind
        simp only [hfind]
        exact expand_eq_ok_iff.2 ⟨hsome, hfits, hsteps⟩

/-- What holds of every step: it is unscoped, its command is the one registered under its name, and
that may be used where the message was written. -/
structure Grounded (r : Resolver) (m : Message) (s : ResolvedStep) : Prop where
  unscoped : s.invocation.entity? = none
  command : r.registry.find? s.invocation.name = some s.command
  placed : ¬s.command.Misplaced m

theorem Yields.grounded {steps : List ResolvedStep} (h : r.Yields m i steps) :
    ∀ s ∈ steps, r.Grounded m s := by
  intro s hs
  cases h with
  | registered hscope hfound hplace =>
    obtain rfl := List.mem_singleton.1 hs
    exact ⟨hscope, hfound, hplace⟩
  | template _ _ _ _ hsteps =>
    obtain ⟨j, -, hj⟩ := exists_of_forall₂ hsteps s hs
    exact ⟨hj.entity, hj.name ▸ hj.command, hj.placed⟩

/-- A registered command that may be used everywhere is what its name means, at every position. -/
theorem resolve_of_registered {c : Command} (hscope : i.entity? = none)
    (hfound : r.registry.find? i.name = some c) (hanywhere : c.definition.guildOnly = false)
    (index : Nat) : (r.turn index).resolve m i = .ok [{ invocation := i, command := c }] :=
  resolve_eq_ok_iff.2 (.registered hscope hfound (by simp [Command.Misplaced, hanywhere]))

/-! ## A message -/

variable {invocations : List Invocation}

/-- What an invocation at a position of a message stands for, with the store as it is when the
invocation is looked up. -/
def YieldsAt (r : Resolver) (m : Message) (i : Invocation × Nat) : List ResolvedStep → Prop :=
  (r.turn i.2).Yields m i.1

/-- The steps of a message are those of its invocations, in order. -/
theorem resolveAll_eq_ok_iff {steps : List ResolvedStep} :
    r.resolveAll m invocations = .ok steps ↔
      ∃ parts, List.Forall₂ (r.YieldsAt m) invocations.zipIdx parts ∧ steps = parts.flatten := by
  simp only [resolveAll, bind_eq_ok_iff, pure_eq_ok_iff, mapM_eq_ok_iff, resolve_eq_ok_iff,
    @eq_comm _ steps]
  rfl

/-- The resolver for the invocations behind the first one. -/
def later (r : Resolver) : Resolver :=
  { r with storeAt := fun index => r.storeAt (index + 1) }

/-- The steps of several invocations are those of the first and then those of the others. -/
theorem resolveAll_cons {first rest : List ResolvedStep}
    (hfirst : (r.turn 0).resolve m i = .ok first)
    (hrest : r.later.resolveAll m invocations = .ok rest) :
    r.resolveAll m (i :: invocations) = .ok (first ++ rest) := by
  obtain ⟨parts, hparts, rfl⟩ := resolveAll_eq_ok_iff.1 hrest
  refine resolveAll_eq_ok_iff.2 ⟨first :: parts, ?_, rfl⟩
  rw [List.zipIdx_cons, List.zipIdx_succ]
  exact .cons (resolve_eq_ok_iff.1 hfirst) (List.forall₂_map_left_iff.2 hparts)

/-- Every step of a message is unscoped and in its place, with the command of its name. -/
theorem grounded_of_resolveAll {steps : List ResolvedStep}
    (h : r.resolveAll m invocations = .ok steps) : ∀ s ∈ steps, r.Grounded m s := by
  intro s hs
  obtain ⟨parts, hparts, rfl⟩ := resolveAll_eq_ok_iff.1 h
  obtain ⟨part, hpart, hspart⟩ := List.mem_flatten.1 hs
  obtain ⟨i, -, hyields⟩ := exists_of_forall₂ hparts part hpart
  obtain ⟨hunscoped, hcommand, hplaced⟩ := Yields.grounded hyields s hspart
  exact ⟨hunscoped, hcommand, hplaced⟩

/-- The commands of a resolved message were accepted. -/
theorem check_of_resolveAll (hr : r.registry.Accepted) {steps : List ResolvedStep}
    (h : r.resolveAll m invocations = .ok steps) : ∀ s ∈ steps, s.definition.check = .ok () :=
  fun s hs => hr _ s.command (grounded_of_resolveAll h s hs).command

/-- No template is looked up for invocations of registered commands. -/
theorem resolveAll_store_congr (store : StoreAccess) (storeAt : Nat → StoreAccess)
    (h : ∀ i ∈ invocations, i.entity? = none ∧ (r.registry.find? i.name).isSome = true) :
    { r with store, storeAt }.resolveAll m invocations = r.resolveAll m invocations := by
  have heach : ∀ i ∈ invocations.zipIdx, ({ r with store, storeAt }.turn i.2).resolve m i.1 =
      (r.turn i.2).resolve m i.1 := by
    intro i hi
    obtain ⟨hscope, hsome⟩ := h i.1 (List.fst_mem_of_mem_zipIdx hi)
    obtain ⟨c, hc⟩ := Option.isSome_iff_exists.1 hsome
    have hcommand : (r.turn i.2).registered? i.1 = some c :=
      registered?_eq_some_iff.2 ⟨hscope, hc⟩
    have hother : ({ r with store, storeAt }.turn i.2).registered? i.1 = some c := hcommand
    simp only [resolve, hcommand, hother]
  unfold resolveAll
  rw [mapM_congr_of_mem heach]

end Resolver

/-- Binding the steps of a chain keeps their commands. -/
theorem ResolvedStep.map_command_bindFrom {steps : List ResolvedStep} {index : Nat}
    {chain : List ChainStep} (h : ResolvedStep.bindFrom index steps = .ok chain) :
    chain.map ChainStep.command = steps.map ResolvedStep.command := by
  induction steps generalizing index chain with
  | nil =>
    obtain rfl := Except.ok.inj h
    rfl
  | cons step rest ih =>
    simp only [bindFrom, bind, bind_eq_ok_iff, pure_eq_ok_iff] at h
    obtain ⟨first, ⟨_, _, rfl⟩, others, hothers, rfl⟩ := h
    rw [List.map_cons, List.map_cons, ih hothers]

/-- The commands of a bound message are registered. -/
theorem Resolver.registered_of_bindAll {r : Resolver} {m : Message} {invocations : List Invocation}
    {steps : List ResolvedStep} {chain : List ChainStep}
    (hresolve : r.resolveAll m invocations = .ok steps)
    (hbind : ResolvedStep.bindAll steps = .ok chain) :
    ∀ s ∈ chain, ∃ name, r.registry.find? name = some s.command := by
  intro s hs
  have hcommand : s.command ∈ steps.map ResolvedStep.command := by
    rw [← ResolvedStep.map_command_bindFrom hbind]
    exact List.mem_map_of_mem hs
  obtain ⟨step, hstep, heq⟩ := List.mem_map.1 hcommand
  exact ⟨_, heq ▸ (grounded_of_resolveAll hresolve step hstep).command⟩

/-! ## The result -/

/-- When a message can be resolved, every invocation of it has become itself with its registered
command or the commands of one template, in order.  All the commands are registered ones, so no
template is expanded inside another, and they may be used where the message was written.  As long
as the invocations name registered commands without a scope, the stored templates make no
difference, however they change in the meantime. -/
theorem templates_expand_once (r : Resolver) (m : Message) (invocations : List Invocation) :
    (∀ steps, r.resolveAll m invocations = .ok steps ↔
      ∃ parts, List.Forall₂ (r.YieldsAt m) invocations.zipIdx parts ∧ steps = parts.flatten) ∧
    (∀ steps, r.resolveAll m invocations = .ok steps → ∀ s ∈ steps, r.Grounded m s) ∧
    ∀ store storeAt,
      (∀ i ∈ invocations, i.entity? = none ∧ (r.registry.find? i.name).isSome = true) →
        { r with store, storeAt }.resolveAll m invocations = r.resolveAll m invocations := by
  exact ⟨fun _ => Resolver.resolveAll_eq_ok_iff, fun _ => Resolver.grounded_of_resolveAll,
    Resolver.resolveAll_store_congr⟩

namespace Cheering

/-- A template that repeats its text with a separator of its own, and one under the name of a
command. -/
def store : CommandStore where
  templates :=
    [{ name := "cheer", scope? := some "club", body := "%echo \x7binput\x7d %repeat -separator !" },
      { name := "echo", body := "%cheer" }]

/-- A resolver that knows `echo` and `repeat`. -/
def resolver : Resolver where
  grammar := {}
  registry :=
    { commands := Dict.ofList [("echo", Builtin.echoCommand), ("repeat", Builtin.repeatCommand)] }
  store := store.access
  templateLimit := 2

def message : Message :=
  { id := "1", channel := "here", guild? := some "club", author := "someone", content := "" }

/-- A command of that name, and the template with a number of copies and another separator. -/
def invocations : List Invocation :=
  [{ name := "echo", positional := "so" },
    { name := "cheer", positional := "hey"
      named := Dict.ofList [("times", "3"), ("separator", "?")] }]

/-- The template keeps its separator and takes the number of copies, where that is declared. -/
theorem cheer_expands_once :
    ∃ steps, resolver.resolveAll message invocations = .ok steps ∧
      (∃ parts, List.Forall₂ (resolver.YieldsAt message) invocations.zipIdx parts ∧
        steps = parts.flatten) ∧
      (∀ s ∈ steps, resolver.Grounded message s) ∧
      steps.map ResolvedStep.invocation =
        [{ name := "echo", positional := "so" },
          { name := "echo", positional := "hey" },
          { name := "repeat", named := Dict.ofList [("separator", "!"), ("times", "3")] }] := by
  obtain ⟨hsteps, hgrounded, -⟩ := templates_expand_once resolver message invocations
  have hread : (resolver.resolveAll message invocations).map (List.map ResolvedStep.invocation) =
      .ok [{ name := "echo", positional := "so" },
        { name := "echo", positional := "hey" },
        { name := "repeat", named := Dict.ofList [("separator", "!"), ("times", "3")] }] := by
    decide +kernel
  obtain ⟨steps, hresolve, hinvocations⟩ := map_eq_ok_iff.1 hread
  exact ⟨steps, hresolve, (hsteps steps).1 hresolve, hgrounded steps hresolve, hinvocations⟩

end Cheering

end ChatChain
