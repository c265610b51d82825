import ChatChain.Bot
import ChatChain.Builtin
import ChatChain.Proofs.Execution
import ChatChain.Proofs.Expansion

/-!
# Steps on text

The built-in commands that turn a text into another one make up pipelines.  This module says what
such a step does by itself, as a function on texts, and proves that the whole machinery around it
does the same: resolving, binding, piping, running and collecting the texts.

There are four groups.

* Pipelines.  `TextStep` is a step as a function on texts, and `pipeline` a fold over such steps,
  which is a plain composition unless a step has a text of its own.  `Invocation.Means` says which
  invocations are written for a step.
* The argument.  `Definition.OnText` lists what the commands on text have in common, and
  `OnText.exists_ready` says on which text such a command starts.
* Steps.  `ChainStep.Realizes` is the contract of a step of a chain, and `realizes_of_means` says
  that every bound invocation of a command on text keeps it.
* Chains.  `resolveAll_means`, `bindFrom_realizes` and `runFrom_realizes` follow a list of steps
  through the three stages, and `IsPipeline` is what they come to behind `echo`.
-/

namespace ChatChain

open Builtin Fallible

/-! ## Pipelines -/

/-- What a step does to its text. -/
inductive TextOperation where
  | upper
  | backwards
  | inCase (mode : String)
  | copies (times : Nat) (separator : String)
  deriving DecidableEq, Repr

namespace TextOperation

/-- The operation as a function. -/
def apply : TextOperation → String → String
  | upper => Text.upperText
  | backwards => reverseText
  | inCase mode => changeCase mode
  | copies times separator => repeatText times separator

/-- The command that performs the operation. -/
def command : TextOperation → Command
  | upper => upperCommand
  | backwards => reverseCommand
  | inCase _ => caseCommand
  | copies .. => repeatCommand

/-- Whether a binding holds the options of an operation.  Only so many copies can be made. -/
def HasOptions (b : Binding) : TextOperation → Prop
  | upper | backwards => True
  | inCase mode => b.choice? "mode" = some mode
  | copies times separator =>
    b.whole? "times" = some (times : Int) ∧ 1 ≤ times ∧ times ≤ maxCopies ∧
      b.text? "separator" = some separator

instance (b : Binding) : (o : TextOperation) → Decidable (o.HasOptions b)
  | upper | backwards => inferInstanceAs (Decidable True)
  | inCase _ => inferInstanceAs (Decidable (_ = _))
  | copies .. => inferInstanceAs (Decidable (_ ∧ _))

end TextOperation

/-- A step of a pipeline, which may have a text of its own. -/
structure TextStep where
  own? : Option String := none
  operation : TextOperation
  deriving DecidableEq, Repr

/-- What a step makes of the text that it is given: its own text goes first. -/
def TextStep.run (data : String) (s : TextStep) : String :=
  s.operation.apply (s.own?.getD data)

/-- What steps in a row make of a text. -/
def pipeline (text : String) (steps : List TextStep) : String :=
  steps.foldl TextStep.run text

/-- What operations in a row make of a text. -/
def compose (text : String) (operations : List TextOperation) : String :=
  operations.foldl (fun data o => o.apply data) text

/-- Without texts of its own, a pipeline composes the operations of its steps. -/
theorem pipeline_eq_compose (text : String) {steps : List TextStep}
    (h : ∀ s ∈ steps, s.own? = none) :
    pipeline text steps = compose text (steps.map TextStep.operation) := by
  induction steps generalizing text with
  | nil => rfl
  | cons s steps ih =>
    obtain ⟨hs, hsteps⟩ := List.forall_mem_cons.1 h
    have hrun : s.run text = s.operation.apply text := by simp [TextStep.run, hs]
    calc pipeline text (s :: steps)
        = pipeline (s.operation.apply text) steps := by rw [← hrun]; rfl
      _ = compose (s.operation.apply text) (steps.map TextStep.operation) := ih _ hsteps

/-- A step with a text of its own begins anew: nothing in front of it counts. -/
theorem pipeline_eq_of_own (text : String) (before after : List TextStep) {s : TextStep}
    {own : String} (hown : s.own? = some own) :
    pipeline text (before ++ s :: after) = pipeline own ({ s with own? := none } :: after) := by
  unfold pipeline
  rw [List.foldl_append, List.foldl_cons, List.foldl_cons]
  have hrun : ∀ data, TextStep.run data s = TextStep.run own { s with own? := none } := by
    intro data
    simp [TextStep.run, hown]
  rw [hrun]

namespace Invocation

/-- The text that an invocation has for a command on text: the named one if there is one, else the
positional one unless it is empty. -/
def ownText? (i : Invocation) : Option String :=
  (i.named.get? textArgument.key).or (if i.positional = "" then none else some i.positional)

/-- Whether an invocation is written for a step. -/
structure Means (i : Invocation) (s : TextStep) : Prop where
  scope : i.entity? = none
  name : i.name = s.operation.command.name
  own : i.ownText? = s.own?
  options : ∀ b, Binding.ofInvocation i s.operation.command.definition true = .ok b →
    s.operation.HasOptions b

instance (i : Invocation) (s : TextStep) : Decidable (i.Means s) :=
  decidable_of_iff
    (i.entity? = none ∧ i.name = s.operation.command.name ∧ i.ownText? = s.own? ∧
      ∀ b, Binding.ofInvocation i s.operation.command.definition true = .ok b →
        s.operation.HasOptions b)
    ⟨fun ⟨hscope, hname, hown, hoptions⟩ => ⟨hscope, hname, hown, hoptions⟩,
      fun h => ⟨h.scope, h.name, h.own, h.options⟩⟩

end Invocation

/-! ## The argument -/

/-- What the commands on text have in common: one required argument, which takes the output of the
step before, and nothing that would keep them from running anywhere. -/
structure Definition.OnText (d : Definition) : Prop where
  name : isCommandName d.name = true
  keys : (argumentKeys d.arguments).Nodup
  argument : textArgument ∈ d.arguments
  optional : ∀ a ∈ d.arguments, a ≠ textArgument → a.required = false
  defaultKey : d.defaultKey? = some textArgument.key
  defaultArgument : d.defaultArgument? = some textArgument
  output : d.output = .text
  requireInput : d.requireInput = false
  guildOnly : d.guildOnly = false
  deferReply : d.deferReply = false

theorem onText_echoCommand : echoCommand.definition.OnText := by
  constructor <;> decide

theorem onText_command (o : TextOperation) : o.command.definition.OnText := by
  have hall : ∀ c ∈ [upperCommand, reverseCommand, caseCommand, repeatCommand],
      c.definition.OnText := by
    simp only [List.forall_mem_cons]
    refine ⟨?_, ?_, ?_, ?_, by simp⟩ <;> constructor <;> decide
  cases o <;> exact hall _ (by simp [TextOperation.command])

theorem input_command (o : TextOperation) : o.command.definition.input = .text := by
  cases o <;> rfl

namespace Definition.OnText

variable {d : Definition} {i : Invocation} {piped : Bool} {b : Binding}

theorem suppliedText?_eq (h : d.OnText) (i : Invocation) :
    Binding.suppliedText? i d textArgument = i.ownText? := by
  have hkey : d.isDefaultKey textArgument.key = true := by simp [isDefaultKey, h.defaultKey]
  unfold Binding.suppliedText? Invocation.ownText?
  cases i.named.get? textArgument.key with
  | some text => rfl
  | none => by_cases hempty : i.positional = "" <;> simp [hkey, hempty]

/-- Every text is a value of the argument. -/
theorem readValue?_eq (h : d.OnText) (i : Invocation) :
    Binding.readValue? i d textArgument = i.ownText?.map Value.text := by
  unfold Binding.readValue?
  rw [h.suppliedText?_eq]
  cases i.ownText? <;> rfl

/-- A command on text binds, if it has a text or waits for one. -/
theorem exists_binding (h : d.OnText) {i : Invocation} (piped : Bool)
    (hopen : i.ownText? = none → piped = true) : ∃ b, Binding.ofInvocation i d piped = .ok b := by
  refine Binding.exists_ofInvocation fun a ha => ?_
  by_cases htext : a = textArgument
  · subst htext
    refine ⟨fun text _ hnone => absurd hnone (by simp [textArgument, Value.coerce?]), ?_⟩
    intro hnone _
    have hkey : d.isDefaultKey textArgument.key = true := by simp [isDefaultKey, h.defaultKey]
    refine ⟨hkey, hopen ?_⟩
    rw [h.readValue?_eq, Option.or_eq_none_iff, Option.map_eq_none_iff] at hnone
    exact hnone.1
  · have hrequired := h.optional a ha htext
    refine ⟨fun _ _ _ => hrequired, fun _ hyes => ?_⟩
    exact absurd (hyes.symm.trans hrequired) (by decide)

/-- A bound command on text holds the text of its own, and nothing else for the argument. -/
theorem bound (h : d.OnText) (hb : Binding.ofInvocation i d piped = .ok b) :
    b.get? textArgument.key = i.ownText?.map Value.text ∧
      b.isExplicit textArgument.key = i.ownText?.isSome := by
  have hsettled := (Binding.binds_of_ofInvocation h.keys hb).settled textArgument h.argument
  have hvalue := hsettled.value
  have hexplicit := hsettled.explicit
  rw [h.readValue?_eq] at hvalue hexplicit
  refine ⟨hvalue.trans (Option.or_none ..), hexplicit.trans ?_⟩
  simp

/-- Piping a text in leaves a command on text with its own text, if it has one, else with that; the
other arguments stay what they are. -/
theorem exists_pipe (h : d.OnText) (hb : Binding.ofInvocation i d piped = .ok b) (data : String) :
    ∃ b', b.pipe d (.text data) = .ok b' ∧
      b'.get? textArgument.key = some (.text (i.ownText?.getD data)) ∧
      ∀ k, k ≠ textArgument.key → b'.get? k = b.get? k := by
  obtain ⟨hvalue, hexplicit⟩ := h.bound hb
  unfold Binding.pipe
  rw [h.defaultArgument]
  cases hown : i.ownText? with
  | some own =>
    have htyped : b.isExplicit textArgument.key = true := by rw [hexplicit, hown]; rfl
    refine ⟨b, by simp [htyped], ?_, fun _ _ => rfl⟩
    rw [hvalue, hown]
    rfl
  | none =>
    have hopen : b.isExplicit textArgument.key = false := by rw [hexplicit, hown]; rfl
    refine ⟨{ b with values := b.values.insert textArgument.key (.text data) }, ?_, ?_, ?_⟩
    · simp only [hopen, Bool.false_eq_true, if_false]
      rfl
    · simp [Binding.get?]
    · intro k hk
      simp [Binding.get?, Dict.get?_insert, hk]

/-- A command on text is ready with a binding that holds a text. -/
theorem requireDefault_eq_ok (h : d.OnText) {text : String}
    (hb : b.get? textArgument.key = some (.text text)) :
    Executor.requireDefault d b = .ok () := by
  simp [Executor.requireDefault, h.defaultArgument, hb]

theorem requireInput_eq_ok (h : d.OnText) (data : Flow) :
    Executor.requireInput d data = .ok () := by
  simp [Executor.requireInput, h.requireInput]

/-- Behind another step, a command on text starts on the text of its own, if it has one, else on
that of the step before. -/
theorem exists_ready (h : d.OnText) (hinput : d.input = .text)
    (hb : Binding.ofInvocation i d piped = .ok b) {c : ChainStep} (hdefinition : c.definition = d)
    (hbinding : c.binding = b) {index : Nat} (hindex : 0 < index) (data : String) :
    ∃ b', Executor.ready c index (.text data) = .ok b' ∧
      b'.get? textArgument.key = some (.text (i.ownText?.getD data)) ∧
      ∀ k, k ≠ textArgument.key → b'.get? k = b.get? k := by
  obtain ⟨b', hpipe, htext, hothers⟩ := h.exists_pipe hb data
  refine ⟨b', ?_, htext, hothers⟩
  have hpiped : Chain.isPiped d index = true := by
    simp [Chain.isPiped, hindex, hinput, Kind.isValue]
  have hgiven : Executor.pipedBinding c index (.text data) = .ok b' := by
    simp only [Executor.pipedBinding, Flow.text, Flow.value?, hdefinition, hbinding, hpiped]
    exact hpipe
  unfold Executor.ready
  rw [hgiven, hdefinition]
  simp only [ok_bind, h.requireDefault_eq_ok htext, h.requireInput_eq_ok]
  rfl

end Definition.OnText

/-! ## Steps -/

/-- What is said about a binding besides its text stays so when another text is put in. -/
theorem TextOperation.HasOptions.congr {o : TextOperation} {b b' : Binding} (h : o.HasOptions b)
    (hothers : ∀ k, k ≠ textArgument.key → b'.get? k = b.get? k) : o.HasOptions b' := by
  cases o with
  | upper => trivial
  | backwards => trivial
  | inCase mode =>
    have hmode : b'.get? "mode" = b.get? "mode" := hothers "mode" (by decide)
    simp only [HasOptions, Binding.choice?] at h ⊢
    rw [hmode, h]
  | copies times separator =>
    have htimes : b'.get? "times" = b.get? "times" := hothers "times" (by decide)
    have hseparator : b'.get? "separator" = b.get? "separator" := hothers "separator" (by decide)
    simp only [HasOptions, Binding.whole?, Binding.text?] at h ⊢
    rwa [htimes, hseparator]

/-- On a binding with its text and its options, a command returns what its operation makes of the
text. -/
theorem TextOperation.task_eq {o : TextOperation} {b : Binding} {text : String}
    (htext : b.get? textArgument.key = some (.text text)) (hoptions : o.HasOptions b)
    (context : TaskContext) (data : Flow) :
    o.command.task context b data = .done (.text (o.apply text)) := by
  have hbound : boundText b "text" = .done text := by
    have hget : b.get? "text" = some (.text text) := htext
    simp [boundText, Binding.text?, hget, Value.asText?]
  cases o with
  | upper =>
    show textTask Text.upperText context b data = _
    unfold textTask
    rw [hbound]
    rfl
  | backwards =>
    show textTask reverseText context b data = _
    unfold textTask
    rw [hbound]
    rfl
  | inCase mode =>
    have hmode : b.choice? "mode" = some mode := hoptions
    simp only [TextOperation.command, caseCommand, hbound, hmode]
    rfl
  | copies times separator =>
    obtain ⟨htimes, hlow, hhigh, hseparator⟩ := hoptions
    have hrange := requireRange_natCast "times" hlow hhigh
    simp only [TextOperation.command, repeatCommand, hbound, htimes, hseparator, Option.getD_some]
    show Routine.bind (requireRange "times" 1 maxCopies times) _ = _
    rw [hrange]
    rfl

/-- Whether a step of a chain, behind another one, does what a step of a pipeline does. -/
structure ChainStep.Realizes (c : ChainStep) (s : TextStep) : Prop where
  onText : c.definition.OnText
  input : c.definition.input = .text
  returns : ∀ index data, 0 < index → ∃ b, Executor.ready c index (.text data) = .ok b ∧
    ∀ context, c.command.task context b (.text data) = .done (.text (s.run data))

/-- A bound invocation that is written for a step does what the step does. -/
theorem ChainStep.realizes_of_means {i : Invocation} {s : TextStep} (hmeans : i.Means s)
    {b : Binding} (hb : Binding.ofInvocation i s.operation.command.definition true = .ok b)
    (entity? : Option String) :
    Realizes { command := s.operation.command, entity?, binding := b } s := by
  have honText := onText_command s.operation
  have hinput := input_command s.operation
  refine ⟨honText, hinput, fun index data hindex => ?_⟩
  obtain ⟨b', hready, htext, hothers⟩ :=
    honText.exists_ready hinput hb (c := { command := s.operation.command, entity?, binding := b })
      rfl rfl hindex data
  rw [hmeans.own] at htext
  exact ⟨b', hready, fun context =>
    TextOperation.task_eq htext ((hmeans.options b hb).congr hothers) context _⟩

/-! ## Chains -/

/-- Whether a resolved step is written for a step of a pipeline. -/
structure ResolvedStep.Means (r : ResolvedStep) (s : TextStep) : Prop where
  invocation : r.invocation.Means s
  command : r.command = s.operation.command

/-- Whether the built-in commands on text are found under their names. -/
def Registry.KnowsTextCommands (r : Registry) : Prop :=
  ∀ o : TextOperation, r.find? o.command.name = some o.command

theorem resolveAll_means {r : Resolver} (hknown : r.registry.KnowsTextCommands) (m : Message)
    {invocations : List Invocation} {steps : List TextStep}
    (h : List.Forall₂ Invocation.Means invocations steps) :
    ∃ resolved, r.resolveAll m invocations = .ok resolved ∧
      List.Forall₂ ResolvedStep.Means resolved steps := by
  induction h generalizing r with
  | nil => exact ⟨[], rfl, .nil⟩
  | @cons i s invocations steps hfirst hrest ih =>
    obtain ⟨resolved, hresolved, hmeans⟩ := ih (r := r.later) hknown
    have hfound : r.registry.find? i.name = some s.operation.command := by
      rw [hfirst.name]
      exact hknown s.operation
    have hresolve := Resolver.resolve_of_registered (m := m) hfirst.scope hfound
      (onText_command s.operation).guildOnly 0
    exact ⟨_, Resolver.resolveAll_cons hresolve hresolved, .cons ⟨hfirst, rfl⟩ hmeans⟩

/-- A step binds to what its invocation binds to. -/
theorem ResolvedStep.bind_of_ofInvocation {s : ResolvedStep} {piped : Bool} {b : Binding}
    (h : Binding.ofInvocation s.invocation s.definition piped = .ok b) :
    s.bind piped = .ok { command := s.command, entity? := s.invocation.entity?, binding := b } := by
  unfold ResolvedStep.bind
  rw [h]
  rfl

/-- A chain binds when its first step does and the others do behind it. -/
theorem ResolvedStep.bindFrom_cons {s : ResolvedStep} {rest : List ResolvedStep} {n : Nat}
    {c : ChainStep} {chain : List ChainStep}
    (hfirst : s.bind (Chain.isPiped s.definition n) = .ok c)
    (hrest : bindFrom (n + 1) rest = .ok chain) : bindFrom n (s :: rest) = .ok (c :: chain) := by
  rw [bindFrom, hfirst, ok_bind, hrest]
  rfl

/-- Behind another step, every step of a pipeline binds, and what is bound does what it says. -/
theorem bindFrom_realizes {resolved : List ResolvedStep} {steps : List TextStep}
    (h : List.Forall₂ ResolvedStep.Means resolved steps) {index : Nat} (hindex : 0 < index) :
    ∃ chain, ResolvedStep.bindFrom index resolved = .ok chain ∧
      List.Forall₂ ChainStep.Realizes chain steps := by
  induction h generalizing index with
  | nil => exact ⟨[], rfl, .nil⟩
  | @cons r s resolved steps hfirst hrest ih =>
    obtain ⟨chain, hchain, hrealizes⟩ := ih (Nat.succ_pos index)
    obtain ⟨hmeans, hcommand⟩ := hfirst
    have hpiped : Chain.isPiped r.definition index = true := by
      simp [Chain.isPiped, hindex, ResolvedStep.definition, hcommand, input_command, Kind.isValue]
    obtain ⟨b, hb⟩ := (onText_command s.operation).exists_binding (i := r.invocation) true
      fun _ => rfl
    have hbind : r.bind (Chain.isPiped r.definition index) =
        .ok { command := s.operation.command, entity? := r.invocation.entity?, binding := b } := by
      rw [hpiped, ← hcommand]
      rw [← hcommand] at hb
      exact ResolvedStep.bind_of_ofInvocation hb
    exact ⟨_, ResolvedStep.bindFrom_cons hbind hchain,
      .cons (ChainStep.realizes_of_means hmeans hb r.invocation.entity?) hrealizes⟩

/-- Steps of a pipeline fit together behind any command that returns a text. -/
theorem isChain_realizes {chain : List ChainStep} {steps : List TextStep}
    (h : List.Forall₂ ChainStep.Realizes chain steps) {first : Definition}
    (hfirst : first.output = .text) :
    (first :: chain.map ChainStep.definition).IsChain Definition.Feeds := by
  induction h generalizing first with
  | nil => exact .singleton first
  | @cons c s chain steps hrealizes hrest ih =>
    rw [List.map_cons, List.isChain_cons_cons]
    exact ⟨hfirst.trans hrealizes.input.symm, ih hrealizes.onText.output⟩

/-- What a chain of commands on text comes to, where it begins in a scene with a text to show: it
completes with a result, shows the same in the place of that text, and leaves the scene alone. -/
structure Execution.Yields (e : Execution) (shown result : String) (scene : Routine.Scene) :
    Prop where
  ending : e.ending = .completed (.text result)
  shown : e.steps.foldl Reply.mergeStep shown = result
  scene : e.scene = scene

namespace Executor

variable {x : Executor}

/-- Behind another step, the steps of a chain yield what the steps of the pipeline make of the text,
by induction on the steps: each one replaces the text before it. -/
theorem runFrom_realizes (hcancel : x.cancelAt? = none) {chain : List ChainStep}
    {steps : List TextStep} (h : List.Forall₂ ChainStep.Realizes chain steps) {index : Nat}
    (hindex : 0 < index) (data : String) (scene : Routine.Scene) :
    (x.runFrom index (.text data) chain scene).Yields data (pipeline data steps) scene := by
  induction h generalizing index data with
  | nil => exact ⟨rfl, rfl, rfl⟩
  | @cons c s chain steps hrealizes hrest ih =>
    obtain ⟨b, hready, htask⟩ := hrealizes.returns index data hindex
    rw [runFrom_of_done (x.not_isCancelled hcancel _) hready htask hrealizes.onText.output.symm]
    have hlater := ih (Nat.succ_pos index) (s.run data)
    exact ⟨hlater.ending, hlater.shown, hlater.scene⟩

end Executor

/-- Whether a chain is a pipeline on a text: `echo` with that text, and behind it steps that do what
the steps of the pipeline do. -/
inductive IsPipeline (text : String) (steps : List TextStep) : List ChainStep → Prop
  | intro {b : Binding} {rest : List ChainStep}
      (htext : b.get? textArgument.key = some (.text text))
      (hrest : List.Forall₂ ChainStep.Realizes rest steps) :
      IsPipeline text steps ({ command := echoCommand, binding := b } :: rest)

/-- `echo` with a text. -/
def Invocation.echo (text : String) : Invocation :=
  { name := echoCommand.name, positional := text }

/-- `echo` with a text and invocations that are written for the steps of a pipeline behind it
resolve and bind to the pipeline on the text. -/
theorem exists_pipeline {r : Resolver}
    (hecho : r.registry.find? echoCommand.name = some echoCommand)
    (hknown : r.registry.KnowsTextCommands) (m : Message) {text : String} (htext : text ≠ "")
    {invocations : List Invocation} {steps : List TextStep}
    (h : List.Forall₂ Invocation.Means invocations steps) :
    ∃ resolved chain, r.resolveAll m (.echo text :: invocations) = .ok resolved ∧
      ResolvedStep.bindAll resolved = .ok chain ∧ IsPipeline text steps chain := by
  obtain ⟨resolved, hresolved, hmeans⟩ := resolveAll_means (r := r.later) hknown m h
  obtain ⟨rest, hrest, hrealizes⟩ := bindFrom_realizes hmeans Nat.one_pos
  have hown : (Invocation.echo text).ownText? = some text := by
    show (if text = "" then none else some text) = some text
    rw [if_neg htext]
  obtain ⟨b, hb⟩ := onText_echoCommand.exists_binding (i := .echo text) false (by simp [hown])
  have hresolve := Resolver.resolve_of_registered (m := m) (i := .echo text) rfl hecho
    onText_echoCommand.guildOnly 0
  have hbound := (onText_echoCommand.bound hb).1
  rw [hown] at hbound
  exact ⟨_, _, Resolver.resolveAll_cons hresolve hresolved,
    ResolvedStep.bindFrom_cons (n := 0) (ResolvedStep.bind_of_ofInvocation hb) hrest,
    .intro hbound hrealizes⟩

namespace IsPipeline

variable {x : Executor} {chain : List ChainStep} {steps : List TextStep} {text : String}

/-- What holds of the definitions of a pipeline. -/
theorem onText (h : IsPipeline text steps chain) : ∀ c ∈ chain, c.definition.OnText := by
  cases h with
  | intro htext hrest =>
    have hboth := List.Forall₂.imp
      (fun c s (hrealizes : ChainStep.Realizes c s) => And.intro hrealizes.onText hrealizes) hrest
    exact List.forall_mem_cons.2 ⟨onText_echoCommand, ((List.forall₂_and_left _ _).1 hboth).1⟩

/-- A pipeline begins with a command that takes nothing. -/
theorem startsWithAttachments_eq (h : IsPipeline text steps chain) (m : Message) :
    Bot.startsWithAttachments chain m = false := by
  cases h with
  | intro htext hrest => simp [Bot.startsWithAttachments, ChainStep.definition, echoCommand]

/-- A pipeline that is not too long passes the check. -/
theorem check_eq_ok (h : IsPipeline text steps chain) (hlimit : steps.length + 1 ≤ x.chainLimit) :
    x.check chain none = .ok () := by
  have hcheck : Chain.check (chain.map ChainStep.definition) none x.chainLimit = .ok () := by
    cases h with
    | intro htext hrest =>
      refine Chain.check_eq_ok_iff.2 ⟨?_, ?_, isChain_realizes hrest rfl⟩
      · simpa [hrest.length_eq] using hlimit
      · intro first hfirst hrequires
        obtain rfl := Option.some.inj hfirst
        exact absurd (hrequires.symm.trans onText_echoCommand.requireInput) (by decide)
  simp [Executor.check, hcheck]

/-- A pipeline that passes the check yields what its steps make of the text. -/
theorem execute_yields (h : IsPipeline text steps chain) (hcancel : x.cancelAt? = none)
    (hcheck : x.check chain none = .ok ()) (scene : Routine.Scene) :
    (x.execute chain .nothing scene).Yields "" (pipeline text steps) scene := by
  rw [Executor.execute_of_check hcheck]
  cases h with
  | @intro b rest htext hrest =>
    have hready : Executor.ready { command := echoCommand, binding := b } 0 .nothing = .ok b := by
      have hdefault := onText_echoCommand.requireDefault_eq_ok htext
      have hinput := onText_echoCommand.requireInput_eq_ok .nothing
      show (do
        Executor.requireDefault echoCommand.definition b
        Executor.requireInput echoCommand.definition .nothing
        pure b) = Except.ok b
      rw [hdefault, ok_bind, hinput]
      rfl
    have htask : ∀ context, echoCommand.task context b .nothing =
        .done { TaskOutput.text text with suppressEmbeds := true } := by
      have hget : b.get? "text" = some (.text text) := htext
      intro context
      simp only [echoCommand, boundText, Binding.text?, hget, Option.bind_some, Value.asText?]
      rfl
    rw [Executor.runFrom_of_done (x.not_isCancelled hcancel _) hready htask rfl]
    have hlater := Executor.runFrom_realizes hcancel hrest Nat.one_pos text scene
    exact ⟨hlater.ending, hlater.shown, hlater.scene⟩

end IsPipeline

end ChatChain
