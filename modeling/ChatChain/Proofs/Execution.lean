import ChatChain.Execution
import ChatChain.Proofs.Binding
import ChatChain.Proofs.Fallible
import ChatChain.Proofs.Values
import Mathlib.Data.List.Chain

/-!
# Checked chains run on what they declare

A chain is checked once, before anything runs.  This module follows what the check and the binding
promise through the run.

There are four groups.

* The check.  `Chain.check_eq_ok_iff` says which chains pass.
* The binding of a step.  `ChainStep.Bound` is what binding promises of a step, and
  `bindFrom_bound` says that every step of a bound chain keeps it.
* One step.  `Complete` bindings have a value for every required argument.  `ready_cases` says that
  a step gets one, unless the output of its predecessor is no value for its default key.
  `runFrom_of_returned` and `runFrom_of_failed` run a task, and `runFrom_of_done` one that returns
  at once.
* The run.  `runFrom_sound` is the induction over the steps, and `execute_sound` is the result.
-/

namespace ChatChain

/-! ## The check -/

/-- Whether a command takes what another one produces. -/
def Definition.Feeds (source target : Definition) : Prop :=
  source.output = target.input

namespace Chain

theorem pairError?_eq_none_iff {source target : Definition} :
    pairError? source target = none ↔ source.Feeds target := by
  unfold pairError? compatible Definition.Feeds
  by_cases hfits : source.output = target.input
  · simp [hfits]
  · simp only [beq_iff_eq, hfits, if_false, iff_false]
    split <;> simp

theorem linkError?_eq_none_iff {chain : List Definition} :
    linkError? chain = none ↔ chain.IsChain Definition.Feeds := by
  induction chain with
  | nil => simp [linkError?]
  | cons source rest ih =>
    cases rest with
    | nil => simp [linkError?]
    | cons target rest =>
      rw [linkError?, Option.or_eq_none_iff, pairError?_eq_none_iff, ih, List.isChain_cons_cons]

theorem startError?_eq_none_iff {chain : List Definition} {seed? : Option Kind} :
    startError? seed? chain = none ↔
      ∀ first ∈ chain.head?, first.requireInput = true → seed? = some first.input := by
  cases chain with
  | nil => simp [startError?]
  | cons first rest =>
    by_cases hseed : seed? = some first.input <;> simp [startError?, hseed]

/-- A chain passes the check when it is not too long, its first command finds the input that it
requires, and every command takes what its predecessor produces. -/
theorem check_eq_ok_iff {chain : List Definition} {seed? : Option Kind} {limit : Nat} :
    check chain seed? limit = .ok () ↔
      chain.length ≤ limit ∧
        (∀ first ∈ chain.head?, first.requireInput = true → seed? = some first.input) ∧
        chain.IsChain Definition.Feeds := by
  rw [← startError?_eq_none_iff, ← linkError?_eq_none_iff]
  unfold check error?
  by_cases hlong : limit < chain.length
  · have hnot : ¬chain.length ≤ limit := by omega
    simp [hlong, hnot]
  · rw [if_neg hlong, ← Option.or_eq_none_iff]
    cases (startError? seed? chain).or (linkError? chain) with
    | none => simpa using Nat.le_of_not_lt hlong
    | some e => simp

end Chain

/-! ## The binding of a step -/

/-- What binding promises of a step.  Only the default key of a piped step may be open where an
argument is required. -/
structure ChainStep.Bound (piped : Bool) (s : ChainStep) : Prop where
  valid : s.definition.Valid
  kinds : ∀ a ∈ s.definition.arguments, ∀ v, s.binding.get? a.key = some v → v.kind = a.kind
  closed : ∀ a ∈ s.definition.arguments, a.required = true → s.binding.get? a.key = none →
    s.definition.isDefaultKey a.key = true ∧ piped = true
  explicit : ∀ a ∈ s.definition.arguments, s.binding.isExplicit a.key = true →
    s.binding.get? a.key ≠ none

/-- What binding promises of a chain that begins at a position. -/
def BoundFrom (index : Nat) (chain : List ChainStep) : Prop :=
  ∀ (k : Nat) (s : ChainStep), chain[k]? = some s → s.Bound (Chain.isPiped s.definition (index + k))

namespace Binding

variable {i : Invocation} {d : Definition} {piped : Bool} {b : Binding}

/-- The value of an argument is of the kind that is declared for it. -/
theorem Binds.kind_eq (hb : Binds i d piped b) (hd : d.Valid) {a : Argument} (ha : a ∈ d.arguments)
    {v : Value} (hv : b.get? a.key = some v) : v.kind = a.kind := by
  rw [(hb.settled a ha).value] at hv
  rcases Option.or_eq_some_iff.1 hv with hread | ⟨-, hdefault⟩
  · obtain ⟨text, -, hcoerce⟩ := Option.bind_eq_some_iff.1 hread
    exact Value.kind_of_coerce? hcoerce
  · exact (hd.arguments a ha).default v hdefault

/-- What the user typed is bound. -/
theorem Binds.get?_ne_none (hb : Binds i d piped b) {a : Argument} (ha : a ∈ d.arguments)
    (hexplicit : b.isExplicit a.key = true) : b.get? a.key ≠ none := by
  rw [(hb.settled a ha).explicit] at hexplicit
  obtain ⟨v, hv⟩ := Option.isSome_iff_exists.1 hexplicit
  rw [(hb.settled a ha).value, hv]
  simp

end Binding

namespace ResolvedStep

open Fallible

theorem bind_bound {s : ResolvedStep} (hcheck : s.definition.check = .ok ()) {piped : Bool}
    {c : ChainStep} (h : s.bind piped = .ok c) :
    c.definition = s.definition ∧ c.Bound piped := by
  have hd := Definition.check_eq_ok_iff.1 hcheck
  simp only [bind, bind_eq_ok_iff, pure_eq_ok_iff] at h
  obtain ⟨b, hbind, rfl⟩ := h
  have hb := Binding.binds_of_ofInvocation hd.keys hbind
  exact ⟨rfl, hd, fun a ha v hv => hb.kind_eq hd ha hv,
    fun a ha hrequired hnone => (hb.settled a ha).unbound hnone hrequired,
    fun a ha hexplicit => hb.get?_ne_none ha hexplicit⟩

theorem bindFrom_bound {steps : List ResolvedStep}
    (hcheck : ∀ s ∈ steps, s.definition.check = .ok ()) {index : Nat} {chain : List ChainStep}
    (h : bindFrom index steps = .ok chain) : BoundFrom index chain := by
  induction steps generalizing index chain with
  | nil =>
    obtain rfl := Except.ok.inj h
    intro k c hc
    simp at hc
  | cons s rest ih =>
    simp only [bindFrom, bind_eq_ok_iff, pure_eq_ok_iff] at h
    obtain ⟨first, hfirst, others, htail, rfl⟩ := h
    intro k c hc
    cases k with
    | zero =>
      obtain rfl : first = c := by simpa using hc
      obtain ⟨hdefinition, hbound⟩ := bind_bound (hcheck s List.mem_cons_self) hfirst
      rw [hdefinition]
      exact hbound
    | succ k =>
      have hothers := ih (fun t ht => hcheck t (List.mem_cons_of_mem _ ht)) htail k c hc
      rwa [Nat.add_right_comm] at hothers

end ResolvedStep

/-! ## One step -/

/-- Whether every required argument has a value of its kind. -/
def Complete (d : Definition) (b : Binding) : Prop :=
  ∀ a ∈ d.arguments, a.required = true → ∃ v, b.get? a.key = some v ∧ v.kind = a.kind

/-- Whether a command may be run on data: it is of the declared kind where something came before
the command, and where the command requires it. -/
def Fits (d : Definition) (index : Nat) (data : Flow) : Prop :=
  0 < index ∨ d.requireInput = true → data.kind = d.input

/-- Whether the error says that the output of the predecessor is no value for the default key. -/
def RefusesPiped (d : Definition) (index : Nat) (e : CommandError) : Prop :=
  ∃ (a : Argument) (v : Value), Chain.isPiped d index = true ∧ d.defaultArgument? = some a ∧
    v.kind = d.input ∧ Value.coerce? v.render a.kind a.choices = none ∧
    e = .invalidArgument d.name a.key v.render a.kind

theorem Flow.exists_value {data : Flow} (h : data.kind.isValue = true) :
    ∃ v, data.value? = some v ∧ v.kind = data.kind := by
  cases data with
  | nothing => exact absurd h (by decide)
  | value v => exact ⟨v, rfl, rfl⟩
  | files handles => exact absurd h (by simp [Flow.kind, Kind.isValue])

namespace ChainStep.Bound

variable {piped : Bool} {s : ChainStep}

/-- A step that leaves no argument open is complete. -/
theorem complete (h : s.Bound piped)
    (hopen : ∀ a ∈ s.definition.arguments, a.required = true →
      s.binding.get? a.key = none → s.definition.isDefaultKey a.key = false ∨ piped = false) :
    Complete s.definition s.binding := by
  intro a ha hrequired
  cases hvalue : s.binding.get? a.key with
  | some v => exact ⟨v, rfl, h.kinds a ha v hvalue⟩
  | none =>
    obtain ⟨hkey, hpiped⟩ := h.closed a ha hrequired hvalue
    rcases hopen a ha hrequired hvalue with hno | hno
    · exact absurd (hkey.symm.trans hno) (by decide)
    · exact absurd (hpiped.symm.trans hno) (by decide)

/-- Putting the output of the predecessor in completes a step or is refused. -/
theorem pipe_cases (h : s.Bound piped) (v : Value) :
    (∃ b, s.binding.pipe s.definition v = .ok b ∧ Complete s.definition b) ∨
      ∃ a, s.definition.defaultArgument? = some a ∧
        Value.coerce? v.render a.kind a.choices = none ∧
        s.binding.pipe s.definition v =
          .error (.invalidArgument s.definition.name a.key v.render a.kind) := by
  unfold Binding.pipe
  cases hdefault : s.definition.defaultArgument? with
  | none =>
    refine Or.inl ⟨s.binding, rfl, h.complete fun a ha _ _ => Or.inl ?_⟩
    -- A default key that is declared names an argument.
    cases hkey : s.definition.isDefaultKey a.key with
    | false => rfl
    | true =>
      cases hdefault.symm.trans (h.valid.defaultArgument?_eq_some_iff.2 ⟨ha, hkey⟩)
  | some a =>
    obtain ⟨ha, -⟩ := Definition.defaultArgument?_eq_some hdefault
    have honly : ∀ x ∈ s.definition.arguments, s.definition.isDefaultKey x.key = true →
        x = a := fun x hx hxkey =>
      Option.some.inj ((h.valid.defaultArgument?_eq_some_iff.2 ⟨hx, hxkey⟩).symm.trans hdefault)
    by_cases hexplicit : s.binding.isExplicit a.key = true
    · refine Or.inl ⟨s.binding, by simp [hexplicit], h.complete fun x hx _ hnone => Or.inl ?_⟩
      cases hxkey : s.definition.isDefaultKey x.key with
      | false => rfl
      | true =>
        obtain rfl := honly x hx hxkey
        exact absurd hnone (h.explicit x hx hexplicit)
    · cases hvalue : Value.coerce? v.render a.kind a.choices with
      | none => exact Or.inr ⟨a, rfl, hvalue, by simp [hexplicit, hvalue]⟩
      | some w =>
        refine Or.inl ⟨{ s.binding with values := s.binding.values.insert a.key w },
          by simp [hexplicit, hvalue], fun x hx hrequired => ?_⟩
        unfold Binding.get?
        rw [Dict.get?_insert]
        by_cases hsame : x.key = a.key
        · obtain rfl := h.valid.eq_of_key_eq hx ha hsame
          exact ⟨w, by simp, Value.kind_of_coerce? hvalue⟩
        · rw [if_neg hsame]
          cases hget : s.binding.values.get? x.key with
          | some u => exact ⟨u, rfl, h.kinds x hx u hget⟩
          | none =>
            obtain ⟨hxkey, -⟩ := h.closed x hx hrequired hget
            exact absurd (congrArg Argument.key (honly x hx hxkey)) hsame

end ChainStep.Bound

namespace Executor

theorem requireDefault_eq_ok {d : Definition} {b : Binding} (hb : Complete d b) :
    requireDefault d b = .ok () := by
  unfold requireDefault
  cases hdefault : d.defaultArgument? with
  | none => rfl
  | some a =>
    obtain ⟨ha, -⟩ := Definition.defaultArgument?_eq_some hdefault
    by_cases hrequired : a.required = true
    · obtain ⟨v, hv, -⟩ := hb a ha hrequired
      simp [hv]
    · simp [hrequired]

theorem requireInput_eq_ok {d : Definition} {index : Nat} {data : Flow} (h : Fits d index data) :
    requireInput d data = .ok () := by
  unfold requireInput
  by_cases hrequired : d.requireInput = true
  · simp [h (Or.inr hrequired)]
  · simp [hrequired]

/-- A step on data that fits gets a complete binding, unless its default key refuses the data. -/
theorem ready_cases {s : ChainStep} {index : Nat} {data : Flow}
    (hs : s.Bound (Chain.isPiped s.definition index)) (hdata : Fits s.definition index data) :
    (∃ b, ready s index data = .ok b ∧ Complete s.definition b) ∨
      ∃ e, ready s index data = .error e ∧ RefusesPiped s.definition index e := by
  have hready : ∀ b, pipedBinding s index data = .ok b → Complete s.definition b →
      ready s index data = .ok b := by
    intro b hpiped hb
    unfold ready
    simp only [Fallible.bind_eq_ok_iff]
    exact ⟨b, hpiped, (), requireDefault_eq_ok hb, (), requireInput_eq_ok hdata, rfl⟩
  cases hpiped : Chain.isPiped s.definition index with
  | true =>
    obtain ⟨hindex, hvalue⟩ : 0 < index ∧ s.definition.input.isValue = true := by
      simpa [Chain.isPiped] using hpiped
    have hkind := hdata (Or.inl hindex)
    obtain ⟨v, hv, hvkind⟩ := Flow.exists_value (hkind ▸ hvalue)
    have hbinding : pipedBinding s index data = s.binding.pipe s.definition v := by
      unfold pipedBinding
      simp [hv, hpiped]
    rcases hs.pipe_cases v with ⟨b, hpipe, hb⟩ | ⟨a, hdefault, hcoerce, hpipe⟩
    · exact Or.inl ⟨b, hready b (hbinding.trans hpipe) hb, hb⟩
    · refine Or.inr ⟨_, ?_, a, v, hpiped, hdefault, hvkind.trans hkind, hcoerce, rfl⟩
      unfold ready
      rw [hbinding, hpipe]
      rfl
  | false =>
    have hbinding : pipedBinding s index data = .ok s.binding := by
      unfold pipedBinding
      cases data.value? <;> simp [hpiped]
    have hb : Complete s.definition s.binding := hs.complete fun _ _ _ _ => Or.inr hpiped
    exact Or.inl ⟨s.binding, hready s.binding hbinding hb, hb⟩

/-- A scene without files at the start of time. -/
def emptyScene : Routine.Scene :=
  { files := {}, store := { ledger := { directory := [] } }, clock := 0 }

theorem not_isCancelled (x : Executor) (h : x.cancelAt? = none) (t : Nat) :
    x.isCancelled t = false := by
  simp [isCancelled, h]

/-- A chain that passes the check runs from its first step on. -/
theorem execute_of_check {x : Executor} {chain : List ChainStep} {seed : Flow}
    (hcheck : x.check chain (seedKind? seed) = .ok ()) (scene : Routine.Scene) :
    x.execute chain seed scene = x.runFrom 0 seed chain scene := by
  simp only [execute, hcheck]

section

variable {x : Executor} {c : ChainStep} {index : Nat} {data : Flow} {b : Binding}
  {scene scene' : Routine.Scene}

/-- A task that returns passes its output on. -/
theorem runFrom_of_returned {output : TaskOutput} (hnow : x.isCancelled scene.clock = false)
    (hready : ready c index data = .ok b)
    (hrun : x.runTask index c b data scene = (.returned output, scene'))
    (hkind : output.data.kind = c.definition.output) (rest : List ChainStep) :
    x.runFrom index data (c :: rest) scene =
      (x.runFrom (index + 1) output.data rest scene').after
        { definition := c.definition, binding := b, input := data }
        (summarize c.definition output (scene'.clock - scene.clock)) := by
  have hstart : x.start c index data scene.clock = .ok b := by
    simp [start, hnow, hready]
  have hreturned : x.outputOf c.definition (.returned output) = some (.ok output) := by
    simp [outputOf, hkind]
  rw [runFrom]
  simp only [hstart, hrun, hreturned]

/-- A task that fails ends the chain. -/
theorem runFrom_of_failed {failure : Failure} (hnow : x.isCancelled scene.clock = false)
    (hready : ready c index data = .ok b)
    (hrun : x.runTask index c b data scene = (.failed failure, scene')) (rest : List ChainStep) :
    x.runFrom index data (c :: rest) scene =
      { runs := [{ definition := c.definition, binding := b, input := data }]
        scene := scene'
        ending := .failed (.task c.definition.name failure) } := by
  have hstart : x.start c index data scene.clock = .ok b := by
    simp [start, hnow, hready]
  rw [runFrom]
  simp only [hstart, hrun, outputOf]

/-- A task that returns at once passes its output on. -/
theorem runFrom_of_done {output : TaskOutput} (hnow : x.isCancelled scene.clock = false)
    (hready : ready c index data = .ok b)
    (htask : ∀ context, c.command.task context b data = .done output)
    (hkind : output.data.kind = c.definition.output) (rest : List ChainStep) :
    x.runFrom index data (c :: rest) scene =
      (x.runFrom (index + 1) output.data rest scene).after
        { definition := c.definition, binding := b, input := data }
        (summarize c.definition output (scene.clock - scene.clock)) := by
  have hrun : x.runTask index c b data scene = (.returned output, scene) := by
    simp only [runTask, htask, Routine.stalling_done]
    rfl
  exact runFrom_of_returned hnow hready hrun hkind rest

end

/-! ## The run -/

/-- Whether a task was started as its step declares: on data that fits, and with a value for every
required argument. -/
structure RunsWell (s : ChainStep) (index : Nat) (run : TaskRun) : Prop where
  definition : run.definition = s.definition
  fits : Fits s.definition index run.input
  complete : Complete s.definition run.binding

/-- An output is passed on only if it is of the declared kind. -/
theorem kind_of_outputOf {x : Executor} {d : Definition} {ending : Routine.Ending TaskOutput}
    {output : TaskOutput} (h : x.outputOf d ending = some (.ok output)) :
    output.data.kind = d.output := by
  cases ending with
  | returned result =>
    simp only [outputOf] at h
    split at h
    · next hkind =>
      obtain rfl : result = output := by simpa using h
      exact hkind
    · exact absurd h (by simp)
  | failed failure => exact absurd h (by simp [outputOf])
  | panicked => exact absurd h (by simp [outputOf])
  | timedOut => exact absurd h (by simp [outputOf])
  | cancelled => exact absurd h (by simp [outputOf])
  | stuck => exact absurd h (by simp [outputOf])

/-- No task ends with an error of a command. -/
theorem outputOf_ne_command (x : Executor) (d : Definition) (ending : Routine.Ending TaskOutput)
    (e : CommandError) : x.outputOf d ending ≠ some (.error (.command e)) := by
  cases ending with
  | returned result =>
    simp only [outputOf]
    split <;> simp
  | failed failure => simp [outputOf]
  | panicked => simp [outputOf]
  | timedOut => simp [outputOf]
  | cancelled => simp [outputOf]
  | stuck => simp [outputOf]

/-- What holds of a run that begins at a position of a chain. -/
structure SoundFrom (index : Nat) (chain : List ChainStep) (e : Execution) : Prop where
  runs : ∀ (k : Nat) (run : TaskRun), e.runs[k]? = some run →
    ∃ s, chain[k]? = some s ∧ RunsWell s (index + k) run
  ending : ∀ error, e.ending = .failed (.command error) →
    ∃ (k : Nat) (s : ChainStep), chain[k]? = some s ∧ RefusesPiped s.definition (index + k) error

/-- A run that starts no task and ends without an error of a command. -/
theorem SoundFrom.of_no_runs {index : Nat} {chain : List ChainStep} {e : Execution}
    (hruns : e.runs = []) (hending : ∀ error, e.ending ≠ .failed (.command error)) :
    SoundFrom index chain e where
  runs k run hrun := by simp [hruns] at hrun
  ending error herror := absurd herror (hending error)

/-- A run that ends with its first task. -/
theorem SoundFrom.of_single_run {index : Nat} {s : ChainStep} {rest : List ChainStep}
    {e : Execution} {run : TaskRun} (hrun : RunsWell s index run) (hruns : e.runs = [run])
    (hending : ∀ error, e.ending ≠ .failed (.command error)) : SoundFrom index (s :: rest) e where
  runs k r hr := by
    rw [hruns] at hr
    cases k with
    | zero =>
      obtain rfl : run = r := by simpa using hr
      exact ⟨s, rfl, hrun⟩
    | succ k => simp at hr
  ending error herror := absurd herror (hending error)

/-- A run that goes on behind its first task. -/
theorem SoundFrom.after {index : Nat} {s : ChainStep} {rest : List ChainStep} {e : Execution}
    {run : TaskRun} (hrun : RunsWell s index run) (he : SoundFrom (index + 1) rest e)
    (summary : StepSummary) : SoundFrom index (s :: rest) (e.after run summary) where
  runs k r hr := by
    cases k with
    | zero =>
      obtain rfl : run = r := by simpa [Execution.after] using hr
      exact ⟨s, rfl, hrun⟩
    | succ k =>
      obtain ⟨t, ht, hwell⟩ := he.runs k r (by simpa [Execution.after] using hr)
      exact ⟨t, by simpa using ht, by rwa [Nat.add_right_comm] at hwell⟩
  ending error herror := by
    obtain ⟨k, t, ht, hrefuses⟩ := he.ending error herror
    exact ⟨k + 1, t, by simpa using ht, by rwa [Nat.add_right_comm] at hrefuses⟩

theorem links_cons {s : ChainStep} {rest : List ChainStep}
    (h : ((s :: rest).map ChainStep.definition).IsChain Definition.Feeds) :
    (∀ t ∈ rest.head?, s.definition.Feeds t.definition) ∧
      (rest.map ChainStep.definition).IsChain Definition.Feeds := by
  obtain ⟨hlink, hrest⟩ := List.isChain_cons.1 h
  exact ⟨fun t ht => hlink _ (by simp [Option.mem_def.1 ht]), hrest⟩

/-- A chain whose steps are bound and take what their predecessors produce runs well from every
position, on data that fits its first step. -/
theorem runFrom_sound (x : Executor) {chain : List ChainStep} {index : Nat} {data : Flow}
    (hbound : BoundFrom index chain)
    (hlinks : (chain.map ChainStep.definition).IsChain Definition.Feeds)
    (hdata : ∀ s ∈ chain.head?, Fits s.definition index data) (scene : Routine.Scene) :
    SoundFrom index chain (x.runFrom index data chain scene) := by
  induction chain generalizing index data scene with
  | nil => exact .of_no_runs rfl (by simp [runFrom])
  | cons s rest ih =>
    have hs : s.Bound (Chain.isPiped s.definition index) := hbound 0 s rfl
    have hfits : Fits s.definition index data := hdata s rfl
    rw [runFrom]
    unfold start
    split
    · next e hstart =>
      split at hstart
      · obtain rfl := Except.error.inj hstart
        exact .of_no_runs rfl (by simp)
      · rcases ready_cases hs hfits with ⟨b, hready, -⟩ | ⟨error, hready, hrefuses⟩
        · simp [hready] at hstart
        · obtain rfl : ChainError.command error = e := by
            simpa [hready] using hstart
          refine ⟨by simp, fun error' herror => ⟨0, s, rfl, ?_⟩⟩
          obtain rfl : error = error' := by simpa using herror
          exact hrefuses
    · next binding hstart =>
      have hcomplete : Complete s.definition binding := by
        split at hstart
        · exact absurd hstart (by simp)
        · rcases ready_cases hs hfits with ⟨b, hready, hb⟩ | ⟨error, hready, -⟩
          · obtain rfl : b = binding := by simpa [hready] using hstart
            exact hb
          · simp [hready] at hstart
      have hwell : RunsWell s index { definition := s.definition, binding, input := data } :=
        ⟨rfl, hfits, hcomplete⟩
      simp only
      cases houtput : x.outputOf s.definition (x.runTask index s binding data scene).1 with
      | none => exact .of_single_run hwell rfl (by simp)
      | some result =>
        cases result with
        | error e =>
          refine .of_single_run hwell rfl fun error herror => ?_
          obtain rfl : e = .command error := by simpa using herror
          exact outputOf_ne_command x _ _ _ houtput
        | ok output =>
          refine .after hwell (ih (fun k t ht => ?_) ?_ ?_ _) _
          · have htail := hbound (k + 1) t (by simpa using ht)
            rwa [← Nat.add_assoc, Nat.add_right_comm] at htail
          · exact (links_cons hlinks).2
          · intro t ht _
            exact (kind_of_outputOf houtput).trans ((links_cons hlinks).1 t ht)

/-- A seed of the kind that a chain was checked for fits its first step. -/
theorem fits_of_seedKind? {d : Definition} {seed : Flow}
    (h : d.requireInput = true → seedKind? seed = some d.input) : Fits d 0 seed := by
  rintro (hindex | hrequired)
  · exact absurd hindex (by decide)
  · have hseed := h hrequired
    unfold seedKind? at hseed
    split at hseed
    · exact absurd hseed (by simp)
    · exact Option.some.inj hseed

theorem check_eq_ok {x : Executor} {chain : List ChainStep} {seed? : Option Kind} :
    x.check chain seed? = .ok () ↔
      Chain.check (chain.map ChainStep.definition) seed? x.chainLimit = .ok () := by
  unfold check
  cases Chain.check (chain.map ChainStep.definition) seed? x.chainLimit <;> simp

theorem check_eq_error {x : Executor} {chain : List ChainStep} {seed? : Option Kind}
    {e : ChainError} :
    x.check chain seed? = .error e ↔
      ∃ c, Chain.check (chain.map ChainStep.definition) seed? x.chainLimit = .error c ∧
        e = .command c := by
  unfold check
  cases Chain.check (chain.map ChainStep.definition) seed? x.chainLimit <;>
    simp [eq_comm]

/-- A chain of accepted commands that is bound and checked runs well on every seed of the kind that
it was checked for. -/
theorem execute_sound {x : Executor} {steps : List ResolvedStep}
    (hcheck : ∀ s ∈ steps, s.definition.check = .ok ()) {chain : List ChainStep}
    (hbind : ResolvedStep.bindAll steps = .ok chain) {seed : Flow}
    (hfit : x.check chain (seedKind? seed) = .ok ()) (scene : Routine.Scene) :
    SoundFrom 0 chain (x.execute chain seed scene) := by
  obtain ⟨-, hstart, hlinks⟩ := Chain.check_eq_ok_iff.1 (check_eq_ok.1 hfit)
  have hbound : BoundFrom 0 chain := ResolvedStep.bindFrom_bound hcheck hbind
  rw [execute_of_check hfit]
  refine runFrom_sound x hbound hlinks (fun s hs => ?_) scene
  exact fits_of_seedKind? (hstart s.definition (by simpa using ⟨s, hs, rfl⟩))

/-- A default key of the kind of the input refuses nothing, if values of the kind are read back from
their text. -/
theorem not_refusesPiped {d : Definition} {index : Nat} {e : CommandError}
    (h : Chain.isPiped d index = true →
      ∀ a, d.defaultArgument? = some a → a.kind = d.input ∧ d.input.isFaithful = true) :
    ¬RefusesPiped d index e := by
  rintro ⟨a, v, hpiped, hdefault, hkind, hcoerce, -⟩
  obtain ⟨ha, hfaithful⟩ := h hpiped a hdefault
  rw [ha, ← hkind, Value.coerce?_render (hkind ▸ hfaithful)] at hcoerce
  exact absurd hcoerce (by simp)

end Executor

end ChatChain
