import ChatChain.Proofs.Answering
import ChatChain.Proofs.WrittenSteps
import Mathlib.Algebra.Ring.Int.Defs

/-!
# Chained sums

A message that adds one amount after the other to a number is answered with the exact sum, or fails
at the first partial sum that is no whole number.  Between two steps the number goes through its
text.

There are five groups.

* Exact sums.  `addWithin?_eq_some_iff` says that one addition is exact or comes to nothing, and
  `OverflowsAt` where adding one amount after the other stops.
* The text.  `sumText` is the content, and `Invocation.parse_sumText` reads it.
* The chain.  `ChainStep.Adds` is what a step is when it gets to run, and
  `ChainStep.addsBehind_of_open` pipes the number before it into it.
* The run.  `Executor.runFrom_adds` is one step, `Executor.runFrom_sumsUp` all steps behind the
  first one, and `IsSumChain.execute_sumsUp` the whole chain.
* The whole.  `Bot.exists_handle_sum` follows the message to its answer, and
  `sums_are_exact_or_reported` is the result.
-/

namespace ChatChain

open Builtin Fallible Number Text

/-! ## Exact sums -/

/-- Whether an integer is a whole number, which has 32 bits. -/
def IsWhole (i : Int) : Prop :=
  -2 ^ 31 ≤ i ∧ i < 2 ^ 31

instance (i : Int) : Decidable (IsWhole i) :=
  inferInstanceAs (Decidable (_ ∧ _))

theorem isWhole_toInt (n : Int32) : IsWhole n.toInt :=
  ⟨n.minValue_le_toInt, Int.lt_of_le_of_lt n.toInt_le (by decide)⟩

theorem exists_toInt_eq_iff {i : Int} : (∃ n : Int32, n.toInt = i) ↔ IsWhole i := by
  constructor
  · intro h
    obtain ⟨n, rfl⟩ := h
    exact isWhole_toInt n
  · intro h
    obtain ⟨hlow, hhigh⟩ := h
    exact ⟨.ofInt i, Int32.toInt_ofInt_of_le (by omega) (by omega)⟩

/-- Adding comes to the number that is the exact sum, if there is one. -/
theorem addWithin?_eq_some_iff {value amount : Int} {sum : Int32} :
    addWithin? value amount = some sum ↔ sum.toInt = value + amount := by
  unfold addWithin?
  rw [Option.bind_eq_some_iff]
  constructor
  · intro h
    obtain ⟨wide, hwide, hsum⟩ := h
    exact (Value.int32?_eq_some_iff.1 hsum).trans (Value.int64?_eq_some_iff.1 hwide)
  · intro h
    refine ⟨sum.toInt64, Value.int64?_eq_some_iff.2 ?_, Value.int32?_eq_some_iff.2 ?_⟩
    · rw [Int32.toInt_toInt64, h]
    · exact sum.toInt_toInt64.symm

/-- The sum of a number and the first amounts, up to the one at position `k`. -/
def partialSum (value : Int) (amounts : List Int64) (k : Nat) : Int :=
  value + ((amounts.take (k + 1)).map Int64.toInt).sum

/-- The sum of a number and all amounts. -/
def totalSum (value : Int) (amounts : List Int64) : Int :=
  value + (amounts.map Int64.toInt).sum

section

variable (value : Int) (amount : Int64) (amounts : List Int64)

theorem partialSum_zero : partialSum value (amount :: amounts) 0 = value + amount.toInt := by
  simp [partialSum]

theorem partialSum_succ (k : Nat) :
    partialSum value (amount :: amounts) (k + 1) = partialSum (value + amount.toInt) amounts k := by
  simp [partialSum, Int.add_assoc]

theorem totalSum_cons :
    totalSum value (amount :: amounts) = totalSum (value + amount.toInt) amounts := by
  simp [totalSum, Int.add_assoc]

end

/-- Whether the partial sum at position `k` is the first one that is no whole number. -/
structure OverflowsAt (value : Int) (amounts : List Int64) (k : Nat) : Prop where
  lt_length : k < amounts.length
  before : ∀ j < k, IsWhole (partialSum value amounts j)
  here : ¬IsWhole (partialSum value amounts k)

namespace OverflowsAt

variable {value : Int} {amount : Int64} {amounts : List Int64} {j k : Nat}

theorem unique (hj : OverflowsAt value amounts j) (hk : OverflowsAt value amounts k) : j = k := by
  rcases Nat.lt_trichotomy j k with hlt | heq | hlt
  · exact absurd (hk.before j hlt) hj.here
  · exact heq
  · exact absurd (hj.before k hlt) hk.here

theorem zero (h : ¬IsWhole (value + amount.toInt)) : OverflowsAt value (amount :: amounts) 0 where
  lt_length := Nat.zero_lt_succ _
  before j hj := absurd hj (Nat.not_lt_zero j)
  here := by rwa [partialSum_zero]

theorem succ (hfirst : IsWhole (value + amount.toInt))
    (h : OverflowsAt (value + amount.toInt) amounts k) :
    OverflowsAt value (amount :: amounts) (k + 1) where
  lt_length := Nat.succ_lt_succ h.lt_length
  before j hj := by
    cases j with
    | zero => rwa [partialSum_zero]
    | succ j =>
      rw [partialSum_succ]
      exact h.before j (Nat.lt_of_succ_lt_succ hj)
  here := by
    rw [partialSum_succ]
    exact h.here

end OverflowsAt

/-! ## The text -/

variable {g : Grammar}

/-- The content that adds an amount to a number, and then one amount after the other to the sum. -/
def sumText (g : Grammar) (value : Int32) (first : Int64) (rest : List Int64) : String :=
  let adding := String.singleton g.commandMark ++ "add "
  let amountOf (amount : Int64) :=
    String.singleton g.argumentMark ++ "amount " ++ writeInt amount.toInt
  " ".intercalate ((adding ++ writeInt value.toInt ++ " " ++ amountOf first) ::
    rest.map fun amount => adding ++ amountOf amount)

namespace Invocation

/-- `add` with an amount, and with the number if there is one. -/
def adding (value? : Option Int32) (amount : Int64) : Invocation :=
  { name := addCommand.name
    positional := value?.elim "" fun value => writeInt value.toInt
    named := Dict.ofList [("amount", writeInt amount.toInt)] }

theorem print_adding (g : Grammar) (value? : Option Int32) (amount : Int64) :
    (adding value? amount).print g = String.singleton g.commandMark ++ "add " ++
      (value?.elim "" fun value => writeInt value.toInt ++ " ") ++
        (String.singleton g.argumentMark ++ "amount " ++ writeInt amount.toInt) := by
  have hparts : (adding value? amount).parts g = (String.singleton g.commandMark ++ "add" ++ "") ::
      textPart (adding value? amount).positional ++
        [String.singleton g.argumentMark ++ "amount", writeInt amount.toInt] := by
    show headWord g (adding value? amount) :: textPart (adding value? amount).positional ++
      ((String.singleton g.argumentMark ++ "amount") :: textPart (writeInt amount.toInt) ++ []) = _
    rw [textPart.eq_def (writeInt _), if_neg (writeInt_ne_empty _)]
    rfl
  rw [print, hparts]
  refine String.toList_inj.1 ?_
  cases value? with
  | none => simp [adding, textPart]
  | some value => simp [adding, textPart, writeInt_ne_empty]

theorem wellFormed_adding (g : Grammar) (value? : Option Int32) (amount : Int64) :
    (adding value? amount).WellFormed g where
  name := show isCommandName addCommand.name = true by decide
  entity id hid := absurd hid (by simp [adding])
  positional := by
    cases value? with
    | none => exact isPlain_empty g
    | some value => exact isPlain_writeInt g value.toInt
  keys e he := by
    obtain rfl : e = ("amount", writeInt amount.toInt) := List.mem_singleton.1 he
    exact (by decide : isArgumentKey "amount" = true)
  values e he := by
    obtain rfl : e = ("amount", writeInt amount.toInt) := List.mem_singleton.1 he
    exact isPlain_writeInt g amount.toInt

/-- The content reads as what it was written for. -/
theorem parse_sumText (hcommand : isBlank g.commandMark = false)
    (hargument : isBlank g.argumentMark = false) (hdistinct : g.commandMark ≠ g.argumentMark)
    (value : Int32) (first : Int64) (rest : List Int64) :
    parse g (sumText g value first rest) = adding value first :: rest.map (adding none) := by
  have hprint : sumText g value first rest =
      printAll g (adding value first :: rest.map (adding none)) := by
    have hrest : rest.map (fun amount => String.singleton g.commandMark ++ "add " ++
        (String.singleton g.argumentMark ++ "amount " ++ writeInt amount.toInt)) =
          (rest.map (adding none)).map (print g) := by
      rw [List.map_map]
      refine List.map_congr_left fun amount _ => ?_
      rw [Function.comp_apply, print_adding, Option.elim_none, String.append_empty]
    rw [printAll, List.map_cons, print_adding, ← hrest]
    simp [sumText, String.append_assoc]
  rw [hprint]
  refine parse_printAll_of_wellFormed hcommand hargument hdistinct fun i hi => ?_
  rcases List.mem_cons.1 hi with rfl | hi
  · exact wellFormed_adding g (some value) first
  · obtain ⟨amount, -, rfl⟩ := List.mem_map.1 hi
    exact wellFormed_adding g none amount

end Invocation

/-! ## The chain -/

/-- The argument of `add` for the number. -/
def valueArgument : Argument :=
  { key := "value", kind := .integer, required := true }

/-- The text of a whole number reads as the number. -/
theorem coerce?_valueArgument (value : Int32) :
    Value.coerce? (writeInt value.toInt) valueArgument.kind valueArgument.choices =
      some (.integer value) :=
  Value.coerce?_render (v := .integer value) rfl _

namespace Binding

theorem readValue?_adding (value? : Option Int32) (amount : Int64) :
    readValue? (.adding value? amount) addCommand.definition valueArgument =
      value?.map Value.integer := by
  cases value? with
  | none => rfl
  | some value =>
    have hsupplied : suppliedText? (.adding (some value) amount) addCommand.definition
        valueArgument = some (writeInt value.toInt) :=
      if_pos ⟨by decide, writeInt_ne_empty _⟩
    rw [readValue?, hsupplied, Option.bind_some, coerce?_valueArgument]
    rfl

/-- `add` binds, if it has a number or waits for one. -/
theorem exists_adding (value? : Option Int32) (amount : Int64) (piped : Bool)
    (hopen : value? = none → piped = true) :
    ∃ b, ofInvocation (.adding value? amount) addCommand.definition piped = .ok b ∧
      b.get? "value" = value?.map Value.integer ∧ b.isExplicit "value" = value?.isSome ∧
      b.whole? "amount" = some amount.toInt := by
  have hread := readValue?_adding value? amount
  obtain ⟨b, hb⟩ :
      ∃ b, ofInvocation (.adding value? amount) addCommand.definition piped = .ok b := by
    refine exists_ofInvocation fun a ha => ?_
    rcases List.mem_cons.1 ha with rfl | ha
    · cases value? with
      | none => exact ⟨(nomatch ·, ·), fun _ _ => ⟨by decide, hopen rfl⟩⟩
      | some value =>
        refine ⟨fun text htext hnone => ?_, fun hnone => ?_⟩
        · have hcoerce : readValue? (.adding (some value) amount) addCommand.definition
              valueArgument = none := by
            rw [readValue?, show suppliedText? _ _ valueArgument = some text from htext]
            exact hnone
          rw [hread] at hcoerce
          cases hcoerce
        · cases hnone.symm.trans (congrArg (Option.or · none) hread)
    · obtain rfl := List.mem_singleton.1 ha
      exact ⟨fun _ _ _ => rfl, fun hnone => absurd hnone (by simp)⟩
  have hkeys : (argumentKeys addCommand.definition.arguments).Nodup := by decide
  have hsettled := (binds_of_ofInvocation hkeys hb).settled valueArgument List.mem_cons_self
  have hvalue := hsettled.value
  have hexplicit := hsettled.explicit
  rw [hread] at hvalue hexplicit
  have hamount : b.get? "amount" = some (.long amount) :=
    get?_of_named hkeys hb (List.mem_cons_of_mem _ List.mem_cons_self) rfl
      (Value.coerce?_render (v := .long amount) rfl _)
  refine ⟨b, hb, hvalue.trans (Option.or_none ..), hexplicit.trans ?_, ?_⟩
  · exact Option.isSome_map
  · simp [whole?, hamount, Value.asWhole?]

end Binding

/-- Whether a step of a chain, when it is given some data, adds an amount to a number. -/
structure ChainStep.Adds (c : ChainStep) (amount : Int64) (index : Nat) (data : Flow)
    (value : Int32) : Prop where
  command : c.command = addCommand
  ready : ∃ b, Executor.ready c index data = .ok b ∧ b.get? "value" = some (.integer value) ∧
    b.whole? "amount" = some amount.toInt

/-- Whether a step of a chain, behind another one, adds an amount to the number that it is given. -/
def ChainStep.AddsBehind (c : ChainStep) (amount : Int64) : Prop :=
  ∀ index value, 0 < index → c.Adds amount index (.value (.integer value)) value

namespace ChainStep

variable {b : Binding} {value : Int32} {amount : Int64} {entity? : Option String}

theorem ready_of_pipedBinding {index : Nat} {data : Flow} {b' : Binding}
    (hpiped : Executor.pipedBinding { command := addCommand, entity?, binding := b } index data =
      .ok b') (hvalue : b'.get? "value" = some (.integer value)) :
    Executor.ready { command := addCommand, entity?, binding := b } index data = .ok b' := by
  have hdefault : Executor.requireDefault addCommand.definition b' = .ok () := by
    show (if valueArgument.required && (b'.get? "value").isNone then _ else Except.ok ()) = _
    simp [hvalue]
  have hinput : Executor.requireInput addCommand.definition data = .ok () := rfl
  unfold Executor.ready
  rw [hpiped]
  show (do
    Executor.requireDefault addCommand.definition b'
    Executor.requireInput addCommand.definition data
    pure b') = Except.ok b'
  rw [hdefault, hinput]
  rfl

/-- A step with its own number adds to it at the beginning. -/
theorem adds_first (hvalue : b.get? "value" = some (.integer value))
    (hamount : b.whole? "amount" = some amount.toInt) :
    Adds { command := addCommand, entity?, binding := b } amount 0 .nothing value where
  command := rfl
  ready := ⟨b, ready_of_pipedBinding rfl hvalue, hvalue, hamount⟩

/-- A step without a number adds to the one before it.  That number is piped in as text, and reads
as itself. -/
theorem addsBehind_of_open (hopen : b.isExplicit "value" = false)
    (hamount : b.whole? "amount" = some amount.toInt) :
    AddsBehind { command := addCommand, entity?, binding := b } amount := by
  intro index value hindex
  have hread : Value.coerce? (Value.integer value).render valueArgument.kind
      valueArgument.choices = some (.integer value) :=
    coerce?_valueArgument value
  have hpipe : b.pipe addCommand.definition (.integer value) =
      .ok { b with values := b.values.insert "value" (.integer value) } := by
    have hdefault : addCommand.definition.defaultArgument? = some valueArgument := by decide
    have hopen' : b.isExplicit valueArgument.key = false := hopen
    simp only [Binding.pipe, hdefault, hopen', hread, Bool.false_eq_true, if_false]
    rfl
  have hpiped : Executor.pipedBinding { command := addCommand, entity?, binding := b } index
      (.value (.integer value)) =
        .ok { b with values := b.values.insert "value" (.integer value) } := by
    have hbehind : Chain.isPiped addCommand.definition index = true := by
      simp [Chain.isPiped, hindex, addCommand, Kind.isValue]
    show (if Chain.isPiped addCommand.definition index then
      b.pipe addCommand.definition (.integer value) else .ok b) = _
    rw [if_pos hbehind, hpipe]
  have hvalue : Binding.get? { b with values := b.values.insert "value" (.integer value) } "value" =
      some (.integer value) := by
    simp [Binding.get?]
  refine ⟨rfl, _, ready_of_pipedBinding hpiped hvalue, hvalue, ?_⟩
  simpa [Binding.whole?, Binding.get?, Dict.get?_insert] using hamount

end ChainStep

/-! ## The run -/

/-- What the user is told when a sum is no whole number. -/
def overflowText : String :=
  "The result does not fit in a whole number."

theorem task_addCommand {b : Binding} {value : Int32} {amount : Int64}
    (hvalue : b.get? "value" = some (.integer value))
    (hamount : b.whole? "amount" = some amount.toInt) (context : TaskContext) (data : Flow) :
    addCommand.task context b data =
      match addWithin? value.toInt amount.toInt with
      | some sum => .done { data := .value (.integer sum) }
      | none => .fail (.forUsers overflowText) := by
  have hbound : boundWhole b "value" = .done value.toInt := by
    simp [boundWhole, Binding.whole?, hvalue, Value.asWhole?]
  simp only [addCommand, hbound, hamount, Option.getD_some]
  rfl

namespace Execution

/-- Whether a chain that adds amounts to a number came to the exact sum, and shows it in the place
of the text before it. -/
structure IsSum (e : Execution) (shown : String) (value : Int) (amounts : List Int64) : Prop where
  whole : ∀ k < amounts.length, IsWhole (partialSum value amounts k)
  ending : ∃ sum : Int32, sum.toInt = totalSum value amounts ∧
    e.ending = .completed (.value (.integer sum))
  shown : e.steps.foldl Reply.mergeStep shown = writeInt (totalSum value amounts)
  steps : e.steps.length = amounts.length
  runs : e.runs.length = amounts.length

/-- Whether a chain that adds amounts to a number failed at the first partial sum that is no whole
number, and started no task after that. -/
structure IsOverflow (e : Execution) (value : Int) (amounts : List Int64) (k : Nat) : Prop where
  overflows : OverflowsAt value amounts k
  ending : e.ending = .failed (.task addCommand.name (.forUsers overflowText))
  steps : e.steps.length = k
  runs : e.runs.length = k + 1

variable {e : Execution} {run : TaskRun} {summary : StepSummary} {shown : String} {value : Int}
  {sum : Int32} {amount : Int64} {amounts : List Int64} {k : Nat}

theorem IsSum.after (h : e.IsSum (writeInt sum.toInt) sum.toInt amounts)
    (hsum : sum.toInt = value + amount.toInt)
    (hsummary : Reply.mergeStep shown summary = writeInt sum.toInt) :
    (e.after run summary).IsSum shown value (amount :: amounts) where
  whole k hk := by
    cases k with
    | zero =>
      rw [partialSum_zero, ← hsum]
      exact isWhole_toInt sum
    | succ k =>
      rw [partialSum_succ, ← hsum]
      exact h.whole k (Nat.lt_of_succ_lt_succ hk)
  ending := by
    rw [totalSum_cons, ← hsum]
    exact h.ending
  shown := by
    show e.steps.foldl Reply.mergeStep (Reply.mergeStep shown summary) = _
    rw [hsummary, totalSum_cons, ← hsum]
    exact h.shown
  steps := congrArg (· + 1) h.steps
  runs := congrArg (· + 1) h.runs

theorem IsOverflow.after (h : e.IsOverflow sum.toInt amounts k)
    (hsum : sum.toInt = value + amount.toInt) :
    (e.after run summary).IsOverflow value (amount :: amounts) (k + 1) where
  overflows := by
    have hoverflows := h.overflows
    rw [hsum] at hoverflows
    exact .succ (hsum ▸ isWhole_toInt sum) hoverflows
  ending := h.ending
  steps := congrArg (· + 1) h.steps
  runs := congrArg (· + 1) h.runs

/-- Whether a chain that adds amounts to a number came to the exact sum or to an overflow. -/
def SumsUp (e : Execution) (shown : String) (value : Int) (amounts : List Int64) : Prop :=
  e.IsSum shown value amounts ∨ ∃ k, e.IsOverflow value amounts k

/-- A chain that sums up never gets stuck and returns no files. -/
theorem SumsUp.exists_outcome (h : e.SumsUp shown value amounts) :
    ∃ outcome, e.ending = .ofOutcome outcome ∧ ∀ data, outcome = .ok data → data.handles = [] := by
  rcases h with hsum | ⟨k, hoverflow⟩
  · obtain ⟨sum, -, hending⟩ := hsum.ending
    refine ⟨.ok (.value (.integer sum)), hending, fun data hdata => ?_⟩
    rw [← Except.ok.inj hdata]
    rfl
  · exact ⟨.error _, hoverflow.ending, (nomatch ·, ·)⟩

end Execution

namespace Executor

variable {x : Executor} {c : ChainStep} {amount : Int64} {index : Nat} {data : Flow} {value : Int32}

/-- One step adds up, if what comes behind it sums up whatever whole number it is given. -/
theorem runFrom_adds (hcancel : x.cancelAt? = none) (h : c.Adds amount index data value)
    {rest : List ChainStep} {amounts : List Int64} {scene : Routine.Scene}
    (hlater : ∀ sum : Int32, (x.runFrom (index + 1) (.value (.integer sum)) rest scene).SumsUp
      (writeInt sum.toInt) sum.toInt amounts) (shown : String) :
    (x.runFrom index data (c :: rest) scene).SumsUp shown value.toInt (amount :: amounts) := by
  obtain ⟨command, entity?, binding⟩ := c
  obtain rfl : command = addCommand := h.command
  obtain ⟨b, hready, hvalue, hamount⟩ := h.ready
  have htask := task_addCommand hvalue hamount
  cases hadd : addWithin? value.toInt amount.toInt with
  | some sum =>
    simp only [hadd] at htask
    have hsum := addWithin?_eq_some_iff.1 hadd
    rw [runFrom_of_done (x.not_isCancelled hcancel _) hready (fun context => htask context data)
      rfl]
    rcases hlater sum with hexact | ⟨k, hoverflow⟩
    · exact Or.inl (hexact.after hsum rfl)
    · exact Or.inr ⟨k + 1, hoverflow.after hsum⟩
  | none =>
    simp only [hadd] at htask
    have hnot : ¬IsWhole (value.toInt + amount.toInt) := by
      intro hwhole
      obtain ⟨sum, hsum⟩ := exists_toInt_eq_iff.2 hwhole
      exact absurd (hadd.symm.trans (addWithin?_eq_some_iff.2 hsum)) (by simp)
    have hrun : x.runTask index { command := addCommand, entity?, binding } b data scene =
        (.failed (.forUsers overflowText), scene) := by
      simp only [runTask, htask, Routine.stalling_fail]
      rfl
    rw [runFrom_of_failed (x.not_isCancelled hcancel _) hready hrun]
    exact Or.inr ⟨0, .zero hnot, rfl, rfl, rfl⟩

/-- Behind another step, the steps of a chain sum up from the number that they are given, by
induction on the steps. -/
theorem runFrom_sumsUp (hcancel : x.cancelAt? = none) {chain : List ChainStep}
    {amounts : List Int64} (h : List.Forall₂ ChainStep.AddsBehind chain amounts) {index : Nat}
    (hindex : 0 < index) (value : Int32) (scene : Routine.Scene) :
    (x.runFrom index (.value (.integer value)) chain scene).SumsUp (writeInt value.toInt)
      value.toInt amounts := by
  induction h generalizing index value with
  | nil =>
    have htotal : totalSum value.toInt [] = value.toInt := Int.add_zero _
    exact Or.inl ⟨fun k hk => absurd hk (Nat.not_lt_zero k), ⟨value, htotal.symm, rfl⟩,
      by rw [htotal]; rfl, rfl, rfl⟩
  | @cons c amount chain amounts hadds hrest ih =>
    exact runFrom_adds hcancel (hadds index value hindex)
      (fun sum => ih (Nat.succ_pos index) sum) _

end Executor

/-- Whether a chain adds an amount to a number, and then one amount after the other to the sum. -/
inductive IsSumChain (value : Int32) (first : Int64) (rest : List Int64) : List ChainStep → Prop
  | intro {c : ChainStep} {chain : List ChainStep} (hfirst : c.Adds first 0 .nothing value)
      (hrest : List.Forall₂ ChainStep.AddsBehind chain rest) :
      IsSumChain value first rest (c :: chain)

/-- Behind other steps, the invocations of the content resolve and bind to steps that add. -/
theorem exists_addingChain {r : Resolver}
    (hadd : r.registry.find? addCommand.name = some addCommand) (m : Message)
    (amounts : List Int64) :
    ∃ resolved, r.resolveAll m (amounts.map (Invocation.adding none)) = .ok resolved ∧
      ∀ index, 0 < index → ∃ chain, ResolvedStep.bindFrom index resolved = .ok chain ∧
        List.Forall₂ ChainStep.AddsBehind chain amounts := by
  induction amounts generalizing r with
  | nil => exact ⟨[], rfl, fun index _ => ⟨[], rfl, .nil⟩⟩
  | cons amount amounts ih =>
    obtain ⟨resolved, hresolved, hbind⟩ := ih (r := r.later) hadd
    have hresolve := Resolver.resolve_of_registered (r := r) (m := m)
      (i := .adding none amount) rfl hadd rfl 0
    refine ⟨_, Resolver.resolveAll_cons hresolve hresolved, fun index hindex => ?_⟩
    obtain ⟨chain, hchain, hadds⟩ := hbind (index + 1) (Nat.succ_pos index)
    have hpiped : Chain.isPiped addCommand.definition index = true := by
      simp [Chain.isPiped, hindex, addCommand, Kind.isValue]
    obtain ⟨b, hb, -, hopen, hamount⟩ := Binding.exists_adding none amount
      (Chain.isPiped addCommand.definition index) fun _ => hpiped
    exact ⟨_, ResolvedStep.bindFrom_cons (ResolvedStep.bind_of_ofInvocation hb) hchain,
      .cons (ChainStep.addsBehind_of_open hopen hamount) hadds⟩

/-- The invocations of the content resolve and bind to the chain. -/
theorem exists_sumChain {r : Resolver} (hadd : r.registry.find? addCommand.name = some addCommand)
    (m : Message) (value : Int32) (first : Int64) (rest : List Int64) :
    ∃ resolved chain,
      r.resolveAll m (.adding value first :: rest.map (Invocation.adding none)) = .ok resolved ∧
        ResolvedStep.bindAll resolved = .ok chain ∧ IsSumChain value first rest chain := by
  obtain ⟨resolved, hresolved, hbind⟩ := exists_addingChain (r := r.later) hadd m rest
  obtain ⟨chain, hchain, hadds⟩ := hbind 1 Nat.one_pos
  obtain ⟨b, hb, hvalue, -, hamount⟩ := Binding.exists_adding (some value) first
    (Chain.isPiped addCommand.definition 0) (by simp)
  have hresolve := Resolver.resolve_of_registered (r := r) (m := m)
    (i := .adding value first) rfl hadd rfl 0
  exact ⟨_, _, Resolver.resolveAll_cons hresolve hresolved,
    ResolvedStep.bindFrom_cons (n := 0) (ResolvedStep.bind_of_ofInvocation hb) hchain,
    .intro (ChainStep.adds_first hvalue hamount) hadds⟩

namespace IsSumChain

variable {x : Executor} {value : Int32} {first : Int64} {rest : List Int64}
  {chain : List ChainStep}

theorem length_eq (h : IsSumChain value first rest chain) : chain.length = rest.length + 1 := by
  obtain ⟨hfirst, hrest⟩ := h
  exact congrArg (· + 1) hrest.length_eq

theorem definition_eq (h : IsSumChain value first rest chain) :
    ∀ c ∈ chain, c.definition = addCommand.definition := by
  obtain ⟨hfirst, hrest⟩ := h
  refine List.forall_mem_cons.2 ⟨congrArg Command.definition hfirst.command, fun c hc => ?_⟩
  obtain ⟨amount, -, hadds⟩ := exists_of_forall₂ hrest.flip c hc
  exact congrArg Command.definition (hadds 1 0 Nat.one_pos).command

theorem startsWithAttachments_eq (h : IsSumChain value first rest chain) (m : Message) :
    Bot.startsWithAttachments chain m = false := by
  have hdefinition := h.definition_eq
  obtain ⟨hfirst, hrest⟩ := h
  simp [Bot.startsWithAttachments, hdefinition _ List.mem_cons_self, addCommand]

theorem deferReply (h : IsSumChain value first rest chain) :
    (chain.any fun step => step.definition.deferReply) = false := by
  rw [List.any_eq_false]
  intro c hc
  rw [h.definition_eq c hc]
  decide

/-- A chain that is not too long passes the check. -/
theorem check_eq_ok (h : IsSumChain value first rest chain)
    (hlimit : rest.length + 1 ≤ x.chainLimit) : x.check chain none = .ok () := by
  have hsame : chain.map ChainStep.definition =
      List.replicate chain.length addCommand.definition :=
    List.map_eq_replicate_iff.2 h.definition_eq
  have hcheck : Chain.check (chain.map ChainStep.definition) none x.chainLimit = .ok () := by
    refine Chain.check_eq_ok_iff.2 ⟨?_, fun d hd hrequires => ?_, ?_⟩
    · rw [List.length_map, h.length_eq]
      exact hlimit
    · rw [hsame] at hd
      obtain rfl := List.eq_of_mem_replicate (List.mem_of_mem_head? hd)
      exact absurd hrequires (by decide)
    · rw [hsame]
      exact List.isChain_replicate_of_rel _ rfl
  simp [Executor.check, hcheck]

/-- A chain that passes the check sums up. -/
theorem execute_sumsUp (h : IsSumChain value first rest chain) (hcancel : x.cancelAt? = none)
    (hcheck : x.check chain none = .ok ()) (scene : Routine.Scene) :
    (x.execute chain .nothing scene).SumsUp "" value.toInt (first :: rest) := by
  rw [Executor.execute_of_check hcheck]
  obtain ⟨hfirst, hrest⟩ := h
  exact Executor.runFrom_adds hcancel hfirst
    (fun sum => Executor.runFrom_sumsUp hcancel hrest Nat.one_pos sum scene) ""

end IsSumChain

/-! ## The whole -/

/-- The text of a whole number has at most eleven characters. -/
theorem length_writeInt_le {i : Int} (h : IsWhole i) : (writeInt i).length ≤ 11 := by
  obtain ⟨hlow, hhigh⟩ := h
  have hten : ∀ n ≤ 2 ^ 31, (digits n).length ≤ 10 := fun n hn =>
    Nat.le_trans (length_digits_mono hn) (by decide +kernel)
  rw [writeInt, String.length_ofList]
  cases i with
  | ofNat n => exact Nat.le_succ_of_le (hten n (Int.ofNat_le.1 (Int.le_of_lt hhigh)))
  | negSucc n => exact Nat.succ_le_succ (hten (n + 1) (by omega))

theorem shown_writeInt (i : Int) : Reply.shown (writeInt i) = writeInt i := by
  have hblank := Invocation.isBlankText_eq_false (writeInt_ne_empty i) (isPlain_writeInt {} i)
  simp [Reply.shown, hblank]

variable {σ : Type}

/-- Whether the one reply and the report show the sum that all the steps came to. -/
structure ShowsSum (sum : Int) (steps : Nat) (r : Report) (events : List Event) : Prop where
  state : r.state = .completed
  reply : ∃ p, payloadsOf events = [p] ∧ p.content = writeInt sum
  stepsRun : r.stepsRun = steps
  runs : (runsOf events).length = steps

/-- Whether the one reply and the report tell the user about an overflow in the step at position
`k`, behind which no task was started. -/
structure ReportsOverflow (k : Nat) (r : Report) (events : List Event) : Prop where
  state : r.state = .failed
  failure : r.failure? = some { reasonCode := "task_failed", message := overflowText }
  reply : ∃ p, payloadsOf events = [p] ∧ p.content = overflowText
  stepsRun : r.stepsRun = k
  runs : (runsOf events).length = k + 1

namespace Bot

variable {b : Bot σ} {others : List Command} {chainId : String} {m : Message} {w : World σ}
  {value : Int32} {first : Int64} {rest : List Int64}

/-- Preparing the chain of the message comes to a chain that adds. -/
theorem exists_prepared_sum (hserves : b.Serves others chainId m w)
    (hargument : isBlank b.grammar.argumentMark = false)
    (hdistinct : b.grammar.commandMark ≠ b.grammar.argumentMark)
    (hlimit : rest.length + 1 ≤ b.chainLimit)
    (hcontent : m.content = sumText b.grammar value first rest) (r : Report) :
    Invocation.parse b.grammar m.content ≠ [] ∧
      ∃ r₀ chain, Prepared b m (Invocation.parse b.grammar m.content) r r₀ (.ok chain) ∧
        IsSumChain value first rest chain ∧ (b.executor m).check chain none = .ok () := by
  have hfound : b.registry.find? addCommand.name = some addCommand :=
    Registry.find?_of_ofList hserves.registry _ (by simp [Builtin.commands, scheduledCommands])
  obtain ⟨resolved, chain, hresolve, hbind, hchain⟩ :=
    exists_sumChain (r := b.resolver) hfound m value first rest
  have hcheck : (b.executor m).check chain none = .ok () := hchain.check_eq_ok hlimit
  rw [hcontent, Invocation.parse_sumText hserves.mark hargument hdistinct]
  refine ⟨by simp, _, chain, .ready hresolve hbind ?_, hchain, hcheck⟩
  simpa [seedKind?, hchain.startsWithAttachments_eq m] using hcheck

/-- A message that adds up amounts is answered with what its chain sums up to. -/
theorem exists_handle_sum (hserves : b.Serves others chainId m w)
    (hargument : isBlank b.grammar.argumentMark = false)
    (hdistinct : b.grammar.commandMark ≠ b.grammar.argumentMark)
    (hlimit : rest.length + 1 ≤ b.chainLimit) (htext : 11 ≤ b.platform.limits.maxText)
    (hcontent : m.content = sumText b.grammar value first rest) :
    ∃ r w' new, b.handle chainId m w = some (r, w') ∧ w'.events = w.events ++ new ∧
      (((∀ k < rest.length + 1, IsWhole (partialSum value.toInt (first :: rest) k)) ∧
          ShowsSum (totalSum value.toInt (first :: rest)) (rest.length + 1) r new) ∨
        ∃ k, OverflowsAt value.toInt (first :: rest) k ∧ ReportsOverflow k r new) := by
  obtain ⟨hsome, r₀, chain, hprepared, hchain, hcheck⟩ :=
    exists_prepared_sum hserves hargument hdistinct hlimit hcontent (b.firstReport m)
  obtain ⟨store, hstore⟩ := hserves.store
  obtain ⟨w₁, hopen⟩ := exists_openStore hserves.platform hstore
  obtain ⟨e, outcome, r, w', new, ⟨hsums, houtcome, -⟩, hhandle, hevents, hruns, -, -, -,
      htells⟩ :=
    exists_handle_of_execute hserves.platform hserves.admitted hsome hprepared hopen
      hchain.deferReply (hchain.startsWithAttachments_eq m)
      (P := fun e outcome => e.SumsUp "" value.toInt (first :: rest) ∧
        e.ending = .ofOutcome outcome ∧ ∀ data, outcome = .ok data → data.handles = [])
      (fun _ data h => h.2.2 data rfl) fun clock => by
      have hsums := hchain.execute_sumsUp hserves.uncancelled hcheck { w₁.scene store with clock }
      obtain ⟨outcome, houtcome, hnone⟩ := hsums.exists_outcome
      exact ⟨_, outcome, ⟨hsums, houtcome, hnone⟩, houtcome, rfl⟩
  refine ⟨r, w', new, hhandle, hevents, ?_⟩
  rcases hsums with hsum | ⟨k, hoverflow⟩
  · obtain ⟨sum, htotal, hending⟩ := hsum.ending
    have hresult := htells.shown _ (ChainEnding.ofOutcome_injective (houtcome.symm.trans hending))
    rw [show Reply.merge e.steps = _ from hsum.shown] at hresult
    have hshort : (writeInt (totalSum value.toInt (first :: rest))).length ≤ 11 :=
      length_writeInt_le (htotal ▸ isWhole_toInt sum)
    obtain ⟨hstate, p, hpayload, hshown⟩ := hresult.shown (Nat.le_trans hshort htext)
    refine Or.inl ⟨hsum.whole, hstate, ⟨p, hpayload, hshown.trans (shown_writeInt _)⟩,
      htells.stepsRun.trans hsum.steps, ?_⟩
    rw [hruns]
    exact hsum.runs
  · obtain ⟨hstate, hfailure, hpayload⟩ := htells.failed _
      (ChainEnding.ofOutcome_injective (houtcome.symm.trans hoverflow.ending))
    refine Or.inr ⟨k, hoverflow.overflows, hstate, hfailure, ⟨_, hpayload, rfl⟩,
      htells.stepsRun.trans hoverflow.steps, ?_⟩
    rw [hruns]
    exact hoverflow.runs

end Bot

/-- Chained addition is exact or reported, never wrapped.  Whatever whole number and whatever long
amounts are written, as long as the chain is not too long and the platform takes eleven characters,
the message is answered with the exact sum when every partial sum is a whole number.  Otherwise the
first one that is not fails the chain with a text for the user, and no later step is run. -/
theorem sums_are_exact_or_reported {b : Bot σ} {others : List Command} {chainId : String}
    {m : Message} {w : World σ} {value : Int32} {first : Int64} {rest : List Int64}
    (hserves : b.Serves others chainId m w) (hargument : isBlank b.grammar.argumentMark = false)
    (hdistinct : b.grammar.commandMark ≠ b.grammar.argumentMark)
    (hlimit : rest.length + 1 ≤ b.chainLimit) (htext : 11 ≤ b.platform.limits.maxText)
    (hcontent : m.content = sumText b.grammar value first rest) :
    ∃ r w' new, b.handle chainId m w = some (r, w') ∧ w'.events = w.events ++ new ∧
      ((∀ k < rest.length + 1, IsWhole (partialSum value.toInt (first :: rest) k)) →
        ShowsSum (totalSum value.toInt (first :: rest)) (rest.length + 1) r new) ∧
      ∀ k, OverflowsAt value.toInt (first :: rest) k → ReportsOverflow k r new := by
  obtain ⟨r, w', new, hhandle, hevents, ⟨hwhole, hshows⟩ | ⟨k, hoverflows, hreports⟩⟩ :=
    Bot.exists_handle_sum hserves hargument hdistinct hlimit htext hcontent
  · exact ⟨r, w', new, hhandle, hevents, fun _ => hshows,
      fun k hk => absurd (hwhole k hk.lt_length) hk.here⟩
  · refine ⟨r, w', new, hhandle, hevents, fun hwhole => ?_, fun j hj => ?_⟩
    · exact absurd (hwhole k hoverflows.lt_length) hoverflows.here
    · rwa [hj.unique hoverflows]

namespace Brimming

open Console

/-- Adds to the greatest whole number. -/
def message (amounts : String) : Message :=
  plainMessage ("%add 2147483647 -amount " ++ amounts)

/-- One step below the limit leaves room for one more, not for two. -/
theorem sums_beside_the_limit :
    (∃ r w' p, plainBot.handle "1" (message "-1 %add -amount 1") { desk := {} } = some (r, w') ∧
      r.state = .completed ∧ payloadsOf w'.events = [p] ∧ p.content = "2147483647") ∧
    ∃ r w' p, plainBot.handle "1" (message "-1 %add -amount 2 %add -amount -2") { desk := {} } =
        some (r, w') ∧
      r.state = .failed ∧ r.stepsRun = 1 ∧ payloadsOf w'.events = [p] ∧
      p.content = overflowText := by
  have hserves (amounts : String) : plainBot.Serves [] "1" (message amounts) { desk := {} } :=
    { mark := by decide
      registry := registry_plainBot
      platform := Console.works {} none
      store := ⟨_, rfl⟩
      admitted := rfl
      uncancelled := rfl }
  constructor
  · have hcontent : (message "-1 %add -amount 1").content =
        sumText plainBot.grammar 2147483647 (-1) [1] := by decide +kernel
    obtain ⟨r, w', new, hhandle, hevents, hexact, -⟩ :=
      sums_are_exact_or_reported (hserves _) (by decide) (by decide) (by decide) (by decide)
        hcontent
    obtain rfl : w'.events = new := hevents
    obtain ⟨hstate, ⟨p, hpayload, hshown⟩, -, -⟩ := hexact (by decide)
    exact ⟨r, w', p, hhandle, hstate, hpayload, hshown.trans (by decide +kernel)⟩
  · have hcontent : (message "-1 %add -amount 2 %add -amount -2").content =
        sumText plainBot.grammar 2147483647 (-1) [2, -2] := by decide +kernel
    obtain ⟨r, w', new, hhandle, hevents, -, hoverflow⟩ :=
      sums_are_exact_or_reported (hserves _) (by decide) (by decide) (by decide) (by decide)
        hcontent
    obtain rfl : w'.events = new := hevents
    obtain ⟨hstate, -, ⟨p, hpayload, hshown⟩, hsteps, -⟩ :=
      hoverflow 1 ⟨by decide, by decide, by decide⟩
    exact ⟨r, w', p, hhandle, hstate, hsteps, hpayload, hshown⟩

end Brimming

end ChatChain
