import ChatChain.Proofs.Binding
import Mathlib.Data.List.Perm.Basic

/-!
# The order in which arguments are declared

Binding goes through the arguments in the order of their declaration, keeps in mind what it has
bound so far, and stops at the first error.  This module proves that the order decides nothing but
which error is the first, and that named arguments which are not declared decide nothing at all.

There are four groups.

* What is wrong with an argument.  `ArgumentFault` lists what can be, without regard to any other
  argument, and `ofInvocation_eq_error_iff` says that binding fails with the first fault.
* Undeclared keys.  `ofInvocation_named_congr` says that only named arguments with declared keys
  count.
* The order.  `binds_iff_of_perm` says that a binding holds the same whatever the order is.
* The result.  `declaration_order_decides_the_error_only` puts the three together.
-/

namespace ChatChain.Binding

open Fallible

variable {i : Invocation} {d : Definition} {piped : Bool}

/-! ## What is wrong with an argument -/

/-- What can be wrong with a required argument: the text for it is no value of its kind, or there
is neither a text nor a default for it, and it is not the default key of a piped step. -/
inductive ArgumentFault (i : Invocation) (d : Definition) (piped : Bool) (a : Argument) :
    CommandError → Prop
  | unreadable {text : String} (hrequired : a.required = true)
      (htext : suppliedText? i d a = some text)
      (hread : Value.coerce? text a.kind a.choices = none) :
      ArgumentFault i d piped a (.invalidArgument d.name a.key text a.kind)
  | missing (hrequired : a.required = true) (htext : suppliedText? i d a = none)
      (hdefault : a.default? = none) (hclosed : ¬(d.isDefaultKey a.key = true ∧ piped = true)) :
      ArgumentFault i d piped a (.missingArgument d.name a.key)

namespace ArgumentFault

variable {a : Argument} {e : CommandError}

theorem iff_of_text {text : String} (htext : suppliedText? i d a = some text) :
    ArgumentFault i d piped a e ↔
      a.required = true ∧ Value.coerce? text a.kind a.choices = none ∧
        e = .invalidArgument d.name a.key text a.kind := by
  constructor
  · intro h
    cases h with
    | unreadable hrequired hother hread =>
      obtain rfl := Option.some.inj (htext.symm.trans hother)
      exact ⟨hrequired, hread, rfl⟩
    | missing _ hnone => exact absurd (htext.symm.trans hnone) (by simp)
  · rintro ⟨hrequired, hread, rfl⟩
    exact .unreadable hrequired htext hread

theorem iff_of_no_text (htext : suppliedText? i d a = none) :
    ArgumentFault i d piped a e ↔
      a.required = true ∧ a.default? = none ∧ ¬(d.isDefaultKey a.key = true ∧ piped = true) ∧
        e = .missingArgument d.name a.key := by
  constructor
  · intro h
    cases h with
    | unreadable _ hsome => exact absurd (htext.symm.trans hsome) (by simp)
    | missing hrequired _ hdefault hclosed => exact ⟨hrequired, hdefault, hclosed, rfl⟩
  · rintro ⟨hrequired, hdefault, hclosed, rfl⟩
    exact .missing hrequired htext hdefault hclosed

/-- What is wrong with an argument does not change as long as the text for it does not. -/
theorem congr {i' : Invocation} {d' : Definition}
    (htext : suppliedText? i' d' a = suppliedText? i d a) (hname : d'.name = d.name)
    (hkey : d'.isDefaultKey a.key = d.isDefaultKey a.key) :
    ArgumentFault i' d' piped a e ↔ ArgumentFault i d piped a e := by
  cases hsupplied : suppliedText? i d a with
  | some text => rw [iff_of_text hsupplied, iff_of_text (htext.trans hsupplied), hname]
  | none => rw [iff_of_no_text hsupplied, iff_of_no_text (htext.trans hsupplied), hname, hkey]

end ArgumentFault

/-- One round of binding fails for what is wrong with its argument, whatever has been bound. -/
theorem bindArgument_eq_error_iff {b : Binding} {a : Argument} {e : CommandError} :
    bindArgument i d piped b a = .error e ↔ ArgumentFault i d piped a e := by
  unfold bindArgument suppliedValue?
  cases htext : suppliedText? i d a with
  | none =>
    rw [ArgumentFault.iff_of_no_text htext]
    cases a.default? <;> cases a.required <;> cases d.isDefaultKey a.key <;> cases piped <;>
      simp [throw, throwThe, MonadExceptOf.throw, pure, Except.pure, @eq_comm _ e]
  | some text =>
    rw [ArgumentFault.iff_of_text htext]
    cases hread : Value.coerce? text a.kind a.choices with
    | some v => simp [hread, pure, Except.pure]
    | none =>
      cases a.default? <;> cases a.required <;> simp [hread, pure, Except.pure, @eq_comm _ e]

/-- Binding fails with the first argument that something is wrong with. -/
theorem ofInvocation_eq_error_iff {e : CommandError} :
    ofInvocation i d piped = .error e ↔ FirstFault (ArgumentFault i d piped) d.arguments e := by
  unfold ofInvocation
  simp only [bind_eq_error_iff, pure_ne_error, and_false, exists_false, or_false]
  exact foldlM_eq_error_iff fun b a e => @bindArgument_eq_error_iff i d piped b a e

/-! ## Undeclared keys -/

variable {named : Dict String}

/-- The text for an argument is the same in two invocations that differ in other named arguments
only. -/
theorem suppliedText?_named_congr {a : Argument} (h : named.get? a.key = i.named.get? a.key) :
    suppliedText? { i with named } d a = suppliedText? i d a := by
  unfold suppliedText?
  rw [h]

/-- Named arguments that are not declared make no difference. -/
theorem ofInvocation_named_congr
    (hnamed : ∀ a ∈ d.arguments, named.get? a.key = i.named.get? a.key) :
    ofInvocation { i with named } d piped = ofInvocation i d piped := by
  have hbound : d.arguments.foldlM (bindArgument { i with named } d piped) {} =
      d.arguments.foldlM (bindArgument i d piped) {} :=
    foldlM_congr_of_mem
      (fun a ha b => bindArgument_congr (suppliedText?_named_congr (hnamed a ha)) rfl rfl b) {}
  have htakes : takesPositional { i with named } d = takesPositional i d := by
    unfold takesPositional
    rw [Bool.eq_iff_iff, List.any_eq_true, List.any_eq_true]
    exact exists_congr fun a => and_congr_right fun ha => by simp only [hnamed a ha]
  unfold ofInvocation
  rw [hbound, htakes]

/-! ## The order -/

variable {arguments : List Argument}

theorem takesPositional_of_perm (hperm : arguments.Perm d.arguments) :
    takesPositional i { d with arguments } = takesPositional i d := by
  unfold takesPositional
  rw [Bool.eq_iff_iff, List.any_eq_true, List.any_eq_true]
  exact exists_congr fun a => and_congr_left fun _ => hperm.mem_iff

/-- What holds of a binding does not depend on the order in which the arguments are declared. -/
theorem binds_iff_of_perm (hperm : arguments.Perm d.arguments) {b : Binding} :
    Binds i { d with arguments } piped b ↔ Binds i d piped b := by
  have hkeys : ∀ k, k ∈ argumentKeys arguments ↔ k ∈ argumentKeys d.arguments := fun k =>
    (hperm.map Argument.key).mem_iff
  constructor
  · intro h
    refine ⟨fun a ha => ?_, fun k hk => h.undeclared k (mt (hkeys k).1 hk), ?_⟩
    · obtain ⟨haccepts, hvalue, hexplicit, hunbound⟩ := h.settled a (hperm.mem_iff.2 ha)
      exact ⟨haccepts, hvalue, hexplicit, hunbound⟩
    · rw [h.positional, takesPositional_of_perm hperm]
  · intro h
    refine ⟨fun a ha => ?_, fun k hk => h.undeclared k (mt (hkeys k).2 hk), ?_⟩
    · obtain ⟨haccepts, hvalue, hexplicit, hunbound⟩ := h.settled a (hperm.mem_iff.1 ha)
      exact ⟨haccepts, hvalue, hexplicit, hunbound⟩
    · rw [h.positional, takesPositional_of_perm hperm]

/-- Binding succeeds with a binding in every order or in none. -/
theorem ofInvocation_eq_ok_iff_of_perm (hkeys : (argumentKeys d.arguments).Nodup)
    (hperm : arguments.Perm d.arguments) {b : Binding} :
    ofInvocation i { d with arguments } piped = .ok b ↔ ofInvocation i d piped = .ok b := by
  have hkeys' : (argumentKeys arguments).Nodup := (hperm.map Argument.key).nodup_iff.2 hkeys
  rw [ofInvocation_eq_ok_iff hkeys, ofInvocation_eq_ok_iff (d := { d with arguments }) hkeys',
    binds_iff_of_perm hperm]

/-- In another order binding fails with the fault that comes first there. -/
theorem ofInvocation_eq_error_iff_of_order {e : CommandError} :
    ofInvocation i { d with arguments } piped = .error e ↔
      FirstFault (ArgumentFault i d piped) arguments e := by
  rw [ofInvocation_eq_error_iff]
  exact firstFault_congr fun a e => ArgumentFault.congr rfl rfl rfl

/-! ## The result -/

/-- Neither the order in which the arguments of an accepted definition are declared nor the named
arguments that it does not declare decide whether binding succeeds or what it yields.  It fails
exactly when something is wrong with an argument, and the order decides which of the faulty
arguments the error names: the first. -/
theorem declaration_order_decides_the_error_only (hcheck : d.check = .ok ())
    (hperm : arguments.Perm d.arguments)
    (hnamed : ∀ a ∈ d.arguments, named.get? a.key = i.named.get? a.key) :
    Agree (fun _ _ => True) Eq (ofInvocation i d piped)
        (ofInvocation { i with named } { d with arguments } piped) ∧
      ((∃ e, ofInvocation i d piped = .error e) ↔
        ∃ a ∈ d.arguments, ∃ e, ArgumentFault i d piped a e) ∧
      (∀ e, ofInvocation i d piped = .error e ↔
        FirstFault (ArgumentFault i d piped) d.arguments e) ∧
      ∀ e, ofInvocation { i with named } { d with arguments } piped = .error e ↔
        FirstFault (ArgumentFault i d piped) arguments e := by
  have hkeys := (Definition.check_eq_ok_iff.1 hcheck).keys
  have hsame : ofInvocation { i with named } { d with arguments } piped =
      ofInvocation i { d with arguments } piped :=
    ofInvocation_named_congr fun a ha => hnamed a (hperm.mem_iff.1 ha)
  rw [hsame]
  refine ⟨?_, ?_, fun e => ofInvocation_eq_error_iff, fun e => ofInvocation_eq_error_iff_of_order⟩
  · cases hbind : ofInvocation i d piped with
    | ok b =>
      rw [(ofInvocation_eq_ok_iff_of_perm hkeys hperm).2 hbind]
      exact .ok rfl
    | error e =>
      cases hother : ofInvocation i { d with arguments } piped with
      | ok b =>
        have hok := (ofInvocation_eq_ok_iff_of_perm hkeys hperm).1 hother
        exact absurd (hbind.symm.trans hok) (by simp)
      | error e' => exact .error trivial
  · simp only [ofInvocation_eq_error_iff, exists_firstFault_iff]

/-- The number in `spin 9 times`. -/
def turns : Argument :=
  { key := "turns", kind := .integer, required := true }

/-- The way round in `spin 9 times`. -/
def way : Argument :=
  { key := "way", kind := .choice, required := true, choices := ["left", "right"] }

/-- A command with two arguments that are required. -/
def spin : Definition :=
  { name := "spin", arguments := [turns, way], defaultKey? := some "turns", input := .nothing
    output := .text }

/-- Both texts of `%spin 9 times -way up` are wrong.  Which one the error names depends on the order
in which the arguments are declared, and not on the key that nobody declared. -/
theorem spin_fails_in_any_order :
    let typed : Invocation :=
      { name := "spin", positional := "9 times", named := Dict.ofList [("way", "up")] }
    let named := Dict.ofList [("way", "up"), ("speed", "9")]
    spin.check = .ok () ∧ [way, turns].Perm spin.arguments ∧
      (∀ a ∈ spin.arguments, named.get? a.key = typed.named.get? a.key) ∧
      ofInvocation typed spin true = .error (.invalidArgument "spin" "turns" "9 times" .integer) ∧
      ofInvocation { typed with named } { spin with arguments := [way, turns] } true =
        .error (.invalidArgument "spin" "way" "up" .choice) := by
  intro typed named
  have hcheck : spin.check = .ok () := by decide
  have hperm : [way, turns].Perm spin.arguments := .swap turns way []
  have hnamed : ∀ a ∈ spin.arguments, named.get? a.key = typed.named.get? a.key := by decide
  obtain ⟨-, -, hfirst, hother⟩ :=
    @declaration_order_decides_the_error_only typed spin true named _ hcheck hperm hnamed
  refine ⟨hcheck, hperm, hnamed, (hfirst _).2 ?_, (hother _).2 ?_⟩
  · exact firstFault_cons.2 (Or.inl (.unreadable rfl rfl (by decide)))
  · exact firstFault_cons.2 (Or.inl (.unreadable rfl rfl (by decide)))

end ChatChain.Binding
