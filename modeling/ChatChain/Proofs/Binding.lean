import ChatChain.Binding
import ChatChain.Proofs.Definition
import ChatChain.Proofs.Fallible

/-!
# What binding yields

`Binding.ofInvocation` goes through the arguments of a definition in order and stops at the first
error.  This module says the same without an order: what becomes of each argument on its own.

There are three groups.

* One argument.  `suppliedValue?_eq_ok_iff` says when the text for an argument is accepted, and
  `bindArgument_eq_ok_iff` what one round of the loop does.
* All arguments.  `Settled` is what binding leaves of one argument, `bindAll_settled` is the run of
  the loop, and `exists_bindAll` says that nothing else can stop it.
* The result.  `Binds` collects what holds of a binding, and `ofInvocation_eq_ok_iff` says that
  it determines the binding.
-/

namespace ChatChain.Binding

variable {i : Invocation} {d : Definition} {piped : Bool}

/-- Two bindings are equal when they have the same values, typed keys and positional text. -/
theorem ext_of_lookups {b c : Binding} (hvalues : ∀ k, b.get? k = c.get? k)
    (hexplicit : ∀ k, b.isExplicit k = c.isExplicit k) (hpositional : b.positional = c.positional) :
    b = c := by
  have hkeys : b.explicit = c.explicit := by
    refine Dict.ext_get? fun k => ?_
    have hk := hexplicit k
    unfold isExplicit Dict.contains at hk
    cases hb : b.explicit.get? k <;> cases hc : c.explicit.get? k <;> simp_all
  have hdict : b.values = c.values := Dict.ext_get? hvalues
  cases b
  cases c
  simp_all

/-! ## One argument -/

/-- The value that the text for an argument reads as. -/
def readValue? (i : Invocation) (d : Definition) (a : Argument) : Option Value :=
  (suppliedText? i d a).bind fun text => Value.coerce? text a.kind a.choices

/-- Whether the text for an argument is accepted: it is a value, or it may be dropped. -/
def Accepts (i : Invocation) (d : Definition) (a : Argument) : Prop :=
  ∀ text, suppliedText? i d a = some text → Value.coerce? text a.kind a.choices = none →
    a.required = false

theorem suppliedValue?_eq_ok_iff {a : Argument} {s : Option Value} :
    suppliedValue? i d a = .ok s ↔ s = readValue? i d a ∧ Accepts i d a := by
  unfold suppliedValue? readValue? Accepts
  cases htext : suppliedText? i d a with
  | none => simp [@eq_comm _ s]
  | some text =>
    cases hvalue : Value.coerce? text a.kind a.choices with
    | some v => simp [hvalue, @eq_comm _ s]
    | none => cases a.required <;> simp [hvalue, @eq_comm _ s]

/-- Whether an argument without a value may stay open. -/
def MayStayOpen (d : Definition) (piped : Bool) (a : Argument) : Prop :=
  a.required = true → d.isDefaultKey a.key = true ∧ piped = true

/-- A binding with one more argument, given the value that the user typed for it. -/
def settle (b : Binding) (a : Argument) (s : Option Value) : Binding :=
  { b with
    values := (s.or a.default?).elim b.values (b.values.insert a.key)
    explicit := if s.isSome then b.explicit.insert a.key () else b.explicit }

@[simp] theorem settle_positional (b : Binding) (a : Argument) (s : Option Value) :
    (b.settle a s).positional = b.positional := rfl

theorem get?_settle (b : Binding) (a : Argument) (s : Option Value) (k : String) :
    (b.settle a s).get? k = if k = a.key then (s.or a.default?).or (b.get? k) else b.get? k := by
  unfold settle get?
  cases s.or a.default? with
  | none => simp
  | some v => simp [Dict.get?_insert]

theorem isExplicit_settle (b : Binding) (a : Argument) (s : Option Value) (k : String) :
    (b.settle a s).isExplicit k = (decide (k = a.key) && s.isSome || b.isExplicit k) := by
  unfold settle isExplicit Dict.contains
  cases s with
  | none => simp
  | some v => by_cases hk : k = a.key <;> simp [Dict.get?_insert, hk]

/-- What one round of binding does. -/
theorem bindArgument_eq_ok_iff {b c : Binding} {a : Argument} :
    bindArgument i d piped b a = .ok c ↔
      Accepts i d a ∧ ((readValue? i d a).or a.default? = none → MayStayOpen d piped a) ∧
        c = b.settle a (readValue? i d a) := by
  unfold bindArgument
  simp only [Fallible.bind_eq_ok_iff, suppliedValue?_eq_ok_iff, and_assoc, exists_eq_left]
  refine and_congr_right fun _ => ?_
  cases hvalue : (readValue? i d a).or a.default? with
  | some v => simp [settle, hvalue, Fallible.pure_eq_ok_iff, @eq_comm _ c]
  | none =>
    obtain ⟨hread, -⟩ := Option.or_eq_none_iff.1 hvalue
    have hsettle : b.settle a none = b := by
      rw [hread, Option.none_or] at hvalue
      simp [settle, hvalue]
    simp only [hread, hsettle, forall_const, MayStayOpen]
    cases a.required <;> cases d.isDefaultKey a.key <;> cases piped <;>
      simp [-bind_pure_comp, Fallible.bind_eq_ok_iff, Fallible.pure_eq_ok_iff,
        Fallible.throw_ne_ok, @eq_comm _ c]

/-- What one round does depends on the text for the argument, on the name of the command, and on
whether the argument is the default key. -/
theorem bindArgument_congr {i' : Invocation} {d' : Definition} {a : Argument}
    (htext : suppliedText? i' d' a = suppliedText? i d a) (hname : d'.name = d.name)
    (hkey : d'.isDefaultKey a.key = d.isDefaultKey a.key) (b : Binding) :
    bindArgument i' d' piped b a = bindArgument i d piped b a := by
  unfold bindArgument suppliedValue?
  rw [htext, hname, hkey]

/-! ## All arguments -/

/-- What binding leaves of one argument. -/
structure Settled (i : Invocation) (d : Definition) (piped : Bool) (b : Binding) (a : Argument) :
    Prop where
  accepts : Accepts i d a
  value : b.get? a.key = (readValue? i d a).or a.default?
  explicit : b.isExplicit a.key = (readValue? i d a).isSome
  unbound : b.get? a.key = none → MayStayOpen d piped a

/-- Binding the arguments of a list one after the other leaves every key outside of the list alone
and settles every argument in it. -/
theorem bindAll_settled {arguments : List Argument} (hkeys : (argumentKeys arguments).Nodup)
    {b c : Binding} (h : arguments.foldlM (bindArgument i d piped) b = .ok c) :
    c.positional = b.positional ∧
      (∀ k, k ∉ argumentKeys arguments →
        c.get? k = b.get? k ∧ c.isExplicit k = b.isExplicit k) ∧
      ∀ a ∈ arguments, b.get? a.key = none → b.isExplicit a.key = false →
        Settled i d piped c a := by
  induction arguments generalizing b with
  | nil =>
    obtain rfl : b = c := Fallible.pure_eq_ok_iff.1 h
    simp
  | cons a rest ih =>
    rw [List.foldlM_cons, Fallible.bind_eq_ok_iff] at h
    obtain ⟨b', hfirst, h⟩ := h
    obtain ⟨haccepts, hopen, rfl⟩ := bindArgument_eq_ok_iff.1 hfirst
    obtain ⟨hnew, hrest⟩ := List.nodup_cons.1 hkeys
    obtain ⟨hpositional, hother, hsettled⟩ := ih hrest h
    refine ⟨hpositional, fun k hk => ?_, ?_⟩
    · obtain ⟨hka, hkrest⟩ : k ≠ a.key ∧ k ∉ argumentKeys rest := by simpa using hk
      obtain ⟨hget, hexplicit⟩ := hother k hkrest
      rw [hget, hexplicit, get?_settle, if_neg hka, isExplicit_settle]
      simp [hka]
    · intro x hx hbound hexplicit
      rcases List.mem_cons.1 hx with rfl | hx
      · obtain ⟨hget, hexp⟩ := hother x.key hnew
        rw [get?_settle, if_pos rfl, hbound, Option.or_none] at hget
        rw [isExplicit_settle, hexplicit] at hexp
        exact ⟨haccepts, hget, by simpa using hexp, fun hnone => hopen (hget ▸ hnone)⟩
      · have hne : x.key ≠ a.key := fun heq => hnew (heq ▸ List.mem_map_of_mem hx)
        refine hsettled x hx ?_ ?_
        · rw [get?_settle, if_neg hne, hbound]
        · rw [isExplicit_settle, hexplicit]
          simp [hne]

/-- Binding goes through when every text is accepted and every argument without a value may stay
open. -/
theorem exists_bindAll {arguments : List Argument}
    (h : ∀ a ∈ arguments, Accepts i d a ∧
      ((readValue? i d a).or a.default? = none → MayStayOpen d piped a)) (b : Binding) :
    ∃ c, arguments.foldlM (bindArgument i d piped) b = .ok c := by
  induction arguments generalizing b with
  | nil => exact ⟨b, rfl⟩
  | cons a rest ih =>
    obtain ⟨haccepts, hopen⟩ := h a List.mem_cons_self
    obtain ⟨c, hc⟩ := ih (fun x hx => h x (List.mem_cons_of_mem _ hx))
      (b.settle a (readValue? i d a))
    refine ⟨c, ?_⟩
    rw [List.foldlM_cons, Fallible.bind_eq_ok_iff]
    exact ⟨_, bindArgument_eq_ok_iff.2 ⟨haccepts, hopen, rfl⟩, hc⟩

/-- Binding an invocation goes through when binding its arguments does. -/
theorem exists_ofInvocation
    (h : ∀ a ∈ d.arguments, Accepts i d a ∧
      ((readValue? i d a).or a.default? = none → MayStayOpen d piped a)) :
    ∃ b, ofInvocation i d piped = .ok b := by
  obtain ⟨c, hc⟩ := exists_bindAll h {}
  refine ⟨{ c with positional := if takesPositional i d then "" else i.positional }, ?_⟩
  unfold ofInvocation
  rw [Fallible.bind_eq_ok_iff]
  exact ⟨c, hc, rfl⟩

/-! ## The result -/

/-- What holds of a binding of an invocation. -/
structure Binds (i : Invocation) (d : Definition) (piped : Bool) (b : Binding) : Prop where
  settled : ∀ a ∈ d.arguments, Settled i d piped b a
  undeclared : ∀ k, k ∉ argumentKeys d.arguments → b.get? k = none ∧ b.isExplicit k = false
  positional : b.positional = if takesPositional i d then "" else i.positional

/-- An invocation binds in one way only. -/
theorem Binds.unique {b c : Binding} (hb : Binds i d piped b) (hc : Binds i d piped c) : b = c := by
  refine ext_of_lookups (fun k => ?_) (fun k => ?_) (hb.positional.trans hc.positional.symm)
  · by_cases hk : k ∈ argumentKeys d.arguments
    · obtain ⟨a, ha, rfl⟩ := List.mem_map.1 hk
      rw [(hb.settled a ha).value, (hc.settled a ha).value]
    · rw [(hb.undeclared k hk).1, (hc.undeclared k hk).1]
  · by_cases hk : k ∈ argumentKeys d.arguments
    · obtain ⟨a, ha, rfl⟩ := List.mem_map.1 hk
      rw [(hb.settled a ha).explicit, (hc.settled a ha).explicit]
    · rw [(hb.undeclared k hk).2, (hc.undeclared k hk).2]

theorem binds_of_ofInvocation (hkeys : (argumentKeys d.arguments).Nodup) {b : Binding}
    (h : ofInvocation i d piped = .ok b) : Binds i d piped b := by
  unfold ofInvocation at h
  obtain ⟨c, hall, hresult⟩ := Fallible.bind_eq_ok_iff.1 h
  obtain rfl := Fallible.pure_eq_ok_iff.1 hresult
  obtain ⟨-, hother, hsettled⟩ := bindAll_settled hkeys hall
  refine ⟨fun a ha => ?_, fun k hk => hother k hk, rfl⟩
  obtain ⟨haccepts, hvalue, hexplicit, hopen⟩ := hsettled a ha rfl rfl
  exact ⟨haccepts, hvalue, hexplicit, hopen⟩

/-- Binding succeeds with a binding exactly when every argument is settled in it and nothing else
is in it. -/
theorem ofInvocation_eq_ok_iff (hkeys : (argumentKeys d.arguments).Nodup) {b : Binding} :
    ofInvocation i d piped = .ok b ↔ Binds i d piped b := by
  refine ⟨binds_of_ofInvocation hkeys, fun hb => ?_⟩
  have hall : ∀ a ∈ d.arguments, Accepts i d a ∧
      ((readValue? i d a).or a.default? = none → MayStayOpen d piped a) := fun a ha =>
    ⟨(hb.settled a ha).accepts, fun hnone =>
      (hb.settled a ha).unbound ((hb.settled a ha).value.trans hnone)⟩
  obtain ⟨c, hc⟩ := exists_ofInvocation hall
  rw [hc, hb.unique (binds_of_ofInvocation hkeys hc)]

end ChatChain.Binding
