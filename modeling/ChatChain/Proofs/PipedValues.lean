import ChatChain.Builtin.Number
import ChatChain.Proofs.Execution

/-!
# Bindings that values are piped into

A binding is made from what the user typed, and after that any number of values may be put into its
default key, of whatever kind.  This module says what holds of it all the way.

There are three groups.

* One value.  `receive` puts a value into a binding that is changed in place, `run_receive` says
  that it does what `Binding.pipe` does, and `pipe_eq_ok_iff` what that can be.
* Many values.  `receiveAll` puts them in one after the other.  `Fills` says where the values of the
  outcome come from, and `receiveAll_fills` that every run keeps to it.
* The result.  `bindings_stay_well_typed` collects what holds after any values.
-/

namespace ChatChain.Binding

variable {i : Invocation} {d : Definition} {piped : Bool} {b c : Binding} {v : Value}

/-! ## One value -/

/-- Puts the previous command's output into the default key of a binding that is changed in
place. -/
def receive (d : Definition) (v : Value) : EStateM CommandError Binding Unit := do
  let some a := d.defaultArgument? | return
  if (← get).isExplicit a.key then return
  let some value := Value.coerce? v.render a.kind a.choices
    | throw (.invalidArgument d.name a.key v.render a.kind)
  modify fun b => { b with values := b.values.insert a.key value }

/-- A value that can be put in is, and one that cannot changes nothing. -/
theorem run_receive (d : Definition) (v : Value) (b : Binding) :
    (receive d v).run b =
      match b.pipe d v with
      | .ok c => .ok () c
      | .error e => .error e b := by
  unfold receive pipe
  cases d.defaultArgument? with
  | none => rfl
  | some a =>
    by_cases hexplicit : b.isExplicit a.key = true
    · simp [hexplicit]
    · cases hread : Value.coerce? v.render a.kind a.choices <;> simp [hexplicit, hread]

theorem pipe_eq_ok_iff :
    b.pipe d v = .ok c ↔
      (∀ a, d.defaultArgument? = some a → b.isExplicit a.key = true) ∧ c = b ∨
        ∃ a w, d.defaultArgument? = some a ∧ b.isExplicit a.key = false ∧
          Value.coerce? v.render a.kind a.choices = some w ∧
          c = { b with values := b.values.insert a.key w } := by
  unfold pipe
  cases hkey : d.defaultArgument? with
  | none => simp [@eq_comm _ c]
  | some a =>
    cases hexplicit : b.isExplicit a.key with
    | true => simp [hexplicit, @eq_comm _ c]
    | false =>
      cases hread : Value.coerce? v.render a.kind a.choices with
      | none => simp [hexplicit, hread]
      | some w => simp [hexplicit, hread, @eq_comm _ c]

/-! ## Many values -/

/-- Puts values in one after the other, whether or not the earlier ones were accepted.  The answer
is the values that were, and the binding at the end. -/
def receiveAll (d : Definition) (b : Binding) : List Value → List Value × Binding
  | [] => ([], b)
  | v :: rest =>
    match (receive d v).run b with
    | .ok _ c => (v :: (receiveAll d c rest).1, (receiveAll d c rest).2)
    | .error _ c => receiveAll d c rest

/-- Whether a binding comes from another one by values that were put into an open default key. -/
structure Fills (d : Definition) (b c : Binding) : Prop where
  explicit : c.explicit = b.explicit
  positional : c.positional = b.positional
  value : ∀ k, c.get? k = b.get? k ∨ ∃ (a : Argument) (v w : Value),
    d.defaultArgument? = some a ∧ a.key = k ∧
    b.isExplicit k = false ∧ Value.coerce? v.render a.kind a.choices = some w ∧ c.get? k = some w

namespace Fills

theorem refl (d : Definition) (b : Binding) : Fills d b b :=
  ⟨rfl, rfl, fun _ => Or.inl rfl⟩

theorem isExplicit (h : Fills d b c) (k : String) : c.isExplicit k = b.isExplicit k := by
  unfold Binding.isExplicit
  rw [h.explicit]

theorem trans {b' : Binding} (h : Fills d b b') (h' : Fills d b' c) : Fills d b c where
  explicit := h'.explicit.trans h.explicit
  positional := h'.positional.trans h.positional
  value k := by
    rcases h'.value k with heq | ⟨a, v, w, hkey, hk, hopen, hread, hw⟩
    · rw [heq]
      exact h.value k
    · exact Or.inr ⟨a, v, w, hkey, hk, h.isExplicit k ▸ hopen, hread, hw⟩

/-- Only the default key changes. -/
theorem get?_of_isDefaultKey_eq_false (h : Fills d b c) {k : String}
    (hk : d.isDefaultKey k = false) : c.get? k = b.get? k := by
  rcases h.value k with heq | ⟨a, v, w, hkey, rfl, -⟩
  · exact heq
  · rw [(Definition.defaultArgument?_eq_some hkey).2] at hk
    cases hk

/-- What the user typed does not change. -/
theorem get?_of_isExplicit (h : Fills d b c) {k : String} (hk : b.isExplicit k = true) :
    c.get? k = b.get? k := by
  rcases h.value k with heq | ⟨a, v, w, -, -, hopen, -⟩
  · exact heq
  · rw [hk] at hopen
    cases hopen

/-- What is bound stays bound. -/
theorem get?_eq_none (h : Fills d b c) {k : String} (hk : c.get? k = none) : b.get? k = none := by
  rcases h.value k with heq | ⟨a, v, w, -, -, -, -, hw⟩
  · rw [← heq, hk]
  · cases hw.symm.trans hk

end Fills

theorem pipe_fills (h : b.pipe d v = .ok c) : Fills d b c := by
  rcases pipe_eq_ok_iff.1 h with ⟨-, rfl⟩ | ⟨a, w, hkey, hopen, hread, rfl⟩
  · exact .refl d c
  · refine ⟨rfl, rfl, fun k => ?_⟩
    unfold get?
    rw [Dict.get?_insert]
    by_cases hk : k = a.key
    · exact Or.inr ⟨a, v, w, hkey, hk.symm, hk ▸ hopen, hread, if_pos hk⟩
    · exact Or.inl (if_neg hk)

/-- What the default key holds after some values were accepted: the last of them, if there is
one. -/
structure HoldsLast (d : Definition) (b c : Binding) (accepted : List Value) : Prop where
  last : ∀ a, d.defaultArgument? = some a → b.isExplicit a.key = false →
    ∀ v, accepted.getLast? = some v →
      ∃ w, Value.coerce? v.render a.kind a.choices = some w ∧ c.get? a.key = some w
  untouched : accepted = [] → c = b

theorem receiveAll_fills (d : Definition) (b : Binding) (vs : List Value) :
    Fills d b (receiveAll d b vs).2 ∧
      HoldsLast d b (receiveAll d b vs).2 (receiveAll d b vs).1 := by
  induction vs generalizing b with
  | nil => exact ⟨.refl d b, by simp [receiveAll], fun _ => rfl⟩
  | cons v rest ih =>
    rw [receiveAll, run_receive]
    cases hpipe : b.pipe d v with
    | error e => exact ih b
    | ok c =>
      obtain ⟨hfills, hlast⟩ := ih c
      have hfirst := pipe_fills hpipe
      refine ⟨hfirst.trans hfills, fun a hkey hopen u hu => ?_, by simp⟩
      cases hrest : (receiveAll d c rest).1.getLast? with
      | some u' =>
        obtain rfl : u' = u := by simpa [List.getLast?_cons, hrest] using hu
        exact hlast.last a hkey (hfirst.isExplicit a.key ▸ hopen) u' hrest
      | none =>
        obtain rfl : v = u := by simpa [List.getLast?_cons, hrest] using hu
        rw [hlast.untouched (List.getLast?_eq_none_iff.1 hrest)]
        rcases pipe_eq_ok_iff.1 hpipe with ⟨htyped, -⟩ | ⟨a', w, hkey', -, hread, rfl⟩
        · cases (htyped a hkey).symm.trans hopen
        · obtain rfl := Option.some.inj (hkey.symm.trans hkey')
          exact ⟨w, hread, Dict.get?_insert_self _ _ _⟩

/-! ## The result -/

/-- What holds of a binding of an invocation after values have been put into it. -/
structure WellTyped (i : Invocation) (d : Definition) (piped : Bool) (b : Binding)
    (accepted : List Value) (c : Binding) : Prop where
  /-- What is bound is declared, and of the declared kind. -/
  declared : ∀ k v, c.get? k = some v → ∃ a ∈ d.arguments, a.key = k ∧ v.kind = a.kind
  /-- What is required is bound, but for a default key that waits for its first value. -/
  required : ∀ a ∈ d.arguments, a.required = true → c.get? a.key = none →
    d.isDefaultKey a.key = true ∧ piped = true ∧ accepted = []
  /-- The typed keys are those whose text reads as a value. -/
  explicit : ∀ k, c.isExplicit k = true ↔ ∃ a ∈ d.arguments, a.key = k ∧
    ∃ text v, suppliedText? i d a = some text ∧ Value.coerce? text a.kind a.choices = some v
  /-- A typed key holds the value that its text reads as; a choice is one of the declared names. -/
  read : ∀ a ∈ d.arguments, ∀ text v, suppliedText? i d a = some text →
    Value.coerce? text a.kind a.choices = some v →
      c.get? a.key = some v ∧ ∀ index name, v = .choice index name → a.choices[index]? = some name
  sameExplicit : c.explicit = b.explicit
  samePositional : c.positional = b.positional
  /-- Only a default key that was not typed changes. -/
  sameValue : ∀ k, d.isDefaultKey k = false ∨ b.isExplicit k = true → c.get? k = b.get? k
  /-- Such a default key holds the last value that was accepted, read as its kind. -/
  last : ∀ a, d.defaultArgument? = some a → c.isExplicit a.key = false →
    ∀ v, accepted.getLast? = some v →
      ∃ w, Value.coerce? v.render a.kind a.choices = some w ∧ c.get? a.key = some w
  /-- Where no value was accepted, nothing changed at all. -/
  untouched : accepted = [] → c = b

theorem Binds.wellTyped (hd : d.Valid) (hb : Binds i d piped b) {accepted : List Value}
    (hfills : Fills d b c) (hlast : HoldsLast d b c accepted) :
    WellTyped i d piped b accepted c where
  declared k v hv := by
    rcases hfills.value k with heq | ⟨a, u, w, hkey, rfl, -, hread, hw⟩
    · by_cases hk : k ∈ argumentKeys d.arguments
      · obtain ⟨a, ha, rfl⟩ := List.mem_map.1 hk
        exact ⟨a, ha, rfl, hb.kind_eq hd ha (heq ▸ hv)⟩
      · rw [heq, (hb.undeclared k hk).1] at hv
        cases hv
    · obtain rfl := Option.some.inj (hw.symm.trans hv)
      exact ⟨a, (Definition.defaultArgument?_eq_some hkey).1, rfl, Value.kind_of_coerce? hread⟩
  required a ha hrequired hnone := by
    have hfirst := hfills.get?_eq_none hnone
    obtain ⟨hkey, hpiped⟩ := (hb.settled a ha).unbound hfirst hrequired
    refine ⟨hkey, hpiped, ?_⟩
    have hdefault := hd.defaultArgument?_eq_some_iff.2 ⟨ha, hkey⟩
    have hopen : b.isExplicit a.key = false := by
      cases hexplicit : b.isExplicit a.key with
      | false => rfl
      | true => exact absurd hfirst (hb.get?_ne_none ha hexplicit)
    cases haccepted : accepted.getLast? with
    | none => exact List.getLast?_eq_none_iff.1 haccepted
    | some v =>
      obtain ⟨w, -, hw⟩ := hlast.last a hdefault hopen v haccepted
      cases hw.symm.trans hnone
  explicit k := by
    rw [hfills.isExplicit]
    constructor
    · intro hk
      by_cases hdeclared : k ∈ argumentKeys d.arguments
      · obtain ⟨a, ha, rfl⟩ := List.mem_map.1 hdeclared
        rw [(hb.settled a ha).explicit] at hk
        obtain ⟨v, hv⟩ := Option.isSome_iff_exists.1 hk
        obtain ⟨text, htext, hread⟩ := Option.bind_eq_some_iff.1 hv
        exact ⟨a, ha, rfl, text, v, htext, hread⟩
      · rw [(hb.undeclared k hdeclared).2] at hk
        cases hk
    · rintro ⟨a, ha, rfl, text, v, htext, hread⟩
      rw [(hb.settled a ha).explicit, readValue?, htext, Option.bind_some, hread]
      rfl
  read a ha text v htext hread := by
    have hvalue : readValue? i d a = some v := by rw [readValue?, htext, Option.bind_some, hread]
    have htyped : b.isExplicit a.key = true := by rw [(hb.settled a ha).explicit, hvalue]; rfl
    refine ⟨?_, fun index name hchoice => Value.getElem?_of_coerce? (hchoice ▸ hread)⟩
    rw [hfills.get?_of_isExplicit htyped, (hb.settled a ha).value, hvalue]
    rfl
  sameExplicit := hfills.explicit
  samePositional := hfills.positional
  sameValue k hk :=
    hk.elim hfills.get?_of_isDefaultKey_eq_false hfills.get?_of_isExplicit
  last a hkey hopen := hlast.last a hkey (hfills.isExplicit a.key ▸ hopen)
  untouched := hlast.untouched

/-- A binding of an accepted definition is well typed and stays so, whatever values are put into it,
and a value that is rejected changes nothing. -/
theorem bindings_stay_well_typed (hcheck : d.check = .ok ())
    (hbind : ofInvocation i d piped = .ok b) (vs : List Value) :
    WellTyped i d piped b (receiveAll d b vs).1 (receiveAll d b vs).2 ∧
      ∀ v e c, (receive d v).run (receiveAll d b vs).2 = .error e c →
        c = (receiveAll d b vs).2 := by
  have hd := Definition.check_eq_ok_iff.1 hcheck
  obtain ⟨hfills, hlast⟩ := receiveAll_fills d b vs
  refine ⟨(binds_of_ofInvocation hd.keys hbind).wellTyped hd hfills hlast, fun v e c hrun => ?_⟩
  rw [run_receive] at hrun
  cases hpipe : (receiveAll d b vs).2.pipe d v with
  | ok b' => simp [hpipe] at hrun
  | error e' =>
    rw [hpipe] at hrun
    cases hrun
    rfl

/-- `add` behind another command, with nothing typed. -/
def awaiting : Binding where
  values := Dict.ofList [("amount", .long 1)]

/-- The number in the default key is the last one that was accepted. -/
theorem bindings_stay_well_typed_add :
    Builtin.addCommand.definition.check = .ok () ∧
      ofInvocation { name := "add" } Builtin.addCommand.definition true = .ok awaiting ∧
      receiveAll Builtin.addCommand.definition awaiting [.text " 7", .text "seven", .long 9] =
        ([.text " 7", .long 9],
          { values := Dict.ofList [("amount", .long 1), ("value", .integer 9)] }) ∧
      WellTyped { name := "add" } Builtin.addCommand.definition true awaiting
        [.text " 7", .long 9]
        { values := Dict.ofList [("amount", .long 1), ("value", .integer 9)] } := by
  have hcheck : Builtin.addCommand.definition.check = .ok () := by decide
  have hbind : ofInvocation { name := "add" } Builtin.addCommand.definition true =
      .ok awaiting := by rfl
  have hrun : receiveAll Builtin.addCommand.definition awaiting
      [.text " 7", .text "seven", .long 9] = ([.text " 7", .long 9],
        { values := Dict.ofList [("amount", .long 1), ("value", .integer 9)] }) := by
    decide +kernel
  have hwell := (bindings_stay_well_typed hcheck hbind [.text " 7", .text "seven", .long 9]).1
  rw [hrun] at hwell
  exact ⟨hcheck, hbind, hrun, hwell⟩

end ChatChain.Binding
