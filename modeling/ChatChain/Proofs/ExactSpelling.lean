import ChatChain.Proofs.PipedValues
import ChatChain.Proofs.Printing

/-!
# Spellable bindings

A binding is spellable when every text that is written for it can stand where it is written and
reads as the value it stands for.  This module says exactly what the text of such a binding reads
as, also when values have been piped into it.

There are three groups.

* What is spellable.  `Spellable` is the condition, and `Spellable.clearly` says that nothing in the
  text of a spellable binding is taken for a mark.
* What is read.  `ReadsAs` lists the parts of the invocation that the text stands for, and
  `Spellable.readsAs` says that there are no others.
* The result.  `spelling_is_exact` adds that binding the invocation yields the same values, with
  the same text.
-/

namespace ChatChain.Binding

open Text

variable {g : Grammar} {d : Definition} {entity? : Option String} {piped : Bool} {i : Invocation}
  {b c : Binding}

/-! ## What is spellable -/

/-- Whether every text that is written for a binding can stand where it is written and reads as the
value it stands for. -/
structure Spellable (g : Grammar) (d : Definition) (b : Binding) : Prop where
  plain : ∀ a ∈ d.arguments, ∀ v, b.get? a.key = some v → Invocation.IsPlain g v.render
  read : ∀ a ∈ d.arguments, ∀ v, b.get? a.key = some v →
    Value.coerce? v.render a.kind a.choices = some v
  /-- Without a default key, what no argument took is written as it stands. -/
  leftover : d.defaultKey? = none → Invocation.IsPlain g b.positional
  /-- Text that is left over must not be taken for the value of an open default key. -/
  closed : ∀ key, d.defaultKey? = some key → b.get? key = none → b.positional = ""

theorem trim_eq_self {text : String} (h : Invocation.IsPlain g text) : trim text = text := by
  rw [trim, h.1, String.ofList_toList]

namespace Spellable

/-- What is written without a key can stand there. -/
theorem isPlain_positionalText (h : b.Spellable g d) (hd : d.Valid) :
    Invocation.IsPlain g (b.positionalText d) := by
  unfold positionalText defaultText?
  cases hkey : d.defaultKey? with
  | none => exact h.leftover hkey
  | some key =>
    rw [Option.bind_some]
    cases hvalue : b.get? key with
    | none =>
      rw [Option.map_none, Option.getD_none, h.closed key hkey hvalue]
      exact Invocation.isPlain_empty g
    | some v =>
      obtain ⟨a, ha⟩ := hd.defaultKey key hkey
      obtain ⟨hmem, rfl⟩ := Definition.argument?_eq_some ha
      exact h.plain a hmem v hvalue

theorem mem_writtenNamed {e : String × String} (he : e ∈ b.writtenNamed d) :
    ∃ a ∈ d.arguments, a.key = e.1 ∧ ∃ v, b.get? a.key = some v ∧ v.render = e.2 := by
  obtain ⟨a, ha, hwritten⟩ := List.mem_filterMap.1 he
  split at hwritten
  · obtain ⟨v, hv, rfl⟩ := Option.map_eq_some_iff.1 hwritten
    exact ⟨a, ha, rfl, v, hv, rfl⟩
  · cases hwritten

/-- Nothing that is written of a spellable binding is taken for a mark. -/
theorem clearly (h : b.Spellable g d) (hd : d.Valid)
    (hkeys : ∀ a ∈ d.arguments, isArgumentKey a.key = true) : b.SpelledClearly g d where
  positional := (h.isPlain_positionalText hd).2
  keys e he := by
    obtain ⟨a, ha, hkey, -⟩ := mem_writtenNamed he
    exact hkey ▸ hkeys a ha
  texts e he := by
    obtain ⟨a, ha, -, v, hv, htext⟩ := mem_writtenNamed he
    exact htext ▸ (h.plain a ha v hv).2

end Spellable

/-! ## What is read -/

/-- Whether an invocation says what a binding holds: the positional text is that of the default key,
or what was left over, and every other value has its key, as the default key has when its text is
empty. -/
structure ReadsAs (d : Definition) (entity? : Option String) (b : Binding) (j : Invocation) :
    Prop where
  name : j.name = d.name
  entity : j.entity? = entity?
  default : ∀ key v, d.defaultKey? = some key → b.get? key = some v → j.positional = v.render
  leftover : d.defaultKey? = none → j.positional = b.positional
  closed : ∀ key, d.defaultKey? = some key → b.get? key = none → j.positional = ""
  named : ∀ key, j.named.get? key =
    if d.defaultKey? = some key ∧ (b.get? key).map Value.render ≠ some "" then none
    else (b.get? key).map Value.render

/-- The named arguments of the text of a spellable binding. -/
theorem Spellable.get?_named (h : b.Spellable g d) (hd : d.Valid) (hcovers : b.Covers d piped)
    (hkeys : ∀ a ∈ d.arguments, isArgumentKey a.key = true)
    (hargument : isBlank g.argumentMark = false) (key : String) :
    (b.reread g d entity?).named.get? key =
      if d.defaultKey? = some key ∧ (b.get? key).map Value.render ≠ some "" then none
      else (b.get? key).map Value.render := by
  rw [((h.clearly hd hkeys).reread hargument entity?).2]
  by_cases hdeclared : key ∈ argumentKeys d.arguments
  · obtain ⟨a, ha, rfl⟩ := List.mem_map.1 hdeclared
    have htext : ((b.get? a.key).map fun v => trim v.render) = (b.get? a.key).map Value.render := by
      cases hvalue : b.get? a.key with
      | none => rfl
      | some v => simp [trim_eq_self (h.plain a ha v hvalue)]
    rw [get?_written hd.keys ha, htext]
    unfold isWrittenNamed
    by_cases hkey : d.isDefaultKey a.key = true
    · rw [defaultText?_eq hkey, hkey]
      by_cases hempty : (b.get? a.key).map Value.render = some ""
      · simp [hempty]
      · simp [hempty, Definition.isDefaultKey_iff.1 hkey]
    · have hother : ¬d.defaultKey? = some a.key := fun heq =>
        hkey (Definition.isDefaultKey_iff.2 heq)
      simp [hkey, hother]
  · rw [hcovers.undeclared key hdeclared, Dict.get?_ofList]
    have hnone : ((b.writtenNamed d).map fun e => (e.1, trim e.2)).reverse.lookup key = none := by
      rw [List.lookup_eq_none_iff]
      intro e he
      obtain ⟨e', he', rfl⟩ := List.mem_map.1 (List.mem_reverse.1 he)
      obtain ⟨a, ha, hkey, -⟩ := mem_writtenNamed he'
      have hne : key ≠ e'.1 := fun heq => hdeclared (heq ▸ hkey ▸ List.mem_map_of_mem ha)
      simpa using hne
    rw [hnone]
    simp

/-- The text of a spellable binding reads as what the binding holds. -/
theorem Spellable.readsAs (h : b.Spellable g d) (hd : d.Valid) (hcovers : b.Covers d piped)
    (hkeys : ∀ a ∈ d.arguments, isArgumentKey a.key = true)
    (hargument : isBlank g.argumentMark = false) :
    ReadsAs d entity? b (b.reread g d entity?) := by
  have hpositional : (b.reread g d entity?).positional = b.positionalText d := by
    rw [((h.clearly hd hkeys).reread hargument entity?).1,
      trim_eq_self (h.isPlain_positionalText hd)]
  refine ⟨rfl, rfl, fun key v hkey hvalue => ?_, fun hkey => ?_, fun key hkey hvalue => ?_,
    h.get?_named hd hcovers hkeys hargument⟩
  · rw [hpositional, positionalText, defaultText?, hkey, Option.bind_some, hvalue]
    rfl
  · rw [hpositional, positionalText, defaultText?, hkey]
    rfl
  · rw [hpositional, positionalText, defaultText?, hkey, Option.bind_some, hvalue]
    exact h.closed key hkey hvalue

/-- Every argument finds its own value in the text of a spellable binding. -/
theorem Spellable.readValue?_reread (h : b.Spellable g d) (hd : d.Valid)
    (hkeys : ∀ a ∈ d.arguments, isArgumentKey a.key = true)
    (hargument : isBlank g.argumentMark = false) {a : Argument} (ha : a ∈ d.arguments) :
    readValue? (b.reread g d entity?) d a = b.get? a.key := by
  rw [readValue?, suppliedText?_reread (h.clearly hd hkeys) hargument hd.keys ha,
    writtenText?_eq (fun v hv => trim_eq_self (h.plain a ha v hv)) fun hkey =>
      h.closed a.key (Definition.isDefaultKey_iff.1 hkey)]
  cases hvalue : b.get? a.key with
  | none => rfl
  | some v => exact h.read a ha v hvalue

/-! ## The result -/

theorem Fills.covers (hfills : Fills d b c) (hb : Binds i d piped b) : c.Covers d piped where
  unbound a ha hnone := hb.covers.unbound a ha (hfills.get?_eq_none hnone)
  default a ha hnone := hb.covers.default a ha (hfills.get?_eq_none hnone)
  undeclared k hk := by
    rcases hfills.value k with heq | ⟨a, v, w, hkey, rfl, -⟩
    · rw [heq, (hb.undeclared k hk).1]
    · exact absurd (List.mem_map_of_mem (Definition.defaultArgument?_eq_some hkey).1) hk

theorem pipeAll_fills {vs : List Value} (h : vs.foldlM (fun b v => b.pipe d v) b = .ok c) :
    Fills d b c :=
  Fallible.foldlM_preserves (P := Fills d b) (fun _ _ _ hb hpipe => hb.trans (pipe_fills hpipe))
    (.refl d b) h

/-- The text of a binding depends on its values and on the text that is written without a key. -/
theorem spell_congr (hvalues : b.values = c.values)
    (hpositional : b.positionalText d = c.positionalText d) :
    b.spell g d entity? = c.spell g d entity? := by
  have hget : b.get? = c.get? := funext fun k => by rw [get?, hvalues, get?]
  unfold spell isWrittenNamed defaultText?
  rw [hpositional, hget]

/-- A binding that is made of what a spelled binding reads as has the same values, all of them
typed, and keeps what was left over where there is no default key. -/
theorem Spellable.rebound (h : b.Spellable g d) (hd : d.Valid) (hcovers : b.Covers d piped)
    (hkeys : ∀ a ∈ d.arguments, isArgumentKey a.key = true)
    (hargument : isBlank g.argumentMark = false) {r : Binding}
    (hr : ofInvocation (b.reread g d entity?) d piped = .ok r) :
    (∀ k, r.isExplicit k = (b.get? k).isSome) ∧
      r.positional = if d.defaultKey? = none then b.positional else "" := by
  have hbinds := binds_of_ofInvocation hd.keys hr
  have hreads : ReadsAs d entity? b (b.reread g d entity?) :=
    h.readsAs hd hcovers hkeys hargument
  constructor
  · intro k
    by_cases hk : k ∈ argumentKeys d.arguments
    · obtain ⟨a, ha, rfl⟩ := List.mem_map.1 hk
      rw [(hbinds.settled a ha).explicit, h.readValue?_reread hd hkeys hargument ha]
    · rw [(hbinds.undeclared k hk).2, hcovers.undeclared k hk]
      rfl
  · rw [hbinds.positional]
    cases hkey : d.defaultKey? with
    | none =>
      have huntaken : takesPositional (b.reread g d entity?) d = false := by
        simp [takesPositional, Definition.isDefaultKey, hkey]
      simp [huntaken, hreads.leftover hkey]
    | some key =>
      refine Eq.trans ?_ (if_neg (by simp)).symm
      cases hvalue : b.get? key with
      | none => simp [hreads.closed key hkey hvalue]
      | some v =>
        obtain ⟨a, ha⟩ := hd.defaultKey key hkey
        obtain ⟨hmem, rfl⟩ := Definition.argument?_eq_some ha
        by_cases hempty : v.render = ""
        · simp [hreads.default a.key v hkey hvalue, hempty]
        · -- The default key stands without its key, and takes the positional text.
          have hnamed : (b.reread g d entity?).named.get? a.key = none := by
            rw [hreads.named, if_pos ⟨hkey, by simp [hvalue, hempty]⟩]
          have htaken : takesPositional (b.reread g d entity?) d = true := by
            refine List.any_eq_true.2 ⟨a, hmem, ?_⟩
            simp [Definition.isDefaultKey, hkey, hnamed, hreads.default a.key v hkey hvalue, hempty]
          rw [if_pos htaken]

/-- The text of a spellable binding, also of one that values were piped into, reads as exactly what
the binding holds.  Binding that yields the same values again, all of them typed, and the same
text. -/
theorem spelling_is_exact (hcommand : isBlank g.commandMark = false)
    (hargument : isBlank g.argumentMark = false) (hdistinct : g.commandMark ≠ g.argumentMark)
    (hcheck : d.check = .ok ()) (hkeys : ∀ a ∈ d.arguments, isArgumentKey a.key = true)
    (hentity : ∀ id, entity? = some id → Invocation.IsScope id)
    (hbind : ofInvocation i d piped = .ok b) {vs : List Value}
    (hpipe : vs.foldlM (fun b v => b.pipe d v) b = .ok c) (hspellable : c.Spellable g d) :
    ∃ j r, Invocation.parse g (c.spell g d entity?) = [j] ∧ ReadsAs d entity? c j ∧
      ofInvocation j d piped = .ok r ∧ r.values = c.values ∧
      (∀ k, r.isExplicit k = (c.get? k).isSome) ∧
      r.positional = (if d.defaultKey? = none then c.positional else "") ∧
      r.spell g d entity? = c.spell g d entity? := by
  have hd := Definition.check_eq_ok_iff.1 hcheck
  have hcovers := (pipeAll_fills hpipe).covers (binds_of_ofInvocation hd.keys hbind)
  have hclear := hspellable.clearly hd hkeys
  have hrestores : ∀ a ∈ d.arguments,
      c.Restores a (suppliedText? (c.reread g d entity?) d a) := by
    intro a ha
    rw [suppliedText?_reread hclear hargument hd.keys ha]
    exact restores_writtenText? hcovers ha
      (fun v hv => ⟨trim_eq_self (hspellable.plain a ha v hv), hspellable.read a ha v hv⟩)
      fun hkey => hspellable.closed a.key (Definition.isDefaultKey_iff.1 hkey)
  obtain ⟨j, r, hparse, -, -, hr, hvalues⟩ := (hcovers.roundTrips_iff hcommand hd hentity).2
    ⟨hclear.commandWord?_eq_none hcommand hargument hdistinct, hrestores⟩
  obtain ⟨-, rfl⟩ := (parse_spell_eq_singleton_iff hcommand hd.name hentity).1 hparse
  obtain ⟨hexplicit, hpositional⟩ := hspellable.rebound hd hcovers hkeys hargument hr
  refine ⟨_, r, hparse, hspellable.readsAs hd hcovers hkeys hargument, hr, hvalues, hexplicit,
    hpositional, ?_⟩
  refine spell_congr hvalues ?_
  cases hkey : d.defaultKey? with
  | none => simpa [positionalText, defaultText?, hkey] using hpositional
  | some key =>
    cases hvalue : c.get? key with
    | none =>
      have hopen : r.get? key = none := by rw [get?, hvalues]; exact hvalue
      have hleft := hspellable.closed key hkey hvalue
      simp [positionalText, defaultText?, hkey, hvalue, hopen, hpositional, hleft]
    | some v =>
      have hbound : r.get? key = some v := by rw [get?, hvalues]; exact hvalue
      simp [positionalText, defaultText?, hkey, hvalue, hbound]

/-- `case` behind another command, with a mode that the user chose by its number. -/
def chosen : Binding where
  values := Dict.ofList [("mode", .choice 1 "lower")]
  explicit := Dict.ofList [("mode", ())]

/-- The same binding after a text and then an empty text were piped into it. -/
def emptied : Binding where
  values := Dict.ofList [("mode", .choice 1 "lower"), ("text", .text "")]
  explicit := Dict.ofList [("mode", ())]

/-- An empty text in the default key is written as the key alone. -/
theorem spelling_is_exact_emptied :
    emptied.Spellable {} Builtin.caseCommand.definition ∧
      emptied.spell {} Builtin.caseCommand.definition (some "42") = "%case:42 -text -mode lower" ∧
      ∃ j r, Invocation.parse {} "%case:42 -text -mode lower" = [j] ∧
        ReadsAs Builtin.caseCommand.definition (some "42") emptied j ∧
        ofInvocation j Builtin.caseCommand.definition true = .ok r ∧
        r.values = emptied.values := by
  have hcommand : isBlank ({} : Grammar).commandMark = false := by decide
  have hargument : isBlank ({} : Grammar).argumentMark = false := by decide
  have hdistinct : ({} : Grammar).commandMark ≠ ({} : Grammar).argumentMark := by decide
  have hcheck : Builtin.caseCommand.definition.check = .ok () := by decide
  have hkeys : ∀ a ∈ Builtin.caseCommand.definition.arguments, isArgumentKey a.key = true := by
    decide
  have hentity : ∀ id, some "42" = some id → Invocation.IsScope id := by
    rintro id ⟨⟩
    have hdigits : ∀ c ∈ ['4', '2'], isBlank c = false :=
      List.forall_mem_cons.2 ⟨rfl, List.forall_mem_singleton.2 rfl⟩
    exact ⟨by decide, hdigits⟩
  have hbind : ofInvocation { name := "case", named := Dict.ofList [("mode", "1")] }
      Builtin.caseCommand.definition true = .ok chosen := by rfl
  have hpipe : [Value.text "first", .text ""].foldlM
      (fun b v => b.pipe Builtin.caseCommand.definition v) chosen = .ok emptied := by rfl
  have hspellable : emptied.Spellable {} Builtin.caseCommand.definition := by
    have harguments : ∀ a ∈ Builtin.caseCommand.definition.arguments,
        ∀ v, emptied.get? a.key = some v → Invocation.IsPlain {} v.render ∧
          Value.coerce? v.render a.kind a.choices = some v := by decide
    exact ⟨fun a ha v hv => (harguments a ha v hv).1, fun a ha v hv => (harguments a ha v hv).2,
      by decide, fun _ _ _ => rfl⟩
  have htext : emptied.spell {} Builtin.caseCommand.definition (some "42") =
      "%case:42 -text -mode lower" := by decide +kernel
  obtain ⟨j, r, hparse, hreads, hr, hvalues, -⟩ := spelling_is_exact hcommand hargument hdistinct
    hcheck hkeys hentity hbind hpipe hspellable
  rw [htext] at hparse
  exact ⟨hspellable, htext, j, r, hparse, hreads, hr, hvalues⟩

end ChatChain.Binding
