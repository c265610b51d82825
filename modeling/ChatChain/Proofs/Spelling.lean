import ChatChain.Builtin.Text
import ChatChain.Invocation.Printer
import ChatChain.Proofs.Binding
import ChatChain.Proofs.Reading
import ChatChain.Proofs.Values

/-!
# Spelling a binding and reading it again

`Binding.spell` writes a binding as command text.  This module says what that text reads as, and
when binding it again restores the values.

There are five groups.

* The text.  `spelledTail` is what stands behind the head, and `parse_spell` says that the text
  reads as one invocation unless a word of the tail begins another one.
* The round trip.  `RoundTrips` is the law, `Restores` is what it asks of one argument, `Covers`
  what it asks of the binding itself, and `Covers.roundTrips_iff` says that it asks nothing else.
* Clear texts.  In a text that is `SpelledClearly` no word is taken for a mark, and
  `suppliedText?_reread` says which text each argument gets back.
* Typed values and defaults.  `roundTrips_of_trimmed_defaults` says that what the user typed comes
  back from clear texts, and that defaults do if there are no blanks around them.
* The result.  `spelling_restores_exactly` gives the condition of the round trip, in general and for
  clear texts.
-/

namespace ChatChain

open Text

variable {g : Grammar} {d : Definition} {entity? : Option String} {piped : Bool}

/-! ## The head -/

namespace Invocation

/-- The word of a head stands for the head. -/
theorem commandWord?_headWord {i : Invocation} (hname : isCommandName i.name = true)
    (hentity : ∀ id, i.entity? = some id → IsScope id) :
    g.commandWord? (i.headWord g).toList = some i.head := by
  rw [Grammar.commandWord?_eq_some_iff]
  refine ⟨i.name.toList, hname, by simp [head], ?_⟩
  cases hscope : i.entity? with
  | none => exact Or.inl ⟨by simp [headWord, hscope], hscope⟩
  | some id =>
    refine Or.inr ⟨id.toList, by simp [headWord, hscope], ?_⟩
    have hne : id.toList ≠ [] := fun hnil => (hentity id hscope).1 (String.toList_eq_nil_iff.1 hnil)
    rw [if_neg hne, String.ofList_toList]
    exact hscope

/-- A head is one word. -/
theorem isBlank_of_mem_headWord {i : Invocation} (hmark : isBlank g.commandMark = false)
    (hname : isCommandName i.name = true) (hentity : ∀ id, i.entity? = some id → IsScope id) :
    ∀ c ∈ (i.headWord g).toList, isBlank c = false := by
  intro c hc
  cases hscope : i.entity? with
  | none =>
    have hsplit : c = g.commandMark ∨ c ∈ i.name.toList := by simpa [headWord, hscope] using hc
    rcases hsplit with rfl | hc
    · exact hmark
    · exact isBlank_of_mem_commandName hname hc
  | some id =>
    have hsplit : c = g.commandMark ∨ c ∈ i.name.toList ∨ c = entitySeparator ∨ c ∈ id.toList := by
      simpa [headWord, hscope] using hc
    rcases hsplit with rfl | hc | rfl | hc
    · exact hmark
    · exact isBlank_of_mem_commandName hname hc
    · decide
    · exact (hentity id hscope).2 c hc

end Invocation

/-! ## The text -/

namespace Binding

/-- The keys and texts that are written as named arguments, in the order of declaration. -/
def writtenNamed (b : Binding) (d : Definition) : List (String × String) :=
  d.arguments.filterMap fun a =>
    if b.isWrittenNamed d a then (b.get? a.key).map fun v => (a.key, v.render) else none

/-- A text behind a space, unless there is none. -/
def behindSpace (text : String) : String :=
  if text = "" then "" else " " ++ text

/-- What stands behind the head of a spelled binding. -/
def spelledTail (g : Grammar) (d : Definition) (b : Binding) : String :=
  behindSpace (b.positionalText d) ++
    String.join ((b.writtenNamed d).map fun e => spellArgument g e.1 e.2)

/-- The word of the head of a spelled binding. -/
def spelledHead (g : Grammar) (d : Definition) (entity? : Option String) : String :=
  String.singleton g.commandMark ++ d.name ++
    (entity?.map fun id => String.singleton entitySeparator ++ id).getD ""

theorem spell_eq (g : Grammar) (d : Definition) (entity? : Option String) (b : Binding) :
    b.spell g d entity? = spelledHead g d entity? ++ b.spelledTail g d := by
  have hnamed : (b.writtenNamed d).map (fun e => spellArgument g e.1 e.2) =
      d.arguments.filterMap fun a =>
        if b.isWrittenNamed d a then (b.get? a.key).map fun v => spellArgument g a.key v.render
        else none := by
    unfold writtenNamed
    rw [List.map_filterMap]
    congr 1
    funext a
    split
    · rw [Option.map_map]
      rfl
    · rfl
  unfold spell spelledTail
  rw [hnamed, ← String.append_assoc]
  rfl

theorem isBlank_of_mem_space : ∀ c ∈ [' '], isBlank c = true := by
  intro c hc
  rw [List.mem_singleton.1 hc]
  decide

theorem toList_behindSpace (text : String) :
    (behindSpace text).toList = if text = "" then [] else ' ' :: text.toList := by
  unfold behindSpace
  split <;> simp

theorem isBlank_head?_behindSpace (text : String) {rest : String}
    (hrest : ∀ c ∈ rest.toList.head?, isBlank c = true) :
    ∀ c ∈ (behindSpace text ++ rest).toList.head?, isBlank c = true := by
  intro c hc
  rw [String.toList_append, toList_behindSpace] at hc
  split at hc
  · exact hrest c (by simpa using hc)
  · obtain rfl : ' ' = c := by simpa using hc
    decide

theorem toList_spellArgument (g : Grammar) (key text : String) :
    (spellArgument g key text).toList =
      ' ' :: ((g.argumentMark :: key.toList) ++ (behindSpace text).toList) := by
  unfold spellArgument
  rw [toList_behindSpace]
  split <;> simp

theorem isBlank_head?_spellArguments (es : List (String × String)) :
    ∀ c ∈ (String.join (es.map fun e => spellArgument g e.1 e.2)).toList.head?,
      isBlank c = true := by
  intro c hc
  cases es with
  | nil => simp at hc
  | cons e es =>
    rw [List.map_cons, String.join_cons, String.toList_append, toList_spellArgument] at hc
    obtain rfl : ' ' = c := by simpa using hc
    decide

/-- The tail begins with a space, unless it is empty. -/
theorem isBlank_head?_spelledTail (b : Binding) :
    ∀ c ∈ (b.spelledTail g d).toList.head?, isBlank c = true :=
  isBlank_head?_behindSpace _ (isBlank_head?_spellArguments _)

/-! ## The text as it is read -/

/-- The word of a spelled head stands for the head. -/
theorem commandWord?_spelledHead (hname : isCommandName d.name = true)
    (hentity : ∀ id, entity? = some id → Invocation.IsScope id) :
    g.commandWord? (spelledHead g d entity?).toList =
      some { name := d.name, entity? := entity? } :=
  Invocation.commandWord?_headWord (i := { name := d.name, entity? := entity? }) hname hentity

theorem isBlank_of_mem_spelledHead (hmark : isBlank g.commandMark = false)
    (hname : isCommandName d.name = true)
    (hentity : ∀ id, entity? = some id → Invocation.IsScope id) :
    ∀ c ∈ (spelledHead g d entity?).toList, isBlank c = false :=
  Invocation.isBlank_of_mem_headWord (i := { name := d.name, entity? := entity? }) hmark hname
    hentity

/-- A scope that was read is one that can be written. -/
theorem isScope_of_mem_parse (hmark : isBlank g.commandMark = false) {text : String}
    {i : Invocation} (hi : i ∈ Invocation.parse g text) {id : String} (hid : i.entity? = some id) :
    Invocation.IsScope id := by
  have hhead : i.head ∈ (stretches text.toList).filterMap g.commandWord? := by
    rw [← Invocation.heads_ofWords, ← Invocation.parse_eq_ofWords hmark]
    exact List.mem_map_of_mem hi
  obtain ⟨w, hw, hword⟩ := List.mem_filterMap.1 hhead
  obtain ⟨name, -, -, ⟨-, hnone⟩ | ⟨cs, rfl, hscope⟩⟩ := Grammar.commandWord?_eq_some_iff.1 hword
  · exact absurd (hid.symm.trans hnone) (by simp)
  · split at hscope
    · exact absurd (hid.symm.trans hscope) (by simp)
    · next hcs =>
      obtain rfl : id = String.ofList cs := Option.some.inj (hid.symm.trans hscope)
      refine ⟨fun hnil => hcs (by simpa using hnil), fun c hc => ?_⟩
      rw [String.toList_ofList] at hc
      have hsort := isBlank_eq_of_mem_stretches hw (c := c) (d := g.commandMark) (by simp [hc])
        (by simp)
      rw [hsort, hmark]

/-- A spelled head in front of a text reads as one invocation, followed by those that words of the
text begin. -/
theorem parse_spelledHead_append (hmark : isBlank g.commandMark = false)
    (hname : isCommandName d.name = true)
    (hentity : ∀ id, entity? = some id → Invocation.IsScope id) {tail : String}
    (htail : ∀ c ∈ tail.toList.head?, isBlank c = true) :
    Invocation.parse g (spelledHead g d entity? ++ tail) =
      let cut := cutAtMarks g.commandHead? true tail.toList
      Invocation.ofRegion g { name := d.name, entity? := entity? } cut.1 ::
        cut.2.map fun part => Invocation.ofRegion g part.1 part.2 := by
  have hword := commandWord?_spelledHead (g := g) hname hentity
  have hne : (spelledHead g d entity?).toList ≠ [] := by simp [spelledHead]
  unfold Invocation.parse Invocation.parseChars
  rw [String.toList_append, (Grammar.marksWords_commandHead? hmark).cutAtMarks_first hne
    (isBlank_of_mem_spelledHead hmark hname hentity) htail, hword]
  rfl

/-- A spelled binding reads as the head and what the tail says, followed by the invocations that
words of the tail begin. -/
theorem parse_spell (hmark : isBlank g.commandMark = false) (hname : isCommandName d.name = true)
    (hentity : ∀ id, entity? = some id → Invocation.IsScope id) (b : Binding) :
    Invocation.parse g (b.spell g d entity?) =
      let cut := cutAtMarks g.commandHead? true (b.spelledTail g d).toList
      Invocation.ofRegion g { name := d.name, entity? := entity? } cut.1 ::
        cut.2.map fun part => Invocation.ofRegion g part.1 part.2 := by
  rw [spell_eq]
  exact parse_spelledHead_append hmark hname hentity b.isBlank_head?_spelledTail

/-- The invocation that a spelled binding reads as, when no word of its tail begins another. -/
def reread (g : Grammar) (d : Definition) (entity? : Option String) (b : Binding) : Invocation :=
  Invocation.ofRegion g { name := d.name, entity? := entity? } (b.spelledTail g d).toList

/-- A spelled binding reads as one invocation exactly when no word of its tail begins another. -/
theorem parse_spell_eq_singleton_iff (hmark : isBlank g.commandMark = false)
    (hname : isCommandName d.name = true)
    (hentity : ∀ id, entity? = some id → Invocation.IsScope id) {b : Binding} {i : Invocation} :
    Invocation.parse g (b.spell g d entity?) = [i] ↔
      (∀ s ∈ stretches (b.spelledTail g d).toList, g.commandWord? s = none) ∧
        i = b.reread g d entity? := by
  have hmarks := Grammar.marksWords_commandHead? hmark
  rw [parse_spell hmark hname hentity, ← hmarks.cutAtMarks_snd_eq_nil_iff]
  constructor
  · intro h
    have htail : (cutAtMarks g.commandHead? true (b.spelledTail g d).toList).2 = [] := by
      simpa using (List.cons.inj h).2
    rw [hmarks.cutAtMarks_eq_self (hmarks.cutAtMarks_snd_eq_nil_iff.1 htail)] at h
    exact ⟨htail, (List.cons.inj h).1.symm⟩
  · rintro ⟨htail, rfl⟩
    rw [hmarks.cutAtMarks_eq_self (hmarks.cutAtMarks_snd_eq_nil_iff.1 htail)]
    rfl

/-! ## The round trip -/

/-- Whether a binding comes back from its text: the text reads as one invocation of the command in
the same scope, and binding that yields the same values. -/
def RoundTrips (g : Grammar) (d : Definition) (entity? : Option String) (piped : Bool)
    (b : Binding) : Prop :=
  ∃ i c, Invocation.parse g (b.spell g d entity?) = [i] ∧ i.name = d.name ∧ i.entity? = entity? ∧
    ofInvocation i d piped = .ok c ∧ c.values = b.values

/-- Whether an argument gets its value back from the text that is supplied for it.  Text that is no
value may be dropped, and then the default counts. -/
structure Restores (b : Binding) (a : Argument) (text? : Option String) : Prop where
  value : (text?.bind fun text => Value.coerce? text a.kind a.choices).or a.default? = b.get? a.key
  accepts : ∀ text, text? = some text → Value.coerce? text a.kind a.choices = none →
    a.required = false

/-- What the round trip asks of a binding itself: an argument without a value has no default and may
stay open, and nothing but arguments is bound. -/
structure Covers (d : Definition) (piped : Bool) (b : Binding) : Prop where
  unbound : ∀ a ∈ d.arguments, b.get? a.key = none → MayStayOpen d piped a
  default : ∀ a ∈ d.arguments, b.get? a.key = none → a.default? = none
  undeclared : ∀ k, k ∉ argumentKeys d.arguments → b.get? k = none

theorem Binds.covers {i : Invocation} {b : Binding} (hb : Binds i d piped b) :
    b.Covers d piped where
  unbound a ha := (hb.settled a ha).unbound
  default a ha hnone := (Option.or_eq_none_iff.1 ((hb.settled a ha).value.symm.trans hnone)).2
  undeclared k hk := (hb.undeclared k hk).1

/-- A binding comes back exactly when no word of its tail begins an invocation and every argument
gets its value back from what is read for it. -/
theorem Covers.roundTrips_iff (hmark : isBlank g.commandMark = false) (hd : d.Valid)
    (hentity : ∀ id, entity? = some id → Invocation.IsScope id) {b : Binding}
    (hb : b.Covers d piped) :
    b.RoundTrips g d entity? piped ↔
      (∀ s ∈ stretches (b.spelledTail g d).toList, g.commandWord? s = none) ∧
        ∀ a ∈ d.arguments, b.Restores a (suppliedText? (b.reread g d entity?) d a) := by
  constructor
  · rintro ⟨j, c, hparse, -, -, hbind, hvalues⟩
    obtain ⟨hnone, rfl⟩ := (parse_spell_eq_singleton_iff hmark hd.name hentity).1 hparse
    have hc := binds_of_ofInvocation hd.keys hbind
    refine ⟨hnone, fun a ha => ⟨?_, (hc.settled a ha).accepts⟩⟩
    have hget : c.get? a.key = b.get? a.key := by rw [get?, hvalues, get?]
    exact (hc.settled a ha).value.symm.trans hget
  · rintro ⟨hnone, hrestores⟩
    have hall : ∀ a ∈ d.arguments, Accepts (b.reread g d entity?) d a ∧
        ((readValue? (b.reread g d entity?) d a).or a.default? = none →
          MayStayOpen d piped a) := fun a ha =>
      ⟨(hrestores a ha).accepts, fun hopen =>
        hb.unbound a ha ((hrestores a ha).value.symm.trans hopen)⟩
    obtain ⟨c, hc⟩ := exists_ofInvocation hall
    have hbinds := binds_of_ofInvocation hd.keys hc
    refine ⟨_, c, (parse_spell_eq_singleton_iff hmark hd.name hentity).2 ⟨hnone, rfl⟩, rfl, rfl, hc,
      Dict.ext_get? fun k => ?_⟩
    by_cases hk : k ∈ argumentKeys d.arguments
    · obtain ⟨a, ha, rfl⟩ := List.mem_map.1 hk
      exact (hbinds.settled a ha).value.trans (hrestores a ha).value
    · exact (hbinds.undeclared k hk).1.trans (hb.undeclared k hk).symm

theorem roundTrips_iff (hmark : isBlank g.commandMark = false) (hd : d.Valid)
    (hentity : ∀ id, entity? = some id → Invocation.IsScope id) {i : Invocation} {b : Binding}
    (hb : Binds i d piped b) :
    b.RoundTrips g d entity? piped ↔
      (∀ s ∈ stretches (b.spelledTail g d).toList, g.commandWord? s = none) ∧
        ∀ a ∈ d.arguments, b.Restores a (suppliedText? (b.reread g d entity?) d a) :=
  hb.covers.roundTrips_iff hmark hd hentity

/-! ## Clear texts -/

/-- Whether no word of a text is taken for the beginning of an invocation or a named argument. -/
def IsClear (g : Grammar) (text : String) : Prop :=
  ∀ s ∈ stretches text.toList, g.commandWord? s = none ∧ g.argumentWord? s = none

instance (g : Grammar) (text : String) : Decidable (IsClear g text) :=
  inferInstanceAs (Decidable (∀ s ∈ _, _))

/-- Whether everything that is written of a binding is taken for what it is written as. -/
structure SpelledClearly (g : Grammar) (d : Definition) (b : Binding) : Prop where
  positional : IsClear g (b.positionalText d)
  keys : ∀ e ∈ b.writtenNamed d, isArgumentKey e.1 = true
  texts : ∀ e ∈ b.writtenNamed d, IsClear g e.2

/-- The text that is written for an argument and read again. -/
def writtenText? (b : Binding) (d : Definition) (a : Argument) : Option String :=
  if b.isWrittenNamed d a then (b.get? a.key).map fun v => trim v.render
  else if trim (b.positionalText d) = "" then none
  else some (trim (b.positionalText d))

section Cut

variable {α : Type} {mark? : List Char → Option (α × Nat)} {word? : List Char → Option α}

/-- A text without a mark behind a space is passed over. -/
theorem cutAtMarks_behindSpace (h : MarksWords mark? word?) {text : String}
    (ht : ∀ s ∈ stretches text.toList, word? s = none) {r : List Char}
    (hr : ∀ c ∈ r.head?, isBlank c = true) :
    cutAtMarks mark? true ((behindSpace text).toList ++ r) =
      ((behindSpace text).toList ++ (cutAtMarks mark? true r).1, (cutAtMarks mark? true r).2) := by
  rw [toList_behindSpace]
  split
  · rfl
  · have hgap := h.cutAtMarks_gap true (by simp) isBlank_of_mem_space (text.toList ++ r)
    rw [h.cutAtMarks_append ht hr] at hgap
    exact hgap

/-- The key of a named argument is a mark or is passed over, and the text behind it is passed
over. -/
theorem cutAtMarks_spellArgument (h : MarksWords mark? word?)
    (hmark : isBlank g.argumentMark = false) {key text : String}
    (hkey : isArgumentKey key = true) (ht : ∀ s ∈ stretches text.toList, word? s = none)
    {r : List Char} (hr : ∀ c ∈ r.head?, isBlank c = true) :
    cutAtMarks mark? true ((spellArgument g key text).toList ++ r) =
      match word? (g.argumentMark :: key.toList) with
      | some label =>
        ([' '], (label, (behindSpace text).toList ++ (cutAtMarks mark? true r).1) ::
          (cutAtMarks mark? true r).2)
      | none =>
        (' ' :: ((g.argumentMark :: key.toList) ++
            ((behindSpace text).toList ++ (cutAtMarks mark? true r).1)),
          (cutAtMarks mark? true r).2) := by
  have hword : ∀ c ∈ g.argumentMark :: key.toList, isBlank c = false := by
    rw [List.forall_mem_cons]
    exact ⟨hmark, fun c hc => isBlank_of_mem_argumentKey hkey hc⟩
  have hbehind : ∀ c ∈ ((behindSpace text).toList ++ r).head?, isBlank c = true := by
    have hrest : ∀ c ∈ (String.ofList r).toList.head?, isBlank c = true := by simpa using hr
    simpa using isBlank_head?_behindSpace text hrest
  have hgap := h.cutAtMarks_gap true (by simp) isBlank_of_mem_space
    ((g.argumentMark :: key.toList) ++ ((behindSpace text).toList ++ r))
  rw [h.cutAtMarks_first (by simp) hword hbehind, cutAtMarks_behindSpace h ht hr] at hgap
  rw [toList_spellArgument, List.cons_append, List.append_assoc]
  cases hlabel : word? (g.argumentMark :: key.toList) <;> simpa [hlabel] using hgap

end Cut

theorem trimChars_behindSpace (text : String) {p : List Char} (hp : ∀ c ∈ p, isBlank c = true) :
    trimChars ((behindSpace text).toList ++ p) = trimChars text.toList := by
  rw [toList_behindSpace]
  split
  · next hnil =>
    have htrim := trimChars_append hp [] (c := []) (by simp)
    simpa [hnil] using htrim
  · exact trimChars_append isBlank_of_mem_space text.toList hp

/-- A plain text with nothing but blanks between it and the named arguments is the positional text
of an invocation. -/
theorem ofRegion_behindSpace_append (head : CommandHead) {text : String}
    (hplain : Invocation.IsPlain g text) {p : List Char} (hgap : ∀ c ∈ p.head?, isBlank c = true)
    (hfront : ∀ c ∈ (cutAtMarks g.argumentKey? true p).1, isBlank c = true) :
    Invocation.ofRegion g head ((behindSpace text).toList ++ p) =
      { Invocation.ofRegion g head p with positional := text } := by
  unfold Invocation.ofRegion
  rw [cutAtMarks_behindSpace (Grammar.marksWords_argumentKey? g) (fun s hs => (hplain.2 s hs).2)
    hgap]
  simp only [trimChars_behindSpace text hfront, hplain.1, String.ofList_toList]

/-- Named arguments that are written clearly begin no invocation. -/
theorem commandMarks_spellArguments (hcommand : isBlank g.commandMark = false)
    (hargument : isBlank g.argumentMark = false) (hdistinct : g.commandMark ≠ g.argumentMark)
    {es : List (String × String)} (hkeys : ∀ e ∈ es, isArgumentKey e.1 = true)
    (htexts : ∀ e ∈ es, IsClear g e.2) :
    (cutAtMarks g.commandHead? true
      (String.join (es.map fun e => spellArgument g e.1 e.2)).toList).2 = [] := by
  induction es with
  | nil => rfl
  | cons e es ih =>
    obtain ⟨hkey, hkeys⟩ := List.forall_mem_cons.1 hkeys
    obtain ⟨htext, htexts⟩ := List.forall_mem_cons.1 htexts
    have hnone : g.commandWord? (g.argumentMark :: e.1.toList) = none := if_neg hdistinct.symm
    rw [List.map_cons, String.join_cons, String.toList_append,
      cutAtMarks_spellArgument (Grammar.marksWords_commandHead? hcommand) hargument hkey
        (fun s hs => (htext s hs).1) (isBlank_head?_spellArguments es), hnone]
    exact ih hkeys htexts

/-- Named arguments that are written clearly read as their keys and trimmed texts, and blanks behind
them make no difference. -/
theorem argumentMarks_spellArguments (hargument : isBlank g.argumentMark = false)
    {es : List (String × String)} (hkeys : ∀ e ∈ es, isArgumentKey e.1 = true)
    (htexts : ∀ e ∈ es, IsClear g e.2) {p : List Char} (hp : ∀ c ∈ p, isBlank c = true) :
    let cut := cutAtMarks g.argumentKey? true
      ((String.join (es.map fun e => spellArgument g e.1 e.2)).toList ++ p)
    (∀ c ∈ cut.1, isBlank c = true) ∧
      cut.2.map (fun part => (part.1, String.ofList (trimChars part.2))) =
        es.map fun e => (e.1, trim e.2) := by
  induction es with
  | nil =>
    have hcut := (Grammar.marksWords_argumentKey? g).cutAtMarks_eq_self
      (t := p) fun s hs => (Grammar.marksWords_argumentKey? g).gap s (List.all_eq_true.2 fun c hc =>
        hp c (mem_of_mem_stretches hs hc))
    simpa [hcut] using hp
  | cons e es ih =>
    obtain ⟨hkey, hkeys⟩ := List.forall_mem_cons.1 hkeys
    obtain ⟨htext, htexts⟩ := List.forall_mem_cons.1 htexts
    obtain ⟨hblank, hparts⟩ := ih hkeys htexts
    have hsome : g.argumentWord? (g.argumentMark :: e.1.toList) = some e.1 :=
      Grammar.argumentWord?_eq_some_iff.2 ⟨rfl, hkey⟩
    rw [List.map_cons, String.join_cons, String.toList_append, List.append_assoc,
      cutAtMarks_spellArgument (Grammar.marksWords_argumentKey? g) hargument hkey
        (fun s hs => (htext s hs).2) (isBlank_head?_append (isBlank_head?_spellArguments es) hp),
      hsome]
    refine ⟨isBlank_of_mem_space, ?_⟩
    simp only [List.map_cons, hparts, trimChars_behindSpace e.2 hblank]
    rfl

/-- No word of the tail of a clearly spelled binding begins an invocation. -/
theorem SpelledClearly.commandWord?_eq_none {b : Binding} (h : b.SpelledClearly g d)
    (hcommand : isBlank g.commandMark = false) (hargument : isBlank g.argumentMark = false)
    (hdistinct : g.commandMark ≠ g.argumentMark) :
    ∀ s ∈ stretches (b.spelledTail g d).toList, g.commandWord? s = none := by
  have hmarks := Grammar.marksWords_commandHead? hcommand
  rw [← hmarks.cutAtMarks_snd_eq_nil_iff, spelledTail, String.toList_append,
    cutAtMarks_behindSpace hmarks (fun s hs => (h.positional s hs).1)
      (isBlank_head?_spellArguments _)]
  exact commandMarks_spellArguments hcommand hargument hdistinct h.keys h.texts

/-- A clearly spelled binding reads as its trimmed texts. -/
theorem SpelledClearly.reread {b : Binding} (h : b.SpelledClearly g d)
    (hargument : isBlank g.argumentMark = false) (entity? : Option String) :
    (b.reread g d entity?).positional = trim (b.positionalText d) ∧
      (b.reread g d entity?).named =
        Dict.ofList ((b.writtenNamed d).map fun e => (e.1, trim e.2)) := by
  obtain ⟨hblank, hparts⟩ :=
    argumentMarks_spellArguments hargument h.keys h.texts (p := []) (by simp)
  rw [List.append_nil] at hblank hparts
  unfold Binding.reread Invocation.ofRegion
  rw [spelledTail, String.toList_append,
    cutAtMarks_behindSpace (Grammar.marksWords_argumentKey? g) (fun s hs => (h.positional s hs).2)
      (isBlank_head?_spellArguments _)]
  refine ⟨?_, by simp only [hparts]⟩
  simp only [trimChars_behindSpace _ hblank]
  rfl

/-- Of texts under the keys of arguments, each argument finds its own. -/
theorem lookup_filterMap_key {arguments : List Argument} (hkeys : (argumentKeys arguments).Nodup)
    (text? : Argument → Option String) {a : Argument} (ha : a ∈ arguments) :
    (arguments.filterMap fun x => (text? x).map fun t => (x.key, t)).lookup a.key = text? a := by
  induction arguments with
  | nil => simp at ha
  | cons x rest ih =>
    obtain ⟨hnew, hrest⟩ := List.nodup_cons.1 hkeys
    rw [List.filterMap_cons]
    rcases List.mem_cons.1 ha with rfl | ha
    · cases htext : text? a with
      | some t => simp
      | none =>
        simp only [Option.map_none, List.lookup_eq_none_iff]
        intro e he
        obtain ⟨y, hy, hey⟩ := List.mem_filterMap.1 he
        obtain ⟨t, -, rfl⟩ := Option.map_eq_some_iff.1 hey
        have hne : a.key ≠ y.key := fun heq => hnew (heq ▸ List.mem_map_of_mem hy)
        simpa using hne
    · have hne : a.key ≠ x.key := fun heq => hnew (heq ▸ List.mem_map_of_mem ha)
      cases text? x with
      | some t =>
        simp only [Option.map_some]
        rw [Dict.lookup_cons_of_ne hne]
        exact ih hrest ha
      | none => exact ih hrest ha

/-- The named arguments of a clearly spelled binding are the ones that are written. -/
theorem get?_written {b : Binding} (hkeys : (argumentKeys d.arguments).Nodup) {a : Argument}
    (ha : a ∈ d.arguments) :
    (Dict.ofList ((b.writtenNamed d).map fun e => (e.1, trim e.2))).get? a.key =
      if b.isWrittenNamed d a then (b.get? a.key).map fun v => trim v.render else none := by
  have hwritten : (b.writtenNamed d).map (fun e => (e.1, trim e.2)) =
      d.arguments.filterMap fun x =>
        (if b.isWrittenNamed d x then (b.get? x.key).map fun v => trim v.render else none).map
          fun t => (x.key, t) := by
    unfold writtenNamed
    rw [List.map_filterMap]
    congr 1
    funext x
    split
    · rw [Option.map_map, Option.map_map]
      rfl
    · rfl
  have hreverse : (argumentKeys d.arguments.reverse).Nodup := by
    rw [argumentKeys, List.map_reverse, List.nodup_reverse]
    exact hkeys
  rw [Dict.get?_ofList, hwritten, ← List.filterMap_reverse,
    lookup_filterMap_key hreverse _ (List.mem_reverse.2 ha)]

/-- The text of the default key is that of its value. -/
theorem defaultText?_eq {b : Binding} {a : Argument} (hkey : d.isDefaultKey a.key = true) :
    b.defaultText? d = (b.get? a.key).map Value.render := by
  rw [defaultText?, Definition.isDefaultKey_iff.1 hkey, Option.bind_some]

/-- The default key is written without its key, unless its text is empty. -/
theorem exists_value_of_isWrittenNamed {b : Binding} {a : Argument}
    (hkey : d.isDefaultKey a.key = true) (h : b.isWrittenNamed d a = true) :
    ∃ v, b.get? a.key = some v := by
  have htext : b.defaultText? d = some "" := by simpa [isWrittenNamed, hkey] using h
  rw [defaultText?_eq hkey, Option.map_eq_some_iff] at htext
  obtain ⟨v, hv, -⟩ := htext
  exact ⟨v, hv⟩

/-- No other key is written that way. -/
theorem isDefaultKey_of_isWrittenNamed_eq_false {b : Binding} {a : Argument}
    (h : b.isWrittenNamed d a = false) : d.isDefaultKey a.key = true := by
  unfold isWrittenNamed at h
  simpa using (Bool.or_eq_false_iff.1 h).1

/-- From a clearly spelled binding every argument gets the text that is written for it. -/
theorem suppliedText?_reread {b : Binding} (h : b.SpelledClearly g d)
    (hargument : isBlank g.argumentMark = false) (hkeys : (argumentKeys d.arguments).Nodup)
    {a : Argument} (ha : a ∈ d.arguments) :
    suppliedText? (b.reread g d entity?) d a = b.writtenText? d a := by
  obtain ⟨hpositional, hnamed⟩ := h.reread hargument entity?
  unfold suppliedText? writtenText?
  rw [hnamed, get?_written hkeys ha, hpositional]
  cases hwritten : b.isWrittenNamed d a with
  | true =>
    cases hvalue : b.get? a.key with
    | some v => simp
    | none =>
      have hkey : d.isDefaultKey a.key = false := by
        cases hdefault : d.isDefaultKey a.key with
        | false => rfl
        | true =>
          obtain ⟨v, hv⟩ := exists_value_of_isWrittenNamed hdefault hwritten
          rw [hvalue] at hv
          exact absurd hv (by simp)
      simp [hkey]
  | false =>
    have hkey := isDefaultKey_of_isWrittenNamed_eq_false hwritten
    by_cases htext : trim (b.positionalText d) = "" <;> simp [hkey, htext]

/-! ## Typed values and defaults -/

/-- The texts of an invocation that was read are trimmed. -/
theorem trim_suppliedText? {text : String} {i : Invocation} (hi : i ∈ Invocation.parse g text)
    {a : Argument} {t : String} (ht : suppliedText? i d a = some t) : trim t = t := by
  obtain ⟨part, -, rfl⟩ := List.mem_map.1 hi
  rw [Invocation.ofRegion_eq_ofHead] at ht
  unfold suppliedText? at ht
  cases hnamed : (Invocation.ofHead g part.1 part.2).named.get? a.key with
  | some typed =>
    obtain rfl : typed = t := by simpa [hnamed] using ht
    rw [Invocation.get?_named_ofHead, Option.map_eq_some_iff] at hnamed
    obtain ⟨cs, -, rfl⟩ := hnamed
    exact trim_ofList_trimChars cs
  | none =>
    simp only [hnamed] at ht
    split at ht
    · obtain rfl := Option.some.inj ht
      exact trim_ofList_trimChars _
    · exact absurd ht (by simp)

/-- For a trimmed value its own text is written.  An open default key must not find a text that was
left over. -/
theorem writtenText?_eq {b : Binding} {a : Argument}
    (htrim : ∀ v, b.get? a.key = some v → trim v.render = v.render)
    (hopen : d.isDefaultKey a.key = true → b.get? a.key = none → b.positional = "") :
    b.writtenText? d a = (b.get? a.key).map Value.render := by
  unfold writtenText?
  cases hget : b.get? a.key with
  | none =>
    cases hwritten : b.isWrittenNamed d a with
    | true => rfl
    | false =>
      have hkey := isDefaultKey_of_isWrittenNamed_eq_false hwritten
      have hpositional : b.positionalText d = "" := by
        rw [positionalText, defaultText?_eq hkey, hget]
        exact hopen hkey hget
      rw [hpositional]
      rfl
  | some v =>
    cases hwritten : b.isWrittenNamed d a with
    | true => simp [htrim v hget]
    | false =>
      have hkey := isDefaultKey_of_isWrittenNamed_eq_false hwritten
      have hsome : b.defaultText? d = some v.render := by rw [defaultText?_eq hkey, hget]; rfl
      have hne : v.render ≠ "" := by
        intro hnil
        rw [hnil] at hsome
        simp [isWrittenNamed, hsome] at hwritten
      have hpositional : b.positionalText d = v.render := by
        rw [positionalText, hsome]
        rfl
      simp [hpositional, htrim v hget, hne]

/-- An argument gets its value back from a clear text if the value is read back from its text and
has no blanks around it. -/
theorem restores_writtenText? {b : Binding} (hb : b.Covers d piped) {a : Argument}
    (ha : a ∈ d.arguments)
    (hvalue : ∀ v, b.get? a.key = some v →
      trim v.render = v.render ∧ Value.coerce? v.render a.kind a.choices = some v)
    (hopen : d.isDefaultKey a.key = true → b.get? a.key = none → b.positional = "") :
    b.Restores a (b.writtenText? d a) := by
  rw [writtenText?_eq (fun v hv => (hvalue v hv).1) hopen]
  cases hget : b.get? a.key with
  | none => exact ⟨by simp [hb.default a ha hget, hget], by simp⟩
  | some v =>
    have hcoerce := (hvalue v hget).2
    refine ⟨by simp [hcoerce, hget], fun t ht hnone => ?_⟩
    obtain rfl : v.render = t := by simpa using ht
    cases hcoerce.symm.trans hnone

/-- What the user typed comes back, and so does a default without blanks around it, where nothing is
taken for a mark, every kind is faithful, and no text is left over for an open default key. -/
theorem roundTrips_of_trimmed_defaults (hcommand : isBlank g.commandMark = false)
    (hargument : isBlank g.argumentMark = false) (hdistinct : g.commandMark ≠ g.argumentMark)
    (hcheck : d.check = .ok ()) {text : String} {i : Invocation} {b : Binding}
    (hi : (Invocation.parse g text).head? = some i) (hb : ofInvocation i d piped = .ok b)
    (hclear : b.SpelledClearly g d) (hkinds : ∀ a ∈ d.arguments, a.kind.isFaithful = true)
    (hdefaults : ∀ a ∈ d.arguments, ∀ v, a.default? = some v → trim v.render = v.render)
    (hopen : ∀ a ∈ d.arguments, d.isDefaultKey a.key = true → b.get? a.key = none →
      b.positional = "") :
    b.RoundTrips g d i.entity? piped := by
  have hd := Definition.check_eq_ok_iff.1 hcheck
  have hmem := List.mem_of_head? hi
  have hbinds := binds_of_ofInvocation hd.keys hb
  have hnone := hclear.commandWord?_eq_none hcommand hargument hdistinct
  rw [roundTrips_iff hcommand hd (fun id hid => isScope_of_mem_parse hcommand hmem hid) hbinds]
  refine ⟨hnone, fun a ha => ?_⟩
  rw [suppliedText?_reread hclear hargument hd.keys ha]
  refine restores_writtenText? hbinds.covers ha (fun v hv => ?_) (hopen a ha)
  rw [(hbinds.settled a ha).value] at hv
  rcases Option.or_eq_some_iff.1 hv with hread | ⟨-, hdefault⟩
  · obtain ⟨t, hsupplied, hcoerce⟩ := Option.bind_eq_some_iff.1 hread
    have hkind := Value.kind_of_coerce? hcoerce
    have htrim := trim_suppliedText? hmem hsupplied
    refine ⟨Value.trim_render_of_coerce? htrim (hkinds a ha) hcoerce, ?_⟩
    rw [← hkind]
    exact Value.coerce?_render (hkind ▸ hkinds a ha) _
  · have hkind := (hd.arguments a ha).default v hdefault
    refine ⟨hdefaults a ha v hdefault, ?_⟩
    rw [← hkind]
    exact Value.coerce?_render (hkind ▸ hkinds a ha) _

/-! ## The result -/

/-- When the text that is written for a binding restores it.  In general one looks at what the whole
text is read as.  Where nothing in it is taken for a mark, one looks at every argument alone: the
trimmed text of its value has to read as the value. -/
theorem spelling_restores_exactly (hcommand : isBlank g.commandMark = false)
    (hargument : isBlank g.argumentMark = false) (hdistinct : g.commandMark ≠ g.argumentMark)
    (hcheck : d.check = .ok ()) {text : String} {i : Invocation} {b : Binding}
    (hi : (Invocation.parse g text).head? = some i) (hb : ofInvocation i d piped = .ok b) :
    (b.RoundTrips g d i.entity? piped ↔
        (∀ s ∈ stretches (b.spelledTail g d).toList, g.commandWord? s = none) ∧
          ∀ a ∈ d.arguments, b.Restores a (suppliedText? (b.reread g d i.entity?) d a)) ∧
      (b.SpelledClearly g d →
        (b.RoundTrips g d i.entity? piped ↔
          ∀ a ∈ d.arguments, b.Restores a (b.writtenText? d a))) := by
  have hd := Definition.check_eq_ok_iff.1 hcheck
  have hbinds := binds_of_ofInvocation hd.keys hb
  have hiff := roundTrips_iff hcommand hd
    (fun id hid => isScope_of_mem_parse hcommand (List.mem_of_head? hi) hid) hbinds
  refine ⟨hiff, fun hclear => ?_⟩
  have hnone := hclear.commandWord?_eq_none hcommand hargument hdistinct
  have hsupplied : (∀ a ∈ d.arguments,
        b.Restores a (suppliedText? (b.reread g d i.entity?) d a)) ↔
      ∀ a ∈ d.arguments, b.Restores a (b.writtenText? d a) :=
    forall₂_congr fun a ha => by rw [suppliedText?_reread hclear hargument hd.keys ha]
  rw [hiff, hsupplied]
  exact and_iff_right hnone

/-- `echo` with a text that the user typed. -/
def echoed : Binding where
  values := Dict.ofList [("text", .text "hi - there")]
  explicit := Dict.ofList [("text", ())]

/-- The text of `echo` comes back. -/
theorem spelling_restores_exactly_echo :
    isBlank ({} : Grammar).commandMark = false ∧ isBlank ({} : Grammar).argumentMark = false ∧
      ({} : Grammar).commandMark ≠ ({} : Grammar).argumentMark ∧
      Builtin.echoCommand.definition.check = .ok () ∧
      (Invocation.parse {} "%echo hi - there").head? =
        some { name := "echo", positional := "hi - there" } ∧
      ofInvocation { name := "echo", positional := "hi - there" } Builtin.echoCommand.definition
        false = .ok echoed ∧
      echoed.SpelledClearly {} Builtin.echoCommand.definition ∧
      echoed.RoundTrips {} Builtin.echoCommand.definition none false := by
  have hcommand : isBlank ({} : Grammar).commandMark = false := by decide
  have hargument : isBlank ({} : Grammar).argumentMark = false := by decide
  have hdistinct : ({} : Grammar).commandMark ≠ ({} : Grammar).argumentMark := by decide
  have hcheck : Builtin.echoCommand.definition.check = .ok () := by decide
  have hi : (Invocation.parse {} "%echo hi - there").head? =
      some { name := "echo", positional := "hi - there" } := by decide
  have hb : ofInvocation { name := "echo", positional := "hi - there" }
      Builtin.echoCommand.definition false = .ok echoed := by rfl
  have hclear : echoed.SpelledClearly {} Builtin.echoCommand.definition :=
    ⟨by decide, by decide, by decide⟩
  have hexact := spelling_restores_exactly hcommand hargument hdistinct hcheck hi hb
  refine ⟨hcommand, hargument, hdistinct, hcheck, hi, hb, hclear, (hexact.2 hclear).2 ?_⟩
  intro a ha
  obtain rfl : a = Builtin.textArgument := List.mem_singleton.1 ha
  refine ⟨by decide, fun text _ hnone => ?_⟩
  exact absurd hnone (by simp [Value.coerce?, Builtin.textArgument])

/-- `repeat` with its text typed and everything else by default. -/
def repeated : Binding where
  values := Dict.ofList [("text", .text "hi"), ("times", .integer 2), ("separator", .text " ")]
  explicit := Dict.ofList [("text", ())]

/-- The separator of `repeat` is a space by default, and reads as no text at all. -/
theorem spelling_loses_the_separator :
    Builtin.repeatCommand.definition.check = .ok () ∧
      (Invocation.parse {} "%repeat hi").head? =
        some { name := "repeat", positional := "hi" } ∧
      ofInvocation { name := "repeat", positional := "hi" } Builtin.repeatCommand.definition false =
        .ok repeated ∧
      ¬repeated.RoundTrips {} Builtin.repeatCommand.definition none false := by
  refine ⟨by decide, by decide, by rfl, ?_⟩
  rintro ⟨i, c, hparse, -, -, hbind, hvalues⟩
  have hread : Invocation.parse {} (repeated.spell {} Builtin.repeatCommand.definition none) =
      [{ name := "repeat", positional := "hi"
         named := Dict.ofList [("times", "2"), ("separator", "")] }] := by decide +kernel
  obtain rfl := (List.cons.inj (hread.symm.trans hparse)).1
  have hseparator : (c.values.get? "separator") = some (.text " ") := by rw [hvalues]; rfl
  have hsettled := (binds_of_ofInvocation (by decide) hbind).settled
    { key := "separator", kind := .text, default? := some (.text " ") } (by decide)
  have hvalue := hsettled.value.symm.trans hseparator
  exact absurd hvalue (by decide)

end Binding

end ChatChain
