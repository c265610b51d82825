import ChatChain.Proofs.Spelling
import ChatChain.Proofs.Text.Words

/-!
# The two ways to write the default key

The text for the default key of a command may be written right behind its name, or as a named
argument.  The reader takes the two apart in different ways, and the binder looks for them in
different places.  This module proves that they mean the same.

There are three groups.

* Binding.  `ofInvocation_of_default` says that a positional text and the same text under the
  default key bind to the same result.
* Reading.  `Follows` says what may stand behind the text, and `parse_positionalSpelling` and
  `parse_namedSpelling` say how each way reads.
* The result.  `default_key_spellings_agree` puts the two together.
-/

namespace ChatChain.Binding

open Text

variable {g : Grammar} {d : Definition} {piped : Bool} {key text : String}

/-! ## Binding -/

section Binding

variable {i : Invocation} (hkey : d.defaultKey? = some key) (htext : text ≠ "")
  (hpositional : i.positional = "") (hfree : i.named.get? key = none)

include hkey htext hpositional hfree

/-- Every argument gets the same text, wherever that of the default key is written. -/
theorem suppliedText?_of_default (a : Argument) :
    suppliedText? { i with positional := text } d a =
      suppliedText? { i with named := i.named.insert key text } d a := by
  unfold suppliedText?
  simp only [Dict.get?_insert, hpositional]
  by_cases ha : a.key = key
  · simp [ha, hfree, Definition.isDefaultKey, hkey, htext]
  · have hother : d.isDefaultKey a.key = false := by
      simpa [Definition.isDefaultKey, hkey] using Ne.symm ha
    simp [ha, hother]

/-- A positional text binds to the same result as the same text under the default key. -/
theorem ofInvocation_of_default (hdeclared : key ∈ argumentKeys d.arguments) :
    ofInvocation { i with positional := text } d piped =
      ofInvocation { i with named := i.named.insert key text } d piped := by
  have hbound : d.arguments.foldlM (bindArgument { i with positional := text } d piped) {} =
      d.arguments.foldlM (bindArgument { i with named := i.named.insert key text } d piped) {} :=
    Fallible.foldlM_congr_of_mem (fun a _ b => bindArgument_congr
      (suppliedText?_of_default hkey htext hpositional hfree a) rfl rfl b) {}
  have htakes : takesPositional { i with positional := text } d = true := by
    obtain ⟨a, ha, rfl⟩ := List.mem_map.1 hdeclared
    refine List.any_eq_true.2 ⟨a, ha, ?_⟩
    simp [Definition.isDefaultKey, hkey, hfree, htext]
  unfold ofInvocation
  simp only [hbound, htakes, hpositional, if_true, ite_self]

end Binding

/-! ## Reading -/

/-- Whether a text may stand behind that of the default key.  It is kept apart by a blank, if it is
not empty; its first word begins a named argument; and no word of it begins an invocation, or a
named argument with the default key. -/
structure Follows (g : Grammar) (key rest : String) : Prop where
  gap : ∀ c ∈ rest.toList.head?, isBlank c = true
  first : ∀ w ∈ (words rest.toList).head?, (g.argumentWord? w).isSome = true
  heads : ∀ w ∈ words rest.toList, g.commandWord? w = none
  keys : ∀ w ∈ words rest.toList, g.argumentWord? w ≠ some key

namespace Follows

variable {rest : String} (h : Follows g key rest)

include h

theorem commandWord?_eq_none (hmark : isBlank g.commandMark = false) :
    ∀ s ∈ stretches rest.toList, g.commandWord? s = none := by
  intro s hs
  cases hgap : isGap s with
  | true => exact (Grammar.marksWords_commandHead? hmark).gap s hgap
  | false => exact h.heads s (List.mem_filter.2 ⟨hs, by simp [hgap]⟩)

/-- Only blanks stand in front of the first named argument. -/
theorem isBlank_of_mem_front :
    ∀ c ∈ (cutAtMarks g.argumentKey? true rest.toList).1, isBlank c = true :=
  (Grammar.marksWords_argumentKey? g).forall_isBlank_iff.2 h.first

/-- No named argument of the text has the default key. -/
theorem get?_named_eq_none (head : CommandHead) :
    (Invocation.ofRegion g head rest.toList).named.get? key = none := by
  rw [Invocation.ofRegion_eq_ofHead, Invocation.get?_named_ofHead, Option.map_eq_none_iff,
    List.lookup_eq_none_iff]
  intro part hpart
  have hmem : part.1 ∈ (stretches rest.toList).filterMap g.argumentWord? := by
    rw [← map_fst_cutAtWords]
    exact List.mem_map_of_mem (List.mem_reverse.1 hpart)
  obtain ⟨s, hs, hword⟩ := List.mem_filterMap.1 hmem
  have hgap : isGap s = false := by
    cases hgap : isGap s with
    | false => rfl
    | true => exact absurd ((Grammar.marksWords_argumentKey? g).gap s hgap) (by simp [hword])
  have hother := h.keys s (List.mem_filter.2 ⟨hs, by simp [hgap]⟩)
  simpa using fun hsame : key = part.1 => hother (hsame ▸ hword)

theorem positional_eq (head : CommandHead) :
    (Invocation.ofRegion g head rest.toList).positional = "" := by
  have htrim := trimChars_append (b := []) (t := []) (by simp) h.isBlank_of_mem_front
  simp only [Invocation.ofRegion]
  simpa using htrim

/-- A plain text behind the default key in front is one more named argument. -/
theorem ofRegion_spellArgument_append (head : CommandHead)
    (hargument : isBlank g.argumentMark = false) (hvalid : isArgumentKey key = true)
    (hplain : Invocation.IsPlain g text) :
    Invocation.ofRegion g head ((spellArgument g key text).toList ++ rest.toList) =
      { Invocation.ofRegion g head rest.toList with
        named := (Invocation.ofRegion g head rest.toList).named.insert key text } := by
  have hword : g.argumentWord? (g.argumentMark :: key.toList) = some key :=
    Grammar.argumentWord?_eq_some_iff.2 ⟨rfl, hvalid⟩
  have hcut := cutAtMarks_spellArgument (Grammar.marksWords_argumentKey? g) hargument hvalid
    (fun s hs => (hplain.2 s hs).2) h.gap
  rw [hword] at hcut
  have hpositional := h.positional_eq head
  have hfree := h.get?_named_eq_none head
  unfold Invocation.ofRegion at hpositional hfree ⊢
  simp only at hpositional hfree
  simp only [hcut, List.map_cons, trimChars_behindSpace text h.isBlank_of_mem_front, hplain.1,
    String.ofList_toList, hpositional, Invocation.mk.injEq, true_and]
  refine ⟨by decide, Dict.ext_get? fun k => ?_⟩
  rw [Dict.get?_ofList] at hfree
  rw [Dict.get?_insert, Dict.get?_ofList, Dict.get?_ofList, List.reverse_cons, List.lookup_append]
  by_cases hk : k = key
  · simp [hk, hfree]
  · simp [hk]

end Follows

/-- A command with the text of its default key right behind its name. -/
def positionalSpelling (g : Grammar) (name text rest : String) : String :=
  String.singleton g.commandMark ++ name ++ " " ++ text ++ rest

/-- A command with the text of its default key as a named argument. -/
def namedSpelling (g : Grammar) (name key text rest : String) : String :=
  String.singleton g.commandMark ++ name ++ " " ++ String.singleton g.argumentMark ++ key ++ " " ++
    text ++ rest

/-- A text without heads behind the name of a command belongs to it. -/
theorem parse_spelledHead_append_eq_singleton (hmark : isBlank g.commandMark = false)
    (hname : isCommandName d.name = true) {tail : String}
    (hgap : ∀ c ∈ tail.toList.head?, isBlank c = true)
    (hcut : (cutAtMarks g.commandHead? true tail.toList).2 = []) :
    Invocation.parse g (spelledHead g d none ++ tail) =
      [Invocation.ofRegion g { name := d.name, entity? := none } tail.toList] := by
  have hmarks := Grammar.marksWords_commandHead? hmark
  rw [parse_spelledHead_append hmark hname (by simp) hgap,
    hmarks.cutAtMarks_eq_self (hmarks.cutAtMarks_snd_eq_nil_iff.1 hcut)]
  rfl

section Reading

variable {rest : String} (hcommand : isBlank g.commandMark = false)
  (hname : isCommandName d.name = true) (htext : text ≠ "") (hplain : Invocation.IsPlain g text)
  (h : Follows g key rest)

include hcommand hname htext hplain h

theorem parse_positionalSpelling :
    Invocation.parse g (positionalSpelling g d.name text rest) =
      [{ Invocation.ofRegion g { name := d.name, entity? := none } rest.toList with
         positional := text }] := by
  have hmarks := Grammar.marksWords_commandHead? hcommand
  have hsplit : positionalSpelling g d.name text rest =
      spelledHead g d none ++ (behindSpace text ++ rest) := by
    simp [positionalSpelling, spelledHead, behindSpace, htext, String.append_assoc]
  have hcut : (cutAtMarks g.commandHead? true (behindSpace text ++ rest).toList).2 = [] := by
    rw [String.toList_append, cutAtMarks_behindSpace hmarks (fun s hs => (hplain.2 s hs).1) h.gap]
    exact hmarks.cutAtMarks_snd_eq_nil_iff.2 (h.commandWord?_eq_none hcommand)
  rw [hsplit, parse_spelledHead_append_eq_singleton hcommand hname
    (isBlank_head?_behindSpace text h.gap) hcut, String.toList_append,
    ofRegion_behindSpace_append _ hplain h.gap h.isBlank_of_mem_front]

theorem parse_namedSpelling (hargument : isBlank g.argumentMark = false)
    (hdistinct : g.commandMark ≠ g.argumentMark) (hvalid : isArgumentKey key = true) :
    Invocation.parse g (namedSpelling g d.name key text rest) =
      [{ Invocation.ofRegion g { name := d.name, entity? := none } rest.toList with
         named := (Invocation.ofRegion g { name := d.name, entity? := none }
           rest.toList).named.insert key text }] := by
  have hmarks := Grammar.marksWords_commandHead? hcommand
  have hsplit : namedSpelling g d.name key text rest =
      spelledHead g d none ++ (spellArgument g key text ++ rest) := by
    refine String.toList_inj.1 ?_
    simp [namedSpelling, spelledHead, spellArgument, htext]
  have hgap : ∀ c ∈ (spellArgument g key text ++ rest).toList.head?, isBlank c = true := by
    intro c hc
    rw [String.toList_append, toList_spellArgument] at hc
    obtain rfl : ' ' = c := by simpa using hc
    decide
  have hcut :
      (cutAtMarks g.commandHead? true (spellArgument g key text ++ rest).toList).2 = [] := by
    have hnone : g.commandWord? (g.argumentMark :: key.toList) = none := if_neg hdistinct.symm
    rw [String.toList_append, cutAtMarks_spellArgument hmarks hargument hvalid
      (fun s hs => (hplain.2 s hs).1) h.gap, hnone]
    exact hmarks.cutAtMarks_snd_eq_nil_iff.2 (h.commandWord?_eq_none hcommand)
  rw [hsplit, parse_spelledHead_append_eq_singleton hcommand hname hgap hcut, String.toList_append,
    h.ofRegion_spellArgument_append _ hargument hvalid hplain]

end Reading

/-! ## The result -/

/-- The text for the default key may be written right behind the name of a command or as a named
argument.  Either way one invocation is read, with the same other arguments, and both bind to the
same result, be it a binding or an error. -/
theorem default_key_spellings_agree (hcommand : isBlank g.commandMark = false)
    (hargument : isBlank g.argumentMark = false) (hdistinct : g.commandMark ≠ g.argumentMark)
    (hcheck : d.check = .ok ()) (hkey : d.defaultKey? = some key)
    (hvalid : isArgumentKey key = true) (htext : text ≠ "") (hplain : Invocation.IsPlain g text)
    {rest : String} (hrest : Follows g key rest) :
    ∃ i j, Invocation.parse g (positionalSpelling g d.name text rest) = [i] ∧
      Invocation.parse g (namedSpelling g d.name key text rest) = [j] ∧
      i.head = { name := d.name, entity? := none } ∧ j.head = i.head ∧
      i.positional = text ∧ j.positional = "" ∧ i.named.get? key = none ∧
      j.named = i.named.insert key text ∧
      ∀ piped, ofInvocation i d piped = ofInvocation j d piped := by
  have hd := Definition.check_eq_ok_iff.1 hcheck
  have hdeclared : key ∈ argumentKeys d.arguments := by
    obtain ⟨a, ha⟩ := hd.defaultKey key hkey
    obtain ⟨hmem, rfl⟩ := Definition.argument?_eq_some ha
    exact List.mem_map_of_mem hmem
  have hpositional := hrest.positional_eq { name := d.name, entity? := none }
  have hfree := hrest.get?_named_eq_none { name := d.name, entity? := none }
  exact ⟨_, _, parse_positionalSpelling hcommand hd.name htext hplain hrest,
    parse_namedSpelling hcommand hd.name htext hplain hrest hargument hdistinct hvalid, rfl, rfl,
    rfl, hpositional, hfree, rfl, fun piped =>
      ofInvocation_of_default hkey htext hpositional hfree hdeclared⟩

/-- What `%repeat hi - there -times 3` binds to. -/
def repeatedThrice : Binding where
  values :=
    Dict.ofList [("text", .text "hi - there"), ("times", .integer 3), ("separator", .text " ")]
  explicit := Dict.ofList [("text", ()), ("times", ())]

/-- `repeat` binds to the same result with its text in front and with its text under the key. -/
theorem repeat_binds_either_way :
    isBlank ({} : Grammar).commandMark = false ∧ isBlank ({} : Grammar).argumentMark = false ∧
      ({} : Grammar).commandMark ≠ ({} : Grammar).argumentMark ∧
      Builtin.repeatCommand.definition.check = .ok () ∧
      Builtin.repeatCommand.definition.defaultKey? = some "text" ∧ isArgumentKey "text" = true ∧
      "hi - there" ≠ "" ∧ Invocation.IsPlain {} "hi - there" ∧ Follows {} "text" " -times 3" ∧
      ∃ i j, Invocation.parse {} "%repeat hi - there -times 3" = [i] ∧
        Invocation.parse {} "%repeat -text hi - there -times 3" = [j] ∧
        ofInvocation i Builtin.repeatCommand.definition true = .ok repeatedThrice ∧
        ofInvocation j Builtin.repeatCommand.definition true = .ok repeatedThrice := by
  have hcommand : isBlank ({} : Grammar).commandMark = false := by decide
  have hargument : isBlank ({} : Grammar).argumentMark = false := by decide
  have hdistinct : ({} : Grammar).commandMark ≠ ({} : Grammar).argumentMark := by decide
  have hcheck : Builtin.repeatCommand.definition.check = .ok () := by decide
  have hkey : Builtin.repeatCommand.definition.defaultKey? = some "text" := rfl
  have hvalid : isArgumentKey "text" = true := by decide
  have htext : "hi - there" ≠ "" := by decide
  have hplain : Invocation.IsPlain {} "hi - there" := by decide
  have hgap : ∀ c ∈ " -times 3".toList.head?, isBlank c = true := by
    intro c hc
    obtain rfl : ' ' = c := by simpa using hc
    decide
  have hrest : Follows {} "text" " -times 3" := ⟨hgap, by decide, by decide, by decide⟩
  obtain ⟨i, j, hi, hj, -, -, -, -, -, -, hsame⟩ :=
    default_key_spellings_agree hcommand hargument hdistinct hcheck hkey hvalid htext hplain hrest
  have hread : Invocation.parse {} "%repeat hi - there -times 3" =
      [{ name := "repeat", positional := "hi - there",
         named := Dict.ofList [("times", "3")] }] := by
    decide +kernel
  have hbind : ofInvocation i Builtin.repeatCommand.definition true = .ok repeatedThrice := by
    obtain rfl := (List.cons.inj (hi.symm.trans hread)).1
    rfl
  exact ⟨hcommand, hargument, hdistinct, hcheck, hkey, hvalid, htext, hplain, hrest, i, j, hi, hj,
    hbind, (hsame true).symm.trans hbind⟩

end ChatChain.Binding
