import ChatChain.Proofs.Printing
import ChatChain.Proofs.TextSteps

/-!
# Writing the steps of a pipeline

An invocation is written for a step of a pipeline when it binds to what the step says.  This module
writes one for every step whose texts can stand in an invocation.

* `TextStep.written` is the invocation, and `TextStep.IsWritable` says which steps have one.
* `means_written` says that it is written for the step, and `wellFormed_written` that it can be
  printed and read again.
-/

namespace ChatChain

open Builtin Fallible Invocation Number Text

variable {g : Grammar}

/-! ## The texts of options -/

/-- A word with nothing but digits behind its first character reads as itself under every grammar,
because no name begins with a digit. -/
theorem isPlain_of_digits (g : Grammar) {c : Char} {cs : List Char} (hc : isBlank c = false)
    (hdigits : ∀ d ∈ cs, d.isDigit = true) : IsPlain g (String.ofList (c :: cs)) := by
  have hword : ∀ d ∈ c :: cs, isBlank d = false :=
    List.forall_mem_cons.2 ⟨hc, fun d hd => isBlank_of_isDigit (hdigits d hd)⟩
  have hname : isCommandNameChars (cs.takeWhile (· != entitySeparator)) = false :=
    isIdentifier_of_isDigit _ fun d hd => hdigits d (List.takeWhile_subset _ hd)
  have hkey : isArgumentKeyChars cs = false := isIdentifier_of_isDigit _ hdigits
  apply isPlain_of_word <;> rw [String.toList_ofList]
  · exact List.cons_ne_nil c cs
  · exact hword
  · simp [Grammar.commandWord?, CommandHead.ofChars?, hname]
  · simp [Grammar.argumentWord?, hkey]

/-- A numeral reads as itself. -/
theorem isPlain_writeNat (g : Grammar) (n : Nat) : IsPlain g (writeNat n) := by
  have hdigits : ∀ c ∈ digits n, c.isDigit = true := fun c hc => isDigit_of_mem_digits hc
  unfold writeNat
  obtain ⟨c, cs, hcs⟩ := List.exists_cons_of_ne_nil (digits_ne_nil n)
  rw [hcs] at hdigits ⊢
  obtain ⟨hc, hrest⟩ := List.forall_mem_cons.1 hdigits
  exact isPlain_of_digits g (isBlank_of_isDigit hc) hrest

/-- So does a numeral with a sign. -/
theorem isPlain_writeInt (g : Grammar) (i : Int) : IsPlain g (writeInt i) := by
  cases i with
  | ofNat n => exact isPlain_writeNat g n
  | negSucc n =>
    exact isPlain_of_digits g (by decide) fun c hc => isDigit_of_mem_digits hc

/-- A number of copies that can be made has 32 bits. -/
theorem toInt_copies {n : Nat} (h : n ≤ maxCopies) : (Int32.ofInt n).toInt = n := by
  have hn : n ≤ 100 := h
  rw [Int32.toInt_ofInt_of_le] <;> omega

/-- It is read back from its numeral. -/
theorem coerce?_writeNat {n : Nat} (h : n ≤ maxCopies) (choices : List String) :
    Value.coerce? (writeNat n) .integer choices = some (.integer (.ofInt n)) := by
  have hrender : (Value.integer (.ofInt n)).render = writeNat n := by
    simp only [Value.render, toInt_copies h]
    rfl
  rw [← hrender]
  exact Value.coerce?_render rfl choices

/-- A mode is read from its name. -/
theorem coerce?_mode {mode : String} (h : mode ∈ caseModes) :
    ∃ k, Value.coerce? mode .choice caseModes = some (.choice k mode) := by
  simp only [caseModes, List.mem_cons, List.not_mem_nil, or_false] at h
  rcases h with rfl | rfl | rfl
  · exact ⟨0, by decide +kernel⟩
  · exact ⟨1, by decide +kernel⟩
  · exact ⟨2, by decide +kernel⟩

/-- A named argument that reads as a value is bound to it. -/
theorem Binding.get?_of_named {i : Invocation} {d : Definition} {piped : Bool} {b : Binding}
    (hkeys : (argumentKeys d.arguments).Nodup) (hb : Binding.ofInvocation i d piped = .ok b)
    {a : Argument} (ha : a ∈ d.arguments) {text : String} (htext : i.named.get? a.key = some text)
    {v : Value} (hv : Value.coerce? text a.kind a.choices = some v) : b.get? a.key = some v := by
  have hread : Binding.readValue? i d a = some v := by
    simp [Binding.readValue?, Binding.suppliedText?, htext, hv]
  rw [((Binding.binds_of_ofInvocation hkeys hb).settled a ha).value, hread]
  rfl

/-! ## The invocations -/

namespace TextOperation

/-- The named arguments for the options of an operation. -/
def arguments : TextOperation → List (String × String)
  | upper | backwards => []
  | inCase mode => [("mode", mode)]
  | copies times separator => [("separator", separator), ("times", writeNat times)]

/-- Whether the options of an operation can be written. -/
def IsWritable (g : Grammar) : TextOperation → Prop
  | upper | backwards => True
  | inCase mode => mode ∈ caseModes ∧ IsPlain g mode
  | copies times separator => 1 ≤ times ∧ times ≤ maxCopies ∧ IsPlain g separator

theorem plain_arguments {o : TextOperation} (h : o.IsWritable g) :
    ∀ e ∈ o.arguments, isArgumentKey e.1 = true ∧ IsPlain g e.2 := by
  have hmode : isArgumentKey "mode" = true := by decide
  have hseparator : isArgumentKey "separator" = true := by decide
  have htimes : isArgumentKey "times" = true := by decide
  cases o with
  | upper => simp [arguments]
  | backwards => simp [arguments]
  | inCase mode => simpa [arguments, hmode] using h.2
  | copies times separator =>
    simpa [arguments, hseparator, htimes, isPlain_writeNat] using h.2.2

end TextOperation

namespace TextStep

/-- The invocation for a step. -/
def written (s : TextStep) : Invocation where
  name := s.operation.command.name
  positional := s.own?.getD ""
  named := Dict.ofList s.operation.arguments

/-- Whether a step can be written: its texts can stand in an invocation, and a text of its own is
not empty. -/
structure IsWritable (g : Grammar) (s : TextStep) : Prop where
  own : ∀ own ∈ s.own?, own ≠ "" ∧ IsPlain g own
  operation : s.operation.IsWritable g

variable {s : TextStep}

theorem get?_written (s : TextStep) (key : String) :
    s.written.named.get? key = s.operation.arguments.reverse.lookup key :=
  Dict.get?_ofList _ key

/-- What is written for a step binds to its options. -/
theorem hasOptions_written (h : s.IsWritable g) {b : Binding}
    (hb : Binding.ofInvocation s.written s.operation.command.definition true = .ok b) :
    s.operation.HasOptions b := by
  have hkeys := (onText_command s.operation).keys
  have hget := s.get?_written
  have hoperation := h.operation
  obtain ⟨own?, operation⟩ := s
  cases operation with
  | upper => trivial
  | backwards => trivial
  | inCase mode =>
    obtain ⟨k, hmode⟩ := coerce?_mode hoperation.1
    have hvalue : b.get? "mode" = some (.choice k mode) :=
      Binding.get?_of_named hkeys hb (List.mem_cons_of_mem _ List.mem_cons_self) (hget "mode") hmode
    simp [TextOperation.HasOptions, Binding.choice?, hvalue, Value.asChoice?]
  | copies times separator =>
    obtain ⟨hlow, hhigh, -⟩ := hoperation
    have hvalue : b.get? "times" = some (.integer (.ofInt times)) :=
      Binding.get?_of_named hkeys hb (List.mem_cons_of_mem _ List.mem_cons_self) (hget "times")
        (coerce?_writeNat hhigh _)
    have hseparator : b.get? "separator" = some (.text separator) :=
      Binding.get?_of_named hkeys hb
        (List.mem_cons_of_mem _ (List.mem_cons_of_mem _ List.mem_cons_self)) (hget "separator") rfl
    refine ⟨?_, hlow, hhigh, ?_⟩
    · simp [Binding.whole?, hvalue, Value.asWhole?, toInt_copies hhigh]
    · simp [Binding.text?, hseparator, Value.asText?]

/-- What is written for a step means the step. -/
theorem means_written (h : s.IsWritable g) : s.written.Means s where
  scope := rfl
  name := rfl
  own := by
    have hnamed : s.written.named.get? textArgument.key = none := by
      rw [s.get?_written]
      cases s.operation <;> rfl
    unfold ownText?
    rw [hnamed, Option.none_or]
    cases hown : s.own? with
    | none => simp [written, hown]
    | some own => simp [written, hown, (h.own own hown).1]
  options _ hb := hasOptions_written h hb

/-- What is written for a step can be printed and read again. -/
theorem wellFormed_written (h : s.IsWritable g) : s.written.WellFormed g where
  name := (onText_command s.operation).name
  entity := by simp [written]
  positional := by
    show IsPlain g (s.own?.getD "")
    cases hown : s.own? with
    | none => exact isPlain_empty g
    | some own => exact (h.own own hown).2
  keys e he :=
    (TextOperation.plain_arguments h.operation e (Dict.mem_of_mem_entries_ofList he)).1
  values e he :=
    (TextOperation.plain_arguments h.operation e (Dict.mem_of_mem_entries_ofList he)).2

end TextStep

end ChatChain
