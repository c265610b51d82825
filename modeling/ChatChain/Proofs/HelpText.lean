import ChatChain.Builtin
import ChatChain.Proofs.Definition
import ChatChain.Proofs.Fallible
import ChatChain.Proofs.Printing
import ChatChain.Proofs.Registry

/-!
# What help tells users to type

The description of a command shows how the command and its arguments are spelled.  The command has
the mark of the grammar in front, but an argument always has a hyphen, whatever its mark is.  This
module says what the two are read as when a user types one behind the other.

There are three groups.

* Flags.  `Invocation.ofFlagged` is what a command with a hyphenated key behind it means, and
  `parse_flagged` that it is read as that.  `exists_named_ofFlagged_iff` says when the key is taken
  for a named argument.
* The description.  `quoted_argumentLine` and `exists_describe_eq` say what help prints.
* The result.  `help_flags_need_a_hyphen_mark` follows a registered command from its description to
  what is read.
-/

namespace ChatChain

open Text

/-! ## Flags -/

namespace Invocation

variable {g : Grammar} {name key : String}

/-- What a command and a key with a hyphen in front mean.  The hyphen may be the mark of arguments,
that of commands, or none. -/
def ofFlagged (g : Grammar) (name key : String) : List Invocation :=
  if g.argumentMark = '-' then [{ name, named := Dict.ofList [(key, "")] }]
  else if g.commandMark = '-' ∧ isCommandName key = true then [{ name }, { name := key }]
  else [{ name, positional := "-" ++ key }]

theorem isBlank_of_mem_flag (hkey : isArgumentKey key = true) :
    ∀ c ∈ ("-" ++ key).toList, isBlank c = false := by
  intro c hc
  have hsplit : c = '-' ∨ c ∈ key.toList := by simpa using hc
  rcases hsplit with rfl | hc
  · decide
  · exact isBlank_of_mem_argumentKey hkey hc

/-- A key with a hyphen in front begins a command only when the hyphen marks commands and the key
could be the name of one. -/
theorem commandWord?_flag (hkey : isArgumentKey key = true)
    (h : ¬(g.commandMark = '-' ∧ isCommandName key = true)) :
    g.commandWord? ("-" ++ key).toList = none := by
  rw [Option.eq_none_iff_forall_ne_some]
  intro head hhead
  obtain ⟨cs, hcs, -, ⟨hword, -⟩ | ⟨id, hword, -⟩⟩ := Grammar.commandWord?_eq_some_iff.1 hhead
  · have hflag : '-' = g.commandMark ∧ key.toList = cs := by simpa using hword
    exact h ⟨hflag.1.symm, by rwa [isCommandName, hflag.2]⟩
  · have hflag : '-' = g.commandMark ∧ key.toList = cs ++ entitySeparator :: id := by
      simpa using hword
    have hmem : entitySeparator ∈ key.toList := by simp [hflag.2]
    rcases mem_of_isIdentifier hkey hmem with hc | hc
    · exact absurd hc (by decide +kernel)
    · exact absurd hc (by decide)

theorem isPlain_flag (hkey : isArgumentKey key = true) (hargument : g.argumentMark ≠ '-')
    (h : ¬(g.commandMark = '-' ∧ isCommandName key = true)) : IsPlain g ("-" ++ key) := by
  refine isPlain_of_word (by simp) (isBlank_of_mem_flag hkey) (commandWord?_flag hkey h) ?_
  rw [Option.eq_none_iff_forall_ne_some]
  intro k hk
  have hmark := (Grammar.argumentWord?_eq_some_iff.1 hk).1
  exact hargument (by simpa using (List.cons.inj (by simpa using hmark)).1.symm)

theorem wellFormed_of_mem_ofFlagged (hname : isCommandName name = true)
    (hkey : isArgumentKey key = true) : ∀ i ∈ ofFlagged g name key, WellFormed g i := by
  intro i hi
  unfold ofFlagged at hi
  split at hi
  · obtain rfl := List.mem_singleton.1 hi
    exact ⟨hname, fun id hid => absurd hid (by simp), isPlain_empty g,
      fun e he => by rwa [List.mem_singleton.1 he],
      fun e he => by rw [List.mem_singleton.1 he]; exact isPlain_empty g⟩
  · next hargument =>
    split at hi
    · next hcommand =>
      rcases List.mem_pair.1 hi with rfl | rfl
      · exact wellFormed_of_plain hname (isPlain_empty g)
      · exact wellFormed_of_plain hcommand.2 (isPlain_empty g)
    · next hcommand =>
      obtain rfl := List.mem_singleton.1 hi
      exact wellFormed_of_plain hname (isPlain_flag hkey hargument hcommand)

/-- Printed, they are the command and the key. -/
theorem printAll_ofFlagged (g : Grammar) (name key : String) :
    printAll g (ofFlagged g name key) =
      String.singleton g.commandMark ++ name ++ " " ++ ("-" ++ key) := by
  have hbare (name : String) : print g { name } = String.singleton g.commandMark ++ name := by
    have hentries : (∅ : Dict String).entries = [] := rfl
    simp [print, parts, headWord, textPart, hentries]
  have hflagged : print g { name, named := Dict.ofList [(key, "")] } =
      String.singleton g.commandMark ++ name ++ " " ++
        (String.singleton g.argumentMark ++ key) := by
    have hentries : (Dict.ofList [(key, "")]).entries = [(key, "")] := rfl
    simp [print, parts, headWord, textPart, hentries, argumentParts, String.append_assoc]
  have hplain : print g { name, positional := "-" ++ key } =
      String.singleton g.commandMark ++ name ++ " " ++ ("-" ++ key) := by
    have hentries : (∅ : Dict String).entries = [] := rfl
    simp [print, parts, headWord, textPart, hentries, String.append_assoc]
  unfold ofFlagged printAll
  split
  · next hargument =>
    rw [List.map_singleton, hflagged, hargument]
    rfl
  split
  · next hcommand =>
    rw [List.map_cons, List.map_singleton, hbare, hbare, hcommand.1]
    rfl
  · rw [List.map_singleton, hplain]
    rfl

/-- A command and a key are read as what they mean. -/
theorem parse_flagged (hcommand : isBlank g.commandMark = false)
    (hargument : isBlank g.argumentMark = false) (hdistinct : g.commandMark ≠ g.argumentMark)
    (hname : isCommandName name = true) (hkey : isArgumentKey key = true) :
    parse g (String.singleton g.commandMark ++ name ++ " " ++ ("-" ++ key)) =
      ofFlagged g name key := by
  rw [← printAll_ofFlagged]
  exact parse_printAll_of_wellFormed hcommand hargument hdistinct
    (wellFormed_of_mem_ofFlagged hname hkey)

/-- The key is a named argument exactly when the hyphen is the mark of arguments. -/
theorem exists_named_ofFlagged_iff :
    (∃ i ∈ ofFlagged g name key, i.named.contains key = true) ↔ g.argumentMark = '-' := by
  unfold ofFlagged
  split
  · next h => simp [h, Dict.contains, Dict.get?_ofList]
  · next h =>
    have hnone : (∅ : Dict String).contains key = false := rfl
    split <;> simp [h, hnone]

end Invocation

namespace Builtin

/-! ## The description -/

/-- The text between the first two backquotes of a line. -/
def quoted (line : String) : String :=
  String.ofList (((line.toList.dropWhile (· != '\x60')).drop 1).takeWhile (· != '\x60'))

/-- What the line for an argument has between backquotes is the flag. -/
theorem quoted_argumentLine {d : Definition} {a : Argument} (hkey : isArgumentKey a.key = true)
    (hdefault : d.isDefaultKey a.key = false) :
    quoted (argumentLine d a) = flagSpelling a.key := by
  obtain ⟨rest, hline⟩ :
      ∃ rest, argumentLine d a = "- `" ++ (flagSpelling a.key ++ ("` (" ++ rest)) := by
    unfold argumentLine
    simp only [hdefault, Bool.false_eq_true, if_false, String.append_assoc]
    exact ⟨_, rfl⟩
  have hquote : ∀ c ∈ (flagSpelling a.key).toList, (c != '\x60') = true := by
    intro c hc
    have hsplit : c = '-' ∨ c ∈ a.key.toList := by simpa [flagSpelling] using hc
    rcases hsplit with rfl | hc
    · decide
    · rcases mem_of_isIdentifier hkey hc with h | h
      · exact bne_iff_ne.2 fun heq => absurd (heq ▸ h) (by decide +kernel)
      · exact bne_iff_ne.2 fun heq => absurd (heq ▸ h) (by decide)
  have hchars : (argumentLine d a).toList =
      '-' :: ' ' :: '\x60' ::
        ((flagSpelling a.key).toList ++ '\x60' :: ' ' :: '(' :: rest.toList) := by
    rw [hline]
    simp
  rw [quoted, hchars]
  simp [List.takeWhile_append_of_pos hquote]

/-- The keys of the built-in commands can be written as named arguments. -/
theorem isArgumentKey_of_mem_commands (g : Grammar) :
    ∀ c ∈ commands g, ∀ a ∈ c.definition.arguments, isArgumentKey a.key = true := by
  have hkeys : ∀ d ∈ (commands {}).map Command.definition,
      ∀ a ∈ d.arguments, isArgumentKey a.key = true := by decide +kernel
  have hmarks : (commands g).map Command.definition = (commands {}).map Command.definition := by
    simp only [commands, scheduledCommands, helpCommand, List.map_cons]
  intro c hc
  exact hkeys c.definition (hmarks ▸ List.mem_map_of_mem hc)

/-- The description of a command begins with its spelling and ends with its arguments. -/
theorem exists_describe_eq (mark : Char) (d : Definition) :
    ∃ about, describe mark d = "\n".intercalate
      (("`" ++ (String.singleton mark ++ d.name) ++ "`: " ++ d.description) :: about ++
        d.arguments.map (argumentLine d)) := by
  have htitle : "`" ++ (String.singleton mark ++ d.name) ++ "`: " ++ d.description =
      titleLine mark d := by
    simp only [titleLine, String.append_assoc]
    rfl
  rw [htitle]
  exact ⟨_, rfl⟩

/-! ## The result -/

/-- Help shows a command with the mark of commands in front, and every argument but the positional
one with a hyphen in front.  The grammar settles what the two are read as, and the flag is the named
argument that it looks like if and only if the hyphen is the mark of arguments. -/
theorem help_flags_need_a_hyphen_mark {g : Grammar} {others : List Command} {r : Registry}
    (hcommand : isBlank g.commandMark = false) (hargument : isBlank g.argumentMark = false)
    (hdistinct : g.commandMark ≠ g.argumentMark)
    (hkeys : ∀ c ∈ others, ∀ a ∈ c.definition.arguments, isArgumentKey a.key = true)
    (hr : registry g others = .ok r) :
    r.find? (helpCommand g.commandMark).name = some (helpCommand g.commandMark) ∧
    ∀ name c, r.find? name = some c →
      let spelling := String.singleton g.commandMark ++ name
      (∀ context b flow, context.catalog = r.catalog →
        requestedName? g.commandMark (b.text? "command") = some name →
          ∃ about, (helpCommand g.commandMark).task context b flow = .done (.text <|
            "\n".intercalate (("`" ++ spelling ++ "`: " ++ c.definition.description) :: about ++
              c.definition.arguments.map (argumentLine c.definition)))) ∧
      ∀ a ∈ c.definition.arguments, c.definition.isDefaultKey a.key = false →
        let flag := quoted (argumentLine c.definition a)
        let read := Invocation.parse g (spelling ++ " " ++ flag)
        flag = "-" ++ a.key ∧ read = Invocation.ofFlagged g name a.key ∧
          ((∃ i ∈ read, i.named.contains a.key = true) ↔ g.argumentMark = '-') := by
  have hholds := Registry.holds_of_ofList hr
  have hhelp : helpCommand g.commandMark ∈ commands g ++ others := by
    simp [commands, scheduledCommands]
  refine ⟨Registry.find?_of_ofList hr _ hhelp, fun name c hc => ?_⟩
  intro spelling
  obtain ⟨hmem, hname⟩ := hholds.find?_eq_some_iff.1 hc
  have hvalid := Definition.check_eq_ok_iff.1 (Registry.accepted_of_ofList hr name c hc)
  have hkey : ∀ a ∈ c.definition.arguments, isArgumentKey a.key = true := by
    rcases List.mem_append.1 hmem with hbuiltin | hother
    · exact isArgumentKey_of_mem_commands g c hbuiltin
    · exact hkeys c hother
  refine ⟨fun context b flow hcatalog hrequest => ?_, fun a ha hdefault => ?_⟩
  · obtain ⟨about, habout⟩ := exists_describe_eq g.commandMark c.definition
    refine ⟨about, ?_⟩
    subst hname
    simp only [helpCommand, hrequest, hcatalog, hholds.find?_catalog hc, habout]
    rfl
  · have hflag := quoted_argumentLine (hkey a ha) hdefault
    have hread := Invocation.parse_flagged hcommand hargument hdistinct hvalid.name (hkey a ha)
    rw [show c.definition.name = name from hname] at hread
    simp only [spelling, hflag, flagSpelling, hread, Invocation.exists_named_ofFlagged_iff,
      and_self]

/-- A registry of the built-in commands alone has `repeat`. -/
theorem exists_registry_with_repeat {g : Grammar} (h : (registry g []).isOk = true) :
    ∃ r, registry g [] = .ok r ∧ r.find? "repeat" = some repeatCommand := by
  obtain ⟨r, hr⟩ : ∃ r, registry g [] = .ok r := ⟨_, Fallible.eq_ok_of_isOk {} h⟩
  have hmem : repeatCommand ∈ commands g ++ [] := by simp [commands, scheduledCommands]
  exact ⟨r, hr, Registry.find?_of_ofList hr _ hmem⟩

/-- With another mark of arguments the flag that help prints is plain text. -/
theorem help_misspells_times :
    let g : Grammar := { argumentMark := '+' }
    (∃ r, registry g [] = .ok r ∧ r.find? "repeat" = some repeatCommand) ∧
      ∃ a ∈ repeatCommand.definition.arguments, a.key = "times" ∧
        repeatCommand.definition.isDefaultKey a.key = false ∧
        quoted (argumentLine repeatCommand.definition a) = "-times" ∧
        Invocation.parse g "%repeat -times" = [{ name := "repeat", positional := "-times" }] := by
  refine ⟨exists_registry_with_repeat (by decide +kernel), ?_⟩
  refine ⟨repeatCommand.definition.arguments[1], by simp, rfl, rfl, ?_, ?_⟩ <;> decide +kernel

/-- With the usual marks it is read as an argument. -/
theorem help_spells_times :
    ∃ r, registry {} [] = .ok r ∧ r.find? "repeat" = some repeatCommand ∧
      Invocation.parse {} "%repeat -times" =
        [{ name := "repeat", named := Dict.ofList [("times", "")] }] := by
  obtain ⟨r, hr, hrepeat⟩ := exists_registry_with_repeat (g := {}) (by decide +kernel)
  obtain ⟨-, hall⟩ :=
    help_flags_need_a_hyphen_mark (by decide) (by decide) (by decide) (by simp) hr
  obtain ⟨-, hread⟩ := hall _ _ hrepeat
  obtain ⟨hflag, hmeant, -⟩ := hread repeatCommand.definition.arguments[1] (by simp) rfl
  rw [hflag] at hmeant
  exact ⟨r, hr, hrepeat, hmeant⟩

end Builtin

end ChatChain
