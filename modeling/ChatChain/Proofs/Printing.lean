import ChatChain.Proofs.Spelling
import ChatChain.Proofs.Text.Pieces
import ChatChain.Proofs.Text.Words

/-!
# Printing invocations and reading them again

`Invocation.printAll` writes invocations as text.  This module proves that the invocations it was
written for can be read from it, and that everything that is ever read can be written that way.

There are four groups.

* The text.  `print_eq` splits the text of an invocation into the word of its head and the tail
  behind it.
* One invocation.  `ofRegion_printedTail` says that the tail reads as the arguments, and
  `cutAtMarks_print` that nothing in it begins another invocation.
* Several invocations.  `parse_printAll_of_wellFormed` is the induction over the list.
* What is read.  `wellFormed_of_mem_parse` says that every invocation that was read is well formed,
  and `printing_is_undone_by_reading` is the result.
-/

namespace ChatChain.Invocation

open Text Binding

variable {g : Grammar} {i : Invocation}

/-! ## The text -/

/-- What stands behind the head of a printed invocation. -/
def printedTail (g : Grammar) (i : Invocation) : String :=
  behindSpace i.positional ++ String.join (i.named.entries.map fun e => spellArgument g e.1 e.2)

/-- Parts with a space in front of each. -/
def spaced (parts : List String) : String :=
  String.join (parts.map fun part => " " ++ part)

@[simp] theorem spaced_nil : spaced [] = "" := rfl

@[simp] theorem spaced_cons (part : String) (parts : List String) :
    spaced (part :: parts) = " " ++ part ++ spaced parts :=
  String.join_cons

/-- Joining parts with spaces puts a space in front of every part but the first. -/
theorem intercalate_eq_spaced (part : String) (parts : List String) :
    " ".intercalate (part :: parts) = part ++ spaced parts := by
  induction parts generalizing part with
  | nil => simp
  | cons next parts ih =>
    rw [String.intercalate_cons_cons, ih, spaced_cons]
    simp only [String.append_assoc]

theorem spaced_textPart (text : String) (parts : List String) :
    spaced (textPart text ++ parts) = behindSpace text ++ spaced parts := by
  unfold textPart behindSpace
  split <;> simp

theorem spaced_argumentParts (g : Grammar) (es : List (String × String)) :
    spaced (es.flatMap (argumentParts g)) =
      String.join (es.map fun e => spellArgument g e.1 e.2) := by
  induction es with
  | nil => rfl
  | cons e es ih =>
    rw [List.flatMap_cons, argumentParts, List.cons_append, spaced_cons, spaced_textPart, ih,
      List.map_cons, String.join_cons]
    simp only [spellArgument, behindSpace, String.append_assoc]

/-- The text of an invocation is the word of its head and the tail. -/
theorem print_eq (g : Grammar) (i : Invocation) : i.print g = i.headWord g ++ i.printedTail g := by
  rw [print, parts, List.cons_append, intercalate_eq_spaced, spaced_textPart, spaced_argumentParts]
  rfl

/-! ## One invocation -/

theorem isBlank_head?_printedTail (g : Grammar) (i : Invocation) :
    ∀ c ∈ (i.printedTail g).toList.head?, isBlank c = true :=
  isBlank_head?_behindSpace _ (isBlank_head?_spellArguments _)

/-- The tail reads as the arguments, and blanks behind it make no difference. -/
theorem ofRegion_printedTail (hargument : isBlank g.argumentMark = false) (h : WellFormed g i)
    {p : List Char} (hp : ∀ c ∈ p, isBlank c = true) :
    ofRegion g i.head ((i.printedTail g).toList ++ p) = i := by
  obtain ⟨hblank, hparts⟩ := argumentMarks_spellArguments hargument h.keys
    (fun e he => (h.values e he).2) hp
  have hvalues : i.named.entries.map (fun e => (e.1, trim e.2)) = i.named.entries := by
    refine (List.map_congr_left fun e he => ?_).trans (List.map_id _)
    show (e.1, trim e.2) = e
    rw [trim, (h.values e he).1, String.ofList_toList]
  unfold ofRegion
  rw [printedTail, String.toList_append, List.append_assoc,
    cutAtMarks_behindSpace (Grammar.marksWords_argumentKey? g)
      (fun s hs => (h.positional.2 s hs).2)
      (isBlank_head?_append (isBlank_head?_spellArguments _) hp)]
  simp only [hparts, hvalues, Dict.ofList_entries, trimChars_behindSpace _ hblank, h.positional.1]
  cases i
  simp [head]

/-- No word of the tail begins an invocation. -/
theorem commandWord?_printedTail (hcommand : isBlank g.commandMark = false)
    (hargument : isBlank g.argumentMark = false) (hdistinct : g.commandMark ≠ g.argumentMark)
    (h : WellFormed g i) :
    ∀ s ∈ stretches (i.printedTail g).toList, g.commandWord? s = none := by
  have hmarks := Grammar.marksWords_commandHead? hcommand
  rw [← hmarks.cutAtMarks_snd_eq_nil_iff, printedTail, String.toList_append,
    cutAtMarks_behindSpace hmarks (fun s hs => (h.positional.2 s hs).1)
      (isBlank_head?_spellArguments _)]
  exact commandMarks_spellArguments hcommand hargument hdistinct h.keys
    fun e he => (h.values e he).2

/-- A printed invocation is one mark and the text up to the next one. -/
theorem cutAtMarks_print (hcommand : isBlank g.commandMark = false)
    (hargument : isBlank g.argumentMark = false) (hdistinct : g.commandMark ≠ g.argumentMark)
    (h : WellFormed g i) {r : List Char} (hr : ∀ c ∈ r.head?, isBlank c = true) :
    let cut := cutAtMarks g.commandHead? true r
    cutAtMarks g.commandHead? true ((i.print g).toList ++ r) =
      ([], (i.head, (i.printedTail g).toList ++ cut.1) :: cut.2) := by
  have hmarks := Grammar.marksWords_commandHead? hcommand
  have hne : (i.headWord g).toList ≠ [] := by simp [headWord]
  have htail : ∀ c ∈ ((i.printedTail g).toList ++ r).head?, isBlank c = true := by
    intro c hc
    cases htext : (i.printedTail g).toList with
    | nil => exact hr c (by simpa [htext] using hc)
    | cons d t =>
      have hd := isBlank_head?_printedTail g i d (by simp [htext])
      obtain rfl : d = c := by simpa [htext] using hc
      exact hd
  rw [print_eq, String.toList_append, List.append_assoc,
    hmarks.cutAtMarks_first hne (isBlank_of_mem_headWord hcommand h.name h.entity) htail,
    commandWord?_headWord h.name h.entity,
    hmarks.cutAtMarks_append (commandWord?_printedTail hcommand hargument hdistinct h) hr]

/-! ## Several invocations -/

theorem isBlank_head?_spaced (parts : List String) :
    ∀ c ∈ (spaced parts).toList.head?, isBlank c = true := by
  intro c hc
  cases parts with
  | nil => simp at hc
  | cons part parts =>
    obtain rfl : ' ' = c := by simpa using hc
    decide

/-- Printed invocations with a space in front of each are read in their order. -/
theorem cutAtMarks_spaced_print (hcommand : isBlank g.commandMark = false)
    (hargument : isBlank g.argumentMark = false) (hdistinct : g.commandMark ≠ g.argumentMark)
    {is : List Invocation} (h : ∀ i ∈ is, WellFormed g i) :
    let cut := cutAtMarks g.commandHead? true (spaced (is.map (print g))).toList
    (∀ c ∈ cut.1, isBlank c = true) ∧
      cut.2.map (fun part => ofRegion g part.1 part.2) = is := by
  induction is with
  | nil => simp
  | cons i is ih =>
    obtain ⟨hi, his⟩ := List.forall_mem_cons.1 h
    obtain ⟨hblank, hparts⟩ := ih his
    have hgap := (Grammar.marksWords_commandHead? hcommand).cutAtMarks_gap true (by simp)
      isBlank_of_mem_space ((i.print g).toList ++ (spaced (is.map (print g))).toList)
    rw [cutAtMarks_print hcommand hargument hdistinct hi (isBlank_head?_spaced _)] at hgap
    have htext : (spaced ((i :: is).map (print g))).toList =
        [' '] ++ ((i.print g).toList ++ (spaced (is.map (print g))).toList) := by
      simp
    rw [htext, hgap]
    refine ⟨by simpa using isBlank_of_mem_space, ?_⟩
    simp only [List.map_cons, hparts, ofRegion_printedTail hargument hi hblank]

/-- Reading what was printed gives the invocations back. -/
theorem parse_printAll_of_wellFormed (hcommand : isBlank g.commandMark = false)
    (hargument : isBlank g.argumentMark = false) (hdistinct : g.commandMark ≠ g.argumentMark)
    {is : List Invocation} (h : ∀ i ∈ is, WellFormed g i) : parse g (printAll g is) = is := by
  cases is with
  | nil => rfl
  | cons i is =>
    obtain ⟨hi, his⟩ := List.forall_mem_cons.1 h
    obtain ⟨hblank, hparts⟩ := cutAtMarks_spaced_print hcommand hargument hdistinct his
    unfold parse parseChars
    rw [printAll, List.map_cons, intercalate_eq_spaced, String.toList_append,
      cutAtMarks_print hcommand hargument hdistinct hi (isBlank_head?_spaced _)]
    simp only [List.map_cons, hparts, ofRegion_printedTail hargument hi hblank]

/-! ## What is read -/

theorem isPlain_empty (g : Grammar) : IsPlain g "" :=
  ⟨rfl, by simp⟩

/-- A word that begins nothing reads as itself. -/
theorem isPlain_of_word {text : String} (hne : text.toList ≠ [])
    (hword : ∀ c ∈ text.toList, isBlank c = false) (hcommand : g.commandWord? text.toList = none)
    (hargument : g.argumentWord? text.toList = none) : IsPlain g text := by
  refine ⟨trimChars_eq_self hword, ?_⟩
  rw [stretches_of_word hne hword]
  exact List.forall_mem_singleton.2 ⟨hcommand, hargument⟩

/-- Of the plain texts only the empty one is blank. -/
theorem isBlankText_eq_false {text : String} (htext : text ≠ "") (hplain : IsPlain g text) :
    isBlankText text = false := by
  rw [Bool.eq_false_iff]
  intro hblank
  have htrim := trimChars_append (b := text.toList) (t := []) (c := [])
    (List.all_eq_true.1 hblank) (by simp)
  rw [List.append_nil, List.append_nil, hplain.1, trimChars_nil] at htrim
  exact htext (String.toList_inj.1 htrim)

/-- A command with nothing but plain text behind it is well formed. -/
theorem wellFormed_of_plain {name text : String} (hname : isCommandName name = true)
    (hplain : IsPlain g text) : WellFormed g { name, positional := text } where
  name := hname
  entity id hid := absurd hid (by simp)
  positional := hplain
  keys _ he := absurd he List.not_mem_nil
  values _ he := absurd he List.not_mem_nil

/-- A piece of a region without heads is plain when it is trimmed, if it holds no argument. -/
theorem isPlain_of_piece {region t : List Char}
    (hregion : ∀ s ∈ stretches region, g.commandWord? s = none)
    (ht : ∀ s ∈ stretches t, s ∈ stretches region ∧ g.argumentWord? s = none) :
    IsPlain g (String.ofList (trimChars t)) := by
  unfold IsPlain
  rw [String.toList_ofList]
  refine ⟨trimChars_trimChars t, fun s hs => ?_⟩
  obtain ⟨hmem, hargument⟩ := ht s (mem_stretches_of_trimChars hs)
  exact ⟨hregion s hmem, hargument⟩

/-- Every invocation that was read is well formed. -/
theorem wellFormed_of_mem_parse (hcommand : isBlank g.commandMark = false) {text : String}
    (hi : i ∈ parse g text) : WellFormed g i := by
  have hentity : ∀ id, i.entity? = some id → IsScope id := fun id hid =>
    isScope_of_mem_parse hcommand hi hid
  obtain ⟨⟨label, region⟩, hpart, rfl⟩ := List.mem_map.1 hi
  have hcommands := Grammar.marksWords_commandHead? hcommand
  have harguments := Grammar.marksWords_argumentKey? g
  have hregion : ∀ s ∈ stretches region, g.commandWord? s = none := fun s hs =>
    ((hcommands.stretches_of_piece _).2 _ hpart s hs).2
  obtain ⟨hpositional, hvalues⟩ := harguments.stretches_of_piece region
  -- A named argument comes from a mark in the region and the text behind it.
  have hentry : ∀ e ∈ (ofRegion g label region).named.entries,
      ∃ part ∈ (cutAtMarks g.argumentKey? true region).2,
        e = (part.1, String.ofList (trimChars part.2)) := by
    intro e he
    obtain ⟨part, hmem, heq⟩ := List.mem_map.1 (Dict.mem_of_mem_entries_ofList he)
    exact ⟨part, hmem, heq.symm⟩
  refine ⟨?_, hentity, isPlain_of_piece hregion hpositional, fun e he => ?_, fun e he => ?_⟩
  · obtain ⟨w, -, hword⟩ := hcommands.exists_word_of_mem hpart
    obtain ⟨name, hname, hlabel, -⟩ := Grammar.commandWord?_eq_some_iff.1 hword
    show isCommandName label.name = true
    rw [hlabel, isCommandName, String.toList_ofList]
    exact hname
  · obtain ⟨part, hmem, rfl⟩ := hentry e he
    obtain ⟨w, -, hword⟩ := harguments.exists_word_of_mem hmem
    exact (Grammar.argumentWord?_eq_some_iff.1 hword).2
  · obtain ⟨part, hmem, rfl⟩ := hentry e he
    exact isPlain_of_piece hregion (hvalues part hmem)

/-- Reading undoes printing: well formed invocations are read from their text as they were, and as
every invocation that is ever read is well formed, printing what was read and reading it again
changes nothing. -/
theorem printing_is_undone_by_reading (hcommand : isBlank g.commandMark = false)
    (hargument : isBlank g.argumentMark = false) (hdistinct : g.commandMark ≠ g.argumentMark) :
    (∀ is, (∀ i ∈ is, WellFormed g i) → parse g (printAll g is) = is) ∧
      ∀ text, (∀ i ∈ parse g text, WellFormed g i) ∧
        parse g (printAll g (parse g text)) = parse g text := by
  refine ⟨fun is his => parse_printAll_of_wellFormed hcommand hargument hdistinct his,
    fun text => ?_⟩
  have hall : ∀ i ∈ parse g text, WellFormed g i := fun i hi => wellFormed_of_mem_parse hcommand hi
  exact ⟨hall, parse_printAll_of_wellFormed hcommand hargument hdistinct hall⟩

/-- A command with a scope that looks like a command, inner blanks and an empty value, and a command
without anything. -/
def spoken : List Invocation :=
  [{ name := "say"
     entity? := some "a:%b"
     positional := "one  two"
     named := Dict.ofList [("n", ""), ("to", "y %%")] },
    { name := "end" }]

/-- They are read from a text that repeats a key, and from the text that is printed for them. -/
theorem printing_is_undone_by_reading_spoken :
    isBlank ({} : Grammar).commandMark = false ∧ isBlank ({} : Grammar).argumentMark = false ∧
      ({} : Grammar).commandMark ≠ ({} : Grammar).argumentMark ∧
      (∀ i ∈ spoken, WellFormed {} i) ∧
      parse {} "hi %say:a:%b  one  two -to x -n -to y %% %end" = spoken ∧
      printAll {} spoken = "%say:a:%b one  two -n -to y %% %end" ∧
      parse {} (printAll {} spoken) = spoken := by
  have hcommand : isBlank ({} : Grammar).commandMark = false := by decide
  have hargument : isBlank ({} : Grammar).argumentMark = false := by decide
  have hdistinct : ({} : Grammar).commandMark ≠ ({} : Grammar).argumentMark := by decide
  have hread : parse {} "hi %say:a:%b  one  two -to x -n -to y %% %end" = spoken := by
    decide +kernel
  have hlaw := printing_is_undone_by_reading hcommand hargument hdistinct
  have hformed : ∀ i ∈ spoken, WellFormed {} i := hread ▸ (hlaw.2 _).1
  exact ⟨hcommand, hargument, hdistinct, hformed, hread, by decide +kernel, hlaw.1 spoken hformed⟩

end ChatChain.Invocation
