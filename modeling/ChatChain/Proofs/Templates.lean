import ChatChain.Proofs.Printing
import ChatChain.Proofs.Rejection
import ChatChain.Proofs.Text.Words

/-!
# User text in templates

A template is filled in by putting text in place of a word and reading the result.  This module
proves that text which a user typed as an argument stays an argument there: it adds no command and
no key to what is read, and takes none away.

There are four groups.

* Putting a text in place of a word.  `Isolated` says that a pattern occurs in a text as a whole
  word only, and `words_substituteChars` says that replacing it there replaces words by words.
* Outlines.  `Invocation.outline` is an invocation without its texts, and `outline_parse` says that
  the outlines of what is read depend on the marks among the words of a text only.
* Templates.  `marks_fillIn` says that plain text adds no marks to a template, and
  `map_command_expand` that the commands of a template depend on the heads in it only.
* The result.  `user_text_cannot_inject` compares two texts in one template.
-/

namespace ChatChain

open Text

/-! ## Putting a text in place of a word -/

namespace Resolver

/-- Whether a pattern occurs in a text as a whole word only. -/
def Isolated (pattern text : List Char) : Prop :=
  ∀ before after, text = before ++ pattern ++ after →
    (∀ c ∈ before.getLast?, isBlank c = true) ∧ ∀ d ∈ after.head?, isBlank d = true

/-- The places at which a pattern occurs tell whether it is isolated. -/
theorem isolated_iff {pattern text : List Char} :
    Isolated pattern text ↔ ∀ n ∈ List.range (text.length + 1), pattern <+: text.drop n →
      (text.take n).getLast?.all isBlank = true ∧
        (text.drop (n + pattern.length)).head?.all isBlank = true := by
  simp only [Option.all_eq_true]
  constructor
  · rintro h n - ⟨after, hafter⟩
    have hrest : text.drop (n + pattern.length) = after := by
      rw [← List.drop_drop, ← hafter, List.drop_left]
    rw [hrest]
    exact h (text.take n) after (by rw [List.append_assoc, hafter, List.take_append_drop])
  · rintro h before after rfl
    have hplace := h before.length (List.mem_range.2 (by simp only [List.length_append]; omega))
    rw [List.append_assoc, List.drop_left, List.take_left, ← List.length_append,
      ← List.append_assoc, List.drop_left] at hplace
    exact hplace (List.prefix_append _ _)

instance (pattern text : List Char) : Decidable (Isolated pattern text) :=
  decidable_of_iff _ isolated_iff.symm

/-- What is isolated in a text is so in the end of the text. -/
theorem Isolated.of_append {pattern s rest : List Char} (h : Isolated pattern (s ++ rest)) :
    Isolated pattern rest := by
  intro before after hsplit
  obtain ⟨hbefore, hafter⟩ := h (s ++ before) after (by rw [hsplit]; simp)
  refine ⟨fun c hc => hbefore c ?_, hafter⟩
  rw [List.getLast?_append, Option.mem_def.1 hc]
  rfl

section Substitution

variable {pattern image : List Char}

theorem substituteChars_nil (pattern image : List Char) :
    substituteChars pattern image [] = [] := by
  rw [substituteChars]

theorem substituteChars_cons_of_no_occurrence {c : Char} {cs : List Char}
    (h : ¬pattern <+: c :: cs) :
    substituteChars pattern image (c :: cs) = c :: substituteChars pattern image cs := by
  rw [substituteChars, if_neg]
  simpa using fun _ => h

theorem substituteChars_pattern_append (hne : pattern ≠ []) (r : List Char) :
    substituteChars pattern image (pattern ++ r) = image ++ substituteChars pattern image r := by
  obtain ⟨p, ps, rfl⟩ := List.exists_cons_of_ne_nil hne
  have hprefix : (p :: ps).isPrefixOf (p :: (ps ++ r)) = true := by simp
  rw [List.cons_append, substituteChars, if_pos ⟨hne, hprefix⟩]
  simp

/-- A text in which no occurrence begins is left alone. -/
theorem substituteChars_append {a r : List Char}
    (h : ∀ v, v <:+ a → v ≠ [] → ¬pattern <+: v ++ r) :
    substituteChars pattern image (a ++ r) = a ++ substituteChars pattern image r := by
  induction a with
  | nil => rfl
  | cons c a ih =>
    have hfirst : ¬pattern <+: c :: (a ++ r) := h _ List.suffix_rfl (by simp)
    have htail := ih fun v hv => h v (hv.trans (List.suffix_cons c a))
    rw [List.cons_append, substituteChars_cons_of_no_occurrence hfirst, htail, List.cons_append]

variable (hne : pattern ≠ []) (hpattern : ∀ c ∈ pattern, isBlank c = false)

include hne hpattern

/-- No occurrence begins with a blank. -/
theorem no_occurrence_of_isBlank {c : Char} (hc : isBlank c = true) (cs : List Char) :
    ¬pattern <+: c :: cs := by
  obtain ⟨p, ps, rfl⟩ := List.exists_cons_of_ne_nil hne
  rintro ⟨rest, hrest⟩
  obtain rfl : p = c := (List.cons.inj hrest).1
  rw [hpattern p List.mem_cons_self] at hc
  exact absurd hc (by decide)

/-- A text that begins with a blank keeps it. -/
theorem isBlank_head?_substituteChars {r : List Char} (hr : ∀ d ∈ r.head?, isBlank d = true) :
    ∀ d ∈ (substituteChars pattern image r).head?, isBlank d = true := by
  cases r with
  | nil => simp [substituteChars_nil]
  | cons c r =>
    have hc : isBlank c = true := hr c rfl
    rw [substituteChars_cons_of_no_occurrence (no_occurrence_of_isBlank hne hpattern hc r)]
    simpa using hc

/-- In a text with isolated occurrences none begins in a stretch that is not the pattern. -/
theorem Isolated.no_occurrence {s rest : List Char} (h : Isolated pattern (s ++ rest))
    (hsame : ∀ c ∈ s, ∀ d ∈ s, isBlank c = isBlank d) (hseam : SeamBetween s rest)
    (hs : s ≠ pattern) : ∀ v, v <:+ s → v ≠ [] → ¬pattern <+: v ++ rest := by
  rintro v ⟨u, rfl⟩ hv ⟨after, hafter⟩
  obtain ⟨p, ps, rfl⟩ := List.exists_cons_of_ne_nil hne
  obtain ⟨c, v, rfl⟩ := List.exists_cons_of_ne_nil hv
  obtain rfl : p = c := (List.cons.inj hafter).1
  -- The stretch is a word, for the pattern begins in it.
  have hword : ∀ d ∈ u ++ p :: v, isBlank d = false := fun d hd =>
    (hsame d hd p (by simp)).trans (hpattern p List.mem_cons_self)
  obtain ⟨hbefore, hbehind⟩ := h u after (by rw [List.append_assoc, List.append_assoc, hafter])
  obtain rfl : u = [] := by
    by_contra hu
    have hlast := hbefore _ (List.getLast?_eq_some_getLast hu)
    rw [hword _ (List.mem_append_left _ (List.getLast_mem hu))] at hlast
    exact absurd hlast (by decide)
  rw [List.nil_append] at hs hseam hword
  have hrest : ∀ d ∈ rest.head?, isBlank d = true := fun d hd => by
    have hsort := hseam _ (List.getLast?_eq_some_getLast hv) d hd
    rw [hword _ (List.getLast_mem hv)] at hsort
    simpa using hsort.symm
  have hfront : word ((p :: ps) ++ after) = p :: ps := word_append hpattern hbehind
  rw [hafter, word_append hword hrest] at hfront
  exact hs hfront

/-- Replacing isolated occurrences replaces words by the words of the text that takes their
place. -/
theorem words_substituteChars {text : List Char} (h : Isolated pattern text) :
    words (substituteChars pattern image text) =
      (words text).flatMap fun w => if w = pattern then words image else [w] := by
  induction text using stretchInduction with
  | nil => simp [substituteChars_nil]
  | append s rest hs hsame hseam hstretches ih =>
    rw [words_append_of_seam hseam, List.flatMap_append, ← ih h.of_append]
    by_cases heq : s = pattern
    · subst heq
      have hrest : ∀ d ∈ rest.head?, isBlank d = true :=
        (h [] rest (by rw [List.nil_append])).2
      have hblank : ∀ d ∈ (substituteChars s image rest).head?, isBlank d = true :=
        isBlank_head?_substituteChars hne hpattern hrest
      rw [substituteChars_pattern_append hne, words_append fun _ _ _ => hblank,
        words_of_word hne hpattern]
      simp
    · have hapart : ∀ c ∈ s.getLast?, isBlank c = false →
          ∀ d ∈ (substituteChars pattern image rest).head?, isBlank d = true := by
        intro c hc hblank
        refine isBlank_head?_substituteChars hne hpattern fun d hd => ?_
        have hsort := hseam c hc d hd
        rw [hblank] at hsort
        simpa using hsort.symm
      have hkept : (words s).flatMap (fun w => if w = pattern then words image else [w]) =
          words s := by
        rcases words_of_stretch hs hsame with ⟨-, hgap⟩ | hword
        · rw [hgap]
          rfl
        · simp [hword, heq]
      rw [substituteChars_append (h.no_occurrence hne hpattern hsame hseam heq),
        words_append hapart, hkept]

end Substitution

end Resolver

/-! ## Outlines -/

/-- What a word may stand for besides text. -/
inductive Mark where
  | head (head : CommandHead)
  | key (key : String)

namespace Mark

/-- The keys in front of the first head, and for every head the keys up to the next one. -/
def group : List Mark → List String × List (CommandHead × List String)
  | [] => ([], [])
  | head h :: rest => ([], (h, (group rest).1) :: (group rest).2)
  | key k :: rest => (k :: (group rest).1, (group rest).2)

end Mark

namespace Grammar

variable {g : Grammar}

/-- What a word stands for, if it is more than text. -/
def mark? (g : Grammar) (w : List Char) : Option Mark :=
  match g.commandWord? w with
  | some head => some (.head head)
  | none => (g.argumentWord? w).map .key

/-- The marks among the words of a text, in order. -/
def marks (g : Grammar) (cs : List Char) : List Mark :=
  (words cs).filterMap g.mark?

/-- The keys among the words of a text, in order. -/
def keys (g : Grammar) (cs : List Char) : List String :=
  (words cs).filterMap g.argumentWord?

/-- The named arguments of a text have the keys among its words. -/
theorem map_fst_cutAtMarks_argumentKey? (g : Grammar) (cs : List Char) :
    (cutAtMarks g.argumentKey? true cs).2.map Prod.fst = g.keys cs := by
  have harguments := marksWords_argumentKey? g
  rw [harguments.cutAtMarks_eq_cutAtWords, map_fst_cutAtWords, keys, words, List.filterMap_filter]
  congr 1
  funext s
  cases hgap : isGap s with
  | true => simp [harguments.gap s hgap]
  | false => simp

/-- The marks of a text say where it is cut at heads, and which keys the pieces hold. -/
theorem group_marks (hmark : isBlank g.commandMark = false) (cs : List Char) :
    let cut := cutAtMarks g.commandHead? true cs
    Mark.group (g.marks cs) = (g.keys cut.1, cut.2.map fun part => (part.1, g.keys part.2)) := by
  have hcommands := marksWords_commandHead? hmark
  induction cs using stretchInduction with
  | nil => rfl
  | append s rest hne hsame hseam hstretches ih =>
    have hcut := hcommands.cutAtMarks_stretch hne hsame (r := rest) fun c hc hblank d hd => by
      simpa [hblank] using (hseam c hc d hd).symm
    have hmarks : g.marks (s ++ rest) = (words s).filterMap g.mark? ++ g.marks rest := by
      rw [marks, words_append_of_seam hseam, List.filterMap_append, marks]
    rw [hcut, hmarks]
    cases hhead : g.commandWord? s with
    | some head =>
      have hword : words s = [s] := by
        refine (words_of_stretch hne hsame).resolve_left fun ⟨hgap, _⟩ => ?_
        exact absurd (hhead.symm.trans (hcommands.gap s hgap)) (by simp)
      simp [hword, mark?, hhead, Mark.group, ih, keys]
    | none =>
      have hfirst := cutAtMarks_fst_isPrefix g.commandHead? true rest
      have hkeys : g.keys (s ++ (cutAtMarks g.commandHead? true rest).1) =
          (words s).filterMap g.argumentWord? ++
            g.keys (cutAtMarks g.commandHead? true rest).1 := by
        rw [keys, words_append_of_seam (hseam.of_isPrefix hfirst), List.filterMap_append, keys]
      simp only [hkeys]
      rcases words_of_stretch hne hsame with ⟨-, hgap⟩ | hword
      · simp [hgap, ih]
      · cases hkey : g.argumentWord? s with
        | some key => simp [hword, mark?, hhead, hkey, Mark.group, ih]
        | none => simp [hword, mark?, hhead, hkey, ih]

end Grammar

namespace Invocation

variable {g : Grammar}

/-- An invocation without its texts: its head and the keys of its named arguments. -/
def outline (i : Invocation) : CommandHead × List String :=
  (i.head, i.named.keys)

/-- The keys of a dictionary with the given keys. -/
def keySet (keys : List String) : List String :=
  (Dict.ofList (keys.map fun key => (key, ()))).keys

theorem keys_named_ofRegion (g : Grammar) (head : CommandHead) (region : List Char) :
    (ofRegion g head region).named.keys = keySet (g.keys region) := by
  refine Dict.keys_ofList_congr ?_
  simp only [List.map_map, Function.comp_def, List.map_id_fun']
  exact g.map_fst_cutAtMarks_argumentKey? region

/-- The outlines of what is read are settled by the marks of the text. -/
theorem outline_parse (hmark : isBlank g.commandMark = false) (text : String) :
    (parse g text).map outline =
      (Mark.group (g.marks text.toList)).2.map fun part => (part.1, keySet part.2) := by
  rw [Grammar.group_marks hmark, parse, parseChars, List.map_map, List.map_map]
  refine List.map_congr_left fun part _ => ?_
  exact Prod.ext rfl (keys_named_ofRegion g part.1 part.2)

/-- Whether a text is the positional text of an invocation that was read from some text. -/
def IsTyped (g : Grammar) (input : String) : Prop :=
  ∃ text, ∃ i ∈ parse g text, i.positional = input

theorem IsTyped.isPlain (hmark : isBlank g.commandMark = false) {input : String}
    (h : IsTyped g input) : IsPlain g input := by
  obtain ⟨text, i, hi, rfl⟩ := h
  exact (wellFormed_of_mem_parse hmark hi).positional

end Invocation

/-! ## Templates -/

namespace Resolver

variable {g : Grammar} {r : Resolver} {m : Message}

/-- The place of the text is one word. -/
theorem isBlank_of_mem_placeholder : ∀ c ∈ placeholder.toList, isBlank c = false := by
  have hall : placeholder.toList.all (fun c => !isBlank c) = true := by decide
  intro c hc
  simpa using List.all_eq_true.1 hall c hc

/-- Plain text adds no marks to a template: what is left are those of the other words. -/
theorem marks_fillIn {body input : String} (hbody : Isolated placeholder.toList body.toList)
    (hinput : Invocation.IsPlain g input) :
    g.marks (fillIn body input).toList =
      ((words body.toList).filter (· ≠ placeholder.toList)).filterMap g.mark? := by
  have hnone : ∀ w ∈ words input.toList, g.mark? w = none := by
    intro w hw
    obtain ⟨hcommand, hargument⟩ := hinput.2 w (List.mem_filter.1 hw).1
    simp [Grammar.mark?, hcommand, hargument]
  rw [Grammar.marks, fillIn, String.toList_ofList,
    words_substituteChars (by decide) isBlank_of_mem_placeholder hbody, List.filterMap_flatMap]
  induction words body.toList with
  | nil => rfl
  | cons w ws ih =>
    rw [List.flatMap_cons, ih]
    by_cases hw : w = placeholder.toList
    · simp [hw, List.filterMap_eq_nil_iff.2 hnone]
    · cases hmark : g.mark? w <;> simp [hw, hmark]

/-- The command that a head in a template means. -/
def commandOf (r : Resolver) (m : Message) (head : CommandHead) : Except ChainError Command :=
  match r.registered? { name := head.name, entity? := head.entity? } with
  | none => .error (r.notFound head.name)
  | some command => (checkPlace command m).map fun _ => command

theorem map_command_expandStep (t : Template) (caller i : Invocation) :
    (r.expandStep t caller m i).map ResolvedStep.command = r.commandOf m i.head := by
  have hregistered : r.registered? { name := i.head.name, entity? := i.head.entity? } =
      r.registered? i := rfl
  unfold expandStep commandOf
  rw [hregistered]
  cases r.registered? i with
  | none => rfl
  | some command =>
    simp only
    cases checkPlace command m <;> rfl

/-- The commands of a template are settled by the heads in it. -/
theorem map_command_expand (t : Template) (caller : Invocation) :
    (r.expand t caller m).map (List.map ResolvedStep.command) =
      let heads := (r.templateCommands t caller).map Invocation.head
      if heads = [] then
        .error (.store (.internal s!"template '{t.name}' contains no commands"))
      else if r.templateLimit < heads.length then
        .error (.command (.chainTooLong heads.length r.templateLimit))
      else heads.mapM (r.commandOf m) := by
  rw [expand_eq]
  simp only [List.map_eq_nil_iff, List.length_map]
  split
  · rfl
  · split
    · rfl
    · rw [Fallible.map_mapM, List.mapM_map]
      congr 1
      funext i
      exact map_command_expandStep t caller i

/-! ## The result -/

end Resolver

/-- Whatever users type as the positional text of a template in which the place for it is a word of
its own, what is read of the template is the same but for texts: the same names in the same scopes
with the same keys, one after the other.  So it means the same commands, or it fails with the same
error. -/
theorem user_text_cannot_inject {r : Resolver} (hmark : isBlank r.grammar.commandMark = false)
    {t : Template} (hbody : Resolver.Isolated Resolver.placeholder.toList t.body.toList)
    {c c' : Invocation} (hc : Invocation.IsTyped r.grammar c.positional)
    (hc' : Invocation.IsTyped r.grammar c'.positional) (m : Message) :
    (r.templateCommands t c).map Invocation.outline =
        (r.templateCommands t c').map Invocation.outline ∧
      (r.expand t c m).map (List.map ResolvedStep.command) =
        (r.expand t c' m).map (List.map ResolvedStep.command) := by
  have houtlines : (r.templateCommands t c).map Invocation.outline =
      (r.templateCommands t c').map Invocation.outline := by
    unfold Resolver.templateCommands
    rw [Invocation.outline_parse hmark, Invocation.outline_parse hmark,
      Resolver.marks_fillIn hbody (hc.isPlain hmark),
      Resolver.marks_fillIn hbody (hc'.isPlain hmark)]
  have hheads : (r.templateCommands t c).map Invocation.head =
      (r.templateCommands t c').map Invocation.head := by
    have hfirsts := congrArg (List.map Prod.fst) houtlines
    rwa [List.map_map, List.map_map] at hfirsts
  refine ⟨houtlines, ?_⟩
  rw [Resolver.map_command_expand, Resolver.map_command_expand, hheads]

namespace Loud

/-- A resolver that knows `echo` and `upper`. -/
def resolver : Resolver where
  grammar := {}
  registry :=
    { commands := Dict.ofList [("echo", Builtin.echoCommand), ("upper", Builtin.upperCommand)] }
  store := ({} : CommandStore).access
  templateLimit := 10

/-- A template with two places for its text. -/
def template : Template :=
  { name := "loud", body := "%echo \x7binput\x7d %upper -n \x7binput\x7d" }

/-- An invocation with marks, several words and the name of a place in its text. -/
def wordy : Invocation :=
  { name := "loud", positional := "50 %% -- %1  \x7binput\x7d" }

/-- An invocation without a text. -/
def silent : Invocation :=
  { name := "loud", named := Dict.ofList [("n", "x")] }

def message : Message :=
  { id := "1", channel := "here", author := "someone", content := "" }

/-- Neither text changes what the template means. -/
theorem user_text_stays_text :
    isBlank resolver.grammar.commandMark = false ∧
      Resolver.Isolated Resolver.placeholder.toList template.body.toList ∧
      Invocation.IsTyped resolver.grammar wordy.positional ∧
      Invocation.IsTyped resolver.grammar silent.positional ∧
      (resolver.templateCommands template wordy).map Invocation.outline =
        (resolver.templateCommands template silent).map Invocation.outline ∧
      (resolver.expand template wordy message).map (List.map ResolvedStep.command) =
        (resolver.expand template silent message).map (List.map ResolvedStep.command) ∧
      (resolver.templateCommands template wordy).map Invocation.positional =
        ["50 %% -- %1  \x7binput\x7d", ""] := by
  have hmark : isBlank resolver.grammar.commandMark = false := by decide
  have hbody : Resolver.Isolated Resolver.placeholder.toList template.body.toList := by
    decide +kernel
  have hwordy : Invocation.IsTyped resolver.grammar wordy.positional :=
    ⟨"%loud 50 %% -- %1  \x7binput\x7d", wordy, by decide +kernel, rfl⟩
  have hsilent : Invocation.IsTyped resolver.grammar silent.positional :=
    ⟨"%loud -n x", silent, by decide +kernel, rfl⟩
  obtain ⟨houtlines, hcommands⟩ := user_text_cannot_inject hmark hbody hwordy hsilent message
  exact ⟨hmark, hbody, hwordy, hsilent, houtlines, hcommands, by decide +kernel⟩

end Loud

end ChatChain
