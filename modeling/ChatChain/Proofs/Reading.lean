import ChatChain.Invocation.Reader
import ChatChain.Invocation.Words
import ChatChain.Proofs.Text.Letters
import ChatChain.Proofs.Text.Stretches
import Mathlib.Data.List.TakeWhile

/-!
# Reading a text and reading its words

The grammar of commands is said twice: `Invocation.parse` walks through the characters of a text,
and `Invocation.ofWords` looks at its words.  An `InvocationReader` is a third way, which keeps a
place in the text and looks back from it.  This module proves that all three read the same.

There are five groups.

* The tests.  `marksWords_commandHead?` and `marksWords_argumentKey?` say that the tests for
  marks are about whole words.
* The words.  `commandWord?_eq_some_iff` and `argumentWord?_eq_some_iff` say how the words that are
  marks are written.
* The walk.  `parse_eq_ofWords` is the equality of the first two ways, and `heads_ofWords` says
  which words the invocations come from.
* The reader.  `remaining` is what a reader has still to hand out.  `remaining_step` says that one
  request takes the first of it away, and `answers_eq` is a run of any length.
* The result.  `reading_finds_the_words` puts the three ways together.
-/

namespace ChatChain

open Text

variable {g : Grammar}

/-! ## The tests for marks -/

namespace Grammar

theorem marksWords_commandHead? (hmark : isBlank g.commandMark = false) :
    MarksWords g.commandHead? g.commandWord? where
  front cs := by
    cases cs with
    | nil => rfl
    | cons c cs =>
      rw [commandHead?]
      split
      · next hc =>
        have hblank : isBlank c = false := hc ▸ hmark
        have hword : word (c :: cs) = c :: word cs := by simp [word, hblank]
        rw [hword, commandWord?, if_pos hc]
        rfl
      · next hc =>
        cases hblank : isBlank c with
        | true => simp [word_cons_of_isBlank hblank, commandWord?]
        | false =>
          have hword : word (c :: cs) = c :: word cs := by simp [word, hblank]
          simp [hword, commandWord?, hc]
  gap s hs := by
    cases s with
    | nil => rfl
    | cons c s =>
      have hc : isBlank c = true := List.all_eq_true.1 hs c List.mem_cons_self
      have hne : c ≠ g.commandMark := by
        rintro rfl
        rw [hmark] at hc
        exact absurd hc (by decide)
      simp [commandWord?, hne]

theorem marksWords_argumentKey? (g : Grammar) : MarksWords g.argumentKey? g.argumentWord? where
  front cs := by
    unfold argumentKey? argumentWord?
    cases word cs with
    | nil => rfl
    | cons c key => simp only; split <;> simp
  gap s hs := by
    cases s with
    | nil => rfl
    | cons c key =>
      have hkey : isArgumentKeyChars key = false := by
        cases key with
        | nil => rfl
        | cons d key =>
          exact isIdentifier_of_isBlank _ (List.all_eq_true.1 hs d (by simp)) key
      simp [argumentWord?, hkey]

end Grammar

/-! ## The words of heads and keys -/

namespace CommandHead

/-- A name without a scope reads as itself. -/
theorem ofChars?_name {name : List Char} (h : isCommandNameChars name = true) :
    ofChars? name = some { name := String.ofList name, entity? := none } := by
  have hall : ∀ c ∈ name, (c != entitySeparator) = true := fun c hc => by
    simpa using ne_entitySeparator_of_mem_commandName h hc
  unfold ofChars?
  simp only [List.takeWhile_eq_self_iff.2 hall, List.dropWhile_eq_nil_iff.2 hall, h, if_true]
  rfl

/-- A name ends at the separator, and the scope is what follows it. -/
theorem ofChars?_scoped {name : List Char} (h : isCommandNameChars name = true) (id : List Char) :
    ofChars? (name ++ entitySeparator :: id) =
      some { name := String.ofList name
             entity? := if id = [] then none else some (String.ofList id) } := by
  have hall : ∀ c ∈ name, (c != entitySeparator) = true := fun c hc => by
    simpa using ne_entitySeparator_of_mem_commandName h hc
  unfold ofChars?
  simp only [List.takeWhile_append_of_pos hall, List.dropWhile_append_of_pos hall,
    bne_self_eq_false, Bool.false_eq_true, not_false_eq_true, List.takeWhile_cons_of_neg,
    List.dropWhile_cons_of_neg, List.append_nil, h, if_true, List.drop_succ_cons, List.drop_zero,
    List.isEmpty_iff]

/-- Whether a word is the mark, the name and the scope of a head.  A separator at the end of the
word is followed by no scope. -/
def IsWrittenBy (g : Grammar) (head : CommandHead) (w : List Char) : Prop :=
  ∃ name, isCommandNameChars name = true ∧ head.name = String.ofList name ∧
    (w = g.commandMark :: name ∧ head.entity? = none ∨
      ∃ id, w = g.commandMark :: (name ++ entitySeparator :: id) ∧
        head.entity? = if id = [] then none else some (String.ofList id))

end CommandHead

namespace Grammar

/-- A word begins an invocation exactly when it is written as the head of one. -/
theorem commandWord?_eq_some_iff {w : List Char} {head : CommandHead} :
    g.commandWord? w = some head ↔ head.IsWrittenBy g w := by
  constructor
  · intro h
    cases w with
    | nil => exact absurd h (by simp [commandWord?])
    | cons c cs =>
      rw [commandWord?] at h
      split at h
      · next hc =>
        subst hc
        have hcut :
            cs.takeWhile (· != entitySeparator) ++ cs.dropWhile (· != entitySeparator) = cs :=
          List.takeWhile_append_dropWhile
        have hname : isCommandNameChars (cs.takeWhile (· != entitySeparator)) = true := by
          unfold CommandHead.ofChars? at h
          simp only at h
          split at h
          · assumption
          · exact absurd h (by simp)
        refine ⟨_, hname, ?_⟩
        cases hscope : cs.dropWhile (· != entitySeparator) with
        | nil =>
          rw [hscope, List.append_nil] at hcut
          have hhead := CommandHead.ofChars?_name hname
          rw [hcut, h] at hhead
          obtain rfl := Option.some.inj hhead
          rw [hcut]
          exact ⟨rfl, Or.inl ⟨rfl, rfl⟩⟩
        | cons d id =>
          have hnot := List.head?_dropWhile_not (· != entitySeparator) cs
          rw [hscope] at hnot
          obtain rfl : d = entitySeparator := by simpa using hnot
          rw [hscope] at hcut
          have hhead := CommandHead.ofChars?_scoped hname id
          rw [hcut, h] at hhead
          obtain rfl := Option.some.inj hhead
          exact ⟨rfl, Or.inr ⟨id, by rw [hcut], rfl⟩⟩
      · exact absurd h (by simp)
  · rintro ⟨name, hname, hhead, ⟨rfl, hentity⟩ | ⟨id, rfl, hentity⟩⟩
    · rw [commandWord?, if_pos rfl, CommandHead.ofChars?_name hname, ← hhead, ← hentity]
    · rw [commandWord?, if_pos rfl, CommandHead.ofChars?_scoped hname, ← hhead, ← hentity]

/-- A word begins a named argument exactly when it is the mark and a key. -/
theorem argumentWord?_eq_some_iff {w : List Char} {key : String} :
    g.argumentWord? w = some key ↔ w = g.argumentMark :: key.toList ∧ isArgumentKey key = true := by
  cases w with
  | nil => simp [argumentWord?]
  | cons c cs =>
    simp only [argumentWord?, isArgumentKey, List.cons.injEq]
    constructor
    · intro h
      split at h
      · next hc =>
        obtain rfl := Option.some.inj h
        simpa using hc
      · exact absurd h (by simp)
    · rintro ⟨⟨rfl, rfl⟩, hkey⟩
      simp [hkey]

end Grammar

/-! ## Walking and looking at words -/

namespace Invocation

/-- What follows a head is the same read character by character and word by word. -/
theorem ofRegion_eq_ofHead (g : Grammar) (head : CommandHead) (region : List Char) :
    ofRegion g head region = ofHead g head region := by
  unfold ofRegion ofHead
  rw [(Grammar.marksWords_argumentKey? g).cutAtMarks_eq_cutAtWords]

/-- Reading a text is reading its words. -/
theorem parse_eq_ofWords (hmark : isBlank g.commandMark = false) (text : String) :
    parse g text = ofWords g text := by
  unfold parse parseChars ofWords
  rw [(Grammar.marksWords_commandHead? hmark).cutAtMarks_eq_cutAtWords]
  simp only [ofRegion_eq_ofHead]

/-- The name and the scope of an invocation. -/
def head (i : Invocation) : CommandHead :=
  { name := i.name, entity? := i.entity? }

/-- The invocations of a text come from the words that begin one, in their order. -/
theorem heads_ofWords (g : Grammar) (text : String) :
    (ofWords g text).map head = (stretches text.toList).filterMap g.commandWord? := by
  rw [← map_fst_cutAtWords, ofWords, List.map_map]
  rfl

end Invocation

/-! ## The reader -/

namespace Grammar

/-- The rest of a text from a place on, cut at the heads of invocations. -/
def cutFrom (g : Grammar) (text : List Char) (place : Nat) :
    List Char × List (CommandHead × List Char) :=
  cutAtMarks g.commandHead? (mayBegin text place) (text.drop place)

@[simp] theorem cutFrom_length (g : Grammar) (text : List Char) :
    g.cutFrom text text.length = ([], []) := by
  simp [cutFrom]

theorem mayBegin_succ {text : List Char} {place : Nat} (h : place < text.length) :
    mayBegin text (place + 1) = isBlank text[place] := by
  have hlast : (text.take (place + 1)).getLast? = some text[place] := by
    rw [List.take_succ_eq_append_getElem h, List.getLast?_append]
    simp
  simp [mayBegin, hlast]

/-- A place at which no invocation begins is passed over. -/
theorem cutFrom_of_headAt?_eq_none {text : List Char} {place : Nat} (h : place < text.length)
    (hhead : g.headAt? text place = none) :
    g.cutFrom text place =
      (text[place] :: (g.cutFrom text (place + 1)).1, (g.cutFrom text (place + 1)).2) := by
  have hdrop : text.drop place = text[place] :: text.drop (place + 1) :=
    List.drop_eq_getElem_cons h
  have hmark : (if mayBegin text place then g.commandHead? (text.drop place) else none) = none := by
    unfold headAt? at hhead
    split at hhead
    · next hbegin => simpa [hbegin] using hhead
    · next hbegin => simp [hbegin]
  rw [hdrop] at hmark
  unfold cutFrom
  rw [hdrop, cutAtMarks, hmark, ← mayBegin_succ h]

/-- The places of a head are those of a word in the text. -/
theorem headAt?_eq_some (hmark : isBlank g.commandMark = false) {text : List Char} {place : Nat}
    {found : FoundHead} (h : g.headAt? text place = some found) :
    found.start = place ∧ found.stop = place + (word (text.drop place)).length ∧
      mayBegin text place = true ∧ g.commandWord? (word (text.drop place)) = some found.head := by
  unfold headAt? at h
  split at h
  · next hbegin =>
    rw [(marksWords_commandHead? hmark).front, Option.map_map, Option.map_eq_some_iff] at h
    obtain ⟨head, hword, rfl⟩ := h
    exact ⟨rfl, rfl, hbegin, hword⟩
  · exact absurd h (by simp)

/-- A head is followed by the text up to the next one. -/
theorem cutFrom_of_headAt?_eq_some (hmark : isBlank g.commandMark = false) {text : List Char}
    {place : Nat} {found : FoundHead} (h : g.headAt? text place = some found) :
    g.cutFrom text place =
      ([], (found.head, (g.cutFrom text found.stop).1) :: (g.cutFrom text found.stop).2) := by
  obtain ⟨-, hstop, hbegin, hword⟩ := headAt?_eq_some hmark h
  have hmarks := marksWords_commandHead? hmark
  obtain ⟨r, hsplit, hrest⟩ : ∃ r, text.drop place = word (text.drop place) ++ r ∧
      ∀ d ∈ r.head?, isBlank d = true := exists_eq_word_append _
  have hr : text.drop found.stop = r := by
    rw [hstop, ← List.drop_drop, hsplit, word_append (fun c hc => isBlank_of_mem_word hc) hrest]
    exact List.drop_left
  have hne : word (text.drop place) ≠ [] := fun hnil => by
    rw [hnil] at hword
    exact absurd hword (by simp [commandWord?])
  unfold cutFrom
  rw [hbegin, hsplit, hmarks.cutAtMarks_first hne (fun c hc => isBlank_of_mem_word hc) hrest, hword,
    hr, hmarks.cutAtMarks_fresh (mayBegin text found.stop) hrest]

/-- A search looks at one place after the other. -/
theorem findHead?_step (g : Grammar) {text : List Char} {place : Nat} (h : place < text.length) :
    g.findHead? text place = (g.headAt? text place).or (g.findHead? text (place + 1)) := by
  have hrange : text.length - place = (text.length - (place + 1)) + 1 := by omega
  unfold findHead?
  rw [hrange, List.range'_succ, List.findSome?_cons]
  cases g.headAt? text place <;> rfl

/-- When a search finds nothing, the rest of the text belongs to no invocation. -/
theorem cutFrom_of_findHead?_eq_none {text : List Char} {place : Nat} (h : place ≤ text.length)
    (hfind : g.findHead? text place = none) : g.cutFrom text place = (text.drop place, []) := by
  induction hn : text.length - place generalizing place with
  | zero =>
    obtain rfl : place = text.length := by omega
    simp
  | succ n ih =>
    have hlt : place < text.length := by omega
    rw [findHead?_step g hlt, Option.or_eq_none_iff] at hfind
    have htail := ih (by omega) hfind.2 (by omega)
    rw [cutFrom_of_headAt?_eq_none hlt hfind.1, htail, List.drop_eq_getElem_cons hlt]

/-- A search stops at a head, and the text that it passes over lies in front of it. -/
theorem cutFrom_of_findHead?_eq_some {text : List Char} {place : Nat} {found : FoundHead}
    (hfind : g.findHead? text place = some found) :
    place ≤ found.start ∧ found.start < text.length ∧ g.headAt? text found.start = some found ∧
      g.cutFrom text place =
        ((text.drop place).take (found.start - place) ++ (g.cutFrom text found.start).1,
          (g.cutFrom text found.start).2) := by
  induction hn : text.length - place generalizing place with
  | zero => simp [findHead?, hn] at hfind
  | succ n ih =>
    have hlt : place < text.length := by omega
    rw [findHead?_step g hlt, Option.or_eq_some_iff] at hfind
    rcases hfind with hhere | ⟨hnone, hlater⟩
    · have hstart : found.start = place := by
        unfold headAt? at hhere
        split at hhere
        · obtain ⟨_, _, rfl⟩ := Option.map_eq_some_iff.1 hhere
          rfl
        · exact absurd hhere (by simp)
      rw [hstart]
      exact ⟨Nat.le_refl _, hlt, hhere, by simp⟩
    · obtain ⟨hle, hlt', hhead, hcut⟩ := ih hlater (by omega)
      refine ⟨by omega, hlt', hhead, ?_⟩
      have hsub : found.start - place = (found.start - (place + 1)) + 1 := by omega
      rw [cutFrom_of_headAt?_eq_none hlt hnone, hcut, List.drop_eq_getElem_cons hlt, hsub]
      rfl

end Grammar

namespace InvocationReader

/-- What a reader has still to hand out. -/
def remaining (r : InvocationReader) : List Invocation :=
  (r.grammar.cutFrom r.text r.place).2.map fun part => Invocation.ofRegion r.grammar part.1 part.2

theorem remaining_ofText (g : Grammar) (text : String) :
    (ofText g text).remaining = Invocation.parse g text := rfl

/-- The text between the word of a head and the place at which its invocation ends. -/
theorem region_eq (r : InvocationReader) {place : Nat} (hplace : place ≤ r.text.length)
    (hmark : isBlank r.grammar.commandMark = false) :
    place ≤ r.regionEnd place ∧ r.regionEnd place ≤ r.text.length ∧
      (r.text.drop place).take (r.regionEnd place - place) = (r.grammar.cutFrom r.text place).1 ∧
      (r.grammar.cutFrom r.text (r.regionEnd place)).2 = (r.grammar.cutFrom r.text place).2 := by
  unfold regionEnd
  cases hfind : r.grammar.findHead? r.text place with
  | none =>
    rw [Grammar.cutFrom_of_findHead?_eq_none hplace hfind]
    refine ⟨hplace, Nat.le_refl _, ?_, by simp⟩
    exact List.take_of_length_le (by simp)
  | some found =>
    obtain ⟨hle, hlt, hhead, hcut⟩ := Grammar.cutFrom_of_findHead?_eq_some hfind
    have hat := Grammar.cutFrom_of_headAt?_eq_some hmark hhead
    refine ⟨hle, Nat.le_of_lt hlt, ?_, ?_⟩
    · rw [hcut, hat]
      simp
    · rw [hcut]
      rfl

/-- One request takes the first invocation that remains away.  When none remains the answer is
empty, and none remains afterwards. -/
theorem remaining_step (r : InvocationReader) (hmark : isBlank r.grammar.commandMark = false)
    (hplace : r.place ≤ r.text.length) :
    r.next.1 = r.remaining.head? ∧ r.next.2.remaining = r.remaining.tail ∧
      r.next.2.grammar = r.grammar ∧ r.next.2.text = r.text ∧
      r.next.2.place ≤ r.next.2.text.length := by
  unfold next
  cases hfind : r.grammar.findHead? r.text r.place with
  | none =>
    have hcut := Grammar.cutFrom_of_findHead?_eq_none hplace hfind
    simp [remaining, hcut]
  | some found =>
    obtain ⟨-, hlt, hhead, hcut⟩ := Grammar.cutFrom_of_findHead?_eq_some hfind
    have hat := Grammar.cutFrom_of_headAt?_eq_some hmark hhead
    have hstop : found.stop ≤ r.text.length := by
      obtain ⟨-, hstop, -, -⟩ := Grammar.headAt?_eq_some hmark hhead
      have hword := length_word_le (r.text.drop found.start)
      rw [List.length_drop] at hword
      omega
    obtain ⟨-, hend, hregion, hrest⟩ := r.region_eq hstop hmark
    simp [remaining, hcut, hat, hregion, hrest, hend]

/-- A run of requests hands out what remains in order, and nothing after that. -/
theorem answers_eq (n : Nat) (r : InvocationReader) (hmark : isBlank r.grammar.commandMark = false)
    (hplace : r.place ≤ r.text.length) :
    r.answers n = (List.range n).map fun k => r.remaining[k]? := by
  induction n generalizing r with
  | zero => rfl
  | succ n ih =>
    obtain ⟨hanswer, hremaining, hgrammar, -, hplace'⟩ := r.remaining_step hmark hplace
    rw [answers, ih r.next.2 (hgrammar ▸ hmark) hplace', List.range_succ_eq_map, List.map_cons,
      List.map_map, hanswer, hremaining]
    simp [Function.comp_def, List.head?_eq_getElem?]

end InvocationReader

/-! ## The grammar of a text -/

namespace Invocation

/-- Of the named arguments with one key the last one counts, without the blanks around its text. -/
theorem get?_named_ofHead (g : Grammar) (head : CommandHead) (region : List Char) (key : String) :
    (ofHead g head region).named.get? key =
      ((cutAtWords g.argumentWord? (stretches region)).2.reverse.lookup key).map fun text =>
        String.ofList (trimChars text) := by
  unfold ofHead
  rw [Dict.get?_ofList, ← List.map_reverse,
    Dict.lookup_map_values fun _ text => String.ofList (trimChars text)]

end Invocation

/-- Reading a text, walking through it or with a reader that is asked again and again, yields one
invocation for every word that begins one, in the order of the words, and nothing after the last.
The words that begin invocations and the words that begin named arguments are written as the grammar
says, and of the named arguments with one key the last one counts. -/
theorem reading_finds_the_words (g : Grammar) (hmark : isBlank g.commandMark = false)
    (text : String) :
    Invocation.parse g text = Invocation.ofWords g text ∧
      (Invocation.parse g text).map Invocation.head =
        (stretches text.toList).filterMap g.commandWord? ∧
      (∀ w head, g.commandWord? w = some head ↔ head.IsWrittenBy g w) ∧
      (∀ w key, g.argumentWord? w = some key ↔
        w = g.argumentMark :: key.toList ∧ isArgumentKey key = true) ∧
      (∀ head region key, (Invocation.ofHead g head region).named.get? key =
        ((cutAtWords g.argumentWord? (stretches region)).2.reverse.lookup key).map fun argument =>
          String.ofList (trimChars argument)) ∧
      ∀ n, (InvocationReader.ofText g text).answers n =
        (List.range n).map fun k => (Invocation.ofWords g text)[k]? := by
  have hparse := Invocation.parse_eq_ofWords hmark text
  refine ⟨hparse, ?_, fun w head => Grammar.commandWord?_eq_some_iff,
    fun w key => Grammar.argumentWord?_eq_some_iff, Invocation.get?_named_ofHead g, fun n => ?_⟩
  · rw [hparse, Invocation.heads_ofWords]
  · have hrun := InvocationReader.answers_eq n (InvocationReader.ofText g text) hmark
      (Nat.zero_le _)
    rw [hrun, InvocationReader.remaining_ofText, hparse]

/-- Stray marks, a scope and a repeated key under the usual marks. -/
theorem reading_finds_the_words_usual_marks :
    isBlank ({} : Grammar).commandMark = false ∧
      Invocation.parse {} "hi %% %spin 2 -n a -n b %gif:cats: %" =
        Invocation.ofWords {} "hi %% %spin 2 -n a -n b %gif:cats: %" :=
  have hmark : isBlank ({} : Grammar).commandMark = false := by decide
  ⟨hmark, (reading_finds_the_words {} hmark _).1⟩

end ChatChain
