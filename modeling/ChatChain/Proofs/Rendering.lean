import ChatChain.Definition
import ChatChain.Proofs.Number.Literals
import ChatChain.Proofs.Values

/-!
# Values that were read

A value that was read from a text, written as its own text and read again.  Except for the choices
it is the same value, for the doubles by `Binary64.read?_write`.

A choice is read by its index or by its name up to case, and written as its name.  What becomes of
the name depends on the other names: `ReadsBack` lists the cases in which it stands for its index,
`readsBack_of_name` says that it does when the choice was read by name, and
`rendering_is_lossless_iff` is the result.
-/

namespace ChatChain

open Number

namespace Text

/-! ## Lower case -/

@[simp] theorem isBlank_toLower (c : Char) : isBlank c.toLower = isBlank c := by
  rcases toLower_cases c with h | ⟨hlow, hhigh, h⟩
  · rw [h]
  · simp only [isBlank, h]
    grind

@[simp] theorem isDigit_toLower (c : Char) : c.toLower.isDigit = c.isDigit := by
  rcases toLower_cases c with h | ⟨hlow, hhigh, h⟩
  · rw [h]
  · rw [Bool.eq_iff_iff, isDigit_iff, isDigit_iff]
    omega

theorem toLower_eq_plus_iff {c : Char} : c.toLower = '+' ↔ c = '+' := by
  rcases toLower_cases c with h | ⟨hlow, hhigh, h⟩
  · rw [h]
  · constructor
    · intro hplus
      rw [hplus] at h
      exact absurd h (by simp; omega)
    · rintro rfl
      exact absurd hlow (by decide)

theorem trimChars_map_toLower (cs : List Char) :
    trimChars (cs.map Char.toLower) = (trimChars cs).map Char.toLower := by
  have hblank : isBlank ∘ Char.toLower = isBlank := funext isBlank_toLower
  unfold trimChars trimEndChars
  rw [List.dropWhile_map, hblank, ← List.map_reverse, List.dropWhile_map, hblank, List.map_reverse]

/-- Trimming keeps the length only of a trimmed text. -/
theorem trimChars_eq_self_of_length {cs : List Char} (h : (trimChars cs).length = cs.length) :
    trimChars cs = cs :=
  ((List.rdropWhile_prefix isBlank _).sublist.trans
    (List.dropWhile_sublist isBlank)).eq_of_length h

end Text

namespace Number

open Text

/-- A numeral has no letters. -/
theorem natural?_map_toLower (cs : List Char) : natural? (cs.map Char.toLower) = natural? cs := by
  have hall : (cs.map Char.toLower).all Char.isDigit = cs.all Char.isDigit := by
    simp [List.all_map, Function.comp_def]
  by_cases hdigits : cs.all Char.isDigit = true
  · have hsame : cs.map Char.toLower = cs :=
      (List.map_congr_left fun c hc =>
        toLower_of_isDigit (List.all_eq_true.1 hdigits c hc)).trans (List.map_id cs)
    rw [hsame]
  · simp [natural?, hall, hdigits]

theorem unsigned?_of_ne_plus {c : Char} (h : c ≠ '+') (cs : List Char) :
    unsigned? (c :: cs) = natural? (c :: cs) := by
  unfold unsigned?
  split
  · next heq => cases heq; exact absurd rfl h
  · rfl

theorem unsigned?_map_toLower (cs : List Char) :
    unsigned? (cs.map Char.toLower) = unsigned? cs := by
  cases cs with
  | nil => rfl
  | cons c cs =>
    by_cases hplus : c = '+'
    · subst hplus
      exact natural?_map_toLower cs
    · rw [unsigned?_of_ne_plus hplus, List.map_cons,
        unsigned?_of_ne_plus (mt toLower_eq_plus_iff.1 hplus), ← List.map_cons,
        natural?_map_toLower]

end Number

namespace Value

open Text

/-! ## Doubles -/

/-- A double that was read is read again from its text. -/
theorem coerce?_render_double {raw : String} {choices : List String} {x : Binary64}
    (h : coerce? raw .double choices = some (.double x)) :
    coerce? x.write .double choices = some (.double x) := by
  obtain ⟨y, hy, hxy⟩ := Option.map_eq_some_iff.1 h
  obtain rfl : y = x := Value.double.inj hxy
  obtain ⟨hread, hfinite⟩ := Option.filter_eq_some_iff.1 hy
  have htrim : trimChars y.writeChars = y.writeChars := by
    cases y with
    | nan => cases hfinite
    | infinite negative => cases hfinite
    | finite negative significand exponent =>
      refine trimChars_eq_self fun c hc => ?_
      rcases Binary64.mem_writeChars (Binary64.canonical_of_read? hread) negative hc with
        hdigit | rfl | rfl
      · exact isBlank_of_isDigit hdigit
      · decide
      · decide
  simp only [coerce?, Binary64.write, String.toList_ofList, htrim, Binary64.read?_write hread]
  rw [Option.filter_some, hfinite]
  rfl

/-- Whatever is not a choice is read again from its text. -/
theorem coerce?_render_of_ne_choice {raw : String} {kind : Kind} {choices : List String} {v : Value}
    (h : coerce? raw kind choices = some v) (hkind : kind ≠ .choice) :
    coerce? v.render kind choices = some v := by
  have hv := kind_of_coerce? h
  subst hv
  cases v with
  | double x => exact coerce?_render_double h
  | choice index name => exact absurd rfl hkind
  | text content => exact coerce?_render rfl choices
  | integer n => exact coerce?_render rfl choices
  | long n => exact coerce?_render rfl choices
  | boolean flag => exact coerce?_render rfl choices

/-! ## Choices -/

/-- The index that a token stands for, if it is a number. -/
def index? (token : List Char) : Option Nat :=
  (unsigned? token).filter (· < indexLimit)

theorem index?_eq_some_iff {token : List Char} {index : Nat} :
    index? token = some index ↔ unsigned? token = some index ∧ index < indexLimit := by
  simp only [index?, Option.filter_eq_some_iff, decide_eq_true_eq]

/-- Whether the name at an index is read as that index: it is the number of the index, or it is no
number, has no blanks at its ends, and differs from every earlier name in more than case. -/
def ReadsBack (choices : List String) (index : Nat) (name : String) : Prop :=
  match index? (trimChars name.toList) with
  | some number => number = index
  | none => trimChars name.toList = name.toList ∧
      ∀ earlier ∈ choices.take index, sameIgnoringCase earlier.toList name.toList = false

theorem sameIgnoringCase_iff {a b : List Char} :
    sameIgnoringCase a b = true ↔ a.map Char.toLower = b.map Char.toLower :=
  beq_iff_eq

variable {token : List Char} {choices : List String} {index : Nat} {name : String}

theorem indexOfChoice?_eq_some_iff (hname : choices[index]? = some name) :
    indexOfChoice? token choices = some index ↔
      sameIgnoringCase name.toList token = true ∧
        ∀ earlier ∈ choices.take index, sameIgnoringCase earlier.toList token = false := by
  obtain ⟨hindex, rfl⟩ := List.getElem?_eq_some_iff.1 hname
  rw [indexOfChoice?, List.findIdx?_eq_some_iff_getElem]
  constructor
  · rintro ⟨_, hsame, hearlier⟩
    refine ⟨hsame, fun earlier hmem => ?_⟩
    obtain ⟨j, hj, rfl⟩ := List.mem_take_iff_getElem.1 hmem
    simpa using hearlier j (by omega)
  · rintro ⟨hsame, hearlier⟩
    refine ⟨hindex, hsame, fun j hj => ?_⟩
    simpa using hearlier _ (List.mem_take_iff_getElem.2 ⟨j, by omega, rfl⟩)

/-- What a token is read as, given what is declared. -/
theorem choice?_eq_some_iff :
    choice? token choices = some (.choice index name) ↔ choices[index]? = some name ∧
      match index? token with
      | some number => number = index
      | none => indexOfChoice? token choices = some index := by
  have hpick : ∀ n : Nat, choices[n]?.map (Value.choice n) = some (.choice index name) ↔
      choices[index]? = some name ∧ n = index := by
    intro n
    rw [Option.map_eq_some_iff]
    constructor
    · rintro ⟨found, hfound, heq⟩
      obtain ⟨rfl, rfl⟩ := Value.choice.inj heq
      exact ⟨hfound, rfl⟩
    · rintro ⟨hname, rfl⟩
      exact ⟨name, hname, rfl⟩
  unfold choice? index?
  cases (unsigned? token).filter (· < indexLimit) with
  | some n => exact hpick n
  | none =>
    simp only [Option.bind_eq_some_iff, hpick]
    constructor
    · rintro ⟨n, hn, hname, rfl⟩
      exact ⟨hname, hn⟩
    · rintro ⟨hname, hindex⟩
      exact ⟨index, hindex, hname, rfl⟩

/-- A declared name is read as its index in the cases that `ReadsBack` lists. -/
theorem readsBack_iff (hname : choices[index]? = some name) :
    coerce? name .choice choices = some (.choice index name) ↔ ReadsBack choices index name := by
  show choice? (trimChars name.toList) choices = _ ↔ _
  rw [choice?_eq_some_iff, ReadsBack]
  simp only [hname, true_and]
  cases index? (trimChars name.toList) with
  | some number => rfl
  | none =>
    simp only [indexOfChoice?_eq_some_iff hname]
    constructor
    · rintro ⟨hsame, hearlier⟩
      have hlength := congrArg List.length (sameIgnoringCase_iff.1 hsame)
      rw [List.length_map, List.length_map] at hlength
      have htrim := trimChars_eq_self_of_length hlength.symm
      rw [htrim] at hearlier
      exact ⟨htrim, hearlier⟩
    · rintro ⟨htrim, hearlier⟩
      rw [htrim]
      exact ⟨sameIgnoringCase_iff.2 rfl, hearlier⟩

/-- A name by which a choice was read is read again: the name that is declared differs from it in
case only. -/
theorem readsBack_of_name {raw : String} (hnumber : index? (trimChars raw.toList) = none)
    (h : coerce? raw .choice choices = some (.choice index name)) :
    ReadsBack choices index name := by
  obtain ⟨hname, hindex⟩ := choice?_eq_some_iff.1 h
  rw [hnumber] at hindex
  obtain ⟨hsame, hearlier⟩ := (indexOfChoice?_eq_some_iff hname).1 hindex
  rw [sameIgnoringCase_iff] at hsame
  have htrim : trimChars name.toList = name.toList := by
    refine trimChars_eq_self_of_length ?_
    have hlower : (trimChars name.toList).map Char.toLower = name.toList.map Char.toLower := by
      rw [← trimChars_map_toLower, hsame, trimChars_map_toLower, trimChars_trimChars]
    simpa using congrArg List.length hlower
  have hnone : index? (trimChars name.toList) = none := by
    rw [htrim, index?, ← unsigned?_map_toLower, hsame, unsigned?_map_toLower]
    exact hnumber
  unfold ReadsBack
  rw [hnone]
  refine ⟨htrim, fun earlier hmem => ?_⟩
  rw [Bool.eq_false_iff, Ne, sameIgnoringCase_iff, hsame, ← sameIgnoringCase_iff,
    hearlier earlier hmem]
  decide

/-- The numeral of an index reads the choice at the index. -/
theorem coerce?_numeral (hindex : index < indexLimit) (hname : choices[index]? = some name) :
    coerce? (writeNat index) .choice choices = some (.choice index name) := by
  have hdigits : trimChars (writeNat index).toList = digits index := by
    rw [writeNat, String.toList_ofList]
    exact trimChars_eq_self fun c hc => isBlank_of_isDigit (isDigit_of_mem_digits hc)
  have hnumber : unsigned? (digits index) = some index := by
    obtain ⟨c, cs, hcons⟩ := List.exists_cons_of_ne_nil (digits_ne_nil index)
    have hplus : c ≠ '+' := by
      rintro rfl
      exact absurd (isDigit_of_mem_digits (n := index) (hcons ▸ List.mem_cons_self)) (by decide)
    rw [hcons, unsigned?_of_ne_plus hplus, ← hcons, natural?_digits]
  show choice? (trimChars (writeNat index).toList) choices = _
  rw [choice?_eq_some_iff, hdigits, index?_eq_some_iff.2 ⟨hnumber, hindex⟩]
  exact ⟨hname, rfl⟩

/-- What is lost of a value that was read. -/
theorem coerce?_render_ne_iff {raw : String} {kind : Kind} {v : Value}
    (h : coerce? raw kind choices = some v) :
    coerce? v.render kind choices ≠ some v ↔
      ∃ index name, kind = .choice ∧ v = .choice index name ∧
        index? (trimChars raw.toList) = some index ∧ ¬ReadsBack choices index name := by
  constructor
  · intro hlost
    have hkind : kind = .choice := by
      by_contra hne
      exact hlost (coerce?_render_of_ne_choice h hne)
    subst hkind
    obtain ⟨index, name, rfl⟩ : ∃ index name, v = .choice index name := by
      cases v <;> first | exact ⟨_, _, rfl⟩ | cases kind_of_coerce? h
    obtain ⟨hname, hindex⟩ := choice?_eq_some_iff.1 h
    have hnot : ¬ReadsBack choices index name :=
      fun hreads => hlost ((readsBack_iff hname).2 hreads)
    refine ⟨index, name, rfl, rfl, ?_, hnot⟩
    cases hnumber : index? (trimChars raw.toList) with
    | none => exact absurd (readsBack_of_name hnumber h) hnot
    | some number => rw [hnumber] at hindex; rw [hindex]
  · rintro ⟨index, name, rfl, rfl, -, hnot⟩ hread
    exact hnot ((readsBack_iff (choice?_eq_some_iff.1 h).1).1 hread)

/-- **When the text of a value that was read is read as the value.**

Values of all kinds but the choices are, and so are the choices that were read by their names.  A
choice that was read by its index is if `ReadsBack` says so of its name; thus nothing is lost with a
list of choices exactly if it does of every name that has an index to be read by. -/
theorem rendering_is_lossless_iff (kind : Kind) (choices : List String) :
    ((∀ raw v, coerce? raw kind choices = some v → coerce? v.render kind choices = some v) ↔
      (kind = .choice → ∀ index name, index < indexLimit → choices[index]? = some name →
        ReadsBack choices index name)) ∧
    ∀ raw v, coerce? raw kind choices = some v →
      (coerce? v.render kind choices ≠ some v ↔
        ∃ index name, kind = .choice ∧ v = .choice index name ∧
          index? (trimChars raw.toList) = some index ∧ ¬ReadsBack choices index name) := by
  refine ⟨⟨?_, ?_⟩, fun raw v h => coerce?_render_ne_iff h⟩
  · rintro hlossless rfl index name hindex hname
    have hread := hlossless (writeNat index) (.choice index name) (coerce?_numeral hindex hname)
    exact (readsBack_iff hname).1 hread
  · intro hreads raw v h
    by_contra hlost
    obtain ⟨index, name, rfl, rfl, hnumber, hnot⟩ := (coerce?_render_ne_iff h).1 hlost
    obtain ⟨-, hindex⟩ := index?_eq_some_iff.1 hnumber
    exact hnot (hreads rfl index name hindex (choice?_eq_some_iff.1 h).1)

/-- Three different words are read back, whether they are chosen by name or by number. -/
theorem words_are_lossless :
    ∀ raw v, coerce? raw .choice ["upper", "lower", "title"] = some v →
      coerce? v.render .choice ["upper", "lower", "title"] = some v := by
  refine (rendering_is_lossless_iff .choice ["upper", "lower", "title"]).1.2 ?_
  rintro - index name - hname
  match index, hname with
  | 0, rfl => exact ⟨by decide, by decide⟩
  | 1, rfl => exact ⟨by decide, by decide⟩
  | 2, rfl => exact ⟨by decide, by decide⟩

/-- An accepted command whose choices are the digits in descending order. -/
def countdown : Definition where
  name := "countdown"
  arguments := [{ key := "from", kind := .choice, choices := ["1", "0"] }]
  input := .nothing
  output := .nothing

/-- The first of the two choices is named like the index of the second. -/
theorem index_is_lost :
    countdown.check = .ok () ∧
      ∀ a ∈ countdown.arguments,
        coerce? "0" a.kind a.choices = some (.choice 0 "1") ∧
          coerce? (Value.choice 0 "1").render a.kind a.choices = some (.choice 1 "0") := by
  decide

end Value

end ChatChain
