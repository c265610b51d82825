import ChatChain.Reply

/-!
# The text of a reply

`Reply.merge` changes one text step by step.  What it comes to can be said at once: the texts from
the last replacing step on are joined, and those that are empty leave no trace.

There are three groups.

* Joined texts.  `joinTexts` joins texts on new lines, and `joinTexts_appendText` says that
  appending does so one text at a time.
* Shown steps.  `shownSteps` takes the steps that have a part in the reply.
* The result.  `merge_joins_shown_texts` says what the merge is, how it begins and ends, and what
  further appending steps add to it.
-/

namespace ChatChain.Reply

/-! ## Joined texts -/

/-- The texts that steps have, in order. -/
def texts (steps : List StepSummary) : List String :=
  steps.filterMap StepSummary.text?

/-- Joins texts on new lines, those that are not empty. -/
def joinTexts (texts : List String) : String :=
  "\n".intercalate (texts.filter (· ≠ ""))

variable {text merged : String} {rest : List String}

@[simp] theorem joinTexts_empty_cons (rest : List String) :
    joinTexts ("" :: rest) = joinTexts rest := rfl

theorem joinTexts_cons (h : text ≠ "") :
    joinTexts (text :: rest) = "\n".intercalate (text :: rest.filter (· ≠ "")) := by
  rw [joinTexts, List.filter_cons_of_pos (by simpa using h)]

@[simp] theorem joinTexts_singleton (text : String) : joinTexts [text] = text := by
  by_cases h : text = ""
  · rw [h]
    rfl
  · rw [joinTexts_cons h, List.filter_nil, String.intercalate_singleton]

/-- Appending joins one text at a time. -/
theorem joinTexts_appendText (merged text : String) (rest : List String) :
    joinTexts (appendText merged text :: rest) = joinTexts (merged :: text :: rest) := by
  unfold appendText
  by_cases hmerged : merged = ""
  · simp [hmerged]
  · by_cases htext : text = ""
    · rw [if_neg (by simp [htext]), htext, String.append_empty, joinTexts_cons hmerged,
        joinTexts_cons hmerged]
      rfl
    · have hboth : merged ++ "\n" ++ text ≠ "" := by simp [hmerged]
      rw [if_pos ⟨hmerged, htext⟩, joinTexts_cons hboth, joinTexts_cons hmerged,
        List.filter_cons_of_pos (by simpa using htext), String.intercalate_cons_cons,
        String.intercalate_cons_append]

/-- What is joined begins with the first text that is not empty. -/
theorem prefix_joinTexts {texts : List String} (h : text ∈ (texts.filter (· ≠ "")).head?) :
    text.toList <+: (joinTexts texts).toList := by
  obtain ⟨rest, hrest⟩ := List.head?_eq_some_iff.1 h
  rw [joinTexts, hrest]
  cases rest with
  | nil => simp only [String.intercalate_singleton, List.prefix_rfl]
  | cons other rest =>
    rw [String.intercalate_cons_cons, String.append_assoc, String.toList_append]
    exact List.prefix_append _ _

/-- What is joined ends with the last text that is not empty. -/
theorem suffix_joinTexts {texts : List String} (h : text ∈ (texts.filter (· ≠ "")).getLast?) :
    text.toList <:+ (joinTexts texts).toList := by
  obtain ⟨before, hbefore⟩ := List.getLast?_eq_some_iff.1 h
  rw [joinTexts, hbefore]
  cases before with
  | nil => simp only [List.nil_append, String.intercalate_singleton, List.suffix_rfl]
  | cons first before =>
    rw [String.intercalate_append_of_ne_nil (by simp) (by simp), String.toList_append,
      String.intercalate_singleton]
    exact List.suffix_append _ _

/-! ## Shown steps -/

/-- The steps from the last replacing one on, or all of them when none replaces. -/
def shownSteps : List StepSummary → List StepSummary
  | [] => []
  | step :: rest =>
    if rest.any fun later => later.mode == .replace then shownSteps rest else step :: rest

/-- The texts of the shown steps, those that are not empty. -/
def shownTexts (steps : List StepSummary) : List String :=
  (texts (shownSteps steps)).filter (· ≠ "")

variable {steps more : List StepSummary}

theorem any_replace_eq_false_iff :
    (steps.any fun step => step.mode == .replace) = false ↔
      ∀ step ∈ steps, step.mode = .append := by
  rw [List.any_eq_false]
  refine forall₂_congr fun step _ => ?_
  cases step.mode <;> simp

theorem shownSteps_of_appending (h : ∀ step ∈ steps, step.mode = .append) :
    shownSteps steps = steps := by
  cases steps with
  | nil => rfl
  | cons step rest =>
    rw [shownSteps, any_replace_eq_false_iff.2 (List.forall_mem_cons.1 h).2]
    rfl

theorem shownSteps_of_replacing (before : List StepSummary) {last : StepSummary}
    (hlast : last.mode = .replace) (hmore : ∀ step ∈ more, step.mode = .append) :
    shownSteps (before ++ last :: more) = last :: more := by
  induction before with
  | nil =>
    rw [List.nil_append, shownSteps, any_replace_eq_false_iff.2 hmore]
    rfl
  | cons step before ih =>
    rw [List.cons_append, shownSteps, if_pos, ih]
    simp [hlast]

/-! ## The result -/

/-- Appending steps join their texts to what was merged before. -/
theorem foldl_mergeStep_of_appending (h : ∀ step ∈ steps, step.mode = .append) (merged : String) :
    steps.foldl mergeStep merged = joinTexts (merged :: texts steps) := by
  induction steps generalizing merged with
  | nil => exact (joinTexts_singleton merged).symm
  | cons step rest ih =>
    obtain ⟨hmode, hrest⟩ := List.forall_mem_cons.1 h
    rw [List.foldl_cons, ih hrest]
    unfold mergeStep texts
    cases htext : step.text? with
    | none => simp only [hmode, List.filterMap_cons_none htext]
    | some text => simp only [hmode, List.filterMap_cons_some htext, joinTexts_appendText]

/-- A replacing step takes the place of everything before it. -/
theorem merge_append_replacing (before : List StepSummary) {last : StepSummary}
    (hlast : last.mode = .replace) (more : List StepSummary) :
    merge (before ++ last :: more) = merge (last :: more) := by
  unfold merge
  rw [List.foldl_append, List.foldl_cons, List.foldl_cons, mergeStep, mergeStep, hlast]

/-- Either no step replaces, or there is a last one that does. -/
theorem appending_or_exists_last_replacing (steps : List StepSummary) :
    (∀ step ∈ steps, step.mode = .append) ∨
      ∃ before last more, steps = before ++ last :: more ∧ last.mode = .replace ∧
        ∀ step ∈ more, step.mode = .append := by
  induction steps with
  | nil => exact Or.inl (by simp)
  | cons step rest ih =>
    rcases ih with hrest | ⟨before, last, more, rfl, hlast, hmore⟩
    · cases hmode : step.mode with
      | replace => exact Or.inr ⟨[], step, rest, rfl, hmode, hrest⟩
      | append => exact Or.inl (List.forall_mem_cons.2 ⟨hmode, hrest⟩)
    · exact Or.inr ⟨step :: before, last, more, rfl, hlast, hmore⟩

theorem merge_of_appending (h : ∀ step ∈ steps, step.mode = .append) :
    merge steps = joinTexts (texts steps) :=
  foldl_mergeStep_of_appending h ""

theorem merge_of_replacing {last : StepSummary} (hlast : last.mode = .replace)
    (hmore : ∀ step ∈ more, step.mode = .append) :
    merge (last :: more) = joinTexts (texts (last :: more)) := by
  rw [merge, List.foldl_cons, foldl_mergeStep_of_appending hmore]
  unfold mergeStep texts
  cases htext : last.text? with
  | none => rw [List.filterMap_cons_none htext, hlast]; rfl
  | some text => rw [List.filterMap_cons_some htext, hlast]; rfl

/-- Only the shown steps have a part in the merge, which joins their texts. -/
theorem merge_shownSteps (steps : List StepSummary) :
    merge steps = merge (shownSteps steps) ∧
      merge (shownSteps steps) = joinTexts (texts (shownSteps steps)) := by
  rcases appending_or_exists_last_replacing steps with h | ⟨before, last, more, rfl, hlast, hmore⟩
  · rw [shownSteps_of_appending h]
    exact ⟨rfl, merge_of_appending h⟩
  · rw [shownSteps_of_replacing before hlast hmore]
    exact ⟨merge_append_replacing before hlast more, merge_of_replacing hlast hmore⟩

/-- The merge joins the shown texts.  It depends on nothing before a replacing step, and it
begins and ends with a shown text; further appending steps join their texts to it. -/
theorem merge_joins_shown_texts (steps : List StepSummary) :
    merge steps = "\n".intercalate (shownTexts steps) ∧
      (∀ before last more, steps = before ++ last :: more → last.mode = .replace →
        merge steps = merge (last :: more)) ∧
      (∀ text ∈ (shownTexts steps).head?, text.toList <+: (merge steps).toList) ∧
      (∀ text ∈ (shownTexts steps).getLast?, text.toList <:+ (merge steps).toList) ∧
      ∀ more : List StepSummary, (∀ step ∈ more, step.mode = .append) →
        merge (steps ++ more) = "\n".intercalate ((merge steps :: texts more).filter (· ≠ "")) := by
  obtain ⟨hshown, hjoined⟩ := merge_shownSteps steps
  have hmerge := hshown.trans hjoined
  refine ⟨hmerge, fun before last more hsteps hlast => ?_, fun text htext => ?_,
    fun text htext => ?_, fun more hmore => ?_⟩
  · rw [hsteps]
    exact merge_append_replacing before hlast more
  · exact hmerge ▸ prefix_joinTexts htext
  · exact hmerge ▸ suffix_joinTexts htext
  · exact (List.foldl_append ..).trans (foldl_mergeStep_of_appending hmore _)

namespace Waiting

def step (mode : TextMode) (text? : Option String) : StepSummary :=
  { command := "step", text?, mode }

def run : List StepSummary :=
  [step .replace "secret", step .append "gone", step .replace none, step .append "",
    step .append "first", step .append none, step .append "second"]

/-- What came before the last replacing step is gone, and empty texts leave no empty lines. -/
theorem appended_texts_are_joined :
    (∀ s ∈ [step .append "", step .append "third"], s.mode = .append) ∧
      shownTexts run = ["first", "second"] ∧ merge run = "first\nsecond" ∧
      merge (run ++ [step .append "", step .append "third"]) = "first\nsecond\nthird" := by
  have hmore : ∀ s ∈ [step .append "", step .append "third"], s.mode = .append := by decide
  have htexts : shownTexts run = ["first", "second"] := by decide
  obtain ⟨hmerge, -, -, -, happend⟩ := merge_joins_shown_texts run
  have hjoined : merge run = "first\nsecond" := by
    rw [hmerge, htexts]
    decide
  refine ⟨hmore, htexts, hjoined, ?_⟩
  rw [happend _ hmore, hjoined]
  decide

end Waiting

end ChatChain.Reply
