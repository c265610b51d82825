import ChatChain.Resolution
import ChatChain.Settings
import Mathlib.Data.List.Pairwise

/-!
# Looking templates up

A look-up takes the first template that fits.  Which one is first matters only when two templates
share a name and a scope, and a settings file without a fault has no such two, so that the order of
its templates says nothing.

There are three groups.

* First matches.  `CommandStore.IsFirst` is the template that one pass over a store finds, and
  `CommandStore.Answers` relates a look-up to its answer; `findTemplate?_eq_iff` says that it has
  this answer and no other.
* Different templates.  `Template.Distinct.templateIn?_eq_some_iff` says that among different
  templates it is enough to be stored, so that `findTemplate?_eq_of_perm` need not look at their
  order.
* Settings files.  `check_eq_ok_of_perm` says that the order does not make a fault, and
  `template_order_says_nothing` what this means for look-ups and for messages.
-/

namespace ChatChain

/-- Whether a template has this name and this scope, where the scope of a global one is none. -/
def Template.IsFor (t : Template) (name : String) (scope? : Option String) : Prop :=
  t.name = name ∧ t.scope? = scope?

theorem Template.isFor_iff {t : Template} {name : String} {scope? : Option String} :
    (t.name == name && t.scope? == scope?) = true ↔ t.IsFor name scope? := by
  simp [IsFor]

theorem Template.clashes_comm (t u : Template) : t.clashes u = u.clashes t := by
  simp only [clashes, Bool.beq_comm]

theorem Template.clashes_eq_true_iff {t u : Template} :
    t.clashes u = true ↔ t.IsFor u.name u.scope? :=
  isFor_iff

namespace CommandStore

variable {s s' : CommandStore} {name : String} {scope? : Option String} {t u : Template}
  {answer : Option Template}

/-! ## First matches -/

/-- Whether a template is the first one with this name and scope. -/
def IsFirst (s : CommandStore) (name : String) (scope? : Option String) (t : Template) : Prop :=
  ∃ earlier later, s.templates = earlier ++ t :: later ∧ t.IsFor name scope? ∧
    ∀ u ∈ earlier, ¬ u.IsFor name scope?

theorem IsFirst.isFor (h : s.IsFirst name scope? t) : t.IsFor name scope? := by
  obtain ⟨_, _, _, hfor, _⟩ := h
  exact hfor

theorem IsFirst.mem (h : s.IsFirst name scope? t) : t ∈ s.templates := by
  obtain ⟨_, _, hsplit, _, _⟩ := h
  exact hsplit ▸ List.mem_append_cons_self

/-- Whether no template has this name and scope. -/
def HasNone (s : CommandStore) (name : String) (scope? : Option String) : Prop :=
  ∀ u ∈ s.templates, ¬ u.IsFor name scope?

/-- How the look-up of a name is answered.  A global template counts only when the scope has none
of this name, and without a scope only the global ones count. -/
inductive Answers (s : CommandStore) (name : String) : Option String → Option Template → Prop
  | ofScope {scope : String} {t : Template} (h : s.IsFirst name (some scope) t) :
      Answers s name (some scope) (some t)
  | ofAll {scope? : Option String} {t : Template}
      (hscope : ∀ scope, scope? = some scope → s.HasNone name (some scope))
      (h : s.IsFirst name none t) : Answers s name scope? (some t)
  | nothing {scope? : Option String}
      (hscope : ∀ scope, scope? = some scope → s.HasNone name (some scope))
      (h : s.HasNone name none) : Answers s name scope? none

/-- One pass over a store finds the first template. -/
theorem templateIn?_eq_some_iff :
    s.templateIn? name scope? = some t ↔ s.IsFirst name scope? t := by
  simp only [templateIn?, List.find?_eq_some_iff_append, Template.isFor_iff, Bool.not_eq_true',
    ← Bool.not_eq_true, IsFirst]
  constructor
  · rintro ⟨hfor, earlier, later, hsplit, hearlier⟩
    exact ⟨earlier, later, hsplit, hfor, hearlier⟩
  · rintro ⟨earlier, later, hsplit, hfor, hearlier⟩
    exact ⟨hfor, earlier, later, hsplit, hearlier⟩

/-- It finds nothing when there is none. -/
theorem templateIn?_eq_none_iff : s.templateIn? name scope? = none ↔ s.HasNone name scope? := by
  simp only [templateIn?, List.find?_eq_none, Template.isFor_iff, HasNone]

theorem findTemplate?_some (scope : String) :
    s.findTemplate? name (some scope) =
      (s.templateIn? name (some scope)).or (s.templateIn? name none) :=
  rfl

theorem findTemplate?_none : s.findTemplate? name none = s.templateIn? name none :=
  rfl

/-- Where the scope has no template of a name, the global ones count. -/
theorem findTemplate?_of_hasNone (h : ∀ scope, scope? = some scope → s.HasNone name (some scope)) :
    s.findTemplate? name scope? = s.templateIn? name none := by
  cases scope? with
  | none => exact findTemplate?_none
  | some scope =>
    rw [findTemplate?_some, templateIn?_eq_none_iff.2 (h scope rfl), Option.none_or]

/-- A look-up has an answer of the kind described, and no other. -/
theorem findTemplate?_eq_iff :
    s.findTemplate? name scope? = answer ↔ s.Answers name scope? answer := by
  constructor
  · rintro rfl
    by_cases h : ∃ scope t, scope? = some scope ∧ s.IsFirst name (some scope) t
    · obtain ⟨scope, t, rfl, ht⟩ := h
      rw [findTemplate?_some, templateIn?_eq_some_iff.2 ht]
      exact .ofScope ht
    have hscope (scope) (hsome : scope? = some scope) : s.HasNone name (some scope) := by
      rw [← templateIn?_eq_none_iff, Option.eq_none_iff_forall_ne_some]
      exact fun t ht => h ⟨scope, t, hsome, templateIn?_eq_some_iff.1 ht⟩
    rw [findTemplate?_of_hasNone hscope]
    cases hglobal : s.templateIn? name none with
    | none => exact .nothing hscope (templateIn?_eq_none_iff.1 hglobal)
    | some t => exact .ofAll hscope (templateIn?_eq_some_iff.1 hglobal)
  · intro h
    cases h with
    | ofScope h => rw [findTemplate?_some, templateIn?_eq_some_iff.2 h, Option.some_or]
    | ofAll hscope h => rw [findTemplate?_of_hasNone hscope, templateIn?_eq_some_iff.2 h]
    | nothing hscope h => rw [findTemplate?_of_hasNone hscope, templateIn?_eq_none_iff.2 h]

/-- What is found has the name, and belongs to the scope that was asked for unless it is global. -/
theorem Answers.isFor (h : s.Answers name scope? (some t)) :
    t.IsFor name scope? ∨ t.IsFor name none := by
  cases h with
  | ofScope h => exact .inl h.isFor
  | ofAll _ h => exact .inr h.isFor

end CommandStore

/-! ## Different templates -/

/-- Whether no two templates of a list have the same name and scope. -/
def Template.Distinct (templates : List Template) : Prop :=
  templates.Pairwise fun a b => b.clashes a = false

namespace Template.Distinct

variable {s s' : CommandStore} {templates templates' : List Template} {name : String}
  {scope? : Option String} {t u : Template}

theorem of_perm (h : Distinct templates) (hperm : templates'.Perm templates) :
    Distinct templates' :=
  hperm.pairwise_iff (fun hab => by rwa [clashes_comm]) |>.2 h

theorem eq_of_isFor (h : Distinct templates) (ht : t ∈ templates) (hu : u ∈ templates)
    (htfor : t.IsFor name scope?) (hufor : u.IsFor name scope?) : t = u := by
  have : Std.Symm fun a b : Template => b.clashes a = false :=
    ⟨fun a b hab => by rwa [clashes_comm]⟩
  by_contra hne
  have hclash := h.forall ht hu hne
  rw [← Bool.not_eq_true, clashes_eq_true_iff] at hclash
  exact hclash ⟨hufor.1.trans htfor.1.symm, hufor.2.trans htfor.2.symm⟩

/-- Among different templates, whatever is stored is found. -/
theorem templateIn?_eq_some_iff (h : Distinct s.templates) :
    s.templateIn? name scope? = some t ↔ t ∈ s.templates ∧ t.IsFor name scope? := by
  constructor
  · intro hfind
    have hfirst := CommandStore.templateIn?_eq_some_iff.1 hfind
    exact ⟨hfirst.mem, hfirst.isFor⟩
  · rintro ⟨hmem, hfor⟩
    cases hfind : s.templateIn? name scope? with
    | none => exact absurd hfor (CommandStore.templateIn?_eq_none_iff.1 hfind t hmem)
    | some u =>
      have hfirst := CommandStore.templateIn?_eq_some_iff.1 hfind
      rw [h.eq_of_isFor hfirst.mem hmem hfirst.isFor hfor]

/-- The order of different templates says nothing. -/
theorem findTemplate?_eq_of_perm (h : Distinct s.templates)
    (hperm : s'.templates.Perm s.templates) (name : String) (scope? : Option String) :
    s'.findTemplate? name scope? = s.findTemplate? name scope? := by
  have hpass (scope?) : s'.templateIn? name scope? = s.templateIn? name scope? := by
    refine Option.ext fun t => ?_
    rw [(h.of_perm hperm).templateIn?_eq_some_iff, h.templateIn?_eq_some_iff, hperm.mem_iff]
  simp only [CommandStore.findTemplate?, hpass]

end Template.Distinct

/-! ## Settings files -/

namespace SettingsFile

variable {file : SettingsFile} {templates : List Template}

/-- A file without a fault has none in any other order of its templates. -/
theorem check_eq_ok_of_perm (h : file.check = .ok ()) (hperm : templates.Perm file.templates) :
    { file with templates }.check = .ok () := by
  rw [check_eq_ok_iff] at h ⊢
  have hsound : SoundTemplates templates :=
    { names := fun t ht => h.templates.names t (hperm.mem_iff.1 ht)
      bodies := fun t ht => h.templates.bodies t (hperm.mem_iff.1 ht)
      distinct := Template.Distinct.of_perm h.templates.distinct hperm }
  exact { h with templates := hsound }

/-- What is found among its templates is the same in any order. -/
theorem findTemplate?_eq_of_perm (h : file.check = .ok ())
    (hperm : templates.Perm file.templates) (flags : Flags) (name : String)
    (scope? : Option String) :
    (Settings.resolve { file with templates } flags).store.findTemplate? name scope? =
      (Settings.resolve file flags).store.findTemplate? name scope? :=
  have hsound := ((check_eq_ok_iff file).1 h).templates
  have hdistinct : Template.Distinct file.templates := hsound.distinct
  hdistinct.findTemplate?_eq_of_perm hperm name scope?

theorem access_eq_of_perm (h : file.check = .ok ()) (hperm : templates.Perm file.templates)
    (flags : Flags) :
    (Settings.resolve { file with templates } flags).store.access =
      (Settings.resolve file flags).store.access := by
  simp only [CommandStore.access, findTemplate?_eq_of_perm h hperm]
  rfl

/-- A look-up answers with the first template of the name and the scope, if a scope is given and has
one, and else with the first global one; in particular with none of another scope.  When a settings
file has no fault, its templates may stand in any other order: there is still no fault, every
look-up has the same answer, and every message resolves as before. -/
theorem template_order_says_nothing :
    (∀ (s : CommandStore) (name : String) (scope? : Option String),
      (∀ answer, s.findTemplate? name scope? = answer ↔ s.Answers name scope? answer) ∧
        ∀ t, s.findTemplate? name scope? = some t →
          t.name = name ∧ (t.scope? = scope? ∨ t.scope? = none)) ∧
    ∀ (file : SettingsFile) (templates : List Template),
      file.check = .ok () → templates.Perm file.templates →
        { file with templates }.check = .ok () ∧
        ∀ flags : Flags,
          let store := (Settings.resolve file flags).store
          let store' := (Settings.resolve { file with templates } flags).store
          (∀ name scope?, store'.findTemplate? name scope? = store.findTemplate? name scope?) ∧
          ∀ (r : Resolver) (m : Message) (invocations : List Invocation),
            { r with store := store'.access, storeAt := fun _ => store'.access }.resolveAll m
                invocations =
              { r with store := store.access, storeAt := fun _ => store.access }.resolveAll m
                invocations := by
  refine ⟨fun s name scope? => ⟨fun answer => CommandStore.findTemplate?_eq_iff, fun t ht => ?_⟩,
    fun file templates h hperm => ⟨check_eq_ok_of_perm h hperm, fun flags => ?_⟩⟩
  · rcases (CommandStore.findTemplate?_eq_iff.1 ht).isFor with hfor | hfor
    · exact ⟨hfor.1, .inl hfor.2⟩
    · exact ⟨hfor.1, .inr hfor.2⟩
  · refine ⟨findTemplate?_eq_of_perm h hperm flags, fun r m invocations => ?_⟩
    rw [access_eq_of_perm h hperm]

/-- Greetings for everyone, for a scope and for the scope without a name. -/
def greetings : SettingsFile where
  templates :=
    [{ name := "greet", body := "%echo all" },
      { name := "greet", scope? := some "", body := "%echo nameless" },
      { name := "greet", scope? := some "g1", body := "%echo first" }]

/-- The scope without a name is a scope, in whatever order its template is stored. -/
theorem scope_without_a_name_is_a_scope :
    let reversed := { greetings with templates := greetings.templates.reverse }
    let store := (Settings.resolve reversed {}).store
    greetings.check = .ok () ∧ reversed.check = .ok () ∧
      (store.findTemplate? "greet" (some "")).map Template.body = some "%echo nameless" ∧
      (store.findTemplate? "greet" (some "g1")).map Template.body = some "%echo first" ∧
      (store.findTemplate? "greet" (some "g2")).map Template.body = some "%echo all" ∧
      (store.findTemplate? "greet" none).map Template.body = some "%echo all" := by
  have hcheck : greetings.check = .ok () := rfl
  obtain ⟨hreversed, hsame⟩ :=
    template_order_says_nothing.2 greetings _ hcheck greetings.templates.reverse_perm
  obtain ⟨hlookup, -⟩ := hsame {}
  refine ⟨hcheck, hreversed, ?_⟩
  simp only [hlookup]
  decide +kernel

end SettingsFile
end ChatChain
