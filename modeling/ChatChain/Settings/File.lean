import ChatChain.CommandStore
import ChatChain.Grammar
import ChatChain.Text.Blank

/-!
# Settings files

What a settings file may say, and when it makes sense.  Everything in it is optional; `check` finds
the first fault of a file.

* `SettingsFault` lists the faults, with their wording in `SettingsFault.message`.
* `SettingsFile.check_eq_ok_iff` says which files have no fault.
-/

namespace ChatChain

/-- How the bot shall run. -/
structure RuntimeSettings where
  tempRoot? : Option String := none
  chainLimit? : Option Nat := none
  /-- In milliseconds; zero stands for no timeout. -/
  stepTimeout? : Option Nat := none
  templateLimit? : Option Nat := none
  deriving DecidableEq, Repr

/-- What the platform shall accept. -/
structure LimitSettings where
  maxText? : Option Nat := none
  maxFileSize? : Option Nat := none
  maxFiles? : Option Nat := none
  deriving DecidableEq, Repr

/-- Who is banned. -/
structure BanSettings where
  users : List String := []
  guilds : List String := []
  deriving DecidableEq, Repr

/-- What a settings file says. -/
structure SettingsFile where
  grammar : Grammar := {}
  runtime : RuntimeSettings := {}
  limits : LimitSettings := {}
  templates : List Template := []
  bans : BanSettings := {}
  deriving DecidableEq, Repr

/-- Why a settings file makes no sense. -/
inductive SettingsFault where
  | equalMarks (mark : Char)
  | blankMark
  | zeroChainLimit
  | zeroTemplateLimit
  | templateName (name : String)
  | blankBody (name : String)
  | duplicateTemplate (name : String) (scope? : Option String)
  deriving DecidableEq, Repr

namespace SettingsFault

/-- The wording of a fault. -/
def message : SettingsFault → String
  | equalMarks mark => s!"grammar prefix and named_prefix must differ (both are '{mark}')"
  | blankMark => "grammar prefixes cannot be whitespace"
  | zeroChainLimit => "runtime.max_chain_length must be greater than 0"
  | zeroTemplateLimit => "runtime.max_template_commands must be greater than 0"
  | templateName name => s!"template name '{name}' is not a valid command name"
  | blankBody name => s!"template '{name}' has an empty body"
  | duplicateTemplate name scope? =>
    let scope := scope?.getD "global"
    s!"duplicate template '{name}' for scope {scope}"

end SettingsFault

/-- Whether two templates have the same name and scope, so that a look-up cannot tell them
apart. -/
def Template.clashes (a b : Template) : Bool :=
  a.name == b.name && a.scope? == b.scope?

namespace SettingsFile

/-- The first fault of the templates that follow the templates `seen`. -/
def checkTemplates (seen : List Template) : List Template → Except SettingsFault Unit
  | [] => .ok ()
  | t :: rest =>
    if !isCommandName t.name then .error (.templateName t.name)
    else if Text.isBlankText t.body then .error (.blankBody t.name)
    else if seen.any t.clashes then .error (.duplicateTemplate t.name t.scope?)
    else checkTemplates (t :: seen) rest

/-- The first fault of a file. -/
def check (f : SettingsFile) : Except SettingsFault Unit :=
  if f.grammar.commandMark = f.grammar.argumentMark then .error (.equalMarks f.grammar.commandMark)
  else if Text.isBlank f.grammar.commandMark || Text.isBlank f.grammar.argumentMark then
    .error .blankMark
  else if f.runtime.chainLimit? = some 0 then .error .zeroChainLimit
  else if f.runtime.templateLimit? = some 0 then .error .zeroTemplateLimit
  else checkTemplates [] f.templates

/-! ## Files without a fault -/

/-- What the templates of a file must satisfy. -/
structure SoundTemplates (templates : List Template) : Prop where
  names : ∀ t ∈ templates, isCommandName t.name = true
  bodies : ∀ t ∈ templates, Text.isBlankText t.body = false
  distinct : templates.Pairwise fun a b => b.clashes a = false

/-- What a file must satisfy. -/
structure Sound (f : SettingsFile) : Prop where
  marks : f.grammar.commandMark ≠ f.grammar.argumentMark
  commandMark : Text.isBlank f.grammar.commandMark = false
  argumentMark : Text.isBlank f.grammar.argumentMark = false
  chainLimit : f.runtime.chainLimit? ≠ some 0
  templateLimit : f.runtime.templateLimit? ≠ some 0
  templates : SoundTemplates f.templates

theorem checkTemplates_eq_ok_iff (seen templates : List Template) :
    checkTemplates seen templates = .ok () ↔
      SoundTemplates templates ∧ ∀ t ∈ templates, ∀ s ∈ seen, t.clashes s = false := by
  induction templates generalizing seen with
  | nil => simpa [checkTemplates] using SoundTemplates.mk (by simp) (by simp) .nil
  | cons t rest ih =>
    rw [checkTemplates]
    by_cases hname : isCommandName t.name = true
    case neg =>
      simp only [hname, Bool.not_false, if_true]
      exact ⟨(nomatch ·), fun h => absurd (h.1.names t List.mem_cons_self) hname⟩
    by_cases hbody : Text.isBlankText t.body = true
    case pos =>
      simp only [hname, hbody, Bool.not_true, Bool.false_eq_true, if_false, if_true]
      refine ⟨(nomatch ·), fun h => ?_⟩
      rw [h.1.bodies t List.mem_cons_self] at hbody
      exact absurd hbody (by decide)
    by_cases hseen : seen.any t.clashes = true
    case pos =>
      simp only [hname, hbody, hseen, Bool.not_true, Bool.false_eq_true, if_false, if_true]
      refine ⟨(nomatch ·), fun h => ?_⟩
      obtain ⟨s, hs, hclash⟩ := List.any_eq_true.1 hseen
      rw [h.2 t List.mem_cons_self s hs] at hclash
      exact absurd hclash (by decide)
    simp only [hname, hbody, hseen, Bool.not_true, Bool.false_eq_true, if_false]
    rw [ih]
    constructor
    · rintro ⟨h, hall⟩
      refine ⟨⟨?_, ?_, ?_⟩, ?_⟩
      · exact List.forall_mem_cons.2 ⟨hname, h.names⟩
      · exact List.forall_mem_cons.2 ⟨by simpa using hbody, h.bodies⟩
      · exact List.pairwise_cons.2 ⟨fun s hs => hall s hs t List.mem_cons_self, h.distinct⟩
      · intro u hu s hs
        rcases List.mem_cons.1 hu with rfl | hu
        · exact Bool.eq_false_iff.2 fun hc => hseen (List.any_eq_true.2 ⟨s, hs, hc⟩)
        · exact hall u hu s (List.mem_cons_of_mem _ hs)
    · rintro ⟨h, hall⟩
      obtain ⟨hfirst, hrest⟩ := List.pairwise_cons.1 h.distinct
      refine ⟨⟨fun u hu => h.names u (List.mem_cons_of_mem _ hu),
        fun u hu => h.bodies u (List.mem_cons_of_mem _ hu), hrest⟩, ?_⟩
      intro u hu s hs
      rcases List.mem_cons.1 hs with rfl | hs
      · exact hfirst u hu
      · exact hall u (List.mem_cons_of_mem _ hu) s hs

/-- A file has no fault exactly when it is sound. -/
theorem check_eq_ok_iff (f : SettingsFile) : f.check = .ok () ↔ f.Sound := by
  rw [check]
  split
  · next h => exact ⟨(nomatch ·), fun s => absurd h s.marks⟩
  · next hmarks =>
    split
    · next h =>
      refine ⟨(nomatch ·), fun s => ?_⟩
      simp [s.commandMark, s.argumentMark] at h
    · next hblank =>
      simp only [Bool.or_eq_true, not_or, Bool.not_eq_true] at hblank
      split
      · next h => exact ⟨(nomatch ·), fun s => absurd h s.chainLimit⟩
      · next hchain =>
        split
        · next h => exact ⟨(nomatch ·), fun s => absurd h s.templateLimit⟩
        · next htemplate =>
          rw [checkTemplates_eq_ok_iff]
          exact ⟨fun h => ⟨hmarks, hblank.1, hblank.2, hchain, htemplate, h.1⟩,
            fun s => ⟨s.templates, by simp⟩⟩

end SettingsFile

end ChatChain
