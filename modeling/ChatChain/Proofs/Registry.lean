import ChatChain.Proofs.Fallible
import ChatChain.Registry
import Mathlib.Data.List.Induction
import Mathlib.Data.List.Nodup

/-!
# Registered commands

A registry is made of a list of commands, one after the other, and the first command that cannot be
registered spoils it.  What a registry that was made answers has nothing to do with the order of the
list.

There are four groups.

* Lists of commands.  `Admissible` says which lists make a registry, and `Offence` what is wrong
  with a command behind others.
* One command.  `Holds` says which commands a registry holds.  `register_eq_error_iff` and
  `Holds.register` say when one more command is refused, and what it adds when it is not.
* All commands.  `holds_of_ofList`, `exists_ofList_iff` and `ofList_eq_error_iff` follow the list.
  `find?_of_ofList` and `accepted_of_ofList` are what later modules use.
* The result.  `registries_do_not_depend_on_order` puts them together.
-/

namespace ChatChain

open Fallible

namespace Registry

/-! ## Lists of commands -/

/-- Whether the commands of a list are all valid and have different names. -/
structure Admissible (commands : List Command) : Prop where
  valid : ∀ c ∈ commands, c.definition.check = .ok ()
  names : (commands.map Command.name).Nodup

/-- What is wrong with a command that comes behind others.  That it is invalid counts before that it
repeats a name. -/
inductive Offence (earlier : List Command) (c : Command) : CommandError → Prop
  | invalid {e : CommandError} (h : c.definition.check = .error e) : Offence earlier c e
  | repeated (hvalid : c.definition.check = .ok ()) (h : c.name ∈ earlier.map Command.name) :
      Offence earlier c (.duplicateCommand c.name)

/-- Whether a command of a list is refused with an error, and it is the first one that is. -/
def FirstOffence (commands : List Command) (e : CommandError) : Prop :=
  ∃ earlier c later, commands = earlier ++ c :: later ∧ Admissible earlier ∧ Offence earlier c e

variable {commands : List Command} {c : Command} {e : CommandError} {r r' : Registry}

namespace Admissible

theorem nil : Admissible [] :=
  ⟨by simp, List.nodup_nil⟩

/-- One more command may follow when nothing is wrong with it. -/
theorem concat_iff :
    Admissible (commands ++ [c]) ↔
      Admissible commands ∧ c.definition.check = .ok () ∧ c.name ∉ commands.map Command.name := by
  have hnames : ((commands ++ [c]).map Command.name).Nodup ↔
      (commands.map Command.name).Nodup ∧ c.name ∉ commands.map Command.name := by
    rw [List.map_append, List.map_singleton, ← List.concat_eq_append, List.nodup_concat]
    exact and_comm
  constructor
  · rintro ⟨hvalid, hnodup⟩
    obtain ⟨hfirst, hnew⟩ := hnames.1 hnodup
    exact ⟨⟨fun d hd => hvalid d (List.mem_append_left _ hd), hfirst⟩, hvalid c (by simp), hnew⟩
  · rintro ⟨⟨hvalid, hfirst⟩, hc, hnew⟩
    refine ⟨fun d hd => ?_, hnames.2 ⟨hfirst, hnew⟩⟩
    rcases List.mem_append.1 hd with hd | hd
    · exact hvalid d hd
    · obtain rfl := List.mem_singleton.1 hd
      exact hc

/-- The order of a list does not matter. -/
theorem of_perm {others : List Command} (h : Admissible commands) (hperm : others.Perm commands) :
    Admissible others where
  valid d hd := h.valid d (hperm.mem_iff.1 hd)
  names := (hperm.map _).nodup_iff.2 h.names

end Admissible

theorem not_firstOffence_nil : ¬FirstOffence [] e := by
  rintro ⟨earlier, c, later, hsplit, -⟩
  simp at hsplit

/-- A longer list is refused as before, or for its last command. -/
theorem firstOffence_concat_iff :
    FirstOffence (commands ++ [c]) e ↔
      FirstOffence commands e ∨ Admissible commands ∧ Offence commands c e := by
  constructor
  · rintro ⟨earlier, d, later, hsplit, hearlier, hd⟩
    rcases List.eq_nil_or_concat later with rfl | ⟨later, last, rfl⟩
    · obtain ⟨rfl, hlast⟩ := List.append_inj' hsplit rfl
      obtain rfl := List.singleton_inj.1 hlast
      exact Or.inr ⟨hearlier, hd⟩
    · rw [List.concat_eq_append, ← List.cons_append, ← List.append_assoc] at hsplit
      exact Or.inl ⟨earlier, d, later, (List.append_inj' hsplit rfl).1, hearlier, hd⟩
  · rintro (⟨earlier, d, later, rfl, hearlier, hd⟩ | ⟨hall, hc⟩)
    · exact ⟨earlier, d, later ++ [c], by simp, hearlier, hd⟩
    · exact ⟨commands, c, [], rfl, hall, hc⟩

/-! ## One command -/

/-- Whether a registry holds the given commands, each under its name, and no other ones. -/
def Holds (r : Registry) (commands : List Command) : Prop :=
  r.commands.entries.Perm (commands.map fun c => (c.name, c))

namespace Holds

/-- A registry finds the commands that it holds. -/
theorem find?_eq_some_iff (h : r.Holds commands) {name : String} :
    r.find? name = some c ↔ c ∈ commands ∧ c.name = name := by
  rw [find?, Dict.get?_eq_some_iff, h.mem_iff, List.mem_map]
  constructor
  · rintro ⟨d, hd, heq⟩
    obtain ⟨rfl, rfl⟩ := Prod.mk.inj heq
    exact ⟨hd, rfl⟩
  · rintro ⟨hc, rfl⟩
    exact ⟨c, hc, rfl⟩

theorem find?_eq_none_iff (h : r.Holds commands) {name : String} :
    r.find? name = none ↔ name ∉ commands.map Command.name := by
  rw [Option.eq_none_iff_forall_ne_some, List.mem_map]
  simp only [ne_eq, h.find?_eq_some_iff, not_exists]

theorem size_eq (h : r.Holds commands) : r.size = commands.length := by
  rw [size, h.length_eq, List.length_map]

/-- The definitions of a registry are those of the commands that it holds. -/
theorem catalog_perm (h : r.Holds commands) :
    r.catalog.Perm (commands.map Command.definition) := by
  have hdefinitions := h.map fun entry => entry.2.definition
  rwa [List.map_map] at hdefinitions

/-- The definitions of a registry ascend by their names. -/
theorem catalog_ascends (h : r.Holds commands) :
    r.catalog.Pairwise fun a b => a.name < b.name := by
  rw [catalog, List.pairwise_map]
  refine r.commands.ascending.imp_of_mem fun {a b} ha hb hlt => ?_
  have hkey : ∀ entry ∈ r.commands.entries, entry.1 = entry.2.definition.name := by
    intro entry hentry
    obtain ⟨d, -, rfl⟩ := List.mem_map.1 (h.mem_iff.1 hentry)
    rfl
  rwa [← hkey a ha, ← hkey b hb]

/-- A definition is found in the catalog under its name. -/
theorem find?_catalog (h : r.Holds commands) {name : String} (hc : r.find? name = some c) :
    r.catalog.find? (·.name == name) = some c.definition := by
  obtain ⟨hmem, rfl⟩ := h.find?_eq_some_iff.1 hc
  have hdefinition : c.definition ∈ r.catalog :=
    h.catalog_perm.mem_iff.2 (List.mem_map_of_mem hmem)
  have hnames : (r.catalog.map Definition.name).Nodup := by
    refine List.pairwise_map.2 (h.catalog_ascends.imp fun {a b} hlt heq => ?_)
    rw [heq] at hlt
    exact String.lt_irrefl _ hlt
  cases hfound : r.catalog.find? (·.name == c.name) with
  | none =>
    have hne := List.find?_eq_none.1 hfound _ hdefinition
    exact absurd (beq_self_eq_true c.name) hne
  | some d =>
    have hname : d.name = c.name := by simpa using List.find?_some hfound
    rw [List.inj_on_of_nodup_map hnames (List.mem_of_find?_eq_some hfound) hdefinition hname]

/-- Registries that hold the same commands in any order are equal. -/
theorem eq_of_perm {others : List Command} (h : r.Holds commands) (h' : r'.Holds others)
    (hperm : others.Perm commands) : r' = r := by
  have hcommands : r'.commands = r.commands :=
    Dict.eq_of_entries_perm (h'.trans ((hperm.map _).trans h.symm))
  cases r
  cases r'
  exact congrArg Registry.mk hcommands

end Holds

/-- A command is registered when it is valid and its name is free. -/
theorem register_eq_ok_iff :
    r.register c = .ok r' ↔
      c.definition.check = .ok () ∧ r.find? c.name = none ∧
        r' = { commands := r.commands.insert c.name c } := by
  unfold register
  rw [bind_eq_ok_iff]
  constructor
  · rintro ⟨_, hvalid, hrest⟩
    split at hrest
    · exact absurd hrest throw_ne_ok
    · next hnew => exact ⟨hvalid, by simpa [Dict.contains, find?] using hnew,
        (Except.ok.inj hrest).symm⟩
  · rintro ⟨hvalid, hnew, rfl⟩
    refine ⟨(), hvalid, if_neg ?_⟩
    simpa [Dict.contains, find?] using hnew

/-- A command is refused for what is wrong with it behind those that are registered. -/
theorem register_eq_error_iff (h : r.Holds commands) :
    r.register c = .error e ↔ Offence commands c e := by
  have hname : (r.commands.contains c.name = true) ↔ c.name ∈ commands.map Command.name := by
    rw [Dict.contains, Option.isSome_iff_ne_none, ← not_iff_not, not_not]
    exact h.find?_eq_none_iff
  unfold register
  rw [bind_eq_error_iff]
  constructor
  · rintro (hinvalid | ⟨_, hvalid, hrest⟩)
    · exact .invalid hinvalid
    · split at hrest
      · next hcontains =>
        obtain rfl : CommandError.duplicateCommand c.name = e := Except.error.inj hrest
        exact .repeated hvalid (hname.1 hcontains)
      · exact absurd hrest pure_ne_error
  · rintro (hinvalid | ⟨hvalid, hmem⟩)
    · exact Or.inl hinvalid
    · exact Or.inr ⟨(), hvalid, by rw [if_pos (hname.2 hmem)]; rfl⟩

/-- A command that is registered is held besides those before. -/
theorem Holds.register (h : r.Holds commands) (hc : r.register c = .ok r') :
    r'.Holds (commands ++ [c]) := by
  obtain ⟨-, hnew, rfl⟩ := register_eq_ok_iff.1 hc
  have hperm := (Dict.entries_insert_perm hnew c).trans (h.cons (c.name, c))
  refine hperm.trans ?_
  rw [List.map_append, List.map_singleton]
  exact (List.perm_append_singleton _ _).symm

/-! ## All commands -/

/-- The last command of a list is registered behind all others. -/
theorem ofList_concat (commands : List Command) (c : Command) :
    ofList (commands ++ [c]) = ofList commands >>= fun r => r.register c := by
  unfold ofList
  rw [List.foldlM_append]
  refine congrArg _ (funext fun r => ?_)
  rw [List.foldlM_cons]
  exact bind_pure _

/-- The registry of a list holds the commands of the list. -/
theorem holds_of_ofList (h : ofList commands = .ok r) : r.Holds commands := by
  induction commands using List.reverseRecOn generalizing r with
  | nil =>
    obtain rfl := Except.ok.inj h
    exact .nil
  | append_singleton commands c ih =>
    rw [ofList_concat, bind_eq_ok_iff] at h
    obtain ⟨first, hfirst, hregister⟩ := h
    exact (ih hfirst).register hregister

/-- A list makes a registry exactly when it is admissible. -/
theorem exists_ofList_iff : (∃ r, ofList commands = .ok r) ↔ Admissible commands := by
  induction commands using List.reverseRecOn with
  | nil => exact ⟨fun _ => .nil, fun _ => ⟨{}, rfl⟩⟩
  | append_singleton commands c ih =>
    simp only [ofList_concat, bind_eq_ok_iff, register_eq_ok_iff, Admissible.concat_iff, ← ih]
    constructor
    · rintro ⟨_, first, hfirst, hvalid, hnew, -⟩
      exact ⟨⟨first, hfirst⟩, hvalid, (holds_of_ofList hfirst).find?_eq_none_iff.1 hnew⟩
    · rintro ⟨⟨first, hfirst⟩, hvalid, hnew⟩
      exact ⟨_, first, hfirst, hvalid, (holds_of_ofList hfirst).find?_eq_none_iff.2 hnew, rfl⟩

/-- A list is refused for the first command that is invalid or repeats a name. -/
theorem ofList_eq_error_iff : ofList commands = .error e ↔ FirstOffence commands e := by
  induction commands using List.reverseRecOn with
  | nil => exact iff_of_false pure_ne_error not_firstOffence_nil
  | append_singleton commands c ih =>
    rw [ofList_concat, bind_eq_error_iff, firstOffence_concat_iff, ih, ← exists_ofList_iff]
    refine or_congr_right ⟨?_, ?_⟩
    · rintro ⟨r, hr, hregister⟩
      exact ⟨⟨r, hr⟩, (register_eq_error_iff (holds_of_ofList hr)).1 hregister⟩
    · rintro ⟨⟨r, hr⟩, hoffence⟩
      exact ⟨r, hr, (register_eq_error_iff (holds_of_ofList hr)).2 hoffence⟩

/-- Every command of a list is found in its registry. -/
theorem find?_of_ofList (h : ofList commands = .ok r) :
    ∀ c ∈ commands, r.find? c.name = some c :=
  fun _ hc => (holds_of_ofList h).find?_eq_some_iff.2 ⟨hc, rfl⟩

/-- Whether every command of a registry is accepted. -/
def Accepted (r : Registry) : Prop :=
  ∀ name c, r.find? name = some c → c.definition.check = .ok ()

/-- Every command of a registry was accepted. -/
theorem accepted_of_ofList (h : ofList commands = .ok r) : r.Accepted := fun _ _ hc =>
  (exists_ofList_iff.1 ⟨r, h⟩).valid _ ((holds_of_ofList h).find?_eq_some_iff.1 hc).1

/-! ## The result -/

/-- Registries do not depend on the order of their commands.  A list makes a registry exactly when
all its commands are valid and have different names, and is refused for the first command that is
invalid or repeats a name otherwise.  A registry has as many commands as its list, finds the
commands of the list by their names and nothing else, and shows their definitions in ascending
order of the names; and it is the registry of the list in every other order. -/
theorem registries_do_not_depend_on_order (commands : List Command) :
    ((∃ r, ofList commands = .ok r) ↔ Admissible commands) ∧
      (∀ e, ofList commands = .error e ↔ FirstOffence commands e) ∧
      ∀ r, ofList commands = .ok r →
        r.size = commands.length ∧
          (∀ name c, r.find? name = some c ↔ c ∈ commands ∧ c.name = name) ∧
          (r.catalog.Perm (commands.map Command.definition) ∧
            r.catalog.Pairwise fun a b => a.name < b.name) ∧
          ∀ others, others.Perm commands → ofList others = .ok r := by
  refine ⟨exists_ofList_iff, fun e => ofList_eq_error_iff, fun r hr => ?_⟩
  have hholds := holds_of_ofList hr
  refine ⟨hholds.size_eq, fun name c => hholds.find?_eq_some_iff,
    ⟨hholds.catalog_perm, hholds.catalog_ascends⟩, fun others hperm => ?_⟩
  have hadmissible := exists_ofList_iff.1 ⟨r, hr⟩
  obtain ⟨r', hr'⟩ := exists_ofList_iff.2 (hadmissible.of_perm hperm)
  rw [hr', hholds.eq_of_perm (holds_of_ofList hr') hperm]

/-- A command under a name, which does nothing. -/
def idle (name : String) : Command where
  definition := { name, input := .nothing, output := .nothing }
  task _ _ _ := .done { data := .nothing }

/-- Names that differ in the case of a letter are different, and a name that is not valid counts
although another one is repeated behind it. -/
theorem registries_tell_cases_apart :
    ∃ r, ofList [idle "spin", idle "gif", idle "Gif"] = .ok r ∧ r.size = 3 ∧
      (∃ c, r.find? "gif" = some c ∧ c.name = "gif") ∧ r.find? "GIF" = none ∧
      ofList [idle "Gif", idle "spin", idle "gif"] = .ok r ∧
      ofList [idle "gif", idle "9lives", idle "gif"] =
        .error (.invalidDefinition "9lives" .invalidName) := by
  obtain ⟨hmade, -, hregistry⟩ :=
    registries_do_not_depend_on_order [idle "spin", idle "gif", idle "Gif"]
  obtain ⟨-, hrefused, -⟩ :=
    registries_do_not_depend_on_order [idle "gif", idle "9lives", idle "gif"]
  have hvalid : ∀ {name : String}, (idle name).definition.check = .ok () ↔
      isCommandName name = true := by
    intro name
    cases hname : isCommandName name <;> simp [idle, Definition.check, Definition.fault?, hname,
      Argument.firstFault?]
  obtain ⟨r, hr⟩ := hmade.2 ⟨by simp only [List.forall_mem_cons, hvalid]; decide +kernel, by decide⟩
  obtain ⟨hsize, hfind, -, hperm⟩ := hregistry r hr
  refine ⟨r, hr, hsize, ⟨idle "gif", (hfind _ _).2 ⟨by simp, rfl⟩, rfl⟩, ?_, ?_, ?_⟩
  · rw [Option.eq_none_iff_forall_ne_some]
    intro c hc
    obtain ⟨hmem, hname⟩ := (hfind _ _).1 hc
    have hnames : "GIF" ∉ [idle "spin", idle "gif", idle "Gif"].map Command.name := by decide
    exact hnames (hname ▸ List.mem_map_of_mem hmem)
  · exact hperm _ (show ([idle "Gif"] ++ [idle "spin", idle "gif"]).Perm _ from
      List.perm_append_comm)
  · refine (hrefused _).2 ⟨[idle "gif"], idle "9lives", _, rfl, ⟨?_, by decide⟩, .invalid rfl⟩
    simp only [List.forall_mem_singleton, hvalid]
    decide +kernel

end Registry

end ChatChain
