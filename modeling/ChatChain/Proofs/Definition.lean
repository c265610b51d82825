import ChatChain.Definition
import Mathlib.Data.List.Nodup

/-!
# What an accepted definition is

`Definition.check` looks for the first fault of a definition.  `Definition.Valid` lists what holds
when there is none, and `Definition.check_eq_ok_iff` says that the two are the same.  Later modules
use the fields of `Valid` and never the search for faults.
-/

namespace ChatChain

/-- The keys of a list of arguments, in the order of declaration. -/
abbrev argumentKeys (arguments : List Argument) : List String :=
  arguments.map Argument.key

namespace Argument

/-- What an argument must satisfy on its own. -/
structure Valid (a : Argument) : Prop where
  kind : a.kind.isValue = true
  choices : a.kind = .choice → a.choices ≠ []
  default : ∀ v, a.default? = some v → v.kind = a.kind

/-- An argument without fault is valid, and its key is new. -/
theorem fault?_eq_none_iff {earlier : List String} {a : Argument} :
    a.fault? earlier = none ↔ a.key ∉ earlier ∧ a.Valid := by
  unfold fault?
  constructor
  · intro h
    split at h
    · exact absurd h (by simp)
    · next hnew =>
      split at h
      · exact absurd h (by simp)
      · next hkind =>
        split at h
        · exact absurd h (by simp)
        · next hchoices =>
          refine ⟨hnew, ?_, fun hc he => hchoices ⟨hc, he⟩, fun v hv => ?_⟩
          · simpa using hkind
          · rw [hv] at h
            simpa using h
  · rintro ⟨hnew, hkind, hchoices, hdefault⟩
    rw [if_neg hnew, if_neg (by simp [hkind]), if_neg (fun h => hchoices h.1 h.2)]
    cases hd : a.default? with
    | none => rfl
    | some v => exact if_pos (hdefault v hd)

theorem firstFault?_eq_none_iff {earlier : List String} {arguments : List Argument} :
    firstFault? earlier arguments = none ↔
      (∀ a ∈ arguments, a.key ∉ earlier) ∧ (argumentKeys arguments).Nodup ∧
        ∀ a ∈ arguments, a.Valid := by
  induction arguments generalizing earlier with
  | nil => simp [firstFault?]
  | cons a rest ih =>
    rw [firstFault?, Option.or_eq_none_iff, fault?_eq_none_iff, ih, List.forall_mem_cons,
      List.forall_mem_cons]
    simp only [List.mem_cons, not_or, List.map_cons, List.nodup_cons]
    constructor
    · rintro ⟨⟨hnew, ha⟩, hrest, hkeys, hvalid⟩
      refine ⟨⟨hnew, fun b hb => (hrest b hb).2⟩, ⟨fun hmem => ?_, hkeys⟩, ha, hvalid⟩
      obtain ⟨b, hb, heq⟩ := List.mem_map.1 hmem
      exact (hrest b hb).1 heq
    · rintro ⟨⟨hnew, hrest⟩, ⟨hkey, hkeys⟩, ha, hvalid⟩
      refine ⟨⟨hnew, ha⟩, fun b hb => ⟨fun heq => hkey ?_, hrest b hb⟩, hkeys, hvalid⟩
      exact heq ▸ List.mem_map_of_mem hb

end Argument

namespace Definition

/-- What holds of a definition without fault. -/
structure Valid (d : Definition) : Prop where
  name : isCommandName d.name = true
  input : d.requireInput = true → d.input ≠ .nothing
  keys : (argumentKeys d.arguments).Nodup
  arguments : ∀ a ∈ d.arguments, a.Valid
  defaultKey : ∀ key, d.defaultKey? = some key → ∃ a, d.argument? key = some a

theorem fault?_eq_none_iff {d : Definition} : d.fault? = none ↔ d.Valid := by
  unfold fault?
  constructor
  · intro h
    split at h
    · exact absurd h (by simp)
    · next hname =>
      split at h
      · exact absurd h (by simp)
      · next hinput =>
        rw [Option.or_eq_none_iff, Argument.firstFault?_eq_none_iff] at h
        obtain ⟨⟨-, hkeys, harguments⟩, hdefault⟩ := h
        refine ⟨by simpa using hname, fun hr hi => hinput ⟨hr, hi⟩, hkeys, harguments, ?_⟩
        intro key hkey
        rw [hkey] at hdefault
        exact Option.ne_none_iff_exists'.1 (by simpa using hdefault)
  · rintro ⟨hname, hinput, hkeys, harguments, hdefault⟩
    rw [if_neg (by simp [hname]), if_neg (fun h => hinput h.1 h.2),
      Argument.firstFault?_eq_none_iff.2 ⟨by simp, hkeys, harguments⟩, Option.none_or]
    cases hd : d.defaultKey? with
    | none => rfl
    | some key =>
      obtain ⟨a, ha⟩ := hdefault key hd
      simp [ha]

/-- A definition is accepted exactly when it is valid. -/
theorem check_eq_ok_iff {d : Definition} : d.check = .ok () ↔ d.Valid := by
  rw [← fault?_eq_none_iff, check]
  cases d.fault? <;> simp

/-! ## Looking arguments up -/

theorem argument?_eq_some {d : Definition} {key : String} {a : Argument}
    (h : d.argument? key = some a) : a ∈ d.arguments ∧ a.key = key := by
  refine ⟨List.mem_of_find?_eq_some h, ?_⟩
  simpa using List.find?_some h

theorem defaultArgument?_eq_some {d : Definition} {a : Argument}
    (h : d.defaultArgument? = some a) : a ∈ d.arguments ∧ d.isDefaultKey a.key = true := by
  obtain ⟨key, hkey, ha⟩ := Option.bind_eq_some_iff.1 h
  obtain ⟨hmem, heq⟩ := argument?_eq_some ha
  exact ⟨hmem, by simp [isDefaultKey, hkey, heq]⟩

theorem isDefaultKey_iff {d : Definition} {key : String} :
    d.isDefaultKey key = true ↔ d.defaultKey? = some key := by
  simp [isDefaultKey]

/-- No two arguments of a valid definition share a key. -/
theorem Valid.eq_of_key_eq {d : Definition} (hd : d.Valid) {a b : Argument}
    (ha : a ∈ d.arguments) (hb : b ∈ d.arguments) (h : a.key = b.key) : a = b :=
  List.inj_on_of_nodup_map hd.keys ha hb h

/-- The default key of a valid definition is that of one argument. -/
theorem Valid.defaultArgument?_eq_some_iff {d : Definition} (hd : d.Valid) {a : Argument} :
    d.defaultArgument? = some a ↔ a ∈ d.arguments ∧ d.isDefaultKey a.key = true := by
  refine ⟨defaultArgument?_eq_some, fun ⟨ha, hkey⟩ => ?_⟩
  have hdeclared := isDefaultKey_iff.1 hkey
  obtain ⟨b, hb⟩ := hd.defaultKey a.key hdeclared
  obtain ⟨hmem, hsame⟩ := argument?_eq_some hb
  rw [defaultArgument?, hdeclared, Option.bind_some, hb, hd.eq_of_key_eq hmem ha hsame]

end Definition

end ChatChain
