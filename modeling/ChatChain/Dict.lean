/-!
# Dictionaries with string keys

A `Dict` holds at most one value for a key, in ascending order of the keys (by code point).  The
order is part of the type, so two dictionaries with the same entries are equal.

* `get?_insert` says what an insertion does to every look-up, and `get?_insertIfNew` what one does
  that replaces nothing.
* `ext_get?` says that the look-ups determine the dictionary, and `eq_of_entries_perm` that the
  entries do, in any order.
-/

namespace ChatChain

/-- Whether the keys of `entries` ascend strictly. -/
abbrev KeysAscend {α : Type} (entries : List (String × α)) : Prop :=
  entries.Pairwise fun a b => a.1 < b.1

/-- A finite map from strings. -/
structure Dict (α : Type) where
  entries : List (String × α)
  ascending : KeysAscend entries

namespace Dict

variable {α : Type}

/-- The dictionary without entries. -/
def empty : Dict α := ⟨[], .nil⟩

instance : EmptyCollection (Dict α) := ⟨empty⟩

instance : Inhabited (Dict α) := ⟨empty⟩

instance [DecidableEq α] : DecidableEq (Dict α) := fun a b =>
  decidable_of_iff (a.entries = b.entries) (by cases a; cases b; simp)

instance [Repr α] : Repr (Dict α) := ⟨fun d n => reprPrec d.entries n⟩

/-- The keys in ascending order. -/
def keys (d : Dict α) : List String :=
  d.entries.map Prod.fst

/-- The value at `key`. -/
def get? (d : Dict α) (key : String) : Option α :=
  d.entries.lookup key

/-- Whether there is a value at `key`. -/
def contains (d : Dict α) (key : String) : Bool :=
  (d.get? key).isSome

/-- Puts `(key, value)` into an ascending list, in place of an entry with the same key. -/
def insertEntry (key : String) (value : α) : List (String × α) → List (String × α)
  | [] => [(key, value)]
  | entry :: rest =>
    if key < entry.1 then (key, value) :: entry :: rest
    else if key = entry.1 then (key, value) :: rest
    else entry :: insertEntry key value rest

theorem mem_insertEntry {key : String} {value : α} {e : String × α} {entries : List (String × α)}
    (h : e ∈ insertEntry key value entries) : e = (key, value) ∨ e ∈ entries := by
  induction entries with
  | nil => simpa [insertEntry] using h
  | cons entry rest ih =>
    rw [insertEntry] at h
    split at h
    · simpa using h
    · split at h
      · rcases List.mem_cons.1 h with rfl | h
        · exact .inl rfl
        · exact .inr (List.mem_cons_of_mem _ h)
      · rcases List.mem_cons.1 h with rfl | h
        · exact .inr (List.mem_cons_self ..)
        · exact (ih h).imp_right (List.mem_cons_of_mem _)

theorem lt_of_not_lt_of_ne {a b : String} (h : ¬a < b) (hne : a ≠ b) : b < a :=
  Classical.byContradiction fun hlt =>
    hne (String.le_antisymm (String.not_lt.1 hlt) (String.not_lt.1 h))

theorem insertEntry_ascending (key : String) (value : α) {entries : List (String × α)}
    (h : KeysAscend entries) : KeysAscend (insertEntry key value entries) := by
  induction entries with
  | nil => simp [insertEntry]
  | cons entry rest ih =>
    obtain ⟨hentry, hrest⟩ := List.pairwise_cons.1 h
    rw [insertEntry]
    split
    · next hlt =>
      refine List.pairwise_cons.2 ⟨fun e he => ?_, h⟩
      rcases List.mem_cons.1 he with rfl | he
      · exact hlt
      · exact String.lt_trans hlt (hentry e he)
    · next hlt =>
      split
      · next heq => exact List.pairwise_cons.2 ⟨fun e he => heq ▸ hentry e he, hrest⟩
      · next hne =>
        refine List.pairwise_cons.2 ⟨fun e he => ?_, ih hrest⟩
        rcases mem_insertEntry he with rfl | he
        · exact lt_of_not_lt_of_ne hlt hne
        · exact hentry e he

/-- Sets the value at `key`. -/
def insert (d : Dict α) (key : String) (value : α) : Dict α :=
  ⟨insertEntry key value d.entries, insertEntry_ascending key value d.ascending⟩

/-- Sets the value at `key` unless there is one. -/
def insertIfNew (d : Dict α) (key : String) (value : α) : Dict α :=
  if d.contains key then d else d.insert key value

/-- The dictionary of a list of entries, where a later entry replaces an earlier one. -/
def ofList (entries : List (String × α)) : Dict α :=
  entries.foldl (fun d e => d.insert e.1 e.2) empty

@[simp] theorem get?_empty (key : String) : (empty : Dict α).get? key = none := rfl

theorem lookup_cons_self (e : String × α) (rest : List (String × α)) :
    (e :: rest).lookup e.1 = some e.2 :=
  List.lookup_cons_self

/-- An entry in front hides nothing but its own key. -/
theorem lookup_cons_of_ne {key : String} {e : String × α} (h : key ≠ e.1)
    (rest : List (String × α)) : (e :: rest).lookup key = rest.lookup key := by
  obtain ⟨first, value⟩ := e
  have hkey : (key == first) = false := by simpa using h
  rw [List.lookup_cons, hkey]

/-- Changing values by their keys changes what is found. -/
theorem lookup_map_values {β : Type} (f : String → α → β) (entries : List (String × α))
    (key : String) :
    (entries.map fun e => (e.1, f e.1 e.2)).lookup key = (entries.lookup key).map (f key) := by
  induction entries with
  | nil => rfl
  | cons e rest ih =>
    rw [List.map_cons]
    by_cases hkey : key = e.1
    · subst hkey
      rw [List.lookup_cons_self, lookup_cons_self, Option.map_some]
    · rw [lookup_cons_of_ne (e := (e.1, f e.1 e.2)) hkey, lookup_cons_of_ne hkey, ih]

/-- What is left out under other keys makes no difference. -/
theorem lookup_filter_keys {p : String → Bool} {key : String} (h : p key = true)
    (entries : List (String × α)) :
    (entries.filter fun e => p e.1).lookup key = entries.lookup key := by
  induction entries with
  | nil => rfl
  | cons e rest ih =>
    by_cases hkey : key = e.1
    · subst hkey
      rw [List.filter_cons, if_pos h, lookup_cons_self, lookup_cons_self]
    · rw [lookup_cons_of_ne hkey, ← ih, List.filter_cons]
      split
      · exact lookup_cons_of_ne hkey _
      · rfl

theorem lookup_insertEntry (key : String) (value : α) (entries : List (String × α)) (k : String) :
    (insertEntry key value entries).lookup k =
      if k = key then some value else entries.lookup k := by
  induction entries with
  | nil =>
    by_cases hk : k = key
    · subst hk
      simp [insertEntry]
    · rw [insertEntry, lookup_cons_of_ne hk, if_neg hk]
  | cons entry rest ih =>
    rw [insertEntry]
    split
    · by_cases hk : k = key
      · subst hk
        rw [if_pos rfl]
        exact List.lookup_cons_self
      · rw [lookup_cons_of_ne hk, if_neg hk]
    · split
      · next heq =>
        subst heq
        by_cases hk : k = entry.1
        · subst hk
          rw [if_pos rfl]
          exact List.lookup_cons_self
        · have hfront : ((entry.1, value) :: rest).lookup k = rest.lookup k :=
            lookup_cons_of_ne (e := (entry.1, value)) hk rest
          rw [hfront, if_neg hk, lookup_cons_of_ne hk]
      · next hne =>
        by_cases hk : k = entry.1
        · subst hk
          rw [lookup_cons_self, lookup_cons_self, if_neg (Ne.symm hne)]
        · rw [lookup_cons_of_ne hk, lookup_cons_of_ne hk, ih]

/-- An insertion answers the new value at its key and leaves every other key alone. -/
theorem get?_insert (d : Dict α) (key : String) (value : α) (k : String) :
    (d.insert key value).get? k = if k = key then some value else d.get? k :=
  lookup_insertEntry key value d.entries k

@[simp] theorem get?_insert_self (d : Dict α) (key : String) (value : α) :
    (d.insert key value).get? key = some value := by
  simp [get?_insert]

/-- A value that is set only where there is none leaves every value alone. -/
theorem get?_insertIfNew (d : Dict α) (key : String) (value : α) (k : String) :
    (d.insertIfNew key value).get? k = (d.get? k).or (if k = key then some value else none) := by
  unfold insertIfNew contains
  by_cases hk : k = key
  · subst hk
    cases hget : d.get? k <;> simp [hget]
  · cases d.get? key <;> simp [get?_insert, hk]

theorem get?_foldl_insert (entries : List (String × α)) (d : Dict α) (key : String) :
    (entries.foldl (fun d e => d.insert e.1 e.2) d).get? key =
      (entries.reverse.lookup key).or (d.get? key) := by
  induction entries generalizing d with
  | nil => rfl
  | cons e rest ih =>
    rw [List.foldl_cons, ih, get?_insert, List.reverse_cons, List.lookup_append, Option.or_assoc]
    by_cases hkey : key = e.1
    · subst hkey
      simp [lookup_cons_self]
    · simp [lookup_cons_of_ne hkey, hkey]

/-- Of the entries with one key the last one counts. -/
theorem get?_ofList (entries : List (String × α)) (key : String) :
    (ofList entries).get? key = entries.reverse.lookup key := by
  unfold ofList
  rw [get?_foldl_insert, get?_empty, Option.or_none]

/-! ## Look-ups determine a dictionary -/

theorem lookup_eq_none_of_forall_lt {key : String} {entries : List (String × α)}
    (h : ∀ e ∈ entries, key < e.1) : entries.lookup key = none := by
  rw [List.lookup_eq_none_iff]
  intro e he
  have hne : key ≠ e.1 := fun heq => String.lt_irrefl key (heq ▸ h e he)
  simpa using hne

/-- Of two ascending lists with the same look-ups, neither begins with a smaller key. -/
theorem not_lt_of_lookup_eq {e : String × α} {xs ys : List (String × α)} (hys : KeysAscend ys)
    (h : ∀ k, (e :: xs).lookup k = ys.lookup k) : ∃ f rest, ys = f :: rest ∧ ¬e.1 < f.1 := by
  have hself := (h e.1).symm.trans (lookup_cons_self e xs)
  cases ys with
  | nil => simp at hself
  | cons f rest =>
    refine ⟨f, rest, rfl, fun hlt => ?_⟩
    have hall : ∀ e' ∈ f :: rest, e.1 < e'.1 := by
      intro e' he'
      rcases List.mem_cons.1 he' with rfl | he'
      · exact hlt
      · exact String.lt_trans hlt ((List.pairwise_cons.1 hys).1 e' he')
    rw [lookup_eq_none_of_forall_lt hall] at hself
    exact absurd hself (by simp)

theorem entries_eq_of_lookup_eq {xs ys : List (String × α)} (hxs : KeysAscend xs)
    (hys : KeysAscend ys) (h : ∀ k, xs.lookup k = ys.lookup k) : xs = ys := by
  induction xs generalizing ys with
  | nil =>
    cases ys with
    | nil => rfl
    | cons f rest =>
      have hself := (h f.1).trans (lookup_cons_self f rest)
      simp at hself
  | cons e xs ih =>
    obtain ⟨f, rest, rfl, hef⟩ := not_lt_of_lookup_eq hys h
    obtain ⟨e', xs', heq, hfe⟩ := not_lt_of_lookup_eq hxs fun k => (h k).symm
    obtain ⟨rfl, rfl⟩ := List.cons.inj heq
    have hkey : e.1 = f.1 := Classical.byContradiction fun hne => hfe (lt_of_not_lt_of_ne hef hne)
    have hvalue : e.2 = f.2 := by
      have hself := h e.1
      rw [lookup_cons_self, hkey, lookup_cons_self] at hself
      exact Option.some.inj hself
    have htail : xs = rest := by
      refine ih (List.pairwise_cons.1 hxs).2 (List.pairwise_cons.1 hys).2 fun k => ?_
      by_cases hk : k = e.1
      · subst hk
        rw [lookup_eq_none_of_forall_lt (List.pairwise_cons.1 hxs).1, hkey,
          lookup_eq_none_of_forall_lt (List.pairwise_cons.1 hys).1]
      · have hall := h k
        rwa [lookup_cons_of_ne hk, lookup_cons_of_ne (hkey ▸ hk)] at hall
    rw [Prod.ext hkey hvalue, htail]

/-- Two dictionaries with the same look-ups are equal. -/
theorem ext_get? {d e : Dict α} (h : ∀ k, d.get? k = e.get? k) : d = e := by
  have hentries := entries_eq_of_lookup_eq d.ascending e.ascending h
  cases d
  cases e
  simpa using hentries

/-! ## Entries -/

theorem mem_of_mem_foldl_insert {entries : List (String × α)} {d : Dict α} {e : String × α}
    (h : e ∈ (entries.foldl (fun d e => d.insert e.1 e.2) d).entries) :
    e ∈ entries ∨ e ∈ d.entries := by
  induction entries generalizing d with
  | nil => exact .inr h
  | cons first rest ih =>
    rcases ih h with hrest | hfirst
    · exact .inl (List.mem_cons_of_mem _ hrest)
    · rcases mem_insertEntry hfirst with rfl | hd
      · exact .inl List.mem_cons_self
      · exact .inr hd

/-- The dictionary of a list holds nothing but entries of the list. -/
theorem mem_of_mem_entries_ofList {entries : List (String × α)} {e : String × α}
    (h : e ∈ (ofList entries).entries) : e ∈ entries :=
  (mem_of_mem_foldl_insert h).resolve_right (by simp [empty])

theorem lookup_reverse {entries : List (String × α)} (h : KeysAscend entries) (key : String) :
    entries.reverse.lookup key = entries.lookup key := by
  induction entries with
  | nil => rfl
  | cons e rest ih =>
    obtain ⟨hfirst, hrest⟩ := List.pairwise_cons.1 h
    rw [List.reverse_cons, List.lookup_append, ih hrest]
    by_cases hkey : key = e.1
    · subst hkey
      rw [lookup_eq_none_of_forall_lt hfirst, lookup_cons_self, lookup_cons_self]
      rfl
    · rw [lookup_cons_of_ne hkey, lookup_cons_of_ne hkey]
      simp

theorem map_fst_insertEntry {β : Type} (key : String) (a : α) (b : β) {xs : List (String × α)}
    {ys : List (String × β)} (h : xs.map Prod.fst = ys.map Prod.fst) :
    (insertEntry key a xs).map Prod.fst = (insertEntry key b ys).map Prod.fst := by
  induction xs generalizing ys with
  | nil =>
    obtain rfl : ys = [] := by simpa using h.symm
    rfl
  | cons x xs ih =>
    obtain ⟨y, ys, rfl⟩ := List.exists_cons_of_ne_nil (l := ys) (by rintro rfl; simp at h)
    obtain ⟨hfirst, hrest⟩ : x.1 = y.1 ∧ xs.map Prod.fst = ys.map Prod.fst := by simpa using h
    simp only [insertEntry, hfirst]
    split
    · simp [hfirst, hrest]
    · split
      · simp [hrest]
      · simp [hfirst, ih hrest]

theorem keys_foldl_insert {β : Type} {xs : List (String × α)} {ys : List (String × β)}
    (h : xs.map Prod.fst = ys.map Prod.fst) {d : Dict α} {e : Dict β} (hkeys : d.keys = e.keys) :
    (xs.foldl (fun d x => d.insert x.1 x.2) d).keys =
      (ys.foldl (fun e y => e.insert y.1 y.2) e).keys := by
  induction xs generalizing ys d e with
  | nil =>
    obtain rfl : ys = [] := by simpa using h.symm
    exact hkeys
  | cons x xs ih =>
    obtain ⟨y, ys, rfl⟩ := List.exists_cons_of_ne_nil (l := ys) (by rintro rfl; simp at h)
    obtain ⟨hfirst, hrest⟩ : x.1 = y.1 ∧ xs.map Prod.fst = ys.map Prod.fst := by simpa using h
    have hinsert : (d.insert x.1 x.2).keys = (e.insert y.1 y.2).keys := by
      rw [hfirst]
      exact map_fst_insertEntry y.1 x.2 y.2 hkeys
    exact ih hrest hinsert

/-- The keys of a list settle the keys of the dictionary that is made of it. -/
theorem keys_ofList_congr {β : Type} {xs : List (String × α)} {ys : List (String × β)}
    (h : xs.map Prod.fst = ys.map Prod.fst) : (ofList xs).keys = (ofList ys).keys :=
  keys_foldl_insert h rfl

/-- A dictionary is the dictionary of its entries. -/
theorem ofList_entries (d : Dict α) : ofList d.entries = d :=
  ext_get? fun key => by rw [get?_ofList, lookup_reverse d.ascending, get?]

/-- The entries of a dictionary are its keys with the values at them. -/
theorem get?_eq_some_iff {d : Dict α} {key : String} {value : α} :
    d.get? key = some value ↔ (key, value) ∈ d.entries := by
  unfold get?
  obtain ⟨entries, hascending⟩ := d
  simp only
  induction entries with
  | nil => simp
  | cons e rest ih =>
    obtain ⟨hfirst, hrest⟩ := List.pairwise_cons.1 hascending
    by_cases hkey : key = e.1
    · subst hkey
      have hnew : (e.1, value) ∉ rest := fun hmem =>
        String.lt_irrefl _ (hfirst (e.1, value) hmem)
      rw [lookup_cons_self, List.mem_cons, or_iff_left hnew, Option.some.injEq]
      exact ⟨fun heq => heq ▸ rfl, fun heq => heq ▸ rfl⟩
    · have hne : (key, value) ≠ e := fun heq => hkey (heq ▸ rfl)
      rw [lookup_cons_of_ne hkey, ih hrest, List.mem_cons, or_iff_right hne]

theorem insertEntry_perm {key : String} (value : α) {entries : List (String × α)}
    (h : entries.lookup key = none) :
    (insertEntry key value entries).Perm ((key, value) :: entries) := by
  induction entries with
  | nil => exact .refl _
  | cons e rest ih =>
    have hkey : key ≠ e.1 := by
      rintro rfl
      rw [lookup_cons_self] at h
      exact absurd h (by simp)
    rw [lookup_cons_of_ne hkey] at h
    rw [insertEntry, if_neg hkey]
    split
    · exact .refl _
    · exact ((ih h).cons e).trans (.swap ..)

/-- An insertion at a new key adds one entry. -/
theorem entries_insert_perm {d : Dict α} {key : String} (h : d.get? key = none) (value : α) :
    (d.insert key value).entries.Perm ((key, value) :: d.entries) :=
  insertEntry_perm value h

/-- Dictionaries with the same entries in any order are equal. -/
theorem eq_of_entries_perm {d e : Dict α} (h : d.entries.Perm e.entries) : d = e := by
  have hentries : d.entries = e.entries :=
    h.eq_of_pairwise (fun a b _ _ hab hba => absurd (String.lt_trans hab hba) (String.lt_irrefl _))
      d.ascending e.ascending
  cases d
  cases e
  simpa using hentries

end Dict

end ChatChain
