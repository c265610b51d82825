import ChatChain.Dict
import ChatChain.Proofs.Fallible
import ChatChain.Settings.Decoding

/-!
# Misspelt settings

A key that is no field of its record is refused in most tables of a settings file.  In the section
for the grammar and in the entries for templates it is ignored, and the field that it was meant for
is taken as not given.

There are five groups.

* Records.  `RecordShape.Misspells` says that a table has an unknown key, and
  `Record.getD?_eq_none` that a strict record is then not read.
* Places.  `Place` lists the tables of a document that are read as records.  `accept` is reading and
  checking from the document on, and `ofEntries?_eq_some_iff` takes the reading apart.
* Strict places.  `ofEntries?_of_misspeltAt` says that an unknown key there leaves nothing to read.
* Other places.  `declared` is a document without the unknown keys of these places, and
  `ofEntries?_declared` says that the same settings are read off it.
* Refused and ignored.  The assembly, and a misspelt scope that widens a template.
-/

namespace ChatChain

open Toml

/-! ## Records -/

namespace Toml

/-- Whether a table has a key that is no field of the record. -/
def RecordShape.Misspells (shape : RecordShape) (entries : Entries) : Prop :=
  ∃ entry ∈ entries, entry.1 ∉ shape.fields

instance (shape : RecordShape) (entries : Entries) : Decidable (shape.Misspells entries) :=
  inferInstanceAs (Decidable (∃ entry ∈ entries, _))

/-- The entries of a table. -/
def Item.entries? : Item → Option Entries
  | .table _ entries => some entries
  | _ => none

/-- The items of an array, be it written out or opened row by row. -/
def Item.items : Item → List Item
  | .array items => items
  | .rows tables => tables.map (.table .row)
  | _ => []

/-- A strict record reads a table exactly when no key is unknown. -/
theorem Record.ofEntries?_eq {shape : RecordShape} (hstrict : shape.strict = true)
    (entries : Entries) :
    Record.ofEntries? shape entries =
      if shape.Misspells entries then none else some entries.get? := by
  have hany : (entries.any fun entry => !shape.fields.contains entry.1) = true ↔
      shape.Misspells entries := by
    simp [RecordShape.Misspells]
  rw [Record.ofEntries?, hstrict, Bool.true_and]
  by_cases h : shape.Misspells entries
  · rw [if_pos h, if_pos (hany.2 h)]
  · rw [if_neg h, if_neg fun hunknown => h (hany.1 hunknown)]

theorem Record.of?_eq_none {shape : RecordShape} (hstrict : shape.strict = true) {item : Item}
    {entries : Entries} (hitem : item.entries? = some entries) (h : shape.Misspells entries) :
    Record.of? shape item = none := by
  cases item with
  | table form found =>
    obtain rfl : found = entries := Option.some.inj hitem
    show Record.ofEntries? shape found = none
    rw [Record.ofEntries?_eq hstrict, if_pos h]
  | _ => cases hitem

/-- A section with an unknown key is not read when its record is strict. -/
theorem Record.getD?_eq_none {α : Type} {read : Item → Option α} {shape : RecordShape}
    (hread : ∀ item, Record.of? shape item = none → read item = none)
    (hstrict : shape.strict = true) {document entries : Entries} {name : String}
    (hentries : (document.get? name).bind Item.entries? = some entries)
    (h : shape.Misspells entries) (default : α) :
    Record.getD? document.get? read name default = none := by
  obtain ⟨item, hget, hitem⟩ := Option.bind_eq_some_iff.1 hentries
  have hnone := hread item (Record.of?_eq_none hstrict hitem h)
  simp [Record.getD?, Record.optional?, hget, hnone]

end Toml

/-! ## Places -/

namespace SettingsFile

/-- A table of a document that is read as a record. -/
inductive Place where
  | top
  | grammar
  | runtime
  | limits
  | bans
  /-- The entry for a template, counted from zero. -/
  | template (index : Nat)

namespace Place

/-- The record at a place. -/
def shape : Place → RecordShape
  | top => SettingsFile.shape
  | grammar => Grammar.shape
  | runtime => RuntimeSettings.shape
  | limits => LimitSettings.shape
  | bans => BanSettings.shape
  | template _ => Template.shape

/-- The table at a place. -/
def entries? (document : Entries) : Place → Option Entries
  | top => some document
  | grammar => (document.get? "grammar").bind Item.entries?
  | runtime => (document.get? "runtime").bind Item.entries?
  | limits => (document.get? "limits").bind Item.entries?
  | bans => (document.get? "bans").bind Item.entries?
  | template index =>
    (document.get? "templates").bind fun item => item.items[index]?.bind Item.entries?

/-- The places where unknown keys are refused. -/
def strict : List Place :=
  [top, runtime, limits, bans]

end Place

/-- Whether the table at a place has an unknown key. -/
def MisspeltAt (place : Place) (document : Entries) : Prop :=
  ∃ entries ∈ place.entries? document, place.shape.Misspells entries

instance (place : Place) (document : Entries) : Decidable (MisspeltAt place document) :=
  inferInstanceAs (Decidable (∃ entries ∈ place.entries? document, _))

/-- The settings of a document, once they are checked. -/
def accept (document : Entries) : Except SettingsError SettingsFile :=
  match ofEntries? document with
  | none => .error .malformed
  | some f => (f.check.mapError .fault).map fun _ => f

theorem parse_eq_accept {text : String} {document : Entries} (h : parse? text = some document) :
    parse text = accept document := by
  rw [parse, h]
  rfl

/-- What is accepted are the settings that are read, provided that they are sound. -/
theorem accept_eq_ok_iff (document : Entries) (f : SettingsFile) :
    accept document = .ok f ↔ ofEntries? document = some f ∧ f.Sound := by
  unfold accept
  cases hread : ofEntries? document with
  | none => exact ⟨(nomatch ·), (nomatch ·.1)⟩
  | some g =>
    rw [← check_eq_ok_iff, Option.some.injEq]
    show (g.check.mapError SettingsError.fault).map (fun _ => g) = .ok f ↔ _
    constructor
    · intro h
      cases hcheck : g.check with
      | ok u =>
        rw [hcheck] at h
        obtain rfl : g = f := Except.ok.inj h
        exact ⟨rfl, hcheck⟩
      | error e =>
        rw [hcheck] at h
        cases h
    · intro h
      obtain ⟨rfl, hcheck⟩ := h
      rw [hcheck]
      rfl

/-- Settings are read off a document part by part. -/
theorem ofEntries?_eq_some_iff {document : Entries} {f : SettingsFile} :
    ofEntries? document = some f ↔
      ¬shape.Misspells document ∧
        Record.getD? document.get? Grammar.ofItem? "grammar" {} = some f.grammar ∧
        Record.getD? document.get? RuntimeSettings.ofItem? "runtime" {} = some f.runtime ∧
        Record.getD? document.get? LimitSettings.ofItem? "limits" {} = some f.limits ∧
        Record.getD? document.get? (Item.list? Template.ofItem?) "templates" [] =
          some f.templates ∧
        Record.getD? document.get? BanSettings.ofItem? "bans" {} = some f.bans := by
  obtain ⟨grammar, runtime, limits, templates, bans⟩ := f
  unfold ofEntries?
  rw [Record.ofEntries?_eq rfl]
  by_cases h : shape.Misspells document
  · rw [if_pos h]
    exact ⟨(nomatch ·), fun hall => absurd h hall.1⟩
  · rw [if_neg h]
    simp only [Option.bind_eq_bind, Option.bind_some, Option.bind_eq_some_iff]
    grind

/-! ## Strict places -/

/-- An unknown key at a strict place leaves no settings to read. -/
theorem ofEntries?_of_misspeltAt {place : Place} {document : Entries}
    (hplace : place ∈ Place.strict) (h : MisspeltAt place document) :
    ofEntries? document = none := by
  obtain ⟨entries, hentries, hunknown⟩ := h
  refine Option.eq_none_iff_forall_ne_some.2 fun f hf => ?_
  obtain ⟨htop, -, hruntime, hlimits, -, hbans⟩ := ofEntries?_eq_some_iff.1 hf
  cases place with
  | top =>
    obtain rfl : document = entries := Option.some.inj hentries
    exact htop hunknown
  | runtime =>
    have hread : ∀ item, Record.of? RuntimeSettings.shape item = none →
        RuntimeSettings.ofItem? item = none := by
      intro item hnone
      simp [RuntimeSettings.ofItem?, hnone]
    rw [Record.getD?_eq_none hread rfl hentries hunknown] at hruntime
    cases hruntime
  | limits =>
    have hread : ∀ item, Record.of? LimitSettings.shape item = none →
        LimitSettings.ofItem? item = none := by
      intro item hnone
      simp [LimitSettings.ofItem?, hnone]
    rw [Record.getD?_eq_none hread rfl hentries hunknown] at hlimits
    cases hlimits
  | bans =>
    have hread : ∀ item, Record.of? BanSettings.shape item = none →
        BanSettings.ofItem? item = none := by
      intro item hnone
      simp [BanSettings.ofItem?, hnone]
    rw [Record.getD?_eq_none hread rfl hentries hunknown] at hbans
    cases hbans
  | grammar => simp [Place.strict] at hplace
  | template index => simp [Place.strict] at hplace

end SettingsFile

/-! ## Other places -/

namespace Toml

/-- A table without its unknown keys. -/
def RecordShape.declared (shape : RecordShape) (entries : Entries) : Entries :=
  entries.filter fun entry => shape.fields.contains entry.1

theorem RecordShape.not_misspells_declared (shape : RecordShape) (entries : Entries) :
    ¬shape.Misspells (shape.declared entries) := by
  intro h
  obtain ⟨entry, hentry, hunknown⟩ := h
  exact hunknown (List.contains_iff_mem.1 (List.mem_filter.1 hentry).2)

namespace Item

/-- An item without its unknown keys, if it is a table. -/
def declared (shape : RecordShape) : Item → Item
  | .table form entries => .table form (shape.declared entries)
  | item => item

/-- An array whose tables go without their unknown keys. -/
def declaredItems (shape : RecordShape) : Item → Item
  | .array items => .array (items.map (declared shape))
  | .rows tables => .rows (tables.map shape.declared)
  | item => item

theorem entries?_declared (shape : RecordShape) (item : Item) :
    (item.declared shape).entries? = item.entries?.map shape.declared := by
  cases item <;> rfl

theorem items_declaredItems (shape : RecordShape) (item : Item) :
    (item.declaredItems shape).items = item.items.map (declared shape) := by
  cases item with
  | rows tables => simp [declaredItems, items, declared]
  | _ => rfl

theorem list?_declaredItems {α : Type} {read : Item → Option α} {shape : RecordShape}
    (hread : ∀ item : Item, read (item.declared shape) = read item) (item : Item) :
    (item.declaredItems shape).list? read = item.list? read := by
  have hitems : ∀ items : List Item, (items.map (declared shape)).mapM read = items.mapM read := by
    intro items
    rw [List.mapM_map]
    exact congrArg (items.mapM ·) (funext hread)
  cases item with
  | array items => exact hitems items
  | rows tables =>
    show ((tables.map shape.declared).map (Item.table .row)).mapM read =
      (tables.map (Item.table .row)).mapM read
    rw [← hitems (tables.map _), List.map_map, List.map_map]
    rfl
  | _ => rfl

end Item

namespace Entries

theorem get?_declared {shape : RecordShape} {name : String} (h : name ∈ shape.fields)
    (entries : Entries) : (shape.declared entries).get? name = entries.get? name :=
  Dict.lookup_filter_keys (List.contains_iff_mem.2 h) entries

end Entries

end Toml

/-- The grammar is read off the declared keys. -/
theorem Grammar.ofItem?_declared (item : Item) :
    Grammar.ofItem? (item.declared Grammar.shape) = Grammar.ofItem? item := by
  have hget : ∀ name ∈ Grammar.shape.fields, ∀ entries : Entries,
      (Grammar.shape.declared entries).get? name = entries.get? name :=
    fun _ hname entries => Entries.get?_declared hname entries
  cases item with
  | table form entries =>
    simp [Grammar.ofItem?, Item.declared, Record.of?, Record.ofEntries?, Record.getD?,
      Record.optional?, hget "prefix" (by decide), hget "named_prefix" (by decide),
      show Grammar.shape.strict = false from rfl]
  | _ => rfl

/-- A template is read off the declared keys. -/
theorem Template.ofItem?_declared (item : Item) :
    Template.ofItem? (item.declared Template.shape) = Template.ofItem? item := by
  have hget : ∀ name ∈ Template.shape.fields, ∀ entries : Entries,
      (Template.shape.declared entries).get? name = entries.get? name :=
    fun _ hname entries => Entries.get?_declared hname entries
  cases item with
  | table form entries =>
    simp [Template.ofItem?, Item.declared, Record.of?, Record.ofEntries?, Record.require?,
      Record.optional?, hget "name" (by decide), hget "scope_id" (by decide),
      hget "body" (by decide), show Template.shape.strict = false from rfl]
  | _ => rfl

namespace SettingsFile

/-- What stands under a name in a document without the unknown keys that are ignored. -/
def declaredAt (name : String) (item : Item) : Item :=
  if name = "grammar" then item.declared Grammar.shape
  else if name = "templates" then item.declaredItems Template.shape
  else item

/-- A document without the unknown keys that are ignored. -/
def declared (document : Entries) : Entries :=
  document.map fun entry => (entry.1, declaredAt entry.1 entry.2)

section

variable (document : Entries)

theorem get?_declared (name : String) :
    (declared document).get? name = (document.get? name).map (declaredAt name) :=
  Dict.lookup_map_values declaredAt document name

theorem misspells_declared_iff (shape : RecordShape) :
    shape.Misspells (declared document) ↔ shape.Misspells document := by
  simp [RecordShape.Misspells, declared]

theorem getD?_declared {α : Type} {read : Item → Option α} {name : String}
    (hread : ∀ item, read (declaredAt name item) = read item) (default : α) :
    Record.getD? (declared document).get? read name default =
      Record.getD? document.get? read name default := by
  unfold Record.getD? Record.optional?
  rw [get?_declared]
  cases document.get? name with
  | none => rfl
  | some item =>
    simp only [Option.map_some, hread]

/-- The keys that are left out say nothing. -/
theorem ofEntries?_declared : ofEntries? (declared document) = ofEntries? document := by
  refine Option.ext fun f => ?_
  rw [ofEntries?_eq_some_iff, ofEntries?_eq_some_iff, misspells_declared_iff,
    getD?_declared document Grammar.ofItem?_declared,
    getD?_declared document (fun _ => rfl), getD?_declared document (fun _ => rfl),
    getD?_declared document (Item.list?_declaredItems Template.ofItem?_declared),
    getD?_declared document (fun _ => rfl)]

/-- Without the keys that are ignored, unknown keys are left at the strict places only. -/
theorem misspeltAt_declared_iff (place : Place) :
    MisspeltAt place (declared document) ↔ place ∈ Place.strict ∧ MisspeltAt place document := by
  have hsame : ∀ name, (∀ item, declaredAt name item = item) →
      (declared document).get? name = document.get? name := by
    intro name hname
    rw [get?_declared, funext hname]
    exact Option.map_id'
  cases place with
  | top =>
    simpa [MisspeltAt, Place.entries?, Place.strict] using misspells_declared_iff document _
  | runtime => simp [MisspeltAt, Place.entries?, Place.strict, hsame "runtime" fun _ => rfl]
  | limits => simp [MisspeltAt, Place.entries?, Place.strict, hsame "limits" fun _ => rfl]
  | bans => simp [MisspeltAt, Place.entries?, Place.strict, hsame "bans" fun _ => rfl]
  | grammar =>
    have hentries : Place.grammar.entries? (declared document) =
        (Place.grammar.entries? document).map Grammar.shape.declared := by
      show ((declared document).get? "grammar").bind Item.entries? =
        ((document.get? "grammar").bind Item.entries?).map Grammar.shape.declared
      rw [get?_declared, Option.bind_map, Option.map_bind]
      exact congrArg _ (funext fun item => item.entries?_declared Grammar.shape)
    simp [MisspeltAt, hentries, Place.strict, Place.shape, RecordShape.not_misspells_declared]
  | template index =>
    have hentries : (Place.template index).entries? (declared document) =
        ((Place.template index).entries? document).map Template.shape.declared := by
      show ((declared document).get? "templates").bind
          (fun item => item.items[index]?.bind Item.entries?) =
        ((document.get? "templates").bind
          fun item => item.items[index]?.bind Item.entries?).map Template.shape.declared
      rw [get?_declared, Option.bind_map, Option.map_bind]
      refine congrArg _ (funext fun item => ?_)
      show (item.declaredItems Template.shape).items[index]?.bind Item.entries? =
        (item.items[index]?.bind Item.entries?).map Template.shape.declared
      rw [Item.items_declaredItems, List.getElem?_map, Option.bind_map, Option.map_bind]
      exact congrArg _ (funext fun row => row.entries?_declared Template.shape)
    simp [MisspeltAt, hentries, Place.strict, Place.shape, RecordShape.not_misspells_declared]

end

/-! ## Refused and ignored -/

/-- An unknown key is refused at the strict places.  Elsewhere it is ignored: the answer is the same
as without it.  Accepted settings are those that the document gives, and they are sound. -/
theorem unknown_keys_are_refused_or_ignored {text : String} {document : Entries}
    (h : parse? text = some document) :
    (∀ place ∈ Place.strict, MisspeltAt place document → parse text = .error .malformed) ∧
      ((∀ place ∈ Place.strict, ¬MisspeltAt place document) →
        (∀ place, ¬MisspeltAt place (declared document)) ∧
          parse text = accept (declared document)) ∧
      ∀ f, parse text = .ok f ↔ ofEntries? document = some f ∧ f.Sound := by
  rw [parse_eq_accept h]
  refine ⟨fun place hplace hunknown => ?_, fun hknown => ⟨fun place hleft => ?_, ?_⟩,
    accept_eq_ok_iff document⟩
  · rw [accept, ofEntries?_of_misspeltAt hplace hunknown]
  · obtain ⟨hplace, hunknown⟩ := (misspeltAt_declared_iff document place).1 hleft
    exact hknown place hplace hunknown
  · rw [accept, accept, ofEntries?_declared]

/-- A limit that is misspelt. -/
def misspeltLimit : String :=
  "[runtime]\nmax_chain_lenght = 3\n"

theorem misspelt_limit_is_refused :
    ∃ document, parse? misspeltLimit = some document ∧ MisspeltAt .runtime document ∧
      parse misspeltLimit = .error .malformed := by
  have hread : (parse? misspeltLimit).isSome = true := by decide +kernel
  have hunknown : ∀ document ∈ parse? misspeltLimit, MisspeltAt .runtime document := by
    decide +kernel
  have hplace : Place.runtime ∈ Place.strict := by simp [Place.strict]
  obtain ⟨document, hdocument⟩ := Option.isSome_iff_exists.1 hread
  obtain ⟨hrefused, -⟩ := unknown_keys_are_refused_or_ignored hdocument
  exact ⟨document, hdocument, hunknown document hdocument,
    hrefused _ hplace (hunknown document hdocument)⟩

/-- A template for one scope, with a misspelt key for the scope. -/
def misspeltScope : String :=
  "[[templates]]\nname = \"hello\"\nscope = \"ops\"\nbody = \"%echo hi\"\n"

/-- What is read of it is a template for every scope. -/
def everywhere : SettingsFile :=
  { templates := [{ name := "hello", scope? := none, body := "%echo hi" }] }

theorem misspelt_scope_is_accepted :
    ∃ document, parse? misspeltScope = some document ∧ MisspeltAt (.template 0) document ∧
      parse misspeltScope = .ok everywhere := by
  have hread : (parse? misspeltScope).isSome = true := by decide +kernel
  have hunknown : ∀ document ∈ parse? misspeltScope, MisspeltAt (.template 0) document := by
    decide +kernel
  have hsettings : ∀ document ∈ parse? misspeltScope, ofEntries? document = some everywhere := by
    decide +kernel
  have hcheck : everywhere.check = .ok () := Fallible.eq_ok_of_isOk () (by decide +kernel)
  obtain ⟨document, hdocument⟩ := Option.isSome_iff_exists.1 hread
  refine ⟨document, hdocument, hunknown document hdocument, ?_⟩
  rw [parse_eq_accept hdocument, accept_eq_ok_iff, ← check_eq_ok_iff]
  exact ⟨hsettings document hdocument, hcheck⟩

end SettingsFile

end ChatChain
