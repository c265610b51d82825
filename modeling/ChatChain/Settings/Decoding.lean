import ChatChain.Settings.File
import ChatChain.Toml.Document

/-!
# Reading a settings file

A settings file is a TOML document.  A section is a table, or an array of its fields in order.
Unknown keys are refused, except in the section for the grammar and in the entries for templates.

* `Toml.Record.of?` sees an item as a record.
* `SettingsFile.ofEntries?` reads the settings off a document.
* `SettingsFile.parse` reads and checks the text of a file.
-/

namespace ChatChain

namespace Toml

/-! ## Records -/

/-- A record: a value for some of its fields. -/
abbrev Record := String → Option Item

/-- What a record demands of an item. -/
structure RecordShape where
  /-- The names of the fields, in order. -/
  fields : List String
  /-- Whether keys other than the fields are refused. -/
  strict : Bool := true
  /-- Whether an array must give all fields. -/
  complete : Bool := false

/-- The record of a table. -/
def Record.ofEntries? (shape : RecordShape) (entries : Entries) : Option Record :=
  if shape.strict && entries.any fun entry => !shape.fields.contains entry.1 then none
  else some entries.get?

/-- The record of an array: the fields in order, and items beyond the last field do not matter. -/
def Record.ofItems? (shape : RecordShape) (items : List Item) : Option Record :=
  if shape.complete && items.length < shape.fields.length then none
  else some (Entries.get? (shape.fields.zip items))

/-- Sees an item as a record.  A moment counts as a table with one unknown key. -/
def Record.of? (shape : RecordShape) : Item → Option Record
  | .table _ entries => ofEntries? shape entries
  | .array items => ofItems? shape items
  | .rows tables => ofItems? shape (tables.map (.table .row))
  | .moment _ => if shape.strict then none else some fun _ => none
  | _ => none

namespace Record

variable {α : Type}

/-- Reads a field that may be missing.  The outer option says whether it reads. -/
def optional? (r : Record) (read : Item → Option α) (field : String) : Option (Option α) :=
  match r field with
  | none => some none
  | some item => (read item).map some

/-- Reads a field with a default. -/
def getD? (r : Record) (read : Item → Option α) (field : String) (default : α) : Option α :=
  (r.optional? read field).map (Option.getD · default)

/-- Reads a field that must be there. -/
def require? (r : Record) (read : Item → Option α) (field : String) : Option α :=
  (r field).bind read

end Record

namespace Item

variable {α : Type}

/-- A text. -/
def text? : Item → Option String
  | text value => some value
  | _ => none

/-- A text of one character. -/
def char? : Item → Option Char
  | text value =>
    match value.toList with
    | [c] => some c
    | _ => none
  | _ => none

/-- An integer that is not negative. -/
def natural? : Item → Option Nat
  | integer value => if 0 ≤ value then some value.toNat else none
  | _ => none

/-- The items of an array. -/
def list? (read : Item → Option α) : Item → Option (List α)
  | array items => items.mapM read
  | rows tables => (tables.map (table .row)).mapM read
  | _ => none

end Item

end Toml

/-! ## Sections -/

open Toml

/-- The fields of the section for the grammar. -/
def Grammar.shape : RecordShape :=
  { fields := ["prefix", "named_prefix"], strict := false }

/-- Reads the section for the grammar. -/
def Grammar.ofItem? (item : Item) : Option Grammar := do
  let r ← Record.of? shape item
  let base : Grammar := {}
  return {
    commandMark := ← r.getD? Item.char? "prefix" base.commandMark
    argumentMark := ← r.getD? Item.char? "named_prefix" base.argumentMark }

/-- The fields of the section for running. -/
def RuntimeSettings.shape : RecordShape :=
  { fields := ["temp_root", "max_chain_length", "step_timeout_ms", "max_template_commands"]
    complete := true }

/-- Reads the section for running. -/
def RuntimeSettings.ofItem? (item : Item) : Option RuntimeSettings := do
  let r ← Record.of? shape item
  return {
    tempRoot? := ← r.optional? Item.text? "temp_root"
    chainLimit? := ← r.optional? Item.natural? "max_chain_length"
    stepTimeout? := ← r.optional? Item.natural? "step_timeout_ms"
    templateLimit? := ← r.optional? Item.natural? "max_template_commands" }

/-- The fields of the section for limits. -/
def LimitSettings.shape : RecordShape :=
  { fields := ["max_message_content_length", "max_file_size", "max_files_per_message"]
    complete := true }

/-- Reads the section for limits. -/
def LimitSettings.ofItem? (item : Item) : Option LimitSettings := do
  let r ← Record.of? shape item
  return {
    maxText? := ← r.optional? Item.natural? "max_message_content_length"
    maxFileSize? := ← r.optional? Item.natural? "max_file_size"
    maxFiles? := ← r.optional? Item.natural? "max_files_per_message" }

/-- The fields of an entry for a template. -/
def Template.shape : RecordShape :=
  { fields := ["name", "scope_id", "body"], strict := false }

/-- Reads an entry for a template. -/
def Template.ofItem? (item : Item) : Option Template := do
  let r ← Record.of? shape item
  return {
    name := ← r.require? Item.text? "name"
    scope? := ← r.optional? Item.text? "scope_id"
    body := ← r.require? Item.text? "body" }

/-- The fields of the section for bans. -/
def BanSettings.shape : RecordShape :=
  { fields := ["users", "guilds"] }

/-- Reads the section for bans. -/
def BanSettings.ofItem? (item : Item) : Option BanSettings := do
  let r ← Record.of? shape item
  return {
    users := ← r.getD? (Item.list? Item.text?) "users" []
    guilds := ← r.getD? (Item.list? Item.text?) "guilds" [] }

namespace SettingsFile

/-- The sections of a file. -/
def shape : RecordShape :=
  { fields := ["grammar", "runtime", "limits", "templates", "bans"] }

/-- Reads the settings off a document. -/
def ofEntries? (document : Entries) : Option SettingsFile := do
  let r ← Record.ofEntries? shape document
  return {
    grammar := ← r.getD? Grammar.ofItem? "grammar" {}
    runtime := ← r.getD? RuntimeSettings.ofItem? "runtime" {}
    limits := ← r.getD? LimitSettings.ofItem? "limits" {}
    templates := ← r.getD? (Item.list? Template.ofItem?) "templates" []
    bans := ← r.getD? BanSettings.ofItem? "bans" {} }

end SettingsFile

/-- Why the text of a settings file is refused. -/
inductive SettingsError where
  /-- It is no document, or no document of settings. -/
  | malformed
  | fault (fault : SettingsFault)
  deriving DecidableEq, Repr

/-- Reads and checks the text of a settings file. -/
def SettingsFile.parse (text : String) : Except SettingsError SettingsFile :=
  match (parse? text).bind ofEntries? with
  | none => .error .malformed
  | some f => (f.check.mapError .fault).map fun _ => f

end ChatChain
