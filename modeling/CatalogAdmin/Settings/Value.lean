import CatalogAdmin.Settings.Basic

/-!
# Settings as values

Settings come in layers, each a tree of values under names. A later layer is laid over an earlier
one by `Value.above`: tables are merged name by name, and any other value takes the place of what was
there. `Settings.toValue` writes settings as such a tree and `Settings.ofValue?` reads them,
strictly: a text is read from a text only, a truth value from a truth value only. Names that mean
nothing are passed over.
-/

namespace CatalogAdmin

/-- A value in a layer of settings. Numbers mean nothing to any setting, so only their presence is
kept. -/
inductive Value
  | absent
  | text (t : Text)
  | flag (b : Bool)
  | number
  | list (items : List Value)
  | table (members : List (Text × Value))
deriving Repr, Inhabited

namespace Value

/-! ## Layers -/

/-- Puts a member into a table, in the place of one of its name. -/
def put {α : Type} (name : Text) (a : α) : List (Text × α) → List (Text × α)
  | [] => [(name, a)]
  | (n, b) :: more => if n = name then (n, a) :: more else (n, b) :: put name a more

mutual

/-- A value laid over another one. -/
def above : Value → Value → Value
  | .table upper, .table lower => .table (membersAbove upper lower)
  | .table upper, _ => .table (membersAbove upper [])
  | upper, _ => upper

/-- The members of a table laid over those of another one. -/
def membersAbove : List (Text × Value) → List (Text × Value) → List (Text × Value)
  | [], lower => lower
  | (name, value) :: more, lower =>
    membersAbove more (put name (above value ((lower.lookup name).getD .absent)) lower)

end

/-! ## Reading and writing single settings -/

/-- A kind of setting: how it is written as a value and read from one. -/
structure Form (α : Type) where
  write : α → Value
  read : Value → Option α

/-- A text. -/
def textForm : Form Text where
  write := .text
  read
    | .text t => some t
    | _ => none

/-- A path. -/
def pathForm : Form Path where
  write p := .text p.text
  read v := (textForm.read v).map Path.mk

/-- A truth value. -/
def flagForm : Form Bool where
  write := .flag
  read
    | .flag b => some b
    | _ => none

/-- A duration, written as spans. -/
def durationForm : Form Duration where
  write d := .text d.spans
  read v := (textForm.read v).bind Duration.parse?

/-- A setting that may be absent. -/
def optionalForm {α : Type} (form : Form α) : Form (Option α) where
  write
    | none => .absent
    | some a => form.write a
  read
    | .absent => some none
    | v => (form.read v).map some

/-- Some settings of one kind. -/
def listForm {α : Type} (form : Form α) : Form (List α) where
  write as := .list (as.map form.write)
  read
    | .list items => items.mapM form.read
    | _ => none

/-- Settings of one kind by name. -/
def namedForm {α : Type} (form : Form α) : Form (List (Text × α)) where
  write as := .table (as.map fun (name, a) => (name, form.write a))
  read
    | .table members => members.mapM fun (name, v) => (form.read v).map (name, ·)
    | _ => none

/-- A member of a group of settings. A group is a table of its members by name, or a list of them
in order. -/
def member? (v : Value) (name : Text) (position : Nat) : Option Value :=
  match v with
  | .table members => members.lookup name
  | .list items => items[position]?
  | _ => none

/-- Reads a member of a group, which must be there. -/
def required {α : Type} (form : Form α) (v : Value) (name : Text) (position : Nat) : Option α :=
  (v.member? name position).bind form.read

/-- Reads a member of a group, which has a default. -/
def defaulted {α : Type} (form : Form α) (otherwise : α) (v : Value) (name : Text)
    (position : Nat) : Option α :=
  match v.member? name position with
  | none => some otherwise
  | some found => form.read found

/-! ## Groups -/

/-- The time limits of queries. -/
def timeoutsForm : Form Timeouts where
  write t :=
    .table [("query", durationForm.write t.query),
      ("detach_table", durationForm.write t.detachTable),
      ("attach_table", durationForm.write t.attachTable),
      ("system", durationForm.write t.system)]
  read v := do
    return { query := ← required durationForm v "query" 0,
             detachTable := ← required durationForm v "detach_table" 1,
             attachTable := ← required durationForm v "attach_table" 2,
             system := ← required durationForm v "system" 3 }

/-- How to reach the server. -/
def serverForm : Form ServerSettings where
  write s :=
    .table [("url", textForm.write s.url), ("user", textForm.write s.user),
      ("password", (optionalForm textForm).write s.password),
      ("timeouts", timeoutsForm.write s.timeouts)]
  read v := do
    return { url := ← required textForm v "url" 0,
             user := ← required textForm v "user" 1,
             password := ← defaulted (optionalForm textForm) none v "password" 2,
             timeouts := ← defaulted timeoutsForm {} v "timeouts" 3 }

/-- Where files are. -/
def pathsForm : Form PathSettings where
  write p :=
    .table [("clickhouse", pathForm.write p.root),
      ("object_storage", pathForm.write p.objectStorage)]
  read v := do
    return { root := ← required pathForm v "clickhouse" 0,
             objectStorage := ← required pathForm v "object_storage" 1 }

/-- How data is removed. -/
def disksForm : Form DiskSettings where
  write d :=
    .table [("remover", textForm.write d.remover), ("config", pathForm.write d.config),
      ("config_overrides", (namedForm pathForm).write d.configOverrides),
      ("excluded", (listForm textForm).write d.excluded),
      ("lenient_missing_paths", flagForm.write d.lenient),
      ("remover_timeout", durationForm.write d.timeout)]
  read v := do
    let standard : DiskSettings := {}
    return { remover := ← required textForm v "remover" 0,
             config := ← required pathForm v "config" 1,
             configOverrides := ← defaulted (namedForm pathForm) [] v "config_overrides" 2,
             excluded := ← defaulted (listForm textForm) standard.excluded v "excluded" 3,
             lenient := ← defaulted flagForm standard.lenient v "lenient_missing_paths" 4,
             timeout := ← required durationForm v "remover_timeout" 5 }

end Value

namespace Settings

/-- Settings as a value. -/
def toValue (s : Settings) : Value :=
  .table [("clickhouse", Value.serverForm.write s.server), ("paths", Value.pathsForm.write s.paths),
    ("disks", Value.disksForm.write s.disks)]

/-- Reads settings from a value. -/
def ofValue? (v : Value) : Option Settings := do
  return { server := ← Value.required Value.serverForm v "clickhouse" 0,
           paths := ← Value.required Value.pathsForm v "paths" 1,
           disks := ← Value.required Value.disksForm v "disks" 2 }

end Settings

end CatalogAdmin
