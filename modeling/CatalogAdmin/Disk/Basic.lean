import CatalogAdmin.Path
import CatalogAdmin.Server.Version

/-!
# Disks

A server's disks are local or object storage, by their type, and of each role there is at most one
disk. Data is removed from a disk by an external program, whose command comes in two forms, by the
version of the server it was shipped with.
-/

namespace CatalogAdmin

/-- What a disk is for. -/
inductive DiskRole
  | local
  | objectStorage
deriving DecidableEq, Repr

/-- The words for a role. -/
def DiskRole.text : DiskRole → Text
  | .local => "local"
  | .objectStorage => "object storage"

/-- The types of object storage disks. -/
def objectStorageTypes : List Text := ["s3", "s3_plain", "ObjectStorage"]

/-- The role of a disk of some type: any type but those of object storage is local. -/
def DiskRole.ofType (type : Text) : DiskRole :=
  if type ∈ objectStorageTypes then .objectStorage else .local

/-- A disk. -/
structure Disk where
  name : Text
  type : Text
  role : DiskRole
deriving DecidableEq, Repr

/-- Two disks of one role, in the order they were found. -/
structure RoleClash where
  role : DiskRole
  first : Text
  second : Text
deriving DecidableEq, Repr

/-- The disks of some names and types, given the disks before them. -/
def classifyAfter (before : List Disk) : List (Text × Text) → Except RoleClash (List Disk)
  | [] => .ok before
  | (name, type) :: more =>
    let role := DiskRole.ofType type
    match before.find? (·.role = role) with
    | some taken => .error ⟨role, taken.name, name⟩
    | none => classifyAfter (before ++ [⟨name, type, role⟩]) more

/-- The disks of some names and types, at most one of each role. -/
def classify (rows : List (Text × Text)) : Except RoleClash (List Disk) := classifyAfter [] rows

/-! ## The remover's command -/

/-- The form of the remover's command. -/
inductive CommandForm
  | positional
  | query
deriving DecidableEq, Repr

/-- The form the remover shipped with a server understands: from 24.7 on, a query. -/
def CommandForm.ofVersion (v : Version) : CommandForm :=
  if v.atLeast 24 7 then .query else .positional

/-- The arguments that remove a path. -/
def CommandForm.arguments (path : Text) : CommandForm → List Text
  | .positional => ["remove", path]
  | .query => ["--query", "remove -r " ++ path]

/-- A run of the remover. -/
structure Removal where
  disk : Text
  path : Text
  config : Path
  form : CommandForm
deriving DecidableEq, Repr

/-- All arguments of a run of the remover. -/
def Removal.arguments (r : Removal) : List Text :=
  "-C" :: r.config.text :: "--disk" :: r.disk :: r.form.arguments r.path

/-- How a run of the remover ended. There is no exit code if a signal ended it. -/
structure RemovalOutcome where
  exitCode : Option Int
  stderr : List UInt8
deriving DecidableEq, Repr

/-- Whether a run removed what it was asked to. -/
def RemovalOutcome.succeeded (o : RemovalOutcome) : Bool := o.exitCode = some 0

end CatalogAdmin
