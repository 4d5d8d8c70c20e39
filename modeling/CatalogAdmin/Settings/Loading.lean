import CatalogAdmin.FileTree.Operations
import CatalogAdmin.Settings.Environment
import CatalogAdmin.Toml.Document

/-!
# Loading settings

Settings come in three layers: the standard ones, those of a file and those of the environment. A
file that is asked for by name must exist; the file of the standard name is used if it is there.
-/

namespace CatalogAdmin

/-- Why settings cannot be loaded. -/
inductive LoadError
  | missingFile (path : Path)
  | invalid
deriving DecidableEq, Repr

/-- The wording of a missing file. -/
def missingFileMessage (path : Path) : Text :=
  "configuration file " ++ path.text ++ " does not exist"

/-- The wording of a failure to load. -/
def LoadError.message (_ : LoadError) : Text := "Failed to load configuration"

/-- The name of the settings file that is used if it is there. -/
def settingsFileName : Path := "chadmin.toml"

/-- A directory and those above it. -/
def ancestry : Location → List Location
  | [] => [[]]
  | name :: rest => (ancestry rest).map (name :: ·) ++ [[]]

/-- Where a settings file is looked for: a relative path in the directory the program runs in, then
in those above it. -/
def candidates (t : FileTree) (file : Path) : List Path :=
  if file.isAbsolute then [file]
  else (ancestry t.here).map fun l => Path.join ⟨'/' :: Text.join "/" l⟩ file

/-- Whether a path names a file. -/
def namesFile (t : FileTree) (p : Path) : Bool :=
  match t.stat true p with
  | .ok (.file _) => true
  | _ => false

/-- The layer of a settings file: empty where there is no such file. -/
def fileLayer (t : FileTree) (file : Path) : Option Value :=
  match (candidates t file).find? (namesFile t) with
  | none => some (.table [])
  | some found => (t.readText found).toOption.bind Toml.parse?

/-- The settings, given the file that is asked for, if any. -/
def Settings.load (t : FileTree) (env : Environment) (file : Option Path) :
    Except LoadError Settings := do
  if let some path := file then
    if (t.stat true path).toOption.isNone then throw (.missingFile path)
  match fileLayer t (file.getD settingsFileName) with
  | none => throw .invalid
  | some layer =>
    let standard : Settings := {}
    match Settings.ofValue? (env.toValue.above (layer.above standard.toValue)) with
    | none => throw .invalid
    | some settings => return settings

end CatalogAdmin
