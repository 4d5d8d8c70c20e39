import CatalogAdmin.Settings.Loading
import CatalogAdmin.Settings.Validation
import CatalogAdmin.TableError

/-!
# Failures of commands

A command fails with the error of what it does. It tells the error and the cause underneath, if the
error has one, and ends with the exit code of the error's kind.
-/

namespace CatalogAdmin

/-- Why a command fails. -/
inductive Failure
  | load (e : LoadError)
  | settings (fault : SettingsFault)
  | catalog (e : Catalog.FileError)
  | notADatabase (path : Path) (kind : Catalog.ObjectKind)
  | engineWords
  | table (e : TableError)
deriving DecidableEq, Repr

/-- The wording of the cause of an error, where there is one underneath it. -/
def TableError.causeMessage? : TableError → Option Text
  | .metadata e => some e.causeMessage
  | .query _ e => some e.message
  | .inconsistentState s => some s.cause.message
  | .io _ _ cause => some cause.message
  | _ => none

namespace Failure

/-- The wording of a failure. -/
def message : Failure → Text
  | .load e => e.message
  | .settings fault => fault.message
  | .catalog e => e.message
  | .notADatabase path kind => path.text ++ " describes a " ++ kind.text ++ ", not a database"
  | .engineWords => "--replicated takes exactly three values: PATH SHARD REPLICA"
  | .table e => e.message

/-- The wording of the cause of a failure, where there is one underneath it. -/
def causeMessage? : Failure → Option Text
  | .load (.missingFile path) => some (missingFileMessage path)
  | .catalog e => some e.causeMessage
  | .table e => e.causeMessage?
  | _ => none

/-- What a failing command prints. -/
def report (f : Failure) : Text :=
  "Error: " ++ f.message ++ '\n' ::
    match f.causeMessage? with
    | none => []
    | some cause => "  caused by: " ++ cause ++ "\n"

/-- The exit code of a command that fails. -/
def exitCode : Failure → Nat
  | .catalog e => e.kind.exitCode
  | .table e => e.kind.exitCode
  | _ => 1

end Failure

end CatalogAdmin
