import CatalogAdmin.Catalog.File
import CatalogAdmin.Disk.Basic
import CatalogAdmin.Layout
import CatalogAdmin.Server.Client

/-!
# Errors of operations on tables

Each cause carries what its wording needs. `TableError.kind` sorts causes into the kinds that exit
codes go by, and `TableError.onTable` puts the table before a message that does not name it. That
changes neither the kind nor the innermost cause, and is done at most once.
-/

namespace CatalogAdmin

/-- A condition on a request that does not hold. -/
inductive ValidationError
  | uuidInReplicaPath (table : TableName) (replicaPath : Text)
  | sharedIdMismatch (table : TableName) (replicaPath : Text) (requested sharedId : Uuid)
  | sameUuid (table : TableName) (uuid : Uuid)
  | tableAttached (table : TableName)
  | missingCatalogFile (table : TableName) (path : Path)
  | pathNotVisible (disk : Text) (path : Path)
deriving DecidableEq, Repr

/-- The wording of a condition that does not hold. -/
def ValidationError.message : ValidationError → Text
  | .uuidInReplicaPath table path =>
    "replica path '" ++ path ++ "' of " ++ table.text
      ++ " contains the \x7buuid\x7d macro; changing its UUID is not allowed"
  | .sharedIdMismatch table path requested sharedId =>
    "UUID " ++ requested.text ++ " for " ++ table.text ++ " differs from table_shared_id "
      ++ sharedId.text ++ " recorded at '" ++ path ++ "'"
  | .sameUuid table uuid => table.text ++ " already has UUID " ++ uuid.text
  | .tableAttached table =>
    "table " ++ table.text ++ " is attached; delete it with DROP TABLE instead"
  | .missingCatalogFile table path => "no catalog file for " ++ table.text ++ " at " ++ path.text
  | .pathNotVisible disk path =>
    path.text ++ " is not visible on disk " ++ disk ++ " and lenient missing-path mode is disabled"

/-- Why the coordination service cannot give an answer. -/
inductive CoordinationError
  | unterminated (template : Text)
  | unknown (name template : Text)
  | noSharedId (path : Text)
  | notAUuid (path value : Text)
  | unsupportedCleanup
deriving DecidableEq, Repr

/-- The node that holds the identifier the replicas of a table share. -/
def sharedIdNode : Text := "table_shared_id"

/-- The wording of a coordination error. -/
def CoordinationError.message : CoordinationError → Text
  | .unterminated template => "unterminated macro in '" ++ template ++ "'"
  | .unknown name template => "unknown macro \x7b" ++ name ++ "\x7d in '" ++ template ++ "'"
  | .noSharedId path => "no " ++ sharedIdNode ++ " node under '" ++ path ++ "'"
  | .notAUuid path value => path ++ "/" ++ sharedIdNode ++ " holds '" ++ value ++ "', not a UUID"
  | .unsupportedCleanup =>
    "database and DDL queue cleanup are not supported through the server"

/-- What a query is for, for its error message. -/
inductive Task
  | checkingAttached (table : TableName)
  | readingTable (table : TableName)
  | detaching (table : TableName)
  | attaching (table : TableName)
  | listingDisks
  | readingVersion
  | readingPlaceholders
  | readingSharedId (path : Text)
  | removingReplica (name path : Text)
deriving DecidableEq, Repr

/-- The words for a task. -/
def Task.text : Task → Text
  | .checkingAttached table => "checking whether " ++ table.text ++ " is attached"
  | .readingTable table => "reading system.tables for " ++ table.text
  | .detaching table => "detaching " ++ table.text
  | .attaching table => "attaching " ++ table.text
  | .listingDisks => "listing disks"
  | .readingVersion => "reading server version"
  | .readingPlaceholders => "reading system.macros"
  | .readingSharedId path => "reading " ++ path ++ "/" ++ sharedIdNode
  | .removingReplica name path => "removing replica " ++ name ++ " at " ++ path

/-- What was being done to a path when an operation on files failed. -/
inductive FileAction
  | inspect
  | remove
  | removeCatalogFile
  | run
deriving DecidableEq, Repr

/-- The words for an action. -/
def FileAction.text : FileAction → Text
  | .inspect => "inspect"
  | .remove => "remove"
  | .removeCatalogFile => "remove catalog file"
  | .run => "run"

/-- A change of UUID that came to a halt after the catalog file was changed. -/
structure HalfDone where
  table : TableName
  oldUuid : Uuid
  newUuid : Uuid
  catalogFile : Path
  source : Path
  target : Path
  cause : IoError
deriving DecidableEq, Repr

/-- Why an operation on a table fails. -/
inductive TableError
  | metadata (e : Catalog.FileError)
  | query (task : Task) (e : ClientError)
  | queryTimeout (task : Task) (limit : Duration)
  | removerTimeout (tool disk : Text) (limit : Duration)
  | validation (e : ValidationError)
  | externalTool (tool disk path : Text) (code : Option Int) (stderr : Text)
  | inconsistentState (state : HalfDone)
  | diskLayout (clash : RoleClash)
  | coordination (e : CoordinationError)
  | io (action : FileAction) (path : Path) (cause : IoError)
  | onTable (table : TableName) (e : TableError)
deriving DecidableEq, Repr

/-- The kinds of errors. -/
inductive ErrorKind
  | parse
  | query
  | validation
  | externalTool
  | inconsistentState
  | diskLayout
  | coordination
  | timeout
  | io
deriving DecidableEq, Repr

/-- The exit code of a command that fails with an error of this kind. -/
def ErrorKind.exitCode : ErrorKind → Nat
  | .validation => 2
  | .parse => 3
  | .externalTool => 4
  | .inconsistentState => 5
  | _ => 1

/-- The kind of a failure to read or change a catalog file. -/
def Catalog.FileError.kind : Catalog.FileError → ErrorKind
  | .io .. => .io
  | .parse .. => .parse

/-- An exit code as messages show it. -/
def exitCodeText : Option Int → Text
  | none => "None"
  | some code => "Some(" ++ (toString code).toList ++ ")"

namespace TableError

/-- The error of a query; a time limit that ran out is a cause of its own. -/
def ofClient (task : Task) : ClientError → TableError
  | .timeout limit => .queryTimeout task limit
  | e => .query task e

/-- The wording of an error. -/
def message : TableError → Text
  | .metadata e => e.message
  | .query task e => "query failed while " ++ task.text ++ ": " ++ e.message
  | .queryTimeout task limit => task.text ++ " timed out after " ++ limit.decimal
  | .removerTimeout tool disk limit =>
    tool ++ " on disk " ++ disk ++ " timed out after " ++ limit.decimal
  | .validation e => e.message
  | .externalTool tool disk path code stderr =>
    tool ++ " failed on disk " ++ disk ++ " for " ++ path ++ ": exit code " ++ exitCodeText code
      ++ ", stderr: " ++ stderr
  | .inconsistentState s =>
    s.table.text ++ " is inconsistent: catalog file " ++ s.catalogFile.text ++ " now holds UUID "
      ++ s.newUuid.text ++ ", but moving " ++ s.source.text ++ " to " ++ s.target.text
      ++ " failed: " ++ s.cause.message ++ ". Restore UUID " ++ s.oldUuid.text
      ++ " in the catalog file or move the store directory by hand before attaching the table"
  | .diskLayout clash =>
    "disks '" ++ clash.first ++ "' and '" ++ clash.second ++ "' are both " ++ clash.role.text
      ++ "; at most one disk per role is supported"
  | .coordination e => "coordination service: " ++ e.message
  | .io action path cause =>
    "failed to " ++ action.text ++ " " ++ path.text ++ ": " ++ cause.message
  | .onTable table e => table.text ++ ": " ++ message e

/-- The kind of an error. -/
def kind : TableError → ErrorKind
  | .metadata e => e.kind
  | .query .. => .query
  | .queryTimeout .. => .timeout
  | .removerTimeout .. => .timeout
  | .validation _ => .validation
  | .externalTool .. => .externalTool
  | .inconsistentState _ => .inconsistentState
  | .diskLayout _ => .diskLayout
  | .coordination _ => .coordination
  | .io .. => .io
  | .onTable _ e => kind e

/-- The error underneath any table put before it. -/
def inner : TableError → TableError
  | .onTable _ e => inner e
  | e => e

/-- The error with the table before its message, unless the message names the table already. -/
def named (e : TableError) (table : TableName) : TableError :=
  match e with
  | .validation (.pathNotVisible ..) => .onTable table e
  | .validation _ => e
  | .inconsistentState _ => e
  | .onTable .. => e
  | _ => .onTable table e

/-- Whether trying again might help: no operation is ever tried again. -/
def isRetryable (_ : TableError) : Bool := false

end TableError

end CatalogAdmin
