import CatalogAdmin.Path
import CatalogAdmin.Text.Digits
import CatalogAdmin.Uuid

/-!
# The layout of a server's files

Under its root the server keeps catalog files in `metadata/`, links named after tables in `data/`
and the tables' data in `store/`, by UUID. Names of databases and tables are escaped before they
become file names: letters, digits and `_` stand for themselves and every other byte of the UTF-8
form is written `%XX`, so no name can hold a slash or a dot.
-/

namespace CatalogAdmin

/-- A table, named by its database and its own name. -/
structure TableName where
  database : Text
  table : Text
deriving DecidableEq, Repr

/-- A table as `database.table`. -/
def TableName.text (t : TableName) : Text := t.database ++ '.' :: t.table

/-! ## Names of files -/

/-- Whether a byte stands for itself in a file name. -/
def isPlainByte (b : UInt8) : Bool := (Char.ofNat b.toNat).isAlphanum || b = 95

/-- A byte as it stands in a file name. -/
def escapeByte (b : UInt8) : Text :=
  if isPlainByte b then [Char.ofNat b.toNat] else Text.percentByte b

/-- A name of a database or table, as a file name. -/
def escapeName (name : Text) : Text := (name.flatMap String.utf8EncodeChar).flatMap escapeByte

/-- The store directory of a UUID, below the root of any disk. -/
def Uuid.storePath (u : Uuid) : Text := "store/" ++ u.text.take 3 ++ '/' :: u.text

/-! ## Files under the root -/

/-- A server's files, by the root directory they are under. -/
structure Layout where
  root : Path
deriving DecidableEq, Repr

namespace Layout

/-- Where catalog files are. -/
def metadataDirectory (l : Layout) : Path := l.root.join "metadata"

/-- Where the tables' links are. -/
def dataDirectory (l : Layout) : Path := l.root.join "data"

/-- The catalog file of a database. -/
def databaseFile (l : Layout) (database : Text) : Path :=
  l.metadataDirectory.join ⟨escapeName database ++ ".sql"⟩

/-- The catalog file of a table. -/
def tableFile (l : Layout) (t : TableName) : Path :=
  (l.metadataDirectory.join ⟨escapeName t.database⟩).join ⟨escapeName t.table ++ ".sql"⟩

/-- The marker beside a table's catalog file that keeps the table detached over restarts. -/
def detachedFlag (l : Layout) (t : TableName) : Path := (l.tableFile t).extend ".detached"

/-- The link from a table's name to its store directory. -/
def dataLink (l : Layout) (t : TableName) : Path :=
  (l.dataDirectory.join ⟨escapeName t.database⟩).join ⟨escapeName t.table⟩

/-- The store directory of a UUID. -/
def storeDirectory (l : Layout) (u : Uuid) : Path := l.root.join ⟨u.storePath⟩

end Layout

end CatalogAdmin
