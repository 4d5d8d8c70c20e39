import CatalogAdmin.Session

/-!
# Attached tables

What the server tells about the tables it has attached, and the statements that detach and attach
one.
-/

namespace CatalogAdmin

/-- What the server tells about an attached table. -/
structure TableInfo where
  uuid : Uuid
  metadataPath : Path
deriving DecidableEq, Repr

namespace TableInfo

/-- Reads a row about a table. -/
def ofRow? (row : Row) : Option TableInfo := do
  return ⟨← Uuid.parse? (← row.text? "uuid"), ⟨← row.text? "metadata_path"⟩⟩

end TableInfo

/-- The condition that selects one table, with its name as parameters. -/
def tableCondition : Text :=
  "WHERE database = \x7bdatabase:String\x7d AND name = \x7btable:String\x7d"

/-- A query about one table. -/
def tableQuery (site : Site) (table : TableName) (selection : Text) : Query where
  sql := selection ++ tableCondition
  parameters := [("database", table.database), ("table", table.table)]
  timeout := some site.settings.server.timeouts.query

/-- A table's name as part of a statement. -/
def TableName.quoted (table : TableName) : Text :=
  quoteIdentifier table.database ++ '.' :: quoteIdentifier table.table

/-- The statement that detaches a table. A table detached permanently stays detached over restarts
of the server. -/
def detachStatement (table : TableName) (permanently : Bool) : Text :=
  "DETACH TABLE " ++ table.quoted ++ if permanently then " PERMANENTLY" else ""

/-- The statement that attaches a table. -/
def attachStatement (table : TableName) : Text := "ATTACH TABLE " ++ table.quoted

namespace Session

/-- Whether a table is attached: the server has a row for it, whatever is in the row. -/
def isAttached (site : Site) (table : TableName) : Session Bool := do
  let rows ← asTask (.checkingAttached table)
    (fetch site.server (tableQuery site table "SELECT 1 FROM system.tables "))
  return !rows.isEmpty

/-- What the server tells about a table, none if it is not attached. -/
def tableInfo? (site : Site) (table : TableName) : Session (Option TableInfo) := do
  let rows ← asTask (.readingTable table)
    (fetchAs site.server TableInfo.ofRow?
      (tableQuery site table "SELECT toString(uuid) AS uuid, metadata_path FROM system.tables "))
  return rows.head?

/-- Detaches a table. -/
def detach (site : Site) (table : TableName) (permanently : Bool) : Session Unit :=
  asTask (.detaching table) (execute site.server
    { sql := detachStatement table permanently,
      timeout := some site.settings.server.timeouts.detachTable })

/-- Attaches a table. -/
def attach (site : Site) (table : TableName) : Session Unit :=
  asTask (.attaching table) (execute site.server
    { sql := attachStatement table,
      timeout := some site.settings.server.timeouts.attachTable })

/-- The version the server reports. -/
def serverVersion (site : Site) : EStateM ClientError World Version := do
  let rows ← fetchAs site.server (Row.text? · "version")
    { sql := "SELECT version() AS version",
      timeout := some site.settings.server.timeouts.query }
  match rows with
  | [] => throw (.unexpected "version() returned no rows")
  | written :: _ =>
    match Version.parse? written with
    | some version => return version
    | none => throw (.unexpected ("invalid server version '" ++ written ++ "'"))

end Session

end CatalogAdmin
