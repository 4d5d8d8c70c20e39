import CatalogAdmin.Catalog.Record
import CatalogAdmin.Json.Printer
import CatalogAdmin.Purge
import CatalogAdmin.UuidChange

/-!
# Reports

What commands print, as JSON. Reports of changes have their members in the order in which things are
done; descriptions of catalog files have theirs in the order of the names.
-/

namespace CatalogAdmin

/-- A table as JSON. -/
def TableName.toJson (t : TableName) : Json :=
  .object [("database", .string t.database), ("table", .string t.table)]

/-- A report of a purge as JSON. -/
def PurgeReport.toJson (r : PurgeReport) : Json :=
  .object [("table", r.table.toJson), ("uuid", .string r.uuid.text),
    ("catalog_path", .string r.catalogFile.text), ("disks", .array (r.disks.map .string)),
    ("replica_path", .ofText? r.replicaPath), ("data_link_removed", .bool r.dataLinkRemoved),
    ("detached_flag_removed", .bool r.detachedFlagRemoved)]

/-- A report of a change of UUID as JSON. -/
def UuidChangeReport.toJson (r : UuidChangeReport) : Json :=
  .object [("table", r.table.toJson), ("catalog_path", .string r.catalogFile.text),
    ("old_uuid", .string r.oldUuid.text), ("new_uuid", .string r.newUuid.text),
    ("detached", .bool r.detached), ("store_relocated", .bool r.storeRelocated),
    ("data_link_updated", .bool r.dataLinkUpdated)]

namespace Catalog

/-- An engine as JSON. -/
def Engine.toJson : Engine → Json
  | .plain => .object [("type", .string "non_replicated")]
  | .replicated r =>
    .object [("replica_name", .string r.name), ("replica_path", .string r.path),
      ("shard", .ofText? r.shard), ("type", .string "replicated")]

/-- A record as JSON. -/
def Record.toJson (r : Record) : Json :=
  .object [("engine", r.engine.toJson), ("engine_name", .string r.engineName),
    ("kind", .string r.kind.text), ("uuid", .string r.uuid.text)]

end Catalog

/-- The description of a table's catalog file. -/
def tableDescription (table : TableName) (path : Path) (record : Catalog.Record) : Json :=
  .object [("path", .string path.text), ("record", record.toJson), ("table", table.toJson)]

/-- The description of a database's catalog file. -/
def databaseDescription (database : Text) (path : Path) (record : Catalog.Record) : Json :=
  .object [("database", .string database), ("path", .string path.text), ("record", record.toJson)]

end CatalogAdmin
