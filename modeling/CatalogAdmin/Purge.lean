import CatalogAdmin.Coordination
import CatalogAdmin.Disk.Removal

/-!
# Purging detached tables

A detached table is purged by removing its data from every disk, its replica, its link and its
marker, and last its catalog file. As long as the catalog file is there the table can be found, so a
purge that failed can be run again.
-/

namespace CatalogAdmin

/-- What a purge removed. -/
structure PurgeReport where
  table : TableName
  uuid : Uuid
  catalogFile : Path
  disks : List Text
  replicaPath : Option Text
  dataLinkRemoved : Bool
  detachedFlagRemoved : Bool
deriving DecidableEq, Repr

namespace Session

/-- Removes whatever is at a path, and answers whether there was anything. A link is removed, not
what it points to. -/
def removePath (p : Path) : Session Bool := fun w =>
  match w.tree.stat false p with
  | .error .notFound => .ok false w
  | .error e => .error (.io .inspect p e) w
  | .ok node =>
    let removal := if node = .directory then FileTree.removeDirectory p else FileTree.removeFile p
    (do
      (onTree removal).adaptExcept (TableError.io .remove p)
      return true) w

/-- Drops the replica of a table that has one, and answers its expanded path. -/
def dropReplicaOf (site : Site) (table : TableName) (record : Catalog.Record) :
    Session (Option Text) := do
  match record.engine.replica? with
  | none => return none
  | some replica =>
    let root ← expandFor site replica.path table record.uuid
    let name ← expandFor site replica.name table record.uuid
    dropReplica site { root, name }
    return some root

/-- Purges a table, failures not yet naming it. -/
def attemptPurge (site : Site) (table : TableName) : Session PurgeReport := do
  if ← isAttached site table then throw (.validation (.tableAttached table))
  let catalogFile := site.layout.tableFile table
  let present ← (look (·.isPresent catalogFile)).adaptExcept (TableError.io .inspect catalogFile)
  if !present then throw (.validation (.missingCatalogFile table catalogFile))
  let record ← (look (Catalog.readRecord · catalogFile)).adaptExcept TableError.metadata
  let disks ← listDisks site
  let form ← commandForm site
  removeFromDisks site record.uuid.storePath form disks
  let replicaPath ← dropReplicaOf site table record
  let dataLinkRemoved ← removePath (site.layout.dataLink table)
  let detachedFlagRemoved ← removePath (site.layout.detachedFlag table)
  (onTree (FileTree.removeFile catalogFile)).adaptExcept
    (TableError.io .removeCatalogFile catalogFile)
  return { table, uuid := record.uuid, catalogFile, disks := disks.map (·.name), replicaPath,
           dataLinkRemoved, detachedFlagRemoved }

/-- Purges a detached table. A failure names the table. -/
def purge (site : Site) (table : TableName) : Session PurgeReport :=
  (attemptPurge site table).adaptExcept (·.named table)

end Session

end CatalogAdmin
