import CatalogAdmin.Coordination

/-!
# Changing a table's UUID

A change of UUID goes through four phases. Validation reads the catalog file and, for a replicated
table, asks whether the replicas agree on the new UUID; it changes nothing. Then the table is
detached if it is attached, its catalog file takes the new UUID, and its store directory is moved,
with the table's link. A failure tells the phase it happened in. From the moment the catalog file is
changed a failure leaves the change half done, which the error says in full.

The table is left detached.
-/

namespace CatalogAdmin

/-- What a change of UUID did. -/
structure UuidChangeReport where
  table : TableName
  catalogFile : Path
  oldUuid : Uuid
  newUuid : Uuid
  detached : Bool
  storeRelocated : Bool
  dataLinkUpdated : Bool
deriving DecidableEq, Repr

/-- A failed change of UUID: the phase it failed in, and why. -/
structure UuidChangeFailure where
  phase : Phase
  error : TableError
deriving DecidableEq, Repr

namespace FileTree

/-- An answer about the tree, as an operation on it. -/
def look {α : Type} (f : FileTree → Except IoError α) : EStateM IoError FileTree α := fun t =>
  match f t with
  | .ok a => .ok a t
  | .error e => .error e t

/-- Moves a store directory and lets the table's link point to the new one. A link is redirected if
its target goes through the same components as the old directory's path. A directory that is missing
is no failure; one that is in the way is. Answers whether the directory was moved and whether the
link was redirected. -/
def relocateStore (link source target : Path) : EStateM IoError FileTree (Bool × Bool) := do
  if !(← look (·.isPresent source)) then return (false, false)
  if ← look (·.isPresent target) then throw (.occupied target)
  match target.parent? with
  | some parent => makeDirectories parent
  | none => pure ()
  rename source target
  match (← get).readLink link with
  | .ok current =>
    if current.components = source.components then
      removeFile link
      makeLink target link
      return (true, true)
    else return (true, false)
  | .error _ => return (true, false)

end FileTree

namespace Session

/-- Checks that a table may be given a new UUID, and answers its record. A replicated table's path
must not depend on the UUID, and the replicas must share the new UUID already. -/
def validateUuidChange (site : Site) (table : TableName) (catalogFile : Path) (newUuid : Uuid) :
    Session Catalog.Record := do
  let record ← (look (Catalog.readRecord · catalogFile)).adaptExcept TableError.metadata
  if record.uuid = newUuid then throw (.validation (.sameUuid table newUuid))
  match record.engine.replica? with
  | none => return record
  | some replica =>
    if replica.mentions "uuid" then
      throw (.validation (.uuidInReplicaPath table replica.path))
    let path ← expandFor site replica.path table record.uuid
    let shared ← sharedId site path
    if shared ≠ newUuid then
      throw (.validation (.sharedIdMismatch table path newUuid shared))
    return record

/-- An operation within a phase of a change of UUID. -/
def during {α : Type} (phase : Phase) (x : Session α) : EStateM UuidChangeFailure World α :=
  x.adaptExcept (UuidChangeFailure.mk phase)

/-- Changes a table's UUID. A failure tells its phase. -/
def attemptUuidChange (site : Site) (table : TableName) (newUuid : Uuid) :
    EStateM UuidChangeFailure World UuidChangeReport := do
  let info ← during .validating (tableInfo? site table)
  let catalogFile := match info with
    | some info => site.settings.paths.resolve info.metadataPath
    | none => site.layout.tableFile table
  let record ← during .validating (validateUuidChange site table catalogFile newUuid)
  tell (.transition .validating .detaching)
  if info.isSome then during .detaching (detach site table false)
  tell (.transition .detaching .changingCatalog)
  let oldUuid ← during .changingCatalog
    ((onTree (Catalog.setUuid catalogFile newUuid)).adaptExcept TableError.metadata)
  if oldUuid ≠ record.uuid then tell (.catalogFileChanged record.uuid oldUuid)
  tell (.transition .changingCatalog .relocatingStore)
  let source := site.layout.storeDirectory oldUuid
  let target := site.layout.storeDirectory newUuid
  let (storeRelocated, dataLinkUpdated) ← during .relocatingStore
    ((onTree (FileTree.relocateStore (site.layout.dataLink table) source target)).adaptExcept
      fun cause => TableError.inconsistentState
        { table, oldUuid, newUuid, catalogFile, source, target, cause })
  return { table, catalogFile, oldUuid, newUuid, detached := info.isSome, storeRelocated,
           dataLinkUpdated }

/-- Changes a table's UUID. The last transition tells how the change ended, and a failure names the
table. -/
def changeUuid (site : Site) (table : TableName) (newUuid : Uuid) : Session UuidChangeReport :=
  fun w =>
    match attemptUuidChange site table newUuid w with
    | .ok report w => (do tell (.transition .relocatingStore .done); return report) w
    | .error failure w =>
      (do tell (.transition failure.phase .failed); throw (failure.error.named table)) w

end Session

end CatalogAdmin
