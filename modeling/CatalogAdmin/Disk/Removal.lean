import CatalogAdmin.Server.Tables
import CatalogAdmin.Text.Utf8

/-!
# Removing data from disks

The disks the server reports, without those the settings exclude, and the removal of a path from one
of them. A path is removed by the external program even where it cannot be seen on this host, unless
the settings say otherwise.
-/

namespace CatalogAdmin

/-- Where a path on a disk can be seen on this host. -/
def PathSettings.visiblePath (paths : PathSettings) (disk : Disk) (path : Text) : Path :=
  match disk.role with
  | .local => paths.root.join ⟨path⟩
  | .objectStorage => paths.objectStorage.join ⟨path⟩

namespace Session

/-- The disks data is to be removed from, in the server's order. -/
def listDisks (site : Site) : Session (List Disk) := do
  let rows ← asTask .listingDisks (fetchAs site.server
    (fun row => do return (← row.text? "name", ← row.text? "type"))
    { sql := "SELECT name, type FROM system.disks ORDER BY name",
      timeout := some site.settings.server.timeouts.query })
  match classify (rows.filter fun row => !site.settings.disks.excluded.contains row.1) with
  | .ok disks => return disks
  | .error clash => throw (.diskLayout clash)

/-- The form of the remover's command that goes with the server's version. -/
def commandForm (site : Site) : Session CommandForm := do
  return .ofVersion (← asTask .readingVersion (serverVersion site))

/-- Removes a path from a disk. -/
def removeFromDisk (site : Site) (disk : Disk) (path : Text) (form : CommandForm) :
    Session Unit := do
  let visible := site.settings.paths.visiblePath disk path
  let present ← (look (·.isPresent visible)).adaptExcept (TableError.io .inspect visible)
  if !present then
    if !site.settings.disks.lenient then
      throw (.validation (.pathNotVisible disk.name visible))
    tell (.pathNotVisible disk.name visible)
  let outcome ← remove site.remover
    ⟨disk.name, path, site.settings.disks.configFor disk.name, form⟩
  if !outcome.succeeded then
    throw (.externalTool site.remover.name disk.name path outcome.exitCode
      (Text.decodeLossy outcome.stderr).trim)

/-- Removes a path from several disks, up to the first failure. -/
def removeFromDisks (site : Site) (path : Text) (form : CommandForm) : List Disk → Session Unit
  | [] => pure ()
  | disk :: more => do
    removeFromDisk site disk path form
    removeFromDisks site path form more

end Session

end CatalogAdmin
