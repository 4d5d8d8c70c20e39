import CatalogAdmin.Duration
import CatalogAdmin.Path

/-!
# Settings

How to reach the server, where its files are, and how data is removed from disks. `Settings.default`
holds what applies where nothing else is said.
-/

namespace CatalogAdmin

/-- How long each kind of query may take. -/
structure Timeouts where
  query : Duration := .seconds 60
  detachTable : Duration := .seconds 300
  attachTable : Duration := .seconds 300
  system : Duration := .seconds 300
deriving DecidableEq, Repr

/-- How to reach the server. -/
structure ServerSettings where
  url : Text := "http://localhost:8123"
  user : Text := "default"
  password : Option Text := none
  timeouts : Timeouts := {}
deriving DecidableEq, Repr

/-- Where the server's files are, and where the data of the object storage disk can be seen. -/
structure PathSettings where
  root : Path := "/var/lib/clickhouse"
  objectStorage : Path := "/var/lib/clickhouse/disks/object_storage"
deriving DecidableEq, Repr

/-- Where a path is that a server reports: servers report absolute paths, or paths relative to
their root. -/
def PathSettings.resolve (paths : PathSettings) (reported : Path) : Path :=
  if reported.isAbsolute then reported else paths.root.join reported

/-- How data is removed from disks. -/
structure DiskSettings where
  /-- The program that removes data. -/
  remover : Text := "clickhouse-disks"
  /-- The configuration the program is given. -/
  config : Path := "/etc/clickhouse-server/config.xml"
  /-- The configurations of disks that need one of their own. -/
  configOverrides : List (Text × Path) := []
  /-- The disks that are left alone. -/
  excluded : List Text := ["object_storage_cache"]
  /-- Whether a path that cannot be seen is removed nevertheless. -/
  lenient : Bool := true
  timeout : Duration := .seconds 600
deriving DecidableEq, Repr

/-- The configuration the remover is given for a disk. -/
def DiskSettings.configFor (disks : DiskSettings) (disk : Text) : Path :=
  (disks.configOverrides.lookup disk).getD disks.config

/-- All settings. -/
structure Settings where
  server : ServerSettings := {}
  paths : PathSettings := {}
  disks : DiskSettings := {}
deriving DecidableEq, Repr

end CatalogAdmin
