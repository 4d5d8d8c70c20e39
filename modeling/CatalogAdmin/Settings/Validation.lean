import CatalogAdmin.Settings.Basic
import CatalogAdmin.Url.Basic

/-!
# Checking settings

Settings that load may still be of no use. `Settings.validate` gives the first fault there is, in
the order of `SettingsFault`.
-/

namespace CatalogAdmin

/-- The settings that hold a path that must be absolute. -/
inductive PathSetting
  | root
  | objectStorage
deriving DecidableEq, Repr

/-- The name of a setting that holds a path. -/
def PathSetting.text : PathSetting → Text
  | .root => "paths.clickhouse"
  | .objectStorage => "paths.object_storage"

/-- What makes settings useless. -/
inductive SettingsFault
  | invalidUrl (url : Text)
  | unsupportedScheme (scheme : Text)
  | zeroTimeout (name : Text)
  | noRemover
  | relativePath (setting : PathSetting) (path : Path)
deriving DecidableEq, Repr

/-- The wording of a fault. -/
def SettingsFault.message : SettingsFault → Text
  | .invalidUrl url => "Invalid ClickHouse URL '" ++ url ++ "'"
  | .unsupportedScheme scheme =>
    "Unsupported ClickHouse URL scheme: " ++ scheme ++ ". Supported: http, https"
  | .zeroTimeout name => "Timeout '" ++ name ++ "' cannot be zero"
  | .noRemover => "Disk remover binary cannot be empty"
  | .relativePath setting path => setting.text ++ " must be an absolute path, got " ++ path.text

namespace Settings

/-- The schemes a server can be reached by. -/
def supportedSchemes : List Text := ["http", "https"]

/-- The time limits by name. -/
def limits (s : Settings) : List (Text × Duration) :=
  [("query", s.server.timeouts.query), ("detach_table", s.server.timeouts.detachTable),
    ("attach_table", s.server.timeouts.attachTable), ("system", s.server.timeouts.system),
    ("remover", s.disks.timeout)]

/-- The fault of the server's URL, if it has one. -/
def urlFault? (s : Settings) : Option SettingsFault :=
  match Url.parse? s.server.url with
  | none => some (.invalidUrl s.server.url)
  | some url =>
    if supportedSchemes.contains url.scheme then none else some (.unsupportedScheme url.scheme)

/-- All faults of settings, in order. -/
def faults (s : Settings) : List SettingsFault :=
  s.urlFault?.toList
    ++ (s.limits.filter (·.2.nanoseconds = 0)).map (.zeroTimeout ·.1)
    ++ (if s.disks.remover.isEmpty then [.noRemover] else [])
    ++ ([(PathSetting.root, s.paths.root), (.objectStorage, s.paths.objectStorage)].filter
        (!·.2.isAbsolute)).map fun (setting, path) => .relativePath setting path

/-- Checks settings; a failure is their first fault. -/
def validate (s : Settings) : Except SettingsFault Unit :=
  match s.faults.head? with
  | none => .ok ()
  | some fault => .error fault

end Settings

end CatalogAdmin
