import CatalogAdmin.Catalog.Engine
import CatalogAdmin.Layout

/-!
# Commands

What the program can be told to do, and the name and version it goes by.
-/

namespace CatalogAdmin

/-- The engine that a command line asks for: by its name alone, or by the words given with it. -/
inductive EngineChoice
  | atomic
  | replicated (words : List Text)
deriving DecidableEq, Repr

/-- The declaration of an engine that is asked for. A replicated engine takes three words: its path,
its shard and its replica. -/
def EngineChoice.declaration? : EngineChoice → Option Catalog.Declaration
  | .atomic => some .atomic
  | .replicated [path, shard, name] => some (.replicated path shard name)
  | .replicated _ => none

/-- What the program can be told to do. -/
inductive Command
  | changeUuid (table : TableName) (uuid : Uuid)
  | deleteDetached (table : TableName)
  | detach (table : TableName) (permanently : Bool)
  | attach (table : TableName)
  | showTable (table : TableName)
  | showDatabase (database : Text)
  | setEngine (database : Text) (engine : EngineChoice)
  | showSettings (json : Bool)
  | validateSettings
  | showVersion
deriving DecidableEq, Repr

/-- A command with what holds for every command: the settings file that is asked for, and how much
the program is to tell of itself. -/
structure Invocation where
  command : Command
  settingsFile : Option Path := none
  verbose : Bool := false
  quiet : Bool := false
deriving DecidableEq, Repr

/-- The least level at which the program tells of itself. Quiet wins over verbose. -/
def logLevel (verbose quiet : Bool) : Text :=
  if quiet then "warn" else if verbose then "debug" else "info"

/-- The name and the version of the program. -/
def programVersion : Text := "chadmin 0.1.0"

/-- What the version command prints: the version of the settings, and of the tools they need. -/
def versionLine : Text := "common 0.1.0 (1.85.0)"

end CatalogAdmin
