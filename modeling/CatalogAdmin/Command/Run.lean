import CatalogAdmin.Command.Arguments
import CatalogAdmin.Command.Failure
import CatalogAdmin.Command.Report
import CatalogAdmin.Disk.Program
import CatalogAdmin.Server.Http
import CatalogAdmin.Settings.Display

/-!
# Running commands

A command runs on a world and answers what it prints. `runCommandLine` is the whole program: it
reads a command line, loads the settings, runs the command and tells a failure.
-/

namespace CatalogAdmin

/-- A world in which a command may fail. -/
abbrev Run := EStateM Failure World

/-- A value as it is printed. -/
def Json.line (v : Json) : Text := v.print ++ "\n"

/-- Lines as they are printed. -/
def printed (ls : List Text) : Text := ls.flatMap (· ++ "\n")

/-- The record in a catalog file. -/
def readCatalogFile (path : Path) : Run Catalog.Record :=
  (Session.look (Catalog.readRecord · path)).adaptExcept Failure.catalog

/-- Gives a database another engine. Only the catalog file of a database is changed, and only if
it can be read. -/
def setDatabaseEngine (layout : Layout) (database : Text) (engine : Catalog.Declaration) :
    Run Unit := do
  let path := layout.databaseFile database
  let record ← readCatalogFile path
  if record.kind ≠ .database then throw (.notADatabase path record.kind)
  (Session.onTree (Catalog.setEngine path engine)).adaptExcept Failure.catalog

/-- Runs a command, and answers what it prints. -/
def Command.run (site : Site) : Command → Run Text
  | .changeUuid table uuid => do
    return (← (Session.changeUuid site table uuid).adaptExcept Failure.table).toJson.line
  | .deleteDetached table => do
    return (← (Session.purge site table).adaptExcept Failure.table).toJson.line
  | .detach table permanently => do
    (Session.detach site table permanently).adaptExcept Failure.table
    return []
  | .attach table => do
    (Session.attach site table).adaptExcept Failure.table
    return []
  | .showTable table => do
    let path := site.layout.tableFile table
    return (tableDescription table path (← readCatalogFile path)).line
  | .showDatabase database => do
    let path := site.layout.databaseFile database
    return (databaseDescription database path (← readCatalogFile path)).line
  | .setEngine database engine => do
    let some declaration := engine.declaration? | throw .engineWords
    setDatabaseEngine site.layout database declaration
    return []
  | .showSettings json =>
    return if json then site.settings.toJson.line else printed site.settings.lines
  | .validateSettings =>
    match site.settings.validate with
    | .ok _ => return []
    | .error fault => throw (.settings fault)
  | .showVersion => return versionLine ++ "\n"

/-- The catalog files that a command looks at without asking the server. -/
def Command.catalogFiles (layout : Layout) : Command → List Path
  | .showTable table => [layout.tableFile table]
  | .showDatabase database => [layout.databaseFile database]
  | .setEngine database _ => [layout.databaseFile database]
  | _ => []

/-- What surrounds the program: its environment, its network, and the programs it can start. -/
structure Surroundings where
  environment : Environment
  network : Network
  host : Host

/-- The site that settings tell of. -/
def Surroundings.site (s : Surroundings) (settings : Settings) : Site where
  settings := settings
  server := settings.server.server s.network
  remover := s.host.remover settings.disks

/-- Loads the settings and runs a command. -/
def Invocation.run (surroundings : Surroundings) (i : Invocation) : Run Text := do
  let settings ← (Session.look fun tree =>
    Settings.load tree surroundings.environment i.settingsFile).adaptExcept Failure.load
  i.command.run (surroundings.site settings)

/-- How the program ends. -/
structure Outcome where
  exitCode : Nat := 0
  stdout : Text := []
  stderr : Text := []
deriving DecidableEq, Repr

/-- The variable that may name the settings file. -/
def settingsFileVariable : Text := "CHADMIN_CONFIG"

/-- How the program is used. -/
def usage : Text :=
  printed ("Usage: chadmin [--config FILE] [--verbose] [--quiet] COMMAND" :: "" :: "Commands:"
    :: CommandLine.entries.map fun e => "  " ++ Text.join " " e.words)

/-- Reads a command line in its surroundings. -/
def Surroundings.invocation (s : Surroundings) (words : List Text) :
    Except CommandLine.Stop Invocation :=
  CommandLine.parse words (s.environment.lookup settingsFileVariable)

/-- The whole program: how it ends, and the world it leaves. -/
def runCommandLine (surroundings : Surroundings) (words : List Text) (w : World) :
    Outcome × World :=
  match surroundings.invocation words with
  | .error .version => ({ stdout := programVersion ++ "\n" }, w)
  | .error .help => ({ stdout := usage }, w)
  | .error .misuse => ({ exitCode := 2, stderr := usage }, w)
  | .ok i =>
    match i.run surroundings w with
    | .ok output w => ({ stdout := output }, w)
    | .error f w => ({ exitCode := f.exitCode, stderr := f.report }, w)

end CatalogAdmin
