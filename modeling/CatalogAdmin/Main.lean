import CatalogAdmin.Command.Run

/-!
# The program

The program runs on a picture of the files it needs: the settings files that may apply and the
catalog file of the command. What the command changes in the picture is then written to the files
themselves. It has no network and starts no programs, so commands that ask a server fail. What the
command tells of itself goes to the standard error stream, as far as the command line asks for it.
-/

namespace CatalogAdmin

/-- The variables the program was started with. -/
def readEnvironment : IO Environment := do
  let bytes ← IO.FS.readBinFile "/proc/self/environ"
  return .ofText (Text.decodeLossy bytes.toList)

/-- Adds what is at a location to a picture of the files, if anything is there. -/
def addLocation (t : FileTree) (l : Location) : IO FileTree := do
  let path := (← IO.currentDir) / String.ofList ('/' :: Text.join "/" l)
  if ← path.isDir then return t.put l .directory
  else if ← path.pathExists then
    let bytes := (← IO.FS.readBinFile path).toList
    let content := match Text.decode? bytes with
      | some text => Content.text text
      | none => Content.bytes bytes
    return t.put l (.file { content })
  else return t

/-- Adds what a path leads through, part by part. -/
def addParts (t : FileTree) : Location → List Text → IO FileTree
  | _, [] => return t
  | l, part :: rest => do
    if part = "." then addParts t l rest
    else if part = ".." then addParts t l.dropLast rest
    else addParts (← addLocation t (l ++ [part])) (l ++ [part]) rest

/-- Adds what a path leads to. -/
def addPath (t : FileTree) (p : Path) : IO FileTree :=
  addParts t (if p.isAbsolute then [] else t.here) p.parts

/-- The picture of the files that a command line is about. -/
def picture (surroundings : Surroundings) (words : List Text) : IO FileTree := do
  let here := Path.parts ⟨(← IO.currentDir).toString.toList⟩
  let t : FileTree := { entries := [], here }
  let .ok i := surroundings.invocation words | return t
  let file := i.settingsFile.getD settingsFileName
  let t ← (candidates t file).foldlM addPath t
  let .ok settings := Settings.load t surroundings.environment i.settingsFile | return t
  (i.command.catalogFiles (surroundings.site settings).layout).foldlM addPath t

/-- Writes the files whose text is another one now. -/
def writeChanges (before after : FileTree) : IO Unit := do
  for (l, node) in after.entries do
    if before.get? l ≠ some node then
      if let .file { content := .text text, .. } := node then
        IO.FS.writeFile (String.ofList ('/' :: Text.join "/" l)) (String.ofList text)

/-- The levels of messages, those first that are told when little is. -/
def logLevels : List Text := ["warn", "info", "debug"]

/-- The level of the message about an event. -/
def Event.level : Event → Text
  | .transition .. => "info"
  | .pathNotVisible .. | .catalogFileChanged .. => "warn"

/-- The message about an event, with what it is about by name. -/
def Event.message : Event → Text
  | .transition before after =>
    "UUID change state transition from=" ++ before.text ++ " to=" ++ after.text
  | .pathNotVisible disk path =>
    "Path is not visible locally, running the remover anyway disk=" ++ disk ++ " path=" ++ path.text
  | .catalogFileChanged validated found =>
    "Catalog file changed between validation and rewrite validated=" ++ validated.text ++ " found="
      ++ found.text

/-- The messages that are told at a level, in the order of the events. -/
def messages (level : Text) (events : List Event) : List Text :=
  (events.filter fun e => logLevels.idxOf e.level ≤ logLevels.idxOf level).map (·.message)

end CatalogAdmin

open CatalogAdmin in
/-- Runs the program. -/
def main (arguments : List String) : IO UInt32 := do
  let surroundings : Surroundings := ⟨← readEnvironment, Network.none, ⟨[], []⟩⟩
  let words := arguments.map String.toList
  let before ← picture surroundings words
  let (outcome, after) := runCommandLine surroundings words { tree := before }
  writeChanges before after.tree
  if let .ok i := surroundings.invocation words then
    for message in messages (logLevel i.verbose i.quiet) after.events do
      IO.eprintln (String.ofList message)
  IO.print (String.ofList outcome.stdout)
  IO.eprint (String.ofList outcome.stderr)
  return outcome.exitCode.toUInt32
