import CatalogAdmin.Server.Tables

/-!
# The coordination service

Replicas of a table keep their common state at a path of a coordination service. Paths and names of
replicas are templates: a name in braces is a placeholder, and `expand` puts its value there. The
service is reached through the server, which answers queries for a node and drops a replica on
request.

* `expand` is one pass from left to right; a value put in is not looked at again.
-/

namespace CatalogAdmin

/-! ## Placeholders -/

/-- What is wrong with a template. -/
inductive TemplateError
  | unterminated
  | unknown (name : Text)
deriving DecidableEq, Repr

/-- Expands a template from some place on: outside of braces, or inside with the name read so
far. -/
def expandFrom (lookup : Text → Option Text) :
    Option Text → Text → Except TemplateError Text
  | none, [] => .ok []
  | some _, [] => .error .unterminated
  | none, '{' :: rest => expandFrom lookup (some []) rest
  | none, c :: rest => (expandFrom lookup none rest).map (c :: ·)
  | some name, '}' :: rest =>
    match lookup name with
    | none => .error (.unknown name)
    | some value => (expandFrom lookup none rest).map (value ++ ·)
  | some name, c :: rest => expandFrom lookup (some (name ++ [c])) rest

/-- A coordination error for a fault of a template. -/
def TemplateError.inTemplate (template : Text) : TemplateError → CoordinationError
  | .unterminated => .unterminated template
  | .unknown name => .unknown name template

/-- A template with the value of every placeholder in its place. -/
def expand (lookup : Text → Option Text) (template : Text) : Except CoordinationError Text :=
  match expandFrom lookup none template with
  | .ok expanded => .ok expanded
  | .error e => .error (e.inTemplate template)

/-- The value of a placeholder for a table: its database, its name and its UUID by these names, and
the server's values by any other. Of several values the server gives for a name the last one
counts. -/
def placeholderValue (values : List (Text × Text)) (table : TableName) (uuid : Uuid) (name : Text) :
    Option Text :=
  if name = "database" then some table.database
  else if name = "table" then some table.table
  else if name = "uuid" then some uuid.text
  else values.reverse.lookup name

/-! ## Nodes -/

/-- The path of a node without the slashes at its end. -/
def nodePath (path : Text) : Text := path.dropEnd (· = '/')

/-- Which replica to drop, and what else to clean up with it. -/
structure ReplicaCleanup where
  root : Text
  name : Text
  database : Bool := false
  ddlQueue : Bool := false
deriving DecidableEq, Repr

/-- The statement that drops a replica. -/
def dropReplicaStatement (name path : Text) : Text :=
  "SYSTEM DROP REPLICA " ++ quoteLiteral name ++ " FROM ZKPATH " ++ quoteLiteral path

namespace Session

/-- The server's values for placeholders, in the server's order. -/
def placeholderValues (site : Site) : Session (List (Text × Text)) :=
  asTask .readingPlaceholders (fetchAs site.server
    (fun row => do return (← row.text? "macro", ← row.text? "substitution"))
    { sql := "SELECT macro, substitution FROM system.macros",
      timeout := some site.settings.server.timeouts.query })

/-- Expands a template for a table. A template without braces needs no answer of the server. -/
def expandFor (site : Site) (template : Text) (table : TableName) (uuid : Uuid) :
    Session Text := do
  if '{' ∈ template then
    let values ← placeholderValues site
    match expand (placeholderValue values table uuid) template with
    | .ok expanded => return expanded
    | .error e => throw (.coordination e)
  else return template

/-- The UUID that the replicas at a path share. -/
def sharedId (site : Site) (replicaPath : Text) : Session Uuid := do
  let path := nodePath replicaPath
  let values ← asTask (.readingSharedId path) (fetchAs site.server (Row.text? · "value")
    { sql := "SELECT value FROM system.zookeeper WHERE path = \x7bpath:String\x7d AND name = "
        ++ "\x7bname:String\x7d",
      parameters := [("path", path), ("name", sharedIdNode)],
      timeout := some site.settings.server.timeouts.query })
  match values with
  | [] => throw (.coordination (.noSharedId path))
  | value :: _ =>
    match Uuid.parse? value.trim with
    | some uuid => return uuid
    | none => throw (.coordination (.notAUuid path value))

/-- Drops a replica. Nothing but the replica's own node can be cleaned up through the server. -/
def dropReplica (site : Site) (cleanup : ReplicaCleanup) : Session Unit := do
  if cleanup.database || cleanup.ddlQueue then throw (.coordination .unsupportedCleanup)
  else
    let path := nodePath cleanup.root
    asTask (.removingReplica cleanup.name path) (execute site.server
      { sql := dropReplicaStatement cleanup.name path,
        timeout := some site.settings.server.timeouts.system })

end Session

end CatalogAdmin
