import CatalogAdmin.Settings.Basic
import CatalogAdmin.TableError

/-!
# Sessions

An operation on a table asks a server, changes files and runs the remover. A `Session` does so on a
`World`: the file tree, and a record of every query sent, every removal asked for and every event
worth telling. The record survives failure, so what was done before an operation failed can be read
off the world it leaves.
-/

namespace CatalogAdmin

/-- The phases of a change of UUID. -/
inductive Phase
  | validating
  | detaching
  | changingCatalog
  | relocatingStore
  | done
  | failed
deriving DecidableEq, Repr

/-- The words for a phase. -/
def Phase.text : Phase → Text
  | .validating => "validating"
  | .detaching => "detaching"
  | .changingCatalog => "rewriting catalog"
  | .relocatingStore => "relocating store"
  | .done => "done"
  | .failed => "failed"

/-- What a session tells of itself while it runs. -/
inductive Event
  | transition (before after : Phase)
  | pathNotVisible (disk : Text) (path : Path)
  | catalogFileChanged (validated found : Uuid)
deriving DecidableEq, Repr

/-- The files as they are, and what was done so far. -/
structure World where
  tree : FileTree
  sent : List Sent := []
  removals : List Removal := []
  events : List Event := []
deriving DecidableEq, Repr

/-- The program that removes data: its name, and how a run ends and leaves the tree, given the
removals asked for before. -/
structure Remover where
  name : Text
  run : List Removal → Removal → FileTree → Except TableError RemovalOutcome × FileTree

/-- What a session works with. -/
structure Site where
  settings : Settings
  server : Server
  remover : Remover

/-- The layout of the site's files. -/
def Site.layout (site : Site) : Layout := ⟨site.settings.paths.root⟩

/-- An operation that may fail. -/
abbrev Session := EStateM TableError World

namespace Session

/-- Tells an event. -/
def tell {ε : Type} (e : Event) : EStateM ε World Unit :=
  modify fun w => { w with events := w.events ++ [e] }

/-- An operation on the file tree alone. -/
def onTree {ε α : Type} (x : EStateM ε FileTree α) : EStateM ε World α := fun w =>
  match x w.tree with
  | .ok a tree => .ok a { w with tree }
  | .error e tree => .error e { w with tree }

/-- A look at the file tree. -/
def look {ε α : Type} (f : FileTree → Except ε α) : EStateM ε World α := fun w =>
  match f w.tree with
  | .ok a => .ok a w
  | .error e => .error e w

/-- Sends a query and takes down that it was sent. -/
def send (server : Server) (sent : Sent) : EStateM ClientError World (List Row) := fun w =>
  let (answer, tree) := server.answer w.sent sent w.tree
  let w := { w with tree, sent := w.sent ++ [sent] }
  match answer with
  | .ok rows => .ok rows w
  | .error e => .error e w

/-- Sends a statement whose rows are not wanted. -/
def execute (server : Server) (q : Query) : EStateM ClientError World Unit := do
  let _ ← send server ⟨.execute, q⟩

/-- Sends a query and gives its rows as they are. -/
def fetch (server : Server) (q : Query) : EStateM ClientError World (List Row) :=
  send server ⟨.fetch, q⟩

/-- Sends a query and reads its rows, all of them before any is used. -/
def fetchAs {α : Type} (server : Server) (read : Row → Option α) (q : Query) :
    EStateM ClientError World (List α) := do
  match readRows read (← fetch server q) with
  | .ok values => return values
  | .error e => throw e

/-- An operation on the server as part of a task. -/
def asTask {α : Type} (task : Task) (x : EStateM ClientError World α) : Session α :=
  x.adaptExcept (TableError.ofClient task)

/-- Runs the remover and takes down what it was asked to remove. -/
def remove (remover : Remover) (removal : Removal) : Session RemovalOutcome := fun w =>
  let (outcome, tree) := remover.run w.removals removal w.tree
  let w := { w with tree, removals := w.removals ++ [removal] }
  match outcome with
  | .ok o => .ok o w
  | .error e => .error e w

end Session

end CatalogAdmin
