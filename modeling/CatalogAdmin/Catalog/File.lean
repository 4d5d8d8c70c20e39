import CatalogAdmin.Catalog.Replacement
import CatalogAdmin.FileTree.Operations

/-!
# Catalog files

Reading and changing catalog files where they stand in a file tree. A failure names the file, and is
either a failure of the operation on files or a fault in the text.
-/

namespace CatalogAdmin.Catalog

/-- Why a catalog file cannot be read or changed. -/
inductive FileError
  | io (path : Path) (cause : IoError)
  | parse (path : Path) (cause : ParseError)
deriving DecidableEq, Repr

namespace FileError

/-- The wording of the cause alone. -/
def causeMessage : FileError → Text
  | .io _ cause => cause.message
  | .parse _ cause => cause.message

/-- The wording of a failure. -/
def message (e : FileError) : Text :=
  match e with
  | .io path _ => "failed to access catalog file " ++ path.text ++ ": " ++ e.causeMessage
  | .parse path _ => "malformed catalog file " ++ path.text ++ ": " ++ e.causeMessage

end FileError

/-- The record in the catalog file at a path. -/
def readRecord (t : FileTree) (p : Path) : Except FileError Record :=
  match t.readText p with
  | .error e => .error (.io p e)
  | .ok text =>
    match Record.parse text with
    | .error e => .error (.parse p e)
    | .ok record => .ok record

/-- Changes the text of the file at a path in some way of writing it. Nothing is written unless `change`
accepts the text. -/
def modifyBy {α : Type} (write : Text → EStateM IoError FileTree Unit) (p : Path)
    (change : Text → Except ParseError (α × Text)) : EStateM FileError FileTree α := do
  match (← get).readText p with
  | .error e => throw (.io p e)
  | .ok text =>
    match change text with
    | .error e => throw (.parse p e)
    | .ok (answer, changed) =>
      (write changed).adaptExcept (.io p)
      return answer

/-- Changes the text of the file at a path. -/
def modify {α : Type} (p : Path) (change : Text → Except ParseError (α × Text)) :
    EStateM FileError FileTree α :=
  modifyBy (FileTree.replaceText p) p change

/-- Gives the object a catalog file describes a new UUID, and answers the previous one. -/
def setUuid (p : Path) (uuid : Uuid) : EStateM FileError FileTree Uuid :=
  modify p fun text => replaceUuid text uuid

/-- Gives the object a catalog file describes a new engine. -/
def setEngine (p : Path) (declaration : Declaration) : EStateM FileError FileTree Unit :=
  modify p fun text => (replaceEngine text declaration.text).map ((), ·)

end CatalogAdmin.Catalog
