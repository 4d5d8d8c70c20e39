import CatalogAdmin.FileTree.Operations

/-!
# Edits

An edit is what someone else does to a file tree: put a file or a link somewhere, with the
directories that lead to it, or remove what is there. An edit that cannot be carried out leaves the
tree as far as it got.
-/

namespace CatalogAdmin

/-- A change of a file tree from outside. -/
inductive Edit
  | directory (p : Path)
  | file (p : Path) (content : Content) (mode : Nat) (owner : Option Nat)
  | link (p target : Path)
  | remove (p : Path)
deriving DecidableEq, Repr

namespace Edit

/-- Makes the directories that lead to a path. -/
def makeParents (p : Path) : EStateM IoError FileTree Unit :=
  FileTree.makeDirectories (FileTree.directoryOf p)

/-- Writes a file, through a link if one stands at the path. A new file belongs to user 0; a file
that is there keeps its owner unless the edit names another. -/
def writeFile (p : Path) (content : Content) (mode : Nat) (owner : Option Nat) :
    EStateM IoError FileTree Unit := do
  makeParents p
  let t ← get
  match t.locate true p with
  | .error e => throw e
  | .ok l =>
    match t.get? l with
    | some .directory => throw .isADirectory
    | some (.file old) =>
      set (t.put l (.file (owned { content, mode, owner := old.owner, group := old.group })))
    | _ => set (t.put l (.file (owned { content, mode })))
where
  /-- The file given to the owner that the edit names, and to the group of that number. -/
  owned (f : File) : File :=
    match owner with
    | none => f
    | some owner => { f with owner, group := owner, mode := FileTree.modeForNewOwner f.mode }

/-- An edit as an operation. -/
def perform : Edit → EStateM IoError FileTree Unit
  | .directory p => FileTree.makeDirectories p
  | .file p content mode owner => writeFile p content mode owner
  | .link p target => do
    makeParents p
    FileTree.makeLink target p
  | .remove p => do
    match (← get).stat false p with
    | .ok .directory => FileTree.removeDirectory p
    | _ => FileTree.removeFile p

/-- The tree after an edit. -/
def apply (t : FileTree) (e : Edit) : FileTree :=
  match e.perform t with
  | .ok _ t => t
  | .error _ t => t

end Edit

/-- The tree after some edits, in order. -/
def FileTree.edit (t : FileTree) (edits : List Edit) : FileTree := edits.foldl Edit.apply t

end CatalogAdmin
