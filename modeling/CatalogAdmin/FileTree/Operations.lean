import CatalogAdmin.FileTree.Resolution

/-!
# Operations on file trees

What a program may do to the files at a path. Operations that only look answer with `Except`; the
others run in `EStateM IoError FileTree`, so that the tree an operation leaves behind is known also
where it fails half-way.
-/

namespace CatalogAdmin.FileTree

/-! ## Looking -/

/-- What a path names, links followed to the end if `follow` is set. -/
def stat (t : FileTree) (follow : Bool) (p : Path) : Except IoError Node := do
  let l ← t.locate follow p
  match t.get? l with
  | none => throw .notFound
  | some node => return node

/-- Whether a path names anything. That nothing is there is an answer; that this cannot be found
out is a failure. -/
def isPresent (t : FileTree) (p : Path) : Except IoError Bool :=
  match t.stat true p with
  | .ok _ => .ok true
  | .error .notFound => .ok false
  | .error e => .error e

/-- Whether a path names a directory. -/
def isDirectory (t : FileTree) (p : Path) : Bool :=
  match t.stat true p with
  | .ok .directory => true
  | _ => false

/-- The text of the file at a path. -/
def readText (t : FileTree) (p : Path) : Except IoError Text := do
  match ← t.stat true p with
  | .file { content := .text text, .. } => return text
  | .file { content := .bytes _, .. } => throw .notText
  | _ => throw .isADirectory

/-- The target of the link at a path, as the link stores it. -/
def readLink (t : FileTree) (p : Path) : Except IoError Path := do
  match ← t.stat false p with
  | .link target => return target
  | _ => throw .invalidArgument

/-! ## Changing -/

/-- The directory a file at this path is in. -/
def directoryOf (p : Path) : Path :=
  match p.parent? with
  | none => "."
  | some parent => if parent.text = [] then "." else parent

/-- A file's permission bits after a change of its owner: the bits that would lend the owner's
rights to whoever runs the file are lost. -/
def modeForNewOwner (mode : Nat) : Nat :=
  let mode := mode - (mode &&& 0o4000)
  if mode &&& 0o010 = 0 then mode else mode - (mode &&& 0o2000)

/-- A file as it is made. -/
def freshFile : File := { content := .text [], mode := 0o600 }

/-- Fills a new file with a text and gives it the permission bits of an old one, then its owner and
group. -/
def takeOver (text : Text) (old : File) : EStateM IoError File Unit := do
  modify fun f => { f with content := .text text }
  modify fun f => { f with mode := old.mode }
  modify fun f =>
    if (f.owner, f.group) = (old.owner, old.group) then f
    else { f with mode := modeForNewOwner f.mode, owner := old.owner, group := old.group }

/-- The tree without the node at a location. -/
def unlink (t : FileTree) (l : Location) : FileTree :=
  { t with entries := t.entries.filter fun e => e.1 ≠ l }

/-- Takes a new file away again that could not be put in the place of another. -/
def giveUp (l : Location) (e : IoError) : EStateM IoError FileTree Unit := do
  modify (·.unlink l)
  throw e

/-- Replaces the file at a path through a new one, which is made at `temp`, worked on, and put in the
place of the old one. What the path names without its last link followed is replaced: where that is a
link, the link gives way to the file. -/
def replaceThrough (temp p : Path) (work : File → EStateM IoError File Unit) :
    EStateM IoError FileTree Unit := do
  let t ← get
  match t.stat true p, t.locate false temp with
  | .error e, _ => throw e
  | .ok (.file old), .ok l =>
    if (t.get? l).isSome then throw .alreadyExists
    else match work old freshFile with
      | .error e made =>
        set (t.put l (.file made))
        giveUp l e
      | .ok _ made =>
        let t := t.put l (.file made)
        set t
        match t.locate false p with
        | .error e => giveUp l e
        | .ok place => set ((t.unlink l).put place (.file made))
  | .ok (.file _), .error e => throw e
  | .ok _, _ => throw .isADirectory

/-- The name of a new file that is made to take the place of another. -/
def spareName (t : FileTree) : Text := ".tmp" ++ t.spare.val

/-- The path of a new file beside the one at a path. -/
def beside (t : FileTree) (p : Path) : Path := (directoryOf p).join ⟨t.spareName⟩

/-- Replaces the file at a path by one with this text, made beside it. -/
def replaceText (p : Path) (text : Text) : EStateM IoError FileTree Unit := do
  replaceThrough ((← get).beside p) p (takeOver text)

/-- Makes one directory. -/
def makeDirectory (p : Path) : EStateM IoError FileTree Unit := do
  let t ← get
  match t.locate false p with
  | .error e => throw e
  | .ok l => if (t.get? l).isSome then throw .alreadyExists else set (t.put l .directory)

/-- Makes the directory whose components these are, last first, and those that lead to it. A
directory that is there already is no failure. -/
def makeDirectoriesFrom : List Path.Component → EStateM IoError FileTree Unit
  | [] => pure ()
  | last :: above => do
    let p := Path.ofComponents (last :: above).reverse
    try makeDirectory p
    catch
      | .notFound =>
        makeDirectoriesFrom above
        try makeDirectory p
        catch e => if (← get).isDirectory p then pure () else throw e
      | e => if (← get).isDirectory p then pure () else throw e

/-- Makes a directory and those that lead to it. -/
def makeDirectories (p : Path) : EStateM IoError FileTree Unit :=
  makeDirectoriesFrom p.components.reverse

/-- Moves what stands at one path to another. A link is moved as such. What stands at the target
gives way if it is of the same kind, directories only when empty. -/
def rename (source target : Path) : EStateM IoError FileTree Unit := do
  let t ← get
  match t.locate false source, t.locate false target with
  | .error e, _ => throw e
  | _, .error e => throw e
  | .ok from', .ok to' =>
    match t.get? from', t.get? to' with
    | none, _ => throw .notFound
    | some _, none =>
      if from'.isPrefixOf to' then throw .invalidArgument else set (t.move from' to')
    | some node, some occupant =>
      if from' = to' then pure ()
      else if from'.isPrefixOf to' then throw .invalidArgument
      else if to'.isPrefixOf from' then throw .directoryNotEmpty
      else if node = .directory then
        if occupant ≠ .directory then throw .notADirectory
        else if t.entries.any fun e => to'.isPrefixOf e.1 && e.1 ≠ to' then throw .directoryNotEmpty
        else set ((t.erase to').move from' to')
      else if occupant = .directory then throw .isADirectory
      else set ((t.erase to').move from' to')

/-- Removes a file or a link. -/
def removeFile (p : Path) : EStateM IoError FileTree Unit := do
  let t ← get
  match t.locate false p with
  | .error e => throw e
  | .ok l =>
    match t.get? l with
    | none => throw .notFound
    | some .directory => throw .isADirectory
    | some _ => set (t.erase l)

/-- A path without the slashes at its end. -/
def withoutSlashes (p : Path) : Path := ⟨p.text.dropEnd (· = '/')⟩

/-- Removes a directory with all it holds. Where a slash at the end leads the path through a link,
the directory is emptied, but the link cannot be removed as a directory. -/
def removeDirectory (p : Path) : EStateM IoError FileTree Unit := do
  let t ← get
  match t.locate true p, t.locate false (withoutSlashes p) with
  | .error e, _ => throw e
  | _, .error e => throw e
  | .ok dir, .ok entry =>
    if dir = entry then set (t.erase dir)
    else
      set (t.clear dir)
      throw .notADirectory

/-- Makes a link with this target. -/
def makeLink (target p : Path) : EStateM IoError FileTree Unit := do
  let t ← get
  match t.locate false p with
  | .error e => throw e
  | .ok l => if (t.get? l).isSome then throw .alreadyExists else set (t.put l (.link target))

end CatalogAdmin.FileTree
