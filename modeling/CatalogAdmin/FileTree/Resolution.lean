import CatalogAdmin.FileTree.Basic

/-!
# From paths to locations

A path is walked from the root, or from the tree's own directory, one part at a time. A link on the
way is replaced by its target; a link at the end is replaced only if the caller asks for it, or if
the path ends in a slash. At most `linkLimit` links are replaced.

Where the walk cannot go on, an `IoError` says why. These are the causes an operating system
distinguishes, and every failure of an operation on files is one of them.
-/

namespace CatalogAdmin

/-- Why an operation on files fails. -/
inductive IoError
  | notFound
  | notExecutable
  | permissionDenied
  | alreadyExists
  | notADirectory
  | isADirectory
  | invalidArgument
  | nameTooLong
  | directoryNotEmpty
  | tooManyLinks
  | notText
  | nulInPath
  | nulInArgument
  | occupied (path : Path)
deriving DecidableEq, Repr

/-- The wording of a cause. -/
def IoError.message : IoError → Text
  | .notFound => "No such file or directory (os error 2)"
  | .notExecutable => "Exec format error (os error 8)"
  | .permissionDenied => "Permission denied (os error 13)"
  | .alreadyExists => "File exists (os error 17)"
  | .notADirectory => "Not a directory (os error 20)"
  | .isADirectory => "Is a directory (os error 21)"
  | .invalidArgument => "Invalid argument (os error 22)"
  | .nameTooLong => "File name too long (os error 36)"
  | .directoryNotEmpty => "Directory not empty (os error 39)"
  | .tooManyLinks => "Too many levels of symbolic links (os error 40)"
  | .notText => "stream did not contain valid UTF-8"
  | .nulInPath => "file name contained an unexpected NUL byte"
  | .nulInArgument => "nul byte found in provided data"
  | .occupied path => path.text ++ " already exists"

namespace FileTree

/-- How many bytes a single name may have. -/
def nameLimit : Nat := 255

/-- How many bytes a path may have. -/
def pathLimit : Nat := 4095

/-- How many links one walk replaces by their targets. -/
def linkLimit : Nat := 40

/-- What a walk goes through: the parts of the path, and a `.` behind a slash at its end, which
asks for a directory there. -/
def steps (p : Path) : List Text := if p.endsInSlash then p.parts ++ [("." : Text)] else p.parts

/-- Walks from a directory through some parts. The last part may be missing from the tree; what
leads to it may not. `expand` goes on with a link's target. -/
def walkWith (t : FileTree) (follow : Bool)
    (expand : Location → List Text → Except IoError Location) :
    Location → List Text → Except IoError Location
  | dir, [] => .ok dir
  | dir, part :: rest =>
    if part = "." then walkWith t follow expand dir rest
    else if part = ".." then walkWith t follow expand dir.dropLast rest
    else if nameLimit < part.byteLength then .error .nameTooLong
    else match t.get? (dir ++ [part]) with
      | some .directory => walkWith t follow expand (dir ++ [part]) rest
      | some (.link target) =>
        if rest.isEmpty && !follow then .ok (dir ++ [part])
        else expand (if target.isAbsolute then [] else dir) (steps target ++ rest)
      | some (.file _) => if rest.isEmpty then .ok (dir ++ [part]) else .error .notADirectory
      | none => if rest.isEmpty then .ok (dir ++ [part]) else .error .notFound

/-- Walks with at most so many links replaced. -/
def walk (t : FileTree) (follow : Bool) : Nat → Location → List Text → Except IoError Location
  | 0 => walkWith t follow fun _ _ => .error .tooManyLinks
  | links + 1 => walkWith t follow (walk t follow links)

/-- The location a path names. Nothing need be there, but the directory it would be in is. -/
def locate (t : FileTree) (follow : Bool) (p : Path) : Except IoError Location :=
  if '\x00' ∈ p.text then .error .nulInPath
  else if p.text = [] then .error .notFound
  else if pathLimit < p.text.byteLength then .error .nameTooLong
  else t.walk follow linkLimit (if p.isAbsolute then [] else t.here) (steps p)

end FileTree

end CatalogAdmin
