import CatalogAdmin.Disk.Removal

/-!
# Running the remover

The remover is a program of the host, found by its path or, if its name has no slash, among the
programs in the directories where the host looks for programs. A run has to end before the time
limit.
-/

namespace CatalogAdmin

/-- A program: how long a run takes and how it ends, by its arguments. -/
abbrev Program := List Text → Duration × RemovalOutcome

/-- The programs of a host: those found by name, and those in files. -/
structure Host where
  named : List (Text × Program)
  inFiles : List (Location × Program)

namespace Host

/-- The execute permissions of a file. -/
def executeBits : Nat := 0o111

/-- The program a name means. A file is a program if it may be executed. The names `.` and `..` are
found wherever the host looks, but as directories. -/
def program? (host : Host) (tree : FileTree) (name : Text) : Except IoError Program :=
  if '/' ∈ name then do
    let l ← tree.locate true ⟨name⟩
    match tree.get? l with
    | some (.file f) =>
      if f.mode &&& executeBits = 0 then throw .permissionDenied
      else match host.inFiles.lookup l with
        | some program => return program
        | none => throw .notExecutable
    | some _ => throw .permissionDenied
    | none => throw .notFound
  else if name = "." || name = ".." then .error .permissionDenied
  else if FileTree.nameLimit < name.byteLength then .error .nameTooLong
  else match host.named.lookup name with
    | some program => .ok program
    | none => .error .notFound

/-- Starts a program. An argument cannot hold the character NUL. -/
def launch (host : Host) (tree : FileTree) (name : Text) (arguments : List Text) :
    Except IoError (Duration × RemovalOutcome) := do
  if (name :: arguments).any ('\x00' ∈ ·) then throw .nulInArgument
  let program ← host.program? tree name
  return program arguments

/-- The remover the settings name, as a program of the host. -/
def remover (host : Host) (disks : DiskSettings) : Remover where
  name := disks.remover
  run _ removal tree :=
    match host.launch tree disks.remover removal.arguments with
    | .error e => (.error (.io .run ⟨disks.remover⟩ e), tree)
    | .ok (took, outcome) =>
      if disks.timeout.nanoseconds ≤ took.nanoseconds then
        (.error (.removerTimeout disks.remover removal.disk disks.timeout), tree)
      else (.ok outcome, tree)

end Host

end CatalogAdmin
