import CatalogAdmin.Disk.Removal
import CatalogAdmin.FileTree.Edit

/-!
# Rehearsals

An operation can be rehearsed without a server and without touching data: a script says how the
server answers which queries and how the remover fares on which disk, and what happens to the files
meanwhile.
-/

namespace CatalogAdmin.Rehearsal

/-- How a server answers the queries that contain a mark. -/
structure Rule where
  mark : Text
  edits : List Edit := []
  answer : Except ClientError (List Row) := .ok []

/-- A server that answers by the first rule whose mark a query contains, and with no rows where no
rule applies. -/
def server (rules : List Rule) : Server where
  answer _ sent tree :=
    match rules.find? fun rule => sent.query.sql.contains rule.mark with
    | some rule => (rule.answer, tree.edit rule.edits)
    | none => (.ok [], tree)

/-- How the remover fares on a disk. -/
structure Fate where
  outcome : RemovalOutcome
  edits : List Edit := []

/-- A remover that fares on each disk as told, and succeeds on every other. -/
def remover (name : Text) (fates : List (Text × Fate)) : Remover where
  name
  run _ removal tree :=
    match fates.lookup removal.disk with
    | some fate => (.ok fate.outcome, tree.edit fate.edits)
    | none => (.ok ⟨some 0, []⟩, tree)

end CatalogAdmin.Rehearsal
