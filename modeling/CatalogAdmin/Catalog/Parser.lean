import CatalogAdmin.Catalog.Engine

/-!
# Reading catalog files

A catalog file is read by its lines. One of them begins with `ATTACH ` and names the UUID; one
begins with `ENGINE =`. No other line matters. `Record.parse` finds the two, and of several faults
reports the first in this order: the number of UUID lines, the number of engine lines, the UUID, the
engine.
-/

namespace CatalogAdmin.Catalog

/-- What the line that names the UUID begins with. -/
def attachMark : Text := "ATTACH "

/-- What that line begins with when the file describes a database. -/
def databaseMark : Text := "ATTACH DATABASE"

/-- What stands before the UUID. -/
def uuidMark : Text := "UUID '"

/-- A line with a UUID, cut behind the mark that stands before the UUID. -/
def cutAtUuid (line : Text) : Option (Text × Text) :=
  if line.startsWith attachMark then
    (line.cut uuidMark).map fun (before, behind) => (before ++ uuidMark, behind)
  else none

/-- The kind of object an `ATTACH` line is about. -/
def kindOf (line : Text) : ObjectKind :=
  if line.startsWith databaseMark then .database else .table

/-- The kind of object and the UUID as written, of a line that names a UUID. The UUID runs to the
next quote, or to the end of the line where no quote follows. -/
def header? (line : Text) : Option (ObjectKind × Text) :=
  (cutAtUuid line).map fun (_, behind) => (kindOf line, behind.takeWhile (· ≠ quote))

/-- Whether a line declares the engine. -/
def isEngineLine (line : Text) : Bool := line.startsWith engineMark

/-- The one element of a list, or the error for none or for many. -/
def theOnly {α : Type} (missing : ParseError) (duplicate : Nat → ParseError) :
    List α → Except ParseError α
  | [] => .error missing
  | [x] => .ok x
  | found => .error (duplicate found.length)

/-- Reads the text of a catalog file. -/
def Record.parse (text : Text) : Except ParseError Record := do
  let lines := text.lines
  let (kind, value) ← theOnly .missingUuid .duplicateUuid (lines.filterMap header?)
  let engineLine ← theOnly .missingEngine .duplicateEngine (lines.filter isEngineLine)
  match Uuid.parse? value with
  | none => throw (.invalidUuid value)
  | some uuid =>
    let (engineName, engine) ← Engine.read kind (engineLine.drop engineMark.length)
    return { kind, uuid, engineName, engine }

end CatalogAdmin.Catalog
