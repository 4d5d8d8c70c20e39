import CatalogAdmin.Catalog.Parser

/-!
# Replacing a part of a catalog file

A text is changed piece by piece, where a piece ends after each line feed. Exactly one piece is
replaced, in its UUID or as a whole, and every other byte stays.

* `replaceUuid` puts a new UUID in the place of the old one, and answers the old one. Here the UUID
  needs its closing quote: an `ATTACH` line without one has no UUID to replace.
* `replaceEngine` puts a declaration in the place of the engine line, which keeps its own ending.
-/

namespace CatalogAdmin.Catalog

/-- A piece with a closed UUID literal: what stands before it, the literal, and the rest from the
closing quote on. -/
structure UuidSite where
  before : Text
  value : Text
  behind : Text
deriving DecidableEq, Repr

/-- Where a piece holds its UUID. -/
def uuidSite? (piece : Text) : Option UuidSite := do
  let (before, rest) ← cutAtUuid piece
  let behind := rest.dropWhile (· ≠ quote)
  if behind.isEmpty then none else some ⟨before, rest.takeWhile (· ≠ quote), behind⟩

/-- A piece with `uuid` in the place of its UUID, if it holds one. -/
def withUuid (uuid : Uuid) (piece : Text) : Text :=
  match uuidSite? piece with
  | none => piece
  | some site => site.before ++ uuid.text ++ site.behind

/-- The text with a new UUID, and the UUID it had. -/
def replaceUuid (text : Text) (uuid : Uuid) : Except ParseError (Uuid × Text) := do
  let pieces := text.pieces
  let site ← theOnly .missingUuid .duplicateUuid (pieces.filterMap uuidSite?)
  match Uuid.parse? site.value with
  | none => throw (.invalidUuid site.value)
  | some previous => return (previous, (pieces.map (withUuid uuid)).flatten)

/-- A piece with `declaration` in the place of its engine line, if it is one. -/
def withEngine (declaration : Text) (piece : Text) : Text :=
  if isEngineLine piece then declaration ++ piece.ending else piece

/-- The text with a new engine declaration. -/
def replaceEngine (text declaration : Text) : Except ParseError Text := do
  let pieces := text.pieces
  let _ ← theOnly .missingEngine .duplicateEngine (pieces.filter isEngineLine)
  return (pieces.map (withEngine declaration)).flatten

end CatalogAdmin.Catalog
