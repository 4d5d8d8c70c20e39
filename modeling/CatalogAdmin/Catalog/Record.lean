import CatalogAdmin.Uuid

/-!
# Catalog records

A catalog file describes one database or one table. What the library needs of it is a `Record`:
the kind of object, its UUID, the engine's name as written, and whether the engine is replicated.
`ParseError` lists what may be wrong with a file's text, and gives each cause its wording.
-/

namespace CatalogAdmin.Catalog

/-- The kind of object a catalog file describes. -/
inductive ObjectKind
  | database
  | table
deriving DecidableEq, Repr

/-- The word for a kind of object. -/
def ObjectKind.text : ObjectKind → Text
  | .database => "database"
  | .table => "table"

/-- Where a replicated engine keeps its state. A database's engine names a shard; a table's engine
names only a path and a replica. -/
structure Replica where
  path : Text
  shard : Option Text
  name : Text
deriving DecidableEq, Repr

/-- Whether the path still holds the placeholder of this name. -/
def Replica.mentions (replica : Replica) (placeholder : Text) : Bool :=
  replica.path.contains ('{' :: placeholder ++ ['}'])

/-- An engine, as far as its coordination goes. -/
inductive Engine
  | plain
  | replicated (replica : Replica)
deriving DecidableEq, Repr

/-- The replica of a replicated engine. -/
def Engine.replica? : Engine → Option Replica
  | .plain => none
  | .replicated replica => some replica

/-- Identity and engine of the object a catalog file describes. -/
structure Record where
  kind : ObjectKind
  uuid : Uuid
  engineName : Text
  engine : Engine
deriving DecidableEq, Repr

/-- How many quoted arguments an engine asks for. -/
inductive Arity
  | exactlyThree
  | atLeastTwo
deriving DecidableEq, Repr

/-- The words for an arity. -/
def Arity.text : Arity → Text
  | .exactlyThree => "exactly 3"
  | .atLeastTwo => "at least 2"

/-- What may be wrong with the text of a catalog file. -/
inductive ParseError
  | missingUuid
  | duplicateUuid (count : Nat)
  | invalidUuid (value : Text)
  | missingEngine
  | duplicateEngine (count : Nat)
  | unsupportedEngine (kind : ObjectKind) (engine : Text)
  | replicatedArity (engine : Text) (expected : Arity) (found : Nat)
  | unterminatedQuote
deriving DecidableEq, Repr

/-- The wording of a parse error. -/
def ParseError.message : ParseError → Text
  | .missingUuid => "no UUID marker on an ATTACH line"
  | .duplicateUuid count => "UUID marker appears " ++ Text.ofNat count ++ " times, expected once"
  | .invalidUuid value => "invalid UUID '" ++ value ++ "'"
  | .missingEngine => "no ENGINE declaration"
  | .duplicateEngine count =>
    "ENGINE declaration appears " ++ Text.ofNat count ++ " times, expected once"
  | .unsupportedEngine kind engine => "unsupported " ++ kind.text ++ " engine '" ++ engine ++ "'"
  | .replicatedArity engine expected found =>
    "engine " ++ engine ++ " takes " ++ expected.text ++ " quoted parameters, found "
      ++ Text.ofNat found
  | .unterminatedQuote => "unterminated quoted parameter in ENGINE declaration"

end CatalogAdmin.Catalog
