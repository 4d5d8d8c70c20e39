import CatalogAdmin.Catalog.Record
import CatalogAdmin.Text.Blank
import CatalogAdmin.Text.Quoted

/-!
# Engine declarations

The part of a catalog file behind `ENGINE =`: an engine name and, in parentheses, its arguments.
Only quoted arguments count. `quotedArguments` reads them, `Engine.read` decides what they mean for
an object of a given kind, and `Declaration.text` writes the two declarations a database may be
given.
-/

namespace CatalogAdmin.Catalog

/-- What an engine declaration begins with. -/
def engineMark : Text := "ENGINE ="

/-- The single quote, which delimits arguments and UUID literals. -/
def quote : Char := '\''

/-! ## Arguments -/

/-- The quoted arguments from inside an argument list on, at a depth of nested parentheses. The list
ends at the parenthesis that closes it, or with the text. Parentheses inside quotes do not count,
and whatever else stands outside quotes is passed over. -/
def argumentsFrom (depth : Nat) (t : Text) : Except ParseError (List Text) :=
  match t with
  | [] => .ok []
  | '(' :: rest => argumentsFrom (depth + 1) rest
  | ')' :: rest => if depth = 0 then .ok [] else argumentsFrom (depth - 1) rest
  | '\'' :: rest =>
    match h : Text.Quoted.read quote rest with
    | none => .error .unterminatedQuote
    | some (value, left) =>
      have := Text.Quoted.length_of_read h
      (argumentsFrom depth left).map (value :: ·)
  | _ :: rest => argumentsFrom depth rest
termination_by t.length

/-- The quoted arguments of the first argument list in a text, none if it has no such list. -/
def quotedArguments (t : Text) : Except ParseError (List Text) :=
  match t.cut "(" with
  | none => .ok []
  | some (_, inside) => argumentsFrom 0 inside

/-! ## Reading a declaration -/

/-- The characters an engine name is made of. -/
def isNameChar (c : Char) : Bool := c.isAlphanum || c = '_'

/-- Whether an engine name is that of a table engine which keeps replicas. -/
def isReplicatedTableEngine (name : Text) : Bool :=
  name.startsWith "Replicated" && name.endsWith "MergeTree"

/-- The engine an object of this kind has by this name and these arguments. A database is either
plain or replicated; a table may have any named engine, and those that keep replicas give the path
and the replica first. -/
def Engine.of (kind : ObjectKind) (name arguments : Text) : Except ParseError Engine :=
  if name = "Atomic" then .ok .plain
  else if name = "Replicated" then do
    match ← quotedArguments arguments with
    | [path, shard, replica] => return .replicated ⟨path, some shard, replica⟩
    | found => throw (.replicatedArity name .exactlyThree found.length)
  else if kind = .table ∧ isReplicatedTableEngine name then do
    match ← quotedArguments arguments with
    | path :: replica :: _ => return .replicated ⟨path, none, replica⟩
    | found => throw (.replicatedArity name .atLeastTwo found.length)
  else if kind = .table ∧ name ≠ [] then .ok .plain
  else .error (.unsupportedEngine kind name)

/-- The engine's name and the engine, from the text behind the engine mark. -/
def Engine.read (kind : ObjectKind) (declaration : Text) : Except ParseError (Text × Engine) := do
  let declared := declaration.trimStart
  let name := declared.takeWhile isNameChar
  let engine ← Engine.of kind name (declared.dropWhile isNameChar)
  return (name, engine)

/-! ## Writing a declaration -/

/-- An engine declaration a database may be given. -/
inductive Declaration
  | atomic
  | replicated (path shard name : Text)
deriving DecidableEq, Repr

/-- The line of a declaration, without a line ending. -/
def Declaration.text : Declaration → Text
  | .atomic => engineMark ++ " Atomic"
  | .replicated path shard name =>
    engineMark ++ " Replicated(" ++ Text.Quoted.write quote path ++ ", "
      ++ Text.Quoted.write quote shard ++ ", " ++ Text.Quoted.write quote name ++ ")"

end CatalogAdmin.Catalog
