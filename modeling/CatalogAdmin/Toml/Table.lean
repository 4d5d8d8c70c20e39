import CatalogAdmin.Settings.Value

/-!
# Tables of TOML

A document builds its tables bit by bit, and how a table came about decides who may add to it. A
table that only lies on the way to another one may get a header of its own once; a table that dotted
keys made is open to dotted keys alone; a table with a header, and anything that is a value, is
closed to both. Headers may lead through any table.
-/

namespace CatalogAdmin.Toml

/-- How a table came about. -/
inductive Origin
  | header
  | onTheWay
  | dotted
deriving DecidableEq, Repr

/-- What stands under a key of a document: a value, a table, or a list of tables, last one first. -/
inductive Node
  | value (v : Value)
  | table (origin : Origin) (members : List (Text × Node))
  | tables (elements : List (List (Text × Node)))
deriving Inhabited

/-- The members of a table. -/
abbrev Members := List (Text × Node)

/-- Changes the table that a key leads to, or fails. Tables missing on the way are made. `dotted`
tells a dotted key from a header. -/
def descend (dotted : Bool) (change : Origin → Members → Option Members) :
    List Text → Origin → Members → Option Members
  | [], origin, members => change origin members
  | name :: rest, _, members => do
    let node ←
      match members.lookup name with
      | none =>
        let origin := if dotted then .dotted else .onTheWay
        pure (.table origin (← descend dotted change rest origin []))
      | some (.value _) => none
      | some (.table origin inner) =>
        guard (!dotted || origin ≠ .header)
        pure (.table origin (← descend dotted change rest origin inner))
      | some (.tables []) => none
      | some (.tables (last :: before)) =>
        pure (.tables ((← descend dotted change rest .header last) :: before))
    return Value.put name node members

/-- Adds a value under a dotted key. The key's last name must be new, and what its other names lead
to must be a table of dotted keys. -/
def addPair (key : List Text) (v : Value) (members : Members) : Option Members := do
  let name ← key.getLast?
  let add (origin : Origin) (members : Members) : Option Members := do
    guard (key.length = 1 || origin = .dotted)
    guard (members.lookup name).isNone
    return members ++ [(name, .value v)]
  descend true add key.dropLast .header members

/-- The table with these pairs, if they are compatible. -/
def Members.ofPairs? (pairs : List (List Text × Value)) : Option Members :=
  pairs.foldlM (fun members (key, v) => addPair key v members) []

/-- What a header does to the table its key is in. -/
def openTable (name : Text) (_ : Origin) (members : Members) : Option Members :=
  match members.lookup name with
  | none => some (members ++ [(name, .table .header [])])
  | some (.table .onTheWay inner) => some (Value.put name (.table .header inner) members)
  | some _ => none

/-- What a header of a list of tables does to the table its key is in. -/
def openElement (name : Text) (_ : Origin) (members : Members) : Option Members :=
  match members.lookup name with
  | none => some (members ++ [(name, .tables [[]])])
  | some (.tables elements) => some (Value.put name (.tables ([] :: elements)) members)
  | some _ => none

mutual

/-- What a node stands for. -/
def Node.toValue : Node → Value
  | .value v => v
  | .table _ members => .table (membersValue members)
  | .tables elements => .list (elementValues elements).reverse

/-- The members of a table as values. -/
def membersValue : List (Text × Node) → List (Text × Value)
  | [] => []
  | (name, node) :: more => (name, node.toValue) :: membersValue more

/-- The tables of a list as values. -/
def elementValues : List (List (Text × Node)) → List Value
  | [] => []
  | members :: more => .table (membersValue members) :: elementValues more

end

end CatalogAdmin.Toml
