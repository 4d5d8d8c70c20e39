import CatalogAdmin.Toml.Scalar
import CatalogAdmin.Toml.Table

/-!
# Documents of TOML

A document is a list of statements: headers, which open a table, and pairs of a key and a value,
which belong to the table opened last. Statements are read first; then they are carried out in
order, and `Toml.Table` says which of them are compatible.
-/

namespace CatalogAdmin.Toml

open Reader

/-! ## Keys and blanks -/

/-- White space within a line. -/
def spaces : Reader Unit := do
  let _ ← takeWhile isSpace

/-- A comment, if one comes next, up to the end of its line. -/
def comment : Reader Unit := do
  if (← next?) = some '#' then
    let _ ← takeWhile (· ≠ '\n')

/-- White space, line ends and comments. -/
def blanks : Reader Unit := do
  let _ ← collect do
    let _ ← takeWhile isSpaceOrFeed
    if (← next?) = some '#' then
      comment
      return some ()
    else return none

/-- The end of a statement's line. -/
def endOfLine : Reader Unit := do
  spaces
  comment
  if (← next?).isSome then expect "\n"

/-- Whether a character may stand in a key without quotes. -/
def isBare (c : Char) : Bool := c.isAlphanum || c = '-' || c = '_'

/-- One name of a key. -/
def name : Reader Text := do
  match ← next? with
  | some '"' => lineString '"' true
  | some '\'' => lineString '\'' false
  | _ => takeSome isBare

/-- At most so many names with points between them. -/
def names : Nat → Reader (List Text)
  | 0 => failure
  | n + 1 => do
    spaces
    let first ← name
    spaces
    if ← eat "." then return first :: (← names n) else return [first]

/-- How many names a key may have, and how deep values may be nested. -/
def depthLimit : Nat := 79

/-- A key. -/
def key : Reader (List Text) := names depthLimit

/-! ## Values -/

/-- A list of values, over any number of lines. A comma may follow the last one. -/
def list (item : Reader Value) : Reader Value := do
  expect "["
  let items ← collect do
    blanks
    if (← next?) = some ']' then return none
    let v ← item
    blanks
    if (← next?) ≠ some ']' then expect ","
    return some v
  expect "]"
  return .list items

/-- A key and its value. -/
def pair (item : Reader Value) : Reader (List Text × Value) := do
  let key ← key
  expect "="
  spaces
  return (key, ← item)

/-- A table on one line. No comma follows the last pair. -/
def inlineTable (item : Reader Value) : Reader Value := do
  expect "\x7b"
  spaces
  let pairs ←
    if (← next?) = some '\x7d' then pure []
    else do
      let first ← pair item
      spaces
      let more ← collect do
        if ← eat "," then
          let next ← pair item
          spaces
          return some next
        else return none
      pure (first :: more)
  expect "\x7d"
  let members ← Members.ofPairs? pairs
  return .table (membersValue members)

/-- A value, given how lists and tables are read. -/
def valueOf (list table : Reader Value) : Reader Value := do
  match ← next? with
  | some '"' => return .text (← quotedBy '"')
  | some '\'' => return .text (← quotedBy '\'')
  | some '[' => list
  | some '\x7b' => table
  | some 't' =>
    expect "true"
    return .flag true
  | some 'f' =>
    expect "false"
    return .flag false
  | _ => numeric

/-- A value with lists and tables nested at most so deep. -/
def value : Nat → Reader Value
  | 0 => valueOf failure failure
  | d + 1 => valueOf (list (value d)) (inlineTable (value d))

/-! ## Statements -/

/-- A line of a document that says something. -/
inductive Statement
  | pair (key : List Text) (v : Value)
  | table (key : List Text)
  | element (key : List Text)

/-- The next statement, if there is one. -/
def statement? : Reader (Option Statement) := do
  blanks
  if (← next?).isNone then return none
  let s ← show Reader Statement from do
    if ← eat "[[" then
      let key ← key
      expect "]]"
      return .element key
    else if ← eat "[" then
      let key ← key
      expect "]"
      return .table key
    else
      let (key, v) ← pair (value depthLimit)
      return .pair key v
  endOfLine
  return some s

/-- The tables so far, and the key of the one that is open. -/
structure Progress where
  members : Members := []
  key : List Text := []

/-- Carries out a statement. -/
def Progress.step (p : Progress) : Statement → Option Progress
  | .pair key v => do
    return { p with members := ← descend false (fun _ => addPair key v) p.key .header p.members }
  | .table key => do
    let name ← key.getLast?
    return ⟨← descend false (openTable name) key.dropLast .header p.members, key⟩
  | .element key => do
    let name ← key.getLast?
    return ⟨← descend false (openElement name) key.dropLast .header p.members, key⟩

/-! ## Documents -/

/-- A text with each CR LF made one line feed; none if any other control character but a tab and a
line feed is in it. -/
def withoutReturns : Text → Option Text
  | [] => some []
  | '\r' :: '\n' :: rest => (withoutReturns rest).map ('\n' :: ·)
  | c :: rest =>
    if (c.toNat < 0x20 && !isSpaceOrFeed c) || c = '\x7f' then none
    else (withoutReturns rest).map (c :: ·)

/-- Reads a document. A byte order mark may stand at its start. -/
def parse? (t : Text) : Option Value := do
  let t ← withoutReturns ((t.after? ['\ufeff']).getD t)
  let statements ← whole (collect statement?) t
  let p ← statements.foldlM Progress.step {}
  return .table (membersValue p.members)

end CatalogAdmin.Toml
