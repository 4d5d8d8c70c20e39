import CatalogAdmin.Json.Basic
import CatalogAdmin.Text.Reader

/-!
# Reading JSON

A text is one value with white space around it, or no JSON. Numbers must be in the range of
floating-point numbers, and values may not be nested deeper than `nestingLimit`.
-/

namespace CatalogAdmin.Json

open Reader

/-- How deep values may be nested. -/
def nestingLimit : Nat := 127

/-- White space between values. -/
def spaces : Reader Unit := do
  let _ ← takeWhile fun c => c ∈ [' ', '\t', '\n', '\r']

/-- What a backslash and a letter stand for. -/
def shortEscapes : List (Char × Char) :=
  [('"', '"'), ('\\', '\\'), ('/', '/'), ('b', '\x08'), ('f', '\x0c'), ('n', '\n'), ('r', '\r'),
    ('t', '\t')]

/-- A character by its number, or by the two numbers of a pair beyond U+FFFF. -/
def escapedUnit : Reader Char := do
  let first ← digits 16 4
  if 0xD800 ≤ first ∧ first < 0xDC00 then
    expect "\\u"
    let second ← digits 16 4
    guard (0xDC00 ≤ second ∧ second < 0xE000)
    Text.ofCodePoint? (0x10000 + (first - 0xD800) * 0x400 + (second - 0xDC00))
  else Text.ofCodePoint? first

/-- A string. -/
def stringText : Reader Text := do
  expect "\""
  collect do
    let c ← any
    if c = '"' then return none
    else if c < ' ' then failure
    else if c = '\\' then
      let e ← any
      if e = 'u' then return some (← escapedUnit)
      else return some (← shortEscapes.lookup e)
    else return some c

/-- The digits of a number's fraction or exponent, if its mark comes next. -/
def digitsBehind (mark : Char → Bool) (signed : Bool) : Reader (Text × Text) := do
  match ← next? with
  | none => return ([], [])
  | some c =>
    if mark c then
      let c ← any
      let sign ← takeWhile fun c => signed && (c = '+' || c = '-')
      guard (sign.length ≤ 1)
      let written ← takeSome Char.isDigit
      return (c :: sign, written)
    else return ([], [])

/-- A number, as it is written. -/
def numberLiteral : Reader Text := do
  let minus ← takeWhile (· = '-')
  guard (minus.length ≤ 1)
  let whole ← takeSome Char.isDigit
  guard (whole.head? ≠ some '0' ∨ whole.length = 1)
  let (point, fraction) ← digitsBehind (· = '.') false
  let (mark, exponent) ← digitsBehind (fun c => c = 'e' || c = 'E') true
  let m := (Text.numberIn? 10 (whole ++ fraction)).getD 0
  let e := (Text.numberIn? 10 exponent).getD 0
  guard !(if '-' ∈ mark then Text.exceedsFloats m 0 (fraction.length + e)
    else Text.exceedsFloats m e fraction.length)
  return minus ++ whole ++ point ++ fraction ++ mark ++ exponent

/-- Items between brackets with commas between neighbours. -/
def items {α : Type} (left right : Char) (item : Reader α) : Reader (List α) := do
  expect [left]
  spaces
  if ← eat [right] then return []
  let first ← item
  spaces
  let more ← collect do
    if ← eat "," then
      let next ← item
      spaces
      return some next
    else return none
  expect [right]
  return first :: more

/-- A member of an object, given how values are read. -/
def member (value : Reader Json) : Reader (Text × Json) := do
  spaces
  let name ← stringText
  spaces
  expect ":"
  return (name, ← value)

/-- A value, given how lists and objects are read. -/
def valueOf (array object : Reader Json) : Reader Json := do
  spaces
  match ← next? with
  | some '"' => return .string (← stringText)
  | some '[' => array
  | some '\x7b' => object
  | some 'n' =>
    expect "null"
    return .null
  | some 't' =>
    expect "true"
    return .bool true
  | some 'f' =>
    expect "false"
    return .bool false
  | _ => return .number (← numberLiteral)

/-- A value nested at most so deep. -/
def valueWithin : Nat → Reader Json
  | 0 => valueOf failure failure
  | n + 1 => valueOf (return .array (← items '[' ']' (valueWithin n)))
      (return .object (← items '\x7b' '\x7d' (member (valueWithin n))))

/-- Reads a text as a value. -/
def parse? (t : Text) : Option Json :=
  whole (do
    let v ← valueWithin nestingLimit
    spaces
    return v) t

example : (parse? " [1.5e3, \"\\ud83d\\ude00\", \x7b\x7d] ").isSome = true := by decide +kernel
example : (parse? "[01]").isNone = true ∧ (parse? "\"\\ud83d\"").isNone = true := by decide +kernel

end CatalogAdmin.Json
