import CatalogAdmin.Text.Blank
import CatalogAdmin.Toml.Strings
import CatalogAdmin.Settings.Value

/-!
# Settings from the environment

A variable sets a setting if its name begins with `CHADMIN__` in any case; two underscores stand
between the names that lead to the setting. What the variable holds is a value in a notation of its
own: lists in brackets, tables in braces, quoted texts, truth values and numbers, and anything else
is a text as it stands. Of two variables that set the same thing the later one counts.
-/

namespace CatalogAdmin

/-- The variables of an environment, in order: names and what they hold. -/
abbrev Environment := List (Text × Text)

namespace Environment

open Reader

/-- The environment in a text that has each variable as `name=value` with a NUL behind it. -/
def ofText (t : Text) : Environment := (t.fields '\x00').filterMap (·.cut "=")

/-! ## Names -/

/-- What the name of a variable begins with that sets a setting, in small letters. -/
def mark : Text := "chadmin__"

/-- A name with a point for each two underscores. -/
def pointed : Text → Text
  | '_' :: '_' :: rest => '.' :: pointed rest
  | c :: rest => c :: pointed rest
  | [] => []

/-- The names that lead to the setting a variable sets, none if it sets none. -/
def settingNames? (name : Text) : Option (List Text) := do
  let rest ← name.trim.lower.after? mark
  let names := (pointed rest.trim).fields '.'
  guard (names.all (· ≠ []))
  return names

/-! ## Values -/

/-- The characters that part values. -/
def isSeparator (c : Char) : Bool := c ∈ [',', '\x7b', '\x7d', '[', ']']

/-- White space between values. -/
def isSpace (c : Char) : Bool := c ∈ [' ', '\t', '\n', '\x0c', '\r']

/-- A text without a sign it begins with. -/
def withoutSign (t : Text) : Text :=
  if t.head? = some '+' || t.head? = some '-' then t.drop 1 else t

/-- Whether a text writes a whole number of sixty-four bits, with or without sign. -/
def isInteger (t : Text) : Bool :=
  let digits := withoutSign t
  digits.all Char.isDigit &&
    match Text.numberIn? 10 digits with
    | none => false
    | some n => if t.head? = some '-' then n ≤ Nat.pow 2 63 else n < Nat.pow 2 64

/-- Whether a text writes a decimal number with a point, possibly with an exponent. -/
def isDecimal (t : Text) : Bool :=
  let (mantissa, exponent) := (withoutSign t).span fun c => c ≠ 'e' && c ≠ 'E'
  let exponentOk :=
    match exponent with
    | [] => true
    | _ :: written =>
      let digits := withoutSign written
      digits ≠ [] && digits.all Char.isDigit
  match Text.fields '.' mantissa with
  | [whole, fraction] =>
    exponentOk && (whole ++ fraction) ≠ [] && (whole ++ fraction).all Char.isDigit
  | _ => false

/-- A value without quotes or brackets: a number if it writes one, else a text. -/
def plain : Reader Value := do
  let written := (← takeWhile (!isSeparator ·)).trim
  return if isDecimal written || isInteger written then .number else .text written

/-- Whether a character may stand between quotes: no control character may but the tab. -/
def isQuotable (c : Char) : Bool := c = '\t' || (' ' ≤ c && c ≠ '\x7f')

/-- The rest of a text between double quotes. -/
def quotedRest : Reader Text := collect do
  let c ← any
  guard (isQuotable c)
  if c = '"' then return none
  else if c = '\\' then return some (← Toml.escaped)
  else return some c

/-- A text between double quotes, with the escapes of TOML. What stands before the first escape is
cut to as many bytes as it has characters, so of ASCII nothing is lost. -/
def quoted : Reader Text := do
  expect "\""
  let before ← takeWhile fun c => c ≠ '"' && c ≠ '\\'
  guard (before.all isQuotable)
  let escapes := (← next?) = some '\\'
  let rest ← quotedRest
  return (if escapes then Text.takeBytes before.length before else before) ++ rest

/-- Items between brackets. A comma may stand right before the closing one. -/
def items {α : Type} (left right : Char) (item : Reader α) : Reader (List α) := do
  expect [left]
  let items ← collect do
    if (← next?) = some right then return none
    let a ← item
    if (← next?) ≠ some right then expect ","
    return some a
  expect [right]
  return items

/-- White space, if there is any. -/
def spaces : Reader Unit := do
  let _ ← takeWhile isSpace

/-- A member of a table. -/
def member (value : Reader Value) : Reader (Text × Value) := do
  spaces
  let name ←
    if (← next?) = some '"' then quoted
    else takeSome fun c => c.isAlphanum || c = '_' || c = '-'
  spaces
  expect "="
  return (name, ← value)

/-- The table with these members, of equal names the last one. -/
def tableOf (members : List (Text × Value)) : Value :=
  .table (members.foldl (fun table (name, v) => Value.put name v table) [])

/-- A value, given how the values within are read. -/
def valueOf (inner : Reader Value) : Reader Value := do
  spaces
  let v ← show Reader Value from do
    if ← eat "true" then return .flag true
    else if ← eat "false" then return .flag false
    else match ← next? with
      | some '\x7b' => return tableOf (← items '\x7b' '\x7d' (member inner))
      | some '[' => return .list (← items '[' ']' inner)
      | some '"' => return .text (← quoted)
      | some '\'' =>
        expect "'"
        let c ← any
        expect "'"
        return .text [c]
      | _ => plain
  spaces
  return v

/-- A value with values nested at most so deep. -/
def valueWithin : Nat → Reader Value
  | 0 => failure
  | n + 1 => valueOf (valueWithin n)

/-- What a text that a variable holds means. Where it follows the notation in part only, it is a
text as a whole. -/
def readValue (t : Text) : Value := (whole (valueWithin (t.length + 1)) t).getD (.text t)

/-! ## Layers -/

/-- A value under the names that lead to it. -/
def nest (v : Value) : List Text → Value
  | [] => v
  | name :: rest => .table [(name, nest v rest)]

/-- The layer of settings that an environment is. -/
def toValue (env : Environment) : Value :=
  env.foldl (fun layer (name, t) =>
    match settingNames? name with
    | none => layer
    | some names => (nest (readValue t) names).above layer) (.table [])

end Environment

end CatalogAdmin
