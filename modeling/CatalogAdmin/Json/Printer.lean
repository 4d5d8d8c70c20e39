import CatalogAdmin.Json.Basic
import CatalogAdmin.Text.Digits

/-!
# Printing JSON

Values are printed over several lines, two spaces deeper at each level; an empty array or object
takes one line. In a string, quotes, backslashes and the control characters below U+0020 are
escaped, the latter by their short names where they have one.
-/

namespace CatalogAdmin.Json

/-- A character as it stands inside a string. -/
def escapeChar (c : Char) : Text :=
  if c = '"' then "\\\""
  else if c = '\\' then "\\\\"
  else if c = '\x08' then "\\b"
  else if c = '\x0c' then "\\f"
  else if c = '\n' then "\\n"
  else if c = '\r' then "\\r"
  else if c = '\t' then "\\t"
  else if c.toNat < 0x20 then "\\u00" ++ Text.hexPair (UInt8.ofNat c.toNat)
  else [c]

/-- A text as a string. -/
def quoted (t : Text) : Text := '"' :: (t.flatMap escapeChar ++ ['"'])

/-- A line feed and the indentation of a level. -/
def newline (level : Nat) : Text := '\n' :: List.replicate (2 * level) ' '

/-- Items within brackets, each on a line of its own. -/
def block (left right : Char) (level : Nat) (items : List Text) : Text :=
  if items.isEmpty then [left, right]
  else left :: (newline (level + 1) ++ Text.join (',' :: newline (level + 1)) items
    ++ newline level ++ [right])

mutual

/-- A value printed at a level of indentation. -/
def printAt (level : Nat) : Json → Text
  | .null => "null"
  | .bool true => "true"
  | .bool false => "false"
  | .number literal => literal
  | .string t => quoted t
  | .array items => block '[' ']' level (printItems (level + 1) items)
  | .object members => block '\x7b' '\x7d' level (printMembers (level + 1) members)

/-- The items of an array, each printed at a level. -/
def printItems (level : Nat) : List Json → List Text
  | [] => []
  | item :: more => printAt level item :: printItems level more

/-- The members of an object, each with its name and printed at a level. -/
def printMembers (level : Nat) : List (Text × Json) → List Text
  | [] => []
  | (name, value) :: more => (quoted name ++ ": " ++ printAt level value) :: printMembers level more

end

/-- A value over several lines. -/
def print (value : Json) : Text := printAt 0 value

end CatalogAdmin.Json
