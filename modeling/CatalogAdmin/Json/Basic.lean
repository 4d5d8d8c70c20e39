import CatalogAdmin.Text.Basic

/-!
# JSON values

The values a server answers with and the reports the program prints. A number is kept as it is
written; the members of an object are in order, and of equal names the last one counts.
-/

namespace CatalogAdmin

/-- A JSON value. -/
inductive Json
  | null
  | bool (b : Bool)
  | number (literal : Text)
  | string (t : Text)
  | array (items : List Json)
  | object (members : List (Text × Json))
deriving Repr, Inhabited

namespace Json

/-- A text as a value, `null` where there is none. -/
def ofText? : Option Text → Json
  | none => .null
  | some t => .string t

/-- The text of a string value. -/
def text? : Json → Option Text
  | .string t => some t
  | _ => none

end Json

/-- One row of an answer: its fields by name. -/
abbrev Row := List (Text × Json)

/-- The text in a field of a row; none if the field is missing or holds anything but a text. -/
def Row.text? (row : Row) (name : Text) : Option Text :=
  (row.reverse.lookup name).bind Json.text?

end CatalogAdmin
