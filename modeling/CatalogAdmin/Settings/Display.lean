import CatalogAdmin.Json.Printer
import CatalogAdmin.Settings.Value
import CatalogAdmin.Text.Shown

/-!
# Showing settings

Settings are shown as lines for people or as JSON for programs. The JSON form keeps the order of the
settings and does not give the password away; the lines leave it out.
-/

namespace CatalogAdmin

/-! ## Texts between quotes -/

/-- The small hexadecimal digits of a number. -/
def hexText (n : Nat) : Text := Nat.toDigits 16 n

/-- A character as it is shown between quotes. -/
def shownChar (c : Char) : Text :=
  if c = '"' then "\\\""
  else if c = '\\' then "\\\\"
  else if c = '\t' then "\\t"
  else if c = '\n' then "\\n"
  else if c = '\r' then "\\r"
  else if c = '\x00' then "\\0"
  else if Text.isShown c then [c]
  else "\\u\x7b" ++ hexText c.toNat ++ "\x7d"

/-- A text between quotes, with what does not show by itself written out. -/
def shown (t : Text) : Text := '"' :: (t.flatMap shownChar ++ ['"'])

/-- Texts as a list in brackets. -/
def shownList (ts : List Text) : Text := '[' :: (Text.join ", " (ts.map shown) ++ [']'])

example : shown "a\"b\t" = "\"a\\\"b\\t\"" := by decide +kernel
example : shownChar '\u0301' = "\\u\x7b301\x7d" := by decide +kernel

/-! ## JSON -/

mutual

/-- A value as JSON. -/
def Value.toJson : Value → Json
  | .absent => .null
  | .text t => .string t
  | .flag b => .bool b
  | .number => .null
  | .list items => .array (Value.itemsToJson items)
  | .table members => .object (Value.membersToJson members)

/-- Values as JSON. -/
def Value.itemsToJson : List Value → List Json
  | [] => []
  | v :: more => v.toJson :: Value.itemsToJson more

/-- Members of a table as JSON. -/
def Value.membersToJson : List (Text × Value) → List (Text × Json)
  | [] => []
  | (name, v) :: more => (name, v.toJson) :: Value.membersToJson more

end

namespace Settings

/-- What stands for a password where settings are shown. -/
def hiddenPassword : Text := "***"

/-- Settings with nothing in them that must not be shown. -/
def redacted (s : Settings) : Settings :=
  { s with server := { s.server with password := s.server.password.map fun _ => hiddenPassword } }

/-- Settings as JSON, without the password. -/
def toJson (s : Settings) : Json := s.redacted.toValue.toJson

/-- The word for a truth value. -/
def flagText (b : Bool) : Text := if b then "true" else "false"

/-- Settings as lines for people. -/
def lines (s : Settings) : List Text :=
  let limits := s.server.timeouts
  ["chadmin configuration:",
    "======================",
    "ClickHouse URL: " ++ s.server.url,
    "ClickHouse user: " ++ s.server.user,
    "Query timeout: " ++ limits.query.decimal ++ ", detach: " ++ limits.detachTable.decimal
      ++ ", attach: " ++ limits.attachTable.decimal ++ ", system: " ++ limits.system.decimal,
    "ClickHouse root: " ++ s.paths.root.text,
    "Object storage mount: " ++ s.paths.objectStorage.text,
    "Disk remover: " ++ s.disks.remover,
    "Disk remover config: " ++ s.disks.config.text,
    "Excluded disks: " ++ shownList s.disks.excluded,
    "Lenient missing paths: " ++ flagText s.disks.lenient]

end Settings

end CatalogAdmin
