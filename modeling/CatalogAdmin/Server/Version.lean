import CatalogAdmin.Text.Blank

/-!
# Server versions

A version is written as numbers with points between them; only the first two count. Versions are
compared by the first number, then by the second.
-/

namespace CatalogAdmin

/-- The version of a server: its first two numbers, and how it is written. -/
structure Version where
  major : Nat
  minor : Nat
  text : Text
deriving DecidableEq, Repr

namespace Version

/-- The greatest number a version may hold. -/
def numberLimit : Nat := Nat.pow 2 32 - 1

/-- Reads a number of ASCII digits, at least one, a plus sign allowed before them. -/
def number? (t : Text) : Option Nat :=
  let digits := if t.head? = some '+' then t.drop 1 else t
  if digits.isEmpty || !digits.all Char.isDigit then none
  else
    let n := digits.foldl (fun n c => n * 10 + (c.toNat - 48)) 0
    if n ≤ numberLimit then some n else none

/-- Reads a version, white space around it ignored. -/
def parse? (t : Text) : Option Version :=
  match t.trim.fields '.' with
  | major :: minor :: _ => do return ⟨← number? major, ← number? minor, t.trim⟩
  | _ => none

/-- Whether a version is this one or a later one. -/
def atLeast (v : Version) (major minor : Nat) : Bool :=
  major < v.major || (v.major = major && minor ≤ v.minor)

end Version

end CatalogAdmin
