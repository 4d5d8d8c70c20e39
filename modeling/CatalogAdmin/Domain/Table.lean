import CatalogAdmin.Text.Reader

/-!
# Tables of characters

Tables of characters are written as texts, code points in hexadecimal and entries with white space
between them. There are four kinds of entries:

* `41-5A` or `5F`, the characters from one code point to another, or one alone;
* `300-314:230`, such characters with a number, in decimal;
* `41-5A+20` or `179-17D/2+1`, characters that stand for the characters so many places on (with `-`,
  back); behind a slash, every how many of them do;
* `FB00:66.66,66.69`, the texts that characters from one code point on stand for.
-/

namespace CatalogAdmin.Domain

open Reader

/-- The entries of a table that is written as a text. -/
def entries {α : Type} (entry : Reader α) (table : Text) : List α :=
  let spaced : Text := table.map fun c => if c = '\n' then ' ' else c
  (spaced.fields ' ').filterMap (whole entry)

/-- A number in a base. -/
def number (base : Nat) : Reader Nat := do
  Text.numberIn? base (← takeSome (Text.isDigitIn base))

/-! ## Ranges -/

/-- The characters from one code point to another, both included. -/
structure Range where
  first : Nat
  last : Nat
deriving DecidableEq, Repr

/-- Whether a character is in a range. -/
def Range.has (r : Range) (c : Char) : Bool := r.first ≤ c.toNat && c.toNat ≤ r.last

/-- Reads a range. -/
def range : Reader Range := do
  let first ← number 16
  if ← eat "-" then return ⟨first, ← number 16⟩ else return ⟨first, first⟩

/-- The ranges of a table. -/
def ranges (table : Text) : List Range := entries range table

/-- Whether a character is in one of some ranges. -/
def inRanges (rs : List Range) (c : Char) : Bool := rs.any (·.has c)

/-- The ranges of a table with their numbers. -/
def numberedRanges (table : Text) : List (Range × Nat) :=
  entries (do
    let r ← range
    expect ":"
    return (r, ← number 10)) table

/-! ## Shifts -/

/-- Characters that stand for those a fixed distance on or back. -/
structure Shift where
  range : Range
  /-- Every how many characters of the range do. -/
  step : Nat
  back : Bool
  distance : Nat
deriving DecidableEq, Repr

/-- The character a character stands for. -/
def Shift.target? (s : Shift) (c : Char) : Option Char :=
  if s.range.has c && (c.toNat - s.range.first) % s.step = 0 then
    Text.ofCodePoint? (if s.back then c.toNat - s.distance else c.toNat + s.distance)
  else none

/-- Reads a shift. -/
def shift : Reader Shift := do
  let range ← range
  let step ← if ← eat "/" then number 10 else pure 1
  let back ← eat "-"
  if !back then expect "+"
  return { range, step, back, distance := ← number 16 }

/-- The shifts of a table. -/
def shifts (table : Text) : List Shift := entries shift table

/-! ## Expansions -/

/-- The texts that the characters from one code point on stand for. -/
structure Expansion where
  first : Nat
  texts : List Text
deriving DecidableEq, Repr

/-- The text a character stands for. -/
def Expansion.text? (e : Expansion) (c : Char) : Option Text :=
  if e.first ≤ c.toNat then e.texts[c.toNat - e.first]? else none

/-- Reads items with a separator between them. -/
def separated {α : Type} (separator : Text) (item : Reader α) : Reader (List α) := do
  let first ← item
  let more ← collect do
    if ← eat separator then return some (← item) else return none
  return first :: more

/-- Reads an expansion. -/
def expansion : Reader Expansion := do
  let first ← number 16
  expect ":"
  let texts ← separated "," (separated "." do Text.ofCodePoint? (← number 16))
  return ⟨first, texts⟩

/-- The expansions of a table. -/
def expansions (table : Text) : List Expansion := entries expansion table

/-- The text a character stands for in one of some expansions. -/
def expand? (es : List Expansion) (c : Char) : Option Text := es.findSome? (·.text? c)

example : (shifts "41-5A+20 179-17D/2+1").map (·.target? 'Q') = [some 'q', none] := by
  decide +kernel
example : expand? (expansions "FB00:66.66,66.69 FB05:73.74") '\ufb01' = some ("fi" : Text) := by
  decide +kernel

end CatalogAdmin.Domain
