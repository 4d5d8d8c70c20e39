import CatalogAdmin.Settings.Value
import CatalogAdmin.Toml.Strings

/-!
# Numbers and dates of TOML

No setting is a number or a date, so of a number it only matters that it is well-formed and in
range, and of a date its text.
-/

namespace CatalogAdmin.Toml

open Reader

/-! ## Numbers -/

/-- A sign, if there is one. Tells whether it is a minus. -/
def sign : Reader Bool := do
  if ← eat "-" then return true
  let _ ← eat "+"
  return false

/-- Digits in a base, with single underscores between digits left out. -/
def digitRun (base : Nat) : Reader Text := do
  let written ← takeSome fun c => Text.isDigitIn base c || c = '_'
  guard (written.head? ≠ some '_' ∧ written.getLast? ≠ some '_' ∧ !written.contains "__")
  return written.filter (· ≠ '_')

/-- The digits of a whole decimal number: no zero stands before another digit. -/
def wholeDigits : Reader Text := do
  let written ← digitRun 10
  guard (written.head? ≠ some '0' ∨ written.length = 1)
  return written

/-- A floating-point number: a whole part with a fraction, an exponent or both, or a name. Beyond
the range a negative number is infinite, and a positive one is refused. -/
def float : Reader Unit := do
  let negative ← sign
  if ← eat "inf" then return
  if ← eat "nan" then return
  let whole ← wholeDigits
  let fraction ← if ← eat "." then digitRun 10 else pure []
  let hasExponent := (← next?) = some 'e' || (← next?) = some 'E'
  guard (fraction ≠ [] || hasExponent)
  let (down, exponent) ←
    if hasExponent then do
      let _ ← any
      let down ← sign
      let written ← digitRun 10
      pure (down, (Text.numberIn? 10 written).getD 0)
    else pure (false, 0)
  let m := (Text.numberIn? 10 (whole ++ fraction)).getD 0
  guard (negative || !(if down then Text.exceedsFloats m 0 (fraction.length + exponent)
    else Text.exceedsFloats m exponent fraction.length))

/-- The bases that a mark before the digits tells. -/
def baseMarks : List (Text × Nat) := [("0x", 16), ("0o", 8), ("0b", 2)]

/-- An integer of sixty-four bits. -/
def integer : Reader Unit := do
  let rest ← get
  match baseMarks.find? fun (mark, _) => rest.startsWith mark with
  | some (mark, base) =>
    expect mark
    let n ← Text.numberIn? base (← digitRun base)
    guard (n < Nat.pow 2 63)
  | none =>
    let negative ← sign
    let n ← Text.numberIn? 10 (← wholeDigits)
    guard (n < Nat.pow 2 63 || (negative && n = Nat.pow 2 63))

/-! ## Dates and times -/

/-- A number in so many digits, with leading zeros. -/
def padded (width n : Nat) : Text :=
  let written := Text.ofNat n
  List.replicate (width - written.length) '0' ++ written

/-- How many days a month has. -/
def daysIn (year month : Nat) : Nat :=
  if month = 2 then
    if year % 4 = 0 ∧ (year % 100 ≠ 0 ∨ year % 400 = 0) then 29 else 28
  else if month ∈ [4, 6, 9, 11] then 30
  else 31

/-- A day of the calendar. -/
def day : Reader Text := do
  let year ← digits 10 4
  expect "-"
  let month ← digits 10 2
  expect "-"
  let day ← digits 10 2
  guard (1 ≤ month ∧ month ≤ 12 ∧ 1 ≤ day ∧ day ≤ daysIn year month)
  return padded 4 year ++ '-' :: padded 2 month ++ '-' :: padded 2 day

/-- Hours and minutes. -/
def hourAndMinute : Reader Text := do
  let hour ← digits 10 2
  expect ":"
  let minute ← digits 10 2
  guard (hour < 24 ∧ minute < 60)
  return padded 2 hour ++ ':' :: padded 2 minute

/-- A time of day, to the nanosecond. A minute may have a leap second. -/
def timeOfDay : Reader Text := do
  let start ← hourAndMinute
  expect ":"
  let second ← digits 10 2
  guard (second ≤ 60)
  let fraction ← if ← eat "." then takeSome Char.isDigit else pure []
  let fraction := Text.dropEnd (· = '0') (fraction.take 9)
  return start ++ ':' :: padded 2 second ++ (if fraction = [] then [] else '.' :: fraction)

/-- How far a time is from the universal one. -/
def offset : Reader Text := do
  match ← any with
  | 'Z' => return "Z"
  | 'z' => return "Z"
  | '+' => return '+' :: (← hourAndMinute)
  | '-' =>
    let ahead ← hourAndMinute
    return (if ahead = "00:00" then '+' else '-') :: ahead
  | _ => failure

/-- A time of day behind a date, with its offset if it has one. -/
def timeBehindDay : Reader Text := do
  let c ← any
  guard (c = 'T' || c = 't' || c = ' ')
  return 'T' :: (← timeOfDay) ++ (← attempt offset).getD []

/-- A day, a time of day, or both. -/
def moment : Reader Text := do
  match ← attempt day with
  | some day => return day ++ (← attempt timeBehindDay).getD []
  | none => timeOfDay

/-- The name a date stands under. -/
def momentName : Text := "$__toml_private_datetime"

/-- A number or a date. A date is a table with one member, under a name that no setting has. -/
def numeric : Reader Value := do
  match ← attempt moment with
  | some written => return .table [(momentName, .text written)]
  | none =>
    match ← attempt float with
    | some () => return .number
    | none =>
      integer
      return .number

end CatalogAdmin.Toml
