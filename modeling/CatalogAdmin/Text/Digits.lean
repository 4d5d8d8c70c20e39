import CatalogAdmin.Text.Basic

/-!
# Digits

Digits up to fifteen and the characters that stand for them, the numbers that digits write in a base
up to sixteen, which decimal numbers are too large for a floating-point number, and the characters
that code points name.

* `hexDigit?_hexChar`: the character of a digit stands for that digit.
-/

namespace CatalogAdmin.Text

/-- The digit a character stands for, in either case. -/
def hexDigit? (c : Char) : Option (Fin 16) :=
  if '0' ≤ c ∧ c ≤ '9' then some (Fin.ofNat 16 (c.toNat - 48))
  else if 'a' ≤ c ∧ c ≤ 'f' then some (Fin.ofNat 16 (c.toNat - 87))
  else if 'A' ≤ c ∧ c ≤ 'F' then some (Fin.ofNat 16 (c.toNat - 55))
  else none

/-- The character of a digit, a small letter from ten on. -/
def hexChar (d : Fin 16) : Char :=
  if d.val < 10 then Char.ofNat (48 + d.val) else Char.ofNat (87 + d.val)

/-- The character of a digit stands for it. -/
theorem hexDigit?_hexChar (d : Fin 16) : hexDigit? (hexChar d) = some d := by
  revert d; decide

/-- A byte in two hexadecimal digits. -/
def hexPair (b : UInt8) : Text :=
  [hexChar (Fin.ofNat 16 (b.toNat / 16)), hexChar (Fin.ofNat 16 b.toNat)]

/-- A byte as a percent sign and two capital hexadecimal digits. -/
def percentByte (b : UInt8) : Text := '%' :: (hexPair b).map Char.toUpper

/-- The value of a character as a digit in a base. -/
def digitIn? (base : Nat) (c : Char) : Option Nat :=
  match hexDigit? c with
  | some d => if d.val < base then some d.val else none
  | none => none

/-- Whether a character is a digit in a base. -/
def isDigitIn (base : Nat) (c : Char) : Bool := (digitIn? base c).isSome

/-- The number that digits write, if there is at least one. -/
def numberIn? (base : Nat) (t : Text) : Option Nat :=
  if t.isEmpty then none
  else (t.mapM (digitIn? base)).map fun digits => digits.foldl (fun n d => n * base + d) 0

/-- Whether a number `m · 10 ^ (up - down)` exceeds all floating-point numbers: rounding to
fifty-three binary digits takes it to two to the power of 1024. -/
def exceedsFloats (m up down : Nat) : Bool :=
  let limit := Nat.pow 2 1024 - Nat.pow 2 970
  if m = 0 then false
  else if down ≤ up then 310 < up - down || limit ≤ m * Nat.pow 10 (up - down)
  else (limit ≤ m) && limit * Nat.pow 10 (down - up) ≤ m

/-- The character of a code point; none for a surrogate and for what is beyond the last one. -/
def ofCodePoint? (n : Nat) : Option Char :=
  if h : n.isValidChar then some (Char.ofNatAux n h) else none

end CatalogAdmin.Text
