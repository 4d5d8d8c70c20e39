import CatalogAdmin.Text.Digits

/-!
# UUIDs

A UUID is thirty-two hexadecimal digits. It is written in five hyphenated groups with small
letters, and read in any case from one of four forms: the bare digits, the hyphenated form, the
hyphenated form in braces, and the hyphenated form behind `urn:uuid:`.
-/

namespace CatalogAdmin

/-- A UUID is its thirty-two hexadecimal digits. -/
structure Uuid where
  digits : List (Fin 16)
  length_digits : digits.length = 32
deriving DecidableEq, Repr

namespace Uuid

/-- The UUID with these digits, if there are thirty-two. -/
def ofDigits? (digits : List (Fin 16)) : Option Uuid :=
  if h : digits.length = 32 then some ⟨digits, h⟩ else none

/-- Reads thirty-two digits and nothing else. -/
def readPlain? (t : Text) : Option Uuid := (t.mapM Text.hexDigit?).bind ofDigits?

/-- How many digits stand in each hyphenated group. -/
def groupLengths : List Nat := [8, 4, 4, 4, 12]

/-- Reads five groups of digits with a hyphen between neighbours. -/
def readHyphenated? (t : Text) : Option Uuid :=
  let groups := t.fields '-'
  if groups.map List.length = groupLengths then readPlain? groups.flatten else none

/-- Reads a UUID in one of its four forms. The forms differ in length, so the length decides. -/
def parse? (t : Text) : Option Uuid :=
  if t.length = 32 then readPlain? t
  else if t.length = 36 then readHyphenated? t
  else if t.length = 38 then
    if t.head? = some '{' ∧ t.getLast? = some '}' then readHyphenated? (t.drop 1).dropLast else none
  else if t.length = 45 then
    if Text.lower (t.take 9) = "urn:uuid:" then readHyphenated? (t.drop 9) else none
  else none

/-- The hyphenated form with small letters. -/
def text (u : Uuid) : Text :=
  let written := u.digits.map Text.hexChar
  written.take 8 ++ '-' :: (written.drop 8).take 4 ++ '-' :: (written.drop 12).take 4
    ++ '-' :: (written.drop 16).take 4 ++ '-' :: written.drop 20

end Uuid

end CatalogAdmin
