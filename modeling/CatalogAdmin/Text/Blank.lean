import CatalogAdmin.Text.Basic

/-!
# Blank characters

The characters with the Unicode property `White_Space`, and the trimming that goes by it. The
zero-width space U+200B, the byte order mark U+FEFF and the control characters U+001C to U+001F
do not have the property.
-/

namespace CatalogAdmin.Text

/-- The code points of `White_Space`, as ranges with both ends included. -/
def blankRanges : List (Nat × Nat) :=
  [(0x09, 0x0D), (0x20, 0x20), (0x85, 0x85), (0xA0, 0xA0), (0x1680, 0x1680), (0x2000, 0x200A),
    (0x2028, 0x2029), (0x202F, 0x202F), (0x205F, 0x205F), (0x3000, 0x3000)]

/-- Whether a character is white space. -/
def isBlank (c : Char) : Bool := blankRanges.any fun (low, high) => low ≤ c.toNat && c.toNat ≤ high

/-- A text without the white space it begins with. -/
def trimStart (t : Text) : Text := t.dropWhile isBlank

/-- A text without the white space it ends with. -/
def trimEnd (t : Text) : Text := dropEnd isBlank t

/-- A text without the white space around it. -/
def trim (t : Text) : Text := trimEnd (trimStart t)

example : trim (['\u0085', ' '] ++ "24.8" ++ ['\u3000']) = "24.8" := by decide
example : isBlank '\u200b' = false ∧ isBlank '\u001c' = false := by decide

end CatalogAdmin.Text
