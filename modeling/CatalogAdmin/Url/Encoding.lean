import CatalogAdmin.Text.Digits
import CatalogAdmin.Text.Utf8

/-!
# Percent-encoding

Characters that may not stand in a part of a URL are written as the bytes of their UTF-8 form, each
by a percent sign and two hexadecimal digits. Which characters may stand there depends on the part.
-/

namespace CatalogAdmin.Url

/-- A character as percent-encoded bytes. -/
def encodeChar (c : Char) : Text :=
  (Text.utf8 [c]).flatMap Text.percentByte

/-- A text with the characters encoded that do not satisfy `keep`. -/
def encode (keep : Char → Bool) (t : Text) : Text :=
  t.flatMap fun c => if keep c then [c] else encodeChar c

/-- The byte that a percent sign and two digits stand for. -/
def encodedByte? : Text → Option UInt8
  | '%' :: a :: b :: _ =>
    match Text.hexDigit? a, Text.hexDigit? b with
    | some high, some low => some (UInt8.ofNat (high.val * 16 + low.val))
    | _, _ => none
  | _ => none

/-- Reads bytes, skipping the characters that belong to the byte before. -/
def decodeFrom : Nat → Text → List UInt8
  | _, [] => []
  | skip + 1, _ :: rest => decodeFrom skip rest
  | 0, c :: rest =>
    match encodedByte? (c :: rest) with
    | some byte => byte :: decodeFrom 2 rest
    | none => Text.utf8 [c] ++ decodeFrom 0 rest

/-- The bytes a text stands for. A percent sign without two digits behind it stands for itself. -/
def decode (t : Text) : List UInt8 := decodeFrom 0 t

/-- Whether a character is printable ASCII and none of the others given. -/
def isPrintableExcept (others : Text) (c : Char) : Bool := '!' ≤ c && c ≤ '~' && c ∉ others

/-- What may stand in a path. -/
def keptInPath : Char → Bool := isPrintableExcept ['"', '#', '<', '>', '?', '\x60', '\x7b', '\x7d']

/-- What may stand in a query. -/
def keptInQuery : Char → Bool := isPrintableExcept ['"', '#', '<', '>', '\'']

/-- The name or the value of a form field: a space becomes a plus sign. -/
def formEncode (t : Text) : Text :=
  t.flatMap fun c =>
    if c = ' ' then ['+']
    else if c.isAlphanum || c ∈ ['*', '-', '.', '_'] then [c]
    else encodeChar c

/-- The fields of a form as a query. -/
def formQuery (fields : List (Text × Text)) : Text :=
  Text.join "&" (fields.map fun (name, value) => formEncode name ++ '=' :: formEncode value)

example : formQuery [("max_execution_time", "60"), ("param_t", "é b")]
    = "max_execution_time=60&param_t=%C3%A9+b" := by decide

end CatalogAdmin.Url
