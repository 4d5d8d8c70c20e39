import CatalogAdmin.Text.Basic

/-!
# UTF-8

Bytes of a text, and texts of bytes. Where bytes are no text, `decodeLossy` puts U+FFFD in the place
of each longest sequence that begins a character without completing it, and of each byte that begins
none.
-/

namespace CatalogAdmin.Text

/-- The UTF-8 form of a text. -/
def utf8 (t : Text) : List UInt8 := t.flatMap String.utf8EncodeChar

/-- What a byte is at the start of a character: how many bytes follow, the bounds of the next one,
and the bits it contributes. -/
structure Lead where
  following : Nat
  low : Nat
  high : Nat
  bits : Nat

/-- The lead byte of a character. -/
def lead? (b : Nat) : Option Lead :=
  if b < 0x80 then some ⟨0, 0, 0, b⟩
  else if 0xC2 ≤ b ∧ b ≤ 0xDF then some ⟨1, 0x80, 0xBF, b - 0xC0⟩
  else if b = 0xE0 then some ⟨2, 0xA0, 0xBF, 0⟩
  else if b = 0xED then some ⟨2, 0x80, 0x9F, 0xD⟩
  else if 0xE1 ≤ b ∧ b ≤ 0xEF then some ⟨2, 0x80, 0xBF, b - 0xE0⟩
  else if b = 0xF0 then some ⟨3, 0x90, 0xBF, 0⟩
  else if 0xF1 ≤ b ∧ b ≤ 0xF3 then some ⟨3, 0x80, 0xBF, b - 0xF0⟩
  else if b = 0xF4 then some ⟨3, 0x80, 0x8F, 4⟩
  else none

/-- The result of reading the bytes that follow a lead byte: the code point if the character is
complete, and how many of them belong to it. -/
def continuation : Nat → Nat → Nat → Nat → List UInt8 → Option Nat × Nat
  | 0, _, _, bits, _ => (some bits, 0)
  | _ + 1, _, _, _, [] => (none, 0)
  | n + 1, low, high, bits, b :: rest =>
    if low ≤ b.toNat ∧ b.toNat ≤ high then
      let (found, used) := continuation n 0x80 0xBF (bits * 64 + (b.toNat - 0x80)) rest
      (found, used + 1)
    else (none, 0)

/-- Reads characters, skipping the bytes that belong to the character before. What is no character
becomes `none`. -/
def decodeFrom : Nat → List UInt8 → List (Option Char)
  | _, [] => []
  | skip + 1, _ :: rest => decodeFrom skip rest
  | 0, b :: rest =>
    match lead? b.toNat with
    | none => none :: decodeFrom 0 rest
    | some l =>
      let (found, used) := continuation l.following l.low l.high l.bits rest
      found.map Char.ofNat :: decodeFrom used rest

/-- The text of some bytes, if they are the UTF-8 form of one. -/
def decode? (bytes : List UInt8) : Option Text := (decodeFrom 0 bytes).mapM id

/-- The text of some bytes, with U+FFFD where they are no text. -/
def decodeLossy (bytes : List UInt8) : Text := (decodeFrom 0 bytes).map (·.getD '\ufffd')

example : decodeLossy [0xF0, 0x9F, 0x98, 0x41, 0xC0, 0xAF, 0x80]
    = ['\ufffd', 'A', '\ufffd', '\ufffd', '\ufffd'] := by decide

end CatalogAdmin.Text
