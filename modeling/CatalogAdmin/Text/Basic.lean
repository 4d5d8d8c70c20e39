/-!
# Text

A text is its list of characters. This module holds the ways the library takes texts apart: at a
mark, at a separator, into pieces that keep their line ending and into lines that do not.

* `t.cut mark` splits `t` around the first place where `mark` stands;
* `t.pieces` ends a piece after each line feed and loses nothing (`flatten_pieces`);
* `t.lines` is `t.pieces` with each ending, `\n` or `\r\n`, taken off.
-/

namespace CatalogAdmin

/-- A text is its list of characters. -/
abbrev Text := List Char

/-- A string literal may stand where a text is meant. -/
instance : Coe String Text := ⟨String.toList⟩

namespace Text

/-- The decimal digits of a number. -/
def ofNat (n : Nat) : Text := Nat.toDigits 10 n

/-- How many bytes the UTF-8 form of a text takes. -/
def byteLength : Text → Nat
  | [] => 0
  | c :: rest => c.utf8Size + byteLength rest

/-- The longest start of a text that takes at most so many bytes. -/
def takeBytes : Nat → Text → Text
  | _, [] => []
  | n, c :: rest => if c.utf8Size ≤ n then c :: takeBytes (n - c.utf8Size) rest else []

/-- Whether a text begins with a mark. -/
def startsWith (t mark : Text) : Bool := mark.isPrefixOf t

/-- Whether a text ends with a mark. -/
def endsWith (t mark : Text) : Bool := mark.isSuffixOf t

/-- What follows a mark the text begins with. -/
def after? (t mark : Text) : Option Text :=
  if t.startsWith mark then some (t.drop mark.length) else none

/-- The text before the first place where `mark` stands, and the text behind it. -/
def cut (t mark : Text) : Option (Text × Text) :=
  match t with
  | [] => if mark.isEmpty then some ([], []) else none
  | c :: rest =>
    if startsWith (c :: rest) mark then some ([], (c :: rest).drop mark.length)
    else (cut rest mark).map fun (before, behind) => (c :: before, behind)

/-- Whether `mark` stands somewhere in the text. -/
def contains (t mark : Text) : Bool := (t.cut mark).isSome

/-- A text without the characters at its end that satisfy `p`. -/
def dropEnd (p : Char → Bool) (t : Text) : Text := (t.reverse.dropWhile p).reverse

/-- The parts of a text between the occurrences of a separator: one more than there are
occurrences. -/
def fields (separator : Char) : Text → List Text
  | [] => [[]]
  | c :: rest =>
    if c = separator then [] :: fields separator rest
    else match fields separator rest with
      | [] => [[c]]
      | field :: more => (c :: field) :: more

/-- Texts one after the other, with a separator between neighbours. -/
def join (separator : Text) : List Text → Text
  | [] => []
  | [t] => t
  | t :: more => t ++ separator ++ join separator more

/-- A text with its ASCII capitals made small. -/
def lower (t : Text) : Text := t.map Char.toLower

/-! ## Pieces and lines -/

/-- The text cut after each line feed. A last piece may lack its line feed; no piece is empty. -/
def pieces : Text → List Text
  | [] => []
  | c :: rest =>
    if c = '\n' then ['\n'] :: pieces rest
    else match pieces rest with
      | [] => [[c]]
      | piece :: more => (c :: piece) :: more

/-- The line ending a piece closes with: CR LF, LF or none. -/
def ending (piece : Text) : Text :=
  if piece.endsWith "\r\n" then "\r\n" else if piece.endsWith "\n" then "\n" else []

/-- A piece without its line ending. -/
def withoutEnding (piece : Text) : Text := piece.take (piece.length - (ending piece).length)

/-- The lines of a text. A carriage return counts as part of an ending only before a line feed. -/
def lines (t : Text) : List Text := (pieces t).map withoutEnding

/-- Cutting into pieces loses nothing. -/
theorem flatten_pieces (t : Text) : (pieces t).flatten = t := by
  induction t with
  | nil => rfl
  | cons c rest ih =>
    unfold pieces
    split
    · next h => simp [h, ih]
    · next h =>
      cases hp : pieces rest with
      | nil => simpa [hp] using ih
      | cons piece more => simpa [hp] using ih

end Text

end CatalogAdmin
