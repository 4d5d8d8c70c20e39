import CatalogAdmin.Text.Digits

/-!
# Readers

A reader takes a value from the front of a text and leaves the rest, or fails. Readers are put
together by `do`; where a format has items one after the other, `Reader.collect` reads them.
-/

namespace CatalogAdmin

/-- Takes a value from the front of a text, or fails. -/
abbrev Reader := StateT Text Option

namespace Reader

variable {α : Type}

/-- The next character, which stays unread. -/
def next? : Reader (Option Char) := return (← get).head?

/-- The next character. -/
def any : Reader Char
  | [] => none
  | c :: rest => some (c, rest)

/-- Takes a mark if it comes next, and tells whether it did. -/
def eat (mark : Text) : Reader Bool := fun t =>
  match t.after? mark with
  | some rest => some (true, rest)
  | none => some (false, t)

/-- Takes a mark, which must come next. -/
def expect (mark : Text) : Reader Unit := fun t => (t.after? mark).map ((), ·)

/-- The characters up to the first that does not satisfy `p`. -/
def takeWhile (p : Char → Bool) : Reader Text := fun t => some (t.takeWhile p, t.dropWhile p)

/-- As `takeWhile`, but there must be one such character. -/
def takeSome (p : Char → Bool) : Reader Text := do
  let t ← takeWhile p
  guard (t ≠ [])
  return t

/-- A number of so many digits in a base. -/
def digits (base count : Nat) : Reader Nat := fun t => do
  let written := t.take count
  guard (written.length = count)
  return (← Text.numberIn? base written, t.drop count)

/-- The character whose code point is written in so many hexadecimal digits. -/
def codePoint (count : Nat) : Reader Char := do
  let n ← digits 16 count
  Text.ofCodePoint? n

/-- A value if it can be read; else nothing, and nothing is taken. -/
def attempt (r : Reader α) : Reader (Option α) := fun t =>
  match r t with
  | some (a, rest) => some (some a, rest)
  | none => some (none, t)

/-- At most so many items, up to the one that is missing. -/
def collectAtMost (item : Reader (Option α)) : Nat → Reader (List α)
  | 0 => failure
  | n + 1 => do
    match ← item with
    | none => return []
    | some a => return a :: (← collectAtMost item n)

/-- Items up to the one that is missing. An item takes at least one character, so there are no more
items than characters. -/
def collect (item : Reader (Option α)) : Reader (List α) := fun t =>
  collectAtMost item (t.length + 1) t

/-- Reads a text as a whole. -/
def whole (r : Reader α) (t : Text) : Option α :=
  match r t with
  | some (a, []) => some a
  | _ => none

end Reader

end CatalogAdmin
