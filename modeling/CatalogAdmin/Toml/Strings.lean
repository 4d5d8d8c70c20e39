import CatalogAdmin.Text.Reader

/-!
# Strings of TOML

Four kinds of strings: between double quotes, with escapes, or between single quotes, without; and
each over one line or, between quotes written three times, over several. The readers start before
the opening quotes. Line ends are line feeds here, and control characters have been ruled out
before.
-/

namespace CatalogAdmin.Toml

open Reader

/-- White space within a line. -/
def isSpace (c : Char) : Bool := c = ' ' || c = '\t'

/-- White space, line feeds included. -/
def isSpaceOrFeed (c : Char) : Bool := isSpace c || c = '\n'

/-- What a backslash and a letter stand for. -/
def escapes : List (Char × Char) :=
  [('b', '\x08'), ('t', '\t'), ('n', '\n'), ('f', '\x0c'), ('r', '\r'), ('"', '"'), ('\\', '\\')]

/-- A character that is escaped, from behind the backslash. -/
def escaped : Reader Char := do
  match ← any with
  | 'u' => codePoint 4
  | 'U' => codePoint 8
  | c => escapes.lookup c

/-- The characters of a string on one line up to its closing quote. -/
def lineCharacter (quote : Char) (escapes : Bool) : Reader (Option Char) := do
  let c ← any
  if c = quote then return none
  else if c = '\n' then failure
  else if escapes && c = '\\' then return some (← escaped)
  else return some c

/-- A string on one line. -/
def lineString (quote : Char) (escapes : Bool) : Reader Text := do
  expect [quote]
  collect (lineCharacter quote escapes)

/-- A piece of a string on several lines up to its closing quotes, which stay unread. A backslash
at the end of a line takes away all white space that follows. -/
def blockPiece (quote : Char) (escapes : Bool) : Reader (Option Text) := do
  if (← get).startsWith [quote, quote, quote] then return none
  let c ← any
  if escapes && c = '\\' then
    if ((← get).dropWhile isSpace).head? = some '\n' then
      let _ ← takeWhile isSpaceOrFeed
      return some []
    else return some [← escaped]
  else return some [c]

/-- A string on several lines. A line feed right behind the opening quotes does not belong to it;
one or two quotes right before the closing ones do. -/
def blockString (quote : Char) (escapes : Bool) : Reader Text := do
  expect [quote, quote, quote]
  let _ ← eat "\n"
  let pieces ← collect (blockPiece quote escapes)
  let quotes ← takeWhile (· = quote)
  guard (quotes.length ≤ 5)
  return pieces.flatten ++ quotes.drop 3

/-- A string between quotes of one kind. Only between double quotes are there escapes. -/
def quotedBy (quote : Char) : Reader Text := do
  if (← get).startsWith [quote, quote, quote] then blockString quote (quote = '"')
  else lineString quote (quote = '"')

end CatalogAdmin.Toml
