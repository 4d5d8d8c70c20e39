import CatalogAdmin.Text.Digits

/-!
# Punycode

Any text can be written in ASCII. Its own ASCII characters come first, then, behind a hyphen, one
number for each of the others, which says where that character is put in. The others are put in by
their code points, and those of one code point from left to right, so that a number need only count
how many places are passed: every place of the text once for each code point.

A number is written with the least digit first. How much a digit counts depends on a bias, which
follows the size of the numbers before; a digit below its threshold is the last one of a number.
-/

namespace CatalogAdmin.Domain.Punycode

/-- The first code point that is not ASCII. -/
def firstOther : Nat := 128

/-- Whether a character is ASCII. -/
def isAscii (c : Char) : Bool := c.toNat < firstOther

/-! ## Digits -/

/-- How many digits there are: the letters, then the decimal digits. -/
def digitCount : Nat := 36

/-- The digit a character stands for. -/
def digit? (c : Char) : Option Nat :=
  if c.isDigit then some (c.toNat - '0'.toNat + 26)
  else if c.isAlpha then some (c.toLower.toNat - 'a'.toNat)
  else none

/-- The character of a digit. -/
def digitChar (d : Nat) : Char := Char.ofNat (if d < 26 then 'a'.toNat + d else '0'.toNat + d - 26)

/-- The least digit behind which a number goes on, by the place of the digit in the number. -/
def threshold (bias place : Nat) : Nat := max 1 (min 26 (digitCount * (place + 1) - bias))

theorem threshold_pos (bias place : Nat) : 0 < threshold bias place := by
  unfold threshold; omega

/-- What the digits behind a digit count for. -/
def weightBehind (bias place : Nat) : Nat := digitCount - threshold bias place

/-! ## Bias -/

/-- The bias before the first number. -/
def firstBias : Nat := 72

/-- The bias for numbers of about this size. -/
def biasFor (size : Nat) : Nat :=
  if 455 < size then digitCount + biasFor (size / 35) else digitCount * size / (size + 38)
termination_by size

/-- The bias behind a number. The first number is far greater than the next are expected to be, and
numbers grow with the text, which now has so many characters. -/
def biasBehind (number length : Nat) (isFirst : Bool) : Nat :=
  let expected := number / if isFirst then 700 else 2
  biasFor (expected + expected / length)

/-! ## Reading -/

/-- A text that is being read. -/
structure Decoding where
  /-- What is read so far. -/
  text : Text
  codePoint : Nat := firstOther
  /-- The first place that is not passed. -/
  position : Nat := 0
  bias : Nat := firstBias
  /-- The digits of a number whose last digit is still to come. -/
  number : Nat := 0
  /-- How many there are of them. -/
  place : Nat := 0
  /-- What the next digit counts for. -/
  weight : Nat := 1
deriving DecidableEq, Repr

/-- Numbers are below this one. -/
def numberLimit : Nat := Nat.pow 2 32

/-- Puts in the character a number leads to. -/
def Decoding.insert? (d : Decoding) (number : Nat) : Option Decoding := do
  let length := d.text.length + 1
  let passed := d.position + number
  guard (passed < numberLimit)
  let codePoint := d.codePoint + passed / length
  let c ← Text.ofCodePoint? codePoint
  return {
    text := d.text.insertIdx (passed % length) c
    codePoint
    position := passed % length + 1
    bias := biasBehind number length (d.position = 0) }

/-- Reads a digit. -/
def Decoding.next? (d : Decoding) (c : Char) : Option Decoding := do
  let digit ← digit? c
  let number := d.number + digit * d.weight
  if digit < threshold d.bias d.place then d.insert? number
  else
    let weight := d.weight * weightBehind d.bias d.place
    guard (weight < numberLimit)
    return { d with number, place := d.place + 1, weight }

/-- The ASCII characters of a text that is written in punycode, and the digits behind them. A hyphen
that nothing stands before is left among the digits. -/
def parts (t : Text) : Text × Text :=
  let digits : Text := (t.reverse.takeWhile (· ≠ '-')).reverse
  let basic : Text := t.take (t.length - digits.length - 1)
  if basic.isEmpty then ([], t) else (basic, digits)

/-- The text that is written in punycode. -/
def decode? (t : Text) : Option Text := do
  let (basic, digits) := parts t
  guard (basic.all isAscii)
  let read ← digits.foldlM Decoding.next? { text := basic }
  guard (read.place = 0)
  return read.text

/-! ## Writing -/

/-- The digits of a number, from this place on. -/
def digitsFrom (bias place number : Nat) : Text :=
  if number < threshold bias place then [digitChar number]
  else
    let more := number - threshold bias place
    digitChar (threshold bias place + more % weightBehind bias place)
      :: digitsFrom bias (place + 1) (more / weightBehind bias place)
termination_by number
decreasing_by
  have := threshold_pos bias place
  have := Nat.div_le_self (number - threshold bias place) (weightBehind bias place)
  show (number - threshold bias place) / weightBehind bias place < number
  omega

/-- A text that is being written. -/
structure Encoding where
  written : Text
  /-- How many characters of the text are written. -/
  length : Nat
  isFirst : Bool := true
  codePoint : Nat := firstOther
  bias : Nat := firstBias
  /-- How many places are passed since the last number. -/
  passed : Nat := 0
deriving DecidableEq, Repr

/-- Passes a character on the way through the text, and writes it if its code point has come. -/
def Encoding.pass (e : Encoding) (c : Char) : Encoding :=
  if c.toNat < e.codePoint then { e with passed := e.passed + 1 }
  else if c.toNat = e.codePoint then
    { e with
      written := e.written ++ digitsFrom e.bias 0 e.passed
      length := e.length + 1
      isFirst := false
      bias := biasBehind e.passed (e.length + 1) e.isFirst
      passed := 0 }
  else e

/-- Writes the characters of the text with a code point, which exceeds those before. -/
def Encoding.next (t : Text) (e : Encoding) (codePoint : Nat) : Encoding :=
  let skipped := (codePoint - e.codePoint) * (e.length + 1)
  let e := t.foldl Encoding.pass { e with codePoint, passed := e.passed + skipped }
  { e with codePoint := codePoint + 1, passed := e.passed + 1 }

/-- A text in punycode. -/
def encode (t : Text) : Text :=
  let basic := t.filter isAscii
  let codePoints := ((t.filter (!isAscii ·)).map Char.toNat).eraseDups.mergeSort (· ≤ ·)
  let written := if basic.isEmpty then [] else basic ++ ['-']
  (codePoints.foldl (Encoding.next t) { written, length := basic.length }).written

example : decode? "bcher-kva" = some ("bücher" : Text) ∧ decode? "-kva" = none := by decide +kernel
example : encode "bücher" = "bcher-kva" := by cbv

end CatalogAdmin.Domain.Punycode
