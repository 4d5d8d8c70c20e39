import CatalogAdmin.Domain.Composition
import CatalogAdmin.Domain.Direction
import CatalogAdmin.Domain.Joining
import CatalogAdmin.Domain.Mapping
import CatalogAdmin.Domain.Punycode

/-!
# Domain names

A domain name is written in ASCII: `ascii?` makes capitals small and other characters what they
become in names, brings the name to normal form, and writes the labels that are still not ASCII in
punycode. A name that could be taken for another one has no such form.
-/

namespace CatalogAdmin.Domain

open Punycode (isAscii)

/-- What a label in punycode begins with. -/
def punycodeMark : Text := "xn--"

/-- A label of a domain name. -/
structure Label where
  /-- How it is written. -/
  ascii : Text
  /-- What it stands for. -/
  shown : Text
deriving DecidableEq, Repr

/-- How many characters a label may have to be written in punycode. -/
def encodeLimit : Nat := 1000

/-- How many characters a label in punycode may have behind its mark. -/
def decodeLimit : Nat := 2000

/-- Whether a text may be what a label in punycode stands for: it needs punycode, and writing the
label would give this text. -/
def needsPunycode (t : Text) : Bool :=
  !t.all isAscii && !t.startsWith punycodeMark && t.all isStable && normalize t = t

/-- The label a text writes. -/
def Label.ofText? (t : Text) : Option Label := do
  match t.after? punycodeMark with
  | some digits =>
    guard (digits.length ≤ decodeLimit && digits.getLast? ≠ some '-')
    let shown ← Punycode.decode? digits
    guard (needsPunycode shown)
    return { ascii := t, shown }
  | none =>
    if t.all isAscii then return { ascii := t, shown := t }
    guard (t.length ≤ encodeLimit)
    return { ascii := punycodeMark ++ Punycode.encode t, shown := t }

/-- Whether a label begins with no mark and holds joiners only where they show. -/
def Label.isAdmitted (label : Label) : Bool :=
  !label.shown.head?.any isMark && joinersFit [] label.shown

/-- The labels of a domain name. -/
def labels? (name : Text) : Option (List Label) := do
  let mapped ← name.mapM mapping?
  let normal : Text := normalize mapped.flatten
  (normal.fields '.').mapM Label.ofText?

/-- Whether a domain name is ASCII and has no label in punycode. -/
def isPlain (name : Text) : Bool :=
  name.all isAscii && (name.lower.fields '.').all (!Text.startsWith · punycodeMark)

/-- The form of a domain name in ASCII. -/
def ascii? (name : Text) : Option Text := do
  if isPlain name then return name.lower
  let labels ← labels? name
  guard (labels.all Label.isAdmitted)
  guard (labels.all (isOneWay ·.shown) || !labels.any (isBidirectional ·.shown))
  return Text.join "." (labels.map Label.ascii)

example : ascii? "WWW.Example.org" = some ("www.example.org" : Text) := by decide
example : isPlain "a.XN--b" = false := by decide

end CatalogAdmin.Domain
