import CatalogAdmin.Text.Blank
import CatalogAdmin.Text.Digits

/-!
# Durations

A duration is a number of nanoseconds. It has two written forms. `Duration.decimal` is one number in
the largest unit that leaves a whole part, for messages: `1.5s`, `50ms`. `Duration.spans` is a sum
of whole spans, for settings files: `1m 30s`; `Duration.parse?` reads spans in any order, by several
names and with fractions.
-/

namespace CatalogAdmin

/-- A span of time. -/
structure Duration where
  nanoseconds : Nat
deriving DecidableEq, Repr

namespace Duration

/-- A number of milliseconds. -/
def milliseconds (n : Nat) : Duration := ⟨n * 1000000⟩

/-- A number of seconds. -/
def seconds (n : Nat) : Duration := ⟨n * 1000000000⟩

/-- The whole seconds of a duration. -/
def wholeSeconds (d : Duration) : Nat := d.nanoseconds / 1000000000

/-! ## One number -/

/-- The digits behind the point of a fraction with `width` places, without zeros at the end. -/
def fractionDigits (width fraction : Nat) : Text :=
  let digits := Text.ofNat fraction
  Text.dropEnd (· = '0') (List.replicate (width - digits.length) '0' ++ digits)

/-- A duration in one unit, given the unit's size as a power of ten in nanoseconds. -/
def inUnit (d : Duration) (places : Nat) (unit : Text) : Text :=
  let fraction := fractionDigits places (d.nanoseconds % Nat.pow 10 places)
  Text.ofNat (d.nanoseconds / Nat.pow 10 places)
    ++ (if fraction = [] then [] else '.' :: fraction) ++ unit

/-- A duration as one number in the largest unit that leaves a whole part. -/
def decimal (d : Duration) : Text :=
  if Nat.pow 10 9 ≤ d.nanoseconds then d.inUnit 9 "s"
  else if Nat.pow 10 6 ≤ d.nanoseconds then d.inUnit 6 "ms"
  else if Nat.pow 10 3 ≤ d.nanoseconds then d.inUnit 3 "µs"
  else Text.ofNat d.nanoseconds ++ "ns"

example : (milliseconds 1500).decimal = "1.5s" := by decide
example : (milliseconds 50).decimal = "50ms" := by decide
example : (⟨1001000⟩ : Duration).decimal = "1.001ms" := by decide

/-! ## Spans -/

/-- The seconds of a year and of a month, as spans count them: 365.25 and 30.44 days. -/
def yearSeconds : Nat := 31557600

@[inherit_doc yearSeconds]
def monthSeconds : Nat := 2630016

/-- A span, unless it is of length zero. -/
def span (n : Nat) (unit : Text) : List Text := if n = 0 then [] else [Text.ofNat n ++ unit]

/-- A span whose unit takes an `s` from two on. -/
def spanPlural (n : Nat) (unit : Text) : List Text := span n (if 1 < n then unit ++ "s" else unit)

/-- A duration as a sum of spans, longest unit first. -/
def spans (d : Duration) : Text :=
  let seconds := d.wholeSeconds
  let nanoseconds := d.nanoseconds % 1000000000
  let inYear := seconds % yearSeconds
  let inMonth := inYear % monthSeconds
  let inDay := inMonth % 86400
  let written :=
    spanPlural (seconds / yearSeconds) "year" ++ spanPlural (inYear / monthSeconds) "month"
      ++ spanPlural (inMonth / 86400) "day" ++ span (inDay / 3600) "h"
      ++ span (inDay % 3600 / 60) "m" ++ span (inDay % 60) "s"
      ++ span (nanoseconds / 1000000) "ms" ++ span (nanoseconds / 1000 % 1000) "us"
      ++ span (nanoseconds % 1000) "ns"
  if written = [] then "0s" else Text.join " " written

/-! ## Reading spans -/

/-- The length of a unit: nanoseconds below a second, else whole seconds. -/
inductive SpanUnit
  | nanoseconds (n : Nat)
  | seconds (n : Nat)
deriving DecidableEq, Repr

/-- The units by name. Case matters: `m` is a minute and `M` a month. -/
def unitNames : List (List Text × SpanUnit) :=
  [(["nanos", "nsec", "ns"], .nanoseconds 1),
    (["usec", "us", "µs"], .nanoseconds 1000),
    (["millis", "msec", "ms"], .nanoseconds 1000000),
    (["seconds", "second", "secs", "sec", "s"], .seconds 1),
    (["minutes", "minute", "min", "mins", "m"], .seconds 60),
    (["hours", "hour", "hr", "hrs", "h"], .seconds 3600),
    (["days", "day", "d"], .seconds 86400),
    (["weeks", "week", "wk", "wks", "w"], .seconds 604800),
    (["months", "month", "M"], .seconds monthSeconds),
    (["years", "year", "yr", "yrs", "y"], .seconds yearSeconds)]

/-- The unit of a name. -/
def unit? (name : Text) : Option SpanUnit :=
  (unitNames.find? fun (names, _) => names.contains name).map (·.2)

/-- The largest count a span, and a sum of spans, may reach. -/
def countLimit : Nat := Nat.pow 2 64 - 1

/-- A number, unless it exceeds what a count may reach. -/
def within? (n : Nat) : Option Nat := if n ≤ countLimit then some n else none

/-- The sum of spans so far: whole seconds, and nanoseconds below one second. -/
abbrev Sum := Nat × Nat

/-- The sum with seconds and nanoseconds added. -/
def addTo (sum : Sum) (seconds nanoseconds : Nat) : Option Sum := do
  let nanoseconds ← within? (sum.2 + nanoseconds)
  return (← within? (sum.1 + seconds + nanoseconds / 1000000000), nanoseconds % 1000000000)

/-- What stands behind the point of a number, as a fraction: `25` is 25 of 100. -/
structure Fraction where
  numerator : Nat
  denominator : Nat
deriving DecidableEq, Repr

/-- A fraction with one more digit. -/
def Fraction.append? (f : Fraction) (digit : Nat) : Option Fraction := do
  return ⟨← within? (f.numerator * 10 + digit), ← within? (f.denominator * 10)⟩

/-- A fraction of `size` smallest parts, if that is a whole number of them. -/
def Fraction.of? (f : Fraction) (size : Nat) : Option Nat := do
  let parts ← within? (f.numerator * size)
  if parts % f.denominator = 0 then some (parts / f.denominator) else none

/-- The sum with so many units added. -/
def addUnits (sum : Sum) (n : Nat) : SpanUnit → Option Sum
  | .nanoseconds size => do addTo sum 0 (← within? (n * size))
  | .seconds size => do addTo sum (← within? (n * size)) 0

/-- The sum with a fraction of a unit added. Up to a minute the fraction has to come to whole
nanoseconds, from an hour on to whole seconds; of a nanosecond there is none. -/
def addFraction (sum : Sum) (f : Fraction) : SpanUnit → Option Sum
  | .nanoseconds size => do
    guard (1 < size)
    addTo sum 0 (← f.of? size)
  | .seconds size => do
    if size ≤ 60 then addTo sum 0 (← f.of? (size * 1000000000)) else addTo sum (← f.of? size) 0

/-- The sum with a span added: a number of units, possibly with a fraction, and the unit's name. -/
def addSpan (sum : Sum) (n : Nat) (fraction : Option Fraction) (name : Text) : Option Sum := do
  let unit ← unit? name
  let sum ← addUnits sum n unit
  match fraction with
  | none => return sum
  | some f => addFraction sum f unit

/-- Where a reader of spans stands: before a number, in one, behind its point, in the name of a
unit, or behind a complete span. -/
inductive Place
  | start
  | number (n : Nat)
  | fraction (n : Nat) (f : Fraction)
  | name (n : Nat) (fraction : Option Fraction) (read : Text)
  | done

/-- Whether a character may stand in the name of a unit. -/
def isUnitChar (c : Char) : Bool := c.isAlpha || c = 'µ'

/-- Reads spans: a number, whose digits white space may part, then a unit's name, which white space
or the next number ends. Behind the point of a number there is at least one digit. -/
def readSpans (sum : Sum) : Place → Text → Option Sum
  | .start, [] => none
  | .number _, [] => none
  | .fraction .., [] => none
  | .name n fraction read, [] => addSpan sum n fraction read
  | .done, [] => some sum
  | .start, c :: rest =>
    match Text.digitIn? 10 c with
    | some d => readSpans sum (.number d) rest
    | none => if Text.isBlank c then readSpans sum .start rest else none
  | .number n, c :: rest =>
    match Text.digitIn? 10 c with
    | some d => do readSpans sum (.number (← within? (n * 10 + d))) rest
    | none =>
      if Text.isBlank c then readSpans sum (.number n) rest
      else if isUnitChar c then readSpans sum (.name n none [c]) rest
      else if c = '.' then readSpans sum (.fraction n ⟨0, 1⟩) rest
      else none
  | .fraction n f, c :: rest =>
    match Text.digitIn? 10 c with
    | some d => do readSpans sum (.fraction n (← f.append? d)) rest
    | none =>
      if Text.isBlank c then readSpans sum (.fraction n f) rest
      else if isUnitChar c && 1 < f.denominator then readSpans sum (.name n (some f) [c]) rest
      else none
  | .name n fraction read, c :: rest =>
    match Text.digitIn? 10 c with
    | some d => do readSpans (← addSpan sum n fraction read) (.number d) rest
    | none =>
      if Text.isBlank c then do readSpans (← addSpan sum n fraction read) .done rest
      else if isUnitChar c then readSpans sum (.name n fraction (read ++ [c])) rest
      else none
  | .done, c :: rest =>
    match Text.digitIn? 10 c with
    | some d => readSpans sum (.number d) rest
    | none => if Text.isBlank c then readSpans sum .done rest else none

/-- Reads a duration written as spans. No time at all may be written `0`, without a unit. -/
def parse? (t : Text) : Option Duration :=
  if t = "0" then some ⟨0⟩
  else (readSpans (0, 0) .start t).map fun (seconds, nanoseconds) =>
    ⟨seconds * 1000000000 + nanoseconds⟩

example : parse? "1m 1.5s" = some (milliseconds 61500) ∧ parse? "1.0001h" = none := by decide

end Duration

end CatalogAdmin
