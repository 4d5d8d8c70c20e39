import CatalogAdmin.Url.Host

/-!
# URLs

A URL is read whole or not at all, without a base it could be relative to. Some schemes are special:
they always have a host, take a backslash for a slash, and do not care how many slashes stand before
the host.
-/

namespace CatalogAdmin

/-- A URL: what is behind a `#` is dropped. -/
structure Url where
  scheme : Text
  host : Text
  port : Option Nat
  path : Text
  query : Option Text
deriving DecidableEq, Repr

namespace Url

/-- The special schemes but `file`. -/
def specialSchemes : List Text := ["http", "https", "ws", "wss", "ftp"]

/-- A text without the control characters and spaces around it, and without any tabs and line
ends. -/
def tidy (t : Text) : Text :=
  ((t.dropWhile (· ≤ ' ')) |> Text.dropEnd (· ≤ ' ')).filter fun c => c ∉ ['\t', '\n', '\r']

/-- The scheme a text begins with, in small letters, and what is behind its colon. -/
def scheme? (t : Text) : Option (Text × Text) :=
  let scheme : Text := t.takeWhile fun c => c.isAlphanum || c ∈ ['+', '-', '.']
  match scheme, t.drop scheme.length with
  | c :: _, ':' :: rest => if c.isAlpha then some (scheme.lower, rest) else none
  | _, _ => none

/-- Whether a character takes the part of a slash. -/
def isSlash (special : Bool) (c : Char) : Bool := c = '/' || (special && c = '\\')

/-- Whether a character ends the part of a URL that names the host. -/
def endsAuthority (special : Bool) (c : Char) : Bool := isSlash special c || c = '?' || c = '#'

/-- The greatest number of a port. -/
def portLimit : Nat := 65535

/-- The host and the port in a text with nothing before them, and a colon between them that does not
stand in brackets. -/
def splitPort (t : Text) : Text × Option Text := go false t
where
  /-- Goes on inside or outside brackets. -/
  go (inside : Bool) : Text → Text × Option Text
    | [] => ([], none)
    | c :: rest =>
      if c = ':' && !inside then ([], some rest)
      else
        let (host, port) := go (if c = '[' then true else if c = ']' then false else inside) rest
        (c :: host, port)

/-- The port that digits name; there need not be any. -/
def port? (digits : Text) : Option (Option Nat) :=
  if digits.isEmpty then some none
  else if digits.all Char.isDigit then do
    let n ← Text.numberIn? 10 digits
    if n ≤ portLimit then some (some n) else none
  else none

/-- Whether there may be no host between what names a user and what is behind. Special URLs always
have a host, and so have those with a user or a port. An `@` with nothing before it names no user if
it is the last character of the URL; one behind a colon never does. -/
def mayLackHost (special : Bool) (user : Text) (port : Option Text) (behind : Text) : Bool :=
  !special && port.isNone
    && (user.isEmpty || user = ":@" || (user = "@" && behind.isEmpty))

/-- The host, the port and what is left of the part of a URL that names the host. A user may be
named before the last `@`. A backslash ends the port. -/
def authority? (special : Bool) (t behind : Text) : Option (Text × Option Nat × Text) := do
  let user : Text := (t.reverse.dropWhile (· ≠ '@')).reverse
  let (host, port) := splitPort (t.drop user.length)
  guard (!host.isEmpty || mayLackHost special user port behind)
  let host ← if special then domain? host else opaqueHost? host
  let digits := (port.getD []).takeWhile (· ≠ '\\')
  return (host, ← port? digits, (port.getD []).drop digits.length)

/-- The segments of a path, with `.` and `..` carried out. -/
def resolveDots : List Text → List Text → List Text
  | done, [] => done.reverse
  | done, segment :: rest =>
    let plain := (Text.decodeLossy (decode segment))
    if plain = ".." then
      resolveDots (if rest.isEmpty then [] :: done.drop 1 else done.drop 1) rest
    else if plain = "." then resolveDots (if rest.isEmpty then [] :: done else done) rest
    else resolveDots (segment :: done) rest

/-- The path of a special URL, encoded. -/
def pathOf (t : Text) : Text :=
  let slashed := t.map fun c => if c = '\\' then '/' else c
  let inner : Text := if slashed.head? = some '/' then slashed.drop 1 else slashed
  '/' :: Text.join "/" ((resolveDots [] (inner.fields '/')).map (encode keptInPath))

/-- The URL with this scheme and host, and a path and a query in what is behind them. -/
def withRest (special : Bool) (scheme host : Text) (port : Option Nat) (t : Text) : Url :=
  let t := t.takeWhile (· ≠ '#')
  let path := t.takeWhile (· ≠ '?')
  { scheme, host, port,
    path := if special then pathOf path else path,
    query := (Text.after? (t.drop path.length) "?").map (encode keptInQuery) }

/-- A URL with a host. -/
def withAuthority? (special : Bool) (scheme t : Text) : Option Url := do
  let authority := t.takeWhile (!endsAuthority special ·)
  let behind := t.drop authority.length
  let (host, port, more) ← authority? special authority behind
  return withRest special scheme host port (more ++ behind)

/-- Whether a text is the letter of a drive with its mark. -/
def isDrive : Text → Bool
  | [c, mark] => c.isAlpha && (mark = ':' || mark = '|')
  | _ => false

/-- A URL of a file. A host may be named, but never with a port. -/
def file? (t : Text) : Option Url := do
  match t with
  | a :: b :: rest =>
    if isSlash true a && isSlash true b then
      let host := rest.takeWhile (!endsAuthority true ·)
      let host ← if host.isEmpty || isDrive host then some [] else domain? host
      return withRest true "file" host none (rest.dropWhile (!endsAuthority true ·))
  | _ => pure ()
  return withRest true "file" [] none t

/-- Reads a URL. -/
def parse? (t : Text) : Option Url := do
  let (scheme, rest) ← scheme? (tidy t)
  if scheme = "file" then file? rest
  else if specialSchemes.contains scheme then
    withAuthority? true scheme (rest.dropWhile (isSlash true))
  else match rest.after? "//" with
    | some rest => withAuthority? false scheme rest
    | none => return withRest false scheme [] none rest

example : (parse? " HTTP:a//b/../c d?x#y ").map (fun u => (u.scheme, u.host, u.path, u.query))
    = some (("http" : Text), ("a" : Text), ("//c%20d" : Text), some ("x" : Text)) := by decide
example : parse? "localhost" = none ∧ parse? "http://" = none ∧ parse? "http://h:99999" = none := by
  decide

end Url

end CatalogAdmin
