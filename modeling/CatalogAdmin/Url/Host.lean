import CatalogAdmin.Domain.Name
import CatalogAdmin.Url.Encoding

/-!
# Hosts

Which texts name a host: an IPv6 address in brackets, an IPv4 address in any of its spellings, or a
domain, which is brought into its ASCII form. A domain whose last label is a number has to be an
IPv4 address.
-/

namespace CatalogAdmin.Url

/-! ## IPv4 -/

/-- What a number in an IPv4 address is: `none` if it is no number. It is decimal, hexadecimal
behind `0x`, or octal behind a zero; nothing behind such a mark is zero. -/
def ipv4Number? (t : Text) : Option Nat :=
  match t with
  | [] => none
  | '0' :: 'x' :: rest => behindMark 16 rest
  | '0' :: 'X' :: rest => behindMark 16 rest
  | '0' :: c :: rest => behindMark 8 (c :: rest)
  | _ => Text.numberIn? 10 t
where
  /-- A number behind the mark of its base. -/
  behindMark (base : Nat) (t : Text) : Option Nat :=
    if t.isEmpty then some 0 else Text.numberIn? base t

/-- The labels of a domain. A point at its end does not start another one. -/
def labels (domain : Text) : List Text :=
  let all := domain.fields '.'
  if 1 < all.length && all.getLast? = some [] then all.dropLast else all

/-- Whether the last label of a domain is a number. -/
def endsInNumber (domain : Text) : Bool :=
  match (labels domain).getLast? with
  | none => false
  | some last => (last ≠ [] && last.all Char.isDigit) || (ipv4Number? last).isSome

/-- Whether a domain is an IPv4 address: up to four numbers, each below 256 but the last, which
fills the places that are left. -/
def isIpv4 (domain : Text) : Bool :=
  match (labels domain).mapM ipv4Number? with
  | none => false
  | some numbers =>
    numbers.length ≤ 4 && numbers.dropLast.all (· < 256)
      && numbers.getLast?.all (· < Nat.pow 256 (5 - numbers.length))

/-! ## IPv6 -/

/-- Whether a text is four decimal numbers below 256 without leading zeros. -/
def isDottedQuad (t : Text) : Bool :=
  let parts := t.fields '.'
  parts.length = 4 && parts.all fun p =>
    (p.length = 1 || p.head? ≠ some '0') && p.all Char.isDigit
      && (Text.numberIn? 10 p).any (· < 256)

/-- How many groups of an IPv6 address some texts with colons between them make, the last of which
may be an IPv4 address. -/
def groupCount? (last : Bool) (t : Text) : Option Nat :=
  if t.isEmpty then some 0 else go (t.fields ':')
where
  /-- The groups of some texts. -/
  go : List Text → Option Nat
    | [] => some 0
    | g :: rest =>
      if 1 ≤ g.length && g.length ≤ 4 && g.all (Text.isDigitIn 16) then (go rest).map (· + 1)
      else if last && rest.isEmpty && isDottedQuad g then some 2
      else none

/-- Whether a text is an IPv6 address: eight groups, or fewer with `::` in one place. -/
def isIpv6 (t : Text) : Bool :=
  match t.cut "::" with
  | none => groupCount? true t = some 8
  | some (before, behind) =>
    match groupCount? false before, groupCount? true behind with
    | some m, some n => m + n ≤ 7
    | _, _ => false

/-! ## Hosts -/

/-- The characters that no host may hold. -/
def hostBreakers : Text :=
  ['\x00', '\t', '\n', '\r', ' ', '#', '/', ':', '<', '>', '?', '@', '[', '\\', ']', '^', '|']

/-- Whether a character may stand in a domain. -/
def isDomainChar (c : Char) : Bool :=
  !(c ∈ hostBreakers || c ≤ '\x1f' || c = '%' || c = '\x7f' || c = '\ufffd')

/-- Whether a text in brackets is an IPv6 address. -/
def isBracketed (t : Text) : Bool := t.getLast? = some ']' && isIpv6 (t.drop 1).dropLast

/-- The host a text names, for schemes that go by domains. -/
def domain? (t : Text) : Option Text :=
  if t.head? = some '[' then if isBracketed t then some t.lower else none
  else
    match Domain.ascii? (Text.decodeLossy (decode t)) with
    | none => none
    | some domain =>
      if domain.isEmpty || !domain.all isDomainChar then none
      else if endsInNumber domain && !isIpv4 domain then none
      else some domain

/-- The host a text names, for schemes that give hosts no meaning. -/
def opaqueHost? (t : Text) : Option Text :=
  if t.head? = some '[' then if isBracketed t then some t.lower else none
  else if t.any (· ∈ hostBreakers) then none
  else some t

example : domain? "0x7f.1" = some ("0x7f.1" : Text) ∧ domain? "1.2.3.256" = none := by decide
example : isIpv6 "::ffff:1.2.3.4" = true ∧ isIpv6 "1::2::3" = false := by decide

end CatalogAdmin.Url
