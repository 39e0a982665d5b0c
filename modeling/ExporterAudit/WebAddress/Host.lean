import ExporterAudit.Text.Percent
import ExporterAudit.WebAddress.DomainName

/-!
Hosts of web addresses: domain names, IPv4 addresses in their numeric spellings, IPv6 addresses in
brackets, and the free names that addresses of unknown schemes have.
-/

namespace ExporterAudit.WebAddress

def isControl (c : Char) : Bool :=
  c.toNat < 0x20

/-- What no host holds. -/
def isForbidden (c : Char) : Bool :=
  "\x00\t\n\r #/:<>?@[\\]^|".toList.contains c

/-- What no domain name holds. -/
def isForbiddenInDomain (c : Char) : Bool :=
  isForbidden c || isControl c || c == '%' || c.toNat == 0x7F

/-! ### IPv4 -/

/-- The digits of a part of a numeric address, and their base. -/
def radixDigits : Text → Nat × Text
  | '0' :: 'x' :: digits | '0' :: 'X' :: digits => (16, digits)
  | '0' :: digit :: digits => (8, digit :: digits)
  | digits => (10, digits)

/-- A part of a numeric address. -/
def addressPart? (text : Text) : Option Nat :=
  let (base, digits) := radixDigits text
  if text = [] then none else Binary64.digitsValue? base 0 digits

/-- The parts of a host; a point at its end does not count. -/
def hostParts (host : Text) : List Text :=
  let parts := Text.splitOn '.' host
  if 1 < parts.length ∧ parts.getLast? = some [] then parts.dropLast else parts

/-- Whether the last part of a host is a number, so that the whole must be an address. -/
def endsInNumber (host : Text) : Bool :=
  match (hostParts host).getLast? with
  | none => false
  | some last => (last ≠ [] && last.all Binary64.isDigit) || (addressPart? last).isSome

/-- Whether a host is an IPv4 address: up to four numbers of one byte, the last of which fills the
bytes that are left. -/
def isIpv4 (host : Text) : Bool :=
  let parts := hostParts host
  match parts.mapM addressPart? with
  | none => false
  | some numbers =>
    parts.length ≤ 4 && numbers.dropLast.all (· ≤ 255) &&
      numbers.getLast?.any (· < 256 ^ (5 - parts.length))

/-! ### IPv6 -/

/-- Whether a text is a decimal number of one byte without superfluous zeros. -/
def isByteNumeral (text : Text) : Bool :=
  text ≠ [] && text.all Binary64.isDigit && (text.length == 1 || text.head? != some '0') &&
    text.length ≤ 3 && Binary64.decimalValue text ≤ 255

/-- Whether a text is four decimal bytes between points. -/
def isDottedQuad (text : Text) : Bool :=
  let parts := Text.splitOn '.' text
  parts.length == 4 && parts.all isByteNumeral

/-- Whether a text is one to four hexadecimal digits. -/
def isPiece (text : Text) : Bool :=
  text ≠ [] && text.length ≤ 4 && (Binary64.digitsValue? 16 0 text).isSome

/-- How many 16-bit pieces texts between colons are; the last may be an IPv4 address where
`mayEnd` holds. -/
def pieceCount? (mayEnd : Bool) : List Text → Option Nat
  | [] => some 0
  | text :: rest =>
    if isPiece text then
      (pieceCount? mayEnd rest).map (· + 1)
    else if mayEnd && rest.isEmpty && isDottedQuad text then
      some 2
    else
      none

/-- The pieces of one side of a double colon. -/
def sidePieces (side : Text) : List Text :=
  if side = [] then [] else Text.splitOn ':' side

/-- Cuts a text at its first double colon. -/
def splitDoubleColon? : Text → Option (Text × Text)
  | [] => none
  | [_] => none
  | a :: b :: rest =>
    if a = ':' ∧ b = ':' then some ([], rest)
    else (splitDoubleColon? (b :: rest)).map fun (before, after) => (a :: before, after)

/-- Whether a text is an IPv6 address: eight pieces, or fewer with one double colon for those that
are left out. -/
def isIpv6 (text : Text) : Bool :=
  match splitDoubleColon? text with
  | none => pieceCount? true (sidePieces text) == some 8
  | some (before, after) =>
    match pieceCount? false (sidePieces before), pieceCount? true (sidePieces after) with
    | some m, some n => m + n ≤ 7
    | _, _ => false

/-! ### Domain names -/

/-- Whether a text is a domain name or an IPv4 address. -/
def isDomain (text : Text) : Bool :=
  match domainName? (Text.Percent.decode text) with
  | none => false
  | some host =>
    host ≠ [] && !host.any isForbiddenInDomain && (!endsInNumber host || isIpv4 host)

/-- Whether a text in brackets, the first of which is gone, is an IPv6 address. -/
def isBracketed (text : Text) : Bool :=
  text.getLast? == some ']' && isIpv6 text.dropLast

/-- Whether a text is a host; schemes that are known take domain names only. -/
def isHost (known : Bool) : Text → Bool
  | '[' :: rest => isBracketed rest
  | host => if known then isDomain host else !host.any isForbidden

end ExporterAudit.WebAddress
