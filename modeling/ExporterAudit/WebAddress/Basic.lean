import ExporterAudit.WebAddress.Host

/-!
Web addresses: which texts are complete addresses, with a scheme and, where the scheme wants one,
a host. A path, a query and a fragment are never refused.
-/

namespace ExporterAudit.WebAddress

/-- The schemes whose addresses need a host. -/
def hostedSchemes : List Text := ["http", "https", "ws", "wss", "ftp"]

/-- The text without controls and spaces at its ends, tabs and line ends. -/
def cleaned (text : Text) : Text :=
  let atEnd (c : Char) : Bool := isControl c || c == ' '
  let trimmed := ((text.dropWhile atEnd).reverse.dropWhile atEnd).reverse
  trimmed.filter fun c => !(c == '\t' || c == '\n' || c == '\r')

def isSchemeChar (c : Char) : Bool :=
  c.isAlphanum || c == '+' || c == '-' || c == '.'

/-- The scheme of an address in small letters, and what follows its colon. -/
def scheme? (text : Text) : Option (Text × Text) := do
  let start ← text.head?
  guard start.isAlpha
  match text.dropWhile isSchemeChar with
  | ':' :: rest => return ((text.takeWhile isSchemeChar).map Char.toLower, rest)
  | _ => none

/-- Cuts host and port at the first colon outside brackets. -/
def splitPort : (inBrackets : Bool) → Text → Text × Option Text
  | _, [] => ([], none)
  | inBrackets, c :: rest =>
    if c = ':' ∧ !inBrackets then
      ([], some rest)
    else
      let inside := if c = '[' then true else if c = ']' then false else inBrackets
      let (host, port) := splitPort inside rest
      (c :: host, port)

/-- Whether a text is a port or empty. -/
def isPort (text : Text) : Bool :=
  text.all Binary64.isDigit && Binary64.decimalValue text ≤ 65535

/-- What follows the last at sign, and whether there is one. -/
def afterCredentials (authority : Text) : Bool × Text :=
  (authority.contains '@', (authority.reverse.takeWhile (· ≠ '@')).reverse)

/-- Whether a text is an authority: credentials, a host and a port. Only an authority without
credentials and port can lack its host, and not where the scheme is known. -/
def isAuthority (known : Bool) (authority : Text) : Bool :=
  let (credentials, rest) := afterCredentials authority
  match splitPort false rest with
  | ([], none) => !credentials && !known
  | ([], some _) => false
  | (host, port) => isHost known host && port.all isPort

def isSlash (c : Char) : Bool :=
  c == '/' || c == '\\'

def endsAuthority (c : Char) : Bool :=
  c == '/' || c == '?' || c == '#'

/-- Whether a text is a letter for a drive and its mark. -/
def isDrive : Text → Bool
  | [letter, mark] => letter.isAlpha && (mark == ':' || mark == '|')
  | _ => false

/-- Whether a text can follow `file:`; only after two slashes it has a host, which may be empty. -/
def isFileRest : Text → Bool
  | a :: b :: rest =>
    if isSlash a && isSlash b then
      let host := rest.takeWhile fun c => !(isSlash c || endsAuthority c)
      host.isEmpty || isDrive host || isHost true host
    else
      true
  | _ => true

/-- Whether a text is a complete web address. -/
def isAbsolute (text : Text) : Bool :=
  match scheme? (cleaned text) with
  | none => false
  | some (scheme, rest) =>
    if hostedSchemes.contains scheme then
      let authority := (rest.dropWhile isSlash).takeWhile fun c => !(isSlash c || endsAuthority c)
      isAuthority true authority
    else if scheme = "file".toList then
      isFileRest rest
    else
      match rest with
      | '/' :: '/' :: rest => isAuthority false (rest.takeWhile (!endsAuthority ·))
      | _ => true

end ExporterAudit.WebAddress
