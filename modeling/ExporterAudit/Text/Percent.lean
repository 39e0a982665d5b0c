import ExporterAudit.Binary64.Numeral
import ExporterAudit.Text.Utf8

/-!
Percent escapes: `%` and two hexadecimal digits stand for a byte of the text in UTF-8.
-/

namespace ExporterAudit.Text.Percent

/-- The byte of two hexadecimal digits. -/
def byte? (a b : Char) : Option Nat :=
  Binary64.digitsValue? 16 0 [a, b]

/-- The bytes that a text stands for; a `%` that begins no escape is a plain character. -/
def bytes : Text → List Nat
  | [] => []
  | '%' :: a :: b :: rest =>
    match byte? a b with
    | some byte => byte :: bytes rest
    | none => charBytes '%' ++ bytes (a :: b :: rest)
  | c :: rest => charBytes c ++ bytes rest

/-- The text without escapes. -/
def decode (text : Text) : Text :=
  ofBytes (bytes text)

/-- Whether every `%` of a text begins an escape. -/
def isWellFormed : Text → Bool
  | [] => true
  | '%' :: a :: b :: rest => (byte? a b).isSome && isWellFormed rest
  | c :: rest => c != '%' && isWellFormed rest

/-- The text without escapes, if all are well formed and their bytes are those of a text. -/
def decode? (text : Text) : Option Text :=
  if isWellFormed text ∧ Text.bytes (decode text) = bytes text then some (decode text) else none

/-- The hexadecimal digit of a value below sixteen. -/
def digit (value : Nat) : Char :=
  if value < 10 then Char.ofNat ('0'.toNat + value) else Char.ofNat ('A'.toNat + (value - 10))

/-- The escape of a byte. -/
def escape (byte : Nat) : Text :=
  ['%', digit (byte / 16), digit (byte % 16)]

end ExporterAudit.Text.Percent
