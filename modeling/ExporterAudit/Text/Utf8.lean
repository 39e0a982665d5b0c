import ExporterAudit.Text.Basic

/-!
Text as bytes in UTF-8. Reading replaces each longest beginning of a character that is not
completed, and each byte that begins none, by U+FFFD.
-/

namespace ExporterAudit.Text

/-- The bytes of a character. -/
def charBytes (c : Char) : List Nat :=
  let n := c.toNat
  if n < 0x80 then [n]
  else if n < 0x800 then [0xC0 + n / 0x40, 0x80 + n % 0x40]
  else if n < 0x10000 then [0xE0 + n / 0x1000, 0x80 + n / 0x40 % 0x40, 0x80 + n % 0x40]
  else [0xF0 + n / 0x40000, 0x80 + n / 0x1000 % 0x40, 0x80 + n / 0x40 % 0x40, 0x80 + n % 0x40]

/-- The bytes of a text. -/
def bytes (text : Text) : List Nat :=
  text.flatMap charBytes

/-- What stands for bytes that are no character. -/
def replacement : Char := '\uFFFD'

/-- A character of which bytes are still to come: its bits so far, the number of missing bytes,
and the range of the next one. -/
structure Incomplete where
  value : Nat
  missing : Nat
  least : Nat
  greatest : Nat

/-- What a byte is that does not continue a character: characters that are complete with it, or a
beginning. The ranges leave out overlong forms, surrogates and what lies beyond U+10FFFF. -/
def beginByte (byte : Nat) : Text × Option Incomplete :=
  if byte < 0x80 then ([Char.ofNat byte], none)
  else if byte < 0xC2 then ([replacement], none)
  else if byte < 0xE0 then ([], some ⟨byte - 0xC0, 1, 0x80, 0xBF⟩)
  else if byte < 0xF0 then
    let least := if byte = 0xE0 then 0xA0 else 0x80
    let greatest := if byte = 0xED then 0x9F else 0xBF
    ([], some ⟨byte - 0xE0, 2, least, greatest⟩)
  else if byte < 0xF5 then
    let least := if byte = 0xF0 then 0x90 else 0x80
    let greatest := if byte = 0xF4 then 0x8F else 0xBF
    ([], some ⟨byte - 0xF0, 3, least, greatest⟩)
  else ([replacement], none)

/-- The text of bytes after those of a character that is not complete. -/
def ofBytesFrom : Option Incomplete → List Nat → Text
  | none, [] => []
  | some _, [] => [replacement]
  | none, byte :: rest =>
    let (complete, state) := beginByte byte
    complete ++ ofBytesFrom state rest
  | some { value, missing, least, greatest }, byte :: rest =>
    if least ≤ byte ∧ byte ≤ greatest then
      let value := value * 0x40 + (byte - 0x80)
      if missing ≤ 1 then
        Char.ofNat value :: ofBytesFrom none rest
      else
        ofBytesFrom (some ⟨value, missing - 1, 0x80, 0xBF⟩) rest
    else
      let (complete, state) := beginByte byte
      replacement :: complete ++ ofBytesFrom state rest

/-- The text of bytes. -/
def ofBytes (bytes : List Nat) : Text :=
  ofBytesFrom none bytes

end ExporterAudit.Text
