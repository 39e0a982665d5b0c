import ExporterAudit.Text.Basic

/-!
White space and line ends. White space is the ASCII blanks, the Unicode space separators, the two
Unicode line ends and the byte order mark; U+0085, U+180E and U+200B are not in it.
-/

namespace ExporterAudit.Text

/-- White space. -/
def isBlank (c : Char) : Bool :=
  let n := c.toNat
  (9 ≤ n && n ≤ 13) || n == 32 || n == 0xA0 || n == 0x1680 || (0x2000 ≤ n && n ≤ 0x200A) ||
    n == 0x2028 || n == 0x2029 || n == 0x202F || n == 0x205F || n == 0x3000 || n == 0xFEFF

/-- The characters that end a line of text: LF, CR and the two Unicode line ends. -/
def isLineEnd (c : Char) : Bool :=
  let n := c.toNat
  n == 10 || n == 13 || n == 0x2028 || n == 0x2029

/-- The text without the white space it begins with. -/
def trimStart (text : Text) : Text :=
  text.dropWhile isBlank

/-- The text without the white space it ends with. -/
def trimEnd (text : Text) : Text :=
  (text.reverse.dropWhile isBlank).reverse

/-- The text without white space at either end. -/
def trim (text : Text) : Text :=
  trimEnd (trimStart text)

end ExporterAudit.Text
