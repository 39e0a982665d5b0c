import ExporterAudit.Document
import ExporterAudit.Text.Blank
import ExporterAudit.Text.Units

/-!
Reading JSON text into data trees. Of equal member names the last wins, in the place of the first;
a surrogate escape without its partner is read as U+FFFD.
-/

namespace ExporterAudit.Json

/-- The white space of the format. -/
def isSpace (c : Char) : Bool :=
  c == ' ' || c == '\t' || c == '\n' || c == '\r'

def skipSpace (text : Text) : Text :=
  text.dropWhile isSpace

/-- The value of four hexadecimal digits, and the rest. -/
def hexUnit? : Text → Option (Nat × Text)
  | a :: b :: c :: d :: rest =>
    (Binary64.digitsValue? 16 0 [a, b, c, d]).map (·, rest)
  | _ => none

/-- The character of a `u` escape, and the rest; a pair of surrogate escapes is one character. -/
def unicodeEscape? (text : Text) : Option (Char × Text) := do
  let (unit, rest) ← hexUnit? text
  let alone := (Text.unitChar unit, rest)
  if Text.isLeading unit then
    match rest with
    | '\\' :: 'u' :: digits =>
      match hexUnit? digits with
      | some (partner, afterPair) =>
        if Text.isTrailing partner then return (Text.pairChar unit partner, afterPair)
        else return alone
      | none => none
    | _ => return alone
  else
    return alone

/-- The character that an escape letter stands for. -/
def escapeChar? : Char → Option Char
  | '"' => some '"'
  | '\\' => some '\\'
  | '/' => some '/'
  | 'b' => some '\x08'
  | 'f' => some '\x0c'
  | 'n' => some '\n'
  | 'r' => some '\r'
  | 't' => some '\t'
  | _ => none

/-- The text up to the closing quote, and the rest. Each step takes a character, so the length of
the text is fuel enough. -/
def readString? : (fuel : Nat) → Text → Option (Text × Text)
  | 0, _ => none
  | _ + 1, [] => none
  | fuel + 1, c :: rest =>
    if c = '"' then
      some ([], rest)
    else if c = '\\' then
      match rest with
      | 'u' :: digits => do
        let (char, rest) ← unicodeEscape? digits
        let (text, rest) ← readString? fuel rest
        return (char :: text, rest)
      | letter :: rest => do
        let char ← escapeChar? letter
        let (text, rest) ← readString? fuel rest
        return (char :: text, rest)
      | [] => none
    else if c.toNat < 0x20 then
      none
    else
      (readString? fuel rest).map fun (text, rest) => (c :: text, rest)

/-- Whether a text is a numeral of the format: no sign but minus, no superfluous zero, digits on
both sides of a point. -/
def isNumeral (text : Text) : Bool :=
  let unsigned : Text := match text with
    | '-' :: rest => rest
    | _ => text
  let whole := unsigned.takeWhile Binary64.isDigit
  let afterWhole := unsigned.dropWhile Binary64.isDigit
  let (fractionFits, rest) : Bool × Text := match afterWhole with
    | '.' :: afterPoint =>
      (afterPoint.takeWhile Binary64.isDigit ≠ [], afterPoint.dropWhile Binary64.isDigit)
    | _ => (true, afterWhole)
  whole ≠ [] && (whole.length == 1 || whole.head? != some '0') && fractionFits &&
    (Binary64.exponent? rest).isSome

def isNumeralChar (c : Char) : Bool :=
  Binary64.isDigit c || c == '-' || c == '+' || c == '.' || c == 'e' || c == 'E'

/-- The words of the format. -/
def word? (text : Text) : Option (Document × Text) :=
  match Text.dropPrefix? "null".toList text with
  | some rest => some (.null, rest)
  | none =>
    match Text.dropPrefix? "true".toList text with
    | some rest => some (.bool true, rest)
    | none => (Text.dropPrefix? "false".toList text).map (.bool false, ·)

mutual

/-- A value and the rest. Each step takes a character, so the length of the text is fuel
enough. -/
def readValue? : (fuel : Nat) → Text → Option (Document × Text)
  | 0, _ => none
  | fuel + 1, text =>
    match skipSpace text with
    | [] => none
    | '[' :: rest =>
      match skipSpace rest with
      | ']' :: rest => some (.list [], rest)
      | rest => (readItems? fuel rest).map fun (items, rest) => (.list items, rest)
    | '{' :: rest =>
      match skipSpace rest with
      | '}' :: rest => some (.map [], rest)
      | rest => (readMembers? fuel [] rest).map fun (members, rest) => (.map members, rest)
    | '"' :: rest => (readString? fuel rest).map fun (text, rest) => (.text text, rest)
    | c :: rest =>
      if isNumeralChar c then
        let numeral := (c :: rest).takeWhile isNumeralChar
        if isNumeral numeral then
          (Binary64.decimal? numeral).map (.number ·, (c :: rest).dropWhile isNumeralChar)
        else
          none
      else
        word? (c :: rest)

/-- The items of a list after its bracket, at least one. -/
def readItems? : (fuel : Nat) → Text → Option (List Document × Text)
  | 0, _ => none
  | fuel + 1, text => do
    let (item, rest) ← readValue? fuel text
    match skipSpace rest with
    | ',' :: rest =>
      let (items, rest) ← readItems? fuel rest
      return (item :: items, rest)
    | ']' :: rest => return ([item], rest)
    | _ => none

/-- The members of a map after its brace, at least one, put with those already read. -/
def readMembers? :
    (fuel : Nat) → List (Text × Document) → Text → Option (List (Text × Document) × Text)
  | 0, _, _ => none
  | fuel + 1, members, text => do
    match skipSpace text with
    | '"' :: rest =>
      let (name, rest) ← readString? fuel rest
      match skipSpace rest with
      | ':' :: rest =>
        let (value, rest) ← readValue? fuel rest
        let members := Entries.assign members name value
        match skipSpace rest with
        | ',' :: rest => readMembers? fuel members rest
        | '}' :: rest => return (members, rest)
        | _ => none
      | _ => none
    | _ => none

end

/-- The data tree of a JSON text; `none` if the text is not JSON. -/
def read? (text : Text) : Option Document := do
  let (document, rest) ← readValue? (text.length + 1) text
  if skipSpace rest = [] then return document else none

end ExporterAudit.Json
