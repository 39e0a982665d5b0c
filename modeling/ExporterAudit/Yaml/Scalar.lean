import ExporterAudit.Yaml.Cursor

/-!
The scalars of YAML: plain, in single quotes, in double quotes, and the block scalars that keep or
fold their lines. Each reader leaves the text of the scalar, before it is resolved to a value.
-/

namespace ExporterAudit.Yaml

/-- Whether plain and block scalars may not hold a character. -/
def isUnprintable (c : Char) : Bool :=
  let n := c.toNat
  n ≤ 8 || n == 0x0B || n == 0x0C || (0x0E ≤ n && n ≤ 0x1F) || (0x7F ≤ n && n ≤ 0x84) ||
    (0x86 ≤ n && n ≤ 0x9F) || n == 0xFFFE || n == 0xFFFF

/-- Whether quoted scalars may not hold a character. -/
def isControl (c : Char) : Bool :=
  c.toNat < 0x20 && c != '\t'

def checkPrintable (segment : Text) : Reader Unit := do
  if segment.any isUnprintable then refuse "the stream contains non-printable characters"

def checkQuotable (segment : Text) : Reader Unit := do
  if segment.any isControl then refuse "expected valid JSON character"

/-- What line breaks between two pieces of text become: one is a space, more are one line feed
less. -/
def foldedBreaks (breaks : Nat) : Text :=
  if breaks = 1 then " " else List.replicate (breaks - 1) '\n'

/-- A text without the blanks at its end. -/
def dropBlankEnd (text : Text) : Text :=
  (text.reverse.dropWhile isSpaceOrTab).reverse

/-! ### Plain scalars -/

/-- Whether a plain scalar ends before the first of these characters; `afterBlank` tells whether
white space comes before it. -/
def endsPlain (inFlow afterBlank : Bool) : Text → Bool
  | [] => true
  | c :: rest =>
    let next? := rest.head?
    isBreak c || (c == '#' && afterBlank) || (inFlow && isFlowIndicator c) ||
      (c == ':' && next?.any fun next => isGap next || (inFlow && isFlowIndicator next))

/-- The characters of a plain scalar on one line. -/
def plainLine (inFlow afterBlank : Bool) : Text → Text
  | [] => []
  | c :: rest =>
    if endsPlain inFlow afterBlank (c :: rest) then
      []
    else
      c :: plainLine inFlow (isSpaceOrTab c) rest

/-- Whether a plain scalar may begin with these characters. -/
def startsPlain (inFlow : Bool) : Text → Bool
  | [] => false
  | c :: rest =>
    if isGap c || isFlowIndicator c || "#&*!|>'\"%@`".toList.contains c then
      false
    else if c == '?' || c == '-' then
      !rest.head?.any fun next => isGap next || (inFlow && isFlowIndicator next)
    else
      true

/-- The lines of a plain scalar from the content of one of them on. `read` is the text before the
last line, `last` the last line, which `breaks` line breaks separate from this one. Each line
takes a character, so the length of the text is fuel enough. -/
def plainLines (nodeIndent : Int) (inFlow : Bool) :
    (fuel : Nat) → (read last : Text) → (breaks : Nat) → Reader Text
  | 0, read, last, _ => return read ++ last
  | fuel + 1, read, last, breaks => do
    let start ← get
    let written :=
      if start.mark.column = 0 ∧ isDocumentMark start.rest then []
      else plainLine inFlow true start.rest
    if written = [] then
      checkPrintable last
      return read ++ last
    checkPrintable last
    let read := if breaks = 0 then read ++ last else read ++ last ++ foldedBreaks breaks
    let content := dropBlankEnd written
    skipMany content.length
    let afterContent ← get
    skipMany (written.length - content.length)
    if (← peek).any isBreak then
      let breaks ← skipGap false
      if nodeIndent ≤ (← indent) then
        plainLines nodeIndent inFlow fuel read content breaks
      else
        set afterContent
        checkPrintable content
        return read ++ content
    else
      checkPrintable content
      return read ++ content

/-- A plain scalar, if one begins here. -/
def plain? (nodeIndent : Int) (inFlow : Bool) : Reader (Option Text) := do
  let start ← get
  if startsPlain inFlow start.rest then
    let text ← plainLines nodeIndent inFlow (start.rest.length + 1) [] [] 0
    if text = [] then
      set start
      return none
    else
      return some text
  else
    return none

/-! ### Quoted scalars -/

/-- The rest of a scalar in single quotes; a quote is written twice. `read` is the text so far and
`segment` the last piece of it, to which blanks at the end of a line do not belong. -/
def singleRest : (fuel : Nat) → (read segment : Text) → Reader Text
  | 0, _, _ => refuse "unexpected end of the stream within a single quoted scalar"
  | fuel + 1, read, segment => do
    match ← peek with
    | none => refuse "unexpected end of the stream within a single quoted scalar"
    | some '\'' =>
      checkQuotable segment
      skip
      if (← peek) = some '\'' then
        skip
        singleRest fuel (read ++ segment) ['\'']
      else
        return read ++ segment
    | some c =>
      if isBreak c then
        let kept := dropBlankEnd segment
        checkQuotable kept
        let breaks ← skipGap false
        singleRest fuel (read ++ kept ++ foldedBreaks breaks) []
      else
        if ← atDocumentMark then
          refuse "unexpected end of the document within a single quoted scalar"
        skip
        singleRest fuel read (segment ++ [c])

/-- The code units of an escape letter that stands for one character. -/
def simpleEscape? : Char → Option Nat
  | '0' => some 0
  | 'a' => some 7
  | 'b' => some 8
  | 't' => some 9
  | '\t' => some 9
  | 'n' => some 10
  | 'v' => some 11
  | 'f' => some 12
  | 'r' => some 13
  | 'e' => some 27
  | ' ' => some 32
  | '"' => some 34
  | '/' => some 47
  | '\\' => some 92
  | 'N' => some 0x85
  | '_' => some 0xA0
  | 'L' => some 0x2028
  | 'P' => some 0x2029
  | _ => none

/-- The number of digits after an escape letter for a numbered character. -/
def hexEscapeLength? : Char → Option Nat
  | 'x' => some 2
  | 'u' => some 4
  | 'U' => some 8
  | _ => none

/-- The value of hexadecimal digits, in 32 bits. -/
def hexDigits : (count value : Nat) → Reader Nat
  | 0, value => return value
  | count + 1, value => do
    match (← peek).bind (Binary64.digitValue? 16) with
    | none => refuse "expected hexadecimal character"
    | some digit =>
      skip
      hexDigits count ((value * 16 + digit) % 2 ^ 32)

/-- The code units of a numbered character; a number that is negative in 32 bits counts modulo
`2 ^ 16`. -/
def codePointUnits (n : Nat) : List Nat :=
  if n < 0x10000 ∨ 2 ^ 31 ≤ n then
    [n % 0x10000]
  else
    [(0xD800 + (n - 0x10000) / 0x400) % 0x10000, 0xDC00 + (n - 0x10000) % 0x400]

/-- The rest of a scalar in double quotes, as code units. -/
def doubleRest : (fuel : Nat) → (read : List Nat) → (segment : Text) → Reader (List Nat)
  | 0, _, _ => refuse "unexpected end of the stream within a double quoted scalar"
  | fuel + 1, read, segment => do
    match ← peek with
    | none => refuse "unexpected end of the stream within a double quoted scalar"
    | some '"' =>
      checkQuotable segment
      skip
      return read ++ Text.units segment
    | some '\\' =>
      checkQuotable segment
      let read := read ++ Text.units segment
      skip
      match ← peek with
      | some letter =>
        if isBreak letter then
          let _ ← skipGap false
          doubleRest fuel read []
        else
          match simpleEscape? letter, hexEscapeLength? letter with
          | some unit, _ =>
            skip
            doubleRest fuel (read ++ [unit]) []
          | none, some count =>
            skip
            let value ← hexDigits count 0
            doubleRest fuel (read ++ codePointUnits value) []
          | none, none => refuse "unknown escape sequence"
      | none => refuse "unknown escape sequence"
    | some c =>
      if isBreak c then
        let kept := dropBlankEnd segment
        checkQuotable kept
        let breaks ← skipGap false
        doubleRest fuel (read ++ Text.units (kept ++ foldedBreaks breaks)) []
      else
        if ← atDocumentMark then
          refuse "unexpected end of the document within a double quoted scalar"
        skip
        doubleRest fuel read (segment ++ [c])

/-- A quoted scalar, if one begins here. -/
def quoted? : Reader (Option Text) := do
  let fuel := (← get).rest.length + 1
  match ← peek with
  | some '\'' =>
    skip
    return some (← singleRest fuel [] [])
  | some '"' =>
    skip
    return some (Text.ofUnits (← doubleRest fuel [] []))
  | _ => return none

/-! ### Block scalars -/

/-- What becomes of the line breaks at the end of a block scalar. -/
inductive Chomping where
  | clip
  | strip
  | keep
deriving DecidableEq

/-- The header of a block scalar: chomping, and the indentation width if it is given. -/
structure BlockHeader where
  chomping : Chomping := .clip
  width : Option Nat := none

/-- The indicators after the mark of a block scalar. -/
def blockHeader : (fuel : Nat) → BlockHeader → Reader BlockHeader
  | 0, header => return header
  | fuel + 1, header => do
    match ← peek with
    | some c =>
      if c = '+' ∨ c = '-' then
        if header.chomping ≠ .clip then refuse "repeat of a chomping mode identifier"
        skip
        blockHeader fuel { header with chomping := if c = '+' then .keep else .strip }
      else if Binary64.isDigit c then
        if c = '0' then
          refuse
            "bad explicit indentation width of a block scalar; it cannot be less than one"
        if header.width.isSome then refuse "repeat of an indentation width identifier"
        skip
        blockHeader fuel { header with width := some (c.toNat - '0'.toNat) }
      else
        return header
    | none => return header

/-- What the reader of a block scalar has found out. -/
structure BlockState where
  read : Text := []
  /-- The indentation of the text, and whether it is settled. -/
  textIndent : Int
  settled : Bool
  hasContent : Bool := false
  emptyLines : Nat := 0
  atMoreIndented : Bool := false

namespace BlockState

/-- The line breaks before a line, those of empty lines and that of a line before it. -/
def breaksBefore (block : BlockState) : Nat :=
  if block.hasContent then 1 + block.emptyLines else block.emptyLines

/-- The text once the scalar has ended. -/
def chomped (block : BlockState) : Chomping → Text
  | .keep => block.read ++ List.replicate block.breaksBefore '\n'
  | .clip => if block.hasContent then block.read ++ ['\n'] else block.read
  | .strip => block.read

/-- The text up to a line that is about to be read; `c` is the first character of the line after
its indentation. Folding joins neighbouring lines that are not indented more. -/
def separated (block : BlockState) (folding : Bool) (c : Option Char) : BlockState :=
  let add (breaks : Nat) : Text := block.read ++ List.replicate breaks '\n'
  if folding then
    if c.any isSpaceOrTab then
      { block with read := add block.breaksBefore, atMoreIndented := true }
    else if block.atMoreIndented then
      { block with read := add (block.emptyLines + 1), atMoreIndented := false }
    else if block.emptyLines = 0 then
      { block with read := if block.hasContent then block.read ++ [' '] else block.read }
    else
      { block with read := add block.emptyLines }
  else
    { block with read := add block.breaksBefore }

end BlockState

/-- Passes the indentation of a line of a block scalar: as far as the text is indented, or all of
it while that is not settled. -/
def blockIndent (block : BlockState) : (fuel : Nat) → (indent : Nat) → Reader Nat
  | 0, indent => return indent
  | fuel + 1, indent => do
    if (!block.settled || indent < block.textIndent) && (← peek) = some ' ' then
      skip
      blockIndent block fuel (indent + 1)
    else
      return indent

/-- The lines of a block scalar from a line end on. -/
def blockLines (folding : Bool) (chomping : Chomping) :
    (fuel : Nat) → BlockState → Reader Text
  | 0, block => return block.read
  | fuel + 1, block => do
    if (← peek).isNone then return block.read
    lineBreak
    let indent ← blockIndent block ((← get).rest.length) 0
    modify fun r => { r with mark.indent := indent }
    let block :=
      if !block.settled && block.textIndent < indent then
        { block with textIndent := indent }
      else
        block
    let c ← peek
    if c.any isBreak then
      blockLines folding chomping fuel { block with emptyLines := block.emptyLines + 1 }
    else if !block.settled && block.textIndent == 0 then
      refuse "missing indentation for block scalar"
    else if indent < block.textIndent then
      return block.chomped chomping
    else
      let block := block.separated folding c
      let content ← takeWhile fun _ => true
      checkPrintable content
      blockLines folding chomping fuel
        { block with
          read := block.read ++ content
          hasContent := true
          settled := true
          emptyLines := 0 }

/-- A block scalar, if one begins here. -/
def block? (nodeIndent : Int) : Reader (Option Text) := do
  let c ← peek
  if c = some '|' ∨ c = some '>' then
    let fuel := (← get).rest.length + 1
    skip
    let header ← blockHeader fuel {}
    let blanks ← takeWhile isSpaceOrTab
    if blanks ≠ [] ∧ (← peek) = some '#' then
      let _ ← takeWhile fun _ => true
    let textIndent := match header.width with
      | some width => nodeIndent + width - 1
      | none => nodeIndent
    let start : BlockState := { textIndent, settled := header.width.isSome }
    return some (← blockLines (c = some '>') header.chomping fuel start)
  else
    return none

end ExporterAudit.Yaml
