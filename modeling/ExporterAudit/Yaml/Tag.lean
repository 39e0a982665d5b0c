import ExporterAudit.Text.Percent
import ExporterAudit.Yaml.Cursor

/-!
Tags of YAML values: which value a plain scalar stands for, and what an explicit tag makes of a
scalar, a sequence or a mapping. The types are those that JSON has: null, booleans, integers,
floats, texts, sequences and mappings.
-/

namespace ExporterAudit.Yaml

/-- What a node is made of. -/
inductive Kind where
  | scalar
  | sequence
  | mapping
deriving DecidableEq

def Kind.name : Kind → Text
  | .scalar => "scalar"
  | .sequence => "sequence"
  | .mapping => "mapping"

/-! ### Plain scalars as values -/

def null? (text : Text) : Option Value :=
  if ["~".toList, "null".toList, "Null".toList, "NULL".toList].contains text then some .null
  else none

def bool? (text : Text) : Option Value :=
  if ["true".toList, "True".toList, "TRUE".toList].contains text then some (.bool true)
  else if ["false".toList, "False".toList, "FALSE".toList].contains text then some (.bool false)
  else none

/-- A sign and the text after it. -/
def signOf : Text → Bool × Text
  | '-' :: rest => (true, rest)
  | '+' :: rest => (false, rest)
  | text => (false, text)

/-- An unsigned integer: decimal digits, or digits after `0b`, `0o` or `0x`. -/
def unsignedInteger? : Text → Option Nat
  | '0' :: 'b' :: digits => if digits = [] then none else Binary64.digitsValue? 2 0 digits
  | '0' :: 'o' :: digits => if digits = [] then none else Binary64.digitsValue? 8 0 digits
  | '0' :: 'x' :: digits => if digits = [] then none else Binary64.digitsValue? 16 0 digits
  | digits => if digits = [] then none else Binary64.digitsValue? 10 0 digits

/-- A finite integer. The zero of one digit has no sign. -/
def integer? (text : Text) : Option Value := do
  let (negative, digits) := signOf text
  let magnitude ← unsignedInteger? digits
  let number := Binary64.ofRatio (negative && digits != ['0']) (magnitude * Binary64.one) 1
  if number.isFinite then return .number number else none

/-- Whether a text is an unsigned decimal: digits with an optional fraction, or, without a sign
before it, a fraction alone. -/
def isDecimal (signed : Bool) (text : Text) : Bool :=
  match text with
  | '.' :: rest => !signed && rest.head?.any Binary64.isDigit
  | c :: _ => Binary64.isDigit c
  | [] => false

/-- A finite float, an infinity or not-a-number. -/
def float? (text : Text) : Option Value :=
  let (negative, unsigned) := signOf text
  let signed := unsigned.length < text.length
  if [".inf".toList, ".Inf".toList, ".INF".toList].contains unsigned then
    some (.number (.infinity negative))
  else if [".nan".toList, ".NaN".toList, ".NAN".toList].contains text then
    some (.number .nan)
  else if isDecimal signed unsigned then do
    let number ← Binary64.unsignedDecimal? negative unsigned
    if number.isFinite then return .number number else none
  else
    none

/-- The value that a plain scalar stands for if it is more than a text. -/
def resolve? (text : Text) : Option Value :=
  (null? text).or ((bool? text).or ((integer? text).or (float? text)))

/-- The value that a plain scalar stands for; a text if it is nothing else. -/
def resolve (text : Text) : Value :=
  (resolve? text).getD (.text text)

/-! ### Explicit tags -/

/-- The types that an explicit tag can name. -/
inductive TagType where
  | null
  | bool
  | integer
  | float
  | text
  | sequence
  | mapping
deriving DecidableEq

namespace TagType

def all : List TagType := [.null, .bool, .integer, .float, .text, .sequence, .mapping]

def suffix : TagType → Text
  | .null => "null"
  | .bool => "bool"
  | .integer => "int"
  | .float => "float"
  | .text => "str"
  | .sequence => "seq"
  | .mapping => "map"

/-- What the tags of the standard types begin with. -/
def standardPrefix : Text := "tag:yaml.org,2002:"

def kind : TagType → Kind
  | .sequence => .sequence
  | .mapping => .mapping
  | _ => .scalar

/-- The type of a tag, for a node of a kind; a node without content fits every type. -/
def ofTag? (tag : Text) (kind? : Option Kind) : Option TagType :=
  all.find? fun type =>
    tag == standardPrefix ++ type.suffix && kind?.all (· == type.kind)

/-- Refuses a float tag before a number that was read without it. An infinity and not-a-number
are written in another way than floats and do not count as one. -/
def checkUntagged (number : Binary64) : Reader Unit := do
  if (float? number.toText).isSome then throw .numberTagged

/-- The value that a tag makes of one already read; an empty node is null. -/
def convert? (type : TagType) (value : Value) : Reader (Option Value) := do
  match type, value with
  | .null, .null => return some .null
  | .null, .text written => return null? written
  | .bool, .text written => return bool? written
  | .integer, .text written => return integer? written
  | .float, .text written => return float? written
  | .float, .number number =>
    checkUntagged number
    return none
  | .text, .null => return some (.text [])
  | .sequence, .null => return some (← newCollection (.sequence []))
  | .mapping, .null => return some (← newCollection (.mapping []))
  | .text, value | .sequence, value | .mapping, value => return some value
  | _, _ => return none

end TagType

/-- A tag that keeps a scalar as it is written. -/
def plainTag : Text := "!"

/-- A tag that leaves a scalar to be resolved as if it were plain. -/
def implicitTag : Text := "?"

def isNull : Value → Bool
  | .null => true
  | _ => false

/-- How a message names what a node is made of. -/
def kindName (kind? : Option Kind) : Text :=
  (kind?.map Kind.name).getD "null"

/-- Refuses a value of another kind than a tag wants. -/
def checkKind (tag : Text) (kind : Kind) (kind? : Option Kind) (value : Value) : Reader Unit := do
  if !isNull value && kind? != some kind then
    refuse ("unacceptable node kind for !<" ++ tag ++ "> tag; it should be \"" ++ kind.name ++
      "\", not \"" ++ kindName kind? ++ "\"")

/-- The value that an explicit tag gives to a node; `none` where it leaves the value as it is. -/
def retagged? (tag : Text) (kind? : Option Kind) (value : Value) : Reader (Option Value) := do
  if tag = plainTag then
    return none
  else if tag = implicitTag then
    checkKind tag .scalar kind? value
    match value with
    | .null => return some .null
    | .text written => return resolve? written
    | .number number =>
      TagType.checkUntagged number
      return none
    | _ => return none
  else
    match TagType.ofTag? tag kind? with
    | none => refuse ("unknown tag !<" ++ tag ++ ">")
    | some type =>
      checkKind tag type.kind kind? value
      match ← type.convert? value with
      | some value => return some value
      | none => refuse ("cannot resolve a node with !<" ++ tag ++ "> explicit tag")

/-! ### Tag names -/

/-- Whether a text is a tag handle: `!`, or two `!` with letters, digits and hyphens between
them. -/
def isTagHandle : Text → Bool
  | ['!'] => true
  | '!' :: rest =>
    rest.getLast? == some '!' && rest.dropLast.all fun c => c.isAlphanum || c == '-'
  | _ => false

def isHexDigit (c : Char) : Bool :=
  (Binary64.digitValue? 16 c).isSome

/-- Whether a text continues the name of a tag: characters of an address, and `%` with two
hexadecimal digits. -/
def continuesTagName : Text → Bool
  | [] => true
  | '%' :: a :: b :: rest => isHexDigit a && isHexDigit b && continuesTagName rest
  | c :: rest =>
    (c.isAlphanum || "-#;/?:@&=+$,_.!~*'()[]".toList.contains c) && continuesTagName rest

/-- Whether a text can name a tag; its first character is free, but not one of two code units. -/
def isTagName : Text → Bool
  | [] => false
  | c :: rest => !isFlowIndicator c && c.toNat < 0x10000 && continuesTagName rest

/-- The tag of a handle and a name. -/
def tagOf (handle name : Text) : Reader Text := do
  match Entries.get? (← get).handles handle with
  | some start => return start ++ name
  | none =>
    if handle = "!".toList then return '!' :: name
    else if handle = "!!".toList then return TagType.standardPrefix ++ name
    else refuse ("undeclared tag handle \"" ++ handle ++ "\"")

/-- Checks the name of a tag and undoes its escapes. -/
def tagName (written : Text) : Reader Text := do
  if written ≠ [] && !isTagName written then
    refuse ("tag name cannot contain such characters: " ++ written)
  match Text.Percent.decode? written with
  | some name => return name
  | none => refuse ("tag name is malformed: " ++ written)

/-- The rest of a tag up to white space, which may hold the second mark of its handle. `before` is
what comes before the text in the handle. -/
def tagSuffix (isNamed : Bool) : (fuel : Nat) → (handle before : Text) → Reader (Text × Text)
  | 0, handle, before => return (handle, before)
  | fuel + 1, handle, before => do
    match ← peek with
    | none => return (handle, before)
    | some c =>
      if isGap c then
        return (handle, before)
      else if c = '!' then
        if isNamed then refuse "tag suffix cannot contain exclamation marks"
        let named := '!' :: before ++ ['!']
        if !isTagHandle named then
          refuse "named tag handle cannot contain such characters"
        skip
        let name ← takeWhile fun c => !isGap c && c != '!'
        if (← peek) = some '!' then refuse "tag suffix cannot contain exclamation marks"
        return (named, name)
      else
        skip
        tagSuffix isNamed fuel handle (before ++ [c])

/-- The name of a verbatim tag: at least one character, and all up to the closing bracket. Line
breaks in it do not begin a line. -/
def takeVerbatim : Reader Text := do
  let r ← get
  let name := r.rest.take 1 ++ (r.rest.drop 1).takeWhile (· != '>')
  set { r with
    rest := r.rest.drop name.length
    mark := name.foldl Mark.step r.mark }
  return name

/-- A tag property, if one begins here and there is none yet. -/
def tag? (known : Option Text) : Reader (Option Text) := do
  if (← peek) ≠ some '!' then return none
  if known.isSome then refuse "duplication of a tag property"
  skip
  match ← peek with
  | some '<' =>
    skip
    let name ← takeVerbatim
    if (← peek) ≠ some '>' then refuse "unexpected end of the stream within a verbatim tag"
    skip
    return some (← tagName name)
  | c =>
    let isNamed := c == some '!'
    if isNamed then skip
    let handle : Text := if isNamed then "!!" else "!"
    let (handle, name) ← tagSuffix isNamed ((← get).rest.length + 1) handle []
    if name.any isFlowIndicator then
      refuse "tag suffix cannot contain flow indicator characters"
    return some (← tagOf handle (← tagName name))

end ExporterAudit.Yaml
