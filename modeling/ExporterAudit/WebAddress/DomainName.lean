import ExporterAudit.Unicode.Direction
import ExporterAudit.Unicode.DomainMapping
import ExporterAudit.Unicode.Joining
import ExporterAudit.Unicode.Normalization
import ExporterAudit.WebAddress.Punycode

/-!
Domain names in any script. The characters are mapped to their plain forms and composed; then each
label between points has to be in order. A label may also come encoded in ASCII, but only if it
needs it and in the form that mapping and composing give.
-/

namespace ExporterAudit.WebAddress

def isAscii (c : Char) : Bool :=
  c.toNat < 0x80

namespace DomainLabel

/-- A joiner that keeps its neighbours apart. -/
def nonJoiner : Char := '\u200C'

def isJoiner (c : Char) : Bool :=
  c == nonJoiner || c == '\u200D'

/-- Whether a joiner may stand between two parts of a label: after a virama, or where it keeps
apart what would join. -/
def admitsJoiner (before : Text) (joiner : Char) (after : Text) : Bool :=
  before.getLast?.any Unicode.isVirama ||
    (joiner == nonJoiner && before.any (fun c => (Unicode.joining c).left) &&
      after.any (fun c => (Unicode.joining c).right))

/-- Whether a label is written from right to left, at least in part. -/
def hasRightToLeft (directions : List Unicode.Direction) : Bool :=
  directions.contains .rightToLeft || directions.contains .arabicNumber

/-- Whether a direction can end a label that is written from right to left, marks apart. -/
def endsRightToLeft : Unicode.Direction → Bool
  | .rightToLeft | .arabicNumber | .europeanNumber => true
  | _ => false

/-- Whether the directions of a label go together: where a part is written from right to left all
is, up to the last number, and the digits are of one kind. -/
def isOrdered (directions : List Unicode.Direction) : Bool :=
  !hasRightToLeft directions ||
    (!directions.contains .leftToRight &&
      !(directions.contains .arabicNumber && directions.contains .europeanNumber) &&
      (directions.reverse.find? (· != .nonspacing)).any endsRightToLeft)

/-- Whether characters of a name make up a label. The first joiner decides; without joiners the
directions do. -/
def isValid (label : Text) : Bool :=
  match label with
  | [] => false
  | first :: _ =>
    !Unicode.isMark first &&
      match label.dropWhile (!isJoiner ·) with
      | joiner :: after => admitsJoiner (label.takeWhile (!isJoiner ·)) joiner after
      | [] => isOrdered (label.map Unicode.direction)

/-- What an encoded label begins with. -/
def encodingMark : Text := "xn--"

/-- Whether a text is the encoded part of a label. -/
def isEncoding (encoded : Text) : Bool :=
  !encoded.startsWith encodingMark &&
    match Punycode.decode? encoded with
    | none => false
    | some label =>
      label.any (!isAscii ·) && Unicode.domainText? label == some label &&
        Unicode.composed label == label && isValid label

/-- Whether mapped and composed characters are a label of a domain name or empty. -/
def isAdmitted (label : Text) : Bool :=
  match Text.dropPrefix? encodingMark label with
  | some encoded => isEncoding encoded
  | none => label.all isAscii || isValid label

end DomainLabel

/-- A domain name in its plain form, if its labels are in order. -/
def domainName? (text : Text) : Option Text := do
  let name := Unicode.composed (← Unicode.domainText? text)
  guard ((Text.splitOn '.' name).all DomainLabel.isAdmitted)
  return name

end ExporterAudit.WebAddress
