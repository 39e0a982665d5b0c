import ExporterAudit.Scrape
import ExporterAudit.Shape
import ExporterAudit.WebAddress.Basic

/-!
The settings of an audit: where the exporter and its definitions are, how to reach it, and the
query server that scrapes it, if there is one.
-/

namespace ExporterAudit

/-- The settings of an audit. -/
structure Settings where
  exporterPath : Text
  definitionsPath : Text
  host : Text
  port : Binary64
  shards : Binary64
  prometheusUrl : Option Text
  scrapeIntervalSeconds : Binary64
  space : Namespace
  /-- The labels that the filtering and comparing checks select. -/
  labelFilter : Labels
  startTimeoutMs : Binary64

namespace Settings

/-! ### Numbers in settings -/

/-- The text that is read as a number for what a document holds. A map has one that is no numeral,
or none if a member of its own stands in the way. -/
def plainText? : Document → Option Text
  | .null => some []
  | .bool true => some "true"
  | .bool false => some "false"
  | .number value => some value.toText
  | .text text => some text
  | .list items => itemTexts? items
  | .map entries => if Entries.has entries "toString" then none else some "map"
where
  /-- The texts of items with commas between them. -/
  itemTexts? : List Document → Option Text
    | [] => some []
    | [item] => plainText? item
    | item :: rest => do
      let text ← plainText? item
      return text ++ ',' :: (← itemTexts? rest)

/-- The number that a document stands for, not-a-number for texts that are no numeral; `none` for
what has no text. -/
def numberOf? (document : Document) : Option Binary64 :=
  match document with
  | .null => some 0
  | .bool value => some (if value then 1 else 0)
  | .number value => some value
  | document => (plainText? document).map fun text => (Binary64.ofText? text).getD .nan

/-- A number, or what stands for one. -/
def numeric : Shape Binary64
  | none => .refuse "Required"
  | some document => Shape.number (some (.number ((numberOf? document).getD .nan)))

def wholeNumber : Text × (Binary64 → Bool) :=
  ("Expected integer, received float", Binary64.isInteger)

def atLeast (least : Nat) : Text × (Binary64 → Bool) :=
  ("Number must be greater than or equal to " ++ Text.ofNat least, Binary64.le (.ofNat least))

def atMost (greatest : Nat) : Text × (Binary64 → Bool) :=
  ("Number must be less than or equal to " ++ Text.ofNat greatest,
    (Binary64.le · (.ofNat greatest)))

def positive : Text × (Binary64 → Bool) :=
  ("Number must be greater than 0", Binary64.lt 0)

/-- A number under conditions, with a value for the case that none is given. -/
def numericSetting (value : Binary64) (conditions : List (Text × (Binary64 → Bool))) :
    Shape Binary64 :=
  .withDefault value fun place => (numeric place).ensure conditions

/-! ### Reading settings -/

/-- A complete web address. -/
def address : Shape Text := fun place =>
  (Shape.text place).ensure [("Invalid url", WebAddress.isAbsolute)]

def spaceShape : Shape Namespace :=
  .object fun entries =>
    Namespace.mk
      <$> Shape.field entries "prefix" .nonemptyText
      <*> Shape.field entries "group" .nonemptyText

/-- The labels that are selected where none are given. -/
def standardFilter : Labels := .ofPairs [("private", "1")]

def shape : Shape Settings :=
  .object fun entries =>
    Settings.mk
      <$> Shape.field entries "exporterPath" .nonemptyText
      <*> Shape.field entries "definitionsPath" .nonemptyText
      <*> Shape.field entries "host" (.withDefault "localhost" .nonemptyText)
      <*> Shape.field entries "port" (numericSetting 10001 [wholeNumber, atLeast 1, atMost 65535])
      <*> Shape.field entries "smp" (numericSetting 2 [wholeNumber, atLeast 1])
      <*> Shape.field entries "prometheusUrl" (.optional address)
      <*> Shape.field entries "scrapeIntervalSeconds" (numericSetting 15 [atLeast 0])
      <*> Shape.field entries "namespace" (.withDefault .standard spaceShape)
      <*> Shape.field entries "labelFilter" (.withDefault standardFilter (.labels .text))
      <*> Shape.field entries "startTimeoutMs" (numericSetting 30000 [wholeNumber, positive])

/-- The members that hold numbers. -/
def numericNames : List Text :=
  ["port", "smp", "scrapeIntervalSeconds", "startTimeoutMs"]

/-- Whether some member that holds a number has neither number nor text. -/
def isUnreadable (document : Document) : Bool :=
  numericNames.any fun name => (document.member? name).any fun value => (numberOf? value).isNone

/-- The settings in a data tree. -/
def ofDocument (document : Document) : Except Failure Settings :=
  if isUnreadable document then
    .error (.crash "Cannot convert object to primitive value")
  else
    (shape (some document)).toExcept.mapError .invalidConfig

/-- The address of the exporter. -/
def baseUrl (settings : Settings) : Text :=
  "http://" ++ settings.host ++ ":" ++ settings.port.toText

end Settings

end ExporterAudit
