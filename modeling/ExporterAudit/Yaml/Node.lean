import ExporterAudit.Yaml.Scalar
import ExporterAudit.Yaml.Tag

/-!
Nodes of YAML: scalars, flow and block collections, anchors and aliases, put together to values.
A collection has its number as soon as it begins, so an alias in it can stand for itself.
-/

namespace ExporterAudit.Yaml

/-- Where a node stands. -/
inductive Context where
  | flowIn
  | flowOut
  | blockIn
  | blockOut
deriving DecidableEq

def Context.isBlock : Context → Bool
  | .blockIn | .blockOut => true
  | .flowIn | .flowOut => false

/-- A node as it was read. -/
structure Node where
  value : Value := .null
  /-- What the node is made of; `none` for an empty node and an alias. -/
  kind : Option Kind := none
  /-- Whether anything was read, if only a tag or an anchor. -/
  isPresent : Bool := false

namespace Node

def scalar (value : Value) : Node :=
  { value, kind := some .scalar, isPresent := true }

def sequence (value : Value) : Node :=
  { value, kind := some .sequence, isPresent := true }

def mapping (value : Value) : Node :=
  { value, kind := some .mapping, isPresent := true }

end Node

/-- How many nodes may stand inside each other. -/
def maxDepth : Nat := 100

/-- Gives a value a name, in place of another that has it. -/
def setAnchor (name : Option Text) (value : Value) : Reader Unit :=
  match name with
  | none => return
  | some name => modify fun r => { r with anchors := (name, value) :: r.anchors }

/-- The name after the mark of an anchor or alias. -/
def nodeName (what : Text) : Reader Text := do
  skip
  let name ← takeWhile fun c => !isGap c && !isFlowIndicator c
  if name = [] then refuse ("name of an " ++ what ++ " node must contain at least one character")
  return name

/-- An anchor property, if one begins here and there is none yet. -/
def anchor? (known : Option Text) : Reader (Option Text) := do
  if (← peek) ≠ some '&' then return none
  if known.isSome then refuse "duplication of an anchor property"
  return some (← nodeName "anchor")

/-- The value of an alias, if one begins here. -/
def alias? : Reader (Option Value) := do
  if (← peek) ≠ some '*' then return none
  let name ← nodeName "alias"
  match (← get).anchors.lookup name with
  | none => refuse ("unidentified alias \"" ++ name ++ "\"")
  | some value =>
    let _ ← skipGap true
    return some value

/-- What stands for a mapping where a name is needed. -/
def mappingName : Text := "[object Object]"

/-- The text of a scalar that names an entry; a mapping has one too. -/
def scalarName : Value → Text
  | .null => "null"
  | .bool true => "true"
  | .bool false => "false"
  | .number x => x.toText
  | .text text => text
  | .collection _ => mappingName

/-- The name of an item of a sequence that names an entry. -/
def itemName (item : Value) : Reader Text := do
  match ← content? item with
  | some (.sequence _) => refuse "nested arrays are not supported inside keys"
  | _ => return if isNull item then [] else scalarName item

/-- The name of an entry; a sequence has the names of its items with commas between them. -/
def entryName (key : Value) : Reader Text := do
  match ← content? key with
  | some (.sequence items) => return Text.join "," (← items.mapM itemName)
  | _ => return scalarName key

/-- Puts an item at the end of a sequence. -/
def addItem (sequence item : Value) : Reader Unit :=
  changeCollection sequence fun
    | .sequence items => .sequence (items ++ [item])
    | .mapping entries => .mapping entries

/-- Puts an entry into a mapping; of equal names the last wins. -/
def addEntry (mapping key value : Value) : Reader Unit := do
  let name ← entryName key
  changeCollection mapping fun
    | .mapping entries => .mapping (Entries.assign entries name value)
    | .sequence items => .sequence items

/-- The tag and the anchor of a node. -/
structure Properties where
  tag : Option Text := none
  anchor : Option Text := none
  /-- Where the first property begins. -/
  start : Option Reading := none
  /-- Whether a line break comes before the content. -/
  atNewLine : Bool := false
  /-- Whether a block collection may follow. -/
  allowsBlock : Bool
  /-- Whether the content is indented more than its parent, as much, or less. -/
  order : Ordering := .gt

/-- Compares the indentation of the line with that of a parent. -/
def compareIndent (parentIndent : Int) : Reader Ordering := do
  return compare ((← indent : Nat) : Int) parentIndent

/-- The properties before the content of a node. A second property of the same kind after a line
break belongs to the first key of a mapping. -/
def properties (parentIndent : Int) (isBlock : Bool) :
    (fuel : Nat) → Properties → Reader Properties
  | 0, found => return found
  | fuel + 1, found => do
    let c ← peek
    if found.atNewLine &&
        ((c == some '!' && found.tag.isSome) || (c == some '&' && found.anchor.isSome)) then
      return found
    let start ← get
    let tag ← tag? found.tag
    let anchor ← if tag.isSome then pure none else anchor? found.anchor
    if tag.isNone && anchor.isNone then return found
    let found := { found with
      tag := tag.or found.tag
      anchor := anchor.or found.anchor
      start := found.start.or (some start) }
    if (← skipGap true) = 0 then
      properties parentIndent isBlock fuel { found with allowsBlock := false }
    else
      let order ← compareIndent parentIndent
      properties parentIndent isBlock fuel
        { found with atNewLine := true, allowsBlock := isBlock, order }

/-- The mapping that is read and the entry being read. -/
structure MappingState where
  mapping : Value
  key : Value := .null
  /-- Whether the key was marked and its value is still to come. -/
  atMarkedKey : Bool := false
  /-- Whether an entry has begun. -/
  isDetected : Bool := false

/-- What a reader of block mappings finds. -/
inductive BlockMapping where
  /-- A mapping, or a single node that is no key. -/
  | node (node : Node)
  /-- Nothing, and no key was looked for. -/
  | absent
  /-- Nothing where a key could have been: what it had before it, a tag and an anchor, is used
  up. -/
  | spent

/-- Passes the comma after an entry of a flow collection, if there is one. -/
def flowComma : Reader Bool := do
  let _ ← skipGap true
  if (← peek) = some ',' then
    skip
    return true
  else
    return false

mutual

/-- A node. `parentIndent` is the indentation of the collection that it belongs to; `seek` lets it
begin on a later line, `compact` lets a block collection begin on the line of its parent. -/
def node (parentIndent : Int) (context : Context) (seek compact : Bool) (depth : Nat) :
    (fuel : Nat) → Reader Node
  | 0 => return {}
  | fuel + 1 => do
    if maxDepth ≤ depth then
      refuse ("nesting exceeded maxDepth (" ++ Text.ofNat maxDepth ++ ")")
    let isBlock := context.isBlock
    let breaks ← if seek then skipGap true else pure 0
    let order ← if breaks = 0 then pure .gt else compareIndent parentIndent
    let initial : Properties := { atNewLine := breaks ≠ 0, allowsBlock := isBlock, order }
    let found ←
      if order = .gt then properties parentIndent isBlock ((← get).rest.length + 1) initial
      else pure initial
    let found := { found with allowsBlock := found.allowsBlock && (found.atNewLine || compact) }
    let (found, content) ←
      if found.order = .gt then
        content parentIndent context found depth fuel
      else if found.order = .eq && context = .blockOut && found.allowsBlock then
        pure (found, ← blockSequence (← column) found.anchor depth fuel)
      else
        pure (found, none)
    let read := content.getD {}
    let isPresent := found.tag.isSome || found.anchor.isSome || content.isSome
    match found.tag with
    | none =>
      setAnchor found.anchor read.value
      return { read with isPresent }
    | some tag =>
      match ← retagged? tag read.kind read.value with
      | none => return { read with isPresent }
      | some value =>
        setAnchor found.anchor value
        return { read with value, isPresent }
termination_by structural fuel => fuel

/-- The content of a node that is indented more than its parent, with the properties that remain
for it. -/
def content (parentIndent : Int) (context : Context) (found : Properties) (depth : Nat) :
    (fuel : Nat) → Reader (Properties × Option Node)
  | 0 => return (found, none)
  | fuel + 1 => do
    let flowIndent := if context.isBlock then parentIndent + 1 else parentIndent
    if found.allowsBlock then
      let blockColumn ← column
      if let some node ← blockSequence blockColumn found.anchor depth fuel then
        return (found, some node)
      match ← blockMapping blockColumn flowIndent found.anchor depth fuel with
      | .node node => return (found, some node)
      | .absent => inlineContent flowIndent context found depth fuel
      | .spent =>
        inlineContent flowIndent context { found with tag := none, anchor := none } depth fuel
    else
      inlineContent flowIndent context found depth fuel
termination_by structural fuel => fuel

/-- The content of a node that is no block collection. Only a mapping whose first key has the
properties before the node is one, and they do not belong to the node then. -/
def inlineContent (flowIndent : Int) (context : Context) (found : Properties) (depth : Nat) :
    (fuel : Nat) → Reader (Properties × Option Node)
  | 0 => return (found, none)
  | fuel + 1 => do
    if let some node ← flowCollection flowIndent found.anchor depth fuel then
      return (found, some node)
    let c ← peek
    if context.isBlock && !found.allowsBlock && c ≠ some '|' && c ≠ some '>' then
      if let some start := found.start then
        let here ← get
        set start
        if let .node node ← blockMapping start.mark.column flowIndent none depth fuel then
          if node.kind = some .mapping then
            return ({ found with tag := none, anchor := none }, some node)
        set here
    let block ← if context.isBlock then block? flowIndent else pure none
    let quoted ← if block.isSome then pure block else quoted?
    if let some text := quoted then
      setAnchor found.anchor (.text text)
      return (found, some (.scalar (.text text)))
    if let some value ← alias? then
      if found.tag.isSome || found.anchor.isSome then
        refuse "alias node should not have any properties"
      return (found, some { value, isPresent := true })
    match ← plain? flowIndent (context = .flowIn) with
    | some text =>
      setAnchor found.anchor (.text text)
      let value := if found.tag.isNone then resolve text else .text text
      return (found, some (.scalar value))
    | none =>
      setAnchor found.anchor .null
      return (found, none)
termination_by structural fuel => fuel

/-- A flow collection, if one begins here. -/
def flowCollection (nodeIndent : Int) (anchor : Option Text) (depth : Nat) :
    (fuel : Nat) → Reader (Option Node)
  | 0 => return none
  | fuel + 1 => do
    match ← peek with
    | some '[' =>
      let sequence ← newCollection (.sequence [])
      setAnchor anchor sequence
      skip
      flowItems nodeIndent sequence true depth fuel
      return some (.sequence sequence)
    | some '{' =>
      let mapping ← newCollection (.mapping [])
      setAnchor anchor mapping
      skip
      flowEntries nodeIndent mapping true depth fuel
      return some (.mapping mapping)
    | _ => return none
termination_by structural fuel => fuel

/-- One entry of a flow collection: its key, and its value if it is a pair. `isReady` tells whether
an entry may begin here. -/
def flowEntry (nodeIndent : Int) (isReady : Bool) (depth : Nat) :
    (fuel : Nat) → Reader (Value × Option Value)
  | 0 => return (.null, none)
  | fuel + 1 => do
    if !isReady then refuse "missed comma between flow collection entries"
    if (← peek) = some ',' then refuse "expected the node content, but found ','"
    let isMarked := (← peek) == some '?' && (← peekSecond).any isGap
    if isMarked then
      skip
      let _ ← skipGap true
    let startLine ← line
    let key ← node nodeIndent .flowIn false true (depth + 1) fuel
    let _ ← skipGap true
    if (isMarked || (← line) == startLine) && (← peek) == some ':' then
      skip
      let _ ← skipGap true
      let value ← node nodeIndent .flowIn false true (depth + 1) fuel
      return (key.value, some value.value)
    else
      return (key.value, if isMarked then some .null else none)
termination_by structural fuel => fuel

/-- The items of a flow sequence up to its bracket; a pair is a mapping of its own. -/
def flowItems (nodeIndent : Int) (sequence : Value) (isReady : Bool) (depth : Nat) :
    (fuel : Nat) → Reader Unit
  | 0 => return
  | fuel + 1 => do
    if (← peek).isNone then refuse "unexpected end of the stream within a flow collection"
    let _ ← skipGap true
    if (← peek) = some ']' then
      skip
    else
      let (key, value?) ← flowEntry nodeIndent isReady depth fuel
      match value? with
      | none => addItem sequence key
      | some value =>
        let pair ← newCollection (.mapping [])
        addEntry pair key value
        addItem sequence pair
      flowItems nodeIndent sequence (← flowComma) depth fuel
termination_by structural fuel => fuel

/-- The entries of a flow mapping up to its brace. -/
def flowEntries (nodeIndent : Int) (mapping : Value) (isReady : Bool) (depth : Nat) :
    (fuel : Nat) → Reader Unit
  | 0 => return
  | fuel + 1 => do
    if (← peek).isNone then refuse "unexpected end of the stream within a flow collection"
    let _ ← skipGap true
    if (← peek) = some '}' then
      skip
    else
      let (key, value?) ← flowEntry nodeIndent isReady depth fuel
      addEntry mapping key (value?.getD .null)
      flowEntries nodeIndent mapping (← flowComma) depth fuel
termination_by structural fuel => fuel

/-- A block sequence, if one begins here. -/
def blockSequence (nodeIndent : Nat) (anchor : Option Text) (depth : Nat) :
    (fuel : Nat) → Reader (Option Node)
  | 0 => return none
  | fuel + 1 => do
    if (← get).mark.firstTab.isSome then return none
    let sequence ← newCollection (.sequence [])
    setAnchor anchor sequence
    if ← blockItems nodeIndent sequence false depth fuel then
      return some (.sequence sequence)
    else
      return none
termination_by structural fuel => fuel

/-- The items of a block sequence; whether there is any. -/
def blockItems (nodeIndent : Nat) (sequence : Value) (isDetected : Bool) (depth : Nat) :
    (fuel : Nat) → Reader Bool
  | 0 => return isDetected
  | fuel + 1 => do
    if (← peek).isNone then return isDetected
    if let some tab := (← get).mark.firstTab then
      refuseAt tab "tab characters must not be used in indentation"
    if (← peek) ≠ some '-' || !(← peekSecond).any isGap then return isDetected
    skip
    let breaks ← skipGap true
    if breaks ≠ 0 && (← indent) ≤ nodeIndent then
      addItem sequence .null
      blockItems nodeIndent sequence true depth fuel
    else
      let startLine ← line
      let item ← node nodeIndent .blockIn false true (depth + 1) fuel
      addItem sequence item.value
      let _ ← skipGap true
      if ((← line) = startLine || nodeIndent < (← indent)) && (← peek).isSome then
        refuse "bad indentation of a sequence entry"
      else if (← indent) < nodeIndent then
        return true
      else
        blockItems nodeIndent sequence true depth fuel
termination_by structural fuel => fuel

/-- A block mapping, or the single node that begins here. -/
def blockMapping (nodeIndent : Nat) (flowIndent : Int) (anchor : Option Text) (depth : Nat) :
    (fuel : Nat) → Reader BlockMapping
  | 0 => return .absent
  | fuel + 1 => do
    if (← get).mark.firstTab.isSome then return .absent
    let mapping ← newCollection (.mapping [])
    setAnchor anchor mapping
    mappingEntries nodeIndent flowIndent { mapping } depth fuel
termination_by structural fuel => fuel

/-- The entries of a block mapping. -/
def mappingEntries (nodeIndent : Nat) (flowIndent : Int) (state : MappingState) (depth : Nat) :
    (fuel : Nat) → Reader BlockMapping
  | 0 => return .absent
  | fuel + 1 => do
    let endKey : Reader Unit := do
      if state.atMarkedKey then addEntry state.mapping state.key .null
    let finish (nothing : BlockMapping) : Reader BlockMapping := do
      endKey
      return if state.isDetected then .node (.mapping state.mapping) else nothing
    let some c ← peek | finish .absent
    if !state.atMarkedKey then
      if let some tab := (← get).mark.firstTab then
        refuseAt tab "tab characters must not be used in indentation"
    let startLine ← line
    if (c = '?' || c = ':') && (← peekSecond).any isGap then
      if c = '?' then
        endKey
        skip
        mappingValue nodeIndent flowIndent startLine true
          { state with key := .null, atMarkedKey := true, isDetected := true } depth fuel
      else if state.atMarkedKey then
        skip
        mappingValue nodeIndent flowIndent startLine true
          { state with atMarkedKey := false } depth fuel
      else
        refuse
          "incomplete explicit mapping pair; a key node is missed; or followed by a non-tabulated empty line"
    else
      let key ← node flowIndent .flowOut false true (depth + 1) fuel
      if !key.isPresent then
        finish .spent
      else if (← line) = startLine then
        let _ ← takeWhile isSpaceOrTab
        if (← peek) = some ':' then
          skip
          if !(← peek).any isGap then
            refuse
              "a whitespace character is expected after the key-value separator within a block mapping"
          endKey
          mappingValue nodeIndent flowIndent startLine false
            { state with key := key.value, atMarkedKey := false, isDetected := true } depth fuel
        else if state.isDetected then
          refuse "can not read an implicit mapping pair; a colon is missed"
        else
          return .node key
      else if state.isDetected then
        refuse "can not read a block mapping entry; a multiline key may not be an implicit key"
      else
        return .node key
termination_by structural fuel => fuel

/-- The value of an entry, or its marked key, and the entries after it. -/
def mappingValue (nodeIndent : Nat) (flowIndent : Int) (startLine : Nat) (compact : Bool)
    (state : MappingState) (depth : Nat) : (fuel : Nat) → Reader BlockMapping
  | 0 => return .absent
  | fuel + 1 => do
    let read ← node nodeIndent .blockOut true compact (depth + 1) fuel
    let state ←
      if state.atMarkedKey then
        pure { state with key := if read.isPresent then read.value else state.key }
      else
        addEntry state.mapping state.key (if read.isPresent then read.value else .null)
        pure { state with key := .null }
    let _ ← skipGap true
    if ((← line) = startLine || nodeIndent < (← indent)) && (← peek).isSome then
      refuse "bad indentation of a mapping entry"
    else if (← indent) < nodeIndent then
      if state.atMarkedKey then addEntry state.mapping state.key .null
      return .node (.mapping state.mapping)
    else
      mappingEntries nodeIndent flowIndent state depth fuel
termination_by structural fuel => fuel

end

end ExporterAudit.Yaml
