import NodeClient.Yaml.Lexer
import NodeClient.Yaml.Tag

/-!
Documents as graphs of nodes, read from tokens. An alias is a further edge to the node that carries
the anchor, so that a node may have several parents and may contain itself.
-/

namespace NodeClient.Yaml

inductive Content where
  | scalar (text : Text)
  | sequence (items : List Nat)
  | mapping (entries : List (Nat × Nat))

structure Node where
  tag : Tag
  content : Content
  start : Mark

def Content.name : Content → Text
  | .scalar _ => "scalar"
  | .sequence _ => "sequence"
  | .mapping _ => "mapping"

/-- Nodes refer to one another by their places in the array. -/
structure Graph where
  nodes : Array Node
  root : Nat

/-- A reading of tokens: those that are left, how the text goes wrong after them, the tag handles
and the anchors that are known, and the nodes made so far. -/
structure Reading where
  tokens : List Token
  stop : Option Stop
  handles : List (Text × Text)
  anchors : List (Text × Nat)
  nodes : Array Node

abbrev Read := StateT Reading Scan

namespace Read

def fault {α : Type} (activity : Option (Activity × Option Mark)) (problem : Problem) (m : Mark) :
    Read α :=
  throw (.fault ⟨activity, problem, some m⟩)

/-- Every token list ends with the end of the stream, so that a reading does not come here. -/
def outOfTokens {α : Type} : Read α := throw (.fault ⟨none, .endOfStream, none⟩)

def peek : Read Token := do
  let r ← get
  match r.tokens, r.stop with
  | t :: _, _ => pure t
  | [], some stop => throw stop
  | [], none => outOfTokens

def take : Read Token := do
  let t ← peek
  modify fun r => { r with tokens := r.tokens.tail }
  pure t

def takeIf (p : TokenKind → Bool) : Read (Option Token) := do
  let t ← peek
  if p t.kind then
    modify fun r => { r with tokens := r.tokens.tail }
    pure (some t)
  else pure none

def isNext (p : TokenKind → Bool) : Read Bool := do
  let t ← peek
  pure (p t.kind)

def add (node : Node) : Read Nat := do
  let r ← get
  set { r with nodes := r.nodes.push node }
  pure r.nodes.size

def setContent (id : Nat) (content : Content) : Read Unit :=
  modify fun r => { r with nodes := r.nodes.modify id fun node => { node with content := content } }

end Read

namespace TokenKind

def isKey : TokenKind → Bool
  | .key => true
  | _ => false

def isValue : TokenKind → Bool
  | .value => true
  | _ => false

def isBlockEntry : TokenKind → Bool
  | .blockEntry => true
  | _ => false

def isBlockEnd : TokenKind → Bool
  | .blockEnd => true
  | _ => false

def isFlowEntry : TokenKind → Bool
  | .flowEntry => true
  | _ => false

def isSequenceEnd : TokenKind → Bool
  | .flowSequenceEnd => true
  | _ => false

def isMappingEnd : TokenKind → Bool
  | .flowMappingEnd => true
  | _ => false

def isAnchor : TokenKind → Bool
  | .anchor _ => true
  | _ => false

def isTag : TokenKind → Bool
  | .tag .. => true
  | _ => false

def isDirective : TokenKind → Bool
  | .directive _ => true
  | _ => false

def isDocumentStart : TokenKind → Bool
  | .documentStart => true
  | _ => false

def isDocumentEnd : TokenKind → Bool
  | .documentEnd => true
  | _ => false

def isStreamEnd : TokenKind → Bool
  | .streamEnd => true
  | _ => false

def endsDocument (k : TokenKind) : Bool :=
  k.isDirective || k.isDocumentStart || k.isDocumentEnd || k.isStreamEnd

end TokenKind

open TokenKind

/-- Anchor and tag of a node, and the place where they start. -/
structure Properties where
  anchor : Option Text
  tag : Option Text
  start : Option Mark

def tagName (start : Mark) (tagMark : Mark) (handle : Option Text) (suffix : Text) : Read Text := do
  match handle with
  | none => pure suffix
  | some handle =>
    match (← get).handles.lookup handle with
    | some space => pure (space ++ suffix)
    | none => Read.fault (some (.node, some start)) (.undefinedHandle handle) tagMark

def anchorOf (t : Option Token) : Option Text :=
  match t with
  | some ⟨.anchor name, _, _⟩ => some name
  | _ => none

def readTag (start : Mark) (t : Option Token) : Read (Option Text) :=
  match t with
  | some ⟨.tag handle suffix, tagMark, _⟩ => do
    let name ← tagName start tagMark handle suffix
    pure (some name)
  | _ => pure none

def readProperties : Read Properties := do
  let anchor ← Read.takeIf isAnchor
  let tag ← Read.takeIf isTag
  let anchor' ← if anchor.isNone && tag.isSome then Read.takeIf isAnchor else pure none
  match (anchor <|> tag).map (·.start) with
  | none => pure ⟨none, none, none⟩
  | some start =>
    let name ← readTag start tag
    pure ⟨anchorOf (anchor <|> anchor'), name, some start⟩

def checkAnchor (anchor : Option Text) (start : Mark) : Read Unit := do
  match anchor with
  | none => pure ()
  | some name =>
    let r ← get
    match r.anchors.lookup name with
    | none => pure ()
    | some id =>
      Read.fault (some (.firstAnchor name, r.nodes[id]?.map (·.start))) .secondAnchor start

/-- Adds a node with its anchor. -/
def place (p : Properties) (node : Node) : Read Nat := do
  checkAnchor p.anchor node.start
  let id ← Read.add node
  match p.anchor with
  | none => pure ()
  | some name => modify fun r => { r with anchors := (name, id) :: r.anchors }
  pure id

/-- The mark of a tag that leaves the type to the form. -/
def openTag : Text := "!"

/-- A scalar without a tag has the type of its form if it is plain, else it is text. -/
def scalarTag (p : Properties) (plain : Bool) (text : Text) : Tag :=
  match p.tag with
  | none => if plain then Plain.tag text else .known .str
  | some name => if name = openTag then Plain.tag text else .ofName name

def collectionTag (p : Properties) (kind : Kind) : Tag :=
  match p.tag with
  | none => .known kind
  | some name => if name = openTag then .known kind else .ofName name

def placeScalar (p : Properties) (plain : Bool) (text : Text) (start : Mark) : Read Nat :=
  place p ⟨scalarTag p plain text, .scalar text, start⟩

/-- The node that stands where nothing is written. -/
def placeNothing (m : Mark) : Read Nat := placeScalar ⟨none, none, none⟩ true [] m

/-- A scalar of no text under an anchor or a tag; without a tag it is null. -/
def placeBare (p : Properties) (start : Mark) : Read Nat :=
  match p.tag with
  | none => placeScalar p true [] start
  | some name =>
    place p ⟨if name = openTag then .known .null else .ofName name, .scalar [], start⟩

/-- Adds a collection, then what its reader finds inside; aliases inside may refer to it. -/
def placeSequence (p : Properties) (start : Mark) (items : Read (List Nat)) : Read Nat := do
  let id ← place p ⟨collectionTag p .seq, .sequence [], start⟩
  let found ← items
  Read.setContent id (.sequence found)
  pure id

def placeMapping (p : Properties) (start : Mark) (entries : Read (List (Nat × Nat))) :
    Read Nat := do
  let id ← place p ⟨collectionTag p .map, .mapping [], start⟩
  let found ← entries
  Read.setContent id (.mapping found)
  pure id

def readAlias (name : Text) (m : Mark) : Read Nat := do
  match (← get).anchors.lookup name with
  | some id => pure id
  | none => Read.fault none (.undefinedAlias name) m

/-- Which collections may start where a node is read. -/
inductive Place where
  | flow
  | block
  /-- The value of a block mapping, whose entries may stand at the indentation of the keys. -/
  | blockValue
deriving DecidableEq

def Place.activity : Place → Activity
  | .flow => .flowNode
  | .block | .blockValue => .blockNode

def endsBlockValue (k : TokenKind) : Bool := k.isKey || k.isValue || k.isBlockEnd

def endsFlowItem (k : TokenKind) : Bool := k.isFlowEntry || k.isSequenceEnd

def endsFlowEntry (k : TokenKind) : Bool := k.isFlowEntry || k.isMappingEnd

/-- Takes the comma before an item, which only the first goes without; whether it was there. -/
def takeComma (first : Bool) : Read Bool := do
  if first then pure true
  else
    let comma ← Read.takeIf isFlowEntry
    pure comma.isSome

/-- A node unless a token of the given kinds comes next; then nothing is written at `m`. -/
def orNothing (p : TokenKind → Bool) (m : Mark) (node : Read Nat) : Read Nat := do
  if ← Read.isNext p then placeNothing m else node

def afterValue (p : TokenKind → Bool) (node : Read Nat) : Read Nat := do
  match ← Read.takeIf isValue with
  | some t => orNothing p t.stop node
  | none => placeNothing (← Read.peek).start

mutual

def readNode (fuel : Nat) (place : Place) : Read Nat :=
  match fuel with
  | 0 => Read.outOfTokens
  | fuel + 1 => do
    let t ← Read.peek
    match t.kind with
    | .alias name =>
      let _ ← Read.take
      readAlias name t.start
    | _ =>
      let p ← readProperties
      readContent fuel place p

def readContent (fuel : Nat) (place : Place) (p : Properties) : Read Nat :=
  match fuel with
  | 0 => Read.outOfTokens
  | fuel + 1 => do
    let t ← Read.peek
    let start := p.start.getD t.start
    match t.kind, place with
    | .blockEntry, .blockValue => placeSequence p start (readFlatEntries fuel)
    | .scalar text plain, _ =>
      let _ ← Read.take
      placeScalar p plain text start
    | .flowSequenceStart, _ =>
      placeSequence p start (do let _ ← Read.take; readFlowItems fuel t.start true)
    | .flowMappingStart, _ =>
      placeMapping p start (do let _ ← Read.take; readFlowEntries fuel t.start true)
    | .blockSequenceStart, .block | .blockSequenceStart, .blockValue =>
      placeSequence p start (do let _ ← Read.take; readBlockItems fuel t.start)
    | .blockMappingStart, .block | .blockMappingStart, .blockValue =>
      placeMapping p start (do let _ ← Read.take; readBlockEntries fuel t.start)
    | _, _ =>
      if p.start.isSome then placeBare p start
      else Read.fault (some (place.activity, some start)) (.expectedNode t.kind.name) t.start

def readBlockItems (fuel : Nat) (start : Mark) : Read (List Nat) :=
  match fuel with
  | 0 => Read.outOfTokens
  | fuel + 1 => do
    let t ← Read.take
    match t.kind with
    | .blockEntry =>
      let item ← orNothing (fun k => k.isBlockEntry || k.isBlockEnd) t.stop (readNode fuel .block)
      let rest ← readBlockItems fuel start
      pure (item :: rest)
    | .blockEnd => pure []
    | kind => Read.fault (some (.blockCollection, some start)) (.expectedBlockEnd kind.name) t.start

/-- The items of a sequence that is not indented below its key. -/
def readFlatEntries (fuel : Nat) : Read (List Nat) :=
  match fuel with
  | 0 => Read.outOfTokens
  | fuel + 1 => do
    match ← Read.takeIf isBlockEntry with
    | none => pure []
    | some t =>
      let item ← orNothing (fun k => k.isBlockEntry || endsBlockValue k) t.stop
        (readNode fuel .block)
      let rest ← readFlatEntries fuel
      pure (item :: rest)

def readBlockEntries (fuel : Nat) (start : Mark) : Read (List (Nat × Nat)) :=
  match fuel with
  | 0 => Read.outOfTokens
  | fuel + 1 => do
    let t ← Read.take
    match t.kind with
    | .key =>
      let key ← orNothing endsBlockValue t.stop (readNode fuel .blockValue)
      let value ← afterValue endsBlockValue (readNode fuel .blockValue)
      let rest ← readBlockEntries fuel start
      pure ((key, value) :: rest)
    | .blockEnd => pure []
    | kind => Read.fault (some (.blockMapping, some start)) (.expectedBlockEnd kind.name) t.start

/-- The items of a flow sequence; a comma comes before each but the first. -/
def readFlowItems (fuel : Nat) (start : Mark) (first : Bool) : Read (List Nat) :=
  match fuel with
  | 0 => Read.outOfTokens
  | fuel + 1 => do
    if (← Read.takeIf isSequenceEnd).isSome then pure []
    else
      let t ← Read.peek
      if !(← takeComma first) then
        Read.fault (some (.flowSequence, some start)) (.expectedCommaOrBracket t.kind.name) t.start
      else if (← Read.takeIf isSequenceEnd).isSome then pure []
      else
        let t ← Read.peek
        let item ←
          if t.kind.isKey then
            placeMapping ⟨none, none, none⟩ t.start (readSingleEntry fuel)
          else readNode fuel .flow
        let rest ← readFlowItems fuel start false
        pure (item :: rest)

/-- The one entry of a mapping without braces inside a flow sequence. -/
def readSingleEntry (fuel : Nat) : Read (List (Nat × Nat)) :=
  match fuel with
  | 0 => Read.outOfTokens
  | fuel + 1 => do
    let t ← Read.take
    let key ← orNothing (fun k => k.isValue || endsFlowItem k) t.stop (readNode fuel .flow)
    let value ← afterValue endsFlowItem (readNode fuel .flow)
    pure [(key, value)]

/-- The entries of a flow mapping; a comma comes before each but the first, and a value may be
left out. -/
def readFlowEntries (fuel : Nat) (start : Mark) (first : Bool) : Read (List (Nat × Nat)) :=
  match fuel with
  | 0 => Read.outOfTokens
  | fuel + 1 => do
    if (← Read.takeIf isMappingEnd).isSome then pure []
    else
      let t ← Read.peek
      if !(← takeComma first) then
        Read.fault (some (.flowMapping, some start)) (.expectedCommaOrBrace t.kind.name) t.start
      else if (← Read.takeIf isMappingEnd).isSome then pure []
      else
        let entry ←
          match ← Read.takeIf isKey with
          | some t => do
            let key ← orNothing (fun k => k.isValue || endsFlowEntry k) t.stop (readNode fuel .flow)
            let value ← afterValue endsFlowEntry (readNode fuel .flow)
            pure (key, value)
          | none => do
            let key ← readNode fuel .flow
            let value ← placeNothing (← Read.peek).start
            pure (key, value)
        let rest ← readFlowEntries fuel start false
        pure (entry :: rest)

end

/-! Documents -/

def standardHandles : List (Text × Text) := [("!", "!"), ("!!", tagSpace)]

/-- The tag handles that the directives before a document declare. -/
def readDirectives (handles : List (Text × Text)) (versioned : Bool) :
    (fuel : Nat) → Read (List (Text × Text))
  | 0 => pure handles
  | fuel + 1 => do
    match ← Read.takeIf isDirective with
    | some ⟨.directive (.yaml major), m, _⟩ =>
      if versioned then Read.fault none .duplicateYamlDirective m
      else if major != 1 then Read.fault none .incompatibleVersion m
      else readDirectives handles true fuel
    | some ⟨.directive (.tag handle space), m, _⟩ =>
      if (handles.lookup handle).isSome then Read.fault none (.duplicateHandle handle) m
      else readDirectives ((handle, space) :: handles) versioned fuel
    | some _ => readDirectives handles versioned fuel
    | none => pure handles

def skipDocumentEnds : (fuel : Nat) → Read Unit
  | 0 => pure ()
  | fuel + 1 => do
    if (← Read.takeIf isDocumentEnd).isSome then skipDocumentEnds fuel

/-- The start of an explicit document, unless the stream is over. -/
def readDocumentStart (fuel : Nat) : Read (Option Mark) := do
  skipDocumentEnds fuel
  let t ← Read.peek
  if t.kind.isStreamEnd then pure none
  else
    let handles ← readDirectives [] false fuel
    modify fun r => { r with handles := handles ++ standardHandles }
    let found ← Read.peek
    if found.kind.isDocumentStart then
      let _ ← Read.take
      pure (some t.start)
    else Read.fault none (.expectedDocumentStart found.kind.name) found.start

/-- The root of the first document, unless there is none. The first document needs no mark at its
start. -/
def readFirst (fuel : Nat) : Read (Option Nat) := do
  let t ← Read.peek
  if t.kind.isDirective || t.kind.isDocumentStart || t.kind.isStreamEnd then
    match ← readDocumentStart fuel with
    | none => pure none
    | some _ =>
      let root ← orNothing endsDocument (← Read.peek).start (readNode fuel .block)
      pure (some root)
  else
    modify fun r => { r with handles := standardHandles }
    let root ← readNode fuel .block
    pure (some root)

def readSingle (fuel : Nat) : Read (Option Graph) := do
  let _ ← Read.take
  match ← readFirst fuel with
  | none => pure none
  | some root =>
    let _ ← Read.takeIf isDocumentEnd
    match ← readDocumentStart fuel with
    | some m =>
      let start := (← get).nodes[root]?.map (·.start)
      Read.fault (some (.singleDocument, start)) .anotherDocument m
    | none => pure (some ⟨(← get).nodes, root⟩)

def Graph.read? (s : Text) : Scan (Option Graph) := do
  let ts ← tokens s
  let start : Reading := ⟨ts.list, ts.stop, [], [], #[]⟩
  let (graph, _) ← (readSingle (2 * ts.list.length + 4)).run start
  pure graph

end NodeClient.Yaml
