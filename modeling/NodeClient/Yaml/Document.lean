import NodeClient.Datum.SetOrder
import NodeClient.Yaml.Node
import NodeClient.Yaml.Value

/-!
The data of a document. Nodes are taken up level by level from the root, so that the first fault of
the upper levels wins; a mapping takes over the entries of the mappings that its merge keys name.
-/

namespace NodeClient.Yaml

/-- What a node stands for; collections hold the places of nodes. -/
inductive Object where
  | datum (d : Datum)
  | list (items : List Nat)
  | mapping (entries : List (Nat × Nat))
  | set (items : List Nat)
  | pairs (entries : List (Nat × Nat))

/-- The nodes of a graph, what those that were met stand for, and the collections that are still to
be filled, in order. -/
structure Building where
  nodes : Array Node
  objects : Array (Option Object)
  waiting : List Nat

abbrev Build := StateT Building Scan

namespace Build

def fault {α : Type} (activity : Option (Activity × Option Mark)) (problem : Problem) (m : Mark) :
    Build α :=
  throw (.fault ⟨activity, problem, some m⟩)

/-- Places come out of the graph itself, so that there always is a node. -/
def nodeAt (id : Nat) : Build Node := do
  match (← get).nodes[id]? with
  | some node => pure node
  | none => throw (.fault ⟨none, .endOfStream, none⟩)

def object? (id : Nat) : Build (Option Object) := do
  pure ((← get).objects[id]?.join)

def setObject (id : Nat) (object : Object) : Build Unit :=
  modify fun b => { b with objects := b.objects.setIfInBounds id (some object) }

def setEntries (id : Nat) (entries : List (Nat × Nat)) : Build Unit :=
  modify fun b =>
    { b with nodes := b.nodes.modify id fun node => { node with content := .mapping entries } }

def entries (id : Nat) : Build (List (Nat × Nat)) := do
  match (← nodeAt id).content with
  | .mapping entries => pure entries
  | _ => pure []

def hasKind (kind : Kind) (id : Nat) : Build Bool := do
  pure ((← nodeAt id).tag = .known kind)

/-! Merge keys -/

/-- A default value key is text as a key. -/
def retagKey (id : Nat) : Build Unit := do
  if ← hasKind .value id then
    modify fun b =>
      { b with nodes := b.nodes.modify id fun node => { node with tag := .known .str } }

/-- The value of the first merge key among entries, and the other entries. -/
def takeMerge? : List (Nat × Nat) → Build (Option (Nat × List (Nat × Nat)))
  | [] => pure none
  | (key, value) :: rest => do
    if ← hasKind .merge key then pure (some (value, rest))
    else
      let found ← takeMerge? rest
      pure (found.map fun (merged, others) => (merged, (key, value) :: others))

/-- Takes the merge keys out of a mapping one by one; what they bring comes before the other
entries, after what was `brought` so far. Of a list of mappings the last comes first. A mapping that
is met inside itself has lost the merge keys that were taken already. -/
def merge (fuel : Nat) (brought : List (Nat × Nat)) (id : Nat) : Build Unit :=
  match fuel with
  | 0 => pure ()
  | fuel + 1 => do
    let written ← entries id
    match ← takeMerge? written with
    | none =>
      written.forM fun (key, _) => retagKey key
      setEntries id (brought ++ written)
    | some (value, others) =>
      let start := (← nodeAt id).start
      setEntries id others
      let node ← nodeAt value
      match node.content with
      | .mapping _ =>
        merge fuel [] value
        merge fuel (brought ++ (← entries value)) id
      | .sequence items =>
        let found ← items.mapM fun item => do
          let node ← nodeAt item
          match node.content with
          | .mapping _ =>
            merge fuel [] item
            entries item
          | other =>
            fault (some (.mapping, some start)) (.expectedMergeMapping other.name) node.start
        merge fuel (brought ++ found.reverse.flatten) id
      | .scalar _ =>
        fault (some (.mapping, some start)) (.expectedMerge node.content.name) node.start

/-- Every entry may be a merge key, and each is taken out before the next mapping is looked at. -/
def mergeFuel (nodes : Array Node) : Nat :=
  nodes.foldl (fun n node => match node.content with
    | .mapping entries => n + entries.length
    | _ => n) 1

/-! Meeting and filling -/

/-- The text of a scalar; a mapping with a default value key stands for the text of that value. -/
def scalarText (fuel : Nat) (id : Nat) : Build Text :=
  match fuel with
  | 0 => pure []
  | fuel + 1 => do
    let node ← nodeAt id
    match node.content with
    | .scalar text => pure text
    | .sequence _ => fault none (.expectedScalar node.content.name) node.start
    | .mapping entries =>
      match ← entries.filterM fun (key, _) => hasKind .value key with
      | (_, value) :: _ => scalarText fuel value
      | [] => fault none (.expectedScalar node.content.name) node.start

def scalar (node : Node) (kind : Kind) (id : Nat) : Build Datum := do
  let text ← scalarText ((← get).nodes.size + 1) id
  match kind, node.content with
  | .timestamp, .mapping _ => throw (.broke .timestampNotText)
  | _, _ =>
    match kind.value? text node.start with
    | some (.ok d) => pure d
    | some (.error stop) => throw stop
    | none => fault none (.noConstructor node.tag.name) node.start

/-- Takes up a node: a scalar gets its data, a collection waits to be filled. -/
def meet (id : Nat) : Build Unit := do
  if (← object? id).isNone then
    let node ← nodeAt id
    match node.tag with
    | .known .seq | .known .map | .known .set | .known .orderedMap | .known .pairs =>
      setObject id (.list [])
      modify fun b => { b with waiting := b.waiting ++ [id] }
    | .known .merge | .known .value | .other _ =>
      fault none (.noConstructor node.tag.name) node.start
    | .known kind =>
      let d ← scalar node kind id
      setObject id (.datum d)

/-- The data of a key; a collection is no key. -/
def keyDatum (m : Mark) (id : Nat) : Build Datum := do
  match ← object? id with
  | some (.datum d) => pure d
  | _ => fault (some (.mapping, some m)) .unhashableKey (← nodeAt id).start

structure KeyedEntry where
  key : Nat
  datum : Datum
  /-- The key is a word for NaN, all of which stand for one and the same. -/
  isNanWord : Bool
  value : Nat

/-- A key is the same as another with equal data; one that is NaN, only as itself. -/
def KeyedEntry.sameKey (a b : KeyedEntry) : Bool :=
  a.key == b.key || (a.isNanWord && b.isNanWord) || a.datum.sameKey b.datum

/-- A repeated key keeps its first place and takes the last value. -/
def KeyedEntry.insert (new : KeyedEntry) : List KeyedEntry → List KeyedEntry
  | [] => [new]
  | old :: rest =>
    if new.sameKey old then { old with value := new.value } :: rest else old :: new.insert rest

def isNan : Datum → Bool
  | .float x => x.isNan
  | _ => false

/-- Takes up the entries of a mapping. -/
def fillEntries (m : Mark) (known : List KeyedEntry) : List (Nat × Nat) → Build (List (Nat × Nat))
  | [] => pure (known.map fun e => (e.key, e.value))
  | (key, value) :: rest => do
    meet key
    let d ← keyDatum m key
    let isNanWord ←
      if isNan d then pure (Value.isNanWord (← scalarText ((← get).nodes.size + 1) key))
      else pure false
    meet value
    fillEntries m (KeyedEntry.insert ⟨key, d, isNanWord, value⟩ known) rest

def fillMapping (node : Node) (id : Nat) : Build (List (Nat × Nat)) := do
  match node.content with
  | .mapping _ =>
    merge (mergeFuel (← get).nodes) [] id
    fillEntries node.start [] (← entries id)
  | other => fault none (.expectedMapping other.name) node.start

def fillSequence (node : Node) : Build (List Nat) := do
  match node.content with
  | .sequence items =>
    items.forM meet
    pure items
  | other => fault none (.expectedSequence other.name) node.start

/-- The pairs of a list of mappings with one entry each. -/
def fillPairs (activity : Activity) (node : Node) : Build (List (Nat × Nat)) := do
  let around : Option (Activity × Option Mark) := some (activity, some node.start)
  match node.content with
  | .sequence items =>
    items.mapM fun item => do
      let found ← nodeAt item
      match found.content with
      | .mapping [(key, value)] =>
        meet key
        meet value
        pure (key, value)
      | .mapping entries => fault around (.expectedSingleItem entries.length) found.start
      | other => fault around (.expectedSingleMapping other.name) found.start
  | other => fault around (.expectedSequenceFor other.name) node.start

def fill (id : Nat) : Build Unit := do
  let node ← nodeAt id
  match node.tag with
  | .known .map => setObject id (.mapping (← fillMapping node id))
  | .known .set => setObject id (.set ((← fillMapping node id).map (·.1)))
  | .known .orderedMap => setObject id (.pairs (← fillPairs .orderedMap node))
  | .known .pairs => setObject id (.pairs (← fillPairs .pairs node))
  | _ => setObject id (.list (← fillSequence node))

/-- Fills the waiting collections, and those that come to wait. -/
def fillAll : (fuel : Nat) → Build Unit
  | 0 => pure ()
  | fuel + 1 => do
    match (← get).waiting with
    | [] => pure ()
    | id :: rest =>
      modify fun b => { b with waiting := rest }
      fill id
      fillAll fuel

end Build

structure Document where
  objects : Array (Option Object)
  root : Nat

namespace Document

def ofGraph (g : Graph) : Scan Document := do
  let build : Build Unit := do
    Build.meet g.root
    Build.fillAll (g.nodes.size + 1)
  let ((), b) ← build.run ⟨g.nodes, g.nodes.map fun _ => none, []⟩
  pure ⟨b.objects, g.root⟩

def read? (s : Text) : Scan (Option Document) := do
  match ← Graph.read? s with
  | none => pure none
  | some g =>
    let document ← ofGraph g
    pure (some document)

/-- The data at a place, where `path` leads through the collections around it. -/
def unroll (objects : Array (Option Object)) : (fuel : Nat) → (path : List Nat) → Nat → Datum
  | 0, _, _ => .null
  | fuel + 1, path, id =>
    let inside := unroll objects fuel (id :: path)
    let both := fun ((key, value) : Nat × Nat) => (inside key, inside value)
    let around := path.contains id
    match objects[id]?.join with
    | none => .null
    | some (.datum d) => d
    | some (.list items) => if around then .again false else .list (items.map inside)
    | some (.mapping entries) => if around then .again true else .mapping (entries.map both)
    | some (.set items) => .set (Datum.arranged (items.map inside))
    | some (.pairs entries) =>
      if around then .again false
      else .list (entries.map fun (key, value) => .pair (inside key) (inside value))

def datum (d : Document) (place : Nat) : Datum := unroll d.objects (d.objects.size + 1) [] place

def isText (d : Document) (key : Text) (place : Nat) : Bool :=
  match d.objects[place]?.join with
  | some (.datum (.text s)) => s == key
  | _ => false

def entries? (d : Document) (place : Nat) : Option (List (Nat × Nat)) :=
  match d.objects[place]?.join with
  | some (.mapping entries) => some entries
  | _ => none

def isEmpty (d : Document) (place : Nat) : Bool :=
  match d.objects[place]?.join with
  | none => true
  | some (.datum e) => e.isEmpty
  | some (.list items) | some (.set items) => items.isEmpty
  | some (.mapping entries) | some (.pairs entries) => entries.isEmpty

def value? (d : Document) (entries : List (Nat × Nat)) (key : Text) : Option Nat :=
  (entries.find? fun (k, _) => d.isText key k).map (·.2)

end Document

end NodeClient.Yaml
