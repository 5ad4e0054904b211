import NodeClient.Client

/-!
Results for people. Each method has a shape that its results are expected to have; a result of
another form is shown as JSON.
-/

namespace NodeClient

inductive Shape where
  | passThrough (v : Json.Value)
  | blockChain (entries : List (Int × Text))
  | syncStatus (checkpoint : Int) (hash : Option Text) (epoch : Option Json.Value)
      (state : Option Text)
  | inventoryAck (accepted : Bool)

namespace Shape

def entry? : Json.Value → Option (Int × Text)
  | .arr [.int epoch, .str digest] => some (epoch, digest)
  | _ => none

def ofBlockChain (v : Json.Value) : Shape :=
  match v with
  | .arr items =>
    match items.mapM entry? with
    | some entries => .blockChain entries
    | none => .passThrough v
  | _ => .passThrough v

/-- A member that is present and not null. -/
def present? (v : Json.Value) (key : Text) : Option Json.Value :=
  match v.get? key with
  | some .null => none
  | other => other

/-- The hash of the beacon's previous block, under either spelling of its name. -/
def beaconHash? (beacon : Json.Value) : Option Text :=
  match (beacon.get? "hashPrevBlock").orElse fun _ => beacon.get? "hash_prev_block" with
  | some (.str hash) => some hash
  | _ => none

def ofSyncStatus (v : Json.Value) : Shape :=
  match chainHeight? v with
  | none => .passThrough v
  | some checkpoint =>
    .syncStatus checkpoint ((v.get? "chain_beacon").bind beaconHash?) (present? v "current_epoch")
      ((present? v "node_state").map (·.display))

def ofInventory (v : Json.Value) : Shape :=
  match v with
  | .bool accepted => .inventoryAck accepted
  | _ => .passThrough v

def interpret (command : Text) (v : Json.Value) : Shape :=
  match Method.ofName? command with
  | some .blockChain => ofBlockChain v
  | some .syncStatus => ofSyncStatus v
  | some .inventory => ofInventory v
  | _ => .passThrough v

def entryLine (entry : Int × Text) : Text :=
  "Block for epoch #" ++ Text.ofInt entry.1 ++ " had digest " ++ entry.2

def knownHash (hash : Option Text) : Text :=
  match hash with
  | some (c :: s) => c :: s
  | _ => "unknown"

def lines (ls : List Text) : Text := Text.joinWith [CodePoint.newline] ls

def render : Shape → Text
  | .passThrough v => v.indented
  | .blockChain entries => lines (entries.map entryLine)
  | .syncStatus checkpoint hash epoch state =>
    let beacon :=
      "Chain beacon: epoch #" ++ Text.ofInt checkpoint ++ " with hash " ++ knownHash hash
    let current : Option Text := epoch.map fun v => "Current epoch: #" ++ v.display
    let node : Option Text := state.map fun s => "Node state: " ++ s
    lines (beacon :: (current.toList ++ node.toList))
  | .inventoryAck true => "Inventory item accepted by the node"
  | .inventoryAck false => "Inventory item rejected by the node"

end Shape

def renderResult (command : Text) (v : Json.Value) (asJson : Bool) : Text :=
  if asJson then v.indented else (Shape.interpret command v).render

end NodeClient
