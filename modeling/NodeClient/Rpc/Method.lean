import NodeClient.Chain.Epoch
import NodeClient.Chain.Pointer
import NodeClient.Datum.Display

/-!
The methods of a node and the parameters each of them takes.
-/

namespace NodeClient

inductive Method where
  | blockChain
  | block
  | output
  | syncStatus
  | inventory
deriving DecidableEq

namespace Method

def name : Method → Text
  | .blockChain => "getBlockChain"
  | .block => "getBlock"
  | .output => "getOutput"
  | .syncStatus => "syncStatus"
  | .inventory => "inventory"

def all : List Method := [.blockChain, .block, .output, .syncStatus, .inventory]

def ofName? (name : Text) : Option Method := all.find? fun m => m.name = name

end Method

/-- An argument of a method: a JSON value, a range of epochs or a pointer to an output. -/
inductive Argument where
  | value (v : Json.Value)
  | range (r : EpochRange)
  | pointer (p : OutputPointer)

namespace Argument

def bound (n : Option Int) : Text := n.elim "None" Text.ofInt

def literal : Argument → Text
  | .value v => v.literal
  | .range r => "EpochRange(start=" ++ bound r.start ++ ", count=" ++ bound r.count ++ ")"
  | .pointer p =>
    "OutputPointer(transaction_id=" ++ quotedBytes p.transactionId ++ ", output_index=" ++
      Text.ofNat p.outputIndex ++ ")"

end Argument

namespace Method

def inventoryKinds : List Text := ["block", "transaction"]

def resolvedNumber (argument : Text) (a : Argument) : Except ArgumentFault Int :=
  match a with
  | .value (.int n) =>
    if n < 0 then .error (.notResolved blockChain.name argument a.literal) else .ok n
  | _ => .error (.notResolved blockChain.name argument a.literal)

def blockChainParams : List Argument → Except ArgumentFault (List Json.Value)
  | [] => .ok []
  | [.range r] => do
    Epoch.checkLimit r.count
    pure r.params
  | [epoch] => do pure [.int (← resolvedNumber "epoch" epoch)]
  | [epoch, limit] => do
    let start ← resolvedNumber "epoch" epoch
    let count ← resolvedNumber "limit" limit
    Epoch.checkLimit (some count)
    pure [.int start, .int count]
  | args => .error (.tooManyArguments blockChain.name 2 args.length)

def blockParams : List Argument → Except ArgumentFault (List Json.Value)
  | [.value (.str hash)] => do pure [.str (← readHash "block hash" hash)]
  | [_] => .error (.hashNotText block.name)
  | args => .error (.argumentCount block.name 1 args.length)

def outputParams : List Argument → Outcome (List Json.Value)
  | [.value (.str raw)] => do pure [.str (← OutputPointer.read raw).text]
  | [.pointer p] => .ok [.str p.text]
  | [_] => .error (.failed (.arguments (.notPointer output.name)))
  | args => .error (.failed (.arguments (.argumentCount output.name 1 args.length)))

def syncStatusParams : List Argument → Except ArgumentFault (List Json.Value)
  | [] => .ok []
  | args => .error (.argumentCount syncStatus.name 0 args.length)

def inventoryParams : List Argument → Except ArgumentFault (List Json.Value)
  | [.value (.obj [(kind, item)])] =>
    if inventoryKinds.contains kind then .ok [.obj [(kind, item)]]
    else .error (.itemKind kind inventoryKinds)
  | [_] => .error (.itemShape inventory.name)
  | args => .error (.argumentCount inventory.name 1 args.length)

def orArguments {α : Type} (result : Except ArgumentFault α) : Outcome α :=
  result.mapError fun fault => .failed (.arguments fault)

/-- The parameters that go on the wire, or why the arguments do not fit the method. -/
def params (m : Method) (args : List Argument) : Outcome (List Json.Value) :=
  match m with
  | .blockChain => orArguments (blockChainParams args)
  | .block => orArguments (blockParams args)
  | .output => outputParams args
  | .syncStatus => orArguments (syncStatusParams args)
  | .inventory => orArguments (inventoryParams args)

end Method

def checkedParams (command : Text) (args : List Argument) : Outcome (List Json.Value) :=
  match Method.ofName? command with
  | none => .error (.failed (.arguments (.unknownCommand command)))
  | some m => m.params args

end NodeClient
