import NodeClient.Rpc.Exchange
import NodeClient.Rpc.Request

/-!
A client of a node: one link, one supply of ids, and requests strictly one after the other.
-/

namespace NodeClient

structure Client where
  exchange : Exchange
  nextId : Int

/-- The epoch of the chain tip in a `syncStatus` result. -/
def chainHeight? (status : Json.Value) : Option Int :=
  match (status.get? "chain_beacon").bind (·.get? "checkpoint") with
  | some (.int n) => some n
  | _ => none

namespace Client

def start (c : Connection) (firstId : Int) : Client := ⟨⟨c, none⟩, firstId⟩

def note (cl : Client) (e : Event) : Client :=
  { cl with exchange := { cl.exchange with connection := cl.exchange.connection.note e } }

def close (cl : Client) : Client :=
  { cl with exchange := { cl.exchange with connection := cl.exchange.connection.close } }

/-- Hands the line of a request to the link. A failure frees the place of the request, an interrupt
does not. -/
def post (x : Exchange) (r : Request) : Outcome Unit × Exchange :=
  match r.line with
  | .error stop => (.error stop, { x with pending := none })
  | .ok line =>
    match x.connection.send line with
    | (.error .interrupted, c) => (.error .interrupted, { x with connection := c })
    | (.error stop, c) => (.error stop, ⟨c, none⟩)
    | (.ok (), c) => (.ok (), { x with connection := c })

def resultOf (reply : Reply) : Outcome Json.Value :=
  match reply.body with
  | .result v => .ok v
  | .error e => .error (.failed (.remote e.code e.message e.data))

def perform (x : Exchange) (r : Request) : Outcome Json.Value × Exchange :=
  match x.register r.id with
  | (.error stop, x) => (.error stop, x)
  | (.ok (), x) =>
    match post x r with
    | (.error stop, x) => (.error stop, x)
    | (.ok (), x) =>
      match x.awaitReply r.id with
      | (.error stop, x) => (.error stop, x)
      | (.ok reply, x) => (resultOf reply, x)

def call (cl : Client) (command : Text) (args : List Argument) : Outcome Json.Value × Client :=
  match (Builder.mk cl.nextId).build command args with
  | .error stop => (.error stop, cl)
  | .ok (r, b) =>
    let id := Text.ofInt r.id
    let cl := { cl with nextId := b.nextId }
    let cl := cl.note (.log .debug .request
      ("Built request " ++ id ++ " " ++ command ++ " params=" ++ r.params.literal))
    let cl := cl.note (.log .debug .client
      ("RPC call " ++ command ++ " id=" ++ id ++ " params=" ++ r.params.literal))
    match perform cl.exchange r with
    | (outcome, x) => (outcome, { cl with exchange := x })

def syncStatus (cl : Client) : Outcome Json.Value × Client := cl.call Method.syncStatus.name []

def height (cl : Client) : Outcome Int × Client :=
  match cl.syncStatus with
  | (.error stop, cl) => (.error stop, cl)
  | (.ok status, cl) =>
    match chainHeight? status with
    | some h => (.ok h, cl)
    | none => (.error (.failed (.protocol (.noCheckpoint status.literal) none none none)), cl)

def listRange (cl : Client) (range : Except ArgumentFault EpochRange) :
    Outcome Json.Value × Client :=
  match range with
  | .error fault => (.error (.failed (.arguments fault)), cl)
  | .ok r => cl.call Method.blockChain.name [.range r]

/-- Lists blocks; a negative epoch is first resolved against the tip of the chain. -/
def blockChain (cl : Client) (epoch limit : Option Int) : Outcome Json.Value × Client :=
  match Epoch.checkLimit limit with
  | .error fault => (.error (.failed (.arguments fault)), cl)
  | .ok () =>
    match epoch with
    | none => cl.listRange (Epoch.resolve none limit none)
    | some e =>
      if e < 0 then
        match cl.height with
        | (.error stop, cl) => (.error stop, cl)
        | (.ok h, cl) =>
          let cl := cl.note (.log .debug .client
            ("Resolving epoch " ++ Text.ofInt e ++ " against chain height " ++ Text.ofInt h))
          cl.listRange (Epoch.resolve (some e) limit (some h))
      else cl.listRange (Epoch.resolve (some e) limit none)

def block (cl : Client) (hash : Text) : Outcome Json.Value × Client :=
  cl.call Method.block.name [.value (.str hash)]

def output (cl : Client) (pointer : Argument) : Outcome Json.Value × Client :=
  cl.call Method.output.name [pointer]

def inventory (cl : Client) (item : Argument) : Outcome Json.Value × Client :=
  cl.call Method.inventory.name [item]

end Client

end NodeClient
