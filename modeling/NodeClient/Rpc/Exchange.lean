import NodeClient.Link.Connection
import NodeClient.Rpc.Reply

/-!
A link with room for one request that waits for its reply. Every line read meanwhile belongs to that
request; blank lines are skipped.
-/

namespace NodeClient

structure Exchange where
  connection : Connection
  pending : Option Int

namespace Exchange

def register (x : Exchange) (id : Int) : Outcome Unit × Exchange :=
  match x.pending with
  | some pending => (.error (.broke (.slotTaken pending)), x)
  | none => (.ok (), { x with pending := some id })

/-- The next line that is not blank; `fuel` bounds the lines that can still be received. -/
def nextLine : (fuel : Nat) → Connection → Outcome Text × Connection
  | 0, c => c.receive
  | fuel + 1, c =>
    match c.receive with
    | (.error stop, c) => (.error stop, c)
    | (.ok line, c) => if Text.isBlank line then nextLine fuel c else (.ok line, c)

def readReply (c : Connection) (id : Int) : Outcome Reply × Connection :=
  match nextLine c.supply c with
  | (.error stop, c) => (.error stop, c)
  | (.ok line, c) => ((Reply.read line id).mapError .failed, c)

/-- Waits for the reply to a request, which is registered if none waits. Whatever comes of it, no
request waits afterwards. -/
def awaitReply (x : Exchange) (id : Int) : Outcome Reply × Exchange :=
  if x.pending = none || x.pending = some id then
    match readReply x.connection id with
    | (outcome, c) => (outcome, ⟨c, none⟩)
  else (.error (.broke (.slotOther id)), x)

end Exchange

end NodeClient
