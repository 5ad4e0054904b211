import NodeClient.Rpc.Method
import NodeClient.Json.Writer

/-!
JSON-RPC requests, each a single line of text, and the supply of their ids.
-/

namespace NodeClient

structure Request where
  id : Int
  method : Text
  params : Json.Value

namespace Request

def toValue (r : Request) : Json.Value :=
  .obj [("jsonrpc", .str "2.0"), ("method", .str r.method), ("params", r.params),
    ("id", .int r.id)]

/-- The line of a request, unless it holds an integer too long to be written. -/
def line (r : Request) : Outcome Text :=
  if r.toValue.writable then .ok r.toValue.compact else .error (.broke .longInteger)

end Request

/-- Hands out request ids, each one higher than the last. -/
structure Builder where
  nextId : Int
deriving DecidableEq

namespace Builder

/-- Rejected arguments use up no id. -/
def build (b : Builder) (command : Text) (args : List Argument) : Outcome (Request × Builder) :=
  match checkedParams command args with
  | .error stop => .error stop
  | .ok params => .ok (⟨b.nextId, command, .arr params⟩, ⟨b.nextId + 1⟩)

end Builder

end NodeClient
