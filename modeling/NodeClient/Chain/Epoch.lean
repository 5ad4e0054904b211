import NodeClient.Failure

/-!
Which epochs a block listing asks for. A negative epoch `-k` stands for the last `k` epochs up to
the tip of the chain, so it can be resolved only against the current height.
-/

namespace NodeClient

/-- A first epoch and a count, each left to the node when absent. -/
structure EpochRange where
  start : Option Int
  count : Option Int
deriving DecidableEq

namespace EpochRange

/-- A count is sent only after a start. -/
def params (r : EpochRange) : List Json.Value :=
  match r.start, r.count with
  | none, _ => []
  | some start, none => [.int start]
  | some start, some count => [.int start, .int count]

end EpochRange

namespace Epoch

def checkLimit (limit : Option Int) : Except ArgumentFault Unit :=
  match limit with
  | none => .ok ()
  | some n => if n ≤ 0 then .error (.limit n) else .ok ()

def needsHeight (epoch : Option Int) : Bool :=
  match epoch with
  | none => false
  | some e => e < 0

def resolve (epoch limit height : Option Int) : Except ArgumentFault EpochRange := do
  checkLimit limit
  match epoch with
  | none => pure ⟨limit.map fun _ => 0, limit⟩
  | some e =>
    if 0 ≤ e then pure ⟨some e, limit⟩
    else match height with
      | none => .error .heightUnknown
      | some h =>
        if h < 0 then .error (.heightNegative h)
        else pure ⟨some (max 0 (h + e + 1)), some (limit.getD (-e))⟩

end Epoch

end NodeClient
