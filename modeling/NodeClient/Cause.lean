import NodeClient.Text.Basic

/-!
What the system or the HTTP library reports when a dial, a send, a read or a post does not succeed.
-/

namespace NodeClient

inductive CauseKind where
  | system
  | timeout
  | nameLookup
  | interrupt
  /-- Raised by a post that could not reach the node. -/
  | unreachable (name : Text)
  /-- Raised by a post that failed in another way. -/
  | httpTrouble (name : Text)
deriving DecidableEq

inductive CauseDetail where
  | bare
  | described (text : Text)
  | numbered (number : Int) (reason : Option Text)
deriving DecidableEq

structure Cause where
  kind : CauseKind
  detail : CauseDetail
deriving DecidableEq

namespace Cause

def isInterrupt (c : Cause) : Bool := c.kind == .interrupt

/-- The name of the kind, shown when nothing else is known. -/
def kindName : CauseKind → Text
  | .system => "OSError"
  | .timeout => "TimeoutError"
  | .nameLookup => "gaierror"
  | .interrupt => "KeyboardInterrupt"
  | .unreachable name => name
  | .httpTrouble name => name

def text (c : Cause) : Text :=
  match c.detail with
  | .bare => []
  | .described text => text
  | .numbered n reason => "[Errno " ++ Text.ofInt n ++ "] " ++ reason.getD "None"

def number? (c : Cause) : Option Int :=
  match c.detail with
  | .numbered n _ => some n
  | _ => none

/-- The system's own words, else the text, else the name of the kind. -/
def reason (c : Cause) : Text :=
  let fallback := if c.text.isEmpty then kindName c.kind else c.text
  match c.detail with
  | .numbered _ (some words) => if words.isEmpty then fallback else words
  | _ => fallback

end Cause

end NodeClient
