import NodeClient.Failure
import NodeClient.Journal

/-!
What the log says about a failure that ends an invocation.
-/

namespace NodeClient

namespace Failure

def headline (f : Failure) : Text :=
  match f with
  | .connect address cause => "Connection to " ++ address ++ " failed: " ++ cause.reason
  | .remote code message _ => "Node returned error " ++ Text.ofInt code ++ ": " ++ message
  | .protocol .. => "Protocol error: " ++ f.message
  | _ => f.message

def reportLine (text : Text) : Event := .log .error .cli text

def report (f : Failure) : Journal :=
  reportLine f.headline :: (f.hint?.map fun hint => reportLine ("Hint: " ++ hint)).toList

end Failure

def interruptNote : Event := .log .info .cli "Interrupted by user"

end NodeClient
