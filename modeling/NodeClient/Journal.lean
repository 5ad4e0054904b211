import NodeClient.Number.Binary64
import NodeClient.Text.Basic

/-!
The journal of a run: everything that can be observed of it, in order.
-/

namespace NodeClient

inductive Level where
  | debug
  | info
  | error
deriving DecidableEq

inductive Topic where
  | request
  | client
  | transport
  | raw
  | cli
deriving DecidableEq

inductive Event where
  | log (level : Level) (topic : Topic) (text : Text)
  | dial (host : Text) (port : Int) (timeout : Binary64)
  /-- A line was given to the link, whatever became of it. -/
  | handed (line : Text)
  | sent (bytes : Bytes)
  | received (line : Text)
  | wrote (text : Text)
  | closed

abbrev Journal := List Event

def Level.name : Level → Text
  | .debug => "DEBUG"
  | .info => "INFO"
  | .error => "ERROR"

def Topic.name : Topic → Text
  | .request => "witnet_cli.request"
  | .client => "witnet_cli.rpc_client"
  | .transport => "witnet_cli.transport"
  | .raw => "witnet_cli.raw"
  | .cli => "witnet_cli.cli"

namespace Journal

/-- The lines of the log; debug records are shown only on demand. -/
def logLines (verbose : Bool) (j : Journal) : List Text :=
  j.filterMap fun
    | .log level topic text =>
      if level = .debug && !verbose then none
      else some (level.name ++ " " ++ topic.name ++ ": " ++ text)
    | _ => none

def sent (j : Journal) : List Bytes :=
  j.filterMap fun
    | .sent bytes => some bytes
    | _ => none

def handed (j : Journal) : List Text :=
  j.filterMap fun
    | .handed line => some line
    | _ => none

def received (j : Journal) : List Text :=
  j.filterMap fun
    | .received line => some line
    | _ => none

def output (j : Journal) : Text :=
  j.flatMap fun
    | .wrote text => text
    | _ => []

def dials (j : Journal) : List (Text × Int × Binary64) :=
  j.filterMap fun
    | .dial host port timeout => some (host, port, timeout)
    | _ => none

end Journal

end NodeClient
