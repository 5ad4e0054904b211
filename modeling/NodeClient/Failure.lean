import NodeClient.Cause
import NodeClient.Text.Quoted
import NodeClient.Json.Value

/-!
The ways in which an invocation ends early: failures, each of a category with its exit code, an
interrupt by the user, and breakdowns, which no part of the program expects. The wording of a
failure is in `Failure.message` alone.
-/

namespace NodeClient

/-- Bad input found before anything is sent. -/
inductive ArgumentFault where
  | limit (n : Int)
  | heightUnknown
  | heightNegative (height : Int)
  | hash (what raw : Text)
  | pointerShape (raw : Text)
  | transactionId (hex : Text)
  | outputIndex (digits : Text)
  | transactionIdLength
  | outputIndexNegative
  | argumentCount (method : Text) (expected found : Nat)
  | tooManyArguments (method : Text) (most found : Nat)
  | notResolved (method argument literal : Text)
  | hashNotText (method : Text)
  | notPointer (method : Text)
  | itemShape (method : Text)
  | itemKind (kind : Text) (known : List Text)
  | unknownCommand (command : Text)
  | unreadableItem (path reason : Text)
  | itemNotJson (problem : Text)
  | stated (text : Text)

inductive ConfigurationFault where
  | fileNotFound (path : Text)
  | invalidYaml (path diagnostic : Text)
  | notMapping (path : Text)
  | nodeNotMapping (path : Text)
  | invalidPort (source raw : Text)
  | portRange (source raw : Text)
  | invalidTimeout (source raw : Text)
  | timeoutNotPositive (source raw : Text)
  | endpoint (raw : Text)
  | endpointPort (raw : Text)
  | addressShape (raw : Text)
  | noAddress
  | stated (text : Text)

/-- The link to the node at `address` is gone or gave nothing. -/
inductive LinkFault where
  | closed (address : Text)
  | lostSending (address : Text) (cause : Cause)
  | lostReading (address : Text) (cause : Cause)
  | ended (address : Text)
  | httpFailed (address : Text) (cause : Cause)
  | emptyBody (address : Text) (status : Int)
  | noReply (address : Text)
  | stated (text : Text)

/-- What makes a line no reply to the request that waits for one. -/
inductive ReplyFault where
  | notJson (request : Int) (line : Text)
  | notResponse (request : Int) (line : Text)
  | noId (request : Int) (detail : Text)
  | otherId (request : Int) (literal : Text)
  | malformedError (request : Int) (line : Text)
  | errorCode (request : Int) (line : Text)
  | neither (request : Int) (line : Text)
  | noCheckpoint (literal : Text)
  | stated (text : Text)

inductive ErrorCode where
  | int (n : Int)
  | bool (b : Bool)
deriving DecidableEq

inductive Failure where
  | general (text : Text)
  | configuration (fault : ConfigurationFault)
  | localInput (text : Text)
  | arguments (fault : ArgumentFault)
  | transport (text : Text)
  | disconnected (fault : LinkFault)
  | connect (address : Text) (cause : Cause)
  | protocol (fault : ReplyFault) (request : Option Int) (line : Option Text)
      (code : Option ErrorCode)
  | remote (code : Int) (message : Text) (data : Json.Value)

/-- Conditions that the program leaves to the system. -/
inductive Breakdown where
  | slotTaken (pending : Int)
  | slotOther (id : Int)
  | homeUnknown
  | longInteger
  | malformedUrl
  | malformedScalar
  | nulInPath
  | unknownWord
  | emptyNumber
  | pathNotText
  | addressNotText
  | addressBytes
  | notTimestamp
  | timestampNotText
  | numberTooLarge
  | undecodable
  | unencodable
  | system (cause : Cause)
  /-- Another one, by its name. -/
  | stated (text : Text)

inductive Stop where
  | failed (failure : Failure)
  | interrupted
  | broke (breakdown : Breakdown)

abbrev Outcome := Except Stop

/-- The start of a line, marked where it was cut. -/
def preview (line : Text) : Text :=
  if line.length ≤ 120 then line else line.take 120 ++ "…"

/-- Numbers are written out in full, however long; those of a command line or of a reply have no
more than 4300 digits. -/
def ArgumentFault.message : ArgumentFault → Text
  | .limit n => "limit must be a positive integer, got " ++ Text.ofInt n
  | .heightUnknown => "a negative epoch needs the current chain height"
  | .heightNegative h => "chain height must be non-negative, got " ++ Text.ofInt h
  | .hash what raw => what ++ " must be exactly 64 hex characters (32 bytes), got " ++ raw.quoted
  | .pointerShape raw =>
    "output pointer must look like <transaction id>:<index>, got " ++ raw.quoted
  | .transactionId hex => "transaction id must be exactly 64 hex characters, got " ++ hex.quoted
  | .outputIndex digits => "output index must be a non-negative integer, got " ++ digits.quoted
  | .transactionIdLength => "transaction id must be exactly 32 bytes"
  | .outputIndexNegative => "output index must be non-negative"
  | .argumentCount method expected found =>
    method ++ " takes exactly " ++ Text.ofNat expected ++
      (if expected = 1 then " argument" else " arguments") ++ ", got " ++ Text.ofNat found
  | .tooManyArguments method most found =>
    method ++ " takes at most " ++ Text.ofNat most ++ " arguments, got " ++ Text.ofNat found
  | .notResolved method argument literal =>
    method ++ " " ++ argument ++ " must be a resolved non-negative integer, got " ++ literal
  | .hashNotText method => method ++ " expects a block hash string"
  | .notPointer method => method ++ " expects an output pointer"
  | .itemShape method =>
    method ++ " expects a JSON object with a single 'block' or 'transaction' key"
  | .itemKind kind known =>
    "unknown inventory item type " ++ kind.quoted ++ "; expected one of " ++
      Text.joinWith ", " known
  | .unknownCommand command => "unknown command: " ++ command
  | .unreadableItem path reason => "cannot read inventory item from " ++ path ++ ": " ++ reason
  | .itemNotJson problem => "inventory item is not valid JSON: " ++ problem
  | .stated text => text

def ConfigurationFault.message : ConfigurationFault → Text
  | .fileNotFound path => "Config file not found: " ++ path
  | .invalidYaml path diagnostic => "Invalid YAML in config file " ++ path ++ ": " ++ diagnostic
  | .notMapping path => "Expected " ++ path ++ " to contain a YAML object with a 'node' section"
  | .nodeNotMapping path => "Expected 'node' to be a mapping in " ++ path
  | .invalidPort source raw => "Invalid port in " ++ source ++ ": " ++ raw
  | .portRange source raw => "Port out of range in " ++ source ++ ": " ++ raw
  | .invalidTimeout source raw => "Invalid connect timeout in " ++ source ++ ": " ++ raw
  | .timeoutNotPositive source raw =>
    "Connect timeout must be positive in " ++ source ++ ": " ++ raw
  | .endpoint raw => "Invalid node endpoint URL: " ++ raw
  | .endpointPort raw => "Invalid port in node endpoint URL: " ++ raw
  | .addressShape raw => "Node address must look like host:port, got " ++ raw.quoted
  | .noAddress => "no node address configured"
  | .stated text => text

def LinkFault.message : LinkFault → Text
  | .closed address => "connection to " ++ address ++ " is closed"
  | .lostSending address cause =>
    "connection to " ++ address ++ " lost while sending: " ++ cause.text
  | .lostReading address cause =>
    "connection to " ++ address ++ " lost while reading: " ++ cause.text
  | .ended address => "connection closed by " ++ address
  | .httpFailed address cause => "HTTP request to " ++ address ++ " failed: " ++ cause.text
  | .emptyBody address status =>
    "node at " ++ address ++ " returned HTTP " ++ Text.ofInt status ++ " without a body"
  | .noReply address => "no reply pending from " ++ address
  | .stated text => text

def ReplyFault.message : ReplyFault → Text
  | .notJson request line =>
    "reply to request " ++ Text.ofInt request ++ " is not valid JSON: " ++ preview line
  | .notResponse request line =>
    "reply to request " ++ Text.ofInt request ++ " is not a JSON-RPC response: " ++ preview line
  | .noId request detail =>
    "node could not correlate request " ++ Text.ofInt request ++ " (id: null, " ++ detail ++ ")"
  | .otherId request literal =>
    "expected reply to request " ++ Text.ofInt request ++ " but got id " ++ literal
  | .malformedError request line =>
    "reply to request " ++ Text.ofInt request ++ " has a malformed error member: " ++ preview line
  | .errorCode request line =>
    "reply to request " ++ Text.ofInt request ++ " has a non-integer error code: " ++ preview line
  | .neither request line =>
    "reply to request " ++ Text.ofInt request ++ " has neither a result nor an error: " ++
      preview line
  | .noCheckpoint literal => "syncStatus reply has no chain_beacon.checkpoint: " ++ literal
  | .stated text => text

namespace Failure

def message : Failure → Text
  | .general text => text
  | .configuration fault => fault.message
  | .localInput text => text
  | .arguments fault => fault.message
  | .transport text => text
  | .disconnected fault => fault.message
  | .connect address cause => "could not connect to " ++ address ++ ": " ++ cause.reason
  | .protocol fault .. => fault.message
  | .remote code message _ => "RPC error " ++ Text.ofInt code ++ ": " ++ message

/-- Failures of the link: the code that a raw session ends with. -/
def isTransport : Failure → Bool
  | .transport _ | .disconnected _ | .connect .. => true
  | _ => false

def exitCode : Failure → Nat
  | .general _ => 1
  | .configuration _ | .localInput _ | .arguments _ => 2
  | .transport _ | .disconnected _ | .connect .. => 3
  | .protocol .. => 4
  | .remote .. => 5

end Failure

def Stop.exitCode : Stop → Nat
  | .failed failure => failure.exitCode
  | .interrupted => 130
  | .broke _ => 1

/-- Advice for the error codes that a person can act on. -/
def hintForCode (code : Int) : Option Text :=
  if code = -32700 then some "The node could not parse the request as JSON."
  else if code = -32600 then some "The request is not a valid JSON-RPC 2.0 object."
  else if code = -32601 then some "The node does not expose this method; check the node version."
  else if code = -32602 then some "The node rejected the parameters; check the argument format."
  else none

def hintedCodes : List Int := [-32700, -32600, -32601, -32602]

/-- A floating-point number that equals a code counts as the code. -/
def hintForValue : Json.Value → Option Text
  | .int n => hintForCode n
  | .float x => (hintedCodes.find? x.equalsInt).bind hintForCode
  | _ => none

def Failure.hint? : Failure → Option Text
  | .remote code _ _ => hintForCode code
  | .protocol _ _ _ (some (.int code)) => hintForCode code
  | _ => none

end NodeClient
