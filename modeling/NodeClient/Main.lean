import NodeClient.CommandLine.Run
import Std.Async.DNS
import Std.Async.TCP

/-!
The program. An invocation is a function of all that it will see of the node, so it is run on what
was seen so far: its new effects are carried out, and when it asks for a line that has not come yet,
more is received and it is run again.
-/

namespace NodeClient.Program

open Std.Async

structure Seen where
  dialFault : Option Cause
  sendFault : Option (Nat × Cause)
  readFault : Option Cause
  received : Bytes
  ended : Bool

def Seen.nothing : Seen := ⟨none, none, none, [], false⟩

/-- Stands at the first line that has not been received yet. -/
def pause : Cause := ⟨.interrupt, .bare⟩

/-- Posts need a transport that this program does not have. -/
def noPost : Post :=
  .raises ⟨.unreachable "ConnectionError", .described "HTTP endpoints are not available"⟩

/-- The system that dials for this program; names beyond ASCII are left to its look-up. -/
def system (fault : Option Cause) : Obstacle := .system (fun _ => true) none fault

def Seen.lines (s : Seen) : Nat := s.received.count 0x0A

def Seen.peer (s : Seen) : Peer :=
  let readFault (i : Nat) : Option Cause :=
    if i < s.lines then none else if s.ended then s.readFault else some pause
  let sendFault (i : Nat) : Option Cause :=
    s.sendFault.bind fun (index, cause) => if index = i then some cause else none
  ⟨some (system s.dialFault), .start s.received sendFault readFault, [noPost, noPost]⟩

def stringOf (s : Text) : String := String.ofList (s.map fun c => Char.ofNat c.val)

def causeOf (e : IO.Error) : Cause := ⟨.system, .described (toString e)⟩

/-! The node -/

def addressesOf (host : Text) (port : Int) : Async (List Std.Net.SocketAddress) := do
  let port := UInt16.ofNat port.toNat
  let found ← DNS.getAddrInfo (stringOf host) ""
  pure (found.toList.map fun
    | .v4 a => .v4 ⟨a, port⟩
    | .v6 a => .v6 ⟨a, port⟩)

def dialFirst (sock : TCP.Socket.Client) : List Std.Net.SocketAddress → Async Unit
  | [] => throw (IO.userError "no address for the host")
  | [a] => sock.connect a
  | a :: rest => do
    try sock.connect a
    catch _ => dialFirst sock rest

def dial (host : Text) (port : Int) : IO TCP.Socket.Client := do
  let sock ← TCP.Socket.Client.mk
  let work : Async Unit := do
    let addresses ← addressesOf host port
    dialFirst sock addresses
  work.block
  pure sock

/-- Receives up to the end of a line, or up to the end of the stream. -/
partial def receive (sock : TCP.Socket.Client) (s : Seen) : IO Seen := do
  match ← (sock.recv? 65536).block with
  | none => pure { s with ended := true }
  | some bytes =>
    let s := { s with received := s.received ++ bytes.toList }
    if bytes.toList.contains 0x0A then pure s else receive sock s

/-! Effects -/

def printLine (verbose : Bool) (e : Event) : IO Unit := do
  for line in Journal.logLines verbose [e] do
    IO.eprintln (stringOf line)

/-- Carries out events from the first on. Gives the number of them that are done, the socket, and
what was seen when one of them failed. -/
def carryOut (verbose : Bool) (seen : Seen) (sock : Option TCP.Socket.Client) (sends done : Nat) :
    List Event → IO (Nat × Nat × Option TCP.Socket.Client × Option Seen)
  | [] => pure (done, sends, sock, none)
  | e :: rest => do
    match e, sock with
    | .dial host port timeout, _ =>
      -- a run that breaks here has no link to open
      if ((system none).stop? [] host timeout).isSome then
        return ← carryOut verbose seen sock sends (done + 1) rest
      try
        let opened ← dial host port
        carryOut verbose seen (some opened) sends (done + 1) rest
      catch fault =>
        pure (done + 1, sends, none, some { seen with dialFault := some (causeOf fault) })
    | .sent bytes, some sock =>
      try
        (sock.send ⟨bytes.toArray⟩).block
        carryOut verbose seen (some sock) (sends + 1) (done + 1) rest
      catch fault =>
        pure (done, sends, some sock, some { seen with sendFault := some (sends, causeOf fault) })
    | .wrote text, sock =>
      IO.print (stringOf text)
      (← IO.getStdout).flush
      carryOut verbose seen sock sends (done + 1) rest
    | e, sock =>
      printLine verbose e
      carryOut verbose seen sock sends (done + 1) rest

def isClosing : Event → Bool
  | .closed => true
  | _ => false

/-- Runs an invocation on what was seen, and again on more, until it ends. -/
partial def advance (w : World) (i : Invocation) (seen : Seen) (sock : Option TCP.Socket.Client)
    (sends done : Nat) : IO UInt32 := do
  let (outcome, journal) := i.run { w with peer := seen.peer }
  let paused : Bool :=
    match outcome with
    | .ok code => code == Stop.interrupted.exitCode
    | .error _ => false
  let due := if paused then journal.takeWhile fun e => !isClosing e else journal
  let (done, sends, sock, failed) ←
    carryOut i.options.verbose seen sock sends done (due.drop done)
  match failed, paused, sock with
  | some seen, _, sock => advance w i seen sock sends done
  | none, true, some live =>
    let seen ←
      try receive live seen
      catch fault => pure { seen with ended := true, readFault := some (causeOf fault) }
    advance w i seen sock sends done
  | none, _, _ =>
    match outcome with
    | .ok code => pure (UInt32.ofNat code)
    | .error _ =>
      IO.eprintln "unexpected condition"
      pure 1

/-! Surroundings -/

def variableNames : List String :=
  ["WITNET_NODE_ADDRESS", "WITNET_NODE_HOST", "WITNET_NODE_PORT", "WITNET_NODE_USE_HTTPS",
    "WITNET_NODE_TIMEOUT"]

def environment : IO (Text → Option Text) := do
  let values ← variableNames.mapM fun name => do
    let value ← IO.getEnv name
    pure ((name : Text), value.map Text.ofString)
  pure fun name => (values.lookup name).join

def entryOf (cwd : Path) (p : Path) : IO (Option (List Text × FileContent)) := do
  let place := if p.root.isEmpty then cwd.parts ++ p.parts else p.parts
  try
    let bytes ← IO.FS.readBinFile (stringOf p.text)
    pure (some (place, .file bytes.toList))
  catch fault =>
    match fault with
    | .noFileOrDirectory .. => pure none
    | .permissionDenied .. => pure (some (place, .closedFile))
    | _ => pure (some (place, .directory))

def pathsOf (homes : Path.Homes) (i : Invocation) : List Path :=
  let config :=
    match (Invocation.requestedFile i.options).bind (NodeConfig.filePath homes) with
    | .ok (p, _) => [p]
    | .error _ => []
  match i.command with
  | .inventory (_ :: name) =>
    match (Path.read name).expand homes with
    | .ok p => p :: config
    | .error _ => config
  | _ => config

def surroundingsOf (i : Invocation) : IO Surroundings := do
  let cwd := Path.read ((← IO.currentDir).toString)
  let homes : Path.Homes := ⟨Path.read ((← IO.getEnv "HOME").getD "/"), []⟩
  let entries ← (pathsOf homes i).mapM (entryOf cwd)
  pure ⟨⟨entries.filterMap id, cwd.parts⟩, homes, ← environment⟩

/-- The input is read only by a session of raw lines. -/
def inputOf (i : Invocation) : IO Bytes := do
  match i.command with
  | .raw =>
    let bytes ← (← IO.getStdin).readBinToEnd
    pure bytes.toList
  | _ => pure []

def usage : String :=
  "usage: witnet-cli [-h] [--address ADDRESS] [--config CONFIG] [--json] [-v] COMMAND ..."

def run (words : List String) : IO UInt32 := do
  match CommandLine.read (words.map Text.ofString) with
  | .error refusal =>
    if refusal = .help then IO.println usage else IO.eprintln usage
    pure (UInt32.ofNat refusal.exitCode)
  | .ok i =>
    let tty ← (← IO.getStdin).isTty
    let world : World := ⟨← surroundingsOf i, Seen.nothing.peer, ← inputOf i, tty⟩
    advance world i .nothing none 0 0

end NodeClient.Program

def main (words : List String) : IO UInt32 := NodeClient.Program.run words
