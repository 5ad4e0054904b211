import NodeClient.Failure
import NodeClient.Journal
import NodeClient.Text.Blank
import NodeClient.Text.Utf8

/-!
A line-oriented link to a node. A TCP stream carries one line in each direction at a time, ended by
LF; an HTTP endpoint gets every line as the body of a post and queues the body of the answer as a
line. What the peer will do is part of the link: the bytes it sends before it closes, the faults
that sends and reads meet, the answers to posts.
-/

namespace NodeClient

/-- The peer of a TCP link. Sends and reads that reach the socket are counted, and a count may meet
a fault. -/
structure Stream where
  unread : Bytes
  sends : Nat
  reads : Nat
  sendFault : Nat → Option Cause
  readFault : Nat → Option Cause

/-- What comes of a post: an answer with a body that can be decoded, a fault that the system or the
HTTP library reports, or another breakdown, known by its name, of the post or of the decoding of its
answer. -/
inductive Post where
  | answer (status : Int) (body : Text)
  | raises (cause : Cause)
  | breaks (name : Text)
deriving DecidableEq

inductive Wire where
  | stream (s : Stream)
  | http (posts : List Post) (replies : List Text)

structure Connection where
  address : Text
  closed : Bool
  wire : Wire
  journal : Journal

def Stream.start (unread : Bytes) (sendFault readFault : Nat → Option Cause) : Stream :=
  ⟨unread, 0, 0, sendFault, readFault⟩

/-- The bytes of a line on the wire: without its line marks, then one LF. -/
def frame? (line : Text) : Option Bytes :=
  (Utf8.encodeSmuggling? (Text.dropLineEnd line)).map fun bytes => bytes ++ [0x0A]

/-- The first line of a stream with its LF, and the rest. -/
def takeLine : Bytes → Bytes × Bytes
  | [] => ([], [])
  | b :: rest =>
    if b = 0x0A then ([b], rest)
    else match takeLine rest with
      | (line, after) => (b :: line, after)

def lineText (bytes : Bytes) : Text := Text.dropLineEnd (Utf8.decodeReplacing bytes)

/-- An answer's body as a line: no blanks around it, no line marks inside. -/
def bodyLine (body : Text) : Text := (Text.strip body).filter fun c => !c.isLineMark

/-- How a cause ends a step on a socket, where all but an interrupt are failures of the link. -/
def stopOf (cause : Cause) (fault : Cause → LinkFault) : Stop :=
  if cause.isInterrupt then .interrupted else .failed (.disconnected (fault cause))

/-- How a cause ends a post: only trouble reported by the HTTP library is a failure of the link. -/
def postStop (address : Text) (cause : Cause) : Stop :=
  match cause.kind with
  | .interrupt => .interrupted
  | .unreachable _ => .failed (.connect address cause)
  | .httpTrouble _ => .failed (.disconnected (.httpFailed address cause))
  | .system | .timeout | .nameLookup => .broke (.system cause)

namespace Connection

def note (c : Connection) (e : Event) : Connection := { c with journal := c.journal ++ [e] }

def debug (c : Connection) (text : Text) : Connection := c.note (.log .debug .transport text)

def lost {α : Type} (c : Connection) (fault : LinkFault) : Outcome α × Connection :=
  (.error (.failed (.disconnected fault)), c)

def sendStream (c : Connection) (s : Stream) (bytes : Bytes) : Outcome Unit × Connection :=
  let c := { c with wire := .stream { s with sends := s.sends + 1 } }
  match s.sendFault s.sends with
  | some cause => (.error (stopOf cause (.lostSending c.address)), c)
  | none => (.ok (), c.note (.sent bytes))

def sendPost (c : Connection) (posts : List Post) (replies : List Text) (bytes : Bytes) :
    Outcome Unit × Connection :=
  let c := c.note (.sent bytes)
  let rest := { c with wire := .http posts.tail replies }
  match posts.head?.getD (.answer 200 []) with
  | .raises cause => (.error (postStop c.address cause), rest)
  | .breaks name => (.error (.broke (.stated name)), rest)
  | .answer status body =>
    if (Text.strip body).isEmpty then rest.lost (.emptyBody c.address status)
    else (.ok (), { c with wire := .http posts.tail (replies ++ [bodyLine body]) })

def send (c : Connection) (line : Text) : Outcome Unit × Connection :=
  let c := c.note (.handed line)
  if c.closed then c.lost (.closed c.address)
  else
    let c := c.debug ("-> " ++ line)
    match frame? line with
    | none => (.error (.broke .unencodable), c)
    | some bytes =>
      match c.wire with
      | .stream s => c.sendStream s bytes
      | .http posts replies => c.sendPost posts replies bytes

def deliver (c : Connection) (line : Text) : Outcome Text × Connection :=
  (.ok line, (c.debug ("<- " ++ line)).note (.received line))

def receiveStream (c : Connection) (s : Stream) : Outcome Text × Connection :=
  let s' := { s with reads := s.reads + 1 }
  match s.readFault s.reads with
  | some cause =>
    (.error (stopOf cause (.lostReading c.address)), { c with wire := .stream s' })
  | none =>
    match s.unread with
    | [] => { c with wire := .stream s' }.lost (.ended c.address)
    | _ :: _ =>
      let line := takeLine s.unread
      { c with wire := .stream { s' with unread := line.2 } }.deliver (lineText line.1)

def receive (c : Connection) : Outcome Text × Connection :=
  match c.wire with
  | .stream s => if c.closed then c.lost (.closed c.address) else c.receiveStream s
  | .http posts replies =>
    match replies with
    | [] => c.lost (.noReply c.address)
    | line :: rest => { c with wire := .http posts rest }.deliver line

/-- Closing a closed link does nothing. -/
def close (c : Connection) : Connection :=
  if c.closed then c
  else
    let c := { c with closed := true }.note .closed
    match c.wire with
    | .stream _ => c.debug ("Closed connection to " ++ c.address)
    | .http .. => c

/-- A bound on the lines that can still be received. -/
def supply (c : Connection) : Nat :=
  match c.wire with
  | .stream s => s.unread.length
  | .http _ replies => replies.length

end Connection

end NodeClient
