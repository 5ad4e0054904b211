import NodeClient.Address.Endpoint
import NodeClient.Link.Connection
import NodeClient.Link.Dialing

/-!
Opening a link. A TCP address is dialed; behind an HTTP URL nothing happens before the first post.
-/

namespace NodeClient

/-- What a peer does when it is dialed and after that: the obstacle that the dial meets, the stream of
a TCP link, the answers to posts. A dial without an obstacle goes to a stand-in for a node, which
takes any name and any wait. -/
structure Peer where
  obstacle : Option Obstacle
  stream : Stream
  posts : List Post

namespace Peer

def info (text : Text) : Event := .log .info .transport text

/-- The address of a TCP link is that of the host and port that were dialed. -/
def dialed (host : Text) (port : Int) : Text := host ++ ":" ++ Text.ofInt port

def dialStop? (p : Peer) (host : Text) (port : Int) (timeout : Binary64) : Option Stop :=
  p.obstacle.bind fun obstacle => obstacle.stop? (dialed host port) host timeout

def dial (p : Peer) (address host : Text) (port : Int) (timeout : Binary64) :
    Outcome Connection × Journal :=
  let started : Journal := [info ("Connecting to " ++ address), .dial host port timeout]
  match p.dialStop? host port timeout with
  | some stop => (.error stop, started)
  | none =>
    let dialed := dialed host port
    let journal := started ++ [info ("Connected to " ++ dialed)]
    (.ok ⟨dialed, false, .stream p.stream, journal⟩, journal)

/-- Opens a link; the journal says what was done, also when no link came out of it. -/
def connect (p : Peer) (address : Text) (timeout : Binary64) : Outcome Connection × Journal :=
  match Endpoint.read address with
  | .error stop => (.error stop, [])
  | .ok ⟨some _, _, some _⟩ =>
    let journal := [info ("Using HTTP endpoint " ++ address)]
    (.ok ⟨address, false, .http p.posts [], journal⟩, journal)
  | .ok ⟨some host, some port, none⟩ => p.dial address host port timeout
  | .ok _ => (.error (.failed (.configuration .noAddress)), [])

end Peer

end NodeClient
