import NodeClient.Address.Url
import NodeClient.Config.Coerce

/-!
The address of a node: `host:port` for a TCP link, or an `http` or `https` URL.
-/

namespace NodeClient

inductive Scheme where
  | http
  | https
deriving DecidableEq

/-- The parts of an address; all are absent when no address is given. -/
structure Endpoint where
  host : Option Text
  port : Option Int
  scheme : Option Scheme
deriving DecidableEq

namespace Endpoint

def absent : Endpoint := ⟨none, none, none⟩

def scheme? (name : Text) : Option Scheme :=
  if name = ("http" : Text) then some .http
  else if name = ("https" : Text) then some .https
  else none

def readUrl (raw : Text) : Outcome Endpoint :=
  match Url.read? raw with
  | none => .error (.broke .malformedUrl)
  | some url =>
    match scheme? url.scheme, url.host with
    | some scheme, some host =>
      match url.portNumber? with
      | some port => .ok ⟨some host, port.map Int.ofNat, some scheme⟩
      | none => Config.refuse (.endpointPort raw)
    | _, _ => Config.refuse (.endpoint raw)

def isBracket (c : CodePoint) : Bool := c = Url.openBracket || c = Url.closeBracket

/-- The host stands before the last colon; brackets around it are dropped. -/
def readHostPort (raw : Text) : Outcome Endpoint :=
  match Text.splitLast Url.colon raw with
  | (some (c :: host), port) =>
    match Config.port ("address " ++ raw.quoted) (.text port) with
    | .error stop => .error stop
    | .ok port => .ok ⟨some (Text.trim isBracket (c :: host)), port, none⟩
  | _ => Config.refuse (.addressShape raw)

def read (raw : Text) : Outcome Endpoint :=
  if raw.isEmpty then .ok absent
  else
    let raw := Text.strip raw
    if raw.includes "://" then readUrl raw else readHostPort raw

end Endpoint

end NodeClient
