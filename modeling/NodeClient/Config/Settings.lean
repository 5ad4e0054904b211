import NodeClient.Address.Endpoint
import NodeClient.Config.Coerce

/-!
What the sources of configuration say about a node, and the configuration that follows. Overrides
come before the environment, the environment before the file, the file before the defaults; an
address counts as part of its own source for being chosen, but its parts come right after the
overrides.
-/

namespace NodeClient.Config

/-- What one source says; a field that it does not set is null. -/
structure Settings where
  address : Datum
  host : Datum
  port : Datum
  useHttps : Datum
  timeout : Datum

namespace Settings

def unset : Settings := ⟨.null, .null, .null, .null, .null⟩

def ofFields (field : Text → Datum) : Settings :=
  ⟨field "address", field "host", field "port", field "use_https", field "connect_timeout"⟩

def ofEnvironment (lookup : Text → Option Text) : Settings :=
  let read (name : Text) : Datum := (lookup name).elim .null .text
  ⟨read "WITNET_NODE_ADDRESS", read "WITNET_NODE_HOST", read "WITNET_NODE_PORT",
    read "WITNET_NODE_USE_HTTPS", read "WITNET_NODE_TIMEOUT"⟩

end Settings

def defaultHost : Text := "127.0.0.1"
def defaultPort : Int := 21338

def defaultTimeout : Binary64 := Binary64.ofFraction false 10 1

def isNull : Datum → Bool
  | .null => true
  | _ => false

def first (ds : List Datum) : Datum := (ds.find? fun d => !isNull d).getD .null

/-- An address has to be text, unless it is empty and counts as absent. -/
def endpoint (raw : Datum) : Outcome Endpoint :=
  match raw with
  | .text s => Endpoint.read s
  | raw =>
    if raw.isEmpty then .ok .absent
    else
      match raw with
      | .bytes _ => .error (.broke .addressBytes)
      | _ => .error (.broke .addressNotText)

end NodeClient.Config

namespace NodeClient

structure NodeConfig where
  host : Datum
  port : Int
  useHttp : Bool
  useHttps : Bool
  timeout : Binary64

namespace NodeConfig

open Config

def standard : NodeConfig := ⟨.text defaultHost, defaultPort, false, false, defaultTimeout⟩

def address (c : NodeConfig) : Outcome Text :=
  match shown c.host with
  | .error stop => .error stop
  | .ok host =>
    let start : Text := if c.useHttps then "https://" else if c.useHttp then "http://" else []
    .ok (start ++ host ++ ":" ++ Text.ofInt c.port)

/-- The configuration that the sources give together; `path` names the file in messages. Every port
and every timeout is checked, also those that a better source replaces. -/
def resolve (path : Text) (overrides environment file : Settings) : Outcome NodeConfig := do
  let found ← endpoint (first [overrides.address, environment.address, file.address])
  let host := first [overrides.host, found.host.elim .null .text, environment.host, file.host,
    .text defaultHost]
  let p₁ ← Config.port "overrides" overrides.port
  let p₂ ← Config.port "environment" environment.port
  let p₃ ← Config.port (path ++ " node.port") file.port
  let scheme? : Option Bool := found.scheme.map (· == .https)
  let useHttps := (switch? overrides.useHttps <|> scheme? <|> switch? environment.useHttps <|>
    switch? file.useHttps).getD false
  let t₁ ← Config.timeout "overrides" overrides.timeout
  let t₂ ← Config.timeout "environment" environment.timeout
  let t₃ ← Config.timeout (path ++ " node.connect_timeout") file.timeout
  pure {
    host := host
    port := (p₁ <|> found.port <|> p₂ <|> p₃).getD defaultPort
    useHttp := found.scheme == some .http
    useHttps := useHttps
    timeout := (t₁ <|> t₂ <|> t₃).getD defaultTimeout }

end NodeConfig

end NodeClient
