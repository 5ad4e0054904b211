import NodeClient.CommandLine.Invocation
import NodeClient.CommandLine.Report
import NodeClient.Config.File
import NodeClient.Json.Reader
import NodeClient.Link.Dial
import NodeClient.RawSession
import NodeClient.Shape

/-!
A whole invocation: local checks, then the configuration, then one link, one result and its text. A
failure is reported in the log and becomes the exit code of its category.
-/

namespace NodeClient

/-- Everything that an invocation depends on besides its words. -/
structure World where
  surroundings : Surroundings
  peer : Peer
  input : Bytes
  /-- Whether a person types the input. -/
  tty : Bool

namespace Invocation

abbrev Step := Outcome Nat × Journal

def stopped (stop : Stop) : Step := (.error stop, [])

/-! Links -/

/-- An address left blank is one that says nothing, but stands before those of other sources. -/
def overrides (o : Options) : Config.Settings :=
  let address : Datum :=
    match o.address with
    | .absent => .null
    | .blank => .list []
    | .text s => .text s
  { Config.Settings.unset with address := address }

/-- The path of the configuration file that is asked for; one left blank is no path. -/
def requestedFile (o : Options) : Outcome (Option Text) :=
  match o.config with
  | .absent => .ok none
  | .blank => .error (.broke .pathNotText)
  | .text s => .ok (some s)

def openLink (w : World) (o : Options) : Outcome Connection × Journal :=
  let loaded :=
    (requestedFile o).bind fun path => NodeConfig.load w.surroundings path (overrides o)
  match loaded with
  | .error stop => (.error stop, [])
  | .ok config =>
    match config.address with
    | .error stop => (.error stop, [])
    | .ok address => w.peer.connect address config.timeout

/-- Works with an open link, which is closed whatever comes of the work. -/
def withLink (w : World) (o : Options) (work : Connection → Outcome α × Connection) :
    Outcome α × Journal :=
  match openLink w o with
  | (.error stop, journal) => (.error stop, journal)
  | (.ok c, _) =>
    match work c with
    | (outcome, c) => (outcome, c.close.journal)

/-- Prints a result; nothing is printed for no text. Standard output is taken as one in UTF-8 that
accepts all it is given: only text that has no UTF-8 form is refused. -/
def printed (o : Options) (m : Method) (journal : Journal) (v : Json.Value) : Step :=
  let text := renderResult m.name v o.json
  if text.isEmpty then (.ok 0, journal)
  else if text.hasSurrogate then (.error (.broke .unencodable), journal)
  else (.ok 0, journal ++ [.wrote (text ++ [CodePoint.newline])])

def query (w : World) (o : Options) (m : Method)
    (ask : Client → Outcome Json.Value × Client) : Step :=
  let answered := withLink w o fun c =>
    match ask (.start c 1) with
    | (outcome, cl) => (outcome, cl.exchange.connection)
  match answered with
  | (.error stop, journal) => (.error stop, journal)
  | (.ok v, journal) => printed o m journal v

/-! Items of the inventory -/

/-- The text of an item: as it stands, or that of the file named after an `@`. -/
def itemText (s : Surroundings) (raw : Text) : Outcome Text :=
  match raw with
  | [] => .ok raw
  | c :: name =>
    if c != CodePoint.ofChar '@' then .ok raw
    else
      match (Path.read name).expand s.homes with
      | .error stop => .error stop
      | .ok path =>
        match s.files.bytes path with
        | .ok bytes => fileText bytes
        | .error fault =>
          match fault.cause? with
          | none => .error (.broke fault.breakdown)
          | some cause =>
            let reason := cause.text ++ ": " ++ path.text.quoted
            .error (.failed (.arguments (.unreadableItem path.text reason)))

def readItem (text : Text) : Outcome Json.Value :=
  match Json.read text with
  | .ok v => .ok v
  | .error .longInteger => .error (.broke .longInteger)
  | .error (.malformed problem left) =>
    .error (.failed (.arguments (.itemNotJson (problem.describe text left))))

def checkedItem (s : Surroundings) (raw : Text) : Outcome Argument := do
  let text ← itemText s raw
  let v ← readItem text
  let _ ← Method.inventory.params [.value v]
  pure (.value v)

/-! Commands -/

/-- Works with a checked argument; nothing is opened for one that does not pass. -/
def withChecked (check : Outcome α) (work : α → Step) : Step :=
  match check with
  | .error stop => stopped stop
  | .ok a => work a

def performRaw (w : World) (o : Options) : Step :=
  withLink w o fun c =>
    let ending := RawSession.runBytes w.tty true c w.input
    (ending.outcome, ending.connection)

def perform (w : World) (i : Invocation) : Step :=
  let o := i.options
  match i.command with
  | .raw => performRaw w o
  | .blockChain epoch limit =>
    withChecked (Method.orArguments (Epoch.checkLimit limit)) fun _ =>
      query w o .blockChain fun cl => cl.blockChain epoch limit
  | .block raw =>
    withChecked (Method.orArguments (readHash "block hash" raw)) fun hash =>
      query w o .block fun cl => cl.block hash
  | .output raw =>
    withChecked (OutputPointer.read raw) fun pointer =>
      query w o .output fun cl => cl.output (.pointer pointer)
  | .syncStatus => query w o .syncStatus fun cl => cl.syncStatus
  | .inventory raw =>
    withChecked (checkedItem w.surroundings raw) fun item =>
      query w o .inventory fun cl => cl.inventory item

def run (w : World) (i : Invocation) : Step :=
  match perform w i with
  | (.error (.failed f), journal) => (.ok f.exitCode, journal ++ f.report)
  | (.error .interrupted, journal) => (.ok Stop.interrupted.exitCode, journal ++ [interruptNote])
  | (.error (.broke b), journal) => (.error (.broke b), journal)
  | (.ok code, journal) => (.ok code, journal)

end Invocation

namespace CommandLine

def run (w : World) (words : List Text) : Reading (Invocation × Invocation.Step) :=
  (read words).map fun i => (i, i.run w)

end CommandLine

end NodeClient
