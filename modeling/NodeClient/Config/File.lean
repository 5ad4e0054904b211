import NodeClient.Config.Settings
import NodeClient.Files.Tree
import NodeClient.Yaml.Document

/-!
The configuration file: a YAML mapping whose `node` entry holds the settings. A file that was asked
for has to exist; the one in the home directory may be missing.
-/

namespace NodeClient.Config

def yamlStop (path text : Text) : Yaml.Stop → Stop
  | .fault f => .failed (.configuration (.invalidYaml path (f.text text)))
  | .unacceptable c position =>
    .failed (.configuration (.invalidYaml path (Yaml.unacceptableText c position)))
  | .broke b => .broke b

def nodeSettings (path : Text) (d : Yaml.Document) (place : Nat) : Outcome Settings :=
  match d.entries? place with
  | some entries =>
    .ok (.ofFields fun name => (d.value? entries name).elim .null d.datum)
  | none => if isNull (d.datum place) then .ok .unset else refuse (.nodeNotMapping path)

def documentSettings (path : Text) (d : Yaml.Document) : Outcome Settings :=
  if d.isEmpty d.root then .ok .unset
  else
    match d.entries? d.root with
    | none => refuse (.notMapping path)
    | some entries =>
      match d.value? entries "node" with
      | none => .ok .unset
      | some place => nodeSettings path d place

def textSettings (path text : Text) : Outcome Settings :=
  match Yaml.Document.read? text with
  | .error stop => .error (yamlStop path text stop)
  | .ok none => .ok .unset
  | .ok (some d) => documentSettings path d

/-- Whether a path leads to nothing, as opposed to a place that cannot be read. -/
def isMissing : FileFault → Bool
  | .notFound | .notDirectory | .nul | .unencodable => true
  | .isDirectory | .nameTooLong | .denied => false

def fileSettings (t : FileTree) (path : Path) (required : Bool) : Outcome Settings :=
  match t.bytes path with
  | .ok bytes =>
    match fileText bytes with
    | .error stop => .error stop
    | .ok text => textSettings path.text text
  | .error fault =>
    if !isMissing fault then .error (.broke fault.breakdown)
    else if required then refuse (.fileNotFound path.text)
    else .ok .unset

end NodeClient.Config

namespace NodeClient

/-- The world that an invocation reads from: its files, the homes of users, and its variables. -/
structure Surroundings where
  files : FileTree
  homes : Path.Homes
  environment : Text → Option Text

namespace NodeConfig

def defaultFileName : Text := ".witnet-cli.yaml"

/-- The path of the configuration file, and whether it has to exist. -/
def filePath (homes : Path.Homes) (requested : Option Text) : Outcome (Path × Bool) :=
  match requested with
  | none => .ok (homes.own.append [defaultFileName], false)
  | some path => ((Path.read path).expand homes).map fun path => (path, true)

def load (s : Surroundings) (requested : Option Text) (overrides : Config.Settings) :
    Outcome NodeConfig := do
  let (path, required) ← filePath s.homes requested
  let file ← Config.fileSettings s.files path required
  resolve path.text overrides (.ofEnvironment s.environment) file

end NodeConfig

end NodeClient
