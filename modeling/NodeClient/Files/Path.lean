import NodeClient.Failure
import NodeClient.Text.Utf8

/-!
Paths as they are written and shown: without empty components and without `.` components; `..`
stays.
-/

namespace NodeClient

structure Path where
  /-- The slashes at the start: none, one, or exactly two. -/
  root : Text
  parts : List Text
deriving DecidableEq

namespace Path

def slash : CodePoint := CodePoint.ofChar '/'

def tilde : CodePoint := CodePoint.ofChar '~'

def rootOf (s : Text) : Text :=
  match (s.takeWhile (· == slash)).length with
  | 0 => []
  | 2 => [slash, slash]
  | _ => [slash]

def read (s : Text) : Path :=
  ⟨rootOf s, (Text.splitAll slash s).filter fun part => !part.isEmpty && part != ("." : Text)⟩

def text (p : Path) : Text :=
  match p.root, p.parts with
  | [], [] => "."
  | root, parts => root ++ Text.joinWith [slash] parts

def append (p : Path) (parts : List Text) : Path := { p with parts := p.parts ++ parts }

/-- The home directories of the user of the program and of others, by name. -/
structure Homes where
  own : Path
  others : List (Text × Path)

/-- The home of another user; a name that the system cannot take is an accident of its own. -/
def Homes.find (homes : Homes) (name : Text) : Outcome Path :=
  if (Utf8.encodeSmuggling? name).isNone then .error (.broke .unencodable)
  else if name.any fun c => c.val == 0 then .error (.broke .nulInPath)
  else
    match homes.others.lookup name with
    | some home => .ok home
    | none => .error (.broke .homeUnknown)

/-- A leading `~` stands for the home of the user, a leading `~name` for that of another. -/
def expand (homes : Homes) (p : Path) : Outcome Path :=
  match p.root, p.parts with
  | [], (c :: name) :: rest =>
    if c = tilde then
      if name.isEmpty then .ok (homes.own.append rest)
      else (homes.find name).map fun home => home.append rest
    else .ok p
  | _, _ => .ok p

end Path

end NodeClient
