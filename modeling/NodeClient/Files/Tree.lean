import NodeClient.Files.Path
import NodeClient.Text.Lines

/-!
The files that a run can read. Relative paths start from a working directory.
-/

namespace NodeClient

inductive FileContent where
  | directory
  | file (bytes : Bytes)
  /-- May be neither read nor searched. -/
  | closedDirectory
  /-- May not be read. -/
  | closedFile
deriving DecidableEq

/-- Files and directories by the components of their absolute paths; the directories above them are
there too. -/
structure FileTree where
  entries : List (List Text × FileContent)
  workingDirectory : List Text

inductive FileFault where
  | notFound
  | notDirectory
  | isDirectory
  | nameTooLong
  | denied
  /-- The path has no form that the system takes: a NUL or an unencodable code point. -/
  | nul
  | unencodable
deriving DecidableEq

namespace FileTree

/-- What stands at a place; a directory when something stands below it. -/
def at? (t : FileTree) (place : List Text) : Option FileContent :=
  match t.entries.lookup place with
  | some content => some content
  | none =>
    if place.isEmpty || place.isPrefixOf t.workingDirectory
        || t.entries.any fun entry => place.isPrefixOf entry.1 then some .directory
    else none

/-- The directory above a place; above the root is the root. -/
def above (t : FileTree) (place : List Text) : FileContent :=
  (t.at? place.dropLast).getD .directory

def byteLength (s : Text) : Nat := ((Utf8.encodeSmuggling? s).getD []).length

/-- Follows components from a place; `..` goes up from a directory. -/
def follow (t : FileTree) (place : List Text) (content : FileContent) :
    List Text → Except FileFault FileContent
  | [] => .ok content
  | part :: rest =>
    match content with
    | .file _ | .closedFile => .error .notDirectory
    | .closedDirectory => .error .denied
    | .directory =>
      if 255 < byteLength part then .error .nameTooLong
      else if part = (".." : Text) then
        follow t place.dropLast (t.above place) rest
      else
        match t.at? (place ++ [part]) with
        | none => .error .notFound
        | some content => follow t (place ++ [part]) content rest

/-- The working directory and the root may be searched. -/
def find (t : FileTree) (p : Path) : Except FileFault FileContent :=
  let s := p.text
  if (Utf8.encodeSmuggling? s).isNone then .error .unencodable
  else if s.any fun c => c.val == 0 then .error .nul
  else if 4095 < byteLength s then .error .nameTooLong
  else follow t (if p.root.isEmpty then t.workingDirectory else []) .directory p.parts

def bytes (t : FileTree) (p : Path) : Except FileFault Bytes :=
  match t.find p with
  | .error fault => .error fault
  | .ok .directory => .error .isDirectory
  | .ok .closedDirectory | .ok .closedFile => .error .denied
  | .ok (.file b) => .ok b

end FileTree

namespace FileFault

def numbered (n : Int) (reason : Text) : Cause := ⟨.system, .numbered n (some reason)⟩

/-- What the system reports, unless the path never reached it. -/
def cause? : FileFault → Option Cause
  | .notFound => some (numbered 2 "No such file or directory")
  | .notDirectory => some (numbered 20 "Not a directory")
  | .isDirectory => some (numbered 21 "Is a directory")
  | .nameTooLong => some (numbered 36 "File name too long")
  | .denied => some (numbered 13 "Permission denied")
  | .nul | .unencodable => none

def breakdown (fault : FileFault) : Breakdown :=
  match fault, fault.cause? with
  | _, some cause => .system cause
  | .unencodable, none => .unencodable
  | _, none => .nulInPath

end FileFault

/-- The text of a file, its line marks made LF. -/
def fileText (bytes : Bytes) : Outcome Text :=
  match Utf8.decode? bytes with
  | some s => .ok (Text.universalNewlines s)
  | none => .error (.broke .undecodable)

end NodeClient
