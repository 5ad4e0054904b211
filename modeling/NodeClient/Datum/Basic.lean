import NodeClient.Json.Value
import NodeClient.Text.Utf8

/-!
Data of a configuration: what a YAML document can hold, JSON values among them.
-/

namespace NodeClient

/-- A day of the calendar, and a time of day on it with the offset from universal time in
minutes. -/
structure Date where
  year : Nat
  month : Nat
  day : Nat
deriving DecidableEq

structure Time where
  hour : Nat
  minute : Nat
  second : Nat
  microsecond : Nat
  offset : Option Int
deriving DecidableEq

/-- `again` stands inside a list or a mapping for that list or mapping itself. -/
inductive Datum where
  | null
  | bool (b : Bool)
  | int (n : Int)
  | float (x : Binary64)
  | text (s : Text)
  | bytes (b : Bytes)
  | date (d : Date)
  | dateTime (d : Date) (t : Time)
  | list (items : List Datum)
  | pair (first second : Datum)
  | mapping (entries : List (Datum × Datum))
  | set (items : List Datum)
  | again (isMapping : Bool)

instance : Inhabited Datum := ⟨.null⟩

namespace Datum

mutual

def ofJson : Json.Value → Datum
  | .null => .null
  | .bool b => .bool b
  | .int n => .int n
  | .float x => .float x
  | .str s => .text s
  | .arr items => .list (ofJsonItems items)
  | .obj members => .mapping (ofJsonMembers members)

def ofJsonItems : List Json.Value → List Datum
  | [] => []
  | v :: rest => ofJson v :: ofJsonItems rest

def ofJsonMembers : List (Text × Json.Value) → List (Datum × Datum)
  | [] => []
  | (k, v) :: rest => (.text k, ofJson v) :: ofJsonMembers rest

end

/-- Empty data, which counts as no data at the top of a document. -/
def isEmpty : Datum → Bool
  | .null => true
  | .bool b => !b
  | .int n => n == 0
  | .float x => x.equalsInt 0
  | .text s => s.isEmpty
  | .bytes b => b.isEmpty
  | .list items => items.isEmpty
  | .mapping entries => entries.isEmpty
  | .set items => items.isEmpty
  | .date _ | .dateTime .. | .pair .. | .again _ => false

end Datum

end NodeClient
