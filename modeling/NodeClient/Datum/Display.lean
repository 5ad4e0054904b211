import NodeClient.Datum.Basic
import NodeClient.Number.Shortest
import NodeClient.Text.Quoted

/-!
Data in messages. Text stands for itself; inside a list or a mapping, and wherever a value is to be
told apart from text, it is quoted.
-/

namespace NodeClient

def padded (width n : Nat) : Text :=
  let digits := Text.ofNat n
  List.replicate (width - digits.length) (CodePoint.ofChar '0') ++ digits

def Date.text (d : Date) : Text :=
  padded 4 d.year ++ "-" ++ padded 2 d.month ++ "-" ++ padded 2 d.day

namespace Time

def offsetText (minutes : Int) : Text :=
  let sign : Text := if minutes < 0 then "-" else "+"
  sign ++ padded 2 (minutes.natAbs / 60) ++ ":" ++ padded 2 (minutes.natAbs % 60)

/-- Hours, minutes, seconds, a fraction unless it is zero, and the offset if there is one. -/
def text (t : Time) : Text :=
  let fraction : Text := if t.microsecond = 0 then [] else "." ++ padded 6 t.microsecond
  let offset : Text := t.offset.elim [] offsetText
  padded 2 t.hour ++ ":" ++ padded 2 t.minute ++ ":" ++ padded 2 t.second ++ fraction ++ offset

end Time

namespace Datum

def separated (items : List Text) : Text := Text.joinWith ", " items

def call (name : Text) (arguments : List Text) : Text := name ++ "(" ++ separated arguments ++ ")"

/-- An offset as days and seconds, the seconds never negative. -/
def zoneText (minutes : Int) : Text :=
  if minutes = 0 then "datetime.timezone.utc"
  else
    let days := minutes / 1440
    let seconds := minutes % 1440 * 60
    let parts : List Text :=
      (if days = 0 then [] else ["days=" ++ Text.ofInt days]) ++
        (if seconds = 0 then [] else ["seconds=" ++ Text.ofInt seconds])
    call "datetime.timezone" [call "datetime.timedelta" parts]

def dateParts (d : Date) : List Text := [Text.ofNat d.year, Text.ofNat d.month, Text.ofNat d.day]

/-- Seconds and their fraction are left out when nothing but zeros would follow. -/
def timeParts (t : Time) : List Text :=
  [Text.ofNat t.hour, Text.ofNat t.minute] ++
    (if t.second = 0 && t.microsecond = 0 then [] else [Text.ofNat t.second]) ++
    (if t.microsecond = 0 then [] else [Text.ofNat t.microsecond]) ++
    (t.offset.elim [] fun minutes => ["tzinfo=" ++ zoneText minutes])

def braced (body : Text) : Text := CodePoint.ofChar '{' :: body ++ [CodePoint.ofChar '}']

mutual

/-- The form that tells text from other data. -/
def literal : Datum → Text
  | .null => "None"
  | .bool true => "True"
  | .bool false => "False"
  | .int n => Text.ofInt n
  | .float x => x.text
  | .text s => s.quoted
  | .bytes b => quotedBytes b
  | .date d => call "datetime.date" (dateParts d)
  | .dateTime d t => call "datetime.datetime" (dateParts d ++ timeParts t)
  | .list items => "[" ++ separated (literals items) ++ "]"
  | .pair first second => "(" ++ first.literal ++ ", " ++ second.literal ++ ")"
  | .mapping entries => braced (separated (entryLiterals entries))
  | .set [] => "set()"
  | .set (item :: rest) => braced (separated (item.literal :: literals rest))
  | .again false => "[...]"
  | .again true => braced "..."

def literals : List Datum → List Text
  | [] => []
  | d :: rest => d.literal :: literals rest

def entryLiterals : List (Datum × Datum) → List Text
  | [] => []
  | (k, v) :: rest => (k.literal ++ ": " ++ v.literal) :: entryLiterals rest

end

/-- The form for people: text and times are not quoted. -/
def display : Datum → Text
  | .text s => s
  | .date d => d.text
  | .dateTime d t => d.text ++ " " ++ t.text
  | d => d.literal

mutual

/-- Whether every integer inside has few enough digits to be written. -/
def writable : Datum → Bool
  | .int n => n.natAbs < Nat.pow 10 maxDigits
  | .list items | .set items => allWritable items
  | .pair first second => first.writable && second.writable
  | .mapping entries => entriesWritable entries
  | _ => true

def allWritable : List Datum → Bool
  | [] => true
  | d :: rest => d.writable && allWritable rest

def entriesWritable : List (Datum × Datum) → Bool
  | [] => true
  | (k, v) :: rest => k.writable && v.writable && entriesWritable rest

end

end Datum

def Json.Value.literal (v : Json.Value) : Text := (Datum.ofJson v).literal

def Json.Value.display (v : Json.Value) : Text := (Datum.ofJson v).display

end NodeClient
