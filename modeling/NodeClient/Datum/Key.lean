import NodeClient.Datum.Basic

/-!
When two data are the same key of a mapping: truth values count as 0 and 1, numbers are compared by
value across their types, NaN differs from every number, and times with an offset are compared by
the instant that they name.
-/

namespace NodeClient

namespace Date

def isLeapYear (year : Nat) : Bool := year % 4 == 0 && (year % 100 != 0 || year % 400 == 0)

def daysInMonth (year month : Nat) : Nat :=
  if month = 2 then if isLeapYear year then 29 else 28
  else if [4, 6, 9, 11].contains month then 30
  else 31

/-- Days since the last day before year 1. -/
def dayNumber (d : Date) : Nat :=
  let years := d.year - 1
  let months := (List.range (d.month - 1)).map fun m => daysInMonth d.year (m + 1)
  years * 365 + years / 4 - years / 100 + years / 400 + months.foldl (· + ·) 0 + d.day

end Date

/-- Microseconds of universal time. -/
def instant (d : Date) (t : Time) (offset : Int) : Int :=
  let minutes : Int := (d.dayNumber * 24 + t.hour) * 60 + t.minute - offset
  (minutes * 60 + t.second) * 1000000 + t.microsecond

namespace Datum

def whole? : Datum → Option Int
  | .bool b => some (if b then 1 else 0)
  | .int n => some n
  | _ => none

def sameTime (d : Date) (t : Time) (e : Date) (u : Time) : Bool :=
  match t.offset, u.offset with
  | some a, some b => instant d t a == instant e u b
  | none, none => d == e && t == u
  | _, _ => false

def sameKey (a b : Datum) : Bool :=
  match a, b with
  | .null, .null => true
  | .text s, .text t => s == t
  | .bytes s, .bytes t => s == t
  | .date d, .date e => d == e
  | .dateTime d t, .dateTime e u => sameTime d t e u
  | .float x, .float y => x.numEq y
  | .float x, n | n, .float x => n.whole?.any x.equalsInt
  | m, n => m.whole?.isSome && m.whole? == n.whole?

end Datum

end NodeClient
