import NodeClient.Datum.Key
import NodeClient.Number.Numeral

/-!
Days and times as YAML writes them: a day alone, or a day and a time of day with an optional
fraction and an optional time zone.
-/

namespace NodeClient.Yaml

def isMark (mark : Char) (c : CodePoint) : Bool := c == CodePoint.ofChar mark

/-- Without one LF at the end, which a form allows. -/
def dropFinalBreak (s : Text) : Text :=
  if s.getLast? = some CodePoint.newline then s.dropLast else s

inductive Zone where
  | unstated
  | utc
  | offset (west : Bool) (hours minutes : Nat)

structure Clock where
  hour : Nat
  minute : Nat
  second : Nat
  microsecond : Nat
  zone : Zone

structure Timestamp where
  year : Nat
  month : Nat
  day : Nat
  clock : Option Clock
  /-- Month and day have two digits each. -/
  padded : Bool

namespace Timestamp

/-- The digits at the start, at most `most` of them, and the rest; none if there are fewer than
`least`. -/
def digits? (least most : Nat) (s : Text) : Option (Text × Text) :=
  let found := (s.take most).takeWhile CodePoint.isDigit
  if found.length < least then none else some (found, s.drop found.length)

def number? (least most : Nat) (s : Text) : Option (Nat × Text) :=
  (digits? least most s).map fun (found, rest) => (Numeral.value found, rest)

def pass? (mark : Char) (s : Text) : Option Text :=
  match s with
  | c :: r => if isMark mark c then some r else none
  | [] => none

def isBlankMark (c : CodePoint) : Bool := isMark ' ' c || c.val == 0x09

/-- The first six digits of a fraction of a second. -/
def microseconds (fraction : Text) : Nat :=
  let shown := fraction.take 6
  Numeral.value shown * Nat.pow 10 (6 - shown.length)

/-- Nothing, `Z`, or a sign with hours and perhaps minutes; blanks may come first. -/
def zone? (s : Text) : Option Zone :=
  match s, s.dropWhile isBlankMark with
  | [], _ => some .unstated
  | _, [] => none
  | _, c :: r =>
    if isMark 'Z' c then if r.isEmpty then some .utc else none
    else if isMark '-' c || isMark '+' c then do
      let (hours, r) ← number? 1 2 r
      match r with
      | [] => some (.offset (isMark '-' c) hours 0)
      | r =>
        let (minutes, r) ← number? 2 2 (← pass? ':' r)
        if r.isEmpty then some (.offset (isMark '-' c) hours minutes) else none
    else none

/-- What separates a day from a time: a letter, or blanks. -/
def passSeparator? (s : Text) : Option Text :=
  match s with
  | c :: r =>
    if isMark 'T' c || isMark 't' c then some r
    else if isBlankMark c then some (r.dropWhile isBlankMark)
    else none
  | [] => none

def clock? (s : Text) : Option Clock := do
  let (hour, s) ← number? 1 2 (← passSeparator? s)
  let (minute, s) ← number? 2 2 (← pass? ':' s)
  let (second, s) ← number? 2 2 (← pass? ':' s)
  let (fraction, s) :=
    match pass? '.' s with
    | some r => (r.takeWhile CodePoint.isDigit, r.dropWhile CodePoint.isDigit)
    | none => ([], s)
  pure ⟨hour, minute, second, microseconds fraction, ← zone? s⟩

def read? (s : Text) : Option Timestamp := do
  let (year, s) ← number? 4 4 (dropFinalBreak s)
  let (month, s) ← digits? 1 2 (← pass? '-' s)
  let (day, s) ← digits? 1 2 (← pass? '-' s)
  let padded : Bool := month.length == 2 && day.length == 2
  let clock ← if s.isEmpty then pure none else (clock? s).map some
  pure ⟨year, Numeral.value month, Numeral.value day, clock, padded⟩

/-- A plain scalar is a time only in these forms: a day alone has all its digits. -/
def isTimestamp (s : Text) : Bool :=
  match read? s with
  | some t => t.padded || t.clock.isSome
  | none => false

def date? (t : Timestamp) : Option Date :=
  let inMonth := 1 ≤ t.day && t.day ≤ Date.daysInMonth t.year t.month
  if 1 ≤ t.year && 1 ≤ t.month && t.month ≤ 12 && inMonth then
    some ⟨t.year, t.month, t.day⟩
  else none

/-- The offset from universal time in minutes, which stays below a day. -/
def offset? : Zone → Option (Option Int)
  | .unstated => some none
  | .utc => some (some 0)
  | .offset west hours minutes =>
    let total := hours * 60 + minutes
    if total < 1440 then some (some (if west then -total else total)) else none

def time? (c : Clock) : Option Time := do
  let offset ← offset? c.zone
  if c.hour < 24 && c.minute < 60 && c.second < 60 then
    some ⟨c.hour, c.minute, c.second, c.microsecond, offset⟩
  else none

/-- None when there is no such day or time. -/
def datum? (t : Timestamp) : Option Datum := do
  let date ← t.date?
  match t.clock with
  | none => some (.date date)
  | some clock => (time? clock).map (.dateTime date)

end Timestamp

end NodeClient.Yaml
