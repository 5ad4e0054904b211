import NodeClient.Failure
import NodeClient.Datum.Display
import NodeClient.Number.Numeral

/-!
Settings out of data of any kind: a port from what can be read as an integer, a timeout from what
can be read as a number, a switch from a truth value or a word for one.
-/

namespace NodeClient.Config

/-- Bytes as text for reading a number; only ASCII has a meaning there. -/
def asciiText (b : Bytes) : Text :=
  b.map fun byte => if byte < 0x80 then CodePoint.ofByte byte else CodePoint.replacement

def refuse {α : Type} (fault : ConfigurationFault) : Outcome α :=
  .error (.failed (.configuration fault))

def shown (raw : Datum) : Outcome Text :=
  if raw.writable then .ok raw.display else .error (.broke .longInteger)

/-- The integer of a setting: numbers lose their fraction. None where there is no integer. -/
def integer? : Datum → Outcome (Option Int)
  | .bool b => .ok (some (if b then 1 else 0))
  | .int n => .ok (some n)
  | .float (.infinite _) => .error (.broke .numberTooLarge)
  | .float x => .ok x.truncate?
  | .text s => .ok (Numeral.integer? s)
  | .bytes b => .ok (Numeral.integer? (asciiText b))
  | _ => .ok none

def number? : Datum → Outcome (Option Binary64)
  | .bool b => .ok (Binary64.ofInt? (if b then 1 else 0))
  | .int n =>
    match Binary64.ofInt? n with
    | some x => .ok (some x)
    | none => .error (.broke .numberTooLarge)
  | .float x => .ok (some x)
  | .text s => .ok (Numeral.float? s)
  | .bytes b => .ok (Numeral.float? (asciiText b))
  | _ => .ok none

/-- A port from 1 to 65535, absent when the setting is. -/
def port (source : Text) (raw : Datum) : Outcome (Option Int) :=
  match raw with
  | .null => .ok none
  | _ =>
    match integer? raw with
    | .error stop => .error stop
    | .ok none => (shown raw).bind fun text => refuse (.invalidPort source text)
    | .ok (some n) =>
      if 0 < n && n < 65536 then .ok (some n)
      else (shown raw).bind fun text => refuse (.portRange source text)

/-- A timeout that is not zero or negative; NaN is neither. -/
def timeout (source : Text) (raw : Datum) : Outcome (Option Binary64) :=
  match raw with
  | .null => .ok none
  | _ =>
    match number? raw with
    | .error stop => .error stop
    | .ok none => (shown raw).bind fun text => refuse (.invalidTimeout source text)
    | .ok (some x) =>
      if x.notPositive then (shown raw).bind fun text => refuse (.timeoutNotPositive source text)
      else .ok (some x)

def wordsForTrue : List Text := ["1", "true", "yes", "y", "on"]
def wordsForFalse : List Text := ["0", "false", "no", "n", "off"]

/-- Anything but a truth value or a word for one counts as absent. -/
def switch? : Datum → Option Bool
  | .bool b => some b
  | .text s =>
    let word := Text.lowerAscii (Text.strip s)
    if wordsForTrue.contains word then some true
    else if wordsForFalse.contains word then some false
    else none
  | _ => none

end NodeClient.Config
