import NodeClient.Text.Base64
import NodeClient.Yaml.Fault
import NodeClient.Yaml.Tag

/-!
The data that scalars stand for, by their types. A scalar that only claims a type may fail to have a
value of it.
-/

namespace NodeClient.Yaml

namespace Value

def malformed {α : Type} : Scan α := .error (.broke .malformedScalar)

def dropUnders (s : Text) : Text := s.filter fun c => !isMark '_' c

/-- A sign at the start, and the rest; the text is not empty. -/
def signed (s : Text) : Scan (Bool × Text) :=
  match s with
  | [] => .error (.broke .emptyNumber)
  | c :: r => .ok (isMark '-' c, if isMark '-' c || isMark '+' c then r else s)

def boolean (s : Text) : Scan Datum :=
  let word := Text.lowerAscii s
  if ([("yes" : Text), "true", "on"]).contains word then .ok (.bool true)
  else if ([("no" : Text), "false", "off"]).contains word then .ok (.bool false)
  else .error (.broke .unknownWord)

/-! Integers -/

def orMalformed (n : Option α) : Scan α := n.elim malformed .ok

/-- The value of a nonempty text of digits below `base`. -/
def digitsValue? (base : Nat) (s : Text) : Option Nat :=
  if s.isEmpty then none
  else s.foldlM (fun n c => (c.hexValue?.filter (· < base)).map (n * base + ·)) 0

/-- A `0` with the letter of a base may come before the digits. -/
def dropBaseMark (letter : Char) (s : Text) : Text :=
  match s with
  | zero :: mark :: r =>
    if isMark '0' zero && isMark letter mark.lowerAscii && !r.isEmpty then r else s
  | _ => s

/-- An integer in a base that is a power of two, with a sign and blanks around it. -/
def integerIn? (base : Nat) (letter : Char) (s : Text) : Option Int := do
  let (negative, body) := Numeral.sign (Numeral.normalize s)
  let n ← digitsValue? base (dropBaseMark letter body)
  pure (if negative then -n else n)

/-- Sexagesimal places, the most significant first. -/
def sexagesimal (parts : List Int) : Int := parts.foldl (fun n part => n * 60 + part) 0

def magnitude? (s : Text) : Scan (Option Int) :=
  match s with
  | [] => .error (.broke .emptyNumber)
  | c :: r =>
    if s.startsWith "0b" then .ok (integerIn? 2 'b' (r.drop 1))
    else if s.startsWith "0x" then .ok (integerIn? 16 'x' (r.drop 1))
    else if isMark '0' c && !r.isEmpty then .ok (integerIn? 8 'o' s)
    else if s.contains (CodePoint.ofChar ':') then
      .ok (((Text.splitAll (CodePoint.ofChar ':') s).mapM Numeral.integer?).map sexagesimal)
    else .ok (Numeral.integer? s)

/-- Binary after `0b`, hexadecimal after `0x`, octal after `0`, sexagesimal with colons. -/
def integer (s : Text) : Scan Datum := do
  let (negative, body) ← signed (dropUnders s)
  let n ← orMalformed (← magnitude? body)
  pure (.int (if negative then -n else n))

/-! Floating-point numbers -/

/-- Adds sexagesimal places, the least significant first, at growing powers of 60. -/
def addPlaces (sum : Binary64) (base : Nat) : List Binary64 → Scan Binary64
  | [] => .ok sum
  | x :: rest =>
    match Binary64.ofInt? base with
    | none => .error (.broke .numberTooLarge)
    | some b => addPlaces (sum.add (x.mul b)) (base * 60) rest

def real (s : Text) : Scan Binary64 :=
  if s = (".inf" : Text) then .ok (.infinite false)
  else if s = (".nan" : Text) then .ok .nan
  else if s.contains (CodePoint.ofChar ':') then do
    let parts ← orMalformed ((Text.splitAll (CodePoint.ofChar ':') s).mapM Numeral.float?)
    addPlaces (.zero false) 1 parts.reverse
  else orMalformed (Numeral.float? s)

/-- A word for NaN, as opposed to other texts that are read as NaN. -/
def isNanWord (s : Text) : Bool :=
  match signed (Text.lowerAscii (dropUnders s)) with
  | .ok (_, body) => body == ".nan"
  | .error _ => false

def float (s : Text) : Scan Datum := do
  let (negative, body) ← signed (Text.lowerAscii (dropUnders s))
  let x ← real body
  pure (.float (if negative then x.negate else x))

/-! Bytes and times -/

/-- A code point as an escape in a diagnostic. -/
def escaped (c : CodePoint) : Text :=
  if c.val < 0x100 then "\\x" ++ Text.hex 2 c.val
  else if c.val < 0x10000 then "\\u" ++ Text.hex 4 c.val
  else "\\U" ++ Text.hex 8 c.val

/-- Why a text is not ASCII, if it is not: its first run of other code points. -/
def notAscii? (s : Text) : Option Text :=
  let first := (s.takeWhile CodePoint.isAscii).length
  match s.drop first with
  | [] => none
  | c :: r =>
    let more := (r.takeWhile fun d => !d.isAscii).length
    let reason : Text := ": ordinal not in range(128)"
    if more = 0 then
      some ("'ascii' codec can't encode character '" ++ escaped c ++ "' in position " ++
        Text.ofNat first ++ reason)
    else
      some ("'ascii' codec can't encode characters in position " ++ Text.ofNat first ++ "-" ++
        Text.ofNat (first + more) ++ reason)

def binary (s : Text) (m : Mark) : Scan Datum :=
  match notAscii? s with
  | some reason => .error (.fault ⟨none, .binaryNotAscii reason, some m⟩)
  | none =>
    match Base64.decode s with
    | .ok bytes => .ok (.bytes bytes)
    | .error fault => .error (.fault ⟨none, .binaryInvalid fault.text, some m⟩)

def timestamp (s : Text) : Scan Datum :=
  match Timestamp.read? s with
  | none => .error (.broke .notTimestamp)
  | some t => orMalformed t.datum?

end Value

def Kind.value? (kind : Kind) (s : Text) (m : Mark) : Option (Scan Datum) :=
  match kind with
  | .null => some (.ok .null)
  | .bool => some (Value.boolean s)
  | .int => some (Value.integer s)
  | .float => some (Value.float s)
  | .binary => some (Value.binary s m)
  | .timestamp => some (Value.timestamp s)
  | .str => some (.ok (.text s))
  | .seq | .map | .set | .orderedMap | .pairs | .merge | .value => none

end NodeClient.Yaml
