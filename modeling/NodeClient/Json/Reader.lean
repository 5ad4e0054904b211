import NodeClient.Json.Value
import NodeClient.Number.Numeral

/-!
Reading JSON text. A number with a fraction or an exponent is a floating-point number, any other an
integer; `NaN` and the infinities are known; an escaped lone surrogate is kept. A fault is placed by
the number of code points that are left at it.

Values are read to any depth of nesting. A runtime bounds the depth of its calls (often by about a
thousand) and gives up on values that are nested deeper; that bound depends on the calls which are
under way already, and is no part of this model.
-/

namespace NodeClient.Json

/-- What was expected, or found wrong, at the place of a fault. -/
inductive Problem where
  | value
  | propertyName
  | colon
  | comma
  | controlCharacter
  | escape
  | unicodeEscape
  | unterminated
  | extraData
  | byteOrderMark
deriving DecidableEq

inductive Fault where
  | malformed (problem : Problem) (left : Nat)
  | longInteger
deriving DecidableEq

def isSpace (c : CodePoint) : Bool :=
  c.val == 0x20 || c.val == 0x09 || c.val == 0x0A || c.val == 0x0D

def skipSpace (s : Text) : Text := s.dropWhile isSpace

def unit? (a b c d : CodePoint) : Option Nat := do
  pure ((((← a.hexValue?) * 16 + (← b.hexValue?)) * 16 + (← c.hexValue?)) * 16 + (← d.hexValue?))

def unescaped? (c : CodePoint) : Option CodePoint :=
  if c = CodePoint.quote || c = CodePoint.backslash || c.val = 0x2F then some c
  else if c.val = 0x62 then CodePoint.ofNat? 0x08
  else if c.val = 0x66 then CodePoint.ofNat? 0x0C
  else if c.val = 0x6E then CodePoint.ofNat? 0x0A
  else if c.val = 0x72 then CodePoint.ofNat? 0x0D
  else if c.val = 0x74 then CodePoint.ofNat? 0x09
  else none

def unitChar (unit : Nat) : CodePoint := (CodePoint.ofNat? unit).getD CodePoint.replacement

def pairChar (high low : Nat) : CodePoint :=
  unitChar (0x10000 + (high - 0xD800) * 0x400 + (low - 0xDC00))

def isHighUnit (unit : Nat) : Bool := 0xD800 ≤ unit && unit < 0xDC00
def isLowUnit (unit : Nat) : Bool := 0xDC00 ≤ unit && unit < 0xE000

def consChar (c : CodePoint) : Except Fault (Text × Text) → Except Fault (Text × Text)
  | .ok (s, rest) => .ok (c :: s, rest)
  | .error fault => .error fault

/-- What the first code point of the rest of a string does: it closes the string, or gives a code
point together with `more` code points after it. -/
inductive StringStep where
  | close
  | char (c : CodePoint) (more : Nat)
  | fault (fault : Fault)

/-- An escape of four digits at `s`, the text after its `u`. It is never the end of the text, and
two that form a surrogate pair give one code point. -/
def unitStep (s : Text) : StringStep :=
  match s with
  | d₁ :: d₂ :: d₃ :: d₄ :: rest =>
    match unit? d₁ d₂ d₃ d₄ with
    | none => .fault (.malformed .unicodeEscape (s.length + 1))
    | some unit =>
      match rest with
      | [] => .fault (.malformed .unicodeEscape (s.length + 1))
      | b :: u :: d₅ :: d₆ :: d₇ :: d₈ :: _ :: _ =>
        if isHighUnit unit && b = CodePoint.backslash && u = CodePoint.ofChar 'u' then
          match unit? d₅ d₆ d₇ d₈ with
          | none => .fault (.malformed .unicodeEscape (rest.length - 1))
          | some low =>
            if isLowUnit low then .char (pairChar unit low) 11 else .char (unitChar unit) 5
        else .char (unitChar unit) 5
      | _ => .char (unitChar unit) 5
  | _ => .fault (.malformed .unicodeEscape (s.length + 1))

/-- `opening` counts the code points from the opening quote on. -/
def stringStep (opening : Nat) (c : CodePoint) (s : Text) : StringStep :=
  if c = CodePoint.quote then .close
  else if c = CodePoint.backslash then
    match s with
    | [] => .fault (.malformed .unterminated opening)
    | e :: s' =>
      if e = CodePoint.ofChar 'u' then unitStep s'
      else match unescaped? e with
        | some c' => .char c' 1
        | none => .fault (.malformed .escape (s.length + 1))
  else if c.val < 0x20 then .fault (.malformed .controlCharacter (s.length + 1))
  else .char c 0

/-- The string that goes on after `skip` code points: its code points up to the closing quote, and
what follows the quote. -/
def stringFrom (opening : Nat) : (skip : Nat) → Text → Except Fault (Text × Text)
  | _, [] => .error (.malformed .unterminated opening)
  | skip + 1, _ :: s => stringFrom opening skip s
  | 0, c :: s =>
    match stringStep opening c s with
    | .close => .ok ([], s)
    | .fault fault => .error fault
    | .char c' more => consChar c' (stringFrom opening more s)

def stringBody (opening : Nat) (s : Text) : Except Fault (Text × Text) := stringFrom opening 0 s

/-- The digits of the whole part: a lone zero, or digits that start with another one. -/
def wholePart? (s : Text) : Option (Text × Text) :=
  match s with
  | [] => none
  | c :: r =>
    if c = CodePoint.ofChar '0' then some ([c], r)
    else if c.isDigit then some (s.takeWhile CodePoint.isDigit, s.dropWhile CodePoint.isDigit)
    else none

def fractionPart? (s : Text) : Option (Text × Text) :=
  match s with
  | [] => none
  | c :: r =>
    if c = CodePoint.ofChar '.' && !(r.takeWhile CodePoint.isDigit).isEmpty then
      some (r.takeWhile CodePoint.isDigit, r.dropWhile CodePoint.isDigit)
    else none

def exponentPart? (s : Text) : Option (Int × Text) :=
  match s with
  | [] => none
  | c :: r =>
    if c = CodePoint.ofChar 'e' || c = CodePoint.ofChar 'E' then
      let (negative, r) := Numeral.sign r
      let digits := r.takeWhile CodePoint.isDigit
      if digits.isEmpty then none
      else
        let n : Int := Numeral.value digits
        some (if negative then -n else n, r.dropWhile CodePoint.isDigit)
    else none

/-- The number at the start of a text, as far as its digits reach; none where no digit stands. -/
def number? (s : Text) : Option (Except Fault (Value × Text)) := do
  let (negative, body) :=
    match s with
    | c :: r => if c = CodePoint.ofChar '-' then (true, r) else (false, s)
    | [] => (false, [])
  let (whole, rest) ← wholePart? body
  let fraction := fractionPart? rest
  let (fractionDigits, rest) := fraction.getD ([], rest)
  let exponent := exponentPart? rest
  let (power, rest) := exponent.getD (0, rest)
  if fraction.isNone && exponent.isNone then
    match Numeral.natural? whole with
    | none => pure (.error .longInteger)
    | some n => pure (.ok (.int (if negative then -n else n), rest))
  else
    let digits := Numeral.value (whole ++ fractionDigits)
    pure (.ok (.float (Binary64.ofDecimal negative digits (power - fractionDigits.length)), rest))

def words : List (Text × Value) :=
  [("null", .null), ("true", .bool true), ("false", .bool false), ("NaN", .float .nan),
    ("Infinity", .float (.infinite false)), ("-Infinity", .float (.infinite true))]

def word? (s : Text) : Option (Value × Text) :=
  (words.find? fun (word, _) => s.startsWith word).map fun (word, v) => (v, s.drop word.length)

mutual

/-- The value at the start of a text, and what follows it. -/
def readValue : (fuel : Nat) → Text → Except Fault (Value × Text)
  | 0, s => .error (.malformed .value s.length)
  | _ + 1, [] => .error (.malformed .value 0)
  | fuel + 1, c :: s =>
    if c = CodePoint.quote then
      match stringBody (c :: s).length s with
      | .ok (text, rest) => .ok (.str text, rest)
      | .error fault => .error fault
    else if c = CodePoint.ofChar '{' then
      match skipSpace s with
      | [] => .error (.malformed .propertyName 0)
      | d :: rest =>
        if d = CodePoint.ofChar '}' then .ok (.obj [], rest) else readMembers fuel [] (d :: rest)
    else if c = CodePoint.ofChar '[' then
      match skipSpace s with
      | [] => .error (.malformed .value 0)
      | d :: rest =>
        if d = CodePoint.ofChar ']' then .ok (.arr [], rest) else readItems fuel [] (d :: rest)
    else match word? (c :: s) with
      | some result => .ok result
      | none =>
        match number? (c :: s) with
        | some result => result
        | none => .error (.malformed .value (c :: s).length)

/-- The items of an array from the next one on; `done` holds those before it, last first. -/
def readItems : (fuel : Nat) → (done : List Value) → Text → Except Fault (Value × Text)
  | 0, _, s => .error (.malformed .value s.length)
  | fuel + 1, done, s =>
    match readValue fuel s with
    | .error fault => .error fault
    | .ok (v, rest) =>
      match skipSpace rest with
      | [] => .error (.malformed .comma 0)
      | c :: rest =>
        if c = CodePoint.ofChar ']' then .ok (.arr (v :: done).reverse, rest)
        else if c = CodePoint.ofChar ',' then readItems fuel (v :: done) (skipSpace rest)
        else .error (.malformed .comma (c :: rest).length)

/-- The members of an object from the next key on; `done` holds those before it. -/
def readMembers :
    (fuel : Nat) → (done : List (Text × Value)) → Text → Except Fault (Value × Text)
  | 0, _, s => .error (.malformed .propertyName s.length)
  | _ + 1, _, [] => .error (.malformed .propertyName 0)
  | fuel + 1, done, c :: s =>
    if c = CodePoint.quote then
      match stringBody (c :: s).length s with
      | .error fault => .error fault
      | .ok (key, rest) =>
        match skipSpace rest with
        | [] => .error (.malformed .colon 0)
        | c :: rest =>
          if c = CodePoint.ofChar ':' then
            match readValue fuel (skipSpace rest) with
            | .error fault => .error fault
            | .ok (v, rest) =>
              match skipSpace rest with
              | [] => .error (.malformed .comma 0)
              | c :: rest =>
                if c = CodePoint.ofChar '}' then .ok (.obj (insertMember key v done), rest)
                else if c = CodePoint.ofChar ',' then
                  readMembers fuel (insertMember key v done) (skipSpace rest)
                else .error (.malformed .comma (c :: rest).length)
          else .error (.malformed .colon (c :: rest).length)
    else .error (.malformed .propertyName (c :: s).length)

end

/-- Every step from a value to its parts, or to the next part, uses up a code point or a bracket. -/
def fuelFor (s : Text) : Nat := 2 * s.length + 2

/-- Reads a whole text: one value with nothing but space around it. -/
def read (s : Text) : Except Fault Value :=
  if s.head? = some CodePoint.byteOrderMark then .error (.malformed .byteOrderMark s.length)
  else
    let body := skipSpace s
    match readValue (fuelFor body) body with
    | .error fault => .error fault
    | .ok (v, rest) =>
      match skipSpace rest with
      | [] => .ok v
      | c :: rest => .error (.malformed .extraData (c :: rest).length)

def Problem.text : Problem → Text
  | .value => "Expecting value"
  | .propertyName => "Expecting property name enclosed in double quotes"
  | .colon => "Expecting ':' delimiter"
  | .comma => "Expecting ',' delimiter"
  | .controlCharacter => "Invalid control character at"
  | .escape => "Invalid \\escape"
  | .unicodeEscape => "Invalid \\uXXXX escape"
  | .unterminated => "Unterminated string starting at"
  | .extraData => "Extra data"
  | .byteOrderMark => "Unexpected UTF-8 BOM (decode using utf-8-sig)"

/-- The problem with its line, its column and its distance from the start, all in code points. -/
def Problem.describe (problem : Problem) (whole : Text) (left : Nat) : Text :=
  let before := whole.take (whole.length - left)
  let line := before.count CodePoint.newline + 1
  let column := (before.reverse.takeWhile (· != CodePoint.newline)).length + 1
  problem.text ++ ": line " ++ Text.ofNat line ++ " column " ++ Text.ofNat column ++ " (char " ++
    Text.ofNat before.length ++ ")"

end NodeClient.Json
