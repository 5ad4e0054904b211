import NodeClient.Yaml.Timestamp

/-!
The type of a plain scalar by its form. Truth values, numbers, times, null, the merge key and the
default value key have forms of their own; everything else is text.
-/

namespace NodeClient.Yaml

/-- The types that data of a configuration can have, and the two keys with a meaning of their
own. -/
inductive Kind where
  | null
  | bool
  | int
  | float
  | binary
  | timestamp
  | str
  | seq
  | map
  | set
  | orderedMap
  | pairs
  | merge
  | value
deriving DecidableEq

/-- A type of this library, or another tag. -/
inductive Tag where
  | known (kind : Kind)
  | other (name : Text)
deriving DecidableEq

def Kind.name : Kind → Text
  | .null => "null"
  | .bool => "bool"
  | .int => "int"
  | .float => "float"
  | .binary => "binary"
  | .timestamp => "timestamp"
  | .str => "str"
  | .seq => "seq"
  | .map => "map"
  | .set => "set"
  | .orderedMap => "omap"
  | .pairs => "pairs"
  | .merge => "merge"
  | .value => "value"

def Kind.all : List Kind :=
  [.null, .bool, .int, .float, .binary, .timestamp, .str, .seq, .map, .set, .orderedMap, .pairs,
    .merge, .value]

/-- What the handle `!!` stands for. -/
def tagSpace : Text := "tag:yaml.org,2002:"

def Tag.name : Tag → Text
  | .known kind => tagSpace ++ kind.name
  | .other name => name

def Tag.ofName (name : Text) : Tag :=
  match Kind.all.find? fun kind => tagSpace ++ kind.name == name with
  | some kind => .known kind
  | none => .other name

namespace Plain

def boolWords : List Text :=
  ["yes", "Yes", "YES", "no", "No", "NO", "true", "True", "TRUE", "false", "False", "FALSE", "on",
    "On", "ON", "off", "Off", "OFF"]

def nullWords : List Text := ["~", "null", "Null", "NULL"]

def infinityWords : List Text := [".inf", ".Inf", ".INF"]

def nanWords : List Text := [".nan", ".NaN", ".NAN"]

def digitOrUnder (c : CodePoint) : Bool := c.isDigit || isMark '_' c

def unsigned (s : Text) : Text :=
  match s with
  | c :: r => if isMark '-' c || isMark '+' c then r else s
  | [] => []

def allOf (p : CodePoint → Bool) (s : Text) : Bool := !s.isEmpty && s.all p

/-- A number from 0 to 59 of one or two digits. -/
def isSixty (s : Text) : Bool :=
  match s with
  | [d] => d.isDigit
  | [t, d] => 0x30 ≤ t.val && t.val ≤ 0x35 && d.isDigit
  | _ => false

/-- Digits and underscores that start with a digit. -/
def isGrouped (s : Text) : Bool :=
  match s with
  | c :: r => c.isDigit && r.all digitOrUnder
  | [] => false

def isBinaryMark (c : CodePoint) : Bool := isMark '0' c || isMark '1' c || isMark '_' c

def isOctalMark (c : CodePoint) : Bool := (0x30 ≤ c.val && c.val ≤ 0x37) || isMark '_' c

def isHexMark (c : CodePoint) : Bool := c.isHexDigit || isMark '_' c

/-- Decimal and sexagesimal numbers start with 1 to 9; after a 0 come octal digits, or `b` or `x`
and the digits of that base. -/
def isInteger (s : Text) : Bool :=
  match unsigned s with
  | [] => false
  | [c] => c.isDigit
  | c :: d :: r =>
    if isMark '0' c then
      (isMark 'b' d && allOf isBinaryMark r) || (isMark 'x' d && allOf isHexMark r) ||
        (d :: r).all isOctalMark
    else
      match Text.splitAll (CodePoint.ofChar ':') (c :: d :: r) with
      | first :: parts => isGrouped first && parts.all isSixty
      | [] => false

def isExponent (s : Text) : Bool :=
  match s with
  | [] => true
  | e :: sign :: digits =>
    (isMark 'e' e || isMark 'E' e) && (isMark '-' sign || isMark '+' sign) &&
      allOf CodePoint.isDigit digits
  | [_] => false

/-- Digits with a point among them, and perhaps an exponent. -/
def isPointed (s : Text) : Bool :=
  match Text.splitFirst (CodePoint.ofChar '.') (unsigned s) with
  | (whole, some rest) => isGrouped whole && isExponent (rest.dropWhile digitOrUnder)
  | (_, none) => false

/-- A point, a digit, more of them, and perhaps an exponent; no sign. -/
def isFraction (s : Text) : Bool :=
  match s with
  | point :: d :: rest => isMark '.' point && d.isDigit && isExponent (rest.dropWhile digitOrUnder)
  | _ => false

/-- Sexagesimal digits with a fraction after the last of them. -/
def isSexagesimal (s : Text) : Bool :=
  match Text.splitFirst (CodePoint.ofChar '.') (unsigned s) with
  | (whole, some fraction) =>
    match Text.splitAll (CodePoint.ofChar ':') whole with
    | first :: second :: parts =>
      isGrouped first && (second :: parts).all isSixty && fraction.all digitOrUnder
    | _ => false
  | (_, none) => false

def isFloat (s : Text) : Bool :=
  isPointed s || isFraction s || isSexagesimal s || infinityWords.contains (unsigned s) ||
    nanWords.contains s

/-- The type of a plain scalar. -/
def kind (text : Text) : Kind :=
  let s := dropFinalBreak text
  if text.isEmpty || nullWords.contains s then .null
  else if boolWords.contains s then .bool
  else if isFloat s then .float
  else if isInteger s then .int
  else if s = ("<<" : Text) then .merge
  else if Timestamp.isTimestamp text then .timestamp
  else if s = ("=" : Text) then .value
  else .str

/-- The marks of tags, anchors and aliases; alone they have a type that no data are of. -/
def markWords : List Text := ["!", "&", "*"]

def tag (text : Text) : Tag :=
  if markWords.contains (dropFinalBreak text) then .other (tagSpace ++ "yaml")
  else .known (kind text)

end Plain

end NodeClient.Yaml
