/-!
Text as a list of code points. A lone surrogate is a code point like any other: it stands for a
byte that no character could be made of, or comes from an escape in a JSON string.
-/

namespace NodeClient

structure CodePoint where
  val : Nat
  isLt : val < 0x110000
deriving DecidableEq

abbrev Text := List CodePoint

abbrev Bytes := List UInt8

namespace CodePoint

def ofChar (c : Char) : CodePoint :=
  ⟨c.toNat, by
    have h := c.valid
    simp only [UInt32.isValidChar, Nat.isValidChar] at h
    show c.val.toNat < _
    omega⟩

instance : Coe Char CodePoint := ⟨ofChar⟩

instance : Inhabited CodePoint := ⟨⟨0, by decide⟩⟩

def ofByte (b : UInt8) : CodePoint :=
  ⟨b.toNat, by have := b.toNat_lt; omega⟩

def ofNat? (n : Nat) : Option CodePoint :=
  if h : n < 0x110000 then some ⟨n, h⟩ else none

def quote : CodePoint := ⟨0x22, by decide⟩
def apostrophe : CodePoint := ⟨0x27, by decide⟩
def backslash : CodePoint := ⟨0x5C, by decide⟩
def newline : CodePoint := ⟨0x0A, by decide⟩
def carriageReturn : CodePoint := ⟨0x0D, by decide⟩
def replacement : CodePoint := ⟨0xFFFD, by decide⟩
def byteOrderMark : CodePoint := ⟨0xFEFF, by decide⟩

def isSurrogate (c : CodePoint) : Bool := 0xD800 ≤ c.val && c.val < 0xE000
def isHighSurrogate (c : CodePoint) : Bool := 0xD800 ≤ c.val && c.val < 0xDC00
def isLowSurrogate (c : CodePoint) : Bool := 0xDC00 ≤ c.val && c.val < 0xE000
def isAscii (c : CodePoint) : Bool := c.val < 0x80
def isDigit (c : CodePoint) : Bool := 0x30 ≤ c.val && c.val ≤ 0x39
def isUpper (c : CodePoint) : Bool := 0x41 ≤ c.val && c.val ≤ 0x5A
def isLower (c : CodePoint) : Bool := 0x61 ≤ c.val && c.val ≤ 0x7A
def isLetter (c : CodePoint) : Bool := c.isUpper || c.isLower

/-- CR and LF, the marks that end a line on the wire. -/
def isLineMark (c : CodePoint) : Bool := c == newline || c == carriageReturn

def hexValue? (c : CodePoint) : Option Nat :=
  if c.isDigit then some (c.val - 0x30)
  else if 0x41 ≤ c.val && c.val ≤ 0x46 then some (c.val - 0x37)
  else if 0x61 ≤ c.val && c.val ≤ 0x66 then some (c.val - 0x57)
  else none

def isHexDigit (c : CodePoint) : Bool := c.hexValue?.isSome

/-- ASCII capitals to small letters; every other code point is kept. -/
def lowerAscii (c : CodePoint) : CodePoint :=
  if h : c.isUpper then
    ⟨c.val + 0x20, by
      simp only [isUpper, Bool.and_eq_true, decide_eq_true_eq] at h
      omega⟩
  else c

def hexDigit (n : Nat) : CodePoint := ofChar (Nat.digitChar n)

end CodePoint

namespace Text

def ofString (s : String) : Text := s.toList.map CodePoint.ofChar

instance : Coe String Text := ⟨ofString⟩

def join (parts : List Text) : Text := parts.flatten

/-- The parts with `sep` between neighbours. -/
def joinWith (sep : Text) : List Text → Text
  | [] => []
  | [part] => part
  | part :: rest => part ++ sep ++ joinWith sep rest

def dropEnd (p : CodePoint → Bool) (s : Text) : Text := (s.reverse.dropWhile p).reverse

def trim (p : CodePoint → Bool) (s : Text) : Text := dropEnd p (s.dropWhile p)

def dropLineEnd (s : Text) : Text := dropEnd CodePoint.isLineMark s

def startsWith (s start : Text) : Bool := start.isPrefixOf s

/-- What follows the first occurrence of `part`, and what precedes it. -/
def splitAround? (part : Text) : Text → Option (Text × Text)
  | [] => if part.isEmpty then some ([], []) else none
  | c :: s =>
    if part.isPrefixOf (c :: s) then some ([], (c :: s).drop part.length)
    else (splitAround? part s).map fun (before, after) => (c :: before, after)

def includes (s part : Text) : Bool := (splitAround? part s).isSome

/-- The text before the first `sep` and the text after it, if there is one. -/
def splitFirst (sep : CodePoint) : Text → Text × Option Text
  | [] => ([], none)
  | c :: s =>
    if c = sep then ([], some s)
    else match splitFirst sep s with
      | (before, after) => (c :: before, after)

/-- The text before the last `sep`, if there is one, and the text after it. -/
def splitLast (sep : CodePoint) (s : Text) : Option Text × Text :=
  let (after, before) := splitFirst sep s.reverse
  (before.map List.reverse, after.reverse)

/-- All pieces between occurrences of `sep`; never empty. -/
def splitAll (sep : CodePoint) : Text → List Text
  | [] => [[]]
  | c :: s =>
    if c = sep then [] :: splitAll sep s
    else match splitAll sep s with
      | [] => [[c]]
      | piece :: pieces => (c :: piece) :: pieces

def lowerAscii (s : Text) : Text := s.map CodePoint.lowerAscii

def hasSurrogate (s : Text) : Bool := s.any CodePoint.isSurrogate

def ofNat (n : Nat) : Text := (Nat.toDigits 10 n).map CodePoint.ofChar

def ofInt (n : Int) : Text :=
  if n < 0 then CodePoint.ofChar '-' :: ofNat n.natAbs else ofNat n.natAbs

/-- The low `width` hexadecimal digits of a number, leading zeros kept. -/
def hex : (width : Nat) → Nat → Text
  | 0, _ => []
  | width + 1, n => hex width (n / 16) ++ [CodePoint.hexDigit (n % 16)]

end Text

/-- The most decimal digits that an integer may be read from or written with. -/
def maxDigits : Nat := 4300

end NodeClient
