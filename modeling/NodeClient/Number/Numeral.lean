import NodeClient.Text.Blank
import NodeClient.Text.Decimal
import NodeClient.Number.Binary64

/-!
Numbers read from text that a person typed: blanks around it are dropped, the digits may be those of
any script, and single underscores may stand between digits.
-/

namespace NodeClient

namespace Numeral

/-- The blanks that may surround a number: all but the separators U+001C to U+001F. -/
def isBlank (c : CodePoint) : Bool := c.isBlank && !(0x1C ≤ c.val && c.val ≤ 0x1F)

/-- Digits of all scripts become ASCII digits; blanks around the text are dropped. -/
def normalize (s : Text) : Text :=
  (Text.trim isBlank s).map fun c =>
    match c.decimalValue? with
    | some d => CodePoint.hexDigit d
    | none => c

def sign : Text → Bool × Text
  | [] => (false, [])
  | c :: s =>
    if c = CodePoint.ofChar '-' then (true, s)
    else if c = CodePoint.ofChar '+' then (false, s)
    else (false, c :: s)

def value (digits : Text) : Nat := digits.foldl (fun n c => n * 10 + (c.val - 0x30)) 0

/-- Removes underscores, each of which stands between two digits. -/
def dropUnderscores? (afterDigit : Bool) : Text → Option Text
  | [] => some []
  | c :: s =>
    if c = CodePoint.ofChar '_' then
      match s with
      | d :: _ => if afterDigit && d.isDigit then dropUnderscores? false s else none
      | [] => none
    else (dropUnderscores? c.isDigit s).map (c :: ·)

/-- A nonempty run of ASCII digits, at most as many as integers may have. -/
def natural? (digits : Text) : Option Nat :=
  if digits.isEmpty || !digits.all CodePoint.isDigit || maxDigits < digits.length then none
  else some (value digits)

/-- An integer, or none when the text is not one or has too many digits. -/
def integer? (s : Text) : Option Int := do
  let (negative, body) := sign (normalize s)
  let digits ← dropUnderscores? false body
  let n ← natural? digits
  pure (if negative then -n else n)

/-- Digits, an optional fraction and an optional exponent; at least one digit before the
exponent. -/
def decimal? (negative : Bool) (s : Text) : Option Binary64 := do
  let whole := s.takeWhile CodePoint.isDigit
  let rest := s.dropWhile CodePoint.isDigit
  let (fraction, rest) :=
    match rest with
    | c :: r =>
      if c = CodePoint.ofChar '.' then
        (r.takeWhile CodePoint.isDigit, r.dropWhile CodePoint.isDigit)
      else ([], rest)
    | [] => ([], [])
  if whole.isEmpty && fraction.isEmpty then none
  else
    let exponent ←
      match rest with
      | [] => some (0 : Int)
      | e :: r =>
        if e.lowerAscii = CodePoint.ofChar 'e' then
          let (negative, digits) := sign r
          if digits.isEmpty || !digits.all CodePoint.isDigit then none
          else some (if negative then -(value digits : Int) else value digits)
        else none
    pure (Binary64.ofDecimal negative (value (whole ++ fraction)) (exponent - fraction.length))

/-- A floating-point number; the words for infinity and NaN are known in any case. -/
def float? (s : Text) : Option Binary64 := do
  let plain ← dropUnderscores? false (normalize s)
  let (negative, body) := sign plain
  let word := Text.lowerAscii body
  if word = ("inf" : Text) || word = ("infinity" : Text) then pure (Binary64.infinite negative)
  else if word = ("nan" : Text) then pure Binary64.nan
  else decimal? negative body

end Numeral

end NodeClient
