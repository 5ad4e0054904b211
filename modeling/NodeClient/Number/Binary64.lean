/-!
Binary floating point with 53 bits. A finite number is a sign and `mantissa * 2 ^ exponent`; every
operation works on exact fractions and rounds once, to the nearest number, a tie to the even one.
-/

namespace NodeClient

inductive Binary64 where
  | nan
  | infinite (negative : Bool)
  | finite (negative : Bool) (mantissa : Nat) (exponent : Int)
deriving DecidableEq

/-- The quotient rounded to the nearest natural number, a tie to the even one. -/
def roundHalfEven (num den : Nat) : Nat :=
  let quotient := num / den
  let twice := 2 * (num % den)
  if twice < den then quotient
  else if den < twice then quotient + 1
  else quotient + quotient % 2

namespace Binary64

def precision : Nat := 53
def minExponent : Int := -1074
def maxExponent : Int := 971

def zero (negative : Bool) : Binary64 := finite negative 0 minExponent

/-- The exponent at which a positive fraction has a mantissa of 53 bits, or the least one. -/
def exponentOf (num den : Nat) : Int :=
  let level : Int := (Nat.log2 num : Int) - Nat.log2 den
  let below : Bool :=
    if 0 ≤ level then num < den * Nat.pow 2 level.toNat else num * Nat.pow 2 (-level).toNat < den
  max minExponent (if below then level - 53 else level - 52)

/-- The number nearest to a fraction; from the largest number's half step on, infinity. -/
def ofFraction (negative : Bool) (num den : Nat) : Binary64 :=
  if num = 0 then zero negative
  else
    let e := exponentOf num den
    let m :=
      if 0 ≤ e then roundHalfEven num (den * Nat.pow 2 e.toNat)
      else roundHalfEven (num * Nat.pow 2 (-e).toNat) den
    let (m, e) := if m = Nat.pow 2 precision then (Nat.pow 2 (precision - 1), e + 1) else (m, e)
    if maxExponent < e then infinite negative else finite negative m e

/-- The number nearest to `digits * 10 ^ exponent`. Powers far outside the range are cut off before
they are computed. -/
def ofDecimal (negative : Bool) (digits : Nat) (exponent : Int) : Binary64 :=
  let size : Int := (Nat.toDigits 10 digits).length + exponent
  if digits = 0 || size < -400 then zero negative
  else if 400 < size then infinite negative
  else if 0 ≤ exponent then ofFraction negative (digits * Nat.pow 10 exponent.toNat) 1
  else ofFraction negative digits (Nat.pow 10 (-exponent).toNat)

/-- Integers whose nearest number would be infinite have none. -/
def ofInt? (n : Int) : Option Binary64 :=
  match ofFraction (n < 0) n.natAbs 1 with
  | infinite _ => none
  | x => some x

def magnitude (mantissa : Nat) (exponent : Int) : Nat × Nat :=
  if 0 ≤ exponent then (mantissa * Nat.pow 2 exponent.toNat, 1)
  else (mantissa, Nat.pow 2 (-exponent).toNat)

/-- The whole part, toward zero; none for NaN and the infinities. -/
def truncate? : Binary64 → Option Int
  | finite negative m e =>
    let (num, den) := magnitude m e
    some (if negative then -(num / den : Nat) else (num / den : Nat))
  | _ => none

def isNan : Binary64 → Bool
  | nan => true
  | _ => false

/-- Compared with zero; NaN is not. -/
def notPositive : Binary64 → Bool
  | nan => false
  | infinite negative => negative
  | finite negative m _ => negative || m == 0

def equalsInt (x : Binary64) (n : Int) : Bool :=
  match x with
  | finite negative m e =>
    let (num, den) := magnitude m e
    num == den * n.natAbs && (n == 0 || negative == decide (n < 0))
  | _ => false

/-- Numeric equality: NaN differs from itself and the two zeros are equal. -/
def numEq : Binary64 → Binary64 → Bool
  | infinite a, infinite b => a == b
  | finite a m e, finite b n f => m == n && e == f && (a == b || m == 0)
  | _, _ => false

def negate : Binary64 → Binary64
  | nan => nan
  | infinite negative => infinite (!negative)
  | finite negative m e => finite (!negative) m e

/-- The exact value of a finite number: a signed numerator and a denominator. -/
def signedFraction (negative : Bool) (mantissa : Nat) (exponent : Int) : Int × Nat :=
  let (num, den) := magnitude mantissa exponent
  (if negative then -num else num, den)

/-- Zeros of two signs, and opposite numbers, add up to the zero without a sign. -/
def add : Binary64 → Binary64 → Binary64
  | nan, _ => nan
  | _, nan => nan
  | infinite a, infinite b => if a = b then infinite a else nan
  | infinite a, finite .. => infinite a
  | finite .., infinite b => infinite b
  | finite s m e, finite t n f =>
    let (a, b) := signedFraction s m e
    let (c, d) := signedFraction t n f
    let sum := a * d + c * b
    ofFraction (sum < 0 || (s && t)) sum.natAbs (b * d)

/-- Zero times infinity is NaN. -/
def mul : Binary64 → Binary64 → Binary64
  | nan, _ => nan
  | _, nan => nan
  | infinite a, infinite b => infinite (a != b)
  | infinite a, finite t n _ => if n = 0 then nan else infinite (a != t)
  | finite s m _, infinite b => if m = 0 then nan else infinite (s != b)
  | finite s m e, finite t n f =>
    let (a, b) := magnitude m e
    let (c, d) := magnitude n f
    ofFraction (s != t) (a * c) (b * d)

end Binary64

end NodeClient
