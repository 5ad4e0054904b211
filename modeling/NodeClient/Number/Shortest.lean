import NodeClient.Text.Basic
import NodeClient.Number.Binary64

/-!
The shortest decimal that reads back as the same number; among those of that length the nearest, a
tie to the even digit. It is written positionally from 0.0001 up to below 10 ^ 16.
-/

namespace NodeClient

namespace Shortest

/-- The least `p` with the fraction below `10 ^ p`. -/
def decimalPoint (num den : Nat) : Int :=
  if den ≤ num then (Nat.toDigits 10 (num / den)).length
  else
    let d := (Nat.toDigits 10 (den / num)).length
    if den ≤ num * Nat.pow 10 (d - 1) then 2 - (d : Int) else 1 - (d : Int)

/-- A number between the ends of the interval that rounds to it, in quarters of its last bit. -/
structure Target where
  low : Nat
  value : Nat
  high : Nat
  den : Nat
  closed : Bool

def target (mantissa : Nat) (exponent : Int) : Target :=
  let narrow := mantissa == Nat.pow 2 52 && Binary64.minExponent < exponent
  let low := if narrow then 4 * mantissa - 1 else 4 * mantissa - 2
  let scale := exponent - 2
  let up (n : Nat) : Nat := if 0 ≤ scale then n * Nat.pow 2 scale.toNat else n
  { low := up low, value := up (4 * mantissa), high := up (4 * mantissa + 2)
    den := if 0 ≤ scale then 1 else Nat.pow 2 (-scale).toNat
    closed := mantissa % 2 == 0 }

/-- Whether `digits * 10 ^ k` reads back as the target. -/
def Target.accepts (t : Target) (digits : Nat) (k : Int) : Bool :=
  let point := if 0 ≤ k then digits * Nat.pow 10 k.toNat * t.den else digits * t.den
  let up (n : Nat) : Nat := if 0 ≤ k then n else n * Nat.pow 10 (-k).toNat
  if t.closed then up t.low ≤ point && point ≤ up t.high
  else up t.low < point && point < up t.high

/-- The nearest of the two neighbours on the grid of step `10 ^ k` that reads back. -/
def Target.onGrid? (t : Target) (k : Int) : Option Nat :=
  let step := if 0 ≤ k then Nat.pow 10 k.toNat * t.den else t.den
  let value := if 0 ≤ k then t.value else t.value * Nat.pow 10 (-k).toNat
  let below := value / step
  let nearest := roundHalfEven value step
  let other := if nearest = below then below + 1 else below
  if t.accepts nearest k then some nearest
  else if t.accepts other k then some other
  else none

/-- Tries 1, 2, … digits up to `count`. -/
def Target.search (t : Target) (point : Int) (count tries : Nat) : Nat × Int :=
  match tries with
  | 0 => (roundHalfEven t.value t.den, 0)
  | tries + 1 =>
    let k := point - (count - tries : Nat)
    match t.onGrid? k with
    | some digits => (digits, k)
    | none => t.search point count tries

def digits (mantissa : Nat) (exponent : Int) : Nat × Int :=
  let t := target mantissa exponent
  t.search (decimalPoint t.value t.den) 17 17

end Shortest

structure NumberWords where
  nan : Text
  infinity : Text

namespace Binary64

def zeros (n : Nat) : Text := List.replicate n (CodePoint.ofChar '0')

def positional (digits : Text) (point : Int) : Text :=
  if point ≤ 0 then "0." ++ zeros (-point).toNat ++ digits
  else if digits.length ≤ point.toNat then digits ++ zeros (point.toNat - digits.length) ++ ".0"
  else digits.take point.toNat ++ "." ++ digits.drop point.toNat

/-- One digit before the point, and an exponent of at least two digits with its sign. -/
def scientific (digits : Text) (exponent : Int) : Text :=
  let mantissa : Text :=
    match digits with
    | [] => []
    | [d] => [d]
    | d :: rest => d :: CodePoint.ofChar '.' :: rest
  let sign : Text := if exponent < 0 then "-" else "+"
  let size := Text.ofNat exponent.natAbs
  let padded : Text := if size.length < 2 then CodePoint.ofChar '0' :: size else size
  mantissa ++ "e" ++ sign ++ padded

def magnitudeText (mantissa : Nat) (exponent : Int) : Text :=
  if mantissa = 0 then "0.0"
  else
    let (n, k) := Shortest.digits mantissa exponent
    let all := Text.ofNat n
    let point : Int := all.length + k
    let shown := Text.dropEnd (· == CodePoint.ofChar '0') all
    if -4 < point && point ≤ 16 then positional shown point else scientific shown (point - 1)

def written (words : NumberWords) : Binary64 → Text
  | nan => words.nan
  | infinite negative => if negative then "-" ++ words.infinity else words.infinity
  | finite negative m e => if negative then "-" ++ magnitudeText m e else magnitudeText m e

def plainWords : NumberWords := ⟨"nan", "inf"⟩

def text (x : Binary64) : Text := x.written plainWords

end Binary64

end NodeClient
