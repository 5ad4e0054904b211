import NodeClient.Proofs.Number.Digits
import NodeClient.Number.Binary64

/-! An integer that has a nearest floating-point number can be written. -/

namespace NodeClient.Binary64

theorem ofFraction_eq_infinite (negative : Bool) {num den : Nat} (hnum : num ≠ 0)
    (h : maxExponent < exponentOf num den) :
    ofFraction negative num den = infinite negative := by
  rw [ofFraction, if_neg hnum]
  dsimp only
  generalize (if 0 ≤ exponentOf num den then _ else _ : Nat) = m
  by_cases hm : m = Nat.pow 2 precision
  · rw [if_pos hm]
    exact if_pos (Int.lt_trans h (Int.lt_succ _))
  · rw [if_neg hm]
    exact if_pos h

theorem ne_zero_of_pow_le {k n : Nat} (h : Nat.pow 2 k ≤ n) : n ≠ 0 := by
  have hpos : 0 < Nat.pow 2 k := Nat.two_pow_pos k
  exact Nat.ne_of_gt (Nat.lt_of_lt_of_le hpos h)

theorem le_log2_of_pow_le {k n : Nat} (h : Nat.pow 2 k ≤ n) : k ≤ n.log2 :=
  (Nat.le_log2 (ne_zero_of_pow_le h)).mpr h

theorem maxExponent_lt_exponentOf {n : Nat} (h : Nat.pow 2 maxDigits ≤ n) :
    maxExponent < exponentOf n 1 := by
  have hlog : maxDigits ≤ n.log2 := le_log2_of_pow_le h
  have hsize : 1100 ≤ maxDigits := by decide
  have hlevel : 1100 ≤ (n.log2 : Int) - (Nat.log2 1 : Nat) := by
    rw [show Nat.log2 1 = 0 by decide]
    omega
  have hlow (below : Bool) {level : Int} (h : 1100 ≤ level) :
      (971 : Int) < if below = true then level - 53 else level - 52 := by
    split
    · omega
    · omega
  exact Int.lt_of_lt_of_le (hlow _ hlevel) (Int.le_max_right _ _)

theorem ofInt?_eq_none {n : Int} (h : ¬ WithinDigits n) : ofInt? n = none := by
  -- for every exponent at once: the powers of the bound itself are too large to be computed
  have hpow {k : Nat} : Nat.pow 2 k ≤ Nat.pow 10 k := Nat.pow_le_pow_left (by decide) k
  have hlarge : Nat.pow 2 maxDigits ≤ n.natAbs := Nat.le_trans hpow (Nat.le_of_not_lt h)
  rw [ofInt?, ofFraction_eq_infinite _ (ne_zero_of_pow_le hlarge)
    (maxExponent_lt_exponentOf hlarge)]

end NodeClient.Binary64
