import NodeClient.Number.Numeral

/-! Integers that were read have at most as many digits as integers may have. -/

namespace NodeClient

theorem CodePoint.isDigit_iff {c : CodePoint} : c.isDigit = true ↔ 0x30 ≤ c.val ∧ c.val ≤ 0x39 := by
  rw [CodePoint.isDigit, Bool.and_eq_true, decide_eq_true_eq, decide_eq_true_eq]

/-- The number has few enough digits to be written. -/
def WithinDigits (n : Int) : Prop := n.natAbs < Nat.pow 10 maxDigits

theorem WithinDigits.of_lt_pow {n : Int} {k : Nat} (hk : k ≤ maxDigits)
    (h : n.natAbs < Nat.pow 10 k) : WithinDigits n := by
  -- for a variable, so that the bound is never computed
  have hbound {m : Nat} (hm : k ≤ m) : Nat.pow 10 k ≤ Nat.pow 10 m :=
    Nat.pow_le_pow_right (by decide) hm
  exact Nat.lt_of_lt_of_le h (hbound hk)

theorem WithinDigits.of_lt {n : Int} (h : n.natAbs < 10) : WithinDigits n :=
  .of_lt_pow (show 1 ≤ maxDigits by decide) h

theorem WithinDigits.of_natAbs_le {n m : Int} (h : WithinDigits m) (hle : n.natAbs ≤ m.natAbs) :
    WithinDigits n :=
  Nat.lt_of_le_of_lt hle h

theorem WithinDigits.neg {n : Int} (h : WithinDigits n) : WithinDigits (-n) :=
  h.of_natAbs_le (Nat.le_of_eq n.natAbs_neg)

theorem WithinDigits.signed {n : Nat} (negative : Bool) (h : WithinDigits n) :
    WithinDigits (if negative then -n else n) := by
  split
  · exact h.neg
  · exact h

namespace Numeral

theorem foldl_digits_lt (digits : Text) (hdigits : digits.all CodePoint.isDigit = true) (n : Nat) :
    digits.foldl (fun n c => n * 10 + (c.val - 0x30)) n <
      (n + 1) * Nat.pow 10 digits.length := by
  induction digits generalizing n with
  | nil => simp
  | cons c rest ih =>
    rw [List.all_cons, Bool.and_eq_true] at hdigits
    have hdigit : c.val - 0x30 ≤ 9 := by
      have := CodePoint.isDigit_iff.mp hdigits.1
      omega
    rw [List.foldl_cons, List.length_cons]
    calc rest.foldl (fun n c => n * 10 + (c.val - 0x30)) (n * 10 + (c.val - 0x30))
        < (n * 10 + (c.val - 0x30) + 1) * Nat.pow 10 rest.length := ih hdigits.2 _
      _ ≤ ((n + 1) * 10) * Nat.pow 10 rest.length := Nat.mul_le_mul_right _ (by omega)
      _ = (n + 1) * (Nat.pow 10 rest.length * 10) := by rw [Nat.mul_assoc, Nat.mul_comm 10]

theorem value_lt {digits : Text} (hdigits : digits.all CodePoint.isDigit = true) :
    value digits < Nat.pow 10 digits.length := by
  have h := foldl_digits_lt digits hdigits 0
  rwa [Nat.zero_add, Nat.one_mul] at h

theorem withinDigits_of_natural? {digits : Text} {n : Nat} (h : natural? digits = some n) :
    WithinDigits n := by
  unfold natural? at h
  split at h
  · exact absurd h (by simp)
  · rename_i hok
    simp only [Bool.or_eq_true, Bool.not_eq_true', decide_eq_true_eq, not_or, Nat.not_lt,
      Bool.not_eq_false] at hok
    obtain rfl := Option.some.inj h
    -- for variables, so that the bound is never computed
    have hbound {k m : Nat} (hle : k ≤ m) : Nat.pow 10 k ≤ Nat.pow 10 m :=
      Nat.pow_le_pow_right (by decide) hle
    exact Nat.lt_of_lt_of_le (value_lt hok.1.2) (hbound hok.2)

theorem withinDigits_of_integer? {s : Text} {n : Int} (h : integer? s = some n) :
    WithinDigits n := by
  simp only [integer?, Option.bind_eq_bind, Option.bind_eq_some_iff] at h
  obtain ⟨digits, -, m, hm, hn⟩ := h
  obtain rfl := Option.some.inj hn
  exact (withinDigits_of_natural? hm).signed _

end Numeral

end NodeClient
