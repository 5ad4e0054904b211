import Mathlib.Data.List.Induction
import Mathlib.Data.List.TakeWhile
import Mathlib.Data.Nat.Digits.Defs
import NodeClient.Proofs.Text.Hex
import NodeClient.Proofs.Text.Trim

/-! The decimal text of a natural number: digits, no zero in front of others, and the same number
when it is read again. Other digits of the number have zeros in front, which its text lacks. -/

namespace NodeClient

/-- Decimal digits, without zeros in front of them. -/
def IsDecimal (s : Text) : Prop :=
  s ≠ [] ∧ (∀ c ∈ s, c.isDigit = true) ∧
    (s.head? = some (CodePoint.ofChar '0') → s = [CodePoint.ofChar '0'])

theorem isDigit_ofChar {c : Char} (h : c.isDigit = true) : (CodePoint.ofChar c).isDigit = true := by
  simp only [Char.isDigit, Bool.and_eq_true, decide_eq_true_eq, UInt32.le_iff_toNat_le] at h
  simp only [CodePoint.isDigit, Bool.and_eq_true, decide_eq_true_eq]
  exact h

theorem eq_zero_of_ofChar {c : Char} (h : CodePoint.ofChar c = CodePoint.ofChar '0') : c = '0' :=
  Char.toNat_inj.mp (congrArg CodePoint.val h)

/-- The first digit of a number is the first one of its tenth, so it is zero only for zero. -/
theorem head?_toDigits {n : Nat} (h : (Nat.toDigits 10 n).head? = some '0') : n = 0 := by
  induction n using Nat.strongRecOn with
  | ind n ih =>
    by_cases hsmall : n < 10
    · rw [Nat.toDigits_of_lt_base hsmall] at h
      have hnonzero : ∀ m < 10, [Nat.digitChar m].head? = some '0' → m = 0 := by decide
      exact hnonzero n hsmall h
    · have hlarge : 10 ≤ n := Nat.not_lt.mp hsmall
      rw [Nat.toDigits_of_base_le (by decide) hlarge] at h
      have htenth : (Nat.toDigits 10 (n / 10)).head? = some '0' := by
        rw [List.head?_append] at h
        cases hdigits : Nat.toDigits 10 (n / 10) with
        | nil => exact absurd hdigits Nat.toDigits_ne_nil
        | cons d digits => simpa [hdigits] using h
      have hzero := ih (n / 10) (by omega) htenth
      omega

theorem isDecimal_ofNat (n : Nat) : IsDecimal (Text.ofNat n) := by
  refine ⟨?_, ?_, ?_⟩
  · intro h
    exact Nat.toDigits_ne_nil (List.map_eq_nil_iff.mp h)
  · intro c hc
    obtain ⟨d, hd, rfl⟩ := List.mem_map.mp hc
    exact isDigit_ofChar (Nat.isDigit_of_mem_toDigits (by decide) (by decide) hd)
  · intro h
    rw [Text.ofNat, List.head?_map, Option.map_eq_some_iff] at h
    obtain ⟨d, hd, hzero⟩ := h
    obtain rfl := eq_zero_of_ofChar hzero
    obtain rfl := head?_toDigits hd
    rfl

theorem not_mem_ofNat {c : CodePoint} (hc : c.isDigit = false) (n : Nat) : c ∉ Text.ofNat n := by
  intro hmem
  rw [(isDecimal_ofNat n).2.1 c hmem] at hc
  cases hc

theorem mem_ofInt {n : Int} {c : CodePoint} (hc : c ∈ Text.ofInt n) :
    c = CodePoint.ofChar '-' ∨ c.isDigit = true := by
  have hdigits := (isDecimal_ofNat n.natAbs).2.1
  unfold Text.ofInt at hc
  split at hc
  · exact (List.mem_cons.mp hc).imp_right (hdigits c)
  · exact .inr (hdigits c hc)

theorem length_ofNat_le_iff {n k : Nat} (hk : 0 < k) :
    (Text.ofNat n).length ≤ k ↔ n < Nat.pow 10 k := by
  rw [Text.ofNat, List.length_map]
  exact Nat.length_toDigits_le_iff (by decide) hk

namespace Numeral

theorem foldl_map_ofChar (digits : List Char) (n : Nat) :
    (digits.map CodePoint.ofChar).foldl (fun n c => n * 10 + (c.val - 0x30)) n =
      Nat.ofDigitChars 10 digits n := by
  induction digits generalizing n with
  | nil => rfl
  | cons d digits ih =>
    rw [List.map_cons, List.foldl_cons, ih, Nat.ofDigitChars_cons, Nat.mul_comm]
    rfl

theorem value_ofNat (n : Nat) : value (Text.ofNat n) = n := by
  rw [value, Text.ofNat, foldl_map_ofChar]
  exact Nat.ofDigitChars_ten_toDigits

theorem natural?_ofNat {n : Nat} (h : WithinDigits n) : natural? (Text.ofNat n) = some n := by
  obtain ⟨hne, hdigits, -⟩ := isDecimal_ofNat n
  have hlength : (Text.ofNat n).length ≤ maxDigits := (length_ofNat_le_iff (by decide)).mpr h
  rw [natural?, if_neg, value_ofNat]
  simpa [hne, hlength] using hdigits

/-! Plain digits have none of what a reader of typed integers looks for. -/

section Plain

variable {s : Text} (h : ∀ c ∈ s, c.isDigit = true)
include h

theorem normalize_digits : normalize s = s := by
  have htrim : Text.trim isBlank s = s :=
    Text.trim_eq_self fun c hc => by simp [isBlank, CodePoint.not_blank_of_isDigit (h c hc)]
  rw [normalize, htrim]
  refine (List.map_congr_left fun c hc => ?_).trans (List.map_id s)
  have hascii : c.isAscii = true := by
    have := CodePoint.isDigit_iff.mp (h c hc)
    exact decide_eq_true (by omega)
  rw [CodePoint.decimalValue?, if_pos hascii, if_pos (h c hc)]
  exact CodePoint.hexDigit_of_isDigit (h c hc)

theorem sign_digits : sign s = (false, s) := by
  cases s with
  | nil => rfl
  | cons c s =>
    have hother {d : CodePoint} (hd : d.isDigit = false) : c ≠ d := by
      rintro rfl
      rw [h c List.mem_cons_self] at hd
      cases hd
    rw [sign, if_neg (hother (by decide)), if_neg (hother (by decide))]

theorem dropUnderscores?_digits (afterDigit : Bool) : dropUnderscores? afterDigit s = some s := by
  induction s generalizing afterDigit with
  | nil => rfl
  | cons c s ih =>
    have hmark : c ≠ CodePoint.ofChar '_' := by
      rintro rfl
      exact absurd (h _ List.mem_cons_self) (by decide)
    have hrest := ih (fun d hd => h d (List.mem_cons_of_mem c hd)) c.isDigit
    simp only [dropUnderscores?, hmark, if_false, hrest, Option.map_some]

theorem integer?_digits : integer? s = (natural? s).map Int.ofNat := by
  rw [integer?, normalize_digits h, sign_digits h]
  dsimp only
  rw [dropUnderscores?_digits h]
  cases hn : natural? s <;> simp [hn]

end Plain

theorem integer?_ofNat {n : Nat} (h : WithinDigits n) : integer? (Text.ofNat n) = some (n : Int) := by
  rw [integer?_digits (isDecimal_ofNat n).2.1, natural?_ofNat h]
  rfl

end Numeral

/-! Digits that a person typed -/

/-- The number that decimal digits stand for, the last of them the units. -/
def Text.decimal (digits : Text) : Nat :=
  Nat.ofDigits 10 (digits.reverse.map fun c => c.val - 0x30)

/-- Without the zeros in front, unless there is nothing else. -/
def Text.withoutZeros (digits : Text) : Text :=
  match digits.dropWhile (· = CodePoint.ofChar '0') with
  | [] => [CodePoint.ofChar '0']
  | c :: rest => c :: rest

namespace Numeral

variable {digits : Text}

theorem value_snoc (digits : Text) (c : CodePoint) :
    value (digits ++ [c]) = value digits * 10 + (c.val - 0x30) := by
  rw [value, List.foldl_append]
  rfl

theorem value_eq_decimal (digits : Text) : value digits = digits.decimal := by
  induction digits using List.reverseRecOn with
  | nil => rfl
  | append_singleton digits c ih =>
    have hdecimal : Text.decimal (digits ++ [c]) = c.val - 0x30 + 10 * Text.decimal digits := by
      rw [Text.decimal, List.reverse_append, List.reverse_singleton, List.singleton_append,
        List.map_cons, Nat.ofDigits_cons, Text.decimal]
    rw [value_snoc, ih, hdecimal]
    omega

theorem eq_zero_of_val {c : CodePoint} (hc : c.isDigit = true) (h : c.val - 0x30 = 0) :
    c = CodePoint.ofChar '0' := by
  have hval : c.val = 0x30 := by
    have := CodePoint.isDigit_iff.mp hc
    omega
  obtain ⟨n, hn⟩ := c
  obtain rfl : n = 0x30 := hval
  rfl

theorem value_eq_zero_iff (hdigits : ∀ c ∈ digits, c.isDigit = true) :
    value digits = 0 ↔ digits.dropWhile (· = CodePoint.ofChar '0') = [] := by
  rw [List.dropWhile_eq_nil_iff]
  induction digits using List.reverseRecOn with
  | nil => exact iff_of_true rfl nofun
  | append_singleton digits c ih =>
    have hlast : c.isDigit = true := hdigits c (by simp)
    have hfront := ih fun d hd => hdigits d (List.mem_append_left _ hd)
    rw [value_snoc]
    constructor
    · intro hzero d hd
      rcases List.mem_append.mp hd with hd | hd
      · exact hfront.mp (by omega) d hd
      · obtain rfl := List.mem_singleton.mp hd
        exact decide_eq_true (eq_zero_of_val hlast (by omega))
    · intro hall
      have hvalue : value digits = 0 :=
        hfront.mpr fun d hd => hall d (List.mem_append_left _ hd)
      have hc : c = CodePoint.ofChar '0' := of_decide_eq_true (hall c (by simp))
      rw [hvalue, hc]
      rfl

theorem ofNat_digit {c : CodePoint} (h : c.isDigit = true) : Text.ofNat (c.val - 0x30) = [c] := by
  have hless : c.val - 0x30 < 10 := by
    have := CodePoint.isDigit_iff.mp h
    omega
  rw [Text.ofNat, Nat.toDigits_of_lt_base hless, List.map_singleton]
  exact congrArg (fun d => [d]) (CodePoint.hexDigit_of_isDigit h)

/-- Digits that were read are written without the zeros in front of them. -/
theorem ofNat_value (hdigits : ∀ c ∈ digits, c.isDigit = true) :
    Text.ofNat (value digits) = digits.withoutZeros := by
  induction digits using List.reverseRecOn with
  | nil => rfl
  | append_singleton digits c ih =>
    have hlast : c.isDigit = true := hdigits c (by simp)
    have hfront : ∀ d ∈ digits, d.isDigit = true := fun d hd =>
      hdigits d (List.mem_append_left _ hd)
    have hzero := value_eq_zero_iff hfront
    rw [Text.withoutZeros, List.dropWhile_append]
    cases hdrop : digits.dropWhile (· = CodePoint.ofChar '0') with
    | nil =>
      rw [value_snoc, hzero.mpr hdrop, Nat.zero_mul, Nat.zero_add, ofNat_digit hlast]
      by_cases hc : c = CodePoint.ofChar '0'
      · simp [hc]
      · simp [hc]
    | cons first rest =>
      have hpos : 0 < value digits := by
        rw [Nat.pos_iff_ne_zero, Ne, hzero, hdrop]
        nofun
      have hless : c.val - 0x30 < 10 := by
        have := CodePoint.isDigit_iff.mp hlast
        omega
      have hfirst : Text.withoutZeros digits = first :: rest := by rw [Text.withoutZeros, hdrop]
      have hlonger : Text.ofNat (value digits * 10 + (c.val - 0x30)) =
          Text.ofNat (value digits) ++ Text.ofNat (c.val - 0x30) := by
        rw [Nat.mul_comm, Text.ofNat, ← Nat.toDigits_append_toDigits (by decide) hpos hless,
          List.map_append]
        rfl
      rw [value_snoc, hlonger, ih hfront, ofNat_digit hlast, hfirst]
      rfl

end Numeral

end NodeClient
