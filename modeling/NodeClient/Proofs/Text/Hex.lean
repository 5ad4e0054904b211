import NodeClient.Proofs.Number.Digits

/-! Hexadecimal digits, in capitals and in small letters. -/

namespace NodeClient.CodePoint

variable {c : CodePoint} {n : Nat}

theorem hexValue?_hexDigit : ∀ d < 16, (hexDigit d).hexValue? = some d := by decide

theorem hexValue?_lt (h : c.hexValue? = some n) : n < 16 := by
  unfold hexValue? at h
  simp only [isDigit, Bool.and_eq_true, decide_eq_true_eq] at h
  grind

theorem val_lt_of_hexValue? (h : c.hexValue? = some n) : c.val < 0x67 := by
  unfold hexValue? at h
  simp only [isDigit, Bool.and_eq_true, decide_eq_true_eq] at h
  grind

theorem le_val_of_hexValue? (h : c.hexValue? = some n) : 0x30 ≤ c.val := by
  unfold hexValue? at h
  simp only [isDigit, Bool.and_eq_true, decide_eq_true_eq] at h
  grind

/-- The code points below `g`, one by one. -/
theorem hexDigit_table (n : Fin 0x67) :
    ∀ k < 16, (⟨n.val, by omega⟩ : CodePoint).hexValue? = some k →
      (⟨n.val, by omega⟩ : CodePoint).isBlank = false ∧
        (⟨n.val, by omega⟩ : CodePoint).lowerAscii = hexDigit k := by
  revert n
  decide +kernel

theorem lowerAscii_of_hexValue? (h : c.hexValue? = some n) : c.lowerAscii = hexDigit n :=
  (hexDigit_table ⟨c.val, val_lt_of_hexValue? h⟩ n (hexValue?_lt h) h).2

theorem exists_hexValue? (h : c.isHexDigit = true) : ∃ n, c.hexValue? = some n :=
  Option.isSome_iff_exists.mp h

theorem not_blank_of_isHexDigit (h : c.isHexDigit = true) : c.isBlank = false := by
  obtain ⟨n, hn⟩ := exists_hexValue? h
  exact (hexDigit_table ⟨c.val, val_lt_of_hexValue? hn⟩ n (hexValue?_lt hn) hn).1

theorem isHexDigit_lowerAscii (h : c.isHexDigit = true) : c.lowerAscii.isHexDigit = true := by
  obtain ⟨n, hn⟩ := exists_hexValue? h
  rw [lowerAscii_of_hexValue? hn, isHexDigit, hexValue?_hexDigit n (hexValue?_lt hn),
    Option.isSome_some]

theorem hexDigit_small : ∀ n < 16, (hexDigit n).isDigit = true ∨
    (0x61 ≤ (hexDigit n).val ∧ (hexDigit n).val ≤ 0x66) := by decide

theorem hexValue?_of_isDigit (h : c.isDigit = true) : c.hexValue? = some (c.val - 0x30) := if_pos h

theorem isHexDigit_of_isDigit (h : c.isDigit = true) : c.isHexDigit = true := by
  rw [isHexDigit, hexValue?_of_isDigit h, Option.isSome_some]

theorem not_blank_of_isDigit (h : c.isDigit = true) : c.isBlank = false :=
  not_blank_of_isHexDigit (isHexDigit_of_isDigit h)

theorem hexDigit_of_isDigit (h : c.isDigit = true) : hexDigit (c.val - 0x30) = c := by
  have hcapital : c.isUpper = false := by
    have := isDigit_iff.mp h
    rw [isUpper, Bool.and_eq_false_iff, decide_eq_false_iff_not]
    omega
  rw [← lowerAscii_of_hexValue? (hexValue?_of_isDigit h), lowerAscii, dif_neg (by simp [hcapital])]

end NodeClient.CodePoint
