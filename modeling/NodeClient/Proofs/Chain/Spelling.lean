import NodeClient.Proofs.Chain.Pointer
import NodeClient.Proofs.Number.Decimal
import NodeClient.Proofs.Text.Split

/-! Which texts are pointers to outputs, what they point to, and what is wrong with other texts. -/

namespace NodeClient

/-- Two hexadecimal digits for each byte, the high one first. -/
inductive SpellsBytes : Text → Bytes → Prop where
  | nil : SpellsBytes [] []
  | cons {high low : CodePoint} {a b : Nat} {byte : UInt8} {hex : Text} {bytes : Bytes}
      (hhigh : high.hexValue? = some a) (hlow : low.hexValue? = some b)
      (hbyte : byte.toNat = 16 * a + b) (hrest : SpellsBytes hex bytes) :
      SpellsBytes (high :: low :: hex) (byte :: bytes)

theorem hexOfBytes_cons (byte : UInt8) (bytes : Bytes) :
    hexOfBytes (byte :: bytes) = CodePoint.hexDigit (byte.toNat / 16 % 16) ::
      CodePoint.hexDigit (byte.toNat % 16) :: hexOfBytes bytes := rfl

namespace SpellsBytes

variable {hex : Text} {bytes : Bytes}

theorem length_eq (h : SpellsBytes hex bytes) : hex.length = 2 * bytes.length := by
  induction h with
  | nil => rfl
  | cons _ _ _ _ ih =>
    rw [List.length_cons, List.length_cons, List.length_cons, ih]
    omega

theorem unique {other : Bytes} (h : SpellsBytes hex bytes) (hother : SpellsBytes hex other) :
    bytes = other := by
  induction h generalizing other with
  | nil =>
    cases hother
    rfl
  | cons hhigh hlow hbyte _ ih =>
    obtain _ | ⟨hhigh', hlow', hbyte', hrest'⟩ := hother
    have hsame := Option.some.inj (hhigh.symm.trans hhigh')
    have hsame' := Option.some.inj (hlow.symm.trans hlow')
    have hbytes := UInt8.toNat_inj.mp (hbyte.trans (by rw [hbyte', hsame, hsame']))
    rw [hbytes, ih hrest']

theorem bytesOfHex_spelled (heven : hex.length % 2 = 0) (hhex : ∀ c ∈ hex, c.isHexDigit = true) :
    SpellsBytes hex (bytesOfHex hex) := by
  induction hex using bytesOfHex.induct with
  | case1 high low rest ih =>
    obtain ⟨a, ha⟩ := CodePoint.exists_hexValue? (hhex high (by simp))
    obtain ⟨b, hb⟩ := CodePoint.exists_hexValue? (hhex low (by simp))
    rw [List.length_cons, List.length_cons] at heven
    have hrest : SpellsBytes rest (bytesOfHex rest) :=
      ih (by omega) fun c hc => hhex c (by simp [hc])
    have hbyte : a * 16 + b < 256 := by
      have := CodePoint.hexValue?_lt ha
      have := CodePoint.hexValue?_lt hb
      omega
    refine .cons ha hb ?_ hrest
    rw [ha, hb, Option.getD_some, Option.getD_some, UInt8.toNat_ofNat_of_lt' hbyte, Nat.mul_comm]
  | case2 hex hshort =>
    match hex with
    | [] => exact .nil
    | [_] => cases heven
    | high :: low :: rest => exact absurd rfl (hshort high low rest)

theorem hexOfBytes_spells (bytes : Bytes) : SpellsBytes (hexOfBytes bytes) bytes := by
  induction bytes with
  | nil => exact .nil
  | cons byte bytes ih =>
    have hless := byte.toNat_lt
    rw [hexOfBytes_cons]
    refine .cons (CodePoint.hexValue?_hexDigit _ (Nat.mod_lt _ (by decide)))
      (CodePoint.hexValue?_hexDigit _ (Nat.mod_lt _ (by decide))) ?_ ih
    omega

/-- Bytes are written in small letters, however they were spelled. -/
theorem lowerAscii_eq (h : SpellsBytes hex bytes) : Text.lowerAscii hex = hexOfBytes bytes := by
  induction h with
  | nil => rfl
  | @cons high low a b byte hex bytes hhigh hlow hbyte _ ih =>
    have := CodePoint.hexValue?_lt hhigh
    have := CodePoint.hexValue?_lt hlow
    have hdigits : byte.toNat / 16 % 16 = a ∧ byte.toNat % 16 = b := by omega
    have hcons : Text.lowerAscii (high :: low :: hex) =
      high.lowerAscii :: low.lowerAscii :: Text.lowerAscii hex := rfl
    rw [hcons, hexOfBytes_cons, hdigits.1, hdigits.2, ih, CodePoint.lowerAscii_of_hexValue? hhigh,
      CodePoint.lowerAscii_of_hexValue? hlow]

end SpellsBytes

namespace OutputPointer

/-- The mark between a transaction id and an index. -/
abbrev colon : CodePoint := CodePoint.ofChar ':'

def IsTransaction (hex : Text) : Prop := hex.length = 64 ∧ ∀ c ∈ hex, c.isHexDigit = true

def IsIndex (digits : Text) : Prop := digits ≠ [] ∧ ∀ c ∈ digits, c.isDigit = true

structure Spells (hex digits s : Text) : Prop where
  parts : s = hex ++ colon :: digits
  transaction : IsTransaction hex
  index : IsIndex digits

/-- The first thing that keeps a text from being a pointer. -/
inductive Misspelled (raw : Text) : ArgumentFault → Prop where
  | noColon (h : colon ∉ Text.strip raw) : Misspelled raw (.pointerShape raw)
  | transaction {hex digits : Text} (hparts : Text.strip raw = hex ++ colon :: digits)
      (hfirst : colon ∉ hex) (hbad : ¬ IsTransaction hex) : Misspelled raw (.transactionId hex)
  | index {hex digits : Text} (hparts : Text.strip raw = hex ++ colon :: digits)
      (htransaction : IsTransaction hex) (hbad : ¬ IsIndex digits) :
      Misspelled raw (.outputIndex digits)

variable {raw hex digits s : Text}

theorem isHash_iff : isHash hex = true ↔ IsTransaction hex := by
  simp only [isHash, Bool.and_eq_true, beq_iff_eq, List.all_eq_true, IsTransaction]

theorem not_index_iff : (digits.isEmpty || !digits.all CodePoint.isDigit) = true ↔
    ¬ IsIndex digits := by
  simp only [IsIndex, Bool.or_eq_true, List.isEmpty_iff, Bool.not_eq_true', ne_eq, not_and_or,
    Classical.not_not, ← Bool.not_eq_true, List.all_eq_true]

theorem IsTransaction.colon_not_mem (h : IsTransaction hex) : colon ∉ hex := by
  intro hmem
  have hcolon := h.2 colon hmem
  revert hcolon
  decide

namespace Spells

theorem splitFirst_eq (h : Spells hex digits s) : Text.splitFirst colon s = (hex, some digits) :=
  h.parts ▸ Text.splitFirst_append h.transaction.colon_not_mem digits

theorem unique {hex' digits' : Text} (h : Spells hex digits s) (h' : Spells hex' digits' s) :
    hex = hex' ∧ digits = digits' := by
  have hsame := h.splitFirst_eq.symm.trans h'.splitFirst_eq
  obtain ⟨rfl, hdigits⟩ := Prod.mk.inj hsame
  exact ⟨rfl, Option.some.inj hdigits⟩

theorem strip_eq (h : Spells hex digits s) : Text.strip s = s := by
  apply Text.strip_eq_self
  intro c hc
  rw [h.parts, List.mem_append, List.mem_cons] at hc
  rcases hc with hhex | rfl | hdigit
  · exact CodePoint.not_blank_of_isHexDigit (h.transaction.2 c hhex)
  · decide
  · exact CodePoint.not_blank_of_isDigit (h.index.2 c hdigit)

end Spells

theorem Misspelled.not_spells {fault : ArgumentFault} (h : Misspelled raw fault) :
    ¬ Spells hex digits (Text.strip raw) := by
  intro hspells
  have hsplit := hspells.splitFirst_eq
  cases h with
  | noColon hnone => exact hnone (hspells.parts ▸ by simp)
  | transaction hparts hfirst hbad =>
    rw [hparts, Text.splitFirst_append hfirst] at hsplit
    obtain ⟨rfl, -⟩ := Prod.mk.inj hsplit
    exact hbad hspells.transaction
  | index hparts htransaction hbad =>
    rw [hparts, Text.splitFirst_append htransaction.colon_not_mem] at hsplit
    obtain ⟨rfl, hdigits⟩ := Prod.mk.inj hsplit
    exact hbad (Option.some.inj hdigits ▸ hspells.index)

/-- What a text is read as, by what it spells. -/
inductive Reading (raw : Text) : Outcome OutputPointer → Prop where
  | pointer {hex digits : Text} {p : OutputPointer} (h : Spells hex digits (Text.strip raw))
      (hshort : digits.length ≤ maxDigits) (htransaction : SpellsBytes hex p.transactionId)
      (hindex : p.outputIndex = Text.decimal digits) : Reading raw (.ok p)
  | long {hex digits : Text} (h : Spells hex digits (Text.strip raw))
      (hlong : maxDigits < digits.length) : Reading raw (.error (.broke .longInteger))
  | misspelled {fault : ArgumentFault} (h : Misspelled raw fault) :
      Reading raw (.error (.failed (.arguments fault)))

theorem natural?_index (h : IsIndex digits) :
    Numeral.natural? digits =
      if maxDigits < digits.length then none else some (Text.decimal digits) := by
  have hdigits : (digits.isEmpty || !digits.all CodePoint.isDigit) = false :=
    Bool.eq_false_iff.mpr fun hbad => not_index_iff.mp hbad h
  rw [Numeral.natural?, hdigits, Bool.false_or, Numeral.value_eq_decimal]
  simp only [decide_eq_true_eq]

theorem make_spelled (h : IsTransaction hex) (n : Nat) :
    ∃ p, make (bytesOfHex hex) n = .ok p ∧ SpellsBytes hex p.transactionId ∧ p.outputIndex = n := by
  have hspells : SpellsBytes hex (bytesOfHex hex) :=
    SpellsBytes.bytesOfHex_spelled (by rw [h.1]) h.2
  have hlength : (bytesOfHex hex).length = 32 := by
    have := hspells.length_eq
    rw [h.1] at this
    omega
  refine ⟨⟨bytesOfHex hex, n, hlength⟩, ?_, hspells, rfl⟩
  rw [make, dif_pos hlength, if_neg (by omega)]
  rfl

theorem reading (raw : Text) : Reading raw (read raw) := by
  unfold read
  rcases Text.splitFirst_cases colon (Text.strip raw) with ⟨hnone, hsplit⟩ |
    ⟨hex, digits, hparts, hfirst, hsplit⟩
  · rw [hsplit]
    exact .misspelled (.noColon hnone)
  · rw [hsplit]
    dsimp only
    by_cases htransaction : IsTransaction hex
    · rw [isHash_iff.mpr htransaction, Bool.not_true, if_neg Bool.false_ne_true]
      by_cases hindex : IsIndex digits
      · have hspells : Spells hex digits (Text.strip raw) := ⟨hparts, htransaction, hindex⟩
        rw [if_neg (mt not_index_iff.mp (not_not_intro hindex)), natural?_index hindex]
        by_cases hlong : maxDigits < digits.length
        · rw [if_pos hlong]
          exact .long hspells hlong
        · rw [if_neg hlong]
          obtain ⟨p, hp, hbytes, hn⟩ := make_spelled htransaction (Text.decimal digits)
          dsimp only
          rw [hp]
          exact .pointer hspells (Nat.not_lt.mp hlong) hbytes hn
      · rw [if_pos (not_index_iff.mpr hindex)]
        exact .misspelled (.index hparts htransaction hindex)
    · rw [if_pos (by rw [Bool.not_eq_true', ← Bool.not_eq_true, isHash_iff]; exact htransaction)]
      exact .misspelled (.transaction hparts hfirst htransaction)

/-! Reading -/

theorem Spells.read_short (h : Spells hex digits (Text.strip raw))
    (hshort : digits.length ≤ maxDigits) :
    ∃ p, read raw = .ok p ∧ SpellsBytes hex p.transactionId ∧
      p.outputIndex = Text.decimal digits := by
  have hreading := reading raw
  generalize read raw = outcome at hreading ⊢
  cases hreading with
  | pointer hother _ htransaction hindex =>
    obtain ⟨rfl, rfl⟩ := h.unique hother
    exact ⟨_, rfl, htransaction, hindex⟩
  | long hother hlong =>
    obtain ⟨-, rfl⟩ := h.unique hother
    exact absurd hshort (Nat.not_le.mpr hlong)
  | misspelled hbad => exact absurd h hbad.not_spells

theorem Spells.read_long (h : Spells hex digits (Text.strip raw))
    (hlong : maxDigits < digits.length) : read raw = .error (.broke .longInteger) := by
  have hreading := reading raw
  generalize read raw = outcome at hreading ⊢
  cases hreading with
  | pointer hother hshort =>
    obtain ⟨-, rfl⟩ := h.unique hother
    exact absurd hshort (Nat.not_le.mpr hlong)
  | long => rfl
  | misspelled hbad => exact absurd h hbad.not_spells

theorem read_misspelled (h : ∀ hex digits, ¬ Spells hex digits (Text.strip raw)) :
    ∃ fault, Misspelled raw fault ∧ read raw = .error (.failed (.arguments fault)) := by
  have hreading := reading raw
  generalize read raw = outcome at hreading ⊢
  cases hreading with
  | pointer hspells => exact absurd hspells (h _ _)
  | long hspells => exact absurd hspells (h _ _)
  | misspelled hbad => exact ⟨_, hbad, rfl⟩

theorem exists_spells_of_read {p : OutputPointer} (h : read raw = .ok p) :
    ∃ hex digits, Spells hex digits (Text.strip raw) ∧ digits.length ≤ maxDigits ∧
      SpellsBytes hex p.transactionId ∧ p.outputIndex = Text.decimal digits := by
  have hreading := reading raw
  rw [h] at hreading
  obtain ⟨hspells, hshort, htransaction, hindex⟩ | _ | _ := hreading
  exact ⟨_, _, hspells, hshort, htransaction, hindex⟩

theorem withinDigits_of_read {p : OutputPointer} (h : read raw = .ok p) :
    WithinDigits p.outputIndex := by
  obtain ⟨_, digits, hspells, hshort, -, hindex⟩ := exists_spells_of_read h
  have hvalue : Numeral.value digits < Nat.pow 10 digits.length :=
    Numeral.value_lt (List.all_eq_true.mpr hspells.index.2)
  rw [Numeral.value_eq_decimal, ← hindex] at hvalue
  exact .of_lt_pow hshort hvalue

/-- A text that spells a pointer is read as that pointer, and any other text is refused with what is
wrong with it, exactly as long as the index has no more digits than an integer may have. A longer
one breaks the reading. -/
theorem read_spelled_iff_short (raw : Text) :
    (((∀ hex digits, Spells hex digits (Text.strip raw) → ∃ p, read raw = .ok p ∧
          SpellsBytes hex p.transactionId ∧ p.outputIndex = Text.decimal digits) ∧
        ((∀ hex digits, ¬ Spells hex digits (Text.strip raw)) → ∃ fault, Misspelled raw fault ∧
          read raw = .error (.failed (.arguments fault)))) ↔
      ∀ hex digits, Spells hex digits (Text.strip raw) → digits.length ≤ maxDigits) ∧
    ∀ hex digits, Spells hex digits (Text.strip raw) → maxDigits < digits.length →
      read raw = .error (.broke .longInteger) := by
  refine ⟨⟨?_, ?_⟩, fun _ _ h => h.read_long⟩
  · rintro ⟨hread, -⟩ hex digits hspells
    by_contra hlong
    obtain ⟨p, hp, -⟩ := hread hex digits hspells
    rw [hspells.read_long (Nat.not_le.mp hlong)] at hp
    cases hp
  · intro hshort
    exact ⟨fun hex digits h => h.read_short (hshort hex digits h), read_misspelled⟩

/-- Blanks on both sides, capitals in the transaction id and zeros in front of the index. -/
theorem read_spelled_iff_short_padded :
    let hex : Text := "AbCdEf0123456789aBcDeF0123456789ABCDEF0123456789abcdef0123456789"
    let raw : Text := "\u2003\t" ++ hex ++ ":007\n"
    Spells hex "007" (Text.strip raw) ∧
      ∃ p, read raw = .ok p ∧ SpellsBytes hex p.transactionId ∧ p.outputIndex = 7 := by
  intro hex raw
  have hspells : Spells hex "007" (Text.strip raw) := by
    refine ⟨by decide +kernel, ⟨by decide +kernel, ?_⟩, nofun, ?_⟩
    · decide +kernel
    · decide +kernel
  have hshort : ∀ hex digits, Spells hex digits (Text.strip raw) → digits.length ≤ maxDigits := by
    intro hex' digits' hspells'
    obtain ⟨-, rfl⟩ := hspells.unique hspells'
    decide
  exact ⟨hspells, ((read_spelled_iff_short raw).1.mpr hshort).1 hex "007" hspells⟩

/-- An index of one digit behind as many zeros as an integer may have digits. -/
theorem read_breaks_long_index :
    let hex : Text := List.replicate 64 (CodePoint.ofChar 'a')
    let digits : Text := List.replicate maxDigits (CodePoint.ofChar '0') ++ "7"
    Spells hex digits (Text.strip (hex ++ colon :: digits)) ∧
      read (hex ++ colon :: digits) = .error (.broke .longInteger) := by
  intro hex digits
  have hspells : Spells hex digits (hex ++ colon :: digits) := by
    refine ⟨rfl, ⟨List.length_replicate, ?_⟩, List.append_ne_nil_of_right_ne_nil _ (by decide), ?_⟩
    · intro c hc
      rw [List.eq_of_mem_replicate hc]
      rfl
    · intro c hc
      rcases List.mem_append.mp hc with hc | hc
      · rw [List.eq_of_mem_replicate hc]
        rfl
      · obtain rfl := List.mem_singleton.mp hc
        rfl
  have hlong : maxDigits < digits.length := by
    rw [List.length_append, List.length_replicate]
    exact Nat.lt_succ_self _
  rw [hspells.strip_eq]
  exact ⟨hspells, (hspells.strip_eq.symm ▸ hspells).read_long hlong⟩

end OutputPointer

end NodeClient
