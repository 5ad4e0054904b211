import NodeClient.Proofs.Chain.Spelling

/-! The one text of a pointer. It is read as the pointer it was written from, and whatever spells
that pointer is sent as this text. -/

namespace NodeClient

theorem SpellsBytes.isHexDigit {hex : Text} {bytes : Bytes} (h : SpellsBytes hex bytes) :
    ∀ c ∈ hex, c.isHexDigit = true := by
  have hdigit {c : CodePoint} {n : Nat} (hc : c.hexValue? = some n) : c.isHexDigit = true := by
    rw [CodePoint.isHexDigit, hc, Option.isSome_some]
  induction h with
  | nil => exact List.forall_mem_nil _
  | cons hhigh hlow _ _ ih =>
    exact List.forall_mem_cons.mpr ⟨hdigit hhigh, List.forall_mem_cons.mpr ⟨hdigit hlow, ih⟩⟩

namespace OutputPointer

variable {raw hex digits hex' digits' : Text} {p q : OutputPointer}

theorem text_spells (p : OutputPointer) :
    Spells (hexOfBytes p.transactionId) (Text.ofNat p.outputIndex) p.text := by
  have hbytes := SpellsBytes.hexOfBytes_spells p.transactionId
  have hlength : (hexOfBytes p.transactionId).length = 64 := by
    rw [hbytes.length_eq, p.length_eq]
  obtain ⟨hne, hdigits, -⟩ := isDecimal_ofNat p.outputIndex
  exact ⟨rfl, ⟨hlength, hbytes.isHexDigit⟩, hne, hdigits⟩

theorem eq_of_parts (htransaction : p.transactionId = q.transactionId)
    (hindex : p.outputIndex = q.outputIndex) : p = q := by
  obtain ⟨transaction, index, _⟩ := p
  obtain rfl : transaction = q.transactionId := htransaction
  obtain rfl : index = q.outputIndex := hindex
  rfl

theorem read_text (h : WithinDigits p.outputIndex) : read p.text = .ok p := by
  have hspells : Spells (hexOfBytes p.transactionId) (Text.ofNat p.outputIndex)
      (Text.strip p.text) := by
    rw [p.text_spells.strip_eq]
    exact p.text_spells
  have hshort : (Text.ofNat p.outputIndex).length ≤ maxDigits :=
    (length_ofNat_le_iff (by decide)).mpr h
  obtain ⟨q, hread, htransaction, hindex⟩ := hspells.read_short hshort
  have hsame : q.transactionId = p.transactionId :=
    htransaction.unique (SpellsBytes.hexOfBytes_spells p.transactionId)
  have hnumber : q.outputIndex = p.outputIndex := by
    rw [hindex, ← Numeral.value_eq_decimal, Numeral.value_ofNat]
  rw [hread, eq_of_parts hsame hnumber]

/-- A pointer is written in small letters and without zeros in front, however it was spelled. -/
theorem text_of_spells (hspells : Spells hex digits (Text.strip raw)) (h : read raw = .ok p) :
    p.text = Text.lowerAscii hex ++ colon :: Text.withoutZeros digits := by
  obtain ⟨_, _, hother, -, htransaction, hindex⟩ := exists_spells_of_read h
  obtain ⟨rfl, rfl⟩ := hspells.unique hother
  rw [text, htransaction.lowerAscii_eq, hindex, ← Numeral.value_eq_decimal,
    Numeral.ofNat_value hspells.index.2]

theorem canonical_inj {raw' : Text} (h : Spells hex digits (Text.strip raw))
    (h' : Spells hex' digits' (Text.strip raw')) :
    Text.lowerAscii hex ++ colon :: Text.withoutZeros digits =
        Text.lowerAscii hex' ++ colon :: Text.withoutZeros digits' ↔
      Text.lowerAscii hex = Text.lowerAscii hex' ∧
        Text.withoutZeros digits = Text.withoutZeros digits' := by
  have hlength : (Text.lowerAscii hex).length = (Text.lowerAscii hex').length := by
    rw [Text.lowerAscii, Text.lowerAscii, List.length_map, List.length_map, h.transaction.1,
      h'.transaction.1]
  constructor
  · intro hsame
    obtain ⟨hfirst, hrest⟩ := List.append_inj hsame hlength
    exact ⟨hfirst, List.tail_eq_of_cons_eq hrest⟩
  · rintro ⟨hfirst, hrest⟩
    rw [hfirst, hrest]

theorem checkedParams_read (h : read raw = .ok p) :
    checkedParams Method.output.name [.value (.str raw)] = .ok [.str p.text] :=
  checkedParams_eq_ok_iff.mpr (.spelled h)

theorem text_inj_of_read {raw' : Text} (h : read raw = .ok p) (h' : read raw' = .ok q) :
    p.text = q.text ↔ p = q := by
  refine ⟨fun htext => ?_, congrArg text⟩
  have hp := read_text (withinDigits_of_read h)
  have hq := read_text (withinDigits_of_read h')
  rw [htext, hq] at hp
  exact (Except.ok.inj hp).symm

/-- Every pointer is read back from its text, which is sent as it is. Two texts that are read as
pointers are sent as the same text exactly when they point to the same output, which is when they
differ in blanks around them, in capitals and in zeros in front of the index at most. -/
theorem output_sent_canonically :
    (∀ p : OutputPointer, WithinDigits p.outputIndex →
      read p.text = .ok p ∧
        checkedParams Method.output.name [.value (.str p.text)] = .ok [.str p.text]) ∧
    ∀ (s t : Text) (p q : OutputPointer), read s = .ok p → read t = .ok q →
      ∃ wire wire' : Text,
        checkedParams Method.output.name [.value (.str s)] = .ok [.str wire] ∧
        checkedParams Method.output.name [.value (.str t)] = .ok [.str wire'] ∧
        (wire = wire' ↔ p = q) ∧
        ∀ hex digits hex' digits', Spells hex digits (Text.strip s) →
          Spells hex' digits' (Text.strip t) →
          (wire = wire' ↔ Text.lowerAscii hex = Text.lowerAscii hex' ∧
            Text.withoutZeros digits = Text.withoutZeros digits') := by
  refine ⟨fun p hp => ⟨read_text hp, checkedParams_read (read_text hp)⟩, ?_⟩
  intro s t p q hs ht
  refine ⟨p.text, q.text, checkedParams_read hs, checkedParams_read ht, text_inj_of_read hs ht, ?_⟩
  intro hex digits hex' digits' hspells hspells'
  rw [text_of_spells hspells hs, text_of_spells hspells' ht]
  exact canonical_inj hspells hspells'

/-- Blanks, capitals and zeros in front of the index make no other request. -/
theorem output_sent_canonically_capitals :
    let p : OutputPointer := ⟨List.replicate 32 0xAB, 70, rfl⟩
    let s : Text := " ABABABABABABABABABABABABABABABABABABABABABABABABABABABABABABABAB:0070\u0085"
    read p.text = .ok p ∧ read s = .ok p ∧
      checkedParams Method.output.name [.value (.str s)] = .ok [.str p.text] := by
  intro p s
  have hwithin : WithinDigits p.outputIndex := .of_lt_pow (show 2 ≤ maxDigits by decide) (by decide)
  have hs : read s = .ok p := toOption_eq_some.mp (by decide +kernel)
  obtain ⟨hback, hsent⟩ := output_sent_canonically.1 p hwithin
  obtain ⟨wire, wire', hwire, hwire', hsame, -⟩ :=
    output_sent_canonically.2 s p.text p p hs hback
  obtain rfl : wire = wire' := hsame.mpr rfl
  exact ⟨hback, hs, hwire.trans (hwire'.symm.trans hsent)⟩

end OutputPointer

end NodeClient
