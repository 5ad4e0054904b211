import NodeClient.Proofs.Text.Utf8

/-! The encoding of a text splits into the characters of the text, so it is decoded to the text that
it came of. -/

namespace NodeClient.Utf8

theorem assemble_val (c : CodePoint) (part : Bytes) : assemble c.val part = .char c := by
  rw [assemble, CodePoint.ofNat?, dif_pos c.isLt]

/-! The head piece of a whole character -/

section HeadPiece

variable {a b c d : UInt8} (rest : Bytes)

theorem headPiece_one (ha : a.toNat < 0x80) :
    headPiece a rest = (.char (CodePoint.ofByte a), 0) := by
  unfold headPiece
  rw [if_pos ha]

theorem headPiece_two (ha : 0xC2 ≤ a.toNat ∧ a.toNat < 0xE0) (hb : isContinuation b = true) :
    headPiece a (b :: rest) = (assemble (a.toNat % 32 * 64 + payload b) [a, b], 1) := by
  have hlead : (0xC2 ≤ a.toNat && a.toNat < 0xE0) = true := by simpa using ha
  unfold headPiece
  rw [if_neg (by omega), if_pos hlead]
  dsimp only
  rw [if_pos hb]

theorem headPiece_three (ha : 0xE0 ≤ a.toNat ∧ a.toNat < 0xF0) (hb : mayFollow a b = true)
    (hc : isContinuation c = true) :
    headPiece a (b :: c :: rest) =
      (assemble ((a.toNat % 16 * 64 + payload b) * 64 + payload c) [a, b, c], 2) := by
  have hshort : ¬ (0xC2 ≤ a.toNat && a.toNat < 0xE0) = true := by simp; omega
  have hlead : (0xE0 ≤ a.toNat && a.toNat < 0xF0) = true := by simpa using ha
  unfold headPiece
  rw [if_neg (by omega), if_neg hshort, if_pos hlead]
  dsimp only
  rw [if_neg (by simp [hb]), if_pos hc]

theorem headPiece_four (ha : 0xF0 ≤ a.toNat ∧ a.toNat < 0xF5) (hb : mayFollow a b = true)
    (hc : isContinuation c = true) (hd : isContinuation d = true) :
    headPiece a (b :: c :: d :: rest) =
      (assemble (((a.toNat % 8 * 64 + payload b) * 64 + payload c) * 64 + payload d)
        [a, b, c, d], 3) := by
  have hshort : ¬ (0xC2 ≤ a.toNat && a.toNat < 0xE0) = true := by simp; omega
  have hshort' : ¬ (0xE0 ≤ a.toNat && a.toNat < 0xF0) = true := by simp; omega
  have hlead : (0xF0 ≤ a.toNat && a.toNat < 0xF5) = true := by simpa using ha
  unfold headPiece
  rw [if_neg (by omega), if_neg hshort, if_neg hshort', if_pos hlead]
  dsimp only
  rw [if_neg (by simp [hb]), if_neg (by simp [hc]), if_pos hd]

end HeadPiece

/-! The bytes of an encoding -/

section Bytes

variable {n : Nat} (h : n < 0x40)
include h

theorem toNat_continuation : (UInt8.ofNat (0x80 + n)).toNat = 0x80 + n :=
  UInt8.toNat_ofNat_of_lt' (show _ < 0x100 by omega)

theorem isContinuation_ofNat : isContinuation (UInt8.ofNat (0x80 + n)) = true := by
  rw [isContinuation, toNat_continuation h, Bool.and_eq_true, decide_eq_true_eq, decide_eq_true_eq]
  omega

theorem payload_ofNat : payload (UInt8.ofNat (0x80 + n)) = n := by
  rw [payload, toNat_continuation h]
  omega

theorem mayFollow_ofNat {lead : Nat} (hlead : lead < 0x100) (hlong : lead = 0xE0 → 0x20 ≤ n)
    (hplain : lead = 0xED → n < 0x20) (hlong' : lead = 0xF0 → 0x10 ≤ n)
    (hsmall : lead = 0xF4 → n < 0x10) :
    mayFollow (UInt8.ofNat lead) (UInt8.ofNat (0x80 + n)) = true := by
  rw [mayFollow, UInt8.toNat_ofNat_of_lt' hlead, toNat_continuation h, isContinuation_ofNat h,
    Bool.true_and]
  simp only [beq_iff_eq]
  repeat' split
  all_goals simp
  all_goals omega

end Bytes

/-- These bytes are the head piece of whatever they start, and it is this character. -/
def Spell (c : CodePoint) (bytes : Bytes) : Prop :=
  ∃ a part, bytes = a :: part ∧ ∀ rest, headPiece a (part ++ rest) = (.char c, part.length)

variable {c : CodePoint}

theorem spell_one (h : c.val < 0x80) : Spell c [UInt8.ofNat c.val] := by
  refine ⟨_, [], rfl, fun rest => ?_⟩
  have hlead : (UInt8.ofNat c.val).toNat = c.val :=
    UInt8.toNat_ofNat_of_lt' (show _ < 0x100 by omega)
  have hbyte : CodePoint.ofByte (UInt8.ofNat c.val) = c := by
    obtain ⟨val, hval⟩ := c
    simp only [CodePoint.ofByte, hlead]
  rw [List.nil_append, headPiece_one rest (by rwa [hlead]), hbyte]
  rfl

theorem spell_two (hlow : 0x80 ≤ c.val) (hhigh : c.val < 0x800) :
    Spell c [UInt8.ofNat (0xC0 + c.val / 64), UInt8.ofNat (0x80 + c.val % 64)] := by
  refine ⟨_, [_], rfl, fun rest => ?_⟩
  have hlead : (UInt8.ofNat (0xC0 + c.val / 64)).toNat = 0xC0 + c.val / 64 :=
    UInt8.toNat_ofNat_of_lt' (show _ < 0x100 by omega)
  have hlast : c.val % 64 < 0x40 := by omega
  have hwhole : (0xC0 + c.val / 64) % 32 * 64 + c.val % 64 = c.val := by omega
  rw [List.singleton_append, headPiece_two rest (by omega) (isContinuation_ofNat hlast), hlead,
    payload_ofNat hlast, hwhole, assemble_val]
  rfl

theorem spell_three (hlow : 0x800 ≤ c.val) (hhigh : c.val < 0x10000)
    (hplain : c.val < 0xD800 ∨ 0xE000 ≤ c.val) :
    Spell c [UInt8.ofNat (0xE0 + c.val / 4096), UInt8.ofNat (0x80 + c.val / 64 % 64),
      UInt8.ofNat (0x80 + c.val % 64)] := by
  refine ⟨_, [_, _], rfl, fun rest => ?_⟩
  have hlead : (UInt8.ofNat (0xE0 + c.val / 4096)).toNat = 0xE0 + c.val / 4096 :=
    UInt8.toNat_ofNat_of_lt' (show _ < 0x100 by omega)
  have hsecond : c.val / 64 % 64 < 0x40 := by omega
  have hlast : c.val % 64 < 0x40 := by omega
  have hfollow : mayFollow (UInt8.ofNat (0xE0 + c.val / 4096))
      (UInt8.ofNat (0x80 + c.val / 64 % 64)) = true :=
    mayFollow_ofNat hsecond (by omega) (by omega) (by omega) (by omega) (by omega)
  have hwhole : ((0xE0 + c.val / 4096) % 16 * 64 + c.val / 64 % 64) * 64 + c.val % 64 =
      c.val := by omega
  rw [List.cons_append, List.singleton_append,
    headPiece_three rest (by omega) hfollow (isContinuation_ofNat hlast), hlead,
    payload_ofNat hsecond, payload_ofNat hlast, hwhole, assemble_val]
  rfl

theorem spell_four (hlow : 0x10000 ≤ c.val) :
    Spell c [UInt8.ofNat (0xF0 + c.val / 262144), UInt8.ofNat (0x80 + c.val / 4096 % 64),
      UInt8.ofNat (0x80 + c.val / 64 % 64), UInt8.ofNat (0x80 + c.val % 64)] := by
  refine ⟨_, [_, _, _], rfl, fun rest => ?_⟩
  have hlt := c.isLt
  have hlead : (UInt8.ofNat (0xF0 + c.val / 262144)).toNat = 0xF0 + c.val / 262144 :=
    UInt8.toNat_ofNat_of_lt' (show _ < 0x100 by omega)
  have hsecond : c.val / 4096 % 64 < 0x40 := by omega
  have hthird : c.val / 64 % 64 < 0x40 := by omega
  have hlast : c.val % 64 < 0x40 := by omega
  have hfollow : mayFollow (UInt8.ofNat (0xF0 + c.val / 262144))
      (UInt8.ofNat (0x80 + c.val / 4096 % 64)) = true :=
    mayFollow_ofNat hsecond (by omega) (by omega) (by omega) (by omega) (by omega)
  have hwhole : (((0xF0 + c.val / 262144) % 8 * 64 + c.val / 4096 % 64) * 64 +
      c.val / 64 % 64) * 64 + c.val % 64 = c.val := by omega
  rw [List.cons_append, List.cons_append, List.singleton_append,
    headPiece_four rest (by omega) hfollow (isContinuation_ofNat hthird)
      (isContinuation_ofNat hlast), hlead, payload_ofNat hsecond, payload_ofNat hthird,
    payload_ofNat hlast, hwhole, assemble_val]
  rfl

theorem spell_encodeCodePoint (h : c.isSurrogate = false) : Spell c (encodeCodePoint c) := by
  have hplain : c.val < 0xD800 ∨ 0xE000 ≤ c.val := by
    simp only [CodePoint.isSurrogate, Bool.and_eq_false_iff, decide_eq_false_iff_not] at h
    omega
  unfold encodeCodePoint
  dsimp only
  split
  · exact spell_one ‹_›
  · split
    · exact spell_two (by omega) ‹_›
    · split
      · exact spell_three (by omega) ‹_› hplain
      · exact spell_four (by omega)

/-! Decoding -/

theorem piecesFrom_length (part rest : Bytes) :
    piecesFrom part.length (part ++ rest) = pieces rest := by
  induction part with
  | nil => rfl
  | cons b part ih => exact ih

theorem pieces_encoded {s : Text} (h : s.hasSurrogate = false) :
    pieces (s.flatMap encodeCodePoint) = s.map Piece.char := by
  induction s with
  | nil => rfl
  | cons c s ih =>
    have hparts : c.isSurrogate = false ∧ Text.hasSurrogate s = false := by
      simpa [Text.hasSurrogate] using h
    obtain ⟨a, part, hencode, hhead⟩ := spell_encodeCodePoint hparts.1
    rw [List.flatMap_cons, hencode, pieces, List.cons_append, piecesFrom, hhead,
      piecesFrom_length, ih hparts.2, List.map_cons]

theorem decodeReplacing_encoded {s : Text} (h : s.hasSurrogate = false) :
    decodeReplacing (s.flatMap encodeCodePoint) = s := by
  have hchars : Piece.replaced ∘ Piece.char = id := rfl
  rw [decodeReplacing, pieces_encoded h, List.map_map, hchars, List.map_id]

theorem decode?_encoded {s : Text} (h : s.hasSurrogate = false) :
    decode? (s.flatMap encodeCodePoint) = some s := by
  have hchars : Piece.text? ∘ Piece.char = fun c => pure (id c) := rfl
  rw [decode?, pieces_encoded h, List.mapM_map, hchars, List.mapM_pure, List.map_id]
  rfl

theorem decode?_encode? {s : Text} {bytes : Bytes} (h : encode? s = some bytes) :
    decode? bytes = some s := by
  unfold encode? at h
  split at h
  · cases h
  · rename_i hplain
    rw [← Option.some.inj h, decode?_encoded (Bool.eq_false_iff.mpr hplain)]

end NodeClient.Utf8
