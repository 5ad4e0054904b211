import NodeClient.Text.Utf8

/-! A byte that continues no character ends the piece before it, so decoding splits there. -/

namespace NodeClient.Utf8

theorem isContinuation_of_mayFollow {a b : UInt8} (h : mayFollow a b = true) :
    isContinuation b = true := by
  simp only [mayFollow, Bool.and_eq_true] at h
  exact h.1

/-- The head piece looks no further than the first byte that continues nothing. -/
theorem headPiece_append (a : UInt8) (rest tail : Bytes) {stop : UInt8}
    (hstop : isContinuation stop = false) :
    headPiece a (rest ++ stop :: tail) = headPiece a rest := by
  have hfollow : mayFollow a stop = false := by
    simp only [mayFollow, hstop, Bool.false_and]
  unfold headPiece
  split
  · rfl
  · split
    · rcases rest with _ | ⟨b, rest⟩ <;> simp [hstop]
    · split
      · rcases rest with _ | ⟨b, _ | ⟨c, rest⟩⟩
        · cases tail <;> simp [hfollow]
        · simp only [List.cons_append, List.nil_append, hstop]
          cases mayFollow a b <;> simp
        · simp
      · split
        · rcases rest with _ | ⟨b, _ | ⟨c, _ | ⟨d, rest⟩⟩⟩
          · rcases tail with _ | ⟨c, _ | ⟨d, tail⟩⟩ <;> simp [hfollow]
          · cases tail <;> cases hb : mayFollow a b <;> simp [hb, hstop]
          · cases hb : mayFollow a b <;> cases hc : isContinuation c <;> simp [hb, hc, hstop]
          · simp
        · rfl

theorem headPiece_skip_le (a : UInt8) (rest : Bytes) : (headPiece a rest).2 ≤ rest.length := by
  unfold headPiece
  repeat' split
  all_goals simp

theorem piecesFrom_append (xs tail : Bytes) {stop : UInt8} (hstop : isContinuation stop = false)
    {skip : Nat} (hskip : skip ≤ xs.length) :
    piecesFrom skip (xs ++ stop :: tail) = piecesFrom skip xs ++ pieces (stop :: tail) := by
  induction xs generalizing skip with
  | nil =>
    obtain rfl : skip = 0 := Nat.le_zero.mp hskip
    rfl
  | cons a xs ih =>
    cases skip with
    | zero =>
      simp only [List.cons_append, piecesFrom, headPiece_append a xs tail hstop,
        ih (headPiece_skip_le a xs)]
    | succ skip =>
      simp only [List.cons_append, piecesFrom]
      exact ih (Nat.le_of_succ_le_succ hskip)

theorem decodeReplacing_append (xs tail : Bytes) {stop : UInt8}
    (hstop : isContinuation stop = false) :
    decodeReplacing (xs ++ stop :: tail) =
      decodeReplacing xs ++ decodeReplacing (stop :: tail) := by
  simp only [decodeReplacing, pieces, piecesFrom_append xs tail hstop (Nat.zero_le _),
    List.map_append]

/-- Text without surrogates has the same bytes whether or not bytes may be smuggled in it. -/
theorem encodeSmuggling?_of_no_surrogate {s : Text} (h : s.hasSurrogate = false) :
    encodeSmuggling? s = some (s.flatMap encodeCodePoint) := by
  have hone : s.mapM encodeOneSmuggling? = some (s.map encodeCodePoint) := by
    induction s with
    | nil => rfl
    | cons c s ih =>
      simp only [Text.hasSurrogate, List.any_cons, Bool.or_eq_false_iff] at h
      rw [List.mapM_cons, ih h.2]
      simp [encodeOneSmuggling?, h.1]
  simp only [encodeSmuggling?, hone, Option.map_some, List.flatMap_def]

/-- What a piece stands for: the encoding of a character that is no surrogate, or bytes that no
character starts and ends with. -/
def Piece.Holds (part : Bytes) : Piece → Prop
  | .char c => c.isSurrogate = false ∧ encodeCodePoint c = part
  | .invalid bytes => bytes = part ∧ ∀ b ∈ part, 0x80 ≤ b.toNat

theorem assemble_holds {n : Nat} {part : Bytes} (hn : n < 0xD800 ∨ 0xE000 ≤ n)
    (hencode : ∀ h : n < 0x110000, encodeCodePoint ⟨n, h⟩ = part)
    (hpart : ∀ b ∈ part, 0x80 ≤ b.toNat) : (assemble n part).Holds part := by
  unfold assemble CodePoint.ofNat?
  split
  · rename_i c hc
    split at hc
    · obtain rfl := Option.some.inj hc
      refine ⟨?_, hencode _⟩
      simp only [CodePoint.isSurrogate, Bool.and_eq_false_iff, decide_eq_false_iff_not]
      omega
    · cases hc
  · exact ⟨rfl, hpart⟩

theorem le_of_isContinuation {b : UInt8} (h : isContinuation b = true) :
    0x80 ≤ b.toNat ∧ b.toNat < 0xC0 := by
  simpa only [isContinuation, Bool.and_eq_true, decide_eq_true_eq] using h

/-- What `mayFollow` keeps out: forms longer than they need be, surrogates, and numbers that are
too large. -/
theorem mayFollow_bounds {a b : UInt8} (h : mayFollow a b = true) :
    isContinuation b = true ∧ (a.toNat = 0xE0 → 0xA0 ≤ b.toNat) ∧
      (a.toNat = 0xED → b.toNat < 0xA0) ∧ (a.toNat = 0xF0 → 0x90 ≤ b.toNat) := by
  simp only [mayFollow, Bool.and_eq_true] at h
  refine ⟨h.1, fun ha => ?_, fun ha => ?_, fun ha => ?_⟩
  · simpa [ha] using h.2
  · simpa [ha] using h.2
  · simpa [ha] using h.2

/-- A lead byte and continuation bytes are all beyond the ASCII range. -/
theorem high_cons {a : UInt8} {part : Bytes} (ha : 0xC2 ≤ a.toNat)
    (hpart : ∀ b ∈ part, isContinuation b = true) : ∀ b ∈ a :: part, 0x80 ≤ b.toNat := by
  intro b hb
  rcases List.mem_cons.mp hb with rfl | hb
  · omega
  · exact (le_of_isContinuation (hpart b hb)).1

theorem ofNat_eq {n : Nat} {b : UInt8} (h : n = b.toNat) : UInt8.ofNat n = b := by
  rw [h, UInt8.ofNat_toNat]

theorem one_holds {a : UInt8} (ha : a.toNat < 0x80) :
    (Piece.char (CodePoint.ofByte a)).Holds [a] := by
  refine ⟨Bool.and_eq_false_iff.mpr (.inl (decide_eq_false ?_)), ?_⟩
  · show ¬ 0xD800 ≤ a.toNat
    omega
  · show (if a.toNat < 0x80 then _ else _) = _
    rw [if_pos ha]
    exact congrArg (fun b => [b]) UInt8.ofNat_toNat

theorem two_holds {a b : UInt8} (ha : 0xC2 ≤ a.toNat ∧ a.toNat < 0xE0)
    (hb : isContinuation b = true) :
    (assemble (a.toNat % 32 * 64 + payload b) [a, b]).Holds [a, b] := by
  have hpart : ∀ x ∈ [b], isContinuation x = true := by simpa using hb
  have hbounds := le_of_isContinuation hb
  unfold payload
  refine assemble_holds (.inl (by omega)) (fun h => ?_) (high_cons ha.1 hpart)
  simp only [encodeCodePoint]
  rw [if_neg (by omega), if_pos (by omega), ofNat_eq (b := a) (by omega),
    ofNat_eq (b := b) (by omega)]

/-- Three bytes never assemble a surrogate: the second byte after the lead 0xED is too small. -/
theorem three_holds {a b c : UInt8} (ha : 0xE0 ≤ a.toNat ∧ a.toNat < 0xF0)
    (hb : mayFollow a b = true) (hc : isContinuation c = true) :
    (assemble ((a.toNat % 16 * 64 + payload b) * 64 + payload c) [a, b, c]).Holds [a, b, c] := by
  obtain ⟨hb, hshort, hsurrogate, -⟩ := mayFollow_bounds hb
  have hpart : ∀ x ∈ [b, c], isContinuation x = true := by simpa using ⟨hb, hc⟩
  have hbounds := le_of_isContinuation hb
  have hbounds' := le_of_isContinuation hc
  unfold payload
  refine assemble_holds (by omega) (fun h => ?_) (high_cons (by omega) hpart)
  simp only [encodeCodePoint]
  rw [if_neg (by omega), if_neg (by omega), if_pos (by omega), ofNat_eq (b := a) (by omega),
    ofNat_eq (b := b) (by omega), ofNat_eq (b := c) (by omega)]

/-- Four bytes assemble a number from 0x10000 on. -/
theorem four_holds {a b c d : UInt8} (ha : 0xF0 ≤ a.toNat ∧ a.toNat < 0xF5)
    (hb : mayFollow a b = true) (hc : isContinuation c = true) (hd : isContinuation d = true) :
    (assemble (((a.toNat % 8 * 64 + payload b) * 64 + payload c) * 64 + payload d)
      [a, b, c, d]).Holds [a, b, c, d] := by
  obtain ⟨hb, -, -, hshort⟩ := mayFollow_bounds hb
  have hpart : ∀ x ∈ [b, c, d], isContinuation x = true := by simpa using ⟨hb, hc, hd⟩
  have hbounds := le_of_isContinuation hb
  have hbounds' := le_of_isContinuation hc
  have hbounds'' := le_of_isContinuation hd
  unfold payload
  refine assemble_holds (.inr (by omega)) (fun h => ?_) (high_cons (by omega) hpart)
  simp only [encodeCodePoint]
  rw [if_neg (by omega), if_neg (by omega), if_neg (by omega), ofNat_eq (b := a) (by omega),
    ofNat_eq (b := b) (by omega), ofNat_eq (b := c) (by omega), ofNat_eq (b := d) (by omega)]

/-- The piece holds the first byte and those after it that were taken with it. -/
def Takes (a : UInt8) (rest : Bytes) (taken : Piece × Nat) : Prop :=
  taken.1.Holds (a :: rest.take taken.2)

theorem takes_invalid {a : UInt8} {rest part : Bytes} {k : Nat} (ha : 0xC2 ≤ a.toNat)
    (hpart : ∀ b ∈ part, isContinuation b = true) (h : part = rest.take k) :
    Takes a rest (.invalid (a :: part), k) :=
  ⟨congrArg (a :: ·) h, h ▸ high_cons ha hpart⟩

/-- One case for each length that the first byte announces, and for each cut of the bytes after
it. -/
theorem takes_headPiece (a : UInt8) (rest : Bytes) : Takes a rest (headPiece a rest) := by
  unfold headPiece
  split
  · rename_i ha
    exact one_holds ha
  rename_i hhigh
  have hlone : Takes a rest (.invalid [a], 0) :=
    ⟨rfl, by simpa using Nat.le_of_not_lt hhigh⟩
  split
  · rename_i ha
    simp only [Bool.and_eq_true, decide_eq_true_eq] at ha
    split
    · split
      · rename_i hb
        exact two_holds ha hb
      · exact hlone
    · exact hlone
  split
  · rename_i ha
    simp only [Bool.and_eq_true, decide_eq_true_eq] at ha
    have hlead : 0xC2 ≤ a.toNat := by omega
    split
    · rename_i b c _
      split
      · exact hlone
      rename_i hb
      have hb : mayFollow a b = true := by simpa using hb
      split
      · rename_i hc
        exact three_holds ha hb hc
      · exact takes_invalid hlead (by simpa using isContinuation_of_mayFollow hb) rfl
    · split
      · rename_i hb
        exact takes_invalid hlead (by simpa using isContinuation_of_mayFollow hb) rfl
      · exact hlone
    · exact hlone
  split
  · rename_i ha
    simp only [Bool.and_eq_true, decide_eq_true_eq] at ha
    have hlead : 0xC2 ≤ a.toNat := by omega
    split
    · rename_i b c d _
      split
      · exact hlone
      rename_i hb
      have hb : mayFollow a b = true := by simpa using hb
      have hb' := isContinuation_of_mayFollow hb
      split
      · exact takes_invalid hlead (by simpa using hb') rfl
      rename_i hc
      have hc : isContinuation c = true := by simpa using hc
      split
      · rename_i hd
        exact four_holds ha hb hc hd
      · exact takes_invalid hlead (by simpa using ⟨hb', hc⟩) rfl
    · rename_i b c
      split
      · exact hlone
      rename_i hb
      have hb : isContinuation b = true := isContinuation_of_mayFollow (by simpa using hb)
      split
      · rename_i hc
        exact takes_invalid hlead (by simpa using ⟨hb, hc⟩) rfl
      · exact takes_invalid hlead (by simpa using hb) rfl
    · split
      · rename_i hb
        exact takes_invalid hlead (by simpa using isContinuation_of_mayFollow hb) rfl
      · exact hlone
    · exact hlone
  · exact hlone

theorem holds_of_mem_piecesFrom {skip : Nat} {bytes : Bytes} {p : Piece}
    (h : p ∈ piecesFrom skip bytes) : ∃ part, p.Holds part := by
  induction bytes generalizing skip with
  | nil => cases h
  | cons a rest ih =>
    cases skip with
    | zero =>
      rw [piecesFrom] at h
      rcases List.mem_cons.mp h with rfl | h
      · exact ⟨_, takes_headPiece a rest⟩
      · exact ih h
    | succ skip => exact ih h

/-- No surrogate comes of bytes that are decoded with replacement marks. -/
theorem hasSurrogate_decodeReplacing (bytes : Bytes) :
    (decodeReplacing bytes).hasSurrogate = false := by
  rw [Text.hasSurrogate, List.any_eq_false]
  intro c hc
  obtain ⟨piece, hpiece, rfl⟩ := List.mem_map.mp hc
  obtain ⟨part, hholds⟩ := holds_of_mem_piecesFrom hpiece
  cases piece with
  | char c => exact Bool.eq_false_iff.mp hholds.1
  | invalid bytes => exact Bool.eq_false_iff.mp (by rfl : CodePoint.replacement.isSurrogate = false)

theorem encodeSmuggling?_cons {c : CodePoint} {s : Text} {bytes : Bytes} :
    encodeSmuggling? (c :: s) = some bytes ↔ ∃ head tail, encodeOneSmuggling? c = some head ∧
      encodeSmuggling? s = some tail ∧ bytes = head ++ tail := by
  rw [encodeSmuggling?, encodeSmuggling?, List.mapM_cons]
  cases encodeOneSmuggling? c with
  | none => simp
  | some head =>
    cases s.mapM encodeOneSmuggling? with
    | none => simp
    | some parts => simp [eq_comm]

theorem encodeSmuggling?_append {s t : Text} {bytes : Bytes} :
    encodeSmuggling? (s ++ t) = some bytes ↔ ∃ front back, encodeSmuggling? s = some front ∧
      encodeSmuggling? t = some back ∧ bytes = front ++ back := by
  induction s generalizing bytes with
  | nil =>
    constructor
    · exact fun h => ⟨[], bytes, rfl, h, rfl⟩
    · rintro ⟨front, back, hfront, hback, rfl⟩
      obtain rfl := Option.some.inj hfront
      exact hback
  | cons c s ih =>
    rw [List.cons_append, encodeSmuggling?_cons]
    constructor
    · rintro ⟨head, tail, hc, hrest, rfl⟩
      obtain ⟨front, back, hs, ht, rfl⟩ := ih.mp hrest
      exact ⟨head ++ front, back, encodeSmuggling?_cons.mpr ⟨head, front, hc, hs, rfl⟩, ht,
        (List.append_assoc _ _ _).symm⟩
    · rintro ⟨front, back, hfront, ht, rfl⟩
      obtain ⟨head, tail, hc, hs, rfl⟩ := encodeSmuggling?_cons.mp hfront
      exact ⟨head, tail ++ back, hc, ih.mpr ⟨tail, back, hs, ht, rfl⟩, List.append_assoc _ _ _⟩

/-- The lone surrogate of a byte is turned back into it. -/
theorem encodeOneSmuggling?_smuggled {b : UInt8} (h : 0x80 ≤ b.toNat) :
    encodeOneSmuggling? (smuggled b) = some [b] := by
  have hlt := b.toNat_lt
  have hval : (smuggled b).val = 0xDC00 + b.toNat := rfl
  have hsurrogate : (smuggled b).isSurrogate = true := by
    simp only [CodePoint.isSurrogate, Bool.and_eq_true, decide_eq_true_eq]
    omega
  have hrange : (0xDC80 ≤ (smuggled b).val && (smuggled b).val < 0xDD00) = true := by
    simp only [Bool.and_eq_true, decide_eq_true_eq]
    omega
  have hbyte : UInt8.ofNat ((smuggled b).val - 0xDC00) = b := ofNat_eq (by omega)
  rw [encodeOneSmuggling?, if_pos hsurrogate, smuggledByte?, if_pos hrange, hbyte]
  rfl

theorem Piece.Holds.encodeSmuggling? {p : Piece} {part : Bytes} (h : p.Holds part) :
    encodeSmuggling? p.smuggling = some part := by
  cases p with
  | char c =>
    obtain ⟨hc, rfl⟩ := h
    refine encodeSmuggling?_cons.mpr ⟨encodeCodePoint c, [], ?_, rfl, (List.append_nil _).symm⟩
    rw [encodeOneSmuggling?, if_neg (Bool.eq_false_iff.mp hc)]
  | invalid bytes =>
    obtain ⟨rfl, hhigh⟩ := h
    rw [Piece.smuggling]
    induction bytes with
    | nil => rfl
    | cons b rest ih =>
      obtain ⟨hb, hrest⟩ := List.forall_mem_cons.mp hhigh
      exact encodeSmuggling?_cons.mpr
        ⟨[b], rest, encodeOneSmuggling?_smuggled hb, ih hrest, rfl⟩

theorem encodeSmuggling?_piecesFrom (skip : Nat) (bytes : Bytes) :
    encodeSmuggling? ((piecesFrom skip bytes).flatMap Piece.smuggling) =
      some (bytes.drop skip) := by
  induction bytes generalizing skip with
  | nil => rw [List.drop_nil]; cases skip <;> rfl
  | cons a rest ih =>
    cases skip with
    | zero =>
      have hhead := (takes_headPiece a rest).encodeSmuggling?
      refine encodeSmuggling?_append.mpr ⟨_, _, hhead, ih (headPiece a rest).2, ?_⟩
      rw [List.cons_append, List.take_append_drop]
      rfl
    | succ skip => exact ih skip

/-- Bytes of any kind come back from the text that they were decoded to. -/
theorem encodeSmuggling?_decodeSmuggling (bytes : Bytes) :
    encodeSmuggling? (decodeSmuggling bytes) = some bytes :=
  encodeSmuggling?_piecesFrom 0 bytes

theorem le_toNat_ofNat {n : Nat} (hlow : 0x80 ≤ n) (hhigh : n < 0x100) :
    0x80 ≤ (UInt8.ofNat n).toNat := by
  rwa [UInt8.toNat_ofNat', Nat.mod_eq_of_lt hhigh]

theorem encodeOneSmuggling?_ascii {c : CodePoint} (h : c.val < 0x80) :
    encodeOneSmuggling? c = some [UInt8.ofNat c.val] := by
  have hplain : ¬ c.isSurrogate = true := by
    simp only [CodePoint.isSurrogate, Bool.and_eq_true, decide_eq_true_eq]
    omega
  rw [encodeOneSmuggling?, if_neg hplain, encodeCodePoint]
  exact congrArg some (if_pos h)

/-- Beyond the ASCII range no byte of an encoding is in it. -/
theorem high_of_encodeOneSmuggling? {c : CodePoint} {head : Bytes} (hc : 0x80 ≤ c.val)
    (h : encodeOneSmuggling? c = some head) : ∀ b ∈ head, 0x80 ≤ b.toNat := by
  have hlt := c.isLt
  unfold encodeOneSmuggling? smuggledByte? encodeCodePoint at h
  dsimp only at h
  split at h
  · split at h
    · rename_i hrange
      simp only [Bool.and_eq_true, decide_eq_true_eq] at hrange
      obtain rfl := Option.some.inj h
      simpa using le_toNat_ofNat (by omega) (by omega)
    · cases h
  · obtain rfl := Option.some.inj h
    rw [if_neg (Nat.not_lt.mpr hc)]
    split
    · simpa using ⟨le_toNat_ofNat (by omega) (by omega), le_toNat_ofNat (by omega) (by omega)⟩
    · split
      · simpa using ⟨le_toNat_ofNat (by omega) (by omega), le_toNat_ofNat (by omega) (by omega),
          le_toNat_ofNat (by omega) (by omega)⟩
      · simpa using ⟨le_toNat_ofNat (by omega) (by omega), le_toNat_ofNat (by omega) (by omega),
          le_toNat_ofNat (by omega) (by omega), le_toNat_ofNat (by omega) (by omega)⟩

/-- A byte of the ASCII range only comes of the code point of that number. -/
theorem eq_ofByte_of_mem {c : CodePoint} {head : Bytes} (h : encodeOneSmuggling? c = some head)
    {b : UInt8} (hb : b ∈ head) (hlow : b.toNat < 0x80) : c = CodePoint.ofByte b := by
  by_cases hc : c.val < 0x80
  · rw [encodeOneSmuggling?_ascii hc] at h
    obtain rfl := Option.some.inj h
    obtain rfl := List.mem_singleton.mp hb
    have hval : (UInt8.ofNat c.val).toNat = c.val := by
      rw [UInt8.toNat_ofNat', Nat.mod_eq_of_lt (by omega)]
    obtain ⟨val, hlt⟩ := c
    simp only [CodePoint.ofByte, hval]
  · have := high_of_encodeOneSmuggling? (Nat.le_of_not_lt hc) h b hb
    omega

theorem ne_nil_of_encodeOneSmuggling? {c : CodePoint} {head : Bytes}
    (h : encodeOneSmuggling? c = some head) : head ≠ [] := by
  rintro rfl
  unfold encodeOneSmuggling? encodeCodePoint at h
  dsimp only at h
  split at h
  · obtain ⟨b, -, hb⟩ := Option.map_eq_some_iff.mp h
    cases hb
  · repeat' split at h
    all_goals cases h

theorem mem_of_encodeSmuggling? {s : Text} {bytes : Bytes} (h : encodeSmuggling? s = some bytes)
    {b : UInt8} (hb : b ∈ bytes) (hlow : b.toNat < 0x80) : CodePoint.ofByte b ∈ s := by
  induction s generalizing bytes with
  | nil =>
    obtain rfl := Option.some.inj h
    cases hb
  | cons c s ih =>
    obtain ⟨head, tail, hc, hs, rfl⟩ := encodeSmuggling?_cons.mp h
    rcases List.mem_append.mp hb with hb | hb
    · rw [eq_ofByte_of_mem hc hb hlow]
      exact List.mem_cons_self
    · exact List.mem_cons_of_mem c (ih hs hb)

end NodeClient.Utf8
