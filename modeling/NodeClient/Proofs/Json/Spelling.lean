import NodeClient.Json.Reader

/-! The spellings of a string: what may stand between its quotes, and the text that it stands for.
The end of a string is found without looking at what follows its closing quote. -/

namespace NodeClient.Json

open CodePoint (quote backslash)

/-- The escape of a code unit, with these four digits. -/
def unitMark (d₁ d₂ d₃ d₄ : CodePoint) : Text := [backslash, CodePoint.ofChar 'u', d₁, d₂, d₃, d₄]

/-- The next escape is that of a second half of a surrogate pair. -/
def StartsLow (s : Text) : Prop :=
  ∃ d₁ d₂ d₃ d₄ low rest, s = unitMark d₁ d₂ d₃ d₄ ++ rest ∧ unit? d₁ d₂ d₃ d₄ = some low ∧
    isLowUnit low = true

inductive Spells : (body text : Text) → Prop where
  | nil : Spells [] []
  | plain {c : CodePoint} {body text : Text} (hquote : c ≠ quote) (hslash : c ≠ backslash)
      (hvisible : 0x20 ≤ c.val) (h : Spells body text) : Spells (c :: body) (c :: text)
  | short {e c : CodePoint} {body text : Text} (he : unescaped? e = some c)
      (h : Spells body text) : Spells (backslash :: e :: body) (c :: text)
  | unit {d₁ d₂ d₃ d₄ : CodePoint} {n : Nat} {body text : Text} (hn : unit? d₁ d₂ d₃ d₄ = some n)
      (halone : isHighUnit n = true → ¬ StartsLow body) (h : Spells body text) :
      Spells (unitMark d₁ d₂ d₃ d₄ ++ body) (unitChar n :: text)
  | pair {d₁ d₂ d₃ d₄ d₅ d₆ d₇ d₈ : CodePoint} {high low : Nat} {body text : Text}
      (hhigh : unit? d₁ d₂ d₃ d₄ = some high) (hlow : unit? d₅ d₆ d₇ d₈ = some low)
      (hfirst : isHighUnit high = true) (hsecond : isLowUnit low = true) (h : Spells body text) :
      Spells (unitMark d₁ d₂ d₃ d₄ ++ (unitMark d₅ d₆ d₇ d₈ ++ body)) (pairChar high low :: text)

theorem stringFrom_skip (opening skip : Nat) (s : Text) :
    stringFrom opening skip s = stringFrom opening 0 (s.drop skip) := by
  induction s generalizing skip with
  | nil => cases skip <;> rfl
  | cons c s ih =>
    cases skip with
    | zero => rfl
    | succ skip => exact ih skip

/-! The escapes of code units -/

section Unit

variable {d₁ d₂ d₃ d₄ e₁ e₂ e₃ e₄ : CodePoint} {n low : Nat}

theorem unitStep_pair (hn : unit? d₁ d₂ d₃ d₄ = some n) (hlow : unit? e₁ e₂ e₃ e₄ = some low)
    (hhigh : isHighUnit n = true) (hisLow : isLowUnit low = true) (x : CodePoint) (after : Text) :
    unitStep (d₁ :: d₂ :: d₃ :: d₄ :: (unitMark e₁ e₂ e₃ e₄ ++ x :: after)) =
      .char (pairChar n low) 11 := by
  simp [unitStep, unitMark, hn, hlow, hhigh, hisLow]

/-- A unit stands alone unless the next escape completes a pair; the next escape must not be
broken, since it is read ahead. -/
theorem unitStep_alone (hn : unit? d₁ d₂ d₃ d₄ = some n) {rest : Text} (hrest : rest ≠ [])
    (halone : isHighUnit n = true → ∀ e₁ e₂ e₃ e₄ after, rest = unitMark e₁ e₂ e₃ e₄ ++ after →
      ∃ m, unit? e₁ e₂ e₃ e₄ = some m ∧ isLowUnit m = false) :
    unitStep (d₁ :: d₂ :: d₃ :: d₄ :: rest) = .char (unitChar n) 5 := by
  simp only [unitStep, hn]
  split
  · exact absurd rfl hrest
  · rename_i b u e₁ e₂ e₃ e₄ x after
    split
    · rename_i hescape
      simp only [Bool.and_eq_true, decide_eq_true_eq] at hescape
      obtain ⟨⟨hhigh, rfl⟩, rfl⟩ := hescape
      obtain ⟨m, hm, hnotLow⟩ := halone hhigh e₁ e₂ e₃ e₄ (x :: after) (by rfl)
      simp only [hm, hnotLow, Bool.false_eq_true, if_false]
    · rfl
  · rfl

theorem unitStep_cases {s : Text} {c : CodePoint} {more : Nat} (h : unitStep s = .char c more) :
    ∃ d₁ d₂ d₃ d₄ n rest, s = d₁ :: d₂ :: d₃ :: d₄ :: rest ∧ unit? d₁ d₂ d₃ d₄ = some n ∧
      ((c = unitChar n ∧ more = 5) ∨ ∃ e₁ e₂ e₃ e₄ low after,
        rest = unitMark e₁ e₂ e₃ e₄ ++ after ∧ unit? e₁ e₂ e₃ e₄ = some low ∧
          isHighUnit n = true ∧ isLowUnit low = true ∧ c = pairChar n low ∧ more = 11) := by
  unfold unitStep at h
  split at h
  case h_2 => cases h
  rename_i d₁ d₂ d₃ d₄ rest
  split at h
  · cases h
  rename_i n hn
  refine ⟨d₁, d₂, d₃, d₄, n, rest, rfl, hn, ?_⟩
  split at h
  · cases h
  · rename_i b u e₁ e₂ e₃ e₄ x after
    split at h
    · rename_i hescape
      simp only [Bool.and_eq_true, decide_eq_true_eq] at hescape
      obtain ⟨⟨hhigh, rfl⟩, rfl⟩ := hescape
      split at h
      · cases h
      rename_i low hlow
      split at h
      · rename_i hisLow
        obtain ⟨hchar, hmore⟩ := StringStep.char.inj h
        exact .inr ⟨e₁, e₂, e₃, e₄, low, x :: after, rfl, hlow, hhigh, hisLow, hchar.symm,
          hmore.symm⟩
      · cases h
        exact .inl ⟨rfl, rfl⟩
    · cases h
      exact .inl ⟨rfl, rfl⟩
  · cases h
    exact .inl ⟨rfl, rfl⟩

end Unit

theorem unitStep_ne_close (s : Text) : unitStep s ≠ .close := by
  unfold unitStep
  repeat' split
  all_goals simp

/-- A code point of a string is plain, or begins an escape. -/
inductive StringChar (c : CodePoint) (s : Text) (c' : CodePoint) : (more : Nat) → Prop where
  | plain (hquote : c ≠ quote) (hslash : c ≠ backslash) (hvisible : 0x20 ≤ c.val) (h : c' = c) :
      StringChar c s c' 0
  | short {e : CodePoint} {rest : Text} (hslash : c = backslash) (hs : s = e :: rest)
      (he : unescaped? e = some c') : StringChar c s c' 1
  | unit {rest : Text} {more : Nat} (hslash : c = backslash)
      (hs : s = CodePoint.ofChar 'u' :: rest) (h : unitStep rest = .char c' more) :
      StringChar c s c' more

theorem stringStep_cases (opening : Nat) (c : CodePoint) (s : Text) :
    (c = quote ∧ stringStep opening c s = .close) ∨
      (∃ c' more, stringStep opening c s = .char c' more ∧ StringChar c s c' more) ∨
      ∃ fault, stringStep opening c s = .fault fault := by
  unfold stringStep
  split
  · exact .inl ⟨‹_›, rfl⟩
  rename_i hquote
  split
  · rename_i hslash
    split
    · exact .inr (.inr ⟨_, rfl⟩)
    rename_i e rest
    split
    · rename_i he
      subst he
      cases hunit : unitStep rest with
      | close => exact absurd hunit (unitStep_ne_close rest)
      | char c' more => exact .inr (.inl ⟨c', more, rfl, .unit hslash rfl hunit⟩)
      | fault fault => exact .inr (.inr ⟨fault, rfl⟩)
    · split
      · exact .inr (.inl ⟨_, 1, rfl, .short hslash rfl ‹_›⟩)
      · exact .inr (.inr ⟨_, rfl⟩)
  · rename_i hslash
    split
    · exact .inr (.inr ⟨_, rfl⟩)
    · rename_i hvisible
      exact .inr (.inl ⟨c, 0, rfl, .plain hquote hslash (Nat.not_lt.mp hvisible) rfl⟩)

theorem consChar_eq_ok {c : CodePoint} {read : Except Fault (Text × Text)} {text rest : Text} :
    consChar c read = .ok (text, rest) ↔ ∃ tail, read = .ok (tail, rest) ∧ text = c :: tail := by
  cases read with
  | error fault => simp [consChar]
  | ok found =>
    obtain ⟨tail, after⟩ := found
    simp only [consChar, Except.ok.injEq, Prod.mk.injEq]
    constructor
    · rintro ⟨rfl, rfl⟩
      exact ⟨tail, ⟨rfl, rfl⟩, rfl⟩
    · rintro ⟨_, ⟨rfl, rfl⟩, rfl⟩
      exact ⟨rfl, rfl⟩

theorem exists_cons_of_quote (body after : Text) :
    ∃ x tail, body ++ quote :: after = x :: tail := by
  cases body with
  | nil => exact ⟨quote, after, rfl⟩
  | cons x body => exact ⟨x, body ++ quote :: after, rfl⟩

/-- What a step takes in is part of a spelling when the rest of the string is. -/
theorem StringChar.spells {c c' : CodePoint} {s body text after : Text} {more : Nat}
    (hchar : StringChar c s c' more) (hrest : s.drop more = body ++ quote :: after)
    (h : Spells body text) :
    ∃ whole, c :: s = whole ++ quote :: after ∧ Spells whole (c' :: text) := by
  cases hchar with
  | plain hquote hslash hvisible hsame =>
    subst hsame
    have hs : s = body ++ quote :: after := hrest
    exact ⟨c' :: body, by rw [hs, List.cons_append], .plain hquote hslash hvisible h⟩
  | @short e rest hslash hs he =>
    subst hslash hs
    have hs : rest = body ++ quote :: after := hrest
    exact ⟨backslash :: e :: body, by rw [hs]; rfl, .short he h⟩
  | @unit rest _ hslash hs hstep =>
    subst hslash hs
    obtain ⟨d₁, d₂, d₃, d₄, n, left, rfl, hn, hkind⟩ := unitStep_cases hstep
    rcases hkind with ⟨hchar, hmore⟩ | ⟨e₁, e₂, e₃, e₄, low, left', rfl, hlow, hhigh, hisLow,
      hchar, hmore⟩
    · rw [hmore] at hrest hstep
      have hleft : left = body ++ quote :: after := hrest
      rw [hchar, hleft]
      refine ⟨unitMark d₁ d₂ d₃ d₄ ++ body, rfl, .unit hn ?_ h⟩
      -- before a second half the step would have taken in both
      rintro hhigh ⟨e₁, e₂, e₃, e₄, low, body', rfl, hlow, hisLow⟩
      obtain ⟨x, tail, hx⟩ := exists_cons_of_quote body' after
      rw [hleft, List.append_assoc, hx, unitStep_pair hn hlow hhigh hisLow] at hstep
      have hmore := (StringStep.char.inj hstep).2
      omega
    · rw [hmore] at hrest
      have hleft : left' = body ++ quote :: after := hrest
      rw [hchar, hleft]
      exact ⟨unitMark d₁ d₂ d₃ d₄ ++ (unitMark e₁ e₂ e₃ e₄ ++ body), rfl,
        .pair hn hlow hhigh hisLow h⟩

/-- A string that is read is spelled out before its closing quote. -/
theorem spells_of_stringFrom {opening : Nat} {s text rest : Text}
    (h : stringFrom opening 0 s = .ok (text, rest)) :
    ∃ body, s = body ++ quote :: rest ∧ Spells body text := by
  -- on the length, since a step may take in a whole escape
  induction hlength : s.length using Nat.strongRecOn generalizing s text with
  | ind n ih =>
    cases s with
    | nil => cases h
    | cons c s =>
      rcases stringStep_cases opening c s with ⟨rfl, hstep⟩ | ⟨c', more, hstep, hchar⟩ |
        ⟨fault, hstep⟩
      · rw [stringFrom, hstep] at h
        cases h
        exact ⟨[], rfl, .nil⟩
      · rw [stringFrom, hstep] at h
        obtain ⟨tail, htail, rfl⟩ := consChar_eq_ok.mp h
        rw [stringFrom_skip] at htail
        have hless : (s.drop more).length < n := by
          rw [List.length_cons] at hlength
          rw [List.length_drop]
          omega
        obtain ⟨body, hbody, hspells⟩ := ih _ hless htail rfl
        exact hchar.spells hbody hspells
      · rw [stringFrom, hstep] at h
        cases h

theorem ne_u_of_unescaped? {e c : CodePoint} (h : unescaped? e = some c) :
    e ≠ CodePoint.ofChar 'u' := by
  have hnone : unescaped? (CodePoint.ofChar 'u') = none := by decide
  rintro rfl
  rw [hnone] at h
  cases h

theorem Spells.unit?_of_prefix {body text after rest : Text} {e₁ e₂ e₃ e₄ : CodePoint}
    (h : Spells body text) (hstart : body ++ quote :: after = unitMark e₁ e₂ e₃ e₄ ++ rest) :
    ∃ n left, unit? e₁ e₂ e₃ e₄ = some n ∧ body = unitMark e₁ e₂ e₃ e₄ ++ left := by
  cases h with
  | nil =>
    have hquote : quote = backslash := (List.cons.inj hstart).1
    exact absurd hquote (by decide)
  | plain _ hslash => exact absurd (List.cons.inj hstart).1 hslash
  | @short e c body text he =>
    have hletter : e = CodePoint.ofChar 'u' := (List.cons.inj (List.cons.inj hstart).2).1
    exact absurd hletter (ne_u_of_unescaped? he)
  | @unit d₁ d₂ d₃ d₄ n body text hn =>
    simp only [unitMark, List.cons_append, List.cons.injEq, true_and] at hstart
    obtain ⟨rfl, rfl, rfl, rfl, -⟩ := hstart
    exact ⟨n, body, hn, rfl⟩
  | pair hhigh =>
    simp only [unitMark, List.cons_append, List.cons.injEq, true_and] at hstart
    obtain ⟨rfl, rfl, rfl, rfl, -⟩ := hstart
    exact ⟨_, _, hhigh, rfl⟩

theorem stringFrom_step {opening more : Nat} {c c' : CodePoint} {s text rest : Text}
    (hstep : stringStep opening c s = .char c' more)
    (h : stringFrom opening 0 (s.drop more) = .ok (text, rest)) :
    stringFrom opening 0 (c :: s) = .ok (c' :: text, rest) := by
  rw [stringFrom, hstep]
  dsimp only
  rw [stringFrom_skip]
  exact consChar_eq_ok.mpr ⟨text, h, rfl⟩

theorem stringStep_unit (opening : Nat) (s : Text) :
    stringStep opening backslash (CodePoint.ofChar 'u' :: s) = unitStep s := by
  have hquote : backslash ≠ quote := by decide
  simp [stringStep, hquote]

/-- A spelling is read up to the quote after it, whatever comes then. -/
theorem Spells.stringFrom {body text : Text} (h : Spells body text) (opening : Nat) (after : Text) :
    stringFrom opening 0 (body ++ quote :: after) = .ok (text, after) := by
  induction h with
  | nil => rfl
  | @plain c body text hquote hslash hvisible h ih =>
    have hstep : stringStep opening c (body ++ quote :: after) = .char c 0 := by
      simp [stringStep, hquote, hslash, Nat.not_lt.mpr hvisible]
    exact stringFrom_step hstep ih
  | @short e c body text he h ih =>
    have hstep : stringStep opening backslash (e :: (body ++ quote :: after)) = .char c 1 := by
      have hquote : backslash ≠ quote := by decide
      simp [stringStep, hquote, ne_u_of_unescaped? he, he]
    exact stringFrom_step hstep ih
  | @unit d₁ d₂ d₃ d₄ n body text hn halone h ih =>
    have hunit : unitStep (d₁ :: d₂ :: d₃ :: d₄ :: (body ++ quote :: after)) =
        .char (unitChar n) 5 := by
      refine unitStep_alone hn (by simp) ?_
      intro hhigh e₁ e₂ e₃ e₄ rest hrest
      obtain ⟨m, left, hm, hbody⟩ := h.unit?_of_prefix hrest
      refine ⟨m, hm, Bool.eq_false_iff.mpr ?_⟩
      intro hlow
      exact halone hhigh ⟨e₁, e₂, e₃, e₄, m, left, hbody, hm, hlow⟩
    exact stringFrom_step ((stringStep_unit opening _).trans hunit) ih
  | @pair d₁ d₂ d₃ d₄ e₁ e₂ e₃ e₄ high low body text hhigh hlow hfirst hsecond h ih =>
    obtain ⟨x, tail, hx⟩ := exists_cons_of_quote body after
    have hunit := unitStep_pair hhigh hlow hfirst hsecond x tail
    rw [← hx] at hunit
    exact stringFrom_step ((stringStep_unit opening _).trans hunit) ih

end NodeClient.Json
