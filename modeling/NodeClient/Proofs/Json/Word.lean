import Mathlib.Data.List.Find
import NodeClient.Json.Reader

/-! Numbers and the words for other values. Each is a run of letters, digits and signs, and is read
without looking past the end of the run. -/

namespace NodeClient.Json

/-- What the words and the numbers of JSON text are made of. -/
def isWordMark (c : CodePoint) : Bool :=
  c.isDigit || c.isLetter || c == CodePoint.ofChar '-' || c == CodePoint.ofChar '+' ||
    c == CodePoint.ofChar '.'

/-- No word goes on here. -/
def EndsWord (s : Text) : Prop := ∀ c ∈ s.head?, isWordMark c = false

theorem endsWord_nil : EndsWord [] := by simp [EndsWord]

theorem endsWord_cons {c : CodePoint} {s : Text} : EndsWord (c :: s) ↔ isWordMark c = false := by
  simp [EndsWord]

theorem isWordMark_of_isDigit {c : CodePoint} (h : c.isDigit = true) : isWordMark c = true := by
  simp [isWordMark, h]

theorem EndsWord.isDigit {s : Text} (h : EndsWord s) : ∀ c ∈ s.head?, c.isDigit = false := by
  intro c hc
  have hmark := h c hc
  rw [isWordMark] at hmark
  simp only [Bool.or_eq_false_iff] at hmark
  exact hmark.1.1.1.1

/-! A run is cut off where it ends -/

section Append

variable {r : Text}

theorem takeWhile_append_of_head {p : CodePoint → Bool} (h : ∀ c ∈ r.head?, p c = false)
    (w : Text) : (w ++ r).takeWhile p = w.takeWhile p := by
  induction w with
  | nil =>
    cases r with
    | nil => rfl
    | cons c r =>
      have hc : p c = false := h c rfl
      simp [hc]
  | cons c w ih =>
    rw [List.cons_append, List.takeWhile_cons, List.takeWhile_cons, ih]

theorem dropWhile_append_of_head {p : CodePoint → Bool} (h : ∀ c ∈ r.head?, p c = false)
    (w : Text) : (w ++ r).dropWhile p = w.dropWhile p ++ r := by
  induction w with
  | nil =>
    cases r with
    | nil => rfl
    | cons c r =>
      have hc : p c = false := h c rfl
      simp [hc]
  | cons c w ih =>
    rw [List.cons_append, List.dropWhile_cons, List.dropWhile_cons, ih]
    split <;> rfl

variable (hr : EndsWord r)
include hr

theorem wholePart?_append (w : Text) :
    wholePart? (w ++ r) = (wholePart? w).map fun found => (found.1, found.2 ++ r) := by
  cases w with
  | nil =>
    cases r with
    | nil => rfl
    | cons c r =>
      have hmark : isWordMark c = false := endsWord_cons.mp hr
      have hdigit : c.isDigit = false := hr.isDigit c rfl
      have hzero : c ≠ CodePoint.ofChar '0' := by
        rintro rfl
        exact absurd hdigit (by decide)
      simp [wholePart?, hdigit, hzero]
  | cons c w =>
    have htake := takeWhile_append_of_head hr.isDigit (c :: w)
    have hdrop := dropWhile_append_of_head hr.isDigit (c :: w)
    rw [List.cons_append] at htake hdrop ⊢
    simp only [wholePart?, htake, hdrop]
    split
    · rfl
    · split <;> rfl

theorem fractionPart?_append (w : Text) :
    fractionPart? (w ++ r) = (fractionPart? w).map fun found => (found.1, found.2 ++ r) := by
  cases w with
  | nil =>
    cases r with
    | nil => rfl
    | cons c r =>
      have hdot : c ≠ CodePoint.ofChar '.' := by
        rintro rfl
        exact absurd (endsWord_cons.mp hr) (by decide)
      simp [fractionPart?, hdot]
  | cons c w =>
    have htake := takeWhile_append_of_head hr.isDigit w
    have hdrop := dropWhile_append_of_head hr.isDigit w
    rw [List.cons_append]
    simp only [fractionPart?, htake, hdrop]
    split <;> rfl

theorem sign_append {w : Text} :
    Numeral.sign (w ++ r) = ((Numeral.sign w).1, (Numeral.sign w).2 ++ r) := by
  cases w with
  | nil =>
    cases r with
    | nil => rfl
    | cons c r =>
      have hminus : c ≠ CodePoint.ofChar '-' := by
        rintro rfl
        exact absurd (endsWord_cons.mp hr) (by decide)
      have hplus : c ≠ CodePoint.ofChar '+' := by
        rintro rfl
        exact absurd (endsWord_cons.mp hr) (by decide)
      simp [Numeral.sign, hminus, hplus]
  | cons c w =>
    simp only [List.cons_append, Numeral.sign]
    split
    · rfl
    · split <;> rfl

theorem exponentPart?_append (w : Text) :
    exponentPart? (w ++ r) = (exponentPart? w).map fun found => (found.1, found.2 ++ r) := by
  cases w with
  | nil =>
    cases r with
    | nil => rfl
    | cons c r =>
      have hsmall : c ≠ CodePoint.ofChar 'e' := by
        rintro rfl
        exact absurd (endsWord_cons.mp hr) (by decide)
      have hlarge : c ≠ CodePoint.ofChar 'E' := by
        rintro rfl
        exact absurd (endsWord_cons.mp hr) (by decide)
      simp [exponentPart?, hsmall, hlarge]
  | cons c w =>
    have htake := takeWhile_append_of_head hr.isDigit (Numeral.sign w).2
    have hdrop := dropWhile_append_of_head hr.isDigit (Numeral.sign w).2
    rw [List.cons_append]
    simp only [exponentPart?, sign_append hr, htake, hdrop]
    split
    · split <;> rfl
    · rfl

end Append

/-! The number at the start of a text, in two parts: its sign and whole part, and what may follow -/

def leadingMinus : Text → Bool × Text
  | [] => (false, [])
  | c :: s => if c = CodePoint.ofChar '-' then (true, s) else (false, c :: s)

def numberFrom (negative : Bool) (whole rest : Text) : Except Fault (Value × Text) :=
  let fraction := (fractionPart? rest).getD ([], rest)
  let exponent := (exponentPart? fraction.2).getD (0, fraction.2)
  if (fractionPart? rest).isNone && (exponentPart? fraction.2).isNone then
    match Numeral.natural? whole with
    | none => .error .longInteger
    | some n => .ok (.int (if negative then -n else n), exponent.2)
  else
    let digits := Numeral.value (whole ++ fraction.1)
    .ok (.float (Binary64.ofDecimal negative digits (exponent.1 - fraction.1.length)), exponent.2)

theorem number?_eq (s : Text) :
    number? s = (wholePart? (leadingMinus s).2).map fun found =>
      numberFrom (leadingMinus s).1 found.1 found.2 := by
  have hfrom (negative : Bool) (body : Text) :
      (wholePart? body).bind (fun found =>
        let fraction := (fractionPart? found.2).getD ([], found.2)
        let exponent := (exponentPart? fraction.2).getD (0, fraction.2)
        if (fractionPart? found.2).isNone && (exponentPart? fraction.2).isNone then
          match Numeral.natural? found.1 with
          | none => some (.error .longInteger)
          | some n => some (.ok (.int (if negative then -n else n), exponent.2))
        else some (.ok (.float (Binary64.ofDecimal negative
          (Numeral.value (found.1 ++ fraction.1)) (exponent.1 - fraction.1.length)),
            exponent.2))) =
      (wholePart? body).map fun found => numberFrom negative found.1 found.2 := by
    cases wholePart? body with
    | none => rfl
    | some found =>
      simp only [Option.bind_some, Option.map_some, numberFrom]
      split
      · split <;> rfl
      · rfl
  cases s with
  | nil => rfl
  | cons c s =>
    by_cases hc : c = CodePoint.ofChar '-'
    · simp only [number?, leadingMinus, hc, if_true, ← hfrom]
      rfl
    · simp only [number?, leadingMinus, hc, if_false, ← hfrom]
      rfl

theorem numberFrom_append {r : Text} (hr : EndsWord r) (negative : Bool) (whole rest : Text) :
    numberFrom negative whole (rest ++ r) =
      (numberFrom negative whole rest).map fun found => (found.1, found.2 ++ r) := by
  have hfraction : (fractionPart? (rest ++ r)).getD ([], rest ++ r) =
      (((fractionPart? rest).getD ([], rest)).1, ((fractionPart? rest).getD ([], rest)).2 ++ r) := by
    rw [fractionPart?_append hr]
    cases fractionPart? rest <;> rfl
  have hexponent (left : Text) : (exponentPart? (left ++ r)).getD (0, left ++ r) =
      (((exponentPart? left).getD (0, left)).1, ((exponentPart? left).getD (0, left)).2 ++ r) := by
    rw [exponentPart?_append hr]
    cases exponentPart? left <;> rfl
  have hfractionNone : (fractionPart? (rest ++ r)).isNone = (fractionPart? rest).isNone := by
    rw [fractionPart?_append hr, Option.isNone_map]
  have hexponentNone (left : Text) :
      (exponentPart? (left ++ r)).isNone = (exponentPart? left).isNone := by
    rw [exponentPart?_append hr, Option.isNone_map]
  simp only [numberFrom, hfraction, hexponent, hfractionNone, hexponentNone]
  split
  · split <;> rfl
  · rfl

theorem leadingMinus_append {r : Text} (hr : EndsWord r) (w : Text) :
    leadingMinus (w ++ r) = ((leadingMinus w).1, (leadingMinus w).2 ++ r) := by
  cases w with
  | nil =>
    cases r with
    | nil => rfl
    | cons c r =>
      have hminus : c ≠ CodePoint.ofChar '-' := by
        rintro rfl
        exact absurd (endsWord_cons.mp hr) (by decide)
      simp [leadingMinus, hminus]
  | cons c w =>
    simp only [List.cons_append, leadingMinus]
    split <;> rfl

theorem number?_append {r : Text} (hr : EndsWord r) (w : Text) :
    number? (w ++ r) =
      (number? w).map fun found => found.map fun found => (found.1, found.2 ++ r) := by
  rw [number?_eq, number?_eq, leadingMinus_append hr]
  simp only [wholePart?_append hr, Option.map_map]
  congr 1
  funext found
  exact numberFrom_append hr _ _ _

/-! A number takes in word marks only -/

def TakesWord (s rest : Text) : Prop := ∃ w, s = w ++ rest ∧ ∀ c ∈ w, isWordMark c = true

theorem TakesWord.refl (s : Text) : TakesWord s s := ⟨[], rfl, by simp⟩

theorem TakesWord.trans {s s' s'' : Text} (h : TakesWord s s') (h' : TakesWord s' s'') :
    TakesWord s s'' := by
  obtain ⟨w, rfl, hw⟩ := h
  obtain ⟨w', rfl, hw'⟩ := h'
  refine ⟨w ++ w', by rw [List.append_assoc], ?_⟩
  intro c hc
  rcases List.mem_append.mp hc with hc | hc
  · exact hw c hc
  · exact hw' c hc

theorem TakesWord.cons {c : CodePoint} {s rest : Text} (hc : isWordMark c = true)
    (h : TakesWord s rest) : TakesWord (c :: s) rest := by
  have hfirst : TakesWord (c :: s) s := ⟨[c], rfl, List.forall_mem_singleton.mpr hc⟩
  exact hfirst.trans h

theorem takesWord_digits (s : Text) : TakesWord s (s.dropWhile CodePoint.isDigit) := by
  refine ⟨s.takeWhile CodePoint.isDigit, List.takeWhile_append_dropWhile.symm, ?_⟩
  intro c hc
  exact isWordMark_of_isDigit (List.all_eq_true.mp List.all_takeWhile c hc)

theorem takesWord_leadingMinus (s : Text) : TakesWord s (leadingMinus s).2 := by
  cases s with
  | nil => exact .refl _
  | cons c s =>
    rw [leadingMinus]
    split
    · rename_i hc
      exact .cons (by rw [hc]; decide) (.refl s)
    · exact .refl _

theorem takesWord_wholePart? {s whole rest : Text} (h : wholePart? s = some (whole, rest)) :
    TakesWord s rest := by
  unfold wholePart? at h
  split at h
  · cases h
  · rename_i c s
    split at h
    · rename_i hc
      cases h
      exact .cons (by rw [hc]; decide) (.refl _)
    · split at h
      · cases h
        exact takesWord_digits (c :: s)
      · cases h

theorem takesWord_fractionPart? (s : Text) :
    TakesWord s ((fractionPart? s).getD ([], s)).2 := by
  unfold fractionPart?
  split
  · exact .refl _
  · rename_i c s
    split
    · rename_i hc
      simp only [Bool.and_eq_true, decide_eq_true_eq] at hc
      exact .cons (by rw [hc.1]; decide) (takesWord_digits s)
    · exact .refl _

theorem takesWord_sign (s : Text) : TakesWord s (Numeral.sign s).2 := by
  unfold Numeral.sign
  split
  · exact .refl _
  · rename_i c s
    split
    · rename_i hc
      exact .cons (by rw [hc]; decide) (.refl _)
    · split
      · rename_i hc
        exact .cons (by rw [hc]; decide) (.refl _)
      · exact .refl _

theorem takesWord_exponentPart? (s : Text) :
    TakesWord s ((exponentPart? s).getD (0, s)).2 := by
  unfold exponentPart?
  split
  · exact .refl _
  · rename_i c s
    split
    · rename_i hc
      simp only [Bool.or_eq_true, decide_eq_true_eq] at hc
      have hmark : isWordMark c = true := by
        rcases hc with hc | hc <;> rw [hc] <;> decide
      dsimp only
      split
      · exact .refl _
      · exact .cons hmark ((takesWord_sign s).trans (takesWord_digits _))
    · exact .refl _

theorem takesWord_numberFrom {negative : Bool} {whole rest left : Text} {v : Value}
    (h : numberFrom negative whole rest = .ok (v, left)) : TakesWord rest left := by
  have hparts := (takesWord_fractionPart? rest).trans (takesWord_exponentPart? _)
  unfold numberFrom at h
  dsimp only at h
  split at h
  · split at h
    · cases h
    · cases h
      exact hparts
  · cases h
    exact hparts

theorem takesWord_number? {s rest : Text} {v : Value} (h : number? s = some (.ok (v, rest))) :
    TakesWord s rest := by
  rw [number?_eq] at h
  obtain ⟨⟨whole, after⟩, hwhole, hfrom⟩ := Option.map_eq_some_iff.mp h
  exact ((takesWord_leadingMinus s).trans (takesWord_wholePart? hwhole)).trans
    (takesWord_numberFrom hfrom)

/-! Words -/

theorem isWordMark_of_mem_words : ∀ entry ∈ words, ∀ c ∈ entry.1, isWordMark c = true := by decide

theorem prefix_append_iff {word w r : Text} (hr : EndsWord r)
    (hword : ∀ c ∈ word, isWordMark c = true) : word <+: w ++ r ↔ word <+: w := by
  induction w generalizing word with
  | nil =>
    cases word with
    | nil => simp
    | cons c word =>
      apply iff_of_false
      · rintro ⟨after, hafter⟩
        have hmark := hword c List.mem_cons_self
        have hends : isWordMark c = false := by
          apply hr
          have hsame : r = c :: (word ++ after) := hafter.symm
          rw [hsame]
          rfl
        rw [hends] at hmark
        cases hmark
      · simp
  | cons d w ih =>
    cases word with
    | nil => simp
    | cons c word =>
      have hrest : ∀ c ∈ word, isWordMark c = true :=
        fun c hc => hword c (List.mem_cons_of_mem _ hc)
      rw [List.cons_append, List.cons_prefix_cons, List.cons_prefix_cons, ih hrest]

theorem word?_eq (s : Text) :
    word? s = (words.find? fun entry => s.startsWith entry.1).map fun entry =>
      (entry.2, s.drop entry.1.length) := rfl

theorem word?_append {r : Text} (hr : EndsWord r) (w : Text) :
    word? (w ++ r) = (word? w).map fun found => (found.1, found.2 ++ r) := by
  have hstarts : ∀ entry ∈ words, (w ++ r).startsWith entry.1 = w.startsWith entry.1 := by
    intro entry hentry
    have hmarks := isWordMark_of_mem_words entry hentry
    rw [Text.startsWith, Text.startsWith, Bool.eq_iff_iff, List.isPrefixOf_iff_prefix,
      List.isPrefixOf_iff_prefix, prefix_append_iff hr hmarks]
  rw [word?_eq, word?_eq, List.find?_congr hstarts]
  cases hfound : words.find? fun entry => w.startsWith entry.1 with
  | none => rfl
  | some entry =>
    have hstart : w.startsWith entry.1 = true :=
      List.find?_some (p := fun entry : Text × Value => w.startsWith entry.1) hfound
    have hlength := (List.isPrefixOf_iff_prefix.mp hstart).length_le
    simp only [Option.map_some, List.drop_append_of_le_length hlength]

theorem word?_cases {s rest : Text} {v : Value} (h : word? s = some (v, rest)) :
    ∃ w, (w, v) ∈ words ∧ s = w ++ rest := by
  rw [word?_eq] at h
  obtain ⟨⟨word, w⟩, hfound, hentry⟩ := Option.map_eq_some_iff.mp h
  have hstart : s.startsWith word = true :=
    List.find?_some (p := fun entry : Text × Value => s.startsWith entry.1) hfound
  have hsplit := List.prefix_iff_eq_append.mp (List.isPrefixOf_iff_prefix.mp hstart)
  obtain ⟨rfl, rfl⟩ := Prod.mk.inj hentry
  exact ⟨word, List.mem_of_find?_eq_some hfound, hsplit.symm⟩

theorem word?_of_mem_words : ∀ entry ∈ words, word? entry.1 = some (entry.2, []) := by decide

theorem number?_cases {s rest : Text} {v : Value} (h : number? s = some (.ok (v, rest))) :
    (∃ n, v = .int n) ∨ ∃ x, v = .float x := by
  rw [number?_eq] at h
  obtain ⟨⟨whole, after⟩, -, hfrom⟩ := Option.map_eq_some_iff.mp h
  unfold numberFrom at hfrom
  dsimp only at hfrom
  split at hfrom
  · split at hfrom
    · cases hfrom
    · obtain ⟨rfl, -⟩ := Prod.mk.inj (Except.ok.inj hfrom)
      exact .inl ⟨_, rfl⟩
  · obtain ⟨rfl, -⟩ := Prod.mk.inj (Except.ok.inj hfrom)
    exact .inr ⟨_, rfl⟩

/-! The whole of a run -/

/-- The value of a word or of a number, all of which is read. -/
def Scalar (w : Text) (v : Value) : Prop :=
  word? w = some (v, []) ∨ (word? w = none ∧ number? w = some (.ok (v, [])))

theorem scalar_of_word? {s rest : Text} {v : Value} (h : word? s = some (v, rest)) :
    ∃ w, s = w ++ rest ∧ Scalar w v := by
  obtain ⟨w, hw, hs⟩ := word?_cases h
  exact ⟨w, hs, .inl (word?_of_mem_words (w, v) hw)⟩

theorem scalar_of_number? {s rest : Text} {v : Value} (hword : word? s = none)
    (h : number? s = some (.ok (v, rest))) (hrest : EndsWord rest) :
    ∃ w, s = w ++ rest ∧ Scalar w v := by
  obtain ⟨w, rfl, -⟩ := takesWord_number? h
  rw [word?_append hrest, Option.map_eq_none_iff] at hword
  rw [number?_append hrest] at h
  obtain ⟨found, hfound, hleft⟩ := Option.map_eq_some_iff.mp h
  cases found with
  | error fault => cases hleft
  | ok found =>
    obtain ⟨v', left⟩ := found
    have hsame : (v', left ++ rest) = (v, rest) := Except.ok.inj hleft
    obtain ⟨rfl, hnothing⟩ := Prod.mk.inj hsame
    obtain rfl : left = [] := List.append_left_eq_self.mp hnothing
    exact ⟨w, rfl, .inr ⟨hword, hfound⟩⟩

namespace Scalar

variable {w : Text} {v : Value}

/-- A word or a number is no string and no collection. -/
theorem value_cases (h : Scalar w v) :
    v = .null ∨ (∃ b, v = .bool b) ∨ (∃ n, v = .int n) ∨ ∃ x, v = .float x := by
  rcases h with hword | ⟨-, hnumber⟩
  · obtain ⟨word, hmem, -⟩ := word?_cases hword
    simp only [words, List.mem_cons, Prod.mk.injEq, List.not_mem_nil, or_false] at hmem
    rcases hmem with ⟨-, rfl⟩ | ⟨-, rfl⟩ | ⟨-, rfl⟩ | ⟨-, rfl⟩ | ⟨-, rfl⟩ | ⟨-, rfl⟩ <;> simp
  · exact .inr (.inr (number?_cases hnumber))

theorem marks (h : Scalar w v) : ∀ c ∈ w, isWordMark c = true := by
  rcases h with hword | ⟨-, hnumber⟩
  · obtain ⟨word, hmem, rfl⟩ := word?_cases hword
    rw [List.append_nil]
    exact isWordMark_of_mem_words _ hmem
  · obtain ⟨word, hw, hmarks⟩ := takesWord_number? hnumber
    rw [List.append_nil] at hw
    rw [hw]
    exact hmarks

theorem exists_cons (h : Scalar w v) : ∃ c tail, w = c :: tail := by
  cases w with
  | nil => rcases h with h | ⟨-, h⟩ <;> cases h
  | cons c tail => exact ⟨c, tail, rfl⟩

/-- A run that ends is read as it is. -/
theorem append (h : Scalar w v) {rest : Text} (hrest : EndsWord rest) :
    word? (w ++ rest) = some (v, rest) ∨
      (word? (w ++ rest) = none ∧ number? (w ++ rest) = some (.ok (v, rest))) := by
  rw [word?_append hrest, number?_append hrest]
  rcases h with hword | ⟨hword, hnumber⟩
  · left
    rw [hword]
    rfl
  · right
    rw [hword, hnumber]
    exact ⟨rfl, rfl⟩

end Scalar

end NodeClient.Json
