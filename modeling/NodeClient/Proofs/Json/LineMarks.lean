import NodeClient.Proofs.Json.Grammar
import NodeClient.Text.Lines

/-! Line marks in JSON text. Between tokens they are space, and a text keeps its value when they are
deleted; inside a token they are what makes it malformed. -/

namespace NodeClient.Json

open CodePoint (quote backslash)

/-- A text without its line marks. -/
def joined (s : Text) : Text := s.filter fun c => !c.isLineMark

/-- Where the next code point stands: outside of every token, after the last mark of a word or a
number, after line marks that follow such a mark, in a string, or after a backslash in a string. -/
inductive Place where
  | between
  | word
  | broken
  | string
  | escape

namespace Place

def isOutside : Place → Bool
  | .between | .word | .broken => true
  | .string | .escape => false

def outside (c : CodePoint) : Place :=
  if c = quote then .string else if isWordMark c then .word else .between

/-- The place after one more code point; none when a line mark has split a token. -/
def step : Place → CodePoint → Option Place
  | .between, c => if c.isLineMark then some .between else some (outside c)
  | .word, c => if c.isLineMark then some .broken else some (outside c)
  | .broken, c =>
    if c.isLineMark then some .broken else if isWordMark c then none else some (outside c)
  | .string, c =>
    if c.isLineMark then none
    else if c = quote then some .between
    else if c = backslash then some .escape
    else some .string
  | .escape, c => if c.isLineMark then none else some .string

def scan (place : Place) (s : Text) : Option Place := s.foldlM step place

end Place

/-- No line mark stands in a string, and none between two marks of a word or a number. -/
def keepsTokens (s : Text) : Bool := (Place.between.scan s).isSome

/-! Line marks -/

theorem isSpace_of_isLineMark {c : CodePoint} (h : c.isLineMark = true) : isSpace c = true := by
  rw [CodePoint.isLineMark, Bool.or_eq_true, beq_iff_eq, beq_iff_eq] at h
  rcases h with rfl | rfl <;> rfl

theorem isLineMark_eq_false_of_not_space {c : CodePoint} (h : isSpace c = false) :
    c.isLineMark = false := by
  cases hmark : c.isLineMark with
  | false => rfl
  | true =>
    rw [isSpace_of_isLineMark hmark] at h
    cases h

theorem isSpace_eq_false_of_isWordMark {c : CodePoint} (h : isWordMark c = true) :
    isSpace c = false :=
  isSpace_eq_false_of_isEdge (isEdge_of_isWordMark h)

theorem joined_append (s t : Text) : joined (s ++ t) = joined s ++ joined t := List.filter_append ..

theorem joined_cons {c : CodePoint} (hc : c.isLineMark = false) (s : Text) :
    joined (c :: s) = c :: joined s := by simp [joined, hc]

theorem joined_eq_self {s : Text} (h : ∀ c ∈ s, c.isLineMark = false) : joined s = s := by
  rw [joined, List.filter_eq_self]
  intro c hc
  rw [h c hc]
  rfl

theorem isGap_joined_iff {s : Text} : IsGap (joined s) ↔ IsGap s := by
  constructor
  · intro h c hc
    cases hmark : c.isLineMark with
    | true => exact isSpace_of_isLineMark hmark
    | false => exact h c (List.mem_filter.mpr ⟨hc, by rw [hmark]; rfl⟩)
  · intro h c hc
    exact h c (List.mem_filter.mp hc).1

theorem Scalar.joined {w : Text} {v : Value} (h : Scalar w v) : joined w = w :=
  joined_eq_self fun c hc =>
    isLineMark_eq_false_of_not_space (isSpace_eq_false_of_isWordMark (h.marks c hc))

/-! What stands between the quotes of a string -/

/-- Code points of which a backslash always stands before another one. -/
inductive Inside : Text → Prop where
  | nil : Inside []
  | plain {c : CodePoint} {s : Text} (hquote : c ≠ quote) (hslash : c ≠ backslash)
      (hmark : c.isLineMark = false) (h : Inside s) : Inside (c :: s)
  | escape {e : CodePoint} {s : Text} (hmark : e.isLineMark = false) (h : Inside s) :
      Inside (backslash :: e :: s)

theorem Inside.hexDigits {s : Text} (h : Inside s) {digits : Text}
    (hdigits : ∀ d ∈ digits, d.isHexDigit = true) : Inside (digits ++ s) := by
  induction digits with
  | nil => exact h
  | cons d digits ih =>
    have hd : d.isHexDigit = true := hdigits d List.mem_cons_self
    have hother {c : CodePoint} (hc : c.isHexDigit = false) : d ≠ c := by
      rintro rfl
      rw [hc] at hd
      cases hd
    have hnewline : d ≠ CodePoint.newline := hother (by decide)
    have hreturn : d ≠ CodePoint.carriageReturn := hother (by decide)
    refine .plain (hother (by decide)) (hother (by decide)) ?_
      (ih fun c hc => hdigits c (List.mem_cons_of_mem d hc))
    simp [CodePoint.isLineMark, hnewline, hreturn]

theorem isHexDigit_of_unit? {d₁ d₂ d₃ d₄ : CodePoint} {n : Nat} (h : unit? d₁ d₂ d₃ d₄ = some n) :
    ∀ d ∈ [d₁, d₂, d₃, d₄], d.isHexDigit = true := by
  simp only [unit?, Option.bind_eq_bind, Option.bind_eq_some_iff] at h
  obtain ⟨n₁, h₁, n₂, h₂, n₃, h₃, n₄, h₄, -⟩ := h
  simp [CodePoint.isHexDigit, h₁, h₂, h₃, h₄]

theorem Inside.unitMark {s : Text} (h : Inside s) {d₁ d₂ d₃ d₄ : CodePoint} {n : Nat}
    (hn : unit? d₁ d₂ d₃ d₄ = some n) : Inside (unitMark d₁ d₂ d₃ d₄ ++ s) :=
  .escape (by decide) (h.hexDigits (isHexDigit_of_unit? hn))

theorem isLineMark_of_unescaped? {e c : CodePoint} (h : unescaped? e = some c) :
    e.isLineMark = false := by
  have hother {d : CodePoint} (hd : unescaped? d = none) : e ≠ d := by
    rintro rfl
    rw [hd] at h
    cases h
  have hnewline : e ≠ CodePoint.newline := hother (by decide)
  have hreturn : e ≠ CodePoint.carriageReturn := hother (by decide)
  simp [CodePoint.isLineMark, hnewline, hreturn]

theorem Spells.inside {body text : Text} (h : Spells body text) : Inside body := by
  induction h with
  | nil => exact .nil
  | @plain c body text hquote hslash hvisible h ih =>
    refine .plain hquote hslash ?_ ih
    have hnewline : c ≠ CodePoint.newline := by
      rintro rfl
      exact absurd hvisible (by decide)
    have hreturn : c ≠ CodePoint.carriageReturn := by
      rintro rfl
      exact absurd hvisible (by decide)
    simp [CodePoint.isLineMark, hnewline, hreturn]
  | short he _ ih => exact .escape (isLineMark_of_unescaped? he) ih
  | unit hn _ _ ih => exact ih.unitMark hn
  | pair hhigh hlow _ _ _ ih => exact (ih.unitMark hlow).unitMark hhigh

theorem Inside.joined {s : Text} (h : Inside s) : joined s = s := by
  induction h with
  | nil => rfl
  | plain _ _ hmark _ ih => rw [joined_cons hmark, ih]
  | escape hmark _ ih => rw [joined_cons (by decide), joined_cons hmark, ih]

/-! Deleting the line marks -/

theorem IsGap.joined {gap : Text} (h : IsGap gap) : IsGap (joined gap) := isGap_joined_iff.mpr h

theorem Denotes.joined {part : Part} {w : Text} {v : Value} (h : Denotes part w v) :
    Denotes part (joined w) v := by
  have hquote : quote.isLineMark = false := by decide
  have hopen : (CodePoint.ofChar '[').isLineMark = false := by decide
  have hclose : (CodePoint.ofChar ']').isLineMark = false := by decide
  have hopen' : (CodePoint.ofChar '{').isLineMark = false := by decide
  have hclose' : (CodePoint.ofChar '}').isLineMark = false := by decide
  have hcomma : (CodePoint.ofChar ',').isLineMark = false := by decide
  have hcolon : (CodePoint.ofChar ':').isLineMark = false := by decide
  have hnil : Json.joined [] = [] := rfl
  -- the line marks of a text are those of its gaps
  induction h with
  | string hbody =>
    simp only [joined_cons hquote, joined_append, hbody.inside.joined, hnil]
    exact .string hbody
  | scalar hw =>
    rw [hw.joined]
    exact .scalar hw
  | emptyArray hgap =>
    simp only [joined_cons hopen, joined_append, joined_cons hclose, hnil]
    exact .emptyArray hgap.joined
  | array hgap _ ih =>
    simp only [joined_cons hopen, joined_append]
    exact .array hgap.joined ih
  | emptyObject hgap =>
    simp only [joined_cons hopen', joined_append, joined_cons hclose', hnil]
    exact .emptyObject hgap.joined
  | object hgap _ ih =>
    simp only [joined_cons hopen', joined_append]
    exact .object hgap.joined ih
  | lastItem _ hgap ih =>
    simp only [joined_append, joined_cons hclose, hnil]
    exact .lastItem ih hgap.joined
  | item _ hgap hgap' _ ih ihmore =>
    simp only [joined_append, joined_cons hcomma]
    exact .item ih hgap.joined hgap'.joined ihmore
  | lastMember hkey hbefore hafter _ hgap ih =>
    simp only [joined_append, joined_cons hquote, joined_cons hcolon, joined_cons hclose',
      hkey.inside.joined, hnil]
    exact .lastMember hkey hbefore.joined hafter.joined ih hgap.joined
  | member hkey hbefore hafter _ hgap hgap' _ ih ihmore =>
    simp only [joined_append, joined_cons hquote, joined_cons hcolon, joined_cons hcomma,
      hkey.inside.joined]
    exact .member hkey hbefore.joined hafter.joined ih hgap.joined hgap'.joined ihmore

theorem Padded.joined {part : Part} {s : Text} {v : Value} (h : Padded part s v) :
    Padded part (joined s) v := by
  obtain ⟨before, w, after, rfl, hbefore, hafter, hw⟩ := h
  exact ⟨Json.joined before, Json.joined w, Json.joined after, by simp only [joined_append],
    hbefore.joined, hafter.joined, hw.joined⟩

/-! Scanning a text that denotes a value -/

def isSeparator (c : CodePoint) : Bool :=
  c == CodePoint.ofChar '[' || c == CodePoint.ofChar ']' || c == CodePoint.ofChar '{' ||
    c == CodePoint.ofChar '}' || c == CodePoint.ofChar ',' || c == CodePoint.ofChar ':'

namespace Place

theorem scan_cons {place next : Place} {c : CodePoint} (h : place.step c = some next) (s : Text) :
    place.scan (c :: s) = next.scan s := by
  rw [scan, List.foldlM_cons, h]
  rfl

theorem scan_append {place next : Place} {s : Text} (h : place.scan s = some next) (t : Text) :
    place.scan (s ++ t) = next.scan t := by
  rw [scan] at h
  rw [scan, List.foldlM_append, h]
  rfl

theorem exists_of_scan_cons {place : Place} {c : CodePoint} {s : Text}
    (h : (place.scan (c :: s)).isSome = true) :
    ∃ next, place.step c = some next ∧ (next.scan s).isSome = true := by
  rw [scan, List.foldlM_cons] at h
  cases hstep : place.step c with
  | none =>
    rw [hstep] at h
    cases h
  | some next =>
    rw [hstep] at h
    exact ⟨next, rfl, h⟩

variable {place : Place}

theorem step_separator (hplace : place.isOutside = true) {c : CodePoint}
    (hc : isSeparator c = true) : place.step c = some .between := by
  have hcases : c = CodePoint.ofChar '[' ∨ c = CodePoint.ofChar ']' ∨ c = CodePoint.ofChar '{' ∨
      c = CodePoint.ofChar '}' ∨ c = CodePoint.ofChar ',' ∨ c = CodePoint.ofChar ':' := by
    simpa [isSeparator, or_assoc] using hc
  rcases hcases with rfl | rfl | rfl | rfl | rfl | rfl <;> cases place <;>
    first | rfl | cases hplace

theorem step_quote (hplace : place.isOutside = true) : place.step quote = some .string := by
  cases place <;> first | rfl | cases hplace

theorem step_space (hplace : place.isOutside = true) {c : CodePoint} (hc : isSpace c = true) :
    ∃ next, place.step c = some next ∧ next.isOutside = true := by
  have hmark := isWordMark_eq_false_of_isSpace hc
  have hquote : c ≠ quote := by
    rintro rfl
    exact absurd hc (by decide)
  cases place <;> simp only [step, outside, hmark, hquote, if_false, Bool.false_eq_true]
  case string | escape => cases hplace
  all_goals split <;> exact ⟨_, rfl, rfl⟩

theorem scan_gap (hplace : place.isOutside = true) {gap : Text} (hgap : IsGap gap) :
    ∃ next, place.scan gap = some next ∧ next.isOutside = true := by
  induction gap generalizing place with
  | nil => exact ⟨place, rfl, hplace⟩
  | cons c gap ih =>
    obtain ⟨next, hstep, hnext⟩ := step_space hplace (hgap c List.mem_cons_self)
    rw [scan_cons hstep]
    exact ih hnext fun d hd => hgap d (List.mem_cons_of_mem c hd)

theorem scan_separator (hplace : place.isOutside = true) {gap : Text} (hgap : IsGap gap)
    {c : CodePoint} (hc : isSeparator c = true) (rest : Text) :
    place.scan (gap ++ c :: rest) = between.scan rest := by
  obtain ⟨next, hscan, hnext⟩ := scan_gap hplace hgap
  rw [scan_append hscan, scan_cons (step_separator hnext hc)]

theorem scan_between_gap {gap : Text} (hgap : IsGap gap) (rest : Text) :
    between.scan (gap ++ rest) = between.scan rest := by
  induction gap with
  | nil => rfl
  | cons c gap ih =>
    have hc : isSpace c = true := hgap c List.mem_cons_self
    have hmark := isWordMark_eq_false_of_isSpace hc
    have hquote : c ≠ quote := by
      rintro rfl
      exact absurd hc (by decide)
    have hstep : between.step c = some between := by
      simp only [step, outside, hmark, hquote, if_false, Bool.false_eq_true, ite_self]
    rw [List.cons_append, scan_cons hstep]
    exact ih fun d hd => hgap d (List.mem_cons_of_mem c hd)

theorem scan_inside {body : Text} (h : Inside body) (rest : Text) :
    string.scan (body ++ rest) = string.scan rest := by
  induction h with
  | nil => rfl
  | @plain c body hquote hslash hmark _ ih =>
    have hstep : string.step c = some string := by simp [step, hquote, hslash, hmark]
    rw [List.cons_append, scan_cons hstep, ih]
  | @escape e body hmark _ ih =>
    have hslash : string.step backslash = some escape := rfl
    have hstep : escape.step e = some string := by simp [step, hmark]
    rw [List.cons_append, List.cons_append, scan_cons hslash, scan_cons hstep, ih]

theorem scan_quoted (hplace : place.isOutside = true) {body : Text} (h : Inside body)
    (rest : Text) : place.scan (quote :: (body ++ quote :: rest)) = between.scan rest := by
  have hclose : string.step quote = some between := rfl
  rw [scan_cons (step_quote hplace), scan_inside h, scan_cons hclose]

theorem step_wordMark {c : CodePoint} (hc : isWordMark c = true) (h : place = between ∨ place = word) :
    place.step c = some .word := by
  have hline := isLineMark_eq_false_of_not_space (isSpace_eq_false_of_isWordMark hc)
  have hquote : c ≠ quote := by
    rintro rfl
    exact absurd hc (by decide)
  rcases h with rfl | rfl <;> simp [step, outside, hc, hline, hquote]

theorem scan_wordMarks {w : Text} (h : ∀ c ∈ w, isWordMark c = true) : word.scan w = some word := by
  induction w with
  | nil => rfl
  | cons c w ih =>
    rw [scan_cons (step_wordMark (h c List.mem_cons_self) (.inr rfl))]
    exact ih fun d hd => h d (List.mem_cons_of_mem c hd)

end Place

theorem Scalar.scan {w : Text} {v : Value} (h : Scalar w v) : Place.between.scan w = some .word := by
  obtain ⟨c, tail, rfl⟩ := h.exists_cons
  rw [Place.scan_cons (Place.step_wordMark (h.marks c List.mem_cons_self) (.inl rfl))]
  exact Place.scan_wordMarks fun d hd => h.marks d (List.mem_cons_of_mem c hd)

/-- The scan goes through and ends outside of every token. -/
theorem Denotes.scan {part : Part} {w : Text} {v : Value} (h : Denotes part w v) :
    ∃ place, Place.between.scan w = some place ∧ place.isOutside = true := by
  induction h with
  | string hbody => exact ⟨.between, Place.scan_quoted rfl hbody.inside [], rfl⟩
  | scalar hw => exact ⟨.word, hw.scan, rfl⟩
  | emptyArray hgap =>
    rw [Place.scan_cons (Place.step_separator rfl (by decide)), Place.scan_separator rfl hgap (by decide)]
    exact ⟨.between, rfl, rfl⟩
  | array hgap _ ih | object hgap _ ih =>
    rw [Place.scan_cons (Place.step_separator rfl (by decide)), Place.scan_between_gap hgap]
    exact ih
  | emptyObject hgap =>
    rw [Place.scan_cons (Place.step_separator rfl (by decide)), Place.scan_separator rfl hgap (by decide)]
    exact ⟨.between, rfl, rfl⟩
  | lastItem _ hgap ih =>
    obtain ⟨place, hscan, hplace⟩ := ih
    rw [Place.scan_append hscan, Place.scan_separator hplace hgap (by decide)]
    exact ⟨.between, rfl, rfl⟩
  | item _ hgap hgap' _ ih ihmore =>
    obtain ⟨place, hscan, hplace⟩ := ih
    rw [Place.scan_append hscan, Place.scan_separator hplace hgap (by decide),
      Place.scan_between_gap hgap']
    exact ihmore
  | lastMember hkey hbefore hafter _ hgap ih =>
    obtain ⟨place, hscan, hplace⟩ := ih
    rw [Place.scan_quoted rfl hkey.inside, Place.scan_separator rfl hbefore (by decide),
      Place.scan_between_gap hafter, Place.scan_append hscan,
      Place.scan_separator hplace hgap (by decide)]
    exact ⟨.between, rfl, rfl⟩
  | member hkey hbefore hafter _ hgap hgap' _ ih ihmore =>
    obtain ⟨place, hscan, hplace⟩ := ih
    rw [Place.scan_quoted rfl hkey.inside, Place.scan_separator rfl hbefore (by decide),
      Place.scan_between_gap hafter, Place.scan_append hscan,
      Place.scan_separator hplace hgap (by decide), Place.scan_between_gap hgap']
    exact ihmore

theorem Padded.keepsTokens {part : Part} {s : Text} {v : Value} (h : Padded part s v) :
    keepsTokens s = true := by
  obtain ⟨before, w, after, rfl, hbefore, hafter, hw⟩ := h
  obtain ⟨place, hscan, hplace⟩ := hw.scan
  obtain ⟨last, hlast, -⟩ := Place.scan_gap hplace hafter
  rw [Json.keepsTokens, Place.scan_between_gap hbefore, Place.scan_append hscan, hlast]
  rfl

/-! Putting line marks back -/

theorem keepsTokens_of_scan {place : Place} (hplace : place.isOutside = true) {s : Text}
    (h : (place.scan s).isSome = true) : keepsTokens s = true := by
  induction s generalizing place with
  | nil => rfl
  | cons c s ih =>
    obtain ⟨next, hstep, hnext⟩ := Place.exists_of_scan_cons h
    cases hmark : c.isLineMark with
    | true =>
      have hline : Place.between.step c = some .between := by simp [Place.step, hmark]
      have houtside : next.isOutside = true := by
        obtain ⟨next', hstep', hnext'⟩ := Place.step_space hplace (isSpace_of_isLineMark hmark)
        rw [hstep] at hstep'
        rw [Option.some.inj hstep']
        exact hnext'
      rw [keepsTokens, Place.scan_cons hline]
      exact ih houtside hnext
    | false =>
      -- but for line marks, the step does not depend on the place
      have hsame : Place.between.step c = some next := by
        cases place with
        | between | word => simpa [Place.step, hmark] using hstep
        | broken =>
          simp only [Place.step, hmark, Bool.false_eq_true, if_false] at hstep ⊢
          split at hstep
          · cases hstep
          · exact hstep
        | string | escape => cases hplace
      rw [keepsTokens, Place.scan_cons hsame]
      exact hnext

section Spread

variable {s t : Text}

theorem exists_of_joined_cons {c : CodePoint} (h : joined s = c :: t) :
    ∃ gap s', s = gap ++ c :: s' ∧ (∀ d ∈ gap, d.isLineMark = true) ∧ joined s' = t := by
  obtain ⟨gap, s', hs, hgap, -, hs'⟩ := List.filter_eq_cons_iff.mp h
  exact ⟨gap, s', hs, by simpa using hgap, hs'⟩

theorem isGap_of_isLineMark {gap : Text} (h : ∀ d ∈ gap, d.isLineMark = true) : IsGap gap :=
  fun d hd => isSpace_of_isLineMark (h d hd)

theorem exists_gap_of_joined {gap : Text} (hgap : IsGap gap) (h : joined s = gap ++ t)
    (hs : keepsTokens s = true) :
    ∃ gap' s', s = gap' ++ s' ∧ IsGap gap' ∧ joined s' = t ∧ keepsTokens s' = true := by
  obtain ⟨gap', s', rfl, hgap', hs'⟩ := List.filter_eq_append_iff.mp h
  have hspace : IsGap gap' := isGap_joined_iff.mp (by rw [joined, hgap']; exact hgap)
  rw [keepsTokens, Place.scan_between_gap hspace] at hs
  exact ⟨gap', s', rfl, hspace, hs', hs⟩

theorem exists_mark_of_joined {c : CodePoint} (h : joined s = c :: t) (hs : keepsTokens s = true) :
    ∃ gap s', s = gap ++ c :: s' ∧ IsGap gap ∧ joined s' = t ∧
      (Place.between.scan (c :: s')).isSome = true := by
  obtain ⟨gap, s', rfl, hmarks, hs'⟩ := exists_of_joined_cons h
  have hgap := isGap_of_isLineMark hmarks
  rw [keepsTokens, Place.scan_between_gap hgap] at hs
  exact ⟨gap, s', rfl, hgap, hs', hs⟩

theorem exists_separator_of_joined {gap : Text} (hgap : IsGap gap) {c : CodePoint}
    (hc : isSeparator c = true) (h : joined s = gap ++ c :: t) (hs : keepsTokens s = true) :
    ∃ gap' s', s = gap' ++ c :: s' ∧ IsGap gap' ∧ joined s' = t ∧ keepsTokens s' = true := by
  obtain ⟨before, s₁, rfl, hbefore, hs₁, hkeeps⟩ := exists_gap_of_joined hgap h hs
  obtain ⟨after, s', rfl, hafter, hs', hscan⟩ := exists_mark_of_joined hs₁ hkeeps
  rw [Place.scan_cons (Place.step_separator rfl hc)] at hscan
  exact ⟨before ++ after, s', by rw [List.append_assoc], hbefore.append hafter, hs', hscan⟩

theorem exists_head_of_joined {place : Place} (hplace : place.isOutside = false) {c : CodePoint}
    (hs : joined s = c :: t) (hscan : (place.scan s).isSome = true) :
    ∃ s' next, s = c :: s' ∧ joined s' = t ∧ place.step c = some next ∧
      (next.scan s').isSome = true := by
  obtain ⟨gap, s', rfl, hmarks, hs'⟩ := exists_of_joined_cons hs
  cases gap with
  | nil =>
    obtain ⟨next, hstep, hnext⟩ := Place.exists_of_scan_cons hscan
    exact ⟨s', next, rfl, hs', hstep, hnext⟩
  | cons d gap =>
    -- a line mark in a string stops the scan
    obtain ⟨next, hstep, -⟩ := Place.exists_of_scan_cons hscan
    have hline : d.isLineMark = true := hmarks d List.mem_cons_self
    cases place with
    | between | word | broken => cases hplace
    | string | escape => simp [Place.step, hline] at hstep

theorem exists_inside_of_joined {body : Text} (h : Inside body)
    (hs : joined s = body ++ quote :: t) (hscan : (Place.string.scan s).isSome = true) :
    ∃ s', s = body ++ quote :: s' ∧ joined s' = t ∧ keepsTokens s' = true := by
  induction h generalizing s with
  | nil =>
    obtain ⟨s', next, rfl, hs', hstep, hnext⟩ := exists_head_of_joined rfl hs hscan
    obtain rfl : .between = next := Option.some.inj hstep
    exact ⟨s', rfl, hs', hnext⟩
  | @plain c body hquote hslash hmark h ih =>
    obtain ⟨s₁, next, rfl, hs₁, hstep, hnext⟩ := exists_head_of_joined rfl hs hscan
    obtain rfl : .string = next := by simpa [Place.step, hquote, hslash, hmark] using hstep
    obtain ⟨s', rfl, hs'⟩ := ih hs₁ hnext
    exact ⟨s', rfl, hs'⟩
  | @escape e body hmark h ih =>
    obtain ⟨s₁, next, rfl, hs₁, hstep, hnext⟩ := exists_head_of_joined rfl hs hscan
    obtain rfl : .escape = next := Option.some.inj hstep
    obtain ⟨s₂, next, rfl, hs₂, hstep, hnext⟩ := exists_head_of_joined rfl hs₁ hnext
    obtain rfl : .string = next := by simpa [Place.step, hmark] using hstep
    obtain ⟨s', rfl, hs'⟩ := ih hs₂ hnext
    exact ⟨s', rfl, hs'⟩

theorem exists_quoted_of_joined {body : Text} (h : Inside body)
    (hs : joined s = quote :: (body ++ quote :: t)) (hkeeps : keepsTokens s = true) :
    ∃ gap s', s = gap ++ quote :: (body ++ quote :: s') ∧ IsGap gap ∧ joined s' = t ∧
      keepsTokens s' = true := by
  obtain ⟨gap, s₁, rfl, hgap, hs₁, hscan⟩ := exists_mark_of_joined hs hkeeps
  rw [Place.scan_cons (Place.step_quote rfl)] at hscan
  obtain ⟨s', rfl, hs'⟩ := exists_inside_of_joined h hs₁ hscan
  exact ⟨gap, s', rfl, hgap, hs'⟩

theorem scan_broken_eq_none {c : CodePoint} (hc : isWordMark c = true) (hs : joined s = c :: t) :
    Place.broken.scan s = none := by
  obtain ⟨gap, s', rfl, hmarks, -⟩ := exists_of_joined_cons hs
  clear hs
  induction gap with
  | nil =>
    have hline := isLineMark_eq_false_of_not_space (isSpace_eq_false_of_isWordMark hc)
    rw [List.nil_append, Place.scan, List.foldlM_cons]
    simp [Place.step, hline, hc]
  | cons d gap ih =>
    have hstep : Place.broken.step d = some .broken := by
      simp [Place.step, hmarks d List.mem_cons_self]
    rw [List.cons_append, Place.scan_cons hstep]
    exact ih fun d' hd' => hmarks d' (List.mem_cons_of_mem d hd')

theorem exists_wordMarks_of_joined {w : Text} (hw : ∀ c ∈ w, isWordMark c = true)
    (hs : joined s = w ++ t) (hscan : (Place.word.scan s).isSome = true) :
    ∃ s', s = w ++ s' ∧ joined s' = t ∧ keepsTokens s' = true := by
  induction w generalizing s with
  | nil => exact ⟨s, rfl, hs, keepsTokens_of_scan rfl hscan⟩
  | cons c w ih =>
    have hc : isWordMark c = true := hw c List.mem_cons_self
    obtain ⟨gap, s₁, rfl, hmarks, hs₁⟩ := exists_of_joined_cons hs
    cases gap with
    | nil =>
      rw [List.nil_append, Place.scan_cons (Place.step_wordMark hc (.inr rfl))] at hscan
      obtain ⟨s', rfl, hs'⟩ := ih (fun d hd => hw d (List.mem_cons_of_mem c hd)) hs₁ hscan
      exact ⟨s', rfl, hs'⟩
    | cons d gap =>
      have hline : d.isLineMark = true := hmarks d List.mem_cons_self
      have hstep : Place.word.step d = some .broken := by simp [Place.step, hline]
      have hrest : joined (gap ++ c :: s₁) = c :: (w ++ t) := by
        simpa [joined, hline] using hs
      rw [List.cons_append, Place.scan_cons hstep, scan_broken_eq_none hc hrest] at hscan
      cases hscan

theorem exists_scalar_of_joined {w : Text} {v : Value} (hw : Scalar w v)
    (hs : joined s = w ++ t) (hkeeps : keepsTokens s = true) :
    ∃ gap s', s = gap ++ (w ++ s') ∧ IsGap gap ∧ joined s' = t ∧ keepsTokens s' = true := by
  obtain ⟨c, tail, rfl⟩ := hw.exists_cons
  obtain ⟨gap, s₁, rfl, hgap, hs₁, hscan⟩ := exists_mark_of_joined hs hkeeps
  rw [Place.scan_cons (Place.step_wordMark (hw.marks c List.mem_cons_self) (.inl rfl))] at hscan
  have htail : ∀ d ∈ tail, isWordMark d = true := fun d hd =>
    hw.marks d (List.mem_cons_of_mem c hd)
  obtain ⟨s', rfl, hs'⟩ := exists_wordMarks_of_joined htail hs₁ hscan
  exact ⟨gap, s', rfl, hgap, hs'⟩

/-- Wherever this text is what is left of another one without its line marks, and no token of that
one is split, the other one denotes the same value. -/
def Spreads (part : Part) (w : Text) (v : Value) : Prop :=
  ∀ ⦃s t : Text⦄, joined s = w ++ t → keepsTokens s = true →
    ∃ gap w' s', s = gap ++ (w' ++ s') ∧ IsGap gap ∧ Denotes part w' v ∧ joined s' = t ∧
      keepsTokens s' = true

theorem Spreads.after_gap {part : Part} {w gap : Text} {v : Value} (h : Spreads part w v)
    (hgap : IsGap gap) (hs : joined s = gap ++ (w ++ t)) (hkeeps : keepsTokens s = true) :
    ∃ gap' w' s', s = gap' ++ (w' ++ s') ∧ IsGap gap' ∧ Denotes part w' v ∧ joined s' = t ∧
      keepsTokens s' = true := by
  obtain ⟨before, s₁, rfl, hbefore, hs₁, hkeeps⟩ := exists_gap_of_joined hgap hs hkeeps
  obtain ⟨after, w', s', rfl, hafter, hw', hs'⟩ := h hs₁ hkeeps
  exact ⟨before ++ after, w', s', by rw [List.append_assoc], hbefore.append hafter, hw', hs'⟩

theorem exists_key_of_joined {body key colon : Text} (hkey : Spells body key)
    (hcolon : IsGap colon)
    (hs : joined s = quote :: (body ++ quote :: (colon ++ CodePoint.ofChar ':' :: t)))
    (hkeeps : keepsTokens s = true) :
    ∃ gap colon' s', s = gap ++ quote :: (body ++ quote :: (colon' ++ CodePoint.ofChar ':' :: s')) ∧
      IsGap gap ∧ IsGap colon' ∧ joined s' = t ∧ keepsTokens s' = true := by
  obtain ⟨gap, s₁, rfl, hgap, hs₁, hkeeps⟩ := exists_quoted_of_joined hkey.inside hs hkeeps
  obtain ⟨colon', s', rfl, hcolon', hs'⟩ :=
    exists_separator_of_joined hcolon (by decide) hs₁ hkeeps
  exact ⟨gap, colon', s', rfl, hgap, hcolon', hs'⟩

/-- One case for each rule of the grammar: its separators stay where they are, and the space between
them grows. -/
theorem Denotes.spreads {part : Part} {w : Text} {v : Value} (h : Denotes part w v) :
    Spreads part w v := by
  induction h with
  | @string body text hbody =>
    intro s t hs hkeeps
    simp only [List.cons_append, List.append_assoc, List.nil_append] at hs
    obtain ⟨gap, s', rfl, hgap, hs'⟩ := exists_quoted_of_joined hbody.inside hs hkeeps
    exact ⟨gap, _, s', by simp, hgap, .string hbody, hs'⟩
  | scalar hw =>
    intro s t hs hkeeps
    obtain ⟨gap, s', rfl, hgap, hs'⟩ := exists_scalar_of_joined hw hs hkeeps
    exact ⟨gap, _, s', rfl, hgap, .scalar hw, hs'⟩
  | emptyArray hinner =>
    intro s t hs hkeeps
    simp only [List.cons_append, List.append_assoc, List.nil_append] at hs
    obtain ⟨gap, s₁, rfl, hgap, hs₁, hkeeps⟩ :=
      exists_separator_of_joined .nil (by decide) hs hkeeps
    obtain ⟨inner, s', rfl, hinner', hs'⟩ :=
      exists_separator_of_joined hinner (by decide) hs₁ hkeeps
    exact ⟨gap, _, s', by simp, hgap, .emptyArray hinner', hs'⟩
  | array hinner _ ih =>
    intro s t hs hkeeps
    simp only [List.cons_append, List.append_assoc] at hs
    obtain ⟨gap, s₁, rfl, hgap, hs₁, hkeeps⟩ :=
      exists_separator_of_joined .nil (by decide) hs hkeeps
    obtain ⟨inner, w', s', rfl, hinner', hw', hs'⟩ := ih.after_gap hinner hs₁ hkeeps
    exact ⟨gap, _, s', by simp, hgap, .array hinner' hw', hs'⟩
  | emptyObject hinner =>
    intro s t hs hkeeps
    simp only [List.cons_append, List.append_assoc, List.nil_append] at hs
    obtain ⟨gap, s₁, rfl, hgap, hs₁, hkeeps⟩ :=
      exists_separator_of_joined .nil (by decide) hs hkeeps
    obtain ⟨inner, s', rfl, hinner', hs'⟩ :=
      exists_separator_of_joined hinner (by decide) hs₁ hkeeps
    exact ⟨gap, _, s', by simp, hgap, .emptyObject hinner', hs'⟩
  | object hinner _ ih =>
    intro s t hs hkeeps
    simp only [List.cons_append, List.append_assoc] at hs
    obtain ⟨gap, s₁, rfl, hgap, hs₁, hkeeps⟩ :=
      exists_separator_of_joined .nil (by decide) hs hkeeps
    obtain ⟨inner, w', s', rfl, hinner', hw', hs'⟩ := ih.after_gap hinner hs₁ hkeeps
    exact ⟨gap, _, s', by simp, hgap, .object hinner' hw', hs'⟩
  | lastItem _ hafter ih =>
    intro s t hs hkeeps
    simp only [List.append_assoc, List.cons_append, List.nil_append] at hs
    obtain ⟨gap, w', s₁, rfl, hgap, hw', hs₁, hkeeps⟩ := ih hs hkeeps
    obtain ⟨after, s', rfl, hafter', hs'⟩ :=
      exists_separator_of_joined hafter (by decide) hs₁ hkeeps
    exact ⟨gap, _, s', by simp, hgap, .lastItem hw' hafter', hs'⟩
  | item _ hafter hinner _ ih ihmore =>
    intro s t hs hkeeps
    simp only [List.append_assoc, List.cons_append] at hs
    obtain ⟨gap, w', s₁, rfl, hgap, hw', hs₁, hkeeps⟩ := ih hs hkeeps
    obtain ⟨after, s₂, rfl, hafter', hs₂, hkeeps⟩ :=
      exists_separator_of_joined hafter (by decide) hs₁ hkeeps
    obtain ⟨inner, more, s', rfl, hinner', hmore, hs'⟩ := ihmore.after_gap hinner hs₂ hkeeps
    exact ⟨gap, _, s', by simp, hgap, .item hw' hafter' hinner' hmore, hs'⟩
  | lastMember hkey hcolon hinner _ hafter ih =>
    intro s t hs hkeeps
    simp only [List.append_assoc, List.cons_append, List.nil_append] at hs
    obtain ⟨gap, colon, s₁, rfl, hgap, hcolon', hs₁, hkeeps⟩ :=
      exists_key_of_joined hkey hcolon hs hkeeps
    obtain ⟨inner, w', s₂, rfl, hinner', hw', hs₂, hkeeps⟩ := ih.after_gap hinner hs₁ hkeeps
    obtain ⟨after, s', rfl, hafter', hs'⟩ :=
      exists_separator_of_joined hafter (by decide) hs₂ hkeeps
    exact ⟨gap, _, s', by simp, hgap, .lastMember hkey hcolon' hinner' hw' hafter', hs'⟩
  | member hkey hcolon hinner _ hafter hnext _ ih ihmore =>
    intro s t hs hkeeps
    simp only [List.append_assoc, List.cons_append] at hs
    obtain ⟨gap, colon, s₁, rfl, hgap, hcolon', hs₁, hkeeps⟩ :=
      exists_key_of_joined hkey hcolon hs hkeeps
    obtain ⟨inner, w', s₂, rfl, hinner', hw', hs₂, hkeeps⟩ := ih.after_gap hinner hs₁ hkeeps
    obtain ⟨after, s₃, rfl, hafter', hs₃, hkeeps⟩ :=
      exists_separator_of_joined hafter (by decide) hs₂ hkeeps
    obtain ⟨next, more, s', rfl, hnext', hmore, hs'⟩ := ihmore.after_gap hnext hs₃ hkeeps
    exact ⟨gap, _, s', by simp, hgap,
      .member hkey hcolon' hinner' hw' hafter' hnext' hmore, hs'⟩

theorem padded_of_joined {part : Part} {v : Value} (h : Padded part (joined s) v)
    (hkeeps : keepsTokens s = true) : Padded part s v := by
  obtain ⟨before, w, after, hs, hbefore, hafter, hw⟩ := h
  obtain ⟨before', w', s', rfl, hbefore', hw', hs', -⟩ := hw.spreads.after_gap hbefore hs hkeeps
  have hafter' : IsGap s' := isGap_joined_iff.mp (by rw [hs']; exact hafter)
  exact ⟨before', w', s', rfl, hbefore', hafter', hw'⟩

end Spread

/-- Without its line marks a text is read for the same value, and a text is malformed for its line
marks only where one of them stands inside a token. -/
theorem read_eq_ok_iff_joined {s : Text} {v : Value} :
    read s = .ok v ↔ read (joined s) = .ok v ∧ keepsTokens s = true := by
  rw [read_eq_ok_iff, read_eq_ok_iff]
  exact ⟨fun h => ⟨h.joined, h.keepsTokens⟩, fun h => padded_of_joined h.1 h.2⟩

/-! Line marks made one -/

namespace Place

variable {place next : Place} {c d : CodePoint}

theorem step_lineMarks (hc : c.isLineMark = true) (hd : d.isLineMark = true) :
    place.step c = place.step d := by
  cases place <;> simp only [step, hc, hd, if_true]

/-- A line mark after a line mark leads nowhere else. -/
theorem step_lineMark_again (hc : c.isLineMark = true) (hd : d.isLineMark = true)
    (h : place.step c = some next) : next.step d = some next := by
  cases place <;> simp only [step, hc, if_true, Option.some.injEq, reduceCtorEq] at h <;>
    subst h <;> simp only [step, hd, if_true]

/-- The scan does not tell a text from what its line marks are made to; after a CR it stands where
another line mark keeps it. -/
theorem scan_newlinesFrom {afterReturn : Bool} {s : Text}
    (h : afterReturn = true → place.step CodePoint.newline = some place) :
    place.scan (Text.newlinesFrom afterReturn s) = place.scan s := by
  have hnewline : CodePoint.newline.isLineMark = true := rfl
  induction s generalizing place afterReturn with
  | nil => rfl
  | cons c s ih =>
    unfold Text.newlinesFrom
    split
    · rename_i hreturn
      have hmark : c.isLineMark = true := by rw [hreturn]; rfl
      rw [scan, scan, List.foldlM_cons, List.foldlM_cons, step_lineMarks hmark hnewline]
      cases hstep : place.step CodePoint.newline with
      | none => rfl
      | some next => exact ih fun _ => step_lineMark_again hnewline hnewline hstep
    · split
      · rename_i hdropped
        obtain ⟨rfl, hafter⟩ : c = CodePoint.newline ∧ afterReturn = true := by
          simpa using hdropped
        rw [scan_cons (h hafter)]
        exact ih (by simp)
      · rw [scan, scan, List.foldlM_cons, List.foldlM_cons]
        cases place.step c with
        | none => rfl
        | some next => exact ih (by simp)

end Place

theorem joined_newlinesFrom (afterReturn : Bool) (s : Text) :
    joined (Text.newlinesFrom afterReturn s) = joined s := by
  have hmark {c : CodePoint} (hc : c.isLineMark = true) (s : Text) : joined (c :: s) = joined s := by
    simp [joined, hc]
  induction s generalizing afterReturn with
  | nil => rfl
  | cons c s ih =>
    unfold Text.newlinesFrom
    split
    · rename_i hreturn
      rw [hreturn, hmark rfl, hmark rfl, ih]
    · split
      · rename_i hdropped
        have hnewline : c = CodePoint.newline := (by simpa using hdropped : _ ∧ _).1
        rw [hnewline, hmark rfl, ih]
      · calc joined ([c] ++ Text.newlinesFrom false s)
          _ = joined [c] ++ joined s := by rw [joined_append, ih]
          _ = joined (c :: s) := (joined_append [c] s).symm

/-- A text is read for the same value whichever marks end its lines. -/
theorem read_universalNewlines {s : Text} {v : Value} :
    read (Text.universalNewlines s) = .ok v ↔ read s = .ok v := by
  have hscan : Place.between.scan (Text.universalNewlines s) = Place.between.scan s :=
    Place.scan_newlinesFrom (by simp)
  rw [read_eq_ok_iff_joined, read_eq_ok_iff_joined (s := s), Text.universalNewlines,
    joined_newlinesFrom, keepsTokens, keepsTokens, ← Text.universalNewlines, hscan]

end NodeClient.Json
