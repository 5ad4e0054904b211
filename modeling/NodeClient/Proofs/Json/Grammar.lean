import Mathlib.Data.List.TakeWhile
import NodeClient.Proofs.Json.Spelling
import NodeClient.Proofs.Json.Word

/-! The grammar of JSON text: which texts denote a value, with the space that may stand between
their tokens. The reader accepts these texts and no others. -/

namespace NodeClient.Json

open CodePoint (quote)

def IsGap (gap : Text) : Prop := ∀ c ∈ gap, isSpace c = true

/-- What is read next: a value, or the items of an array or the members of an object that follow
those in `done`. -/
inductive Part where
  | value
  | items (done : List Value)
  | members (done : List (Text × Value))

inductive Denotes : Part → (w : Text) → Value → Prop where
  | string {body text : Text} (h : Spells body text) :
      Denotes .value (quote :: (body ++ [quote])) (.str text)
  | scalar {w : Text} {v : Value} (h : Scalar w v) : Denotes .value w v
  | emptyArray {gap : Text} (hgap : IsGap gap) :
      Denotes .value (CodePoint.ofChar '[' :: (gap ++ [CodePoint.ofChar ']'])) (.arr [])
  | array {gap w : Text} {v : Value} (hgap : IsGap gap) (h : Denotes (.items []) w v) :
      Denotes .value (CodePoint.ofChar '[' :: (gap ++ w)) v
  | emptyObject {gap : Text} (hgap : IsGap gap) :
      Denotes .value (CodePoint.ofChar '{' :: (gap ++ [CodePoint.ofChar '}'])) (.obj [])
  | object {gap w : Text} {v : Value} (hgap : IsGap gap) (h : Denotes (.members []) w v) :
      Denotes .value (CodePoint.ofChar '{' :: (gap ++ w)) v
  | lastItem {done : List Value} {w gap : Text} {v : Value} (h : Denotes .value w v)
      (hgap : IsGap gap) :
      Denotes (.items done) (w ++ (gap ++ [CodePoint.ofChar ']'])) (.arr (v :: done).reverse)
  | item {done : List Value} {w gap gap' more : Text} {v u : Value} (h : Denotes .value w v)
      (hgap : IsGap gap) (hgap' : IsGap gap') (hmore : Denotes (.items (v :: done)) more u) :
      Denotes (.items done) (w ++ (gap ++ CodePoint.ofChar ',' :: (gap' ++ more))) u
  | lastMember {done : List (Text × Value)} {body key before after w gap : Text} {v : Value}
      (hkey : Spells body key) (hbefore : IsGap before) (hafter : IsGap after)
      (h : Denotes .value w v) (hgap : IsGap gap) :
      Denotes (.members done) (quote :: (body ++ quote :: (before ++ CodePoint.ofChar ':' ::
        (after ++ (w ++ (gap ++ [CodePoint.ofChar '}'])))))) (.obj (insertMember key v done))
  | member {done : List (Text × Value)} {body key before after w gap gap' more : Text}
      {v u : Value} (hkey : Spells body key) (hbefore : IsGap before) (hafter : IsGap after)
      (h : Denotes .value w v) (hgap : IsGap gap) (hgap' : IsGap gap')
      (hmore : Denotes (.members (insertMember key v done)) more u) :
      Denotes (.members done) (quote :: (body ++ quote :: (before ++ CodePoint.ofChar ':' ::
        (after ++ (w ++ (gap ++ CodePoint.ofChar ',' :: (gap' ++ more))))))) u

/-! Space -/

theorem isWordMark_eq_false_of_isSpace {c : CodePoint} (h : isSpace c = true) :
    isWordMark c = false := by
  have hval : c.val = 0x20 ∨ c.val = 0x09 ∨ c.val = 0x0A ∨ c.val = 0x0D := by
    simpa [isSpace, or_assoc] using h
  obtain ⟨n, hn⟩ := c
  simp only at hval
  rcases hval with rfl | rfl | rfl | rfl <;> rfl

theorem skipSpace_cons {c : CodePoint} (hc : isSpace c = false) (s : Text) :
    skipSpace (c :: s) = c :: s :=
  List.dropWhile_cons_of_neg (Bool.eq_false_iff.mp hc)

theorem exists_gap {s rest : Text} (h : skipSpace s = rest) :
    ∃ gap, IsGap gap ∧ s = gap ++ rest := by
  refine ⟨s.takeWhile isSpace, fun c hc => List.all_eq_true.mp List.all_takeWhile c hc, ?_⟩
  rw [← h]
  exact List.takeWhile_append_dropWhile.symm

namespace IsGap

variable {gap : Text}

theorem nil : IsGap [] := by simp [IsGap]

theorem append {gap' : Text} (h : IsGap gap) (h' : IsGap gap') : IsGap (gap ++ gap') := by
  intro c hc
  exact (List.mem_append.mp hc).elim (h c) (h' c)

theorem skipSpace_append (h : IsGap gap) (s : Text) : skipSpace (gap ++ s) = skipSpace s := by
  rw [skipSpace, List.dropWhile_append_of_pos h]
  rfl

theorem skipSpace_mark (h : IsGap gap) {c : CodePoint} (hc : isSpace c = false) (rest : Text) :
    skipSpace (gap ++ c :: rest) = c :: rest := by
  rw [h.skipSpace_append, skipSpace_cons hc]

theorem endsWord_append (h : IsGap gap) {s : Text} (hs : EndsWord s) : EndsWord (gap ++ s) := by
  cases gap with
  | nil => exact hs
  | cons c gap => exact endsWord_cons.mpr (isWordMark_eq_false_of_isSpace (h c List.mem_cons_self))

theorem endsWord_mark (h : IsGap gap) (c : CodePoint) (hc : isWordMark c = false) (rest : Text) :
    EndsWord (gap ++ c :: rest) := h.endsWord_append (endsWord_cons.mpr hc)

end IsGap

/-! What is read denotes its value -/

/-- With this much fuel, only texts that denote a value are taken; a value has to be followed by the
end of its word. -/
structure ReadsDenoted (fuel : Nat) : Prop where
  value : ∀ {s rest : Text} {v : Value}, readValue fuel s = .ok (v, rest) → EndsWord rest →
    ∃ w, s = w ++ rest ∧ Denotes .value w v
  items : ∀ {done : List Value} {s rest : Text} {v : Value},
    readItems fuel done s = .ok (v, rest) → ∃ w, s = w ++ rest ∧ Denotes (.items done) w v
  members : ∀ {done : List (Text × Value)} {s rest : Text} {v : Value},
    readMembers fuel done s = .ok (v, rest) → ∃ w, s = w ++ rest ∧ Denotes (.members done) w v

theorem readsDenoted_zero : ReadsDenoted 0 := by
  refine ⟨?_, ?_, ?_⟩
  · intro s rest v h
    rw [readValue] at h
    cases h
  · intro done s rest v h
    rw [readItems] at h
    cases h
  · intro done s rest v h
    rw [readMembers] at h
    cases h

namespace ReadsDenoted

variable {fuel : Nat} {s rest : Text} {v : Value}

theorem readValue_succ (ih : ReadsDenoted fuel) (h : readValue (fuel + 1) s = .ok (v, rest))
    (hrest : EndsWord rest) : ∃ w, s = w ++ rest ∧ Denotes .value w v := by
  cases s with
  | nil =>
    rw [readValue] at h
    cases h
  | cons c s =>
    rw [readValue] at h
    split at h
    · rename_i hquote
      split at h
      · rename_i text after hstring
        obtain ⟨rfl, rfl⟩ := Prod.mk.inj (Except.ok.inj h)
        obtain ⟨body, rfl, hbody⟩ := spells_of_stringFrom hstring
        rw [hquote]
        exact ⟨_, by simp, .string hbody⟩
      · cases h
    split at h
    · rename_i hbrace
      rw [hbrace]
      split at h
      · cases h
      rename_i d after hskip
      split at h
      · rename_i hclose
        rw [hclose] at hskip
        obtain ⟨rfl, rfl⟩ := Prod.mk.inj (Except.ok.inj h)
        obtain ⟨gap, hgap, rfl⟩ := exists_gap hskip
        exact ⟨_, by simp, .emptyObject hgap⟩
      · obtain ⟨w, hw, hmembers⟩ := ih.members h
        obtain ⟨gap, hgap, rfl⟩ := exists_gap hskip
        rw [hw]
        exact ⟨_, by simp, .object hgap hmembers⟩
    split at h
    · rename_i hbracket
      rw [hbracket]
      split at h
      · cases h
      rename_i d after hskip
      split at h
      · rename_i hclose
        rw [hclose] at hskip
        obtain ⟨rfl, rfl⟩ := Prod.mk.inj (Except.ok.inj h)
        obtain ⟨gap, hgap, rfl⟩ := exists_gap hskip
        exact ⟨_, by simp, .emptyArray hgap⟩
      · obtain ⟨w, hw, hitems⟩ := ih.items h
        obtain ⟨gap, hgap, rfl⟩ := exists_gap hskip
        rw [hw]
        exact ⟨_, by simp, .array hgap hitems⟩
    split at h
    · rename_i hword
      obtain rfl := Except.ok.inj h
      obtain ⟨w, hw, hscalar⟩ := scalar_of_word? hword
      exact ⟨w, hw, .scalar hscalar⟩
    rename_i hword
    split at h
    · rename_i hnumber
      subst h
      obtain ⟨w, hw, hscalar⟩ := scalar_of_number? hword hnumber hrest
      exact ⟨w, hw, .scalar hscalar⟩
    · cases h

theorem readItems_succ (ih : ReadsDenoted fuel) {done : List Value}
    (h : readItems (fuel + 1) done s = .ok (v, rest)) :
    ∃ w, s = w ++ rest ∧ Denotes (.items done) w v := by
  rw [readItems] at h
  split at h
  · cases h
  rename_i v' after hvalue
  split at h
  · cases h
  rename_i c more hskip
  obtain ⟨gap, hgap, rfl⟩ := exists_gap hskip
  split at h
  · rename_i hclose
    rw [hclose] at hvalue
    obtain ⟨rfl, rfl⟩ := Prod.mk.inj (Except.ok.inj h)
    obtain ⟨w, rfl, hw⟩ := ih.value hvalue
      (hgap.endsWord_mark (CodePoint.ofChar ']') (by decide) more)
    exact ⟨_, by simp, .lastItem hw hgap⟩
  split at h
  · rename_i hcomma
    rw [hcomma] at hvalue
    obtain ⟨w, rfl, hw⟩ := ih.value hvalue
      (hgap.endsWord_mark (CodePoint.ofChar ',') (by decide) more)
    obtain ⟨left, hleft, hmore⟩ := ih.items h
    obtain ⟨gap', hgap', rfl⟩ := exists_gap hleft
    exact ⟨_, by simp, .item hw hgap hgap' hmore⟩
  · cases h

theorem readMembers_succ (ih : ReadsDenoted fuel) {done : List (Text × Value)}
    (h : readMembers (fuel + 1) done s = .ok (v, rest)) :
    ∃ w, s = w ++ rest ∧ Denotes (.members done) w v := by
  cases s with
  | nil =>
    rw [readMembers] at h
    cases h
  | cons c s =>
    rw [readMembers] at h
    split at h
    case isFalse => cases h
    rename_i hquote
    rw [hquote]
    split at h
    · cases h
    rename_i key afterKey hstring
    obtain ⟨body, rfl, hkey⟩ := spells_of_stringFrom hstring
    split at h
    · cases h
    rename_i d afterColon hcolon
    split at h
    case isFalse => cases h
    rename_i hd
    rw [hd] at hcolon
    obtain ⟨before, hbefore, rfl⟩ := exists_gap hcolon
    split at h
    · cases h
    rename_i v' left hvalue
    split at h
    · cases h
    rename_i e more hskip
    obtain ⟨gap, hgap, rfl⟩ := exists_gap hskip
    split at h
    · rename_i hclose
      rw [hclose] at hvalue
      obtain ⟨rfl, rfl⟩ := Prod.mk.inj (Except.ok.inj h)
      obtain ⟨w, hw, hdenotes⟩ := ih.value hvalue
        (hgap.endsWord_mark (CodePoint.ofChar '}') (by decide) more)
      obtain ⟨after, hafter, rfl⟩ := exists_gap hw
      exact ⟨_, by simp, .lastMember hkey hbefore hafter hdenotes hgap⟩
    split at h
    · rename_i hcomma
      rw [hcomma] at hvalue
      obtain ⟨w, hw, hdenotes⟩ := ih.value hvalue
        (hgap.endsWord_mark (CodePoint.ofChar ',') (by decide) more)
      obtain ⟨after, hafter, rfl⟩ := exists_gap hw
      obtain ⟨u, hu, hmore⟩ := ih.members h
      obtain ⟨gap', hgap', rfl⟩ := exists_gap hu
      exact ⟨_, by simp, .member hkey hbefore hafter hdenotes hgap hgap' hmore⟩
    · cases h

end ReadsDenoted

theorem readsDenoted (fuel : Nat) : ReadsDenoted fuel := by
  induction fuel with
  | zero => exact readsDenoted_zero
  | succ fuel ih => exact ⟨ih.readValue_succ, ih.readItems_succ, ih.readMembers_succ⟩

/-! The first and the last mark of a value -/

/-- The marks that values, items and members start or end with. -/
def isEdge (c : CodePoint) : Bool :=
  isWordMark c || c == quote || c == CodePoint.ofChar '[' || c == CodePoint.ofChar ']' ||
    c == CodePoint.ofChar '{' || c == CodePoint.ofChar '}'

theorem isEdge_of_isWordMark {c : CodePoint} (h : isWordMark c = true) : isEdge c = true := by
  simp [isEdge, h]

theorem isSpace_eq_false_of_isEdge {c : CodePoint} (h : isEdge c = true) : isSpace c = false := by
  cases hspace : isSpace c with
  | false => rfl
  | true =>
    have hmark := isWordMark_eq_false_of_isSpace hspace
    have hother {d : CodePoint} (hd : isSpace d = false) : c ≠ d := by
      rintro rfl
      rw [hd] at hspace
      cases hspace
    have hquote : c ≠ quote := hother (by decide)
    have hopen : c ≠ CodePoint.ofChar '[' := hother (by decide)
    have hclose : c ≠ CodePoint.ofChar ']' := hother (by decide)
    have hopen' : c ≠ CodePoint.ofChar '{' := hother (by decide)
    have hclose' : c ≠ CodePoint.ofChar '}' := hother (by decide)
    simp [isEdge, hmark, hquote, hopen, hclose, hopen', hclose'] at h

namespace Denotes

variable {part : Part} {w : Text} {v : Value}

/-- No value starts with a closing bracket, which therefore ends an empty array or object. -/
theorem starts (h : Denotes part w v) : ∃ c tail, w = c :: tail ∧ isEdge c = true ∧
    c ≠ CodePoint.ofChar ']' ∧ c ≠ CodePoint.ofChar '}' := by
  induction h with
  | string | lastMember | member => exact ⟨quote, _, rfl, by decide, by decide, by decide⟩
  | emptyArray | array => exact ⟨CodePoint.ofChar '[', _, rfl, by decide, by decide, by decide⟩
  | emptyObject | object => exact ⟨CodePoint.ofChar '{', _, rfl, by decide, by decide, by decide⟩
  | scalar h =>
    obtain ⟨c, tail, rfl⟩ := h.exists_cons
    have hc : isWordMark c = true := h.marks c List.mem_cons_self
    refine ⟨c, tail, rfl, isEdge_of_isWordMark hc, ?_, ?_⟩
    · rintro rfl
      exact absurd hc (by decide)
    · rintro rfl
      exact absurd hc (by decide)
  | lastItem _ _ ih | item _ _ _ _ ih =>
    obtain ⟨c, tail, rfl, hc⟩ := ih
    exact ⟨c, _, rfl, hc⟩

theorem ends (h : Denotes part w v) : ∃ front c, w = front ++ [c] ∧ isEdge c = true := by
  induction h with
  | @string body => exact ⟨quote :: body, quote, rfl, by decide⟩
  | @emptyArray gap => exact ⟨CodePoint.ofChar '[' :: gap, CodePoint.ofChar ']', rfl, by decide⟩
  | @emptyObject gap => exact ⟨CodePoint.ofChar '{' :: gap, CodePoint.ofChar '}', rfl, by decide⟩
  | @scalar w _ h =>
    obtain ⟨c, tail, hw⟩ := h.exists_cons
    have hne : w ≠ [] := by simp [hw]
    exact ⟨w.dropLast, w.getLast hne, (List.dropLast_concat_getLast hne).symm,
      isEdge_of_isWordMark (h.marks _ (List.getLast_mem hne))⟩
  | @array gap _ _ _ _ ih =>
    obtain ⟨front, c, rfl, hc⟩ := ih
    exact ⟨CodePoint.ofChar '[' :: (gap ++ front), c, by simp, hc⟩
  | @object gap _ _ _ _ ih =>
    obtain ⟨front, c, rfl, hc⟩ := ih
    exact ⟨CodePoint.ofChar '{' :: (gap ++ front), c, by simp, hc⟩
  | @lastItem _ w gap => exact ⟨w ++ gap, CodePoint.ofChar ']', by simp, by decide⟩
  | @lastMember _ body _ before after w gap =>
    exact ⟨quote :: (body ++ quote :: (before ++ CodePoint.ofChar ':' :: (after ++ (w ++ gap)))),
      CodePoint.ofChar '}', by simp, by decide⟩
  | @item _ w gap gap' _ _ _ _ _ _ _ _ ih =>
    obtain ⟨front, c, rfl, hc⟩ := ih
    exact ⟨w ++ (gap ++ CodePoint.ofChar ',' :: (gap' ++ front)), c, by simp, hc⟩
  | @member _ body _ before after w gap gap' _ _ _ _ _ _ _ _ _ _ _ ih =>
    obtain ⟨front, c, rfl, hc⟩ := ih
    exact ⟨quote :: (body ++ quote :: (before ++ CodePoint.ofChar ':' ::
      (after ++ (w ++ (gap ++ CodePoint.ofChar ',' :: (gap' ++ front)))))), c, by simp, hc⟩

theorem length_pos (h : Denotes part w v) : 0 < w.length := by
  obtain ⟨c, tail, rfl, -⟩ := h.starts
  exact Nat.succ_pos _

theorem skipSpace_append (h : Denotes part w v) (rest : Text) :
    skipSpace (w ++ rest) = w ++ rest := by
  obtain ⟨c, tail, rfl, hc, -⟩ := h.starts
  exact skipSpace_cons (isSpace_eq_false_of_isEdge hc) (tail ++ rest)

end Denotes

/-! What denotes a value is read -/

def Part.read (fuel : Nat) : Part → Text → Except Fault (Value × Text)
  | .value => readValue fuel
  | .items done => readItems fuel done
  | .members done => readMembers fuel done

theorem Scalar.readValue {w rest : Text} {v : Value} (h : Scalar w v) (hrest : EndsWord rest)
    (fuel : Nat) : readValue (fuel + 1) (w ++ rest) = .ok (v, rest) := by
  obtain ⟨c, tail, rfl⟩ := h.exists_cons
  have hmark : isWordMark c = true := h.marks c List.mem_cons_self
  have hother {d : CodePoint} (hd : isWordMark d = false) : c ≠ d := by
    rintro rfl
    rw [hd] at hmark
    cases hmark
  have hquote : c ≠ quote := hother (by decide)
  have hbrace : c ≠ CodePoint.ofChar '{' := hother (by decide)
  have hbracket : c ≠ CodePoint.ofChar '[' := hother (by decide)
  have hread := h.append hrest
  rw [List.cons_append] at hread ⊢
  simp only [Json.readValue, hquote, hbrace, hbracket, if_false]
  rcases hread with hword | ⟨hword, hnumber⟩
  · rw [hword]
  · rw [hword, hnumber]

section Brackets

variable {s tail : Text} {c : CodePoint} (hskip : skipSpace s = c :: tail) (fuel : Nat)
include hskip

theorem readValue_bracket : readValue (fuel + 1) (CodePoint.ofChar '[' :: s) =
    if c = CodePoint.ofChar ']' then .ok (.arr [], tail) else readItems fuel [] (c :: tail) := by
  have hquote : CodePoint.ofChar '[' ≠ quote := by decide
  have hbrace : CodePoint.ofChar '[' ≠ CodePoint.ofChar '{' := by decide
  simp only [readValue, hquote, hbrace, if_true, if_false, hskip]

theorem readValue_brace : readValue (fuel + 1) (CodePoint.ofChar '{' :: s) =
    if c = CodePoint.ofChar '}' then .ok (.obj [], tail) else readMembers fuel [] (c :: tail) := by
  have hquote : CodePoint.ofChar '{' ≠ quote := by decide
  simp only [readValue, hquote, if_true, if_false, hskip]

end Brackets

/-- With fuel for each of its code points, a text is read for the value that it denotes. -/
theorem Denotes.read {part : Part} {w : Text} {v : Value} (h : Denotes part w v) {fuel : Nat}
    (hfuel : w.length ≤ fuel) {rest : Text} (hrest : EndsWord rest) :
    part.read fuel (w ++ rest) = .ok (v, rest) := by
  have hpositive := h.length_pos
  -- every part has fewer code points than the whole, and one unit of fuel less
  induction h generalizing fuel rest with
  | @string body text hbody =>
    obtain ⟨fuel, rfl⟩ : ∃ n, fuel = n + 1 := Nat.exists_eq_add_one.mpr (by omega)
    simp [Part.read, readValue, stringBody, hbody.stringFrom]
  | scalar hw =>
    obtain ⟨fuel, rfl⟩ : ∃ n, fuel = n + 1 := Nat.exists_eq_add_one.mpr (by omega)
    exact hw.readValue hrest fuel
  | emptyArray hgap =>
    obtain ⟨fuel, rfl⟩ : ∃ n, fuel = n + 1 := Nat.exists_eq_add_one.mpr (by omega)
    have hskip : skipSpace _ = CodePoint.ofChar ']' :: rest :=
      hgap.skipSpace_mark (by decide) rest
    simpa [Part.read] using readValue_bracket hskip fuel
  | @array gap w v hgap hw ih =>
    obtain ⟨fuel, rfl⟩ : ∃ n, fuel = n + 1 := Nat.exists_eq_add_one.mpr (by omega)
    simp only [List.length_cons, List.length_append] at hfuel
    have hitems : readItems fuel [] (w ++ rest) = .ok (v, rest) :=
      ih (by omega) hrest hw.length_pos
    obtain ⟨c, tail, hcons, -, hc, -⟩ := hw.starts
    have hskip : skipSpace (gap ++ (w ++ rest)) = c :: (tail ++ rest) := by
      rw [hgap.skipSpace_append, hw.skipSpace_append, hcons, List.cons_append]
    have hread := readValue_bracket hskip fuel
    rw [if_neg hc] at hread
    rw [hcons, List.cons_append] at hitems
    simpa [Part.read] using hread.trans hitems
  | emptyObject hgap =>
    obtain ⟨fuel, rfl⟩ : ∃ n, fuel = n + 1 := Nat.exists_eq_add_one.mpr (by omega)
    have hskip : skipSpace _ = CodePoint.ofChar '}' :: rest :=
      hgap.skipSpace_mark (by decide) rest
    simpa [Part.read] using readValue_brace hskip fuel
  | @object gap w v hgap hw ih =>
    obtain ⟨fuel, rfl⟩ : ∃ n, fuel = n + 1 := Nat.exists_eq_add_one.mpr (by omega)
    simp only [List.length_cons, List.length_append] at hfuel
    have hmembers : readMembers fuel [] (w ++ rest) = .ok (v, rest) :=
      ih (by omega) hrest hw.length_pos
    obtain ⟨c, tail, hcons, -, -, hc⟩ := hw.starts
    have hskip : skipSpace (gap ++ (w ++ rest)) = c :: (tail ++ rest) := by
      rw [hgap.skipSpace_append, hw.skipSpace_append, hcons, List.cons_append]
    have hread := readValue_brace hskip fuel
    rw [if_neg hc] at hread
    rw [hcons, List.cons_append] at hmembers
    simpa [Part.read] using hread.trans hmembers
  | @lastItem done w gap v hw hgap ih =>
    obtain ⟨fuel, rfl⟩ : ∃ n, fuel = n + 1 := Nat.exists_eq_add_one.mpr (by omega)
    simp only [List.length_append, List.length_cons, List.length_nil] at hfuel
    have hvalue : readValue fuel (w ++ (gap ++ CodePoint.ofChar ']' :: rest)) = .ok (v, _) :=
      ih (by omega) (hgap.endsWord_mark _ (by decide) rest) hw.length_pos
    have hclose : skipSpace _ = CodePoint.ofChar ']' :: rest :=
      hgap.skipSpace_mark (by decide) rest
    simp [Part.read, readItems, hvalue, hclose]
  | @item done w gap gap' more v u hw hgap hgap' hmore ih ihmore =>
    obtain ⟨fuel, rfl⟩ : ∃ n, fuel = n + 1 := Nat.exists_eq_add_one.mpr (by omega)
    simp only [List.length_append, List.length_cons] at hfuel
    have hvalue : readValue fuel (w ++ (gap ++ CodePoint.ofChar ',' :: (gap' ++ (more ++ rest)))) =
        .ok (v, _) := ih (by omega) (hgap.endsWord_mark _ (by decide) _) hw.length_pos
    have hcomma : skipSpace _ = CodePoint.ofChar ',' :: (gap' ++ (more ++ rest)) :=
      hgap.skipSpace_mark (by decide) _
    have hskip := (hgap'.skipSpace_append (more ++ rest)).trans (hmore.skipSpace_append rest)
    have hitems : readItems fuel (v :: done) (more ++ rest) = .ok (u, rest) :=
      ihmore (by omega) hrest hmore.length_pos
    have hother : CodePoint.ofChar ',' ≠ CodePoint.ofChar ']' := by decide
    simp [Part.read, readItems, hvalue, hcomma, hother, hskip, hitems]
  | @lastMember done body key before after w gap v hkey hbefore hafter hw hgap ih =>
    obtain ⟨fuel, rfl⟩ : ∃ n, fuel = n + 1 := Nat.exists_eq_add_one.mpr (by omega)
    simp only [List.length_append, List.length_cons] at hfuel
    have hcolon : skipSpace _ = CodePoint.ofChar ':' ::
        (after ++ (w ++ (gap ++ CodePoint.ofChar '}' :: rest))) :=
      hbefore.skipSpace_mark (by decide) _
    have hskip := (hafter.skipSpace_append _).trans
      (hw.skipSpace_append (gap ++ CodePoint.ofChar '}' :: rest))
    have hvalue : readValue fuel (w ++ (gap ++ CodePoint.ofChar '}' :: rest)) = .ok (v, _) :=
      ih (by omega) (hgap.endsWord_mark _ (by decide) rest) hw.length_pos
    have hclose : skipSpace _ = CodePoint.ofChar '}' :: rest :=
      hgap.skipSpace_mark (by decide) rest
    simp [Part.read, readMembers, stringBody, hkey.stringFrom, hcolon, hskip, hvalue, hclose]
  | @member done body key before after w gap gap' more v u hkey hbefore hafter hw hgap hgap' hmore
      ih ihmore =>
    obtain ⟨fuel, rfl⟩ : ∃ n, fuel = n + 1 := Nat.exists_eq_add_one.mpr (by omega)
    simp only [List.length_append, List.length_cons] at hfuel
    have hcolon : skipSpace _ = CodePoint.ofChar ':' ::
        (after ++ (w ++ (gap ++ CodePoint.ofChar ',' :: (gap' ++ (more ++ rest))))) :=
      hbefore.skipSpace_mark (by decide) _
    have hskip := (hafter.skipSpace_append _).trans
      (hw.skipSpace_append (gap ++ CodePoint.ofChar ',' :: (gap' ++ (more ++ rest))))
    have hvalue : readValue fuel (w ++ (gap ++ CodePoint.ofChar ',' :: (gap' ++ (more ++ rest)))) =
        .ok (v, _) := ih (by omega) (hgap.endsWord_mark _ (by decide) _) hw.length_pos
    have hcomma : skipSpace _ = CodePoint.ofChar ',' :: (gap' ++ (more ++ rest)) :=
      hgap.skipSpace_mark (by decide) _
    have hskip' := (hgap'.skipSpace_append (more ++ rest)).trans (hmore.skipSpace_append rest)
    have hmembers : readMembers fuel (insertMember key v done) (more ++ rest) = .ok (u, rest) :=
      ihmore (by omega) hrest hmore.length_pos
    have hother : CodePoint.ofChar ',' ≠ CodePoint.ofChar '}' := by decide
    simp [Part.read, readMembers, stringBody, hkey.stringFrom, hcolon, hskip, hvalue, hcomma,
      hother, hskip', hmembers]

/-! Whole texts -/

/-- A text with nothing but space around it. -/
def Padded (part : Part) (s : Text) (v : Value) : Prop :=
  ∃ before w after, s = before ++ (w ++ after) ∧ IsGap before ∧ IsGap after ∧ Denotes part w v

theorem skipSpace_eq_nil_iff {s : Text} : skipSpace s = [] ↔ IsGap s := by
  simp only [skipSpace, IsGap, List.dropWhile_eq_nil_iff]

theorem Padded.head?_ne {part : Part} {s : Text} {v : Value} (h : Padded part s v) {c : CodePoint}
    (hspace : isSpace c = false) (hedge : isEdge c = false) : s.head? ≠ some c := by
  obtain ⟨before, w, after, rfl, hbefore, -, hw⟩ := h
  intro hhead
  cases before with
  | nil =>
    obtain ⟨d, tail, rfl, hd, -⟩ := hw.starts
    obtain rfl : d = c := by simpa using hhead
    rw [hedge] at hd
    cases hd
  | cons d before =>
    obtain rfl : d = c := by simpa using hhead
    rw [hbefore d List.mem_cons_self] at hspace
    cases hspace

theorem read_eq_ok_iff {s : Text} {v : Value} : read s = .ok v ↔ Padded .value s v := by
  constructor
  · intro h
    rw [read] at h
    split at h
    · cases h
    dsimp only at h
    split at h
    · cases h
    rename_i v' rest hvalue
    split at h
    case h_2 => cases h
    rename_i hrest
    obtain rfl : v' = v := Except.ok.inj h
    have hgap : IsGap rest := skipSpace_eq_nil_iff.mp hrest
    have hends : EndsWord (rest ++ []) := hgap.endsWord_append endsWord_nil
    rw [List.append_nil] at hends
    obtain ⟨w, hskip, hw⟩ := (readsDenoted _).value hvalue hends
    obtain ⟨before, hbefore, hs⟩ := exists_gap hskip
    exact ⟨before, w, rest, hs, hbefore, hgap, hw⟩
  · intro h
    have hmark : s.head? ≠ some CodePoint.byteOrderMark := h.head?_ne (by decide) (by decide)
    obtain ⟨before, w, after, rfl, hbefore, hafter, hw⟩ := h
    have hskip := (hbefore.skipSpace_append (w ++ after)).trans (hw.skipSpace_append after)
    have hends : EndsWord (after ++ []) := hafter.endsWord_append endsWord_nil
    rw [List.append_nil] at hends
    have hfuel : w.length ≤ fuelFor (w ++ after) := by
      rw [fuelFor, List.length_append]
      omega
    have hread : readValue (fuelFor (w ++ after)) (w ++ after) = .ok (v, after) :=
      hw.read hfuel hends
    have hnothing : skipSpace after = [] := skipSpace_eq_nil_iff.mpr hafter
    simp only [read, if_neg hmark, hskip, hread, hnothing]

/-! Texts of objects -/

theorem Denotes.items_value {done : List Value} {w : Text} {v : Value}
    (h : Denotes (.items done) w v) : ∃ items, v = .arr items := by
  generalize hpart : Part.items done = part at h
  induction h generalizing done with
  | lastItem => exact ⟨_, rfl⟩
  | item _ _ _ _ _ ihmore => exact ihmore rfl
  | _ => cases hpart

theorem Denotes.starts_obj {w : Text} {members : List (Text × Value)}
    (h : Denotes .value w (.obj members)) : ∃ tail, w = CodePoint.ofChar '{' :: tail := by
  generalize hv : Value.obj members = v at h
  cases h with
  | string | emptyArray => cases hv
  | scalar hw => rcases hw.value_cases with rfl | ⟨b, rfl⟩ | ⟨n, rfl⟩ | ⟨x, rfl⟩ <;> cases hv
  | array _ h =>
    obtain ⟨items, rfl⟩ := h.items_value
    cases hv
  | emptyObject | object => exact ⟨_, rfl⟩

/-- The text of an object begins with space or with its brace. -/
theorem starts_of_read_obj {s : Text} {members : List (Text × Value)}
    (h : read s = .ok (.obj members)) :
    ∃ c rest, s = c :: rest ∧ (isSpace c = true ∨ c = CodePoint.ofChar '{') := by
  obtain ⟨before, w, after, rfl, hbefore, -, hw⟩ := read_eq_ok_iff.mp h
  cases before with
  | nil =>
    obtain ⟨tail, rfl⟩ := hw.starts_obj
    exact ⟨_, _, rfl, .inr rfl⟩
  | cons c before => exact ⟨c, _, rfl, .inl (hbefore c List.mem_cons_self)⟩

end NodeClient.Json
