import NodeClient.Json.Writer

/-! JSON text is printable ASCII and never empty, whatever value is written; only a layout adds other
marks. -/

namespace NodeClient

def CodePoint.IsPlain (c : CodePoint) : Prop := 0x20 ≤ c.val ∧ c.val < 0x7F

instance : DecidablePred CodePoint.IsPlain := fun c =>
  inferInstanceAs (Decidable (0x20 ≤ c.val ∧ c.val < 0x7F))

namespace Text

def Plain (s : Text) : Prop := ∀ c ∈ s, c.IsPlain

instance (s : Text) : Decidable s.Plain := inferInstanceAs (Decidable (∀ c ∈ s, c.IsPlain))

@[simp] theorem plain_nil : Plain [] := by simp [Plain]

@[simp] theorem plain_cons {c : CodePoint} {s : Text} : Plain (c :: s) ↔ c.IsPlain ∧ Plain s := by
  simp [Plain]

@[simp] theorem plain_append {s t : Text} : Plain (s ++ t) ↔ Plain s ∧ Plain t := by
  simp [Plain, or_imp, forall_and]

theorem Plain.of_subset {s t : Text} (ht : Plain t) (h : ∀ c ∈ s, c ∈ t) : Plain s :=
  fun c hc => ht c (h c hc)

theorem Plain.not_lineMark {s : Text} (h : Plain s) : ∀ c ∈ s, c.isLineMark = false := by
  intro c hc
  have hlow := (h c hc).1
  rw [CodePoint.isLineMark, Bool.or_eq_false_iff, beq_eq_false_iff_ne, beq_eq_false_iff_ne]
  constructor <;> rintro rfl <;> revert hlow <;> decide

theorem Plain.hasSurrogate_eq_false {s : Text} (h : Plain s) : s.hasSurrogate = false := by
  rw [hasSurrogate, List.any_eq_false]
  intro c hc
  have hhigh := (h c hc).2
  simp only [CodePoint.isSurrogate, Bool.and_eq_true, decide_eq_true_eq]
  omega

theorem plain_ofNat (n : Nat) : Plain (ofNat n) := by
  intro c hc
  obtain ⟨d, hd, rfl⟩ := List.mem_map.mp hc
  have hdigit := Nat.isDigit_of_mem_toDigits (by decide) (by decide) hd
  simp only [Char.isDigit, Bool.and_eq_true, decide_eq_true_eq] at hdigit
  exact ⟨Nat.le_trans (by decide) hdigit.1, Nat.lt_of_le_of_lt hdigit.2 (by decide)⟩

theorem plain_ofInt (n : Int) : Plain (ofInt n) := by
  unfold ofInt
  split
  · exact plain_cons.mpr ⟨by decide, plain_ofNat _⟩
  · exact plain_ofNat _

theorem ofInt_ne_nil (n : Int) : ofInt n ≠ [] := by
  unfold ofInt
  split
  · exact List.cons_ne_nil _ _
  · exact fun h => Nat.toDigits_ne_nil (List.map_eq_nil_iff.mp h)

theorem plain_hex (width n : Nat) : Plain (hex width n) := by
  induction width generalizing n with
  | zero => exact plain_nil
  | succ width ih =>
    have hdigit : ∀ d < 16, (CodePoint.hexDigit d).IsPlain := by decide
    rw [hex, plain_append, plain_cons]
    exact ⟨ih _, hdigit _ (Nat.mod_lt n (by decide)), plain_nil⟩

end Text

namespace Binary64

open Text

theorem plain_zeros (n : Nat) : Plain (zeros n) := by
  intro c hc
  rw [List.eq_of_mem_replicate hc]
  decide

theorem plain_positional {digits : Text} (h : Plain digits) (point : Int) :
    Plain (positional digits point) := by
  have htake : Plain (digits.take point.toNat) := h.of_subset fun _ => List.mem_of_mem_take
  have hdrop : Plain (digits.drop point.toNat) := h.of_subset fun _ => List.mem_of_mem_drop
  unfold positional
  split
  · exact plain_append.mpr ⟨plain_append.mpr ⟨by decide, plain_zeros _⟩, h⟩
  · split
    · exact plain_append.mpr ⟨plain_append.mpr ⟨h, plain_zeros _⟩, by decide⟩
    · exact plain_append.mpr ⟨plain_append.mpr ⟨htake, by decide⟩, hdrop⟩

theorem plain_scientific {digits : Text} (h : Plain digits) (exponent : Int) :
    Plain (scientific digits exponent) := by
  have hsize := plain_ofNat exponent.natAbs
  simp only [scientific, plain_append]
  refine ⟨⟨⟨?_, by decide⟩, ?_⟩, ?_⟩
  · split
    · exact plain_nil
    · exact h
    · exact plain_cons.mpr ⟨(plain_cons.mp h).1, plain_cons.mpr ⟨by decide, (plain_cons.mp h).2⟩⟩
  · split <;> decide
  · split
    · exact plain_cons.mpr ⟨by decide, hsize⟩
    · exact hsize

theorem plain_magnitudeText (mantissa : Nat) (exponent : Int) :
    Plain (magnitudeText mantissa exponent) := by
  have hshown (n : Nat) : Plain (dropEnd (· == CodePoint.ofChar '0') (ofNat n)) := by
    refine (plain_ofNat n).of_subset fun c hc => ?_
    exact List.mem_reverse.mp ((List.dropWhile_sublist _).subset (List.mem_reverse.mp hc))
  simp only [magnitudeText]
  split
  · decide
  · split
    · exact plain_positional (hshown _) _
    · exact plain_scientific (hshown _) _

theorem plain_written {words : NumberWords} (hnan : Plain words.nan)
    (hinfinity : Plain words.infinity) (x : Binary64) : Plain (x.written words) := by
  cases x with
  | nan => exact hnan
  | infinite negative =>
    simp only [written]
    split
    · exact plain_append.mpr ⟨by decide, hinfinity⟩
    · exact hinfinity
  | finite negative m e =>
    simp only [written]
    split
    · exact plain_append.mpr ⟨by decide, plain_magnitudeText m e⟩
    · exact plain_magnitudeText m e

theorem magnitudeText_ne_nil (mantissa : Nat) (exponent : Int) :
    magnitudeText mantissa exponent ≠ [] := by
  -- a point is always written, or the mark of an exponent
  have hpoint : (".0" : Text) ≠ [] ∧ ("." : Text) ≠ [] ∧ ("e" : Text) ≠ [] := by decide
  simp only [magnitudeText, positional, scientific]
  split
  · decide
  · split
    · split
      · exact List.append_ne_nil_of_left_ne_nil (List.cons_ne_nil _ _) _
      · split
        · exact List.append_ne_nil_of_right_ne_nil _ hpoint.1
        · exact List.append_ne_nil_of_left_ne_nil
            (List.append_ne_nil_of_right_ne_nil _ hpoint.2.1) _
    · rw [List.append_assoc, List.append_assoc]
      exact List.append_ne_nil_of_right_ne_nil _
        (List.append_ne_nil_of_left_ne_nil hpoint.2.2 _)

theorem written_ne_nil {words : NumberWords} (hnan : words.nan ≠ [])
    (hinfinity : words.infinity ≠ []) (x : Binary64) : x.written words ≠ [] := by
  cases x with
  | nan => exact hnan
  | infinite negative =>
    simp only [written]
    split
    · exact List.append_ne_nil_of_right_ne_nil _ hinfinity
    · exact hinfinity
  | finite negative m e =>
    simp only [written]
    split
    · exact List.append_ne_nil_of_right_ne_nil _ (magnitudeText_ne_nil m e)
    · exact magnitudeText_ne_nil m e

end Binary64

namespace Json

open Text

theorem plain_escaped (c : CodePoint) : Plain (escaped c) := by
  have hshort : ∀ p ∈ shortEscapes, p.2.IsPlain := by decide
  have hunit (n : Nat) : Plain (unitEscape n) :=
    plain_cons.mpr ⟨by decide, plain_cons.mpr ⟨by decide, plain_hex _ _⟩⟩
  unfold escaped
  split
  · rename_i hquote
    simp only [Bool.or_eq_true, decide_eq_true_eq] at hquote
    obtain rfl | rfl := hquote <;> decide
  · split
    · rename_i letter hletter
      obtain ⟨before, after, hsplit, -⟩ := List.lookup_eq_some_iff.mp hletter
      have hmem : (c.val, letter) ∈ shortEscapes := by simp [hsplit]
      exact plain_cons.mpr ⟨by decide, plain_cons.mpr ⟨hshort _ hmem, plain_nil⟩⟩
    · split
      · rename_i hplain
        simp only [Bool.and_eq_true, decide_eq_true_eq] at hplain
        exact plain_cons.mpr ⟨hplain, plain_nil⟩
      · split
        · exact hunit _
        · exact plain_append.mpr ⟨hunit _, hunit _⟩

theorem plain_stringText (s : Text) : Plain (stringText s) := by
  have hbody : Plain (s.flatMap escaped) := by
    intro c hc
    obtain ⟨d, -, hd⟩ := List.mem_flatMap.mp hc
    exact plain_escaped d c hd
  exact plain_cons.mpr ⟨by decide, plain_append.mpr ⟨hbody, by decide⟩⟩

/-- A code point that a value or its layout may put into JSON text. -/
def Layout.Writes (layout : Layout) (c : CodePoint) : Prop :=
  c.IsPlain ∨ c ∈ layout.afterColon ∨ ∃ depth, c ∈ layout.lineAt depth

theorem Layout.writes_of_plain (layout : Layout) {s : Text} (h : Plain s) :
    ∀ c ∈ s, layout.Writes c := fun c hc => .inl (h c hc)

theorem Layout.writes_lineAt (layout : Layout) (depth : Nat) :
    ∀ c ∈ layout.lineAt depth, layout.Writes c := fun _ hc => .inr (.inr ⟨depth, hc⟩)

theorem Layout.writes_afterColon (layout : Layout) :
    ∀ c ∈ layout.afterColon, layout.Writes c := fun _ hc => .inr (.inl hc)

namespace Value

mutual

theorem writes_write (layout : Layout) :
    (v : Value) → ∀ depth, ∀ c ∈ v.write layout depth, layout.Writes c
  | .null, _ => layout.writes_of_plain (by rw [write]; decide)
  | .bool true, _ => layout.writes_of_plain (by rw [write]; decide)
  | .bool false, _ => layout.writes_of_plain (by rw [write]; decide)
  | .int n, _ => layout.writes_of_plain (plain_ofInt n)
  | .float x, _ => layout.writes_of_plain (Binary64.plain_written (by decide) (by decide) x)
  | .str s, _ => layout.writes_of_plain (plain_stringText s)
  | .arr [], _ => layout.writes_of_plain (by rw [write]; decide)
  | .obj [], _ => layout.writes_of_plain (by rw [write]; decide)
  | .arr (v :: rest), depth => by
    have hline := layout.writes_lineAt
    have hv := writes_write layout v (depth + 1)
    have hrest := writes_writeItems layout rest (depth + 1)
    have hopen : ∀ c ∈ [CodePoint.ofChar '[', CodePoint.ofChar ']'], layout.Writes c :=
      layout.writes_of_plain (by decide)
    -- every code point comes from an item, a bracket or the layout
    simp only [write, List.mem_append, List.mem_cons, List.not_mem_nil, or_false] at hopen ⊢
    grind
  | .obj ((k, v) :: rest), depth => by
    have hline := layout.writes_lineAt
    have hcolon := layout.writes_afterColon
    have hkey := layout.writes_of_plain (plain_stringText k)
    have hv := writes_write layout v (depth + 1)
    have hrest := writes_writeMembers layout rest (depth + 1)
    have hmark : ∀ c ∈ colon, layout.Writes c := layout.writes_of_plain (by decide)
    have hopen : ∀ c ∈ [CodePoint.ofChar '{', CodePoint.ofChar '}'], layout.Writes c :=
      layout.writes_of_plain (by decide)
    simp only [write, List.mem_append, List.mem_cons, List.not_mem_nil, or_false] at hopen ⊢
    grind

theorem writes_writeItems (layout : Layout) :
    (items : List Value) → ∀ depth, ∀ c ∈ writeItems layout depth items, layout.Writes c
  | [], _ => by simp [writeItems]
  | v :: rest, depth => by
    have hline := layout.writes_lineAt depth
    have hv := writes_write layout v depth
    have hrest := writes_writeItems layout rest depth
    have hmark : ∀ c ∈ comma, layout.Writes c := layout.writes_of_plain (by decide)
    simp only [writeItems, List.mem_append]
    grind

theorem writes_writeMembers (layout : Layout) :
    (members : List (Text × Value)) →
      ∀ depth, ∀ c ∈ writeMembers layout depth members, layout.Writes c
  | [], _ => by simp [writeMembers]
  | (k, v) :: rest, depth => by
    have hline := layout.writes_lineAt depth
    have hcolon := layout.writes_afterColon
    have hkey := layout.writes_of_plain (plain_stringText k)
    have hv := writes_write layout v depth
    have hrest := writes_writeMembers layout rest depth
    have hmarks : ∀ c ∈ comma ++ colon, layout.Writes c := layout.writes_of_plain (by decide)
    simp only [writeMembers, List.mem_append] at hmarks ⊢
    grind

end

theorem plain_compact (v : Value) : Plain v.compact := by
  intro c hc
  obtain hplain | hafter | ⟨_, hline⟩ := writes_write compactLayout v 0 c hc
  · exact hplain
  · exact absurd hafter List.not_mem_nil
  · exact absurd hline List.not_mem_nil

theorem write_ne_nil (layout : Layout) (depth : Nat) (v : Value) : v.write layout depth ≠ [] := by
  cases v with
  | null =>
    rw [write]
    decide
  | bool b => cases b <;> rw [write] <;> decide
  | int n =>
    rw [write]
    exact ofInt_ne_nil n
  | float x =>
    rw [write]
    exact Binary64.written_ne_nil (by decide) (by decide) x
  | str s =>
    rw [write]
    exact List.cons_ne_nil _ _
  | arr items => cases items <;> rw [write] <;> exact List.cons_ne_nil _ _
  | obj members => cases members <;> rw [write] <;> exact List.cons_ne_nil _ _

theorem mem_indented {v : Value} {c : CodePoint} (h : c ∈ v.indented) :
    c.IsPlain ∨ c = CodePoint.newline := by
  have hafter : ∀ c ∈ indentedLayout.afterColon, c.IsPlain := by decide
  have hspace : (CodePoint.ofChar ' ').IsPlain := by decide
  obtain hplain | hcolon | ⟨depth, hline⟩ := writes_write indentedLayout v 0 c h
  · exact .inl hplain
  · exact .inl (hafter c hcolon)
  · obtain rfl | hblank := List.mem_cons.mp hline
    · exact .inr rfl
    · exact .inl (List.eq_of_mem_replicate hblank ▸ hspace)

theorem isAscii_of_mem_indented {v : Value} {c : CodePoint} (h : c ∈ v.indented) :
    c.isAscii = true := by
  obtain hplain | rfl := mem_indented h
  · exact decide_eq_true (Nat.lt_trans hplain.2 (by decide))
  · decide

theorem hasSurrogate_indented (v : Value) : v.indented.hasSurrogate = false := by
  rw [hasSurrogate, List.any_eq_false]
  intro c hc
  have hlow : c.val < 0x80 := of_decide_eq_true (isAscii_of_mem_indented hc)
  simp only [CodePoint.isSurrogate, Bool.and_eq_true, decide_eq_true_eq]
  omega

end Value

end Json

end NodeClient
