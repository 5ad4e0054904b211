import NodeClient.Proofs.Json.Written

/-! What a text without surrogates is read as. Only an escape can make a surrogate then, and the
reader joins two that form a pair, so no string is left in which writing would join them. -/

namespace NodeClient.Json

/-! Strings -/

theorem lt_of_unit? {d₁ d₂ d₃ d₄ : CodePoint} {n : Nat} (h : unit? d₁ d₂ d₃ d₄ = some n) :
    n < 0x10000 := by
  simp only [unit?, Option.bind_eq_bind, Option.bind_eq_some_iff, Option.pure_def,
    Option.some.injEq] at h
  obtain ⟨a, ha, b, hb, c, hc, d, hd, rfl⟩ := h
  have := CodePoint.hexValue?_lt ha
  have := CodePoint.hexValue?_lt hb
  have := CodePoint.hexValue?_lt hc
  have := CodePoint.hexValue?_lt hd
  omega

theorem val_unitChar {n : Nat} (h : n < 0x110000) : (unitChar n).val = n := by
  simp [unitChar, CodePoint.ofNat?, h]

theorem le_val_pairChar {high low : Nat} (hhigh : isHighUnit high = true)
    (hlow : isLowUnit low = true) : 0x10000 ≤ (pairChar high low).val := by
  simp only [isHighUnit, isLowUnit, Bool.and_eq_true, decide_eq_true_eq] at hhigh hlow
  rw [pairChar, val_unitChar (by omega)]
  omega

theorem isSurrogate_of_unescaped? {e c : CodePoint} (h : unescaped? e = some c) :
    c.isSurrogate = false := by
  have hsmall : c.val < 0x80 := by
    unfold unescaped? at h
    simp only [CodePoint.ofNat?] at h
    grind [CodePoint.quote, CodePoint.backslash]
  simp only [CodePoint.isSurrogate, Bool.and_eq_false_iff, decide_eq_false_iff_not]
  omega

theorem isSurrogate_iff {c : CodePoint} :
    c.isSurrogate = true ↔ c.isHighSurrogate = true ∨ c.isLowSurrogate = true := by
  simp only [CodePoint.isSurrogate, CodePoint.isHighSurrogate, CodePoint.isLowSurrogate,
    Bool.and_eq_true, decide_eq_true_eq]
  omega

theorem isSurrogate_pairChar {high low : Nat} (hhigh : isHighUnit high = true)
    (hlow : isLowUnit low = true) : (pairChar high low).isSurrogate = false := by
  have := le_val_pairChar hhigh hlow
  simp only [CodePoint.isSurrogate, Bool.and_eq_false_iff, decide_eq_false_iff_not]
  omega

namespace Spells

variable {body text : Text}

/-- Without raw surrogates, only an escape spells a low one. -/
theorem startsLow (h : Spells body text) (hbody : ∀ c ∈ body, c.isSurrogate = false)
    {c : CodePoint} (hc : c ∈ text.head?) (hlow : c.isLowSurrogate = true) : StartsLow body := by
  have hsurrogate := isSurrogate_iff.mpr (.inr hlow)
  cases h with
  | nil => cases hc
  | plain =>
    obtain rfl := Option.some.inj hc
    rw [hbody _ List.mem_cons_self] at hsurrogate
    cases hsurrogate
  | short he =>
    obtain rfl := Option.some.inj hc
    rw [isSurrogate_of_unescaped? he] at hsurrogate
    cases hsurrogate
  | @unit d₁ d₂ d₃ d₄ n body text hn =>
    obtain rfl := Option.some.inj hc
    have hless := lt_of_unit? hn
    have hval : (unitChar n).val = n := val_unitChar (by omega)
    rw [CodePoint.isLowSurrogate, hval] at hlow
    exact ⟨d₁, d₂, d₃, d₄, n, body, rfl, hn, hlow⟩
  | pair _ _ hfirst hsecond =>
    obtain rfl := Option.some.inj hc
    rw [isSurrogate_pairChar hfirst hsecond] at hsurrogate
    cases hsurrogate

theorem unpaired (h : Spells body text) (hbody : ∀ c ∈ body, c.isSurrogate = false) :
    text.Unpaired := by
  -- a first code point that is no surrogate can begin no pair
  have hcons {c : CodePoint} {text : Text} (hc : c.isSurrogate = false) (htext : text.Unpaired) :
      Text.Unpaired (c :: text) := by
    refine List.isChain_cons.mpr ⟨?_, htext⟩
    rintro d - ⟨hhigh, -⟩
    rw [isSurrogate_iff.mpr (.inl hhigh)] at hc
    cases hc
  induction h with
  | nil => exact .nil
  | plain _ _ _ _ ih =>
    exact hcons (hbody _ List.mem_cons_self) (ih fun c hc => hbody c (by simp [hc]))
  | short he _ ih =>
    exact hcons (isSurrogate_of_unescaped? he) (ih fun c hc => hbody c (by simp [hc]))
  | @unit _ _ _ _ n body text hn halone h ih =>
    have hrest : ∀ c ∈ body, c.isSurrogate = false := fun c hc => hbody c (by simp [hc])
    refine List.isChain_cons.mpr ⟨?_, ih hrest⟩
    rintro d hd ⟨hhigh, hlow⟩
    have hless := lt_of_unit? hn
    have hval : (unitChar n).val = n := val_unitChar (by omega)
    rw [CodePoint.isHighSurrogate, hval] at hhigh
    exact halone hhigh (h.startsLow hrest hd hlow)
  | pair _ _ hfirst hsecond _ ih =>
    exact hcons (isSurrogate_pairChar hfirst hsecond) (ih fun c hc => hbody c (by simp [hc]))

end Spells

/-! Members -/

section Members

variable {key : Text} {v : Value} {members : List (Text × Value)}

theorem mem_insertMember {member : Text × Value} (h : member ∈ insertMember key v members) :
    member = (key, v) ∨ member ∈ members := by
  induction members with
  | nil => exact .inl (List.mem_singleton.mp h)
  | cons first rest ih =>
    obtain ⟨k, w⟩ := first
    rw [insertMember] at h
    split at h
    · rename_i hk
      subst hk
      exact (List.mem_cons.mp h).imp_right (List.mem_cons_of_mem _)
    · rcases List.mem_cons.mp h with rfl | hrest
      · exact .inr List.mem_cons_self
      · exact (ih hrest).imp_right (List.mem_cons_of_mem _)

theorem nodup_keys_insertMember (h : (members.map Prod.fst).Nodup) :
    ((insertMember key v members).map Prod.fst).Nodup := by
  induction members with
  | nil => exact List.nodup_cons.mpr ⟨List.not_mem_nil, List.nodup_nil⟩
  | cons first rest ih =>
    obtain ⟨k, w⟩ := first
    rw [List.map_cons, List.nodup_cons] at h
    rw [insertMember]
    split
    · exact List.nodup_cons.mpr h
    · rename_i hk
      refine List.nodup_cons.mpr ⟨?_, ih h.2⟩
      intro hmem
      obtain ⟨member, hmember, hkey⟩ := List.mem_map.mp hmem
      rcases mem_insertMember hmember with rfl | hrest
      · exact hk hkey.symm
      · exact h.1 (hkey ▸ List.mem_map_of_mem hrest)

end Members

/-! Values -/

/-- No number inside has a fraction or an exponent, is infinite or is NaN. -/
inductive Value.Fractionless : Value → Prop where
  | null : Fractionless .null
  | bool (b : Bool) : Fractionless (.bool b)
  | int (n : Int) : Fractionless (.int n)
  | str (s : Text) : Fractionless (.str s)
  | arr {items : List Value} (h : ∀ v ∈ items, Fractionless v) : Fractionless (.arr items)
  | obj {members : List (Text × Value)} (h : ∀ member ∈ members, Fractionless member.2) :
      Fractionless (.obj members)

/-- Written without loss but for fractions. -/
inductive Value.Legible : Value → Prop where
  | null : Legible .null
  | bool (b : Bool) : Legible (.bool b)
  | int {n : Int} (h : WithinDigits n) : Legible (.int n)
  | float (x : Binary64) : Legible (.float x)
  | str {s : Text} (h : s.Unpaired) : Legible (.str s)
  | arr {items : List Value} (h : ∀ v ∈ items, Legible v) : Legible (.arr items)
  | obj {members : List (Text × Value)} (hkeys : (members.map Prod.fst).Nodup)
      (hnames : ∀ member ∈ members, member.1.Unpaired)
      (h : ∀ member ∈ members, Legible member.2) : Legible (.obj members)

theorem Value.Legible.portable {v : Value} (h : v.Legible) (hv : v.Fractionless) : v.Portable := by
  induction h with
  | null => exact .null
  | bool b => exact .bool b
  | int hn => exact .int hn
  | float => cases hv
  | str hs => exact .str hs
  | arr _ ih =>
    cases hv with
    | arr hitems => exact .arr fun v hmem => ih v hmem (hitems v hmem)
  | obj hkeys hnames _ ih =>
    cases hv with
    | obj hmembers =>
      exact .obj hkeys hnames fun member hmem => ih member hmem (hmembers member hmem)

theorem Scalar.legible {w : Text} {v : Value} (h : Scalar w v) : v.Legible := by
  rcases h.value_cases with rfl | ⟨b, rfl⟩ | ⟨n, rfl⟩ | ⟨x, rfl⟩
  · exact .null
  · exact .bool b
  · rcases h with hword | ⟨-, hnumber⟩
    · obtain ⟨word, hmem, -⟩ := word?_cases hword
      simp [words] at hmem
    · exact .int (Value.writable_int.mp (writable_number? hnumber))
  · exact .float x

/-- What was read before is legible. -/
def Part.Legible : Part → Prop
  | .value => True
  | .items done => ∀ v ∈ done, v.Legible
  | .members done => (Value.obj done).Legible

theorem Part.Legible.insertMember {key : Text} {v : Value} {done : List (Text × Value)}
    (h : (Part.members done).Legible) (hkey : key.Unpaired) (hv : v.Legible) :
    (Part.members (insertMember key v done)).Legible := by
  cases h with
  | obj hkeys hnames hvalues =>
    refine .obj (nodup_keys_insertMember hkeys) ?_ ?_
    · intro member hmem
      rcases mem_insertMember hmem with rfl | hdone
      · exact hkey
      · exact hnames member hdone
    · intro member hmem
      rcases mem_insertMember hmem with rfl | hdone
      · exact hv
      · exact hvalues member hdone

theorem Denotes.legible {part : Part} {w : Text} {v : Value} (h : Denotes part w v)
    (hw : ∀ c ∈ w, c.isSurrogate = false) (hpart : part.Legible) : v.Legible := by
  induction h with
  | string h => exact .str (h.unpaired fun c hc => hw c (by simp [hc]))
  | scalar h => exact h.legible
  | emptyArray => exact .arr (by simp)
  | emptyObject => exact .obj List.nodup_nil (by simp) (by simp)
  | array _ _ ih => exact ih (fun c hc => hw c (by simp [hc])) (by simp [Part.Legible])
  | object _ _ ih =>
    exact ih (fun c hc => hw c (by simp [hc])) (.obj List.nodup_nil (by simp) (by simp))
  | lastItem _ _ ih =>
    have hv := ih (fun c hc => hw c (by simp [hc])) trivial
    refine .arr fun u hu => ?_
    rcases List.mem_cons.mp (List.mem_reverse.mp hu) with rfl | hdone
    · exact hv
    · exact hpart u hdone
  | item _ _ _ _ ih ihmore =>
    have hv := ih (fun c hc => hw c (by simp [hc])) trivial
    exact ihmore (fun c hc => hw c (by simp [hc])) (List.forall_mem_cons.mpr ⟨hv, hpart⟩)
  | lastMember hkey _ _ _ _ ih =>
    have hv := ih (fun c hc => hw c (by simp [hc])) trivial
    exact hpart.insertMember (hkey.unpaired fun c hc => hw c (by simp [hc])) hv
  | member hkey _ _ _ _ _ _ ih ihmore =>
    have hv := ih (fun c hc => hw c (by simp [hc])) trivial
    have hdone := hpart.insertMember (hkey.unpaired fun c hc => hw c (by simp [hc])) hv
    exact ihmore (fun c hc => hw c (by simp [hc])) hdone

theorem legible_of_read {s : Text} {v : Value} (h : read s = .ok v)
    (hs : s.hasSurrogate = false) : v.Legible := by
  obtain ⟨before, w, after, rfl, -, -, hw⟩ := read_eq_ok_iff.mp h
  rw [Text.hasSurrogate, List.any_eq_false] at hs
  exact hw.legible (fun c hc => Bool.eq_false_iff.mpr (hs c (by simp [hc]))) trivial

end NodeClient.Json
