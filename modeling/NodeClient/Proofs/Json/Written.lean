import NodeClient.Proofs.Json.Digits
import NodeClient.Proofs.Json.Escaped
import NodeClient.Proofs.Json.Grammar
import NodeClient.Proofs.Number.Decimal

/-! Text that is written is read back as the value it was written for, whatever the layout puts
between the tokens. -/

namespace NodeClient.Json

/-! Integers -/

theorem isLetter_ofInt {n : Int} {c : CodePoint} (hc : c ∈ Text.ofInt n) : c.isLetter = false := by
  rcases mem_ofInt hc with rfl | hdigit
  · decide
  · rw [CodePoint.isDigit_iff] at hdigit
    simp only [CodePoint.isLetter, CodePoint.isUpper, CodePoint.isLower, Bool.or_eq_false_iff,
      Bool.and_eq_false_iff, decide_eq_false_iff_not]
    omega

theorem word?_ofInt (n : Int) : word? (Text.ofInt n) = none := by
  have hletter : ∀ entry ∈ words, entry.1.any CodePoint.isLetter = true := by decide
  rw [Option.eq_none_iff_forall_ne_some]
  rintro ⟨v, rest⟩ hword
  obtain ⟨w, hw, hn⟩ := word?_cases hword
  obtain ⟨c, hc, hisLetter⟩ := List.any_eq_true.mp (hletter _ hw)
  have hmem : c ∈ Text.ofInt n := hn ▸ List.mem_append_left rest hc
  rw [isLetter_ofInt hmem] at hisLetter
  cases hisLetter

theorem wholePart?_of_isDecimal {s : Text} (h : IsDecimal s) : wholePart? s = some (s, []) := by
  obtain ⟨hne, hdigits, hzero⟩ := h
  cases s with
  | nil => exact absurd rfl hne
  | cons c s =>
    rw [wholePart?]
    split
    · rename_i hc
      obtain rfl : s = [] := (List.cons.inj (hzero (congrArg some hc))).2
      rfl
    · rw [if_pos (hdigits c List.mem_cons_self), List.takeWhile_eq_self_iff.mpr hdigits,
        List.dropWhile_eq_nil_iff.mpr hdigits]

theorem leadingMinus_ofInt (n : Int) :
    leadingMinus (Text.ofInt n) = (decide (n < 0), Text.ofNat n.natAbs) := by
  unfold Text.ofInt
  split
  · rename_i hn
    simp [leadingMinus, hn]
  · rename_i hn
    obtain ⟨hne, hdigits, -⟩ := isDecimal_ofNat n.natAbs
    cases hs : Text.ofNat n.natAbs with
    | nil => exact absurd hs hne
    | cons c s =>
      have hc : c ≠ CodePoint.ofChar '-' := by
        rintro rfl
        exact absurd (hdigits _ (hs ▸ List.mem_cons_self)) (by decide)
      simp [leadingMinus, hc, hn]

theorem ofInt_inj {m n : Int} : Text.ofInt m = Text.ofInt n ↔ m = n := by
  refine ⟨fun h => ?_, congrArg Text.ofInt⟩
  have hparts := congrArg leadingMinus h
  rw [leadingMinus_ofInt, leadingMinus_ofInt] at hparts
  obtain ⟨hsign, hdigits⟩ := Prod.mk.inj hparts
  have habs : m.natAbs = n.natAbs := by
    rw [← Numeral.value_ofNat m.natAbs, hdigits, Numeral.value_ofNat]
  rw [decide_eq_decide] at hsign
  omega

theorem scalar_ofInt {n : Int} (h : WithinDigits n) : Scalar (Text.ofInt n) (.int n) := by
  have hvalue : (if decide (n < 0) = true then -(n.natAbs : Int) else n.natAbs) = n := by
    split <;> rename_i hn <;> simp only [decide_eq_true_eq] at hn <;> omega
  have hnatural : Numeral.natural? (Text.ofNat n.natAbs) = some n.natAbs :=
    Numeral.natural?_ofNat h
  refine .inr ⟨word?_ofInt n, ?_⟩
  rw [number?_eq, leadingMinus_ofInt, wholePart?_of_isDecimal (isDecimal_ofNat _), Option.map_some]
  simp only [numberFrom, fractionPart?, exponentPart?, hnatural, hvalue, Option.getD_none,
    Option.isNone_none, Bool.and_self, if_true]

/-! Values that are written without loss -/

/-- No fractions, only integers that can be written, and only strings that spell themselves. -/
inductive Value.Portable : Value → Prop where
  | null : Portable .null
  | bool (b : Bool) : Portable (.bool b)
  | int {n : Int} (h : WithinDigits n) : Portable (.int n)
  | str {s : Text} (h : s.Unpaired) : Portable (.str s)
  | arr {items : List Value} (h : ∀ v ∈ items, Portable v) : Portable (.arr items)
  | obj {members : List (Text × Value)} (hkeys : (members.map Prod.fst).Nodup)
      (hnames : ∀ member ∈ members, member.1.Unpaired)
      (h : ∀ member ∈ members, Portable member.2) : Portable (.obj members)

theorem Value.Portable.writable {v : Value} (h : v.Portable) : v.writable = true := by
  induction h with
  | null | bool | str => rfl
  | int h => exact writable_int.mpr h
  | arr _ ih => exact writableItems_iff.mpr ih
  | obj _ _ _ ih => exact writableMembers_iff.mpr ih

theorem insertMember_of_new {key : Text} {v : Value} {members : List (Text × Value)}
    (h : key ∉ members.map Prod.fst) : insertMember key v members = members ++ [(key, v)] := by
  induction members with
  | nil => rfl
  | cons member rest ih =>
    obtain ⟨k, w⟩ := member
    simp only [List.map_cons, List.mem_cons, not_or] at h
    rw [insertMember, if_neg (Ne.symm h.1), ih h.2, List.cons_append]

theorem notMem_of_nodup {key : Text} {v : Value} {done rest : List (Text × Value)}
    (h : ((done ++ (key, v) :: rest).map Prod.fst).Nodup) : key ∉ done.map Prod.fst := by
  intro hmem
  rw [List.map_append, List.nodup_append] at h
  exact h.2.2 key hmem key List.mem_cons_self rfl

/-! What is written denotes its value -/

/-- Nothing but space stands between the tokens. -/
structure Layout.Spaced (layout : Layout) : Prop where
  afterColon : IsGap layout.afterColon
  lineAt : ∀ depth, IsGap (layout.lineAt depth)

theorem spaced_compactLayout : compactLayout.Spaced := ⟨IsGap.nil, fun _ => IsGap.nil⟩

theorem spaced_indentedLayout : indentedLayout.Spaced where
  afterColon := by
    have hcolon : ∀ c ∈ indentedLayout.afterColon, isSpace c = true := by decide
    exact hcolon
  lineAt depth := by
    intro c hc
    obtain rfl | hblank := List.mem_cons.mp hc
    · rfl
    · rw [List.eq_of_mem_replicate hblank]
      rfl

theorem comma_eq : comma = [CodePoint.ofChar ','] := by decide

theorem colon_eq : colon = [CodePoint.ofChar ':'] := by decide

section Written

variable {layout : Layout} (hlayout : layout.Spaced) {depth : Nat} {gap : Text} (hgap : IsGap gap)
include hlayout hgap

theorem denotes_items {v : Value} {rest : List Value}
    (h : ∀ u ∈ v :: rest, Denotes .value (u.write layout depth) u) (done : List Value) :
    Denotes (.items done) (v.write layout depth ++ (Value.writeItems layout depth rest ++
      (gap ++ [CodePoint.ofChar ']']))) (.arr (done.reverse ++ v :: rest)) := by
  induction rest generalizing v done with
  | nil =>
    have hlast : Denotes (.items done) _ (.arr (v :: done).reverse) :=
      .lastItem (h v List.mem_cons_self) hgap
    rwa [List.reverse_cons] at hlast
  | cons u rest ih =>
    obtain ⟨hv, hrest⟩ := List.forall_mem_cons.mp h
    have hitem := Denotes.item hv .nil (hlayout.lineAt depth) (ih hrest (v :: done))
    rw [List.reverse_cons, List.append_assoc] at hitem
    simpa [Value.writeItems, comma_eq] using hitem

theorem denotes_members {key : Text} {v : Value} {rest done : List (Text × Value)}
    (hkeys : ((done ++ (key, v) :: rest).map Prod.fst).Nodup)
    (hnames : ∀ member ∈ (key, v) :: rest, member.1.Unpaired)
    (h : ∀ member ∈ (key, v) :: rest, Denotes .value (member.2.write layout depth) member.2) :
    Denotes (.members done) (stringText key ++ (colon ++ (layout.afterColon ++
      (v.write layout depth ++ (Value.writeMembers layout depth rest ++
        (gap ++ [CodePoint.ofChar '}'])))))) (.obj (done ++ (key, v) :: rest)) := by
  induction rest generalizing key v done with
  | nil =>
    have hlast : Denotes (.members done) _ (.obj (insertMember key v done)) :=
      .lastMember (spells_escaped (hnames _ List.mem_cons_self)) .nil hlayout.afterColon
        (h _ List.mem_cons_self) hgap
    rw [insertMember_of_new (notMem_of_nodup hkeys)] at hlast
    simpa [stringText, colon_eq, Value.writeMembers] using hlast
  | cons member rest ih =>
    obtain ⟨key', v'⟩ := member
    have hsplit : done ++ (key, v) :: (key', v') :: rest =
        (done ++ [(key, v)]) ++ (key', v') :: rest := by simp
    have hmore := ih (hsplit ▸ hkeys) (List.forall_mem_cons.mp hnames).2
      (List.forall_mem_cons.mp h).2
    rw [← insertMember_of_new (notMem_of_nodup hkeys)] at hmore
    have hmember := Denotes.member (spells_escaped (hnames _ List.mem_cons_self)) .nil
      hlayout.afterColon (h _ List.mem_cons_self) .nil (hlayout.lineAt depth) hmore
    rw [insertMember_of_new (notMem_of_nodup hkeys), ← hsplit] at hmember
    simpa [stringText, comma_eq, colon_eq, Value.writeMembers] using hmember

end Written

namespace Value.Portable

variable {layout : Layout} (hlayout : layout.Spaced) {v : Value} (h : v.Portable)
include hlayout h

theorem denotes (depth : Nat) : Denotes .value (v.write layout depth) v := by
  have hopen := hlayout.lineAt (depth + 1)
  have hclose := hlayout.lineAt depth
  induction h generalizing depth with
  | null => exact .scalar (.inl (word?_of_mem_words ("null", .null) (by decide)))
  | bool b =>
    cases b with
    | true => exact .scalar (.inl (word?_of_mem_words ("true", .bool true) (by decide)))
    | false => exact .scalar (.inl (word?_of_mem_words ("false", .bool false) (by decide)))
  | int hn => exact .scalar (scalar_ofInt hn)
  | str hs => exact .string (spells_escaped hs)
  | @arr items _ ih =>
    cases items with
    | nil => exact .emptyArray .nil
    | cons v rest =>
      have hitems := denotes_items hlayout hclose
        (fun u hu => ih u hu (depth + 1) (hlayout.lineAt _) (hlayout.lineAt _)) []
      simpa [write] using Denotes.array hopen hitems
  | @obj members hkeys hnames _ ih =>
    cases members with
    | nil => exact .emptyObject .nil
    | cons member rest =>
      obtain ⟨key, v⟩ := member
      have hmembers : Denotes (.members []) _ (.obj ((key, v) :: rest)) :=
        denotes_members hlayout hclose hkeys hnames fun member hmember =>
          ih member hmember (depth + 1) (hlayout.lineAt _) (hlayout.lineAt _)
      simpa [write] using Denotes.object hopen hmembers

theorem read_write : read (v.write layout 0) = .ok v :=
  read_eq_ok_iff.mpr ⟨[], v.write layout 0, [], by simp, .nil, .nil, h.denotes hlayout 0⟩

end Value.Portable

end NodeClient.Json
