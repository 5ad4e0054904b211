import NodeClient.Proofs.Text.Utf8
import NodeClient.Text.Lines

/-! Line marks of an input. Decoding, the unification of line marks and encoding do together what
the unification does to the bytes; no other byte is touched, whether or not it is part of a
character. -/

namespace NodeClient

/-- CR LF and a lone CR become LF. -/
def unixMarks : Bytes → Bytes
  | 0x0D :: 0x0A :: rest => 0x0A :: unixMarks rest
  | 0x0D :: rest => 0x0A :: unixMarks rest
  | b :: rest => b :: unixMarks rest
  | [] => []

theorem unixMarks_return {rest : Bytes} (h : rest.head? ≠ some 0x0A) :
    unixMarks (0x0D :: rest) = 0x0A :: unixMarks rest := by
  refine unixMarks.eq_2 rest ?_
  rintro tail rfl
  exact h rfl

theorem unixMarks_cons {b : UInt8} (h : b ≠ 0x0D) (rest : Bytes) :
    unixMarks (b :: rest) = b :: unixMarks rest :=
  unixMarks.eq_3 b rest (fun _ hb _ => h hb) h

theorem unixMarks_append {head : Bytes} (h : 0x0D ∉ head) (rest : Bytes) :
    unixMarks (head ++ rest) = head ++ unixMarks rest := by
  induction head with
  | nil => rfl
  | cons b head ih =>
    obtain ⟨hb, hhead⟩ := List.ne_and_not_mem_of_not_mem_cons h
    rw [List.cons_append, unixMarks_cons hb.symm, ih hhead, List.cons_append]

theorem return_not_mem_unixMarks (bytes : Bytes) : 0x0D ∉ unixMarks bytes := by
  fun_induction unixMarks bytes with
  | case1 rest ih => exact List.not_mem_cons_of_ne_of_not_mem (by decide) ih
  | case2 rest _ ih => exact List.not_mem_cons_of_ne_of_not_mem (by decide) ih
  | case3 b rest _ hb ih => exact List.not_mem_cons_of_ne_of_not_mem (Ne.symm hb) ih
  | case4 => exact List.not_mem_nil

theorem getLast?_unixMarks (bytes : Bytes) :
    (unixMarks bytes).getLast? = bytes.getLast?.map fun b => if b = 0x0D then 0x0A else b := by
  fun_induction unixMarks bytes with
  | case1 rest ih => cases hlast : rest.getLast? <;> simp [List.getLast?_cons, ih, hlast]
  | case2 rest _ ih => cases hlast : rest.getLast? <;> simp [List.getLast?_cons, ih, hlast]
  | case3 b rest _ hb ih =>
    have hb : b ≠ 0x0D := hb
    cases hlast : rest.getLast? <;> simp [List.getLast?_cons, ih, hlast, hb]
  | case4 => rfl

namespace Utf8

theorem eq_newline_of_mem {c : CodePoint} {head : Bytes} (h : encodeOneSmuggling? c = some head)
    (hmem : 0x0A ∈ head) : c = CodePoint.newline :=
  eq_ofByte_of_mem h hmem (by decide)

theorem eq_return_of_mem {c : CodePoint} {head : Bytes} (h : encodeOneSmuggling? c = some head)
    (hmem : 0x0D ∈ head) : c = CodePoint.carriageReturn :=
  eq_ofByte_of_mem h hmem (by decide)

/-- By induction on the text. After a CR the rest of the bytes is read as if the CR stood before
it. -/
theorem encodeSmuggling?_newlinesFrom {s : Text} {bytes : Bytes}
    (h : encodeSmuggling? s = some bytes) :
    encodeSmuggling? (Text.newlinesFrom false s) = some (unixMarks bytes) ∧
      encodeSmuggling? (CodePoint.newline :: Text.newlinesFrom true s) =
        some (unixMarks (0x0D :: bytes)) := by
  have hnewline {t : Text} {tail : Bytes} (ht : encodeSmuggling? t = some tail) :
      encodeSmuggling? (CodePoint.newline :: t) = some (0x0A :: tail) :=
    encodeSmuggling?_cons.mpr ⟨[0x0A], tail, by decide, ht, rfl⟩
  have hreturn' : CodePoint.newline ≠ CodePoint.carriageReturn := by decide
  induction s generalizing bytes with
  | nil =>
    obtain rfl := Option.some.inj h
    exact ⟨rfl, by decide⟩
  | cons c s ih =>
    obtain ⟨head, tail, hc, hs, rfl⟩ := encodeSmuggling?_cons.mp h
    obtain ⟨hplain, hafter⟩ := ih hs
    by_cases hreturn : c = CodePoint.carriageReturn
    · obtain rfl : head = [0x0D] := by
        rw [hreturn] at hc
        exact (Option.some.inj hc).symm
      simp only [Text.newlinesFrom, hreturn, if_true]
      refine ⟨hafter, ?_⟩
      rw [List.singleton_append, unixMarks_return (by simp)]
      exact hnewline hafter
    · by_cases hfeed : c = CodePoint.newline
      · obtain rfl : head = [0x0A] := by
          rw [hfeed] at hc
          exact (Option.some.inj hc).symm
        simp only [Text.newlinesFrom, hfeed, hreturn', if_false, Bool.and_false, decide_true,
          Bool.and_true, Bool.false_eq_true, if_true]
        exact ⟨hnewline hplain, hnewline hplain⟩
      · have hnoReturn : 0x0D ∉ head := fun hmem => hreturn (eq_return_of_mem hc hmem)
        have hnoFeed : (head ++ tail).head? ≠ some 0x0A := by
          obtain ⟨b, rest, rfl⟩ := List.exists_cons_of_ne_nil (ne_nil_of_encodeOneSmuggling? hc)
          rintro hb
          obtain rfl := Option.some.inj hb
          exact hfeed (eq_newline_of_mem hc List.mem_cons_self)
        simp only [Text.newlinesFrom, hreturn, hfeed, if_false, decide_false, Bool.false_and,
          Bool.false_eq_true]
        have hkept : encodeSmuggling? (c :: Text.newlinesFrom false s) =
            some (unixMarks (head ++ tail)) := by
          rw [unixMarks_append hnoReturn]
          exact encodeSmuggling?_cons.mpr ⟨head, unixMarks tail, hc, hplain, rfl⟩
        refine ⟨hkept, ?_⟩
        rw [unixMarks_return hnoFeed]
        exact hnewline hkept

theorem encodeSmuggling?_ofInput (input : Bytes) :
    encodeSmuggling? (Text.ofInput input) = some (unixMarks input) :=
  (encodeSmuggling?_newlinesFrom (encodeSmuggling?_decodeSmuggling input)).1

end Utf8

theorem Text.return_not_mem_newlinesFrom (afterReturn : Bool) (s : Text) :
    CodePoint.carriageReturn ∉ newlinesFrom afterReturn s := by
  induction s generalizing afterReturn with
  | nil => exact List.not_mem_nil
  | cons c s ih =>
    rw [newlinesFrom]
    split
    · exact List.not_mem_cons_of_ne_of_not_mem (by decide) (ih true)
    · rename_i hc
      split
      · exact ih false
      · exact List.not_mem_cons_of_ne_of_not_mem (Ne.symm hc) (ih false)

end NodeClient
