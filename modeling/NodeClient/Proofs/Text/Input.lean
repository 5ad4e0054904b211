import NodeClient.Proofs.Link.Lines
import NodeClient.Proofs.Text.Marks

/-! The lines of an input are framed with the bytes that they came with. -/

namespace NodeClient

namespace Text

theorem inputLines_cons {part : Text} (h : CodePoint.newline ∉ part) (rest : Text) :
    inputLines (part ++ CodePoint.newline :: rest) = dropLineEnd part :: inputLines rest := by
  rw [inputLines, inputLines, linesOf_eq_endedParts, linesOf_eq_endedParts, endedParts_cons h,
    List.map_cons]

theorem inputLines_of_no_mark {part : Text} (h : CodePoint.newline ∉ part) (hne : part ≠ []) :
    inputLines part = [dropLineEnd part] := by
  rw [inputLines, linesOf_eq_endedParts, endedParts_of_not_mem h hne, List.map_singleton]

end Text

/-- A line without marks is framed as it is, however often marks are dropped from its end. -/
theorem frame?_of_no_marks {line : Text} {bytes : Bytes}
    (h : Utf8.encodeSmuggling? line = some bytes) (hfeed : CodePoint.newline ∉ line)
    (hreturn : CodePoint.carriageReturn ∉ line) :
    frame? (Text.dropLineEnd line) = some (bytes ++ [0x0A]) := by
  have hkept : Text.dropLineEnd line = line := by
    refine Text.dropEnd_eq_self fun c hc => ?_
    have hne : c ≠ CodePoint.newline := fun h => hfeed (h ▸ hc)
    have hne' : c ≠ CodePoint.carriageReturn := fun h => hreturn (h ▸ hc)
    simp [CodePoint.isLineMark, hne, hne']
  rw [hkept, frame?, hkept, h]
  rfl

theorem frames_of_encodeSmuggling? {s : Text} {bytes : Bytes}
    (h : Utf8.encodeSmuggling? s = some bytes) (hreturn : CodePoint.carriageReturn ∉ s) :
    (Text.inputLines s).map frame? =
      (streamParts bytes).map fun part => some (part ++ [0x0A]) := by
  have hfree {t : Text} {part : Bytes} (ht : Utf8.encodeSmuggling? t = some part)
      (hfeed : CodePoint.newline ∉ t) : 0x0A ∉ part :=
    fun hmem => hfeed (Utf8.mem_of_encodeSmuggling? ht hmem (by decide))
  induction s using parts_induction CodePoint.newline generalizing bytes with
  | nil =>
    obtain rfl := Option.some.inj h
    rfl
  | last part hpart hne =>
    have hne' : bytes ≠ [] := by
      obtain ⟨c, t, rfl⟩ := List.exists_cons_of_ne_nil hne
      obtain ⟨head, tail, hc, -, rfl⟩ := Utf8.encodeSmuggling?_cons.mp h
      exact List.append_ne_nil_of_left_ne_nil (Utf8.ne_nil_of_encodeOneSmuggling? hc) tail
    rw [Text.inputLines_of_no_mark hpart hne, streamParts_of_no_mark (hfree h hpart) hne']
    exact congrArg (fun frame => [frame]) (frame?_of_no_marks h hpart hreturn)
  | cons part rest hpart ih =>
    obtain ⟨front, back, hfront, hback, rfl⟩ := Utf8.encodeSmuggling?_append.mp h
    obtain ⟨head, tail, hhead, htail, rfl⟩ := Utf8.encodeSmuggling?_cons.mp hback
    obtain rfl : [0x0A] = head := Option.some.inj hhead
    obtain ⟨hreturn, hreturn'⟩ := not_or.mp (mt List.mem_append.mpr hreturn)
    have hrest := ih htail fun hmem => hreturn' (List.mem_cons_of_mem _ hmem)
    rw [Text.inputLines_cons hpart, List.singleton_append,
      streamParts_cons _ _ (hfree hfront hpart), List.map_cons, List.map_cons,
      frame?_of_no_marks hfront hpart hreturn, hrest]

theorem frames_ofInput (input : Bytes) :
    (Text.inputLines (Text.ofInput input)).map frame? =
      (streamParts (unixMarks input)).map fun part => some (part ++ [0x0A]) :=
  frames_of_encodeSmuggling? (Utf8.encodeSmuggling?_ofInput input)
    (Text.return_not_mem_newlinesFrom false _)

theorem frame?_inputLine {input : Bytes} {line : Text}
    (hline : line ∈ Text.inputLines (Text.ofInput input)) : (frame? line).isSome = true := by
  have hframe : frame? line ∈ (Text.inputLines (Text.ofInput input)).map frame? :=
    List.mem_map_of_mem hline
  rw [frames_ofInput] at hframe
  obtain ⟨part, -, hpart⟩ := List.mem_map.mp hframe
  rw [← hpart]
  rfl

/-- A line read from a stream has no surrogates. -/
theorem hasSurrogate_lineText (bytes : Bytes) : (lineText bytes).hasSurrogate = false := by
  have hall := List.any_eq_false.mp (Utf8.hasSurrogate_decodeReplacing bytes)
  exact List.any_eq_false.mpr fun c hc => hall c (Text.mem_of_mem_dropEnd hc)

/-- The mark that ends the last line: one LF, unless there is nothing to end or it has a mark. -/
def closingMark (input : Bytes) : Bytes :=
  match input.getLast? with
  | none => []
  | some b => if b = 0x0A ∨ b = 0x0D then [] else [0x0A]

theorem closingMark_unixMarks (input : Bytes) :
    closingMark (unixMarks input) = closingMark input := by
  rw [closingMark, closingMark, getLast?_unixMarks]
  cases input.getLast? with
  | none => rfl
  | some b =>
    by_cases hb : b = 0x0D
    · simp [hb]
    · simp [hb]

theorem closingMark_append (part rest : Bytes) :
    closingMark (part ++ 0x0A :: rest) = closingMark rest := by
  rw [closingMark, closingMark, List.getLast?_append, List.getLast?_cons]
  cases rest.getLast? <;> rfl

/-- The framed parts of a stream put together. -/
theorem flatten_framed {bytes : Bytes} (h : 0x0D ∉ bytes) :
    ((streamParts bytes).map fun part => part ++ [0x0A]).flatten = bytes ++ closingMark bytes := by
  induction bytes using parts_induction (0x0A : UInt8) with
  | nil => rfl
  | last part hpart hne =>
    have hmem := List.getLast_mem hne
    have hlast : closingMark part = [0x0A] := by
      rw [closingMark, List.getLast?_eq_some_getLast hne]
      refine if_neg ?_
      rintro (hb | hb)
      · exact hpart (hb ▸ hmem)
      · exact h (hb ▸ hmem)
    rw [streamParts_of_no_mark hpart hne, hlast, List.map_singleton, List.flatten_singleton]
  | cons part rest hpart ih =>
    have hreturn : 0x0D ∉ rest :=
      fun hmem => h (List.mem_append_right _ (List.mem_cons_of_mem _ hmem))
    rw [streamParts_cons _ _ hpart, List.map_cons, List.flatten_cons, ih hreturn,
      closingMark_append]
    simp

end NodeClient
