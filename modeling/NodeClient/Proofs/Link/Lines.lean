import NodeClient.Link.Connection
import NodeClient.Proofs.Text.Parts
import NodeClient.Proofs.Text.Trim
import NodeClient.Proofs.Text.Utf8

/-! The lines of a whole stream, and the way a link takes them one at a time. -/

namespace NodeClient

/-- The parts of a stream between its LF marks; what follows the last mark counts unless it is
empty. -/
def streamParts (bytes : Bytes) : List Bytes :=
  let parts := bytes.splitOn 0x0A
  if parts.getLast? = some [] then parts.dropLast else parts

def streamLines (bytes : Bytes) : List Text := (streamParts bytes).map lineText

theorem lineText_append_mark (part : Bytes) : lineText (part ++ [0x0A]) = lineText part := by
  have hstop : Utf8.isContinuation 0x0A = false := by decide
  have hmark : Utf8.decodeReplacing [0x0A] = [CodePoint.newline] := by decide
  rw [lineText, lineText, Utf8.decodeReplacing_append part [] hstop, hmark]
  exact Text.dropEnd_append_of_pos (by decide) _

theorem streamParts_cons (part rest : Bytes) (h : (0x0A : UInt8) ∉ part) :
    streamParts (part ++ 0x0A :: rest) = part :: streamParts rest :=
  endedParts_cons h rest

theorem streamParts_of_no_mark {part : Bytes} (h : (0x0A : UInt8) ∉ part) (hne : part ≠ []) :
    streamParts part = [part] :=
  endedParts_of_not_mem h hne

/-- Taking a line either cuts after the first mark, or takes all that is left. -/
theorem takeLine_cases (u : Bytes) :
    (∃ part rest, (0x0A : UInt8) ∉ part ∧ u = part ++ 0x0A :: rest ∧
      takeLine u = (part ++ [0x0A], rest)) ∨
    ((0x0A : UInt8) ∉ u ∧ takeLine u = (u, [])) := by
  induction u with
  | nil => exact .inr ⟨List.not_mem_nil, rfl⟩
  | cons b u ih =>
    by_cases hb : b = 0x0A
    · subst hb
      exact .inl ⟨[], u, List.not_mem_nil, rfl, rfl⟩
    · obtain ⟨part, rest, hpart, rfl, htake⟩ | ⟨hu, htake⟩ := ih
      · refine .inl ⟨b :: part, rest, ?_, rfl, ?_⟩
        · simp [Ne.symm hb, hpart]
        · simp [takeLine, hb, htake]
      · refine .inr ⟨?_, ?_⟩
        · simp [Ne.symm hb, hu]
        · simp [takeLine, hb, htake]

/-- What a link takes from a stream is its first line, and the lines after it are left. -/
theorem streamLines_takeLine {u : Bytes} (hu : u ≠ []) :
    streamLines u = lineText (takeLine u).1 :: streamLines (takeLine u).2 := by
  obtain ⟨part, rest, hpart, rfl, htake⟩ | ⟨hmark, htake⟩ := takeLine_cases u
  · rw [htake, lineText_append_mark, streamLines, streamParts_cons part rest hpart]
    rfl
  · rw [htake, streamLines, streamParts_of_no_mark hmark hu]
    rfl

theorem takeLine_length_lt {u : Bytes} (hu : u ≠ []) : (takeLine u).2.length < u.length := by
  obtain ⟨part, rest, -, rfl, htake⟩ | ⟨-, htake⟩ := takeLine_cases u
  · rw [htake]
    simp only [List.length_append, List.length_cons]
    omega
  · rw [htake]
    exact List.length_pos_iff.mpr hu

end NodeClient
