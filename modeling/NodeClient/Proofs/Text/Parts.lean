import NodeClient.Text.Lines

/-! Cutting a list after every separator. -/

namespace NodeClient

section Parts

variable {α : Type} [DecidableEq α] {sep : α}

/-- The parts between separators; what follows the last one counts unless it is empty. -/
def endedParts (sep : α) (l : List α) : List (List α) :=
  let parts := l.splitOn sep
  if parts.getLast? = some [] then parts.dropLast else parts

theorem endedParts_cons {part : List α} (h : sep ∉ part) (rest : List α) :
    endedParts sep (part ++ sep :: rest) = part :: endedParts sep rest := by
  -- a part before the last separator never is the last part, so what is dropped is the same
  have hne : rest.splitOn sep ≠ [] := List.splitOn_ne_nil _ _
  simp only [endedParts, List.splitOn_append_cons_self_of_not_mem h]
  rw [List.getLast?_cons, List.getLast?_eq_some_getLast hne, Option.getD_some,
    List.dropLast_cons_of_ne_nil hne]
  split <;> rfl

theorem endedParts_of_not_mem {part : List α} (h : sep ∉ part) (hne : part ≠ []) :
    endedParts sep part = [part] := by
  simp [endedParts, List.splitOn_eq_singleton h, hne]

/-- Induction on the parts: each of them ends at the first separator that is left. -/
@[elab_as_elim]
theorem parts_induction (sep : α) {motive : List α → Prop} (nil : motive [])
    (last : ∀ part, sep ∉ part → part ≠ [] → motive part)
    (cons : ∀ part rest, sep ∉ part → motive rest → motive (part ++ sep :: rest)) (l : List α) :
    motive l := by
  induction hlength : l.length using Nat.strongRecOn generalizing l with
  | _ n ih =>
  by_cases hmark : sep ∈ l
  · obtain ⟨part, rest, rfl, hpart⟩ := List.eq_append_cons_of_mem hmark
    refine cons part rest hpart (ih rest.length ?_ rest rfl)
    rw [← hlength, List.length_append, List.length_cons]
    omega
  · by_cases hnil : l = []
    · exact hnil ▸ nil
    · exact last l hmark hnil

end Parts

namespace Text

theorem splitAll_eq_splitOn (sep : CodePoint) (s : Text) : splitAll sep s = s.splitOn sep := by
  rw [List.splitOn_eq_splitOnP]
  induction s with
  | nil => rfl
  | cons c s ih =>
    rw [splitAll, List.splitOnP_cons_eq_if_modifyHead, ih]
    by_cases hc : c = sep
    · simp [hc]
    · simp only [hc, if_false, beq_iff_eq]
      obtain ⟨piece, pieces, hsplit⟩ :=
        List.exists_cons_of_ne_nil (List.splitOnP_ne_nil (· == sep) s)
      rw [hsplit]
      rfl

theorem linesOf_eq_endedParts (s : Text) : linesOf s = endedParts CodePoint.newline s := by
  unfold linesOf endedParts
  rw [splitAll_eq_splitOn]

end Text

end NodeClient
