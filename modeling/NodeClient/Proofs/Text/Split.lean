import Mathlib.Data.List.Induction
import NodeClient.Text.Basic

/-! A text cut at the first or at the last of its separators, and a part that a text includes. -/

namespace NodeClient.Text

variable {sep : CodePoint} {s before after : Text}

theorem splitFirst_of_not_mem (h : sep ∉ s) : splitFirst sep s = (s, none) := by
  induction s with
  | nil => rfl
  | cons c s ih =>
    rw [List.mem_cons, not_or] at h
    rw [splitFirst, if_neg (Ne.symm h.1), ih h.2]

theorem splitFirst_append (h : sep ∉ before) (after : Text) :
    splitFirst sep (before ++ sep :: after) = (before, some after) := by
  induction before with
  | nil => exact if_pos rfl
  | cons c before ih =>
    rw [List.mem_cons, not_or] at h
    rw [List.cons_append, splitFirst, if_neg (Ne.symm h.1), ih h.2]

theorem splitFirst_cases (sep : CodePoint) (s : Text) :
    (sep ∉ s ∧ splitFirst sep s = (s, none)) ∨ ∃ before after, s = before ++ sep :: after ∧
      sep ∉ before ∧ splitFirst sep s = (before, some after) := by
  by_cases h : sep ∈ s
  · obtain ⟨before, after, hs, hbefore⟩ := List.eq_append_cons_of_mem h
    exact .inr ⟨before, after, hs, hbefore, hs ▸ splitFirst_append hbefore after⟩
  · exact .inl ⟨h, splitFirst_of_not_mem h⟩

theorem eq_append_of_splitFirst (h : splitFirst sep s = (before, some after)) :
    s = before ++ sep :: after := by
  rcases splitFirst_cases sep s with ⟨-, hnone⟩ | ⟨front, rest, hs, -, hsome⟩
  · cases hnone.symm.trans h
  · cases hsome.symm.trans h
    exact hs

theorem not_mem_beforeFirst (sep : CodePoint) (s : Text) : sep ∉ (splitFirst sep s).1 := by
  rcases splitFirst_cases sep s with ⟨hmem, hsplit⟩ | ⟨before, after, -, hmem, hsplit⟩
  · rw [hsplit]
    exact hmem
  · rw [hsplit]
    exact hmem

theorem mem_of_mem_beforeFirst {c : CodePoint} (h : c ∈ (splitFirst sep s).1) : c ∈ s := by
  rcases splitFirst_cases sep s with ⟨-, hsplit⟩ | ⟨before, after, rfl, -, hsplit⟩
  · rw [hsplit] at h
    exact h
  · rw [hsplit] at h
    exact List.mem_append_left _ h

theorem splitLast_of_not_mem (h : sep ∉ s) : splitLast sep s = (none, s) := by
  rw [splitLast, splitFirst_of_not_mem (mt List.mem_reverse.mp h)]
  simp

theorem splitLast_append (h : sep ∉ after) (before : Text) :
    splitLast sep (before ++ sep :: after) = (some before, after) := by
  have hreverse : (before ++ sep :: after).reverse = after.reverse ++ sep :: before.reverse := by
    simp
  rw [splitLast, hreverse, splitFirst_append (mt List.mem_reverse.mp h)]
  simp

theorem splitLast_cases (sep : CodePoint) (s : Text) :
    (sep ∉ s ∧ splitLast sep s = (none, s)) ∨ ∃ before after, s = before ++ sep :: after ∧
      sep ∉ after ∧ splitLast sep s = (some before, after) := by
  by_cases h : sep ∈ s
  · obtain ⟨after, before, hs, hafter⟩ := List.eq_append_cons_of_mem (List.mem_reverse.mpr h)
    have hs : s = before.reverse ++ sep :: after.reverse := by
      rw [← List.reverse_reverse s, hs]
      simp
    have hafter := mt List.mem_reverse.mp hafter
    exact .inr ⟨_, _, hs, hafter, hs ▸ splitLast_append hafter _⟩
  · exact .inl ⟨h, splitLast_of_not_mem h⟩

theorem includes_iff {part : Text} : s.includes part = true ↔ part <:+: s := by
  induction s with
  | nil =>
    rw [List.infix_nil, includes, splitAround?]
    cases part with
    | nil => simp
    | cons c part => simp
  | cons c s ih =>
    rw [List.infix_cons_iff, ← ih, ← List.isPrefixOf_iff_prefix, includes, includes, splitAround?]
    split
    · rename_i hstart
      simp [hstart]
    · rename_i hstart
      rw [Option.isSome_map]
      simp [hstart]

theorem includes_append (before part after : Text) :
    (before ++ (part ++ after)).includes part = true :=
  includes_iff.mpr ⟨before, after, List.append_assoc ..⟩

/-- A part is not completed by text that lacks its last code point. -/
theorem includes_of_append (part : Text) {a b : Text} {c : CodePoint} (hc : c ∉ b)
    (h : (a ++ b).includes (part ++ [c]) = true) : a.includes (part ++ [c]) = true := by
  obtain ⟨before, after, hwhole⟩ := includes_iff.mp h
  refine includes_iff.mpr ?_
  rcases List.append_eq_append_iff.mp hwhole with ⟨rest, ha, -⟩ | ⟨rest, hover, hb⟩
  · exact ⟨before, rest, ha.symm⟩
  · cases rest using List.reverseRecOn with
    | nil =>
      rw [List.append_nil] at hover
      exact ⟨before, [], by rw [List.append_nil, hover]⟩
    | append_singleton rest d =>
      -- the last code point would lie in the second text
      rw [← List.append_assoc, ← List.append_assoc] at hover
      obtain rfl : c = d := List.singleton_inj.mp (List.append_inj_right' hover rfl)
      exact absurd (by simp [hb]) hc

end NodeClient.Text
