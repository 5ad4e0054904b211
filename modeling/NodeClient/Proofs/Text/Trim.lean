import Mathlib.Data.List.TakeWhile
import NodeClient.Text.Blank

/-! What is trimmed off a text, and when nothing is. -/

namespace NodeClient.Text

theorem dropEnd_append_of_pos {p : CodePoint → Bool} {c : CodePoint} (h : p c = true)
    (s : Text) : dropEnd p (s ++ [c]) = dropEnd p s := by
  simp only [dropEnd, List.reverse_append, List.reverse_singleton, List.singleton_append,
    List.dropWhile_cons, h, if_true]

theorem dropEnd_append_of_neg {p : CodePoint → Bool} {c : CodePoint} (h : p c = false)
    (s : Text) : dropEnd p (s ++ [c]) = s ++ [c] := by
  have hkeep : (c :: s.reverse).dropWhile p = c :: s.reverse :=
    List.dropWhile_cons_of_neg (Bool.eq_false_iff.mp h)
  rw [dropEnd, List.reverse_append, List.reverse_singleton, List.singleton_append, hkeep,
    List.reverse_cons, List.reverse_reverse]

theorem dropEnd_eq_self {p : CodePoint → Bool} {s : Text} (h : ∀ c ∈ s, p c = false) :
    dropEnd p s = s := by
  have hkeep : s.reverse.dropWhile p = s.reverse := by
    cases hs : s.reverse with
    | nil => rfl
    | cons c r =>
      have hc : p c = false := h c (List.mem_reverse.mp (hs ▸ List.mem_cons_self))
      rw [List.dropWhile_cons_of_neg (by simp [hc])]
  rw [dropEnd, hkeep, List.reverse_reverse]

theorem mem_of_mem_dropEnd {p : CodePoint → Bool} {s : Text} {c : CodePoint}
    (h : c ∈ dropEnd p s) : c ∈ s := by
  have hdrop := List.mem_reverse.mp h
  exact List.mem_reverse.mp ((List.dropWhile_sublist p).mem hdrop)

theorem trim_eq_nil_iff {p : CodePoint → Bool} {s : Text} :
    trim p s = [] ↔ ∀ c ∈ s, p c = true := by
  rw [trim, dropEnd, List.reverse_eq_nil_iff, List.dropWhile_eq_nil_iff]
  constructor
  · intro h c hc
    rw [← List.takeWhile_append_dropWhile (p := p) (l := s)] at hc
    rcases List.mem_append.mp hc with htaken | hdropped
    · exact List.mem_takeWhile_imp htaken
    · exact h c (List.mem_reverse.mpr hdropped)
  · intro h c hc
    exact h c ((List.dropWhile_sublist p).mem (List.mem_reverse.mp hc))

theorem trim_eq_self {p : CodePoint → Bool} {s : Text} (h : ∀ c ∈ s, p c = false) :
    trim p s = s := by
  have hstart : s.dropWhile p = s := by
    cases s with
    | nil => rfl
    | cons c rest =>
      rw [List.dropWhile_cons_of_neg (Bool.eq_false_iff.mp (h c List.mem_cons_self))]
  rw [trim, hstart, dropEnd_eq_self h]

theorem strip_eq_self {s : Text} (h : ∀ c ∈ s, c.isBlank = false) : strip s = s := trim_eq_self h

/-- Blank code points from the start of a text, what is left without them, blank ones up to its
end. -/
theorem exists_stripped (s : Text) :
    ∃ lead trail, s = lead ++ (strip s ++ trail) ∧
      (∀ c ∈ lead, c ∈ s.takeWhile CodePoint.isBlank) ∧
      ∀ c ∈ trail, c ∈ s.reverse.takeWhile CodePoint.isBlank := by
  let lead := s.takeWhile CodePoint.isBlank
  let rest := s.dropWhile CodePoint.isBlank
  have hs : s = lead ++ rest := List.takeWhile_append_dropWhile.symm
  have hrest : strip s ++ (rest.reverse.takeWhile CodePoint.isBlank).reverse = rest := by
    have hparts := List.takeWhile_append_dropWhile (p := CodePoint.isBlank) (l := rest.reverse)
    rw [strip, trim, dropEnd, ← List.reverse_append, hparts, List.reverse_reverse]
  refine ⟨lead, (rest.reverse.takeWhile CodePoint.isBlank).reverse, ?_, fun c hc => hc, ?_⟩
  · rw [hrest]
    exact hs
  · intro c hc
    rw [hs, List.reverse_append, List.takeWhile_append]
    split
    · exact List.mem_append_left _
        ((List.takeWhile_prefix CodePoint.isBlank).subset (List.mem_reverse.mp hc))
    · exact List.mem_reverse.mp hc

theorem strip_infix (s : Text) : strip s <:+: s := by
  obtain ⟨lead, trail, hs, -⟩ := exists_stripped s
  exact ⟨lead, trail, by rw [List.append_assoc, ← hs]⟩

section Edges

variable {p : CodePoint → Bool} {lead trail s : Text}

theorem takeWhile_lead (hlead : ∀ c ∈ lead, p c = true)
    (hstart : ∃ c tail, s = c :: tail ∧ p c = false) :
    (lead ++ (s ++ trail)).takeWhile p = lead := by
  obtain ⟨c, tail, rfl, hc⟩ := hstart
  rw [List.takeWhile_append_of_pos hlead, List.cons_append,
    List.takeWhile_cons_of_neg (Bool.eq_false_iff.mp hc), List.append_nil]

theorem dropWhile_lead (hlead : ∀ c ∈ lead, p c = true)
    (hstart : ∃ c tail, s = c :: tail ∧ p c = false) :
    (lead ++ (s ++ trail)).dropWhile p = s ++ trail := by
  obtain ⟨c, tail, rfl, hc⟩ := hstart
  rw [List.dropWhile_append_of_pos hlead, List.cons_append,
    List.dropWhile_cons_of_neg (Bool.eq_false_iff.mp hc)]

theorem trim_eq (hlead : ∀ c ∈ lead, p c = true) (htrail : ∀ c ∈ trail, p c = true)
    (hstart : ∃ c tail, s = c :: tail ∧ p c = false)
    (hend : ∃ front c, s = front ++ [c] ∧ p c = false) : trim p (lead ++ (s ++ trail)) = s := by
  have hreverse : ∃ c tail, s.reverse = c :: tail ∧ p c = false := by
    obtain ⟨front, c, rfl, hc⟩ := hend
    exact ⟨c, front.reverse, by simp, hc⟩
  have hdrop : (trail.reverse ++ (s.reverse ++ [])).dropWhile p = s.reverse ++ [] :=
    dropWhile_lead (fun c hc => htrail c (List.mem_reverse.mp hc)) hreverse
  rw [List.append_nil, ← List.reverse_append] at hdrop
  rw [trim, dropWhile_lead hlead hstart, dropEnd, hdrop, List.reverse_reverse]

theorem trim_of_edges (hstart : ∃ c tail, s = c :: tail ∧ p c = false)
    (hend : ∃ front c, s = front ++ [c] ∧ p c = false) : trim p s = s := by
  have htrim : trim p ([] ++ (s ++ [])) = s := trim_eq nofun nofun hstart hend
  rwa [List.nil_append, List.append_nil] at htrim

theorem strip_eq (hlead : ∀ c ∈ lead, c.isBlank = true) (htrail : ∀ c ∈ trail, c.isBlank = true)
    (hstart : ∃ c tail, s = c :: tail ∧ c.isBlank = false)
    (hend : ∃ front c, s = front ++ [c] ∧ c.isBlank = false) :
    strip (lead ++ (s ++ trail)) = s := trim_eq hlead htrail hstart hend

theorem strip_of_edges (hstart : ∃ c tail, s = c :: tail ∧ c.isBlank = false)
    (hend : ∃ front c, s = front ++ [c] ∧ c.isBlank = false) : strip s = s :=
  trim_of_edges hstart hend

end Edges

theorem exists_filled_of_strip {s : Text} (h : strip s ≠ []) :
    ∃ c ∈ strip s, c.isBlank = false := by
  let rest := (s.dropWhile CodePoint.isBlank).reverse
  have hstrip : strip s = (rest.dropWhile CodePoint.isBlank).reverse := rfl
  have hne : rest.dropWhile CodePoint.isBlank ≠ [] := by
    intro hnil
    rw [hstrip, hnil] at h
    exact h rfl
  refine ⟨_, ?_, List.head_dropWhile_not CodePoint.isBlank hne⟩
  rw [hstrip, List.mem_reverse]
  exact List.head_mem hne

end NodeClient.Text
