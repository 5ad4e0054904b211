import NodeClient.Proofs.Text.Parts
import NodeClient.Text.Ranges

/-! The lines in which a text is seen. More marks break a line than the one that the program writes
between two lines. -/

namespace NodeClient

/-- The line marks, the vertical tab, the form feed, the separators U+001C to U+001E, and the three
line ends beyond ASCII. -/
def lineBreaks : Ranges := ⟨[0xA, 0xE, 0x1C, 0x1F, 0x85, 0x86, 0x2028, 0x202A]⟩

namespace CodePoint

def isLineBreak (c : CodePoint) : Bool := lineBreaks.contains c.val

def asNewline (c : CodePoint) : CodePoint := if c.isLineBreak then newline else c

end CodePoint

theorem mem_endedParts {α : Type} [DecidableEq α] {sep : α} {part l : List α}
    (h : part ∈ endedParts sep l) : sep ∉ part ∧ ∀ a ∈ part, a ∈ l := by
  induction l using parts_induction sep with
  | nil => simp [endedParts] at h
  | last l hl hne =>
    rw [endedParts_of_not_mem hl hne, List.mem_singleton] at h
    subst h
    exact ⟨hl, fun a ha => ha⟩
  | cons first rest hfirst ih =>
    rw [endedParts_cons hfirst, List.mem_cons] at h
    rcases h with rfl | hrest
    · exact ⟨hfirst, fun a ha => List.mem_append_left _ ha⟩
    · obtain ⟨hpart, hmem⟩ := ih hrest
      exact ⟨hpart, fun a ha => List.mem_append_right _ (List.mem_cons_of_mem sep (hmem a ha))⟩

namespace Text

/-- Every break ends a line, CR LF being one break; what follows the last of them counts unless it
is empty. -/
def shownLines (s : Text) : List Text := linesOf ((universalNewlines s).map CodePoint.asNewline)

theorem isLineBreak_of_mem_shownLines {s line : Text} (hline : line ∈ shownLines s) {c : CodePoint}
    (hc : c ∈ line) : c.isLineBreak = false := by
  rw [shownLines, linesOf_eq_endedParts] at hline
  obtain ⟨hnewline, hmem⟩ := mem_endedParts hline
  obtain ⟨d, -, rfl⟩ := List.mem_map.mp (hmem c hc)
  unfold CodePoint.asNewline at hc ⊢
  split
  · rename_i hbreak
    rw [if_pos hbreak] at hc
    exact absurd hc hnewline
  · rename_i hplain
    exact Bool.eq_false_iff.mpr hplain

theorem universalNewlines_of_no_return {s : Text} (h : CodePoint.carriageReturn ∉ s) :
    universalNewlines s = s := by
  unfold universalNewlines
  induction s with
  | nil => rfl
  | cons c s ih =>
    obtain ⟨hc, hs⟩ := not_or.mp (mt List.mem_cons.mpr h)
    rw [newlinesFrom, if_neg (Ne.symm hc), if_neg (by simp), ih hs]

/-! Lines with a newline between neighbours -/

variable {ls : List Text}

theorem mem_joinWith {sep : Text} {c : CodePoint} (h : c ∈ joinWith sep ls) :
    c ∈ sep ∨ ∃ l ∈ ls, c ∈ l := by
  induction ls with
  | nil => cases h
  | cons l rest ih =>
    cases rest with
    | nil => exact .inr ⟨l, List.mem_singleton.mpr rfl, h⟩
    | cons l' rest =>
      rw [joinWith, List.mem_append, List.mem_append] at h
      rcases h with (hl | hsep) | hrest
      · exact .inr ⟨l, List.mem_cons_self, hl⟩
      · exact .inl hsep
      · exact (ih hrest).imp_right fun ⟨m, hm, hc⟩ => ⟨m, List.mem_cons_of_mem l hm, hc⟩
      · rintro ⟨⟩

theorem linesOf_joinWith (hne : ∀ l ∈ ls, l ≠ []) (h : ∀ l ∈ ls, CodePoint.newline ∉ l) :
    linesOf (joinWith [CodePoint.newline] ls) = ls := by
  rw [linesOf_eq_endedParts]
  induction ls with
  | nil => rfl
  | cons l rest ih =>
    have hl : CodePoint.newline ∉ l := h l List.mem_cons_self
    cases rest with
    | nil => exact endedParts_of_not_mem hl (hne l List.mem_cons_self)
    | cons l' rest =>
      rw [joinWith, List.append_assoc, List.singleton_append, endedParts_cons hl,
        ih (fun m hm => hne m (List.mem_cons_of_mem l hm)) fun m hm => h m (List.mem_cons_of_mem l hm)]
      rintro ⟨⟩

/-- The lines that were written are the ones that are seen, unless one of them holds a break. -/
theorem shownLines_joinWith_iff (hne : ∀ l ∈ ls, l ≠ []) :
    shownLines (joinWith [CodePoint.newline] ls) = ls ↔
      ∀ l ∈ ls, ∀ c ∈ l, c.isLineBreak = false := by
  constructor
  · intro h l hl c hc
    rw [← h] at hl
    exact isLineBreak_of_mem_shownLines hl hc
  · intro h
    have hmarks : ∀ c ∈ joinWith [CodePoint.newline] ls,
        c = CodePoint.newline ∨ c.isLineBreak = false := by
      intro c hc
      rcases mem_joinWith hc with hsep | ⟨l, hl, hc⟩
      · exact .inl (List.mem_singleton.mp hsep)
      · exact .inr (h l hl c hc)
    have hreturn : CodePoint.carriageReturn ∉ joinWith [CodePoint.newline] ls := fun hmem =>
      absurd (hmarks _ hmem) (by decide)
    have hsame : ∀ c ∈ joinWith [CodePoint.newline] ls, c.asNewline = c := by
      intro c hc
      rcases hmarks c hc with rfl | hplain
      · rfl
      · rw [CodePoint.asNewline, hplain, if_neg Bool.false_ne_true]
    have hnewline : ∀ l ∈ ls, CodePoint.newline ∉ l := fun l hl hmem =>
      absurd (h l hl _ hmem) (by decide)
    rw [shownLines, universalNewlines_of_no_return hreturn, List.map_congr_left hsame, List.map_id',
      linesOf_joinWith hne hnewline]

end Text

end NodeClient
