import NodeClient.Proofs.Chain.Pointer
import NodeClient.Proofs.Json.Plain
import NodeClient.Proofs.Json.Written
import NodeClient.Proofs.Text.Shown
import NodeClient.Proofs.Text.Split
import NodeClient.Shape

/-! The text of a chain. It is one line for each block as long as no digest breaks a line; a digest
that holds a newline and then the beginning of a line looks like two blocks. -/

namespace NodeClient

namespace Shape

/-- The result that these blocks came in. -/
def chainValue (entries : List (Int × Text)) : Json.Value :=
  .arr (entries.map fun entry => .arr [.int entry.1, .str entry.2])

theorem entry?_eq_some {v : Json.Value} {entry : Int × Text} :
    entry? v = some entry ↔ v = .arr [.int entry.1, .str entry.2] := by
  unfold entry?
  split
  · simp [Prod.ext_iff, eq_comm]
  · rename_i hother
    apply iff_of_false
    · rintro ⟨⟩
    · exact hother entry.1 entry.2

theorem mapM_entry?_eq_some {items : List Json.Value} {entries : List (Int × Text)} :
    items.mapM entry? = some entries ↔
      items = entries.map fun entry => .arr [.int entry.1, .str entry.2] := by
  induction items generalizing entries with
  | nil => cases entries <;> simp
  | cons v items ih =>
    simp only [List.mapM_cons, Option.bind_eq_bind, Option.bind_eq_some_iff, Option.pure_def,
      Option.some.injEq, entry?_eq_some, ih]
    cases entries with
    | nil => simp
    | cons entry entries =>
      constructor
      · rintro ⟨first, rfl, rest, rfl, hsame⟩
        obtain ⟨rfl, rfl⟩ := List.cons.inj hsame
        rfl
      · intro h
        obtain ⟨rfl, rfl⟩ := List.cons.inj h
        exact ⟨entry, rfl, entries, rfl, rfl⟩

theorem interpret_eq_blockChain {v : Json.Value} {entries : List (Int × Text)} :
    interpret "getBlockChain" v = .blockChain entries ↔ v = chainValue entries := by
  have hmethod : Method.ofName? "getBlockChain" = some .blockChain := by decide
  rw [interpret, hmethod]
  dsimp only
  constructor
  · intro h
    unfold ofBlockChain at h
    split at h
    · split at h
      · rename_i hentries
        obtain rfl := Shape.blockChain.inj h
        exact congrArg Json.Value.arr (mapM_entry?_eq_some.mp hentries)
      · cases h
    · cases h
  · rintro rfl
    rw [chainValue, ofBlockChain, mapM_entry?_eq_some.mpr rfl]

/-! The lines of a chain -/

/-- What stands in a line before the digest. -/
def entryHead (epoch : Int) : Text := "Block for epoch #" ++ Text.ofInt epoch ++ " had digest "

theorem entryLine_eq (entry : Int × Text) : entryLine entry = entryHead entry.1 ++ entry.2 := rfl

theorem plain_entryHead (epoch : Int) : (entryHead epoch).Plain := by
  rw [entryHead, Text.plain_append, Text.plain_append]
  exact ⟨⟨by decide, Text.plain_ofInt epoch⟩, by decide⟩

theorem entryHead_append_inj {m n : Int} {s t : Text} (h : entryHead m ++ s = entryHead n ++ t) :
    m = n ∧ s = t := by
  have hspace (n : Int) : CodePoint.ofChar ' ' ∉ Text.ofInt n := by
    intro hmem
    rcases mem_ofInt hmem with hminus | hdigit
    · exact absurd hminus (by decide)
    · exact absurd hdigit (by decide)
  have hsplit (n : Int) (s : Text) : entryHead n ++ s =
      "Block for epoch #" ++ (Text.ofInt n ++ CodePoint.ofChar ' ' :: ("had digest " ++ s)) := by
    rw [entryHead, List.append_assoc, List.append_assoc]
    rfl
  rw [hsplit, hsplit, List.append_cancel_left_eq] at h
  have hparts := congrArg (Text.splitFirst (CodePoint.ofChar ' ')) h
  rw [Text.splitFirst_append (hspace m), Text.splitFirst_append (hspace n)] at hparts
  obtain ⟨hepoch, hrest⟩ := Prod.mk.inj hparts
  exact ⟨Json.ofInt_inj.mp hepoch, List.append_cancel_left (Option.some.inj hrest)⟩

/-- What follows the digest of a block in the text of a chain. -/
def continued : List (Int × Text) → Text
  | [] => []
  | entry :: entries => CodePoint.newline :: (blockChain (entry :: entries)).render

theorem render_cons (entry : Int × Text) (entries : List (Int × Text)) :
    (blockChain (entry :: entries)).render =
      entryHead entry.1 ++ (entry.2 ++ continued entries) := by
  cases entries with
  | nil =>
    rw [continued, List.append_nil]
    rfl
  | cons next entries =>
    calc (blockChain (entry :: next :: entries)).render
      _ = entryLine entry ++ [CodePoint.newline] ++ (blockChain (next :: entries)).render := rfl
      _ = entryHead entry.1 ++ (entry.2 ++ continued (next :: entries)) := by
        simp [entryLine_eq, continued]

theorem continued_cons (entry : Int × Text) (entries : List (Int × Text)) :
    continued (entry :: entries) =
      CodePoint.newline :: (entryHead entry.1 ++ (entry.2 ++ continued entries)) :=
  congrArg (List.cons _) (render_cons entry entries)

theorem render_eq_of_continued {entries others : List (Int × Text)}
    (h : continued entries = continued others) :
    (blockChain entries).render = (blockChain others).render := by
  cases entries <;> cases others
  · rfl
  · cases h
  · cases h
  · exact (List.cons.inj h).2

theorem continued_append {entries others : List (Int × Text)}
    (h : continued entries = continued others) (before : List (Int × Text)) :
    continued (before ++ entries) = continued (before ++ others) := by
  induction before with
  | nil => exact h
  | cons entry before ih =>
    rw [List.cons_append, List.cons_append, continued_cons, continued_cons, ih]

/-- This digest holds a newline and then the beginning of a line. -/
def Forges (digest : Text) : Prop :=
  ∃ front epoch rest, digest = front ++ CodePoint.newline :: entryLine (epoch, rest)

/-- A digest that goes on where the text of the other chain has come to a new line forges it. -/
theorem forges_of_continued {digest more : Text} {entries others : List (Int × Text)}
    (h : continued entries = more ++ continued others) (hmore : more ≠ []) :
    Forges (digest ++ more) := by
  cases entries with
  | nil => exact absurd (List.append_eq_nil_iff.mp h.symm).1 hmore
  | cons entry entries =>
    obtain ⟨c, more, rfl⟩ := List.exists_cons_of_ne_nil hmore
    rw [continued_cons, List.cons_append] at h
    obtain ⟨rfl, hsame⟩ := List.cons.inj h
    suffices hhead : ∃ rest, more = entryHead entry.1 ++ rest by
      obtain ⟨rest, rfl⟩ := hhead
      exact ⟨digest, entry.1, rest, rfl⟩
    rcases List.append_eq_append_iff.mp hsame with ⟨rest, hrest, -⟩ | ⟨rest, hhead, hrest⟩
    · exact ⟨rest, hrest⟩
    · cases rest with
      | nil => exact ⟨[], by rw [List.append_nil, hhead, List.append_nil]⟩
      | cons d rest =>
        -- the other text goes on with a newline, and there is none in the head of a line
        cases others with
        | nil => cases hrest
        | cons other others =>
          have hd : CodePoint.newline = d := (List.cons.inj hrest).1
          have hmem : CodePoint.newline ∈ entryHead entry.1 := by
            rw [hhead, hd]
            exact List.mem_append_right _ List.mem_cons_self
          exact absurd (plain_entryHead entry.1 _ hmem) (by decide)

theorem digest_eq {digest digest' : Text} {entries others : List (Int × Text)}
    (h : digest ++ continued entries = digest' ++ continued others) (hdigest : ¬ Forges digest)
    (hdigest' : ¬ Forges digest') : digest = digest' ∧ continued entries = continued others := by
  rcases List.append_eq_append_iff.mp h with ⟨more, rfl, hmore⟩ | ⟨more, rfl, hmore⟩
  · by_cases hnil : more = []
    · subst hnil
      exact ⟨(List.append_nil _).symm, hmore⟩
    · exact absurd (forges_of_continued hmore hnil) hdigest'
  · by_cases hnil : more = []
    · subst hnil
      exact ⟨List.append_nil _, hmore.symm⟩
    · exact absurd (forges_of_continued hmore hnil) hdigest

/-- No digest of a chain looks like the end of one block and the beginning of another. -/
def Unforged (entries : List (Int × Text)) : Prop := ∀ entry ∈ entries, ¬ Forges entry.2

theorem Unforged.eq_of_render {entries others : List (Int × Text)} (h : Unforged entries)
    (hothers : Unforged others)
    (htext : (blockChain entries).render = (blockChain others).render) : entries = others := by
  have hne (entry : Int × Text) (entries : List (Int × Text)) :
      (blockChain (entry :: entries)).render ≠ [] := by
    rw [render_cons]
    exact List.cons_ne_nil _ _
  induction entries generalizing others with
  | nil =>
    cases others with
    | nil => rfl
    | cons other others => exact absurd htext.symm (hne other others)
  | cons entry entries ih =>
    cases others with
    | nil => exact absurd htext (hne entry entries)
    | cons other others =>
      rw [render_cons, render_cons] at htext
      obtain ⟨hepoch, hrest⟩ := entryHead_append_inj htext
      obtain ⟨hdigest, hrest⟩ := digest_eq hrest (h entry List.mem_cons_self)
        (hothers other List.mem_cons_self)
      rw [Prod.ext hepoch hdigest, ih (fun e he => h e (List.mem_cons_of_mem entry he))
        (fun e he => hothers e (List.mem_cons_of_mem other he)) (render_eq_of_continued hrest)]

/-- A digest that looks like two blocks can be cut in two. -/
theorem exists_unforged (entries : List (Int × Text)) :
    ∃ others, Unforged others ∧ (blockChain others).render = (blockChain entries).render := by
  -- every cut takes the head of a line out of the digests
  induction hlength : (entries.map fun entry => entry.2.length).sum using Nat.strongRecOn
    generalizing entries with
  | _ n ih =>
  by_cases h : Unforged entries
  · exact ⟨entries, h, rfl⟩
  · simp only [Unforged, not_forall, not_not] at h
    obtain ⟨⟨epoch, digest⟩, hmem, front, epoch', rest, hdigest⟩ := h
    obtain ⟨before, after, rfl⟩ := List.append_of_mem hmem
    dsimp only at hdigest
    subst hdigest
    have hcut : continued ((epoch, front) :: (epoch', rest) :: after) = continued
        ((epoch, front ++ CodePoint.newline :: entryLine (epoch', rest)) :: after) := by
      simp [continued_cons, entryLine_eq]
    have hless : ((before ++ (epoch, front) :: (epoch', rest) :: after).map
        fun entry => entry.2.length).sum < n := by
      simp only [← hlength, entryLine_eq, List.map_append, List.map_cons, List.sum_append,
        List.sum_cons, List.length_append, List.length_cons]
      omega
    obtain ⟨others, hothers, htext⟩ := ih _ hless _ rfl
    exact ⟨others, hothers, htext.trans (render_eq_of_continued (continued_append hcut before))⟩

/-! What is seen of a chain -/

/-- No digest of a chain breaks a line. -/
def Unbroken (entries : List (Int × Text)) : Prop :=
  ∀ entry ∈ entries, ∀ c ∈ entry.2, c.isLineBreak = false

theorem Unbroken.unforged {entries : List (Int × Text)} (h : Unbroken entries) :
    Unforged entries := by
  rintro entry hentry ⟨front, epoch, rest, hdigest⟩
  have hmem : CodePoint.newline ∈ entry.2 := by
    rw [hdigest]
    exact List.mem_append_right _ List.mem_cons_self
  exact absurd (h entry hentry _ hmem) (by decide)

theorem isLineBreak_of_isPlain {c : CodePoint} (h : c.IsPlain) : c.isLineBreak = false := by
  have hplain : ∀ n < 0x7F, 0x20 ≤ n → lineBreaks.contains n = false := by decide
  exact hplain c.val h.2 h.1

/-- Digests in the form of a hash break no line. -/
theorem unbroken_of_isHash {entries : List (Int × Text)}
    (h : ∀ entry ∈ entries, isHash entry.2 = true) : Unbroken entries := by
  intro entry hentry c hc
  obtain ⟨n, hn⟩ := CodePoint.exists_hexValue? (isHexDigit_of_isHash (h entry hentry) c hc)
  have hlow := CodePoint.le_val_of_hexValue? hn
  have hhigh := CodePoint.val_lt_of_hexValue? hn
  exact isLineBreak_of_isPlain ⟨by omega, by omega⟩

theorem shownLines_render_iff {entries : List (Int × Text)} :
    Text.shownLines (blockChain entries).render = entries.map entryLine ↔ Unbroken entries := by
  have hne : ∀ line ∈ entries.map entryLine, line ≠ [] := by
    intro line hline
    obtain ⟨entry, -, rfl⟩ := List.mem_map.mp hline
    exact List.cons_ne_nil _ _
  have hhead (epoch : Int) : ∀ c ∈ entryHead epoch, c.isLineBreak = false := fun c hc =>
    isLineBreak_of_isPlain (plain_entryHead epoch c hc)
  refine (Text.shownLines_joinWith_iff hne).trans ?_
  simp only [List.forall_mem_map, entryLine_eq, List.forall_mem_append]
  exact forall₂_congr fun entry _ => and_iff_right (hhead entry.1)

end Shape

open Shape (chainValue Unbroken Unforged)

theorem renderResult_chain {v : Json.Value} {entries : List (Int × Text)}
    (h : Shape.interpret "getBlockChain" v = .blockChain entries) :
    renderResult "getBlockChain" v false = (Shape.blockChain entries).render := by
  rw [renderResult, if_neg (by decide), h]

/-- The lines that are seen of a chain are those of its blocks just when no digest breaks a line. A
chain of which no digest goes on with the beginning of another line has a text of its own among such
chains; every other chain shares its text with one of them. -/
theorem renderResult_chain_shown {v : Json.Value} {entries : List (Int × Text)}
    (h : Shape.interpret "getBlockChain" v = .blockChain entries) :
    (Text.shownLines (renderResult "getBlockChain" v false) = entries.map Shape.entryLine ↔
      Unbroken entries) ∧
    (Unforged entries → ∀ w others, Shape.interpret "getBlockChain" w = .blockChain others →
      Unforged others →
      renderResult "getBlockChain" w false = renderResult "getBlockChain" v false → w = v) ∧
    (¬ Unforged entries → ∃ w others, Shape.interpret "getBlockChain" w = .blockChain others ∧
      Unforged others ∧ w ≠ v ∧
      renderResult "getBlockChain" w false = renderResult "getBlockChain" v false) := by
  have hv : v = chainValue entries := Shape.interpret_eq_blockChain.mp h
  rw [renderResult_chain h]
  refine ⟨Shape.shownLines_render_iff, fun hentries w others hw hothers htext => ?_, fun hforged => ?_⟩
  · rw [renderResult_chain hw] at htext
    rw [Shape.interpret_eq_blockChain.mp hw, hv, hothers.eq_of_render hentries htext]
  · obtain ⟨others, hothers, htext⟩ := Shape.exists_unforged entries
    have hw := Shape.interpret_eq_blockChain.mpr (rfl : chainValue others = _)
    refine ⟨chainValue others, others, hw, hothers, ?_, (renderResult_chain hw).trans htext⟩
    rintro rfl
    obtain rfl : others = entries := Shape.blockChain.inj (hw.symm.trans h)
    exact hforged hothers

def plainChain : Json.Value := chainValue [(1, "a"), (2, "b")]

/-- The digest holds the line of a second block. -/
def forgedChain : Json.Value := chainValue [(1, "a\nBlock for epoch #2 had digest b")]

theorem renderResult_chain_shown_plain :
    Shape.interpret "getBlockChain" plainChain = .blockChain [(1, "a"), (2, "b")] ∧
      Text.shownLines (renderResult "getBlockChain" plainChain false) =
        ["Block for epoch #1 had digest a", "Block for epoch #2 had digest b"] ∧
      ∀ w others, Shape.interpret "getBlockChain" w = .blockChain others → Unforged others →
        renderResult "getBlockChain" w false = renderResult "getBlockChain" plainChain false →
        w = plainChain := by
  have hchain : Shape.interpret "getBlockChain" plainChain = .blockChain [(1, "a"), (2, "b")] :=
    Shape.interpret_eq_blockChain.mpr rfl
  have hunbroken : Unbroken [(1, "a"), (2, "b")] := by
    unfold Shape.Unbroken
    decide
  obtain ⟨hlines, hown, -⟩ := renderResult_chain_shown hchain
  exact ⟨hchain, hlines.mpr hunbroken, hown hunbroken.unforged⟩

/-- One block, of which two lines are seen, and its text is that of two blocks. -/
theorem renderResult_chain_shown_forged :
    Shape.interpret "getBlockChain" forgedChain =
        .blockChain [(1, "a\nBlock for epoch #2 had digest b")] ∧
      Text.shownLines (renderResult "getBlockChain" forgedChain false) =
        ["Block for epoch #1 had digest a", "Block for epoch #2 had digest b"] ∧
      renderResult "getBlockChain" forgedChain false =
        renderResult "getBlockChain" plainChain false ∧ forgedChain ≠ plainChain :=
  ⟨Shape.interpret_eq_blockChain.mpr rfl, by decide +kernel, by decide +kernel, by decide +kernel⟩

end NodeClient
