import NodeClient.Proofs.Link.Closed
import NodeClient.Proofs.Link.Flow
import NodeClient.Proofs.Text.Encoded

/-! What one link sends as lines, another receives as the same lines: the frames put together are a
stream whose lines they are. -/

namespace NodeClient

/-- A text that is one line on the wire, and that no end of it is taken from. -/
structure Text.OneLine (line : Text) : Prop where
  noNewline : CodePoint.newline ∉ line
  noReturn : line.getLast? ≠ some CodePoint.carriageReturn
  noSurrogate : line.hasSurrogate = false

namespace Text.OneLine

variable {line : Text} (h : line.OneLine)
include h

theorem dropLineEnd_eq : dropLineEnd line = line := by
  rcases List.eq_nil_or_concat line with rfl | ⟨front, c, rfl⟩
  · rfl
  · have hnewline : c ≠ CodePoint.newline := by
      rintro rfl
      exact h.noNewline (by simp)
    have hreturn : c ≠ CodePoint.carriageReturn := by
      rintro rfl
      exact h.noReturn (by simp)
    have hmark : c.isLineMark = false := by simp [CodePoint.isLineMark, hnewline, hreturn]
    rw [List.concat_eq_append, dropLineEnd, dropEnd_append_of_neg hmark]

theorem frame?_eq : frame? line = some (wireBytes line) :=
  frame?_eq_wireBytes h.dropLineEnd_eq h.noSurrogate

theorem newline_notMem_encoded : 0x0A ∉ line.flatMap Utf8.encodeCodePoint := fun hmem =>
  h.noNewline (Utf8.mem_of_encodeSmuggling? (Utf8.encodeSmuggling?_of_no_surrogate h.noSurrogate)
    hmem (by decide))

theorem lineText_encoded : lineText (line.flatMap Utf8.encodeCodePoint) = line := by
  rw [lineText, Utf8.decodeReplacing_encoded h.noSurrogate, h.dropLineEnd_eq]

theorem streamLines_wireBytes (rest : Bytes) :
    streamLines (wireBytes line ++ rest) = line :: streamLines rest := by
  have hbytes : wireBytes line ++ rest =
      line.flatMap Utf8.encodeCodePoint ++ 0x0A :: rest := by
    rw [wireBytes, List.append_assoc]
    rfl
  rw [streamLines, hbytes, streamParts_cons _ _ h.newline_notMem_encoded, List.map_cons,
    h.lineText_encoded]
  rfl

end Text.OneLine

theorem streamLines_framed {lines : List Text} (h : ∀ line ∈ lines, line.OneLine) :
    streamLines (lines.map wireBytes).flatten = lines := by
  induction lines with
  | nil => rfl
  | cons line rest ih =>
    obtain ⟨hline, hrest⟩ := List.forall_mem_cons.mp h
    rw [List.map_cons, List.flatten_cons, hline.streamLines_wireBytes, ih hrest]

namespace Connection

/-- The bytes that a link sent since it was in an earlier state. -/
def sentSince (before after : Connection) : Bytes :=
  (Journal.sent (after.journal.drop before.journal.length)).flatten

theorem sentSince_eq {before after : Connection} {added : Journal}
    (h : after.journal = before.journal ++ added) :
    before.sentSince after = added.sent.flatten := by
  rw [sentSince, h, List.drop_left]

/-- Lines that are one on the wire all go out, each as its frame. -/
theorem sends_framed {c : Connection} {u : Bytes} (hc : c.Flows u) {lines : List Text}
    (hlines : ∀ line ∈ lines, line.OneLine) :
    (∀ used ∈ c.usedBy (lines.map Use.send), used.2 = .ok none) ∧
      ∃ added : Journal, (c.after (lines.map Use.send)).journal = c.journal ++ added ∧
        added.sent = lines.map wireBytes := by
  induction lines generalizing c with
  | nil => exact ⟨fun _ hused => absurd hused List.not_mem_nil, [], (List.append_nil _).symm, rfl⟩
  | cons line rest ih =>
    obtain ⟨hline, hrest⟩ := List.forall_mem_cons.mp hlines
    obtain ⟨c₁, hsend, hflows, -, hjournal⟩ := send_flows hc hline.frame?_eq
    have hrun : (Use.send line).run c = (.ok none, c₁) := by
      rw [Use.run, hsend]
      rfl
    obtain ⟨hok, later, hlater, hsent⟩ := ih hflows hrest
    let sending : Journal :=
      [.handed line, .log .debug .transport ("-> " ++ line), .sent (wireBytes line)]
    refine ⟨?_, sending ++ later, ?_, ?_⟩
    · rw [List.map_cons, usedBy, hrun]
      exact List.forall_mem_cons.mpr ⟨rfl, hok⟩
    · rw [List.map_cons, after, hrun, hlater, hjournal, List.append_assoc]
    · rw [Journal.sent_append, hsent]
      rfl

/-- Reads that give these lines. -/
def readsOf (lines : List Text) : List Used := lines.map fun line => (.receive, .ok (some line))

theorem readsOf_cons (line : Text) (lines : List Text) :
    readsOf (line :: lines) = (.receive, .ok (some line)) :: readsOf lines := rfl

theorem readsOf_append (lines lines' : List Text) :
    readsOf (lines ++ lines') = readsOf lines ++ readsOf lines' := List.map_append

theorem length_readsOf (lines : List Text) : (readsOf lines).length = lines.length :=
  List.length_map _

/-- A read at the end of a stream. -/
def endedRead (address : Text) : Used :=
  (.receive, .error (.failed (.disconnected (.ended address))))

/-- By induction on the reads: each of them takes the first line that is left, and when none is left
the stream is at its end. -/
theorem receives_stream {d : Connection} {u : Bytes} (hd : d.Flows u) (n : Nat) :
    d.usedBy (List.replicate n .receive) =
      (readsOf (streamLines u) ++ List.replicate n (endedRead d.address)).take n := by
  induction n generalizing d u with
  | zero => rfl
  | succ n ih =>
    rw [List.replicate_succ, usedBy]
    by_cases hu : u = []
    · subst hu
      obtain ⟨d₁, hreceive, hflows, haddress, -⟩ := receive_flows_nil hd
      have hrun : Use.receive.run d =
          (.error (.failed (.disconnected (.ended d.address))), d₁) := by
        rw [Use.run, hreceive]
        rfl
      rw [hrun, ih hflows, haddress]
      rfl
    · obtain ⟨d₁, hreceive, hflows, haddress, -⟩ := receive_flows hd hu
      have hrun : Use.receive.run d = (.ok (some (lineText (takeLine u).1)), d₁) := by
        rw [Use.run, hreceive]
        rfl
      let later := readsOf (streamLines (takeLine u).2) ++ List.replicate n (endedRead d.address)
      have hlong : n ≤ later.length := by
        rw [List.length_append, List.length_replicate]
        exact Nat.le_add_left _ _
      rw [hrun, ih hflows, haddress, streamLines_takeLine hu, List.replicate_succ',
        readsOf_cons, List.cons_append, List.take_succ_cons, ← List.append_assoc]
      exact congrArg _ (List.take_append_of_le_length hlong).symm

/-- The reads of a whole stream, and the one after them. -/
theorem receives_whole_stream {d : Connection} {u : Bytes} (hd : d.Flows u) :
    d.usedBy (List.replicate ((streamLines u).length + 1) .receive) =
      readsOf (streamLines u) ++ [endedRead d.address] := by
  rw [receives_stream hd, ← length_readsOf, List.take_length_add_append]
  rfl

/-- The lines that one link sends are the lines that another receives when their frames are its
stream: each by one read, in their order, and after them the stream is at its end. -/
theorem receives_sent_lines {c d : Connection} {u : Bytes} {lines : List Text}
    (hlines : ∀ line ∈ lines, line.OneLine) (hc : c.Flows u)
    (hd : d.Flows (c.sentSince (c.after (lines.map Use.send)))) :
    (∀ used ∈ c.usedBy (lines.map Use.send), used.2 = .ok none) ∧
      d.usedBy (List.replicate (lines.length + 1) .receive) =
        lines.map (fun line => (.receive, .ok (some line))) ++
          [(.receive, .error (.failed (.disconnected (.ended d.address))))] := by
  obtain ⟨hok, added, hjournal, hsent⟩ := sends_framed hc hlines
  rw [sentSince_eq hjournal, hsent] at hd
  have hreceived := receives_whole_stream hd
  rw [streamLines_framed hlines] at hreceived
  exact ⟨hok, hreceived⟩

/-- Lines of which one is empty, one holds a CR, and one needs up to four bytes for a character. -/
def mixedLines : List Text := ["", "a\rb", "é€😀", "last"]

theorem receives_sent_lines_mixed :
    let c : Connection := ⟨"h:1", false, .stream (.start [] (fun _ => none) fun _ => none), []⟩
    let stream := c.sentSince (c.after (mixedLines.map Use.send))
    let d : Connection := ⟨"h:2", false, .stream (.start stream (fun _ => none) fun _ => none), []⟩
    d.usedBy (List.replicate 5 .receive) =
      mixedLines.map (fun line => (.receive, .ok (some line))) ++
        [(.receive, .error (.failed (.disconnected (.ended "h:2"))))] := by
  intro c stream d
  have hlines : ∀ line ∈ mixedLines, line.OneLine := by
    intro line hline
    simp only [mixedLines, List.mem_cons, List.not_mem_nil, or_false] at hline
    rcases hline with rfl | rfl | rfl | rfl
    all_goals exact ⟨by decide +kernel, by decide +kernel, by decide +kernel⟩
  exact (receives_sent_lines hlines (c := c) (d := d) ⟨rfl, 0, 0, rfl⟩ ⟨rfl, 0, 0, rfl⟩).2

end Connection

end NodeClient
