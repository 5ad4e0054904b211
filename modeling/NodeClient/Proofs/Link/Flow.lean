import NodeClient.Proofs.Json.Plain
import NodeClient.Proofs.Rpc.Exchange

/-! An open TCP link without faults: every line that is handed over is sent, and what is received is
the next line of the stream, up to its end. -/

namespace NodeClient

/-- The bytes of a line in UTF-8, and one LF. -/
def wireBytes (line : Text) : Bytes := line.flatMap Utf8.encodeCodePoint ++ [0x0A]

theorem frame?_eq_wireBytes {line : Text} (hkept : Text.dropLineEnd line = line)
    (hplain : line.hasSurrogate = false) : frame? line = some (wireBytes line) := by
  rw [frame?, hkept, Utf8.encodeSmuggling?_of_no_surrogate hplain]
  rfl

theorem frame?_of_plain {line : Text} (h : line.Plain) : frame? line = some (wireBytes line) :=
  frame?_eq_wireBytes (Text.dropEnd_eq_self h.not_lineMark) h.hasSurrogate_eq_false

namespace Connection

/-- An open stream without faults, of which these bytes are still to be read. -/
structure Flows (c : Connection) (unread : Bytes) : Prop where
  notClosed : c.closed = false
  stream : ∃ sends reads, c.wire = .stream ⟨unread, sends, reads, fun _ => none, fun _ => none⟩

variable {c : Connection} {u : Bytes}

theorem Flows.note (h : c.Flows u) (e : Event) : (c.note e).Flows u := ⟨h.notClosed, h.stream⟩

theorem Flows.supply_eq (h : c.Flows u) : c.supply = u.length := by
  obtain ⟨sends, reads, hwire⟩ := h.stream
  rw [supply, hwire]

theorem send_flows (h : c.Flows u) {line : Text} {bytes : Bytes}
    (hbytes : frame? line = some bytes) :
    ∃ c', c.send line = (.ok (), c') ∧ c'.Flows u ∧ c'.address = c.address ∧
      c'.journal = c.journal ++
        [.handed line, .log .debug .transport ("-> " ++ line), .sent bytes] := by
  obtain ⟨sends, reads, hwire⟩ := h.stream
  refine ⟨(c.send line).2, ?_, ⟨?_, sends + 1, reads, ?_⟩, ?_, ?_⟩ <;>
    simp [send, h.notClosed, hbytes, hwire, sendStream]

theorem receive_flows_nil (h : c.Flows []) :
    ∃ c', c.receive = (.error (.failed (.disconnected (.ended c.address))), c') ∧ c'.Flows [] ∧
      c'.address = c.address ∧ c'.journal = c.journal := by
  obtain ⟨sends, reads, hwire⟩ := h.stream
  refine ⟨c.receive.2, ?_, ⟨?_, sends, reads + 1, ?_⟩, ?_, ?_⟩ <;>
    simp [receive, hwire, h.notClosed, receiveStream, lost]

theorem receive_flows (h : c.Flows u) (hu : u ≠ []) :
    ∃ c', c.receive = (.ok (lineText (takeLine u).1), c') ∧ c'.Flows (takeLine u).2 ∧
      c'.address = c.address ∧
      c'.journal = c.journal ++ Journal.reading (lineText (takeLine u).1) := by
  obtain ⟨sends, reads, hwire⟩ := h.stream
  obtain ⟨b, rest, rfl⟩ := List.exists_cons_of_ne_nil hu
  refine ⟨c.receive.2, ?_, ⟨?_, sends, reads + 1, ?_⟩, ?_, ?_⟩ <;>
    simp [receive, hwire, h.notClosed, receiveStream, deliver, Journal.reading]

end Connection

/-- The blank lines at the front of a stream are skipped, one read for each. -/
theorem skips_flows {c : Connection} {u : Bytes} (h : c.Flows u) :
    ∃ c₁ u', Skips c ((streamLines u).takeWhile Text.isBlank) c₁ ∧ c₁.Flows u' ∧
      c₁.address = c.address ∧ streamLines u' = (streamLines u).dropWhile Text.isBlank := by
  induction hlength : u.length using Nat.strongRecOn generalizing c u with
  | _ n ih =>
  by_cases hu : u = []
  · subst hu
    exact ⟨c, [], .none c, h, rfl, rfl⟩
  obtain ⟨c', hread, hflows, haddress, -⟩ := Connection.receive_flows h hu
  have hlines := streamLines_takeLine hu
  cases hblank : Text.isBlank (lineText (takeLine u).1) with
  | false =>
    refine ⟨c, u, ?_, h, rfl, ?_⟩
    · rw [hlines, List.takeWhile_cons, hblank]
      exact .none c
    · rw [hlines, List.dropWhile_cons, hblank]
      rfl
  | true =>
    have hshorter := takeLine_length_lt hu
    obtain ⟨c₁, u', hskips, hflows', haddress', hrest⟩ :=
      ih (takeLine u).2.length (hlength ▸ hshorter) hflows rfl
    refine ⟨c₁, u', ?_, hflows', haddress'.trans haddress, ?_⟩
    · rw [hlines, List.takeWhile_cons, if_pos hblank]
      exact .blank hread hblank hskips
    · rw [hlines, List.dropWhile_cons, if_pos hblank, hrest]

/-- The first line that is not blank, after the blank lines before it; or the end of the stream. -/
theorem Exchange.nextLine_flows {c : Connection} {u : Bytes} (h : c.Flows u) {fuel : Nat}
    (hfuel : u.length ≤ fuel) :
    ∃ c' u' added, nextLine fuel c = (((streamLines u).dropWhile Text.isBlank).head?.elim
        (.error (.failed (.disconnected (.ended c.address)))) .ok, c') ∧
      c'.Flows u' ∧ streamLines u' = ((streamLines u).dropWhile Text.isBlank).tail ∧
      c'.address = c.address ∧ c'.journal = c.journal ++ added ∧ Journal.Passive added ∧
      Journal.received added = (streamLines u).takeWhile Text.isBlank ++
        ((streamLines u).dropWhile Text.isBlank).head?.toList := by
  obtain ⟨c₁, u₁, hskips, hflows, haddress, hrest⟩ := skips_flows h
  have hsupply : c.supply ≤ fuel := h.supply_eq ▸ hfuel
  have hskipped := hskips.journal_eq
  generalize (streamLines u).takeWhile Text.isBlank = blanks at hskips hskipped ⊢
  by_cases hu : u₁ = []
  · subst hu
    obtain ⟨c', hread, hflows', haddress', hjournal⟩ := Connection.receive_flows_nil hflows
    have hnext := (hskips.nextLine_eq (.of_stop hread) hsupply).trans hread
    rw [← hrest]
    refine ⟨c', [], blanks.flatMap Journal.reading, ?_, hflows', rfl, haddress'.trans haddress,
      hjournal.trans hskipped, Journal.passive_readings blanks, ?_⟩
    · rw [hnext, haddress]
      rfl
    · rw [Journal.received_readings]
      exact (List.append_nil blanks).symm
  · obtain ⟨c', hread, hflows', haddress', hjournal⟩ := Connection.receive_flows hflows hu
    have hlines := streamLines_takeLine hu
    have hfull : Text.isBlank (lineText (takeLine u₁).1) = false := by
      have hhead := List.head?_dropWhile_not Text.isBlank (streamLines u)
      rw [← hrest, hlines] at hhead
      exact hhead
    have hnext := (hskips.nextLine_eq (.of_line hread hfull) hsupply).trans hread
    rw [← hrest, hlines]
    refine ⟨c', (takeLine u₁).2, (blanks ++ [lineText (takeLine u₁).1]).flatMap Journal.reading,
      hnext, hflows', rfl, haddress'.trans haddress, ?_, Journal.passive_readings _,
      Journal.received_readings _⟩
    rw [hjournal, hskipped, List.append_assoc, List.flatMap_append, List.flatMap_singleton]

end NodeClient
