import NodeClient.Proofs.Client.Pairing
import NodeClient.Proofs.RawSession
import NodeClient.Proofs.RawSession.Turns

/-! A raw session is a pipe for bytes: over a link without faults, to a peer that has a reply for
every line, what is sent is what was typed, with LF for every line mark. -/

namespace NodeClient.RawSession

variable {t : Terminal} {c : Connection} {u : Bytes}

theorem ask_flows (t : Terminal) (h : c.Flows u) : (ask t c).Flows u := by
  unfold ask
  split
  · exact h
  · exact h.note _

theorem sent_asking (t : Terminal) : (asking t).sent = [] := by
  unfold asking
  cases t.prompt <;> rfl

/-- What is recorded of a line that goes out. -/
def sending (line : Text) (bytes : Bytes) : Journal :=
  [.handed line, .log .debug .transport ("-> " ++ line), .sent bytes]

/-- What is recorded of a reply that comes and is printed. -/
def replying (reply : Text) : Journal :=
  Journal.reading reply ++ [.wrote (reply ++ [CodePoint.newline])]

/-- One exchange sends the frame of its line and takes one line of the stream. -/
theorem trade_flows (t : Terminal) (h : c.Flows u) (hu : u ≠ []) {line : Text} {bytes : Bytes}
    (hbytes : frame? line = some bytes) :
    ∃ c', trade t (ask t c) line = (.ok (), c') ∧ c'.Flows (takeLine u).2 ∧
      c'.journal = c.journal ++
        (asking t ++ (sending line bytes ++ replying (lineText (takeLine u).1))) := by
  obtain ⟨c₁, hsend, hflows, -, hsent⟩ := Connection.send_flows (ask_flows t h) hbytes
  obtain ⟨c₂, hreceive, hflows', -, hread⟩ := Connection.receive_flows hflows hu
  have hprint := print_printable t c₂ (hasSurrogate_lineText (takeLine u).1)
  refine ⟨c₂.note (.wrote (lineText (takeLine u).1 ++ [CodePoint.newline])), ?_, hflows'.note _, ?_⟩
  · rw [trade, hsend]
    dsimp only
    rw [hreceive]
    exact hprint
  · rw [Connection.journal_note, hread, hsent, journal_ask]
    simp only [List.append_assoc, sending, replying]

/-- At the end of the stream one more line goes out, and the link is lost while its reply is read. -/
theorem run_flows_nil (t : Terminal) (h : c.Flows []) {line : Text} {bytes : Bytes}
    (hbytes : frame? line = some bytes) (rest : List Text) (exchanged : Nat) :
    let session := run t exchanged c (line :: rest)
    session.outcome = .ok 3 ∧ session.exchanged = exchanged ∧ ∃ text,
      session.connection.journal =
        c.journal ++ (asking t ++ (sending line bytes ++ [.log .error .raw text])) := by
  obtain ⟨c₁, hsend, hflows, -, hsent⟩ := Connection.send_flows (ask_flows t h) hbytes
  obtain ⟨c₂, hreceive, -, -, hread⟩ := Connection.receive_flows_nil hflows
  let lost : Stop := .failed (.disconnected (.ended c₁.address))
  have hrun : run t exchanged c (line :: rest) = endedBy lost c₂ exchanged := by
    rw [run, trade, hsend]
    dsimp only
    rw [hreceive]
  have hcode : (endedBy lost c₂ exchanged).outcome = .ok 3 := rfl
  obtain ⟨-, -, text, hlog⟩ := endedBy_ok hcode
  rw [hrun]
  refine ⟨hcode, exchanged_endedBy _ _ _, text, ?_⟩
  rw [hlog, hread, hsent, journal_ask]
  simp only [List.append_assoc, sending]

/-- By induction on the lines: while the stream has lines each of them is a reply, and the line of
the input after the last of these ends the session. -/
theorem run_stream (t : Terminal) (h : c.Flows u) {lines : List Text} {frames : List Bytes}
    (exchanged : Nat) (hframes : lines.map frame? = frames.map some) :
    let session := run t exchanged c lines
    let replies := (streamLines u).take lines.length
    session.outcome = .ok (if lines.length ≤ (streamLines u).length then 0 else 3) ∧
      session.exchanged = exchanged + replies.length ∧
      ∃ added : Journal, session.connection.journal = c.journal ++ added ∧
        added.sent = frames.take ((streamLines u).length + 1) ∧ added.output = shown t replies := by
  induction lines generalizing c u frames exchanged with
  | nil =>
    obtain rfl : frames = [] := List.map_eq_nil_iff.mp hframes.symm
    let ended : Journal :=
      [.log .info .raw ("End of input after " ++ Text.ofNat exchanged ++ " exchanges")]
    refine ⟨rfl, rfl, asking t ++ ended, ?_, ?_, ?_⟩
    · rw [run, Connection.journal_note, journal_ask, List.append_assoc]
    · rw [Journal.sent_append, sent_asking]
      rfl
    · rw [Journal.output_append]
      exact List.append_nil _
  | cons line rest ih =>
    cases frames with
    | nil => cases hframes
    | cons frame frames =>
      obtain ⟨hframe, hrest⟩ := List.cons.inj hframes
      by_cases hu : u = []
      · subst hu
        obtain ⟨hcode, hcount, text, hjournal⟩ := run_flows_nil t h hframe rest exchanged
        refine ⟨hcode, hcount, _, hjournal, ?_, ?_⟩
        · rw [Journal.sent_append, sent_asking]
          rfl
        · rw [Journal.output_append]
          exact List.append_nil _
      · obtain ⟨c', htrade, hflows, hjournal⟩ := trade_flows t h hu hframe
        obtain ⟨hend, hcount, later, hlater, hsent, hshown⟩ := ih hflows (exchanged + 1) hrest
        have hgoes : run t exchanged c (line :: rest) = run t (exchanged + 1) c' rest := by
          rw [run, htrade]
        rw [hgoes, streamLines_takeLine hu]
        refine ⟨?_, ?_, asking t ++ (sending line frame ++ replying (lineText (takeLine u).1)) ++
          later, ?_, ?_, ?_⟩
        · rw [hend]
          simp only [List.length_cons, Nat.add_le_add_iff_right]
        · rw [hcount, List.length_cons, List.take_succ_cons, List.length_cons, Nat.add_assoc,
            Nat.add_comm 1]
        · rw [hlater, hjournal, List.append_assoc]
        · rw [Journal.sent_append, hsent, Journal.sent_append, sent_asking]
          rfl
        · have houtput : (sending line frame ++ replying (lineText (takeLine u).1)).output =
              lineText (takeLine u).1 ++ [CodePoint.newline] := List.append_nil _
          rw [Journal.output_append, hshown, Journal.output_append, houtput, List.length_cons,
            List.take_succ_cons, shown, shown, List.flatMap_cons, List.append_assoc]
          simp only [List.append_assoc]

theorem run_flows (h : c.Flows u) {lines : List Text} {frames : List Bytes} (exchanged : Nat)
    (hframes : lines.map frame? = frames.map some)
    (hsupply : lines.length ≤ (streamLines u).length) :
    (run t exchanged c lines).outcome = .ok 0 ∧ ∃ added : Journal,
      (run t exchanged c lines).connection.journal = c.journal ++ added ∧ added.sent = frames := by
  obtain ⟨hend, -, added, hjournal, hsent, -⟩ := run_stream t h exchanged hframes
  have hcount := congrArg List.length hframes
  rw [List.length_map, List.length_map] at hcount
  rw [if_pos hsupply] at hend
  rw [List.take_of_length_le (by omega)] at hsent
  exact ⟨hend, added, hjournal, hsent⟩

/-- A session on typed bytes over a link without faults: the lines of the stream are its replies, one
for each line of the input. -/
theorem runBytes_stream (tty strict : Bool) (address : Text) (stream input : Bytes) :
    let session := runBytes tty strict (.faultless address stream) input
    let count := (Text.inputLines (Text.ofInput input)).length
    let replies := (streamLines stream).take count
    session.outcome = .ok (if count ≤ (streamLines stream).length then 0 else 3) ∧
      session.exchanged = replies.length ∧
      session.connection.journal.output =
        shown ⟨if tty then some promptText else none, strict⟩ replies := by
  have hframes : (Text.inputLines (Text.ofInput input)).map frame? =
      ((streamParts (unixMarks input)).map fun part => part ++ [0x0A]).map some := by
    rw [frames_ofInput, List.map_map]
    rfl
  obtain ⟨hend, hcount, added, hjournal, -, hshown⟩ :=
    run_stream ⟨if tty then some promptText else none, strict⟩
      (Connection.flows_faultless address stream) 0 hframes
  exact ⟨hend, hcount.trans (Nat.zero_add _), (congrArg Journal.output hjournal).trans hshown⟩

/-- Whatever bytes are typed, over a link without faults, to a peer that has a reply for every line
of them: the session ends well, and it sends these bytes with LF for every line mark. -/
theorem runBytes_sends_input (tty strict : Bool) (address : Text) {replies input : Bytes}
    (hsupply : (streamParts (unixMarks input)).length ≤ (streamParts replies).length) :
    let ending := runBytes tty strict (.faultless address replies) input
    ending.outcome = .ok 0 ∧
      ending.connection.journal.sent.flatten = unixMarks input ++ closingMark input := by
  intro ending
  let frames := (streamParts (unixMarks input)).map fun part => part ++ [0x0A]
  have hframes : (Text.inputLines (Text.ofInput input)).map frame? = frames.map some := by
    rw [frames_ofInput, List.map_map]
    rfl
  have hlines : (Text.inputLines (Text.ofInput input)).length ≤ (streamLines replies).length := by
    have hcount := congrArg List.length hframes
    rw [List.length_map, List.length_map, List.length_map] at hcount
    rwa [hcount, streamLines, List.length_map]
  obtain ⟨hend, added, hjournal, hsent⟩ :=
    run_flows (t := ⟨if tty then some promptText else none, strict⟩)
      (Connection.flows_faultless address replies) 0 hframes hlines
  refine ⟨hend, ?_⟩
  have hwhole : ending.connection.journal = added := hjournal
  rw [hwhole, hsent, flatten_framed (return_not_mem_unixMarks input), closingMark_unixMarks]

/-- An overlong form, a cut character before a CR LF, a lone CR, and a last line without a mark. -/
def roughInput : Bytes := [0xC0, 0xAF, 0xE2, 0x82, 0x0D, 0x0A, 0x0D, 0x61]

theorem runBytes_sends_input_rough :
    let ending := runBytes false true (.faultless "h:1" [0x0A, 0x0A, 0x0A]) roughInput
    ending.outcome = .ok 0 ∧ ending.connection.journal.sent.flatten =
      [0xC0, 0xAF, 0xE2, 0x82, 0x0A, 0x0A, 0x61, 0x0A] :=
  runBytes_sends_input false true "h:1" (by decide)

end NodeClient.RawSession
