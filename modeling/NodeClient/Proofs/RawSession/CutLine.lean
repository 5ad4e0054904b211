import NodeClient.Proofs.Link.Framing
import NodeClient.Proofs.RawSession.Bytes

/-! A stream that breaks off inside a line. A reader gets what came of that line like any other
line, so a session that comes to it takes it for a reply. -/

namespace NodeClient

/-- The parts of a stream that LF ends. -/
def wholeParts (bytes : Bytes) : List Bytes := (bytes.splitOn 0x0A).dropLast

def wholeLines (bytes : Bytes) : List Text := (wholeParts bytes).map lineText

/-- What a stream holds after its last LF. -/
def cutLine (bytes : Bytes) : Bytes := (bytes.splitOn 0x0A).getLast?.getD []

section NoMark

variable {part : Bytes} (h : (0x0A : UInt8) ∉ part)
include h

theorem wholeParts_cons (rest : Bytes) :
    wholeParts (part ++ 0x0A :: rest) = part :: wholeParts rest := by
  rw [wholeParts, List.splitOn_append_cons_self_of_not_mem h,
    List.dropLast_cons_of_ne_nil (List.splitOn_ne_nil _ _)]
  rfl

theorem cutLine_cons (rest : Bytes) : cutLine (part ++ 0x0A :: rest) = cutLine rest := by
  have hne : rest.splitOn 0x0A ≠ [] := List.splitOn_ne_nil _ _
  rw [cutLine, cutLine, List.splitOn_append_cons_self_of_not_mem h, List.getLast?_cons,
    List.getLast?_eq_some_getLast hne]
  rfl

theorem wholeParts_of_no_mark : wholeParts part = [] := by
  rw [wholeParts, List.splitOn_eq_singleton h]
  rfl

theorem cutLine_of_no_mark : cutLine part = part := by
  rw [cutLine, List.splitOn_eq_singleton h]
  rfl

end NoMark

/-- A stream is its whole parts, each with its LF, and the cut line. -/
theorem wholeParts_append_cutLine (bytes : Bytes) :
    (wholeParts bytes).flatMap (fun part => part ++ [0x0A]) ++ cutLine bytes = bytes := by
  induction bytes using parts_induction (0x0A : UInt8) with
  | nil => rfl
  | last part hpart _ =>
    rw [wholeParts_of_no_mark hpart, cutLine_of_no_mark hpart]
    rfl
  | cons part rest hpart ih =>
    rw [wholeParts_cons hpart, cutLine_cons hpart, List.flatMap_cons, List.append_assoc, ih,
      List.append_assoc]
    rfl

/-- The cut line as one more line, if there is one. -/
def cutLines (bytes : Bytes) : List Text :=
  if cutLine bytes = [] then [] else [lineText (cutLine bytes)]

/-- What is read from a stream are its whole lines, and then the cut line like one of them. -/
theorem streamLines_eq (bytes : Bytes) : streamLines bytes = wholeLines bytes ++ cutLines bytes := by
  induction bytes using parts_induction (0x0A : UInt8) with
  | nil => rfl
  | last part hpart hne =>
    rw [streamLines, streamParts_of_no_mark hpart hne, wholeLines, wholeParts_of_no_mark hpart,
      cutLines, cutLine_of_no_mark hpart, if_neg hne]
    rfl
  | cons part rest hpart ih =>
    rw [wholeLines, wholeParts_cons hpart, cutLines, cutLine_cons hpart, List.map_cons,
      List.cons_append, ← wholeLines, ← cutLines, ← ih, streamLines, streamParts_cons part rest hpart]
    rfl

/-- Up to the cut line, what is read from a stream are its whole lines. -/
theorem take_append_cutLines {u : Bytes} {n : Nat}
    (h : cutLine u = [] ∨ n ≤ (wholeLines u).length) :
    (wholeLines u ++ cutLines u).take n = (wholeLines u).take n ∧
      (n ≤ (wholeLines u ++ cutLines u).length ↔ n ≤ (wholeLines u).length) := by
  rcases h with hcut | hfew
  · rw [cutLines, if_pos hcut, List.append_nil]
    exact ⟨rfl, Iff.rfl⟩
  · rw [List.length_append]
    exact ⟨List.take_append_of_le_length hfew, iff_of_true (Nat.le_add_right_of_le hfew) hfew⟩

/-- The read after the whole lines loses the link just when the stream has no cut line. -/
theorem Connection.receives_cut {d : Connection} {u : Bytes} (hd : d.Flows u) :
    ∃ last, d.usedBy (List.replicate ((wholeLines u).length + 1) .receive) =
        readsOf (wholeLines u) ++ [(.receive, last)] ∧ (Disconnected last ↔ cutLine u = []) := by
  rw [receives_stream hd, streamLines_eq, readsOf_append, List.append_assoc, ← length_readsOf,
    List.take_length_add_append, cutLines]
  by_cases hcut : cutLine u = []
  · rw [if_pos hcut]
    exact ⟨_, rfl, iff_of_true ⟨_, rfl⟩ hcut⟩
  · rw [if_neg hcut]
    refine ⟨_, rfl, iff_of_false ?_ hcut⟩
    rintro ⟨fault, hfault⟩
    cases hfault

namespace RawSession

/-- A session that takes for a reply only what the peer ended with LF: it prints first lines of
these, one for each exchange, and it is lost if its input has more lines than they are. -/
structure KeepsToWhole (t : Terminal) (replies : Bytes) (count : Nat) (session : Ending) : Prop where
  printed : ∃ lines, lines <+: wholeLines replies ∧ lines.length = session.exchanged ∧
    session.connection.journal.output = shown t lines
  outcome : session.outcome = .ok (if count ≤ (wholeLines replies).length then 0 else 3)

/-- Over a link without faults a session gets a reply for each line of its input while the stream
has lines, the cut line among them. So it keeps to the lines that the peer ended just when the
stream breaks off after one of them, or the input ends before the cut line is read. -/
theorem keepsToWhole_iff (tty strict : Bool) (address : Text) (replies input : Bytes) :
    let t : Terminal := ⟨if tty then some promptText else none, strict⟩
    let link := Connection.faultless address replies
    let session := runBytes tty strict link input
    let count := (Text.inputLines (Text.ofInput input)).length
    let whole := wholeLines replies
    let printed := (whole ++ cutLines replies).take count
    (session.outcome = .ok (if count ≤ (whole ++ cutLines replies).length then 0 else 3) ∧
      session.exchanged = printed.length ∧
      session.connection.journal.output = shown t printed) ∧
    (∃ last, link.usedBy (List.replicate (whole.length + 1) .receive) =
      Connection.readsOf whole ++ [(.receive, last)] ∧ (Disconnected last ↔ cutLine replies = [])) ∧
    (KeepsToWhole t replies count session ↔ cutLine replies = [] ∨ count ≤ whole.length) := by
  intro t link session count whole printed
  obtain ⟨hend, hexchanged, houtput⟩ := runBytes_stream tty strict address replies input
  rw [streamLines_eq] at hend hexchanged houtput
  refine ⟨⟨hend, hexchanged, houtput⟩,
    Connection.receives_cut (Connection.flows_faultless address replies), fun h => ?_, fun h => ?_⟩
  · by_contra hcut
    obtain ⟨hcut, hmore⟩ := not_or.mp hcut
    obtain ⟨lines, hwhole, hlength, -⟩ := h.printed
    -- the cut line was printed too, so more was printed than the peer ended
    have hmost : session.exchanged = min count (whole.length + 1) := by
      rw [hexchanged, List.length_take, List.length_append, cutLines, if_neg hcut,
        List.length_singleton]
    have hfewer : session.exchanged ≤ whole.length := hlength ▸ hwhole.length_le
    omega
  · obtain ⟨htake, hcode⟩ := take_append_cutLines h
    rw [htake] at hexchanged houtput
    exact ⟨⟨whole.take count, List.take_prefix count whole, hexchanged.symm, houtput⟩,
      hend.trans (congrArg Except.ok (if_congr hcode rfl rfl))⟩

/-- The peer closes after an answer that it did not end. -/
def cutAnswer : Bytes := [0x70, 0x6F, 0x6E, 0x67]

theorem prints_cut_line :
    let session := runBytes false true (.faultless "h:1" cutAnswer) [0x70, 0x69, 0x6E, 0x67, 0x0A]
    session.connection.journal.output = "pong\n" ∧ session.exchanged = 1 ∧
      session.outcome = .ok 0 ∧ ¬ KeepsToWhole ⟨none, true⟩ cutAnswer 1 session := by
  intro session
  have hend : session.outcome = .ok 0 := toOption_eq_some.mp (by decide +kernel)
  refine ⟨by decide +kernel, by decide +kernel, hend, fun h => ?_⟩
  have hlost : session.outcome = .ok 3 := h.outcome
  rw [hend] at hlost
  cases hlost

end RawSession

end NodeClient
