import NodeClient.Proofs.Link.Send

/-! The journal of a link only records: whatever was recorded before, a link does the same, and adds
the same to the journal. -/

namespace NodeClient.Connection

/-- The link with another journal. -/
def recording (c : Connection) (j : Journal) : Connection := { c with journal := j }

theorem note_recording (c : Connection) (j : Journal) (e : Event) :
    (c.recording j).note e = c.recording (j ++ [e]) := rfl

theorem sendStream_recording (c : Connection) (s : Stream) (bytes : Bytes) :
    ∃ (outcome : Outcome Unit) (c' : Connection) (added : Journal), ∀ j,
      (c.recording j).sendStream s bytes = (outcome, c'.recording (j ++ added)) := by
  let sent : Connection := { c with wire := .stream { s with sends := s.sends + 1 } }
  cases hfault : s.sendFault s.sends with
  | some cause =>
    refine ⟨.error (stopOf cause (.lostSending c.address)), sent, [], fun j => ?_⟩
    simp only [sendStream, hfault, List.append_nil]
    rfl
  | none =>
    refine ⟨.ok (), sent, [.sent bytes], fun j => ?_⟩
    simp only [sendStream, hfault]
    rfl

theorem sendPost_recording (c : Connection) (posts : List Post) (replies : List Text)
    (bytes : Bytes) :
    ∃ (outcome : Outcome Unit) (c' : Connection) (added : Journal), ∀ j,
      (c.recording j).sendPost posts replies bytes = (outcome, c'.recording (j ++ added)) := by
  let left (replies : List Text) : Connection := { c with wire := .http posts.tail replies }
  cases hpost : posts.head?.getD (.answer 200 []) with
  | raises cause =>
    refine ⟨.error (postStop c.address cause), left replies, [.sent bytes], fun j => ?_⟩
    simp only [sendPost, hpost]
    rfl
  | breaks name =>
    refine ⟨.error (.broke (.stated name)), left replies, [.sent bytes], fun j => ?_⟩
    simp only [sendPost, hpost]
    rfl
  | answer status body =>
    cases hbody : (Text.strip body).isEmpty with
    | true =>
      refine ⟨.error (.failed (.disconnected (.emptyBody c.address status))), left replies,
        [.sent bytes], fun j => ?_⟩
      simp only [sendPost, hpost, hbody, if_true]
      rfl
    | false =>
      refine ⟨.ok (), left (replies ++ [bodyLine body]), [.sent bytes], fun j => ?_⟩
      simp only [sendPost, hpost, hbody, Bool.false_eq_true, if_false]
      rfl

theorem send_recording (c : Connection) (line : Text) :
    ∃ (outcome : Outcome Unit) (c' : Connection) (added : Journal), ∀ j,
      (c.recording j).send line = (outcome, c'.recording (j ++ added)) := by
  let offer : Journal := [.handed line, .log .debug .transport ("-> " ++ line)]
  have hoffer (j : Journal) : (c.recording j).offered line = c.recording (j ++ offer) := by
    simp only [offered, debug, note_recording, List.append_assoc, List.singleton_append, offer]
  cases hclosed : c.closed with
  | true =>
    exact ⟨.error (.failed (.disconnected (.closed c.address))), c, [.handed line],
      fun j => send_closed (c := c.recording j) hclosed line⟩
  | false =>
    cases hframe : frame? line with
    | none =>
      refine ⟨.error (.broke .unencodable), c, offer, fun j => ?_⟩
      rw [← hoffer]
      simp only [send, closed_note, hframe]
      exact if_neg (Bool.eq_false_iff.mp hclosed)
    | some bytes =>
      cases hwire : c.wire with
      | stream s =>
        obtain ⟨outcome, c', added, hsend⟩ := sendStream_recording c s bytes
        refine ⟨outcome, c', offer ++ added, fun j => ?_⟩
        rw [send_stream (c := c.recording j) hclosed hframe hwire, hoffer, hsend,
          List.append_assoc]
      | http posts replies =>
        obtain ⟨outcome, c', added, hsend⟩ := sendPost_recording c posts replies bytes
        refine ⟨outcome, c', offer ++ added, fun j => ?_⟩
        rw [send_http (c := c.recording j) hclosed hframe hwire, hoffer, hsend,
          List.append_assoc]

theorem deliver_recording (c : Connection) (j : Journal) (line : Text) :
    (c.recording j).deliver line = (.ok line, c.recording (j ++ Journal.reading line)) := by
  simp only [deliver, debug, note_recording, List.append_assoc, List.singleton_append]
  rfl

theorem receiveStream_recording (c : Connection) (s : Stream) :
    ∃ (outcome : Outcome Text) (c' : Connection) (added : Journal), ∀ j,
      (c.recording j).receiveStream s = (outcome, c'.recording (j ++ added)) := by
  let read (unread : Bytes) : Connection :=
    { c with wire := .stream { s with reads := s.reads + 1, unread := unread } }
  cases hfault : s.readFault s.reads with
  | some cause =>
    refine ⟨.error (stopOf cause (.lostReading c.address)), read s.unread, [], fun j => ?_⟩
    simp only [receiveStream, hfault, List.append_nil]
    rfl
  | none =>
    cases hunread : s.unread with
    | nil =>
      refine ⟨.error (.failed (.disconnected (.ended c.address))), read s.unread, [],
        fun j => ?_⟩
      simp only [receiveStream, hfault, hunread, List.append_nil]
      rfl
    | cons b rest =>
      let line := takeLine (b :: rest)
      refine ⟨.ok (lineText line.1), read line.2, Journal.reading (lineText line.1),
        fun j => ?_⟩
      rw [← deliver_recording]
      simp only [receiveStream, hfault, hunread]
      rfl

theorem receive_recording (c : Connection) :
    ∃ (outcome : Outcome Text) (c' : Connection) (added : Journal), ∀ j,
      (c.recording j).receive = (outcome, c'.recording (j ++ added)) := by
  have hwire (j : Journal) : (c.recording j).wire = c.wire := rfl
  have hshut (j : Journal) : (c.recording j).closed = c.closed := rfl
  cases hlink : c.wire with
  | stream s =>
    cases hclosed : c.closed with
    | true =>
      refine ⟨.error (.failed (.disconnected (.closed c.address))), c, [], fun j => ?_⟩
      simp only [receive, hwire, hlink, hshut, hclosed, if_true, List.append_nil]
      rfl
    | false =>
      obtain ⟨outcome, c', added, hreceive⟩ := receiveStream_recording c s
      refine ⟨outcome, c', added, fun j => ?_⟩
      rw [← hreceive]
      simp only [receive, hwire, hlink, hshut, hclosed, Bool.false_eq_true, if_false]
  | http posts replies =>
    cases replies with
    | nil =>
      refine ⟨.error (.failed (.disconnected (.noReply c.address))), c, [], fun j => ?_⟩
      simp only [receive, hwire, hlink, List.append_nil]
      rfl
    | cons line rest =>
      refine ⟨.ok line, { c with wire := .http posts rest }, Journal.reading line, fun j => ?_⟩
      rw [← deliver_recording]
      simp only [receive, hwire, hlink]
      rfl

end NodeClient.Connection
