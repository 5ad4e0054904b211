import NodeClient.Proofs.Client.Steps

/-! A client prints nothing: neither its link nor a call writes to the output, whatever comes of
them. -/

namespace NodeClient

namespace Journal

@[simp] theorem output_reading (line : Text) : output (reading line) = [] := rfl

end Journal

namespace Connection

@[simp] theorem output_note_log (c : Connection) (level : Level) (topic : Topic) (text : Text) :
    (c.note (.log level topic text)).journal.output = c.journal.output := by
  rw [journal_note, Journal.output_append]
  exact List.append_nil _

theorem output_send (c : Connection) (line : Text) :
    (c.send line).2.journal.output = c.journal.output := by
  obtain ⟨added, hjournal, hquiet⟩ := c.journal_send line
  have hadded : Journal.output (.handed line :: added) = [] := (Journal.of_no_turns hquiet).2.2
  rw [hjournal, Journal.output_append, hadded, List.append_nil]

theorem output_receive (c : Connection) : c.receive.2.journal.output = c.journal.output := by
  obtain ⟨line, c', hreceive, -, hjournal⟩ | ⟨stop, c', hreceive, -, hjournal⟩ := receive_cases c
  · rw [hreceive, hjournal, Journal.output_append, Journal.output_reading, List.append_nil]
  · rw [hreceive, hjournal]

theorem output_close (c : Connection) : c.close.journal.output = c.journal.output := by
  unfold close
  split
  · rfl
  · dsimp only
    split
    · rw [journal_debug, journal_note, Journal.output_append, Journal.output_append]
      exact (List.append_nil _).trans (List.append_nil _)
    · rw [journal_note, Journal.output_append]
      exact List.append_nil _

end Connection

namespace Exchange

theorem output_nextLine (fuel : Nat) (c : Connection) :
    (nextLine fuel c).2.journal.output = c.journal.output :=
  nextLine_keeps (fun c => c.journal.output) Connection.output_receive fuel c

theorem output_register (x : Exchange) (id : Int) :
    (x.register id).2.connection.journal.output = x.connection.journal.output := by
  unfold register
  split <;> rfl

theorem output_awaitReply (x : Exchange) (id : Int) :
    (x.awaitReply id).2.connection.journal.output = x.connection.journal.output := by
  have hnext := output_nextLine x.connection.supply x.connection
  unfold awaitReply readReply
  split
  · cases hline : nextLine x.connection.supply x.connection with
    | mk outcome c =>
      rw [hline] at hnext
      cases outcome <;> exact hnext
  · rfl

end Exchange

namespace Client

theorem output_post (x : Exchange) (r : Request) :
    (post x r).2.connection.journal.output = x.connection.journal.output := by
  unfold post
  cases r.line with
  | error stop => rfl
  | ok line =>
    have hsent := x.connection.output_send line
    dsimp only
    cases hsend : x.connection.send line with
    | mk outcome c =>
      rw [hsend] at hsent
      cases outcome with
      | ok _ => exact hsent
      | error stop => cases stop <;> exact hsent

theorem output_perform (x : Exchange) (r : Request) :
    (perform x r).2.connection.journal.output = x.connection.journal.output := by
  have hregistered := x.output_register r.id
  unfold perform
  split
  · rename_i stop x₁ hregister
    rw [hregister] at hregistered
    exact hregistered
  · rename_i x₁ hregister
    rw [hregister] at hregistered
    have hposted := output_post x₁ r
    split
    · rename_i stop x₂ hpost
      rw [hpost] at hposted
      exact hposted.trans hregistered
    · rename_i x₂ hpost
      rw [hpost] at hposted
      have hawaited := x₂.output_awaitReply r.id
      split
      · rename_i stop x₃ hawait
        rw [hawait] at hawaited
        exact hawaited.trans (hposted.trans hregistered)
      · rename_i reply x₃ hawait
        rw [hawait] at hawaited
        exact hawaited.trans (hposted.trans hregistered)

theorem output_call (cl : Client) (command : Text) (args : List Argument) :
    (cl.call command args).2.journal.output = cl.journal.output := by
  cases hparams : checkedParams command args with
  | error stop => rw [call_rejected hparams]
  | ok params =>
    rw [call_accepted hparams]
    refine (output_perform _ _).trans ?_
    exact (Connection.output_note_log _ _ _ _).trans (Connection.output_note_log _ _ _ _)

end Client

end NodeClient
