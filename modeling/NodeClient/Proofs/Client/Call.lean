import NodeClient.Client
import NodeClient.Proofs.Rpc.Exchange
import NodeClient.Proofs.Rpc.Line
import NodeClient.Proofs.Rpc.Reply

/-! What a call does: rejected arguments change nothing; an accepted call uses up one id, hands at
most one line to the link, and its outcome is that of the last line it received. -/

namespace NodeClient

namespace Client

def journal (cl : Client) : Journal := cl.exchange.connection.journal

def since (before after : Client) : Journal := after.journal.drop before.journal.length

theorem since_eq {before after : Client} {added : Journal}
    (h : after.journal = before.journal ++ added) : before.since after = added := by
  rw [since, h, List.drop_left]

end Client

def verdict (line : Text) (id : Int) : Outcome Json.Value :=
  match Reply.read line id with
  | .error failure => .error (.failed failure)
  | .ok reply =>
    match reply.body with
    | .result v => .ok v
    | .error e => .error (.failed (.remote e.code e.message e.data))

theorem answers_of_verdict {line : Text} {id : Int} {v : Json.Value}
    (h : verdict line id = .ok v) : Answers line id v := by
  unfold verdict at h
  split at h
  · exact absurd h (by simp)
  · rename_i reply hread
    split at h
    · rename_i w hbody
      obtain rfl : w = v := Except.ok.inj h
      exact Reply.answers_of_read hread hbody
    · exact absurd h (by simp)

/-- A request can fail to be sent, but never for its form. -/
inductive Stop.OfRequest (c : Connection) : Stop → Prop where
  | link {stop : Stop} (h : stop.OfLink) : OfRequest c stop
  | connect (cause : Cause) : OfRequest c (.failed (.connect c.address cause))
  | foreign {b : Breakdown} (h : PostBreaks c.posts b) : OfRequest c (.broke b)

theorem Stop.OfSend.ofRequest {c : Connection} {r : Request} {stop : Stop}
    (h : stop.OfSend c r.text) : stop.OfRequest c := by
  cases h with
  | link h => exact .link h
  | connect cause => exact .connect cause
  | unencodable h => exact absurd h (by simp [frame?_of_plain r.plain_text])
  | foreign h => exact .foreign h

/-- How an attempt to get a request answered ends, and what it adds to the journal. -/
inductive Attempt (x : Exchange) (r : Request) : Outcome Json.Value → Journal → Prop where
  | slotTaken (pending : Int) (h : x.pending = some pending) (added : Journal)
      (hhanded : added.handed = []) (hreceived : added.received = []) :
      Attempt x r (.error (.broke (.slotTaken pending))) added
  | tooLong (h : r.toValue.writable = false) (added : Journal)
      (hhanded : added.handed = []) (hreceived : added.received = []) :
      Attempt x r (.error (.broke .longInteger)) added
  | notSent (stop : Stop) (h : stop.OfRequest x.connection) (added : Journal)
      (hhanded : added.handed = [r.text]) (hreceived : added.received = []) :
      Attempt x r (.error stop) added
  | noReply (stop : Stop) (h : stop.OfLink) (added : Journal)
      (hhanded : added.handed = [r.text]) : Attempt x r (.error stop) added
  | replied (line : Text) (hwritable : r.toValue.writable = true) (added : Journal)
      (hhanded : added.handed = [r.text]) (hsent : added.sent = [wireBytes r.text])
      (hreceived : added.received.getLast? = some line) (hfull : Text.isBlank line = false) :
      Attempt x r (verdict line r.id) added

theorem Stop.OfRequest.congr {c c' : Connection} {stop : Stop} (haddress : c'.address = c.address)
    (hwire : c'.wire = c.wire) (h : stop.OfRequest c') : stop.OfRequest c := by
  cases h with
  | link h => exact .link h
  | connect cause => exact haddress ▸ .connect cause
  | foreign h => exact .foreign (by rwa [Connection.posts, hwire] at h)

/-- What was noted before an attempt counts as part of it. -/
theorem Attempt.after {x x' : Exchange} {r : Request} {outcome : Outcome Json.Value}
    {before added : Journal} (h : Attempt x' r outcome added) (hpending : x'.pending = x.pending)
    (haddress : x'.connection.address = x.connection.address)
    (hwire : x'.connection.wire = x.connection.wire) (hpassive : before.Passive)
    (hreceived : before.received = []) :
    Attempt x r outcome (before ++ added) := by
  obtain ⟨hhanded, hunsent, -⟩ := hpassive
  cases h with
  | slotTaken pending h _ hh hr =>
    exact .slotTaken pending (hpending ▸ h) _ (by simp [hhanded, hh]) (by simp [hreceived, hr])
  | tooLong h _ hh hr => exact .tooLong h _ (by simp [hhanded, hh]) (by simp [hreceived, hr])
  | notSent stop h _ hh hr =>
    exact .notSent stop (h.congr haddress hwire) _ (by simp [hhanded, hh])
      (by simp [hreceived, hr])
  | noReply stop h _ hh => exact .noReply stop h _ (by simp [hhanded, hh])
  | replied line h _ hh hs hr hfull =>
    exact .replied line h _ (by simp [hhanded, hh]) (by simp [hunsent, hs])
      (by simp [hreceived, hr]) hfull

namespace Client

theorem resultOf_eq_verdict (line : Text) (id : Int) :
    (match (Reply.read line id).mapError Stop.failed with
      | .error stop => .error stop
      | .ok reply => resultOf reply) = verdict line id := by
  unfold verdict
  cases Reply.read line id with
  | error failure => rfl
  | ok reply =>
    obtain ⟨_, body⟩ := reply
    cases body <;> rfl

section Perform

variable {x : Exchange} {r : Request} {c c' : Connection}

theorem perform_taken {pending : Int} (h : x.pending = some pending) :
    perform x r = (.error (.broke (.slotTaken pending)), x) := by
  simp only [perform, Exchange.register, h]

theorem perform_tooLong (hidle : x.pending = none) (h : r.toValue.writable = false) :
    perform x r = (.error (.broke .longInteger), ⟨x.connection, none⟩) := by
  simp [perform, Exchange.register, hidle, post, Request.line, h]

variable (hidle : x.pending = none) (hwritable : r.toValue.writable = true)
include hidle hwritable

/-- An interrupt leaves the place of the request taken, any other stop frees it. -/
theorem perform_not_sent {stop : Stop} (hsend : x.connection.send r.text = (.error stop, c)) :
    ∃ x', perform x r = (.error stop, x') ∧ x'.connection = c ∧
      (stop ≠ .interrupted → x'.pending = none) := by
  have hline : r.line = .ok r.text := Request.line_eq_text hwritable
  refine ⟨(post ⟨x.connection, some r.id⟩ r).2, ?_, ?_, ?_⟩
  · cases stop <;> simp [perform, Exchange.register, hidle, post, hline, hsend]
  · cases stop <;> simp [post, hline, hsend]
  · cases stop <;> simp [post, hline, hsend]

theorem perform_no_reply {stop : Stop} (hsend : x.connection.send r.text = (.ok (), c))
    (hnext : Exchange.nextLine c.supply c = (.error stop, c')) :
    perform x r = (.error stop, ⟨c', none⟩) := by
  have hline : r.line = .ok r.text := Request.line_eq_text hwritable
  simp [perform, Exchange.register, hidle, post, hline, hsend, Exchange.awaitReply,
    Exchange.readReply, hnext]

theorem perform_replied {line : Text} (hsend : x.connection.send r.text = (.ok (), c))
    (hnext : Exchange.nextLine c.supply c = (.ok line, c')) :
    perform x r = (verdict line r.id, ⟨c', none⟩) := by
  have hline : r.line = .ok r.text := Request.line_eq_text hwritable
  have hread : Exchange.readReply c r.id = ((Reply.read line r.id).mapError .failed, c') := by
    simp only [Exchange.readReply, hnext]
  rw [← resultOf_eq_verdict]
  cases hreply : (Reply.read line r.id).mapError Stop.failed <;>
    simp [perform, Exchange.register, hidle, post, hline, hsend, Exchange.awaitReply, hread, hreply]

end Perform

theorem journal_sent {c c' : Connection} {r : Request} (hsend : c.send r.text = (.ok (), c')) :
    c'.journal = c.journal ++ [.handed r.text, .log .debug .transport ("-> " ++ r.text),
      .sent (wireBytes r.text)] := by
  obtain ⟨bytes, hframe, hjournal⟩ := Connection.journal_send_ok (congrArg Prod.fst hsend)
  obtain rfl : wireBytes r.text = bytes :=
    Option.some.inj ((frame?_of_plain r.plain_text).symm.trans hframe)
  rw [hsend] at hjournal
  exact hjournal

theorem perform_cases (x : Exchange) (r : Request) :
    ∃ outcome x', ∃ added : Journal, perform x r = (outcome, x') ∧
      x'.connection.journal = x.connection.journal ++ added ∧ Attempt x r outcome added ∧
      ∀ v, outcome = .ok v → x'.pending = none := by
  have hkept {c : Connection} : c.journal = c.journal ++ [] := (List.append_nil _).symm
  cases hpending : x.pending with
  | some pending =>
    exact ⟨_, x, [], perform_taken hpending, hkept, .slotTaken pending hpending [] rfl rfl,
      fun v hv => by cases hv⟩
  | none =>
    cases hwritable : r.toValue.writable with
    | false =>
      exact ⟨_, _, [], perform_tooLong hpending hwritable, hkept, .tooLong hwritable [] rfl rfl,
        fun v hv => by cases hv⟩
    | true =>
      cases hsend : x.connection.send r.text with
      | mk sent c₁ =>
        cases sent with
        | error stop =>
          obtain ⟨added, hjournal, hquiet⟩ := x.connection.journal_send r.text
          obtain ⟨hhanded, hreceived, -⟩ := Journal.of_no_turns hquiet
          have hstop : stop.OfRequest x.connection :=
            (Connection.send_stop (congrArg Prod.fst hsend)).ofRequest
          obtain ⟨x', hperform, hconnection, -⟩ := perform_not_sent hpending hwritable hsend
          rw [hsend] at hjournal
          refine ⟨.error stop, x', .handed r.text :: added, hperform, ?_,
            .notSent stop hstop _ ?_ hreceived, fun v hv => by cases hv⟩
          · rw [hconnection]
            exact hjournal
          · exact congrArg (r.text :: ·) hhanded
        | ok _ =>
          -- from here on nothing is handed over or sent, the line is only waited for
          have hjournal := journal_sent hsend
          obtain ⟨outcome, c', read, hnext, hjournal', hpassive, hend⟩ :=
            Exchange.nextLine_cases c₁ (Nat.le_refl _)
          rw [hjournal, List.append_assoc] at hjournal'
          obtain ⟨line, rfl, hfull, hlast⟩ | ⟨stop, rfl, hlink⟩ := hend
          · refine ⟨_, _, _, perform_replied hpending hwritable hsend hnext, hjournal',
              .replied line hwritable _ ?_ ?_ ?_ hfull, fun _ _ => rfl⟩
            · rw [Journal.handed_append, hpassive.1]
              rfl
            · rw [Journal.sent_append, hpassive.2.1]
              rfl
            · rw [Journal.received_append]
              exact hlast
          · refine ⟨_, _, _, perform_no_reply hpending hwritable hsend hnext, hjournal',
              .noReply stop hlink _ ?_, fun v hv => by cases hv⟩
            rw [Journal.handed_append, hpassive.1]
            rfl

theorem call_rejected {command : Text} {args : List Argument} {stop : Stop}
    (h : checkedParams command args = .error stop) (cl : Client) :
    cl.call command args = (.error stop, cl) := by
  simp [call, Builder.build, h]

def nextRequest (cl : Client) (command : Text) (params : List Json.Value) : Request :=
  ⟨cl.nextId, command, .arr params⟩

/-- The link of a client that has noted down the request it built. -/
def noted (cl : Client) (command : Text) (params : List Json.Value) : Exchange :=
  let shown := (Json.Value.arr params).literal
  let id := Text.ofInt cl.nextId
  let built := "Built request " ++ id ++ " " ++ command ++ " params=" ++ shown
  let calling := "RPC call " ++ command ++ " id=" ++ id ++ " params=" ++ shown
  { cl.exchange with
    connection := (cl.exchange.connection.note (.log .debug .request built)).note
      (.log .debug .client calling) }

/-- An accepted call is an attempt with the next id. -/
theorem call_accepted {command : Text} {args : List Argument} {params : List Json.Value}
    (h : checkedParams command args = .ok params) (cl : Client) :
    cl.call command args =
      ((perform (cl.noted command params) (cl.nextRequest command params)).1,
        ⟨(perform (cl.noted command params) (cl.nextRequest command params)).2,
          cl.nextId + 1⟩) := by
  simp only [call, Builder.build, h]
  rfl

theorem journal_noted (cl : Client) (command : Text) (params : List Json.Value) :
    ∃ before : Journal,
      (cl.noted command params).connection.journal = cl.journal ++ before ∧ before.Passive ∧
        before.received = [] := by
  exact ⟨_, List.append_assoc _ _ _,
    (Journal.passive_log _ _ _).append (Journal.passive_log _ _ _), rfl⟩

theorem call_cases {command : Text} {args : List Argument} {params : List Json.Value}
    (h : checkedParams command args = .ok params) (cl : Client) :
    ∃ outcome cl', ∃ added : Journal, cl.call command args = (outcome, cl') ∧
      cl'.nextId = cl.nextId + 1 ∧ cl'.journal = cl.journal ++ added ∧
      Attempt cl.exchange (cl.nextRequest command params) outcome added ∧
      ∀ v, outcome = .ok v → cl'.exchange.pending = none := by
  obtain ⟨outcome, x', added, hperform, hjournal, hattempt, hpending⟩ :=
    perform_cases (cl.noted command params) (cl.nextRequest command params)
  obtain ⟨before, hbefore, hpassive, hreceived⟩ := cl.journal_noted command params
  refine ⟨outcome, ⟨x', cl.nextId + 1⟩, before ++ added, ?_, rfl, ?_,
    hattempt.after rfl rfl rfl hpassive hreceived, hpending⟩
  · rw [call_accepted h, hperform]
  · rw [← List.append_assoc, ← hbefore]
    exact hjournal

/-- A call that gets a result has sent the bytes of one line. -/
theorem sent_of_call {cl cl' : Client} {command : Text} {args : List Argument} {v : Json.Value}
    (h : cl.call command args = (.ok v, cl')) :
    ∃ bytes, cl'.journal.sent = cl.journal.sent ++ [bytes] := by
  cases hparams : checkedParams command args with
  | error stop =>
    rw [call_rejected hparams] at h
    cases h
  | ok params =>
    obtain ⟨outcome, cl₁, added, hcall, -, hjournal, hattempt, -⟩ := call_cases hparams cl
    rw [h] at hcall
    cases hcall
    -- of all the ways an attempt can end, only the one with a reply gives a result
    generalize hgot : Except.ok v = got at hattempt
    cases hattempt with
    | replied line hwritable _ hhanded hsent =>
      refine ⟨wireBytes (cl.nextRequest command params).text, ?_⟩
      rw [hjournal, Journal.sent_append, hsent]
    | _ => cases hgot

end Client

end NodeClient
