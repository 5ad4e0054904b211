import NodeClient.Proofs.Client.Call
import NodeClient.Proofs.Rpc.Params

/-! Requests and replies go in pairs over a TCP link without faults: the accepted call number `i`
sends the request with the id `firstId + i` and takes the line number `i` of those that are not
blank, whatever was rejected, refused or malformed before it. -/

namespace NodeClient

structure CallStep where
  command : Text
  args : List Argument

/-- What can be seen of a call: how it ended, what it sent and received, and where it left the
client. -/
structure Observation where
  outcome : Outcome Json.Value
  sent : List Bytes
  received : List Text
  nextId : Int
  pending : Option Int

namespace Client

def observe (before : Client) (outcome : Outcome Json.Value) (after : Client) : Observation :=
  ⟨outcome, (before.since after).sent, (before.since after).received, after.nextId,
    after.exchange.pending⟩

def runCalls (cl : Client) : List CallStep → List Observation
  | [] => []
  | step :: rest =>
    let (outcome, after) := cl.call step.command step.args
    cl.observe outcome after :: after.runCalls rest

end Client

/-- The outcome of a call that takes a line, or finds none. -/
def answerOf (address : Text) (id : Int) : Option Text → Outcome Json.Value
  | none => .error (.failed (.disconnected (.ended address)))
  | some line => verdict line id

def isReply (line : Text) : Bool := !Text.isBlank line

/-- The calls by the book. `accepted` counts the calls that were accepted before; of the lines,
`unread` are left; the replies are the lines that are not blank. -/
def pairedCalls (address : Text) (firstId : Int) (replies : List Text) :
    (accepted : Nat) → (unread : List Text) → List CallStep → List Observation
  | _, _, [] => []
  | accepted, unread, step :: rest =>
    let id := firstId + accepted
    match checkedParams step.command step.args with
    | .error stop =>
      ⟨.error stop, [], [], id, none⟩ :: pairedCalls address firstId replies accepted unread rest
    | .ok params =>
      let request : Request := ⟨id, step.command, .arr params⟩
      let left := unread.dropWhile Text.isBlank
      ⟨answerOf address id replies[accepted]?, [wireBytes request.text],
        unread.takeWhile Text.isBlank ++ left.head?.toList, id + 1, none⟩ ::
          pairedCalls address firstId replies (accepted + 1) left.tail rest

def CallStep.isAccepted (step : CallStep) : Bool :=
  (checkedParams step.command step.args).isOk

theorem CallStep.accepted {step : CallStep} {params : List Json.Value}
    (h : checkedParams step.command step.args = .ok params) : step.isAccepted = true := by
  rw [isAccepted, h]
  rfl

theorem CallStep.not_accepted {step : CallStep} {stop : Stop}
    (h : checkedParams step.command step.args = .error stop) : ¬ step.isAccepted = true := by
  rw [isAccepted, h]
  exact Bool.false_ne_true

/-- A TCP link to a peer that sends these bytes and closes, on which nothing fails. -/
def Connection.faultless (address : Text) (bytes : Bytes) : Connection :=
  ⟨address, false, .stream (.start bytes (fun _ => none) fun _ => none), []⟩

theorem Connection.flows_faultless (address : Text) (bytes : Bytes) :
    (faultless address bytes).Flows bytes := ⟨rfl, 0, 0, rfl⟩

/-- The replies that are left start with the first line that is not blank. -/
theorem filter_isReply (lines : List Text) :
    lines.filter isReply = (lines.dropWhile Text.isBlank).head?.toList ++
      (lines.dropWhile Text.isBlank).tail.filter isReply := by
  induction lines with
  | nil => rfl
  | cons line rest ih =>
    cases hblank : Text.isBlank line with
    | true => simp [isReply, hblank, ih]
    | false => simp [isReply, hblank]

/-- The next reply is that of the next accepted call. -/
theorem replies_step {replies lines : List Text} {accepted : Nat}
    (h : replies.drop accepted = lines.filter isReply) :
    replies[accepted]? = (lines.dropWhile Text.isBlank).head? ∧
      replies.drop (accepted + 1) = (lines.dropWhile Text.isBlank).tail.filter isReply := by
  rw [filter_isReply] at h
  constructor
  · rw [← List.head?_drop, h]
    cases lines.dropWhile Text.isBlank <;> rfl
  · rw [← List.tail_drop, h]
    cases lines.dropWhile Text.isBlank <;> rfl

namespace Client

theorem perform_flows {x : Exchange} {u : Bytes} (h : x.connection.Flows u)
    (hpending : x.pending = none) {r : Request} (hwritable : r.toValue.writable = true) :
    ∃ x' u', ∃ added : Journal,
      perform x r = (answerOf x.connection.address r.id
        ((streamLines u).dropWhile Text.isBlank).head?, x') ∧
      x'.pending = none ∧ x'.connection.Flows u' ∧
      streamLines u' = ((streamLines u).dropWhile Text.isBlank).tail ∧
      x'.connection.address = x.connection.address ∧
      x'.connection.journal = x.connection.journal ++ added ∧ added.sent = [wireBytes r.text] ∧
      added.received = (streamLines u).takeWhile Text.isBlank ++
        ((streamLines u).dropWhile Text.isBlank).head?.toList := by
  obtain ⟨c₁, hsend, hflows, haddress, hjournal⟩ :=
    Connection.send_flows h (frame?_of_plain r.plain_text)
  obtain ⟨c', u', read, hnext, hflows', hrest, haddress', hjournal', hpassive, hreceived⟩ :=
    Exchange.nextLine_flows hflows (Nat.le_of_eq hflows.supply_eq.symm)
  refine ⟨⟨c', none⟩, u', _, ?_, rfl, hflows', hrest, haddress'.trans haddress,
    by rw [hjournal', hjournal, List.append_assoc], ?_, ?_⟩
  · cases hhead : ((streamLines u).dropWhile Text.isBlank).head? with
    | none =>
      rw [hhead, haddress] at hnext
      exact perform_no_reply hpending hwritable hsend hnext
    | some line =>
      rw [hhead] at hnext
      exact perform_replied hpending hwritable hsend hnext
  · rw [Journal.sent_append, hpassive.2.1, List.append_nil]
    rfl
  · rw [Journal.received_append, hreceived]
    rfl

theorem observe_eq {before after : Client} {added : Journal}
    (h : after.journal = before.journal ++ added) (outcome : Outcome Json.Value) :
    before.observe outcome after =
      ⟨outcome, added.sent, added.received, after.nextId, after.exchange.pending⟩ := by
  rw [observe, since_eq h]

theorem call_flows {cl : Client} {u : Bytes} (h : cl.exchange.connection.Flows u)
    (hpending : cl.exchange.pending = none) {command : Text} {args : List Argument}
    {params : List Json.Value} (hparams : checkedParams command args = .ok params)
    (hwritable : (cl.nextRequest command params).toValue.writable = true) :
    ∃ outcome after u', cl.call command args = (outcome, after) ∧
      outcome = answerOf cl.exchange.connection.address cl.nextId
        ((streamLines u).dropWhile Text.isBlank).head? ∧
      after.exchange.pending = none ∧ after.nextId = cl.nextId + 1 ∧
      after.exchange.connection.Flows u' ∧
      streamLines u' = ((streamLines u).dropWhile Text.isBlank).tail ∧
      after.exchange.connection.address = cl.exchange.connection.address ∧
      cl.observe outcome after =
        ⟨outcome, [wireBytes (cl.nextRequest command params).text],
          (streamLines u).takeWhile Text.isBlank ++
            ((streamLines u).dropWhile Text.isBlank).head?.toList, cl.nextId + 1, none⟩ := by
  have hnoted : (cl.noted command params).connection.Flows u := (h.note _).note _
  obtain ⟨x', u', added, hperform, hpending', hflows, hrest, haddress, hjournal, hsent,
    hreceived⟩ := perform_flows hnoted hpending hwritable
  obtain ⟨before, hbefore, hpassive, hunread⟩ := cl.journal_noted command params
  have hwhole : (⟨x', cl.nextId + 1⟩ : Client).journal = cl.journal ++ (before ++ added) := by
    rw [← List.append_assoc, ← hbefore]
    exact hjournal
  refine ⟨_, ⟨x', cl.nextId + 1⟩, u', ?_, rfl, hpending', rfl, hflows, hrest, haddress, ?_⟩
  · rw [call_accepted hparams, hperform]
    rfl
  · rw [observe_eq hwhole, Journal.sent_append, Journal.received_append, hpassive.2.1, hunread,
      hsent, hreceived, hpending']
    rfl

/-- The invariant of a run: what is left of the stream holds the replies that are left, and no
request waits. -/
theorem runCalls_flows {firstId : Int} {replies : List Text} {steps : List CallStep} {cl : Client}
    {u : Bytes} {accepted : Nat} (h : cl.exchange.connection.Flows u)
    (hpending : cl.exchange.pending = none) (hid : cl.nextId = firstId + accepted)
    (hreplies : replies.drop accepted = (streamLines u).filter isReply)
    (hids : ∀ i < steps.countP CallStep.isAccepted, WithinDigits (firstId + (accepted + i : Nat)))
    (hargs : ∀ step ∈ steps, ∀ a ∈ step.args, a.WithinDigits) :
    cl.runCalls steps = pairedCalls cl.exchange.connection.address firstId replies accepted
      (streamLines u) steps := by
  -- on the calls: the stream, the replies and the ids move on together, or none of them does
  induction steps generalizing cl u accepted with
  | nil => rfl
  | cons step rest ih =>
    have hargs' : ∀ step ∈ rest, ∀ a ∈ step.args, a.WithinDigits :=
      fun step hstep => hargs step (List.mem_cons_of_mem _ hstep)
    cases hparams : checkedParams step.command step.args with
    | error stop =>
      -- a rejected call leaves the client as it was, so the invariant still holds for the rest
      rw [List.countP_cons_of_neg (CallStep.not_accepted hparams)] at hids
      have hsame : cl.observe (.error stop) cl = ⟨.error stop, [], [], cl.nextId, none⟩ := by
        rw [observe_eq (List.append_nil cl.journal).symm, hpending]
        rfl
      simp only [runCalls, pairedCalls, call_rejected hparams, hparams, hsame, hid,
        ih h hpending hid hreplies hids hargs']
    | ok params =>
      -- an accepted call takes the next id and the next reply
      rw [List.countP_cons_of_pos (CallStep.accepted hparams)] at hids
      have hwithin : WithinDigits cl.nextId := hid ▸ hids 0 (Nat.succ_pos _)
      have hwritable : (cl.nextRequest step.command params).toValue.writable = true :=
        Request.writable_toValue hwithin
          (writable_checkedParams (hargs step List.mem_cons_self) hparams)
      obtain ⟨outcome, after, u', hcall, houtcome, hpending', hid', hflows, hrest, haddress,
        hobserve⟩ := call_flows h hpending hparams hwritable
      obtain ⟨hreply, hnext⟩ := replies_step hreplies
      rw [← hrest] at hnext
      have hids' : ∀ i < rest.countP CallStep.isAccepted,
          WithinDigits (firstId + (accepted + 1 + i : Nat)) := by
        intro i hi
        have := hids (i + 1) (Nat.succ_lt_succ hi)
        rwa [show accepted + (i + 1) = accepted + 1 + i by omega] at this
      have hid'' : after.nextId = firstId + (accepted + 1 : Nat) := by
        rw [hid', hid]
        push_cast
        omega
      simp only [runCalls, pairedCalls, hcall, hparams]
      rw [hobserve, houtcome, hreply, ih hflows hpending' hid'' hnext hids' hargs', hrest,
        haddress, nextRequest, hid]

end Client

/-- Runs of calls are paired runs. -/
theorem runCalls_eq_pairedCalls (address : Text) (bytes : Bytes) (firstId : Int)
    (steps : List CallStep)
    (hids : ∀ i < steps.countP CallStep.isAccepted, WithinDigits (firstId + (i : Nat)))
    (hargs : ∀ step ∈ steps, ∀ a ∈ step.args, a.WithinDigits) :
    (Client.start (.faultless address bytes) firstId).runCalls steps =
      pairedCalls address firstId ((streamLines bytes).filter isReply) 0 (streamLines bytes)
        steps := by
  refine Client.runCalls_flows (Connection.flows_faultless address bytes) rfl ?_ rfl ?_ hargs
  · simp [Client.start]
  · simpa only [Nat.zero_add] using hids

theorem runCalls_eq_pairedCalls_rejected_blank_late :
    ((Client.start (.faultless "h:1" (wireBytes "" ++ wireBytes (replyLine 1 (.int 5)) ++
        wireBytes "late")) 1).runCalls [⟨"getBlock", []⟩, ⟨"syncStatus", []⟩,
          ⟨"getBlockChain", [.value (.int 5)]⟩, ⟨"syncStatus", []⟩]).map
      (fun o => (o.received, o.nextId)) =
    ([([], 1), (["", replyLine 1 (.int 5)], 2), (["late"], 3), ([], 4)] :
      List (List Text × Int)) := by
  rw [runCalls_eq_pairedCalls]
  · decide +kernel
  · intro i hi
    have hi : i < 3 := hi
    exact .of_lt (by omega)
  · intro step hstep a ha
    simp only [List.mem_cons, List.not_mem_nil, or_false] at hstep
    rcases hstep with rfl | rfl | rfl | rfl
    · cases ha
    · cases ha
    · cases List.mem_singleton.mp ha
      exact Json.Value.writable_int.mpr (.of_lt (by decide))
    · cases ha

end NodeClient
