import NodeClient.Proofs.Client.Output
import NodeClient.Proofs.Client.Pairing
import NodeClient.Proofs.CommandLine.Requests

/-! A command with one request, over a TCP link without faults, that shows its result as JSON. Its
exit code and its output are those of the first line that is not blank. -/

namespace NodeClient

/-- The address that is configured is one of a TCP link, which can be dialed; nothing fails on the
link, and the peer sends these bytes and closes. -/
structure World.Reaches (w : World) (o : Options) (bytes : Bytes) : Prop where
  dialed : ∃ config address host port, Invocation.loaded w o = .ok config ∧
    config.address = .ok address ∧ Endpoint.read address = .ok ⟨some host, some port, none⟩ ∧
    w.peer.dialStop? host port config.timeout = none
  stream : w.peer.stream = .start bytes (fun _ => none) fun _ => none

/-- The exit code of a run that was given this line, if any, for the reply to its one request, with
the journal of the run. -/
inductive Concluded (journal : Journal) : (reply : Option Text) → (code : Nat) → Prop where
  | shown {line : Text} {reply : Reply} {v : Json.Value} (hread : Reply.read line 1 = .ok reply)
      (hbody : reply.body = .result v)
      (houtput : journal.output = v.indented ++ [CodePoint.newline]) :
      Concluded journal (some line) 0
  | ended (houtput : journal.output = []) : Concluded journal none 3
  | refused {line : Text} {f : Failure} (hread : Reply.read line 1 = .error f)
      (houtput : journal.output = []) : Concluded journal (some line) 4
  | rejected {line : Text} {reply : Reply} {e : ErrorObject}
      (hread : Reply.read line 1 = .ok reply) (hbody : reply.body = .error e)
      (houtput : journal.output = [])
      (hlogged : .log .error .cli ("Node returned error " ++ Text.ofInt e.code ++ ": " ++ e.message)
        ∈ journal) : Concluded journal (some line) 5

theorem find?_isReply (lines : List Text) :
    lines.find? isReply = (lines.dropWhile Text.isBlank).head? := by
  rw [← List.head?_filter, filter_isReply]
  cases lines.dropWhile Text.isBlank with
  | nil => rfl
  | cons line rest => rfl

theorem Failure.output_report (f : Failure) : f.report.output = [] := by
  unfold Failure.report
  cases f.hint? <;> rfl

/-- A question that is one call sends one request and prints nothing; its answer is what the first
reply makes of it. -/
theorem Question.answered_once {q : Question} {c : Connection} {bytes : Bytes}
    (hflows : c.Flows bytes) (hacc : q.Accepted) (hq : ∀ epoch limit, q ≠ .blockChain epoch limit) :
    ∃ params line, (Request.mk 1 q.method.name (.arr params)).line = .ok line ∧
      (q.ask (.start c 1)).1 = answerOf c.address 1 ((streamLines bytes).find? isReply) ∧
      (Invocation.trace q c).handed = c.journal.handed ++ [line] ∧
      (Invocation.trace q c).sent = c.journal.sent ++ [wireBytes line] ∧
      (Invocation.trace q c).output = c.journal.output := by
  obtain ⟨args, params, hask, hparams, hargs⟩ := hacc.call hq
  let r := (Client.start c 1).nextRequest q.method.name params
  let k : Call := ⟨.start c 1, q.method.name, args⟩
  have hwritable : r.toValue.writable = true :=
    Request.writable_toValue (Client.withinDigits_start c) (writable_checkedParams hargs hparams)
  have hstart : (Client.start c 1).exchange.connection.Flows bytes := hflows
  obtain ⟨outcome, after, _, hcall, houtcome, -, -, -, -, -, hobserve⟩ :=
    Client.call_flows hstart rfl hparams hwritable
  obtain ⟨line, hline, hhanded⟩ :=
    k.handed_accepted rfl hparams (Client.withinDigits_start c) hargs
  obtain rfl : r.text = line := Except.ok.inj ((Request.line_eq_text hwritable).symm.trans hline)
  have hsent : k.events.sent = [wireBytes r.text] := by
    rw [Call.events, Call.run, hcall]
    exact congrArg Observation.sent hobserve
  have hjournal : (q.ask (.start c 1)).2.exchange.connection.journal = c.journal ++ k.events := by
    rw [hask]
    exact k.journal_run
  have houtput : (q.ask (.start c 1)).2.exchange.connection.journal.output = c.journal.output := by
    rw [hask]
    exact Client.output_call _ _ _
  obtain ⟨closing, hclosed, hpassive, -⟩ := (q.ask (.start c 1)).2.exchange.connection.journal_close
  refine ⟨params, r.text, hline, ?_, ?_, ?_, ?_⟩
  · rw [hask, hcall, houtcome, find?_isReply]
    rfl
  · rw [Invocation.trace, hclosed, hjournal, Journal.handed_append, Journal.handed_append, hhanded,
      hpassive.1, List.append_nil]
  · rw [Invocation.trace, hclosed, hjournal, Journal.sent_append, Journal.sent_append, hsent,
      hpassive.2.1, List.append_nil]
  · rw [Invocation.trace, Connection.output_close, houtput]

namespace Invocation

theorem openLink_of_reaches {w : World} {o : Options} {bytes : Bytes} (h : w.Reaches o bytes) :
    ∃ c, openLink w o = (.ok c, c.journal) ∧ c.Flows bytes ∧ c.journal.handed = [] ∧
      c.journal.sent = [] ∧ c.journal.output = [] := by
  obtain ⟨config, address, host, port, hloaded, haddress, hread, hdialed⟩ := h.dialed
  have hdial : openLink w o = w.peer.dial address host port config.timeout := by
    simp only [openLink_eq, hloaded, haddress, Peer.connect, hread]
  rw [hdial, Peer.dial, hdialed, h.stream]
  exact ⟨_, rfl, ⟨rfl, 0, 0, rfl⟩, rfl, rfl, rfl⟩

theorem printed_json {o : Options} (hjson : o.json = true) (m : Method) (journal : Journal)
    (v : Json.Value) :
    printed o m journal v = (.ok 0, journal ++ [.wrote (v.indented ++ [CodePoint.newline])]) := by
  have hfull : v.indented.isEmpty = false :=
    List.isEmpty_eq_false_iff.mpr (v.write_ne_nil Json.indentedLayout 0)
  simp only [printed, renderResult, hjson, if_true, hfull, Json.Value.hasSurrogate_indented,
    Bool.false_eq_true, if_false]

/-- From this journal on the run sends nothing more, and it ends as the reply decides. -/
def Finishes (i : Invocation) (w : World) (journal : Journal) (reply : Option Text) : Prop :=
  ∃ code, ∃ tail : Journal, i.run w = (.ok code, journal ++ tail) ∧ tail.Passive ∧
    Concluded (journal ++ tail) reply code

theorem finishes_of_failure {w : World} {i : Invocation} {f : Failure} {journal : Journal}
    {reply : Option Text} (h : perform w i = (.error (.failed f), journal))
    (hconcluded : Concluded (journal ++ f.report) reply f.exitCode) :
    i.Finishes w journal reply := by
  refine ⟨f.exitCode, f.report, ?_, f.passive_report, hconcluded⟩
  rw [Invocation.run, h]

/-- Once its question is answered, a run prints the result or reports the failure. -/
theorem finishes_of_answer {w : World} {i : Invocation} {m : Method} {address : Text}
    {reply : Option Text} {journal : Journal} (hjson : i.options.json = true)
    (hsilent : journal.output = [])
    (hperform : perform w i =
      match answerOf address 1 reply with
      | .error stop => (.error stop, journal)
      | .ok v => printed i.options m journal v) : i.Finishes w journal reply := by
  have hreported (f : Failure) : (journal ++ f.report).output = [] := by
    rw [Journal.output_append, hsilent, f.output_report, List.append_nil]
  cases reply with
  | none => exact finishes_of_failure hperform (.ended (hreported _))
  | some line =>
    rw [answerOf, verdict] at hperform
    cases hread : Reply.read line 1 with
    | error f =>
      rw [hread] at hperform
      -- every failure of this kind has one exit code
      obtain ⟨fault, code, rfl⟩ := Reply.refuses_of_read hread
      exact finishes_of_failure hperform (.refused hread (hreported _))
    | ok reply =>
      rw [hread] at hperform
      dsimp only at hperform
      cases hbody : reply.body with
      | error e =>
        rw [hbody] at hperform
        refine finishes_of_failure hperform (.rejected hread hbody (hreported _) ?_)
        exact List.mem_append_right _ List.mem_cons_self
      | result v =>
        rw [hbody] at hperform
        dsimp only at hperform
        rw [printed_json hjson] at hperform
        refine ⟨0, [.wrote (v.indented ++ [CodePoint.newline])], ?_, ⟨rfl, rfl, rfl⟩,
          .shown hread hbody ?_⟩
        · rw [Invocation.run, hperform]
        · rw [Journal.output_append, hsilent]
          exact List.flatMap_singleton _ _

end Invocation

namespace CommandLine

/-- One request is sent, and the first line of the peer that is not blank decides about the exit
code and the output. -/
theorem concluded_by_first_reply {w : World} {words : List Text} {i : Invocation} {q : Question}
    {outcome : Outcome Nat} {journal : Journal} {bytes : Bytes}
    (h : run w words = .ok (i, outcome, journal)) (hjson : i.options.json = true)
    (hchecked : Invocation.Checked w.surroundings i.command (some q))
    (hq : ∀ epoch limit, q ≠ .blockChain epoch limit) (hreaches : w.Reaches i.options bytes) :
    (∃ params line, (Request.mk 1 q.method.name (.arr params)).line = .ok line ∧
        journal.handed = [line] ∧ journal.sent = [wireBytes line]) ∧
      ∃ code, outcome = .ok code ∧
        Concluded journal ((streamLines bytes).find? isReply) code := by
  obtain ⟨hread, hrun⟩ := run_eq_ok.mp h
  have hpassed := Invocation.checked_eq_ok.mpr hchecked
  have hacc := Invocation.accepted_of_checked (withinDigits_of_read hread) hpassed
  obtain ⟨c, hlink, hflows, hhanded, hsent, houtput⟩ := Invocation.openLink_of_reaches hreaches
  obtain ⟨params, line, hline, hanswer, hhanded', hsent', houtput'⟩ :=
    q.answered_once hflows hacc hq
  have hperform := Invocation.perform_eq w i
  rw [hpassed] at hperform
  dsimp only at hperform
  rw [Invocation.query_ok hlink, hanswer] at hperform
  obtain ⟨code, tail, hend, hpassive, hconcluded⟩ :=
    Invocation.finishes_of_answer hjson (houtput'.trans houtput) hperform
  rw [hend] at hrun
  cases hrun
  refine ⟨⟨params, line, hline, ?_, ?_⟩, code, rfl, hconcluded⟩
  · rw [Journal.handed_append, hhanded', hhanded, hpassive.1]
    rfl
  · rw [Journal.sent_append, hsent', hsent, hpassive.2.1]
    rfl

/-- The node does not know the method of its first request. -/
def unknownMethod : Text :=
  (Json.Value.obj [("error", .obj [("code", .int (-32601)), ("message", .str "unknown")]),
    ("id", .int 1)]).compact

/-- The reply comes after a blank line, and the result after it comes too late. -/
def lateResult : List Text := ["", unknownMethod, replyLine 1 (.int 5)]

theorem concluded_by_first_reply_late_result :
    ∃ i journal, run (.answering lateResult) ["--address", "h:1", "--json", "syncStatus"] =
        .ok (i, .ok 5, journal) ∧
      (World.answering lateResult).Reaches i.options (lateResult.flatMap wireBytes) ∧
      Concluded journal (some unknownMethod) 5 := by
  let i : Invocation := ⟨⟨.text "h:1", .absent, true, false⟩, .syncStatus⟩
  have hread : read ["--address", "h:1", "--json", "syncStatus"] = .ok i := rfl
  have hcode : (i.run (.answering lateResult)).1 = .ok 5 :=
    toOption_eq_some.mp (by decide +kernel)
  have hconfig : ((Invocation.loaded (.answering lateResult) i.options).toOption.bind
      fun config => config.address.toOption) = some "h:1" := by decide +kernel
  have hendpoint : Endpoint.read "h:1" = .ok ⟨some "h", some 1, none⟩ :=
    toOption_eq_some.mp (by decide +kernel)
  have hfirst : (streamLines (lateResult.flatMap wireBytes)).find? isReply =
      some unknownMethod := by decide +kernel
  obtain ⟨config, hloaded, haddress⟩ := Option.bind_eq_some_iff.mp hconfig
  have hreaches : (World.answering lateResult).Reaches i.options (lateResult.flatMap wireBytes) :=
    ⟨⟨config, _, _, _, toOption_eq_some.mp hloaded, toOption_eq_some.mp haddress, hendpoint, rfl⟩,
      rfl⟩
  have hrun : run (.answering lateResult) ["--address", "h:1", "--json", "syncStatus"] =
      .ok (i, .ok 5, (i.run (.answering lateResult)).2) :=
    run_eq_ok.mpr ⟨hread, Prod.ext hcode rfl⟩
  obtain ⟨-, code, hsame, hconcluded⟩ := concluded_by_first_reply hrun rfl .syncStatus
    (by rintro epoch limit ⟨⟩) hreaches
  obtain rfl := Except.ok.inj hsame
  rw [hfirst] at hconcluded
  exact ⟨i, _, hrun, hreaches, hconcluded⟩

end CommandLine

end NodeClient
