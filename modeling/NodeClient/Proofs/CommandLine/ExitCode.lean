import NodeClient.Proofs.CommandLine.Escape

/-! The exit code of bad input. It is given before anything goes to the node, with one exception:
the node itself names a tip below epoch zero, which is taken for a bad argument. -/

namespace NodeClient

theorem Failure.passive_report (f : Failure) : f.report.Passive := by
  unfold Failure.report
  cases f.hint? with
  | none => exact Journal.passive_log _ _ _
  | some hint => exact (Journal.passive_log _ _ _).append (Journal.passive_log _ _ _)

theorem Client.sent_of_height {cl cl' : Client} {tip : Int} (h : cl.height = (.ok tip, cl')) :
    cl'.journal.sent ≠ [] := by
  unfold height at h
  cases hstatus : cl.syncStatus with
  | mk outcome cl₁ =>
    rw [hstatus] at h
    cases outcome with
    | error stop => cases h
    | ok status =>
      obtain ⟨bytes, hsent⟩ := Client.sent_of_call hstatus
      dsimp only at h
      split at h
      · cases h
        rw [hsent]
        exact List.append_ne_nil_of_right_ne_nil _ (List.cons_ne_nil _ _)
      · cases h

namespace Invocation

/-- A listing counts back from the tip, its limit passes the local check, the link opens, and the
node names a tip below epoch zero. -/
def TipRefused (i : Invocation) (w : World) : Prop :=
  ∃ e limit c journal tip cl, i.command = .blockChain (some e) limit ∧ e < 0 ∧
    Epoch.checkLimit limit = .ok () ∧ openLink w i.options = (.ok c, journal) ∧
    (Client.start c 1).height = (.ok tip, cl) ∧ tip < 0

theorem checked_blockChain_iff {s : Surroundings} {command : Command} {epoch limit : Option Int} :
    checked s command = .ok (some (.blockChain epoch limit)) ↔
      command = .blockChain epoch limit ∧ Epoch.checkLimit limit = .ok () := by
  rw [checked_eq_ok]
  constructor
  · rintro ⟨⟩
    exact ⟨rfl, by assumption⟩
  · rintro ⟨rfl, hlimit⟩
    exact .blockChain hlimit

theorem tipRefused_iff {i : Invocation} {w : World} :
    i.TipRefused w ↔ ∃ q c journal, checked w.surroundings i.command = .ok (some q) ∧
      openLink w i.options = (.ok c, journal) ∧ TipBelowZero q c := by
  constructor
  · rintro ⟨e, limit, c, journal, tip, cl, hcommand, he, hlimit, hlink, hheight, htip⟩
    exact ⟨_, c, journal, checked_blockChain_iff.mpr ⟨hcommand, hlimit⟩, hlink,
      e, limit, tip, cl, rfl, he, hheight, htip⟩
  · rintro ⟨_, c, journal, hchecked, hlink, e, limit, tip, cl, rfl, he, hheight, htip⟩
    obtain ⟨hcommand, hlimit⟩ := checked_blockChain_iff.mp hchecked
    exact ⟨e, limit, c, journal, tip, cl, hcommand, he, hlimit, hlink, hheight, htip⟩

/-- The tip was asked for before it could be refused. -/
theorem sent_trace {c : Connection} {e tip : Int} {limit : Option Int} {cl : Client}
    (hlimit : Epoch.checkLimit limit = .ok ()) (he : e < 0)
    (hheight : (Client.start c 1).height = (.ok tip, cl)) (htip : tip < 0) :
    (trace (.blockChain (some e) limit) c).sent ≠ [] := by
  have hask := Question.ask_below hlimit he hheight htip
  obtain ⟨added, hclosed, -⟩ := (cl.note (Step.resolving e tip)).exchange.connection.journal_close
  have hnoted : (cl.note (Step.resolving e tip)).exchange.connection.journal =
      cl.journal ++ [Step.resolving e tip] := rfl
  have hsent := Client.sent_of_height hheight
  unfold trace
  rw [hask, hclosed, hnoted, Journal.sent_append, Journal.sent_append]
  exact List.append_ne_nil_of_left_ne_nil (List.append_ne_nil_of_left_ne_nil hsent _) _

theorem perform_of_tipRefused {i : Invocation} {w : World} (h : i.TipRefused w) :
    ∃ tip journal, perform w i = (.error (.failed (.arguments (.heightNegative tip))), journal) ∧
      journal.sent ≠ [] := by
  obtain ⟨e, limit, c, opened, tip, cl, hcommand, he, hlimit, hlink, hheight, htip⟩ := h
  have hchecked := (checked_blockChain_iff (s := w.surroundings)).mpr ⟨hcommand, hlimit⟩
  refine ⟨tip, _, ?_, sent_trace hlimit he hheight htip⟩
  rw [perform_eq, hchecked]
  dsimp only
  rw [query_ok hlink, Question.ask_below hlimit he hheight htip]

/-- Without such a tip, a failure with the code of bad input comes before anything is dialed. -/
theorem perform_quiet {i : Invocation} {w : World} (hwithin : i.command.WithinDigits)
    (hnot : ¬ i.TipRefused w) {f : Failure} {journal : Journal}
    (h : perform w i = (.error (.failed f), journal)) (hcode : f.exitCode = 2) : journal = [] := by
  have hperformed := perform_performed (w := w) hwithin
  rw [h] at hperformed
  cases hperformed with
  | rejected => rfl
  | stops hnode =>
    rcases hnode with hinterrupted | ⟨f', hfailed, hlarge⟩
    · cases hinterrupted
    · cases hfailed
      omega
  -- the one failure of this code that comes after the link was used
  | below hchecked hlink hbelow =>
    exact absurd (tipRefused_iff.mpr ⟨_, _, _, hchecked, hlink, hbelow⟩) hnot

/-- A session of raw lines does not end with the code of bad input, nor does a result. -/
theorem perform_ne_two {i : Invocation} {w : World} (hwithin : i.command.WithinDigits) :
    (perform w i).1 ≠ .ok 2 := by
  intro h
  have hperformed := perform_performed (w := w) hwithin
  rw [h] at hperformed
  generalize (perform w i).2 = journal at hperformed
  cases hperformed with
  | done hends =>
    rcases hends with hzero | ⟨f, hcode, hlarge, -⟩
    · cases hzero
    · omega

end Invocation

namespace CommandLine

/-- Bad input is told before anything is dialed or sent, exactly when no tip below epoch zero is
refused. -/
theorem quiet_iff_no_tipRefused {w : World} {words : List Text} {i : Invocation}
    {outcome : Outcome Nat} {journal : Journal}
    (h : run w words = .ok (i, outcome, journal)) :
    (outcome = .ok 2 → journal.dials = [] ∧ journal.sent = []) ↔ ¬ i.TipRefused w := by
  obtain ⟨hread, hrun⟩ := run_eq_ok.mp h
  have hwithin := withinDigits_of_read hread
  constructor
  · intro hquiet hrefused
    obtain ⟨tip, traced, hperform, hsent⟩ := Invocation.perform_of_tipRefused hrefused
    rw [Invocation.run, hperform] at hrun
    cases hrun
    have hnothing := (hquiet rfl).2
    rw [Journal.sent_append] at hnothing
    exact hsent (List.append_eq_nil_iff.mp hnothing).1
  · rintro hnot rfl
    rw [Invocation.run] at hrun
    cases hperform : Invocation.perform w i with
    | mk performed before =>
      rw [hperform] at hrun
      cases performed with
      | ok code =>
        cases hrun
        exact absurd (congrArg Prod.fst hperform) (Invocation.perform_ne_two hwithin)
      | error stop =>
        cases stop with
        | failed f =>
          -- the journal is the report alone, and a report neither dials nor sends
          have hcode : f.exitCode = 2 := Except.ok.inj (congrArg Prod.fst hrun)
          obtain rfl := Invocation.perform_quiet hwithin hnot hperform hcode
          have hreport : f.report = journal := congrArg Prod.snd hrun
          rw [← hreport]
          exact ⟨f.passive_report.2.2, f.passive_report.2.1⟩
        | interrupted => cases hrun
        | broke b => cases hrun

/-- A limit below one is refused. -/
theorem quiet_iff_no_tipRefused_limit :
    ∃ i journal, run (.answering []) ["--address", "h:1", "getBlockChain", "5", "-1"] =
        .ok (i, .ok 2, journal) ∧ journal.dials = [] ∧ journal.sent = [] := by
  let i : Invocation := ⟨⟨.text "h:1", .absent, false, false⟩, .blockChain (some 5) (some (-1))⟩
  have hread : read ["--address", "h:1", "getBlockChain", "5", "-1"] = .ok i := rfl
  have hcode : (i.run (.answering [])).1 = .ok 2 := toOption_eq_some.mp (by decide +kernel)
  have hrun := run_eq_ok.mpr ⟨hread, Prod.ext hcode rfl⟩
  refine ⟨i, _, hrun, (quiet_iff_no_tipRefused hrun).mpr ?_ rfl⟩
  rintro ⟨e, limit, -, -, -, -, hcommand, -, hlimit, -⟩
  cases hcommand
  cases hlimit

/-- The tip of a chain, as the node names it. -/
def statusOf (tip : Int) : Json.Value := .obj [("chain_beacon", .obj [("checkpoint", .int tip)])]

/-- The node names a tip below epoch zero. -/
theorem run_refuses_tip_after_sending :
    ∃ i journal, run (.answering [replyLine 1 (statusOf (-5))])
        ["--address", "h:1", "getBlockChain", "-1"] = .ok (i, .ok 2, journal) ∧
      journal.dials ≠ [] ∧ journal.sent ≠ [] := by
  let i : Invocation := ⟨⟨.text "h:1", .absent, false, false⟩, .blockChain (some (-1)) none⟩
  have hread : read ["--address", "h:1", "getBlockChain", "-1"] = .ok i := rfl
  have hcode : (i.run (.answering [replyLine 1 (statusOf (-5))])).1 = .ok 2 :=
    toOption_eq_some.mp (by decide +kernel)
  refine ⟨i, _, run_eq_ok.mpr ⟨hread, Prod.ext hcode rfl⟩, ?_, ?_⟩
  · exact List.isEmpty_eq_false_iff.mp (by decide +kernel)
  · exact List.isEmpty_eq_false_iff.mp (by decide +kernel)

end CommandLine

end NodeClient
