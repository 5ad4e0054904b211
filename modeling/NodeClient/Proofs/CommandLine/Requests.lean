import NodeClient.Proofs.CommandLine.ExitCode
import NodeClient.Proofs.Rpc.Documented

/-! What a command hands to its link once the link is open: one request, or two for a listing that
counts back from the tip, each with parameters that its method documents. -/

namespace NodeClient

/-- The method of the first request; a listing that counts back from the tip asks for the tip. -/
def Command.firstMethod? : Command → Option Method
  | .raw => none
  | .blockChain (some e) _ => some (if e < 0 then .syncStatus else .blockChain)
  | .blockChain none _ => some .blockChain
  | .block _ => some .block
  | .output _ => some .output
  | .syncStatus => some .syncStatus
  | .inventory _ => some .inventory

/-- The lines that a command hands over: the request of its first method, and for a listing that
counts back from the tip perhaps a second one. -/
inductive Handed (command : Command) : List Text → Prop where
  | one {m : Method} {params : List Json.Value} {line : Text}
      (hmethod : command.firstMethod? = some m) (hparams : m.Documented params)
      (hline : (Request.mk 1 m.name (.arr params)).line = .ok line) : Handed command [line]
  | two {e : Int} {limit : Option Int} {params : List Json.Value} {first second : Text}
      (hcommand : command = .blockChain (some e) limit) (he : e < 0)
      (hfirst : (Request.mk 1 Method.syncStatus.name (.arr [])).line = .ok first)
      (hparams : Method.Documented .blockChain params)
      (hsecond : (Request.mk 2 Method.blockChain.name (.arr params)).line = .ok second) :
      Handed command [first, second]

/-! The requests of a question -/

namespace Question

def step : Question → Step
  | .blockChain epoch limit => .blockChain epoch limit
  | .block hash => .block hash
  | .output pointer => .output (.pointer pointer)
  | .syncStatus => .syncStatus
  | .inventory item => .inventory item

theorem ask_snd (q : Question) (cl : Client) : (q.ask cl).2 = q.step.after cl := by
  cases q <;> rfl

/-- The lines that the calls of a question hand over, on a fresh link. -/
def lines (q : Question) (c : Connection) : List Text :=
  (q.step.calls (.start c 1)).flatMap fun k => k.events.handed

theorem handed_ask (q : Question) (c : Connection) :
    ∃ added : Journal, (q.ask (.start c 1)).2.journal = c.journal ++ added ∧
      added.handed = q.lines c := by
  rw [ask_snd]
  exact (q.step.chain_after (.start c 1)).handed

/-- A question that is one call hands over one line. -/
theorem lines_of_call {q : Question} {c : Connection} {m : Method} {args : List Argument}
    {params : List Json.Value} (hcalls : q.step.calls (.start c 1) = [⟨.start c 1, m.name, args⟩])
    (hparams : checkedParams m.name args = .ok params) (hargs : ∀ a ∈ args, a.WithinDigits) :
    ∃ line, q.lines c = [line] ∧ (Request.mk 1 m.name (.arr params)).line = .ok line := by
  obtain ⟨line, hline, hhanded⟩ :=
    Call.handed_accepted (k := ⟨.start c 1, m.name, args⟩) rfl hparams
      (Client.withinDigits_start c) hargs
  refine ⟨line, ?_, hline⟩
  rw [lines, hcalls, List.flatMap_singleton, hhanded]

theorem firstMethod?_from {first : Int} (h : 0 ≤ first) (limit : Option Int) :
    (Command.blockChain (some first) limit).firstMethod? = some .blockChain :=
  congrArg some (if_neg (Int.not_lt.mpr h))

theorem firstMethod?_back {e : Int} (h : e < 0) (limit : Option Int) :
    (Command.blockChain (some e) limit).firstMethod? = some .syncStatus :=
  congrArg some (if_pos h)

/-- One case for each form of a listing. -/
theorem handed_blockChain {c : Connection} {epoch limit : Option Int}
    (hlimit : Epoch.checkLimit limit = .ok ()) (hepoch : ∀ n, epoch = some n → WithinDigits n)
    (hwithin : ∀ n, limit = some n → WithinDigits n) :
    Handed (.blockChain epoch limit) ((Question.blockChain epoch limit).lines c) := by
  have hnext : WithinDigits ((Client.start c 1).nextId + 1) :=
    .of_lt (by decide : (1 + 1 : Int).natAbs < 10)
  have hidle : (Client.start c 1).exchange.pending = none := rfl
  obtain ⟨requests, hlisting, hlines⟩ :=
    Client.listing hidle hlimit (Client.withinDigits_start c) hnext hepoch hwithin
  change _ = Except.ok ((Question.blockChain epoch limit).lines c) at hlines
  generalize (Question.blockChain epoch limit).lines c = handed at hlines ⊢
  cases hlisting with
  | whole =>
    obtain ⟨line, hline, rfl⟩ := mapM_line_one.mp hlines
    exact .one rfl .wholeChain hline
  | start count =>
    obtain ⟨line, hline, rfl⟩ := mapM_line_one.mp hlines
    exact .one rfl (.chainRange (Int.le_refl 0) (checkLimit_some hlimit)) hline
  | onward h =>
    obtain ⟨line, hline, rfl⟩ := mapM_line_one.mp hlines
    exact .one (firstMethod?_from h none) (.chainFrom h) hline
  | part h count =>
    obtain ⟨line, hline, rfl⟩ := mapM_line_one.mp hlines
    exact .one (firstMethod?_from h (some count)) (.chainRange h (checkLimit_some hlimit)) hline
  | tipless h =>
    have hneg := Int.neg_neg_of_pos (Int.lt_of_lt_of_le Int.one_pos h)
    obtain ⟨line, hline, rfl⟩ := mapM_line_one.mp hlines
    exact .one (firstMethod?_back hneg limit) .syncStatus hline
  | last h =>
    obtain ⟨first, second, hfirst, hsecond, rfl⟩ := mapM_line_two.mp hlines
    have hneg := Int.neg_neg_of_pos (Int.lt_of_lt_of_le Int.one_pos h)
    have hcount := checkLimit_some (Epoch.checkLimit_count hlimit hneg)
    rw [Int.neg_neg] at hcount
    exact .two rfl hneg hfirst (.chainRange (Int.le_max_left 0 _) hcount) hsecond

theorem value_of_checkedItem {s : Surroundings} {raw : Text} {item : Argument}
    (h : Invocation.checkedItem s raw = .ok item) : ∃ v, item = .value v := by
  unfold Invocation.checkedItem at h
  obtain ⟨_, -, h⟩ := bind_eq_ok.mp h
  obtain ⟨v, -, h⟩ := bind_eq_ok.mp h
  obtain ⟨_, -, h⟩ := bind_eq_ok.mp h
  exact ⟨v, (pure_eq_ok.mp h).symm⟩

/-- What passed the local checks is never rejected once the link is open. -/
theorem handed {s : Surroundings} {command : Command} {q : Question} {c : Connection}
    (hwithin : command.WithinDigits) (h : Invocation.Checked s command (some q)) :
    Handed command (q.lines c) := by
  cases h with
  | syncStatus =>
    obtain ⟨line, hlines, hline⟩ :=
      lines_of_call (c := c) (q := .syncStatus) rfl checkedParams_syncStatus (by simp)
    rw [hlines]
    exact .one rfl .syncStatus hline
  | @block _ hash hread =>
    have hhash := isHash_of_readHash hread
    obtain ⟨line, hlines, hline⟩ := lines_of_call (c := c) (q := .block hash) rfl
      (checkedParams_block hhash) (List.forall_mem_singleton.mpr rfl)
    rw [hlines]
    exact .one rfl (.block (isDigest_lowerAscii hhash)) hline
  | @output _ pointer hread =>
    obtain ⟨line, hlines, hline⟩ := lines_of_call (c := c) (q := .output pointer) rfl
      (checkedParams_output pointer)
      (List.forall_mem_singleton.mpr (OutputPointer.withinDigits_of_read hread))
    rw [hlines]
    exact .one rfl pointer.documented_text hline
  | @inventory _ item hitem =>
    obtain ⟨hdigits, params, hparams⟩ := Invocation.accepted_item hitem
    obtain ⟨v, rfl⟩ := value_of_checkedItem hitem
    obtain ⟨line, hlines, hline⟩ := lines_of_call (c := c) (q := .inventory (.value v)) rfl hparams
      (List.forall_mem_singleton.mpr hdigits)
    have hresolved : (Argument.value v).Resolved := trivial
    rw [hlines]
    exact .one rfl (documented_checkedParams (List.forall_mem_singleton.mpr hresolved) hparams)
      hline
  | @blockChain epoch limit hlimit =>
    obtain ⟨hepoch, hcount⟩ := hwithin
    exact handed_blockChain hlimit hepoch hcount

end Question

/-! The journal of a run -/

namespace Journal

/-- The log says that the peer was reached, or that there is an HTTP endpoint to post to. -/
def Linked (j : Journal) : Prop :=
  ∃ address, Peer.info ("Connected to " ++ address) ∈ j ∨
    Peer.info ("Using HTTP endpoint " ++ address) ∈ j

/-- Nothing here was handed to the link or is about opening it. -/
def Aside (j : Journal) : Prop := j.handed = [] ∧ ∀ text, Peer.info text ∉ j

theorem not_linked_of_aside {j : Journal} (h : Aside j) : ¬ Linked j := by
  rintro ⟨address, hmem | hmem⟩
  · exact h.2 _ hmem
  · exact h.2 _ hmem

theorem Aside.append {j k : Journal} (hj : Aside j) (hk : Aside k) : Aside (j ++ k) := by
  refine ⟨?_, fun text htext => ?_⟩
  · rw [handed_append, hj.1, hk.1, List.nil_append]
  · exact (List.mem_append.mp htext).elim (hj.2 text) (hk.2 text)

theorem Linked.of_append {j k : Journal} (h : Linked (j ++ k)) (hk : Aside k) : Linked j := by
  obtain ⟨address, hmem⟩ := h
  refine ⟨address, hmem.imp ?_ ?_⟩
  · exact fun hmem => (List.mem_append.mp hmem).resolve_right (hk.2 _)
  · exact fun hmem => (List.mem_append.mp hmem).resolve_right (hk.2 _)

theorem Linked.append_right {j : Journal} (h : Linked j) (k : Journal) : Linked (j ++ k) := by
  obtain ⟨address, hmem⟩ := h
  exact ⟨address, hmem.imp (List.mem_append_left k) (List.mem_append_left k)⟩

theorem aside_nil : Aside [] := ⟨rfl, fun _ => List.not_mem_nil⟩

end Journal

open Journal (Aside Linked)

theorem Failure.aside_report (f : Failure) : Aside f.report := by
  unfold Failure.report
  cases f.hint? with
  | none => exact ⟨rfl, by simp [reportLine, Peer.info]⟩
  | some hint => exact ⟨rfl, by simp [reportLine, Peer.info]⟩

namespace Invocation

theorem run_journal (w : World) (i : Invocation) :
    ∃ tail, (i.run w).2 = (perform w i).2 ++ tail ∧ Aside tail := by
  rw [Invocation.run]
  cases perform w i with
  | mk outcome journal =>
    cases outcome with
    | ok code => exact ⟨[], (List.append_nil _).symm, Journal.aside_nil⟩
    | error stop =>
      cases stop with
      | failed f => exact ⟨f.report, rfl, f.aside_report⟩
      | interrupted => exact ⟨[interruptNote], rfl, rfl, by simp [interruptNote, Peer.info]⟩
      | broke b => exact ⟨[], (List.append_nil _).symm, Journal.aside_nil⟩

theorem printed_journal (o : Options) (m : Method) (journal : Journal) (v : Json.Value) :
    ∃ tail, (printed o m journal v).2 = journal ++ tail ∧ Aside tail := by
  unfold printed
  dsimp only
  split
  · exact ⟨[], (List.append_nil _).symm, Journal.aside_nil⟩
  · split
    · exact ⟨[], (List.append_nil _).symm, Journal.aside_nil⟩
    · exact ⟨_, rfl, rfl, by simp [Peer.info]⟩

theorem query_journal {w : World} {o : Options} {c : Connection} {journal : Journal}
    (h : openLink w o = (.ok c, journal)) (q : Question) :
    ∃ tail, (query w o q.method fun cl => q.ask cl).2 = trace q c ++ tail ∧ Aside tail := by
  rw [query_ok h]
  split
  · exact ⟨[], (List.append_nil _).symm, Journal.aside_nil⟩
  · exact printed_journal _ _ _ _

theorem trace_eq (q : Question) (c : Connection) :
    ∃ added : Journal, trace q c = c.journal ++ added ∧ added.handed = q.lines c := by
  obtain ⟨added, hjournal, hlines⟩ := q.handed_ask c
  obtain ⟨closing, hclose, hpassive, -⟩ :=
    (q.ask (.start c 1)).2.exchange.connection.journal_close
  have hasked : (q.ask (.start c 1)).2.exchange.connection.journal = c.journal ++ added := hjournal
  refine ⟨added ++ closing, ?_, ?_⟩
  · rw [trace, hclose, hasked, List.append_assoc]
  · rw [Journal.handed_append, hlines, hpassive.1, List.append_nil]

theorem handed_trace {w : World} {o : Options} {c : Connection} {journal : Journal}
    (h : openLink w o = (.ok c, journal)) (q : Question) : (trace q c).handed = q.lines c := by
  have hopened := openLink_opened w o
  rw [h] at hopened
  obtain ⟨added, htrace, hlines⟩ := trace_eq q c
  cases hopened with
  | opened _ _ hfresh => rw [htrace, Journal.handed_append, hfresh, hlines, List.nil_append]

/-- Notes with different beginnings differ. -/
theorem info_ne {start start' : Text} (n : Nat) (hn : n ≤ start.length) (hn' : n ≤ start'.length)
    (hne : start.take n ≠ start'.take n) (rest rest' : Text) :
    Peer.info (start ++ rest) ≠ Peer.info (start' ++ rest') := by
  intro h
  have htext : start ++ rest = start' ++ rest' := (Event.log.inj h).2.2
  have htake := congrArg (List.take n) htext
  rw [List.take_append_of_le_length hn, List.take_append_of_le_length hn'] at htake
  exact hne htake

/-- A dial that does not succeed leaves no word of a link. -/
theorem not_linked_of_dial (p : Peer) {address host : Text} {port : Int} {timeout : Binary64}
    {stop : Stop} {journal : Journal}
    (h : p.dial address host port timeout = (.error stop, journal)) : ¬ Linked journal := by
  unfold Peer.dial at h
  dsimp only at h
  split at h
  · obtain ⟨-, rfl⟩ := Prod.mk.inj h
    rintro ⟨address', hmem | hmem⟩
    · rcases List.mem_cons.mp hmem with hsame | hdial
      · exact info_ne 8 (by decide) (by decide) (by decide) _ _ hsame
      · cases List.mem_singleton.mp hdial
    · rcases List.mem_cons.mp hmem with hsame | hdial
      · exact info_ne 1 (by decide) (by decide) (by decide) _ _ hsame
      · cases List.mem_singleton.mp hdial
  · cases h

theorem not_linked_of_openLink {w : World} {o : Options} {stop : Stop} {journal : Journal}
    (h : openLink w o = (.error stop, journal)) : ¬ Linked journal := by
  have hnothing {journal : Journal} (h : journal = []) : ¬ Linked journal := by
    rw [h]
    exact Journal.not_linked_of_aside Journal.aside_nil
  rw [openLink_eq] at h
  split at h
  · exact hnothing (Prod.mk.inj h).2.symm
  · split at h
    · exact hnothing (Prod.mk.inj h).2.symm
    · unfold Peer.connect at h
      split at h
      · exact hnothing (Prod.mk.inj h).2.symm
      · cases h
      · exact not_linked_of_dial _ h
      · exact hnothing (Prod.mk.inj h).2.symm

theorem linked_of_openLink {w : World} {o : Options} {c : Connection} {journal : Journal}
    (h : openLink w o = (.ok c, journal)) : Linked c.journal := by
  rw [openLink_eq] at h
  split at h
  · cases h
  · split at h
    · cases h
    · unfold Peer.connect at h
      split at h
      · cases h
      · obtain ⟨hlink, -⟩ := Prod.mk.inj h
        obtain rfl := Except.ok.inj hlink
        exact ⟨_, .inr List.mem_cons_self⟩
      · unfold Peer.dial at h
        dsimp only at h
        split at h
        · cases h
        · obtain ⟨hlink, -⟩ := Prod.mk.inj h
          obtain rfl := Except.ok.inj hlink
          exact ⟨_, .inl (List.mem_append_right _ List.mem_cons_self)⟩
      · cases h

/-- The log tells of a link just when the local checks pass and the link opens. -/
theorem linked_perform_iff {w : World} {i : Invocation} (hcommand : i.command ≠ .raw) :
    Linked (perform w i).2 ↔ ∃ q c journal, checked w.surroundings i.command = .ok (some q) ∧
      openLink w i.options = (.ok c, journal) := by
  rw [perform_eq]
  cases hchecked : checked w.surroundings i.command with
  | error stop =>
    apply iff_of_false
    · exact Journal.not_linked_of_aside Journal.aside_nil
    · rintro ⟨q, c, journal, ⟨⟩, -⟩
  | ok question =>
    cases question with
    | none =>
      have hpassed := checked_eq_ok.mp hchecked
      generalize i.command = command at hpassed hcommand
      cases hpassed
      exact absurd rfl hcommand
    | some q =>
      cases hlink : openLink w i.options with
      | mk opened journal =>
        cases opened with
        | error stop =>
          dsimp only
          rw [query_error hlink]
          apply iff_of_false
          · exact not_linked_of_openLink hlink
          · rintro ⟨q', c, journal', -, ⟨⟩⟩
        | ok c =>
          refine iff_of_true ?_ ⟨q, c, journal, rfl, rfl⟩
          obtain ⟨tail, hjournal, -⟩ := query_journal hlink q
          obtain ⟨added, htrace, -⟩ := trace_eq q c
          dsimp only
          rw [hjournal, htrace]
          exact ((linked_of_openLink hlink).append_right added).append_right tail

theorem linked_run {w : World} {i : Invocation} {q : Question} {c : Connection} {journal : Journal}
    (hchecked : checked w.surroundings i.command = .ok (some q))
    (hlink : openLink w i.options = (.ok c, journal)) : Linked (i.run w).2 := by
  have hcommand : i.command ≠ .raw := by
    intro hraw
    rw [hraw] at hchecked
    cases hchecked
  obtain ⟨tail, hjournal, -⟩ := run_journal w i
  rw [hjournal]
  exact ((linked_perform_iff hcommand).mpr ⟨q, c, journal, hchecked, hlink⟩).append_right tail

theorem handed_perform {w : World} {i : Invocation} (hwithin : i.command.WithinDigits)
    (hcommand : i.command ≠ .raw) (hlinked : Linked (perform w i).2) :
    Handed i.command (perform w i).2.handed := by
  obtain ⟨q, c, journal, hchecked, hlink⟩ := (linked_perform_iff hcommand).mp hlinked
  obtain ⟨tail, hjournal, haside⟩ := query_journal hlink q
  rw [perform_eq, hchecked]
  dsimp only
  rw [hjournal, Journal.handed_append, haside.1, List.append_nil, handed_trace hlink]
  exact Question.handed hwithin (checked_eq_ok.mp hchecked)

end Invocation

namespace CommandLine

/-- A command other than a raw session that gets a link hands one request to it, or two, and all of
them in the documented form. -/
theorem handed_of_linked {w : World} {words : List Text} {i : Invocation}
    {outcome : Outcome Nat} {journal : Journal}
    (h : run w words = .ok (i, outcome, journal)) (hcommand : i.command ≠ .raw)
    (hlinked : Linked journal) : Handed i.command journal.handed := by
  obtain ⟨hread, hrun⟩ := run_eq_ok.mp h
  obtain ⟨tail, hjournal, haside⟩ := Invocation.run_journal w i
  rw [hrun] at hjournal
  dsimp only at hjournal
  subst hjournal
  rw [Journal.handed_append, haside.1, List.append_nil]
  exact Invocation.handed_perform (withinDigits_of_read hread) hcommand (hlinked.of_append haside)

/-- The last two blocks of a chain, whose tip the node names. -/
theorem handed_of_linked_tip :
    ∃ i outcome journal, run (.answering [replyLine 1 (statusOf 5)])
        ["--address", "h:1", "getBlockChain", "-2"] = .ok (i, outcome, journal) ∧
      Linked journal ∧ Handed (.blockChain (some (-2)) none) journal.handed := by
  have hread : read ["--address", "h:1", "getBlockChain", "-2"] =
      .ok ⟨⟨.text "h:1", .absent, false, false⟩, .blockChain (some (-2)) none⟩ := rfl
  have hopens : (Invocation.openLink (.answering [replyLine 1 (statusOf 5)])
      ⟨.text "h:1", .absent, false, false⟩).1.toOption.isSome = true := by decide +kernel
  -- what the node answers to the requests is of no matter from here on
  generalize World.answering [replyLine 1 (statusOf 5)] = w at hopens ⊢
  obtain ⟨c, hc⟩ := Option.isSome_iff_exists.mp hopens
  have hrun := run_eq_ok.mpr ⟨hread, (rfl : Invocation.run w _ = _)⟩
  have hlinked := Invocation.linked_run (w := w) (i := ⟨_, .blockChain (some (-2)) none⟩)
    (Invocation.checked_eq_ok.mpr (.blockChain rfl)) (Prod.ext (toOption_eq_some.mp hc) rfl)
  exact ⟨_, _, _, hrun, hlinked, handed_of_linked hrun (by rintro ⟨⟩) hlinked⟩

end CommandLine

end NodeClient
