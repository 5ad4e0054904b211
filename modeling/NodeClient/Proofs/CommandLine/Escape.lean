import NodeClient.Proofs.CommandLine.Ask
import NodeClient.Proofs.Json.Plain

/-! An invocation ends with an exit code, or escapes its own handling of failures. Each way to
escape is a condition on the files, the environment, the words, the input, the system that dials or
the answers of the node. -/

namespace NodeClient

namespace Invocation

/-- Every way in which a breakdown leaves an invocation: a local check meets one, the link cannot be
opened for one, a raw session or the question to the node meets one, or the result has no form that
can be printed. -/
inductive Escape (i : Invocation) (w : World) : Breakdown → Prop where
  | check {b : Breakdown} (h : CheckBreaks w.surroundings i.command b) : Escape i w b
  | opening {question : Option Question} {b : Breakdown}
      (hchecked : checked w.surroundings i.command = .ok question)
      (h : OpenBreaks w i.options b) : Escape i w b
  | raw {c : Connection} {journal : Journal} {b : Breakdown} (hcommand : i.command = .raw)
      (hlink : openLink w i.options = (.ok c, journal))
      (h : RawBreaks (Text.inputLines (Text.ofInput w.input)) c.posts b) : Escape i w b
  | asking {q : Question} {c : Connection} {journal : Journal} {b : Breakdown}
      (hchecked : checked w.surroundings i.command = .ok (some q))
      (hlink : openLink w i.options = (.ok c, journal)) (h : AskBreaks q c b) : Escape i w b
  | printing {q : Question} {c : Connection} {journal : Journal} {v : Json.Value}
      (hchecked : checked w.surroundings i.command = .ok (some q))
      (hlink : openLink w i.options = (.ok c, journal))
      (hanswer : (q.ask (.start c 1)).1 = .ok v) (hjson : i.options.json = false)
      (h : (Shape.interpret q.method.name v).render.hasSurrogate = true) : Escape i w .unencodable

theorem printed_broke_iff {o : Options} {m : Method} {journal : Journal} {v : Json.Value}
    {b : Breakdown} :
    (printed o m journal v).1 = .error (.broke b) ↔
      (o.json = false ∧ (Shape.interpret m.name v).render.hasSurrogate = true) ∧
        b = .unencodable := by
  unfold printed renderResult
  dsimp only
  cases o.json with
  | true =>
    simp only [if_true, Json.Value.hasSurrogate_indented]
    refine iff_of_false ?_ (fun h => by cases h.1.1)
    split
    · rintro ⟨⟩
    · rintro ⟨⟩
  | false =>
    simp only [Bool.false_eq_true, if_false]
    generalize (Shape.interpret m.name v).render = text
    cases htext : text.hasSurrogate with
    | true =>
      have hfull : text.isEmpty = false := by
        cases text with
        | nil => cases htext
        | cons => rfl
      simp only [hfull, Bool.false_eq_true, if_false, if_true]
      constructor
      · rintro ⟨⟩
        exact ⟨⟨trivial, trivial⟩, rfl⟩
      · rintro ⟨-, rfl⟩
        rfl
    | false =>
      refine iff_of_false ?_ (fun h => by cases h.1.2)
      split
      · rintro ⟨⟩
      · rintro ⟨⟩

theorem printed_cases (o : Options) (m : Method) (journal : Journal) (v : Json.Value) :
    (∃ b, (printed o m journal v).1 = .error (.broke b)) ∨
      (printed o m journal v).1 = .ok 0 := by
  unfold printed
  dsimp only
  split
  · exact .inr rfl
  · split
    · exact .inl ⟨_, rfl⟩
    · exact .inr rfl

theorem withLink_error {w : World} {o : Options} {stop : Stop} {journal : Journal} {α : Type}
    (h : openLink w o = (.error stop, journal)) (work : Connection → Outcome α × Connection) :
    withLink w o work = (.error stop, journal) := by
  rw [withLink, h]

theorem withLink_ok {w : World} {o : Options} {c : Connection} {journal : Journal} {α : Type}
    (h : openLink w o = (.ok c, journal)) (work : Connection → Outcome α × Connection) :
    withLink w o work = ((work c).1, (work c).2.close.journal) := by
  rw [withLink, h]

theorem query_error {w : World} {o : Options} {stop : Stop} {journal : Journal}
    (h : openLink w o = (.error stop, journal)) (q : Question) :
    query w o q.method (fun cl => q.ask cl) = (.error stop, journal) := by
  rw [query, withLink_error h]

/-- What a question leaves behind when its link is closed. -/
def trace (q : Question) (c : Connection) : Journal :=
  (q.ask (.start c 1)).2.exchange.connection.close.journal

theorem query_ok {w : World} {o : Options} {c : Connection} {journal : Journal}
    (h : openLink w o = (.ok c, journal)) (q : Question) :
    query w o q.method (fun cl => q.ask cl) =
      match (q.ask (.start c 1)).1 with
      | .error stop => (.error stop, trace q c)
      | .ok v => printed o q.method (trace q c) v := by
  rw [query, withLink_ok h]
  unfold trace
  generalize q.ask (.start c 1) = answered
  obtain ⟨outcome, cl⟩ := answered
  cases outcome <;> rfl

theorem idle_of_openLink {w : World} {o : Options} {c : Connection} {journal : Journal}
    (h : openLink w o = (.ok c, journal)) : c.Idle := by
  have hopened := openLink_opened w o
  rw [h] at hopened
  cases hopened with
  | opened hidle => exact hidle

/-- How the work of an invocation ends: it escapes, is rejected before anything is dialed, stops for
a reason that involves the node, gets a tip below epoch zero, or is done. -/
inductive Performed (w : World) (i : Invocation) : Outcome Nat → Journal → Prop where
  | escapes {b : Breakdown} {journal : Journal} (h : Escape i w b) :
      Performed w i (.error (.broke b)) journal
  | rejected {stop : Stop} (h : ∀ b, stop ≠ .broke b) : Performed w i (.error stop) []
  | stops {stop : Stop} {journal : Journal} (h : stop.FromNode) :
      Performed w i (.error stop) journal
  | below {q : Question} {c : Connection} {journal : Journal} {tip : Int}
      (hchecked : checked w.surroundings i.command = .ok (some q))
      (hlink : openLink w i.options = (.ok c, journal)) (h : TipBelowZero q c) :
      Performed w i (.error (.failed (.arguments (.heightNegative tip)))) (trace q c)
  | done {code : Nat} {journal : Journal} (h : RawSession.EndsWith code journal) :
      Performed w i (.ok code) journal

theorem endsWith_close {code : Nat} {c : Connection} (h : RawSession.EndsWith code c.journal) :
    RawSession.EndsWith code c.close.journal := by
  obtain ⟨added, hjournal, -⟩ := c.journal_close
  rcases h with rfl | ⟨f, hcode, hlarge, text, htext⟩
  · exact .inl rfl
  · refine .inr ⟨f, hcode, hlarge, text, ?_⟩
    rw [hjournal]
    exact List.mem_append_left _ htext

theorem performed_unopened {w : World} {i : Invocation} {question : Option Question} {stop : Stop}
    {journal : Journal} (hchecked : checked w.surroundings i.command = .ok question)
    (hlink : openLink w i.options = (.error stop, journal)) :
    Performed w i (.error stop) journal := by
  have hopened := openLink_opened w i.options
  rw [hlink] at hopened
  cases hopened with
  | breaks h => exact .escapes (.opening hchecked h)
  | refused h => exact .rejected h
  | unreached h => exact .stops h

theorem performed_raw {w : World} {i : Invocation} (hcommand : i.command = .raw) :
    Performed w i (performRaw w i.options).1 (performRaw w i.options).2 := by
  have hchecked : checked w.surroundings i.command = .ok none := by rw [hcommand]; rfl
  cases hlink : openLink w i.options with
  | mk linked journal =>
    cases linked with
    | error stop =>
      rw [performRaw, withLink_error hlink]
      exact performed_unopened hchecked hlink
    | ok c =>
      rw [performRaw, withLink_ok hlink]
      obtain ⟨hfate, hcode⟩ :=
        RawSession.runBytes_fate (idle_of_openLink hlink) w.tty w.input
      dsimp only
      generalize RawSession.runBytes w.tty true c w.input = ending at hfate hcode ⊢
      cases houtcome : ending.outcome with
      | ok code => exact .done (endsWith_close (hcode code houtcome))
      | error stop =>
        rw [houtcome] at hfate
        cases hfate with
        | breaks h => exact .escapes (.raw hcommand hlink h)
        | stops h => exact .stops h

theorem performed_query {w : World} {i : Invocation} {q : Question}
    (hwithin : i.command.WithinDigits)
    (hchecked : checked w.surroundings i.command = .ok (some q)) :
    Performed w i (query w i.options q.method fun cl => q.ask cl).1
      (query w i.options q.method fun cl => q.ask cl).2 := by
  cases hlink : openLink w i.options with
  | mk linked journal =>
    cases linked with
    | error stop =>
      rw [query_error hlink]
      exact performed_unopened hchecked hlink
    | ok c =>
      have hasked := Question.asked (idle_of_openLink hlink).notClosed
        (accepted_of_checked hwithin hchecked)
      rw [query_ok hlink]
      cases hanswer : (q.ask (.start c 1)).1 with
      | error stop =>
        rw [hanswer] at hasked
        rcases hasked with ⟨hbelow, -, tip, htip⟩ | ⟨-, hfate⟩
        · cases htip
          exact .below hchecked hlink hbelow
        · cases hfate with
          | breaks h => exact .escapes (.asking hchecked hlink h)
          | stops h => exact .stops h
      | ok v =>
        dsimp only
        -- a result was got, and all that is left to do is to print it
        rcases printed_cases i.options q.method (trace q c) v with ⟨b, hb⟩ | hdone
        · obtain ⟨⟨hjson, hsurrogate⟩, rfl⟩ := printed_broke_iff.mp hb
          rw [hb]
          exact .escapes (.printing hchecked hlink hanswer hjson hsurrogate)
        · rw [hdone]
          exact .done (.inl rfl)

theorem perform_performed {w : World} {i : Invocation} (hwithin : i.command.WithinDigits) :
    Performed w i (perform w i).1 (perform w i).2 := by
  rw [perform_eq]
  cases hchecked : checked w.surroundings i.command with
  | error stop =>
    dsimp only [stopped]
    cases stop with
    | broke b => exact .escapes (.check (checked_broke_iff.mp hchecked))
    | failed f => exact .rejected fun b hb => by cases hb
    | interrupted => exact .rejected fun b hb => by cases hb
  | ok question =>
    cases question with
    | none =>
      have hpassed := checked_eq_ok.mp hchecked
      -- only a session of raw lines leaves no question
      generalize hcommand : i.command = command at hpassed
      cases hpassed
      exact performed_raw hcommand
    | some q => exact performed_query hwithin hchecked

end Invocation

/-- A world without files and variables, with a node that sends these lines to whoever dials. -/
def World.answering (lines : List Text) : World :=
  let stream : Stream := .start (lines.flatMap wireBytes) (fun _ => none) fun _ => none
  let surroundings : Surroundings := ⟨⟨[], []⟩, ⟨⟨[Path.slash], []⟩, []⟩, fun _ => none⟩
  ⟨surroundings, ⟨none, stream, []⟩, [], false⟩

/-- The same with a silent node, a timeout in the environment and a system that dials. -/
def World.waiting (timeout : Text) : World :=
  let w := World.answering []
  { w with
    surroundings.environment name :=
      if name = ("WITNET_NODE_TIMEOUT" : Text) then some timeout else none
    peer.obstacle := some (.system (fun _ => true) none none) }

namespace CommandLine

theorem run_eq_ok {w : World} {words : List Text} {i : Invocation} {step : Invocation.Step} :
    run w words = .ok (i, step) ↔ read words = .ok i ∧ i.run w = step := by
  unfold run
  rw [map_eq_ok]
  constructor
  · rintro ⟨i, hread, h⟩
    cases h
    exact ⟨hread, rfl⟩
  · rintro ⟨hread, rfl⟩
    exact ⟨i, hread, rfl⟩

example : ∃ i journal, run (.waiting "nan") ["--address", "h:1", "syncStatus"] =
    .ok (i, .error (.broke (.stated "ValueError")), journal) :=
  ⟨⟨⟨.text "h:1", .absent, false, false⟩, .syncStatus⟩, _, rfl⟩

example : ∃ i journal, run (.waiting "10") ["--address", "a..b:1", "syncStatus"] =
    .ok (i, .error (.broke (.stated "UnicodeError")), journal) :=
  ⟨⟨⟨.text "a..b:1", .absent, false, false⟩, .syncStatus⟩, _, rfl⟩

end CommandLine

end NodeClient
