import Mathlib.Data.List.Basic
import NodeClient.Proofs.Link.Recording
import NodeClient.Proofs.RawSession.Turns

/-! A session at a terminal and one with its input redirected: what is exchanged and logged is the
same, and what is written differs by the prompts alone. -/

namespace NodeClient

def Event.isPrompt : Event → Bool
  | .wrote text => text = RawSession.promptText
  | _ => false

namespace Journal

/-- The journal without the prompts. -/
def unprompted (j : Journal) : Journal := j.filter fun e => !e.isPrompt

@[simp] theorem unprompted_append (j k : Journal) :
    unprompted (j ++ k) = unprompted j ++ unprompted k := List.filter_append j k

theorem filterMap_unprompted {α : Type} {f : Event → Option α}
    (h : ∀ text, f (.wrote text) = none) (j : Journal) :
    j.unprompted.filterMap f = j.filterMap f := by
  rw [unprompted, List.filterMap_filter]
  refine congrArg (List.filterMap · j) (funext fun e => ?_)
  cases e with
  | wrote text => rw [h, ite_self]
  | _ => rfl

/-- A prompt is a turn, so a journal whose turns are no prompts has none. -/
theorem unprompted_of_turns {j : Journal} (h : ∀ e ∈ j.turns, e.isPrompt = false) :
    j.unprompted = j := by
  refine List.filter_eq_self.mpr fun e he => ?_
  cases e with
  | wrote text => rw [h _ (List.mem_filter.mpr ⟨he, rfl⟩), Bool.not_false]
  | _ => rfl

end Journal

namespace RawSession

theorem ask_recording (t : Terminal) (c : Connection) (j : Journal) :
    ask t (c.recording j) = c.recording (j ++ asking t) := by
  unfold ask asking
  cases t.prompt with
  | none => exact congrArg c.recording (List.append_nil j).symm
  | some prompt => rfl

/-- An exchange is the same at every terminal that prints the same texts. -/
theorem trade_recording (strict : Bool) (c : Connection) (line : Text) :
    ∃ (outcome : Outcome Unit) (c' : Connection) (added : Journal), ∀ t j, t.strict = strict →
      trade t (c.recording j) line = (outcome, c'.recording (j ++ added)) := by
  obtain ⟨sent, c₁, sending, hsend⟩ := Connection.send_recording c line
  cases sent with
  | error stop =>
    refine ⟨.error stop, c₁, sending, fun t j _ => ?_⟩
    rw [trade, hsend]
  | ok _ =>
    obtain ⟨read, c₂, reading, hreceive⟩ := Connection.receive_recording c₁
    have hreads (j : Journal) := hreceive (j ++ sending)
    simp only [List.append_assoc] at hreads
    cases read with
    | error stop =>
      refine ⟨.error stop, c₂, sending ++ reading, fun t j _ => ?_⟩
      simp only [trade, hsend, hreads]
    | ok reply =>
      cases hrefused : strict && reply.hasSurrogate with
      | true =>
        refine ⟨.error (.broke .unencodable), c₂, sending ++ reading, fun t j ht => ?_⟩
        simp only [trade, hsend, hreads, print, ht, hrefused, if_true]
      | false =>
        refine ⟨.ok (), c₂, sending ++ (reading ++ [.wrote (reply ++ [CodePoint.newline])]),
          fun t j ht => ?_⟩
        simp only [trade, hsend, hreads, print, ht, hrefused, Bool.false_eq_true, if_false,
          Connection.note_recording, List.append_assoc]

theorem turn_of_trade {t : Terminal} {c c' : Connection} {line : Text} {outcome : Outcome Unit}
    {added : Journal} (h : trade t (c.recording []) line = (outcome, c'.recording added)) :
    Turn line outcome added.turns := by
  obtain ⟨written, hjournal, hturn⟩ := trade_turn t (c.recording []) line
  rw [h] at hjournal hturn
  obtain rfl : added = written := hjournal
  exact hturn

theorem endedBy_recording (stop : Stop) (c : Connection) (exchanged : Nat) :
    ∃ told : Journal, told.turns = [] ∧ ∀ j, endedBy stop (c.recording j) exchanged =
      ⟨(endedBy stop c exchanged).outcome, c.recording (j ++ told), exchanged⟩ := by
  cases stop with
  | failed failure =>
    cases hlink : failure.isTransport with
    | true =>
      refine ⟨[.log .error .raw ("Raw session with " ++ c.address ++ " ended after " ++
        Text.ofNat exchanged ++ " exchanges: " ++ failure.message)], rfl, fun j => ?_⟩
      simp only [endedBy, hlink, if_true]
      rfl
    | false =>
      refine ⟨[], rfl, fun j => ?_⟩
      simp only [endedBy, hlink, Bool.false_eq_true, if_false, List.append_nil]
  | interrupted | broke =>
    refine ⟨[], rfl, fun j => ?_⟩
    rw [List.append_nil]
    rfl

/-- A completed exchange reads one reply, and writes it as a line. -/
def Exchanged (reply : Text) (j : Journal) : Prop :=
  ∃ line, j.turns = [.handed line, .received reply, .wrote (reply ++ [CodePoint.newline])]

theorem Turn.exchanged {line : Text} {j : Journal} (h : Turn line (.ok ()) j.turns) :
    ∃ reply, Exchanged reply j := by
  generalize hturns : j.turns = turns at h
  cases h with
  | replied reply => exact ⟨reply, line, hturns⟩

theorem Exchanged.received {reply : Text} {j : Journal} (h : Exchanged reply j) :
    j.received = [reply] := by
  obtain ⟨line, hturns⟩ := h
  rw [← j.received_turns, hturns]
  rfl

theorem Exchanged.output {reply : Text} {j : Journal} (h : Exchanged reply j) :
    j.output = reply ++ [CodePoint.newline] := by
  obtain ⟨line, hturns⟩ := h
  rw [← j.output_turns, hturns]
  exact List.append_nil _

theorem Exchanged.unprompted {reply : Text} {j : Journal} (h : Exchanged reply j) :
    j.unprompted = j := by
  obtain ⟨line, hturns⟩ := h
  refine Journal.unprompted_of_turns ?_
  rw [hturns]
  -- a printed line ends in a newline, and the prompt does not
  have hline : reply ++ [CodePoint.newline] ≠ promptText := by
    intro heq
    have hlast := congrArg List.getLast? heq
    rw [List.getLast?_concat] at hlast
    exact absurd hlast (by decide)
  simp [Event.isPrompt, hline]

/-- The end of a session writes nothing, and a session that ends with a code has no reply left that
it did not print. -/
structure Closing (outcome : Outcome Nat) (j : Journal) : Prop where
  output : j.output = []
  unprompted : j.unprompted = j
  received : ∀ code, outcome = .ok code → j.received = []

/-- An exchange that fails prints nothing, and if the link is what failed then no reply came. -/
theorem closing_endedBy {line : Text} {stop : Stop} {added told : Journal}
    (hadded : Turn line (.error stop) added.turns) (htold : told.turns = []) (c : Connection)
    (exchanged : Nat) : Closing (endedBy stop c exchanged).outcome (added ++ told) := by
  have hturns : (added ++ told).turns = added.turns := by
    rw [Journal.turns_append, htold, List.append_nil]
  generalize added.turns = turns at hadded hturns
  refine ⟨?_, ?_, fun code hcode => ?_⟩
  · rw [← Journal.output_turns, hturns]
    cases hadded <;> rfl
  · refine Journal.unprompted_of_turns ?_
    rw [hturns]
    cases hadded <;> simp [Event.isPrompt]
  · obtain ⟨-, ⟨f, rfl⟩, -⟩ := endedBy_ok hcode
    rw [← Journal.received_turns, hturns]
    cases hadded
    rfl

/-- What a session does on some lines, apart from what its terminal shows before each of them:
the completed exchanges with their replies, and what came after them. -/
structure Course where
  outcome : Outcome Nat
  link : Connection
  exchanges : List (Text × Journal)
  last : Journal
  exchanged : ∀ entry ∈ exchanges, Exchanged entry.1 entry.2
  closing : Closing outcome last

namespace Course

variable (course : Course)

def replies : List Text := course.exchanges.map Prod.fst

/-- The journal of the course at a terminal. -/
def journalAt (t : Terminal) : Journal :=
  course.exchanges.flatMap (fun entry => asking t ++ entry.2) ++ (asking t ++ course.last)

/-- The course as that of a session with a journal, after some exchanges. -/
def endingAt (t : Terminal) (exchanged : Nat) (j : Journal) : Ending :=
  ⟨course.outcome, course.link.recording (j ++ course.journalAt t),
    exchanged + course.exchanges.length⟩

/-- A course with one more exchange before it. -/
def cons {reply : Text} {j : Journal} (h : Exchanged reply j) : Course :=
  { course with
    exchanges := (reply, j) :: course.exchanges
    exchanged := List.forall_mem_cons.mpr ⟨h, course.exchanged⟩ }

theorem endingAt_cons {reply : Text} {added : Journal} (h : Exchanged reply added) (t : Terminal)
    (exchanged : Nat) (j : Journal) : (course.cons h).endingAt t exchanged j =
      course.endingAt t (exchanged + 1) (j ++ (asking t ++ added)) := by
  simp only [endingAt, journalAt, cons, List.flatMap_cons, List.append_assoc, List.length_cons,
    Nat.add_assoc, Nat.add_comm 1]

end Course

/-- By induction on the lines: a completed exchange is put before the course of the other lines. -/
theorem run_course (strict : Bool) (exchanged : Nat) (c : Connection) (lines : List Text) :
    ∃ course : Course, ∀ t j, t.strict = strict →
      run t exchanged (c.recording j) lines = course.endingAt t exchanged j := by
  induction lines generalizing exchanged c with
  | nil =>
    let ended : Journal :=
      [.log .info .raw ("End of input after " ++ Text.ofNat exchanged ++ " exchanges")]
    refine ⟨⟨.ok 0, c, [], ended, fun _ h => absurd h List.not_mem_nil, rfl, rfl, fun _ _ => rfl⟩,
      fun t j _ => ?_⟩
    rw [run, ask_recording, Connection.note_recording, List.append_assoc]
    rfl
  | cons line rest ih =>
    obtain ⟨outcome, c₁, added, htrade⟩ := trade_recording strict c line
    have hturn : Turn line outcome added.turns := turn_of_trade (htrade ⟨none, strict⟩ [] rfl)
    have hasked (t : Terminal) (j : Journal) (ht : t.strict = strict) :
        trade t (ask t (c.recording j)) line =
          (outcome, c₁.recording (j ++ (asking t ++ added))) := by
      rw [ask_recording, htrade t _ ht, List.append_assoc]
    cases outcome with
    | ok _ =>
      obtain ⟨reply, hreply⟩ := hturn.exchanged
      obtain ⟨course, hcourse⟩ := ih (exchanged + 1) c₁
      refine ⟨course.cons hreply, fun t j ht => ?_⟩
      rw [run, hasked t j ht, course.endingAt_cons, ← hcourse t _ ht]
    | error stop =>
      obtain ⟨told, htold, hended⟩ := endedBy_recording stop c₁ exchanged
      refine ⟨⟨_, c₁, [], added ++ told, fun _ h => absurd h List.not_mem_nil,
        closing_endedBy hturn htold c₁ exchanged⟩, fun t j ht => ?_⟩
      rw [run, hasked t j ht]
      simp only [hended, List.append_assoc]
      rfl

namespace Course

variable (course : Course)

theorem output_journalAt (t : Terminal) :
    (course.journalAt t).output = shown t course.replies := by
  have hexchange : ∀ entry ∈ course.exchanges, (asking t ++ entry.2).output =
      (asking t).output ++ (entry.1 ++ [CodePoint.newline]) := by
    intro entry hentry
    rw [Journal.output_append, (course.exchanged entry hentry).output]
  rw [journalAt, Journal.output_append, Journal.output_append, course.closing.output,
    List.append_nil, shown, replies, List.flatMap_map, Journal.output, List.flatMap_assoc]
  exact congrArg (· ++ _) (List.flatMap_congr hexchange)

/-- Without the prompts, the journal at any terminal is the one without a prompt. -/
theorem unprompted_journalAt {t : Terminal} (ht : (asking t).unprompted = []) (strict : Bool) :
    (course.journalAt t).unprompted = course.journalAt ⟨none, strict⟩ := by
  have hexchange : ∀ entry ∈ course.exchanges, (asking t ++ entry.2).unprompted = entry.2 := by
    intro entry hentry
    rw [Journal.unprompted_append, ht, (course.exchanged entry hentry).unprompted, List.nil_append]
  rw [journalAt, Journal.unprompted_append, Journal.unprompted_append, ht,
    course.closing.unprompted, Journal.unprompted, List.filter_flatMap]
  exact congrArg (· ++ _) (List.flatMap_congr hexchange)

theorem received_journalAt {code : Nat} (h : course.outcome = .ok code) (strict : Bool) :
    (course.journalAt ⟨none, strict⟩).received = course.replies := by
  have hexchange : ∀ entry ∈ course.exchanges,
      (asking ⟨none, strict⟩ ++ entry.2).received = [entry.1] :=
    fun entry hentry => (course.exchanged entry hentry).received
  have hlast : (asking ⟨none, strict⟩ ++ course.last).received = [] :=
    course.closing.received code h
  rw [journalAt, Journal.received_append, hlast, List.append_nil, replies, List.map_eq_flatMap,
    Journal.received, List.filterMap_flatMap]
  exact List.flatMap_congr hexchange

end Course

/-- Two sessions on one link that differ by the prompts alone: they end the same way after the same
exchanges, with the link in the same state, and the journal of the one is that of the other without
the prompts. So the same is sent and the same is logged; and where the one prints the replies, the
other has a prompt before each of them, and one more at the end. -/
structure DifferByPrompts (c : Connection) (typed redirected : Ending) (shown plain : Journal)
    (replies : List Text) : Prop where
  outcome : typed.outcome = redirected.outcome
  exchanged : typed.exchanged = redirected.exchanged
  link : typed.connection = redirected.connection.recording (c.journal ++ shown)
  journal : redirected.connection.journal = c.journal ++ plain
  unprompted : shown.unprompted = plain
  sent : shown.sent = plain.sent
  log : ∀ verbose, shown.logLines verbose = plain.logLines verbose
  count : replies.length = redirected.exchanged
  received : ∀ code, redirected.outcome = .ok code → plain.received = replies
  plainOutput : plain.output = replies.flatMap fun reply => reply ++ [CodePoint.newline]
  shownOutput : shown.output =
    replies.flatMap (fun reply => promptText ++ (reply ++ [CodePoint.newline])) ++ promptText

theorem runText_differ (strict : Bool) (c : Connection) (input : Text) :
    ∃ shown plain replies, DifferByPrompts c (runText ⟨some promptText, strict⟩ c input)
      (runText ⟨none, strict⟩ c input) shown plain replies := by
  obtain ⟨course, hcourse⟩ := run_course strict 0 c (Text.inputLines input)
  have htyped : runText ⟨some promptText, strict⟩ c input =
      course.endingAt ⟨some promptText, strict⟩ 0 c.journal :=
    hcourse ⟨some promptText, strict⟩ c.journal rfl
  have hredirected : runText ⟨none, strict⟩ c input =
      course.endingAt ⟨none, strict⟩ 0 c.journal :=
    hcourse ⟨none, strict⟩ c.journal rfl
  have hplain := course.unprompted_journalAt (t := ⟨some promptText, strict⟩) rfl strict
  refine ⟨course.journalAt ⟨some promptText, strict⟩, course.journalAt ⟨none, strict⟩,
    course.replies, ?_⟩
  rw [htyped, hredirected]
  refine ⟨rfl, rfl, rfl, rfl, hplain, ?_, fun verbose => ?_, ?_, fun code hcode => ?_, ?_, ?_⟩
  · rw [← hplain]
    exact (Journal.filterMap_unprompted (fun _ => rfl) _).symm
  · rw [← hplain]
    exact (Journal.filterMap_unprompted (fun _ => rfl) _).symm
  · rw [Course.replies, List.length_map]
    exact (Nat.zero_add _).symm
  · exact course.received_journalAt hcode strict
  · rw [course.output_journalAt]
    exact List.append_nil _
  · exact course.output_journalAt _

/-- That the input comes from a terminal adds the prompts to a session and changes nothing else. -/
theorem terminal_adds_prompts (strict : Bool) (c : Connection) :
    (∀ input : Text, ∃ shown plain replies,
      DifferByPrompts c (runText ⟨some promptText, strict⟩ c input)
        (runText ⟨none, strict⟩ c input) shown plain replies) ∧
    ∀ input : Bytes, ∃ shown plain replies,
      DifferByPrompts c (runBytes true strict c input) (runBytes false strict c input)
        shown plain replies :=
  ⟨runText_differ strict c, fun input => runText_differ strict c (Text.ofInput input)⟩

example :
    let link : Connection :=
      ⟨"h:1", false, .stream (.start (wireBytes "pong") (fun _ => none) fun _ => none), []⟩
    (runText ⟨some promptText, true⟩ link "ping\nagain\nnever").connection.journal.output =
      "> pong\n> " := by decide +kernel

end RawSession

end NodeClient
