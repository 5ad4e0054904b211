import NodeClient.Proofs.Link.Flow
import NodeClient.Proofs.Outcome
import NodeClient.RawSession

/-! A raw session takes turns, whatever fails: a line goes to the node, its reply is read and
printed, and only then is the next line taken from the input. -/

namespace NodeClient.RawSession

/-- The turns of a session. The line after the last reply has gone out as well. -/
def turnsOf : List Text → List Text → Journal
  | [], _ => []
  | line :: _, [] => [.handed line]
  | line :: lines, reply :: replies =>
    .handed line :: .received reply :: .wrote (reply ++ [CodePoint.newline]) ::
      turnsOf lines replies

theorem handed_turnsOf (lines replies : List Text) :
    (turnsOf lines replies).handed = lines.take (replies.length + 1) := by
  induction lines generalizing replies with
  | nil => rfl
  | cons line lines ih =>
    cases replies with
    | nil => rfl
    | cons reply replies => exact congrArg (line :: ·) (ih replies)

theorem received_turnsOf {lines replies : List Text} (h : replies.length ≤ lines.length) :
    (turnsOf lines replies).received = replies := by
  induction lines generalizing replies with
  | nil => exact (List.length_eq_zero_iff.mp (Nat.le_zero.mp h)).symm
  | cons line lines ih =>
    cases replies with
    | nil => rfl
    | cons reply replies => exact congrArg (reply :: ·) (ih (Nat.le_of_succ_le_succ h))

theorem output_turnsOf {lines replies : List Text} (h : replies.length ≤ lines.length) :
    (turnsOf lines replies).output = replies.flatMap fun reply => reply ++ [CodePoint.newline] := by
  induction lines generalizing replies with
  | nil => rw [List.length_eq_zero_iff.mp (Nat.le_zero.mp h)]; rfl
  | cons line lines ih =>
    cases replies with
    | nil => rfl
    | cons reply replies =>
      exact congrArg (reply ++ [CodePoint.newline] ++ ·) (ih (Nat.le_of_succ_le_succ h))

/-- What a terminal shows before it reads a line. -/
def asking (t : Terminal) : Journal := (t.prompt.map Event.wrote).toList

theorem journal_ask (t : Terminal) (c : Connection) :
    (ask t c).journal = c.journal ++ asking t := by
  unfold ask asking
  cases t.prompt with
  | none => exact (List.append_nil _).symm
  | some prompt => rfl

/-- What the user sees of a session that gets these replies. -/
def shown (t : Terminal) (replies : List Text) : Text :=
  replies.flatMap (fun reply => (asking t).output ++ (reply ++ [CodePoint.newline])) ++
    (asking t).output

/-- How one exchange can end, and its turns. -/
inductive Turn (line : Text) : Outcome Unit → Journal → Prop where
  | replied (reply : Text) :
      Turn line (.ok ())
        [.handed line, .received reply, .wrote (reply ++ [CodePoint.newline])]
  | unprinted (reply : Text) :
      Turn line (.error (.broke .unencodable)) [.handed line, .received reply]
  | unanswered (stop : Stop) : Turn line (.error stop) [.handed line]

theorem trade_turn (t : Terminal) (c : Connection) (line : Text) :
    ∃ added : Journal, (trade t c line).2.journal = c.journal ++ added ∧
      Turn line (trade t c line).1 added.turns := by
  obtain ⟨quiet, hsent, hquiet⟩ := c.journal_send line
  have hhanded : Journal.turns (.handed line :: quiet) = [.handed line] :=
    congrArg (Event.handed line :: ·) hquiet
  rw [trade]
  cases hsend : c.send line with
  | mk sent c₁ =>
    rw [hsend] at hsent
    cases sent with
    | error stop =>
      refine ⟨.handed line :: quiet, hsent, ?_⟩
      rw [hhanded]
      exact .unanswered stop
    | ok _ =>
      obtain ⟨reply, c₂, hreceive, -, hread⟩ | ⟨stop, c₂, hreceive, -, hread⟩ := c₁.receive_cases
      · rw [hsent, List.append_assoc] at hread
        dsimp only
        rw [hreceive]
        dsimp only [print]
        split
        · refine ⟨_, hread, ?_⟩
          rw [Journal.turns_append, hhanded]
          exact .unprinted reply
        · refine ⟨_, by rw [Connection.journal_note, hread, List.append_assoc], ?_⟩
          rw [Journal.turns_append, Journal.turns_append, hhanded]
          exact .replied reply
      · refine ⟨.handed line :: quiet, ?_, ?_⟩
        · dsimp only
          rw [hreceive]
          exact hread.trans hsent
        · dsimp only
          rw [hreceive, hhanded]
          exact .unanswered stop

theorem exchanged_endedBy (stop : Stop) (c : Connection) (exchanged : Nat) :
    (endedBy stop c exchanged).exchanged = exchanged := by
  unfold endedBy
  split
  · split
    · rfl
    · rfl
  · rfl

/-- A session that a stop ends with a code ends with the one of a lost link. -/
theorem endedBy_ok {stop : Stop} {c : Connection} {exchanged code : Nat}
    (h : (endedBy stop c exchanged).outcome = .ok code) :
    code = 3 ∧ (∃ f, stop = .failed f) ∧ ∃ text, (endedBy stop c exchanged).connection.journal =
      c.journal ++ [.log .error .raw text] := by
  unfold endedBy at h ⊢
  cases stop with
  | failed f =>
    dsimp only at h ⊢
    split at h
    · rename_i hlink
      rw [if_pos hlink]
      obtain rfl := Except.ok.inj h
      refine ⟨?_, ⟨f, rfl⟩, _, rfl⟩
      cases f <;> first | rfl | cases hlink
    · cases h
  | interrupted => cases h
  | broke b => cases h

theorem le_exchanged (t : Terminal) (exchanged : Nat) (c : Connection) (lines : List Text) :
    exchanged ≤ (run t exchanged c lines).exchanged := by
  induction lines generalizing exchanged c with
  | nil => exact Nat.le_refl exchanged
  | cons line rest ih =>
    rw [run]
    split
    · exact Nat.le_of_eq (exchanged_endedBy _ _ _).symm
    · rename_i c₁ _
      exact Nat.le_of_succ_le (ih (exchanged + 1) c₁)

/-- The line whose exchange is not completed is the last that is taken: with other lines after it
the session is the same. -/
theorem run_of_unread {t : Terminal} {exchanged k : Nat} {c : Connection} {lines : List Text}
    (hcount : (run t exchanged c lines).exchanged = exchanged + k) (hk : k < lines.length)
    (others : List Text) :
    run t exchanged c (lines.take (k + 1) ++ others) = run t exchanged c lines := by
  induction lines generalizing exchanged k c with
  | nil => exact absurd hk (Nat.not_lt_zero k)
  | cons line rest ih =>
    rw [run] at hcount
    rw [List.take_succ_cons, List.cons_append, run, run]
    cases htrade : trade t (ask t c) line with
    | mk outcome c₁ =>
      rw [htrade] at hcount
      cases outcome with
      | error stop => rfl
      | ok _ =>
        dsimp only at hcount ⊢
        have hmore := hcount ▸ le_exchanged t (exchanged + 1) c₁ rest
        cases k with
        | zero => exact absurd hmore (Nat.not_succ_le_self exchanged)
        | succ k =>
          rw [← Nat.add_assoc, Nat.add_right_comm] at hcount
          exact ih hcount (Nat.lt_of_succ_lt_succ hk)

/-- By induction on the lines: an exchange either adds its three turns and leaves the session to the
other lines, or ends it. -/
theorem run_turns {t : Terminal} (hprompt : t.prompt = none) {exchanged code : Nat}
    {c : Connection} {lines : List Text} (h : (run t exchanged c lines).outcome = .ok code) :
    ∃ replies, ∃ added : Journal,
      (run t exchanged c lines).connection.journal = c.journal ++ added ∧
      added.turns = turnsOf lines replies ∧
      (run t exchanged c lines).exchanged = exchanged + replies.length ∧
      (code = 0 ∧ replies.length = lines.length ∨ code = 3 ∧ replies.length < lines.length) := by
  have hask (c : Connection) : ask t c = c := by rw [ask, hprompt]
  induction lines generalizing exchanged c with
  | nil =>
    obtain rfl := Except.ok.inj h
    rw [run, hask]
    exact ⟨[], _, rfl, rfl, rfl, .inl ⟨rfl, rfl⟩⟩
  | cons line rest ih =>
    obtain ⟨added, hjournal, hturn⟩ := trade_turn t c line
    rw [run, hask] at h ⊢
    cases htrade : trade t c line with
    | mk outcome c₁ =>
      rw [htrade] at h hjournal hturn
      dsimp only at h hjournal hturn ⊢
      generalize hturns : added.turns = turns at hturn
      cases hturn with
      | replied reply =>
        obtain ⟨replies, later, hlater, hrest, hcount, hcode⟩ := ih h
        refine ⟨reply :: replies, added ++ later, ?_, ?_, ?_, ?_⟩
        · rw [hlater, hjournal, List.append_assoc]
        · rw [Journal.turns_append, hturns, hrest]
          rfl
        · rw [hcount, List.length_cons, Nat.add_assoc, Nat.add_comm 1]
        · simpa only [List.length_cons, Nat.add_right_cancel_iff, Nat.add_lt_add_iff_right]
            using hcode
      | unprinted reply =>
        obtain ⟨-, ⟨f, hf⟩, -⟩ := endedBy_ok h
        cases hf
      | unanswered stop =>
        obtain ⟨rfl, -, text, hlog⟩ := endedBy_ok h
        refine ⟨[], added ++ [.log .error .raw text], ?_, ?_, exchanged_endedBy _ _ _,
          .inr ⟨rfl, Nat.succ_pos _⟩⟩
        · rw [hlog, hjournal, List.append_assoc]
        · rw [Journal.turns_append, hturns]
          rfl

/-- A session that ends with a code has taken strict turns. What it printed are the replies it read,
each on a line of its own, and what it handed over are the lines up to the one that no reply came
for; the lines after that one were never taken. The code tells whether there is such a line. -/
theorem run_alternates {t : Terminal} (hprompt : t.prompt = none) (c : Connection)
    {lines : List Text} {code : Nat} (hcode : (run t 0 c lines).outcome = .ok code) :
    let ending := run t 0 c lines
    ∃ added : Journal, ending.connection.journal = c.journal ++ added ∧
      added.turns = turnsOf lines added.received ∧
      added.received.length = ending.exchanged ∧ ending.exchanged ≤ lines.length ∧
      added.output = added.received.flatMap (fun reply => reply ++ [CodePoint.newline]) ∧
      added.handed = lines.take (ending.exchanged + 1) ∧
      (ending.exchanged < lines.length → ∀ others : List Text,
        run t 0 c (lines.take (ending.exchanged + 1) ++ others) = ending) ∧
      code = if ending.exchanged = lines.length then 0 else 3 := by
  intro ending
  obtain ⟨replies, added, hjournal, hturns, hcount, hend⟩ := run_turns hprompt hcode
  have hshort : replies.length ≤ lines.length := by omega
  have hreplies : added.received = replies := by
    rw [← added.received_turns, hturns, received_turnsOf hshort]
  have hexchanged : ending.exchanged = replies.length := hcount.trans (Nat.zero_add _)
  refine ⟨added, hjournal, ?_, ?_, hexchanged ▸ hshort, ?_, ?_, ?_, ?_⟩
  · rw [hreplies, hturns]
  · rw [hreplies, hexchanged]
  · rw [← added.output_turns, hturns, output_turnsOf hshort, hreplies]
  · rw [← added.handed_turns, hturns, handed_turnsOf, hexchanged]
  · exact run_of_unread (Nat.zero_add _).symm
  · rw [hexchanged]
    obtain ⟨rfl, hall⟩ | ⟨rfl, hless⟩ := hend
    · rw [if_pos hall]
    · rw [if_neg (Nat.ne_of_lt hless)]

/-- A link that is reset at the second read. -/
def resetLink : Connection :=
  let readFault (i : Nat) : Option Cause := if i = 1 then some ⟨.system, .bare⟩ else none
  ⟨"h:1", false, .stream (.start (wireBytes "pong") (fun _ => none) readFault), []⟩

theorem run_alternates_reset :
    ∃ reply, (run ⟨none, true⟩ 0 resetLink ["ping", "again", "never"]).connection.journal.turns =
      [.handed "ping", .received reply, .wrote (reply ++ [CodePoint.newline]),
        .handed "again"] := by
  have hcode : (run ⟨none, true⟩ 0 resetLink ["ping", "again", "never"]).outcome = .ok 3 :=
    toOption_eq_some.mp (by decide +kernel)
  have hcount : (run ⟨none, true⟩ 0 resetLink ["ping", "again", "never"]).exchanged = 1 := by
    decide +kernel
  obtain ⟨added, hjournal, hturns, hlength, -⟩ := run_alternates rfl resetLink hcode
  obtain ⟨reply, hreply⟩ := List.length_eq_one_iff.mp (hlength.trans hcount)
  rw [hreply] at hturns
  refine ⟨reply, ?_⟩
  rw [hjournal]
  exact hturns

end NodeClient.RawSession
