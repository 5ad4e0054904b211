import NodeClient.Proofs.Link.Send

/-! A link that is used step by step, in any order, and closed on the way. From then on nothing goes
out and nothing is read from the peer; the answers that an HTTP endpoint queued before are still
given out. -/

namespace NodeClient

/-- What is done with a link; to leave its scope closes it. -/
inductive Use where
  | send (line : Text)
  | receive
  | close
  | enter
  | leave
deriving DecidableEq

namespace Use

def closes : Use → Bool
  | .close | .leave => true
  | _ => false

def transfers : Use → Bool
  | .send _ | .receive => true
  | _ => false

/-- Only a received line is given out. -/
def run (u : Use) (c : Connection) : Outcome (Option Text) × Connection :=
  match u with
  | .send line => ((c.send line).1.map fun _ => none, (c.send line).2)
  | .receive => (c.receive.1.map some, c.receive.2)
  | .close | .leave => (.ok none, c.close)
  | .enter => (.ok none, c)

end Use

/-- A use of a link and what came of it. -/
abbrev Used := Use × Outcome (Option Text)

/-- The link was closed, or gave nothing. -/
def Disconnected (outcome : Outcome (Option Text)) : Prop :=
  ∃ fault, outcome = .error (.failed (.disconnected fault))

def delivered (used : List Used) : List Text := used.filterMap fun entry => entry.2.toOption.join

/-- The answers of an endpoint without the first few; a stream is not touched. -/
def Wire.skip (n : Nat) : Wire → Wire
  | .stream s => .stream s
  | .http posts replies => .http posts (replies.drop n)

theorem Wire.skip_zero (w : Wire) : w.skip 0 = w := by
  cases w <;> rfl

theorem Wire.skip_skip (w : Wire) (n m : Nat) : (w.skip n).skip m = w.skip (n + m) := by
  cases w with
  | stream s => rfl
  | http posts replies => simp only [skip, List.drop_drop]

namespace Connection

def after (c : Connection) : List Use → Connection
  | [] => c
  | u :: rest => (u.run c).2.after rest

def usedBy (c : Connection) : List Use → List Used
  | [] => []
  | u :: rest => (u, (u.run c).1) :: (u.run c).2.usedBy rest

/-- The answers that were posted for and not received yet. -/
def queue (c : Connection) : List Text :=
  match c.wire with
  | .stream _ => []
  | .http _ replies => replies

theorem after_append (c : Connection) (uses uses' : List Use) :
    c.after (uses ++ uses') = (c.after uses).after uses' := by
  induction uses generalizing c with
  | nil => rfl
  | cons u rest ih => exact ih _

theorem closed_close (c : Connection) : c.close.closed = true := by
  unfold close
  split
  · assumption
  · dsimp only
    split <;> rfl

theorem close_of_closed {c : Connection} (h : c.closed = true) : c.close = c := if_pos h

theorem closed_after_closing (c : Connection) (uses : List Use) {last : Use}
    (h : last.closes = true) : (c.after (uses ++ [last])).closed = true := by
  rw [after_append]
  cases last with
  | close | leave => exact closed_close _
  | _ => cases h

/-- A closed link that lost nothing but the first few of its answers. -/
structure Drained (n : Nat) (c c' : Connection) : Prop where
  closed : c'.closed = true
  address : c'.address = c.address
  wire : c'.wire = c.wire.skip n
  sent : c'.journal.sent = c.journal.sent

variable {c : Connection}

theorem Drained.refl (h : c.closed = true) : Drained 0 c c := ⟨h, rfl, (Wire.skip_zero _).symm, rfl⟩

theorem Drained.trans {n m : Nat} {c' c'' : Connection} (h : Drained n c c')
    (h' : Drained m c' c'') : Drained (n + m) c c'' :=
  ⟨h'.closed, h'.address.trans h.address, by rw [h'.wire, h.wire, Wire.skip_skip],
    h'.sent.trans h.sent⟩

theorem Drained.queue {n : Nat} {c' : Connection} (h : Drained n c c') :
    c'.queue = c.queue.drop n := by
  rw [Connection.queue, Connection.queue, h.wire]
  cases c.wire with
  | stream s => exact List.drop_nil.symm
  | http posts replies => rfl

/-! One use of a closed link -/

/-- All that a closed link does. -/
inductive Shut (c : Connection) : Use → Outcome (Option Text) → Connection → Prop where
  | refused (line : Text) : Shut c (.send line)
      (.error (.failed (.disconnected (.closed c.address)))) (c.note (.handed line))
  | emptied (hqueue : c.queue = []) (fault : LinkFault) :
      Shut c .receive (.error (.failed (.disconnected fault))) c
  | queued {line : Text} {rest : List Text} {c' : Connection} (hqueue : c.queue = line :: rest)
      (hdrained : Drained 1 c c') : Shut c .receive (.ok (some line)) c'
  | idle {u : Use} (h : u.transfers = false) : Shut c u (.ok none) c

theorem shut_receive (h : c.closed = true) :
    Shut c .receive (c.receive.1.map some) c.receive.2 := by
  cases hwire : c.wire with
  | stream s =>
    have hqueue : c.queue = [] := by rw [queue, hwire]
    have hreceive : c.receive = (.error (.failed (.disconnected (.closed c.address))), c) := by
      simp only [receive, hwire, h, if_true, lost]
    rw [hreceive]
    exact .emptied hqueue _
  | http posts replies =>
    cases replies with
    | nil =>
      have hqueue : c.queue = [] := by rw [queue, hwire]
      have hreceive : c.receive = (.error (.failed (.disconnected (.noReply c.address))), c) := by
        simp only [receive, hwire, lost]
      rw [hreceive]
      exact .emptied hqueue _
    | cons line rest =>
      have hqueue : c.queue = line :: rest := by rw [queue, hwire]
      have hreceive : c.receive = { c with wire := .http posts rest }.deliver line := by
        simp only [receive, hwire]
      rw [hreceive]
      exact .queued hqueue ⟨h, rfl, by rw [hwire]; rfl, by simp [deliver, Journal.sent]⟩

theorem shut_run (h : c.closed = true) (u : Use) : Shut c u (u.run c).1 (u.run c).2 := by
  cases u with
  | send line =>
    rw [Use.run, send_closed h line]
    exact .refused line
  | receive => exact shut_receive h
  | close | leave =>
    rw [Use.run, close_of_closed h]
    exact .idle rfl
  | enter => exact .idle rfl

namespace Shut

variable {u : Use} {outcome : Outcome (Option Text)} {c' : Connection}

theorem drained (hu : Shut c u outcome c') (h : c.closed = true) :
    Drained ([u].count .receive) c c' := by
  cases hu with
  | refused line => exact ⟨h, rfl, (Wire.skip_zero _).symm, by simp [Journal.sent]⟩
  | emptied hqueue =>
    refine ⟨h, rfl, ?_, rfl⟩
    unfold queue at hqueue
    cases hwire : c.wire with
    | stream s => rfl
    | http posts replies =>
      rw [hwire] at hqueue
      obtain rfl : replies = [] := hqueue
      rfl
  | queued _ hdrained => exact hdrained
  | idle hu =>
    cases u with
    | send | receive => cases hu
    | _ => exact .refl h

theorem delivers (hu : Shut c u outcome c') :
    delivered [(u, outcome)] = c.queue.take ([u].count .receive) := by
  cases hu with
  | refused line => exact List.take_zero.symm
  | emptied hqueue =>
    rw [hqueue, List.take_nil]
    rfl
  | queued hqueue =>
    rw [hqueue]
    rfl
  | idle hidle =>
    cases u with
    | send | receive => cases hidle
    | _ => exact List.take_zero.symm

/-- A use that passes lines fails just when it gives none out. -/
theorem fails_iff (hu : Shut c u outcome c') :
    (u.transfers = true → Disconnected outcome) ↔ outcome.toOption.join = none := by
  cases hu with
  | refused | emptied => exact iff_of_true (fun _ => ⟨_, rfl⟩) rfl
  | queued =>
    apply iff_of_false
    · intro hfails
      obtain ⟨fault, houtcome⟩ := hfails rfl
      cases houtcome
    · rintro ⟨⟩
  | idle hidle =>
    refine iff_of_true (fun htransfers => ?_) rfl
    rw [hidle] at htransfers
    cases htransfers

end Shut

/-! What a closed link gives -/

theorem drained_after (h : c.closed = true) (uses : List Use) :
    Drained (uses.count .receive) c (c.after uses) := by
  induction uses generalizing c with
  | nil => exact .refl h
  | cons u rest ih =>
    have hrun := (shut_run h u).drained h
    have hrest := hrun.trans (ih hrun.closed)
    rwa [← List.count_append] at hrest

theorem delivered_usedBy (h : c.closed = true) (uses : List Use) :
    delivered (c.usedBy uses) = c.queue.take (uses.count .receive) := by
  induction uses generalizing c with
  | nil => rw [List.count_nil, List.take_zero]; rfl
  | cons u rest ih =>
    have hrun := shut_run h u
    have hsplit : delivered (c.usedBy (u :: rest)) =
        delivered [(u, (u.run c).1)] ++ delivered ((u.run c).2.usedBy rest) :=
      List.filterMap_append (l := [_])
    rw [hsplit, hrun.delivers, ih (hrun.drained h).closed, (hrun.drained h).queue,
      ← List.take_add, ← List.count_append]
    rfl

/-- What holds of each use of a closed link holds of all of them. -/
theorem forall_usedBy {P : Use → Outcome (Option Text) → Prop} {address : Text}
    (hstep : ∀ {c u outcome c'}, c.address = address → Shut c u outcome c' → P u outcome)
    (h : c.closed = true) (haddress : c.address = address) (uses : List Use) {u : Use}
    {outcome : Outcome (Option Text)} (hu : (u, outcome) ∈ c.usedBy uses) : P u outcome := by
  induction uses generalizing c with
  | nil => cases hu
  | cons first rest ih =>
    have hfirst := shut_run h first
    have hdrained := hfirst.drained h
    rcases List.mem_cons.mp hu with hsame | hrest
    · obtain ⟨rfl, rfl⟩ := Prod.mk.inj hsame
      exact hstep haddress hfirst
    · exact ih hdrained.closed (hdrained.address.trans haddress) hrest

theorem send_refused (h : c.closed = true) (uses : List Use) {line : Text}
    {outcome : Outcome (Option Text)} (hu : (.send line, outcome) ∈ c.usedBy uses) :
    outcome = .error (.failed (.disconnected (.closed c.address))) := by
  refine forall_usedBy (P := fun u outcome => ∀ line, u = .send line →
    outcome = .error (.failed (.disconnected (.closed c.address)))) ?_ h rfl uses hu line rfl
  intro c' u outcome c'' haddress hshut line hline
  subst hline
  cases hshut with
  | refused => rw [haddress]
  | idle hidle => cases hidle

theorem disconnected_iff_delivered_eq_nil (h : c.closed = true) (uses : List Use) :
    (∀ u outcome, (u, outcome) ∈ c.usedBy uses → u.transfers = true → Disconnected outcome) ↔
      delivered (c.usedBy uses) = [] := by
  have hfails {u : Use} {outcome : Outcome (Option Text)} (hu : (u, outcome) ∈ c.usedBy uses) :
      (u.transfers = true → Disconnected outcome) ↔ outcome.toOption.join = none :=
    forall_usedBy (fun _ hshut => hshut.fails_iff) h rfl uses hu
  rw [delivered, List.filterMap_eq_nil_iff]
  constructor
  · rintro hall ⟨u, outcome⟩ hu
    exact (hfails hu).mp (hall u outcome hu)
  · intro hall u outcome hu
    exact (hfails hu).mpr (hall _ hu)

/-- A closed link refuses every line, and passes nothing to its peer or from it. It gives out the
answers that were queued when it was closed, in their order, so that every use of it fails just when
none was queued or none is received. -/
theorem closed_gives_queue (c : Connection) (before : List Use) {last : Use}
    (hlast : last.closes = true) (later : List Use) :
    let shut := c.after (before ++ [last])
    ((∀ u outcome, (u, outcome) ∈ shut.usedBy later → u.transfers = true →
        Disconnected outcome) ↔ shut.queue = [] ∨ Use.receive ∉ later) ∧
      (∀ line outcome, (.send line, outcome) ∈ shut.usedBy later →
        outcome = .error (.failed (.disconnected (.closed shut.address)))) ∧
      delivered (shut.usedBy later) = shut.queue.take (later.count .receive) ∧
      Drained (later.count .receive) shut (shut.after later) ∧ shut.close = shut := by
  intro shut
  have hclosed : shut.closed = true := closed_after_closing c before hlast
  have hdelivered := delivered_usedBy hclosed later
  refine ⟨?_, fun line outcome hu => send_refused hclosed later hu, hdelivered,
    drained_after hclosed later, close_of_closed hclosed⟩
  rw [disconnected_iff_delivered_eq_nil hclosed, hdelivered, List.take_eq_nil_iff,
    List.count_eq_zero, or_comm]

theorem closed_gives_queue_scope :
    let c : Connection := ⟨"http://h:1", false, .http [.answer 200 "1", .answer 200 "2"] [], []⟩
    let inside : List Use := [.enter, .send "x", .send "y"]
    let later : List Use := [.receive, .close, .send "z", .receive, .receive]
    Use.leave.closes = true ∧
      delivered ((c.after (inside ++ [.leave])).usedBy later) = [("1" : Text), "2"] := by
  intro c inside later
  have hleave : Use.leave.closes = true := rfl
  obtain ⟨-, -, hdelivered, -⟩ := closed_gives_queue c inside hleave later
  exact ⟨hleave, hdelivered.trans (by decide +kernel)⟩

/-- An answer that was not received before the link was closed is given out afterwards. -/
theorem delivers_after_close :
    let c : Connection := ⟨"http://stub:0", false, .http [.answer 200 "\x7b\x7d"] [], []⟩
    let shut := c.after [.send "x", .close]
    shut.closed = true ∧ delivered (shut.usedBy [.receive]) = [("\x7b\x7d" : Text)] := by
  decide +kernel

end Connection

end NodeClient
