import NodeClient.Proofs.Link.Lines

/-! What each operation of a link adds to the journal, and how it can end. Nothing is ever taken
back: the journal after an operation is the journal before it and what was added. -/

namespace NodeClient

namespace Journal

@[simp] theorem handed_append (j k : Journal) : handed (j ++ k) = handed j ++ handed k :=
  List.filterMap_append

@[simp] theorem received_append (j k : Journal) : received (j ++ k) = received j ++ received k :=
  List.filterMap_append

@[simp] theorem sent_append (j k : Journal) : sent (j ++ k) = sent j ++ sent k :=
  List.filterMap_append

@[simp] theorem dials_append (j k : Journal) : dials (j ++ k) = dials j ++ dials k :=
  List.filterMap_append

@[simp] theorem output_append (j k : Journal) : output (j ++ k) = output j ++ output k :=
  List.flatMap_append

end Journal

/-- What a session exchanges with the node and with the user; the rest is how it does so. -/
def Event.isTurn : Event → Bool
  | .handed _ | .received _ | .wrote _ => true
  | .log .. | .dial .. | .sent _ | .closed => false

namespace Journal

def turns (j : Journal) : Journal := j.filter Event.isTurn

@[simp] theorem turns_append (j k : Journal) : turns (j ++ k) = turns j ++ turns k :=
  List.filter_append j k

theorem handed_turns (j : Journal) : j.turns.handed = j.handed := by
  rw [handed, turns, List.filterMap_filter]
  refine congrArg (List.filterMap · j) (funext fun e => ?_)
  cases e <;> rfl

theorem received_turns (j : Journal) : j.turns.received = j.received := by
  rw [received, turns, List.filterMap_filter]
  refine congrArg (List.filterMap · j) (funext fun e => ?_)
  cases e <;> rfl

theorem output_turns (j : Journal) : j.turns.output = j.output := by
  induction j with
  | nil => rfl
  | cons e j ih =>
    cases e with
    | handed _ | received _ => exact ih
    | wrote text => exact congrArg (text ++ ·) ih
    | log | dial | sent | closed => exact ih

theorem of_no_turns {j : Journal} (h : j.turns = []) :
    j.handed = [] ∧ j.received = [] ∧ j.output = [] := by
  rw [← j.handed_turns, ← j.received_turns, ← j.output_turns, h]
  exact ⟨rfl, rfl, rfl⟩

/-- Nothing here went to the node. -/
def Passive (j : Journal) : Prop := j.handed = [] ∧ j.sent = [] ∧ j.dials = []

theorem passive_nil : Passive [] := ⟨rfl, rfl, rfl⟩

theorem passive_log (level : Level) (topic : Topic) (text : Text) :
    Passive [.log level topic text] := ⟨rfl, rfl, rfl⟩

theorem Passive.append {j k : Journal} (hj : j.Passive) (hk : k.Passive) : Passive (j ++ k) := by
  refine ⟨?_, ?_, ?_⟩
  · rw [handed_append, hj.1, hk.1, List.nil_append]
  · rw [sent_append, hj.2.1, hk.2.1, List.nil_append]
  · rw [dials_append, hj.2.2, hk.2.2, List.nil_append]

def reading (line : Text) : Journal := [.log .debug .transport ("<- " ++ line), .received line]

theorem passive_reading (line : Text) : Passive (reading line) := ⟨rfl, rfl, rfl⟩

@[simp] theorem received_reading (line : Text) : received (reading line) = [line] := rfl

theorem received_readings (lines : List Text) :
    received (lines.flatMap reading) = lines := by
  induction lines with
  | nil => rfl
  | cons line lines ih => rw [List.flatMap_cons, received_append, ih, received_reading]; rfl

theorem passive_readings (lines : List Text) : Passive (lines.flatMap reading) := by
  induction lines with
  | nil => exact passive_nil
  | cons line lines ih => exact (passive_reading line).append ih

end Journal

/-- The link is gone, or the user ended the run: all that can come of a socket. -/
def Stop.OfLink (stop : Stop) : Prop :=
  stop = .interrupted ∨ ∃ fault, stop = .failed (.disconnected fault)

theorem stopOf_ofLink (cause : Cause) (fault : Cause → LinkFault) :
    (stopOf cause fault).OfLink := by
  unfold stopOf
  split
  · exact .inl rfl
  · exact .inr ⟨_, rfl⟩

theorem stopOf_eq_interrupted_iff {cause : Cause} {fault : Cause → LinkFault} :
    stopOf cause fault = .interrupted ↔ cause.isInterrupt = true := by
  rw [stopOf]
  split <;> simp_all

/-- A fault that a post can meet and that is no trouble of the HTTP library. -/
def Cause.IsForeign (cause : Cause) : Prop :=
  cause.kind = .system ∨ cause.kind = .timeout ∨ cause.kind = .nameLookup

/-- A fault of a post is foreign, or one of the HTTP library and then a failure of the link. -/
theorem postStop_cases (address : Text) (cause : Cause) :
    (cause.IsForeign ∧ postStop address cause = .broke (.system cause)) ∨
      ¬ cause.IsForeign ∧ ((postStop address cause).OfLink ∨
        postStop address cause = .failed (.connect address cause)) := by
  unfold postStop Cause.IsForeign
  cases cause.kind with
  | system => exact .inl ⟨.inl rfl, rfl⟩
  | timeout => exact .inl ⟨.inr (.inl rfl), rfl⟩
  | nameLookup => exact .inl ⟨.inr (.inr rfl), rfl⟩
  | interrupt => exact .inr ⟨by simp, .inl (.inl rfl)⟩
  | unreachable name => exact .inr ⟨by simp, .inr rfl⟩
  | httpTrouble name => exact .inr ⟨by simp, .inl (.inr ⟨_, rfl⟩)⟩

theorem postStop_eq_interrupted_iff {address : Text} {cause : Cause} :
    postStop address cause = .interrupted ↔ cause.isInterrupt = true := by
  rw [postStop, Cause.isInterrupt]
  cases cause.kind <;> simp

/-- What the next post meets and nothing turns into a failure: such a fault, or a breakdown of the
post or of the decoding of its answer. -/
inductive PostBreaks (posts : List Post) : Breakdown → Prop where
  | fault {cause : Cause} (hpost : posts.head? = some (.raises cause)) (h : cause.IsForeign) :
      PostBreaks posts (.system cause)
  | named {name : Text} (hpost : posts.head? = some (.breaks name)) :
      PostBreaks posts (.stated name)

/-- A post that is no answer is one of the script. -/
theorem head?_of_next {posts : List Post} {post : Post}
    (h : posts.head?.getD (.answer 200 []) = post)
    (hpost : ∀ status body, post ≠ .answer status body) : posts.head? = some post := by
  cases hnext : posts.head? with
  | none =>
    rw [hnext] at h
    exact absurd h.symm (hpost _ _)
  | some next =>
    rw [hnext] at h
    exact congrArg some h

/-- The answers to posts that are still to come; a stream has none. -/
def Connection.posts (c : Connection) : List Post :=
  match c.wire with
  | .stream _ => []
  | .http posts _ => posts

inductive Stop.OfSend (c : Connection) (line : Text) : Stop → Prop where
  | link {stop : Stop} (h : stop.OfLink) : OfSend c line stop
  | connect (cause : Cause) : OfSend c line (.failed (.connect c.address cause))
  | unencodable (h : frame? line = none) : OfSend c line (.broke .unencodable)
  | foreign {b : Breakdown} (h : PostBreaks c.posts b) : OfSend c line (.broke b)

namespace Connection

@[simp] theorem journal_note (c : Connection) (e : Event) :
    (c.note e).journal = c.journal ++ [e] := rfl

@[simp] theorem wire_note (c : Connection) (e : Event) : (c.note e).wire = c.wire := rfl

@[simp] theorem address_note (c : Connection) (e : Event) : (c.note e).address = c.address := rfl

@[simp] theorem closed_note (c : Connection) (e : Event) : (c.note e).closed = c.closed := rfl

@[simp] theorem posts_note (c : Connection) (e : Event) : (c.note e).posts = c.posts := rfl

@[simp] theorem wire_debug (c : Connection) (text : Text) : (c.debug text).wire = c.wire := rfl

@[simp] theorem address_debug (c : Connection) (text : Text) :
    (c.debug text).address = c.address := rfl

@[simp] theorem closed_debug (c : Connection) (text : Text) :
    (c.debug text).closed = c.closed := rfl

@[simp] theorem journal_debug (c : Connection) (text : Text) :
    (c.debug text).journal = c.journal ++ [.log .debug .transport text] := rfl

theorem journal_sendStream (c : Connection) (s : Stream) (bytes : Bytes) :
    (c.sendStream s bytes).2.journal = c.journal ∨
      (c.sendStream s bytes).2.journal = c.journal ++ [.sent bytes] := by
  unfold sendStream
  dsimp only
  split
  · exact .inl rfl
  · exact .inr rfl

theorem journal_sendPost (c : Connection) (posts : List Post) (replies : List Text)
    (bytes : Bytes) :
    (c.sendPost posts replies bytes).2.journal = c.journal ++ [.sent bytes] := by
  unfold sendPost
  dsimp only
  split
  · rfl
  · rfl
  · split <;> rfl

/-- A line that is handed over is written down first, and it is the only turn of a send. -/
theorem journal_send (c : Connection) (line : Text) :
    ∃ added : Journal, (c.send line).2.journal = c.journal ++ Event.handed line :: added ∧
      added.turns = [] := by
  unfold send
  dsimp only
  split
  · exact ⟨[], rfl, rfl⟩
  · split
    · refine ⟨[.log .debug .transport ("-> " ++ line)], ?_, rfl⟩
      simp
    · rename_i bytes _
      split
      · rename_i s _
        obtain h | h := journal_sendStream ((c.note (.handed line)).debug ("-> " ++ line)) s bytes
        · refine ⟨[.log .debug .transport ("-> " ++ line)], ?_, rfl⟩
          rw [h]
          simp
        · refine ⟨[.log .debug .transport ("-> " ++ line), .sent bytes], ?_, rfl⟩
          rw [h]
          simp
      · refine ⟨[.log .debug .transport ("-> " ++ line), .sent bytes], ?_, rfl⟩
        rw [journal_sendPost]
        simp

theorem journal_sendStream_ok {c : Connection} {s : Stream} {bytes : Bytes}
    (h : (c.sendStream s bytes).1 = .ok ()) :
    (c.sendStream s bytes).2.journal = c.journal ++ [.sent bytes] := by
  unfold sendStream at h ⊢
  dsimp only at h ⊢
  split at h
  · cases h
  · rfl

/-- A line that was handed over without trouble was sent as its frame. -/
theorem journal_send_ok {c : Connection} {line : Text} (h : (c.send line).1 = .ok ()) :
    ∃ bytes, frame? line = some bytes ∧ (c.send line).2.journal =
      c.journal ++ [.handed line, .log .debug .transport ("-> " ++ line), .sent bytes] := by
  unfold send at h ⊢
  dsimp only at h ⊢
  split at h
  · cases h
  · rename_i hclosed
    rw [if_neg hclosed]
    split at h
    · cases h
    · rename_i bytes hframe
      refine ⟨bytes, hframe, ?_⟩
      split at h
      · rw [journal_sendStream_ok h]
        simp
      · rw [journal_sendPost]
        simp

theorem sendPost_stop {c : Connection} {posts : List Post} {replies : List Text} {bytes : Bytes}
    {line : Text} {stop : Stop} (hwire : c.wire = .http posts replies)
    (h : (c.sendPost posts replies bytes).1 = .error stop) : stop.OfSend c line := by
  have hposts : c.posts = posts := by rw [Connection.posts, hwire]
  unfold sendPost at h
  dsimp only at h
  split at h
  · rename_i cause hpost
    have hhead := head?_of_next hpost (by rintro status body ⟨⟩)
    have hstop : postStop c.address cause = stop := Except.error.inj h
    subst hstop
    rcases postStop_cases c.address cause with ⟨hcause, hstop⟩ | ⟨-, hlink | hstop⟩
    · rw [hstop]
      exact .foreign (.fault (hposts ▸ hhead) hcause)
    · exact .link hlink
    · rw [hstop]
      exact .connect cause
  · rename_i name hpost
    have hhead := head?_of_next hpost (by rintro status body ⟨⟩)
    obtain rfl : Stop.broke (.stated name) = stop := Except.error.inj h
    exact .foreign (.named (hposts ▸ hhead))
  · split at h
    · simp only [lost, Except.error.injEq] at h
      exact .link (.inr ⟨_, h.symm⟩)
    · exact absurd h (by simp)

theorem send_stop {c : Connection} {line : Text} {stop : Stop}
    (h : (c.send line).1 = .error stop) : stop.OfSend c line := by
  unfold send at h
  dsimp only at h
  split at h
  · simp only [lost, Except.error.injEq] at h
    exact .link (.inr ⟨_, h.symm⟩)
  · split at h
    · simp only [Except.error.injEq] at h
      exact h ▸ .unencodable ‹_›
    · split at h
      · unfold sendStream at h
        dsimp only at h
        split at h
        · simp only [Except.error.injEq] at h
          exact h ▸ .link (stopOf_ofLink _ _)
        · exact absurd h (by simp)
      -- the notes taken before the post leave the link as it was
      · have hsame : (stop.OfSend ((c.note (.handed line)).debug ("-> " ++ line)) line) :=
          sendPost_stop ‹_› h
        cases hsame with
        | link hlink => exact .link hlink
        | connect cause => exact .connect cause
        | unencodable hframe => exact .unencodable hframe
        | foreign hbreaks => exact .foreign hbreaks

/-- Reading either gives a line and writes it down, with less left to be read, or ends with the
link and writes nothing. -/
theorem receive_cases (c : Connection) :
    (∃ line c', c.receive = (.ok line, c') ∧ c'.supply < c.supply ∧
      c'.journal = c.journal ++ Journal.reading line) ∨
    (∃ stop c', c.receive = (.error stop, c') ∧ Stop.OfLink stop ∧ c'.journal = c.journal) := by
  unfold receive
  split
  · rename_i s hwire
    split
    · exact .inr ⟨_, _, rfl, .inr ⟨_, rfl⟩, rfl⟩
    · unfold receiveStream
      dsimp only
      split
      · exact .inr ⟨_, _, rfl, stopOf_ofLink _ _, rfl⟩
      · split
        · exact .inr ⟨_, _, rfl, .inr ⟨_, rfl⟩, rfl⟩
        · rename_i b rest hunread
          have hne : s.unread ≠ [] := by simp [hunread]
          refine .inl ⟨_, _, rfl, ?_, by simp [Journal.reading]⟩
          simpa [supply, hwire] using takeLine_length_lt hne
  · rename_i posts replies hwire
    split
    · exact .inr ⟨_, _, rfl, .inr ⟨_, rfl⟩, rfl⟩
    · refine .inl ⟨_, _, rfl, ?_, by simp [Journal.reading]⟩
      simp [supply, hwire]

theorem journal_of_receive {c c' : Connection} {line : Text}
    (h : c.receive = (.ok line, c')) :
    c'.supply < c.supply ∧ c'.journal = c.journal ++ Journal.reading line := by
  obtain ⟨line', d, hreceive, hless, hjournal⟩ | ⟨stop, d, hreceive, -⟩ := c.receive_cases
  · rw [hreceive] at h
    cases h
    exact ⟨hless, hjournal⟩
  · rw [hreceive] at h
    cases h

theorem journal_of_lost {c c' : Connection} {stop : Stop}
    (h : c.receive = (.error stop, c')) : c'.journal = c.journal := by
  obtain ⟨line, d, hreceive, -⟩ | ⟨stop', d, hreceive, -, hjournal⟩ := c.receive_cases
  · rw [hreceive] at h
    cases h
  · rw [hreceive] at h
    cases h
    exact hjournal

theorem journal_close (c : Connection) :
    ∃ added : Journal, c.close.journal = c.journal ++ added ∧ added.Passive ∧
      added.received = [] := by
  unfold close
  split
  · exact ⟨[], by simp, Journal.passive_nil, rfl⟩
  · dsimp only
    split
    · refine ⟨[.closed, .log .debug .transport ("Closed connection to " ++ c.address)], ?_,
        ⟨rfl, rfl, rfl⟩, rfl⟩
      simp only [journal_debug, journal_note, address_note, List.append_assoc, List.cons_append,
        List.nil_append]
    · exact ⟨[.closed], rfl, ⟨rfl, rfl, rfl⟩, rfl⟩

end Connection

end NodeClient
