import NodeClient.Proofs.Rpc.Exchange

/-! Sending over an open link: it fails the way a link fails, unless a post meets a foreign fault.
Reading uses up no post. -/

namespace NodeClient

/-- The user ended the run, or it ends with the code of a failure that involves the node. -/
def Stop.FromNode (stop : Stop) : Prop :=
  stop = .interrupted ∨ ∃ f : Failure, stop = .failed f ∧ 2 < f.exitCode

theorem Stop.fromNode_disconnected (fault : LinkFault) :
    FromNode (.failed (.disconnected fault)) :=
  .inr ⟨_, rfl, (by decide : 2 < 3)⟩

theorem Stop.fromNode_connect (address : Text) (cause : Cause) :
    FromNode (.failed (.connect address cause)) :=
  .inr ⟨_, rfl, (by decide : 2 < 3)⟩

theorem Stop.OfLink.fromNode {stop : Stop} (h : stop.OfLink) : stop.FromNode := by
  obtain rfl | ⟨fault, rfl⟩ := h
  · exact .inl rfl
  · exact fromNode_disconnected fault

theorem Stop.FromNode.not_broke {b : Breakdown} : ¬ Stop.FromNode (.broke b) := by
  rintro (h | ⟨f, h, -⟩) <;> cases h

theorem PostBreaks.unique {posts : List Post} {b b' : Breakdown} (h : PostBreaks posts b)
    (h' : PostBreaks posts b') : b = b' := by
  -- each case names the next post, and there is only one
  cases h with
  | fault hpost =>
    cases h' with
    | fault hpost' => cases hpost.symm.trans hpost'; rfl
    | named hpost' => cases hpost.symm.trans hpost'
  | named hpost =>
    cases h' with
    | fault hpost' => cases hpost.symm.trans hpost'
    | named hpost' => cases hpost.symm.trans hpost'; rfl

theorem not_postBreaks_nil (b : Breakdown) : ¬ PostBreaks [] b := by
  rintro (⟨⟨⟩, -⟩ | ⟨⟨⟩⟩)

theorem not_postBreaks_answer {posts : List Post} {status : Int} {body : Text}
    (hpost : posts.head? = some (.answer status body)) (b : Breakdown) : ¬ PostBreaks posts b := by
  rintro (⟨hpost', -⟩ | ⟨hpost'⟩)
  · cases hpost.symm.trans hpost'
  · cases hpost.symm.trans hpost'

/-- How the work on an open link ends, given what breaks it: it breaks just when it has to. -/
inductive Fate {α : Type} (Breaks : Breakdown → Prop) : Outcome α → Prop where
  | breaks {b : Breakdown} (h : Breaks b) : Fate Breaks (.error (.broke b))
  | stops {stop : Stop} (h : stop.FromNode) (hnone : ∀ b, ¬ Breaks b) : Fate Breaks (.error stop)
  | gives (a : α) (hnone : ∀ b, ¬ Breaks b) : Fate Breaks (.ok a)

theorem Fate.congr {α : Type} {Breaks Breaks' : Breakdown → Prop} {outcome : Outcome α}
    (h : Fate Breaks outcome) (hsame : ∀ b, Breaks b ↔ Breaks' b) : Fate Breaks' outcome := by
  cases h with
  | breaks hb => exact .breaks ((hsame _).mp hb)
  | stops hstop hnone => exact .stops hstop fun b hb => hnone b ((hsame b).mpr hb)
  | gives a hnone => exact .gives a fun b hb => hnone b ((hsame b).mpr hb)

/-- How a stop came about does not depend on what the work was to give. -/
theorem Fate.of_error {α β : Type} {Breaks : Breakdown → Prop} {stop : Stop}
    (h : Fate Breaks (.error stop : Outcome α)) : Fate Breaks (.error stop : Outcome β) := by
  cases h with
  | breaks hb => exact .breaks hb
  | stops hstop hnone => exact .stops hstop hnone

namespace Connection

theorem fate_postStop {α : Type} (address : Text) {posts : List Post} {cause : Cause}
    (hpost : posts.head? = some (.raises cause)) :
    Fate (PostBreaks posts) (.error (postStop address cause) : Outcome α) := by
  rcases postStop_cases address cause with ⟨hcause, hstop⟩ | ⟨hcause, hstop⟩
  · rw [hstop]
    exact .breaks (.fault hpost hcause)
  · have hquiet (b : Breakdown) : ¬ PostBreaks posts b := by
      rintro (⟨hpost', hforeign⟩ | ⟨hpost'⟩)
      · cases hpost.symm.trans hpost'
        exact hcause hforeign
      · cases hpost.symm.trans hpost'
    rcases hstop with hlink | hstop
    · exact .stops hlink.fromNode hquiet
    · rw [hstop]
      exact .stops (Stop.fromNode_connect _ _) hquiet

theorem sendPost_cases (c : Connection) (posts : List Post) (replies : List Text) (bytes : Bytes) :
    ∃ outcome c', c.sendPost posts replies bytes = (outcome, c') ∧ Fate (PostBreaks posts) outcome ∧
      c'.closed = c.closed ∧ c'.posts = posts.tail := by
  unfold sendPost
  dsimp only
  cases hnext : posts.head? with
  | none =>
    obtain rfl : posts = [] := List.head?_eq_none_iff.mp hnext
    exact ⟨_, _, rfl, .stops (Stop.fromNode_disconnected _) not_postBreaks_nil, rfl, rfl⟩
  | some post =>
    cases post with
    | raises cause => exact ⟨_, _, rfl, fate_postStop _ hnext, rfl, rfl⟩
    | breaks name => exact ⟨_, _, rfl, .breaks (.named hnext), rfl, rfl⟩
    | answer status body =>
      have hquiet := not_postBreaks_answer hnext
      dsimp only [Option.getD_some]
      split
      · exact ⟨_, _, rfl, .stops (Stop.fromNode_disconnected _) hquiet, rfl, rfl⟩
      · exact ⟨_, _, rfl, .gives () hquiet, rfl, rfl⟩

/-- The link as it is when a line goes out. -/
def offered (c : Connection) (line : Text) : Connection :=
  (c.note (.handed line)).debug ("-> " ++ line)

theorem send_stream {c : Connection} {line : Text} {bytes : Bytes} {s : Stream}
    (hclosed : c.closed = false) (hbytes : frame? line = some bytes) (hwire : c.wire = .stream s) :
    c.send line = (c.offered line).sendStream s bytes := by
  simp only [send, closed_note, hclosed, Bool.false_eq_true, if_false, hbytes, wire_debug,
    wire_note, hwire]
  rfl

theorem send_http {c : Connection} {line : Text} {bytes : Bytes} {posts : List Post}
    {replies : List Text} (hclosed : c.closed = false) (hbytes : frame? line = some bytes)
    (hwire : c.wire = .http posts replies) :
    c.send line = (c.offered line).sendPost posts replies bytes := by
  simp only [send, closed_note, hclosed, Bool.false_eq_true, if_false, hbytes, wire_debug,
    wire_note, hwire]
  rfl

theorem send_closed {c : Connection} (hclosed : c.closed = true) (line : Text) :
    c.send line =
      (.error (.failed (.disconnected (.closed c.address))), c.note (.handed line)) := by
  simp [send, hclosed, lost]

theorem sendStream_cases (c : Connection) (s : Stream) (bytes : Bytes) :
    ∃ outcome c' s', c.sendStream s bytes = (outcome, c') ∧ c'.closed = c.closed ∧
      c'.wire = .stream s' ∧ ∀ stop, outcome = .error stop → stop.FromNode := by
  unfold sendStream
  dsimp only
  split
  · refine ⟨_, _, _, rfl, rfl, rfl, ?_⟩
    rintro stop ⟨⟩
    exact (stopOf_ofLink _ _).fromNode
  · refine ⟨_, _, _, rfl, rfl, rfl, ?_⟩
    rintro stop ⟨⟩

theorem posts_stream {c : Connection} {s : Stream} (hwire : c.wire = .stream s) :
    c.posts = [] := by
  rw [posts, hwire]

theorem posts_http {c : Connection} {posts : List Post} {replies : List Text}
    (hwire : c.wire = .http posts replies) : c.posts = posts := by
  rw [Connection.posts, hwire]

theorem send_open {c : Connection} {line : Text} (hclosed : c.closed = false)
    (hframe : (frame? line).isSome = true) :
    ∃ outcome c', c.send line = (outcome, c') ∧ Fate (PostBreaks c.posts) outcome ∧
      c'.closed = false ∧ c'.posts = c.posts.tail := by
  obtain ⟨bytes, hbytes⟩ := Option.isSome_iff_exists.mp hframe
  cases hwire : c.wire with
  | stream s =>
    rw [send_stream hclosed hbytes hwire, posts_stream hwire]
    obtain ⟨outcome, c', s', hsend, hclosed', hwire', hstop⟩ :=
      (c.offered line).sendStream_cases s bytes
    refine ⟨outcome, c', hsend, ?_, hclosed'.trans hclosed, posts_stream hwire'⟩
    cases outcome with
    | error stop => exact .stops (hstop stop rfl) not_postBreaks_nil
    | ok _ => exact .gives () not_postBreaks_nil
  | http posts replies =>
    rw [send_http hclosed hbytes hwire, posts_http hwire]
    obtain ⟨outcome, c', hsend, hfate, hclosed', hposts'⟩ :=
      (c.offered line).sendPost_cases posts replies bytes
    exact ⟨outcome, c', hsend, hfate, hclosed'.trans hclosed, hposts'⟩

theorem receive_posts (c : Connection) :
    c.receive.2.posts = c.posts ∧ c.receive.2.closed = c.closed := by
  unfold receive
  split
  · rename_i hwire
    have hposts := posts_stream hwire
    split
    · exact ⟨rfl, rfl⟩
    · unfold receiveStream
      dsimp only
      split
      · exact ⟨hposts.symm, rfl⟩
      · split
        · exact ⟨hposts.symm, rfl⟩
        · exact ⟨hposts.symm, rfl⟩
  · rename_i posts replies hwire
    have hposts := posts_http hwire
    split
    · exact ⟨rfl, rfl⟩
    · exact ⟨hposts.symm, rfl⟩

end Connection

theorem Exchange.nextLine_posts (fuel : Nat) (c : Connection) :
    (nextLine fuel c).2.posts = c.posts ∧ (nextLine fuel c).2.closed = c.closed :=
  -- what is received comes from the queue of replies, never from the posts
  ⟨nextLine_keeps Connection.posts (fun c => c.receive_posts.1) fuel c,
    nextLine_keeps Connection.closed (fun c => c.receive_posts.2) fuel c⟩

end NodeClient
