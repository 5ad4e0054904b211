import NodeClient.Proofs.Link.Body
import NodeClient.Proofs.Text.Input
import NodeClient.RawSession

/-! How a raw session ends. On a TCP link it never breaks; behind an HTTP endpoint it breaks at the
first post that meets a foreign fault or brings a reply that cannot be printed. -/

namespace NodeClient

/-- The link is open and no line waits to be received. -/
structure Connection.Idle (c : Connection) : Prop where
  notClosed : c.closed = false
  noReply : ∀ posts replies, c.wire = .http posts replies → replies = []

inductive TradeBreaks : List Post → Breakdown → Prop where
  | post {posts : List Post} {b : Breakdown} (h : PostBreaks posts b) : TradeBreaks posts b
  | print {status : Int} {body : Text} {posts : List Post}
      (hbody : (Text.strip body).isEmpty = false) (hline : (bodyLine body).hasSurrogate = true) :
      TradeBreaks (.answer status body :: posts) .unencodable

/-- What breaks a session: the exchanges before it go well. -/
inductive RawBreaks : List Text → List Post → Breakdown → Prop where
  | trade {line : Text} {lines : List Text} {posts : List Post} {b : Breakdown}
      (h : TradeBreaks posts b) : RawBreaks (line :: lines) posts b
  | later {line : Text} {lines : List Text} {status : Int} {body : Text} {posts : List Post}
      {b : Breakdown} (hbody : (Text.strip body).isEmpty = false)
      (hline : (bodyLine body).hasSurrogate = false) (h : RawBreaks lines posts b) :
      RawBreaks (line :: lines) (.answer status body :: posts) b

theorem not_tradeBreaks_nil (b : Breakdown) : ¬ TradeBreaks [] b := by
  rintro ⟨h⟩
  exact not_postBreaks_nil b h

theorem not_rawBreaks_nil (lines : List Text) (b : Breakdown) : ¬ RawBreaks lines [] b := by
  rintro ⟨h⟩
  exact not_tradeBreaks_nil b h

theorem TradeBreaks.unique {posts : List Post} {b b' : Breakdown} (h : TradeBreaks posts b)
    (h' : TradeBreaks posts b') : b = b' := by
  cases h with
  | post h =>
    cases h' with
    | post h' => exact h.unique h'
    | print => exact absurd h (not_postBreaks_answer rfl b)
  | print =>
    cases h' with
    | post h' => exact absurd h' (not_postBreaks_answer rfl b')
    | print => rfl

/-- After a reply that is printed nothing breaks at this exchange. -/
theorem not_tradeBreaks_answer {status : Int} {body : Text} {posts : List Post}
    (hline : (bodyLine body).hasSurrogate = false) (b : Breakdown) :
    ¬ TradeBreaks (.answer status body :: posts) b := by
  intro h
  cases h with
  | post h => exact not_postBreaks_answer rfl b h
  | print _ hline' =>
    rw [hline] at hline'
    cases hline'

theorem RawBreaks.unique {lines : List Text} {posts : List Post} {b b' : Breakdown}
    (h : RawBreaks lines posts b) (h' : RawBreaks lines posts b') : b = b' := by
  induction h with
  | trade h =>
    cases h' with
    | trade h' => exact h.unique h'
    | later _ hline _ => exact absurd h (not_tradeBreaks_answer hline _)
  | later _ hline _ ih =>
    cases h' with
    | trade h' => exact absurd h' (not_tradeBreaks_answer hline b')
    | later _ _ h' => exact ih h'

namespace RawSession

/-- What an exchange leaves of the session: nothing after a stop, and otherwise the other lines on a
link between two exchanges. -/
inductive Traded (posts : List Post) : Outcome Unit → Connection → Prop where
  | breaks {c : Connection} {b : Breakdown} (h : TradeBreaks posts b) :
      Traded posts (.error (.broke b)) c
  | stops {c : Connection} {stop : Stop} (h : stop.FromNode)
      (hnone : ∀ line lines b, ¬ RawBreaks (line :: lines) posts b) : Traded posts (.error stop) c
  | goes {c : Connection} (hidle : c.Idle)
      (hsame : ∀ line lines b, RawBreaks (line :: lines) posts b ↔ RawBreaks lines c.posts b) :
      Traded posts (.ok ()) c

theorem print_printable (t : Terminal) (c : Connection) {line : Text}
    (h : line.hasSurrogate = false) :
    print t c line = (.ok (), c.note (.wrote (line ++ [CodePoint.newline]))) := by
  rw [print, h, Bool.and_false]
  rfl

theorem receiveStream_cases (c : Connection) (s : Stream) :
    ∃ outcome c' s', c.receiveStream s = (outcome, c') ∧ c'.closed = c.closed ∧
      c'.wire = .stream s' ∧ (∀ stop, outcome = .error stop → stop.FromNode) ∧
      ∀ line, outcome = .ok line → line.hasSurrogate = false := by
  unfold Connection.receiveStream
  dsimp only
  split
  · refine ⟨_, _, _, rfl, rfl, rfl, ?_, ?_⟩
    · rintro stop ⟨⟩
      exact (stopOf_ofLink _ _).fromNode
    · rintro line ⟨⟩
  · split
    · refine ⟨_, _, _, rfl, rfl, rfl, ?_, ?_⟩
      · rintro stop ⟨⟩
        exact Stop.fromNode_disconnected _
      · rintro line ⟨⟩
    · refine ⟨_, _, _, rfl, rfl, rfl, ?_, ?_⟩
      · rintro stop ⟨⟩
      · rintro line ⟨⟩
        exact hasSurrogate_lineText _

theorem trade_stream {t : Terminal} {c : Connection} {s : Stream} {line : Text}
    (hopen : c.closed = false) (hwire : c.wire = .stream s)
    (hframe : (frame? line).isSome = true) :
    Traded c.posts (trade t c line).1 (trade t c line).2 := by
  obtain ⟨bytes, hbytes⟩ := Option.isSome_iff_exists.mp hframe
  have hsend := Connection.send_stream hopen hbytes hwire
  -- a stream has no posts, so nothing can break
  have hnone (line : Text) (lines : List Text) := not_rawBreaks_nil (line :: lines)
  obtain ⟨sent, c₁, s₁, hsent, hopen₁, hwire₁, hstop⟩ :=
    (c.offered line).sendStream_cases s bytes
  rw [hsent] at hsend
  rw [Connection.posts_stream hwire, trade, hsend]
  cases sent with
  | error stop => exact .stops (hstop stop rfl) hnone
  | ok _ =>
    have hopen₁ : c₁.closed = false := hopen₁.trans hopen
    have hreceive : c₁.receive = c₁.receiveStream s₁ := by
      rw [Connection.receive, hwire₁]
      simp only [hopen₁, Bool.false_eq_true, if_false]
    obtain ⟨read, c₂, s₂, hread, hopen₂, hwire₂, hstop₂, hline⟩ := receiveStream_cases c₁ s₁
    rw [hread] at hreceive
    simp only [hreceive]
    cases read with
    | error stop => exact .stops (hstop₂ stop rfl) hnone
    | ok reply =>
      dsimp only
      rw [print_printable t c₂ (hline reply rfl)]
      refine .goes ⟨hopen₂.trans hopen₁, fun posts replies h => ?_⟩ fun line lines b => ?_
      · rw [Connection.wire_note, hwire₂] at h
        cases h
      · rw [Connection.posts_note, Connection.posts_stream hwire₂]
        exact iff_of_false (hnone line lines b) (not_rawBreaks_nil lines b)

section Http

variable {t : Terminal} {c : Connection} {posts : List Post} {line : Text} {bytes : Bytes}

theorem traded_raises (address : Text) {cause : Cause} :
    Traded (.raises cause :: posts) (.error (postStop address cause)) c := by
  have hfate : Fate (PostBreaks (.raises cause :: posts))
    (.error (postStop address cause) : Outcome Unit) := Connection.fate_postStop _ rfl
  generalize postStop address cause = stop at hfate ⊢
  cases hfate with
  | breaks h => exact .breaks (.post h)
  | stops hstop hnone =>
    refine .stops hstop fun line lines b h => ?_
    cases h with
    | trade h =>
      cases h with
      | post h => exact hnone b h

theorem traded_blank (address : Text) {status : Int} {body : Text}
    (hbody : (Text.strip body).isEmpty = true) :
    Traded (.answer status body :: posts)
      (.error (.failed (.disconnected (.emptyBody address status)))) c := by
  refine .stops (Stop.fromNode_disconnected _) fun line lines b h => ?_
  cases h with
  | trade h =>
    cases h with
    | post h => exact not_postBreaks_answer rfl b h
    | print hbody' => simp [hbody] at hbody'
  | later hbody' => simp [hbody] at hbody'

/-- A reply is printed, or cannot be. -/
theorem traded_print {status : Int} {body : Text} (hstrict : t.strict = true)
    (hbody : (Text.strip body).isEmpty = false) (hopen : c.closed = false)
    (hwire : c.wire = .http posts []) :
    Traded (.answer status body :: posts) (print t c (bodyLine body)).1
      (print t c (bodyLine body)).2 := by
  cases hline : (bodyLine body).hasSurrogate with
  | true =>
    rw [print, hstrict, hline]
    exact .breaks (.print hbody hline)
  | false =>
    rw [print_printable t c hline]
    refine .goes ⟨hopen, fun posts' replies h => ?_⟩ fun l ls b => ?_
    · rw [Connection.wire_note, hwire] at h
      cases h
      rfl
    · rw [Connection.posts_note, Connection.posts_http hwire]
      refine ⟨fun h => ?_, .later hbody hline⟩
      cases h with
      | trade h => exact absurd h (not_tradeBreaks_answer hline b)
      | later _ _ h => exact h

theorem trade_http (hstrict : t.strict = true) (hopen : c.closed = false)
    (hwire : c.wire = .http posts []) (hframe : (frame? line).isSome = true) :
    Traded c.posts (trade t c line).1 (trade t c line).2 := by
  obtain ⟨bytes, hbytes⟩ := Option.isSome_iff_exists.mp hframe
  rw [Connection.posts_http hwire, trade, Connection.send_post hopen hbytes hwire, postAt_zero]
  cases posts with
  | nil =>
    exact .stops (Stop.fromNode_disconnected _) fun line lines => not_rawBreaks_nil (line :: lines)
  | cons post posts =>
    cases post with
    | raises cause => exact traded_raises c.address
    | breaks name => exact .breaks (.post (.named rfl))
    | answer status body =>
      simp only [List.head?_cons, Option.getD_some, Post.brings]
      by_cases hbody : Text.strip body = []
      · rw [if_pos hbody]
        exact traded_blank c.address (List.isEmpty_iff.mpr hbody)
      · rw [if_neg hbody]
        let sent := c.posted line bytes posts [bodyLine body]
        have hread := Connection.receive_queued (c := sent) rfl
        dsimp only [Except.map, Except.toOption, Option.toList, List.nil_append, List.tail_cons]
        rw [hread]
        exact traded_print hstrict (List.isEmpty_eq_false_iff.mpr hbody) hopen rfl

end Http

theorem trade_idle {t : Terminal} {c : Connection} {line : Text} (hstrict : t.strict = true)
    (hidle : c.Idle) (hframe : (frame? line).isSome = true) :
    Traded c.posts (trade t c line).1 (trade t c line).2 := by
  cases hwire : c.wire with
  | stream s => exact trade_stream hidle.notClosed hwire hframe
  | http posts replies =>
    obtain rfl := hidle.noReply posts replies hwire
    exact trade_http hstrict hidle.notClosed hwire hframe

theorem ask_idle {t : Terminal} {c : Connection} (h : c.Idle) :
    (ask t c).Idle ∧ (ask t c).posts = c.posts := by
  unfold ask
  split
  · exact ⟨h, rfl⟩
  · exact ⟨⟨h.notClosed, h.noReply⟩, rfl⟩

/-- A code that a session ends with: the end of the input, or a failure of the link that the log
tells. -/
def EndsWith (code : Nat) (journal : Journal) : Prop :=
  code = 0 ∨ ∃ f : Failure, code = f.exitCode ∧ 2 < f.exitCode ∧
    ∃ text, Event.log .error .raw (text ++ f.message) ∈ journal

theorem endedBy_fate {Breaks : Breakdown → Prop} {stop : Stop} (h : stop.FromNode)
    (hnone : ∀ b, ¬ Breaks b) (c : Connection) (exchanged : Nat) :
    Fate Breaks (endedBy stop c exchanged).outcome ∧
      ∀ code, (endedBy stop c exchanged).outcome = .ok code →
        EndsWith code (endedBy stop c exchanged).connection.journal := by
  obtain rfl | ⟨f, rfl, hcode⟩ := h
  · refine ⟨.stops (.inl rfl) hnone, ?_⟩
    rintro code ⟨⟩
  · unfold endedBy
    dsimp only
    split
    · refine ⟨.gives _ hnone, ?_⟩
      rintro code ⟨⟩
      exact .inr ⟨f, rfl, hcode, _, List.mem_append_right _ (List.mem_singleton.mpr rfl)⟩
    · refine ⟨.stops (.inr ⟨f, rfl, hcode⟩) hnone, ?_⟩
      rintro code ⟨⟩

/-- By induction on the lines: the link stays between two exchanges until the session ends. -/
theorem run_fate {t : Terminal} {c : Connection} {lines : List Text} (exchanged : Nat)
    (hstrict : t.strict = true) (hidle : c.Idle)
    (hframes : ∀ line ∈ lines, (frame? line).isSome = true) :
    Fate (RawBreaks lines c.posts) (run t exchanged c lines).outcome ∧
      ∀ code, (run t exchanged c lines).outcome = .ok code →
        EndsWith code (run t exchanged c lines).connection.journal := by
  induction lines generalizing c exchanged with
  | nil =>
    refine ⟨.gives 0 ?_, ?_⟩
    · rintro b ⟨⟩
    · rintro code ⟨⟩
      exact .inl rfl
  | cons line rest ih =>
    obtain ⟨hframe, hrest⟩ := List.forall_mem_cons.mp hframes
    -- the prompt changes neither the link nor the posts to come
    obtain ⟨hidle', hposts⟩ := ask_idle (t := t) hidle
    have htraded := trade_idle hstrict hidle' hframe
    rw [hposts] at htraded
    rw [run]
    cases htrade : trade t (ask t c) line with
    | mk outcome c' =>
      rw [htrade] at htraded
      cases htraded with
      | breaks h =>
        refine ⟨.breaks (.trade h), ?_⟩
        rintro code ⟨⟩
      | stops hstop hnone => exact endedBy_fate hstop (hnone line rest) c' exchanged
      | goes hidle₁ hsame =>
        obtain ⟨hfate, hcode⟩ := ih (exchanged + 1) hidle₁ hrest
        exact ⟨hfate.congr fun b => (hsame line rest b).symm, hcode⟩

theorem runBytes_fate {c : Connection} (hidle : c.Idle) (tty : Bool) (input : Bytes) :
    Fate (RawBreaks (Text.inputLines (Text.ofInput input)) c.posts)
        (runBytes tty true c input).outcome ∧
      ∀ code, (runBytes tty true c input).outcome = .ok code →
        EndsWith code (runBytes tty true c input).connection.journal :=
  run_fate 0 rfl hidle fun _ => frame?_inputLine

end RawSession

end NodeClient
