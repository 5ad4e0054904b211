import NodeClient.Proofs.Client.Call
import NodeClient.Proofs.Link.Send
import NodeClient.Proofs.Outcome
import NodeClient.Proofs.Rpc.Params

/-! An accepted call on an open link that waits for nothing: it gives a result, or stops for a
reason that involves the node, or breaks because its post does. -/

namespace NodeClient

theorem fromNode_verdict {line : Text} {id : Int} {stop : Stop}
    (h : verdict line id = .error stop) : stop.FromNode := by
  unfold verdict at h
  split at h
  · rename_i f hread
    obtain rfl := Except.error.inj h
    refine .inr ⟨f, rfl, ?_⟩
    obtain ⟨fault, code, rfl⟩ := Reply.refuses_of_read hread
    exact (by decide : 2 < 4)
  · split at h
    · cases h
    · obtain rfl := Except.error.inj h
      exact .inr ⟨_, rfl, (by decide : 2 < 5)⟩

namespace Client

/-- No request waits for its reply, and the link is open. -/
structure Ready (cl : Client) : Prop where
  idle : cl.exchange.pending = none
  notClosed : cl.exchange.connection.closed = false

def posts (cl : Client) : List Post := cl.exchange.connection.posts

theorem ready_start {c : Connection} (h : c.closed = false) (firstId : Int) :
    (start c firstId).Ready := ⟨rfl, h⟩

theorem Ready.note {cl : Client} (h : cl.Ready) (e : Event) : (cl.note e).Ready :=
  ⟨h.idle, h.notClosed⟩

theorem perform_ready {x : Exchange} {r : Request} (hidle : x.pending = none)
    (hopen : x.connection.closed = false) (hwritable : r.toValue.writable = true) :
    ∃ outcome x', perform x r = (outcome, x') ∧ Fate (PostBreaks x.connection.posts) outcome ∧
      ∀ v, outcome = .ok v → x'.pending = none ∧ x'.connection.closed = false ∧
        x'.connection.posts = x.connection.posts.tail := by
  have hframe : (frame? r.text).isSome = true := by
    rw [frame?_of_plain r.plain_text]
    rfl
  obtain ⟨sent, c₁, hsend, hfate, hopen₁, hposts₁⟩ := Connection.send_open hopen hframe
  cases sent with
  | error stop =>
    obtain ⟨x', hperform, -⟩ := perform_not_sent hidle hwritable hsend
    exact ⟨.error stop, x', hperform, hfate.of_error, fun v hv => by cases hv⟩
  | ok _ =>
    -- the line went out, so its post cannot break any more
    have hposts : ∀ b, ¬ PostBreaks x.connection.posts b := by
      cases hfate with
      | gives _ hnone => exact hnone
    obtain ⟨outcome, c', added, hnext, -, -, hend⟩ :=
      Exchange.nextLine_cases c₁ (Nat.le_refl _)
    have hkept := Exchange.nextLine_posts c₁.supply c₁
    rw [hnext] at hkept
    obtain ⟨line, rfl, -, -⟩ | ⟨stop, rfl, hlink⟩ := hend
    · refine ⟨_, _, perform_replied hidle hwritable hsend hnext, ?_, fun _ _ =>
        ⟨rfl, hkept.2.trans hopen₁, hkept.1.trans hposts₁⟩⟩
      cases hverdict : verdict line r.id with
      | error stop => exact .stops (fromNode_verdict hverdict) hposts
      | ok v => exact .gives v hposts
    · exact ⟨_, _, perform_no_reply hidle hwritable hsend hnext, .stops hlink.fromNode hposts,
        fun v hv => by cases hv⟩

/-- An accepted call whose integers can be written. After a result the client is ready again. -/
theorem call_ready {cl : Client} (h : cl.Ready) {command : Text} {args : List Argument}
    {params : List Json.Value} (hparams : checkedParams command args = .ok params)
    (hid : WithinDigits cl.nextId) (hargs : ∀ a ∈ args, a.WithinDigits) :
    ∃ outcome cl', cl.call command args = (outcome, cl') ∧ Fate (PostBreaks cl.posts) outcome ∧
      cl'.nextId = cl.nextId + 1 ∧
      ∀ v, outcome = .ok v → cl'.Ready ∧ cl'.posts = cl.posts.tail := by
  have hwritable : (cl.nextRequest command params).toValue.writable = true :=
    Request.writable_toValue hid (writable_checkedParams hargs hparams)
  obtain ⟨outcome, x', hperform, hfate, hafter⟩ :=
    perform_ready (x := cl.noted command params) h.idle h.notClosed hwritable
  refine ⟨outcome, ⟨x', cl.nextId + 1⟩, ?_, hfate, rfl, fun v hv => ?_⟩
  · rw [call_accepted hparams, hperform]
  · obtain ⟨hidle, hopen, hposts⟩ := hafter v hv
    exact ⟨⟨hidle, hopen⟩, hposts⟩

end Client

end NodeClient
