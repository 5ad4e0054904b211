import NodeClient.Proofs.Client.Posts
import NodeClient.Proofs.Client.Ready

/-! A call that is answered by a body: its outcome is that of the line of the body. A body that is
no JSON is refused unless what the line leaves out of it repairs it. -/

namespace NodeClient

namespace Client

variable {cl : Client} {command : Text} {args : List Argument} {params : List Json.Value}
  {status : Int} {body : Text} {posts : List Post}

/-- What comes of an answer: nothing where it is blank, else what the line of the body says. -/
def answered (cl : Client) (status : Int) (body : Text) : Outcome Json.Value :=
  if Text.strip body = [] then
    .error (.failed (.disconnected (.emptyBody cl.exchange.connection.address status)))
  else verdict (bodyLine body) cl.nextId

section Call

variable (hready : cl.Ready)
  (hwire : cl.exchange.connection.wire = .http (.answer status body :: posts) [])
  (hparams : checkedParams command args = .ok params) (hid : WithinDigits cl.nextId)
  (hargs : ∀ a ∈ args, a.WithinDigits)
include hready hwire hparams hid hargs

theorem call_answered : (cl.call command args).1 = cl.answered status body := by
  have hposts : cl.Posts cl.exchange.connection.address (.answer status body :: posts) :=
    ⟨hready.idle, hready.notClosed, rfl, hwire⟩
  have hwritable : (cl.nextRequest command params).toValue.writable = true :=
    Request.writable_toValue hid (writable_checkedParams hargs hparams)
  obtain ⟨after, hcall, -⟩ := hposts.call hparams hwritable (Post.brings_ne_interrupted rfl _)
  rw [hcall]
  simp only [postAt_zero, List.head?_cons, Option.getD_some, Post.brings, answered]
  split
  · rfl
  · rfl

end Call

/-- The answer is refused: it is blank and counts as none, or its line is no reply to the
request. -/
inductive Refused (cl : Client) (status : Int) (body : Text) : Outcome Json.Value → Prop where
  | blank (h : Text.strip body = []) : Refused cl status body
      (.error (.failed (.disconnected (.emptyBody cl.exchange.connection.address status))))
  | noReply (h : Text.strip body ≠ []) {f : Failure}
      (hf : Reply.Refuses f cl.nextId (bodyLine body)) : Refused cl status body (.error (.failed f))

theorem refused_answered_iff : Refused cl status body (cl.answered status body) ↔
    ∀ reply, Reply.read (bodyLine body) cl.nextId ≠ .ok reply := by
  unfold answered
  split
  · rename_i hblank
    have hline : bodyLine body = [] := by rw [bodyLine, hblank]; rfl
    refine iff_of_true (.blank hblank) fun reply => ?_
    rw [hline]
    intro h
    cases h
  · rename_i hfilled
    unfold verdict
    cases hread : Reply.read (bodyLine body) cl.nextId with
    | error f =>
      refine iff_of_true (.noReply hfilled (Reply.refuses_of_read hread)) fun reply h => ?_
      cases h
    | ok reply =>
      refine iff_of_false ?_ fun h => h reply rfl
      intro hrefused
      obtain ⟨id, content⟩ := reply
      cases content with
      | result v => cases hrefused
      | error e =>
        cases hrefused with
        | noReply _ hf =>
          obtain ⟨fault, code, hsame⟩ := hf
          cases hsame

/-- A body that is no JSON is refused just when the line leaves out nothing but space between
tokens, or is no reply all the same. -/
theorem refused_malformed_body_iff {fault : Json.Fault} (hready : cl.Ready)
    (hwire : cl.exchange.connection.wire = .http (.answer status body :: posts) [])
    (hparams : checkedParams command args = .ok params) (hid : WithinDigits cl.nextId)
    (hargs : ∀ a ∈ args, a.WithinDigits) (hbody : Json.read body = .error fault) :
    Refused cl status body (cl.call command args).1 ↔
      dropsOnlySpace body = true ∨ ∀ reply, Reply.read (bodyLine body) cl.nextId ≠ .ok reply := by
  rw [call_answered hready hwire hparams hid hargs, refused_answered_iff]
  constructor
  · exact .inr
  · rintro (hspace | hnone)
    · intro reply hreply
      obtain ⟨v, hline⟩ := Reply.json_of_read hreply
      rw [read_eq_ok_iff_bodyLine.mpr ⟨hline, hspace⟩] at hbody
      cases hbody
    · exact hnone

/-- The client of a node that answers every post with this body. -/
def overHttp (body : Text) : Client :=
  start ⟨"http://h:1", false, .http [.answer 200 body] [], []⟩ 1

theorem ready_overHttp (body : Text) : (overHttp body).Ready := ready_start rfl 1

/-- An item is missing, in whichever line. -/
theorem refused_malformed_body_iff_missing_item :
    Refused (overHttp "[1,\n]") 200 "[1,\n]" ((overHttp "[1,\n]").call "syncStatus" []).1 := by
  have hparams : checkedParams "syncStatus" [] = .ok [] := rfl
  have hbody : Json.read "[1,\n]" = .error (.malformed .value 1) := by decide +kernel
  have hid : WithinDigits (overHttp "[1,\n]").nextId := .of_lt (by decide)
  exact (refused_malformed_body_iff (ready_overHttp _) rfl hparams hid (by simp) hbody).mpr
    (.inl (by decide +kernel))

/-- A reply whose result is cut in two by a line mark. -/
def cutReply : Text := "\x7b\"jsonrpc\":\"2.0\",\"result\":1\n2,\"id\":1\x7d"

theorem call_accepts_cutReply :
    Json.read cutReply = .error (.malformed .comma 9) ∧
      ((overHttp cutReply).call "syncStatus" []).1 = .ok (.int 12) :=
  ⟨by decide +kernel, toOption_eq_some.mp (by decide +kernel)⟩

end Client

end NodeClient
