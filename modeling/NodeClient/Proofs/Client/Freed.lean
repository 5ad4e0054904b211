import NodeClient.Proofs.Client.Posts
import NodeClient.Proofs.Client.Ready

/-! After a call nothing waits for a reply any more, whatever came of it, unless the user interrupted
it while its line was sent. Then the place of its request stays taken, and the calls after it are
refused. -/

namespace NodeClient

namespace Connection

/-- The user interrupts the next line that is sent. -/
def interruptsSend (c : Connection) : Bool :=
  !c.closed &&
    match c.wire with
    | .stream s => (s.sendFault s.sends).any Cause.isInterrupt
    | .http posts _ => posts.head?.any Post.interrupts

theorem sendStream_interrupted_iff (c : Connection) (s : Stream) (bytes : Bytes) :
    (c.sendStream s bytes).1 = .error .interrupted ↔
      (s.sendFault s.sends).any Cause.isInterrupt = true := by
  unfold sendStream
  cases s.sendFault s.sends with
  | none => simp
  | some cause => simp [stopOf_eq_interrupted_iff]

theorem sendPost_interrupted_iff (c : Connection) (posts : List Post) (replies : List Text)
    (bytes : Bytes) :
    (c.sendPost posts replies bytes).1 = .error .interrupted ↔
      posts.head?.any Post.interrupts = true := by
  unfold sendPost
  dsimp only
  cases posts.head? with
  | none =>
    simp only [Option.getD_none, Option.any_none]
    split <;> simp [lost]
  | some post =>
    cases post with
    | raises cause => simp [postStop_eq_interrupted_iff, Post.interrupts]
    | breaks name => simp [Post.interrupts]
    | answer status body =>
      simp only [Option.getD_some, Option.any_some, Post.interrupts]
      split <;> simp [lost]

theorem send_interrupted_iff (c : Connection) {line : Text} {bytes : Bytes}
    (hbytes : frame? line = some bytes) :
    (c.send line).1 = .error .interrupted ↔ c.interruptsSend = true := by
  unfold interruptsSend
  cases hclosed : c.closed with
  | true => simp [send_closed hclosed]
  | false =>
    cases hwire : c.wire with
    | stream s => simp [send_stream hclosed hbytes hwire, sendStream_interrupted_iff]
    | http posts replies => simp [send_http hclosed hbytes hwire, sendPost_interrupted_iff]

end Connection

namespace Client

section Perform

variable {x : Exchange} {r : Request} (hidle : x.pending = none)
include hidle

theorem perform_interrupted (hwritable : r.toValue.writable = true)
    (hsend : x.connection.interruptsSend = true) :
    (perform x r).1 = .error .interrupted ∧ (perform x r).2.pending = some r.id := by
  have hline : r.line = .ok r.text := Request.line_eq_text hwritable
  have hstop := (x.connection.send_interrupted_iff (frame?_of_plain r.plain_text)).mpr hsend
  cases hsent : x.connection.send r.text with
  | mk sent c =>
    rw [hsent] at hstop
    obtain rfl : sent = .error .interrupted := hstop
    simp [perform, Exchange.register, hidle, post, hline, hsent]

theorem perform_freed
    (h : ¬ (r.toValue.writable = true ∧ x.connection.interruptsSend = true)) :
    (perform x r).2.pending = none := by
  cases hwritable : r.toValue.writable with
  | false => rw [perform_tooLong hidle hwritable]
  | true =>
    have hcalm := mt (x.connection.send_interrupted_iff (frame?_of_plain r.plain_text)).mp
      fun hsend => h ⟨hwritable, hsend⟩
    cases hsend : x.connection.send r.text with
    | mk sent c =>
      rw [hsend] at hcalm
      cases sent with
      | error stop =>
        obtain ⟨x', hperform, -, hfreed⟩ := perform_not_sent hidle hwritable hsend
        rw [hperform]
        exact hfreed fun hstop => hcalm (hstop ▸ rfl)
      | ok _ =>
        cases hnext : Exchange.nextLine c.supply c with
        | mk outcome c' =>
          cases outcome with
          | error stop => rw [perform_no_reply hidle hwritable hsend hnext]
          | ok line => rw [perform_replied hidle hwritable hsend hnext]

end Perform

/-- The user interrupts this call while the line of its request is sent. -/
def Interrupted (cl : Client) (command : Text) (args : List Argument) : Prop :=
  ∃ params, checkedParams command args = .ok params ∧
    (cl.nextRequest command params).toValue.writable = true ∧
    cl.exchange.connection.interruptsSend = true

/-- No call with good arguments is refused for a request that waits. -/
def Usable (cl : Client) : Prop :=
  ∀ command args params id, checkedParams command args = .ok params →
    (cl.call command args).1 ≠ .error (.broke (.slotTaken id))

theorem call_interrupted {cl : Client} (hidle : cl.exchange.pending = none) {command : Text}
    {args : List Argument} (h : cl.Interrupted command args) :
    (cl.call command args).1 = .error .interrupted ∧
      (cl.call command args).2.exchange.pending = some cl.nextId := by
  obtain ⟨params, hparams, hwritable, hsend⟩ := h
  rw [call_accepted hparams]
  exact perform_interrupted (x := cl.noted command params) hidle hwritable hsend

theorem call_freed {cl : Client} (hidle : cl.exchange.pending = none) {command : Text}
    {args : List Argument} (h : ¬ cl.Interrupted command args) :
    (cl.call command args).2.exchange.pending = none := by
  cases hparams : checkedParams command args with
  | error stop =>
    rw [call_rejected hparams]
    exact hidle
  | ok params =>
    rw [call_accepted hparams]
    exact perform_freed (x := cl.noted command params) hidle
      fun ⟨hwritable, hsend⟩ => h ⟨params, hparams, hwritable, hsend⟩

theorem call_refused {cl : Client} {id : Int} (htaken : cl.exchange.pending = some id)
    {command : Text} {args : List Argument} {params : List Json.Value}
    (hparams : checkedParams command args = .ok params) :
    cl.call command args =
      (.error (.broke (.slotTaken id)), ⟨cl.noted command params, cl.nextId + 1⟩) := by
  have hnoted : (cl.noted command params).pending = some id := htaken
  rw [call_accepted hparams, perform_taken hnoted]

theorem call_taken {cl : Client} {id : Int} (htaken : cl.exchange.pending = some id)
    (command : Text) (args : List Argument) :
    (cl.call command args).2.exchange.pending = some id := by
  cases hparams : checkedParams command args with
  | error stop =>
    rw [call_rejected hparams]
    exact htaken
  | ok params =>
    rw [call_refused htaken hparams]
    exact htaken

end Client

theorem Attempt.pending_of_slotTaken {x : Exchange} {r : Request} {added : Journal} {id : Int}
    (h : Attempt x r (.error (.broke (.slotTaken id))) added) : x.pending = some id := by
  generalize houtcome : Except.error (Stop.broke (.slotTaken id)) = outcome at h
  cases h with
  | slotTaken pending hpending =>
    cases houtcome
    exact hpending
  | tooLong => cases houtcome
  | notSent stop hstop =>
    obtain rfl := Except.error.inj houtcome
    cases hstop with
    | link hlink => exact (Stop.FromNode.not_broke hlink.fromNode).elim
    | foreign hbreaks =>
      cases hbreaks
  | noReply stop hlink =>
    obtain rfl := Except.error.inj houtcome
    exact (Stop.FromNode.not_broke hlink.fromNode).elim
  | replied line => exact (Stop.FromNode.not_broke (fromNode_verdict houtcome.symm)).elim

namespace Client

theorem usable_iff_idle {cl : Client} : cl.Usable ↔ cl.exchange.pending = none := by
  constructor
  · intro husable
    cases hpending : cl.exchange.pending with
    | none => rfl
    | some id =>
      have hparams : checkedParams Method.syncStatus.name [] = .ok [] := rfl
      refine (husable Method.syncStatus.name [] [] id hparams ?_).elim
      rw [call_refused hpending hparams]
  · intro hidle command args params id hparams hrefused
    obtain ⟨outcome, cl', added, hcall, -, -, hattempt, -⟩ := call_cases hparams cl
    rw [hcall] at hrefused
    obtain rfl : outcome = _ := hrefused
    rw [hattempt.pending_of_slotTaken] at hidle
    cases hidle

/-- A call leaves its client as free as it was, unless it is interrupted while its line is sent:
then its request keeps the place of the one that waits, and later calls are refused. -/
theorem call_frees_iff {cl : Client} (hidle : cl.exchange.pending = none) (command : Text)
    (args : List Argument) :
    ((cl.call command args).2.exchange.pending = none ↔ ¬ cl.Interrupted command args) ∧
      ((cl.call command args).2.Usable ↔ ¬ cl.Interrupted command args) ∧
      (cl.Interrupted command args → (cl.call command args).1 = .error .interrupted ∧
        (cl.call command args).2.exchange.pending = some cl.nextId) := by
  have hfree : (cl.call command args).2.exchange.pending = none ↔
      ¬ cl.Interrupted command args := by
    refine ⟨fun hfree h => ?_, call_freed hidle⟩
    rw [(call_interrupted hidle h).2] at hfree
    cases hfree
  exact ⟨hfree, usable_iff_idle.trans hfree, call_interrupted hidle⟩

/-- Interrupted while its reply is awaited, a call leaves the client free. -/
theorem call_frees_iff_interrupted_read :
    let interrupt : Cause := ⟨.interrupt, .bare⟩
    let cl := start ⟨"h:1", false, .stream (.start [] (fun _ => none) fun _ => interrupt), []⟩ 1
    cl.exchange.pending = none ∧ (cl.call "syncStatus" []).2.exchange.pending = none ∧
      (cl.call "syncStatus" []).2.Usable := by
  intro interrupt cl
  have hcalm : ¬ cl.Interrupted "syncStatus" [] := fun ⟨_, _, _, hsend⟩ =>
    Bool.false_ne_true hsend
  have hidle : cl.exchange.pending = none := rfl
  obtain ⟨hfree, husable, -⟩ := call_frees_iff hidle "syncStatus" []
  exact ⟨hidle, hfree.mpr hcalm, husable.mpr hcalm⟩

/-- A link on which the user interrupts the first line that is sent. -/
def interruptedLink : Connection :=
  ⟨"stub:0", false,
    .stream (.start [] (fun n => if n = 0 then some ⟨.interrupt, .bare⟩ else none) fun _ => none),
    []⟩

/-- Interrupted while its line is sent, a call keeps the place of its request, and the next call is
refused. -/
theorem call_keeps_place_of_interrupted :
    (start interruptedLink 1).exchange.pending = none ∧
      ((start interruptedLink 1).call "syncStatus" []).2.exchange.pending = some 1 ∧
      (((start interruptedLink 1).call "syncStatus" []).2.call "syncStatus" []).1 =
        .error (.broke (.slotTaken 1)) := by
  have hparams : checkedParams "syncStatus" [] = .ok [] := rfl
  have hwritable : ((start interruptedLink 1).nextRequest "syncStatus" []).toValue.writable = true :=
    Request.writable_toValue (.of_lt (by decide)) rfl
  have hinterrupted : (start interruptedLink 1).Interrupted "syncStatus" [] :=
    ⟨[], hparams, hwritable, rfl⟩
  have hplace := (call_interrupted rfl hinterrupted).2
  exact ⟨rfl, hplace, congrArg Prod.fst (call_refused hplace hparams)⟩

/-- None of these calls, one after the other, is interrupted while its line is sent. -/
def Calm (cl : Client) : List CallStep → Prop
  | [] => True
  | step :: rest =>
    ¬ cl.Interrupted step.command step.args ∧ (cl.call step.command step.args).2.Calm rest

theorem afterCalls_taken {cl : Client} {id : Int} (htaken : cl.exchange.pending = some id)
    (steps : List CallStep) : (cl.afterCalls steps).exchange.pending = some id := by
  induction steps generalizing cl with
  | nil => exact htaken
  | cons step rest ih => exact ih (call_taken htaken step.command step.args)

/-- By induction on the calls: the first one that is interrupted while its line is sent keeps the
place for good. -/
theorem afterCalls_idle_iff {cl : Client} (hidle : cl.exchange.pending = none)
    (steps : List CallStep) :
    (cl.afterCalls steps).exchange.pending = none ↔ cl.Calm steps := by
  induction steps generalizing cl with
  | nil => exact iff_of_true hidle trivial
  | cons step rest ih =>
    by_cases h : cl.Interrupted step.command step.args
    · refine iff_of_false ?_ fun hcalm => hcalm.1 h
      have htaken := afterCalls_taken (call_interrupted hidle h).2 rest
      intro hfree
      rw [afterCalls, List.foldl_cons] at hfree
      rw [afterCalls, hfree] at htaken
      cases htaken
    · exact (ih (call_freed hidle h)).trans (and_iff_right h).symm

end Client

end NodeClient
