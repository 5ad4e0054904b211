import NodeClient.Proofs.Client.Pairing
import NodeClient.Proofs.Client.Steps
import NodeClient.Proofs.Link.Body

/-! Calls over HTTP do not touch each other: each accepted call makes one post, and its outcome is
made of its id and of what came of that post. -/

namespace NodeClient

/-- The user interrupts the program at this post. -/
def Post.interrupts : Post → Bool
  | .raises cause => cause.isInterrupt
  | .breaks _ | .answer _ _ => false

def Uninterrupted (posts : List Post) : Prop := ∀ post ∈ posts, post.interrupts = false

instance (posts : List Post) : Decidable (Uninterrupted posts) :=
  inferInstanceAs (Decidable (∀ post ∈ posts, post.interrupts = false))

theorem Post.brings_ne_interrupted {post : Post} (h : post.interrupts = false) (address : Text) :
    post.brings address ≠ .error .interrupted := by
  cases post with
  | raises cause =>
    intro hbrings
    have hinterrupt := postStop_eq_interrupted_iff.mp (Except.error.inj hbrings)
    rw [interrupts, hinterrupt] at h
    cases h
  | breaks name => rintro ⟨⟩
  | answer status body =>
    rw [brings]
    split
    · rintro ⟨⟩
    · rintro ⟨⟩

theorem Uninterrupted.brings {posts : List Post} (h : Uninterrupted posts) (address : Text)
    (k : Nat) : (postAt posts k).brings address ≠ .error .interrupted := by
  refine Post.brings_ne_interrupted ?_ address
  rw [postAt]
  cases hpost : posts[k]? with
  | none => rfl
  | some post => exact h post (List.mem_of_getElem? hpost)

theorem Uninterrupted.drop {posts : List Post} (h : Uninterrupted posts) (n : Nat) :
    Uninterrupted (posts.drop n) :=
  fun post hmem => h post (List.mem_of_mem_drop hmem)

/-- An HTTP endpoint that nothing was posted to yet. -/
def Connection.endpoint (address : Text) (posts : List Post) : Connection :=
  ⟨address, false, .http posts [], []⟩

/-- The one line that is queued is the next one. -/
theorem Exchange.nextLine_queued {c : Connection} {posts : List Post} {line : Text}
    (hwire : c.wire = .http posts [line]) (hfilled : Text.isBlank line = false) :
    nextLine c.supply c = { c with wire := .http posts [] }.deliver line := by
  have hsupply : c.supply = 1 := by rw [Connection.supply, hwire]; rfl
  rw [hsupply, nextLine, Connection.receive_queued hwire]
  simp only [Connection.deliver, hfilled, Bool.false_eq_true, if_false]

namespace Client

/-- An attempt whose post does not end in an interrupt. -/
theorem perform_post {x : Exchange} {r : Request} {posts : List Post} (hidle : x.pending = none)
    (hopen : x.connection.closed = false) (hwire : x.connection.wire = .http posts [])
    (hwritable : r.toValue.writable = true)
    (hcalm : (postAt posts 0).brings x.connection.address ≠ .error .interrupted) :
    ∃ x', ∃ added : Journal,
      perform x r =
        ((postAt posts 0).brings x.connection.address >>= fun line => verdict line r.id, x') ∧
      x'.pending = none ∧ x'.connection.closed = false ∧ x'.connection.wire = .http posts.tail [] ∧
      x'.connection.address = x.connection.address ∧
      x'.connection.journal = x.connection.journal ++ added ∧ added.sent = [wireBytes r.text] := by
  have hsend := Connection.send_post hopen (frame?_of_plain r.plain_text) hwire
  generalize hbrings : (postAt posts 0).brings x.connection.address = brought at hsend hcalm ⊢
  let noted : Journal :=
    [.handed r.text, .log .debug .transport ("-> " ++ r.text), .sent (wireBytes r.text)]
  have hnoted (replies : List Text) :
      (x.connection.posted r.text (wireBytes r.text) posts.tail replies).journal =
        x.connection.journal ++ noted := by
    simp [Connection.posted, Connection.offered, noted]
  cases brought with
  | error stop =>
    obtain ⟨x', hperform, hconnection, hfreed⟩ := perform_not_sent hidle hwritable hsend
    refine ⟨x', noted, hperform, hfreed fun hstop => hcalm (hstop ▸ rfl), ?_⟩
    rw [hconnection]
    exact ⟨hopen, rfl, rfl, hnoted [], rfl⟩
  | ok line =>
    let c := x.connection.posted r.text (wireBytes r.text) posts.tail [line]
    have hnext := Exchange.nextLine_queued (c := c) rfl (filled_of_brings hbrings)
    refine ⟨_, noted ++ Journal.reading line, perform_replied hidle hwritable hsend hnext,
      rfl, hopen, rfl, rfl, ?_, rfl⟩
    rw [← List.append_assoc, ← hnoted [line], Journal.reading]
    simp only [Connection.journal_note, Connection.journal_debug,
      List.append_assoc, List.cons_append, List.nil_append, c]

/-- A client between two calls over HTTP: these posts are still to come. -/
structure Posts (cl : Client) (address : Text) (posts : List Post) : Prop where
  idle : cl.exchange.pending = none
  notClosed : cl.exchange.connection.closed = false
  address : cl.exchange.connection.address = address
  wire : cl.exchange.connection.wire = .http posts []

theorem posts_start (address : Text) (posts : List Post) (firstId : Int) :
    (start (.endpoint address posts) firstId).Posts address posts :=
  ⟨rfl, rfl, rfl, rfl⟩

theorem Posts.call {cl : Client} {address : Text} {posts : List Post} (h : cl.Posts address posts)
    {command : Text} {args : List Argument} {params : List Json.Value}
    (hparams : checkedParams command args = .ok params)
    (hwritable : (cl.nextRequest command params).toValue.writable = true)
    (hcalm : (postAt posts 0).brings address ≠ .error .interrupted) :
    ∃ after, cl.call command args =
        ((postAt posts 0).brings address >>= fun line => verdict line cl.nextId, after) ∧
      after.Posts address posts.tail ∧ after.nextId = cl.nextId + 1 ∧
      (cl.since after).sent = [wireBytes (cl.nextRequest command params).text] := by
  obtain ⟨rfl, hwire⟩ := And.intro h.address h.wire
  obtain ⟨x', added, hperform, hidle, hopen, hwire', haddress, hjournal, hsent⟩ :=
    perform_post (x := cl.noted command params) h.idle h.notClosed hwire hwritable hcalm
  obtain ⟨before, hbefore, hpassive, -⟩ := cl.journal_noted command params
  have hwhole : (⟨x', cl.nextId + 1⟩ : Client).journal = cl.journal ++ (before ++ added) := by
    rw [← List.append_assoc, ← hbefore]
    exact hjournal
  refine ⟨⟨x', cl.nextId + 1⟩, ?_, ⟨hidle, hopen, haddress, hwire'⟩, rfl, ?_⟩
  · rw [call_accepted hparams, hperform]
    rfl
  · rw [since_eq hwhole, Journal.sent_append, hpassive.2.1, hsent, List.nil_append]

/-- The client after these calls, whatever came of them. -/
def afterCalls (cl : Client) (steps : List CallStep) : Client :=
  steps.foldl (fun cl step => (cl.call step.command step.args).2) cl

/-- By induction on the calls: each accepted one uses up one post and one id, and a rejected one
leaves the client as it was. -/
theorem Posts.afterCalls {cl : Client} {address : Text} {posts : List Post} {steps : List CallStep}
    (h : cl.Posts address posts) (hcalm : Uninterrupted posts)
    (hids : ∀ i < steps.countP CallStep.isAccepted, WithinDigits (cl.nextId + (i : Nat)))
    (hargs : ∀ step ∈ steps, ∀ a ∈ step.args, a.WithinDigits) :
    (cl.afterCalls steps).Posts address (posts.drop (steps.countP CallStep.isAccepted)) ∧
      (cl.afterCalls steps).nextId = cl.nextId + (steps.countP CallStep.isAccepted : Nat) := by
  induction steps generalizing cl posts with
  | nil => exact ⟨h, (Int.add_zero _).symm⟩
  | cons step rest ih =>
    obtain ⟨hstep, hrest⟩ := List.forall_mem_cons.mp hargs
    rw [Client.afterCalls, List.foldl_cons]
    cases hparams : checkedParams step.command step.args with
    | error stop =>
      rw [List.countP_cons_of_neg (CallStep.not_accepted hparams)] at hids ⊢
      rw [call_rejected hparams]
      exact ih h hcalm hids hrest
    | ok params =>
      rw [List.countP_cons_of_pos (CallStep.accepted hparams)] at hids ⊢
      have hwritable : (cl.nextRequest step.command params).toValue.writable = true :=
        Request.writable_toValue (by simpa using hids 0 (Nat.succ_pos _))
          (writable_checkedParams hstep hparams)
      obtain ⟨after, hcall, hposts, hid, -⟩ := h.call hparams hwritable (hcalm.brings address 0)
      rw [← List.drop_one] at hposts
      have hids' : ∀ i < rest.countP CallStep.isAccepted,
          WithinDigits (after.nextId + (i : Nat)) := by
        intro i hi
        have := hids (i + 1) (Nat.succ_lt_succ hi)
        rwa [Int.natCast_succ, Int.add_comm (i : Int), ← Int.add_assoc, ← hid] at this
      obtain ⟨hlater, hlast⟩ := ih hposts (hcalm.drop 1) hids' hrest
      rw [hcall]
      refine ⟨?_, ?_⟩
      · rw [List.drop_drop, Nat.add_comm] at hlater
        exact hlater
      · rw [Int.natCast_succ, Int.add_comm (_ : Int) 1, ← Int.add_assoc, ← hid]
        exact hlast

end Client

/-- The call that comes after others to the client of an endpoint. -/
def callAfter (address : Text) (firstId : Int) (posts : List Post) (earlier : List CallStep)
    (step : CallStep) : Call :=
  ⟨(Client.start (.endpoint address posts) firstId).afterCalls earlier, step.command, step.args⟩

section CallAfter

variable {address : Text} {firstId : Int} {posts : List Post} {earlier : List CallStep}
  {step : CallStep} (hcalm : Uninterrupted posts)
  (hids : ∀ i < (earlier ++ [step]).countP CallStep.isAccepted,
    WithinDigits (firstId + (i : Nat)))
  (hargs : ∀ s ∈ earlier ++ [step], ∀ a ∈ s.args, a.WithinDigits)
include hcalm hids hargs

theorem posts_before :
    (callAfter address firstId posts earlier step).client.Posts address
        (posts.drop (earlier.countP CallStep.isAccepted)) ∧
      (callAfter address firstId posts earlier step).client.nextId =
        firstId + (earlier.countP CallStep.isAccepted : Nat) := by
  refine (Client.posts_start address posts firstId).afterCalls hcalm (fun i hi => hids i ?_)
    fun s hs => hargs s (List.mem_append_left _ hs)
  rw [List.countP_append]
  exact Nat.lt_of_lt_of_le hi (Nat.le_add_right _ _)

theorem posts_after :
    (callAfter address firstId posts earlier step).run.2.Posts address
      (posts.drop ((earlier ++ [step]).countP CallStep.isAccepted)) := by
  have hrun := (Client.posts_start address posts firstId).afterCalls hcalm hids hargs
  rw [Client.afterCalls, List.foldl_append] at hrun
  exact hrun.1

/-- An accepted call makes one post, and its outcome is made of its own id and that post. -/
theorem call_accepted_after {params : List Json.Value}
    (hparams : checkedParams step.command step.args = .ok params) :
    (callAfter address firstId posts earlier step).outcome =
        ((postAt posts (earlier.countP CallStep.isAccepted)).brings address >>= fun line =>
          verdict line (firstId + (earlier.countP CallStep.isAccepted : Nat))) ∧
      (callAfter address firstId posts earlier step).events.sent =
        (callAfter address firstId posts earlier step).request?.toList.map
          fun r => wireBytes r.text := by
  obtain ⟨hposts, hid⟩ := posts_before hcalm hids hargs
  let cl := (callAfter address firstId posts earlier step).client
  have hlast : earlier.countP CallStep.isAccepted <
      (earlier ++ [step]).countP CallStep.isAccepted := by
    rw [List.countP_append, List.countP_singleton, if_pos (CallStep.accepted hparams)]
    exact Nat.lt_succ_self _
  have hwritable : (cl.nextRequest step.command params).toValue.writable = true :=
    Request.writable_toValue (hid ▸ hids _ hlast)
      (writable_checkedParams (hargs step (by simp)) hparams)
  obtain ⟨after, hcall, -, -, hsent⟩ :=
    hposts.call hparams hwritable ((hcalm.drop _).brings address 0)
  rw [postAt_drop, Nat.add_zero, hid] at hcall
  have hrequest : (callAfter address firstId posts earlier step).request? =
      some (cl.nextRequest step.command params) := Call.request?_of_accepted hparams
  have hrun : (callAfter address firstId posts earlier step).run = (_, after) := hcall
  rw [Call.outcome, Call.events, hrun, hrequest]
  exact ⟨rfl, hsent⟩

end CallAfter

/-- A rejected call makes no post, whatever came before it. -/
theorem Call.of_rejected {k : Call} {stop : Stop}
    (hparams : checkedParams k.command k.args = .error stop) :
    k.outcome = .error stop ∧ k.events = [] ∧ k.request? = none := by
  have hrun : k.run = (.error stop, k.client) := Client.call_rejected hparams _
  refine ⟨by rw [outcome, hrun], ?_, by rw [request?, hparams]⟩
  rw [events, hrun]
  exact Client.since_eq (List.append_nil _).symm

/-- Whatever the calls before it met, a call over HTTP leaves no reply behind and nothing that waits
for one. It makes a post just when it is accepted, and its outcome is made of its own id and its own
post: in a run with other posts before and after that one it is the same. -/
theorem outcome_of_own_post (address : Text) (firstId : Int) {posts posts' : List Post}
    (earlier : List CallStep) (step : CallStep) (hcalm : Uninterrupted posts)
    (hcalm' : Uninterrupted posts')
    (hids : ∀ i < (earlier ++ [step]).countP CallStep.isAccepted,
      WithinDigits (firstId + (i : Nat)))
    (hargs : ∀ s ∈ earlier ++ [step], ∀ a ∈ s.args, a.WithinDigits) :
    let k := callAfter address firstId posts earlier step
    let n := earlier.countP CallStep.isAccepted
    k.run.2.exchange.pending = none ∧
      k.run.2.exchange.connection.wire =
        .http (posts.drop ((earlier ++ [step]).countP CallStep.isAccepted)) [] ∧
      k.events.sent = k.request?.toList.map (fun r => wireBytes r.text) ∧
      (step.isAccepted = true →
        k.outcome = (postAt posts n).brings address >>= fun line => verdict line (firstId + n)) ∧
      (posts'[n]? = posts[n]? →
        (callAfter address firstId posts' earlier step).outcome = k.outcome) := by
  intro k n
  have hafter : k.run.2.Posts address _ := posts_after hcalm hids hargs
  refine ⟨hafter.idle, hafter.wire, ?_⟩
  cases hparams : checkedParams step.command step.args with
  | error stop =>
    obtain ⟨houtcome, hevents, hrequest⟩ := Call.of_rejected (k := k) hparams
    obtain ⟨houtcome', -, -⟩ :=
      Call.of_rejected (k := callAfter address firstId posts' earlier step) hparams
    refine ⟨by rw [hevents, hrequest]; rfl, fun h => (CallStep.not_accepted hparams h).elim, ?_⟩
    intro _
    rw [houtcome, houtcome']
  | ok params =>
    obtain ⟨houtcome, hsent⟩ := call_accepted_after hcalm hids hargs hparams
    obtain ⟨houtcome', -⟩ := call_accepted_after hcalm' hids hargs hparams
    refine ⟨hsent, fun _ => houtcome, fun hsame => ?_⟩
    rw [houtcome', houtcome, postAt, postAt, hsame]

/-- The call number 3 is answered, whatever the first two posts bring. -/
def lastAnswered (first second : Post) : List Post :=
  [first, second, .answer 200 (replyLine 3 (.int 5))]

/-- Only the last of three accepted calls gets a reply, and one call was rejected before them; the
other trouble of the second script changes nothing about that reply. -/
theorem outcome_of_own_post_after_trouble :
    let posts := lastAnswered (.raises ⟨.unreachable "ConnectionError", .bare⟩) (.answer 200 " ")
    let posts' := lastAnswered (.answer 500 "[") (.raises ⟨.httpTrouble "ReadTimeout", .bare⟩)
    let status : CallStep := ⟨"syncStatus", []⟩
    let earlier := [⟨"getBlock", []⟩, status, status]
    (callAfter "http://h:1" 1 posts earlier status).outcome = .ok (.int 5) ∧
      (callAfter "http://h:1" 1 posts' earlier status).outcome = .ok (.int 5) := by
  intro posts posts' status earlier
  have hids : ∀ i < (earlier ++ [status]).countP CallStep.isAccepted,
      WithinDigits (1 + (i : Nat)) := by
    intro i hi
    have hi : i < 3 := hi
    exact .of_lt (by omega)
  have hargs : ∀ step ∈ earlier ++ [status], ∀ a ∈ step.args, a.WithinDigits := by
    simp [earlier, status]
  have hcalm : Uninterrupted posts := by decide
  have hcalm' : Uninterrupted posts' := by decide
  obtain ⟨-, -, -, hown, hsame⟩ :=
    outcome_of_own_post "http://h:1" 1 earlier status hcalm hcalm' hids hargs
  have houtcome : _ = Except.ok (Json.Value.int 5) :=
    (hown rfl).trans (toOption_eq_some.mp (by decide +kernel))
  exact ⟨houtcome, (hsame rfl).trans houtcome⟩

end NodeClient
