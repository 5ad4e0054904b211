import NodeClient.Proofs.Client.Call
import NodeClient.Proofs.Outcome

/-! Whatever a caller does with a client, and whatever fails on the way, a call that returns a
result returns what the reply to its own request holds. -/

namespace NodeClient

/-- What a caller can do with a client. -/
inductive Step where
  | call (command : Text) (args : List Argument)
  | syncStatus
  | height
  | blockChain (epoch limit : Option Int)
  | block (hash : Text)
  | output (pointer : Argument)
  | inventory (item : Argument)
  | register (id : Int)
  | close
  | enterAndLeave

structure Call where
  client : Client
  command : Text
  args : List Argument

namespace Call

def run (k : Call) : Outcome Json.Value × Client := k.client.call k.command k.args

def outcome (k : Call) : Outcome Json.Value := k.run.1

/-- The request that is built, if the arguments are accepted. -/
def request? (k : Call) : Option Request :=
  match checkedParams k.command k.args with
  | .error _ => none
  | .ok params => some (k.client.nextRequest k.command params)

def builtId? (k : Call) : Option Int := k.request?.map (·.id)

def events (k : Call) : Journal := k.client.since k.run.2

theorem request?_of_accepted {k : Call} {params : List Json.Value}
    (h : checkedParams k.command k.args = .ok params) :
    k.request? = some (k.client.nextRequest k.command params) := by
  rw [request?, h]

end Call

def Client.registered (cl : Client) (id : Int) : Client :=
  { cl with exchange := (cl.exchange.register id).2 }

namespace Step

/-- The client after a step, whatever came of it. -/
def after (cl : Client) : Step → Client
  | .call command args => (cl.call command args).2
  | .syncStatus => cl.syncStatus.2
  | .height => cl.height.2
  | .blockChain epoch limit => (cl.blockChain epoch limit).2
  | .block hash => (cl.block hash).2
  | .output pointer => (cl.output pointer).2
  | .inventory item => (cl.inventory item).2
  | .register id => cl.registered id
  | .close => cl.close
  | .enterAndLeave => cl.close

def statusCall (cl : Client) : Call := ⟨cl, Method.syncStatus.name, []⟩

def rangeCalls (cl : Client) : Except ArgumentFault EpochRange → List Call
  | .error _ => []
  | .ok r => [⟨cl, Method.blockChain.name, [.range r]⟩]

def resolving (e h : Int) : Event :=
  .log .debug .client
    ("Resolving epoch " ++ Text.ofInt e ++ " against chain height " ++ Text.ofInt h)

def blockChainCalls (cl : Client) (epoch limit : Option Int) : List Call :=
  match Epoch.checkLimit limit, epoch with
  | .error _, _ => []
  | .ok (), none => rangeCalls cl (Epoch.resolve none limit none)
  | .ok (), some e =>
    if e < 0 then
      statusCall cl :: match cl.height with
        | (.error _, _) => []
        | (.ok h, cl) =>
          rangeCalls (cl.note (resolving e h)) (Epoch.resolve (some e) limit (some h))
    else rangeCalls cl (Epoch.resolve (some e) limit none)

def calls (cl : Client) : Step → List Call
  | .call command args => [⟨cl, command, args⟩]
  | .syncStatus => [statusCall cl]
  | .height => [statusCall cl]
  | .blockChain epoch limit => blockChainCalls cl epoch limit
  | .block hash => [⟨cl, Method.block.name, [.value (.str hash)]⟩]
  | .output pointer => [⟨cl, Method.output.name, [pointer]⟩]
  | .inventory item => [⟨cl, Method.inventory.name, [item]⟩]
  | .register _ | .close | .enterAndLeave => []

end Step

namespace Client

def afterSteps (cl : Client) : List Step → Client
  | [] => cl
  | step :: rest => (step.after cl).afterSteps rest

def callsOf (cl : Client) : List Step → List Call
  | [] => []
  | step :: rest => step.calls cl ++ (step.after cl).callsOf rest

/-- The ids are left as they are and nothing goes to the node or comes from it. -/
def Rests (cl cl' : Client) : Prop :=
  cl'.nextId = cl.nextId ∧
    ∃ added : Journal, cl'.journal = cl.journal ++ added ∧ added.Passive ∧ added.received = []

/-- From one client to another by these calls, with nothing but rests between them. -/
inductive Chain : Client → List Call → Client → Prop where
  | rest {cl cl' : Client} (h : cl.Rests cl') : Chain cl [] cl'
  | call {cl cl' : Client} (k : Call) {calls : List Call} (h : cl.Rests k.client)
      (hrest : Chain k.run.2 calls cl') : Chain cl (k :: calls) cl'

theorem Rests.refl (cl : Client) : cl.Rests cl :=
  ⟨rfl, [], by simp, Journal.passive_nil, rfl⟩

theorem Rests.trans {cl₁ cl₂ cl₃ : Client} (h : cl₁.Rests cl₂) (h' : cl₂.Rests cl₃) :
    cl₁.Rests cl₃ := by
  obtain ⟨hid, added, hjournal, hpassive, hreceived⟩ := h
  obtain ⟨hid', added', hjournal', hpassive', hreceived'⟩ := h'
  refine ⟨hid'.trans hid, added ++ added', ?_, hpassive.append hpassive', ?_⟩
  · rw [hjournal', hjournal, List.append_assoc]
  · rw [Journal.received_append, hreceived, hreceived', List.append_nil]

theorem rests_note (cl : Client) (level : Level) (topic : Topic) (text : Text) :
    cl.Rests (cl.note (.log level topic text)) :=
  ⟨rfl, [.log level topic text], rfl, Journal.passive_log level topic text, rfl⟩

theorem rests_close (cl : Client) : cl.Rests cl.close := by
  obtain ⟨added, hjournal, hpassive, hreceived⟩ := cl.exchange.connection.journal_close
  exact ⟨rfl, added, hjournal, hpassive, hreceived⟩

theorem rests_registered (cl : Client) (id : Int) : cl.Rests (cl.registered id) := by
  have hsame : (cl.exchange.register id).2.connection = cl.exchange.connection := by
    unfold Exchange.register
    split <;> rfl
  refine ⟨rfl, [], ?_, Journal.passive_nil, rfl⟩
  rw [List.append_nil]
  exact congrArg Connection.journal hsame

theorem Chain.of_rests {cl cl₁ cl' : Client} {calls : List Call} (h : cl.Rests cl₁)
    (hchain : Chain cl₁ calls cl') : Chain cl calls cl' := by
  cases hchain with
  | rest h' => exact .rest (h.trans h')
  | call k h' hrest => exact .call k (h.trans h') hrest

theorem Chain.trans {cl cl₁ cl₂ : Client} {calls calls' : List Call} (h : Chain cl calls cl₁)
    (h' : Chain cl₁ calls' cl₂) : Chain cl (calls ++ calls') cl₂ := by
  induction h with
  | rest h => exact h'.of_rests h
  | call k h _ ih => exact .call k h (ih h')

theorem Chain.single (cl : Client) (command : Text) (args : List Argument) :
    Chain cl [⟨cl, command, args⟩] (cl.call command args).2 :=
  .call ⟨cl, command, args⟩ (.refl cl) (.rest (.refl _))

end Client

namespace Step

theorem chain_listRange (cl : Client) (range : Except ArgumentFault EpochRange) :
    Client.Chain cl (rangeCalls cl range) (cl.listRange range).2 := by
  cases range with
  | error fault => exact .rest (.refl cl)
  | ok r => exact .single cl _ _

theorem height_snd (cl : Client) : cl.height.2 = cl.syncStatus.2 := by
  unfold Client.height
  cases hstatus : cl.syncStatus with
  | mk outcome cl' =>
    cases outcome with
    | error stop => rfl
    | ok status =>
      dsimp only
      split <;> rfl

theorem chain_blockChain (cl : Client) (epoch limit : Option Int) :
    Client.Chain cl (blockChainCalls cl epoch limit) (cl.blockChain epoch limit).2 := by
  unfold blockChainCalls Client.blockChain
  cases hlimit : Epoch.checkLimit limit with
  | error fault => exact .rest (.refl cl)
  | ok _ =>
    cases epoch with
    | none => exact chain_listRange cl _
    | some e =>
      dsimp only
      split
      -- the call for the tip, and then the listing unless no height came of it
      · have hstatus : Client.Chain cl [statusCall cl] cl.height.2 := by
          rw [height_snd]
          exact .single cl _ _
        cases hheight : cl.height with
        | mk outcome cl' =>
          rw [hheight] at hstatus
          cases outcome with
          | error stop => exact hstatus
          | ok h =>
            have hrange := chain_listRange (cl'.note (resolving e h))
              (Epoch.resolve (some e) limit (some h))
            exact hstatus.trans (hrange.of_rests (cl'.rests_note _ _ _))
      · exact chain_listRange cl _

theorem chain_after (cl : Client) (step : Step) :
    Client.Chain cl (step.calls cl) (step.after cl) := by
  cases step with
  | call command args => exact .single cl _ _
  | syncStatus => exact .single cl _ _
  | height =>
    change Client.Chain cl [statusCall cl] cl.height.2
    rw [height_snd]
    exact .single cl _ _
  | blockChain epoch limit => exact chain_blockChain cl epoch limit
  | block hash => exact .single cl _ _
  | output pointer => exact .single cl _ _
  | inventory item => exact .single cl _ _
  | register id => exact .rest (cl.rests_registered id)
  | close => exact .rest cl.rests_close
  | enterAndLeave => exact .rest cl.rests_close

end Step

namespace Client

theorem chain_callsOf (cl : Client) (steps : List Step) :
    Chain cl (cl.callsOf steps) (cl.afterSteps steps) := by
  induction steps generalizing cl with
  | nil => exact .rest (.refl cl)
  | cons step rest ih => exact (step.chain_after cl).trans (ih (step.after cl))

/-- A call builds its request with the next id and leaves the one after it. -/
theorem nextId_call (k : Call) :
    (k.builtId? = none ∧ k.run.2.nextId = k.client.nextId) ∨
      (k.builtId? = some k.client.nextId ∧ k.run.2.nextId = k.client.nextId + 1) := by
  cases hparams : checkedParams k.command k.args with
  | error stop =>
    refine .inl ⟨by simp [Call.builtId?, Call.request?, hparams], ?_⟩
    rw [Call.run, call_rejected hparams]
  | ok params =>
    obtain ⟨outcome, cl', added, hcall, hid, -⟩ := call_cases hparams k.client
    refine .inr ⟨by simp [Call.builtId?, Call.request?, hparams, nextRequest], ?_⟩
    rw [Call.run, hcall]
    exact hid

/-- The requests of a chain carry consecutive ids. -/
theorem Chain.builtIds {cl cl' : Client} {calls : List Call} (h : Chain cl calls cl') :
    ∃ n : Nat, calls.filterMap Call.builtId? = (List.range n).map fun i : Nat => cl.nextId + i := by
  -- rests leave the next id as it is, and each call takes it or leaves it
  induction h with
  | rest h => exact ⟨0, rfl⟩
  | @call cl cl' k calls h hrest ih =>
    obtain ⟨n, hn⟩ := ih
    have hstart : k.client.nextId = cl.nextId := h.1
    rcases nextId_call k with ⟨hnone, hid⟩ | ⟨hsome, hid⟩
    · refine ⟨n, ?_⟩
      rw [List.filterMap_cons_none hnone, hn, hid, hstart]
    · refine ⟨n + 1, ?_⟩
      rw [List.filterMap_cons_some hsome, hn, hid, hstart, List.range_succ_eq_map, List.map_cons,
        List.map_map]
      congr 1
      · simp
      · refine List.map_congr_left fun i _ => ?_
        simp only [Function.comp_apply]
        push_cast
        omega

theorem Chain.builtIds_nodup {cl cl' : Client} {calls : List Call} (h : Chain cl calls cl') :
    (calls.filterMap Call.builtId?).Nodup := by
  obtain ⟨n, hn⟩ := h.builtIds
  rw [hn]
  refine List.Pairwise.map _ ?_ List.nodup_range
  intro i j hij hsame
  omega

end Client

namespace Call

theorem journal_run (k : Call) : k.run.2.journal = k.client.journal ++ k.events := by
  cases hparams : checkedParams k.command k.args with
  | error stop =>
    rw [events, run, Client.call_rejected hparams, Client.since_eq (List.append_nil _).symm,
      List.append_nil]
  | ok params =>
    obtain ⟨outcome, cl', added, hcall, -, hjournal, -⟩ := Client.call_cases hparams k.client
    rw [events, run, hcall, Client.since_eq hjournal, hjournal]

/-- A call that returns a result handed its own request to the link, once, and the line it took last
is the reply to that request. -/
theorem answered {k : Call} {v : Json.Value} (h : k.outcome = .ok v) :
    ∃ r sent line, k.request? = some r ∧ r.line = .ok sent ∧ k.events.handed = [sent] ∧
      k.events.received.getLast? = some line ∧ Answers line r.id v := by
  cases hparams : checkedParams k.command k.args with
  | error stop => simp [outcome, run, Client.call_rejected hparams] at h
  | ok params =>
    obtain ⟨ended, cl', added, hcall, -, hjournal, hattempt, -⟩ :=
      Client.call_cases hparams k.client
    have hevents : k.events = added := by
      rw [events, run, hcall]
      exact Client.since_eq hjournal
    have hended : ended = .ok v := by
      rw [← h, outcome, run, hcall]
    subst hended
    rw [hevents]
    -- every other end of an attempt is an error
    generalize hverdict : (Except.ok v : Outcome Json.Value) = ended at hattempt
    cases hattempt with
    | slotTaken => simp at hverdict
    | tooLong => simp at hverdict
    | notSent => simp at hverdict
    | noReply => simp at hverdict
    | replied line hwritable _ hhanded hsent hreceived hfull =>
      exact ⟨_, _, line, request?_of_accepted hparams, Request.line_eq_text hwritable, hhanded, hreceived,
        answers_of_verdict hverdict.symm⟩

end Call

namespace Client

/-- What a chain hands to the link is what its calls hand to it. -/
theorem Chain.handed {cl cl' : Client} {calls : List Call} (h : Chain cl calls cl') :
    ∃ added : Journal, cl'.journal = cl.journal ++ added ∧
      added.handed = calls.flatMap fun k => k.events.handed := by
  induction h with
  | rest h =>
    obtain ⟨-, added, hjournal, hpassive, -⟩ := h
    exact ⟨added, hjournal, hpassive.1⟩
  | @call cl cl' k calls h hrest ih =>
    obtain ⟨-, before, hbefore, hpassive, -⟩ := h
    obtain ⟨added, hjournal, hhanded⟩ := ih
    refine ⟨before ++ (k.events ++ added), ?_, ?_⟩
    · rw [hjournal, k.journal_run, hbefore, List.append_assoc, List.append_assoc]
    · rw [Journal.handed_append, Journal.handed_append, hpassive.1, hhanded, List.flatMap_cons,
        List.nil_append]

end Client

/-- Over any link and any run of steps: a call that returns a result built a request with an id of
its own, handed that one line to the link, and took the reply to it last. -/
theorem result_of_own_reply (c : Connection) (firstId : Int) (steps : List Step)
    {earlier later : List Call} {k : Call} {v : Json.Value}
    (hcalls : (Client.start c firstId).callsOf steps = earlier ++ k :: later)
    (hresult : k.outcome = .ok v) :
    ∃ r sent line, k.request? = some r ∧ r.line = .ok sent ∧ k.events.handed = [sent] ∧
      k.events.received.getLast? = some line ∧ Answers line r.id v ∧
      ∀ other ∈ earlier ++ later, other.builtId? ≠ some r.id := by
  obtain ⟨r, sent, line, hrequest, hline, hhanded, hreceived, hanswers⟩ := Call.answered hresult
  have hid : k.builtId? = some r.id := by rw [Call.builtId?, hrequest, Option.map_some]
  -- the ids of the whole run differ, so the id of this call is that of no other
  have hnodup := ((Client.start c firstId).chain_callsOf steps).builtIds_nodup
  rw [hcalls, List.filterMap_append, List.filterMap_cons_some hid, List.perm_middle.nodup_iff,
    ← List.filterMap_append, List.nodup_cons] at hnodup
  refine ⟨r, sent, line, hrequest, hline, hhanded, hreceived, hanswers, ?_⟩
  intro other hother hsame
  exact hnodup.1 (List.mem_filterMap.mpr ⟨other, hother, hsame⟩)

/-- A link whose first read fails, with the reply to the first request still to come. -/
def Connection.late : Connection :=
  let bytes := wireBytes (replyLine 1 (.int 6)) ++ wireBytes (replyLine 3 (.int 7))
  let readFault (i : Nat) : Option Cause := if i = 0 then some ⟨.timeout, .bare⟩ else none
  ⟨"h:1", false, .stream (.start bytes (fun _ => none) readFault), []⟩

theorem result_of_own_reply_after_late_reply :
    ∃ k, (Client.start .late 1).callsOf [.syncStatus, .syncStatus, .height] =
        [Step.statusCall (.start .late 1),
          Step.statusCall ((Client.start .late 1).afterSteps [.syncStatus])] ++ [k] ∧
      k.outcome = .ok (.int 7) ∧
      ∃ r line, k.request? = some r ∧ Answers line r.id (.int 7) := by
  refine ⟨Step.statusCall ((Client.start .late 1).afterSteps [.syncStatus, .syncStatus]), rfl, ?_⟩
  have hresult : (Step.statusCall ((Client.start .late 1).afterSteps
      [.syncStatus, .syncStatus])).outcome = .ok (.int 7) :=
    toOption_eq_some.mp (by decide +kernel)
  obtain ⟨r, -, line, hrequest, -, -, -, hanswers, -⟩ :=
    result_of_own_reply .late 1 [.syncStatus, .syncStatus, .height]
      (rfl : _ = [Step.statusCall (.start .late 1),
        Step.statusCall ((Client.start .late 1).afterSteps [.syncStatus])] ++ [_]) hresult
  exact ⟨hresult, r, line, hrequest, hanswers⟩

end NodeClient
