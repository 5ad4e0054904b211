import NodeClient.Proofs.Chain.Epoch
import NodeClient.Proofs.Client.Pairing
import NodeClient.Proofs.Client.Steps

/-! The requests of a listing: one, or two when it counts back from the tip of the chain and the
node names the tip. -/

namespace NodeClient

/-- The epoch that a status gives for the tip of the chain; a truth value is no epoch. -/
def NamesTip (status : Json.Value) (tip : Int) : Prop :=
  ∃ beacon, status.get? "chain_beacon" = some beacon ∧ beacon.get? "checkpoint" = some (.int tip)

theorem chainHeight?_eq_some_iff {status : Json.Value} {tip : Int} :
    chainHeight? status = some tip ↔ NamesTip status tip := by
  unfold chainHeight? NamesTip
  rw [← Option.bind_eq_some_iff]
  split
  · rename_i n hn
    simp [hn]
  · rename_i hother
    exact iff_of_false (by rintro ⟨⟩) (hother tip)

theorem NamesTip.unique {status : Json.Value} {tip tip' : Int} (h : NamesTip status tip)
    (h' : NamesTip status tip') : tip = tip' := by
  rw [← chainHeight?_eq_some_iff] at h h'
  exact Option.some.inj (h.symm.trans h')

theorem Answers.writable {line : Text} {id : Int} {v : Json.Value} (h : Answers line id v) :
    v.writable = true := by
  obtain ⟨members, hread, -, -, hresult⟩ := h
  exact Json.writable_findMember? (Json.writable_of_read hread) hresult

theorem Client.writable_of_call {cl cl' : Client} {command : Text} {args : List Argument}
    {v : Json.Value} (h : cl.call command args = (.ok v, cl')) : v.writable = true := by
  have hresult : (Call.mk cl command args).outcome = .ok v := congrArg Prod.fst h
  obtain ⟨r, sent, line, -, -, -, -, hanswers⟩ := Call.answered hresult
  exact hanswers.writable

theorem NamesTip.withinDigits {status : Json.Value} {tip : Int} (h : NamesTip status tip)
    (hstatus : status.writable = true) : WithinDigits tip := by
  obtain ⟨beacon, hbeacon, hcheckpoint⟩ := h
  exact Json.Value.writable_int.mp
    (Json.Value.writable_get? (Json.Value.writable_get? hstatus hbeacon) hcheckpoint)

namespace Request

def status (id : Int) : Request := ⟨id, Method.syncStatus.name, .arr []⟩

def listing (id : Int) (params : List Json.Value) : Request :=
  ⟨id, Method.blockChain.name, .arr params⟩

end Request

theorem checkedParams_syncStatus : checkedParams Method.syncStatus.name [] = .ok [] :=
  checkedParams_eq_ok_iff.mpr .syncStatus

/-- An accepted call hands over the line of its request, whatever becomes of it. -/
theorem Call.handed_accepted {k : Call} {params : List Json.Value}
    (hidle : k.client.exchange.pending = none)
    (hparams : checkedParams k.command k.args = .ok params) (hid : WithinDigits k.client.nextId)
    (hargs : ∀ a ∈ k.args, a.WithinDigits) :
    ∃ line, (Request.mk k.client.nextId k.command (.arr params)).line = .ok line ∧
      k.events.handed = [line] := by
  let r := k.client.nextRequest k.command params
  have hwritable : r.toValue.writable = true :=
    Request.writable_toValue hid (writable_checkedParams hargs hparams)
  obtain ⟨outcome, cl', added, hcall, -, hjournal, hattempt, -⟩ :=
    Client.call_cases hparams k.client
  have hevents : k.events = added := by
    rw [events, run, hcall]
    exact Client.since_eq hjournal
  refine ⟨r.text, Request.line_eq_text hwritable, ?_⟩
  rw [hevents]
  cases hattempt with
  | slotTaken pending h =>
    rw [hidle] at h
    cases h
  | tooLong h =>
    rw [hwritable] at h
    cases h
  | notSent _ _ _ hhanded | noReply _ _ _ hhanded | replied _ _ _ hhanded => exact hhanded

namespace Client

variable {cl : Client} {epoch limit : Option Int}

/-- The requests for the blocks from an epoch on, as many as the limit says. An epoch below zero
counts back from the tip, so it takes a first request for the tip, and a second one only if the
answer names a tip that is not below zero. -/
inductive Listing (cl : Client) : (epoch limit : Option Int) → List Request → Prop where
  | whole : Listing cl none none [.listing cl.nextId []]
  | start (count : Int) : Listing cl none (some count) [.listing cl.nextId [.int 0, .int count]]
  | onward {first : Int} (h : 0 ≤ first) :
      Listing cl (some first) none [.listing cl.nextId [.int first]]
  | part {first : Int} (h : 0 ≤ first) (count : Int) :
      Listing cl (some first) (some count) [.listing cl.nextId [.int first, .int count]]
  | tipless {back : Int} (h : 1 ≤ back) (limit : Option Int)
      (hnone : ∀ status tip, cl.syncStatus.1 = .ok status → NamesTip status tip → tip < 0) :
      Listing cl (some (-back)) limit [.status cl.nextId]
  | last {back tip : Int} (h : 1 ≤ back) (limit : Option Int) {status : Json.Value}
      (hstatus : cl.syncStatus.1 = .ok status) (hnamed : NamesTip status tip) (htip : 0 ≤ tip) :
      Listing cl (some (-back)) limit [.status cl.nextId,
        .listing (cl.nextId + 1) [.int (max 0 (tip - back + 1)), .int (limit.getD back)]]

/-- A height is what a status names for the tip, and it leaves the client as the status did. -/
theorem height_cases (cl : Client) :
    (∃ status tip, cl.syncStatus.1 = .ok status ∧ NamesTip status tip ∧
        cl.height = (.ok tip, cl.syncStatus.2)) ∨
      (∃ stop, cl.height = (.error stop, cl.syncStatus.2)) ∧
        ∀ status tip, cl.syncStatus.1 = .ok status → ¬ NamesTip status tip := by
  unfold height
  cases hstatus : cl.syncStatus with
  | mk outcome after =>
    cases outcome with
    | error stop => exact .inr ⟨⟨stop, rfl⟩, by rintro status tip ⟨⟩⟩
    | ok status =>
      dsimp only
      cases hheight : chainHeight? status with
      | some tip => exact .inl ⟨status, tip, rfl, chainHeight?_eq_some_iff.mp hheight, rfl⟩
      | none =>
        refine .inr ⟨⟨_, rfl⟩, ?_⟩
        rintro _ tip ⟨⟩ hnamed
        rw [chainHeight?_eq_some_iff.mpr hnamed] at hheight
        cases hheight

/-- After a status the next request has the next id, and nothing waits for a reply. -/
theorem status_ok {status : Json.Value} (h : cl.syncStatus.1 = .ok status) :
    cl.syncStatus.2.exchange.pending = none ∧ cl.syncStatus.2.nextId = cl.nextId + 1 ∧
      status.writable = true := by
  obtain ⟨outcome, after, added, hcall, hid, -, -, hidle⟩ :=
    call_cases checkedParams_syncStatus cl
  have hsame : cl.syncStatus = (outcome, after) := hcall
  rw [hsame] at h ⊢
  obtain rfl : outcome = .ok status := h
  exact ⟨hidle status rfl, hid, writable_of_call hcall⟩

/-- What a listing hands over is what its calls hand over. -/
theorem handed_blockChain (cl : Client) (epoch limit : Option Int) :
    (cl.since (cl.blockChain epoch limit).2).handed =
      (Step.blockChainCalls cl epoch limit).flatMap fun k => k.events.handed := by
  obtain ⟨added, hjournal, hhanded⟩ := (Step.chain_blockChain cl epoch limit).handed
  rw [since_eq hjournal, hhanded]

theorem handed_status (hidle : cl.exchange.pending = none) (hid : WithinDigits cl.nextId) :
    ∃ line, (Request.status cl.nextId).line = .ok line ∧
      (Step.statusCall cl).events.handed = [line] :=
  Call.handed_accepted (k := Step.statusCall cl) hidle checkedParams_syncStatus hid
    (by simp [Step.statusCall])

theorem handed_range (hidle : cl.exchange.pending = none) (hid : WithinDigits cl.nextId)
    {r : EpochRange} (hcount : Epoch.checkLimit r.count = .ok ())
    (hwithin : (Argument.range r).WithinDigits) :
    ∃ line, (Request.listing cl.nextId r.params).line = .ok line ∧
      (Step.rangeCalls cl (.ok r)).flatMap (fun k => k.events.handed) = [line] := by
  obtain ⟨line, hline, hhanded⟩ :=
    Call.handed_accepted (k := ⟨cl, Method.blockChain.name, [.range r]⟩) hidle
      (checkedParams_range hcount) hid (List.forall_mem_singleton.mpr hwithin)
  exact ⟨line, hline, (List.flatMap_singleton _ _).trans hhanded⟩

end Client

theorem mapM_line_one {r : Request} {lines : List Text} :
    [r].mapM Request.line = .ok lines ↔ ∃ line, r.line = .ok line ∧ lines = [line] := by
  rw [List.mapM_cons, bind_eq_ok]
  refine exists_congr fun line => and_congr_right fun _ => ?_
  show (Except.ok [line] : Outcome (List Text)) = .ok lines ↔ _
  rw [Except.ok.injEq, eq_comm]

theorem mapM_line_two {r r' : Request} {lines : List Text} :
    [r, r'].mapM Request.line = .ok lines ↔
      ∃ line line', r.line = .ok line ∧ r'.line = .ok line' ∧ lines = [line, line'] := by
  rw [List.mapM_cons, bind_eq_ok]
  refine exists_congr fun line => ?_
  simp only [bind_eq_ok, mapM_line_one, pure_eq_ok]
  constructor
  · rintro ⟨hline, _, ⟨line', hline', rfl⟩, rfl⟩
    exact ⟨line', hline, hline', rfl⟩
  · rintro ⟨line', hline, hline', rfl⟩
    exact ⟨hline, _, ⟨line', hline', rfl⟩, rfl⟩

namespace Client

section Requests

variable {cl : Client} {limit : Option Int} (hidle : cl.exchange.pending = none)
  (hlimit : Epoch.checkLimit limit = .ok ()) (hid : WithinDigits cl.nextId)
  (hcount : ∀ n, limit = some n → WithinDigits n)
include hidle hlimit hid hcount

theorem listing_none :
    ∃ requests, cl.Listing none limit requests ∧ requests.mapM Request.line =
      .ok ((Step.blockChainCalls cl none limit).flatMap fun k => k.events.handed) := by
  let r : EpochRange := ⟨limit.map fun _ => 0, limit⟩
  obtain ⟨line, hline, hhanded⟩ :=
    handed_range hidle hid (r := r) hlimit (EpochRange.withinDigits_open hcount)
  refine ⟨[.listing cl.nextId r.params], ?_, ?_⟩
  · cases limit with
    | none => exact .whole
    | some count => exact .start count
  · simp only [Step.blockChainCalls, hlimit, Epoch.resolve_none hlimit]
    rw [hhanded]
    exact mapM_line_one.mpr ⟨line, hline, rfl⟩

theorem listing_from {first : Int} (hfirst : 0 ≤ first) (hwithin : WithinDigits first) :
    ∃ requests, cl.Listing (some first) limit requests ∧ requests.mapM Request.line =
      .ok ((Step.blockChainCalls cl (some first) limit).flatMap fun k => k.events.handed) := by
  let r : EpochRange := ⟨some first, limit⟩
  obtain ⟨line, hline, hhanded⟩ :=
    handed_range hidle hid (r := r) hlimit (EpochRange.withinDigits_from hwithin hcount)
  refine ⟨[.listing cl.nextId r.params], ?_, ?_⟩
  · cases limit with
    | none => exact .onward hfirst
    | some count => exact .part hfirst count
  · simp only [Step.blockChainCalls, hlimit, Int.not_lt.mpr hfirst, if_false,
      Epoch.resolve_of_nonneg hlimit hfirst]
    rw [hhanded]
    exact mapM_line_one.mpr ⟨line, hline, rfl⟩

/-- The first line asks for the tip; what comes of it decides about the second. -/
theorem listing_back (hnext : WithinDigits (cl.nextId + 1)) {back : Int} (hback : 1 ≤ back)
    (hwithin : WithinDigits (-back)) :
    ∃ requests, cl.Listing (some (-back)) limit requests ∧ requests.mapM Request.line =
      .ok ((Step.blockChainCalls cl (some (-back)) limit).flatMap fun k => k.events.handed) := by
  have hneg : -back < 0 := by omega
  obtain ⟨line, hline, hstatus⟩ := handed_status hidle hid
  simp only [Step.blockChainCalls, hlimit, hneg, if_true, List.flatMap_cons, hstatus]
  obtain ⟨status, tip, hok, hnamed, hheight⟩ | ⟨⟨stop, hheight⟩, hnone⟩ := cl.height_cases
  · obtain ⟨hidle', hid', hwritable⟩ := status_ok hok
    rw [hheight]
    by_cases htip : tip < 0
    · refine ⟨_, .tipless hback limit fun status' tip' hok' hnamed' => ?_, ?_⟩
      · obtain rfl := Except.ok.inj (hok.symm.trans hok')
        rwa [hnamed'.unique hnamed]
      · simp only [Epoch.resolve_below_zero hlimit hneg htip]
        exact mapM_line_one.mpr ⟨line, hline, rfl⟩
    · have htip : 0 ≤ tip := Int.not_lt.mp htip
      let after := cl.syncStatus.2.note (Step.resolving (-back) tip)
      have hfree : after.exchange.pending = none := hidle'
      obtain ⟨second, hsecond, hhanded⟩ := handed_range hfree (hid' ▸ hnext)
        (Epoch.checkLimit_count hlimit hneg) (EpochRange.withinDigits_tip hneg htip hwithin
          (hnamed.withinDigits hwritable) hcount)
      have hrequest : Request.listing after.nextId
          (EpochRange.mk (some (max 0 (tip + -back + 1))) (some (limit.getD (- -back)))).params =
          .listing (cl.nextId + 1) [.int (max 0 (tip - back + 1)), .int (limit.getD back)] := by
        rw [← Int.sub_eq_add_neg, Int.neg_neg, ← hid']
        rfl
      rw [hrequest] at hsecond
      refine ⟨_, .last hback limit hok hnamed htip, ?_⟩
      simp only [Epoch.resolve_tip hlimit hneg htip]
      rw [hhanded]
      exact mapM_line_two.mpr ⟨line, second, hline, hsecond, rfl⟩
  · refine ⟨_, .tipless hback limit fun status tip hok hnamed => ?_, ?_⟩
    · exact absurd hnamed (hnone status tip hok)
    · rw [hheight]
      exact mapM_line_one.mpr ⟨line, hline, rfl⟩

end Requests

theorem listing {cl : Client} {epoch limit : Option Int} (hidle : cl.exchange.pending = none)
    (hlimit : Epoch.checkLimit limit = .ok ()) (hid : WithinDigits cl.nextId)
    (hnext : WithinDigits (cl.nextId + 1)) (hepoch : ∀ n, epoch = some n → WithinDigits n)
    (hcount : ∀ n, limit = some n → WithinDigits n) :
    ∃ requests, cl.Listing epoch limit requests ∧ requests.mapM Request.line =
      .ok ((Step.blockChainCalls cl epoch limit).flatMap fun k => k.events.handed) := by
  cases epoch with
  | none => exact listing_none hidle hlimit hid hcount
  | some e =>
    by_cases he : 0 ≤ e
    · exact listing_from hidle hlimit hid hcount he (hepoch e rfl)
    · have hpast : 1 ≤ -e := by omega
      have hback := listing_back hidle hlimit hid hcount hnext hpast
        (by rw [Int.neg_neg]; exact hepoch e rfl)
      rwa [Int.neg_neg] at hback

/-- A limit that is not positive ends a listing before anything is done. In every other case the
lines handed over are those of the requests of the listing. -/
theorem blockChain_requests {cl : Client} {epoch limit : Option Int}
    (hidle : cl.exchange.pending = none) (hid : WithinDigits cl.nextId)
    (hnext : WithinDigits (cl.nextId + 1)) (hepoch : ∀ n, epoch = some n → WithinDigits n)
    (hcount : ∀ n, limit = some n → WithinDigits n) :
    (∀ n, limit = some n → n ≤ 0 →
        cl.blockChain epoch limit = (.error (.failed (.arguments (.limit n))), cl)) ∧
      ((∀ n, limit = some n → 0 < n) → ∃ requests, cl.Listing epoch limit requests ∧
        requests.mapM Request.line = .ok (cl.since (cl.blockChain epoch limit).2).handed) := by
  refine ⟨fun n hn hle => ?_, fun hpos => ?_⟩
  · simp only [blockChain, hn, Epoch.checkLimit_of_nonpos hle]
  · obtain ⟨requests, hlisting, hlines⟩ :=
      listing hidle (Epoch.checkLimit_of_pos hpos) hid hnext hepoch hcount
    exact ⟨requests, hlisting, by rw [handed_blockChain, hlines]⟩

/-- The status of a chain of two blocks. -/
def shortStatus : Json.Value := .obj [("chain_beacon", .obj [("checkpoint", .int 1)])]

/-- The last three blocks are asked for, and the chain has only two. -/
theorem blockChain_requests_short_chain :
    let cl := start (.faultless "h:1" (wireBytes (replyLine 1 shortStatus))) 1
    [Request.status 1, .listing 2 [.int 0, .int 3]].mapM Request.line =
      .ok (cl.since (cl.blockChain (some (-3)) none).2).handed := by
  intro cl
  have hepoch : ∀ n, some (-3) = some n → WithinDigits n := by
    rintro n ⟨⟩
    exact .of_lt (by decide)
  have hid : WithinDigits cl.nextId := .of_lt (by decide)
  have hnext : WithinDigits (cl.nextId + 1) := .of_lt (by decide)
  have hcount : ∀ n, (none : Option Int) = some n → WithinDigits n := by rintro n ⟨⟩
  obtain ⟨requests, hlisting, hlines⟩ :=
    (blockChain_requests rfl hid hnext hepoch hcount).2 (by rintro n ⟨⟩)
  have hstatus : cl.syncStatus.1 = .ok shortStatus := toOption_eq_some.mp (by decide +kernel)
  have hnamed : NamesTip shortStatus 1 := ⟨_, rfl, rfl⟩
  generalize hback : (some (-3) : Option Int) = epoch at hlisting
  cases hlisting with
  | whole => cases hback
  | onward h =>
    obtain rfl := Option.some.inj hback
    exact absurd h (by decide)
  | tipless _ _ hnone => exact absurd (hnone _ _ hstatus hnamed) (by decide)
  | @last back tip _ _ status hok hnamed' _ =>
    obtain rfl : back = 3 := by have := Option.some.inj hback; omega
    obtain rfl := Except.ok.inj (hstatus.symm.trans hok)
    obtain rfl := hnamed.unique hnamed'
    exact hlines

end Client

end NodeClient
