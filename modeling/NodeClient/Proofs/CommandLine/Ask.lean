import NodeClient.Proofs.Chain.Pointer
import NodeClient.Proofs.Client.Listing
import NodeClient.Proofs.Client.Ready
import NodeClient.Proofs.CommandLine.Checks
import NodeClient.Proofs.CommandLine.Words

/-! How the question of a checked command is answered over a fresh link. -/

namespace NodeClient

namespace Client

theorem withinDigits_start (c : Connection) : WithinDigits (start c 1).nextId :=
  .of_lt (by decide : (1 : Int).natAbs < 10)

theorem height_ready {cl : Client} (h : cl.Ready) (hid : WithinDigits cl.nextId) :
    ∃ outcome cl', cl.height = (outcome, cl') ∧ Fate (PostBreaks cl.posts) outcome ∧
      cl'.nextId = cl.nextId + 1 ∧
      ∀ tip, outcome = .ok tip → cl'.Ready ∧ cl'.posts = cl.posts.tail ∧ WithinDigits tip := by
  obtain ⟨outcome, cl', hcall, hfate, hid', hafter⟩ :=
    call_ready h checkedParams_syncStatus hid (by simp)
  have hstatus : cl.syncStatus = (outcome, cl') := hcall
  unfold height
  rw [hstatus]
  cases hfate with
  | breaks hb =>
    refine ⟨_, cl', rfl, .breaks hb, hid', ?_⟩
    rintro tip ⟨⟩
  | stops hstop hnone =>
    refine ⟨_, cl', rfl, .stops hstop hnone, hid', ?_⟩
    rintro tip ⟨⟩
  | gives status hnone =>
    dsimp only
    cases hheight : chainHeight? status with
    | none =>
      refine ⟨_, cl', rfl, .stops (.inr ⟨_, rfl, (by decide : 2 < 4)⟩) hnone, hid', ?_⟩
      rintro tip ⟨⟩
    | some tip =>
      refine ⟨_, cl', rfl, .gives tip hnone, hid', ?_⟩
      rintro _ ⟨⟩
      obtain ⟨hready, hposts⟩ := hafter status rfl
      exact ⟨hready, hposts,
        (chainHeight?_eq_some_iff.mp hheight).withinDigits (writable_of_call hcall)⟩

theorem listRange_ready {cl : Client} (h : cl.Ready) (hid : WithinDigits cl.nextId)
    {r : EpochRange} (hcount : Epoch.checkLimit r.count = .ok ())
    (hwithin : (Argument.range r).WithinDigits) :
    Fate (PostBreaks cl.posts) (cl.listRange (.ok r)).1 := by
  obtain ⟨outcome, cl', hcall, hfate, -, -⟩ :=
    call_ready h (checkedParams_range hcount) hid (List.forall_mem_singleton.mpr hwithin)
  have hlist : cl.listRange (.ok r) = (outcome, cl') := hcall
  rw [hlist]
  exact hfate

end Client

/-- What a request demands of a question: operands that were checked, and integers with few enough
digits. -/
def Question.Accepted : Question → Prop
  | .blockChain epoch limit => Epoch.checkLimit limit = .ok () ∧
      (∀ n, epoch = some n → WithinDigits n) ∧ ∀ n, limit = some n → WithinDigits n
  | .block hash => isHash hash = true
  | .output pointer => WithinDigits pointer.outputIndex
  | .syncStatus => True
  | .inventory item =>
    item.WithinDigits ∧ ∃ params, checkedParams Method.inventory.name [item] = .ok params

/-- The node names a tip below epoch zero to a listing that counts back from the tip. -/
def TipBelowZero (q : Question) (c : Connection) : Prop :=
  ∃ e limit tip cl, q = .blockChain (some e) limit ∧ e < 0 ∧
    (Client.start c 1).height = (.ok tip, cl) ∧ tip < 0

/-- What breaks the asking of a question: the first post, or the second one of a listing that counts
back from a tip that the first one has brought. -/
inductive AskBreaks (q : Question) (c : Connection) : Breakdown → Prop where
  | first {b : Breakdown} (h : PostBreaks c.posts b) : AskBreaks q c b
  | second {e tip : Int} {limit : Option Int} {cl : Client} {b : Breakdown}
      (hq : q = .blockChain (some e) limit) (he : e < 0)
      (hheight : (Client.start c 1).height = (.ok tip, cl)) (htip : 0 ≤ tip)
      (h : PostBreaks c.posts.tail b) : AskBreaks q c b

/-- A height is given only when the first post breaks nothing. -/
theorem AskBreaks.unique {q : Question} {c : Connection} (hopen : c.closed = false)
    {b b' : Breakdown} (h : AskBreaks q c b) (h' : AskBreaks q c b') : b = b' := by
  -- the two ways exclude each other, since the second post follows an answer to the first
  have hfirst {b : Breakdown} {tip : Int} {cl : Client}
      (hheight : (Client.start c 1).height = (.ok tip, cl)) : ¬ PostBreaks c.posts b := by
    obtain ⟨outcome, cl', hheight', hfate, -⟩ :=
      Client.height_ready (Client.ready_start hopen 1) (Client.withinDigits_start c)
    rw [hheight] at hheight'
    cases hheight'
    cases hfate with
    | gives _ hnone => exact hnone b
  cases h with
  | first h =>
    cases h' with
    | first h' => exact h.unique h'
    | second _ _ hheight => exact absurd h (hfirst hheight)
  | second _ _ hheight _ h =>
    cases h' with
    | first h' => exact absurd h' (hfirst hheight)
    | second _ _ _ _ h' => exact h.unique h'

def Asked (q : Question) (c : Connection) (outcome : Outcome Json.Value) : Prop :=
  (TipBelowZero q c ∧ (∀ b, ¬ AskBreaks q c b) ∧
      ∃ tip, outcome = .error (.failed (.arguments (.heightNegative tip)))) ∨
    (¬ TipBelowZero q c ∧ Fate (AskBreaks q c) outcome)

namespace Question

theorem asked_of_call {q : Question} {c : Connection} {outcome : Outcome Json.Value}
    (hq : ∀ e limit, q = .blockChain (some e) limit → 0 ≤ e)
    (h : Fate (PostBreaks c.posts) outcome) : Asked q c outcome := by
  refine .inr ⟨?_, h.congr fun b => ⟨.first, fun hb => ?_⟩⟩
  · rintro ⟨e, limit, tip, cl, hblock, he, -⟩
    exact Int.not_le.mpr he (hq e limit hblock)
  · cases hb with
    | first h => exact h
    | second hblock he => exact absurd he (Int.not_lt.mpr (hq _ _ hblock))

section Tip

variable {c : Connection} {e : Int} {limit : Option Int} {outcome : Outcome Int} {cl : Client}

/-- A listing that counts back from the tip asks for the tip first. -/
theorem ask_error (hlimit : Epoch.checkLimit limit = .ok ()) (he : e < 0) {stop : Stop}
    (hheight : (Client.start c 1).height = (.error stop, cl)) :
    (Question.blockChain (some e) limit).ask (.start c 1) = (.error stop, cl) := by
  simp only [ask, Client.blockChain, hlimit, he, if_true, hheight]

theorem ask_tip (hlimit : Epoch.checkLimit limit = .ok ()) (he : e < 0) {tip : Int}
    (hheight : (Client.start c 1).height = (.ok tip, cl)) :
    (Question.blockChain (some e) limit).ask (.start c 1) =
      (cl.note (Step.resolving e tip)).listRange (Epoch.resolve (some e) limit (some tip)) := by
  simp only [ask, Client.blockChain, hlimit, he, if_true, hheight]
  rfl

theorem ask_below (hlimit : Epoch.checkLimit limit = .ok ()) (he : e < 0) {tip : Int}
    (hheight : (Client.start c 1).height = (.ok tip, cl)) (htip : tip < 0) :
    (Question.blockChain (some e) limit).ask (.start c 1) =
      (.error (.failed (.arguments (.heightNegative tip))), cl.note (Step.resolving e tip)) := by
  rw [ask_tip hlimit he hheight, Epoch.resolve_below_zero hlimit he htip, Client.listRange]

theorem tipBelowZero_iff (he : e < 0) (hheight : (Client.start c 1).height = (outcome, cl)) :
    TipBelowZero (.blockChain (some e) limit) c ↔ ∃ tip, outcome = .ok tip ∧ tip < 0 := by
  constructor
  · rintro ⟨_, _, tip, _, -, -, hheight', htip⟩
    rw [hheight] at hheight'
    exact ⟨tip, congrArg Prod.fst hheight', htip⟩
  · rintro ⟨tip, rfl, htip⟩
    exact ⟨e, limit, tip, cl, rfl, he, hheight, htip⟩

theorem askBreaks_iff (he : e < 0) (hheight : (Client.start c 1).height = (outcome, cl))
    (b : Breakdown) :
    AskBreaks (.blockChain (some e) limit) c b ↔
      PostBreaks c.posts b ∨ ∃ tip, outcome = .ok tip ∧ 0 ≤ tip ∧ PostBreaks c.posts.tail b := by
  constructor
  · intro h
    cases h with
    | first h => exact .inl h
    | second _ _ hheight' htip h =>
      rw [hheight] at hheight'
      exact .inr ⟨_, congrArg Prod.fst hheight', htip, h⟩
  · rintro (h | ⟨tip, rfl, htip, h⟩)
    · exact .first h
    · exact .second rfl he hheight htip h

theorem asked_error (hlimit : Epoch.checkLimit limit = .ok ()) (he : e < 0) {stop : Stop}
    (hheight : (Client.start c 1).height = (.error stop, cl))
    (hfate : Fate (PostBreaks c.posts) (.error stop : Outcome Int)) :
    Asked (.blockChain (some e) limit) c
      ((Question.blockChain (some e) limit).ask (Client.start c 1)).1 := by
  rw [ask_error hlimit he hheight]
  refine .inr ⟨?_, hfate.of_error.congr fun b => ?_⟩
  · rw [tipBelowZero_iff he hheight]
    rintro ⟨tip, ⟨⟩, -⟩
  · rw [askBreaks_iff he hheight]
    constructor
    · exact .inl
    · rintro (h | ⟨tip, ⟨⟩, -⟩)
      exact h

theorem asked_below (hlimit : Epoch.checkLimit limit = .ok ()) (he : e < 0) {tip : Int}
    (hheight : (Client.start c 1).height = (.ok tip, cl)) (htip : tip < 0)
    (hnone : ∀ b, ¬ PostBreaks c.posts b) :
    Asked (.blockChain (some e) limit) c
      ((Question.blockChain (some e) limit).ask (Client.start c 1)).1 := by
  rw [ask_below hlimit he hheight htip]
  refine .inl ⟨(tipBelowZero_iff he hheight).mpr ⟨tip, rfl, htip⟩, fun b hb => ?_, tip, rfl⟩
  rcases (askBreaks_iff he hheight b).mp hb with h | ⟨tip', htip', hle, -⟩
  · exact hnone b h
  · obtain rfl := Except.ok.inj htip'
    exact Int.not_le.mpr htip hle

/-- The second post is the one that can still break the listing. -/
theorem asked_listing (hlimit : Epoch.checkLimit limit = .ok ()) (he : e < 0) {tip : Int}
    (hheight : (Client.start c 1).height = (.ok tip, cl)) (htip : 0 ≤ tip)
    (hnone : ∀ b, ¬ PostBreaks c.posts b)
    (hlist : Fate (PostBreaks c.posts.tail) ((cl.note (Step.resolving e tip)).listRange
      (.ok ⟨some (max 0 (tip + e + 1)), some (limit.getD (-e))⟩)).1) :
    Asked (.blockChain (some e) limit) c
      ((Question.blockChain (some e) limit).ask (Client.start c 1)).1 := by
  rw [ask_tip hlimit he hheight, Epoch.resolve_tip hlimit he htip]
  refine .inr ⟨?_, hlist.congr fun b => ?_⟩
  · rw [tipBelowZero_iff he hheight]
    rintro ⟨tip', htip', hbelow⟩
    obtain rfl := Except.ok.inj htip'
    exact Int.not_le.mpr hbelow htip
  · rw [askBreaks_iff he hheight]
    constructor
    · exact fun h => .inr ⟨tip, rfl, htip, h⟩
    · rintro (h | ⟨-, -, -, h⟩)
      · exact absurd h (hnone b)
      · exact h

theorem asked_tip (hopen : c.closed = false) (he : e < 0)
    (hacc : (Question.blockChain (some e) limit).Accepted) :
    Asked (.blockChain (some e) limit) c
      ((Question.blockChain (some e) limit).ask (Client.start c 1)).1 := by
  obtain ⟨hlimit, hepoch, hwithin⟩ := hacc
  obtain ⟨outcome, cl, hheight, hfate, hid, hafter⟩ :=
    Client.height_ready (Client.ready_start hopen 1) (Client.withinDigits_start c)
  cases outcome with
  | error stop => exact asked_error hlimit he hheight hfate
  | ok tip =>
    have hnone : ∀ b, ¬ PostBreaks c.posts b := by
      cases hfate with
      | gives _ hnone => exact hnone
    by_cases htip : tip < 0
    · exact asked_below hlimit he hheight htip hnone
    · have htip : 0 ≤ tip := Int.not_lt.mp htip
      obtain ⟨hready, hposts, htipWithin⟩ := hafter tip rfl
      have hnext : WithinDigits (cl.note (Step.resolving e tip)).nextId := by
        change WithinDigits cl.nextId
        rw [hid]
        exact .of_lt (by decide : (1 + 1 : Int).natAbs < 10)
      have hlist := Client.listRange_ready (hready.note (Step.resolving e tip)) hnext
        (Epoch.checkLimit_count hlimit he)
        (EpochRange.withinDigits_tip he htip (hepoch e rfl) htipWithin hwithin)
      have hrest : (cl.note (Step.resolving e tip)).posts = c.posts.tail := hposts
      rw [hrest] at hlist
      exact asked_listing hlimit he hheight htip hnone hlist

end Tip

theorem asked_call {q : Question} {c : Connection} (hopen : c.closed = false)
    (hq : ∀ e limit, q = .blockChain (some e) limit → 0 ≤ e) {command : Text}
    {args : List Argument} {params : List Json.Value}
    (hask : q.ask (.start c 1) = (Client.start c 1).call command args)
    (hparams : checkedParams command args = .ok params) (hargs : ∀ a ∈ args, a.WithinDigits) :
    Asked q c (q.ask (.start c 1)).1 := by
  obtain ⟨outcome, cl', hcall, hfate, -⟩ :=
    Client.call_ready (Client.ready_start hopen 1) hparams (Client.withinDigits_start c) hargs
  rw [hask, hcall]
  exact asked_of_call hq hfate

/-- A question other than a listing is one call, and the call is accepted. -/
theorem Accepted.call {q : Question} (h : q.Accepted)
    (hq : ∀ epoch limit, q ≠ .blockChain epoch limit) :
    ∃ args params, (∀ cl, q.ask cl = cl.call q.method.name args) ∧
      checkedParams q.method.name args = .ok params ∧ ∀ a ∈ args, a.WithinDigits := by
  cases q with
  | block hash =>
    exact ⟨_, _, fun _ => rfl, checkedParams_block h, List.forall_mem_singleton.mpr rfl⟩
  | output pointer =>
    exact ⟨_, _, fun _ => rfl, checkedParams_output pointer, List.forall_mem_singleton.mpr h⟩
  | syncStatus => exact ⟨_, _, fun _ => rfl, checkedParams_syncStatus, by simp⟩
  | inventory item =>
    obtain ⟨hwithin, params, hparams⟩ := h
    exact ⟨_, params, fun _ => rfl, hparams, List.forall_mem_singleton.mpr hwithin⟩
  | blockChain epoch limit => exact absurd rfl (hq epoch limit)

/-- One case for each form of a question; a listing also by the sign of its epoch. -/
theorem asked {q : Question} {c : Connection} (hopen : c.closed = false) (hacc : q.Accepted) :
    Asked q c (q.ask (.start c 1)).1 := by
  cases q with
  | block _ | output _ | syncStatus | inventory _ =>
    obtain ⟨args, params, hask, hparams, hargs⟩ := hacc.call (by rintro epoch limit ⟨⟩)
    exact asked_call hopen (by rintro e limit ⟨⟩) (hask _) hparams hargs
  | blockChain epoch limit =>
    cases epoch with
    | none =>
      obtain ⟨hlimit, -, hwithin⟩ := hacc
      refine asked_call hopen (by rintro e limit ⟨⟩) ?_
        (checkedParams_range (r := ⟨limit.map fun _ => 0, limit⟩) hlimit)
        (List.forall_mem_singleton.mpr (EpochRange.withinDigits_open hwithin))
      simp only [ask, Client.blockChain, hlimit, Epoch.resolve_none hlimit, Client.listRange]
    | some e =>
      by_cases he : e < 0
      · exact asked_tip hopen he hacc
      · obtain ⟨hlimit, hepoch, hwithin⟩ := hacc
        refine asked_call hopen ?_ ?_
          (checkedParams_range (r := ⟨some e, limit⟩) hlimit)
          (List.forall_mem_singleton.mpr (EpochRange.withinDigits_from (hepoch e rfl) hwithin))
        · rintro _ _ ⟨⟩
          exact Int.not_lt.mp he
        · simp only [ask, Client.blockChain, hlimit, he, if_false,
            Epoch.resolve_of_nonneg hlimit (Int.not_lt.mp he), Client.listRange]

end Question

namespace Invocation

theorem writable_of_readItem {text : Text} {v : Json.Value} (h : readItem text = .ok v) :
    v.writable = true := by
  unfold readItem at h
  split at h
  · cases h
    exact Json.writable_of_read ‹_›
  · cases h
  · cases h

theorem accepted_item {s : Surroundings} {raw : Text} {item : Argument}
    (h : checkedItem s raw = .ok item) : (Question.inventory item).Accepted := by
  unfold checkedItem at h
  obtain ⟨text, -, h⟩ := bind_eq_ok.mp h
  obtain ⟨v, hv, h⟩ := bind_eq_ok.mp h
  obtain ⟨params, hparams, h⟩ := bind_eq_ok.mp h
  obtain rfl := pure_eq_ok.mp h
  have hname : Method.ofName? Method.inventory.name = some .inventory := by decide
  refine ⟨writable_of_readItem hv, params, ?_⟩
  rw [checkedParams, hname]
  exact hparams

/-- A question that passed the local checks is one that a request takes. -/
theorem accepted_of_checked {s : Surroundings} {command : Command} {q : Question}
    (hwithin : command.WithinDigits) (h : checked s command = .ok (some q)) : q.Accepted := by
  cases checked_eq_ok.mp h with
  | syncStatus => trivial
  | blockChain hlimit => exact ⟨hlimit, hwithin⟩
  | block hread => exact isHash_of_readHash hread
  | output hread => exact OutputPointer.withinDigits_of_read hread
  | inventory hitem => exact accepted_item hitem

end Invocation

end NodeClient
