import NodeClient.Proofs.Rpc.Exchange

/-! An exchange is a slot for one request. Over any steps, and whatever the link does, it moves as
the slot does: a request is registered while none waits, a wait takes the blank lines and the line
after them, and then the slot is free. -/

namespace NodeClient

inductive SlotStep where
  | register (id : Int)
  | await (id : Int)
  | close

/-- What is seen of a step: what came of it, the lines that it received, and the request that waits
after it. -/
structure SlotEntry where
  outcome : Outcome (Option Reply)
  lines : List Text
  pending : Option Int

/-- The request that waits after a step. -/
def SlotStep.slot (step : SlotStep) (pending : Option Int) : Option Int :=
  match step with
  | .register id => pending.or (some id)
  | .await id => if pending = some id then none else pending
  | .close => pending

theorem SlotStep.slot_await {pending : Option Int} {id : Int}
    (hslot : pending = none ∨ pending = some id) : (SlotStep.await id).slot pending = none := by
  rcases hslot with rfl | rfl
  · rfl
  · exact if_pos rfl

def slotsAfter (pending : Option Int) : List SlotStep → List (Option Int)
  | [] => []
  | step :: steps => step.slot pending :: slotsAfter (step.slot pending) steps

/-- The moves of a slot. -/
inductive SlotMove :
    Exchange → SlotStep → Outcome (Option Reply) → List Text → Exchange → Prop where
  | registers (c : Connection) (id : Int) :
      SlotMove ⟨c, none⟩ (.register id) (.ok none) [] ⟨c, some id⟩
  | taken (c : Connection) (pending id : Int) :
      SlotMove ⟨c, some pending⟩ (.register id) (.error (.broke (.slotTaken pending))) []
        ⟨c, some pending⟩
  | other (c : Connection) {pending id : Int} (hother : pending ≠ id) :
      SlotMove ⟨c, some pending⟩ (.await id) (.error (.broke (.slotOther id))) []
        ⟨c, some pending⟩
  | answered {c c₁ c' : Connection} {pending : Option Int} {id : Int} {blanks : List Text}
      {line : Text} (hslot : pending = none ∨ pending = some id) (hskips : Skips c blanks c₁)
      (hread : c₁.receive = (.ok line, c')) (hfull : Text.isBlank line = false) :
      SlotMove ⟨c, pending⟩ (.await id) (((Reply.read line id).mapError .failed).map some)
        (blanks ++ [line]) ⟨c', none⟩
  | stopped {c c₁ c' : Connection} {pending : Option Int} {id : Int} {blanks : List Text}
      {stop : Stop} (hslot : pending = none ∨ pending = some id) (hskips : Skips c blanks c₁)
      (hread : c₁.receive = (.error stop, c')) :
      SlotMove ⟨c, pending⟩ (.await id) (.error stop) blanks ⟨c', none⟩
  | closes (c : Connection) (pending : Option Int) :
      SlotMove ⟨c, pending⟩ .close (.ok none) [] ⟨c.close, pending⟩

/-- The moves of a slot, one after the other. -/
inductive SlotRun : Exchange → List SlotStep → List SlotEntry → Exchange → Prop where
  | nil (x : Exchange) : SlotRun x [] [] x
  | cons {x x₁ x' : Exchange} {step : SlotStep} {outcome : Outcome (Option Reply)}
      {lines : List Text} {steps : List SlotStep} {entries : List SlotEntry}
      (hmove : SlotMove x step outcome lines x₁) (hrest : SlotRun x₁ steps entries x') :
      SlotRun x (step :: steps) (⟨outcome, lines, x₁.pending⟩ :: entries) x'

namespace Exchange

/-- Only a wait gives a reply out. -/
def perform (x : Exchange) : SlotStep → Outcome (Option Reply) × Exchange
  | .register id => ((x.register id).1.map fun _ => none, (x.register id).2)
  | .await id => ((x.awaitReply id).1.map some, (x.awaitReply id).2)
  | .close => (.ok none, { x with connection := x.connection.close })

/-- The lines that the journal of an exchange has got since an earlier one. -/
def receivedSince (before after : Exchange) : List Text :=
  Journal.received (after.connection.journal.drop before.connection.journal.length)

def entriesOf (x : Exchange) : List SlotStep → List SlotEntry
  | [] => []
  | step :: steps =>
    let next := (x.perform step).2
    ⟨(x.perform step).1, x.receivedSince next, next.pending⟩ :: next.entriesOf steps

def performAll (x : Exchange) : List SlotStep → Exchange
  | [] => x
  | step :: steps => (x.perform step).2.performAll steps

theorem awaitReply_of_slot {c : Connection} {pending : Option Int} {id : Int}
    (hslot : pending = none ∨ pending = some id) :
    awaitReply ⟨c, pending⟩ id = ((readReply c id).1, ⟨(readReply c id).2, none⟩) := by
  rw [awaitReply]
  rcases hslot with rfl | rfl <;> simp

theorem readReply_of_line {c c' : Connection} {id : Int} {line : Text}
    (h : nextLine c.supply c = (.ok line, c')) :
    readReply c id = ((Reply.read line id).mapError .failed, c') := by
  rw [readReply, h]

theorem readReply_of_stop {c c' : Connection} {id : Int} {stop : Stop}
    (h : nextLine c.supply c = (.error stop, c')) : readReply c id = (.error stop, c') := by
  rw [readReply, h]

end Exchange

namespace SlotMove

variable {x x' : Exchange} {step : SlotStep} {outcome : Outcome (Option Reply)} {lines : List Text}

theorem journal_eq (h : SlotMove x step outcome lines x') :
    ∃ added : Journal, x'.connection.journal = x.connection.journal ++ added ∧
      added.received = lines ∧ added.Passive := by
  cases h with
  | registers | taken | other =>
    exact ⟨[], (List.append_nil _).symm, rfl, Journal.passive_nil⟩
  | @answered _ _ _ _ _ blanks line _ hskips hread _ =>
    refine ⟨(blanks ++ [line]).flatMap Journal.reading, ?_, Journal.received_readings _,
      Journal.passive_readings _⟩
    rw [(Connection.journal_of_receive hread).2, hskips.journal_eq, List.append_assoc,
      List.flatMap_append, List.flatMap_singleton]
  | stopped _ hskips hread =>
    refine ⟨_, ?_, Journal.received_readings lines, Journal.passive_readings lines⟩
    exact (Connection.journal_of_lost hread).trans hskips.journal_eq
  | closes c pending =>
    obtain ⟨added, hjournal, hpassive, hreceived⟩ := c.journal_close
    exact ⟨added, hjournal, hreceived, hpassive⟩

theorem lines_eq (h : SlotMove x step outcome lines x') : lines = x.receivedSince x' := by
  obtain ⟨added, hjournal, hreceived, -⟩ := h.journal_eq
  rw [Exchange.receivedSince, hjournal, List.drop_left, hreceived]

theorem pending_eq (h : SlotMove x step outcome lines x') :
    x'.pending = step.slot x.pending := by
  cases h with
  | registers | taken | closes => rfl
  | other c hother => exact (if_neg fun heq => hother (Option.some.inj heq)).symm
  | answered hslot => exact (SlotStep.slot_await hslot).symm
  | stopped hslot => exact (SlotStep.slot_await hslot).symm

/-- An exchange can make no other move than the one it makes. -/
theorem perform_eq (h : SlotMove x step outcome lines x') : x.perform step = (outcome, x') := by
  cases h with
  | registers | taken | closes => rfl
  | other c hother =>
    rw [Exchange.perform, Exchange.awaitReply, if_neg (by simp [hother])]
    rfl
  | answered hslot hskips hread hfull =>
    have hends := Skips.Ends.of_line hread hfull
    have hnext := (hskips.nextLine_eq hends (Nat.le_refl _)).trans hread
    rw [Exchange.perform, Exchange.awaitReply_of_slot hslot, Exchange.readReply_of_line hnext]
  | stopped hslot hskips hread =>
    have hends := Skips.Ends.of_stop hread
    have hnext := (hskips.nextLine_eq hends (Nat.le_refl _)).trans hread
    rw [Exchange.perform, Exchange.awaitReply_of_slot hslot, Exchange.readReply_of_stop hnext]
    rfl

end SlotMove

theorem exists_slotMove (x : Exchange) (step : SlotStep) :
    ∃ outcome lines x', SlotMove x step outcome lines x' := by
  obtain ⟨c, pending⟩ := x
  cases step with
  | register id =>
    cases pending with
    | none => exact ⟨_, _, _, .registers c id⟩
    | some pending => exact ⟨_, _, _, .taken c pending id⟩
  | await id =>
    by_cases hslot : pending = none ∨ pending = some id
    · obtain ⟨blanks, c₁, hskips, hends⟩ := Skips.exists_ends c
      cases hread : c₁.receive with
      | mk read c' =>
        cases read with
        | ok line => exact ⟨_, _, _, .answered hslot hskips hread (hends line c' hread)⟩
        | error stop => exact ⟨_, _, _, .stopped hslot hskips hread⟩
    · obtain ⟨hsome, hother⟩ := not_or.mp hslot
      obtain ⟨pending, rfl⟩ := Option.ne_none_iff_exists'.mp hsome
      exact ⟨_, _, _, .other c fun heq => hother (congrArg some heq)⟩
  | close => exact ⟨_, _, _, .closes c pending⟩

namespace Exchange

theorem slotMove_perform (x : Exchange) (step : SlotStep) :
    SlotMove x step (x.perform step).1 (x.receivedSince (x.perform step).2) (x.perform step).2 := by
  obtain ⟨outcome, lines, x', hmove⟩ := exists_slotMove x step
  rw [hmove.perform_eq, ← hmove.lines_eq]
  exact hmove

theorem slotRun_performAll (x : Exchange) (steps : List SlotStep) :
    SlotRun x steps (x.entriesOf steps) (x.performAll steps) := by
  induction steps generalizing x with
  | nil => exact .nil x
  | cons step steps ih => exact .cons (x.slotMove_perform step) (ih (x.perform step).2)

end Exchange

namespace SlotRun

variable {x x' : Exchange} {steps : List SlotStep} {entries : List SlotEntry}

theorem unique (h : SlotRun x steps entries x') :
    entries = x.entriesOf steps ∧ x' = x.performAll steps := by
  induction h with
  | nil x => exact ⟨rfl, rfl⟩
  | cons hmove _ ih =>
    obtain ⟨rfl, rfl⟩ := ih
    rw [Exchange.entriesOf, Exchange.performAll, hmove.perform_eq, hmove.lines_eq]
    exact ⟨rfl, rfl⟩

theorem journal_eq (h : SlotRun x steps entries x') :
    ∃ added : Journal, x'.connection.journal = x.connection.journal ++ added ∧
      added.received = entries.flatMap SlotEntry.lines ∧ added.Passive := by
  induction h with
  | nil x => exact ⟨[], (List.append_nil _).symm, rfl, Journal.passive_nil⟩
  | cons hmove _ ih =>
    obtain ⟨added, hjournal, hreceived, hpassive⟩ := hmove.journal_eq
    obtain ⟨later, hlater, hreceived', hpassive'⟩ := ih
    refine ⟨added ++ later, ?_, ?_, hpassive.append hpassive'⟩
    · rw [hlater, hjournal, List.append_assoc]
    · rw [Journal.received_append, hreceived, hreceived']
      rfl

theorem pendings_eq (h : SlotRun x steps entries x') :
    entries.map SlotEntry.pending = slotsAfter x.pending steps := by
  induction h with
  | nil x => rfl
  | cons hmove _ ih => rw [List.map_cons, slotsAfter, ← hmove.pending_eq, ih]

end SlotRun

namespace Exchange

/-- Over any steps, on any link, an exchange runs as a slot does, and as nothing else: the moves of
the slot are the outcomes, the lines that the journal tells, and the request that waits after each
step. That request depends on the steps alone. The lines are all that is received, and nothing is
sent. -/
theorem slotRun_iff (x : Exchange) (steps : List SlotStep) :
    (∀ entries x', SlotRun x steps entries x' ↔
      entries = x.entriesOf steps ∧ x' = x.performAll steps) ∧
    (x.entriesOf steps).map SlotEntry.pending = slotsAfter x.pending steps ∧
    ∃ added : Journal,
      (x.performAll steps).connection.journal = x.connection.journal ++ added ∧
      added.received = (x.entriesOf steps).flatMap SlotEntry.lines ∧ added.Passive := by
  have hrun := x.slotRun_performAll steps
  refine ⟨fun entries x' => ⟨SlotRun.unique, ?_⟩, hrun.pendings_eq, hrun.journal_eq⟩
  rintro ⟨rfl, rfl⟩
  exact hrun

/-- Two lines that are blank, a line that is no reply, and one that nothing waits for. -/
example :
    let link : Connection :=
      ⟨"h:1", false, .stream (.start [0x0A, 0x20, 0x0A, 0x78, 0x0A, 0x79] (fun _ => none)
        fun _ => none), []⟩
    let entries := entriesOf ⟨link, none⟩ [.register 1, .register 2, .await 2, .await 1, .close]
    entries.map SlotEntry.lines = [[], [], [], [("" : Text), " ", "x"], []] ∧
      entries.map SlotEntry.pending = [some 1, some 1, some 1, none, none] := by
  decide +kernel

end Exchange

end NodeClient
