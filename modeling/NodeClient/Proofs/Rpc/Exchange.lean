import NodeClient.Proofs.Link.Journal
import NodeClient.Rpc.Exchange

/-! Waiting for a reply: blank lines are passed over, nothing is sent meanwhile, and the last line
received is the one that is taken for the reply. -/

namespace NodeClient

/-- Reads that give blank lines. -/
inductive Skips : Connection → List Text → Connection → Prop where
  | none (c : Connection) : Skips c [] c
  | blank {c c₁ c' : Connection} {line : Text} {lines : List Text}
      (hread : c.receive = (.ok line, c₁)) (hblank : Text.isBlank line = true)
      (hrest : Skips c₁ lines c') : Skips c (line :: lines) c'

namespace Skips

/-- The next read gives no blank line. -/
def Ends (c : Connection) : Prop :=
  ∀ line c', c.receive = (.ok line, c') → Text.isBlank line = false

theorem Ends.of_line {c c' : Connection} {line : Text} (hread : c.receive = (.ok line, c'))
    (hfull : Text.isBlank line = false) : Ends c := by
  intro line' c'' hread'
  rw [hread] at hread'
  cases hread'
  exact hfull

theorem Ends.of_stop {c c' : Connection} {stop : Stop} (hread : c.receive = (.error stop, c')) :
    Ends c := by
  intro line c'' hread'
  rw [hread] at hread'
  cases hread'

variable {c c₁ : Connection} {blanks : List Text}

theorem journal_eq (h : Skips c blanks c₁) :
    c₁.journal = c.journal ++ blanks.flatMap Journal.reading := by
  induction h with
  | none c => exact (List.append_nil _).symm
  | blank hread _ _ ih =>
    rw [ih, (Connection.journal_of_receive hread).2, List.flatMap_cons, List.append_assoc]

/-- By induction on the blank lines: each of them is skipped, and each leaves less to be read, so
the fuel outlasts them. -/
theorem nextLine_eq (h : Skips c blanks c₁) (hends : Ends c₁) {fuel : Nat}
    (hfuel : c.supply ≤ fuel) : Exchange.nextLine fuel c = c₁.receive := by
  induction h generalizing fuel with
  | none c =>
    cases fuel with
    | zero => rfl
    | succ fuel =>
      cases hread : c.receive with
      | mk read c' =>
        rw [Exchange.nextLine, hread]
        cases read with
        | error stop => rfl
        | ok line => simp only [hends line c' hread, Bool.false_eq_true, if_false]
  | blank hread hblank _ ih =>
    have hless := (Connection.journal_of_receive hread).1
    cases fuel with
    | zero => exact absurd (Nat.lt_of_lt_of_le hless hfuel) (Nat.not_lt_zero _)
    | succ fuel =>
      rw [Exchange.nextLine, hread]
      simp only [hblank, if_true]
      exact ih hends (Nat.le_of_lt_succ (Nat.lt_of_lt_of_le hless hfuel))

/-- A link never gives blank lines without an end. -/
theorem exists_ends (c : Connection) : ∃ blanks c₁, Skips c blanks c₁ ∧ Ends c₁ := by
  induction hsupply : c.supply using Nat.strongRecOn generalizing c with
  | _ supply ih =>
  by_cases hends : Ends c
  · exact ⟨[], c, .none c, hends⟩
  · simp only [Ends, not_forall] at hends
    obtain ⟨line, c', hread, hblank⟩ := hends
    have hless := (Connection.journal_of_receive hread).1
    obtain ⟨blanks, c₁, hskips, hends⟩ := ih c'.supply (hsupply ▸ hless) c' rfl
    exact ⟨line :: blanks, c₁, .blank hread (Bool.not_eq_false _ ▸ hblank) hskips, hends⟩

end Skips

namespace Exchange

/-- What no read changes is not changed by the reads of a wait. -/
theorem nextLine_keeps {α : Type} (f : Connection → α) (hkeeps : ∀ c, f c.receive.2 = f c)
    (fuel : Nat) (c : Connection) : f (nextLine fuel c).2 = f c := by
  induction fuel generalizing c with
  | zero => exact hkeeps c
  | succ fuel ih =>
    have hreceive := hkeeps c
    rw [nextLine]
    split
    · rename_i stop c' hread
      rwa [hread] at hreceive
    · rename_i line c' hread
      rw [hread] at hreceive
      split
      · exact (ih c').trans hreceive
      · exact hreceive

/-- The lines that are passed over, and the line that is given, all come from the link. -/
theorem nextLine_cases (c : Connection) {fuel : Nat} (hfuel : c.supply ≤ fuel) :
    ∃ outcome c', ∃ added : Journal, nextLine fuel c = (outcome, c') ∧
      c'.journal = c.journal ++ added ∧ Journal.Passive added ∧
      ((∃ line, outcome = .ok line ∧ Text.isBlank line = false ∧
          (Journal.received added).getLast? = some line) ∨
        ∃ stop, outcome = .error stop ∧ Stop.OfLink stop) := by
  obtain ⟨blanks, c₁, hskips, hends⟩ := Skips.exists_ends c
  have hnext := hskips.nextLine_eq hends hfuel
  obtain ⟨line, c', hread, -, hjournal⟩ | ⟨stop, c', hread, hlink, hjournal⟩ := c₁.receive_cases
  · refine ⟨.ok line, c', blanks.flatMap Journal.reading ++ Journal.reading line,
      hnext.trans hread, ?_, (Journal.passive_readings blanks).append (Journal.passive_reading line),
      .inl ⟨line, rfl, hends line c' hread, ?_⟩⟩
    · rw [hjournal, hskips.journal_eq, List.append_assoc]
    · rw [Journal.received_append, Journal.received_reading, List.getLast?_concat]
  · exact ⟨.error stop, c', blanks.flatMap Journal.reading, hnext.trans hread,
      hjournal.trans hskips.journal_eq, Journal.passive_readings blanks, .inr ⟨stop, rfl, hlink⟩⟩

end Exchange

end NodeClient
