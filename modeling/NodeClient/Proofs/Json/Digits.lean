import NodeClient.Json.Reader
import NodeClient.Proofs.Number.Digits

/-! Every integer of a JSON text that was read can be written again. -/

namespace NodeClient.Json

theorem Value.writable_int {n : Int} : (Value.int n).writable = true ↔ WithinDigits n := by
  rw [Value.writable, decide_eq_true_iff, WithinDigits]

namespace Value

theorem writableItems_iff {items : List Value} :
    writableItems items = true ↔ ∀ v ∈ items, v.writable = true := by
  induction items with
  | nil => simp [writableItems]
  | cons v rest ih => simp [writableItems, ih]

theorem writableMembers_iff {members : List (Text × Value)} :
    writableMembers members = true ↔ ∀ member ∈ members, member.2.writable = true := by
  induction members with
  | nil => simp [writableMembers]
  | cons member rest ih => simp [writableMembers, ih]

theorem writableItems_reverse {items : List Value} :
    writableItems items.reverse = true ↔ writableItems items = true := by
  simp only [writableItems_iff, List.mem_reverse]

theorem writableMembers_insert {key : Text} {v : Value} {members : List (Text × Value)}
    (hv : v.writable = true) (h : writableMembers members = true) :
    writableMembers (insertMember key v members) = true := by
  induction members with
  | nil => simp [insertMember, writableMembers, hv]
  | cons member rest ih =>
    obtain ⟨k, w⟩ := member
    simp only [writableMembers, Bool.and_eq_true] at h
    unfold insertMember
    split
    · simp only [writableMembers, hv, h.2, Bool.and_self]
    · simp only [writableMembers, h.1, ih h.2, Bool.and_self]

end Value

theorem writable_word? {s rest : Text} {v : Value} (h : word? s = some (v, rest)) :
    v.writable = true := by
  simp only [word?, Option.map_eq_some_iff, Prod.mk.injEq] at h
  obtain ⟨⟨word, w⟩, hfind, rfl, -⟩ := h
  have hmem := List.mem_of_find?_eq_some hfind
  simp only [words, List.mem_cons, List.not_mem_nil, or_false, Prod.mk.injEq] at hmem
  rcases hmem with ⟨-, rfl⟩ | ⟨-, rfl⟩ | ⟨-, rfl⟩ | ⟨-, rfl⟩ | ⟨-, rfl⟩ | ⟨-, rfl⟩ <;> rfl

theorem writable_number? {s rest : Text} {v : Value} (h : number? s = some (.ok (v, rest))) :
    v.writable = true := by
  simp only [number?, Option.bind_eq_bind, Option.bind_eq_some_iff] at h
  obtain ⟨⟨whole, after⟩, -, h⟩ := h
  split at h
  · split at h
    · exact absurd h (by simp)
    · rename_i n hn
      simp only [Option.pure_def, Option.some.injEq, Except.ok.injEq, Prod.mk.injEq] at h
      obtain ⟨rfl, -⟩ := h
      exact Value.writable_int.mpr ((Numeral.withinDigits_of_natural? hn).signed _)
  · simp only [Option.pure_def, Option.some.injEq, Except.ok.injEq, Prod.mk.injEq] at h
    obtain ⟨rfl, -⟩ := h
    rfl

/-- With this much fuel, only values that can be written are read, as long as the items and the
members that were read before can be. -/
structure ReadsWritable (fuel : Nat) : Prop where
  value : ∀ {s rest : Text} {v : Value}, readValue fuel s = .ok (v, rest) → v.writable = true
  items : ∀ {done : List Value} {s rest : Text} {v : Value}, Value.writableItems done = true →
    readItems fuel done s = .ok (v, rest) → v.writable = true
  members : ∀ {done : List (Text × Value)} {s rest : Text} {v : Value},
    Value.writableMembers done = true → readMembers fuel done s = .ok (v, rest) →
      v.writable = true

theorem readsWritable_zero : ReadsWritable 0 := by
  refine ⟨?_, ?_, ?_⟩
  · intro s rest v h
    rw [readValue] at h
    cases h
  · intro done s rest v _ h
    rw [readItems] at h
    cases h
  · intro done s rest v _ h
    rw [readMembers] at h
    cases h

namespace ReadsWritable

variable {fuel : Nat} {s rest : Text} {v : Value}

theorem readValue_succ (ih : ReadsWritable fuel) (h : readValue (fuel + 1) s = .ok (v, rest)) :
    v.writable = true := by
  cases s with
  | nil =>
    rw [readValue] at h
    cases h
  | cons c s =>
    rw [readValue] at h
    split at h
    · -- a string
      split at h
      · obtain ⟨rfl, -⟩ := Prod.mk.inj (Except.ok.inj h)
        rfl
      · cases h
    split at h
    · -- an object, empty or with members
      split at h
      · cases h
      split at h
      · obtain ⟨rfl, -⟩ := Prod.mk.inj (Except.ok.inj h)
        rfl
      · exact ih.members rfl h
    split at h
    · -- an array, empty or with items
      split at h
      · cases h
      split at h
      · obtain ⟨rfl, -⟩ := Prod.mk.inj (Except.ok.inj h)
        rfl
      · exact ih.items rfl h
    split at h
    · rename_i hword
      obtain rfl := Except.ok.inj h
      exact writable_word? hword
    split at h
    · rename_i hnumber
      subst h
      exact writable_number? hnumber
    · cases h

theorem readItems_succ (ih : ReadsWritable fuel) {done : List Value}
    (hdone : Value.writableItems done = true) (h : readItems (fuel + 1) done s = .ok (v, rest)) :
    v.writable = true := by
  rw [readItems] at h
  split at h
  · cases h
  rename_i w after hw
  have hdone' : Value.writableItems (w :: done) = true := by
    simp only [Value.writableItems, ih.value hw, hdone, Bool.and_self]
  split at h
  · cases h
  split at h
  · obtain ⟨rfl, -⟩ := Prod.mk.inj (Except.ok.inj h)
    exact Value.writableItems_reverse.mpr hdone'
  split at h
  · exact ih.items hdone' h
  · cases h

theorem readMembers_succ (ih : ReadsWritable fuel) {done : List (Text × Value)}
    (hdone : Value.writableMembers done = true)
    (h : readMembers (fuel + 1) done s = .ok (v, rest)) : v.writable = true := by
  cases s with
  | nil =>
    rw [readMembers] at h
    cases h
  | cons c s =>
    rw [readMembers] at h
    split at h
    case isFalse => cases h
    split at h
    · cases h
    split at h
    · cases h
    split at h
    case isFalse => cases h
    split at h
    · cases h
    rename_i w after hw
    -- a repeated key replaces a member, which is why this is not about the end of the list
    have hdone' {key : Text} : Value.writableMembers (insertMember key w done) = true :=
      Value.writableMembers_insert (ih.value hw) hdone
    split at h
    · cases h
    split at h
    · obtain ⟨rfl, -⟩ := Prod.mk.inj (Except.ok.inj h)
      exact hdone'
    split at h
    · exact ih.members hdone' h
    · cases h

end ReadsWritable

theorem readsWritable (fuel : Nat) : ReadsWritable fuel := by
  -- values, items and members call one another, so the three go down the fuel together
  induction fuel with
  | zero => exact readsWritable_zero
  | succ fuel ih => exact ⟨ih.readValue_succ, ih.readItems_succ, ih.readMembers_succ⟩

theorem writable_of_read {s : Text} {v : Value} (h : read s = .ok v) : v.writable = true := by
  unfold read at h
  split at h
  · cases h
  · dsimp only at h
    split at h
    · cases h
    · rename_i w rest hw
      split at h
      · obtain rfl := Except.ok.inj h
        exact (readsWritable _).value hw
      · cases h

theorem writable_findMember? {key : Text} {v : Value} {members : List (Text × Value)}
    (h : Value.writableMembers members = true) (hv : findMember? key members = some v) :
    v.writable = true := by
  induction members with
  | nil => cases hv
  | cons member rest ih =>
    obtain ⟨k, w⟩ := member
    simp only [Value.writableMembers, Bool.and_eq_true] at h
    unfold findMember? at hv
    split at hv
    · obtain rfl := Option.some.inj hv
      exact h.1
    · exact ih h.2 hv

theorem Value.writable_get? {key : Text} {v w : Value} (h : v.writable = true)
    (hw : v.get? key = some w) : w.writable = true := by
  cases v with
  | obj members => exact writable_findMember? h hw
  | _ => cases hw

end NodeClient.Json
