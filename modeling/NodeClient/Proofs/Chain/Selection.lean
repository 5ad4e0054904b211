import Mathlib.Data.List.DropRight
import Mathlib.Data.List.Intervals
import NodeClient.Proofs.Chain.Epoch

/-! Which epochs of a chain a listing selects, once its range is resolved. A resolved range resolves
to itself, at any height. -/

namespace NodeClient

/-- Nothing is left to resolve: no epoch below zero, at least one of them, and no count without a
start to count from. -/
structure EpochRange.Resolved (r : EpochRange) : Prop where
  start : ∀ e ∈ r.start, 0 ≤ e
  count : ∀ n ∈ r.count, 1 ≤ n
  counted : r.start = none → r.count = none

namespace Epoch

/-- The epochs of a chain, from the first one to the tip. -/
def upTo (tip : Nat) : List Int := (List.range (tip + 1)).map fun e : Nat => (e : Int)

/-- The range selects the last `k` epochs of the chain, or all of a shorter one; of those, a limit
keeps the first ones. -/
def SelectsLast (r : EpochRange) (limit : Option Int) (k tip : Nat) : Prop :=
  ∃ start count, r = ⟨some start, some count⟩ ∧
    let selected := (upTo tip).filter fun e => start ≤ e ∧ e < start + count
    let last := (upTo tip).rtake (min k (tip + 1))
    (limit = none → selected = last) ∧
      ∀ n, limit = some n → selected = last.take (min n.toNat (min k (tip + 1)))

/-- The ways in which an epoch and a limit resolve at a height. -/
inductive Resolution :
    Option Int → Option Int → Option Int → Except ArgumentFault EpochRange → Prop where
  | badLimit {epoch height : Option Int} {n : Int} (hbad : n ≤ 0) :
      Resolution epoch (some n) height (.error (.limit n))
  | whole {limit height : Option Int} (hlimit : ∀ n ∈ limit, 1 ≤ n) :
      Resolution none limit height (.ok ⟨limit.map fun _ => 0, limit⟩)
  | onward {e : Int} {limit height : Option Int} (hlimit : ∀ n ∈ limit, 1 ≤ n) (he : 0 ≤ e) :
      Resolution (some e) limit height (.ok ⟨some e, limit⟩)
  | noHeight {e : Int} {limit : Option Int} (hlimit : ∀ n ∈ limit, 1 ≤ n) (he : e < 0) :
      Resolution (some e) limit none (.error .heightUnknown)
  | badHeight {e tip : Int} {limit : Option Int} (hlimit : ∀ n ∈ limit, 1 ≤ n) (he : e < 0)
      (htip : tip < 0) : Resolution (some e) limit (some tip) (.error (.heightNegative tip))
  | back {e tip : Int} {limit : Option Int} (hlimit : ∀ n ∈ limit, 1 ≤ n) (he : e < 0)
      (htip : 0 ≤ tip) : Resolution (some e) limit (some tip)
        (.ok ⟨some (max 0 (tip + e + 1)), some (limit.getD (-e))⟩)

variable {epoch limit height : Option Int} {outcome : Except ArgumentFault EpochRange}
  {r : EpochRange}

theorem resolve_of_nonpos {n : Int} (h : n ≤ 0) (epoch height : Option Int) :
    resolve epoch (some n) height = .error (.limit n) := by
  rw [resolve.eq_def, checkLimit_of_nonpos h]
  rfl

theorem resolve_height_unknown (h : checkLimit limit = .ok ()) {e : Int} (he : e < 0) :
    resolve (some e) limit none = .error .heightUnknown := by
  rw [resolve, h]
  exact if_neg (Int.not_le.mpr he)

theorem resolution (epoch limit height : Option Int) :
    Resolution epoch limit height (resolve epoch limit height) := by
  by_cases hlimit : ∀ n ∈ limit, 1 ≤ n
  · have hcheck : checkLimit limit = .ok () := checkLimit_of_pos hlimit
    cases epoch with
    | none =>
      rw [resolve_none hcheck]
      exact .whole hlimit
    | some e =>
      by_cases he : 0 ≤ e
      · rw [resolve_of_nonneg hcheck he]
        exact .onward hlimit he
      · have he : e < 0 := Int.not_le.mp he
        cases height with
        | none =>
          rw [resolve_height_unknown hcheck he]
          exact .noHeight hlimit he
        | some tip =>
          by_cases htip : 0 ≤ tip
          · rw [resolve_tip hcheck he htip]
            exact .back hlimit he htip
          · have htip : tip < 0 := Int.not_le.mp htip
            rw [resolve_below_zero hcheck he htip]
            exact .badHeight hlimit he htip
  · push Not at hlimit
    obtain ⟨n, rfl, hn⟩ := hlimit
    have hbad : n ≤ 0 := by omega
    rw [resolve_of_nonpos hbad]
    exact .badLimit hbad

theorem Resolution.refused_iff (h : Resolution epoch limit height outcome) :
    (∃ fault, outcome = .error fault) ↔
      (∃ n ∈ limit, n ≤ 0) ∨ ((∃ e ∈ epoch, e < 0) ∧ ∀ tip ∈ height, tip < 0) := by
  have hgood {limit : Option Int} (hlimit : ∀ n ∈ limit, 1 ≤ n) : ¬ ∃ n ∈ limit, n ≤ 0 := by
    rintro ⟨n, hn, hbad⟩
    have := hlimit n hn
    omega
  cases h with
  | badLimit hbad => exact iff_of_true ⟨_, rfl⟩ (.inl ⟨_, rfl, hbad⟩)
  | whole hlimit =>
    apply iff_of_false nofun
    rintro (hbad | ⟨⟨_, ⟨⟩, -⟩, -⟩)
    exact hgood hlimit hbad
  | onward hlimit he =>
    apply iff_of_false nofun
    rintro (hbad | ⟨⟨_, ⟨⟩, hneg⟩, -⟩)
    · exact hgood hlimit hbad
    · omega
  | noHeight hlimit he => exact iff_of_true ⟨_, rfl⟩ (.inr ⟨⟨_, rfl, he⟩, nofun⟩)
  | badHeight hlimit he htip =>
    refine iff_of_true ⟨_, rfl⟩ (.inr ⟨⟨_, rfl, he⟩, ?_⟩)
    rintro _ ⟨⟩
    exact htip
  | back hlimit he htip =>
    apply iff_of_false nofun
    rintro (hbad | ⟨-, hheight⟩)
    · exact hgood hlimit hbad
    · have := hheight _ rfl
      omega

theorem Resolution.resolved (h : Resolution epoch limit height (.ok r)) : r.Resolved := by
  cases h with
  | whole hlimit =>
    refine ⟨fun e he => ?_, hlimit, Option.map_eq_none_iff.mp⟩
    obtain ⟨_, -, rfl⟩ := Option.map_eq_some_iff.mp he
    exact Int.le_refl 0
  | onward hlimit he =>
    refine ⟨?_, hlimit, nofun⟩
    rintro _ ⟨⟩
    exact he
  | back hlimit he htip =>
    refine ⟨?_, ?_, nofun⟩
    · rintro _ ⟨⟩
      exact Int.le_max_left 0 _
    · rintro _ ⟨⟩
      cases hset : limit with
      | none => rw [Option.getD_none]; omega
      | some n => exact hlimit n hset

end Epoch

namespace EpochRange.Resolved

variable {r : EpochRange} (h : r.Resolved)
include h

/-- There is nothing to look up for a resolved range. -/
theorem resolve_eq (height : Option Int) : Epoch.resolve r.start r.count height = .ok r := by
  have hcheck : Epoch.checkLimit r.count = .ok () := Epoch.checkLimit_of_pos h.count
  obtain ⟨start, count⟩ := r
  cases start with
  | none =>
    obtain rfl : count = none := h.counted rfl
    exact Epoch.resolve_none hcheck height
  | some e => exact Epoch.resolve_of_nonneg hcheck (h.start e rfl) height

theorem params_eq : r.params = (r.start.toList ++ r.count.toList).map .int := by
  obtain ⟨start, count⟩ := r
  cases start with
  | none =>
    obtain rfl : count = none := h.counted rfl
    rfl
  | some start => cases count <;> rfl

end EpochRange.Resolved

namespace Epoch

/-! Selected epochs -/

theorem length_upTo (tip : Nat) : (upTo tip).length = tip + 1 := by
  rw [upTo, List.length_map, List.length_range]

theorem filter_upTo (tip start count : Nat) :
    (upTo tip).filter (fun e => (start : Int) ≤ e ∧ e < start + count) =
      ((upTo tip).drop start).take count := by
  have hbounds : (fun e : Nat => decide ((start : Int) ≤ e ∧ (e : Int) < start + count)) =
      fun e => decide (start ≤ e) && decide (e < start + count) := by
    funext e
    rw [← Bool.decide_and, decide_eq_decide]
    omega
  have hrange : (List.range (tip + 1)).filter
        (fun e => decide (start ≤ e) && decide (e < start + count)) =
      ((List.range (tip + 1)).drop start).take count := by
    rw [← List.filter_filter, ← List.Ico.zero_bot, List.Ico.filter_lt, List.Ico.filter_le,
      Nat.zero_max, List.Ico.zero_bot, List.take_drop, List.take_range, List.range_eq_range',
      List.drop_range', Nat.min_comm, Nat.zero_add, Nat.mul_one]
    rfl
  rw [upTo, List.filter_map, ← List.map_drop, ← List.map_take, ← hrange, ← hbounds]
  rfl

/-- From the start of a range before the tip on, there are just the epochs that it asks for, or all
of a chain that has fewer. -/
theorem filter_back (k tip count : Nat) :
    (upTo tip).filter (fun e => max 0 ((tip : Int) + -k + 1) ≤ e ∧
        e < max 0 ((tip : Int) + -k + 1) + count) =
      ((upTo tip).rtake (min k (tip + 1))).take count := by
  have hstart : max 0 ((tip : Int) + -k + 1) = ((tip + 1 - min k (tip + 1) : Nat) : Int) := by
    omega
  rw [hstart, filter_upTo, List.rtake, length_upTo]

theorem length_rtake_upTo (k tip : Nat) :
    ((upTo tip).rtake (min k (tip + 1))).length = min k (tip + 1) := by
  rw [List.rtake, List.length_drop, length_upTo]
  omega

theorem Resolution.selects {k tip : Nat} (hk : 1 ≤ k)
    (h : Resolution (some (-(k : Int))) limit (some (tip : Int)) (.ok r)) :
    SelectsLast r limit k tip := by
  cases h with
  | onward _ he => omega
  | back hlimit he htip =>
    refine ⟨_, _, rfl, ?_, ?_⟩
    · rintro rfl
      have hall : ((upTo tip).rtake (min k (tip + 1))).length ≤ k := by
        rw [length_rtake_upTo]
        exact Nat.min_le_left _ _
      rw [Option.getD_none, Int.neg_neg]
      exact (filter_back k tip k).trans (List.take_of_length_le hall)
    · rintro n rfl
      obtain ⟨m, rfl⟩ := Int.eq_ofNat_of_zero_le (Int.le_of_lt (hlimit n rfl))
      rw [Option.getD_some, Int.toNat_natCast]
      refine (filter_back k tip m).trans ?_
      rw [List.take_eq_take_min, length_rtake_upTo]

/-- An epoch and a limit resolve unless the limit is not positive or the epoch lacks its height. The
range that they resolve to is resolved for good, and goes on the wire as it is. Where the epoch
counts back from the tip, the range selects the last epochs of the chain, as many as asked for or
as there are; a limit keeps the first of them. -/
theorem resolve_selects (epoch limit height : Option Int) :
    ((∃ fault, resolve epoch limit height = .error fault) ↔
        (∃ n ∈ limit, n ≤ 0) ∨ ((∃ e ∈ epoch, e < 0) ∧ ∀ tip ∈ height, tip < 0)) ∧
      ∀ r, resolve epoch limit height = .ok r →
        r.Resolved ∧ (∀ later, resolve r.start r.count later = .ok r) ∧
        r.params = (r.start.toList ++ r.count.toList).map .int ∧
        ∀ k tip : Nat, 1 ≤ k → epoch = some (-(k : Int)) → height = some (tip : Int) →
          SelectsLast r limit k tip := by
  have hall := resolution epoch limit height
  refine ⟨hall.refused_iff, fun r hr => ?_⟩
  rw [hr] at hall
  refine ⟨hall.resolved, hall.resolved.resolve_eq, hall.resolved.params_eq, ?_⟩
  rintro k tip hk rfl rfl
  exact hall.selects hk

/-- More epochs than the chain has, of which a limit keeps three; and a limit that is zero. -/
theorem resolve_selects_short_chain :
    resolve (some (-7)) (some 3) (some 4) = .ok ⟨some 0, some 3⟩ ∧
      resolve (some 0) (some 3) none = .ok ⟨some 0, some 3⟩ ∧
      ((upTo 4).filter fun e => 0 ≤ e ∧ e < 0 + 3) = [0, 1, 2] ∧
      ∃ fault, resolve (some (-7)) (some 0) (some 4) = .error fault := by
  have hresolve : resolve (some (-7)) (some 3) (some 4) = .ok ⟨some 0, some 3⟩ := rfl
  obtain ⟨-, hlater, -, hselects⟩ := (resolve_selects _ _ _).2 _ hresolve
  obtain ⟨_, _, ⟨⟩, -, hlast⟩ := hselects 7 4 (by decide) rfl rfl
  exact ⟨hresolve, hlater none, (hlast 3 rfl).trans (by decide),
    (resolve_selects _ _ _).1.mpr (.inl ⟨0, rfl, by decide⟩)⟩

end Epoch

end NodeClient
