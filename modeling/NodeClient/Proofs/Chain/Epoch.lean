import NodeClient.Proofs.Json.Digits
import NodeClient.Proofs.Rpc.Params

/-! The ranges that epochs resolve to, which a listing takes as they are. -/

namespace NodeClient

namespace Epoch

variable {limit : Option Int}

theorem checkLimit_of_pos (h : ∀ n, limit = some n → 0 < n) : checkLimit limit = .ok () := by
  cases limit with
  | none => rfl
  | some n => exact if_neg (Int.not_le.mpr (h n rfl))

theorem checkLimit_of_nonpos {n : Int} (h : n ≤ 0) : checkLimit (some n) = .error (.limit n) :=
  if_pos h

theorem resolve_none (h : checkLimit limit = .ok ()) (height : Option Int) :
    resolve none limit height = .ok ⟨limit.map fun _ => 0, limit⟩ := by
  rw [resolve, h]
  rfl

theorem resolve_of_nonneg (h : checkLimit limit = .ok ()) {e : Int} (he : 0 ≤ e)
    (height : Option Int) : resolve (some e) limit height = .ok ⟨some e, limit⟩ := by
  rw [resolve.eq_def, h]
  exact if_pos he

theorem resolve_tip (h : checkLimit limit = .ok ()) {e tip : Int} (he : e < 0) (htip : 0 ≤ tip) :
    resolve (some e) limit (some tip) =
      .ok ⟨some (max 0 (tip + e + 1)), some (limit.getD (-e))⟩ := by
  rw [resolve, h]
  change (if 0 ≤ e then _ else _) = _
  rw [if_neg (Int.not_le.mpr he)]
  exact if_neg (Int.not_lt.mpr htip)

theorem resolve_below_zero (h : checkLimit limit = .ok ()) {e tip : Int} (he : e < 0)
    (htip : tip < 0) : resolve (some e) limit (some tip) = .error (.heightNegative tip) := by
  rw [resolve, h]
  change (if 0 ≤ e then _ else _) = _
  rw [if_neg (Int.not_le.mpr he)]
  exact if_pos htip

/-- The count of a listing from the tip passes the check of a limit. -/
theorem checkLimit_count (h : checkLimit limit = .ok ()) {e : Int} (he : e < 0) :
    checkLimit (some (limit.getD (-e))) = .ok () := by
  cases limit with
  | some n => exact h
  | none => exact if_neg (by simp only [Option.getD_none]; omega)

end Epoch

theorem checkedParams_range {r : EpochRange} (h : Epoch.checkLimit r.count = .ok ()) :
    checkedParams Method.blockChain.name [.range r] = .ok r.params :=
  checkedParams_eq_ok_iff.mpr (.range h)

theorem withinDigits_zero : WithinDigits 0 := .of_lt (by decide)

theorem EpochRange.withinDigits_open {limit : Option Int}
    (hlimit : ∀ n, limit = some n → WithinDigits n) :
    (Argument.range ⟨limit.map fun _ => 0, limit⟩).WithinDigits := by
  refine ⟨fun n hn => ?_, hlimit⟩
  obtain ⟨_, -, rfl⟩ := Option.map_eq_some_iff.mp hn
  exact withinDigits_zero

theorem EpochRange.withinDigits_from {e : Int} {limit : Option Int} (he : WithinDigits e)
    (hlimit : ∀ n, limit = some n → WithinDigits n) :
    (Argument.range ⟨some e, limit⟩).WithinDigits := by
  refine ⟨fun n hn => ?_, hlimit⟩
  obtain rfl := Option.some.inj hn
  exact he

/-- A range before the tip starts no further out than the tip. -/
theorem EpochRange.withinDigits_tip {e tip : Int} {limit : Option Int} (he : e < 0)
    (htip : 0 ≤ tip) (hwithin : WithinDigits e) (hheight : WithinDigits tip)
    (hlimit : ∀ n, limit = some n → WithinDigits n) :
    (Argument.range ⟨some (max 0 (tip + e + 1)), some (limit.getD (-e))⟩).WithinDigits := by
  refine ⟨fun n hn => ?_, fun n hn => ?_⟩
  · obtain rfl := Option.some.inj hn
    -- the start lies between zero and the tip
    exact hheight.of_natAbs_le (by omega)
  · obtain rfl := Option.some.inj hn
    cases limit with
    | some n => exact hlimit n rfl
    | none => exact hwithin.neg

end NodeClient
