import NodeClient.Link.Dial
import NodeClient.Proofs.Link.Send

/-! What breaks a dial. Only a system breaks one: for a name of the host that has no encoded form,
or, once the host was found, for a wait that is no number or that the clock cannot count. -/

namespace NodeClient

theorem Binary64.ofFraction_cases (negative : Bool) (num den : Nat) :
    ofFraction negative num den = infinite negative ∨
      ∃ m e, ofFraction negative num den = finite negative m e := by
  unfold ofFraction
  split
  · exact .inr ⟨_, _, rfl⟩
  · dsimp only
    -- which mantissa and exponent are found does not matter
    generalize (if 0 ≤ exponentOf num den then _ else _) = m
    generalize (if m = Nat.pow 2 precision then _ else _) = scaled
    split
    · exact .inl rfl
    · exact .inr ⟨_, _, rfl⟩

theorem Binary64.mul_finite (s t : Bool) (m n : Nat) (e f : Int) :
    mul (finite s m e) (finite t n f) =
      ofFraction (s != t) ((magnitude m e).1 * (magnitude n f).1)
        ((magnitude m e).2 * (magnitude n f).2) := rfl

namespace Wait

theorem nanosecondsPerSecond_eq :
    nanosecondsPerSecond = .finite false 8388608000000000 (-23) := by
  decide +kernel

@[simp] theorem fault?_infinite (negative : Bool) :
    fault? (.infinite negative) = some .tooLong := by
  rw [fault?, nanosecondsPerSecond_eq]
  rfl

/-- A finite wait is refused for being too long, or for being negative. -/
theorem fault?_finite_cases (negative : Bool) (m : Nat) (e : Int) :
    fault? (.finite negative m e) = none ∨ fault? (.finite negative m e) = some .tooLong ∨
      negative = true ∧ fault? (.finite negative m e) = some .negative := by
  obtain ⟨num, den, hmul⟩ : ∃ num den, Binary64.mul (.finite negative m e) nanosecondsPerSecond =
      .ofFraction negative num den := by
    rw [nanosecondsPerSecond_eq, Binary64.mul_finite, Bool.bne_false]
    exact ⟨_, _, rfl⟩
  have hcases := Binary64.ofFraction_cases negative num den
  rw [fault?, hmul]
  generalize Binary64.ofFraction negative num den = nanoseconds at hcases
  clear hmul
  rcases hcases with rfl | ⟨m', e', rfl⟩
  · exact .inr (.inl rfl)
  · dsimp only
    split
    · rename_i hnegative
      have hsign : negative = true := (Bool.and_eq_true_iff.mp hnegative).1
      split
      · exact .inr (.inl rfl)
      · exact .inr (.inr ⟨hsign, rfl⟩)
    · split
      · exact .inr (.inl rfl)
      · exact .inl rfl

/-- Only NaN is refused for being no number. -/
theorem fault?_eq_notNumber_iff {seconds : Binary64} :
    fault? seconds = some .notNumber ↔ seconds = .nan := by
  cases seconds with
  | nan => exact iff_of_true rfl rfl
  | infinite negative => simp
  | finite negative m e =>
    refine iff_of_false (fun h => ?_) (by rintro ⟨⟩)
    rcases fault?_finite_cases negative m e with hnone | hlong | ⟨-, hnegative⟩
    · cases h.symm.trans hnone
    · cases h.symm.trans hlong
    · cases h.symm.trans hnegative

theorem notPositive_of_negative {seconds : Binary64} (h : fault? seconds = some .negative) :
    seconds.notPositive = true := by
  cases seconds with
  | nan => cases h
  | infinite negative => simp at h
  | finite negative m e =>
    rcases fault?_finite_cases negative m e with hnone | hlong | ⟨rfl, -⟩
    · cases h.symm.trans hnone
    · cases h.symm.trans hlong
    · rfl

end Wait

example : Wait.fault? (.ofFraction false 10 1) = none ∧
    Wait.fault? (.ofFraction false 10000000000 1) = some .tooLong := by decide +kernel

namespace HostName

theorem labelsFit_iff {labels : List Text} :
    labelsFit labels = true ↔ (∀ label ∈ labels, label.length ≤ longestLabel) ∧
      ∀ label ∈ labels.dropLast, label ≠ [] := by
  induction labels with
  | nil => simp [labelsFit]
  | cons label rest ih =>
    cases rest with
    | nil => simp [labelsFit]
    | cons next rest =>
      simp only [labelsFit, Bool.and_eq_true, ih, decide_eq_true_eq, Bool.not_eq_true',
        List.isEmpty_eq_false_iff, List.dropLast_cons_cons, List.forall_mem_cons (a := label)]
      constructor
      · rintro ⟨⟨hfull, hshort⟩, hshorts, hfulls⟩
        exact ⟨⟨hshort, hshorts⟩, hfull, hfulls⟩
      · rintro ⟨⟨hshort, hshorts⟩, hfull, hfulls⟩
        exact ⟨⟨hfull, hshort⟩, hshorts, hfulls⟩

/-- A name in ASCII has an encoded form just when its labels are not too long, and none of them but
the last is empty. -/
theorem encodes_ascii_iff (prepares : Text → Bool) {host : Text}
    (hascii : host.all CodePoint.isAscii = true) :
    encodes prepares host = true ↔
      (∀ label ∈ Text.splitAll (CodePoint.ofChar '.') host, label.length ≤ longestLabel) ∧
        ∀ label ∈ (Text.splitAll (CodePoint.ofChar '.') host).dropLast, label ≠ [] := by
  rw [encodes, if_pos hascii, labelsFit_iff]

end HostName

example : HostName.encodes (fun _ => true) "a.b." = true ∧
    HostName.encodes (fun _ => true) "a..b" = false := by decide +kernel

/-- What breaks the dial of a host. -/
inductive DialBreaks (p : Peer) (host : Text) (timeout : Binary64) : Breakdown → Prop where
  | name {prepares : Text → Bool} {lookupFault linkFault : Option Cause}
      (hsystem : p.obstacle = some (.system prepares lookupFault linkFault))
      (h : HostName.encodes prepares host = false) :
      DialBreaks p host timeout HostName.breakdown
  | wait {prepares : Text → Bool} {linkFault : Option Cause} {fault : WaitFault}
      (hsystem : p.obstacle = some (.system prepares none linkFault))
      (hname : HostName.encodes prepares host = true) (h : Wait.fault? timeout = some fault) :
      DialBreaks p host timeout fault.breakdown

theorem Obstacle.fromNode_stopOf (dialed : Text) (cause : Cause) :
    (Obstacle.stopOf dialed cause).FromNode := by
  unfold stopOf
  split
  · exact .inl rfl
  · exact Stop.fromNode_connect _ _

namespace Peer

variable {p : Peer} {host : Text} {port : Int} {timeout : Binary64}

theorem dialStop?_of_breaks {b : Breakdown} (h : DialBreaks p host timeout b) :
    p.dialStop? host port timeout = some (.broke b) := by
  cases h with
  | name hsystem h => simp [dialStop?, hsystem, Obstacle.stop?, h]
  | wait hsystem hname h => simp [dialStop?, hsystem, Obstacle.stop?, hname, h]

theorem dialStop?_cases {stop : Stop} (h : p.dialStop? host port timeout = some stop) :
    stop.FromNode ∨ ∃ b, stop = .broke b ∧ DialBreaks p host timeout b := by
  obtain ⟨obstacle, hobstacle, hstop⟩ := Option.bind_eq_some_iff.mp h
  unfold Obstacle.stop? at hstop
  split at hstop
  · obtain rfl := Option.some.inj hstop
    exact .inl (Obstacle.fromNode_stopOf _ _)
  · split at hstop
    · rename_i hname
      split at hstop
      · obtain rfl := Option.some.inj hstop
        exact .inl (Obstacle.fromNode_stopOf _ _)
      · rename_i hwait
        obtain rfl := Option.some.inj hstop
        exact .inr ⟨_, rfl, .wait hobstacle hname hwait⟩
      · obtain ⟨cause, -, rfl⟩ := Option.map_eq_some_iff.mp hstop
        exact .inl (Obstacle.fromNode_stopOf _ _)
    · rename_i hname
      obtain rfl := Option.some.inj hstop
      exact .inr ⟨_, rfl, .name hobstacle (by simpa using hname)⟩

/-- A dial breaks just when it has to, and nothing else ends it than a failure of the link or an
interrupt. -/
theorem fate_dial (p : Peer) (address host : Text) (port : Int) (timeout : Binary64) :
    Fate (DialBreaks p host timeout) (p.dial address host port timeout).1 := by
  unfold dial
  dsimp only
  cases hstop : p.dialStop? host port timeout with
  | none =>
    refine .gives _ fun b hb => ?_
    cases hstop.symm.trans (dialStop?_of_breaks hb)
  | some stop =>
    rcases dialStop?_cases hstop with hnode | ⟨b, rfl, hb⟩
    · refine .stops hnode fun b hb => ?_
      obtain rfl : stop = .broke b := Option.some.inj (hstop.symm.trans (dialStop?_of_breaks hb))
      exact Stop.FromNode.not_broke hnode
    · exact .breaks hb

end Peer

end NodeClient
