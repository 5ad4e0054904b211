import NodeClient.Text.Lower

/-! Small letters stay as they are: writing a text in small letters twice gives the same as once. -/

namespace NodeClient

/-! The runs of capitals -/

/-- First capital, last capital, step from one to the next, distance to the small letter. -/
abbrev CapitalRun : Type := Nat × Nat × Nat × Int

namespace CapitalRun

def Holds (r : CapitalRun) (n : Nat) : Prop := r.1 ≤ n ∧ n ≤ r.2.1 ∧ (n - r.1) % r.2.2.1 = 0

def smallFirst (r : CapitalRun) : Nat := (r.1 + r.2.2.2).toNat

def smallLast (r : CapitalRun) : Nat := (r.2.1 + r.2.2.2).toNat

/-- The number of a small letter for a capital of the run. -/
def Yields (r : CapitalRun) (n : Nat) : Prop :=
  r.smallFirst ≤ n ∧ n ≤ r.smallLast ∧ (n - r.smallFirst) % r.2.2.1 = 0

/-- No small letter of `r` is a capital of `other`: it lies before or after them, or takes turns
with them. -/
def apart (r other : CapitalRun) : Bool :=
  Nat.blt other.2.1 r.smallFirst || Nat.blt r.smallLast other.1 ||
    (other.2.2.1 == 2 && (r.2.2.1 == 2 || r.smallFirst == r.smallLast) &&
      (r.smallFirst + other.1) % 2 == 1)

theorem not_holds_of_apart {r other : CapitalRun} {n : Nat} (h : r.apart other = true)
    (hn : r.Yields n) : ¬ other.Holds n := by
  obtain ⟨hfirst, hlast, hstep⟩ := hn
  rintro ⟨hfirst', hlast', hstep'⟩
  simp only [apart, Bool.or_eq_true, Bool.and_eq_true, Nat.blt_eq, beq_iff_eq] at h
  rcases h with (hbefore | hafter) | ⟨⟨hother, hr | hone⟩, hturn⟩
  · omega
  · omega
  · rw [hother] at hstep'
    rw [hr] at hstep
    omega
  · rw [hother] at hstep'
    omega

theorem apart_table : (capitalRuns.all fun r => capitalRuns.all (apart r)) = true := by
  decide +kernel

theorem apart_of_mem {r other : CapitalRun} (hr : r ∈ capitalRuns) (hother : other ∈ capitalRuns) :
    r.apart other = true :=
  List.all_eq_true.mp (List.all_eq_true.mp apart_table r hr) other hother

/-- No small letter of a run is one of the digits and marks of ASCII, or one of the two capitals
that depend on more than themselves. -/
theorem small_bounds : ∀ r ∈ capitalRuns, 0x61 ≤ smallFirst r ∧
    (smallLast r < 0x130 ∨ 0x130 < smallFirst r) ∧
    (smallLast r < 0x3A3 ∨ 0x3A3 < smallFirst r) := by
  decide +kernel

end CapitalRun

/-! One code point -/

namespace CodePoint

theorem eq_of_val_eq {c d : CodePoint} (h : c.val = d.val) : c = d := by
  cases c
  cases d
  cases h
  rfl

theorem lowerAscii_of_not_upper {c : CodePoint} (h : c.isUpper = false) : c.lowerAscii = c := by
  simp [lowerAscii, h]

theorem lower_eq_self {c : CodePoint} (hupper : c.isUpper = false)
    (hruns : ∀ r ∈ capitalRuns, ¬ CapitalRun.Holds r c.val) : c.lower = c := by
  unfold lower
  split
  · exact lowerAscii_of_not_upper hupper
  · split
    · rename_i hfind
      have hholds := List.find?_some hfind
      simp only [Bool.and_eq_true, decide_eq_true_eq, beq_iff_eq] at hholds
      exact absurd ⟨hholds.1.1, hholds.1.2, hholds.2⟩ (hruns _ (List.mem_of_find?_eq_some hfind))
    · rfl

theorem lower_cases (c : CodePoint) :
    c.lower = c ∨ (0x61 ≤ c.lower.val ∧ c.lower.val ≤ 0x7A) ∨
      ∃ r ∈ capitalRuns, CapitalRun.Yields r c.lower.val := by
  unfold lower
  split
  · by_cases hupper : c.isUpper
    · have hval : c.lowerAscii.val = c.val + 0x20 := by simp [lowerAscii, hupper]
      simp only [isUpper, Bool.and_eq_true, decide_eq_true_eq] at hupper
      exact .inr (.inl (by omega))
    · exact .inl (lowerAscii_of_not_upper (Bool.eq_false_iff.mpr hupper))
  · split
    · rename_i first last step distance hfind
      have hmem := List.mem_of_find?_eq_some hfind
      have hholds := List.find?_some hfind
      have hbound := (CapitalRun.small_bounds _ hmem).1
      simp only [Bool.and_eq_true, decide_eq_true_eq, beq_iff_eq] at hholds
      by_cases hless : ((c.val : Int) + distance).toNat < 0x110000
      · refine .inr (.inr ⟨_, hmem, ?_⟩)
        simp only [ofNat?, hless, dite_true, Option.getD_some, CapitalRun.Yields,
          CapitalRun.smallFirst, CapitalRun.smallLast] at hbound ⊢
        refine ⟨by omega, by omega, ?_⟩
        have hsame : ((c.val : Int) + distance).toNat - ((first : Int) + distance).toNat =
            c.val - first := by omega
        rw [hsame, hholds.2]
      · exact .inl (by simp [ofNat?, hless])
    · exact .inl rfl

/-- A code point that is the same in small letters. -/
def IsSmall (c : CodePoint) : Prop := c.lower = c ∧ c ≠ dottedCapitalI ∧ c ≠ capitalSigma

theorem isSmall_lower {c : CodePoint} (hdotted : c ≠ dottedCapitalI) (hsigma : c ≠ capitalSigma) :
    c.lower.IsSmall := by
  rcases lower_cases c with hsame | ⟨hlow, hhigh⟩ | ⟨r, hr, hyields⟩
  · rw [hsame]
    exact ⟨hsame, hdotted, hsigma⟩
  · have hupper : c.lower.isUpper = false := by
      simp only [isUpper, Bool.and_eq_false_iff, decide_eq_false_iff_not]
      omega
    refine ⟨?_, ?_, ?_⟩
    · have hascii : c.lower.isAscii = true := decide_eq_true (by omega)
      have hstep : c.lower.lower = c.lower.lowerAscii := if_pos hascii
      rw [hstep, lowerAscii_of_not_upper hupper]
    · intro h
      rw [h] at hhigh
      exact absurd hhigh (by decide)
    · intro h
      rw [h] at hhigh
      exact absurd hhigh (by decide)
  · obtain ⟨hlow, hi, hs⟩ := CapitalRun.small_bounds r hr
    have hbounds := hyields
    obtain ⟨hfirst, hlast, -⟩ := hbounds
    have hupper : c.lower.isUpper = false := by
      simp only [isUpper, Bool.and_eq_false_iff, decide_eq_false_iff_not]
      omega
    refine ⟨lower_eq_self hupper fun other hother => ?_, ?_, ?_⟩
    · exact CapitalRun.not_holds_of_apart (CapitalRun.apart_of_mem hr hother) hyields
    · intro h
      have hval : c.lower.val = 0x130 := congrArg val h
      omega
    · intro h
      have hval : c.lower.val = 0x3A3 := congrArg val h
      omega

/-- What may stand for a capital in small letters. -/
def StandsForCapital (c : CodePoint) : Prop :=
  (0x61 ≤ c.val ∧ c.val ≤ 0x7A) ∨ c ∈ [combiningDot, smallSigma, finalSigma] ∨
    ∃ r ∈ capitalRuns, CapitalRun.smallFirst r ≤ c.val ∧ c.val ≤ CapitalRun.smallLast r

end CodePoint

/-! Whole texts -/

namespace Text

open CodePoint (dottedCapitalI capitalSigma combiningDot smallSigma finalSigma)

theorem mem_lowerAfter {before s : Text} {d : CodePoint} (h : d ∈ lowerAfter before s) :
    d ∈ [CodePoint.ofChar 'i', combiningDot, smallSigma, finalSigma] ∨
      ∃ c ∈ s, c ≠ dottedCapitalI ∧ c ≠ capitalSigma ∧ d = c.lower := by
  induction s generalizing before with
  | nil => cases h
  | cons c s ih =>
    rw [lowerAfter] at h
    rcases List.mem_append.mp h with hsmall | hrest
    · split at hsmall
      · exact .inl (List.mem_append_left [smallSigma, finalSigma] hsmall)
      rename_i hdotted
      split at hsmall
      · split at hsmall
        · exact .inl (by simp [List.mem_singleton.mp hsmall])
        · exact .inl (by simp [List.mem_singleton.mp hsmall])
      · rename_i hsigma
        exact .inr ⟨c, List.mem_cons_self, hdotted, hsigma, List.mem_singleton.mp hsmall⟩
    · exact (ih hrest).imp_right fun ⟨c', hc', hlower⟩ => ⟨c', List.mem_cons_of_mem c hc', hlower⟩

theorem isSmall_of_mem_lower {s : Text} {d : CodePoint} (h : d ∈ lower s) : d.IsSmall := by
  have hforms : ∀ d ∈ [CodePoint.ofChar 'i', combiningDot, smallSigma, finalSigma],
      d.lower = d ∧ d ≠ dottedCapitalI ∧ d ≠ capitalSigma := by decide +kernel
  rcases mem_lowerAfter h with hform | ⟨c, -, hdotted, hsigma, rfl⟩
  · exact hforms d hform
  · exact CodePoint.isSmall_lower hdotted hsigma

theorem lowerAfter_of_small {before s : Text} (h : ∀ c ∈ s, c.IsSmall) :
    lowerAfter before s = s := by
  induction s generalizing before with
  | nil => rfl
  | cons c s ih =>
    obtain ⟨⟨hlower, hdotted, hsigma⟩, hs⟩ := List.forall_mem_cons.mp h
    rw [lowerAfter, if_neg hdotted, if_neg hsigma, hlower, ih hs]
    rfl

theorem lower_lower (s : Text) : lower (lower s) = lower s :=
  lowerAfter_of_small fun _ => isSmall_of_mem_lower

/-- Small letters add nothing to a text but what stands for its capitals. -/
theorem mem_lower {s : Text} {d : CodePoint} (h : d ∈ lower s) : d ∈ s ∨ d.StandsForCapital := by
  have hi : (0x61 ≤ (CodePoint.ofChar 'i').val ∧ (CodePoint.ofChar 'i').val ≤ 0x7A) := by decide
  rcases mem_lowerAfter h with hform | ⟨c, hc, -, -, rfl⟩
  · rcases List.mem_cons.mp hform with rfl | hform
    · exact .inr (.inl hi)
    · exact .inr (.inr (.inl hform))
  · rcases c.lower_cases with hsame | hascii | ⟨r, hr, hfirst, hlast, -⟩
    · exact .inl (hsame.symm ▸ hc)
    · exact .inr (.inl hascii)
    · exact .inr (.inr (.inr ⟨r, hr, hfirst, hlast⟩))

theorem lower_ne_nil {s : Text} (h : s ≠ []) : lower s ≠ [] := by
  cases s with
  | nil => exact absurd rfl h
  | cons c s =>
    rw [lower, lowerAfter]
    refine List.append_ne_nil_of_left_ne_nil ?_ _
    repeat' split
    all_goals exact List.cons_ne_nil _ _

end Text

end NodeClient
