import Mathlib.Data.List.Chain
import NodeClient.Json.Writer
import NodeClient.Proofs.Json.Spelling
import NodeClient.Proofs.Text.Hex

/-! A string that is written spells the same string again, unless a high surrogate stands right
before a low one in it: their two escapes would be read as one code point. -/

namespace NodeClient

/-- No high surrogate is followed by a low one. -/
def Text.Unpaired (s : Text) : Prop :=
  s.IsChain fun c d => ¬ (c.isHighSurrogate = true ∧ d.isLowSurrogate = true)

instance (s : Text) : Decidable s.Unpaired :=
  inferInstanceAs (Decidable (List.IsChain _ s))

namespace Json

open CodePoint (quote backslash hexDigit)

/-- The ways to write one code point between quotes. -/
inductive Escape (c : CodePoint) : Text → Prop where
  | plain (hquote : c ≠ quote) (hslash : c ≠ backslash) (hvisible : 0x20 ≤ c.val) : Escape c [c]
  | short {e : CodePoint} (he : unescaped? e = some c) : Escape c [backslash, e]
  | unit {d₁ d₂ d₃ d₄ : CodePoint} (hc : unit? d₁ d₂ d₃ d₄ = some c.val) :
      Escape c (unitMark d₁ d₂ d₃ d₄)
  | pair {d₁ d₂ d₃ d₄ d₅ d₆ d₇ d₈ : CodePoint} {high low : Nat}
      (hhigh : unit? d₁ d₂ d₃ d₄ = some high) (hlow : unit? d₅ d₆ d₇ d₈ = some low)
      (hfirst : isHighUnit high = true) (hsecond : isLowUnit low = true)
      (hc : pairChar high low = c) : Escape c (unitMark d₁ d₂ d₃ d₄ ++ unitMark d₅ d₆ d₇ d₈)

/-! Code units and their digits -/

theorem unitEscape_eq (n : Nat) :
    unitEscape n = unitMark (hexDigit (n / 16 / 16 / 16 % 16)) (hexDigit (n / 16 / 16 % 16))
      (hexDigit (n / 16 % 16)) (hexDigit (n % 16)) := rfl

theorem unit?_hexDigit {n : Nat} (h : n < 0x10000) :
    unit? (hexDigit (n / 16 / 16 / 16 % 16)) (hexDigit (n / 16 / 16 % 16))
      (hexDigit (n / 16 % 16)) (hexDigit (n % 16)) = some n := by
  have hdigit (m : Nat) : (hexDigit (m % 16)).hexValue? = some (m % 16) :=
    CodePoint.hexValue?_hexDigit _ (Nat.mod_lt m (by decide))
  have hvalue : ((n / 16 / 16 / 16 % 16 * 16 + n / 16 / 16 % 16) * 16 + n / 16 % 16) * 16 +
      n % 16 = n := by omega
  simp only [unit?, hdigit, Option.bind_eq_bind, Option.bind_some, Option.pure_def, hvalue]

theorem unitChar_val (c : CodePoint) : unitChar c.val = c := by
  simp [unitChar, CodePoint.ofNat?, c.isLt]

/-! The two halves of a code point above U+FFFF -/

theorem isHighUnit_high (c : CodePoint) :
    isHighUnit (0xD800 + (c.val - 0x10000) / 0x400) = true := by
  have hless := c.isLt
  simp only [isHighUnit, Bool.and_eq_true, decide_eq_true_eq]
  omega

theorem isLowUnit_low (c : CodePoint) :
    isLowUnit (0xDC00 + (c.val - 0x10000) % 0x400) = true := by
  simp only [isLowUnit, Bool.and_eq_true, decide_eq_true_eq]
  omega

theorem pairChar_halves {c : CodePoint} (h : 0x10000 ≤ c.val) :
    pairChar (0xD800 + (c.val - 0x10000) / 0x400) (0xDC00 + (c.val - 0x10000) % 0x400) = c := by
  have hvalue : 0x10000 + (0xD800 + (c.val - 0x10000) / 0x400 - 0xD800) * 0x400 +
      (0xDC00 + (c.val - 0x10000) % 0x400 - 0xDC00) = c.val := by omega
  rw [pairChar, hvalue, unitChar_val]

/-! One code point -/

theorem escape_of_lookup {c letter : CodePoint}
    (h : shortEscapes.lookup c.val = some letter) : Escape c [backslash, letter] := by
  have hletters : ∀ entry ∈ shortEscapes, unescaped? entry.2 = CodePoint.ofNat? entry.1 := by
    decide
  obtain ⟨before, after, hsplit, -⟩ := List.lookup_eq_some_iff.mp h
  have hmem : (c.val, letter) ∈ shortEscapes := by simp [hsplit]
  refine .short ((hletters _ hmem).trans ?_)
  exact dif_pos c.isLt

theorem escape_escaped (c : CodePoint) : Escape c (escaped c) := by
  unfold escaped
  split
  · rename_i hmark
    simp only [Bool.or_eq_true, decide_eq_true_eq] at hmark
    exact .short (by rcases hmark with rfl | rfl <;> decide)
  rename_i hmark
  simp only [Bool.or_eq_true, decide_eq_true_eq, not_or] at hmark
  split
  · exact escape_of_lookup ‹_›
  split
  · rename_i hvisible
    simp only [Bool.and_eq_true, decide_eq_true_eq] at hvisible
    exact .plain hmark.1 hmark.2 hvisible.1
  split
  · rename_i hbasic
    rw [unitEscape_eq]
    exact .unit (unit?_hexDigit hbasic)
  · rename_i hbasic
    have hless := c.isLt
    rw [unitEscape_eq, unitEscape_eq]
    exact .pair (unit?_hexDigit (by omega)) (unit?_hexDigit (by omega)) (isHighUnit_high c)
      (isLowUnit_low c) (pairChar_halves (Nat.not_lt.mp hbasic))

namespace Escape

variable {c : CodePoint} {w body text : Text}

/-- Only a low surrogate is written with an escape that can end a pair. -/
theorem isLowSurrogate_of_startsLow (h : Escape c w) (hlow : StartsLow (w ++ body)) :
    c.isLowSurrogate = true := by
  obtain ⟨e₁, e₂, e₃, e₄, low, rest, hstart, hunit, hisLow⟩ := hlow
  cases h with
  | plain _ hslash => exact absurd (List.cons.inj hstart).1 hslash
  | short he =>
    have hletter := (List.cons.inj (List.cons.inj hstart).2).1
    exact absurd hletter (ne_u_of_unescaped? he)
  | unit hc =>
    simp only [unitMark, List.cons_append, List.cons.injEq, true_and] at hstart
    obtain ⟨rfl, rfl, rfl, rfl, -⟩ := hstart
    obtain rfl : c.val = low := Option.some.inj (hc.symm.trans hunit)
    exact hisLow
  | @pair _ _ _ _ _ _ _ _ high _ hhigh _ hfirst =>
    simp only [unitMark, List.cons_append, List.cons.injEq, true_and] at hstart
    obtain ⟨rfl, rfl, rfl, rfl, -⟩ := hstart
    obtain rfl : high = low := Option.some.inj (hhigh.symm.trans hunit)
    simp only [isHighUnit, isLowUnit, Bool.and_eq_true, decide_eq_true_eq] at hfirst hisLow
    omega

theorem spells (h : Escape c w) (hbody : Spells body text)
    (halone : c.isHighSurrogate = true → ¬ StartsLow body) : Spells (w ++ body) (c :: text) := by
  cases h with
  | plain hquote hslash hvisible => exact .plain hquote hslash hvisible hbody
  | short he => exact .short he hbody
  | unit hc =>
    have hspells := Spells.unit hc halone hbody
    rwa [unitChar_val] at hspells
  | pair hhigh hlow hfirst hsecond hc =>
    rw [List.append_assoc, ← hc]
    exact .pair hhigh hlow hfirst hsecond hbody

end Escape

/-! Whole strings -/

theorem exists_low_of_startsLow {s : Text} (h : StartsLow (s.flatMap escaped)) :
    ∃ c ∈ s.head?, c.isLowSurrogate = true := by
  cases s with
  | nil =>
    obtain ⟨_, _, _, _, _, _, hstart, -⟩ := h
    cases hstart
  | cons c s =>
    rw [List.flatMap_cons] at h
    exact ⟨c, rfl, (escape_escaped c).isLowSurrogate_of_startsLow h⟩

theorem spells_escaped {s : Text} (h : s.Unpaired) : Spells (s.flatMap escaped) s := by
  induction s with
  | nil => exact .nil
  | cons c s ih =>
    rw [Text.Unpaired, List.isChain_cons] at h
    rw [List.flatMap_cons]
    refine (escape_escaped c).spells (ih h.2) ?_
    intro hhigh hlow
    obtain ⟨d, hd, hisLow⟩ := exists_low_of_startsLow hlow
    exact h.1 d hd ⟨hhigh, hisLow⟩

end Json

end NodeClient
