import NodeClient.Proofs.Chain.Selection
import NodeClient.Proofs.Chain.Spelling

/-! The parameters that the methods document. Arguments that are accepted give nothing else, as long
as a range of epochs does not start below zero; and they keep every count of a range exactly when
the ranges among them are resolved. -/

namespace NodeClient

/-- 64 hexadecimal digits, the letters among them small. -/
def IsDigest (s : Text) : Prop :=
  s.length = 64 ∧ ∀ c ∈ s, c.isDigit = true ∨ (0x61 ≤ c.val ∧ c.val ≤ 0x66)

inductive Method.Documented : Method → List Json.Value → Prop where
  | wholeChain : Documented .blockChain []
  | chainFrom {start : Int} (hstart : 0 ≤ start) : Documented .blockChain [.int start]
  | chainRange {start count : Int} (hstart : 0 ≤ start) (hcount : 1 ≤ count) :
      Documented .blockChain [.int start, .int count]
  | block {hash : Text} (hhash : IsDigest hash) : Documented .block [.str hash]
  | output {transaction index : Text} (htransaction : IsDigest transaction)
      (hindex : IsDecimal index) :
      Documented .output [.str (transaction ++ CodePoint.ofChar ':' :: index)]
  | syncStatus : Documented .syncStatus []
  | inventory {kind : Text} {item : Json.Value} (hkind : kind = "block" ∨ kind = "transaction") :
      Documented .inventory [.obj [(kind, item)]]

/-! Digests -/

theorem isDigest_lowerAscii {s : Text} (h : isHash s = true) : IsDigest (Text.lowerAscii s) := by
  have hdigits := isHexDigit_of_isHash h
  simp only [isHash, Bool.and_eq_true, beq_iff_eq] at h
  refine ⟨by rw [Text.lowerAscii, List.length_map, h.1], ?_⟩
  intro c hc
  obtain ⟨d, hd, rfl⟩ := List.mem_map.mp hc
  obtain ⟨n, hn⟩ := CodePoint.exists_hexValue? (hdigits d hd)
  rw [CodePoint.lowerAscii_of_hexValue? hn]
  exact CodePoint.hexDigit_small n (CodePoint.hexValue?_lt hn)

theorem isDigest_of_readHash {what raw hash : Text} (h : readHash what raw = .ok hash) :
    IsDigest hash := by
  unfold readHash at h
  dsimp only at h
  split at h
  · obtain rfl := Except.ok.inj h
    exact isDigest_lowerAscii ‹_›
  · cases h

theorem isDigest_hexOfBytes {bytes : Bytes} (h : bytes.length = 32) :
    IsDigest (hexOfBytes bytes) := by
  refine ⟨by rw [(SpellsBytes.hexOfBytes_spells bytes).length_eq, h], ?_⟩
  intro c hc
  obtain ⟨b, -, hb⟩ := List.mem_flatMap.mp hc
  simp only [Text.hex, List.nil_append, List.mem_append, List.mem_singleton] at hb
  rcases hb with rfl | rfl
  · exact CodePoint.hexDigit_small _ (Nat.mod_lt _ (by decide))
  · exact CodePoint.hexDigit_small _ (Nat.mod_lt _ (by decide))

/-! Pointers -/

theorem OutputPointer.documented_text (p : OutputPointer) :
    Method.Documented .output [.str p.text] :=
  .output (isDigest_hexOfBytes p.length_eq) (isDecimal_ofNat p.outputIndex)

/-! Accepted arguments -/

/-- Both ends of the range were resolved before it was made. -/
def Argument.Resolved : Argument → Prop
  | .range r => ∀ start, r.start = some start → 0 ≤ start
  | .value _ | .pointer _ => True

namespace Method

theorem documented_range {r : EpochRange} (hstart : ∀ start, r.start = some start → 0 ≤ start)
    (hcount : Epoch.checkLimit r.count = .ok ()) : Documented .blockChain r.params := by
  unfold EpochRange.params
  split
  · exact .wholeChain
  · exact .chainFrom (hstart _ ‹_›)
  · rename_i start count hs hc
    rw [hc] at hcount
    exact .chainRange (hstart _ hs) (checkLimit_some hcount)

/-- One case for each form of the arguments. -/
theorem Takes.documented {m : Method} {args : List Argument} {params : List Json.Value}
    (h : m.Takes args params) (hargs : ∀ a ∈ args, a.Resolved) : m.Documented params := by
  cases h with
  | wholeChain => exact .wholeChain
  | range hcount => exact documented_range (hargs _ List.mem_cons_self) hcount
  | chainFrom hstart => exact .chainFrom hstart
  | chainRange hstart hcount => exact .chainRange hstart hcount
  | block hhash => exact .block (isDigest_of_readHash hhash)
  | spelled | pointer => exact OutputPointer.documented_text _
  | syncStatus => exact .syncStatus
  | inventory hkind => exact .inventory hkind

end Method

theorem documented_checkedParams {m : Method} {args : List Argument} {params : List Json.Value}
    (hargs : ∀ a ∈ args, a.Resolved) (h : checkedParams m.name args = .ok params) :
    m.Documented params :=
  (checkedParams_eq_ok_iff.mp h).documented hargs

/-! Ranges of epochs among the arguments -/

/-- The count of a range is the second number of a listing. -/
def KeepsCounts (args : List Argument) (params : List Json.Value) : Prop :=
  ∀ r count, Argument.range r ∈ args → r.count = some count →
    ∃ start, params = [.int start, .int count]

/-- A range is taken only by itself, as what a listing asks for. -/
theorem Method.Takes.of_range {m : Method} {args : List Argument} {params : List Json.Value}
    {r : EpochRange} (h : m.Takes args params) (hr : .range r ∈ args) :
    m = .blockChain ∧ args = [.range r] ∧ Epoch.checkLimit r.count = .ok () ∧
      params = r.params := by
  cases h with
  | range hcount =>
    cases List.mem_singleton.mp hr
    exact ⟨rfl, rfl, hcount, rfl⟩
  | chainRange =>
    rcases List.mem_cons.mp hr with hfirst | hr
    · cases hfirst
    · cases List.mem_singleton.mp hr
  | wholeChain | syncStatus => cases hr
  | chainFrom | block | spelled | pointer | inventory => cases List.mem_singleton.mp hr

theorem resolved_of_documented {r : EpochRange} (hcount : Epoch.checkLimit r.count = .ok ())
    (hdocumented : Method.blockChain.Documented r.params)
    (hkeeps : KeepsCounts [.range r] r.params) : r.Resolved := by
  have hpos : ∀ n ∈ r.count, 1 ≤ n := fun n hn => checkLimit_some (hn ▸ hcount)
  obtain ⟨start, count⟩ := r
  cases start with
  | none =>
    refine ⟨nofun, hpos, fun _ => ?_⟩
    cases count with
    | none => rfl
    | some n =>
      obtain ⟨_, hparams⟩ := hkeeps _ n List.mem_cons_self rfl
      cases hparams
  | some e =>
    have he : 0 ≤ e := by
      cases count with
      | none =>
        cases hdocumented with
        | chainFrom hstart => exact hstart
      | some n =>
        cases hdocumented with
        | chainRange hstart => exact hstart
    refine ⟨?_, hpos, nofun⟩
    rintro _ ⟨⟩
    exact he

theorem EpochRange.Resolved.keepsCounts {r : EpochRange} (h : r.Resolved) :
    KeepsCounts [.range r] r.params := by
  intro r' n hr hn
  cases List.mem_singleton.mp hr
  obtain ⟨start, count⟩ := r
  obtain rfl : count = some n := hn
  cases start with
  | none => cases h.counted rfl
  | some e => exact ⟨e, rfl⟩

/-- Unknown commands are refused. What the others accept has a documented shape and lacks no count
exactly when the ranges that it was made of are resolved. -/
theorem checkedParams_documented_iff (command : Text) (args : List Argument) :
    ((∀ m : Method, m.name ≠ command) →
        checkedParams command args = .error (.failed (.arguments (.unknownCommand command)))) ∧
      ∀ params, checkedParams command args = .ok params → ∃ m : Method, m.name = command ∧
        ((m.Documented params ∧ KeepsCounts args params) ↔
          ∀ r, .range r ∈ args → r.Resolved) := by
  refine ⟨fun hunknown => checkedParams_unknown hunknown args, fun params h => ?_⟩
  obtain ⟨m, hm, htakes⟩ := exists_takes h
  refine ⟨m, hm, ?_, ?_⟩
  · rintro ⟨hdocumented, hkeeps⟩ r hr
    obtain ⟨rfl, rfl, hcount, rfl⟩ := htakes.of_range hr
    exact resolved_of_documented hcount hdocumented hkeeps
  · intro hresolved
    refine ⟨htakes.documented fun a ha => ?_, fun r n hr hn => ?_⟩
    · cases a with
      | range r => exact (hresolved r ha).start
      | value | pointer => trivial
    · obtain ⟨rfl, rfl, -, rfl⟩ := htakes.of_range hr
      exact (hresolved r hr).keepsCounts r n hr hn

/-- A range that was resolved, with a count. -/
theorem checkedParams_documented_iff_counted :
    let args : List Argument := [.range ⟨some 91, some 2⟩]
    checkedParams Method.blockChain.name args = .ok [.int 91, .int 2] ∧
      Method.blockChain.Documented [.int 91, .int 2] ∧ KeepsCounts args [.int 91, .int 2] := by
  intro args
  have haccepted : checkedParams Method.blockChain.name args = .ok [.int 91, .int 2] :=
    checkedParams_range rfl
  have hresolved : ∀ r, .range r ∈ args → r.Resolved := by
    intro r hr
    cases List.mem_singleton.mp hr
    refine ⟨?_, ?_, fun hstart => absurd hstart (Option.some_ne_none 91)⟩
    · rintro _ ⟨⟩
      decide
    · rintro _ ⟨⟩
      decide
  obtain ⟨m, hm, hiff⟩ := (checkedParams_documented_iff Method.blockChain.name args).2 _ haccepted
  obtain rfl : m = .blockChain := Method.name_injective hm
  exact ⟨haccepted, hiff.mpr hresolved⟩

/-- Ranges that were not resolved are accepted: one starts below zero, of the other the count is
dropped. -/
theorem checkedParams_accepts_unresolved :
    checkedParams Method.blockChain.name [.range ⟨some (-1), none⟩] = .ok [.int (-1)] ∧
      ¬ Method.blockChain.Documented [.int (-1)] ∧
      checkedParams Method.blockChain.name [.range ⟨none, some 3⟩] = .ok [] := by
  refine ⟨checkedParams_range rfl, ?_, checkedParams_range rfl⟩
  intro hdocumented
  cases hdocumented with
  | chainFrom hstart => exact absurd hstart (by decide)

end NodeClient
