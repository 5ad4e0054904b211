import NodeClient.Proofs.Rpc.Arguments
import NodeClient.Proofs.Text.Hex
import NodeClient.Proofs.Text.Trim

/-! A hash that was read is one that a request takes as it is, and so is a pointer. -/

namespace NodeClient

theorem isHexDigit_of_isHash {s : Text} (h : isHash s = true) : ∀ c ∈ s, c.isHexDigit = true := by
  simp only [isHash, Bool.and_eq_true, List.all_eq_true] at h
  exact h.2

theorem isHash_lowerAscii {s : Text} (h : isHash s = true) : isHash (Text.lowerAscii s) = true := by
  have hdigits := isHexDigit_of_isHash h
  simp only [isHash, Bool.and_eq_true, List.all_eq_true] at h ⊢
  refine ⟨by rw [Text.lowerAscii, List.length_map, h.1], ?_⟩
  intro c hc
  obtain ⟨d, hd, rfl⟩ := List.mem_map.mp hc
  exact CodePoint.isHexDigit_lowerAscii (hdigits d hd)

theorem strip_of_isHash {s : Text} (h : isHash s = true) : Text.strip s = s :=
  Text.strip_eq_self fun c hc => CodePoint.not_blank_of_isHexDigit (isHexDigit_of_isHash h c hc)

theorem isHash_of_readHash {what raw hash : Text} (h : readHash what raw = .ok hash) :
    isHash hash = true := by
  unfold readHash at h
  dsimp only at h
  split at h
  · rename_i hcandidate
    obtain rfl := Except.ok.inj h
    exact isHash_lowerAscii hcandidate
  · cases h

theorem readHash_of_isHash {what hash : Text} (h : isHash hash = true) :
    readHash what hash = .ok (Text.lowerAscii hash) := by
  rw [readHash, strip_of_isHash h]
  exact if_pos h

theorem checkedParams_block {hash : Text} (h : isHash hash = true) :
    checkedParams Method.block.name [.value (.str hash)] =
      .ok [.str (Text.lowerAscii hash)] :=
  checkedParams_eq_ok_iff.mpr (.block (readHash_of_isHash h))

theorem checkedParams_output (p : OutputPointer) :
    checkedParams Method.output.name [.pointer p] = .ok [.str p.text] :=
  checkedParams_eq_ok_iff.mpr .pointer

end NodeClient
