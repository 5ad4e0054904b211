import NodeClient.Shape
import NodeClient.Proofs.Json.Legible
import NodeClient.Proofs.Json.Plain

/-! A result that is shown as JSON loses nothing: its text is ASCII and reads back as the result. -/

namespace NodeClient

namespace Shape

/-- Every method leaves the results that it has no shape for as they are. -/
theorem eq_of_interpret {command : Text} {v w : Json.Value}
    (h : interpret command v = .passThrough w) : w = v := by
  unfold interpret at h
  split at h
  · unfold ofBlockChain at h
    split at h
    · split at h
      · cases h
      · exact (Shape.passThrough.inj h).symm
    · exact (Shape.passThrough.inj h).symm
  · unfold ofSyncStatus at h
    split at h
    · exact (Shape.passThrough.inj h).symm
    · cases h
  · unfold ofInventory at h
    split at h
    · cases h
    · exact (Shape.passThrough.inj h).symm
  · exact (Shape.passThrough.inj h).symm

end Shape

theorem renderResult_of_passThrough {command : Text} {v w : Json.Value}
    (h : Shape.interpret command v = .passThrough w) :
    renderResult command v false = v.indented := by
  obtain rfl := Shape.eq_of_interpret h
  rw [renderResult, if_neg (by decide), h, Shape.render]

theorem renderResult_reads_back {text : Text} {v : Json.Value} (htext : text.hasSurrogate = false)
    (hread : Json.read text = .ok v) (hv : v.Fractionless) (command : Text) :
    ((∀ c ∈ renderResult command v true, c.isAscii = true) ∧
      Json.read (renderResult command v true) = .ok v) ∧
    ∀ w, Shape.interpret command v = .passThrough w →
      (∀ c ∈ renderResult command v false, c.isAscii = true) ∧
        Json.read (renderResult command v false) = .ok v := by
  have hportable : v.Portable := (Json.legible_of_read hread htext).portable hv
  have hascii : ∀ c ∈ v.indented, c.isAscii = true := fun _ => Json.Value.isAscii_of_mem_indented
  have hback : Json.read v.indented = .ok v := hportable.read_write Json.spaced_indentedLayout
  refine ⟨⟨hascii, hback⟩, fun w hw => ?_⟩
  rw [renderResult_of_passThrough hw]
  exact ⟨hascii, hback⟩

/-- A repeated key, a pair of escaped halves behind a lone one, and collections in collections. -/
theorem renderResult_reads_back_nested :
    let text : Text :=
      "\x7b\"b\": 1.5, \"a\": [[], -0, \"\\ud800\\ud83d\\ude00\\n\"], \"b\": \x7b\"\\u00e9\": \x7b\x7d\x7d\x7d"
    let v : Json.Value :=
      .obj [("b", .obj [([⟨0xE9, by decide⟩], .obj [])]),
        ("a", .arr [.arr [], .int 0,
          .str [⟨0xD800, by decide⟩, ⟨0x1F600, by decide⟩, CodePoint.newline]])]
    Json.read text = .ok v ∧ Json.read (renderResult "getBlockChain" v true) = .ok v ∧
      Json.read (renderResult "getBlockChain" v false) = .ok v := by
  intro text v
  have hread : Json.read text = .ok v := by decide +kernel
  have hv : v.Fractionless := by
    refine .obj (List.forall_mem_cons.mpr ⟨.obj (List.forall_mem_singleton.mpr (.obj (by simp))),
      List.forall_mem_singleton.mpr (.arr ?_)⟩)
    simp only [List.forall_mem_cons]
    exact ⟨.arr (by simp), .int 0, .str _, by simp⟩
  obtain ⟨⟨-, hback⟩, hother⟩ :=
    renderResult_reads_back (by decide +kernel) hread hv "getBlockChain"
  have hshape : Shape.interpret "getBlockChain" v = .passThrough v := by
    have hmethod : Method.ofName? "getBlockChain" = some .blockChain := by decide
    rw [Shape.interpret, hmethod]
    rfl
  exact ⟨hread, hback, (hother v hshape).2⟩

end NodeClient
