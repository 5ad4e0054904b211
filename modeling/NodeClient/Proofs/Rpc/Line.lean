import NodeClient.Proofs.Json.Written
import NodeClient.Proofs.Link.Flow
import NodeClient.Proofs.Rpc.Params

/-! The line of a request: printable ASCII on one line, which reads back as the request. -/

namespace NodeClient

/-- The bytes of ASCII text. -/
def Text.asciiBytes (s : Text) : Bytes := s.map fun c => UInt8.ofNat c.val

theorem wireBytes_of_plain {line : Text} (h : line.Plain) :
    wireBytes line = line.asciiBytes ++ [0x0A] := by
  have hone {c : CodePoint} (hc : c.IsPlain) :
      Utf8.encodeCodePoint c = [UInt8.ofNat c.val] := if_pos (Nat.lt_of_lt_of_le hc.2 (by decide))
  rw [wireBytes, Text.asciiBytes]
  congr 1
  induction line with
  | nil => rfl
  | cons c line ih =>
    obtain ⟨hc, hline⟩ := Text.plain_cons.mp h
    rw [List.flatMap_cons, hone hc, ih hline, List.map_cons, List.singleton_append]

theorem newline_notMem_asciiBytes {line : Text} (h : line.Plain) : 0x0A ∉ line.asciiBytes := by
  intro hmem
  obtain ⟨c, hc, hbyte⟩ := List.mem_map.mp hmem
  obtain ⟨hlow, hhigh⟩ := h c hc
  have hval := congrArg UInt8.toNat hbyte
  rw [UInt8.toNat_ofNat', Nat.mod_eq_of_lt (by omega)] at hval
  have hnewline : c.val = 0x0A := hval
  omega

namespace Request

/-- The line of a request, whether or not its integers are short enough to be written. -/
def text (r : Request) : Text := r.toValue.compact

theorem line_eq_text {r : Request} (h : r.toValue.writable = true) : r.line = .ok r.text := by
  simp [line, h, text]

theorem plain_text (r : Request) : r.text.Plain := Json.Value.plain_compact _

variable {id : Int} {method : Text} {params : List Json.Value}

theorem portable_toValue (hid : WithinDigits id) (hmethod : method.Unpaired)
    (hparams : ∀ v ∈ params, v.Portable) :
    (Request.mk id method (.arr params)).toValue.Portable := by
  have hkeys : (["jsonrpc", "method", "params", "id"] : List Text).Nodup := by decide
  refine .obj hkeys ?_ ?_
  · simp only [List.forall_mem_cons]
    exact ⟨by decide, by decide, by decide, by decide, by simp⟩
  · simp only [List.forall_mem_cons]
    exact ⟨.str (by decide), .str hmethod, .arr hparams, .int hid, by simp⟩

theorem line_reads_back (hid : WithinDigits id) (hmethod : method.Unpaired)
    (hparams : ∀ v ∈ params, v.Portable) :
    ∃ line, (Request.mk id method (.arr params)).line = .ok line ∧ line.Plain ∧
      frame? line = some (line.asciiBytes ++ [0x0A]) ∧ 0x0A ∉ line.asciiBytes ∧
      Json.read line = .ok (.obj [("jsonrpc", .str "2.0"), ("method", .str method),
        ("params", .arr params), ("id", .int id)]) := by
  have hportable := portable_toValue hid hmethod hparams
  have hplain := plain_text ⟨id, method, .arr params⟩
  refine ⟨_, line_eq_text hportable.writable, hplain, ?_, newline_notMem_asciiBytes hplain,
    hportable.read_write Json.spaced_compactLayout⟩
  rw [frame?_of_plain hplain, wireBytes_of_plain hplain]

theorem line_reads_back_escapes :
    let smile : CodePoint := ⟨0x1F600, by decide⟩
    let lone : CodePoint := ⟨0xD800, by decide⟩
    let params : List Json.Value := [.int (-3), .str ("a \"b\" \\\n" ++ [lone, smile]),
      .obj [("b", .arr [.null, .bool true]), ([smile], .obj [])]]
    ∃ line, (Request.mk 7 [lone] (.arr params)).line = .ok line ∧ line.Plain ∧
      frame? line = some (line.asciiBytes ++ [0x0A]) ∧ 0x0A ∉ line.asciiBytes ∧
      Json.read line = .ok (.obj [("jsonrpc", .str "2.0"), ("method", .str [lone]),
        ("params", .arr params), ("id", .int 7)]) := by
  intro smile lone params
  refine line_reads_back (.of_lt (by decide)) (by decide) ?_
  simp only [params, List.forall_mem_cons]
  refine ⟨.int (.of_lt (by decide)), .str (by decide), .obj (by decide) (by decide) ?_, by simp⟩
  simp only [List.forall_mem_cons]
  exact ⟨.arr (by simp [Json.Value.Portable.null, Json.Value.Portable.bool]),
    .obj (by decide) (by simp) (by simp), by simp⟩

end Request

end NodeClient
