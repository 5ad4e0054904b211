import NodeClient.Proofs.Json.Digits
import NodeClient.Proofs.Rpc.Arguments
import NodeClient.Rpc.Request

/-! Parameters whose integers can be written, for arguments whose integers can. -/

namespace NodeClient

/-- Every integer of an argument has few enough digits to be written. -/
def Argument.WithinDigits : Argument → Prop
  | .value v => v.writable = true
  | .range r => (∀ n, r.start = some n → NodeClient.WithinDigits n) ∧
      ∀ n, r.count = some n → NodeClient.WithinDigits n
  | .pointer p => NodeClient.WithinDigits p.outputIndex

namespace Method

theorem writable_range_params {r : EpochRange} (h : (Argument.range r).WithinDigits) :
    Json.Value.writableItems r.params = true := by
  obtain ⟨hstart, hcount⟩ := h
  unfold EpochRange.params
  split
  · rfl
  · simp only [Json.Value.writableItems, Json.Value.writable_int.mpr (hstart _ ‹_›),
      Bool.and_self]
  · simp only [Json.Value.writableItems, Json.Value.writable_int.mpr (hstart _ ‹_›),
      Json.Value.writable_int.mpr (hcount _ ‹_›), Bool.and_self]

theorem Takes.writable {m : Method} {args : List Argument} {params : List Json.Value}
    (h : m.Takes args params) (hargs : ∀ a ∈ args, a.WithinDigits) :
    Json.Value.writableItems params = true := by
  cases h with
  | wholeChain | block | spelled | pointer | syncStatus => rfl
  | range => exact writable_range_params (hargs _ List.mem_cons_self)
  | chainFrom =>
    have hstart : (Json.Value.int _).writable = true := hargs _ List.mem_cons_self
    rw [Json.Value.writableItems, hstart]
    rfl
  | chainRange =>
    obtain ⟨hstart, hcount⟩ := List.forall_mem_cons.mp hargs
    have hstart : (Json.Value.int _).writable = true := hstart
    have hcount : (Json.Value.int _).writable = true := hcount _ List.mem_cons_self
    rw [Json.Value.writableItems, Json.Value.writableItems, hstart, hcount]
    rfl
  | inventory =>
    have hitem : (Json.Value.obj _).writable = true := hargs _ List.mem_cons_self
    rw [Json.Value.writableItems, hitem]
    rfl

end Method

theorem writable_checkedParams {command : Text} {args : List Argument}
    {params : List Json.Value} (hargs : ∀ a ∈ args, a.WithinDigits)
    (h : checkedParams command args = .ok params) :
    Json.Value.writableItems params = true := by
  obtain ⟨m, -, htakes⟩ := exists_takes h
  exact htakes.writable hargs

/-- A request can be written when its id and the integers of its parameters can. -/
theorem Request.writable_toValue {id : Int} {command : Text} {params : List Json.Value}
    (hid : WithinDigits id) (hparams : Json.Value.writableItems params = true) :
    (Request.mk id command (.arr params)).toValue.writable = true := by
  change (true && (true && (Json.Value.writableItems params &&
    ((Json.Value.int id).writable && true)))) = true
  rw [hparams, Json.Value.writable_int.mpr hid]
  rfl

end NodeClient
