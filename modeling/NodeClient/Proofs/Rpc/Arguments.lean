import NodeClient.Proofs.Outcome
import NodeClient.Rpc.Method

/-! The arguments that each method takes, and the parameters that they become. -/

namespace NodeClient

theorem checkLimit_some {n : Int} (h : Epoch.checkLimit (some n) = .ok ()) : 1 ≤ n := by
  rw [Epoch.checkLimit] at h
  split at h
  · cases h
  · omega

namespace Method

/-! Names -/

theorem ofName?_name (m : Method) : ofName? m.name = some m := by
  cases m <;> decide

theorem name_of_ofName? {command : Text} {m : Method} (h : ofName? command = some m) :
    m.name = command := by
  rw [ofName?] at h
  have hfound := List.find?_some h
  exact of_decide_eq_true hfound

theorem name_injective {m m' : Method} (h : m.name = m'.name) : m = m' := by
  have hsame := m.ofName?_name
  rw [h, m'.ofName?_name] at hsame
  exact (Option.some.inj hsame).symm

theorem ofName?_eq_none_iff {command : Text} :
    ofName? command = none ↔ ∀ m : Method, m.name ≠ command := by
  have hall (m : Method) : m ∈ all := by cases m <;> decide
  simp only [ofName?, List.find?_eq_none, decide_eq_true_eq]
  exact ⟨fun h m => h m (hall m), fun h m _ => h m⟩

/-! Arguments -/

inductive Takes : Method → List Argument → List Json.Value → Prop where
  | wholeChain : Takes .blockChain [] []
  | range {r : EpochRange} (hcount : Epoch.checkLimit r.count = .ok ()) :
      Takes .blockChain [.range r] r.params
  | chainFrom {start : Int} (hstart : 0 ≤ start) :
      Takes .blockChain [.value (.int start)] [.int start]
  | chainRange {start count : Int} (hstart : 0 ≤ start) (hcount : 1 ≤ count) :
      Takes .blockChain [.value (.int start), .value (.int count)] [.int start, .int count]
  | block {raw hash : Text} (hhash : readHash "block hash" raw = .ok hash) :
      Takes .block [.value (.str raw)] [.str hash]
  | spelled {raw : Text} {p : OutputPointer} (hpointer : OutputPointer.read raw = .ok p) :
      Takes .output [.value (.str raw)] [.str p.text]
  | pointer {p : OutputPointer} : Takes .output [.pointer p] [.str p.text]
  | syncStatus : Takes .syncStatus [] []
  | inventory {kind : Text} {item : Json.Value} (hkind : kind = "block" ∨ kind = "transaction") :
      Takes .inventory [.value (.obj [(kind, item)])] [.obj [(kind, item)]]

variable {m : Method} {args : List Argument} {params : List Json.Value}

theorem resolvedNumber_eq_ok_iff {name : Text} {a : Argument} {n : Int} :
    resolvedNumber name a = .ok n ↔ a = .value (.int n) ∧ 0 ≤ n := by
  constructor
  · intro h
    unfold resolvedNumber at h
    split at h
    · split at h
      · cases h
      · obtain rfl := Except.ok.inj h
        exact ⟨rfl, by omega⟩
    · cases h
  · rintro ⟨rfl, hn⟩
    exact if_neg (Int.not_lt.mpr hn)

theorem mem_inventoryKinds {kind : Text} :
    inventoryKinds.contains kind = true ↔ kind = "block" ∨ kind = "transaction" := by
  simp [inventoryKinds]

theorem takes_blockChain (h : blockChainParams args = .ok params) :
    Takes .blockChain args params := by
  unfold blockChainParams at h
  split at h
  · obtain rfl := Except.ok.inj h
    exact .wholeChain
  · obtain ⟨_, hcount, hparams⟩ := bind_eq_ok.mp h
    obtain rfl := pure_eq_ok.mp hparams
    exact .range hcount
  · obtain ⟨start, hepoch, hparams⟩ := bind_eq_ok.mp h
    obtain rfl := pure_eq_ok.mp hparams
    obtain ⟨rfl, hstart⟩ := resolvedNumber_eq_ok_iff.mp hepoch
    exact .chainFrom hstart
  · obtain ⟨start, hepoch, h⟩ := bind_eq_ok.mp h
    obtain ⟨count, hlimit, h⟩ := bind_eq_ok.mp h
    obtain ⟨_, hcount, hparams⟩ := bind_eq_ok.mp h
    obtain rfl := pure_eq_ok.mp hparams
    obtain ⟨rfl, hstart⟩ := resolvedNumber_eq_ok_iff.mp hepoch
    obtain ⟨rfl, -⟩ := resolvedNumber_eq_ok_iff.mp hlimit
    exact .chainRange hstart (checkLimit_some hcount)
  · cases h

theorem takes_block (h : blockParams args = .ok params) : Takes .block args params := by
  unfold blockParams at h
  split at h
  · obtain ⟨hash, hhash, hparams⟩ := bind_eq_ok.mp h
    obtain rfl := pure_eq_ok.mp hparams
    exact .block hhash
  · cases h
  · cases h

theorem takes_output (h : outputParams args = .ok params) : Takes .output args params := by
  unfold outputParams at h
  split at h
  · obtain ⟨p, hpointer, hparams⟩ := bind_eq_ok.mp h
    obtain rfl := pure_eq_ok.mp hparams
    exact .spelled hpointer
  · obtain rfl := Except.ok.inj h
    exact .pointer
  · cases h
  · cases h

theorem takes_syncStatus (h : syncStatusParams args = .ok params) :
    Takes .syncStatus args params := by
  unfold syncStatusParams at h
  split at h
  · obtain rfl := Except.ok.inj h
    exact .syncStatus
  · cases h

theorem takes_inventory (h : inventoryParams args = .ok params) : Takes .inventory args params := by
  unfold inventoryParams at h
  split at h
  · split at h
    · obtain rfl := Except.ok.inj h
      exact .inventory (mem_inventoryKinds.mp ‹_›)
    · cases h
  · cases h
  · cases h

theorem params_eq_ok_iff : m.params args = .ok params ↔ m.Takes args params := by
  constructor
  · intro h
    cases m with
    | blockChain => exact takes_blockChain (mapError_eq_ok.mp h)
    | block => exact takes_block (mapError_eq_ok.mp h)
    | output => exact takes_output h
    | syncStatus => exact takes_syncStatus (mapError_eq_ok.mp h)
    | inventory => exact takes_inventory (mapError_eq_ok.mp h)
  · intro h
    cases h with
    | wholeChain | syncStatus | pointer => rfl
    | range hcount => exact mapError_eq_ok.mpr (bind_eq_ok.mpr ⟨(), hcount, rfl⟩)
    | chainFrom hstart =>
      exact mapError_eq_ok.mpr
        (bind_eq_ok.mpr ⟨_, resolvedNumber_eq_ok_iff.mpr ⟨rfl, hstart⟩, rfl⟩)
    | @chainRange start count hstart hcount =>
      have hepoch : resolvedNumber "epoch" (.value (.int start)) = .ok start :=
        resolvedNumber_eq_ok_iff.mpr ⟨rfl, hstart⟩
      have hlimit : resolvedNumber "limit" (.value (.int count)) = .ok count :=
        resolvedNumber_eq_ok_iff.mpr ⟨rfl, by omega⟩
      have hcheck : Epoch.checkLimit (some count) = .ok () := if_neg (by omega)
      exact mapError_eq_ok.mpr (bind_eq_ok.mpr ⟨_, hepoch, bind_eq_ok.mpr ⟨_, hlimit,
        bind_eq_ok.mpr ⟨(), hcheck, rfl⟩⟩⟩)
    | block hhash => exact mapError_eq_ok.mpr (bind_eq_ok.mpr ⟨_, hhash, rfl⟩)
    | spelled hpointer => exact bind_eq_ok.mpr ⟨_, hpointer, rfl⟩
    | inventory hkind => exact mapError_eq_ok.mpr (if_pos (mem_inventoryKinds.mpr hkind))

end Method

theorem checkedParams_eq_ok_iff {m : Method} {args : List Argument} {params : List Json.Value} :
    checkedParams m.name args = .ok params ↔ m.Takes args params := by
  rw [checkedParams, m.ofName?_name]
  exact Method.params_eq_ok_iff

theorem exists_takes {command : Text} {args : List Argument} {params : List Json.Value}
    (h : checkedParams command args = .ok params) :
    ∃ m : Method, m.name = command ∧ m.Takes args params := by
  unfold checkedParams at h
  split at h
  · cases h
  · exact ⟨_, Method.name_of_ofName? ‹_›, Method.params_eq_ok_iff.mp h⟩

theorem checkedParams_unknown {command : Text} (h : ∀ m : Method, m.name ≠ command)
    (args : List Argument) :
    checkedParams command args = .error (.failed (.arguments (.unknownCommand command))) := by
  rw [checkedParams, Method.ofName?_eq_none_iff.mpr h]

end NodeClient
