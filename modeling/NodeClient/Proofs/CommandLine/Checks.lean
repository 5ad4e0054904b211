import NodeClient.Proofs.Chain.Spelling
import NodeClient.Proofs.CommandLine.Open

/-! The local checks of a command, and the question that is left to ask the node when they pass. -/

namespace NodeClient

/-- What a command asks the node once its operands are checked. -/
inductive Question where
  | blockChain (epoch limit : Option Int)
  | block (hash : Text)
  | output (pointer : OutputPointer)
  | syncStatus
  | inventory (item : Argument)

namespace Question

def method : Question → Method
  | .blockChain .. => .blockChain
  | .block _ => .block
  | .output _ => .output
  | .syncStatus => .syncStatus
  | .inventory _ => .inventory

def ask (cl : Client) : Question → Outcome Json.Value × Client
  | .blockChain epoch limit => cl.blockChain epoch limit
  | .block hash => cl.block hash
  | .output pointer => cl.output (.pointer pointer)
  | .syncStatus => cl.syncStatus
  | .inventory item => cl.inventory item

end Question

namespace Invocation

/-- The question of a command, none for a raw session. -/
def checked (s : Surroundings) : Command → Outcome (Option Question)
  | .raw => .ok none
  | .blockChain epoch limit =>
    (Method.orArguments (Epoch.checkLimit limit)).map fun _ => some (.blockChain epoch limit)
  | .block raw =>
    (Method.orArguments (readHash "block hash" raw)).map fun hash => some (.block hash)
  | .output raw => (OutputPointer.read raw).map fun pointer => some (.output pointer)
  | .syncStatus => .ok (some .syncStatus)
  | .inventory raw => (checkedItem s raw).map fun item => some (.inventory item)

theorem perform_eq (w : World) (i : Invocation) :
    perform w i =
      match checked w.surroundings i.command with
      | .error stop => stopped stop
      | .ok none => performRaw w i.options
      | .ok (some q) => query w i.options q.method fun cl => q.ask cl := by
  unfold perform withChecked
  cases i.command with
  | raw => rfl
  | syncStatus => rfl
  | blockChain epoch limit =>
    dsimp only [checked]
    cases Method.orArguments (Epoch.checkLimit limit) <;> rfl
  | block raw =>
    dsimp only [checked]
    cases Method.orArguments (readHash "block hash" raw) <;> rfl
  | output raw =>
    dsimp only [checked]
    cases OutputPointer.read raw <;> rfl
  | inventory raw =>
    dsimp only [checked]
    cases checkedItem w.surroundings raw <;> rfl

/-- A command whose local checks pass, and the question that they leave. -/
inductive Checked (s : Surroundings) : Command → Option Question → Prop where
  | raw : Checked s .raw none
  | blockChain {epoch limit : Option Int} (h : Epoch.checkLimit limit = .ok ()) :
      Checked s (.blockChain epoch limit) (some (.blockChain epoch limit))
  | block {raw hash : Text} (h : readHash "block hash" raw = .ok hash) :
      Checked s (.block raw) (some (.block hash))
  | output {raw : Text} {pointer : OutputPointer} (h : OutputPointer.read raw = .ok pointer) :
      Checked s (.output raw) (some (.output pointer))
  | syncStatus : Checked s .syncStatus (some .syncStatus)
  | inventory {raw : Text} {item : Argument} (h : checkedItem s raw = .ok item) :
      Checked s (.inventory raw) (some (.inventory item))

theorem checked_eq_ok {s : Surroundings} {command : Command} {question : Option Question} :
    checked s command = .ok question ↔ Checked s command question := by
  constructor
  · intro h
    cases command with
    | raw =>
      cases h
      exact .raw
    | syncStatus =>
      cases h
      exact .syncStatus
    | blockChain epoch limit =>
      obtain ⟨_, hlimit, rfl⟩ := map_eq_ok.mp h
      exact .blockChain (mapError_eq_ok.mp hlimit)
    | block raw =>
      obtain ⟨hash, hread, rfl⟩ := map_eq_ok.mp h
      exact .block (mapError_eq_ok.mp hread)
    | output raw =>
      obtain ⟨pointer, hread, rfl⟩ := map_eq_ok.mp h
      exact .output hread
    | inventory raw =>
      obtain ⟨item, hitem, rfl⟩ := map_eq_ok.mp h
      exact .inventory hitem
  · intro h
    cases h with
    | raw => rfl
    | syncStatus => rfl
    | blockChain h => exact map_eq_ok.mpr ⟨(), mapError_eq_ok.mpr h, rfl⟩
    | block h => exact map_eq_ok.mpr ⟨_, mapError_eq_ok.mpr h, rfl⟩
    | output h => exact map_eq_ok.mpr ⟨_, h, rfl⟩
    | inventory h => exact map_eq_ok.mpr ⟨_, h, rfl⟩

/-- The mark before the name of a file that holds an item. -/
def fileMark : CodePoint := CodePoint.ofChar '@'

/-- What breaks the local checks of a command. -/
inductive CheckBreaks (s : Surroundings) : Command → Breakdown → Prop where
  | index {raw hex digits : Text}
      (hsplit : Text.splitFirst (CodePoint.ofChar ':') (Text.strip raw) = (hex, some digits))
      (hhex : isHash hex = true) (hdigits : digits.all CodePoint.isDigit = true)
      (hlong : maxDigits < digits.length) : CheckBreaks s (.output raw) .longInteger
  | home {name : Text} {b : Breakdown} (h : (Path.read name).ExpandBreaks s.homes b) :
      CheckBreaks s (.inventory (fileMark :: name)) b
  | path {name : Text} {path : Path} {fault : FileFault}
      (hpath : (Path.read name).expand s.homes = .ok path)
      (h : s.files.bytes path = .error fault) (hfault : fault = .nul ∨ fault = .unencodable) :
      CheckBreaks s (.inventory (fileMark :: name)) fault.breakdown
  | undecodable {name : Text} {path : Path} {bytes : Bytes}
      (hpath : (Path.read name).expand s.homes = .ok path) (h : s.files.bytes path = .ok bytes)
      (hbytes : Utf8.decode? bytes = none) :
      CheckBreaks s (.inventory (fileMark :: name)) .undecodable
  | item {raw text : Text} (htext : itemText s raw = .ok text)
      (h : Json.read text = .error .longInteger) : CheckBreaks s (.inventory raw) .longInteger

theorem orArguments_ne_broke {α : Type} {result : Except ArgumentFault α} {b : Breakdown} :
    Method.orArguments result ≠ .error (.broke b) := by
  intro h
  obtain ⟨fault, -, hfault⟩ := mapError_eq_error.mp h
  cases hfault

theorem readPointer_broke_iff {s : Surroundings} {raw : Text} {b : Breakdown} :
    OutputPointer.read raw = .error (.broke b) ↔ CheckBreaks s (.output raw) b := by
  constructor
  · intro h
    have hreading := OutputPointer.reading raw
    rw [h] at hreading
    cases hreading with
    | long hspells hlong =>
      exact .index hspells.splitFirst_eq (OutputPointer.isHash_iff.mpr hspells.transaction)
        (List.all_eq_true.mpr hspells.index.2) hlong
  · rintro ⟨hsplit, hhex, hdigits, hlong⟩
    rename_i hex digits
    have hfull : digits ≠ [] := List.ne_nil_of_length_pos (Nat.zero_lt_of_lt hlong)
    have hspells : OutputPointer.Spells hex digits (Text.strip raw) :=
      ⟨Text.eq_append_of_splitFirst hsplit, OutputPointer.isHash_iff.mp hhex, hfull,
        List.all_eq_true.mp hdigits⟩
    exact hspells.read_long hlong

theorem breakdown_of_cause?_eq_none {fault : FileFault} (h : fault.cause? = none) :
    fault = .nul ∨ fault = .unencodable := by
  cases fault with
  | nul => exact .inl rfl
  | unencodable => exact .inr rfl
  | _ => cases h

/-- Only an item that names a file has a text that can break. -/
theorem itemText_error {s : Surroundings} {raw : Text} {b : Breakdown}
    (h : itemText s raw = .error (.broke b)) : CheckBreaks s (.inventory raw) b := by
  unfold itemText at h
  split at h
  · cases h
  · rename_i c name
    split at h
    · cases h
    · rename_i hmark
      obtain rfl : c = fileMark := by simpa [fileMark] using hmark
      split at h
      · rename_i stop hexpand
        cases h
        obtain ⟨_, ⟨⟩, hbreaks⟩ := Path.expand_error_iff.mp hexpand
        exact .home hbreaks
      · rename_i path hexpand
        split at h
        · rename_i bytes hbytes
          obtain ⟨hnone, hb⟩ := Config.fileText_error h
          cases hb
          exact .undecodable hexpand hbytes hnone
        · rename_i fault hfault
          split at h
          · rename_i hcause
            cases h
            exact .path hexpand hfault (breakdown_of_cause?_eq_none hcause)
          · cases h

theorem readItem_broke_iff {text : Text} {b : Breakdown} :
    readItem text = .error (.broke b) ↔
      Json.read text = .error .longInteger ∧ b = .longInteger := by
  unfold readItem
  cases hread : Json.read text with
  | ok v => simp
  | error fault =>
    cases fault with
    | longInteger =>
      constructor
      · rintro ⟨⟩
        exact ⟨rfl, rfl⟩
      · rintro ⟨-, rfl⟩
        rfl
    | malformed => simp

theorem checkedItem_broke_iff {s : Surroundings} {raw : Text} {b : Breakdown} :
    checkedItem s raw = .error (.broke b) ↔ CheckBreaks s (.inventory raw) b := by
  unfold checkedItem
  constructor
  · intro h
    rcases bind_eq_error.mp h with h | ⟨text, htext, h⟩
    · exact itemText_error h
    rcases bind_eq_error.mp h with h | ⟨v, -, h⟩
    · obtain ⟨hread, rfl⟩ := readItem_broke_iff.mp h
      exact .item htext hread
    rcases bind_eq_error.mp h with h | ⟨_, -, h⟩
    · exact absurd h orArguments_ne_broke
    · cases h
  · intro h
    -- a file that cannot be read breaks the text of the item, a long integer its value
    refine bind_eq_error.mpr ?_
    cases h with
    | home h =>
      refine .inl ?_
      simp [itemText, fileMark, Path.expand_error_iff.mpr ⟨b, rfl, h⟩]
    | path hpath h hfault =>
      refine .inl ?_
      rcases hfault with rfl | rfl <;> simp [itemText, fileMark, hpath, h, FileFault.cause?]
    | undecodable hpath h hbytes =>
      refine .inl ?_
      simp [itemText, fileMark, hpath, h, fileText, hbytes]
    | item htext h =>
      exact .inr ⟨_, htext, bind_eq_error.mpr (.inl (readItem_broke_iff.mpr ⟨h, rfl⟩))⟩

theorem checked_broke_iff {s : Surroundings} {command : Command} {b : Breakdown} :
    checked s command = .error (.broke b) ↔ CheckBreaks s command b := by
  cases command with
  | raw =>
    apply iff_of_false
    · intro h
      cases h
    · rintro ⟨⟩
  | syncStatus =>
    apply iff_of_false
    · intro h
      cases h
    · rintro ⟨⟩
  | blockChain epoch limit =>
    apply iff_of_false
    · intro h
      exact orArguments_ne_broke (map_eq_error.mp h)
    · rintro ⟨⟩
  | block raw =>
    apply iff_of_false
    · intro h
      exact orArguments_ne_broke (map_eq_error.mp h)
    · rintro ⟨⟩
  | output raw => exact map_eq_error.trans readPointer_broke_iff
  | inventory raw => exact map_eq_error.trans checkedItem_broke_iff

end Invocation

end NodeClient
