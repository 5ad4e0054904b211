import NodeClient.CommandLine.Invocation
import NodeClient.Proofs.Number.Digits
import NodeClient.Proofs.Outcome

/-! What a command line that is accepted asks for: its integers were read from words, so they have
no more digits than integers may have. -/

namespace NodeClient

/-- The integers of a command have few enough digits. -/
def Command.WithinDigits : Command → Prop
  | .blockChain epoch limit =>
    (∀ n, epoch = some n → NodeClient.WithinDigits n) ∧
      ∀ n, limit = some n → NodeClient.WithinDigits n
  | _ => True

namespace CommandLine

theorem withinDigits_commandOf? {m : Method} {operands : List Text} {command : Command}
    (h : commandOf? m operands = some command) : command.WithinDigits := by
  have hnone {n : Int} (hn : none = some n) : NodeClient.WithinDigits n := by cases hn
  unfold commandOf? at h
  split at h <;> cases h
  · exact ⟨fun _ => hnone, fun _ => hnone⟩
  · exact ⟨fun _ hn => Numeral.withinDigits_of_integer? hn, fun _ => hnone⟩
  · exact ⟨fun _ hn => Numeral.withinDigits_of_integer? hn,
      fun _ hn => Numeral.withinDigits_of_integer? hn⟩
  all_goals trivial

theorem withinDigits_readCommand {name : Text} {words : List Text} {command : Command}
    (h : readCommand name words = .ok command) : command.WithinDigits := by
  unfold readCommand at h
  split at h
  · obtain ⟨_, -, h⟩ := bind_eq_ok.mp h
    obtain rfl := pure_eq_ok.mp h
    trivial
  · split at h
    · cases h
    · obtain ⟨operands, -, h⟩ := bind_eq_ok.mp h
      split at h
      · rename_i hcommand
        obtain rfl := pure_eq_ok.mp h
        exact withinDigits_commandOf? hcommand
      · cases h

theorem withinDigits_readMain {o : Options} {awaiting : Option Switch} {strange : Bool}
    {words : List Text} {i : Invocation} (h : readMain o awaiting strange words = .ok i) :
    i.command.WithinDigits := by
  induction words generalizing o awaiting strange with
  | nil => cases h
  | cons w rest ih =>
    unfold readMain at h
    split at h
    · exact ih h
    · cases h
    · obtain ⟨command, hcommand, h⟩ := bind_eq_ok.mp h
      split at h
      · cases h
      · obtain rfl := pure_eq_ok.mp h
        exact withinDigits_readCommand hcommand
    · cases h
    · cases h
    · exact ih h
    · split at h
      · exact ih h
      · exact ih h
      · split at h
        · cases h
        · split at h
          · cases h
          · exact ih h

theorem withinDigits_of_read {words : List Text} {i : Invocation} (h : read words = .ok i) :
    i.command.WithinDigits := by
  unfold read at h
  split at h
  · cases h
  · exact withinDigits_readMain h

end CommandLine

end NodeClient
