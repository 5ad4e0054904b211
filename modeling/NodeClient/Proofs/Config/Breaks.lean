import NodeClient.Config.File
import NodeClient.Proofs.Number.Large
import NodeClient.Proofs.Outcome

/-! What breaks the reading of one setting, of an address and of a file. Everything else that is
wrong with them is a failure of the configuration. -/

namespace NodeClient

namespace Config

/-- What breaks a port: its integer is infinite, or an integer in it is too long for the message. -/
inductive PortBreaks : Datum → Breakdown → Prop where
  | infinite (negative : Bool) : PortBreaks (.float (.infinite negative)) .numberTooLarge
  | unwritable {raw : Datum} (h : raw.writable = false) : PortBreaks raw .longInteger

/-- What breaks a timeout: an integer that no floating-point number is near to, or one inside a
collection that is too long for the message. -/
inductive TimeoutBreaks : Datum → Breakdown → Prop where
  | tooLarge {n : Int} (h : Binary64.ofInt? n = none) : TimeoutBreaks (.int n) .numberTooLarge
  | unwritable {raw : Datum} (hother : ∀ n, raw ≠ .int n) (h : raw.writable = false) :
      TimeoutBreaks raw .longInteger

/-- What breaks an address: a URL whose authority cannot be taken apart, or data that is no text. -/
inductive AddressBreaks : Datum → Breakdown → Prop where
  | url {raw : Text} (hfull : raw ≠ []) (hurl : (Text.strip raw).includes "://" = true)
      (h : Url.read? (Text.strip raw) = none) : AddressBreaks (.text raw) .malformedUrl
  | bytes {b : Bytes} (hfull : b ≠ []) : AddressBreaks (.bytes b) .addressBytes
  | other {raw : Datum} (htext : ∀ s, raw ≠ .text s) (hbytes : ∀ b, raw ≠ .bytes b)
      (hfull : raw.isEmpty = false) : AddressBreaks raw .addressNotText

theorem refuse_ne_broke {α : Type} {fault : ConfigurationFault} {b : Breakdown} :
    (refuse fault : Outcome α) ≠ .error (.broke b) := by
  intro h
  cases h

theorem refuse_shown_broke_iff {α : Type} {raw : Datum} {fault : Text → ConfigurationFault}
    {b : Breakdown} :
    ((shown raw).bind fun text => refuse (fault text) : Outcome α) = .error (.broke b) ↔
      raw.writable = false ∧ b = .longInteger := by
  unfold shown
  cases raw.writable with
  | true =>
    apply iff_of_false
    · exact refuse_ne_broke
    · rintro ⟨⟨⟩, -⟩
  | false =>
    constructor
    · rintro ⟨⟩
      exact ⟨rfl, rfl⟩
    · rintro ⟨-, rfl⟩
      rfl

theorem integer?_error {raw : Datum} {stop : Stop} (h : integer? raw = .error stop) :
    (∃ negative, raw = .float (.infinite negative)) ∧ stop = .broke .numberTooLarge := by
  unfold integer? at h
  split at h <;> cases h
  exact ⟨⟨_, rfl⟩, rfl⟩

theorem integer?_some {raw : Datum} {n : Int} (h : integer? raw = .ok (some n)) :
    raw = .int n ∨ raw.writable = true := by
  cases raw with
  | int m =>
    cases h
    exact .inl rfl
  | bool | float | text | bytes => exact .inr rfl
  | _ => cases h

theorem writable_of_port {n : Int} (h : (0 < n && n < 65536) = true) :
    (Datum.int n).writable = true := by
  simp only [Bool.and_eq_true, decide_eq_true_eq] at h
  have hless : n.natAbs < Nat.pow 10 5 := Nat.lt_trans (show _ < 65536 by omega) (by decide)
  exact decide_eq_true (WithinDigits.of_lt_pow (show 5 ≤ maxDigits by decide) hless)

theorem portBreaks_iff {raw : Datum} (h : ∀ negative, raw ≠ .float (.infinite negative))
    {b : Breakdown} : PortBreaks raw b ↔ raw.writable = false ∧ b = .longInteger := by
  constructor
  · rintro (⟨negative⟩ | ⟨hraw⟩)
    · exact absurd rfl (h negative)
    · exact ⟨hraw, rfl⟩
  · rintro ⟨hraw, rfl⟩
    exact .unwritable hraw

theorem port_broke_iff {source : Text} {raw : Datum} {b : Breakdown} :
    port source raw = .error (.broke b) ↔ PortBreaks raw b := by
  unfold port
  split
  · apply iff_of_false
    · intro h
      cases h
    · rintro (_ | ⟨hraw⟩)
      cases hraw
  · cases hread : integer? raw with
    | error stop =>
      obtain ⟨⟨negative, rfl⟩, rfl⟩ := integer?_error hread
      constructor
      · rintro ⟨⟩
        exact .infinite negative
      · rintro (_ | ⟨⟨⟩⟩)
        rfl
    | ok n? =>
      -- an infinite port is out, so all that can still break is the message
      have hinfinite (negative : Bool) : raw ≠ .float (.infinite negative) := by
        rintro rfl
        cases hread
      rw [portBreaks_iff hinfinite]
      cases n? with
      | none => exact refuse_shown_broke_iff
      | some n =>
        dsimp only
        split
        · rename_i hrange
          apply iff_of_false
          · intro h
            cases h
          · rintro ⟨hraw, -⟩
            rcases integer?_some hread with rfl | hwritable
            -- a port in range is short, whatever it was read from
            · rw [writable_of_port hrange] at hraw
              cases hraw
            · rw [hwritable] at hraw
              cases hraw
        · exact refuse_shown_broke_iff

theorem number?_error {raw : Datum} {stop : Stop} (h : number? raw = .error stop) :
    (∃ n, raw = .int n ∧ Binary64.ofInt? n = none) ∧ stop = .broke .numberTooLarge := by
  unfold number? at h
  split at h
  · cases h
  · split at h
    · cases h
    · cases h
      exact ⟨⟨_, rfl, ‹_›⟩, rfl⟩
  all_goals cases h

theorem number?_some {raw : Datum} {x : Binary64} (h : number? raw = .ok (some x)) :
    raw.writable = true := by
  cases raw with
  | int n =>
    unfold number? at h
    dsimp only at h
    split at h
    · rename_i hn
      rw [Datum.writable, decide_eq_true_iff]
      refine Decidable.byContradiction fun hdigits => ?_
      rw [Binary64.ofInt?_eq_none hdigits] at hn
      cases hn
    · cases h
  | bool | float | text | bytes => rfl
  | _ => cases h

theorem timeout_broke_iff {source : Text} {raw : Datum} {b : Breakdown} :
    timeout source raw = .error (.broke b) ↔ TimeoutBreaks raw b := by
  unfold timeout
  split
  · apply iff_of_false
    · intro h
      cases h
    · rintro (_ | ⟨-, hraw⟩)
      cases hraw
  · cases hread : number? raw with
    | error stop =>
      obtain ⟨⟨n, rfl, hn⟩, rfl⟩ := number?_error hread
      constructor
      · rintro ⟨⟩
        exact .tooLarge hn
      · rintro (_ | ⟨hother, -⟩)
        · rfl
        · exact absurd rfl (hother n)
    | ok x? =>
      -- an integer that is too long for the message has no nearest number, and was out before
      have hsame : TimeoutBreaks raw b ↔ raw.writable = false ∧ b = .longInteger := by
        constructor
        · rintro (⟨hn⟩ | ⟨-, hraw⟩)
          · simp only [number?, hn] at hread
            cases hread
          · exact ⟨hraw, rfl⟩
        · rintro ⟨hraw, rfl⟩
          refine .unwritable (fun n hn => ?_) hraw
          subst hn
          rw [Datum.writable, decide_eq_false_iff_not] at hraw
          simp only [number?, Binary64.ofInt?_eq_none hraw] at hread
          cases hread
      rw [hsame]
      cases x? with
      | none => exact refuse_shown_broke_iff
      | some x =>
        dsimp only
        split
        · exact refuse_shown_broke_iff
        · apply iff_of_false
          · intro h
            cases h
          · rintro ⟨hraw, -⟩
            rw [number?_some hread] at hraw
            cases hraw

theorem readHostPort_ne_broke (raw : Text) (b : Breakdown) :
    Endpoint.readHostPort raw ≠ .error (.broke b) := by
  intro h
  unfold Endpoint.readHostPort at h
  split at h
  · split at h
    · rename_i stop hport
      cases h
      rcases port_broke_iff.mp hport with _ | ⟨hraw⟩
      cases hraw
    · cases h
  · exact refuse_ne_broke h

theorem readUrl_broke_iff {raw : Text} {b : Breakdown} :
    Endpoint.readUrl raw = .error (.broke b) ↔ Url.read? raw = none ∧ b = .malformedUrl := by
  unfold Endpoint.readUrl
  cases Url.read? raw with
  | none =>
    constructor
    · rintro ⟨⟩
      exact ⟨rfl, rfl⟩
    · rintro ⟨-, rfl⟩
      rfl
  | some url =>
    refine iff_of_false (fun h => ?_) fun h => nomatch h.1
    dsimp only at h
    split at h
    · split at h
      · cases h
      · exact refuse_ne_broke h
    · exact refuse_ne_broke h

theorem read_broke_iff {raw : Text} {b : Breakdown} :
    Endpoint.read raw = .error (.broke b) ↔ AddressBreaks (.text raw) b := by
  unfold Endpoint.read
  cases raw with
  | nil =>
    apply iff_of_false
    · intro h
      cases h
    · rintro (⟨hfull, -, -⟩ | _ | ⟨htext, -, -⟩)
      · exact hfull rfl
      · exact htext [] rfl
  | cons c s =>
    rw [if_neg (by simp)]
    dsimp only
    split
    · rename_i hurl
      rw [readUrl_broke_iff]
      constructor
      · rintro ⟨hnone, rfl⟩
        exact .url (by simp) hurl hnone
      · rintro (⟨-, -, hnone⟩ | _ | ⟨htext, -, -⟩)
        · exact ⟨hnone, rfl⟩
        · exact absurd rfl (htext (c :: s))
    · rename_i hurl
      apply iff_of_false
      · exact readHostPort_ne_broke _ b
      · rintro (⟨-, hurl', -⟩ | _ | ⟨htext, -, -⟩)
        · exact hurl hurl'
        · exact htext (c :: s) rfl

theorem endpoint_other {raw : Datum} (htext : ∀ s, raw ≠ .text s) (hbytes : ∀ x, raw ≠ .bytes x) :
    endpoint raw =
      if raw.isEmpty then .ok .absent else .error (.broke .addressNotText) := by
  cases raw with
  | text s => exact absurd rfl (htext s)
  | bytes x => exact absurd rfl (hbytes x)
  | _ => rfl

theorem endpoint_broke_iff {raw : Datum} {b : Breakdown} :
    endpoint raw = .error (.broke b) ↔ AddressBreaks raw b := by
  by_cases htext : ∃ s, raw = .text s
  · obtain ⟨s, rfl⟩ := htext
    exact read_broke_iff
  · have htext : ∀ s, raw ≠ .text s := fun s hs => htext ⟨s, hs⟩
    by_cases hbytes : ∃ x, raw = .bytes x
    · obtain ⟨x, rfl⟩ := hbytes
      unfold endpoint
      cases x with
      | nil =>
        apply iff_of_false
        · intro h
          cases h
        · rintro (_ | ⟨hfull⟩ | ⟨-, hbytes, -⟩)
          · exact hfull rfl
          · exact hbytes [] rfl
      | cons byte rest =>
        constructor
        · rintro ⟨⟩
          exact .bytes (by simp)
        · rintro (_ | _ | ⟨-, hbytes, -⟩)
          · rfl
          · exact absurd rfl (hbytes (byte :: rest))
    · have hbytes : ∀ x, raw ≠ .bytes x := fun x hx => hbytes ⟨x, hx⟩
      rw [endpoint_other htext hbytes]
      cases hempty : raw.isEmpty with
      | true =>
        apply iff_of_false
        · intro h
          cases h
        · rintro (⟨-, -, -⟩ | ⟨-⟩ | ⟨-, -, hfull⟩)
          · exact htext _ rfl
          · exact hbytes _ rfl
          · rw [hempty] at hfull
            cases hfull
      | false =>
        constructor
        · rintro ⟨⟩
          exact .other htext hbytes hempty
        · rintro (⟨-, -, -⟩ | ⟨-⟩ | ⟨-, -, -⟩)
          · exact absurd rfl (htext _)
          · exact absurd rfl (hbytes _)
          · rfl

/-- What breaks the reading of the configuration file: a path that leads to something that is no
file or that may not be read, bytes that are no text, or text on which the YAML reader breaks. -/
inductive FileBreaks (t : FileTree) (path : Path) : Breakdown → Prop where
  | unreadable {fault : FileFault} (h : t.bytes path = .error fault)
      (hfault : fault = .isDirectory ∨ fault = .nameTooLong ∨ fault = .denied) : FileBreaks t path fault.breakdown
  | undecodable {bytes : Bytes} (h : t.bytes path = .ok bytes)
      (hbytes : Utf8.decode? bytes = none) : FileBreaks t path .undecodable
  | yaml {bytes : Bytes} {text : Text} {b : Breakdown} (h : t.bytes path = .ok bytes)
      (htext : fileText bytes = .ok text) (hread : Yaml.Document.read? text = .error (.broke b)) :
      FileBreaks t path b

theorem documentSettings_ne_broke (path : Text) (d : Yaml.Document) (b : Breakdown) :
    documentSettings path d ≠ .error (.broke b) := by
  intro h
  unfold documentSettings at h
  split at h
  · cases h
  · split at h
    · exact refuse_ne_broke h
    · split at h
      · cases h
      · unfold nodeSettings at h
        split at h
        · cases h
        · split at h
          · cases h
          · exact refuse_ne_broke h

theorem textSettings_broke_iff {path text : Text} {b : Breakdown} :
    textSettings path text = .error (.broke b) ↔
      Yaml.Document.read? text = .error (.broke b) := by
  unfold textSettings
  cases Yaml.Document.read? text with
  | error stop => cases stop <;> simp [yamlStop]
  | ok d? =>
    refine iff_of_false ?_ (fun h => by cases h)
    cases d? with
    | none => rintro ⟨⟩
    | some d => exact documentSettings_ne_broke path d b

theorem fileText_error {bytes : Bytes} {stop : Stop} (h : fileText bytes = .error stop) :
    Utf8.decode? bytes = none ∧ stop = .broke .undecodable := by
  unfold fileText at h
  split at h
  · cases h
  · cases h
    exact ⟨‹_›, rfl⟩

theorem isMissing_eq_false {fault : FileFault} :
    isMissing fault = false ↔
      fault = .isDirectory ∨ fault = .nameTooLong ∨ fault = .denied := by
  cases fault <;> decide

theorem fileSettings_broke_iff {t : FileTree} {path : Path} {required : Bool} {b : Breakdown} :
    fileSettings t path required = .error (.broke b) ↔ FileBreaks t path b := by
  unfold fileSettings
  constructor
  · intro h
    split at h
    · rename_i bytes hbytes
      split at h
      · rename_i stop htext
        obtain ⟨hnone, rfl⟩ := fileText_error htext
        cases h
        exact .undecodable hbytes hnone
      · rename_i text htext
        exact .yaml hbytes htext (textSettings_broke_iff.mp h)
    · rename_i fault hfault
      split at h
      · rename_i hmissing
        cases h
        exact .unreadable hfault (isMissing_eq_false.mp (by simpa using hmissing))
      · split at h
        · exact absurd h refuse_ne_broke
        · cases h
  · intro h
    cases h with
    | unreadable h hfault => simp only [h, isMissing_eq_false.mpr hfault, Bool.not_false, if_true]
    | undecodable h hbytes => simp only [h, fileText, hbytes]
    | yaml h htext hread => simp only [h, htext, textSettings_broke_iff.mpr hread]

end Config

end NodeClient
