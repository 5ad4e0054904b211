import NodeClient.Proofs.Config.Breaks

/-! What breaks the loading of a configuration: the path of its file, the file, and the settings in
the order in which they are checked. -/

namespace NodeClient

namespace Path

/-- What breaks the search for the home directory of another user. -/
inductive HomeBreaks (homes : Homes) (name : Text) : Breakdown → Prop where
  | unencodable (h : Utf8.encodeSmuggling? name = none) : HomeBreaks homes name .unencodable
  | nul (hname : (Utf8.encodeSmuggling? name).isSome = true)
      (h : (name.any fun c => c.val == 0) = true) : HomeBreaks homes name .nulInPath
  | unknown (hname : (Utf8.encodeSmuggling? name).isSome = true)
      (hnul : (name.any fun c => c.val == 0) = false) (h : homes.others.lookup name = none) :
      HomeBreaks homes name .homeUnknown

/-- What breaks a path that starts with the home of another user. -/
def ExpandBreaks (homes : Homes) (p : Path) (b : Breakdown) : Prop :=
  ∃ name rest, p.root = [] ∧ p.parts = (tilde :: name) :: rest ∧ name ≠ [] ∧
    HomeBreaks homes name b

theorem find_error_iff {homes : Homes} {name : Text} {stop : Stop} :
    homes.find name = .error stop ↔ ∃ b, stop = .broke b ∧ HomeBreaks homes name b := by
  unfold Homes.find
  cases hname : Utf8.encodeSmuggling? name with
  | none =>
    constructor
    · rintro ⟨⟩
      exact ⟨_, rfl, .unencodable hname⟩
    · rintro ⟨_, rfl, _ | ⟨hsome, -⟩ | ⟨hsome, -, -⟩⟩
      · rfl
      · simp [hname] at hsome
      · simp [hname] at hsome
  | some bytes =>
    have hsome : (Utf8.encodeSmuggling? name).isSome = true := by rw [hname]; rfl
    rw [if_neg (by simp)]
    cases hnul : name.any fun c => c.val == 0 with
    | true =>
      constructor
      · rintro ⟨⟩
        exact ⟨_, rfl, .nul hsome hnul⟩
      · rintro ⟨_, rfl, ⟨hnone⟩ | _ | ⟨-, hnul', -⟩⟩
        · simp [hname] at hnone
        · rfl
        · simp [hnul] at hnul'
    | false =>
      cases hhome : homes.others.lookup name with
      | some home =>
        apply iff_of_false
        · intro h
          cases h
        · rintro ⟨_, rfl, ⟨hnone⟩ | ⟨-, hnul'⟩ | ⟨-, -, hnone⟩⟩
          · simp [hname] at hnone
          · simp [hnul] at hnul'
          · simp [hhome] at hnone
      | none =>
        constructor
        · rintro ⟨⟩
          exact ⟨_, rfl, .unknown hsome hnul hhome⟩
        · rintro ⟨_, rfl, ⟨hnone⟩ | ⟨-, hnul'⟩ | _⟩
          · simp [hname] at hnone
          · simp [hnul] at hnul'
          · rfl

theorem expand_error_iff {homes : Homes} {p : Path} {stop : Stop} :
    p.expand homes = .error stop ↔ ∃ b, stop = .broke b ∧ ExpandBreaks homes p b := by
  constructor
  · intro h
    unfold expand at h
    split at h
    · rename_i c name rest hroot hparts
      split at h
      · rename_i htilde
        subst htilde
        split at h
        · cases h
        · rename_i hname
          obtain ⟨b, rfl, hbreaks⟩ := find_error_iff.mp (map_eq_error.mp h)
          exact ⟨b, rfl, name, rest, hroot, hparts, by simpa using hname, hbreaks⟩
      · cases h
    · cases h
  · rintro ⟨b, rfl, name, rest, hroot, hparts, hname, hbreaks⟩
    have hfind := find_error_iff.mpr ⟨b, rfl, hbreaks⟩
    have hempty : name.isEmpty = false := by simpa using hname
    unfold expand
    rw [hroot, hparts]
    simp only [if_true, hempty, Bool.false_eq_true, if_false, hfind, Except.map]

end Path

namespace NodeConfig

open Config

/-- What breaks the settings, when overrides give no more than an address and the environment gives
nothing but text: a later check breaks only after the earlier ones have passed. -/
inductive ResolveBreaks (path : Text) (overrides environment file : Settings) :
    Breakdown → Prop where
  | address {b : Breakdown}
      (h : AddressBreaks (first [overrides.address, environment.address, file.address]) b) :
      ResolveBreaks path overrides environment file b
  | port {found : Endpoint} {p : Option Int} {b : Breakdown}
      (haddress : endpoint (first [overrides.address, environment.address, file.address]) =
        .ok found)
      (henvironment : Config.port "environment" environment.port = .ok p)
      (h : PortBreaks file.port b) : ResolveBreaks path overrides environment file b
  | timeout {found : Endpoint} {p q : Option Int} {t : Option Binary64} {b : Breakdown}
      (haddress : endpoint (first [overrides.address, environment.address, file.address]) =
        .ok found)
      (hport : Config.port "environment" environment.port = .ok p)
      (hfile : Config.port (path ++ " node.port") file.port = .ok q)
      (htimeout : Config.timeout "environment" environment.timeout = .ok t)
      (h : TimeoutBreaks file.timeout b) : ResolveBreaks path overrides environment file b

/-- Nothing, or text. -/
def IsWord (d : Datum) : Prop := d = .null ∨ ∃ s, d = .text s

theorem IsWord.not_portBreaks {d : Datum} (h : IsWord d) (b : Breakdown) : ¬ PortBreaks d b := by
  obtain rfl | ⟨s, rfl⟩ := h <;> rintro (_ | ⟨hd⟩) <;> cases hd

theorem IsWord.not_timeoutBreaks {d : Datum} (h : IsWord d) (b : Breakdown) :
    ¬ TimeoutBreaks d b := by
  obtain rfl | ⟨s, rfl⟩ := h <;> rintro (_ | ⟨-, hd⟩) <;> cases hd

theorem resolve_broke_iff {path : Text} {o e f : Settings} {b : Breakdown}
    (hport : o.port = .null) (htimeout : o.timeout = .null) (heport : IsWord e.port)
    (hetimeout : IsWord e.timeout) :
    resolve path o e f = .error (.broke b) ↔ ResolveBreaks path o e f b := by
  -- the address comes first, then each source of the port, then each source of the timeout
  have hport₁ : Config.port "overrides" o.port = .ok none := by rw [hport]; rfl
  have htimeout₁ : Config.timeout "overrides" o.timeout = .ok none := by rw [htimeout]; rfl
  unfold resolve
  constructor
  · intro h
    rcases bind_eq_error.mp h with haddress | ⟨found, haddress, h⟩
    · exact .address (endpoint_broke_iff.mp haddress)
    dsimp only at h
    rw [hport₁, htimeout₁] at h
    rcases bind_eq_error.mp h with h | ⟨_, -, h⟩
    · cases h
    rcases bind_eq_error.mp h with h | ⟨p, hp, h⟩
    · exact absurd (port_broke_iff.mp h) (heport.not_portBreaks b)
    rcases bind_eq_error.mp h with h | ⟨q, hq, h⟩
    · exact .port haddress hp (port_broke_iff.mp h)
    rcases bind_eq_error.mp h with h | ⟨_, -, h⟩
    · cases h
    rcases bind_eq_error.mp h with h | ⟨t, ht, h⟩
    · exact absurd (timeout_broke_iff.mp h) (hetimeout.not_timeoutBreaks b)
    rcases bind_eq_error.mp h with h | ⟨_, -, h⟩
    · exact .timeout haddress hp hq ht (timeout_broke_iff.mp h)
    · cases h
  · intro h
    cases h with
    | address h =>
      rw [endpoint_broke_iff.mpr h]
      rfl
    | port haddress hp h =>
      rw [haddress]
      dsimp only [bind, Except.bind]
      rw [hport₁, hp, port_broke_iff.mpr h]
    | timeout haddress hp hq ht h =>
      rw [haddress]
      dsimp only [bind, Except.bind]
      rw [hport₁, hp, hq, htimeout₁, ht, timeout_broke_iff.mpr h]

end NodeConfig

end NodeClient
