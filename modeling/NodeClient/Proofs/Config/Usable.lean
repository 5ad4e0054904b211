import NodeClient.Proofs.Address.Endpoint

/-! Whether a configuration that was accepted can be used. Its host, its port and its timeout are
what they have to be, except for the few values that come in without a check. -/

namespace NodeClient

def Binary64.IsPositive : Binary64 → Prop
  | .nan => False
  | .infinite negative => negative = false
  | .finite negative mantissa _ => negative = false ∧ mantissa ≠ 0

theorem Binary64.isPositive_iff {x : Binary64} :
    x.IsPositive ↔ x.notPositive = false ∧ x ≠ .nan := by
  cases x with
  | nan => simp [IsPositive]
  | infinite negative => simp [IsPositive, notPositive]
  | finite negative mantissa exponent => simp [IsPositive, notPositive]

namespace NodeConfig

open Config

/-- A host that is written, not data of another kind and not the empty text. -/
def NamesHost (d : Datum) : Prop := ∃ s, d = .text s ∧ s ≠ []

structure Usable (c : NodeConfig) : Prop where
  host : NamesHost c.host
  port : 1 ≤ c.port ∧ c.port ≤ 65535
  timeout : c.timeout.IsPositive

section Unchecked

variable (o e f : Settings)

/-- The ways in which a host comes in that is none: by itself, from any source, or out of an address
that has nothing but brackets before its last colon. -/
inductive HostUnchecked : Prop where
  | override (hset : o.host ≠ .null) (hbad : ¬ NamesHost o.host)
  | address {raw : Text} (hnone : o.host = .null)
      (hraw : first [o.address, e.address, f.address] = .text raw) (hbad : Endpoint.LacksHost raw)
  | lower (hnone : o.host = .null)
      (hempty : (first [o.address, e.address, f.address]).isEmpty = true)
      (hset : first [e.host, f.host] ≠ .null) (hbad : ¬ NamesHost (first [e.host, f.host]))

/-- The port of a URL may be zero. -/
inductive PortUnchecked : Prop where
  | address {raw : Text} (hnone : o.port = .null)
      (hraw : first [o.address, e.address, f.address] = .text raw)
      (hbad : Endpoint.HasZeroPort raw)

/-- NaN is not compared with zero. -/
inductive TimeoutUnchecked : Prop where
  | nan (hread : number? (first [o.timeout, e.timeout, f.timeout]) = .ok (some .nan))

end Unchecked

variable {path : Text} {o e f : Settings} {c : NodeConfig} {r : Readings}

section Endpoint

variable {raw : Datum} {found : Endpoint}

theorem endpoint_eq_ok (h : endpoint raw = .ok found) :
    (found = .absent ∧ raw.isEmpty = true ∧ ∀ s, raw ≠ .text s) ∨
      ∃ s, raw = .text s ∧ Endpoint.read s = .ok found := by
  unfold endpoint at h
  split at h
  · rename_i s
    exact .inr ⟨s, rfl, h⟩
  · rename_i hother
    split at h
    · rename_i hempty
      exact .inl ⟨(Except.ok.inj h).symm, hempty, hother⟩
    · split at h <;> cases h

theorem endpoint_host_none_iff (h : endpoint raw = .ok found) :
    found.host = none ↔ raw.isEmpty = true := by
  rcases endpoint_eq_ok h with ⟨rfl, hempty, -⟩ | ⟨s, rfl, hread⟩
  · exact iff_of_true rfl hempty
  · rw [Endpoint.host_eq_none_iff hread]
    exact List.isEmpty_iff.symm

theorem endpoint_host_nil_iff (h : endpoint raw = .ok found) :
    found.host = some [] ↔ ∃ s, raw = .text s ∧ Endpoint.LacksHost s := by
  rcases endpoint_eq_ok h with ⟨rfl, -, hother⟩ | ⟨s, rfl, hread⟩
  · exact iff_of_false nofun fun ⟨s, hraw, _⟩ => hother s hraw
  · rw [Endpoint.host_eq_nil_iff hread]
    simp only [Datum.text.injEq, exists_eq_left']

theorem endpoint_port_zero_iff (h : endpoint raw = .ok found) :
    found.port = some 0 ↔ ∃ s, raw = .text s ∧ Endpoint.HasZeroPort s := by
  rcases endpoint_eq_ok h with ⟨rfl, -, hother⟩ | ⟨s, rfl, hread⟩
  · exact iff_of_false nofun fun ⟨s, hraw, _⟩ => hother s hraw
  · rw [Endpoint.port_eq_zero_iff hread]
    simp only [Datum.text.injEq, exists_eq_left']

theorem endpoint_port_bounds (h : endpoint raw = .ok found) :
    ∀ n ∈ found.port, 0 ≤ n ∧ n ≤ 65535 := by
  rcases endpoint_eq_ok h with ⟨rfl, -⟩ | ⟨s, -, hread⟩
  · nofun
  · exact Endpoint.port_bounds hread

end Endpoint

theorem namesHost_text {s : Text} : NamesHost (.text s) ↔ s ≠ [] := by
  refine ⟨?_, fun h => ⟨s, rfl, h⟩⟩
  rintro ⟨_, ⟨⟩, h⟩
  exact h

theorem hostUnchecked_of_override (ho : o.host ≠ .null) :
    HostUnchecked o e f ↔ ¬ NamesHost o.host := by
  refine ⟨?_, .override ho⟩
  rintro (⟨-, hbad⟩ | ⟨hnone, -⟩ | ⟨hnone, -⟩)
  · exact hbad
  · exact absurd hnone ho
  · exact absurd hnone ho

theorem hostUnchecked_of_address {host : Text} (hr : Reads path o e f r) (ho : o.host = .null)
    (hhost : r.found.host = some host) : HostUnchecked o e f ↔ host = [] := by
  constructor
  · rintro (⟨hset, -⟩ | ⟨-, hraw, hbad⟩ | ⟨-, hempty, -⟩)
    · exact absurd ho hset
    · have hnil := (endpoint_host_nil_iff hr.found).mpr ⟨_, hraw, hbad⟩
      exact Option.some.inj (hhost.symm.trans hnil)
    · have hnone := (endpoint_host_none_iff hr.found).mpr hempty
      cases hhost.symm.trans hnone
  · rintro rfl
    obtain ⟨s, hraw, hbad⟩ := (endpoint_host_nil_iff hr.found).mp hhost
    exact .address ho hraw hbad

theorem hostUnchecked_of_lower (hr : Reads path o e f r) (ho : o.host = .null)
    (hhost : r.found.host = none) :
    HostUnchecked o e f ↔
      first [e.host, f.host] ≠ .null ∧ ¬ NamesHost (first [e.host, f.host]) := by
  constructor
  · rintro (⟨hset, -⟩ | ⟨-, hraw, hbad⟩ | ⟨-, -, hset, hbad⟩)
    · exact absurd ho hset
    · have hnil := (endpoint_host_nil_iff hr.found).mpr ⟨_, hraw, hbad⟩
      cases hhost.symm.trans hnil
    · exact ⟨hset, hbad⟩
  · rintro ⟨hset, hbad⟩
    exact .lower ho ((endpoint_host_none_iff hr.found).mp hhost) hset hbad

theorem namesHost_iff (hr : Reads path o e f r) :
    NamesHost (r.config o e f).host ↔ ¬ HostUnchecked o e f := by
  show NamesHost (first [o.host, r.found.host.elim .null .text, e.host, f.host,
    .text defaultHost]) ↔ _
  by_cases ho : o.host = .null
  · rw [ho, first_null]
    cases hhost : r.found.host with
    | some host =>
      rw [hostUnchecked_of_address hr ho hhost]
      exact namesHost_text
    | none =>
      rw [hostUnchecked_of_lower hr ho hhost]
      show NamesHost (first ([e.host, f.host] ++ [.text defaultHost])) ↔ _
      rcases first_append_cases [e.host, f.host] [.text defaultHost] with ⟨hset, hfirst⟩ |
        ⟨hset, hfirst⟩
      · exact iff_of_true ⟨defaultHost, hfirst, by decide⟩ fun h => h.1 hset
      · rw [hfirst, and_iff_right hset, Classical.not_not]
  · rw [first_of_ne_null ho, hostUnchecked_of_override ho, Classical.not_not]

theorem bounds_of_port {source : Text} {raw : Datum} {p : Option Int}
    (h : Config.port source raw = .ok p) : ∀ n ∈ p, 1 ≤ n ∧ n ≤ 65535 := by
  rcases port_eq_ok h with ⟨-, rfl⟩ | ⟨-, n, rfl, -, hlow, hhigh⟩
  · nofun
  · rintro _ ⟨⟩
    exact ⟨hlow, hhigh⟩

theorem portUnchecked_iff (hr : Reads path o e f r) :
    PortUnchecked o e f ↔ o.port = .null ∧ r.found.port = some 0 := by
  rw [endpoint_port_zero_iff hr.found]
  exact ⟨fun ⟨hnone, hraw, hbad⟩ => ⟨hnone, _, hraw, hbad⟩,
    fun ⟨hnone, _, hraw, hbad⟩ => .address hnone hraw hbad⟩

theorem port_iff (hr : Reads path o e f r) :
    (1 ≤ (r.config o e f).port ∧ (r.config o e f).port ≤ 65535) ↔ ¬ PortUnchecked o e f := by
  have hport : (r.config o e f).port =
    (r.overridePort <|> r.found.port <|> r.environmentPort <|> r.filePort).getD defaultPort := rfl
  rw [portUnchecked_iff hr, hport]
  rcases port_eq_ok hr.overridePort with ⟨hnone, hown⟩ | ⟨hset, n, hown, -, hbounds⟩
  · rw [hown, and_iff_right hnone]
    cases hfound : r.found.port with
    | some n =>
      obtain ⟨hlow, hhigh⟩ := endpoint_port_bounds hr.found n hfound
      show (1 ≤ n ∧ n ≤ 65535) ↔ ¬ some n = some 0
      rw [Option.some_inj]
      omega
    | none =>
      refine iff_of_true ?_ nofun
      cases hsecond : r.environmentPort with
      | some n => exact bounds_of_port hr.environmentPort n hsecond
      | none =>
        cases hthird : r.filePort with
        | some n => exact bounds_of_port hr.filePort n hthird
        | none => decide
  · rw [hown]
    exact iff_of_true hbounds fun h => hset h.1

/-- The first timeout that is set is the one that was read, and it is not zero or negative. -/
theorem timeout_of_first {s₁ s₂ s₃ : Text} {d₁ d₂ d₃ : Datum} {t₁ t₂ t₃ : Option Binary64}
    (h₁ : Config.timeout s₁ d₁ = .ok t₁) (h₂ : Config.timeout s₂ d₂ = .ok t₂)
    (h₃ : Config.timeout s₃ d₃ = .ok t₃) :
    (first [d₁, d₂, d₃] = .null ∧ (t₁ <|> t₂ <|> t₃) = none) ∨
      ∃ x, number? (first [d₁, d₂, d₃]) = .ok (some x) ∧ (t₁ <|> t₂ <|> t₃) = some x ∧
        x.notPositive = false := by
  rcases timeout_eq_ok h₁ with ⟨rfl, rfl⟩ | ⟨hset, x, rfl, hx, hpositive⟩
  · rcases timeout_eq_ok h₂ with ⟨rfl, rfl⟩ | ⟨hset, x, rfl, hx, hpositive⟩
    · rcases timeout_eq_ok h₃ with ⟨rfl, rfl⟩ | ⟨hset, x, rfl, hx, hpositive⟩
      · exact .inl ⟨rfl, rfl⟩
      · rw [first_null, first_null, first_of_ne_null hset]
        exact .inr ⟨x, hx, rfl, hpositive⟩
    · rw [first_null, first_of_ne_null hset]
      exact .inr ⟨x, hx, rfl, hpositive⟩
  · rw [first_of_ne_null hset]
    exact .inr ⟨x, hx, rfl, hpositive⟩

theorem timeout_iff (hr : Reads path o e f r) :
    (r.config o e f).timeout.IsPositive ↔ ¬ TimeoutUnchecked o e f := by
  show ((r.overrideTimeout <|> r.environmentTimeout <|> r.fileTimeout).getD
    defaultTimeout).IsPositive ↔ _
  rcases timeout_of_first hr.overrideTimeout hr.environmentTimeout hr.fileTimeout with
    ⟨hset, htimeout⟩ | ⟨x, hx, htimeout, hpositive⟩
  · rw [htimeout]
    have hdefault : defaultTimeout.notPositive = false ∧ defaultTimeout ≠ .nan := by decide +kernel
    refine iff_of_true (Binary64.isPositive_iff.mpr hdefault) ?_
    rintro ⟨hread⟩
    rw [hset] at hread
    cases hread
  · rw [htimeout, Option.getD_some, Binary64.isPositive_iff, and_iff_right hpositive]
    constructor
    · rintro hne ⟨hread⟩
      exact hne (Option.some.inj (Except.ok.inj (hx.symm.trans hread)))
    · rintro hchecked rfl
      exact hchecked ⟨hx⟩

/-- The timeout of an accepted configuration is not zero or negative; it may be NaN. -/
theorem timeout_of_resolve (h : resolve path o e f = .ok c) : c.timeout.notPositive = false := by
  obtain ⟨r, hr, rfl⟩ := resolve_eq_ok_iff.mp h
  show ((r.overrideTimeout <|> r.environmentTimeout <|> r.fileTimeout).getD
    defaultTimeout).notPositive = false
  rcases timeout_of_first hr.overrideTimeout hr.environmentTimeout hr.fileTimeout with
    ⟨-, htimeout⟩ | ⟨x, -, htimeout, hpositive⟩
  · rw [htimeout]
    decide +kernel
  · rw [htimeout]
    exact hpositive

/-- An accepted configuration can be used exactly when nothing came in without a check. -/
theorem usable_iff_checked (h : resolve path o e f = .ok c) :
    c.Usable ↔ ¬ HostUnchecked o e f ∧ ¬ PortUnchecked o e f ∧ ¬ TimeoutUnchecked o e f := by
  obtain ⟨r, hr, rfl⟩ := resolve_eq_ok_iff.mp h
  rw [← namesHost_iff hr, ← port_iff hr, ← timeout_iff hr]
  exact ⟨fun h => ⟨h.host, h.port, h.timeout⟩, fun h => ⟨h.1, h.2.1, h.2.2⟩⟩

/-- The host out of a URL without a port, the port out of the environment, as text with blanks and
an underscore, and no end to the timeout of the file. -/
theorem usable_iff_checked_mixed :
    let e : Settings :=
      { Settings.unset with address := .text "https://[::1]/", port := .text " 6_5535 " }
    let f : Settings :=
      ⟨.null, .bool true, .float (.finite false 7 0), .null, .float (.infinite false)⟩
    ∃ c, resolve "c.yaml" .unset e f = .ok c ∧ c.Usable := by
  intro e f
  have hfound : endpoint e.address = .ok ⟨some "::1", none, some .https⟩ :=
    toOption_eq_some.mp (by decide +kernel)
  have hport : Config.port "environment" e.port = .ok (some 65535) :=
    toOption_eq_some.mp (by decide +kernel)
  have hreads : Reads "c.yaml" .unset e f ⟨⟨some "::1", none, some .https⟩, none, some 65535,
      some 7, none, none, some (.infinite false)⟩ :=
    ⟨hfound, rfl, hport, rfl, rfl, rfl, rfl⟩
  refine ⟨_, hreads.resolve, (usable_iff_checked hreads.resolve).mpr ⟨?_, ?_, ?_⟩⟩
  · rw [hostUnchecked_of_address hreads rfl rfl]
    decide
  · rw [portUnchecked_iff hreads]
    nofun
  · rintro ⟨hread⟩
    cases hread

/-- A URL with the port zero is accepted, which as a port by itself is not. -/
theorem resolve_accepts_port_zero :
    let o : Settings := { Settings.unset with address := .text "http://h:0" }
    (∃ c, resolve "c.yaml" o .unset .unset = .ok c ∧ c.port = 0 ∧ ¬ c.Usable) ∧
      (resolve "c.yaml" { Settings.unset with port := .int 0 } .unset .unset).toOption.isNone := by
  intro o
  have hfound : endpoint o.address = .ok ⟨some "h", some 0, some .http⟩ :=
    toOption_eq_some.mp (by decide +kernel)
  have hreads : Reads "c.yaml" o .unset .unset
      ⟨⟨some "h", some 0, some .http⟩, none, none, none, none, none, none⟩ :=
    ⟨hfound, rfl, rfl, rfl, rfl, rfl, rfl⟩
  exact ⟨⟨_, hreads.resolve, rfl, fun h => absurd h.port.1 (by decide)⟩, by decide +kernel⟩

end NodeConfig

end NodeClient
