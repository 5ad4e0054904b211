import NodeClient.Config.Settings
import NodeClient.Proofs.Outcome

/-! A configuration is resolved exactly when every setting passes its check, and then it is put
together from what the checks read. -/

namespace NodeClient

namespace Config

/-! The first candidate that is not null -/

section First

variable {d : Datum} {ds : List Datum}

@[simp] theorem first_null : first (.null :: ds) = first ds := rfl

theorem first_of_ne_null (h : d ≠ .null) : first (d :: ds) = d := by
  cases d with
  | null => exact absurd rfl h
  | _ => rfl

theorem first_append_cases (ds es : List Datum) :
    (first ds = .null ∧ first (ds ++ es) = first es) ∨
      first ds ≠ .null ∧ first (ds ++ es) = first ds := by
  induction ds with
  | nil => exact .inl ⟨rfl, rfl⟩
  | cons d ds ih =>
    by_cases hd : d = .null
    · subst hd
      exact ih
    · rw [List.cons_append, first_of_ne_null hd, first_of_ne_null hd]
      exact .inr ⟨hd, rfl⟩

/-- What comes after a candidate that is there does not matter. -/
theorem first_append (hd : d ∈ ds) (h : d ≠ .null) (es : List Datum) :
    first (ds ++ es) = first ds := by
  induction ds with
  | nil => cases hd
  | cons d' ds ih =>
    by_cases hd' : d' = .null
    · subst hd'
      exact ih ((List.mem_cons.mp hd).resolve_left h)
    · rw [List.cons_append, first_of_ne_null hd', first_of_ne_null hd']

theorem first_append_eq (hd : d ∈ ds) (h : d ≠ .null) (es es' : List Datum) :
    first (ds ++ es) = first (ds ++ es') :=
  (first_append hd h es).trans (first_append hd h es').symm

end First

/-! One port, one timeout -/

section Setting

variable {source : Text} {raw : Datum}

theorem refuse_shown_ne_ok {α : Type} {fault : Text → ConfigurationFault} {a : α} :
    ((shown raw).bind fun text => refuse (fault text) : Outcome α) ≠ .ok a := by
  unfold shown
  split
  · rintro ⟨⟩
  · rintro ⟨⟩

theorem port_text (source s : Text) :
    port source (.text s) =
      match Numeral.integer? s with
      | none => refuse (.invalidPort source s)
      | some n => if 0 < n && n < 65536 then .ok (some n) else refuse (.portRange source s) := by
  unfold port
  dsimp only [integer?]
  cases Numeral.integer? s <;> rfl

theorem port_eq_ok {p : Option Int} (h : port source raw = .ok p) :
    (raw = .null ∧ p = none) ∨
      raw ≠ .null ∧ ∃ n, p = some n ∧ integer? raw = .ok (some n) ∧ 1 ≤ n ∧ n ≤ 65535 := by
  unfold port at h
  split at h
  · exact .inl ⟨rfl, (Except.ok.inj h).symm⟩
  · rename_i hraw
    split at h
    · cases h
    · exact absurd h refuse_shown_ne_ok
    · rename_i n hn
      split at h
      · rename_i hrange
        simp only [Bool.and_eq_true, decide_eq_true_eq] at hrange
        exact .inr ⟨hraw, n, (Except.ok.inj h).symm, hn, by omega, by omega⟩
      · exact absurd h refuse_shown_ne_ok

theorem timeout_eq_ok {t : Option Binary64} (h : timeout source raw = .ok t) :
    (raw = .null ∧ t = none) ∨
      raw ≠ .null ∧ ∃ x, t = some x ∧ number? raw = .ok (some x) ∧ x.notPositive = false := by
  unfold timeout at h
  split at h
  · exact .inl ⟨rfl, (Except.ok.inj h).symm⟩
  · rename_i hraw
    split at h
    · cases h
    · exact absurd h refuse_shown_ne_ok
    · rename_i x hx
      split at h
      · exact absurd h refuse_shown_ne_ok
      · rename_i hpositive
        exact .inr ⟨hraw, x, (Except.ok.inj h).symm, hx, Bool.eq_false_iff.mpr hpositive⟩

end Setting

end Config

namespace NodeConfig

open Config

/-- What the checks read: the parts of the chosen address, and a port and a timeout from each of
the sources. -/
structure Readings where
  found : Endpoint
  overridePort : Option Int
  environmentPort : Option Int
  filePort : Option Int
  overrideTimeout : Option Binary64
  environmentTimeout : Option Binary64
  fileTimeout : Option Binary64

structure Reads (path : Text) (overrides environment file : Settings) (r : Readings) : Prop where
  found : endpoint (first [overrides.address, environment.address, file.address]) = .ok r.found
  overridePort : Config.port "overrides" overrides.port = .ok r.overridePort
  environmentPort : Config.port "environment" environment.port = .ok r.environmentPort
  filePort : Config.port (path ++ " node.port") file.port = .ok r.filePort
  overrideTimeout : Config.timeout "overrides" overrides.timeout = .ok r.overrideTimeout
  environmentTimeout :
    Config.timeout "environment" environment.timeout = .ok r.environmentTimeout
  fileTimeout : Config.timeout (path ++ " node.connect_timeout") file.timeout = .ok r.fileTimeout

def Readings.config (r : Readings) (overrides environment file : Settings) : NodeConfig where
  host := first [overrides.host, r.found.host.elim .null .text, environment.host, file.host,
    .text defaultHost]
  port := (r.overridePort <|> r.found.port <|> r.environmentPort <|> r.filePort).getD defaultPort
  useHttp := r.found.scheme == some .http
  useHttps := (switch? overrides.useHttps <|> r.found.scheme.map (· == .https) <|>
    switch? environment.useHttps <|> switch? file.useHttps).getD false
  timeout := (r.overrideTimeout <|> r.environmentTimeout <|> r.fileTimeout).getD defaultTimeout

theorem resolve_eq_ok_iff {path : Text} {o e f : Settings} {c : NodeConfig} :
    resolve path o e f = .ok c ↔ ∃ r, Reads path o e f r ∧ r.config o e f = c := by
  simp only [resolve, bind_eq_ok, pure_eq_ok]
  constructor
  · rintro ⟨found, hfound, p₁, hp₁, p₂, hp₂, p₃, hp₃, t₁, ht₁, t₂, ht₂, t₃, ht₃, hc⟩
    exact ⟨⟨found, p₁, p₂, p₃, t₁, t₂, t₃⟩, ⟨hfound, hp₁, hp₂, hp₃, ht₁, ht₂, ht₃⟩, hc⟩
  · rintro ⟨r, h, hc⟩
    exact ⟨r.found, h.found, _, h.overridePort, _, h.environmentPort, _, h.filePort, _,
      h.overrideTimeout, _, h.environmentTimeout, _, h.fileTimeout, hc⟩

theorem Reads.resolve {path : Text} {o e f : Settings} {r : Readings} (h : Reads path o e f r) :
    resolve path o e f = .ok (r.config o e f) :=
  resolve_eq_ok_iff.mpr ⟨r, h, rfl⟩

end NodeConfig

end NodeClient
