import NodeClient.Proofs.Config.Resolve

/-! Which source decides the host and the port of a configuration. Each field comes from the best
source that has it, except where an address of a lower source is read before what the environment
says by itself, or an address of the overrides hides that of the environment. -/

namespace NodeClient

namespace Config

/-- The parts of an address that a source can also set by themselves. -/
inductive Field where
  | host
  | port

/-- What a source says of a field by itself, not through its address. -/
def Settings.own (s : Settings) : Field → Datum
  | .host => s.host
  | .port => s.port

end Config

def Endpoint.part (found : Endpoint) : Config.Field → Datum
  | .host => found.host.elim .null .text
  | .port => found.port.elim .null .int

def NodeConfig.value (c : NodeConfig) : Config.Field → Datum
  | .host => c.host
  | .port => .int c.port

namespace Config

def Settings.Supplies (s : Settings) (x : Field) : Prop :=
  s.own x ≠ .null ∨ ∃ found, endpoint s.address = .ok found ∧ found.part x ≠ .null

theorem own_eq_null {s : Settings} {x : Field} (h : ¬ s.Supplies x) : s.own x = .null :=
  Classical.byContradiction fun hne => h (.inl hne)

theorem part_eq_null {s : Settings} {x : Field} {found : Endpoint} (h : ¬ s.Supplies x)
    (hfound : endpoint s.address = .ok found) : found.part x = .null :=
  Classical.byContradiction fun hne => h (.inr ⟨found, hfound, hne⟩)

/-- What the check of a source's own setting reads. -/
def ownReading (source : Text) (s : Settings) : Field → Outcome Datum
  | .host => .ok s.host
  | .port => (port source s.port).map fun p => p.elim .null .int

theorem ownReading_null_iff {source : Text} {s : Settings} {x : Field} {d : Datum}
    (h : ownReading source s x = .ok d) : d = .null ↔ s.own x = .null := by
  cases x with
  | host =>
    obtain rfl := Except.ok.inj h
    exact Iff.rfl
  | port =>
    obtain ⟨p, hp, rfl⟩ := map_eq_ok.mp h
    rcases port_eq_ok hp with ⟨hraw, rfl⟩ | ⟨hraw, n, rfl, -⟩
    · exact iff_of_true rfl hraw
    · exact iff_of_false nofun hraw

theorem first_ports (p q r s : Option Int) (n : Int) :
    .int ((p <|> q <|> r <|> s).getD n) = first [p.elim .null .int, q.elim .null .int,
      r.elim .null .int, s.elim .null .int, .int n] := by
  cases p <;> cases q <;> cases r <;> cases s <;> rfl

theorem endpoint_null : endpoint .null = .ok .absent := rfl

theorem part_absent (x : Field) : Endpoint.absent.part x = .null := by
  cases x <;> rfl

theorem address_ne_null {s : Settings} {found : Endpoint} {x : Field}
    (h : endpoint s.address = .ok found) (hpart : found.part x ≠ .null) : s.address ≠ .null := by
  intro hnull
  rw [hnull] at h
  obtain rfl := Except.ok.inj (endpoint_null.symm.trans h)
  exact hpart (part_absent x)

end Config

namespace NodeConfig

open Config

variable {path : Text} {o e f : Settings} {c : NodeConfig}

/-- A field is the first one that is there: the override, the part of the chosen address, what the
environment and what the file say by themselves, the default. -/
theorem value_of_resolve (h : resolve path o e f = .ok c) (x : Field) :
    ∃ found d₁ d₂ d₃, endpoint (first [o.address, e.address, f.address]) = .ok found ∧
      ownReading "overrides" o x = .ok d₁ ∧ ownReading "environment" e x = .ok d₂ ∧
      ownReading (path ++ " node.port") f x = .ok d₃ ∧
      c.value x = first [d₁, found.part x, d₂, d₃, standard.value x] := by
  obtain ⟨r, hr, rfl⟩ := resolve_eq_ok_iff.mp h
  cases x with
  | host => exact ⟨_, _, _, _, hr.found, rfl, rfl, rfl, rfl⟩
  | port =>
    have hread {source : Text} {s : Settings} {p : Option Int}
        (hp : Config.port source s.port = .ok p) :
        ownReading source s .port = .ok (p.elim .null .int) := by
      rw [ownReading, hp, Except.map]
    exact ⟨_, _, _, _, hr.found, hread hr.overridePort, hread hr.environmentPort,
      hread hr.filePort, first_ports _ _ _ _ _⟩

section Decided

variable {x : Field} {f' : Settings} {c' : NodeConfig}

/-- What the overrides supply is decided by them alone. -/
theorem value_eq_of_overrides (ho : o.Supplies x) (h : resolve path o e f = .ok c)
    {e' : Settings} (h' : resolve path o e' f' = .ok c') : c'.value x = c.value x := by
  obtain ⟨found, d₁, d₂, d₃, hfound, hd₁, -, -, hc⟩ := value_of_resolve h x
  obtain ⟨found', d₁', d₂', d₃', hfound', hd₁', -, -, hc'⟩ := value_of_resolve h' x
  obtain rfl := Except.ok.inj (hd₁.symm.trans hd₁')
  rw [hc, hc']
  rcases ho with hown | ⟨part, hpart, hne⟩
  · have hd : d₁ ≠ .null := mt (ownReading_null_iff hd₁).mp hown
    exact first_append_eq (List.mem_singleton_self d₁) hd _ _
  · have hchosen : o.address ≠ .null := address_ne_null hpart hne
    rw [first_of_ne_null hchosen, hpart] at hfound hfound'
    obtain rfl := Except.ok.inj hfound
    obtain rfl := Except.ok.inj hfound'
    have hmem : part.part x ∈ [d₁, part.part x] := by simp
    exact first_append_eq hmem hne _ _

/-- The ways in which something comes before what the environment supplies: the address of the
file before a setting of its own, where no better address is chosen, and the setting of the file
before its address, where that of the overrides is chosen and does not give the field. -/
inductive Outranked (o e : Settings) (x : Field) : Prop where
  | address (hnone : ¬ o.Supplies x) (ho : o.address = .null) (he : e.address = .null)
  | hidden (hnone : ¬ o.Supplies x) (ho : o.address ≠ .null) (he : e.own x = .null)

theorem value_eq_of_environment (he : e.Supplies x) (hx : ¬ Outranked o e x)
    (h : resolve path o e f = .ok c) (h' : resolve path o e f' = .ok c') :
    c'.value x = c.value x := by
  by_cases ho : o.Supplies x
  · exact value_eq_of_overrides ho h h'
  obtain ⟨found, d₁, d₂, d₃, hfound, hd₁, hd₂, -, hc⟩ := value_of_resolve h x
  obtain ⟨found', d₁', d₂', d₃', hfound', hd₁', hd₂', -, hc'⟩ := value_of_resolve h' x
  obtain rfl := Except.ok.inj (hd₁.symm.trans hd₁')
  obtain rfl := Except.ok.inj (hd₂.symm.trans hd₂')
  have hown (hne : e.own x ≠ .null) : d₂ ≠ .null := mt (ownReading_null_iff hd₂).mp hne
  -- an address is chosen above the file, so it is the same with either file
  obtain ⟨d, hd, hne⟩ : ∃ d ∈ [o.address, e.address], d ≠ .null := by
    by_cases hoaddress : o.address = .null
    · exact ⟨e.address, by simp, fun headdress => hx (.address ho hoaddress headdress)⟩
    · exact ⟨o.address, by simp, hoaddress⟩
  have hsame : first ([o.address, e.address] ++ [f'.address]) =
      first ([o.address, e.address] ++ [f.address]) := first_append_eq hd hne _ _
  obtain rfl := Except.ok.inj (hfound.symm.trans ((congrArg endpoint hsame).symm.trans hfound'))
  obtain ⟨d, hd, hne⟩ : ∃ d ∈ [d₁, found.part x, d₂], d ≠ .null := by
    by_cases hoaddress : o.address = .null
    · rcases he with hne | ⟨part, hpart, hne⟩
      · exact ⟨d₂, by simp, hown hne⟩
      · rw [hoaddress, first_null, first_of_ne_null (address_ne_null hpart hne), hpart] at hfound
        obtain rfl := Except.ok.inj hfound
        exact ⟨part.part x, by simp, hne⟩
    · exact ⟨d₂, by simp, hown fun hnull => hx (.hidden ho hoaddress hnull)⟩
  rw [hc, hc']
  exact first_append_eq hd hne _ _

/-- Files that name a node in every way there is, each another one. -/
def rival : Bool → Settings
  | false => ⟨.text "a:1", .text "a", .int 1, .null, .null⟩
  | true => ⟨.text "b:2", .text "b", .int 2, .null, .null⟩

theorem endpoint_rival (k : Bool) :
    ∃ found, endpoint (rival k).address = .ok found ∧ ∀ x, found.part x = (rival k).own x := by
  cases k with
  | false =>
    have hread : endpoint (rival false).address = .ok ⟨some "a", some 1, none⟩ :=
      toOption_eq_some.mp (by decide +kernel)
    exact ⟨_, hread, fun x => by cases x <;> rfl⟩
  | true =>
    have hread : endpoint (rival true).address = .ok ⟨some "b", some 2, none⟩ :=
      toOption_eq_some.mp (by decide +kernel)
    exact ⟨_, hread, fun x => by cases x <;> rfl⟩

theorem ownReading_rival (source : Text) (k : Bool) (x : Field) :
    ownReading source (rival k) x = .ok ((rival k).own x) := by
  cases k <;> cases x <;> rfl

theorem own_rival_ne_null (k : Bool) (x : Field) : (rival k).own x ≠ .null := by
  cases k <;> cases x <;> nofun

/-- Either rival is accepted in place of a file that was. -/
theorem exists_resolve_rival (h : resolve path o e f = .ok c) (hx : Outranked o e x) (k : Bool) :
    ∃ c', resolve path o e (rival k) = .ok c' := by
  obtain ⟨r, hr, -⟩ := resolve_eq_ok_iff.mp h
  obtain ⟨found, hfound⟩ : ∃ found,
      endpoint (first [o.address, e.address, (rival k).address]) = .ok found := by
    cases hx with
    | address _ ho he =>
      obtain ⟨found, hfound, -⟩ := endpoint_rival k
      rw [ho, he, first_null, first_null, first_of_ne_null (by cases k <;> nofun)]
      exact ⟨found, hfound⟩
    | hidden _ ho =>
      have hfound := hr.found
      rw [first_of_ne_null ho] at hfound ⊢
      exact ⟨r.found, hfound⟩
  obtain ⟨n, hport⟩ : ∃ n, Config.port (path ++ " node.port") (rival k).port = .ok (some n) := by
    cases k with
    | false => exact ⟨1, rfl⟩
    | true => exact ⟨2, rfl⟩
  have htimeout : Config.timeout (path ++ " node.connect_timeout") (rival k).timeout =
      .ok none := by
    cases k <;> rfl
  have hreads : Reads path o e (rival k)
      { r with found := found, filePort := some n, fileTimeout := none } :=
    { hr with found := hfound, filePort := hport, fileTimeout := htimeout }
  exact ⟨_, hreads.resolve⟩

theorem value_rival (hx : Outranked o e x) {k : Bool} (h : resolve path o e (rival k) = .ok c) :
    c.value x = (rival k).own x := by
  obtain ⟨found, d₁, d₂, d₃, hfound, hd₁, hd₂, hd₃, hc⟩ := value_of_resolve h x
  have hne := own_rival_ne_null k x
  obtain rfl := Except.ok.inj (hd₃.symm.trans (ownReading_rival _ k x))
  have hnone : ¬ o.Supplies x := by cases hx <;> assumption
  rw [hc, (ownReading_null_iff hd₁).mpr (own_eq_null hnone), first_null]
  cases hx with
  | address _ ho he =>
    obtain ⟨found', hfound', hpart⟩ := endpoint_rival k
    rw [ho, he, first_null, first_null, first_of_ne_null (by cases k <;> nofun), hfound'] at hfound
    obtain rfl := Except.ok.inj hfound
    rw [hpart, first_of_ne_null hne]
  | hidden _ ho he =>
    rw [first_of_ne_null ho] at hfound
    rw [part_eq_null hnone hfound, (ownReading_null_iff hd₂).mpr he, first_null, first_null,
      first_of_ne_null hne]

end Decided

/-- What a source supplies is kept whatever the sources below it say, for the overrides always, and
for the environment exactly when it is not outranked. -/
theorem resolve_precedence_iff (h : resolve path o e f = .ok c) (x : Field) :
    (o.Supplies x → ∀ e' f' c', resolve path o e' f' = .ok c' → c'.value x = c.value x) ∧
    (e.Supplies x → ((∀ f' c', resolve path o e f' = .ok c' → c'.value x = c.value x) ↔
      ¬ Outranked o e x)) := by
  refine ⟨fun ho e' f' c' h' => value_eq_of_overrides ho h h', fun he => ?_⟩
  constructor
  · intro hkept hx
    obtain ⟨c₁, h₁⟩ := exists_resolve_rival h hx false
    obtain ⟨c₂, h₂⟩ := exists_resolve_rival h hx true
    have hsame : (rival false).own x = (rival true).own x := by
      rw [← value_rival hx h₁, ← value_rival hx h₂, hkept _ _ h₁, hkept _ _ h₂]
    cases x <;> cases hsame
  · intro hx f' c' h'
    exact value_eq_of_environment he hx h h'

/-- Overrides with a URL that has no port, an environment with a port and an address that is not
looked at. -/
theorem resolve_precedence_iff_hidden_address :
    let o : Settings := { Settings.unset with address := .text "http://h" }
    let e : Settings := { Settings.unset with address := .text "e:2", port := .text "3" }
    ∃ c, resolve "c.yaml" o e .unset = .ok c ∧ e.Supplies .port ∧ c.value .port = .int 3 ∧
      ∀ f' c', resolve "c.yaml" o e f' = .ok c' → c'.value .port = c.value .port := by
  intro o e
  have hfound : endpoint o.address = .ok ⟨some "h", none, some .http⟩ :=
    toOption_eq_some.mp (by decide +kernel)
  have hport : Config.port "environment" e.port = .ok (some 3) :=
    toOption_eq_some.mp (by decide +kernel)
  have hreads : Reads "c.yaml" o e .unset
      ⟨⟨some "h", none, some .http⟩, none, some 3, none, none, none, none⟩ :=
    ⟨hfound, rfl, hport, rfl, rfl, rfl, rfl⟩
  have he : e.Supplies .port := .inl nofun
  refine ⟨_, hreads.resolve, he, rfl, ?_⟩
  refine ((resolve_precedence_iff hreads.resolve .port).2 he).mpr ?_
  rintro (⟨-, ho, -⟩ | ⟨-, -, hown⟩)
  · cases ho
  · cases hown

/-- An address in the file takes the place of the host that the environment sets. -/
theorem resolve_prefers_file_address :
    let e : Settings :=
      .ofEnvironment fun name => if name = "WITNET_NODE_HOST" then some "envhost" else none
    let f : Settings := { Settings.unset with address := .text "yamlhost:1" }
    e.host = .text "envhost" ∧
      (∃ c, resolve "c.yaml" .unset e .unset = .ok c ∧ c.value .host = .text "envhost") ∧
      ∃ c, resolve "c.yaml" .unset e f = .ok c ∧ c.value .host = .text "yamlhost" := by
  intro e f
  have hfound : endpoint f.address = .ok ⟨some "yamlhost", some 1, none⟩ :=
    toOption_eq_some.mp (by decide +kernel)
  have hunset : Reads "c.yaml" .unset e .unset ⟨.absent, none, none, none, none, none, none⟩ :=
    ⟨rfl, rfl, rfl, rfl, rfl, rfl, rfl⟩
  have hfile : Reads "c.yaml" .unset e f
      ⟨⟨some "yamlhost", some 1, none⟩, none, none, none, none, none, none⟩ :=
    ⟨hfound, rfl, rfl, rfl, rfl, rfl, rfl⟩
  exact ⟨rfl, ⟨_, hunset.resolve, rfl⟩, ⟨_, hfile.resolve, rfl⟩⟩

end NodeConfig

end NodeClient
