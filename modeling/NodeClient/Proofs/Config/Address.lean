import NodeClient.Proofs.Address.Endpoint

/-! The address that a configuration is dialed by, where it was given a URL. It reads as the parts
of that URL unless the host needs brackets, which it is printed without. -/

namespace NodeClient.NodeConfig

open Config

variable {path raw host : Text} {port : Int} {scheme : Scheme} {e f : Settings} {c : NodeConfig}

/-- The settings of the overrides that give an address and nothing else. -/
def addressOnly (raw : Text) : Settings := { Settings.unset with address := .text raw }

theorem address_of_parts {n : Nat} (hhost : c.host = .text host) (hport : c.port = n)
    (hhttp : c.useHttp = (scheme == .http)) (hhttps : c.useHttps = (scheme == .https)) :
    c.address = .ok (Url.printed scheme.name host (Text.ofNat n)) := by
  have hstart : (if c.useHttps then "https://" else if c.useHttp then "http://" else [] : Text) =
      scheme.name ++ ("://" : Text) := by
    rw [hhttp, hhttps]
    cases scheme <;> rfl
  have hcolon : (":" : Text) = [Url.colon] := rfl
  have hdigits : Text.ofInt c.port = Text.ofNat n := by
    rw [hport]
    rfl
  have hshown : shown (.text host) = .ok host := rfl
  rw [address, hhost, hshown]
  dsimp only
  rw [hstart, hdigits, hcolon, Url.printed]
  simp only [List.append_assoc, List.singleton_append]

theorem resolve_addressOnly (hread : Endpoint.read raw = .ok ⟨some host, some port, some scheme⟩)
    (h : resolve path (addressOnly raw) e f = .ok c) :
    c.host = .text host ∧ c.port = port ∧ c.useHttp = (scheme == .http) ∧
      c.useHttps = (scheme == .https) := by
  obtain ⟨r, hr, rfl⟩ := resolve_eq_ok_iff.mp h
  have hfound : r.found = ⟨some host, some port, some scheme⟩ :=
    Except.ok.inj (hr.found.symm.trans hread)
  have hport : r.overridePort = none := (Except.ok.inj hr.overridePort).symm
  simp only [Readings.config, hfound, hport]
  exact ⟨rfl, rfl, rfl, rfl⟩

/-- The address reads as the parts of the URL exactly when the host needs no brackets. -/
theorem address_reads_back_iff
    (hread : Endpoint.read raw = .ok ⟨some host, some port, some scheme⟩)
    (h : resolve path (addressOnly raw) e f = .ok c) :
    ∃ address, c.address = .ok address ∧
      (Endpoint.read address = .ok ⟨some host, some port, some scheme⟩ ↔ Url.IsBare host) := by
  obtain ⟨hhost, hport, hhttp, hhttps⟩ := resolve_addressOnly hread h
  have hwritten : Url.IsHost host := Endpoint.isHost_of_read hread rfl rfl
  obtain ⟨hlow, hhigh⟩ := Endpoint.port_bounds hread port rfl
  obtain ⟨n, rfl⟩ := Int.eq_ofNat_of_zero_le hlow
  exact ⟨_, address_of_parts hhost hport hhttp hhttps,
    Endpoint.read_printed_iff hwritten (Int.ofNat_le.mp hhigh)⟩

/-- User information, capitals, a zone and a path, with a file that names another node. -/
theorem address_reads_back_iff_capitals :
    let raw : Text := "HTTPS://User@Node.EXAMPLE%Zone:08080/path"
    let f : Settings := ⟨.text "b:2", .text "b", .int 2, .bool false, .null⟩
    ∃ c address, resolve "c.yaml" (addressOnly raw) .unset f = .ok c ∧ c.address = .ok address ∧
      Endpoint.read raw = .ok ⟨some "node.example%Zone", some 8080, some .https⟩ ∧
      Endpoint.read address = .ok ⟨some "node.example%Zone", some 8080, some .https⟩ := by
  intro raw f
  have hread : Endpoint.read raw = .ok ⟨some "node.example%Zone", some 8080, some .https⟩ :=
    toOption_eq_some.mp (by decide +kernel)
  have hreads : Reads "c.yaml" (addressOnly raw) .unset f
      ⟨⟨some "node.example%Zone", some 8080, some .https⟩, none, none, some 2, none, none, none⟩ :=
    ⟨hread, rfl, rfl, rfl, rfl, rfl, rfl⟩
  obtain ⟨address, haddress, hback⟩ := address_reads_back_iff hread hreads.resolve
  have hbare : Url.IsBare "node.example%Zone" := by
    unfold Url.IsBare
    decide
  exact ⟨_, address, hreads.resolve, haddress, hread, hback.mpr hbare⟩

/-- The URL of the loopback address of IPv6 is dialed by an address that is no URL. -/
theorem address_drops_brackets :
    let raw : Text := "http://[::1]:8080"
    Endpoint.read raw = .ok ⟨some "::1", some 8080, some .http⟩ ∧
      ∃ c, resolve "c.yaml" (addressOnly raw) .unset .unset = .ok c ∧
        c.address = .ok "http://::1:8080" ∧ (Endpoint.read "http://::1:8080").toOption = none := by
  intro raw
  have hread : Endpoint.read raw = .ok ⟨some "::1", some 8080, some .http⟩ :=
    toOption_eq_some.mp (by decide +kernel)
  have hreads : Reads "c.yaml" (addressOnly raw) .unset .unset
      ⟨⟨some "::1", some 8080, some .http⟩, none, none, none, none, none, none⟩ :=
    ⟨hread, rfl, rfl, rfl, rfl, rfl, rfl⟩
  exact ⟨hread, _, hreads.resolve, toOption_eq_some.mp (by decide +kernel), by decide +kernel⟩

end NodeClient.NodeConfig
