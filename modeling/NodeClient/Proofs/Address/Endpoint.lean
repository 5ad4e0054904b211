import NodeClient.Proofs.Address.Url
import NodeClient.Proofs.Config.Resolve
import NodeClient.Proofs.Text.Trim

/-! What an address can be read as, and the URL that reads as given parts. -/

namespace NodeClient

def Scheme.name : Scheme → Text
  | .http => "http"
  | .https => "https"

theorem Scheme.name_ne_nil (scheme : Scheme) : scheme.name ≠ [] := by
  cases scheme <;> decide

theorem Scheme.isLower_name (scheme : Scheme) : ∀ c ∈ scheme.name, c.isLower = true := by
  cases scheme <;> decide

namespace Endpoint

theorem scheme?_eq_some_iff {name : Text} {scheme : Scheme} :
    scheme? name = some scheme ↔ name = scheme.name := by
  have hname : scheme? scheme.name = some scheme := by cases scheme <;> decide
  refine ⟨fun h => ?_, fun h => h ▸ hname⟩
  unfold scheme? at h
  split at h
  · cases h
    assumption
  · split at h
    · cases h
      assumption
    · cases h

theorem portNumber?_eq_some_iff {url : Url} {port : Option Nat} :
    url.portNumber? = some port ↔ (url.port = [] ∧ port = none) ∨
      ∃ n, Numeral.natural? url.port = some n ∧ n ≤ 65535 ∧ port = some n := by
  unfold Url.portNumber?
  constructor
  · intro h
    split at h
    · rename_i hempty
      exact .inl ⟨List.isEmpty_iff.mp hempty, (Option.some.inj h).symm⟩
    · split at h
      · rename_i n hdigits
        split at h
        · rename_i hn
          exact .inr ⟨n, hdigits, hn, (Option.some.inj h).symm⟩
        · cases h
      · cases h
  · rintro (⟨hempty, rfl⟩ | ⟨n, hdigits, hn, rfl⟩)
    · rw [hempty]
      rfl
    · have hfull : url.port.isEmpty = false := by
        cases hport : url.port with
        | nil =>
          rw [hport] at hdigits
          cases hdigits
        | cons c digits => rfl
      rw [hfull, hdigits]
      exact if_pos hn

theorem portNumber?_le {url : Url} {n : Nat} (h : url.portNumber? = some (some n)) : n ≤ 65535 := by
  rcases portNumber?_eq_some_iff.mp h with ⟨-, hnone⟩ | ⟨m, -, hm, hsome⟩
  · cases hnone
  · obtain rfl := Option.some.inj hsome
    exact hm

theorem portNumber?_ofNat {url : Url} {n : Nat} (hport : url.port = Text.ofNat n)
    (hn : n ≤ 65535) : url.portNumber? = some (some n) := by
  have hdigits : WithinDigits n :=
    .of_lt_pow (show 5 ≤ maxDigits by decide) (show n < 100000 by omega)
  rw [portNumber?_eq_some_iff, hport]
  exact .inr ⟨n, Numeral.natural?_ofNat hdigits, hn, rfl⟩

theorem readUrl_eq_ok_iff {raw : Text} {found : Endpoint} :
    readUrl raw = .ok found ↔ ∃ url scheme host port, Url.read? raw = some url ∧
      url.scheme = Scheme.name scheme ∧ url.host = some host ∧ url.portNumber? = some port ∧
      found = ⟨some host, port.map Int.ofNat, some scheme⟩ := by
  unfold readUrl
  constructor
  · intro h
    split at h
    · cases h
    · rename_i url hurl
      split at h
      · rename_i scheme host hscheme hhost
        split at h
        · rename_i port hport
          exact ⟨url, scheme, host, port, hurl, scheme?_eq_some_iff.mp hscheme, hhost, hport,
            (Except.ok.inj h).symm⟩
        · cases h
      · cases h
  · rintro ⟨url, scheme, host, port, hurl, hscheme, hhost, hport, rfl⟩
    rw [hurl]
    dsimp only
    rw [scheme?_eq_some_iff.mpr hscheme, hhost]
    dsimp only
    rw [hport]

theorem readHostPort_eq_ok {raw : Text} {found : Endpoint} (h : readHostPort raw = .ok found) :
    ∃ host port n, raw = host ++ Url.colon :: port ∧ Url.colon ∉ port ∧ 1 ≤ n ∧ n ≤ 65535 ∧
      found = ⟨some (Text.trim isBracket host), some n, none⟩ := by
  unfold readHostPort at h
  split at h
  · rename_i c host port hsplit
    split at h
    · cases h
    · rename_i p hport
      obtain rfl := Except.ok.inj h
      rcases Text.splitLast_cases Url.colon raw with ⟨-, hwhole⟩ | ⟨before, after, hraw, hlast, hcut⟩
      · cases hwhole.symm.trans hsplit
      · cases hcut.symm.trans hsplit
        rcases Config.port_eq_ok hport with ⟨hnull, -⟩ | ⟨-, n, rfl, -, hlow, hhigh⟩
        · cases hnull
        · exact ⟨c :: host, port, n, hraw, hlast, hlow, hhigh, rfl⟩
  · cases h

/-- What an address is read as: nothing, the parts of a URL, or a host and a port. -/
inductive ReadAs (raw : Text) : Endpoint → Prop where
  | absent (hempty : raw = []) : ReadAs raw .absent
  | url {url : Url} {scheme : Scheme} {host : Text} {port : Option Nat}
      (hkind : (Text.strip raw).includes "://" = true) (hread : Url.read? (Text.strip raw) = some url)
      (hhost : url.host = some host) (hport : url.portNumber? = some port) :
      ReadAs raw ⟨some host, port.map Int.ofNat, some scheme⟩
  | hostPort {host port : Text} {n : Int} (hkind : (Text.strip raw).includes "://" = false)
      (hraw : Text.strip raw = host ++ Url.colon :: port) (hlast : Url.colon ∉ port)
      (hlow : 1 ≤ n) (hhigh : n ≤ 65535) :
      ReadAs raw ⟨some (Text.trim isBracket host), some n, none⟩

theorem readAs_of_read {raw : Text} {found : Endpoint} (h : read raw = .ok found) :
    ReadAs raw found := by
  unfold read at h
  split at h
  · rename_i hempty
    obtain rfl := Except.ok.inj h
    exact .absent (List.isEmpty_iff.mp hempty)
  dsimp only at h
  split at h
  · rename_i hkind
    obtain ⟨url, scheme, host, port, hread, -, hhost, hport, rfl⟩ := readUrl_eq_ok_iff.mp h
    exact .url hkind hread hhost hport
  · rename_i hkind
    obtain ⟨host, port, n, hraw, hlast, hlow, hhigh, rfl⟩ := readHostPort_eq_ok h
    exact .hostPort (Bool.eq_false_iff.mpr hkind) hraw hlast hlow hhigh

section Read

variable {raw : Text} {found : Endpoint}

theorem host_eq_none_iff (h : read raw = .ok found) : found.host = none ↔ raw = [] := by
  cases readAs_of_read h with
  | absent hempty => exact iff_of_true rfl hempty
  | url hkind =>
    refine iff_of_false nofun ?_
    rintro rfl
    exact absurd hkind (by decide)
  | hostPort _ hraw =>
    refine iff_of_false nofun ?_
    rintro rfl
    exact absurd hraw.symm (List.append_ne_nil_of_right_ne_nil _ (List.cons_ne_nil _ _))

/-- There is nothing but brackets before the last colon of an address that is no URL. -/
def LacksHost (raw : Text) : Prop :=
  (Text.strip raw).includes "://" = false ∧ ∃ brackets port,
    Text.strip raw = brackets ++ Url.colon :: port ∧ Url.colon ∉ port ∧
      ∀ c ∈ brackets, isBracket c = true

theorem host_eq_nil_iff (h : read raw = .ok found) : found.host = some [] ↔ LacksHost raw := by
  cases readAs_of_read h with
  | absent hempty =>
    refine iff_of_false nofun ?_
    rintro ⟨-, brackets, port, hraw, -⟩
    rw [hempty] at hraw
    exact absurd hraw.symm (List.append_ne_nil_of_right_ne_nil _ (List.cons_ne_nil _ _))
  | url hkind hread hhost =>
    refine iff_of_false (fun hnil => ?_) fun hlacks => ?_
    · exact (Url.isHost_of_read? hread hhost).ne_nil (Option.some.inj hnil)
    · exact absurd (hkind.symm.trans hlacks.1) (by decide)
  | hostPort hkind hraw hlast =>
    rw [Option.some_inj, Text.trim_eq_nil_iff]
    refine ⟨fun hbrackets => ⟨hkind, _, _, hraw, hlast, hbrackets⟩, ?_⟩
    rintro ⟨-, brackets, port, hraw', hlast', hbrackets⟩
    have hsplit := (Text.splitLast_append hlast _).symm.trans
      (hraw ▸ hraw' ▸ Text.splitLast_append hlast' brackets)
    cases hsplit
    exact hbrackets

theorem port_bounds (h : read raw = .ok found) : ∀ n ∈ found.port, 0 ≤ n ∧ n ≤ 65535 := by
  intro n hn
  cases readAs_of_read h with
  | absent => cases hn
  | url _ _ _ hport =>
    obtain ⟨m, rfl, rfl⟩ := Option.map_eq_some_iff.mp hn
    exact ⟨Int.natCast_nonneg m, Int.ofNat_le.mpr (portNumber?_le hport)⟩
  | hostPort _ _ _ hlow hhigh =>
    obtain rfl := Option.some.inj hn
    exact ⟨by omega, hhigh⟩

/-- A URL whose port is written in zeros. -/
def HasZeroPort (raw : Text) : Prop :=
  (Text.strip raw).includes "://" = true ∧
    ∃ url, Url.read? (Text.strip raw) = some url ∧ Numeral.natural? url.port = some 0

theorem port_eq_zero_iff (h : read raw = .ok found) : found.port = some 0 ↔ HasZeroPort raw := by
  cases readAs_of_read h with
  | absent hempty =>
    refine iff_of_false nofun ?_
    rintro ⟨hkind, -⟩
    rw [hempty] at hkind
    exact absurd hkind (by decide)
  | url hkind hread _ hport =>
    constructor
    · intro hzero
      obtain ⟨n, rfl, hn⟩ := Option.map_eq_some_iff.mp hzero
      obtain rfl : n = 0 := Int.ofNat.inj hn
      rcases portNumber?_eq_some_iff.mp hport with ⟨-, hnone⟩ | ⟨m, hdigits, -, hsome⟩
      · cases hnone
      · obtain rfl := Option.some.inj hsome
        exact ⟨hkind, _, hread, hdigits⟩
    · rintro ⟨-, other, hother, hdigits⟩
      obtain rfl := Option.some.inj (hread.symm.trans hother)
      have hzero := portNumber?_eq_some_iff.mpr (.inr ⟨0, hdigits, by decide, rfl⟩)
      obtain rfl := Option.some.inj (hport.symm.trans hzero)
      rfl
  | hostPort hkind _ _ hlow =>
    refine iff_of_false (fun hzero => ?_) fun hzero => ?_
    · obtain rfl := Option.some.inj hzero
      exact absurd hlow (by decide)
    · exact absurd (hkind.symm.trans hzero.1) (by decide)

theorem isHost_of_read {host : Text} {scheme : Scheme} (h : read raw = .ok found)
    (hhost : found.host = some host) (hscheme : found.scheme = some scheme) : Url.IsHost host := by
  cases readAs_of_read h with
  | absent => cases hhost
  | url _ hread hurl =>
    obtain rfl := Option.some.inj hhost
    exact Url.isHost_of_read? hread hurl
  | hostPort => cases hscheme

end Read

/-! A URL that is printed without brackets around its host -/

theorem strip_printed (scheme : Scheme) (host : Text) (n : Nat) :
    Text.strip (Url.printed scheme.name host (Text.ofNat n)) =
      Url.printed scheme.name host (Text.ofNat n) := by
  obtain ⟨hne, hdigits, -⟩ := isDecimal_ofNat n
  have hstart : ∃ c tail, Url.printed scheme.name host (Text.ofNat n) = c :: tail ∧
      c.isBlank = false := by
    cases scheme with
    | http => exact ⟨CodePoint.ofChar 'h', _, rfl, by decide⟩
    | https => exact ⟨CodePoint.ofChar 'h', _, rfl, by decide⟩
  have hend : ∃ front c, Url.printed scheme.name host (Text.ofNat n) = front ++ [c] ∧
      c.isBlank = false := by
    refine ⟨scheme.name ++ (("://" : Text) ++ (host ++ Url.colon :: (Text.ofNat n).dropLast)),
      (Text.ofNat n).getLast hne, ?_,
      CodePoint.not_blank_of_isDigit (hdigits _ (List.getLast_mem hne))⟩
    rw [Url.printed]
    simp only [List.append_assoc, List.cons_append, List.dropLast_concat_getLast]
  exact Text.strip_of_edges hstart hend

/-- A URL that is printed without brackets reads as its parts exactly when the host needs none. -/
theorem read_printed_iff {scheme : Scheme} {host : Text} {n : Nat} (hhost : Url.IsHost host)
    (hn : n ≤ 65535) :
    read (Url.printed scheme.name host (Text.ofNat n)) =
      .ok ⟨some host, some n, some scheme⟩ ↔ Url.IsBare host := by
  have hname := scheme.isLower_name
  have hne := scheme.name_ne_nil
  have hdigits := (isDecimal_ofNat n).2.1
  have hfull : List.isEmpty (Url.printed scheme.name host (Text.ofNat n)) = false := by
    simp [Url.printed, hne]
  have hread : read (Url.printed scheme.name host (Text.ofNat n)) =
      readUrl (Url.printed scheme.name host (Text.ofNat n)) := by
    rw [read, hfull, strip_printed]
    exact if_pos (Text.includes_append _ _ _)
  rw [hread, readUrl_eq_ok_iff]
  constructor
  · rintro ⟨url, _, _, _, hurl, -, hsame, -, hfound⟩
    rw [← (Endpoint.mk.inj hfound).1] at hsame
    exact Url.isBare_of_read?_printed hname hne hhost hdigits hurl hsame
  · intro hbare
    exact ⟨_, scheme, host, some n, Url.read?_printed_of_bare hname hne hhost hdigits hbare, rfl,
      rfl, portNumber?_ofNat rfl hn, rfl⟩

end Endpoint

end NodeClient
