import NodeClient.Proofs.Address.Endpoint

/-! Addresses that are no URL. What such a text is read as, what is wrong with it where it is
refused, and that a host written before a port is read again, in brackets or without. -/

namespace NodeClient

/-- The standard configuration, with another host and another port. -/
def NodeConfig.standardAt (host : Text) (n : Nat) : NodeConfig :=
  { NodeConfig.standard with host := .text host, port := n }

theorem NodeConfig.address_standardAt (host : Text) (n : Nat) :
    (standardAt host n).address = .ok (host ++ Url.colon :: Text.ofNat n) := by
  have hshown : Config.shown (standardAt host n).host = .ok host := rfl
  have hdigits : Text.ofInt (standardAt host n).port = Text.ofNat n := rfl
  have hcolon : (":" : Text) = [Url.colon] := rfl
  rw [address, hshown]
  dsimp only
  rw [hdigits, hcolon, List.append_assoc]
  rfl

namespace Endpoint

/-- The stripped text is a host and a port, with its last colon between them. -/
structure Splits (raw host port : Text) : Prop where
  text : Text.strip raw = host ++ Url.colon :: port
  full : host ≠ []
  last : Url.colon ∉ port

/-- How messages name an address. -/
def portSource (raw : Text) : Text := "address " ++ (Text.strip raw).quoted

/-- What comes of a text that is no URL: nothing of an empty one, a host and a port in their range
and no scheme, or a refusal that says what is wrong. -/
inductive PlainReading (raw : Text) : Outcome Endpoint → Prop where
  | absent (hempty : raw = []) : PlainReading raw (.ok .absent)
  | hostPort {host port : Text} {n : Int} (hsplits : Splits raw host port)
      (hport : Numeral.integer? port = some n) (hlow : 1 ≤ n) (hhigh : n ≤ 65535) :
      PlainReading raw (.ok ⟨some (Text.trim isBracket host), some n, none⟩)
  | noHost (hfull : raw ≠ []) (h : ∀ host port, ¬ Splits raw host port) :
      PlainReading raw (Config.refuse (.addressShape (Text.strip raw)))
  | noNumber {host port : Text} (hsplits : Splits raw host port)
      (hport : Numeral.integer? port = none) :
      PlainReading raw (Config.refuse (.invalidPort (portSource raw) port))
  | outOfRange {host port : Text} {n : Int} (hsplits : Splits raw host port)
      (hport : Numeral.integer? port = some n) (hrange : n < 1 ∨ 65535 < n) :
      PlainReading raw (Config.refuse (.portRange (portSource raw) port))

theorem readHostPort_append {host port : Text} (hfull : host ≠ []) (hlast : Url.colon ∉ port) :
    readHostPort (host ++ Url.colon :: port) =
      (Config.port ("address " ++ Text.quoted (host ++ Url.colon :: port)) (.text port)).map
        fun found => ⟨some (Text.trim isBracket host), found, none⟩ := by
  obtain ⟨c, rest, rfl⟩ := List.exists_cons_of_ne_nil hfull
  unfold readHostPort
  rw [Text.splitLast_append hlast]
  dsimp only
  cases Config.port _ (.text port) <;> rfl

theorem read_of_no_url {raw : Text} (hfull : raw ≠ [])
    (h : (Text.strip raw).includes "://" = false) : read raw = readHostPort (Text.strip raw) := by
  have hfull' : raw.isEmpty = false := List.isEmpty_eq_false_iff.mpr hfull
  rw [read, hfull', if_neg (by decide), if_neg (by simp [h])]

theorem plainReading_of_splits {raw host port : Text} (h : Splits raw host port) :
    PlainReading raw (readHostPort (Text.strip raw)) := by
  have hread := readHostPort_append h.full h.last
  rw [← h.text, Config.port_text] at hread
  rw [hread]
  cases hport : Numeral.integer? port with
  | none => exact .noNumber h hport
  | some n =>
    dsimp only
    split
    · rename_i hrange
      simp only [Bool.and_eq_true, decide_eq_true_eq] at hrange
      exact .hostPort h hport (by omega) (by omega)
    · rename_i hrange
      simp only [Bool.and_eq_true, decide_eq_true_eq] at hrange
      exact .outOfRange h hport (by omega)

theorem readHostPort_of_no_host {raw : Text} (h : ∀ host port, ¬ Splits raw host port) :
    readHostPort (Text.strip raw) = Config.refuse (.addressShape (Text.strip raw)) := by
  unfold readHostPort
  rcases Text.splitLast_cases Url.colon (Text.strip raw) with
    ⟨-, hsplit⟩ | ⟨host, port, htext, hlast, hsplit⟩
  · rw [hsplit]
  · rw [hsplit]
    cases host with
    | nil => rfl
    | cons c host => exact absurd ⟨htext, List.cons_ne_nil c host, hlast⟩ (h (c :: host) port)

theorem plainReading {raw : Text} (h : raw.includes "://" = false) :
    PlainReading raw (read raw) := by
  by_cases hempty : raw = []
  · rw [hempty]
    exact .absent rfl
  have hkind : (Text.strip raw).includes "://" = false := by
    rw [Bool.eq_false_iff] at h ⊢
    intro hstrip
    exact h (Text.includes_iff.mpr ((Text.includes_iff.mp hstrip).trans (Text.strip_infix raw)))
  rw [read_of_no_url hempty hkind]
  by_cases hsplits : ∃ host port, Splits raw host port
  · obtain ⟨host, port, hsplits⟩ := hsplits
    exact plainReading_of_splits hsplits
  · have hnone : ∀ host port, ¬ Splits raw host port := fun host port h => hsplits ⟨host, port, h⟩
    rw [readHostPort_of_no_host hnone]
    exact .noHost hempty hnone

/-! Addresses that are written -/

/-- A host that can stand in an address as it is. -/
structure IsPlainHost (host : Text) : Prop where
  full : host ≠ []
  noUrl : host.includes "://" = false
  first : ∀ c ∈ host.head?, c.isBlank = false ∧ isBracket c = false
  last : ∀ c ∈ host.getLast?, c.isBlank = false ∧ isBracket c = false

theorem IsPlainHost.starts {host : Text} (h : IsPlainHost host) :
    ∃ c tail, host = c :: tail ∧ c.isBlank = false ∧ isBracket c = false := by
  obtain ⟨c, tail, rfl⟩ := List.exists_cons_of_ne_nil h.full
  exact ⟨c, tail, rfl, h.first c rfl⟩

theorem IsPlainHost.ends {host : Text} (h : IsPlainHost host) :
    ∃ front c, host = front ++ [c] ∧ c.isBlank = false ∧ isBracket c = false :=
  ⟨host.dropLast, host.getLast h.full, (List.dropLast_concat_getLast h.full).symm,
    h.last _ (List.getLast?_eq_some_getLast h.full)⟩

/-- What stands before the last colon is read as the host, without the brackets around it. -/
theorem read_append {front : Text} {n : Nat}
    (hstart : ∃ c tail, front = c :: tail ∧ c.isBlank = false)
    (hkind : (front ++ Url.colon :: Text.ofNat n).includes "://" = false)
    (hlow : 1 ≤ n) (hhigh : n ≤ 65535) :
    read (front ++ Url.colon :: Text.ofNat n) =
      .ok ⟨some (Text.trim isBracket front), some n, none⟩ := by
  have hfull : front ≠ [] := by
    obtain ⟨c, tail, rfl, -⟩ := hstart
    exact List.cons_ne_nil c tail
  have hdigits := isDecimal_ofNat n
  have hstrip : Text.strip (front ++ Url.colon :: Text.ofNat n) =
      front ++ Url.colon :: Text.ofNat n := by
    refine Text.strip_of_edges ?_ ?_
    · obtain ⟨c, tail, rfl, hc⟩ := hstart
      exact ⟨c, _, rfl, hc⟩
    · refine ⟨front ++ Url.colon :: (Text.ofNat n).dropLast, (Text.ofNat n).getLast hdigits.1, ?_,
        CodePoint.not_blank_of_isDigit (hdigits.2.1 _ (List.getLast_mem hdigits.1))⟩
      rw [List.append_assoc, List.cons_append, List.dropLast_concat_getLast]
  have hwithin : WithinDigits n :=
    .of_lt_pow (show 5 ≤ maxDigits by decide) (show n < 100000 by omega)
  rw [read_of_no_url (List.append_ne_nil_of_left_ne_nil hfull _) (hstrip.symm ▸ hkind), hstrip,
    readHostPort_append hfull (not_mem_ofNat (by decide) n), Config.port_text,
    Numeral.integer?_ofNat hwithin]
  have hrange : (decide (0 < (n : Int)) && decide ((n : Int) < 65536)) = true := by
    simp only [Bool.and_eq_true, decide_eq_true_eq]
    omega
  simp only [hrange, if_true, Except.map]

section Written

variable {host : Text} (hhost : IsPlainHost host)
include hhost

theorem IsPlainHost.trim : Text.trim isBracket host = host := by
  obtain ⟨c, tail, hstart, -, hc⟩ := hhost.starts
  obtain ⟨front, d, hend, -, hd⟩ := hhost.ends
  exact Text.trim_of_edges ⟨c, tail, hstart, hc⟩ ⟨front, d, hend, hd⟩

theorem IsPlainHost.trim_bracketed :
    Text.trim isBracket (Url.openBracket :: (host ++ [Url.closeBracket])) = host := by
  obtain ⟨c, tail, hstart, -, hc⟩ := hhost.starts
  obtain ⟨front, d, hend, -, hd⟩ := hhost.ends
  exact Text.trim_eq (List.forall_mem_singleton.mpr rfl) (List.forall_mem_singleton.mpr rfl)
    ⟨c, tail, hstart, hc⟩ ⟨front, d, hend, hd⟩

/-- A URL is told by a slash, and there is none after the host. -/
theorem IsPlainHost.includes_append {rest : Text} (hslash : CodePoint.ofChar '/' ∉ rest) :
    (host ++ rest).includes "://" = false := by
  have hnone := hhost.noUrl
  rw [Bool.eq_false_iff] at hnone ⊢
  exact fun h => hnone (Text.includes_of_append ":/" hslash h)

variable {n : Nat} (hlow : 1 ≤ n) (hhigh : n ≤ 65535)
include hlow hhigh

theorem read_hostPort :
    read (host ++ Url.colon :: Text.ofNat n) = .ok ⟨some host, some n, none⟩ := by
  obtain ⟨c, tail, hstart, hc, -⟩ := hhost.starts
  have hslash : CodePoint.ofChar '/' ∉ Url.colon :: Text.ofNat n :=
    List.not_mem_cons_of_ne_of_not_mem (by decide) (not_mem_ofNat (by decide) n)
  rw [read_append ⟨c, tail, hstart, hc⟩ (hhost.includes_append hslash) hlow hhigh, hhost.trim]

theorem read_bracketed :
    read (Url.openBracket :: (host ++ [Url.closeBracket]) ++ Url.colon :: Text.ofNat n) =
      .ok ⟨some host, some n, none⟩ := by
  have hslash : CodePoint.ofChar '/' ∉ Url.closeBracket :: Url.colon :: Text.ofNat n :=
    List.not_mem_cons_of_ne_of_not_mem (by decide)
      (List.not_mem_cons_of_ne_of_not_mem (by decide) (not_mem_ofNat (by decide) n))
  have hkind : Text.includes
      (Url.openBracket :: (host ++ [Url.closeBracket]) ++ Url.colon :: Text.ofNat n) "://" = false := by
    have hrest := hhost.includes_append hslash
    rw [Bool.eq_false_iff, Ne, Text.includes_iff] at hrest ⊢
    rw [List.cons_append, List.append_assoc, List.infix_cons_iff]
    rintro (hstart | hinside)
    · exact absurd (List.cons_prefix_cons.mp hstart).1 (by decide)
    · exact hrest hinside
  rw [read_append ⟨Url.openBracket, _, rfl, by decide⟩ hkind hlow hhigh, hhost.trim_bracketed]

end Written

/-- Every host that starts and ends with neither a blank nor a bracket is read again from the
addresses that it is written in; and whatever is no URL is read or refused as `PlainReading` says. -/
theorem hostPort_reads_back :
    (∀ (host : Text) (n : Nat), IsPlainHost host → 1 ≤ n → n ≤ 65535 →
      read (host ++ ":" ++ Text.ofNat n) = .ok ⟨some host, some n, none⟩ ∧
        read ("[" ++ host ++ "]:" ++ Text.ofNat n) = .ok ⟨some host, some n, none⟩ ∧
        ∃ address, (NodeConfig.standardAt host n).address = .ok address ∧
          read address = .ok ⟨some host, some n, none⟩) ∧
      ∀ raw : Text, raw.includes "://" = false → PlainReading raw (read raw) := by
  refine ⟨fun host n hhost hlow hhigh => ?_, fun raw => plainReading⟩
  have hplain := read_hostPort hhost hlow hhigh
  have hbracketed := read_bracketed hhost hlow hhigh
  have hcolon : (":" : Text) = [Url.colon] := rfl
  have hopen : ("[" : Text) = [Url.openBracket] := rfl
  have hclose : ("]:" : Text) = [Url.closeBracket, Url.colon] := rfl
  refine ⟨?_, ?_, _, NodeConfig.address_standardAt host n, hplain⟩
  · rw [hcolon, List.append_assoc]
    exact hplain
  · rw [hopen, hclose]
    simpa using hbracketed

/-- A host with colons, brackets and a slash in it, and a port in digits of two scripts. -/
theorem hostPort_reads_back_zone :
    let host : Text := "fe80::1%[a]/b"
    IsPlainHost host ∧ read "fe80::1%[a]/b:65535" = .ok ⟨some host, some 65535, none⟩ ∧
      read "[fe80::1%[a]/b]:65535" = .ok ⟨some host, some 65535, none⟩ ∧
      (∃ address, (NodeConfig.standardAt host 65535).address = .ok address ∧
        read address = .ok ⟨some host, some 65535, none⟩) ∧
      PlainReading " []:1_٢ " (read " []:1_٢ ") := by
  intro host
  have hhost : IsPlainHost host := ⟨by decide, by decide, by decide, by decide⟩
  obtain ⟨hplain, hbracketed, haddress⟩ :=
    hostPort_reads_back.1 host 65535 hhost (by decide) (by decide)
  exact ⟨hhost, hplain, hbracketed, haddress, hostPort_reads_back.2 _ (by decide)⟩

end Endpoint

end NodeClient
