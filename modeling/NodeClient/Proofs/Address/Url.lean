import Mathlib.Data.List.TakeWhile
import NodeClient.Address.Url
import NodeClient.Proofs.Number.Decimal
import NodeClient.Proofs.Text.Lower
import NodeClient.Proofs.Text.Split

/-! The host of a URL that was read: which code points it can hold, and what is read when it is
written into a URL again without brackets. -/

namespace NodeClient.Url

/-- The numbers of the code points that no authority holds: tab, LF, CR, `/`, `?`, `#`, and those
that hide a mark. -/
def authorityBreaks : List Nat := [0x09, 0x0A, 0x0D] ++ ([0x2F, 0x3F, 0x23] ++ hiddenMarks)

abbrev atSign : CodePoint := CodePoint.ofChar '@'
abbrev percent : CodePoint := CodePoint.ofChar '%'

/-! Small letters -/

theorem hiddenMarks_apart : ∀ r ∈ capitalRuns, ∀ n ∈ hiddenMarks,
    n < CapitalRun.smallFirst r ∨ CapitalRun.smallLast r < n := by
  decide +kernel

/-- What stands for a capital is none of the marks that take a URL apart. -/
theorem bounds_of_standsForCapital {c : CodePoint} (h : c.StandsForCapital) :
    0x61 ≤ c.val ∧ c.val ∉ hiddenMarks := by
  have hhigh : ∀ n ∈ hiddenMarks, 0x7A < n := by decide
  have hforms : ∀ c ∈ [CodePoint.combiningDot, CodePoint.smallSigma, CodePoint.finalSigma],
      0x61 ≤ c.val ∧ c.val ∉ hiddenMarks := by decide
  rcases h with ⟨hlow, hless⟩ | hform | ⟨r, hr, hfirst, hlast⟩
  · exact ⟨hlow, fun hmem => absurd (hhigh _ hmem) (by omega)⟩
  · exact hforms c hform
  · refine ⟨Nat.le_trans (CapitalRun.small_bounds r hr).1 hfirst, fun hmem => ?_⟩
    rcases hiddenMarks_apart r hr _ hmem with hbefore | hafter <;> omega

theorem lowerHost_of_not_mem {host : Text} (h : percent ∉ host) :
    lowerHost host = Text.lower host := by
  rw [lowerHost, Text.splitFirst_of_not_mem h]

theorem lowerHost_append {name : Text} (h : percent ∉ name) (zone : Text) :
    lowerHost (name ++ percent :: zone) = Text.lower name ++ percent :: zone := by
  rw [lowerHost, Text.splitFirst_append h]

theorem mem_lowerHost {host : Text} {d : CodePoint} (h : d ∈ lowerHost host) :
    d ∈ host ∨ d.StandsForCapital := by
  by_cases hzone : percent ∈ host
  · obtain ⟨name, zone, rfl, hname⟩ := List.eq_append_cons_of_mem hzone
    rw [lowerHost_append hname] at h
    rcases List.mem_append.mp h with hlower | hrest
    · exact (Text.mem_lower hlower).imp_left (List.mem_append_left _)
    · exact .inl (List.mem_append_right _ hrest)
  · rw [lowerHost_of_not_mem hzone] at h
    exact Text.mem_lower h

theorem mem_of_mem_lowerHost {host : Text} {d : CodePoint} (h : d ∈ lowerHost host)
    (hd : d.val < 0x61) : d ∈ host := by
  refine (mem_lowerHost h).resolve_right fun hcapital => ?_
  have := (bounds_of_standsForCapital hcapital).1
  omega

theorem lowerHost_lowerHost (host : Text) : lowerHost (lowerHost host) = lowerHost host := by
  have hkeep {name : Text} (h : percent ∉ name) : percent ∉ Text.lower name := fun hmem => by
    have hcapital := (Text.mem_lower hmem).resolve_left h
    exact absurd (bounds_of_standsForCapital hcapital).1 (by decide)
  by_cases hzone : percent ∈ host
  · obtain ⟨name, zone, rfl, hname⟩ := List.eq_append_cons_of_mem hzone
    rw [lowerHost_append hname, lowerHost_append (hkeep hname), Text.lower_lower]
  · rw [lowerHost_of_not_mem hzone, lowerHost_of_not_mem (hkeep hzone), Text.lower_lower]

theorem lowerHost_ne_nil {host : Text} (h : host ≠ []) : lowerHost host ≠ [] := by
  by_cases hzone : percent ∈ host
  · obtain ⟨name, zone, rfl, hname⟩ := List.eq_append_cons_of_mem hzone
    rw [lowerHost_append hname]
    exact List.append_ne_nil_of_right_ne_nil _ (List.cons_ne_nil _ _)
  · rw [lowerHost_of_not_mem hzone]
    exact Text.lower_ne_nil h

/-! The parts of a text -/

section Parts

variable {s auth part : Text} {c : CodePoint}

theorem mem_clean (h : c ∈ clean s) : c.val ∉ [0x09, 0x0A, 0x0D] := by
  have hkeep := (List.mem_filter.mp h).2
  intro hmem
  have hmarks : ∀ n ∈ [0x09, 0x0A, 0x0D],
      n = 0x09 ∨ n = CodePoint.newline.val ∨ n = CodePoint.carriageReturn.val := by decide
  simp only [CodePoint.isLineMark, Bool.not_eq_true', Bool.or_eq_false_iff, beq_eq_false_iff_ne]
    at hkeep
  rcases hmarks _ hmem with htab | hline | hreturn
  · exact hkeep.2 htab
  · exact hkeep.1.1 (CodePoint.eq_of_val_eq hline)
  · exact hkeep.1.2 (CodePoint.eq_of_val_eq hreturn)

theorem mem_of_mem_splitScheme (h : c ∈ (splitScheme s).2) : c ∈ s := by
  unfold splitScheme at h
  split at h
  · rename_i a name rest hsplit
    split at h
    · rcases Text.splitFirst_cases (CodePoint.ofChar ':') s with ⟨-, hself⟩ |
        ⟨before, after, hs, -, hcut⟩
      · cases hself.symm.trans hsplit
      · cases hcut.symm.trans hsplit
        exact hs ▸ List.mem_append_right _ (List.mem_cons_of_mem _ h)
    · exact h
  · exact h

theorem mem_authority (h : c ∈ authority s) : c ∈ s ∧ c.val ∉ [0x2F, 0x3F, 0x23] := by
  unfold authority at h
  split at h
  · split at h
    · refine ⟨?_, ?_⟩
      · exact List.mem_cons_of_mem _ (List.mem_cons_of_mem _
          ((List.takeWhile_prefix _).subset h))
      · simpa [and_assoc] using List.mem_takeWhile_imp h
    · cases h
  · cases h

theorem atSign_not_mem_hostPart (auth : Text) : atSign ∉ hostPart auth := by
  rcases Text.splitLast_cases atSign auth with ⟨hmem, hsplit⟩ | ⟨user, part, -, hmem, hsplit⟩
  · rw [hostPart, hsplit]
    exact hmem
  · rw [hostPart, hsplit]
    exact hmem

theorem mem_of_mem_hostPart (h : c ∈ hostPart auth) : c ∈ auth := by
  rcases Text.splitLast_cases atSign auth with ⟨-, hsplit⟩ | ⟨user, part, hauth, -, hsplit⟩
  · rw [hostPart, hsplit] at h
    exact h
  · rw [hostPart, hsplit] at h
    exact hauth ▸ List.mem_append_right _ (List.mem_cons_of_mem _ h)

theorem splitHost_of_not_mem (h : openBracket ∉ part) :
    splitHost part =
      ((Text.splitFirst colon part).1, (Text.splitFirst colon part).2.getD [], [], []) := by
  rw [splitHost, Text.splitFirst_of_not_mem h]

theorem splitHost_append {before : Text} (h : openBracket ∉ before) (rest : Text) :
    (splitHost (before ++ openBracket :: rest)).1 = (Text.splitFirst closeBracket rest).1 := by
  rw [splitHost, Text.splitFirst_append h]

/-- A host without brackets holds no opening one, a host out of brackets no closing one. -/
theorem splitHost_host (part : Text) :
    (∀ c ∈ (splitHost part).1, c ∈ part) ∧
      (openBracket ∉ (splitHost part).1 ∨ closeBracket ∉ (splitHost part).1) := by
  rcases Text.splitFirst_cases openBracket part with ⟨hmem, -⟩ | ⟨before, rest, rfl, hmem, -⟩
  · rw [splitHost_of_not_mem hmem]
    exact ⟨fun _ => Text.mem_of_mem_beforeFirst, .inl (mt Text.mem_of_mem_beforeFirst hmem)⟩
  · rw [splitHost_append hmem]
    refine ⟨fun c h => List.mem_append_right _ (List.mem_cons_of_mem _ ?_), .inr ?_⟩
    · exact Text.mem_of_mem_beforeFirst h
    · exact Text.not_mem_beforeFirst closeBracket rest

end Parts

/-! What is read -/

/-- The parts of an authority, whatever its brackets and marks are. -/
def ofAuthority (scheme auth : Text) : Url :=
  let (host, port, _, _) := splitHost (hostPart auth)
  ⟨scheme, if host.isEmpty then none else some (lowerHost host), port⟩

theorem read?_eq_some_iff {raw scheme rest : Text} {url : Url}
    (hscheme : splitScheme (clean raw) = (scheme, rest)) :
    read? raw = some url ↔
      bracketsFit (authority rest) = true ∧ (∀ c ∈ authority rest, c.val ∉ hiddenMarks) ∧
        ofAuthority scheme (authority rest) = url := by
  rw [read?, hscheme]
  dsimp only
  split
  · rename_i hbad
    simp only [Bool.or_eq_true, Bool.not_eq_true', List.any_eq_true, List.contains_iff_mem] at hbad
    refine iff_of_false nofun ?_
    rintro ⟨hfit, hmarks, -⟩
    rcases hbad with hbad | ⟨c, hc, hmark⟩
    · exact Bool.eq_false_iff.mp hbad hfit
    · exact hmarks c hc hmark
  · rename_i hgood
    simp only [Bool.or_eq_true, Bool.not_eq_true', List.any_eq_true, List.contains_iff_mem,
      not_or, not_exists, not_and, Bool.not_eq_false] at hgood
    rw [Option.some_inj]
    exact ⟨fun h => ⟨hgood.1, hgood.2, h⟩, fun h => h.2.2⟩

theorem ofAuthority_host {scheme auth host : Text}
    (h : (ofAuthority scheme auth).host = some host) :
    (splitHost (hostPart auth)).1 ≠ [] ∧ lowerHost (splitHost (hostPart auth)).1 = host := by
  simp only [ofAuthority] at h
  split at h
  · cases h
  · rename_i hne
    exact ⟨mt List.isEmpty_iff.mpr hne, Option.some.inj h⟩

/-- A code point that is none of the marks around a host. -/
def IsPlain (c : CodePoint) : Prop := c ≠ atSign ∧ c.val ∉ authorityBreaks

theorem isPlain_of_standsForCapital {c : CodePoint} (h : c.StandsForCapital) : IsPlain c := by
  obtain ⟨hlow, hmark⟩ := bounds_of_standsForCapital h
  have hbreaks : ∀ n ∈ authorityBreaks, n < 0x61 ∨ n ∈ hiddenMarks := by decide
  refine ⟨?_, fun hmem => ?_⟩
  · rintro rfl
    exact absurd hlow (by decide)
  · rcases hbreaks _ hmem with hless | hhidden
    · omega
    · exact hmark hhidden

theorem isPlain_of_mem_hostPart {raw scheme rest : Text} {c : CodePoint}
    (hscheme : splitScheme (clean raw) = (scheme, rest))
    (hmarks : ∀ c ∈ authority rest, c.val ∉ hiddenMarks) (h : c ∈ hostPart (authority rest)) :
    IsPlain c := by
  have hauth := mem_of_mem_hostPart h
  obtain ⟨hrest, hend⟩ := mem_authority hauth
  have hclean : c ∈ (splitScheme (clean raw)).2 := by rwa [hscheme]
  refine ⟨?_, ?_⟩
  · rintro rfl
    exact atSign_not_mem_hostPart _ h
  · simp only [authorityBreaks, List.mem_append, not_or]
    exact ⟨mem_clean (mem_of_mem_splitScheme hclean), hend, hmarks c hauth⟩

/-- What the host of a URL is like that was read. -/
structure IsHost (host : Text) : Prop where
  ne_nil : host ≠ []
  small : lowerHost host = host
  plain : ∀ c ∈ host, IsPlain c
  brackets : openBracket ∉ host ∨ closeBracket ∉ host

theorem isHost_of_read? {raw host : Text} {url : Url} (h : read? raw = some url)
    (hhost : url.host = some host) : IsHost host := by
  cases hscheme : splitScheme (clean raw) with
  | mk scheme rest =>
    obtain ⟨-, hmarks, rfl⟩ := (read?_eq_some_iff hscheme).mp h
    obtain ⟨hne, rfl⟩ := ofAuthority_host hhost
    obtain ⟨hsub, hbrackets⟩ := splitHost_host (hostPart (authority rest))
    refine ⟨lowerHost_ne_nil hne, lowerHost_lowerHost _, fun c hc => ?_, ?_⟩
    · rcases mem_lowerHost hc with hold | hcapital
      · exact isPlain_of_mem_hostPart hscheme hmarks (hsub c hold)
      · exact isPlain_of_standsForCapital hcapital
    · exact hbrackets.imp (mt fun h => mem_of_mem_lowerHost h (by decide))
        (mt fun h => mem_of_mem_lowerHost h (by decide))

/-! A URL that is printed without brackets around its host -/

def printed (name host port : Text) : Text :=
  name ++ (("://" : Text) ++ (host ++ colon :: port))

theorem clean_eq_self {s : Text} {c : CodePoint} {rest : Text} (hs : s = c :: rest)
    (hstart : 0x20 < c.val) (h : ∀ c ∈ s, c.val ∉ [0x09, 0x0A, 0x0D]) : clean s = s := by
  have hkeep : s.dropWhile (fun c => c.val ≤ 0x20) = s := by
    subst hs
    exact List.dropWhile_cons_of_neg (by simpa using hstart)
  rw [clean, hkeep, List.filter_eq_self]
  intro c hc
  have hmem := h c hc
  simp only [CodePoint.isLineMark, Bool.not_eq_true', Bool.or_eq_false_iff, beq_eq_false_iff_ne]
  refine ⟨⟨?_, ?_⟩, fun htab => hmem (by simp [htab])⟩
  · rintro rfl
    exact hmem (by decide)
  · rintro rfl
    exact hmem (by decide)

theorem splitScheme_append {name : Text} (hne : name ≠ []) (hname : ∀ c ∈ name, c.isLower = true)
    (rest : Text) : splitScheme (name ++ colon :: rest) = (name, rest) := by
  have hcolon : colon ∉ name := fun h => absurd (hname _ h) (by decide)
  have hsmall : Text.lowerAscii name = name := by
    refine (List.map_congr_left fun c hc => ?_).trans (List.map_id name)
    have hlower := hname c hc
    simp only [CodePoint.isLower, Bool.and_eq_true, decide_eq_true_eq] at hlower
    refine CodePoint.lowerAscii_of_not_upper ?_
    simp only [CodePoint.isUpper, Bool.and_eq_false_iff, decide_eq_false_iff_not]
    omega
  have hletter {c : CodePoint} (hc : c ∈ name) : c.isLetter = true := by
    rw [CodePoint.isLetter, hname c hc, Bool.or_true]
  have hmarks : name.all isSchemeMark = true := by
    refine List.all_eq_true.mpr fun c hc => ?_
    rw [isSchemeMark, hletter hc, Bool.true_or, Bool.true_or]
  have hsplit : Text.splitFirst (CodePoint.ofChar ':') (name ++ colon :: rest) =
      (name, some rest) := Text.splitFirst_append hcolon rest
  rw [splitScheme, hsplit]
  cases name with
  | nil => exact absurd rfl hne
  | cons c name =>
    dsimp only
    rw [hletter List.mem_cons_self, hmarks, hsmall]
    rfl

theorem authority_slashes {auth : Text} (h : ∀ c ∈ auth, IsPlain c) :
    authority (("//" : Text) ++ auth) = auth := by
  let inside (c : CodePoint) : Bool := !(c.val == 0x2F || c.val == 0x3F || c.val == 0x23)
  have hends : ∀ n ∈ [0x2F, 0x3F, 0x23], n ∈ authorityBreaks := by decide
  have hinside : ∀ c ∈ auth, inside c = true := fun c hc => by
    have hout : c.val ∉ [0x2F, 0x3F, 0x23] := mt (hends _) (h c hc).2
    simpa [inside, and_assoc] using hout
  exact List.takeWhile_eq_self_iff.mpr hinside

theorem hostPart_of_plain {auth : Text} (h : ∀ c ∈ auth, IsPlain c) : hostPart auth = auth := by
  have hsign : atSign ∉ auth := fun hmem => (h _ hmem).1 rfl
  rw [hostPart, Text.splitLast_of_not_mem hsign]

/-- A host that can be told from its port without brackets. -/
def IsBare (host : Text) : Prop := colon ∉ host ∧ openBracket ∉ host ∧ closeBracket ∉ host

/-- An authority with one kind of brackets only has brackets that do not fit. -/
theorem not_mem_of_bracketsFit {auth : Text} (h : bracketsFit auth = true)
    (hone : openBracket ∉ auth ∨ closeBracket ∉ auth) :
    openBracket ∉ auth ∧ closeBracket ∉ auth := by
  unfold bracketsFit at h
  split at h
  · simp only [Bool.and_eq_true, List.contains_iff_mem] at h
    rcases hone with hopen | hclose
    · exact absurd h.1.1.1.1 hopen
    · exact absurd h.1.1.1.2 hclose
  · rename_i hnone
    simpa [not_or] using hnone

section Printed

variable {name host port : Text} (hname : ∀ c ∈ name, c.isLower = true) (hne : name ≠ [])
  (hhost : IsHost host) (hport : ∀ c ∈ port, c.isDigit = true)

include hport in
theorem bounds_of_mem_port {c : CodePoint} (h : c ∈ colon :: port) :
    0x30 ≤ c.val ∧ c.val ≤ 0x3A := by
  rcases List.mem_cons.mp h with rfl | hdigit
  · decide
  · have := CodePoint.isDigit_iff.mp (hport c hdigit)
    omega

include hhost hport in
theorem isPlain_of_mem_printed : ∀ c ∈ host ++ colon :: port, IsPlain c := by
  have hbreaks : ∀ n ∈ authorityBreaks, n < 0x30 ∨ 0x3A < n := by decide
  intro c hc
  rcases List.mem_append.mp hc with hc | hc
  · exact hhost.plain c hc
  · obtain ⟨hlow, hhigh⟩ := bounds_of_mem_port hport hc
    refine ⟨?_, fun hmem => ?_⟩
    · rintro rfl
      exact absurd hhigh (by decide)
    · rcases hbreaks _ hmem with h | h <;> omega

include hname hne hhost hport in
theorem clean_printed : clean (printed name host port) = printed name host port := by
  have hlower : ∀ n ∈ [0x09, 0x0A, 0x0D], n < 0x61 := by decide
  have hbreaks : ∀ n ∈ [0x09, 0x0A, 0x0D], n ∈ authorityBreaks := by decide
  have hsmall {c : CodePoint} (hc : c ∈ name) : 0x61 ≤ c.val := by
    have := hname c hc
    simp only [CodePoint.isLower, Bool.and_eq_true, decide_eq_true_eq] at this
    exact this.1
  obtain ⟨c, rest, hcons⟩ := List.exists_cons_of_ne_nil hne
  have hstart : 0x20 < c.val :=
    Nat.lt_of_lt_of_le (by decide) (hsmall (hcons ▸ List.mem_cons_self))
  refine clean_eq_self (congrArg (· ++ _) hcons) hstart fun c hc hmem => ?_
  rcases List.mem_append.mp hc with hc | hc
  · exact absurd (hlower _ hmem) (Nat.not_lt.mpr (hsmall hc))
  rcases List.mem_append.mp hc with hc | hc
  · exact absurd hmem ((by decide : ∀ c ∈ ("://" : Text), c.val ∉ [0x09, 0x0A, 0x0D]) c hc)
  · exact (isPlain_of_mem_printed hhost hport c hc).2 (hbreaks _ hmem)

include hname hne hhost hport in
theorem read?_printed_iff {url : Url} :
    read? (printed name host port) = some url ↔ bracketsFit (host ++ colon :: port) = true ∧
      ofAuthority name (host ++ colon :: port) = url := by
  have hplain := isPlain_of_mem_printed hhost hport
  have hhidden : ∀ c ∈ host ++ colon :: port, c.val ∉ hiddenMarks := fun c hc =>
    mt (List.mem_append_right _ <| List.mem_append_right _ ·) (hplain c hc).2
  have hscheme : splitScheme (clean (printed name host port)) =
      (name, ("//" : Text) ++ (host ++ colon :: port)) := by
    rw [clean_printed hname hne hhost hport]
    exact splitScheme_append hne hname _
  rw [read?_eq_some_iff hscheme, authority_slashes hplain]
  exact and_congr_right fun _ => and_iff_right hhidden

include hport in
theorem mem_printed_iff {bracket : CodePoint} (h : 0x3A < bracket.val) :
    bracket ∈ host ++ colon :: port ↔ bracket ∈ host := by
  refine ⟨fun hmem => (List.mem_append.mp hmem).resolve_right fun hrest => ?_,
    List.mem_append_left _⟩
  exact Nat.not_lt.mpr (bounds_of_mem_port hport hrest).2 h

include hname hne hhost hport

theorem read?_printed_of_bare (hbare : IsBare host) :
    read? (printed name host port) = some ⟨name, some host, port⟩ := by
  have hplain := isPlain_of_mem_printed hhost hport
  obtain ⟨hcolon, hopen, hclose⟩ := hbare
  rw [← mem_printed_iff hport (by decide)] at hopen hclose
  have hhostNe : host.isEmpty = false := by simpa using hhost.ne_nil
  refine (read?_printed_iff hname hne hhost hport).mpr ⟨?_, ?_⟩
  · simp [bracketsFit, hopen, hclose]
  · rw [ofAuthority, hostPart_of_plain hplain, splitHost_of_not_mem hopen,
      Text.splitFirst_append hcolon]
    dsimp only
    rw [hhostNe, hhost.small]
    rfl

/-- A colon in the host would end it, and a bracket has no other one to go with. -/
theorem isBare_of_read?_printed {url : Url} (h : read? (printed name host port) = some url)
    (hsame : url.host = some host) : IsBare host := by
  have hplain := isPlain_of_mem_printed hhost hport
  obtain ⟨hfit, rfl⟩ := (read?_printed_iff hname hne hhost hport).mp h
  have hone := hhost.brackets
  rw [← mem_printed_iff hport (by decide : 0x3A < openBracket.val),
    ← mem_printed_iff hport (by decide : 0x3A < closeBracket.val)] at hone
  obtain ⟨hopen, hclose⟩ := not_mem_of_bracketsFit hfit hone
  refine ⟨?_, mt (List.mem_append_left _) hopen, mt (List.mem_append_left _) hclose⟩
  obtain ⟨-, hread⟩ := ofAuthority_host hsame
  rw [hostPart_of_plain hplain, splitHost_of_not_mem hopen] at hread
  intro hcolon
  rw [← hread] at hcolon
  exact Text.not_mem_beforeFirst colon _ (mem_of_mem_lowerHost hcolon (by decide))

end Printed

end NodeClient.Url
