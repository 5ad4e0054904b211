import NodeClient.CommandLine.Run
import NodeClient.Proofs.Config.Load
import NodeClient.Proofs.Config.Usable
import NodeClient.Proofs.Link.Dialing
import NodeClient.Proofs.RawSession

/-! How an invocation opens its link: nothing is dialed before the configuration is complete, and
nothing is sent before the link is open. -/

namespace NodeClient

namespace Invocation

/-- The path of the configuration file, and whether it has to exist. -/
def configPath (w : World) (o : Options) : Outcome (Path × Bool) :=
  (requestedFile o).bind (NodeConfig.filePath w.surroundings.homes)

def loaded (w : World) (o : Options) : Outcome NodeConfig :=
  (requestedFile o).bind fun path => NodeConfig.load w.surroundings path (overrides o)

def environment (w : World) : Config.Settings := .ofEnvironment w.surroundings.environment

/-- The configuration of an invocation leads to the dial of this host by a system. -/
structure Dials (w : World) (o : Options) (config : NodeConfig) (host : Text)
    (prepares : Text → Bool) (lookupFault : Option Cause) : Prop where
  configured : loaded w o = .ok config
  endpoint : ∃ address port, config.address = .ok address ∧
    Endpoint.read address = .ok ⟨some host, some port, none⟩
  system : ∃ linkFault, w.peer.obstacle = some (.system prepares lookupFault linkFault)

/-- What breaks the opening of a link: the path of the configuration file, the file, a setting, the
host or the address that they give, or in the end the system that dials: it refuses the name of the
host, or a timeout that is no number or too long. A negative timeout never gets there. -/
inductive OpenBreaks (w : World) (o : Options) : Breakdown → Prop where
  | blankPath (h : o.config = .blank) : OpenBreaks w o .pathNotText
  | home {raw : Text} {b : Breakdown} (hconfig : o.config = .text raw)
      (h : (Path.read raw).ExpandBreaks w.surroundings.homes b) : OpenBreaks w o b
  | file {path : Path} {required : Bool} {b : Breakdown}
      (hpath : configPath w o = .ok (path, required))
      (h : Config.FileBreaks w.surroundings.files path b) : OpenBreaks w o b
  | settings {path : Path} {required : Bool} {file : Config.Settings} {b : Breakdown}
      (hpath : configPath w o = .ok (path, required))
      (hfile : Config.fileSettings w.surroundings.files path required = .ok file)
      (h : NodeConfig.ResolveBreaks path.text (overrides o) (environment w) file b) :
      OpenBreaks w o b
  | host {config : NodeConfig} (hconfig : loaded w o = .ok config)
      (h : config.host.writable = false) : OpenBreaks w o .longInteger
  | endpoint {config : NodeConfig} {address : Text} {b : Breakdown}
      (hconfig : loaded w o = .ok config) (haddress : config.address = .ok address)
      (h : Config.AddressBreaks (.text address) b) : OpenBreaks w o b
  | hostName {config : NodeConfig} {host : Text} {prepares : Text → Bool}
      {lookupFault : Option Cause} (hdials : Dials w o config host prepares lookupFault)
      (h : HostName.encodes prepares host = false) : OpenBreaks w o HostName.breakdown
  | waitNotNumber {config : NodeConfig} {host : Text} {prepares : Text → Bool}
      (hdials : Dials w o config host prepares none)
      (hname : HostName.encodes prepares host = true) (h : config.timeout = .nan) :
      OpenBreaks w o WaitFault.notNumber.breakdown
  | waitTooLong {config : NodeConfig} {host : Text} {prepares : Text → Bool}
      (hdials : Dials w o config host prepares none)
      (hname : HostName.encodes prepares host = true)
      (h : Wait.fault? config.timeout = some .tooLong) :
      OpenBreaks w o WaitFault.tooLong.breakdown

/-- What breaks the opening of a link once its address is known. -/
inductive ConnectBreaks (p : Peer) (address : Text) (timeout : Binary64) : Breakdown → Prop where
  | endpoint {b : Breakdown} (h : Config.AddressBreaks (.text address) b) :
      ConnectBreaks p address timeout b
  | dial {host : Text} {port : Int} {b : Breakdown}
      (hread : Endpoint.read address = .ok ⟨some host, some port, none⟩)
      (h : DialBreaks p host timeout b) : ConnectBreaks p address timeout b

theorem isWord_environment (w : World) (field : Text) :
    NodeConfig.IsWord ((w.surroundings.environment field).elim .null .text) := by
  cases w.surroundings.environment field with
  | none => exact .inl rfl
  | some s => exact .inr ⟨s, rfl⟩

theorem loaded_eq (w : World) (o : Options) :
    loaded w o = (configPath w o).bind fun found =>
      (Config.fileSettings w.surroundings.files found.1 found.2).bind fun file =>
        NodeConfig.resolve found.1.text (overrides o) (environment w) file := by
  unfold loaded configPath
  cases requestedFile o with
  | error stop => rfl
  | ok requested => rfl

theorem configPath_broke_iff {w : World} {o : Options} {b : Breakdown} :
    configPath w o = .error (.broke b) ↔ (o.config = .blank ∧ b = .pathNotText) ∨
      ∃ raw, o.config = .text raw ∧ (Path.read raw).ExpandBreaks w.surroundings.homes b := by
  unfold configPath requestedFile
  cases hconfig : o.config with
  | absent =>
    apply iff_of_false
    · intro h
      cases h
    · rintro (⟨⟨⟩, -⟩ | ⟨_, ⟨⟩, -⟩)
  | blank =>
    constructor
    · rintro ⟨⟩
      exact .inl ⟨rfl, rfl⟩
    · rintro (⟨-, rfl⟩ | ⟨_, ⟨⟩, -⟩)
      rfl
  | text raw =>
    have hpath : (NodeConfig.filePath w.surroundings.homes (some raw)) = .error (.broke b) ↔
        (Path.read raw).ExpandBreaks w.surroundings.homes b := by
      rw [NodeConfig.filePath, map_eq_error, Path.expand_error_iff]
      constructor
      · rintro ⟨_, ⟨⟩, h⟩
        exact h
      · exact fun h => ⟨b, rfl, h⟩
    constructor
    · exact fun h => .inr ⟨raw, rfl, hpath.mp h⟩
    · rintro (⟨⟨⟩, -⟩ | ⟨_, ⟨⟩, h⟩)
      exact hpath.mpr h

theorem address_broke_iff {config : NodeConfig} {b : Breakdown} :
    config.address = .error (.broke b) ↔ config.host.writable = false ∧ b = .longInteger := by
  unfold NodeConfig.address Config.shown
  cases config.host.writable with
  | true =>
    apply iff_of_false
    · intro h
      cases h
    · rintro ⟨⟨⟩, -⟩
  | false =>
    constructor
    · rintro ⟨⟩
      exact ⟨rfl, rfl⟩
    · rintro ⟨-, rfl⟩
      rfl

/-- How opening a link ends: before anything is dialed, with a dial that does not succeed, or with a
link on which nothing has happened. -/
inductive Opened (Breaks : Breakdown → Prop) : Outcome Connection → Journal → Prop where
  | breaks {b : Breakdown} {journal : Journal} (h : Breaks b) (hhanded : journal.handed = [])
      (hsent : journal.sent = []) : Opened Breaks (.error (.broke b)) journal
  | refused {stop : Stop} (h : ∀ b, stop ≠ .broke b) (hnone : ∀ b, ¬ Breaks b) :
      Opened Breaks (.error stop) []
  | unreached {stop : Stop} {journal : Journal} (h : stop.FromNode) (hnone : ∀ b, ¬ Breaks b)
      (hhanded : journal.handed = []) (hsent : journal.sent = []) :
      Opened Breaks (.error stop) journal
  | opened {c : Connection} (hidle : c.Idle) (hnone : ∀ b, ¬ Breaks b)
      (hhanded : c.journal.handed = []) (hsent : c.journal.sent = []) :
      Opened Breaks (.ok c) c.journal

theorem Opened.of_stop {Breaks : Breakdown → Prop} {stop : Stop}
    (h : ∀ b, Breaks b ↔ stop = .broke b) : Opened Breaks (.error stop) [] := by
  cases stop with
  | broke b => exact .breaks ((h b).mpr rfl) rfl rfl
  | failed f => exact .refused (fun b hb => by cases hb) fun b hb => by cases (h b).mp hb
  | interrupted => exact .refused (fun b hb => by cases hb) fun b hb => by cases (h b).mp hb

theorem Opened.congr {Breaks Breaks' : Breakdown → Prop} {outcome : Outcome Connection}
    {journal : Journal} (h : Opened Breaks outcome journal) (hsame : ∀ b, Breaks b ↔ Breaks' b) :
    Opened Breaks' outcome journal := by
  -- that nothing breaks is said of every breakdown, so it moves along with each of them
  have hnone' (hnone : ∀ b, ¬ Breaks b) (b : Breakdown) : ¬ Breaks' b :=
    fun hb => hnone b ((hsame b).mpr hb)
  cases h with
  | breaks hb hhanded hsent => exact .breaks ((hsame _).mp hb) hhanded hsent
  | refused hstop hnone => exact .refused hstop (hnone' hnone)
  | unreached hstop hnone hhanded hsent => exact .unreached hstop (hnone' hnone) hhanded hsent
  | opened hidle hnone hhanded hsent => exact .opened hidle (hnone' hnone) hhanded hsent

theorem dial_opened (p : Peer) (address host : Text) (port : Int) (timeout : Binary64) :
    Opened (DialBreaks p host timeout) (p.dial address host port timeout).1
      (p.dial address host port timeout).2 := by
  have hfate := p.fate_dial address host port timeout
  unfold Peer.dial at hfate ⊢
  dsimp only at hfate ⊢
  cases hstop : p.dialStop? host port timeout with
  | none =>
    rw [hstop] at hfate
    cases hfate with
    | gives _ hnone =>
      refine .opened ⟨rfl, ?_⟩ hnone rfl rfl
      rintro posts replies ⟨⟩
  | some stop =>
    rw [hstop] at hfate
    cases hfate with
    | breaks h => exact .breaks h rfl rfl
    | stops h hnone => exact .unreached h hnone rfl rfl

theorem connectBreaks_of_unread {p : Peer} {address : Text} {timeout : Binary64} {stop : Stop}
    (hread : Endpoint.read address = .error stop) {b : Breakdown} :
    ConnectBreaks p address timeout b ↔ stop = .broke b := by
  constructor
  · intro h
    cases h with
    | endpoint h => exact Except.error.inj (hread.symm.trans (Config.read_broke_iff.mpr h))
    | dial hread' => cases hread.symm.trans hread'
  · rintro rfl
    exact .endpoint (Config.read_broke_iff.mp hread)

theorem connectBreaks_of_read {p : Peer} {address : Text} {timeout : Binary64} {e : Endpoint}
    (hread : Endpoint.read address = .ok e) {b : Breakdown} :
    ConnectBreaks p address timeout b ↔ ∃ host port, e = ⟨some host, some port, none⟩ ∧
      DialBreaks p host timeout b := by
  constructor
  · intro h
    cases h with
    | endpoint h =>
      rw [Config.read_broke_iff.mpr h] at hread
      cases hread
    | dial hread' h => exact ⟨_, _, Except.ok.inj (hread.symm.trans hread'), h⟩
  · rintro ⟨host, port, rfl, h⟩
    exact .dial hread h

theorem connect_opened (p : Peer) (address : Text) (timeout : Binary64) :
    Opened (ConnectBreaks p address timeout) (p.connect address timeout).1
      (p.connect address timeout).2 := by
  unfold Peer.connect
  cases hread : Endpoint.read address with
  | error stop => exact .of_stop fun b => connectBreaks_of_unread hread
  | ok e =>
    -- only an endpoint that is dialed can break
    have hnone (hdial : ∀ host port, e ≠ ⟨some host, some port, none⟩) (b : Breakdown) :
        ¬ ConnectBreaks p address timeout b := by
      intro hb
      obtain ⟨host, port, he, -⟩ := (connectBreaks_of_read hread).mp hb
      exact hdial host port he
    split
    · rename_i h
      cases h
    · rename_i h
      cases h
      refine .opened ⟨rfl, ?_⟩ (hnone (by rintro host port ⟨⟩)) rfl rfl
      rintro posts replies ⟨⟩
      rfl
    · rename_i host port h
      cases h
      refine (dial_opened p address host port timeout).congr fun b => ?_
      rw [connectBreaks_of_read hread]
      constructor
      · exact fun h => ⟨host, port, rfl, h⟩
      · rintro ⟨_, _, ⟨⟩, h⟩
        exact h
    · rename_i hhttp htcp h
      cases h
      refine .refused (fun b hb => by cases hb) (hnone ?_)
      rintro host port rfl
      exact htcp host port rfl

theorem loaded_broke_iff {w : World} {o : Options} {b : Breakdown} :
    loaded w o = .error (.broke b) ↔
      configPath w o = .error (.broke b) ∨ ∃ path required, configPath w o = .ok (path, required) ∧
        (Config.FileBreaks w.surroundings.files path b ∨ ∃ file,
          Config.fileSettings w.surroundings.files path required = .ok file ∧
          NodeConfig.ResolveBreaks path.text (overrides o) (environment w) file b) := by
  have hresolve {path : Path} {file : Config.Settings} :
      NodeConfig.resolve path.text (overrides o) (environment w) file = .error (.broke b) ↔
        NodeConfig.ResolveBreaks path.text (overrides o) (environment w) file b :=
    NodeConfig.resolve_broke_iff rfl rfl (isWord_environment w _) (isWord_environment w _)
  rw [loaded_eq]
  constructor
  · intro h
    rcases bind_eq_error.mp h with h | ⟨⟨path, required⟩, hpath, h⟩
    · exact .inl h
    · refine .inr ⟨path, required, hpath, ?_⟩
      rcases bind_eq_error.mp h with h | ⟨file, hfile, h⟩
      · exact .inl (Config.fileSettings_broke_iff.mp h)
      · exact .inr ⟨file, hfile, hresolve.mp h⟩
  · rintro (h | ⟨path, required, hpath, h | ⟨file, hfile, h⟩⟩)
    · exact bind_eq_error.mpr (.inl h)
    · exact bind_eq_error.mpr (.inr ⟨_, hpath,
        bind_eq_error.mpr (.inl (Config.fileSettings_broke_iff.mpr h))⟩)
    · exact bind_eq_error.mpr (.inr ⟨_, hpath,
        bind_eq_error.mpr (.inr ⟨file, hfile, hresolve.mpr h⟩)⟩)

theorem timeout_of_loaded {w : World} {o : Options} {config : NodeConfig}
    (h : loaded w o = .ok config) : config.timeout.notPositive = false := by
  rw [loaded_eq] at h
  obtain ⟨_, -, hfile⟩ := bind_eq_ok.mp h
  obtain ⟨_, -, hresolve⟩ := bind_eq_ok.mp hfile
  exact NodeConfig.timeout_of_resolve hresolve

theorem Dials.connectBreaks {w : World} {o : Options} {config : NodeConfig} {host : Text}
    {prepares : Text → Bool} {lookupFault : Option Cause} {b : Breakdown}
    (h : Dials w o config host prepares lookupFault)
    (hdial : ∀ {linkFault}, w.peer.obstacle = some (.system prepares lookupFault linkFault) →
      DialBreaks w.peer host config.timeout b) :
    ∃ address, config.address = .ok address ∧ ConnectBreaks w.peer address config.timeout b := by
  obtain ⟨address, port, haddress, hread⟩ := h.endpoint
  obtain ⟨linkFault, hsystem⟩ := h.system
  exact ⟨address, haddress, .dial hread (hdial hsystem)⟩

/-- A wait is refused as NaN or as too long: the settings let no negative one through. -/
theorem OpenBreaks.of_dial {w : World} {o : Options} {config : NodeConfig} {address host : Text}
    {port : Int} {b : Breakdown} (hconfig : loaded w o = .ok config)
    (haddress : config.address = .ok address)
    (hread : Endpoint.read address = .ok ⟨some host, some port, none⟩)
    (h : DialBreaks w.peer host config.timeout b) : OpenBreaks w o b := by
  have hendpoint : ∃ address port, config.address = .ok address ∧
      Endpoint.read address = .ok ⟨some host, some port, none⟩ := ⟨_, _, haddress, hread⟩
  cases h with
  | name hsystem h => exact .hostName ⟨hconfig, hendpoint, _, hsystem⟩ h
  | @wait _ _ fault hsystem hname h =>
    have hdials := Dials.mk hconfig hendpoint ⟨_, hsystem⟩
    cases fault with
    | notNumber => exact .waitNotNumber hdials hname (Wait.fault?_eq_notNumber_iff.mp h)
    | negative =>
      have hpositive := timeout_of_loaded hconfig
      rw [Wait.notPositive_of_negative h] at hpositive
      cases hpositive
    | tooLong => exact .waitTooLong hdials hname h

/-- A link breaks while it is opened with the loading of the configuration, with its host, or with
its address and the dial of it. -/
theorem openBreaks_iff {w : World} {o : Options} {b : Breakdown} :
    OpenBreaks w o b ↔ loaded w o = .error (.broke b) ∨
      ∃ config, loaded w o = .ok config ∧ (config.address = .error (.broke b) ∨
        ∃ address, config.address = .ok address ∧
          ConnectBreaks w.peer address config.timeout b) := by
  rw [loaded_broke_iff, configPath_broke_iff]
  constructor
  · intro h
    cases h with
    | blankPath h => exact .inl (.inl (.inl ⟨h, rfl⟩))
    | home hconfig h => exact .inl (.inl (.inr ⟨_, hconfig, h⟩))
    | file hpath h => exact .inl (.inr ⟨_, _, hpath, .inl h⟩)
    | settings hpath hfile h => exact .inl (.inr ⟨_, _, hpath, .inr ⟨_, hfile, h⟩⟩)
    | host hconfig h => exact .inr ⟨_, hconfig, .inl (address_broke_iff.mpr ⟨h, rfl⟩)⟩
    | endpoint hconfig haddress h => exact .inr ⟨_, hconfig, .inr ⟨_, haddress, .endpoint h⟩⟩
    | hostName hdials h =>
      have hbreaks := hdials.connectBreaks fun hsystem => .name hsystem h
      exact .inr ⟨_, hdials.configured, .inr hbreaks⟩
    | waitNotNumber hdials hname h =>
      have hbreaks := hdials.connectBreaks fun hsystem =>
        .wait hsystem hname (Wait.fault?_eq_notNumber_iff.mpr h)
      exact .inr ⟨_, hdials.configured, .inr hbreaks⟩
    | waitTooLong hdials hname h =>
      have hbreaks := hdials.connectBreaks fun hsystem => .wait hsystem hname h
      exact .inr ⟨_, hdials.configured, .inr hbreaks⟩
  · rintro (((⟨h, rfl⟩ | ⟨raw, hconfig, h⟩) | ⟨path, required, hpath, h | ⟨file, hfile, h⟩⟩) |
      ⟨config, hconfig, h | ⟨address, haddress, h⟩⟩)
    · exact .blankPath h
    · exact .home hconfig h
    · exact .file hpath h
    · exact .settings hpath hfile h
    · obtain ⟨hhost, rfl⟩ := address_broke_iff.mp h
      exact .host hconfig hhost
    · cases h with
      | endpoint h => exact .endpoint hconfig haddress h
      | dial hread h => exact .of_dial hconfig haddress hread h

theorem openLink_eq (w : World) (o : Options) :
    openLink w o =
      match loaded w o with
      | .error stop => (.error stop, [])
      | .ok config =>
        match config.address with
        | .error stop => (.error stop, [])
        | .ok address => w.peer.connect address config.timeout := rfl

theorem openLink_opened (w : World) (o : Options) :
    Opened (OpenBreaks w o) (openLink w o).1 (openLink w o).2 := by
  rw [openLink_eq]
  cases hloaded : loaded w o with
  | error stop =>
    refine .of_stop fun b => ?_
    simp [openBreaks_iff, hloaded]
  | ok config =>
    dsimp only
    cases haddress : config.address with
    | error stop =>
      refine .of_stop fun b => ?_
      simp [openBreaks_iff, hloaded, haddress]
    | ok address =>
      refine (connect_opened w.peer address config.timeout).congr fun b => ?_
      simp [openBreaks_iff, hloaded, haddress]

theorem connect_of_breaks {p : Peer} {address : Text} {timeout : Binary64} {b : Breakdown}
    (h : ConnectBreaks p address timeout b) :
    (p.connect address timeout).1 = .error (.broke b) := by
  cases h with
  | endpoint h => simp only [Peer.connect, Config.read_broke_iff.mpr h]
  | dial hread h => simp only [Peer.connect, hread, Peer.dial, Peer.dialStop?_of_breaks h]

theorem openLink_of_breaks {w : World} {o : Options} {b : Breakdown} (h : OpenBreaks w o b) :
    (openLink w o).1 = .error (.broke b) := by
  rw [openLink_eq]
  rcases openBreaks_iff.mp h with hloaded | ⟨config, hloaded, haddress | ⟨address, haddress, hb⟩⟩
  · rw [hloaded]
  · simp only [hloaded, haddress]
  · simp only [hloaded, haddress, connect_of_breaks hb]

theorem OpenBreaks.unique {w : World} {o : Options} {b b' : Breakdown} (h : OpenBreaks w o b)
    (h' : OpenBreaks w o b') : b = b' := by
  have hsame := (openLink_of_breaks h).symm.trans (openLink_of_breaks h')
  cases hsame
  rfl

end Invocation

end NodeClient
