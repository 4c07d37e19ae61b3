import LogTagger.Daemon.Build
import LogTagger.Proofs.Config.Buildable
import LogTagger.Proofs.SocketAddress

/-!
# The address of the metrics listener

The checks of a configuration look at the port of the metrics listener and never at its address, which is
read only when the daemon is set up. **`listener_decides`** says what comes of it: a configuration that is
allowed gives a daemon, once its Docker daemon answers and there is a client for documents, exactly if the
listener is off, or its address is one (`Host.ofText?`) at which metrics can be served. Without an address the
daemon is not set up, and the listener is the cause.
-/

namespace LogTagger

variable {L : PatternLanguage} {c : Config}

namespace MetricsSettings

variable {s : MetricsSettings} {recorder : SocketAddress → Except String Unit}

theorem listenAddress_eq_ok_iff {a : SocketAddress} :
    s.listenAddress = .ok a ↔ ∃ host, Host.ofText? s.listenAddr = some host ∧ a = host.withPort s.port := by
  rw [listenAddress, SocketAddress.ofText?_append_port]
  cases Host.ofText? s.listenAddr with
  | none => simp
  | some host => simp [eq_comm]

theorem install_of_disabled (h : s.enabled = false) : s.install recorder = .ok () := by
  unfold install
  rw [h]
  rfl

theorem install_of_host {host : Host} (henabled : s.enabled = true) (h : Host.ofText? s.listenAddr = some host) :
    s.install recorder = (recorder (host.withPort s.port)).mapError .recorder := by
  unfold install
  rw [if_pos henabled, listenAddress_eq_ok_iff.mpr ⟨host, h, rfl⟩]
  rfl

theorem install_of_no_host (henabled : s.enabled = true) (h : Host.ofText? s.listenAddr = none) :
    s.install recorder = .error .listenAddress := by
  unfold install
  rw [if_pos henabled, listenAddress, SocketAddress.ofText?_append_port, h]
  rfl

/-- Nothing stands in the way of metrics if they are off, or served at an address. -/
theorem install_eq_ok_iff : s.install recorder = .ok () ↔ (s.enabled = true →
    ∃ host, Host.ofText? s.listenAddr = some host ∧ recorder (host.withPort s.port) = .ok ()) := by
  cases henabled : s.enabled with
  | false => simp [install_of_disabled henabled]
  | true =>
    cases hhost : Host.ofText? s.listenAddr with
    | none => simp [install_of_no_host henabled hhost]
    | some host => simp [install_of_host henabled hhost, mapError_eq_ok_iff]

theorem install_eq_listenAddress_iff :
    s.install recorder = .error .listenAddress ↔ s.enabled = true ∧ Host.ofText? s.listenAddr = none := by
  cases henabled : s.enabled with
  | false => simp [install_of_disabled henabled]
  | true =>
    cases hhost : Host.ofText? s.listenAddr with
    | none => simp [install_of_no_host henabled hhost]
    | some host =>
      rw [install_of_host henabled hhost]
      cases recorder (host.withPort s.port) <;> simp [Except.mapError]

end MetricsSettings

theorem SourceSettings.prepare_of_check {s : SourceSettings} (h : s.check = .ok ())
    {client : Nat → Except String Unit} : s.prepare client = .ok () ↔ client s.fetchTimeoutMs = .ok () := by
  rw [prepare, check_bind_eq_ok_iff, mapError_eq_ok_iff]
  exact and_iff_right h

/-- The Docker daemon of a configuration answers. -/
def DockerConnector.Reaches (connector : DockerConnector) (c : Config) : Prop :=
  ∃ service, Docker.connect connector c.metadata.dockerSocket = .ok service ∧
    ensureReachable (Docker.daemon service) = .ok ()

/-- Once the Docker daemon of an allowed configuration answers, only the recorder and the client can fail. -/
theorem Daemon.ofConfig_of_reaches {facilities : Facilities} (hcheck : c.checkAll L = .ok ())
    (hreaches : facilities.docker.Reaches c) (sink : Sink) : ∃ d, ofConfig L c facilities sink = (do
      c.metrics.install facilities.recorder
      (c.metadata.prepare facilities.client).mapError .fetcher
      return d) := by
  obtain ⟨service, hservice, hreachable⟩ := hreaches
  obtain ⟨p, hp⟩ := (Config.built_of_checkAll hcheck).processor true
  refine ⟨(ofParts c p sink, service), ?_⟩
  rw [ofConfig, hcheck, hp, Config.tagging, hservice]
  change (do ensureReachable (Docker.daemon service); _) = _
  rw [hreachable]
  rfl

/-- What the address of its listener means for a configuration. -/
structure ListenerDecides (L : PatternLanguage) (c : Config) : Prop where
  /-- Metrics are served at the address of the settings with their port, if it is one. -/
  address : ∀ a, c.metrics.listenAddress = .ok a ↔
    ∃ host, Host.ofText? c.metrics.listenAddr = some host ∧ a = host.withPort c.metrics.port
  /-- With an address at which metrics can be served, or without a listener, the daemon is set up, given a client. -/
  starts : ∀ (facilities : Facilities) (sink : Sink), c.checkAll L = .ok () → facilities.docker.Reaches c →
    ((∃ d, Daemon.ofConfig L c facilities sink = .ok d) ↔
      (c.metrics.enabled = true → ∃ host, Host.ofText? c.metrics.listenAddr = some host ∧
        facilities.recorder (host.withPort c.metrics.port) = .ok ()) ∧
      facilities.client c.metadata.fetchTimeoutMs = .ok ())
  /-- Without an address the listener is the cause of the failure, though the configuration is allowed. -/
  fails : ∀ (facilities : Facilities) (sink : Sink), c.checkAll L = .ok () → facilities.docker.Reaches c →
    (Daemon.ofConfig L c facilities sink = .error .listenAddress ↔
      c.metrics.enabled = true ∧ Host.ofText? c.metrics.listenAddr = none)
  /-- If nothing can be served at an address, the recorder is the cause. -/
  refused : ∀ (facilities : Facilities) (sink : Sink) host reason, c.checkAll L = .ok () →
    facilities.docker.Reaches c → c.metrics.enabled = true → Host.ofText? c.metrics.listenAddr = some host →
    facilities.recorder (host.withPort c.metrics.port) = .error reason →
    Daemon.ofConfig L c facilities sink = .error (.recorder reason)

namespace Config

/-- **The address of its listener decides** whether a configuration that is allowed gives a daemon. -/
theorem listener_decides (L : PatternLanguage) (c : Config) : ListenerDecides L c where
  address _ := MetricsSettings.listenAddress_eq_ok_iff
  starts facilities sink hcheck hreaches := by
    obtain ⟨d, hd⟩ := Daemon.ofConfig_of_reaches hcheck hreaches sink
    have hprepare : (c.metadata.prepare facilities.client).mapError DaemonError.fetcher = .ok () ↔
        facilities.client c.metadata.fetchTimeoutMs = .ok () := by
      rw [mapError_eq_ok_iff]
      exact SourceSettings.prepare_of_check (built_of_checkAll hcheck).fetcher
    rw [← MetricsSettings.install_eq_ok_iff, ← hprepare, hd]
    constructor
    · rintro ⟨d', hd'⟩
      obtain ⟨hinstall, hrest⟩ := check_bind_eq_ok_iff.mp hd'
      exact ⟨hinstall, (check_bind_eq_ok_iff.mp hrest).1⟩
    · rintro ⟨hinstall, hclient⟩
      exact ⟨d, check_bind_eq_ok_iff.mpr ⟨hinstall, check_bind_eq_ok_iff.mpr ⟨hclient, rfl⟩⟩⟩
  fails facilities sink hcheck hreaches := by
    obtain ⟨d, hd⟩ := Daemon.ofConfig_of_reaches hcheck hreaches sink
    have hinstall : c.metrics.install facilities.recorder = .error .listenAddress ↔ _ :=
      MetricsSettings.install_eq_listenAddress_iff
    rw [← hinstall, hd, check_bind_eq_error_iff]
    refine ⟨fun h => h.resolve_right ?_, .inl⟩
    -- What fails after the listener has another cause.
    rintro ⟨-, hlater⟩
    cases hprepare : c.metadata.prepare facilities.client with
    | error e => rw [hprepare] at hlater; cases hlater
    | ok _ => rw [hprepare] at hlater; cases hlater
  refused facilities sink host reason hcheck hreaches henabled hhost hreason := by
    obtain ⟨d, hd⟩ := Daemon.ofConfig_of_reaches hcheck hreaches sink
    rw [hd, MetricsSettings.install_of_host henabled hhost, hreason]
    rfl

/-- A configuration that is allowed may have an address at which nothing can be served: groups without brackets. -/
theorem exists_allowed_without_address : ¬ ∃ reason, ∀ c : Config, c.metrics.enabled = true →
    c.checkAll (regularExpressions reason) = .ok () → ∃ a, c.metrics.listenAddress = .ok a := by
  rintro ⟨reason, hall⟩
  obtain ⟨a, ha⟩ := hall { enrichment := { attributes := [] }, metrics := { enabled := true, listenAddr := "::1" } } rfl
    (checkAll_eq_ok_iff.mpr ⟨by decide, by simp⟩)
  obtain ⟨host, hhost, -⟩ := MetricsSettings.listenAddress_eq_ok_iff.mp ha
  have hnone : Host.ofText? "::1" = none := by decide
  exact absurd (hhost.symm.trans hnone) (by simp)

end Config

end LogTagger
