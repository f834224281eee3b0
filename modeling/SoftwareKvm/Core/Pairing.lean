import SoftwareKvm.Core.StuckControl

/-!
# Input goes to paired peers

`install_session_endpoint` checks the pairing of its endpoint; a remote decision
names an installed endpoint. In between, `update_config` may replace the list of
paired hosts.

Results:
* `prepareCaptured_installed`: a remote decision names an installed endpoint.
* `remote_endpoint_paired`: in a run whose configurations keep every installed
  endpoint paired, each remote decision names a paired endpoint.
* `remote_endpoint_unpaired`: a configuration that changes the peer of a host
  with an installed endpoint leaves the endpoint in use.

**Deviation.** `update_config` removes unpaired hosts from `peers`, but not from
`endpoint_availability`, and compares host identifiers only.
-/

namespace SoftwareKvm

open Lib

namespace DaemonCore

/-! ## What captured events leave alone -/

/-- Configuration, route policy and installed endpoints are the same. -/
structure SamePolicy (c c' : DaemonCore) : Prop where
  config : c'.config = c.config
  routing : c'.routing = c.routing
  availability : c'.endpointAvailability = c.endpointAvailability
  pendingRoutePolicy : c'.pendingRoutePolicy = c.pendingRoutePolicy

variable {c c' c'' : DaemonCore} {nowNs : ℕ}

theorem SamePolicy.trans (h : SamePolicy c c') (h' : SamePolicy c' c'') : SamePolicy c c'' :=
  ⟨h'.config.trans h.config, h'.routing.trans h.routing, h'.availability.trans h.availability,
    h'.pendingRoutePolicy.trans h.pendingRoutePolicy⟩

theorem queueRemoteCleanup_samePolicy (c : DaemonCore) (affected : HeldFilter) :
    SamePolicy c (c.queueRemoteCleanup affected).2 := by
  obtain ⟨queue, next, controls, heq⟩ := queueRemoteCleanup_eq c affected
  rw [heq]
  exact ⟨rfl, rfl, rfl, rfl⟩

variable {previousLatch : Option LatchedDestination}

theorem recordTransition_samePolicy {device : DeviceId} {stateful : Option ControlTransition}
    (h : c.recordTransition device stateful nowNs = (.ok previousLatch, c')) : SamePolicy c c' := by
  obtain ⟨⟨controls, count, rfl⟩, -, -⟩ := recordTransition_ok h
  exact ⟨rfl, rfl, rfl, rfl⟩

theorem samePolicy_capturing : Capturing SamePolicy where
  trans := .trans
  assign _ _ _ _ _ _ _ _ _ _ := ⟨rfl, rfl, rfl, rfl⟩
  queue c := queueRemoteCleanup_samePolicy c allHeld
  latch _ _ _ _ := ⟨rfl, rfl, rfl, rfl⟩

/-! ## Installed endpoints are paired -/

/-- A remote decision names an installed endpoint. -/
theorem prepareCaptured_installed {captured : CapturedInput} {effect : RemoteInputEffect}
    (h : c.prepareCaptured captured nowNs = (.ok (.remote effect), c')) :
    ∃ host current, c.endpointAvailability.get? host = some current
      ∧ current.endpoint = effect.endpoint := by
  have has := prepareCaptured_as c captured nowNs
  rw [h] at has
  cases has with
  | recorded c₁ previousLatch _ _ _ hrecord has =>
    have havailability := (recordTransition_samePolicy hrecord).availability
    cases has with
    | closed _ hrefusal => cases hrefusal
    | activated _ hdecision => rcases hdecision with ⟨h, -⟩ | ⟨e, h⟩ <;> cases h
    | remote endpoint _ _ _ htarget =>
      rw [← havailability]
      cases htarget with
      | routed target _ _ _ htarget => exact ⟨_, (remoteTargetEndpoint_some htarget).1⟩
      | latched route _ htarget => exact ⟨_, (remoteTargetEndpoint_some htarget).1⟩

/-- The configuration pairs every installed endpoint. -/
def PairsInstalled (c : DaemonCore) (config : Config) : Prop :=
  ∀ host current, c.endpointAvailability.get? host = some current →
    pairsEndpoint config current.endpoint = true

/-- Every installed endpoint is paired, and a staged route policy pairs the same hosts. -/
structure Paired (c : DaemonCore) : Prop where
  installed : c.PairsInstalled c.config
  staged : ∀ pending, c.pendingRoutePolicy = some pending →
    pending.config.pairedHosts = c.config.pairedHosts

theorem PairsInstalled.congr {config config' : Config} (h : c.PairsInstalled config)
    (hhosts : config'.pairedHosts = config.pairedHosts)
    (havailability : c'.endpointAvailability = c.endpointAvailability) :
    c'.PairsInstalled config' := by
  intro host current hget
  rw [havailability] at hget
  unfold pairsEndpoint
  rw [hhosts]
  exact h host current hget

theorem Paired.samePolicy (h : c.Paired) (hs : SamePolicy c c') : c'.Paired where
  installed := h.installed.congr (by rw [hs.config]) hs.availability
  staged := by rw [hs.pendingRoutePolicy, hs.config]; exact h.staged

/-- Changing the state of an endpoint or removing it keeps the others paired. -/
theorem PairsInstalled.setState {config : Config} (h : c.PairsInstalled config) (host : HostId)
    (state : PeerState) :
    PairsInstalled { c with endpointAvailability :=
      c.endpointAvailability.modify host fun current => { current with state } } config :=
  OrdMap.forall_modify _ h fun _ => id

theorem PairsInstalled.uninstall {config : Config} (h : c.PairsInstalled config) (host : HostId) :
    PairsInstalled { c with endpointAvailability := c.endpointAvailability.erase host } config :=
  OrdMap.forall_erase _ h host

end DaemonCore

open DaemonCore

/-- A new configuration pairs every installed endpoint. -/
def CoreAction.KeepsPairing (c : DaemonCore) (a : CoreAction) : Prop :=
  ∀ config now, a = .op (.updateConfig config now) → c.PairsInstalled config

/-- One assignment of an operation that keeps the pairing. -/
theorem CoreOp.Edit.paired {op : CoreOp} {c c' : DaemonCore} (he : op.Edit c c')
    (h : c.Paired ∧ (CoreAction.op op).KeepsPairing c) :
    c'.Paired ∧ (CoreAction.op op).KeepsPairing c' := by
  obtain ⟨hpaired, hkeeps⟩ := h
  have hsame (c' : DaemonCore) (hs : SamePolicy c c') :
      c'.Paired ∧ (CoreAction.op op).KeepsPairing c' :=
    ⟨hpaired.samePolicy hs, fun config now hop => (hkeeps config now hop).congr rfl hs.availability⟩
  cases he with
  | queue affected => exact hsame _ (queueRemoteCleanup_samePolicy c affected)
  | install endpoint now hop hendpoint =>
    refine ⟨⟨OrdMap.forall_insert _ hpaired.installed hendpoint, hpaired.staged⟩,
      fun config now' hop' => ?_⟩
    rw [hop] at hop'
    cases hop'
  | setState host state =>
    exact ⟨⟨hpaired.installed.setState host state, hpaired.staged⟩,
      fun config now hop => (hkeeps config now hop).setState host state⟩
  | uninstall host =>
    exact ⟨⟨hpaired.installed.uninstall host, hpaired.staged⟩,
      fun config now hop => (hkeeps config now hop).uninstall host⟩
  | stage pending _ _ hconfig =>
    refine ⟨⟨hpaired.installed, fun pending' hpending' => ?_⟩, hkeeps⟩
    obtain rfl := Option.some.inj hpending'
    rw [hconfig]
  | abort => exact ⟨⟨hpaired.installed, fun _ hpending => (nomatch hpending)⟩, hkeeps⟩
  | commit pending hop hpending =>
    have hhosts := hpaired.staged pending hpending
    refine ⟨⟨hpaired.installed.congr hhosts rfl, fun _ hpending => (nomatch hpending)⟩, hkeeps⟩
  | configure config routing now hop hnone =>
    have hinstalled := hkeeps config now (by rw [hop])
    refine ⟨⟨hinstalled, fun pending hpending => ?_⟩, hkeeps⟩
    rw [show c.pendingRoutePolicy = some pending from hpending] at hnone
    cases hnone
  | _ => exact hsame _ ⟨rfl, rfl, rfl, rfl⟩

theorem CoreAction.paired {c : DaemonCore} {a : CoreAction} (hkeeps : a.KeepsPairing c)
    (h : c.Paired) : (a.apply c).Paired := by
  by_cases hop : ∃ op, a = .op op
  · obtain ⟨op, rfl⟩ := hop
    have hpair := CoreOp.Edits.invariant
      (P := fun c => c.Paired ∧ (CoreAction.op op).KeepsPairing c)
      (fun _ _ he h => he.paired h) (op.edits c) ⟨h, hkeeps⟩
    exact hpair.1
  · exact h.samePolicy
      (samePolicy_capturing.apply recordTransition_samePolicy c fun op heq => hop ⟨op, heq⟩)

theorem CoreAction.KeepsPairing.run {c : DaemonCore} {actions : List CoreAction}
    (hrun : Admissible CoreAction.KeepsPairing CoreAction.apply c actions) (h : c.Paired) :
    (execute CoreAction.apply c actions).Paired :=
  hrun.invariant (fun _ _ hkeeps hpaired => CoreAction.paired hkeeps hpaired) h

theorem DaemonCore.new_paired {config : Config} {workspace : WorkspaceState} {core : DaemonCore}
    (h : DaemonCore.new config workspace = .ok core) : core.Paired := by
  have hcreated := DaemonCore.new_created h
  refine ⟨fun host current hget => ?_, fun pending hpending => ?_⟩
  · rw [hcreated.endpointAvailability] at hget
    cases hget
  · rw [hcreated.pendingRoutePolicy] at hpending
    cases hpending

/-- In every run from `DaemonCore::new` whose configurations pair every
    installed endpoint, a remote decision names a paired endpoint. -/
theorem remote_endpoint_paired {config : Config} {workspace : WorkspaceState} {core : DaemonCore}
    (hnew : DaemonCore.new config workspace = .ok core) {actions : List CoreAction}
    (hrun : Admissible CoreAction.KeepsPairing CoreAction.apply core actions)
    {captured : CapturedInput} {now : ℕ} {effect : RemoteInputEffect}
    (hremote : ((execute CoreAction.apply core actions).prepareCaptured captured now).1
      = .ok (.remote effect)) :
    ∃ peer ∈ (execute CoreAction.apply core actions).config.pairedHosts,
      peer.hostId = effect.endpoint.hostId ∧ peer.peerId = effect.endpoint.peerId := by
  have hpaired := CoreAction.KeepsPairing.run hrun (DaemonCore.new_paired hnew)
  obtain ⟨host, current, hget, hendpoint⟩ := prepareCaptured_installed (Prod.ext hremote rfl)
  have hpairs := hpaired.installed host current hget
  rw [hendpoint, pairsEndpoint, List.any_eq_true] at hpairs
  obtain ⟨peer, hmem, heq⟩ := hpairs
  rw [Bool.and_eq_true, beq_iff_eq, beq_iff_eq] at heq
  exact ⟨peer, hmem, heq⟩

namespace Sample

/-- The remote host has a session and becomes active. -/
def activate : List CoreAction :=
  [.op (.installSessionEndpoint endpoint 0), .op (.markWorkspaceRoutingReady 0),
   .op (.updateWorkspace { workspace with activeHost := remoteHost } 0)]

/-- Then the configuration changes. -/
def configureActive (config : Config) : List CoreAction :=
  activate ++ [.op (.updateConfig config 0)]

/-- The same remote host, now with another peer identity. -/
def repairedConfig : Config where
  pairedHosts := [{
    hostId := remoteHost, peerId := ⟨6⟩, name := ['b'], platform := .macOS
    identityFingerprint := List.replicate 64 'b', lastAddress := none }]

end Sample

open Sample

theorem remote_endpoint_paired_reconfigured :
    ∃ peer ∈ (execute CoreAction.apply core
        (configureActive config)).config.pairedHosts,
      peer.hostId = remoteHost ∧ peer.peerId = endpoint.peerId := by
  have hnew : DaemonCore.new config workspace = .ok core := rfl
  have hactive : Admissible CoreAction.KeepsPairing CoreAction.apply core
      activate :=
    ⟨fun _ _ h => (nomatch h), fun _ _ h => (nomatch h), fun _ _ h => (nomatch h), trivial⟩
  have hpaired := CoreAction.KeepsPairing.run hactive (DaemonCore.new_paired hnew)
  have hrun : Admissible CoreAction.KeepsPairing CoreAction.apply core
      (configureActive config) := by
    refine admissible_append.mpr ⟨hactive, ?_, trivial⟩
    rintro config now ⟨⟩
    exact hpaired.installed.congr rfl rfl
  have hremote : ((execute CoreAction.apply core
        (configureActive config)).prepareCaptured (key .keyA .pressed) 0).1
      = .ok (.remote ⟨1, endpoint, (key .keyA .pressed).event⟩) := by
    decide +kernel
  exact remote_endpoint_paired hnew hrun hremote

/-- A press goes to the peer that the configuration in force no longer pairs. -/
theorem remote_endpoint_unpaired :
    DaemonCore.new config workspace = .ok core
      ∧ ((execute CoreAction.apply core (configureActive repairedConfig)
          ).prepareCaptured (key .keyA .pressed) 0).1
        = .ok (.remote ⟨1, endpoint, (key .keyA .pressed).event⟩)
      ∧ ∀ peer ∈ (execute CoreAction.apply core
          (configureActive repairedConfig)).config.pairedHosts,
        ¬ (peer.hostId = endpoint.hostId ∧ peer.peerId = endpoint.peerId) := by
  refine ⟨rfl, by decide +kernel, by decide +kernel⟩

end SoftwareKvm
