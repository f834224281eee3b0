import SoftwareKvm.Core.Capture

/-!
# Administrative operations of `DaemonCore`

Lifecycle, workspace, endpoint, device-gate and route-policy operations
(`core.rs`, lines 1138–1850 and 1957–1995).
-/

namespace SoftwareKvm

open Lib

namespace DaemonCore

/-! ## Lifecycle -/

variable (c : DaemonCore)

/-- `tick` (lines 1140–1150). -/
def tick (nowNs : ℕ) : Bool × DaemonCore :=
  let c := if c.drainFailsafeKeys && !c.anyFailsafeKeyPressed then
    { c with drainFailsafeKeys := false } else c
  if c.snapshot.enabled = c.routingShouldBeActive nowNs then (false, c)
  else (true, c.publish nowNs)

def enable (nowNs : ℕ) : DaemonCore :=
  match c.lifecycle with
  | .running _ => publish { c with lifecycle := .running true } nowNs
  | .shuttingDown => c

/-- The common tail of `disable`, `shutdown` and `clear_workspace_routing_ready`: local authority,
    no handoff, and a full cleanup. -/
def releaseAuthority (nowNs : ℕ) : CoreResult Unit :=
  let c := { c.activateLocal with handoffPending := false }
  let (queued, c) := c.queueRemoteCleanup allHeld
  (queued, c.publish nowNs)

def disable (nowNs : ℕ) : CoreResult Unit :=
  if c.pendingRemote.isSome then (.error .unavailable, c)
  else
    let lifecycle := match c.lifecycle with
      | .running _ => .running false
      | .shuttingDown => .shuttingDown
    releaseAuthority { c with lifecycle } nowNs

def triggerEmergency (nowNs : ℕ) : CoreResult Unit :=
  if c.pendingRemote.isSome then (.error .unavailable, c)
  else activateFailsafe { c with drainFailsafeKeys := true } nowNs

def shutdown (nowNs : ℕ) : CoreResult Unit :=
  if c.pendingRemote.isSome then (.error .unavailable, c)
  else releaseAuthority { c with lifecycle := .shuttingDown } nowNs

/-- `clear_workspace_routing_ready` (lines 1823–1837). -/
def clearWorkspaceRoutingReady (nowNs : ℕ) : CoreResult Unit :=
  if c.pendingRemote.isSome then (.error .unavailable, c)
  else c.unready.releaseAuthority nowNs

/-- `mark_workspace_routing_ready` (lines 1839–1858). -/
def markWorkspaceRoutingReady (nowNs : ℕ) : CoreResult Unit :=
  let running := match c.lifecycle with
    | .running _ => true
    | .shuttingDown => false
  if c.pendingRemote.isSome || c.cleanupPending || !c.remoteHeld.isEmpty
      || !c.endpointAvailability.values.any (·.state.acceptsInput) || !running then
    (.error .unavailable, c)
  else (.ok (), publish { c with workspaceReady := true } nowNs)

/-! ## Workspace and handoff -/

/-- `update_workspace` (lines 1506–1546). -/
def updateWorkspace (workspace : WorkspaceState) (nowNs : ℕ) :
    Except DaemonError Unit × DaemonCore :=
  if c.pendingRemote.isSome then (.error .capturePending, c)
  else if c.pendingRoutePolicy.isSome then (.error .cleanupPending, c)
  else if workspace.localHost ≠ c.workspace.localHost then
    (.error (.localHostChanged c.workspace.localHost workspace.localHost), c)
  else if workspace.activeDisplay ≠ workspace.pointer.displayId then
    (.error .invalidInitialAuthority, c)
  else if workspace.activeHost ≠ c.workspace.activeHost then
    match c.queueRemoteCleanup followsActiveHost with
    | (.error _, c) => (.error .cleanupPending, c)
    | (.ok (), c) =>
      if c.cleanupPending then (.error .cleanupPending, c.publish nowNs)
      else (.ok (), publish { c with workspace } nowNs)
  else (.ok (), publish { c with workspace } nowNs)

def beginPointerHandoff (nowNs : ℕ) : CoreResult Unit :=
  if c.pendingRemote.isSome || c.pendingRoutePolicy.isSome then (.error .unavailable, c)
  else
    let (queued, c) := queueRemoteCleanup { c with handoffPending := true } followsActiveHost
    (queued, c.publish nowNs)

def cancelPointerHandoff (nowNs : ℕ) : DaemonCore :=
  publish { c.activateLocal with handoffPending := false } nowNs

def abortDestinationHandoffBarrier (nowNs : ℕ) : DaemonCore :=
  publish { c with handoffPending := false } nowNs

/-- `finish_pointer_handoff` (lines 1571–1592). -/
def finishPointerHandoff (workspace : WorkspaceState) (nowNs : ℕ) :
    Except DaemonError Unit × DaemonCore :=
  if c.pendingRemote.isSome then (.error .capturePending, c)
  else if c.pendingRoutePolicy.isSome then (.error .cleanupPending, c)
  else if c.cleanupPending then (.error .cleanupPending, c)
  else match c.updateWorkspace workspace nowNs with
    | (.error error, c) => (.error error, c)
    | (.ok (), c) => (.ok (), publish { c with handoffPending := false } nowNs)

/-! ## Peers and session endpoints -/

/-- `set_peer_state` (lines 1601–1627). -/
def setPeerState (host : HostId) (state : PeerState) (nowNs : ℕ) : CoreResult Unit :=
  if c.pendingRemote.isSome then (.error .unavailable, c)
  else if !c.peers.contains host then (.ok (), c)
  else if c.endpointAvailability.contains host then (.error .unavailable, c)
  else (.ok (), publish { c with peers := c.peers.insert host state } nowNs)

/-- Whether a configuration pairs the host and the peer of an endpoint. -/
def pairsEndpoint (config : Config) (endpoint : SessionEndpoint) : Bool :=
  config.pairedHosts.any fun peer =>
    peer.hostId == endpoint.hostId && peer.peerId == endpoint.peerId

/-- `install_session_endpoint` (lines 1629–1657). -/
def installSessionEndpoint (endpoint : SessionEndpoint) (nowNs : ℕ) : CoreResult Unit :=
  if c.pendingRemote.isSome || !pairsEndpoint c.config endpoint then (.error .unavailable, c)
  else if (c.endpointAvailability.get? endpoint.hostId).any (·.endpoint != endpoint) then
    (.error .unavailable, c)
  else (.ok (), publish
    { c with
      endpointAvailability :=
        c.endpointAvailability.insert endpoint.hostId ⟨endpoint, .connected⟩
      peers := c.peers.insert endpoint.hostId .connected } nowNs)

/-- `self.endpoint_availability.get(&endpoint.host_id())` is `endpoint`. -/
def endpointIsCurrent (endpoint : SessionEndpoint) : Bool :=
  (c.endpointAvailability.get? endpoint.hostId).any (·.endpoint == endpoint)

/-- `if self.workspace.active_host == host { active_host = local_host }`. -/
def deactivateHost (host : HostId) : DaemonCore :=
  if c.workspace.activeHost = host then c.activateLocal else c

/-- `set_endpoint_state` (lines 1659–1692). -/
def setEndpointState (endpoint : SessionEndpoint) (state : PeerState)
    (nowNs : ℕ) : CoreResult Unit :=
  if c.pendingRemote.isSome || !c.endpointIsCurrent endpoint then (.error .unavailable, c)
  else
    let c := { c with
      endpointAvailability := c.endpointAvailability.modify endpoint.hostId
        fun current => { current with state }
      peers := c.peers.insert endpoint.hostId state }
    if state.acceptsInput then (.ok (), c.publish nowNs)
    else
      let c := { c.deactivateHost endpoint.hostId with
        handoffPending := false, workspaceReady := false }
      let (queued, c) := c.queueRemoteCleanup fun _ held _ => held == endpoint
      (queued, c.publish nowNs)

def endpointHasObligations (endpoint : SessionEndpoint) : Bool :=
  c.remoteHeld.keys.any (·.endpoint == endpoint) || c.cleanup.any (·.endpoint == endpoint)
    || c.pendingRemote.any (·.endpoint == endpoint)

/-- `retire_session_endpoint` (lines 1694–1719). -/
def retireSessionEndpoint (endpoint : SessionEndpoint) (nowNs : ℕ) : CoreResult Unit :=
  if c.pendingRemote.isSome
      || !(c.endpointAvailability.get? endpoint.hostId).any
        (fun current => current.endpoint == endpoint && !current.state.acceptsInput)
      || c.endpointHasObligations endpoint then
    (.error .cleanupPending, c)
  else
    let c := { c with
      endpointAvailability := c.endpointAvailability.erase endpoint.hostId
      peers := c.peers.insert endpoint.hostId .disconnected }
    (.ok (), publish
      { c.deactivateHost endpoint.hostId with workspaceReady := false, handoffPending := false }
      nowNs)

/-- The part of `confirm_transport_invalidated` that applies when the endpoint is current. -/
def dropCurrentEndpoint (endpoint : SessionEndpoint) : DaemonCore :=
  if c.endpointIsCurrent endpoint then
    let c := { c with
      endpointAvailability := c.endpointAvailability.erase endpoint.hostId
      peers := c.peers.modify endpoint.hostId fun _ => .disconnected }
    { c.deactivateHost endpoint.hostId with workspaceReady := false, handoffPending := false }
  else c

/-- The endpoint of the cleanup release in flight. -/
def inFlightEndpoint : Option SessionEndpoint :=
  (c.cleanup.head?.filter fun entry => c.cleanupInFlight == some entry.id).map (·.endpoint)

/-- `confirm_transport_invalidated` (lines 1957–1995). -/
def confirmTransportInvalidated (endpoint : SessionEndpoint) (nowNs : ℕ) : DaemonCore :=
  let c := c.dropCurrentEndpoint endpoint
  let c := { c with
    cleanup := c.cleanup.filter (·.endpoint != endpoint)
    cleanupInFlight := if c.inFlightEndpoint = some endpoint then none else c.cleanupInFlight
    remoteHeld := c.remoteHeld.filter fun key _ => key.endpoint != endpoint }
  let c := c.mapLatches fun _ latch =>
    match latch with
    | .remote held _ => if held = endpoint then .quarantined else latch
    | _ => latch
  c.publish nowNs

/-! ## Device gates -/

/-- `gate_local_devices` (lines 1445–1472). -/
def gateLocalDevices (devices : List DeviceId) (nowNs : ℕ) : CoreResult Unit :=
  if c.pendingRemote.isSome || devices.any (·.isNil) then (.error .unavailable, c)
  else
    let requested := devices.toFinset
    let added := (requested \ c.gatedLocalDevices).card
    if maxGatedLocalDevices < c.gatedLocalDevices.card + added then (.error .capacityExceeded, c)
    else
      let c := { c with gatedLocalDevices := c.gatedLocalDevices ∪ requested }
      let (queued, c) := c.queueRemoteCleanup fun _ _ device => decide (device ∈ requested)
      (queued, c.publish nowNs)

/-- `restore_local_device` (lines 1474–1498). -/
def restoreLocalDevice (device : DeviceId) (nowNs : ℕ) : CoreResult Unit :=
  if c.remoteHeld.keys.any (·.device == device)
      || c.cleanup.any (·.release.sourceDevice == device) then
    (.error .cleanupPending, c)
  else
    let removed := ((c.physicalControls.get? device).map OrdMap.size).getD 0
    (.ok (), publish
      { c with
        physicalControls := c.physicalControls.erase device
        physicalControlCount := c.physicalControlCount - removed
        gatedLocalDevices := c.gatedLocalDevices.erase device } nowNs)

/-! ## Route policy -/

def affectedRouteDevices (currentConfig candidateConfig : Config)
    (current candidate : RoutingTable) : Finset DeviceId :=
  (((currentConfig.deviceRoutes ++ candidateConfig.deviceRoutes).map (·.deviceId)).filter
    fun device => current.routeFor device != candidate.routeFor device).toFinset

def routeResolvesToTarget (route : DeviceRoute) (target : HostId) (workspace : WorkspaceState) :
    Bool :=
  match route with
  | .local => target == workspace.localHost
  | .followActiveHost => target == workspace.activeHost && target != workspace.localHost
  | .host host => host == target && target != workspace.localHost

def routeResolvesToEndpoint (route : DeviceRoute) (endpoint : SessionEndpoint)
    (workspace : WorkspaceState) (availability : OrdMap HostId EndpointAvailability) : Bool :=
  routeResolvesToTarget route endpoint.hostId workspace
    && (availability.get? endpoint.hostId).any (·.endpoint == endpoint)

/-- The `affected` predicate of a route-policy candidate: held controls of an
    affected device whose candidate route leaves their endpoint. -/
def movesRoute (routing : RoutingTable) (affectedDevices : Finset DeviceId) : HeldFilter :=
  fun _ endpoint device => decide (device ∈ affectedDevices)
    && !routeResolvesToEndpoint (routing.routeFor device) endpoint c.workspace
      c.endpointAvailability

def pendingRouteHasUnresolvedRemote : Bool :=
  match c.pendingRoutePolicy with
  | none => false
  | some pending => c.remoteHeld.entries.any fun (key, held) =>
      c.movesRoute pending.routing pending.affectedDevices held.route key.endpoint key.device

def routePolicyUpdateStatus : Except RoutePolicyUpdateError RoutePolicyUpdateStatus :=
  if c.pendingRoutePolicy.isNone then .error .notReady
  else if c.cleanupPending || c.pendingRouteHasUnresolvedRemote then .ok .cleanupPending
  else .ok .readyToPersist

/-- `prepare_route_policy_update` (lines 1246–1326). -/
def prepareRoutePolicyUpdate (candidate : Config) (expectedRevision nowNs : ℕ) :
    Except RoutePolicyUpdateError RoutePolicyUpdateStatus × DaemonCore :=
  if c.pendingRemote.isSome then (.error .capturePending, c)
  else if c.handoffPending then (.error .cleanupUnavailable, c)
  else match c.pendingRoutePolicy with
  | some pending =>
    let candidate := { candidate with deviceRouteRevision := pending.nextRevision }
    if expectedRevision = c.routePolicyRevision ∧ candidate = pending.config then
      (c.routePolicyUpdateStatus, c)
    else if expectedRevision ≠ c.routePolicyRevision then (.error .staleRevision, c)
    else (.error .conflictingUpdate, c)
  | none =>
    if expectedRevision ≠ c.routePolicyRevision then (.error .staleRevision, c)
    else match checkedAdd c.routePolicyRevision 1 with
    | none => (.error .revisionExhausted, c)
    | some nextRevision =>
      let candidate := { candidate with deviceRouteRevision := nextRevision }
      match candidate.validate, routingFromConfig candidate with
      | .ok (), .ok routing =>
        let expected := { c.config with
          deviceRoutes := candidate.deviceRoutes, deviceRouteRevision := nextRevision }
        if candidate ≠ expected then (.error .invalidCandidate, c)
        else if c.cleanupPending then (.error .cleanupUnavailable, c)
        else
          let affectedDevices := affectedRouteDevices c.config candidate c.routing routing
          match c.queueRemoteCleanup (c.movesRoute routing affectedDevices) with
          | (.error _, c) => (.error .cleanupUnavailable, c)
          | (.ok (), c) =>
            let pending : PendingRoutePolicy := ⟨nextRevision, candidate, routing, affectedDevices⟩
            let c := publish { c with pendingRoutePolicy := some pending } nowNs
            (c.routePolicyUpdateStatus, c)
      | _, _ => (.error .invalidCandidate, c)

/-- `retry_route_policy_update` (lines 1332–1362). -/
def retryRoutePolicyUpdate (nowNs : ℕ) :
    Except RoutePolicyUpdateError RoutePolicyUpdateStatus × DaemonCore :=
  if c.pendingRemote.isSome then (.error .capturePending, c)
  else match c.pendingRoutePolicy with
  | none => (.error .notReady, c)
  | some pending =>
    match c.queueRemoteCleanup (c.movesRoute pending.routing pending.affectedDevices) with
    | (.error _, c) => (.error .cleanupUnavailable, c)
    | (.ok (), c) =>
      let c := c.publish nowNs
      (c.routePolicyUpdateStatus, c)

def stagedRoutePolicy : Option PendingRoutePolicy :=
  c.pendingRoutePolicy.filter fun _ => !c.cleanupPending && !c.pendingRouteHasUnresolvedRemote

/-- The two loops of `commit_route_policy_update` over `remote_held` and
    `physical_controls`: every remote hold takes its candidate route. -/
def rerouteHeld (routing : RoutingTable) : DaemonCore :=
  { c with remoteHeld := c.remoteHeld.mapVals fun key held =>
      { held with route := routing.routeFor key.device } }

@[inherit_doc rerouteHeld]
def rerouteLatches (routing : RoutingTable) : DaemonCore :=
  c.mapLatches fun device latch =>
    match latch with
    | .remote endpoint _ => .remote endpoint (routing.routeFor device)
    | _ => latch

/-- `commit_route_policy_update` (lines 1372–1423). -/
def commitRoutePolicyUpdate (nextRevision nowNs : ℕ) :
    Except RoutePolicyUpdateError ℕ × DaemonCore :=
  if c.pendingRemote.isSome then (.error .capturePending, c)
  else match c.routePolicyUpdateStatus, c.pendingRoutePolicy with
  | .ok .readyToPersist, some pending =>
    if pending.nextRevision ≠ nextRevision then (.error .conflictingUpdate, c)
    else
      (.ok nextRevision, publish
        { (c.rerouteHeld pending.routing).rerouteLatches pending.routing with
          pendingRoutePolicy := none, config := pending.config, routing := pending.routing
          routePolicyRevision := nextRevision } nowNs)
  | .error error, _ => (.error error, c)
  | _, _ => (.error .notReady, c)

def abortRoutePolicyUpdate (nextRevision nowNs : ℕ) :
    Except RoutePolicyUpdateError Unit × DaemonCore :=
  match c.pendingRoutePolicy with
  | none => (.error .notReady, c)
  | some pending =>
    if pending.nextRevision ≠ nextRevision then (.error .conflictingUpdate, c)
    else (.ok (), publish { c with pendingRoutePolicy := none } nowNs)

/-! ## Configuration -/

/-- The peer table of a new configuration: unpaired hosts leave, new ones start disconnected, and
    an unpaired active host loses its authority (lines 1188–1202). -/
def adoptPairedHosts (config : Config) : DaemonCore :=
  let kept := c.peers.filter fun host _ => config.pairedHosts.any (·.hostId == host)
  let peers := config.pairedHosts.foldl
    (fun peers peer => if peers.contains peer.hostId then peers
      else peers.insert peer.hostId .disconnected) kept
  let c := { c with peers }
  if !peers.contains c.workspace.activeHost && c.workspace.activeHost != c.workspace.localHost then
    c.closeGate
  else c

/-- The branch of `update_config` for a configuration that does not change the
    route policy (lines 1162–1206). -/
def updateConfigSameRoutes (config : Config) (nowNs : ℕ) : Except DaemonError Unit × DaemonCore :=
  if c.pendingRemote.isSome then (.error .capturePending, c)
  else if c.pendingRoutePolicy.isSome then (.error .cleanupPending, c)
  else match config.validate, routingFromConfig config with
  | .error error, _ => (.error (.config error), c)
  | .ok (), .error _ => (.error .invalidRoutingTable, c)
  | .ok (), .ok routing =>
    if c.cleanupPending then (.error .cleanupPending, c)
    else match c.queueRemoteCleanup fun _ endpoint _ => !pairsEndpoint config endpoint with
    | (.error _, c) => (.error .cleanupPending, c)
    | (.ok (), c) =>
      if c.cleanupPending then (.error .cleanupPending, c.publish nowNs)
      else (.ok (), publish { c.adoptPairedHosts config with config, routing } nowNs)

/-- The `map_err` of `update_config` over `prepare_route_policy_update`. -/
def policyErrorToDaemonError : RoutePolicyUpdateError → DaemonError
  | .capturePending => .capturePending
  | .cleanupUnavailable | .notReady => .cleanupPending
  | .invalidCandidate | .staleRevision | .conflictingUpdate | .revisionExhausted =>
    .invalidRoutingTable

/-- `update_config` (lines 1161–1236). -/
def updateConfig (config : Config) (nowNs : ℕ) : Except DaemonError Unit × DaemonCore :=
  if config.deviceRoutes = c.config.deviceRoutes
      ∧ config.deviceRouteRevision = c.routePolicyRevision then
    c.updateConfigSameRoutes config nowNs
  else match c.prepareRoutePolicyUpdate config c.routePolicyRevision nowNs with
  | (.error error, c) => (.error (policyErrorToDaemonError error), c)
  | (.ok .cleanupPending, c) => (.error .cleanupPending, c)
  | (.ok .readyToPersist, c) =>
    match c.stagedRoutePolicy with
    | none => (.error .invalidRoutingTable, c)
    | some staged =>
      match c.commitRoutePolicyUpdate staged.nextRevision nowNs with
      | (.error _, c) => (.error .invalidRoutingTable, c)
      | (.ok _, c) => (.ok (), c)

end DaemonCore

/-! ## Operations as data -/

/-- Every operation of the core besides the routing of a captured event. -/
inductive CoreOp
  | tick (nowNs : ℕ)
  | enable (nowNs : ℕ)
  | disable (nowNs : ℕ)
  | triggerEmergency (nowNs : ℕ)
  | shutdown (nowNs : ℕ)
  | clearWorkspaceRoutingReady (nowNs : ℕ)
  | markWorkspaceRoutingReady (nowNs : ℕ)
  | updateWorkspace (workspace : WorkspaceState) (nowNs : ℕ)
  | beginPointerHandoff (nowNs : ℕ)
  | cancelPointerHandoff (nowNs : ℕ)
  | abortDestinationHandoffBarrier (nowNs : ℕ)
  | finishPointerHandoff (workspace : WorkspaceState) (nowNs : ℕ)
  | setPeerState (host : HostId) (state : PeerState) (nowNs : ℕ)
  | installSessionEndpoint (endpoint : SessionEndpoint) (nowNs : ℕ)
  | setEndpointState (endpoint : SessionEndpoint) (state : PeerState) (nowNs : ℕ)
  | retireSessionEndpoint (endpoint : SessionEndpoint) (nowNs : ℕ)
  | confirmTransportInvalidated (endpoint : SessionEndpoint) (nowNs : ℕ)
  | gateLocalDevices (devices : List DeviceId) (nowNs : ℕ)
  | restoreLocalDevice (device : DeviceId) (nowNs : ℕ)
  | prepareRoutePolicyUpdate (candidate : Config) (expectedRevision nowNs : ℕ)
  | retryRoutePolicyUpdate (nowNs : ℕ)
  | commitRoutePolicyUpdate (nextRevision nowNs : ℕ)
  | abortRoutePolicyUpdate (nextRevision nowNs : ℕ)
  | updateConfig (config : Config) (nowNs : ℕ)
  | takeNextCleanupRelease
  | confirmCleanupRelease (effect : CleanupReleaseEffect) (nowNs : ℕ)
  | retryCleanupRelease (effect : CleanupReleaseEffect) (nowNs : ℕ)

/-- The state after an operation; its result is dropped. -/
def CoreOp.apply (c : DaemonCore) : CoreOp → DaemonCore
  | .tick now => (c.tick now).2
  | .enable now => c.enable now
  | .disable now => (c.disable now).2
  | .triggerEmergency now => (c.triggerEmergency now).2
  | .shutdown now => (c.shutdown now).2
  | .clearWorkspaceRoutingReady now => (c.clearWorkspaceRoutingReady now).2
  | .markWorkspaceRoutingReady now => (c.markWorkspaceRoutingReady now).2
  | .updateWorkspace workspace now => (c.updateWorkspace workspace now).2
  | .beginPointerHandoff now => (c.beginPointerHandoff now).2
  | .cancelPointerHandoff now => c.cancelPointerHandoff now
  | .abortDestinationHandoffBarrier now => c.abortDestinationHandoffBarrier now
  | .finishPointerHandoff workspace now => (c.finishPointerHandoff workspace now).2
  | .setPeerState host state now => (c.setPeerState host state now).2
  | .installSessionEndpoint endpoint now => (c.installSessionEndpoint endpoint now).2
  | .setEndpointState endpoint state now => (c.setEndpointState endpoint state now).2
  | .retireSessionEndpoint endpoint now => (c.retireSessionEndpoint endpoint now).2
  | .confirmTransportInvalidated endpoint now => c.confirmTransportInvalidated endpoint now
  | .gateLocalDevices devices now => (c.gateLocalDevices devices now).2
  | .restoreLocalDevice device now => (c.restoreLocalDevice device now).2
  | .prepareRoutePolicyUpdate candidate revision now =>
    (c.prepareRoutePolicyUpdate candidate revision now).2
  | .retryRoutePolicyUpdate now => (c.retryRoutePolicyUpdate now).2
  | .commitRoutePolicyUpdate revision now => (c.commitRoutePolicyUpdate revision now).2
  | .abortRoutePolicyUpdate revision now => (c.abortRoutePolicyUpdate revision now).2
  | .updateConfig config now => (c.updateConfig config now).2
  | .takeNextCleanupRelease => c.takeNextCleanupRelease.2
  | .confirmCleanupRelease effect now => (c.confirmCleanupRelease effect now).2
  | .retryCleanupRelease effect now => (c.retryCleanupRelease effect now).2

end SoftwareKvm
