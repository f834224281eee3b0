import SoftwareKvm.Types.Config

/-!
# State of `DaemonCore`

The data of `kvm-daemon/src/core.rs`: peer states, latched destinations, the
ledger of remotely held controls, the cleanup queue, and the record
`DaemonCore` with `DaemonCore::new`.

`publish` stores a fresh `RoutingSnapshot`; the snapshot cell is the field
`snapshot`. Diagnostics counters (feature `diagnostics`) and log lines are not
modelled.
-/

namespace SoftwareKvm

open Lib

/-! ## Data types -/

inductive PeerState
  | disconnected
  | discovering
  | connecting
  | authenticating
  | connected
  | degraded

def PeerState.acceptsInput : PeerState → Bool
  | .connected => true
  | _ => false

structure RoutingSnapshot where
  workspace : WorkspaceState
  routing : RoutingTable
  peers : OrdMap HostId PeerState
  enabled : Bool
  workspaceReady : Bool
  handoffPending : Bool

structure RemoteRelease where
  target : HostId
  sourceDevice : DeviceId
  payload : InputPayload

inductive CaptureRouteState
  | local
  | inert
  | remoteQueued
  | gated
  deriving DecidableEq

structure CaptureOutcome where
  disposition : CaptureDisposition
  failsafeActivated : Bool
  state : CaptureRouteState
  deriving DecidableEq

namespace CaptureOutcome

/-- `CaptureOutcome::local`. -/
def allowLocal (failsafeActivated : Bool) (state : CaptureRouteState) : CaptureOutcome :=
  ⟨.allowLocal, failsafeActivated, state⟩

def inert : CaptureOutcome := ⟨.suppressLocal, false, .inert⟩

def remoteQueued : CaptureOutcome := ⟨.suppressLocal, false, .remoteQueued⟩

def gatedSuppressed : CaptureOutcome := ⟨.suppressLocal, false, .gated⟩

end CaptureOutcome

structure RemoteInputEffect where
  decisionId : ℕ
  endpoint : SessionEndpoint
  event : InputEvent
  deriving DecidableEq

inductive CoreCaptureError
  | unavailable
  | capacityExceeded
  | staleDecision
  | staleCleanup
  | cleanupPending
  | identifierSpaceExhausted
  deriving DecidableEq

inductive CaptureDecision
  | local (outcome : CaptureOutcome)
  | inert (outcome : CaptureOutcome)
  | remote (effect : RemoteInputEffect)
  | fault (outcome : CaptureOutcome) (error : CoreCaptureError)
  deriving DecidableEq

structure CleanupReleaseEffect where
  cleanupId : ℕ
  endpoint : SessionEndpoint
  coveredInputSequence : ℕ
  release : RemoteRelease

/-- `LatchedDestination`: where a physically held control was sent. -/
inductive LatchedDestination
  | local
  | remote (endpoint : SessionEndpoint) (route : DeviceRoute)
  | quarantined
  deriving DecidableEq

structure PendingRemoteDecision where
  id : ℕ
  device : DeviceId
  control : Option PhysicalControl
  transition : Option PhysicalTransition
  previousLatch : Option LatchedDestination
  endpoint : SessionEndpoint

structure CleanupEntry where
  id : ℕ
  endpoint : SessionEndpoint
  coveredInputSequence : ℕ
  release : RemoteRelease
  control : PhysicalControl

/-- The `remote_held` key that a cleanup entry releases. -/
def CleanupEntry.heldKey (e : CleanupEntry) : HeldKey :=
  ⟨e.endpoint, e.release.sourceDevice, e.control⟩

structure RemoteHeldState where
  route : DeviceRoute
  lastInputSequence : ℕ
  deriving DecidableEq

structure EndpointAvailability where
  endpoint : SessionEndpoint
  state : PeerState

structure PendingRoutePolicy where
  nextRevision : ℕ
  config : Config
  routing : RoutingTable
  affectedDevices : Finset DeviceId

inductive RoutePolicyUpdateStatus
  | cleanupPending
  | readyToPersist

inductive RoutePolicyUpdateError
  | invalidCandidate
  | staleRevision
  | conflictingUpdate
  | revisionExhausted
  | capturePending
  | cleanupUnavailable
  | notReady
  deriving DecidableEq

inductive DaemonError
  | config (error : ConfigError)
  | localHostChanged (expected actual : HostId)
  | invalidInitialAuthority
  | invalidRoutingTable
  | cleanupPending
  | capturePending

inductive LifecycleState
  | running (routingRequested : Bool)
  | shuttingDown

def maxPhysicalHeldDevices : ℕ := 64
def maxPhysicalHeldPerDevice : ℕ := 256
def maxPhysicalHeldTotal : ℕ := 1024
def maxRemoteHeldTotal : ℕ := 1024
def maxPendingRemoteCleanup : ℕ := 1024
def maxGatedLocalDevices : ℕ := maxDeviceRoutes

/-! ## The core -/

structure DaemonCore where
  config : Config
  workspace : WorkspaceState
  routing : RoutingTable
  peers : OrdMap HostId PeerState
  endpointAvailability : OrdMap HostId EndpointAvailability
  lifecycle : LifecycleState
  suspendedUntilNs : ℕ
  drainFailsafeKeys : Bool
  physicalControls : OrdMap DeviceId (OrdMap PhysicalControl LatchedDestination)
  physicalControlCount : ℕ
  remoteHeld : OrdMap HeldKey RemoteHeldState
  cleanup : List CleanupEntry
  cleanupInFlight : Option ℕ
  pendingRemote : Option PendingRemoteDecision
  pendingRoutePolicy : Option PendingRoutePolicy
  routePolicyRevision : ℕ
  gatedLocalDevices : Finset DeviceId
  nextEffectId : ℕ
  workspaceReady : Bool
  handoffPending : Bool
  snapshot : RoutingSnapshot

/-- The result of a method and the core after it. -/
abbrev CoreResult (α : Type) : Type := Except CoreCaptureError α × DaemonCore

namespace DaemonCore

def new (config : Config) (workspace : WorkspaceState) : Except DaemonError DaemonCore :=
  match config.validate with
  | .error error => .error (.config error)
  | .ok () =>
    if workspace.localHost.isNil || workspace.activeHost ≠ workspace.localHost
        || workspace.activeDisplay ≠ workspace.pointer.displayId then
      .error .invalidInitialAuthority
    else match routingFromConfig config with
      | .error _ => .error .invalidRoutingTable
      | .ok routing =>
        let peers := config.pairedHosts.foldl
          (fun peers peer => peers.insert peer.hostId .disconnected) ∅
        .ok {
          config, workspace, routing, peers
          endpointAvailability := ∅
          lifecycle := .running true
          suspendedUntilNs := 0
          drainFailsafeKeys := false
          physicalControls := ∅
          physicalControlCount := 0
          remoteHeld := ∅
          cleanup := []
          cleanupInFlight := none
          pendingRemote := none
          pendingRoutePolicy := none
          routePolicyRevision := config.deviceRouteRevision
          gatedLocalDevices := ∅
          nextEffectId := 1
          workspaceReady := false
          handoffPending := false
          snapshot := ⟨workspace, routing, peers, false, false, false⟩ }

variable (c : DaemonCore)

def cleanupPending : Bool := !c.cleanup.isEmpty || c.cleanupInFlight.isSome

def isEnabled : Bool :=
  match c.lifecycle with
  | .running routingRequested => routingRequested
  | .shuttingDown => false

def routingShouldBeActive (nowNs : ℕ) : Bool :=
  c.isEnabled && c.suspendedUntilNs ≤ nowNs && !c.drainFailsafeKeys && c.workspaceReady
    && (!c.cleanupPending || c.pendingRoutePolicy.isSome) && c.pendingRemote.isNone

def publish (nowNs : ℕ) : DaemonCore :=
  { c with snapshot := ⟨c.workspace, c.routing, c.peers, c.routingShouldBeActive nowNs,
      c.workspaceReady, c.handoffPending⟩ }

/-- The assignment `self.workspace.active_host = self.workspace.local_host`. -/
def activateLocal : DaemonCore :=
  { c with workspace := { c.workspace with activeHost := c.workspace.localHost } }

/-- The assignment `self.workspace_ready = false`. -/
def unready : DaemonCore := { c with workspaceReady := false }

/-- The fail-closed gate: not ready, local authority, no handoff. -/
def closeGate : DaemonCore :=
  { c.activateLocal with workspaceReady := false, handoffPending := false }

/-- The latch of a control, `self.physical_controls.get(&device)…get(&control)`. -/
def latch? (device : DeviceId) (control : PhysicalControl) : Option LatchedDestination :=
  (c.physicalControls.get? device).bind (·.get? control)

/-- `self.physical_controls.get_mut(&device)…get_mut(&control)` assigned `latch`. -/
def setLatch (device : DeviceId) (control : PhysicalControl)
    (latch : LatchedDestination) : DaemonCore :=
  { c with physicalControls :=
      c.physicalControls.modify device fun controls => controls.modify control fun _ => latch }

/-- The insertion of a new `Local` latch on a first press. -/
def insertLatch (device : DeviceId) (control : PhysicalControl) : DaemonCore :=
  { c with
    physicalControls := c.physicalControls.insert device
      (((c.physicalControls.get? device).getD ∅).insert control .local)
    physicalControlCount := c.physicalControlCount + 1 }

/-- The removal of a latch on a release; an emptied device is removed too. -/
def removeLatch (device : DeviceId) (control : PhysicalControl) : DaemonCore :=
  match c.physicalControls.get? device with
  | none => c
  | some controls =>
    if controls.contains control then
      let controls := controls.erase control
      { c with
        physicalControls := if controls.isEmpty then c.physicalControls.erase device
          else c.physicalControls.insert device controls
        physicalControlCount := c.physicalControlCount - 1 }
    else c

/-- Rewrite every latch in place. -/
def mapLatches (f : DeviceId → LatchedDestination → LatchedDestination) : DaemonCore :=
  { c with physicalControls := c.physicalControls.mapVals fun device controls =>
      controls.mapVals fun _ latch => f device latch }

end DaemonCore

/-! ## A sample core

Two paired hosts, the local one active: the setting of the concrete runs. -/

namespace Sample

def localHost : HostId := ⟨1⟩
def remoteHost : HostId := ⟨2⟩
def keyboard : DeviceId := ⟨7⟩

/-- A host paired with one peer. -/
def configFor (peer : HostId) : Config where
  pairedHosts := [{
    hostId := peer, peerId := ⟨5⟩, name := ['b'], platform := .macOS
    identityFingerprint := List.replicate 64 'a', lastAddress := none }]

def config : Config := configFor remoteHost

def workspaceFor (host : HostId) : WorkspaceState := .new host host ⟨⟨3⟩, 0, 0⟩

def workspace : WorkspaceState := workspaceFor localHost

def core : DaemonCore := (DaemonCore.new config workspace).toOption.get (by decide +kernel)

/-- The core of the other host. -/
def peerCore : DaemonCore :=
  (DaemonCore.new (configFor localHost) (workspaceFor remoteHost)).toOption.get
    (by decide +kernel)

def endpoint : SessionEndpoint where
  peerId := ⟨5⟩
  hostId := remoteHost
  generation := ⟨1, 1⟩
  selectedProtocolVersion := 3
  sessionId := 9
  valid := by decide

def key (code : NamedKey) (state : KeyState) : CapturedInput where
  event := ⟨0, 0, localHost, keyboard, .key (.named code) state⟩
  classification := .physical

end Sample

end SoftwareKvm
