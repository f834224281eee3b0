import SoftwareKvm.Control.Operations

/-!
# The session supervisor

Models of `PeerSessionSupervisor` (`kvm-daemon/src/supervisor.rs`): one
generation gate and one coordinator for a paired peer, and how an event of the
active generation, a local operation or the loss of the connection is applied
to them and to the workspace control plane.

The fields of `SupervisorEngine` and those of `PeerSessionSupervisor` are in
one record. Methods that borrow the control plane are steps on a
`SupervisedWorkspace`; the others are steps on the supervisor alone.
-/

namespace SoftwareKvm

open Lib

/-! ## State and results -/

inductive SupervisorLifecycle
  | running
  | revoked
  | shuttingDown
  deriving DecidableEq

inductive WorkspaceReconciliationPhase
  | gracefulSettled
  | transportLost

inductive SupervisorEventOutcome
  | applied (outcome : PeerEventOutcome)
  | retired (outcome : PeerEventOutcome)
  | staleIgnored
  | pendingIgnored
  | pendingCancelled
  deriving DecidableEq

inductive PeerSessionSupervisorError
  | generation (error : ConnectionGenerationError)
  | coordinator (error : CoordinatorError)
  | unavailable
  | noActiveGeneration
  | invalidBoundEvent
  | workspace (error : WorkspaceControlError)
  deriving DecidableEq

structure SupervisorCaptureFailure where
  outcome : Option CaptureOutcome
  error : PeerSessionSupervisorError

/-- `PeerSessionSupervisor` with its `SupervisorEngine`. -/
structure PeerSessionSupervisor (ι ω : Type) where
  coordinator : PeerSessionCoordinator ι ω
  gate : ConnectionGenerationGate
  active : Option ActiveConnection
  lifecycle : SupervisorLifecycle
  currentSession : Option CurrentAdmittedSession
  workspaceReconciliation : Option WorkspaceReconciliationPhase

/-- A supervisor and the control plane its methods borrow. -/
structure SupervisedWorkspace (ι ω : Type) where
  supervisor : PeerSessionSupervisor ι ω
  plane : WorkspaceControlPlane

/-- A method of the supervisor alone. -/
abbrev EngineStep (ι ω : Type) := Step PeerSessionSupervisorError (PeerSessionSupervisor ι ω)

/-- A method of the supervisor that borrows the control plane. -/
abbrev SupervisorStep (ι ω : Type) := Step PeerSessionSupervisorError (SupervisedWorkspace ι ω)

/-- The part of such a method whose failures are those of the control plane. -/
abbrev DeliveryStep (ι ω : Type) := Step WorkspaceControlError (SupervisedWorkspace ι ω)

namespace PeerSessionSupervisor

variable {ι ω : Type}

def new (gate : ConnectionGenerationGate) (coordinator : PeerSessionCoordinator ι ω) :
    PeerSessionSupervisor ι ω :=
  ⟨coordinator, gate, none, .running, none, none⟩

def activeGeneration (s : PeerSessionSupervisor ι ω) : Option ConnectionGeneration := s.gate.active

def routePolicyUpdatePending (s : PeerSessionSupervisor ι ω) : Bool :=
  s.coordinator.core.pendingRoutePolicy.isSome

/-- An operation of the gate, with `?`. -/
def onGate {α : Type} (f : ConnectionGenerationGate →
    Except ConnectionGenerationError α × ConnectionGenerationGate) : EngineStep ι ω α := fun s =>
  ((f s.gate).1.mapError .generation, { s with gate := (f s.gate).2 })

/-- An operation of the coordinator, with `?`. -/
def onCoordinator {α : Type} (f : CoordinatorMethod ι ω α) : EngineStep ι ω α := fun s =>
  ((f s.coordinator).1.mapError .coordinator, { s with coordinator := (f s.coordinator).2 })

def beginPending (direction : ConnectionDirection) : EngineStep ι ω PendingConnection := do
  Step.guard .unavailable (·.lifecycle == .running)
  onGate (·.beginPending direction)

def cancelPending (token : PendingConnection) : EngineStep ι ω Unit :=
  onGate (·.cancelPending token)

def finishActive : EngineStep ι ω Unit := do
  let token ← Step.need .noActiveGeneration (·.active)
  Step.update fun s => { s with active := none }
  onGate (·.finishActive token)

/-- The end of every reconciliation that succeeds. -/
def retireGeneration : EngineStep ι ω SupervisorEventOutcome := do
  Step.update fun s => { s with currentSession := none, workspaceReconciliation := none }
  finishActive
  return .retired .applied

section Parameters

variable [OutputInjectionBackend ι] [OutboundPeer ω]

/-- `accept_activation_with`, applied to `activate_admitted_endpoint`. -/
def acceptActivation (token : ActiveConnection) (endpoint : SessionEndpoint)
    (peer : AdmittedSessionBinding) (nowNs : ℕ) : EngineStep ι ω SupervisorEventOutcome := do
  if (← Step.read (·.lifecycle)) ≠ .running then
    onGate (·.finishActive token)
    Step.fail .unavailable
  else match ← Step.attempt (onCoordinator (·.activateAdmittedEndpoint endpoint peer nowNs)) with
    | .ok outcome =>
      Step.update fun s => { s with active := some token }
      return .applied outcome
    | .error error =>
      onGate (·.finishActive token)
      Step.fail error

def reconcileWith (expected : Option ConnectionGeneration)
    (operation : CoordinatorMethod ι ω Unit) : EngineStep ι ω SupervisorEventOutcome := fun s =>
  if expected.any (!s.gate.isActive ·) then (.ok .staleIgnored, s)
  else (do
    let _ ← Step.need .noActiveGeneration (·.active)
    onCoordinator operation
    finishActive
    return .retired .applied : EngineStep ι ω SupervisorEventOutcome) s

def connectionLost (generation : ConnectionGeneration) (nowNs : ℕ) :
    EngineStep ι ω SupervisorEventOutcome := do
  Step.update fun s => if s.gate.isActive generation then { s with currentSession := none } else s
  reconcileWith (some generation) (·.disconnect nowNs)

def connectionTaskLost (generation : ConnectionGeneration) (nowNs : ℕ) :
    EngineStep ι ω SupervisorEventOutcome := fun s =>
  if s.gate.isActive generation then connectionLost generation nowNs s
  else match s.gate.abandonPending generation with
    | (.ok (), gate) => (.ok .pendingCancelled, { s with gate })
    | (.error .stalePending, gate) => (.ok .staleIgnored, { s with gate })
    | (.error error, gate) => (.error (.generation error), { s with gate })

/-- `self.lifecycle = Revoked`, unless it is `ShuttingDown`. -/
def markRevoked : EngineStep ι ω Unit :=
  Step.update fun s => if s.lifecycle = .shuttingDown then s else { s with lifecycle := .revoked }

/-! ## Route policy and device gates -/

omit [OutputInjectionBackend ι] [OutboundPeer ω] in
/-- `require_route_generation`. -/
def hasRouteGeneration (s : PeerSessionSupervisor ι ω) (generation : ConnectionGeneration) : Bool :=
  s.gate.isActive generation && s.currentSession.isSome

omit [OutputInjectionBackend ι] [OutboundPeer ω] in
/-- No generation is active and no session is current. -/
def isOffline (s : PeerSessionSupervisor ι ω) : Bool :=
  s.gate.active.isNone && s.currentSession.isNone

omit [OutputInjectionBackend ι] [OutboundPeer ω] in
/-- `require_route_authority`. -/
def hasRouteAuthority (s : PeerSessionSupervisor ι ω) : Option ConnectionGeneration → Bool
  | some generation => s.hasRouteGeneration generation
  | none => s.isOffline

/-- An operation of the coordinator that needs the authority over the routes. -/
def withRouteAuthority {ε α : Type} (refused : ε) (authority : Option ConnectionGeneration)
    (f : PeerSessionCoordinator ι ω → Except ε α × PeerSessionCoordinator ι ω) :
    Step ε (PeerSessionSupervisor ι ω) α := fun s =>
  if s.hasRouteAuthority authority then
    ((f s.coordinator).1, { s with coordinator := (f s.coordinator).2 })
  else (.error refused, s)

variable (authority : Option ConnectionGeneration)

def prepareRoutePolicyUpdate (candidate : Config) (expectedRevision nowNs : ℕ) :
    Step RoutePolicyCoordinatorError (PeerSessionSupervisor ι ω) RoutePolicyUpdateStatus :=
  withRouteAuthority .delivery authority
    (·.prepareRoutePolicyUpdate candidate expectedRevision nowNs)

def retryRoutePolicyUpdate (nowNs : ℕ) :
    Step RoutePolicyCoordinatorError (PeerSessionSupervisor ι ω) RoutePolicyUpdateStatus :=
  withRouteAuthority .delivery authority (·.retryRoutePolicyUpdate nowNs)

def commitRoutePolicyUpdate (revision nowNs : ℕ) :
    Step RoutePolicyUpdateError (PeerSessionSupervisor ι ω) ℕ :=
  withRouteAuthority .notReady authority (·.commitRoutePolicyUpdate revision nowNs)

def abortRoutePolicyUpdate (revision nowNs : ℕ) :
    Step RoutePolicyUpdateError (PeerSessionSupervisor ι ω) Unit :=
  withRouteAuthority .notReady authority (·.abortRoutePolicyUpdate revision nowNs)

/-- The delivery failure of an operation on the device gates. -/
def gateResult {ι ω : Type} (result : CoordinatorResult ι ω Unit) :
    Except RoutePolicyCoordinatorError Unit × PeerSessionCoordinator ι ω :=
  (result.1.mapError fun _ => .delivery, result.2)

/-- `gate_local_devices` with a generation, `gate_local_devices_offline` without. -/
def gateLocalDevices (devices : List DeviceId)
    (nowNs : ℕ) : Step RoutePolicyCoordinatorError (PeerSessionSupervisor ι ω) Unit :=
  withRouteAuthority .delivery authority fun c => gateResult (c.gateLocalDevices devices nowNs)

/-- `restore_local_device` with a generation, `restore_local_device_offline` without. -/
def restoreLocalDevice (device : DeviceId)
    (nowNs : ℕ) : Step RoutePolicyCoordinatorError (PeerSessionSupervisor ι ω) Unit :=
  withRouteAuthority .delivery authority fun c => gateResult (c.restoreLocalDevice device nowNs)

end Parameters

end PeerSessionSupervisor

namespace SupervisedWorkspace

open Step

variable {ι ω : Type}

/-! ## Parts of a method -/

/-- A method of the supervisor alone. -/
def onSupervisor {ε α : Type} (x : Step ε (PeerSessionSupervisor ι ω) α) :
    Step ε (SupervisedWorkspace ι ω) α :=
  x.zoom (·.supervisor) fun s supervisor => { s with supervisor }

/-- An operation of the control plane on the coordinator of the supervisor. -/
def onWorkspace {α : Type} (x : PlaneStep ι ω α) : DeliveryStep ι ω α :=
  x.zoom (fun s => ⟨s.plane, s.supervisor.coordinator⟩) fun s session =>
    { supervisor := { s.supervisor with coordinator := session.coordinator }
      plane := session.plane }

/-- An operation of the coordinator. -/
def onCoordinator {α : Type} (f : CoordinatorMethod ι ω α) : SupervisorStep ι ω α :=
  onSupervisor (PeerSessionSupervisor.onCoordinator f)

/-- An operation of the coordinator, as part of a delivery. -/
def deliver {α : Type} (f : CoordinatorMethod ι ω α) : DeliveryStep ι ω α := fun s =>
  ((f s.supervisor.coordinator).1.mapError .coordinator,
    { s with supervisor := { s.supervisor with coordinator := (f s.supervisor.coordinator).2 } })

/-- Do `x` if the generation is active; ignore it otherwise. -/
def ifActive (generation : ConnectionGeneration) (x : SupervisorStep ι ω SupervisorEventOutcome) :
    SupervisorStep ι ω SupervisorEventOutcome := fun s =>
  if s.supervisor.gate.isActive generation then x s else (.ok .staleIgnored, s)

/-- The current session, which an active generation has. -/
def requireSession : SupervisorStep ι ω CurrentAdmittedSession :=
  need .noActiveGeneration (·.supervisor.currentSession)

/-- `SessionRoutingContext::new`, with `?`, outside of a delivery. -/
def requireContext (session : CurrentAdmittedSession) : SupervisorStep ι ω Unit :=
  guard (.coordinator .notAdmitted)
    (·.supervisor.coordinator.authorizesEndpoint session.endpoint)

/-- `self.workspace_reconciliation = phase`. -/
def setPhase (phase : WorkspaceReconciliationPhase) : SupervisorStep ι ω Unit :=
  update fun s =>
    { s with supervisor := { s.supervisor with workspaceReconciliation := some phase } }

/-- `retire_after_transport_loss` and `retire_after_graceful_settlement`, which
    are the same method. -/
def retireSettled (session : CurrentAdmittedSession) : SupervisorStep ι ω Unit := fun s =>
  ((s.plane.retireSettledMetadata session).1.mapError .workspace,
    { s with plane := (s.plane.retireSettledMetadata session).2 })

/-- The end of every reconciliation that succeeds. -/
def retireGeneration : SupervisorStep ι ω SupervisorEventOutcome :=
  onSupervisor PeerSessionSupervisor.retireGeneration

section Parameters

variable [OutputInjectionBackend ι] [OutboundPeer ω]

/-! ## Reconciliation -/

variable (generation : ConnectionGeneration) (nowNs : ℕ)

/-- `reconcile_transport_lost_with_workspace`. -/
def reconcileTransportLost : SupervisorStep ι ω SupervisorEventOutcome := ifActive generation do
  let session ← requireSession
  setPhase .transportLost
  onCoordinator (·.disconnect nowNs)
  retireSettled session
  retireGeneration

/-- `reconcile_gracefully_settled_with_workspace`. -/
def reconcileGracefullySettled : SupervisorStep ι ω SupervisorEventOutcome := ifActive generation do
  let session ← requireSession
  retireSettled session
  if (← read (·.supervisor.lifecycle)) = .shuttingDown then
    onCoordinator (·.shutdown nowNs)
  retireGeneration

/-- What `reconcile_fatal_with_workspace` and `reconcile_shutdown_with_workspace` do without a
    phase: release the inbound keys, retire the session, end it by `terminate`. -/
def reconcileLive (terminate : CoordinatorMethod ι ω Unit) :
    SupervisorStep ι ω SupervisorEventOutcome := do
  let session ← requireSession
  if !(← read (·.supervisor.coordinator.authorizesEndpoint session.endpoint)) then
    setPhase .gracefulSettled
    reconcileGracefullySettled generation nowNs
  else
    onCoordinator (·.releaseAllInbound nowNs)
    requireContext session
    mapError .workspace (onWorkspace (WorkspaceSession.retire session nowNs))
    onCoordinator terminate
    retireGeneration

/-- `reconcile_fatal_with_workspace`. -/
def reconcileFatal : SupervisorStep ι ω SupervisorEventOutcome := ifActive generation do
  match ← read (·.supervisor.workspaceReconciliation) with
  | some .transportLost => reconcileTransportLost generation nowNs
  | some .gracefulSettled => reconcileGracefullySettled generation nowNs
  | none => reconcileLive generation nowNs (·.sessionFatalCleanup nowNs)

/-- `reconcile_shutdown_with_workspace`. -/
def reconcileShutdown : SupervisorStep ι ω SupervisorEventOutcome := ifActive generation do
  reconcileLive generation nowNs (·.shutdown nowNs)

def failWorkspaceGeneration {α : Type}
    (error : WorkspaceControlError) (nowNs : ℕ) : SupervisorStep ι ω α := do
  let _ ← reconcileFatal generation nowNs
  fail (.workspace error)

/-- The result of a delivery; its failure ends the generation. -/
def orFail {α : Type} (x : DeliveryStep ι ω α) : SupervisorStep ι ω α := do
  match ← attempt x with
  | .ok result => return result
  | .error error => failWorkspaceGeneration generation error nowNs

/-! ## Events of a generation -/

/-- The messages that the control plane handles. -/
def isWorkspaceMessage : WireMessage → Bool
  | .deviceSnapshot _ | .deviceAdded _ | .deviceRemoved _ | .displaySnapshot _
  | .displayUpdated _ => true
  | message => WorkspaceSession.isPointerMessage message

/-- The `Message` arm of `handle_active_event_with_workspace`. -/
def deliverMessage (session : CurrentAdmittedSession) (generation : ConnectionGeneration)
    (peer : AdmittedSessionBinding) (message : WireMessage) (nowNs : ℕ) :
    DeliveryStep ι ω PeerEventOutcome := do
  guard .unavailable fun s =>
    session.matchesAdmitted generation peer
      && !(WorkspaceSession.isPointerMessage message && s.supervisor.routePolicyUpdatePending)
  if isWorkspaceMessage message then
    check fun s =>
      (s.supervisor.coordinator.validateWorkspaceMessage peer message).mapError .coordinator
    onWorkspace (WorkspaceSession.handleMessage session message nowNs)
  else
    match message with
    | .input input => check fun s => s.plane.validateRemoteInput session input
    | _ => pure ()
    deliver (·.handleEndpointMessage session.endpoint peer message nowNs)

/-- The `PointerDatagram` arm. -/
def deliverPointerDatagram (session : CurrentAdmittedSession) (generation : ConnectionGeneration)
    (peer : AdmittedSessionBinding) (input : InputEventV1) (nowNs : ℕ) :
    DeliveryStep ι ω PeerEventOutcome := do
  guard .unavailable fun s =>
    session.matchesAdmitted generation peer && !s.supervisor.routePolicyUpdatePending
  check fun s => s.plane.validateRemoteInput session input
  deliver (·.handleEndpointPointerDatagram session.endpoint peer input nowNs)

/-- The `StateChanged` arm. A `Disconnected` state is no proof that the
    transport has ended, so the coordinator is told of a degraded one. -/
def deliverState (session : CurrentAdmittedSession) (state : ConnectionState) (nowNs : ℕ) :
    DeliveryStep ι ω PeerEventOutcome := do
  match state with
  | .connected =>
    let outcome ← deliver (·.handleEndpointState session.endpoint .connected nowNs)
    onWorkspace (WorkspaceSession.connected session)
    return outcome
  | .degraded | .disconnected =>
    onWorkspace (WorkspaceSession.degrade session nowNs)
    deliver (·.handleEndpointState session.endpoint .degraded nowNs)
  | .connecting | .authenticating =>
    deliver (·.handleEndpointState session.endpoint state nowNs)

/-- What an event other than `Disconnected` does to the current session. -/
def deliverEvent (session : CurrentAdmittedSession) (generation : ConnectionGeneration)
    (event : PeerEvent) (nowNs : ℕ) : DeliveryStep ι ω PeerEventOutcome :=
  match event with
  | .message peer message => deliverMessage session generation peer message nowNs
  | .pointerDatagram peer input => deliverPointerDatagram session generation peer input nowNs
  | .stateChanged state => deliverState session state nowNs
  | .disconnected | .admitted _ => fail .unavailable
  | .reconnectScheduled _ => pure .ignored

/-- `handle_active_event_with_workspace`. -/
def handleActiveEvent (event : PeerEvent) (nowNs : ℕ) :
    SupervisorStep ι ω SupervisorEventOutcome := ifActive generation do
  if event = .disconnected then reconcileTransportLost generation nowNs
  else
    guard .unavailable (·.supervisor.workspaceReconciliation.isNone)
    let session ← need .invalidBoundEvent (·.supervisor.currentSession)
    let outcome ← orFail generation nowNs (deliverEvent session generation event nowNs)
    return .applied outcome

/-- The `Activated` arm of `handle_applied_event_with_workspace`. -/
def handleActivation (token : ActiveConnection)
    (peer : AdmittedSessionBinding) (nowNs : ℕ) : SupervisorStep ι ω SupervisorEventOutcome := do
  match CurrentAdmittedSession.fromAdmitted generation peer with
  | none =>
    onSupervisor (PeerSessionSupervisor.onGate (·.finishActive token))
    fail .invalidBoundEvent
  | some session =>
    let outcome ← onSupervisor <|
      PeerSessionSupervisor.acceptActivation token session.endpoint peer nowNs
    update fun s =>
      { s with supervisor :=
          { s.supervisor with currentSession := some session, workspaceReconciliation := none } }
    orFail generation nowNs <| onWorkspace do
      WorkspaceSession.requireEndpoint session
      WorkspaceSession.activate session nowNs
    return outcome

/-- `handle_bound_event_with_workspace`. -/
def handleBoundEvent (bound : GenerationBoundPeerEvent) (nowNs : ℕ) :
    SupervisorStep ι ω SupervisorEventOutcome := do
  if bound.classification = .active
      ∧ !(← read (·.supervisor.gate.isActive bound.generation)) then
    return .staleIgnored
  else
    let applied ← onSupervisor (PeerSessionSupervisor.onGate bound.apply)
    match applied.state, applied.event with
    | .pendingIgnored, _ => return .pendingIgnored
    | .cancelled, _ => return .pendingCancelled
    | .activated token, some (.admitted peer) =>
      handleActivation applied.generation token peer nowNs
    | .activated token, some _ =>
      onSupervisor (PeerSessionSupervisor.onGate (·.finishActive token))
      fail .invalidBoundEvent
    | .activated _, none => fail .invalidBoundEvent
    | .active, some event => handleActiveEvent applied.generation event nowNs
    | .active, none => fail .invalidBoundEvent

/-! ## Loss of the connection and termination -/

/-- `connection_lost_with_workspace`. -/
def connectionLost : SupervisorStep ι ω SupervisorEventOutcome :=
  ifActive generation (reconcileTransportLost generation nowNs)

/-- `connection_task_lost_with_workspace`. -/
def connectionTaskLost : SupervisorStep ι ω SupervisorEventOutcome := fun s =>
  if s.supervisor.gate.isActive generation then connectionLost generation nowNs s
  else onSupervisor (PeerSessionSupervisor.connectionTaskLost generation nowNs) s

/-- `revoke_with_workspace`. -/
def revoke : SupervisorStep ι ω Unit := do
  onSupervisor PeerSessionSupervisor.markRevoked
  match ← read (·.supervisor.activeGeneration) with
  | some generation => let _ ← reconcileFatal generation nowNs
  | none => onCoordinator (·.sessionFatalCleanup nowNs)

/-- `shutdown_with_workspace`. -/
def shutdown : SupervisorStep ι ω Unit := do
  update fun s => { s with supervisor := { s.supervisor with lifecycle := .shuttingDown } }
  match ← read (·.supervisor.activeGeneration) with
  | some generation => let _ ← reconcileShutdown generation nowNs
  | none => onCoordinator (·.shutdown nowNs)

/-- `retry_reconciliation_with_workspace`. -/
def retryReconciliation : SupervisorStep ι ω SupervisorEventOutcome := do
  let generation ← need .noActiveGeneration (·.supervisor.activeGeneration)
  match ← read (·.supervisor.workspaceReconciliation),
      ← read (·.supervisor.lifecycle) with
  | some .gracefulSettled, _ => reconcileGracefullySettled generation nowNs
  | some .transportLost, _ => reconcileTransportLost generation nowNs
  | none, .running | none, .revoked => reconcileFatal generation nowNs
  | none, .shuttingDown => reconcileShutdown generation nowNs

/-! ## Local operations -/

/-- The active generation and the context of its session. -/
def requireRouting : SupervisorStep ι ω (ConnectionGeneration × CurrentAdmittedSession) := do
  let generation ← need .noActiveGeneration (·.supervisor.activeGeneration)
  let session ← requireSession
  requireContext session
  return (generation, session)

/-- A local operation of the control plane, whose failure ends the generation. -/
def workspaceOperation {α : Type} (x : CurrentAdmittedSession → PlaneStep ι ω α) :
    SupervisorStep ι ω α := do
  let (generation, session) ← requireRouting
  orFail generation nowNs (onWorkspace (x session))

/-- `propose_pointer_handoff_with_workspace`. -/
def proposePointerHandoff (edge : Edge) (position : F64) (nowNs : ℕ) : SupervisorStep ι ω Unit :=
  workspaceOperation nowNs (WorkspaceSession.proposePointerHandoff · edge position nowNs)

/-- `poll_pointer_timeout_with_workspace`. -/
def pollPointerTimeout : SupervisorStep ι ω Unit :=
  workspaceOperation nowNs (WorkspaceSession.pollTimeout · nowNs)

def prepareLocalInventoryChange : SupervisorStep ι ω Unit :=
  workspaceOperation nowNs (WorkspaceSession.prepareLocalChange · nowNs)

def refreshSelectedWorkspace : SupervisorStep ι ω Unit :=
  workspaceOperation nowNs (WorkspaceSession.refreshSelected · nowNs)

/-- `replace_workspace_topology`: a rejected topology leaves the session. -/
def replaceWorkspaceTopology (placements : List WorkspacePlacement) (links : List WorkspaceLink)
    (nowNs : ℕ) : SupervisorStep ι ω Unit := do
  let (generation, session) ← requireRouting
  match ← attempt (onWorkspace <|
      WorkspaceSession.replaceTopology session placements links nowNs) with
  | .ok () => pure ()
  | .error .invalidConfiguration => fail (.workspace .invalidConfiguration)
  | .error (.topology error) => fail (.workspace (.topology error))
  | .error error => failWorkspaceGeneration generation error nowNs

/-- Send a control message; a failure ends the generation. -/
def sendControl (message : WireMessage) (nowNs : ℕ) : SupervisorStep ι ω Unit := do
  match ← attempt (onCoordinator (·.trySendControl message)) with
  | .ok () => pure ()
  | .error error =>
    let _ ← reconcileFatal generation nowNs
    fail error

def sendLocalSnapshot (snapshot : DisplaySnapshotV1) (nowNs : ℕ) : SupervisorStep ι ω Unit := do
  let (generation, _) ← requireRouting
  sendControl generation (.displaySnapshot snapshot) nowNs

def sendLocalDeviceSnapshot (snapshot : DeviceSnapshotV1)
    (nowNs : ℕ) : SupervisorStep ι ω Unit := do
  guard .noActiveGeneration (·.supervisor.activeGeneration == some generation)
  let _ ← requireRouting
  sendControl generation (.deviceSnapshot snapshot) nowNs

/-- The cancellation of the handoff after a capture that triggered the failsafe. -/
def cancelForFailsafe (outcome : CaptureOutcome) (nowNs : ℕ) :
    Step SupervisorCaptureFailure (SupervisedWorkspace ι ω) Unit := do
  match ← read (·.supervisor.activeGeneration) with
  | none => pure ()
  | some generation =>
    let session ← need ⟨some outcome, .invalidBoundEvent⟩ (·.supervisor.currentSession)
    mapError (⟨some outcome, ·⟩) <|
      orFail generation nowNs (onWorkspace do
        WorkspaceSession.requireEndpoint session
        WorkspaceSession.cancelHandoffForFailsafe session nowNs)

/-- The reconciliation after a capture that could not be routed. -/
def captureFailed (failure : CoordinatorCaptureFailure) (nowNs : ℕ) :
    Step SupervisorCaptureFailure (SupervisedWorkspace ι ω) CaptureOutcome := do
  match ← read (·.supervisor.activeGeneration) with
  | none =>
    let _ ← attempt (onCoordinator (·.clearWorkspaceRoutingReady nowNs))
    fail ⟨failure.outcome, .coordinator failure.error⟩
  | some generation =>
    let _ ← mapError (⟨failure.outcome, ·⟩) (reconcileFatal generation nowNs)
    fail ⟨failure.outcome, .coordinator failure.error⟩

/-- `route_capture_with_workspace`. -/
def routeCapture (captured : CapturedInput) (nowNs : ℕ) :
    Step SupervisorCaptureFailure (SupervisedWorkspace ι ω) CaptureOutcome := do
  guard ⟨none, .invalidBoundEvent⟩ fun s =>
    s.supervisor.activeGeneration.isSome == s.supervisor.currentSession.isSome
  let routed : PeerSessionCoordinator.CapturedResult ← fun s =>
    let routed := s.supervisor.coordinator.routeCaptured captured nowNs
    (.ok routed.1, { s with supervisor := { s.supervisor with coordinator := routed.2 } })
  match routed with
  | .ok outcome =>
    if outcome.failsafeActivated then cancelForFailsafe outcome nowNs
    return outcome
  | .error failure => captureFailed failure nowNs

/-- `native_capture_discontinued_with_workspace`. -/
def nativeCaptureDiscontinued : SupervisorStep ι ω Unit := do
  match ← read (·.supervisor.activeGeneration) with
  | none => pure ()
  | some generation =>
    let session ← need .invalidBoundEvent (·.supervisor.currentSession)
    orFail generation nowNs <| onWorkspace do
      WorkspaceSession.requireEndpoint session
      let cleanup : Except WorkspaceControlError Unit ← attempt <|
        WorkspaceSession.routed session (·.triggerCaptureEmergency nowNs)
      let pointer : Except WorkspaceControlError Unit ← attempt <|
        WorkspaceSession.cancelHandoffForFailsafe session nowNs
      check fun _ => cleanup.bind fun _ => pointer

/-- `selected_lifecycle_tick_with_workspace`. -/
def selectedLifecycleTick : SupervisorStep ι ω Bool := do
  let changed ← fun s =>
    let ticked := s.supervisor.coordinator.lifecycleTick nowNs
    (.ok ticked.1, { s with supervisor := { s.supervisor with coordinator := ticked.2 } })
  match ← read (·.supervisor.activeGeneration) with
  | none => return changed
  | some generation =>
    let session ← need .invalidBoundEvent (·.supervisor.currentSession)
    requireContext session
    orFail generation nowNs (onWorkspace (WorkspaceSession.pollTimeout session nowNs))
    return changed

end Parameters

end SupervisedWorkspace

end SoftwareKvm
