import SoftwareKvm.Control.Plane

/-!
# Operations of the workspace control plane on a session

Models of the methods of `WorkspaceControlPlane` that borrow the coordinator of
a session (`kvm-daemon/src/workspace_control.rs`, lines 438–1334). Every
context is built from the endpoint of the session that is handed to the same
method, so an operation takes the session alone.
-/

namespace SoftwareKvm

open Lib

/-- The message that `dispatch_effect` hands to its transport, if it gets that far. -/
def CoordinatorCore.offered {B : Type} [DecidableEq B] (c : CoordinatorCore B)
    (effect : CoreEffect B) (nowNs : ℕ) : Option WireMessage :=
  match c.validateEffectReady effect nowNs with
  | (.error _, _) => none
  | (.ok (), c) =>
    if effect.purpose ≠ .commit ∨ (c.beginCommitDispatch effect).1.toOption.isSome then
      some effect.message.wireMessage
    else none

namespace WorkspaceSession

open Step

variable {ι ω : Type}

/-! ## Parts of an operation -/

variable (session : CurrentAdmittedSession)

/-- A method of `SessionRoutingContext`: `validate_fresh`, then the method of
    the coordinator, with `?`. -/
def routed {α : Type} (f : CoordinatorMethod ι ω α) : PlaneStep ι ω α := fun s =>
  if s.coordinator.authorizesEndpoint session.endpoint then
    ((f s.coordinator).1.mapError .coordinator, { s with coordinator := (f s.coordinator).2 })
  else (.error (.coordinator .notAdmitted), s)

def requireEndpoint : PlaneStep ι ω Unit :=
  routed session fun c => (.ok (), c)

/-- Change the plane. -/
def onPlane (f : WorkspaceControlPlane → WorkspaceControlPlane) : PlaneStep ι ω Unit :=
  update fun s => { s with plane := f s.plane }

/-- An operation of the display inventory, with `?`. -/
def onInventory (f : DisplayInventory → Except InventoryError DisplayInventory) :
    PlaneStep ι ω Unit := do
  let inventory ← check fun s => (f s.plane.inventory).mapError .inventory
  onPlane fun plane => { plane with inventory }

/-- An operation of the device inventory, with `?`. -/
def onDevices (f : DeviceInventory → Except InventoryError DeviceInventory) :
    PlaneStep ι ω Unit := do
  let deviceInventory ← check fun s => (f s.plane.deviceInventory).mapError .deviceInventory
  onPlane fun plane => { plane with deviceInventory }

/-- An operation of the pointer coordinator, with `?`. -/
def onPointer {α : Type} (f : PointerHandoffCoordinator →
    Except PointerHandoffErrorKind α × PointerHandoffCoordinator) : PlaneStep ι ω α := do
  let pointer ← need .unavailable fun s => s.plane.pointer
  onPlane fun plane => { plane with pointer := some (f pointer).2 }
  check fun _ => (f pointer).1.mapError .pointer

/-- `ready_pointer_mut`, then an operation of the pointer coordinator. -/
def readyPointer {α : Type} (f : PointerHandoffCoordinator →
    Except PointerHandoffErrorKind α × PointerHandoffCoordinator) : PlaneStep ι ω α := do
  guard .unavailable (·.plane.selectedInventoryReady)
  onPointer f

def requireSelected : PlaneStep ι ω Unit :=
  guard .wrongPointerPeer (·.plane.isSelected session)

/-- Do `x` if the session is the selected one. -/
def ifSelected (x : PlaneStep ι ω Unit) : PlaneStep ι ω Unit :=
  fun s => if s.plane.isSelected session then x s else (.ok (), s)

/-- `self.selected_inventory_ready = ready`. -/
def setInventoryReady (ready : Bool) : PlaneStep ι ω Unit :=
  onPlane fun plane => { plane with selectedInventoryReady := ready }

section Parameters

variable [OutputInjectionBackend ι] [OutboundPeer ω] (session : CurrentAdmittedSession)

/-- `try_send_control` of the context. -/
def trySendControl (message : WireMessage) : PlaneStep ι ω Unit :=
  routed session (·.trySendControl message)

variable (nowNs : ℕ)

/-- `clear_workspace_routing_ready` of the context. -/
def clearWorkspaceRoutingReady : PlaneStep ι ω Unit :=
  routed session (·.clearWorkspaceRoutingReady nowNs)

/-- `cancel_pointer_handoff` of the context. -/
def cancelPointerHandoff : PlaneStep ι ω Unit :=
  routed session fun c => (.ok (), c.cancelPointerHandoff nowNs)

def publishPointerWorkspace : PlaneStep ι ω Unit := do
  let pointer ← need .unavailable fun s => s.plane.pointer
  routed session (·.finishPointerHandoff pointer.workspaceState nowNs)

def publishReadyPointerWorkspace : PlaneStep ι ω Unit := do
  publishPointerWorkspace session nowNs
  routed session (·.markWorkspaceRoutingReady nowNs)

/-- What `retire` and `suspend_selected` do with the pointer coordinator: end
    its session by `f` and publish its state; without a coordinator or a
    session of its own, only the handoff of the core is cancelled. -/
def settlePointer {α : Type} (f : PointerHandoffCoordinator →
      Except PointerHandoffErrorKind α × PointerHandoffCoordinator) : PlaneStep ι ω Unit := do
  match ← read (·.plane.pointer) with
  | none => cancelPointerHandoff session nowNs
  | some pointer =>
    onPlane fun plane => { plane with pointer := some (f pointer).2 }
    match (f pointer).1 with
    | .ok _ => publishPointerWorkspace session nowNs
    | .error .noCurrentSession => cancelPointerHandoff session nowNs
    | .error kind => fail (.pointer kind)

def suspendSelected : PlaneStep ι ω Unit := do
  clearWorkspaceRoutingReady session nowNs
  setInventoryReady false
  settlePointer session nowNs (·.degradeSession session.pointerBinding)

/-! ## Compiling the selected workspace -/

omit [OutputInjectionBackend ι] [OutboundPeer ω] in
def compileSelectedCandidate (placements : List WorkspacePlacement) (links : List WorkspaceLink) :
    PlaneStep ι ω ConfiguredWorkspace := fun s =>
  let displays := s.plane.inventory.displays.filter fun display =>
    display.hostId == session.localHostId || display.hostId == session.remoteHostId
  let compiled := s.plane.compiler.compileCandidate displays placements links
  (compiled.1.mapError .topology, { s with plane := { s.plane with compiler := compiled.2 } })

omit [OutputInjectionBackend ι] [OutboundPeer ω] in
/-- `recompile_selected`. A plane creates one pointer coordinator, so its
    identity is a constant. -/
def recompileSelected : PlaneStep ι ω Unit := do
  let plane ← read (·.plane)
  let candidate ← compileSelectedCandidate session plane.placements plane.links
  match plane.pointer with
  | some _ =>
    let _ ← onPointer (·.replaceWorkspace candidate plane.localFallback)
    let _ ← onPointer (·.bindSession session.pointerBinding)
    let _ ← onPointer (·.markSessionHealthy session.pointerBinding)
  | none =>
    let created : PointerHandoffCoordinator ← check fun _ =>
      (CoordinatorCore.new 0 plane.pointerConfig candidate plane.initialState
        plane.localFallback).mapError .pointer
    let bound := created.bindSession session.pointerBinding
    let _ ← check fun _ => bound.1.mapError .pointer
    onPlane fun plane => { plane with pointer := some bound.2 }
  setInventoryReady true

def restoreSelected : PlaneStep ι ω Unit := do
  let _ ← onPointer (·.markSessionHealthy session.pointerBinding)
  setInventoryReady true
  publishReadyPointerWorkspace session nowNs

/-! ## Dispatching the effects of the pointer coordinator -/

/-- `dispatch_effect` of the ready coordinator, with `try_send_control` as the transport. -/
def dispatchEffect (effect : CoreEffect AdmittedPointerBinding) (nowNs : ℕ) :
    PlaneStep ι ω (Except (CoreDispatchError WorkspaceControlError)
      (CoreEffectCompletion AdmittedPointerBinding)) := do
  guard .unavailable (·.plane.selectedInventoryReady)
  let pointer ← need .unavailable fun s => s.plane.pointer
  if effect.session ≠ session.pointerBinding ∨ pointer.session ≠ some session.pointerBinding then
    return .error (.handoff .staleEffect)
  else
    let sent : Except WorkspaceControlError Unit ← match pointer.offered effect nowNs with
      | none => pure (.ok ())
      | some message => attempt (trySendControl session message)
    let dispatched := pointer.dispatchEffect effect nowNs fun _ _ => sent
    onPlane fun plane => { plane with pointer := some dispatched.core }
    return dispatched.result

/-- The loop of `dispatch_pointer_effect`, with a bound on its iterations. -/
def dispatchLoop (session : CurrentAdmittedSession) (nowNs : ℕ) :
    ℕ → CoreEffect AdmittedPointerBinding → Bool → PlaneStep ι ω Unit
  | 0, _, _ => fail .unavailable
  | bound + 1, effect, commit => do
    if commit then routed session (·.beginPointerHandoff nowNs)
    match ← dispatchEffect session effect nowNs with
    | .ok .sent => pure ()
    | .ok .authorityCommitted => publishPointerWorkspace session nowNs
    | .ok (.next next) => dispatchLoop session nowNs bound next false
    | .error (.handoff kind) =>
      if commit then cancelPointerHandoff session nowNs
      fail (.pointer kind)
    | .error (.outbound error) =>
      if commit then cancelPointerHandoff session nowNs
      fail error

/-- `dispatch_pointer_effect`: only the effect of a leave has a next one. -/
def dispatchPointerEffect
    (effect : CoreEffect AdmittedPointerBinding) (commit : Bool) (nowNs : ℕ) : PlaneStep ι ω Unit :=
  dispatchLoop session nowNs 2 effect commit

/-! ## The life of a session -/

def rollbackActivation (s : WorkspaceSession ι ω) : WorkspaceSession ι ω :=
  let s := { s with plane := s.plane.forgetSession session }
  if !s.plane.isSelected session then s
  else
    let pointer := s.plane.pointer.map fun pointer =>
      (pointer.disconnectSession session.pointerBinding).2
    let s := { s with plane := { s.plane with pointer, selectedInventoryReady := false } }
    (cancelPointerHandoff session nowNs).ignore
      ((clearWorkspaceRoutingReady session nowNs).ignore s)

/-- The restoration of the committed local devices in `activate`. -/
def restoreLocalDevices : PlaneStep ι ω Unit := do
  setInventoryReady false
  let devices ← read fun s => (WorkspaceControlPlane.localDevices s.plane.deviceInventory).keys
  each (fun device => routed session (·.restoreLocalDevice device nowNs)) devices

/-- The part of `activate` that is rolled back when it fails. -/
def announce : PlaneStep ι ω Unit := do
  ifSelected session (restoreLocalDevices session nowNs)
  let displays ← check fun s => s.plane.inventory.localWireSnapshot.mapError .inventory
  trySendControl session (.displaySnapshot displays)
  let devices ← check fun s =>
    s.plane.deviceInventory.localWireSnapshot.mapError .deviceInventory
  trySendControl session (.deviceSnapshot devices)

/-- `activate` (lines 438–506). -/
def activate : PlaneStep ι ω Unit := do
  guard .unavailable (!·.plane.shuttingDown)
  requireEndpoint session
  guard .invalidConfiguration fun s =>
    s.plane.pointer.isSome || s.coordinator.core.workspace == s.plane.initialState
  ifSelected session (clearWorkspaceRoutingReady session nowNs)
  onInventory (·.activateRemote session)
  onDevices (·.activateRemote session)
  (announce session nowNs).onError (rollbackActivation session nowNs)
  ifSelected session <| onPlane fun plane =>
    { plane with pendingLocalDevices := plane.pendingLocalDevices.map fun pending =>
        if pending.committed then { pending with selectedSynced := true } else pending }

/-- `connected` (lines 637–656). -/
def connected : PlaneStep ι ω Unit := do
  requireEndpoint session
  let resync := (session.remoteHostId, session.generation)
  if decide (resync ∈ (← read (·.plane.deviceResyncRequired))) then
    let devices ← check fun s =>
      s.plane.deviceInventory.localWireSnapshot.mapError .deviceInventory
    trySendControl session (.deviceSnapshot devices)
    onPlane fun plane =>
      { plane with deviceResyncRequired := plane.deviceResyncRequired.erase resync }
  if ← read fun s => s.plane.isSelected session && s.plane.selectedInventoryReady then
    let _ ← readyPointer (·.markSessionHealthy session.pointerBinding)

/-- `degrade` (lines 658–677). -/
def degrade : PlaneStep ι ω Unit := do
  requireEndpoint session
  onPlane fun plane =>
    { plane with
      deviceInventory := plane.deviceInventory.suspendRemote session
      deviceResyncRequired :=
        insert (session.remoteHostId, session.generation) plane.deviceResyncRequired }
  ifSelected session (suspendSelected session nowNs)

/-- `retire` (lines 711–750). -/
def retire : PlaneStep ι ω Unit := do
  requireEndpoint session
  ifSelected session (clearWorkspaceRoutingReady session nowNs)
  onPlane (·.forgetSession session)
  ifSelected session do
    setInventoryReady false
    settlePointer session nowNs (·.disconnectSession session.pointerBinding)

/-! ## Messages -/

/-- A message of the pointer handoff. -/
def isPointerMessage : WireMessage → Bool
  | .pointerLeave _ | .pointerEnter _ | .pointerTransitionAck _ | .pointerTransitionCommit _ => true
  | _ => false

/-- The `DeviceSnapshot` arm of `handle_message`: what a device of the old
    snapshot holds is released unless the new one has the same device. -/
def handleDeviceSnapshot (message : DeviceSnapshotV1) (nowNs : ℕ) : PlaneStep ι ω Unit := do
  let before ← read (·.plane.deviceInventory)
  let candidate ← check fun s =>
    (s.plane.deviceInventory.applyRemoteSnapshot session message).mapError .deviceInventory
  let previous := ((before.host session.remoteHostId).map (·.items.values)).getD []
  let changed := previous.filter fun device =>
    (candidate.host session.remoteHostId).bind (·.items.get? device.id) != some device
  each (fun device => routed session (·.releaseInboundDevice device.id nowNs)) changed
  onPlane fun plane => { plane with deviceInventory := candidate }

/-- The `DeviceRemoved` arm of `handle_message`. -/
def handleDeviceRemoved (message : DeviceRemovedV1) (nowNs : ℕ) : PlaneStep ι ω Unit := do
  let candidate ← check fun s =>
    (s.plane.deviceInventory.applyRemoteRemove session message).mapError .deviceInventory
  routed session (·.releaseInboundDevice message.deviceId nowNs)
  onPlane fun plane => { plane with deviceInventory := candidate }

/-- The `DisplaySnapshot` and `DisplayUpdated` arms of `handle_message`. -/
def handleDisplays (f : DisplayInventory → Except InventoryError DisplayInventory) (nowNs : ℕ) :
    PlaneStep ι ω Unit := do
  ifSelected session (suspendSelected session nowNs)
  onInventory f
  ifSelected session do
    recompileSelected session
    publishReadyPointerWorkspace session nowNs

/-- The `PointerEnter` arm of `handle_message`. -/
def handlePointerEnter (message : PointerEnterV1) (nowNs : ℕ) : PlaneStep ι ω Unit := do
  requireSelected session
  let effect ← readyPointer (·.receiveEnter session.pointerBinding message nowNs)
  if effect.purpose = .acceptedAck then
    routed session (·.beginDestinationHandoffBarrier nowNs)
    (dispatchPointerEffect session effect false nowNs).onError <| ignore <|
      routed session fun c => (.ok (), c.abortDestinationHandoffBarrier nowNs)
  else dispatchPointerEffect session effect false nowNs

/-- The `PointerTransitionAck` arm of `handle_message`. -/
def handlePointerAck (message : PointerTransitionAckV1) (nowNs : ℕ) : PlaneStep ι ω Unit := do
  requireSelected session
  match ← readyPointer (·.receiveAck session.pointerBinding message nowNs) with
  | .commit effect => dispatchPointerEffect session effect true nowNs
  | .duplicate | .rejected => pure ()

/-- The `PointerTransitionCommit` arm of `handle_message`. -/
def handlePointerCommit (message : PointerTransitionCommitV1) (nowNs : ℕ) : PlaneStep ι ω Unit := do
  requireSelected session
  let _ ← readyPointer (·.receiveCommit session.pointerBinding message nowNs)
  onPlane fun plane =>
    { plane with nativePortalArmed :=
        plane.nativePortalArmed && !plane.pointer.any (·.hasLocalAuthority) }
  publishPointerWorkspace session nowNs

/-- `handle_message` (lines 509–635). -/
def handleMessage (message : WireMessage) (nowNs : ℕ) : PlaneStep ι ω PeerEventOutcome := do
  requireEndpoint session
  guard .unavailable fun _ => message.validate.toOption.isSome
  guard .alreadyAttached fun s =>
    s.plane.pendingLocalDevices.isNone || !isPointerMessage message
  match message with
  | .deviceSnapshot message => handleDeviceSnapshot session message nowNs
  | .deviceAdded message => onDevices (·.applyRemoteAdd session message)
  | .deviceRemoved message => handleDeviceRemoved session message nowNs
  | .displaySnapshot message => handleDisplays session (·.applyRemoteSnapshot session message) nowNs
  | .displayUpdated message => handleDisplays session (·.applyRemoteUpdate session message) nowNs
  | .pointerLeave message =>
    requireSelected session
    let _ ← readyPointer (·.receiveLeave session.pointerBinding message nowNs)
  | .pointerEnter message => handlePointerEnter session message nowNs
  | .pointerTransitionAck message => handlePointerAck session message nowNs
  | .pointerTransitionCommit message => handlePointerCommit session message nowNs
  | other => return .deferred other.messageType
  return .applied

/-! ## Local changes and the pointer -/

def prepareLocalChange : PlaneStep ι ω Unit := do
  requireEndpoint session
  suspendSelected session nowNs

/-- `refresh_selected` (lines 990–1006). -/
def refreshSelected : PlaneStep ι ω Unit := do
  requireEndpoint session
  recompileSelected session
  publishReadyPointerWorkspace session nowNs
  let displays ← check fun s => s.plane.inventory.localWireSnapshot.mapError .inventory
  trySendControl session (.displaySnapshot displays)

/-- `replace_topology` (lines 1008–1053). -/
def replaceTopology (placements : List WorkspacePlacement)
    (links : List WorkspaceLink) (nowNs : ℕ) : PlaneStep ι ω Unit := do
  requireEndpoint session
  requireSelected session
  check fun _ => validateTopologyConfig placements links
  guard .unavailable fun s => s.plane.selectedInventoryReady && s.plane.pointer.isSome
  suspendSelected session nowNs
  let fallback ← read (·.plane.localFallback)
  match ← attempt (compileSelectedCandidate session placements links) with
  | .error error =>
    restoreSelected session nowNs
    fail error
  | .ok candidate =>
    if !candidate.containsLocalPoint fallback.displayId fallback.position then
      restoreSelected session nowNs
      fail .invalidConfiguration
    else
      let _ ← onPointer (·.replaceWorkspace candidate fallback)
      let _ ← onPointer (·.markSessionHealthy session.pointerBinding)
      onPlane fun plane => { plane with placements, links, selectedInventoryReady := true }
      publishReadyPointerWorkspace session nowNs

/-- `propose_pointer_handoff` (lines 1061–1084). -/
def proposePointerHandoff (edge : Edge) (position : F64) (nowNs : ℕ) : PlaneStep ι ω Unit := do
  requireEndpoint session
  requireSelected session
  let effect ← readyPointer (·.proposeLeave session.pointerBinding edge position nowNs)
  routed session (·.beginPointerHandoff nowNs)
  match ← attempt (dispatchPointerEffect session effect false nowNs) with
  | .ok () => pure ()
  | .error error =>
    cancelPointerHandoff session nowNs
    fail error

/-- `poll_timeout` (lines 1086–1104). -/
def pollTimeout : PlaneStep ι ω Unit := do
  if ← read (·.plane.selectedInventoryReady) then
    let expired ← readyPointer (·.pollTimeout nowNs)
    if expired.any then
      publishPointerWorkspace session nowNs
      fail .unavailable

/-- `cancel_handoff_for_failsafe` (lines 1106–1126). -/
def cancelHandoffForFailsafe : PlaneStep ι ω Unit := do
  requireEndpoint session
  requireSelected session
  if ← read (·.plane.pointer.isSome) then
    let _ ← onPointer (·.degradeSession session.pointerBinding)
    let _ ← onPointer (·.markSessionHealthy session.pointerBinding)
    publishPointerWorkspace session nowNs
  else cancelPointerHandoff session nowNs

end Parameters

end WorkspaceSession

end SoftwareKvm
