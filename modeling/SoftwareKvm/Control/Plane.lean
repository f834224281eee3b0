import SoftwareKvm.Handoff.Core
import SoftwareKvm.Inventory.Device
import SoftwareKvm.Inventory.Display
import SoftwareKvm.Lib.Step
import SoftwareKvm.Topology.Compile

/-!
# The workspace control plane

Models of `WorkspaceControlPlane` (`kvm-daemon/src/workspace_control.rs`):
display and device inventories, the compiled workspace of the selected peer and
its pointer coordinator, and how they change with the sessions of the daemon.

Most methods also borrow the coordinator of one session through a
`SessionRoutingContext`. They are steps on a `WorkspaceSession`, the plane
together with that coordinator, and take the endpoint of the context; `routed`
is the check that every method of the context starts with.

Positions of the native cursor and the origins of placements are finite by
their type, so the tests for that have no counterpart here.
-/

namespace SoftwareKvm

open Lib

/-! ## The plane -/

inductive WorkspaceControlError
  | inventory (error : InventoryError)
  | deviceInventory (error : InventoryError)
  | pointer (kind : PointerHandoffErrorKind)
  | coordinator (error : CoordinatorError)
  | wrongPointerPeer
  | alreadyAttached
  | unavailable
  | invalidConfiguration
  | topology (error : WorkspaceCompileError)
  deriving DecidableEq

/-- `PointerSessionBinding` with every field it is compared by. -/
structure AdmittedPointerBinding where
  generation : ConnectionGeneration
  localHost : HostId
  remoteHost : HostId
  transportIdentity : TransportPeerIdentity
  localHello : HelloV1
  remoteHello : HelloV1
  deriving DecidableEq

instance : SessionBinding AdmittedPointerBinding where
  localHostId := AdmittedPointerBinding.localHost
  remoteHostId := AdmittedPointerBinding.remoteHost

/-- `PointerSessionBinding::from_current`. -/
def CurrentAdmittedSession.pointerBinding (session : CurrentAdmittedSession) :
    AdmittedPointerBinding where
  generation := session.generation
  localHost := session.localHostId
  remoteHost := session.remoteHostId
  transportIdentity := session.transportIdentity
  localHello := session.localHello
  remoteHello := session.remoteHello

abbrev PointerHandoffCoordinator := CoordinatorCore AdmittedPointerBinding

structure EdgeDwell where
  edge : Edge
  startedNs : ℕ
  lastOnEdgeNs : ℕ

/-- What the session reads of a local device inventory that is being changed. -/
structure PendingLocalDeviceInventory where
  committed : Bool
  selectedSynced : Bool

structure WorkspaceControlPlane where
  selectedPointerPeer : PeerId
  inventory : DisplayInventory
  deviceInventory : DeviceInventory
  compiler : ConfiguredWorkspaceCompiler
  placements : List WorkspacePlacement
  links : List WorkspaceLink
  pointerConfig : PointerHandoffConfig
  initialState : WorkspaceState
  localFallback : LogicalPointer
  pointer : Option PointerHandoffCoordinator
  selectedInventoryReady : Bool
  deviceResyncRequired : Finset (HostId × ConnectionGeneration)
  pendingLocalDevices : Option PendingLocalDeviceInventory
  nativePortalArmed : Bool
  edgeDwell : Option EdgeDwell
  shuttingDown : Bool

/-- The plane and the coordinator that a routing context borrows. -/
structure WorkspaceSession (ι ω : Type) where
  plane : WorkspaceControlPlane
  coordinator : PeerSessionCoordinator ι ω

/-- A method of the plane that borrows a routing context. -/
abbrev PlaneStep (ι ω : Type) := Step WorkspaceControlError (WorkspaceSession ι ω)

def validateTopologyConfig (placements : List WorkspacePlacement) (links : List WorkspaceLink) :
    Except WorkspaceControlError Unit :=
  if placements.isEmpty || maxWorkspaceDisplays < placements.length
      || maxWorkspaceLinks < links.length
      || placements.any (·.displayId.isNil) || !decide (placements.map (·.displayId)).Nodup
      || links.any (fun link => link.sourceDisplay.isNil || link.destinationDisplay.isNil)
      || !decide (links.map fun link => (link.sourceDisplay, link.sourceEdge)).Nodup then
    .error .invalidConfiguration
  else .ok ()

namespace WorkspaceControlPlane

def new (digest : DisplayTable → LinkTable → ℕ)
    (selectedPointerPeer : PeerId) (inventory : DisplayInventory)
    (pointerConfig : PointerHandoffConfig) (initialState : WorkspaceState)
    (localFallback : LogicalPointer) (placements : List WorkspacePlacement)
    (links : List WorkspaceLink) : Except WorkspaceControlError WorkspaceControlPlane :=
  if selectedPointerPeer.isNil || initialState.localHost != inventory.localHostId
      || initialState.activeHost != initialState.localHost
      || (validateTopologyConfig placements links).toOption.isNone then
    .error .invalidConfiguration
  else match (DeviceInventory.new initialState.localHost deviceInventoryDefault).bind
      fun devices => devices.applyLocalSnapshot 1 [] with
    | .error error => .error (.deviceInventory error)
    | .ok deviceInventory => .ok {
        selectedPointerPeer, inventory, deviceInventory
        compiler := .new digest
        placements, links, pointerConfig, initialState, localFallback
        pointer := none
        selectedInventoryReady := false
        deviceResyncRequired := ∅
        pendingLocalDevices := none
        nativePortalArmed := true
        edgeDwell := none
        shuttingDown := false }

variable (plane : WorkspaceControlPlane) (session : CurrentAdmittedSession)

def isSelected : Bool :=
  session.remoteHello.peerId == plane.selectedPointerPeer

/-- `validate_remote_input` (lines 679–709). -/
def validateRemoteInput (input : InputEventV1) : Except WorkspaceControlError Unit :=
  if input.sourceHost ≠ session.remoteHostId then .error .unavailable
  else match plane.deviceInventory.remoteDevice session input.sourceDevice with
    | .error error => .error (.deviceInventory error)
    | .ok device =>
      let supported : Bool := match input.payload with
        | .key .. => device.capabilities.keyboard
        | .pointerMove .. | .pointerButton .. => device.capabilities.pointer
        | .scroll horizontal vertical =>
          (horizontal == .finite 0 || device.capabilities.horizontalScroll)
            && (vertical == .finite 0 || device.capabilities.verticalScroll)
      if supported then .ok () else .error .unavailable

/-- The metadata of a session that is forgotten when it ends. -/
def forgetSession : WorkspaceControlPlane :=
  { plane with
    inventory := plane.inventory.invalidateRemote session
    deviceInventory := plane.deviceInventory.invalidateRemote session
    deviceResyncRequired :=
      plane.deviceResyncRequired.erase (session.remoteHostId, session.generation) }

def retireSettledMetadata : Except WorkspaceControlError Unit × WorkspaceControlPlane :=
  let plane := plane.forgetSession session
  if !plane.isSelected session then (.ok (), plane)
  else
    let plane := { plane with selectedInventoryReady := false }
    match plane.pointer with
    | none => (.ok (), plane)
    | some pointer =>
      let (disconnected, pointer) := pointer.disconnectSession session.pointerBinding
      let plane := { plane with pointer := some pointer }
      match disconnected with
      | .ok _ | .error .noCurrentSession => (.ok (), plane)
      | .error kind => (.error (.pointer kind), plane)

/-- The devices of the local host, as the published snapshot has them. -/
def localDevices (inventory : DeviceInventory) : OrdMap DeviceId InputDevice :=
  ((inventory.host inventory.localHostId).map (·.items)).getD ∅

end WorkspaceControlPlane

end SoftwareKvm
