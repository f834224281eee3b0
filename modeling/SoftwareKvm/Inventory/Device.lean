import SoftwareKvm.Inventory.Records

/-!
# The device inventory

Models of `kvm-daemon/src/device_inventory.rs`: the devices of the local host
and, for each remote host with an admitted session, the devices it has
advertised on that session.

The published snapshot is an observation of the records, renewed by every
operation that changes them; it is read off the records here.
-/

namespace SoftwareKvm

open Lib

/-- `SessionBinding` of the device inventory. -/
structure DeviceSessionBinding where
  generation : ConnectionGeneration
  localHostId : HostId
  remoteHostId : HostId
  remotePeerId : PeerId
  credentialFingerprint : List ℕ
  deriving DecidableEq

abbrev DeviceRecord := HostRecord DeviceSessionBinding DeviceId InputDevice

structure RemoteSessionSlot where
  current : Option DeviceSessionBinding := none
  retired : Option DeviceSessionBinding := none
  suspendedRevision : Option ℕ := none

structure DeviceInventory where
  localHostId : HostId
  config : InventoryConfig
  remoteSessions : OrdMap HostId RemoteSessionSlot
  remoteShutdown : Bool
  records : OrdMap HostId DeviceRecord

/-- `DeviceInventoryConfig::default`. -/
def deviceInventoryDefault : InventoryConfig := ⟨32, 256, 1024⟩

def validateDomainDevice (expectedHost : HostId) (device : InputDevice) :
    Except InventoryError Unit :=
  if expectedHost.isNil || device.id.isNil || device.hostId != expectedHost
      || !validInventoryName device.name then
    .error .invalidItem
  else .ok ()

/-- `device_from_wire`; `device_to_wire` is the identity. -/
def deviceFromWire (expectedHost : HostId) (wire : InputDevice) :
    Except InventoryError InputDevice :=
  if wire.hostId ≠ expectedHost then .error .sessionMismatch
  else (validateDomainDevice expectedHost wire).map fun _ => wire

/-- The loop of `validate_wire_snapshot`. -/
def validateWireDevices (expectedHost : HostId) (seen : List DeviceId) :
    List InputDevice → Except InventoryError Unit
  | [] => .ok ()
  | wire :: rest =>
    match deviceFromWire expectedHost wire with
    | .error error => .error error
    | .ok device =>
      if seen.contains device.id then .error .duplicateItem
      else validateWireDevices expectedHost (device.id :: seen) rest

def validateWireSnapshot (message : DeviceSnapshotV1) (expectedHost : HostId)
    (maximumDevices : ℕ) : Except InventoryError Unit :=
  match (WireMessage.deviceSnapshot message).validate with
  | .error _ => .error .invalidMessage
  | .ok () =>
    if expectedHost.isNil || message.hostId != expectedHost then .error .sessionMismatch
    else if maximumDevices < message.devices.length || 256 < message.devices.length then
      .error .capacityExceeded
    else validateWireDevices expectedHost [] message.devices

namespace DeviceInventory

variable (inventory : DeviceInventory)

/-- How device candidates are checked. -/
def policy : InventoryPolicy DeviceId InputDevice where
  key := InputDevice.id
  itemsPerHost := inventory.config.itemsPerHost
  totalItems := inventory.config.totalItems
  validateItem := validateDomainDevice
  validateAll _ := .ok ()

def new (localHostId : HostId) (config : InventoryConfig) : Except InventoryError DeviceInventory :=
  if localHostId.isNil then .error .invalidHost
  else config.validate.map fun config => ⟨localHostId, config, ∅, false, ∅⟩

/-- `snapshot().host(host)`. -/
def host (host : HostId) : Option DeviceRecord :=
  inventory.records.get? host

/-- The record of the local host. -/
def localRecord : Option DeviceRecord :=
  (inventory.records.get? inventory.localHostId).filter (·.source == .local)

def applyLocalSnapshot (revision : ℕ) (devices : List InputDevice) :
    Except InventoryError DeviceInventory :=
  (inventory.policy.applySnapshot inventory.records .local inventory.localHostId revision
    devices).map fun records => { inventory with records }

def localWireSnapshot : Except InventoryError DeviceSnapshotV1 :=
  match inventory.localRecord with
  | none => .error .inventoryUnavailable
  | some record =>
    let message : DeviceSnapshotV1 :=
      ⟨record.revision, inventory.localHostId, record.items.values⟩
    (validateWireSnapshot message inventory.localHostId inventory.config.itemsPerHost).map
      fun _ => message

def binding (session : CurrentAdmittedSession) : Except InventoryError DeviceSessionBinding :=
  let transport := session.transportIdentity
  let binding : DeviceSessionBinding := ⟨session.generation, session.localHostId,
    session.remoteHostId, transport.peerId, transport.credentialFingerprint⟩
  if binding.localHostId != inventory.localHostId || binding.remoteHostId.isNil
      || binding.remoteHostId == binding.localHostId || binding.remotePeerId.isNil
      || transport.hostId != binding.remoteHostId
      || session.remoteHello.peerId != binding.remotePeerId
      || binding.credentialFingerprint.all (· == 0) then
    .error .sessionMismatch
  else .ok binding

/-- The session slot of a remote host. -/
def slot (host : HostId) : RemoteSessionSlot :=
  (inventory.remoteSessions.get? host).getD {}

/-- Replace the session slot of a remote host. -/
def setSlot (host : HostId) (slot : RemoteSessionSlot) : DeviceInventory :=
  { inventory with remoteSessions := inventory.remoteSessions.insert host slot }

def activateRemoteBinding (binding : DeviceSessionBinding) :
    Except InventoryError DeviceInventory :=
  let install := inventory.setSlot binding.remoteHostId
    { inventory.slot binding.remoteHostId with current := some binding, suspendedRevision := none }
  if inventory.remoteShutdown then .error .sessionMismatch
  else match inventory.remoteSessions.get? binding.remoteHostId with
    | some slot =>
      if slot.current = some binding then .ok inventory
      else if slot.current.isSome
          || slot.retired.any (fun retired => binding.generation ≤ retired.generation) then
        .error .sessionMismatch
      else .ok install
    | none =>
      if inventory.config.remoteHosts ≤ inventory.remoteSessions.size then
        .error .capacityExceeded
      else .ok install

def activateRemote (session : CurrentAdmittedSession) : Except InventoryError DeviceInventory := do
  inventory.activateRemoteBinding (← inventory.binding session)

def requireActive (binding : DeviceSessionBinding) : Except InventoryError Unit :=
  if (inventory.slot binding.remoteHostId).current = some binding then .ok ()
  else .error .sessionMismatch

/-- The record that a session has advertised. -/
def remoteRecord (binding : DeviceSessionBinding) : Option DeviceRecord :=
  (inventory.records.get? binding.remoteHostId).filter (·.source == .remote binding)

def remoteDeviceBound (binding : DeviceSessionBinding)
    (device : DeviceId) : Except InventoryError InputDevice :=
  if device.isNil then .error .invalidItem
  else match inventory.requireActive binding with
    | .error error => .error error
    | .ok () =>
      match inventory.remoteRecord binding with
      | none => .error .inventoryUnavailable
      | some record =>
        match record.items.get? device with
        | none => .error .deviceNotFound
        | some device => .ok device

def remoteDevice (session : CurrentAdmittedSession)
    (device : DeviceId) : Except InventoryError InputDevice := do
  inventory.remoteDeviceBound (← inventory.binding session) device

/-- `invalidate_remote_binding`, without its result, which no caller reads. -/
def invalidateRemoteBinding (binding : DeviceSessionBinding) : DeviceInventory :=
  if (inventory.slot binding.remoteHostId).current ≠ some binding then inventory
  else
    let inventory' := inventory.setSlot binding.remoteHostId ⟨none, some binding, none⟩
    if (inventory.remoteRecord binding).isSome then
      { inventory' with records := inventory.records.erase binding.remoteHostId }
    else inventory'

def invalidateRemote (session : CurrentAdmittedSession) : DeviceInventory :=
  match inventory.binding session with
  | .error _ => inventory
  | .ok binding => inventory.invalidateRemoteBinding binding

/-- `suspend_remote_binding`, without its result. -/
def suspendRemoteBinding (binding : DeviceSessionBinding) : DeviceInventory :=
  let slot := inventory.slot binding.remoteHostId
  if slot.current ≠ some binding then inventory
  else match inventory.remoteRecord binding with
    | none => inventory
    | some record =>
      let suspended := (slot.suspendedRevision.map (max · record.revision)).getD record.revision
      { inventory.setSlot binding.remoteHostId { slot with suspendedRevision := some suspended }
        with records := inventory.records.erase binding.remoteHostId }

def suspendRemote (session : CurrentAdmittedSession) : DeviceInventory :=
  match inventory.binding session with
  | .error _ => inventory
  | .ok binding => inventory.suspendRemoteBinding binding

/-- `apply_remote_snapshot_bound` (lines 593–631): a suspended session must
    exceed the revision it was suspended at. -/
def applyRemoteSnapshotBound (binding : DeviceSessionBinding)
    (message : DeviceSnapshotV1) : Except InventoryError DeviceInventory := do
  inventory.requireActive binding
  validateWireSnapshot message binding.remoteHostId inventory.config.itemsPerHost
  let slot := inventory.slot binding.remoteHostId
  if slot.suspendedRevision.any (message.revision ≤ ·) then .error .staleRevision
  else
    let devices ← message.devices.mapM (deviceFromWire binding.remoteHostId)
    let records ← inventory.policy.applySnapshot inventory.records (.remote binding)
      binding.remoteHostId message.revision devices
    .ok { inventory.setSlot binding.remoteHostId { slot with suspendedRevision := none }
      with records }

def applyRemoteSnapshot (session : CurrentAdmittedSession)
    (message : DeviceSnapshotV1) : Except InventoryError DeviceInventory := do
  inventory.applyRemoteSnapshotBound (← inventory.binding session) message

/-- The record that an incremental update applies to. -/
def existing (source : InventorySource DeviceSessionBinding)
    (host : HostId) : Except InventoryError DeviceRecord :=
  match inventory.records.get? host with
  | none => .error .inventoryUnavailable
  | some record => if record.source ≠ source then .error .sessionMismatch else .ok record

def applyAdd (source : InventorySource DeviceSessionBinding)
    (host : HostId) (revision : ℕ) (device : InputDevice) :
    Except InventoryError DeviceInventory := do
  let record ← inventory.existing source host
  validateExactNext record.revision revision
  validateDomainDevice host device
  if record.items.contains device.id then .error .deviceAlreadyExists
  else
    let records ← inventory.policy.installCandidate inventory.records source host revision
      (record.items.insert device.id device)
    .ok { inventory with records }

def applyRemove (source : InventorySource DeviceSessionBinding)
    (host : HostId) (revision : ℕ) (device : DeviceId) : Except InventoryError DeviceInventory := do
  if device.isNil then .error .invalidItem
  else
    let record ← inventory.existing source host
    validateExactNext record.revision revision
    if !record.items.contains device then .error .deviceNotFound
    else .ok { inventory with
      records := inventory.records.insert host ⟨source, revision, record.items.erase device⟩ }

def applyRemoteAdd (session : CurrentAdmittedSession)
    (message : DeviceAddedV1) : Except InventoryError DeviceInventory := do
  let binding ← inventory.binding session
  inventory.requireActive binding
  ((WireMessage.deviceAdded message).validate).mapError fun _ => .invalidMessage
  let device ← deviceFromWire binding.remoteHostId message.device
  inventory.applyAdd (.remote binding) binding.remoteHostId message.revision device

def applyRemoteRemove (session : CurrentAdmittedSession)
    (message : DeviceRemovedV1) : Except InventoryError DeviceInventory := do
  let binding ← inventory.binding session
  inventory.requireActive binding
  ((WireMessage.deviceRemoved message).validate).mapError fun _ => .invalidMessage
  if message.hostId ≠ binding.remoteHostId then .error .sessionMismatch
  else
    inventory.applyRemove (.remote binding) binding.remoteHostId message.revision message.deviceId

end DeviceInventory

end SoftwareKvm
