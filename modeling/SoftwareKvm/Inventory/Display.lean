import SoftwareKvm.Inventory.Records

/-!
# The display inventory

Models of `kvm-daemon/src/display_inventory.rs`: the displays of the local host
and, for each remote host with an admitted session, the displays it has
advertised on that session. A host's displays have exactly one primary among
them.

The published snapshot is read off the records, as for devices. Displays of
the domain have finite coordinates; a wire display that does not is refused
like every other one out of bounds.
-/

namespace SoftwareKvm

open Lib

/-- `SessionBinding` of the display inventory. -/
structure DisplaySessionBinding where
  generation : ConnectionGeneration
  localHostId : HostId
  remoteHostId : HostId
  deriving DecidableEq

abbrev DisplayRecord := HostRecord DisplaySessionBinding DisplayId Display

structure DisplayInventory where
  localHostId : HostId
  config : InventoryConfig
  activeSessions : OrdMap HostId DisplaySessionBinding
  retiredSessions : OrdMap HostId DisplaySessionBinding
  remoteShutdown : Bool
  records : OrdMap HostId DisplayRecord

/-- `DisplayInventoryConfig::default`. -/
def displayInventoryDefault : InventoryConfig := ⟨32, 32, 512⟩

/-! ## Displays -/

/-- `positive_bounded` of the display inventory. -/
def positiveBounded (value maximum : ℚ) : Bool := 0 < value && value ≤ maximum

/-- `bounded_coordinate` of the display inventory. -/
def boundedCoordinate (value : ℚ) : Bool := |value| ≤ 1000000

def validateDomainDisplay (expectedHost : HostId) (display : Display) :
    Except InventoryError Unit :=
  let bounds := display.nativeBounds
  if display.id.isNil || display.hostId != expectedHost || expectedHost.isNil
      || !validInventoryName display.name
      || !positiveBounded display.logicalSize.width 65536
      || !positiveBounded display.logicalSize.height 65536
      || display.physicalSize.any (fun size =>
        !positiveBounded size.width 262144 || !positiveBounded size.height 262144)
      || !positiveBounded display.scaleFactor 16
      || display.refreshRate.any (!positiveBounded · 1000)
      || !boundedCoordinate bounds.x || !boundedCoordinate bounds.y
      || !positiveBounded bounds.width 262144 || !positiveBounded bounds.height 262144
      || !boundedCoordinate (bounds.x + bounds.width)
      || !boundedCoordinate (bounds.y + bounds.height) then
    .error .invalidItem
  else .ok ()

/-- A finite value. -/
def F64.toRat : F64 → Option ℚ
  | .finite value => some value
  | .nonFinite => none

/-- The size of a wire size. -/
def sizeFromWire (size : WireSize) : Option Size := do
  some ⟨← size.width.toRat, ← size.height.toRat⟩

/-- The fields of a wire display, if all of them are finite. -/
def finiteDisplay (wire : WireDisplayV1) : Option Display := do
  let logicalSize ← sizeFromWire wire.logicalSize
  let physicalSize ← wire.physicalSize.mapM sizeFromWire
  let scaleFactor ← wire.scaleFactor.toRat
  let refreshRate ← wire.refreshRate.mapM F64.toRat
  let x ← wire.nativeBounds.x.toRat
  let y ← wire.nativeBounds.y.toRat
  let width ← wire.nativeBounds.width.toRat
  let height ← wire.nativeBounds.height.toRat
  some ⟨wire.id, wire.hostId, wire.name, logicalSize, physicalSize, scaleFactor, refreshRate,
    ⟨x, y, width, height⟩, wire.primary⟩

def displayFromWire (expectedHost : HostId) (wire : WireDisplayV1) :
    Except InventoryError Display :=
  if wire.hostId ≠ expectedHost then .error .sessionMismatch
  else match finiteDisplay wire with
    | none => .error .invalidItem
    | some display => (validateDomainDisplay expectedHost display).map fun _ => display

def displayToWire (display : Display) : WireDisplayV1 where
  id := display.id
  hostId := display.hostId
  name := display.name
  logicalSize := ⟨.finite display.logicalSize.width, .finite display.logicalSize.height⟩
  physicalSize := display.physicalSize.map fun size => ⟨.finite size.width, .finite size.height⟩
  scaleFactor := .finite display.scaleFactor
  refreshRate := display.refreshRate.map .finite
  nativeBounds := ⟨.finite display.nativeBounds.x, .finite display.nativeBounds.y,
    .finite display.nativeBounds.width, .finite display.nativeBounds.height⟩
  primary := display.primary

def validatePrimaryCount (displays : OrdMap DisplayId Display) : Except InventoryError Unit :=
  if displays.values.countP (·.primary) ≠ 1 then .error .invalidPrimaryCount else .ok ()

/-! ## The inventory -/

namespace DisplayInventory

variable (inventory : DisplayInventory)

/-- How display candidates are checked. -/
def policy : InventoryPolicy DisplayId Display where
  key := Display.id
  itemsPerHost := inventory.config.itemsPerHost
  totalItems := inventory.config.totalItems
  validateItem := validateDomainDisplay
  validateAll := validatePrimaryCount

def new (localHostId : HostId) (config : InventoryConfig) :
    Except InventoryError DisplayInventory :=
  if localHostId.isNil then .error .invalidHost
  else config.validate.map fun config => ⟨localHostId, config, ∅, ∅, false, ∅⟩

/-- `snapshot().host(host)`. -/
def host (host : HostId) : Option DisplayRecord :=
  inventory.records.get? host

/-- `snapshot().displays()`. -/
def displays : List Display :=
  inventory.records.values.flatMap (·.items.values)

def applyLocalSnapshot (revision : ℕ) (displays : List Display) :
    Except InventoryError DisplayInventory :=
  (inventory.policy.applySnapshot inventory.records .local inventory.localHostId revision
    displays).map fun records => { inventory with records }

def applyUpdate (source : InventorySource DisplaySessionBinding)
    (host : HostId) (revision : ℕ) (display : Display) : Except InventoryError DisplayInventory :=
  match inventory.records.get? host with
  | none => .error .inventoryUnavailable
  | some record =>
    if record.source ≠ source then .error .sessionMismatch
    else do
      requireNextRevision record.revision revision
      validateDomainDisplay host display
      let records ← inventory.policy.installCandidate inventory.records source host revision
        (record.items.insert display.id display)
      .ok { inventory with records }

def applyLocalUpdate (revision : ℕ) (display : Display) : Except InventoryError DisplayInventory :=
  inventory.applyUpdate .local inventory.localHostId revision display

def localWireSnapshot : Except InventoryError DisplaySnapshotV1 :=
  match (inventory.records.get? inventory.localHostId).filter (·.source == .local) with
  | none => .error .inventoryUnavailable
  | some record =>
    let message : DisplaySnapshotV1 :=
      ⟨record.revision, inventory.localHostId, record.items.values.map displayToWire⟩
    match (WireMessage.displaySnapshot message).validate with
    | .error _ => .error .invalidMessage
    | .ok () => .ok message

variable (session : CurrentAdmittedSession)

def binding : Except InventoryError DisplaySessionBinding :=
  let binding : DisplaySessionBinding :=
    ⟨session.generation, session.localHostId, session.remoteHostId⟩
  if binding.localHostId != inventory.localHostId || binding.remoteHostId.isNil
      || binding.remoteHostId == binding.localHostId then
    .error .sessionMismatch
  else .ok binding

def activateRemoteBinding (binding : DisplaySessionBinding) :
    Except InventoryError DisplayInventory :=
  if inventory.remoteShutdown then .error .sessionMismatch
  else match inventory.activeSessions.get? binding.remoteHostId with
    | some active => if active = binding then .ok inventory else .error .sessionMismatch
    | none =>
      if (inventory.retiredSessions.get? binding.remoteHostId).any
          (fun retired => binding.generation ≤ retired.generation) then
        .error .sessionMismatch
      else if inventory.config.remoteHosts ≤ inventory.activeSessions.size then
        .error .capacityExceeded
      else .ok { inventory with
        activeSessions := inventory.activeSessions.insert binding.remoteHostId binding }

def activateRemote : Except InventoryError DisplayInventory := do
  inventory.activateRemoteBinding (← inventory.binding session)

def requireActive (binding : DisplaySessionBinding) : Except InventoryError Unit :=
  if inventory.activeSessions.get? binding.remoteHostId = some binding then .ok ()
  else .error .sessionMismatch

/-- The retired host with the smallest generation, the first of equals. -/
def oldestRetired : List (HostId × DisplaySessionBinding) → Option (HostId × DisplaySessionBinding)
  | [] => none
  | entry :: rest =>
    match oldestRetired rest with
    | none => some entry
    | some oldest => if oldest.2.generation < entry.2.generation then some oldest else some entry

/-- The eviction that makes room for a retired session (lines 350–383). -/
def evictRetired (host : HostId) : DisplayInventory :=
  if inventory.retiredSessions.contains host
      || inventory.retiredSessions.size < inventory.config.remoteHosts then inventory
  else match oldestRetired inventory.retiredSessions.entries with
    | none => inventory
    | some (evicted, _) =>
      { inventory with
        retiredSessions := inventory.retiredSessions.erase evicted
        records := inventory.records.filter fun host record =>
          host ≠ evicted || record.source == .local }

/-- `invalidate_remote_binding`, without its result, which no caller reads. -/
def invalidateRemoteBinding (binding : DisplaySessionBinding) : DisplayInventory :=
  if inventory.activeSessions.get? binding.remoteHostId ≠ some binding then inventory
  else
    let inventory := inventory.evictRetired binding.remoteHostId
    { inventory with
      activeSessions := inventory.activeSessions.erase binding.remoteHostId
      retiredSessions := inventory.retiredSessions.insert binding.remoteHostId binding
      records := inventory.records.filter fun host record =>
        host ≠ binding.remoteHostId || record.source != .remote binding }

def invalidateRemote : DisplayInventory :=
  match inventory.binding session with
  | .error _ => inventory
  | .ok binding => inventory.invalidateRemoteBinding binding

/-- `shutdown_remote`. -/
def invalidateAllRemote : DisplayInventory :=
  { inventory with
    remoteShutdown := true
    activeSessions := ∅
    retiredSessions := ∅
    records := inventory.records.filter fun _ record => record.source == .local }

def applyRemoteSnapshot (message : DisplaySnapshotV1) : Except InventoryError DisplayInventory := do
  let binding ← inventory.binding session
  inventory.requireActive binding
  ((WireMessage.displaySnapshot message).validate).mapError fun _ => .invalidMessage
  if message.hostId ≠ binding.remoteHostId then .error .sessionMismatch
  else
    let displays ← message.displays.mapM (displayFromWire binding.remoteHostId)
    let records ← inventory.policy.applySnapshot inventory.records (.remote binding)
      binding.remoteHostId message.revision displays
    .ok { inventory with records }

def applyRemoteUpdate (message : DisplayUpdatedV1) : Except InventoryError DisplayInventory := do
  let binding ← inventory.binding session
  inventory.requireActive binding
  ((WireMessage.displayUpdated message).validate).mapError fun _ => .invalidMessage
  let display ← displayFromWire binding.remoteHostId message.display
  inventory.applyUpdate (.remote binding) binding.remoteHostId message.revision display

end DisplayInventory

end SoftwareKvm
