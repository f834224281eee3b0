import SoftwareKvm.Types.Config

/-!
# Protocol messages

The DTOs of `kvm-protocol/src/wire.rs` and `WireMessage::validate`
(`message.rs`, lines 168–860). A wire identifier holds the 16 bytes of the
domain identifier and is modelled by it; `WireInputDeviceV1` has the fields of
`InputDevice` and is modelled by it.

Every check has the form "return `ValidationError` with this detail unless the
condition holds", `WireMessage.ensure`.
-/

namespace SoftwareKvm

/-! ## Input -/

/-- `WireKeyCode`: a HID usage page and usage. -/
structure WireKeyCode where
  usagePage : ℕ
  usage : ℕ
  deriving DecidableEq

inductive WireKeyState
  | down
  | repeat
  | up
  deriving DecidableEq

inductive WireButtonState
  | down
  | up
  deriving DecidableEq

inductive WirePointerButton
  | primary
  | secondary
  | middle
  | back
  | forward
  | other (number : ℕ)
  deriving DecidableEq

inductive WireInputPayloadV1
  | key (code : WireKeyCode) (state : WireKeyState)
  | pointerMove (dx dy : F64)
  | pointerButton (button : WirePointerButton) (state : WireButtonState)
  | scroll (horizontal vertical : F64)
  deriving DecidableEq

structure InputEventV1 where
  sequence : ℕ
  timestampNs : ℕ
  sourceHost : HostId
  sourceDevice : DeviceId
  payload : WireInputPayloadV1
  deriving DecidableEq

/-- `ReleaseReasonV1`; `ReleaseReasonV2` has the same members. -/
inductive ReleaseReason
  | routeChanged
  | peerDisconnecting
  | failsafe
  | shutdown
  | stateResynchronization
  deriving DecidableEq

structure ReleaseInputV1 where
  sequence : ℕ
  sourceHost : HostId
  sourceDevice : Option DeviceId
  reason : ReleaseReason
  keys : List WireKeyCode
  buttons : List WirePointerButton
  deriving DecidableEq

/-- `ReleaseInputV2`; a 32-byte secret is a number below `2 ^ 256`. -/
structure ReleaseInputV2 where
  transactionId : ℕ
  releaseToken : ℕ
  oldSessionId : ℕ
  sequence : ℕ
  coveredInputSequence : ℕ
  sourceHost : HostId
  applyingHost : HostId
  sourceDevice : Option DeviceId
  reason : ReleaseReason
  keys : List WireKeyCode
  buttons : List WirePointerButton
  deriving DecidableEq

structure ReleaseAppliedAckV2 where
  transactionId : ℕ
  releaseToken : ℕ
  oldSessionId : ℕ
  sequence : ℕ
  releaseSequence : ℕ
  coveredInputSequence : ℕ
  sourceHost : HostId
  applyingHost : HostId
  deriving DecidableEq

/-! ## Session, inventories and pointer transitions -/

inductive WirePlatform
  | windows
  | macOs
  | linux
  deriving DecidableEq

structure HelloV1 where
  hostId : HostId
  peerId : PeerId
  hostName : String
  platform : WirePlatform
  minimumProtocolVersion : ℕ
  maximumProtocolVersion : ℕ
  daemonVersion : String
  nonce : ℕ
  deriving DecidableEq

structure AuthenticateV1 where
  peerId : PeerId
  scheme : String
  proof : List ℕ
  deriving DecidableEq

structure DeviceSnapshotV1 where
  revision : ℕ
  hostId : HostId
  devices : List InputDevice
  deriving DecidableEq

structure DeviceAddedV1 where
  revision : ℕ
  device : InputDevice
  deriving DecidableEq

structure DeviceRemovedV1 where
  revision : ℕ
  hostId : HostId
  deviceId : DeviceId
  deriving DecidableEq

structure WireSize where
  width : F64
  height : F64
  deriving DecidableEq

structure WireRect where
  x : F64
  y : F64
  width : F64
  height : F64
  deriving DecidableEq

structure WireDisplayV1 where
  id : DisplayId
  hostId : HostId
  name : String
  logicalSize : WireSize
  physicalSize : Option WireSize
  scaleFactor : F64
  refreshRate : Option F64
  nativeBounds : WireRect
  primary : Bool
  deriving DecidableEq

structure DisplaySnapshotV1 where
  revision : ℕ
  hostId : HostId
  displays : List WireDisplayV1
  deriving DecidableEq

structure DisplayUpdatedV1 where
  revision : ℕ
  display : WireDisplayV1
  deriving DecidableEq

/-- `PointerEnterV1`; `WireEdge` is modelled by `Edge`. -/
structure PointerEnterV1 where
  transitionId : ℕ
  workspaceEpoch : ℕ
  sequence : ℕ
  sourceHost : HostId
  destinationHost : HostId
  sourceDisplay : DisplayId
  destinationDisplay : DisplayId
  destinationEdge : Edge
  normalizedPosition : F64
  deriving DecidableEq

structure PointerLeaveV1 where
  transitionId : ℕ
  workspaceEpoch : ℕ
  sequence : ℕ
  sourceHost : HostId
  sourceDisplay : DisplayId
  edge : Edge
  normalizedPosition : F64
  deriving DecidableEq

inductive PointerTransitionOutcomeV1
  | accepted
  | staleWorkspaceEpoch
  | unknownDisplay
  | notAuthoritative
  | rejected
  deriving DecidableEq

structure PointerTransitionAckV1 where
  transitionId : ℕ
  workspaceEpoch : ℕ
  receiverHost : HostId
  activeDisplay : DisplayId
  outcome : PointerTransitionOutcomeV1
  deriving DecidableEq

structure PointerTransitionCommitV1 where
  transitionId : ℕ
  workspaceEpoch : ℕ
  sequence : ℕ
  sourceHost : HostId
  destinationHost : HostId
  sourceDisplay : DisplayId
  destinationDisplay : DisplayId
  deriving DecidableEq

/-- `ClipboardV1`; its update identifier is a 16-byte number. -/
structure ClipboardV1 where
  updateId : ℕ
  originHost : HostId
  sequence : ℕ
  text : String
  deriving DecidableEq

structure PingV1 where
  nonce : ℕ
  sentAtNs : ℕ
  deriving DecidableEq

structure PongV1 where
  nonce : ℕ
  pingSentAtNs : ℕ
  receivedAtNs : ℕ
  deriving DecidableEq

inductive WireMessage
  | hello (value : HelloV1)
  | authenticate (value : AuthenticateV1)
  | deviceSnapshot (value : DeviceSnapshotV1)
  | deviceAdded (value : DeviceAddedV1)
  | deviceRemoved (value : DeviceRemovedV1)
  | displaySnapshot (value : DisplaySnapshotV1)
  | displayUpdated (value : DisplayUpdatedV1)
  | input (value : InputEventV1)
  | pointerEnter (value : PointerEnterV1)
  | pointerLeave (value : PointerLeaveV1)
  | pointerTransitionAck (value : PointerTransitionAckV1)
  | pointerTransitionCommit (value : PointerTransitionCommitV1)
  | clipboard (value : ClipboardV1)
  | ping (value : PingV1)
  | pong (value : PongV1)
  | releaseInput (value : ReleaseInputV1)
  | releaseInputV2 (value : ReleaseInputV2)
  | releaseAppliedAckV2 (value : ReleaseAppliedAckV2)
  deriving DecidableEq

inductive MessageType
  | hello
  | authenticate
  | deviceSnapshot
  | deviceAdded
  | deviceRemoved
  | displaySnapshot
  | displayUpdated
  | input
  | pointerEnter
  | pointerLeave
  | pointerTransitionAck
  | pointerTransitionCommit
  | clipboard
  | ping
  | pong
  | releaseInput
  | releaseInputV2
  | releaseAppliedAckV2
  deriving DecidableEq

structure ValidationError where
  messageType : MessageType
  detail : String
  deriving DecidableEq

/-! ## Validation -/

namespace WireMessage

def messageType : WireMessage → MessageType
  | .hello _ => .hello
  | .authenticate _ => .authenticate
  | .deviceSnapshot _ => .deviceSnapshot
  | .deviceAdded _ => .deviceAdded
  | .deviceRemoved _ => .deviceRemoved
  | .displaySnapshot _ => .displaySnapshot
  | .displayUpdated _ => .displayUpdated
  | .input _ => .input
  | .pointerEnter _ => .pointerEnter
  | .pointerLeave _ => .pointerLeave
  | .pointerTransitionAck _ => .pointerTransitionAck
  | .pointerTransitionCommit _ => .pointerTransitionCommit
  | .clipboard _ => .clipboard
  | .ping _ => .ping
  | .pong _ => .pong
  | .releaseInput _ => .releaseInput
  | .releaseInputV2 _ => .releaseInputV2
  | .releaseAppliedAckV2 _ => .releaseAppliedAckV2

variable (kind : MessageType)

/-- Fail with `detail` unless the check holds. -/
def ensure (check : Bool) (detail : String) : Except ValidationError Unit :=
  if check then .ok () else .error ⟨kind, detail⟩

def stringLen (name value : String) (maximum : ℕ) : Except ValidationError Unit :=
  ensure kind (value.utf8ByteSize ≤ maximum)
    (name ++ " is " ++ toString value.utf8ByteSize ++ " bytes; maximum is " ++ toString maximum)

def listLen (name : String) (length maximum : ℕ) : Except ValidationError Unit :=
  ensure kind (length ≤ maximum)
    (name ++ " contains " ++ toString length ++ " items; maximum is " ++ toString maximum)

def positiveCounter (name : String) (value : ℕ) : Except ValidationError Unit :=
  ensure kind (value != 0) (name ++ " must be positive")

def positiveRevision (subject : String) (revision : ℕ) : Except ValidationError Unit :=
  ensure kind (revision != 0) (subject ++ " revision must be positive")

def nonzeroSecret (name : String) (value : ℕ) : Except ValidationError Unit :=
  ensure kind (value != 0) (name ++ " must be nonzero")

def nonNilId {k : IdKind} (name : String) (value : Id k) : Except ValidationError Unit :=
  ensure kind (!value.isNil) (name ++ " identifier must be non-nil")

def finite (name : String) (value : F64) : Except ValidationError Unit :=
  ensure kind value.isFinite (name ++ " must be finite")

/-- `value.is_finite() && check(value)`. -/
def finiteAnd (check : ℚ → Bool) : F64 → Bool
  | .finite value => check value
  | .nonFinite => false

def normalized (value : F64) : Except ValidationError Unit :=
  ensure kind (finiteAnd (fun q => 0 ≤ q && q ≤ 1) value)
    "normalized position must be finite and in 0.0..=1.0"

def positiveBounded (name : String) (value : F64) (maximum : ℚ) : Except ValidationError Unit :=
  ensure kind (finiteAnd (fun q => 0 < q && q ≤ maximum) value)
    (name ++ " must be finite, positive, and within its permitted bound")

def boundedCoordinate (name : String) (value : F64) : Except ValidationError Unit :=
  ensure kind (finiteAnd (fun q => |q| ≤ 1000000) value)
    (name ++ " must be finite and within its permitted bound")

/-- The name check that devices and displays share. -/
def printableName (label name : String) : Except ValidationError Unit := do
  stringLen kind (label ++ " name") name 255
  ensure kind (!name.toList.all Config.isWhitespace && !name.toList.any Config.isControl)
    (label ++ " name must be nonempty and contain no control characters")

def validateDevice (device : InputDevice) : Except ValidationError Unit := do
  printableName kind "device" device.name
  nonNilId kind "device" device.id
  nonNilId kind "device owner" device.hostId

def validateDisplay (display : WireDisplayV1) : Except ValidationError Unit := do
  printableName kind "display" display.name
  nonNilId kind "display" display.id
  nonNilId kind "display owner" display.hostId
  positiveBounded kind "logical width" display.logicalSize.width 65536
  positiveBounded kind "logical height" display.logicalSize.height 65536
  match display.physicalSize with
  | some size => do
    positiveBounded kind "physical width" size.width 262144
    positiveBounded kind "physical height" size.height 262144
  | none => pure ()
  positiveBounded kind "scale factor" display.scaleFactor 16
  match display.refreshRate with
  | some refreshRate => positiveBounded kind "refresh rate" refreshRate 1000
  | none => pure ()
  let bounds := display.nativeBounds
  boundedCoordinate kind "native x" bounds.x
  boundedCoordinate kind "native y" bounds.y
  positiveBounded kind "native width" bounds.width 262144
  positiveBounded kind "native height" bounds.height 262144
  boundedCoordinate kind "native maximum x" (bounds.x.add bounds.width)
  boundedCoordinate kind "native maximum y" (bounds.y.add bounds.height)

/-- The loop of the two snapshot validations: each item valid, owned by the
    snapshot's host and new. -/
def validateItems {α β : Type} [DecidableEq β] (kind : MessageType) (item : String)
    (validate : α → Except ValidationError Unit) (owner : α → HostId) (key : α → β)
    (host : HostId) (seen : List β) : List α → Except ValidationError Unit
  | [] => .ok ()
  | value :: rest => do
    validate value
    ensure kind (owner value == host)
      ("snapshot contains a " ++ item ++ " owned by another host")
    ensure kind (!seen.contains (key value))
      ("snapshot contains duplicate " ++ item ++ " identifiers")
    validateItems kind item validate owner key host (key value :: seen) rest

/-- `DeviceSnapshotV1::validate`. -/
def validateDeviceSnapshot (value : DeviceSnapshotV1) : Except ValidationError Unit := do
  positiveRevision .deviceSnapshot "device" value.revision
  nonNilId .deviceSnapshot "snapshot host" value.hostId
  listLen .deviceSnapshot "devices" value.devices.length 256
  validateItems .deviceSnapshot "device" (validateDevice .deviceSnapshot) (·.hostId) (·.id)
    value.hostId [] value.devices

/-- `DisplaySnapshotV1::validate`. -/
def validateDisplaySnapshot (value : DisplaySnapshotV1) : Except ValidationError Unit := do
  positiveRevision .displaySnapshot "display" value.revision
  nonNilId .displaySnapshot "snapshot host" value.hostId
  listLen .displaySnapshot "displays" value.displays.length 256
  validateItems .displaySnapshot "display" (validateDisplay .displaySnapshot) (·.hostId) (·.id)
    value.hostId [] value.displays
  ensure .displaySnapshot (value.displays.countP (·.primary) == 1)
    "snapshot must contain exactly one primary display"

def validateInput (value : InputEventV1) : Except ValidationError Unit :=
  match value.payload with
  | .pointerMove dx dy => do
    finite .input "pointer dx" dx
    finite .input "pointer dy" dy
  | .scroll horizontal vertical => do
    finite .input "horizontal scroll" horizontal
    finite .input "vertical scroll" vertical
  | .key .. | .pointerButton .. => .ok ()

def validateReleaseV2 (value : ReleaseInputV2) : Except ValidationError Unit := do
  positiveCounter .releaseInputV2 "release transaction" value.transactionId
  nonzeroSecret .releaseInputV2 "release token" value.releaseToken
  nonzeroSecret .releaseInputV2 "old session" value.oldSessionId
  ensure .releaseInputV2 (value.releaseToken != value.oldSessionId)
    "release token and old session identifier must differ"
  positiveCounter .releaseInputV2 "release sequence" value.sequence
  positiveCounter .releaseInputV2 "covered input sequence" value.coveredInputSequence
  ensure .releaseInputV2 (value.coveredInputSequence < value.sequence)
    "covered input sequence must precede the release sequence"
  nonNilId .releaseInputV2 "release source host" value.sourceHost
  nonNilId .releaseInputV2 "release applying host" value.applyingHost
  ensure .releaseInputV2 (value.sourceHost != value.applyingHost)
    "release source and applying hosts must differ"
  match value.sourceDevice with
  | some device => nonNilId .releaseInputV2 "release source device" device
  | none => pure ()
  listLen .releaseInputV2 "keys" value.keys.length 256
  listLen .releaseInputV2 "buttons" value.buttons.length 32
  listLen .releaseInputV2 "controls" (value.keys.length + value.buttons.length) 256
  ensure .releaseInputV2 (decide value.keys.Nodup && decide value.buttons.Nodup)
    "release controls must not contain duplicates"

def validateReleaseAckV2 (value : ReleaseAppliedAckV2) : Except ValidationError Unit := do
  positiveCounter .releaseAppliedAckV2 "release transaction" value.transactionId
  nonzeroSecret .releaseAppliedAckV2 "release token" value.releaseToken
  nonzeroSecret .releaseAppliedAckV2 "old session" value.oldSessionId
  ensure .releaseAppliedAckV2 (value.releaseToken != value.oldSessionId)
    "release token and old session identifier must differ"
  positiveCounter .releaseAppliedAckV2 "acknowledgement sequence" value.sequence
  positiveCounter .releaseAppliedAckV2 "acknowledged release sequence" value.releaseSequence
  positiveCounter .releaseAppliedAckV2 "covered input sequence" value.coveredInputSequence
  ensure .releaseAppliedAckV2 (value.coveredInputSequence < value.releaseSequence)
    "covered input sequence must precede the acknowledged release sequence"
  nonNilId .releaseAppliedAckV2 "acknowledgement source host" value.sourceHost
  nonNilId .releaseAppliedAckV2 "acknowledgement applying host" value.applyingHost
  ensure .releaseAppliedAckV2 (value.sourceHost != value.applyingHost)
    "acknowledgement source and applying hosts must differ"

/-- `WireMessage::validate` (lines 168–248). -/
def validate : WireMessage → Except ValidationError Unit
  | .hello value => do
    stringLen .hello "host_name" value.hostName 255
    stringLen .hello "daemon_version" value.daemonVersion 128
    ensure .hello (value.minimumProtocolVersion != 0) "minimum protocol version must be positive"
    ensure .hello (value.minimumProtocolVersion ≤ value.maximumProtocolVersion)
      "minimum protocol version exceeds maximum"
    ensure .hello (1 ≤ value.maximumProtocolVersion && value.minimumProtocolVersion ≤ 3)
      "peer does not advertise a supported protocol version"
  | .authenticate value => do
    stringLen .authenticate "scheme" value.scheme 64
    ensure .authenticate (value.scheme != "") "authentication scheme cannot be empty"
    ensure .authenticate (!value.proof.isEmpty && value.proof.length ≤ 4096)
      "proof length must be in 1..=4096 bytes"
  | .deviceSnapshot value => validateDeviceSnapshot value
  | .deviceAdded value => do
    positiveRevision .deviceAdded "device" value.revision
    validateDevice .deviceAdded value.device
  | .deviceRemoved value => do
    positiveRevision .deviceRemoved "device" value.revision
    nonNilId .deviceRemoved "device owner" value.hostId
    nonNilId .deviceRemoved "device" value.deviceId
  | .displaySnapshot value => validateDisplaySnapshot value
  | .displayUpdated value => do
    positiveRevision .displayUpdated "display" value.revision
    validateDisplay .displayUpdated value.display
  | .input value => validateInput value
  | .pointerEnter value => do
    normalized .pointerEnter value.normalizedPosition
    ensure .pointerEnter (value.sourceHost != value.destinationHost)
      "pointer-enter destination must be a different host"
  | .pointerLeave value => normalized .pointerLeave value.normalizedPosition
  | .pointerTransitionCommit value =>
    ensure .pointerTransitionCommit (value.sourceHost != value.destinationHost)
      "pointer-transition commit destination must be a different host"
  | .clipboard value => stringLen .clipboard "text" value.text (256 * 1024)
  | .releaseInput value => do
    listLen .releaseInput "keys" value.keys.length 256
    listLen .releaseInput "buttons" value.buttons.length 32
  | .releaseInputV2 value => validateReleaseV2 value
  | .releaseAppliedAckV2 value => validateReleaseAckV2 value
  | .pointerTransitionAck _ | .ping _ | .pong _ => .ok ()

end WireMessage

end SoftwareKvm
