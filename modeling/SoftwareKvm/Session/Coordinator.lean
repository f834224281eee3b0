import SoftwareKvm.Core.Ops
import SoftwareKvm.Session.Pressed
import SoftwareKvm.Wire.Convert

/-!
# The session coordinator

`PeerSessionCoordinator` (`kvm-daemon/src/session.rs`): one daemon core, one
expected peer, the outbound FIFO of its admitted session and the input injected
on its behalf.

The injection backend and the outbound peer are parameters, as in the source:
`OutputInjectionBackend` and `OutboundPeer` are classes, and a failing call may
change their state too. The error of an injection is never looked at, so its
result is a `Bool`. The latency rings of the feature `diagnostics` are not
modelled.
-/

namespace SoftwareKvm

open Lib

/-! ## Parameters and errors -/

inductive OutboundPeerError
  | full
  | closed
  deriving DecidableEq

/-- `OutputInjectionBackend::inject`; `true` is `Ok(())`. -/
class OutputInjectionBackend (ι : Type) where
  inject : ι → InputEvent → Bool × ι

/-- `OutboundPeer::try_send`. -/
class OutboundPeer (ω : Type) where
  trySend : ω → WireMessage → Except OutboundPeerError Unit × ω

inductive ConnectionState
  | connecting
  | authenticating
  | connected
  | degraded
  | disconnected
  deriving DecidableEq

inductive PeerEventOutcome
  | applied
  | deferred (messageType : MessageType)
  | ignored
  deriving DecidableEq

inductive CoordinatorError
  | expectedPeerNotConfigured
  | invalidConfiguredFingerprint
  | configuredFingerprintMismatch
  | notAdmitted
  | identityMismatch
  | staleSequence (previous received : ℕ)
  | wire (error : WireConversionError)
  | invalidMessage (error : ValidationError)
  | injection
  | outbound (error : OutboundPeerError)
  | wrongActionTarget
  | cleanupIncomplete
  | inboundPressedStateOverflow
  | outboundSequenceExhausted
  | syntheticSequenceExhausted
  | unmatchedRepeat
  | unsupportedReleaseProof
  | unexpectedCleanupAction
  | workspaceUpdate
  | core (error : CoreCaptureError)
  | multipleCleanupFailures (first second : CoordinatorError)
  | sessionFailureWithCleanup (trigger cleanup : CoordinatorError)
  deriving DecidableEq

structure CoordinatorCaptureFailure where
  outcome : Option CaptureOutcome
  error : CoordinatorError

inductive RoutePolicyCoordinatorError
  | policy (error : RoutePolicyUpdateError)
  | delivery

def combineCleanupResults :
    Except CoordinatorError Unit → Except CoordinatorError Unit → Except CoordinatorError Unit
  | .ok (), .ok () => .ok ()
  | .error error, .ok () | .ok (), .error error => .error error
  | .error first, .error second => .error (.multipleCleanupFailures first second)

/-! ## Identities and sessions -/

/-- `PeerIdentity` (`kvm-security/src/identity.rs`); a fingerprint is its 32 bytes. -/
structure PeerIdentity where
  peerId : PeerId
  hostId : HostId
  displayName : String
  fingerprint : List ℕ

def decodeHexDigit (value : Char) : Option ℕ :=
  let n := value.toNat
  if 0x30 ≤ n ∧ n ≤ 0x39 then some (n - 0x30)
  else if 0x61 ≤ n ∧ n ≤ 0x66 then some (n - 0x61 + 10)
  else if 0x41 ≤ n ∧ n ≤ 0x46 then some (n - 0x41 + 10)
  else none

/-- The pairs of hexadecimal digits of a fingerprint. -/
def decodeHexPairs : List Char → Option (List ℕ)
  | [] => some []
  | [_] => none
  | high :: low :: rest => do
    let h ← decodeHexDigit high
    let l ← decodeHexDigit low
    return (h * 16 + l) :: (← decodeHexPairs rest)

/-- `IdentityFingerprint::from_str`. -/
def parseFingerprint (value : List Char) : Option (List ℕ) :=
  if Config.byteLength value = 64 then decodeHexPairs value else none

structure TransportPeerIdentity where
  hostId : HostId
  peerId : PeerId
  credentialFingerprint : List ℕ
  deriving DecidableEq

/-- `AdmittedSessionBinding`: every field of an `AdmittedPeer`, which it also models. -/
structure AdmittedSessionBinding where
  transportIdentity : TransportPeerIdentity
  localHello : HelloV1
  remoteHello : HelloV1
  selectedProtocolVersion : ℕ
  sessionId : ℕ
  deriving DecidableEq

structure AuthorizedSession where
  endpoint : SessionEndpoint
  binding : AdmittedSessionBinding
  lastSequence : Option ℕ
  recentInputs : List InputEventV1
  acceptsInput : Bool
  deriving DecidableEq

def maxInboundPressedDevices : ℕ := 64
def maxInboundHeldPerDevice : ℕ := 256
def maxInboundHeldTotal : ℕ := 1024
/-- The capacity of `recent_inputs`. -/
def recentInputsCapacity : ℕ := 128

/-- `PeerSessionCoordinator`. The field `committed` is a ghost: the core right after each frame
    that entered the FIFO was settled, oldest first. No function reads it. -/
structure PeerSessionCoordinator (ι ω : Type) where
  core : DaemonCore
  expected : PeerIdentity
  injection : ι
  outbound : ω
  authorized : Option AuthorizedSession
  inboundPressed : OrdMap DeviceId PressedState
  syntheticSequence : ℕ
  outboundSequence : ℕ
  committed : List DaemonCore := []

/-- What devices do, in order. -/
abbrev DeviceEvents := List (DeviceId × InputPayload)

/-- The result of a method and the coordinator after it. -/
abbrev CoordinatorResult (ι ω α : Type) : Type :=
  Except CoordinatorError α × PeerSessionCoordinator ι ω

abbrev CoordinatorRelation (ι ω : Type) : Type :=
  PeerSessionCoordinator ι ω → PeerSessionCoordinator ι ω → Prop

abbrev CoordinatorMethod (ι ω α : Type) : Type :=
  PeerSessionCoordinator ι ω → CoordinatorResult ι ω α

namespace PeerSessionCoordinator

variable {ι ω : Type}

def new (core : DaemonCore) (expected : PeerIdentity) (injection : ι) (outbound : ω) :
    Except CoordinatorError (PeerSessionCoordinator ι ω) :=
  let configured := core.config.pairedHosts.find? fun peer =>
    peer.hostId == expected.hostId && peer.peerId == expected.peerId
  match configured with
  | none => .error .expectedPeerNotConfigured
  | some configured =>
    match parseFingerprint configured.identityFingerprint with
    | none => .error .invalidConfiguredFingerprint
    | some fingerprint =>
      if fingerprint ≠ expected.fingerprint then .error .configuredFingerprintMismatch
      else .ok {
        core, expected, injection, outbound
        authorized := none
        inboundPressed := ∅
        syntheticSequence := 0
        outboundSequence := 1 }

/-! ## Helpers -/

variable (c : PeerSessionCoordinator ι ω)

/-- The result of a core operation, `?` applied to its error. -/
def liftCore {α : Type} (result : CoreResult α) : CoordinatorResult ι ω α :=
  (result.1.mapError .core, { c with core := result.2 })

/-- `session.accepts_input = accepts`, if there is a session. -/
def setAcceptsInput (accepts : Bool) : PeerSessionCoordinator ι ω :=
  { c with authorized := c.authorized.map fun session => { session with acceptsInput := accepts } }

/-- `self.authorized.as_ref().is_some_and(|session| session.accepts_input)`. -/
def acceptsInput : Bool := c.authorized.any (·.acceptsInput)

def authorizesEndpoint (endpoint : SessionEndpoint) : Bool :=
  c.authorized.any (·.endpoint == endpoint)

/-- `self.outbound.try_send(message)`. -/
def offer [OutboundPeer ω] (message : WireMessage) : CoordinatorResult ι ω Unit :=
  let (sent, outbound) := OutboundPeer.trySend c.outbound message
  (sent.mapError .outbound, { c with outbound })

def syntheticEvent (device : DeviceId) (payload : InputPayload)
    (nowNs : ℕ) : CoordinatorResult ι ω InputEvent :=
  match checkedAdd c.syntheticSequence 1 with
  | none => (.error .syntheticSequenceExhausted, c)
  | some next =>
    (.ok ⟨c.syntheticSequence, nowNs, c.expected.hostId, device, payload⟩,
      { c with syntheticSequence := next })

def nextOutboundSequence : CoordinatorResult ι ω ℕ :=
  match checkedAdd c.outboundSequence 1 with
  | none => (.error .outboundSequenceExhausted, c)
  | some next => (.ok c.outboundSequence, { c with outboundSequence := next })

def inboundReleases (selected : Option DeviceId) : DeviceEvents :=
  c.inboundPressed.entries.flatMap fun (device, state) =>
    if selected.any (· != device) then [] else state.releasePayloads.map (device, ·)

/-! ## Releasing injected input -/

/-- The loop of `release_all_inbound` with its `first_error`. -/
def releaseLoop [OutputInjectionBackend ι] (nowNs : ℕ) :
    DeviceEvents → Option CoordinatorError → PeerSessionCoordinator ι ω →
      Option CoordinatorError × PeerSessionCoordinator ι ω
  | [], firstError, c => (firstError, c)
  | (device, payload) :: rest, firstError, c =>
    match c.syntheticEvent device payload nowNs with
    | (.error error, c) => (firstError.or (some error), c)
    | (.ok event, c) =>
      match OutputInjectionBackend.inject c.injection event with
      | (true, injection) =>
        let inboundPressed := c.inboundPressed.modify device (·.apply payload)
        releaseLoop nowNs rest firstError { c with injection, inboundPressed }
      | (false, injection) =>
        releaseLoop nowNs rest (firstError.or (some .injection)) { c with injection }

/-- `release_all_inbound` (lines 1536–1562). -/
def releaseAllInbound [OutputInjectionBackend ι] (nowNs : ℕ) : CoordinatorResult ι ω Unit :=
  let (firstError, c) := releaseLoop nowNs (c.inboundReleases none) none c
  let c := { c with inboundPressed := c.inboundPressed.filter fun _ state => !state.isEmpty }
  match firstError with
  | none => (.ok (), c)
  | some error => (.error error, c)

/-! ## Draining cleanup releases -/

/-- The closure `send` of `drain_remote_cleanup`. -/
def sendCleanup [OutboundPeer ω] (effect : CleanupReleaseEffect) : CoordinatorResult ι ω Unit :=
  match c.authorized with
  | none => (.error .notAdmitted, c)
  | some session =>
    if effect.endpoint ≠ session.endpoint ∨ effect.release.target ≠ effect.endpoint.hostId
        ∨ effect.release.target ≠ c.expected.hostId then
      (.error .wrongActionTarget, c)
    else match c.nextOutboundSequence with
      | (.error error, c) => (.error error, c)
      | (.ok sequence, c) =>
        if effect.coveredInputSequence = 0 ∨ sequence ≤ effect.coveredInputSequence then
          (.error .unexpectedCleanupAction, c)
        else match releaseToWire effect.release sequence c.core.workspace.localHost with
          | .error error => (.error (.wire error), c)
          | .ok wire => c.offer (.releaseInput wire)

/-- The loop body of `drain_remote_cleanup`. -/
def drainStep [OutboundPeer ω] (effect : CleanupReleaseEffect)
    (nowNs : ℕ) : CoordinatorResult ι ω Unit :=
  match c.sendCleanup effect with
  | (.ok (), c) =>
    let (confirmed, c) := c.liftCore (c.core.confirmCleanupRelease effect nowNs)
    (confirmed, { c with committed := c.committed ++ [c.core] })
  | (.error error, c) =>
    match c.liftCore (c.core.retryCleanupRelease effect nowNs) with
    | (.error retryError, c) => (.error retryError, c)
    | (.ok (), c) => (.error error, c)

/-- The loop of `drain_remote_cleanup`, with a bound on its iterations. -/
def drainLoop [OutboundPeer ω] (nowNs : ℕ) : ℕ → CoordinatorMethod ι ω Unit
  | 0, c => (.ok (), c)
  | bound + 1, c =>
    match c.core.takeNextCleanupRelease with
    | (none, core) => (.ok (), { c with core })
    | (some effect, core) =>
      match drainStep { c with core } effect nowNs with
      | (.error error, c) => (.error error, c)
      | (.ok (), c) => drainLoop nowNs bound c

/-- `drain_remote_cleanup` (lines 1659–1692): every iteration that goes on
    shortens the queue, so its length bounds the iterations. -/
def drainRemoteCleanup [OutboundPeer ω] (nowNs : ℕ) : CoordinatorResult ι ω Unit :=
  drainLoop nowNs (c.core.cleanup.length + 1) c

/-! ## Ending a session -/

section Parameters

variable [OutputInjectionBackend ι] [OutboundPeer ω] (c : PeerSessionCoordinator ι ω)

/-- `session_fatal_cleanup` (lines 1721–1748): input is gated at once, the
    session is kept until every release has entered its FIFO. -/
def sessionFatalCleanup (nowNs : ℕ) : CoordinatorResult ι ω Unit :=
  let endpoint := c.authorized.map (·.endpoint)
  let (injectionResult, c) := (c.setAcceptsInput false).releaseAllInbound nowNs
  match endpoint with
  | none => (injectionResult, { c with authorized := none })
  | some endpoint =>
    let (transition, c) := c.liftCore (c.core.setEndpointState endpoint .disconnected nowNs)
    let (outboundResult, c) := match transition with
      | .ok () => c.drainRemoteCleanup nowNs
      | .error error => (.error error, c)
    match combineCleanupResults injectionResult outboundResult with
    | .error error => (.error error, c)
    | .ok () =>
      match c.liftCore (c.core.retireSessionEndpoint endpoint nowNs) with
      | (.error error, c) => (.error error, c)
      | (.ok (), c) => (.ok (), { c with authorized := none })

def failSession (trigger : CoordinatorError) (nowNs : ℕ) :
    CoordinatorError × PeerSessionCoordinator ι ω :=
  match c.sessionFatalCleanup nowNs with
  | (.ok (), c) => (trigger, c)
  | (.error cleanup, c) => (.sessionFailureWithCleanup trigger cleanup, c)

/-- `Err(self.fail_session(trigger, now_ns))`. -/
def fails {α : Type} (trigger : CoordinatorError) (nowNs : ℕ) : CoordinatorResult ι ω α :=
  let (error, c) := c.failSession trigger nowNs
  (.error error, c)

/-- `disconnect` (lines 1694–1716): once the transport is gone, only a failed
    injection is reported. -/
def disconnect (nowNs : ℕ) : CoordinatorResult ι ω Unit :=
  let endpoint := c.authorized.map (·.endpoint)
  let (injectionResult, c) := (c.setAcceptsInput false).releaseAllInbound nowNs
  match endpoint with
  | none => (injectionResult, { c with authorized := none })
  | some endpoint =>
    let (transition, c) := c.liftCore (c.core.setEndpointState endpoint .disconnected nowNs)
    let c := match transition with
      | .ok () => (c.drainRemoteCleanup nowNs).2
      | .error _ => c
    (injectionResult,
      { c with authorized := none, core := c.core.confirmTransportInvalidated endpoint nowNs })

/-- `shutdown` (lines 1068–1086). -/
def shutdown (nowNs : ℕ) : CoordinatorResult ι ω Unit :=
  let (injectionResult, c) := (c.setAcceptsInput false).releaseAllInbound nowNs
  let (transition, c) := c.liftCore (c.core.shutdown nowNs)
  let (outboundResult, c) := match transition, c.authorized with
    | .ok (), some _ => c.drainRemoteCleanup nowNs
    | transition, _ => (transition, c)
  match combineCleanupResults injectionResult outboundResult with
  | .ok () => (.ok (), { c with authorized := none })
  | .error error => (.error error, c)

/-! ## Injecting received input -/

/-- `ensure_inbound_press_capacity` (lines 1431–1473) for a press of `control`. -/
def ensureInboundPressCapacity (device : DeviceId)
    (control : PhysicalControl) : Except CoordinatorError Unit :=
  let existing := c.inboundPressed.get? device
  if existing.any (·.holds control) then .ok ()
  else if existing.isNone && maxInboundPressedDevices ≤ c.inboundPressed.size then
    .error .inboundPressedStateOverflow
  else if existing.any (maxInboundHeldPerDevice ≤ ·.len) then .error .inboundPressedStateOverflow
  else if maxInboundHeldTotal ≤ (c.inboundPressed.values.map PressedState.len).sum then
    .error .inboundPressedStateOverflow
  else .ok ()

/-- The removal of a released control from `inbound_pressed`. -/
def applyRelease (device : DeviceId) (payload : InputPayload) : PeerSessionCoordinator ι ω :=
  match c.inboundPressed.get? device with
  | none => c
  | some state =>
    let state := state.apply payload
    let inboundPressed := if state.isEmpty then c.inboundPressed.erase device
      else c.inboundPressed.insert device state
    { c with inboundPressed }

/-- The injection of an accepted event, and what its success records. -/
def injectEvent (event : InputEvent) (nowNs : ℕ) : CoordinatorResult ι ω Unit :=
  match OutputInjectionBackend.inject c.injection event with
  | (false, injection) => fails { c with injection } .injection nowNs
  | (true, injection) =>
    let c := { c with injection }
    match PhysicalControl.fromPayload event.payload with
    | some (_, .release) => (.ok (), c.applyRelease event.sourceDevice event.payload)
    | _ => (.ok (), c)

/-- `inject_received` (lines 1355–1429). -/
def injectReceived (event : InputEvent) (nowNs : ℕ) : CoordinatorResult ι ω Unit :=
  match PhysicalControl.fromPayload event.payload with
  | some (control, .repeat) =>
    if (c.inboundPressed.get? event.sourceDevice).any (·.holds control) then
      c.injectEvent event nowNs
    else c.fails .unmatchedRepeat nowNs
  | some (control, .press) =>
    match c.ensureInboundPressCapacity event.sourceDevice control with
    | .error error => c.fails error nowNs
    | .ok () =>
      let state := ((c.inboundPressed.get? event.sourceDevice).getD .empty).apply event.payload
      injectEvent { c with inboundPressed := c.inboundPressed.insert event.sourceDevice state }
        event nowNs
  | _ => c.injectEvent event nowNs

/-- The loop of `handle_release` and `release_selected_inbound`: a synthetic
    event per release, each through `inject_received`. -/
def injectReleases (nowNs : ℕ) : DeviceEvents → CoordinatorMethod ι ω Unit
  | [], c => (.ok (), c)
  | (device, payload) :: rest, c =>
    match c.syntheticEvent device payload nowNs with
    | (.error error, c) => (.error error, c)
    | (.ok event, c) =>
      match c.injectReceived event nowNs with
      | (.error error, c) => (.error error, c)
      | (.ok (), c) => injectReleases nowNs rest c

def releaseSelectedInbound (selected : Option DeviceId) (nowNs : ℕ) : CoordinatorResult ι ω Unit :=
  injectReleases nowNs (c.inboundReleases selected) c

def releaseInboundDevice (device : DeviceId) (nowNs : ℕ) : CoordinatorResult ι ω Unit :=
  if c.authorized.isNone then (.error .notAdmitted, c)
  else c.releaseSelectedInbound (some device) nowNs

/-! ## Received messages -/

def acceptSequence (received nowNs : ℕ) : CoordinatorResult ι ω Unit :=
  match c.authorized with
  | none => c.fails .notAdmitted nowNs
  | some session =>
    match session.lastSequence with
    | some previous =>
      if received ≤ previous then c.fails (.staleSequence previous received) nowNs
      else (.ok (), { c with authorized := some { session with lastSequence := some received } })
    | none => (.ok (), { c with authorized := some { session with lastSequence := some received } })

def isRecentDuplicate (input : InputEventV1) : Bool :=
  c.authorized.any (·.recentInputs.contains input)

/-- The bounded `push_back` on `recent_inputs`. -/
def rememberInput (input : InputEventV1) : PeerSessionCoordinator ι ω :=
  { c with authorized := c.authorized.map fun session =>
      let recent := if session.recentInputs.length = recentInputsCapacity
        then session.recentInputs.tail else session.recentInputs
      { session with recentInputs := recent ++ [input] } }

/-- The releases that a `ReleaseInput` with controls asks for. -/
def requestedReleases (release : ReleaseInputV1) (devices : List DeviceId) : DeviceEvents :=
  devices.flatMap fun device =>
    release.keys.map (fun key => (device, .key (keyCodeFromWire key) .released))
      ++ release.buttons.map fun b => (device, .pointerButton (pointerButtonFromWire b) .released)

/-- `handle_release` (lines 1475–1517). -/
def handleRelease (release : ReleaseInputV1) (nowNs : ℕ) : CoordinatorResult ι ω Unit :=
  if release.sourceHost ≠ c.expected.hostId then c.fails .identityMismatch nowNs
  else match c.acceptSequence release.sequence nowNs with
    | (.error error, c) => (.error error, c)
    | (.ok (), c) =>
      if release.keys.isEmpty && release.buttons.isEmpty then
        c.releaseSelectedInbound release.sourceDevice nowNs
      else
        let devices := match release.sourceDevice with
          | some device => [device]
          | none => c.inboundPressed.keys
        injectReleases nowNs (requestedReleases release devices) c

/-- The `Input` arm of `handle_authorized_message`. -/
def handleInput (input : InputEventV1) (nowNs : ℕ) : CoordinatorResult ι ω PeerEventOutcome :=
  if input.sourceHost ≠ c.expected.hostId then c.fails .identityMismatch nowNs
  else if c.isRecentDuplicate input then (.ok .ignored, c)
  else match c.acceptSequence input.sequence nowNs with
    | (.error error, c) => (.error error, c)
    | (.ok (), c) =>
      let c := c.rememberInput input
      match inputFromWire input with
      | .error error => c.fails (.wire error) nowNs
      | .ok event =>
        match c.injectReceived event nowNs with
        | (.error error, c) => (.error error, c)
        | (.ok (), c) => (.ok .applied, c)

/-- `handle_authorized_message` (lines 1243–1287). -/
def handleAuthorizedMessage (message : WireMessage) (nowNs : ℕ) :
    CoordinatorResult ι ω PeerEventOutcome :=
  if !c.acceptsInput then c.fails .notAdmitted nowNs
  else match message.validate with
    | .error error => c.fails (.invalidMessage error) nowNs
    | .ok () =>
      match message with
      | .input input => c.handleInput input nowNs
      | .releaseInput release =>
        match c.handleRelease release nowNs with
        | (.error error, c) => (.error error, c)
        | (.ok (), c) => (.ok .applied, c)
      | .releaseInputV2 _ | .releaseAppliedAckV2 _ => c.fails .unsupportedReleaseProof nowNs
      | other => (.ok (.deferred other.messageType), c)

variable (endpoint : SessionEndpoint)

def handleEndpointMessage (peer : AdmittedSessionBinding) (message : WireMessage) (nowNs : ℕ) :
    CoordinatorResult ι ω PeerEventOutcome :=
  if c.authorized.any fun session => session.endpoint == endpoint && session.binding == peer then
    c.handleAuthorizedMessage message nowNs
  else c.fails .identityMismatch nowNs

/-- `matches!(payload, WireInputPayloadV1::PointerMove { .. })`. -/
def isPointerMove : WireInputPayloadV1 → Bool
  | .pointerMove .. => true
  | _ => false

/-- `handle_endpoint_pointer_datagram` (lines 1308–1332). -/
def handleEndpointPointerDatagram
    (peer : AdmittedSessionBinding) (input : InputEventV1) (nowNs : ℕ) :
    CoordinatorResult ι ω PeerEventOutcome :=
  let admitted := c.authorized.any fun session =>
    session.endpoint == endpoint && session.binding == peer && session.acceptsInput
  if !admitted || input.sourceHost != c.expected.hostId || !isPointerMove input.payload then
    c.fails .identityMismatch nowNs
  else match (WireMessage.input input).validate with
    | .error error => c.fails (.invalidMessage error) nowNs
    | .ok () =>
      match inputFromWire input with
      | .error error => c.fails (.wire error) nowNs
      | .ok event =>
        match c.injectReceived event nowNs with
        | (.error error, c) => (.error error, c)
        | (.ok (), c) => (.ok .applied, c)

/-! ## Admission and connection states -/

/-- `AdmittedSessionBinding::presented_peer` compared with the expected
    identity and the local host. -/
def bindingMatches (binding : AdmittedSessionBinding) : Bool :=
  binding.remoteHello.hostId == c.expected.hostId
    && binding.remoteHello.peerId == c.expected.peerId
    && binding.transportIdentity.credentialFingerprint == c.expected.fingerprint
    && binding.localHello.hostId == c.core.workspace.localHost

/-- `activate_binding` (lines 1112–1146). -/
def activateBinding (binding : AdmittedSessionBinding) (nowNs : ℕ) :
    CoordinatorResult ι ω PeerEventOutcome :=
  if !c.bindingMatches binding || c.authorized.isSome then c.fails .identityMismatch nowNs
  else if !c.inboundPressed.isEmpty then (.error .cleanupIncomplete, c)
  else match c.liftCore (c.core.installSessionEndpoint endpoint nowNs) with
    | (.error error, c) => (.error error, c)
    | (.ok (), c) =>
      let session : AuthorizedSession := ⟨endpoint, binding, none, [], true⟩
      (.ok .applied, { c with authorized := some session })

def activateAdmittedEndpoint (peer : AdmittedSessionBinding) (nowNs : ℕ) :
    CoordinatorResult ι ω PeerEventOutcome :=
  if endpoint.hostId ≠ peer.remoteHello.hostId ∨ endpoint.peerId ≠ peer.remoteHello.peerId
      ∨ endpoint.selectedProtocolVersion ≠ peer.selectedProtocolVersion
      ∨ endpoint.sessionId ≠ peer.sessionId then
    c.fails .identityMismatch nowNs
  else c.activateBinding endpoint peer nowNs

variable (nowNs : ℕ)

/-- The `Degraded` arm of `handle_endpoint_state`. -/
def degradeEndpoint : CoordinatorResult ι ω Unit :=
  let (injectionResult, c) := (c.setAcceptsInput false).releaseAllInbound nowNs
  let (transition, c) := c.liftCore (c.core.setEndpointState endpoint .degraded nowNs)
  let (outboundResult, c) := match transition with
    | .ok () => c.drainRemoteCleanup nowNs
    | .error error => (.error error, c)
  match combineCleanupResults injectionResult outboundResult with
  | .ok () => (.ok (), c)
  | .error error => c.fails error nowNs

/-- `handle_endpoint_state` (lines 1199–1241). -/
def handleEndpointState (state : ConnectionState) (nowNs : ℕ) :
    CoordinatorResult ι ω PeerEventOutcome :=
  if !c.authorizesEndpoint endpoint then c.fails .notAdmitted nowNs
  else
    let applied (result : CoordinatorResult ι ω Unit) : CoordinatorResult ι ω PeerEventOutcome :=
      (result.1.map fun _ => .applied, result.2)
    match state with
    | .connected =>
      let c := c.setAcceptsInput true
      applied (c.liftCore (c.core.setEndpointState endpoint .connected nowNs))
    | .degraded => applied (c.degradeEndpoint endpoint nowNs)
    | .disconnected => applied (c.disconnect nowNs)
    | .connecting | .authenticating => (.ok .ignored, c)

/-! ## Control messages -/

def trySendControl (message : WireMessage) : CoordinatorResult ι ω Unit :=
  if !c.acceptsInput then (.error .notAdmitted, c)
  else match message.validate with
    | .error error => (.error (.invalidMessage error), c)
    | .ok () => c.offer message

def validateWorkspaceMessage (peer : AdmittedSessionBinding)
    (message : WireMessage) : Except CoordinatorError Unit :=
  if !c.authorized.any fun session => session.binding == peer && session.acceptsInput then
    .error .notAdmitted
  else message.validate.mapError .invalidMessage

/-! ## Handoff, gates and route policy -/

/-- A core operation followed by `drain_remote_cleanup`, both with `?`. -/
def thenDrain (result : CoreResult Unit) (nowNs : ℕ) : CoordinatorResult ι ω Unit :=
  match c.liftCore result with
  | (.error error, c) => (.error error, c)
  | (.ok (), c) => c.drainRemoteCleanup nowNs

def beginPointerHandoff : CoordinatorResult ι ω Unit :=
  match c.liftCore (c.core.beginPointerHandoff nowNs) with
  | (.error error, c) => (.error error, c)
  | (.ok (), c) =>
    match c.drainRemoteCleanup nowNs with
    | (.ok (), c) => (.ok (), c)
    | (.error error, c) => (.error error, { c with core := c.core.cancelPointerHandoff nowNs })

def beginDestinationHandoffBarrier : CoordinatorResult ι ω Unit :=
  match c.liftCore (c.core.beginPointerHandoff nowNs) with
  | (.error error, c) => (.error error, c)
  | (.ok (), c) =>
    match c.drainRemoteCleanup nowNs with
    | (.ok (), c) => (.ok (), c)
    | (.error error, c) =>
      (.error error, { c with core := c.core.abortDestinationHandoffBarrier nowNs })

def cancelPointerHandoff : PeerSessionCoordinator ι ω :=
  { c with core := c.core.cancelPointerHandoff nowNs }

def abortDestinationHandoffBarrier : PeerSessionCoordinator ι ω :=
  { c with core := c.core.abortDestinationHandoffBarrier nowNs }

def finishPointerHandoff (workspace : WorkspaceState) (nowNs : ℕ) : CoordinatorResult ι ω Unit :=
  let (finished, core) := c.core.finishPointerHandoff workspace nowNs
  let c := { c with core }
  match finished with
  | .ok () => (.ok (), c)
  | .error .cleanupPending =>
    match c.drainRemoteCleanup nowNs with
    | (.error error, c) => (.error error, c)
    | (.ok (), c) =>
      let (retried, core) := c.core.finishPointerHandoff workspace nowNs
      (retried.mapError fun _ => .workspaceUpdate, { c with core })
  | .error _ => (.error .workspaceUpdate, c)

def clearWorkspaceRoutingReady : CoordinatorResult ι ω Unit :=
  c.thenDrain (c.core.clearWorkspaceRoutingReady nowNs) nowNs

def markWorkspaceRoutingReady : CoordinatorResult ι ω Unit :=
  c.liftCore (c.core.markWorkspaceRoutingReady nowNs)

def lifecycleTick : Bool × PeerSessionCoordinator ι ω :=
  let (changed, core) := c.core.tick nowNs
  (changed, { c with core })

def triggerCaptureEmergency : CoordinatorResult ι ω Unit :=
  match c.liftCore (c.core.triggerEmergency nowNs) with
  | (.error error, c) => (.error error, c)
  | (.ok (), c) =>
    let (injectionResult, c) := c.releaseAllInbound nowNs
    let (outboundResult, c) := c.drainRemoteCleanup nowNs
    (combineCleanupResults injectionResult outboundResult, c)

def gateLocalDevices (devices : List DeviceId) (nowNs : ℕ) : CoordinatorResult ι ω Unit :=
  c.thenDrain (c.core.gateLocalDevices devices nowNs) nowNs

def restoreLocalDevice (device : DeviceId) (nowNs : ℕ) : CoordinatorResult ι ω Unit :=
  c.liftCore (c.core.restoreLocalDevice device nowNs)

def retryRoutePolicyUpdate :
    Except RoutePolicyCoordinatorError RoutePolicyUpdateStatus × PeerSessionCoordinator ι ω :=
  match c.drainRemoteCleanup nowNs with
  | (.error _, c) => (.error .delivery, c)
  | (.ok (), c) =>
    let (status, core) := c.core.retryRoutePolicyUpdate nowNs
    (status.mapError .policy, { c with core })

def prepareRoutePolicyUpdate (candidate : Config) (expectedRevision nowNs : ℕ) :
    Except RoutePolicyCoordinatorError RoutePolicyUpdateStatus × PeerSessionCoordinator ι ω :=
  let (status, core) := c.core.prepareRoutePolicyUpdate candidate expectedRevision nowNs
  let c := { c with core }
  match status with
  | .error error => (.error (.policy error), c)
  | .ok .cleanupPending => c.retryRoutePolicyUpdate nowNs
  | .ok .readyToPersist => (.ok .readyToPersist, c)

def commitRoutePolicyUpdate (revision nowNs : ℕ) :
    Except RoutePolicyUpdateError ℕ × PeerSessionCoordinator ι ω :=
  let (committed, core) := c.core.commitRoutePolicyUpdate revision nowNs
  (committed, { c with core })

def abortRoutePolicyUpdate (revision nowNs : ℕ) :
    Except RoutePolicyUpdateError Unit × PeerSessionCoordinator ι ω :=
  let (aborted, core) := c.core.abortRoutePolicyUpdate revision nowNs
  (aborted, { c with core })

/-! ## Routing captured input -/

/-- `dispatch_remote_effect` (lines 1635–1657). -/
def dispatchRemoteEffect (effect : RemoteInputEffect) : CoordinatorResult ι ω ℕ :=
  match c.authorized with
  | none => (.error .notAdmitted, c)
  | some session =>
    if !session.acceptsInput then (.error .notAdmitted, c)
    else if effect.endpoint ≠ session.endpoint ∨ effect.endpoint.hostId ≠ c.expected.hostId then
      (.error .wrongActionTarget, c)
    else match inputToWire effect.event with
      | .error error => (.error (.wire error), c)
      | .ok input =>
        match c.nextOutboundSequence with
        | (.error error, c) => (.error error, c)
        | (.ok acceptedSequence, c) =>
          match c.offer (.input { input with sequence := acceptedSequence }) with
          | (.error error, c) => (.error error, c)
          | (.ok (), c) => (.ok acceptedSequence, c)

/-- What `route_captured` returns. -/
abbrev CapturedResult : Type := Except CoordinatorCaptureFailure CaptureOutcome

/-- The `Remote` arm of `route_captured`: once the FIFO has the frame, the
    event is suppressed even if the confirmation fails. -/
def routeRemote (effect : RemoteInputEffect) (nowNs : ℕ) :
    CapturedResult × PeerSessionCoordinator ι ω :=
  match c.dispatchRemoteEffect effect with
  | (.ok acceptedSequence, c) =>
    let (confirmed, core) := c.core.confirmRemoteInput effect acceptedSequence nowNs
    (confirmed.mapError fun error => ⟨some .remoteQueued, .core error⟩,
      { c with core, committed := c.committed ++ [core] })
  | (.error error, c) =>
    let (failed, core) := c.core.failRemoteInput effect nowNs
    (.error ⟨failed.toOption, error⟩, { c with core })

/-- The `Fault` arm of `route_captured`. -/
def routeFault (outcome : CaptureOutcome) (error : CoreCaptureError) (nowNs : ℕ) :
    CapturedResult × PeerSessionCoordinator ι ω :=
  if outcome.failsafeActivated then
    match c.releaseAllInbound nowNs with
    | (.ok (), c) => (.error ⟨some outcome, .core error⟩, c)
    | (.error releaseError, c) => (.error ⟨some outcome, releaseError⟩, c)
  else (.error ⟨some outcome, .core error⟩, c)

/-- The `Local` and `Inert` arm of `route_captured`. -/
def routeSettled (outcome : CaptureOutcome) (nowNs : ℕ) :
    CapturedResult × PeerSessionCoordinator ι ω :=
  let (inboundResult, c) := if outcome.failsafeActivated then c.releaseAllInbound nowNs
    else (.ok (), c)
  let (outboundResult, c) := c.drainRemoteCleanup nowNs
  match combineCleanupResults inboundResult outboundResult with
  | .ok () => (.ok outcome, c)
  | .error error => (.error ⟨some outcome, error⟩, c)

/-- `route_captured` (lines 777–874). -/
def routeCaptured (captured : CapturedInput) (nowNs : ℕ) :
    CapturedResult × PeerSessionCoordinator ι ω :=
  let (decision, core) := c.core.prepareCaptured captured nowNs
  let c := { c with core }
  match decision with
  | .error error => (.error ⟨none, .core error⟩, c)
  | .ok (.fault outcome error) => c.routeFault outcome error nowNs
  | .ok (.local outcome) | .ok (.inert outcome) => c.routeSettled outcome nowNs
  | .ok (.remote effect) => c.routeRemote effect nowNs

/-- The disposition that the platform callback gets from `route_captured`
    (`route_selected_capture`, `peer_manager.rs`): an error without an outcome
    lets the event pass. -/
def routedDisposition (result : CapturedResult) : CaptureDisposition :=
  match result with
  | .ok outcome => outcome.disposition
  | .error failure => (failure.outcome.map (·.disposition)).getD .allowLocal

end Parameters

end PeerSessionCoordinator

/-! ## A sample session -/

/-- An injection backend that accepts and records everything. -/
structure Recorder where
  injected : List InputEvent

instance : OutputInjectionBackend Recorder where
  inject recorder event := (true, ⟨recorder.injected ++ [event]⟩)

namespace Sample

/-- The identity under which a host is paired. -/
def identity (host : HostId) : PeerIdentity := ⟨⟨5⟩, host, "b", List.replicate 32 0xaa⟩

def hello (host : HostId) : HelloV1 := ⟨host, ⟨5⟩, "b", .macOs, 1, 3, "0", 1⟩

/-- The binding that `local` has for its session with `remote`. -/
def binding (localHost remoteHost : HostId) : AdmittedSessionBinding :=
  ⟨⟨remoteHost, ⟨5⟩, List.replicate 32 0xaa⟩, hello localHost, hello remoteHost, 3, 9⟩

end Sample

end SoftwareKvm
