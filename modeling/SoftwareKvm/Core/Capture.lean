import SoftwareKvm.Core.State

/-!
# Capture routing and cleanup of `DaemonCore`

`prepare_captured` with its helpers, the settlement of a remote decision
(`confirm_remote_input`, `fail_remote_input`) and the cleanup queue
(`queue_remote_cleanup`, `take_next_cleanup_release`, …), `core.rs`, lines
765–1135 and 1786–2190.

A method on `&mut self` returning `Result` is a function to
`Except ε α × DaemonCore`: the mutated state is kept when the method fails.
-/

namespace SoftwareKvm

open Lib

namespace DaemonCore

/-! ## Cleanup queue -/

/-- A candidate of `queue_remote_cleanup`: a held key and its `last_input_sequence`. -/
abbrev CleanupCandidate := HeldKey × ℕ

/-- Which held controls a cleanup affects. -/
abbrev HeldFilter := DeviceRoute → SessionEndpoint → DeviceId → Bool

variable (c : DaemonCore)

/-- The `candidates` of `queue_remote_cleanup`: affected held controls without
    a queued release, in key order. -/
def cleanupCandidates (affected : HeldFilter) : List CleanupCandidate :=
  let existing := c.cleanup.map CleanupEntry.heldKey
  c.remoteHeld.entries.filterMap fun (key, held) =>
    if affected held.route key.endpoint key.device && !existing.contains key then
      some (key, held.lastInputSequence)
    else none

/-- The cleanup entry with identifier `id` that releases a candidate. -/
def cleanupEntry (id : ℕ) (candidate : CleanupCandidate) : CleanupEntry where
  id := id
  endpoint := candidate.1.endpoint
  coveredInputSequence := candidate.2
  release := ⟨candidate.1.endpoint.hostId, candidate.1.device, candidate.1.control.releasePayload⟩
  control := candidate.1.control

/-- Replace the latch of a held key by `Quarantined` if it is `Remote` with the key's endpoint. -/
def quarantineKey (key : HeldKey) : DaemonCore :=
  match c.latch? key.device key.control with
  | some (.remote held _) =>
    if held = key.endpoint then c.setLatch key.device key.control .quarantined else c
  | _ => c

/-- The loop body of `queue_remote_cleanup`. -/
def pushCleanup (candidate : CleanupCandidate) : DaemonCore :=
  quarantineKey
    { c with
      nextEffectId := c.nextEffectId + 1
      cleanup := c.cleanup ++ [cleanupEntry c.nextEffectId candidate] }
    candidate.1

/-- `queue_remote_cleanup` (lines 2111–2166). -/
def queueRemoteCleanup (affected : HeldFilter) : CoreResult Unit :=
  let candidates := c.cleanupCandidates affected
  if maxPendingRemoteCleanup < c.cleanup.length + candidates.length then
    (.error .capacityExceeded, c)
  else match checkedAdd c.nextEffectId candidates.length with
    | none => (.error .identifierSpaceExhausted, c)
    | some _ => (.ok (), candidates.foldl pushCleanup c)

/-- The `affected` predicate of a full cleanup, `|_, _, _| true`. -/
def allHeld : HeldFilter := fun _ _ _ => true

/-- The `affected` predicate of a handoff: routes that follow the active host. -/
def followsActiveHost : HeldFilter :=
  fun route _ _ => route == .followActiveHost

/-- `fail_closed` (lines 2102–2109). -/
def failClosed (nowNs : ℕ) : CoreResult Unit :=
  let (queued, c) := c.closeGate.queueRemoteCleanup allHeld
  (queued, c.publish nowNs)

/-- `take_next_cleanup_release` (lines 1870–1884). -/
def takeNextCleanupRelease : Option CleanupReleaseEffect × DaemonCore :=
  if c.cleanupInFlight.isSome then (none, c)
  else match c.cleanup.head? with
    | none => (none, c)
    | some entry =>
      (some ⟨entry.id, entry.endpoint, entry.coveredInputSequence, entry.release⟩,
        { c with cleanupInFlight := some entry.id })

/-- Whether `effect` is the release in flight and the head of the queue. -/
def cleanupIsCurrent (effect : CleanupReleaseEffect) : Bool :=
  c.cleanupInFlight == some effect.cleanupId
    && c.cleanup.head?.map CleanupEntry.id == some effect.cleanupId

/-- `confirm_cleanup_release` (lines 1890–1921). -/
def confirmCleanupRelease (effect : CleanupReleaseEffect) (nowNs : ℕ) : CoreResult Unit :=
  if c.cleanupIsCurrent effect then
    match c.cleanup with
    | [] => (.error .staleCleanup, c)
    | entry :: rest =>
      (.ok (), publish
        { c with cleanup := rest, cleanupInFlight := none
                 remoteHeld := c.remoteHeld.erase entry.heldKey } nowNs)
  else (.error .staleCleanup, c.unready.publish nowNs)

/-- `retry_cleanup_release` (lines 1927–1953). -/
def retryCleanupRelease (effect : CleanupReleaseEffect) (nowNs : ℕ) : CoreResult Unit :=
  if c.cleanupIsCurrent effect then
    (.ok (), publish { c.closeGate with cleanupInFlight := none } nowNs)
  else (.error .staleCleanup, c.unready.publish nowNs)

/-! ## Failsafe -/

def shortcutKeyPressed (shortcut : ShortcutKey) : Bool :=
  c.physicalControls.values.any fun controls => controls.keys.any fun control =>
    match control with
    | .key key => shortcutMatchesKey shortcut key
    | .button _ => false

def failsafeMatches : Bool := c.config.failsafe.shortcut.all c.shortcutKeyPressed

def anyFailsafeKeyPressed : Bool :=
  c.config.failsafe.shortcut.any c.shortcutKeyPressed

/-- The gate that `activate_failsafe` sets before it attempts cleanup. -/
def suspendRouting (nowNs : ℕ) : DaemonCore :=
  { c.activateLocal with
    suspendedUntilNs :=
      saturatingAdd nowNs (c.config.failsafe.routingSuspendSeconds * 1000000000)
    handoffPending := false }

/-- `activate_failsafe` (lines 1786–1803). -/
def activateFailsafe (nowNs : ℕ) : CoreResult Unit :=
  let (queued, c) := (c.suspendRouting nowNs).queueRemoteCleanup allHeld
  let c := if queued.isOk then c else c.unready
  (queued, c.publish nowNs)

/-! ## Preparing a captured event -/

/-- `ensure_physical_capacity` (lines 2067–2078). -/
def ensurePhysicalCapacity (device : DeviceId) : CoreResult Unit :=
  let existing := c.physicalControls.get? device
  if (existing.isNone && maxPhysicalHeldDevices ≤ c.physicalControls.size)
      || existing.any (maxPhysicalHeldPerDevice ≤ ·.size)
      || maxPhysicalHeldTotal ≤ c.physicalControlCount then
    (.error .capacityExceeded, c.activateLocal.unready)
  else (.ok (), c)

def allocateEffectId : Option ℕ × DaemonCore :=
  match checkedAdd c.nextEffectId 1 with
  | none => (none, c)
  | some next => (some c.nextEffectId, { c with nextEffectId := next })

/-- `remote_target_endpoint` (lines 2080–2091). -/
def remoteTargetEndpoint (target : HostId) (route : DeviceRoute) (nowNs : ℕ) :
    Option SessionEndpoint :=
  match c.endpointAvailability.get? target with
  | none => none
  | some availability =>
    if c.routingShouldBeActive nowNs && (!c.handoffPending || route != .followActiveHost)
        && availability.state.acceptsInput then
      some availability.endpoint
    else none

def remoteEndpointAvailable (endpoint : SessionEndpoint) (route : DeviceRoute) (nowNs : ℕ) : Bool :=
  c.remoteTargetEndpoint endpoint.hostId route nowNs == some endpoint

/-- `matches!(latch, Some(LatchedDestination::Remote { .. }))`. -/
def isRemoteLatch : Option LatchedDestination → Bool
  | some (.remote _ _) => true
  | _ => false

/-- `prepare_remote_effect` (lines 1997–2040). -/
def prepareRemoteEffect (event : InputEvent) (endpoint : SessionEndpoint)
    (control : Option PhysicalControl) (transition : Option PhysicalTransition)
    (previousLatch : Option LatchedDestination) (nowNs : ℕ) : CoreResult CaptureDecision :=
  if transition = some .press && control.isSome && previousLatch.isNone
      && maxRemoteHeldTotal ≤ c.remoteHeld.size then
    (.error .capacityExceeded, (c.failClosed nowNs).2)
  else match c.allocateEffectId with
    | (none, c) =>
      let (cleanup, c) := c.failClosed nowNs
      let outcome := if isRemoteLatch previousLatch then CaptureOutcome.gatedSuppressed
        else CaptureOutcome.allowLocal false .gated
      let error := match cleanup with
        | .error error => error
        | .ok () => .identifierSpaceExhausted
      (.ok (.fault outcome error), c)
    | (some id, c) =>
      let pending : PendingRemoteDecision :=
        ⟨id, event.sourceDevice, control, transition, previousLatch, endpoint⟩
      (.ok (.remote ⟨id, endpoint, event⟩), { c with pendingRemote := some pending })

def deviceRouteIsGated (device : DeviceId) : Bool :=
  decide (device ∈ c.gatedLocalDevices)
    || c.pendingRoutePolicy.any fun pending => decide (device ∈ pending.affectedDevices)

/-- The `match stateful` of `prepare_captured` (lines 818–865): record the
    transition in `physical_controls` and return the previous latch. -/
def recordTransition (device : DeviceId) (stateful : Option ControlTransition) (nowNs : ℕ) :
    CoreResult (Option LatchedDestination) :=
  match stateful with
  | none => (.ok none, c)
  | some (control, .press) =>
    match c.latch? device control with
    | some latch => (.ok (some latch), c)
    | none =>
      match c.ensurePhysicalCapacity device with
      | (.error error, c) => (.error error, (c.failClosed nowNs).2)
      | (.ok (), c) => (.ok none, c.insertLatch device control)
  | some (control, .repeat) => (.ok (c.latch? device control), c)
  | some (control, .release) => (.ok (c.latch? device control), c.removeLatch device control)

/-- The tail of `prepare_captured` for an event that no latch decides (lines 939–982). -/
def prepareUnlatched (event : InputEvent) (control : Option PhysicalControl)
    (transition : Option PhysicalTransition) (previousLatch : Option LatchedDestination)
    (nowNs : ℕ) : CoreResult CaptureDecision :=
  let device := event.sourceDevice
  let route := c.routing.routeFor device
  if c.deviceRouteIsGated device then (.ok (.local (.allowLocal false .gated)), c)
  else if c.handoffPending && route == .followActiveHost then
    let c := match transition, control with
      | some .press, some control => c.setLatch device control .quarantined
      | _, _ => c
    (.ok (.inert .inert), c)
  else match c.routing.destination event c.workspace with
    | .local => (.ok (.local (.allowLocal false .local)), c)
    | .remote target =>
      match c.remoteTargetEndpoint target route nowNs with
      | none => (.ok (.local (.allowLocal false .gated)), c)
      | some endpoint => c.prepareRemoteEffect event endpoint control transition previousLatch nowNs

/-- The routing part of `prepare_captured` (lines 893–982), once the failsafe
    neither triggers nor drains. -/
def prepareRouted (event : InputEvent) (control : Option PhysicalControl)
    (transition : Option PhysicalTransition) (previousLatch : Option LatchedDestination)
    (nowNs : ℕ) : CoreResult CaptureDecision :=
  if (transition = some .repeat || transition = some .release) && previousLatch.isNone then
    (.ok (.local (.allowLocal false .local)), c)
  else
    let latch := previousLatch.or (control.bind (c.latch? event.sourceDevice))
    match latch with
    | some .quarantined => (.ok (.inert .inert), c)
    | some (.remote endpoint latchedRoute) =>
      if c.remoteEndpointAvailable endpoint latchedRoute nowNs then
        c.prepareRemoteEffect event endpoint control transition previousLatch nowNs
      else match c.failClosed nowNs with
        | (.ok (), c) => (.ok (.inert .gatedSuppressed), c)
        | (.error error, c) => (.ok (.fault .gatedSuppressed error), c)
    | some .local =>
      if previousLatch.isSome then (.ok (.local (.allowLocal false .local)), c)
      else c.prepareUnlatched event control transition previousLatch nowNs
    | none => c.prepareUnlatched event control transition previousLatch nowNs

/-- `prepare_captured` from the failsafe test on (lines 867–982). -/
def prepareRecorded (event : InputEvent) (control : Option PhysicalControl)
    (transition : Option PhysicalTransition) (previousLatch : Option LatchedDestination)
    (nowNs : ℕ) : CoreResult CaptureDecision :=
  if c.failsafeMatches && !c.drainFailsafeKeys then
    let outcome := CaptureOutcome.allowLocal true .gated
    match activateFailsafe { c with drainFailsafeKeys := true } nowNs with
    | (.ok (), c) => (.ok (.local outcome), c)
    | (.error error, c) => (.ok (.fault outcome error), c)
  else if c.drainFailsafeKeys then
    let c := if c.anyFailsafeKeyPressed then c else { c with drainFailsafeKeys := false }
    (.ok (.local (.allowLocal false .gated)), c.publish nowNs)
  else c.prepareRouted event control transition previousLatch nowNs

/-- Whether `prepare_captured` tracks an event at all: a physical event of the
    local host from a known device with finite values. -/
def tracksEvent (captured : CapturedInput) : Bool :=
  captured.classification == .physical
    && captured.event.sourceHost == c.workspace.localHost
    && !captured.event.sourceDevice.isNil
    && captured.event.payload.isFinite

/-- `prepare_captured` (lines 772–983). -/
def prepareCaptured (captured : CapturedInput) (nowNs : ℕ) : CoreResult CaptureDecision :=
  if c.pendingRemote.isSome then (.error .unavailable, c)
  else if !c.tracksEvent captured then (.ok (.local (.allowLocal false .local)), c)
  else
    let stateful := PhysicalControl.fromPayload captured.event.payload
    match c.recordTransition captured.event.sourceDevice stateful nowNs with
    | (.error error, c) => (.error error, c)
    | (.ok previousLatch, c) =>
      c.prepareRecorded captured.event (stateful.map Prod.fst) (stateful.map Prod.snd)
        previousLatch nowNs

/-! ## Settling a remote decision -/

/-- `take_matching_remote` (lines 2042–2057). -/
def takeMatchingRemote (decisionId nowNs : ℕ) : CoreResult PendingRemoteDecision :=
  match c.pendingRemote with
  | some pending =>
    if pending.id = decisionId then (.ok pending, { c with pendingRemote := none })
    else (.error .staleDecision, c.closeGate.publish nowNs)
  | none => (.error .staleDecision, c.closeGate.publish nowNs)

/-- The `route` that `confirm_remote_input` records for a press. -/
def confirmedRoute (pending : PendingRemoteDecision) : DeviceRoute :=
  match pending.previousLatch with
  | some (.remote _ route) => route
  | _ => c.routing.routeFor pending.device

/-- `confirm_remote_input` after the pending decision is taken (lines 1005–1057). -/
def confirmTaken (pending : PendingRemoteDecision) (acceptedSequence nowNs : ℕ) :
    CoreResult CaptureOutcome :=
  match pending.control, pending.transition with
  | some control, some .press =>
    let key : HeldKey := ⟨pending.endpoint, pending.device, control⟩
    if !c.remoteHeld.contains key && maxRemoteHeldTotal ≤ c.remoteHeld.size then
      match c.failClosed nowNs with
      | (.error error, c) => (.error error, c)
      | (.ok (), c) => (.error .capacityExceeded, c)
    else
      let route := c.confirmedRoute pending
      let c := { c with remoteHeld := c.remoteHeld.insert key ⟨route, acceptedSequence⟩ }
      let c := c.setLatch pending.device control (.remote pending.endpoint route)
      (.ok .remoteQueued, c.publish nowNs)
  | some control, some .release =>
    let key : HeldKey := ⟨pending.endpoint, pending.device, control⟩
    (.ok .remoteQueued, publish { c with remoteHeld := c.remoteHeld.erase key } nowNs)
  | some control, some .repeat =>
    let key : HeldKey := ⟨pending.endpoint, pending.device, control⟩
    if c.remoteHeld.contains key then
      let remoteHeld := c.remoteHeld.modify key fun held =>
        { held with lastInputSequence := acceptedSequence }
      (.ok .remoteQueued, publish { c with remoteHeld } nowNs)
    else (.error .staleDecision, (c.failClosed nowNs).2)
  | _, _ => (.ok .remoteQueued, c.publish nowNs)

/-- `confirm_remote_input` (lines 990–1058). -/
def confirmRemoteInput (effect : RemoteInputEffect) (acceptedSequence nowNs : ℕ) :
    CoreResult CaptureOutcome :=
  match c.takeMatchingRemote effect.decisionId nowNs with
  | (.error error, c) => (.error error, c)
  | (.ok pending, c) => c.confirmTaken pending acceptedSequence nowNs

/-- `fail_remote_input` after the pending decision is taken
    (lines 1078–1103): a first press falls back to the local host. -/
def failTaken (pending : PendingRemoteDecision) (nowNs : ℕ) : CaptureOutcome × DaemonCore :=
  let c := match pending.transition, pending.previousLatch, pending.control with
    | some .press, none, some control => c.setLatch pending.device control .local
    | _, _, _ => c
  let outcome := if isRemoteLatch pending.previousLatch then CaptureOutcome.gatedSuppressed
    else CaptureOutcome.allowLocal false .gated
  (outcome, (c.failClosed nowNs).2)

/-- `fail_remote_input` (lines 1066–1104). -/
def failRemoteInput (effect : RemoteInputEffect) (nowNs : ℕ) : CoreResult CaptureOutcome :=
  match c.takeMatchingRemote effect.decisionId nowNs with
  | (.error error, c) => (.error error, c)
  | (.ok pending, c) => let (outcome, c) := c.failTaken pending nowNs; (.ok outcome, c)

/-- `process_captured` (lines 1110–1136): every remote decision is failed. -/
def processCaptured (captured : CapturedInput) (nowNs : ℕ) : CaptureOutcome × DaemonCore :=
  match c.prepareCaptured captured nowNs with
  | (.ok (.local outcome), c) | (.ok (.inert outcome), c) | (.ok (.fault outcome _), c) =>
    (outcome, c)
  | (.ok (.remote effect), c) =>
    match c.failRemoteInput effect nowNs with
    | (.ok outcome, c) => (outcome, c)
    | (.error _, c) => (.allowLocal false .gated, c)
  | (.error _, c) => (.allowLocal false .gated, c)

end DaemonCore

end SoftwareKvm
