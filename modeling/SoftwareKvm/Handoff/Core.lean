import SoftwareKvm.Handoff.State

/-!
# Operations of the pointer handoff coordinator

Models of `CoordinatorCore` in `kvm-daemon/src/pointer_handoff.rs` (lines
607–2004): session changes, the proposal of a transition, the four receive
operations, the dispatch of effects and the expiry of pending work.

An operation returns its result and the coordinator it leaves behind, on
failure too. `prepare_operation` and `require_available_session` open every
operation of a session; `withSession` is that opening, and the rest of each
operation is a definition of its own.
-/

namespace SoftwareKvm

open Lib

/-- `EDGES`. -/
def handoffEdges : List Edge := [.left, .right, .top, .bottom]

namespace CoordinatorCore

variable {B : Type} [DecidableEq B] [SessionBinding B]

/-! ## Clock and expiry -/

variable (c : CoordinatorCore B)

/-- The inbound branch of `expire`: a hint uses up its sequence number. -/
def expireInbound : CoordinatorCore B :=
  match c.inbound with
  | none => c
  | some pending =>
    { c with
      inbound := none
      lastInboundSequence :=
        if pending.isHint then pending.leave.transitionId else c.lastInboundSequence
      expiredInbound := some ⟨pending.session, pending.leave, pending.enter⟩ }

/-- What has expired at `nowNs`. -/
def timeouts (nowNs : ℕ) : PointerHandoffTimeouts where
  outbound := c.outbound.any fun pending => pending.deadlineNs ≤ nowNs
  inbound := c.inbound.any fun pending => pending.deadlineNs ≤ nowNs
  reply := c.reply.any fun pending => pending.deadlineNs ≤ nowNs

def expire (nowNs : ℕ) : PointerHandoffTimeouts × CoordinatorCore B :=
  let expired := c.timeouts nowNs
  let c := if expired.outbound then { c with outbound := none } else c
  let c := if expired.inbound then c.expireInbound else c
  let c := if expired.reply then { c with reply := none } else c
  let c := if expired.outbound then c.failLocal else c
  (expired, c)

def advanceClock (nowNs : ℕ) : HandoffResult B Unit :=
  if nowNs < c.lastNowNs then (.error .clockRegressed, c)
  else (.ok (), { c with lastNowNs := nowNs })

def prepareOperation (nowNs : ℕ) : HandoffResult B Unit :=
  match c.advanceClock nowNs with
  | (.error e, c) => (.error e, c)
  | (.ok (), c) => (.ok (), (c.expire nowNs).2)

def pollTimeout (nowNs : ℕ) : HandoffResult B PointerHandoffTimeouts :=
  match c.advanceClock nowNs with
  | (.error e, c) => (.error e, c)
  | (.ok (), c) => (.ok (c.expire nowNs).1, (c.expire nowNs).2)

/-- The opening of an operation of a session: `prepare_operation` followed by
    `require_available_session`. -/
def withSession {α : Type} (session : B) (nowNs : ℕ)
    (body : CoordinatorCore B → HandoffResult B α) : HandoffResult B α :=
  match c.prepareOperation nowNs with
  | (.error e, c) => (.error e, c)
  | (.ok (), c) =>
    match c.requireAvailableSession session with
    | .error e => (.error e, c)
    | .ok () => body c

/-! ## Sessions -/

def bindSession (session : B) : HandoffResult B PointerHandoffStatus :=
  match c.ensureRunning with
  | .error e => (.error e, c)
  | .ok () =>
    if localHostId session ≠ c.workspaceState.localHost
        ∨ remoteHostId session = c.workspaceState.localHost then
      (.error .invalidHost, c)
    else if c.session = some session then (.ok .duplicate, c)
    else
      let c := if c.session.isSome then c.failLocal.clearTransitionState else c
      (.ok .applied,
        { c with
          session := some session
          sessionHealthy := true
          lastOutboundSequence := 0
          lastInboundSequence := 0 })

def markSessionHealthy (session : B) : HandoffResult B PointerHandoffStatus :=
  match c.ensureRunning with
  | .error e => (.error e, c)
  | .ok () =>
    match c.requireSession session with
    | .error e => (.error e, c)
    | .ok () =>
      if c.sessionHealthy then (.ok .duplicate, c)
      else (.ok .applied, { c with sessionHealthy := true })

def degradeSession (session : B) : HandoffResult B PointerHandoffStatus :=
  match c.requireSession session with
  | .error e => (.error e, c)
  | .ok () =>
    let changed := c.sessionHealthy || c.outbound.isSome || c.inbound.isSome
    (.ok (if changed then .cleared else .duplicate),
      ({ c with sessionHealthy := false } : CoordinatorCore B).failLocal.clearTransitionState)

/-- `fail_local` and `clear_transition_state` with the session dropped: the
    common end of `disconnect_session`, `revoke` and `shutdown`. -/
def dropSession : CoordinatorCore B :=
  { c.failLocal.clearTransitionState with session := none, sessionHealthy := false }

def disconnectSession (session : B) : HandoffResult B PointerHandoffStatus :=
  match c.requireSession session with
  | .error e => (.error e, c)
  | .ok () => (.ok .cleared, c.dropSession)

def replaceWorkspace (workspace : ConfiguredWorkspace) (localFallback : LogicalPointer) :
    HandoffResult B PointerHandoffStatus :=
  match c.ensureRunning with
  | .error e => (.error e, c)
  | .ok () =>
    if workspace.epoch ≤ c.workspace.epoch then (.error .invalidWorkspaceEpoch, c)
    else
      match validateLocalFallback c.workspaceState.localHost workspace localFallback with
      | .error e => (.error e, c)
      | .ok () =>
        (.ok .cleared,
          ({ c with workspace, localFallback } : CoordinatorCore B).failLocal.clearTransitionState)

/-! ## Proposals and local observations -/

def nextOutboundSequence : HandoffResult B ℕ :=
  match checkedAdd c.lastOutboundSequence 1 with
  | none => (.error .sequenceExhausted, c.failLocal)
  | some next => (.ok next, c)

/-- The end of `propose_leave`: the sequence number, the deadline and the
    pending record of a transition that may be proposed. -/
def startOutbound (session : B) (transition : ResolvedTransition)
    (nowNs : ℕ) : HandoffResult B (CoreEffect B) :=
  match c.nextOutboundSequence with
  | (.error e, c) => (.error e, c)
  | (.ok transitionId, c) =>
    match c.deadline nowNs with
    | .error e => (.error e, c)
    | .ok deadlineNs =>
      let leave := makeLeave transitionId c.workspace.protocolEpoch transition
      let enter := makeEnter transitionId c.workspace.protocolEpoch transition
      (.ok (c.effect session transitionId .leave (.leave leave)),
        { c with
          lastOutboundSequence := transitionId
          outbound := some {
            session
            transitionId
            deadlineNs
            leave
            enter
            acceptedAck := none
            transition
            phase := .leaveQueued } })

def proposeLeave (session : B) (sourceEdge : Edge) (position : F64)
    (nowNs : ℕ) : HandoffResult B (CoreEffect B) :=
  c.withSession session nowNs fun c =>
    if c.outbound.isSome || c.inbound.isSome then (.error .pendingConflict, c)
    else if !c.hasLocalAuthority
        || c.workspaceState.activeDisplay != c.workspaceState.pointer.displayId then
      (.error .notAuthoritative, c)
    else
      match c.workspace.transition c.workspaceState.activeDisplay sourceEdge position with
      | .error _ => (.error .invalidTransition, c)
      | .ok crossing =>
        let transition := ResolvedTransition.ofWorkspaceTransition crossing
        if transition.sourceHost ≠ c.workspaceState.localHost
            ∨ transition.destinationHost ≠ remoteHostId session then
          (.error .notRemoteTransition, c)
        else c.startOutbound session transition nowNs

def observeLocalPointer (pointer : LogicalPointer) : HandoffResult B PointerHandoffStatus :=
  match c.ensureRunning with
  | .error e => (.error e, c)
  | .ok () =>
    if !c.hasLocalAuthority then (.error .notAuthoritative, c)
    else if c.outbound.isSome || c.inbound.isSome || c.reply.isSome then
      (.error .pendingConflict, c)
    else if c.workspace.ownerOf pointer.displayId != some c.workspaceState.localHost
        || !c.workspace.containsLocalPoint pointer.displayId pointer.position then
      (.error .invalidWorkspaceState, c)
    else if c.workspaceState.pointer = pointer then (.ok .duplicate, c)
    else
      (.ok .applied,
        { c with workspaceState :=
            c.workspaceState.setActivePointer c.workspaceState.localHost pointer })

/-! ## Receiving a leave -/

def classifyInboundSequence (transitionId sequence : ℕ) : HandoffResult B InboundSequence :=
  if transitionId = 0 ∨ transitionId ≠ sequence then (.error .invalidSequence, c)
  else if transitionId = c.lastInboundSequence then (.ok .duplicate, c)
  else
    match checkedAdd c.lastInboundSequence 1 with
    | none => (.error .sequenceExhausted, c.clearTransitionState)
    | some expected =>
      if transitionId < expected then (.error .staleSequence, c)
      else if expected < transitionId then (.error .futureSequence, c)
      else (.ok .next, c)

def duplicateLeave (session : B) (message : PointerLeaveV1) :
    Except PointerHandoffErrorKind PointerHandoffStatus :=
  let pending := c.inbound.any fun p => p.session = session ∧ p.leave = message
  let completed := c.completedInbound.any fun p =>
    p.session = session ∧ p.expectedLeave = some message
  let expired := c.expiredInbound.any fun p => p.session = session ∧ p.leave = message
  if pending || completed || expired then .ok .duplicate else .error .conflictingReplay

/-- The peer has authority, as this side sees it, and owns the display it leaves through. -/
def remoteIsAuthoritative (session : B) (source : DisplayId) : Bool :=
  c.workspaceState.activeHost == remoteHostId session
    && c.workspace.ownerOf source == some (remoteHostId session)

def validateLeaveAuthority (session : B) (message : PointerLeaveV1) :
    Except PointerHandoffErrorKind Unit :=
  if message.workspaceEpoch ≠ c.workspace.protocolEpoch then .error .invalidWorkspaceEpoch
  else if message.sourceHost ≠ remoteHostId session then .error .invalidHost
  else if !c.remoteIsAuthoritative session message.sourceDisplay && !c.hasLocalAuthority then
    .error .notAuthoritative
  else .ok ()

def validateResolvedDestination (transition : ResolvedTransition) :
    Except PointerHandoffErrorKind Unit :=
  match c.session with
  | none => .error .noCurrentSession
  | some session =>
    if transition.sourceHost ≠ remoteHostId session
        ∨ transition.destinationHost ≠ c.workspaceState.localHost then
      .error .notRemoteTransition
    else .ok ()

def resolveLeave (message : PointerLeaveV1) : Except PointerHandoffErrorKind ResolvedTransition :=
  match c.workspace.transition message.sourceDisplay message.edge message.normalizedPosition with
  | .error _ => .error .invalidTransition
  | .ok crossing =>
    let transition := ResolvedTransition.ofWorkspaceTransition crossing
    match c.validateResolvedDestination transition with
    | .error e => .error e
    | .ok () => .ok transition

/-- The end of `receive_leave`: the hint of a leave that is the next one. -/
def startHint (session : B) (message : PointerLeaveV1) (nowNs : ℕ) :
    HandoffResult B PointerHandoffStatus :=
  match c.validateLeaveAuthority session message with
  | .error e => (.error e, c)
  | .ok () =>
    match c.resolveLeave message with
    | .error e => (.error e, c)
    | .ok transition =>
      match c.deadline nowNs with
      | .error e => (.error e, c)
      | .ok deadlineNs =>
        let expectedEnter :=
          makeEnter message.transitionId c.workspace.protocolEpoch transition
        (.ok .applied,
          { c with inbound := some (.hint session deadlineNs message expectedEnter transition) })

def receiveLeave (session : B) (message : PointerLeaveV1) (nowNs : ℕ) :
    HandoffResult B PointerHandoffStatus :=
  c.withSession session nowNs fun c =>
    if c.reply.isSome then (.error .pendingConflict, c)
    else
      match c.classifyInboundSequence message.transitionId message.sequence with
      | (.error e, c) => (.error e, c)
      | (.ok .duplicate, c) => (c.duplicateLeave session message, c)
      | (.ok .next, c) =>
        if c.outbound.isSome then (.error .pendingConflict, c)
        else
          match c.inbound with
          | some pending =>
            (if pending.leave = message then .ok .duplicate else .error .conflictingReplay, c)
          | none => c.startHint session message nowNs

/-! ## Receiving an enter -/

def acceptEnter (session : B) (message : PointerEnterV1)
    (transition : ResolvedTransition) (deadlineNs : ℕ) : CoreEffect B × CoordinatorCore B :=
  let expectedLeave := makeLeave message.transitionId c.workspace.protocolEpoch transition
  let ack := makeAck message c.workspaceState.localHost .accepted
  (c.effect session message.transitionId .acceptedAck (.ack ack),
    { c with
      lastInboundSequence := message.transitionId
      inbound := some (.proposal session deadlineNs expectedLeave message ack transition) })

def acceptEnterFromHint (session : B) (message : PointerEnterV1) : HandoffResult B (CoreEffect B) :=
  match c.inbound with
  | some (.hint pendingSession deadlineNs _ expectedEnter transition) =>
    if pendingSession ≠ session ∨ expectedEnter ≠ message then (.error .conflictingReplay, c)
    else
      let (effect, c) := c.acceptEnter session message transition deadlineNs
      (.ok effect, c)
  | _ => (.error .invalidTransition, { c with inbound := none })

/-- The reply record and the effect that repeat the acknowledgement of an
    accepted enter: a duplicate of `message`. -/
def repeatAck (session : B) (message : PointerEnterV1) (ack : PointerTransitionAckV1) :
    HandoffResult B (CoreEffect B) :=
  match c.deadline c.lastNowNs with
  | .error e => (.error e, c)
  | .ok deadlineNs =>
    (.ok (c.effect session message.transitionId .duplicateAcceptedAck (.ack ack)),
      { c with reply := some {
          session
          transitionId := message.transitionId
          deadlineNs
          purpose := .duplicateAcceptedAck
          enter := message
          message := .ack ack } })

/-- The last branch of `duplicate_enter`: a duplicate of the completed enter. -/
def duplicateCompletedEnter (session : B) (message : PointerEnterV1) :
    HandoffResult B (CoreEffect B) :=
  match c.completedInbound with
  | some completed =>
    if completed.session = session ∧ completed.enter = message then
      if c.reply.isSome then (.error .pendingConflict, c)
      else c.repeatAck session message completed.ack
    else (.error .conflictingReplay, c)
  | none => (.error .conflictingReplay, c)

def duplicateEnter (session : B) (message : PointerEnterV1) : HandoffResult B (CoreEffect B) :=
  if c.expiredInbound.any fun p => p.session = session ∧ p.enter = message then
    (.error .staleEffect, c)
  else
    match c.inbound with
    | some (.proposal pendingSession _ _ enter _ _) =>
      if pendingSession = session ∧ enter = message then (.error .staleEffect, c)
      else c.duplicateCompletedEnter session message
    | some (.prepared preparedSession _ _ enter ack _ _) =>
      if preparedSession = session ∧ enter = message then c.repeatAck session message ack
      else c.duplicateCompletedEnter session message
    | _ => c.duplicateCompletedEnter session message

def rejectionEffect (session : B) (enter : PointerEnterV1) (outcome : PointerTransitionOutcomeV1) :
    HandoffResult B (CoreEffect B) :=
  if c.reply.isSome then (.error .pendingConflict, c)
  else
    let ack := makeAck enter c.workspaceState.localHost outcome
    match c.deadline c.lastNowNs with
    | .error e => (.error e, c.clearTransitionState)
    | .ok deadlineNs =>
      (.ok (c.effect session enter.transitionId .rejectedAck (.ack ack)),
        { c with
          lastInboundSequence := enter.transitionId
          inbound := none
          reply := some {
            session
            transitionId := enter.transitionId
            deadlineNs
            purpose := .rejectedAck
            enter
            message := .ack ack } })

def validateEnterAuthority (session : B) (message : PointerEnterV1) :
    Except PointerHandoffErrorKind Unit :=
  if message.workspaceEpoch ≠ c.workspace.protocolEpoch then .error .invalidWorkspaceEpoch
  else if message.sourceHost ≠ remoteHostId session
      ∨ message.destinationHost ≠ c.workspaceState.localHost then
    .error .invalidHost
  else if c.workspace.ownerOf message.sourceDisplay ≠ some (remoteHostId session)
      ∨ c.workspace.ownerOf message.destinationDisplay ≠ some c.workspaceState.localHost then
    .error .invalidDisplay
  else if !c.remoteIsAuthoritative session message.sourceDisplay && !c.hasLocalAuthority then
    .error .notAuthoritative
  else .ok ()

/-- The outcome that `receive_enter` reports for an error of `validate_enter_authority`. -/
def authorityOutcome : PointerHandoffErrorKind → PointerTransitionOutcomeV1
  | .invalidWorkspaceEpoch => .staleWorkspaceEpoch
  | .invalidDisplay => .unknownDisplay
  | .notAuthoritative => .notAuthoritative
  | .invalidHost => .notAuthoritative
  | _ => .rejected

/-- The crossing over `edge` is the one an enter message describes. -/
def matchingCrossing (message : PointerEnterV1) (edge : Edge) : Option ResolvedTransition :=
  match c.workspace.transition message.sourceDisplay edge message.normalizedPosition with
  | .error _ => none
  | .ok crossing =>
    let candidate := ResolvedTransition.ofWorkspaceTransition crossing
    if candidate.destinationDisplay = message.destinationDisplay
        ∧ candidate.destinationEdge = message.destinationEdge
        ∧ candidate.destinationHost = message.destinationHost
        ∧ candidate.sourceHost = message.sourceHost then
      some candidate
    else none

/-- The loop of `resolve_enter` over the edges still to be tried. -/
def searchCrossing (c : CoordinatorCore B) (message : PointerEnterV1)
    (matched : Option ResolvedTransition) :
    List Edge → Except PointerHandoffErrorKind (Option ResolvedTransition)
  | [] => .ok matched
  | edge :: rest =>
    match c.matchingCrossing message edge with
    | none => searchCrossing c message matched rest
    | some candidate =>
      if matched.isSome then .error .invalidTransition
      else searchCrossing c message (some candidate) rest

def resolveEnter (message : PointerEnterV1) : Except PointerHandoffErrorKind ResolvedTransition :=
  match c.searchCrossing message none handoffEdges with
  | .error e => .error e
  | .ok none => .error .invalidTransition
  | .ok (some transition) =>
    match c.validateResolvedDestination transition with
    | .error e => .error e
    | .ok () => .ok transition

/-- The end of `receive_enter`: an enter with no record of its leave. -/
def enterWithoutHint (session : B) (message : PointerEnterV1)
    (nowNs : ℕ) : HandoffResult B (CoreEffect B) :=
  match c.validateEnterAuthority session message with
  | .error e => c.rejectionEffect session message (authorityOutcome e)
  | .ok () =>
    match c.resolveEnter message with
    | .error e =>
      c.rejectionEffect session message
        (if e = .invalidDisplay then .unknownDisplay else .rejected)
    | .ok transition =>
      match c.deadline nowNs with
      | .error e => (.error e, c)
      | .ok deadlineNs =>
        let (effect, c) := c.acceptEnter session message transition deadlineNs
        (.ok effect, c)

/-- The branch of `receive_enter` for an enter that finds a pending record. -/
def enterWithPending (session : B) (message : PointerEnterV1) (pending : PendingInbound B) :
    HandoffResult B (CoreEffect B) :=
  match pending with
  | .hint pendingSession _ _ expectedEnter _ =>
    if pendingSession = session ∧ expectedEnter = message then c.acceptEnterFromHint session message
    else c.rejectionEffect session message .rejected
  | .proposal pendingSession _ _ enter _ _ =>
    if pendingSession = session ∧ enter = message then (.error .staleEffect, c)
    else c.rejectionEffect session message .rejected
  | .prepared _ _ _ _ _ _ _ => c.rejectionEffect session message .rejected

def receiveEnter (session : B) (message : PointerEnterV1) (nowNs : ℕ) :
    HandoffResult B (CoreEffect B) :=
  c.withSession session nowNs fun c =>
    match c.reply with
    | some reply =>
      (.error (if reply.session = session ∧ reply.enter = message then .staleEffect
        else .pendingConflict), c)
    | none =>
      match c.classifyInboundSequence message.transitionId message.sequence with
      | (.error e, c) => (.error e, c)
      | (.ok .duplicate, c) => c.duplicateEnter session message
      | (.ok .next, c) =>
        if c.outbound.isSome then c.rejectionEffect session message .rejected
        else
          match c.inbound with
          | some pending => c.enterWithPending session message pending
          | none => c.enterWithoutHint session message nowNs

/-! ## Receiving an acknowledgement -/

/-- The end of `receive_ack`: the acknowledgement of the transition that awaits one. -/
def answerOutbound (session : B) (pending : PendingOutbound B) (ack : PointerTransitionAckV1) :
    HandoffResult B (CoreAckOutcome B) :=
  if ack.workspaceEpoch ≠ pending.enter.workspaceEpoch
      ∨ ack.receiverHost ≠ pending.transition.destinationHost
      ∨ ack.activeDisplay ≠ pending.enter.destinationDisplay then
    (.error .conflictingReplay, { c.failLocal with outbound := none })
  else if ack.outcome ≠ .accepted then
    (.ok .rejected,
      { ({ c with outbound := none } : CoordinatorCore B).failLocal with
        completedOutbound := some ⟨session, ack⟩ })
  else
    (.ok (.commit (c.effect pending.session pending.transitionId .commit
        (.commit (makeCommit pending.enter pending.transition)))),
      { c with outbound := some { pending with
          phase := .commitQueued
          acceptedAck := some ack } })

/-- `receive_ack` once no completed transition has the acknowledged number. -/
def ackOutbound (session : B) (ack : PointerTransitionAckV1) : HandoffResult B (CoreAckOutcome B) :=
  match c.outbound with
  | none => (.error (sequenceRelationError ack.transitionId c.lastOutboundSequence), c)
  | some pending =>
    if ack.transitionId ≠ pending.transitionId then
      (.error (sequenceRelationError ack.transitionId pending.transitionId), c)
    else if pending.session ≠ session ∨ pending.phase ≠ .awaitingAck then (.error .staleEffect, c)
    else c.answerOutbound session pending ack

def receiveAck (session : B) (ack : PointerTransitionAckV1) (nowNs : ℕ) :
    HandoffResult B (CoreAckOutcome B) :=
  c.withSession session nowNs fun c =>
    match c.completedOutbound with
    | some completed =>
      if ack.transitionId = completed.ack.transitionId then
        (if completed.session = session ∧ completed.ack = ack then .ok .duplicate
          else .error .conflictingReplay, c)
      else c.ackOutbound session ack
    | none => c.ackOutbound session ack

/-! ## Receiving a commit -/

/-- The end of `receive_commit`: the commit of the prepared transition. -/
def commitPrepared (session : B) (commit : PointerTransitionCommitV1) :
    HandoffResult B PointerHandoffStatus :=
  match c.inbound with
  | some (.prepared preparedSession _ expectedLeave enter ack expected transition) =>
    if preparedSession ≠ session ∨ commit ≠ expected then (.error .conflictingReplay, c)
    else
      (.ok .applied,
        { c with
          inbound := none
          workspaceState := c.workspaceState.setActivePointer transition.destinationHost
            transition.destinationPointer
          localFallback := transition.destinationPointer
          completedInbound := some {
            session := preparedSession
            expectedLeave := some expectedLeave
            enter
            ack
            commit := some expected } })
  | _ => (.error (sequenceRelationError commit.transitionId c.lastInboundSequence), c)

def receiveCommit (session : B) (commit : PointerTransitionCommitV1)
    (nowNs : ℕ) : HandoffResult B PointerHandoffStatus :=
  c.withSession session nowNs fun c =>
    if commit.transitionId = 0 ∨ commit.transitionId ≠ commit.sequence then
      (.error .invalidSequence, c)
    else
      match c.completedInbound with
      | some completed =>
        if completed.commit.any fun previous => previous.transitionId = commit.transitionId then
          (if completed.session = session ∧ completed.commit = some commit then .ok .duplicate
            else .error .conflictingReplay, c)
        else c.commitPrepared session commit
      | none => c.commitPrepared session commit

/-! ## Effects -/

def matchesOutboundEffect (effect : CoreEffect B) : Bool :=
  c.outbound.any fun pending =>
    pending.session = effect.session && pending.transitionId = effect.transitionId
      && match pending.phase, effect.purpose, effect.message with
        | .leaveQueued, .leave, .leave message => message = pending.leave
        | .enterQueued, .enter, .enter message => message = pending.enter
        | .commitQueued, .commit, .commit message =>
          message = makeCommit pending.enter pending.transition
        | .commitDispatching, .commit, .commit message =>
          message = makeCommit pending.enter pending.transition
        | _, _, _ => false

def matchesInboundAckEffect (effect : CoreEffect B) : Bool :=
  match c.inbound with
  | some (.proposal session _ _ enter ack _) =>
    session = effect.session && enter.transitionId = effect.transitionId
      && effect.message = .ack ack
  | _ => false

def matchesReplyEffect (effect : CoreEffect B) : Bool :=
  c.reply.any fun reply =>
    reply.session = effect.session && reply.transitionId = effect.transitionId
      && reply.purpose = effect.purpose
      && match reply.message, effect.message with
        | .ack expected, .ack actual => expected = actual
        | _, _ => false

def validateEffectOwner (effect : CoreEffect B) : Except PointerHandoffErrorKind Unit :=
  if c.owner = effect.owner then .ok () else .error .invalidEffect

def leaveEffectSent (effect : CoreEffect B) : HandoffResult B (CoreEffectCompletion B) :=
  match c.outbound with
  | none => (.error .staleEffect, c)
  | some pending =>
    if pending.session ≠ effect.session ∨ pending.transitionId ≠ effect.transitionId
        ∨ pending.phase ≠ .leaveQueued ∨ effect.message ≠ .leave pending.leave then
      (.error .invalidEffect, c)
    else
      (.ok (.next (c.effect pending.session pending.transitionId .enter (.enter pending.enter))),
        { c with outbound := some { pending with phase := .enterQueued } })

def enterEffectSent (effect : CoreEffect B) : HandoffResult B (CoreEffectCompletion B) :=
  match c.outbound with
  | none => (.error .staleEffect, c)
  | some pending =>
    if pending.session ≠ effect.session ∨ pending.transitionId ≠ effect.transitionId
        ∨ pending.phase ≠ .enterQueued ∨ effect.message ≠ .enter pending.enter then
      (.error .invalidEffect, c)
    else (.ok .sent, { c with outbound := some { pending with phase := .awaitingAck } })

/-- `CoordinatorCore::accepted_ack_sent`: a record that is not a proposal is taken and lost. -/
def acceptedAckSent (effect : CoreEffect B) : HandoffResult B (CoreEffectCompletion B) :=
  match c.inbound with
  | some (.proposal session deadlineNs expectedLeave enter ack transition) =>
    if session ≠ effect.session ∨ enter.transitionId ≠ effect.transitionId
        ∨ effect.message ≠ .ack ack then
      (.error .invalidEffect, c)
    else
      (.ok .sent,
        { c with inbound := some (.prepared session deadlineNs expectedLeave enter ack
            (makeCommit enter transition) transition) })
  | _ => (.error .staleEffect, { c with inbound := none })

def commitEffectSent (effect : CoreEffect B) : HandoffResult B (CoreEffectCompletion B) :=
  if !c.matchesOutboundEffect effect || !c.committing then (.error .staleEffect, c)
  else
    match c.outbound with
    | none => (.error .staleEffect, c)
    | some pending =>
      match pending.acceptedAck with
      | none => (.error .invalidEffect, ({ c with outbound := none } : CoordinatorCore B).failLocal)
      | some ack =>
        (.ok .authorityCommitted,
          { c with
            outbound := none
            workspaceState := c.workspaceState.setActivePointer
              pending.transition.destinationHost pending.transition.destinationPointer
            completedOutbound := some ⟨pending.session, ack⟩ })

def replyEffectSent (effect : CoreEffect B) : HandoffResult B (CoreEffectCompletion B) :=
  if !c.matchesReplyEffect effect then (.error .staleEffect, c)
  else
    match c.reply with
    | none => (.error .staleEffect, c)
    | some reply =>
      let c := { c with reply := none }
      if reply.purpose = .rejectedAck then
        match reply.message, effect.message with
        | .ack ack, .ack _ =>
          (.ok .sent,
            { c with completedInbound := some {
                session := reply.session
                expectedLeave := none
                enter := reply.enter
                ack
                commit := none } })
        | _, _ => (.error .invalidEffect, c)
      else (.ok .sent, c)

/-- The last part of `effect_sent`: what becomes of the record that an effect belongs to. -/
def completeEffect (effect : CoreEffect B) : HandoffResult B (CoreEffectCompletion B) :=
  match effect.purpose with
  | .leave => c.leaveEffectSent effect
  | .enter => c.enterEffectSent effect
  | .acceptedAck => c.acceptedAckSent effect
  | .commit => c.commitEffectSent effect
  | .duplicateAcceptedAck => c.replyEffectSent effect
  | .rejectedAck => c.replyEffectSent effect

def effectSent (effect : CoreEffect B) (nowNs : ℕ) : HandoffResult B (CoreEffectCompletion B) :=
  match c.prepareOperation nowNs with
  | (.error e, c) => (.error e, c)
  | (.ok (), c) =>
    match c.validateEffectOwner effect with
    | .error e => (.error e, c)
    | .ok () =>
      match c.requireAvailableSession effect.session with
      | .error e => (.error e, c)
      | .ok () => c.completeEffect effect

def effectFailed (effect : CoreEffect B) : HandoffResult B PointerHandoffStatus :=
  match c.validateEffectOwner effect with
  | .error e => (.error e, c)
  | .ok () =>
    if c.session ≠ some effect.session then (.error .staleEffect, c)
    else
      match effect.purpose with
      | .leave | .enter | .commit =>
        if !c.matchesOutboundEffect effect then (.error .staleEffect, c)
        else (.ok .cleared, ({ c with outbound := none } : CoordinatorCore B).failLocal)
      | .acceptedAck =>
        if !c.matchesInboundAckEffect effect then (.error .staleEffect, c)
        else (.ok .cleared, { c with inbound := none })
      | .duplicateAcceptedAck | .rejectedAck =>
        if !c.matchesReplyEffect effect then (.error .staleEffect, c)
        else (.ok .noChange, { c with reply := none })

/-- The pending record that an effect of its purpose must match to be sent. -/
def effectMatches (effect : CoreEffect B) : Bool :=
  match effect.purpose with
  | .leave | .enter => c.matchesOutboundEffect effect
  | .acceptedAck => c.matchesInboundAckEffect effect
  | .commit => c.matchesOutboundEffect effect && c.outbound.any (·.phase == .commitQueued)
  | .duplicateAcceptedAck | .rejectedAck => c.matchesReplyEffect effect

def validateEffectReady (effect : CoreEffect B) (nowNs : ℕ) : HandoffResult B Unit :=
  match c.prepareOperation nowNs with
  | (.error e, c) => (.error e, c)
  | (.ok (), c) =>
    match c.validateEffectOwner effect with
    | .error e => (.error e, c)
    | .ok () =>
      match c.requireAvailableSession effect.session with
      | .error e => (.error e, c)
      | .ok () => (if c.effectMatches effect then .ok () else .error .staleEffect, c)

def beginCommitDispatch (effect : CoreEffect B) : HandoffResult B Unit :=
  match c.outbound with
  | none => (.error .staleEffect, c)
  | some pending =>
    if pending.phase ≠ .commitQueued ∨ pending.session ≠ effect.session
        ∨ pending.transitionId ≠ effect.transitionId
        ∨ effect.message ≠ .commit (makeCommit pending.enter pending.transition) then
      (.error .staleEffect, c)
    else (.ok (), { c with outbound := some { pending with phase := .commitDispatching } })

/-- What a call of `dispatch_effect` leaves behind: its result, the coordinator
    and the message that the transport took, if it took one. -/
structure Dispatched (B ε : Type) where
  result : Except (CoreDispatchError ε) (CoreEffectCompletion B)
  core : CoordinatorCore B
  sent : Option PointerControlMessage

/-- The part of `dispatch_effect` after the commit phase has been entered. -/
def dispatchReady {ε : Type} (effect : CoreEffect B) (nowNs : ℕ)
    (dispatch : WireMessage → Bool → Except ε Unit) : Dispatched B ε :=
  match dispatch effect.message.wireMessage c.hasLocalAuthority with
  | .error error =>
    match c.effectFailed effect with
    | (.error e, c) => ⟨.error (.handoff e), c, none⟩
    | (.ok _, c) => ⟨.error (.outbound error), c, none⟩
  | .ok () =>
    match c.effectSent effect nowNs with
    | (.error e, c) => ⟨.error (.handoff e), c, some effect.message⟩
    | (.ok completion, c) => ⟨.ok completion, c, some effect.message⟩

def dispatchEffect {ε : Type} (effect : CoreEffect B) (nowNs : ℕ)
    (dispatch : WireMessage → Bool → Except ε Unit) : Dispatched B ε :=
  match c.validateEffectReady effect nowNs with
  | (.error e, c) => ⟨.error (.handoff e), c, none⟩
  | (.ok (), c) =>
    if effect.purpose = .commit then
      match c.beginCommitDispatch effect with
      | (.error e, c) => ⟨.error (.handoff e), c, none⟩
      | (.ok (), c) => c.dispatchReady effect nowNs dispatch
    else c.dispatchReady effect nowNs dispatch

end CoordinatorCore

end SoftwareKvm
