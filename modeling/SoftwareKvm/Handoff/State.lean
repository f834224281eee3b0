import SoftwareKvm.Topology.Workspace
import SoftwareKvm.Wire.Message

/-!
# State of the pointer handoff coordinator

Models of the types of `kvm-daemon/src/pointer_handoff.rs` (lines 33–560 and
2270–2400): configuration, errors, the records of a pending, completed or
expired transition, the effects handed to the daemon, and the constructors of
the four messages of the protocol.

The coordinator is generic in the session it is bound to, as in the source. A
`PointerHandoffError` is modelled by its kind. The identity of the coordinator
that an effect belongs to (an `Arc<()>` compared by address) is a number. Wire
identifiers and edges are the ones of the model's messages, so the conversions
from and to them are the identity.
-/

namespace SoftwareKvm

open Lib

/-! ## Configuration, errors and results -/

/-- `MAX_POINTER_HANDOFF_TIMEOUT`, in nanoseconds. -/
def maxPointerHandoffTimeoutNs : ℕ := 30000000000

inductive PointerHandoffErrorKind
  | invalidConfig
  | invalidWorkspaceState
  | unavailable
  | noCurrentSession
  | staleSession
  | notAuthoritative
  | notRemoteTransition
  | pendingConflict
  | invalidWorkspaceEpoch
  | invalidHost
  | invalidDisplay
  | invalidTransition
  | invalidSequence
  | staleSequence
  | futureSequence
  | conflictingReplay
  | sequenceExhausted
  | clockRegressed
  | clockOverflow
  | invalidEffect
  | staleEffect
  deriving DecidableEq

/-- `PointerHandoffConfig`: a positive timeout within the safety bound. -/
structure PointerHandoffConfig where
  timeoutNs : ℕ
  positive : 0 < timeoutNs
  bounded : timeoutNs ≤ maxPointerHandoffTimeoutNs

inductive PointerHandoffStatus
  | applied
  | duplicate
  | cleared
  | noChange

structure PointerHandoffTimeouts where
  outbound : Bool
  inbound : Bool
  reply : Bool
  deriving DecidableEq

/-- Something has expired. -/
def PointerHandoffTimeouts.any (t : PointerHandoffTimeouts) : Bool :=
  t.outbound || t.inbound || t.reply

/-- `SessionBinding`: what the coordinator reads of the session it is bound to. -/
class SessionBinding (B : Type) where
  localHostId : B → HostId
  remoteHostId : B → HostId

export SessionBinding (localHostId remoteHostId)

/-- `PointerSessionBinding`, without the identity and the two hello messages
    it is compared by besides the generation and the hosts. -/
structure PointerSessionBinding where
  generation : ℕ
  localHost : HostId
  remoteHost : HostId
  deriving DecidableEq

instance : SessionBinding PointerSessionBinding where
  localHostId := PointerSessionBinding.localHost
  remoteHostId := PointerSessionBinding.remoteHost

inductive CoordinatorLifecycle
  | running
  | revoked
  | shuttingDown
  deriving DecidableEq

/-! ## Transitions and their messages -/

structure ResolvedTransition where
  sourceDisplay : DisplayId
  sourceHost : HostId
  sourceEdge : Edge
  destinationDisplay : DisplayId
  destinationHost : HostId
  destinationEdge : Edge
  normalizedPosition : ℚ
  destinationPointer : LogicalPointer

/-- `ResolvedTransition::from`. -/
def ResolvedTransition.ofWorkspaceTransition (t : WorkspaceTransition) : ResolvedTransition where
  sourceDisplay := t.sourceDisplay
  sourceHost := t.sourceHost
  sourceEdge := t.sourceEdge
  destinationDisplay := t.destinationDisplay
  destinationHost := t.destinationHost
  destinationEdge := t.destinationEdge
  normalizedPosition := t.normalizedPosition
  destinationPointer := ⟨t.destinationDisplay, t.destinationPoint.x, t.destinationPoint.y⟩

def makeLeave (transitionId workspaceEpoch : ℕ) (t : ResolvedTransition) : PointerLeaveV1 where
  transitionId
  workspaceEpoch
  sequence := transitionId
  sourceHost := t.sourceHost
  sourceDisplay := t.sourceDisplay
  edge := t.sourceEdge
  normalizedPosition := .finite t.normalizedPosition

def makeEnter (transitionId workspaceEpoch : ℕ) (t : ResolvedTransition) : PointerEnterV1 where
  transitionId
  workspaceEpoch
  sequence := transitionId
  sourceHost := t.sourceHost
  destinationHost := t.destinationHost
  sourceDisplay := t.sourceDisplay
  destinationDisplay := t.destinationDisplay
  destinationEdge := t.destinationEdge
  normalizedPosition := .finite t.normalizedPosition

def makeAck (enter : PointerEnterV1) (receiverHost : HostId)
    (outcome : PointerTransitionOutcomeV1) : PointerTransitionAckV1 where
  transitionId := enter.transitionId
  workspaceEpoch := enter.workspaceEpoch
  receiverHost
  activeDisplay := enter.destinationDisplay
  outcome

def makeCommit (enter : PointerEnterV1) (t : ResolvedTransition) : PointerTransitionCommitV1 where
  transitionId := enter.transitionId
  workspaceEpoch := enter.workspaceEpoch
  sequence := enter.transitionId
  sourceHost := t.sourceHost
  destinationHost := t.destinationHost
  sourceDisplay := t.sourceDisplay
  destinationDisplay := t.destinationDisplay

inductive PointerControlMessage
  | leave (message : PointerLeaveV1)
  | enter (message : PointerEnterV1)
  | ack (message : PointerTransitionAckV1)
  | commit (message : PointerTransitionCommitV1)
  deriving DecidableEq

def PointerControlMessage.wireMessage : PointerControlMessage → WireMessage
  | .leave message => .pointerLeave message
  | .enter message => .pointerEnter message
  | .ack message => .pointerTransitionAck message
  | .commit message => .pointerTransitionCommit message

/-- The message announces a transition. -/
def PointerControlMessage.isLeave : PointerControlMessage → Bool
  | .leave _ => true
  | .enter _ => false
  | .ack _ => false
  | .commit _ => false

/-! ## Pending work -/

inductive OutboundPhase
  | leaveQueued
  | enterQueued
  | awaitingAck
  | commitQueued
  | commitDispatching
  deriving DecidableEq

structure PendingOutbound (B : Type) where
  session : B
  transitionId : ℕ
  deadlineNs : ℕ
  leave : PointerLeaveV1
  enter : PointerEnterV1
  acceptedAck : Option PointerTransitionAckV1
  transition : ResolvedTransition
  phase : OutboundPhase

inductive PendingInbound (B : Type)
  | hint (session : B) (deadlineNs : ℕ) (leave : PointerLeaveV1) (expectedEnter : PointerEnterV1)
      (transition : ResolvedTransition)
  | proposal (session : B) (deadlineNs : ℕ) (expectedLeave : PointerLeaveV1)
      (enter : PointerEnterV1) (ack : PointerTransitionAckV1) (transition : ResolvedTransition)
  | prepared (session : B) (deadlineNs : ℕ) (expectedLeave : PointerLeaveV1)
      (enter : PointerEnterV1) (ack : PointerTransitionAckV1) (commit : PointerTransitionCommitV1)
      (transition : ResolvedTransition)

namespace PendingInbound

variable {B : Type}

def deadlineNs : PendingInbound B → ℕ
  | .hint _ deadline _ _ _ => deadline
  | .proposal _ deadline _ _ _ _ => deadline
  | .prepared _ deadline _ _ _ _ _ => deadline

/-- `pending_session`. -/
def session : PendingInbound B → B
  | .hint session _ _ _ _ => session
  | .proposal session _ _ _ _ _ => session
  | .prepared session _ _ _ _ _ _ => session

/-- `pending_leave`. -/
def leave : PendingInbound B → PointerLeaveV1
  | .hint _ _ leave _ _ => leave
  | .proposal _ _ expectedLeave _ _ _ => expectedLeave
  | .prepared _ _ expectedLeave _ _ _ _ => expectedLeave

/-- The enter message a pending record expects or has accepted. -/
def enter : PendingInbound B → PointerEnterV1
  | .hint _ _ _ expectedEnter _ => expectedEnter
  | .proposal _ _ _ enter _ _ => enter
  | .prepared _ _ _ enter _ _ _ => enter

def transition : PendingInbound B → ResolvedTransition
  | .hint _ _ _ _ transition => transition
  | .proposal _ _ _ _ _ transition => transition
  | .prepared _ _ _ _ _ _ transition => transition

/-- A leave was received and its enter was not. -/
def isHint : PendingInbound B → Bool
  | .hint _ _ _ _ _ => true
  | .proposal _ _ _ _ _ _ => false
  | .prepared _ _ _ _ _ _ _ => false

end PendingInbound

structure CompletedOutbound (B : Type) where
  session : B
  ack : PointerTransitionAckV1

structure CompletedInbound (B : Type) where
  session : B
  expectedLeave : Option PointerLeaveV1
  enter : PointerEnterV1
  ack : PointerTransitionAckV1
  commit : Option PointerTransitionCommitV1

structure ExpiredInbound (B : Type) where
  session : B
  leave : PointerLeaveV1
  enter : PointerEnterV1

inductive EffectPurpose
  | leave
  | enter
  | acceptedAck
  | duplicateAcceptedAck
  | rejectedAck
  | commit
  deriving DecidableEq

structure PendingReply (B : Type) where
  session : B
  transitionId : ℕ
  deadlineNs : ℕ
  purpose : EffectPurpose
  enter : PointerEnterV1
  message : PointerControlMessage

/-- `CoreEffect`: the capability to send one message. -/
structure CoreEffect (B : Type) where
  owner : ℕ
  session : B
  transitionId : ℕ
  purpose : EffectPurpose
  message : PointerControlMessage
  deriving DecidableEq

inductive CoreEffectCompletion (B : Type)
  | sent
  | authorityCommitted
  | next (effect : CoreEffect B)

inductive CoreAckOutcome (B : Type)
  | duplicate
  | rejected
  | commit (effect : CoreEffect B)

inductive CoreDispatchError (ε : Type)
  | handoff (kind : PointerHandoffErrorKind)
  | outbound (error : ε)

inductive InboundSequence
  | duplicate
  | next

/-! ## The coordinator -/

structure CoordinatorCore (B : Type) where
  owner : ℕ
  config : PointerHandoffConfig
  lifecycle : CoordinatorLifecycle
  session : Option B
  sessionHealthy : Bool
  workspace : ConfiguredWorkspace
  workspaceState : WorkspaceState
  localFallback : LogicalPointer
  lastNowNs : ℕ
  lastOutboundSequence : ℕ
  lastInboundSequence : ℕ
  outbound : Option (PendingOutbound B)
  inbound : Option (PendingInbound B)
  completedOutbound : Option (CompletedOutbound B)
  completedInbound : Option (CompletedInbound B)
  expiredInbound : Option (ExpiredInbound B)
  reply : Option (PendingReply B)

/-- The result of a method and the coordinator after it. -/
abbrev HandoffResult (B α : Type) : Type := Except PointerHandoffErrorKind α × CoordinatorCore B

def validateLocalFallback (localHost : HostId) (workspace : ConfiguredWorkspace)
    (fallback : LogicalPointer) : Except PointerHandoffErrorKind Unit :=
  if localHost.isNil || workspace.ownerOf fallback.displayId != some localHost
      || !workspace.containsLocalPoint fallback.displayId fallback.position then
    .error .invalidWorkspaceState
  else .ok ()

def validateState (workspace : ConfiguredWorkspace) (state : WorkspaceState)
    (localFallback : LogicalPointer) : Except PointerHandoffErrorKind Unit :=
  if state.pointer.displayId != state.activeDisplay
      || workspace.ownerOf state.activeDisplay != some state.activeHost
      || !workspace.containsLocalPoint state.activeDisplay state.pointer.position then
    .error .invalidWorkspaceState
  else validateLocalFallback state.localHost workspace localFallback

namespace CoordinatorCore

variable {B : Type} [DecidableEq B] [SessionBinding B]

/-- `CoordinatorCore::new`; `owner` is the address of the fresh `Arc`. -/
def new (owner : ℕ) (config : PointerHandoffConfig) (workspace : ConfiguredWorkspace)
    (workspaceState : WorkspaceState) (localFallback : LogicalPointer) :
    Except PointerHandoffErrorKind (CoordinatorCore B) :=
  match validateState workspace workspaceState localFallback with
  | .error e => .error e
  | .ok () => .ok {
      owner
      config
      lifecycle := .running
      session := none
      sessionHealthy := false
      workspace
      workspaceState
      localFallback
      lastNowNs := 0
      lastOutboundSequence := 0
      lastInboundSequence := 0
      outbound := none
      inbound := none
      completedOutbound := none
      completedInbound := none
      expiredInbound := none
      reply := none }

variable (c : CoordinatorCore B)

/-- A commit message is being handed to the transport. -/
def committing : Bool :=
  c.outbound.any (·.phase == .commitDispatching)

def hasLocalAuthority : Bool :=
  c.workspaceState.activeHost == c.workspaceState.localHost && !c.committing

def failLocal : CoordinatorCore B :=
  { c with workspaceState :=
      c.workspaceState.setActivePointer c.workspaceState.localHost c.localFallback }

def clearTransitionState : CoordinatorCore B :=
  { c with
    outbound := none
    inbound := none
    completedOutbound := none
    completedInbound := none
    expiredInbound := none
    reply := none }

def ensureRunning : Except PointerHandoffErrorKind Unit :=
  if c.lifecycle = .running then .ok () else .error .unavailable

def requireSession (session : B) : Except PointerHandoffErrorKind Unit :=
  match c.session with
  | none => .error .noCurrentSession
  | some current => if current ≠ session then .error .staleSession else .ok ()

def requireAvailableSession (session : B) : Except PointerHandoffErrorKind Unit :=
  match c.ensureRunning with
  | .error e => .error e
  | .ok () =>
    match c.requireSession session with
    | .error e => .error e
    | .ok () => if c.sessionHealthy then .ok () else .error .unavailable

def deadline (nowNs : ℕ) : Except PointerHandoffErrorKind ℕ :=
  match checkedAdd nowNs c.config.timeoutNs with
  | some deadline => .ok deadline
  | none => .error .clockOverflow

def effect (session : B) (transitionId : ℕ) (purpose : EffectPurpose)
    (message : PointerControlMessage) : CoreEffect B :=
  ⟨c.owner, session, transitionId, purpose, message⟩

def sequenceRelationError (received current : ℕ) : PointerHandoffErrorKind :=
  if received = 0 then .invalidSequence
  else if received ≤ current then .staleSequence
  else .futureSequence

end CoordinatorCore

end SoftwareKvm
