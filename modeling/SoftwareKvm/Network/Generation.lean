import SoftwareKvm.Lib.Runs
import SoftwareKvm.Session.Coordinator

/-!
# Connection generations

Models of `kvm-network/src/connection_role.rs` and of the generation-bound
events of `kvm-network/src/peer.rs` (lines 198–420): the canonical role of a
host, the gate that authorizes one connection generation at a time, its two
tokens, and the events that carry a token to the gate.

The fields of gates, tokens and bound events are private in the source, so
what their constructors and methods guarantee is a field here: a gate never has
both a pending and an active generation, both are its own, and a token belongs
to the gate of its generation.

`CurrentAdmittedSession` (`kvm-daemon/src/supervisor.rs`) is what the daemon
keeps of an admission for as long as its generation is active.
-/

namespace SoftwareKvm

open Lib

/-! ## Roles -/

inductive ConnectionRole
  | dialer
  | listener

inductive ConnectionDirection
  | outbound
  | inbound
  deriving DecidableEq

inductive ConnectionRoleError
  | identityCollision
  | noncanonicalDirection
  deriving DecidableEq

namespace ConnectionRole

/-- `ConnectionRole::for_peers`: the lower identifier dials. -/
def forPeers (localPeerId remotePeerId : PeerId) : Except ConnectionRoleError ConnectionRole :=
  if localPeerId < remotePeerId then .ok .dialer
  else if remotePeerId < localPeerId then .ok .listener
  else .error .identityCollision

def direction : ConnectionRole → ConnectionDirection
  | .dialer => .outbound
  | .listener => .inbound

def validate (role : ConnectionRole) (direction : ConnectionDirection) :
    Except ConnectionRoleError Unit :=
  if role.direction = direction then .ok () else .error .noncanonicalDirection

end ConnectionRole

/-! ## Tokens and the gate -/

structure PendingConnection where
  gateInstanceId : ℕ
  generation : ConnectionGeneration
  direction : ConnectionDirection
  minted : generation.gateInstanceId = gateInstanceId

structure ActiveConnection where
  gateInstanceId : ℕ
  generation : ConnectionGeneration
  direction : ConnectionDirection
  minted : generation.gateInstanceId = gateInstanceId

inductive ConnectionGenerationError
  | role (error : ConnectionRoleError)
  | pendingExists
  | activeExists
  | stalePending
  | staleActive
  | exhausted
  | gateIdentifiersExhausted
  deriving DecidableEq

structure ConnectionGenerationGate where
  gateInstanceId : ℕ
  role : ConnectionRole
  nextGeneration : ℕ
  pending : Option ConnectionGeneration
  active : Option ConnectionGeneration
  exclusive : pending = none ∨ active = none
  minted : ∀ g, pending = some g ∨ active = some g → g.gateInstanceId = gateInstanceId

namespace ConnectionGenerationGate

/-- `ConnectionGenerationGate::new`. The process-wide `NEXT_GATE_INSTANCE_ID`
    is passed in and returned advanced. -/
def new (nextGateInstanceId : ℕ) (localPeerId remotePeerId : PeerId) :
    Except ConnectionGenerationError ConnectionGenerationGate × ℕ :=
  match ConnectionRole.forPeers localPeerId remotePeerId with
  | .error error => (.error (.role error), nextGateInstanceId)
  | .ok role =>
    match checkedAdd nextGateInstanceId 1 with
    | none => (.error .gateIdentifiersExhausted, nextGateInstanceId)
    | some next =>
      (.ok ⟨nextGateInstanceId, role, 1, none, none, .inl rfl, by simp⟩, next)

variable (gate : ConnectionGenerationGate)

def beginPending (direction : ConnectionDirection) :
    Except ConnectionGenerationError PendingConnection × ConnectionGenerationGate :=
  match gate.role.validate direction with
  | .error error => (.error (.role error), gate)
  | .ok () =>
    if gate.pending.isSome then (.error .pendingExists, gate)
    else if h : gate.active.isSome then (.error .activeExists, gate)
    else
      let generation : ConnectionGeneration := ⟨gate.gateInstanceId, gate.nextGeneration⟩
      match checkedAdd gate.nextGeneration 1 with
      | none => (.error .exhausted, gate)
      | some next =>
        (.ok ⟨gate.gateInstanceId, generation, direction, rfl⟩,
          { gate with
            nextGeneration := next
            pending := some generation
            exclusive := .inr (by simpa using h)
            minted := by simp_all [generation] })

def activate (token : PendingConnection) :
    Except ConnectionGenerationError ActiveConnection × ConnectionGenerationGate :=
  if h : token.gateInstanceId ≠ gate.gateInstanceId ∨ gate.pending ≠ some token.generation then
    (.error .stalePending, gate)
  else if gate.active.isSome then (.error .activeExists, gate)
  else
    (.ok ⟨token.gateInstanceId, token.generation, token.direction, token.minted⟩,
      { gate with
        pending := none
        active := some token.generation
        exclusive := .inl rfl
        minted := by
          push Not at h
          simpa using gate.minted _ (.inl h.2) })

/-- The gate after its pending slot has been cleared. -/
def clearPending : ConnectionGenerationGate :=
  { gate with
    pending := none
    exclusive := .inl rfl
    minted := fun g hg => gate.minted g (.inr (by simpa using hg)) }

/-- The gate after its active slot has been cleared. -/
def clearActive : ConnectionGenerationGate :=
  { gate with
    active := none
    exclusive := .inr rfl
    minted := fun g hg => gate.minted g (.inl (by simpa using hg)) }

def cancelPending (token : PendingConnection) :
    Except ConnectionGenerationError Unit × ConnectionGenerationGate :=
  if token.gateInstanceId ≠ gate.gateInstanceId ∨ gate.pending ≠ some token.generation then
    (.error .stalePending, gate)
  else (.ok (), gate.clearPending)

def abandonPending (generation : ConnectionGeneration) :
    Except ConnectionGenerationError Unit × ConnectionGenerationGate :=
  if gate.pending ≠ some generation then (.error .stalePending, gate)
  else (.ok (), gate.clearPending)

def finishActive (token : ActiveConnection) :
    Except ConnectionGenerationError Unit × ConnectionGenerationGate :=
  if token.gateInstanceId ≠ gate.gateInstanceId ∨ gate.active ≠ some token.generation then
    (.error .staleActive, gate)
  else (.ok (), gate.clearActive)

def isActive (generation : ConnectionGeneration) : Bool :=
  gate.active == some generation

def validateActiveGeneration
    (generation : ConnectionGeneration) : Except ConnectionGenerationError Unit :=
  if gate.active = some generation then .ok () else .error .staleActive

@[simp] theorem clearPending_pending : gate.clearPending.pending = none := rfl

@[simp] theorem clearPending_active : gate.clearPending.active = gate.active := rfl

@[simp] theorem clearActive_pending : gate.clearActive.pending = gate.pending := rfl

@[simp] theorem clearActive_active : gate.clearActive.active = none := rfl

end ConnectionGenerationGate

/-! ## Generations over a run -/

/-- A call of a gate. Its token is any value, also one of another gate. -/
inductive GateCall
  | beginPending (direction : ConnectionDirection)
  | activate (token : PendingConnection)
  | cancelPending (token : PendingConnection)
  | abandonPending (generation : ConnectionGeneration)
  | finishActive (token : ActiveConnection)

namespace ConnectionGenerationGate

/-- The gate after a call, whose result is dropped. -/
def call (gate : ConnectionGenerationGate) : GateCall → ConnectionGenerationGate
  | .beginPending direction => (gate.beginPending direction).2
  | .activate token => (gate.activate token).2
  | .cancelPending token => (gate.cancelPending token).2
  | .abandonPending generation => (gate.abandonPending generation).2
  | .finishActive token => (gate.finishActive token).2

/-- The gate has issued the generation and has it neither pending nor active. -/
structure Retired (gate : ConnectionGenerationGate) (g : ConnectionGeneration) : Prop where
  issued : g.sequence < gate.nextGeneration
  pending : gate.pending ≠ some g
  active : gate.active ≠ some g

theorem Retired.call {gate : ConnectionGenerationGate} {g : ConnectionGeneration}
    (h : gate.Retired g) (c : GateCall) : (gate.call c).Retired g := by
  cases c with
  | beginPending direction =>
    dsimp only [ConnectionGenerationGate.call]
    fun_cases beginPending
    case case5 generation next hnext =>
      -- The new generation has the number that was next.
      obtain ⟨rfl, -⟩ := checkedAdd_eq_some.1 hnext
      refine ⟨h.issued.trans (Nat.lt_succ_self _), fun hg => ?_, h.active⟩
      exact h.issued.ne (congrArg ConnectionGeneration.sequence (Option.some.inj hg)).symm
    all_goals exact h
  | activate token =>
    dsimp only [ConnectionGenerationGate.call]
    fun_cases activate
    case case3 htoken _ =>
      push Not at htoken
      exact ⟨h.issued, by simp, fun hg => h.pending (htoken.2.trans hg)⟩
    all_goals exact h
  | cancelPending token =>
    dsimp only [ConnectionGenerationGate.call]
    fun_cases cancelPending
    · exact h
    · exact ⟨h.issued, by simp, h.active⟩
  | abandonPending generation =>
    dsimp only [ConnectionGenerationGate.call]
    fun_cases abandonPending
    · exact h
    · exact ⟨h.issued, by simp, h.active⟩
  | finishActive token =>
    dsimp only [ConnectionGenerationGate.call]
    fun_cases finishActive
    · exact h
    · exact ⟨h.issued, h.pending, by simp⟩

/-- A generation that was cancelled, abandoned or finished is never pending or
    active again, whatever is presented to the gate. -/
theorem retired_execute {gate : ConnectionGenerationGate} {g : ConnectionGeneration}
    (h : gate.Retired g) (calls : List GateCall) : (execute call gate calls).Retired g :=
  @execute_invariant _ _ _ (Retired · g) (fun _ c h => h.call c) _ calls h

/-- An abandoned generation, whose token is still presented. -/
theorem retired_execute_abandoned :
    (execute call ⟨0, .dialer, 2, none, none, .inl rfl, by simp⟩ [.beginPending .outbound,
      .activate ⟨0, ⟨0, 1⟩, .outbound, rfl⟩]).Retired ⟨0, 1⟩ :=
  retired_execute ⟨by decide, by decide, by decide⟩ _

end ConnectionGenerationGate

/-! ## Generation-bound events -/

/-- `PeerEvent`; what a terminal event reports about the session is not read. -/
inductive PeerEvent
  | stateChanged (state : ConnectionState)
  | admitted (peer : AdmittedSessionBinding)
  | message (peer : AdmittedSessionBinding) (message : WireMessage)
  | pointerDatagram (peer : AdmittedSessionBinding) (input : InputEventV1)
  | disconnected
  | reconnectScheduled (delayNs : ℕ)
  deriving DecidableEq

inductive GenerationBoundPeerEventState
  | pending
  | admission (token : PendingConnection)
  | active
  | cancelled (token : PendingConnection)

/-- The token in a state of a bound event. -/
def GenerationBoundPeerEventState.token : GenerationBoundPeerEventState → Option PendingConnection
  | .admission token => some token
  | .cancelled token => some token
  | .pending => none
  | .active => none

/-- `GenerationBoundPeerEvent`; its token is one of its own generation, and
    only an admission event is bound to an admission. -/
structure GenerationBoundPeerEvent where
  generation : ConnectionGeneration
  state : GenerationBoundPeerEventState
  event : Option PeerEvent
  bound : ∀ token, state.token = some token → token.generation = generation
  admits : ∀ token, state = .admission token → ∃ peer, event = some (.admitted peer)

inductive GenerationBoundEventClassification
  | pendingIgnored
  | activated
  | active
  | cancelled
  deriving DecidableEq

inductive AppliedGenerationEventState
  | pendingIgnored
  | activated (token : ActiveConnection)
  | active
  | cancelled

structure AppliedGenerationEvent where
  generation : ConnectionGeneration
  state : AppliedGenerationEventState
  event : Option PeerEvent

namespace GenerationBoundPeerEvent

def classification (bound : GenerationBoundPeerEvent) : GenerationBoundEventClassification :=
  match bound.state with
  | .pending => .pendingIgnored
  | .admission _ => .activated
  | .active => .active
  | .cancelled _ => .cancelled

def apply (bound : GenerationBoundPeerEvent) (gate : ConnectionGenerationGate) :
    Except ConnectionGenerationError AppliedGenerationEvent × ConnectionGenerationGate :=
  let applied (state : AppliedGenerationEventState) : AppliedGenerationEvent :=
    ⟨bound.generation, state, bound.event⟩
  match bound.state with
  | .pending => (.ok (applied .pendingIgnored), gate)
  | .admission token =>
    match gate.activate token with
    | (.error error, gate) => (.error error, gate)
    | (.ok active, gate) => (.ok (applied (.activated active)), gate)
  | .active =>
    match gate.validateActiveGeneration bound.generation with
    | .error error => (.error error, gate)
    | .ok () => (.ok (applied .active), gate)
  | .cancelled token =>
    match gate.cancelPending token with
    | (.error error, gate) => (.error error, gate)
    | (.ok (), gate) => (.ok (applied .cancelled), gate)

end GenerationBoundPeerEvent

/-! ## The current admitted session -/

/-- The position of a generation in its derived order. -/
def ConnectionGeneration.rank (g : ConnectionGeneration) : ℕ ×ₗ ℕ :=
  toLex (g.gateInstanceId, g.sequence)

theorem ConnectionGeneration.rank_injective : Function.Injective ConnectionGeneration.rank := by
  rintro ⟨g, s⟩ ⟨g', s'⟩ h
  simp_all [ConnectionGeneration.rank]

instance : LinearOrder ConnectionGeneration :=
  LinearOrder.lift' ConnectionGeneration.rank ConnectionGeneration.rank_injective

def SessionEndpoint.fromAdmitted (generation : ConnectionGeneration)
    (peer : AdmittedSessionBinding) : Option SessionEndpoint :=
  if h : peer.remoteHello.peerId.isNil = false ∧ peer.remoteHello.hostId.isNil = false ∧
      isSupportedProtocolVersion peer.selectedProtocolVersion = true ∧ peer.sessionId ≠ 0 then
    some ⟨peer.remoteHello.peerId, peer.remoteHello.hostId, generation,
      peer.selectedProtocolVersion, peer.sessionId, h⟩
  else none

structure CurrentAdmittedSession where
  endpoint : SessionEndpoint
  transportIdentity : TransportPeerIdentity
  localHello : HelloV1
  remoteHello : HelloV1
  deriving DecidableEq

namespace CurrentAdmittedSession

def fromAdmitted (generation : ConnectionGeneration) (peer : AdmittedSessionBinding) :
    Option CurrentAdmittedSession :=
  (SessionEndpoint.fromAdmitted generation peer).map fun endpoint =>
    ⟨endpoint, peer.transportIdentity, peer.localHello, peer.remoteHello⟩

def matchesAdmitted (session : CurrentAdmittedSession) (generation : ConnectionGeneration)
    (peer : AdmittedSessionBinding) : Bool :=
  (SessionEndpoint.fromAdmitted generation peer).any (· == session.endpoint)
    && session.transportIdentity == peer.transportIdentity
    && session.localHello == peer.localHello
    && session.remoteHello == peer.remoteHello

def generation (session : CurrentAdmittedSession) : ConnectionGeneration :=
  session.endpoint.generation

def localHostId (session : CurrentAdmittedSession) : HostId := session.localHello.hostId

def remoteHostId (session : CurrentAdmittedSession) : HostId := session.endpoint.hostId

end CurrentAdmittedSession

end SoftwareKvm
