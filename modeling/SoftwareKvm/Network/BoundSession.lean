import SoftwareKvm.Lib.Step
import SoftwareKvm.Network.Generation

/-!
# A session bound to its generation

Models of `GenerationBoundPeerSession::run` and its helpers
(`kvm-network/src/peer.rs`, lines 1053–1340): the relay that takes the events of
one session, binds them to the generation of the session and passes them on
through a bounded channel. The one `PendingConnection` of the session moves
between the relay, the events it passes on and the error it returns.

The session itself is a parameter: the events it emits while it runs, those
that are still in the internal channel when it ends, and its result. Whether
the channel takes an event is an arbitrary function of the number of events
offered before. The generation of an event that carries the token is read off
the token, which is where `run` takes it from.

* `relayEvent_spec`: one event either leaves the token where it was, moves it
  into a delivered admission, or ends the run with the token in the error.
* `run_conserves_token`: for every session, every result and every pattern of
  refusals the token comes out exactly once, and applying what was delivered
  and then what was returned to the gate of the token leaves nothing pending.
-/

namespace SoftwareKvm

open Lib

inductive SessionEnd
  | shutdown
  | outboundClosed

/-- `SessionError`; the relay does not read what the variants carry. -/
inductive SessionError
  | network
  | admission
  | transportIdentityMismatch
  | localIdentityMismatch
  | peerIdentityCollision
  | noncanonicalDirection
  | noCompatibleProtocolVersion
  | invalidSessionBinding
  | preAdmissionMessage
  | repeatedHandshake
  | messageIdentityMismatch
  | heartbeat
  | heartbeatTimeout
  | admissionTimeout
  | queueFull
  | eventChannelFull
  | eventChannelClosed
  deriving DecidableEq

structure GenerationBoundSessionError where
  error : SessionError
  terminalEvent : Option GenerationBoundPeerEvent

/-- The variables of `run`, the events in its outgoing channel and the number
    of events offered to the channel so far. -/
structure BoundRelay where
  pending : Option PendingConnection
  admitted : Bool
  delivered : List GenerationBoundPeerEvent
  offered : ℕ

/-! ## Events -/

variable (generation : ConnectionGeneration)

/-- An event of an active generation. -/
def activeEvent (event : PeerEvent) : GenerationBoundPeerEvent :=
  ⟨generation, .active, some event, nofun, nofun⟩

def activeTerminationEvent : GenerationBoundPeerEvent :=
  activeEvent generation .disconnected

variable (token : PendingConnection)

/-- The event that hands the token over to the gate. -/
def admissionEvent (peer : AdmittedSessionBinding) : GenerationBoundPeerEvent where
  generation := token.generation
  state := .admission token
  event := some (.admitted peer)
  bound := fun _ h => by cases h; rfl
  admits := fun _ _ => ⟨peer, rfl⟩

/-- An event that returns the token to the gate: `cancelled_event`, and the
    terminal event before the admission. -/
def cancellation (event : Option PeerEvent) : GenerationBoundPeerEvent where
  generation := token.generation
  state := .cancelled token
  event := event
  bound := fun _ h => by cases h; rfl
  admits := nofun

def cancelledEvent : GenerationBoundPeerEvent :=
  cancellation token none

@[simp] theorem activeEvent_state (event : PeerEvent) :
    (activeEvent generation event).state = .active := rfl

@[simp] theorem activeTerminationEvent_state :
    (activeTerminationEvent generation).state = .active := rfl

@[simp] theorem admissionEvent_state (peer : AdmittedSessionBinding) :
    (admissionEvent token peer).state = .admission token := rfl

@[simp] theorem cancellation_state (event : Option PeerEvent) :
    (cancellation token event).state = .cancelled token := rfl

/-- What a step of the relay returns. -/
abbrev RelayResult (α : Type) := Except GenerationBoundSessionError α × BoundRelay

abbrev RelayStep := Step GenerationBoundSessionError BoundRelay

namespace BoundRelay

def bindGenerationEvent (generation : ConnectionGeneration) (event : PeerEvent)
    (relay : BoundRelay) : Except SessionError (Option GenerationBoundPeerEvent) × BoundRelay :=
  if relay.admitted then (.ok (some (activeEvent generation event)), relay)
  else match event with
    | .admitted peer =>
      match relay.pending with
      | none => (.error .eventChannelClosed, { relay with admitted := true })
      | some token =>
        (.ok (some (admissionEvent token peer)), { relay with admitted := true, pending := none })
    | _ => (.ok none, relay)

variable (accepts : ℕ → Bool) (event : GenerationBoundPeerEvent)

def trySendBoundEvent (relay : BoundRelay) : Bool × BoundRelay :=
  let offered := relay.offered + 1
  if accepts relay.offered then
    (true, { relay with delivered := relay.delivered ++ [event], offered })
  else (false, { relay with offered })

def reclaimPendingEvent (relay : BoundRelay) : BoundRelay :=
  match event.state with
  | .admission token | .cancelled token => { relay with pending := some token, admitted := false }
  | .pending | .active => relay

variable (generation : ConnectionGeneration)

def boundSessionDeliveryError (relay : BoundRelay)
    (error : SessionError) : GenerationBoundSessionError :=
  ⟨error, (relay.pending.map cancelledEvent).or <|
    if relay.admitted then some (activeTerminationEvent generation) else none⟩

def recoverTerminalEvent (generation : ConnectionGeneration)
    (admitted : Bool) : Option GenerationBoundPeerEvent :=
  match event.state with
  | .cancelled token | .admission token => some (cancelledEvent token)
  | .active => if admitted then some (activeTerminationEvent generation) else none
  | .pending => none

/-- One event of the session (lines 1090–1117 and 1121–1135). -/
def relayEvent (event : PeerEvent) : RelayStep Unit := fun relay =>
  match relay.bindGenerationEvent generation event with
  | (.error error, relay) =>
    (.error ⟨error, relay.pending.map cancelledEvent⟩, { relay with pending := none })
  | (.ok none, relay) => (.ok (), relay)
  | (.ok (some bound), relay) =>
    match relay.trySendBoundEvent accepts bound with
    | (true, relay) => (.ok (), relay)
    | (false, relay) =>
      let relay := relay.reclaimPendingEvent bound
      (.error (relay.boundSessionDeliveryError generation .eventChannelFull),
        { relay with pending := none })

/-- The end of a session without an error (lines 1138–1157). -/
def finishOk (result : SessionEnd) : RelayStep SessionEnd := fun relay =>
  let send (event : GenerationBoundPeerEvent) (relay : BoundRelay) : RelayResult SessionEnd :=
    match relay.trySendBoundEvent accepts event with
    | (true, relay) => (.ok result, relay)
    | (false, relay) => (.error ⟨.eventChannelFull, some event⟩, relay)
  match relay.pending with
  | some token => send (cancelledEvent token) { relay with pending := none }
  | none =>
    if relay.admitted then send (activeTerminationEvent generation) relay else (.ok result, relay)

/-- The last event of a failed session: `bind_terminal_generation_event` with
    its delivery (lines 1188–1202). -/
def finishTerminal (error : SessionError) : RelayStep SessionEnd := fun relay =>
  let send (event : GenerationBoundPeerEvent) (relay : BoundRelay) : RelayResult SessionEnd :=
    match relay.trySendBoundEvent accepts event with
    | (true, relay) => (.error ⟨error, none⟩, relay)
    | (false, relay) =>
      (.error ⟨.eventChannelFull, recoverTerminalEvent event generation relay.admitted⟩, relay)
  if relay.admitted then send (activeTerminationEvent generation) relay
  else match relay.pending with
    | none => (.error ⟨.eventChannelClosed, none⟩, relay)
    | some token => send (cancellation token (some .disconnected)) { relay with pending := none }

/-- The end of a failed session (lines 1158–1203). -/
def finishError (error : SessionError) : RelayStep SessionEnd := fun relay =>
  if error = .eventChannelFull ∨ error = .eventChannelClosed then
    (.error (relay.boundSessionDeliveryError generation error), { relay with pending := none })
  else if relay.admitted then
    let state := activeEvent generation (.stateChanged .disconnected)
    match relay.trySendBoundEvent accepts state with
    | (true, relay) => finishTerminal accepts generation error relay
    | (false, relay) =>
      (.error ⟨.eventChannelFull, recoverTerminalEvent state generation true⟩, relay)
  else finishTerminal accepts generation error relay

/-- The body of `run`: the session emits `events` while it runs and leaves
    `remaining` in the internal channel when it ends with `result`. -/
def relaySession (events remaining : List PeerEvent) (result : Except SessionError SessionEnd) :
    RelayStep SessionEnd := do
  Step.each (relayEvent accepts generation) events
  Step.each (relayEvent accepts generation) remaining
  match result with
  | .ok result => finishOk accepts generation result
  | .error error => finishError accepts generation error

def run (token : PendingConnection) (events remaining : List PeerEvent)
    (result : Except SessionError SessionEnd) : RelayResult SessionEnd :=
  relaySession accepts token.generation events remaining result ⟨some token, false, [], 0⟩

/-- What a run hands out: the delivered events and the one in its error. -/
def outcome (result : RelayResult SessionEnd) : List GenerationBoundPeerEvent :=
  result.2.delivered ++
    match result.1 with
    | .ok _ => []
    | .error error => error.terminalEvent.toList

end BoundRelay

/-- The tokens that a list of events carries. -/
def carriedTokens (events : List GenerationBoundPeerEvent) : List PendingConnection :=
  events.filterMap (·.state.token)

/-- The gate after the events have been applied to it in order. -/
def ConnectionGenerationGate.applyAll (gate : ConnectionGenerationGate)
    (events : List GenerationBoundPeerEvent) : ConnectionGenerationGate :=
  events.foldl (fun gate event => (event.apply gate).2) gate

/-! ## What the gate makes of the events -/

namespace ConnectionGenerationGate

variable (gate : ConnectionGenerationGate)

/-- The gate waits for the token. -/
def Awaits (token : PendingConnection) : Prop :=
  token.gateInstanceId = gate.gateInstanceId ∧ gate.pending = some token.generation

end ConnectionGenerationGate

/-! ## Where the token is -/

namespace BoundRelay

variable {gate : ConnectionGenerationGate} {token : PendingConnection}

/-- The events carry the token once, and the gate has nothing pending after them. -/
structure Settled (gate : ConnectionGenerationGate) (token : PendingConnection)
    (events : List GenerationBoundPeerEvent) : Prop where
  tokens : carriedTokens events = [token]
  pending : (gate.applyAll events).pending = none

/-- During a run the token is in the relay and nothing was delivered, or it was
    delivered in an admission. -/
inductive Relaying (gate : ConnectionGenerationGate) (token : PendingConnection)
    (relay : BoundRelay) : Prop
  | waiting (hpending : relay.pending = some token) (hadmitted : relay.admitted = false)
      (hdelivered : relay.delivered = [])
  | admitted (hpending : relay.pending = none) (hadmitted : relay.admitted = true)
      (hsettled : Settled gate token relay.delivered)

/-- What a step leaves behind: a relay that goes on, or a settled outcome. -/
def Conserves (gate : ConnectionGenerationGate) (token : PendingConnection)
    (result : RelayResult Unit) : Prop :=
  match result.1 with
  | .ok () => Relaying gate token result.2
  | .error error => Settled gate token (result.2.delivered ++ error.terminalEvent.toList)

theorem settled_admission (h : gate.Awaits token) (peer : AdmittedSessionBinding) :
    Settled gate token [admissionEvent token peer] := by
  refine ⟨rfl, ?_⟩
  have hactive : gate.active = none := gate.exclusive.resolve_left (by simp [h.2])
  have hfresh : ¬(token.gateInstanceId ≠ gate.gateInstanceId
      ∨ gate.pending ≠ some token.generation) := by simp [h.1, h.2]
  change ((admissionEvent token peer).apply gate).2.pending = none
  simp [GenerationBoundPeerEvent.apply, admissionEvent, ConnectionGenerationGate.activate,
    hfresh, hactive]

theorem settled_cancellation (h : gate.Awaits token) (event : Option PeerEvent) :
    Settled gate token [cancellation token event] := by
  refine ⟨rfl, ?_⟩
  change ((cancellation token event).apply gate).2.pending = none
  simp [GenerationBoundPeerEvent.apply, cancellation,
    ConnectionGenerationGate.cancelPending, h.1, h.2]

theorem settled_cancelledEvent (h : gate.Awaits token) :
    Settled gate token [cancelledEvent token] := settled_cancellation h none

/-- Events of the active generation add nothing. -/
theorem Settled.concat {events : List GenerationBoundPeerEvent} (h : Settled gate token events)
    (generation : ConnectionGeneration) (event : PeerEvent) :
    Settled gate token (events ++ [activeEvent generation event]) where
  tokens := by
    simpa [carriedTokens, activeEvent, GenerationBoundPeerEventState.token] using h.tokens
  pending := by
    rw [ConnectionGenerationGate.applyAll, List.foldl_append, List.foldl_cons, List.foldl_nil]
    unfold GenerationBoundPeerEvent.apply activeEvent
    simp only
    split <;> exact h.pending

theorem Settled.terminated {events : List GenerationBoundPeerEvent}
    (h : Settled gate token events) (generation : ConnectionGeneration) :
    Settled gate token (events ++ [activeTerminationEvent generation]) :=
  h.concat generation .disconnected

variable {relay : BoundRelay}

section

variable (hgate : gate.Awaits token)

include hgate

variable (accepts : ℕ → Bool)

/-- One event of the session. -/
theorem relayEvent_spec (event : PeerEvent) (h : Relaying gate token relay) :
    Conserves gate token (relayEvent accepts token.generation event relay) := by
  obtain ⟨pending, admitted, delivered, offered⟩ := relay
  cases h with
  | waiting hpending hadmitted hdelivered =>
    subst hpending hadmitted hdelivered
    cases event with
    | admitted peer =>
      cases haccepts : accepts offered with
      | true =>
        simpa [relayEvent, bindGenerationEvent, trySendBoundEvent, haccepts, Conserves]
          using Relaying.admitted rfl rfl (settled_admission hgate peer)
      | false =>
        simpa [relayEvent, bindGenerationEvent, trySendBoundEvent, haccepts, Conserves,
          reclaimPendingEvent, boundSessionDeliveryError]
          using settled_cancelledEvent hgate
    | stateChanged state => exact .waiting rfl rfl rfl
    | message peer message => exact .waiting rfl rfl rfl
    | pointerDatagram peer input => exact .waiting rfl rfl rfl
    | disconnected => exact .waiting rfl rfl rfl
    | reconnectScheduled delay => exact .waiting rfl rfl rfl
  | admitted hpending hadmitted hsettled =>
    subst hpending hadmitted
    cases haccepts : accepts offered with
    | true =>
      simpa [relayEvent, bindGenerationEvent, trySendBoundEvent, haccepts, Conserves]
        using Relaying.admitted rfl rfl (hsettled.concat token.generation event)
    | false =>
      simpa [relayEvent, bindGenerationEvent, trySendBoundEvent, haccepts, Conserves,
        reclaimPendingEvent, boundSessionDeliveryError]
        using hsettled.terminated token.generation

/-- A list of events. -/
theorem relayEvents_spec (events : List PeerEvent) (h : Relaying gate token relay) :
    Conserves gate token (Step.each (relayEvent accepts token.generation) events relay) := by
  induction events generalizing relay with
  | nil => exact h
  | cons event events ih =>
    have hevent := relayEvent_spec hgate accepts event h
    rw [Step.each, Step.bind_apply]
    generalize relayEvent accepts token.generation event relay = result at hevent ⊢
    obtain ⟨_ | _, relay'⟩ := result
    · exact hevent
    · exact ih hevent

theorem finishOk_spec (result : SessionEnd) (h : Relaying gate token relay) :
    Settled gate token (outcome (finishOk accepts token.generation result relay)) := by
  obtain ⟨pending, admitted, delivered, offered⟩ := relay
  cases h with
  | waiting hpending hadmitted hdelivered =>
    subst hpending hadmitted hdelivered
    cases haccepts : accepts offered <;>
      simpa [finishOk, trySendBoundEvent, haccepts, outcome] using settled_cancelledEvent hgate
  | admitted hpending hadmitted hsettled =>
    subst hpending hadmitted
    cases haccepts : accepts offered <;>
      simpa [finishOk, trySendBoundEvent, haccepts, outcome]
        using hsettled.terminated token.generation

theorem finishTerminal_spec (error : SessionError) (h : Relaying gate token relay) :
    Settled gate token (outcome (finishTerminal accepts token.generation error relay)) := by
  obtain ⟨pending, admitted, delivered, offered⟩ := relay
  cases h with
  | waiting hpending hadmitted hdelivered =>
    subst hpending hadmitted hdelivered
    cases haccepts : accepts offered with
    | true =>
      simpa [finishTerminal, trySendBoundEvent, haccepts, outcome]
        using settled_cancellation hgate (some .disconnected)
    | false =>
      simpa [finishTerminal, trySendBoundEvent, haccepts, outcome, recoverTerminalEvent]
        using settled_cancelledEvent hgate
  | admitted hpending hadmitted hsettled =>
    subst hpending hadmitted
    cases haccepts : accepts offered <;>
      simpa [finishTerminal, trySendBoundEvent, haccepts, outcome, recoverTerminalEvent]
        using hsettled.terminated token.generation

theorem finishError_spec (error : SessionError) (h : Relaying gate token relay) :
    Settled gate token (outcome (finishError accepts token.generation error relay)) := by
  unfold finishError
  split_ifs with hchannel hadmitted
  · -- The inner session already found its own event channel unusable.
    cases h with
    | waiting hpending hadmitted hdelivered =>
      simpa [outcome, boundSessionDeliveryError, hpending, hdelivered]
        using settled_cancelledEvent hgate
    | admitted hpending hadmitted hsettled =>
      simpa [outcome, boundSessionDeliveryError, hpending, hadmitted]
        using hsettled.terminated token.generation
  · cases h with
    | waiting _ hwaiting _ => simp [hwaiting] at hadmitted
    | admitted hpending _ hsettled =>
      have hstate := hsettled.concat token.generation (.stateChanged .disconnected)
      cases haccepts : accepts relay.offered with
      | true =>
        simp only [trySendBoundEvent, haccepts, if_true]
        exact finishTerminal_spec hgate accepts error (.admitted hpending hadmitted hstate)
      | false =>
        simpa [trySendBoundEvent, haccepts, outcome, recoverTerminalEvent]
          using hsettled.terminated token.generation
  · exact finishTerminal_spec hgate accepts error h

end

/-- Over every session and every pattern of refusals of the channel, the token
    comes out of a run exactly once, and the gate that minted it has nothing
    pending once everything that came out is applied to it. -/
theorem run_conserves_token {gate minting : ConnectionGenerationGate}
    {direction : ConnectionDirection} {token : PendingConnection}
    (hminted : minting.beginPending direction = (.ok token, gate)) (accepts : ℕ → Bool)
    (events remaining : List PeerEvent) (result : Except SessionError SessionEnd) :
    carriedTokens (outcome (run accepts token events remaining result)) = [token] ∧
      (gate.applyAll (outcome (run accepts token events remaining result))).pending = none := by
  have hgate : gate.Awaits token := by
    unfold ConnectionGenerationGate.beginPending at hminted
    split at hminted
    · cases hminted
    split_ifs at hminted
    · cases hminted
    · cases hminted
    · split at hminted
      · cases hminted
      · cases hminted
        exact ⟨rfl, rfl⟩
  suffices h : Settled gate token (outcome (run accepts token events remaining result)) from
    ⟨h.tokens, h.pending⟩
  have hstart : Relaying gate token ⟨some token, false, [], 0⟩ := .waiting rfl rfl rfl
  have hevents := relayEvents_spec hgate accepts events hstart
  unfold run relaySession
  rw [Step.bind_apply]
  generalize Step.each (relayEvent accepts token.generation) events _ = first at hevents ⊢
  obtain ⟨_ | _, relay⟩ := first
  · exact hevents
  have hremaining := relayEvents_spec hgate accepts remaining hevents
  simp only [Step.bind_apply]
  generalize Step.each (relayEvent accepts token.generation) remaining relay = second
    at hremaining ⊢
  obtain ⟨_ | _, relay⟩ := second
  · exact hremaining
  cases result with
  | ok result => exact finishOk_spec hgate accepts result hremaining
  | error error => exact finishError_spec hgate accepts error hremaining

/-- A session that is admitted and then lost, with a channel that takes two events only. -/
theorem run_conserves_token_lost :
    let minting : ConnectionGenerationGate := ⟨1, .dialer, 1, none, none, .inl rfl, by simp⟩
    let lost (token : PendingConnection) := outcome <| run (· < 2) token
      [.stateChanged .connecting, .admitted (Sample.binding ⟨1⟩ ⟨2⟩), .stateChanged .connected]
      [.stateChanged .degraded] (.error .heartbeatTimeout)
    ∃ token gate, minting.beginPending .outbound = (.ok token, gate) ∧
      carriedTokens (lost token) = [token] ∧ (gate.applyAll (lost token)).pending = none := by
  intro minting lost
  have hminted : ∃ token gate, minting.beginPending .outbound = (.ok token, gate) := ⟨_, _, rfl⟩
  obtain ⟨token, gate, hminted⟩ := hminted
  exact ⟨token, gate, hminted, run_conserves_token hminted _ _ _ _⟩

end BoundRelay

end SoftwareKvm
