import SoftwareKvm.Handoff.Pair
import SoftwareKvm.Session.Fifo
import SoftwareKvm.Supervisor.Operations

/-!
# Pointer datagrams at a supervisor

What becomes of an authentic pointer move that arrives as a datagram of the
active generation.

Results:
* `handleActiveEvent_eq`: an event of the active generation is delivered, and a
  failed delivery ends the generation.
* `pointerDatagram_kept_iff`: the states in which the move is injected, or at
  least only an injection failure ends the generation.

**Deviation.** `handle_active_event_with_workspace`
(`kvm-daemon/src/supervisor.rs`, lines 644–719) treats every failed delivery
alike. A datagram that arrives while a route policy update is pending, or while
the connection is degraded, retires the session.
-/

namespace SoftwareKvm

open Lib

/-- What made a session fail, without the cleanup that failed after it. -/
def CoordinatorError.trigger : CoordinatorError → CoordinatorError
  | .sessionFailureWithCleanup trigger _ => trigger
  | error => error

namespace PeerSessionCoordinator

variable {ι ω : Type} [OutputInjectionBackend ι] [OutboundPeer ω]

/-- A session fails with the error that made it fail. -/
theorem fails_trigger {α : Type} (c : PeerSessionCoordinator ι ω) (error : CoordinatorError)
    (herror : error.trigger = error) (nowNs : ℕ) :
    ∃ error' c', (c.fails error nowNs : Except CoordinatorError α × _) = (.error error', c')
      ∧ error'.trigger = error := by
  unfold fails failSession
  generalize c.sessionFatalCleanup nowNs = r
  obtain ⟨_ | _, c'⟩ := r
  · exact ⟨_, c', rfl, rfl⟩
  · exact ⟨error, c', rfl, herror⟩

end PeerSessionCoordinator

namespace SupervisedWorkspace

open Step

open PeerSessionCoordinator

variable {ι ω : Type} [OutputInjectionBackend ι] [OutboundPeer ω]

/-! ## Events of the active generation -/

theorem failWorkspaceGeneration_error {α : Type} (generation : ConnectionGeneration)
    (error : WorkspaceControlError) (nowNs : ℕ) (s : SupervisedWorkspace ι ω) :
    ∃ error' s', (failWorkspaceGeneration generation error nowNs : SupervisorStep ι ω α) s
      = (.error error', s') := by
  unfold failWorkspaceGeneration
  rw [bind_apply]
  generalize reconcileFatal generation nowNs s = r
  obtain ⟨error' | _, s'⟩ := r
  · exact ⟨error', s', rfl⟩
  · exact ⟨_, s', rfl⟩

variable {s : SupervisedWorkspace ι ω} {generation : ConnectionGeneration}
  {session : CurrentAdmittedSession} {peer : AdmittedSessionBinding} {event : PeerEvent}
  {input : InputEventV1} {nowNs : ℕ}

/-- An event of the active generation other than its end. -/
theorem handleActiveEvent_eq (hactive : s.supervisor.gate.isActive generation = true)
    (hsession : s.supervisor.currentSession = some session)
    (hrunning : s.supervisor.workspaceReconciliation = none) (hevent : event ≠ .disconnected) :
    handleActiveEvent generation event nowNs s
      = match deliverEvent session generation event nowNs s with
        | (.ok outcome, s') => (.ok (.applied outcome), s')
        | (.error error, s') => failWorkspaceGeneration generation error nowNs s' := by
  unfold handleActiveEvent ifActive
  rw [if_pos hactive, if_neg hevent]
  rw [bind_of_ok (guard_of_true (by simp [hrunning])),
    bind_of_ok (need_of_some (s := s) hsession), bind_apply, orFail,
    bind_apply]
  unfold attempt
  generalize deliverEvent session generation event nowNs s = r
  obtain ⟨error | outcome, s'⟩ := r
  · obtain ⟨error', s'', hfail⟩ :=
      failWorkspaceGeneration_error (α := PeerEventOutcome) generation error nowNs s'
    obtain ⟨error₂, s₂, hfail₂⟩ :=
      failWorkspaceGeneration_error (α := SupervisorEventOutcome) generation error nowNs s'
    have hsame : error' = error₂ ∧ s'' = s₂ := by
      unfold failWorkspaceGeneration at hfail hfail₂
      rw [bind_apply] at hfail hfail₂
      generalize reconcileFatal generation nowNs s' = r at hfail hfail₂
      obtain ⟨_ | _, _⟩ := r <;> cases hfail <;> cases hfail₂ <;> exact ⟨rfl, rfl⟩
    obtain ⟨rfl, rfl⟩ := hsame
    simp only [hfail, hfail₂]
  · rfl

/-! ## Datagrams -/

/-- The generation is active, and its session is the one that the coordinator has authorized. -/
structure Admits (s : SupervisedWorkspace ι ω) (generation : ConnectionGeneration)
    (session : CurrentAdmittedSession) (peer : AdmittedSessionBinding) : Prop where
  active : s.supervisor.gate.isActive generation = true
  current : s.supervisor.currentSession = some session
  admitted : session.matchesAdmitted generation peer = true
  authorized : ∃ session', s.supervisor.coordinator.authorized = some session'
    ∧ session'.endpoint = session.endpoint ∧ session'.binding = peer
  expected : s.supervisor.coordinator.expected.hostId = session.remoteHostId

/-- A pointer move of the peer's host. -/
structure IsMove (session : CurrentAdmittedSession) (input : InputEventV1) : Prop where
  host : input.sourceHost = session.remoteHostId
  payload : ∃ dx dy, input.payload = .pointerMove (.finite dx) (.finite dy)

/-- No reconciliation and no route policy update is under way, the session accepts input, and the
    control plane holds the device as a pointer device of the peer. -/
structure TakesDatagram (s : SupervisedWorkspace ι ω) (session : CurrentAdmittedSession)
    (input : InputEventV1) : Prop where
  running : s.supervisor.workspaceReconciliation = none
  settled : s.supervisor.routePolicyUpdatePending = false
  accepts : s.supervisor.coordinator.acceptsInput = true
  advertised : s.plane.validateRemoteInput session input = .ok ()

/-- The supervisor with another state of its injection backend. -/
def withInjection (s : SupervisedWorkspace ι ω) (injection : ι) : SupervisedWorkspace ι ω :=
  { s with supervisor.coordinator.injection := injection }

/-- Handling the datagram injects the move, or ignores it, and the generation
    stays active; or the backend was asked to inject it and refused. -/
def DatagramKept (s : SupervisedWorkspace ι ω) (generation : ConnectionGeneration)
    (session : CurrentAdmittedSession) (peer : AdmittedSessionBinding) (input : InputEventV1)
    (nowNs : ℕ) : Prop :=
  let handled := handleActiveEvent generation (.pointerDatagram peer input) nowNs s
  ((∃ outcome, handled.1 = .ok (.applied outcome))
      ∧ handled.2.supervisor.gate.isActive generation = true
      ∧ (handled.2 = s ∨ ∃ event injection, inputFromWire input = .ok event
        ∧ OutputInjectionBackend.inject s.supervisor.coordinator.injection event = (true, injection)
        ∧ handled.2 = s.withInjection injection))
    ∨ (s.supervisor.workspaceReconciliation = none
      ∧ ∃ error, (deliverEvent session generation (.pointerDatagram peer input) nowNs s).1
          = .error (.coordinator error) ∧ error.trigger = .injection)

omit [OutputInjectionBackend ι] [OutboundPeer ω] in
/-- The control plane fails with errors of its own. -/
theorem validateRemoteInput_error {plane : WorkspaceControlPlane} {error : WorkspaceControlError}
    (h : plane.validateRemoteInput session input = .error error) :
    error = .unavailable ∨ ∃ inventory, error = .deviceInventory inventory := by
  unfold WorkspaceControlPlane.validateRemoteInput at h
  split at h
  · exact .inl (Except.error.inj h).symm
  · split at h
    · exact .inr ⟨_, (Except.error.inj h).symm⟩
    · dsimp only at h
      split_ifs at h
      exact .inl (Except.error.inj h).symm

/-- The delivery of a datagram, up to the coordinator. -/
theorem deliverPointerDatagram_eq (h : s.Admits generation session peer) :
    deliverPointerDatagram session generation peer input nowNs s
      = if s.supervisor.routePolicyUpdatePending then (.error .unavailable, s)
        else match s.plane.validateRemoteInput session input with
          | .error error => (.error error, s)
          | .ok () => deliver
            (·.handleEndpointPointerDatagram session.endpoint peer input nowNs) s := by
  unfold deliverPointerDatagram
  cases hpending : s.supervisor.routePolicyUpdatePending with
  | true =>
    exact bind_of_error (guard_of_false (by simp [hpending]))
  | false =>
    rw [if_neg Bool.false_ne_true,
      bind_of_ok (guard_of_true (by simp [h.admitted, hpending]))]
    cases hvalid : s.plane.validateRemoteInput session input with
    | error error => exact bind_of_error (check_of_error hvalid)
    | ok => exact bind_of_ok (check_of_ok hvalid)

/-- A coordinator that does not accept input fails the session. -/
theorem handleEndpointPointerDatagram_refuses {c : PeerSessionCoordinator ι ω}
    (haccepts : c.acceptsInput = false) (endpoint : SessionEndpoint)
    (peer : AdmittedSessionBinding) (input : InputEventV1) (nowNs : ℕ) :
    ∃ error c', c.handleEndpointPointerDatagram endpoint peer input nowNs = (.error error, c')
      ∧ error.trigger = .identityMismatch := by
  have hadmitted : (c.authorized.any fun session =>
      session.endpoint == endpoint && session.binding == peer && session.acceptsInput) = false := by
    unfold acceptsInput at haccepts
    cases hauth : c.authorized with
    | none => rfl
    | some session =>
      rw [hauth] at haccepts
      simp only [Option.any_some] at haccepts ⊢
      rw [haccepts, Bool.and_false]
  unfold handleEndpointPointerDatagram
  rw [hadmitted]
  exact c.fails_trigger .identityMismatch rfl nowNs

/-- A coordinator that accepts input hands the move to the backend. -/
theorem handleEndpointPointerDatagram_injects (h : s.Admits generation session peer)
    (hmove : IsMove session input) (haccepts : s.supervisor.coordinator.acceptsInput = true)
    (nowNs : ℕ) :
    ∃ event, inputFromWire input = .ok event
      ∧ ((∃ injection, OutputInjectionBackend.inject s.supervisor.coordinator.injection event
            = (true, injection)
          ∧ s.supervisor.coordinator.handleEndpointPointerDatagram session.endpoint peer input nowNs
            = (.ok .applied, { s.supervisor.coordinator with injection }))
        ∨ ∃ error c',
          s.supervisor.coordinator.handleEndpointPointerDatagram session.endpoint peer input nowNs
            = (.error error, c') ∧ error.trigger = .injection) := by
  obtain ⟨session', hauth, hendpoint, hbinding⟩ := h.authorized
  obtain ⟨dx, dy, hpayload⟩ := hmove.payload
  have hadmitted : (s.supervisor.coordinator.authorized.any fun session'' =>
      session''.endpoint == session.endpoint && session''.binding == peer
        && session''.acceptsInput) = true := by
    unfold acceptsInput at haccepts
    rw [hauth] at haccepts ⊢
    simp only [Option.any_some] at haccepts ⊢
    rw [hendpoint, hbinding, haccepts]
    simp
  have hevent : inputFromWire input = .ok ⟨input.sequence, input.timestampNs, input.sourceHost,
      input.sourceDevice, .pointerMove (.finite dx) (.finite dy)⟩ := by
    unfold inputFromWire
    rw [hpayload]
    rfl
  have hvalid : (WireMessage.input input).validate = .ok () := by
    unfold WireMessage.validate WireMessage.validateInput
    simp only [hpayload]
    rfl
  refine ⟨_, hevent, ?_⟩
  unfold handleEndpointPointerDatagram
  rw [hadmitted, hmove.host, h.expected, hpayload, hvalid, hevent]
  simp only [isPointerMove, Bool.not_true, bne_self_eq_false, Bool.or_self,
    Bool.false_eq_true, if_false]
  unfold injectReceived injectEvent
  cases hinject : OutputInjectionBackend.inject s.supervisor.coordinator.injection
    (⟨input.sequence, input.timestampNs, session.remoteHostId, input.sourceDevice,
      .pointerMove (.finite dx) (.finite dy)⟩ : InputEvent) with
  | mk taken injection =>
    rw [← hmove.host] at hinject
    rw [hinject]
    cases taken with
    | true => exact .inl ⟨injection, rfl, rfl⟩
    | false =>
      obtain ⟨error, c', hfails, htrigger⟩ := fails_trigger (α := Unit)
        { s.supervisor.coordinator with injection } .injection rfl nowNs
      dsimp only
      rw [hfails]
      exact .inr ⟨error, c', rfl, htrigger⟩

/-- A datagram that the state does not take is not kept. -/
theorem DatagramKept.takes (h : s.Admits generation session peer)
    (hkept : s.DatagramKept generation session peer input nowNs) :
    s.TakesDatagram session input := by
  have hevent : PeerEvent.pointerDatagram peer input ≠ .disconnected := nofun
  have hrunning : s.supervisor.workspaceReconciliation = none := by
    by_contra hphase
    rcases hkept with ⟨⟨outcome, hok⟩, -⟩ | ⟨hnone, -⟩
    · -- once the reconciliation has begun, the events are refused
      unfold handleActiveEvent ifActive at hok
      rw [if_pos h.active, if_neg hevent,
        bind_of_error (guard_of_false (by simpa [Option.ne_none_iff_isSome] using hphase))] at hok
      cases hok
    · exact hphase hnone
  -- Only an injection failure may be the error of the delivery.
  have hdelivered (error : WorkspaceControlError) (s' : SupervisedWorkspace ι ω)
      (hdelivery : deliverPointerDatagram session generation peer input nowNs s
        = (.error error, s')) :
      ∃ error', error = .coordinator error' ∧ error'.trigger = .injection := by
    have hdelivery' : deliverEvent session generation (.pointerDatagram peer input) nowNs s
        = (.error error, s') := hdelivery
    rcases hkept with ⟨⟨outcome, hok⟩, -⟩ | ⟨-, error', herror, htrigger⟩
    · rw [handleActiveEvent_eq h.active h.current hrunning hevent, hdelivery'] at hok
      obtain ⟨error', s'', hfail⟩ := failWorkspaceGeneration_error
        (α := SupervisorEventOutcome) generation error nowNs s'
      dsimp only at hok
      rw [hfail] at hok
      cases hok
    · rw [hdelivery'] at herror
      exact ⟨error', Except.error.inj herror, htrigger⟩
  rw [deliverPointerDatagram_eq h] at hdelivered
  have hsettled : s.supervisor.routePolicyUpdatePending = false := by
    by_contra hpending
    obtain ⟨_, herror, -⟩ := hdelivered _ _ (if_pos (by simpa using hpending))
    cases herror
  rw [if_neg (by simp [hsettled])] at hdelivered
  have hadvertised : s.plane.validateRemoteInput session input = .ok () := by
    cases hvalid : s.plane.validateRemoteInput session input with
    | ok => rfl
    | error error =>
      obtain ⟨_, herror, -⟩ := hdelivered error s (by rw [hvalid])
      rcases validateRemoteInput_error hvalid with hcase | ⟨_, hcase⟩ <;> rw [hcase] at herror <;>
        cases herror
  refine ⟨hrunning, hsettled, ?_, hadvertised⟩
  by_contra haccepts
  obtain ⟨error, c', hhandled, htrigger⟩ := handleEndpointPointerDatagram_refuses
    (Bool.eq_false_of_not_eq_true haccepts) session.endpoint peer input nowNs
  obtain ⟨error', herror, htrigger'⟩ := hdelivered (.coordinator error)
    { s with supervisor := { s.supervisor with coordinator := c' } }
    (by rw [hadvertised, deliver, hhandled]; rfl)
  obtain rfl := WorkspaceControlError.coordinator.inj herror
  rw [htrigger] at htrigger'
  cases htrigger'

/-- A datagram is kept exactly in the states that take it. -/
theorem pointerDatagram_kept_iff (h : s.Admits generation session peer)
    (hmove : IsMove session input) (nowNs : ℕ) :
    s.DatagramKept generation session peer input nowNs ↔ s.TakesDatagram session input := by
  refine ⟨fun hkept => hkept.takes h, fun htakes => ?_⟩
  obtain ⟨event, hwire, ⟨injection, hinject, hhandled⟩ | ⟨error, c', hhandled, htrigger⟩⟩ :=
    handleEndpointPointerDatagram_injects h hmove htakes.accepts nowNs
  all_goals
    have hdelivery : deliverEvent session generation (.pointerDatagram peer input) nowNs s
        = deliver (·.handleEndpointPointerDatagram session.endpoint peer input nowNs) s :=
      (deliverPointerDatagram_eq h).trans (by rw [htakes.settled, htakes.advertised]; rfl)
    rw [deliver, hhandled] at hdelivery
  · have hevent : PeerEvent.pointerDatagram peer input ≠ .disconnected := nofun
    have hresult : handleActiveEvent generation (.pointerDatagram peer input) nowNs s
        = (.ok (.applied .applied), s.withInjection injection) := by
      rw [handleActiveEvent_eq h.active h.current htakes.running hevent, hdelivery]
      rfl
    refine .inl ?_
    rw [hresult]
    exact ⟨⟨_, rfl⟩, h.active, .inr ⟨event, injection, hwire, hinject, rfl⟩⟩
  · exact .inr ⟨htakes.running, error, by rw [hdelivery]; rfl, htrigger⟩

end SupervisedWorkspace

/-! ## Two sample daemons -/

namespace SupervisedWorkspace.Sample

def host : Side → HostId
  | .left => ⟨1⟩
  | .right => ⟨2⟩

def peerId : Side → PeerId
  | .left => ⟨4⟩
  | .right => ⟨5⟩

variable (side : Side)

/-- The display of a side, of a given width. -/
def display (width : ℚ) : Display where
  id := ⟨(host side).raw⟩
  hostId := host side
  name := "display"
  logicalSize := ⟨width, 100⟩
  physicalSize := none
  scaleFactor := 1
  refreshRate := none
  nativeBounds := ⟨0, 0, width, 100⟩
  primary := true

def mouse : InputDevice :=
  ⟨⟨9⟩, host side, "mouse", none, none, .mouse, ⟨true, false, true, true, true⟩⟩

def config : Config where
  pairedHosts := [{
    hostId := host side.other, peerId := peerId side.other, name := ['b'], platform := .macOS
    identityFingerprint := List.replicate 64 'a', lastAddress := none }]

def workspace : WorkspaceState :=
  .new (host side) (host side) ⟨⟨(host side).raw⟩, 50, 50⟩

def core : DaemonCore :=
  (DaemonCore.new (config side) (workspace side)).toOption.get (by cases side <;> decide +kernel)

/-- The peer of a side, as it is paired. -/
def identity : PeerIdentity :=
  ⟨peerId side.other, host side.other, "b", List.replicate 32 0xaa⟩

def hello : HelloV1 := ⟨host side, peerId side, "b", .macOs, 1, 3, "0", 1⟩

def binding : AdmittedSessionBinding :=
  ⟨⟨host side.other, peerId side.other, List.replicate 32 0xaa⟩, hello side, hello side.other, 3, 9⟩

/-- The displays stand side by side and are linked in both directions. -/
def placements : List WorkspacePlacement := [⟨⟨1⟩, ⟨0, 0⟩⟩, ⟨⟨2⟩, ⟨100, 0⟩⟩]

def links : List WorkspaceLink := [⟨⟨1⟩, .right, ⟨2⟩, .left⟩, ⟨⟨2⟩, .left, ⟨1⟩, .right⟩]

/-- A digest that tells displays of different widths apart. -/
def digest (displays : DisplayTable) (_ : LinkTable) : ℕ :=
  (displays.values.map fun display => display.logicalSize.width.num.toNat).sum

def inventory : DisplayInventory :=
  ((DisplayInventory.new (host side) displayInventoryDefault).bind fun inventory =>
    inventory.applyLocalSnapshot 1 [display side 100]).toOption.get
      (by cases side <;> decide +kernel)

def plane : WorkspaceControlPlane :=
  (WorkspaceControlPlane.new digest (peerId side.other) (inventory side)
    HandoffPair.Sample.config (workspace side) (workspace side).pointer placements
    links).toOption.get (by cases side <;> decide +kernel)

def gate : ConnectionGenerationGate :=
  (ConnectionGenerationGate.new 1 (peerId side) (peerId side.other)).1.toOption.get
    (by cases side <;> decide +kernel)

def direction : Side → ConnectionDirection
  | .left => .outbound
  | .right => .inbound

def generation : ConnectionGeneration := ⟨1, 1⟩

/-- The first connection of a side is admitted. -/
def admission : GenerationBoundPeerEvent where
  generation
  state := .admission ⟨1, generation, direction side, rfl⟩
  event := some (.admitted (binding side))
  bound := by rintro _ ⟨⟩; rfl
  admits := fun _ _ => ⟨_, rfl⟩

def session : CurrentAdmittedSession :=
  (CurrentAdmittedSession.fromAdmitted generation (binding side)).get
    (by cases side <;> decide +kernel)

section Backends

variable {ι ω : Type}

def coordinator (side : Side) (injection : ι) (outbound : ω) : PeerSessionCoordinator ι ω :=
  (PeerSessionCoordinator.new (core side) (identity side) injection outbound).toOption.get
    (by cases side <;> rfl)

def created (side : Side) (injection : ι) (outbound : ω) : SupervisedWorkspace ι ω :=
  ⟨.new (gate side) (coordinator side injection outbound), plane side⟩

variable [OutputInjectionBackend ι] [OutboundPeer ω]

/-- The daemon of a side with its peer admitted. -/
def admitted (side : Side) (injection : ι) (outbound : ω) : SupervisedWorkspace ι ω :=
  (handleBoundEvent (admission side) 0 (onSupervisor
    (PeerSessionSupervisor.beginPending (direction side)) (created side injection outbound)).2).2

/-- The state after an event of the admitted generation. -/
def after (s : SupervisedWorkspace ι ω) (event : PeerEvent) : SupervisedWorkspace ι ω :=
  (handleActiveEvent generation event 0 s).2

end Backends

/-- The devices of a side, as it advertises them. -/
def devices : WireMessage := .deviceSnapshot ⟨2, host side, [mouse side]⟩

/-- The left daemon knows the mouse of the right host. -/
def receiving : SupervisedWorkspace Recorder Fifo :=
  after (admitted .left ⟨[]⟩ ⟨[], fun _ => none, 0⟩) (.message (binding .left) (devices .right))

/-- A move of the right mouse. -/
def move : InputEventV1 := ⟨1, 0, host .right, ⟨9⟩, .pointerMove (.finite 1) (.finite 0)⟩

theorem move_isMove : IsMove (session .left) move := ⟨by decide +kernel, _, _, rfl⟩

theorem receiving_admits : receiving.Admits generation (session .left) (binding .left) where
  active := by decide +kernel
  current := by decide +kernel
  admitted := by decide +kernel
  authorized := ⟨⟨(session .left).endpoint, binding .left, none, [], true⟩, by decide +kernel, rfl,
    rfl⟩
  expected := by decide +kernel

/-- A route for the keyboard waits to be stored. -/
def staged : SupervisedWorkspace Recorder Fifo :=
  (onSupervisor (PeerSessionSupervisor.prepareRoutePolicyUpdate (some generation)
    { config .left with deviceRoutes := [⟨⟨7⟩, .local⟩] } 0 0) receiving).2

theorem staged_admits : staged.Admits generation (session .left) (binding .left) where
  active := by decide +kernel
  current := by decide +kernel
  admitted := by decide +kernel
  authorized := ⟨⟨(session .left).endpoint, binding .left, none, [], true⟩, by decide +kernel, rfl,
    rfl⟩
  expected := by decide +kernel

/-- The connection is degraded. -/
def degraded : SupervisedWorkspace Recorder Fifo := after receiving (.stateChanged .degraded)

theorem degraded_admits : degraded.Admits generation (session .left) (binding .left) where
  active := by decide +kernel
  current := by decide +kernel
  admitted := by decide +kernel
  authorized := ⟨⟨(session .left).endpoint, binding .left, none, [], false⟩, by decide +kernel, rfl,
    rfl⟩
  expected := by decide +kernel

end SupervisedWorkspace.Sample

namespace SupervisedWorkspace

/-- A datagram of an advertised mouse retires the session while a route policy
    update waits to be stored, and while the connection is degraded. -/
theorem pointerDatagram_retires :
    Sample.staged.Admits Sample.generation (Sample.session .left) (Sample.binding .left)
      ∧ Sample.degraded.Admits Sample.generation (Sample.session .left) (Sample.binding .left)
      ∧ Sample.receiving.plane.validateRemoteInput (Sample.session .left) Sample.move = .ok ()
      ∧ (handleActiveEvent Sample.generation (.pointerDatagram (Sample.binding .left) Sample.move) 0
        Sample.staged).1 = .error (.workspace .unavailable)
      ∧ (Sample.after Sample.staged (.pointerDatagram (Sample.binding .left) Sample.move)
        ).supervisor.gate.isActive Sample.generation = false
      ∧ (handleActiveEvent Sample.generation (.pointerDatagram (Sample.binding .left) Sample.move) 0
        Sample.degraded).1 = .error (.workspace (.deviceInventory .inventoryUnavailable))
      ∧ (Sample.after Sample.degraded (.pointerDatagram (Sample.binding .left) Sample.move)
        ).supervisor.gate.isActive Sample.generation = false :=
  ⟨Sample.staged_admits, Sample.degraded_admits, by decide +kernel⟩

/-- With neither, it is injected. -/
theorem pointerDatagram_kept_receiving :
    Sample.receiving.TakesDatagram (Sample.session .left) Sample.move
      ∧ Sample.receiving.DatagramKept Sample.generation (Sample.session .left)
        (Sample.binding .left) Sample.move 0 :=
  have htakes : Sample.receiving.TakesDatagram (Sample.session .left) Sample.move :=
    ⟨by decide +kernel, by decide +kernel, by decide +kernel, by decide +kernel⟩
  ⟨htakes, (pointerDatagram_kept_iff Sample.receiving_admits Sample.move_isMove 0).mpr htakes⟩

end SupervisedWorkspace

end SoftwareKvm
