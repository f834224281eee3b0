import SoftwareKvm.Control.Edit
import SoftwareKvm.Session.Unmappable
import SoftwareKvm.Supervisor.Datagram

/-!
# After a fatal event

An event of the active generation that fails starts a reconciliation
(`reconcile_fatal_with_workspace`), which is itself a sequence of fallible
steps. An input that fails in the coordinator gates the session first; any other
event leaves the gate to the reconciliation, which gets there if what is held can
be released and the session can be retired. From then on nothing but releases is
injected or sent, until a `Connected` hint of the transport opens the gate again.

* `failedEvent_silent`: after a failure that gates the session, no event and no
  capture injects an input or sends one, as long as no `Connected` hint meets the
  session.
* `failedEvent_reopens`: an unmapped key fails, and the input after the next
  `Connected` hint is injected.
-/

namespace SoftwareKvm

open Lib

namespace SupervisedWorkspace

open PeerSessionCoordinator
open PeerSessionSupervisor (onGate)
open Step (zoom bind_apply update need)

variable {ι ω : Type}

/-! ## The token and the session -/

/-- The token and the session of a supervisor are those of the generation that
    its gate has active. -/
structure Sound (s : SupervisedWorkspace ι ω) : Prop where
  token : s.supervisor.gate.active = s.supervisor.active.map (·.generation)
  session : ∀ session, s.supervisor.currentSession = some session →
    s.supervisor.gate.active = some session.generation

/-- No generation is active, and none is accepted any more. -/
def Ended (s : SupervisedWorkspace ι ω) : Prop :=
  s.supervisor.lifecycle ≠ .running ∧ s.supervisor.active = none

/-- What every operation does: it keeps a sound supervisor sound and an ended one ended. -/
def Keeps (s s' : SupervisedWorkspace ι ω) : Prop :=
  s.Sound → s'.Sound ∧ (s.Ended → s'.Ended)

instance : Std.Refl (Keeps (ι := ι) (ω := ω)) := ⟨fun _ h => ⟨h, id⟩⟩

instance : IsTrans (SupervisedWorkspace ι ω) Keeps where
  trans _ _ _ h h' hs := ⟨(h' (h hs).1).1, fun he => (h' (h hs).1).2 ((h hs).2 he)⟩

/-- What the invariants read of a supervisor. -/
def engine (s : SupervisedWorkspace ι ω) := (s.supervisor.gate.active, s.supervisor.active,
  s.supervisor.lifecycle, s.supervisor.currentSession)

/-- A change of the coordinator, the control plane or the pending slot. -/
theorem keeps_of_engine {s s' : SupervisedWorkspace ι ω} (h : s'.engine = s.engine) :
    Keeps s s' := by
  simp only [engine, Prod.mk.injEq] at h
  refine fun hs => ⟨⟨?_, ?_⟩, fun he => ⟨h.2.2.1 ▸ he.1, h.2.1 ▸ he.2⟩⟩
  · rw [h.1, h.2.1, hs.token]
  · rw [h.1, h.2.2.2]
    exact hs.session

theorem sound_of_idle {s : SupervisedWorkspace ι ω} (hgate : s.supervisor.gate.active = none)
    (hactive : s.supervisor.active = none) (hsession : s.supervisor.currentSession = none) :
    s.Sound := ⟨by simp [hgate, hactive], by simp [hsession]⟩

theorem finishActive_ok {gate : ConnectionGenerationGate} {token : ActiveConnection}
    (h : gate.active = some token.generation) :
    gate.finishActive token = (.ok (), gate.clearActive) := by
  have hid : token.gateInstanceId = gate.gateInstanceId :=
    token.minted.symm.trans (gate.minted _ (.inr h))
  simp [ConnectionGenerationGate.finishActive, h, hid]

theorem retireGeneration_keeps : (retireGeneration : SupervisorStep ι ω _).Ensures Keeps := by
  intro s hs
  unfold retireGeneration onSupervisor PeerSessionSupervisor.retireGeneration
    PeerSessionSupervisor.finishActive
  cases hactive : s.supervisor.active with
  | none =>
    simp only [zoom, bind_apply, update, need, hactive]
    exact ⟨sound_of_idle (by simp [hs.token, hactive]) rfl rfl, fun he => ⟨he.1, rfl⟩⟩
  | some token =>
    have hgate : s.supervisor.gate.active = some token.generation := by
      simpa [hactive] using hs.token
    simp only [zoom, bind_apply, update, need, hactive, onGate,
      finishActive_ok hgate]
    exact ⟨sound_of_idle rfl rfl rfl, fun he => ⟨he.1, rfl⟩⟩

variable [OutputInjectionBackend ι] [OutboundPeer ω] {O : Prop}

/-- The coordinator went through assignments alone, and the supervisor was kept. -/
structure Drives (O : Prop) (s s' : SupervisedWorkspace ι ω) : Prop where
  edits : Edits O s.supervisor.coordinator s'.supervisor.coordinator
  keeps : Keeps s s'

instance : Std.Refl (Drives (ι := ι) (ω := ω) O) := ⟨fun s => ⟨.refl _, refl_of Keeps s⟩⟩

instance : IsTrans (SupervisedWorkspace ι ω) (Drives O) where
  trans _ _ _ h h' := ⟨h.edits.trans h'.edits, trans_of Keeps h.keeps h'.keeps⟩

/-- The operation drives the coordinator and keeps the supervisor. -/
abbrev Driven (ι ω : Type) [OutputInjectionBackend ι] [OutboundPeer ω] (O : Prop) {ε α : Type}
    (x : Step ε (SupervisedWorkspace ι ω) α) : Prop :=
  x.Ensures (Drives O)

/-! ## Deliveries -/

theorem onWorkspace_drives {α : Type} {x : PlaneStep ι ω α}
    (hx : x.Ensures (WorkspaceSession.Drives O)) : (onWorkspace x).Ensures (Drives O) :=
  fun s => ⟨hx ⟨s.plane, s.supervisor.coordinator⟩, keeps_of_engine rfl⟩

theorem deliver_drives {α : Type} {f : CoordinatorMethod ι ω α} (hf : ∀ c, Edits O c (f c).2) :
    (deliver f).Ensures (Drives O) := fun s => ⟨hf s.supervisor.coordinator, keeps_of_engine rfl⟩

variable (session : CurrentAdmittedSession) (generation : ConnectionGeneration)

theorem deliverState_drives {state : ConnectionState} (hstate : state = .connected → O)
    (nowNs : ℕ) : Driven ι ω O (deliverState session state nowNs) := by
  have hendpoint : ∀ state, (state = .connected → O) →
      Driven ι ω O (deliver (·.handleEndpointState session.endpoint state nowNs)) :=
    fun state hstate => deliver_drives fun c =>
      edits_parts.handleEndpointState c session.endpoint state hstate nowNs
  have hdegrade : Driven ι ω O (onWorkspace (WorkspaceSession.degrade session nowNs)) :=
    onWorkspace_drives (WorkspaceSession.degrade_drives session nowNs)
  cases state with
  | connected =>
    exact .bind (hendpoint _ hstate) fun _ => .bind
      (onWorkspace_drives (WorkspaceSession.connected_drives session)) fun _ => .pure _
  | degraded => exact .bind hdegrade fun _ => hendpoint _ nofun
  | disconnected => exact .bind hdegrade fun _ => hendpoint _ nofun
  | connecting => exact hendpoint _ nofun
  | authenticating => exact hendpoint _ nofun

theorem deliverEvent_drives (event : PeerEvent) (nowNs : ℕ) :
    Driven ι ω (event = .stateChanged .connected)
      (deliverEvent session generation event nowNs) := by
  cases event with
  | message peer message =>
    refine .bind (.guard _ _) fun _ => ?_
    split
    · exact .bind (.check _) fun _ => onWorkspace_drives <|
        WorkspaceSession.handleMessage_drives session message nowNs
    · have hdeliver : Driven ι ω (PeerEvent.message peer message = .stateChanged .connected)
          (deliver (·.handleEndpointMessage session.endpoint peer message nowNs)) :=
        deliver_drives fun c => edits_parts.handleEndpointMessage c
          session.endpoint peer (fun _ _ _ _ hopen _ => .inl hopen) nowNs
      split
      · exact .bind (.check _) fun _ => hdeliver
      · exact hdeliver
  | pointerDatagram peer input =>
    exact .bind (.guard _ _) fun _ => .bind (.check _) fun _ => deliver_drives fun c =>
      edits_parts.handleEndpointPointerDatagram c session.endpoint peer
        (fun _ _ _ hopen _ => .inl hopen) nowNs
  | stateChanged state => exact deliverState_drives session (fun hstate => by rw [hstate]) nowNs
  | disconnected => exact .fail _
  | admitted _ => exact .fail _
  | reconnectScheduled _ => exact .pure _

/-! ## Reconciliation -/

theorem onCoordinator_drives {α : Type} {f : CoordinatorMethod ι ω α}
    (hf : ∀ c, Edits O c (f c).2) : (onCoordinator f).Ensures (Drives O) :=
  fun s => ⟨hf s.supervisor.coordinator, keeps_of_engine rfl⟩

theorem ifActive_drives {x : SupervisorStep ι ω SupervisorEventOutcome}
    (hx : x.Ensures (Drives O)) : (ifActive generation x).Ensures (Drives O) := by
  intro s
  unfold ifActive
  split
  · exact hx s
  · exact refl_of (Drives O) s

theorem setPhase_drives (phase : WorkspaceReconciliationPhase) : Driven ι ω O (setPhase phase) :=
  fun _ => ⟨.refl _, keeps_of_engine rfl⟩

theorem retireSettled_drives : Driven ι ω O (retireSettled session) :=
  fun _ => ⟨.refl _, keeps_of_engine rfl⟩

variable (s : SupervisedWorkspace ι ω)

theorem retireGeneration_drives : Driven ι ω O (retireGeneration) := by
  intro s
  have hretire : (PeerSessionSupervisor.retireGeneration :
      EngineStep ι ω SupervisorEventOutcome).Ensures (Step.Same (·.coordinator)) :=
    .bind (.update fun _ => rfl) fun _ => .bind
      (.bind (.need _ _) fun _ => .bind (.update fun _ => rfl) fun _ _ => rfl) fun _ => .pure _
  refine ⟨?_, retireGeneration_keeps s⟩
  rw [show (retireGeneration s).2.supervisor.coordinator = s.supervisor.coordinator from
    hretire s.supervisor]
  exact .refl _

theorem reconcileTransportLost_drives (nowNs : ℕ) :
    Driven ι ω O (reconcileTransportLost generation nowNs) :=
  ifActive_drives generation <| .bind (.need _ _) fun session => .bind (setPhase_drives _) fun _ =>
    .bind (onCoordinator_drives fun c => edits_parts.disconnect c nowNs) fun _ =>
      .bind (retireSettled_drives session) fun _ => retireGeneration_drives

theorem reconcileGracefullySettled_drives (nowNs : ℕ) :
    Driven ι ω O (reconcileGracefullySettled generation nowNs) := by
  refine ifActive_drives generation <| .bind (.need _ _) fun session =>
    .bind (retireSettled_drives session) fun _ => .bind (.read _) fun lifecycle => ?_
  split
  · exact .bind (onCoordinator_drives fun c => edits_parts.shutdown c nowNs) fun _ =>
      retireGeneration_drives
  · exact retireGeneration_drives

theorem reconcileLive_drives (nowNs : ℕ) {terminate : CoordinatorMethod ι ω Unit}
    (hterminate : ∀ c, Edits O c (terminate c).2) :
    (reconcileLive generation nowNs terminate).Ensures (Drives O) := by
  refine .bind (.need _ _) fun session => .bind (.read _) fun authorizes => ?_
  split
  · exact .bind (setPhase_drives _) fun _ => reconcileGracefullySettled_drives generation nowNs
  · exact .bind (onCoordinator_drives fun c => c.releaseAllInbound_edits nowNs) fun _ =>
      .bind (.guard _ _) fun _ => .bind
        (.mapError (onWorkspace_drives (WorkspaceSession.retire_drives session nowNs)) _) fun _ =>
          .bind (onCoordinator_drives hterminate) fun _ => retireGeneration_drives

theorem reconcileFatal_drives (nowNs : ℕ) : Driven ι ω O (reconcileFatal generation nowNs) := by
  refine ifActive_drives generation <| .bind (.read _) fun phase => ?_
  split
  · exact reconcileTransportLost_drives generation nowNs
  · exact reconcileGracefullySettled_drives generation nowNs
  · exact reconcileLive_drives generation nowNs fun c => edits_parts.sessionFatalCleanup c nowNs

/-- A failed delivery is followed by the reconciliation. -/
theorem orFail_ensures {R : SupervisedWorkspace ι ω → SupervisedWorkspace ι ω → Prop} [Std.Refl R]
    [IsTrans _ R] {α : Type} {nowNs : ℕ} (hfatal : (reconcileFatal generation nowNs).Ensures R)
    {x : DeliveryStep ι ω α} (hx : x.Ensures R) : (orFail generation nowNs x).Ensures R := by
  refine .bind (.attempt hx) fun result => ?_
  cases result with
  | ok _ => exact .pure _
  | error error => exact .bind hfatal fun _ => .fail _

theorem orFail_drives {α : Type} (nowNs : ℕ) {x : DeliveryStep ι ω α} (hx : x.Ensures (Drives O)) :
    (orFail generation nowNs x).Ensures (Drives O) :=
  orFail_ensures generation (reconcileFatal_drives generation nowNs) hx

theorem handleActiveEvent_drives (event : PeerEvent) (nowNs : ℕ) :
    Driven ι ω (event = .stateChanged .connected) (handleActiveEvent generation event nowNs) := by
  refine ifActive_drives generation ?_
  split
  · exact reconcileTransportLost_drives generation nowNs
  · exact .bind (.guard _ _) fun _ => .bind (.need _ _) fun session => .bind
      (orFail_drives generation nowNs (deliverEvent_drives session generation event nowNs))
      fun _ => .pure _

/-! ## Captured input -/

theorem cancelForFailsafe_drives (outcome : CaptureOutcome) (nowNs : ℕ) :
    Driven ι ω O (cancelForFailsafe outcome nowNs) := by
  refine .bind (.read _) fun active => ?_
  cases active with
  | none => exact .pure _
  | some generation =>
    refine .bind (.need _ _) fun session => .mapError (orFail_drives generation nowNs ?_) _
    exact onWorkspace_drives <| .bind (WorkspaceSession.requireEndpoint_drives session) fun _ =>
      WorkspaceSession.cancelHandoffForFailsafe_drives session nowNs

theorem routeCapture_drives (captured : CapturedInput) (nowNs : ℕ) :
    Driven ι ω O (routeCapture captured nowNs) := by
  refine .bind (.guard _ _) fun _ => .bind
    (fun s => ⟨edits_parts.routeCaptured s.supervisor.coordinator trivial nowNs,
      keeps_of_engine rfl⟩) fun routed => ?_
  cases routed with
  | error failure =>
    refine .bind (.read _) fun active => ?_
    cases active with
    | none =>
      exact .bind (.attempt (onCoordinator_drives fun c => c.thenDrain_edits _ nowNs)) fun _ =>
        .fail _
    | some generation =>
      exact .bind (.mapError (reconcileFatal_drives generation nowNs) _) fun _ => .fail _
  | ok outcome =>
    dsimp only
    split
    · exact .bind (cancelForFailsafe_drives outcome nowNs) fun _ => .pure _
    · exact .pure _

/-! ## After the failure -/

/-- What happens after a fatal event, without a new activation. -/
inductive Aftermath
  /-- Another event of the same generation. -/
  | receive (event : PeerEvent) (nowNs : ℕ)
  | capture (captured : CapturedInput) (nowNs : ℕ)

def Aftermath.apply : Aftermath → SupervisedWorkspace ι ω
  | .receive event nowNs => (handleActiveEvent generation event nowNs s).2
  | .capture captured nowNs => (routeCapture captured nowNs s).2

/-- The event is a `Connected` hint. -/
def Aftermath.Reopens : Aftermath → Prop
  | .receive event _ => event = .stateChanged .connected
  | .capture .. => False

theorem Aftermath.apply_drives (action : Aftermath) :
    Drives action.Reopens s (action.apply generation s) := by
  cases action with
  | receive event nowNs => exact handleActiveEvent_drives generation event nowNs s
  | capture captured nowNs => exact routeCapture_drives captured nowNs s

/-- The coordinator has no session. -/
def Closed : Prop := s.supervisor.coordinator.authorized = none

/-- The coordinator accepts no input. -/
def Shut : Prop := s.supervisor.coordinator.acceptsInput = false

/-- No `Connected` hint meets a session. -/
def Aftermath.Unopened (action : Aftermath) : Prop := action.Reopens → s.Closed

/-- While the session is gated and not reopened, nothing but releases is injected or sent. -/
theorem Aftermath.execute_silent {s : SupervisedWorkspace ι ω} (hshut : s.Shut)
    {later : List Aftermath}
    (hlater : Admissible Aftermath.Unopened (Aftermath.apply generation) s later) :
    let reached := execute (Aftermath.apply generation) s later
    reached.Shut ∧ Injections IsRelease s.supervisor.coordinator.injection
        reached.supervisor.coordinator.injection
      ∧ Offers (·.isRelease = true) s.supervisor.coordinator.outbound
        reached.supervisor.coordinator.outbound := by
  refine @Admissible.invariant _ _ _ _ (fun t : SupervisedWorkspace ι ω => t.Shut
      ∧ Injections IsRelease _ t.supervisor.coordinator.injection
      ∧ Offers (·.isRelease = true) _ t.supervisor.coordinator.outbound)
    (fun t action hunopened ht => ?_) _ _ hlater ⟨hshut, .refl, .refl⟩
  obtain ⟨hgated, -, hinjections, hoffers⟩ :=
    (Aftermath.apply_drives generation t action).edits.shut ht.1 hunopened
  exact ⟨hgated, ht.2.1.trans hinjections, ht.2.2.trans hoffers⟩

/-! ## Which failures gate the session -/

/-- The generation has a session and is not being reconciled. -/
structure Serving : Prop where
  phase : s.supervisor.workspaceReconciliation = none
  current : s.supervisor.currentSession = some session

/-- Events whose failure gates the session, told from the state before them. -/
inductive Contained (generation : ConnectionGeneration) (nowNs : ℕ) (s : SupervisedWorkspace ι ω) :
    PeerEvent → Prop
  /-- Input is not accepted to begin with. -/
  | shut {event : PeerEvent} (hshut : s.Shut)
      (hclosed : event = .stateChanged .connected → s.Closed) :
      Contained generation nowNs s event
  /-- The transport has ended. -/
  | disconnected {session : CurrentAdmittedSession}
      (hcurrent : s.supervisor.currentSession = some session) :
      Contained generation nowNs s .disconnected
  /-- The control plane lets an input through to the coordinator. -/
  | input {session : CurrentAdmittedSession} {peer : AdmittedSessionBinding} {input : InputEventV1}
      (hserving : s.Serving session) (hadmitted : session.matchesAdmitted generation peer = true)
      (hvalid : s.plane.validateRemoteInput session input = .ok ()) :
      Contained generation nowNs s (.message peer (.input input))
  | pointerDatagram {session : CurrentAdmittedSession} {peer : AdmittedSessionBinding}
      {input : InputEventV1} (hserving : s.Serving session)
      (hadmitted : session.matchesAdmitted generation peer = true)
      (hpolicy : s.supervisor.routePolicyUpdatePending = false)
      (hvalid : s.plane.validateRemoteInput session input = .ok ()) :
      Contained generation nowNs s (.pointerDatagram peer input)
  /-- The event is refused as it stands; what the peer holds can be released and
      its session can be retired. -/
  | refused {event : PeerEvent} {session : CurrentAdmittedSession} {error : WorkspaceControlError}
      (hserving : s.Serving session)
      (hauthorized : s.supervisor.coordinator.authorizesEndpoint session.endpoint = true)
      (hrefused : deliverEvent session generation event nowNs s = (.error error, s))
      (hreleased : (s.supervisor.coordinator.releaseAllInbound nowNs).1 = .ok ())
      (hretired : (WorkspaceSession.retire session nowNs
        ⟨s.plane, (s.supervisor.coordinator.releaseAllInbound nowNs).2⟩).1 = .ok ()) :
      Contained generation nowNs s event

section Triples

variable {s : SupervisedWorkspace ι ω}

/-- Once the session is gated, it stays so. -/
theorem shut_triple {ε α : Type} {x : Step ε (SupervisedWorkspace ι ω) α}
    (hx : x.Ensures (Drives False)) : x.Triple Shut (fun _ => Shut) Shut :=
  .of_ensures hx (fun _ _ h hshut => (h.edits.shut hshut False.elim).1) fun _ h => h

omit [OutputInjectionBackend ι] [OutboundPeer ω] in
theorem onCoordinator_shut {f : CoordinatorMethod ι ω Unit}
    (hf : ∀ c, (f c).2.acceptsInput = false) :
    (onCoordinator f).Triple (fun _ => True) (fun _ => Shut) Shut := by
  intro s _
  have hshut := hf s.supervisor.coordinator
  simp only [onCoordinator, onSupervisor, Step.zoom, PeerSessionSupervisor.onCoordinator]
  generalize f s.supervisor.coordinator = r at hshut ⊢
  obtain ⟨_ | _, c'⟩ := r <;> exact hshut

variable {generation : ConnectionGeneration} {nowNs : ℕ} {session}

omit [OutputInjectionBackend ι] [OutboundPeer ω] in
theorem requireSession_eq (hcurrent : s.supervisor.currentSession = some session) :
    (requireSession : SupervisorStep ι ω _) s = (.ok session, s) := Step.need_of_some hcurrent

/-- A lost transport closes the session, whatever else fails. -/
theorem reconcileTransportLost_shut (hcurrent : s.supervisor.currentSession = some session) :
    (reconcileTransportLost generation nowNs s).1 = .ok .staleIgnored
      ∨ (reconcileTransportLost generation nowNs s).2.Shut := by
  unfold reconcileTransportLost ifActive
  split_ifs
  · right
    have hclosed (c : PeerSessionCoordinator ι ω) :
        (c.disconnect nowNs).2.acceptsInput = false := by
      unfold disconnect
      cases c.authorized.map (·.endpoint) <;> rfl
    rw [Step.bind_of_ok (requireSession_eq hcurrent)]
    refine Step.Triple.ignore (p := fun _ => True) ?_ trivial
    exact .bind (.update fun _ h => h) fun _ => .bind (onCoordinator_shut hclosed) fun _ =>
      .bind (shut_triple (retireSettled_drives session)) fun _ =>
        shut_triple retireGeneration_drives
  · exact .inl rfl

/-- With the releases and the retirement done, the reconciliation gates the session. -/
theorem reconcileFatal_shut (hactive : s.supervisor.gate.isActive generation = true)
    (hserving : s.Serving session)
    (hauthorized : s.supervisor.coordinator.authorizesEndpoint session.endpoint = true)
    (hreleased : (s.supervisor.coordinator.releaseAllInbound nowNs).1 = .ok ())
    (hretired : (WorkspaceSession.retire session nowNs
      ⟨s.plane, (s.supervisor.coordinator.releaseAllInbound nowNs).2⟩).1 = .ok ()) :
    (reconcileFatal generation nowNs s).2.Shut := by
  have hkept := (releaseAllInbound_inboundOnly s.supervisor.coordinator nowNs).authorized
  generalize hc : (s.supervisor.coordinator.releaseAllInbound nowNs).2 = c at hkept hretired
  have hrelease : (onCoordinator (·.releaseAllInbound nowNs) : SupervisorStep ι ω Unit) s
      = (.ok (), ⟨{ s.supervisor with coordinator := c }, s.plane⟩) := by
    simp [onCoordinator, onSupervisor, Step.zoom, PeerSessionSupervisor.onCoordinator, hreleased,
      Except.mapError, hc]
  have hcontext : requireContext session
      (⟨{ s.supervisor with coordinator := c }, s.plane⟩ : SupervisedWorkspace ι ω)
        = (.ok (), ⟨{ s.supervisor with coordinator := c }, s.plane⟩) := by
    refine Step.guard_of_true ?_
    rwa [authorizesEndpoint, hkept]
  have hretire : ∃ s', Step.mapError .workspace
      (onWorkspace (WorkspaceSession.retire session nowNs))
      (⟨{ s.supervisor with coordinator := c }, s.plane⟩ : SupervisedWorkspace ι ω)
        = ((.ok () : Except PeerSessionSupervisorError Unit), s') := by
    refine ⟨_, Prod.ext ?_ rfl⟩
    simp [Step.mapError, onWorkspace, Step.zoom, hretired, Except.mapError]
  obtain ⟨s', hretire⟩ := hretire
  unfold reconcileFatal ifActive
  rw [if_pos hactive, Step.bind_of_ok (rfl : Step.read _ s = _), hserving.phase]
  dsimp only [reconcileLive]
  rw [Step.bind_of_ok (requireSession_eq hserving.current),
    Step.bind_of_ok (rfl : Step.read _ s = _), hauthorized, if_neg (by simp),
    Step.bind_of_ok hrelease, Step.bind_of_ok hcontext, Step.bind_of_ok hretire]
  exact Step.Triple.ignore (.bind (onCoordinator_shut (·.sessionFatalCleanup_shut nowNs)) fun _ =>
    shut_triple retireGeneration_drives) trivial

variable {event : PeerEvent} {error : PeerSessionSupervisorError}

/-- An event that fails has failed in its delivery, and is reconciled. -/
theorem handleActiveEvent_failed (hactive : s.supervisor.gate.isActive generation = true)
    (hserving : s.Serving session)
    (herror : (handleActiveEvent generation event nowNs s).1 = .error error)
    (hevent : event ≠ .disconnected) :
    ∃ failure s', deliverEvent session generation event nowNs s = (.error failure, s')
      ∧ (handleActiveEvent generation event nowNs s).2
        = (reconcileFatal generation nowNs s').2 := by
  have hsession : (Step.need .invalidBoundEvent (·.supervisor.currentSession) :
      SupervisorStep ι ω _) s = (.ok session, s) := Step.need_of_some hserving.current
  unfold handleActiveEvent ifActive at herror ⊢
  rw [if_pos hactive, if_neg hevent,
    Step.bind_of_ok (Step.guard_of_true (by simp [hserving.phase])),
    Step.bind_of_ok hsession] at herror ⊢
  unfold orFail failWorkspaceGeneration at herror ⊢
  simp only [Step.bind_apply, Step.attempt] at herror ⊢
  generalize deliverEvent session generation event nowNs s = r at herror ⊢
  obtain ⟨failure | outcome, s'⟩ := r
  · refine ⟨failure, s', rfl, ?_⟩
    dsimp only [Step.bind_apply]
    generalize reconcileFatal generation nowNs s' = r
    obtain ⟨_ | _, _⟩ := r <;> rfl
  · cases herror

omit [OutputInjectionBackend ι] [OutboundPeer ω] in
theorem deliver_shut {s' : SupervisedWorkspace ι ω} {failure : WorkspaceControlError}
    {f : CoordinatorMethod ι ω PeerEventOutcome} (hf : ∀ c, ShutOnError (f c))
    (h : deliver f s = (.error failure, s')) : s'.Shut := by
  have hshut := hf s.supervisor.coordinator
  unfold deliver at h
  generalize f s.supervisor.coordinator = r at hshut h
  obtain ⟨_ | _, c⟩ := r <;> cases h
  exact hshut _ rfl

theorem failedEvent_shut (herror : (handleActiveEvent generation event nowNs s).1 = .error error)
    (hcontained : Contained generation nowNs s event) :
    (handleActiveEvent generation event nowNs s).2.Shut := by
  have hactive : s.supervisor.gate.isActive generation = true := by
    by_contra hstale
    rw [handleActiveEvent, ifActive, if_neg hstale] at herror
    cases herror
  -- The coordinator gates the session before it refuses an input.
  have hinput {session : CurrentAdmittedSession} {f : CoordinatorMethod ι ω PeerEventOutcome}
      (hserving : s.Serving session) (hevent : event ≠ .disconnected)
      (hf : ∀ c, ShutOnError (f c))
      (hcoordinator : deliverEvent session generation event nowNs s = deliver f s) :
      (handleActiveEvent generation event nowNs s).2.Shut := by
    obtain ⟨failure, s', hdeliver, hfailed⟩ :=
      handleActiveEvent_failed hactive hserving herror hevent
    rw [hfailed]
    exact (shut_triple (reconcileFatal_drives generation nowNs)).ignore
      (deliver_shut hf (hcoordinator.symm.trans hdeliver))
  have hlost {session : CurrentAdmittedSession}
      (hcurrent : s.supervisor.currentSession = some session) (hevent : event = .disconnected) :
      (handleActiveEvent generation event nowNs s).2.Shut := by
    have heq : handleActiveEvent generation event nowNs s
        = reconcileTransportLost generation nowNs s := by
      rw [handleActiveEvent, ifActive, if_pos hactive, if_pos hevent]
    rw [heq] at herror ⊢
    refine (reconcileTransportLost_shut hcurrent).resolve_left fun hstale => ?_
    rw [hstale] at herror
    cases herror
  cases hcontained with
  | shut hshut hclosed =>
    exact ((handleActiveEvent_drives generation event nowNs s).edits.shut hshut hclosed).1
  | disconnected hcurrent => exact hlost hcurrent rfl
  | @input session peer input hserving hadmitted hvalid =>
    refine hinput hserving nofun
      (handleEndpointMessage_shut · session.endpoint peer input nowNs) ?_
    rw [deliverEvent, deliverMessage, Step.bind_of_ok
      (Step.guard_of_true (by simp [hadmitted, WorkspaceSession.isPointerMessage])), if_neg nofun]
    exact Step.bind_of_ok (Step.check_of_ok hvalid)
  | @pointerDatagram session peer input hserving hadmitted hpolicy hvalid =>
    refine hinput hserving nofun
      (handleEndpointPointerDatagram_shut · session.endpoint peer input nowNs) ?_
    rw [deliverEvent, deliverPointerDatagram,
      Step.bind_of_ok (Step.guard_of_true (by simp [hadmitted, hpolicy]))]
    exact Step.bind_of_ok (Step.check_of_ok hvalid)
  | refused hserving hauthorized hrefused hreleased hretired =>
    by_cases hevent : event = .disconnected
    · exact hlost hserving.current hevent
    obtain ⟨failure, s', hdeliver, hfailed⟩ :=
      handleActiveEvent_failed hactive hserving herror hevent
    obtain ⟨-, rfl⟩ := Prod.mk.inj (hrefused.symm.trans hdeliver)
    rw [hfailed]
    exact reconcileFatal_shut hactive hserving hauthorized hreleased hretired

end Triples

/-- After the failure of such an event, and as long as no `Connected` hint meets
    the session, no event of the generation is injected, beyond the releases of
    what is held, and no capture is sent. -/
theorem failedEvent_silent {generation : ConnectionGeneration} {event : PeerEvent} {nowNs : ℕ}
    {s failed : SupervisedWorkspace ι ω} {error : PeerSessionSupervisorError}
    (hfailed : handleActiveEvent generation event nowNs s = (.error error, failed))
    (hcontained : Contained generation nowNs s event) {later : List Aftermath}
    (hlater : Admissible Aftermath.Unopened (Aftermath.apply generation) failed later) :
    let reached := execute (Aftermath.apply generation) failed later
    Injections IsRelease
        failed.supervisor.coordinator.injection reached.supervisor.coordinator.injection
      ∧ Offers (·.isRelease = true)
        failed.supervisor.coordinator.outbound reached.supervisor.coordinator.outbound := by
  have hshut := failedEvent_shut (congrArg Prod.fst hfailed) hcontained
  rw [hfailed] at hshut
  exact (Aftermath.execute_silent generation hshut hlater).2

end SupervisedWorkspace

namespace SupervisedWorkspace.Sample

def keyboard (side : Side) : InputDevice :=
  ⟨⟨7⟩, host side, "keyboard", none, none, .keyboard, ⟨false, true, false, false, false⟩⟩

/-- The left daemon knows the keyboard of the right host; its injector has no
    mapping for the power key. -/
def typing : SupervisedWorkspace (SelectiveInjector (· == .key (.named .power))) Fifo :=
  after (admitted .left ⟨[]⟩ ⟨[], fun _ => none, 0⟩) (.message (binding .left)
    (.deviceSnapshot ⟨2, host .right, [keyboard .right]⟩))

/-- The press of a key of the right keyboard. -/
def press (sequence usage : ℕ) : PeerEvent :=
  .message (binding .left) (.input ⟨sequence, 0, host .right, ⟨7⟩, .key ⟨7, usage⟩ .down⟩)

end SupervisedWorkspace.Sample

namespace SupervisedWorkspace

/-- The press of the power key fails, but its release cannot be injected and the generation stays
    active. After the next `Connected` hint the letter A of the same generation is injected. -/
theorem failedEvent_reopens :
    (handleActiveEvent Sample.generation (Sample.press 1 0x66) 0 Sample.typing).1
        = .error (.coordinator .injection)
      ∧ (Sample.after Sample.typing (Sample.press 1 0x66)
        ).supervisor.coordinator.injection.injected = []
      ∧ (execute (Aftermath.apply Sample.generation)
          (Sample.after Sample.typing (Sample.press 1 0x66))
          [.receive (.stateChanged .connected) 0, .receive (Sample.press 2 4) 0]
        ).supervisor.coordinator.injection.injected
          = [⟨2, 0, Sample.host .right, ⟨7⟩, .key (.named .keyA) .pressed⟩] := by
  decide +kernel

/-- Without the hint the letter is not injected. -/
theorem failedEvent_silent_pressed :
    (handleActiveEvent Sample.generation (Sample.press 1 0x66) 0 Sample.typing).1
        = .error (.coordinator .injection)
      ∧ PeerSessionCoordinator.Injections PeerSessionCoordinator.IsRelease
        (Sample.after Sample.typing (Sample.press 1 0x66)).supervisor.coordinator.injection
        (execute (Aftermath.apply Sample.generation)
          (Sample.after Sample.typing (Sample.press 1 0x66))
          [.receive (.stateChanged .degraded) 0, .receive (Sample.press 2 4) 0]
        ).supervisor.coordinator.injection := by
  have herror : (handleActiveEvent Sample.generation (Sample.press 1 0x66) 0 Sample.typing).1
      = .error (.coordinator .injection) := by decide +kernel
  have hlater : Admissible Aftermath.Unopened (Aftermath.apply Sample.generation)
      (Sample.after Sample.typing (Sample.press 1 0x66))
      [.receive (.stateChanged .degraded) 0, .receive (Sample.press 2 4) 0] :=
    ⟨nofun, nofun, trivial⟩
  refine ⟨herror, (failedEvent_silent (Prod.ext herror rfl) ?_ hlater).1⟩
  have hserving : Serving (Sample.session .left) Sample.typing :=
    ⟨by decide +kernel, by decide +kernel⟩
  exact .input hserving (by decide +kernel) (by decide +kernel)

end SupervisedWorkspace

end SoftwareKvm
