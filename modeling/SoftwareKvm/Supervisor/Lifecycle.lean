import SoftwareKvm.Supervisor.Ended

/-!
# The supervisor over whole runs

What the operations of `PeerSessionSupervisor` on a workspace
(`kvm-daemon/src/supervisor.rs`) keep in any order, whichever of them fail,
whatever tokens, generations and events they are given, and whatever happens to
the control plane and the outbound side between them.

* `run_sound`: the supervisor holds the token of the generation that its gate has
  active, and its current session is one of that generation.
* `ended_stays_offline`: one that was revoked or shut down and has no active
  generation never has one again, also if an admission is still on its way.
-/

namespace SoftwareKvm

open Lib Step

namespace SupervisedWorkspace

open PeerSessionSupervisor (acceptActivation onGate withRouteAuthority prepareRoutePolicyUpdate
  retryRoutePolicyUpdate commitRoutePolicyUpdate abortRoutePolicyUpdate gateLocalDevices
  restoreLocalDevice)
open PeerSessionCoordinator (edits_parts)

variable {ι ω : Type}

theorem Sound.session_none {s : SupervisedWorkspace ι ω} (h : s.Sound)
    (hgate : s.supervisor.gate.active = none) : s.supervisor.currentSession = none :=
  Option.eq_none_iff_forall_ne_some.2 fun session hs => by simpa [hgate] using h.session session hs

theorem requireRouting_keeps : (requireRouting : SupervisorStep ι ω _).Ensures Keeps :=
  .bind (.need _ _) fun _ => .bind (.need _ _) fun _ => .bind (.guard _ _) fun _ => .pure _

section Parameters

variable [OutputInjectionBackend ι] [OutboundPeer ω] (generation : ConnectionGeneration) (nowNs : ℕ)

theorem keeps_of_drives {ε α : Type} {x : Step ε (SupervisedWorkspace ι ω) α}
    (hx : x.Ensures (Drives True)) : x.Ensures Keeps :=
  hx.mono fun _ _ h => h.keeps

theorem reconcileFatal_keeps :
    (reconcileFatal generation nowNs : SupervisorStep ι ω _).Ensures Keeps :=
  keeps_of_drives (reconcileFatal_drives generation nowNs)

theorem reconcileShutdown_keeps :
    (reconcileShutdown generation nowNs : SupervisorStep ι ω _).Ensures Keeps :=
  keeps_of_drives <| ifActive_drives generation <|
    reconcileLive_drives generation nowNs fun c => edits_parts.shutdown c nowNs

theorem orFail_keeps {α : Type} {x : DeliveryStep ι ω α} (hx : x.Ensures Keeps) :
    (orFail generation nowNs x).Ensures Keeps :=
  orFail_ensures generation (reconcileFatal_keeps generation nowNs) hx

/-! ## Events -/

theorem acceptActivation_cases {s : PeerSessionSupervisor ι ω} {token : ActiveConnection}
    (hgate : s.gate.active = some token.generation) (endpoint : SessionEndpoint)
    (peer : AdmittedSessionBinding) :
    (∃ error coordinator, acceptActivation token endpoint peer nowNs s =
      (.error error, { s with coordinator, gate := s.gate.clearActive })) ∨
    s.lifecycle = .running ∧ ∃ outcome coordinator,
      acceptActivation token endpoint peer nowNs s =
        (.ok outcome, { s with coordinator, active := some token }) := by
  unfold acceptActivation
  rw [bind_of_ok (rfl : Step.read _ s = _)]
  by_cases hrunning : s.lifecycle = .running
  · rw [if_neg (not_not.2 hrunning), bind_of_ok (rfl : Step.attempt _ s = _)]
    dsimp only [PeerSessionSupervisor.onCoordinator]
    rcases s.coordinator.activateAdmittedEndpoint endpoint peer nowNs with
      ⟨error | outcome, coordinator⟩
    · refine .inl ⟨.coordinator error, coordinator, ?_⟩
      simp [bind_apply, Except.mapError, onGate, finishActive_ok hgate, Step.fail]
    · exact .inr ⟨hrunning, _, coordinator, rfl⟩
  · refine .inl ⟨.unavailable, s.coordinator, ?_⟩
    rw [if_pos hrunning]
    simp [bind_apply, Except.mapError, onGate, finishActive_ok hgate, Step.fail]

/-- Between the activation of the gate and that of the supervisor neither holds a
    session. A supervisor that has ended gives the token back. -/
theorem handleActivation_keeps {s : SupervisedWorkspace ι ω} {token : ActiveConnection}
    (htoken : token.generation = generation) (peer : AdmittedSessionBinding)
    (hgate : s.supervisor.gate.active = some generation) (hactive : s.supervisor.active = none)
    (hsession : s.supervisor.currentSession = none) :
    (handleActivation generation token peer nowNs s).2.Sound ∧
      (s.Ended → (handleActivation generation token peer nowNs s).2.Ended) := by
  subst htoken
  unfold handleActivation
  cases hadmitted : CurrentAdmittedSession.fromAdmitted token.generation peer with
  | none =>
    simp only [onSupervisor, onGate, zoom, bind_apply, finishActive_ok hgate]
    exact ⟨sound_of_idle rfl hactive hsession, id⟩
  | some session =>
    rcases acceptActivation_cases nowNs hgate session.endpoint peer with
      ⟨error, coordinator, heq⟩ | ⟨hrunning, outcome, coordinator, heq⟩
    · simp only [onSupervisor, zoom, bind_apply, heq]
      exact ⟨sound_of_idle rfl hactive hsession, id⟩
    · refine ⟨?_, fun h => absurd hrunning h.1⟩
      have hgeneration : session.generation = token.generation := by
        unfold CurrentAdmittedSession.fromAdmitted SessionEndpoint.fromAdmitted at hadmitted
        split_ifs at hadmitted <;> cases hadmitted
        rfl
      simp only [bind_apply, onSupervisor, zoom, heq, update]
      have hsound : SupervisedWorkspace.Sound (ι := ι) (ω := ω) ⟨{ s.supervisor with
          coordinator, active := some token, currentSession := some session
          workspaceReconciliation := none }, s.plane⟩ :=
        ⟨hgate, by rintro _ ⟨⟩; exact hgeneration ▸ hgate⟩
      exact (Ensures.bind (orFail_keeps _ nowNs fun _ => keeps_of_engine rfl)
        (fun _ => .pure outcome) _ hsound).1

theorem handleBoundEvent_keeps (bound : GenerationBoundPeerEvent) :
    (handleBoundEvent bound nowNs : SupervisorStep ι ω _).Ensures Keeps := by
  intro s
  unfold handleBoundEvent
  rw [bind_of_ok (rfl : Step.read _ s = _)]
  split_ifs
  · exact refl_of Keeps s
  simp only [bind_apply, onSupervisor, zoom, onGate,
    GenerationBoundPeerEvent.apply]
  cases hstate : bound.state with
  | pending => exact refl_of Keeps s
  | active =>
    dsimp only
    cases s.supervisor.gate.validateActiveGeneration bound.generation with
    | error error => exact refl_of Keeps s
    | ok _ =>
      cases bound.event with
      | none => exact refl_of Keeps s
      | some event => exact (handleActiveEvent_drives bound.generation event nowNs s).keeps
  | cancelled token =>
    dsimp only
    fun_cases ConnectionGenerationGate.cancelPending <;> exact keeps_of_engine rfl
  | admission token =>
    obtain ⟨peer, hevent⟩ := bound.admits token hstate
    dsimp only
    fun_cases ConnectionGenerationGate.activate
    case case3 hidle =>
      intro hs
      have hnone : s.supervisor.gate.active = none := by simpa using hidle
      have hactive : s.supervisor.active = none := by simpa [hnone] using hs.token.symm
      rw [hevent, ← bound.bound token (by rw [hstate]; rfl)]
      dsimp only [Except.mapError]
      refine handleActivation_keeps _ nowNs ?_ peer ?_ ?_ ?_
      exacts [rfl, rfl, hactive, hs.session_none hnone]
    all_goals exact refl_of Keeps s

/-! ## Runs -/

theorem sendControl_keeps (message : WireMessage) :
    (sendControl generation message nowNs : SupervisorStep ι ω _).Ensures Keeps := by
  refine .bind (.attempt fun _ => keeps_of_engine rfl) fun result => ?_
  cases result with
  | ok _ => exact .pure _
  | error error => exact .bind (reconcileFatal_keeps generation nowNs) fun _ => .fail _

theorem workspaceOperation_keeps {α : Type} (x : _ → PlaneStep ι ω α) :
    (workspaceOperation nowNs x).Ensures Keeps :=
  .bind requireRouting_keeps fun _ => orFail_keeps _ nowNs fun _ => keeps_of_engine rfl

omit [OutputInjectionBackend ι] [OutboundPeer ω] in
theorem withRouteAuthority_keeps {ε α : Type} (refused : ε) (authority)
    (f : _ → Except ε α × PeerSessionCoordinator ι ω) :
    (onSupervisor (withRouteAuthority refused authority f)).Ensures Keeps := by
  intro s
  unfold onSupervisor zoom withRouteAuthority
  split_ifs <;> exact keeps_of_engine rfl

end Parameters

section Runs

variable [OutputInjectionBackend ι] [OutboundPeer ω]

/-- The methods that a manager with a workspace calls, and what it does to the
    control plane and to the outbound side between them. -/
inductive Method : {ε α : Type} → Step ε (SupervisedWorkspace ι ω) α → Prop
  | beginPending direction : Method (onSupervisor (PeerSessionSupervisor.beginPending direction))
  | cancelPending token : Method (onSupervisor (PeerSessionSupervisor.cancelPending token))
  | handleBoundEvent bound nowNs : Method (handleBoundEvent bound nowNs)
  | connectionLost generation nowNs : Method (connectionLost generation nowNs)
  | connectionTaskLost generation nowNs : Method (connectionTaskLost generation nowNs)
  | revoke nowNs : Method (revoke nowNs)
  | shutdown nowNs : Method (shutdown nowNs)
  | retryReconciliation nowNs : Method (retryReconciliation nowNs)
  | proposePointerHandoff edge position nowNs : Method (proposePointerHandoff edge position nowNs)
  | pollPointerTimeout nowNs : Method (pollPointerTimeout nowNs)
  | prepareLocalInventoryChange nowNs : Method (prepareLocalInventoryChange nowNs)
  | refreshSelectedWorkspace nowNs : Method (refreshSelectedWorkspace nowNs)
  | prepareRoutePolicyUpdate authority candidate revision nowNs :
      Method (onSupervisor (prepareRoutePolicyUpdate authority candidate revision nowNs))
  | retryRoutePolicyUpdate authority nowNs :
      Method (onSupervisor (retryRoutePolicyUpdate authority nowNs))
  | commitRoutePolicyUpdate authority revision nowNs :
      Method (onSupervisor (commitRoutePolicyUpdate authority revision nowNs))
  | abortRoutePolicyUpdate authority revision nowNs :
      Method (onSupervisor (abortRoutePolicyUpdate authority revision nowNs))
  | gateLocalDevices authority devices nowNs :
      Method (onSupervisor (gateLocalDevices authority devices nowNs))
  | restoreLocalDevice authority device nowNs :
      Method (onSupervisor (restoreLocalDevice authority device nowNs))
  | replaceWorkspaceTopology placements links nowNs :
      Method (replaceWorkspaceTopology placements links nowNs)
  | sendLocalSnapshot snapshot nowNs : Method (sendLocalSnapshot snapshot nowNs)
  | sendLocalDeviceSnapshot generation snapshot nowNs :
      Method (sendLocalDeviceSnapshot generation snapshot nowNs)
  | routeCapture captured nowNs : Method (routeCapture captured nowNs)
  | nativeCaptureDiscontinued nowNs : Method (nativeCaptureDiscontinued nowNs)
  | selectedLifecycleTick nowNs : Method (selectedLifecycleTick nowNs)
  | plane {ε : Type} (f : _ → WorkspaceControlPlane) :
      Method (Step.update fun s => { s with plane := f s.plane } : Step ε _ _)
  | outbound {ε : Type} (f : ω → ω) : Method (Step.update fun s => { s with
      supervisor.coordinator.outbound := f s.supervisor.coordinator.outbound } : Step ε _ _)

/-- A run: methods in any order, their results dropped. -/
inductive Run (s : SupervisedWorkspace ι ω) : SupervisedWorkspace ι ω → Prop
  | nil : Run s s
  | call {t : SupervisedWorkspace ι ω} {ε α : Type} {x : Step ε (SupervisedWorkspace ι ω) α}
      (h : Run s t) (hx : Method x) : Run s (x t).2

theorem Method.keeps {ε α : Type} {x : Step ε (SupervisedWorkspace ι ω) α} (hx : Method x) :
    x.Ensures Keeps := by
  cases hx with
  | beginPending direction =>
    intro s
    simp only [onSupervisor, zoom, PeerSessionSupervisor.beginPending, bind_apply, Step.guard]
    split_ifs
    · dsimp only [onGate]
      fun_cases ConnectionGenerationGate.beginPending <;> exact keeps_of_engine rfl
    · exact refl_of Keeps s
  | cancelPending token =>
    intro s
    dsimp only [onSupervisor, zoom, PeerSessionSupervisor.cancelPending, onGate]
    fun_cases ConnectionGenerationGate.cancelPending <;> exact keeps_of_engine rfl
  | handleBoundEvent bound nowNs => exact handleBoundEvent_keeps nowNs bound
  | connectionLost generation nowNs =>
    exact keeps_of_drives (ifActive_drives _ (reconcileTransportLost_drives _ nowNs))
  | connectionTaskLost generation nowNs =>
    intro s
    unfold SupervisedWorkspace.connectionTaskLost onSupervisor zoom
      PeerSessionSupervisor.connectionTaskLost
    split_ifs
    · exact keeps_of_drives (ifActive_drives _ (reconcileTransportLost_drives _ nowNs)) s
    · fun_cases ConnectionGenerationGate.abandonPending <;> exact keeps_of_engine rfl
  | revoke nowNs =>
    refine .bind (fun s => ?_) fun _ => .bind (.read _) fun active => ?_
    · show Keeps s { s with supervisor := if _ then _ else _ }
      split_ifs
      · exact refl_of Keeps s
      · exact fun hs => ⟨⟨hs.token, hs.session⟩, fun he => ⟨by simp, he.2⟩⟩
    · cases active with
      | none => exact fun _ => keeps_of_engine rfl
      | some generation => exact .bind (reconcileFatal_keeps generation nowNs) fun _ => .pure _
  | shutdown nowNs =>
    refine .bind (fun s => ?_) fun _ => .bind (.read _) fun active => ?_
    · exact fun hs => ⟨⟨hs.token, hs.session⟩, fun he => ⟨by rintro ⟨⟩, he.2⟩⟩
    · cases active with
      | none => exact fun _ => keeps_of_engine rfl
      | some generation =>
        exact .bind (reconcileShutdown_keeps generation nowNs) fun _ => .pure _
  | retryReconciliation nowNs =>
    refine .bind (.need _ _) fun generation => .bind (.read _) fun phase => .bind (.read _)
      fun lifecycle => ?_
    split
    · exact keeps_of_drives (reconcileGracefullySettled_drives generation nowNs)
    · exact keeps_of_drives (reconcileTransportLost_drives generation nowNs)
    · exact reconcileFatal_keeps generation nowNs
    · exact reconcileFatal_keeps generation nowNs
    · exact reconcileShutdown_keeps generation nowNs
  | proposePointerHandoff edge position nowNs => exact workspaceOperation_keeps nowNs _
  | pollPointerTimeout nowNs => exact workspaceOperation_keeps nowNs _
  | prepareLocalInventoryChange nowNs => exact workspaceOperation_keeps nowNs _
  | refreshSelectedWorkspace nowNs => exact workspaceOperation_keeps nowNs _
  | prepareRoutePolicyUpdate authority => exact withRouteAuthority_keeps _ authority _
  | retryRoutePolicyUpdate authority => exact withRouteAuthority_keeps _ authority _
  | commitRoutePolicyUpdate authority => exact withRouteAuthority_keeps _ authority _
  | abortRoutePolicyUpdate authority => exact withRouteAuthority_keeps _ authority _
  | gateLocalDevices authority => exact withRouteAuthority_keeps _ authority _
  | restoreLocalDevice authority => exact withRouteAuthority_keeps _ authority _
  | replaceWorkspaceTopology placements links nowNs =>
    refine .bind requireRouting_keeps fun _ =>
      .bind (.attempt fun _ => keeps_of_engine rfl) fun _ => ?_
    split
    · exact .pure _
    · exact .fail _
    · exact .fail _
    · exact .bind (reconcileFatal_keeps _ nowNs) fun _ => .fail _
  | sendLocalSnapshot snapshot nowNs =>
    exact .bind requireRouting_keeps fun _ => sendControl_keeps _ nowNs _
  | sendLocalDeviceSnapshot generation snapshot nowNs =>
    exact .bind (.guard _ _) fun _ => .bind requireRouting_keeps fun _ =>
      sendControl_keeps generation nowNs _
  | routeCapture captured nowNs => exact keeps_of_drives (routeCapture_drives captured nowNs)
  | nativeCaptureDiscontinued nowNs =>
    refine .bind (.read _) fun active => ?_
    cases active with
    | none => exact .pure _
    | some generation =>
      exact .bind (.need _ _) fun _ => orFail_keeps generation nowNs fun _ => keeps_of_engine rfl
  | selectedLifecycleTick nowNs =>
    refine .bind (fun _ => keeps_of_engine rfl) fun changed => .bind (.read _) fun active => ?_
    cases active with
    | none => exact .pure _
    | some generation =>
      exact .bind (.need _ _) fun _ => .bind (.guard _ _) fun _ =>
        .bind (orFail_keeps generation nowNs fun _ => keeps_of_engine rfl) fun _ => .pure _
  | plane f => exact fun _ => keeps_of_engine rfl
  | outbound f => exact fun _ => keeps_of_engine rfl

theorem Run.keeps {s t : SupervisedWorkspace ι ω} (h : Run s t) : Keeps s t := by
  induction h with
  | nil => exact refl_of Keeps s
  | call _ hx ih => exact trans_of Keeps ih (hx.keeps _)

variable {gate : ConnectionGenerationGate} {coordinator : PeerSessionCoordinator ι ω}
  {plane : WorkspaceControlPlane} {s t : SupervisedWorkspace ι ω}

/-- In every run the token and the session are those of the active generation. -/
theorem run_sound (hgate : gate.active = none) (h : Run ⟨.new gate coordinator, plane⟩ s) :
    s.Sound := (h.keeps (sound_of_idle hgate rfl rfl)).1

/-- Once it is revoked or shut down without an active generation, a supervisor
    never has one again, nor a session, whatever is still presented to it. -/
theorem ended_stays_offline (hgate : gate.active = none)
    (before : Run ⟨.new gate coordinator, plane⟩ s) (hended : s.Ended) (after : Run s t) :
    t.supervisor.isOffline = true := by
  obtain ⟨ht, hkept⟩ := after.keeps (before.keeps (sound_of_idle hgate rfl rfl)).1
  have hidle : t.supervisor.gate.active = none := by simp [ht.token, (hkept hended).2]
  simp [PeerSessionSupervisor.isOffline, hidle, ht.session_none hidle]

end Runs

/-- The left daemon of the sample accepts its peer. -/
theorem run_sound_admitted : (Sample.admitted .left ⟨[]⟩ ⟨[], fun _ => none, 0⟩ :
    SupervisedWorkspace Recorder Fifo).Sound :=
  run_sound (by decide +kernel) (.call (.call .nil (.beginPending _)) (.handleBoundEvent _ 0))

/-- It is shut down while the admission is on its way. -/
theorem ended_stays_offline_admission : (handleBoundEvent (Sample.admission .left) 1 (shutdown 0
    (onSupervisor (PeerSessionSupervisor.beginPending .outbound) (Sample.created .left ⟨[]⟩
      ⟨[], fun _ => none, 0⟩ : SupervisedWorkspace Recorder Fifo)).2).2).2.supervisor.isOffline
        = true :=
  ended_stays_offline (by decide +kernel) (.call (.call .nil (.beginPending _)) (.shutdown 0))
    ⟨by decide +kernel, by decide +kernel⟩ (.call .nil (.handleBoundEvent _ 1))

end SupervisedWorkspace

end SoftwareKvm
