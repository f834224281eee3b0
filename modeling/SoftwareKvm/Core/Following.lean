import SoftwareKvm.Core.Resolved

/-!
# Held input follows its route

Every entry of `remote_held` without a queued release belongs to the installed
endpoint of its host, and its route resolves to that endpoint.

Results:
* `CoreAction.follows`: one call keeps this, together with the tidy queue and
  a pending decision whose route resolves to its endpoint.
* `held_follows_route`: so does every run in which nothing unqueued follows the
  active host when authority returns to the local host without a cleanup; the
  assertion of `commit_route_policy_update` then holds.
* `held_unresolved`: a retried cleanup release leaves another held control with
  a route that does not resolve, and the commit of a staged policy is reached.

**Deviation.** `retry_cleanup_release`, `cancel_pointer_handoff` and a stale
settlement assign `active_host` without a cleanup.
-/

namespace SoftwareKvm

open Lib DaemonCore

namespace DaemonCore

variable {c c' : DaemonCore} {nowNs : ℕ}

/-! ## Captured events -/

/-- The pending decision has the route of its device, which resolves to its
    endpoint and does not follow the active host during a handoff. -/
structure PendingFollows (c : DaemonCore) (pending : PendingRemoteDecision) : Prop where
  route : c.confirmedRoute pending = c.routing.routeFor pending.device
  resolves : c.Resolves pending.endpoint (c.routing.routeFor pending.device)
  barrier : c.handoffPending = true → c.routing.routeFor pending.device ≠ .followActiveHost

/-- The invariant of a run in which held input follows its route. -/
structure Follows (c : DaemonCore) : Prop where
  sound : c.Sound
  routed : c.Routed
  resolved : c.Resolved
  pending : ∀ pending ∈ c.pendingRemote, c.PendingFollows pending

theorem Follows.of_unpending (hs : c.Sound) (hr : c.Routed) (h : c.Resolved)
    (hnone : c.pendingRemote = none) : c.Follows :=
  ⟨hs, hr, h, fun pending hp => (nomatch (hnone ▸ hp : pending ∈ none))⟩

theorem recordTransition_pendingFollows {c₁ : DaemonCore} {event : InputEvent}
    {stateful : Option ControlTransition}
    {previousLatch : Option LatchedDestination} {endpoint : SessionEndpoint} (id : ℕ)
    (h : c.recordTransition event.sourceDevice stateful nowNs = (.ok previousLatch, c₁))
    (hf : c.Follows) (htarget : RemoteTarget c₁ event previousLatch endpoint nowNs) :
    c₁.PendingFollows (pendingFor ⟨id, endpoint, event⟩ (stateful.map Prod.fst)
      (stateful.map Prod.snd) previousLatch) := by
  obtain ⟨⟨controls, count, heq⟩, hprev, -⟩ := recordTransition_ok h
  cases htarget with
  | routed target hnone _ hdest htarget =>
    obtain ⟨⟨current, hget, rfl⟩, hbarrier⟩ := remoteTargetEndpoint_some htarget
    have hhost : current.endpoint.hostId = target := by
      rw [heq] at hget
      exact hf.routed.keyed target current hget
    refine ⟨?_, resolves_iff.mpr ⟨?_, ?_⟩, hbarrier⟩
    · rw [hnone]
      rfl
    · -- the destination of an event is the host that its route resolves to
      show routeResolvesToTarget (c₁.routing.routeFor event.sourceDevice)
        current.endpoint.hostId _ = true
      rw [hhost]
      unfold RoutingTable.destination RoutingTable.destinationForDevice at hdest
      have hne : target ≠ c₁.workspace.localHost := by grind
      split_ifs at hdest
      cases hroute : c₁.routing.routeFor event.sourceDevice with
      | «local» =>
        rw [hroute] at hdest
        cases hdest
      | followActiveHost | host =>
        rw [hroute] at hdest
        simp only at hdest
        split_ifs at hdest
        cases hdest
        simpa [routeResolvesToTarget] using hne
    · refine endpointIsCurrent_iff.mpr ⟨current, ?_, rfl⟩
      show c₁.endpointAvailability.get? current.endpoint.hostId = _
      rw [hhost]
      exact hget
  | latched route hlatch htarget =>
    -- the latch has the route of its device, and its hold is resolved
    cases stateful with
    | none =>
      rw [hlatch] at hprev
      cases hprev
    | some tracked =>
      obtain ⟨k, t⟩ := tracked
      have hremote : c.latch? event.sourceDevice k = some (.remote endpoint route) :=
        hprev.symm.trans hlatch
      have hroute : route = c.routing.routeFor event.sourceDevice :=
        hf.routed.latched _ _ _ _ hremote
      obtain ⟨hheld, hnot⟩ := hf.sound.tidy.ledger.latched hremote
      obtain ⟨held, hget⟩ := Option.isSome_iff_exists.mp hheld
      have hresolves := hf.resolved.resolves _ held hget hnot
      rw [hf.routed.held _ held hget] at hresolves
      have hbarrier := (remoteTargetEndpoint_some htarget).2
      rw [hroute] at hbarrier
      subst heq
      refine ⟨?_, hresolves, hbarrier⟩
      rw [hlatch]
      exact hroute

theorem failClosed_routed (h : c.Routed) (nowNs : ℕ) : (c.failClosed nowNs).2.Routed := by
  have hclosed : c.closeGate.Routed := { h with }
  exact { queueRemoteCleanup_routed hclosed allHeld with }

theorem activateFailsafe_routed (h : c.Routed) (nowNs : ℕ) :
    (c.activateFailsafe nowNs).2.Routed := by
  have hsuspended : (c.suspendRouting nowNs).Routed := { h with }
  have hq := queueRemoteCleanup_routed hsuspended allHeld
  unfold activateFailsafe
  generalize (c.suspendRouting nowNs).queueRemoteCleanup allHeld = r at hq ⊢
  obtain ⟨_ | _, c'⟩ := r <;> exact { hq with }

theorem setLatch_routed (h : c.Routed) (d : DeviceId) (k : PhysicalControl)
    {l : LatchedDestination} (hl : isRemoteLatch (some l) = false) : (c.setLatch d k l).Routed := by
  refine { h with latched := fun d' k' e r hlatch => h.latched d' k' e r ?_ }
  rw [latch?_setLatch] at hlatch
  split_ifs at hlatch
  · obtain ⟨_, -, rfl⟩ := Option.map_eq_some_iff.mp hlatch
    cases hl
  · exact hlatch

theorem failClosed_follows (h : c.Tidy) (hr : c.Routed) (hnone : c.pendingRemote = none)
    (hids : c.nextEffectId + c.remoteHeld.size < u64Size) (nowNs : ℕ) :
    (c.failClosed nowNs).2.Follows := by
  have hpending := (failClosed_frame c nowNs).pendingRemote.trans hnone
  exact .of_unpending ((failClosed_tidy h nowNs).sound hpending) (failClosed_routed hr nowNs)
    (failClosed_resolved h hids nowNs) hpending

theorem prepareCaptured_follows (h : c.Follows)
    (hids : c.nextEffectId + c.remoteHeld.size < u64Size) (captured : CapturedInput) (nowNs : ℕ) :
    (c.prepareCaptured captured nowNs).2.Follows := by
  have hsound := prepareCaptured_sound h.sound captured nowNs
  have has := prepareCaptured_as c captured nowNs
  generalize c.prepareCaptured captured nowNs = r at has hsound ⊢
  cases has with
  | busy | untracked => exact h
  | refused e c' hunpending _ hrecord =>
    obtain ⟨-, rfl, -⟩ := recordTransition_error hrecord
    refine failClosed_follows (c := c.activateLocal.unready) ?_ ?_ hunpending hids nowNs
    · exact h.sound.tidy.of_fields rfl rfl rfl rfl le_rfl rfl
    · exact { h.routed with }
  | recorded c₁ previousLatch _ hunpending _ hrecord has =>
    have htidy := recordTransition_tidy hrecord h.sound.tidy
    have hlatch := @recordTransition_latch_remote _ _ _ _ _ _ (h := hrecord)
    have hpending (endpoint : SessionEndpoint) (id : ℕ)
        (htarget : RemoteTarget c₁ captured.event previousLatch endpoint nowNs) :=
      recordTransition_pendingFollows id hrecord h htarget
    obtain ⟨⟨controls, count, heq⟩, -, -⟩ := recordTransition_ok hrecord
    have hnone : c₁.pendingRemote = none := heq ▸ hunpending
    have hids₁ : c₁.nextEffectId + c₁.remoteHeld.size < u64Size := by rw [heq]; exact hids
    have hrouted : c₁.Routed := by
      rw [heq] at hlatch ⊢
      exact { h.routed with
        latched := fun d k e r hl => h.routed.latched d k e r (hlatch d k e r hl) }
    have hresolved : c₁.Resolved := by
      rw [heq]
      exact { h.resolved with }
    cases has with
    | passes | inert | barred => exact .of_unpending hsound hrouted hresolved hnone
    | closed => exact failClosed_follows htidy hrouted hnone hids₁ nowNs
    | activated =>
      have hpending := (activateFailsafe_frame { c₁ with drainFailsafeKeys := true } nowNs
        ).pendingRemote.trans hnone
      have hdraining : Tidy { c₁ with drainFailsafeKeys := true } :=
        htidy.of_fields rfl rfl rfl rfl le_rfl rfl
      have hdraining' : Routed { c₁ with drainFailsafeKeys := true } :=
        { hrouted with }
      exact .of_unpending hsound (activateFailsafe_routed hdraining' nowNs)
        (activateFailsafe_resolved hdraining hids₁ nowNs) hpending
    | draining =>
      refine .of_unpending hsound ?_ ?_ ?_
      all_goals split_ifs
      · exact { hrouted with }
      · exact { hrouted with }
      · exact { hresolved with }
      · exact { hresolved with }
      · exact hnone
      · exact hnone
    | quarantined k =>
      refine .of_unpending hsound
        (setLatch_routed hrouted captured.event.sourceDevice k rfl) ?_ hnone
      exact { hresolved with }
    | remote endpoint hfits htransition hroom htarget =>
      refine ⟨hsound, { hrouted with },
        { hresolved with }, fun pending hp => ?_⟩
      cases hp
      exact { hpending endpoint c₁.nextEffectId htarget with }

/-! ## Settling a decision -/

variable {pending : PendingRemoteDecision} {effect : RemoteInputEffect}

/-- A confirmed press is a hold with the route of its device. -/
theorem Follows.confirm_press {k : PhysicalControl}
    {sequence : ℕ} (h : c.Follows) (hp : c.PendingFollows pending) (hnone : c.pendingRemote = none)
    (hs : (publish (setLatch
      { c with remoteHeld :=
          c.remoteHeld.insert (pending.heldKey k) ⟨c.confirmedRoute pending, sequence⟩ }
      pending.device k (.remote pending.endpoint (c.confirmedRoute pending))) nowNs).Sound) :
    (publish (setLatch
      { c with remoteHeld :=
          c.remoteHeld.insert (pending.heldKey k) ⟨c.confirmedRoute pending, sequence⟩ }
      pending.device k (.remote pending.endpoint (c.confirmedRoute pending))) nowNs).Follows := by
  rw [hp.route] at hs ⊢
  refine .of_unpending hs (Routed.published ?_ nowNs) (Resolved.published ?_ nowNs) hnone
  · refine { h.routed with
      held := OrdMap.forall_insert _ h.routed.held rfl, latched := fun d k' e r hl => ?_ }
    rw [latch?_setLatch] at hl
    split_ifs at hl with hdk
    · obtain ⟨_, -, hnew⟩ := Option.map_eq_some_iff.mp hl
      cases hnew
      rw [hdk.1]
      rfl
    · exact h.routed.latched d k' e r hl
  · refine ⟨fun key held hget hnot => ?_, fun hpending key held hget hroute => ?_,
      h.resolved.staged⟩
    · rcases OrdMap.get?_insert_cases hget with ⟨rfl, rfl⟩ | hold
      · exact hp.resolves
      · exact h.resolved.resolves key held hold hnot
    · rcases OrdMap.get?_insert_cases hget with ⟨rfl, rfl⟩ | hold
      · exact absurd hroute (hp.barrier hpending)
      · exact h.resolved.barrier hpending key held hold hroute

theorem confirmTaken_follows (h : c.Follows)
    (hnone : c.pendingRemote = none) (hsound : c.PendingSound pending)
    (hp : c.PendingFollows pending) (hids : c.nextEffectId + c.remoteHeld.size < u64Size)
    (hpress : pending.transition = some .press → ∀ k ∈ pending.control,
      pending.heldKey k ∉ c.queuedKeys) (sequence nowNs : ℕ) :
    (c.confirmTaken pending sequence nowNs).2.Follows := by
  have hs := confirmTaken_sound h.sound.tidy hnone hsound hpress sequence nowNs
  have hspec := confirmTaken_spec c pending sequence nowNs
  generalize c.confirmTaken pending sequence nowNs = r at hspec hs ⊢
  -- no hold is new or changes its route
  have hsub {remoteHeld : OrdMap HeldKey RemoteHeldState}
      (hs : (publish { c with remoteHeld } nowNs).Sound)
      (hheld : ∀ key held, remoteHeld.get? key = some held →
        ∃ held', c.remoteHeld.get? key = some held' ∧ held'.route = held.route) :
      (publish { c with remoteHeld } nowNs).Follows := by
    refine .of_unpending hs { h.routed with held := fun key held hget => ?_ }
      (h.resolved.keep (fun key held hget hnot => ?_) rfl rfl id id) hnone
    all_goals obtain ⟨held', hget', hroute⟩ := hheld key held hget
    · exact hroute ▸ h.routed.held key held' hget'
    · exact ⟨held', hget', hroute, hnot⟩
  cases hspec with
  | full | stale => exact failClosed_follows h.sound.tidy h.routed hnone hids nowNs
  | press k => exact h.confirm_press hp hnone hs
  | release k =>
    exact hsub hs (OrdMap.forall_erase _ (fun _ held hget => ⟨held, hget, rfl⟩) (pending.heldKey k))
  | repeated =>
    exact hsub hs (OrdMap.forall_modify _ (fun _ held hget => ⟨held, hget, rfl⟩) fun _ => id)
  | stateless =>
    exact .of_unpending hs { h.routed with }
      (h.resolved.published nowNs) hnone

theorem Follows.taken (h : c.Follows) : Follows { c with pendingRemote := none } := by
  have htidy : Tidy { c with pendingRemote := none } :=
    h.sound.tidy.of_fields rfl rfl rfl rfl le_rfl rfl
  exact .of_unpending (htidy.sound rfl) { h.routed with }
    { h.resolved with } rfl

theorem PendingFollows.taken (h : c.PendingFollows pending) :
    PendingFollows { c with pendingRemote := none } pending := { h with }

/-- A settlement of no decision closes the gate. -/
theorem Follows.closeGate (h : c.Follows) (hnone : c.pendingRemote = none)
    (hq : c.FollowQueued) (nowNs : ℕ) : (c.closeGate.publish nowNs).Follows := by
  have htidy : c.closeGate.Tidy := h.sound.tidy.of_fields rfl rfl rfl rfl le_rfl rfl
  have hrouted : c.closeGate.Routed := { h.routed with }
  have hresolved : c.closeGate.Resolved :=
    { h.resolved.activateLocal hq with }
  exact .of_unpending ((htidy.published nowNs).sound hnone) (hrouted.published nowNs)
    (hresolved.published nowNs) hnone

theorem failTaken_follows (h : c.Follows) (hnone : c.pendingRemote = none)
    (hids : c.nextEffectId + c.remoteHeld.size < u64Size) (pending : PendingRemoteDecision)
    (nowNs : ℕ) : (c.failTaken pending nowNs).2.Follows := by
  unfold failTaken
  split
  · next control _ =>
    refine failClosed_follows (setLatch_tidy h.sound.tidy _ _ rfl)
      (setLatch_routed h.routed _ _ rfl)
      hnone hids nowNs
  · exact failClosed_follows h.sound.tidy h.routed hnone hids nowNs

theorem failRemoteInput_follows (h : c.Follows)
    (hids : c.nextEffectId + c.remoteHeld.size < u64Size)
    (hsettles : ∀ pending ∈ c.pendingRemote, pending.id = effect.decisionId)
    (hq : c.pendingRemote = none → c.FollowQueued) (nowNs : ℕ) :
    (c.failRemoteInput effect nowNs).2.Follows := by
  unfold failRemoteInput
  rcases takeMatchingRemote_settles hsettles nowNs with ⟨pending, -, htake⟩ | ⟨hnone, htake⟩
  · rw [htake]
    exact failTaken_follows h.taken rfl hids pending nowNs
  · rw [htake]
    exact h.closeGate hnone (hq hnone) nowNs

end DaemonCore

/-- One call keeps held input on its route. -/
theorem CoreAction.follows {c : DaemonCore} {a : CoreAction} (hsettles : a.Settles c)
    (hfresh : a.ConfirmsUnqueued c) (hcloses : a.ClosesQueued c) (hids : c.IdentifiersLeft)
    (h : c.Follows) : (a.apply c).Follows := by
  have hleft : c.nextEffectId + c.remoteHeld.size < u64Size := Nat.lt_of_succ_lt hids
  cases a with
  | prepare captured now => exact prepareCaptured_follows h hleft captured now
  | confirm effect sequence now =>
    show (c.confirmRemoteInput effect sequence now).2.Follows
    unfold DaemonCore.confirmRemoteInput
    rcases takeMatchingRemote_settles hsettles now with ⟨pending, hp, htake⟩ | ⟨hnone, htake⟩
    · rw [htake]
      exact confirmTaken_follows h.taken rfl (h.sound.pending pending hp).taken
        (h.pending pending hp).taken hleft (hfresh pending hp) sequence now
    · rw [htake]
      exact h.closeGate hnone (hcloses hnone) now
  | fail effect now => exact failRemoteInput_follows h hleft hsettles hcloses now
  | process captured now =>
    show (c.processCaptured captured now).2.Follows
    have hprepared := prepareCaptured_follows h hleft captured now
    rcases processCaptured_eq c captured now with ⟨effect, c', heq, hfail⟩ | ⟨-, heq⟩
    · rw [hfail]
      have has := prepareCaptured_as c captured now
      rw [heq] at hprepared has
      -- a remote decision takes one effect identifier and is pending
      cases has with
      | recorded c₁ previousLatch _ _ _ hrecord has =>
        obtain ⟨⟨controls, count, rfl⟩, -, -⟩ := recordTransition_ok hrecord
        cases has with
        | closed _ hrefusal => cases hrefusal
        | activated _ hdecision => rcases hdecision with ⟨h, -⟩ | ⟨e, h⟩ <;> cases h
        | remote =>
          refine failRemoteInput_follows hprepared ?_ (fun pending hp => ?_) (fun hnone => ?_) now
          · show c.nextEffectId + 1 + c.remoteHeld.size < u64Size
            rw [Nat.add_right_comm]
            exact hids
          · cases hp
            rfl
          · cases hnone
    · rw [heq]
      exact hprepared
  | op request =>
    have hnone := (request.apply_frame c).pendingRemote.trans hsettles
    exact .of_unpending ((request.tidy h.sound.tidy).sound hnone) (request.routed h.routed)
      (CoreOp.resolved h.resolved h.routed h.sound.tidy hleft hcloses) hnone

theorem DaemonCore.new_follows {config : Config} {workspace : WorkspaceState} {core : DaemonCore}
    (h : DaemonCore.new config workspace = .ok core) : core.Follows := by
  have hcreated := new_created h
  have hheld (key : HeldKey) (held : RemoteHeldState) : core.remoteHeld.get? key ≠ some held := by
    rw [hcreated.remoteHeld]
    rintro ⟨⟩
  refine .of_unpending (new_sound h) ⟨?_, hcreated.routing, ?_, ?_, ?_⟩ ⟨?_, ?_, ?_⟩
    hcreated.pendingRemote
  · rw [hcreated.endpointAvailability]
    intro host current hget
    cases hget
  · exact fun key held hget => absurd hget (hheld key held)
  · intro d k e r hl
    rw [latch?, hcreated.physicalControls] at hl
    cases hl
  · rw [hcreated.pendingRoutePolicy]
    intro pending hpending
    cases hpending
  · exact fun key held hget => absurd hget (hheld key held)
  · exact fun _ key held hget => absurd hget (hheld key held)
  · exact fun _ => hcreated.handoffPending

/-- In every run from `DaemonCore::new` that settles each remote decision at once, confirms no
    press whose release is queued, returns authority to the local host without a cleanup only when
    nothing unqueued follows the active host, and does not exhaust the effect identifiers: every
    unqueued hold belongs to the installed endpoint of its host, and its route resolves to it. When
    a commit of a staged policy is reached, by itself or within `update_config`, the staged route
    of every hold resolves to its endpoint. -/
theorem held_follows_route {config : Config} {workspace : WorkspaceState} {core : DaemonCore}
    (hnew : DaemonCore.new config workspace = .ok core) {actions : List CoreAction}
    (hrun : Admissible (fun c a => CoreAction.Settles c a ∧ CoreAction.ConfirmsUnqueued c a
      ∧ CoreAction.ClosesQueued c a ∧ c.IdentifiersLeft) CoreAction.apply core actions) :
    (∀ key held, (execute CoreAction.apply core actions).remoteHeld.get? key = some held →
        key ∉ (execute CoreAction.apply core actions).queuedKeys →
        (∃ current, (execute CoreAction.apply core actions).endpointAvailability.get?
            key.endpoint.hostId = some current ∧ current.endpoint = key.endpoint)
          ∧ routeResolvesToEndpoint held.route key.endpoint
            (execute CoreAction.apply core actions).workspace
            (execute CoreAction.apply core actions).endpointAvailability = true)
      ∧ ∀ c', (c' = execute CoreAction.apply core actions
          ∨ ∃ candidate expected now, c' = ((execute CoreAction.apply core actions
            ).prepareRoutePolicyUpdate candidate expected now).2) →
        c'.routePolicyUpdateStatus = .ok .readyToPersist →
        ∀ pending, c'.pendingRoutePolicy = some pending →
        ∀ key held, c'.remoteHeld.get? key = some held →
          routeResolvesToEndpoint (pending.routing.routeFor key.device) key.endpoint c'.workspace
            c'.endpointAvailability = true := by
  have hfollows := hrun.invariant
    (fun _ _ hguard hc => CoreAction.follows hguard.1 hguard.2.1 hguard.2.2.1 hguard.2.2.2 hc)
    (DaemonCore.new_follows hnew)
  refine ⟨fun key held hget hnot => ?_, fun c' hc' hready pending hpending key held hget => ?_⟩
  · have hresolves := hfollows.resolved.resolves key held hget hnot
    exact ⟨endpointIsCurrent_iff.mp (resolves_iff.mp hresolves).2, hresolves⟩
  · have hboth : c'.Resolved ∧ c'.Routed := by
      rcases hc' with rfl | ⟨candidate, expected, now, rfl⟩
      · exact ⟨hfollows.resolved, hfollows.routed⟩
      · exact ⟨prepareRoutePolicyUpdate_resolved hfollows.resolved candidate expected now,
          CoreOp.routed (.prepareRoutePolicyUpdate candidate expected now) hfollows.routed⟩
    exact hboth.1.commit_asserts hboth.2 hready hpending hget

namespace Sample

/-- A second input device. -/
def keypad : DeviceId := ⟨8⟩

def keypadKey (code : NamedKey) (state : KeyState) : CapturedInput where
  event := ⟨0, 0, localHost, keypad, .key (.named code) state⟩
  classification := .physical

/-- A policy that keeps the keyboard on the local host. -/
def keyboardLocal : Config := { config with deviceRoutes := [⟨keyboard, .local⟩] }

/-- The remote host is active, and a key of each device is held on it. -/
def holdBoth : List CoreAction :=
  [.op (.installSessionEndpoint endpoint 0), .op (.markWorkspaceRoutingReady 0),
   .op (.updateWorkspace { workspace with activeHost := remoteHost } 0)]
    ++ send .pressed 1
    ++ [.prepare (keypadKey .keyA .pressed) 0,
      .confirm ⟨2, endpoint, (keypadKey .keyA .pressed).event⟩ 2 0]

/-- The release in flight after the keyboard policy is staged. -/
def keyboardRelease : CleanupReleaseEffect :=
  ⟨3, endpoint, 1, ⟨localHost, keyboard, .key (.named .keyA) .released⟩⟩

/-- The policy queues the release of the keyboard, which is sent. -/
def stagePolicy : List CoreAction :=
  holdBoth ++ [.op (.prepareRoutePolicyUpdate keyboardLocal 0 0), .op .takeNextCleanupRelease,
    .op (.confirmCleanupRelease keyboardRelease 0)]

/-- The same with a retry of the release. -/
def retryPolicy : List CoreAction :=
  holdBoth ++ [.op (.prepareRoutePolicyUpdate keyboardLocal 0 0), .op .takeNextCleanupRelease,
    .op (.retryCleanupRelease keyboardRelease 0), .op .takeNextCleanupRelease,
    .op (.confirmCleanupRelease keyboardRelease 0)]

end Sample

open Sample

theorem held_follows_route_stagePolicy :
    (execute CoreAction.apply core stagePolicy).remoteHeld.get?
        ⟨endpoint, keypad, .key (.named .keyA)⟩ = some ⟨.followActiveHost, 2⟩
      ∧ routeResolvesToEndpoint .followActiveHost endpoint
        (execute CoreAction.apply core stagePolicy).workspace
        (execute CoreAction.apply core stagePolicy).endpointAvailability = true := by
  have hnew : DaemonCore.new config workspace = .ok core := rfl
  have hrun : Admissible (fun c a => CoreAction.Settles c a ∧ CoreAction.ConfirmsUnqueued c a
      ∧ CoreAction.ClosesQueued c a ∧ c.IdentifiersLeft) CoreAction.apply core
      stagePolicy := by decide +kernel
  have hget : (execute CoreAction.apply core stagePolicy).remoteHeld.get?
      ⟨endpoint, keypad, .key (.named .keyA)⟩ = some ⟨.followActiveHost, 2⟩ := by
    decide +kernel
  exact ⟨hget, ((held_follows_route hnew hrun).1 _ _ hget (by decide +kernel)).2⟩

/-- After the retry the keypad is held and not queued, its route does not
    resolve, and the commit of the policy is reached. -/
theorem held_unresolved :
    DaemonCore.new config workspace = .ok core
      ∧ Admissible (fun c a => CoreAction.Settles c a ∧ CoreAction.ConfirmsUnqueued c a)
        CoreAction.apply core retryPolicy
      ∧ (execute CoreAction.apply core retryPolicy).remoteHeld.get?
        ⟨endpoint, keypad, .key (.named .keyA)⟩ = some ⟨.followActiveHost, 2⟩
      ∧ (execute CoreAction.apply core retryPolicy).queuedKeys = []
      ∧ routeResolvesToEndpoint .followActiveHost endpoint
        (execute CoreAction.apply core retryPolicy).workspace
        (execute CoreAction.apply core retryPolicy).endpointAvailability = false
      ∧ ((execute CoreAction.apply core retryPolicy).commitRoutePolicyUpdate 1 0).1
        = .ok 1 := by
  refine ⟨rfl, ?_, ?_, ?_, ?_, ?_⟩ <;> decide +kernel

end SoftwareKvm
