import SoftwareKvm.Core.Cleanup

/-!
# Routes of held input under administrative operations

`Routed` is about routes alone: holds and latches have the route of their
device, and a staged policy changes affected devices only. Every single
assignment keeps it. `Resolved` is about the workspace and the endpoints: every
entry of `remote_held` without a queued release resolves to the installed
endpoint of its host. It is proved operation by operation, because some
operations assign `active_host` first and queue the releases after.

Results:
* `CoreOp.routed`, `CoreOp.resolved`: every administrative operation keeps both,
  if `retry_cleanup_release` and `cancel_pointer_handoff` are only called when
  nothing unqueued follows the active host.
* `Resolved.commit_asserts`: the assertion of `commit_route_policy_update`.
-/

namespace SoftwareKvm

open Lib

/-- Devices that a route policy does not affect keep their route. -/
theorem routeFor_unaffected {current candidate : Config} {table table' : RoutingTable}
    {device : DeviceId} (h : routingFromConfig current = .ok table)
    (h' : routingFromConfig candidate = .ok table')
    (hd : device ∉ DaemonCore.affectedRouteDevices current candidate table table') :
    table'.routeFor device = table.routeFor device := by
  have hmap (config : Config) :
      (config.deviceRoutes.map fun route => (route.deviceId, route.route)).map Prod.fst
        = config.deviceRoutes.map (·.deviceId) := by
    rw [List.map_map]
    rfl
  rw [DaemonCore.affectedRouteDevices, List.mem_toFinset, List.mem_filter, not_and, bne_iff_ne,
    not_not, List.map_append, List.mem_append] at hd
  by_cases hlisted : device ∈ current.deviceRoutes.map (·.deviceId)
      ∨ device ∈ candidate.deviceRoutes.map (·.deviceId)
  · exact (hd hlisted).symm
  · rw [not_or, ← hmap, ← hmap] at hlisted
    rw [RoutingTable.routeFor_unlisted h hlisted.1, RoutingTable.routeFor_unlisted h' hlisted.2]

namespace DaemonCore

variable {c c' c'' : DaemonCore} {nowNs : ℕ}

/-! ## Routes of holds and latches -/

/-- Endpoints are installed under their host; holds and latches have the route
    of their device; a staged policy keeps the routes of unaffected devices. -/
structure Routed (c : DaemonCore) : Prop where
  keyed : ∀ host current, c.endpointAvailability.get? host = some current →
    current.endpoint.hostId = host
  configured : routingFromConfig c.config = .ok c.routing
  held : ∀ key held, c.remoteHeld.get? key = some held → held.route = c.routing.routeFor key.device
  latched : ∀ d k e r, c.latch? d k = some (.remote e r) → r = c.routing.routeFor d
  staged : ∀ pending ∈ c.pendingRoutePolicy,
    routingFromConfig pending.config = .ok pending.routing
      ∧ ∀ d, d ∉ pending.affectedDevices → pending.routing.routeFor d = c.routing.routeFor d

theorem Routed.published (h : c.Routed) (nowNs : ℕ) : (c.publish nowNs).Routed :=
  { h with }

theorem queueRemoteCleanup_routed (h : c.Routed) (affected : HeldFilter) :
    (c.queueRemoteCleanup affected).2.Routed := by
  have hlatch (d k e r) : (c.queueRemoteCleanup affected).2.latch? d k = some (.remote e r) →
      c.latch? d k = some (.remote e r) :=
    queueRemoteCleanup_induction (P := fun c' => c'.latch? d k = some (.remote e r) → _)
      (fun _ _ _ _ h hl => h (latch?_pushCleanup.mp hl).1) affected id
  obtain ⟨queue, next, controls, heq⟩ := queueRemoteCleanup_eq c affected
  rw [heq] at hlatch ⊢
  exact { h with latched := fun d k e r hl => h.latched d k e r (hlatch d k e r hl) }

end DaemonCore

open DaemonCore

theorem CoreOp.Edit.routed {op : CoreOp} {c c' : DaemonCore} (he : op.Edit c c') (h : c.Routed) :
    c'.Routed := by
  cases he with
  | queue affected => exact queueRemoteCleanup_routed h affected
  | confirm entry => exact { h with held := OrdMap.forall_erase _ h.held entry.heldKey }
  | install => exact { h with keyed := OrdMap.forall_insert _ h.keyed rfl }
  | setState => exact { h with keyed := OrdMap.forall_modify _ h.keyed fun _ => id }
  | uninstall host => exact { h with keyed := OrdMap.forall_erase _ h.keyed host }
  | invalidate endpoint =>
    refine { h with
      held := fun key held hget => h.held key held ?_
      latched := fun d k e r hl => h.latched d k e r ?_ }
    · exact (Option.filter_eq_some_iff.mp ((OrdMap.get?_filter ..).symm.trans hget)).1
    · rw [latch?_mapLatches] at hl
      obtain ⟨latch, hold, hnew⟩ := Option.map_eq_some_iff.mp hl
      cases latch with
      | «local» | quarantined => cases hnew
      | remote held route =>
        simp only at hnew
        split_ifs at hnew
        cases hnew
        exact hold
  | forget device now =>
    refine { h with latched := fun d k e r hl => h.latched d k e r ?_ }
    rw [latch?_forgetDevice rfl] at hl
    split_ifs at hl
    exact hl
  | stage pending hop hnone hconfig hrevision hvalid hrouting haffected =>
    refine { h with staged := fun pending' hpending => ?_ }
    cases hpending
    refine ⟨hrouting, fun d hd => ?_⟩
    rw [haffected] at hd
    exact routeFor_unaffected h.configured hrouting hd
  | abort => exact { h with staged := fun _ hpending => (nomatch hpending) }
  | commit pending hop hpending =>
    refine ⟨h.keyed, (h.staged pending hpending).1, fun key held hget => ?_, fun d k e r hl => ?_,
      fun _ hnone => (nomatch hnone)⟩
    · obtain ⟨old, -, rfl⟩ := Option.map_eq_some_iff.mp ((OrdMap.get?_mapVals ..).symm.trans hget)
      rfl
    · have hrerouted : ((c.rerouteHeld pending.routing).rerouteLatches pending.routing).latch? d k
          = some (.remote e r) := hl
      rw [rerouteLatches, latch?_mapLatches] at hrerouted
      obtain ⟨latch, -, hnew⟩ := Option.map_eq_some_iff.mp hrerouted
      cases latch with
      | «local» | quarantined => cases hnew
      | remote held route =>
        cases hnew
        rfl
  | configure config routing now hop hnone hvalid hrouting hroutes =>
    have hsame : routing = c.routing := by
      have hconfigured := h.configured
      rw [routingFromConfig, ← hroutes] at hconfigured
      exact Except.ok.inj (hrouting.symm.trans hconfigured)
    subst hsame
    exact { h with configured := hrouting }
  | _ => exact { h with }

theorem CoreOp.routed (op : CoreOp) {c : DaemonCore} (h : c.Routed) : (op.apply c).Routed :=
  CoreOp.Edits.invariant (fun _ _ he hc => he.routed hc) (op.edits c) h

namespace DaemonCore

open OrdMap

variable {c c' c'' : DaemonCore} {nowNs : ℕ}

/-! ## Holds and the workspace -/

/-- The route of a hold at `endpoint` resolves to this endpoint. -/
def Resolves (c : DaemonCore) (endpoint : SessionEndpoint) (route : DeviceRoute) : Prop :=
  routeResolvesToEndpoint route endpoint c.workspace c.endpointAvailability = true

/-- Every hold that follows the active host has its release queued. -/
def FollowQueued (c : DaemonCore) : Prop :=
  ∀ key held, c.remoteHeld.get? key = some held → held.route = .followActiveHost →
    key ∈ c.queuedKeys

instance (c : DaemonCore) : Decidable c.FollowQueued :=
  decidable_of_iff (∀ entry ∈ c.remoteHeld.entries, entry.2.route = .followActiveHost →
    entry.1 ∈ c.queuedKeys)
    ⟨fun h key held hget => h (key, held) (mem_entries.mpr hget),
      fun h entry hentry => h entry.1 entry.2 (mem_entries.mp hentry)⟩

/-- Every unqueued hold resolves to its endpoint; during a handoff nothing
    unqueued follows the active host; and no policy is staged during a handoff. -/
structure Resolved (c : DaemonCore) : Prop where
  resolves : ∀ key held, c.remoteHeld.get? key = some held → key ∉ c.queuedKeys →
    c.Resolves key.endpoint held.route
  barrier : c.handoffPending = true → c.FollowQueued
  staged : c.pendingRoutePolicy.isSome = true → c.handoffPending = false

/-- The unqueued holds of `c'` are unqueued holds of `c`, with the same routes. -/
def NoNewHold (c c' : DaemonCore) : Prop :=
  ∀ key held, c'.remoteHeld.get? key = some held → key ∉ c'.queuedKeys →
    ∃ held', c.remoteHeld.get? key = some held' ∧ held'.route = held.route ∧ key ∉ c.queuedKeys

theorem NoNewHold.of_eq (hheld : c'.remoteHeld = c.remoteHeld) (hqueue : c'.cleanup = c.cleanup) :
    NoNewHold c c' := by
  intro key held hget hnot
  rw [hheld] at hget
  rw [queuedKeys, hqueue] at hnot
  exact ⟨held, hget, rfl, hnot⟩

theorem NoNewHold.trans (h : NoNewHold c c') (h' : NoNewHold c' c'') : NoNewHold c c'' := by
  intro key held hget hnot
  obtain ⟨held', hget', hroute', hnot'⟩ := h' key held hget hnot
  obtain ⟨held'', hget'', hroute'', hnot''⟩ := h key held' hget' hnot'
  exact ⟨held'', hget'', hroute''.trans hroute', hnot''⟩

theorem NoNewHold.followQueued (h : NoNewHold c c') (hq : c.FollowQueued) : c'.FollowQueued := by
  intro key held hget hroute
  by_contra hnot
  obtain ⟨held', hget', hroute', hnot'⟩ := h key held hget hnot
  exact hnot' (hq key held' hget' (hroute'.trans hroute))

theorem queueRemoteCleanup_noNewHold (c : DaemonCore) (affected : HeldFilter) :
    NoNewHold c (c.queueRemoteCleanup affected).2 := by
  refine queueRemoteCleanup_induction (P := NoNewHold c) (fun c' x _ _ h => h.trans ?_) affected
    (.of_eq rfl rfl)
  intro key held hget hnot
  rw [pushCleanup_queuedKeys, List.mem_append, not_or] at hnot
  rw [pushCleanup_remoteHeld] at hget
  exact ⟨held, hget, rfl, hnot.1⟩

variable {endpoint : SessionEndpoint} {route : DeviceRoute}

theorem resolves_iff : c.Resolves endpoint route ↔
      routeResolvesToTarget route endpoint.hostId c.workspace = true
        ∧ c.endpointIsCurrent endpoint = true := by
  rw [Resolves, routeResolvesToEndpoint, Bool.and_eq_true]
  rfl

/-- What resolving depends on: the installed endpoint, the local host and, for a
    route that follows it, the active host. -/
theorem Resolves.mono (h : c.Resolves endpoint route)
    (hcurrent : c.endpointIsCurrent endpoint = true → c'.endpointIsCurrent endpoint = true)
    (hlocal : c'.workspace.localHost = c.workspace.localHost)
    (hactive : route = .followActiveHost → c'.workspace.activeHost = c.workspace.activeHost) :
    c'.Resolves endpoint route := by
  obtain ⟨htarget, hinstalled⟩ := resolves_iff.mp h
  refine resolves_iff.mpr ⟨?_, hcurrent hinstalled⟩
  cases route with
  | «local» | host =>
    rw [routeResolvesToTarget] at htarget ⊢
    rw [hlocal]
    exact htarget
  | followActiveHost =>
    rw [routeResolvesToTarget] at htarget ⊢
    rw [hlocal, hactive rfl]
    exact htarget

theorem Resolves.activeHost
    (h : c.Resolves endpoint .followActiveHost) : c.workspace.activeHost = endpoint.hostId := by
  have htarget := (resolves_iff.mp h).1
  rw [routeResolvesToTarget, Bool.and_eq_true, beq_iff_eq] at htarget
  exact htarget.1.symm

theorem endpointIsCurrent_iff : c.endpointIsCurrent endpoint = true ↔
      ∃ current, c.endpointAvailability.get? endpoint.hostId = some current
        ∧ current.endpoint = endpoint := by
  rw [endpointIsCurrent, Option.any_eq_true]
  simp only [beq_iff_eq]

/-! ## Keeping the holds resolved -/

section

variable (h : c.Resolved) (nowNs : ℕ)

include h

theorem Resolved.of_noNewHold (hnew : NoNewHold c c')
    (hresolves : ∀ key held, c'.remoteHeld.get? key = some held → key ∉ c'.queuedKeys →
      c.Resolves key.endpoint held.route → c'.Resolves key.endpoint held.route)
    (hhandoff : c'.handoffPending = true → c.handoffPending = true)
    (hpolicy : c'.pendingRoutePolicy.isSome = true → c.pendingRoutePolicy.isSome = true) :
    c'.Resolved where
  resolves key held hget hnot := by
    obtain ⟨held', hget', hroute, hnot'⟩ := hnew key held hget hnot
    refine hresolves key held hget hnot ?_
    rw [← hroute]
    exact h.resolves key held' hget' hnot'
  barrier hpending := hnew.followQueued (h.barrier (hhandoff hpending))
  staged hsome := by
    have hclosed := h.staged (hpolicy hsome)
    cases hpending : c'.handoffPending with
    | false => rfl
    | true =>
      rw [hhandoff hpending] at hclosed
      cases hclosed

/-- Assignments that leave workspace and endpoints alone. -/
theorem Resolved.keep (hnew : NoNewHold c c') (hw : c'.workspace = c.workspace)
    (ha : c'.endpointAvailability = c.endpointAvailability)
    (hhandoff : c'.handoffPending = true → c.handoffPending = true)
    (hpolicy : c'.pendingRoutePolicy.isSome = true → c.pendingRoutePolicy.isSome = true) :
    c'.Resolved := by
  refine h.of_noNewHold hnew (fun key held _ _ hresolves => ?_) hhandoff hpolicy
  rw [Resolves, hw, ha]
  exact hresolves

theorem Resolved.published : (c.publish nowNs).Resolved :=
  { h with }

theorem Resolved.queued (affected : HeldFilter) : (c.queueRemoteCleanup affected).2.Resolved := by
  have hnew := queueRemoteCleanup_noNewHold c affected
  obtain ⟨queue, next, controls, heq⟩ := queueRemoteCleanup_eq c affected
  rw [heq] at hnew ⊢
  exact h.keep hnew rfl rfl id id

theorem Resolved.of_queue {affected : HeldFilter}
    {r : Except CoreCaptureError Unit} (hq : c.queueRemoteCleanup affected = (r, c')) :
    c'.Resolved := by
  have hqueued := h.queued affected
  rwa [hq] at hqueued

/-- When nothing unqueued follows the active host, the local host may become active. -/
theorem Resolved.activateLocal (hq : c.FollowQueued) :
    Resolved { c.activateLocal with handoffPending := false } := by
  refine h.of_noNewHold (.of_eq rfl rfl) (fun key held hget hnot hresolves => ?_)
    (fun hpending => (nomatch hpending)) id
  exact hresolves.mono id rfl fun hroute => absurd (hq key held hget hroute) hnot

end

/-! ## Cleanups that succeed -/

/-- Enough effect identifiers are left to queue every hold. -/
def IdentifiersLeft (c : DaemonCore) : Prop := c.nextEffectId + c.remoteHeld.size + 1 < u64Size

instance (c : DaemonCore) : Decidable c.IdentifiersLeft := by
  unfold IdentifiersLeft
  infer_instance

/-- An endpoint and its host are left: holds of other endpoints stay resolved. -/
theorem Resolves.leave {other : SessionEndpoint}
    (h : c.Resolves other route) (hcurrent : c.endpointIsCurrent endpoint = true)
    (hne : other ≠ endpoint) (hlocal : c'.workspace.localHost = c.workspace.localHost)
    (hactive : c.workspace.activeHost ≠ endpoint.hostId →
      c'.workspace.activeHost = c.workspace.activeHost)
    (ha : ∀ host, host ≠ endpoint.hostId →
      c'.endpointAvailability.get? host = c.endpointAvailability.get? host) :
    c'.Resolves other route := by
  have hinstalled := (resolves_iff.mp h).2
  have hhost : other.hostId ≠ endpoint.hostId := by
    intro heq
    obtain ⟨_, hget, rfl⟩ := endpointIsCurrent_iff.mp hinstalled
    obtain ⟨_, hget', rfl⟩ := endpointIsCurrent_iff.mp hcurrent
    rw [heq, hget'] at hget
    exact hne (congrArg (·.endpoint) (Option.some.inj hget).symm)
  refine h.mono (fun hold => ?_) hlocal (fun hroute => hactive ?_)
  · rw [endpointIsCurrent, ha _ hhost]
    exact hold
  · subst hroute
    rw [h.activeHost]
    exact hhost

section

variable (ht : c.Tidy) (hids : c.nextEffectId + c.remoteHeld.size < u64Size)

include ht hids

theorem Tidy.queue_ok (affected : HeldFilter) :
    c.queueRemoteCleanup affected = (.ok (), (c.queueRemoteCleanup affected).2) := by
  have hfits := ht.fits affected
  have hroom : c.cleanup.length + (c.cleanupCandidates affected).length ≤ maxPendingRemoteCleanup :=
    hfits.trans ht.room
  have hadd : checkedAdd c.nextEffectId (c.cleanupCandidates affected).length
      = some (c.nextEffectId + (c.cleanupCandidates affected).length) :=
    checkedAdd_eq_some.mpr ⟨rfl, by omega⟩
  unfold queueRemoteCleanup
  rw [if_neg (Nat.not_lt.mpr hroom), hadd]

/-- After a full cleanup nothing is left to resolve. -/
theorem Tidy.queueAll_resolved (hhandoff : c.handoffPending = false) :
    (c.queueRemoteCleanup allHeld).2.Resolved := by
  have hok := ht.queue_ok hids allHeld
  have hall (key : HeldKey) (held : RemoteHeldState)
      (hget : (c.queueRemoteCleanup allHeld).2.remoteHeld.get? key = some held) :
      key ∈ (c.queueRemoteCleanup allHeld).2.queuedKeys := by
    rw [(queueRemoteCleanup_fields c allHeld).held] at hget
    exact queueRemoteCleanup_queued hok hget rfl
  have hflag := (queueRemoteCleanup_fields c allHeld).handoff.trans hhandoff
  exact ⟨fun key held hget hnot => absurd (hall key held hget) hnot,
    fun _ key held hget _ => hall key held hget, fun _ => hflag⟩

theorem failClosed_resolved (nowNs : ℕ) : (c.failClosed nowNs).2.Resolved := by
  have hclosed : c.closeGate.Tidy := ht.of_fields rfl rfl rfl rfl le_rfl rfl
  exact (hclosed.queueAll_resolved hids rfl).published nowNs

theorem activateFailsafe_resolved (nowNs : ℕ) : (c.activateFailsafe nowNs).2.Resolved := by
  have hsuspended : (c.suspendRouting nowNs).Tidy := ht.of_fields rfl rfl rfl rfl le_rfl rfl
  have hresolved := hsuspended.queueAll_resolved hids rfl
  unfold activateFailsafe
  rw [hsuspended.queue_ok hids allHeld]
  exact hresolved.published nowNs

theorem releaseAuthority_resolved (nowNs : ℕ) : (c.releaseAuthority nowNs).2.Resolved := by
  have hlocal : Tidy { c.activateLocal with handoffPending := false } :=
    ht.of_fields rfl rfl rfl rfl le_rfl rfl
  exact (hlocal.queueAll_resolved hids rfl).published nowNs

/-! ## Endpoint operations -/

/-- An assignment followed by a cleanup: the holds that are not affected have to stay resolved. -/
theorem Resolved.thenQueue {affected : HeldFilter} (h : c.Resolved) (hsame : c' = { c with
      workspace := c'.workspace, endpointAvailability := c'.endpointAvailability, peers := c'.peers
      handoffPending := c'.handoffPending, workspaceReady := c'.workspaceReady })
    (hresolves : ∀ (key : HeldKey) (held : RemoteHeldState),
      affected held.route key.endpoint key.device = false →
      c.Resolves key.endpoint held.route → c'.Resolves key.endpoint held.route)
    (hhandoff : c'.handoffPending = true → c.handoffPending = true) :
    (c'.queueRemoteCleanup affected).2.Resolved := by
  have hheld : c'.remoteHeld = c.remoteHeld := by rw [hsame]
  have hqueue : c'.cleanup = c.cleanup := by rw [hsame]
  have htidy : c'.Tidy := by
    rw [hsame]
    exact ht.of_fields rfl rfl rfl rfl le_rfl rfl
  have hok := htidy.queue_ok (by rw [hsame]; exact hids) affected
  have hnew := (NoNewHold.of_eq hheld hqueue).trans (queueRemoteCleanup_noNewHold c' affected)
  -- an unqueued hold is not affected
  have hspared (key : HeldKey) (held : RemoteHeldState)
      (hget : (c'.queueRemoteCleanup affected).2.remoteHeld.get? key = some held)
      (hnot : key ∉ (c'.queueRemoteCleanup affected).2.queuedKeys) :
      affected held.route key.endpoint key.device = false := by
    rw [(queueRemoteCleanup_fields c' affected).held] at hget
    by_contra haffected
    exact hnot (queueRemoteCleanup_queued hok hget (Bool.not_eq_false _ ▸ haffected))
  have hpolicy : c'.pendingRoutePolicy = c.pendingRoutePolicy := by rw [hsame]
  obtain ⟨queue, next, controls, heq⟩ := queueRemoteCleanup_eq c' affected
  rw [heq] at hnew hspared ⊢
  refine h.of_noNewHold hnew (fun key held hget hnot hold => ?_) hhandoff (fun hs => hpolicy ▸ hs)
  exact hresolves key held (hspared key held hget hnot) hold

theorem setEndpointState_resolved (h : c.Resolved) (endpoint : SessionEndpoint)
    (state : PeerState) (nowNs : ℕ) : (c.setEndpointState endpoint state nowNs).2.Resolved := by
  unfold setEndpointState
  split_ifs with hguard haccepts
  · exact h
  · refine Resolved.published ?_ nowNs
    refine h.of_noNewHold (.of_eq rfl rfl)
      (fun _ _ _ _ hold => hold.mono (fun hc => ?_) rfl fun _ => rfl) id id
    obtain ⟨current, hget, hcurrent⟩ := endpointIsCurrent_iff.mp hc
    rw [endpointIsCurrent_iff, get?_modify, hget]
    split_ifs <;> exact ⟨_, rfl, hcurrent⟩
  · rw [Bool.or_eq_true, not_or, Bool.not_eq_true', Bool.not_eq_false] at hguard
    refine Resolved.published (h.thenQueue ht hids ?_ (fun key held hspared hold => ?_) ?_) nowNs
    · unfold deactivateHost
      split_ifs <;> rfl
    rotate_left
    · exact fun hpending => (nomatch hpending)
    · rw [beq_eq_false_iff_ne] at hspared
      refine hold.leave hguard.2 hspared ?_ ?_ ?_
      · unfold deactivateHost
        split_ifs <;> rfl
      · intro hne
        unfold deactivateHost
        rw [if_neg hne]
      · intro host hhost
        unfold deactivateHost
        split_ifs <;> exact (get?_modify ..).trans (if_neg hhost)

end

/-- A host is left together with every hold of its endpoint. -/
theorem Resolved.leaveHost (h : c.Resolved)
    (hcurrent : c.endpointIsCurrent endpoint = true) (hnew : NoNewHold c c')
    (hfree : ∀ key held, c'.remoteHeld.get? key = some held → key.endpoint ≠ endpoint)
    (hlocal : c'.workspace.localHost = c.workspace.localHost)
    (hactive : c.workspace.activeHost ≠ endpoint.hostId →
      c'.workspace.activeHost = c.workspace.activeHost)
    (ha : c'.endpointAvailability = c.endpointAvailability.erase endpoint.hostId)
    (hhandoff : c'.handoffPending = false)
    (hpolicy : c'.pendingRoutePolicy = c.pendingRoutePolicy) : c'.Resolved := by
  refine h.of_noNewHold hnew (fun key held hget _ hold => ?_) (fun hpending => ?_)
    (fun hs => hpolicy ▸ hs)
  · refine hold.leave hcurrent (hfree key held hget) hlocal hactive (fun host hhost => ?_)
    rw [ha, get?_erase, if_neg hhost]
  · rw [hhandoff] at hpending
    cases hpending

theorem retireSessionEndpoint_resolved (h : c.Resolved) (endpoint : SessionEndpoint) (nowNs : ℕ) :
    (c.retireSessionEndpoint endpoint nowNs).2.Resolved := by
  unfold retireSessionEndpoint
  split_ifs with hguard
  · exact h
  · simp only [Bool.or_eq_true, not_or, Bool.not_eq_true', Bool.not_eq_false] at hguard
    obtain ⟨⟨-, hretired⟩, hfree⟩ := hguard
    have hcurrent : c.endpointIsCurrent endpoint = true := by
      obtain ⟨current, hget, hboth⟩ := Option.any_eq_true _ _ |>.mp hretired
      rw [Bool.and_eq_true, beq_iff_eq] at hboth
      exact endpointIsCurrent_iff.mpr ⟨current, hget, hboth.1⟩
    have hheld (key : HeldKey) (held : RemoteHeldState)
        (hget : c.remoteHeld.get? key = some held) : key.endpoint ≠ endpoint := by
      rintro rfl
      apply hfree
      rw [endpointHasObligations, Bool.or_eq_true, Bool.or_eq_true, List.any_eq_true]
      exact Or.inl (Or.inl ⟨key, mem_keys.mpr ⟨held, hget⟩, beq_self_eq_true _⟩)
    refine Resolved.published ?_ nowNs
    unfold deactivateHost
    split_ifs with hhost
    · exact h.leaveHost hcurrent (.of_eq rfl rfl) hheld rfl
        (fun hne => absurd hhost hne) rfl rfl rfl
    · exact h.leaveHost hcurrent (.of_eq rfl rfl) hheld rfl (fun _ => rfl) rfl rfl rfl

theorem confirmTransportInvalidated_resolved (h : c.Resolved) (endpoint : SessionEndpoint)
    (nowNs : ℕ) : (c.confirmTransportInvalidated endpoint nowNs).Resolved := by
  have hfree (key : HeldKey) (held : RemoteHeldState)
      (hget : (c.remoteHeld.filter fun key _ => key.endpoint != endpoint).get? key = some held) :
      c.remoteHeld.get? key = some held ∧ key.endpoint ≠ endpoint := by
    obtain ⟨hold, hne⟩ := Option.filter_eq_some_iff.mp ((get?_filter ..).symm.trans hget)
    exact ⟨hold, bne_iff_ne.mp hne⟩
  have hnew (c' : DaemonCore)
      (hheld : c'.remoteHeld = c.remoteHeld.filter fun key _ => key.endpoint != endpoint)
      (hqueue : c'.cleanup = c.cleanup.filter (·.endpoint != endpoint)) : NoNewHold c c' := by
    intro key held hget hnot
    rw [hheld] at hget
    obtain ⟨hold, hne⟩ := hfree key held hget
    refine ⟨held, hold, rfl, fun hqueued => hnot ?_⟩
    obtain ⟨entry, hentry, rfl⟩ := List.mem_map.mp hqueued
    rw [queuedKeys, hqueue]
    exact List.mem_map_of_mem (List.mem_filter.mpr ⟨hentry, bne_iff_ne.mpr hne⟩)
  refine Resolved.published ?_ nowNs
  by_cases hcurrent : c.endpointIsCurrent endpoint = true
  · have hother (key : HeldKey) (held : RemoteHeldState)
        (hget : (c.remoteHeld.filter fun key _ => key.endpoint != endpoint).get? key = some held) :=
      (hfree key held hget).2
    unfold dropCurrentEndpoint deactivateHost
    by_cases hhost : c.workspace.activeHost = endpoint.hostId
    · simp only [if_pos hcurrent, if_pos hhost]
      exact h.leaveHost hcurrent (hnew _ rfl rfl) hother rfl (absurd hhost) rfl rfl rfl
    · simp only [if_pos hcurrent, if_neg hhost]
      exact h.leaveHost hcurrent (hnew _ rfl rfl) hother rfl (fun _ => rfl) rfl rfl rfl
  · rw [dropCurrentEndpoint, if_neg hcurrent]
    exact h.keep (hnew _ rfl rfl) rfl rfl id id

theorem installSessionEndpoint_resolved (h : c.Resolved) (endpoint : SessionEndpoint)
    (nowNs : ℕ) : (c.installSessionEndpoint endpoint nowNs).2.Resolved := by
  unfold installSessionEndpoint
  split_ifs with hguard hother
  · exact h
  · exact h
  · refine Resolved.published ?_ nowNs
    refine h.of_noNewHold (.of_eq rfl rfl)
      (fun key held _ _ hold => hold.mono (fun hcurrent => ?_) rfl fun _ => rfl) id id
    obtain ⟨current, hget, heq⟩ := endpointIsCurrent_iff.mp hcurrent
    rw [endpointIsCurrent_iff]
    by_cases hhost : key.endpoint.hostId = endpoint.hostId
    · refine ⟨⟨endpoint, .connected⟩, (get?_insert ..).trans (if_pos hhost), ?_⟩
      rw [← hhost, hget, Option.any_some, bne_iff_ne, not_not] at hother
      exact hother.symm.trans heq
    · exact ⟨current, ((get?_insert ..).trans (if_neg hhost)).trans hget, heq⟩

/-! ## Workspace and handoff -/

section

variable (ht : c.Tidy) (hids : c.nextEffectId + c.remoteHeld.size < u64Size)

include ht hids

/-- The cleanup of a handoff leaves nothing unqueued that follows the active host. -/
theorem Tidy.queueFollowing : (c.queueRemoteCleanup followsActiveHost).2.FollowQueued := by
  intro key held hget hroute
  rw [(queueRemoteCleanup_fields c followsActiveHost).held] at hget
  exact queueRemoteCleanup_queued (ht.queue_ok hids followsActiveHost) hget
    (by rw [hroute]; rfl)

theorem updateWorkspace_resolved (h : c.Resolved) (workspace : WorkspaceState) (nowNs : ℕ) :
    (c.updateWorkspace workspace nowNs).2.Resolved := by
  unfold updateWorkspace
  split_ifs with _ _ hlocal _ hactive
  all_goals try exact h
  · have hfollow := ht.queueFollowing hids
    have hqueued := h.queued followsActiveHost
    have hsame := (queueRemoteCleanup_fields c followsActiveHost).workspace
    rw [ht.queue_ok hids followsActiveHost]
    simp only
    split_ifs
    · exact hqueued.published nowNs
    · refine Resolved.published ?_ nowNs
      refine hqueued.of_noNewHold (.of_eq rfl rfl) (fun key held hget hnot hold => ?_) id id
      refine hold.mono id ?_ fun hroute => absurd (hfollow key held hget hroute) hnot
      rw [hsame]
      exact not_ne_iff.mp hlocal
  · refine Resolved.published ?_ nowNs
    refine h.of_noNewHold (.of_eq rfl rfl) (fun key held _ _ hold => ?_) id id
    exact hold.mono id (not_ne_iff.mp hlocal) fun _ => not_ne_iff.mp hactive

theorem finishPointerHandoff_resolved (h : c.Resolved) (workspace : WorkspaceState) (nowNs : ℕ) :
    (c.finishPointerHandoff workspace nowNs).2.Resolved := by
  have hupdated := updateWorkspace_resolved ht hids h workspace nowNs
  unfold finishPointerHandoff
  split_ifs
  all_goals try exact h
  generalize c.updateWorkspace workspace nowNs = r at hupdated ⊢
  obtain ⟨_ | _, c'⟩ := r
  · exact hupdated
  · refine Resolved.published ?_ nowNs
    exact hupdated.keep (.of_eq rfl rfl) rfl rfl (fun hpending => (nomatch hpending)) id

theorem beginPointerHandoff_resolved (h : c.Resolved) (nowNs : ℕ) :
    (c.beginPointerHandoff nowNs).2.Resolved := by
  unfold beginPointerHandoff
  split_ifs with hguard
  · exact h
  · rw [Bool.or_eq_true, not_or, Bool.not_eq_true, Bool.not_eq_true] at hguard
    have hbegun : Tidy { c with handoffPending := true } := ht.of_fields rfl rfl rfl rfl le_rfl rfl
    have hfollow := hbegun.queueFollowing hids
    have hsame : NoNewHold c { c with handoffPending := true } := NoNewHold.of_eq rfl rfl
    have hnew : NoNewHold c _ := hsame.trans (queueRemoteCleanup_noNewHold _ followsActiveHost)
    obtain ⟨queue, next, controls, heq⟩ :=
      queueRemoteCleanup_eq { c with handoffPending := true } followsActiveHost
    rw [heq] at hfollow hnew
    refine Resolved.published ?_ nowNs
    rw [heq]
    refine ⟨fun key held hget hnot => ?_, fun _ => hfollow, fun hstaged => ?_⟩
    · obtain ⟨held', hget', hroute, hnot'⟩ := hnew key held hget hnot
      have hold := h.resolves key held' hget' hnot'
      rw [hroute] at hold
      exact hold
    · exact absurd hstaged (hguard.2 ▸ Bool.false_ne_true)

end

/-! ## Route policies -/

theorem prepareRoutePolicyUpdate_resolved (h : c.Resolved) (candidate : Config)
    (expectedRevision nowNs : ℕ) :
    (c.prepareRoutePolicyUpdate candidate expectedRevision nowNs).2.Resolved := by
  fun_cases prepareRoutePolicyUpdate c candidate expectedRevision nowNs
  case case10 hq =>
    exact h.of_queue hq
  case case11 hhandoff _ _ _ _ _ routing _ _ _ _ _ affected c' hq pending _ =>
    have hflag := (queueRemoteCleanup_fields c (c.movesRoute routing affected)).handoff
    rw [hq] at hflag
    exact { h.of_queue hq with staged := fun _ => hflag.trans (Bool.not_eq_true _ ▸ hhandoff) }
  all_goals exact h

/-- The assertion of `commit_route_policy_update`: the staged route of every
    held control resolves to its endpoint. -/
theorem Resolved.commit_asserts {pending : PendingRoutePolicy} (h : c.Resolved) (hr : c.Routed)
    (hready : c.routePolicyUpdateStatus = .ok .readyToPersist)
    (hpending : c.pendingRoutePolicy = some pending) {key : HeldKey} {held : RemoteHeldState}
    (hget : c.remoteHeld.get? key = some held) :
    c.Resolves key.endpoint (pending.routing.routeFor key.device) := by
  unfold routePolicyUpdateStatus at hready
  rw [hpending] at hready
  simp only [Option.isNone_some, Bool.false_eq_true, if_false] at hready
  split_ifs at hready with hclean
  · cases hready
  rw [Bool.or_eq_true, not_or, Bool.not_eq_true, Bool.not_eq_true] at hclean
  by_cases haffected : key.device ∈ pending.affectedDevices
  · have hmoved := hclean.2
    rw [pendingRouteHasUnresolvedRemote, hpending] at hmoved
    simp only [List.any_eq_false] at hmoved
    have hnot := hmoved (key, held) (mem_entries.mpr hget)
    simpa [movesRoute, haffected, Resolves] using hnot
  · rw [(hr.staged pending hpending).2 key.device haffected, ← hr.held key held hget]
    refine h.resolves key held hget ?_
    rw [cleanupPending, Bool.or_eq_false_iff, Bool.not_eq_false', List.isEmpty_iff] at hclean
    rw [queuedKeys, hclean.1.1]
    exact List.not_mem_nil

theorem commitRoutePolicyUpdate_resolved (h : c.Resolved) (hr : c.Routed) (nextRevision nowNs : ℕ) :
    (c.commitRoutePolicyUpdate nextRevision nowNs).2.Resolved := by
  fun_cases commitRoutePolicyUpdate c nextRevision nowNs
  case case3 pending hpending hready _ =>
    have hclosed := h.staged (by rw [hpending]; rfl)
    refine ⟨fun key held hget _ => ?_, fun hopen => ?_, (absurd · Bool.false_ne_true)⟩
    · obtain ⟨old, hold, rfl⟩ := Option.map_eq_some_iff.mp ((get?_mapVals ..).symm.trans hget)
      exact h.commit_asserts hr hready hpending hold
    · rw [show c.handoffPending = true from hopen] at hclosed
      cases hclosed
  all_goals exact h

/-- The peers that `update_config` keeps or adds include every paired host. -/
theorem adoptedPeers_contains (hosts : List PairedHostConfig) (peers : OrdMap HostId PeerState)
    {host : HostId} (h : peers.contains host = true ∨ ∃ peer ∈ hosts, peer.hostId = host) :
    (hosts.foldl (fun peers peer => if peers.contains peer.hostId then peers
      else peers.insert peer.hostId .disconnected) peers).contains host = true := by
  induction hosts generalizing peers with
  | nil => exact h.resolve_right (by rintro ⟨_, hmem, -⟩; cases hmem)
  | cons peer hosts ih =>
    rw [List.foldl_cons]
    apply ih
    rcases h with hheld | ⟨paired, hmem, rfl⟩
    · left
      split_ifs
      · exact hheld
      · exact contains_insert.mpr (Or.inr hheld)
    · rcases List.mem_cons.mp hmem with rfl | hmem
      · left
        split_ifs with hknown
        · exact hknown
        · exact contains_insert.mpr (Or.inl rfl)
      · exact Or.inr ⟨paired, hmem, rfl⟩

/-- `update_config` closes the gate only when the active host is not paired. -/
theorem adoptPairedHosts_cases (c : DaemonCore) (config : Config) :
    ∃ peers, c.adoptPairedHosts config = { c with peers }
      ∨ (∀ peer ∈ config.pairedHosts, peer.hostId ≠ c.workspace.activeHost)
        ∧ c.adoptPairedHosts config = closeGate { c with peers } := by
  unfold adoptPairedHosts
  simp only
  split_ifs with hclosed
  · refine ⟨_, Or.inr ⟨fun peer hmem heq => ?_, rfl⟩⟩
    rw [Bool.and_eq_true, Bool.not_eq_true'] at hclosed
    have hadopted := adoptedPeers_contains config.pairedHosts
      (c.peers.filter fun host _ => config.pairedHosts.any (·.hostId == host))
      (Or.inr ⟨peer, hmem, heq⟩)
    exact Bool.false_ne_true (hclosed.1.symm.trans hadopted)
  · exact ⟨_, Or.inl rfl⟩

theorem updateConfigSameRoutes_resolved (h : c.Resolved) (config : Config) (nowNs : ℕ) :
    (c.updateConfigSameRoutes config nowNs).2.Resolved := by
  have hheld := (queueRemoteCleanup_fields c
    fun _ endpoint _ => !pairsEndpoint config endpoint).held
  fun_cases updateConfigSameRoutes c config nowNs
  case case6 hq => exact h.of_queue hq
  case case7 hq _ => exact (h.of_queue hq).published nowNs
  case case8 routing _ _ _ c' hq hclean =>
    have hqueued := h.of_queue hq
    rw [hq] at hheld
    have hempty : c'.queuedKeys = [] := by
      rw [cleanupPending, Bool.or_eq_true, not_or, Bool.not_eq_true, Bool.not_eq_false',
        List.isEmpty_iff] at hclean
      rw [queuedKeys, hclean.1, List.map_nil]
    -- a hold that follows the active host keeps the active host paired
    have hfollow (hunpaired : ∀ peer ∈ config.pairedHosts, peer.hostId ≠ c'.workspace.activeHost) :
        c'.FollowQueued := by
      intro key held hget hroute
      exfalso
      have hnot : key ∉ c'.queuedKeys := by
        rw [hempty]
        exact List.not_mem_nil
      have hold := hqueued.resolves key held hget hnot
      rw [hroute] at hold
      have hpairs : pairsEndpoint config key.endpoint = true := by
        by_contra hno
        exact hnot (queueRemoteCleanup_queued hq (hheld ▸ hget) (by simpa using hno))
      rw [pairsEndpoint, List.any_eq_true] at hpairs
      obtain ⟨peer, hmem, hboth⟩ := hpairs
      rw [Bool.and_eq_true, beq_iff_eq] at hboth
      exact hunpaired peer hmem (hboth.1.trans hold.activeHost.symm)
    obtain ⟨peers, heq | ⟨hunpaired, heq⟩⟩ := adoptPairedHosts_cases c' config
    · rw [heq]
      exact { hqueued with }
    · rw [heq]
      exact { hqueued.activateLocal (hfollow hunpaired) with }
  all_goals exact h

theorem updateConfig_resolved (h : c.Resolved) (hr : c.Routed) (config : Config) (nowNs : ℕ) :
    (c.updateConfig config nowNs).2.Resolved := by
  have hresolved := prepareRoutePolicyUpdate_resolved h config c.routePolicyRevision nowNs
  have hrouted := CoreOp.routed (.prepareRoutePolicyUpdate config c.routePolicyRevision nowNs) hr
  simp only [CoreOp.apply] at hrouted
  fun_cases updateConfig c config nowNs
  case case1 => exact updateConfigSameRoutes_resolved h config nowNs
  case case2 hp | case3 hp | case4 hp _ =>
    rw [hp] at hresolved
    exact hresolved
  case case5 c' hp staged _ _ c'' hcommit | case6 c' hp staged _ _ c'' hcommit =>
    rw [hp] at hresolved hrouted
    have hcommitted := commitRoutePolicyUpdate_resolved hresolved hrouted staged.nextRevision nowNs
    rw [hcommit] at hcommitted
    exact hcommitted

/-! ## Delivered cleanup releases -/

theorem confirmCleanupRelease_resolved (h : c.Resolved) (effect : CleanupReleaseEffect)
    (nowNs : ℕ) : (c.confirmCleanupRelease effect nowNs).2.Resolved := by
  fun_cases confirmCleanupRelease c effect nowNs
  case case2 entry rest _ hqueue =>
    refine Resolved.published ?_ nowNs
    refine h.keep (fun key held hget hnot => ⟨held, ?_, rfl, ?_⟩) rfl rfl id id
    all_goals
      simp only [get?_erase] at hget
      split_ifs at hget with hkey
    · exact hget
    · rw [queuedKeys, hqueue, List.map_cons, List.mem_cons, not_or]
      exact ⟨hkey, hnot⟩
  case case3 =>
    exact { h with }
  all_goals exact h

end DaemonCore

namespace CoreAction

/-- Authority returns to the local host without a cleanup only when nothing
    unqueued follows the active host. -/
def ClosesQueued (c : DaemonCore) : CoreAction → Prop
  | .op (.retryCleanupRelease effect _) => c.cleanupIsCurrent effect = true → c.FollowQueued
  | .op (.cancelPointerHandoff _) => c.FollowQueued
  | .confirm _ _ _ | .fail _ _ => c.pendingRemote = none → c.FollowQueued
  | _ => True

instance (c : DaemonCore) (a : CoreAction) : Decidable (a.ClosesQueued c) := by
  unfold ClosesQueued
  split <;> infer_instance

end CoreAction

theorem CoreOp.resolved {op : CoreOp} {c : DaemonCore} (h : c.Resolved) (hr : c.Routed)
    (ht : c.Tidy) (hids : c.nextEffectId + c.remoteHeld.size < u64Size)
    (hcloses : (CoreAction.op op).ClosesQueued c) : (op.apply c).Resolved := by
  have hkeep (c' : DaemonCore) (nowNs : ℕ) (hheld : c'.remoteHeld = c.remoteHeld)
      (hqueue : c'.cleanup = c.cleanup) (hw : c'.workspace = c.workspace)
      (ha : c'.endpointAvailability = c.endpointAvailability)
      (hhandoff : c'.handoffPending = true → c.handoffPending = true)
      (hpolicy : c'.pendingRoutePolicy.isSome = true → c.pendingRoutePolicy.isSome = true) :
      (c'.publish nowNs).Resolved :=
    (h.keep (.of_eq hheld hqueue) hw ha hhandoff hpolicy).published nowNs
  have hrelease (lifecycle : LifecycleState) (ready : Bool) (now : ℕ) :
      (releaseAuthority { c with lifecycle, workspaceReady := ready } now).2.Resolved := by
    refine releaseAuthority_resolved ?_ ?_ now
    · exact ht.of_fields rfl rfl rfl rfl le_rfl rfl
    · exact hids
  cases op with
  | tick now =>
    show (c.tick now).2.Resolved
    have hdrained : (if c.drainFailsafeKeys && !c.anyFailsafeKeyPressed then
        { c with drainFailsafeKeys := false } else c).Resolved := by
      split_ifs
      · exact { h with }
      · exact h
    unfold DaemonCore.tick
    simp only
    generalize (if c.drainFailsafeKeys && !c.anyFailsafeKeyPressed then
      { c with drainFailsafeKeys := false } else c) = c' at hdrained ⊢
    split_ifs
    · exact hdrained
    · exact hdrained.published now
  | enable now =>
    show (c.enable now).Resolved
    unfold DaemonCore.enable
    split
    · exact hkeep _ now rfl rfl rfl rfl id id
    · exact h
  | disable now =>
    show (c.disable now).2.Resolved
    unfold DaemonCore.disable
    split_ifs
    · exact h
    · exact hrelease _ _ now
  | triggerEmergency now =>
    show (c.triggerEmergency now).2.Resolved
    unfold DaemonCore.triggerEmergency
    split_ifs
    · exact h
    · refine activateFailsafe_resolved ?_ ?_ now
      · exact ht.of_fields rfl rfl rfl rfl le_rfl rfl
      · exact hids
  | shutdown now =>
    show (c.shutdown now).2.Resolved
    unfold DaemonCore.shutdown
    split_ifs
    · exact h
    · exact hrelease _ _ now
  | clearWorkspaceRoutingReady now =>
    show (c.clearWorkspaceRoutingReady now).2.Resolved
    unfold DaemonCore.clearWorkspaceRoutingReady
    split_ifs
    · exact h
    · exact hrelease _ _ now
  | markWorkspaceRoutingReady now =>
    show (c.markWorkspaceRoutingReady now).2.Resolved
    unfold DaemonCore.markWorkspaceRoutingReady
    simp only
    split_ifs
    · exact h
    · exact hkeep _ now rfl rfl rfl rfl id id
  | updateWorkspace workspace now => exact updateWorkspace_resolved ht hids h workspace now
  | beginPointerHandoff now => exact beginPointerHandoff_resolved ht hids h now
  | cancelPointerHandoff now => exact (h.activateLocal hcloses).published now
  | abortDestinationHandoffBarrier now =>
    exact hkeep _ now rfl rfl rfl rfl (fun hpending => (nomatch hpending)) id
  | finishPointerHandoff workspace now =>
    exact finishPointerHandoff_resolved ht hids h workspace now
  | setPeerState host state now =>
    show (c.setPeerState host state now).2.Resolved
    unfold DaemonCore.setPeerState
    split_ifs
    · exact h
    · exact h
    · exact h
    · exact hkeep _ now rfl rfl rfl rfl id id
  | installSessionEndpoint endpoint now => exact installSessionEndpoint_resolved h endpoint now
  | setEndpointState endpoint state now =>
    exact setEndpointState_resolved ht hids h endpoint state now
  | retireSessionEndpoint endpoint now => exact retireSessionEndpoint_resolved h endpoint now
  | confirmTransportInvalidated endpoint now =>
    exact confirmTransportInvalidated_resolved h endpoint now
  | gateLocalDevices devices now =>
    show (c.gateLocalDevices devices now).2.Resolved
    unfold DaemonCore.gateLocalDevices
    simp only
    split_ifs
    · exact h
    · exact h
    · refine Resolved.published (Resolved.queued ?_ _) now
      exact { h with }
  | restoreLocalDevice device now =>
    show (c.restoreLocalDevice device now).2.Resolved
    unfold DaemonCore.restoreLocalDevice
    split_ifs
    · exact h
    · exact hkeep _ now rfl rfl rfl rfl id id
  | prepareRoutePolicyUpdate candidate expected now =>
    exact prepareRoutePolicyUpdate_resolved h candidate expected now
  | retryRoutePolicyUpdate now =>
    show (c.retryRoutePolicyUpdate now).2.Resolved
    fun_cases DaemonCore.retryRoutePolicyUpdate c now
    case case3 hq => exact h.of_queue hq
    case case4 hq _ => exact (h.of_queue hq).published now
    all_goals exact h
  | commitRoutePolicyUpdate nextRevision now =>
    exact commitRoutePolicyUpdate_resolved h hr nextRevision now
  | abortRoutePolicyUpdate nextRevision now =>
    show (c.abortRoutePolicyUpdate nextRevision now).2.Resolved
    unfold DaemonCore.abortRoutePolicyUpdate
    split
    · exact h
    · split_ifs
      · exact h
      · exact hkeep _ now rfl rfl rfl rfl id (fun hs => (nomatch hs))
  | updateConfig config now => exact updateConfig_resolved h hr config now
  | takeNextCleanupRelease =>
    show c.takeNextCleanupRelease.2.Resolved
    fun_cases DaemonCore.takeNextCleanupRelease c
    all_goals exact { h with }
  | confirmCleanupRelease effect now => exact confirmCleanupRelease_resolved h effect now
  | retryCleanupRelease effect now =>
    show (c.retryCleanupRelease effect now).2.Resolved
    unfold DaemonCore.retryCleanupRelease
    split_ifs with hcurrent
    · refine Resolved.published ?_ now
      exact { h.activateLocal (hcloses hcurrent) with }
    · refine Resolved.published ?_ now
      exact { h with }

end SoftwareKvm
