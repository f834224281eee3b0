import Mathlib.Logic.Relation
import SoftwareKvm.Core.Action

/-!
# The assignments of the administrative operations

Every administrative operation of the core is a sequence of a few kinds of
assignments. `CoreOp.Edit` lists them with the guards under which the source
makes them, and `CoreOp.edits` says once that each operation is such a
sequence. A fact about all operations is then a fact about all edits.
-/

namespace SoftwareKvm

open Lib

/-- The operations that may stage, commit or abort a route policy. -/
def CoreOp.changesPolicy : CoreOp → Bool
  | .prepareRoutePolicyUpdate _ _ _ | .commitRoutePolicyUpdate _ _ | .abortRoutePolicyUpdate _ _
  | .updateConfig _ _ => true
  | _ => false

open DaemonCore in
/-- An assignment that the operation `op` may make. -/
inductive CoreOp.Edit (op : CoreOp) : DaemonCore → DaemonCore → Prop
  /-- Flags, peers, gates, lifecycle and the workspace. -/
  | flags (c : DaemonCore) (workspace : WorkspaceState) (lifecycle : LifecycleState)
      (peers : OrdMap HostId PeerState) (gated : Finset DeviceId) (ready handoff : Bool)
      (hlocal : workspace.localHost = c.workspace.localHost)
      (hready : ready = true →
        c.workspaceReady = true ∨ ∃ now, op = .markWorkspaceRoutingReady now) :
      Edit op c { c with
        workspace, lifecycle, peers, gatedLocalDevices := gated
        workspaceReady := ready, handoffPending := handoff }
  | publish (c : DaemonCore) (now : ℕ) (hnow : op.nowNs? = some now) : Edit op c (c.publish now)
  | queue (c : DaemonCore) (affected : HeldFilter) :
      Edit op c (c.queueRemoteCleanup affected).2
  | take (c : DaemonCore) (entry : CleanupEntry) (hhead : c.cleanup.head? = some entry)
      (hop : op = .takeNextCleanupRelease) :
      Edit op c { c with cleanupInFlight := some entry.id }
  | retry (c : DaemonCore) (effect : CleanupReleaseEffect) (now : ℕ)
      (hop : op = .retryCleanupRelease effect now) : Edit op c { c with cleanupInFlight := none }
  | confirm (c : DaemonCore) (entry : CleanupEntry) (rest : List CleanupEntry)
      (hqueue : c.cleanup = entry :: rest) (effect : CleanupReleaseEffect) (now : ℕ)
      (hop : op = .confirmCleanupRelease effect now) :
      Edit op c { c with
        cleanup := rest, cleanupInFlight := none
        remoteHeld := c.remoteHeld.erase entry.heldKey }
  | install (c : DaemonCore) (endpoint : SessionEndpoint) (now : ℕ)
      (hop : op = .installSessionEndpoint endpoint now)
      (hpaired : pairsEndpoint c.config endpoint = true)
      (hcurrent : ∀ current, c.endpointAvailability.get? endpoint.hostId = some current →
        current.endpoint = endpoint) :
      Edit op c { c with endpointAvailability :=
        c.endpointAvailability.insert endpoint.hostId ⟨endpoint, .connected⟩ }
  | setState (c : DaemonCore) (host : HostId) (state : PeerState) :
      Edit op c { c with endpointAvailability :=
        c.endpointAvailability.modify host fun current => { current with state } }
  | uninstall (c : DaemonCore) (host : HostId) :
      Edit op c { c with endpointAvailability := c.endpointAvailability.erase host }
  /-- The loss of a transport: its entries leave the queue and the ledger. -/
  | invalidate (c : DaemonCore) (endpoint : SessionEndpoint) (now : ℕ)
      (hop : op = .confirmTransportInvalidated endpoint now) :
      Edit op c (mapLatches
        { c with
          cleanup := c.cleanup.filter (·.endpoint != endpoint)
          cleanupInFlight := if c.inFlightEndpoint = some endpoint then none else c.cleanupInFlight
          remoteHeld := c.remoteHeld.filter fun key _ => key.endpoint != endpoint }
        fun _ latch =>
          match latch with
          | .remote held _ => if held = endpoint then .quarantined else latch
          | _ => latch)
  | forget (c : DaemonCore) (device : DeviceId) (now : ℕ)
      (hop : op = .restoreLocalDevice device now)
      (hfree : ∀ key, c.remoteHeld.contains key = true → key.device ≠ device) :
      Edit op c { c with
        physicalControls := c.physicalControls.erase device
        physicalControlCount := c.physicalControlCount
          - ((c.physicalControls.get? device).map OrdMap.size).getD 0 }
  | stage (c : DaemonCore) (pending : PendingRoutePolicy) (hop : op.changesPolicy = true)
      (hnone : c.pendingRoutePolicy = none)
      (hconfig : pending.config = { c.config with
        deviceRoutes := pending.config.deviceRoutes
        deviceRouteRevision := pending.nextRevision })
      (hrevision : pending.nextRevision = c.routePolicyRevision + 1)
      (hvalid : pending.config.validate = .ok ())
      (hrouting : routingFromConfig pending.config = .ok pending.routing)
      (haffected : pending.affectedDevices
        = affectedRouteDevices c.config pending.config c.routing pending.routing) :
      Edit op c { c with pendingRoutePolicy := some pending }
  | abort (c : DaemonCore) (hop : op.changesPolicy = true) :
      Edit op c { c with pendingRoutePolicy := none }
  | commit (c : DaemonCore) (pending : PendingRoutePolicy) (hop : op.changesPolicy = true)
      (hpending : c.pendingRoutePolicy = some pending) :
      Edit op c { (c.rerouteHeld pending.routing).rerouteLatches pending.routing with
        pendingRoutePolicy := none, config := pending.config, routing := pending.routing
        routePolicyRevision := pending.nextRevision }
  | configure (c : DaemonCore) (config : Config) (routing : RoutingTable) (now : ℕ)
      (hop : op = .updateConfig config now) (hnone : c.pendingRoutePolicy = none)
      (hvalid : config.validate = .ok ()) (hrouting : routingFromConfig config = .ok routing)
      (hroutes : config.deviceRoutes = c.config.deviceRoutes) :
      Edit op c { c with config, routing }
  | suspend (c : DaemonCore) (now : ℕ) (hop : op = .triggerEmergency now) :
      Edit op c (suspendRouting { c with drainFailsafeKeys := true } now)
  | drain (c : DaemonCore) (now : ℕ) (hop : op = .tick now)
      (hkeys : c.anyFailsafeKeyPressed = false) :
      Edit op c { c with drainFailsafeKeys := false }

/-- A sequence of assignments. -/
def CoreOp.Edits (op : CoreOp) : DaemonCore → DaemonCore → Prop :=
  Relation.ReflTransGen op.Edit

namespace CoreOp

open DaemonCore

variable {op : CoreOp} {c c' c'' : DaemonCore}

theorem Edits.refl (c : DaemonCore) : op.Edits c c := Relation.ReflTransGen.refl

theorem Edits.trans (h : op.Edits c c') (h' : op.Edits c' c'') : op.Edits c c'' :=
  Relation.ReflTransGen.trans h h'

theorem Edits.edit (h : op.Edits c c') (he : op.Edit c' c'') : op.Edits c c'' :=
  Relation.ReflTransGen.tail h he

/-- What every single assignment keeps, the operation keeps. -/
theorem Edits.invariant {P : DaemonCore → Prop} (hedit : ∀ c c', op.Edit c c' → P c → P c')
    (h : op.Edits c c') (hc : P c) : P c' := by
  induction h with
  | refl => exact hc
  | tail _ he ih => exact hedit _ _ he ih

/-- Flags after other assignments. -/
theorem Edits.thenFlags (h : op.Edits c c') (heq : c'' = { c' with
      workspace := c''.workspace, lifecycle := c''.lifecycle, peers := c''.peers
      gatedLocalDevices := c''.gatedLocalDevices, workspaceReady := c''.workspaceReady
      handoffPending := c''.handoffPending })
    (hlocal : c''.workspace.localHost = c'.workspace.localHost)
    (hready : c''.workspaceReady = true →
      c'.workspaceReady = true ∨ ∃ now, op = .markWorkspaceRoutingReady now) : op.Edits c c'' := by
  have hedit : op.Edit c' _ := .flags c' c''.workspace c''.lifecycle c''.peers
    c''.gatedLocalDevices c''.workspaceReady c''.handoffPending hlocal hready
  rw [← heq] at hedit
  exact h.edit hedit

theorem Edits.flags (heq : c' = { c with
      workspace := c'.workspace, lifecycle := c'.lifecycle, peers := c'.peers
      gatedLocalDevices := c'.gatedLocalDevices, workspaceReady := c'.workspaceReady
      handoffPending := c'.handoffPending })
    (hlocal : c'.workspace.localHost = c.workspace.localHost)
    (hready : c'.workspaceReady = true →
      c.workspaceReady = true ∨ ∃ now, op = .markWorkspaceRoutingReady now) : op.Edits c c' :=
  (Edits.refl c).thenFlags heq hlocal hready

theorem Edits.published {now : ℕ} (h : op.Edits c c') (hnow : op.nowNs? = some now) :
    op.Edits c (c'.publish now) := h.edit (.publish c' now hnow)

theorem Edits.queued (h : op.Edits c c') (affected : HeldFilter) :
    op.Edits c (c'.queueRemoteCleanup affected).2 := h.edit (.queue c' affected)

theorem Edits.of_queue {affected : HeldFilter}
    {r : Except CoreCaptureError Unit} (h : c.queueRemoteCleanup affected = (r, c')) :
    op.Edits c c' := by
  have hq : op.Edits c _ := (Edits.refl c).queued affected
  rwa [h] at hq

/-- Handing the host back to the local one and closing the gate. -/
theorem Edits.leaveHost (h : op.Edits c c') (host : HostId) :
    op.Edits c
      { c'.deactivateHost host with handoffPending := false, workspaceReady := false } := by
  unfold deactivateHost
  split_ifs <;> exact h.thenFlags rfl rfl fun hready => nomatch hready

end CoreOp

namespace DaemonCore

open CoreOp

variable {op : CoreOp} {c c' : DaemonCore} {now : ℕ}

theorem releaseAuthority_edits (h : op.Edits c c') (hnow : op.nowNs? = some now) :
    op.Edits c (c'.releaseAuthority now).2 := by
  refine Edits.published (Edits.queued ?_ allHeld) hnow
  exact h.thenFlags rfl rfl Or.inl

section

variable (c)

theorem updateWorkspace_edits {workspace : WorkspaceState} (hnow : op.nowNs? = some now) :
    op.Edits c (c.updateWorkspace workspace now).2 := by
  fun_cases updateWorkspace c workspace now
  case case5 h => exact .of_queue h
  case case6 h _ => exact (Edits.of_queue h).published hnow
  case case7 hlocal _ _ c' h _ =>
    refine Edits.published ((Edits.of_queue h).thenFlags rfl ?_ Or.inl) hnow
    have hframe := queueRemoteCleanup_frame c followsActiveHost
    rw [h] at hframe
    exact (not_ne_iff.mp hlocal).trans hframe.localHost.symm
  case case8 hlocal _ _ =>
    refine Edits.published (Edits.flags rfl ?_ Or.inl) hnow
    exact not_ne_iff.mp hlocal
  all_goals exact .refl c

theorem setEndpointState_edits (endpoint : SessionEndpoint) (state : PeerState)
    (hnow : op.nowNs? = some now) : op.Edits c (c.setEndpointState endpoint state now).2 := by
  have hset : op.Edits c { c with
      endpointAvailability := c.endpointAvailability.modify endpoint.hostId
        fun current => { current with state }
      peers := c.peers.insert endpoint.hostId state } := by
    exact ((Edits.refl c).edit (.setState c endpoint.hostId state)).thenFlags rfl rfl Or.inl
  unfold setEndpointState
  split_ifs
  · exact .refl c
  · exact hset.published hnow
  · exact Edits.published (Edits.queued (hset.leaveHost endpoint.hostId) _) hnow

theorem retireSessionEndpoint_edits (endpoint : SessionEndpoint) (hnow : op.nowNs? = some now) :
    op.Edits c (c.retireSessionEndpoint endpoint now).2 := by
  unfold retireSessionEndpoint
  split_ifs
  · exact .refl c
  · refine Edits.published (Edits.leaveHost ?_ endpoint.hostId) hnow
    exact ((Edits.refl c).edit (.uninstall c endpoint.hostId)).thenFlags rfl rfl Or.inl

theorem confirmTransportInvalidated_edits (endpoint : SessionEndpoint)
    (hop : op = .confirmTransportInvalidated endpoint now) :
    op.Edits c (c.confirmTransportInvalidated endpoint now) := by
  have hdrop : op.Edits c (c.dropCurrentEndpoint endpoint) := by
    unfold dropCurrentEndpoint
    split_ifs
    · refine Edits.leaveHost ?_ endpoint.hostId
      exact ((Edits.refl c).edit (.uninstall c endpoint.hostId)).thenFlags rfl rfl Or.inl
    · exact .refl c
  exact Edits.published (hdrop.edit (.invalidate _ endpoint now hop)) (by rw [hop]; rfl)

theorem prepareRoutePolicyUpdate_edits (candidate : Config) (expectedRevision : ℕ)
    (hop : op.changesPolicy = true) (hnow : op.nowNs? = some now) :
    op.Edits c (c.prepareRoutePolicyUpdate candidate expectedRevision now).2 := by
  fun_cases prepareRoutePolicyUpdate c candidate expectedRevision now
  case case10 h => exact .of_queue h
  case case11 hnone _ nextRevision hadd candidate' routing hrouting hvalid expected hcandidate _
      affected c' hq pending _ =>
    obtain ⟨queue, next, controls, heq⟩ :=
      queueRemoteCleanup_eq c (c.movesRoute routing affected)
    rw [hq] at heq
    obtain rfl : c' = _ := heq
    refine ((Edits.of_queue hq).edit
      (.stage _ pending hop hnone ?_ ?_ hvalid hrouting rfl)).published hnow
    · exact not_ne_iff.mp hcandidate
    · exact (checkedAdd_eq_some.mp hadd).1
  all_goals exact .refl c

theorem commitRoutePolicyUpdate_edits (nextRevision : ℕ) (hop : op.changesPolicy = true)
    (hnow : op.nowNs? = some now) : op.Edits c (c.commitRoutePolicyUpdate nextRevision now).2 := by
  fun_cases commitRoutePolicyUpdate c nextRevision now
  case case3 pending hpending _ hrevision =>
    rw [not_ne_iff] at hrevision
    subst hrevision
    exact ((Edits.refl c).edit (.commit c pending hop hpending)).published hnow
  all_goals exact .refl c

end

theorem adoptPairedHosts_edits (config : Config) (h : op.Edits c c') :
    op.Edits c (c'.adoptPairedHosts config) := by
  unfold adoptPairedHosts
  simp only
  split_ifs
  · exact h.thenFlags rfl rfl fun hready => nomatch hready
  · exact h.thenFlags rfl rfl Or.inl

variable (c)

theorem adoptPairedHosts_policy (config : Config) :
    (c.adoptPairedHosts config).pendingRoutePolicy = c.pendingRoutePolicy
      ∧ (c.adoptPairedHosts config).config = c.config := by
  unfold adoptPairedHosts
  simp only
  split_ifs <;> exact ⟨rfl, rfl⟩

theorem updateConfigSameRoutes_edits (config : Config) (hop : op = .updateConfig config now)
    (hroutes : config.deviceRoutes = c.config.deviceRoutes) :
    op.Edits c (c.updateConfigSameRoutes config now).2 := by
  have hnow : op.nowNs? = some now := by rw [hop]; rfl
  fun_cases updateConfigSameRoutes c config now
  case case6 h => exact .of_queue h
  case case7 h _ => exact (Edits.of_queue h).published hnow
  case case8 hpolicy routing hrouting hvalid _ c' h _ =>
    obtain ⟨queue, next, controls, heq⟩ :=
      queueRemoteCleanup_eq c fun _ endpoint _ => !pairsEndpoint config endpoint
    rw [h] at heq
    have hnone : (c'.adoptPairedHosts config).pendingRoutePolicy = none := by
      rw [Bool.not_eq_true, Option.isSome_eq_false_iff, Option.isNone_iff_eq_none] at hpolicy
      rw [(adoptPairedHosts_policy c' config).1, show c' = _ from heq]
      exact hpolicy
    have hsame : config.deviceRoutes = (c'.adoptPairedHosts config).config.deviceRoutes := by
      rw [(adoptPairedHosts_policy c' config).2, show c' = _ from heq]
      exact hroutes
    have hadopted : op.Edits c _ := adoptPairedHosts_edits config (.of_queue h)
    exact (hadopted.edit
      (.configure _ config routing now hop hnone hvalid hrouting hsame)).published hnow
  all_goals exact .refl c

theorem updateConfig_edits (config : Config) (hop : op = .updateConfig config now) :
    op.Edits c (c.updateConfig config now).2 := by
  have hnow : op.nowNs? = some now := by rw [hop]; rfl
  have hpolicy : op.changesPolicy = true := by rw [hop]; rfl
  have hp := prepareRoutePolicyUpdate_edits c config c.routePolicyRevision hpolicy hnow
  fun_cases updateConfig c config now
  case case1 hsame => exact updateConfigSameRoutes_edits c config hop hsame.1
  case case2 h | case3 h => rw [h] at hp; exact hp
  case case4 h _ => rw [h] at hp; exact hp
  case case5 c' h staged _ _ c'' hcommit | case6 c' h staged _ _ c'' hcommit =>
    rw [h] at hp
    have hc := commitRoutePolicyUpdate_edits c' staged.nextRevision hpolicy hnow
    rw [hcommit] at hc
    exact hp.trans hc

end DaemonCore

open DaemonCore in
/-- Every administrative operation is a sequence of assignments. -/
theorem CoreOp.edits (c : DaemonCore) (op : CoreOp) : op.Edits c (op.apply c) := by
  cases op with
  | tick now =>
    show Edits _ c (c.tick now).2
    unfold DaemonCore.tick
    by_cases hend : (c.drainFailsafeKeys && !c.anyFailsafeKeyPressed) = true
    · rw [Bool.and_eq_true, Bool.not_eq_true'] at hend
      have hdrain : (CoreOp.tick now).Edits c { c with drainFailsafeKeys := false } :=
        (Edits.refl c).edit (.drain c now rfl hend.2)
      simp only [hend, Bool.not_false, Bool.and_self, if_true]
      split_ifs
      · exact hdrain
      · exact hdrain.published rfl
    · rw [if_neg hend]
      simp only
      split_ifs
      · exact .refl c
      · exact (Edits.refl c).published rfl
  | enable now =>
    show Edits _ c (c.enable now)
    fun_cases DaemonCore.enable c now
    · exact Edits.published (.flags rfl rfl Or.inl) rfl
    · exact .refl c
  | disable now =>
    show Edits _ c (c.disable now).2
    fun_cases DaemonCore.disable c now
    · exact .refl c
    · exact releaseAuthority_edits (.flags rfl rfl Or.inl) rfl
  | triggerEmergency now =>
    show Edits _ c (c.triggerEmergency now).2
    fun_cases DaemonCore.triggerEmergency c now
    · exact .refl c
    · have hqueued : (CoreOp.triggerEmergency now).Edits c (queueRemoteCleanup
          (suspendRouting { c with drainFailsafeKeys := true } now) allHeld).2 :=
        ((Edits.refl c).edit (.suspend c now rfl)).queued allHeld
      unfold activateFailsafe
      generalize queueRemoteCleanup _ _ = r at hqueued ⊢
      obtain ⟨_ | _, c'⟩ := r
      · exact Edits.published (hqueued.thenFlags rfl rfl fun h => nomatch h) rfl
      · exact hqueued.published rfl
  | shutdown now =>
    show Edits _ c (c.shutdown now).2
    fun_cases DaemonCore.shutdown c now
    · exact .refl c
    · exact releaseAuthority_edits (.flags rfl rfl Or.inl) rfl
  | clearWorkspaceRoutingReady now =>
    show Edits _ c (c.clearWorkspaceRoutingReady now).2
    fun_cases DaemonCore.clearWorkspaceRoutingReady c now
    · exact .refl c
    · exact releaseAuthority_edits (.flags rfl rfl fun h => nomatch h) rfl
  | markWorkspaceRoutingReady now =>
    show Edits _ c (c.markWorkspaceRoutingReady now).2
    fun_cases DaemonCore.markWorkspaceRoutingReady c now
    · exact .refl c
    · exact Edits.published (.flags rfl rfl (fun _ => .inr ⟨now, rfl⟩)) rfl
  | updateWorkspace workspace now => exact updateWorkspace_edits c rfl
  | beginPointerHandoff now =>
    show Edits _ c (c.beginPointerHandoff now).2
    unfold DaemonCore.beginPointerHandoff
    split_ifs
    · exact .refl c
    · refine Edits.published (Edits.queued ?_ followsActiveHost) rfl
      exact .flags rfl rfl Or.inl
  | cancelPointerHandoff now => exact Edits.published (.flags rfl rfl Or.inl) rfl
  | abortDestinationHandoffBarrier now => exact Edits.published (.flags rfl rfl Or.inl) rfl
  | finishPointerHandoff workspace now =>
    show Edits _ c (c.finishPointerHandoff workspace now).2
    have hu : (CoreOp.finishPointerHandoff workspace now).Edits c
        (c.updateWorkspace workspace now).2 := updateWorkspace_edits c rfl
    fun_cases DaemonCore.finishPointerHandoff c workspace now
    case case4 h => rw [h] at hu; exact hu
    case case5 h =>
      rw [h] at hu
      exact Edits.published (hu.thenFlags rfl rfl Or.inl) rfl
    all_goals exact .refl c
  | setPeerState host state now =>
    show Edits _ c (c.setPeerState host state now).2
    fun_cases DaemonCore.setPeerState c host state now
    case case4 => exact Edits.published (.flags rfl rfl Or.inl) rfl
    all_goals exact .refl c
  | installSessionEndpoint endpoint now =>
    show Edits _ c (c.installSessionEndpoint endpoint now).2
    fun_cases DaemonCore.installSessionEndpoint c endpoint now
    case case3 hpaired hcurrent =>
      rw [Bool.not_eq_true, Bool.or_eq_false_iff, Bool.not_eq_false'] at hpaired
      have hsame (current : EndpointAvailability)
          (hget : c.endpointAvailability.get? endpoint.hostId = some current) :
          current.endpoint = endpoint := by
        simpa [hget] using hcurrent
      have hinstall : (CoreOp.installSessionEndpoint endpoint now).Edits c _ :=
        (Edits.refl c).edit (.install c endpoint now rfl hpaired.2 hsame)
      exact Edits.published (hinstall.thenFlags rfl rfl Or.inl) rfl
    all_goals exact .refl c
  | setEndpointState endpoint state now => exact setEndpointState_edits c endpoint state rfl
  | retireSessionEndpoint endpoint now => exact retireSessionEndpoint_edits c endpoint rfl
  | confirmTransportInvalidated endpoint now =>
    exact confirmTransportInvalidated_edits c endpoint rfl
  | gateLocalDevices devices now =>
    show Edits _ c (c.gateLocalDevices devices now).2
    unfold DaemonCore.gateLocalDevices
    simp only
    split_ifs
    · exact .refl c
    · exact .refl c
    · refine Edits.published (Edits.queued ?_ _) rfl
      exact .flags rfl rfl Or.inl
  | restoreLocalDevice device now =>
    show Edits _ c (c.restoreLocalDevice device now).2
    fun_cases DaemonCore.restoreLocalDevice c device now
    case case1 => exact .refl c
    case case2 hfree removed =>
      simp only [Bool.or_eq_true, not_or, List.any_eq_true, not_exists, not_and, beq_iff_eq]
        at hfree
      have hforget := (Edits.refl c).edit (.forget c device now rfl fun key hheld =>
        hfree.1 key (OrdMap.mem_keys_iff_contains.mpr hheld))
      exact Edits.published (hforget.thenFlags rfl rfl Or.inl) rfl
  | prepareRoutePolicyUpdate candidate revision now =>
    exact prepareRoutePolicyUpdate_edits c candidate revision rfl rfl
  | retryRoutePolicyUpdate now =>
    show Edits _ c (c.retryRoutePolicyUpdate now).2
    fun_cases DaemonCore.retryRoutePolicyUpdate c now
    case case3 h => exact .of_queue h
    case case4 h _ => exact (Edits.of_queue h).published rfl
    all_goals exact .refl c
  | commitRoutePolicyUpdate revision now => exact commitRoutePolicyUpdate_edits c revision rfl rfl
  | abortRoutePolicyUpdate revision now =>
    show Edits _ c (c.abortRoutePolicyUpdate revision now).2
    fun_cases DaemonCore.abortRoutePolicyUpdate c revision now
    case case3 => exact ((Edits.refl c).edit (.abort c rfl)).published rfl
    all_goals exact .refl c
  | updateConfig config now => exact updateConfig_edits c config rfl
  | takeNextCleanupRelease =>
    show Edits _ c c.takeNextCleanupRelease.2
    fun_cases DaemonCore.takeNextCleanupRelease c
    case case3 entry hhead => exact (Edits.refl c).edit (.take c entry hhead rfl)
    all_goals exact .refl c
  | confirmCleanupRelease effect now =>
    show Edits _ c (c.confirmCleanupRelease effect now).2
    fun_cases DaemonCore.confirmCleanupRelease c effect now
    case case1 => exact .refl c
    case case2 _ entry rest hqueue =>
      exact ((Edits.refl c).edit (.confirm c entry rest hqueue effect now rfl)).published rfl
    case case3 => exact Edits.published (.flags rfl rfl fun h => nomatch h) rfl
  | retryCleanupRelease effect now =>
    show Edits _ c (c.retryCleanupRelease effect now).2
    fun_cases DaemonCore.retryCleanupRelease c effect now
    · have hretry := (Edits.refl c).edit (.retry c effect now rfl)
      exact Edits.published (hretry.thenFlags rfl rfl fun h => nomatch h) rfl
    · exact Edits.published (.flags rfl rfl fun h => nomatch h) rfl

open DaemonCore in
/-- Every assignment is a frame step. -/
theorem CoreOp.Edit.frame {op : CoreOp} {c c' : DaemonCore} (h : op.Edit c c') : Frame c c' := by
  cases h with
  | flags _ _ _ _ _ _ hlocal => exact .of_fields rfl hlocal rfl
  | queue affected => exact queueRemoteCleanup_frame c affected
  | invalidate endpoint now hop =>
    refine Frame.trans ?_ (mapLatches_frame fun d l => ?_)
    · exact .of_fields rfl rfl rfl
    · cases l with
      | «local» => exact .keep _
      | quarantined => exact .keep _
      | remote held r =>
        simp only
        split_ifs
        · exact .quarantine held r
        · exact .keep _
  | forget device now hop hfree =>
    refine ⟨rfl, rfl, fun d k => ?_⟩
    simp only [latch?, OrdMap.get?_erase]
    split_ifs
    · exact .drop _
    · exact .keep _
  | commit pending =>
    have hframe : Frame c (c.rerouteLatches pending.routing) := by
      refine mapLatches_frame fun d l => ?_
      cases l with
      | «local» => exact .keep _
      | quarantined => exact .keep _
      | remote e r => exact .reroute e r _
    exact hframe.trans (.of_fields rfl rfl rfl)
  | _ => exact .of_fields rfl rfl rfl

open DaemonCore in
/-- Every administrative operation is a frame step. -/
theorem CoreOp.apply_frame (c : DaemonCore) (op : CoreOp) : Frame c (op.apply c) :=
  (op.edits c).invariant (P := Frame c) (fun _ _ hedit h => h.trans hedit.frame) (.refl c)

end SoftwareKvm
