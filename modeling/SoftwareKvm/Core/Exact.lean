import SoftwareKvm.Core.Cleanup

/-!
# What every run of the core keeps

Two facts that need no assumption about the order of the calls: the published
snapshot shows the core (`snapshot_current`), and the controls recorded as held are
counted exactly (`controls_counted`).
-/

namespace SoftwareKvm

open Lib

namespace DaemonCore

variable {c c' : DaemonCore} (nowNs : ℕ)

/-! ## The published snapshot -/

/-- The snapshot shows the core. -/
structure Shown (c : DaemonCore) : Prop where
  workspace : c.snapshot.workspace = c.workspace
  routing : c.snapshot.routing = c.routing
  peers : c.snapshot.peers = c.peers
  workspaceReady : c.snapshot.workspaceReady = c.workspaceReady
  handoffPending : c.snapshot.handoffPending = c.handoffPending

theorem publish_shown (c : DaemonCore) (nowNs : ℕ) : (c.publish nowNs).Shown :=
  ⟨rfl, rfl, rfl, rfl, rfl⟩

theorem Shown.of_queue {affected : HeldFilter} {r : Except CoreCaptureError Unit} (h : c.Shown)
    (hq : c.queueRemoteCleanup affected = (r, c')) : c'.Shown := by
  obtain ⟨queue, next, controls, heq⟩ := queueRemoteCleanup_eq c affected
  rw [hq] at heq
  obtain rfl : c' = _ := heq
  exact { h with }

theorem prepareCaptured_shown (h : c.Shown) (captured : CapturedInput) :
    (c.prepareCaptured captured nowNs).2.Shown := by
  have has := prepareCaptured_as c captured nowNs
  generalize c.prepareCaptured captured nowNs = r at has ⊢
  cases has with
  | busy | untracked => exact h
  | refused e c' _ _ hrecord =>
    obtain ⟨-, rfl, -⟩ := recordTransition_error hrecord
    exact publish_shown _ nowNs
  | recorded c₁ previousLatch _ _ _ hrecord has =>
    obtain ⟨⟨controls, count, rfl⟩, -, -⟩ := recordTransition_ok hrecord
    cases has with
    | closed | activated | draining => exact publish_shown _ nowNs
    | passes | inert | barred | quarantined | remote => exact { h with }

theorem failRemoteInput_shown (c : DaemonCore) (effect : RemoteInputEffect) :
    (c.failRemoteInput effect nowNs).2.Shown := by
  unfold failRemoteInput
  rcases takeMatchingRemote_cases c effect.decisionId nowNs with
    ⟨pending, -, -, htake⟩ | ⟨-, htake⟩
  · rw [htake]
    exact publish_shown _ nowNs
  · rw [htake]
    exact publish_shown _ nowNs

theorem updateWorkspace_shown (h : c.Shown) (workspace : WorkspaceState) :
    (c.updateWorkspace workspace nowNs).2.Shown := by
  fun_cases updateWorkspace c workspace nowNs
  case case5 hq => exact h.of_queue hq
  case case6 | case7 | case8 => exact publish_shown _ nowNs
  all_goals exact h

theorem prepareRoutePolicyUpdate_shown (h : c.Shown) (candidate : Config) (revision : ℕ) :
    (c.prepareRoutePolicyUpdate candidate revision nowNs).2.Shown := by
  fun_cases prepareRoutePolicyUpdate c candidate revision nowNs
  case case10 hq => exact h.of_queue hq
  case case11 => exact publish_shown _ nowNs
  all_goals exact h

theorem commitRoutePolicyUpdate_shown (h : c.Shown) (revision : ℕ) :
    (c.commitRoutePolicyUpdate revision nowNs).2.Shown := by
  fun_cases commitRoutePolicyUpdate c revision nowNs
  case case3 => exact publish_shown _ nowNs
  all_goals exact h

theorem updateConfig_shown (h : c.Shown) (config : Config) :
    (c.updateConfig config nowNs).2.Shown := by
  have hp := prepareRoutePolicyUpdate_shown nowNs h config c.routePolicyRevision
  fun_cases updateConfig c config nowNs
  case case1 =>
    fun_cases updateConfigSameRoutes c config nowNs
    case case6 hq => exact h.of_queue hq
    case case7 | case8 => exact publish_shown _ nowNs
    all_goals exact h
  case case2 hq | case3 hq | case4 hq _ =>
    rw [hq] at hp
    exact hp
  case case5 c' hq staged _ _ c'' hcommit | case6 c' hq staged _ _ c'' hcommit =>
    rw [hq] at hp
    have hc := commitRoutePolicyUpdate_shown nowNs hp staged.nextRevision
    rw [hcommit] at hc
    exact hc

theorem op_shown (op : CoreOp) (h : c.Shown) : (op.apply c).Shown := by
  cases op with
  | updateWorkspace workspace => exact updateWorkspace_shown _ h workspace
  | finishPointerHandoff workspace now =>
    have hu := updateWorkspace_shown now h workspace
    simp only [CoreOp.apply, finishPointerHandoff]
    split_ifs
    all_goals try exact h
    split
    · next heq => rw [heq] at hu; exact hu
    · exact publish_shown _ now
  | prepareRoutePolicyUpdate candidate revision =>
    exact prepareRoutePolicyUpdate_shown _ h candidate revision
  | updateConfig config => exact updateConfig_shown _ h config
  | commitRoutePolicyUpdate revision => exact commitRoutePolicyUpdate_shown _ h revision
  | retryRoutePolicyUpdate now =>
    show (c.retryRoutePolicyUpdate now).2.Shown
    fun_cases retryRoutePolicyUpdate c now
    case case3 hq => exact h.of_queue hq
    case case4 => exact publish_shown _ now
    all_goals exact h
  | _ =>
    -- what is left ends in a publication or leaves the snapshot and its fields alone
    simp only [CoreOp.apply, tick, enable, disable, triggerEmergency, shutdown,
      clearWorkspaceRoutingReady, markWorkspaceRoutingReady, beginPointerHandoff,
      cancelPointerHandoff, abortDestinationHandoffBarrier, setPeerState, installSessionEndpoint,
      setEndpointState, retireSessionEndpoint, confirmTransportInvalidated, gateLocalDevices,
      restoreLocalDevice, abortRoutePolicyUpdate, takeNextCleanupRelease, confirmCleanupRelease,
      retryCleanupRelease]
    repeat' split
    all_goals first | exact publish_shown _ _ | exact { h with }

/-! ## The count of held controls -/

/-- The count is exact and within its bounds, and no device is left without a control. -/
structure Exact (c : DaemonCore) : Prop extends c.PhysicalBounds where
  nonempty : ∀ d m, c.physicalControls.get? d = some m → m.isEmpty = false

theorem Exact.of_eq (h : c.Exact) (hp : c'.physicalControls = c.physicalControls)
    (hn : c'.physicalControlCount = c.physicalControlCount) : c'.Exact :=
  ⟨h.toPhysicalBounds.of_eq hp hn, hp ▸ h.nonempty⟩

theorem setLatch_exact (h : c.Exact) (d : DeviceId) (k : PhysicalControl)
    (l : LatchedDestination) : (c.setLatch d k l).Exact where
  toPhysicalBounds := setLatch_bounds h.toPhysicalBounds d k l
  nonempty := OrdMap.forall_modify _ h.nonempty
    fun m hm => by rwa [OrdMap.modify, OrdMap.isEmpty_mapVals]

theorem mapLatches_exact (h : c.Exact) (f : DeviceId → LatchedDestination → LatchedDestination) :
    (c.mapLatches f).Exact where
  toPhysicalBounds := mapLatches_bounds h.toPhysicalBounds f
  nonempty d m hget := by
    obtain ⟨m', hget', rfl⟩ := Option.map_eq_some_iff.mp ((OrdMap.get?_mapVals ..).symm.trans hget)
    rw [OrdMap.isEmpty_mapVals]
    exact h.nonempty d m' hget'

theorem queueRemoteCleanup_exact (h : c.Exact) (affected : HeldFilter) :
    (c.queueRemoteCleanup affected).2.Exact := by
  refine queueRemoteCleanup_induction (fun c x _ _ h => ?_) affected h
  unfold pushCleanup quarantineKey
  split
  · split_ifs
    · refine setLatch_exact ?_ _ _ _
      exact h.of_eq rfl rfl
    · exact h.of_eq rfl rfl
  · exact h.of_eq rfl rfl

theorem recordTransition_exact {device : DeviceId} {stateful : Option ControlTransition}
    {previousLatch : Option LatchedDestination} {nowNs : ℕ}
    (hr : c.recordTransition device stateful nowNs = (.ok previousLatch, c')) (h : c.Exact) :
    c'.Exact where
  toPhysicalBounds := recordTransition_bounds hr h.toPhysicalBounds
  nonempty := by
    match stateful with
    | none | some (_, .repeat) =>
      cases hr
      exact h.nonempty
    | some (k, .press) =>
      rcases recordTransition_press hr with ⟨latch, -, -, rfl⟩ | ⟨-, -, rfl, -⟩
      · exact h.nonempty
      · refine OrdMap.forall_insert _ h.nonempty ?_
        exact OrdMap.isEmpty_of_get? (OrdMap.get?_insert_self _ _ _)
    | some (k, .release) =>
      cases hr
      unfold removeLatch
      split
      · exact h.nonempty
      · simp only
        split_ifs with _ hempty
        · exact OrdMap.forall_erase _ h.nonempty device
        · exact OrdMap.forall_insert _ h.nonempty (Bool.not_eq_true _ ▸ hempty)
        · exact h.nonempty

theorem exact_capturing : Capturing fun c c' => c.Exact → c'.Exact where
  trans h h' hc := h' (h hc)
  assign _ _ _ _ _ _ _ _ _ _ h := h.of_eq rfl rfl
  queue _ h := queueRemoteCleanup_exact h allHeld
  latch _ d k l h := setLatch_exact h d k l

theorem Edit.exact {op : CoreOp} (he : op.Edit c c') (h : c.Exact) : c'.Exact := by
  cases he with
  | queue affected => exact queueRemoteCleanup_exact h affected
  | invalidate endpoint =>
    refine mapLatches_exact ?_ _
    exact h.of_eq rfl rfl
  | commit pending =>
    have hlatches : ((c.rerouteHeld pending.routing).rerouteLatches pending.routing).Exact := by
      refine mapLatches_exact ?_ _
      exact h.of_eq rfl rfl
    exact hlatches.of_eq rfl rfl
  | forget device =>
    exact ⟨forgetDevice_bounds h.toPhysicalBounds rfl rfl, OrdMap.forall_erase _ h.nonempty device⟩
  | _ => exact h.of_eq rfl rfl

end DaemonCore

open DaemonCore

section

variable {config : Config} {workspace : WorkspaceState} {core : DaemonCore}
  (hnew : DaemonCore.new config workspace = .ok core)

include hnew

/-- The snapshot never goes stale: after any calls it shows the workspace, the
    routing table, the peers, the readiness and the handoff of the core. -/
theorem snapshot_current (actions : List CoreAction) :
    (execute CoreAction.apply core actions).Shown := by
  refine execute_invariant (fun c a h => ?_) actions ?_
  · cases a with
    | prepare captured now => exact prepareCaptured_shown now h captured
    | confirm effect sequence now =>
      show (c.confirmRemoteInput effect sequence now).2.Shown
      unfold confirmRemoteInput
      rcases takeMatchingRemote_cases c effect.decisionId now with
        ⟨pending, -, -, htake⟩ | ⟨-, htake⟩
      · rw [htake]
        simp only
        have hspec := confirmTaken_spec { c with pendingRemote := none } pending sequence now
        generalize confirmTaken _ pending sequence now = r at hspec ⊢
        cases hspec with
        | _ => exact publish_shown _ now
      · rw [htake]
        exact publish_shown _ now
    | fail effect now => exact failRemoteInput_shown now c effect
    | process captured now =>
      have hprepare := prepareCaptured_shown now h captured
      show (c.processCaptured captured now).2.Shown
      rcases processCaptured_eq c captured now with ⟨effect, c', heq, hfail⟩ | ⟨-, heq⟩
      · rw [hfail]
        exact failRemoteInput_shown now c' effect
      · rw [heq]
        exact hprepare
    | op op => exact op_shown op h
  · unfold DaemonCore.new at hnew
    split at hnew
    · cases hnew
    · split at hnew
      · cases hnew
      · split at hnew
        · cases hnew
        · cases hnew
          exact ⟨rfl, rfl, rfl, rfl, rfl⟩

/-- After any calls the count of held controls is exact and within its bounds. So
    a release and a restored device subtract no more than the count, and a press
    is refused exactly if a bound is reached. -/
theorem controls_counted (actions : List CoreAction) :
    let c := execute CoreAction.apply core actions
    c.Exact
      ∧ (∀ d k, (c.latch? d k).isSome = true → 0 < c.physicalControlCount)
      ∧ (∀ d m, c.physicalControls.get? d = some m → m.size ≤ c.physicalControlCount)
      ∧ ∀ d, (c.ensurePhysicalCapacity d).1 = .error .capacityExceeded ↔
        c.physicalControls.get? d = none ∧ c.physicalControls.size = maxPhysicalHeldDevices
        ∨ (∃ m, c.physicalControls.get? d = some m ∧ m.size = maxPhysicalHeldPerDevice)
        ∨ c.physical.card = maxPhysicalHeldTotal := by
  intro c
  have hexact : c.Exact := by
    refine execute_invariant (fun c a h => ?_) actions ?_
    · by_cases hop : ∃ op, a = .op op
      · obtain ⟨op, rfl⟩ := hop
        exact (op.edits c).invariant (fun _ _ he h => Edit.exact he h) h
      · rw [not_exists] at hop
        exact exact_capturing.apply recordTransition_exact c hop h
    · refine ⟨(new_settled hnew fun _ => True).1.ledger.bounds, ?_⟩
      rw [(new_created hnew).physicalControls]
      rintro d m ⟨⟩
  refine ⟨hexact, fun d k hlatch => ?_, fun d m hget => ?_, fun d => ?_⟩
  · rw [← hexact.counted]
    exact Finset.card_pos.mpr ⟨(d, k), mem_physical.mpr hlatch⟩
  · -- the entries of a device are part of the count
    have hsize := c.physicalControls.card_itemSet_at (f := OrdMap.keys) (fun m => m.nodup_keys) d
    rw [hget, Option.map_some, Option.getD_some, OrdMap.length_keys] at hsize
    rw [← hexact.counted, ← hsize]
    exact Finset.card_filter_le _ _
  · have hfails : (c.ensurePhysicalCapacity d).1 = .error .capacityExceeded ↔
        (c.physicalControls.get? d).isNone = true ∧ maxPhysicalHeldDevices ≤ c.physicalControls.size
        ∨ (c.physicalControls.get? d).any (maxPhysicalHeldPerDevice ≤ ·.size) = true
        ∨ maxPhysicalHeldTotal ≤ c.physicalControlCount := by
      unfold ensurePhysicalCapacity
      simp only
      split_ifs with hfull <;> simpa [or_assoc] using hfull
    rw [hfails, hexact.counted, Option.isNone_iff_eq_none, Option.any_eq_true,
      hexact.devices.ge_iff_eq, hexact.total.ge_iff_eq]
    refine or_congr_right (or_congr_left (exists_congr fun m => and_congr_right fun hget => ?_))
    rw [decide_eq_true_eq, (hexact.perDevice d m hget).ge_iff_eq]

end

open Sample

/-- The pointer moves to the other host, and an update that changes the local host is refused. -/
theorem snapshot_current_moved : let move := CoreAction.op (.updateWorkspace
      { workspaceFor localHost with activeHost := remoteHost } 1)
    let moved := execute CoreAction.apply core [move]
    core.snapshot.workspace.activeHost = localHost ∧ moved.Shown
      ∧ moved.snapshot.workspace.activeHost = remoteHost
      ∧ (moved.updateWorkspace (workspaceFor remoteHost) 2).1.isOk = false
      ∧ (execute CoreAction.apply core
          [move, .op (.updateWorkspace (workspaceFor remoteHost) 2)]).Shown := by
  have hnew : DaemonCore.new config workspace = .ok core := rfl
  exact ⟨by decide +kernel, snapshot_current hnew _, by decide +kernel, by decide +kernel,
    snapshot_current hnew _⟩

theorem controls_counted_pressed :
    (execute CoreAction.apply core [.process (key .keyA .pressed) 0]).physicalControlCount = 1
      ∧ (execute CoreAction.apply core [.process (key .keyA .pressed) 0]).Exact := by
  have hnew : DaemonCore.new config workspace = .ok core := rfl
  exact ⟨by decide +kernel, (controls_counted hnew _).1⟩

end SoftwareKvm
