import SoftwareKvm.Core.Ops
import SoftwareKvm.Lib.Runs

/-!
# How the core changes latches

Outside `prepare_captured` and the settlement of its decision, a latch only
ever moves away from a remote destination: `Remote` may become `Quarantined`
or change its route, and a latch may be dropped with its device. `LatchStep`
is that relation and `Frame` its extension to whole cores; every operation of
`Ops.lean` (`CoreOp.apply_frame`) and every cleanup step is a `Frame` step.

Results: `queueRemoteCleanup_frame`, `failClosed_frame`, `activateFailsafe_frame`.
-/

namespace SoftwareKvm

open Lib

/-- A core as `DaemonCore::new` makes it: nothing is held, queued, pending or
    installed, and routing is not ready. -/
structure DaemonCore.Created (config : Config) (workspace : WorkspaceState) (c : DaemonCore) :
    Prop where
  config : c.config = config
  workspace : c.workspace = workspace
  routing : routingFromConfig c.config = .ok c.routing
  endpointAvailability : c.endpointAvailability = ∅
  physicalControls : c.physicalControls = ∅
  physicalControlCount : c.physicalControlCount = 0
  remoteHeld : c.remoteHeld = ∅
  cleanup : c.cleanup = []
  cleanupInFlight : c.cleanupInFlight = none
  pendingRemote : c.pendingRemote = none
  pendingRoutePolicy : c.pendingRoutePolicy = none
  workspaceReady : c.workspaceReady = false
  handoffPending : c.handoffPending = false

theorem DaemonCore.new_created {config : Config} {workspace : WorkspaceState} {core : DaemonCore}
    (h : DaemonCore.new config workspace = .ok core) : core.Created config workspace := by
  unfold DaemonCore.new at h
  split at h
  · cases h
  · split at h
    · cases h
    · split at h
      · cases h
      · next routing hrouting =>
        cases h
        exact ⟨rfl, rfl, hrouting, rfl, rfl, rfl, rfl, rfl, rfl, rfl, rfl, rfl, rfl⟩

/-- The ways an operation may change one latch. -/
inductive LatchStep : Option LatchedDestination → Option LatchedDestination → Prop
  | keep (l : Option LatchedDestination) : LatchStep l l
  | quarantine (e : SessionEndpoint) (r : DeviceRoute) :
      LatchStep (some (.remote e r)) (some .quarantined)
  | reroute (e : SessionEndpoint) (r r' : DeviceRoute) :
      LatchStep (some (.remote e r)) (some (.remote e r'))
  | drop (l : Option LatchedDestination) : LatchStep l none

theorem LatchStep.trans {a b c : Option LatchedDestination} (h1 : LatchStep a b)
    (h2 : LatchStep b c) : LatchStep a c := by
  cases h1 with
  | keep => exact h2
  | quarantine e r =>
    cases h2 with
    | keep => exact .quarantine e r
    | drop => exact .drop _
  | reroute e r r' =>
    cases h2 with
    | keep => exact .reroute e r r'
    | quarantine => exact .quarantine e r
    | reroute => exact .reroute e r _
    | drop => exact .drop _
  | drop => cases h2 <;> exact .drop _

/-- A latch that is absent or `Local`. -/
def LocalOrNone (l : Option LatchedDestination) : Prop := l = none ∨ l = some .local

instance (l : Option LatchedDestination) : Decidable (LocalOrNone l) :=
  inferInstanceAs (Decidable (l = none ∨ l = some .local))

theorem LatchStep.localOrNone {a b : Option LatchedDestination} (h : LatchStep a b)
    (ha : LocalOrNone a) : LocalOrNone b := by
  cases h with
  | keep => exact ha
  | quarantine => rcases ha with ha | ha <;> cases ha
  | reroute => rcases ha with ha | ha <;> cases ha
  | drop => exact Or.inl rfl

theorem LatchStep.none {b : Option LatchedDestination} (h : LatchStep none b) : b = none := by
  cases h <;> rfl

namespace DaemonCore

open OrdMap

/-! ## Look-up after an update -/

theorem latch?_congr {c c' : DaemonCore} (h : c'.physicalControls = c.physicalControls)
    (d : DeviceId) (k : PhysicalControl) : c'.latch? d k = c.latch? d k := by
  unfold latch?; rw [h]

variable (c : DaemonCore)

theorem latch?_setLatch (d d' : DeviceId) (k k' : PhysicalControl) (l : LatchedDestination) :
    (c.setLatch d k l).latch? d' k' =
      if d' = d ∧ k' = k then (c.latch? d' k').map (fun _ => l) else c.latch? d' k' := by
  unfold latch? setLatch
  simp only [get?_modify]
  by_cases hd : d' = d
  · cases hc : c.physicalControls.get? d' with
    | none => simp [hd]
    | some controls =>
      by_cases hk : k' = k <;> simp [hd, hk, get?_modify]
  · simp [hd]

theorem latch?_insertLatch (d d' : DeviceId) (k k' : PhysicalControl) :
    (c.insertLatch d k).latch? d' k' =
      if d' = d ∧ k' = k then some .local else c.latch? d' k' := by
  unfold latch? insertLatch
  simp only [get?_insert]
  by_cases hd : d' = d
  · subst hd
    cases hc : c.physicalControls.get? d' <;>
      by_cases hk : k' = k <;> simp [hk, get?_insert]
  · simp [hd]

theorem latch?_removeLatch (d d' : DeviceId) (k k' : PhysicalControl) :
    (c.removeLatch d k).latch? d' k' = if d' = d ∧ k' = k then none else c.latch? d' k' := by
  unfold removeLatch
  cases hc : c.physicalControls.get? d with
  | none =>
    by_cases h : d' = d ∧ k' = k
    · obtain ⟨rfl, rfl⟩ := h
      simp [latch?, hc]
    · simp [h]
  | some controls =>
    by_cases hk : controls.contains k
    · simp only [hk, if_true]
      have hget (m : OrdMap DeviceId (OrdMap PhysicalControl LatchedDestination))
          (hm : (m.get? d').bind (·.get? k') =
            if d' = d then (controls.erase k).get? k' else c.latch? d' k') :
          (m.get? d').bind (·.get? k') =
            if d' = d ∧ k' = k then none else c.latch? d' k' := by
        rw [hm, get?_erase]
        by_cases hd : d' = d
        · subst hd
          by_cases hk' : k' = k <;> simp [hk', latch?, hc]
        · simp [hd]
      apply hget
      by_cases hempty : (controls.erase k).isEmpty
      · rw [if_pos hempty, get?_erase]
        by_cases hd : d' = d
        · simp [hd, (isEmpty_iff.mp hempty) k']
        · simp [hd, latch?]
      · rw [if_neg hempty, get?_insert]
        by_cases hd : d' = d <;> simp [hd, latch?]
    · simp only [hk, Bool.false_eq_true, if_false]
      by_cases h : d' = d ∧ k' = k
      · obtain ⟨rfl, rfl⟩ := h
        simpa [latch?, hc, contains] using hk
      · simp [h]

theorem latch?_mapLatches (f : DeviceId → LatchedDestination → LatchedDestination)
    (d : DeviceId) (k : PhysicalControl) :
    (c.mapLatches f).latch? d k = (c.latch? d k).map (f d) := by
  unfold latch? mapLatches
  simp only [get?_mapVals]
  cases hc : c.physicalControls.get? d with
  | none => rfl
  | some controls => simp [get?_mapVals]

/-! ## Queueing releases -/

/-- The keys that the cleanup queue releases. -/
def queuedKeys : List HeldKey := c.cleanup.map CleanupEntry.heldKey

/-- The loop body of `queue_remote_cleanup` appends one entry and may change a latch. -/
theorem pushCleanup_eq (x : CleanupCandidate) : ∃ controls, c.pushCleanup x = { c with
      nextEffectId := c.nextEffectId + 1
      cleanup := c.cleanup ++ [cleanupEntry c.nextEffectId x]
      physicalControls := controls } := by
  unfold pushCleanup quarantineKey
  split
  · split_ifs <;> exact ⟨_, rfl⟩
  · exact ⟨_, rfl⟩

/-- What `queue_remote_cleanup` pushes: keys of the ledger, each once and none queued already. -/
structure Queueable (c : DaemonCore) (candidates : List CleanupCandidate) : Prop where
  held : ∀ x ∈ candidates, c.remoteHeld.contains x.1 = true
  once : (candidates.map Prod.fst).Nodup
  fresh : ∀ x ∈ candidates, x.1 ∉ c.queuedKeys

theorem pushCleanup_queuedKeys (x : CleanupCandidate) :
    (c.pushCleanup x).queuedKeys = c.queuedKeys ++ [x.1] := by
  obtain ⟨controls, heq⟩ := pushCleanup_eq c x
  rw [heq, queuedKeys, List.map_append]
  rfl

theorem pushCleanup_remoteHeld (x : CleanupCandidate) :
    (c.pushCleanup x).remoteHeld = c.remoteHeld := by
  obtain ⟨controls, heq⟩ := pushCleanup_eq c x
  rw [heq]

theorem Queueable.tail {c : DaemonCore} {x : CleanupCandidate} {rest : List CleanupCandidate}
    (h : Queueable c (x :: rest)) : Queueable (c.pushCleanup x) rest where
  held y hy := by
    rw [pushCleanup_remoteHeld]
    exact h.held y (List.mem_cons_of_mem _ hy)
  once := (List.nodup_cons.mp h.once).2
  fresh y hy hmem := by
    rw [pushCleanup_queuedKeys, List.mem_append, List.mem_singleton] at hmem
    rcases hmem with hmem | heq
    · exact h.fresh y (List.mem_cons_of_mem _ hy) hmem
    · exact (List.nodup_cons.mp h.once).1 (List.mem_map.mpr ⟨y, hy, heq⟩)

variable {affected : HeldFilter}

theorem mem_cleanupCandidates {c : DaemonCore} {key : HeldKey} {sequence : ℕ} :
    (key, sequence) ∈ c.cleanupCandidates affected ↔
      ∃ held, c.remoteHeld.get? key = some held ∧ affected held.route key.endpoint key.device = true
        ∧ key ∉ c.queuedKeys ∧ held.lastInputSequence = sequence := by
  simp only [cleanupCandidates, List.mem_filterMap, Prod.exists]
  constructor
  · rintro ⟨key', held, hmem, hif⟩
    split_ifs at hif with hcond
    obtain ⟨rfl, rfl⟩ := hif
    simp only [Bool.and_eq_true, Bool.not_eq_true', List.contains_eq_mem, decide_eq_false_iff_not]
      at hcond
    exact ⟨held, mem_entries.mp hmem, hcond.1, hcond.2, rfl⟩
  · rintro ⟨held, hget, haff, hnot, rfl⟩
    refine ⟨key, held, mem_entries.mpr hget, ?_⟩
    simpa [haff, queuedKeys] using hnot

theorem cleanupCandidates_queueable : Queueable c (c.cleanupCandidates affected) where
  held x hx := by
    obtain ⟨held, hget, -⟩ := mem_cleanupCandidates.mp hx
    rw [contains, hget]
    rfl
  once := by
    rw [cleanupCandidates, List.Nodup, List.pairwise_map, List.pairwise_filterMap]
    refine (List.pairwise_map.mp c.remoteHeld.nodup_keys).imp ?_
    rintro ⟨key, held⟩ ⟨key', held'⟩ hne x hx x' hx'
    simp only at hx hx'
    split_ifs at hx hx'
    cases hx
    cases hx'
    exact hne
  fresh x hx := (mem_cleanupCandidates.mp hx).choose_spec.2.2.1

/-- What every queued release keeps, a cleanup keeps, whether it fits or not. -/
theorem queueRemoteCleanup_induction {P : DaemonCore → Prop} {c : DaemonCore}
    (hpush : ∀ c x, c.remoteHeld.contains x.1 = true → x.1 ∉ c.queuedKeys → P c →
      P (c.pushCleanup x))
    (affected : HeldFilter) (h : P c) : P (c.queueRemoteCleanup affected).2 := by
  have hfold (candidates : List CleanupCandidate) (c : DaemonCore) (hq : Queueable c candidates)
      (h : P c) : P (candidates.foldl pushCleanup c) := by
    induction candidates generalizing c with
    | nil => exact h
    | cons x rest ih =>
      refine ih _ hq.tail (hpush c x ?_ ?_ h)
      · exact hq.held x List.mem_cons_self
      · exact hq.fresh x List.mem_cons_self
  unfold queueRemoteCleanup
  simp only
  split_ifs
  · exact h
  · split
    · exact h
    · exact hfold _ c (cleanupCandidates_queueable c) h

variable (affected : HeldFilter)

/-- Queueing releases changes the queue, the effect identifiers and latches. -/
theorem queueRemoteCleanup_eq : ∃ queue next controls, (c.queueRemoteCleanup affected).2
      = { c with cleanup := queue, nextEffectId := next, physicalControls := controls } := by
  refine queueRemoteCleanup_induction (P := fun c' => ∃ queue next controls,
    c' = { c with cleanup := queue, nextEffectId := next, physicalControls := controls })
    ?_ affected ⟨_, _, _, rfl⟩
  rintro _ x - - ⟨queue, next, controls, rfl⟩
  obtain ⟨controls', heq⟩ := pushCleanup_eq _ x
  exact ⟨_, _, controls', heq⟩

/-- The fields that other results ask about. -/
structure SameFields (c c' : DaemonCore) : Prop where
  workspace : c'.workspace = c.workspace
  availability : c'.endpointAvailability = c.endpointAvailability
  held : c'.remoteHeld = c.remoteHeld
  handoff : c'.handoffPending = c.handoffPending
  ready : c'.workspaceReady = c.workspaceReady
  inFlight : c'.cleanupInFlight = c.cleanupInFlight

theorem queueRemoteCleanup_fields : SameFields c (c.queueRemoteCleanup affected).2 := by
  obtain ⟨queue, next, controls, heq⟩ := queueRemoteCleanup_eq c affected
  rw [heq]
  exact ⟨rfl, rfl, rfl, rfl, rfl, rfl⟩

/-! ## Frames -/

/-- `c'` keeps the pending decision and the local host of `c` and differs from
    it by latch steps only, as far as captured events can tell. -/
structure Frame (c c' : DaemonCore) : Prop where
  pendingRemote : c'.pendingRemote = c.pendingRemote
  localHost : c'.workspace.localHost = c.workspace.localHost
  latch : ∀ d k, LatchStep (c.latch? d k) (c'.latch? d k)

theorem Frame.of_fields {c c' : DaemonCore} (hp : c'.pendingRemote = c.pendingRemote)
    (hl : c'.workspace.localHost = c.workspace.localHost)
    (hc : c'.physicalControls = c.physicalControls) : Frame c c' where
  pendingRemote := hp
  localHost := hl
  latch d k := by rw [latch?_congr hc]; exact .keep _

theorem Frame.refl : Frame c c := .of_fields rfl rfl rfl

theorem Frame.trans {a b c : DaemonCore} (h1 : Frame a b) (h2 : Frame b c) : Frame a c where
  pendingRemote := h2.pendingRemote.trans h1.pendingRemote
  localHost := h2.localHost.trans h1.localHost
  latch d k := (h1.latch d k).trans (h2.latch d k)

/-- `Frame.trans` with the last step first, so that it fixes the middle state. -/
theorem Frame.after {a b c : DaemonCore} (h2 : Frame b c) (h1 : Frame a b) : Frame a c :=
  h1.trans h2

theorem publish_frame (nowNs : ℕ) : Frame c (c.publish nowNs) :=
  .of_fields rfl rfl rfl

theorem quarantineKey_frame (key : HeldKey) : Frame c (c.quarantineKey key) := by
  unfold quarantineKey
  split
  · next e r hl =>
    split_ifs with he
    · refine ⟨rfl, rfl, fun d k => ?_⟩
      rw [latch?_setLatch]
      by_cases hdk : d = key.device ∧ k = key.control
      · obtain ⟨rfl, rfl⟩ := hdk
        rw [hl]
        simpa using LatchStep.quarantine e r
      · rw [if_neg hdk]; exact .keep _
    · exact .refl c
  · exact .refl c

theorem pushCleanup_frame (candidate : CleanupCandidate) : Frame c (c.pushCleanup candidate) := by
  refine Frame.trans ?_ (quarantineKey_frame _ _)
  exact .of_fields rfl rfl rfl

theorem queueRemoteCleanup_frame : Frame c (c.queueRemoteCleanup affected).2 :=
  queueRemoteCleanup_induction (P := Frame c) (fun _ x _ _ h => h.trans (pushCleanup_frame _ x))
    affected (.refl c)

theorem failClosed_frame (nowNs : ℕ) : Frame c (c.failClosed nowNs).2 := by
  refine (Frame.trans ?_ (queueRemoteCleanup_frame c.closeGate allHeld)).trans
    (publish_frame _ nowNs)
  exact .of_fields rfl rfl rfl

theorem activateFailsafe_frame (nowNs : ℕ) : Frame c (c.activateFailsafe nowNs).2 := by
  have hs : Frame c (c.suspendRouting nowNs) := .of_fields rfl rfl rfl
  have hq := hs.trans (queueRemoteCleanup_frame _ allHeld)
  unfold activateFailsafe
  refine Frame.trans ?_ (publish_frame _ nowNs)
  split_ifs
  · exact hq
  · exact hq.trans (.of_fields rfl rfl rfl)

theorem mapLatches_frame {c : DaemonCore} {f : DeviceId → LatchedDestination → LatchedDestination}
    (h : ∀ d l, LatchStep (some l) (some (f d l))) : Frame c (c.mapLatches f) where
  pendingRemote := rfl
  localHost := rfl
  latch d k := by
    rw [latch?_mapLatches]
    cases c.latch? d k with
    | none => exact .keep _
    | some l => exact h d l

end DaemonCore

end SoftwareKvm
