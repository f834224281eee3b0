import SoftwareKvm.Core.Edit

/-!
# The ledger of remotely held controls

`remote_held`, the cleanup queue and the latches of `physical_controls` tell one
story. `Ledger` is the part that every single assignment keeps: a remote latch
is in the ledger and not queued for release, a queued release is in the ledger
and queued once, and the counters of physical controls are exact. `Accounted`
says what is true between operations while routing is ready: everything in the
ledger is still latched remotely or queued for release.

Results:
* `queueRemoteCleanup_ledgerOp`: queueing releases keeps both.
* `failClosed_ledgerOp`: so does closing the gate.
* `CoreOp.ledgerOp`: so do the administrative operations that neither make
  routing ready nor take a key off the ledger.
-/

namespace SoftwareKvm

open Lib

namespace DaemonCore

open OrdMap

variable (c : DaemonCore)

/-- The controls of `physical_controls`. -/
def physical : Finset (DeviceId × PhysicalControl) :=
  c.physicalControls.itemSet keys

/-- The counter of `physical_controls` is exact, and its bounds hold. -/
structure PhysicalBounds (c : DaemonCore) : Prop where
  devices : c.physicalControls.size ≤ maxPhysicalHeldDevices
  perDevice : ∀ d m, c.physicalControls.get? d = some m → m.size ≤ maxPhysicalHeldPerDevice
  counted : c.physical.card = c.physicalControlCount
  total : c.physicalControlCount ≤ maxPhysicalHeldTotal

/-- The ledger, the queue and the latches agree. -/
structure Ledger (c : DaemonCore) : Prop where
  bounds : c.PhysicalBounds
  latched : ∀ {d k e r}, c.latch? d k = some (.remote e r) →
    c.remoteHeld.contains ⟨e, d, k⟩ = true ∧ ⟨e, d, k⟩ ∉ c.queuedKeys
  queuedHeld : ∀ key ∈ c.queuedKeys, c.remoteHeld.contains key = true
  queuedOnce : c.queuedKeys.Nodup
  releases : ∀ entry ∈ c.cleanup, entry.release.payload = entry.control.releasePayload

/-- While routing is ready, every held key outside `x` is latched remotely or
    queued for release. -/
def AccountedBut (x : Set HeldKey) (c : DaemonCore) : Prop :=
  c.workspaceReady = true → ∀ key, c.remoteHeld.contains key = true → key ∉ x →
    (∃ r, c.latch? key.device key.control = some (.remote key.endpoint r)) ∨ key ∈ c.queuedKeys

/-- While routing is ready and the failsafe drains, nothing is latched remotely. -/
def Drained : Prop :=
  c.workspaceReady = true → c.drainFailsafeKeys = true →
    ∀ d k e r, c.latch? d k ≠ some (.remote e r)

/-- Everything held is accounted for. -/
structure Accounted (c : DaemonCore) : Prop where
  held : AccountedBut ∅ c
  drained : Drained c

/-- A step that keeps the ledger, its keys and the identity of the core. -/
structure LedgerOp (c c' : DaemonCore) : Prop where
  ledger : c.Ledger → c'.Ledger
  accounted : ∀ x, c.Ledger → AccountedBut x c → AccountedBut x c'
  drained : c.Ledger → c.Drained → c'.Drained
  held : ∀ key, c'.remoteHeld.contains key = c.remoteHeld.contains key
  pendingRemote : c'.pendingRemote = c.pendingRemote
  pendingRoutePolicy : c'.pendingRoutePolicy = c.pendingRoutePolicy
  localHost : c'.workspace.localHost = c.workspace.localHost

namespace LedgerOp

theorem refl (c : DaemonCore) : LedgerOp c c :=
  ⟨id, fun _ _ h => h, fun _ h => h, fun _ => rfl, rfl, rfl, rfl⟩

theorem trans {a b c : DaemonCore} (h : LedgerOp a b) (h' : LedgerOp b c) : LedgerOp a c where
  ledger hl := h'.ledger (h.ledger hl)
  accounted x hl ha := h'.accounted x (h.ledger hl) (h.accounted x hl ha)
  drained hl hd := h'.drained (h.ledger hl) (h.drained hl hd)
  held key := (h'.held key).trans (h.held key)
  pendingRemote := h'.pendingRemote.trans h.pendingRemote
  pendingRoutePolicy := h'.pendingRoutePolicy.trans h.pendingRoutePolicy
  localHost := h'.localHost.trans h.localHost

theorem accountedFor {c c' : DaemonCore} (h : LedgerOp c c') (hl : c.Ledger)
    (ha : c.Accounted) : c'.Accounted :=
  ⟨h.accounted ∅ hl ha.held, h.drained hl ha.drained⟩

end LedgerOp

variable {c' : DaemonCore} {k : PhysicalControl}

section

variable {c}

theorem PhysicalBounds.of_eq (h : c.PhysicalBounds) (hp : c'.physicalControls = c.physicalControls)
    (hn : c'.physicalControlCount = c.physicalControlCount) : c'.PhysicalBounds := by
  refine ⟨?_, ?_, ?_, ?_⟩
  · rw [hp]; exact h.devices
  · rw [hp]; exact h.perDevice
  · rw [physical, hp, hn]; exact h.counted
  · rw [hn]; exact h.total

theorem Ledger.congr (h : c.Ledger) (hp : c'.physicalControls = c.physicalControls)
    (hn : c'.physicalControlCount = c.physicalControlCount) (hr : c'.remoteHeld = c.remoteHeld)
    (hc : c'.cleanup = c.cleanup) : c'.Ledger where
  bounds := h.bounds.of_eq hp hn
  latched hl := by
    rw [latch?_congr hp] at hl
    rw [hr, queuedKeys, hc]
    exact h.latched hl
  queuedHeld := by rw [queuedKeys, hc, hr]; exact h.queuedHeld
  queuedOnce := by rw [queuedKeys, hc]; exact h.queuedOnce
  releases := by rw [hc]; exact h.releases

/-- Latches may change or go, but no control becomes remote. -/
theorem Ledger.of_latches (h : c.Ledger) (hbounds : c'.PhysicalBounds)
    (hlatch : ∀ {d k e r}, c'.latch? d k = some (.remote e r) →
      ∃ r', c.latch? d k = some (.remote e r'))
    (hr : ∀ key, c'.remoteHeld.contains key = c.remoteHeld.contains key)
    (hc : c'.cleanup = c.cleanup) : c'.Ledger where
  bounds := hbounds
  latched hl := by
    obtain ⟨r', hold⟩ := hlatch hl
    rw [hr, queuedKeys, hc]
    exact h.latched hold
  queuedHeld := by
    simp only [hr, queuedKeys, hc]
    exact h.queuedHeld
  queuedOnce := by rw [queuedKeys, hc]; exact h.queuedOnce
  releases := by rw [hc]; exact h.releases

/-- The head of the queue leaves the queue and the ledger. -/
theorem Ledger.dropHead {c : DaemonCore} {entry : CleanupEntry} {rest : List CleanupEntry}
    (h : c.Ledger) (hqueue : c.cleanup = entry :: rest) :
    Ledger { c with
      cleanup := rest, cleanupInFlight := none
      remoteHeld := c.remoteHeld.erase entry.heldKey } := by
  have hkeys : c.queuedKeys = entry.heldKey :: rest.map CleanupEntry.heldKey := by
    rw [queuedKeys, hqueue, List.map_cons]
  have honce := h.queuedOnce
  rw [hkeys, List.nodup_cons] at honce
  refine ⟨h.bounds.of_eq rfl rfl, fun {d k e r} hl => ?_, fun key hkey => ?_, honce.2,
    fun e he => ?_⟩
  · obtain ⟨hheld, hnot⟩ := h.latched hl
    rw [hkeys, List.mem_cons, not_or] at hnot
    exact ⟨contains_erase.mpr ⟨hnot.1, hheld⟩, hnot.2⟩
  · refine contains_erase.mpr ⟨?_, h.queuedHeld key ?_⟩
    · rintro rfl
      exact honce.1 hkey
    · rw [hkeys]
      exact List.mem_cons_of_mem _ hkey
  · refine h.releases e ?_
    rw [hqueue]
    exact List.mem_cons_of_mem _ he

/-- Assignments to other fields, or to `workspace_ready` and `drain_failsafe_keys` downwards. -/
theorem LedgerOp.of_fields (hp : c'.physicalControls = c.physicalControls)
    (hn : c'.physicalControlCount = c.physicalControlCount) (hr : c'.remoteHeld = c.remoteHeld)
    (hc : c'.cleanup = c.cleanup) (hready : c'.workspaceReady = true → c.workspaceReady = true)
    (hdrain : c'.drainFailsafeKeys = true → c.drainFailsafeKeys = true)
    (hpending : c'.pendingRemote = c.pendingRemote)
    (hpolicy : c'.pendingRoutePolicy = c.pendingRoutePolicy)
    (hlocal : c'.workspace.localHost = c.workspace.localHost) : LedgerOp c c' where
  ledger h := h.congr hp hn hr hc
  accounted x _ ha hready' key hkey hx := by
    rw [hr] at hkey
    rw [latch?_congr hp, queuedKeys, hc]
    exact ha (hready hready') key hkey hx
  drained _ hd hready' hdrain' d k e r := by
    rw [latch?_congr hp]
    exact hd (hready hready') (hdrain hdrain') d k e r
  held key := by rw [hr]
  pendingRemote := hpending
  pendingRoutePolicy := hpolicy
  localHost := hlocal

end

theorem publish_ledgerOp (nowNs : ℕ) : LedgerOp c (c.publish nowNs) :=
  .of_fields rfl rfl rfl rfl id id rfl rfl rfl

theorem activateLocal_ledgerOp : LedgerOp c c.activateLocal :=
  .of_fields rfl rfl rfl rfl id id rfl rfl rfl

theorem unready_ledgerOp : LedgerOp c c.unready :=
  .of_fields rfl rfl rfl rfl (fun h => by cases h) id rfl rfl rfl

theorem closeGate_ledgerOp : LedgerOp c c.closeGate :=
  .of_fields rfl rfl rfl rfl (fun h => by cases h) id rfl rfl rfl

section

variable {c}

/-- When routing is not ready, nothing has to be accounted for. -/
theorem Accounted.of_unready (h : c.workspaceReady = false) : c.Accounted :=
  ⟨fun hr => absurd (h.symm.trans hr) Bool.false_ne_true,
    fun hr => absurd (h.symm.trans hr) Bool.false_ne_true⟩

/-! ## Latches -/

theorem mem_physical {d : DeviceId} : (d, k) ∈ c.physical ↔ (c.latch? d k).isSome = true := by
  rw [physical, mem_itemSet, latch?]
  cases c.physicalControls.get? d with
  | none => simp
  | some controls => simp [mem_keys_iff_contains, contains]

theorem PhysicalBounds.congr (h : c.PhysicalBounds)
    (hsize : c'.physicalControls.size = c.physicalControls.size)
    (hper : ∀ d m, c'.physicalControls.get? d = some m →
      ∃ m', c.physicalControls.get? d = some m' ∧ m.size = m'.size)
    (hlatch : ∀ d k, (c'.latch? d k).isSome = (c.latch? d k).isSome)
    (hn : c'.physicalControlCount = c.physicalControlCount) : c'.PhysicalBounds where
  devices := hsize ▸ h.devices
  perDevice d m hget := by
    obtain ⟨m', hget', hm⟩ := hper d m hget
    rw [hm]
    exact h.perDevice d m' hget'
  counted := by
    have : c'.physical = c.physical := by
      ext ⟨d, k⟩
      rw [mem_physical, mem_physical, hlatch]
    rw [this, hn]
    exact h.counted
  total := hn ▸ h.total

theorem setLatch_bounds (h : c.PhysicalBounds) (d : DeviceId) (k : PhysicalControl)
    (l : LatchedDestination) : (c.setLatch d k l).PhysicalBounds := by
  refine h.congr ?_ ?_ ?_ rfl
  · exact size_modify _ _ _
  · intro d' m hget
    simp only [setLatch, get?_modify] at hget
    split_ifs at hget
    · obtain ⟨m', hget', rfl⟩ := Option.map_eq_some_iff.mp hget
      exact ⟨m', hget', size_modify _ _ _⟩
    · exact ⟨m, hget, rfl⟩
  · intro d' k'
    rw [latch?_setLatch]
    split_ifs
    · exact Option.isSome_map
    · rfl

/-- What `ensure_physical_capacity` checks is what a new latch needs. -/
theorem insertLatch_bounds {u : Unit} {d : DeviceId} (h : c.PhysicalBounds)
    (hcap : c.ensurePhysicalCapacity d = (.ok u, c')) (hl : c.latch? d k = none) :
    (c.insertLatch d k).PhysicalBounds := by
  unfold ensurePhysicalCapacity at hcap
  simp only at hcap
  split at hcap
  · cases (Prod.mk.inj hcap).1
  · next hroom =>
    simp only [Bool.or_eq_true, Bool.and_eq_true, decide_eq_true_eq, not_or, not_and, not_le]
      at hroom
    obtain ⟨⟨hdevices, hper⟩, htotal⟩ := hroom
    refine ⟨?_, ?_, ?_, htotal⟩
    · show (c.physicalControls.insert d _).size ≤ _
      rw [size_insert]
      split_ifs with hc
      · exact h.devices
      · exact hdevices (by simpa [contains] using hc)
    · refine forall_insert _ h.perDevice ((size_insert_le _ _ _).trans ?_)
      cases hd : c.physicalControls.get? d with
      | none => exact Nat.le_of_ble_eq_true rfl
      | some m => simpa [hd, Nat.succ_le_iff] using hper
    · have hset : (c.insertLatch d k).physical = insert (d, k) c.physical := by
        ext ⟨d', k'⟩
        rw [Finset.mem_insert, mem_physical, mem_physical, latch?_insertLatch, Prod.mk.injEq]
        by_cases hdk : d' = d ∧ k' = k <;> simp [hdk]
      rw [hset, Finset.card_insert_of_notMem, h.counted]
      · rfl
      · rw [mem_physical, hl]
        exact Bool.false_ne_true

theorem removeLatch_bounds (h : c.PhysicalBounds) (d : DeviceId) (k : PhysicalControl) :
    (c.removeLatch d k).PhysicalBounds := by
  have hset : (c.removeLatch d k).physical = c.physical.erase (d, k) := by
    ext ⟨d', k'⟩
    rw [Finset.mem_erase, mem_physical, mem_physical, latch?_removeLatch, Ne, Prod.mk.injEq]
    by_cases hdk : d' = d ∧ k' = k <;> simp [hdk]
  have hlatch : (c.latch? d k).isSome = true → (c.removeLatch d k).physical.card
      = c.physicalControlCount - 1 := by
    intro hl
    rw [hset, Finset.card_erase_of_mem (mem_physical.mpr hl), h.counted]
  unfold removeLatch at hlatch ⊢
  cases hget : c.physicalControls.get? d with
  | none => exact h
  | some controls =>
    simp only [hget] at hlatch ⊢
    split_ifs at hlatch ⊢ with hk hempty
    all_goals try exact h
    all_goals
      have hcount := hlatch (by simpa [latch?, hget, contains] using hk)
      refine ⟨?_, ?_, hcount, (Nat.sub_le _ _).trans h.total⟩
    · exact (size_filter_le _ _).trans h.devices
    · exact forall_erase _ h.perDevice d
    · show (c.physicalControls.insert d _).size ≤ _
      rw [size_insert, contains, hget]
      exact h.devices
    · exact forall_insert _ h.perDevice ((size_filter_le _ _).trans (h.perDevice d controls hget))

/-- Quarantining a key takes away exactly its own remote latch. -/
theorem latch?_quarantineKey {key : HeldKey} {d : DeviceId} {e : SessionEndpoint}
    {r : DeviceRoute} :
    (c.quarantineKey key).latch? d k = some (.remote e r) ↔
      c.latch? d k = some (.remote e r) ∧ (⟨e, d, k⟩ : HeldKey) ≠ key := by
  unfold quarantineKey
  split
  · next held route hl =>
    split_ifs with he
    · rw [latch?_setLatch]
      by_cases hdk : d = key.device ∧ k = key.control
      · obtain ⟨rfl, rfl⟩ := hdk
        rw [if_pos ⟨rfl, rfl⟩, hl]
        simp only [Option.map_some, Option.some.injEq, reduceCtorEq,
          LatchedDestination.remote.injEq, false_iff, not_and, not_not, and_imp]
        rintro rfl _
        rw [he]
      · rw [if_neg hdk]
        refine ⟨fun h => ⟨h, fun heq => hdk ?_⟩, And.left⟩
        rw [← heq]
        exact ⟨rfl, rfl⟩
    · refine ⟨fun h => ⟨h, fun heq => he ?_⟩, And.left⟩
      rw [← heq] at hl ⊢
      rw [h] at hl
      cases hl
      rfl
  · next hno =>
    refine ⟨fun h => ⟨h, fun heq => ?_⟩, And.left⟩
    rw [← heq] at hno
    exact hno e r h

/-! ## Queueing releases -/

theorem pushCleanup_bounds (h : c.PhysicalBounds) (x : CleanupCandidate) :
    (c.pushCleanup x).PhysicalBounds := by
  have hpushed (c' : DaemonCore) (hp : c'.physicalControls = c.physicalControls)
      (hn : c'.physicalControlCount = c.physicalControlCount) :
        (c'.quarantineKey x.1).PhysicalBounds := by
    unfold quarantineKey
    split
    · split_ifs
      · exact setLatch_bounds (h.of_eq hp hn) _ _ _
      · exact h.of_eq hp hn
    · exact h.of_eq hp hn
  exact hpushed _ rfl rfl

theorem latch?_pushCleanup {x : CleanupCandidate} {d : DeviceId} {e : SessionEndpoint}
    {r : DeviceRoute} :
    (c.pushCleanup x).latch? d k = some (.remote e r) ↔
      c.latch? d k = some (.remote e r) ∧ (⟨e, d, k⟩ : HeldKey) ≠ x.1 :=
  latch?_quarantineKey

theorem pushCleanup_ledger {x : CleanupCandidate} (h : c.Ledger)
    (hheld : c.remoteHeld.contains x.1 = true) (hfresh : x.1 ∉ c.queuedKeys) :
    (c.pushCleanup x).Ledger := by
  obtain ⟨controls, heq⟩ := pushCleanup_eq c x
  refine ⟨pushCleanup_bounds h.bounds x, ?_, ?_, ?_, ?_⟩
  · intro d k e r hl
    obtain ⟨hold, hne⟩ := latch?_pushCleanup.mp hl
    rw [pushCleanup_remoteHeld, pushCleanup_queuedKeys, List.mem_append, List.mem_singleton]
    exact ⟨(h.latched hold).1, fun hmem => hmem.elim (h.latched hold).2 hne⟩
  · intro key hmem
    rw [pushCleanup_queuedKeys, List.mem_append, List.mem_singleton] at hmem
    rw [pushCleanup_remoteHeld]
    rcases hmem with hmem | rfl
    · exact h.queuedHeld key hmem
    · exact hheld
  · rw [pushCleanup_queuedKeys, List.nodup_append]
    refine ⟨h.queuedOnce, List.nodup_singleton _, ?_⟩
    rintro a ha b hb rfl
    exact hfresh (List.mem_singleton.mp hb ▸ ha)
  · intro entry hmem
    rw [heq, List.mem_append, List.mem_singleton] at hmem
    rcases hmem with hmem | rfl
    · exact h.releases entry hmem
    · rfl

theorem pushCleanup_ledgerOp {x : CleanupCandidate} (hheld : c.remoteHeld.contains x.1 = true)
    (hfresh : x.1 ∉ c.queuedKeys) : LedgerOp c (c.pushCleanup x) where
  ledger h := pushCleanup_ledger h hheld hfresh
  accounted s h ha hready key hkey hs := by
    obtain ⟨controls, heq⟩ := pushCleanup_eq c x
    rw [heq] at hready
    rw [pushCleanup_remoteHeld] at hkey
    rw [pushCleanup_queuedKeys, List.mem_append, List.mem_singleton]
    by_cases hx : key = x.1
    · exact Or.inr (Or.inr hx)
    · rcases ha hready key hkey hs with ⟨r, hl⟩ | hq
      · exact Or.inl ⟨r, latch?_pushCleanup.mpr ⟨hl, hx⟩⟩
      · exact Or.inr (Or.inl hq)
  drained h hd hready hdrain d k e r hl := by
    obtain ⟨controls, heq⟩ := pushCleanup_eq c x
    rw [heq] at hready hdrain
    exact hd hready hdrain d k e r (latch?_pushCleanup.mp hl).1
  held key := by rw [pushCleanup_remoteHeld]
  pendingRemote := (pushCleanup_frame c x).pendingRemote
  pendingRoutePolicy := by
    obtain ⟨controls, heq⟩ := pushCleanup_eq c x
    rw [heq]
  localHost := (pushCleanup_frame c x).localHost

end

theorem foldl_pushCleanup_queuedKeys (candidates : List CleanupCandidate) (c : DaemonCore) :
    (candidates.foldl pushCleanup c).queuedKeys = c.queuedKeys ++ candidates.map Prod.fst := by
  induction candidates generalizing c with
  | nil => simp
  | cons x rest ih => simp [ih, pushCleanup_queuedKeys]

variable {affected : HeldFilter}

theorem queueRemoteCleanup_ledgerOp (affected : HeldFilter) :
    LedgerOp c (c.queueRemoteCleanup affected).2 :=
  queueRemoteCleanup_induction (P := LedgerOp c)
    (fun _ _ hheld hfresh h => h.trans (pushCleanup_ledgerOp hheld hfresh)) affected (.refl c)

section

variable {c}

/-- A cleanup that fits the queue leaves every affected key queued. -/
theorem queueRemoteCleanup_queued {u : Unit} {key : HeldKey} {held : RemoteHeldState}
    (h : c.queueRemoteCleanup affected = (.ok u, c')) (hget : c.remoteHeld.get? key = some held)
    (haffected : affected held.route key.endpoint key.device = true) : key ∈ c'.queuedKeys := by
  unfold queueRemoteCleanup at h
  simp only at h
  split at h
  · cases (Prod.mk.inj h).1
  · split at h
    · cases (Prod.mk.inj h).1
    · cases h
      rw [foldl_pushCleanup_queuedKeys, List.mem_append]
      by_cases hq : key ∈ c.queuedKeys
      · exact Or.inl hq
      · exact Or.inr (List.mem_map.mpr ⟨(key, held.lastInputSequence),
          mem_cleanupCandidates.mpr ⟨held, hget, haffected, hq, rfl⟩, rfl⟩)

theorem queueRemoteCleanup_allHeld_queued {u : Unit} {key : HeldKey}
    (h : c.queueRemoteCleanup allHeld = (.ok u, c')) (hkey : c.remoteHeld.contains key = true) :
    key ∈ c'.queuedKeys := by
  obtain ⟨held, hget⟩ := Option.isSome_iff_exists.mp hkey
  exact queueRemoteCleanup_queued h hget rfl

/-! ## Closing the gate -/

end

theorem failClosed_ledgerOp (nowNs : ℕ) : LedgerOp c (c.failClosed nowNs).2 :=
  ((closeGate_ledgerOp c).trans (queueRemoteCleanup_ledgerOp _ allHeld)).trans
    (publish_ledgerOp _ _)

theorem failClosed_unready (nowNs : ℕ) : (c.failClosed nowNs).2.workspaceReady = false :=
  (queueRemoteCleanup_fields c.closeGate allHeld).ready

/-! ## Restoring a device -/

/-- The core with a device forgotten, as `restore_local_device` leaves it. -/
theorem latch?_forgetDevice {c : DaemonCore} {device : DeviceId}
    (h : c'.physicalControls = c.physicalControls.erase device) (d : DeviceId)
    (k : PhysicalControl) : c'.latch? d k = if d = device then none else c.latch? d k := by
  rw [latch?, h, get?_erase]
  split_ifs with hd
  · rfl
  · rfl

theorem forgetDevice_bounds {c : DaemonCore} {device : DeviceId} (h : c.PhysicalBounds)
    (hp : c'.physicalControls = c.physicalControls.erase device) (hn : c'.physicalControlCount
      = c.physicalControlCount - ((c.physicalControls.get? device).map size).getD 0) :
    c'.PhysicalBounds where
  devices := by
    rw [hp]
    exact (size_filter_le _ _).trans h.devices
  perDevice d m hget := by
    rw [hp, get?_erase] at hget
    split_ifs at hget
    exact h.perDevice d m hget
  counted := by
    have hkept : c'.physical = c.physical.filter (¬ ·.1 = device) := by
      ext ⟨d, k⟩
      rw [Finset.mem_filter, mem_physical, mem_physical, latch?_forgetDevice hp]
      by_cases hd : d = device <;> simp [hd]
    have hgone := c.physicalControls.card_itemSet_at (f := keys)
      (fun m => m.nodup_keys) device
    have hsum := Finset.card_filter_add_card_filter_not (s := c.physical) (·.1 = device)
    simp only [length_keys] at hgone
    rw [← hkept, physical, hgone] at hsum
    have hcard : _ = c.physical.card := hsum
    rw [hn, ← h.counted, ← hcard, Nat.add_sub_cancel_left]
  total := by
    rw [hn]
    exact (Nat.sub_le _ _).trans h.total

end DaemonCore

/-! ## Administrative operations -/

/-- The operations that keep every account: those that do not make routing ready, activate the
    failsafe, change the route policy or take a key off the ledger. -/
def CoreOp.keepsAccounts : CoreOp → Bool
  | .markWorkspaceRoutingReady _ | .triggerEmergency _ | .confirmTransportInvalidated _ _
  | .confirmCleanupRelease _ _ => false
  | op => !op.changesPolicy

open DaemonCore

theorem CoreOp.Edit.ledgerOp {op : CoreOp} {c c' : DaemonCore} (he : op.Edit c c')
    (hop : op.keepsAccounts = true) : LedgerOp c c' := by
  cases he with
  | flags workspace lifecycle peers gated ready handoff hlocal hready =>
    refine .of_fields rfl rfl rfl rfl (fun h => (hready h).resolve_right ?_) id rfl rfl hlocal
    rintro ⟨now, rfl⟩
    cases hop
  | queue affected => exact queueRemoteCleanup_ledgerOp c affected
  | forget device now _ hfree =>
    constructor
    case ledger =>
      intro h
      refine ⟨forgetDevice_bounds h.bounds rfl rfl, fun hl => ?_, h.queuedHeld, h.queuedOnce,
        h.releases⟩
      rw [latch?_forgetDevice rfl] at hl
      split_ifs at hl
      exact h.latched hl
    case accounted =>
      -- nothing of this device is in the ledger, so its latches are not remote
      intro x _ ha hready key hkey hx
      rw [latch?_forgetDevice rfl, if_neg (hfree key hkey)]
      exact ha hready key hkey hx
    case drained =>
      intro _ hd hready hdrain d k e r
      rw [latch?_forgetDevice rfl]
      split_ifs
      · exact Option.some_ne_none _ ∘ Eq.symm
      · exact hd hready hdrain d k e r
    all_goals first | rfl | exact fun _ => rfl
  | confirm _ _ _ _ _ hop' | invalidate _ _ hop' | configure _ _ _ hop' | suspend _ hop' =>
    rw [hop'] at hop
    cases hop
  | stage _ hpolicy | abort hpolicy | commit _ hpolicy =>
    cases op <;> simp [CoreOp.keepsAccounts, hpolicy] at hop
  | drain => exact .of_fields rfl rfl rfl rfl id (fun h => nomatch h) rfl rfl rfl
  | _ => exact .of_fields rfl rfl rfl rfl id id rfl rfl rfl

theorem CoreOp.ledgerOp (op : CoreOp) (hop : op.keepsAccounts = true) (c : DaemonCore) :
    LedgerOp c (op.apply c) :=
  (op.edits c).invariant (P := LedgerOp c) (fun _ _ he h => h.trans (he.ledgerOp hop)) (.refl c)

end SoftwareKvm
