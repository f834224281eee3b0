import SoftwareKvm.Core.Settled

/-!
# The cleanup queue over whole runs

A remote latch, the ledger `remote_held` and the queue of cleanup releases are
written by different operations. `Tidy` says how they agree between any two
calls, and that queue identifiers increase and the release in flight is the
front one.

Results:
* `CoreOp.tidy`: every administrative operation keeps `Tidy`.
* `cleanup_tidy`: in a run that settles each remote decision at once and
  confirms no press whose release is still queued, `Tidy` holds throughout, no
  confirmation is stale or over capacity, and neither is a cleanup.
* `cleanup_untidy`: without the second condition a control is latched remotely
  while its old release is queued, and its next repeat is reported stale.

**Deviation.** While a route policy is staged, routing stays active with a
non-empty queue (`routing_should_be_active`), so a control can be pressed again
before its old release is sent.
-/

namespace SoftwareKvm

open Lib

namespace DaemonCore

variable {c c' : DaemonCore} {nowNs : ℕ}

/-- Latches, ledger and queue agree; queue identifiers increase below the next
    effect identifier; the release in flight is the front of the queue. -/
structure Tidy (c : DaemonCore) : Prop where
  ledger : c.Ledger
  increasing : c.cleanup.Pairwise (·.id < ·.id)
  issued : ∀ entry ∈ c.cleanup, entry.id < c.nextEffectId
  inFlight : ∀ id, c.cleanupInFlight = some id → c.cleanup.head?.map CleanupEntry.id = some id
  room : c.remoteHeld.size ≤ maxRemoteHeldTotal

section

variable (h : c.Tidy)

include h

theorem Tidy.of_ledger (hl : c'.Ledger) (hqueue : c'.cleanup = c.cleanup)
    (hnext : c.nextEffectId ≤ c'.nextEffectId) (hflight : c'.cleanupInFlight = c.cleanupInFlight)
    (hroom : c'.remoteHeld.size ≤ maxRemoteHeldTotal) : c'.Tidy where
  ledger := hl
  increasing := by rw [hqueue]; exact h.increasing
  issued entry he := (h.issued entry (hqueue ▸ he)).trans_le hnext
  inFlight := by rw [hqueue, hflight]; exact h.inFlight
  room := hroom

/-- Assignments to other fields. -/
theorem Tidy.of_fields (hp : c'.physicalControls = c.physicalControls)
    (hn : c'.physicalControlCount = c.physicalControlCount)
    (hr : c'.remoteHeld = c.remoteHeld) (hc : c'.cleanup = c.cleanup)
    (hnext : c.nextEffectId ≤ c'.nextEffectId)
    (hflight : c'.cleanupInFlight = c.cleanupInFlight) : c'.Tidy :=
  h.of_ledger (h.ledger.congr hp hn hr hc) hc hnext hflight (hr ▸ h.room)

theorem Tidy.published (nowNs : ℕ) : (c.publish nowNs).Tidy :=
  h.of_fields rfl rfl rfl rfl le_rfl rfl

/-! ## Queueing releases -/

theorem pushCleanup_tidy {x : CleanupCandidate}
    (hheld : c.remoteHeld.contains x.1 = true) (hfresh : x.1 ∉ c.queuedKeys) :
    (c.pushCleanup x).Tidy := by
  have hledger := pushCleanup_ledger h.ledger hheld hfresh
  obtain ⟨controls, heq⟩ := pushCleanup_eq c x
  rw [heq] at hledger ⊢
  refine ⟨hledger, ?_, ?_, ?_, h.room⟩
  · refine List.pairwise_append.mpr ⟨h.increasing, List.pairwise_singleton _ _, ?_⟩
    intro entry hentry new hnew
    rw [List.mem_singleton.mp hnew]
    exact h.issued entry hentry
  · intro entry hentry
    rcases List.mem_append.mp hentry with hold | hnew
    · exact Nat.lt_succ_of_lt (h.issued entry hold)
    · rw [List.mem_singleton.mp hnew]
      exact Nat.lt_succ_self _
  · intro id hid
    have hhead := h.inFlight id hid
    cases hqueue : c.cleanup with
    | nil =>
      rw [hqueue] at hhead
      cases hhead
    | cons entry rest =>
      rw [hqueue] at hhead
      exact hhead

theorem queueRemoteCleanup_tidy (affected : HeldFilter) : (c.queueRemoteCleanup affected).2.Tidy :=
  queueRemoteCleanup_induction (fun _ _ hheld hfresh h => pushCleanup_tidy h hheld hfresh)
    affected h

/-- The queue and the candidates are different keys of the ledger. -/
theorem Tidy.fits (affected : HeldFilter) :
    c.cleanup.length + (c.cleanupCandidates affected).length ≤ c.remoteHeld.size := by
  have hqueueable : Queueable c (c.cleanupCandidates affected) := cleanupCandidates_queueable c
  have honce : (c.queuedKeys ++ (c.cleanupCandidates affected).map Prod.fst).Nodup := by
    refine List.nodup_append.mpr ⟨h.ledger.queuedOnce, hqueueable.once, ?_⟩
    rintro key hqueued key' hcandidate rfl
    obtain ⟨x, hx, rfl⟩ := List.mem_map.mp hcandidate
    exact hqueueable.fresh x hx hqueued
  have hheld : c.queuedKeys ++ (c.cleanupCandidates affected).map Prod.fst ⊆ c.remoteHeld.keys := by
    intro key hkey
    rw [OrdMap.mem_keys_iff_contains]
    rcases List.mem_append.mp hkey with hqueued | hcandidate
    · exact h.ledger.queuedHeld key hqueued
    · obtain ⟨x, hx, rfl⟩ := List.mem_map.mp hcandidate
      exact hqueueable.held x hx
  have hle := (List.subperm_of_subset honce hheld).length_le
  rwa [List.length_append, List.length_map, queuedKeys, List.length_map, OrdMap.length_keys] at hle

theorem failClosed_tidy (nowNs : ℕ) : (c.failClosed nowNs).2.Tidy := by
  have hclosed : c.closeGate.Tidy := h.of_fields rfl rfl rfl rfl le_rfl rfl
  exact (queueRemoteCleanup_tidy hclosed allHeld).of_fields rfl rfl rfl rfl le_rfl rfl

theorem activateFailsafe_tidy (nowNs : ℕ) : (c.activateFailsafe nowNs).2.Tidy := by
  have hsuspended : (c.suspendRouting nowNs).Tidy := h.of_fields rfl rfl rfl rfl le_rfl rfl
  have hq := queueRemoteCleanup_tidy hsuspended allHeld
  unfold activateFailsafe
  generalize (c.suspendRouting nowNs).queueRemoteCleanup allHeld = r at hq ⊢
  obtain ⟨_ | _, c'⟩ := r <;> exact hq.of_fields rfl rfl rfl rfl le_rfl rfl

end

/-! ## Administrative operations -/

theorem mapLatches_bounds (h : c.PhysicalBounds)
    (f : DeviceId → LatchedDestination → LatchedDestination) : (c.mapLatches f).PhysicalBounds := by
  refine h.congr (OrdMap.size_mapVals _ _) (fun d m hget => ?_) (fun d k => ?_) rfl
  · obtain ⟨m', hget', rfl⟩ := Option.map_eq_some_iff.mp ((OrdMap.get?_mapVals ..).symm.trans hget)
    exact ⟨m', hget', OrdMap.size_mapVals _ _⟩
  · rw [latch?_mapLatches, Option.isSome_map]

theorem Tidy.dropHead {entry : CleanupEntry} {rest : List CleanupEntry} (h : c.Tidy)
    (hqueue : c.cleanup = entry :: rest) :
    Tidy { c with
      cleanup := rest, cleanupInFlight := none
      remoteHeld := c.remoteHeld.erase entry.heldKey } where
  ledger := h.ledger.dropHead hqueue
  increasing := (List.pairwise_cons.mp (hqueue ▸ h.increasing)).2
  issued e he := h.issued e (hqueue ▸ List.mem_cons_of_mem _ he)
  inFlight _ hid := (nomatch hid)
  room := (OrdMap.size_filter_le _ _).trans h.room

/-- A lost transport takes its keys off the latches, the ledger and the queue. -/
theorem Tidy.invalidate (h : c.Tidy) (endpoint : SessionEndpoint) :
    Tidy (mapLatches
      { c with
        cleanup := c.cleanup.filter (·.endpoint != endpoint)
        cleanupInFlight := if c.inFlightEndpoint = some endpoint then none else c.cleanupInFlight
        remoteHeld := c.remoteHeld.filter fun key _ => key.endpoint != endpoint }
      fun _ latch =>
        match latch with
        | .remote held _ => if held = endpoint then .quarantined else latch
        | _ => latch) := by
  have hkept {key : HeldKey} (hheld : c.remoteHeld.contains key = true)
      (hne : key.endpoint ≠ endpoint) :
      (c.remoteHeld.filter fun key _ => key.endpoint != endpoint).contains key = true := by
    obtain ⟨held, hget⟩ := Option.isSome_iff_exists.mp hheld
    rw [OrdMap.contains, OrdMap.get?_filter, hget]
    simp [hne]
  have hqueued {key : HeldKey}
      (hkey : key ∈ (c.cleanup.filter (·.endpoint != endpoint)).map CleanupEntry.heldKey) :
      key ∈ c.queuedKeys ∧ key.endpoint ≠ endpoint := by
    obtain ⟨entry, hentry, rfl⟩ := List.mem_map.mp hkey
    obtain ⟨hmem, hne⟩ := List.mem_filter.mp hentry
    exact ⟨List.mem_map_of_mem hmem, bne_iff_ne.mp hne⟩
  refine ⟨⟨?_, ?_, ?_, ?_, ?_⟩, ?_, ?_, ?_, ?_⟩
  · refine mapLatches_bounds ?_ _
    exact h.ledger.bounds.of_eq rfl rfl
  · intro d k e r hl
    rw [latch?_mapLatches] at hl
    obtain ⟨latch, hold, hnew⟩ := Option.map_eq_some_iff.mp hl
    cases latch with
    | «local» | quarantined => cases hnew
    | remote held route =>
      simp only at hnew
      split_ifs at hnew with he
      cases hnew
      obtain ⟨hheld, hnot⟩ := h.ledger.latched hold
      exact ⟨hkept hheld he, fun hkey => hnot (hqueued hkey).1⟩
  · intro key hkey
    obtain ⟨hmem, hne⟩ := hqueued hkey
    exact hkept (h.ledger.queuedHeld key hmem) hne
  · exact h.ledger.queuedOnce.sublist (List.filter_sublist.map _)
  · exact fun entry hentry => h.ledger.releases entry (List.mem_of_mem_filter hentry)
  · exact h.increasing.filter _
  · exact fun entry hentry => h.issued entry (List.mem_of_mem_filter hentry)
  · -- the front release stays unless it is one of the lost transport
    intro id hid
    simp only [mapLatches] at hid ⊢
    split_ifs at hid with hfront
    have hhead := h.inFlight id hid
    cases hqueue : c.cleanup with
    | nil =>
      rw [hqueue] at hhead
      cases hhead
    | cons entry rest =>
      rw [hqueue] at hhead
      cases hhead
      have hne : entry.endpoint ≠ endpoint := by
        intro heq
        apply hfront
        rw [inFlightEndpoint, hqueue, hid, ← heq]
        simp
      simp [hne]
  · exact (OrdMap.size_filter_le _ _).trans h.room

/-- A committed route policy renames the routes of holds and latches. -/
theorem Tidy.reroute (h : c.Tidy) (routing : RoutingTable) :
    ((c.rerouteHeld routing).rerouteLatches routing).Tidy := by
  have hroom : (c.rerouteHeld routing).remoteHeld.size ≤ maxRemoteHeldTotal := by
    rw [rerouteHeld, OrdMap.size_mapVals]
    exact h.room
  refine h.of_ledger ?_ rfl le_rfl rfl hroom
  refine h.ledger.of_latches ?_ (fun {d k e r} hl => ?_) (fun key => ?_) rfl
  · refine mapLatches_bounds ?_ _
    exact h.ledger.bounds.of_eq rfl rfl
  · rw [rerouteLatches, latch?_mapLatches] at hl
    obtain ⟨latch, hold, hnew⟩ := Option.map_eq_some_iff.mp hl
    cases latch with
    | «local» | quarantined => cases hnew
    | remote held route =>
      cases hnew
      exact ⟨route, hold⟩
  · show (c.remoteHeld.mapVals _).contains key = _
    rw [OrdMap.contains, OrdMap.get?_mapVals, Option.isSome_map]
    rfl

end DaemonCore

open DaemonCore

/-- One assignment of an operation. -/
theorem CoreOp.Edit.tidy {op : CoreOp} {c c' : DaemonCore} (he : op.Edit c c') (h : c.Tidy) :
    c'.Tidy := by
  cases he with
  | queue affected => exact queueRemoteCleanup_tidy h affected
  | take entry hhead =>
    refine ⟨h.ledger.congr rfl rfl rfl rfl, h.increasing, h.issued, fun id hid => ?_, h.room⟩
    cases hid
    rw [hhead]
    rfl
  | retry =>
    exact ⟨h.ledger.congr rfl rfl rfl rfl, h.increasing, h.issued, fun _ hid => (nomatch hid),
      h.room⟩
  | confirm entry rest hqueue => exact h.dropHead hqueue
  | invalidate endpoint => exact h.invalidate endpoint
  | forget device now =>
    refine h.of_ledger ?_ rfl le_rfl rfl h.room
    refine h.ledger.of_latches (forgetDevice_bounds h.ledger.bounds rfl rfl)
      (fun {d k e r} hl => ⟨r, ?_⟩) (fun _ => rfl) rfl
    rw [latch?_forgetDevice rfl] at hl
    split_ifs at hl
    exact hl
  | commit pending hop hpending =>
    exact (h.reroute pending.routing).of_fields rfl rfl rfl rfl le_rfl rfl
  | _ => exact h.of_fields rfl rfl rfl rfl le_rfl rfl

/-- Every administrative operation keeps the queue tidy. -/
theorem CoreOp.tidy (op : CoreOp) {c : DaemonCore} (h : c.Tidy) : (op.apply c).Tidy :=
  CoreOp.Edits.invariant (fun _ _ he hc => he.tidy hc) (op.edits c) h

namespace DaemonCore

variable {c c' : DaemonCore} {nowNs : ℕ}

/-! ## Captured events -/

/-- The pending decision can be settled: a press has room or is held already, the control of a
    release is off its latch and its queue, and that of a repeat is held. -/
structure PendingSound (c : DaemonCore) (pending : PendingRemoteDecision) : Prop where
  press : ∀ k ∈ pending.control, pending.transition = some .press →
    c.remoteHeld.contains (pending.heldKey k) = true ∨ c.remoteHeld.size < maxRemoteHeldTotal
  release : ∀ k ∈ pending.control, pending.transition = some .release →
    pending.heldKey k ∉ c.queuedKeys
      ∧ ∀ r, c.latch? pending.device k ≠ some (.remote pending.endpoint r)
  repeated : ∀ k ∈ pending.control, pending.transition = some .repeat →
    c.remoteHeld.contains (pending.heldKey k) = true

/-- Tidy, with a pending decision that can be settled. -/
structure Sound (c : DaemonCore) : Prop where
  tidy : c.Tidy
  pending : ∀ pending ∈ c.pendingRemote, c.PendingSound pending

theorem Tidy.sound (h : c.Tidy) (hnone : c.pendingRemote = none) : c.Sound :=
  ⟨h, fun pending hp => (nomatch (hnone ▸ hp : pending ∈ none))⟩

theorem setLatch_tidy (h : c.Tidy) (d : DeviceId) (k : PhysicalControl) {l : LatchedDestination}
    (hl : isRemoteLatch (some l) = false) : (c.setLatch d k l).Tidy := by
  refine h.of_ledger ?_ rfl le_rfl rfl h.room
  refine h.ledger.of_latches (setLatch_bounds h.ledger.bounds d k l) (fun {d' k' e r} hlatch => ?_)
    (fun _ => rfl) rfl
  rw [latch?_setLatch] at hlatch
  split_ifs at hlatch
  · obtain ⟨_, -, rfl⟩ := Option.map_eq_some_iff.mp hlatch
    cases hl
  · exact ⟨r, hlatch⟩

variable {stateful : Option ControlTransition}
  {previousLatch : Option LatchedDestination} {pending : PendingRemoteDecision}

theorem recordTransition_tidy {c₁ : DaemonCore} {device : DeviceId}
    (h : c.recordTransition device stateful nowNs = (.ok previousLatch, c₁)) (ht : c.Tidy) :
    c₁.Tidy := by
  have hledger := (recordTransition_ledger h ht.ledger).1
  obtain ⟨⟨controls, count, rfl⟩, -, -⟩ := recordTransition_ok h
  exact ht.of_ledger hledger rfl le_rfl rfl ht.room

/-- A remote decision can be settled as soon as it is made. -/
theorem recordTransition_pendingSound {c₁ : DaemonCore} {event : InputEvent}
    {endpoint : SessionEndpoint} (id : ℕ)
    (h : c.recordTransition event.sourceDevice stateful nowNs = (.ok previousLatch, c₁))
    (ht : c.Tidy) (htransition : previousLatch = none → continues (stateful.map Prod.snd) = false)
    (hroom : stateful.map Prod.snd = some .press → (stateful.map Prod.fst).isSome = true →
      previousLatch = none → c₁.remoteHeld.size < maxRemoteHeldTotal)
    (htarget : RemoteTarget c₁ event previousLatch endpoint nowNs) :
    c₁.PendingSound (pendingFor ⟨id, endpoint, event⟩ (stateful.map Prod.fst)
      (stateful.map Prod.snd) previousLatch) := by
  obtain ⟨⟨controls, count, heq⟩, hprev, -⟩ := recordTransition_ok h
  -- the latch of a continued control is in the ledger and not queued
  have hcontinued {k : PhysicalControl} {t : PhysicalTransition} {route : DeviceRoute}
      (hs : stateful = some (k, t)) (hlatch : previousLatch = some (.remote endpoint route)) :
      c₁.remoteHeld.contains ⟨endpoint, event.sourceDevice, k⟩ = true
        ∧ ⟨endpoint, event.sourceDevice, k⟩ ∉ c₁.queuedKeys := by
    rw [hs, hlatch] at hprev
    rw [heq]
    exact ht.ledger.latched hprev.symm
  cases stateful with
  | none => exact ⟨fun _ hk => (nomatch hk), fun _ hk => (nomatch hk), fun _ hk => (nomatch hk)⟩
  | some tracked =>
    obtain ⟨k, t⟩ := tracked
    cases htarget with
    | routed target hnone =>
      have hpress : continues (some t) = false := htransition hnone
      refine ⟨fun k' hk ht' => Or.inr (hroom ht' rfl hnone), fun k' hk ht' => ?_,
        fun k' hk ht' => ?_⟩
      · obtain rfl : t = .release := Option.some.inj ht'
        cases hpress
      · obtain rfl : t = .repeat := Option.some.inj ht'
        cases hpress
    | latched route hlatch =>
      obtain ⟨hheld, hnot⟩ := hcontinued rfl hlatch
      refine ⟨fun k' hk ht' => Or.inl ?_, fun k' hk ht' => ⟨?_, fun r hr => ?_⟩,
        fun k' hk ht' => ?_⟩
      all_goals cases hk
      · exact hheld
      · exact hnot
      · cases ht'
        rw [show (pendingFor _ _ _ _).device = event.sourceDevice from rfl,
          recordTransition_latch h, if_pos ⟨rfl, rfl⟩] at hr
        cases hr
      · exact hheld

theorem prepareCaptured_sound (h : c.Sound) (captured : CapturedInput) (nowNs : ℕ) :
    (c.prepareCaptured captured nowNs).2.Sound := by
  have has := prepareCaptured_as c captured nowNs
  generalize c.prepareCaptured captured nowNs = r at has ⊢
  cases has with
  | busy | untracked => exact h
  | refused e c' hpending _ hrecord =>
    obtain ⟨-, rfl, -⟩ := recordTransition_error hrecord
    have hunready : c.activateLocal.unready.Tidy := h.tidy.of_fields rfl rfl rfl rfl le_rfl rfl
    exact (failClosed_tidy hunready nowNs).sound
      ((failClosed_frame _ nowNs).pendingRemote.trans hpending)
  | recorded c₁ previousLatch _ hpending _ hrecord has =>
    have htidy := recordTransition_tidy hrecord h.tidy
    have hnone : c₁.pendingRemote = none := by
      obtain ⟨⟨controls, count, rfl⟩, -, -⟩ := recordTransition_ok hrecord
      exact hpending
    cases has with
    | passes | inert | barred => exact htidy.sound hnone
    | closed =>
      exact (failClosed_tidy htidy nowNs).sound
        ((failClosed_frame c₁ nowNs).pendingRemote.trans hnone)
    | activated =>
      have hdraining : Tidy { c₁ with drainFailsafeKeys := true } :=
        htidy.of_fields rfl rfl rfl rfl le_rfl rfl
      exact (activateFailsafe_tidy hdraining nowNs).sound
        ((activateFailsafe_frame _ nowNs).pendingRemote.trans hnone)
    | draining =>
      have hdrained : Tidy { c₁ with drainFailsafeKeys := false } :=
        htidy.of_fields rfl rfl rfl rfl le_rfl rfl
      split_ifs
      · exact (htidy.published nowNs).sound hnone
      · exact (hdrained.published nowNs).sound hnone
    | quarantined k =>
      exact (setLatch_tidy htidy captured.event.sourceDevice k rfl).sound hnone
    | remote endpoint hfits htransition hroom htarget =>
      refine ⟨htidy.of_fields rfl rfl rfl rfl (Nat.le_succ _) rfl, fun pending hp => ?_⟩
      cases hp
      exact { recordTransition_pendingSound c₁.nextEffectId hrecord h.tidy htransition hroom
        htarget with }

/-! ## Settling a decision -/

/-- A confirmed press latches its control remotely and enters the ledger. -/
theorem Tidy.confirm_press {k : PhysicalControl}
    (route : DeviceRoute) (sequence : ℕ) (h : c.Tidy) (hnot : pending.heldKey k ∉ c.queuedKeys)
    (hroom : c.remoteHeld.contains (pending.heldKey k) = true
      ∨ c.remoteHeld.size < maxRemoteHeldTotal) :
    (setLatch { c with remoteHeld := c.remoteHeld.insert (pending.heldKey k) ⟨route, sequence⟩ }
      pending.device k (.remote pending.endpoint route)).Tidy := by
  refine h.of_ledger ⟨?_, ?_, ?_, h.ledger.queuedOnce, h.ledger.releases⟩ rfl le_rfl rfl ?_
  · refine setLatch_bounds ?_ pending.device k _
    exact h.ledger.bounds.of_eq rfl rfl
  · intro d k' e r hl
    rw [latch?_setLatch] at hl
    split_ifs at hl with hdk
    · obtain ⟨rfl, rfl⟩ := hdk
      obtain ⟨_, -, hlatch⟩ := Option.map_eq_some_iff.mp hl
      cases hlatch
      exact ⟨OrdMap.contains_insert.mpr (Or.inl rfl), hnot⟩
    · obtain ⟨hheld, hqueued⟩ := h.ledger.latched hl
      exact ⟨OrdMap.contains_insert.mpr (Or.inr hheld), hqueued⟩
  · exact fun key hkey => OrdMap.contains_insert.mpr (Or.inr (h.ledger.queuedHeld key hkey))
  · show (c.remoteHeld.insert _ _).size ≤ _
    rw [OrdMap.size_insert]
    split_ifs with hheld
    · exact h.room
    · exact hroom.resolve_left hheld

/-- A confirmed release leaves the ledger. -/
theorem Tidy.confirm_release {key : HeldKey} (h : c.Tidy) (hnot : key ∉ c.queuedKeys)
    (hlatch : ∀ r, c.latch? key.device key.control ≠ some (.remote key.endpoint r)) :
    Tidy { c with remoteHeld := c.remoteHeld.erase key } := by
  refine h.of_ledger ⟨h.ledger.bounds.of_eq rfl rfl, ?_, ?_, h.ledger.queuedOnce,
    h.ledger.releases⟩ rfl le_rfl rfl ((OrdMap.size_filter_le _ _).trans h.room)
  · intro d k e r hl
    obtain ⟨hheld, hqueued⟩ := h.ledger.latched hl
    refine ⟨OrdMap.contains_erase.mpr ⟨?_, hheld⟩, hqueued⟩
    rintro rfl
    exact hlatch r hl
  · intro key' hkey
    refine OrdMap.contains_erase.mpr ⟨?_, h.ledger.queuedHeld key' hkey⟩
    rintro rfl
    exact hnot hkey

theorem confirmTaken_sound (h : c.Tidy)
    (hnone : c.pendingRemote = none) (hp : c.PendingSound pending)
    (hpress : pending.transition = some .press → ∀ k ∈ pending.control,
      pending.heldKey k ∉ c.queuedKeys) (sequence nowNs : ℕ) :
    (c.confirmTaken pending sequence nowNs).2.Sound := by
  have hclosed : (c.failClosed nowNs).2.Sound :=
    (failClosed_tidy h nowNs).sound ((failClosed_frame c nowNs).pendingRemote.trans hnone)
  have hspec := confirmTaken_spec c pending sequence nowNs
  generalize c.confirmTaken pending sequence nowNs = r at hspec ⊢
  cases hspec with
  | full | stale => exact hclosed
  | press k hk ht hroom =>
    have htidy := h.confirm_press (c.confirmedRoute pending) sequence
      (hpress ht k hk) hroom
    exact (htidy.published nowNs).sound hnone
  | release k hk ht =>
    obtain ⟨hnot, hlatch⟩ := hp.release k hk ht
    have htidy := h.confirm_release hnot hlatch
    exact (htidy.published nowNs).sound hnone
  | repeated k hk ht hheld =>
    have hmodified : Tidy { c with
        remoteHeld := c.remoteHeld.modify (pending.heldKey k) fun held =>
          { held with lastInputSequence := sequence } } := by
      refine h.of_ledger ?_ rfl le_rfl rfl ((OrdMap.size_modify ..).trans_le h.room)
      refine h.ledger.of_latches (h.ledger.bounds.of_eq rfl rfl) (fun hl => ⟨_, hl⟩)
        (fun key => OrdMap.contains_modify ..) rfl
    exact (hmodified.published nowNs).sound hnone
  | stateless => exact (h.published nowNs).sound hnone

theorem PendingSound.taken (h : c.PendingSound pending) :
    PendingSound { c with pendingRemote := none } pending := { h with }

theorem failRemoteInput_sound (h : c.Sound) (effect : RemoteInputEffect) (nowNs : ℕ) :
    (c.failRemoteInput effect nowNs).2.Sound := by
  unfold failRemoteInput
  rcases takeMatchingRemote_cases c effect.decisionId nowNs with
    ⟨pending, -, -, htake⟩ | ⟨-, htake⟩
  · rw [htake]
    have htaken : Tidy { c with pendingRemote := none } :=
      h.tidy.of_fields rfl rfl rfl rfl le_rfl rfl
    refine Tidy.sound (failClosed_tidy ?_ nowNs) ?_
    · split
      · exact setLatch_tidy htaken _ _ rfl
      · exact htaken
    refine (failClosed_frame _ nowNs).pendingRemote.trans ?_
    split <;> rfl
  · rw [htake]
    exact ⟨h.tidy.of_fields rfl rfl rfl rfl le_rfl rfl,
      fun pending hp => { h.pending pending hp with }⟩

end DaemonCore

namespace CoreAction

/-! ## Runs that settle each decision at once -/

/-- A pending decision is settled by the next call. -/
def Settles (c : DaemonCore) : CoreAction → Prop
  | .confirm effect _ _ | .fail effect _ =>
    ∀ pending ∈ c.pendingRemote, pending.id = effect.decisionId
  | .prepare _ _ | .process _ _ | .op _ => c.pendingRemote = none

/-- No press is confirmed for a control whose release is still queued. -/
def ConfirmsUnqueued (c : DaemonCore) : CoreAction → Prop
  | .confirm _ _ _ => ∀ pending ∈ c.pendingRemote, pending.transition = some .press →
      ∀ k ∈ pending.control, pending.heldKey k ∉ c.queuedKeys
  | .prepare _ _ | .fail _ _ | .process _ _ | .op _ => True

instance (c : DaemonCore) : (a : CoreAction) → Decidable (a.Settles c)
  | .confirm _ _ _ | .fail _ _ => by unfold Settles; infer_instance
  | .prepare _ _ | .process _ _ | .op _ => by unfold Settles; infer_instance

instance (c : DaemonCore) : (a : CoreAction) → Decidable (a.ConfirmsUnqueued c)
  | .confirm _ _ _ => by unfold ConfirmsUnqueued; infer_instance
  | .prepare _ _ | .fail _ _ | .process _ _ | .op _ => .isTrue trivial

/-- One call keeps the core sound. -/
theorem sound {c : DaemonCore} {a : CoreAction} (hsettles : a.Settles c)
    (hfresh : a.ConfirmsUnqueued c) (h : c.Sound) : (a.apply c).Sound := by
  cases a with
  | prepare captured now => exact prepareCaptured_sound h captured now
  | fail effect now => exact failRemoteInput_sound h effect now
  | process captured now =>
    have hprepared := prepareCaptured_sound h captured now
    show (c.processCaptured captured now).2.Sound
    rcases processCaptured_eq c captured now with ⟨effect, c', heq, hfail⟩ | ⟨-, heq⟩
    · rw [heq] at hprepared
      rw [hfail]
      exact failRemoteInput_sound hprepared effect now
    · rw [heq]
      exact hprepared
  | confirm effect sequence now =>
    show (c.confirmRemoteInput effect sequence now).2.Sound
    unfold confirmRemoteInput
    rcases takeMatchingRemote_settles hsettles now with ⟨pending, hp, htake⟩ | ⟨hnone, htake⟩
    · rw [htake]
      have htaken : Tidy { c with pendingRemote := none } :=
        h.tidy.of_fields rfl rfl rfl rfl le_rfl rfl
      exact confirmTaken_sound htaken rfl (h.pending pending hp).taken
        (hfresh pending hp) sequence now
    · have hclosed : c.closeGate.Tidy := h.tidy.of_fields rfl rfl rfl rfl le_rfl rfl
      rw [htake]
      exact (hclosed.published now).sound hnone
  | op request =>
    exact (request.tidy h.tidy).sound ((request.apply_frame c).pendingRemote.trans hsettles)

end CoreAction

theorem DaemonCore.new_sound {config : Config} {workspace : WorkspaceState} {core : DaemonCore}
    (h : DaemonCore.new config workspace = .ok core) : core.Sound := by
  have hcreated := new_created h
  have hledger := (new_settled h fun _ => True).1.ledger
  refine Tidy.sound ⟨hledger, ?_, ?_, ?_, ?_⟩ hcreated.pendingRemote
  · rw [hcreated.cleanup]
    exact List.Pairwise.nil
  · rw [hcreated.cleanup]
    exact fun entry hentry => (nomatch hentry)
  · rw [hcreated.cleanupInFlight]
    exact fun id hid => (nomatch hid)
  · rw [hcreated.remoteHeld]
    exact Nat.zero_le _

/-- In every run from `DaemonCore::new` that settles each remote decision at
    once and confirms no press whose release is queued, the ledger, the latches
    and the queue agree, a decision is confirmed without an error, and a cleanup
    fits the queue whatever other fields its caller has assigned before. -/
theorem cleanup_tidy {config : Config} {workspace : WorkspaceState} {core : DaemonCore}
    (hnew : DaemonCore.new config workspace = .ok core) {actions : List CoreAction}
    (hrun : Admissible (fun c a => CoreAction.Settles c a ∧ CoreAction.ConfirmsUnqueued c a)
      CoreAction.apply core actions) :
    (execute CoreAction.apply core actions).Tidy
      ∧ (∀ effect sequence now, ∀ pending ∈ (execute CoreAction.apply core actions).pendingRemote,
        pending.id = effect.decisionId →
        ((execute CoreAction.apply core actions).confirmRemoteInput effect sequence now).1
          = .ok .remoteQueued)
      ∧ ∀ c' affected, c'.remoteHeld = (execute CoreAction.apply core actions).remoteHeld →
        c'.cleanup = (execute CoreAction.apply core actions).cleanup →
        (queueRemoteCleanup c' affected).1 ≠ .error .capacityExceeded := by
  have hsound := hrun.invariant (fun _ _ hguard hc => CoreAction.sound hguard.1 hguard.2 hc)
    (DaemonCore.new_sound hnew)
  generalize execute CoreAction.apply core actions = c at hsound ⊢
  refine ⟨hsound.tidy, fun effect sequence now pending hp hid => ?_,
    fun c' affected hheld hqueue => ?_⟩
  · unfold confirmRemoteInput takeMatchingRemote
    rw [show c.pendingRemote = some pending from hp]
    simp only [hid, if_true]
    have hsettles := (hsound.pending pending hp).taken
    have hspec := confirmTaken_spec { c with pendingRemote := none } pending sequence now
    generalize confirmTaken { c with pendingRemote := none } pending sequence now = r at hspec ⊢
    cases hspec with
    | full k e hk ht hnew hfull =>
      rcases hsettles.press k hk ht with hheld | hroom
      · rw [hnew] at hheld
        cases hheld
      · exact absurd hroom (Nat.not_lt.mpr hfull)
    | stale k hk ht hheld =>
      have hstale := hsettles.repeated k hk ht
      rw [hheld] at hstale
      cases hstale
    | press | release | repeated | stateless => rfl
  · have hcandidates : c'.cleanupCandidates affected = c.cleanupCandidates affected := by
      unfold cleanupCandidates
      rw [hheld, hqueue]
    unfold queueRemoteCleanup
    have hfits : c.cleanup.length + (c.cleanupCandidates affected).length
        ≤ maxPendingRemoteCleanup :=
      (hsound.tidy.fits affected).trans hsound.tidy.room
    rw [hcandidates, hqueue, if_neg (Nat.not_lt.mpr hfits)]
    split <;> exact fun hfull => (nomatch hfull)

namespace Sample

/-- Further devices are always routed to the remote host. -/
def routeRemotely (config : Config) (device : DeviceId) : Config :=
  { config with deviceRoutes := config.deviceRoutes ++ [⟨device, .host remoteHost⟩] }

/-- The keyboard always goes to the remote host. -/
def routedConfig : Config := routeRemotely config keyboard

def routedCore : DaemonCore :=
  (DaemonCore.new routedConfig workspace).toOption.get (by decide +kernel)

/-- Capture one transition of the `A` key and confirm it as decision `id`. -/
def send (state : KeyState) (id : ℕ) : List CoreAction :=
  [.prepare (key .keyA state) 0, .confirm ⟨id, endpoint, (key .keyA state).event⟩ id 0]

/-- The key is held remotely, a policy for another device is staged, and
    routing is disabled, which queues the release of the key. -/
def queueRelease : List CoreAction :=
  [.op (.installSessionEndpoint endpoint 0), .op (.markWorkspaceRoutingReady 0)]
    ++ send .pressed 1
    ++ [.op (.prepareRoutePolicyUpdate (routeRemotely routedConfig ⟨8⟩) 0 0), .op (.disable 0)]

/-- Routing is enabled again, and the key is released and pressed. -/
def pressQueued : List CoreAction :=
  queueRelease ++ [.op (.enable 0), .prepare (key .keyA .released) 0] ++ send .pressed 3

/-- The queued release is sent, and the key repeats. -/
def repeatQueued : List CoreAction :=
  pressQueued ++ [.op .takeNextCleanupRelease,
    .op (.confirmCleanupRelease ⟨2, endpoint, 1,
      ⟨localHost, keyboard, .key (.named .keyA) .released⟩⟩ 0),
    .prepare (key .keyA .repeated) 0]

end Sample

open Sample

theorem cleanup_tidy_queueRelease : (execute CoreAction.apply routedCore queueRelease).Tidy := by
  have hnew : DaemonCore.new routedConfig workspace = .ok routedCore := rfl
  have hrun : Admissible (fun c a => CoreAction.Settles c a ∧ CoreAction.ConfirmsUnqueued c a)
      CoreAction.apply routedCore queueRelease := by decide +kernel
  exact (cleanup_tidy hnew hrun).1

/-- The key is latched remotely while its old release is queued; once that
    release is sent, the repeat of the key is reported stale. -/
theorem cleanup_untidy :
    DaemonCore.new routedConfig workspace = .ok routedCore
      ∧ Admissible (fun c a => CoreAction.Settles c a) CoreAction.apply routedCore
        repeatQueued
      ∧ ((execute CoreAction.apply routedCore pressQueued).latch? keyboard
            (.key (.named .keyA)) = some (.remote endpoint (.host remoteHost))
          ∧ ⟨endpoint, keyboard, .key (.named .keyA)⟩
            ∈ (execute CoreAction.apply routedCore pressQueued).queuedKeys)
      ∧ ((execute CoreAction.apply routedCore repeatQueued).confirmRemoteInput
          ⟨4, endpoint, (key .keyA .repeated).event⟩ 4 0).1
        = .error .staleDecision := by
  refine ⟨rfl, by decide +kernel, by decide +kernel, by decide +kernel⟩

end SoftwareKvm
