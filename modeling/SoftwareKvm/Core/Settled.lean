import SoftwareKvm.Core.Ledger

/-!
# Settled cores

A core is settled between two operations of its session: the ledger is sound,
everything held is accounted for, and no decision or route policy is pending.
`Keeps` steps take settled cores to settled cores with the same held keys. Only
three steps change the held keys, and each of them belongs to a message: a
confirmed press, a confirmed release and a confirmed cleanup release.

Results:
* `prepareCaptured_settled`: a captured event keeps the core settled, or leaves
  it prepared to send the event.
* `Prepared.confirmed`, `Prepared.failed`: what the two
  settlements make of a prepared core.
* `confirmCleanupRelease_settled`: what a delivered cleanup release does.
-/

namespace SoftwareKvm

open Lib

/-- What a transition of `x` does to a set of held things. -/
def PhysicalTransition.onHeld {α : Type} (t : PhysicalTransition) (x : α) (s : Set α) : Set α :=
  match t with
  | .press => insert x s
  | .repeat => s
  | .release => s \ {x}

namespace DaemonCore

open OrdMap

/-- A core between two operations, whose held keys all satisfy `P`. -/
structure Settled (P : HeldKey → Prop) (c : DaemonCore) : Prop where
  ledger : c.Ledger
  accounted : c.Accounted
  pendingRemote : c.pendingRemote = none
  pendingRoutePolicy : c.pendingRoutePolicy = none
  held : ∀ key, c.remoteHeld.contains key = true → P key

/-- A step that keeps a core settled and its held keys as they are. -/
structure Keeps (c c' : DaemonCore) : Prop where
  localHost : c'.workspace.localHost = c.workspace.localHost
  held : ∀ key, c'.remoteHeld.contains key = c.remoteHeld.contains key
  settled : ∀ P, c.Settled P → c'.Settled P

/-- A step that accounts for the held keys `x` that the latches have lost. -/
structure Recovers (x : Set HeldKey) (c c' : DaemonCore) : Prop where
  ledger : c.Ledger → c'.Ledger
  accounted : c.Ledger → AccountedBut x c → c.Drained → c'.Accounted
  held : ∀ key, c'.remoteHeld.contains key = c.remoteHeld.contains key
  pendingRemote : c'.pendingRemote = c.pendingRemote
  pendingRoutePolicy : c'.pendingRoutePolicy = c.pendingRoutePolicy
  localHost : c'.workspace.localHost = c.workspace.localHost

variable (c : DaemonCore)

theorem Keeps.refl : Keeps c c := ⟨rfl, fun _ => rfl, fun _ h => h⟩

theorem Recovers.keeps {c c' : DaemonCore} (h : Recovers ∅ c c') : Keeps c c' where
  localHost := h.localHost
  held := h.held
  settled _ hs :=
    { ledger := h.ledger hs.ledger
      accounted := h.accounted hs.ledger hs.accounted.held hs.accounted.drained
      pendingRemote := h.pendingRemote.trans hs.pendingRemote
      pendingRoutePolicy := h.pendingRoutePolicy.trans hs.pendingRoutePolicy
      held := fun key hkey => hs.held key ((h.held key).symm.trans hkey) }

variable {x : Set HeldKey}

theorem LedgerOp.recovers {c c' : DaemonCore} (h : LedgerOp c c') (hx : x = ∅) : Recovers x c c' :=
  { h with accounted := fun hl ha hd => ⟨h.accounted ∅ hl (hx ▸ ha), h.drained hl hd⟩ }

theorem LedgerOp.keeps {c c' : DaemonCore} (h : LedgerOp c c') : Keeps c c' :=
  (h.recovers rfl).keeps

/-- A step that ends routing accounts for everything. -/
theorem LedgerOp.recovers_of_unready {c c' : DaemonCore} (h : LedgerOp c c')
    (hready : c'.workspaceReady = false) : Recovers x c c' :=
  { h with accounted := fun _ _ _ => .of_unready hready }

theorem failClosed_recovers (nowNs : ℕ) : Recovers x c (c.failClosed nowNs).2 :=
  (failClosed_ledgerOp c nowNs).recovers_of_unready (failClosed_unready c nowNs)

/-! ## The failsafe and the ready mark -/

theorem activateFailsafe_recovers (nowNs : ℕ) :
    Recovers x c (activateFailsafe { c with drainFailsafeKeys := true } nowNs).2 := by
  let c₁ := suspendRouting { c with drainFailsafeKeys := true } nowNs
  have hop := queueRemoteCleanup_ledgerOp c₁ allHeld
  have hledger (h : c.Ledger) : c₁.Ledger := h.congr rfl rfl rfl rfl
  -- a full cleanup that fits the queue leaves no latch remote
  have hall (c' : DaemonCore) (h : c₁.queueRemoteCleanup allHeld = (.ok (), c'))
      (hl : c₁.Ledger) : c'.Accounted := by
    rw [h] at hop
    have hqueued (key : HeldKey) (hkey : c'.remoteHeld.contains key = true) : key ∈ c'.queuedKeys :=
      queueRemoteCleanup_allHeld_queued h ((hop.held key).symm.trans hkey)
    refine ⟨fun _ key hkey _ => Or.inr (hqueued key hkey), fun _ _ d k e r hremote => ?_⟩
    obtain ⟨hheld, hnot⟩ := (hop.ledger hl).latched hremote
    exact hnot (hqueued _ hheld)
  change Recovers x c (publish (if (c₁.queueRemoteCleanup allHeld).1.isOk
    then (c₁.queueRemoteCleanup allHeld).2 else (c₁.queueRemoteCleanup allHeld).2.unready) nowNs)
  generalize c₁.queueRemoteCleanup allHeld = r at hop hall ⊢
  obtain ⟨_ | u, c'⟩ := r
  · have hun := hop.trans ((unready_ledgerOp c').trans (publish_ledgerOp _ nowNs))
    exact { hun with
      ledger := fun h => hun.ledger (hledger h), accounted := fun _ _ _ => .of_unready rfl }
  · have hpub := publish_ledgerOp c' nowNs
    refine { hop with
      ledger := fun h => hpub.ledger (hop.ledger (hledger h)), accounted := fun h _ _ => ?_ }
    exact hpub.accountedFor (hop.ledger (hledger h)) (hall c' rfl (hledger h))

theorem triggerEmergency_keeps (nowNs : ℕ) : Keeps c (c.triggerEmergency nowNs).2 := by
  unfold triggerEmergency
  split_ifs
  · exact .refl c
  · exact (activateFailsafe_recovers c nowNs).keeps

/-- Routing becomes ready only when nothing is held. -/
theorem markWorkspaceRoutingReady_keeps (nowNs : ℕ) :
    Keeps c (c.markWorkspaceRoutingReady nowNs).2 := by
  unfold markWorkspaceRoutingReady
  simp only
  split_ifs with hbusy
  · exact .refl c
  · simp only [Bool.or_eq_true, Bool.not_eq_true', not_or, Bool.not_eq_false] at hbusy
    have hnone (key : HeldKey) : c.remoteHeld.contains key = false := by
      rw [contains, isEmpty_iff.mp hbusy.1.1.2 key]
      rfl
    refine ⟨rfl, fun _ => rfl, fun P hs =>
      { hs with ledger := hs.ledger.congr rfl rfl rfl rfl, accounted := ⟨?_, ?_⟩ }⟩
    · intro _ key hkey
      exact absurd ((hnone key).symm.trans hkey) Bool.false_ne_true
    · intro _ _ d k e r hl
      exact absurd ((hnone _).symm.trans (hs.ledger.latched hl).1) Bool.false_ne_true

/-- A new core is settled and holds nothing. -/
theorem new_settled {config : Config} {workspace : WorkspaceState} {c : DaemonCore}
    (h : DaemonCore.new config workspace = .ok c) (P : HeldKey → Prop) :
    c.Settled P ∧ c.remoteHeld = ∅ ∧ c.workspace = workspace := by
  have hcreated := new_created h
  have hnone (d : DeviceId) (k : PhysicalControl) : c.latch? d k = none := by
    rw [latch?, hcreated.physicalControls]
    rfl
  have hphysical : c.physical = ∅ := by
    rw [physical, hcreated.physicalControls]
    rfl
  have hqueue : c.queuedKeys = [] := by rw [queuedKeys, hcreated.cleanup, List.map_nil]
  refine ⟨⟨⟨⟨?_, ?_, ?_, ?_⟩, ?_, ?_, ?_, ?_⟩, .of_unready hcreated.workspaceReady,
    hcreated.pendingRemote, hcreated.pendingRoutePolicy, ?_⟩, hcreated.remoteHeld,
      hcreated.workspace⟩
  · rw [hcreated.physicalControls]
    exact Nat.zero_le _
  · rw [hcreated.physicalControls]
    intro d m hget
    cases hget
  · rw [hphysical, hcreated.physicalControlCount, Finset.card_empty]
  · rw [hcreated.physicalControlCount]
    exact Nat.zero_le _
  · intro d k e r hl
    rw [hnone] at hl
    cases hl
  · rw [hqueue]
    intro key hkey
    cases hkey
  · rw [hqueue]
    exact List.nodup_nil
  · rw [hcreated.cleanup]
    intro entry hentry
    cases hentry
  · rw [hcreated.remoteHeld]
    intro key hkey
    cases hkey

/-! ## Delivered cleanup releases -/

/-- The confirmation of the release at the head of the queue takes its key off the ledger. -/
theorem confirmCleanupRelease_settled {P : HeldKey → Prop} {c : DaemonCore} {entry : CleanupEntry}
    {rest : List CleanupEntry} (hs : c.Settled P) (hqueue : c.cleanup = entry :: rest) (nowNs : ℕ) :
    (publish { c with
      cleanup := rest, cleanupInFlight := none
      remoteHeld := c.remoteHeld.erase entry.heldKey } nowNs).Settled P := by
  have hkeys : c.queuedKeys = entry.heldKey :: rest.map CleanupEntry.heldKey := by
    rw [queuedKeys, hqueue, List.map_cons]
  refine ⟨(hs.ledger.dropHead hqueue).congr rfl rfl rfl rfl,
    ⟨fun hready key hkey hx => ?_, hs.accounted.drained⟩, hs.pendingRemote,
    hs.pendingRoutePolicy, fun key hkey => hs.held key (contains_erase.mp hkey).2⟩
  obtain ⟨hne, hheld⟩ := contains_erase.mp hkey
  refine (hs.accounted.held hready key hheld hx).imp id fun hq => ?_
  rw [hkeys, List.mem_cons] at hq
  exact hq.resolve_left hne

/-! ## Recording a transition -/

/-- The latch that recording a transition leaves, given the one before. -/
def recordedLatch (transition : PhysicalTransition) (previousLatch : Option LatchedDestination) :
    Option LatchedDestination :=
  match transition with
  | .press => previousLatch.or (some .local)
  | .repeat => previousLatch
  | .release => none

variable {c c₁ : DaemonCore} {device : DeviceId} {k : PhysicalControl}
  {transition : PhysicalTransition} {previousLatch : Option LatchedDestination} {nowNs : ℕ}

theorem recordTransition_latch
    (h : c.recordTransition device (some (k, transition)) nowNs = (.ok previousLatch, c₁))
    (d' : DeviceId) (k' : PhysicalControl) :
    c₁.latch? d' k' = if d' = device ∧ k' = k then recordedLatch transition previousLatch
      else c.latch? d' k' := by
  have hsame (l : Option LatchedDestination) (hl : l = c.latch? device k) :
      c.latch? d' k' = if d' = device ∧ k' = k then l else c.latch? d' k' := by
    split_ifs with hdk
    · rw [hl, hdk.1, hdk.2]
    · rfl
  cases transition with
  | «repeat» =>
    cases h
    exact hsame _ rfl
  | release =>
    cases h
    exact latch?_removeLatch c device d' k k'
  | press =>
    rcases recordTransition_press h with ⟨latch, hl, rfl, rfl⟩ | ⟨hl, rfl, rfl, -⟩
    · exact hsame _ hl.symm
    · exact latch?_insertLatch c device d' k k'

theorem recordTransition_bounds {stateful : Option ControlTransition}
    (h : c.recordTransition device stateful nowNs = (.ok previousLatch, c₁))
    (hb : c.PhysicalBounds) : c₁.PhysicalBounds := by
  match stateful with
  | none =>
    cases h
    exact hb
  | some (k, .repeat) =>
    cases h
    exact hb
  | some (k, .release) =>
    cases h
    exact removeLatch_bounds hb device k
  | some (k, .press) =>
    rcases recordTransition_press h with ⟨latch, -, -, rfl⟩ | ⟨hl, -, rfl, hcap⟩
    · exact hb
    · exact insertLatch_bounds hb hcap hl

/-- The held key whose remote latch a release takes away. -/
def releasedKeys (device : DeviceId) (stateful : Option ControlTransition)
    (previousLatch : Option LatchedDestination) : Set HeldKey :=
  {key | key.device = device ∧ stateful = some (key.control, .release)
    ∧ ∃ r, previousLatch = some (.remote key.endpoint r)}

theorem releasedKeys_eq_empty {stateful : Option ControlTransition}
    (h : isRemoteLatch previousLatch = false) : releasedKeys device stateful previousLatch = ∅ := by
  ext key
  simp only [releasedKeys, Set.mem_ofPred_eq, Set.mem_empty_iff_false, iff_false]
  rintro ⟨-, -, r, rfl⟩
  cases h

/-- Recording a transition makes no latch remote. -/
theorem recordTransition_latch_remote {stateful : Option ControlTransition}
    {d : DeviceId} {k : PhysicalControl} {e : SessionEndpoint} {r : DeviceRoute}
    (h : c.recordTransition device stateful nowNs = (.ok previousLatch, c₁))
    (hlatch : c₁.latch? d k = some (.remote e r)) : c.latch? d k = some (.remote e r) := by
  have hprev := (recordTransition_ok h).2.1
  cases stateful with
  | none =>
    cases h
    exact hlatch
  | some tracked =>
    obtain ⟨k₀, t⟩ := tracked
    rw [recordTransition_latch h] at hlatch
    split_ifs at hlatch with hdk
    · simp only [Option.bind_some] at hprev
      rw [hdk.1, hdk.2, ← hprev]
      cases t with
      | release => cases hlatch
      | «repeat» => exact hlatch
      | press =>
        cases previousLatch with
        | none => cases hlatch
        | some l => exact hlatch
    · exact hlatch

/-- Recording a transition keeps the ledger; a release loses its own key from the account. -/
theorem recordTransition_ledger {stateful : Option ControlTransition}
    (h : c.recordTransition device stateful nowNs = (.ok previousLatch, c₁)) (hl : c.Ledger) :
    c₁.Ledger ∧ (AccountedBut ∅ c → AccountedBut (releasedKeys device stateful previousLatch) c₁)
      ∧ (c.Drained → c₁.Drained) := by
  obtain ⟨⟨controls, count, heq⟩, hprev, -⟩ := recordTransition_ok h
  have hheld : c₁.remoteHeld = c.remoteHeld := by rw [heq]
  have hqueue : c₁.cleanup = c.cleanup := by rw [heq]
  have hready : c₁.workspaceReady = c.workspaceReady := by rw [heq]
  have hdrain : c₁.drainFailsafeKeys = c.drainFailsafeKeys := by rw [heq]
  have hbounds := recordTransition_bounds h hl.bounds
  have hold {d k e r} := recordTransition_latch_remote (d := d) (k := k) (e := e) (r := r) h
  refine ⟨⟨hbounds, fun hlatch => ?_, ?_, ?_, ?_⟩, fun ha hr key hkey hx => ?_,
    fun hd hr hdr d k e r
    hlatch => ?_⟩
  · rw [hheld, queuedKeys, hqueue]
    exact hl.latched (hold hlatch)
  · rw [queuedKeys, hqueue, hheld]
    exact hl.queuedHeld
  · rw [queuedKeys, hqueue]
    exact hl.queuedOnce
  · rw [hqueue]
    exact hl.releases
  · rw [hready] at hr
    rw [hheld] at hkey
    rw [queuedKeys, hqueue]
    rcases ha hr key hkey (Set.notMem_empty key) with ⟨r, hlatch⟩ | hqueued
    · refine .inl ⟨r, ?_⟩
      cases stateful with
      | none =>
        cases h
        exact hlatch
      | some tracked =>
        obtain ⟨k₀, t⟩ := tracked
        simp only [Option.bind_some] at hprev
        rw [recordTransition_latch h]
        split_ifs with hdk
        · rw [← hdk.1, ← hdk.2, hlatch] at hprev
          cases t with
          | release => exact absurd ⟨hdk.1, by rw [hdk.2], r, hprev⟩ hx
          | «repeat» => exact hprev
          | press => rw [hprev]; rfl
        · exact hlatch
    · exact .inr hqueued
  · exact hd (hready ▸ hr) (hdrain ▸ hdr) d k e r (hold hlatch)

/-! ## Decisions that send nothing -/

section Decisions

variable {c : DaemonCore} {event : InputEvent} {endpoint : SessionEndpoint}
  {control : Option PhysicalControl} {transition : Option PhysicalTransition}
  {previousLatch : Option LatchedDestination} {nowNs : ℕ}

theorem setLatch_ledgerOp {d : DeviceId} {k : PhysicalControl} {l : LatchedDestination}
    (hl : LocalOrNone (c.latch? d k)) (hnew : isRemoteLatch (some l) = false) :
    LedgerOp c (c.setLatch d k l) := by
  have hremote {d' k' e r} : (c.setLatch d k l).latch? d' k' = some (.remote e r)
      ↔ c.latch? d' k' = some (.remote e r) := by
    rw [latch?_setLatch]
    split_ifs with hdk
    · rw [hdk.1, hdk.2]
      rcases hl with hl | hl
      · rw [hl]
        rfl
      · rw [hl]
        cases l with
        | remote e' r' => cases hnew
        | «local» => rfl
        | quarantined => simp
    · rfl
  refine ⟨fun h => ⟨setLatch_bounds h.bounds d k l, fun hlatch => h.latched (hremote.mp hlatch),
    h.queuedHeld, h.queuedOnce, h.releases⟩, fun x _ ha hready key hkey hx => ?_,
    fun _ hd hready hdrain d' k' e r hlatch => hd hready hdrain d' k' e r (hremote.mp hlatch),
    fun _ => rfl, rfl, rfl, rfl⟩
  exact (ha hready key hkey hx).imp (fun ⟨r, hlatch⟩ => ⟨r, hremote.mpr hlatch⟩) id

/-- An event that is not sent accounts for the key that it has released. -/
theorem RecordedAs.recovers {r : CoreResult CaptureDecision}
    (h : RecordedAs c event control transition previousLatch nowNs r)
    (hx : isRemoteLatch previousLatch = false → x = ∅)
    (hdrained : c.drainFailsafeKeys = true → c.workspaceReady = true → x = ∅)
    (hfresh : previousLatch = none → LocalOrNone (control.bind (c.latch? event.sourceDevice)))
    (hsilent : isRemoteDecision r.1 = false) : Recovers x c r.2 := by
  cases h with
  | passes _ hlatch =>
    exact (LedgerOp.refl c).recovers (hx (by rcases hlatch with rfl | rfl <;> rfl))
  | inert hlatch => exact (LedgerOp.refl c).recovers (hx (by rw [hlatch]; rfl))
  | barred hnone => exact (LedgerOp.refl c).recovers (hx (by rw [hnone]; rfl))
  | quarantined k hk _ hnone =>
    refine (setLatch_ledgerOp ?_ rfl).recovers (hx (by rw [hnone]; rfl))
    have hlatch := hfresh hnone
    rwa [hk, Option.bind_some] at hlatch
  | closed => exact failClosed_recovers c nowNs
  | activated => exact activateFailsafe_recovers c nowNs
  | draining hdrain =>
    have hop : LedgerOp c (publish (if c.anyFailsafeKeyPressed then c
        else { c with drainFailsafeKeys := false }) nowNs) := by
      split_ifs
      · exact publish_ledgerOp c nowNs
      · exact .of_fields rfl rfl rfl rfl id (fun h => by cases h) rfl rfl rfl
    by_cases hready : c.workspaceReady = true
    · exact hop.recovers (hdrained hdrain hready)
    · refine hop.recovers_of_unready ?_
      split_ifs
      · exact Bool.not_eq_true _ ▸ hready
      · exact Bool.not_eq_true _ ▸ hready
  | remote => cases hsilent

end Decisions

/-! ## Captured events -/

/-- `c'` is settled, with the held keys and the local host of `c`. -/
structure SettledAs (P : HeldKey → Prop) (c c' : DaemonCore) : Prop where
  settled : c'.Settled P
  held : ∀ key, c'.remoteHeld.contains key = c.remoteHeld.contains key
  localHost : c'.workspace.localHost = c.workspace.localHost

theorem Keeps.settledAs {P : HeldKey → Prop} {c c' : DaemonCore} (h : Keeps c c')
    (hs : c.Settled P) : SettledAs P c c' := ⟨h.settled P hs, h.held, h.localHost⟩

/-- The control and the transition of a captured event. -/
abbrev stateful (captured : CapturedInput) : Option ControlTransition :=
  PhysicalControl.fromPayload captured.event.payload

/-- `c₁` is the settled core `c` with the transition of a captured event
    recorded; `previousLatch` is the latch before. -/
structure Recorded (P : HeldKey → Prop) (c : DaemonCore) (captured : CapturedInput)
    (previousLatch : Option LatchedDestination) (c₁ : DaemonCore) : Prop where
  ledger : c₁.Ledger
  accounted :
    AccountedBut (releasedKeys captured.event.sourceDevice (stateful captured) previousLatch) c₁
  drained : c₁.Drained
  latch : ∀ k t, stateful captured = some (k, t) →
    c₁.latch? captured.event.sourceDevice k = recordedLatch t previousLatch
  previousHeld : ∀ k t e r, stateful captured = some (k, t) → previousLatch = some (.remote e r) →
    c.remoteHeld.contains ⟨e, captured.event.sourceDevice, k⟩ = true
  remoteHeld : c₁.remoteHeld = c.remoteHeld
  held : ∀ key, c.remoteHeld.contains key = true → P key
  pendingRemote : c₁.pendingRemote = none
  pendingRoutePolicy : c₁.pendingRoutePolicy = none
  localHost : c₁.workspace.localHost = c.workspace.localHost

section Captured

variable {P : HeldKey → Prop} {c c₁ c' : DaemonCore} {captured : CapturedInput}
  {previousLatch : Option LatchedDestination} {nowNs : ℕ}

theorem Settled.recorded (hs : c.Settled P)
    (h : c.recordTransition captured.event.sourceDevice (stateful captured) nowNs
      = (.ok previousLatch, c₁)) : Recorded P c captured previousLatch c₁ := by
  obtain ⟨⟨controls, count, heq⟩, hprev, -⟩ := recordTransition_ok h
  obtain ⟨hledger, haccounted, hdrained⟩ := recordTransition_ledger h hs.ledger
  refine ⟨hledger, haccounted hs.accounted.held, hdrained hs.accounted.drained, fun k t hst => ?_,
    fun k t e r hst hremote => ?_, by rw [heq], hs.held, ?_, ?_, by rw [heq]⟩
  · rw [hst] at h
    rw [recordTransition_latch h, if_pos ⟨rfl, rfl⟩]
  · rw [hst, hremote] at hprev
    exact (hs.ledger.latched hprev.symm).1
  · rw [heq]
    exact hs.pendingRemote
  · rw [heq]
    exact hs.pendingRoutePolicy

/-- A step that recovers the released key settles a recorded core. -/
theorem Recorded.settledAs (h : Recorded P c captured previousLatch c₁)
    (hr : Recovers (releasedKeys captured.event.sourceDevice (stateful captured) previousLatch)
      c₁ c') :
    SettledAs P c c' where
  settled :=
    { ledger := hr.ledger h.ledger
      accounted := hr.accounted h.ledger h.accounted h.drained
      pendingRemote := hr.pendingRemote.trans h.pendingRemote
      pendingRoutePolicy := hr.pendingRoutePolicy.trans h.pendingRoutePolicy
      held := fun key hkey => h.held key (by rw [← h.remoteHeld, ← hr.held]; exact hkey) }
  held key := by rw [hr.held, h.remoteHeld]
  localHost := hr.localHost.trans h.localHost

/-- A captured event keeps a settled core settled, unless the core decides to send it. -/
theorem prepareCaptured_settled (hs : c.Settled P)
    (h : isRemoteDecision (c.prepareCaptured captured nowNs).1 = false) :
    SettledAs P c (c.prepareCaptured captured nowNs).2 := by
  have has := prepareCaptured_as c captured nowNs
  generalize c.prepareCaptured captured nowNs = r at has h ⊢
  cases has with
  | busy | untracked => exact (Keeps.refl c).settledAs hs
  | refused e c' _ _ hrec =>
    obtain ⟨-, rfl, -⟩ := recordTransition_error hrec
    refine (LedgerOp.keeps (.trans ?_ (failClosed_ledgerOp _ nowNs))).settledAs hs
    exact (activateLocal_ledgerOp c).trans (unready_ledgerOp _)
  | recorded c₁ previousLatch _ _ _ hrec has =>
    have hrecorded : Recorded P c captured previousLatch c₁ := hs.recorded hrec
    obtain ⟨⟨controls, count, heq⟩, hprev, hfresh⟩ := recordTransition_ok hrec
    refine hrecorded.settledAs
      (has.recovers releasedKeys_eq_empty (fun hdrain hready => ?_) hfresh h)
    -- while the failsafe drains, the previous latch was not remote
    rw [heq] at hdrain hready
    refine releasedKeys_eq_empty ?_
    rw [hprev]
    cases PhysicalControl.fromPayload captured.event.payload with
    | none => rfl
    | some kt =>
      rw [Option.bind_some]
      cases hl : c.latch? captured.event.sourceDevice kt.1 with
      | none => rfl
      | some latch =>
        cases latch with
        | «local» | quarantined => rfl
        | remote e r => exact absurd hl (hs.accounted.drained hready hdrain _ _ e r)

/-! ## Settling the decision to send -/

/-- What an active routing gate says about the ledger. -/
structure Open (c : DaemonCore) : Prop where
  ready : c.workspaceReady = true
  drain : c.drainFailsafeKeys = false
  queue : c.cleanup = []

theorem Open.of_active (h : c.routingShouldBeActive nowNs = true)
    (hp : c.pendingRoutePolicy = none) : c.Open := by
  simp only [routingShouldBeActive, cleanupPending, hp, Bool.and_eq_true, Bool.not_eq_true',
    Option.isSome_none, Bool.or_false, Bool.or_eq_false_iff, Bool.not_eq_false',
    List.isEmpty_iff] at h
  exact ⟨h.1.1.2, h.1.1.1.2, h.1.2.1⟩

/-- The keys of the ledger. -/
def heldKeys (c : DaemonCore) : Set HeldKey := {key | c.remoteHeld.contains key = true}

/-- The keys of the ledger after an event for `endpoint` is sent. -/
def heldAfter (c : DaemonCore) (endpoint : SessionEndpoint) (captured : CapturedInput) :
    Set HeldKey :=
  match stateful captured with
  | none => c.heldKeys
  | some (k, t) => t.onHeld ⟨endpoint, captured.event.sourceDevice, k⟩ c.heldKeys

/-- `c'` is settled with routing open, and its ledger is that of `c` after the captured event. -/
structure Confirmed (P : HeldKey → Prop) (c : DaemonCore) (endpoint : SessionEndpoint)
    (captured : CapturedInput) (c' : DaemonCore) : Prop where
  settled : c'.Settled P
  gate : c'.Open
  held : c'.heldKeys = c.heldAfter endpoint captured
  localHost : c'.workspace.localHost = c.workspace.localHost

variable {endpoint : SessionEndpoint} {key : HeldKey}

/-- While routing is open, a held key is latched remotely unless this very event released it. -/
theorem Recorded.latched (h : Recorded P c captured previousLatch c₁) (ho : c₁.Open)
    (hkey : c.remoteHeld.contains key = true)
    (hx : key ∉ releasedKeys captured.event.sourceDevice (stateful captured) previousLatch) :
    ∃ r, c₁.latch? key.device key.control = some (.remote key.endpoint r) := by
  refine (h.accounted ho.ready key ?_ hx).resolve_right fun hq => ?_
  · rw [h.remoteHeld]
    exact hkey
  · rw [queuedKeys, ho.queue] at hq
    cases hq

/-- An empty queue and an inactive failsafe leave little to show. -/
theorem Settled.of_open (ho : c'.Open) (hbounds : c'.PhysicalBounds)
    (hlatched : ∀ d k e r, c'.latch? d k = some (.remote e r) →
      c'.remoteHeld.contains ⟨e, d, k⟩ = true)
    (haccounted : ∀ key, c'.remoteHeld.contains key = true →
      ∃ r, c'.latch? key.device key.control = some (.remote key.endpoint r))
    (hpending : c'.pendingRemote = none) (hpolicy : c'.pendingRoutePolicy = none)
    (hP : ∀ key, c'.remoteHeld.contains key = true → P key) : c'.Settled P := by
  have hqueue : c'.queuedKeys = [] := by rw [queuedKeys, ho.queue, List.map_nil]
  refine ⟨⟨hbounds, fun {d k e r} hl => ⟨hlatched d k e r hl, ?_⟩, ?_, ?_, ?_⟩,
    ⟨fun _ key hkey _ => Or.inl (haccounted key hkey), fun _ hdrain => ?_⟩, hpending, hpolicy, hP⟩
  · rw [hqueue]
    exact List.not_mem_nil
  · rw [hqueue]
    exact fun key hkey => absurd hkey List.not_mem_nil
  · rw [hqueue]
    exact List.nodup_nil
  · rw [ho.queue]
    exact fun entry hentry => absurd hentry List.not_mem_nil
  · exact absurd (ho.drain.symm.trans hdrain) Bool.false_ne_true

section

variable (h : Recorded P c captured previousLatch c₁)

include h

theorem Recorded.confirm_press {k : PhysicalControl} {route : DeviceRoute} {sequence : ℕ}
    (ho : c₁.Open) (hst : stateful captured = some (k, .press))
    (hprev : previousLatch = none ∨ ∃ r, previousLatch = some (.remote endpoint r))
    (hP : P ⟨endpoint, captured.event.sourceDevice, k⟩) :
    Confirmed P c endpoint captured (publish (setLatch
      { c₁ with remoteHeld :=
          c₁.remoteHeld.insert ⟨endpoint, captured.event.sourceDevice, k⟩ ⟨route, sequence⟩ }
      captured.event.sourceDevice k (.remote endpoint route)) nowNs) := by
  have hlatch := h.latch k .press hst
  have hset (d' : DeviceId) (k' : PhysicalControl) :
      (c₁.setLatch captured.event.sourceDevice k (.remote endpoint route)).latch? d' k' =
        if d' = captured.event.sourceDevice ∧ k' = k then some (.remote endpoint route)
        else c₁.latch? d' k' := by
    rw [latch?_setLatch]
    split_ifs with hdk
    · rw [hdk.1, hdk.2, hlatch]
      rcases hprev with rfl | ⟨r, rfl⟩ <;> rfl
    · rfl
  refine ⟨.of_open { ho with } ?_ ?_ ?_ h.pendingRemote h.pendingRoutePolicy ?_, { ho with }, ?_,
    h.localHost⟩
  · exact (setLatch_bounds h.ledger.bounds _ _ _).of_eq rfl rfl
  · intro d' k' e r hl
    refine contains_insert.mpr ?_
    have hl' := (hset d' k').symm.trans hl
    split_ifs at hl' with hdk
    · obtain ⟨rfl, rfl⟩ := hdk
      cases hl'
      exact Or.inl rfl
    · exact Or.inr (h.ledger.latched hl').1
  · intro key hkey
    show ∃ r, (c₁.setLatch captured.event.sourceDevice k (.remote endpoint route)).latch? key.device
      key.control = some (.remote key.endpoint r)
    rw [hset]
    rcases contains_insert.mp hkey with rfl | hkey
    · exact ⟨route, if_pos ⟨rfl, rfl⟩⟩
    · rw [h.remoteHeld] at hkey
      have hx : key ∉ releasedKeys captured.event.sourceDevice (stateful captured)
          previousLatch := by
        rintro ⟨-, hrel, -⟩
        rw [hst] at hrel
        cases hrel
      obtain ⟨r, hl⟩ := h.latched ho hkey hx
      split_ifs with hdk
      · -- the same control held for another endpoint would be latched there
        rw [hdk.1, hdk.2, hlatch] at hl
        rcases hprev with rfl | ⟨r', rfl⟩
        · cases hl
        · cases hl
          exact ⟨route, rfl⟩
      · exact ⟨r, hl⟩
  · intro key hkey
    rcases contains_insert.mp hkey with rfl | hkey
    · exact hP
    · exact h.held key (h.remoteHeld ▸ hkey)
  · ext key
    simp only [heldAfter, hst, PhysicalTransition.onHeld, heldKeys, Set.mem_insert_iff,
      Set.mem_ofPred_eq, ← h.remoteHeld]
    exact contains_insert

/-- A repeat, or an event without a control, changes no held key. -/
theorem Recorded.confirm_kept {remoteHeld : OrdMap HeldKey RemoteHeldState} (ho : c₁.Open)
    (hsame : ∀ key, remoteHeld.contains key = c₁.remoteHeld.contains key)
    (hst : ∀ k t, stateful captured = some (k, t) → t = .repeat) :
    Confirmed P c endpoint captured (publish { c₁ with remoteHeld } nowNs) := by
  have hopen : Open (publish { c₁ with remoteHeld } nowNs) := { ho with }
  have hx (key : HeldKey) : key ∉ releasedKeys captured.event.sourceDevice (stateful captured)
      previousLatch := by
    rintro ⟨-, hrel, -⟩
    cases hst _ _ hrel
  have hafter : c.heldAfter endpoint captured = c.heldKeys := by
    unfold heldAfter
    split
    · rfl
    · next k t hkt =>
      rw [hst k t hkt]
      rfl
  have hlatched {d k e r} (hl : c₁.latch? d k = some (.remote e r)) :=
    (hsame _).trans (h.ledger.latched hl).1
  rw [h.remoteHeld] at hsame
  refine ⟨.of_open hopen (h.ledger.bounds.of_eq rfl rfl) (fun d k e r hl => hlatched hl)
    (fun key hkey => h.latched ho ((hsame key).symm.trans hkey) (hx key)) h.pendingRemote
    h.pendingRoutePolicy (fun key hkey => h.held key ((hsame key).symm.trans hkey)), hopen, ?_,
    h.localHost⟩
  rw [hafter]
  ext key
  rw [heldKeys, heldKeys, Set.mem_ofPred_eq, Set.mem_ofPred_eq, ← hsame]
  rfl

theorem Recorded.confirm_release {k : PhysicalControl} (ho : c₁.Open)
    (hst : stateful captured = some (k, .release))
    (hprev : ∃ r, previousLatch = some (.remote endpoint r)) :
    Confirmed P c endpoint captured (publish
      { c₁ with remoteHeld :=
          c₁.remoteHeld.erase ⟨endpoint, captured.event.sourceDevice, k⟩ } nowNs) := by
  have hgone := h.latch k .release hst
  refine ⟨.of_open { ho with } (h.ledger.bounds.of_eq rfl rfl) ?_ ?_ h.pendingRemote
    h.pendingRoutePolicy ?_, { ho with }, ?_, h.localHost⟩
  · intro d k' e r hl
    refine contains_erase.mpr ⟨?_, (h.ledger.latched hl).1⟩
    rintro heq
    cases heq
    cases hgone.symm.trans hl
  · intro key hkey
    obtain ⟨hne, hkey⟩ := contains_erase.mp hkey
    rw [h.remoteHeld] at hkey
    refine h.latched ho hkey ?_
    rintro ⟨hdevice, hrel, r, hremote⟩
    obtain ⟨r', hr'⟩ := hprev
    rw [hst] at hrel
    rw [hr'] at hremote
    cases hrel
    cases hremote
    exact hne (by rw [← hdevice])
  · intro key hkey
    exact h.held key (h.remoteHeld ▸ (contains_erase.mp hkey).2)
  · ext key
    simp only [heldAfter, hst, PhysicalTransition.onHeld, heldKeys, publish, Set.mem_ofPred_eq,
      Set.mem_sdiff, Set.mem_singleton_iff, contains_erase, h.remoteHeld]
    exact and_comm

end

/-- `c'` is the recorded core `c₁` with the decision to send `effect` pending. -/
structure Prepared (P : HeldKey → Prop) (c : DaemonCore) (captured : CapturedInput)
    (previousLatch : Option LatchedDestination) (c₁ : DaemonCore) (effect : RemoteInputEffect)
    (nowNs : ℕ) (c' : DaemonCore) : Prop where
  recorded : Recorded P c captured previousLatch c₁
  gate : c₁.Open
  tracked : c.tracksEvent captured = true
  event : effect.event = captured.event
  origin : previousLatch = none ∧ continues ((stateful captured).map Prod.snd) = false
    ∨ isRemoteLatch previousLatch = true
  grounds : RemoteGrounds c₁ effect.endpoint ((stateful captured).map Prod.fst)
    ((stateful captured).map Prod.snd) previousLatch nowNs
  core : c' = { c₁ with
    nextEffectId := c₁.nextEffectId + 1
    pendingRemote := some (pendingFor effect ((stateful captured).map Prod.fst)
      ((stateful captured).map Prod.snd) previousLatch) }

variable {effect : RemoteInputEffect}

/-- The decision to send an event leaves a prepared core. -/
theorem prepareCaptured_remote (hs : c.Settled P)
    (h : c.prepareCaptured captured nowNs = (.ok (.remote effect), c')) :
    ∃ previousLatch c₁, Prepared P c captured previousLatch c₁ effect nowNs c' := by
  have has := prepareCaptured_as c captured nowNs
  rw [h] at has
  cases has with
  | recorded c₁ previousLatch _ _ htracked hrec has =>
    obtain ⟨hevent, -, -, horigin, hgrounds, hcore⟩ := has.spec
    have hrecorded := hs.recorded hrec
    exact ⟨previousLatch, c₁, hrecorded, .of_active hgrounds.active hrecorded.pendingRoutePolicy,
      htracked, hevent, horigin, hgrounds, hcore⟩

/-- The recorded core under another effect identifier. -/
theorem Recorded.withEffectId (h : Recorded P c captured previousLatch c₁) (id : ℕ) :
    Recorded P c captured previousLatch { c₁ with nextEffectId := id, pendingRemote := none } :=
  { h with ledger := h.ledger.congr rfl rfl rfl rfl, pendingRemote := rfl }

variable (h : Prepared P c captured previousLatch c₁ effect nowNs c')

include h

theorem Prepared.previous :
    previousLatch = none ∨ ∃ r, previousLatch = some (.remote effect.endpoint r) := by
  rcases h.origin with ⟨hnone, -⟩ | hremote
  · exact Or.inl hnone
  · match previousLatch, hremote, h.grounds.latched with
    | some (.remote e r), _, hlatched => exact Or.inr ⟨r, by rw [hlatched e r rfl]⟩

/-- A repeat or a release is sent only for a remote latch. -/
theorem Prepared.continued (hc : continues ((stateful captured).map Prod.snd) = true) :
    ∃ r, previousLatch = some (.remote effect.endpoint r) := by
  refine h.previous.resolve_left fun hnone => ?_
  rcases h.origin with ⟨-, hfalse⟩ | hremote
  · exact absurd (hfalse.symm.trans hc) Bool.false_ne_true
  · rw [hnone] at hremote
    cases hremote

theorem Prepared.take : c'.takeMatchingRemote effect.decisionId nowNs
      = (.ok (pendingFor effect ((stateful captured).map Prod.fst)
          ((stateful captured).map Prod.snd) previousLatch),
        { c₁ with nextEffectId := c₁.nextEffectId + 1, pendingRemote := none }) := by
  rw [h.core, takeMatchingRemote]
  exact if_pos rfl

/-- A confirmed decision never fails, and the ledger follows the event. -/
theorem Prepared.confirmed (sequence : ℕ) (hP : ∀ k, stateful captured = some (k, .press) →
      P ⟨effect.endpoint, captured.event.sourceDevice, k⟩) :
    ∃ c'', c'.confirmRemoteInput effect sequence nowNs = (.ok .remoteQueued, c'')
      ∧ Confirmed P c effect.endpoint captured c'' := by
  have hrec := h.recorded.withEffectId (c₁.nextEffectId + 1)
  have hopen : Open { c₁ with nextEffectId := c₁.nextEffectId + 1, pendingRemote := none } :=
    { h.gate with }
  have hroom := h.grounds.room
  have hprevious := h.previous
  have hcontinued := h.continued
  rw [confirmRemoteInput, h.take]
  simp only [confirmTaken, pendingFor, h.event]
  match hst : stateful captured with
  | none =>
    exact ⟨_, rfl, hrec.confirm_kept hopen (fun _ => rfl)
      fun k t hkt => by cases hst.symm.trans hkt⟩
  | some (k, .press) =>
    simp only [Option.map_some]
    rw [if_neg, ← h.event]
    · exact ⟨_, rfl, h.event ▸ hrec.confirm_press hopen hst hprevious (hP k hst)⟩
    · rw [Bool.and_eq_true, Bool.not_eq_true', decide_eq_true_eq]
      rintro ⟨hnot, hfull⟩
      rcases hprevious with rfl | ⟨r, rfl⟩
      · rw [hst] at hroom
        exact absurd hfull (not_le.mpr (hroom rfl rfl rfl))
      · have hheld := h.recorded.previousHeld k .press effect.endpoint r hst rfl
        rw [← h.recorded.remoteHeld] at hheld
        exact absurd (hnot.symm.trans hheld) Bool.false_ne_true
  | some (k, .repeat) =>
    simp only [Option.map_some]
    rw [hst] at hcontinued
    obtain ⟨r, rfl⟩ := hcontinued rfl
    have hheld := h.recorded.previousHeld k .repeat effect.endpoint r hst rfl
    rw [← h.recorded.remoteHeld] at hheld
    rw [if_pos hheld]
    exact ⟨_, rfl, hrec.confirm_kept hopen (contains_modify _ _ · _)
      fun k t hkt => by cases hst.symm.trans hkt; rfl⟩
  | some (k, .release) =>
    rw [hst] at hcontinued
    exact ⟨_, rfl, hrec.confirm_release hopen hst (hcontinued rfl)⟩

/-- A failed decision settles the core with its ledger as it was. -/
theorem Prepared.failed : SettledAs P c (c'.failRemoteInput effect nowNs).2 := by
  have hrec := h.recorded.withEffectId (c₁.nextEffectId + 1)
  rw [failRemoteInput, h.take]
  simp only [failTaken, pendingFor, h.event]
  refine hrec.settledAs ?_
  split
  · next hpress hcontrol =>
    refine (LedgerOp.recovers_of_unready ?_ (failClosed_unready _ nowNs))
    refine .trans (setLatch_ledgerOp ?_ rfl) (failClosed_ledgerOp _ nowNs)
    obtain ⟨⟨k', t⟩, hst, rfl⟩ := Option.map_eq_some_iff.mp hcontrol
    rw [hst] at hpress
    cases hpress
    exact Or.inr (hrec.latch k' .press hst)
  · exact failClosed_recovers _ nowNs

end Captured

end DaemonCore

end SoftwareKvm
