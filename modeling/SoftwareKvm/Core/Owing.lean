import SoftwareKvm.Core.Settled
import SoftwareKvm.Core.StuckControl

/-!
# Releases that the core owes

A key of `remote_held` is owed its release: by its remote latch, which sends the
physical release on, or by the queue of cleanup releases. `Tends` steps lose
neither. Every operation does so while capture stays armed and its session
connected; the emergency, the loss of the transport and the steps of the
cleanup loop are left to their callers.

Results:
* `CoreOp.tends`: the administrative operations.
* `prepareCaptured_owes`: an event that is not sent.
* `confirmRemoteInput_owes`: an event that is sent.
* `captureStep_others`: which latches an event moves.
-/

namespace SoftwareKvm

open Lib

namespace DaemonCore

variable {c c' c'' : DaemonCore} {nowNs : ℕ}

/-- Every queued release lifts its control. -/
def Lifts (c : DaemonCore) : Prop :=
  ∀ entry ∈ c.cleanup, entry.release.payload = entry.control.releasePayload

/-- A core between two calls: no decision is pending and no release in flight, queued releases lift
    their controls, and while the failsafe drains everything held is queued. -/
structure Idle (c : DaemonCore) : Prop where
  pendingRemote : c.pendingRemote = none
  inFlight : c.cleanupInFlight = none
  releases : c.Lifts
  drained : c.drainFailsafeKeys = true →
    ∀ key, c.remoteHeld.contains key = true → key ∈ c.queuedKeys

/-- The key is held, and latched remotely or queued for release. -/
structure Owes (c : DaemonCore) (key : HeldKey) : Prop where
  held : c.remoteHeld.contains key = true
  source : (∃ r, c.latch? key.device key.control = some (.remote key.endpoint r))
    ∨ key ∈ c.queuedKeys

/-- A step that leaves the core idle and loses no release. -/
structure Tends (c c' : DaemonCore) : Prop where
  idle : c.Idle → c'.Idle
  owes : ∀ key, c.Owes key → c'.Owes key
  queued : ∀ key ∈ c.queuedKeys, key ∈ c'.queuedKeys

theorem Tends.refl (c : DaemonCore) : Tends c c := ⟨id, fun _ h => h, fun _ h => h⟩

theorem Tends.trans (h : Tends c c') (h' : Tends c' c'') : Tends c c'' where
  idle hc := h'.idle (h.idle hc)
  owes key hkey := h'.owes key (h.owes key hkey)
  queued key hkey := h'.queued key (h.queued key hkey)

/-- Held keys and the queue stay; a remote latch keeps its endpoint. -/
theorem Tends.of_latches (hheld : ∀ key, c'.remoteHeld.contains key = c.remoteHeld.contains key)
    (hcleanup : c'.cleanup = c.cleanup) (hlatch : ∀ key r, c.remoteHeld.contains key = true →
      c.latch? key.device key.control = some (.remote key.endpoint r) →
      ∃ r', c'.latch? key.device key.control = some (.remote key.endpoint r'))
    (hflight : c'.cleanupInFlight = c.cleanupInFlight)
    (hpending : c'.pendingRemote = c.pendingRemote)
    (hdrain : c'.drainFailsafeKeys = true → c.drainFailsafeKeys = true) : Tends c c' where
  idle h :=
    { pendingRemote := hpending.trans h.pendingRemote
      inFlight := hflight.trans h.inFlight
      releases := by rw [Lifts, hcleanup]; exact h.releases
      drained := fun hd key hkey => by
        rw [queuedKeys, hcleanup]
        exact h.drained (hdrain hd) key ((hheld key).symm.trans hkey) }
  owes key h := by
    refine ⟨(hheld key).trans h.held, ?_⟩
    rcases h.source with ⟨r, hl⟩ | hq
    · exact .inl (hlatch key r h.held hl)
    · exact .inr (by rw [queuedKeys, hcleanup]; exact hq)
  queued key hkey := by rw [queuedKeys, hcleanup]; exact hkey

/-- Assignments to other fields. -/
theorem Tends.of_fields (hphysical : c'.physicalControls = c.physicalControls)
    (hheld : c'.remoteHeld = c.remoteHeld) (hcleanup : c'.cleanup = c.cleanup)
    (hflight : c'.cleanupInFlight = c.cleanupInFlight)
    (hpending : c'.pendingRemote = c.pendingRemote)
    (hdrain : c'.drainFailsafeKeys = true → c.drainFailsafeKeys = true) : Tends c c' :=
  .of_latches (fun key => by rw [hheld]) hcleanup
    (fun key r _ hl => ⟨r, (latch?_congr hphysical _ _).trans hl⟩) hflight hpending hdrain

theorem publish_tends (c : DaemonCore) (nowNs : ℕ) : Tends c (c.publish nowNs) :=
  .of_fields rfl rfl rfl rfl rfl id

/-! ## Queueing releases -/

theorem pushCleanup_lifts (x : CleanupCandidate) (h : c.Lifts) : (c.pushCleanup x).Lifts := by
  obtain ⟨controls, heq⟩ := pushCleanup_eq c x
  intro entry hmem
  rw [heq] at hmem
  rcases List.mem_append.mp hmem with hmem | hmem
  · exact h entry hmem
  · rw [List.mem_singleton.mp hmem]
    rfl

theorem pushCleanup_owes {x : CleanupCandidate} {key : HeldKey} (h : c.Owes key) :
    (c.pushCleanup x).Owes key := by
  refine ⟨?_, ?_⟩
  · rw [pushCleanup_remoteHeld]
    exact h.held
  rw [pushCleanup_queuedKeys, List.mem_append, List.mem_singleton]
  by_cases hx : key = x.1
  · exact .inr (.inr hx)
  rcases h.source with ⟨r, hl⟩ | hq
  · exact .inl ⟨r, latch?_pushCleanup.mpr ⟨hl, hx⟩⟩
  · exact .inr (.inl hq)

/-- What a cleanup keeps, whether it fits or not. -/
theorem queueRemoteCleanup_keeps (c : DaemonCore) (affected : HeldFilter) :
    (c.Lifts → (c.queueRemoteCleanup affected).2.Lifts)
      ∧ (∀ key, c.Owes key → (c.queueRemoteCleanup affected).2.Owes key)
      ∧ ∀ key ∈ c.queuedKeys, key ∈ (c.queueRemoteCleanup affected).2.queuedKeys := by
  refine queueRemoteCleanup_induction (P := fun c' => (c.Lifts → c'.Lifts)
    ∧ (∀ key, c.Owes key → c'.Owes key) ∧ ∀ key ∈ c.queuedKeys, key ∈ c'.queuedKeys) ?_ affected
    ⟨id, fun _ => id, fun _ => id⟩
  rintro c' x - - ⟨hlifts, howes, hqueued⟩
  refine ⟨fun h => pushCleanup_lifts x (hlifts h), fun key h => pushCleanup_owes (howes key h),
    fun key hkey => ?_⟩
  rw [pushCleanup_queuedKeys]
  exact List.mem_append_left _ (hqueued key hkey)

theorem queueRemoteCleanup_tends (c : DaemonCore) (affected : HeldFilter) :
    Tends c (c.queueRemoteCleanup affected).2 := by
  obtain ⟨hlifts, howes, hqueued⟩ := queueRemoteCleanup_keeps c affected
  obtain ⟨queue, next, controls, heq⟩ := queueRemoteCleanup_eq c affected
  refine ⟨fun h => ⟨?_, ?_, hlifts h.releases, fun hdrain key hkey => ?_⟩, howes, hqueued⟩
  · rw [heq]
    exact h.pendingRemote
  · rw [heq]
    exact h.inFlight
  · rw [heq] at hdrain hkey
    exact hqueued key (h.drained hdrain key hkey)

/-- A full cleanup that fits leaves everything held queued. -/
theorem queueRemoteCleanup_allHeld {u : Unit} (h : c.queueRemoteCleanup allHeld = (.ok u, c')) :
    ∀ key, c.remoteHeld.contains key = true → key ∈ c'.queuedKeys := by
  intro key hkey
  obtain ⟨held, hget⟩ := Option.isSome_iff_exists.mp hkey
  exact queueRemoteCleanup_queued h hget rfl

theorem failClosed_allHeld {u : Unit} (h : c.failClosed nowNs = (.ok u, c')) :
    ∀ key, c.remoteHeld.contains key = true → key ∈ c'.queuedKeys := by
  unfold failClosed at h
  generalize hqueue : c.closeGate.queueRemoteCleanup allHeld = r at h
  obtain ⟨result, c₁⟩ := r
  obtain ⟨rfl, rfl⟩ := Prod.mk.inj h
  have hall := queueRemoteCleanup_allHeld hqueue
  exact hall

/-- An activated failsafe queues everything held. -/
theorem activateFailsafe_tends {u : Unit}
    (h : activateFailsafe { c with drainFailsafeKeys := true } nowNs = (.ok u, c')) :
    Tends c c' ∧ ∀ key, c.remoteHeld.contains key = true → key ∈ c'.queuedKeys := by
  unfold activateFailsafe at h
  generalize hqueue : (suspendRouting { c with drainFailsafeKeys := true } nowNs).queueRemoteCleanup
    allHeld = r at h
  obtain ⟨_ | _, c₁⟩ := r
  · cases h
  obtain rfl := (Prod.mk.inj h).2
  have hall := queueRemoteCleanup_allHeld hqueue
  obtain ⟨hlifts, howes, hqueued⟩ := queueRemoteCleanup_keeps
    (suspendRouting { c with drainFailsafeKeys := true } nowNs) allHeld
  obtain ⟨queue, next, controls, heq⟩ := queueRemoteCleanup_eq
    (suspendRouting { c with drainFailsafeKeys := true } nowNs) allHeld
  rw [hqueue] at hlifts howes hqueued heq
  simp only at heq
  refine ⟨⟨fun hi => ⟨?_, ?_, hlifts hi.releases, fun _ key hkey => ?_⟩, fun key hkey => ?_,
    hqueued⟩, hall⟩
  · exact (congrArg DaemonCore.pendingRemote heq).trans hi.pendingRemote
  · exact (congrArg DaemonCore.cleanupInFlight heq).trans hi.inFlight
  · have hheld : c₁.remoteHeld = c.remoteHeld := by rw [heq]; rfl
    exact hall key (hheld ▸ hkey)
  · exact (publish_tends c₁ nowNs).owes key (howes key ⟨hkey.held, hkey.source⟩)

end DaemonCore

/-! ## Sending queued releases -/

namespace DaemonCore

variable {c : DaemonCore} {entry : CleanupEntry} {rest : List CleanupEntry}
  {effect : CleanupReleaseEffect} {key : HeldKey}

section

variable (hflight : c.cleanupInFlight = some effect.cleanupId)
  (hqueue : c.cleanup = entry :: rest) (hid : entry.id = effect.cleanupId)

include hflight hqueue hid

theorem cleanupIsCurrent_head : c.cleanupIsCurrent effect = true := by
  simp [cleanupIsCurrent, hflight, hqueue, hid]

end

theorem Idle.dropHead (h : c.Idle) (hqueue : c.cleanup = entry :: rest) :
    Idle { c with
      cleanup := rest, cleanupInFlight := none
      remoteHeld := c.remoteHeld.erase entry.heldKey } where
  pendingRemote := h.pendingRemote
  inFlight := rfl
  releases e he := h.releases e (by rw [hqueue]; exact List.mem_cons_of_mem _ he)
  drained hdrain key hkey := by
    obtain ⟨hne, hheld⟩ := OrdMap.contains_erase.mp hkey
    have hmem := h.drained hdrain key hheld
    rw [queuedKeys, hqueue, List.map_cons] at hmem
    exact (List.mem_cons.mp hmem).resolve_left hne

theorem Owes.dropHead (h : c.Owes key) (hqueue : c.cleanup = entry :: rest)
    (hne : key ≠ entry.heldKey) :
    Owes { c with
      cleanup := rest, cleanupInFlight := none
      remoteHeld := c.remoteHeld.erase entry.heldKey } key := by
  refine ⟨OrdMap.contains_erase.mpr ⟨hne, h.held⟩, h.source.imp_right fun hq => ?_⟩
  rw [queuedKeys, hqueue, List.map_cons] at hq
  exact (List.mem_cons.mp hq).resolve_left hne

end DaemonCore

/-! ## Administrative operations -/

/-- An operation of another holder while capture stays armed and the session
    connected. The cleanup loop is not one of them, it sends what it takes. -/
def CoreOp.whileArmed : CoreOp → Bool
  | .triggerEmergency _ | .confirmTransportInvalidated _ _ | .takeNextCleanupRelease
  | .confirmCleanupRelease _ _ | .retryCleanupRelease _ _ => false
  | _ => true

open DaemonCore

theorem CoreOp.Edit.tends {op : CoreOp} {c c' : DaemonCore} (he : op.Edit c c')
    (harmed : op.whileArmed = true) : Tends c c' := by
  cases he with
  | queue affected => exact queueRemoteCleanup_tends c affected
  | take _ _ hop | retry _ _ hop | confirm _ _ _ _ _ hop | invalidate _ _ hop | suspend _ hop =>
    rw [hop] at harmed
    cases harmed
  | forget device now hop hfree =>
    refine .of_latches (fun _ => rfl) rfl (fun key r hheld hl => ⟨r, ?_⟩) rfl rfl id
    simp only [latch?, OrdMap.get?_erase, if_neg (hfree key hheld)]
    exact hl
  | commit pending hop hpending =>
    refine .of_latches (fun key => ?_) rfl (fun key r _ hl => ?_) rfl rfl id
    · change (OrdMap.mapVals _ _).contains key = _
      rw [OrdMap.contains, OrdMap.get?_mapVals, Option.isSome_map]
      rfl
    · refine ⟨pending.routing.routeFor key.device, ?_⟩
      change (mapLatches _ _).latch? _ _ = _
      rw [latch?_mapLatches]
      change (c.latch? _ _).map _ = _
      rw [hl]
      rfl
  | drain _ _ _ => exact .of_fields rfl rfl rfl rfl rfl (absurd · Bool.false_ne_true)
  | _ => exact .of_fields rfl rfl rfl rfl rfl id

theorem CoreOp.tends {op : CoreOp} (harmed : op.whileArmed = true) (c : DaemonCore) :
    Tends c (op.apply c) :=
  (op.edits c).invariant (fun _ _ he h => h.trans (he.tends harmed)) (Tends.refl c)

/-! ## Captured events -/

/-- The decision presses or releases the control of the key. -/
def PendingRemoteDecision.Moves (pending : PendingRemoteDecision) (key : HeldKey) : Prop :=
  pending.control = some key.control ∧ pending.device = key.device
    ∧ (pending.transition = some .press ∨ pending.transition = some .release)

/-- The decision keeps the event: it is neither sent nor reported as a fault. -/
def CaptureDecision.keepsEvent : CaptureDecision → Bool
  | .local _ | .inert _ => true
  | .remote _ | .fault _ _ => false

/-- The event makes a transition of a control of a device. -/
def CapturedInput.Makes (captured : CapturedInput) (transition : PhysicalTransition)
    (device : DeviceId) (control : PhysicalControl) : Prop :=
  captured.event.sourceDevice = device
    ∧ PhysicalControl.fromPayload captured.event.payload = some (control, transition)

namespace DaemonCore

variable {c c₁ c' : DaemonCore} {event : InputEvent} {control : Option PhysicalControl}
  {transition : Option PhysicalTransition} {previousLatch : Option LatchedDestination}
  {nowNs : ℕ} {key : HeldKey}

variable {device : DeviceId} {stateful : Option ControlTransition}
  {decision : CaptureDecision} {captured : CapturedInput}

/-- Recording a transition touches only the latch of its control, and that only for a
    release and for the press of a control without one. -/
theorem recordTransition_keeps {device' : DeviceId} {k : PhysicalControl}
    (h : c.recordTransition device stateful nowNs = (.ok previousLatch, c₁))
    (hrelease : stateful = some (k, .release) → device ≠ device')
    (hpress : stateful = some (k, .press) → device = device' → c.latch? device' k ≠ none) :
    c₁.latch? device' k = c.latch? device' k := by
  cases stateful with
  | none =>
    cases h
    rfl
  | some kt =>
    obtain ⟨k', t⟩ := kt
    rw [recordTransition_latch h]
    split_ifs with hdk
    · obtain ⟨rfl, rfl⟩ := hdk
      rw [(recordTransition_ok h).2.1, Option.bind_some]
      cases t with
      | press =>
        cases hlatch : c.latch? device' k with
        | none => exact absurd hlatch (hpress rfl rfl)
        | some latch => rfl
      | «repeat» => rfl
      | release => exact absurd rfl (hrelease rfl)
    · rfl

/-- A transition takes away no release but the one that it makes. -/
theorem recordTransition_owes
    (h : c.recordTransition device stateful nowNs = (.ok previousLatch, c₁)) (hkey : c.Owes key)
    (hother : stateful = some (key.control, .release) → device ≠ key.device) : c₁.Owes key := by
  obtain ⟨⟨controls, count, heq⟩, -, -⟩ := recordTransition_ok h
  refine ⟨by rw [heq]; exact hkey.held, ?_⟩
  rcases hkey.source with ⟨r, hl⟩ | hq
  · refine .inl ⟨r, (recordTransition_keeps h hother fun _ _ => ?_).trans hl⟩
    rw [hl]
    exact Option.some_ne_none _
  · exact .inr (by rw [heq]; exact hq)

theorem recordTransition_idle
    (h : c.recordTransition device stateful nowNs = (.ok previousLatch, c₁)) (hidle : c.Idle) :
    c₁.Idle := by
  obtain ⟨⟨controls, count, rfl⟩, -, -⟩ := recordTransition_ok h
  exact { hidle with }

/-- An event that is not sent loses no release. -/
theorem RecordedAs.tends
    (h : RecordedAs c event control transition previousLatch nowNs (.ok decision, c'))
    (hdecision : decision.keepsEvent = true)
    (hfresh : previousLatch = none → LocalOrNone (control.bind (c.latch? event.sourceDevice))) :
    Tends c c' := by
  cases h with
  | passes | inert | barred => exact .refl c
  | closed =>
    have hgate : Tends c c.closeGate := .of_fields rfl rfl rfl rfl rfl id
    exact (hgate.trans (queueRemoteCleanup_tends c.closeGate allHeld)).trans (publish_tends _ nowNs)
  | activated _ hanswer =>
    rcases hanswer with ⟨-, hok⟩ | ⟨e, rfl⟩
    · exact (activateFailsafe_tends (Prod.ext hok rfl)).1
    · cases hdecision
  | draining =>
    refine Tends.trans ?_ (publish_tends _ nowNs)
    split
    · exact .refl c
    · exact .of_fields rfl rfl rfl rfl rfl fun h => nomatch h
  | quarantined k hk _ hnone =>
    refine .of_latches (fun _ => rfl) rfl (fun key r _ hl => ⟨r, ?_⟩) rfl rfl id
    rw [latch?_setLatch, if_neg, hl]
    rintro ⟨hd, hc⟩
    have hlocal := hfresh hnone
    rw [hk, Option.bind_some, ← hd, ← hc, hl] at hlocal
    exact not_localOrNone_remote _ _ hlocal
  | remote => cases hdecision

/-- The release of a remote latch that is not sent leaves everything held queued. -/
theorem RecordedAs.queued
    (h : RecordedAs c event control transition previousLatch nowNs (.ok decision, c'))
    (hdecision : decision.keepsEvent = true) (hremote : isRemoteLatch previousLatch = true)
    (hidle : c.Idle) (hheld : c.remoteHeld.contains key = true) : key ∈ c'.queuedKeys := by
  cases h with
  | passes _ hlatch => exact absurd hlatch (not_localOrNone_of_isRemoteLatch hremote)
  | inert hlatch | barred hlatch | quarantined _ _ _ hlatch =>
    rw [hlatch] at hremote
    cases hremote
  | closed _ hrefusal =>
    cases hrefusal with
    | fault => cases hdecision
    | unavailable _ hok => exact failClosed_allHeld (Prod.ext hok rfl) key hheld
  | activated _ hanswer =>
    rcases hanswer with ⟨-, hok⟩ | ⟨e, rfl⟩
    · exact (activateFailsafe_tends (Prod.ext hok rfl)).2 key hheld
    · cases hdecision
  | draining hdrain =>
    have hqueued := hidle.drained hdrain key hheld
    split <;> exact hqueued
  | remote => cases hdecision

/-- While the failsafe does not drain, only the queue matters. -/
theorem Idle.of_queue (h : c.Idle) (hdrain : c'.drainFailsafeKeys = false)
    (hpending : c'.pendingRemote = none) (hflight : c'.cleanupInFlight = c.cleanupInFlight)
    (hqueue : c'.cleanup = c.cleanup) : c'.Idle where
  pendingRemote := hpending
  inFlight := hflight.trans h.inFlight
  releases := by rw [Lifts, hqueue]; exact h.releases
  drained hdrain' := by rw [hdrain] at hdrain'; cases hdrain'

/-- A confirmed event loses no release but that of the control that it moves,
    and a confirmed press is owed its own. -/
theorem confirmTaken_owes {pending : PendingRemoteDecision} {sequence : ℕ}
    {outcome : CaptureOutcome} (h : c.confirmTaken pending sequence nowNs = (.ok outcome, c'))
    (hidle : c.Idle) (hdrain : c.drainFailsafeKeys = false) :
    c'.Idle ∧ (∀ key, c.Owes key → ¬ pending.Moves key → c'.Owes key)
      ∧ ∀ k, pending.control = some k → pending.transition = some .press →
        (c.latch? pending.device k).isSome = true → c'.Owes (pending.heldKey k) := by
  have hspec := confirmTaken_spec c pending sequence nowNs
  rw [h] at hspec
  generalize hanswer : ((.ok outcome : Except CoreCaptureError CaptureOutcome), c') = answer
    at hspec
  cases hspec with
  | full | stale => cases hanswer
  | press k hk ht hroom =>
    cases hanswer
    refine ⟨hidle.of_queue hdrain hidle.pendingRemote rfl rfl, fun key hkey hmoves => ?_,
      fun k' hk' _ hlatch => ?_⟩
    · refine ⟨OrdMap.contains_insert.mpr (.inr hkey.held), ?_⟩
      rcases hkey.source with ⟨r, hl⟩ | hq
      · refine .inl ⟨r, ?_⟩
        change (setLatch _ _ _ _).latch? _ _ = _
        rw [latch?_setLatch, if_neg]
        · exact hl
        · rintro ⟨hd, hc⟩
          exact hmoves ⟨by rw [hk, hc], hd.symm, .inl ht⟩
      · exact .inr hq
    · obtain rfl := Option.some.inj (hk.symm.trans hk')
      refine ⟨OrdMap.contains_insert.mpr (.inl rfl), .inl ⟨c.confirmedRoute pending, ?_⟩⟩
      change (setLatch _ _ _ _).latch? pending.device k = some (.remote pending.endpoint _)
      rw [latch?_setLatch, if_pos ⟨rfl, rfl⟩]
      obtain ⟨latch, hlatch⟩ := Option.isSome_iff_exists.mp hlatch
      change (c.latch? _ _).map _ = _
      rw [hlatch]
      rfl
  | release k hk ht =>
    cases hanswer
    refine ⟨hidle.of_queue hdrain hidle.pendingRemote rfl rfl,
      fun key hkey hmoves => ⟨?_, hkey.source⟩, fun k' hk' ht' => ?_⟩
    · refine OrdMap.contains_erase.mpr ⟨?_, hkey.held⟩
      rintro rfl
      exact hmoves ⟨hk, rfl, .inr ht⟩
    · rw [ht] at ht'
      cases ht'
  | repeated k hk ht hheld =>
    cases hanswer
    refine ⟨hidle.of_queue hdrain hidle.pendingRemote rfl rfl, fun key hkey _ => ⟨?_, hkey.source⟩,
      fun k' _ ht' => ?_⟩
    · exact (OrdMap.contains_modify ..).trans hkey.held
    · rw [ht] at ht'
      cases ht'
  | stateless hnone =>
    cases hanswer
    refine ⟨hidle.of_queue hdrain hidle.pendingRemote rfl rfl,
      fun key hkey _ => ⟨hkey.held, hkey.source⟩, fun k hk ht => ?_⟩
    rcases hnone with hnone | hnone
    · rw [hk] at hnone
      cases hnone
    · rw [ht] at hnone
      cases hnone

/-- An event that is not sent: the core stays idle, no release is lost, and the
    release of a key that is owed leaves it queued. -/
theorem prepareCaptured_owes (h : c.prepareCaptured captured nowNs = (.ok decision, c'))
    (hdecision : decision.keepsEvent = true) (hidle : c.Idle) :
    c'.Idle ∧ ∀ key, c.Owes key →
      ((c.tracksEvent captured = true → ¬ captured.Makes .release key.device key.control) →
        c'.Owes key)
      ∧ (c.tracksEvent captured = true → captured.Makes .release key.device key.control →
        key ∈ c'.queuedKeys) := by
  have has := prepareCaptured_as c captured nowNs
  rw [h] at has
  cases has with
  | untracked huntracked =>
    refine ⟨hidle, fun key hkey => ⟨fun _ => hkey, fun htracks => ?_⟩⟩
    rw [huntracked] at htracks
    cases htracks
  | recorded c₁ previousLatch _ _ htracks hrecord has =>
    obtain ⟨⟨controls, count, heq⟩, hprevious, hfresh⟩ := recordTransition_ok hrecord
    have hidle₁ := recordTransition_idle hrecord hidle
    have htends := has.tends hdecision hfresh
    refine ⟨htends.idle hidle₁, fun key hkey => ⟨fun hother => ?_, fun _ hmakes => ?_⟩⟩
    · refine htends.owes key (recordTransition_owes hrecord hkey fun hpayload hdevice => ?_)
      exact hother htracks ⟨hdevice, hpayload⟩
    · rcases hkey.source with ⟨route, hl⟩ | hq
      · rw [hmakes.2, Option.bind_some, hmakes.1, hl] at hprevious
        refine has.queued hdecision (by rw [hprevious]; rfl) hidle₁ ?_
        rw [heq]
        exact hkey.held
      · exact htends.queued key (by rw [heq]; exact hq)

/-- An event that is sent and confirmed: the core stays idle, no release is lost
    but that of the control that the event moves, and a press is owed its own. -/
theorem confirmRemoteInput_owes {effect : RemoteInputEffect}
    {sequence : ℕ} {outcome : CaptureOutcome} {core : DaemonCore}
    (h : c.prepareCaptured captured nowNs = (.ok (.remote effect), core))
    (hconfirm : core.confirmRemoteInput effect sequence nowNs = (.ok outcome, c'))
    (hidle : c.Idle) :
    c.tracksEvent captured = true ∧ effect.event = captured.event ∧ c'.Idle
      ∧ (∀ key, c.Owes key → ¬ captured.Makes .press key.device key.control →
        ¬ captured.Makes .release key.device key.control → c'.Owes key)
      ∧ ∀ device control, captured.Makes .press device control →
        c'.Owes ⟨effect.endpoint, device, control⟩ := by
  have has := prepareCaptured_as c captured nowNs
  rw [h] at has
  cases has with | recorded c₁ previousLatch _ _ htracks hrecord has
  have hidle₁ := recordTransition_idle hrecord hidle
  obtain ⟨hevent, -, -, -, hgrounds, rfl⟩ := has.spec
  have hdrain : c₁.drainFailsafeKeys = false := by
    have hactive := hgrounds.active
    simp only [routingShouldBeActive, Bool.and_eq_true, Bool.not_eq_true'] at hactive
    exact hactive.1.1.1.2
  unfold confirmRemoteInput at hconfirm
  rw [takeMatchingRemote] at hconfirm
  simp only [pendingFor, if_true] at hconfirm
  obtain ⟨hidle', howes, hpress⟩ := confirmTaken_owes hconfirm
    (hidle₁.of_queue hdrain rfl rfl rfl) hdrain
  refine ⟨htracks, hevent, hidle', fun key hkey hnotPress hnotRelease => ?_,
    fun device control hmakes => ?_⟩
  · have hkey₁ := recordTransition_owes hrecord hkey fun hpayload hdevice =>
      hnotRelease ⟨hdevice, hpayload⟩
    refine howes key ⟨hkey₁.held, hkey₁.source⟩ ?_
    rintro ⟨hcontrol, hdevice, htransition⟩
    obtain ⟨⟨k, t⟩, hpayload, rfl⟩ := Option.map_eq_some_iff.mp hcontrol
    rw [hevent] at hdevice
    rw [hpayload] at htransition
    rcases htransition with ht | ht <;> obtain rfl := Option.some.inj ht
    · exact hnotPress ⟨hdevice, hpayload⟩
    · exact hnotRelease ⟨hdevice, hpayload⟩
  · have hlatch : (c₁.latch? device control).isSome = true := by
      rw [hmakes.1, hmakes.2] at hrecord
      rcases recordTransition_press hrecord with ⟨latch, hl, -, rfl⟩ | ⟨-, -, rfl, -⟩
      · rw [hl]
        rfl
      · simp [latch?_insertLatch]
    have hdevice : effect.event.sourceDevice = device := by rw [hevent]; exact hmakes.1
    have howed := hpress control (by rw [hmakes.2]; rfl) (by rw [hmakes.2]; rfl)
      (by rw [hdevice]; exact hlatch)
    rw [PendingRemoteDecision.heldKey, hdevice] at howed
    exact howed

/-! ## Latches -/

/-- The event moves the control: it is tracked and presses or releases it. -/
def Moves (c : DaemonCore) (captured : CapturedInput) (device : DeviceId)
    (control : PhysicalControl) : Prop :=
  c.tracksEvent captured = true
    ∧ (captured.Makes .press device control ∨ captured.Makes .release device control)

/-- An event moves only the latch of the control that it moves. -/
theorem captureStep_others {control : PhysicalControl} (hpending : c.pendingRemote = none)
    (hother : ¬ c.Moves captured device control) (nowNs : ℕ) (settlement : Settlement) :
    LatchStep (c.latch? device control)
      ((c.captureStep captured nowNs settlement).2.latch? device control) := by
  cases htracks : c.tracksEvent captured with
  | false =>
    rw [captureStep_untracked hpending htracks]
    exact .keep _
  | true =>
    cases hrecord : c.recordTransition captured.event.sourceDevice
        (PhysicalControl.fromPayload captured.event.payload) nowNs with
    | mk result c₁ =>
      cases result with
      | error error =>
        have hstep : c.captureStep captured nowNs settlement = (.allowLocal, c₁) := by
          simp [captureStep, prepareCaptured, hpending, htracks, hrecord, conclude]
        rw [hstep, (recordTransition_error hrecord).2.1]
        have hgate : Frame c c.activateLocal.unready := .of_fields rfl rfl rfl
        exact (hgate.trans (failClosed_frame _ nowNs)).latch device control
      | ok previousLatch =>
        obtain ⟨⟨controls, count, heq⟩, -, hfresh⟩ := recordTransition_ok hrecord
        have hsame : c₁.latch? device control = c.latch? device control :=
          recordTransition_keeps hrecord
            (fun hpayload hdevice => hother ⟨htracks, .inr ⟨hdevice, hpayload⟩⟩)
            fun hpayload hdevice => absurd ⟨htracks, .inl ⟨hdevice, hpayload⟩⟩ hother
        rw [captureStep_tracked hpending htracks rfl hrecord settlement, ← hsame]
        have hspec := prepareRecorded_spec c₁ captured.event
          ((PhysicalControl.fromPayload captured.event.payload).map Prod.fst)
          ((PhysicalControl.fromPayload captured.event.payload).map Prod.snd) previousLatch nowNs
          hfresh
        refine (conclude_frame hspec (by rw [heq]; exact hpending) settlement).latch
          device control ?_
        rintro ⟨hdevice, hcontrol, htransition⟩
        obtain ⟨⟨k, t⟩, hpayload, rfl⟩ := Option.map_eq_some_iff.mp hcontrol
        rw [hpayload] at htransition
        obtain rfl := Option.some.inj htransition
        exact hother ⟨htracks, .inl ⟨hdevice.symm, hpayload⟩⟩

end DaemonCore

end SoftwareKvm
