import SoftwareKvm.Core.Ledger

/-!
# The failsafe lockout

The emergency chord and `trigger_emergency` close routing for
`routing_suspend_seconds` and until every shortcut key is released. A `Quiet`
call leaves the suspension and the drain alone; only `tick`,
`prepare_captured` and `trigger_emergency` are not quiet.

Results:
* `CoreAction.failsafeStep`: what one call does to the suspension, the drain
  and the published snapshot.
* `failsafe_lockout`: after an activation nothing is sent and no snapshot is
  enabled until the suspension is over and the shortcut keys were seen released.
* `failsafe_lockout_shortened`: a second activation under a shorter
  `routing_suspend_seconds` ends the first lockout early.

**Deviation.** `activate_failsafe` overwrites `suspended_until_ns` instead of
taking the later of the two deadlines.
-/

namespace SoftwareKvm

open Lib

namespace DaemonCore

/-! ## Quiet calls -/

/-- A call at `nowNs` that leaves the suspension and the drain alone and
    enables the snapshot only when both are over. -/
structure Quiet (nowNs : ℕ) (c c' : DaemonCore) : Prop where
  suspended : c'.suspendedUntilNs = c.suspendedUntilNs
  drain : c'.drainFailsafeKeys = c.drainFailsafeKeys
  enabled : c'.snapshot.enabled = true → c.snapshot.enabled = true
    ∨ c.suspendedUntilNs ≤ nowNs ∧ c.drainFailsafeKeys = false

variable {nowNs : ℕ} {c c' c'' : DaemonCore}

theorem Quiet.of_fields (hs : c'.suspendedUntilNs = c.suspendedUntilNs)
    (hd : c'.drainFailsafeKeys = c.drainFailsafeKeys) (hp : c'.snapshot = c.snapshot) :
    Quiet nowNs c c' :=
  ⟨hs, hd, fun h => Or.inl (hp ▸ h)⟩

theorem Quiet.refl (nowNs : ℕ) (c : DaemonCore) : Quiet nowNs c c := .of_fields rfl rfl rfl

theorem Quiet.trans (h : Quiet nowNs c c') (h' : Quiet nowNs c' c'') : Quiet nowNs c c'' where
  suspended := h'.suspended.trans h.suspended
  drain := h'.drain.trans h.drain
  enabled hen := by
    rcases h'.enabled hen with hold | ⟨hs, hd⟩
    · exact h.enabled hold
    · exact Or.inr ⟨h.suspended ▸ hs, h.drain ▸ hd⟩

/-- A snapshot is enabled only after the suspension and the drain. -/
theorem routingShouldBeActive_open (h : c.routingShouldBeActive nowNs = true) :
    c.suspendedUntilNs ≤ nowNs ∧ c.drainFailsafeKeys = false := by
  simp only [routingShouldBeActive, Bool.and_eq_true, Bool.not_eq_true', decide_eq_true_eq] at h
  exact ⟨h.1.1.1.1.2, h.1.1.1.2⟩

theorem publish_quiet (nowNs : ℕ) (c : DaemonCore) : Quiet nowNs c (c.publish nowNs) :=
  ⟨rfl, rfl, fun h => Or.inr (routingShouldBeActive_open h)⟩

theorem Quiet.published (h : Quiet nowNs c c') : Quiet nowNs c (c'.publish nowNs) :=
  h.trans (publish_quiet nowNs c')

theorem queueRemoteCleanup_quiet (nowNs : ℕ) (c : DaemonCore) (affected : HeldFilter) :
    Quiet nowNs c (c.queueRemoteCleanup affected).2 := by
  obtain ⟨queue, next, controls, heq⟩ := queueRemoteCleanup_eq c affected
  rw [heq]
  exact .of_fields rfl rfl rfl

theorem Quiet.queued (h : Quiet nowNs c c') (affected : HeldFilter) :
    Quiet nowNs c ((c'.queueRemoteCleanup affected).2.publish nowNs) :=
  (h.trans (queueRemoteCleanup_quiet nowNs c' affected)).published

theorem failClosed_quiet (nowNs : ℕ) (c : DaemonCore) : Quiet nowNs c (c.failClosed nowNs).2 := by
  refine Quiet.queued ?_ allHeld
  exact .of_fields rfl rfl rfl

/-! ## What a call does to the failsafe -/

/-- The end of a suspension that starts at `nowNs`. -/
def suspensionEnd (c : DaemonCore) (nowNs : ℕ) : ℕ :=
  saturatingAdd nowNs (c.config.failsafe.routingSuspendSeconds * 1000000000)

/-- A call at `nowNs`: it may start a new suspension, it ends the drain only if it `observes` that
    no shortcut key is held, and it enables the snapshot only when both are over. -/
structure FailsafeStep (nowNs : ℕ) (observes : Bool) (c c' : DaemonCore) : Prop where
  suspended : c'.suspendedUntilNs = c.suspendedUntilNs
    ∨ c'.suspendedUntilNs = c.suspensionEnd nowNs
  drain : c.drainFailsafeKeys = true → observes = false → c'.drainFailsafeKeys = true
  enabled : c'.snapshot.enabled = true → c.snapshot.enabled = true
    ∨ c'.suspendedUntilNs ≤ nowNs ∧ c'.drainFailsafeKeys = false

theorem Quiet.failsafeStep (h : Quiet nowNs c c') (observes : Bool) :
    FailsafeStep nowNs observes c c' where
  suspended := Or.inl h.suspended
  drain hd _ := h.drain.trans hd
  enabled hen := by
    rw [h.suspended, h.drain]
    exact h.enabled hen

theorem FailsafeStep.quiet {observes : Bool} (h : FailsafeStep nowNs observes c c')
    (h' : Quiet nowNs c' c'') : FailsafeStep nowNs observes c c'' where
  suspended := by rw [h'.suspended]; exact h.suspended
  drain hd ho := h'.drain.trans (h.drain hd ho)
  enabled hen := by
    rw [h'.suspended, h'.drain]
    exact (h'.enabled hen).elim h.enabled Or.inr

variable (nowNs : ℕ)

/-- The activation: a new suspension, a new drain and a disabled snapshot. -/
theorem activateFailsafe_step (observes : Bool) (c : DaemonCore) :
    FailsafeStep nowNs observes c (activateFailsafe { c with drainFailsafeKeys := true } nowNs).2
      ∧ (activateFailsafe { c with drainFailsafeKeys := true } nowNs).2.suspendedUntilNs
        = c.suspensionEnd nowNs
      ∧ (activateFailsafe { c with drainFailsafeKeys := true } nowNs).2.drainFailsafeKeys = true
      ∧ (activateFailsafe { c with drainFailsafeKeys := true } nowNs).2.snapshot.enabled =
        false := by
  unfold activateFailsafe
  obtain ⟨queue, next, controls, heq⟩ :=
    queueRemoteCleanup_eq (suspendRouting { c with drainFailsafeKeys := true } nowNs) allHeld
  generalize queueRemoteCleanup (suspendRouting { c with drainFailsafeKeys := true } nowNs)
    allHeld = r at heq ⊢
  obtain ⟨queued, c'⟩ := r
  obtain rfl : c' = _ := heq
  have hclosed (c' : DaemonCore) (hd : c'.drainFailsafeKeys = true) :
      (c'.publish nowNs).snapshot.enabled = false := by
    simp [publish, routingShouldBeActive, hd]
  cases queued with
  | error e =>
    refine ⟨⟨Or.inr rfl, fun _ _ => rfl, fun hen => ?_⟩, rfl, rfl, hclosed _ rfl⟩
    rw [hclosed _ rfl] at hen
    cases hen
  | ok u =>
    refine ⟨⟨Or.inr rfl, fun _ _ => rfl, fun hen => ?_⟩, rfl, rfl, hclosed _ rfl⟩
    rw [hclosed _ rfl] at hen
    cases hen

/-! ### Captured events -/

variable (c : DaemonCore)

/-- A call of `prepare_captured` that looks at the shortcut keys and finds none held. -/
def captureObservesRelease (captured : CapturedInput) (nowNs : ℕ) : Bool :=
  c.pendingRemote.isNone && c.tracksEvent captured
    && match c.recordTransition captured.event.sourceDevice
        (PhysicalControl.fromPayload captured.event.payload) nowNs with
      | (.ok _, c₁) => !c₁.anyFailsafeKeyPressed
      | (.error _, _) => false

theorem RecordedAs.failsafeStep {event : InputEvent} {control : Option PhysicalControl}
    {transition : Option PhysicalTransition} {previousLatch : Option LatchedDestination}
    {r : CoreResult CaptureDecision}
    (h : RecordedAs c event control transition previousLatch nowNs r) :
    FailsafeStep nowNs (!c.anyFailsafeKeyPressed) c r.2 := by
  cases h with
  | passes | inert | barred => exact (Quiet.refl nowNs c).failsafeStep _
  | closed => exact (failClosed_quiet nowNs c).failsafeStep _
  | activated => exact (activateFailsafe_step nowNs _ c).1
  | draining =>
    -- the drain ends here only if no shortcut key is held any more
    split_ifs with hheld
    · exact (publish_quiet nowNs c).failsafeStep _
    · refine ⟨Or.inl rfl, fun _ ho => ?_, fun hen => Or.inr (routingShouldBeActive_open hen)⟩
      rw [Bool.not_eq_false'] at ho
      exact absurd ho hheld
  | quarantined | remote =>
    refine Quiet.failsafeStep ?_ _
    exact .of_fields rfl rfl rfl

theorem prepareCaptured_step (captured : CapturedInput) :
    FailsafeStep nowNs (c.captureObservesRelease captured nowNs) c
      (c.prepareCaptured captured nowNs).2 := by
  unfold captureObservesRelease
  have has := prepareCaptured_as c captured nowNs
  generalize c.prepareCaptured captured nowNs = r at has ⊢
  cases has with
  | busy | untracked => exact (Quiet.refl nowNs c).failsafeStep _
  | refused e c' _ _ hrecord =>
    obtain ⟨-, rfl, -⟩ := recordTransition_error hrecord
    refine (Quiet.trans ?_ (failClosed_quiet nowNs _)).failsafeStep _
    exact .of_fields rfl rfl rfl
  | recorded c₁ previousLatch _ hnone htracks hrecord has =>
    obtain ⟨⟨controls, count, rfl⟩, -, -⟩ := recordTransition_ok hrecord
    rw [hnone, htracks, hrecord]
    exact { has.failsafeStep with }

theorem quiet_settling : Settling (Quiet nowNs) nowNs where
  trans := .trans
  gate _ := .of_fields rfl rfl rfl
  publish := publish_quiet nowNs
  take _ _ := .of_fields rfl rfl rfl
  latch _ _ _ _ := .of_fields rfl rfl rfl
  close := failClosed_quiet nowNs

/-! ### All calls -/

theorem tick_step : FailsafeStep nowNs (!c.anyFailsafeKeyPressed) c (c.tick nowNs).2 := by
  unfold tick
  by_cases hend : (c.drainFailsafeKeys && !c.anyFailsafeKeyPressed) = true
  · rw [Bool.and_eq_true] at hend
    simp only [hend, Bool.and_self, if_true]
    split_ifs with hsame
    · refine ⟨Or.inl rfl, fun _ ho => (nomatch ho), fun hen => Or.inr ?_⟩
      exact routingShouldBeActive_open (hsame.symm.trans hen)
    · refine ⟨Or.inl rfl, fun _ ho => (nomatch ho), fun hen => Or.inr ?_⟩
      exact routingShouldBeActive_open hen
  · rw [if_neg hend]
    simp only
    split_ifs
    · exact (Quiet.refl nowNs c).failsafeStep _
    · exact (publish_quiet nowNs c).failsafeStep _

end DaemonCore

open DaemonCore

/-- A call that looks at the shortcut keys and finds none held. -/
def CoreAction.observesRelease (c : DaemonCore) : CoreAction → Bool
  | .prepare captured now | .process captured now => c.captureObservesRelease captured now
  | .op (.tick _) => !c.anyFailsafeKeyPressed
  | _ => false

/-- The administrative operations besides `tick` and `trigger_emergency` are quiet. -/
theorem CoreOp.quiet (c : DaemonCore) (op : CoreOp) (htick : ∀ now, op ≠ .tick now)
    (htrigger : ∀ now, op ≠ .triggerEmergency now) (nowNs : ℕ)
    (hnow : ∀ now ∈ op.nowNs?, now = nowNs) : Quiet nowNs c (op.apply c) := by
  refine Edits.invariant (P := Quiet nowNs c) (fun c₁ c₂ hedit hq => hq.trans ?_) (op.edits c)
    (.refl nowNs c)
  cases hedit with
  | publish now hop =>
    obtain rfl := hnow now hop
    exact publish_quiet now c₁
  | queue affected => exact queueRemoteCleanup_quiet nowNs c₁ affected
  | suspend now hop => exact absurd hop (htrigger now)
  | drain now hop => exact absurd hop (htick now)
  | _ => exact .of_fields rfl rfl rfl

/-- What one call does to the suspension, the drain and the snapshot. -/
theorem CoreAction.failsafeStep (c : DaemonCore) (a : CoreAction) (nowNs : ℕ)
    (hnow : ∀ now ∈ a.nowNs?, now = nowNs) :
    FailsafeStep nowNs (a.observesRelease c) c (a.apply c) := by
  cases a with
  | prepare captured now =>
    obtain rfl := hnow now rfl
    exact prepareCaptured_step now c captured
  | confirm effect sequence now =>
    obtain rfl := hnow now rfl
    exact ((quiet_settling now).confirmRemoteInput c effect sequence).failsafeStep _
  | fail effect now =>
    obtain rfl := hnow now rfl
    exact ((quiet_settling now).failRemoteInput c effect).failsafeStep _
  | process captured now =>
    obtain rfl := hnow now rfl
    have hstep := prepareCaptured_step now c captured
    show FailsafeStep now (c.captureObservesRelease captured now) c
      (c.processCaptured captured now).2
    rcases processCaptured_eq c captured now with ⟨effect, c', hprepare, heq⟩ | ⟨-, heq⟩
    · rw [hprepare] at hstep
      rw [heq]
      exact hstep.quiet ((quiet_settling now).failRemoteInput c' effect)
    · rw [heq]
      exact hstep
  | op request =>
    by_cases htick : ∃ now, request = .tick now
    · obtain ⟨now, rfl⟩ := htick
      obtain rfl := hnow now rfl
      exact tick_step now c
    by_cases htrigger : ∃ now, request = .triggerEmergency now
    · obtain ⟨now, rfl⟩ := htrigger
      obtain rfl := hnow now rfl
      show FailsafeStep now false c (c.triggerEmergency now).2
      fun_cases DaemonCore.triggerEmergency c now
      · exact (Quiet.refl now c).failsafeStep _
      · exact (activateFailsafe_step now false c).1
    exact (CoreOp.quiet c request (fun now h => htick ⟨now, h⟩)
      (fun now h => htrigger ⟨now, h⟩) nowNs hnow).failsafeStep _

/-! ## Activations -/

namespace DaemonCore

variable {nowNs : ℕ} {c : DaemonCore}

/-- Only the chord reports an activation, and it runs `activate_failsafe` on the
    core with the transition recorded. -/
theorem prepareCaptured_activates {captured : CapturedInput}
    (h : reportsFailsafe (c.prepareCaptured captured nowNs).1 = true) :
    ∃ controls count, (c.prepareCaptured captured nowNs).2 = (activateFailsafe
      { c with physicalControls := controls, physicalControlCount := count,
               drainFailsafeKeys := true } nowNs).2 := by
  have has := prepareCaptured_as c captured nowNs
  generalize c.prepareCaptured captured nowNs = r at has h ⊢
  cases has with
  | busy | untracked | refused => cases h
  | recorded c₁ previousLatch _ _ _ hrecord has =>
    obtain ⟨⟨controls, count, rfl⟩, -, -⟩ := recordTransition_ok hrecord
    cases has with
    | activated => exact ⟨controls, count, rfl⟩
    | closed _ hrefusal =>
      rw [hrefusal.quiet] at h
      cases h
    | passes | inert | barred | draining | quarantined | remote => cases h

theorem activateFailsafe_config (c : DaemonCore) (nowNs : ℕ) :
    (c.activateFailsafe nowNs).2.config = c.config := by
  obtain ⟨queue, next, controls, heq⟩ := queueRemoteCleanup_eq (c.suspendRouting nowNs) allHeld
  unfold activateFailsafe
  generalize (c.suspendRouting nowNs).queueRemoteCleanup allHeld = r at heq ⊢
  obtain ⟨_ | _, c'⟩ := r <;> obtain rfl : c' = _ := heq <;> rfl

end DaemonCore

/-- The call activates the failsafe at time `t`. -/
def CoreAction.Activates (c : DaemonCore) (t : ℕ) : CoreAction → Prop
  | .prepare captured now => now = t ∧ reportsFailsafe (c.prepareCaptured captured now).1 = true
  | .process captured now => now = t ∧ (c.processCaptured captured now).1.failsafeActivated = true
  | .op (.triggerEmergency now) => now = t ∧ c.pendingRemote = none
  | _ => False

/-- Every activation runs `activate_failsafe` with the drain set. -/
theorem CoreAction.Activates.apply_eq {c : DaemonCore} {t : ℕ} {a : CoreAction}
    (h : a.Activates c t) :
    ∃ controls count, a.apply c = (activateFailsafe
      { c with physicalControls := controls, physicalControlCount := count,
               drainFailsafeKeys := true } t).2 := by
  unfold CoreAction.Activates at h
  split at h
  · obtain ⟨rfl, h⟩ := h
    exact prepareCaptured_activates h
  · next captured now =>
    obtain ⟨rfl, h⟩ := h
    show ∃ controls count, (c.processCaptured captured now).2 = _
    have hprepared (hreports : reportsFailsafe (c.prepareCaptured captured now).1 = true) :=
      prepareCaptured_activates hreports
    unfold DaemonCore.processCaptured at h ⊢
    generalize c.prepareCaptured captured now = r at h hprepared ⊢
    obtain ⟨_ | decision, c'⟩ := r
    · cases h
    cases decision with
    | remote effect =>
      -- a failed remote decision never reports an activation
      simp only [DaemonCore.failRemoteInput] at h
      generalize c'.takeMatchingRemote effect.decisionId now = r at h
      obtain ⟨_ | pending, c''⟩ := r
      · cases h
      · simp only [DaemonCore.failTaken] at h
        split_ifs at h <;> cases h
    | «local» outcome | inert outcome | fault outcome => exact hprepared h
  · obtain ⟨rfl, h⟩ := h
    refine ⟨c.physicalControls, c.physicalControlCount, ?_⟩
    show (c.triggerEmergency _).2 = _
    rw [triggerEmergency, h]
    rfl
  · exact h.elim

/-! ## The lockout -/

/-- A core after an activation: the time of the last call, and whether a call
    since then found no shortcut key held. -/
structure Lockout where
  core : DaemonCore
  clock : ℕ
  released : Bool

namespace Lockout

/-- The state right after an activation at time `t`. -/
def start (c : DaemonCore) (activation : CoreAction) (t : ℕ) : Lockout :=
  ⟨activation.apply c, t, false⟩

def apply (s : Lockout) (a : CoreAction) : Lockout where
  core := a.apply s.core
  clock := a.nowNs?.getD s.clock
  released := s.released || a.observesRelease s.core

/-- Calls carry nondecreasing times. -/
def Ordered (s : Lockout) (a : CoreAction) : Prop := ∀ now ∈ a.nowNs?, s.clock ≤ now

/-- The call does not lower `routing_suspend_seconds`. -/
def KeepsSuspension (s : Lockout) (a : CoreAction) : Prop :=
  s.core.config.failsafe.routingSuspendSeconds
    ≤ (a.apply s.core).config.failsafe.routingSuspendSeconds

/-- At time `now` the suspension runs, or no call has found the shortcut keys released. -/
def Locked (deadline : ℕ) (s : Lockout) (now : ℕ) : Prop := now < deadline ∨ s.released = false

instance (s : Lockout) (a : CoreAction) : Decidable (s.Ordered a) :=
  inferInstanceAs (Decidable (∀ now ∈ a.nowNs?, s.clock ≤ now))

instance (s : Lockout) (a : CoreAction) : Decidable (s.KeepsSuspension a) :=
  inferInstanceAs (Decidable (_ ≤ _))

instance (deadline : ℕ) (s : Lockout) (now : ℕ) : Decidable (s.Locked deadline now) :=
  inferInstanceAs (Decidable (_ ∨ _))

/-- The invariant of the lockout of an activation at `t` for `seconds`. -/
structure Inv (t seconds : ℕ) (s : Lockout) : Prop where
  clock : t ≤ s.clock
  configured : seconds ≤ s.core.config.failsafe.routingSuspendSeconds
  suspended : saturatingAdd t (seconds * 1000000000) ≤ s.core.suspendedUntilNs
  drain : s.released = false → s.core.drainFailsafeKeys = true
  disabled : s.Locked (saturatingAdd t (seconds * 1000000000)) s.clock →
    s.core.snapshot.enabled = false

theorem Inv.apply {t seconds : ℕ} {s : Lockout} (h : s.Inv t seconds) {a : CoreAction}
    (hordered : s.Ordered a) (hkeeps : s.KeepsSuspension a) : (s.apply a).Inv t seconds := by
  obtain ⟨now, hnow, hle, hclock⟩ : ∃ now, (∀ now' ∈ a.nowNs?, now' = now) ∧ s.clock ≤ now
      ∧ (s.apply a).clock = now := by
    cases ha : a.nowNs? with
    | none => exact ⟨s.clock, fun _ hmem => (nomatch hmem), le_rfl, by rw [Lockout.apply, ha]; rfl⟩
    | some now =>
      refine ⟨now, fun now' hmem => (Option.mem_some_iff.mp hmem).symm, hordered now ha, ?_⟩
      rw [Lockout.apply, ha]
      rfl
  have hstep := CoreAction.failsafeStep s.core a now hnow
  have hsuspended : saturatingAdd t (seconds * 1000000000) ≤ (a.apply s.core).suspendedUntilNs := by
    -- a new activation comes later and lasts at least as long
    rcases hstep.suspended with heq | heq
    · exact heq ▸ h.suspended
    · rw [heq, suspensionEnd, saturatingAdd, saturatingAdd]
      have := h.clock
      have := Nat.mul_le_mul_right 1000000000 h.configured
      omega
  have hdrain : (s.apply a).released = false → (a.apply s.core).drainFailsafeKeys = true := by
    intro hr
    obtain ⟨hold, hobserves⟩ := Bool.or_eq_false_iff.mp hr
    exact hstep.drain (h.drain hold) hobserves
  refine ⟨h.clock.trans (hclock ▸ hle), h.configured.trans hkeeps, hsuspended, hdrain, ?_⟩
  rw [hclock]
  intro hlocked
  by_contra henabled
  rw [Bool.not_eq_false] at henabled
  rcases hstep.enabled henabled with hold | ⟨hs, hd⟩
  · have hdisabled := h.disabled (hlocked.imp (hle.trans_lt) fun hr =>
      (Bool.or_eq_false_iff.mp hr).1)
    rw [hold] at hdisabled
    cases hdisabled
  · rcases hlocked with hlt | hr
    · exact absurd (hsuspended.trans hs) (not_le.mpr hlt)
    · rw [hdrain hr] at hd
      cases hd

theorem start_inv {c : DaemonCore} {t : ℕ} {activation : CoreAction}
    (h : activation.Activates c t) :
    (start c activation t).Inv t c.config.failsafe.routingSuspendSeconds := by
  obtain ⟨controls, count, heq⟩ := h.apply_eq
  obtain ⟨hstep, hs, hd, hen⟩ := activateFailsafe_step t false
    { c with physicalControls := controls, physicalControlCount := count }
  have hcore : (start c activation t).core = (activateFailsafe
      { c with physicalControls := controls, physicalControlCount := count,
               drainFailsafeKeys := true } t).2 := heq
  refine ⟨le_rfl, ?_, ?_, fun _ => ?_, fun _ => ?_⟩
  · rw [hcore, activateFailsafe_config]
  · rw [hcore, hs]
    rfl
  · rw [hcore]
    exact hd
  · rw [hcore]
    exact hen

end Lockout

/-- From an activation of the failsafe at `t` on, over every run of calls with nondecreasing times
    that never lower `routing_suspend_seconds`: the held controls are queued for release or routing
    is not ready, the local host is active, and until both the suspension is over and a call found
    the shortcut keys released, no published snapshot is enabled and no event is sent. -/
theorem failsafe_lockout {c : DaemonCore} {t : ℕ} {activation : CoreAction}
    (hactivation : activation.Activates c t) {actions : List CoreAction}
    (hrun : Admissible (fun s a => Lockout.Ordered s a ∧ Lockout.KeepsSuspension s a)
      Lockout.apply (Lockout.start c activation t) actions) :
    let deadline := saturatingAdd t (c.config.failsafe.routingSuspendSeconds * 1000000000)
    let s := execute Lockout.apply (Lockout.start c activation t) actions
    ((∀ key, (activation.apply c).remoteHeld.contains key = true →
        key ∈ (activation.apply c).queuedKeys) ∨ (activation.apply c).workspaceReady = false)
      ∧ (activation.apply c).workspace.activeHost = (activation.apply c).workspace.localHost
      ∧ (s.Locked deadline s.clock → s.core.snapshot.enabled = false)
      ∧ ∀ captured now effect, s.Locked deadline now →
        (s.core.prepareCaptured captured now).1 ≠ .ok (.remote effect) := by
  intro deadline s
  have hstep : ∀ s a, (Lockout.Ordered s a ∧ Lockout.KeepsSuspension s a) →
      Lockout.Inv t c.config.failsafe.routingSuspendSeconds s →
      Lockout.Inv t c.config.failsafe.routingSuspendSeconds (Lockout.apply s a) :=
    fun s a henabled hinv => hinv.apply henabled.1 henabled.2
  have hinv := hrun.invariant hstep (Lockout.start_inv hactivation)
  obtain ⟨controls, count, heq⟩ := hactivation.apply_eq
  rw [heq]
  rw [← and_assoc]
  refine ⟨?_, hinv.disabled, fun captured now effect hlocked hremote => ?_⟩
  rotate_left
  · -- nothing is sent while the lockout lasts
    have has := prepareCaptured_as s.core captured now
    generalize s.core.prepareCaptured captured now = r at has hremote
    cases has with
    | busy | untracked | refused => cases hremote
    | recorded c₁ previousLatch r _ _ hrec has =>
      obtain ⟨⟨controls, count, rfl⟩, -, -⟩ := recordTransition_ok hrec
      have hspec := has.spec
      obtain ⟨decision, c'⟩ := r
      obtain rfl : decision = _ := hremote
      obtain ⟨hs, hd⟩ := routingShouldBeActive_open hspec.2.2.2.2.1.active
      rcases hlocked with hlt | hr
      · exact absurd (hinv.suspended.trans hs) (not_le.mpr hlt)
      · have hdrain := hinv.drain hr
        rw [show s.core.drainFailsafeKeys = false from hd] at hdrain
        cases hdrain
  generalize ({ c with physicalControls := controls, physicalControlCount := count,
                       drainFailsafeKeys := true } : DaemonCore) = c₁
  obtain ⟨queue, next, controls, heq⟩ :=
    queueRemoteCleanup_eq (c₁.suspendRouting t) allHeld
  unfold activateFailsafe
  cases hq : (c₁.suspendRouting t).queueRemoteCleanup allHeld with
  | mk queued c' =>
    rw [hq] at heq
    obtain rfl : c' = _ := heq
    cases queued with
    | error e => exact ⟨Or.inr rfl, rfl⟩
    | ok u =>
      refine ⟨Or.inl fun key hkey => ?_, rfl⟩
      have hheld : (c₁.suspendRouting t).remoteHeld.contains key = true := hkey
      have hqueued := queueRemoteCleanup_allHeld_queued hq hheld
      exact hqueued

namespace Sample

/-- The core with a session and ready routing. -/
def readyCore : DaemonCore :=
  execute CoreAction.apply core
    [.op (.installSessionEndpoint endpoint 0), .op (.markWorkspaceRoutingReady 0)]

/-- The remote host becomes active again as soon as the shortcut keys are seen released. -/
def reopenAt (now : ℕ) : List CoreAction :=
  [.op (.tick now), .op (.updateWorkspace { workspace with activeHost := remoteHost } now)]

/-- A configuration with a suspension of one second. -/
def shorterConfig : Config := { config with failsafe := { routingSuspendSeconds := 1 } }

/-- A second emergency under the shorter suspension. -/
def shortenLockout : List CoreAction :=
  [.op (.updateConfig shorterConfig 0), .op (.triggerEmergency 0)] ++ reopenAt 1000000000

end Sample

open Sample

theorem failsafe_lockout_reopened :
    ((CoreAction.op (.triggerEmergency 0)).apply readyCore).workspace.activeHost
        = localHost
      ∧ (execute Lockout.apply (Lockout.start readyCore (.op (.triggerEmergency 0)) 0)
        (reopenAt 1000000000)).core.snapshot.enabled = false := by
  have hactivation : (CoreAction.op (.triggerEmergency 0)).Activates readyCore 0 := ⟨rfl, rfl⟩
  have hrun : Admissible (fun s a => Lockout.Ordered s a ∧ Lockout.KeepsSuspension s a)
      Lockout.apply (Lockout.start readyCore (.op (.triggerEmergency 0)) 0)
      (reopenAt 1000000000) := by decide +kernel
  have h := failsafe_lockout hactivation hrun
  exact ⟨h.2.1.trans (by decide +kernel), h.2.2.1 (by decide +kernel)⟩

/-- With the shorter suspension the first lockout ends after one of its ten
    seconds: an event is sent. -/
theorem failsafe_lockout_shortened :
    DaemonCore.new config workspace = .ok core
      ∧ (CoreAction.op (.triggerEmergency 0)).Activates readyCore 0
      ∧ Admissible Lockout.Ordered Lockout.apply
        (Lockout.start readyCore (.op (.triggerEmergency 0)) 0) shortenLockout
      ∧ (execute Lockout.apply (Lockout.start readyCore (.op (.triggerEmergency 0)) 0)
        shortenLockout).Locked
          (saturatingAdd 0 (readyCore.config.failsafe.routingSuspendSeconds * 1000000000))
          1000000000
      ∧ ∃ effect, ((execute Lockout.apply
          (Lockout.start readyCore (.op (.triggerEmergency 0)) 0)
          shortenLockout).core.prepareCaptured (key .keyA .pressed) 1000000000).1
        = .ok (.remote effect) := by
  refine ⟨rfl, ⟨rfl, rfl⟩, by decide +kernel, by decide +kernel,
    ⟨1, endpoint, (key .keyA .pressed).event⟩, by decide +kernel⟩

end SoftwareKvm
