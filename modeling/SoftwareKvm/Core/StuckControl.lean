import SoftwareKvm.Core.Edit

/-!
# No locally stuck control

A run of the core interleaves captured events with any other operations. Each
remote decision is settled at once, by `confirm_remote_input` or
`fail_remote_input`. The events whose final disposition is `AllowLocal` are
replayed on the local host: a press or a repeat puts the control down, a
release lifts it.

Results:
* `settleRemote_spec`: the latches and the disposition after a settled decision.
* `replay_no_stuck_control`: in a run that never repeats a remote or
  quarantined control while the failsafe answers for every event, no control
  stays down on the local host after its physical release.
* `replay_stuck_after_emergency`: without that condition a control does stay
  down.

**Deviation.** During the failsafe drain `prepare_captured` passes every event,
also the repeat of a control whose press went to the remote host. The local
host then sees the control go down; the release that follows the drain is
suppressed, because the latch is `Quarantined`.
-/

namespace SoftwareKvm

open Lib

/-! ## Settling a decision -/

/-- How a remote decision is settled. -/
inductive Settlement
  | confirm (acceptedSequence nowNs : ℕ)
  | fail (nowNs : ℕ)

namespace DaemonCore

/-- Settle a remote decision. A confirmed frame is in the peer's queue, so a
    failed confirmation still suppresses the event. -/
def settleRemote (c : DaemonCore) (effect : RemoteInputEffect) :
    Settlement → CaptureDisposition × DaemonCore
  | .confirm acceptedSequence nowNs =>
    match c.confirmRemoteInput effect acceptedSequence nowNs with
    | (.ok outcome, c) => (outcome.disposition, c)
    | (.error _, c) => (.suppressLocal, c)
  | .fail nowNs =>
    match c.failRemoteInput effect nowNs with
    | (.ok outcome, c) => (outcome.disposition, c)
    | (.error _, c) => (.allowLocal, c)

/-- The final disposition of an event and the core after its decision is
    settled. An error of `prepare_captured` lets the event pass. -/
def conclude (settlement : Settlement) :
    CoreResult CaptureDecision → CaptureDisposition × DaemonCore
  | (.error _, c) => (.allowLocal, c)
  | (.ok (.local outcome), c) => (outcome.disposition, c)
  | (.ok (.inert outcome), c) => (outcome.disposition, c)
  | (.ok (.fault outcome _), c) => (outcome.disposition, c)
  | (.ok (.remote effect), c) => c.settleRemote effect settlement

/-- Route one captured event and settle its decision. -/
def captureStep (c : DaemonCore) (captured : CapturedInput) (nowNs : ℕ) (settlement : Settlement) :
    CaptureDisposition × DaemonCore :=
  conclude settlement (c.prepareCaptured captured nowNs)

/-- `c'` has no pending decision and keeps every latch of `c` up to latch
    steps, except those in `touched`. -/
structure SettledFrame (touched : DeviceId → PhysicalControl → Prop) (c c' : DaemonCore) :
    Prop where
  settled : c'.pendingRemote = none
  localHost : c'.workspace.localHost = c.workspace.localHost
  latch : ∀ d k, ¬ touched d k → LatchStep (c.latch? d k) (c'.latch? d k)

variable {touched : DeviceId → PhysicalControl → Prop} {k : PhysicalControl}
  {captured : CapturedInput}

theorem SettledFrame.of_frame {c c' : DaemonCore}
    (h : Frame c c') (hc : c.pendingRemote = none) : SettledFrame touched c c' where
  settled := h.pendingRemote.trans hc
  localHost := h.localHost
  latch d k _ := h.latch d k

theorem SettledFrame.trans_frame
    {c c' c'' : DaemonCore} (h1 : SettledFrame touched c c') (h2 : Frame c' c'') :
    SettledFrame touched c c'' where
  settled := h2.pendingRemote.trans h1.settled
  localHost := h2.localHost.trans h1.localHost
  latch d k hdk := (h1.latch d k hdk).trans (h2.latch d k)

/-- The control that a decision's press may latch. -/
def pressed (device : DeviceId) (control : Option PhysicalControl)
    (transition : Option PhysicalTransition) (d : DeviceId) (k : PhysicalControl) : Prop :=
  d = device ∧ control = some k ∧ transition = some .press

variable {c : DaemonCore} {effect : RemoteInputEffect} {control : Option PhysicalControl}
  {transition : Option PhysicalTransition} {previousLatch : Option LatchedDestination}

/-- Only a press latches its control. -/
theorem SettledFrame.untouched {c' : DaemonCore} {device : DeviceId}
    (h : SettledFrame (pressed device control transition) c c') (hno : transition ≠ some .press) :
    SettledFrame (fun _ _ => False) c c' :=
  { h with latch := fun d k _ => h.latch d k fun hp => hno hp.2.2 }

theorem takeMatchingRemote_pending
    (hp : c.pendingRemote = some (pendingFor effect control transition previousLatch)) (nowNs : ℕ) :
    c.takeMatchingRemote effect.decisionId nowNs =
      (.ok (pendingFor effect control transition previousLatch),
        { c with pendingRemote := none }) := by
  unfold takeMatchingRemote
  simp [hp, pendingFor]

/-- Setting the latch of the pressed control. -/
theorem setLatch_settledFrame {c' : DaemonCore} {device : DeviceId}
    (h : SettledFrame (pressed device (some k) (some .press)) c c') (l : LatchedDestination) :
    SettledFrame (pressed device (some k) (some .press)) c (c'.setLatch device k l) where
  settled := h.settled
  localHost := h.localHost
  latch d k' hdk := by
    have hne : ¬ (d = device ∧ k' = k) := by
      rintro ⟨rfl, rfl⟩; exact hdk ⟨rfl, rfl, rfl⟩
    rw [latch?_setLatch, if_neg hne]
    exact h.latch d k' hdk

section

variable (hp : c.pendingRemote = some (pendingFor effect control transition previousLatch))

include hp

/-- Settling a decision of `prepare_captured` latches at most the pressed control.
    The event passes only if the decision failed and its control was not already
    remote; a first press then leaves no remote latch. -/
theorem settleRemote_spec (settlement : Settlement) :
    SettledFrame (pressed effect.event.sourceDevice control transition) c
        (c.settleRemote effect settlement).2
      ∧ ((c.settleRemote effect settlement).1 = .allowLocal →
        isRemoteLatch previousLatch = false
          ∧ (previousLatch = none → transition = some .press → ∀ k, control = some k →
            LocalOrNone ((c.settleRemote effect settlement).2.latch?
              effect.event.sourceDevice k))) := by
  have htaken : SettledFrame (pressed effect.event.sourceDevice control transition) c
      { c with pendingRemote := none } := ⟨rfl, rfl, fun _ _ _ => .keep _⟩
  cases settlement with
  | confirm acceptedSequence nowNs =>
    simp only [settleRemote, confirmRemoteInput, takeMatchingRemote_pending hp]
    generalize ({ c with pendingRemote := none } : DaemonCore) = c₁ at htaken ⊢
    have hclosed := htaken.trans_frame (failClosed_frame c₁ nowNs)
    have hspec := confirmTaken_spec c₁ (pendingFor effect control transition previousLatch)
      acceptedSequence nowNs
    generalize c₁.confirmTaken (pendingFor effect control transition previousLatch)
      acceptedSequence nowNs = r at hspec ⊢
    -- the event is suppressed, also when the confirmation fails
    cases hspec with
    | full | stale => exact ⟨hclosed, fun hallow => by cases hallow⟩
    | press k hk ht _ =>
      obtain rfl : control = some k := hk
      obtain rfl : transition = some .press := ht
      refine ⟨SettledFrame.trans_frame ?_ (publish_frame _ nowNs), fun hallow => by cases hallow⟩
      refine setLatch_settledFrame ?_ _
      exact htaken.trans_frame (.of_fields rfl rfl rfl)
    | release | repeated | stateless =>
      exact ⟨htaken.trans_frame (.of_fields rfl rfl rfl), fun hallow => by cases hallow⟩
  | fail nowNs =>
    simp only [settleRemote, failRemoteInput, takeMatchingRemote_pending hp, failTaken, pendingFor]
    generalize ({ c with pendingRemote := none } : DaemonCore) = c₁ at htaken ⊢
    refine ⟨?_, fun hallow => ⟨?_, ?_⟩⟩
    · refine SettledFrame.trans_frame ?_ (failClosed_frame _ nowNs)
      split
      · exact setLatch_settledFrame htaken _
      · exact htaken
    · by_contra hrem
      rw [Bool.not_eq_false] at hrem
      rw [if_pos hrem] at hallow
      cases hallow
    · rintro rfl rfl k rfl
      refine ((failClosed_frame _ nowNs).latch _ _).localOrNone ?_
      simp only [latch?_setLatch, and_self, if_true]
      cases c₁.latch? effect.event.sourceDevice k with
      | none => exact Or.inl rfl
      | some _ => exact Or.inr rfl

end

/-! ## One captured event -/

variable {event : InputEvent} {nowNs : ℕ} {r : CoreResult CaptureDecision}

section

variable (hspec : PrepareSpec c event control transition previousLatch nowNs r)

include hspec

/-- A decision latches at most the pressed control. -/
theorem conclude_frame (hc : c.pendingRemote = none) (settlement : Settlement) :
    SettledFrame (pressed event.sourceDevice control transition) c (conclude settlement r).2 := by
  obtain ⟨_ | _ | _ | _ | _, c'⟩ := r
  · exact .of_frame hspec.1 hc
  · exact .of_frame hspec.1 hc
  · rcases hspec.2 with ⟨hf, _⟩ | ⟨_, _, _, _, rfl⟩
    · exact .of_frame hf hc
    · unfold quarantinePress
      split
      · exact setLatch_settledFrame (.of_frame (.refl c) hc) _
      · exact .of_frame (.refl c) hc
  · next effect =>
    obtain ⟨rfl, _, _, _, _, rfl⟩ := hspec
    exact { (settleRemote_spec (c := { c with
      nextEffectId := c.nextEffectId + 1
      pendingRemote := some (pendingFor effect control transition previousLatch) })
      rfl settlement).1 with }
  · exact .of_frame hspec.1 hc

/-- An event passes only when its control was not remote, or when the failsafe answers. -/
theorem conclude_allow
    {settlement : Settlement} (hallow : (conclude settlement r).1 = .allowLocal) :
    LocalOrNone previousLatch ∨ c.failsafeAnswers = true := by
  obtain ⟨_ | _ | _ | _ | _, c'⟩ := r
  · exact Or.inl (Or.inl hspec.2)
  · exact hspec.2.2
  · rw [conclude, hspec.1] at hallow
    cases hallow
  · next effect =>
    obtain ⟨rfl, _, _, hl, _, rfl⟩ := hspec
    have hset := (settleRemote_spec (c := { c with
      nextEffectId := c.nextEffectId + 1
      pendingRemote := some (pendingFor effect control transition previousLatch) })
      rfl settlement).2 hallow
    rcases hl with ⟨hnone, _⟩ | hrem
    · exact Or.inl (Or.inl hnone)
    · rw [hset.1] at hrem
      cases hrem
  · exact hspec.2.2 hallow

/-- A press that passes leaves a local latch or none. -/
theorem conclude_press {settlement : Settlement} (hallow : (conclude settlement r).1 = .allowLocal)
    (hl : LocalOrNone previousLatch) (ht : transition = some .press) {k : PhysicalControl}
    (hk : control = some k) (hlatch : LocalOrNone (c.latch? event.sourceDevice k)) :
    LocalOrNone ((conclude settlement r).2.latch? event.sourceDevice k) := by
  obtain ⟨_ | _ | _ | _ | _, c'⟩ := r
  · exact (hspec.1.latch _ _).localOrNone hlatch
  · exact (hspec.1.latch _ _).localOrNone hlatch
  · rw [conclude, hspec.1] at hallow
    cases hallow
  · next effect =>
    obtain ⟨rfl, _, _, hprevious, _, rfl⟩ := hspec
    rcases hprevious with ⟨hnone, _⟩ | hrem
    · exact ((settleRemote_spec rfl settlement).2 hallow).2 hnone ht k hk
    · exact absurd hl (not_localOrNone_of_isRemoteLatch hrem)
  · exact (hspec.1.latch _ _).localOrNone hlatch

/-- A release whose control is not remote passes. -/
theorem conclude_release
    (settlement : Settlement) (ht : transition = some .release) (hl : LocalOrNone previousLatch) :
    (conclude settlement r).1 = .allowLocal := by
  have hcont : continues transition = true := by simp [continues, ht]
  have hnotRemote : isRemoteLatch previousLatch ≠ true :=
    fun h => not_localOrNone_of_isRemoteLatch h hl
  obtain ⟨_ | _ | _ | _ | _, c'⟩ := r
  · rfl
  · exact hspec.2.1
  · rcases hspec.2 with ⟨_, hnot⟩ | ⟨_, hfalse, _⟩
    · exact absurd hl hnot
    · rw [hcont] at hfalse; cases hfalse
  · rcases hspec.2.2.2.1 with ⟨_, hfalse⟩ | hrem
    · rw [hcont] at hfalse; cases hfalse
    · exact absurd hrem hnotRemote
  · next outcome _ =>
    cases hd : outcome.disposition with
    | allowLocal => exact hd
    | suppressLocal => exact absurd hl (hspec.2.1 hd)

end

theorem captureStep_untracked (hc : c.pendingRemote = none)
    (h : c.tracksEvent captured = false) (nowNs : ℕ) (settlement : Settlement) :
    c.captureStep captured nowNs settlement = (.allowLocal, c) := by
  simp [captureStep, prepareCaptured, hc, h, conclude, CaptureOutcome.allowLocal]

variable (hc : c.pendingRemote = none) (h : c.tracksEvent captured = true)

include hc h

/-- The previous latch and the core on which the decision is made. -/
theorem captureStep_tracked {stateful : Option ControlTransition}
    (hs : PhysicalControl.fromPayload captured.event.payload = stateful) {c₁ : DaemonCore}
    (hr : c.recordTransition captured.event.sourceDevice stateful nowNs = (.ok previousLatch, c₁))
    (settlement : Settlement) :
    c.captureStep captured nowNs settlement =
      conclude settlement (c₁.prepareRecorded captured.event (stateful.map Prod.fst)
        (stateful.map Prod.snd) previousLatch nowNs) := by
  simp [captureStep, prepareCaptured, hc, h, hs, hr]

/-- The state after a first press: no capacity, and the event passes; or a
    fresh `Local` latch on which the decision is made. -/
theorem captureStep_press
    (hs : PhysicalControl.fromPayload captured.event.payload = some (k, .press))
    (hfree : c.latch? captured.event.sourceDevice k = none) (nowNs : ℕ) (settlement : Settlement) :
    SettledFrame (pressed captured.event.sourceDevice (some k) (some .press)) c
        (c.captureStep captured nowNs settlement).2
      ∧ ((c.captureStep captured nowNs settlement).1 = .allowLocal →
        LocalOrNone ((c.captureStep captured nowNs settlement).2.latch?
          captured.event.sourceDevice k)) := by
  set d := captured.event.sourceDevice with hd
  cases hcap : c.ensurePhysicalCapacity d with
  | mk result c₁ =>
    cases result with
    | error e =>
      have hframe : Frame c (c₁.failClosed nowNs).2 := by
        have := ensurePhysicalCapacity_frame c d
        rw [hcap] at this
        exact this.trans (failClosed_frame c₁ nowNs)
      have hstep : c.captureStep captured nowNs settlement
          = (.allowLocal, (c₁.failClosed nowNs).2) := by
        simp [captureStep, prepareCaptured, hc, h, hs, recordTransition, ← hd, hfree,
          hcap, conclude]
      rw [hstep]
      exact ⟨.of_frame hframe hc, fun _ => (hframe.latch d k).localOrNone (Or.inl hfree)⟩
    | ok u =>
      obtain rfl := ensurePhysicalCapacity_ok hcap
      have hr : c₁.recordTransition d (some (k, .press)) nowNs
          = (.ok none, c₁.insertLatch d k) := by
        simp [recordTransition, hfree, hcap]
      have hnew : (c₁.insertLatch d k).latch? d k = some .local := by
        simp [latch?_insertLatch]
      rw [captureStep_tracked hc h hs hr settlement]
      have hspec := prepareRecorded_spec (c₁.insertLatch d k) captured.event (some k)
        (some .press) none nowNs fun _ => Or.inr hnew
      have hf := conclude_frame hspec hc settlement
      refine ⟨⟨hf.settled, hf.localHost, fun d' k' hdk => ?_⟩, fun hallow => ?_⟩
      · have hne : ¬ (d' = d ∧ k' = k) := by
          rintro ⟨rfl, rfl⟩; exact hdk ⟨rfl, rfl, rfl⟩
        have := hf.latch d' k' hdk
        rwa [latch?_insertLatch, if_neg hne] at this
      · exact conclude_press hspec hallow (Or.inl rfl) rfl rfl (Or.inr hnew)

/-- A release drops its latch; it passes unless the latch was remote or quarantined. -/
theorem captureStep_release
    (hs : PhysicalControl.fromPayload captured.event.payload = some (k, .release)) (nowNs : ℕ)
    (settlement : Settlement) :
    SettledFrame (fun _ _ => False) (c.removeLatch captured.event.sourceDevice k)
        (c.captureStep captured nowNs settlement).2
      ∧ (LocalOrNone (c.latch? captured.event.sourceDevice k) →
        (c.captureStep captured nowNs settlement).1 = .allowLocal) := by
  set d := captured.event.sourceDevice with hd
  have hr : c.recordTransition d (some (k, .release)) nowNs
      = (.ok (c.latch? d k), c.removeLatch d k) := rfl
  rw [captureStep_tracked hc h hs hr settlement]
  have hgone : (c.removeLatch d k).latch? d k = none := by simp [latch?_removeLatch]
  have hspec := prepareRecorded_spec (c.removeLatch d k) captured.event (some k)
    (some .release) (c.latch? d k) nowNs fun _ => Or.inl hgone
  have hpending : (c.removeLatch d k).pendingRemote = none := by
    unfold removeLatch
    split <;> (try split_ifs) <;> exact hc
  exact ⟨(conclude_frame hspec hpending settlement).untouched (by simp),
    conclude_release hspec settlement rfl⟩

end DaemonCore

/-! ## Runs and the replay -/

/-- A core together with what the user holds down (`physical`) and what the
    replay of the passed events holds down on the local host (`replayed`). -/
structure Replay where
  core : DaemonCore
  physical : DeviceId → PhysicalControl → Bool
  replayed : DeviceId → PhysicalControl → Bool

/-- A step of a run: a captured event with its settlement, or another operation. -/
inductive ReplayAction
  | capture (captured : CapturedInput) (nowNs : ℕ) (settlement : Settlement)
  | op (op : CoreOp)

/-- Overwrite the state of one control. -/
def setControl (f : DeviceId → PhysicalControl → Bool) (device : DeviceId)
    (control : PhysicalControl) (down : Bool) : DeviceId → PhysicalControl → Bool :=
  fun d k => if d = device ∧ k = control then down else f d k

namespace Replay

/-- Nothing is held at the start. -/
def start (core : DaemonCore) : Replay := ⟨core, fun _ _ => false, fun _ _ => false⟩

/-- The transition of a physical key or button event of the local host. -/
def observed (s : Replay) (captured : CapturedInput) : Option ControlTransition :=
  if captured.classification = .physical
      ∧ captured.event.sourceHost = s.core.workspace.localHost then
    PhysicalControl.fromPayload captured.event.payload
  else none

/-- Events are well formed per control: a press of a control that is up, then
    repeats and a release of a control that is down. -/
def WellFormed (s : Replay) : ReplayAction → Prop
  | .capture captured _ _ =>
    match s.observed captured with
    | some (k, .press) => s.physical captured.event.sourceDevice k = false
    | some (k, .repeat) => s.physical captured.event.sourceDevice k = true
    | some (k, .release) => s.physical captured.event.sourceDevice k = true
    | none => True
  | .op _ => True

/-- Process one action; the disposition decides whether the event is replayed. -/
def apply (s : Replay) : ReplayAction → Replay
  | .capture captured nowNs settlement =>
    let (disposition, core) := s.core.captureStep captured nowNs settlement
    match s.observed captured with
    | none => { s with core }
    | some (k, transition) =>
      let down := transition != .release
      { core := core
        physical := setControl s.physical captured.event.sourceDevice k down
        replayed := if disposition = .allowLocal then
          setControl s.replayed captured.event.sourceDevice k down else s.replayed }
  | .op op => { s with core := op.apply s.core }

/-- No control is down on the local host unless it is physically down. -/
def NoStuckControl (s : Replay) : Prop := ∀ d k, s.physical d k = false → s.replayed d k = false

/-- While the failsafe answers for every event, no repeat belongs to a control
    whose latch is `Remote` or `Quarantined`. -/
def RepeatsLocally (s : Replay) : ReplayAction → Prop
  | .capture captured _ _ =>
    match s.observed captured with
    | some (k, .repeat) => s.core.failsafeAnswers = true →
        LocalOrNone (s.core.latch? captured.event.sourceDevice k)
    | _ => True
  | .op _ => True

instance decidableWellFormed (s : Replay) : (a : ReplayAction) → Decidable (s.WellFormed a)
  | .op _ => .isTrue trivial
  | .capture captured _ _ =>
    match h : s.observed captured with
    | some (k, .press) => decidable_of_iff (s.physical captured.event.sourceDevice k = false)
        (by simp only [WellFormed, h])
    | some (k, .repeat) => decidable_of_iff (s.physical captured.event.sourceDevice k = true)
        (by simp only [WellFormed, h])
    | some (k, .release) => decidable_of_iff (s.physical captured.event.sourceDevice k = true)
        (by simp only [WellFormed, h])
    | none => .isTrue (by simp only [WellFormed, h])

instance decidableRepeatsLocally (s : Replay) : (a : ReplayAction) → Decidable (s.RepeatsLocally a)
  | .op _ => .isTrue trivial
  | .capture captured _ _ =>
    match h : s.observed captured with
    | some (k, .repeat) => decidable_of_iff (s.core.failsafeAnswers = true →
        LocalOrNone (s.core.latch? captured.event.sourceDevice k))
        (by simp only [RepeatsLocally, h])
    | some (_, .press) => .isTrue (by simp only [RepeatsLocally, h])
    | some (_, .release) => .isTrue (by simp only [RepeatsLocally, h])
    | none => .isTrue (by simp only [RepeatsLocally, h])

/-- The invariant of a run whose repeats stay local. -/
structure Inv (s : Replay) : Prop where
  settled : s.core.pendingRemote = none
  latched : ∀ d k, s.core.latch? d k ≠ none → s.physical d k = true ∧ d.isNil = false
  replayed : ∀ d k, s.replayed d k = true →
    s.physical d k = true ∧ LocalOrNone (s.core.latch? d k)

open DaemonCore

variable {s : Replay} {captured : CapturedInput} {k : PhysicalControl}

theorem payload_of_observed {t : PhysicalTransition} (hobs : s.observed captured = some (k, t)) :
    PhysicalControl.fromPayload captured.event.payload = some (k, t) := by
  unfold observed at hobs
  split_ifs at hobs
  exact hobs

section

variable (h : s.Inv) (nowNs : ℕ) (settlement : Settlement)

include h

theorem Inv.noStuckControl : s.NoStuckControl := by
  intro d k hup
  by_contra hdown
  rw [Bool.not_eq_false] at hdown
  rw [(h.replayed d k hdown).1] at hup
  cases hup

theorem Inv.of_frame {c : DaemonCore} (hf : SettledFrame (fun _ _ => False) s.core c) :
    Inv { s with core := c } where
  settled := hf.settled
  latched d k hlatch := by
    refine h.latched d k fun hnone => hlatch ?_
    have := hf.latch d k not_false
    rw [hnone] at this
    exact this.none
  replayed d k hdown :=
    ⟨(h.replayed d k hdown).1, (hf.latch d k not_false).localOrNone (h.replayed d k hdown).2⟩

/-- What a key or button event has to show for its own control: a latch only
    when it is down, and a replayed control only with a local latch. -/
theorem Inv.observe {c : DaemonCore} {device : DeviceId} {down : Bool}
    {disposition : CaptureDisposition} (hsettled : c.pendingRemote = none)
    (hother : ∀ d k', ¬ (d = device ∧ k' = k) → LatchStep (s.core.latch? d k') (c.latch? d k'))
    (hlatched : c.latch? device k ≠ none → down = true ∧ device.isNil = false)
    (hreplayed : (if disposition = .allowLocal then down else s.replayed device k) = true →
      down = true ∧ LocalOrNone (c.latch? device k)) :
    Inv { core := c
          physical := setControl s.physical device k down
          replayed := if disposition = .allowLocal then setControl s.replayed device k down
            else s.replayed } := by
  refine ⟨hsettled, fun d' k' hne => ?_, fun d' k' hdown => ?_⟩
  · simp only [setControl]
    by_cases hdk : d' = device ∧ k' = k
    · rw [if_pos hdk]
      obtain ⟨rfl, rfl⟩ := hdk
      exact hlatched hne
    · rw [if_neg hdk]
      refine h.latched d' k' fun hnone => hne ?_
      have := hother d' k' hdk
      rw [hnone] at this
      exact this.none
  · simp only [setControl] at hdown ⊢
    by_cases hdk : d' = device ∧ k' = k
    · rw [if_pos hdk]
      obtain ⟨rfl, rfl⟩ := hdk
      refine hreplayed ?_
      split_ifs at hdown ⊢
      · simpa [setControl] using hdown
      · exact hdown
    · rw [if_neg hdk]
      have hold : s.replayed d' k' = true := by
        split_ifs at hdown
        · simpa [setControl, hdk] using hdown
        · exact hdown
      exact ⟨(h.replayed d' k' hold).1, (hother d' k' hdk).localOrNone (h.replayed d' k' hold).2⟩

/-- The state after one event that is not a key or button event of the local host. -/
theorem Inv.capture_unobserved (hobs : s.observed captured = none) :
    (s.apply (.capture captured nowNs settlement)).Inv := by
  have heq : s.apply (.capture captured nowNs settlement)
      = { s with core := (s.core.captureStep captured nowNs settlement).2 } := by
    simp only [apply, hobs]
  rw [heq]
  refine h.of_frame ?_
  by_cases htracks : s.core.tracksEvent captured = true
  · have hpayload : PhysicalControl.fromPayload captured.event.payload = none := by
      simp only [tracksEvent, Bool.and_eq_true, beq_iff_eq] at htracks
      rwa [observed, if_pos ⟨htracks.1.1.1, htracks.1.1.2⟩] at hobs
    rw [captureStep_tracked h.settled htracks hpayload rfl settlement]
    have hspec := prepareRecorded_spec s.core captured.event none none none nowNs
      fun _ => Or.inl rfl
    exact (conclude_frame hspec h.settled settlement).untouched (by simp)
  · rw [Bool.not_eq_true] at htracks
    rw [captureStep_untracked h.settled htracks]
    exact .of_frame (.refl _) h.settled

/-- An event of the nil device always passes and never touches the core. -/
theorem Inv.capture_untracked {t : PhysicalTransition} (hobs : s.observed captured = some (k, t))
    (htracks : s.core.tracksEvent captured = false) :
    (s.apply (.capture captured nowNs settlement)).Inv := by
  have hnil : captured.event.sourceDevice.isNil = true := by
    unfold observed at hobs
    split_ifs at hobs with hlocal
    have hfinite : captured.event.payload.isFinite = true := by
      cases hp : captured.event.payload <;>
        simp_all [PhysicalControl.fromPayload, InputPayload.isFinite]
    simpa [tracksEvent, hlocal.1, hlocal.2, hfinite] using htracks
  simp only [apply, hobs]
  rw [captureStep_untracked h.settled htracks]
  have hlatch : s.core.latch? captured.event.sourceDevice k = none := by
    by_contra hne
    have := (h.latched _ _ hne).2
    rw [hnil] at this
    cases this
  refine h.observe h.settled (fun _ _ _ => .keep _) (absurd hlatch) fun hdown => ?_
  exact ⟨hdown, Or.inl hlatch⟩

variable (htracks : s.core.tracksEvent captured = true)

include htracks

/-- A press: the control was up, so it had no latch. -/
theorem Inv.capture_press (hobs : s.observed captured = some (k, .press))
    (hup : s.physical captured.event.sourceDevice k = false) :
    (s.apply (.capture captured nowNs settlement)).Inv := by
  have hfree : s.core.latch? captured.event.sourceDevice k = none := by
    by_contra hne
    rw [(h.latched _ _ hne).1] at hup
    cases hup
  obtain ⟨hf, hallow⟩ := captureStep_press h.settled htracks (payload_of_observed hobs) hfree
    nowNs settlement
  simp only [apply, hobs]
  refine h.observe hf.settled
    (fun d' k' hdk => hf.latch d' k' fun hp => hdk ⟨hp.1, (Option.some.inj hp.2.1).symm⟩)
    (fun _ => ⟨rfl, by simp_all [tracksEvent]⟩) fun hdown => ⟨rfl, ?_⟩
  split_ifs at hdown with hlocal
  · exact hallow hlocal
  · rw [(h.replayed _ _ hdown).1] at hup
    cases hup

/-- A repeat: where the failsafe answers, the latch must be local. -/
theorem Inv.capture_repeat (hobs : s.observed captured = some (k, .repeat))
    (hsafe : s.core.failsafeAnswers = true →
      LocalOrNone (s.core.latch? captured.event.sourceDevice k)) :
    (s.apply (.capture captured nowNs settlement)).Inv := by
  have hr : s.core.recordTransition captured.event.sourceDevice (some (k, .repeat)) nowNs
      = (.ok (s.core.latch? captured.event.sourceDevice k), s.core) := rfl
  have hspec := prepareRecorded_spec s.core captured.event (some k) (some .repeat)
    (s.core.latch? captured.event.sourceDevice k) nowNs fun hnone => Or.inl hnone
  have hf := (conclude_frame hspec h.settled settlement).untouched (by simp)
  simp only [apply, hobs, captureStep_tracked h.settled htracks (payload_of_observed hobs) hr]
  have hframe := h.of_frame hf
  refine h.observe hf.settled (fun d' k' _ => hf.latch d' k' not_false)
    (fun hne => ⟨rfl, (hframe.latched _ _ hne).2⟩) fun hrep => ⟨rfl, ?_⟩
  split_ifs at hrep with hlocal
  · exact (hf.latch _ _ not_false).localOrNone ((conclude_allow hspec hlocal).elim id hsafe)
  · exact (hframe.replayed _ _ hrep).2

/-- A release: a control that is down on the local host has no remote latch,
    so its release passes. -/
theorem Inv.capture_release (hobs : s.observed captured = some (k, .release)) :
    (s.apply (.capture captured nowNs settlement)).Inv := by
  obtain ⟨hf, hallow⟩ := captureStep_release h.settled htracks (payload_of_observed hobs)
    nowNs settlement
  simp only [apply, hobs]
  have hlatch := fun d' k' => hf.latch d' k' not_false
  simp only [latch?_removeLatch] at hlatch
  refine h.observe hf.settled (fun d' k' hdk => ?_) (fun hne => ?_) fun hrep => ?_
  · have := hlatch d' k'
    rwa [if_neg hdk] at this
  · have := hlatch captured.event.sourceDevice k
    rw [if_pos ⟨rfl, rfl⟩] at this
    exact absurd this.none hne
  · split_ifs at hrep with hlocal
    · cases hrep
    · exact absurd (hallow (h.replayed _ _ hrep).2) hlocal

end

/-- One step of a run whose repeats stay local. -/
theorem Inv.apply (h : s.Inv) {a : ReplayAction} (hwf : s.WellFormed a)
    (hsafe : s.RepeatsLocally a) : (s.apply a).Inv := by
  cases a with
  | op op => exact h.of_frame (.of_frame (CoreOp.apply_frame s.core op) h.settled)
  | capture captured nowNs settlement =>
    cases hobs : s.observed captured with
    | none => exact h.capture_unobserved nowNs settlement hobs
    | some kt =>
      obtain ⟨k, t⟩ := kt
      simp only [WellFormed, RepeatsLocally, hobs] at hwf hsafe
      cases htracks : s.core.tracksEvent captured with
      | false => exact h.capture_untracked nowNs settlement hobs htracks
      | true =>
        cases t with
        | press => exact h.capture_press nowNs settlement htracks hobs hwf
        | «repeat» => exact h.capture_repeat nowNs settlement htracks hobs hsafe
        | release => exact h.capture_release nowNs settlement htracks hobs

theorem start_inv {core : DaemonCore} (hp : core.pendingRemote = none)
    (hc : core.physicalControls = ∅) : (start core).Inv where
  settled := hp
  latched d k hne := by simp [start, latch?, hc] at hne
  replayed d k hdown := by cases hdown

end Replay

/-- In every run of the core from its creation, with well-formed events and any interleaved
    operations, in which no remote or quarantined control repeats while the failsafe answers, a
    control that is physically up is not down on the local host. -/
theorem replay_no_stuck_control {config : Config} {workspace : WorkspaceState} {core : DaemonCore}
    (hnew : DaemonCore.new config workspace = .ok core) {actions : List ReplayAction}
    (hrun : Admissible (fun s a => Replay.WellFormed s a ∧ Replay.RepeatsLocally s a)
      Replay.apply (Replay.start core) actions) :
    (execute Replay.apply (Replay.start core) actions).NoStuckControl := by
  have hcreated := DaemonCore.new_created hnew
  have hstep : ∀ s a, (Replay.WellFormed s a ∧ Replay.RepeatsLocally s a) → Replay.Inv s →
      Replay.Inv (Replay.apply s a) := fun s a henabled hinv => hinv.apply henabled.1 henabled.2
  exact (hrun.invariant hstep (Replay.start_inv hcreated.pendingRemote
    hcreated.physicalControls)).noStuckControl

/-! ### A paired host, a session and a keyboard -/

namespace Sample

/-- The remote host is active and the `A` key is held down on it. -/
def holdRemotely : List ReplayAction :=
  [.op (.installSessionEndpoint endpoint 0), .op (.markWorkspaceRoutingReady 0),
   .op (.updateWorkspace { workspace with activeHost := remoteHost } 0),
   .capture (key .keyA .pressed) 0 (.confirm 1 0)]

/-- The emergency hotkey, then a repeat and the release of the held key. -/
def emergencyThenRepeat : List ReplayAction :=
  holdRemotely ++ [.op (.triggerEmergency 0), .capture (key .keyA .repeated) 0 (.fail 0),
    .capture (key .keyA .released) 0 (.fail 0)]

/-- The same key released without a repeat, then pressed locally. -/
def emergencyThenRelease : List ReplayAction :=
  holdRemotely ++ [.op (.triggerEmergency 0), .capture (key .keyA .released) 0 (.fail 0),
    .capture (key .keyA .pressed) 0 (.fail 0), .capture (key .keyA .repeated) 0 (.fail 0),
    .capture (key .keyA .released) 0 (.fail 0)]

end Sample

open Sample

/-- With a repeat during the drain the key stays down locally: the repeat
    passes, the release is suppressed. -/
theorem replay_stuck_after_emergency :
    DaemonCore.new config workspace = .ok core
      ∧ Admissible Replay.WellFormed Replay.apply (Replay.start core)
        emergencyThenRepeat
      ∧ ¬ (execute Replay.apply (Replay.start core)
        emergencyThenRepeat).NoStuckControl := by
  refine ⟨rfl, by decide +kernel, fun h => ?_⟩
  have hup : (execute Replay.apply (Replay.start core)
      emergencyThenRepeat).physical keyboard (.key (.named .keyA)) = false := by
    decide +kernel
  have hdown : (execute Replay.apply (Replay.start core)
      emergencyThenRepeat).replayed keyboard (.key (.named .keyA)) = true := by
    decide +kernel
  rw [h _ _ hup] at hdown
  cases hdown

theorem replay_no_stuck_control_emergencyThenRelease :
    (execute Replay.apply (Replay.start core)
      emergencyThenRelease).NoStuckControl :=
  replay_no_stuck_control (rfl : DaemonCore.new config workspace = .ok core)
    (by decide +kernel)

end SoftwareKvm
