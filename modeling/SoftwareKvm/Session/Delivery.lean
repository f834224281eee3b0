import SoftwareKvm.Core.StuckControl
import SoftwareKvm.Session.Parts

/-!
# Delivery of a captured event

`route_captured` gives the platform a disposition and may append frames to the
admitted FIFO. The two agree: an event is delivered on exactly one side, unless
an earlier event or a pending handoff explains why it is delivered on neither.

Results:
* `routeRemote_delivery`, `routeSettled_delivery`, `routeFault_delivery`: the
  three arms of `route_captured`.
* `routeCaptured_delivery`: no double delivery and no unexplained loss, in
  every coordinator state and for every captured event.
-/

namespace SoftwareKvm

open Lib DaemonCore

namespace PeerSessionCoordinator

variable {ι : Type}

/-- An `Input` frame that carries `event`. -/
def CarriesEvent (event : InputEvent) (message : WireMessage) : Prop :=
  ∃ input sequence, inputToWire event = .ok input ∧ message = .input { input with sequence }

/-- The control of an event was latched `Remote` or `Quarantined` by an earlier event. -/
def LatchedElsewhere (core : DaemonCore) (event : InputEvent) : Prop :=
  ∃ control transition, PhysicalControl.fromPayload event.payload = some (control, transition)
    ∧ ((∃ endpoint route,
        core.latch? event.sourceDevice control = some (.remote endpoint route))
      ∨ core.latch? event.sourceDevice control = some .quarantined)

/-- A pointer handoff is pending and the device follows the active host. -/
def HandoffGates (core : DaemonCore) (event : InputEvent) : Prop :=
  core.handoffPending = true ∧ core.routing.routeFor event.sourceDevice = .followActiveHost

/-- What the disposition of an event and the frames appended for it say about each other. -/
structure Delivery (core : DaemonCore) (event : InputEvent) (disposition : CaptureDisposition)
    (frames : List WireMessage) : Prop where
  atMostOne : (frames.filter (·.isInput)).length ≤ 1
  carries : ∀ m ∈ frames, m.isInput = true → CarriesEvent event m
  suppressed : (∃ m ∈ frames, m.isInput = true) → disposition = .suppressLocal
  explained : disposition = .suppressLocal → (∀ m ∈ frames, m.isInput = false) →
    LatchedElsewhere core event ∨ HandoffGates core event

variable {core : DaemonCore} {event : InputEvent}

theorem isInput_of_isRelease {m : WireMessage} (h : m.isRelease = true) : m.isInput = false := by
  cases m <;> simp_all [WireMessage.isRelease, WireMessage.isInput]

/-- No `Input` frame: only a suppression needs an explanation. -/
theorem Delivery.of_no_input {disposition : CaptureDisposition} {frames : List WireMessage}
    (hno : ∀ m ∈ frames, m.isInput = false) (hexplained : disposition = .suppressLocal →
      LatchedElsewhere core event ∨ HandoffGates core event) :
    Delivery core event disposition frames where
  atMostOne := by
    rw [List.filter_eq_nil_iff.mpr fun m hm => by simp [hno m hm]]
    exact Nat.zero_le 1
  carries m hm hinput := by rw [hno m hm] at hinput; cases hinput
  suppressed := by
    rintro ⟨m, hm, hinput⟩
    rw [hno m hm] at hinput
    cases hinput
  explained h _ := hexplained h

/-- The result `r` of routing `event` appended `frames` that fit its disposition. -/
def Delivers (core : DaemonCore) (event : InputEvent) (f : Fifo)
    (r : CapturedResult × FifoCoordinator ι) : Prop :=
  ∃ frames, r.2.outbound.messages = f.messages ++ frames
    ∧ Delivery core event (routedDisposition r.1) frames

variable [OutputInjectionBackend ι] {c : FifoCoordinator ι} {nowNs : ℕ}

/-! ## The arms of `route_captured` -/

variable {outcome : CaptureOutcome} {effect : RemoteInputEffect}

theorem routeFault_delivery (error : CoreCaptureError) (h : outcome.disposition = .suppressLocal →
      LatchedElsewhere core event ∨ HandoffGates core event) :
    Delivers core event c.outbound (c.routeFault outcome error nowNs) := by
  have hf := releaseAllInbound_inboundOnly c nowNs
  have hdel : Delivery core event outcome.disposition [] := .of_no_input (by simp) h
  unfold routeFault
  split
  · generalize c.releaseAllInbound nowNs = r at hf ⊢
    obtain ⟨e | _, c'⟩ := r
    · exact ⟨[], by simp [← hf.outbound], hdel⟩
    · exact ⟨[], by simp [← hf.outbound], hdel⟩
  · exact ⟨[], by simp, hdel⟩

theorem routeSettled_delivery (h : outcome.disposition = .suppressLocal →
      LatchedElsewhere core event ∨ HandoffGates core event) :
    Delivers core event c.outbound (c.routeSettled outcome nowNs) := by
  have hin : ∃ r c', (if outcome.failsafeActivated then c.releaseAllInbound nowNs
      else (.ok (), c)) = (r, c') ∧ c'.outbound = c.outbound := by
    split
    · exact ⟨_, _, rfl, (releaseAllInbound_inboundOnly c nowNs).outbound⟩
    · exact ⟨_, _, rfl, rfl⟩
  obtain ⟨inboundResult, c₁, hif, hout⟩ := hin
  obtain ⟨frames, hframes, hrel⟩ := drainRemoteCleanup_appends c₁ nowNs
  have hdel : Delivery core event outcome.disposition frames :=
    .of_no_input (fun m hm => isInput_of_isRelease (hrel m hm)) h
  unfold routeSettled
  rw [hif]
  simp only
  generalize c₁.drainRemoteCleanup nowNs = r at hframes ⊢
  obtain ⟨outboundResult, c₂⟩ := r
  rw [hout] at hframes
  cases combineCleanupResults inboundResult outboundResult with
  | ok u => exact ⟨frames, hframes, hdel⟩
  | error e => exact ⟨frames, hframes, hdel⟩

theorem routeRemote_delivery {pending : PendingRemoteDecision}
    (hp : c.core.pendingRemote = some pending) (hid : pending.id = effect.decisionId)
    (hevent : effect.event = event)
    (h : isRemoteLatch pending.previousLatch = true → LatchedElsewhere core event) :
    Delivers core event c.outbound (c.routeRemote effect nowNs) := by
  unfold routeRemote
  rcases dispatchRemoteEffect_cases c effect with
    ⟨f, input, hd, hinput, hf, -⟩ | ⟨error, f, n, hd, hf, -⟩
  · -- the frame is in the FIFO: suppressed, whatever the confirmation says
    rw [hd]
    simp only
    rw [hevent] at hinput
    cases hc : c.core.confirmRemoteInput effect c.outboundSequence nowNs with
    | mk confirmed core' =>
      have hdisp : routedDisposition
          (confirmed.mapError fun error => ⟨some .remoteQueued, .core error⟩) = .suppressLocal := by
        cases confirmed with
        | error e => rfl
        | ok outcome =>
          unfold confirmRemoteInput at hc
          generalize c.core.takeMatchingRemote effect.decisionId nowNs = r at hc
          obtain ⟨_ | pending, core₁⟩ := r
          · cases hc
          · simp only at hc
            revert hc
            fun_cases confirmTaken core₁ pending c.outboundSequence nowNs
            all_goals
              intro hc
              cases hc
            all_goals rfl
      refine ⟨[.input { input with sequence := c.outboundSequence }], hf, ?_⟩
      simp only [hdisp]
      refine ⟨by simp [WireMessage.isInput], fun m hm _ => ⟨input, _, hinput,
        List.mem_singleton.mp hm⟩, fun _ => rfl, fun _ hno => ?_⟩
      cases hno _ (List.mem_singleton.mpr rfl)
  · have htake : c.core.takeMatchingRemote effect.decisionId nowNs
        = (.ok pending, { c.core with pendingRemote := none }) := by
      simp [takeMatchingRemote, hp, hid]
    rw [hd]
    simp only [failRemoteInput, htake, failTaken]
    refine ⟨[], by simp [hf], .of_no_input (by simp) fun hs => Or.inl (h ?_)⟩
    -- only a held remote control stays suppressed
    by_contra hpasses
    rw [if_neg hpasses] at hs
    cases hs

/-! ## The event as a whole -/

theorem latchedElsewhere_of_not_local {latch : Option LatchedDestination}
    (h : latch = (PhysicalControl.fromPayload event.payload).bind
      (fun kt => core.latch? event.sourceDevice kt.1))
    (hl : ¬ LocalOrNone latch) : LatchedElsewhere core event := by
  cases latch with
  | none => exact absurd (Or.inl rfl) hl
  | some latch =>
    obtain ⟨⟨control, transition⟩, hpayload, hlatch⟩ := Option.bind_eq_some_iff.mp h.symm
    refine ⟨control, transition, hpayload, ?_⟩
    cases latch with
    | «local» => exact absurd (Or.inr rfl) hl
    | remote endpoint route => exact Or.inl ⟨endpoint, route, hlatch⟩
    | quarantined => exact Or.inr hlatch

/-- No double delivery and no unexplained loss: `route_captured` appends at most one `Input` frame,
    only for this event and only if the event is suppressed; an event that is suppressed without a
    frame was latched elsewhere by an earlier event or is gated by a pending handoff. -/
theorem routeCaptured_delivery (c : FifoCoordinator ι) (captured : CapturedInput) (nowNs : ℕ) :
    ∃ frames,
      (c.routeCaptured captured nowNs).2.outbound.messages = c.outbound.messages ++ frames
      ∧ Delivery c.core captured.event (routedDisposition (c.routeCaptured captured nowNs).1)
        frames := by
  unfold routeCaptured
  have has := prepareCaptured_as c.core captured nowNs
  generalize c.core.prepareCaptured captured nowNs = r at has ⊢
  cases has with
  | busy | refused => exact ⟨[], by simp, .of_no_input (by simp) fun h => by cases h⟩
  | untracked => exact routeSettled_delivery fun h => by cases h
  | recorded core₁ previousLatch r _ _ hrecord has =>
    have hspec := has.spec
    obtain ⟨⟨controls, count, hcore₁⟩, hprev, -⟩ := recordTransition_ok hrecord
    have hhandoff : core₁.handoffPending = c.core.handoffPending := by rw [hcore₁]
    have hrouting : core₁.routing = c.core.routing := by rw [hcore₁]
    obtain ⟨error | decision, core'⟩ := r
    · exact ⟨[], by simp, .of_no_input (by simp) fun h => by cases h⟩
    · cases decision with
      | «local» outcome =>
        refine routeSettled_delivery fun h => ?_
        rw [hspec.2.1] at h
        cases h
      | inert outcome =>
        refine routeSettled_delivery fun _ => ?_
        rcases hspec.2 with ⟨-, hlatch⟩ | ⟨-, -, hpending, hroute, -⟩
        · exact Or.inl (latchedElsewhere_of_not_local hprev hlatch)
        · exact Or.inr ⟨hhandoff ▸ hpending, hrouting ▸ hroute⟩
      | fault outcome error =>
        refine routeFault_delivery error fun h => ?_
        exact Or.inl (latchedElsewhere_of_not_local hprev (hspec.2.1 h))
      | remote effect =>
        obtain ⟨hevent, -, -, -, -, hcore'⟩ := hspec
        have hpending := congrArg DaemonCore.pendingRemote hcore'
        refine routeRemote_delivery hpending rfl hevent fun h => ?_
        exact latchedElsewhere_of_not_local hprev (not_localOrNone_of_isRemoteLatch h)

end PeerSessionCoordinator

end SoftwareKvm
