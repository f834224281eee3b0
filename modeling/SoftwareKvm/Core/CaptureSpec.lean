import SoftwareKvm.Core.Latch

/-!
# What the routing of a captured event does

`RecordedAs` lists the exits of `prepare_captured` after it recorded the
physical transition, `PreparedAs` those of the whole call. `PrepareSpec` reads
them by decision: what it did to the core, which disposition it chose and why.
-/

namespace SoftwareKvm

open Lib

/-- `failsafe_activated` of a decision. -/
def CaptureDecision.failsafeActivated : CaptureDecision → Bool
  | .local outcome | .inert outcome | .fault outcome _ => outcome.failsafeActivated
  | .remote _ => false

/-- `failsafe_activated` of the answer of `prepare_captured`. -/
def reportsFailsafe : Except CoreCaptureError CaptureDecision → Bool
  | .ok decision => decision.failsafeActivated
  | .error _ => false

/-- The key that a decision for a control is about. -/
def PendingRemoteDecision.heldKey (pending : PendingRemoteDecision) (control : PhysicalControl) :
    HeldKey :=
  ⟨pending.endpoint, pending.device, control⟩

namespace DaemonCore

/-- The failsafe answers for every event: the chord matches, or its keys are
    still being drained. -/
def failsafeAnswers (c : DaemonCore) : Bool := c.failsafeMatches || c.drainFailsafeKeys

/-- The latch that a press during a handoff leaves behind. -/
def quarantinePress (c : DaemonCore) (device : DeviceId) (control : Option PhysicalControl)
    (transition : Option PhysicalTransition) : DaemonCore :=
  match transition, control with
  | some .press, some control => c.setLatch device control .quarantined
  | _, _ => c

/-- The pending decision that `prepare_remote_effect` records for an effect. -/
def pendingFor (effect : RemoteInputEffect) (control : Option PhysicalControl)
    (transition : Option PhysicalTransition) (previousLatch : Option LatchedDestination) :
    PendingRemoteDecision :=
  ⟨effect.decisionId, effect.event.sourceDevice, control, transition, previousLatch,
    effect.endpoint⟩

/-- A repeat or a release: without a previous latch it is always local. -/
def continues (transition : Option PhysicalTransition) : Bool :=
  transition = some .repeat || transition = some .release

/-- Why `prepare_captured` decided to send an event to an endpoint: routing is active, a remote
    latch names the endpoint, and a first press has room in `remote_held`. -/
structure RemoteGrounds (c : DaemonCore) (endpoint : SessionEndpoint)
    (control : Option PhysicalControl) (transition : Option PhysicalTransition)
    (previousLatch : Option LatchedDestination) (nowNs : ℕ) : Prop where
  active : c.routingShouldBeActive nowNs = true
  latched : ∀ e r, previousLatch = some (.remote e r) → e = endpoint
  room : transition = some .press → control.isSome = true → previousLatch = none →
    c.remoteHeld.size < maxRemoteHeldTotal

/-- What a decision of `prepare_captured` says about the step from the core `c`
    with the transition recorded. -/
def PrepareSpec (c : DaemonCore) (event : InputEvent) (control : Option PhysicalControl)
    (transition : Option PhysicalTransition) (previousLatch : Option LatchedDestination)
    (nowNs : ℕ) : CoreResult CaptureDecision → Prop
  | (.error _, c') => Frame c c' ∧ previousLatch = none
  | (.ok (.local outcome), c') =>
    Frame c c' ∧ outcome.disposition = .allowLocal
      ∧ (LocalOrNone previousLatch ∨ c.failsafeAnswers = true)
  | (.ok (.inert outcome), c') =>
    outcome.disposition = .suppressLocal
      ∧ ((Frame c c' ∧ ¬ LocalOrNone previousLatch)
        ∨ (previousLatch = none ∧ continues transition = false ∧ c.handoffPending = true
          ∧ c.routing.routeFor event.sourceDevice = .followActiveHost
          ∧ c' = c.quarantinePress event.sourceDevice control transition))
  | (.ok (.fault outcome _), c') =>
    Frame c c'
      ∧ (outcome.disposition = .suppressLocal → ¬ LocalOrNone previousLatch)
      ∧ (outcome.disposition = .allowLocal →
        LocalOrNone previousLatch ∨ c.failsafeAnswers = true)
  | (.ok (.remote effect), c') =>
    effect.event = event ∧ effect.decisionId = c.nextEffectId ∧ c.nextEffectId + 1 < u64Size
      ∧ (previousLatch = none ∧ continues transition = false
        ∨ isRemoteLatch previousLatch = true)
      ∧ RemoteGrounds c effect.endpoint control transition previousLatch nowNs
      ∧ c' = { c with
          nextEffectId := c.nextEffectId + 1
          pendingRemote := some (pendingFor effect control transition previousLatch) }

theorem not_localOrNone_remote (e : SessionEndpoint) (r : DeviceRoute) :
    ¬ LocalOrNone (some (.remote e r)) := by
  rintro (h | h) <;> cases h

theorem not_localOrNone_of_isRemoteLatch {l : Option LatchedDestination}
    (h : isRemoteLatch l = true) : ¬ LocalOrNone l := by
  match l, h with
  | some (.remote e r), _ => exact not_localOrNone_remote e r

variable {c : DaemonCore} {event : InputEvent} {endpoint : SessionEndpoint}
  {control : Option PhysicalControl} {transition : Option PhysicalTransition}
  {previousLatch : Option LatchedDestination} {nowNs : ℕ}

theorem remoteTargetEndpoint_active {target : HostId} {route : DeviceRoute}
    (h : c.remoteTargetEndpoint target route nowNs = some endpoint) :
    c.routingShouldBeActive nowNs = true := by
  unfold remoteTargetEndpoint at h
  split at h
  · cases h
  · split_ifs at h with hactive
    simp only [Bool.and_eq_true] at hactive
    exact hactive.1.1

/-! ## The exits of the routing -/

/-- `prepare_captured` decided to send the event. -/
def isRemoteDecision : Except CoreCaptureError CaptureDecision → Bool
  | .ok (.remote _) => true
  | _ => false

/-- The target of a remote decision is installed, and during a handoff its route
    does not follow the active host. -/
theorem remoteTargetEndpoint_some {c : DaemonCore} {target : HostId} {route : DeviceRoute}
    {endpoint : SessionEndpoint} {nowNs : ℕ}
    (h : c.remoteTargetEndpoint target route nowNs = some endpoint) :
    (∃ current, c.endpointAvailability.get? target = some current ∧ current.endpoint = endpoint)
      ∧ (c.handoffPending = true → route ≠ .followActiveHost) := by
  unfold remoteTargetEndpoint at h
  split at h
  · cases h
  · next current hget =>
    split_ifs at h with hopen
    refine ⟨⟨current, hget, Option.some.inj h⟩, fun hpending => ?_⟩
    rw [Bool.and_eq_true, Bool.and_eq_true, hpending, Bool.not_true, Bool.false_or, bne_iff_ne]
      at hopen
    exact hopen.1.2

/-- A decision to send an event to `endpoint`: the endpoint that routing gives
    an unlatched event, or the endpoint of its remote latch. -/
inductive RemoteTarget (c : DaemonCore) (event : InputEvent)
    (previousLatch : Option LatchedDestination) (endpoint : SessionEndpoint) (nowNs : ℕ) : Prop
  | routed (target : HostId) (hnone : previousLatch = none)
      (hgate : c.deviceRouteIsGated event.sourceDevice = false)
      (hdest : c.routing.destination event c.workspace = .remote target)
      (htarget : c.remoteTargetEndpoint target (c.routing.routeFor event.sourceDevice) nowNs
        = some endpoint)
  | latched (route : DeviceRoute) (hlatch : previousLatch = some (.remote endpoint route))
      (htarget : c.remoteTargetEndpoint endpoint.hostId route nowNs = some endpoint)

/-- The answers with which `prepare_captured` closes the gate. -/
inductive Refusal (c : DaemonCore) (previousLatch : Option LatchedDestination) (nowNs : ℕ) :
    Except CoreCaptureError CaptureDecision → Prop
  | full (hnone : previousLatch = none) : Refusal c previousLatch nowNs (.error .capacityExceeded)
  | fault (e : CoreCaptureError)
      (hlatch : previousLatch = none ∨ isRemoteLatch previousLatch = true) :
      Refusal c previousLatch nowNs (.ok (.fault (if isRemoteLatch previousLatch
        then .gatedSuppressed else .allowLocal false .gated) e))
  | unavailable (hlatch : isRemoteLatch previousLatch = true)
      (hok : (c.failClosed nowNs).1 = .ok ()) :
      Refusal c previousLatch nowNs (.ok (.inert .gatedSuppressed))

/-- What `prepare_captured` answers, and the core it leaves, once the transition
    is recorded in `c`. -/
inductive RecordedAs (c : DaemonCore) (event : InputEvent) (control : Option PhysicalControl)
    (transition : Option PhysicalTransition) (previousLatch : Option LatchedDestination)
    (nowNs : ℕ) : CoreResult CaptureDecision → Prop
  | passes (state : CaptureRouteState) (hlatch : LocalOrNone previousLatch) :
      RecordedAs c event control transition previousLatch nowNs
        (.ok (.local (.allowLocal false state)), c)
  | inert (hlatch : previousLatch = some .quarantined) :
      RecordedAs c event control transition previousLatch nowNs (.ok (.inert .inert), c)
  /-- A handoff is pending; the event is not a press of a control. -/
  | barred (hnone : previousLatch = none) (ht : continues transition = false)
      (hpending : c.handoffPending = true)
      (hroute : c.routing.routeFor event.sourceDevice = .followActiveHost)
      (hkeep : c.quarantinePress event.sourceDevice control transition = c) :
      RecordedAs c event control transition previousLatch nowNs (.ok (.inert .inert), c)
  | quarantined (k : PhysicalControl) (hk : control = some k) (ht : transition = some .press)
      (hnone : previousLatch = none) (hpending : c.handoffPending = true)
      (hroute : c.routing.routeFor event.sourceDevice = .followActiveHost) :
      RecordedAs c event control transition previousLatch nowNs
        (.ok (.inert .inert), c.setLatch event.sourceDevice k .quarantined)
  | closed (answer : Except CoreCaptureError CaptureDecision)
      (hrefusal : Refusal c previousLatch nowNs answer) :
      RecordedAs c event control transition previousLatch nowNs (answer, (c.failClosed nowNs).2)
  | activated (decision : CaptureDecision)
      (hdecision : decision = .local (.allowLocal true .gated)
          ∧ (activateFailsafe { c with drainFailsafeKeys := true } nowNs).1 = .ok ()
        ∨ ∃ e, decision = .fault (.allowLocal true .gated) e)
      (hmatch : c.failsafeMatches = true) (hdrain : c.drainFailsafeKeys = false) :
      RecordedAs c event control transition previousLatch nowNs
        (.ok decision, (activateFailsafe { c with drainFailsafeKeys := true } nowNs).2)
  | draining (hdrain : c.drainFailsafeKeys = true) :
      RecordedAs c event control transition previousLatch nowNs
        (.ok (.local (.allowLocal false .gated)),
          (if c.anyFailsafeKeyPressed then c
            else { c with drainFailsafeKeys := false }).publish nowNs)
  | remote (endpoint : SessionEndpoint) (hfits : c.nextEffectId + 1 < u64Size)
      (htransition : previousLatch = none → continues transition = false)
      (hroom : transition = some .press → control.isSome = true → previousLatch = none →
        c.remoteHeld.size < maxRemoteHeldTotal)
      (htarget : RemoteTarget c event previousLatch endpoint nowNs) :
      RecordedAs c event control transition previousLatch nowNs
        (.ok (.remote ⟨c.nextEffectId, endpoint, event⟩),
          { c with
            nextEffectId := c.nextEffectId + 1
            pendingRemote := some (pendingFor ⟨c.nextEffectId, endpoint, event⟩ control
              transition previousLatch) })

theorem Refusal.quiet {answer : Except CoreCaptureError CaptureDecision}
    (h : Refusal c previousLatch nowNs answer) : reportsFailsafe answer = false := by
  cases h with
  | full | unavailable => rfl
  | fault =>
    split_ifs <;> rfl

theorem RemoteTarget.active (h : RemoteTarget c event previousLatch endpoint nowNs) :
    c.routingShouldBeActive nowNs = true := by
  cases h with
  | routed _ _ _ _ htarget => exact remoteTargetEndpoint_active htarget
  | latched _ _ htarget => exact remoteTargetEndpoint_active htarget

theorem RemoteTarget.previous (h : RemoteTarget c event previousLatch endpoint nowNs) :
    previousLatch = none ∨ isRemoteLatch previousLatch = true := by
  cases h with
  | routed _ hnone => exact .inl hnone
  | latched _ hlatch => exact .inr (by rw [hlatch]; rfl)

theorem prepareRemoteEffect_as (ht : previousLatch = none → continues transition = false)
    (htarget : RemoteTarget c event previousLatch endpoint nowNs) :
    RecordedAs c event control transition previousLatch nowNs
      (c.prepareRemoteEffect event endpoint control transition previousLatch nowNs) := by
  unfold prepareRemoteEffect
  split
  · next hfull =>
    simp only [Bool.and_eq_true, Option.isNone_iff_eq_none] at hfull
    exact .closed _ (.full hfull.1.2)
  · next hfull =>
    unfold allocateEffectId
    cases hadd : checkedAdd c.nextEffectId 1 with
    | none => exact .closed _ (.fault _ htarget.previous)
    | some next =>
      obtain ⟨rfl, hlt⟩ := checkedAdd_eq_some.mp hadd
      refine .remote endpoint hlt ht (fun h1 h2 h3 => ?_) htarget
      simpa [h1, h2, h3] using hfull

theorem prepareUnlatched_as (hnone : previousLatch = none) (ht : continues transition = false) :
    RecordedAs c event control transition previousLatch nowNs
      (c.prepareUnlatched event control transition previousLatch nowNs) := by
  unfold prepareUnlatched
  simp only
  split_ifs with hgated hhandoff
  · exact .passes _ (.inl hnone)
  · simp only [Bool.and_eq_true, beq_iff_eq] at hhandoff
    split
    · next k => exact .quarantined k rfl rfl hnone hhandoff.1 hhandoff.2
    · next hother =>
      refine .barred hnone ht hhandoff.1 hhandoff.2 ?_
      unfold quarantinePress
      split
      · next k => exact (hother k rfl rfl).elim
      · rfl
  · cases hdest : c.routing.destination event c.workspace with
    | «local» => exact .passes _ (.inl hnone)
    | remote target =>
      simp only
      cases htarget : c.remoteTargetEndpoint target (c.routing.routeFor event.sourceDevice)
          nowNs with
      | none => exact .passes _ (.inl hnone)
      | some endpoint =>
        refine prepareRemoteEffect_as (fun _ => ht) (.routed target hnone ?_ hdest htarget)
        exact Bool.not_eq_true _ ▸ hgated

/-- The decision read off from the exit. -/
theorem RecordedAs.spec {r : CoreResult CaptureDecision}
    (h : RecordedAs c event control transition previousLatch nowNs r) :
    PrepareSpec c event control transition previousLatch nowNs r := by
  cases h with
  | passes _ hlatch => exact ⟨.refl c, rfl, .inl hlatch⟩
  | inert hlatch => exact ⟨rfl, .inl ⟨.refl c, hlatch ▸ by rintro (h | h) <;> cases h⟩⟩
  | barred hnone ht hpending hroute hkeep =>
    exact ⟨rfl, .inr ⟨hnone, ht, hpending, hroute, hkeep.symm⟩⟩
  | quarantined k hk ht hnone hpending hroute =>
    subst hk ht
    exact ⟨rfl, .inr ⟨hnone, rfl, hpending, hroute, rfl⟩⟩
  | closed answer hrefusal =>
    have hf := failClosed_frame c nowNs
    cases hrefusal with
    | full hnone => exact ⟨hf, hnone⟩
    | unavailable hlatch => exact ⟨rfl, .inl ⟨hf, not_localOrNone_of_isRemoteLatch hlatch⟩⟩
    | fault e hlatch =>
      rcases hlatch with rfl | hremote
      · exact ⟨hf, fun hsup => (nomatch hsup), fun _ => .inl (.inl rfl)⟩
      · rw [if_pos hremote]
        exact ⟨hf, fun _ => not_localOrNone_of_isRemoteLatch hremote,
          fun hallow => (nomatch hallow)⟩
  | activated decision hdecision hmatch =>
    -- the chord: every event passes, whatever its latch says
    have hanswers : c.failsafeAnswers = true := by simp [failsafeAnswers, hmatch]
    have hf : Frame c (activateFailsafe { c with drainFailsafeKeys := true } nowNs).2 :=
      (activateFailsafe_frame _ nowNs).after (.of_fields rfl rfl rfl)
    rcases hdecision with ⟨rfl, -⟩ | ⟨e, rfl⟩
    · exact ⟨hf, rfl, .inr hanswers⟩
    · exact ⟨hf, fun hsup => (nomatch hsup), fun _ => .inr hanswers⟩
  | draining hdrain =>
    have hanswers : c.failsafeAnswers = true := by simp [failsafeAnswers, hdrain]
    refine ⟨(publish_frame _ nowNs).after ?_, rfl, .inr hanswers⟩
    split_ifs
    · exact .refl c
    · exact .of_fields rfl rfl rfl
  | remote endpoint hfits htransition hroom htarget =>
    refine ⟨rfl, rfl, hfits, ?_, ⟨htarget.active, fun e r hlatch => ?_, hroom⟩, rfl⟩
    · exact htarget.previous.imp_left fun hnone => ⟨hnone, htransition hnone⟩
    · cases htarget with
      | routed _ hnone =>
        rw [hnone] at hlatch
        cases hlatch
      | latched _ hprevious =>
        rw [hprevious] at hlatch
        cases hlatch
        rfl

section

variable (hfresh : previousLatch = none → LocalOrNone (control.bind (c.latch? event.sourceDevice)))

include hfresh

theorem prepareRouted_as : RecordedAs c event control transition previousLatch nowNs
      (c.prepareRouted event control transition previousLatch nowNs) := by
  unfold prepareRouted
  split
  · next hnone =>
    simp only [Bool.and_eq_true, Option.isNone_iff_eq_none] at hnone
    exact .passes _ (.inl hnone.2)
  · next hsome =>
    cases hprev : previousLatch with
    | none =>
      -- a latch recorded by this very event is `Local` and decides nothing
      have ht : continues transition = false := by simpa [continues, hprev] using hsome
      rcases hfresh hprev with hlatch | hlatch <;> rw [hlatch]
      · exact prepareUnlatched_as rfl ht
      · exact prepareUnlatched_as rfl ht
    | some latch =>
      cases latch with
      | «local» => exact .passes _ (.inr rfl)
      | quarantined => exact .inert rfl
      | remote endpoint route =>
        simp only [Option.some_or]
        split_ifs with havail
        · rw [remoteEndpointAvailable, beq_iff_eq] at havail
          exact prepareRemoteEffect_as (fun h => (nomatch h)) (.latched route rfl havail)
        · have hclosed (answer : Except CoreCaptureError CaptureDecision)
              (h : Refusal c (some (.remote endpoint route)) nowNs answer) :
              RecordedAs c event control transition (some (.remote endpoint route)) nowNs
                (answer, (c.failClosed nowNs).2) := .closed answer h
          have hfault (e : CoreCaptureError) :=
            hclosed _ (.fault e (.inr (rfl : isRemoteLatch (some (.remote endpoint route)) = true)))
          have hinert := fun hok => hclosed _ (.unavailable rfl hok)
          generalize c.failClosed nowNs = r at hfault hinert ⊢
          obtain ⟨error | _, c'⟩ := r
          · exact hfault error
          · exact hinert rfl

variable (c event control transition previousLatch nowNs)

/-- The exits of `prepare_captured` after the transition is recorded. -/
theorem prepareRecorded_as :
    RecordedAs c event control transition previousLatch nowNs
      (c.prepareRecorded event control transition previousLatch nowNs) := by
  unfold prepareRecorded
  split
  · next hmatch =>
    simp only [Bool.and_eq_true, Bool.not_eq_true'] at hmatch
    have hact (decision : CaptureDecision) (h) :
        RecordedAs c event control transition previousLatch nowNs
          (.ok decision, (activateFailsafe { c with drainFailsafeKeys := true } nowNs).2) :=
      .activated decision h hmatch.1 hmatch.2
    generalize activateFailsafe { c with drainFailsafeKeys := true } nowNs = r at hact ⊢
    obtain ⟨e | _, c'⟩ := r
    · exact hact _ (.inr ⟨e, rfl⟩)
    · exact hact _ (.inl ⟨rfl, rfl⟩)
  · split
    · next hdrain => exact .draining hdrain
    · exact prepareRouted_as hfresh

/-- The decision for an event whose physical transition is recorded. -/
theorem prepareRecorded_spec :
    PrepareSpec c event control transition previousLatch nowNs
      (c.prepareRecorded event control transition previousLatch nowNs) :=
  (prepareRecorded_as c event control transition previousLatch nowNs hfresh).spec

end

/-! ## Confirming a decision -/

/-- `take_matching_remote` takes the pending decision or closes the gate. -/
theorem takeMatchingRemote_cases (c : DaemonCore) (decisionId nowNs : ℕ) :
    (∃ pending, c.pendingRemote = some pending ∧ pending.id = decisionId
        ∧ c.takeMatchingRemote decisionId nowNs = (.ok pending, { c with pendingRemote := none }))
      ∨ (∀ pending, c.pendingRemote = some pending → pending.id ≠ decisionId)
        ∧ c.takeMatchingRemote decisionId nowNs
          = (.error .staleDecision, c.closeGate.publish nowNs) := by
  unfold takeMatchingRemote
  cases c.pendingRemote with
  | none => exact Or.inr ⟨fun _ h => (nomatch h), rfl⟩
  | some pending =>
    by_cases hid : pending.id = decisionId
    · exact Or.inl ⟨pending, rfl, hid, if_pos hid⟩
    · exact Or.inr ⟨fun _ h => (Option.some.inj h) ▸ hid, if_neg hid⟩

/-- A settlement of the pending decision takes it; without a pending decision it
    closes the gate. -/
theorem takeMatchingRemote_settles {c : DaemonCore} {decisionId : ℕ}
    (h : ∀ pending ∈ c.pendingRemote, pending.id = decisionId) (nowNs : ℕ) :
    (∃ pending, c.pendingRemote = some pending
        ∧ c.takeMatchingRemote decisionId nowNs = (.ok pending, { c with pendingRemote := none }))
      ∨ c.pendingRemote = none
        ∧ c.takeMatchingRemote decisionId nowNs
          = (.error .staleDecision, c.closeGate.publish nowNs) := by
  rcases takeMatchingRemote_cases c decisionId nowNs with
    ⟨pending, hp, -, htake⟩ | ⟨hother, htake⟩
  · exact Or.inl ⟨pending, hp, htake⟩
  · refine Or.inr ⟨?_, htake⟩
    cases hp : c.pendingRemote with
    | none => rfl
    | some pending => exact absurd (h pending hp) (hother pending hp)

/-- What `confirm_remote_input` does once the decision is taken. -/
inductive ConfirmSpec (c : DaemonCore) (pending : PendingRemoteDecision) (sequence nowNs : ℕ) :
    CoreResult CaptureOutcome → Prop
  | full (k : PhysicalControl) (e : CoreCaptureError) (hk : pending.control = some k)
      (ht : pending.transition = some .press)
      (hnew : c.remoteHeld.contains (pending.heldKey k) = false)
      (hfull : maxRemoteHeldTotal ≤ c.remoteHeld.size) :
      ConfirmSpec c pending sequence nowNs (.error e, (c.failClosed nowNs).2)
  | press (k : PhysicalControl) (hk : pending.control = some k)
      (ht : pending.transition = some .press)
      (hroom : c.remoteHeld.contains (pending.heldKey k) = true
        ∨ c.remoteHeld.size < maxRemoteHeldTotal) :
      ConfirmSpec c pending sequence nowNs (.ok .remoteQueued, publish (setLatch
        { c with remoteHeld :=
            c.remoteHeld.insert (pending.heldKey k) ⟨c.confirmedRoute pending, sequence⟩ }
        pending.device k (.remote pending.endpoint (c.confirmedRoute pending))) nowNs)
  | release (k : PhysicalControl) (hk : pending.control = some k)
      (ht : pending.transition = some .release) :
      ConfirmSpec c pending sequence nowNs (.ok .remoteQueued, publish
        { c with remoteHeld := c.remoteHeld.erase (pending.heldKey k) } nowNs)
  | repeated (k : PhysicalControl) (hk : pending.control = some k)
      (ht : pending.transition = some .repeat)
      (hheld : c.remoteHeld.contains (pending.heldKey k) = true) :
      ConfirmSpec c pending sequence nowNs (.ok .remoteQueued, publish
        { c with remoteHeld := c.remoteHeld.modify (pending.heldKey k) fun held =>
            { held with lastInputSequence := sequence } } nowNs)
  | stale (k : PhysicalControl) (hk : pending.control = some k)
      (ht : pending.transition = some .repeat)
      (hheld : c.remoteHeld.contains (pending.heldKey k) = false) :
      ConfirmSpec c pending sequence nowNs (.error .staleDecision, (c.failClosed nowNs).2)
  | stateless (h : pending.control = none ∨ pending.transition = none) :
      ConfirmSpec c pending sequence nowNs (.ok .remoteQueued, c.publish nowNs)

theorem confirmTaken_spec (c : DaemonCore) (pending : PendingRemoteDecision) (sequence nowNs : ℕ) :
    ConfirmSpec c pending sequence nowNs (c.confirmTaken pending sequence nowNs) := by
  have hclosed {r : Except CoreCaptureError Unit} {c' : DaemonCore}
      (h : c.failClosed nowNs = (r, c')) : c' = (c.failClosed nowNs).2 := by rw [h]
  fun_cases confirmTaken c pending sequence nowNs
  case case1 k ht hk _ hfull e c' h | case2 k ht hk _ hfull c' h =>
    rw [hclosed h]
    simp only [Bool.and_eq_true, Bool.not_eq_true', decide_eq_true_eq] at hfull
    exact .full k _ hk ht hfull.1 hfull.2
  case case3 k ht hk _ hroom _ _ _ =>
    refine .press k hk ht ?_
    simpa [PendingRemoteDecision.heldKey, Classical.or_iff_not_imp_left] using hroom
  case case4 k ht hk _ => exact .release k hk ht
  case case5 k ht hk _ hheld _ => exact .repeated k hk ht hheld
  case case6 k ht hk _ hheld => exact .stale k hk ht (Bool.not_eq_true _ ▸ hheld)
  case case7 hpress hrelease hrepeat =>
    refine .stateless ?_
    cases hk : pending.control with
    | none => exact Or.inl rfl
    | some k =>
      cases ht : pending.transition with
      | none => exact Or.inr rfl
      | some t =>
        cases t with
        | press => exact (hpress k hk ht).elim
        | «repeat» => exact (hrepeat k hk ht).elim
        | release => exact (hrelease k hk ht).elim

/-- A relation that contains the steps of a settlement at `nowNs`. -/
structure Settling (R : DaemonCore → DaemonCore → Prop) (nowNs : ℕ) : Prop where
  trans : ∀ {c c' c''}, R c c' → R c' c'' → R c c''
  gate : ∀ c, R c c.closeGate
  publish : ∀ c, R c (c.publish nowNs)
  take : ∀ c remoteHeld, R c { c with pendingRemote := none, remoteHeld }
  latch : ∀ c d k l, R c (c.setLatch d k l)
  close : ∀ c, R c (c.failClosed nowNs).2

section

variable {R : DaemonCore → DaemonCore → Prop} (h : Settling R nowNs) (c : DaemonCore)
  (effect : RemoteInputEffect)

include h

theorem Settling.confirmRemoteInput (sequence : ℕ) :
    R c (c.confirmRemoteInput effect sequence nowNs).2 := by
  unfold DaemonCore.confirmRemoteInput
  rcases takeMatchingRemote_cases c effect.decisionId nowNs with
    ⟨pending, -, -, htake⟩ | ⟨-, htake⟩
  · rw [htake]
    simp only
    have hspec := confirmTaken_spec { c with pendingRemote := none } pending sequence nowNs
    generalize confirmTaken _ pending sequence nowNs = r at hspec ⊢
    cases hspec with
    | full | stale => exact h.trans (h.take c c.remoteHeld) (h.close _)
    | press k => exact h.trans (h.trans (h.take c _) (h.latch _ pending.device k _)) (h.publish _)
    | release | repeated | stateless => exact h.trans (h.take c _) (h.publish _)
  · rw [htake]
    exact h.trans (h.gate c) (h.publish _)

theorem Settling.failRemoteInput : R c (c.failRemoteInput effect nowNs).2 := by
  have htaken := h.take c c.remoteHeld
  unfold DaemonCore.failRemoteInput
  rcases takeMatchingRemote_cases c effect.decisionId nowNs with
    ⟨pending, -, -, htake⟩ | ⟨-, htake⟩
  · rw [htake]
    refine h.trans ?_ (h.close _)
    split
    · exact h.trans htaken (h.latch _ _ _ _)
    · exact htaken
  · rw [htake]
    exact h.trans (h.gate c) (h.publish _)

end

/-- A relation that contains every assignment of a captured event and its
    settlement, besides the record of the control. -/
structure Capturing (R : DaemonCore → DaemonCore → Prop) : Prop where
  trans : ∀ {c c' c''}, R c c' → R c' c'' → R c c''
  assign : ∀ (c : DaemonCore) workspace suspendedUntilNs drainFailsafeKeys remoteHeld pendingRemote
    nextEffectId workspaceReady handoffPending snapshot, R c { c with
      workspace, suspendedUntilNs, drainFailsafeKeys, remoteHeld, pendingRemote
      nextEffectId, workspaceReady, handoffPending, snapshot }
  queue : ∀ c, R c (c.queueRemoteCleanup allHeld).2
  latch : ∀ c d k l, R c (c.setLatch d k l)

section

variable {R : DaemonCore → DaemonCore → Prop} (h : Capturing R) (c : DaemonCore) (nowNs : ℕ)

include h

theorem Capturing.failClosed : R c (c.failClosed nowNs).2 :=
  h.trans (h.trans (h.assign c ..) (h.queue c.closeGate)) (h.assign ..)

theorem Capturing.settling : Settling R nowNs :=
  ⟨h.trans, (h.assign · ..), (h.assign · ..), fun c _ => h.assign c .., h.latch,
    (h.failClosed · nowNs)⟩

theorem Capturing.activateFailsafe : R c (c.activateFailsafe nowNs).2 := by
  have hq := h.trans (h.assign c ..) (h.queue (c.suspendRouting nowNs))
  unfold DaemonCore.activateFailsafe
  generalize (c.suspendRouting nowNs).queueRemoteCleanup allHeld = r at hq ⊢
  obtain ⟨_ | _, c'⟩ := r <;> exact h.trans hq (h.assign c' ..)

variable {c nowNs}

theorem Capturing.recorded {r : CoreResult CaptureDecision}
    (has : RecordedAs c event control transition previousLatch nowNs r) : R c r.2 := by
  cases has with
  | closed => exact h.failClosed c nowNs
  | activated => exact h.trans (h.assign c ..) (h.activateFailsafe _ nowNs)
  | draining => split_ifs <;> exact h.assign c ..
  | quarantined k => exact h.latch c _ k _
  | passes | inert | barred | remote => exact h.assign c ..

end

/-! ## Recording the transition -/

theorem ensurePhysicalCapacity_frame (c : DaemonCore) (device : DeviceId) :
    Frame c (c.ensurePhysicalCapacity device).2 := by
  unfold ensurePhysicalCapacity
  simp only
  split_ifs
  · exact .of_fields rfl rfl rfl
  · exact .refl c

variable {device : DeviceId} {stateful : Option ControlTransition}

theorem ensurePhysicalCapacity_ok {c' : DaemonCore} {u : Unit}
    (h : c.ensurePhysicalCapacity device = (.ok u, c')) : c' = c := by
  unfold ensurePhysicalCapacity at h
  simp only at h
  split_ifs at h
  · cases h
  · cases h; rfl

/-- A recorded press: the control had a latch already, or it gets a local one within the limits. -/
theorem recordTransition_press {c₁ : DaemonCore} {k : PhysicalControl}
    (h : c.recordTransition device (some (k, .press)) nowNs = (.ok previousLatch, c₁)) :
    (∃ latch, c.latch? device k = some latch ∧ previousLatch = some latch ∧ c₁ = c)
    ∨ (c.latch? device k = none ∧ previousLatch = none ∧ c₁ = c.insertLatch device k
      ∧ c.ensurePhysicalCapacity device = (.ok (), c)) := by
  unfold recordTransition at h
  simp only at h
  cases hl : c.latch? device k with
  | some latch =>
    rw [hl] at h
    cases h
    exact Or.inl ⟨latch, rfl, rfl, rfl⟩
  | none =>
    rw [hl] at h
    cases hcap : c.ensurePhysicalCapacity device with
    | mk result c₂ =>
      rw [hcap] at h
      cases result with
      | error e => cases (Prod.mk.inj h).1
      | ok u =>
        obtain rfl := ensurePhysicalCapacity_ok hcap
        cases h
        exact Or.inr ⟨rfl, rfl, rfl, rfl⟩

/-- A transition that cannot be recorded is a press beyond the limits; it closes the gate. -/
theorem recordTransition_error {c' : DaemonCore} {e : CoreCaptureError}
    (h : c.recordTransition device stateful nowNs = (.error e, c')) :
    e = .capacityExceeded ∧ c' = (c.activateLocal.unready.failClosed nowNs).2
      ∧ ∃ k, stateful = some (k, .press) ∧ c.latch? device k = none := by
  unfold recordTransition at h
  split at h
  · cases h
  · next k =>
    cases hl : c.latch? device k with
    | some latch =>
      rw [hl] at h
      cases h
    | none =>
      rw [hl] at h
      unfold ensurePhysicalCapacity at h
      simp only at h
      split_ifs at h
      · cases h
        exact ⟨rfl, rfl, k, rfl, hl⟩
      · cases (Prod.mk.inj h).1
  · cases h
  · cases h

/-- Recording a transition changes only `physical_controls` and its counter,
    and returns the latch that the control had before. -/
theorem recordTransition_ok {c₁ : DaemonCore}
    (h : c.recordTransition device stateful nowNs = (.ok previousLatch, c₁)) :
    (∃ controls count,
      c₁ = { c with physicalControls := controls, physicalControlCount := count })
    ∧ previousLatch = stateful.bind (fun kt => c.latch? device kt.1)
    ∧ (previousLatch = none → LocalOrNone ((stateful.map Prod.fst).bind (c₁.latch? device))) := by
  have hsame : ∃ controls count,
      c = { c with physicalControls := controls, physicalControlCount := count } :=
    ⟨c.physicalControls, c.physicalControlCount, rfl⟩
  match stateful with
  | none =>
    cases h
    exact ⟨hsame, rfl, fun _ => Or.inl rfl⟩
  | some (k, .repeat) =>
    cases h
    exact ⟨hsame, rfl, fun hnone => Or.inl hnone⟩
  | some (k, .release) =>
    cases h
    refine ⟨?_, rfl, fun _ => Or.inl ?_⟩
    · unfold removeLatch
      split
      · exact hsame
      · split
        · exact ⟨_, _, rfl⟩
        · exact hsame
    · simp [latch?_removeLatch]
  | some (k, .press) =>
    rcases recordTransition_press h with ⟨latch, hl, rfl, rfl⟩ | ⟨hl, rfl, rfl, -⟩
    · exact ⟨hsame, by simp [hl], fun hnone => by cases hnone⟩
    · refine ⟨⟨_, _, rfl⟩, by simp [hl], fun _ => Or.inr ?_⟩
      simp [latch?_insertLatch]

/-- What `prepare_captured` answers and the core it leaves. -/
inductive PreparedAs (c : DaemonCore) (captured : CapturedInput) (nowNs : ℕ) :
    CoreResult CaptureDecision → Prop
  | busy (hpending : c.pendingRemote.isSome = true) :
      PreparedAs c captured nowNs (.error .unavailable, c)
  | untracked (htracks : c.tracksEvent captured = false) :
      PreparedAs c captured nowNs (.ok (.local (.allowLocal false .local)), c)
  | refused (e : CoreCaptureError) (c' : DaemonCore) (hnone : c.pendingRemote = none)
      (htracks : c.tracksEvent captured = true)
      (hrecord : c.recordTransition captured.event.sourceDevice
        (PhysicalControl.fromPayload captured.event.payload) nowNs = (.error e, c')) :
      PreparedAs c captured nowNs (.error e, c')
  | recorded (c₁ : DaemonCore) (previousLatch : Option LatchedDestination)
      (answer : CoreResult CaptureDecision)
      (hnone : c.pendingRemote = none) (htracks : c.tracksEvent captured = true)
      (hrecord : c.recordTransition captured.event.sourceDevice
        (PhysicalControl.fromPayload captured.event.payload) nowNs = (.ok previousLatch, c₁))
      (has : RecordedAs c₁ captured.event
        ((PhysicalControl.fromPayload captured.event.payload).map Prod.fst)
        ((PhysicalControl.fromPayload captured.event.payload).map Prod.snd) previousLatch nowNs
        answer) :
      PreparedAs c captured nowNs answer

theorem prepareCaptured_as (c : DaemonCore) (captured : CapturedInput) (nowNs : ℕ) :
    PreparedAs c captured nowNs (c.prepareCaptured captured nowNs) := by
  unfold prepareCaptured
  split_ifs with hpending htracks
  · exact .busy hpending
  · rw [Bool.not_eq_true'] at htracks
    exact .untracked htracks
  · rw [Bool.not_eq_true, Option.isSome_eq_false_iff, Option.isNone_iff_eq_none] at hpending
    rw [Bool.not_eq_true', Bool.not_eq_false] at htracks
    simp only
    cases hr : c.recordTransition captured.event.sourceDevice
        (PhysicalControl.fromPayload captured.event.payload) nowNs with
    | mk result c₁ =>
      cases result with
      | error e => exact .refused e c₁ hpending htracks hr
      | ok previousLatch =>
        exact .recorded c₁ previousLatch _ hpending htracks hr
          (prepareRecorded_as c₁ _ _ _ _ _ (recordTransition_ok hr).2.2)

theorem Capturing.prepareCaptured {R : DaemonCore → DaemonCore → Prop} (h : Capturing R)
    (hrecord : ∀ {c device stateful nowNs previousLatch c₁},
      c.recordTransition device stateful nowNs = (.ok previousLatch, c₁) → R c c₁)
    (c : DaemonCore) (captured : CapturedInput) (nowNs : ℕ) :
    R c (c.prepareCaptured captured nowNs).2 := by
  have has := prepareCaptured_as c captured nowNs
  generalize c.prepareCaptured captured nowNs = r at has ⊢
  cases has with
  | busy | untracked => exact h.assign c ..
  | refused e c' _ _ hrefused =>
    obtain ⟨-, rfl, -⟩ := recordTransition_error hrefused
    exact h.trans (h.assign c ..) (h.failClosed _ nowNs)
  | recorded c₁ previousLatch _ _ _ hrecorded has =>
    exact h.trans (hrecord hrecorded) (h.recorded has)

end DaemonCore

end SoftwareKvm
