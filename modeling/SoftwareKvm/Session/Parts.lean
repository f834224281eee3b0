import SoftwareKvm.Session.Receive

/-!
# Operations and their parts

Every operation of `PeerSessionCoordinator` is put together from a few parts:
operations of the core, drains, releases of injected input, assignments to the
session and injections. `Routing`, `Ending` and `Injecting` say that a relation
between coordinators contains these parts, and one lemma per operation says
that it then contains the operation. An invariant is such a relation too: it
holds after a part if it holds before.

* `Blind`: a relation that does not read the core; it contains a drain and the
  routing of a captured event as soon as it contains an offer.
* `releaseLoop_induction`: the loop of `release_all_inbound`.
* `releaseAllInbound_inboundOnly`: releasing injected input touches only the
  inbound side.
-/

namespace SoftwareKvm

open Lib

/-- The operations of the core that a coordinator runs while it has a session. -/
def CoreOp.OfSession : CoreOp → Prop
  | .tick _ | .triggerEmergency _ | .shutdown _ => True
  | .clearWorkspaceRoutingReady _ | .markWorkspaceRoutingReady _ => True
  | .beginPointerHandoff _ | .cancelPointerHandoff _ => True
  | .abortDestinationHandoffBarrier _ | .finishPointerHandoff _ _ => True
  | .setEndpointState _ _ _ | .retireSessionEndpoint _ _ => True
  | .gateLocalDevices _ _ | .restoreLocalDevice _ _ => True
  | _ => False

namespace PeerSessionCoordinator

variable {ι ω : Type} {c c' : PeerSessionCoordinator ι ω} {nowNs : ℕ}

/-- The release of one control. -/
def IsRelease (payload : InputPayload) : Prop := ∃ control : PhysicalControl,
  payload = control.releasePayload

/-- The releases of the held controls. -/
theorem mem_inboundReleases {selected : Option DeviceId} {device : DeviceId}
    {payload : InputPayload} (h : (device, payload) ∈ c.inboundReleases selected) :
    ∃ control, (device, control) ∈ c.heldControls ∧ payload = control.releasePayload := by
  simp only [inboundReleases, List.mem_flatMap] at h
  obtain ⟨⟨d, state⟩, hentry, hmem⟩ := h
  have hget : c.inboundPressed.get? d = some state := OrdMap.mem_entries.mp hentry
  split_ifs at hmem
  · cases hmem
  · obtain ⟨p, hp, heq⟩ := List.mem_map.mp hmem
    obtain ⟨rfl, rfl⟩ := Prod.mk.inj heq
    obtain ⟨control, hholds, rfl⟩ := PressedState.mem_releasePayloads.mp hp
    refine ⟨control, mem_heldControls.mpr ?_, rfl⟩
    simpa [hget] using hholds

theorem inboundReleases_isRelease (c : PeerSessionCoordinator ι ω) (selected : Option DeviceId) :
    ∀ release ∈ c.inboundReleases selected, IsRelease release.2 :=
  fun _ hmem => (mem_inboundReleases hmem).imp fun _ hcontrol => hcontrol.2

variable {R : CoordinatorRelation ι ω}

section Blind

variable [OutboundPeer ω]

/-! ## Relations that do not read the core -/

/-- A drain is made of operations of the core and of attempts to send. -/
theorem drainRemoteCleanup_parts (hrefl : ∀ c, R c c) (htrans : ∀ {a b c}, R a b → R b c → R a c)
    (hcore : ∀ c (op : CoreOp) committed, R c { c with core := op.apply c.core, committed })
    (hsend : ∀ c effect, R c (c.sendCleanup effect).2) (c : PeerSessionCoordinator ι ω)
    (nowNs : ℕ) :
    R c (c.drainRemoteCleanup nowNs).2 := by
  refine drainRemoteCleanup_induction hrefl htrans (fun c effect core htake => ?_) c
  obtain rfl : c.core.takeNextCleanupRelease.2 = core := congrArg Prod.snd htake
  have hsent := htrans (hcore c .takeNextCleanupRelease c.committed) (hsend _ effect)
  simp only [CoreOp.apply] at hsent
  unfold drainStep
  generalize sendCleanup { c with core := c.core.takeNextCleanupRelease.2 } effect = r at hsent ⊢
  obtain ⟨error | _, c₁⟩ := r
  · have hretry := htrans hsent (hcore c₁ (.retryCleanupRelease effect nowNs) c₁.committed)
    simp only [CoreOp.apply, liftCore] at hretry ⊢
    generalize c₁.core.retryCleanupRelease effect nowNs = retried at hretry ⊢
    obtain ⟨_ | _, core'⟩ := retried <;> exact hretry
  · exact htrans hsent (hcore c₁ (.confirmCleanupRelease effect nowNs) _)

/-- A relation that does not read the core, the settled cores and the outbound counter. -/
structure Blind (R : CoordinatorRelation ι ω) : Prop where
  refl : ∀ c, R c c
  trans : ∀ {c c' c''}, R c c' → R c' c'' → R c c''
  quiet : ∀ c core committed outboundSequence, R c { c with core, committed, outboundSequence }
  offer : ∀ c message,
    c.acceptsInput = true ∨ c.authorized.isSome = true ∧ message.isRelease = true →
    R c (c.offer message).2

namespace Blind

variable (h : Blind R)

include h

variable (c : PeerSessionCoordinator ι ω)

theorem nextOutboundSequence : R c c.nextOutboundSequence.2 := by
  unfold PeerSessionCoordinator.nextOutboundSequence
  split
  · exact h.refl c
  · exact h.quiet c _ _ _

theorem sendCleanup (effect : CleanupReleaseEffect) : R c (c.sendCleanup effect).2 := by
  unfold PeerSessionCoordinator.sendCleanup
  split
  · exact h.refl c
  next session hsession =>
    split_ifs
    · exact h.refl c
    · have hnext := h.nextOutboundSequence c
      have hauthorized := (nextOutboundSequence_outboundOnly c).authorized
      generalize c.nextOutboundSequence = r at hnext hauthorized ⊢
      obtain ⟨error | sequence, c₁⟩ := r
      · exact hnext
      · simp only at hauthorized ⊢
        split_ifs
        · exact hnext
        · split
          · exact hnext
          · exact h.trans hnext (h.offer c₁ _ (.inr ⟨by simp [hauthorized, hsession], rfl⟩))

theorem drain (nowNs : ℕ) : R c (c.drainRemoteCleanup nowNs).2 :=
  drainRemoteCleanup_parts h.refl h.trans (fun c _ committed => h.quiet c _ committed _)
    h.sendCleanup c nowNs

theorem dispatchRemoteEffect (effect : RemoteInputEffect) :
    R c (c.dispatchRemoteEffect effect).2 := by
  unfold PeerSessionCoordinator.dispatchRemoteEffect
  split
  · exact h.refl c
  next session hsession =>
    split_ifs with hgated
    · exact h.refl c
    · exact h.refl c
    split
    · exact h.refl c
    next input _ =>
      have hnext := h.nextOutboundSequence c
      have hauthorized := (nextOutboundSequence_outboundOnly c).authorized
      generalize c.nextOutboundSequence = r at hnext hauthorized ⊢
      obtain ⟨error | sequence, c₁⟩ := r
      · exact hnext
      · simp only at hauthorized ⊢
        have hoffer := h.trans hnext (h.offer c₁ (.input { input with sequence })
          (.inl (by simpa [acceptsInput, hauthorized, hsession] using hgated)))
        generalize c₁.offer (.input { input with sequence }) = offered at hoffer ⊢
        obtain ⟨_ | _, c₂⟩ := offered <;> exact hoffer

end Blind

end Blind

variable [OutputInjectionBackend ι]

/-- The induction over the loop of `release_all_inbound`. -/
theorem releaseLoop_induction (hrefl : ∀ c, R c c) (htrans : ∀ {a b c}, R a b → R b c → R a c)
    (hsynthetic : ∀ c next, R c { c with syntheticSequence := next })
    (hinject : ∀ c event, IsRelease event.payload →
      R c { c with injection := (OutputInjectionBackend.inject c.injection event).2 })
    (hrelease : ∀ c device (control : PhysicalControl), R c { c with
      inboundPressed := c.inboundPressed.modify device (·.apply control.releasePayload) })
    {releases : DeviceEvents}
    (hreleases : ∀ release ∈ releases, IsRelease release.2)
    (firstError : Option CoordinatorError) (c : PeerSessionCoordinator ι ω) :
    R c (releaseLoop nowNs releases firstError c).2 := by
  induction releases generalizing firstError c with
  | nil => exact hrefl c
  | cons release rest ih =>
    obtain ⟨device, payload⟩ := release
    obtain ⟨control, rfl⟩ : IsRelease payload := hreleases _ List.mem_cons_self
    have hrest := ih fun release hmem => hreleases release (List.mem_cons_of_mem _ hmem)
    unfold releaseLoop syntheticEvent
    split
    next herror =>
      split at herror <;> cases herror
      exact hrefl c
    next event c₁ hevent =>
      split at hevent <;> cases hevent
      next next _ =>
      refine htrans (hsynthetic c next) ?_
      have hinjected := hinject { c with syntheticSequence := next }
        ⟨c.syntheticSequence, nowNs, c.expected.hostId, device, control.releasePayload⟩
          ⟨control, rfl⟩
      generalize OutputInjectionBackend.inject c.injection _ = injected at hinjected ⊢
      obtain ⟨_ | _, injection⟩ := injected
      · exact htrans hinjected (hrest _ _)
      · exact htrans hinjected (htrans (hrelease _ device control) (hrest _ _))

theorem releaseAllInbound_snd (c : PeerSessionCoordinator ι ω) (nowNs : ℕ) :
    (c.releaseAllInbound nowNs).2 =
      let c' := (releaseLoop nowNs (c.inboundReleases none) none c).2
      { c' with inboundPressed := c'.inboundPressed.filter fun _ state => !state.isEmpty } := by
  unfold releaseAllInbound
  dsimp only
  split <;> rfl

theorem releaseAllInbound_inboundOnly (c : PeerSessionCoordinator ι ω) (nowNs : ℕ) :
    InboundOnly c (c.releaseAllInbound nowNs).2 := by
  have hloop : InboundOnly c (releaseLoop nowNs (c.inboundReleases none) none c).2 :=
    releaseLoop_induction .refl .trans (fun c _ => { InboundOnly.refl c with })
      (fun c _ _ => { InboundOnly.refl c with }) (fun c _ _ => { InboundOnly.refl c with })
      (c.inboundReleases_isRelease none) none c
  rw [releaseAllInbound_snd]
  exact { hloop with }

variable [OutboundPeer ω]

/-! ## Relations that contain the parts of an operation -/

/-- The parts of routing and of a handoff; the captured events that become remote satisfy `S`. -/
structure Routing (S : CapturedInput → Prop) (R : CoordinatorRelation ι ω) : Prop where
  refl : ∀ c, R c c
  trans : ∀ {c c' c''}, R c c' → R c' c'' → R c c''
  core : ∀ c (op : CoreOp), op.OfSession → R c { c with core := op.apply c.core }
  prepare : ∀ c captured nowNs,
    DaemonCore.isRemoteDecision (c.core.prepareCaptured captured nowNs).1 = false →
      R c { c with core := (c.core.prepareCaptured captured nowNs).2 }
  remote : ∀ c captured effect core nowNs, S captured →
    c.core.prepareCaptured captured nowNs = (.ok (.remote effect), core) →
      R c (routeRemote { c with core } effect nowNs).2
  release : ∀ c nowNs, R c (c.releaseAllInbound nowNs).2
  drain : ∀ c nowNs, R c (c.drainRemoteCleanup nowNs).2

/-- The parts of the end of a session; only if `O` holds, input may be accepted again. -/
structure Ending (S : CapturedInput → Prop) (O : Prop) (R : CoordinatorRelation ι ω) : Prop
    extends Routing S R where
  session : ∀ c (f : AuthorizedSession → AuthorizedSession), (∀ a, (f a).endpoint = a.endpoint ∧
    ((f a).acceptsInput = true → a.acceptsInput = true)) →
      R c { c with authorized := c.authorized.map f }
  reopen : O → ∀ c, R c (c.setAcceptsInput true)
  close : ∀ c core, R c { c with authorized := none, core }

/-- The parts of a received message; the events that are injected satisfy `G`. -/
structure Injecting (S : CapturedInput → Prop) (O : Prop)
    (G : PeerSessionCoordinator ι ω → InputEvent → Prop) (R : CoordinatorRelation ι ω) : Prop
    extends Ending S O R where
  synthetic : ∀ c next, R c { c with syntheticSequence := next }
  released : ∀ c event, IsRelease event.payload → G c event
  press : ∀ c event control, G c event →
    PhysicalControl.fromPayload event.payload = some (control, .press) →
      R c (c.recordPress event.sourceDevice event.payload)
        ∧ G (c.recordPress event.sourceDevice event.payload) event
  inject : ∀ c event, G c event →
    R c { c with injection := (OutputInjectionBackend.inject c.injection event).2 }
  forget : ∀ c (event : InputEvent) control,
    PhysicalControl.fromPayload event.payload = some (control, .release) →
      R c (c.applyRelease event.sourceDevice event.payload)

namespace Routing

variable {S : CapturedInput → Prop} (h : Routing S R)

include h

/-- An operation of the core, in the form the source calls it. -/
theorem lift {α : Type} {result : CoreResult α} (op : CoreOp)
    (hop : op.OfSession) (hresult : result.2 = op.apply c.core) : R c (c.liftCore result).2 := by
  rw [liftCore, hresult]
  exact h.core c op hop

theorem thenDrain {result : CoreResult Unit} (op : CoreOp)
    (hop : op.OfSession) (hresult : result.2 = op.apply c.core) :
    R c (c.thenDrain result nowNs).2 := by
  have hlift := h.lift op hop hresult
  unfold PeerSessionCoordinator.thenDrain
  generalize c.liftCore result = r at hlift ⊢
  obtain ⟨_ | _, c₁⟩ := r
  · exact hlift
  · exact h.trans hlift (h.drain c₁ nowNs)

/-- The opening of both handoffs: a failed drain is followed by another operation of the core. -/
theorem beginHandoff (undo : CoreOp) (hundo : undo.OfSession) {r : CoordinatorResult ι ω Unit}
    (hr : r = match c.liftCore (c.core.beginPointerHandoff nowNs) with
      | (.error error, c) => (.error error, c)
      | (.ok (), c) =>
        match c.drainRemoteCleanup nowNs with
        | (.ok (), c) => (.ok (), c)
        | (.error error, c) => (.error error, { c with core := undo.apply c.core })) : R c r.2 := by
  have hlift : R c (c.liftCore (c.core.beginPointerHandoff nowNs)).2 :=
    h.lift (.beginPointerHandoff nowNs) trivial rfl
  subst hr
  generalize c.liftCore (c.core.beginPointerHandoff nowNs) = r at hlift ⊢
  obtain ⟨_ | _, c₁⟩ := r
  · exact hlift
  · have hdrain := h.trans hlift (h.drain c₁ nowNs)
    simp only
    generalize c₁.drainRemoteCleanup nowNs = drained at hdrain ⊢
    obtain ⟨_ | _, c₂⟩ := drained
    · exact h.trans hdrain (h.core c₂ undo hundo)
    · exact hdrain

variable (c : PeerSessionCoordinator ι ω)

theorem beginPointerHandoff (nowNs : ℕ) : R c (c.beginPointerHandoff nowNs).2 :=
  h.beginHandoff (.cancelPointerHandoff nowNs) trivial rfl

theorem beginDestinationHandoffBarrier (nowNs : ℕ) :
    R c (c.beginDestinationHandoffBarrier nowNs).2 :=
  h.beginHandoff (.abortDestinationHandoffBarrier nowNs) trivial rfl

theorem finishPointerHandoff (workspace : WorkspaceState)
    (nowNs : ℕ) : R c (c.finishPointerHandoff workspace nowNs).2 := by
  have hfinish (c : PeerSessionCoordinator ι ω) :
      R c { c with core := (c.core.finishPointerHandoff workspace nowNs).2 } :=
    h.core c (.finishPointerHandoff workspace nowNs) trivial
  have hfirst := hfinish c
  unfold PeerSessionCoordinator.finishPointerHandoff
  generalize c.core.finishPointerHandoff workspace nowNs = finished at hfirst ⊢
  obtain ⟨finished, core⟩ := finished
  simp only at hfirst ⊢
  split
  · exact hfirst
  · have hdrain := h.trans hfirst (h.drain _ nowNs)
    generalize drainRemoteCleanup { c with core } nowNs = drained at hdrain ⊢
    obtain ⟨_ | _, c₁⟩ := drained
    · exact hdrain
    · exact h.trans hdrain (hfinish c₁)
  · exact hfirst

theorem triggerCaptureEmergency (nowNs : ℕ) : R c (c.triggerCaptureEmergency nowNs).2 := by
  have hlift : R c (c.liftCore (c.core.triggerEmergency nowNs)).2 :=
    h.lift (.triggerEmergency nowNs) trivial rfl
  unfold PeerSessionCoordinator.triggerCaptureEmergency
  generalize c.liftCore (c.core.triggerEmergency nowNs) = r at hlift ⊢
  obtain ⟨_ | _, c₁⟩ := r
  · exact hlift
  · exact h.trans (h.trans hlift (h.release c₁ nowNs)) (h.drain _ nowNs)

theorem routeFault (outcome : CaptureOutcome)
    (error : CoreCaptureError) (nowNs : ℕ) : R c (c.routeFault outcome error nowNs).2 := by
  unfold PeerSessionCoordinator.routeFault
  split_ifs
  · have hrelease := h.release c nowNs
    generalize c.releaseAllInbound nowNs = released at hrelease ⊢
    obtain ⟨_ | _, c₁⟩ := released <;> exact hrelease
  · exact h.refl c

theorem routeSettled (outcome : CaptureOutcome) (nowNs : ℕ) :
    R c (c.routeSettled outcome nowNs).2 := by
  have hinbound : R c (if outcome.failsafeActivated then c.releaseAllInbound nowNs
      else (.ok (), c)).2 := by
    split_ifs
    · exact h.release c nowNs
    · exact h.refl c
  unfold PeerSessionCoordinator.routeSettled
  generalize (if outcome.failsafeActivated then c.releaseAllInbound nowNs else (.ok (), c)) = r
    at hinbound ⊢
  obtain ⟨inboundResult, c₁⟩ := r
  have hdrain := h.trans hinbound (h.drain c₁ nowNs)
  simp only at hdrain ⊢
  split
  · exact hdrain
  · exact hdrain

theorem routeCaptured {captured : CapturedInput}
    (hcaptured : S captured) (nowNs : ℕ) : R c (c.routeCaptured captured nowNs).2 := by
  have hprepare := h.prepare c captured nowNs
  have hremote := fun effect core => h.remote c captured effect core nowNs hcaptured
  unfold PeerSessionCoordinator.routeCaptured
  generalize c.core.prepareCaptured captured nowNs = prepared at hprepare hremote ⊢
  obtain ⟨decision, core⟩ := prepared
  match decision with
  | .error error => exact hprepare rfl
  | .ok (.fault outcome error) => exact h.trans (hprepare rfl) (h.routeFault _ outcome error nowNs)
  | .ok (.local outcome) => exact h.trans (hprepare rfl) (h.routeSettled _ outcome nowNs)
  | .ok (.inert outcome) => exact h.trans (hprepare rfl) (h.routeSettled _ outcome nowNs)
  | .ok (.remote effect) => exact hremote effect core rfl

end Routing

/-! ## The end of a session -/

namespace Ending

variable {S : CapturedInput → Prop} {O : Prop} (h : Ending S O R)

include h

variable (c : PeerSessionCoordinator ι ω) {c₀ : PeerSessionCoordinator ι ω}
  (injected : Except CoordinatorError Unit) (drained : CoordinatorResult ι ω Unit)

/-- Input is gated and what was injected is released. -/
theorem gate (nowNs : ℕ) : R c ((c.setAcceptsInput false).releaseAllInbound nowNs).2 :=
  h.trans (h.session c ({ · with acceptsInput := false }) fun _ => ⟨rfl, nofun⟩) (h.release _ nowNs)

/-- The end of `session_fatal_cleanup` after the drain. -/
theorem retireEndpoint (endpoint : SessionEndpoint) (hdrained : R c₀ drained.2) :
    R c₀ (match combineCleanupResults injected drained.1 with
      | .error error => ((.error error, drained.2) : CoordinatorResult ι ω Unit)
      | .ok () =>
        match drained.2.liftCore (drained.2.core.retireSessionEndpoint endpoint nowNs) with
        | (.error error, c) => (.error error, c)
        | (.ok (), c) => (.ok (), { c with authorized := none })).2 := by
  obtain ⟨drained, c₃⟩ := drained
  split
  · exact hdrained
  · have hretire := h.trans hdrained (h.lift (.retireSessionEndpoint endpoint nowNs) trivial rfl)
    generalize c₃.liftCore (c₃.core.retireSessionEndpoint endpoint nowNs) = retired at hretire ⊢
    obtain ⟨_ | _, c₄⟩ := retired
    · exact hretire
    · exact h.trans hretire (h.close c₄ c₄.core)

theorem sessionFatalCleanup (nowNs : ℕ) : R c (c.sessionFatalCleanup nowNs).2 := by
  have hgate := h.gate c nowNs
  unfold PeerSessionCoordinator.sessionFatalCleanup
  generalize (c.setAcceptsInput false).releaseAllInbound nowNs = r at hgate ⊢
  obtain ⟨injected, c₁⟩ := r
  cases c.authorized.map (·.endpoint) with
  | none => exact h.trans hgate (h.close c₁ c₁.core)
  | some endpoint =>
    have hset := h.trans hgate
      (h.lift (.setEndpointState endpoint .disconnected nowNs) trivial rfl)
    simp only
    generalize c₁.liftCore (c₁.core.setEndpointState endpoint .disconnected nowNs) = r at hset ⊢
    obtain ⟨transition, c₂⟩ := r
    cases transition with
    | error error => exact h.retireEndpoint injected (.error error, c₂) endpoint hset
    | ok _ => exact h.retireEndpoint injected _ endpoint (h.trans hset (h.drain c₂ nowNs))

theorem fails {α : Type} (trigger : CoordinatorError)
    (nowNs : ℕ) : R c (c.fails (α := α) trigger nowNs).2 := by
  have hcleanup := h.sessionFatalCleanup c nowNs
  unfold PeerSessionCoordinator.fails failSession
  generalize c.sessionFatalCleanup nowNs = r at hcleanup ⊢
  obtain ⟨_ | _, c₁⟩ := r <;> exact hcleanup

theorem disconnect (nowNs : ℕ) : R c (c.disconnect nowNs).2 := by
  have hgate := h.gate c nowNs
  unfold PeerSessionCoordinator.disconnect
  generalize (c.setAcceptsInput false).releaseAllInbound nowNs = r at hgate ⊢
  obtain ⟨injected, c₁⟩ := r
  cases c.authorized.map (·.endpoint) with
  | none => exact h.trans hgate (h.close c₁ c₁.core)
  | some endpoint =>
    have hset := h.trans hgate
      (h.lift (.setEndpointState endpoint .disconnected nowNs) trivial rfl)
    simp only
    generalize c₁.liftCore (c₁.core.setEndpointState endpoint .disconnected nowNs) = r at hset ⊢
    obtain ⟨_ | _, c₂⟩ := r
    · exact h.trans hset (h.close c₂ _)
    · exact h.trans (h.trans hset (h.drain c₂ nowNs)) (h.close _ _)

/-- The end of `shutdown` after the drain. -/
theorem finishShutdown (hdrained : R c₀ drained.2) :
    R c₀ (match combineCleanupResults injected drained.1 with
      | .ok () => ((.ok (), { drained.2 with authorized := none }) : CoordinatorResult ι ω Unit)
      | .error error => (.error error, drained.2)).2 := by
  split
  · exact h.trans hdrained (h.close drained.2 drained.2.core)
  · exact hdrained

theorem shutdown (nowNs : ℕ) : R c (c.shutdown nowNs).2 := by
  have hgate := h.gate c nowNs
  unfold PeerSessionCoordinator.shutdown
  generalize (c.setAcceptsInput false).releaseAllInbound nowNs = r at hgate ⊢
  obtain ⟨injected, c₁⟩ := r
  have hset := h.trans hgate (h.lift (.shutdown nowNs) trivial rfl)
  simp only
  generalize c₁.liftCore (c₁.core.shutdown nowNs) = r at hset ⊢
  obtain ⟨transition, c₂⟩ := r
  cases transition with
  | error error => exact h.finishShutdown injected (.error error, c₂) hset
  | ok _ =>
    cases c₂.authorized with
    | none => exact h.finishShutdown injected (.ok (), c₂) hset
    | some session => exact h.finishShutdown injected _ (h.trans hset (h.drain c₂ nowNs))

/-- The end of a degraded session after the drain. -/
theorem finishDegraded (hdrained : R c₀ drained.2) :
    R c₀ (match combineCleanupResults injected drained.1 with
      | .ok () => ((.ok (), drained.2) : CoordinatorResult ι ω Unit)
      | .error error => drained.2.fails error nowNs).2 := by
  split
  · exact hdrained
  · exact h.trans hdrained (h.fails drained.2 _ nowNs)

theorem degradeEndpoint (endpoint : SessionEndpoint) (nowNs : ℕ) :
    R c (c.degradeEndpoint endpoint nowNs).2 := by
  have hgate := h.gate c nowNs
  unfold PeerSessionCoordinator.degradeEndpoint
  generalize (c.setAcceptsInput false).releaseAllInbound nowNs = r at hgate ⊢
  obtain ⟨injected, c₁⟩ := r
  have hset := h.trans hgate (h.lift (.setEndpointState endpoint .degraded nowNs) trivial rfl)
  simp only
  generalize c₁.liftCore (c₁.core.setEndpointState endpoint .degraded nowNs) = r at hset ⊢
  obtain ⟨transition, c₂⟩ := r
  cases transition with
  | error error => exact h.finishDegraded injected (.error error, c₂) hset
  | ok _ => exact h.finishDegraded injected _ (h.trans hset (h.drain c₂ nowNs))

theorem handleEndpointState (endpoint : SessionEndpoint) (state : ConnectionState)
    (hstate : state = .connected → O) (nowNs : ℕ) :
    R c (c.handleEndpointState endpoint state nowNs).2 := by
  unfold PeerSessionCoordinator.handleEndpointState
  split
  · exact h.fails c _ nowNs
  · cases state with
    | connected =>
      exact h.trans (h.reopen (hstate rfl) c)
        (h.lift (.setEndpointState endpoint .connected nowNs) trivial rfl)
    | degraded => exact h.degradeEndpoint c endpoint nowNs
    | disconnected => exact h.disconnect c nowNs
    | connecting => exact h.refl c
    | authenticating => exact h.refl c

theorem acceptSequence (received nowNs : ℕ) : R c (c.acceptSequence received nowNs).2 := by
  have hrecord (session : AuthorizedSession) (hsession : c.authorized = some session) :
      R c { c with authorized := some { session with lastSequence := some received } } := by
    have hset := h.session c ({ · with lastSequence := some received }) fun _ => ⟨rfl, id⟩
    rwa [hsession] at hset
  unfold PeerSessionCoordinator.acceptSequence
  split
  · exact h.fails c _ nowNs
  next session hsession =>
    split
    · split_ifs
      · exact h.fails c _ nowNs
      · exact hrecord session hsession
    · exact hrecord session hsession

end Ending

/-- An accepted sequence number leaves input accepted. -/
theorem acceptSequence_open {received : ℕ} (hopen : c.acceptsInput = true)
    (h : c.acceptSequence received nowNs = (.ok (), c')) : c'.acceptsInput = true := by
  have hfails (error : CoordinatorError) : c.fails error nowNs ≠ ((.ok (), c') :
      CoordinatorResult ι ω Unit) := nofun
  unfold acceptSequence at h
  split at h
  · exact absurd h (hfails _)
  next session hsession =>
    rw [acceptsInput, hsession] at hopen
    split at h
    · split_ifs at h
      · exact absurd h (hfails _)
      · cases h
        exact hopen
    · cases h
      exact hopen

/-! ## Received messages -/

namespace Injecting

variable {S : CapturedInput → Prop} {O : Prop} {G : PeerSessionCoordinator ι ω → InputEvent → Prop}
  (h : Injecting S O G R)

include h

theorem injectEvent {event : InputEvent} (hguard : G c event) (nowNs : ℕ) :
    R c (c.injectEvent event nowNs).2 := by
  have hinject := h.inject c event hguard
  unfold PeerSessionCoordinator.injectEvent
  generalize OutputInjectionBackend.inject c.injection event = injected at hinject ⊢
  obtain ⟨_ | _, injection⟩ := injected
  · exact h.trans hinject (h.fails _ .injection nowNs)
  · simp only
    split
    next control hpayload => exact h.trans hinject (h.forget _ event control hpayload)
    · exact hinject

theorem injectReceived {event : InputEvent} (hguard : G c event) (nowNs : ℕ) :
    R c (c.injectReceived event nowNs).2 := by
  unfold PeerSessionCoordinator.injectReceived
  split
  · split_ifs
    · exact h.injectEvent hguard nowNs
    · exact h.fails c _ nowNs
  next control hpayload =>
    split
    · exact h.fails c _ nowNs
    · obtain ⟨hpress, hguard'⟩ := h.press c event control hguard hpayload
      exact h.trans hpress (h.injectEvent hguard' nowNs)
  · exact h.injectEvent hguard nowNs

theorem injectReleases {releases : DeviceEvents}
    (hreleases : ∀ release ∈ releases, IsRelease release.2) (c : PeerSessionCoordinator ι ω)
    (nowNs : ℕ) : R c (injectReleases nowNs releases c).2 := by
  induction releases generalizing c with
  | nil => exact h.refl c
  | cons release rest ih =>
    obtain ⟨device, payload⟩ := release
    have hrest := ih fun release hmem => hreleases release (List.mem_cons_of_mem _ hmem)
    unfold PeerSessionCoordinator.injectReleases syntheticEvent
    split
    next herror =>
      split at herror <;> cases herror
      exact h.refl c
    next event c₁ hevent =>
      split at hevent <;> cases hevent
      next next _ =>
      have hguard := h.released { c with syntheticSequence := next }
        ⟨c.syntheticSequence, nowNs, c.expected.hostId, device, payload⟩
        (hreleases (device, payload) List.mem_cons_self)
      have hinject := h.trans (h.synthetic c next) (h.injectReceived hguard nowNs)
      generalize PeerSessionCoordinator.injectReceived { c with syntheticSequence := next } _ nowNs
        = r at hinject ⊢
      obtain ⟨_ | _, c₂⟩ := r
      · exact hinject
      · exact h.trans hinject (hrest c₂)

variable (c : PeerSessionCoordinator ι ω)

theorem releaseSelectedInbound (selected : Option DeviceId)
    (nowNs : ℕ) : R c (c.releaseSelectedInbound selected nowNs).2 :=
  h.injectReleases (c.inboundReleases_isRelease selected) c nowNs

theorem releaseInboundDevice (device : DeviceId) (nowNs : ℕ) :
    R c (c.releaseInboundDevice device nowNs).2 := by
  unfold PeerSessionCoordinator.releaseInboundDevice
  split_ifs
  · exact h.refl c
  · exact h.releaseSelectedInbound c (some device) nowNs

theorem handleRelease (release : ReleaseInputV1) (nowNs : ℕ) :
    R c (c.handleRelease release nowNs).2 := by
  unfold PeerSessionCoordinator.handleRelease
  split
  · exact h.fails c _ nowNs
  · have haccept := h.acceptSequence c release.sequence nowNs
    generalize c.acceptSequence release.sequence nowNs = r at haccept ⊢
    obtain ⟨_ | _, c₁⟩ := r
    · exact haccept
    · simp only
      split_ifs
      · exact h.trans haccept (h.releaseSelectedInbound c₁ release.sourceDevice nowNs)
      · refine h.trans haccept (h.injectReleases (fun requested hmem => ?_) c₁ nowNs)
        simp only [requestedReleases, List.mem_flatMap, List.mem_append, List.mem_map] at hmem
        obtain ⟨device, -, ⟨key, -, rfl⟩ | ⟨button, -, rfl⟩⟩ := hmem
        · exact ⟨.key (keyCodeFromWire key), rfl⟩
        · exact ⟨.button (pointerButtonFromWire button), rfl⟩

theorem handleInput {input : InputEventV1} (hopen : c.acceptsInput = true)
    (hguard : ∀ c' event, c'.acceptsInput = true → inputFromWire input = .ok event → G c' event)
    (nowNs : ℕ) : R c (c.handleInput input nowNs).2 := by
  unfold PeerSessionCoordinator.handleInput
  split_ifs
  · exact h.fails c _ nowNs
  · exact h.refl c
  have haccept := h.acceptSequence c input.sequence nowNs
  have hopen (c₁) (h₁ : c.acceptSequence input.sequence nowNs = (.ok (), c₁)) :
      c₁.acceptsInput = true := acceptSequence_open hopen h₁
  generalize c.acceptSequence input.sequence nowNs = r at haccept hopen ⊢
  obtain ⟨_ | _, c₁⟩ := r
  · exact haccept
  have hremember := h.trans haccept (h.session c₁ _ fun _ => ⟨rfl, id⟩ :
    R c₁ (c₁.rememberInput input))
  simp only
  split
  · exact h.trans hremember (h.fails _ _ nowNs)
  next event hevent =>
    have haccepts : (c₁.rememberInput input).acceptsInput = true := by
      rw [acceptsInput, rememberInput, Option.any_map]
      exact hopen c₁ rfl
    have hinject := h.trans hremember (h.injectReceived (hguard _ event haccepts hevent) nowNs)
    generalize (c₁.rememberInput input).injectReceived event nowNs = r at hinject ⊢
    obtain ⟨_ | _, c₂⟩ := r <;> exact hinject

theorem handleEndpointMessage (endpoint : SessionEndpoint)
    (peer : AdmittedSessionBinding) {message : WireMessage}
    (hguard : ∀ input, message = .input input → ∀ c' event, c'.acceptsInput = true →
      inputFromWire input = .ok event → G c' event) (nowNs : ℕ) :
    R c (c.handleEndpointMessage endpoint peer message nowNs).2 := by
  unfold PeerSessionCoordinator.handleEndpointMessage
    PeerSessionCoordinator.handleAuthorizedMessage
  split_ifs with _ hgated
  · exact h.fails c _ nowNs
  · split
    · exact h.fails c _ nowNs
    · split
      next input _ => exact h.handleInput c (by simpa using hgated) (hguard input rfl) nowNs
      next release _ =>
        have hrelease := h.handleRelease c release nowNs
        generalize c.handleRelease release nowNs = r at hrelease ⊢
        obtain ⟨_ | _, c₁⟩ := r <;> exact hrelease
      · exact h.fails c _ nowNs
      · exact h.fails c _ nowNs
      · exact h.refl c
  · exact h.fails c _ nowNs

theorem handleEndpointPointerDatagram (endpoint : SessionEndpoint)
    (peer : AdmittedSessionBinding) {input : InputEventV1}
    (hguard : isPointerMove input.payload = true → ∀ c' event, c'.acceptsInput = true →
      inputFromWire input = .ok event → G c' event) (nowNs : ℕ) :
    R c (c.handleEndpointPointerDatagram endpoint peer input nowNs).2 := by
  unfold PeerSessionCoordinator.handleEndpointPointerDatagram
  simp only
  split
  · exact h.fails c _ nowNs
  next hadmitted =>
    simp only [Bool.or_eq_true, not_or, Bool.not_eq_true', Bool.not_eq_false] at hadmitted
    obtain ⟨⟨hany, -⟩, hmove⟩ := hadmitted
    have hopen : c.acceptsInput = true := by
      rw [acceptsInput]
      cases hsession : c.authorized with
      | none => simp [hsession] at hany
      | some session =>
        simp only [hsession, Option.any_some, Bool.and_eq_true] at hany ⊢
        exact hany.2
    split
    · exact h.fails c _ nowNs
    split
    · exact h.fails c _ nowNs
    next event hevent =>
      have hinject := h.injectReceived (hguard hmove c event hopen hevent) nowNs
      generalize c.injectReceived event nowNs = r at hinject ⊢
      obtain ⟨_ | _, c₁⟩ := r <;> exact hinject

end Injecting

/-- What is left to show is that the relation contains the release of all injected input. -/
theorem Blind.routing (h : Blind R) (hrelease : ∀ c nowNs, R c (c.releaseAllInbound nowNs).2) :
    Routing (fun _ => True) R where
  refl := h.refl
  trans := h.trans
  core c _ _ := h.quiet c _ c.committed c.outboundSequence
  prepare c _ _ _ := h.quiet c _ c.committed c.outboundSequence
  remote c captured effect core nowNs _ _ := by
    have hdispatch := h.trans (h.quiet c core c.committed c.outboundSequence)
      (h.dispatchRemoteEffect { c with core } effect)
    unfold routeRemote
    generalize PeerSessionCoordinator.dispatchRemoteEffect { c with core } effect = dispatched
      at hdispatch ⊢
    obtain ⟨_ | _, c₁⟩ := dispatched
    · exact h.trans hdispatch (h.quiet c₁ _ _ _)
    · exact h.trans hdispatch (h.quiet c₁ _ _ _)
  release := hrelease
  drain := h.drain

end PeerSessionCoordinator

end SoftwareKvm
