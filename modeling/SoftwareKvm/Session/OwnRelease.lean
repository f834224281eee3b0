import SoftwareKvm.Session.Inbound

/-!
# A receiver that releases inbound input on its own

A receiver empties its ledger for reasons the sender does not see: the local
emergency chord, a `Degraded` and `Connected` transition of its side, the
replacement of a remote device record. The sender's user still holds the key.
`inject_received` accepts the later release, but a repeat of a control that the
ledger does not hold is `UnmatchedRepeat` and ends the session.

* `Released`: what an own release does to the session and the ledger.
* `handleEndpointMessage_orphan`: a repeat of a released control fails the
  session.
* `receive_ok_iff`: for an honest sender, a run of deliveries and own releases
  ends without a failure exactly if no delivered repeat names a control that
  the ledger has lost;
* `repeat_missing_iff`: those are the controls that the receiver has released and
  that have not been pressed since.
-/

namespace SoftwareKvm

open Lib

/-- The control that a message repeats. -/
def WireMessage.repeated : WireMessage → Option HeldControl
  | .input wire => match inputFromWire wire with
    | .ok event => match PhysicalControl.fromPayload event.payload with
      | some (control, .repeat) => some (event.sourceDevice, control)
      | _ => none
    | .error _ => none
  | _ => none

namespace PeerSessionCoordinator

variable {ι ω : Type} {c c' c'' : PeerSessionCoordinator ι ω}

/-! ## Synthetic events and held controls -/

/-- An own release: the session stays, the ledger shrinks, and every synthetic
    event it used takes a control out. -/
structure Released (c c' : PeerSessionCoordinator ι ω) : Prop where
  expected : c'.expected = c.expected
  authorized : c'.authorized = c.authorized
  idle : c.NoIdleDevice → c'.NoIdleDevice
  held : c'.heldControls ⊆ c.heldControls
  spent : c'.spent ≤ c.spent

namespace Released

theorem refl (c : PeerSessionCoordinator ι ω) : Released c c :=
  ⟨rfl, rfl, id, subset_rfl, le_rfl⟩

theorem trans (h : Released c c') (h' : Released c' c'') : Released c c'' :=
  ⟨h'.expected.trans h.expected, h'.authorized.trans h.authorized, h'.idle ∘ h.idle,
    h'.held.trans h.held, h'.spent.trans h.spent⟩

/-- A change outside the session and the injected input. -/
theorem of_same (hexpected : c'.expected = c.expected) (hauthorized : c'.authorized = c.authorized)
    (h : SameInbound c c') : Released c c' := by
  have hheld : c'.heldControls = c.heldControls := by rw [heldControls, h.inboundPressed]; rfl
  refine ⟨hexpected, hauthorized, fun hidle device state hget => ?_, hheld.subset, ?_⟩
  · exact hidle device state (h.inboundPressed ▸ hget)
  · rw [PeerSessionCoordinator.spent, PeerSessionCoordinator.spent, hheld, h.syntheticSequence]

end Released

theorem nodup_releasePayloads (s : PressedState) : s.releasePayloads.Nodup := by
  -- one release per held control, modifiers after the other keys
  have hkeys : s.pressedKeys.Perm s.keys.keys :=
    List.perm_append_comm.trans (List.filter_append_perm KeyCode.isModifier s.keys.keys)
  have hperm : s.releasePayloads.Perm (s.controls.map PhysicalControl.releasePayload) := by
    simp only [PressedState.releasePayloads, PressedState.controls, List.map_append, List.map_map]
    exact (hkeys.map _).append (List.Perm.refl _)
  exact hperm.nodup_iff.mpr (s.nodup_controls.map releasePayload_injective)

/-- Releases of controls that are held, each once. -/
def Owed (c : PeerSessionCoordinator ι ω) (releases : DeviceEvents) : Prop :=
  releases.Nodup ∧ ∀ release ∈ releases, ∃ control,
    (release.1, control) ∈ c.heldControls ∧ release.2 = PhysicalControl.releasePayload control

theorem owed_inboundReleases (c : PeerSessionCoordinator ι ω) (selected : Option DeviceId) :
    c.Owed (c.inboundReleases selected) := by
  have hsublist : (c.inboundReleases selected).Sublist (c.inboundReleases none) := by
    unfold inboundReleases
    induction c.inboundPressed.entries with
    | nil => exact List.Sublist.slnil
    | cons entry rest ih =>
      simp only [List.flatMap_cons, Option.any_none, Bool.false_eq_true, if_false] at ih ⊢
      refine List.Sublist.append ?_ ih
      split_ifs
      · exact List.nil_sublist _
      · exact List.Sublist.refl _
  exact ⟨hsublist.nodup (OrdMap.nodup_items _ nodup_releasePayloads),
    fun _ hmem => mem_inboundReleases hmem⟩

/-- The next release takes its control out; the others stay owed. -/
theorem Owed.tail {device : DeviceId} {payload : InputPayload}
    {rest : DeviceEvents} (h : c.Owed ((device, payload) :: rest)) :
    ∃ control, payload = PhysicalControl.releasePayload control
      ∧ (device, control) ∈ c.heldControls
      ∧ ∀ {c' : PeerSessionCoordinator ι ω},
        (∀ x, x ∈ c'.heldControls ↔ x ∈ c.heldControls ∧ x ≠ (device, control)) →
        c'.Owed rest ∧ c'.heldControls.card + 1 = c.heldControls.card := by
  obtain ⟨hnodup, howed⟩ := h
  obtain ⟨control, hheld, hpayload⟩ := howed _ List.mem_cons_self
  subst hpayload
  refine ⟨control, rfl, hheld, fun {c'} hc' => ⟨⟨hnodup.of_cons, fun release hmem => ?_⟩, ?_⟩⟩
  · obtain ⟨k, hk, hrelease⟩ := howed release (List.mem_cons_of_mem _ hmem)
    refine ⟨k, (hc' _).mpr ⟨hk, fun heq => ?_⟩, hrelease⟩
    obtain ⟨hdevice, rfl⟩ := Prod.mk.inj heq
    have hfirst : release = (device, k.releasePayload) := Prod.ext hdevice hrelease
    exact (List.nodup_cons.mp hnodup).1 (hfirst ▸ hmem)
  · have herase : c'.heldControls = c.heldControls.erase (device, control) := by
      ext x
      rw [hc', Finset.mem_erase, and_comm]
    rw [herase]
    exact Finset.card_erase_add_one hheld

section Releases

variable [OutputInjectionBackend ι] (hinjects : AlwaysInjects ι)
  {releases : DeviceEvents} {endpoint : SessionEndpoint} {outcome : PeerEventOutcome} {nowNs : ℕ}

include hinjects

/-- The loop of `release_all_inbound` with owed releases. -/
theorem releaseLoop_released (nowNs : ℕ) (firstError : Option CoordinatorError)
    (howed : c.Owed releases) : (releaseLoop nowNs releases firstError c).2.spent ≤ c.spent := by
  induction releases generalizing firstError c with
  | nil => exact le_rfl
  | cons release rest ih =>
    obtain ⟨device, payload⟩ := release
    obtain ⟨control, rfl, hheld, htail⟩ := howed.tail
    unfold releaseLoop syntheticEvent
    cases hnext : checkedAdd c.syntheticSequence 1 with
    | none => exact le_rfl
    | some next =>
      obtain ⟨rfl, -⟩ := checkedAdd_eq_some.mp hnext
      have hinject := hinjects c.injection
        ⟨c.syntheticSequence, nowNs, c.expected.hostId, device, control.releasePayload⟩
      simp only
      generalize OutputInjectionBackend.inject c.injection _ = injected at hinject ⊢
      obtain ⟨accepted, injection⟩ := injected
      subst hinject
      let taken : PeerSessionCoordinator ι ω := { c with
        syntheticSequence := c.syntheticSequence + 1, injection
        inboundPressed := c.inboundPressed.modify device (·.apply control.releasePayload) }
      have htaken (x : HeldControl) : x ∈ taken.heldControls ↔
          x ∈ c.heldControls ∧ x ≠ (device, control) :=
        mem_heldControls_modify (c := { c with syntheticSequence := c.syntheticSequence + 1 })
          injection
      obtain ⟨howed', hcard⟩ := htail htaken
      have hspent : taken.spent = c.spent := by
        unfold spent
        rw [← hcard, show taken.syntheticSequence = c.syntheticSequence + 1 from rfl]
        omega
      exact (ih firstError howed').trans hspent.le

theorem releaseAllInbound_released (c : PeerSessionCoordinator ι ω) (nowNs : ℕ) :
    Released c (c.releaseAllInbound nowNs).2 := by
  have honly := releaseAllInbound_inboundOnly c nowNs
  have hledgered := releaseAllInbound_ledgered (c := c) (fun _ h => h) nowNs
  have hspent := releaseLoop_released hinjects nowNs none (c.owed_inboundReleases none)
  refine ⟨honly.expected, honly.authorized, fun _ => hledgered.idle, hledgered.held, ?_⟩
  refine le_trans (le_of_eq ?_) hspent
  rw [releaseAllInbound_snd]
  unfold spent
  congr 2
  ext x
  exact mem_heldControls_filter

variable [OutboundPeer ω]

/-- The loop of `release_selected_inbound` with owed releases. -/
theorem injectReleases_released (nowNs : ℕ) (hidle : c.NoIdleDevice) (howed : c.Owed releases) :
    Released c (injectReleases nowNs releases c).2 := by
  induction releases generalizing c with
  | nil => exact .refl c
  | cons release rest ih =>
    obtain ⟨device, payload⟩ := release
    obtain ⟨control, rfl, hheld, htail⟩ := howed.tail
    unfold injectReleases syntheticEvent
    cases hnext : checkedAdd c.syntheticSequence 1 with
    | none => exact .refl c
    | some next =>
      obtain ⟨rfl, -⟩ := checkedAdd_eq_some.mp hnext
      let numbered : PeerSessionCoordinator ι ω :=
        { c with syntheticSequence := c.syntheticSequence + 1 }
      obtain ⟨c₁, hinject, honly, -, hidle₁, hstep⟩ := injectReceived_ok (c := numbered) hinjects
        hidle ⟨c.syntheticSequence, nowNs, c.expected.hostId, device, control.releasePayload⟩ nowNs
        (by rw [fromPayload_releasePayload]; trivial)
      rw [fromPayload_releasePayload] at hstep
      have htaken (x : HeldControl) : x ∈ c₁.heldControls ↔
          x ∈ c.heldControls ∧ x ≠ (device, control) := by
        rw [← Finset.mem_coe, hstep]
        exact Iff.rfl
      obtain ⟨howed', hcard⟩ := htail htaken
      have hreleased : Released c c₁ := by
        refine ⟨honly.expected, honly.authorized, fun _ => hidle₁,
          fun x hx => ((htaken x).mp hx).1, ?_⟩
        unfold spent
        rw [honly.syntheticSequence, ← hcard, show numbered.syntheticSequence
          = c.syntheticSequence + 1 from rfl]
        omega
      simp only
      rw [show injectReceived { c with syntheticSequence := c.syntheticSequence + 1 } _ nowNs = _
        from hinject]
      exact hreleased.trans (ih hidle₁ howed')

/-- The captured events of the receiver itself, the emergency chord included. -/
theorem released_parts : Routing (fun _ => True) (Released : CoordinatorRelation ι ω) := by
  have hblind : Blind (Released : CoordinatorRelation ι ω) :=
    { refl := .refl
      trans := .trans
      quiet := fun _ _ _ _ => .of_same rfl rfl ⟨rfl, rfl, rfl⟩
      offer := fun c message _ =>
        have h := offer_outboundOnly c message
        .of_same h.expected h.authorized h.sameInbound }
  exact hblind.routing (releaseAllInbound_released hinjects)

/-- A `Degraded` that succeeds releases with the session closed. -/
theorem degraded_released (h : c.handleEndpointState endpoint .degraded nowNs = (.ok outcome, c')) :
    Released (c.setAcceptsInput false) c' := by
  have hrelease := releaseAllInbound_released hinjects (c.setAcceptsInput false) nowNs
  unfold handleEndpointState degradeEndpoint at h
  split at h
  · cases (Prod.mk.inj h).1
  generalize (c.setAcceptsInput false).releaseAllInbound nowNs = r at h hrelease
  obtain ⟨injectionResult, c₁⟩ := r
  simp only [liftCore] at h
  generalize c₁.core.setEndpointState endpoint .degraded nowNs = r at h
  obtain ⟨transition, core⟩ := r
  have hcore : Released (c.setAcceptsInput false) { c₁ with core } :=
    hrelease.trans (.of_same rfl rfl ⟨rfl, rfl, rfl⟩)
  cases transition with
  | error error =>
    cases injectionResult <;> cases (Prod.mk.inj h).1
  | ok _ =>
    have hdrain := hcore.trans ((released_parts hinjects).drain { c₁ with core } nowNs)
    generalize drainRemoteCleanup { c₁ with core } nowNs = r at h hdrain
    obtain ⟨outboundResult, c₂⟩ := r
    cases injectionResult with
    | error _ => cases outboundResult <;> cases (Prod.mk.inj h).1
    | ok _ =>
      cases outboundResult with
      | error _ => cases (Prod.mk.inj h).1
      | ok _ =>
        obtain rfl := (Prod.mk.inj h).2
        exact hdrain

end Releases

/-! ## Messages for a ledger that has lost controls -/

section Messages

variable {host : HostId} {sequence : ℕ} {message : WireMessage} {held held' lost : Set HeldControl}

/-- A receiver that holds less accepts the same message, unless it repeats a control that was lost;
    of what the sender holds then it holds what it held and what the message presses. -/
theorem carries_of_subset (h : Carries host held sequence message held')
    {own : Set HeldControl} (hown : own ⊆ held)
    (hrepeat : ∀ x, message.repeated = some x → x ∈ own) :
    ∃ own', Carries host own sequence message own' ∧ own' ⊆ held' ∧
      ∀ x ∈ held', (x ∈ held ∨ message.pressed = some x)
        ∧ (x ∈ own' ↔ x ∈ own ∨ message.pressed = some x) := by
  cases h with
  | @input wire event sequence hsequence hhost hevent hadmits =>
    simp only [WireMessage.repeated, WireMessage.pressed, hevent] at hrepeat ⊢
    cases hpayload : PhysicalControl.fromPayload event.payload with
    | none =>
      rw [hpayload] at hadmits
      refine ⟨_, .input hsequence hhost hevent (hpayload ▸ hadmits), ?_⟩
      simp only [hpayload, stepHeld]
      exact ⟨hown, fun x hx => by simp [hx]⟩
    | some change =>
    obtain ⟨control, transition⟩ := change
    cases transition with
    | release =>
      rw [hpayload] at hadmits
      refine ⟨_, .input hsequence hhost hevent (hpayload ▸ hadmits), ?_⟩
      simp only [hpayload, stepHeld]
      refine ⟨Set.sdiff_subset_sdiff_left hown, fun x hx => ?_⟩
      simp [PhysicalTransition.onHeld, hx.1, show x ≠ _ from hx.2]
    | «repeat» =>
      rw [hpayload] at hrepeat
      have hheld := hrepeat _ rfl
      refine ⟨_, .input hsequence hhost hevent (by rw [hpayload]; exact hheld), ?_⟩
      simp only [hpayload, stepHeld]
      exact ⟨hown, fun x hx => by
        simp [show x ∈ held from hx, PhysicalTransition.onHeld]⟩
    | press =>
      rw [hpayload] at hadmits
      obtain ⟨controls, hlimits, hsub⟩ := hadmits
      refine ⟨_, .input hsequence hhost hevent ?_, ?_⟩
      · rw [hpayload]
        exact ⟨controls, hlimits, (Set.insert_subset_insert hown).trans hsub⟩
      · simp only [hpayload, stepHeld]
        refine ⟨Set.insert_subset_insert hown, fun x hx => ?_⟩
        rcases hx with rfl | hx
        · simp [PhysicalTransition.onHeld]
        · simp [PhysicalTransition.onHeld, hx, eq_comm, or_comm]
  | release hsequence hhost hdevice hvalid hsome hreleases =>
    refine ⟨_, .release hsequence hhost hdevice hvalid hsome hreleases,
      Set.sdiff_subset_sdiff_left hown, fun x hx => ?_⟩
    simp [WireMessage.pressed, hx.1, show x ≠ _ from hx.2]

/-- An honest sender repeats what it holds. -/
theorem repeated_mem (h : Carries host held sequence message held') {x : HeldControl}
    (hrepeat : message.repeated = some x) : x ∈ held := by
  cases h with
  | release => cases hrepeat
  | @input wire event _ hsequence hhost hevent hadmits =>
    simp only [WireMessage.repeated, hevent] at hrepeat
    split at hrepeat
    · next hpayload =>
      cases hrepeat
      rwa [hpayload] at hadmits
    · cases hrepeat

variable [OutputInjectionBackend ι] [OutboundPeer ω]

/-- A repeat of a control that the ledger does not hold ends the session. -/
theorem handleEndpointMessage_orphan {endpoint : SessionEndpoint} {peer : AdmittedSessionBinding}
    {last : ℕ} (h : c.Receiving endpoint peer host last) (hlt : last < sequence)
    (hcarries : Carries host held sequence message held') {x : HeldControl}
    (hrepeat : message.repeated = some x) (horphan : x ∉ c.heldControls) (nowNs : ℕ) :
    ∃ error, (c.handleEndpointMessage endpoint peer message nowNs).1 = .error error := by
  cases hcarries with
  | release => cases hrepeat
  | @input wire event sequence hsequence hhost hevent hadmits =>
    subst hsequence
    obtain ⟨c₁, haccept, -, hpressed, -⟩ := h.acceptSequence hlt nowNs
    have hrepeat' : PhysicalControl.fromPayload event.payload = some (x.2, .repeat)
        ∧ event.sourceDevice = x.1 := by
      simp only [WireMessage.repeated, hevent] at hrepeat
      split at hrepeat <;> cases hrepeat
      exact ⟨by assumption, rfl⟩
    have hunheld : ¬((c₁.rememberInput wire).inboundPressed.get? event.sourceDevice).any
        (·.holds x.2) = true := by
      rw [show (c₁.rememberInput wire).inboundPressed = c.inboundPressed from hpressed,
        hrepeat'.2]
      exact fun hholds => horphan (mem_heldControls.mpr hholds)
    rw [h.handleEndpointMessage_input hevent, handleInput,
      if_neg (by rw [hhost, h.expected]; exact not_not.mpr rfl),
      if_neg (by rw [h.not_duplicate hlt]; exact Bool.false_ne_true), haccept]
    simp only [hevent, injectReceived, hrepeat'.1]
    rw [if_neg hunheld]
    exact ⟨_, rfl⟩

end Messages

end PeerSessionCoordinator

/-! ## Runs of a receiver -/

/-- The reasons for which a receiver releases inbound input on its own. -/
inductive OwnRelease
  | routed (captured : CapturedInput) (nowNs : ℕ)
  | emergency (nowNs : ℕ)
  | degradedConnected (degradedNs connectedNs : ℕ)
  | deviceReplaced (device : DeviceId) (nowNs : ℕ)

/-- What happens to a receiver: the next message of its peer, or an own release. -/
inductive ReceiverStep
  | deliver (message : WireMessage) (nowNs : ℕ)
  | own (release : OwnRelease)

def ReceiverStep.message? : ReceiverStep → Option WireMessage
  | .deliver message _ => some message
  | .own _ => none

section Runs

variable {ι ω : Type} [OutputInjectionBackend ι] [OutboundPeer ω]

open PeerSessionCoordinator

/-- An own release on the session of `endpoint`. -/
def OwnRelease.apply (endpoint : SessionEndpoint) (c : PeerSessionCoordinator ι ω) :
    OwnRelease → CoordinatorResult ι ω Unit
  | .routed captured now => match c.routeCaptured captured now with
    | (.ok _, c) => (.ok (), c)
    | (.error failure, c) => (.error failure.error, c)
  | .emergency now => c.triggerCaptureEmergency now
  | .degradedConnected degradedNs connectedNs =>
    match c.handleEndpointState endpoint .degraded degradedNs with
    | (.error error, c) => (.error error, c)
    | (.ok _, c) =>
      let (connected, c) := c.handleEndpointState endpoint .connected connectedNs
      (connected.map fun _ => (), c)
  | .deviceReplaced device now => c.releaseInboundDevice device now

/-- The result of a step and the state after it. -/
def ReceiverStep.apply (endpoint : SessionEndpoint) (peer : AdmittedSessionBinding)
    (c : PeerSessionCoordinator ι ω) : ReceiverStep → CoordinatorResult ι ω Unit
  | .deliver message now =>
    let (handled, c) := c.handleEndpointMessage endpoint peer message now
    (handled.map fun _ => (), c)
  | .own release => release.apply endpoint c

/-- The state after a step. -/
def ReceiverStep.after (endpoint : SessionEndpoint) (peer : AdmittedSessionBinding)
    (c : PeerSessionCoordinator ι ω) (step : ReceiverStep) : PeerSessionCoordinator ι ω :=
  (step.apply endpoint peer c).2

/-- The steps of a receiver until the first that fails. -/
def receiveSteps (endpoint : SessionEndpoint) (peer : AdmittedSessionBinding) :
    List ReceiverStep → CoordinatorMethod ι ω Unit
  | [], c => (.ok (), c)
  | step :: rest, c =>
    match step.apply endpoint peer c with
    | (.error error, c) => (.error error, c)
    | (.ok (), c) => receiveSteps endpoint peer rest c

/-- The own release succeeds; a delivered repeat names a control that the receiver holds. -/
def ReceiverStep.Matched (endpoint : SessionEndpoint) (c : PeerSessionCoordinator ι ω) :
    ReceiverStep → Prop
  | .deliver message _ => ∀ x, message.repeated = some x → x ∈ c.heldControls
  | .own release => (release.apply endpoint c).1 = .ok ()

instance (endpoint : SessionEndpoint) (c : PeerSessionCoordinator ι ω) (step : ReceiverStep) :
    Decidable (step.Matched endpoint c) :=
  match step with
  | .deliver message _ => inferInstanceAs (Decidable (∀ x ∈ message.repeated, x ∈ c.heldControls))
  | .own release => inferInstanceAs (Decidable ((release.apply endpoint c).1 = .ok ()))

variable {endpoint : SessionEndpoint} {host : HostId} {held : Set HeldControl}

theorem OwnRelease.apply_released (hinjects : AlwaysInjects ι)
    {peer : AdmittedSessionBinding} {last : ℕ} {c : PeerSessionCoordinator ι ω}
    (h : c.Receiving endpoint peer host last) {release : OwnRelease}
    (hok : (release.apply endpoint c).1 = .ok ()) : Released c (release.apply endpoint c).2 := by
  cases release with
  | routed captured now =>
    have hr : Released c (c.routeCaptured captured now).2 :=
      (released_parts hinjects).routeCaptured c trivial now
    simp only [OwnRelease.apply]
    generalize c.routeCaptured captured now = r at hr ⊢
    obtain ⟨_ | _, c₁⟩ := r <;> exact hr
  | emergency now => exact (released_parts hinjects).triggerCaptureEmergency c now
  | deviceReplaced device now =>
    show Released _ (c.releaseInboundDevice device now).2
    unfold releaseInboundDevice
    split_ifs
    · exact .refl c
    · exact injectReleases_released hinjects now h.idle (c.owed_inboundReleases _)
  | degradedConnected degradedNs connectedNs =>
    obtain ⟨session, hsession, hendpoint, -, haccepts, -⟩ := h.session
    simp only [OwnRelease.apply] at hok ⊢
    cases hdegraded : c.handleEndpointState endpoint .degraded degradedNs with
    | mk degraded c₁ =>
      rw [hdegraded] at hok
      cases degraded with
      | error error => cases hok
      | ok outcome =>
        have hreleased := degraded_released hinjects hdegraded
        have hauthorizes : c₁.authorizesEndpoint endpoint = true := by
          simp [authorizesEndpoint, hreleased.authorized, setAcceptsInput, hsession, hendpoint]
        have hreopened : Released c (c₁.setAcceptsInput true) := by
          refine { hreleased with authorized := ?_ }
          obtain ⟨_, _, _, _, acceptsInput⟩ := session
          subst haccepts
          simp only [setAcceptsInput, hreleased.authorized, hsession, Option.map_some]
        simp only [handleEndpointState, hauthorizes, Bool.not_true, Bool.false_eq_true, if_false]
        exact hreopened.trans (.of_same rfl rfl ⟨rfl, rfl, rfl⟩)

/-- Messages that a receiver accepts one after the other, from the sequence
    number and the held set at their start to those at their end. -/
inductive CarriedAlong (host : HostId) :
    ℕ → Set HeldControl → List WireMessage → ℕ → Set HeldControl → Prop
  | nil {last : ℕ} {held : Set HeldControl} : CarriedAlong host last held [] last held
  | cons {last sequence last' : ℕ} {held held₁ held' : Set HeldControl} {message : WireMessage}
      {rest : List WireMessage} (hlt : last < sequence) (hbound : sequence < u64Size)
      (hcarries : Carries host held sequence message held₁)
      (h : CarriedAlong host sequence held₁ rest last' held') :
      CarriedAlong host last held (message :: rest) last' held'

theorem CarriedAlong.snoc {last sequence last' : ℕ} {held₁ held' : Set HeldControl}
    {messages : List WireMessage} {message : WireMessage}
    (h : CarriedAlong host last held messages last' held₁) (hlt : last' < sequence)
    (hbound : sequence < u64Size) (hcarries : Carries host held₁ sequence message held') :
    CarriedAlong host last held (messages ++ [message]) sequence held' := by
  induction h with
  | nil => exact .cons hlt hbound hcarries .nil
  | cons hlt₁ hbound₁ hcarries₁ _ ih => exact .cons hlt₁ hbound₁ hcarries₁ (ih hlt hcarries)

theorem CarriedAlong.inv_snoc {last last' : ℕ} {held' : Set HeldControl}
    {messages : List WireMessage} {message : WireMessage}
    (h : CarriedAlong host last held (messages ++ [message]) last' held') :
    ∃ last₁ sequence held₁, CarriedAlong host last held messages last₁ held₁
      ∧ Carries host held₁ sequence message held' := by
  induction messages generalizing last held with
  | nil =>
    cases h with
    | cons _ _ hcarries hrest =>
      cases hrest
      exact ⟨_, _, _, .nil, hcarries⟩
  | cons first rest ih =>
    cases h with
    | cons hlt hbound hcarries hrest =>
      obtain ⟨last₁, sequence, held₁, hcarried, hlast⟩ := ih hrest
      exact ⟨last₁, sequence, held₁, .cons hlt hbound hcarries hcarried, hlast⟩

/-- The frames of an agreed FIFO are carried from the start. -/
theorem Agreed.carriedAlong {messages : List WireMessage} {cores : List DaemonCore} {last : ℕ}
    (h : Agreed host endpoint messages cores last held) :
    CarriedAlong host 0 ∅ messages last held := by
  induction h with
  | nil => exact .nil
  | snoc _ hlt hbound hcarries ih => exact ih.snoc hlt hbound hcarries

section

variable {peer : AdmittedSessionBinding} {c c₀ : PeerSessionCoordinator ι ω} {last : ℕ}

/-- A receiver that holds part of what the sender holds. -/
structure Trailing (endpoint : SessionEndpoint) (peer : AdmittedSessionBinding) (host : HostId)
    (last : ℕ) (held : Set HeldControl) (c : PeerSessionCoordinator ι ω) : Prop where
  receiving : c.Receiving endpoint peer host last
  spent : c.spent ≤ last
  held : (c.heldControls : Set HeldControl) ⊆ held

theorem Trailing.own (hinjects : AlwaysInjects ι) (h : Trailing endpoint peer host last held c)
    {release : OwnRelease} (hok : (release.apply endpoint c).1 = .ok ()) :
    Trailing endpoint peer host last held (release.apply endpoint c).2
      ∧ (release.apply endpoint c).2.heldControls ⊆ c.heldControls := by
  have hr := OwnRelease.apply_released hinjects h.receiving hok
  have hspent := hr.spent.trans h.spent
  exact ⟨⟨⟨hr.expected ▸ h.receiving.expected, hr.authorized ▸ h.receiving.session,
    (Nat.le_add_right _ _).trans hspent, hr.idle h.receiving.idle⟩, hspent,
    (Finset.coe_subset.mpr hr.held).trans h.held⟩, hr.held⟩

theorem Trailing.deliver (hinjects : AlwaysInjects ι)
    (h : Trailing endpoint peer host last held c) {sequence : ℕ} {message : WireMessage}
    {held' : Set HeldControl} (hlt : last < sequence) (hbound : sequence < u64Size)
    (hcarries : Carries host held sequence message held')
    (hrepeat : ∀ x, message.repeated = some x → x ∈ c.heldControls) (nowNs : ℕ) :
    ∃ c', c.handleEndpointMessage endpoint peer message nowNs = (.ok .applied, c')
      ∧ Trailing endpoint peer host sequence held' c'
      ∧ ∀ x ∈ held', (x ∈ held ∨ message.pressed = some x)
        ∧ (x ∈ c'.heldControls ↔ x ∈ c.heldControls ∨ message.pressed = some x) := by
  obtain ⟨own, hown, hsub, heffect⟩ := carries_of_subset hcarries h.held hrepeat
  obtain ⟨c', -, hhandle, -, -, hfollows, hspent⟩ :=
    handleEndpointMessage_carried hinjects ⟨h.receiving, rfl⟩ hlt hbound hown nowNs
  have hspent' := h.spent
  refine ⟨c', hhandle, ⟨hfollows.1, by omega, hfollows.2 ▸ hsub⟩, fun x hx => ?_⟩
  rw [← Finset.mem_coe, hfollows.2]
  exact heffect x hx

/-- The run of a receiver, with the sender's held set beside its own. -/
theorem receiveSteps_ok_iff (hinjects : AlwaysInjects ι) {last' : ℕ} {held' : Set HeldControl}
    {steps : List ReceiverStep}
    (hcarried : CarriedAlong host last held (steps.filterMap ReceiverStep.message?) last' held')
    (h : Trailing endpoint peer host last held c) :
    (receiveSteps endpoint peer steps c).1 = .ok () ↔
      Admissible (ReceiverStep.Matched endpoint) (ReceiverStep.after endpoint peer) c steps := by
  induction steps generalizing c last held with
  | nil => exact iff_of_true rfl trivial
  | cons step rest ih =>
    cases step with
    | own release =>
      simp only [receiveSteps, ReceiverStep.apply, Admissible, ReceiverStep.Matched]
      rw [show ReceiverStep.after endpoint peer c (.own release)
        = (release.apply endpoint c).2 from rfl]
      have hown (hok : (release.apply endpoint c).1 = .ok ()) := (h.own hinjects hok).1
      generalize release.apply endpoint c = r at hown ⊢
      obtain ⟨error | _, c₁⟩ := r
      · simp
      · simp only [true_and]
        exact ih hcarried (hown rfl)
    | deliver message now =>
      cases hcarried with
      | @cons _ sequence _ _ held₁ _ _ _ hlt hbound hcarries hrest =>
        simp only [receiveSteps, ReceiverStep.apply, Admissible, ReceiverStep.Matched]
        rw [show ReceiverStep.after endpoint peer c (.deliver message now)
          = (c.handleEndpointMessage endpoint peer message now).2 from rfl]
        by_cases hrepeat : ∀ x, message.repeated = some x → x ∈ c.heldControls
        · obtain ⟨c₁, hhandle, htrailing, -⟩ := h.deliver hinjects hlt hbound hcarries hrepeat now
          simp only [hhandle, Except.map]
          rw [and_iff_right hrepeat]
          exact ih hrest htrailing
        · push Not at hrepeat
          obtain ⟨x, hx, horphan⟩ := hrepeat
          obtain ⟨error, herror⟩ :=
            handleEndpointMessage_orphan h.receiving hlt hcarries hx horphan now
          generalize c.handleEndpointMessage endpoint peer message now = r at herror ⊢
          obtain ⟨result, c₁⟩ := r
          subst herror
          refine iff_of_false (by simp [Except.map]) fun hmatched => ?_
          exact horphan (hmatched.1 x hx)

/-- The controls that own releases have taken out of the ledger and that no message
    has pressed since, with `lost` as those before. -/
def lostControls (endpoint : SessionEndpoint) (peer : AdmittedSessionBinding) :
    List ReceiverStep → PeerSessionCoordinator ι ω → Set HeldControl → Set HeldControl
  | [], _, lost => lost
  | .own release :: rest, c, lost =>
    let c' := ReceiverStep.after endpoint peer c (.own release)
    lostControls endpoint peer rest c' (lost ∪ (c.heldControls \ c'.heldControls : Finset _))
  | .deliver message now :: rest, c, lost =>
    lostControls endpoint peer rest (ReceiverStep.after endpoint peer c (.deliver message now))
      {x ∈ lost | message.pressed ≠ some x}

/-- What the sender holds and the ledger does not is what the ledger has lost. -/
theorem missing_iff (hinjects : AlwaysInjects ι) {last' : ℕ} {held' lost : Set HeldControl}
    {steps : List ReceiverStep}
    (hcarried : CarriedAlong host last held (steps.filterMap ReceiverStep.message?) last' held')
    (hrun : Admissible (ReceiverStep.Matched endpoint) (ReceiverStep.after endpoint peer) c steps)
    (h : Trailing endpoint peer host last held c)
    (hmissing : ∀ x ∈ held, x ∉ c.heldControls ↔ x ∈ lost) :
    ∀ x ∈ held', x ∉ (execute (ReceiverStep.after endpoint peer) c steps).heldControls ↔
      x ∈ lostControls endpoint peer steps c lost := by
  induction steps generalizing c last held lost with
  | nil =>
    cases hcarried
    exact hmissing
  | cons step rest ih =>
    cases step with
    | own release =>
      obtain ⟨htrailing, hsub⟩ := h.own hinjects hrun.1
      refine ih hcarried hrun.2 htrailing fun x hx => ?_
      have hkept : x ∈ (release.apply endpoint c).2.heldControls → x ∈ c.heldControls :=
        fun hin => hsub hin
      rw [Set.mem_union, ← hmissing x hx, Finset.mem_coe, Finset.mem_sdiff]
      show x ∉ (release.apply endpoint c).2.heldControls ↔
        _ ∨ _ ∧ x ∉ (release.apply endpoint c).2.heldControls
      tauto
    | deliver message now =>
      cases hcarried with
      | @cons _ sequence _ _ held₁ _ _ _ hlt hbound hcarries hrest =>
        obtain ⟨c₁, hhandle, htrailing, heffect⟩ :=
          h.deliver hinjects hlt hbound hcarries hrun.1 now
        have hafter : ReceiverStep.after endpoint peer c (.deliver message now) = c₁ := by
          simp only [ReceiverStep.after, ReceiverStep.apply, hhandle]
        have hrun' := hrun.2
        rw [execute_cons, lostControls]
        rw [hafter] at hrun' ⊢
        refine ih hrest hrun' htrailing fun x hx => ?_
        obtain ⟨hsender, howner⟩ := heffect x hx
        rw [howner, Set.mem_sep_iff]
        by_cases hpressed : message.pressed = some x
        · simp [hpressed]
        · simp [hpressed, hmissing x (hsender.resolve_right hpressed)]

end

section

variable {κ : Type} [OutputInjectionBackend κ] {config : Config}
  {workspace : WorkspaceState} {core receiverCore : DaemonCore}
  {expected expected' : PeerIdentity} {injection : ι} {injection' : κ} {outbound : ω}
  {refuses : ℕ → Option OutboundPeerError} {sender₀ sender : FifoCoordinator ι}
  {receiver₀ receiver : PeerSessionCoordinator κ ω} {endpoint' : SessionEndpoint}
  {peer peer' : AdmittedSessionBinding} {nowNs nowNs' : ℕ} {outcome outcome' : PeerEventOutcome}
  (hcore : DaemonCore.new config workspace = .ok core)
  (hnew : new core expected injection ⟨[], refuses, 0⟩ = .ok sender₀)
  (hactivate : sender₀.activateAdmittedEndpoint endpoint peer nowNs = (.ok outcome, sender))
  (hnew' : new receiverCore expected' injection' outbound = .ok receiver₀)
  (hactivate' : receiver₀.activateAdmittedEndpoint endpoint' peer' nowNs'
    = (.ok outcome', receiver))
  (hpaired : expected'.hostId = workspace.localHost) (hinjects : AlwaysInjects κ)
  {ops : List SenderOp} (hops : ∀ op ∈ ops, op.Survives) {steps : List ReceiverStep}

include hnew' hactivate' in
/-- A receiver that was just admitted holds nothing. -/
theorem trailing_start : Trailing endpoint' peer' expected'.hostId 0 ∅ receiver := by
  have hstart := follows_start hnew' hactivate'
  have hnone : receiver.heldControls = ∅ := Finset.coe_injective (hstart.2.trans
    Finset.coe_empty.symm)
  refine ⟨hstart.1, ?_, hstart.2.subset⟩
  rw [spent, hnone, Finset.card_empty]
  exact hstart.1.synthetic

include hcore hnew hactivate hops in
/-- What an honest sender puts on its FIFO is carried from the start. -/
theorem carriedAlong_of_prefix {messages : List WireMessage}
    (hinitial : messages <+: (execute SenderOp.apply sender ops).outbound.messages) :
    ∃ last held, CarriedAlong workspace.localHost 0 ∅ messages last held := by
  obtain ⟨last, held, hagreed, -, -, -⟩ :=
    SenderOp.execute_sending (sending_start hcore hnew hactivate) hops
  obtain ⟨last', held', hagreed'⟩ := hagreed.take hinitial.length_le
  have hcarried := hagreed'.carriedAlong
  rw [← List.prefix_iff_eq_take.mp hinitial] at hcarried
  exact ⟨last', held', hcarried⟩

include hcore hnew hactivate hnew' hactivate' hpaired hinjects hops

/-- For every run of an honest sender from its admission and every interleaving of a prefix of its
    FIFO with own releases of the receiver, the receiver fails no message exactly if every own
    release succeeds and every delivered repeat names a control that the receiver still holds. -/
theorem receive_ok_iff (hinitial : steps.filterMap ReceiverStep.message?
      <+: (execute SenderOp.apply sender ops).outbound.messages) :
    (receiveSteps endpoint' peer' steps receiver).1 = .ok () ↔
      Admissible (ReceiverStep.Matched endpoint') (ReceiverStep.after endpoint' peer') receiver
        steps := by
  obtain ⟨last, held, hcarried⟩ := carriedAlong_of_prefix hcore hnew hactivate hops hinitial
  exact receiveSteps_ok_iff hinjects hcarried (hpaired ▸ trailing_start hnew' hactivate')

/-- The next repeat names a control that the receiver does not hold exactly if the
    receiver has released it and the sender has not pressed it again since. -/
theorem repeat_missing_iff {message : WireMessage} {x : HeldControl}
    (hinitial : steps.filterMap ReceiverStep.message? ++ [message]
      <+: (execute SenderOp.apply sender ops).outbound.messages)
    (hrun : Admissible (ReceiverStep.Matched endpoint') (ReceiverStep.after endpoint' peer')
      receiver steps)
    (hrepeat : message.repeated = some x) :
    x ∉ (execute (ReceiverStep.after endpoint' peer') receiver steps).heldControls ↔
      x ∈ lostControls endpoint' peer' steps receiver ∅ := by
  obtain ⟨last, held, hcarried⟩ := carriedAlong_of_prefix hcore hnew hactivate hops hinitial
  obtain ⟨last', sequence, held', hcarried, hcarries⟩ := hcarried.inv_snoc
  have hheld : x ∈ held' := repeated_mem hcarries hrepeat
  have hstart := trailing_start hnew' hactivate'
  rw [hpaired] at hstart
  exact missing_iff hinjects hcarried hrun hstart
    (fun _ hmem => absurd hmem (Set.notMem_empty _)) x hheld

end

end Runs

/-! ### A key that is held while the receiver releases it -/

namespace Sample

/-- The sender's user presses a key, holds it and lets it go. -/
def holdKey : List SenderOp :=
  [.markWorkspaceRoutingReady 0,
   .finishPointerHandoff { workspace with activeHost := remoteHost } 0,
   .routeCaptured (key .keyA .pressed) 0, .routeCaptured (key .keyA .repeated) 0,
   .routeCaptured (key .keyA .released) 0]

def heldFrames : List WireMessage := (execute SenderOp.apply openSender holdKey).outbound.messages

/-- The receiver releases its inbound input between the `n`-th message and the next one. -/
def releaseAfter (n : ℕ) (release : OwnRelease) : List ReceiverStep :=
  (heldFrames.take n).map (.deliver · 0) ++ .own release :: (heldFrames.drop n).map (.deliver · 0)

end Sample

open Sample

open PeerSessionCoordinator in
/-- An emergency after the last repeat is harmless: the release is applied. -/
theorem receive_ok_release :
    heldFrames.length = 3
      ∧ (receiveSteps peerEndpoint (binding remoteHost localHost)
        (releaseAfter 2 (.emergency 0)) receiver).1 = .ok () := by
  have hops : ∀ op ∈ holdKey, op.Survives := by
    simp only [holdKey, List.forall_mem_cons]
    exact ⟨trivial, trivial, keyCodeFromWire_named .keyA, keyCodeFromWire_named .keyA,
      keyCodeFromWire_named .keyA, fun _ hmem => absurd hmem List.not_mem_nil⟩
  refine ⟨by decide +kernel, (receive_ok_iff
    (rfl : DaemonCore.new config workspace = .ok core) openAdmitted_eq
    openSender_eq peerAdmitted_eq receiver_eq rfl (fun _ _ => rfl) hops
    ?_).mpr (by decide +kernel)⟩
  rw [show (releaseAfter 2 (.emergency 0)).filterMap ReceiverStep.message?
    = heldFrames by decide +kernel]
  exact List.prefix_refl _

open PeerSessionCoordinator in
/-- After any of the own releases the next repeat of the key that is still held
    ends the session. -/
theorem receive_fails_repeat :
    [OwnRelease.emergency 0, .degradedConnected 0 0, .deviceReplaced keyboard 0].Forall
      fun release => (release.apply peerEndpoint (receiveSteps peerEndpoint
        (binding remoteHost localHost)
        ((heldFrames.take 1).map (.deliver · 0)) receiver).2).1 = .ok ()
      ∧ (receiveSteps peerEndpoint (binding remoteHost localHost)
        (releaseAfter 1 release) receiver).1 = .error .unmatchedRepeat := by
  decide +kernel

end SoftwareKvm
