import SoftwareKvm.Core.Settled
import SoftwareKvm.Session.Fifo

/-!
# What a receiver accepts

The receiving side of a session, seen as a machine over the set of held
controls. `Carries host held sequence message held'` describes a message that
a receiver holding `held` must accept, and the set it then holds: the sequence
number, the repeat check and the limits of `ensure_inbound_press_capacity` are
all spelled out. `handleEndpointMessage_carried` proves that it does.

Results:
* `ensureInboundPressCapacity_ok`: a press within the limits finds room.
* `injectReceived_ok`: an admitted event is injected and moves the held set.
* `handleEndpointMessage_carried`: a carried message is applied.
-/

namespace SoftwareKvm

open Lib

/-- A control of a device, as a receiver holds it. -/
abbrev HeldControl := DeviceId × PhysicalControl

/-- The held set after a transition of a device, if its payload has one. -/
def stepHeld (held : Set HeldControl) (device : DeviceId)
    (stateful : Option ControlTransition) : Set HeldControl :=
  match stateful with
  | none => held
  | some (control, transition) => transition.onHeld (device, control) held

/-- Controls within the three limits of a receiver. -/
structure WithinLimits (controls : Finset HeldControl) : Prop where
  devices : (controls.image Prod.fst).card ≤ maxInboundPressedDevices
  perDevice : ∀ device, (controls.filter (·.1 = device)).card ≤ maxInboundHeldPerDevice
  total : controls.card ≤ maxInboundHeldTotal

/-- A transition that a receiver holding `held` accepts: a repeat continues a
    held control, a press stays within the limits. -/
def Admits (held : Set HeldControl) (device : DeviceId) : Option ControlTransition → Prop
  | some (control, .press) =>
    ∃ controls : Finset HeldControl, WithinLimits controls
      ∧ insert (device, control) held ⊆ (controls : Set HeldControl)
  | some (control, .repeat) => (device, control) ∈ held
  | some (_, .release) | none => True

/-- A message that a receiver of `host` holding `held` accepts, with its
    sequence number and the set held afterwards. -/
inductive Carries (host : HostId) (held : Set HeldControl) :
    ℕ → WireMessage → Set HeldControl → Prop
  | input {wire : InputEventV1} {event : InputEvent} {sequence : ℕ}
      (hsequence : wire.sequence = sequence) (hhost : wire.sourceHost = host)
      (hevent : inputFromWire wire = .ok event)
      (hadmits : Admits held event.sourceDevice (PhysicalControl.fromPayload event.payload)) :
      Carries host held sequence (.input wire)
        (stepHeld held event.sourceDevice (PhysicalControl.fromPayload event.payload))
  | release {wire : ReleaseInputV1} {device : DeviceId} {control : PhysicalControl} {sequence : ℕ}
      (hsequence : wire.sequence = sequence) (hhost : wire.sourceHost = host)
      (hdevice : wire.sourceDevice = some device)
      (hvalid : (WireMessage.releaseInput wire).validate = .ok ())
      (hsome : (wire.keys.isEmpty && wire.buttons.isEmpty) = false)
      (hreleases : PeerSessionCoordinator.requestedReleases wire [device]
        = [(device, control.releasePayload)]) :
      Carries host held sequence (.releaseInput wire) (held \ {(device, control)})

/-- The transitions that a message asks a receiver to inject. -/
def WireMessage.effects : WireMessage → DeviceEvents
  | .input wire => match inputFromWire wire with
    | .ok event => [(event.sourceDevice, event.payload)]
    | .error _ => []
  | .releaseInput wire =>
    PeerSessionCoordinator.requestedReleases wire wire.sourceDevice.toList
  | _ => []

namespace PeerSessionCoordinator

open WireMessage

variable {ι ω : Type} (c : PeerSessionCoordinator ι ω)

/-- The controls of `inbound_pressed`. -/
def heldControls : Finset HeldControl :=
  c.inboundPressed.itemSet PressedState.controls

variable {control : PhysicalControl}

theorem mem_heldControls {c : PeerSessionCoordinator ι ω} {device : DeviceId} :
    (device, control) ∈ c.heldControls ↔
      (c.inboundPressed.get? device).any (·.holds control) = true := by
  rw [heldControls, OrdMap.mem_itemSet]
  cases c.inboundPressed.get? device with
  | none => simp
  | some state => simp [PressedState.mem_controls]

/-- No device is kept without a held control. -/
def NoIdleDevice : Prop :=
  ∀ device state, c.inboundPressed.get? device = some state → state.isEmpty = false

/-! ## Capacity -/

/-- A press that stays within the limits finds room. -/
theorem ensureInboundPressCapacity_ok {c : PeerSessionCoordinator ι ω} (hidle : c.NoIdleDevice)
    {controls : Finset HeldControl} (hlimits : WithinLimits controls)
    (hsub : c.heldControls ⊆ controls) {device : DeviceId} (hmem : (device, control) ∈ controls) :
    c.ensureInboundPressCapacity device control = .ok () := by
  unfold ensureInboundPressCapacity
  simp only
  split_ifs with hholds hdevices hper htotal
  · rfl
  · -- a new device: the held devices are a proper part of the allowed ones
    simp only [Bool.and_eq_true, Option.isNone_iff_eq_none, decide_eq_true_eq] at hdevices
    have hcount : (c.heldControls.image Prod.fst).card = c.inboundPressed.size :=
      OrdMap.card_image_fst_itemSet fun d state hget =>
        PressedState.controls_ne_nil (hidle d state hget)
    have hlt : (c.heldControls.image Prod.fst).card < (controls.image Prod.fst).card := by
      refine Finset.card_lt_card
        ((Finset.ssubset_iff_of_subset (Finset.image_subset_image hsub)).mpr
        ⟨device, Finset.mem_image_of_mem Prod.fst hmem, fun hd => ?_⟩)
      obtain ⟨⟨d, k⟩, hheld, rfl⟩ := Finset.mem_image.mp hd
      rw [mem_heldControls, hdevices.1] at hheld
      cases hheld
    have := hlimits.devices
    omega
  · exfalso
    cases hget : c.inboundPressed.get? device with
    | none => simp [hget] at hper
    | some state =>
      simp only [hget, Option.any_some, decide_eq_true_eq] at hper
      have hcount : (c.heldControls.filter (·.1 = device)).card = state.len := by
        rw [heldControls, OrdMap.card_itemSet_at _ PressedState.nodup_controls, hget]
        exact state.length_controls
      have hlt : (c.heldControls.filter (·.1 = device)).card
          < (controls.filter (·.1 = device)).card := by
        refine Finset.card_lt_card ((Finset.ssubset_iff_of_subset
          (Finset.filter_subset_filter _ hsub)).mpr ⟨(device, control), ?_, fun hd => ?_⟩)
        · exact Finset.mem_filter.mpr ⟨hmem, rfl⟩
        · exact hholds (mem_heldControls.mp (Finset.mem_filter.mp hd).1)
      have := hlimits.perDevice device
      omega
  · exfalso
    have hcount : c.heldControls.card = (c.inboundPressed.values.map PressedState.len).sum := by
      rw [heldControls, OrdMap.card_itemSet _ PressedState.nodup_controls]
      simp only [PressedState.length_controls]
    have hlt : c.heldControls.card < controls.card :=
      Finset.card_lt_card ((Finset.ssubset_iff_of_subset hsub).mpr
        ⟨(device, control), hmem, fun hd => hholds (mem_heldControls.mp hd)⟩)
    have := hlimits.total
    omega
  · rfl

/-! ## Pressed state -/

/-- `c'` differs from `c` in the injection backend and the pressed state. -/
structure PressedOnly (c c' : PeerSessionCoordinator ι ω) : Prop where
  expected : c'.expected = c.expected
  authorized : c'.authorized = c.authorized
  syntheticSequence : c'.syntheticSequence = c.syntheticSequence

theorem get?_applyRelease (device d : DeviceId) (payload : InputPayload) :
    (c.applyRelease device payload).inboundPressed.get? d =
      if d = device then
        ((c.inboundPressed.get? d).map (·.apply payload)).filter (fun state => !state.isEmpty)
      else c.inboundPressed.get? d := by
  unfold applyRelease
  cases hget : c.inboundPressed.get? device with
  | none =>
    split_ifs with hd
    · rw [hd, hget]
      rfl
    · rfl
  | some state =>
    simp only
    by_cases hempty : (state.apply payload).isEmpty = true
    · rw [if_pos hempty, OrdMap.get?_erase]
      split_ifs with hd
      · rw [hd, hget, Option.map_some, Option.filter_some, hempty]
        rfl
      · rfl
    · rw [if_neg hempty, OrdMap.get?_insert]
      split_ifs with hd
      · rw [hd, hget, Option.map_some, Option.filter_some, if_pos (by simpa using hempty)]
      · rfl

theorem applyRelease_ok {c : PeerSessionCoordinator ι ω} (hidle : c.NoIdleDevice)
    (device : DeviceId) {payload : InputPayload}
    (hpayload : PhysicalControl.fromPayload payload = some (control, .release)) :
    PressedOnly c (c.applyRelease device payload)
      ∧ (c.applyRelease device payload).injection = c.injection
      ∧ (c.applyRelease device payload).NoIdleDevice
      ∧ ((c.applyRelease device payload).heldControls : Set HeldControl)
        = (c.heldControls : Set HeldControl) \ {(device, control)} := by
  refine ⟨?_, ?_, fun d state hget => ?_, ?_⟩
  · unfold applyRelease
    split <;> exact ⟨rfl, rfl, rfl⟩
  · unfold applyRelease
    split <;> rfl
  · rw [get?_applyRelease] at hget
    split_ifs at hget
    · simpa using (Option.filter_eq_some_iff.mp hget).2
    · exact hidle d state hget
  · ext ⟨d, k⟩
    rw [Set.mem_sdiff, Finset.mem_coe, Finset.mem_coe, mem_heldControls, mem_heldControls,
      get?_applyRelease, Set.mem_singleton_iff, Prod.mk.injEq]
    split_ifs with hd
    · cases c.inboundPressed.get? d with
      | none => simp
      | some state =>
        have hholds := state.holds_apply payload k
        rw [hpayload] at hholds
        by_cases hempty : (state.apply payload).isEmpty = true
        · -- an emptied device held nothing else
          rw [PressedState.isEmpty_iff.mp hempty k] at hholds
          simpa [hempty, hd, imp_iff_not_or, or_comm] using hholds.symm
        · simp [hempty, hd, hholds, and_comm]
    · simp [hd]

/-- The pressed state after a press, recorded before the injection. -/
def recordPress (device : DeviceId) (payload : InputPayload) : PeerSessionCoordinator ι ω :=
  let state := ((c.inboundPressed.get? device).getD .empty).apply payload
  { c with inboundPressed := c.inboundPressed.insert device state }

theorem recordPress_ok {c : PeerSessionCoordinator ι ω} (hidle : c.NoIdleDevice)
    (device : DeviceId) {payload : InputPayload}
    (hpayload : PhysicalControl.fromPayload payload = some (control, .press)) :
    (c.recordPress device payload).NoIdleDevice
      ∧ ((c.recordPress device payload).heldControls : Set HeldControl)
        = insert (device, control) (c.heldControls : Set HeldControl) := by
  have hholds (state : PressedState) (k : PhysicalControl) :
      (state.apply payload).holds k = (decide (k = control) || state.holds k) := by
    have := state.holds_apply payload k
    rwa [hpayload] at this
  refine ⟨fun d state hget => ?_, ?_⟩
  · rw [recordPress, OrdMap.get?_insert] at hget
    split_ifs at hget
    · cases hget
      by_contra hempty
      rw [Bool.not_eq_false, PressedState.isEmpty_iff] at hempty
      have := hempty control
      rw [hholds] at this
      simp at this
    · exact hidle d state hget
  · ext ⟨d, k⟩
    rw [Set.mem_insert_iff, Finset.mem_coe, Finset.mem_coe, mem_heldControls, mem_heldControls,
      recordPress, OrdMap.get?_insert, Prod.mk.injEq]
    split_ifs with hd
    · rw [Option.any_some, hholds, hd]
      cases c.inboundPressed.get? device with
      | none => simp
      | some state => simp
    · simp [hd]

/-! ## Receivers -/

/-- A receiver that has accepted every sequence number up to `last`. -/
structure Receiving (endpoint : SessionEndpoint) (peer : AdmittedSessionBinding) (host : HostId)
    (last : ℕ) (c : PeerSessionCoordinator ι ω) : Prop where
  expected : c.expected.hostId = host
  session : ∃ session, c.authorized = some session ∧ session.endpoint = endpoint
    ∧ session.binding = peer ∧ session.acceptsInput = true
    ∧ (∀ previous, session.lastSequence = some previous → previous ≤ last)
    ∧ ∀ input ∈ session.recentInputs, input.sequence ≤ last
  synthetic : c.syntheticSequence ≤ last
  idle : c.NoIdleDevice

variable {endpoint : SessionEndpoint} {peer : AdmittedSessionBinding} {host : HostId}
  {last sequence : ℕ} {c : PeerSessionCoordinator ι ω}

section

variable (h : c.Receiving endpoint peer host last)

include h

theorem Receiving.pressedOnly {c' : PeerSessionCoordinator ι ω} (hp : PressedOnly c c')
    (hidle : c'.NoIdleDevice) : c'.Receiving endpoint peer host last :=
  ⟨by rw [hp.expected]; exact h.expected, by rw [hp.authorized]; exact h.session,
    by rw [hp.syntheticSequence]; exact h.synthetic, hidle⟩

theorem Receiving.not_duplicate {input : InputEventV1} (hlt : last < input.sequence) :
    c.isRecentDuplicate input = false := by
  obtain ⟨session, hsession, -, -, -, -, hrecent⟩ := h.session
  rw [isRecentDuplicate, hsession, Option.any_some, List.contains_eq_mem, decide_eq_false_iff_not]
  intro hmem
  have := hrecent input hmem
  omega

theorem Receiving.rememberInput (input : InputEventV1) (hle : input.sequence ≤ last) :
    (c.rememberInput input).Receiving endpoint peer host last := by
  obtain ⟨session, hsession, hendpoint, hpeer, haccepts, hlast, hrecent⟩ := h.session
  have hremembered := congrArg (Option.map fun session : AuthorizedSession =>
    { session with recentInputs :=
        (if session.recentInputs.length = recentInputsCapacity then session.recentInputs.tail
          else session.recentInputs) ++ [input] }) hsession
  refine ⟨h.expected, ⟨_, hremembered, hendpoint, hpeer, haccepts, hlast, ?_⟩, h.synthetic, h.idle⟩
  intro other hother
  rcases List.mem_append.mp hother with hmem | hmem
  · split_ifs at hmem
    · exact hrecent other (List.mem_of_mem_tail hmem)
    · exact hrecent other hmem
  · rw [List.mem_singleton.mp hmem]
    exact hle

end

/-- The synthetic events so far and those that the ledger still calls for. -/
def spent (c : PeerSessionCoordinator ι ω) : ℕ := c.syntheticSequence + c.heldControls.card

theorem card_stepHeld_le {own own' : Finset HeldControl} {device : DeviceId}
    {stateful : Option ControlTransition}
    (h : (own' : Set HeldControl) = stepHeld own device stateful) : own'.card ≤ own.card + 1 := by
  match stateful with
  | none => rw [Finset.coe_injective h]; omega
  | some (control, .repeat) => rw [Finset.coe_injective h]; omega
  | some (control, .release) =>
    have hsub : own' ⊆ own := by
      rw [← Finset.coe_subset, h]
      exact Set.sdiff_subset
    exact (Finset.card_le_card hsub).trans (Nat.le_succ _)
  | some (control, .press) =>
    have hinsert : own' = insert (device, control) own := by
      apply Finset.coe_injective
      rw [h, Finset.coe_insert]
      rfl
    rw [hinsert]
    exact Finset.card_insert_le _ _

/-! ## Injection -/

section Injection

variable [OutputInjectionBackend ι] [OutboundPeer ω]

/-- The injection backend never fails. -/
def AlwaysInjects (ι : Type) [OutputInjectionBackend ι] : Prop :=
  ∀ (injection : ι) event, (OutputInjectionBackend.inject injection event).1 = true

/-- The coordinator after an injection. -/
def injected (c : PeerSessionCoordinator ι ω) (event : InputEvent) : PeerSessionCoordinator ι ω :=
  { c with injection := (OutputInjectionBackend.inject c.injection event).2 }

theorem injectEvent_ok {c : PeerSessionCoordinator ι ω} (hinjects : AlwaysInjects ι)
    (event : InputEvent) (nowNs : ℕ) :
    c.injectEvent event nowNs = (.ok (),
      match PhysicalControl.fromPayload event.payload with
      | some (_, .release) => (c.injected event).applyRelease event.sourceDevice event.payload
      | _ => c.injected event) := by
  have h := hinjects c.injection event
  unfold injectEvent injected
  generalize OutputInjectionBackend.inject c.injection event = r at h ⊢
  obtain ⟨accepted, injection⟩ := r
  subst h
  generalize PhysicalControl.fromPayload event.payload = stateful
  obtain _ | ⟨control, transition⟩ := stateful
  · rfl
  · cases transition <;> rfl

/-- An admitted event is injected, and the held set follows it. -/
theorem injectReceived_ok {c : PeerSessionCoordinator ι ω} (hinjects : AlwaysInjects ι)
    (hidle : c.NoIdleDevice) (event : InputEvent) (nowNs : ℕ)
    (hadmits : Admits c.heldControls event.sourceDevice
      (PhysicalControl.fromPayload event.payload)) :
    ∃ c', c.injectReceived event nowNs = (.ok (), c') ∧ PressedOnly c c'
      ∧ c'.injection = (c.injected event).injection ∧ c'.NoIdleDevice
      ∧ (c'.heldControls : Set HeldControl) = stepHeld c.heldControls event.sourceDevice
        (PhysicalControl.fromPayload event.payload) := by
  unfold injectReceived
  match hpayload : PhysicalControl.fromPayload event.payload with
  | none =>
    have h := injectEvent_ok (c := c) hinjects event nowNs
    rw [hpayload] at h
    exact ⟨_, h, ⟨rfl, rfl, rfl⟩, rfl, hidle, rfl⟩
  | some (control, .repeat) =>
    rw [hpayload] at hadmits
    have h := injectEvent_ok (c := c) hinjects event nowNs
    rw [hpayload] at h
    simp only
    rw [if_pos (mem_heldControls.mp (Finset.mem_coe.mp hadmits))]
    exact ⟨_, h, ⟨rfl, rfl, rfl⟩, rfl, hidle, rfl⟩
  | some (control, .release) =>
    have h := injectEvent_ok (c := c) hinjects event nowNs
    rw [hpayload] at h
    obtain ⟨honly, hinjection, hidle', hheld⟩ := applyRelease_ok (c := c.injected event) hidle
      event.sourceDevice hpayload
    exact ⟨_, h, { honly with }, hinjection, hidle', hheld⟩
  | some (control, .press) =>
    rw [hpayload] at hadmits
    obtain ⟨controls, hlimits, hsub⟩ := hadmits
    have hroom := ensureInboundPressCapacity_ok hidle hlimits
      (fun x hx => hsub (Set.mem_insert_of_mem _ hx)) (hsub (Set.mem_insert _ _))
    simp only [hroom]
    obtain ⟨hidle', hheld⟩ := recordPress_ok hidle event.sourceDevice hpayload
    have h := injectEvent_ok (c := c.recordPress event.sourceDevice event.payload)
      hinjects event nowNs
    rw [hpayload] at h
    exact ⟨_, h, ⟨rfl, rfl, rfl⟩, rfl, hidle', hheld⟩

/-! ## Messages -/

theorem Receiving.acceptSequence (h : c.Receiving endpoint peer host last) (hlt : last < sequence)
    (nowNs : ℕ) :
    ∃ c', c.acceptSequence sequence nowNs = (.ok (), c')
      ∧ c'.Receiving endpoint peer host sequence ∧ c'.inboundPressed = c.inboundPressed
      ∧ c'.injection = c.injection ∧ c'.syntheticSequence = c.syntheticSequence := by
  obtain ⟨session, hsession, hendpoint, hpeer, haccepts, hlast, hrecent⟩ := h.session
  have hnext : PeerSessionCoordinator.Receiving endpoint peer host sequence
      { c with authorized := some { session with lastSequence := some sequence } } := by
    refine ⟨h.expected, ⟨_, rfl, hendpoint, hpeer, haccepts, ?_, ?_⟩, h.synthetic.trans hlt.le,
      h.idle⟩
    · intro previous hprevious
      cases hprevious
      exact le_rfl
    · exact fun input hinput => (hrecent input hinput).trans hlt.le
  unfold PeerSessionCoordinator.acceptSequence
  simp only [hsession]
  cases hprevious : session.lastSequence with
  | none => exact ⟨_, rfl, hnext, rfl, rfl, rfl⟩
  | some previous =>
    have hle := hlast previous hprevious
    simp only
    rw [if_neg (by omega)]
    exact ⟨_, rfl, hnext, rfl, rfl, rfl⟩

theorem fromPayload_releasePayload (control : PhysicalControl) :
    PhysicalControl.fromPayload control.releasePayload = some (control, .release) := by
  cases control <;> rfl

/-- The receiver's state after a carried message. -/
def Follows (endpoint : SessionEndpoint) (peer : AdmittedSessionBinding) (host : HostId)
    (sequence : ℕ) (held : Set HeldControl) (c : PeerSessionCoordinator ι ω) : Prop :=
  c.Receiving endpoint peer host sequence ∧ (c.heldControls : Set HeldControl) = held

variable {held : Set HeldControl}

theorem handleRelease_carried {wire : ReleaseInputV1}
    {device : DeviceId} {control : PhysicalControl} (hinjects : AlwaysInjects ι)
    (h : c.Follows endpoint peer host last held) (hlt : last < wire.sequence)
    (hbound : wire.sequence < u64Size) (hhost : wire.sourceHost = host)
    (hdevice : wire.sourceDevice = some device)
    (hsome : (wire.keys.isEmpty && wire.buttons.isEmpty) = false)
    (hreleases : requestedReleases wire [device] = [(device, control.releasePayload)]) (nowNs : ℕ) :
    ∃ c' event, c.handleRelease wire nowNs = (.ok (), c')
      ∧ (event.sourceDevice, event.payload) = (device, control.releasePayload)
      ∧ c'.injection = (c.injected event).injection
      ∧ c'.Follows endpoint peer host wire.sequence (held \ {(device, control)})
      ∧ c'.spent ≤ c.spent + 1 := by
  obtain ⟨hreceiving, rfl⟩ := h
  obtain ⟨c₁, haccept, hreceiving₁, hpressed, hinjection, hsynthetic⟩ :=
    hreceiving.acceptSequence hlt nowNs
  have hle := hreceiving.synthetic
  have hnext : checkedAdd c₁.syntheticSequence 1 = some (c₁.syntheticSequence + 1) :=
    checkedAdd_eq_some.mpr ⟨rfl, by omega⟩
  let event : InputEvent :=
    ⟨c₁.syntheticSequence, nowNs, c₁.expected.hostId, device, control.releasePayload⟩
  let c₂ : PeerSessionCoordinator ι ω := { c₁ with syntheticSequence := c₁.syntheticSequence + 1 }
  have hreceiving₂ : c₂.Receiving endpoint peer host wire.sequence :=
    ⟨hreceiving₁.expected, hreceiving₁.session, by show c₁.syntheticSequence + 1 ≤ _; omega,
      hreceiving₁.idle⟩
  have hheld₂ : c₂.heldControls = c.heldControls := by
    unfold heldControls
    rw [← hpressed]
  have hadmits : Admits c₂.heldControls event.sourceDevice
      (PhysicalControl.fromPayload event.payload) := by
    rw [fromPayload_releasePayload]
    trivial
  obtain ⟨c', hinject, honly, hinjection', hidle, hstep⟩ :=
    injectReceived_ok hinjects hreceiving₂.idle event nowNs hadmits
  rw [fromPayload_releasePayload, hheld₂] at hstep
  have hinjected : c'.injection = (c.injected event).injection := by
    rw [hinjection']
    unfold injected
    rw [← hinjection]
  have hspent : c'.spent ≤ c.spent + 1 := by
    have hsub : c'.heldControls ⊆ c.heldControls := by
      rw [← Finset.coe_subset, hstep]
      exact Set.sdiff_subset
    have hcard := Finset.card_le_card hsub
    have hnumber : c'.syntheticSequence = c₁.syntheticSequence + 1 := honly.syntheticSequence
    unfold spent
    omega
  refine ⟨c', event, ?_, rfl, hinjected, ⟨hreceiving₂.pressedOnly honly hidle, hstep⟩, hspent⟩
  unfold handleRelease
  rw [if_neg (by rw [hhost, hreceiving.expected]; exact not_not.mpr rfl), haccept]
  simp only [hsome, hdevice, Bool.false_eq_true, if_false, hreleases, injectReleases,
    syntheticEvent, hnext]
  rw [hinject]

/-- A receiver handles the messages of its peer. -/
theorem Receiving.handleEndpointMessage_eq (h : c.Receiving endpoint peer host last)
    (message : WireMessage) (nowNs : ℕ) :
    c.handleEndpointMessage endpoint peer message nowNs
      = c.handleAuthorizedMessage message nowNs ∧ c.acceptsInput = true := by
  obtain ⟨session, hsession, hendpoint, hpeer, haccepts, -⟩ := h.session
  refine ⟨if_pos (by simp [hsession, hendpoint, hpeer]), ?_⟩
  rw [acceptsInput, hsession]
  exact haccepts

theorem Receiving.handleEndpointMessage_input (h : c.Receiving endpoint peer host last)
    {wire : InputEventV1} {event : InputEvent} (hevent : inputFromWire wire = .ok event)
    (nowNs : ℕ) : c.handleEndpointMessage endpoint peer (.input wire) nowNs
      = c.handleInput wire nowNs := by
  obtain ⟨heq, hopen⟩ := h.handleEndpointMessage_eq (.input wire) nowNs
  -- what `input_from_wire` accepts passes the message validation
  unfold inputFromWire at hevent
  simp only at hevent
  split_ifs at hevent with hfinite
  have hvalid : (WireMessage.input wire).validate = .ok () := by
    show validateInput wire = .ok ()
    unfold validateInput
    cases hpayload : wire.payload with
    | key code state => rfl
    | pointerButton button state => rfl
    | pointerMove dx dy =>
      rw [hpayload, payloadFromWire, InputPayload.isFinite, Bool.and_eq_true] at hfinite
      simp only [finite, ensure, hfinite.1, hfinite.2, if_true]
      rfl
    | scroll horizontal vertical =>
      rw [hpayload, payloadFromWire, InputPayload.isFinite, Bool.and_eq_true] at hfinite
      simp only [finite, ensure, hfinite.1, hfinite.2, if_true]
      rfl
  rw [heq, handleAuthorizedMessage, hopen, hvalid]
  rfl

/-- A receiver that holds what the sender's ledger held applies the next
    message and holds what the ledger held then. -/
theorem handleEndpointMessage_carried {held' : Set HeldControl} {message : WireMessage}
    (hinjects : AlwaysInjects ι) (h : c.Follows endpoint peer host last held)
    (hlt : last < sequence) (hbound : sequence < u64Size)
    (hcarries : Carries host held sequence message held') (nowNs : ℕ) :
    ∃ c' event, c.handleEndpointMessage endpoint peer message nowNs = (.ok .applied, c')
      ∧ message.effects = [(event.sourceDevice, event.payload)]
      ∧ c'.injection = (c.injected event).injection
      ∧ c'.Follows endpoint peer host sequence held' ∧ c'.spent ≤ c.spent + 1 := by
  cases hcarries with
  | @input wire event _ hsequence hhost hevent hadmits =>
    subst hsequence
    rw [h.1.handleEndpointMessage_input hevent]
    obtain ⟨hreceiving, rfl⟩ := h
    obtain ⟨c₁, haccept, hreceiving₁, hpressed, hinjection, hsynthetic⟩ :=
      hreceiving.acceptSequence hlt nowNs
    have hreceiving₂ := hreceiving₁.rememberInput wire le_rfl
    have hheld₂ : (c₁.rememberInput wire).heldControls = c.heldControls := by
      unfold heldControls
      rw [← hpressed]
      rfl
    obtain ⟨c', hinject, honly, hinjection', hidle, hstep⟩ := injectReceived_ok hinjects
      hreceiving₂.idle event nowNs (by rw [hheld₂]; exact hadmits)
    rw [hheld₂] at hstep
    have hspent : c'.spent ≤ c.spent + 1 := by
      have hcard := card_stepHeld_le hstep
      have hsame : c'.syntheticSequence = _ := honly.syntheticSequence.trans hsynthetic
      unfold spent
      omega
    have hinjected : c'.injection = (c.injected event).injection := by
      rw [hinjection']
      unfold injected
      rw [← hinjection]
      rfl
    refine ⟨c', _, ?_, by rw [effects, hevent], hinjected,
      ⟨hreceiving₂.pressedOnly honly hidle, hstep⟩, hspent⟩
    unfold handleInput
    rw [if_neg (by rw [hhost, hreceiving.expected]; exact not_not.mpr rfl),
      if_neg (by rw [hreceiving.not_duplicate hlt]; exact Bool.false_ne_true), haccept]
    simp only [hevent, hinject]
  | release hsequence hhost hdevice hvalid hsome hreleases =>
    subst hsequence
    obtain ⟨heq, hopen⟩ := h.1.handleEndpointMessage_eq (.releaseInput _) nowNs
    rw [heq, handleAuthorizedMessage, hopen, hvalid]
    obtain ⟨c', event, hhandle, heffect, hinjection, hfollows⟩ :=
      handleRelease_carried hinjects h hlt hbound hhost hdevice hsome hreleases nowNs
    refine ⟨c', event, by simp [hhandle], ?_, hinjection, hfollows⟩
    rw [effects, hdevice, Option.toList_some, hreleases, heffect]

end Injection

end PeerSessionCoordinator

end SoftwareKvm
