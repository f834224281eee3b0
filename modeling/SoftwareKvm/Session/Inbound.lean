import SoftwareKvm.Session.Agreement

/-!
# The ledger of injected input

What the operations of a coordinator do to `inbound_pressed`, for any injection
backend and any outbound peer. Only an injected press puts a control into the
ledger; every other operation leaves it alone or takes controls out.

* `Ledgered`: every held control satisfies a predicate and no device is kept
  without a held control.
* `SenderOp.apply_ledgered`: every local operation keeps a ledger within its
  predicate.
-/

namespace SoftwareKvm

open Lib

/-- The control that a message presses. -/
def WireMessage.pressed : WireMessage → Option HeldControl
  | .input wire => match inputFromWire wire with
    | .ok event => match PhysicalControl.fromPayload event.payload with
      | some (control, .press) => some (event.sourceDevice, control)
      | _ => none
    | .error _ => none
  | _ => none

namespace PeerSessionCoordinator

variable {ι ω : Type} {P : HeldControl → Prop} {c c' : PeerSessionCoordinator ι ω}

/-- Every held control satisfies `P`, and no device is kept without one. -/
structure Ledgered (P : HeldControl → Prop) (c : PeerSessionCoordinator ι ω) : Prop where
  idle : c.NoIdleDevice
  held : ∀ control ∈ c.heldControls, P control

theorem Ledgered.of_pressed (h : c.Ledgered P) (heq : c'.inboundPressed = c.inboundPressed) :
    c'.Ledgered P := by
  refine ⟨fun device state hget => h.idle device state (heq ▸ hget), ?_⟩
  unfold heldControls
  rw [heq]
  exact h.held

/-- A ledger without held controls is empty. -/
theorem Ledgered.isEmpty (h : c.Ledgered fun _ => False) : c.inboundPressed.isEmpty = true := by
  rw [OrdMap.isEmpty_iff]
  intro device
  cases hget : c.inboundPressed.get? device with
  | none => rfl
  | some state =>
    exfalso
    have hne := PressedState.controls_ne_nil (h.idle device state hget)
    obtain ⟨control, hmem⟩ := List.exists_mem_of_ne_nil _ hne
    exact h.held (device, control) (OrdMap.mem_itemSet.mpr ⟨state, hget, hmem⟩)

/-! ## Releases -/

theorem releasePayload_injective : Function.Injective PhysicalControl.releasePayload := by
  intro a b h
  have hpayload := congrArg PhysicalControl.fromPayload h
  rw [fromPayload_releasePayload, fromPayload_releasePayload] at hpayload
  exact congrArg Prod.fst (Option.some.inj hpayload)

variable {control : PhysicalControl} {event : InputEvent}

/-- Every held control is among the releases. -/
theorem inboundReleases_of_held {device : DeviceId} (h : (device, control) ∈ c.heldControls) :
    (device, control.releasePayload) ∈ c.inboundReleases none := by
  obtain ⟨state, hget, hmem⟩ := OrdMap.mem_itemSet.mp h
  simp only [inboundReleases, List.mem_flatMap]
  refine ⟨(device, state), OrdMap.mem_entries.mpr hget, ?_⟩
  simp only [Option.any_none, Bool.false_eq_true, if_false, List.mem_map]
  exact ⟨control.releasePayload, PressedState.mem_releasePayloads.mpr
    ⟨control, PressedState.mem_controls.mp hmem, rfl⟩, rfl⟩

/-- The ledger after a release that was injected. -/
theorem mem_heldControls_modify {device d : DeviceId} {k : PhysicalControl} (injection : ι) :
    (d, k) ∈ heldControls { c with
        injection
        inboundPressed := c.inboundPressed.modify device (·.apply control.releasePayload) } ↔
      (d, k) ∈ c.heldControls ∧ (d, k) ≠ (device, control) := by
  rw [mem_heldControls, mem_heldControls]
  simp only [OrdMap.get?_modify]
  by_cases hd : d = device
  · subst hd
    cases c.inboundPressed.get? d with
    | none => simp
    | some state =>
      have hholds := state.holds_apply control.releasePayload k
      rw [fromPayload_releasePayload] at hholds
      simp [hholds, and_comm]
  · simp [hd]

/-- Dropping the idle devices drops no held control. -/
theorem mem_heldControls_filter {x : HeldControl} :
    x ∈ heldControls { c with
      inboundPressed := c.inboundPressed.filter fun _ state => !state.isEmpty } ↔
      x ∈ c.heldControls := by
  obtain ⟨device, control⟩ := x
  rw [mem_heldControls, mem_heldControls, OrdMap.get?_filter]
  cases c.inboundPressed.get? device with
  | none => rfl
  | some state =>
    cases hempty : state.isEmpty with
    | false => simp [Option.filter, hempty]
    | true => simp [Option.filter, hempty, PressedState.isEmpty_iff.mp hempty control]

/-! ## Injected events -/

/-- An event that presses only what satisfies `P`. -/
def PressesOnly (P : HeldControl → Prop) (event : InputEvent) : Prop :=
  ∀ control, PhysicalControl.fromPayload event.payload = some (control, .press) →
    P (event.sourceDevice, control)

theorem Ledgered.recordPress (h : c.Ledgered P) (hevent : PressesOnly P event)
    (hpayload : PhysicalControl.fromPayload event.payload = some (control, .press)) :
    (c.recordPress event.sourceDevice event.payload).Ledgered P := by
  obtain ⟨hidle, hheld⟩ := recordPress_ok h.idle event.sourceDevice hpayload
  refine ⟨hidle, fun x hx => ?_⟩
  have hx' := Finset.mem_coe.mpr hx
  rw [hheld] at hx'
  rcases hx' with rfl | hx'
  · exact hevent control hpayload
  · exact h.held x (Finset.mem_coe.mp hx')

theorem Ledgered.applyRelease (h : c.Ledgered P)
    (hpayload : PhysicalControl.fromPayload event.payload = some (control, .release)) :
    (c.applyRelease event.sourceDevice event.payload).Ledgered P := by
  obtain ⟨-, -, hidle, hheld⟩ := applyRelease_ok h.idle event.sourceDevice hpayload
  refine ⟨hidle, fun x hx => h.held x ?_⟩
  have hx' := Finset.mem_coe.mpr hx
  rw [hheld] at hx'
  exact Finset.mem_coe.mp hx'.1

section Injection

variable [OutputInjectionBackend ι]

/-- What `release_all_inbound` leaves satisfies what was held before. -/
theorem releaseAllInbound_ledgered (h : ∀ control ∈ c.heldControls, P control) (nowNs : ℕ) :
    (c.releaseAllInbound nowNs).2.Ledgered P := by
  -- the loop only takes controls out
  have hsubset : (releaseLoop nowNs (c.inboundReleases none) none c).2.heldControls
      ⊆ c.heldControls := by
    refine releaseLoop_induction (R := fun c c' => c'.heldControls ⊆ c.heldControls)
      (fun _ => subset_rfl) (fun h h' => h'.trans h) (fun _ _ => subset_rfl)
      (fun _ _ _ => subset_rfl) (fun c device control => ?_)
        (c.inboundReleases_isRelease none) none c
    rintro ⟨d, k⟩ hmem
    exact ((mem_heldControls_modify c.injection).mp hmem).1
  rw [releaseAllInbound_snd]
  refine ⟨fun device state hget => ?_, fun x hmem => ?_⟩
  · rw [OrdMap.get?_filter, Option.filter_eq_some_iff] at hget
    simpa using hget.2
  · exact h x (hsubset (mem_heldControls_filter.mp hmem))

end Injection

/-! ## Operations that inject nothing but releases -/

/-- `c'` has injected what `c` has and holds the same. -/
structure SameInbound (c c' : PeerSessionCoordinator ι ω) : Prop where
  inboundPressed : c'.inboundPressed = c.inboundPressed
  injection : c'.injection = c.injection
  syntheticSequence : c'.syntheticSequence = c.syntheticSequence

theorem SameInbound.refl (c : PeerSessionCoordinator ι ω) : SameInbound c c := ⟨rfl, rfl, rfl⟩

theorem SameInbound.trans {c'' : PeerSessionCoordinator ι ω} (h : SameInbound c c')
    (h' : SameInbound c' c'') : SameInbound c c'' :=
  ⟨h'.inboundPressed.trans h.inboundPressed, h'.injection.trans h.injection,
    h'.syntheticSequence.trans h.syntheticSequence⟩

theorem OutboundOnly.sameInbound (h : OutboundOnly c c') : SameInbound c c' := { h with }

theorem sameInbound_blind [OutboundPeer ω] : Blind (SameInbound : CoordinatorRelation ι ω) where
  refl := .refl
  trans := .trans
  quiet _ _ _ _ := ⟨rfl, rfl, rfl⟩
  offer c message _ := (offer_outboundOnly c message).sameInbound

variable [OutputInjectionBackend ι]

/-- A disconnect releases the injected input and changes nothing else of it. -/
theorem disconnect_sameInbound [OutboundPeer ω] (c : PeerSessionCoordinator ι ω) (nowNs : ℕ) :
    SameInbound ((c.setAcceptsInput false).releaseAllInbound nowNs).2 (c.disconnect nowNs).2 := by
  unfold disconnect
  generalize (c.setAcceptsInput false).releaseAllInbound nowNs = r
  obtain ⟨injectionResult, c₁⟩ := r
  cases c.authorized.map (·.endpoint) with
  | none => exact ⟨rfl, rfl, rfl⟩
  | some endpoint =>
    simp only [liftCore]
    generalize c₁.core.setEndpointState endpoint .disconnected nowNs = r
    obtain ⟨_ | _, core⟩ := r
    · exact ⟨rfl, rfl, rfl⟩
    · exact { sameInbound_blind.drain { c₁ with core } nowNs with }

/-! ## Received messages -/

section Received

variable [OutboundPeer ω]

/-- The parts of every operation keep a ledger within `P`, as long as only
    presses that satisfy `P` are injected. -/
theorem ledgered_parts (P : HeldControl → Prop) :
    Injecting (fun _ => True) True (fun _ event => PressesOnly P event)
      fun c c' : PeerSessionCoordinator ι ω => c.Ledgered P → c'.Ledgered P where
  toRouting := by
    have hblind : Blind fun c c' : PeerSessionCoordinator ι ω => c.Ledgered P → c'.Ledgered P :=
      { refl := fun _ => id
        trans := fun h h' => h' ∘ h
        quiet := fun _ _ _ _ h => h.of_pressed rfl
        offer := fun c message _ h => h.of_pressed (offer_outboundOnly c message).inboundPressed }
    exact hblind.routing fun _ nowNs h => releaseAllInbound_ledgered h.held nowNs
  session _ _ _ h := h.of_pressed rfl
  reopen _ _ h := h.of_pressed rfl
  close _ _ h := h.of_pressed rfl
  synthetic _ _ h := h.of_pressed rfl
  released _ event hrelease control hcontrol := by
    obtain ⟨k, hk⟩ := hrelease
    rw [hk, fromPayload_releasePayload] at hcontrol
    cases hcontrol
  press _ _ _ hevent hpayload := ⟨fun h => h.recordPress hevent hpayload, hevent⟩
  inject _ _ _ h := h.of_pressed rfl
  forget _ _ _ hpayload h := h.applyRelease hpayload

end Received

end PeerSessionCoordinator

/-- Every local operation keeps a ledger within its predicate. -/
theorem SenderOp.apply_ledgered {ι : Type} [OutputInjectionBackend ι] {P : HeldControl → Prop}
    {c : FifoCoordinator ι} (h : c.Ledgered P) (op : SenderOp) : (op.apply c).Ledgered P :=
  op.apply_related (PeerSessionCoordinator.ledgered_parts P) (fun _ _ _ => trivial) c h

end SoftwareKvm
