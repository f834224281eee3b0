import SoftwareKvm.Session.Inbound

/-!
# Controls the injector cannot express

Both native backends refuse the press and the release of a key for which they
have no mapping. `inject_received` records a press before it injects it, and
every cleanup only forgets what it could inject as a release: a control that
the injector refuses stays in `inbound_pressed`, and `activate_binding` refuses
every later session with `CleanupIncomplete`.

* `mem_disconnect`: what a disconnect leaves in the ledger.
* `disconnect_unlocks_iff`: the peer can come back exactly if no refused
  control is in the ledger when the transport ends.
* `disconnect_locks_out`: the press of one unmapped key locks the peer out.
-/

namespace SoftwareKvm

open Lib

/-- An injector that refuses every event of the controls in `U` and accepts every other one. -/
structure SelectiveInjector (U : PhysicalControl → Bool) where
  injected : List InputEvent

namespace SelectiveInjector

variable {U : PhysicalControl → Bool}

/-- The event is one of a control in `U`. -/
def refuses (U : PhysicalControl → Bool) (event : InputEvent) : Bool :=
  match PhysicalControl.fromPayload event.payload with
  | some (control, _) => U control
  | none => false

instance : OutputInjectionBackend (SelectiveInjector U) where
  inject injector event :=
    if refuses U event then (false, injector) else (true, ⟨injector.injected ++ [event]⟩)

end SelectiveInjector

/-- What a coordinator can be asked to do: its local operations, the messages
    and datagrams of a peer, and the activation of a session. -/
inductive CoordinatorOp
  | run (op : SenderOp)
  | receive (endpoint : SessionEndpoint) (peer : AdmittedSessionBinding) (message : WireMessage)
      (nowNs : ℕ)
  | datagram (endpoint : SessionEndpoint) (peer : AdmittedSessionBinding) (input : InputEventV1)
      (nowNs : ℕ)
  | activate (endpoint : SessionEndpoint) (peer : AdmittedSessionBinding) (nowNs : ℕ)

namespace CoordinatorOp

variable {ι : Type} [OutputInjectionBackend ι]

/-- The state after an operation; its result is dropped. -/
def apply (c : FifoCoordinator ι) : CoordinatorOp → FifoCoordinator ι
  | .run op => op.apply c
  | .receive endpoint peer message now => (c.handleEndpointMessage endpoint peer message now).2
  | .datagram endpoint peer input now =>
    (c.handleEndpointPointerDatagram endpoint peer input now).2
  | .activate endpoint peer now => (c.activateAdmittedEndpoint endpoint peer now).2

/-- The control that an operation presses. -/
def pressed : CoordinatorOp → Option HeldControl
  | .receive _ _ message _ => message.pressed
  | _ => none

theorem apply_ledgered {P : HeldControl → Prop} {c : FifoCoordinator ι}
    (h : c.Ledgered P) (op : CoordinatorOp) (hop : ∀ x, op.pressed = some x → P x) :
    (op.apply c).Ledgered P := by
  cases op with
  | run op => exact op.apply_ledgered h
  | receive endpoint peer message now =>
    refine (PeerSessionCoordinator.ledgered_parts P).handleEndpointMessage c endpoint peer ?_ now h
    rintro wire rfl c' event - hwire control hcontrol
    exact hop _ (by simp only [pressed, WireMessage.pressed, hwire, hcontrol])
  | datagram endpoint peer input now =>
    refine (PeerSessionCoordinator.ledgered_parts P).handleEndpointPointerDatagram c endpoint peer
      (fun hmove _ _ _ hwire control hcontrol => ?_) now h
    obtain ⟨sequence, timestamp, host, device, payload⟩ := input
    cases payload with
    | pointerMove dx dy =>
      simp only [inputFromWire] at hwire
      split at hwire <;> cases hwire
      cases hcontrol
    | _ => cases hmove
  | activate endpoint peer now =>
    show (c.activateAdmittedEndpoint endpoint peer now).2.Ledgered P
    unfold PeerSessionCoordinator.activateAdmittedEndpoint PeerSessionCoordinator.activateBinding
    split
    · exact (PeerSessionCoordinator.ledgered_parts P).fails c _ now h
    split
    · exact (PeerSessionCoordinator.ledgered_parts P).fails c _ now h
    split
    · exact h
    · have hlift : (c.liftCore (c.core.installSessionEndpoint endpoint now)).2.Ledgered P :=
        h.of_pressed rfl
      generalize c.liftCore (c.core.installSessionEndpoint endpoint now) = r at hlift ⊢
      obtain ⟨_ | _, c₁⟩ := r
      · exact hlift
      · exact hlift.of_pressed rfl

/-- A whole run keeps the ledger within what it presses. -/
theorem execute_ledgered {P : HeldControl → Prop} {c : FifoCoordinator ι}
    (h : c.Ledgered P) (ops : List CoordinatorOp)
    (hops : ∀ op ∈ ops, ∀ x, op.pressed = some x → P x) :
    (execute CoordinatorOp.apply c ops).Ledgered P := by
  induction ops generalizing c with
  | nil => exact h
  | cons op ops ih =>
    exact ih (op.apply_ledgered h (hops op List.mem_cons_self))
      fun op' hmem => hops op' (List.mem_cons_of_mem _ hmem)

end CoordinatorOp

namespace PeerSessionCoordinator

variable {U : PhysicalControl → Bool} {ω : Type}

/-! ## What a refusing injector leaves behind -/

/-- The loop of `release_all_inbound`, as long as it has numbers for its
    releases, takes out exactly the released controls outside `U`. -/
theorem mem_releaseLoop (nowNs : ℕ) {releases : DeviceEvents}
    (hreleases : ∀ release ∈ releases, ∃ control,
      release.2 = PhysicalControl.releasePayload control)
    (firstError : Option CoordinatorError) (c : PeerSessionCoordinator (SelectiveInjector U) ω)
    (hroom : c.syntheticSequence + releases.length < u64Size) (device : DeviceId)
    (control : PhysicalControl) :
    (device, control) ∈ (releaseLoop nowNs releases firstError c).2.heldControls ↔
      (device, control) ∈ c.heldControls
        ∧ (U control = true ∨ (device, control.releasePayload) ∉ releases) := by
  induction releases generalizing firstError c with
  | nil => simp [releaseLoop]
  | cons release rest ih =>
    obtain ⟨d, payload⟩ := release
    obtain ⟨k, rfl⟩ : ∃ k, payload = PhysicalControl.releasePayload k :=
      hreleases _ List.mem_cons_self
    have hrest : ∀ release ∈ rest, ∃ control, release.2 = PhysicalControl.releasePayload control :=
      fun release hmem => hreleases release (List.mem_cons_of_mem _ hmem)
    have hsame : (device, control.releasePayload) = (d, k.releasePayload) ↔
        (device, control) = (d, k) := by
      simp [Prod.ext_iff, releasePayload_injective.eq_iff]
    simp only [List.length_cons] at hroom
    have hnext : checkedAdd c.syntheticSequence 1 = some (c.syntheticSequence + 1) :=
      checkedAdd_eq_some.mpr ⟨rfl, by omega⟩
    simp only [releaseLoop, syntheticEvent, hnext, OutputInjectionBackend.inject,
      SelectiveInjector.refuses, fromPayload_releasePayload, List.mem_cons, not_or, hsame]
    cases hU : U k with
    | true =>
      simp only [if_true]
      rw [ih hrest _ _ (by simp only; omega)]
      constructor
      · rintro ⟨hheld, hc⟩
        refine ⟨hheld, hc.elim .inl fun hnot => ?_⟩
        by_cases heq : (device, control) = (d, k)
        · exact .inl ((Prod.mk.inj heq).2 ▸ hU)
        · exact .inr ⟨heq, hnot⟩
      · rintro ⟨hheld, hc⟩
        exact ⟨hheld, hc.imp_right And.right⟩
    | false =>
      simp only [Bool.false_eq_true, if_false]
      rw [ih hrest _ _ (by simp only; omega)]
      refine (and_congr_left' (mem_heldControls_modify
        (c := { c with syntheticSequence := c.syntheticSequence + 1 }) _)).trans ?_
      constructor
      · rintro ⟨⟨hheld, hne⟩, hc⟩
        exact ⟨hheld, hc.imp_right (⟨hne, ·⟩)⟩
      · rintro ⟨hheld, hc⟩
        refine ⟨⟨hheld, fun heq => ?_⟩, hc.imp_right And.right⟩
        rcases hc with hU' | ⟨hne, -⟩
        · rw [(Prod.mk.inj heq).2, hU] at hU'
          cases hU'
        · exact hne heq

variable [OutboundPeer ω]

/-- What a disconnect leaves in the ledger. -/
theorem mem_disconnect (c : PeerSessionCoordinator (SelectiveInjector U) ω) (nowNs : ℕ)
    (hroom : c.syntheticSequence + (c.inboundReleases none).length < u64Size) (x : HeldControl) :
    x ∈ (c.disconnect nowNs).2.heldControls ↔ x ∈ c.heldControls ∧ U x.2 = true := by
  obtain ⟨device, control⟩ := x
  have hreleases : ∀ release ∈ c.inboundReleases none, ∃ control,
      release.2 = PhysicalControl.releasePayload control :=
    fun _ hmem => (mem_inboundReleases hmem).imp fun _ hr => hr.2
  have hloop := mem_releaseLoop nowNs hreleases none (c.setAcceptsInput false) hroom device control
  have hrefused : (device, control) ∈ c.heldControls
        ∧ (U control = true ∨ (device, control.releasePayload) ∉ c.inboundReleases none) ↔
      (device, control) ∈ c.heldControls ∧ U control = true :=
    and_congr_right fun hheld => or_iff_left (not_not.mpr (inboundReleases_of_held hheld))
  rw [heldControls, (disconnect_sameInbound c nowNs).inboundPressed, releaseAllInbound_snd]
  exact mem_heldControls_filter.trans (hloop.trans hrefused)

/-! ## Coming back -/

/-- The transport of `c` ends: the ledger is empty, and whatever the daemon
    does afterwards, no session is refused for its sake. -/
def Unlocked (c : PeerSessionCoordinator (SelectiveInjector U) Fifo) (nowNs : ℕ) : Prop :=
  (c.disconnect nowNs).2.inboundPressed.isEmpty = true
    ∧ ∀ later endpoint peer nowNs', ((execute SenderOp.apply (c.disconnect nowNs).2 later
      ).activateAdmittedEndpoint endpoint peer nowNs').1 ≠ .error .cleanupIncomplete

theorem unlocked_of_ledgered {c : PeerSessionCoordinator (SelectiveInjector U) Fifo} {nowNs : ℕ}
    (h : (c.disconnect nowNs).2.Ledgered fun _ => False) : c.Unlocked nowNs := by
  refine ⟨h.isEmpty, fun later endpoint peer nowNs' => ?_⟩
  have hlater : (execute SenderOp.apply (c.disconnect nowNs).2 later).Ledgered fun _ => False :=
    execute_invariant (fun c op hc => op.apply_ledgered hc) later h
  generalize execute SenderOp.apply (c.disconnect nowNs).2 later = d at hlater ⊢
  have hfails : (d.fails (α := PeerEventOutcome) .identityMismatch nowNs').1
      ≠ .error .cleanupIncomplete := by
    unfold fails failSession
    generalize d.sessionFatalCleanup nowNs' = r
    obtain ⟨_ | _, c₁⟩ := r <;> rintro ⟨⟩
  unfold activateAdmittedEndpoint activateBinding
  split
  · exact hfails
  split
  · exact hfails
  · rw [hlater.isEmpty]
    generalize d.core.installSessionEndpoint endpoint nowNs' = r
    obtain ⟨_ | _, core⟩ := r <;> rintro ⟨⟩

/-- The transport of a coordinator ends after any run. The peer can come back exactly if no control
    of `U` is in the ledger, as long as there are numbers for the synthetic releases. That is so if
    no message of the run pressed a control of `U`. -/
theorem disconnect_unlocks_iff {core : DaemonCore} {expected : PeerIdentity}
    {injection : SelectiveInjector U} {outbound : Fifo}
    {start : PeerSessionCoordinator (SelectiveInjector U) Fifo}
    (hstart : new core expected injection outbound = .ok start) (ops : List CoordinatorOp)
    {c : PeerSessionCoordinator (SelectiveInjector U) Fifo}
    (hc : execute CoordinatorOp.apply start ops = c)
    (hroom : c.syntheticSequence + (c.inboundReleases none).length < u64Size) (nowNs : ℕ) :
    (c.Unlocked nowNs ↔ ∀ x ∈ c.heldControls, U x.2 = false)
      ∧ ((∀ op ∈ ops, ∀ x, op.pressed = some x → U x.2 = false) → c.Unlocked nowNs) := by
  have hempty (P : HeldControl → Prop) : start.Ledgered P := by
    rw [new_ok hstart]
    refine ⟨fun device state hget => by simp at hget, fun x hx => ?_⟩
    obtain ⟨state, hget, -⟩ := OrdMap.mem_itemSet.mp hx
    simp at hget
  have hledger : c.Ledgered fun _ => True :=
    hc ▸ CoordinatorOp.execute_ledgered (hempty _) ops fun _ _ _ _ => trivial
  have hunlocks (hfree : ∀ x ∈ c.heldControls, U x.2 = false) : c.Unlocked nowNs := by
    have hidle := ((ledgered_parts _).disconnect c nowNs hledger).idle
    refine unlocked_of_ledgered ⟨hidle, fun x hx => ?_⟩
    obtain ⟨hheld, hU⟩ := (mem_disconnect c nowNs hroom x).mp hx
    rw [hfree x hheld] at hU
    cases hU
  refine ⟨⟨fun hunlocked x hx => ?_, hunlocks⟩, fun hops => hunlocks ?_⟩
  · by_contra hU
    have hleft := (mem_disconnect c nowNs hroom x).mpr ⟨hx, by simpa using hU⟩
    rw [← Prod.mk.eta (p := x), mem_heldControls, OrdMap.isEmpty_iff.mp hunlocked.1 x.1] at hleft
    cases hleft
  · exact (hc ▸ CoordinatorOp.execute_ledgered (hempty _) ops hops :
      c.Ledgered fun x => U x.2 = false).held

end PeerSessionCoordinator

/-! ## The power key, which has no macOS key code -/

namespace Sample

/-- The receiver with an injector that refuses the power key. -/
def unmapped : PeerSessionCoordinator (SelectiveInjector (· == .key (.named .power))) Fifo :=
  (PeerSessionCoordinator.new peerCore (identity localHost) ⟨[]⟩
    ⟨[], fun _ => none, 0⟩).toOption.get
    (by decide +kernel)

/-- The peer is admitted and presses a key of the HID keyboard page. -/
def pressKey (usage : ℕ) : List CoordinatorOp :=
  [.activate peerEndpoint (binding remoteHost localHost) 0,
   .receive peerEndpoint (binding remoteHost localHost)
    (.input ⟨1, 0, localHost, keyboard, .key ⟨7, usage⟩ .down⟩) 0]

end Sample

open Sample

namespace PeerSessionCoordinator

/-- After the press of the letter A the peer can come back. -/
theorem disconnect_unlocks_keyA :
    (execute CoordinatorOp.apply unmapped (pressKey 4)).inboundPressed.isEmpty = false
      ∧ (execute CoordinatorOp.apply unmapped (pressKey 4)).Unlocked 0 :=
  ⟨by decide +kernel, ((disconnect_unlocks_iff (Except.eq_ok_get _) (pressKey 4) rfl
    (by decide +kernel) 0).2 (by decide +kernel))⟩

/-- After the press of the power key the ledger keeps it, and every later
    session of the same identity is refused. -/
theorem disconnect_locks_out :
    (((execute CoordinatorOp.apply unmapped (pressKey 0x66)).disconnect 0
        ).2.inboundPressed.isEmpty = false)
      ∧ (((execute CoordinatorOp.apply unmapped (pressKey 0x66)).disconnect 0
        ).2.activateAdmittedEndpoint peerEndpoint
          (binding remoteHost localHost) 0).1
        = .error .cleanupIncomplete :=
  ⟨by decide +kernel, by decide +kernel⟩

end PeerSessionCoordinator

end SoftwareKvm
