import SoftwareKvm.Core.Owing
import SoftwareKvm.Session.Agreement
import SoftwareKvm.Session.Delivery

/-!
# The native capture bridge

Model of `capture_callback` (`kvm-runtime/src/native_capture.rs`): a callback
that finds the router's mutex held by another thread lets its event pass
without showing it to the router.

Results:
* `drainRemoteCleanup_ships`: a drain sends the releases that it takes.
* `routeCaptured_pairs`: what one routed event makes of the releases owed.
* `callback_paired`: in runs in which the mutex is free for the release of every
  suppressed control, releases are paired with their presses.

**Deviation.** The callback never waits. If the release of a control whose press
was sent meets a held mutex, it passes on the local host and no release is sent:
the peer keeps the control down, and its latch stays in the core.
-/

namespace SoftwareKvm

open Lib DaemonCore

/-! ## Releases on the wire -/

open PeerSessionCoordinator in
/-- The frame lifts a control of a device: it carries a captured release, or a cleanup release. -/
def WireMessage.Releases (device : DeviceId) (control : PhysicalControl) (m : WireMessage) : Prop :=
  (∃ event : InputEvent, event.sourceDevice = device
      ∧ PhysicalControl.fromPayload event.payload = some (control, .release)
      ∧ CarriesEvent event m)
    ∨ ∃ target sequence localHost wire,
      releaseToWire ⟨target, device, control.releasePayload⟩ sequence localHost = .ok wire
        ∧ m = .releaseInput wire

namespace PeerSessionCoordinator

variable {ι : Type} {c c' : FifoCoordinator ι} {nowNs : ℕ} {key : HeldKey}

/-- A step that appends frames to the FIFO, leaves the core idle and loses a
    release only by sending it. -/
structure Ships (c c' : FifoCoordinator ι) (frames : List WireMessage) : Prop where
  messages : c'.outbound.messages = c.outbound.messages ++ frames
  idle : c.core.Idle → c'.core.Idle
  owes : c.core.Idle → ∀ key, c.core.Owes key →
    c'.core.Owes key ∨ ∃ m ∈ frames, m.Releases key.device key.control
  queued : c.core.Idle → ∀ key ∈ c.core.queuedKeys,
    key ∈ c'.core.queuedKeys ∨ ∃ m ∈ frames, m.Releases key.device key.control

theorem Ships.of_tends (hmessages : c'.outbound.messages = c.outbound.messages)
    (h : Tends c.core c'.core) : Ships c c' [] where
  messages := by rw [hmessages, List.append_nil]
  idle := h.idle
  owes _ key hkey := .inl (h.owes key hkey)
  queued _ key hkey := .inl (h.queued key hkey)

/-- What is owed or has been sent, over two steps. -/
theorem or_sent_append {p q : Prop} {sent : WireMessage → Prop} {frames frames' : List WireMessage}
    (h : p ∨ ∃ m ∈ frames, sent m) (h' : p → q ∨ ∃ m ∈ frames', sent m) :
    q ∨ ∃ m ∈ frames ++ frames', sent m := by
  simp only [List.mem_append, or_and_right, exists_or]
  exact h.elim (fun hp => (h' hp).imp_right .inr) fun hsent => .inr (.inl hsent)

theorem Ships.trans {c'' : FifoCoordinator ι} {frames frames' : List WireMessage}
    (h : Ships c c' frames) (h' : Ships c' c'' frames') : Ships c c'' (frames ++ frames') where
  messages := by rw [h'.messages, h.messages, List.append_assoc]
  idle hi := h'.idle (h.idle hi)
  owes hi key hkey := or_sent_append (h.owes hi key hkey) (h'.owes (h.idle hi) key)
  queued hi key hkey := or_sent_append (h.queued hi key hkey) (h'.queued (h.idle hi) key)

/-! ## Drains -/

/-- A drain sends the releases that it takes from the queue. -/
theorem drainRemoteCleanup_ships (c : FifoCoordinator ι) (nowNs : ℕ) :
    ∃ frames, Ships c (c.drainRemoteCleanup nowNs).2 frames := by
  refine drainRemoteCleanup_induction (R := fun c c' => ∃ frames, Ships c c' frames)
    (fun c => ⟨[], .of_tends rfl (.refl _)⟩) ?_ (fun c effect core htake => ?_) c
  · rintro a b c ⟨frames, h⟩ ⟨frames', h'⟩
    exact ⟨frames ++ frames', h.trans h'⟩
  · -- one turn of the loop sends the head of the queue, or leaves it there
    obtain ⟨entry, rest, hqueue, hflight, heffect, hcore⟩ := takeNextCleanupRelease_some htake
    have hid : entry.id = effect.cleanupId := by rw [heffect]
    have hflight' : core.cleanupInFlight = some effect.cleanupId := by rw [hcore, hid]
    have hqueue' : core.cleanup = entry :: rest := by rw [hcore]; exact hqueue
    unfold drainStep
    rcases sendCleanup_cases { c with core } effect with
      ⟨f, wire, hs, hf, hwire, -⟩ | ⟨error, f, n, hs, hf, -⟩
    · rw [hs]
      simp only [liftCore, confirmCleanupRelease,
        cleanupIsCurrent_head hflight' hqueue' hid, if_true, hqueue']
      subst hcore
      have hrelease : c.core.Idle →
          (WireMessage.releaseInput wire).Releases entry.heldKey.device entry.heldKey.control := by
        intro hi
        have hpayload := hi.releases entry (by rw [hqueue]; exact List.mem_cons_self)
        refine .inr ⟨entry.release.target, c.outboundSequence, c.core.workspace.localHost,
          wire, ?_, rfl⟩
        rw [← hwire, heffect, CleanupEntry.heldKey, ← hpayload]
      refine ⟨[.releaseInput wire], hf, fun hi => ?_, fun hi key hkey => ?_, fun hi key hkey => ?_⟩
      · exact (publish_tends _ nowNs).idle (hi.dropHead hqueue)
      · by_cases hne : key = entry.heldKey
        · exact .inr ⟨_, List.mem_cons_self, hne ▸ hrelease hi⟩
        · exact .inl ((publish_tends _ nowNs).owes key (hkey.dropHead hqueue hne))
      · rw [queuedKeys, hqueue, List.map_cons] at hkey
        rcases List.mem_cons.mp hkey with rfl | hkey
        · exact .inr ⟨_, List.mem_cons_self, hrelease hi⟩
        · exact .inl hkey
    · rw [hs]
      simp only [liftCore, retryCleanupRelease, cleanupIsCurrent_head hflight' hqueue' hid, if_true]
      subst hcore
      exact ⟨[], .of_tends hf (.of_fields rfl rfl rfl hflight.symm rfl id)⟩

/-- A drain that succeeds sends everything queued. -/
theorem drainRemoteCleanup_sends (h : c.drainRemoteCleanup nowNs = (.ok (), c')) :
    ∃ frames, Ships c c' frames ∧ (c.core.Idle → ∀ key ∈ c.core.queuedKeys,
      ∃ m ∈ frames, m.Releases key.device key.control) := by
  obtain ⟨frames, hships⟩ := drainRemoteCleanup_ships c nowNs
  rw [h] at hships
  -- nothing is left in the queue
  have hempty : c'.core.cleanupInFlight = none → c'.core.cleanup = [] := by
    have hdrains := c.drainRemoteCleanup_drains nowNs
    rw [h] at hdrains
    clear h hships
    generalize hr : ((.ok (), c') : Except CoordinatorError Unit × _) = r at hdrains
    induction hdrains with
    | done htake =>
      cases hr
      obtain ⟨rfl, hempty⟩ := takeNextCleanupRelease_none htake
      exact hempty
    | failed => cases hr
    | next _ _ _ ih => exact ih hr
  refine ⟨frames, hships, fun hi key hkey =>
    (hships.queued hi key hkey).resolve_left fun hleft => ?_⟩
  rw [queuedKeys, hempty (hships.idle hi).inFlight] at hleft
  cases hleft

/-- A drain moves latches as administrative operations do. -/
theorem drainRemoteCleanup_frame (c : FifoCoordinator ι) (nowNs : ℕ) :
    Frame c.core (c.drainRemoteCleanup nowNs).2.core := by
  refine drainRemoteCleanup_parts (R := fun c c' => Frame c.core c'.core) (fun c => .refl c.core)
    .trans (fun c op _ => op.apply_frame c.core) (fun c effect => ?_) c nowNs
  rw [(sendCleanup_outboundOnly c effect).core]
  exact .refl c.core

/-! ## The routing of an event -/

variable [OutputInjectionBackend ι] {captured : CapturedInput} {outcome : CaptureOutcome}

theorem routeSettled_ok {answer : CaptureOutcome}
    (h : c.routeSettled outcome nowNs = (.ok answer, c')) :
    answer = outcome ∧ ∃ c₁, InboundOnly c c₁ ∧ c₁.drainRemoteCleanup nowNs = (.ok (), c') := by
  have hinbound : ∃ result c₁, (if outcome.failsafeActivated then c.releaseAllInbound nowNs
      else (.ok (), c)) = (result, c₁) ∧ InboundOnly c c₁ := by
    split
    · exact ⟨_, _, rfl, releaseAllInbound_inboundOnly c nowNs⟩
    · exact ⟨_, _, rfl, .refl c⟩
  obtain ⟨result, c₁, hif, hc₁⟩ := hinbound
  unfold routeSettled at h
  rw [hif] at h
  simp only at h
  cases hdrain : c₁.drainRemoteCleanup nowNs with
  | mk drained c₂ =>
    rw [hdrain] at h
    split at h
    · rename_i hboth
      obtain ⟨hanswer, rfl⟩ := Prod.mk.inj h
      have hok : drained = .ok () := by
        cases result <;> cases drained <;> first | rfl | cases hboth
      exact ⟨(Except.ok.inj hanswer).symm, c₁, hc₁, hok ▸ hdrain⟩
    · cases (Prod.mk.inj h).1

/-- An event that is routed without an error is settled on this host and the
    queue drained, or it is sent and confirmed. -/
theorem routeCaptured_ok (h : c.routeCaptured captured nowNs = (.ok outcome, c')) :
    (∃ decision core, ∃ c₁ : FifoCoordinator ι,
        c.core.prepareCaptured captured nowNs = (.ok decision, core)
          ∧ (decision = .local outcome ∨ decision = .inert outcome)
          ∧ InboundOnly { c with core } c₁ ∧ c₁.drainRemoteCleanup nowNs = (.ok (), c'))
      ∨ ∃ effect core m sequence,
        c.core.prepareCaptured captured nowNs = (.ok (.remote effect), core)
          ∧ CarriesEvent effect.event m
          ∧ c'.outbound.messages = c.outbound.messages ++ [m]
          ∧ core.confirmRemoteInput effect sequence nowNs = (.ok outcome, c'.core) := by
  unfold routeCaptured at h
  cases hprepare : c.core.prepareCaptured captured nowNs with
  | mk answer core =>
    rw [hprepare] at h
    match answer with
    | .error error => cases (Prod.mk.inj h).1
    | .ok (.local settled) =>
      obtain ⟨rfl, c₁, hc₁, hdrain⟩ := routeSettled_ok h
      exact .inl ⟨_, _, c₁, rfl, .inl rfl, hc₁, hdrain⟩
    | .ok (.inert settled) =>
      obtain ⟨rfl, c₁, hc₁, hdrain⟩ := routeSettled_ok h
      exact .inl ⟨_, _, c₁, rfl, .inr rfl, hc₁, hdrain⟩
    | .ok (.fault faulted error) =>
      simp only [routeFault] at h
      split at h
      · split at h <;> cases (Prod.mk.inj h).1
      · cases (Prod.mk.inj h).1
    | .ok (.remote effect) =>
      simp only [routeRemote] at h
      rcases dispatchRemoteEffect_cases { c with core } effect with
        ⟨f, input, hd, hinput, hf, -⟩ | ⟨error, f, n, hd, -, -⟩
      · rw [hd] at h
        simp only at h
        cases hconfirm : core.confirmRemoteInput effect c.outboundSequence nowNs with
        | mk confirmed core' =>
          rw [hconfirm] at h
          obtain ⟨hok, rfl⟩ := Prod.mk.inj h
          cases confirmed with
          | error error => cases hok
          | ok answer =>
            obtain rfl := Except.ok.inj hok
            exact .inr ⟨effect, core, _, c.outboundSequence, rfl,
              ⟨input, c.outboundSequence, hinput, rfl⟩, hf, hconfirm⟩
      · rw [hd] at h
        cases (Prod.mk.inj h).1

/-- An event that is routed without an error moves latches as its routing and its settlement do. -/
theorem routeCaptured_captureStep (h : c.routeCaptured captured nowNs = (.ok outcome, c')) :
    ∃ settlement core, c.core.captureStep captured nowNs settlement = (outcome.disposition, core)
      ∧ Frame core c'.core := by
  rcases routeCaptured_ok h with
    ⟨decision, core, c₁, hprepare, hdecision, hc₁, hdrain⟩
    | ⟨effect, core, m, sequence, hprepare, -, -, hconfirm⟩
  · have hframe := drainRemoteCleanup_frame c₁ nowNs
    rw [hdrain, hc₁.core] at hframe
    refine ⟨.fail 0, core, ?_, hframe⟩
    rw [captureStep, hprepare]
    rcases hdecision with rfl | rfl <;> rfl
  · refine ⟨.confirm sequence nowNs, c'.core, ?_, .refl _⟩
    rw [captureStep, hprepare]
    simp only [conclude, settleRemote, hconfirm]

/-! ## Pairing across one event -/

/-- An event that is routed without an error leaves the core idle. It loses a
    release only by sending it, or by moving the control; its own release is
    sent; and a press that is sent is owed its release. -/
structure Pairs (c c' : FifoCoordinator ι) (captured : CapturedInput)
    (frames : List WireMessage) : Prop where
  messages : c'.outbound.messages = c.outbound.messages ++ frames
  idle : c'.core.Idle
  owes : ∀ key, c.core.Owes key → ¬ c.core.Moves captured key.device key.control →
    c'.core.Owes key ∨ ∃ m ∈ frames, m.Releases key.device key.control
  release : ∀ key, c.core.Owes key → c.core.tracksEvent captured = true →
    captured.Makes .release key.device key.control →
    ∃ m ∈ frames, m.Releases key.device key.control
  press : ∀ device control, captured.Makes .press device control →
    (∃ m ∈ frames, m.isInput = true) →
    c.core.tracksEvent captured = true ∧ ∃ endpoint, c'.core.Owes ⟨endpoint, device, control⟩

theorem routeCaptured_pairs (h : c.routeCaptured captured nowNs = (.ok outcome, c'))
    (hidle : c.core.Idle) : ∃ frames, Pairs c c' captured frames := by
  rcases routeCaptured_ok h with
    ⟨decision, core, c₁, hprepare, hdecision, hc₁, hdrain⟩
    | ⟨effect, core, m, sequence, hprepare, hcarries, hmessages, hconfirm⟩
  · have hkeeps : decision.keepsEvent = true := by rcases hdecision with rfl | rfl <;> rfl
    obtain ⟨hidle₁, howes⟩ := prepareCaptured_owes hprepare hkeeps hidle
    obtain ⟨frames, hships, hsends⟩ := drainRemoteCleanup_sends hdrain
    have hreleases := drainRemoteCleanup_appends c₁ nowNs
    rw [hdrain] at hreleases
    have hcore : c₁.core = core := hc₁.core
    rw [hcore] at hsends
    refine ⟨frames, ?_, hships.idle (hcore ▸ hidle₁), fun key hkey hother => ?_,
      fun key hkey htracks hmakes => ?_, fun device control _ hinput => ?_⟩
    · rw [hships.messages, hc₁.outbound]
    · refine hships.owes (hcore ▸ hidle₁) key
        (hcore ▸ (howes key hkey).1 fun htracks hrelease => ?_)
      exact hother ⟨htracks, .inr hrelease⟩
    · exact hsends hidle₁ key ((howes key hkey).2 htracks hmakes)
    · obtain ⟨frames', hframes', hrelease⟩ := hreleases
      obtain rfl : frames' = frames :=
        List.append_cancel_left (hframes'.symm.trans hships.messages)
      obtain ⟨m, hm, hinput⟩ := hinput
      rw [isInput_of_isRelease (hrelease m hm)] at hinput
      cases hinput
  · obtain ⟨htracks, hevent, hidle', howes, hpress⟩ :=
      confirmRemoteInput_owes hprepare hconfirm hidle
    rw [hevent] at hcarries
    refine ⟨[m], hmessages, hidle', fun key hkey hother => ?_, fun key hkey _ hmakes => ?_,
      fun device control hmakes _ => ⟨htracks, effect.endpoint, hpress device control hmakes⟩⟩
    · exact .inl (howes key hkey (fun hpress => hother ⟨htracks, .inl hpress⟩)
        fun hrelease => hother ⟨htracks, .inr hrelease⟩)
    · exact ⟨m, List.mem_singleton_self m, .inl ⟨captured.event, hmakes.1, hmakes.2, hcarries⟩⟩

end PeerSessionCoordinator

/-! ## The bridge -/

open PeerSessionCoordinator

variable {ι : Type}

/-- `capture_callback`: the event is routed only while capture is armed and if
    nobody else holds the router's mutex. -/
def captureCallback [OutputInjectionBackend ι] (armed contended : Bool)
    (router : FifoCoordinator ι) (captured : CapturedInput) (nowNs : ℕ) :
    CaptureDisposition × FifoCoordinator ι :=
  if !armed then (.allowLocal, router)
  else if contended then (.allowLocal, router)
  else
    let (result, router) := router.routeCaptured captured nowNs
    (routedDisposition result, router)

/-- How the press of a control that is down was answered: whether an `Input`
    frame was queued for it, and the length of the FIFO after it. -/
structure PressRecord where
  answer : CaptureDisposition
  queued : Bool
  position : ℕ
  deriving DecidableEq

/-- The router behind the mutex and the records of the controls that are down. -/
structure NativeBridge (ι : Type) where
  router : FifoCoordinator ι
  pressed : DeviceId → PhysicalControl → Option PressRecord

/-- A callback, with the mutex held by another thread or not, or a step of
    another holder: an operation of the core or a drain. The coordinator's
    operations are made of these and of steps on the inbound side. -/
inductive BridgeAction
  | callback (captured : CapturedInput) (contended : Bool) (nowNs : ℕ)
  | admin (op : CoreOp)
  | drain (nowNs : ℕ)

namespace NativeBridge

/-- The transition of a physical key or button event of the local host. -/
def observed (s : NativeBridge ι) (captured : CapturedInput) : Option ControlTransition :=
  if captured.classification = .physical
      ∧ captured.event.sourceHost = s.router.core.workspace.localHost then
    PhysicalControl.fromPayload captured.event.payload
  else none

def setPressed (s : NativeBridge ι) (device : DeviceId) (control : PhysicalControl)
    (record : Option PressRecord) : NativeBridge ι :=
  { s with pressed := fun d k => if d = device ∧ k = control then record else s.pressed d k }

/-- The answer to a callback while capture is armed, and the router after it. -/
def answered [OutputInjectionBackend ι] (s : NativeBridge ι) (captured : CapturedInput)
    (contended : Bool) (nowNs : ℕ) : CaptureDisposition × FifoCoordinator ι :=
  captureCallback true contended s.router captured nowNs

def apply [OutputInjectionBackend ι] (s : NativeBridge ι) : BridgeAction → NativeBridge ι
  | .callback captured contended nowNs =>
    let (answer, router) := s.answered captured contended nowNs
    let frames := router.outbound.messages.drop s.router.outbound.messages.length
    match s.observed captured with
    | some (k, .press) => setPressed { s with router } captured.event.sourceDevice k
        (some ⟨answer, frames.any (·.isInput), router.outbound.messages.length⟩)
    | some (k, .release) => setPressed { s with router } captured.event.sourceDevice k none
    | _ => { s with router }
  | .admin op => { s with router := { s.router with core := op.apply s.router.core } }
  | .drain nowNs => { s with router := (s.router.drainRemoteCleanup nowNs).2 }

/-- Events are well formed per control: a press of a control that is up, repeats
    and a release of one that is down. -/
def wellFormed (s : NativeBridge ι) (captured : CapturedInput) : Bool :=
  match s.observed captured with
  | some (k, .press) => (s.pressed captured.event.sourceDevice k).isNone
  | some (k, _) => (s.pressed captured.event.sourceDevice k).isSome
  | none => true

/-- Events are well formed, capture stays armed, and the session stays
    connected: an error of `route_captured` retires it. -/
def Connected [OutputInjectionBackend ι] (s : NativeBridge ι) : BridgeAction → Prop
  | .callback captured contended nowNs => s.wellFormed captured = true
    ∧ (contended = false → (s.router.routeCaptured captured nowNs).1.isOk = true)
  | .admin op => op.whileArmed = true
  | .drain _ => True

instance [OutputInjectionBackend ι] (s : NativeBridge ι) :
    (action : BridgeAction) → Decidable (s.Connected action)
  | .callback captured contended nowNs => inferInstanceAs (Decidable (s.wellFormed captured = true
      ∧ (contended = false → (s.router.routeCaptured captured nowNs).1.isOk = true)))
  | .admin op => inferInstanceAs (Decidable (op.whileArmed = true))
  | .drain _ => .isTrue trivial

/-- The mutex is free when a control is released whose press was suppressed. -/
def FreeForRelease (s : NativeBridge ι) : BridgeAction → Prop
  | .callback captured contended _ => contended = true →
    ∀ device control record, captured.Makes .release device control →
      s.pressed device control = some record → record.answer = .allowLocal
  | _ => True

/-- At the return of a callback for a release: a press that was suppressed and queued has a release
    in the FIFO behind it, and the release of a press that passed passes. -/
def Paired [OutputInjectionBackend ι] (s : NativeBridge ι) : BridgeAction → Prop
  | .callback captured contended nowNs =>
    ∀ control record, s.observed captured = some (control, .release) →
      s.pressed captured.event.sourceDevice control = some record →
      (record.answer = .suppressLocal → record.queued = true →
        ∃ m ∈ (s.answered captured contended nowNs).2.outbound.messages.drop record.position,
          m.Releases captured.event.sourceDevice control)
      ∧ (record.answer = .allowLocal → (s.answered captured contended nowNs).1 = .allowLocal)
  | _ => True

/-- What holds of a control, given the record of its press if it is down: a
    control that is up, of the nil device or whose press passed has no remote
    latch; a press that was queued is owed its release, or the release is behind it. -/
structure Sound (router : FifoCoordinator ι) (device : DeviceId)
    (control : PhysicalControl) (record : Option PressRecord) : Prop where
  latch : ((∀ r ∈ record, r.answer = .allowLocal) ∨ device.isNil = true) →
    LocalOrNone (router.core.latch? device control)
  sent : ∀ r ∈ record, r.queued = true → device.isNil = false
    ∧ ((∃ endpoint, router.core.Owes ⟨endpoint, device, control⟩)
      ∨ ∃ m ∈ router.outbound.messages.drop r.position, m.Releases device control)
  position : ∀ r ∈ record, r.position ≤ router.outbound.messages.length

/-- The invariant of a run whose suppressed controls are released with the mutex free. -/
structure Inv (s : NativeBridge ι) : Prop where
  idle : s.router.core.Idle
  sound : ∀ d k, Sound s.router d k (s.pressed d k)

variable {router router' : FifoCoordinator ι} {device : DeviceId}
  {control : PhysicalControl} {record : Option PressRecord} {frames : List WireMessage}
  {s : NativeBridge ι} {captured : CapturedInput} {nowNs : ℕ}

theorem Sound.step (h : Sound router device control record)
    (hmessages : router'.outbound.messages = router.outbound.messages ++ frames)
    (hlatch : LatchStep (router.core.latch? device control) (router'.core.latch? device control))
    (howes : ∀ endpoint, router.core.Owes ⟨endpoint, device, control⟩ →
      router'.core.Owes ⟨endpoint, device, control⟩ ∨ ∃ m ∈ frames, m.Releases device control) :
    Sound router' device control record where
  latch hallow := hlatch.localOrNone (h.latch hallow)
  sent r hr hqueued := by
    obtain ⟨hnil, hsent⟩ := h.sent r hr hqueued
    refine ⟨hnil, ?_⟩
    rw [hmessages, List.drop_append_of_le_length (h.position r hr)]
    refine or_sent_append hsent fun howed => ?_
    obtain ⟨endpoint, howed⟩ := howed
    exact (howes endpoint howed).imp_left fun howed => ⟨endpoint, howed⟩
  position r hr := by
    rw [hmessages, List.length_append]
    exact (h.position r hr).trans (Nat.le_add_right _ _)

/-- A step of another holder. -/
theorem Inv.ships {router' : FifoCoordinator ι} (h : s.Inv)
    (hships : Ships s.router router' frames) (hframe : Frame s.router.core router'.core) :
    Inv { s with router := router' } where
  idle := hships.idle h.idle
  sound d k := (h.sound d k).step hships.messages (hframe.latch d k) fun endpoint howed =>
    hships.owes h.idle ⟨endpoint, d, k⟩ howed

theorem observed_makes {transition : PhysicalTransition}
    (h : s.observed captured = some (control, transition)) :
    captured.Makes transition captured.event.sourceDevice control
      ∧ (captured.event.sourceDevice.isNil = false →
        s.router.core.tracksEvent captured = true) := by
  unfold observed at h
  split_ifs at h with hlocal
  refine ⟨⟨rfl, h⟩, fun hnil => ?_⟩
  have hfinite : captured.event.payload.isFinite = true := by
    cases hp : captured.event.payload <;>
      simp_all [PhysicalControl.fromPayload, InputPayload.isFinite]
  simp [tracksEvent, hlocal.1, hlocal.2, hnil, hfinite]

/-- An event moves only the control that is observed to be pressed or released. -/
theorem observed_of_moves (h : s.router.core.Moves captured device control) :
    captured.event.sourceDevice = device ∧ (s.observed captured = some (control, .press)
      ∨ s.observed captured = some (control, .release)) := by
  obtain ⟨htracks, hmakes⟩ := h
  simp only [tracksEvent, Bool.and_eq_true, beq_iff_eq] at htracks
  rw [observed, if_pos ⟨htracks.1.1.1, htracks.1.1.2⟩]
  rcases hmakes with ⟨hdevice, hpayload⟩ | ⟨hdevice, hpayload⟩
  · exact ⟨hdevice, .inl hpayload⟩
  · exact ⟨hdevice, .inr hpayload⟩

theorem setPressed_sound {record : Option PressRecord} (hown : Sound router' device control record)
    (hother : ∀ d k, ¬ (d = device ∧ k = control) → Sound router' d k (s.pressed d k))
    (d : DeviceId) (k : PhysicalControl) :
    Sound router' d k
      ((setPressed { s with router := router' } device control record).pressed d k) := by
  simp only [setPressed]
  split_ifs with hdk
  · rw [hdk.1, hdk.2]
    exact hown
  · exact hother d k hdk

/-- Nothing is tracked for the nil device. -/
theorem tracksEvent_nil (h : captured.event.sourceDevice.isNil = true) (core : DaemonCore) :
    core.tracksEvent captured = false := by
  simp [tracksEvent, h]

variable [OutputInjectionBackend ι] {outcome : CaptureOutcome}

/-- The answer to an event with the mutex free. -/
theorem answered_ok {outcome : CaptureOutcome}
    (h : s.router.routeCaptured captured nowNs = (.ok outcome, router')) :
    s.answered captured false nowNs = (outcome.disposition, router') := by
  simp only [answered, captureCallback, h]
  rfl

/-- The record of a press that is routed. -/
theorem Inv.routed_press (h : s.Inv)
    (hroute : s.router.routeCaptured captured nowNs = (.ok outcome, router'))
    (hpairs : Pairs s.router router' captured frames)
    (hobserved : s.observed captured = some (control, .press))
    (hup : s.pressed captured.event.sourceDevice control = none) :
    Sound router' captured.event.sourceDevice control
      (some ⟨outcome.disposition, frames.any (·.isInput), router'.outbound.messages.length⟩) := by
  obtain ⟨hmakes, -⟩ := observed_makes hobserved
  obtain ⟨settlement, core, hstep, hframe⟩ := routeCaptured_captureStep hroute
  have hlocal := (h.sound captured.event.sourceDevice control).latch
    (.inl fun r hr => by rw [hup] at hr; cases hr)
  refine ⟨fun hallow => (hframe.latch _ _).localOrNone ?_, fun r hr hqueued => ?_, fun r hr => ?_⟩
  · rcases hallow with hallow | hnil
    · have hallow : (s.router.core.captureStep captured nowNs settlement).1 = .allowLocal := by
        rw [hstep]
        exact hallow _ rfl
      rw [show core = (s.router.core.captureStep captured nowNs settlement).2 by rw [hstep]]
      obtain ⟨-, hpayload⟩ := hmakes
      cases htracks : s.router.core.tracksEvent captured with
      | false =>
        rw [captureStep_untracked h.idle.pendingRemote htracks]
        exact hlocal
      | true =>
        rcases hlocal with hnone | hlatch
        · exact (captureStep_press h.idle.pendingRemote htracks hpayload hnone nowNs
            settlement).2 hallow
        · have hrecord : s.router.core.recordTransition captured.event.sourceDevice
              (some (control, .press)) nowNs = (.ok (some .local), s.router.core) := by
            simp [recordTransition, hlatch]
          rw [captureStep_tracked h.idle.pendingRemote htracks hpayload hrecord
            settlement] at hallow ⊢
          have hspec := prepareRecorded_spec s.router.core captured.event (some control)
            (some .press)
            (some .local) nowNs (absurd · (Option.some_ne_none _))
          exact conclude_press hspec hallow (.inr rfl) rfl rfl (.inr hlatch)
    · rw [captureStep_untracked h.idle.pendingRemote (tracksEvent_nil hnil _)] at hstep
      rw [← (Prod.mk.inj hstep).2]
      exact hlocal
  · obtain rfl := Option.mem_some_iff.mp hr
    obtain ⟨htracks, howed⟩ := hpairs.press _ _ hmakes (List.any_eq_true.mp hqueued)
    simp only [tracksEvent, Bool.and_eq_true, Bool.not_eq_true'] at htracks
    exact ⟨htracks.1.2, .inl howed⟩
  · obtain rfl := Option.mem_some_iff.mp hr
    exact le_rfl

/-- A control whose release is routed. -/
theorem Inv.routed_release (h : s.Inv)
    (hroute : s.router.routeCaptured captured nowNs = (.ok outcome, router'))
    (hobserved : s.observed captured = some (control, .release)) :
    Sound router' captured.event.sourceDevice control none := by
  obtain ⟨hmakes, htracks⟩ := observed_makes hobserved
  obtain ⟨settlement, core, hstep, hframe⟩ := routeCaptured_captureStep hroute
  refine ⟨fun _ => (hframe.latch _ _).localOrNone ?_, nofun, nofun⟩
  cases hnil : captured.event.sourceDevice.isNil with
  | true =>
    rw [captureStep_untracked h.idle.pendingRemote (tracksEvent_nil hnil _)] at hstep
    rw [← (Prod.mk.inj hstep).2]
    exact (h.sound _ _).latch (.inr hnil)
  | false =>
    obtain ⟨hsettled, -⟩ := captureStep_release h.idle.pendingRemote (htracks hnil) hmakes.2 nowNs
      settlement
    have hlatch := hsettled.latch captured.event.sourceDevice control not_false
    rw [latch?_removeLatch, if_pos ⟨rfl, rfl⟩, hstep] at hlatch
    exact .inl hlatch.none

/-- A callback with the mutex free that keeps the session. -/
theorem Connected.routed (h : s.Connected (.callback captured false nowNs)) :
    ∃ outcome router', s.router.routeCaptured captured nowNs = (.ok outcome, router') := by
  have hok := h.2 rfl
  generalize s.router.routeCaptured captured nowNs = r at hok
  obtain ⟨_ | outcome, router'⟩ := r
  · cases hok
  · exact ⟨outcome, router', rfl⟩

theorem Inv.callback_free (h : s.Inv) (hconnected : s.Connected (.callback captured false nowNs)) :
    (s.apply (.callback captured false nowNs)).Inv := by
  obtain ⟨outcome, router', hroute⟩ := hconnected.routed
  obtain ⟨frames, hpairs⟩ := routeCaptured_pairs hroute h.idle
  have hothers (d : DeviceId) (k : PhysicalControl)
      (hother : ¬ s.router.core.Moves captured d k) : Sound router' d k (s.pressed d k) := by
    obtain ⟨settlement, core, hstep, hframe⟩ := routeCaptured_captureStep hroute
    have hlatch := captureStep_others h.idle.pendingRemote hother nowNs settlement
    rw [hstep] at hlatch
    exact (h.sound d k).step hpairs.messages (hlatch.trans (hframe.latch _ _))
      fun endpoint howed => hpairs.owes ⟨endpoint, d, k⟩ howed hother
  have hframes : router'.outbound.messages.drop s.router.outbound.messages.length = frames := by
    rw [hpairs.messages, List.drop_left]
  simp only [apply, answered_ok hroute, hframes]
  cases hobserved : s.observed captured with
  | none =>
    refine ⟨hpairs.idle, fun d k => hothers d k fun hmoves => ?_⟩
    rcases (observed_of_moves hmoves).2 with ho | ho <;> rw [hobserved] at ho <;> cases ho
  | some kt =>
    obtain ⟨k, t⟩ := kt
    have hnotOwn (d : DeviceId) (k' : PhysicalControl)
        (hne : ¬ (d = captured.event.sourceDevice ∧ k' = k)) :
        ¬ s.router.core.Moves captured d k' := by
      intro hmoves
      obtain ⟨hdevice, ho⟩ := observed_of_moves hmoves
      rw [hobserved] at ho
      rcases ho with ho | ho <;> cases ho <;> exact hne ⟨hdevice.symm, rfl⟩
    cases t with
    | press =>
      have hup := hconnected.1
      rw [wellFormed, hobserved, Option.isNone_iff_eq_none] at hup
      exact ⟨hpairs.idle, setPressed_sound (h.routed_press hroute hpairs hobserved hup)
        fun d k' hne => hothers d k' (hnotOwn d k' hne)⟩
    | «repeat» =>
      refine ⟨hpairs.idle, fun d k' => hothers d k' fun hmoves => ?_⟩
      rcases (observed_of_moves hmoves).2 with ho | ho <;> rw [hobserved] at ho <;> cases ho
    | release =>
      exact ⟨hpairs.idle, setPressed_sound (h.routed_release hroute hobserved)
        fun d k' hne => hothers d k' (hnotOwn d k' hne)⟩

theorem Inv.paired_free (h : s.Inv) (hconnected : s.Connected (.callback captured false nowNs)) :
    s.Paired (.callback captured false nowNs) := by
  obtain ⟨outcome, router', hroute⟩ := hconnected.routed
  obtain ⟨frames, hpairs⟩ := routeCaptured_pairs hroute h.idle
  intro control record hobserved hpressed
  obtain ⟨hmakes, htracks⟩ := observed_makes hobserved
  have hsound := h.sound captured.event.sourceDevice control
  rw [hpressed] at hsound
  rw [answered_ok hroute]
  refine ⟨fun _ hqueued => ?_, fun hallow => ?_⟩
  · obtain ⟨hnil, hsent⟩ := hsound.sent record rfl hqueued
    rw [hpairs.messages, List.drop_append_of_le_length (hsound.position record rfl)]
    simp only [List.mem_append, or_and_right, exists_or]
    refine hsent.symm.imp_right fun howed => ?_
    obtain ⟨endpoint, howed⟩ := howed
    exact hpairs.release _ howed (htracks hnil) hmakes
  · have hlocal := hsound.latch (.inl fun r hr => by rw [← Option.mem_some_iff.mp hr]; exact hallow)
    obtain ⟨settlement, core, hstep, -⟩ := routeCaptured_captureStep hroute
    cases hnil : captured.event.sourceDevice.isNil with
    | true =>
      rw [captureStep_untracked h.idle.pendingRemote (tracksEvent_nil hnil _)] at hstep
      exact (Prod.mk.inj hstep).1.symm
    | false =>
      have hallowed := (captureStep_release h.idle.pendingRemote (htracks hnil) hmakes.2 nowNs
        settlement).2 hlocal
      rw [hstep] at hallowed
      exact hallowed

theorem Inv.apply {action : BridgeAction} (h : s.Inv) (hconnected : s.Connected action)
    (hfree : s.FreeForRelease action) : (s.apply action).Inv := by
  match action with
  | .callback captured false nowNs => exact h.callback_free hconnected
  | .callback captured true nowNs =>
    -- the callback found the mutex held and left the router alone
    have hanswered : s.answered captured true nowNs = (.allowLocal, s.router) := rfl
    have hformed := hconnected.1
    simp only [NativeBridge.apply, hanswered, List.drop_length, List.any_nil]
    cases hobserved : s.observed captured with
    | none => exact ⟨h.idle, h.sound⟩
    | some kt =>
      obtain ⟨k, t⟩ := kt
      have hsound := h.sound captured.event.sourceDevice k
      rw [wellFormed, hobserved] at hformed
      cases t with
      | press =>
        rw [Option.isNone_iff_eq_none] at hformed
        have hlocal := hsound.latch (.inl fun r hr => by rw [hformed] at hr; cases hr)
        refine ⟨h.idle, setPressed_sound ⟨fun _ => hlocal, fun r hr hqueued => ?_, fun r hr => ?_⟩
          fun d k' _ => h.sound d k'⟩
        · rw [← Option.mem_some_iff.mp hr] at hqueued
          cases hqueued
        · rw [← Option.mem_some_iff.mp hr]
          exact le_rfl
      | «repeat» => exact ⟨h.idle, h.sound⟩
      | release =>
        have hlocal := hsound.latch (.inl fun r hr =>
          hfree rfl _ _ r (observed_makes hobserved).1 hr)
        exact ⟨h.idle, setPressed_sound ⟨fun _ => hlocal, nofun, nofun⟩ fun d k' _ => h.sound d k'⟩
  | .admin op =>
    exact h.ships (.of_tends rfl (CoreOp.tends hconnected s.router.core))
      (CoreOp.apply_frame s.router.core op)
  | .drain nowNs =>
    obtain ⟨frames, hships⟩ := drainRemoteCleanup_ships s.router nowNs
    exact h.ships hships (drainRemoteCleanup_frame s.router nowNs)

theorem Inv.paired {action : BridgeAction} (h : s.Inv) (hconnected : s.Connected action)
    (hfree : s.FreeForRelease action) : s.Paired action := by
  match action with
  | .callback captured false nowNs => exact h.paired_free hconnected
  | .callback captured true nowNs =>
    intro control record hobserved hpressed
    have hallow := hfree rfl _ _ record (observed_makes hobserved).1 hpressed
    refine ⟨fun hsuppress => ?_, fun _ => rfl⟩
    rw [hallow] at hsuppress
    cases hsuppress
  | .admin op => trivial
  | .drain nowNs => trivial

/-- In every run of callbacks and other holders of the mutex, with capture armed and the session
    connected, that starts with nothing latched remotely and in which no callback for the release
    of a suppressed control finds the mutex held: every release is paired with its press. -/
theorem callback_paired {router : FifoCoordinator ι} (hidle : router.core.Idle)
    (hup : ∀ d k, LocalOrNone (router.core.latch? d k)) {actions : List BridgeAction}
    {action : BridgeAction} (hrun : Admissible (fun s a => Connected s a ∧ FreeForRelease s a) apply
      (⟨router, fun _ _ => none⟩ : NativeBridge ι) (actions ++ [action])) :
    (execute apply (⟨router, fun _ _ => none⟩ : NativeBridge ι) actions).Paired action := by
  obtain ⟨hbefore, hlast⟩ := admissible_append.mp hrun
  have hstart : Inv (⟨router, fun _ _ => none⟩ : NativeBridge ι) :=
    ⟨hidle, fun d k => ⟨fun _ => hup d k, nofun, nofun⟩⟩
  have hinv := hbefore.invariant (fun s a hguard hs => hs.apply hguard.1 hguard.2) hstart
  exact hinv.paired hlast.1.1 hlast.1.2

end NativeBridge

namespace Sample

open NativeBridge

/-- The remote host has the pointer and `A` is pressed; the callback for its
    release finds the mutex held or free. -/
def pressRemotely : List BridgeAction :=
  [.admin (.markWorkspaceRoutingReady 0),
   .admin (.updateWorkspace { workspace with activeHost := remoteHost } 0),
   .callback (key .keyA .pressed) false 0, .callback (key .keyA .repeated) true 0]

def releaseA (contended : Bool) : BridgeAction := .callback (key .keyA .released) contended 0

def bridge : NativeBridge Recorder := ⟨openSender, fun _ _ => none⟩

def heldBridge : NativeBridge Recorder := execute NativeBridge.apply bridge pressRemotely

theorem openSender_idle : openSender.core.Idle := by
  have hcleanup : openSender.core.cleanup = [] := by decide +kernel
  have hdrain : openSender.core.drainFailsafeKeys = false := by decide +kernel
  refine ⟨by decide +kernel, by decide +kernel, ?_, ?_⟩
  · rw [Lifts, hcleanup]
    exact fun _ hmem => absurd hmem List.not_mem_nil
  · rw [hdrain]
    exact fun h => absurd h Bool.false_ne_true

/-- The press is suppressed and queued, as the first frame. -/
theorem heldBridge_pressed : heldBridge.pressed keyboard (.key (.named .keyA))
    = some ⟨.suppressLocal, true, 1⟩ := by
  decide +kernel

theorem openSender_unlatched (d : DeviceId) (k : PhysicalControl) :
    LocalOrNone (openSender.core.latch? d k) := by
  have hnone : openSender.core.physicalControls = ∅ := by decide +kernel
  exact .inl (by simp [latch?, hnone])

end Sample

open Sample

/-- The release finds the mutex held: it passes, and nothing follows the press in the FIFO. -/
theorem callback_unpaired :
    openSender.core.Idle ∧ (∀ d k, LocalOrNone (openSender.core.latch? d k))
      ∧ Admissible NativeBridge.Connected NativeBridge.apply bridge
        (pressRemotely ++ [releaseA true])
      ∧ ¬ (execute NativeBridge.apply bridge pressRemotely).Paired
        (releaseA true) := by
  refine ⟨openSender_idle, openSender_unlatched, by decide +kernel,
    fun hpaired => ?_⟩
  obtain ⟨m, hm, -⟩ := (hpaired _ _ (by decide +kernel) heldBridge_pressed).1 rfl rfl
  have hnone : ((heldBridge.answered (key .keyA .released) true 0).2.outbound.messages
      ).drop 1 = [] := by
    decide +kernel
  cases hm

theorem callback_paired_keyA :
    heldBridge.pressed keyboard (.key (.named .keyA))
        = some ⟨.suppressLocal, true, 1⟩
      ∧ ∃ m ∈ ((heldBridge.answered (key .keyA .released) false 0
          ).2.outbound.messages).drop 1,
        m.Releases keyboard (.key (.named .keyA)) := by
  have hrun : Admissible (fun s a => NativeBridge.Connected s a ∧ NativeBridge.FreeForRelease s a)
      NativeBridge.apply bridge (pressRemotely ++ [releaseA false]) := by
    refine ⟨⟨by decide +kernel, trivial⟩, ⟨by decide +kernel, trivial⟩,
      ⟨by decide +kernel, nofun⟩, ⟨by decide +kernel, fun _ d k _ hmakes => ?_⟩,
      ⟨by decide +kernel, nofun⟩, trivial⟩
    cases hmakes.2
  have hpaired := NativeBridge.callback_paired openSender_idle openSender_unlatched
    hrun
  exact ⟨heldBridge_pressed,
    (hpaired _ _ (by decide +kernel) heldBridge_pressed).1 rfl rfl⟩

end SoftwareKvm
