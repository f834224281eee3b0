import SoftwareKvm.Session.Parts

/-!
# Held-set agreement over the reliable stream

A sending coordinator runs any sequence of operations, its single session
appending to a FIFO or refusing at will; a receiving coordinator handles that
FIFO in order. `Agreed` describes the frames of such a FIFO: each is a message
that a receiver holding what the ledger held before must accept, after which it
holds what the ledger held when the frame was settled.

Results:
* `SenderOp.apply_sending`, `SenderOp.execute_sending`: every operation and
  every run keeps the FIFO agreed.
* `receiveAll_agreed`: a receiver accepts an agreed FIFO.
* `heldControls_agree`: the two sides together.
-/

namespace SoftwareKvm

open Lib

/-- The control survives the wire. -/
def PhysicalControl.Survives : PhysicalControl → Prop
  | .key code => code.Survives
  | .button _ => True

/-- The held key survives the wire. -/
def HeldKey.Survives (key : HeldKey) : Prop := key.control.Survives

/-- The pairs of a device and a control that the ledger holds for an endpoint. -/
def DaemonCore.heldFor (c : DaemonCore) (endpoint : SessionEndpoint) : Set HeldControl :=
  {p | c.remoteHeld.contains ⟨endpoint, p.1, p.2⟩ = true}

/-- Frames that a receiver accepts, with the core after each of them was
    settled, the last sequence number and the set held at the end. -/
inductive Agreed (host : HostId) (endpoint : SessionEndpoint) :
    List WireMessage → List DaemonCore → ℕ → Set HeldControl → Prop
  | nil : Agreed host endpoint [] [] 0 ∅
  | snoc {messages : List WireMessage} {cores : List DaemonCore} {last : ℕ}
      {held : Set HeldControl} {message : WireMessage} {core : DaemonCore} {sequence : ℕ}
      (h : Agreed host endpoint messages cores last held) (hlt : last < sequence)
      (hbound : sequence < u64Size)
      (hcarries : Carries host held sequence message (core.heldFor endpoint)) :
      Agreed host endpoint (messages ++ [message]) (cores ++ [core]) sequence
        (core.heldFor endpoint)

/-- The set held after the last settled core of a list. -/
def heldAtEnd (endpoint : SessionEndpoint) (cores : List DaemonCore) : Set HeldControl :=
  (cores.getLast?.map (·.heldFor endpoint)).getD ∅

variable {messages : List WireMessage} {cores : List DaemonCore} {held : Set HeldControl} {last : ℕ}

section

variable {host : HostId} {endpoint : SessionEndpoint}
  (h : Agreed host endpoint messages cores last held)

include h

theorem Agreed.length_eq : messages.length = cores.length := by
  induction h with
  | nil => rfl
  | snoc _ _ _ _ ih => rw [List.length_append, List.length_append, ih, List.length_singleton,
      List.length_singleton]

theorem Agreed.held_eq : held = heldAtEnd endpoint cores := by
  cases h with
  | nil => rfl
  | snoc => rw [heldAtEnd, List.getLast?_append, List.getLast?_singleton]; rfl

/-- Every prefix of an agreed FIFO is agreed. -/
theorem Agreed.take {n : ℕ} (hn : n ≤ messages.length) :
    ∃ last' held', Agreed host endpoint (messages.take n) (cores.take n) last' held' := by
  induction h with
  | nil => exact ⟨0, ∅, by simpa using Agreed.nil⟩
  | @snoc messages cores last held message core sequence h hlt hbound hcarries ih =>
    have hlength := h.length_eq
    rw [List.length_append, List.length_singleton] at hn
    by_cases hall : n = messages.length + 1
    · refine ⟨sequence, core.heldFor endpoint, ?_⟩
      rw [List.take_of_length_le (by simp [hall]), List.take_of_length_le (by simp [hall, hlength])]
      exact .snoc h hlt hbound hcarries
    · have hle : n ≤ messages.length := by omega
      rw [List.take_append_of_le_length hle, List.take_append_of_le_length (hlength ▸ hle)]
      exact ih hle

end

/-- The operations of a session keep a settled ledger. -/
theorem CoreOp.OfSession.keeps {op : CoreOp} (h : op.OfSession) (c : DaemonCore) :
    DaemonCore.Keeps c (op.apply c) := by
  cases op with
  | triggerEmergency now => exact DaemonCore.triggerEmergency_keeps c now
  | markWorkspaceRoutingReady now => exact DaemonCore.markWorkspaceRoutingReady_keeps c now
  | _ => first | exact h.elim | exact (CoreOp.ledgerOp _ rfl c).keeps

namespace PeerSessionCoordinator

open DaemonCore

variable {ι : Type}

/-! ## The sender's invariant -/

/-- The FIFO of a sender continues `log` and is agreed, and while its session
    is open the ledger is the one after the last frame. -/
def Sending (host : HostId) (endpoint : SessionEndpoint) (log : List WireMessage)
    (c : FifoCoordinator ι) : Prop :=
  ∃ last held, Agreed host endpoint c.outbound.messages c.committed last held
    ∧ last < c.outboundSequence ∧ log <+: c.outbound.messages
    ∧ ∀ session, c.authorized = some session → session.endpoint = endpoint
      ∧ c.core.Settled HeldKey.Survives ∧ c.core.heldFor endpoint = held
      ∧ c.core.workspace.localHost = host

variable {host : HostId} {endpoint : SessionEndpoint} {log : List WireMessage}
  {c c' : FifoCoordinator ι}

theorem Sending.continuing {log' : List WireMessage} (h : c.Sending host endpoint log)
    (hlog : log' <+: c.outbound.messages) : c.Sending host endpoint log' := by
  obtain ⟨last, held, hagreed, hlast, -, hopen⟩ := h
  exact ⟨last, held, hagreed, hlast, hlog, hopen⟩

variable {core core' : DaemonCore} {captured : CapturedInput}

theorem heldFor_congr (h : ∀ key, core'.remoteHeld.contains key = core.remoteHeld.contains key) :
    core'.heldFor endpoint = core.heldFor endpoint := by
  ext ⟨d, k⟩
  simp only [heldFor, Set.mem_ofPred_eq, h]

section

variable (h : c.Sending host endpoint log)

include h

/-- A step without a frame: the sequence counter may grow, the session may
    close, and while it is open the core stays settled with its ledger. -/
theorem Sending.step (hmessages : c'.outbound.messages = c.outbound.messages)
    (hcommitted : c'.committed = c.committed) (hsequence : c.outboundSequence ≤ c'.outboundSequence)
    (hopen : ∀ session', c'.authorized = some session' →
      ∃ session, c.authorized = some session ∧ session.endpoint = session'.endpoint
        ∧ (c.core.Settled HeldKey.Survives →
          SettledAs HeldKey.Survives c.core c'.core)) :
    c'.Sending host endpoint log := by
  obtain ⟨last, held, hagreed, hlast, hlog, hsession⟩ := h
  refine ⟨last, held, by rw [hmessages, hcommitted]; exact hagreed, hlast.trans_le hsequence,
    hmessages ▸ hlog, ?_⟩
  intro session' hsession'
  obtain ⟨session, hs, hendpoint, hsettled⟩ := hopen session' hsession'
  obtain ⟨he, hcore, hheld, hhost⟩ := hsession session hs
  have hafter := hsettled hcore
  exact ⟨hendpoint ▸ he, hafter.settled, (heldFor_congr hafter.held).trans hheld,
    hafter.localHost.trans hhost⟩

theorem Sending.withCore (hcore : Keeps c.core core) : Sending host endpoint log { c with core } :=
  h.step rfl rfl le_rfl fun session hs => ⟨session, hs, rfl, hcore.settledAs⟩

theorem Sending.inboundOnly (hi : InboundOnly c c') : c'.Sending host endpoint log := by
  refine h.step (by rw [hi.outbound]) hi.committed hi.outboundSequence.ge fun session hs => ?_
  rw [hi.authorized] at hs
  rw [hi.core]
  exact ⟨session, hs, rfl, (Keeps.refl _).settledAs⟩

theorem Sending.session {f : AuthorizedSession → AuthorizedSession}
    (hf : ∀ session, (f session).endpoint = session.endpoint) :
    Sending host endpoint log { c with authorized := c.authorized.map f } := by
  refine h.step rfl rfl le_rfl fun session' hs => ?_
  obtain ⟨session, hsession, rfl⟩ := Option.map_eq_some_iff.mp hs
  exact ⟨session, hsession, (hf session).symm, (Keeps.refl _).settledAs⟩

/-- Once the session is gone, the core no longer matters. -/
theorem Sending.close (core : DaemonCore) :
    Sending host endpoint log { c with authorized := none, core } :=
  h.step rfl rfl le_rfl fun _ hs => by cases hs

/-- A frame: the message is carried from the ledger before to the one after. -/
theorem Sending.frame {session : AuthorizedSession} {message : WireMessage}
    {held' : Set HeldControl} (hsession : c.authorized = some session)
    (hmessages : c'.outbound.messages = c.outbound.messages ++ [message])
    (hcommitted : c'.committed = c.committed ++ [c'.core])
    (hsequence : c'.outboundSequence = c.outboundSequence + 1)
    (hbound : c.outboundSequence + 1 < u64Size) (hauthorized : c'.authorized = c.authorized)
    (hsettled : c'.core.Settled HeldKey.Survives)
    (hlocal : c'.core.workspace.localHost = c.core.workspace.localHost)
    (hheld' : c'.core.heldFor endpoint = held')
    (hcarries : Carries host (c.core.heldFor endpoint) c.outboundSequence message held') :
    c'.Sending host endpoint log := by
  subst hheld'
  obtain ⟨last, held, hagreed, hlast, hlog, hopen⟩ := h
  obtain ⟨he, -, hheld, hhost⟩ := hopen session hsession
  refine ⟨c.outboundSequence, c'.core.heldFor endpoint, ?_, by omega, ?_, fun session' hs => ?_⟩
  · rw [hmessages, hcommitted]
    exact .snoc hagreed hlast (by omega) (hheld ▸ hcarries)
  · rw [hmessages]
    exact hlog.trans (List.prefix_append _ _)
  · rw [hauthorized, hsession] at hs
    cases hs
    exact ⟨he, hsettled, rfl, hlocal.trans hhost⟩

end

/-! ## Cleanup releases -/

/-- A cleanup release on the wire asks for exactly its own control. -/
theorem releaseToWire_carried (release : RemoteRelease) {control : PhysicalControl} {sequence : ℕ}
    {wire : ReleaseInputV1} {held : Set HeldControl}
    (hpayload : release.payload = control.releasePayload) (hsurvives : control.Survives)
    (h : releaseToWire release sequence host = .ok wire) :
    Carries host held sequence (.releaseInput wire) (held \ {(release.sourceDevice, control)}) := by
  unfold releaseToWire at h
  rw [hpayload] at h
  cases control with
  | key code =>
    simp only [PhysicalControl.releasePayload] at h
    cases hk : keyToWire code with
    | error e => simp [hk, Except.map] at h
    | ok key =>
      simp only [hk, Except.map, Except.ok.injEq] at h
      subst h
      refine .release rfl ?_ ?_ ?_ ?_ ?_
      all_goals try rfl
      rw [requestedReleases]
      simp only [List.flatMap_cons, List.flatMap_nil, List.map_cons, List.map_nil, List.append_nil,
        hsurvives key hk, PhysicalControl.releasePayload]
  | button b =>
    cases h
    refine .release rfl ?_ ?_ ?_ ?_ ?_
    all_goals try rfl
    simp [requestedReleases, PhysicalControl.releasePayload]

theorem heldFor_erase {key : HeldKey} (hkey : key.endpoint = endpoint)
    (h : core'.remoteHeld = core.remoteHeld.erase key) :
    core'.heldFor endpoint = core.heldFor endpoint \ {(key.device, key.control)} := by
  ext ⟨d, k⟩
  rw [Set.mem_sdiff, Set.mem_singleton_iff]
  simp only [heldFor, Set.mem_ofPred_eq, h, OrdMap.contains_erase]
  rw [and_comm, ← hkey]
  refine and_congr_right fun _ => not_congr ⟨fun heq => ?_, fun heq => ?_⟩
  · rw [← heq]
  · cases heq
    rfl

/-- One iteration of the drain: a release enters the FIFO and its key leaves
    the ledger, or nothing is sent. -/
theorem Sending.drainStep {effect : CleanupReleaseEffect} {nowNs : ℕ}
    (h : c.Sending host endpoint log)
    (htake : c.core.takeNextCleanupRelease = (some effect, core)) :
    (PeerSessionCoordinator.drainStep { c with core } effect nowNs).2.Sending
      host endpoint log := by
  obtain ⟨entry, rest, hqueue, hflight, heffect, hcore⟩ := takeNextCleanupRelease_some htake
  have hkeeps : Keeps c.core core := by
    have := (CoreOp.ledgerOp .takeNextCleanupRelease rfl c.core).keeps
    rwa [CoreOp.apply, htake] at this
  have hsending := h.withCore hkeeps
  unfold PeerSessionCoordinator.drainStep
  rcases sendCleanup_cases { c with core } effect with
    ⟨f, wire, hsend, hf, hwire, hbound, session, hsession, hendpoint⟩ | ⟨error, f, n, hsend, hf, hn⟩
  · have hopen := hsending
    obtain ⟨_, _, _, _, _, hopen⟩ := hopen
    obtain ⟨he, hsettled, -, hhost⟩ := hopen session hsession
    have hqueue' : core.cleanup = entry :: rest := by rw [hcore]; exact hqueue
    have hcurrent : core.cleanupIsCurrent effect = true := by
      rw [cleanupIsCurrent, hqueue', heffect, hcore]
      simp
    rw [hsend]
    simp only [PeerSessionCoordinator.liftCore, confirmCleanupRelease, hcurrent, if_true, hqueue']
    have hkey : entry.heldKey.endpoint = endpoint := by
      rw [← he, hendpoint, heffect]
      rfl
    refine hsending.frame hsession hf rfl rfl hbound rfl
      (confirmCleanupRelease_settled hsettled hqueue' nowNs) rfl
      (heldFor_erase hkey rfl) ?_
    have hentry : entry ∈ core.cleanup := by rw [hqueue']; exact List.mem_cons_self
    refine releaseToWire_carried entry.release (hsettled.ledger.releases entry hentry)
      ?_ ?_
    · exact hsettled.held entry.heldKey
        (hsettled.ledger.queuedHeld _ (List.mem_map_of_mem hentry))
    · rw [heffect, hhost] at hwire
      exact hwire
  · rw [hsend]
    have hretry := (CoreOp.ledgerOp (.retryCleanupRelease effect nowNs) rfl core).keeps
    have hafter : Sending host endpoint log { c with
        core := (core.retryCleanupRelease effect nowNs).2, outbound := f, outboundSequence := n } :=
      (hsending.withCore hretry).step hf rfl hn fun session hs =>
        ⟨session, hs, rfl, (Keeps.refl _).settledAs⟩
    simp only [PeerSessionCoordinator.liftCore]
    generalize core.retryCleanupRelease effect nowNs = r at hafter ⊢
    obtain ⟨_ | _, core'⟩ := r
    · exact hafter
    · exact hafter

theorem Sending.drain (h : c.Sending host endpoint log) (nowNs : ℕ) :
    (c.drainRemoteCleanup nowNs).2.Sending host endpoint log := by
  refine drainRemoteCleanup_induction
    (R := fun c c' => c.Sending host endpoint log → c'.Sending host endpoint log)
    (fun _ => id) (fun h h' => h' ∘ h) (fun c effect core htake hc => ?_) c h
  exact hc.drainStep htake

/-! ## Captured events -/

/-- The physical limits of the sender are those of the receiver. -/
theorem withinLimits_physical (h : core.PhysicalBounds) : WithinLimits core.physical where
  devices := (core.physicalControls.card_image_fst_itemSet_le _).trans h.devices
  perDevice device := by
    rw [physical,
      core.physicalControls.card_itemSet_at (fun m => m.nodup_keys) device]
    cases hget : core.physicalControls.get? device with
    | none => exact Nat.zero_le _
    | some m => exact (m.length_keys).trans_le (h.perDevice device m hget)
  total := h.counted.trans_le h.total

theorem heldFor_confirmed (h : core'.heldKeys = core.heldAfter endpoint captured) :
    core'.heldFor endpoint = stepHeld (core.heldFor endpoint) captured.event.sourceDevice
      (PhysicalControl.fromPayload captured.event.payload) := by
  ext ⟨d, k⟩
  have hmem : (d, k) ∈ core'.heldFor endpoint
      ↔ (⟨endpoint, d, k⟩ : HeldKey) ∈ core.heldAfter endpoint captured := by
    rw [← h]
    rfl
  rw [hmem, heldAfter]
  change _ ↔ (d, k) ∈ stepHeld _ _ (stateful captured)
  unfold stepHeld
  cases stateful captured with
  | none => rfl
  | some tracked =>
    obtain ⟨k', transition⟩ := tracked
    cases transition with
    | «repeat» => rfl
    | press =>
      simp only [PhysicalTransition.onHeld, Set.mem_insert_iff, HeldKey.mk.injEq, Prod.mk.injEq,
        true_and]
      rfl
    | release =>
      simp only [PhysicalTransition.onHeld, Set.mem_sdiff, Set.mem_singleton_iff, HeldKey.mk.injEq,
        Prod.mk.injEq, true_and]
      rfl

theorem inputFromWire_withSequence {wire : InputEventV1} {event : InputEvent}
    (h : inputFromWire wire = .ok event) (sequence : ℕ) :
    inputFromWire { wire with sequence } = .ok { event with sequence } := by
  unfold inputFromWire at h ⊢
  simp only at h ⊢
  split_ifs at h ⊢
  cases h
  rfl

theorem survives_fromPayload {payload : InputPayload} {control : PhysicalControl}
    {transition : PhysicalTransition} (h : payload.Survives)
    (hst : PhysicalControl.fromPayload payload = some (control, transition)) :
    control.Survives := by
  cases payload with
  | key code state => cases state <;> cases hst <;> exact h
  | pointerButton b state => cases state <;> cases hst <;> trivial
  | pointerMove dx dy => cases hst
  | scroll horizontal vertical => cases hst

/-- A confirmed event is carried from the ledger before to the one after. -/
theorem carries_confirmed {core₁ core'' : DaemonCore}
    {previousLatch : Option LatchedDestination} {effect : RemoteInputEffect} {nowNs : ℕ}
    {wire : InputEventV1}
    (hprepared : Prepared HeldKey.Survives core captured previousLatch core₁ effect
      nowNs core')
    (hconfirmed : Confirmed HeldKey.Survives core effect.endpoint captured core'')
    (hwire : inputToWire effect.event = .ok wire) (hsurvives : captured.event.payload.Survives)
    (sequence : ℕ) :
    Carries core.workspace.localHost (core.heldFor effect.endpoint) sequence
      (.input { wire with sequence }) (stepHeld (core.heldFor effect.endpoint)
        captured.event.sourceDevice (PhysicalControl.fromPayload captured.event.payload)) := by
  rw [hprepared.event] at hwire
  have hhost : captured.event.sourceHost = core.workspace.localHost := by
    have htracked := hprepared.tracked
    simp only [tracksEvent, Bool.and_eq_true, beq_iff_eq] at htracked
    exact htracked.1.1.2
  have hevent := inputFromWire_withSequence (inputToWire_ok hsurvives hwire) sequence
  have hfields := (inputToWire_fields hwire).1.trans hhost
  suffices hadmits : Admits (core.heldFor effect.endpoint) captured.event.sourceDevice
      (PhysicalControl.fromPayload captured.event.payload) from
    @Carries.input _ _ _ { captured.event with sequence } _ rfl hfields hevent hadmits
  have hheld := heldFor_confirmed hconfirmed.held
  match hst : PhysicalControl.fromPayload captured.event.payload with
  | none => trivial
  | some (k, .release) => trivial
  | some (k, .repeat) =>
    have hcontinued := hprepared.continued
    rw [stateful, hst] at hcontinued
    obtain ⟨r, hr⟩ := hcontinued rfl
    exact hprepared.recorded.previousHeld k .repeat effect.endpoint r hst hr
  | some (k, .press) =>
    refine ⟨core''.physical, withinLimits_physical hconfirmed.settled.ledger.bounds, ?_⟩
    rw [hst] at hheld
    rintro ⟨d, k'⟩ hmem
    have hin : (d, k') ∈ core''.heldFor effect.endpoint := hheld ▸ hmem
    refine mem_physical.mpr ?_
    rcases hconfirmed.settled.accounted.held hconfirmed.gate.ready _ hin (Set.notMem_empty _) with
      ⟨r, hl⟩ | hq
    · rw [hl]
      rfl
    · rw [queuedKeys, hconfirmed.gate.queue] at hq
      cases hq

/-- A captured event that is not sent. -/
theorem Sending.prepare (h : c.Sending host endpoint log) {nowNs : ℕ}
    (hlocal : isRemoteDecision (c.core.prepareCaptured captured nowNs).1 = false) :
    Sending host endpoint log { c with core := (c.core.prepareCaptured captured nowNs).2 } :=
  h.step rfl rfl le_rfl fun session hs => ⟨session, hs, rfl, fun hsettled =>
    prepareCaptured_settled hsettled hlocal⟩

section Operations

variable [OutputInjectionBackend ι]

theorem Sending.routeRemote {effect : RemoteInputEffect} {nowNs : ℕ}
    (h : c.Sending host endpoint log) (hsurvives : captured.event.payload.Survives)
    (hprepare : c.core.prepareCaptured captured nowNs = (.ok (.remote effect), core)) :
    (PeerSessionCoordinator.routeRemote { c with core } effect nowNs).2.Sending
      host endpoint log := by
  unfold PeerSessionCoordinator.routeRemote
  rcases dispatchRemoteEffect_cases { c with core } effect with
    ⟨f, wire, hdispatch, hwire, hf, hbound, session, hsession, hendpoint⟩ |
    ⟨error, f, n, hdispatch, hf, hn⟩
  · have ⟨last, held, _, _, _, hopen⟩ := h
    obtain ⟨he, hsettled, -, hhost⟩ := hopen session hsession
    obtain ⟨previousLatch, core₁, hprepared⟩ := prepareCaptured_remote hsettled hprepare
    obtain ⟨core', hconfirm, hconfirmed⟩ := hprepared.confirmed c.outboundSequence
      fun k hst => survives_fromPayload hsurvives hst
    rw [hdispatch]
    simp only [hconfirm]
    have hsame : effect.endpoint = endpoint := hendpoint.symm.trans he
    refine h.frame hsession hf rfl rfl hbound rfl hconfirmed.settled hconfirmed.localHost
      (heldFor_confirmed (hsame ▸ hconfirmed.held)) ?_
    have hcarries := carries_confirmed hprepared hconfirmed hwire hsurvives c.outboundSequence
    rw [hsame, hhost] at hcarries
    exact hcarries
  · rw [hdispatch]
    refine h.step hf rfl hn fun session hs => ⟨session, hs, rfl, fun hsettled => ?_⟩
    obtain ⟨previousLatch, core₁, hprepared⟩ := prepareCaptured_remote hsettled hprepare
    exact hprepared.failed

/-- The parts of every operation keep the FIFO agreed. -/
theorem sending_parts (host : HostId) (endpoint : SessionEndpoint) (log : List WireMessage) :
    Injecting (fun captured => captured.event.payload.Survives) True (fun _ _ => True)
      fun c c' : FifoCoordinator ι =>
        c.Sending host endpoint log → c'.Sending host endpoint log where
  refl _ := id
  trans h h' := h' ∘ h
  core c op hop h := h.withCore (hop.keeps c.core)
  prepare _ _ _ hlocal h := h.prepare hlocal
  remote _ _ _ _ _ hsurvives hprepare h := h.routeRemote hsurvives hprepare
  release c nowNs h := h.inboundOnly (releaseAllInbound_inboundOnly c nowNs)
  drain _ nowNs h := h.drain nowNs
  session _ _ hf h := h.session fun a => (hf a).1
  reopen _ _ h := h.session fun _ => rfl
  close _ core h := h.close core
  synthetic _ _ h := h.inboundOnly ⟨rfl, rfl, rfl, rfl, rfl, rfl⟩
  released _ _ _ := trivial
  press _ _ _ _ _ := ⟨fun h => h.inboundOnly ⟨rfl, rfl, rfl, rfl, rfl, rfl⟩, trivial⟩
  inject _ _ _ h := h.inboundOnly ⟨rfl, rfl, rfl, rfl, rfl, rfl⟩
  forget c event _ _ h := by
    refine h.inboundOnly ?_
    unfold applyRelease
    split <;> exact ⟨rfl, rfl, rfl, rfl, rfl, rfl⟩

end Operations

end PeerSessionCoordinator

/-! ## Runs of a sender -/

open PeerSessionCoordinator

/-- The operations of a sending coordinator: captured events, endpoint states,
    handoffs, readiness, gates, the failsafe, drains and the end of a session. -/
inductive SenderOp
  | routeCaptured (captured : CapturedInput) (nowNs : ℕ)
  | handleEndpointState (endpoint : SessionEndpoint) (state : ConnectionState) (nowNs : ℕ)
  | beginPointerHandoff (nowNs : ℕ)
  | beginDestinationHandoffBarrier (nowNs : ℕ)
  | cancelPointerHandoff (nowNs : ℕ)
  | abortDestinationHandoffBarrier (nowNs : ℕ)
  | finishPointerHandoff (workspace : WorkspaceState) (nowNs : ℕ)
  | clearWorkspaceRoutingReady (nowNs : ℕ)
  | markWorkspaceRoutingReady (nowNs : ℕ)
  | lifecycleTick (nowNs : ℕ)
  | triggerCaptureEmergency (nowNs : ℕ)
  | gateLocalDevices (devices : List DeviceId) (nowNs : ℕ)
  | restoreLocalDevice (device : DeviceId) (nowNs : ℕ)
  | releaseInboundDevice (device : DeviceId) (nowNs : ℕ)
  | drainRemoteCleanup (nowNs : ℕ)
  | sessionFatalCleanup (nowNs : ℕ)
  | disconnect (nowNs : ℕ)
  | shutdown (nowNs : ℕ)

namespace SenderOp

variable {ι : Type} [OutputInjectionBackend ι]

/-- The state after an operation; its result is dropped. -/
def apply (c : FifoCoordinator ι) : SenderOp → FifoCoordinator ι
  | .routeCaptured captured now => (c.routeCaptured captured now).2
  | .handleEndpointState endpoint state now => (c.handleEndpointState endpoint state now).2
  | .beginPointerHandoff now => (c.beginPointerHandoff now).2
  | .beginDestinationHandoffBarrier now => (c.beginDestinationHandoffBarrier now).2
  | .cancelPointerHandoff now => c.cancelPointerHandoff now
  | .abortDestinationHandoffBarrier now => c.abortDestinationHandoffBarrier now
  | .finishPointerHandoff workspace now => (c.finishPointerHandoff workspace now).2
  | .clearWorkspaceRoutingReady now => (c.clearWorkspaceRoutingReady now).2
  | .markWorkspaceRoutingReady now => (c.markWorkspaceRoutingReady now).2
  | .lifecycleTick now => (c.lifecycleTick now).2
  | .triggerCaptureEmergency now => (c.triggerCaptureEmergency now).2
  | .gateLocalDevices devices now => (c.gateLocalDevices devices now).2
  | .restoreLocalDevice device now => (c.restoreLocalDevice device now).2
  | .releaseInboundDevice device now => (c.releaseInboundDevice device now).2
  | .drainRemoteCleanup now => (c.drainRemoteCleanup now).2
  | .sessionFatalCleanup now => (c.sessionFatalCleanup now).2
  | .disconnect now => (c.disconnect now).2
  | .shutdown now => (c.shutdown now).2

/-- Captured keys survive the wire. -/
def Survives : SenderOp → Prop
  | .routeCaptured captured _ => captured.event.payload.Survives
  | _ => True

/-- Every operation is put together from the parts. -/
theorem apply_related {S : CapturedInput → Prop} {G : FifoCoordinator ι → InputEvent → Prop}
    {R : FifoCoordinator ι → FifoCoordinator ι → Prop} (h : Injecting S True G R) (op : SenderOp)
    (hop : ∀ captured nowNs, op = .routeCaptured captured nowNs → S captured)
    (c : FifoCoordinator ι) : R c (op.apply c) := by
  cases op with
  | routeCaptured captured now => exact h.routeCaptured c (hop captured now rfl) now
  | handleEndpointState e state now => exact h.handleEndpointState c e state (fun _ => trivial) now
  | beginPointerHandoff now => exact h.beginPointerHandoff c now
  | beginDestinationHandoffBarrier now => exact h.beginDestinationHandoffBarrier c now
  | cancelPointerHandoff now => exact h.core c (.cancelPointerHandoff now) trivial
  | abortDestinationHandoffBarrier now =>
    exact h.core c (.abortDestinationHandoffBarrier now) trivial
  | finishPointerHandoff workspace now => exact h.finishPointerHandoff c workspace now
  | clearWorkspaceRoutingReady now =>
    exact h.thenDrain (.clearWorkspaceRoutingReady now) trivial rfl
  | markWorkspaceRoutingReady now => exact h.lift (.markWorkspaceRoutingReady now) trivial rfl
  | lifecycleTick now => exact h.core c (.tick now) trivial
  | triggerCaptureEmergency now => exact h.triggerCaptureEmergency c now
  | gateLocalDevices devices now => exact h.thenDrain (.gateLocalDevices devices now) trivial rfl
  | restoreLocalDevice device now => exact h.lift (.restoreLocalDevice device now) trivial rfl
  | releaseInboundDevice device now => exact h.releaseInboundDevice c device now
  | drainRemoteCleanup now => exact h.drain c now
  | sessionFatalCleanup now => exact h.sessionFatalCleanup c now
  | disconnect now => exact h.disconnect c now
  | shutdown now => exact h.shutdown c now

variable {host : HostId} {endpoint : SessionEndpoint} {log : List WireMessage}
  {c : FifoCoordinator ι} (h : c.Sending host endpoint log)

include h

/-- Every operation keeps the FIFO agreed. -/
theorem apply_sending (op : SenderOp)
    (hop : op.Survives) : (op.apply c).Sending host endpoint log := by
  refine apply_related (sending_parts host endpoint log) op ?_ c h
  rintro captured nowNs rfl
  exact hop

/-- A whole run of the sender keeps the FIFO agreed. -/
theorem execute_sending {ops : List SenderOp} (hops : ∀ op ∈ ops, op.Survives) :
    (execute SenderOp.apply c ops).Sending host endpoint log := by
  induction ops generalizing c with
  | nil => exact h
  | cons op rest ih =>
    exact ih (apply_sending h op (hops op List.mem_cons_self))
      fun op' hmem => hops op' (List.mem_cons_of_mem _ hmem)

end SenderOp

namespace PeerSessionCoordinator

/-! ## Admission -/

section Endpoints

variable {ι ω : Type} {core : DaemonCore} {expected : PeerIdentity} {injection : ι} {outbound : ω}
  {c c' : PeerSessionCoordinator ι ω} {endpoint : SessionEndpoint} {peer : AdmittedSessionBinding}
  {nowNs : ℕ} {outcome : PeerEventOutcome}

theorem new_ok (h : new core expected injection outbound = .ok c) :
    c = ⟨core, expected, injection, outbound, none, ∅, 0, 1, []⟩ := by
  unfold new at h
  simp only at h
  split at h
  · cases h
  · split at h
    · cases h
    · split_ifs at h
      exact (Except.ok.inj h).symm

variable [OutputInjectionBackend ι] [OutboundPeer ω]

theorem activateAdmittedEndpoint_ok
    (h : c.activateAdmittedEndpoint endpoint peer nowNs = (.ok outcome, c')) :
    c' = { c with
      core := (c.core.installSessionEndpoint endpoint nowNs).2
      authorized := some ⟨endpoint, peer, none, [], true⟩ } := by
  unfold activateAdmittedEndpoint activateBinding at h
  split at h
  · cases (Prod.mk.inj h).1
  · split at h
    · cases (Prod.mk.inj h).1
    · split at h
      · cases (Prod.mk.inj h).1
      · simp only [liftCore] at h
        generalize c.core.installSessionEndpoint endpoint nowNs = r at h ⊢
        obtain ⟨_ | _, core⟩ := r
        · cases (Prod.mk.inj h).1
        · exact (Prod.mk.inj h).2.symm

/-- A receiver that has just been admitted holds nothing. -/
theorem follows_start (hnew : new core expected injection outbound = .ok c)
    (hactivate : c.activateAdmittedEndpoint endpoint peer nowNs = (.ok outcome, c')) :
    c'.Follows endpoint peer expected.hostId 0 ∅ := by
  rw [activateAdmittedEndpoint_ok hactivate, new_ok hnew]
  refine ⟨⟨rfl, ⟨_, rfl, rfl, rfl, rfl, fun _ hlast => ?_, fun _ hmem => ?_⟩, le_rfl,
    fun d state hget => ?_⟩, ?_⟩
  · cases hlast
  · cases hmem
  · cases hget
  · exact Finset.coe_empty

end Endpoints

/-- A sender starts out with an agreed FIFO. -/
theorem sending_start {ι : Type} [OutputInjectionBackend ι] {config : Config}
    {workspace : WorkspaceState} {core : DaemonCore}
    (hcore : DaemonCore.new config workspace = .ok core) {expected : PeerIdentity} {injection : ι}
    {refuses : ℕ → Option OutboundPeerError} {c c' : FifoCoordinator ι}
    (hnew : new core expected injection ⟨[], refuses, 0⟩ = .ok c) {endpoint : SessionEndpoint}
    {peer : AdmittedSessionBinding} {nowNs : ℕ} {outcome : PeerEventOutcome}
    (hactivate : c.activateAdmittedEndpoint endpoint peer nowNs = (.ok outcome, c')) :
    c'.Sending workspace.localHost endpoint [] := by
  obtain ⟨hsettled, hheld, hworkspace⟩ := DaemonCore.new_settled hcore HeldKey.Survives
  have hinstall := (CoreOp.ledgerOp (.installSessionEndpoint endpoint nowNs) rfl core).keeps
  rw [activateAdmittedEndpoint_ok hactivate, new_ok hnew]
  refine ⟨0, ∅, .nil, Nat.zero_lt_one, List.nil_prefix, fun session hs => ?_⟩
  cases hs
  refine ⟨rfl, hinstall.settled _ hsettled, ?_, by rw [← hworkspace]; exact hinstall.localHost⟩
  refine (heldFor_congr hinstall.held).trans ?_
  rw [DaemonCore.heldFor, hheld]
  refine Set.eq_empty_iff_forall_notMem.mpr fun p hp => ?_
  cases hp

/-! ## Receiving a FIFO -/

section Receiver

variable {ι ω : Type} [OutputInjectionBackend ι] [OutboundPeer ω]

/-- A receiver handles messages in order, each at its own time, until the first error. -/
def receiveAll (endpoint : SessionEndpoint) (peer : AdmittedSessionBinding) :
    List (WireMessage × ℕ) → CoordinatorMethod ι ω Unit
  | [], c => (.ok (), c)
  | (message, nowNs) :: rest, c =>
    match c.handleEndpointMessage endpoint peer message nowNs with
    | (.error error, c) => (.error error, c)
    | (.ok _, c) => receiveAll endpoint peer rest c

variable {endpoint : SessionEndpoint} {peer : AdmittedSessionBinding}
  {c c' c'' : PeerSessionCoordinator ι ω}

variable {deliveries : List (WireMessage × ℕ)}

theorem receiveAll_snoc {delivery : WireMessage × ℕ}
    {outcome : PeerEventOutcome} (h : receiveAll endpoint peer deliveries c = (.ok (), c'))
    (h' : c'.handleEndpointMessage endpoint peer delivery.1 delivery.2 = (.ok outcome, c'')) :
    receiveAll endpoint peer (deliveries ++ [delivery]) c = (.ok (), c'') := by
  induction deliveries generalizing c with
  | nil =>
    cases h
    simp only [List.nil_append, receiveAll, h']
  | cons first rest ih =>
    rw [List.cons_append, receiveAll]
    rw [receiveAll] at h
    generalize c.handleEndpointMessage endpoint peer first.1 first.2 = r at h ⊢
    obtain ⟨_ | _, c₁⟩ := r
    · cases (Prod.mk.inj h).1
    · exact ih h

/-- A receiver accepts an agreed FIFO and ends up holding the same set. -/
theorem receiveAll_agreed {host : HostId} {e : SessionEndpoint} (hinjects : AlwaysInjects ι)
    (hagreed : Agreed host e messages cores last held) (hstart : c.Follows endpoint peer host 0 ∅)
    (hmessages : deliveries.map Prod.fst = messages) :
    ∃ c', receiveAll endpoint peer deliveries c = (.ok (), c')
      ∧ c'.Follows endpoint peer host last held := by
  induction hagreed generalizing deliveries with
  | nil =>
    obtain rfl := List.map_eq_nil_iff.mp hmessages
    exact ⟨c, rfl, hstart⟩
  | @snoc messages cores last held message core sequence _ hlt hbound hcarries ih =>
    obtain ⟨rest, tail, rfl, hrest, htail⟩ := List.map_eq_append_iff.mp hmessages
    obtain ⟨⟨m, nowNs⟩, rfl, rfl⟩ := List.map_eq_singleton_iff.mp htail
    obtain ⟨c₁, hreceive, hfollows⟩ := ih hrest
    obtain ⟨c₂, -, hhandle, -, -, hfollows', -⟩ :=
      handleEndpointMessage_carried hinjects hfollows hlt hbound hcarries nowNs
    exact ⟨c₂, receiveAll_snoc hreceive hhandle, hfollows'⟩

end Receiver

/-- For every run of a sender from its admission, with any refusals of its FIFO and captured keys
    that survive the wire, a receiver that handles a prefix of the FIFO in order accepts every
    message, and then holds exactly what the sender's ledger held for the endpoint when the last
    message of the prefix was settled. -/
theorem heldControls_agree {ι κ ω : Type} [OutputInjectionBackend ι] [OutputInjectionBackend κ]
    [OutboundPeer ω] {config : Config} {workspace : WorkspaceState} {core receiverCore : DaemonCore}
    {expected expected' : PeerIdentity} {injection : ι} {injection' : κ} {outbound : ω}
    {refuses : ℕ → Option OutboundPeerError} {sender₀ sender : FifoCoordinator ι}
    {receiver₀ receiver : PeerSessionCoordinator κ ω} {endpoint endpoint' : SessionEndpoint}
    {peer peer' : AdmittedSessionBinding} {nowNs nowNs' : ℕ} {outcome outcome' : PeerEventOutcome}
    (hcore : DaemonCore.new config workspace = .ok core)
    (hnew : new core expected injection ⟨[], refuses, 0⟩ = .ok sender₀)
    (hactivate : sender₀.activateAdmittedEndpoint endpoint peer nowNs = (.ok outcome, sender))
    (hnew' : new receiverCore expected' injection' outbound = .ok receiver₀)
    (hactivate' : receiver₀.activateAdmittedEndpoint endpoint' peer' nowNs'
      = (.ok outcome', receiver))
    (hpaired : expected'.hostId = workspace.localHost) (hinjects : AlwaysInjects κ)
    {ops : List SenderOp} (hops : ∀ op ∈ ops, op.Survives) {deliveries : List (WireMessage × ℕ)}
    (hinitial : deliveries.map Prod.fst <+: (execute SenderOp.apply sender ops).outbound.messages) :
    ∃ receiver', receiveAll endpoint' peer' deliveries receiver = (.ok (), receiver')
      ∧ ∀ device control, (receiver'.inboundPressed.get? device).any (·.holds control) = true ↔
        (device, control) ∈ heldAtEnd endpoint
          ((execute SenderOp.apply sender ops).committed.take deliveries.length) := by
  obtain ⟨last, held, hagreed, -, -, -⟩ :=
    SenderOp.execute_sending (sending_start hcore hnew hactivate) hops
  have htake := List.prefix_iff_eq_take.mp hinitial
  rw [List.length_map] at htake
  have hlength := hinitial.length_le
  rw [List.length_map] at hlength
  obtain ⟨last', held', hagreed'⟩ := hagreed.take hlength
  have hstart := follows_start hnew' hactivate'
  rw [hpaired] at hstart
  obtain ⟨receiver', hreceive, -, hheld⟩ :=
    receiveAll_agreed hinjects hagreed' hstart htake
  refine ⟨receiver', hreceive, fun device control => ?_⟩
  rw [← mem_heldControls, ← hagreed'.held_eq, ← hheld]
  exact Finset.mem_coe.symm

end PeerSessionCoordinator

/-! ### A key pressed, repeated and cleaned up -/

namespace Sample

open PeerSessionCoordinator

/-- The sending coordinator, with a FIFO that refuses its second offer. -/
def admitted : PeerSessionCoordinator Recorder Fifo :=
  (new core (identity remoteHost) ⟨[]⟩
    ⟨[], fun n => if n = 1 then some .full else none, 0⟩).toOption.get (by decide +kernel)

def sender : PeerSessionCoordinator Recorder Fifo :=
  (admitted.activateAdmittedEndpoint endpoint (binding localHost remoteHost) 0).2

/-- The endpoint under which the other host knows the session. -/
def peerEndpoint : SessionEndpoint := { endpoint with hostId := localHost, valid := by decide }

def peerAdmitted : PeerSessionCoordinator Recorder Fifo :=
  (new peerCore (identity localHost) ⟨[]⟩ ⟨[], fun _ => none, 0⟩).toOption.get
    (by decide +kernel)

def receiver : PeerSessionCoordinator Recorder Fifo :=
  (peerAdmitted.activateAdmittedEndpoint peerEndpoint (binding remoteHost localHost) 0).2

theorem sender_eq : admitted.activateAdmittedEndpoint endpoint (binding localHost remoteHost) 0
    = (.ok .applied, sender) :=
  Prod.ext (by decide +kernel) rfl

theorem peerAdmitted_eq : new peerCore (identity localHost)
    (⟨[]⟩ : Recorder) (⟨[], fun _ => none, 0⟩ : Fifo) = .ok peerAdmitted :=
  Except.eq_ok_get _

theorem receiver_eq : peerAdmitted.activateAdmittedEndpoint peerEndpoint
    (binding remoteHost localHost) 0 = (.ok .applied, receiver) :=
  Prod.ext (by decide +kernel) rfl

/-- A sending coordinator whose FIFO accepts everything. -/
def openAdmitted : PeerSessionCoordinator Recorder Fifo :=
  (new core (identity remoteHost) ⟨[]⟩ ⟨[], fun _ => none, 0⟩).toOption.get
    (by decide +kernel)

def openSender : PeerSessionCoordinator Recorder Fifo :=
  (openAdmitted.activateAdmittedEndpoint endpoint (binding localHost remoteHost) 0).2

theorem openAdmitted_eq : new core (identity remoteHost)
    (⟨[]⟩ : Recorder) (⟨[], fun _ => none, 0⟩ : Fifo) = .ok openAdmitted :=
  Except.eq_ok_get _

theorem openSender_eq : openAdmitted.activateAdmittedEndpoint endpoint
    (binding localHost remoteHost) 0 = (.ok .applied, openSender) :=
  Prod.ext (by decide +kernel) rfl

/-- The remote host gets the pointer; a key is pressed, its repeat is refused,
    and the cleanup that follows releases it. -/
def pressAndCleanUp : List SenderOp :=
  [.markWorkspaceRoutingReady 0,
   .finishPointerHandoff { workspace with activeHost := remoteHost } 0,
   .routeCaptured (key .keyA .pressed) 0, .routeCaptured (key .keyA .repeated) 0,
   .drainRemoteCleanup 0]

def deliveries : List (WireMessage × ℕ) :=
  (execute SenderOp.apply sender pressAndCleanUp).outbound.messages.map (·, 0)

end Sample

open Sample

open PeerSessionCoordinator in
theorem heldControls_agree_pressAndCleanUp :
    deliveries.length = 2 ∧ ∃ receiver',
      receiveAll peerEndpoint (binding remoteHost localHost)
        deliveries receiver = (.ok (), receiver')
      ∧ ∀ device control, (receiver'.inboundPressed.get? device).any (·.holds control) = true ↔
        (device, control) ∈ heldAtEnd endpoint ((execute SenderOp.apply sender
          pressAndCleanUp).committed.take deliveries.length) := by
  refine ⟨by decide +kernel, heldControls_agree
    (rfl : DaemonCore.new config workspace = .ok core) (Except.eq_ok_get _)
    sender_eq peerAdmitted_eq receiver_eq rfl (fun _ _ => rfl) ?_ ?_⟩
  · simp only [pressAndCleanUp, List.forall_mem_cons]
    exact ⟨trivial, trivial, keyCodeFromWire_named .keyA, keyCodeFromWire_named .keyA, trivial,
      fun _ hmem => absurd hmem List.not_mem_nil⟩
  · rw [deliveries, List.map_map]
    exact ⟨[], (List.append_nil _).trans (List.map_id _)⟩

end SoftwareKvm
