import SoftwareKvm.Session.Coordinator

/-!
# The outbound FIFO and the frames of the coordinator

`Fifo` is an outbound peer that appends what it accepts and refuses offers by
an arbitrary plan. `Appends P f f'` says that `f'` continues `f` with messages
that satisfy `P`.

Results:
* `drainRemoteCleanup_drains`: the turns of `drain_remote_cleanup`; the bound on
  its iterations is never reached.
* `drainRemoteCleanup_appends`: a drain sends only `ReleaseInput` messages.
-/

namespace SoftwareKvm

open Lib

/-! ## An outbound peer with an arbitrary refusal plan -/

/-- The messages accepted so far, and the answer to the n-th offer: `none` accepts it. -/
structure Fifo where
  messages : List WireMessage
  refuses : ℕ → Option OutboundPeerError
  offers : ℕ := 0

instance : OutboundPeer Fifo where
  trySend f message :=
    match f.refuses f.offers with
    | none => (.ok (), { f with messages := f.messages ++ [message], offers := f.offers + 1 })
    | some error => (.error error, { f with offers := f.offers + 1 })

abbrev FifoCoordinator (ι : Type) := PeerSessionCoordinator ι Fifo

/-- `f'` holds the messages of `f`, followed by messages that satisfy `P`. -/
def Appends (P : WireMessage → Prop) (f f' : Fifo) : Prop :=
  ∃ frames, f'.messages = f.messages ++ frames ∧ ∀ m ∈ frames, P m

namespace Appends

variable {P : WireMessage → Prop}

theorem refl (f : Fifo) : Appends P f f := ⟨[], by simp⟩

theorem of_messages_eq {f f' : Fifo} (h : f'.messages = f.messages) : Appends P f f' :=
  ⟨[], by simp [h]⟩

theorem trans {f f' f'' : Fifo} (h : Appends P f f') (h' : Appends P f' f'') : Appends P f f'' := by
  obtain ⟨frames, hm, hp⟩ := h
  obtain ⟨frames', hm', hp'⟩ := h'
  refine ⟨frames ++ frames', by rw [hm', hm, List.append_assoc], fun m hmem => ?_⟩
  exact (List.mem_append.mp hmem).elim (hp m) (hp' m)

end Appends

/-- `matches!(message, WireMessage::Input(_))`. -/
def WireMessage.isInput : WireMessage → Bool
  | .input _ => true
  | _ => false

/-- `matches!(message, WireMessage::ReleaseInput(_))`. -/
def WireMessage.isRelease : WireMessage → Bool
  | .releaseInput _ => true
  | _ => false

theorem trySend_cases (f : Fifo) (message : WireMessage) :
    (∃ f', OutboundPeer.trySend f message = (.ok (), f')
      ∧ f'.messages = f.messages ++ [message])
    ∨ ∃ error f', OutboundPeer.trySend f message = (.error error, f')
      ∧ f'.messages = f.messages := by
  simp only [OutboundPeer.trySend]
  cases f.refuses f.offers with
  | none => exact Or.inl ⟨_, rfl, rfl⟩
  | some error => exact Or.inr ⟨error, _, rfl, rfl⟩

namespace PeerSessionCoordinator

variable {ι ω : Type}

/-! ## The inbound side -/

/-- `c'` differs from `c` only in the injected input. -/
structure InboundOnly (c c' : PeerSessionCoordinator ι ω) : Prop where
  core : c'.core = c.core
  expected : c'.expected = c.expected
  outbound : c'.outbound = c.outbound
  authorized : c'.authorized = c.authorized
  outboundSequence : c'.outboundSequence = c.outboundSequence
  committed : c'.committed = c.committed

namespace InboundOnly

theorem refl (c : PeerSessionCoordinator ι ω) : InboundOnly c c := ⟨rfl, rfl, rfl, rfl, rfl, rfl⟩

theorem trans {c c' c'' : PeerSessionCoordinator ι ω} (h : InboundOnly c c')
    (h' : InboundOnly c' c'') : InboundOnly c c'' where
  core := h'.core.trans h.core
  expected := h'.expected.trans h.expected
  outbound := h'.outbound.trans h.outbound
  authorized := h'.authorized.trans h.authorized
  outboundSequence := h'.outboundSequence.trans h.outboundSequence
  committed := h'.committed.trans h.committed

end InboundOnly

variable (c : PeerSessionCoordinator ι ω)

/-! ## The outbound side -/

/-- `c'` differs from `c` only in the FIFO and the sequence counter. -/
structure OutboundOnly (c c' : PeerSessionCoordinator ι ω) : Prop where
  core : c'.core = c.core
  expected : c'.expected = c.expected
  injection : c'.injection = c.injection
  authorized : c'.authorized = c.authorized
  inboundPressed : c'.inboundPressed = c.inboundPressed
  syntheticSequence : c'.syntheticSequence = c.syntheticSequence
  committed : c'.committed = c.committed

theorem OutboundOnly.refl : OutboundOnly c c :=
  ⟨rfl, rfl, rfl, rfl, rfl, rfl, rfl⟩

theorem OutboundOnly.trans {c c' c'' : PeerSessionCoordinator ι ω} (h : OutboundOnly c c')
    (h' : OutboundOnly c' c'') : OutboundOnly c c'' where
  core := h'.core.trans h.core
  expected := h'.expected.trans h.expected
  injection := h'.injection.trans h.injection
  authorized := h'.authorized.trans h.authorized
  inboundPressed := h'.inboundPressed.trans h.inboundPressed
  syntheticSequence := h'.syntheticSequence.trans h.syntheticSequence
  committed := h'.committed.trans h.committed

theorem nextOutboundSequence_outboundOnly : OutboundOnly c c.nextOutboundSequence.2 := by
  unfold nextOutboundSequence
  split
  · exact .refl c
  · exact ⟨rfl, rfl, rfl, rfl, rfl, rfl, rfl⟩

theorem offer_outboundOnly [OutboundPeer ω]
    (message : WireMessage) : OutboundOnly c (c.offer message).2 :=
  ⟨rfl, rfl, rfl, rfl, rfl, rfl, rfl⟩

theorem sendCleanup_outboundOnly [OutboundPeer ω]
    (effect : CleanupReleaseEffect) : OutboundOnly c (c.sendCleanup effect).2 := by
  unfold sendCleanup
  split
  · exact .refl c
  · split_ifs
    · exact .refl c
    · have h := nextOutboundSequence_outboundOnly c
      generalize c.nextOutboundSequence = r at h ⊢
      obtain ⟨error | sequence, c₁⟩ := r
      · exact h
      · simp only at h ⊢
        split_ifs
        · exact h
        · split
          · exact h
          · exact h.trans (offer_outboundOnly _ _)

/-! ## The drain loop -/

variable {effect : CleanupReleaseEffect}

theorem takeNextCleanupRelease_some {core core' : DaemonCore}
    (h : core.takeNextCleanupRelease = (some effect, core')) :
    ∃ entry rest, core.cleanup = entry :: rest ∧ core.cleanupInFlight = none
      ∧ effect = ⟨entry.id, entry.endpoint, entry.coveredInputSequence, entry.release⟩
      ∧ core' = { core with cleanupInFlight := some entry.id } := by
  unfold DaemonCore.takeNextCleanupRelease at h
  cases hflight : core.cleanupInFlight with
  | some id => simp [hflight] at h
  | none =>
    cases hc : core.cleanup with
    | nil => simp [hflight, hc] at h
    | cons entry rest =>
      simp only [hflight, hc, List.head?_cons, Option.isSome_none, Bool.false_eq_true, if_false,
        Prod.mk.injEq, Option.some.injEq] at h
      exact ⟨entry, rest, rfl, rfl, h.1.symm, h.2.symm⟩

/-- Nothing is taken while a release is in flight or from an empty queue. -/
theorem takeNextCleanupRelease_none {core core' : DaemonCore}
    (h : core.takeNextCleanupRelease = (none, core')) :
    core' = core ∧ (core.cleanupInFlight = none → core.cleanup = []) := by
  unfold DaemonCore.takeNextCleanupRelease at h
  split_ifs at h with hflight
  · exact ⟨(Prod.mk.inj h).2.symm, fun hnone => by rw [hnone] at hflight; cases hflight⟩
  · split at h
    · rename_i hhead
      exact ⟨(Prod.mk.inj h).2.symm, fun _ => List.head?_eq_none_iff.mp hhead⟩
    · cases (Prod.mk.inj h).1

theorem drainStep_ok [OutboundPeer ω] {c c' : PeerSessionCoordinator ι ω} {nowNs : ℕ}
    (h : c.drainStep effect nowNs = (.ok (), c')) :
    c'.core.cleanup.length + 1 = c.core.cleanup.length := by
  have hs := sendCleanup_outboundOnly c effect
  unfold drainStep at h
  generalize c.sendCleanup effect = r at h hs
  obtain ⟨error | _, c₁⟩ := r
  · simp only at h
    generalize c₁.liftCore (c₁.core.retryCleanupRelease effect nowNs) = r' at h
    obtain ⟨_ | _, _⟩ := r' <;> simp at h
  · simp only at hs
    simp only [liftCore] at h
    rw [hs.core] at h
    cases hc : c.core.confirmCleanupRelease effect nowNs with
    | mk confirmed core =>
      rw [hc] at h
      cases confirmed with
      | error e => simp [Except.mapError] at h
      | ok u =>
        simp only [Except.mapError, Prod.mk.injEq, true_and] at h
        unfold DaemonCore.confirmCleanupRelease at hc
        split at hc
        · cases hqueue : c.core.cleanup with
          | nil => simp [hqueue] at hc
          | cons entry rest =>
            simp only [hqueue, Prod.mk.injEq, true_and] at hc
            simp [← h, ← hc, DaemonCore.publish]
        · cases (Prod.mk.inj hc).1

/-- The turns of `drain_remote_cleanup`: releases are taken and sent until none is
    left or a turn fails. -/
inductive Drains [OutboundPeer ω] (nowNs : ℕ) : PeerSessionCoordinator ι ω →
    CoordinatorResult ι ω Unit → Prop
  | done {c core} (htake : c.core.takeNextCleanupRelease = (none, core)) :
      Drains nowNs c (.ok (), { c with core })
  | failed {c c' effect core error} (htake : c.core.takeNextCleanupRelease = (some effect, core))
      (hturn : drainStep { c with core } effect nowNs = (.error error, c')) :
      Drains nowNs c (.error error, c')
  | next {c c' effect core result} (htake : c.core.takeNextCleanupRelease = (some effect, core))
      (hturn : drainStep { c with core } effect nowNs = (.ok (), c'))
      (hrest : Drains nowNs c' result) : Drains nowNs c result

theorem drainRemoteCleanup_drains [OutboundPeer ω] (nowNs : ℕ) :
    Drains nowNs c (c.drainRemoteCleanup nowNs) := by
  -- every turn shortens the queue, so the bound on the turns is not reached
  have hn : c.core.cleanup.length < c.core.cleanup.length + 1 := Nat.lt_succ_self _
  unfold drainRemoteCleanup
  generalize c.core.cleanup.length + 1 = n at hn ⊢
  induction n generalizing c with
  | zero => exact absurd hn (Nat.not_lt_zero _)
  | succ n ih =>
    rw [drainLoop]
    cases htake : c.core.takeNextCleanupRelease with
    | mk taken core =>
      cases taken with
      | none => exact .done htake
      | some effect =>
        obtain ⟨entry, rest, -, -, -, hcore⟩ := takeNextCleanupRelease_some htake
        simp only
        cases hturn : drainStep { c with core } effect nowNs with
        | mk result c₁ =>
          cases result with
          | error error => exact .failed htake hturn
          | ok _ =>
            have hlen := drainStep_ok hturn
            simp only [hcore] at hlen
            exact .next htake hturn (ih c₁ (by omega))

/-- The induction over a drain: a reflexive and transitive relation that every
    loop body establishes holds between the start and the end. -/
theorem drainRemoteCleanup_induction [OutboundPeer ω] {R : CoordinatorRelation ι ω}
    (hrefl : ∀ c, R c c) (htrans : ∀ {a b c}, R a b → R b c → R a c) {nowNs : ℕ}
    (hstep : ∀ (c : PeerSessionCoordinator ι ω) effect core,
      c.core.takeNextCleanupRelease = (some effect, core) →
      R c (drainStep { c with core } effect nowNs).2)
    (c : PeerSessionCoordinator ι ω) : R c (c.drainRemoteCleanup nowNs).2 := by
  have h := c.drainRemoteCleanup_drains nowNs
  generalize c.drainRemoteCleanup nowNs = r at h
  induction h with
  | @done c core htake =>
    rw [(takeNextCleanupRelease_none htake).1]
    exact hrefl c
  | @failed c _ effect core _ htake hturn => exact hturn ▸ hstep c effect core htake
  | @next c _ effect core _ htake hturn _ ih =>
    have hone := hstep c effect core htake
    rw [hturn] at hone
    exact htrans hone ih

/-! ## What enters the FIFO -/

section Fifo

variable (c : FifoCoordinator ι)

theorem offer_cases (message : WireMessage) :
    (∃ f, c.offer message = (.ok (), { c with outbound := f })
      ∧ f.messages = c.outbound.messages ++ [message])
    ∨ ∃ error f, c.offer message = (.error error, { c with outbound := f })
      ∧ f.messages = c.outbound.messages := by
  unfold offer
  rcases trySend_cases c.outbound message with ⟨f, hsend, hf⟩ | ⟨error, f, hsend, hf⟩
  · exact Or.inl ⟨f, by rw [hsend]; rfl, hf⟩
  · exact Or.inr ⟨.outbound error, f, by rw [hsend]; rfl, hf⟩

/-- The sequence counter is the only thing that `next_outbound_sequence` moves. -/
theorem nextOutboundSequence_cases (c : PeerSessionCoordinator ι ω) :
    c.nextOutboundSequence = (.error .outboundSequenceExhausted, c)
    ∨ (c.nextOutboundSequence
        = (.ok c.outboundSequence, { c with outboundSequence := c.outboundSequence + 1 })
      ∧ c.outboundSequence + 1 < u64Size) := by
  unfold nextOutboundSequence
  cases h : checkedAdd c.outboundSequence 1 with
  | none => exact Or.inl rfl
  | some next =>
    obtain ⟨rfl, hlt⟩ := checkedAdd_eq_some.mp h
    exact Or.inr ⟨rfl, hlt⟩

/-- The operation failed and nothing entered the FIFO. -/
abbrev Unsent {α : Type} (result : Except CoordinatorError α × FifoCoordinator ι) : Prop :=
  ∃ error f n, result = (.error error, { c with outbound := f, outboundSequence := n })
    ∧ f.messages = c.outbound.messages ∧ c.outboundSequence ≤ n

theorem unsent_of_error {α : Type} (error : CoordinatorError) :
    Unsent (α := α) c (.error error, c) :=
  ⟨error, c.outbound, c.outboundSequence, rfl, rfl, le_rfl⟩

/-- A cleanup release enters the FIFO as one `ReleaseInput`, or nothing does. -/
theorem sendCleanup_cases (effect : CleanupReleaseEffect) : (∃ f wire, c.sendCleanup effect
        = (.ok (), { c with outbound := f, outboundSequence := c.outboundSequence + 1 })
      ∧ f.messages = c.outbound.messages ++ [.releaseInput wire]
      ∧ releaseToWire effect.release c.outboundSequence c.core.workspace.localHost = .ok wire
      ∧ c.outboundSequence + 1 < u64Size
      ∧ ∃ session, c.authorized = some session ∧ session.endpoint = effect.endpoint)
    ∨ Unsent c (c.sendCleanup effect) := by
  unfold sendCleanup
  split
  · exact Or.inr (unsent_of_error c _)
  · next session hsession =>
    split_ifs with htarget
    · exact Or.inr (unsent_of_error c _)
    · simp only [not_or, not_not] at htarget
      rcases nextOutboundSequence_cases c with hseq | ⟨hseq, hlt⟩
      · rw [hseq]
        exact Or.inr (unsent_of_error c _)
      · rw [hseq]
        simp only
        split_ifs
        · exact Or.inr ⟨_, c.outbound, c.outboundSequence + 1, rfl, rfl, Nat.le_succ _⟩
        · split
          · exact Or.inr ⟨_, c.outbound, c.outboundSequence + 1, rfl, rfl, Nat.le_succ _⟩
          · next wire hwire =>
            rcases offer_cases { c with outboundSequence := c.outboundSequence + 1 }
              (.releaseInput wire) with ⟨f, ho, hf⟩ | ⟨error, f, ho, hf⟩
            · rw [ho]
              exact Or.inl ⟨f, wire, rfl, hf, hwire, hlt, session, hsession, htarget.1.symm⟩
            · rw [ho]
              exact Or.inr ⟨error, f, c.outboundSequence + 1, rfl, hf, Nat.le_succ _⟩

/-- A drain sends only `ReleaseInput` messages. -/
theorem drainRemoteCleanup_appends (nowNs : ℕ) :
    Appends (·.isRelease = true) c.outbound (c.drainRemoteCleanup nowNs).2.outbound := by
  refine drainRemoteCleanup_induction
    (R := fun c c' => Appends (·.isRelease = true) c.outbound c'.outbound)
    (fun c => .refl c.outbound) .trans (fun c effect core _ => ?_) c
  unfold drainStep
  rcases sendCleanup_cases ({ c with core }) effect with
    ⟨f, wire, hs, hf, -⟩ | ⟨error, f, n, hs, hf, -⟩
  · rw [hs]
    exact ⟨[.releaseInput wire], hf, by simp [WireMessage.isRelease]⟩
  · rw [hs]
    simp only [liftCore]
    generalize DaemonCore.retryCleanupRelease _ effect nowNs = r
    obtain ⟨_ | _, core⟩ := r <;> exact .of_messages_eq hf

/-- A dispatched effect enters the FIFO as one `Input` with the next sequence
    number, or nothing does. -/
theorem dispatchRemoteEffect_cases [OutputInjectionBackend ι] (effect : RemoteInputEffect) :
    (∃ f input, c.dispatchRemoteEffect effect = (.ok c.outboundSequence,
        { c with outbound := f, outboundSequence := c.outboundSequence + 1 })
      ∧ inputToWire effect.event = .ok input
      ∧ f.messages = c.outbound.messages
        ++ [.input { input with sequence := c.outboundSequence }]
      ∧ c.outboundSequence + 1 < u64Size
      ∧ ∃ session, c.authorized = some session ∧ session.endpoint = effect.endpoint)
    ∨ Unsent c (c.dispatchRemoteEffect effect) := by
  unfold dispatchRemoteEffect
  split
  · exact Or.inr (unsent_of_error c _)
  · next session hsession =>
    split_ifs with haccepts htarget
    · exact Or.inr (unsent_of_error c _)
    · exact Or.inr (unsent_of_error c _)
    · simp only [not_or, not_not] at htarget
      split
      · exact Or.inr (unsent_of_error c _)
      · next input hinput =>
        rcases nextOutboundSequence_cases c with hseq | ⟨hseq, hlt⟩
        · rw [hseq]
          exact Or.inr (unsent_of_error c _)
        · rw [hseq]
          simp only
          rcases offer_cases { c with outboundSequence := c.outboundSequence + 1 }
            (.input { input with sequence := c.outboundSequence })
            with ⟨f, ho, hf⟩ | ⟨error, f, ho, hf⟩
          · rw [ho]
            exact Or.inl ⟨f, input, rfl, hinput, hf, hlt, session, hsession, htarget.1.symm⟩
          · rw [ho]
            exact Or.inr ⟨error, f, c.outboundSequence + 1, rfl, hf, Nat.le_succ _⟩

end Fifo

end PeerSessionCoordinator

end SoftwareKvm
