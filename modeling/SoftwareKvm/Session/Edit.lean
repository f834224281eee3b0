import SoftwareKvm.Session.Inbound

/-!
# The assignments of the coordinator's operations

Every operation of `PeerSessionCoordinator` on an open session is a sequence of
a few kinds of assignments. `Edit` lists them with the guards under which the
source makes them, and one lemma per operation says that it is such a sequence.
A fact about all operations is then a fact about all edits:

* `Edits.shut`: while the session accepts no input, nothing but releases is
  injected or sent.
* `handleEndpointMessage_shut`: an input that fails leaves the session so.
-/

namespace SoftwareKvm

open Lib

namespace PeerSessionCoordinator

variable {ι ω : Type} [OutputInjectionBackend ι] [OutboundPeer ω] {O : Prop}

/-- What a backend becomes by injecting events whose payload satisfies `Q`. -/
def Injections (Q : InputPayload → Prop) : ι → ι → Prop :=
  Relation.ReflTransGen fun injection injection' => ∃ event : InputEvent, Q event.payload
    ∧ injection' = (OutputInjectionBackend.inject injection event).2

/-- What a transport becomes by being offered messages that satisfy `Q`. -/
def Offers (Q : WireMessage → Prop) : ω → ω → Prop :=
  Relation.ReflTransGen fun outbound outbound' => ∃ message, Q message
    ∧ outbound' = (OutboundPeer.trySend outbound message).2

/-- An assignment to the fields of a coordinator; only if `O` holds, input may be
    accepted again. -/
inductive Edit (O : Prop) : PeerSessionCoordinator ι ω → PeerSessionCoordinator ι ω → Prop
  /-- The core, the ledgers and the counters. -/
  | quiet (c c' : PeerSessionCoordinator ι ω) (hauthorized : c'.authorized = c.authorized)
      (hinjection : c'.injection = c.injection) (houtbound : c'.outbound = c.outbound) : Edit O c c'
  | session (c : PeerSessionCoordinator ι ω) (f : AuthorizedSession → AuthorizedSession)
      (hf : ∀ a, (f a).acceptsInput = true → a.acceptsInput = true) :
      Edit O c { c with authorized := c.authorized.map f }
  | reopen (c : PeerSessionCoordinator ι ω) (hreopen : O) : Edit O c (c.setAcceptsInput true)
  | close (c : PeerSessionCoordinator ι ω) : Edit O c { c with authorized := none }
  | inject (c : PeerSessionCoordinator ι ω) (event : InputEvent)
      (hguard : c.acceptsInput = true ∨ IsRelease event.payload) :
      Edit O c { c with injection := (OutputInjectionBackend.inject c.injection event).2 }
  | offer (c : PeerSessionCoordinator ι ω) (message : WireMessage)
      (hguard : c.acceptsInput = true ∨ c.authorized.isSome = true ∧ message.isRelease = true) :
      Edit O c { c with outbound := (OutboundPeer.trySend c.outbound message).2 }

/-- A sequence of assignments. -/
def Edits (O : Prop) : CoordinatorRelation ι ω :=
  Relation.ReflTransGen (Edit O)

namespace Edits

variable {c c' c'' : PeerSessionCoordinator ι ω}

theorem refl (c : PeerSessionCoordinator ι ω) : Edits O c c := Relation.ReflTransGen.refl

theorem trans (h : Edits O c c') (h' : Edits O c' c'') : Edits O c c'' :=
  Relation.ReflTransGen.trans h h'

theorem single (he : Edit O c c') : Edits O c c' := Relation.ReflTransGen.single he

theorem quiet (hauthorized : c'.authorized = c.authorized) (hinjection : c'.injection = c.injection)
    (houtbound : c'.outbound = c.outbound) : Edits O c c' :=
  single (.quiet c c' hauthorized hinjection houtbound)

end Edits

/-! ## The operations -/

variable (c : PeerSessionCoordinator ι ω)

theorem edits_blind : Blind (Edits O : CoordinatorRelation ι ω) where
  refl := .refl
  trans := .trans
  quiet _ _ _ _ := .quiet rfl rfl rfl
  offer c message hguard := .single (.offer c message hguard)

theorem releaseAllInbound_edits (nowNs : ℕ) : Edits O c (c.releaseAllInbound nowNs).2 := by
  have h : Edits O c (releaseLoop nowNs (c.inboundReleases none) none c).2 :=
    releaseLoop_induction Edits.refl .trans (fun _ _ => .quiet rfl rfl rfl)
      (fun c event hrelease => .single (.inject c event (.inr hrelease)))
      (fun _ _ _ => .quiet rfl rfl rfl) (c.inboundReleases_isRelease none) none c
  rw [releaseAllInbound_snd]
  exact h.trans (.quiet rfl rfl rfl)

/-- Every part of an operation is a sequence of assignments. -/
theorem edits_parts : Injecting (fun _ => True) O
    (fun c event => c.acceptsInput = true ∨ IsRelease event.payload)
    (Edits O : CoordinatorRelation ι ω) where
  toRouting := edits_blind.routing releaseAllInbound_edits
  session c f hf := .single (.session c f fun a => (hf a).2)
  reopen hreopen c := .single (.reopen c hreopen)
  close c _ := .trans (.single (.close c)) (.quiet rfl rfl rfl)
  synthetic _ _ := .quiet rfl rfl rfl
  released _ _ hrelease := .inr hrelease
  press _ _ _ hguard _ := ⟨.quiet rfl rfl rfl, hguard⟩
  inject c event hguard := .single (.inject c event hguard)
  forget c event _ _ := by
    unfold applyRelease
    split
    · exact .refl c
    · exact .quiet rfl rfl rfl

theorem liftCore_edits {α : Type} (result : CoreResult α) : Edits O c (c.liftCore result).2 :=
  .quiet rfl rfl rfl

theorem thenDrain_edits (result : CoreResult Unit) (nowNs : ℕ) :
    Edits O c (c.thenDrain result nowNs).2 := by
  have h : Edits O c _ := c.liftCore_edits result
  unfold thenDrain
  generalize c.liftCore result = r at h ⊢
  obtain ⟨_ | _, c₁⟩ := r
  · exact h
  · exact h.trans (edits_blind.drain c₁ nowNs)

theorem trySendControl_edits (message : WireMessage) : Edits O c (c.trySendControl message).2 := by
  unfold trySendControl
  split
  · exact .refl c
  · next haccepts =>
    split
    · exact .refl c
    · exact .single (.offer c message (.inl (by simpa using haccepts)))

/-! ## What a sequence of assignments does -/

/-- While the session accepts no input, nothing but releases is injected or sent,
    and it stays so unless it is reopened. -/
theorem Edits.shut {c c' : PeerSessionCoordinator ι ω} (h : Edits O c c')
    (hshut : c.acceptsInput = false) (hclosed : O → c.authorized = none) :
    c'.acceptsInput = false ∧ (O → c'.authorized = none)
      ∧ Injections IsRelease c.injection c'.injection
      ∧ Offers (·.isRelease = true) c.outbound c'.outbound := by
  induction h with
  | refl => exact ⟨hshut, hclosed, .refl, .refl⟩
  | @tail c₁ _ _ he ih =>
    obtain ⟨hshut, hclosed, hinjections, hoffers⟩ := ih
    cases he with
    | quiet _ hauthorized hinjection houtbound =>
      rw [acceptsInput, hauthorized, hinjection, houtbound]
      exact ⟨hshut, hclosed, hinjections, hoffers⟩
    | session f hf =>
      refine ⟨?_, fun hO => by simp [hclosed hO], hinjections, hoffers⟩
      unfold acceptsInput at hshut ⊢
      cases hsession : c₁.authorized with
      | none => rfl
      | some a =>
        rw [hsession] at hshut
        exact Bool.eq_false_iff.mpr fun haccepts => Bool.eq_false_iff.mp hshut (hf a haccepts)
    | reopen hreopen =>
      have hnone := hclosed hreopen
      simp [setAcceptsInput, acceptsInput, hnone, hinjections, hoffers]
    | close => exact ⟨rfl, fun _ => rfl, hinjections, hoffers⟩
    | inject event hguard =>
      refine ⟨hshut, hclosed, hinjections.tail ⟨event, ?_, rfl⟩, hoffers⟩
      simpa [hshut] using hguard
    | offer message hguard =>
      refine ⟨hshut, hclosed, hinjections, hoffers.tail ⟨message, ?_, rfl⟩⟩
      exact (hguard.resolve_left (by simp [hshut])).2

/-- The cleanup of a failed session begins with its gate, and nothing after that reopens it. -/
theorem sessionFatalCleanup_shut (c : PeerSessionCoordinator ι ω) (nowNs : ℕ) :
    (c.sessionFatalCleanup nowNs).2.acceptsInput = false := by
  have hgated : c.sessionFatalCleanup nowNs
      = (c.setAcceptsInput false).sessionFatalCleanup nowNs := by
    simp only [sessionFatalCleanup, setAcceptsInput, Option.map_map]
    rfl
  rw [hgated]
  refine (Edits.shut (edits_parts.sessionFatalCleanup (c.setAcceptsInput false) nowNs)
    ?_ False.elim).1
  simp [acceptsInput, setAcceptsInput, Option.any_map]

theorem fails_shut {α : Type} (c : PeerSessionCoordinator ι ω) (trigger : CoordinatorError)
    (nowNs : ℕ) : (c.fails (α := α) trigger nowNs).2.acceptsInput = false := by
  have hcleanup := c.sessionFatalCleanup_shut nowNs
  unfold fails failSession
  generalize c.sessionFatalCleanup nowNs = r at hcleanup ⊢
  obtain ⟨_ | _, c₁⟩ := r <;> exact hcleanup

/-! ## Inputs that fail -/

/-- If the operation fails, the session accepts no more input. -/
abbrev ShutOnError {α : Type} (r : CoordinatorResult ι ω α) : Prop :=
  ∀ error, r.1 = .error error → r.2.acceptsInput = false

theorem injectReceived_shut (event : InputEvent) (nowNs : ℕ) :
    ShutOnError (c.injectReceived event nowNs) := by
  have hinject (c : PeerSessionCoordinator ι ω) : ShutOnError (c.injectEvent event nowNs) := by
    unfold injectEvent
    split
    · exact fun _ _ => fails_shut _ _ nowNs
    · dsimp only
      split <;> nofun
  unfold injectReceived
  split
  · split_ifs
    · exact hinject c
    · exact fun _ _ => fails_shut c _ nowNs
  · split
    · exact fun _ _ => fails_shut c _ nowNs
    · exact hinject _
  · exact hinject c

theorem acceptSequence_shut (received nowNs : ℕ) :
    ShutOnError (c.acceptSequence received nowNs) := by
  unfold acceptSequence
  split
  · exact fun _ _ => fails_shut c _ nowNs
  · split
    · split_ifs
      · exact fun _ _ => fails_shut c _ nowNs
      · nofun
    · nofun

theorem handleInput_shut (input : InputEventV1) (nowNs : ℕ) :
    ShutOnError (c.handleInput input nowNs) := by
  unfold handleInput
  split_ifs
  · exact fun _ _ => fails_shut c _ nowNs
  · nofun
  have haccept := c.acceptSequence_shut input.sequence nowNs
  generalize c.acceptSequence input.sequence nowNs = r at haccept ⊢
  obtain ⟨_ | _, c₁⟩ := r
  · exact fun _ _ => haccept _ rfl
  dsimp only
  split
  · exact fun _ _ => fails_shut _ _ nowNs
  next event _ =>
    have hinject := (c₁.rememberInput input).injectReceived_shut event nowNs
    generalize (c₁.rememberInput input).injectReceived event nowNs = r at hinject ⊢
    obtain ⟨_ | _, c₂⟩ := r
    · exact fun _ _ => hinject _ rfl
    · nofun

variable (endpoint : SessionEndpoint) (peer : AdmittedSessionBinding) (input : InputEventV1)

theorem handleEndpointMessage_shut (nowNs : ℕ) :
    ShutOnError (c.handleEndpointMessage endpoint peer (.input input) nowNs) := by
  unfold handleEndpointMessage handleAuthorizedMessage
  split_ifs
  · exact fun _ _ => fails_shut c _ nowNs
  · split
    · exact fun _ _ => fails_shut c _ nowNs
    · exact c.handleInput_shut input nowNs
  · exact fun _ _ => fails_shut c _ nowNs

theorem handleEndpointPointerDatagram_shut (nowNs : ℕ) :
    ShutOnError (c.handleEndpointPointerDatagram endpoint peer input nowNs) := by
  unfold handleEndpointPointerDatagram
  dsimp only
  split
  · exact fun _ _ => fails_shut c _ nowNs
  split
  · exact fun _ _ => fails_shut c _ nowNs
  split
  · exact fun _ _ => fails_shut c _ nowNs
  next event _ =>
    have hinject := c.injectReceived_shut event nowNs
    generalize c.injectReceived event nowNs = r at hinject ⊢
    obtain ⟨_ | _, c₁⟩ := r
    · exact fun _ _ => hinject _ rfl
    · nofun

end PeerSessionCoordinator

end SoftwareKvm
