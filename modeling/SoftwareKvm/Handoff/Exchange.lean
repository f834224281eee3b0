import SoftwareKvm.Handoff.Steps

/-!
# The steps of an undisturbed handoff

What each operation of the coordinator does when no deadline has been reached,
stated exactly: the result, the messages and the record that the operation
leaves behind. `Proposes` describes the pending record of a proposal, and the
step lemmas follow one handoff through its phases.

* `proposeLeave_spec`: a proposal is refused or offered.
* `receiveLeave_hints`, `receiveEnter_accepts`,
  `receiveAck_answers`, `receiveCommit_completes`: the receive operations.
* `dispatchEffect_sends`, `dispatchEffect_commits`: dispatches that the transport takes.
-/

namespace SoftwareKvm

open Lib

namespace CoordinatorCore

variable {B : Type} {c c' : CoordinatorCore B} {session : B} {nowNs : ℕ}

/-- No deadline has been reached at `nowNs`, and a new one can be set. -/
structure Timely (c : CoordinatorCore B) (nowNs : ℕ) : Prop where
  clock : c.lastNowNs ≤ nowNs
  pending : c.timeouts nowNs = ⟨false, false, false⟩
  deadline : nowNs + c.config.timeoutNs < u64Size

/-- The coordinator with its clock set. -/
def tick (c : CoordinatorCore B) (nowNs : ℕ) : CoordinatorCore B := { c with lastNowNs := nowNs }

theorem tick_outbound : (c.tick nowNs).outbound = c.outbound := rfl

theorem tick_inbound : (c.tick nowNs).inbound = c.inbound := rfl

theorem tick_reply : (c.tick nowNs).reply = c.reply := rfl

theorem Timely.prepareOperation (h : c.Timely nowNs) :
    c.prepareOperation nowNs = (.ok (), c.tick nowNs) := by
  have htick : (c.tick nowNs).timeouts nowNs = ⟨false, false, false⟩ := h.pending
  unfold CoordinatorCore.prepareOperation advanceClock
  rw [if_neg (not_lt.mpr h.clock)]
  exact congrArg (fun r => (Except.ok (), r.2)) (expire_of_timely htick)

theorem Timely.current (h : c.Timely nowNs) : (c.tick nowNs).Current nowNs :=
  ⟨rfl, h.pending⟩

theorem Timely.deadline_ok (h : c.Timely nowNs) :
    (c.tick nowNs).deadline nowNs = .ok (nowNs + c.config.timeoutNs) := by
  unfold CoordinatorCore.deadline
  rw [show checkedAdd nowNs (c.tick nowNs).config.timeoutNs = some (nowNs + c.config.timeoutNs) from
    checkedAdd_eq_some.mpr ⟨rfl, h.deadline⟩]

theorem Timely.withSession [DecidableEq B] {α : Type} (h : c.Timely nowNs)
    (havailable : c.requireAvailableSession session = .ok ())
    (body : CoordinatorCore B → HandoffResult B α) :
    c.withSession session nowNs body = body (c.tick nowNs) := by
  have htick : (c.tick nowNs).requireAvailableSession session = .ok () := havailable
  unfold CoordinatorCore.withSession
  simp only [h.prepareOperation, htick]

theorem classifyInboundSequence_next {id sequence : ℕ} (hnext : id = c.lastInboundSequence + 1)
    (hid : id < u64Size) (hsequence : sequence = id) :
    c.classifyInboundSequence id sequence = (.ok .next, c) := by
  subst hsequence hnext
  unfold classifyInboundSequence
  rw [if_neg (by omega), if_neg (by omega), checkedAdd_eq_some.mpr ⟨rfl, hid⟩]
  simp

variable [SessionBinding B]

/-- A transition of the peer towards this side, which this side resolves to the same crossing. -/
structure Incoming (session : B) (c : CoordinatorCore B) (t : ResolvedTransition) : Prop where
  crossing : ∃ w, c.workspace.transition t.sourceDisplay t.sourceEdge (.finite t.normalizedPosition)
    = .ok w ∧ t = ResolvedTransition.ofWorkspaceTransition w
  sourceHost : t.sourceHost = remoteHostId session
  destinationHost : t.destinationHost = c.workspaceState.localHost

variable {t : ResolvedTransition} {deadlineNs : ℕ} {p : PendingOutbound B}
  {leave : PointerLeaveV1} {enter : PointerEnterV1} {ack : PointerTransitionAckV1}

section

variable (h : Incoming session c t)

include h

theorem Incoming.tick (nowNs : ℕ) : Incoming session (c.tick nowNs) t :=
  ⟨h.crossing, h.sourceHost, h.destinationHost⟩

theorem Incoming.resolveLeave (hsession : c.session = some session) (id : ℕ) (epoch : ℕ) :
    c.resolveLeave (makeLeave id epoch t) = .ok t := by
  obtain ⟨w, hw, ht⟩ := h.crossing
  have hvalid : c.validateResolvedDestination t = .ok () := by
    unfold validateResolvedDestination
    rw [hsession]
    exact if_neg (not_or.mpr ⟨not_not.mpr h.sourceHost, not_not.mpr h.destinationHost⟩)
  have hcrossing : c.workspace.transition (makeLeave id epoch t).sourceDisplay
      (makeLeave id epoch t).edge (makeLeave id epoch t).normalizedPosition = .ok w := hw
  unfold CoordinatorCore.resolveLeave
  simp only [hcrossing, ← ht, hvalid]

variable (hactive : c.workspaceState.activeHost = c.workspaceState.localHost
    ∨ c.workspaceState.activeHost = remoteHostId session)

include hactive

/-- A side that takes itself or the peer for the active host, and is not in the
    middle of a commit, accepts the peer's authority. -/
theorem Incoming.authority (houtbound : c.outbound = none) :
    (!c.remoteIsAuthoritative session t.sourceDisplay && !c.hasLocalAuthority) = false := by
  obtain ⟨w, hw, rfl⟩ := h.crossing
  have howner := (ConfiguredWorkspace.transition_ok hw).2.2.2.1
  have hsource : w.sourceHost = remoteHostId session := h.sourceHost
  rcases hactive with hlocal | hremote
  · simp [hasLocalAuthority, committing, houtbound, hlocal]
  · simp [remoteIsAuthoritative, hremote, howner, hsource]

theorem Incoming.startHint (hsession : c.session = some session)
    (houtbound : c.outbound = none) (hdeadline : c.deadline nowNs = .ok deadlineNs) (id : ℕ) :
    c.startHint session (makeLeave id c.workspace.protocolEpoch t) nowNs
      = (.ok .applied, { c with
          inbound := some (.hint session deadlineNs (makeLeave id c.workspace.protocolEpoch t)
            (makeEnter id c.workspace.protocolEpoch t) t) }) := by
  have hauthority : c.validateLeaveAuthority session (makeLeave id c.workspace.protocolEpoch t)
      = .ok () := by
    unfold validateLeaveAuthority
    simp [makeLeave, h.sourceHost, h.authority hactive houtbound]
  unfold CoordinatorCore.startHint
  simp only [hauthority, h.resolveLeave hsession, hdeadline]
  rfl

end

/-! ## Proposals -/

variable [DecidableEq B]

/-- The pending record of a proposal over `session`: its messages and the
    crossing they describe. -/
structure Proposes (session : B) (c : CoordinatorCore B) (p : PendingOutbound B) : Prop where
  bound : p.session = session
  id : p.transitionId = c.lastOutboundSequence
  positive : 0 < p.transitionId
  representable : p.transitionId < u64Size
  leave : p.leave = makeLeave p.transitionId c.workspace.protocolEpoch p.transition
  enter : p.enter = makeEnter p.transitionId c.workspace.protocolEpoch p.transition
  crossing : ∃ w, c.workspace.transition p.transition.sourceDisplay p.transition.sourceEdge
    (.finite p.transition.normalizedPosition) = .ok w
    ∧ p.transition = ResolvedTransition.ofWorkspaceTransition w
  sourceHost : p.transition.sourceHost = c.workspaceState.localHost
  destinationHost : p.transition.destinationHost = remoteHostId session

/-- The outcomes of `propose_leave`. -/
inductive ProposeSpec (c : CoordinatorCore B) (session : B) (nowNs : ℕ) :
    HandoffResult B (CoreEffect B) → Prop
  | refused (e : PointerHandoffErrorKind) : ProposeSpec c session nowNs (.error e, c.tick nowNs)
  | exhausted : c.outbound = none → c.inbound = none →
    c.workspaceState.activeHost = c.workspaceState.localHost →
    ProposeSpec c session nowNs (.error .sequenceExhausted, (c.tick nowNs).failLocal)
  | offered (p : PendingOutbound B) : c.outbound = none → c.inbound = none →
    c.workspaceState.activeHost = c.workspaceState.localHost → p.phase = .leaveQueued →
    Proposes session { c with lastOutboundSequence := c.lastOutboundSequence + 1 } p →
    ProposeSpec c session nowNs (.ok (c.effect session p.transitionId .leave (.leave p.leave)),
      { c.tick nowNs with
        lastOutboundSequence := c.lastOutboundSequence + 1
        outbound := some p })

theorem proposeLeave_spec (ht : c.Timely nowNs)
    (havailable : c.requireAvailableSession session = .ok ()) (edge : Edge) (position : F64) :
    ProposeSpec c session nowNs (c.proposeLeave session edge position nowNs) := by
  unfold proposeLeave
  rw [ht.withSession havailable]
  split_ifs with hpending hauthority
  · exact .refused _
  · exact .refused _
  rw [Bool.or_eq_true, not_or, Bool.not_eq_true, Option.isSome_eq_false_iff,
    Option.isNone_iff_eq_none, Bool.not_eq_true, Option.isSome_eq_false_iff,
    Option.isNone_iff_eq_none] at hpending
  have hactive : c.workspaceState.activeHost = c.workspaceState.localHost := by
    rw [Bool.or_eq_true, not_or] at hauthority
    have hlocal : (c.tick nowNs).hasLocalAuthority = true := by simpa using hauthority.1
    exact beq_iff_eq.mp (Bool.and_eq_true _ _ ▸ hlocal).1
  split
  · exact .refused _
  next w hw =>
  simp only
  split_ifs with hhosts
  · exact .refused _
  rw [not_or, not_not, not_not] at hhosts
  unfold startOutbound nextOutboundSequence
  cases hnext : checkedAdd (c.tick nowNs).lastOutboundSequence 1 with
  | none => exact .exhausted hpending.1 hpending.2 hactive
  | some next =>
    obtain ⟨rfl, hsize⟩ := checkedAdd_eq_some.mp hnext
    simp only [ht.deadline_ok]
    obtain ⟨hdisplay, hedge, hposition, -, -⟩ := ConfiguredWorkspace.transition_ok hw
    refine .offered {
      session
      transitionId := c.lastOutboundSequence + 1
      deadlineNs := nowNs + c.config.timeoutNs
      leave := _
      enter := _
      acceptedAck := none
      transition := ResolvedTransition.ofWorkspaceTransition w
      phase := .leaveQueued } hpending.1 hpending.2 hactive rfl ?_
    refine ⟨rfl, rfl, Nat.succ_pos _, hsize, rfl, rfl, ⟨w, ?_, rfl⟩, hhosts.1, hhosts.2⟩
    rw [← hw, hposition]
    exact congrArg₂ (fun d e => c.workspace.transition d e _) hdisplay hedge

/-! ## Receiving -/

variable (htimely : c.Timely nowNs) (havailable : c.requireAvailableSession session = .ok ())

include htimely havailable

/-- The next leave of the peer becomes a hint. -/
theorem receiveLeave_hints {id : ℕ} (h : Incoming session c t)
    (hreply : c.reply = none) (houtbound : c.outbound = none) (hinbound : c.inbound = none)
    (hnext : id = c.lastInboundSequence + 1) (hid : id < u64Size)
    (hactive : c.workspaceState.activeHost = c.workspaceState.localHost
      ∨ c.workspaceState.activeHost = remoteHostId session) :
    c.receiveLeave session (makeLeave id c.workspace.protocolEpoch t) nowNs
      = (.ok .applied, { c.tick nowNs with
          inbound := some (.hint session (nowNs + c.config.timeoutNs)
            (makeLeave id c.workspace.protocolEpoch t)
            (makeEnter id c.workspace.protocolEpoch t) t) }) := by
  have hsession := (requireAvailableSession_ok.mp havailable).2.1
  have hclass : (c.tick nowNs).classifyInboundSequence
      (makeLeave id c.workspace.protocolEpoch t).transitionId
      (makeLeave id c.workspace.protocolEpoch t).sequence = (.ok .next, c.tick nowNs) :=
    classifyInboundSequence_next hnext hid rfl
  have hhint := (h.tick nowNs).startHint hactive hsession houtbound htimely.deadline_ok id
  refine Eq.trans ?_ hhint
  unfold receiveLeave
  rw [htimely.withSession havailable]
  simp only [tick_reply, hreply, hclass, tick_outbound, houtbound, tick_inbound, hinbound,
    Option.isSome_none, Bool.false_eq_true, if_false]
  rfl

/-- The enter that a hint expects is accepted. -/
theorem receiveEnter_accepts (hreply : c.reply = none) (houtbound : c.outbound = none)
    (hinbound : c.inbound = some (.hint session deadlineNs leave enter t))
    (hnext : enter.transitionId = c.lastInboundSequence + 1)
    (hid : enter.transitionId < u64Size) (hsequence : enter.sequence = enter.transitionId) :
    c.receiveEnter session enter nowNs
      = (.ok (c.effect session enter.transitionId .acceptedAck
            (.ack (makeAck enter c.workspaceState.localHost .accepted))),
          { c.tick nowNs with
            lastInboundSequence := enter.transitionId
            inbound := some (.proposal session deadlineNs
              (makeLeave enter.transitionId c.workspace.protocolEpoch t) enter
              (makeAck enter c.workspaceState.localHost .accepted) t) }) := by
  have haccept : c.receiveEnter session enter nowNs
      = (.ok ((c.tick nowNs).acceptEnter session enter t deadlineNs).1,
          ((c.tick nowNs).acceptEnter session enter t deadlineNs).2) := by
    unfold receiveEnter
    rw [htimely.withSession havailable]
    simp only [tick_reply, hreply, tick_outbound, houtbound, tick_inbound, hinbound,
      classifyInboundSequence_next (c := c.tick nowNs) hnext hid hsequence, Option.isSome_none,
      Bool.false_eq_true, if_false, enterWithPending, acceptEnterFromHint, and_self, if_true, ne_eq,
      not_true_eq_false, or_self]
  rw [haccept]
  rfl

omit [SessionBinding B] in
/-- The acknowledgement of an accepted proposal queues its commit. -/
theorem receiveAck_answers (houtbound : c.outbound = some p)
    (hbound : p.session = session) (hphase : p.phase = .awaitingAck)
    (henter : p.enter.transitionId = p.transitionId)
    (hnew : ∀ done, c.completedOutbound = some done → done.ack.transitionId ≠ p.transitionId) :
    c.receiveAck session (makeAck p.enter p.transition.destinationHost .accepted) nowNs
      = (.ok (.commit (c.effect session p.transitionId .commit
            (.commit (makeCommit p.enter p.transition)))),
          { c.tick nowNs with outbound := some { p with
              phase := .commitQueued
              acceptedAck :=
                some (makeAck p.enter p.transition.destinationHost .accepted) } }) := by
  have hfresh : c.receiveAck session (makeAck p.enter p.transition.destinationHost .accepted) nowNs
      = (c.tick nowNs).ackOutbound session
        (makeAck p.enter p.transition.destinationHost .accepted) := by
    unfold receiveAck
    rw [htimely.withSession havailable]
    split
    next done hdone => exact if_neg fun hsame => hnew done hdone (hsame.symm.trans henter)
    · rfl
  rw [hfresh]
  unfold ackOutbound
  simp only [tick_outbound, houtbound, hbound, hphase, henter, makeAck, ne_eq, not_true_eq_false,
    or_self, if_false, answerOutbound]
  rfl

omit [SessionBinding B] in
/-- The commit that is prepared for completes the handoff. -/
theorem receiveCommit_completes (hinbound : c.inbound
      = some (.prepared session deadlineNs leave enter ack (makeCommit enter t) t))
    (hid : enter.transitionId ≠ 0)
    (hnew : ∀ commit, c.completedCommit = some commit → commit.transitionId ≠ enter.transitionId) :
    c.receiveCommit session (makeCommit enter t) nowNs
      = (.ok .applied, { c.tick nowNs with
          inbound := none
          workspaceState := c.workspaceState.setActivePointer t.destinationHost t.destinationPointer
          localFallback := t.destinationPointer
          completedInbound := some ⟨session, some leave, enter, ack,
            some (makeCommit enter t)⟩ }) := by
  have hvalid : ¬ ((makeCommit enter t).transitionId = 0
      ∨ (makeCommit enter t).transitionId ≠ (makeCommit enter t).sequence) :=
    not_or.mpr ⟨hid, not_not.mpr rfl⟩
  have hfresh : c.receiveCommit session (makeCommit enter t) nowNs
      = (c.tick nowNs).commitPrepared session (makeCommit enter t) := by
    unfold receiveCommit
    rw [htimely.withSession havailable, if_neg hvalid]
    split
    next done hdone =>
      refine if_neg fun hsame => ?_
      cases hprevious : done.commit with
      | none => simp [hprevious] at hsame
      | some previous =>
        have hdone' : c.completedInbound = some done := hdone
        have hsame' : previous.transitionId = (makeCommit enter t).transitionId := by
          simpa [hprevious] using hsame
        exact hnew previous (by rw [completedCommit, hdone']; exact hprevious) hsame'
    · rfl
  rw [hfresh]
  unfold commitPrepared
  simp only [tick_inbound, hinbound, ne_eq, not_true_eq_false, or_self, if_false]
  rfl

/-! ## Dispatching -/

omit [SessionBinding B]

variable {ε : Type} {effect : CoreEffect B} {transport : WireMessage → Bool → Except ε Unit}

omit havailable in
theorem Timely.validateEffectReady (howner : effect.owner = c.owner)
    (havailable : c.requireAvailableSession effect.session = .ok ())
    (hmatches : c.effectMatches effect = true) :
    c.validateEffectReady effect nowNs = (.ok (), c.tick nowNs) := by
  have howner' : (c.tick nowNs).validateEffectOwner effect = .ok () := if_pos howner.symm
  have havailable' : (c.tick nowNs).requireAvailableSession effect.session = .ok () := havailable
  have hmatches' : (c.tick nowNs).effectMatches effect = true := hmatches
  unfold CoordinatorCore.validateEffectReady
  simp only [htimely.prepareOperation, howner', havailable', hmatches', if_true]

omit havailable in
/-- An effect other than a commit that the transport takes. -/
theorem dispatchEffect_sends {completion : CoreEffectCompletion B} (howner : effect.owner = c.owner)
    (havailable : c.requireAvailableSession effect.session = .ok ())
    (hmatches : c.effectMatches effect = true) (hpurpose : effect.purpose ≠ .commit)
    (htaken : ∀ authority, transport effect.message.wireMessage authority = .ok ())
    (hcomplete : (c.tick nowNs).completeEffect effect = (.ok completion, c')) :
    c.dispatchEffect effect nowNs transport = ⟨.ok completion, c', some effect.message⟩ := by
  have hsent : (c.tick nowNs).effectSent effect nowNs = (.ok completion, c') :=
    (htimely.current.effectSent (if_pos howner.symm) havailable).trans hcomplete
  unfold dispatchEffect
  rw [htimely.validateEffectReady howner havailable hmatches]
  simp only
  rw [if_neg hpurpose]
  unfold dispatchReady
  simp only [htaken, hsent]

variable (htaken : ∀ message authority, transport message authority = .ok ())

include htaken

/-- The transport takes the leave of a proposal. -/
theorem dispatchEffect_leave (houtbound : c.outbound = some p)
    (hbound : p.session = session) (hphase : p.phase = .leaveQueued) :
    c.dispatchEffect (c.effect session p.transitionId .leave (.leave p.leave)) nowNs transport
      = ⟨.ok (.next (c.effect session p.transitionId .enter (.enter p.enter))),
        { c.tick nowNs with outbound := some { p with phase := .enterQueued } },
        some (.leave p.leave)⟩ := by
  refine dispatchEffect_sends htimely rfl havailable ?_ nofun (fun _ => htaken _ _) ?_
  · exact matchesOutboundEffect_iff.mpr ⟨p, houtbound, hbound, rfl, .leave hphase⟩
  · unfold completeEffect leaveEffectSent
    simp only [tick_outbound, houtbound, hbound, hphase, CoordinatorCore.effect, ne_eq,
      not_true_eq_false, or_self, if_false]
    rfl

/-- The transport takes the enter of a proposal. -/
theorem dispatchEffect_enter (houtbound : c.outbound = some p)
    (hbound : p.session = session) (hphase : p.phase = .enterQueued) :
    c.dispatchEffect (c.effect session p.transitionId .enter (.enter p.enter)) nowNs transport
      = ⟨.ok .sent, { c.tick nowNs with outbound := some { p with phase := .awaitingAck } },
        some (.enter p.enter)⟩ := by
  refine dispatchEffect_sends htimely rfl havailable ?_ nofun (fun _ => htaken _ _) ?_
  · exact matchesOutboundEffect_iff.mpr ⟨p, houtbound, hbound, rfl, .enter hphase⟩
  · unfold completeEffect enterEffectSent
    simp only [tick_outbound, houtbound, hbound, hphase, CoordinatorCore.effect, ne_eq,
      not_true_eq_false, or_self, if_false]

/-- The transport takes the acknowledgement of an accepted enter. -/
theorem dispatchEffect_ack
    (hinbound : c.inbound = some (.proposal session deadlineNs leave enter ack t)) :
    c.dispatchEffect (c.effect session enter.transitionId .acceptedAck (.ack ack)) nowNs transport
      = ⟨.ok .sent, { c.tick nowNs with
          inbound := some (.prepared session deadlineNs leave enter ack (makeCommit enter t) t) },
        some (.ack ack)⟩ := by
  refine dispatchEffect_sends htimely rfl havailable ?_ nofun (fun _ => htaken _ _) ?_
  · exact matchesInboundAckEffect_iff.mpr ⟨_, _, _, _, _, hinbound, rfl, rfl⟩
  · unfold completeEffect acceptedAckSent
    simp only [tick_inbound, hinbound, CoordinatorCore.effect, ne_eq, not_true_eq_false, or_self,
      if_false]

/-- A commit that the transport takes moves authority to the destination. -/
theorem dispatchEffect_commits (houtbound : c.outbound = some p) (hbound : p.session = session)
    (hphase : p.phase = .commitQueued) (hack : p.acceptedAck = some ack)
    (heffect : effect = c.effect session p.transitionId .commit
      (.commit (makeCommit p.enter p.transition))) :
    c.dispatchEffect effect nowNs transport
      = ⟨.ok .authorityCommitted,
        { c.tick nowNs with
          outbound := none
          workspaceState := c.workspaceState.setActivePointer p.transition.destinationHost
            p.transition.destinationPointer
          completedOutbound := some ⟨session, ack⟩ },
        some (.commit (makeCommit p.enter p.transition))⟩ := by
  have howner : effect.owner = c.owner := by rw [heffect]; rfl
  have hsession : effect.session = session := by rw [heffect]; rfl
  have hid : effect.transitionId = p.transitionId := by rw [heffect]; rfl
  have hpurpose : effect.purpose = .commit := by rw [heffect]; rfl
  have hmessage : effect.message = .commit (makeCommit p.enter p.transition) := by
    rw [heffect]; rfl
  rw [← hsession] at havailable
  have hmatch : c.matchesOutboundEffect effect = true := by
    refine matchesOutboundEffect_iff.mpr ⟨p, houtbound, hbound.trans hsession.symm, hid.symm, ?_⟩
    rw [hpurpose, hmessage]
    exact .commit (.inl hphase)
  have hmatches : c.effectMatches effect = true := by
    simp [effectMatches, hpurpose, hmatch, houtbound, hphase]
  -- The record as `begin_commit_dispatch` leaves it.
  obtain ⟨q, hq⟩ : ∃ q, q = { p with phase := .commitDispatching } := ⟨_, rfl⟩
  obtain ⟨c₁, hc₁⟩ : ∃ c₁, c₁ = { c.tick nowNs with outbound := some q } := ⟨_, rfl⟩
  have houtbound₁ : c₁.outbound = some q := by rw [hc₁]
  have hbegin : (c.tick nowNs).beginCommitDispatch effect = (.ok (), c₁) := by
    unfold beginCommitDispatch
    simp only [tick_outbound, houtbound, hphase, hbound, hsession, hid, hmessage, ne_eq,
      not_true_eq_false, or_self, if_false, hc₁, hq]
  have hcurrent : c₁.Current nowNs := by
    refine ⟨by rw [hc₁]; rfl, ?_⟩
    rw [← htimely.pending, timeouts, timeouts, houtbound, hc₁, hq]
    rfl
  have hcomplete : c₁.completeEffect effect = (.ok .authorityCommitted,
      { c.tick nowNs with
        outbound := none
        workspaceState := c.workspaceState.setActivePointer p.transition.destinationHost
          p.transition.destinationPointer
        completedOutbound := some ⟨session, ack⟩ }) := by
    have hmatch₁ : c₁.matchesOutboundEffect effect = true := by
      refine matchesOutboundEffect_iff.mpr ⟨q, houtbound₁, ?_⟩
      rw [hpurpose, hmessage, hq]
      exact ⟨hbound.trans hsession.symm, hid.symm, .commit (.inr rfl)⟩
    have hcommitting : c₁.committing = true := by
      rw [committing, houtbound₁, hq]
      rfl
    have hack' : q.acceptedAck = some ack := by rw [hq]; exact hack
    unfold completeEffect commitEffectSent
    simp only [hpurpose, hmatch₁, hcommitting, Bool.not_true, Bool.or_self, Bool.false_eq_true,
      if_false, houtbound₁, hack']
    rw [hc₁, hq]
    simp only [hbound]
    rfl
  have howner₁ : c₁.validateEffectOwner effect = .ok () := by
    rw [hc₁]
    exact if_pos howner.symm
  have havailable₁ : c₁.requireAvailableSession effect.session = .ok () := by
    rw [hc₁]
    exact havailable
  have hsent := (hcurrent.effectSent howner₁ havailable₁).trans hcomplete
  unfold dispatchEffect
  rw [htimely.validateEffectReady howner havailable hmatches]
  simp only [hpurpose, if_true, hbegin, dispatchReady, htaken, hsent, hmessage]

end CoordinatorCore

end SoftwareKvm
