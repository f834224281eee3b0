import SoftwareKvm.Handoff.Core

/-!
# What an operation can do to authority

Every operation of the coordinator except a commit stands in the relation
`Keeps` to the state it starts from: the active host stays or becomes the local
host, a pending outbound transition is the one that was pending or carries a
new sequence number, a pending inbound one has the local host as destination,
and the commit last applied stays recorded or is forgotten.

* `expire_keeps`, `withSession_keeps`: the opening of an operation.
* `receive_keeps`: the receive operations other than `receive_commit`.
* `receiveCommit_ok`, `dispatchEffect_cases`: the two ends of a commit.
-/

namespace SoftwareKvm

open Lib

namespace CoordinatorCore

variable {B : Type} {c c' c'' : CoordinatorCore B} {session : B} {nowNs : ℕ}

/-- The commit of the last inbound transition that was completed. -/
def completedCommit (c : CoordinatorCore B) : Option PointerTransitionCommitV1 :=
  c.completedInbound.bind CompletedInbound.commit

/-- A coordinator that has just been bound to its first session. -/
structure FreshlyBound [SessionBinding B] (session : B) (c : CoordinatorCore B) : Prop where
  valid : validateState c.workspace c.workspaceState c.localFallback = .ok ()
  localHost : c.workspaceState.localHost = localHostId session
  remoteHost : remoteHostId session ≠ localHostId session
  lifecycle : c.lifecycle = .running
  session : c.session = some session
  sessionHealthy : c.sessionHealthy = true
  lastNowNs : c.lastNowNs = 0
  lastOutboundSequence : c.lastOutboundSequence = 0
  lastInboundSequence : c.lastInboundSequence = 0
  outbound : c.outbound = none
  inbound : c.inbound = none
  completedOutbound : c.completedOutbound = none
  completedInbound : c.completedInbound = none
  expiredInbound : c.expiredInbound = none
  reply : c.reply = none

/-- What every operation other than a commit keeps. -/
structure Keeps (c c' : CoordinatorCore B) : Prop where
  localHost : c'.workspaceState.localHost = c.workspaceState.localHost
  activeHost : c'.workspaceState.activeHost = c.workspaceState.activeHost
    ∨ c'.workspaceState.activeHost = c.workspaceState.localHost
  session : c'.session = c.session ∨ c'.session = none
  sequence : c.lastOutboundSequence ≤ c'.lastOutboundSequence
  outbound : ∀ p', c'.outbound = some p' →
    (∃ p, c.outbound = some p ∧ p'.transitionId = p.transitionId ∧ p'.enter = p.enter
      ∧ c'.lastOutboundSequence = c.lastOutboundSequence)
    ∨ p'.transitionId = c'.lastOutboundSequence ∧ p'.enter.transitionId = c'.lastOutboundSequence
      ∧ c.lastOutboundSequence < c'.lastOutboundSequence
  inbound : ∀ p', c'.inbound = some p' →
    (∃ p, c.inbound = some p ∧ p'.transition = p.transition)
    ∨ p'.transition.destinationHost = c.workspaceState.localHost
  completed : c'.completedCommit = c.completedCommit ∨ c'.completedCommit = none

namespace Keeps

theorem refl (c : CoordinatorCore B) : Keeps c c where
  localHost := rfl
  activeHost := .inl rfl
  session := .inl rfl
  sequence := le_rfl
  outbound p hp := .inl ⟨p, hp, rfl, rfl, rfl⟩
  inbound p hp := .inl ⟨p, hp, rfl⟩
  completed := .inl rfl

theorem trans (h : Keeps c c') (h' : Keeps c' c'') : Keeps c c'' where
  localHost := h'.localHost.trans h.localHost
  activeHost := by
    have := h.activeHost
    have := h'.activeHost
    have := h.localHost
    grind
  session := by
    have := h.session
    have := h'.session
    grind
  sequence := h.sequence.trans h'.sequence
  outbound p'' hp'' := by
    rcases h'.outbound p'' hp'' with ⟨p', hp', hid', henter', hseq'⟩ | ⟨hid', henter', hlt⟩
    · rcases h.outbound p' hp' with ⟨p, hp, hid, henter, hseq⟩ | ⟨hid, henter, hlt⟩
      · exact .inl ⟨p, hp, hid'.trans hid, henter'.trans henter, hseq'.trans hseq⟩
      · exact .inr ⟨by rw [hid', hid, hseq'], by rw [henter', henter, hseq'], hseq' ▸ hlt⟩
    · exact .inr ⟨hid', henter', h.sequence.trans_lt hlt⟩
  inbound p'' hp'' := by
    rcases h'.inbound p'' hp'' with ⟨p', hp', ht'⟩ | hlocal
    · rcases h.inbound p' hp' with ⟨p, hp, ht⟩ | hlocal
      · exact .inl ⟨p, hp, ht'.trans ht⟩
      · exact .inr (ht' ▸ hlocal)
    · exact .inr (hlocal.trans h.localHost)
  completed := by
    have := h.completed
    have := h'.completed
    grind

/-- The pending outbound transition is dropped. -/
theorem dropOutbound (c : CoordinatorCore B) : Keeps c { c with outbound := none } :=
  { refl c with outbound := fun _ hp => nomatch hp }

/-- The pending reply is dropped. -/
theorem dropReply (c : CoordinatorCore B) : Keeps c { c with reply := none } :=
  { refl c with }

/-- The pending outbound transition changes its phase. -/
theorem setOutbound {p : PendingOutbound B} (p' : PendingOutbound B) (hp : c.outbound = some p)
    (hid : p'.transitionId = p.transitionId) (henter : p'.enter = p.enter) :
    Keeps c { c with outbound := some p' } := by
  refine { refl c with outbound := fun q hq => ?_ }
  cases hq
  exact .inl ⟨p, hp, hid, henter, rfl⟩

/-- The pending inbound transition is replaced; the inbound sequence number is free. -/
theorem setInbound {inbound : Option (PendingInbound B)} (sequence : ℕ)
    (h : ∀ p', inbound = some p' → (∃ p, c.inbound = some p ∧ p'.transition = p.transition)
      ∨ p'.transition.destinationHost = c.workspaceState.localHost) :
    Keeps c { c with inbound, lastInboundSequence := sequence } :=
  { refl c with inbound := h }

/-- The pending inbound transition is dropped. -/
theorem dropInbound (c : CoordinatorCore B) (sequence : ℕ) :
    Keeps c { c with inbound := none, lastInboundSequence := sequence } :=
  setInbound sequence fun _ hp => nomatch hp

end Keeps

/-! ## Sessions and expiry -/

section

variable (c session nowNs)

theorem failLocal_keeps : Keeps c c.failLocal :=
  { Keeps.refl c with activeHost := .inr rfl }

theorem clearTransitionState_keeps : Keeps c c.clearTransitionState :=
  { Keeps.refl c with
    outbound := fun _ hp => nomatch hp
    inbound := fun _ hp => nomatch hp
    completed := .inr rfl }

theorem dropSession_keeps : Keeps c c.dropSession :=
  { clearTransitionState_keeps c with activeHost := .inr rfl, session := .inr rfl }

theorem replaceWorkspace_keeps (workspace : ConfiguredWorkspace) (fallback : LogicalPointer) :
    Keeps c (c.replaceWorkspace workspace fallback).2 := by
  fun_cases replaceWorkspace c workspace fallback
  · exact .refl c
  · exact .refl c
  · exact .refl c
  · refine Keeps.trans ?_ (clearTransitionState_keeps _)
    refine Keeps.trans ?_ (failLocal_keeps _)
    exact { Keeps.refl _ with }

theorem expireInbound_keeps : Keeps c c.expireInbound := by
  fun_cases expireInbound c
  · exact .refl c
  next pending _ =>
    have hdrop := Keeps.dropInbound c
      (if pending.isHint then pending.leave.transitionId else c.lastInboundSequence)
    exact hdrop.trans { Keeps.refl _ with }

theorem expire_keeps : Keeps c (c.expire nowNs).2 := by
  have hoptional {b : Bool} {f : CoordinatorCore B → CoordinatorCore B}
      (hf : ∀ c, Keeps c (f c)) (c : CoordinatorCore B) : Keeps c (if b then f c else c) := by
    split
    · exact hf c
    · exact .refl c
  refine Keeps.trans ?_ (hoptional failLocal_keeps _)
  refine Keeps.trans ?_ (hoptional Keeps.dropReply _)
  exact (hoptional Keeps.dropOutbound c).trans (hoptional expireInbound_keeps _)

theorem advance_keeps : Keeps c (CoordinatorCore.expire { c with lastNowNs := nowNs } nowNs).2 := by
  refine Keeps.trans ?_ (expire_keeps _ nowNs)
  exact { Keeps.refl _ with }

theorem prepareOperation_keeps : Keeps c (c.prepareOperation nowNs).2 := by
  unfold prepareOperation advanceClock
  split_ifs
  · exact .refl c
  · exact advance_keeps c nowNs

theorem pollTimeout_keeps : Keeps c (c.pollTimeout nowNs).2 := by
  unfold pollTimeout advanceClock
  split_ifs
  · exact .refl c
  · exact advance_keeps c nowNs

theorem observeLocalPointer_keeps (pointer : LogicalPointer) :
    Keeps c (c.observeLocalPointer pointer).2 := by
  fun_cases observeLocalPointer c pointer
  case case6 =>
    exact { Keeps.refl c with activeHost := .inr rfl }
  all_goals exact .refl c

end

/-- The clock stands at `nowNs` and nothing has expired. -/
structure Current (c : CoordinatorCore B) (nowNs : ℕ) : Prop where
  clock : c.lastNowNs = nowNs
  timely : c.timeouts nowNs = ⟨false, false, false⟩

theorem expire_of_timely (h : c.timeouts nowNs = ⟨false, false, false⟩) :
    c.expire nowNs = (⟨false, false, false⟩, c) := by
  unfold expire
  rw [h]
  rfl

theorem Current.prepareOperation (h : c.Current nowNs) :
    c.prepareOperation nowNs = (.ok (), c) := by
  obtain ⟨rfl, htimely⟩ := h
  unfold CoordinatorCore.prepareOperation advanceClock
  rw [if_neg (lt_irrefl _)]
  exact congrArg (fun r => (Except.ok (), r.2)) (expire_of_timely htimely)

section

variable (c nowNs)

/-- What `expire` leaves pending is what has not expired. -/
theorem expire_pending :
    (c.expire nowNs).2.outbound = c.outbound.filter (fun p => nowNs < p.deadlineNs)
      ∧ (c.expire nowNs).2.inbound = c.inbound.filter (fun p => nowNs < p.deadlineNs)
      ∧ (c.expire nowNs).2.reply = c.reply.filter (fun p => nowNs < p.deadlineNs)
      ∧ (c.expire nowNs).2.lastNowNs = c.lastNowNs := by
  have hfilter {α : Type} (o : Option α) (deadline : α → ℕ) :
      o.filter (fun p => nowNs < deadline p)
        = if o.any (fun p => deadline p ≤ nowNs) then none else o := by
    cases o with
    | none => rfl
    | some p => by_cases h : deadline p ≤ nowNs <;> simp [Option.filter, h]
  rw [hfilter, hfilter, hfilter]
  unfold expire timeouts expireInbound failLocal
  grind

theorem expire_timely : (c.expire nowNs).2.timeouts nowNs = ⟨false, false, false⟩ := by
  have hfilter {α : Type} (o : Option α) (deadline : α → ℕ) :
      (o.filter (fun p => nowNs < deadline p)).any (fun p => deadline p ≤ nowNs) = false := by
    cases o with
    | none => rfl
    | some p => by_cases h : nowNs < deadline p <;> simp [Option.filter, h]
  obtain ⟨houtbound, hinbound, hreply, -⟩ := expire_pending c nowNs
  rw [timeouts, houtbound, hinbound, hreply, hfilter, hfilter, hfilter]

end

theorem prepareOperation_current (h : c.prepareOperation nowNs = (.ok (), c')) :
    c'.Current nowNs := by
  unfold prepareOperation advanceClock at h
  split_ifs at h
  · cases h
  · cases h
    exact ⟨(expire_pending _ nowNs).2.2.2, expire_timely _ nowNs⟩

variable [DecidableEq B]

theorem requireSession_ok : c.requireSession session = .ok () ↔ c.session = some session := by
  unfold requireSession
  split
  next h => simp [h]
  next current h =>
    rw [h, Option.some.injEq]
    split_ifs with hne
    · exact iff_of_false nofun hne
    · exact iff_of_true rfl (not_not.mp hne)

theorem requireAvailableSession_ok : c.requireAvailableSession session = .ok ()
    ↔ c.lifecycle = .running ∧ c.session = some session ∧ c.sessionHealthy = true := by
  unfold requireAvailableSession ensureRunning
  rw [← requireSession_ok]
  by_cases hrunning : c.lifecycle = .running
  · rw [if_pos hrunning]
    cases c.requireSession session with
    | error e => simp
    | ok => cases c.sessionHealthy <;> simp [hrunning]
  · rw [if_neg hrunning]
    simp [hrunning]

section

variable (c session nowNs)

theorem disconnectSession_keeps : Keeps c (c.disconnectSession session).2 := by
  fun_cases disconnectSession c session
  · exact .refl c
  · exact dropSession_keeps c

/-- After `disconnect_session` the session is not bound. -/
theorem disconnectSession_unbound : (c.disconnectSession session).2.session ≠ some session := by
  fun_cases disconnectSession c session
  next e herror =>
    rintro (h : c.session = some session)
    rw [requireSession_ok.mpr h] at herror
    cases herror
  · exact nofun

theorem degradeSession_keeps : Keeps c (c.degradeSession session).2 := by
  fun_cases degradeSession c session
  · exact .refl c
  · refine Keeps.trans ?_ (clearTransitionState_keeps _)
    refine Keeps.trans ?_ (failLocal_keeps _)
    exact { Keeps.refl _ with }

theorem markSessionHealthy_keeps : Keeps c (c.markSessionHealthy session).2 := by
  fun_cases markSessionHealthy c session
  · exact .refl c
  · exact .refl c
  · exact .refl c
  · exact { Keeps.refl _ with }

/-- An operation of a session keeps what its body keeps. -/
theorem withSession_keeps {α : Type} {body : CoordinatorCore B → HandoffResult B α}
    (hbody : ∀ c, Keeps c (body c).2) : Keeps c (c.withSession session nowNs body).2 := by
  have hprepared := prepareOperation_keeps c nowNs
  unfold withSession
  generalize c.prepareOperation nowNs = r at hprepared ⊢
  obtain ⟨_ | _, c₁⟩ := r
  · exact hprepared
  · simp only
    split
    · exact hprepared
    · exact hprepared.trans (hbody c₁)

end

/-! ## Proposals and received messages -/

variable [SessionBinding B]

theorem proposeLeave_keeps (c : CoordinatorCore B) (session : B) (edge : Edge) (position : F64)
    (nowNs : ℕ) : Keeps c (c.proposeLeave session edge position nowNs).2 := by
  refine withSession_keeps c session nowNs fun c => ?_
  split_ifs
  · exact .refl c
  · exact .refl c
  · split
    · exact .refl c
    · simp only
      split_ifs
      · exact .refl c
      · unfold startOutbound nextOutboundSequence
        cases hnext : checkedAdd c.lastOutboundSequence 1 with
        | none => exact failLocal_keeps c
        | some next =>
          obtain ⟨rfl, -⟩ := checkedAdd_eq_some.mp hnext
          simp only
          split
          · exact .refl c
          · refine { Keeps.refl c with sequence := Nat.le_succ _, outbound := fun p hp => .inr ?_ }
            cases hp
            exact ⟨rfl, rfl, Nat.lt_succ_self _⟩

variable {t : ResolvedTransition} {effect : CoreEffect B}

omit [DecidableEq B] in
theorem validateResolvedDestination_ok (h : c.validateResolvedDestination t = .ok ()) :
    t.destinationHost = c.workspaceState.localHost := by
  unfold validateResolvedDestination at h
  split at h
  · cases h
  · split_ifs at h with hwrong
    exact not_not.mp (not_or.mp hwrong).2

omit [DecidableEq B] in
theorem resolveEnter_ok {message : PointerEnterV1}
    (h : c.resolveEnter message = .ok t) : t.destinationHost = c.workspaceState.localHost := by
  unfold resolveEnter at h
  split at h
  · cases h
  · cases h
  · split at h
    · cases h
    next hvalid =>
      cases h
      exact validateResolvedDestination_ok hvalid

section

variable (c session)

omit [DecidableEq B] [SessionBinding B] in
/-- Classifying a sequence number fails or changes nothing. -/
theorem classifyInboundSequence_keeps (id sequence : ℕ) :
    Keeps c (c.classifyInboundSequence id sequence).2 := by
  unfold classifyInboundSequence
  split_ifs
  · exact .refl c
  · exact .refl c
  · split
    · exact clearTransitionState_keeps c
    · split_ifs <;> exact .refl c

omit [DecidableEq B] in
theorem startHint_keeps (message : PointerLeaveV1) (nowNs : ℕ) :
    Keeps c (c.startHint session message nowNs).2 := by
  fun_cases startHint c session message nowNs
  case case4 t ht _ _ _ =>
    refine Keeps.setInbound c.lastInboundSequence fun p hp => .inr ?_
    cases hp
    unfold resolveLeave at ht
    split at ht
    · cases ht
    · simp only at ht
      split at ht
      · cases ht
      next hvalid =>
        cases ht
        exact validateResolvedDestination_ok hvalid
  all_goals exact .refl c

theorem receiveLeave_keeps (message : PointerLeaveV1) (nowNs : ℕ) :
    Keeps c (c.receiveLeave session message nowNs).2 := by
  refine withSession_keeps c session nowNs fun c => ?_
  have hclass := classifyInboundSequence_keeps c message.transitionId message.sequence
  split_ifs
  · exact .refl c
  · generalize c.classifyInboundSequence message.transitionId message.sequence = r at hclass
    obtain ⟨_ | _ | _, c₁⟩ := r
    · exact hclass
    · exact hclass
    · simp only
      split_ifs
      · exact hclass
      · split
        · exact hclass
        · exact hclass.trans (startHint_keeps c₁ session message nowNs)

end

omit [SessionBinding B] [DecidableEq B] in
/-- A proposal may replace a record of the same transition, or be about a
    transition to this host. -/
theorem acceptEnter_keeps (session : B) (message : PointerEnterV1)
    (deadlineNs : ℕ) (h : (∃ p, c.inbound = some p ∧ t = p.transition)
      ∨ t.destinationHost = c.workspaceState.localHost) :
    Keeps c (c.acceptEnter session message t deadlineNs).2 := by
  refine Keeps.setInbound message.transitionId fun p hp => ?_
  cases hp
  exact h

section

variable (c session)

omit [SessionBinding B] in
theorem acceptEnterFromHint_keeps (message : PointerEnterV1) :
    Keeps c (c.acceptEnterFromHint session message).2 := by
  fun_cases acceptEnterFromHint c session message
  · exact .refl c
  next deadlineNs _ _ t hinbound _ _ _ haccept =>
    have hkeeps : Keeps c (c.acceptEnter session message t deadlineNs).2 :=
      acceptEnter_keeps session message deadlineNs (.inl ⟨_, hinbound, rfl⟩)
    rwa [haccept] at hkeeps
  · exact Keeps.dropInbound c c.lastInboundSequence

omit [SessionBinding B] [DecidableEq B] in
theorem repeatAck_keeps (message : PointerEnterV1) (ack : PointerTransitionAckV1) :
    Keeps c (c.repeatAck session message ack).2 := by
  fun_cases repeatAck c session message ack
  · exact .refl c
  · exact { Keeps.refl _ with }

omit [SessionBinding B] in
theorem duplicateEnter_keeps (message : PointerEnterV1) :
    Keeps c (c.duplicateEnter session message).2 := by
  have hcompleted : Keeps c (c.duplicateCompletedEnter session message).2 := by
    fun_cases duplicateCompletedEnter c session message
    case case2 => exact repeatAck_keeps c session message _
    all_goals exact .refl c
  fun_cases duplicateEnter c session message
  · exact .refl c
  · exact .refl c
  · exact hcompleted
  · exact repeatAck_keeps c session message _
  · exact hcompleted
  · exact hcompleted

omit [SessionBinding B] [DecidableEq B] in
theorem rejectionEffect_keeps (enter : PointerEnterV1) (outcome : PointerTransitionOutcomeV1) :
    Keeps c (c.rejectionEffect session enter outcome).2 := by
  fun_cases rejectionEffect c session enter outcome
  · exact .refl c
  · exact clearTransitionState_keeps c
  · exact (Keeps.dropInbound c enter.transitionId).trans { Keeps.refl _ with }

theorem receiveEnter_keeps (message : PointerEnterV1) (nowNs : ℕ) :
    Keeps c (c.receiveEnter session message nowNs).2 := by
  refine withSession_keeps c session nowNs fun c => ?_
  have hclass := classifyInboundSequence_keeps c message.transitionId message.sequence
  split
  · exact .refl c
  · generalize c.classifyInboundSequence message.transitionId message.sequence = r at hclass
    obtain ⟨_ | _ | _, c₁⟩ := r
    · exact hclass
    · exact hclass.trans (duplicateEnter_keeps c₁ session message)
    · simp only
      refine hclass.trans ?_
      split_ifs
      · exact rejectionEffect_keeps c₁ session message .rejected
      · split
        next pending _ =>
          fun_cases enterWithPending c₁ session message pending
          · exact acceptEnterFromHint_keeps c₁ session message
          · exact rejectionEffect_keeps c₁ session message .rejected
          · exact .refl c₁
          · exact rejectionEffect_keeps c₁ session message .rejected
          · exact rejectionEffect_keeps c₁ session message .rejected
        · fun_cases enterWithoutHint c₁ session message nowNs
          · exact rejectionEffect_keeps c₁ session message _
          · exact rejectionEffect_keeps c₁ session message _
          · exact .refl c₁
          next ht deadlineNs _ _ _ haccept =>
            have hkeeps := acceptEnter_keeps session message deadlineNs (.inr (resolveEnter_ok ht))
            rwa [haccept] at hkeeps

end

/-! ## Commits -/

/-- An applied commit is the one that was prepared: it moves authority to this
    host and is recorded, and nothing else that `Keeps` reads changes. -/
structure Applies (c : CoordinatorCore B) (commit : PointerTransitionCommitV1)
    (c' : CoordinatorCore B) : Prop where
  localHost : c'.workspaceState.localHost = c.workspaceState.localHost
  activeHost : ∃ p, c.inbound = some p
    ∧ c'.workspaceState.activeHost = p.transition.destinationHost
  session : c'.session = c.session
  sequence : c'.lastOutboundSequence = c.lastOutboundSequence
  outbound : c'.outbound = c.outbound
  inbound : c'.inbound = none
  completed : c'.completedCommit = some commit

omit [SessionBinding B] in
/-- `receive_commit` succeeds on a commit that was applied before and on the
    one that was prepared. -/
theorem receiveCommit_ok {commit : PointerTransitionCommitV1} {status : PointerHandoffStatus}
    (h : c.receiveCommit session commit nowNs = (.ok status, c')) :
    ∃ c₁, Keeps c c₁ ∧ (c₁ = c' ∧ c₁.completedCommit = some commit ∨ Applies c₁ commit c') := by
  have hkeeps := prepareOperation_keeps c nowNs
  unfold receiveCommit withSession at h
  generalize c.prepareOperation nowNs = r at hkeeps h
  obtain ⟨_ | _, c₁⟩ := r
  · cases h
  refine ⟨c₁, hkeeps, ?_⟩
  simp only at h
  split at h
  · cases h
  have hprepared (h : c₁.commitPrepared session commit = (.ok status, c')) :
      Applies c₁ commit c' := by
    unfold commitPrepared at h
    split at h
    next hinbound =>
      split_ifs at h with hwrong
      · cases h
      · obtain rfl := not_not.mp (not_or.mp hwrong).2
        cases h
        exact ⟨rfl, ⟨_, hinbound, rfl⟩, rfl, rfl, rfl, rfl, rfl⟩
    · cases h
  split at h
  · cases h
  split at h
  next completed hcompleted =>
    split_ifs at h with hsame hduplicate
    · cases h
      exact .inl ⟨rfl, by rw [completedCommit, hcompleted]; exact hduplicate.2⟩
    · cases h
    · exact .inr (hprepared h)
  · exact .inr (hprepared h)

/-! ## Dispatching effects -/

omit [SessionBinding B]

theorem effectFailed_keeps (c : CoordinatorCore B) (effect : CoreEffect B) :
    Keeps c (c.effectFailed effect).2 := by
  have houtbound := (Keeps.dropOutbound c).trans (failLocal_keeps { c with outbound := none })
  fun_cases effectFailed c effect
  case case4 | case6 | case8 => exact houtbound
  case case10 => exact Keeps.dropInbound c c.lastInboundSequence
  case case12 | case14 => exact Keeps.dropReply c
  all_goals exact .refl c

/-- The effect of a pending outbound transition in its phase. -/
inductive PhaseEffect (p : PendingOutbound B) : EffectPurpose → PointerControlMessage → Prop
  | leave : p.phase = .leaveQueued → PhaseEffect p .leave (.leave p.leave)
  | enter : p.phase = .enterQueued → PhaseEffect p .enter (.enter p.enter)
  | commit : p.phase = .commitQueued ∨ p.phase = .commitDispatching →
    PhaseEffect p .commit (.commit (makeCommit p.enter p.transition))

theorem matchesOutboundEffect_iff :
    c.matchesOutboundEffect effect = true ↔ ∃ p, c.outbound = some p ∧ p.session = effect.session
      ∧ p.transitionId = effect.transitionId ∧ PhaseEffect p effect.purpose effect.message := by
  obtain ⟨owner, session, id, purpose, message⟩ := effect
  unfold matchesOutboundEffect
  cases c.outbound with
  | none => simp
  | some p =>
    simp only [Option.any_some, Bool.and_eq_true, decide_eq_true_eq, Option.some.injEq,
      exists_eq_left', and_assoc]
    refine and_congr_right fun _ => and_congr_right fun _ => ⟨fun h => ?_, fun h => ?_⟩
    · split at h
      next hphase => exact of_decide_eq_true h ▸ .leave hphase
      next hphase => exact of_decide_eq_true h ▸ .enter hphase
      next hphase => exact of_decide_eq_true h ▸ .commit (.inl hphase)
      next hphase => exact of_decide_eq_true h ▸ .commit (.inr hphase)
      · cases h
    · cases h with
      | leave hphase => rw [hphase]; exact decide_eq_true rfl
      | enter hphase => rw [hphase]; exact decide_eq_true rfl
      | commit hphase =>
        rcases hphase with hphase | hphase <;> rw [hphase] <;> exact decide_eq_true rfl

theorem matchesInboundAckEffect_iff :
    c.matchesInboundAckEffect effect = true ↔ ∃ deadlineNs leave enter ack t,
      c.inbound = some (.proposal effect.session deadlineNs leave enter ack t)
        ∧ enter.transitionId = effect.transitionId ∧ effect.message = .ack ack := by
  unfold matchesInboundAckEffect
  split
  next session deadlineNs leave enter ack t hinbound =>
    grind
  next hother =>
    refine iff_of_false Bool.false_ne_true ?_
    rintro ⟨deadlineNs, leave, enter, ack, t, hinbound, -⟩
    exact hother _ _ _ _ _ _ hinbound

/-- The messages of effects other than a commit are not commits. -/
theorem effectMatches_message (h : c.effectMatches effect = true)
    (hpurpose : effect.purpose ≠ .commit) (commit : PointerTransitionCommitV1) :
    effect.message ≠ .commit commit := by
  have houtbound (h : c.matchesOutboundEffect effect = true) : effect.message ≠ .commit commit := by
    obtain ⟨p, -, -, -, hphase⟩ := matchesOutboundEffect_iff.mp h
    generalize effect.purpose = purpose, effect.message = message at hphase hpurpose ⊢
    cases hphase with
    | leave | enter => exact nofun
    | commit => exact absurd rfl hpurpose
  have hreply (h : c.matchesReplyEffect effect = true) : effect.message ≠ .commit commit := by
    intro hmessage
    rw [matchesReplyEffect, Option.any_eq_true, hmessage] at h
    obtain ⟨r, -, h⟩ := h
    cases hack : r.message <;> simp [hack] at h
  unfold effectMatches at h
  split at h
  · exact houtbound h
  · exact houtbound h
  · obtain ⟨_, _, _, ack, _, _, _, hmessage⟩ := matchesInboundAckEffect_iff.mp h
    rw [hmessage]
    exact nofun
  next hcommit => exact absurd hcommit hpurpose
  · exact hreply h
  · exact hreply h

/-- Completing an effect other than a commit. -/
theorem completeEffect_keeps (c : CoordinatorCore B)
    (hpurpose : effect.purpose ≠ .commit) : Keeps c (c.completeEffect effect).2 := by
  have hreply : Keeps c (c.replyEffectSent effect).2 := by
    have hdrop := Keeps.dropReply c
    fun_cases replyEffectSent c effect
    · exact .refl c
    · exact .refl c
    · exact { hdrop with completed := .inr rfl }
    · exact hdrop
    · exact hdrop
  unfold completeEffect
  split
  · fun_cases leaveEffectSent c effect
    · exact .refl c
    · exact .refl c
    next hpending _ => exact Keeps.setOutbound _ hpending rfl rfl
  · fun_cases enterEffectSent c effect
    · exact .refl c
    · exact .refl c
    next hpending _ => exact Keeps.setOutbound _ hpending rfl rfl
  · fun_cases acceptedAckSent c effect
    · exact .refl c
    next hpending _ =>
      refine Keeps.setInbound c.lastInboundSequence fun p hp => .inl ⟨_, hpending, ?_⟩
      cases hp
      rfl
    · exact Keeps.dropInbound c c.lastInboundSequence
  next h => exact absurd h hpurpose
  · exact hreply
  · exact hreply

/-- Sending an effect other than a commit. -/
theorem effectSent_keeps (c : CoordinatorCore B) (nowNs : ℕ)
    (hpurpose : effect.purpose ≠ .commit) : Keeps c (c.effectSent effect nowNs).2 := by
  have hprepared := prepareOperation_keeps c nowNs
  unfold effectSent
  generalize c.prepareOperation nowNs = r at hprepared ⊢
  obtain ⟨_ | _, c₁⟩ := r
  · exact hprepared
  simp only
  split
  · exact hprepared
  split
  · exact hprepared
  · exact hprepared.trans (completeEffect_keeps c₁ hpurpose)

/-- A ready effect is completed as soon as it is sent. -/
theorem Current.effectSent (hcurrent : c.Current nowNs)
    (howner : c.validateEffectOwner effect = .ok ())
    (havailable : c.requireAvailableSession effect.session = .ok ()) :
    c.effectSent effect nowNs = c.completeEffect effect := by
  unfold CoordinatorCore.effectSent
  rw [hcurrent.prepareOperation]
  simp only [howner, havailable]

/-- A commit that the transport has taken ends the pending outbound transition
    whose number it carries. -/
structure Commits (c : CoordinatorCore B) (commit : PointerTransitionCommitV1)
    (c' : CoordinatorCore B) : Prop where
  pending : ∃ p, c.outbound = some p ∧ commit.transitionId = p.enter.transitionId
  localHost : c'.workspaceState.localHost = c.workspaceState.localHost
  session : c'.session = c.session
  sequence : c'.lastOutboundSequence = c.lastOutboundSequence
  outbound : c'.outbound = none
  inbound : c'.inbound = c.inbound
  completed : c'.completedInbound = c.completedInbound

theorem validateEffectReady_keeps (c : CoordinatorCore B) (effect : CoreEffect B) (nowNs : ℕ) :
    Keeps c (c.validateEffectReady effect nowNs).2 := by
  have hprepared := prepareOperation_keeps c nowNs
  unfold validateEffectReady
  generalize c.prepareOperation nowNs = r at hprepared ⊢
  obtain ⟨_ | _, c₁⟩ := r
  · exact hprepared
  simp only
  split
  · exact hprepared
  split
  · exact hprepared
  · exact hprepared

/-- What `validate_effect_ready` has checked. -/
theorem validateEffectReady_ok (h : c.validateEffectReady effect nowNs = (.ok (), c')) :
    c'.Current nowNs ∧ c'.validateEffectOwner effect = .ok ()
      ∧ c'.requireAvailableSession effect.session = .ok () ∧ c'.effectMatches effect = true := by
  have hprepared := @prepareOperation_current _ c c' nowNs
  unfold validateEffectReady at h
  generalize c.prepareOperation nowNs = r at hprepared h
  obtain ⟨_ | _, c₁⟩ := r
  · cases h
  simp only at h
  split at h
  · cases h
  next howner =>
  split at h
  · cases h
  next havailable =>
  split_ifs at h with hmatches
  · cases h
    exact ⟨hprepared rfl, howner, havailable, hmatches⟩
  · cases h

/-- Once a commit is being dispatched, sending it ends the transition. -/
theorem effectSent_commits {p : PendingOutbound B}
    (hcurrent : c.Current nowNs) (howner : c.validateEffectOwner effect = .ok ())
    (havailable : c.requireAvailableSession effect.session = .ok ())
    (hpurpose : effect.purpose = .commit) (hpending : c.outbound = some p)
    (hphase : p.phase = .commitDispatching) (hmatches : c.matchesOutboundEffect effect = true) :
    Commits c (makeCommit p.enter p.transition) (c.effectSent effect nowNs).2 := by
  have hcommitting : c.committing = true := by
    rw [committing, hpending, Option.any_some, hphase]
    rfl
  rw [hcurrent.effectSent howner havailable, completeEffect, hpurpose]
  unfold commitEffectSent
  rw [hmatches, hcommitting, if_neg (by decide), hpending]
  simp only
  split <;> exact ⟨⟨p, hpending, rfl⟩, rfl, rfl, rfl, rfl, rfl, rfl⟩

/-- The coordinator that a dispatch ends with, and the message it has sent. -/
theorem dispatchReady_cases {ε : Type} (c : CoordinatorCore B) (effect : CoreEffect B) (nowNs : ℕ)
    (dispatch : WireMessage → Bool → Except ε Unit) :
    ((c.dispatchReady effect nowNs dispatch).core = (c.effectFailed effect).2
      ∧ (c.dispatchReady effect nowNs dispatch).sent = none)
    ∨ ((c.dispatchReady effect nowNs dispatch).core = (c.effectSent effect nowNs).2
      ∧ (c.dispatchReady effect nowNs dispatch).sent = some effect.message) := by
  unfold dispatchReady
  cases dispatch effect.message.wireMessage c.hasLocalAuthority with
  | error error =>
    left
    generalize c.effectFailed effect = r
    obtain ⟨_ | _, c₁⟩ := r <;> exact ⟨rfl, rfl⟩
  | ok =>
    right
    generalize c.effectSent effect nowNs = r
    obtain ⟨_ | _, c₁⟩ := r <;> exact ⟨rfl, rfl⟩

/-- A dispatch sends no commit and keeps what every operation keeps, or it
    sends the commit of the pending outbound transition. -/
theorem dispatchEffect_cases {ε : Type} (c : CoordinatorCore B) (effect : CoreEffect B) (nowNs : ℕ)
    (dispatch : WireMessage → Bool → Except ε Unit) :
    (Keeps c (c.dispatchEffect effect nowNs dispatch).core
      ∧ ∀ m, (c.dispatchEffect effect nowNs dispatch).sent ≠ some (.commit m))
    ∨ ∃ c₁ m, Keeps c c₁ ∧ (c.dispatchEffect effect nowNs dispatch).sent = some (.commit m)
      ∧ Commits c₁ m (c.dispatchEffect effect nowNs dispatch).core := by
  have hready := validateEffectReady_keeps c effect nowNs
  unfold dispatchEffect
  generalize hr : c.validateEffectReady effect nowNs = r at hready
  obtain ⟨_ | _, c₁⟩ := r
  · exact .inl ⟨hready, nofun⟩
  obtain ⟨hcurrent, howner, havailable, hmatches⟩ := validateEffectReady_ok hr
  simp only
  split_ifs with hpurpose
  · -- a commit effect that is ready names the queued commit of the pending transition
    unfold effectMatches at hmatches
    simp only [hpurpose, Bool.and_eq_true] at hmatches
    obtain ⟨p, hpending, hsession, hid, hphase⟩ := matchesOutboundEffect_iff.mp hmatches.1
    have hqueued : p.phase = .commitQueued := by simpa [hpending] using hmatches.2
    have hmessage : effect.message = .commit (makeCommit p.enter p.transition) := by
      rw [hpurpose] at hphase
      generalize effect.message = message at hphase ⊢
      cases hphase
      rfl
    have hbegin : c₁.beginCommitDispatch effect
        = (.ok (), { c₁ with outbound := some { p with phase := .commitDispatching } }) := by
      unfold beginCommitDispatch
      rw [hpending]
      simp [hqueued, hsession, hid, hmessage]
    rw [hbegin]
    have hbegun := hready.trans
      (Keeps.setOutbound { p with phase := .commitDispatching } hpending rfl rfl)
    obtain ⟨hcore, hsent⟩ | ⟨hcore, hsent⟩ := dispatchReady_cases
      { c₁ with outbound := some { p with phase := .commitDispatching } } effect nowNs dispatch
    · left
      rw [hcore, hsent]
      exact ⟨hbegun.trans (effectFailed_keeps _ effect), nofun⟩
    · right
      rw [hcore, hsent, hmessage]
      refine ⟨_, _, hbegun, rfl, ?_⟩
      refine effectSent_commits (p := { p with phase := .commitDispatching }) ?_ howner havailable
        hpurpose rfl rfl ?_
      · exact ⟨hcurrent.clock, by rw [← hcurrent.timely, timeouts, timeouts, hpending]; rfl⟩
      · refine matchesOutboundEffect_iff.mpr ⟨_, rfl, hsession, hid, ?_⟩
        rw [hpurpose, hmessage]
        exact .commit (.inr rfl)
  · left
    obtain ⟨hcore, hsent⟩ | ⟨hcore, hsent⟩ := dispatchReady_cases c₁ effect nowNs dispatch
    · rw [hcore, hsent]
      exact ⟨hready.trans (effectFailed_keeps c₁ effect), nofun⟩
    · rw [hcore, hsent]
      refine ⟨hready.trans (effectSent_keeps c₁ nowNs hpurpose), fun m hm => ?_⟩
      exact effectMatches_message hmatches hpurpose m (Option.some.inj hm)

end CoordinatorCore

end SoftwareKvm
