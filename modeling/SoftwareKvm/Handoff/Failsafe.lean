import SoftwareKvm.Handoff.Phases

/-!
# The failsafe in the middle of a handoff

`cancel_handoff_for_failsafe` degrades the session of the pointer and marks it
healthy again at once. That takes authority back and forgets every record of a
transition, but keeps the last numbers sent and received, so the messages that
the peer has sent before are judged by their numbers alone.

* `failsafe_keeps_session`: in every state of an undisturbed session, the
  messages on their way to the side that cancels are received without failure
  exactly when none of them is an acknowledgement or a commit, and the side has
  local authority afterwards in any case.
* `failsafe_loses_session`: a handoff that is cancelled by its source between
  the acknowledgement's sending and its arrival.
-/

namespace SoftwareKvm

open Lib

/-- The message answers or settles an offer. -/
def PointerControlMessage.isAckOrCommit : PointerControlMessage → Bool
  | .leave _ => false
  | .enter _ => false
  | .ack _ => true
  | .commit _ => true

namespace CoordinatorCore

variable {B : Type} [DecidableEq B] {c c' : CoordinatorCore B} {session : B} {nowNs : ℕ}

/-! ## Cancelling -/

/-- `cancel_handoff_for_failsafe`, as far as the coordinator is concerned. -/
def cancelHandoffForFailsafe (c : CoordinatorCore B) (session : B) : HandoffResult B Unit :=
  match c.degradeSession session with
  | (.error e, c) => (.error e, c)
  | (.ok _, c) =>
    match c.markSessionHealthy session with
    | (.error e, c) => (.error e, c)
    | (.ok _, c) => (.ok (), c)

/-- The coordinator of an available session after its handoff has been cancelled. -/
def cancelled (c : CoordinatorCore B) : CoordinatorCore B :=
  { c.failLocal.clearTransitionState with sessionHealthy := true }

theorem cancelHandoffForFailsafe_available (h : c.requireAvailableSession session = .ok ()) :
    c.cancelHandoffForFailsafe session = (.ok (), c.cancelled) := by
  obtain ⟨hrunning, hsession, -⟩ := requireAvailableSession_ok.mp h
  have hdegraded : ({ c with sessionHealthy := false } :
      CoordinatorCore B).failLocal.clearTransitionState.requireSession session = .ok () :=
    requireSession_ok.mpr hsession
  have hhealthy : ({ c with sessionHealthy := false } :
      CoordinatorCore B).failLocal.clearTransitionState.markSessionHealthy session
        = (.ok .applied, c.cancelled) := by
    unfold markSessionHealthy
    rw [show ({ c with sessionHealthy := false } :
      CoordinatorCore B).failLocal.clearTransitionState.ensureRunning = .ok () from if_pos hrunning]
    simp only [hdegraded]
    rfl
  unfold cancelHandoffForFailsafe degradeSession
  simp only [requireSession_ok.mpr hsession, hhealthy]

/-! ## The messages that are still on their way -/

variable [SessionBinding B]

/-- The messages arrive one after the other, each with the time of its arrival;
    a failure ends the session. -/
def receiveAll (session : B) :
    CoordinatorCore B → List (PointerControlMessage × ℕ) →
      HandoffResult B Unit
  | c, [] => (.ok (), c)
  | c, (message, nowNs) :: rest =>
    match c.receive session message nowNs with
    | (.error e, c) => (.error e, (c.disconnectSession session).2)
    | (.ok _, c) => receiveAll session c rest

/-- No deadline is reached while the messages arrive. -/
def TimelyArrivals (session : B) (c : CoordinatorCore B)
    (arrivals : List (PointerControlMessage × ℕ)) : Prop :=
  Admissible (fun c arrival => c.Timely arrival.2)
    (fun c arrival => (c.receive session arrival.1 arrival.2).2) c arrivals

/-- The session is available, and the side has local authority and offers nothing. -/
structure Regained (session : B) (c : CoordinatorCore B) : Prop where
  available : c.requireAvailableSession session = .ok ()
  active : c.workspaceState.activeHost = c.workspaceState.localHost
  outbound : c.outbound = none

omit [DecidableEq B] [SessionBinding B] in
theorem hasLocalAuthority_of_active
    (hactive : c.workspaceState.activeHost = c.workspaceState.localHost)
    (houtbound : c.outbound = none) : c.hasLocalAuthority = true := by
  unfold hasLocalAuthority committing
  simp [hactive, houtbound]

omit [SessionBinding B] in
/-- The end of a session gives the side local authority. -/
theorem disconnectSession_authority (h : c.requireAvailableSession session = .ok ()) :
    (c.disconnectSession session).2.hasLocalAuthority = true := by
  have hsession := (requireAvailableSession_ok.mp h).2.1
  unfold disconnectSession
  simp only [requireSession_ok.mpr hsession]
  exact hasLocalAuthority_of_active rfl rfl

/-- One message that is received. -/
theorem receiveAll_ok {message : PointerControlMessage} {effects : List (CoreEffect B)}
    (h : c.receive session message nowNs = (.ok effects, c'))
    (rest : List (PointerControlMessage × ℕ)) :
    receiveAll session c ((message, nowNs) :: rest) = receiveAll session c' rest := by
  rw [receiveAll, h]

/-- One message that fails. -/
theorem receiveAll_error {message : PointerControlMessage} {e : PointerHandoffErrorKind}
    (h : c.receive session message nowNs = (.error e, c.tick nowNs))
    (hregained : Regained session c) (rest : List (PointerControlMessage × ℕ)) :
    (receiveAll session c ((message, nowNs) :: rest)).1 = .error e
      ∧ (receiveAll session c ((message, nowNs) :: rest)).2.hasLocalAuthority = true := by
  rw [receiveAll, h]
  exact ⟨rfl, disconnectSession_authority hregained.available⟩

section

variable (htimely : c.Timely nowNs) (hregained : Regained session c)

include htimely hregained

/-- An acknowledgement that finds neither an offer nor a record of one fails. -/
theorem receive_ack_unexpected (hcompleted : c.completedOutbound = none)
    (ack : PointerTransitionAckV1) :
    ∃ e, c.receive session (.ack ack) nowNs = (.error e, c.tick nowNs) := by
  have hcompleted' : (c.tick nowNs).completedOutbound = none := hcompleted
  have hack : ∃ e, c.receiveAck session ack nowNs = (.error e, c.tick nowNs) := by
    unfold receiveAck
    rw [htimely.withSession hregained.available]
    simp only [hcompleted', ackOutbound, tick_outbound, hregained.outbound]
    exact ⟨_, rfl⟩
  obtain ⟨e, hack⟩ := hack
  exact ⟨e, congrArg (withEffects CoreAckOutcome.effects) hack⟩

/-- A commit that finds no record of its transition fails. -/
theorem receive_commit_unexpected
    (hinbound : c.inbound = none) (hcompleted : c.completedInbound = none)
    (commit : PointerTransitionCommitV1) :
    ∃ e, c.receive session (.commit commit) nowNs = (.error e, c.tick nowNs) := by
  have hcompleted' : (c.tick nowNs).completedInbound = none := hcompleted
  have hcommit : ∃ e, c.receiveCommit session commit nowNs = (.error e, c.tick nowNs) := by
    unfold receiveCommit
    rw [htimely.withSession hregained.available]
    simp only [hcompleted', commitPrepared, tick_inbound, hinbound]
    split_ifs
    · exact ⟨_, rfl⟩
    · exact ⟨_, rfl⟩
  obtain ⟨e, hcommit⟩ := hcommit
  exact ⟨e, congrArg (withEffects fun _ => []) hcommit⟩

/-- An enter whose leave has left no record is accepted or rejected. -/
theorem receiveEnter_unannounced {enter : PointerEnterV1} (hreply : c.reply = none)
    (hinbound : c.inbound = none) (hnext : enter.transitionId = c.lastInboundSequence + 1)
    (hid : enter.transitionId < u64Size) (hsequence : enter.sequence = enter.transitionId) :
    ∃ effect c', c.receiveEnter session enter nowNs = (.ok effect, c')
      ∧ c'.workspaceState = c.workspaceState ∧ c'.outbound = none := by
  have hclock : (c.tick nowNs).deadline (c.tick nowNs).lastNowNs
      = .ok (nowNs + c.config.timeoutNs) := htimely.deadline_ok
  have hreject (outcome : PointerTransitionOutcomeV1) : ∃ effect c',
      (c.tick nowNs).rejectionEffect session enter outcome = (.ok effect, c')
        ∧ c'.workspaceState = c.workspaceState ∧ c'.outbound = none := by
    unfold rejectionEffect
    rw [tick_reply, hreply, if_neg (by simp), hclock]
    exact ⟨_, _, rfl, rfl, hregained.outbound⟩
  have hunfold : c.receiveEnter session enter nowNs
      = (c.tick nowNs).enterWithoutHint session enter nowNs := by
    unfold receiveEnter
    rw [htimely.withSession hregained.available]
    simp only [tick_reply, hreply, tick_outbound, hregained.outbound, tick_inbound, hinbound,
      classifyInboundSequence_next (c := c.tick nowNs) hnext hid hsequence, Option.isSome_none,
      Bool.false_eq_true, if_false]
  rw [hunfold]
  unfold enterWithoutHint
  cases (c.tick nowNs).validateEnterAuthority session enter with
  | error e => exact hreject _
  | ok =>
    cases (c.tick nowNs).resolveEnter enter with
    | error e => exact hreject _
    | ok transition =>
      simp only [htimely.deadline_ok]
      exact ⟨_, _, rfl, rfl, hregained.outbound⟩

end

end CoordinatorCore

namespace Endpoint

open CoordinatorCore

variable {B : Type} [DecidableEq B] [SessionBinding B] {a b : Endpoint B}

/-- What `b` can have on its way to `a`. -/
inductive InFlight (a b : Endpoint B) : Prop
  | nothing : b.link = [] → InFlight a b
  | offer (p : PendingOutbound B) : Proposes b.session b.core p →
    p.transitionId = a.core.lastInboundSequence + 1 →
    (b.link = [.leave p.leave] ∨ b.link = [.leave p.leave, .enter p.enter]
      ∨ b.link = [.enter p.enter]) → InFlight a b
  | ack (message : PointerTransitionAckV1) : b.link = [.ack message] → InFlight a b
  | commit (message : PointerTransitionCommitV1) : b.link = [.commit message] → InFlight a b

/-- A single message arrives once. -/
theorem arrivals_singleton {message : PointerControlMessage}
    {arrivals : List (PointerControlMessage × ℕ)} (h : arrivals.map Prod.fst = [message]) :
    ∃ nowNs, arrivals = [(message, nowNs)] := by
  obtain ⟨⟨_, nowNs⟩, rest, rfl, rfl, hrest⟩ := List.map_eq_cons_iff.mp h
  exact ⟨nowNs, by rw [List.map_eq_nil_iff.mp hrest]⟩

variable (h : Honest a b)

include h

theorem Honest.inFlight : InFlight a b := by
  cases h.phase with
  | offering o =>
    cases o.offer' with
    | idle _ _ hlink => exact .nothing hlink
    | pending p _ hproposes hnumber hstage =>
      cases hstage with
      | proposed _ _ hlink => exact .nothing hlink
      | leaveSent _ _ hlink => exact .offer p hproposes hnumber (.inl hlink)
      | enterSent _ _ hlink => exact .offer p hproposes hnumber (.inr (.inl hlink))
  | answering p o =>
    cases o.stage with
    | hinted _ _ _ _ _ _ _ _ hlink | entering _ _ _ _ _ _ _ _ hlink
    | accepted _ _ _ _ _ _ _ _ _ hlink | committing _ _ _ _ _ _ _ hlink
    | committed _ _ _ _ _ _ hlink => exact .nothing hlink
    | prepared _ _ _ _ _ _ hlink => exact .ack _ hlink
  | answered p o =>
    cases o.stage with
    | hinted _ _ _ _ _ _ hlink | accepted _ _ _ _ _ _ _ hlink | prepared _ _ _ _ hlink
    | committing _ _ _ _ _ hlink => exact .nothing hlink
    | entering _ _ _ hnumber _ _ hlink => exact .offer p o.proposes hnumber (.inr (.inr hlink))
    | committed _ _ _ _ hlink => exact .commit _ hlink

theorem Honest.regained : Regained a.session a.core.cancelled := by
  obtain ⟨hrunning, hsession, -⟩ :=
    requireAvailableSession_ok.mp h.established.available
  exact ⟨requireAvailableSession_ok.mpr ⟨hrunning, hsession, rfl⟩, rfl, rfl⟩

variable {arrivals : List (PointerControlMessage × ℕ)}

section

variable {p : PendingOutbound B} (hp : Proposes b.session b.core p)
  (hnumber : p.transitionId = a.core.lastInboundSequence + 1)

include hp hnumber

/-- After the cancellation, an offer of `b` is heard as if it were the first. -/
theorem Honest.hint_cancelled {nowNs : ℕ} (htimely : a.core.cancelled.Timely nowNs) :
    a.core.cancelled.receive a.session (.leave p.leave) nowNs
      = (.ok [], { a.core.cancelled.tick nowNs with
          inbound := some (.hint a.session (nowNs + a.core.config.timeoutNs) p.leave p.enter
            p.transition) }) := by
  have hepoch : a.core.cancelled.workspace.protocolEpoch = b.core.workspace.protocolEpoch :=
    h.established.protocolEpoch
  have hleave : p.leave
      = makeLeave p.transitionId a.core.cancelled.workspace.protocolEpoch p.transition := by
    rw [hp.leave, hepoch]
  have henter : p.enter
      = makeEnter p.transitionId a.core.cancelled.workspace.protocolEpoch p.transition := by
    rw [hp.enter, hepoch]
  have hincoming : Incoming a.session a.core.cancelled p.transition :=
    ⟨(h.incoming hp).crossing, (h.incoming hp).sourceHost, (h.incoming hp).destinationHost⟩
  have hhint := receiveLeave_hints htimely h.regained.available hincoming rfl rfl rfl
    hnumber hp.representable (.inl rfl)
  rw [← hleave, ← henter] at hhint
  exact congrArg (withEffects fun _ => []) hhint

/-- The messages of an offer are received after the cancellation. -/
theorem Honest.offer_cancelled
    (hlink : b.link = [.leave p.leave] ∨ b.link = [.leave p.leave, .enter p.enter]
      ∨ b.link = [.enter p.enter])
    (harrivals : arrivals.map Prod.fst = b.link)
    (htimely : a.core.cancelled.TimelyArrivals a.session arrivals) :
    (a.core.cancelled.receiveAll a.session arrivals).1 = .ok ()
      ∧ (a.core.cancelled.receiveAll a.session arrivals).2.hasLocalAuthority = true := by
  have henter : p.enter.transitionId = p.transitionId := by rw [hp.enter]; rfl
  have hsequence : p.enter.sequence = p.enter.transitionId := by rw [hp.enter]; rfl
  rcases hlink with hlink | hlink | hlink
  · obtain ⟨t, rfl⟩ := arrivals_singleton (harrivals.trans hlink)
    rw [receiveAll_ok (h.hint_cancelled hp hnumber htimely.1)]
    exact ⟨rfl, hasLocalAuthority_of_active rfl rfl⟩
  · rw [hlink] at harrivals
    obtain ⟨⟨_, t⟩, rest, rfl, rfl, hrest⟩ := List.map_eq_cons_iff.mp harrivals
    obtain ⟨⟨_, t'⟩, rest, rfl, rfl, hnil⟩ := List.map_eq_cons_iff.mp hrest
    obtain rfl := List.map_eq_nil_iff.mp hnil
    obtain ⟨hfirst, hsecond, -⟩ := htimely
    have hhint := h.hint_cancelled hp hnumber hfirst
    rw [receiveAll_ok hhint]
    simp only [hhint] at hsecond
    have hreceive := congrArg (withEffects fun effect => [effect])
      (receiveEnter_accepts hsecond h.regained.available rfl rfl rfl
        (henter.trans hnumber) (henter ▸ hp.representable) hsequence)
    rw [receiveAll, receive, hreceive]
    exact ⟨rfl, hasLocalAuthority_of_active rfl rfl⟩
  · obtain ⟨t, rfl⟩ := arrivals_singleton (harrivals.trans hlink)
    obtain ⟨effect, c', haccept, hstate, houtbound⟩ := receiveEnter_unannounced
      htimely.1 h.regained rfl rfl (henter.trans hnumber) (henter ▸ hp.representable) hsequence
    have hreceive : a.core.cancelled.receive a.session (.enter p.enter) t = (.ok [effect], c') :=
      congrArg (withEffects fun effect => [effect]) haccept
    rw [receiveAll_ok hreceive, receiveAll]
    exact ⟨rfl, hasLocalAuthority_of_active (by rw [hstate]; rfl) houtbound⟩

end

/-- What becomes of the messages on their way to a side that cancels. -/
theorem Honest.arrivals_cancelled (harrivals : arrivals.map Prod.fst = b.link)
    (htimely : a.core.cancelled.TimelyArrivals a.session arrivals) :
    ((a.core.cancelled.receiveAll a.session arrivals).1 = .ok ()
        ↔ ∀ message ∈ b.link, message.isAckOrCommit = false)
      ∧ (a.core.cancelled.receiveAll a.session arrivals).2.hasLocalAuthority = true := by
  cases h.inFlight with
  | nothing hlink =>
    rw [hlink] at harrivals
    obtain rfl := List.map_eq_nil_iff.mp harrivals
    rw [hlink]
    exact ⟨⟨nofun, fun _ => rfl⟩, hasLocalAuthority_of_active rfl rfl⟩
  | offer p hp hnumber hlink =>
    obtain ⟨hok, hauthority⟩ := h.offer_cancelled hp hnumber hlink harrivals htimely
    refine ⟨⟨fun _ message hmessage => ?_, fun _ => hok⟩, hauthority⟩
    rcases hlink with hlink | hlink | hlink <;>
      · rw [hlink] at hmessage
        cases message <;> simp_all [PointerControlMessage.isAckOrCommit]
  | ack ack hlink =>
    obtain ⟨t, rfl⟩ := arrivals_singleton (harrivals.trans hlink)
    obtain ⟨e, hreceive⟩ := receive_ack_unexpected htimely.1 h.regained rfl ack
    obtain ⟨herror, hauthority⟩ := receiveAll_error hreceive h.regained []
    refine ⟨⟨fun hok => ?_, fun hnone => ?_⟩, hauthority⟩
    · rw [herror] at hok
      cases hok
    · cases hnone (.ack ack) (by rw [hlink]; exact List.mem_singleton_self _)
  | commit commit hlink =>
    obtain ⟨t, rfl⟩ := arrivals_singleton (harrivals.trans hlink)
    obtain ⟨e, hreceive⟩ :=
      receive_commit_unexpected htimely.1 h.regained rfl rfl commit
    obtain ⟨herror, hauthority⟩ := receiveAll_error hreceive h.regained []
    refine ⟨⟨fun hok => ?_, fun hnone => ?_⟩, hauthority⟩
    · rw [herror] at hok
      cases hok
    · cases hnone (.commit commit) (by rw [hlink]; exact List.mem_singleton_self _)

end Endpoint

namespace HandoffPair

variable {B : Type} [DecidableEq B] [SessionBinding B] {session : Side → B} {s : HandoffPair B}

/-- Wherever an undisturbed session has come to, one side cancels the handoff.
    What the other side has sent by then is received without failure exactly
    when it holds no acknowledgement and no commit. -/
theorem failsafe_keeps_session (hstart : s.Agreeing session) (actions : List HandoffAction)
    (hrun : Admissible (fun s action => s.Undisturbed action ∧ s.Uncrossed action) (apply session) s
      actions) (side : Side) :
    ∃ c, ((execute (apply session) s actions).core side).cancelHandoffForFailsafe (session side)
        = (.ok (), c)
      ∧ ∀ arrivals, arrivals.map Prod.fst = (execute (apply session) s actions).link side.other →
        c.TimelyArrivals (session side) arrivals →
        ((c.receiveAll (session side) arrivals).1 = .ok ()
            ↔ ∀ message ∈ (execute (apply session) s actions).link side.other,
              message.isAckOrCommit = false)
          ∧ (c.receiveAll (session side) arrivals).2.hasLocalAuthority = true := by
  have hend : (execute (apply session) s actions).Honest session :=
    hrun.invariant (fun s _ hguard hs => hs.apply hguard.1 hguard.2) hstart.honest
  generalize execute (apply session) s actions = s' at hend ⊢
  exact ⟨(s'.core side).cancelled,
    CoordinatorCore.cancelHandoffForFailsafe_available (hend side).established.available,
    fun arrivals harrivals htimely => (hend side).arrivals_cancelled harrivals htimely⟩

open HandoffPair.Sample

/-- The destination cancels while the offer is on its way. -/
theorem failsafe_keeps_session_offer :
    ((((execute (apply binding) start
        ((prepare .left 1).take 3)).core .right).cancelHandoffForFailsafe
          (binding .right)).2.receiveAll (binding .right)
      (((execute (apply binding) start ((prepare .left 1).take 3)).link
        .left).map fun message => (message, 2))).1 = .ok () := by
  obtain ⟨c, hcancel, h⟩ := failsafe_keeps_session start_agreeing
    ((prepare .left 1).take 3) (by decide +kernel) .right
  obtain rfl := congrArg Prod.snd hcancel
  refine (h _ ?_ ?_).1.mpr ?_
  · decide +kernel
  · unfold CoordinatorCore.TimelyArrivals
    decide +kernel
  · decide +kernel

/-- The source cancels when the acknowledgement of its offer has been sent: the
    acknowledgement fails as stale, which ends the session. -/
theorem failsafe_loses_session :
    ∃ s : HandoffPair PointerSessionBinding, s.Agreeing binding ∧ ∃ actions,
      Admissible (fun s action => s.Undisturbed action ∧ s.Uncrossed action) (apply binding)
        s actions
      ∧ ∃ message, (execute (apply binding) s actions).link .right = [message]
        ∧ (((execute (apply binding) s actions).core .left).cancelHandoffForFailsafe
            (binding .left)).1 = .ok ()
        ∧ (((execute (apply binding) s actions).core .left).cancelHandoffForFailsafe
            (binding .left)).2.Timely 1
        ∧ ((((execute (apply binding) s actions).core .left).cancelHandoffForFailsafe
            (binding .left)).2.receive (binding .left) message 1).1
          = .error .staleSequence := by
  refine ⟨start, start_agreeing, prepare .left 1, by decide +kernel,
    .ack ⟨1, 7, rightHost, rightDisplay, .accepted⟩, ?_⟩
  decide +kernel

end HandoffPair

end SoftwareKvm
