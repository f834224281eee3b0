import SoftwareKvm.Handoff.Exchange
import SoftwareKvm.Handoff.Pair

/-!
# The phases of a handoff

Two honest coordinators with the same displays, links and protocol epoch, no
deadline reached and no send refused. The state of the two of them is then one
of a few phases: each side idle or with an unanswered offer, or one side's offer
being answered by the other, from the hint up to the commit.

**Deviation.** A leave that arrives at a side with an offer of its own pending
fails, although the enter that follows it would be rejected in an orderly way:
`receive_leave` (`kvm-daemon/src/pointer_handoff.rs`, lines 810–857) tests for
a pending outbound transition only after the sequence number, and the failure
retires the session.

* `concurrent_proposals_settle`: as long as no leave arrives at a side with an
  offer pending, an arriving message fails exactly when it is such a leave, and
  once everything is sent and has arrived nothing is pending.
* `concurrent_proposals_fail`: two crossing offers.
-/

namespace SoftwareKvm

open Lib

/-- One end of a session: the binding, the coordinator, the effects it holds and
    the messages it has sent that have not arrived. -/
structure Endpoint (B : Type) where
  session : B
  core : CoordinatorCore B
  effects : List (CoreEffect B)
  link : List PointerControlMessage

namespace Endpoint

open CoordinatorCore

variable {B : Type} [DecidableEq B] [SessionBinding B]

/-! ## Phases -/

/-- What holds of the end `a` of an honest session with the end `b` at all times. -/
structure Established (a b : Endpoint B) : Prop where
  available : a.core.requireAvailableSession a.session = .ok ()
  localHost : a.core.workspaceState.localHost = localHostId a.session
  peer : remoteHostId a.session = localHostId b.session
  hosts_ne : localHostId a.session ≠ localHostId b.session
  reply : a.core.reply = none
  active : a.core.workspaceState.activeHost = localHostId a.session
    ∨ a.core.workspaceState.activeHost = localHostId b.session
  displays : a.core.workspace.displays = b.core.workspace.displays
  links : a.core.workspace.links = b.core.workspace.links
  protocolEpoch : a.core.workspace.protocolEpoch = b.core.workspace.protocolEpoch
  answered : ∀ done, a.core.completedOutbound = some done →
    done.ack.transitionId ≤ a.core.lastOutboundSequence
      ∧ (a.core.outbound.isSome → done.ack.transitionId < a.core.lastOutboundSequence)

/-- The effects and messages of an offer that the peer has not seen anything of. -/
inductive Unanswered (a : Endpoint B) (p : PendingOutbound B) : Prop
  | proposed : p.phase = .leaveQueued →
    a.effects = [a.core.effect a.session p.transitionId .leave (.leave p.leave)] →
    a.link = [] → Unanswered a p
  | leaveSent : p.phase = .enterQueued →
    a.effects = [a.core.effect a.session p.transitionId .enter (.enter p.enter)] →
    a.link = [.leave p.leave] → Unanswered a p
  | enterSent : p.phase = .awaitingAck → a.effects = [] →
    a.link = [.leave p.leave, .enter p.enter] → Unanswered a p

/-- The commits that a side has applied have numbers up to `bound`. -/
def CommitsUpTo (a : Endpoint B) (bound : ℕ) : Prop :=
  ∀ commit, a.core.completedCommit = some commit → commit.transitionId ≤ bound

/-- A side that is idle or has an unanswered offer. -/
inductive Offer (a b : Endpoint B) : Prop
  | idle : a.core.outbound = none → a.effects = [] → a.link = [] →
    b.core.lastInboundSequence = a.core.lastOutboundSequence → Offer a b
  | pending (p : PendingOutbound B) : a.core.outbound = some p →
    Proposes a.session a.core p →
    p.transitionId = b.core.lastInboundSequence + 1 → Unanswered a p → Offer a b

/-- Nothing has been answered. -/
structure Offering (a b : Endpoint B) : Prop where
  offer : Offer a b
  offer' : Offer b a
  inbound : a.core.inbound = none
  inbound' : b.core.inbound = none
  applied : CommitsUpTo a a.core.lastInboundSequence
  applied' : CommitsUpTo b b.core.lastInboundSequence

/-- The acknowledgement of an accepted offer. -/
def offerAck (p : PendingOutbound B) : PointerTransitionAckV1 :=
  makeAck p.enter p.transition.destinationHost .accepted

/-- The destination of an offer is prepared for its commit. -/
def Prepared (b : Endpoint B) (p : PendingOutbound B) : Prop :=
  b.core.lastInboundSequence = p.transitionId
    ∧ ∃ deadlineNs leave, b.core.inbound = some (.prepared b.session deadlineNs leave p.enter
        (offerAck p) (makeCommit p.enter p.transition) p.transition)

/-- How far the offer of `a` has been answered by `b`. -/
inductive Stage (a b : Endpoint B) (p : PendingOutbound B) : Prop
  | hinted (deadlineNs : ℕ) : a.core.outbound = some p →
    b.core.inbound = some (.hint b.session deadlineNs p.leave p.enter p.transition) →
    p.transitionId = b.core.lastInboundSequence + 1 → p.phase = .enterQueued →
    a.effects = [a.core.effect a.session p.transitionId .enter (.enter p.enter)] → a.link = [] →
    b.effects = [] → b.link = [] → Stage a b p
  | entering (deadlineNs : ℕ) : a.core.outbound = some p →
    b.core.inbound = some (.hint b.session deadlineNs p.leave p.enter p.transition) →
    p.transitionId = b.core.lastInboundSequence + 1 → p.phase = .awaitingAck →
    a.effects = [] → a.link = [.enter p.enter] → b.effects = [] → b.link = [] → Stage a b p
  | accepted (deadlineNs : ℕ) (leave : PointerLeaveV1) : a.core.outbound = some p →
    b.core.inbound = some (.proposal b.session deadlineNs leave p.enter (offerAck p) p.transition) →
    b.core.lastInboundSequence = p.transitionId → p.phase = .awaitingAck →
    a.effects = [] → a.link = [] →
    b.effects = [b.core.effect b.session p.enter.transitionId .acceptedAck (.ack (offerAck p))] →
    b.link = [] → Stage a b p
  | prepared : a.core.outbound = some p → Prepared b p → p.phase = .awaitingAck →
    a.effects = [] → a.link = [] → b.effects = [] → b.link = [.ack (offerAck p)] → Stage a b p
  | committing : a.core.outbound = some p → Prepared b p → p.phase = .commitQueued →
    p.acceptedAck = some (offerAck p) →
    a.effects = [a.core.effect a.session p.transitionId .commit
      (.commit (makeCommit p.enter p.transition))] →
    a.link = [] → b.effects = [] → b.link = [] → Stage a b p
  | committed : a.core.outbound = none → Prepared b p →
    a.core.workspaceState.activeHost = localHostId b.session → a.effects = [] →
    a.link = [.commit (makeCommit p.enter p.transition)] → b.effects = [] → b.link = [] →
    Stage a b p

/-- The offer of `a` is being answered by `b`, which has none of its own. -/
structure Answering (a b : Endpoint B) (p : PendingOutbound B) : Prop where
  proposes : Proposes a.session a.core p
  stage : Stage a b p
  inbound : a.core.inbound = none
  outbound : b.core.outbound = none
  back : a.core.lastInboundSequence = b.core.lastOutboundSequence
  applied : CommitsUpTo a a.core.lastInboundSequence
  applied' : ∀ commit, b.core.completedCommit = some commit → commit.transitionId < p.transitionId

inductive Phase (a b : Endpoint B) : Prop
  | offering : Offering a b → Phase a b
  | answering (p : PendingOutbound B) : Answering a b p → Phase a b
  | answered (p : PendingOutbound B) : Answering b a p → Phase a b

/-- Two ends of an honest session. -/
structure Honest (a b : Endpoint B) : Prop where
  established : Established a b
  established' : Established b a
  phase : Phase a b

variable {a b : Endpoint B} {nowNs : ℕ}

theorem Honest.symm (h : Honest a b) : Honest b a := by
  refine ⟨h.established', h.established, ?_⟩
  cases h.phase with
  | offering o => exact .offering ⟨o.offer', o.offer, o.inbound', o.inbound, o.applied', o.applied⟩
  | answering p o => exact .answered p o
  | answered p o => exact .answering p o

/-! ## Proposing -/

omit [DecidableEq B] in
/-- An offer does not depend on the clock of its side. -/
theorem Offer.tick (h : Offer a b) (nowNs : ℕ) : Offer { a with core := a.core.tick nowNs } b := by
  cases h with
  | idle houtbound heffects hlink hnumber => exact .idle houtbound heffects hlink hnumber
  | pending p houtbound hproposes hnumber hstage =>
    refine .pending p houtbound { hproposes with } hnumber ?_
    cases hstage with
    | proposed hphase heffects hlink => exact .proposed hphase heffects hlink
    | leaveSent hphase heffects hlink => exact .leaveSent hphase heffects hlink
    | enterSent hphase heffects hlink => exact .enterSent hphase heffects hlink

omit [DecidableEq B] in
/-- Of the other side, an offer reads only the last number received. -/
theorem Offer.of_peer {b' : Endpoint B} (h : Offer a b)
    (hnumber : b'.core.lastInboundSequence = b.core.lastInboundSequence) : Offer a b' := by
  cases h with
  | idle houtbound heffects hlink hseq => exact .idle houtbound heffects hlink (hnumber.trans hseq)
  | pending p houtbound hproposes hseq hstage =>
    exact .pending p houtbound hproposes (by rw [hnumber, hseq]) hstage

variable {p : PendingOutbound B} {message : PointerControlMessage}

omit [DecidableEq B] in
/-- The stage of an answer does not depend on the clocks. -/
theorem Stage.tick (h : Stage a b p) (nowNs nowNs' : ℕ) :
    Stage { a with core := a.core.tick nowNs } { b with core := b.core.tick nowNs' } p := by
  cases h with
  | hinted d h₁ h₂ h₃ h₄ h₅ h₆ h₇ h₈ => exact .hinted d h₁ h₂ h₃ h₄ h₅ h₆ h₇ h₈
  | entering d h₁ h₂ h₃ h₄ h₅ h₆ h₇ h₈ => exact .entering d h₁ h₂ h₃ h₄ h₅ h₆ h₇ h₈
  | accepted d l h₁ h₂ h₃ h₄ h₅ h₆ h₇ h₈ => exact .accepted d l h₁ h₂ h₃ h₄ h₅ h₆ h₇ h₈
  | prepared h₁ h₂ h₃ h₄ h₅ h₆ h₇ => exact .prepared h₁ h₂ h₃ h₄ h₅ h₆ h₇
  | committing h₁ h₂ h₃ h₄ h₅ h₆ h₇ h₈ => exact .committing h₁ h₂ h₃ h₄ h₅ h₆ h₇ h₈
  | committed h₁ h₂ h₃ h₄ h₅ h₆ h₇ => exact .committed h₁ h₂ h₃ h₄ h₅ h₆ h₇

theorem Honest.tick (h : Honest a b) (nowNs : ℕ) :
    Honest { a with core := a.core.tick nowNs } b := by
  refine ⟨{ h.established with }, { h.established' with }, ?_⟩
  cases h.phase with
  | offering o =>
    exact .offering { o with offer := o.offer.tick nowNs, offer' := o.offer'.of_peer rfl }
  | answering p o =>
    exact .answering p { o with
      proposes := { o.proposes with }, stage := o.stage.tick nowNs b.core.lastNowNs }
  | answered p o =>
    exact .answered p { o with stage := o.stage.tick b.core.lastNowNs nowNs }

/-- A side without a pending transition that takes itself for the active host is idle. -/
theorem Honest.idle (h : Honest a b) (houtbound : a.core.outbound = none)
    (hinbound : a.core.inbound = none)
    (hactive : a.core.workspaceState.activeHost = a.core.workspaceState.localHost) :
    Offering a b ∧ a.effects = [] ∧ a.link = []
      ∧ b.core.lastInboundSequence = a.core.lastOutboundSequence := by
  cases h.phase with
  | offering o =>
    refine ⟨o, ?_⟩
    cases o.offer with
    | idle _ heffects hlink hnumber => exact ⟨heffects, hlink, hnumber⟩
    | pending p hp => rw [houtbound] at hp; cases hp
  | answering p o =>
    cases o.stage with
    | hinted _ hp | entering _ hp | accepted _ _ hp | prepared hp | committing hp =>
      rw [houtbound] at hp
      cases hp
    | committed _ _ hactive' =>
      rw [hactive, h.established.localHost] at hactive'
      exact absurd hactive' h.established.hosts_ne
  | answered p o =>
    cases o.stage with
    | hinted _ _ hin | entering _ _ hin | accepted _ _ _ hin =>
      rw [hinbound] at hin
      cases hin
    | prepared _ hprepared | committing _ hprepared | committed _ hprepared =>
      obtain ⟨-, _, _, hin⟩ := hprepared
      rw [hinbound] at hin
      cases hin

/-- A side calls `propose_leave`. -/
def propose (a : Endpoint B) (edge : Edge) (position : F64) (nowNs : ℕ) : Endpoint B :=
  { a with
    core := (a.core.proposeLeave a.session edge position nowNs).2
    effects := a.effects
      ++ (a.core.proposeLeave a.session edge position nowNs).1.toOption.toList }

theorem Honest.propose (h : Honest a b) (htimely : a.core.Timely nowNs) (edge : Edge)
    (position : F64) : Honest (a.propose edge position nowNs) b := by
  have hspec := proposeLeave_spec htimely h.established.available edge position
  unfold Endpoint.propose
  generalize a.core.proposeLeave a.session edge position nowNs = r at hspec ⊢
  cases hspec with
  | refused e =>
    have hsame : a.effects ++ (Except.error e : Except _ (CoreEffect B)).toOption.toList
      = a.effects := List.append_nil _
    rw [hsame]
    exact h.tick nowNs
  | exhausted houtbound hinbound hactive =>
    obtain ⟨o, heffects, hlink, hnumber⟩ := h.idle houtbound hinbound hactive
    refine ⟨{ h.established with active := .inl h.established.localHost }, { h.established' with },
      .offering { o with
        offer := .idle houtbound ?_ hlink hnumber, offer' := o.offer'.of_peer rfl }⟩
    simp [heffects, Except.toOption]
  | offered p houtbound hinbound hactive hphase hproposes =>
    obtain ⟨o, heffects, hlink, hnumber⟩ := h.idle houtbound hinbound hactive
    have hid : p.transitionId = a.core.lastOutboundSequence + 1 := hproposes.id
    have hanswered (done : CompletedOutbound B) (hdone : a.core.completedOutbound = some done) :
        done.ack.transitionId < a.core.lastOutboundSequence + 1 :=
      Nat.lt_succ_of_le (h.established.answered done hdone).1
    refine ⟨{ h.established with
        answered := fun done hdone => ⟨(hanswered done hdone).le, fun _ => hanswered done hdone⟩ },
      { h.established' with }, .offering { o with
        offer := .pending p rfl { hproposes with } (by rw [hid, hnumber])
          (.proposed hphase ?_ hlink)
        offer' := o.offer'.of_peer rfl }⟩
    simp only [heffects, Except.toOption, Option.toList_some, List.nil_append]
    rfl

/-- A pointer is observed only on a side that is idle. -/
theorem Honest.observe (h : Honest a b) (pointer : LogicalPointer) :
    Honest { a with core := (a.core.observeLocalPointer pointer).2 } b := by
  unfold observeLocalPointer
  cases a.core.ensureRunning with
  | error => exact h
  | ok =>
    split_ifs with hauthority hpending hinvalid hsame
    · exact h
    · exact h
    · exact h
    · exact h
    · have hactive : a.core.workspaceState.activeHost = a.core.workspaceState.localHost := by
        simp only [hasLocalAuthority, Bool.not_eq_true', Bool.not_eq_false,
          Bool.and_eq_true, beq_iff_eq] at hauthority
        exact hauthority.1
      obtain ⟨⟨houtbound, hinbound⟩, -⟩ : (a.core.outbound = none ∧ a.core.inbound = none)
          ∧ a.core.reply = none := by
        simpa using hpending
      obtain ⟨o, heffects, hlink, hnumber⟩ := h.idle houtbound hinbound hactive
      exact ⟨{ h.established with active := .inl h.established.localHost }, { h.established' with },
        .offering { o with
          offer := .idle houtbound heffects hlink hnumber, offer' := o.offer'.of_peer rfl }⟩

/-! ## Dispatching -/

/-- The transport takes the message of an effect that the side no longer holds. -/
def send (a : Endpoint B) (effect : CoreEffect B) (rest : List (CoreEffect B)) (nowNs : ℕ) :
    Endpoint B :=
  let done := a.core.dispatchEffect effect nowNs fun _ _ => (.ok () : Except Unit Unit)
  { a with
    core := done.core
    effects := rest ++ done.result.toOption.elim [] CoreEffectCompletion.effects
    link := a.link ++ done.sent.toList }

/-- A side dispatches one of the effects it holds. -/
def dispatch (a : Endpoint B) (index nowNs : ℕ) : Endpoint B :=
  match a.effects[index]? with
  | none => a
  | some effect => a.send effect (a.effects.eraseIdx index) nowNs

omit [SessionBinding B] in
/-- What `send` makes of a dispatch whose outcome is known. -/
theorem send_eq {effect : CoreEffect B} {completion : CoreEffectCompletion B}
    {core : CoordinatorCore B}
    (h : a.core.dispatchEffect effect nowNs (fun _ _ => (.ok () : Except Unit Unit))
      = ⟨.ok completion, core, some message⟩) :
    a.send effect [] nowNs
      = { a with core, effects := completion.effects, link := a.link ++ [message] } := by
  unfold send
  rw [h]
  rfl

/-- The last answer is older than the pending offer. -/
theorem Established.below (h : Established a b) (houtbound : a.core.outbound = some p)
    {done : CompletedOutbound B} (hdone : a.core.completedOutbound = some done) :
    done.ack.transitionId < a.core.lastOutboundSequence :=
  (h.answered done hdone).2 (by rw [houtbound]; rfl)

theorem Honest.dispatch (h : Honest a b) (htimely : a.core.Timely nowNs) (index : ℕ) :
    Honest (a.dispatch index nowNs) b := by
  have hav := h.established.available
  have hnone (heffects : a.effects = []) : Honest (a.dispatch index nowNs) b := by
    unfold Endpoint.dispatch
    rw [heffects]
    exact h
  have hone {effect : CoreEffect B} (heffects : a.effects = [effect])
      (hsend : Honest (a.send effect [] nowNs) b) : Honest (a.dispatch index nowNs) b := by
    unfold Endpoint.dispatch
    rw [heffects]
    cases index with
    | zero => exact hsend
    | succ n => exact h
  -- A step that changes the phase of the pending offer and the messages of `a`.
  have hrephase {p q : PendingOutbound B} {effects : List (CoreEffect B)}
      {link : List PointerControlMessage} (houtbound : a.core.outbound = some p)
      (hphase : Phase { a with
        core := { a.core.tick nowNs with outbound := some q }, effects, link } b) :
      Honest { a with core := { a.core.tick nowNs with outbound := some q }, effects, link } b :=
    ⟨{ h.established with
        answered := fun _ hdone =>
          have hbelow := h.established.below houtbound hdone
          ⟨hbelow.le, fun _ => hbelow⟩ },
      { h.established' with }, hphase⟩
  cases h.phase with
  | offering o =>
    cases o.offer with
    | idle _ heffects => exact hnone heffects
    | pending p houtbound hproposes hnumber hstage =>
      cases hstage with
      | proposed hphase heffects hlink =>
        refine hone heffects ?_
        rw [send_eq (dispatchEffect_leave htimely hav (fun _ _ => rfl) houtbound hproposes.bound
          hphase), hlink]
        exact hrephase houtbound (.offering { o with
          offer := .pending _ rfl { hproposes with } hnumber (.leaveSent rfl rfl rfl)
          offer' := o.offer'.of_peer rfl })
      | leaveSent hphase heffects hlink =>
        refine hone heffects ?_
        rw [send_eq (dispatchEffect_enter htimely hav (fun _ _ => rfl) houtbound hproposes.bound
          hphase), hlink]
        exact hrephase houtbound (.offering { o with
          offer := .pending _ rfl { hproposes with } hnumber (.enterSent rfl rfl rfl)
          offer' := o.offer'.of_peer rfl })
      | enterSent _ heffects => exact hnone heffects
  | answering p o =>
    have hself := o.proposes
    cases o.stage with
    | hinted d houtbound hinbound hnumber hphase heffects hlink heffects' hlink' =>
      refine hone heffects ?_
      rw [send_eq (dispatchEffect_enter htimely hav (fun _ _ => rfl) houtbound hself.bound
        hphase), hlink]
      exact hrephase houtbound (.answering { p with phase := .awaitingAck } { o with
        proposes := { hself with }
        stage := .entering d rfl hinbound hnumber rfl rfl rfl heffects' hlink' })
    | committing houtbound hprepared hphase hack heffects hlink heffects' hlink' =>
      refine hone heffects ?_
      rw [send_eq (dispatchEffect_commits htimely hav (fun _ _ => rfl) houtbound hself.bound hphase
        hack rfl), hlink]
      refine ⟨{ h.established with
          available := hav, active := .inr ?_, answered := fun done hdone => ?_ },
        { h.established' with }, .answering p { o with
          proposes := { hself with }
          stage := .committed rfl hprepared ?_ rfl rfl heffects' hlink' }⟩
      · exact hself.destinationHost.trans h.established.peer
      · cases hdone
        refine ⟨?_, nofun⟩
        have henter : p.enter.transitionId = p.transitionId := by rw [hself.enter]; rfl
        exact (henter.trans hself.id).le
      · exact hself.destinationHost.trans h.established.peer
    | entering _ _ _ _ _ heffects | accepted _ _ _ _ _ _ heffects | prepared _ _ _ heffects
    | committed _ _ _ heffects => exact hnone heffects
  | answered p o =>
    cases o.stage with
    | accepted d l houtbound hinbound hnumber hphase heffects hlink heffects' hlink' =>
      refine hone heffects' ?_
      rw [send_eq (dispatchEffect_ack htimely hav (fun _ _ => rfl) hinbound), hlink']
      exact ⟨{ h.established with available := hav }, { h.established' with }, .answered p { o with
          stage := .prepared houtbound ⟨hnumber, d, l, rfl⟩ hphase heffects hlink rfl rfl }⟩
    | hinted _ _ _ _ _ _ _ heffects | entering _ _ _ _ _ _ _ heffects
    | prepared _ _ _ _ _ heffects | committing _ _ _ _ _ _ heffects
    | committed _ _ _ _ _ heffects => exact hnone heffects

/-! ## Receiving -/

/-- The transition that `b` offers is one that `a` resolves to the same crossing. -/
theorem Honest.incoming (h : Honest a b) (hp : Proposes b.session b.core p) :
    Incoming a.session a.core p.transition := by
  obtain ⟨w, hw, ht⟩ := hp.crossing
  refine ⟨⟨{ w with epoch := a.core.workspace.epoch }, ?_, ht⟩, ?_, ?_⟩
  · exact ConfiguredWorkspace.transition_congr h.established.displays h.established.links hw
  · rw [hp.sourceHost, h.established'.localHost, h.established.peer]
  · rw [hp.destinationHost, h.established'.peer, h.established.localHost]

/-- The active host of `a`, in the words of the coordinator. -/
theorem Established.activeHost (h : Established a b) :
    a.core.workspaceState.activeHost = a.core.workspaceState.localHost
      ∨ a.core.workspaceState.activeHost = remoteHostId a.session := by
  rw [h.localHost, h.peer]
  exact h.active

variable (h : Honest a b)

include h

/-- The message of an offer that arrives at a side without an offer of its own. -/
theorem Honest.hint (htimely : a.core.Timely nowNs) (hp : Proposes b.session b.core p)
    (hnumber : p.transitionId = a.core.lastInboundSequence + 1) (houtbound : a.core.outbound = none)
    (hinbound : a.core.inbound = none) :
    a.core.receive a.session (.leave p.leave) nowNs
      = (.ok [], { a.core.tick nowNs with
          inbound := some (.hint a.session (nowNs + a.core.config.timeoutNs) p.leave p.enter
            p.transition) }) := by
  have hepoch := h.established.protocolEpoch
  have hleave : p.leave = makeLeave p.transitionId a.core.workspace.protocolEpoch p.transition := by
    rw [hp.leave, hepoch]
  have henter : p.enter = makeEnter p.transitionId a.core.workspace.protocolEpoch p.transition := by
    rw [hp.enter, hepoch]
  have hhint := receiveLeave_hints htimely h.established.available
    (h.incoming hp) h.established.reply houtbound hinbound hnumber hp.representable
    h.established.activeHost
  rw [← hleave, ← henter] at hhint
  unfold receive
  simp only [hhint, withEffects]
  rfl

/-- A message that arrives, unless it is a leave at a side with an offer of its
    own, is received without failure and leads to the next phase. -/
theorem Honest.deliver (htimely : a.core.Timely nowNs) {rest : List PointerControlMessage}
    (hlink : b.link = message :: rest) (hfree : message.isLeave = true → a.core.outbound = none) :
    ∃ effects core, a.core.receive a.session message nowNs = (.ok effects, core)
      ∧ Honest { a with core, effects := a.effects ++ effects } { b with link := rest } := by
  have hav := h.established.available
  cases h.phase with
  | offering o =>
    cases o.offer' with
    | idle _ _ hempty => rw [hempty] at hlink; cases hlink
    | pending p houtbound' hproposes hnumber hstage =>
      -- The first message of an offer is its leave.
      have hhint (hmessage : message = .leave p.leave)
          (hstage : Stage { b with link := rest } { a with
            core := { a.core.tick nowNs with inbound := some (.hint a.session
              (nowNs + a.core.config.timeoutNs) p.leave p.enter p.transition) }
            effects := a.effects ++ [] } p) :
          ∃ effects core, a.core.receive a.session message nowNs = (.ok effects, core)
            ∧ Honest { a with core, effects := a.effects ++ effects } { b with link := rest } := by
        have houtbound := hfree (by rw [hmessage]; rfl)
        refine ⟨_, _, hmessage ▸ h.hint htimely hproposes hnumber houtbound o.inbound, ?_⟩
        refine ⟨{ h.established with available := hav }, { h.established' with }, .answered p
          ⟨{ hproposes with }, hstage, o.inbound', houtbound, ?_, o.applied',
            fun commit hcommit => ?_⟩⟩
        · cases o.offer with
          | idle _ _ _ hidle => exact hidle
          | pending q hq => rw [houtbound] at hq; cases hq
        · rw [hnumber]
          exact Nat.lt_succ_of_le (o.applied commit hcommit)
      have hidle (hmessage : message = .leave p.leave) : a.effects ++ [] = [] ∧ a.link = [] := by
        cases o.offer with
        | idle _ heffects hlink => exact ⟨by rw [heffects]; rfl, hlink⟩
        | pending q hq =>
          rw [hfree (by rw [hmessage]; rfl)] at hq
          cases hq
      cases hstage with
      | proposed _ _ hempty => rw [hempty] at hlink; cases hlink
      | leaveSent hphase heffects hsent =>
        obtain ⟨rfl, rfl⟩ := List.cons.inj (hsent.symm.trans hlink)
        exact hhint rfl (.hinted _ houtbound' rfl hnumber hphase heffects rfl (hidle rfl).1
          (hidle rfl).2)
      | enterSent hphase heffects hsent =>
        obtain ⟨rfl, rfl⟩ := List.cons.inj (hsent.symm.trans hlink)
        exact hhint rfl (.entering _ houtbound' rfl hnumber hphase heffects rfl (hidle rfl).1
          (hidle rfl).2)
  | answering p o =>
    have hself := o.proposes
    have henter : p.enter.transitionId = p.transitionId := by rw [hself.enter]; rfl
    cases o.stage with
    | prepared houtbound hprepared hphase heffects hlink' heffects' hsent =>
      obtain ⟨rfl, rfl⟩ := List.cons.inj (hsent.symm.trans hlink)
      have hack := receiveAck_answers htimely hav houtbound hself.bound hphase
        henter fun _ hdone => by rw [hself.id]; exact (h.established.below houtbound hdone).ne
      refine ⟨_, _, congrArg (withEffects CoreAckOutcome.effects) hack, ?_⟩
      refine ⟨{ h.established with
          answered := fun _ hdone =>
            have hbelow := h.established.below houtbound hdone
            ⟨hbelow.le, fun _ => hbelow⟩ },
        { h.established' with },
        .answering { p with phase := .commitQueued, acceptedAck := some (offerAck p) } { o with
          proposes := { hself with }
          stage := .committing rfl hprepared rfl rfl ?_ hlink' heffects' rfl }⟩
      rw [heffects]
      rfl
    | hinted _ _ _ _ _ _ _ _ hempty | entering _ _ _ _ _ _ _ _ hempty
    | accepted _ _ _ _ _ _ _ _ _ hempty | committing _ _ _ _ _ _ _ hempty
    | committed _ _ _ _ _ _ hempty =>
      rw [hempty] at hlink
      cases hlink
  | answered p o =>
    have hpeer := o.proposes
    have henter : p.enter.transitionId = p.transitionId := by rw [hpeer.enter]; rfl
    have hsequence : p.enter.sequence = p.enter.transitionId := by rw [hpeer.enter]; rfl
    have hhost : a.core.workspaceState.localHost = p.transition.destinationHost :=
      (h.incoming hpeer).destinationHost.symm
    cases o.stage with
    | entering d houtbound' hinbound hnumber hphase heffects hsent heffects' hlink' =>
      obtain ⟨rfl, rfl⟩ := List.cons.inj (hsent.symm.trans hlink)
      have haccept := receiveEnter_accepts htimely hav h.established.reply o.outbound
        hinbound (henter.trans hnumber) (henter ▸ hpeer.representable) hsequence
      refine ⟨_, _, congrArg (withEffects fun effect => [effect]) haccept, ?_⟩
      refine ⟨{ h.established with available := hav }, { h.established' with }, .answered p { o with
          stage := .accepted d
            (makeLeave p.enter.transitionId a.core.workspace.protocolEpoch p.transition)
            houtbound' ?_ henter hphase heffects rfl ?_ hlink' }⟩
      · rw [offerAck, ← hhost]
      · rw [heffects', offerAck, ← hhost]
        rfl
    | committed houtbound' hprepared hactive heffects hsent heffects' hlink' =>
      obtain ⟨rfl, rfl⟩ := List.cons.inj (hsent.symm.trans hlink)
      obtain ⟨hnumber, d, l, hinbound⟩ := hprepared
      have hcommit := receiveCommit_completes htimely hav hinbound
        (henter ▸ hpeer.positive.ne')
        fun commit hcommit => by rw [henter]; exact (o.applied' commit hcommit).ne
      refine ⟨_, _, congrArg (withEffects fun _ => []) hcommit, ?_⟩
      refine ⟨{ h.established with available := hav, active := .inl ?_ }, { h.established' with },
        .offering ⟨.idle o.outbound ?_ hlink' o.back, .idle houtbound' heffects rfl ?_, rfl,
          o.inbound, ?_, o.applied⟩⟩
      · exact hhost.symm.trans h.established.localHost
      · rw [heffects']
        rfl
      · exact hnumber.trans hpeer.id
      · intro commit hdone
        cases hdone
        exact (henter.trans hnumber.symm).le
    | hinted _ _ _ _ _ _ hempty | accepted _ _ _ _ _ _ _ hempty | prepared _ _ _ _ hempty
    | committing _ _ _ _ _ hempty =>
      rw [hempty] at hlink
      cases hlink

/-- A leave that arrives at a side with an offer of its own fails. -/
theorem Honest.conflict (htimely : a.core.Timely nowNs) {rest : List PointerControlMessage}
    {q : PendingOutbound B} (hlink : b.link = message :: rest) (hleave : message.isLeave = true)
    (houtbound : a.core.outbound = some q) :
    a.core.receive a.session message nowNs = (.error .pendingConflict, a.core.tick nowNs) := by
  have hnotLeave {m : PointerControlMessage} (hm : b.link = [m]) (hfalse : m.isLeave = false) :
      False := by
    obtain ⟨rfl, -⟩ := List.cons.inj (hm.symm.trans hlink)
    exact Bool.false_ne_true (hfalse.symm.trans hleave)
  have hnil (hm : b.link = []) : False := by
    rw [hm] at hlink
    cases hlink
  cases h.phase with
  | offering o =>
    cases o.offer' with
    | idle _ _ hempty => exact (hnil hempty).elim
    | pending p _ hproposes hnumber hstage =>
      have hconflict : a.core.receiveLeave a.session p.leave nowNs
          = (.error .pendingConflict, a.core.tick nowNs) := by
        have hclass := classifyInboundSequence_next (c := a.core.tick nowNs)
          (hproposes.leave ▸ hnumber) (hproposes.leave ▸ hproposes.representable)
          (hproposes.leave ▸ rfl : p.leave.sequence = p.leave.transitionId)
        unfold receiveLeave
        rw [htimely.withSession h.established.available]
        simp only [tick_reply, h.established.reply, tick_outbound, houtbound, Option.isSome_none,
          Option.isSome_some, hclass, Bool.false_eq_true, if_false, if_true]
      have hreceive : a.core.receive a.session (.leave p.leave) nowNs
          = (.error .pendingConflict, a.core.tick nowNs) :=
        congrArg (withEffects fun _ => []) hconflict
      cases hstage with
      | proposed _ _ hempty => exact (hnil hempty).elim
      | leaveSent _ _ hsent | enterSent _ _ hsent =>
        obtain ⟨rfl, -⟩ := List.cons.inj (hsent.symm.trans hlink)
        exact hreceive
  | answering p o =>
    cases o.stage with
    | prepared _ _ _ _ _ _ hsent => exact (hnotLeave hsent rfl).elim
    | hinted _ _ _ _ _ _ _ _ hempty | entering _ _ _ _ _ _ _ _ hempty
    | accepted _ _ _ _ _ _ _ _ _ hempty | committing _ _ _ _ _ _ _ hempty
    | committed _ _ _ _ _ _ hempty => exact (hnil hempty).elim
  | answered p o =>
    rw [o.outbound] at houtbound
    cases houtbound

/-- Once everything has been sent and has arrived, nothing is pending. -/
theorem Honest.drained (heffects : a.effects = []) (hlink : a.link = [])
    (heffects' : b.effects = []) (hlink' : b.link = []) :
    a.core.outbound = none ∧ a.core.inbound = none ∧ a.core.reply = none := by
  have hoffer {x y : Endpoint B} (ho : Offer x y) (he : x.effects = []) (hl : x.link = []) :
      x.core.outbound = none := by
    cases ho with
    | idle houtbound => exact houtbound
    | pending p _ _ _ hstage =>
      cases hstage with
      | proposed _ hsome | leaveSent _ hsome => rw [he] at hsome; cases hsome
      | enterSent _ _ hsome => rw [hl] at hsome; cases hsome
  have hstage {x y : Endpoint B} {p : PendingOutbound B} (hs : Stage x y p) (he : x.effects = [])
      (hl : x.link = []) (he' : y.effects = []) (hl' : y.link = []) : False := by
    cases hs with
    | hinted _ _ _ _ _ hsome | committing _ _ _ _ hsome => rw [he] at hsome; cases hsome
    | entering _ _ _ _ _ _ hsome | committed _ _ _ _ hsome => rw [hl] at hsome; cases hsome
    | accepted _ _ _ _ _ _ _ _ hsome => rw [he'] at hsome; cases hsome
    | prepared _ _ _ _ _ _ hsome => rw [hl'] at hsome; cases hsome
  cases h.phase with
  | offering o => exact ⟨hoffer o.offer heffects hlink, o.inbound, h.established.reply⟩
  | answering p o => exact (hstage o.stage heffects hlink heffects' hlink').elim
  | answered p o => exact (hstage o.stage heffects' hlink' heffects hlink).elim

end Endpoint

/-! ## Runs -/

namespace HandoffPair

variable {B : Type} {session : Side → B} {s : HandoffPair B}

/-- One end of a pair. -/
def endpoint (session : Side → B) (s : HandoffPair B) (side : Side) : Endpoint B :=
  ⟨session side, s.core side, s.effects side, s.link side⟩

section

variable (s session) (side : Side) (core : CoordinatorCore B) (effects : List (CoreEffect B))
  (sent : List PointerControlMessage)

theorem endpoint_advance :
    (s.advance side core effects sent).endpoint session side
      = ⟨session side, core, s.effects side ++ effects, s.link side ++ sent⟩ := by
  unfold endpoint advance
  simp only [Function.update_self]

theorem endpoint_advance_other :
    (s.advance side core effects sent).endpoint session side.other
      = s.endpoint session side.other := by
  unfold endpoint advance
  simp only [Function.update_of_ne side.other_ne]

theorem endpoint_dispatched [DecidableEq B] (index nowNs : ℕ) :
    (s.dispatched side index nowNs true).endpoint session side
        = (s.endpoint session side).dispatch index nowNs
      ∧ (s.dispatched side index nowNs true).endpoint session side.other
        = s.endpoint session side.other := by
  unfold dispatched Endpoint.dispatch
  rw [show (s.endpoint session side).effects = s.effects side from rfl]
  cases (s.effects side)[index]? with
  | none => exact ⟨rfl, rfl⟩
  | some effect =>
    refine ⟨(endpoint_advance _ _ _ _ _ _).trans ?_,
      (endpoint_advance_other _ _ _ _ _ _).trans ?_⟩
    · simp only [Function.update_self]
      rfl
    · unfold endpoint
      simp only [Function.update_of_ne side.other_ne]

end

variable [DecidableEq B] [SessionBinding B]

/-- Both ends are in step. -/
def Honest (session : Side → B) (s : HandoffPair B) : Prop :=
  ∀ side, (s.endpoint session side).Honest (s.endpoint session side.other)

theorem Honest.of_side (side : Side)
    (h : (s.endpoint session side).Honest (s.endpoint session side.other)) : s.Honest session := by
  intro x
  rcases Side.eq_or_eq_other side x with rfl | rfl
  · exact h
  · rw [Side.other_other]
    exact h.symm

/-- New coordinators with local authority on both sides and the same displays,
    links and protocol epoch. -/
structure Agreeing (session : Side → B) (s : HandoffPair B) : Prop where
  bound : s.Bound session
  displays : ∀ side, (s.core side).workspace.displays = (s.core side.other).workspace.displays
  links : ∀ side, (s.core side).workspace.links = (s.core side.other).workspace.links
  protocolEpoch : ∀ side,
    (s.core side).workspace.protocolEpoch = (s.core side.other).workspace.protocolEpoch
  authority : ∀ side, (s.core side).hasLocalAuthority = true

/-- The only steps are movements of the pointer, proposals, dispatches that the
    transport takes and arrivals, and no deadline is reached. -/
def Undisturbed (s : HandoffPair B) : HandoffAction → Prop
  | .propose side _ _ nowNs => (s.core side).Timely nowNs
  | .dispatch side _ nowNs taken => taken = true ∧ (s.core side).Timely nowNs
  | .deliver side nowNs => (s.core side).Timely nowNs
  | .poll _ _ => False
  | .observe _ _ => True
  | .degrade _ => False
  | .markHealthy _ => False
  | .replaceWorkspace _ _ _ => False
  | .disconnect _ => False

/-- No leave arrives at a side that has an offer of its own pending. -/
def Uncrossed (s : HandoffPair B) : HandoffAction → Prop
  | .deliver side _ => ∀ message ∈ (s.link side.other).head?, message.isLeave = true →
      (s.core side).outbound = none
  | _ => True

theorem Agreeing.honest (h : s.Agreeing session) : s.Honest session := by
  have hself (side : Side) :
      (s.endpoint session side).Established (s.endpoint session side.other) := by
    have hfresh := h.bound.fresh side
    have hactive :
        (s.core side).workspaceState.activeHost = (s.core side).workspaceState.localHost :=
      beq_iff_eq.mp (Bool.and_eq_true _ _ ▸ h.authority side).1
    refine ⟨?_, hfresh.localHost, h.bound.peers side, h.bound.hosts_ne side, hfresh.reply,
      .inl (hactive.trans hfresh.localHost), h.displays side, h.links side, h.protocolEpoch side,
      fun done hdone => ?_⟩
    · exact CoordinatorCore.requireAvailableSession_ok.mpr
        ⟨hfresh.lifecycle, hfresh.session, hfresh.sessionHealthy⟩
    · rw [show (s.endpoint session side).core.completedOutbound = none from
        hfresh.completedOutbound] at hdone
      cases hdone
  have hoffer (side : Side) : (s.endpoint session side).Offer (s.endpoint session side.other) :=
    .idle (h.bound.fresh side).outbound (h.bound.effects side) (h.bound.link side)
      ((h.bound.fresh side.other).lastInboundSequence.trans
        (h.bound.fresh side).lastOutboundSequence.symm)
  have happlied (side : Side) : (s.endpoint session side).CommitsUpTo
      (s.endpoint session side).core.lastInboundSequence := by
    intro commit hcommit
    rw [CoordinatorCore.completedCommit, show (s.endpoint session side).core.completedInbound = none
      from (h.bound.fresh side).completedInbound] at hcommit
    cases hcommit
  refine Honest.of_side .left ⟨hself .left, hself .right, .offering ⟨hoffer .left, hoffer .right,
    (h.bound.fresh .left).inbound, (h.bound.fresh .right).inbound, happlied .left, happlied .right⟩⟩

/-- Every undisturbed step that does not cross an offer leads to the next phase. -/
theorem Honest.apply (h : s.Honest session) {action : HandoffAction} (hu : s.Undisturbed action)
    (hc : s.Uncrossed action) : (s.apply session action).Honest session := by
  cases action with
  | propose side edge position nowNs =>
    refine Honest.of_side side ?_
    change ((s.advance side _ _ _).endpoint session side).Honest
      ((s.advance side _ _ _).endpoint session side.other)
    rw [endpoint_advance, endpoint_advance_other, List.append_nil]
    exact (h side).propose hu edge position
  | dispatch side index nowNs taken =>
    obtain ⟨rfl, htimely⟩ := hu
    obtain ⟨hself, hother⟩ := s.endpoint_dispatched session side index nowNs
    refine Honest.of_side side ?_
    rw [show s.apply session (.dispatch side index nowNs true) = s.dispatched side index nowNs true
      from rfl, hself, hother]
    exact (h side).dispatch htimely index
  | deliver side nowNs =>
    cases hlink : s.link side.other with
    | nil =>
      have hsame : s.apply session (.deliver side nowNs) = s := by
        change s.delivered session side nowNs = s
        unfold delivered
        rw [hlink]
      rw [hsame]
      exact h
    | cons message rest =>
      have hfree : message.isLeave = true → (s.core side).outbound = none :=
        hc message (by rw [hlink]; rfl)
      obtain ⟨effects, core, hreceive, hnext⟩ := (h side).deliver hu hlink hfree
      have hdelivered : s.delivered session side nowNs
          = (s.arrived side.other rest).advance side core effects [] := by
        have hok : (s.core side).receive (session side) message nowNs = (.ok effects, core) :=
          hreceive
        unfold delivered
        rw [hlink]
        simp only [hok, received]
      refine Honest.of_side side ?_
      rw [show s.apply session (.deliver side nowNs) = s.delivered session side nowNs from rfl,
        hdelivered, endpoint_advance, endpoint_advance_other]
      simpa [arrived, endpoint, Function.update_of_ne side.other_ne.symm] using hnext
  | observe side pointer =>
    refine Honest.of_side side ?_
    change ((s.advance side _ _ _).endpoint session side).Honest
      ((s.advance side _ _ _).endpoint session side.other)
    rw [endpoint_advance, endpoint_advance_other, List.append_nil, List.append_nil]
    exact (h side).observe pointer
  | poll | degrade | markHealthy | replaceWorkspace | disconnect => exact hu.elim

instance (c : CoordinatorCore B) (nowNs : ℕ) : Decidable (c.Timely nowNs) :=
  decidable_of_iff (c.lastNowNs ≤ nowNs ∧ c.timeouts nowNs = ⟨false, false, false⟩
      ∧ nowNs + c.config.timeoutNs < u64Size)
    ⟨fun h => ⟨h.1, h.2.1, h.2.2⟩, fun h => ⟨h.clock, h.pending, h.deadline⟩⟩

instance (s : HandoffPair B) (action : HandoffAction) : Decidable (s.Undisturbed action) := by
  unfold Undisturbed
  cases action <;> infer_instance

instance (s : HandoffPair B) (action : HandoffAction) : Decidable (s.Uncrossed action) := by
  unfold Uncrossed
  cases action <;> infer_instance

/-- A run without disturbance in which no leave meets an offer of its receiver. Wherever the run
    has come to, the message that arrives next is received without failure exactly when it keeps to
    that; and once everything has been sent and has arrived, no transition is pending. -/
theorem concurrent_proposals_settle (hstart : s.Agreeing session) (actions : List HandoffAction)
    (hrun : Admissible (fun s action => s.Undisturbed action ∧ s.Uncrossed action) (apply session) s
      actions) :
    (∀ side nowNs, ((execute (apply session) s actions).core side).Timely nowNs →
      ∀ message ∈ ((execute (apply session) s actions).link side.other).head?,
        ((∃ effects, (((execute (apply session) s actions).core side).receive (session side) message
            nowNs).1 = .ok effects)
          ↔ (execute (apply session) s actions).Uncrossed (.deliver side nowNs)))
    ∧ ((∀ side, (execute (apply session) s actions).effects side = []
          ∧ (execute (apply session) s actions).link side = []) →
        ∀ side, ((execute (apply session) s actions).core side).outbound = none
          ∧ ((execute (apply session) s actions).core side).inbound = none
          ∧ ((execute (apply session) s actions).core side).reply = none) := by
  have hend : (execute (apply session) s actions).Honest session :=
    hrun.invariant (fun s _ hguard hs => hs.apply hguard.1 hguard.2) hstart.honest
  generalize execute (apply session) s actions = s' at hend ⊢
  refine ⟨fun side nowNs htimely message hmessage => ⟨fun hok m hm hleave => ?_, fun hfree => ?_⟩,
    fun hdrained side => ?_⟩
  · obtain ⟨effects, hok⟩ := hok
    cases houtbound : (s'.core side).outbound with
    | none => rfl
    | some q =>
      obtain ⟨rest, hlink⟩ := List.head?_eq_some_iff.mp hm
      obtain rfl : message = m := Option.some.inj (hmessage.symm.trans hm)
      have hconflict := (hend side).conflict htimely hlink hleave houtbound
      rw [show (s'.core side).receive (session side) message nowNs = _ from hconflict] at hok
      cases hok
  · obtain ⟨rest, hlink⟩ := List.head?_eq_some_iff.mp hmessage
    obtain ⟨effects, core, hreceive, -⟩ :=
      (hend side).deliver htimely hlink (hfree message hmessage)
    exact ⟨effects, congrArg Prod.fst hreceive⟩
  · exact (hend side).drained (hdrained side).1 (hdrained side).2 (hdrained side.other).1
      (hdrained side.other).2

open HandoffPair.Sample

theorem start_agreeing : start.Agreeing binding where
  bound := start_bound
  displays side := by cases side <;> rfl
  links side := by cases side <;> rfl
  protocolEpoch side := by cases side <;> rfl
  authority side := by cases side <;> rfl

/-- Two handoffs one after the other, there and back. -/
theorem concurrent_proposals_settle_handoff :
    ((execute (apply binding) start
      (handoff .left 1 ++ handoff .right 2)).core .left).outbound = none := by
  refine ((concurrent_proposals_settle start_agreeing
    (handoff .left 1 ++ handoff .right 2) ?_).2 ?_ .left).1
  · decide +kernel
  · intro side
    cases side <;> decide +kernel

/-- Both sides propose at the same time and send their leave: the one that
    arrives first fails, which ends the session of its receiver. -/
theorem concurrent_proposals_fail :
    ∃ s : HandoffPair PointerSessionBinding, s.Agreeing binding ∧ ∃ actions,
      Admissible Undisturbed (apply binding) s actions
      ∧ ∃ message ∈ ((execute (apply binding) s actions).link .left).head?,
        (((execute (apply binding) s actions).core .right).receive (binding .right)
          message 1).1 = .error .pendingConflict := by
  refine ⟨start, start_agreeing,
    [.propose .left .right (.finite (1 / 2)) 1, .propose .right .left (.finite (1 / 2)) 1,
      .dispatch .left 0 1 true, .dispatch .right 0 1 true], ?_, ?_⟩
  · decide +kernel
  · decide +kernel

end HandoffPair

end SoftwareKvm
