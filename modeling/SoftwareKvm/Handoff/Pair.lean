import Mathlib.Data.List.Pairwise
import SoftwareKvm.Handoff.Steps
import SoftwareKvm.Lib.Runs

/-!
# Two coordinators on one session

Two coordinators are bound to the two ends of one session and connected by a
reliable FIFO link in each direction. Each side holds the effects its
coordinator has returned and has not dispatched yet; an effect is dispatched at
most once. Steps of the two sides interleave freely, each side with its own
clock.

A receive operation that fails, and a timer poll that reports an expiry, end the
session on their side in the same step: `handle_active_event_with_workspace`
(`kvm-daemon/src/supervisor.rs`, lines 644–719) reconciles a failed event before
it returns, and that disconnects the coordinator.

* `authority_not_crossed`: while both sides are bound and no commit is on its
  way, it is not the case that each side takes the other for the active host.
-/

namespace SoftwareKvm

open Lib

/-- One of the two ends of a session. -/
inductive Side
  | left
  | right
  deriving DecidableEq

namespace Side

def other : Side → Side
  | .left => .right
  | .right => .left

@[simp] theorem other_other (side : Side) : side.other.other = side := by cases side <;> rfl

@[simp] theorem other_ne (side : Side) : side.other ≠ side := by cases side <;> exact nofun

@[simp] theorem ne_other (side : Side) : side ≠ side.other := by cases side <;> exact nofun

theorem eq_or_eq_other (side side' : Side) : side = side' ∨ side' = side.other := by
  cases side <;> cases side' <;> simp [other]

end Side

/-- Two coordinators, the effects each side has not dispatched, and the messages
    each side has sent that have not arrived. -/
structure HandoffPair (B : Type) where
  core : Side → CoordinatorCore B
  effects : Side → List (CoreEffect B)
  link : Side → List PointerControlMessage

inductive HandoffAction
  | propose (side : Side) (edge : Edge) (position : F64) (nowNs : ℕ)
  | dispatch (side : Side) (index nowNs : ℕ) (taken : Bool)
  | deliver (side : Side) (nowNs : ℕ)
  | poll (side : Side) (nowNs : ℕ)
  | observe (side : Side) (pointer : LogicalPointer)
  | degrade (side : Side)
  | markHealthy (side : Side)
  | replaceWorkspace (side : Side) (workspace : ConfiguredWorkspace) (fallback : LogicalPointer)
  | disconnect (side : Side)

/-- The effects that an acknowledgement hands back. -/
def CoreAckOutcome.effects {B : Type} : CoreAckOutcome B → List (CoreEffect B)
  | .commit effect => [effect]
  | .duplicate => []
  | .rejected => []

/-- The effects that a completed dispatch hands back. -/
def CoreEffectCompletion.effects {B : Type} : CoreEffectCompletion B → List (CoreEffect B)
  | .next effect => [effect]
  | .sent => []
  | .authorityCommitted => []

/-- The transition number of a commit. -/
def PointerControlMessage.commitId? : PointerControlMessage → Option ℕ
  | .commit message => some message.transitionId
  | .leave _ => none
  | .enter _ => none
  | .ack _ => none

namespace CoordinatorCore

variable {B : Type} [DecidableEq B] [SessionBinding B]

/-- The result of an operation, as the effects to be dispatched. -/
def withEffects {α : Type} (effects : α → List (CoreEffect B)) (r : HandoffResult B α) :
    Except PointerHandoffErrorKind (List (CoreEffect B)) × CoordinatorCore B :=
  (r.1.map effects, r.2)

/-- Hands a message to the operation that receives it. -/
def receive (c : CoordinatorCore B) (session : B) (message : PointerControlMessage) (nowNs : ℕ) :
    Except PointerHandoffErrorKind (List (CoreEffect B)) × CoordinatorCore B :=
  match message with
  | .leave leave => withEffects (fun _ => []) (c.receiveLeave session leave nowNs)
  | .enter enter => withEffects (fun effect => [effect]) (c.receiveEnter session enter nowNs)
  | .ack ack => withEffects CoreAckOutcome.effects (c.receiveAck session ack nowNs)
  | .commit commit => withEffects (fun _ => []) (c.receiveCommit session commit nowNs)

/-- Receiving anything but a commit. -/
theorem receive_keeps (c : CoordinatorCore B) (session : B) {message : PointerControlMessage}
    (nowNs : ℕ) (h : message.commitId? = none) : Keeps c (c.receive session message nowNs).2 := by
  cases message with
  | leave message => exact receiveLeave_keeps c session message nowNs
  | enter message => exact receiveEnter_keeps c session message nowNs
  | ack message =>
    show Keeps c (c.receiveAck session message nowNs).2
    have houtbound (c : CoordinatorCore B) : Keeps c (c.ackOutbound session message).2 := by
      fun_cases ackOutbound c session message
      case case4 pending hpending _ _ =>
        fun_cases answerOutbound c session pending message
        · exact (failLocal_keeps c).trans (Keeps.dropOutbound _)
        · have hfailed := (Keeps.dropOutbound c).trans (failLocal_keeps { c with outbound := none })
          exact hfailed.trans { Keeps.refl _ with }
        · exact Keeps.setOutbound _ hpending rfl rfl
      all_goals exact .refl c
    refine withSession_keeps c session nowNs fun c => ?_
    split
    · split_ifs
      · exact .refl c
      · exact .refl c
      · exact houtbound c
    · exact houtbound c
  | commit => cases h

end CoordinatorCore

namespace HandoffPair

open CoordinatorCore

variable {B : Type} [DecidableEq B] [SessionBinding B]

/-- One side takes a step: its coordinator becomes `core`, and it holds
    `effects` and has sent `sent` in addition. -/
def advance (s : HandoffPair B) (side : Side) (core : CoordinatorCore B)
    (effects : List (CoreEffect B)) (sent : List PointerControlMessage) : HandoffPair B where
  core := Function.update s.core side core
  effects := Function.update s.effects side (s.effects side ++ effects)
  link := Function.update s.link side (s.link side ++ sent)

/-- The messages of `side` that are left once the first one has arrived. -/
def arrived (s : HandoffPair B) (side : Side) (rest : List PointerControlMessage) : HandoffPair B :=
  { s with link := Function.update s.link side rest }

/-- The result of a receive operation; a failure ends the session. -/
def received (s : HandoffPair B) (session : Side → B) (side : Side)
    (result : Except PointerHandoffErrorKind (List (CoreEffect B)) × CoordinatorCore B) :
    HandoffPair B :=
  match result with
  | (.ok effects, core) => s.advance side core effects []
  | (.error _, core) => s.advance side (core.disconnectSession (session side)).2 [] []

variable (session : Side → B) (s : HandoffPair B)

variable (side : Side)

/-- A side proposes a transition. -/
def proposed (edge : Edge) (position : F64) (nowNs : ℕ) : HandoffPair B :=
  let (result, core) := (s.core side).proposeLeave (session side) edge position nowNs
  s.advance side core result.toOption.toList []

/-- A side dispatches one of the effects it holds; `taken` says whether the
    transport takes the message. -/
def dispatched (index nowNs : ℕ) (taken : Bool) : HandoffPair B :=
  match (s.effects side)[index]? with
  | none => s
  | some effect =>
    let done := (s.core side).dispatchEffect effect nowNs fun _ _ =>
      if taken then .ok () else .error ()
    let s := { s with
      effects := Function.update s.effects side ((s.effects side).eraseIdx index) }
    s.advance side done.core (done.result.toOption.elim [] CoreEffectCompletion.effects)
      done.sent.toList

/-- The first message on its way to a side arrives. -/
def delivered (nowNs : ℕ) : HandoffPair B :=
  match s.link side.other with
  | [] => s
  | message :: rest =>
    (s.arrived side.other rest).received session side
      ((s.core side).receive (session side) message nowNs)

/-- A side polls its timer; an expiry ends the session. -/
def polled (nowNs : ℕ) : HandoffPair B :=
  match (s.core side).pollTimeout nowNs with
  | (.error _, core) => s.advance side core [] []
  | (.ok expired, core) =>
    if expired.any then s.advance side (core.disconnectSession (session side)).2 [] []
    else s.advance side core [] []

/-- One step of one side. -/
def apply : HandoffAction → HandoffPair B
  | .propose side edge position nowNs => s.proposed session side edge position nowNs
  | .dispatch side index nowNs taken => s.dispatched side index nowNs taken
  | .deliver side nowNs => s.delivered session side nowNs
  | .poll side nowNs => s.polled session side nowNs
  | .observe side pointer => s.advance side ((s.core side).observeLocalPointer pointer).2 [] []
  | .degrade side => s.advance side ((s.core side).degradeSession (session side)).2 [] []
  | .markHealthy side => s.advance side ((s.core side).markSessionHealthy (session side)).2 [] []
  | .replaceWorkspace side workspace fallback =>
    s.advance side ((s.core side).replaceWorkspace workspace fallback).2 [] []
  | .disconnect side => s.advance side ((s.core side).disconnectSession (session side)).2 [] []

/-- The pair right after both sides have been bound: new coordinators, nothing
    held and nothing sent. -/
structure Bound (session : Side → B) (s : HandoffPair B) : Prop where
  peers : ∀ side, remoteHostId (session side) = localHostId (session side.other)
  created : ∀ side, ∃ owner config workspace state fallback c,
    new owner config workspace state fallback = .ok c
      ∧ c.bindSession (session side) = (.ok .applied, s.core side)
  effects : ∀ side, s.effects side = []
  link : ∀ side, s.link side = []

/-- Each side takes the other for the active host. -/
def Crossed : Prop :=
  ∀ side, (s.core side).workspaceState.activeHost = localHostId (session side.other)

/-- Both sides are bound to the session. -/
def BothBound : Prop :=
  ∀ side, (s.core side).session = some (session side)

/-- The transition numbers of the commits among some messages. -/
def commitIds (messages : List PointerControlMessage) : List ℕ :=
  messages.filterMap PointerControlMessage.commitId?

/-! ## The invariant -/

/-- The numbers of the commits that `side` has sent and that are still of
    importance: the one last applied at the other side, then those on their way. -/
def sentCommits : List ℕ :=
  ((s.core side.other).completedCommit.map (·.transitionId)).toList ++ commitIds (s.link side)

/-- What holds of one side and its commits while both sides are bound. -/
structure SideInv (session : Side → B) (s : HandoffPair B) (side : Side) : Prop where
  localHost : (s.core side).workspaceState.localHost = localHostId (session side)
  outbound : ∀ p, (s.core side).outbound = some p →
    p.enter.transitionId = (s.core side).lastOutboundSequence
  inbound : ∀ p, (s.core side).inbound = some p →
    p.transition.destinationHost = localHostId (session side)
  increasing : (s.sentCommits side).Pairwise (· < ·)
  sent : ∀ id ∈ s.sentCommits side, id ≤ (s.core side).lastOutboundSequence
    ∧ ((s.core side).outbound.isSome → id < (s.core side).lastOutboundSequence)

/-- While both sides are bound, a crossed pair has a commit on its way. -/
structure Inv (session : Side → B) (s : HandoffPair B) : Prop where
  sides : s.BothBound session → ∀ side, s.SideInv session side
  crossed : s.BothBound session → s.Crossed session → ∃ side, commitIds (s.link side) ≠ []

variable {session : Side → B} {s s' : HandoffPair B} {side : Side}
  {commit : PointerTransitionCommitV1}

section

omit [DecidableEq B] [SessionBinding B]

section

variable (s side) (core : CoordinatorCore B) (effects : List (CoreEffect B))
  (sent rest : List PointerControlMessage)

@[simp] theorem advance_core_self : (s.advance side core effects sent).core side = core :=
  Function.update_self ..

@[simp] theorem advance_core_other :
    (s.advance side core effects sent).core side.other = s.core side.other :=
  Function.update_of_ne side.other_ne ..

@[simp] theorem advance_link_self :
    (s.advance side core effects sent).link side = s.link side ++ sent :=
  Function.update_self ..

@[simp] theorem advance_link_other :
    (s.advance side core effects sent).link side.other = s.link side.other :=
  Function.update_of_ne side.other_ne ..

@[simp] theorem arrived_link_self : (s.arrived side rest).link side = rest :=
  Function.update_self ..

@[simp] theorem arrived_link_other : (s.arrived side.other rest).link side = s.link side :=
  Function.update_of_ne side.ne_other ..

end

theorem commitIds_append (l l' : List PointerControlMessage) :
    commitIds (l ++ l') = commitIds l ++ commitIds l' := List.filterMap_append ..

/-- A side that is bound after a step of `side` that keeps its session was bound before it. -/
theorem BothBound.before (hbound : s'.BothBound session)
    (hsession : (s'.core side).session = (s.core side).session)
    (hother : s'.core side.other = s.core side.other) : s.BothBound session := by
  intro x
  rcases Side.eq_or_eq_other side x with rfl | rfl
  · exact hsession ▸ hbound side
  · exact hother ▸ hbound side.other

/-- A side forgets the commit it applied last, or keeps it. -/
theorem sentCommits_sublist (hcompleted : (s'.core side.other).completedCommit
      = (s.core side.other).completedCommit ∨ (s'.core side.other).completedCommit = none)
    (hlink : commitIds (s'.link side) = commitIds (s.link side)) :
    (s'.sentCommits side).Sublist (s.sentCommits side) := by
  unfold sentCommits
  rw [hlink]
  rcases hcompleted with h | h
  · rw [h]
  · rw [h]
    exact List.sublist_append_right _ _

end

section

omit [DecidableEq B]

/-- The side that takes no step. -/
theorem SideInv.idle (h : s.SideInv session side) (hsame : s'.core side = s.core side)
    (hsub : (s'.sentCommits side).Sublist (s.sentCommits side)) : s'.SideInv session side := by
  refine ⟨?_, ?_, ?_, h.increasing.sublist hsub, ?_⟩ <;> rw [hsame]
  · exact h.localHost
  · exact h.outbound
  · exact h.inbound
  · exact fun id hid => h.sent id (hsub.subset hid)

/-- A commit that arrives is not the one applied last. -/
theorem SideInv.not_duplicate {rest : List ℕ}
    (h : s.SideInv session side) (hlink : commitIds (s.link side) = commit.transitionId :: rest) :
    (s.core side.other).completedCommit ≠ some commit := by
  intro hcompleted
  have hincreasing := h.increasing
  unfold sentCommits at hincreasing
  rw [hlink, hcompleted, List.pairwise_append] at hincreasing
  exact lt_irrefl _ (hincreasing.2.2 _ (List.mem_singleton_self _) _ List.mem_cons_self)

/-- Once a side is unbound there is nothing to show. -/
theorem Inv.of_unbound (side : Side) (h : (s.core side).session ≠ some (session side)) :
    s.Inv session :=
  ⟨fun hbound => absurd (hbound side) h, fun hbound => absurd (hbound side) h⟩

/-- Coordinators that are not both bound. -/
theorem Inv.of_cores (h : ¬ s.BothBound session) (hcore : s'.core = s.core) : s'.Inv session := by
  have hunbound : ¬ s'.BothBound session := by rwa [BothBound, hcore]
  exact ⟨fun hbound => absurd hbound hunbound, fun hbound => absurd hbound hunbound⟩

end

/-! ## Steps -/

section

variable (h : s.Inv session) (side : Side)
  (hne : localHostId (session side) ≠ localHostId (session side.other))

include h hne

section

omit [DecidableEq B]

/-- A step of one side that commits nothing. -/
theorem Inv.of_keeps (hkeeps : (s.core side).Keeps (s'.core side))
    (hother : s'.core side.other = s.core side.other)
    (hlink : ∀ x, commitIds (s'.link x) = commitIds (s.link x)) : s'.Inv session := by
  have hbefore (hbound : s'.BothBound session) : s.BothBound session := by
    intro x
    rcases Side.eq_or_eq_other side x with rfl | rfl
    · rcases hkeeps.session with hsame | hnone
      · exact hsame ▸ hbound side
      · exact absurd (hbound side) (by rw [hnone]; exact nofun)
    · exact hother ▸ hbound side.other
  refine ⟨fun hbound x => ?_, fun hbound hcrossed => ?_⟩
  · have hx := h.sides (hbefore hbound) x
    rcases Side.eq_or_eq_other side x with rfl | rfl
    · have hsub : (s'.sentCommits side).Sublist (s.sentCommits side) :=
        sentCommits_sublist (.inl (by rw [hother])) (hlink side)
      refine ⟨hkeeps.localHost.trans hx.localHost, fun p hp => ?_, fun p hp => ?_,
        hx.increasing.sublist hsub, fun id hid => ?_⟩
      · rcases hkeeps.outbound p hp with ⟨p₀, hp₀, -, henter, hseq⟩ | ⟨-, henter, -⟩
        · rw [henter, hseq, hx.outbound p₀ hp₀]
        · exact henter
      · rcases hkeeps.inbound p hp with ⟨p₀, hp₀, ht⟩ | hlocal
        · rw [ht, hx.inbound p₀ hp₀]
        · exact hlocal.trans hx.localHost
      · obtain ⟨hle, hlt⟩ := hx.sent id (hsub.subset hid)
        refine ⟨hle.trans hkeeps.sequence, fun hpending => ?_⟩
        obtain ⟨p, hp⟩ := Option.isSome_iff_exists.mp hpending
        rcases hkeeps.outbound p hp with ⟨p₀, hp₀, -, -, hseq⟩ | ⟨-, -, hnew⟩
        · rw [hseq]
          exact hlt (by rw [hp₀]; rfl)
        · exact hle.trans_lt hnew
    · have hsub : (s'.sentCommits side.other).Sublist (s.sentCommits side.other) := by
        refine sentCommits_sublist ?_ (hlink side.other)
        rw [Side.other_other]
        exact hkeeps.completed
      exact hx.idle hother hsub
  · have hcrossed' : s.Crossed session := by
      intro x
      rcases Side.eq_or_eq_other side x with rfl | rfl
      · rcases hkeeps.activeHost with hsame | hlocal
        · exact hsame ▸ hcrossed side
        · have hactive := hcrossed side
          rw [hlocal, (h.sides (hbefore hbound) side).localHost] at hactive
          exact absurd hactive hne
      · exact hother ▸ hcrossed side.other
    obtain ⟨x, hx⟩ := h.crossed (hbefore hbound) hcrossed'
    exact ⟨x, hlink x ▸ hx⟩

omit hne in
/-- A side sends the commit of its pending transition. -/
theorem Inv.of_commits (hcommits : (s.core side).Commits commit (s'.core side))
    (hother : s'.core side.other = s.core side.other)
    (hlink : commitIds (s'.link side) = commitIds (s.link side) ++ [commit.transitionId])
    (hback : commitIds (s'.link side.other) = commitIds (s.link side.other)) : s'.Inv session := by
  refine ⟨fun hbound x => ?_, fun hbound _ => ⟨side, by rw [hlink]; simp⟩⟩
  have hbefore := BothBound.before hbound hcommits.session hother
  have hx := h.sides hbefore x
  rcases Side.eq_or_eq_other side x with rfl | rfl
  · have hsent : s'.sentCommits side = s.sentCommits side ++ [commit.transitionId] := by
      unfold sentCommits
      rw [hother, hlink, List.append_assoc]
    obtain ⟨p, hp, hid⟩ := hcommits.pending
    have hlast : commit.transitionId = (s.core side).lastOutboundSequence :=
      hid.trans (hx.outbound p hp)
    have hbelow (id : ℕ) (hmem : id ∈ s.sentCommits side) : id < commit.transitionId :=
      hlast ▸ (hx.sent id hmem).2 (by rw [hp]; rfl)
    refine ⟨hcommits.localHost.trans hx.localHost, fun q hq => ?_, fun q hq => ?_, ?_, ?_⟩
    · rw [hcommits.outbound] at hq
      cases hq
    · exact hx.inbound q (hcommits.inbound ▸ hq)
    · rw [hsent, List.pairwise_append]
      refine ⟨hx.increasing, List.pairwise_singleton _ _, fun id hmem id' hmem' => ?_⟩
      exact (List.mem_singleton.mp hmem') ▸ hbelow id hmem
    · intro id hmem
      rw [hsent, List.mem_append, List.mem_singleton] at hmem
      rw [hcommits.sequence, hcommits.outbound, ← hlast]
      refine ⟨?_, nofun⟩
      rcases hmem with hmem | rfl
      · exact (hbelow id hmem).le
      · exact le_rfl
  · have hsent : s'.sentCommits side.other = s.sentCommits side.other := by
      unfold sentCommits
      rw [hback, Side.other_other, completedCommit, hcommits.completed]
      rfl
    exact hx.idle hother (hsent ▸ .refl _)

/-- A side applies the commit that arrives. -/
theorem Inv.of_applies (happlies : (s.core side).Applies commit (s'.core side))
    (hother : s'.core side.other = s.core side.other)
    (hlink : commitIds (s.link side.other) = commit.transitionId :: commitIds (s'.link side.other))
    (hback : commitIds (s'.link side) = commitIds (s.link side)) : s'.Inv session := by
  have hbefore (hbound : s'.BothBound session) := BothBound.before hbound happlies.session hother
  refine ⟨fun hbound x => ?_, fun hbound hcrossed => ?_⟩
  · have hx := h.sides (hbefore hbound) x
    rcases Side.eq_or_eq_other side x with rfl | rfl
    · have hsent : s'.sentCommits side = s.sentCommits side := by
        unfold sentCommits
        rw [hback, hother]
      refine ⟨happlies.localHost.trans hx.localHost, ?_, fun p hp => ?_, hsent ▸ hx.increasing, ?_⟩
      · rw [happlies.outbound, happlies.sequence]
        exact hx.outbound
      · rw [happlies.inbound] at hp
        cases hp
      · rw [hsent, happlies.outbound, happlies.sequence]
        exact hx.sent
    · -- The applied commit takes the place of the one applied before it.
      have hsub : (s'.sentCommits side.other).Sublist (s.sentCommits side.other) := by
        unfold sentCommits
        rw [hlink, Side.other_other, happlies.completed]
        exact List.sublist_append_right _ _
      exact hx.idle hother hsub
  · obtain ⟨p, hp, hactive⟩ := happlies.activeHost
    rw [(h.sides (hbefore hbound) side).inbound p hp] at hactive
    exact absurd (hactive ▸ hcrossed side) hne

/-- A step of one side that commits nothing and sends no commit. -/
theorem Inv.advance {core : CoordinatorCore B} (hkeeps : (s.core side).Keeps core)
    (effects : List (CoreEffect B)) {sent : List PointerControlMessage}
    (hsent : commitIds sent = []) : (s.advance side core effects sent).Inv session := by
  refine h.of_keeps side hne ?_ (advance_core_other ..) fun x => ?_
  · rw [advance_core_self]
    exact hkeeps
  · rcases Side.eq_or_eq_other side x with rfl | rfl
    · rw [advance_link_self, commitIds_append, hsent, List.append_nil]
    · rw [advance_link_other]

end

/-- A dispatched effect. -/
theorem Inv.dispatch {ε : Type} (effect : CoreEffect B) (nowNs : ℕ)
    (transport : WireMessage → Bool → Except ε Unit) (effects : List (CoreEffect B)) :
    (s.advance side ((s.core side).dispatchEffect effect nowNs transport).core effects
      ((s.core side).dispatchEffect effect nowNs transport).sent.toList).Inv session := by
  have hcases := dispatchEffect_cases (s.core side) effect nowNs transport
  generalize (s.core side).dispatchEffect effect nowNs transport = done at hcases ⊢
  rcases hcases with ⟨hkeeps, hnone⟩ | ⟨c₁, commit, hkeeps, hsent, hcommits⟩
  · refine h.advance side hne hkeeps effects ?_
    cases hmessage : done.sent with
    | none => rfl
    | some message =>
      cases message with
      | commit m => exact absurd hmessage (hnone m)
      | leave | enter | ack => rfl
  · have h₁ : (s.advance side c₁ [] []).Inv session := h.advance side hne hkeeps [] rfl
    rw [hsent]
    refine Inv.of_commits h₁ side (?_ : Commits _ commit _) ?_ ?_ ?_
    · rwa [advance_core_self, advance_core_self]
    · rw [advance_core_other, advance_core_other]
    · rw [advance_link_self, advance_link_self, List.append_nil, commitIds_append]
      rfl
    · rw [advance_link_other, advance_link_other]

/-- A message that arrives. -/
theorem Inv.deliver {message : PointerControlMessage} {rest : List PointerControlMessage}
    (hlink : s.link side.other = message :: rest) (nowNs : ℕ) :
    ((s.arrived side.other rest).received session side
      ((s.core side).receive (session side) message nowNs)).Inv session := by
  have hkeeps := fun hnone : message.commitId? = none =>
    receive_keeps (s.core side) (session side) nowNs hnone
  generalize hr : (s.core side).receive (session side) message nowNs = r at hkeeps
  obtain ⟨_ | effects, c'⟩ := r
  · refine Inv.of_unbound side ?_
    rw [received, advance_core_self]
    exact c'.disconnectSession_unbound (session side)
  rw [received]
  cases hcommit : message.commitId? with
  | none =>
    refine h.of_keeps side hne ?_ (advance_core_other ..) fun x => ?_
    · rw [advance_core_self]
      exact hkeeps hcommit
    · rcases Side.eq_or_eq_other side x with rfl | rfl
      · rw [advance_link_self, List.append_nil, arrived_link_other]
      · rw [advance_link_other, arrived_link_self, hlink, commitIds, commitIds,
          List.filterMap_cons_none hcommit]
  | some id =>
    cases message with
    | leave | enter | ack => cases hcommit
    | commit commit =>
    dsimp only [CoordinatorCore.receive] at hr
    generalize hcommitted : (s.core side).receiveCommit _ commit _ = r at hr
    obtain ⟨_ | status, c'⟩ := r
    · cases hr
    cases hr
    obtain ⟨c₁, hkeeps₁, hresult⟩ := receiveCommit_ok hcommitted
    have h₁ : (s.advance side c₁ [] []).Inv session := h.advance side hne hkeeps₁ [] rfl
    have hids : commitIds ((s.advance side c₁ [] []).link side.other)
        = commit.transitionId :: commitIds rest := by
      rw [advance_link_other, hlink]
      rfl
    rcases hresult with ⟨rfl, hduplicate⟩ | happlies
    · -- The commit cannot be the one applied last, so some side is unbound.
      refine Inv.of_cores (s := s.advance side c₁ [] []) (fun hbound => ?_) (by rfl)
      refine SideInv.not_duplicate (h₁.sides hbound side.other) hids ?_
      rwa [Side.other_other, advance_core_self]
    · refine h₁.of_applies side hne (?_ : Applies _ commit _) ?_ ?_ ?_
      · rwa [advance_core_self, advance_core_self]
      · rw [advance_core_other, advance_core_other]
        rfl
      · rw [hids, advance_link_other, arrived_link_self]
      · rw [advance_link_self, advance_link_self, List.append_nil, List.append_nil,
          arrived_link_other]

end

/-- Every step of either side keeps the invariant. -/
theorem Inv.apply (h : s.Inv session)
    (hne : ∀ side, localHostId (session side) ≠ localHostId (session side.other))
    (action : HandoffAction) : (s.apply session action).Inv session := by
  have hkeeps {side : Side} {core : CoordinatorCore B} (hcore : (s.core side).Keeps core) :
      (s.advance side core [] []).Inv session := h.advance side (hne side) hcore [] rfl
  cases action with
  | propose side edge position nowNs =>
    exact h.advance side (hne side) (proposeLeave_keeps ..) _ rfl
  | dispatch side index nowNs taken =>
    change (s.dispatched side index nowNs taken).Inv session
    unfold dispatched
    split
    · exact h
    next effect _ =>
      have h₁ : Inv session { s with
          effects := Function.update s.effects side ((s.effects side).eraseIdx index) } :=
        h.of_keeps side (hne side) (.refl _) rfl fun _ => rfl
      exact h₁.dispatch side (hne side) effect nowNs _ _
  | deliver side nowNs =>
    change (s.delivered session side nowNs).Inv session
    unfold delivered
    split
    · exact h
    next hlink => exact h.deliver side (hne side) hlink nowNs
  | poll side nowNs =>
    have hpolled := pollTimeout_keeps (s.core side) nowNs
    change (s.polled session side nowNs).Inv session
    unfold polled
    generalize (s.core side).pollTimeout nowNs = r at hpolled
    obtain ⟨_ | expired, core⟩ := r
    · exact hkeeps hpolled
    · simp only
      split_ifs
      · exact hkeeps (hpolled.trans (disconnectSession_keeps core (session side)))
      · exact hkeeps hpolled
  | observe side pointer => exact hkeeps (observeLocalPointer_keeps ..)
  | degrade side => exact hkeeps (degradeSession_keeps ..)
  | markHealthy side => exact hkeeps (markSessionHealthy_keeps ..)
  | replaceWorkspace side workspace fallback =>
    exact hkeeps (replaceWorkspace_keeps ..)
  | disconnect side => exact hkeeps (disconnectSession_keeps ..)

/-! ## Runs -/

theorem Bound.fresh (h : s.Bound session) (side : Side) :
    (s.core side).FreshlyBound (session side) := by
  obtain ⟨owner, config, workspace, state, fallback, c, hnew, hbind⟩ := h.created side
  unfold CoordinatorCore.new at hnew
  split at hnew
  · cases hnew
  next hvalid =>
  cases hnew
  unfold CoordinatorCore.bindSession CoordinatorCore.ensureRunning at hbind
  rw [if_pos rfl] at hbind
  simp only [reduceCtorEq, if_false, Option.isSome_none, Bool.false_eq_true] at hbind
  split_ifs at hbind with hwrong
  · cases hbind
  · rw [← (Prod.mk.inj hbind).2]
    rw [not_or, not_not] at hwrong
    exact ⟨hvalid, hwrong.1.symm, hwrong.1 ▸ hwrong.2, rfl, rfl, rfl, rfl, rfl, rfl, rfl, rfl, rfl,
      rfl, rfl, rfl⟩

/-- The two hosts of a session are different. -/
theorem Bound.hosts_ne (h : s.Bound session) (side : Side) :
    localHostId (session side) ≠ localHostId (session side.other) := by
  rw [← h.peers side]
  exact (h.fresh side).remoteHost.symm

/-- Bound coordinators satisfy the invariant unless they start crossed. -/
theorem Bound.inv (h : s.Bound session) (hstart : ¬ s.Crossed session) : s.Inv session := by
  refine ⟨fun _ side => ?_, fun _ hcrossed => absurd hcrossed hstart⟩
  have hcommits : s.sentCommits side = [] := by
    rw [sentCommits, completedCommit, (h.fresh side.other).completedInbound,
      h.link side]
    rfl
  refine ⟨(h.fresh side).localHost, fun p hp => ?_, fun p hp => ?_, ?_, ?_⟩
  · rw [(h.fresh side).outbound] at hp
    cases hp
  · rw [(h.fresh side).inbound] at hp
    cases hp
  · rw [hcommits]
    exact List.Pairwise.nil
  · intro id hid
    rw [hcommits] at hid
    cases hid

/-- Authority never stays crossed. Two coordinators that are bound to one
    session and do not start crossed are not crossed in any reachable state in
    which both are still bound and no commit is on its way. -/
theorem authority_not_crossed (hbound : s.Bound session) (hstart : ¬ s.Crossed session)
    (actions : List HandoffAction) (hboth : (execute (apply session) s actions).BothBound session)
    (hdrained : ∀ side, commitIds ((execute (apply session) s actions).link side) = []) :
    ¬ (execute (apply session) s actions).Crossed session := by
  have hinv : (execute (apply session) s actions).Inv session :=
    execute_invariant (fun _ a h => h.apply hbound.hosts_ne a) actions (hbound.inv hstart)
  intro hcrossed
  obtain ⟨side, hside⟩ := hinv.crossed hboth hcrossed
  exact hside (hdrained side)

end HandoffPair

/-! ## A pair of neighbours -/

namespace HandoffPair

namespace Sample

def leftHost : HostId := ⟨1⟩
def rightHost : HostId := ⟨2⟩
def leftDisplay : DisplayId := ⟨1⟩
def rightDisplay : DisplayId := ⟨2⟩

/-- Two displays side by side, linked in both directions. -/
def workspace : ConfiguredWorkspace where
  epoch := 1
  protocolEpoch := 7
  displays := (OrdMap.empty.insert leftDisplay ⟨leftHost, ⟨100, 100⟩, ⟨0, 0, 100, 100⟩⟩).insert
    rightDisplay ⟨rightHost, ⟨100, 100⟩, ⟨100, 0, 100, 100⟩⟩
  links := (OrdMap.empty.insert (toLex (leftDisplay, edgeKey .right)) ⟨rightDisplay, .left⟩).insert
    (toLex (rightDisplay, edgeKey .left)) ⟨leftDisplay, .right⟩

def host : Side → HostId
  | .left => leftHost
  | .right => rightHost

def pointer : Side → LogicalPointer
  | .left => ⟨leftDisplay, 100, 50⟩
  | .right => ⟨rightDisplay, 0, 50⟩

/-- The edge through which a side leaves towards the other. -/
def edge : Side → Edge
  | .left => .right
  | .right => .left

def binding (side : Side) : PointerSessionBinding := ⟨1, host side, host side.other⟩

def config : PointerHandoffConfig := ⟨1000, by decide, by decide⟩

/-- A new coordinator with local authority. -/
def created (side : Side) : CoordinatorCore PointerSessionBinding where
  owner := (host side).raw
  config
  lifecycle := .running
  session := none
  sessionHealthy := false
  workspace
  workspaceState := WorkspaceState.new (host side) (host side) (pointer side)
  localFallback := pointer side
  lastNowNs := 0
  lastOutboundSequence := 0
  lastInboundSequence := 0
  outbound := none
  inbound := none
  completedOutbound := none
  completedInbound := none
  expiredInbound := none
  reply := none

/-- Both sides bound, both with local authority. -/
def start : HandoffPair PointerSessionBinding where
  core side := ((created side).bindSession (binding side)).2
  effects _ := []
  link _ := []

theorem start_bound : start.Bound binding where
  peers side := by cases side <;> rfl
  created side := by
    refine ⟨(host side).raw, config, workspace,
      WorkspaceState.new (host side) (host side) (pointer side), pointer side, created side, ?_, ?_⟩
    · cases side <;> rfl
    · cases side <;> rfl
  effects _ := rfl
  link _ := rfl

/-- A proposal of `side`, from time `t` on, up to the acknowledgement being sent. -/
def prepare (side : Side) (t : ℕ) : List HandoffAction :=
  [.propose side (edge side) (.finite (1 / 2)) t, .dispatch side 0 t true, .dispatch side 0 t true,
    .deliver side.other t, .deliver side.other t, .dispatch side.other 0 t true]

/-- A whole handoff away from `side`. -/
def handoff (side : Side) (t : ℕ) : List HandoffAction :=
  prepare side t ++ [.deliver side t, .dispatch side 0 t true, .deliver side.other t]

end Sample

open HandoffPair.Sample

/-- A handoff from the left side to the right one, and a second one back that is prepared. -/
theorem authority_not_crossed_handoff :
    ¬ (execute (apply binding) start
      (handoff .left 1 ++ prepare .right 2)).Crossed binding := by
  refine authority_not_crossed start_bound ?_ _ ?_ ?_
  · intro hcrossed
    exact absurd (hcrossed .left) (by decide +kernel)
  · intro side
    cases side <;> decide +kernel
  · intro side
    cases side <;> decide +kernel

example : ∀ side ∈ [Side.left, Side.right],
    ((execute (apply binding) start
      (handoff .left 1)).core side).workspaceState.activeHost = rightHost := by
  decide +kernel

example : ((execute (apply binding) start
    (handoff .left 1 ++ handoff .right 2)).core .left).workspaceState.activeHost
      = leftHost := by
  decide +kernel

end HandoffPair

end SoftwareKvm
