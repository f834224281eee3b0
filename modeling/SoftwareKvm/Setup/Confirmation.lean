import SoftwareKvm.Lib.Runs
import SoftwareKvm.Setup.Nearby

/-!
# Retransmission of a confirmed pairing

The panel that requested a pairing sends `Confirm` once when its operator confirms
and again from `refresh`, until the session expires. A confirmed session expires
`CONFIRM_RETRY_AFTER` after it was *created*, and it keeps the creation time of
the request it came from.

* `Kept.call`: through calls that neither decline nor clear it, the
  confirmed session stays as it is until that time has passed;
* `refresh_resends_confirm`: a `refresh` sends the packet again exactly before it.
-/

namespace SoftwareKvm

open Lib

namespace NearbyDiscovery

/-! ## Runs of calls -/

/-- The calls that the panel makes. -/
inductive Call
  | refresh (accepted : Bool)
  | pairingSnapshot
  | snapshot (peerConfigured : Bool) (waiting : Inbox)
  | requestPairing (accepted : Bool) (requestId peerId localBundle : List Char)
  | acceptPairing (accepted : Bool) (requestId localBundle : List Char)
  | confirmPairing (accepted : Bool) (requestId : List Char)
  | declinePairing (accepted : Bool) (requestId : List Char)
  | takeCompletedBundle
  | clearPairing (accepted : Bool)
  | publishWorkspaceLayout (accepted : Bool) (peerId : List Char) (revision : ℕ)
      (payload signature : List Char)
  | publishWorkspaceAck (accepted : Bool) (peerId : List Char) (revision : ℕ)
      (signature : List Char)
  | takeWorkspaceLayout
  | takeWorkspaceAck

/-- The discovery after a call at the instant `now`. -/
def call (codec : PanelCodec) (now : ℕ) (d : NearbyDiscovery) : Call → NearbyDiscovery
  | .refresh accepted => d.refresh accepted now
  | .pairingSnapshot => (d.pairingSnapshot now).2
  | .snapshot peerConfigured waiting => d.snapshot codec now peerConfigured waiting
  | .requestPairing accepted requestId peerId localBundle =>
    (requestPairing accepted now requestId peerId localBundle).ignore d
  | .acceptPairing accepted requestId localBundle =>
    (acceptPairing codec accepted now requestId localBundle).ignore d
  | .confirmPairing accepted requestId => (confirmPairing accepted now requestId).ignore d
  | .declinePairing accepted requestId => (declinePairing accepted requestId).ignore d
  | .takeCompletedBundle => d.takeCompletedBundle.2
  | .clearPairing accepted => d.clearPairing accepted
  | .publishWorkspaceLayout accepted peerId revision payload signature =>
    (publishWorkspaceLayout accepted now peerId revision payload signature).ignore d
  | .publishWorkspaceAck accepted peerId revision signature =>
    (publishWorkspaceAck accepted now peerId revision signature).ignore d
  | .takeWorkspaceLayout => d.takeWorkspaceLayout.2
  | .takeWorkspaceAck => d.takeWorkspaceAck.2

/-- A call and the instant it is made at. -/
structure TimedCall where
  now : ℕ
  call : Call

/-- The discovery and the instant of its last call. -/
structure Clocked where
  discovery : NearbyDiscovery
  clock : ℕ

def Clocked.apply (codec : PanelCodec) (s : Clocked) (timed : TimedCall) : Clocked :=
  ⟨s.discovery.call codec timed.now timed.call, timed.now⟩

/-- The call does not decline or clear the session of a request, nor use its fresh
    request id for another one. -/
def Call.Spares (requestId : List Char) : Call → Prop
  | .declinePairing _ other => other ≠ requestId
  | .clearPairing _ => False
  | .requestPairing _ other _ _ => other ≠ requestId
  | .snapshot _ waiting => ∀ received ∈ waiting, ∀ fromPeerId toPeerId,
      received.1 ≠ .pairing (.decline requestId fromPeerId toPeerId)
  | _ => True

/-- Time does not run backwards, and the session of the request is spared. -/
def Clocked.Undisturbed (requestId : List Char) (s : Clocked) (timed : TimedCall) : Prop :=
  s.clock ≤ timed.now ∧ timed.call.Spares requestId

/-! ## What sending changes -/

/-- The parts of the discovery that the pairing reads. -/
def pairingPart (d : NearbyDiscovery) :
    List Char × Option PairingSession × Option (List Char × List Char) :=
  (d.peerId, d.pairing, d.completedBundle)

/-- A packet about the workspace, not about a pairing. -/
def isWorkspacePacket : PairingPacket → Bool
  | .workspaceLayout .. | .workspaceLayoutAck .. => true
  | _ => false

/-- The pairing is untouched and only workspace packets have been sent. -/
def Apart (d d' : NearbyDiscovery) : Prop :=
  d'.pairingPart = d.pairingPart ∧
    ∃ newer, d'.sent = newer ++ d.sent ∧ ∀ entry ∈ newer, isWorkspacePacket entry.2 = true

instance : Std.Refl Apart := ⟨fun _ => ⟨rfl, [], rfl, nofun⟩⟩

instance : IsTrans NearbyDiscovery Apart where
  trans := by
    rintro d₁ d₂ d₃ ⟨hpart, newer, hsent, hworkspace⟩ ⟨hpart', newer', hsent', hworkspace'⟩
    refine ⟨hpart'.trans hpart, newer' ++ newer, by rw [hsent', hsent, List.append_assoc], ?_⟩
    intro entry hentry
    rcases List.mem_append.mp hentry with h | h
    · exact hworkspace' entry h
    · exact hworkspace entry h

/-- The entry was handed to the socket between the two states. -/
def Sends (d d' : NearbyDiscovery) (entry : SocketAddr × PairingPacket) : Prop :=
  ∃ newer, d'.sent = newer ++ d.sent ∧ entry ∈ newer

theorem sends_iff {d d' : NearbyDiscovery} {entry : SocketAddr × PairingPacket}
    (newer : List (SocketAddr × PairingPacket)) (h : d'.sent = newer ++ d.sent) :
    Sends d d' entry ↔ entry ∈ newer := by
  refine ⟨?_, fun hentry => ⟨newer, h, hentry⟩⟩
  rintro ⟨newer', h', hentry⟩
  rwa [← List.append_cancel_right (h'.symm.trans h)]

section

variable (accepted : Bool)

/-- A packet goes to a private address at the discovery port, if the socket takes it. -/
theorem sendPairingPacket_cases (target : SocketAddr) (packet : PairingPacket)
    (d : NearbyDiscovery) :
    ((target.port = discoveryPort ∧ Config.isLanIp target.ip = true ∧ accepted = true) ∧
        sendPairingPacket accepted target packet d =
          (.ok (), { d with sent := (target, packet) :: d.sent })) ∨
      (¬ (target.port = discoveryPort ∧ Config.isLanIp target.ip = true ∧ accepted = true) ∧
        sendPairingPacket accepted target packet d = (.error (), d)) := by
  unfold sendPairingPacket
  split_ifs with h
  · exact .inl ⟨h, rfl⟩
  · exact .inr ⟨h, rfl⟩

theorem sendPairingPacket_pairing (target : SocketAddr) (packet : PairingPacket) :
    Step.Ensures (Step.Same pairingPart) (sendPairingPacket accepted target packet) := by
  intro d
  rcases sendPairingPacket_cases accepted target packet d with ⟨-, h⟩ | ⟨-, h⟩ <;> rw [h] <;> rfl

theorem retryWorkspacePacket_apart (now : ℕ) (d : NearbyDiscovery) :
    Apart d (d.retryWorkspacePacket accepted now) := by
  unfold retryWorkspacePacket
  split
  · exact refl_of Apart d
  · split_ifs
    · exact refl_of Apart d
    · split
      · exact refl_of Apart d
      · rename_i workspace _ _ _ record _
        rcases sendPairingPacket_cases accepted ⟨record.address.ip, discoveryPort⟩
          (.workspaceLayout d.peerId workspace.peerId workspace.revision workspace.payload
            workspace.signature) d with ⟨-, h⟩ | ⟨-, h⟩ <;> rw [h]
        · exact ⟨rfl, [_], rfl, by simp [isWorkspacePacket]⟩
        · exact refl_of Apart d

theorem retryWorkspaceAckPacket_apart (now : ℕ) (d : NearbyDiscovery) :
    Apart d (d.retryWorkspaceAckPacket accepted now) := by
  unfold retryWorkspaceAckPacket
  split
  · exact refl_of Apart d
  · split_ifs
    · exact refl_of Apart d
    · split
      · exact refl_of Apart d
      · rename_i acknowledgement _ _ _ record _
        rcases sendPairingPacket_cases accepted ⟨record.address.ip, discoveryPort⟩
          (.workspaceLayoutAck d.peerId acknowledgement.peerId acknowledgement.revision
            acknowledgement.signature) d with ⟨-, h⟩ | ⟨-, h⟩ <;> rw [h]
        · exact ⟨rfl, [_], rfl, by simp [isWorkspacePacket]⟩
        · exact refl_of Apart d

/-- Past the pairing packet, `refresh` is about the workspace. -/
theorem refresh_apart (now : ℕ) (d : NearbyDiscovery) :
    Apart (d.retryPairingPacket accepted now) (d.refresh accepted now) :=
  trans_of Apart (retryWorkspacePacket_apart ..) (retryWorkspaceAckPacket_apart ..)

end

/-! ## A confirmed session -/

/-- The session of a confirmed request. -/
def Confirmed (details : PairingDetails) (d : NearbyDiscovery) : Prop :=
  ∃ lastSent, d.pairing = some (.outgoingConfirmed details lastSent)

/-- A session that this panel asked for. -/
def isOutgoing : PairingSession → Bool
  | .outgoingRequested .. | .outgoingAccepted .. | .outgoingConfirmed .. => true
  | .incomingRequested .. | .incomingAccepted .. => false

@[simp] theorem isOutgoing_setLastSent (now : ℕ) (session : PairingSession) :
    isOutgoing (session.setLastSent now) = isOutgoing session := by
  cases session <;> rfl

/-- No session that this panel asked for has the request id. -/
def Gone (requestId : List Char) (d : NearbyDiscovery) : Prop :=
  ∀ session, d.pairing = some session → isOutgoing session = true →
    session.details.requestId ≠ requestId

section

variable {codec : PanelCodec} {accepted : Bool} {now : ℕ} {d d' : NearbyDiscovery}
  {details : PairingDetails} {requestId : List Char}

theorem Gone.of_none (h : d.pairing = none) : Gone requestId d := by
  intro session hsession
  rw [h] at hsession
  cases hsession

/-- No session of the request is left, and its time has passed. -/
def Lapsed (details : PairingDetails) (now : ℕ) (d : NearbyDiscovery) : Prop :=
  Gone details.requestId d ∧ details.created + confirmRetryAfter ≤ now

/-- The confirmed session is there, or its time has passed. -/
def Kept (details : PairingDetails) (now : ℕ) (d : NearbyDiscovery) : Prop :=
  Confirmed details d ∨ Lapsed details now d

theorem Lapsed.congr (h : Lapsed details now d) (hpairing : d'.pairing = d.pairing) :
    Lapsed details now d' := by
  unfold Lapsed Gone
  rwa [hpairing]

theorem Kept.congr (h : Kept details now d) (hpairing : d'.pairing = d.pairing) :
    Kept details now d' := by
  unfold Kept Confirmed Lapsed Gone
  rwa [hpairing]

/-- A session that is not the confirmed one is replaced. -/
theorem Kept.replace (h : Kept details now d) (hother : ¬ Confirmed details d)
    (hgone : Gone details.requestId d → Gone details.requestId d') : Kept details now d' :=
  .inr ((h.resolve_left hother).imp_left hgone)

theorem expired_confirmed (lastSent : ℕ) :
    (PairingSession.outgoingConfirmed details lastSent).expired now = true ↔
      details.created + confirmRetryAfter ≤ now := by
  have hpositive : 0 < confirmRetryAfter := by decide
  rw [PairingSession.expired, decide_eq_true_eq]
  dsimp only [PairingSession.details]
  omega

variable {peerConfigured : Bool} {other localBundle : List Char}

section

variable (h : Kept details now d)

include h

/-- An expired session is dropped. -/
theorem Kept.drop (hexpired : ∀ session, d.pairing = some session → session.expired now = true)
    (hnone : d'.pairing = none) : Kept details now d' := by
  refine .inr ⟨.of_none hnone, ?_⟩
  rcases h with ⟨lastSent, hpairing⟩ | h
  · exact (expired_confirmed lastSent).mp (hexpired _ hpairing)
  · exact h.2

/-- A datagram that does not decline it leaves a confirmed session alone. -/
theorem Kept.receive {received : NearbyDatagram × SocketAddr} (hspared : ∀ fromPeerId toPeerId,
      received.1 ≠ .pairing (.decline details.requestId fromPeerId toPeerId)) :
    Kept details now (d.receive codec now peerConfigured received) := by
  cases (receive_effect codec now peerConfigured d received).change with
  | kept pairing _ => exact h.congr pairing
  | requested _ _ free pairing _ =>
    refine h.replace ?_ fun _ session hsession houtgoing => ?_
    · rintro ⟨lastSent, hpairing⟩
      obtain ⟨_, _, _, hsession⟩ := free _ hpairing
      cases hsession
    · cases pairing.symm.trans hsession
      cases houtgoing
  | accepted _ _ _ _ waiting pairing _ =>
    refine h.replace ?_ fun hgone session hsession _ => ?_
    · rintro ⟨lastSent, hpairing⟩
      cases hpairing.symm.trans waiting
    · cases pairing.symm.trans hsession
      exact hgone (.outgoingRequested ..) waiting rfl
  | completed _ _ _ _ _ _ waiting pairing _ =>
    refine h.replace ?_ fun _ => .of_none pairing
    rintro ⟨lastSent, hpairing⟩
    cases hpairing.symm.trans waiting
  | declined session packet present pairing _ =>
    refine h.replace ?_ fun _ => .of_none pairing
    rintro ⟨lastSent, hpairing⟩
    cases hpairing.symm.trans present
    exact hspared _ _ packet

theorem Kept.receiveAll {received : Inbox} (hspared : ∀ entry ∈ received, ∀ fromPeerId toPeerId,
      entry.1 ≠ .pairing (.decline details.requestId fromPeerId toPeerId)) :
    Kept details now (received.foldl (NearbyDiscovery.receive codec now peerConfigured) d) := by
  induction received generalizing d with
  | nil => exact h
  | cons entry rest ih =>
    exact ih (h.receive (hspared entry List.mem_cons_self))
      fun other hother => hspared other (List.mem_cons_of_mem _ hother)

theorem Kept.dropExpired : Kept details now (d.dropExpired now) := by
  unfold NearbyDiscovery.dropExpired
  split_ifs with hexpired
  · refine h.drop (fun session hsession => ?_) rfl
    rwa [hsession] at hexpired
  · exact h

end

/-- What `retry_pairing_packet` does: drop an expired session, send its packet again
    when it is due, or nothing. -/
inductive Retried (accepted : Bool) (now : ℕ) (d : NearbyDiscovery) : NearbyDiscovery → Prop
  | expired (session : PairingSession) (present : d.pairing = some session)
      (late : session.expired now = true) : Retried accepted now d { d with pairing := none }
  | resent (session : PairingSession) (packet : PairingPacket) (lastSent : ℕ)
      (present : d.pairing = some session) (live : session.expired now = false)
      (packet_eq : retryPacket d.peerId session = some (packet, lastSent)) :
      Retried accepted now d { d with
        sent := (session.details.address, packet) :: d.sent
        pairing := some (session.setLastSent now) }
  | quiet (live : ∀ session, d.pairing = some session → session.expired now = false ∧
        ∀ packet lastSent, retryPacket d.peerId session = some (packet, lastSent) →
          beaconInterval ≤ now - lastSent → ¬ (session.details.address.port = discoveryPort ∧
            Config.isLanIp session.details.address.ip = true ∧ accepted = true)) :
      Retried accepted now d d

theorem retryPairingPacket_retried (accepted : Bool) (now : ℕ) (d : NearbyDiscovery) :
    Retried accepted now d (d.retryPairingPacket accepted now) := by
  unfold retryPairingPacket
  cases hpairing : d.pairing with
  | none => exact .quiet fun session hsession => by cases hpairing.symm.trans hsession
  | some session =>
    dsimp only [Option.any_some]
    by_cases hexpired : session.expired now = true
    · rw [if_pos hexpired]
      exact .expired session hpairing hexpired
    · rw [if_neg hexpired]
      rw [Bool.not_eq_true] at hexpired
      cases hretry : retryPacket d.peerId session with
      | none =>
        refine .quiet fun session' hsession' => ?_
        cases hpairing.symm.trans hsession'
        exact ⟨hexpired, fun _ _ h => by cases hretry.symm.trans h⟩
      | some entry =>
        obtain ⟨packet, lastSent⟩ := entry
        dsimp only
        split_ifs with hdue
        · rcases sendPairingPacket_cases accepted session.details.address packet d with
            ⟨-, h⟩ | ⟨hrefused, h⟩ <;> rw [h]
          · exact .resent session packet lastSent hpairing hexpired hretry
          · refine .quiet fun session' hsession' => ?_
            cases hpairing.symm.trans hsession'
            exact ⟨hexpired, fun _ _ _ _ => hrefused⟩
        · refine .quiet fun session' hsession' => ?_
          cases hpairing.symm.trans hsession'
          refine ⟨hexpired, fun packet' lastSent' h hdue' => ?_⟩
          cases hretry.symm.trans h
          exact absurd hdue' hdue

theorem Kept.retryPairingPacket (h : Kept details now d) :
    Kept details now (d.retryPairingPacket accepted now) := by
  have hretried := retryPairingPacket_retried accepted now d
  generalize d.retryPairingPacket accepted now = d' at hretried
  cases hretried with
  | expired session present late =>
    refine h.drop (fun other hother => ?_) rfl
    cases present.symm.trans hother
    exact late
  | resent session packet lastSent present _ _ =>
    rcases h with ⟨lastSent, hpairing⟩ | ⟨hgone, htime⟩
    · cases hpairing.symm.trans present
      exact .inl ⟨now, rfl⟩
    · refine .inr ⟨fun later hlater houtgoing => ?_, htime⟩
      cases hlater
      rw [PairingSession.details_setLastSent]
      exact hgone session present (by simpa using houtgoing)
  | quiet _ => exact h

/-- What a `refresh` sends about the pairing is what `retry_pairing_packet` sends. -/
theorem refresh_sends {entry : SocketAddr × PairingPacket}
    (hpairing : isWorkspacePacket entry.2 = false) :
    Sends d (d.refresh accepted now) entry ↔
      Sends d (d.retryPairingPacket accepted now) entry := by
  obtain ⟨-, newer, hsent, hworkspace⟩ := refresh_apart accepted now d
  obtain ⟨older, holder⟩ : ∃ older, (d.retryPairingPacket accepted now).sent = older ++ d.sent := by
    have hretried := retryPairingPacket_retried accepted now d
    generalize d.retryPairingPacket accepted now = d' at hretried
    cases hretried with
    | expired _ _ _ => exact ⟨[], rfl⟩
    | resent session packet _ _ _ _ => exact ⟨[(session.details.address, packet)], rfl⟩
    | quiet _ => exact ⟨[], rfl⟩
  have hall : (d.refresh accepted now).sent = (newer ++ older) ++ d.sent := by
    rw [hsent, holder, List.append_assoc]
  rw [sends_iff _ hall, sends_iff _ holder, List.mem_append]
  refine or_iff_right fun hnew => ?_
  rw [hworkspace entry hnew] at hpairing
  cases hpairing

/-- Once the time has passed, sending changes nothing about it. -/
theorem Lapsed.send {target : SocketAddr} {packet : PairingPacket} :
    Step.Triple (Lapsed details now) (sendPairingPacket accepted target packet)
      (fun _ => Lapsed details now) (Kept details now) :=
  .of_ensures (sendPairingPacket_pairing _ _ _)
    (fun _ _ hsame h => h.congr (congrArg (·.2.1) hsame)) fun _ => .inr

/-- No other session can begin beside a confirmed one. -/
theorem Kept.requestPairing {peerId : List Char} (hother : other ≠ details.requestId) :
    Step.Triple (Kept details now) (requestPairing accepted now other peerId localBundle)
      (fun _ => Kept details now) (Kept details now) := by
  refine .bind (.guard (fun _ h _ => h) fun _ h _ => h) fun _ =>
    .bind (.need (fun _ _ h _ => h) fun _ h => h) fun record =>
    .bind (.guard (r := fun _ => Lapsed details now) (fun d h hfree => h.resolve_left ?_)
      fun _ h _ => h) fun _ =>
    .bind (.read fun _ h => h) fun own => .bind Lapsed.send fun _ => .update fun d h =>
      .inr ⟨?_, h.2⟩
  · rintro ⟨lastSent, hpairing⟩
    simp [hpairing] at hfree
  · intro session hsession _
    cases hsession
    exact hother

theorem Kept.acceptPairing :
    Step.Triple (Kept details now) (acceptPairing codec accepted now other localBundle)
      (fun _ => Kept details now) (Kept details now) := by
  refine .bind (.need (q := fun _ => Lapsed details now) (fun d _ h hwaiting => h.resolve_left ?_)
      fun _ h => h) fun (request, remoteBundle) =>
    .bind (.guard (fun _ h _ => h) fun _ h _ => .inr h) fun _ =>
    .bind (.read fun _ h => h) fun own => .bind Lapsed.send fun _ => .update fun d h =>
      .inr ⟨?_, h.2⟩
  · rintro ⟨lastSent, hpairing⟩
    simp [waitingRequest, hpairing] at hwaiting
  · intro session hsession houtgoing
    cases hsession
    cases houtgoing

theorem Kept.confirmPairing :
    Step.Triple (Kept details now) (confirmPairing accepted now other)
      (fun _ => Kept details now) (Kept details now) := by
  refine .bind (.need (q := fun request d => Lapsed details now d ∧
    request.requestId ≠ details.requestId) (fun d request h hrequest => ?_) fun _ h => h)
    fun request => .of_fact (f := Kept details now) fun hrequest => ?_
  · unfold acceptedRequest at hrequest
    split at hrequest
    · rename_i hpairing
      cases hrequest
      have hlapsed := h.resolve_left fun ⟨_, hconfirmed⟩ => by cases hpairing.symm.trans hconfirmed
      exact ⟨hlapsed, hlapsed.1 (.outgoingAccepted ..) hpairing rfl⟩
    · cases hrequest
  · refine .bind (.guard (fun _ h _ => h) fun _ h _ => .inr h) fun _ =>
      .bind (.read fun _ h => h) fun own => .bind Lapsed.send fun _ =>
      .update fun d h => .inr ⟨fun session hsession _ => ?_, h.2⟩
    cases hsession
    exact hrequest

theorem Kept.declinePairing (hother : other ≠ details.requestId) :
    Step.Triple (Kept details now) (declinePairing accepted other)
      (fun _ => Kept details now) (Kept details now) := by
  refine .bind (.need (q := fun session d => Kept details now d ∧ d.pairing = some session)
    (fun _ _ h hsession => ⟨h, hsession⟩) fun _ h => h) fun session =>
    .bind (.guard (r := fun _ => Lapsed details now) (fun d h hsame => h.1.resolve_left ?_)
      fun _ h _ => h.1) fun _ =>
    .bind (.read fun _ h => h) fun _ =>
    .bind (.of_ensures (.attempt (sendPairingPacket_pairing _ _ _))
      (fun _ _ hsame h => h.congr (congrArg (·.2.1) hsame)) fun _ => .inr) fun _ =>
    .update fun _ h => .inr ⟨.of_none rfl, h.2⟩
  rintro ⟨lastSent, hpairing⟩
  cases hpairing.symm.trans h.2
  exact hother (beq_iff_eq.mp hsame).symm

/-- A call that spares a confirmed session leaves it alone, or drops it when its time
    has passed. -/
theorem Kept.call (h : Kept details now d) {call : Call}
    (hspares : call.Spares details.requestId) : Kept details now (d.call codec now call) := by
  cases call with
  | refresh accepted =>
    exact h.retryPairingPacket.congr (congrArg (·.2.1) (refresh_apart accepted now d).1)
  | pairingSnapshot => exact h.dropExpired
  | snapshot peerConfigured waiting =>
    exact (h.receiveAll fun received hreceived =>
      hspares received (List.mem_of_mem_take hreceived)).congr rfl
  | requestPairing accepted other peerId localBundle =>
    exact Step.Triple.ignore (Kept.requestPairing hspares) h
  | acceptPairing accepted other localBundle => exact Step.Triple.ignore Kept.acceptPairing h
  | confirmPairing accepted other => exact Step.Triple.ignore Kept.confirmPairing h
  | declinePairing accepted other => exact Step.Triple.ignore (Kept.declinePairing hspares) h
  | clearPairing accepted => exact hspares.elim
  | publishWorkspaceLayout accepted peerId revision payload signature =>
    have hapart : Step.Ensures Apart
        (NearbyDiscovery.publishWorkspaceLayout accepted now peerId revision payload
          signature) := by
      refine .bind (.guard _ _) fun _ => .bind (.update fun d => ?_) fun _ =>
        .update (retryWorkspacePacket_apart accepted now)
      split_ifs
      · exact ⟨rfl, [], rfl, nofun⟩
      · exact refl_of Apart d
    exact h.congr (congrArg (·.2.1) (hapart d).1)
  | publishWorkspaceAck accepted peerId revision signature =>
    have hapart : Step.Ensures Apart
        (NearbyDiscovery.publishWorkspaceAck accepted now peerId revision signature) := by
      refine .bind (.guard _ _) fun _ => .bind (.update fun d => ?_) fun _ =>
        .update (retryWorkspaceAckPacket_apart accepted now)
      split_ifs
      · exact ⟨rfl, [], rfl, nofun⟩
      · exact refl_of Apart d
    exact h.congr (congrArg (·.2.1) (hapart d).1)
  | takeCompletedBundle | takeWorkspaceLayout | takeWorkspaceAck => exact h.congr rfl

/-- A `refresh` of a live confirmed session sends the packet again when it is due. -/
theorem Confirmed.refresh_sends (h : Confirmed details d)
    (haddress : details.address.port = discoveryPort ∧
      Config.isLanIp details.address.ip = true)
    (hdue : ∀ details lastSent, d.pairing = some (.outgoingConfirmed details lastSent) →
      beaconInterval ≤ now - lastSent) :
    Sends d (d.refresh true now)
        (details.address, .confirm details.requestId d.peerId details.peerId) ↔
      now < details.created + confirmRetryAfter := by
  obtain ⟨lastSent, hpairing⟩ := h
  rw [NearbyDiscovery.refresh_sends rfl]
  have hretried := retryPairingPacket_retried true now d
  generalize d.retryPairingPacket true now = d' at hretried
  cases hretried with
  | expired session present late =>
    cases hpairing.symm.trans present
    have htime := (expired_confirmed lastSent).mp late
    exact ⟨fun hsends => absurd ((sends_iff [] rfl).mp hsends) List.not_mem_nil,
      fun hearly => absurd htime (Nat.not_le.mpr hearly)⟩
  | resent session packet lastSent' present live packet_eq =>
    cases hpairing.symm.trans present
    cases packet_eq
    have htime : ¬ details.created + confirmRetryAfter ≤ now := fun htime => by
      rw [(expired_confirmed lastSent).mpr htime] at live
      cases live
    exact ⟨fun _ => Nat.not_le.mp htime, fun _ => ⟨[_], rfl, List.mem_singleton_self _⟩⟩
  | quiet live =>
    have hlive := live _ hpairing
    exact absurd ⟨haddress.1, haddress.2, rfl⟩ (hlive.2 _ _ rfl (hdue _ _ hpairing))

/-- A `refresh` sends nothing about a request whose session is gone. -/
theorem Gone.not_sends (h : Gone requestId d) (target : SocketAddr)
    (fromPeerId toPeerId : List Char) :
    ¬ Sends d (d.refresh accepted now) (target, .confirm requestId fromPeerId toPeerId) := by
  rw [NearbyDiscovery.refresh_sends rfl]
  intro hsends
  have hretried := retryPairingPacket_retried accepted now d
  generalize d.retryPairingPacket accepted now = d' at hretried hsends
  cases hretried with
  | expired _ _ _ | quiet _ => exact List.not_mem_nil ((sends_iff [] rfl).mp hsends)
  | resent session packet lastSent present live packet_eq =>
    cases List.mem_singleton.mp ((sends_iff [_] rfl).mp hsends)
    cases session with
    | outgoingConfirmed details lastSent =>
      cases packet_eq
      exact h _ present rfl rfl
    | outgoingRequested _ _ _ | incomingRequested _ _ | incomingAccepted _ _ _ _ _
    | outgoingAccepted _ _ _ => cases packet_eq

/-- After a confirmation, in every run of calls that neither declines nor clears the
    session, a due `refresh` sends the `Confirm` packet again exactly until
    `CONFIRM_RETRY_AFTER` after the original request was created; and a responder that
    accepted the request completes on that packet. -/
theorem refresh_resends_confirm {t : ℕ} {d₁ : NearbyDiscovery} {calls : List TimedCall}
    (hconfirm : confirmPairing accepted t requestId d = (.ok (), d₁))
    (hrun : Admissible (Clocked.Undisturbed requestId) (Clocked.apply codec) ⟨d₁, t⟩ calls)
    {s : Clocked} (hs : s = execute (Clocked.apply codec) ⟨d₁, t⟩ calls) (hnow : s.clock ≤ now)
    (hdue : ∀ details lastSent, s.discovery.pairing = some (.outgoingConfirmed details lastSent) →
      beaconInterval ≤ now - lastSent) :
    ∃ details remoteBundle code,
      d.pairing = some (.outgoingAccepted details remoteBundle code) ∧
      (Sends s.discovery (s.discovery.refresh true now)
          (details.address, .confirm requestId s.discovery.peerId details.peerId) ↔
        now < details.created + confirmRetryAfter) ∧
      ∀ (responder : NearbyDiscovery) (request : PairingDetails) (theirs ours code' : List Char)
        (lastSent arrival : ℕ) (source : SocketAddr) (peerConfigured : Bool),
        responder.pairing = some (.incomingAccepted request theirs ours code' lastSent) →
        request.requestId = requestId → request.peerId = s.discovery.peerId →
        responder.peerId = details.peerId → Config.isLanIp source.ip = true →
        source.port = discoveryPort → source.ip = request.address.ip →
        (responder.handlePairingPacket codec
          (.confirm requestId s.discovery.peerId details.peerId) source arrival
          peerConfigured).completedBundle.isSome = true := by
  obtain ⟨details, remoteBundle, code, hpairing, rfl, haddress, hconfirmed⟩ :
      ∃ details remoteBundle code, d.pairing = some (.outgoingAccepted details remoteBundle code) ∧
        details.requestId = requestId ∧
        (details.address.port = discoveryPort ∧ Config.isLanIp details.address.ip = true) ∧
        d₁.pairing = some (.outgoingConfirmed details t) := by
    obtain ⟨details, d₀, hneed, h⟩ := Step.bind_eq_ok hconfirm
    obtain ⟨_, d₂, hguard, h⟩ := Step.bind_eq_ok h
    obtain ⟨own, d₃, hread, h⟩ := Step.bind_eq_ok h
    obtain ⟨_, d₄, hsend, h⟩ := Step.bind_eq_ok h
    obtain ⟨haccepted, rfl⟩ := Step.need_eq_ok hneed
    obtain ⟨hsame, rfl⟩ := Step.guard_eq_ok hguard
    cases hread
    obtain ⟨haddress, hsent⟩ | ⟨-, hsent⟩ := sendPairingPacket_cases accepted details.address
      (.confirm details.requestId d₂.peerId details.peerId) d₂
    · cases hsend.symm.trans hsent
      cases h
      unfold acceptedRequest at haccepted
      split at haccepted
      · rename_i remoteBundle code hpairing
        cases haccepted
        exact ⟨details, remoteBundle, code, hpairing, (beq_iff_eq.mp hsame).symm,
          ⟨haddress.1, haddress.2.1⟩, rfl⟩
      · cases haccepted
    · cases hsend.symm.trans hsent
  refine ⟨details, remoteBundle, code, hpairing, ?_, ?_⟩
  rotate_left
  · intro responder request theirs ours code' lastSent arrival source peerConfigured hresponder
      hrequest hfrom hto hlan hport hsource
    rw [← hrequest, ← hfrom, ← hto]
    have haccepted : ¬ (¬ Config.isLanIp source.ip = true ∨ source.port ≠ discoveryPort) := by
      simp [hlan, hport]
    rw [handlePairingPacket, if_neg haccepted]
    rw [handlePairingConfirm, hresponder]
    dsimp only
    rw [if_neg (by simp [hsource])]
    cases responder.completedBundle <;> rfl
  -- in an undisturbed run the confirmed session stays until its time has passed
  have hinvariant : Kept details s.clock s.discovery := by
    rw [hs]
    refine Admissible.invariant
      (fun (s : Clocked) timed hstep (hkept : Kept details s.clock s.discovery) => ?_) hrun
      (.inl ⟨t, hconfirmed⟩)
    exact Kept.call (hkept.imp_right fun h => ⟨h.1, h.2.trans hstep.1⟩) hstep.2
  rcases hinvariant with hlive | ⟨hgone, htime⟩
  · exact hlive.refresh_sends haddress hdue
  · exact ⟨fun hsends => absurd hsends (hgone.not_sends _ _ _),
      fun hearly => absurd (htime.trans hnow) (Nat.not_le.mpr hearly)⟩

end

/-! ## A sample confirmation -/

namespace Sample

def request : PairingDetails :=
  { requestId := ['r'], peerId := ['b'], name := ['B'], platform := ['w'],
    address := ⟨.v4 192 168 0 2, discoveryPort⟩, created := 0 }

/-- The request of instant 0 has been accepted. -/
def accepted : NearbyDiscovery :=
  { peerId := ['a'], runtimePort := 24800,
    pairing := some (.outgoingAccepted request ['x'] ['c']) }

/-- The discovery once its operator has confirmed at an instant. -/
def confirmed (t : ℕ) : NearbyDiscovery := (confirmPairing true t ['r'] accepted).2

/-- Confirmed 20 seconds after the request, the packet is not sent again 2.5 seconds
    later, and the session is gone. -/
theorem late_confirmation_not_resent :
    (confirmPairing true 20000 ['r'] accepted).1 = .ok () ∧
      (confirmed 20000).sent.length = 1 ∧
      ((confirmed 20000).refresh true 22500).sent.length = 1 ∧
      ((confirmed 20000).refresh true 22500).pairing = none := by
  decide +kernel

/-- Confirmed after one second, the packet is sent again three seconds later. -/
theorem refresh_resends_confirm_prompt :
    (confirmPairing true 1000 ['r'] accepted).1 = .ok () ∧
      Sends (confirmed 1000) ((confirmed 1000).refresh true 4000)
        (request.address, .confirm ['r'] ['a'] ['b']) := by
  have hconfirm : (confirmPairing true 1000 ['r'] accepted).1 = .ok () := by decide +kernel
  have hpairing : (confirmed 1000).pairing = some (.outgoingConfirmed request 1000) := by
    decide +kernel
  refine ⟨hconfirm, ?_⟩
  obtain ⟨details, remoteBundle, code, haccepted, hiff, -⟩ :=
    refresh_resends_confirm (Prod.ext hconfirm rfl)
      (show Admissible _ (Clocked.apply PanelCodec.Sample.codec) _ [] from trivial) rfl
      (show 1000 ≤ 4000 by decide) (by
        intro details lastSent h
        cases hpairing.symm.trans h
        decide)
  cases haccepted
  exact hiff.mpr (by decide)

end Sample

end NearbyDiscovery

end SoftwareKvm
