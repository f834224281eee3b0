import SoftwareKvm.Setup.Confirmation
import SoftwareKvm.Setup.Install

/-!
# Trust through nearby pairing

The setup console as its operator and the network drive it: the commands of
`setup.rs` that pair two computers, and `SetupService::snapshot`, which receives
packets, installs a completed pairing and shows the verification code. Every
command ends with a snapshot. A log records what counts for trust: which bundle
the panel offered, which codes `pairing_snapshot` exposed, which requests the
operator decided on and which bundles went to `install_peer_bundle`.

* `PairingInv`: what the session and the completed bundle say about the log;
* `pairing_compared`: a peer installed by nearby pairing was decided on after its
  code had been exposed, in every run in which no `Confirm` packet completes an
  accepted request that the operator has not decided on since.

The side that accepts a request decides before it has a code to compare, and a
`Confirm` packet is not authenticated (`Sample.accepted_before_code`).
The synchronisation of the workspace, which `snapshot` goes on to, sets no peer
and is left out.
-/

namespace SoftwareKvm

open Lib NearbyDiscovery

/-- What counts for the trust in a peer. -/
inductive PairingEvent
  | offered (requestId localBundle : List Char)
  | exposed (requestId code : List Char)
  | decided (requestId : List Char)
  | installs (requestId bundle : List Char)
  deriving DecidableEq

/-- The setup console; `log` has the latest event first. -/
structure Console where
  panel : Panel
  discovery : NearbyDiscovery
  log : List PairingEvent := []

/-- What a snapshot meets: whether the runtime can be polled, whether the socket takes
    packets, the datagrams that wait for the first and the second drain, the file
    operations of an installation and the instants of its parts. -/
structure SnapshotInputs where
  polled : Bool := true
  accepted : Bool := true
  waiting : Inbox := []
  waitingAgain : Inbox := []
  faults : Panel.InstallFaults := {}
  refreshedAt : ℕ := 0
  receivedAt : ℕ := 0
  exposedAt : ℕ := 0

/-- What a command meets: whether the runtime is stopped, its own bundle if it can be read, whether
    the socket takes packets, the instant, and what the snapshot at its end meets. -/
structure CommandInputs where
  stopped : Bool := true
  localBundle : Option (List Char) := none
  accepted : Bool := true
  faults : Panel.InstallFaults := {}
  now : ℕ := 0
  closing : SnapshotInputs := {}

inductive ConsoleAction
  | snapshot (inputs : SnapshotInputs)
  | importPeerBundle (inputs : CommandInputs) (bundle : List Char)
  | requestNearbyPairing (inputs : CommandInputs) (requestId peerId : List Char)
  | acceptNearbyPairing (inputs : CommandInputs) (requestId : List Char)
  | confirmNearbyPairing (inputs : CommandInputs) (requestId : List Char)
  | declineNearbyPairing (inputs : CommandInputs) (requestId : List Char)
  | forgetPairedComputer (inputs : CommandInputs) (removed : Bool)

namespace Console

section

variable (codec : PanelCodec) (platform : Platform)

/-- The commands that pair need a local identity and no peer. -/
def unpaired (c : Console) : Bool :=
  c.panel.inner.storedLocal.isSome && c.panel.inner.peer.isNone

/-- The installation of a completed pairing in `snapshot`, and whether the setup that
    `snapshot` goes on with has a peer. -/
def installCompleted (faults : Panel.InstallFaults) (requestId bundle : List Char) (c : Console) :
    Bool × Console :=
  if c.panel.inner.peer.isNone then
    let c := { c with log := .installs requestId bundle :: c.log }
    match Panel.installPeerBundle codec platform faults bundle .follower c.panel with
    | (.ok (), panel) => (panel.inner.peer.isSome, { c with panel })
    | (.error _, panel) => (false, { c with panel })
  else (true, c)

/-- The code that a dto shows, as an event. -/
def exposure (dto : Option NearbyPairingDto) : List PairingEvent :=
  match dto with
  | some dto => dto.verificationCode.toList.map (.exposed dto.requestId)
  | none => []

/-- `SetupService::snapshot`, up to the pairing it shows. -/
def snapshot (inputs : SnapshotInputs) (c : Console) : Console :=
  if inputs.polled then
    let d := c.discovery.refresh inputs.accepted inputs.refreshedAt
    let d := d.snapshot codec inputs.receivedAt c.panel.inner.peer.isSome inputs.waiting
    let (completed, d) := d.takeCompletedBundle
    let c := { c with discovery := d }
    let c := match completed with
      | none => c
      | some (requestId, bundle) =>
        let (configured, c) := installCompleted codec platform inputs.faults requestId bundle c
        { c with
          discovery :=
            c.discovery.snapshot codec inputs.receivedAt configured inputs.waitingAgain }
    let (dto, d) := c.discovery.pairingSnapshot inputs.exposedAt
    { c with discovery := d, log := exposure dto ++ c.log }
  else c

/-! The commands, each up to the snapshot at its end; an error means that it does
not get there. -/

variable (inputs : CommandInputs)

def importPeerBundle (bundle : List Char) (c : Console) : Except Unit Unit × Console :=
  if inputs.stopped then
    match Panel.installPeerBundle codec platform inputs.faults bundle .unassigned c.panel with
    | (.ok (), panel) => (.ok (), { c with panel })
    | (.error _, panel) => (.error (), { c with panel })
  else (.error (), c)

/-- `request_nearby_pairing`, with the fresh request id. -/
def requestNearbyPairing (requestId peerId : List Char) (c : Console) :
    Except Unit Unit × Console :=
  if inputs.stopped && c.unpaired then
    match inputs.localBundle with
    | none => (.error (), c)
    | some bundle =>
      match requestPairing inputs.accepted inputs.now requestId peerId bundle c.discovery with
      | (.ok (), d) =>
        (.ok (), { c with discovery := d, log := .offered requestId bundle :: c.log })
      | (.error (), d) => (.error (), { c with discovery := d })
  else (.error (), c)

def acceptNearbyPairing (requestId : List Char) (c : Console) : Except Unit Unit × Console :=
  let c := { c with log := .decided requestId :: c.log }
  if inputs.stopped && c.unpaired then
    match c.discovery.incomingPairingBundle requestId with
    | none => (.error (), c)
    | some remoteBundle =>
      match codec.validatePeerBundle platform c.panel.inner remoteBundle, inputs.localBundle with
      | .ok _, some bundle =>
        match acceptPairing codec inputs.accepted inputs.now requestId bundle c.discovery with
        | (.ok (), d) =>
          (.ok (), { c with discovery := d, log := .offered requestId bundle :: c.log })
        | (.error (), d) => (.error (), { c with discovery := d })
      | _, _ => (.error (), c)
  else (.error (), c)

def confirmNearbyPairing (requestId : List Char) (c : Console) : Except Unit Unit × Console :=
  let c := { c with log := .decided requestId :: c.log }
  if inputs.stopped && c.unpaired then
    match c.discovery.acceptedPairingBundle requestId with
    | none => (.error (), c)
    | some bundle =>
      match codec.validatePeerBundle platform c.panel.inner bundle with
      | .error _ => (.error (), c)
      | .ok _ =>
        match confirmPairing inputs.accepted inputs.now requestId c.discovery with
        | (.ok (), d) =>
          let c := { c with discovery := d, log := .installs requestId bundle :: c.log }
          match Panel.installPeerBundle codec platform inputs.faults bundle .leader c.panel with
          | (.ok (), panel) => (.ok (), { c with panel })
          | (.error _, panel) => (.error (), { c with panel })
        | (.error (), d) => (.error (), { c with discovery := d })
  else (.error (), c)

def declineNearbyPairing (requestId : List Char) (c : Console) : Except Unit Unit × Console :=
  if inputs.stopped then
    match declinePairing inputs.accepted requestId c.discovery with
    | (result, d) => (result, { c with discovery := d })
  else (.error (), c)

/-- `forget_paired_computer`; `removed` is whether the peer's files could be removed. -/
def forgetPairedComputer (removed : Bool) (c : Console) : Except Unit Unit × Console :=
  if inputs.stopped && c.panel.inner.storedLocal.isSome && c.panel.inner.peer.isSome then
    let panel := { c.panel with
      inner := { c.panel.inner with
        peer := none
        displayLayout := []
        workspaceRole := .unassigned
        workspaceRevision := 0
        workspaceAcknowledgedRevision := 0
        configured := false
        validated := false } }
    match Panel.save codec inputs.faults.state inputs.faults.stateUuid panel with
    | (.error _, panel) => (.error (), { c with panel })
    | (.ok (), panel) =>
      if removed then
        (.ok (), { c with panel, discovery := c.discovery.clearPairing inputs.accepted })
      else (.error (), { c with panel })
  else (.error (), c)

end

/-- What the snapshot at the end of an action meets. -/
def closing : ConsoleAction → SnapshotInputs
  | .snapshot inputs => inputs
  | .importPeerBundle inputs _ | .requestNearbyPairing inputs _ _
  | .acceptNearbyPairing inputs _ | .confirmNearbyPairing inputs _
  | .declineNearbyPairing inputs _ | .forgetPairedComputer inputs _ => inputs.closing

section

variable (codec : PanelCodec) (platform : Platform)

/-- An action up to the snapshot at its end. -/
def command (c : Console) : ConsoleAction → Except Unit Unit × Console
  | .snapshot _ => (.ok (), c)
  | .importPeerBundle inputs bundle => c.importPeerBundle codec platform inputs bundle
  | .requestNearbyPairing inputs requestId peerId => c.requestNearbyPairing inputs requestId peerId
  | .acceptNearbyPairing inputs requestId => c.acceptNearbyPairing codec platform inputs requestId
  | .confirmNearbyPairing inputs requestId =>
    c.confirmNearbyPairing codec platform inputs requestId
  | .declineNearbyPairing inputs requestId => c.declineNearbyPairing inputs requestId
  | .forgetPairedComputer inputs removed => c.forgetPairedComputer codec inputs removed

/-- The console after an action. -/
def apply (c : Console) (a : ConsoleAction) : Console :=
  match c.command codec platform a with
  | (.ok (), c) => c.snapshot codec platform (closing a)
  | (.error (), c) => c

end

/-! ## What the operator could compare -/

section

variable (codec : PanelCodec)

/-- The operator decided on a request after a code for it had been exposed. -/
def DecidedAfter (log : List PairingEvent) (requestId code : List Char) : Prop :=
  ∃ earlier, .decided requestId :: earlier <:+ log ∧ .exposed requestId code ∈ earlier

/-- The operator decided on a request after the code of its two bundles, the remote one
    being `bundle`, had been exposed. -/
def ComparedText (log : List PairingEvent) (requestId bundle : List Char) : Prop :=
  ∃ localBundle, PairingEvent.offered requestId localBundle ∈ log ∧
    DecidedAfter log requestId (verificationCode codec requestId localBundle bundle)

/-- Since the log `before`, a bundle that decodes to `peer` was installed for a request, and by
    then the operator had decided on that request after its code had been exposed. -/
def Compared (before after : List PairingEvent) (peer : PairingBundle) : Prop :=
  ∃ requestId bundle earlier, codec.bundleOf bundle = some peer ∧ before <:+ earlier ∧
    .installs requestId bundle :: earlier <:+ after ∧ ComparedText codec earlier requestId bundle

end

/-! ## The invariant -/

section

variable (codec : PanelCodec)

/-- What a session says about the log. -/
def SessionTracked (log : List PairingEvent) : PairingSession → Prop
  | .outgoingRequested details localBundle _ =>
    PairingEvent.offered details.requestId localBundle ∈ log
  | .incomingAccepted details remoteBundle localBundle code _ =>
    PairingEvent.offered details.requestId localBundle ∈ log ∧
      code = verificationCode codec details.requestId localBundle remoteBundle
  | .outgoingAccepted details remoteBundle code =>
    ∃ localBundle, PairingEvent.offered details.requestId localBundle ∈ log ∧
      code = verificationCode codec details.requestId localBundle remoteBundle
  | .incomingRequested .. | .outgoingConfirmed .. => True

/-- What the discovery says about the log. -/
def Tracked (log : List PairingEvent) (d : NearbyDiscovery) : Prop :=
  (∀ session, d.pairing = some session → SessionTracked codec log session) ∧
    ∀ requestId bundle, d.completedBundle = some (requestId, bundle) →
      ComparedText codec log requestId bundle

/-- The code of an accepted request of this panel has been exposed. -/
def Shown (log : List PairingEvent) (d : NearbyDiscovery) : Prop :=
  ∀ details remoteBundle code, d.pairing = some (.outgoingAccepted details remoteBundle code) →
    PairingEvent.exposed details.requestId code ∈ log

/-- The invariant of the console between two actions. -/
def PairingInv (c : Console) : Prop := Tracked codec c.log c.discovery ∧ Shown c.log c.discovery

end

/-- The operator has decided on the request of an accepted session since its code was exposed. -/
def Ready (log : List PairingEvent) : PairingSession → Prop
  | .incomingAccepted details _ _ code _ => DecidedAfter log details.requestId code
  | _ => True

/-- None of the datagrams confirms the session before it is ready. -/
def Safe (log : List PairingEvent) (waiting : Inbox) (d : NearbyDiscovery) : Prop :=
  ∀ session, d.pairing = some session →
    (∃ received ∈ waiting, ∃ fromPeerId toPeerId,
      received.1 = .pairing (.confirm session.details.requestId fromPeerId toPeerId)) →
    Ready log session

/-- No `Confirm` packet that the snapshot of the action receives completes an accepted
    request before the operator has decided on it with its code exposed. -/
def Careful (codec : PanelCodec) (platform : Platform) (c : Console) (a : ConsoleAction) : Prop :=
  ∀ c', c.command codec platform a = (.ok (), c') →
    Safe c'.log ((closing a).waiting ++ (closing a).waitingAgain) c'.discovery

section

variable {codec : PanelCodec} {log : List PairingEvent} {d d' : NearbyDiscovery} {waiting : Inbox}

variable (events : List PairingEvent)

theorem DecidedAfter.append {requestId code : List Char}
    (h : DecidedAfter log requestId code) : DecidedAfter (events ++ log) requestId code := by
  obtain ⟨earlier, hlog, hexposed⟩ := h
  exact ⟨earlier, hlog.trans (List.suffix_append events log), hexposed⟩

theorem ComparedText.append {requestId bundle : List Char}
    (h : ComparedText codec log requestId bundle) :
    ComparedText codec (events ++ log) requestId bundle := by
  obtain ⟨localBundle, hoffered, hdecided⟩ := h
  exact ⟨localBundle, List.mem_append_right _ hoffered, hdecided.append events⟩

variable {session : PairingSession} {peerConfigured : Bool}

theorem SessionTracked.append
    (h : SessionTracked codec log session) : SessionTracked codec (events ++ log) session := by
  cases session with
  | outgoingRequested _ _ _ => exact List.mem_append_right _ h
  | incomingAccepted _ _ _ _ _ => exact ⟨List.mem_append_right _ h.1, h.2⟩
  | outgoingAccepted _ _ _ =>
    obtain ⟨localBundle, hoffered, hcode⟩ := h
    exact ⟨localBundle, List.mem_append_right _ hoffered, hcode⟩
  | incomingRequested _ _ | outgoingConfirmed _ _ => trivial

section

variable (h : Tracked codec log d)

include h

theorem Tracked.append : Tracked codec (events ++ log) d :=
  ⟨fun session hsession => (h.1 session hsession).append events,
    fun requestId bundle hbundle => (h.2 requestId bundle hbundle).append events⟩

theorem Tracked.congr (hpairing : d'.pairing = d.pairing)
    (hcompleted : d'.completedBundle = d.completedBundle) : Tracked codec log d' := by
  unfold Tracked
  rwa [hpairing, hcompleted]

theorem Tracked.cleared (hpairing : d'.pairing = none)
    (hcompleted : d'.completedBundle = d.completedBundle) : Tracked codec log d' := by
  refine ⟨fun session hsession => ?_,
    fun requestId bundle hbundle => h.2 requestId bundle (hcompleted ▸ hbundle)⟩
  rw [hpairing] at hsession
  cases hsession

/-- The session is replaced by one that is tracked. -/
theorem Tracked.replaced (hpairing : d'.pairing = some session)
    (hcompleted : d'.completedBundle = d.completedBundle)
    (hsession : SessionTracked codec log session) : Tracked codec log d' := by
  refine ⟨fun other hother => ?_,
    fun requestId bundle hbundle => h.2 requestId bundle (hcompleted ▸ hbundle)⟩
  cases hpairing.symm.trans hother
  exact hsession

end

theorem Safe.congr (h : Safe log waiting d) (hpairing : d'.pairing = d.pairing) :
    Safe log waiting d' := by
  unfold Safe
  rwa [hpairing]

/-- A snapshot that receives no `Confirm` packet is safe. -/
theorem Safe.of_unconfirmed (hwaiting : ∀ received ∈ waiting, ∀ requestId fromPeerId toPeerId,
    received.1 ≠ .pairing (.confirm requestId fromPeerId toPeerId)) : Safe log waiting d := by
  rintro session - ⟨received, hreceived, fromPeerId, toPeerId, hconfirm⟩
  exact absurd hconfirm (hwaiting received hreceived _ _ _)

theorem Safe.of_none (hpairing : d.pairing = none) : Safe log waiting d := by
  intro session hsession
  rw [hpairing] at hsession
  cases hsession

/-- The discovery is tracked, and the waiting datagrams do not confirm it too early. -/
abbrev TrackedSafe (codec : PanelCodec) (log : List PairingEvent)
    (waiting : Inbox) (d : NearbyDiscovery) : Prop :=
  Tracked codec log d ∧ Safe log waiting d

/-- A datagram keeps track, and none of them makes a session unsafe. -/
theorem TrackedSafe.receive {now : ℕ} {received : NearbyDatagram × SocketAddr}
    (h : TrackedSafe codec log waiting d) (hreceived : received ∈ waiting) :
    TrackedSafe codec log waiting (d.receive codec now peerConfigured received) := by
  obtain ⟨h, hsafe⟩ := h
  cases (receive_effect codec now peerConfigured d received).change with
  | kept pairing completed => exact ⟨h.congr pairing completed, hsafe.congr pairing⟩
  | requested details bundle free pairing completed =>
    refine ⟨h.replaced pairing completed trivial, fun session hsession _ => ?_⟩
    cases pairing.symm.trans hsession
    trivial
  | accepted details localBundle bundle lastSent present pairing completed =>
    refine ⟨h.replaced pairing completed ⟨localBundle, h.1 _ present, rfl⟩,
      fun session hsession _ => ?_⟩
    cases pairing.symm.trans hsession
    trivial
  | completed details remoteBundle localBundle code lastSent packet present pairing completed =>
    have htracked := h.1 _ present
    have hready := hsafe _ present ⟨received, hreceived, _, _, packet⟩
    have hnone : ∀ session, (d.receive codec now peerConfigured received).pairing ≠ some session :=
      fun session hsession => by cases pairing.symm.trans hsession
    refine ⟨⟨fun session hsession => absurd hsession (hnone session),
      fun requestId bundle hbundle => ?_⟩, .of_none pairing⟩
    rw [completed] at hbundle
    cases hcompleted : d.completedBundle with
    | none =>
      rw [hcompleted, Option.none_or] at hbundle
      cases hbundle
      exact ⟨localBundle, htracked.1, htracked.2 ▸ hready⟩
    | some earlier =>
      rw [hcompleted, Option.some_or] at hbundle
      cases hbundle
      exact h.2 _ _ hcompleted
  | declined session packet present pairing completed =>
    exact ⟨h.cleared pairing completed, .of_none pairing⟩

theorem TrackedSafe.receiveAll {now : ℕ} (h : TrackedSafe codec log waiting d)
    (l : Inbox) (hl : ∀ received ∈ l, received ∈ waiting) :
    TrackedSafe codec log waiting
      (l.foldl (NearbyDiscovery.receive codec now peerConfigured) d) := by
  induction l generalizing d with
  | nil => exact h
  | cons received l ih =>
    exact ih (h.receive (hl received List.mem_cons_self))
      fun other hother => hl other (List.mem_cons_of_mem _ hother)

theorem TrackedSafe.snapshot {now : ℕ} (h : TrackedSafe codec log waiting d)
    {l : Inbox} (hl : ∀ received ∈ l, received ∈ waiting) :
    TrackedSafe codec log waiting (d.snapshot codec now peerConfigured l) := by
  obtain ⟨htracked, hsafe⟩ := h.receiveAll (l.take maxReceiveDrain)
    fun received hreceived => hl received (List.mem_of_mem_take hreceived)
  exact ⟨htracked.congr rfl rfl, hsafe.congr rfl⟩

theorem SessionTracked.setLastSent (now : ℕ) (h : SessionTracked codec log session) :
    SessionTracked codec log (session.setLastSent now) := by
  cases session <;> exact h

theorem Ready.setLastSent (now : ℕ) (h : Ready log session) :
    Ready log (session.setLastSent now) := by
  cases session <;> exact h

theorem TrackedSafe.refresh {accepted : Bool} {now : ℕ} (h : TrackedSafe codec log waiting d) :
    TrackedSafe codec log waiting (d.refresh accepted now) := by
  obtain ⟨h, hsafe⟩ := h
  have hretry : TrackedSafe codec log waiting (d.retryPairingPacket accepted now) := by
    have hretried := retryPairingPacket_retried accepted now d
    generalize d.retryPairingPacket accepted now = d' at hretried
    cases hretried with
    | expired session present late => exact ⟨h.cleared rfl rfl, .of_none rfl⟩
    | resent session packet lastSent present live packet_eq =>
      refine ⟨h.replaced rfl rfl ((h.1 session present).setLastSent now), ?_⟩
      rintro _ ⟨⟩ hconfirmed
      rw [PairingSession.details_setLastSent] at hconfirmed
      exact (hsafe session present hconfirmed).setLastSent now
    | quiet live => exact ⟨h, hsafe⟩
  have hpart := (refresh_apart accepted now d).1
  exact ⟨hretry.1.congr (congrArg (·.2.1) hpart) (congrArg (·.2.2) hpart),
    hretry.2.congr (congrArg (·.2.1) hpart)⟩

variable (h : Tracked codec log d)

include h

/-- What `pairing_snapshot` shows of an accepted request is in the log afterwards. -/
theorem pairingSnapshot_inv {now : ℕ} :
    Tracked codec (exposure (d.pairingSnapshot now).1 ++ log) (d.pairingSnapshot now).2 ∧
      Shown (exposure (d.pairingSnapshot now).1 ++ log) (d.pairingSnapshot now).2 := by
  have htracked : Tracked codec log (d.pairingSnapshot now).2 := by
    unfold pairingSnapshot dropExpired
    split_ifs
    · exact h.cleared rfl rfl
    · exact h
  refine ⟨htracked.append _, fun details remoteBundle code hpairing => ?_⟩
  refine List.mem_append_left _ ?_
  have hshown : (d.pairingSnapshot now).1 =
      some ((PairingSession.outgoingAccepted details remoteBundle code).dto
        (d.dropExpired now).runtimePort) := by
    change Option.map _ (d.dropExpired now).pairing = _
    rw [show (d.dropExpired now).pairing = _ from hpairing]
    rfl
  rw [hshown]
  exact List.mem_singleton_self _

theorem Tracked.takeCompletedBundle : Tracked codec log d.takeCompletedBundle.2 := ⟨h.1, nofun⟩

end

section

variable {codec : PanelCodec} {platform : Platform} {c : Console}

abbrev SamePart (d d' : NearbyDiscovery) : Prop := d'.pairingPart = d.pairingPart

/-- A command that fails leaves the pairing alone; one that goes through replaces the session. -/
abbrev Replaces (d : NearbyDiscovery) (command : Step Unit NearbyDiscovery Unit)
    (session : Option PairingSession → Prop) : Prop :=
  Step.Triple (SamePart d) command
    (fun _ d' => d'.completedBundle = d.completedBundle ∧ session d'.pairing) (SamePart d)

variable (d : NearbyDiscovery)

theorem send_triple {accepted : Bool} {target : SocketAddr} {packet : PairingPacket} :
    Step.Triple (SamePart d) (sendPairingPacket accepted target packet) (fun _ => SamePart d)
      (SamePart d) :=
  .of_ensures (sendPairingPacket_pairing _ _ _) (fun _ _ hsame h => hsame.trans h) fun _ h => h

theorem requestPairing_triple (accepted : Bool) (now : ℕ) (requestId peerId bundle : List Char) :
    Replaces d (requestPairing accepted now requestId peerId bundle) fun session =>
      ∃ details : PairingDetails, details.requestId = requestId ∧
        session = some (.outgoingRequested details bundle now) :=
  .bind (.guard (fun _ h _ => h) fun _ h _ => h) fun _ =>
    .bind (.need (fun _ _ h _ => h) fun _ h => h) fun _ =>
    .bind (.guard (fun _ h _ => h) fun _ h _ => h) fun _ =>
    .bind (.read fun _ h => h) fun _ => .bind (send_triple d) fun _ =>
    .update fun _ h => ⟨congrArg (·.2.2) h, _, rfl, rfl⟩

theorem acceptPairing_triple (codec : PanelCodec) (accepted : Bool) (now : ℕ)
    (requestId bundle : List Char) :
    Replaces d (acceptPairing codec accepted now requestId bundle) fun session =>
      ∃ (details : PairingDetails) (remoteBundle : List Char), details.requestId = requestId ∧
        session = some (.incomingAccepted details remoteBundle bundle
          (verificationCode codec details.requestId remoteBundle bundle) now) := by
  refine .bind (.need (fun _ _ h _ => h) fun _ h => h) fun (details, remoteBundle) =>
    .bind (.guard (r := fun _ d' => SamePart d d' ∧ details.requestId = requestId)
      ?_ fun _ h _ => h) fun _ => .of_fact fun hrequest =>
    .bind (.read fun _ h => h) fun _ => .bind (send_triple d) fun _ =>
    .update fun _ h => ⟨congrArg (·.2.2) h, details, remoteBundle, hrequest, rfl⟩
  intro d' h hguard
  simp only [Bool.and_eq_true, beq_iff_eq] at hguard
  exact ⟨h, hguard.1.symm⟩

theorem confirmPairing_triple (accepted : Bool) (now : ℕ) (requestId : List Char) :
    Replaces d (confirmPairing accepted now requestId) fun session =>
      ∃ details, session = some (.outgoingConfirmed details now) :=
  .bind (.need (fun _ _ h _ => h) fun _ h => h) fun details =>
    .bind (.guard (fun _ h _ => h) fun _ h _ => h) fun _ =>
    .bind (.read fun _ h => h) fun _ => .bind (send_triple d) fun _ =>
    .update fun _ h => ⟨congrArg (·.2.2) h, details, rfl⟩

theorem declinePairing_triple (accepted : Bool) (requestId : List Char) :
    Replaces d (declinePairing accepted requestId) (· = none) := by
  refine .bind (.need (fun _ _ h _ => h) fun _ h => h) fun _ =>
    .bind (.guard (fun _ h _ => h) fun _ h _ => h) fun _ =>
    .bind (.read fun _ h => h) fun _ => .bind (.attempt (send_triple d)) fun result => ?_
  cases result <;> exact .update fun _ h => ⟨congrArg (·.2.2) h, rfl⟩

/-! ## What an action does -/

variable {c' c'' : Console} {P : Prop}

/-- The invariant holds after a part of an action, the log only grows, and if `P`, a new
    peer was compared. -/
structure Sound (codec : PanelCodec) (P : Prop) (c c' : Console) : Prop where
  inv : PairingInv codec c'
  log : c.log <:+ c'.log
  compared : P → ∀ peer, c.panel.inner.peer ≠ some peer → c'.panel.inner.peer = some peer →
    Compared codec c.log c'.log peer

theorem Sound.trans (h : Sound codec P c c') (h' : Sound codec P c' c'') : Sound codec P c c'' := by
  refine ⟨h'.inv, h.log.trans h'.log, fun hP peer hbefore hafter => ?_⟩
  by_cases hpeer : c'.panel.inner.peer = some peer
  · obtain ⟨requestId, bundle, earlier, hbundle, hbegin, hend, htext⟩ :=
      h.compared hP peer hbefore hpeer
    exact ⟨requestId, bundle, earlier, hbundle, hbegin, hend.trans h'.log, htext⟩
  · obtain ⟨requestId, bundle, earlier, hbundle, hbegin, hend, htext⟩ :=
      h'.compared hP peer hpeer hafter
    exact ⟨requestId, bundle, earlier, hbundle, h.log.trans hbegin, hend, htext⟩

section

variable (h : PairingInv codec c)

include h

theorem Sound.refl : Sound codec P c c :=
  ⟨h, List.suffix_rfl, fun _ _ hbefore hafter => absurd hafter hbefore⟩

variable (events : List PairingEvent) (hlog : c'.log = events ++ c.log)
  (hpeer : P → c'.panel.inner.peer = c.panel.inner.peer)

include hlog hpeer

/-- A part that leaves the pairing alone. -/
theorem Sound.congr (hpart : c'.discovery.pairingPart = c.discovery.pairingPart) :
    Sound codec P c c' := by
  have hpairing : c'.discovery.pairing = c.discovery.pairing := congrArg (·.2.1) hpart
  refine ⟨?_, hlog ▸ List.suffix_append .., fun hP _ hbefore hafter =>
    absurd (hpeer hP ▸ hafter) hbefore⟩
  unfold PairingInv Shown
  rw [hlog, hpairing]
  exact ⟨(h.1.append events).congr hpairing (congrArg (·.2.2) hpart),
    fun details remoteBundle code hsession =>
      List.mem_append_right _ (h.2 details remoteBundle code hsession)⟩

/-- A part that leaves a session that has nothing to show, or none. -/
theorem Sound.replaced {session : Option PairingSession}
    (hcompleted : c'.discovery.completedBundle = c.discovery.completedBundle)
    (hpairing : c'.discovery.pairing = session)
    (htracked : ∀ other, session = some other → SessionTracked codec c'.log other)
    (hquiet : ∀ details remoteBundle code,
      session ≠ some (.outgoingAccepted details remoteBundle code)) : Sound codec P c c' := by
  have hearlier := hlog ▸ h.1.append events
  refine ⟨⟨⟨fun other hother => htracked other (hpairing.symm.trans hother),
    fun requestId bundle hbundle => hearlier.2 requestId bundle (hcompleted ▸ hbundle)⟩,
    fun details remoteBundle code hsession => ?_⟩, hlog ▸ List.suffix_append ..,
    fun hP _ hbefore hafter => absurd (hpeer hP ▸ hafter) hbefore⟩
  exact absurd (hpairing.symm.trans hsession) (hquiet _ _ _)

end

variable (inputs : CommandInputs)

theorem requestNearbyPairing_sound (requestId peerId : List Char) (h : PairingInv codec c) :
    Sound codec P c (c.requestNearbyPairing inputs requestId peerId).2 := by
  unfold Console.requestNearbyPairing
  split_ifs
  · cases inputs.localBundle with
    | none => exact .refl h
    | some bundle =>
      have htriple := requestPairing_triple c.discovery inputs.accepted inputs.now requestId peerId
        bundle c.discovery rfl
      dsimp only
      generalize requestPairing inputs.accepted inputs.now requestId peerId bundle c.discovery = run
        at htriple ⊢
      obtain ⟨_ | _, d⟩ := run
      · exact .congr h [] rfl (fun _ => rfl) htriple
      · obtain ⟨hcompleted, details, rfl, hpairing⟩ := htriple
        refine .replaced h [_] rfl (fun _ => rfl) hcompleted hpairing ?_ nofun
        rintro _ ⟨⟩
        exact List.mem_cons_self
  · exact .refl h

variable (requestId : List Char)

theorem acceptNearbyPairing_sound (h : PairingInv codec c) :
    Sound codec P c (c.acceptNearbyPairing codec platform inputs requestId).2 := by
  have hissued : Sound codec P c { c with log := .decided requestId :: c.log } :=
    .congr h [_] rfl (fun _ => rfl) rfl
  unfold Console.acceptNearbyPairing
  dsimp only
  split_ifs
  · split
    · exact hissued
    · split
      · rename_i bundle _ _
        have htriple := acceptPairing_triple c.discovery codec inputs.accepted inputs.now requestId
          bundle c.discovery rfl
        generalize acceptPairing codec inputs.accepted inputs.now requestId bundle c.discovery = run
          at htriple ⊢
        obtain ⟨_ | _, d⟩ := run
        · exact .congr h [_] rfl (fun _ => rfl) htriple
        · obtain ⟨hcompleted, details, remoteBundle, rfl, hpairing⟩ := htriple
          refine .replaced h [_, _] rfl (fun _ => rfl) hcompleted hpairing ?_ nofun
          rintro _ ⟨⟩
          exact ⟨List.mem_cons_self, verificationCode_comm ..⟩
      · exact hissued
  · exact hissued

theorem declineNearbyPairing_sound (h : PairingInv codec c) :
    Sound codec P c (c.declineNearbyPairing inputs requestId).2 := by
  unfold Console.declineNearbyPairing
  split_ifs
  · have htriple := declinePairing_triple c.discovery inputs.accepted requestId c.discovery rfl
    generalize declinePairing inputs.accepted requestId c.discovery = run at htriple ⊢
    obtain ⟨_ | _, d⟩ := run
    · exact .congr h [] rfl (fun _ => rfl) htriple
    · exact .replaced h [] rfl (fun _ => rfl) htriple.1 htriple.2 nofun nofun
  · exact .refl h

/-- A peer that is new after an installation is the one of the bundle. -/
theorem installPeerBundle_new (codec : PanelCodec) (platform : Platform)
    (faults : Panel.InstallFaults) (bundle : List Char) (role : WorkspaceRole) {panel : Panel}
    {peer : PairingBundle} (hbefore : panel.inner.peer ≠ some peer)
    (hafter : (Panel.installPeerBundle codec platform faults bundle role panel).2.inner.peer =
      some peer) : codec.bundleOf bundle = some peer := by
  rcases Panel.installPeerBundle_peer codec platform faults bundle role panel with
    hsame | ⟨other, certificate, hvalid, hother⟩
  · exact absurd (hsame ▸ hafter) hbefore
  · cases hother.symm.trans hafter
    exact PanelCodec.validatePeerBundle_ok hvalid

/-- The operator confirms the session whose code the last snapshot has exposed. -/
theorem confirmNearbyPairing_sound (h : PairingInv codec c) :
    Sound codec P c (c.confirmNearbyPairing codec platform inputs requestId).2 := by
  have hissued {Q : Prop} : Sound codec Q c { c with log := .decided requestId :: c.log } :=
    .congr h [_] rfl (fun _ => rfl) rfl
  unfold Console.confirmNearbyPairing
  dsimp only
  split_ifs
  · split
    · exact hissued
    · rename_i bundle haccepted
      split
      · exact hissued
      · have htriple := confirmPairing_triple c.discovery inputs.accepted inputs.now requestId
          c.discovery rfl
        generalize confirmPairing inputs.accepted inputs.now requestId c.discovery = run
          at htriple ⊢
        obtain ⟨_ | _, d⟩ := run
        · exact .congr h [_] rfl (fun _ => rfl) htriple
        · obtain ⟨hcompleted, details, hpairing⟩ := htriple
          have hnew (peer : PairingBundle) (hbefore : c.panel.inner.peer ≠ some peer) :=
            installPeerBundle_new codec platform inputs.faults bundle .leader hbefore
          dsimp only
          generalize Panel.installPeerBundle codec platform inputs.faults bundle .leader c.panel
            = run at hnew ⊢
          have hinstalled (panel : Panel) : Sound codec False c
              ⟨panel, d, .installs requestId bundle :: .decided requestId :: c.log⟩ := by
            refine .replaced h [_, _] rfl nofun hcompleted hpairing ?_ nofun
            rintro _ ⟨⟩
            trivial
          have hcompared : ComparedText codec (.decided requestId :: c.log) requestId bundle := by
            obtain ⟨details, code, hsession, rfl⟩ :
                ∃ details code, c.discovery.pairing = some (.outgoingAccepted details bundle code) ∧
                  requestId = details.requestId := by
              unfold acceptedPairingBundle at haccepted
              split at haccepted
              · split_ifs at haccepted with hrequest
                cases haccepted
                exact ⟨_, _, ‹_›, hrequest⟩
              · cases haccepted
            obtain ⟨localBundle, hoffered, hcode⟩ := h.1.1 _ hsession
            exact ⟨localBundle, List.mem_cons_of_mem _ hoffered, c.log, List.suffix_rfl,
              hcode ▸ h.2 _ _ _ hsession⟩
          obtain ⟨_ | _, panel⟩ := run <;>
            exact { hinstalled panel with
              compared := fun _ peer hbefore hafter => ⟨requestId, bundle, _,
                hnew peer hbefore hafter, List.suffix_cons .., List.suffix_rfl, hcompared⟩ }
  · exact hissued

theorem forgetPairedComputer_sound (removed : Bool) (h : PairingInv codec c) :
    Sound codec P c (c.forgetPairedComputer codec inputs removed).2 := by
  unfold Console.forgetPairedComputer
  split
  · dsimp only
    generalize hpanel : ({ c.panel with inner := _ } : Panel) = panel
    have hnone : panel.inner.peer = none := by rw [← hpanel]
    have hsaved : (Panel.save codec inputs.faults.state inputs.faults.stateUuid panel).2.inner.peer
        = none := (congrArg _ (Panel.save_inner _ _ panel)).trans hnone
    generalize Panel.save codec inputs.faults.state inputs.faults.stateUuid panel = run at hsaved
    have hforgotten {c' : Console} (hpeer : c'.panel.inner.peer = none)
        (h : Sound codec False c c') : Sound codec P c c' :=
      { h with compared := fun _ _ _ hafter => nomatch hpeer.symm.trans hafter }
    obtain ⟨_ | _, saved⟩ := run
    · exact hforgotten hsaved (.congr h [] rfl nofun rfl)
    · cases removed with
      | false => exact hforgotten hsaved (.congr h [] rfl nofun rfl)
      | true =>
        exact hforgotten hsaved ⟨⟨⟨nofun, nofun⟩, nofun⟩, List.suffix_rfl, nofun⟩
  · exact .refl h

/-- Every command is sound up to the snapshot at its end, if it is not an import. -/
theorem command_sound (platform : Platform) (a : ConsoleAction) (h : PairingInv codec c) :
    Sound codec (∀ inputs bundle, a ≠ .importPeerBundle inputs bundle) c
      (c.command codec platform a).2 := by
  cases a with
  | snapshot inputs => exact .refl h
  | importPeerBundle inputs bundle =>
    unfold command importPeerBundle
    dsimp only
    split_ifs
    · split <;> exact .congr h [] rfl (fun hother => absurd rfl (hother inputs bundle)) rfl
    · exact .refl h
  | requestNearbyPairing inputs requestId peerId => exact requestNearbyPairing_sound _ _ _ h
  | acceptNearbyPairing inputs requestId => exact acceptNearbyPairing_sound _ _ h
  | confirmNearbyPairing inputs requestId => exact confirmNearbyPairing_sound _ _ h
  | declineNearbyPairing inputs requestId => exact declineNearbyPairing_sound _ _ h
  | forgetPairedComputer inputs removed => exact forgetPairedComputer_sound _ _ h

/-- The installation of a completed pairing touches the panel and the log only. -/
theorem installCompleted_spec {faults : Panel.InstallFaults} {requestId bundle : List Char}
    {configured : Bool}
    (h : installCompleted codec platform faults requestId bundle c = (configured, c')) :
    c'.discovery = c.discovery ∧ (c' = c ∨ c'.log = .installs requestId bundle :: c.log ∧
      ∀ peer, c.panel.inner.peer ≠ some peer → c'.panel.inner.peer = some peer →
        codec.bundleOf bundle = some peer) := by
  unfold installCompleted at h
  split_ifs at h
  · have hnew (peer : PairingBundle) (hbefore : c.panel.inner.peer ≠ some peer) :=
      installPeerBundle_new codec platform faults bundle .follower hbefore
    dsimp only at h
    generalize Panel.installPeerBundle codec platform faults bundle .follower c.panel = run
      at hnew h
    obtain ⟨_ | _, panel⟩ := run <;> cases h <;> exact ⟨rfl, .inr ⟨rfl, hnew⟩⟩
  · cases h
    exact ⟨rfl, .inl rfl⟩

/-- A snapshot is sound, if no packet confirms too early. -/
theorem snapshot_sound {inputs : SnapshotInputs} (h : PairingInv codec c)
    (hsafe : Safe c.log (inputs.waiting ++ inputs.waitingAgain) c.discovery) :
    Sound codec P c (c.snapshot codec platform inputs) := by
  unfold Console.snapshot
  split_ifs
  · obtain ⟨htracked, hsafe⟩ := (TrackedSafe.refresh ⟨h.1, hsafe⟩).snapshot
      fun received hreceived => List.mem_append_left inputs.waitingAgain hreceived
    dsimp only
    split
    · exact ⟨pairingSnapshot_inv htracked.takeCompletedBundle, List.suffix_append ..,
        fun _ _ hbefore hafter => absurd hafter hbefore⟩
    · rename_i requestId bundle hcompleted
      generalize hrun : installCompleted codec platform inputs.faults requestId bundle _ = run
      obtain ⟨configured, c'⟩ := run
      obtain ⟨hdiscovery, hchange⟩ := installCompleted_spec hrun
      obtain ⟨events, hevents⟩ : c.log <:+ c'.log := by
        rcases hchange with rfl | ⟨hlog, -⟩
        · exact List.suffix_rfl
        · exact hlog ▸ List.suffix_cons ..
      refine ⟨pairingSnapshot_inv ?_, ?_, fun _ peer hbefore hafter => ?_⟩
      · rw [hdiscovery, ← hevents]
        exact (TrackedSafe.snapshot ⟨htracked.takeCompletedBundle, hsafe.congr rfl⟩
          fun received hreceived => List.mem_append_right inputs.waiting hreceived).1.append events
      · exact (hevents ▸ List.suffix_append events c.log).trans (List.suffix_append ..)
      · rcases hchange with rfl | ⟨hlog, hpeer⟩
        · exact absurd hafter hbefore
        · exact ⟨requestId, bundle, c.log, hpeer peer hbefore hafter, List.suffix_rfl,
            hlog ▸ List.suffix_append .., htracked.2 requestId bundle hcompleted⟩
  · exact .refl h

/-- Every action other than an import is sound, if no packet confirms too early. -/
theorem apply_sound {a : ConsoleAction} (hcareful : c.Careful codec platform a)
    (h : PairingInv codec c) :
    Sound codec (∀ inputs bundle, a ≠ .importPeerBundle inputs bundle) c
      (c.apply codec platform a) := by
  have hcommand := command_sound platform a h
  unfold Console.apply
  unfold Careful at hcareful
  generalize c.command codec platform a = run at hcommand hcareful
  obtain ⟨_ | _, c'⟩ := run
  · exact hcommand
  · exact hcommand.trans (snapshot_sound hcommand.inv (hcareful c' rfl))

/-- In every run of a console that starts without a pairing and in which no `Confirm` packet
    completes an accepted request too early, a peer that an action other than a manual import sets
    was installed for a request, and before that the operator decided on this request after the
    code of its id, the bundle and the local one had been exposed. -/
theorem pairing_compared {start : Console} {actions : List ConsoleAction} {action : ConsoleAction}
    {peer : PairingBundle}
    (hstart : start.discovery.pairing = none ∧ start.discovery.completedBundle = none)
    (hrun : Admissible (Careful codec platform) (apply codec platform) start
      (actions ++ [action]))
    (himport : ∀ inputs bundle, action ≠ .importPeerBundle inputs bundle)
    (hbefore : (execute (apply codec platform) start actions).panel.inner.peer ≠ some peer)
    (hafter : (execute (apply codec platform) start (actions ++ [action])).panel.inner.peer =
      some peer) :
    Compared codec (execute (apply codec platform) start actions).log
      (execute (apply codec platform) start (actions ++ [action])).log peer := by
  have hinitial : PairingInv codec start := by
    refine ⟨⟨fun session hsession => ?_, fun requestId bundle hbundle => ?_⟩,
      fun _ _ _ hsession => ?_⟩
    · cases hstart.1.symm.trans hsession
    · cases hstart.2.symm.trans hbundle
    · cases hstart.1.symm.trans hsession
  obtain ⟨hearlier, hlast⟩ := admissible_append.mp hrun
  have hinv : PairingInv codec (execute (apply codec platform) start actions) :=
    Admissible.invariant (fun (c : Console) _ hcareful (h : PairingInv codec c) =>
      (apply_sound hcareful h).inv) hearlier hinitial
  simp only [execute, List.foldl_append, List.foldl_cons, List.foldl_nil] at hafter ⊢
  exact (apply_sound hlast.1 hinv).compared himport peer hbefore hafter

end

/-! ## Two sample runs -/

namespace Sample

open PanelCodec.Sample

/-- A text of the shape of a UUID. -/
def uuid (digit : Char) : List Char :=
  List.replicate 8 digit ++ ['-'] ++ List.replicate 4 digit ++ ['-'] ++ List.replicate 4 digit
    ++ ['-'] ++ List.replicate 4 digit ++ ['-'] ++ List.replicate 12 digit

/-- A panel that has an identity and no peer. -/
def unpairedConsole : Console where
  panel :=
    { Panel.Sample.paired with inner := { Panel.Sample.paired.inner with peer := none } }
  discovery := { peerId := uuid 'a', runtimePort := 24800 }

/-- A packet of the other computer on the network. -/
def delivered (packet : PairingPacket) : NearbyDatagram × SocketAddr :=
  (.pairing packet, ⟨.v4 192 168 0 66, discoveryPort⟩)

def beacon : NearbyDatagram × SocketAddr :=
  (.beacon (uuid 'b') "windows".toList .settingUp ['B'], ⟨.v4 192 168 0 66, discoveryPort⟩)

/-- Another computer announces itself and asks for a pairing, and the operator accepts. -/
def acceptedAtOnce : List ConsoleAction :=
  [.snapshot
    { waiting := [beacon, delivered (.request ['r'] (uuid 'b') (uuid 'a') ['B'])] },
   .acceptNearbyPairing { localBundle := some ['L'] } ['r']]

/-- The next snapshot finds a `Confirm` packet. -/
def confirmedByPacket : List ConsoleAction :=
  acceptedAtOnce ++ [.snapshot { waiting := [delivered (.confirm ['r'] (uuid 'b') (uuid 'a'))] }]

/-- The other computer is the peer, and the operator has decided on nothing since the code
    was exposed. -/
theorem accepted_before_code :
    (execute (apply codec .macOS) unpairedConsole confirmedByPacket).panel.inner.peer =
        some (bundle 'B') ∧
      (execute (apply codec .macOS) unpairedConsole confirmedByPacket).log =
        [.installs ['r'] ['B'], .exposed ['r'] "311 530".toList, .offered ['r'] ['L'],
          .decided ['r']] ∧
      ¬ Compared codec (execute (apply codec .macOS) unpairedConsole acceptedAtOnce).log
        (execute (apply codec .macOS) unpairedConsole confirmedByPacket).log (bundle 'B') := by
  have hlog : (execute (apply codec .macOS) unpairedConsole confirmedByPacket).log =
      [.installs ['r'] ['B'], .exposed ['r'] "311 530".toList, .offered ['r'] ['L'],
        .decided ['r']] := by decide +kernel
  refine ⟨by decide +kernel, hlog, ?_⟩
  rintro ⟨requestId, bundle, earlier, -, -, hinstalled, localBundle, -, first, hdecided, hexposed⟩
  have hsuffix := hdecided.trans ((List.suffix_cons _ _).trans hinstalled)
  rw [hlog] at hsuffix
  simp only [List.suffix_cons_iff, List.suffix_nil, reduceCtorEq, List.cons.injEq, false_and,
    false_or, or_false] at hsuffix
  rw [hsuffix.2] at hexposed
  cases hexposed

/-- The panel asks for a pairing, and the next snapshot shows the code of the answer. -/
def requested : List ConsoleAction :=
  [.snapshot { waiting := [beacon] },
   .requestNearbyPairing { localBundle := some ['L'] } ['r'] (uuid 'b'),
   .snapshot { waiting := [delivered (.accept ['r'] (uuid 'b') (uuid 'a') ['B'])] }]

/-- The operator confirms the code of its own request. -/
theorem pairing_compared_confirmed :
    (execute (apply codec .macOS) unpairedConsole
        (requested ++ [.confirmNearbyPairing {} ['r']])).panel.inner.peer = some (bundle 'B') ∧
      Compared codec (execute (apply codec .macOS) unpairedConsole requested).log
        (execute (apply codec .macOS) unpairedConsole
          (requested ++ [.confirmNearbyPairing {} ['r']])).log (bundle 'B') := by
  have hrun : Admissible (Careful codec .macOS) (apply codec .macOS) unpairedConsole
      (requested ++ [.confirmNearbyPairing {} ['r']]) := by
    refine ⟨fun _ _ => .of_unconfirmed ?_, fun _ _ => .of_unconfirmed ?_,
      fun _ _ => .of_unconfirmed ?_, fun _ _ => .of_unconfirmed ?_, trivial⟩
    all_goals simp [closing, beacon, delivered]
  have hafter : (execute (apply codec .macOS) unpairedConsole
      (requested ++ [.confirmNearbyPairing {} ['r']])).panel.inner.peer = some (bundle 'B') := by
    decide +kernel
  have hbefore : (execute (apply codec .macOS) unpairedConsole requested).panel.inner.peer ≠
      some (bundle 'B') := by decide +kernel
  exact ⟨hafter, pairing_compared ⟨rfl, rfl⟩ hrun (fun _ _ h => by cases h) hbefore hafter⟩

end Sample

end Console

end SoftwareKvm
