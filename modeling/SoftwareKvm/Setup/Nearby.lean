import Mathlib.Data.Char
import Mathlib.Data.List.Lex
import SoftwareKvm.Setup.State

/-!
# Nearby discovery and pairing

A model of `NearbyDiscovery` (`control-panel/src-tauri/src/nearby.rs`): the
records of nearby computers, the one pairing session with its five states and the
slots for completed pairings and workspace packets. Instants are milliseconds. A
datagram is what its text says once it has been read; the checks of
`parse_beacon` and `parse_pairing_packet` on it are kept. The beacon the panel
sends itself and the relay of developer diagnostics are left out.
-/

namespace SoftwareKvm

open Lib

/-! ## Constants -/

def discoveryPort : ℕ := 24801

def maxNearbyMachines : ℕ := 32

def maxNameBytes : ℕ := 64

def maxPairingPacketBytes : ℕ := 24 * 1024

def maxReceiveDrain : ℕ := 64

def beaconInterval : ℕ := 2000

def staleAfter : ℕ := 8000

def pairingExpiresAfter : ℕ := 120000

def confirmRetryAfter : ℕ := 15000

/-! ## Data -/

inductive NearbyPresence
  | settingUp
  | runtimeActive

structure NearbyRecord where
  peerId : List Char
  name : List Char
  platform : List Char
  presence : NearbyPresence
  address : SocketAddr
  lastSeen : ℕ

inductive PairingPacket
  | request (requestId fromPeerId toPeerId bundle : List Char)
  | accept (requestId fromPeerId toPeerId bundle : List Char)
  | confirm (requestId fromPeerId toPeerId : List Char)
  | decline (requestId fromPeerId toPeerId : List Char)
  | workspaceLayout (fromPeerId toPeerId : List Char) (revision : ℕ) (payload signature : List Char)
  | workspaceLayoutAck (fromPeerId toPeerId : List Char) (revision : ℕ) (signature : List Char)

/-- A datagram as its text reads: a beacon, a pairing packet or neither. -/
inductive NearbyDatagram
  | beacon (peerId platform : List Char) (presence : NearbyPresence) (name : List Char)
  | pairing (packet : PairingPacket)
  | other

/-- Received datagrams with their sources. -/
abbrev Inbox := List (NearbyDatagram × SocketAddr)

/-- The fields that every state of a `PairingSession` has. -/
structure PairingDetails where
  requestId : List Char
  peerId : List Char
  name : List Char
  platform : List Char
  address : SocketAddr
  created : ℕ
  deriving DecidableEq

inductive PairingSession
  | outgoingRequested (details : PairingDetails) (localBundle : List Char) (lastSent : ℕ)
  | incomingRequested (details : PairingDetails) (remoteBundle : List Char)
  | incomingAccepted (details : PairingDetails)
      (remoteBundle localBundle verificationCode : List Char) (lastSent : ℕ)
  | outgoingAccepted (details : PairingDetails) (remoteBundle verificationCode : List Char)
  | outgoingConfirmed (details : PairingDetails) (lastSent : ℕ)
  deriving DecidableEq

inductive NearbyPairingStatus
  | incomingRequest
  | waitingForAcceptance
  | verifyCode
  | waitingForConfirmation

structure NearbyPairingDto where
  requestId : List Char
  peerId : List Char
  name : List Char
  platform : List Char
  address : SocketAddr
  status : NearbyPairingStatus
  verificationCode : Option (List Char)

structure WorkspaceAdvertisement where
  peerId : List Char
  revision : ℕ
  payload : List Char
  signature : List Char
  lastSent : Option ℕ

structure WorkspaceAcknowledgementAdvertisement where
  peerId : List Char
  revision : ℕ
  signature : List Char
  lastSent : Option ℕ

structure IncomingWorkspaceLayout where
  fromPeerId : List Char
  revision : ℕ
  payload : List Char
  signature : List Char

structure IncomingWorkspaceAcknowledgement where
  fromPeerId : List Char
  revision : ℕ
  signature : List Char

/-- `NearbyDiscovery`; `sent` is what its socket has taken, the latest first, and a
    completed bundle keeps the id of its request, which the code forgets. -/
structure NearbyDiscovery where
  peerId : List Char
  runtimePort : ℕ
  records : OrdMap (List Char) NearbyRecord := ∅
  pairing : Option PairingSession := none
  completedBundle : Option (List Char × List Char) := none
  workspaceAdvertised : Option WorkspaceAdvertisement := none
  incomingWorkspace : Option IncomingWorkspaceLayout := none
  workspaceAckAdvertised : Option WorkspaceAcknowledgementAdvertisement := none
  incomingWorkspaceAck : Option IncomingWorkspaceAcknowledgement := none
  sent : List (SocketAddr × PairingPacket) := []

/-! ## Checks of texts -/

namespace NearbyDiscovery

/-- The bytes of a text. -/
def utf8 (text : List Char) : List UInt8 := text.flatMap String.utf8EncodeChar

def isLowerHexDigit (c : Char) : Bool :=
  (0x30 ≤ c.toNat && c.toNat ≤ 0x39) || (0x61 ≤ c.toNat && c.toNat ≤ 0x66)

/-- `valid_peer_id`: the lower-case text form of a UUID. -/
def validPeerId (peerId : List Char) : Bool :=
  Config.byteLength peerId == 36 && peerId.zipIdx.all fun (c, index) =>
    if index = 8 ∨ index = 13 ∨ index = 18 ∨ index = 23 then c == '-' else isLowerHexDigit c

/-- `valid_bundle_shape` and `valid_workspace_field`. -/
def validOpaqueField (value : List Char) : Bool :=
  !value.isEmpty && Config.byteLength value ≤ maxPairingPacketBytes / 2
    && value.all fun c => c.isAlphanum || c == '-' || c == '_' || c == '='

/-- The checks of `parse_pairing_packet`. -/
def wellFormed (codec : PanelCodec) : PairingPacket → Bool
  | .request requestId fromPeerId toPeerId bundle
  | .accept requestId fromPeerId toPeerId bundle =>
    codec.isUuidV4 requestId && validPeerId fromPeerId && validPeerId toPeerId
      && fromPeerId != toPeerId && validOpaqueField bundle
  | .confirm requestId fromPeerId toPeerId
  | .decline requestId fromPeerId toPeerId =>
    codec.isUuidV4 requestId && validPeerId fromPeerId && validPeerId toPeerId
      && fromPeerId != toPeerId
  | .workspaceLayout fromPeerId toPeerId revision payload signature =>
    validPeerId fromPeerId && validPeerId toPeerId && fromPeerId != toPeerId && 0 < revision
      && validOpaqueField payload && validOpaqueField signature
  | .workspaceLayoutAck fromPeerId toPeerId revision signature =>
    validPeerId fromPeerId && validPeerId toPeerId && fromPeerId != toPeerId && 0 < revision
      && validOpaqueField signature

def parseBeacon (datagram : NearbyDatagram) (source : SocketAddr) (runtimePort now : ℕ) :
    Option NearbyRecord :=
  match datagram with
  | .beacon peerId platform presence name =>
    if Config.isLanIp source.ip && validPeerId peerId
        && (platform == "macos".toList || platform == "windows".toList)
        && !name.isEmpty && Config.byteLength name ≤ maxNameBytes && !name.any Config.isControl then
      some
        { peerId, name, platform, presence
          address := ⟨source.ip, runtimePort⟩
          lastSeen := now }
    else none
  | .pairing _ | .other => none

def parsePairingPacket (codec : PanelCodec) : NearbyDatagram → Option PairingPacket
  | .pairing packet => if wellFormed codec packet then some packet else none
  | .beacon .. | .other => none

/-- `format!("{value:06}")`, with a space in the middle. -/
def formatCode (value : ℕ) : List Char :=
  let digits := (List.range 6).map fun i => Nat.digitChar (value / 10 ^ (5 - i) % 10)
  digits.take 3 ++ [' '] ++ digits.drop 3

def verificationCode (codec : PanelCodec) (requestId firstBundle secondBundle : List Char) :
    List Char :=
  let first := min firstBundle secondBundle
  let second := max firstBundle secondBundle
  let digest := codec.sha256 (utf8 "software-kvm-pairing-code-v1".toList ++ [0] ++ utf8 requestId
    ++ [0] ++ utf8 first ++ [0] ++ utf8 second)
  formatCode ((digest.take 4).foldl (fun value byte => value * 256 + byte.toNat) 0 % 1000000)

/-- Both computers compute the same code. -/
theorem verificationCode_comm (codec : PanelCodec) (requestId first second : List Char) :
    verificationCode codec requestId first second =
      verificationCode codec requestId second first := by
  unfold verificationCode
  rw [min_comm, max_comm]

end NearbyDiscovery

/-! ## Pairing sessions -/

namespace PairingSession

/-- `request_id`, `peer_id`, `address` and `created` are read off the details. -/
def details : PairingSession → PairingDetails
  | outgoingRequested details _ _ => details
  | incomingRequested details _ => details
  | incomingAccepted details _ _ _ _ => details
  | outgoingAccepted details _ _ => details
  | outgoingConfirmed details _ => details

def expired (session : PairingSession) (now : ℕ) : Bool :=
  let lifetime := match session with
    | outgoingConfirmed .. => confirmRetryAfter
    | _ => pairingExpiresAfter
  lifetime ≤ now - session.details.created

def setLastSent (now : ℕ) : PairingSession → PairingSession
  | outgoingRequested details localBundle _ => outgoingRequested details localBundle now
  | incomingAccepted details remoteBundle localBundle code _ =>
    incomingAccepted details remoteBundle localBundle code now
  | outgoingConfirmed details _ => outgoingConfirmed details now
  | incomingRequested details remoteBundle => incomingRequested details remoteBundle
  | outgoingAccepted details remoteBundle code => outgoingAccepted details remoteBundle code

@[simp] theorem details_setLastSent (now : ℕ) (session : PairingSession) :
    (session.setLastSent now).details = session.details := by
  cases session <;> rfl

/-- The status and the code that `dto` shows. -/
def shown : PairingSession → NearbyPairingStatus × Option (List Char)
  | outgoingRequested .. => (.waitingForAcceptance, none)
  | incomingRequested .. => (.incomingRequest, none)
  | incomingAccepted _ _ _ code _ => (.waitingForConfirmation, some code)
  | outgoingAccepted _ _ code => (.verifyCode, some code)
  | outgoingConfirmed .. => (.waitingForConfirmation, none)

def dto (session : PairingSession) (runtimePort : ℕ) : NearbyPairingDto where
  requestId := session.details.requestId
  peerId := session.details.peerId
  name := session.details.name
  platform := session.details.platform
  address := ⟨session.details.address.ip, runtimePort⟩
  status := session.shown.1
  verificationCode := session.shown.2

end PairingSession

/-! ## Operations -/

namespace NearbyDiscovery

open Step

variable (accepted : Bool)

/-- `send_pairing_packet`; `accepted` is whether the packet can be encoded within
    the size limit and the socket takes all of it. -/
def sendPairingPacket (target : SocketAddr) (packet : PairingPacket) :
    Step Unit NearbyDiscovery Unit := fun d =>
  if target.port = discoveryPort ∧ Config.isLanIp target.ip ∧ accepted then
    (.ok (), { d with sent := (target, packet) :: d.sent })
  else (.error (), d)

/-- `request_pairing`, with the fresh request id. -/
def requestPairing (now : ℕ) (requestId peerId localBundle : List Char) :
    Step Unit NearbyDiscovery Unit := do
  guard () fun _ => validPeerId peerId && !localBundle.isEmpty
  let record ← need () fun d => d.records.get? peerId
  let address : SocketAddr := ⟨record.address.ip, discoveryPort⟩
  guard () fun d => d.pairing.isNone
  let own ← read (·.peerId)
  sendPairingPacket accepted address (.request requestId own peerId localBundle)
  update fun d => { d with
    pairing := some (.outgoingRequested
      ⟨requestId, peerId, record.name, record.platform, address, now⟩ localBundle now) }

def incomingPairingBundle (requestId : List Char) (d : NearbyDiscovery) : Option (List Char) :=
  match d.pairing with
  | some (.incomingRequested details remoteBundle) =>
    if requestId = details.requestId then some remoteBundle else none
  | _ => none

def acceptedPairingBundle (requestId : List Char) (d : NearbyDiscovery) : Option (List Char) :=
  match d.pairing with
  | some (.outgoingAccepted details remoteBundle _) =>
    if requestId = details.requestId then some remoteBundle else none
  | _ => none

/-- The incoming request that is waiting for an answer. -/
def waitingRequest (d : NearbyDiscovery) : Option (PairingDetails × List Char) :=
  match d.pairing with
  | some (.incomingRequested details remoteBundle) => some (details, remoteBundle)
  | _ => none

/-- The own request that has been accepted. -/
def acceptedRequest (d : NearbyDiscovery) : Option PairingDetails :=
  match d.pairing with
  | some (.outgoingAccepted details _ _) => some details
  | _ => none

def acceptPairing (codec : PanelCodec) (accepted : Bool) (now : ℕ)
    (requestId localBundle : List Char) : Step Unit NearbyDiscovery Unit := do
  let (details, remoteBundle) ← need () waitingRequest
  guard () fun _ => requestId == details.requestId && !localBundle.isEmpty
  let own ← read (·.peerId)
  sendPairingPacket accepted details.address
    (.accept details.requestId own details.peerId localBundle)
  update fun d => { d with
    pairing := some (.incomingAccepted details remoteBundle localBundle
      (verificationCode codec details.requestId remoteBundle localBundle) now) }

def confirmPairing (now : ℕ) (requestId : List Char) : Step Unit NearbyDiscovery Unit := do
  let details ← need () acceptedRequest
  guard () fun _ => requestId == details.requestId
  let own ← read (·.peerId)
  sendPairingPacket accepted details.address (.confirm details.requestId own details.peerId)
  update fun d => { d with pairing := some (.outgoingConfirmed details now) }

def declinePairing (requestId : List Char) : Step Unit NearbyDiscovery Unit := do
  let session ← need () (·.pairing)
  guard () fun _ => session.details.requestId == requestId
  let own ← read (·.peerId)
  let _ ← (sendPairingPacket accepted session.details.address
    (.decline requestId own session.details.peerId)).attempt
  update fun d => { d with pairing := none }

def takeCompletedBundle (d : NearbyDiscovery) : Option (List Char × List Char) × NearbyDiscovery :=
  (d.completedBundle, { d with completedBundle := none })

def clearPairing (d : NearbyDiscovery) : NearbyDiscovery :=
  let d := match d.pairing with
    | some session => (sendPairingPacket accepted session.details.address
        (.decline session.details.requestId d.peerId session.details.peerId)).ignore d
    | none => d
  { d with
    pairing := none
    completedBundle := none
    workspaceAdvertised := none
    incomingWorkspace := none
    workspaceAckAdvertised := none
    incomingWorkspaceAck := none }

/-! ### Received packets -/

def handlePairingRequest (codec : PanelCodec) (requestId fromPeerId toPeerId bundle : List Char)
    (source : SocketAddr) (now : ℕ) (peerConfigured : Bool) (d : NearbyDiscovery) :
    NearbyDiscovery :=
  match d.records.get? fromPeerId with
  | none => d
  | some record =>
    if toPeerId ≠ d.peerId ∨ record.address.ip ≠ source.ip ∨ ¬ codec.isUuidV4 requestId
        ∨ ¬ validOpaqueField bundle then d
    else if peerConfigured then d
    else
      let mayReplace := match d.pairing with
        | none => true
        | some (.outgoingRequested details _ _) =>
          details.peerId == fromPeerId && decide (fromPeerId < d.peerId)
        | some _ => false
      if mayReplace then
        { d with
          pairing := some (.incomingRequested
            ⟨requestId, fromPeerId, record.name, record.platform, source, now⟩ bundle) }
      else d

def handlePairingAccept (codec : PanelCodec) (requestId fromPeerId toPeerId bundle : List Char)
    (source : SocketAddr) (d : NearbyDiscovery) : NearbyDiscovery :=
  match d.pairing with
  | some (.outgoingRequested details localBundle _) =>
    if requestId ≠ details.requestId ∨ fromPeerId ≠ details.peerId ∨ toPeerId ≠ d.peerId
        ∨ details.address.ip ≠ source.ip ∨ ¬ validOpaqueField bundle then d
    else
      { d with
        pairing := some (.outgoingAccepted details bundle
          (verificationCode codec details.requestId localBundle bundle)) }
  | _ => d

def handlePairingConfirm (requestId fromPeerId toPeerId : List Char) (source : SocketAddr)
    (d : NearbyDiscovery) : NearbyDiscovery :=
  match d.pairing with
  | some (.incomingAccepted details remoteBundle _ _ _) =>
    if requestId ≠ details.requestId ∨ fromPeerId ≠ details.peerId ∨ toPeerId ≠ d.peerId
        ∨ details.address.ip ≠ source.ip then d
    else
      { d with
        completedBundle := d.completedBundle.or (some (details.requestId, remoteBundle))
        pairing := none }
  | _ => d

def handlePairingDecline (requestId fromPeerId toPeerId : List Char) (source : SocketAddr)
    (d : NearbyDiscovery) : NearbyDiscovery :=
  match d.pairing with
  | some session =>
    if requestId = session.details.requestId ∧ fromPeerId = session.details.peerId
        ∧ toPeerId = d.peerId ∧ session.details.address.ip = source.ip then
      { d with pairing := none }
    else d
  | none => d

def handleWorkspaceLayout (fromPeerId toPeerId : List Char) (revision : ℕ)
    (payload signature : List Char) (source : SocketAddr) (d : NearbyDiscovery) : NearbyDiscovery :=
  match d.records.get? fromPeerId with
  | none => d
  | some record =>
    if toPeerId ≠ d.peerId ∨ record.address.ip ≠ source.ip ∨ revision = 0
        ∨ ¬ validOpaqueField payload ∨ ¬ validOpaqueField signature then d
    else if d.incomingWorkspace.all fun current => current.revision < revision then
      { d with incomingWorkspace := some ⟨fromPeerId, revision, payload, signature⟩ }
    else d

def handleWorkspaceAck (fromPeerId toPeerId : List Char) (revision : ℕ) (signature : List Char)
    (source : SocketAddr) (d : NearbyDiscovery) : NearbyDiscovery :=
  match d.records.get? fromPeerId with
  | none => d
  | some record =>
    if toPeerId ≠ d.peerId ∨ record.address.ip ≠ source.ip ∨ revision = 0
        ∨ ¬ validOpaqueField signature then d
    else if d.incomingWorkspaceAck.all fun current => current.revision ≤ revision then
      { d with incomingWorkspaceAck := some ⟨fromPeerId, revision, signature⟩ }
    else d

def handlePairingPacket (codec : PanelCodec) (packet : PairingPacket) (source : SocketAddr)
    (now : ℕ) (peerConfigured : Bool) (d : NearbyDiscovery) : NearbyDiscovery :=
  if ¬ Config.isLanIp source.ip ∨ source.port ≠ discoveryPort then d
  else match packet with
    | .request requestId fromPeerId toPeerId bundle =>
      d.handlePairingRequest codec requestId fromPeerId toPeerId bundle source now peerConfigured
    | .accept requestId fromPeerId toPeerId bundle =>
      d.handlePairingAccept codec requestId fromPeerId toPeerId bundle source
    | .confirm requestId fromPeerId toPeerId =>
      d.handlePairingConfirm requestId fromPeerId toPeerId source
    | .decline requestId fromPeerId toPeerId =>
      d.handlePairingDecline requestId fromPeerId toPeerId source
    | .workspaceLayout fromPeerId toPeerId revision payload signature =>
      d.handleWorkspaceLayout fromPeerId toPeerId revision payload signature source
    | .workspaceLayoutAck fromPeerId toPeerId revision signature =>
      d.handleWorkspaceAck fromPeerId toPeerId revision signature source

/-- One datagram of the loop in `snapshot`. -/
def receive (codec : PanelCodec) (now : ℕ) (peerConfigured : Bool) (d : NearbyDiscovery)
    (received : NearbyDatagram × SocketAddr) : NearbyDiscovery :=
  match parseBeacon received.1 received.2 d.runtimePort now with
  | some record =>
    if record.peerId ≠ d.peerId
        ∧ (d.records.contains record.peerId ∨ d.records.size < maxNearbyMachines) then
      { d with records := d.records.insert record.peerId record }
    else d
  | none =>
    match parsePairingPacket codec received.1 with
    | some packet => d.handlePairingPacket codec packet received.2 now peerConfigured
    | none => d

/-- `NearbyDiscovery::snapshot` with the datagrams that wait in the socket. -/
def snapshot (codec : PanelCodec) (now : ℕ) (peerConfigured : Bool)
    (waiting : Inbox) (d : NearbyDiscovery) : NearbyDiscovery :=
  let d := (waiting.take maxReceiveDrain).foldl (receive codec now peerConfigured) d
  { d with records := d.records.filter fun _ record => now - record.lastSeen < staleAfter }

/-- Drop an expired session. -/
def dropExpired (now : ℕ) (d : NearbyDiscovery) : NearbyDiscovery :=
  if d.pairing.any (·.expired now) then { d with pairing := none } else d

def pairingSnapshot (now : ℕ) (d : NearbyDiscovery) : Option NearbyPairingDto × NearbyDiscovery :=
  let d := d.dropExpired now
  (d.pairing.map fun session => session.dto d.runtimePort, d)

/-! ### Retransmission -/

/-- What `retry_pairing_packet` sends for a session, and when it last did. -/
def retryPacket (own : List Char) : PairingSession → Option (PairingPacket × ℕ)
  | .outgoingRequested details localBundle lastSent =>
    some (.request details.requestId own details.peerId localBundle, lastSent)
  | .incomingAccepted details _ localBundle _ lastSent =>
    some (.accept details.requestId own details.peerId localBundle, lastSent)
  | .outgoingConfirmed details lastSent =>
    some (.confirm details.requestId own details.peerId, lastSent)
  | .incomingRequested .. | .outgoingAccepted .. => none

def retryPairingPacket (now : ℕ) (d : NearbyDiscovery) : NearbyDiscovery :=
  if d.pairing.any (·.expired now) then { d with pairing := none }
  else match d.pairing with
    | none => d
    | some session =>
      match retryPacket d.peerId session with
      | some (packet, lastSent) =>
        if beaconInterval ≤ now - lastSent then
          match sendPairingPacket accepted session.details.address packet d with
          | (.ok (), d) => { d with pairing := some (session.setLastSent now) }
          | (.error (), d) => d
        else d
      | none => d

def retryWorkspacePacket (now : ℕ) (d : NearbyDiscovery) : NearbyDiscovery :=
  match d.workspaceAdvertised with
  | none => d
  | some workspace =>
    if workspace.lastSent.any fun lastSent => now - lastSent < beaconInterval then d
    else match d.records.get? workspace.peerId with
      | none => d
      | some record =>
        match sendPairingPacket accepted ⟨record.address.ip, discoveryPort⟩
            (.workspaceLayout d.peerId workspace.peerId workspace.revision workspace.payload
              workspace.signature) d with
        | (.ok (), d) => { d with
            workspaceAdvertised := some { workspace with lastSent := some now } }
        | (.error (), d) => d

def retryWorkspaceAckPacket (now : ℕ) (d : NearbyDiscovery) : NearbyDiscovery :=
  match d.workspaceAckAdvertised with
  | none => d
  | some acknowledgement =>
    if acknowledgement.lastSent.any fun lastSent => now - lastSent < beaconInterval then d
    else match d.records.get? acknowledgement.peerId with
      | none => d
      | some record =>
        match sendPairingPacket accepted ⟨record.address.ip, discoveryPort⟩
            (.workspaceLayoutAck d.peerId acknowledgement.peerId acknowledgement.revision
              acknowledgement.signature) d with
        | (.ok (), d) => { d with
            workspaceAckAdvertised := some { acknowledgement with lastSent := some now } }
        | (.error (), d) => d

def publishWorkspaceLayout (now : ℕ) (peerId : List Char) (revision : ℕ)
    (payload signature : List Char) : Step Unit NearbyDiscovery Unit := do
  guard () fun d => validPeerId peerId && peerId != d.peerId && revision != 0
    && validOpaqueField payload && validOpaqueField signature
  update fun d =>
    if d.workspaceAdvertised.all fun current =>
        current.peerId != peerId || current.revision != revision || current.payload != payload then
      { d with workspaceAdvertised := some ⟨peerId, revision, payload, signature, none⟩ }
    else d
  update (retryWorkspacePacket accepted now)

def publishWorkspaceAck (now : ℕ) (peerId : List Char) (revision : ℕ)
    (signature : List Char) : Step Unit NearbyDiscovery Unit := do
  guard () fun d => validPeerId peerId && peerId != d.peerId && revision != 0
    && validOpaqueField signature
  update fun d =>
    if d.workspaceAckAdvertised.all fun current =>
        current.peerId != peerId || current.revision != revision
          || current.signature != signature then
      { d with workspaceAckAdvertised := some ⟨peerId, revision, signature, none⟩ }
    else d
  update (retryWorkspaceAckPacket accepted now)

def takeWorkspaceLayout (d : NearbyDiscovery) : Option IncomingWorkspaceLayout × NearbyDiscovery :=
  (d.incomingWorkspace, { d with incomingWorkspace := none })

def takeWorkspaceAck (d : NearbyDiscovery) :
    Option IncomingWorkspaceAcknowledgement × NearbyDiscovery :=
  (d.incomingWorkspaceAck, { d with incomingWorkspaceAck := none })

/-- `refresh`; the beacon is left out. -/
def refresh (now : ℕ) (d : NearbyDiscovery) : NearbyDiscovery :=
  ((d.retryPairingPacket accepted now).retryWorkspacePacket accepted now).retryWorkspaceAckPacket
    accepted now

/-! ## What one datagram can do to the pairing -/

/-- How one datagram changes the pairing session and the completed bundle. -/
inductive PairingChange (codec : PanelCodec) (datagram : NearbyDatagram) (d d' : NearbyDiscovery) :
    Prop
  | kept (pairing : d'.pairing = d.pairing) (completed : d'.completedBundle = d.completedBundle)
  | requested (details : PairingDetails) (bundle : List Char)
      (free : ∀ session, d.pairing = some session →
        ∃ own localBundle lastSent, session = .outgoingRequested own localBundle lastSent)
      (pairing : d'.pairing = some (.incomingRequested details bundle))
      (completed : d'.completedBundle = d.completedBundle)
  | accepted (details : PairingDetails) (localBundle bundle : List Char) (lastSent : ℕ)
      (waiting : d.pairing = some (.outgoingRequested details localBundle lastSent))
      (pairing : d'.pairing = some (.outgoingAccepted details bundle
        (verificationCode codec details.requestId localBundle bundle)))
      (completed : d'.completedBundle = d.completedBundle)
  | completed (details : PairingDetails) (remoteBundle localBundle code : List Char) (lastSent : ℕ)
      (packet : datagram = .pairing (.confirm details.requestId details.peerId d.peerId))
      (waiting : d.pairing =
        some (.incomingAccepted details remoteBundle localBundle code lastSent))
      (pairing : d'.pairing = none)
      (completed : d'.completedBundle =
        d.completedBundle.or (some (details.requestId, remoteBundle)))
  | declined (session : PairingSession)
      (packet : datagram = .pairing
        (.decline session.details.requestId session.details.peerId d.peerId))
      (present : d.pairing = some session) (pairing : d'.pairing = none)
      (completed : d'.completedBundle = d.completedBundle)

/-- The effect of one datagram; the panel's own identity and what it has sent stay. -/
structure PairingEffect (codec : PanelCodec) (datagram : NearbyDatagram)
    (d d' : NearbyDiscovery) : Prop where
  peerId : d'.peerId = d.peerId
  sent : d'.sent = d.sent
  change : PairingChange codec datagram d d'

section

variable {codec : PanelCodec} {source : SocketAddr} {now : ℕ} {peerConfigured : Bool}
  {d : NearbyDiscovery}

theorem PairingEffect.same {datagram : NearbyDatagram} : PairingEffect codec datagram d d :=
  ⟨rfl, rfl, .kept rfl rfl⟩

theorem handlePairingRequest_effect (requestId fromPeerId toPeerId bundle : List Char)
    (datagram : NearbyDatagram) : PairingEffect codec datagram d
      (d.handlePairingRequest codec requestId fromPeerId toPeerId bundle source now
        peerConfigured) := by
  unfold handlePairingRequest
  cases d.records.get? fromPeerId with
  | none => exact .same
  | some record =>
    dsimp only
    split_ifs with hinvalid hconfigured hreplace
    · exact .same
    · exact .same
    · refine ⟨rfl, rfl, .requested _ _ (fun session hsession => ?_) rfl rfl⟩
      rw [hsession] at hreplace
      cases session with
      | outgoingRequested own localBundle lastSent => exact ⟨own, localBundle, lastSent, rfl⟩
      | incomingRequested _ _ | incomingAccepted _ _ _ _ _ | outgoingAccepted _ _ _
      | outgoingConfirmed _ _ => cases hreplace
    · exact .same

/-- Everything a datagram can do to the pairing. -/
theorem receive_effect (codec : PanelCodec) (now : ℕ) (peerConfigured : Bool)
    (d : NearbyDiscovery) (received : NearbyDatagram × SocketAddr) :
    PairingEffect codec received.1 d (d.receive codec now peerConfigured received) := by
  obtain ⟨datagram, source⟩ := received
  unfold receive
  split
  · split_ifs <;> exact ⟨rfl, rfl, .kept rfl rfl⟩
  · split
    · rename_i packet hpacket
      have hdatagram : datagram = .pairing packet := by
        cases datagram with
        | pairing packet' =>
          dsimp only [parsePairingPacket] at hpacket
          split_ifs at hpacket
          cases hpacket
          rfl
        | beacon _ _ _ _ | other => cases hpacket
      subst hdatagram
      unfold handlePairingPacket
      split_ifs
      · exact .same
      · cases packet with
        | request requestId fromPeerId toPeerId bundle =>
          exact handlePairingRequest_effect _ _ _ _ _
        | accept requestId fromPeerId toPeerId bundle =>
          dsimp only [handlePairingAccept]
          split
          · rename_i details localBundle lastSent hsession
            split_ifs
            · exact .same
            · exact ⟨rfl, rfl, .accepted details localBundle bundle lastSent hsession rfl rfl⟩
          · exact .same
        | confirm requestId fromPeerId toPeerId =>
          dsimp only [handlePairingConfirm]
          split
          · rename_i details remoteBundle localBundle code lastSent hsession
            split_ifs with hmismatch
            · exact .same
            · simp only [not_or, not_not] at hmismatch
              obtain ⟨rfl, rfl, rfl, -⟩ := hmismatch
              exact ⟨rfl, rfl,
                .completed details remoteBundle localBundle code lastSent rfl hsession rfl rfl⟩
          · exact .same
        | decline requestId fromPeerId toPeerId =>
          dsimp only [handlePairingDecline]
          split
          · rename_i session hsession
            split_ifs with hmatch
            · obtain ⟨rfl, rfl, rfl, -⟩ := hmatch
              exact ⟨rfl, rfl, .declined session rfl hsession rfl rfl⟩
            · exact .same
          · exact .same
        | workspaceLayout fromPeerId toPeerId revision payload signature =>
          dsimp only [handleWorkspaceLayout]
          split
          · exact .same
          · split_ifs <;> exact ⟨rfl, rfl, .kept rfl rfl⟩
        | workspaceLayoutAck fromPeerId toPeerId revision signature =>
          dsimp only [handleWorkspaceAck]
          split
          · exact .same
          · split_ifs <;> exact ⟨rfl, rfl, .kept rfl rfl⟩
    · exact .same

end

end NearbyDiscovery

end SoftwareKvm
