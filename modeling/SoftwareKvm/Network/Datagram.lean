import Mathlib.Data.Nat.Sqrt
import SoftwareKvm.Wire.Message

/-!
# The datagram path of a session

Model of `PointerDatagramPath` (`kvm-network/src/pointer_datagram.rs`), the
encrypted UDP path beside the TLS stream. It carries pointer totals, and shadow
copies of key, button and scroll input with sequence numbers of their own.

A datagram is its sequence number and its plaintext: the cipher is taken to be
authentic, so a datagram that arrives is one of the peer's, or `forged`. A frame
is the message it encodes; encoding fails exactly on invalid messages, and the
frame of an input message is far below `MAX_DATAGRAM`. Totals are exact sums.
The jitter and silence statistics are left out. The maps with random iteration
order are iterated in key order.

`Copies P Q` says that the shadow copies that a path sends satisfy `P`, and
those it has received satisfy `Q`.
-/

namespace SoftwareKvm

open Lib

/-! ## Datagrams and sockets -/

/-- The plaintext of a datagram: `KIND_PROBE`, `KIND_POINTER`, `KIND_FEEDBACK`,
    `KIND_RELIABLE` or `KIND_RELIABLE_ACK`, with its body. -/
inductive DatagramPayload
  | probe
  | pointer (device : DeviceId) (timestampNs : ℕ) (totals : F64 × F64)
  | feedback
  | reliable (sequence : ℕ) (message : WireMessage)
  | reliableAck (acknowledged : ℕ)
  deriving DecidableEq

structure Datagram where
  sequence : ℕ
  payload : DatagramPayload
  deriving DecidableEq

/-- What arrives at a socket: bytes without the header, a datagram that does
    not authenticate, or one of the peer's. -/
inductive Arrival
  | malformed
  | forged (sequence : ℕ)
  | authentic (packet : Datagram)

/-- `io::ErrorKind`, as far as the callers tell the kinds apart. -/
inductive IoErrorKind
  | invalidData
  | writeZero
  | wouldBlock
  | other
  deriving DecidableEq

structure IoError where
  kind : IoErrorKind
  detail : String

/-- The answer of a socket to a send: all bytes or some of them are written, or an error. -/
inductive SendAnswer
  | written
  | short
  | blocked
  | failed (detail : String)

/-- A connected socket: the datagrams that left it, and its answer to the n-th send. -/
structure UdpSocket where
  packets : List Datagram
  answers : ℕ → SendAnswer
  sends : ℕ := 0

def UdpSocket.trySend (socket : UdpSocket) (packet : Datagram) : Except IoError Unit × UdpSocket :=
  let asked := { socket with sends := socket.sends + 1 }
  match socket.answers socket.sends with
  | .written => (.ok (), { asked with packets := socket.packets ++ [packet] })
  | .short => (.error ⟨.writeZero, "partial datagram"⟩, asked)
  | .blocked => (.error ⟨.wouldBlock, ""⟩, asked)
  | .failed detail => (.error ⟨.other, detail⟩, asked)

/-! ## State -/

def maxTrackedDevices : ℕ := 64
/-- `POINTER_PACING_INTERVAL`, in nanoseconds. -/
def pointerPacingInterval : ℕ := 4000000
/-- `RELIABLE_RETRY_INTERVAL`, in nanoseconds. -/
def reliableRetryInterval : ℕ := 8000000
def maxReliablePending : ℕ := 128
def maxReliableAttempts : ℕ := 4

structure PendingPointer where
  timestampNs : ℕ
  totals : F64 × F64

structure PendingReliable where
  payload : DatagramPayload
  lastSent : ℕ
  attempts : ℕ

structure PointerDatagramPath where
  socket : UdpSocket
  sendSequence : ℕ
  receiveSequence : Option ℕ
  ready : Bool
  localHost : HostId
  remoteHost : HostId
  sentTotals : OrdMap DeviceId (F64 × F64)
  pending : OrdMap DeviceId PendingPointer
  lastPointerSend : Option ℕ
  recentlySent : ℕ
  redundancyBudget : ℕ
  pacingInterval : ℕ
  reliableSendSequence : ℕ
  reliableReceiveSequence : ℕ
  reliablePending : OrdMap ℕ PendingReliable
  reliableReceived : OrdMap ℕ WireMessage
  receivedTotals : OrdMap DeviceId (F64 × F64)

structure DatagramReceive where
  input : Option InputEventV1
  gaps : ℕ
  recoveryMilliunits : ℕ
  reliableMessages : List WireMessage

def DatagramReceive.default : DatagramReceive := ⟨none, 0, 0, []⟩

def WireMessage.isPointerMove : WireMessage → Bool
  | .input event => match event.payload with
    | .pointerMove _ _ => true
    | _ => false
  | _ => false

def WireMessage.isStatefulInput : WireMessage → Bool
  | .input event => match event.payload with
    | .pointerMove _ _ => false
    | _ => true
  | _ => false

/-- `recovery_milliunits`: `⌊1000 √(dx² + dy²)⌋`, clamped to a `u64`. -/
def recoveryMilliunits : F64 → F64 → ℕ
  | .finite dx, .finite dy =>
    min (Nat.sqrt ((dx * dx + dy * dy) * 1000000).floor.toNat) (u64Size - 1)
  | _, _ => 0

/-- The result of a method and the path after it. -/
abbrev PathResult (α : Type) : Type := Except IoError α × PointerDatagramPath

namespace PointerDatagramPath

/-- `PointerDatagramPath::bind` on a socket that is already connected. -/
def bind (socket : UdpSocket) (localHost remoteHost : HostId) : PointerDatagramPath where
  socket := socket
  sendSequence := 0
  receiveSequence := none
  ready := false
  localHost := localHost
  remoteHost := remoteHost
  sentTotals := ∅
  pending := ∅
  lastPointerSend := none
  recentlySent := 0
  redundancyBudget := 0
  pacingInterval := pointerPacingInterval
  reliableSendSequence := 0
  reliableReceiveSequence := 0
  reliablePending := ∅
  reliableReceived := ∅
  receivedTotals := ∅

/-! ## Sending -/

variable [F64Arith] (path : PointerDatagramPath)

/-- `encode_payload`: every attempt takes a fresh sequence number. -/
def encodePayload (payload : DatagramPayload) : PathResult Datagram :=
  match checkedAdd path.sendSequence 1 with
  | none => (.error ⟨.other, "datagram sequence exhausted"⟩, path)
  | some next => (.ok ⟨path.sendSequence, payload⟩, { path with sendSequence := next })

/-- `self.socket.try_send(&packet)`. -/
def trySend (packet : Datagram) : PathResult Unit :=
  let (result, socket) := path.socket.trySend packet
  (result, { path with socket })

/-- `encode_payload` with `?`, followed by a send. -/
def sendPayload (payload : DatagramPayload) : PathResult Unit :=
  match path.encodePayload payload with
  | (.error error, path) => (.error error, path)
  | (.ok packet, path) => path.trySend packet

/-- `encode_payload` with `?`, followed by a send whose result is ignored. -/
def sendIgnored (payload : DatagramPayload) : PathResult Unit :=
  match path.encodePayload payload with
  | (.error error, path) => (.error error, path)
  | (.ok packet, path) => (.ok (), (path.trySend packet).2)

/-- `send_probe`. The awaited send does not report a full buffer. -/
def sendProbe : PathResult Unit :=
  path.sendPayload .probe

/-- The second copy that `flush_pending` sends while the redundancy budget lasts. -/
def sendRedundant (packet : Datagram) : PointerDatagramPath :=
  if path.redundancyBudget > 0 then
    let path := (path.trySend packet).2
    let path := { path with redundancyBudget := path.redundancyBudget - 1 }
    if path.redundancyBudget = 0 then { path with pacingInterval := pointerPacingInterval }
    else path
  else path

/-- The loop of `flush_pending`; a blocked move becomes pending again. -/
def flushLoop : List (DeviceId × PendingPointer) → ℕ → PointerDatagramPath →
    PathResult ℕ
  | [], sent, path => (.ok sent, path)
  | (device, pointer) :: rest, sent, path =>
    match path.encodePayload (.pointer device pointer.timestampNs pointer.totals) with
    | (.error error, path) => (.error error, path)
    | (.ok packet, path) =>
      match path.trySend packet with
      | (.ok (), path) => flushLoop rest (sent + 1) (path.sendRedundant packet)
      | (.error error, path) =>
        if error.kind = .wouldBlock then
          flushLoop rest sent { path with pending := path.pending.insert device pointer }
        else (.error error, path)

def flushPending (now : ℕ) : PathResult ℕ :=
  if !path.ready || path.pending.isEmpty then (.ok 0, path)
  else
    match flushLoop path.pending.entries 0 { path with pending := ∅ } with
    | (.error error, path) => (.error error, path)
    | (.ok sent, path) =>
      if sent > 0 then
        (.ok sent, { path with
          lastPointerSend := some now
          recentlySent := saturatingAdd path.recentlySent sent })
      else (.ok sent, path)

def takeRecentlySent : ℕ × PointerDatagramPath :=
  (path.recentlySent, { path with recentlySent := 0 })

/-- The totals of `try_send_pointer` become pending, and are flushed unless the
    last flush was less than the pacing interval ago. -/
def queueTotals (input : InputEventV1) (totals : F64 × F64) (now : ℕ) : PathResult Bool :=
  let path := { path with
    sentTotals := path.sentTotals.insert input.sourceDevice totals
    pending := path.pending.insert input.sourceDevice ⟨input.timestampNs, totals⟩ }
  if path.lastPointerSend.any fun last => now - last < path.pacingInterval then (.ok true, path)
  else
    let (flushed, path) := path.flushPending now
    (flushed.map fun _ => true, path)

def trySendPointer (message : WireMessage) (now : ℕ) : PathResult Bool :=
  if !path.ready then (.ok false, path)
  else match message with
    | .input input => match input.payload with
      | .pointerMove dx dy =>
        if input.sourceHost ≠ path.localHost then
          (.error ⟨.invalidData, "pointer host mismatch"⟩, path)
        else
          let previous := (path.sentTotals.get? input.sourceDevice).getD (.finite 0, .finite 0)
          if !path.sentTotals.contains input.sourceDevice
              && decide (path.sentTotals.size ≥ maxTrackedDevices) then
            (.error ⟨.invalidData, "pointer device capacity exceeded"⟩, path)
          else path.queueTotals input
            (F64Arith.add previous.1 dx, F64Arith.add previous.2 dy) now
      | _ => (.ok false, path)
    | _ => (.ok false, path)

/-- `shadow_reliable`. The reliable sequence number is taken before the
    datagram is encoded, so a failed send leaves a gap. -/
def shadowReliable (message : WireMessage) (now : ℕ) : PathResult Bool :=
  if !path.ready || !message.isStatefulInput then (.ok false, path)
  else if path.reliablePending.size ≥ maxReliablePending then (.ok false, path)
  else match message.validate with
    | .error _ => (.error ⟨.invalidData, "reliable encode failed"⟩, path)
    | .ok () =>
      let sequence := path.reliableSendSequence
      match checkedAdd sequence 1 with
      | none => (.error ⟨.other, "reliable sequence exhausted"⟩, path)
      | some next =>
        let path := { path with reliableSendSequence := next }
        let payload := .reliable sequence message
        let (result, path) := path.sendPayload payload
        match result with
        | .error error =>
          if error.kind = .wouldBlock then
            (.ok true, { path with
              reliablePending := path.reliablePending.insert sequence ⟨payload, now, 1⟩ })
          else (.error error, path)
        | .ok () => (.ok true, { path with
            reliablePending := path.reliablePending.insert sequence ⟨payload, now, 1⟩ })

/-- The loop of `maintain_reliable` over the due sequence numbers. -/
def maintainLoop (now : ℕ) : List ℕ → ℕ → PointerDatagramPath →
    PathResult ℕ
  | [], retransmitted, path => (.ok retransmitted, path)
  | sequence :: rest, retransmitted, path =>
    match path.reliablePending.get? sequence with
    | none => maintainLoop now rest retransmitted path
    | some pending =>
      let path := { path with reliablePending := path.reliablePending.erase sequence }
      if pending.attempts ≥ maxReliableAttempts then maintainLoop now rest retransmitted path
      else
        let (result, path) := path.sendPayload pending.payload
        match result with
        | .ok () => maintainLoop now rest (retransmitted + 1) { path with
            reliablePending := path.reliablePending.insert sequence
              { pending with attempts := pending.attempts + 1, lastSent := now } }
        | .error error =>
          if error.kind = .wouldBlock then
            maintainLoop now rest retransmitted { path with
              reliablePending := path.reliablePending.insert sequence pending }
          else (.error error, path)

def maintainReliable (now : ℕ) : PathResult ℕ :=
  let due := (path.reliablePending.filter fun _ pending =>
    decide (now - pending.lastSent ≥ reliableRetryInterval)).keys
  maintainLoop now due 0 path

/-! ## Receiving -/

/-- The `while let` loop of `receive`: hands out the buffered messages from
    `reliable_receive_sequence` on. The bound is the size of the buffer, from
    which every iteration removes an entry. -/
def takeReady : ℕ → PointerDatagramPath → List WireMessage × PointerDatagramPath
  | 0, path => ([], path)
  | fuel + 1, path =>
    match path.reliableReceived.get? path.reliableReceiveSequence with
    | none => ([], path)
    | some message =>
      let (messages, path) := takeReady fuel { path with
        reliableReceived := path.reliableReceived.erase path.reliableReceiveSequence
        reliableReceiveSequence := path.reliableReceiveSequence + 1 }
      (message :: messages, path)

/-- The buffer entry of `receive` for a reliable message, if it is not behind and there is room. -/
def bufferReliable (sequence : ℕ) (message : WireMessage) : PointerDatagramPath :=
  if path.reliableReceiveSequence ≤ sequence ∧ path.reliableReceived.size < maxReliablePending
      ∧ path.reliableReceived.contains sequence = false then
    { path with reliableReceived := path.reliableReceived.insert sequence message }
  else path

/-- The `KIND_RELIABLE` arm of `receive`. An error after the loop loses the
    messages it has handed out. -/
def receiveReliable (sequence : ℕ) (message : WireMessage)
    (gaps : ℕ) : PathResult DatagramReceive :=
  if !message.isStatefulInput then
    (.error ⟨.invalidData, "invalid reliable message"⟩, path)
  else
    let path := path.bufferReliable sequence message
    let (messages, path) := takeReady path.reliableReceived.size path
    if path.reliableReceiveSequence > 0 then
      let (result, path) := path.sendIgnored (.reliableAck (path.reliableReceiveSequence - 1))
      (result.map fun _ => ⟨none, gaps, 0, messages⟩, path)
    else (.ok ⟨none, gaps, 0, messages⟩, path)

/-- The `KIND_POINTER` arm of `receive`. -/
def receivePointer (sequence : ℕ) (device : DeviceId)
    (timestampNs : ℕ) (totals : F64 × F64) (gaps : ℕ) : PathResult DatagramReceive :=
  if !totals.1.isFinite || !totals.2.isFinite then
    (.error ⟨.invalidData, "invalid pointer totals"⟩, path)
  else if !path.receivedTotals.contains device
      && decide (path.receivedTotals.size ≥ maxTrackedDevices) then
    (.error ⟨.invalidData, "pointer device capacity exceeded"⟩, path)
  else
    let previous := (path.receivedTotals.get? device).getD (.finite 0, .finite 0)
    let dx := F64Arith.sub totals.1 previous.1
    let dy := F64Arith.sub totals.2 previous.2
    let recovery := if gaps > 0 then recoveryMilliunits dx dy else 0
    (.ok ⟨some ⟨sequence, timestampNs, path.remoteHost, device, .pointerMove dx dy⟩, gaps,
        recovery, []⟩,
      { path with receivedTotals := path.receivedTotals.insert device totals })

/-- `receive` on a datagram that passed the replay check and the cipher. -/
def receivePayload (packet : Datagram) (gaps : ℕ) : PathResult DatagramReceive :=
  let nothing : DatagramReceive := ⟨none, gaps, 0, []⟩
  match packet.payload with
  | .probe => (.ok nothing, { path with ready := true })
  | .pointer device timestampNs totals =>
    path.receivePointer packet.sequence device timestampNs totals gaps
  | .feedback => (.ok nothing, { path with redundancyBudget := 8, pacingInterval := 8000000 })
  | .reliable sequence message => path.receiveReliable sequence message gaps
  | .reliableAck acknowledged =>
    (.ok nothing, { path with
      reliablePending := path.reliablePending.filter fun sequence _ =>
        decide (sequence > acknowledged) })

def receive (arrival : Arrival) : PathResult DatagramReceive :=
  match arrival with
  | .malformed => (.ok .default, path)
  | .forged sequence =>
    if path.receiveSequence.any fun last => decide (sequence ≤ last) then (.ok .default, path)
    else (.error ⟨.invalidData, "datagram authentication failed"⟩, path)
  | .authentic packet =>
    if path.receiveSequence.any fun last => decide (packet.sequence ≤ last) then
      (.ok .default, path)
    else
      let gaps := (path.receiveSequence.map fun last => packet.sequence - last - 1).getD 0
      let path := { path with receiveSequence := some packet.sequence }
      if gaps > 0 then
        match path.sendIgnored .feedback with
        | (.error error, path) => (.error error, path)
        | (.ok (), path) => path.receivePayload packet gaps
      else path.receivePayload packet gaps

end PointerDatagramPath

/-! ## Shadow copies -/

/-- A shadow copy carries a message that satisfies `P`. -/
def DatagramPayload.Shadows (P : WireMessage → Prop) : DatagramPayload → Prop
  | .reliable _ message => P message
  | _ => True

theorem DatagramPayload.shadows_true (payload : DatagramPayload) :
    payload.Shadows fun _ => True := by
  cases payload <;> trivial

theorem DatagramPayload.Shadows.mono {P P' : WireMessage → Prop} {payload : DatagramPayload}
    (h : payload.Shadows P) (hP : ∀ message, P message → P' message) : payload.Shadows P' := by
  cases payload with
  | reliable _ message => exact hP message h
  | _ => trivial

namespace PointerDatagramPath

/-- Every shadow copy sent or due again satisfies `P`, every one buffered satisfies `Q`. -/
structure CopiesIn (P Q : WireMessage → Prop) (packets : List Datagram)
    (pending : OrdMap ℕ PendingReliable) (received : OrdMap ℕ WireMessage) : Prop where
  packets : ∀ packet ∈ packets, packet.payload.Shadows P
  pending : ∀ sequence entry, pending.get? sequence = some entry →
    ∃ number message, entry.payload = .reliable number message ∧ P message
  received : ∀ sequence message, received.get? sequence = some message → Q message

/-- The shadow copies of a path. -/
def Copies (P Q : WireMessage → Prop) (path : PointerDatagramPath) : Prop :=
  CopiesIn P Q path.socket.packets path.reliablePending path.reliableReceived

section Copies

variable {P Q : WireMessage → Prop} {packets : List Datagram}
  {pending : OrdMap ℕ PendingReliable} {received : OrdMap ℕ WireMessage}

theorem copies_bind {socket : UdpSocket} (hpackets : socket.packets = [])
    (localHost remoteHost : HostId) : (bind socket localHost remoteHost).Copies P Q where
  packets packet hmem := by
    rw [bind, hpackets] at hmem
    cases hmem
  pending _ _ hget := nomatch hget
  received _ _ hget := nomatch hget

namespace CopiesIn

variable (h : CopiesIn P Q packets pending received)

include h

theorem mono {P' Q' : WireMessage → Prop}
    (hP : ∀ message, P message → P' message) (hQ : ∀ message, Q message → Q' message) :
    CopiesIn P' Q' packets pending received where
  packets packet hmem := (h.packets packet hmem).mono hP
  pending sequence entry hget := by
    obtain ⟨number, message, hpayload, hmessage⟩ := h.pending sequence entry hget
    exact ⟨number, message, hpayload, hP message hmessage⟩
  received sequence message hget := hQ message (h.received sequence message hget)

theorem send {packets' extra : List Datagram} (hpackets : packets' = packets ++ extra)
    (hextra : ∀ packet ∈ extra, packet.payload.Shadows P) :
    CopiesIn P Q packets' pending received :=
  ⟨hpackets ▸ List.forall_mem_append.mpr ⟨h.packets, hextra⟩, h.pending, h.received⟩

theorem insertPending (sequence : ℕ) {entry : PendingReliable}
    (hentry : ∃ number message, entry.payload = .reliable number message ∧ P message) :
    CopiesIn P Q packets (pending.insert sequence entry) received :=
  { h with pending := OrdMap.forall_insert _ h.pending hentry }

theorem filterPending
    (keep : ℕ → PendingReliable → Bool) : CopiesIn P Q packets (pending.filter keep) received where
  packets := h.packets
  pending sequence entry hget := by
    rw [OrdMap.get?_filter] at hget
    exact h.pending sequence entry (Option.eq_some_of_filter_eq_some hget)
  received := h.received

end CopiesIn

/-- The messages that an observation hands out satisfy `Q`. -/
def HandsOut (Q : WireMessage → Prop) (result : Except IoError DatagramReceive) : Prop :=
  ∀ observation, result = .ok observation → ∀ message ∈ observation.reliableMessages, Q message

theorem handsOut_nothing {gaps recovery : ℕ} {input : Option InputEventV1} :
    HandsOut Q (.ok ⟨input, gaps, recovery, []⟩) := by
  intro observation h message hmem
  rw [← Except.ok.inj h] at hmem
  cases hmem

theorem handsOut_error {error : IoError} : HandsOut Q (.error error) := fun _ h => nomatch h

end Copies

end PointerDatagramPath

end SoftwareKvm
