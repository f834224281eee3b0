import SoftwareKvm.Network.Peer
import SoftwareKvm.Session.Agreement

/-!
# Input over two transports

A version-3 session sends its input twice: every message goes to the TLS
stream, and key, button and scroll input also to the datagram path. The
receiver merges the two in the order in which they arrive; it refuses a
sequence number that is not above the last one, unless the very same input is
among the last 128 that it accepted.

`DualTransport` is the system of both ends and the network between them. The
receiver can refuse a message with `StaleSequence`
(`dualTransport_staleSequence`): a shadow copy that overtakes an earlier message
of the TLS stream makes that message stale. The results are about the runs
without such an overtaking.

Results:
* `remembered_of_recent`: an accepted input stays remembered while the next 127
  are accepted.
* `Routes.carried`: what routing leaves on the TLS stream is still a stream that
  a receiver accepts in order.
* `exactlyOnce`: if every message is handled in its turn, nothing is refused, and
  the receiver injects the routed messages once each, in sequence order.
-/

namespace SoftwareKvm

open Lib

/-- The sequence number of an input or a release. -/
def WireMessage.inputSequence : WireMessage → ℕ
  | .input wire => wire.sequence
  | .releaseInput wire => wire.sequence
  | _ => 0

/-! ## Streams that a receiver accepts in order -/

/-- Messages that a receiver accepts one after the other, with the last
    sequence number and the set held at the end. -/
inductive Carried (host : HostId) : List WireMessage → ℕ → Set HeldControl → Prop
  | nil : Carried host [] 0 ∅
  | snoc {messages : List WireMessage} {last : ℕ} {held held' : Set HeldControl}
      {message : WireMessage} {sequence : ℕ} (h : Carried host messages last held)
      (hlt : last < sequence) (hbound : sequence < u64Size)
      (hcarries : Carries host held sequence message held') :
      Carried host (messages ++ [message]) sequence held'

variable {host : HostId} {held held' : Set HeldControl} {message : WireMessage} {sequence last : ℕ}
  {messages : List WireMessage}

theorem Carries.inputSequence_eq (h : Carries host held sequence message held') :
    message.inputSequence = sequence := by
  cases h with
  | input hsequence => exact hsequence
  | release hsequence => exact hsequence

/-- A carried pointer move leaves the held set as it is. -/
theorem Carries.held_of_move (h : Carries host held sequence message held')
    (hmove : message.isPointerMove = true) : held' = held := by
  cases h with
  | release => cases hmove
  | @input wire event _ hsequence hhost hevent hadmits =>
    unfold WireMessage.isPointerMove at hmove
    simp only at hmove
    split at hmove
    · rename_i dx dy hpayload
      unfold inputFromWire at hevent
      simp only [hpayload, payloadFromWire] at hevent
      split_ifs at hevent
      cases hevent
      rfl
    · cases hmove

theorem inputFromWire_exact {wire : InputEventV1} {event : InputEvent}
    (h : inputFromWire wire = .ok event) : (WireMessage.input wire).exact = true := by
  grind [inputFromWire, payloadFromWire, InputPayload.isFinite, WireMessage.exact]

/-- A move folded into a carried move is carried. -/
theorem Carries.fold [F64Arith] {held₁ held₂ : Set HeldControl} {sequence₁ sequence₂ : ℕ}
    {tail folded : WireMessage} (h₁ : Carries host held₁ sequence₁ tail held)
    (h₂ : Carries host held sequence₂ message held₂)
    (hfold : foldPointerMove tail message = some folded)
    (hexact : tail.exact = true → message.exact = true → folded.exact = true) :
    Carries host held₁ sequence₂ folded held₂ := by
  obtain ⟨htail, hmessage⟩ := foldPointerMove_isPointerMove hfold
  rw [h₂.held_of_move hmessage, h₁.held_of_move htail]
  obtain ⟨pending, incoming, dx, dy, dx', dy', rfl, rfl, hpending, hincoming, -, -, rfl⟩ :=
    foldPointerMove_eq_some hfold
  cases h₁ with
  | @input _ event _ hsequence₁ hhost hevent₁ hadmits₁ =>
    cases h₂ with
    | @input _ event₂ _ hsequence₂ hhost₂ hevent₂ hadmits₂ =>
      have hevent : inputFromWire { pending with
          sequence := incoming.sequence
          timestampNs := incoming.timestampNs
          payload := .pointerMove (F64Arith.add dx dx') (F64Arith.add dy dy') } = .ok
            ⟨incoming.sequence, incoming.timestampNs, pending.sourceHost, pending.sourceDevice,
              .pointerMove (F64Arith.add dx dx') (F64Arith.add dy dy')⟩ :=
        if_pos (hexact (inputFromWire_exact hevent₁) (inputFromWire_exact hevent₂))
      refine .input ?_ ?_ hevent trivial
      · exact hsequence₂
      · exact hhost

namespace Carried

theorem snoc_inv {front : List WireMessage} (h : Carried host (front ++ [message]) last held) :
    ∃ last' held', Carried host front last' held' ∧ last' < last ∧ last < u64Size
      ∧ Carries host held' last message held := by
  generalize heq : front ++ [message] = l at h
  cases h with
  | nil => simp at heq
  | snoc h hlt hbound hcarries =>
    obtain ⟨rfl, heq'⟩ := List.append_inj' heq rfl
    cases heq'
    exact ⟨_, _, h, hlt, hbound, hcarries⟩

theorem nil_inv (h : Carried host [] last held) : last = 0 ∧ held = ∅ := by
  generalize heq : ([] : List WireMessage) = l at h
  cases h with
  | nil => exact ⟨rfl, rfl⟩
  | snoc => simp at heq

theorem of_append {front back : List WireMessage} (h : Carried host (front ++ back) last held) :
    ∃ last' held', Carried host front last' held' := by
  induction back using List.reverseRecOn generalizing last held with
  | nil => exact ⟨last, held, by simpa using h⟩
  | append_singleton back message ih =>
    rw [← List.append_assoc] at h
    obtain ⟨last', held', h', -⟩ := h.snoc_inv
    exact ih h'

/-- The sequence numbers increase strictly up to the last one. -/
theorem increasing (h : Carried host messages last held) :
    (messages.map WireMessage.inputSequence).Pairwise (· < ·)
      ∧ ∀ message ∈ messages, message.inputSequence ≤ last := by
  induction h with
  | nil => exact ⟨.nil, fun _ hmem => (List.not_mem_nil hmem).elim⟩
  | @snoc messages last held held' message sequence _ hlt _ hcarries ih =>
    obtain ⟨hpairwise, hbound⟩ := ih
    have hsequence := hcarries.inputSequence_eq
    refine ⟨?_, fun m hmem => ?_⟩
    · rw [List.map_append, List.pairwise_append]
      refine ⟨hpairwise, List.pairwise_singleton _ _, fun a ha b hb => ?_⟩
      obtain ⟨m, hm, rfl⟩ := List.mem_map.mp ha
      rw [List.map_singleton, List.mem_singleton] at hb
      have := hbound m hm
      omega
    · rcases List.mem_append.mp hmem with hmem | hmem
      · exact (hbound m hmem).trans hlt.le
      · rw [List.mem_singleton.mp hmem, hsequence]

theorem nodup (h : Carried host messages last held) : messages.Nodup :=
  List.Nodup.of_map _ (h.increasing.1.imp fun hlt => hlt.ne)

/-- Every message of the stream is carried from some held set. -/
theorem carries_of_mem (h : Carried host messages last held) (hmem : message ∈ messages) :
    ∃ held₁ held₂, Carries host held₁ message.inputSequence message held₂ := by
  induction h with
  | nil => cases hmem
  | @snoc messages last held held' m sequence _ _ _ hcarries ih =>
    rcases List.mem_append.mp hmem with hmem | hmem
    · exact ih hmem
    · rw [List.mem_singleton.mp hmem, hcarries.inputSequence_eq]
      exact ⟨held, held', hcarries⟩

end Carried

theorem Agreed.carried {endpoint : SessionEndpoint} {cores : List DaemonCore}
    (h : Agreed host endpoint messages cores last held) : Carried host messages last held := by
  induction h with
  | nil => exact .nil
  | snoc _ hlt hbound hcarries ih => exact .snoc ih hlt hbound hcarries

/-- Diverting and folding pointer moves leaves a stream that a receiver accepts in order. -/
theorem Routes.carried [F64Arith] {stream : List WireMessage} (h : Routes messages stream)
    (hcarried : Carried host messages last held) :
    ∃ last' ≤ last, Carried host stream last' held := by
  induction h generalizing last held with
  | nil => exact ⟨last, le_rfl, hcarried⟩
  | push message _ ih =>
    obtain ⟨last₁, held₁, h₁, hlt, hbound, hcarries⟩ := hcarried.snoc_inv
    obtain ⟨last', hle, h'⟩ := ih h₁
    exact ⟨last, le_rfl, .snoc h' (hle.trans_lt hlt) hbound hcarries⟩
  | divert _ hmove ih =>
    obtain ⟨last₁, held₁, h₁, hlt, hbound, hcarries⟩ := hcarried.snoc_inv
    obtain ⟨last', hle, h'⟩ := ih h₁
    exact ⟨last', hle.trans hlt.le, hcarries.held_of_move hmove ▸ h'⟩
  | fold _ hfold hexact ih =>
    obtain ⟨last₁, held₁, h₁, hlt, hbound, hcarries⟩ := hcarried.snoc_inv
    obtain ⟨last', hle, h'⟩ := ih h₁
    obtain ⟨last₂, held₂, h₂, hlt₂, -, hcarries₂⟩ := h'.snoc_inv
    exact ⟨last, le_rfl, .snoc h₂ (hlt₂.trans_le (hle.trans hlt.le)) hbound
      (hcarries₂.fold hcarries hfold hexact)⟩

/-! ## The system -/

/-- Both ends of a session and the network between them.
    * `routed`: how many messages of its channel the sending session has taken.
    * `overflow`: the message whose lane was full; it ends the sending session.
    * `wire`: the TLS stream in flight.
    * `reliable`: what the receiving path handed out and nobody handled yet.
    * `handed`, `handled`: ghosts, the messages handed to the receiver from the
      TLS stream, and from both transports. -/
structure DualTransport (ι ω : Type) where
  sender : FifoCoordinator ι
  routed : ℕ
  session : PeerSession
  overflow : Option WireMessage
  wire : List WireMessage
  peerSession : PeerSession
  reliable : List WireMessage
  receiver : PeerSessionCoordinator Recorder ω
  failure : Option CoordinatorError
  handed : List WireMessage
  handled : List WireMessage

/-- What can happen: an operation of the sending coordinator, its session
    taking the next message or writing a frame, the timers of both paths, the
    traffic of the other direction, the arrival of any datagram that was sent,
    and the receiver handling the next message of either transport. -/
inductive TransportAction
  | send (op : SenderOp)
  | route (now : ℕ)
  | write
  | probeTick
  | flushTick (now : ℕ)
  | peerArrive (index : ℕ)
  | arrive (index : ℕ)
  | peerProbeTick
  | peerFlushTick (now : ℕ)
  | peerRoute (message : WireMessage) (now : ℕ)
  | handleTls (now : ℕ)
  | handleReliable (now : ℕ)

namespace DualTransport

variable {ι ω : Type}

/-- The system when both coordinators have just been admitted. -/
def start (sender : FifoCoordinator ι)
    (receiver : PeerSessionCoordinator Recorder ω) (session peerSession : PeerSession) :
    DualTransport ι ω :=
  ⟨sender, 0, session, none, [], peerSession, [], receiver, none, [], []⟩

variable [F64Arith] (s : DualTransport ι ω)

/-- The messages that the sending session routed, with pointer moves diverted
    or folded: those handed over, in flight, queued, and the one refused. -/
def stream : List WireMessage :=
  s.handed ++ s.wire ++ s.session.queue.input ++ s.overflow.toList

/-- The sending session takes the next message of its channel. -/
def routeNext (now : ℕ) : DualTransport ι ω :=
  match s.overflow, s.sender.outbound.messages[s.routed]? with
  | none, some message =>
    let (result, session) := s.session.routeOutbound message now
    let overflow := match result with
      | .ok () => none
      | .error _ => some message
    { s with session, overflow, routed := s.routed + 1 }
  | _, _ => s

/-- The sending session writes the next frame to the TLS stream. -/
def writeNext : DualTransport ι ω :=
  match s.overflow, s.session.queue.popNext with
  | none, (some message, queue) =>
    { s with session := { s.session with queue }, wire := s.wire ++ [message] }
  | _, _ => s

/-- A datagram arrives at the receiving session. -/
def receiveDatagram (packet : Datagram) : DualTransport ι ω :=
  let (observation, peerSession) := s.peerSession.onDatagram (.authentic packet)
  { s with
    peerSession
    reliable := s.reliable ++ (observation.map (·.reliableMessages)).getD [] }

section Actions

variable [OutboundPeer ω] (endpoint : SessionEndpoint) (peer : AdmittedSessionBinding)

/-- The receiver handles a message; an error ends its session. -/
def hand (s : DualTransport ι ω) (message : WireMessage) (now : ℕ) : DualTransport ι ω :=
  let (result, receiver) := s.receiver.handleEndpointMessage endpoint peer message now
  let failure := match result with
    | .ok _ => none
    | .error error => some error
  { s with receiver, failure, handled := s.handled ++ [message] }

variable [OutputInjectionBackend ι]

/-- The state after an action; an action that is not possible does nothing. -/
def apply (s : DualTransport ι ω) : TransportAction → DualTransport ι ω
  | .send op => { s with sender := op.apply s.sender }
  | .route now => s.routeNext now
  | .write => s.writeNext
  | .probeTick => { s with session := s.session.onProbeTick }
  | .flushTick now => { s with session := s.session.onFlushTick now }
  | .peerArrive index => match s.peerSession.datagrams[index]? with
    | none => s
    | some packet => { s with session := (s.session.onDatagram (.authentic packet)).2 }
  | .arrive index => match s.session.datagrams[index]? with
    | none => s
    | some packet => s.receiveDatagram packet
  | .peerProbeTick => { s with peerSession := s.peerSession.onProbeTick }
  | .peerFlushTick now => { s with peerSession := s.peerSession.onFlushTick now }
  | .peerRoute message now =>
    { s with peerSession := (s.peerSession.routeOutbound message now).2 }
  | .handleTls now => match s.failure, s.wire with
    | none, message :: rest =>
      { s.hand endpoint peer message now with wire := rest, handed := s.handed ++ [message] }
    | _, _ => s
  | .handleReliable now => match s.failure, s.reliable with
    | none, message :: rest => { s.hand endpoint peer message now with reliable := rest }
    | _, _ => s

end Actions

/-! ## Turns -/

/-- The message is among the inputs that the receiver remembers. -/
def Remembered (c : PeerSessionCoordinator Recorder ω) : WireMessage → Prop
  | .input wire => c.isRecentDuplicate wire = true
  | _ => False

omit [F64Arith] in
/-- A full list forgets its oldest input, which is not among fewer than 128 last ones. -/
theorem rememberInput_suffix {c : PeerSessionCoordinator Recorder ω} {recent : List InputEventV1}
    (h : ∃ session ∈ c.authorized, recent <:+ session.recentInputs)
    (hlt : recent.length < recentInputsCapacity) (wire : InputEventV1) :
    ∃ session ∈ (c.rememberInput wire).authorized, recent ++ [wire] <:+ session.recentInputs := by
  obtain ⟨session, hsession, front, hfront⟩ := h
  refine ⟨_, Option.mem_map.mpr ⟨session, hsession, rfl⟩, ?_⟩
  simp only [← hfront]
  split_ifs with hfull
  · cases front with
    | nil => exact absurd hfull hlt.ne
    | cons first front => exact ⟨front, by simp⟩
  · exact ⟨front, by simp⟩

omit [F64Arith] in
/-- An accepted input stays remembered while the next 127 are accepted. -/
theorem remembered_of_recent {c : PeerSessionCoordinator Recorder ω}
    (hsession : c.authorized.isSome = true) (wire : InputEventV1) {later : List InputEventV1}
    (hlater : later.length < recentInputsCapacity) :
    Remembered (later.foldl (·.rememberInput ·) (c.rememberInput wire)) (.input wire) := by
  suffices hrecent :
      ∃ session ∈ (later.foldl (·.rememberInput ·) (c.rememberInput wire)).authorized,
      wire :: later <:+ session.recentInputs by
    obtain ⟨session, hsession, hsuffix⟩ := hrecent
    simp only [Remembered, PeerSessionCoordinator.isRecentDuplicate, Option.mem_def.mp hsession]
    simpa using hsuffix.subset List.mem_cons_self
  induction later using List.reverseRecOn with
  | nil =>
    obtain ⟨session, hsession⟩ := Option.isSome_iff_exists.mp hsession
    exact rememberInput_suffix ⟨session, hsession, List.nil_suffix⟩ (by decide) wire
  | append_singleton later last ih =>
    rw [List.length_append] at hlater
    rw [List.foldl_append]
    exact rememberInput_suffix (ih (by omega)) (by simpa using hlater) last

/-- It is the message's turn: a first copy comes after everything of the stream with a lower
    sequence number, a second copy while the first one is remembered. -/
def InTurn (message : WireMessage) : Prop :=
  if message ∈ s.handled then Remembered s.receiver message
  else ∀ earlier ∈ s.stream, earlier.inputSequence < message.inputSequence → earlier ∈ s.handled

/-- The condition on an action: captured keys survive the wire, a fold of finite moves
    is finite (as it is in exact arithmetic), and a message is handled in its turn. -/
def Orderly : TransportAction → Prop
  | .send op => op.Survives
  | .route _ => ∀ message ∈ s.sender.outbound.messages[s.routed]?,
    ∀ tail ∈ s.session.queue.input.getLast?, ∀ folded ∈ foldPointerMove tail message,
      tail.exact = true → message.exact = true → folded.exact = true
  | .handleTls _ => ∀ message ∈ s.wire.head?, s.InTurn message
  | .handleReliable _ => ∀ message ∈ s.reliable.head?, s.InTurn message
  | _ => True

/-! ## The invariant -/

/-- The message is a shadow copy of one in the stream. -/
def Shadowed (message : WireMessage) : Prop :=
  message ∈ s.stream ∧ message.isStatefulInput = true

/-- The receiver has applied `applied`, an initial part of the stream that
    covers what the TLS stream has handed over, and has injected it once. -/
structure Received (host : HostId) (endpoint : SessionEndpoint) (peer : AdmittedSessionBinding)
    (s : DualTransport ι ω) (applied : List WireMessage) : Prop where
  failure : s.failure = none
  initial : applied <+: s.stream
  covers : s.handed <+: applied
  handled : ∀ message, message ∈ s.handled ↔ message ∈ applied
  stateful : ∀ message ∈ applied, message ∈ s.handed ∨ message.isStatefulInput = true
  follows : ∀ last held, Carried host applied last held →
    s.receiver.Follows endpoint peer host last held
  injected : s.receiver.injection.injected.map (fun event => (event.sourceDevice, event.payload))
    = applied.flatMap WireMessage.effects

/-- The invariant of the system. -/
structure Progress (host : HostId) (endpoint peerEndpoint : SessionEndpoint)
    (peer : AdmittedSessionBinding) (s : DualTransport ι ω) : Prop where
  sending : s.sender.Sending host endpoint (s.sender.outbound.messages.take s.routed)
  routed : s.routed ≤ s.sender.outbound.messages.length
  routes : Routes (s.sender.outbound.messages.take s.routed) s.stream
  control : s.session.queue.control = []
  background : s.session.queue.background = []
  copies : s.session.Copies s.Shadowed fun _ => True
  peerCopies : s.peerSession.Copies (fun _ => True) s.Shadowed
  reliable : ∀ message ∈ s.reliable, s.Shadowed message
  received : ∃ applied, Received host peerEndpoint peer s applied

variable {endpoint peerEndpoint : SessionEndpoint} {peer : AdmittedSessionBinding}
  {s s' : DualTransport ι ω} {applied : List WireMessage}

section

variable (h : s.Progress host endpoint peerEndpoint peer)

include h

/-- The stream of a system in progress is carried. -/
theorem Progress.carried : ∃ last held, Carried host s.stream last held := by
  obtain ⟨last, held, hagreed, -⟩ := h.sending
  obtain ⟨last', held', htake⟩ := hagreed.take h.routed
  obtain ⟨last'', -, hcarried⟩ := h.routes.carried htake.carried
  exact ⟨last'', held', hcarried⟩

/-- A step that leaves the stream as it is. -/
theorem Progress.sameStream (hstream : s'.stream = s.stream) (hsender : s'.sender = s.sender)
    (hrouted : s'.routed = s.routed) (hcontrol : s'.session.queue.control = [])
    (hbackground : s'.session.queue.background = [])
    (hcopies : s'.session.Copies s.Shadowed fun _ => True)
    (hpeer : s'.peerSession.Copies (fun _ => True) s.Shadowed)
    (hreliable : ∀ message ∈ s'.reliable, s.Shadowed message)
    (hreceived : ∃ applied, Received host peerEndpoint peer s' applied) :
    s'.Progress host endpoint peerEndpoint peer := by
  have hshadowed : s'.Shadowed = s.Shadowed := by
    unfold Shadowed
    rw [hstream]
  exact ⟨by rw [hsender, hrouted]; exact h.sending, by rw [hsender, hrouted]; exact h.routed,
    by rw [hsender, hrouted, hstream]; exact h.routes, hcontrol, hbackground, hshadowed ▸ hcopies,
    hshadowed ▸ hpeer, hshadowed ▸ hreliable, hreceived⟩

/-- A step of the sessions' paths: neither the stream nor the receiver changes. -/
theorem Progress.paths {session peerSession : PeerSession} {reliable : List WireMessage}
    (hqueue : session.queue = s.session.queue) (hcopies : session.Copies s.Shadowed fun _ => True)
    (hpeer : peerSession.Copies (fun _ => True) s.Shadowed)
    (hreliable : ∀ message ∈ reliable, s.Shadowed message) :
    Progress host endpoint peerEndpoint peer { s with session, peerSession, reliable } := by
  have hstream : stream { s with session, peerSession, reliable } = s.stream := by
    unfold stream
    rw [hqueue]
  obtain ⟨applied, hreceived⟩ := h.received
  exact h.sameStream hstream rfl rfl (hqueue ▸ h.control) (hqueue ▸ h.background) hcopies hpeer
    hreliable ⟨applied, { hreceived with initial := hstream ▸ hreceived.initial }⟩

theorem Progress.send [OutputInjectionBackend ι] {op : SenderOp} (hop : op.Survives) :
    Progress host endpoint peerEndpoint peer { s with sender := op.apply s.sender } := by
  have hsending := SenderOp.apply_sending h.sending op hop
  obtain ⟨last, held, hagreed, hlast, hlog, hopen⟩ := hsending
  have hlength : (s.sender.outbound.messages.take s.routed).length = s.routed := by
    rw [List.length_take, Nat.min_eq_left h.routed]
  have htake : (op.apply s.sender).outbound.messages.take s.routed
      = s.sender.outbound.messages.take s.routed := by
    have := List.prefix_iff_eq_take.mp hlog
    rw [hlength] at this
    exact this.symm
  have hrouted : s.routed ≤ (op.apply s.sender).outbound.messages.length := by
    rw [← hlength]
    exact hlog.length_le
  obtain ⟨applied, hreceived⟩ := h.received
  exact { h with
    sending := ⟨last, held, hagreed, hlast, List.take_prefix _ _, hopen⟩
    routed := hrouted
    routes := htake ▸ h.routes
    received := ⟨applied, { hreceived with }⟩ }

theorem Progress.writeNext : s.writeNext.Progress host endpoint peerEndpoint peer := by
  unfold DualTransport.writeNext
  cases hinput : s.session.queue.input with
  | nil =>
    have hpop : s.session.queue.popNext.1 = none := by
      simp [OutboundQueue.popNext, h.control, hinput, h.background]
    split
    · rename_i heq
      rw [heq] at hpop
      cases hpop
    · exact h
  | cons message rest =>
    rw [OutboundQueue.popNext_input h.control hinput]
    split
    · rename_i message' queue hoverflow heq
      cases heq
      have hstream : stream { s with
          session := { s.session with queue := { s.session.queue with
            input := rest, consecutiveInput := saturatingAdd s.session.queue.consecutiveInput 1 } }
          wire := s.wire ++ [message] } = s.stream := by
        simp [stream, hinput]
      obtain ⟨applied, hreceived⟩ := h.received
      exact h.sameStream hstream rfl rfl h.control h.background ⟨h.copies.path, h.copies.departed⟩
        h.peerCopies h.reliable ⟨applied, { hreceived with initial := hstream ▸ hreceived.initial }⟩
    · exact h

end

omit [F64Arith] in
/-- A pointer move at the end of the stream that was not handed over has not been applied. -/
theorem Received.initial_front (h : Received host endpoint peer s applied)
    {front : List WireMessage} {tail : WireMessage} (hstream : s.stream = front ++ [tail])
    (hmove : tail.isPointerMove = true) (hhanded : tail ∉ s.handed) : applied <+: front := by
  have hinitial := h.initial
  rw [hstream, List.prefix_concat_iff] at hinitial
  rcases hinitial with heq | hfront
  · exfalso
    have hmem : tail ∈ applied := by simp [heq]
    rcases h.stateful tail hmem with hmem' | hstateful
    · exact hhanded hmem'
    · rw [WireMessage.isStatefulInput_not_move hstateful] at hmove
      cases hmove
  · exact hfront

section

variable (h : s.Progress host endpoint peerEndpoint peer)

include h

/-- The session takes one message: what remains is to say how the stream changes. -/
theorem Progress.take (hget : s.sender.outbound.messages[s.routed]? = some message) {now : ℕ}
    {overflow : Option WireMessage} (hs' : s' = { s with
      session := (s.session.routeOutbound message now).2, overflow, routed := s.routed + 1 })
    (hroutes : Routes (s.sender.outbound.messages.take s.routed ++ [message]) s'.stream)
    (hinitial : ∀ applied, Received host peerEndpoint peer s applied → applied <+: s'.stream)
    (hkeep : ∀ other, s.Shadowed other → s'.Shadowed other)
    (hnew : message.isStatefulInput = true → message ∈ s'.stream)
    (hcontrol : s'.session.queue.control = []) (hbackground : s'.session.queue.background = []) :
    s'.Progress host endpoint peerEndpoint peer := by
  have htake : s.sender.outbound.messages.take (s.routed + 1)
      = s.sender.outbound.messages.take s.routed ++ [message] := by
    rw [List.take_add_one, hget]
    rfl
  obtain ⟨hlt, -⟩ := List.getElem?_eq_some_iff.mp hget
  obtain ⟨applied, hreceived⟩ := h.received
  have hrouted := s.session.routeOutbound_silent (P := s'.Shadowed) (Q := fun _ => True) message
    (fun hstateful => ⟨hnew hstateful, hstateful⟩) now
  have hcopies := hrouted.copies (h.copies.mono hkeep fun _ => id)
  have hafter : Received host peerEndpoint peer s' applied := by
    subst hs'
    exact { hreceived with initial := hinitial applied hreceived }
  subst hs'
  exact ⟨h.sending.continuing (List.take_prefix _ _), hlt, htake ▸ hroutes, hcontrol, hbackground,
    hcopies, h.peerCopies.mono (fun _ => id) hkeep,
    fun other hmem => hkeep other (h.reliable other hmem), applied, hafter⟩

/-- The messages of the channel are of the input class. -/
theorem Progress.class_input (hmem : message ∈ s.sender.outbound.messages) :
    TrafficClass.forMessage message = .input := by
  obtain ⟨last, held, hagreed, -⟩ := h.sending
  obtain ⟨held₁, held₂, hcarries⟩ := hagreed.carried.carries_of_mem hmem
  cases hcarries <;> rfl

theorem Progress.routeNext {now : ℕ} (horderly : s.Orderly (.route now)) :
    (s.routeNext now).Progress host endpoint peerEndpoint peer := by
  unfold DualTransport.routeNext
  split
  · rename_i message hoverflow hget
    have hpushes := s.session.routeOutbound_pushes
      (h.class_input (List.mem_of_getElem? hget)) now
    have hstream : s.stream = s.handed ++ s.wire ++ s.session.queue.input := by
      simp [stream, hoverflow]
    have hroutes := h.routes
    simp only
    generalize hresult : (s.session.routeOutbound message now).1 = result at hpushes ⊢
    generalize hqueue : (s.session.routeOutbound message now).2.queue = queue at hpushes
    -- the stream afterwards, whatever the push did
    generalize hs' : DualTransport.mk _ _ _ _ _ _ _ _ _ _ _ = s'
    have hstream' (overflow : Option WireMessage) (hoverflow' : s'.overflow = overflow) :
        s'.stream = s.handed ++ s.wire ++ queue.input ++ overflow.toList := by
      rw [stream, hoverflow', ← hqueue, ← hs']
    have hsession : s'.session.queue = queue := by rw [← hqueue, ← hs']
    have hmoved (hmove : message.isPointerMove = true) :
        ¬ message.isStatefulInput = true := fun hstateful => by
      rw [WireMessage.isStatefulInput_not_move hstateful] at hmove
      cases hmove
    have hcontrol : s'.session.queue.control = [] := by
      rw [hsession]
      cases hpushes <;> exact h.control
    have hbackground : s'.session.queue.background = [] := by
      rw [hsession]
      cases hpushes <;> exact h.background
    have hpush (hstream'' : s'.stream = s.stream ++ [message]) :
        s'.Progress host endpoint peerEndpoint peer := by
      refine h.take hget hs'.symm ?_ (fun applied hreceived => ?_) (fun other hother => ?_) ?_
        hcontrol hbackground
      · rw [hstream'']
        exact .push message hroutes
      · rw [hstream'']
        exact hreceived.initial.trans (List.prefix_append _ _)
      · exact ⟨hstream'' ▸ List.mem_append_left _ hother.1, hother.2⟩
      · simp [hstream'']
    cases hpushes with
    | pushed =>
      refine hpush ?_
      rw [hstream' none (by rw [← hs'])]
      simp [hstream]
    | full error =>
      refine hpush ?_
      rw [hstream' (some message) (by rw [← hs'])]
      simp [hstream]
    | diverted hmove =>
      have hstream'' : s'.stream = s.stream := by
        rw [hstream' none (by rw [← hs'])]
        simp [hstream]
      refine h.take hget hs'.symm ?_ (fun applied hreceived => ?_) (fun other hother => ?_)
        (fun hstateful => absurd hstateful (hmoved hmove)) hcontrol hbackground
      · rw [hstream'']
        exact .divert hroutes hmove
      · rw [hstream'']
        exact hreceived.initial
      · exact ⟨hstream'' ▸ hother.1, hother.2⟩
    | @folded front tail folded hinput hfold =>
      obtain ⟨htail, hmove⟩ := foldPointerMove_isPointerMove hfold
      have hstream₀ : s.stream = s.handed ++ s.wire ++ front ++ [tail] := by
        rw [hstream, hinput]
        simp
      have hstream'' : s'.stream = s.handed ++ s.wire ++ front ++ [folded] := by
        rw [hstream' none (by rw [← hs'])]
        simp
      obtain ⟨last, held, hcarried⟩ := h.carried
      have hhanded : tail ∉ s.handed := by
        have hnodup := hcarried.nodup
        rw [hstream₀, List.append_assoc, List.append_assoc] at hnodup
        exact fun hmem => List.disjoint_of_nodup_append hnodup hmem (by simp)
      refine h.take hget hs'.symm ?_ (fun applied hreceived => ?_) (fun other hother => ?_)
        (fun hstateful => absurd hstateful (hmoved hmove)) hcontrol hbackground
      · rw [hstream'']
        exact .fold (hstream₀ ▸ hroutes) hfold
          (horderly message hget tail (by simp [hinput]) folded hfold)
      · rw [hstream'']
        exact (hreceived.initial_front hstream₀ htail hhanded).trans (List.prefix_append _ _)
      · -- a stateful input is not the folded move
        obtain ⟨hmem, hstateful⟩ := hother
        rw [hstream₀] at hmem
        refine ⟨hstream'' ▸ List.mem_append_left _ ?_, hstateful⟩
        rcases List.mem_append.mp hmem with hmem | hmem
        · exact hmem
        · rw [List.mem_singleton.mp hmem] at hstateful
          rw [WireMessage.isStatefulInput_not_move hstateful] at htail
          cases htail
  · exact h

theorem Progress.receiveDatagram {packet : Datagram} (hpacket : packet ∈ s.session.datagrams) :
    (s.receiveDatagram packet).Progress host endpoint peerEndpoint peer := by
  have harrival (packet' : Datagram) (heq : Arrival.authentic packet = .authentic packet') :
      packet'.payload.Shadows s.Shadowed :=
    Arrival.authentic.inj heq ▸ h.copies.datagrams packet hpacket
  obtain ⟨hhands, hpath⟩ := PeerSession.onDatagram_path h.peerCopies.path _ harrival
  have hcopies := hpath.copies (fun _ _ => (·.copies)) h.peerCopies
  unfold DualTransport.receiveDatagram
  generalize s.peerSession.onDatagram (.authentic packet) = r at hhands hcopies ⊢
  obtain ⟨observation, peerSession⟩ := r
  refine h.paths rfl h.copies hcopies fun message hmem => ?_
  rcases List.mem_append.mp hmem with hmem | hmem
  · exact h.reliable message hmem
  · cases observation with
    | none => cases hmem
    | some observation => exact hhands observation rfl message hmem

end

/-! ## Handling in turn -/

section

variable (h : Received host endpoint peer s applied)

include h

omit [F64Arith] in
/-- A first copy that is handled in its turn is the next message of the stream. -/
theorem Received.next (hcarried : Carried host s.stream last held) (hmem : message ∈ s.stream)
    (hturn : s.InTurn message) (hnew : message ∉ s.handled) :
    applied ++ [message] <+: s.stream := by
  rw [InTurn, if_neg hnew] at hturn
  have hnotApplied : message ∉ applied := fun hmem' => hnew ((h.handled message).mpr hmem')
  obtain ⟨rest, hrest⟩ := h.initial
  obtain ⟨hincreasing, -⟩ := hcarried.increasing
  have hnodup := hcarried.nodup
  cases rest with
  | nil =>
    rw [List.append_nil] at hrest
    exact absurd (hrest ▸ hmem) hnotApplied
  | cons first rest =>
    suffices hfirst : message = first by
      rw [hfirst]
      exact ⟨rest, by rw [← hrest, List.append_assoc]; rfl⟩
    rw [← hrest] at hmem hincreasing hnodup
    by_contra hne
    have hlater : message ∈ rest := by
      rcases List.mem_append.mp hmem with hmem | hmem
      · exact absurd hmem hnotApplied
      · exact (List.mem_cons.mp hmem).resolve_left hne
    rw [List.map_append, List.map_cons, List.pairwise_append, List.pairwise_cons] at hincreasing
    have hlt := hincreasing.2.1.1 _ (List.mem_map_of_mem hlater)
    have hfirst : first ∈ s.stream := by simp [← hrest]
    have := (h.handled first).mp (hturn first hfirst hlt)
    exact List.disjoint_of_nodup_append hnodup this List.mem_cons_self

variable [OutboundPeer ω]

omit [F64Arith] in
/-- The next message of the stream is applied and injected. -/
theorem Received.hand_next (hcarried : Carried host (applied ++ [message]) last held) (now : ℕ) :
    (s.hand endpoint peer message now).failure = none
      ∧ (s.hand endpoint peer message now).receiver.Follows endpoint peer host last held
      ∧ (s.hand endpoint peer message now).receiver.injection.injected.map
          (fun event => (event.sourceDevice, event.payload))
        = (applied ++ [message]).flatMap WireMessage.effects := by
  obtain ⟨last₁, held₁, happlied, hlt, hbound, hcarries⟩ := hcarried.snoc_inv
  obtain ⟨c', event, hhandle, heffects, hinjection, hfollows, -⟩ :=
    PeerSessionCoordinator.handleEndpointMessage_carried (fun _ _ => rfl)
      (h.follows last₁ held₁ happlied) hlt hbound hcarries now
  unfold DualTransport.hand
  rw [hhandle]
  refine ⟨rfl, hfollows, ?_⟩
  rw [hinjection, List.flatMap_append, List.flatMap_singleton, heffects, ← h.injected]
  simp only [PeerSessionCoordinator.injected, OutputInjectionBackend.inject, List.map_append,
    List.map_singleton]

omit [F64Arith] in
/-- A message handled in its turn. `t` is the state after it, in which the
    message has left its transport. -/
theorem Received.hand (hcarried : Carried host s.stream last held) (hmem : message ∈ s.stream)
    (hturn : s.InTurn message) {now : ℕ} {t : DualTransport ι ω}
    (hfailure : t.failure = (s.hand endpoint peer message now).failure)
    (hreceiver : t.receiver = (s.hand endpoint peer message now).receiver)
    (hhandled : t.handled = s.handled ++ [message]) (hstream : t.stream = s.stream)
    (hcovers : ∀ applied', message ∈ applied' → s.handed <+: applied' → applied' <+: s.stream →
      t.handed <+: applied')
    (hhanded : ∀ other ∈ s.handed, other ∈ t.handed)
    (horigin : message ∈ t.handed ∨ message.isStatefulInput = true) :
    ∃ applied', Received host endpoint peer t applied' := by
  by_cases hold : message ∈ s.handled
  · -- a second copy that is handled in its turn is ignored
    obtain ⟨hok, hsame⟩ : (s.hand endpoint peer message now).failure = none
        ∧ (s.hand endpoint peer message now).receiver = s.receiver := by
      rw [InTurn, if_pos hold] at hturn
      obtain ⟨rest, hrest⟩ := h.initial
      obtain ⟨last', held', happlied⟩ := (hrest ▸ hcarried).of_append
      obtain ⟨held₁, held₂, hcarries⟩ := hcarried.carries_of_mem hmem
      unfold DualTransport.hand
      cases message with
      | input wire =>
        obtain ⟨hsession, -⟩ := h.follows last' held' happlied
        have hrecent : s.receiver.isRecentDuplicate wire = true := hturn
        cases hcarries with
        | input hsequence hhost hevent hadmits =>
          rw [hsession.handleEndpointMessage_input hevent, PeerSessionCoordinator.handleInput,
            if_neg (by rw [hhost, hsession.expected]; exact not_not.mpr rfl), if_pos hrecent]
          exact ⟨rfl, rfl⟩
      | _ => exact hturn.elim
    have hmem' := (h.handled message).mp hold
    refine ⟨applied, hfailure.trans hok, hstream ▸ h.initial,
      hcovers applied hmem' h.covers h.initial,
      fun other => ?_, fun other hother => (h.stateful other hother).imp_left (hhanded other),
      ?_, ?_⟩
    · rw [hhandled, List.mem_append, List.mem_singleton, h.handled]
      exact or_iff_left_of_imp fun heq => heq ▸ hmem'
    · rw [hreceiver, hsame]
      exact h.follows
    · rw [hreceiver, hsame]
      exact h.injected
  · have hinitial := h.next hcarried hmem hturn hold
    obtain ⟨rest, hrest⟩ := hinitial
    obtain ⟨last', held', hnext⟩ := (hrest ▸ hcarried).of_append
    obtain ⟨hok, -, hinjected⟩ := h.hand_next hnext now
    refine ⟨applied ++ [message], hfailure.trans hok, hstream ▸ ⟨rest, hrest⟩,
      hcovers _ (by simp) (h.covers.trans (List.prefix_append _ _)) ⟨rest, hrest⟩,
      fun other => ?_, fun other hother => ?_, fun last held hcarried' => ?_, ?_⟩
    · rw [hhandled, List.mem_append, List.mem_append, h.handled]
    · rcases List.mem_append.mp hother with hother | hother
      · exact (h.stateful other hother).imp_left (hhanded other)
      · exact List.mem_singleton.mp hother ▸ horigin
    · rw [hreceiver]
      exact (h.hand_next hcarried' now).2.1
    · rw [hreceiver]
      exact hinjected

end

variable [OutboundPeer ω] (h : s.Progress host endpoint peerEndpoint peer)

include h

theorem Progress.handleTls {rest : List WireMessage} (hwire : s.wire = message :: rest)
    (hturn : s.InTurn message) (now : ℕ) :
    Progress host endpoint peerEndpoint peer { s.hand peerEndpoint peer message now with
      wire := rest, handed := s.handed ++ [message] } := by
  obtain ⟨applied, hreceived⟩ := h.received
  obtain ⟨last, held, hcarried⟩ := h.carried
  have hsplit : s.stream = s.handed ++ [message] ++ (rest ++ s.session.queue.input
      ++ s.overflow.toList) := by
    simp [stream, hwire]
  have hmem : message ∈ s.stream := by simp [hsplit]
  have hstream : stream { s.hand peerEndpoint peer message now with
      wire := rest, handed := s.handed ++ [message] } = s.stream := by
    rw [hsplit]
    simp [stream, DualTransport.hand]
  have hfresh : message ∉ s.handed := by
    have hnodup := hcarried.nodup
    rw [hsplit, List.append_assoc] at hnodup
    exact fun hmem' => List.disjoint_of_nodup_append hnodup hmem' (by simp)
  -- two initial parts of one stream: the longer one covers the shorter one
  have hcovers (applied' : List WireMessage) (hmem' : message ∈ applied')
      (_ : s.handed <+: applied') (hinitial : applied' <+: s.stream) :
      s.handed ++ [message] <+: applied' := by
    rcases List.prefix_or_prefix_of_prefix (hsplit ▸ List.prefix_append _ _) hinitial with
      hle | hle
    · exact hle
    · rcases List.prefix_concat_iff.mp hle with heq | hle
      · rw [heq]
      · exact absurd (hle.subset hmem') hfresh
  exact h.sameStream hstream rfl rfl h.control h.background h.copies h.peerCopies h.reliable
    (hreceived.hand hcarried hmem hturn rfl rfl rfl hstream hcovers
      (fun other hother => List.mem_append_left _ hother) (.inl (by simp)))

theorem Progress.handleReliable {rest : List WireMessage} (hreliable : s.reliable = message :: rest)
    (hturn : s.InTurn message) (now : ℕ) :
    Progress host endpoint peerEndpoint peer { s.hand peerEndpoint peer message now with
      reliable := rest } := by
  obtain ⟨applied, hreceived⟩ := h.received
  obtain ⟨last, held, hcarried⟩ := h.carried
  obtain ⟨hmem, hstateful⟩ := h.reliable message (by simp [hreliable])
  exact { h with
    reliable := fun other hother => h.reliable other (by simp [hreliable, hother])
    received := hreceived.hand hcarried hmem hturn rfl rfl rfl rfl (fun _ _ hcovers _ => hcovers)
      (fun _ => id) (.inr hstateful) }

variable [OutputInjectionBackend ι]

/-- Every orderly action keeps the system in progress. -/
theorem Progress.apply (action : TransportAction) (horderly : s.Orderly action) :
    (s.apply peerEndpoint peer action).Progress host endpoint peerEndpoint peer := by
  have hpacket {session : PeerSession} {index : ℕ} {packet : Datagram}
      (hget : session.datagrams[index]? = some packet) : packet ∈ session.datagrams :=
    List.mem_of_getElem? hget
  cases action with
  | send op => exact h.send horderly
  | route now => exact h.routeNext horderly
  | write => exact h.writeNext
  | probeTick =>
    exact h.paths (s.session.onProbeTick_queue) (s.session.onProbeTick_silent.copies h.copies)
      h.peerCopies h.reliable
  | flushTick now =>
    exact h.paths (s.session.onFlushTick_queue now)
      ((PeerSession.onFlushTick_silent h.copies.path now).copies h.copies) h.peerCopies h.reliable
  | peerArrive index =>
    rw [DualTransport.apply]
    split
    · exact h
    · rename_i packet _
      have hpath := (PeerSession.onDatagram_path h.copies.path (.authentic packet)
        fun packet _ => packet.payload.shadows_true).2
      exact h.paths (s.session.onDatagram_queue _)
        (hpath.copies (fun _ _ => (·.copies)) h.copies) h.peerCopies h.reliable
  | arrive index =>
    rw [DualTransport.apply]
    split
    · exact h
    · rename_i packet hget
      exact h.receiveDatagram (hpacket hget)
  | peerProbeTick =>
    exact h.paths rfl h.copies (s.peerSession.onProbeTick_silent.copies h.peerCopies) h.reliable
  | peerFlushTick now =>
    exact h.paths rfl h.copies
      ((PeerSession.onFlushTick_silent h.peerCopies.path now).copies h.peerCopies) h.reliable
  | peerRoute message now =>
    have hrouted := s.peerSession.routeOutbound_silent (P := fun _ => True) (Q := s.Shadowed)
      message (fun _ => trivial) now
    exact h.paths rfl h.copies (hrouted.copies h.peerCopies) h.reliable
  | handleTls now =>
    rw [DualTransport.apply]
    split
    · rename_i message rest _ hwire
      exact h.handleTls hwire (horderly message (by simp [hwire])) now
    · exact h
  | handleReliable now =>
    rw [DualTransport.apply]
    split
    · rename_i message rest _ hreliable
      exact h.handleReliable hreliable (horderly message (by simp [hreliable])) now
    · exact h

omit h

/-! ## Whole runs -/

/-- For every run of a sending coordinator, of its session and the receiving one, and of the
    network, in which captured keys survive the wire and every message is handled in its turn: the
    receiver refuses nothing; what was routed has increasing sequence numbers; and the receiver has
    injected an initial part of it, once each and in that order, which covers everything that the
    TLS stream has handed over. -/
theorem exactlyOnce {config : Config} {workspace : WorkspaceState} {core receiverCore : DaemonCore}
    {expected expected' : PeerIdentity} {injection : ι} {outbound : ω}
    {refuses : ℕ → Option OutboundPeerError} {sender₀ sender : FifoCoordinator ι}
    {receiver₀ receiver : PeerSessionCoordinator Recorder ω}
    {binding binding' : AdmittedSessionBinding}
    {nowNs nowNs' : ℕ} {outcome outcome' : PeerEventOutcome}
    (hcore : DaemonCore.new config workspace = .ok core)
    (hnew : PeerSessionCoordinator.new core expected injection ⟨[], refuses, 0⟩ = .ok sender₀)
    (hactivate : sender₀.activateAdmittedEndpoint endpoint binding nowNs = (.ok outcome, sender))
    (hnew' : PeerSessionCoordinator.new receiverCore expected' (⟨[]⟩ : Recorder) outbound
      = .ok receiver₀)
    (hactivate' : receiver₀.activateAdmittedEndpoint peerEndpoint binding' nowNs'
      = (.ok outcome', receiver))
    (hpaired : expected'.hostId = workspace.localHost) (queue queue' : QueueConfig)
    (answers answers' : Option (ℕ → SendAnswer)) (localHost remoteHost : HostId)
    {actions : List TransportAction}
    (horderly : Admissible Orderly (apply peerEndpoint binding') (start sender receiver
      (.start queue answers localHost remoteHost) (.start queue' answers' remoteHost localHost))
      actions) {s : DualTransport ι ω}
    (hs : s = execute (apply peerEndpoint binding') (start sender receiver
      (.start queue answers localHost remoteHost) (.start queue' answers' remoteHost localHost))
      actions) :
    s.failure = none
      ∧ Routes (s.sender.outbound.messages.take s.routed) s.stream
      ∧ (s.stream.map WireMessage.inputSequence).Pairwise (· < ·)
      ∧ ∃ applied, s.handed <+: applied ∧ applied <+: s.stream
        ∧ s.receiver.injection.injected.map (fun event => (event.sourceDevice, event.payload))
          = applied.flatMap WireMessage.effects := by
  have hsending := PeerSessionCoordinator.sending_start hcore hnew hactivate
  have hreceiving := PeerSessionCoordinator.follows_start hnew' hactivate'
  rw [hpaired] at hreceiving
  have hinjected : receiver.injection.injected = [] := by
    rw [PeerSessionCoordinator.activateAdmittedEndpoint_ok hactivate',
      PeerSessionCoordinator.new_ok hnew']
  have hprogress : Progress workspace.localHost endpoint peerEndpoint binding' s := by
    rw [hs]
    refine horderly.invariant (fun _ action henabled hp => hp.apply action henabled) ?_
    refine ⟨hsending, Nat.zero_le _, .nil, rfl, rfl, PeerSession.copies_start _ _ _ _,
      PeerSession.copies_start _ _ _ _, fun _ hmem => (List.not_mem_nil hmem).elim, [], rfl,
      List.nil_prefix, List.prefix_refl _, fun _ => Iff.rfl,
      fun _ hmem => (List.not_mem_nil hmem).elim, fun last held hcarried => ?_, ?_⟩
    · obtain ⟨rfl, rfl⟩ := hcarried.nil_inv
      exact hreceiving
    · rw [start, hinjected]
      rfl
  obtain ⟨last, held, hcarried⟩ := hprogress.carried
  obtain ⟨applied, hreceived⟩ := hprogress.received
  exact ⟨hreceived.failure, hprogress.routes, hcarried.increasing.1, applied, hreceived.covers,
    hreceived.initial, hreceived.injected⟩

instance (c : PeerSessionCoordinator Recorder ω) (message : WireMessage) :
    Decidable (Remembered c message) :=
  match message with
  | .input wire => inferInstanceAs (Decidable (c.isRecentDuplicate wire = true))
  | .hello _ | .authenticate _ | .deviceSnapshot _ | .deviceAdded _ | .deviceRemoved _
  | .displaySnapshot _ | .displayUpdated _ | .pointerEnter _ | .pointerLeave _
  | .pointerTransitionAck _ | .pointerTransitionCommit _ | .clipboard _ | .ping _ | .pong _
  | .releaseInput _ | .releaseInputV2 _ | .releaseAppliedAckV2 _ => .isFalse id

instance (s : DualTransport ι ω) (message : WireMessage) : Decidable (s.InTurn message) :=
  inferInstanceAs (Decidable (if message ∈ s.handled then Remembered s.receiver message
    else ∀ earlier ∈ s.stream, earlier.inputSequence < message.inputSequence →
      earlier ∈ s.handled))

end DualTransport

/-! ### A shadow copy that overtakes the TLS stream -/

namespace Sample

/-- Sockets that accept every datagram. -/
def dualTransport : DualTransport Recorder Fifo :=
  .start openSender receiver (.start .default (some fun _ => .written) localHost remoteHost)
    (.start .default (some fun _ => .written) remoteHost localHost)

/-- The remote host gets the pointer. -/
def handOver : List TransportAction :=
  [.send (.markWorkspaceRoutingReady 0),
   .send (.finishPointerHandoff { workspace with activeHost := remoteHost } 0)]

/-- The datagram path of the sender gets ready. -/
def becomeReady : List TransportAction := [.peerProbeTick, .peerArrive 0]

/-- The key is pressed before the datagram path is ready and released after it;
    the shadow copy of the release arrives first. -/
def overtaking : List TransportAction :=
  handOver ++ [.send (.routeCaptured (key .keyA .pressed) 0), .route 0] ++ becomeReady
    ++ [.send (.routeCaptured (key .keyA .released) 0), .route 0, .arrive 0, .handleReliable 0,
      .write, .handleTls 0]

/-- The key is pressed when the path is ready; the shadow copy arrives first,
    the TLS copy is a duplicate. -/
def shadowFirst : List TransportAction :=
  handOver ++ becomeReady
    ++ [.send (.routeCaptured (key .keyA .pressed) 0), .route 0, .arrive 0, .handleReliable 0,
      .write, .handleTls 0]

open Binary64 in
def run (actions : List TransportAction) : DualTransport Recorder Fifo :=
  execute (DualTransport.apply peerEndpoint (binding remoteHost localHost)) dualTransport actions

end Sample

open Sample Binary64

/-- The release is injected, the press is refused as stale. -/
theorem dualTransport_staleSequence :
    (run overtaking).failure = some (.staleSequence 2 1)
      ∧ (run overtaking).receiver.injection.injected.map InputEvent.payload
        = [.key (.named .keyA) .released] := by
  decide +kernel

theorem shadowFirst_orderly : Admissible DualTransport.Orderly
    (DualTransport.apply peerEndpoint (binding remoteHost localHost))
    dualTransport shadowFirst := by
  have hsurvives : (key .keyA .pressed).event.payload.Survives :=
    keyCodeFromWire_named .keyA
  refine ⟨trivial, trivial, trivial, trivial, hsurvives, ?_, trivial, ?_, trivial, ?_, trivial⟩
  · rintro message - tail htail
    cases htail
  · show ∀ message ∈ (DualTransport.reliable _).head?, DualTransport.InTurn _ message
    decide +kernel
  · show ∀ message ∈ (DualTransport.wire _).head?, DualTransport.InTurn _ message
    decide +kernel

theorem exactlyOnce_shadowFirst :
    (run shadowFirst).handled.length = 2
      ∧ (run shadowFirst).failure = none
      ∧ ∃ applied, (run shadowFirst).handed <+: applied
        ∧ applied <+: (run shadowFirst).stream
        ∧ (run shadowFirst).receiver.injection.injected.map
            (fun event => (event.sourceDevice, event.payload))
          = applied.flatMap WireMessage.effects := by
  have h := DualTransport.exactlyOnce
    (rfl : DaemonCore.new config workspace = .ok core) openAdmitted_eq
    openSender_eq peerAdmitted_eq receiver_eq rfl .default .default
    (some fun _ => .written) (some fun _ => .written) localHost remoteHost
    shadowFirst_orderly rfl
  exact ⟨by decide +kernel, h.1, h.2.2.2⟩

end SoftwareKvm
