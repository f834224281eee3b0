import SoftwareKvm.Network.Totals

/-!
# The session loop and its two transports

Model of the outbound routing and of the datagram arms of
`run_session_with_stats` (`kvm-network/src/peer.rs`). A path that fails is
dropped for the rest of the session; what it sent stays in the network.

Results:
* `Routes`: what `route_outbound` makes of a sequence of messages on the TLS
  stream.
* `routeOutbound_pushes`: what one call does with the queue.
* `routeOutbound_silent`: the shadow copies that it sends.
-/

namespace SoftwareKvm

structure QueueFull where
  trafficClass : TrafficClass
  capacity : ℕ
  deriving DecidableEq

/-- The state of `run_session_with_stats` that routing reads. `departed` is a
    ghost: the datagrams of a path that has been dropped. -/
structure PeerSession where
  queue : OutboundQueue
  pointerPath : Option PointerDatagramPath
  departed : List Datagram := []

namespace PeerSession

/-- The session at the start of its loop. The bind of the datagram socket may
    have failed; otherwise the socket answers sends in any way. -/
def start (config : QueueConfig) (answers : Option (ℕ → SendAnswer))
    (localHost remoteHost : HostId) : PeerSession where
  queue := .newValidated config
  pointerPath := answers.map fun answers => .bind ⟨[], answers, 0⟩ localHost remoteHost

variable [F64Arith] (s : PeerSession)

/-- The datagrams that this side has sent. -/
def datagrams : List Datagram :=
  match s.pointerPath with
  | some path => path.socket.packets
  | none => s.departed

/-- `pointer_path = None`. -/
def dropPath (path : PointerDatagramPath) : PeerSession :=
  { s with pointerPath := none, departed := path.socket.packets }

def setPath (path : PointerDatagramPath) : PeerSession :=
  { s with pointerPath := some path }

def enqueue (message : WireMessage) : Except QueueFull Unit × PeerSession :=
  let (result, queue) := s.queue.tryPush message
  (result.mapError fun error => ⟨error.trafficClass, error.capacity⟩, { s with queue })

/-- `route_outbound` (lines 2364–2397). -/
def routeOutbound (message : WireMessage) (now : ℕ) : Except QueueFull Unit × PeerSession :=
  match s.pointerPath with
  | none => s.enqueue message
  | some path =>
    let path := (path.shadowReliable message now).2
    match path.trySendPointer message now with
    | (.ok true, path) => (.ok (), s.setPath path.takeRecentlySent.2)
    | (.ok false, path) => (s.setPath path).enqueue message
    | (.error error, path) =>
      if error.kind = .wouldBlock then (s.setPath path).enqueue message
      else (s.dropPath path).enqueue message

/-- The datagram arm of the loop, with the observation that it goes on with. -/
def onDatagram (arrival : Arrival) : Option DatagramReceive × PeerSession :=
  match s.pointerPath with
  | none => (none, s)
  | some path =>
    match path.receive arrival with
    | (.ok observation, path) => (some observation, s.setPath path)
    | (.error _, path) => (none, s.dropPath path)

/-- The arm of `pointer_probe_tick`. -/
def onProbeTick : PeerSession :=
  match s.pointerPath with
  | none => s
  | some path =>
    match path.sendProbe with
    | (.ok (), path) => s.setPath path
    | (.error _, path) => s.dropPath path

/-- The arm of `pointer_flush_tick`. A failed retransmission does not drop the path. -/
def onFlushTick (now : ℕ) : PeerSession :=
  match s.pointerPath with
  | none => s
  | some path =>
    match path.flushPending now with
    | (.ok _, path) => s.setPath (path.takeRecentlySent.2.maintainReliable now).2
    | (.error _, path) => s.dropPath path

end PeerSession

/-! ## The routed stream -/

/-- `Routes messages stream`: routing the messages in order leaves `stream` on the TLS side. Every
    message is appended, except for pointer moves, which may leave on the datagram path or be
    folded into the move before them; a fold of finite moves is finite. -/
inductive Routes [F64Arith] : List WireMessage → List WireMessage → Prop
  | nil : Routes [] []
  | push {messages stream : List WireMessage} (message : WireMessage)
      (h : Routes messages stream) : Routes (messages ++ [message]) (stream ++ [message])
  | divert {messages stream : List WireMessage} {message : WireMessage}
      (h : Routes messages stream) (hmove : message.isPointerMove = true) :
      Routes (messages ++ [message]) stream
  | fold {messages front : List WireMessage} {tail message folded : WireMessage}
      (h : Routes messages (front ++ [tail])) (hfold : foldPointerMove tail message = some folded)
      (hexact : tail.exact = true → message.exact = true → folded.exact = true) :
      Routes (messages ++ [message]) (front ++ [folded])

variable {message : WireMessage}

/-- A folded message and the frame that takes it in are pointer moves. -/
theorem foldPointerMove_isPointerMove [F64Arith] {tail folded : WireMessage}
    (h : foldPointerMove tail message = some folded) :
    tail.isPointerMove = true ∧ message.isPointerMove = true := by
  obtain ⟨_, _, _, _, _, _, rfl, rfl, htail, hmessage, -⟩ := foldPointerMove_eq_some h
  simp only [WireMessage.isPointerMove, htail, hmessage, and_self]

/-- A stateful input is not a pointer move. -/
theorem WireMessage.isStatefulInput_not_move
    (h : message.isStatefulInput = true) : message.isPointerMove = false := by
  unfold WireMessage.isStatefulInput at h
  unfold WireMessage.isPointerMove
  split at h
  · split at h
    · cases h
    · simp only
  · cases h

namespace PeerSession

open PointerDatagramPath

/-- What a push to the input lane does to the stream: `stream'` and the rest of
    the queue after it. -/
inductive Pushes [F64Arith] (message : WireMessage) (queue : OutboundQueue) :
    Except QueueFull Unit → OutboundQueue → Prop
  | pushed : Pushes message queue (.ok ()) { queue with input := queue.input ++ [message] }
  | folded {front : List WireMessage} {tail folded : WireMessage}
      (hinput : queue.input = front ++ [tail])
      (hfold : foldPointerMove tail message = some folded) :
      Pushes message queue (.ok ()) { queue with input := front ++ [folded] }
  | diverted (hmove : message.isPointerMove = true) : Pushes message queue (.ok ()) queue
  | full (error : QueueFull) : Pushes message queue (.error error) queue

variable (s : PeerSession)

theorem enqueue_pushes [F64Arith] {message : WireMessage}
    (hclass : TrafficClass.forMessage message = .input) :
    Pushes message s.queue (s.enqueue message).1 (s.enqueue message).2.queue := by
  unfold enqueue
  rcases s.queue.tryPush_cases message with
    ⟨front, tail, folded, -, hinput, hfold, -, hpush⟩ | ⟨-, -, hpush⟩ | hpush
  · rw [hpush]
    exact .folded hinput hfold
  · rw [hpush, hclass]
    exact .pushed
  · rw [hpush]
    exact .full _

/-- One call of `route_outbound` pushes, folds or diverts its message, or finds
    the input lane full. -/
theorem routeOutbound_pushes [F64Arith] {message : WireMessage}
    (hclass : TrafficClass.forMessage message = .input) (now : ℕ) :
    Pushes message s.queue (s.routeOutbound message now).1
      (s.routeOutbound message now).2.queue := by
  unfold routeOutbound
  split
  · exact s.enqueue_pushes hclass
  · simp only
    split
    · rename_i hsent
      refine .diverted ?_
      unfold PointerDatagramPath.trySendPointer at hsent
      split at hsent
      · cases (Prod.mk.inj hsent).1
      · split at hsent
        · split at hsent
          · rename_i hpayload
            simp only [WireMessage.isPointerMove, hpayload]
          · cases (Prod.mk.inj hsent).1
        · cases (Prod.mk.inj hsent).1
    · exact (s.setPath _).enqueue_pushes hclass
    · split
      · exact (s.setPath _).enqueue_pushes hclass
      · exact (s.dropPath _).enqueue_pushes hclass

@[simp] theorem onDatagram_queue [F64Arith] (arrival : Arrival) :
    (s.onDatagram arrival).2.queue = s.queue := by
  unfold onDatagram
  split
  · rfl
  · split <;> rfl

@[simp] theorem onProbeTick_queue : s.onProbeTick.queue = s.queue := by
  unfold onProbeTick
  split
  · rfl
  · split <;> rfl

@[simp] theorem onFlushTick_queue (now : ℕ) : (s.onFlushTick now).queue = s.queue := by
  unfold onFlushTick
  split
  · rfl
  · split <;> rfl

/-! ## Shadow copies -/

/-- Every shadow copy that this side has sent satisfies `P`, every one buffered satisfies `Q`. -/
structure Copies (P Q : WireMessage → Prop) (s : PeerSession) : Prop where
  path : ∀ path, s.pointerPath = some path → path.Copies P Q
  departed : ∀ packet ∈ s.departed, packet.payload.Shadows P

variable {P Q : WireMessage → Prop} {s : PeerSession}

theorem copies_start (config : QueueConfig) (answers : Option (ℕ → SendAnswer))
    (localHost remoteHost : HostId) : (start config answers localHost remoteHost).Copies P Q where
  path path hpath := by
    obtain ⟨answers', -, rfl⟩ := Option.map_eq_some_iff.mp hpath
    exact copies_bind rfl localHost remoteHost
  departed _ hmem := (List.not_mem_nil hmem).elim

theorem Copies.datagrams (h : s.Copies P Q) : ∀ packet ∈ s.datagrams, packet.payload.Shadows P := by
  unfold PeerSession.datagrams
  split
  · rename_i path hpath
    exact (h.path path hpath).packets
  · exact h.departed

theorem Copies.mono {P' Q' : WireMessage → Prop} (h : s.Copies P Q)
    (hP : ∀ message, P message → P' message) (hQ : ∀ message, Q message → Q' message) :
    s.Copies P' Q' where
  path path hpath := (h.path path hpath).mono hP hQ
  departed packet hmem := (h.departed packet hmem).mono hP

open PointerDatagramPath (Sends Silent Flushes Answers Carrying)

/-- What a step does to the path of a session: it goes on with a path that `K`
    relates to the one before, or drops one that `D` relates to it. -/
inductive OnPath (K D : PointerDatagramPath → PointerDatagramPath → Prop) (s s' : PeerSession) :
    Prop
  | without (h : s.pointerPath = none) (h' : s'.pointerPath = none)
      (hdeparted : s'.departed = s.departed)
  | kept {path path' : PointerDatagramPath} (h : s.pointerPath = some path) (hkept : K path path')
      (h' : s'.pointerPath = some path') (hdeparted : s'.departed = s.departed)
  | dropped {path path' : PointerDatagramPath} (h : s.pointerPath = some path)
      (hdropped : D path path') (h' : s'.pointerPath = none)
      (hdeparted : s'.departed = path'.socket.packets)

variable {K D : PointerDatagramPath → PointerDatagramPath → Prop} {s' : PeerSession}

/-- A step that leaves the path alone. -/
theorem OnPath.stay (hrefl : ∀ path, K path path) (hpath : s'.pointerPath = s.pointerPath)
    (hdeparted : s'.departed = s.departed) : OnPath K D s s' := by
  cases h : s.pointerPath with
  | none => exact .without h (hpath.trans h) hdeparted
  | some path => exact .kept h (hrefl path) (hpath.trans h) hdeparted

theorem OnPath.mono {K' D' : PointerDatagramPath → PointerDatagramPath → Prop} (h : OnPath K D s s')
    (hK : ∀ {path path'}, K path path' → K' path path')
    (hD : ∀ {path path'}, D path path' → D' path path') : OnPath K' D' s s' := by
  cases h with
  | without h h' hdeparted => exact .without h h' hdeparted
  | kept h hkept h' hdeparted => exact .kept h (hK hkept) h' hdeparted
  | dropped h hdropped h' hdeparted => exact .dropped h (hD hdropped) h' hdeparted

/-- A step whose path sends and keeps no copies but good ones. -/
theorem OnPath.copies {R : PointerDatagramPath → PointerDatagramPath → Prop}
    (h : OnPath R R s s') (hR : ∀ path path', R path path' → path.Copies P Q → path'.Copies P Q)
    (hs : s.Copies P Q) : s'.Copies P Q := by
  cases h with
  | without _ h' hdeparted =>
    exact ⟨(fun _ heq => nomatch h'.symm.trans heq), hdeparted ▸ hs.departed⟩
  | kept h hkept h' hdeparted =>
    refine ⟨fun _ heq => ?_, hdeparted ▸ hs.departed⟩
    obtain rfl := Option.some.inj (h'.symm.trans heq)
    exact hR _ _ hkept (hs.path _ h)
  | dropped h hdropped h' hdeparted =>
    exact ⟨(fun _ heq => nomatch h'.symm.trans heq),
      hdeparted ▸ (hR _ _ hdropped (hs.path _ h)).packets⟩

/-- A step in which the path receives nothing. -/
def SilentStep (P Q : WireMessage → Prop) (s s' : PeerSession) : Prop :=
  OnPath (Silent P Q) (Silent P Q) s s'

theorem SilentStep.copies (h : s.SilentStep P Q s') (hs : s.Copies P Q) : s'.Copies P Q :=
  OnPath.copies h (fun _ _ hsilent => hsilent.copies) hs

theorem routeOutbound_silent [F64Arith] (message : WireMessage)
    (hmessage : message.isStatefulInput = true → P message) (now : ℕ) :
    s.SilentStep P Q (s.routeOutbound message now).2 := by
  unfold routeOutbound
  cases hpath : s.pointerPath with
  | none => exact .without hpath hpath rfl
  | some path =>
    have hsends : Sends P Q path _ := path.shadowReliable_sends message hmessage now
    have hsent : Silent P Q path
        ((path.shadowReliable message now).2.trySendPointer message now).2 := by
      refine hsends.toSilent.trans ?_
      rcases trySendPointer_cases (P := P) (Q := Q)
        (path.shadowReliable message now).2 message now with
        hsend | ⟨_, hsend, -⟩ | ⟨_, _, _, -, -, ⟨_, hflushes⟩, -⟩
      · rw [hsend]
        exact (Sends.refl _).toSilent
      · rw [hsend]
        exact (Sends.refl _).toSilent
      · exact { hflushes with }
    simp only
    generalize trySendPointer _ _ _ = r at hsent ⊢
    obtain ⟨_ | _ | _, path₁⟩ := r
    · simp only
      split
      · exact .kept hpath hsent rfl rfl
      · exact .dropped hpath hsent rfl rfl
    · exact .kept hpath hsent rfl rfl
    · have htaken : Silent P Q path path₁.takeRecentlySent.2 := { hsent with }
      exact .kept hpath htaken rfl rfl

theorem onProbeTick_path : OnPath (Sends P Q) (Sends P Q) s s.onProbeTick := by
  unfold onProbeTick
  cases hpath : s.pointerPath with
  | none => exact .without hpath hpath rfl
  | some path =>
    have hsends : Sends P Q path _ := path.sendProbe_sends
    simp only
    generalize path.sendProbe = r at hsends ⊢
    obtain ⟨_ | _, path₁⟩ := r
    · exact .dropped hpath hsends rfl rfl
    · exact .kept hpath hsends rfl rfl

/-- A flush that goes through carries the totals on; copies may be sent again after it. -/
theorem onFlushTick_path (h : ∀ path, s.pointerPath = some path → path.Copies P Q) (now : ℕ) :
    OnPath (fun path path' => ∃ extra path₁, Flushes P Q extra path path₁
        ∧ (∀ device, path.Carrying device → path₁.Carrying device) ∧ Sends P Q path₁ path')
      (fun path path' => ∃ extra, Flushes P Q extra path path') s (s.onFlushTick now) := by
  unfold onFlushTick
  cases hpath : s.pointerPath with
  | none => exact .without hpath hpath rfl
  | some path =>
    obtain ⟨⟨extra, hflushes⟩, -, hcarrying⟩ :=
      flushPending_spec (P := P) (Q := Q) path now
    simp only
    generalize path.flushPending now = r at hflushes hcarrying ⊢
    obtain ⟨_ | count, path₁⟩ := r
    · exact .dropped hpath ⟨extra, hflushes⟩ rfl rfl
    · have hflushed : path₁.takeRecentlySent.2.Copies P Q := hflushes.copies (h path hpath)
      have hmaintained : Sends P Q _ (path₁.takeRecentlySent.2.maintainReliable now).2 :=
        maintainLoop_sends now _ 0 hflushed
      refine .kept hpath ⟨extra, path₁, hflushes, hcarrying count rfl, ?_⟩ rfl rfl
      have htaken : Sends P Q path₁ path₁.takeRecentlySent.2 :=
        (Sends.refl path₁).congr rfl rfl rfl rfl rfl rfl id
      exact htaken.trans hmaintained

theorem onProbeTick_silent : s.SilentStep P Q s.onProbeTick :=
  s.onProbeTick_path.mono (·.toSilent) (·.toSilent)

theorem onFlushTick_silent (h : ∀ path, s.pointerPath = some path → path.Copies P Q) (now : ℕ) :
    s.SilentStep P Q (s.onFlushTick now) := by
  refine (onFlushTick_path h now).mono ?_ fun ⟨_, hflushes⟩ => hflushes.toSilent
  rintro _ _ ⟨_, _, hflushes, -, hsends⟩
  exact hflushes.toSilent.trans hsends.toSilent

/-- An arrival from a peer whose shadow copies satisfy `Q`. -/
theorem onDatagram_path [F64Arith] (h : ∀ path, s.pointerPath = some path → path.Copies P Q)
    (arrival : Arrival)
    (harrival : ∀ packet, arrival = .authentic packet → packet.payload.Shadows Q) :
    (∀ observation, (s.onDatagram arrival).1 = some observation →
      ∀ message ∈ observation.reliableMessages, Q message)
      ∧ OnPath (Answers P Q) (Answers P Q) s (s.onDatagram arrival).2 := by
  unfold PeerSession.onDatagram
  cases hpath : s.pointerPath with
  | none => exact ⟨(fun _ heq => nomatch heq), .without hpath hpath rfl⟩
  | some path =>
    obtain ⟨-, hanswers, hhands⟩ := receive_receives (h path hpath) arrival
      harrival
    simp only
    generalize path.receive arrival = r at hhands hanswers ⊢
    obtain ⟨_ | observation, path₁⟩ := r
    · exact ⟨(fun _ heq => nomatch heq), .dropped hpath hanswers rfl rfl⟩
    · refine ⟨fun _ hobservation => ?_, .kept hpath hanswers rfl rfl⟩
      cases hobservation
      exact hhands observation rfl

end PeerSession

end SoftwareKvm
