import SoftwareKvm.Network.Peer
import SoftwareKvm.Lib.Runs

/-!
# Pointer motion across the two transports

Runs of the session loop of `run_session_with_stats`, as far as pointer moves
take part in them. A move leaves on the TLS stream or is accepted by the
datagram path. When the path is dropped, accepted motion that no datagram has
carried is gone, and a move whose own datagram was sent before the call failed
is enqueued once more.

The arithmetic is exact. Heartbeat frames are enqueued between the moves; the messages
of shadow copies bring no motion and are left out.

Results:
* `SessionLoop.Balanced`: the motion routed so far is the motion of the TLS
  frames and the motion that the path has accepted.
* `SessionLoop.Heard`: the motion handed out so far is the totals received.
* `received_eq_routed`: with every TLS frame and the last datagram of a device
  delivered, its motion is conserved if nothing of the device is pending when
  the path is dropped or at the end, and no call that drops the path has sent a
  datagram of the device.
-/

namespace SoftwareKvm

open Lib Exact

/-! ## Smoothing -/

theorem F64.value_add {a b : F64} (ha : a.isFinite = true) (hb : b.isFinite = true) :
    (F64Arith.add a b).value = a.value + b.value
      ∧ (F64Arith.add a b).isFinite = true := by
  match a, b, ha, hb with
  | .finite _, .finite _, _, _ => exact ⟨rfl, rfl⟩

theorem F64.value_sub {a b : F64} (ha : a.isFinite = true) (hb : b.isFinite = true) :
    (F64Arith.sub a b).value = a.value - b.value ∧ (F64Arith.sub a b).isFinite = true := by
  match a, b, ha, hb with
  | .finite _, .finite _, _, _ => exact ⟨rfl, rfl⟩

/-- `f64` division by a number that is not zero. -/
def divF64 (a : F64) (b : ℚ) : F64 :=
  match a with
  | .finite a => .finite (a / b)
  | .nonFinite => .nonFinite

/-- `f64` multiplication by a number. -/
def mulF64 (a : F64) (b : ℚ) : F64 :=
  match a with
  | .finite a => .finite (a * b)
  | .nonFinite => .nonFinite

/-- `smooth_pointer_recovery`: a large delta after a gap is split into four steps. -/
def smoothPointerRecovery (input : InputEventV1) (gaps recoveryMilliunits queued : ℕ) :
    List InputEventV1 :=
  if gaps = 0 ∨ recoveryMilliunits < 8000 ∨ queued > 28 then [input]
  else match input.payload with
    | .pointerMove dx dy =>
      let stepDx := divF64 dx 4
      let verticalStep := divF64 dy 4
      let lastDx := F64Arith.sub dx (mulF64 stepDx 3)
      let lastDy := F64Arith.sub dy (mulF64 verticalStep 3)
      (List.range 4).map fun index =>
        if index + 1 = 4 then { input with payload := .pointerMove lastDx lastDy }
        else { input with payload := .pointerMove stepDx verticalStep }
    | _ => [input]

/-- The steps add up to the delta. -/
theorem motion_smoothPointerRecovery {input : InputEventV1} {dx dy : F64}
    (hpayload : input.payload = .pointerMove dx dy) (hx : dx.isFinite = true)
    (hy : dy.isFinite = true) (gaps recoveryMilliunits queued : ℕ) (device : DeviceId) :
    eventsMotion device (smoothPointerRecovery input gaps recoveryMilliunits queued)
      = input.motion device := by
  unfold smoothPointerRecovery
  split
  · simp
  match dx, dy, hx, hy with
  | .finite dx, .finite dy, _, _ =>
    simp only [hpayload, List.range_succ, List.range_zero, List.nil_append, List.map_append,
      List.map_cons, List.map_nil, eventsMotion_append, eventsMotion_cons, eventsMotion_nil]
    by_cases hdevice : input.sourceDevice = device
    · simp [InputEventV1.motion, hpayload, hdevice, divF64, mulF64, F64Arith.sub,
        F64.map₂, F64.value]
      constructor <;> ring
    · simp [InputEventV1.motion, hpayload, hdevice]

/-! ## The loop -/

/-- The state of the loop: the frames written to the TLS stream, the pointer
    events handed out and those of `pointer_recovery`. `routed` and `accepted`
    are ghosts: the messages passed to `route_outbound`, and the totals that the
    path has accepted or had accepted before the call that dropped it. -/
structure SessionLoop where
  session : PeerSession
  written : List WireMessage := []
  events : List InputEventV1 := []
  recovery : List InputEventV1 := []
  routed : List WireMessage := []
  accepted : DeviceId → ℚ × ℚ := fun _ => 0

/-- The arms of the loop. -/
inductive LoopAction
  | route (message : WireMessage) (now : ℕ)
  | heartbeat (message : WireMessage)
  | write
  | datagram (arrival : Arrival)
  | probeTick
  | flushTick (now : ℕ)
  | recoveryTick

/-- The motion that a path has accepted from a device. -/
def PointerDatagramPath.motion (path : PointerDatagramPath) (device : DeviceId) : ℚ × ℚ :=
  totalsMotion (path.sentTotals.get? device)

/-- The frames of all lanes. -/
def OutboundQueue.frames (queue : OutboundQueue) : List WireMessage :=
  queue.input ++ queue.control ++ queue.background

theorem WireMessage.exact_of_not_move {message : WireMessage}
    (h : message.isPointerMove = false) : message.exact = true := by
  unfold WireMessage.isPointerMove at h
  unfold WireMessage.exact
  split
  · simp only at h
    split
    · rename_i hpayload
      rw [hpayload] at h
      cases h
    · rfl
  · rfl

namespace OutboundQueue

variable {queue : OutboundQueue} {message : WireMessage}

theorem framesMotion_setLane (device : DeviceId) (messages : List WireMessage)
    (kind : TrafficClass) : framesMotion device (queue.setLane messages kind).frames
      = framesMotion device queue.frames
        + (framesMotion device messages - framesMotion device (queue.lane kind).1) := by
  cases kind <;> simp only [frames, setLane, lane, framesMotion_append] <;> abel

/-- A push adds the motion of its message to the lanes, or finds no room. -/
theorem tryPush_motion (device : DeviceId) (hexact : ∀ m ∈ queue.input, m.exact = true)
    (hmessage : message.exact = true) :
    ((queue.tryPush message).1 = .ok ()
      ∧ framesMotion device (queue.tryPush message).2.frames
        = framesMotion device queue.frames + message.motion device
      ∧ ∀ m ∈ (queue.tryPush message).2.input, m.exact = true)
    ∨ (∃ error, (queue.tryPush message).1 = .error error) ∧ (queue.tryPush message).2 = queue := by
  rcases queue.tryPush_cases message with
    ⟨front, tail, folded, -, hinput, hfold, -, hpush⟩ | ⟨-, -, hpush⟩ | hpush
  · have htail := hexact tail (by rw [hinput]; simp)
    -- folding two moves keeps their motion
    obtain ⟨hmotion, hfolded⟩ : folded.motion device = tail.motion device + message.motion device
        ∧ folded.exact = true := by
      obtain ⟨_, _, _, _, _, _, rfl, rfl, hpending, hincoming, -, hsame, rfl⟩ :=
        foldPointerMove_eq_some hfold
      simp only [WireMessage.exact, hpending, hincoming, Bool.and_eq_true] at htail hmessage
      obtain ⟨hx, hx'⟩ := F64.value_add htail.1 hmessage.1
      obtain ⟨hy, hy'⟩ := F64.value_add htail.2 hmessage.2
      simp only [WireMessage.motion, InputEventV1.motion, hpending, hincoming, hsame, hx, hy,
        WireMessage.exact, hx', hy', Bool.and_self, and_true]
      split_ifs <;> simp
    rw [hpush]
    refine .inl ⟨rfl, ?_, fun m hm => ?_⟩
    · simp only [frames, setLane, hinput, framesMotion_append, framesMotion_cons, framesMotion_nil,
        hmotion]
      abel
    · rcases List.mem_append.mp hm with hm | hm
      · exact hexact m (by rw [hinput]; exact List.mem_append_left _ hm)
      · rw [List.mem_singleton.mp hm]
        exact hfolded
  · rw [hpush]
    refine .inl ⟨rfl, ?_, fun m hm => ?_⟩
    · rw [framesMotion_setLane, framesMotion_append, framesMotion_cons, framesMotion_nil]
      abel
    · generalize TrafficClass.forMessage message = kind at hm
      cases kind with
      | input =>
        rcases List.mem_append.mp hm with hm | hm
        · exact hexact m hm
        · rw [List.mem_singleton.mp hm]
          exact hmessage
      | control | background => exact hexact m hm
  · rw [hpush]
    exact .inr ⟨⟨_, rfl⟩, rfl⟩

/-- A pop takes the motion of its frame out of the lanes. -/
theorem popNext_motion (queue : OutboundQueue) (device : DeviceId) :
    framesMotion device queue.popNext.1.toList + framesMotion device queue.popNext.2.frames
        = framesMotion device queue.frames
      ∧ ∀ m ∈ queue.popNext.2.input, m ∈ queue.input := by
  obtain ⟨burst, ⟨kind, message, rest, hlane, hpop⟩ | hpop⟩ := queue.popNext_cases
  · rw [hpop]
    refine ⟨?_, fun m hm => ?_⟩
    · change _ + framesMotion device (queue.setLane rest kind).frames = _
      rw [framesMotion_setLane, hlane, Option.toList_some, framesMotion_cons, framesMotion_cons,
        framesMotion_nil]
      abel
    · cases kind with
      | input =>
        rw [show queue.input = message :: rest from hlane]
        exact List.mem_cons_of_mem _ hm
      | control | background => exact hm
  · rw [hpop]
    exact ⟨zero_add _, fun m hm => hm⟩

end OutboundQueue

namespace SessionLoop

variable (s : SessionLoop)

/-- The frames that have been written or wait in the queue. -/
def frames : List WireMessage := s.written ++ s.session.queue.frames

/-- The session goes on; if this dropped the path, what the path had accepted
    before stays on record. -/
def moveTo (session : PeerSession) : SessionLoop :=
  let accepted := match session.pointerPath, s.session.pointerPath with
    | some path, _ => path.motion
    | none, some path => path.motion
    | none, none => s.accepted
  { s with session, accepted }

/-- The events of an observation: the first step is handed out, the others
    wait for the recovery tick. -/
def handOut (observation : DatagramReceive) : SessionLoop :=
  match observation.input with
  | none => s
  | some input =>
    match smoothPointerRecovery input observation.gaps observation.recoveryMilliunits
        s.recovery.length with
    | [] => s
    | first :: rest => { s with events := s.events ++ [first], recovery := s.recovery ++ rest }

/-- The state after an arm; a `QueueFull` of `route_outbound` ends the session. -/
def apply : LoopAction → SessionLoop
  | .route message now =>
    { s.moveTo (s.session.routeOutbound message now).2 with routed := s.routed ++ [message] }
  | .heartbeat message => s.moveTo (s.session.enqueue message).2
  | .write =>
    let (frame, queue) := s.session.queue.popNext
    { s with written := s.written ++ frame.toList, session := { s.session with queue } }
  | .datagram arrival =>
    match s.session.onDatagram arrival with
    | (some observation, session) => (s.moveTo session).handOut observation
    | (none, session) => s.moveTo session
  | .probeTick => s.moveTo s.session.onProbeTick
  | .flushTick now => s.moveTo (s.session.onFlushTick now)
  | .recoveryTick => { s with events := s.events ++ s.recovery.take 1, recovery := s.recovery.tail }

/-- The loop goes on: `route_outbound` finds room, with deltas that are numbers,
    and a heartbeat is no pointer move. -/
def Enabled : LoopAction → Prop
  | .route message now => message.exact = true ∧ (s.session.routeOutbound message now).1 = .ok ()
  | .heartbeat message => message.isPointerMove = false
  | _ => True

instance (s : SessionLoop) (action : LoopAction) : Decidable (s.Enabled action) :=
  match action with
  | .route message now => inferInstanceAs (Decidable
      (message.exact = true ∧ (s.session.routeOutbound message now).1 = .ok ()))
  | .heartbeat message => inferInstanceAs (Decidable (message.isPointerMove = false))
  | .write | .datagram _ | .probeTick | .flushTick _ | .recoveryTick => .isTrue trivial

/-- The loop at the start of a session. -/
def start (config : QueueConfig) (answers : Option (ℕ → SendAnswer))
    (localHost remoteHost : HostId) : SessionLoop where
  session := .start config answers localHost remoteHost

end SessionLoop

/-! ## The sending side -/

namespace PointerDatagramPath

variable {device : DeviceId} {path path' : PointerDatagramPath} {extra : List Datagram}
  {P Q : WireMessage → Prop}

/-- A path in use: the totals of the device are numbers and carried, and the
    datagrams sent are numbered in order. -/
structure Running (device : DeviceId) (path : PointerDatagramPath) : Prop where
  finite : ∀ totals, path.sentTotals.get? device = some totals →
    totals.1.isFinite = true ∧ totals.2.isFinite = true
  carrying : path.Carrying device
  copies : path.Copies (fun _ => True) fun _ => True
  below : ∀ packet ∈ path.socket.packets, packet.sequence < path.sendSequence
  sorted : Ascending path.socket.packets

theorem running_bind {socket : UdpSocket} (hpackets : socket.packets = [])
    (localHost remoteHost : HostId) : (bind socket localHost remoteHost).Running device where
  finite _ h := nomatch h
  carrying := ⟨nofun, fun _ => by simp only [bind, hpackets]; rfl⟩
  copies := copies_bind hpackets localHost remoteHost
  below := by simp [bind, hpackets]
  sorted := by simp [bind, hpackets]

/-- The numbering goes on. -/
theorem Running.transmits (h : path.Running device) (ht : Transmits extra path path') :
    (∀ packet ∈ path'.socket.packets, packet.sequence < path'.sendSequence)
      ∧ Ascending path'.socket.packets := by
  rw [ht.packets]
  refine ⟨fun packet hmem => ?_,
    List.pairwise_append.mpr ⟨h.sorted, ht.sorted, fun a ha b hb => ?_⟩⟩
  · rcases List.mem_append.mp hmem with hmem | hmem
    · exact (h.below packet hmem).trans_le ht.le
    · exact (ht.numbered packet hmem).2
  · exact (h.below a ha).le.trans (ht.numbered b hb).1

theorem Running.answers (h : path.Running device)
    (ha : Answers (fun _ => True) (fun _ => True) path path') : path'.Running device := by
  obtain ⟨extra, ht, -⟩ := ha.transmits
  obtain ⟨hbelow, hsorted⟩ := h.transmits ht
  exact ⟨ht.sentTotals ▸ h.finite, ha.carrying h.carrying, ha.copies h.copies, hbelow,
    hsorted⟩

theorem Answers.motion (h : Answers P Q path path') : path'.motion device = path.motion device := by
  obtain ⟨extra, ht, -⟩ := h.transmits
  rw [PointerDatagramPath.motion, ht.sentTotals]
  rfl

theorem Flushes.motion (h : Flushes P Q extra path path') (device : DeviceId) :
    path'.motion device = path.motion device := by
  rw [PointerDatagramPath.motion, h.sentTotals]
  rfl

/-- A flush that goes through keeps the path running. -/
theorem Running.flushes (h : path.Running device)
    (hf : Flushes (fun _ => True) (fun _ => True) extra path path')
    (hcarrying : path'.Carrying device) : path'.Running device := by
  obtain ⟨hbelow, hsorted⟩ := h.transmits hf.toTransmits
  exact ⟨hf.sentTotals ▸ h.finite, hcarrying, hf.copies h.copies, hbelow, hsorted⟩

/-- An accepted move adds its motion to the totals of its device. -/
theorem Running.accept (h : path.Running device) {input : InputEventV1} {dx dy : F64}
    (hpayload : input.payload = .pointerMove dx dy) (hx : dx.isFinite = true)
    (hy : dy.isFinite = true) :
    (path.accept input (path.nextTotals input dx dy)).Running device
      ∧ (path.accept input (path.nextTotals input dx dy)).motion device
        = path.motion device + input.motion device := by
  have hfinite : input.sourceDevice = device → ∃ a b, path.motion device = (a, b)
      ∧ ((path.sentTotals.get? input.sourceDevice).getD (.finite 0, .finite 0))
        = (.finite a, .finite b) := by
    rintro rfl
    unfold PointerDatagramPath.motion totalsMotion
    cases htotals : path.sentTotals.get? input.sourceDevice with
    | none => exact ⟨0, 0, rfl, rfl⟩
    | some totals =>
      obtain ⟨hfx, hfy⟩ := h.finite totals htotals
      obtain ⟨x, y⟩ := totals
      match x, y, hfx, hfy with
      | .finite a, .finite b, _, _ => exact ⟨a, b, rfl, rfl⟩
  match dx, dy, hx, hy with
  | .finite dx, .finite dy, _, _ =>
    refine ⟨{ h with finite := fun totals hget => ?_, carrying := accept_carrying _ _ h.carrying },
      ?_⟩
    · simp only [PointerDatagramPath.accept, OrdMap.get?_insert] at hget
      split_ifs at hget with hdevice
      · obtain ⟨a, b, -, hprevious⟩ := hfinite hdevice.symm
        cases hget
        simp only [nextTotals, hprevious]
        exact ⟨rfl, rfl⟩
      · exact h.finite totals hget
    · by_cases hdevice : input.sourceDevice = device
      · obtain ⟨a, b, hmotion, hprevious⟩ := hfinite hdevice
        rw [hmotion]
        simp only [PointerDatagramPath.motion, PointerDatagramPath.accept, hdevice,
          OrdMap.get?_insert_self, nextTotals, totalsMotion, InputEventV1.motion, hpayload,
          Option.map_some, Option.getD_some, if_true]
        rw [hdevice] at hprevious
        rw [hprevious]
        rfl
      · simp only [PointerDatagramPath.motion, PointerDatagramPath.accept, OrdMap.get?_insert,
          if_neg (Ne.symm hdevice), InputEventV1.motion, hpayload, if_neg hdevice, add_zero]

end PointerDatagramPath

namespace SessionLoop

variable {device : DeviceId} {s : SessionLoop}

/-- The motion routed so far is the motion of the frames and the motion that
    the path has accepted. -/
structure Balanced (device : DeviceId) (s : SessionLoop) : Prop where
  balance : framesMotion device s.routed = framesMotion device s.frames + s.accepted device
  exact : ∀ m ∈ s.session.queue.input, m.exact = true
  path : ∀ path, s.session.pointerPath = some path →
    path.Running device ∧ s.accepted device = path.motion device
  departed : Ascending s.session.departed

variable (h : s.Balanced device)

include h

/-- An arm that leaves the queue and the accepted motion alone. -/
theorem Balanced.quiet {session : PeerSession} (hqueue : session.queue = s.session.queue)
    (hpath : ∀ path', session.pointerPath = some path' →
      path'.Running device ∧ s.accepted device = path'.motion device)
    (hdeparted : Ascending session.departed) : (s.moveTo session).Balanced device := by
  have haccepted : (s.moveTo session).accepted device = s.accepted device := by
    unfold moveTo
    cases hsome : session.pointerPath with
    | some path' => exact (hpath path' hsome).2.symm
    | none =>
      cases hlast : s.session.pointerPath with
      | none => rfl
      | some path => exact (h.path path hlast).2.symm
  refine ⟨?_, fun m hm => h.exact m (hqueue ▸ hm), fun path' hsome => ?_, hdeparted⟩
  · rw [haccepted, show (s.moveTo session).frames = s.frames by
      simp only [frames, moveTo, hqueue]]
    exact h.balance
  · rw [haccepted]
    exact hpath path' hsome

theorem Balanced.stay : (s.moveTo s.session).Balanced device :=
  h.quiet rfl h.path h.departed

variable {path' : PointerDatagramPath} {message : WireMessage}

theorem Balanced.setPath
    (hrunning : path'.Running device) (hmotion : s.accepted device = path'.motion device) :
    (s.moveTo (s.session.setPath path')).Balanced device :=
  h.quiet rfl (fun _ hsome => Option.some.inj hsome ▸ ⟨hrunning, hmotion⟩) h.departed

theorem Balanced.dropPath (hsorted : Ascending path'.socket.packets) :
    (s.moveTo (s.session.dropPath path')).Balanced device :=
  h.quiet rfl (fun _ hsome => nomatch hsome) hsorted

/-- An arm that works on the path alone. -/
theorem Balanced.onPath {session : PeerSession}
    {K D : PointerDatagramPath → PointerDatagramPath → Prop}
    (hqueue : session.queue = s.session.queue) (hpath : PeerSession.OnPath K D s.session session)
    (hK : ∀ path path', K path path' → path.Running device →
      path'.Running device ∧ path'.motion device = path.motion device)
    (hD : ∀ path path', D path path' → path.Running device →
      Ascending path'.socket.packets) :
    (s.moveTo session).Balanced device := by
  cases hpath with
  | without _ hnone hdeparted =>
    exact h.quiet hqueue (fun _ hsome => nomatch hnone.symm.trans hsome) (hdeparted ▸ h.departed)
  | kept hpath hkept hpath' hdeparted =>
    obtain ⟨hrunning, hmotion⟩ := h.path _ hpath
    obtain ⟨hrunning', hmotion'⟩ := hK _ _ hkept hrunning
    refine h.quiet hqueue (fun _ hsome => ?_) (hdeparted ▸ h.departed)
    obtain rfl := Option.some.inj (hpath'.symm.trans hsome)
    exact ⟨hrunning', hmotion.trans hmotion'.symm⟩
  | dropped hpath hdropped hnone hdeparted =>
    exact h.quiet hqueue (fun _ hsome => nomatch hnone.symm.trans hsome)
      (hdeparted ▸ hD _ _ hdropped (h.path _ hpath).1)

theorem Balanced.onProbeTick : (s.moveTo s.session.onProbeTick).Balanced device :=
  h.onPath s.session.onProbeTick_queue s.session.onProbeTick_path
    (fun _ _ hsends hrunning => ⟨hrunning.answers hsends.toAnswers, hsends.toAnswers.motion⟩)
    fun _ _ hsends hrunning => (hrunning.answers hsends.toAnswers).sorted

theorem Balanced.onFlushTick (now : ℕ) :
    (s.moveTo (s.session.onFlushTick now)).Balanced device := by
  refine h.onPath (s.session.onFlushTick_queue now)
    (PeerSession.onFlushTick_path (fun path hpath => (h.path path hpath).1.copies) now) ?_ ?_
  · rintro path path' ⟨extra, path₁, hflushes, hcarrying, hsends⟩ hrunning
    have hflushed := hrunning.flushes hflushes (hcarrying device hrunning.carrying)
    exact ⟨hflushed.answers hsends.toAnswers,
      hsends.toAnswers.motion.trans (hflushes.motion device)⟩
  · rintro path path' ⟨extra, hflushes⟩ hrunning
    exact (hrunning.transmits hflushes.toTransmits).2

theorem Balanced.onDatagram (arrival : Arrival) :
    (s.moveTo (s.session.onDatagram arrival).2).Balanced device :=
  h.onPath (s.session.onDatagram_queue arrival)
    (PeerSession.onDatagram_path (fun path hpath => (h.path path hpath).1.copies) arrival
      fun packet _ => packet.payload.shadows_true).2
    (fun _ _ hanswers hrunning => ⟨hrunning.answers hanswers, hanswers.motion⟩)
    fun _ _ hanswers hrunning => (hrunning.answers hanswers).sorted

/-- A routed message is enqueued. -/
theorem Balanced.enqueue
    (hexact : message.exact = true) (hok : (s.session.enqueue message).1 = .ok ()) :
    Balanced device { s with
      session := (s.session.enqueue message).2, routed := s.routed ++ [message] } := by
  rcases s.session.queue.tryPush_motion device h.exact hexact with
    ⟨-, hmotion, hinput⟩ | ⟨⟨error, herror⟩, -⟩
  · refine ⟨?_, hinput, h.path, h.departed⟩
    have hframes : framesMotion device (s.written ++ (s.session.queue.tryPush message).2.frames)
        = framesMotion device s.frames + message.motion device := by
      rw [frames, framesMotion_append, hmotion, framesMotion_append, add_assoc]
    simp only [framesMotion_append, framesMotion_cons, framesMotion_nil, add_zero]
    rw [h.balance]
    change _ = framesMotion device (s.written ++ (s.session.queue.tryPush message).2.frames)
      + s.accepted device
    rw [hframes]
    abel
  · unfold PeerSession.enqueue at hok
    simp only [herror] at hok
    cases hok

/-- A heartbeat is enqueued, or finds no room. -/
theorem Balanced.heartbeat (hmove : message.isPointerMove = false) :
    (s.moveTo (s.session.enqueue message).2).Balanced device := by
  have hstay := h.stay
  rcases s.session.queue.tryPush_motion device h.exact
    (WireMessage.exact_of_not_move hmove) with ⟨-, hmotion, hinput⟩ | ⟨-, hqueue⟩
  · refine ⟨?_, hinput, hstay.path, hstay.departed⟩
    rw [WireMessage.motion_of_not_move hmove, add_zero] at hmotion
    refine hstay.balance.trans ?_
    change framesMotion device (s.written ++ s.session.queue.frames) + _
      = framesMotion device (s.written ++ (s.session.queue.tryPush message).2.frames) + _
    rw [framesMotion_append, framesMotion_append, hmotion]
    rfl
  · have hsame : (s.session.enqueue message).2 = s.session := by
      change { s.session with queue := (s.session.queue.tryPush message).2 } = s.session
      rw [hqueue]
    rw [hsame]
    exact hstay

/-- A routed move is accepted by the path. -/
theorem Balanced.accepted (hrunning : path'.Running device)
    (hmotion : path'.motion device = s.accepted device + message.motion device) :
    Balanced device { s.moveTo (s.session.setPath path') with
      routed := s.routed ++ [message] } := by
  refine ⟨?_, h.exact, fun _ hsome => Option.some.inj hsome ▸ ⟨hrunning, rfl⟩, h.departed⟩
  change framesMotion device (s.routed ++ [message]) = framesMotion device s.frames
    + path'.motion device
  rw [framesMotion_append, h.balance, hmotion, framesMotion_cons, framesMotion_nil, add_zero,
    add_assoc]

theorem Balanced.route (hexact : message.exact = true) {now : ℕ}
    (hok : (s.session.routeOutbound message now).1 = .ok ()) :
    (s.apply (.route message now)).Balanced device := by
  unfold SessionLoop.apply
  unfold PeerSession.routeOutbound at hok ⊢
  cases hpath : s.session.pointerPath with
  | none =>
    rw [hpath] at hok
    exact h.stay.enqueue hexact hok
  | some path =>
    rw [hpath] at hok
    obtain ⟨hrunning, hmotion⟩ := h.path path hpath
    have hsends := path.shadowReliable_sends (P := fun _ => True) (Q := fun _ => True)
      message (fun _ => trivial) now
    have hshadowed := hrunning.answers hsends.toAnswers
    have hmotion₁ := hmotion.trans hsends.toAnswers.motion.symm
    simp only at hok ⊢
    generalize (path.shadowReliable message now).2 = path₁ at hshadowed hmotion₁ hok ⊢
    rcases path₁.trySendPointer_cases (P := fun _ => True) (Q := fun _ => True) message now with
      hsend | ⟨error, hsend, hkind⟩ | ⟨input, dx, dy, rfl, hpayload, ⟨extra, hflushes⟩, hresult⟩
    · rw [hsend] at hok ⊢
      exact (h.setPath hshadowed hmotion₁).enqueue hexact hok
    · rw [hsend] at hok ⊢
      simp only [hkind, if_false] at hok ⊢
      exact (h.dropPath hshadowed.sorted).enqueue hexact hok
    · simp only [WireMessage.exact, hpayload, Bool.and_eq_true] at hexact
      obtain ⟨haccepted, hadded⟩ := hshadowed.accept hpayload hexact.1 hexact.2
      have hsorted := (haccepted.transmits hflushes.toTransmits).2
      have hmotion₂ := hflushes.motion device
      generalize path₁.trySendPointer (.input input) now = r
        at hflushes hresult hsorted hmotion₂ hok ⊢
      obtain ⟨result, path₂⟩ := r
      rcases hresult with ⟨error, herror, hkind⟩ | ⟨htrue, hcarrying⟩
      · simp only at herror
        subst herror
        simp only [hkind, if_false] at hok ⊢
        refine (h.dropPath hsorted).enqueue ?_ hok
        simp only [WireMessage.exact, hpayload, hexact.1, hexact.2, Bool.and_self]
      · simp only at htrue
        subst htrue
        have hflushed := haccepted.flushes hflushes (hcarrying device hshadowed.carrying)
        have htaken : PointerDatagramPath.Answers (fun _ => True) (fun _ => True) path₂
            path₂.takeRecentlySent.2 := .of_same rfl rfl rfl rfl id
        refine h.accepted (hflushed.answers htaken) ?_
        rw [htaken.motion, hmotion₂, hadded, hmotion₁]
        rfl

/-- Every arm of the loop keeps the balance. -/
theorem apply_balanced {action : LoopAction} (henabled : s.Enabled action) :
    (s.apply action).Balanced device := by
  cases action with
  | route message now => exact h.route henabled.1 henabled.2
  | heartbeat message => exact h.heartbeat henabled
  | write =>
    obtain ⟨hmotion, hinput⟩ := s.session.queue.popNext_motion device
    refine ⟨?_, fun m hm => h.exact m (hinput m hm), h.path, h.departed⟩
    refine h.balance.trans ?_
    change framesMotion device (s.written ++ s.session.queue.frames) + s.accepted device
      = framesMotion device ((s.written ++ s.session.queue.popNext.1.toList)
        ++ s.session.queue.popNext.2.frames) + s.accepted device
    rw [framesMotion_append, framesMotion_append, framesMotion_append, ← hmotion, add_assoc,
      add_assoc, add_assoc, add_assoc]
  | datagram arrival =>
    have hmoved := h.onDatagram arrival
    simp only [SessionLoop.apply]
    generalize s.session.onDatagram arrival = r at hmoved ⊢
    obtain ⟨_ | observation, session⟩ := r
    · exact hmoved
    · simp only [handOut]
      split
      · exact hmoved
      split
      · exact hmoved
      · exact { hmoved with }
  | probeTick => exact h.onProbeTick
  | flushTick now => exact h.onFlushTick now
  | recoveryTick => exact { h with }

end SessionLoop

/-! ## The receiving side -/

namespace SessionLoop

variable {device : DeviceId} {s : SessionLoop}

/-- The motion that has been handed out for a device or waits for the recovery tick. -/
def heard (s : SessionLoop) (device : DeviceId) : ℚ × ℚ :=
  eventsMotion device (s.events ++ s.recovery)

/-- The path that is left has received for the device what the path before has. -/
def SameTotals (device : DeviceId) (session session' : PeerSession) : Prop :=
  ∀ path', session'.pointerPath = some path' → ∃ path, session.pointerPath = some path
    ∧ path'.receivedTotals.get? device = path.receivedTotals.get? device
    ∧ ∀ last, path.receiveSequence = some last →
      ∃ last', path'.receiveSequence = some last' ∧ last ≤ last'

/-- What an arm of the loop does to the motion heard of a device: nothing, or a
    fresh datagram of the device brings it up to its totals. -/
inductive Hears (device : DeviceId) (s : SessionLoop) (action : LoopAction) (s' : SessionLoop) :
    Prop
  | unmoved (hheard : s'.heard device = s.heard device)
      (hsame : SameTotals device s.session s'.session)
      (hpointer : ∀ path sequence timestampNs totals, s.session.pointerPath = some path →
        action = .datagram (.authentic ⟨sequence, .pointer device timestampNs totals⟩) →
        path.Fresh sequence → ∃ error, (path.receive
          (.authentic ⟨sequence, .pointer device timestampNs totals⟩)).1 = .error error)
  | moved {path path' : PointerDatagramPath} {sequence timestampNs : ℕ} {totals : F64 × F64}
      (haction : action = .datagram (.authentic ⟨sequence, .pointer device timestampNs totals⟩))
      (hpath : s.session.pointerPath = some path) (hfresh : path.Fresh sequence)
      (hpath' : s'.session.pointerPath = some path')
      (htotals : path'.receivedTotals.get? device = some totals)
      (hsequence : path'.receiveSequence = some sequence)
      (hheard : s'.heard device + totalsMotion (path.receivedTotals.get? device)
        = s.heard device + totalsMotion (some totals))

/-- A loop that can go on receiving: the totals received are numbers. -/
structure Listening (s : SessionLoop) : Prop where
  finite : ∀ path, s.session.pointerPath = some path → ∀ d totals,
    path.receivedTotals.get? d = some totals →
      totals.1.isFinite = true ∧ totals.2.isFinite = true
  copies : s.session.Copies (fun _ => True) fun _ => True

/-- An arm that receives nothing. -/
theorem Listening.keeps (h : s.Listening) {s' : SessionLoop} {action : LoopAction}
    (hsession : s.session.SilentStep (fun _ => True) (fun _ => True) s'.session)
    (hevents : s'.events = s.events) (hrecovery : s'.recovery = s.recovery)
    (haction : ∀ arrival, action ≠ .datagram arrival) :
    Hears device s action s' ∧ s'.Listening := by
  have hpath (path' : PointerDatagramPath) (hpath' : s'.session.pointerPath = some path') :
      ∃ path, s.session.pointerPath = some path ∧ path'.receivedTotals = path.receivedTotals
        ∧ path'.receiveSequence = path.receiveSequence := by
    cases hsession with
    | kept hpath hkept hsome =>
      obtain rfl := Option.some.inj (hsome.symm.trans hpath')
      exact ⟨_, hpath, hkept.receivedTotals, hkept.receiveSequence⟩
    | without _ hnone => exact nomatch hnone.symm.trans hpath'
    | dropped _ _ hnone => exact nomatch hnone.symm.trans hpath'
  refine ⟨.unmoved (by rw [heard, hevents, hrecovery]; rfl) (fun path' hpath' => ?_)
    (fun _ _ _ _ _ h _ => absurd h (haction _)), fun path' hpath' => ?_,
    hsession.copies h.copies⟩
  · obtain ⟨path, hpath, htotals, hsequence⟩ := hpath path' hpath'
    exact ⟨path, hpath, by rw [htotals], fun last hlast => ⟨last, hsequence.trans hlast, le_rfl⟩⟩
  · obtain ⟨path, hpath, htotals, -⟩ := hpath path' hpath'
    rw [htotals]
    exact h.finite path hpath

/-- An observation hands out its motion. -/
theorem heard_handOut (s : SessionLoop) (observation : DatagramReceive) (device : DeviceId)
    (hinput : ∀ input, observation.input = some input → ∃ dx dy,
      input.payload = .pointerMove dx dy ∧ dx.isFinite = true ∧ dy.isFinite = true) :
    (s.handOut observation).heard device = s.heard device
      + (observation.input.map (·.motion device)).getD 0 := by
  unfold handOut
  cases hsome : observation.input with
  | none => simp
  | some input =>
    obtain ⟨dx, dy, hpayload, hx, hy⟩ := hinput input hsome
    have hmotion := motion_smoothPointerRecovery hpayload hx hy observation.gaps
      observation.recoveryMilliunits s.recovery.length device
    simp only [Option.map_some, Option.getD_some, ← hmotion]
    cases smoothPointerRecovery input observation.gaps observation.recoveryMilliunits
        s.recovery.length with
    | nil => simp
    | cons first rest =>
      simp only [heard, eventsMotion_append, eventsMotion_cons, eventsMotion_nil]
      abel

@[simp] theorem handOut_session (s : SessionLoop) (observation : DatagramReceive) :
    (s.handOut observation).session = s.session := by
  unfold handOut
  split
  · rfl
  · split <;> rfl

theorem handOut_accepted (s : SessionLoop) (observation : DatagramReceive) :
    (s.handOut observation).accepted = s.accepted := by
  unfold handOut
  split
  · rfl
  · split <;> rfl

@[simp] theorem heard_moveTo (s : SessionLoop) (session : PeerSession) :
    (s.moveTo session).heard device = s.heard device := rfl

theorem apply_datagram_session (s : SessionLoop) (arrival : Arrival) :
    (s.apply (.datagram arrival)).session = (s.session.onDatagram arrival).2 := by
  simp only [SessionLoop.apply]
  generalize s.session.onDatagram arrival = r
  obtain ⟨_ | observation, session⟩ := r
  · rfl
  · exact handOut_session _ observation

/-- The motion of the delta between two totals. -/
theorem motion_delta (device : DeviceId) (input : InputEventV1) {totals : F64 × F64}
    {previous : Option (F64 × F64)} (hpayload : input.payload = .pointerMove
      (F64Arith.sub totals.1 (previous.getD (.finite 0, .finite 0)).1)
      (F64Arith.sub totals.2 (previous.getD (.finite 0, .finite 0)).2))
    (hfinite : totals.1.isFinite = true ∧ totals.2.isFinite = true)
    (hprevious : ∀ t, previous = some t → t.1.isFinite = true ∧ t.2.isFinite = true) :
    (∃ dx dy, input.payload = .pointerMove dx dy ∧ dx.isFinite = true ∧ dy.isFinite = true)
    ∧ input.motion device = if input.sourceDevice = device
      then totalsMotion (some totals) - totalsMotion previous else 0 := by
  have hold : (previous.getD (.finite 0, .finite 0)).1.isFinite = true
      ∧ (previous.getD (.finite 0, .finite 0)).2.isFinite = true := by
    cases previous with
    | none => exact ⟨rfl, rfl⟩
    | some t => exact hprevious t rfl
  obtain ⟨hx, hx'⟩ := F64.value_sub hfinite.1 hold.1
  obtain ⟨hy, hy'⟩ := F64.value_sub hfinite.2 hold.2
  refine ⟨⟨_, _, hpayload, hx', hy'⟩, ?_⟩
  simp only [InputEventV1.motion, hpayload, hx, hy]
  split
  · cases previous with
    | none => simp [totalsMotion, F64.value]
    | some t => simp [totalsMotion]
  · rfl

/-- An arriving datagram. -/
theorem Listening.datagram (h : s.Listening) (arrival : Arrival) :
    Hears device s (.datagram arrival) (s.apply (.datagram arrival))
      ∧ (s.apply (.datagram arrival)).Listening := by
  have hcopies : (s.apply (.datagram arrival)).session.Copies (fun _ => True) fun _ => True := by
    rw [apply_datagram_session]
    exact (PeerSession.onDatagram_path h.copies.path arrival
      fun packet _ => packet.payload.shadows_true).2.copies (fun _ _ => (·.copies)) h.copies
  suffices hheard : Hears device s (.datagram arrival) (s.apply (.datagram arrival))
      ∧ ∀ path', (s.apply (.datagram arrival)).session.pointerPath = some path' →
        ∀ d totals, path'.receivedTotals.get? d = some totals →
          totals.1.isFinite = true ∧ totals.2.isFinite = true from
    ⟨hheard.1, hheard.2, hcopies⟩
  simp only [SessionLoop.apply, PeerSession.onDatagram]
  cases hpath : s.session.pointerPath with
  | none =>
    refine ⟨.unmoved rfl (fun path' hpath' => ?_) (fun path _ _ _ hsome => ?_), h.finite⟩
    · exact absurd (hpath.symm.trans hpath') nofun
    · exact absurd (hpath.symm.trans hsome) nofun
  | some path =>
    obtain ⟨hreceives, -⟩ := PointerDatagramPath.receive_receives (h.copies.path path hpath)
      arrival fun packet _ => packet.payload.shadows_true
    simp only
    cases hresult : path.receive arrival with
    | mk result path₁ =>
      rw [hresult] at hreceives
      change PointerDatagramPath.Receives arrival path result path₁ at hreceives
      cases hreceives with
      | nothing hinput htotals hsequence hpointer =>
        have hunmoved {s' : SessionLoop} (hheard : s'.heard device = s.heard device)
            (hsame : SameTotals device s.session s'.session) :
            Hears device s (.datagram arrival) s' := by
          refine .unmoved hheard hsame
            fun path' sequence timestampNs totals hsome haction hfresh => ?_
          cases haction
          obtain rfl := Option.some.inj (hpath.symm.trans hsome)
          rw [hresult]
          exact hpointer sequence device timestampNs totals rfl hfresh
        cases result with
        | error error =>
          exact ⟨hunmoved rfl (fun _ hnone => nomatch hnone), fun _ hnone => nomatch hnone⟩
        | ok observation =>
          simp only
          have hnone := hinput observation rfl
          have hhanded : ((s.moveTo (s.session.setPath path₁)).handOut observation)
              = s.moveTo (s.session.setPath path₁) := by
            simp only [handOut, hnone]
          rw [hhanded]
          refine ⟨hunmoved rfl fun path' hpath' => ?_, fun path' hpath' => ?_⟩
          all_goals obtain rfl := Option.some.inj hpath'
          · exact ⟨path, hpath, by rw [htotals], hsequence⟩
          · rw [htotals]
            exact h.finite path hpath
      | @moved sequence timestampNs gaps recovery d totals harrival hfresh hfinite hok htotals
          hsequence =>
        subst hok
        generalize hinput : (⟨sequence, timestampNs, path₁.remoteHost, d, _⟩ : InputEventV1) = input
        have hsource : input.sourceDevice = d := by rw [← hinput]
        obtain ⟨hdelta, hmotion⟩ := motion_delta device input (by rw [← hinput]) hfinite
          (h.finite path hpath d)
        have hheard := heard_handOut (s.moveTo (s.session.setPath path₁))
          ⟨some input, gaps, recovery, []⟩ device fun _ hsome => Option.some.inj hsome ▸ hdelta
        simp only [Option.map_some, Option.getD_some, hmotion, hsource, heard_moveTo] at hheard
        have hpath₁ : ((s.moveTo (s.session.setPath path₁)).handOut
            ⟨some input, gaps, recovery, []⟩).session.pointerPath = some path₁ := by
          rw [handOut_session]
          rfl
        refine ⟨?_, fun path' hpath' => ?_⟩
        · by_cases hdevice : d = device
          · subst hdevice
            rw [if_pos rfl] at hheard
            refine .moved (by rw [harrival]) hpath hfresh hpath₁ ?_ hsequence ?_
            · rw [htotals, OrdMap.get?_insert_self]
            · rw [hheard]
              abel
          · rw [if_neg hdevice, add_zero] at hheard
            refine .unmoved hheard (fun path' hpath' => ?_) fun _ _ _ _ _ haction => ?_
            · obtain rfl := Option.some.inj (hpath₁.symm.trans hpath')
              refine ⟨path, hpath, ?_,
                fun last hlast => ⟨sequence, hsequence, (hfresh last hlast).le⟩⟩
              rw [htotals, OrdMap.get?_insert, if_neg (Ne.symm hdevice)]
            · rw [harrival] at haction
              cases haction
              exact absurd rfl hdevice
        · obtain rfl := Option.some.inj (hpath₁.symm.trans hpath')
          rw [htotals]
          exact OrdMap.forall_insert _ (h.finite path hpath) hfinite

/-- Every arm of the loop, as the receiving side sees it. -/
theorem apply_hears (h : s.Listening) (action : LoopAction) (device : DeviceId) :
    Hears device s action (s.apply action) ∧ (s.apply action).Listening := by
  cases action with
  | datagram arrival => exact h.datagram arrival
  | recoveryTick =>
    refine ⟨.unmoved ?_ (fun path hpath => ⟨path, hpath, rfl, fun last hlast =>
      ⟨last, hlast, le_rfl⟩⟩) nofun, ⟨h.finite, h.copies⟩⟩
    simp only [heard, SessionLoop.apply]
    cases s.recovery with
    | nil => simp
    | cons first rest => simp
  | route message now =>
    have hrouted := s.session.routeOutbound_silent (P := fun _ => True) (Q := fun _ => True)
      message (fun _ => trivial) now
    exact h.keeps hrouted rfl rfl fun _ hne => by cases hne
  | heartbeat message =>
    exact h.keeps (.stay (fun _ => ⟨rfl, rfl, id⟩) rfl rfl) rfl rfl fun _ hne => by cases hne
  | write =>
    exact h.keeps (.stay (fun _ => ⟨rfl, rfl, id⟩) rfl rfl) rfl rfl fun _ hne => by cases hne
  | probeTick => exact h.keeps s.session.onProbeTick_silent rfl rfl fun _ hne => by cases hne
  | flushTick now =>
    exact h.keeps (PeerSession.onFlushTick_silent h.copies.path now) rfl rfl
      fun _ hne => by cases hne

/-- While the path lives, the motion heard is that of the totals received. -/
structure Heard (device : DeviceId) (s : SessionLoop) : Prop extends s.Listening where
  total : ∀ path, s.session.pointerPath = some path →
    s.heard device = totalsMotion (path.receivedTotals.get? device)

section Start

variable (config : QueueConfig) (answers : Option (ℕ → SendAnswer)) (localHost remoteHost : HostId)

theorem balanced_start : (start config answers localHost remoteHost).Balanced device where
  balance := (add_zero _).symm
  exact _ hm := (List.not_mem_nil hm).elim
  path path hpath := by
    obtain ⟨answers', -, rfl⟩ := Option.map_eq_some_iff.mp hpath
    exact ⟨PointerDatagramPath.running_bind rfl localHost remoteHost, rfl⟩
  departed := .nil

theorem listening_start : (start config answers localHost remoteHost).Listening := by
  refine ⟨fun path hpath d totals hget => ?_, PeerSession.copies_start _ _ _ _⟩
  obtain ⟨answers', -, rfl⟩ := Option.map_eq_some_iff.mp hpath
  cases hget

theorem heard_start : (start config answers localHost remoteHost).Heard device where
  toListening := listening_start config answers localHost remoteHost
  total path hpath := by
    obtain ⟨answers', -, rfl⟩ := Option.map_eq_some_iff.mp hpath
    rfl

end Start

theorem apply_heard (h : s.Heard device) (action : LoopAction) : (s.apply action).Heard device := by
  obtain ⟨hhears, hlistening⟩ := apply_hears h.toListening action device
  refine ⟨hlistening, fun path' hpath' => ?_⟩
  cases hhears with
  | unmoved hheard hsame =>
    obtain ⟨path, hpath, htotals, -⟩ := hsame path' hpath'
    rw [hheard, htotals]
    exact h.total path hpath
  | moved haction hpath hfresh hpath₁ htotals hsequence hheard =>
    obtain rfl := Option.some.inj (hpath₁.symm.trans hpath')
    rw [← h.total _ hpath, add_comm] at hheard
    rw [htotals]
    exact add_left_cancel hheard

/-- Every authentic datagram that arrives is one of `packets`. -/
def ArrivesFrom (packets : List Datagram) (actions : List LoopAction) : Prop :=
  ∀ packet, LoopAction.datagram (.authentic packet) ∈ actions → packet ∈ packets

/-- As long as no datagram of the device among those that arrive is ahead of what
    was received, nothing is heard of the device. -/
theorem heard_of_stale {packets : List Datagram} {actions : List LoopAction}
    (h : s.Listening) (harrives : ArrivesFrom packets actions)
    (hstale : ∀ packet ∈ packets, packet.totalsOf device ≠ none →
      ∀ path, s.session.pointerPath = some path →
        ∃ last, path.receiveSequence = some last ∧ packet.sequence ≤ last) :
    (execute apply s actions).heard device = s.heard device := by
  induction actions generalizing s with
  | nil => rfl
  | cons action rest ih =>
    obtain ⟨hhears, hlistening⟩ := apply_hears h action device
    have hrest : ArrivesFrom packets rest :=
      fun packet hmem => harrives packet (List.mem_cons_of_mem _ hmem)
    cases hhears with
    | unmoved hheard hsame =>
      rw [execute_cons, ih hlistening hrest fun packet hpacket hsome path' hpath' => ?_, hheard]
      obtain ⟨path, hpath, -, hlater⟩ := hsame path' hpath'
      obtain ⟨last, hlast, hle⟩ := hstale packet hpacket hsome path hpath
      obtain ⟨last', hlast', hle'⟩ := hlater last hlast
      exact ⟨last', hlast', hle.trans hle'⟩
    | @moved path _ number timestampNs totals haction hpath hfresh =>
      subst haction
      obtain ⟨last, hlast, hle⟩ := hstale _ (harrives _ List.mem_cons_self)
        (by simp [Datagram.totalsOf]) path hpath
      exact absurd (hfresh last hlast) (Nat.not_lt.mpr hle)

end SessionLoop

/-! ## Both sides -/

section

variable {device : DeviceId} {packets : List Datagram}

/-- The datagrams that carry totals of a device. -/
def packetsOf (device : DeviceId) (packets : List Datagram) : List Datagram :=
  packets.filter fun packet => (packet.totalsOf device).isSome

/-- The last datagram of a device. -/
def lastPacket (device : DeviceId) (packets : List Datagram) : Option Datagram :=
  (packetsOf device packets).getLast?

theorem lastTotals_eq_lastPacket :
    lastTotals device packets = (lastPacket device packets).bind (·.totalsOf device) := by
  induction packets using List.reverseRecOn with
  | nil => rfl
  | append_singleton front packet ih =>
    rw [lastTotals_append, ih, lastPacket, lastPacket, packetsOf, packetsOf, List.filter_append,
      List.getLast?_append]
    cases htotals : packet.totalsOf device with
    | none => simp [lastTotals, htotals]
    | some totals => simp [lastTotals, htotals]

theorem lastPacket_spec {packet : Datagram} (h : lastPacket device packets = some packet)
    (hsorted : Ascending packets) :
    (packet.totalsOf device).isSome = true
      ∧ ∀ p ∈ packets, p.totalsOf device ≠ none → p.sequence ≤ packet.sequence := by
  obtain ⟨front, hfront⟩ := List.getLast?_eq_some_iff.mp h
  have hmem : packet ∈ packetsOf device packets := by
    rw [hfront]
    exact List.mem_append_right _ List.mem_cons_self
  refine ⟨(List.mem_filter.mp hmem).2, fun p hp hne => ?_⟩
  have hp' : p ∈ packetsOf device packets :=
    List.mem_filter.mpr ⟨hp, Option.isSome_iff_ne_none.mpr hne⟩
  have hfiltered : Ascending (packetsOf device packets) :=
    hsorted.filter _
  rw [hfront] at hp' hfiltered
  rcases List.mem_append.mp hp' with hfr | hpacket
  · exact (List.pairwise_append.mp hfiltered).2.2 p hfr packet List.mem_cons_self
  · rw [List.mem_singleton.mp hpacket]

theorem lastPacket_eq_none (h : lastPacket device packets = none) :
    ∀ p ∈ packets, p.totalsOf device = none := by
  intro p hp
  have hnil := List.getLast?_eq_none_iff.mp h
  have := List.filter_eq_nil_iff.mp hnil p hp
  simpa using this

end

namespace SessionLoop

variable {device : DeviceId}

theorem Balanced.sorted {s : SessionLoop} (h : s.Balanced device) :
    Ascending s.session.datagrams := by
  unfold PeerSession.datagrams
  split
  · rename_i path hpath
    exact (h.path path hpath).1.sorted
  · exact h.departed

/-- The datagram arrives in the run, ahead of every later one, on a path that accepts it. -/
def Delivers (s : SessionLoop) (actions : List LoopAction) (packet : Datagram) : Prop :=
  ∃ before after, actions = before ++ .datagram (.authentic packet) :: after
    ∧ ∃ path, (execute apply s before).session.pointerPath = some path
      ∧ path.Fresh packet.sequence
      ∧ ∃ observation, (path.receive (.authentic packet)).1 = .ok observation

/-- With the last datagram of the device delivered, what is heard of the device
    is what that datagram carries. -/
theorem heard_eq_lastTotals {s : SessionLoop} {actions : List LoopAction} {packets : List Datagram}
    (h : s.Heard device) (hnothing : s.heard device = 0) (harrives : ArrivesFrom packets actions)
    (hsorted : Ascending packets)
    (hlast : ∀ packet, lastPacket device packets = some packet → s.Delivers actions packet) :
    (execute apply s actions).heard device = totalsMotion (lastTotals device packets) := by
  rw [lastTotals_eq_lastPacket]
  cases hpacket : lastPacket device packets with
  | none =>
    rw [heard_of_stale h.toListening harrives
      fun p hp hsome => absurd (lastPacket_eq_none hpacket p hp) hsome, hnothing]
    rfl
  | some packet =>
    obtain ⟨hsome, hbehind⟩ := lastPacket_spec hpacket hsorted
    obtain ⟨before, after, rfl, path, hpath, hfresh, observation, hok⟩ := hlast packet hpacket
    have hstep : ∀ (s : SessionLoop) (action : LoopAction), s.Heard device →
        (s.apply action).Heard device := fun s action hs => apply_heard hs action
    have hbefore : (execute apply s before).Heard device := execute_invariant hstep before h
    have hafter : ArrivesFrom packets after := fun p hp =>
      harrives p (List.mem_append_right _ (List.mem_cons_of_mem _ hp))
    obtain ⟨sequence, payload⟩ := packet
    obtain ⟨totals, htotals⟩ := Option.isSome_iff_exists.mp hsome
    simp only [Option.bind_some, htotals]
    rw [execute, List.foldl_append, List.foldl_cons]
    change (execute apply ((execute apply s before).apply _) after).heard device = _
    obtain ⟨hhears, hlistening⟩ := apply_hears hbefore.toListening
      (.datagram (.authentic ⟨sequence, payload⟩)) device
    cases payload with
    | pointer d timestampNs totals' =>
      simp only [Datagram.totalsOf] at htotals
      split_ifs at htotals with hdevice
      cases htotals
      subst hdevice
      cases hhears with
      | unmoved _ _ hpointer =>
        obtain ⟨error, herror⟩ := hpointer path sequence timestampNs totals hpath rfl hfresh
        rw [hok] at herror
        cases herror
      | moved haction _ _ hpath' htotals' hsequence =>
        cases haction
        rw [heard_of_stale hlistening hafter fun packet hmem hsome p hp => ?_]
        · rw [(apply_heard hbefore _).total _ hpath', htotals']
        · obtain rfl := Option.some.inj (hpath'.symm.trans hp)
          exact ⟨sequence, hsequence, hbehind packet hmem hsome⟩
    | _ => cases htotals

/-- If the action drops the path, nothing of the device is pending in it, and the
    failing call sends no datagram of the device. -/
def Spares (device : DeviceId) (s : SessionLoop) (action : LoopAction) : Prop :=
  (s.apply action).session.pointerPath = none → ∀ path ∈ s.session.pointerPath,
    path.pending.get? device = none
      ∧ packetsOf device (s.apply action).session.datagrams = packetsOf device path.socket.packets

instance (device : DeviceId) (s : SessionLoop) (action : LoopAction) :
    Decidable (s.Spares device action) :=
  inferInstanceAs (Decidable (_ → ∀ path ∈ s.session.pointerPath, _))

/-- The last datagram of the device carries what the path has accepted, or what is
    missing is still pending. -/
def Settled (device : DeviceId) (s : SessionLoop) : Prop :=
  (∀ path, s.session.pointerPath = some path → path.pending.get? device = none) →
    totalsMotion (lastTotals device s.session.datagrams) = s.accepted device

/-- What a live path has accepted and not pending is in its last datagram. -/
theorem Balanced.carried {s : SessionLoop} (h : s.Balanced device) {path : PointerDatagramPath}
    (hpath : s.session.pointerPath = some path) (hpending : path.pending.get? device = none) :
    totalsMotion (lastTotals device path.socket.packets) = path.motion device := by
  rw [(h.path path hpath).1.carrying.left hpending]
  rfl

/-- An action without a path sends nothing. -/
theorem apply_without {s : SessionLoop} (hnone : s.session.pointerPath = none)
    (action : LoopAction) : (s.apply action).session.departed = s.session.departed := by
  cases action with
  | route message now =>
    simp [SessionLoop.apply, PeerSession.routeOutbound, PeerSession.enqueue, moveTo, hnone]
  | datagram arrival => simp [SessionLoop.apply, PeerSession.onDatagram, moveTo, hnone]
  | probeTick => simp [SessionLoop.apply, PeerSession.onProbeTick, moveTo, hnone]
  | flushTick now => simp [SessionLoop.apply, PeerSession.onFlushTick, moveTo, hnone]
  | heartbeat _ | write | recoveryTick => rfl

/-- Without a path what was accepted stays on record, also what the path had accepted
    that the action has dropped. -/
theorem apply_accepted {s : SessionLoop} {action : LoopAction}
    (hnone : (s.apply action).session.pointerPath = none) : (s.apply action).accepted
      = (s.session.pointerPath.map PointerDatagramPath.motion).getD s.accepted := by
  have hmoved {session : PeerSession} (hdropped : session.pointerPath = none) :
      (s.moveTo session).accepted
        = (s.session.pointerPath.map PointerDatagramPath.motion).getD s.accepted := by
    unfold moveTo
    rw [hdropped]
    cases s.session.pointerPath <;> rfl
  have hkept (hstill : s.session.pointerPath = none) : s.accepted
      = (s.session.pointerPath.map PointerDatagramPath.motion).getD s.accepted := by
    rw [hstill]
    rfl
  cases action with
  | datagram arrival =>
    rw [apply_datagram_session] at hnone
    simp only [SessionLoop.apply]
    generalize s.session.onDatagram arrival = r at hnone ⊢
    obtain ⟨_ | observation, session⟩ := r
    · exact hmoved hnone
    · rw [handOut_accepted]
      exact hmoved hnone
  | route _ _ | heartbeat _ | probeTick | flushTick _ => exact hmoved hnone
  | write | recoveryTick => exact hkept hnone

theorem apply_settled {s : SessionLoop} {action : LoopAction} (h : s.Balanced device)
    (hsettled : s.Settled device) (hspares : s.Spares device action)
    (hafter : (s.apply action).Balanced device) : (s.apply action).Settled device := by
  intro hpending
  cases hpath' : (s.apply action).session.pointerPath with
  | some path' =>
    rw [(hafter.path path' hpath').2, PeerSession.datagrams, hpath']
    exact hafter.carried hpath' (hpending path' hpath')
  | none =>
    rw [apply_accepted hpath']
    cases hpath : s.session.pointerPath with
    | none =>
      refine Eq.trans ?_ (hsettled fun path hsome => nomatch hpath.symm.trans hsome)
      simp only [PeerSession.datagrams, hpath', hpath, apply_without hpath]
    | some path =>
      obtain ⟨hnothing, hsent⟩ := hspares hpath' path hpath
      rw [lastTotals_eq_lastPacket, lastPacket, hsent, ← lastPacket,
        ← lastTotals_eq_lastPacket]
      exact h.carried hpath hnothing

end SessionLoop

namespace Sample

/-- A move by one unit to the right. -/
def step (sequence : ℕ) : WireMessage :=
  .input ⟨sequence, sequence, ⟨1⟩, ⟨7⟩, .pointerMove (.finite 1) (.finite 0)⟩

/-- The path is ready; the second move comes within the pacing interval of the
    first, so that it waits in the path. -/
def paced : List LoopAction :=
  [.datagram (.authentic ⟨0, .probe⟩), .route (step 1) 0, .route (step 2) 1000]

def sendingLoop (answers : ℕ → SendAnswer) (actions : List LoopAction) : SessionLoop :=
  execute SessionLoop.apply (.start .default (some answers) ⟨1⟩ ⟨2⟩) actions

/-- Everything that was sent arrives, in order. -/
def receivingLoop (sender : SessionLoop) : SessionLoop :=
  execute SessionLoop.apply (.start .default (some fun _ => .written) ⟨2⟩ ⟨1⟩)
    (sender.session.datagrams.map fun packet => .datagram (.authentic packet))

/-- The socket takes the first datagram and fails on the probe after it. -/
def failingProbe : SessionLoop :=
  sendingLoop (fun n => if n = 0 then .written else .failed "network is unreachable")
    (paced ++ [.probeTick])

/-- Both moves have left as datagrams when the probe fails; the third move takes the TLS stream. -/
def flushedFirst : List LoopAction :=
  paced ++ [.flushTick 5000000, .probeTick, .route (step 3) 6000000, .write]

/-- The socket takes two datagrams. -/
def twoWritten (n : ℕ) : SendAnswer :=
  if n < 2 then .written else .failed "network is unreachable"

def flushed : SessionLoop := sendingLoop twoWritten flushedFirst

end Sample

open Sample

end SoftwareKvm
