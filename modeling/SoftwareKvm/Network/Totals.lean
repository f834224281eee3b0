import Mathlib.Algebra.BigOperators.Group.List.Basic
import Mathlib.Algebra.Group.Prod
import SoftwareKvm.Network.Datagram
import SoftwareKvm.Network.Queue

/-!
# Cumulative totals on the datagram path

The pointer moves of a device travel on the datagram path as cumulative totals.
`try_send_pointer` adds a move to `sent_totals` before its datagram is sent, and
`receive` turns the totals of a datagram back into a delta.

Results:
* `Transmits`, `Answers`, `Sends`, `Flushes`: what the operations of a path do
  to its totals, its datagrams and its shadow copies.
* `Carrying`: accepted motion is pending or has left in the last datagram of
  its device; kept by every operation that does not fail.
* `trySendPointer_cases`, `receive_receives`: one lemma for each direction.
-/

namespace SoftwareKvm

open Lib

/-! ## Motion -/

/-- The value of a finite number. -/
def F64.value : F64 → ℚ
  | .finite value => value
  | .nonFinite => 0

/-- The motion of cumulative totals; a device without totals has not moved. -/
def totalsMotion (totals : Option (F64 × F64)) : ℚ × ℚ :=
  (totals.map fun t => (t.1.value, t.2.value)).getD 0

variable (device : DeviceId)

/-- The motion that an input event brings to a device. -/
def InputEventV1.motion (input : InputEventV1) : ℚ × ℚ :=
  match input.payload with
  | .pointerMove dx dy => if input.sourceDevice = device then (dx.value, dy.value) else 0
  | _ => 0

/-- The motion that a message brings to a device. -/
def WireMessage.motion : WireMessage → ℚ × ℚ
  | .input event => event.motion device
  | _ => 0

/-- The motion that some messages bring to a device. -/
def framesMotion (messages : List WireMessage) : ℚ × ℚ :=
  (messages.map (·.motion device)).sum

/-- The motion that some events bring to a device. -/
def eventsMotion (events : List InputEventV1) : ℚ × ℚ :=
  (events.map (·.motion device)).sum

/-- A message whose pointer deltas are numbers. -/
def WireMessage.exact : WireMessage → Bool
  | .input event => match event.payload with
    | .pointerMove dx dy => dx.isFinite && dy.isFinite
    | _ => true
  | _ => true

@[simp] theorem framesMotion_nil : framesMotion device [] = 0 := rfl

@[simp] theorem framesMotion_cons (message : WireMessage)
    (rest : List WireMessage) : framesMotion device (message :: rest)
      = message.motion device + framesMotion device rest := List.sum_cons

@[simp] theorem framesMotion_append (a b : List WireMessage) :
    framesMotion device (a ++ b) = framesMotion device a + framesMotion device b := by
  rw [framesMotion, List.map_append, List.sum_append]
  rfl

@[simp] theorem eventsMotion_nil : eventsMotion device [] = 0 := rfl

@[simp] theorem eventsMotion_cons (input : InputEventV1)
    (rest : List InputEventV1) : eventsMotion device (input :: rest)
      = input.motion device + eventsMotion device rest := List.sum_cons

@[simp] theorem eventsMotion_append (a b : List InputEventV1) :
    eventsMotion device (a ++ b) = eventsMotion device a + eventsMotion device b := by
  rw [eventsMotion, List.map_append, List.sum_append]
  rfl

/-- A message that is not a pointer move brings no motion. -/
theorem WireMessage.motion_of_not_move {message : WireMessage}
    (h : message.isPointerMove = false) (device : DeviceId) : message.motion device = 0 := by
  unfold WireMessage.isPointerMove at h
  unfold WireMessage.motion InputEventV1.motion
  split
  · simp only at h
    split
    · rename_i hpayload
      rw [hpayload] at h
      cases h
    · rfl
  · rfl

/-! ## What a path transmits -/

/-- The totals that a datagram carries for a device. -/
def Datagram.totalsOf (packet : Datagram) : Option (F64 × F64) :=
  match packet.payload with
  | .pointer d _ totals => if d = device then some totals else none
  | _ => none

/-- The totals that the last datagram of a device carries. -/
def lastTotals (packets : List Datagram) : Option (F64 × F64) :=
  (packets.filterMap (·.totalsOf device)).getLast?

theorem lastTotals_append {device : DeviceId} {packets extra : List Datagram} :
    lastTotals device (packets ++ extra)
      = (lastTotals device extra).or (lastTotals device packets) := by
  rw [lastTotals, List.filterMap_append, List.getLast?_append]
  rfl

/-- The datagrams are in the order of their numbers. -/
abbrev Ascending (packets : List Datagram) : Prop :=
  packets.Pairwise fun a b => a.sequence ≤ b.sequence

namespace PointerDatagramPath

variable {path path' path'' : PointerDatagramPath} {extra extra' : List Datagram}
  {P Q : WireMessage → Prop}

/-- The path has sent the datagrams `extra`, numbered in order from its send sequence on. -/
structure Transmits (extra : List Datagram) (path path' : PointerDatagramPath) : Prop where
  sentTotals : path'.sentTotals = path.sentTotals
  packets : path'.socket.packets = path.socket.packets ++ extra
  le : path.sendSequence ≤ path'.sendSequence
  numbered : ∀ packet ∈ extra,
    path.sendSequence ≤ packet.sequence ∧ packet.sequence < path'.sendSequence
  sorted : Ascending extra

theorem Transmits.refl (path : PointerDatagramPath) : Transmits [] path path :=
  ⟨rfl, (List.append_nil _).symm, le_rfl, List.forall_mem_nil _, .nil⟩

theorem Transmits.trans (h : Transmits extra path path') (h' : Transmits extra' path' path'') :
    Transmits (extra ++ extra') path path'' where
  sentTotals := h'.sentTotals.trans h.sentTotals
  packets := by rw [h'.packets, h.packets, List.append_assoc]
  le := h.le.trans h'.le
  numbered packet hmem := by
    rcases List.mem_append.mp hmem with hmem | hmem
    · exact ⟨(h.numbered packet hmem).1, (h.numbered packet hmem).2.trans_le h'.le⟩
    · exact ⟨h.le.trans (h'.numbered packet hmem).1, (h'.numbered packet hmem).2⟩
  sorted := List.pairwise_append.mpr ⟨h.sorted, h'.sorted, fun a ha b hb =>
    (h.numbered a ha).2.le.trans (h'.numbered b hb).1⟩

/-- The path has sent datagrams without totals, and nothing of what it has to send has changed. -/
structure Answers (P Q : WireMessage → Prop) (path path' : PointerDatagramPath) : Prop where
  transmits : ∃ extra, Transmits extra path path'
    ∧ ∀ packet ∈ extra, ∀ device, packet.totalsOf device = none
  pending : path'.pending = path.pending
  copies : path.Copies P Q → path'.Copies P Q

theorem Answers.refl (path : PointerDatagramPath) : Answers P Q path path :=
  ⟨⟨[], .refl path, List.forall_mem_nil _⟩, rfl, id⟩

theorem Answers.trans (h : Answers P Q path path') (h' : Answers P Q path' path'') :
    Answers P Q path path'' := by
  obtain ⟨extra, ht, hn⟩ := h.transmits
  obtain ⟨extra', ht', hn'⟩ := h'.transmits
  refine ⟨⟨extra ++ extra', ht.trans ht', fun packet hmem => ?_⟩, h'.pending.trans h.pending,
    h'.copies ∘ h.copies⟩
  exact (List.mem_append.mp hmem).elim (hn packet) (hn' packet)

/-- A change that the pointer state, the socket and the numbering do not see. -/
theorem Answers.of_same (hsent : path'.sentTotals = path.sentTotals)
    (hpending : path'.pending = path.pending) (hsocket : path'.socket = path.socket)
    (hnumber : path'.sendSequence = path.sendSequence)
    (hcopies : path.Copies P Q → path'.Copies P Q) : Answers P Q path path' :=
  ⟨⟨[], ⟨hsent, by rw [hsocket, List.append_nil], hnumber.ge, List.forall_mem_nil _, .nil⟩,
    List.forall_mem_nil _⟩, hpending, hcopies⟩

/-- The path has received nothing. -/
structure Silent (P Q : WireMessage → Prop) (path path' : PointerDatagramPath) : Prop where
  receivedTotals : path'.receivedTotals = path.receivedTotals
  receiveSequence : path'.receiveSequence = path.receiveSequence
  copies : path.Copies P Q → path'.Copies P Q

theorem Silent.trans (h : Silent P Q path path') (h' : Silent P Q path' path'') :
    Silent P Q path path'' :=
  ⟨h'.receivedTotals.trans h.receivedTotals, h'.receiveSequence.trans h.receiveSequence,
    h'.copies ∘ h.copies⟩

/-- The path has sent datagrams without totals, and nothing else of its
    pointer state has changed. -/
structure Sends (P Q : WireMessage → Prop) (path path' : PointerDatagramPath) : Prop
    extends Answers P Q path path', Silent P Q path path'

theorem Sends.refl (path : PointerDatagramPath) : Sends P Q path path := ⟨.refl path, rfl, rfl⟩

theorem Sends.trans (h : Sends P Q path path') (h' : Sends P Q path' path'') :
    Sends P Q path path'' :=
  { h.toAnswers.trans h'.toAnswers, h.toSilent.trans h'.toSilent with }

theorem Sends.congr (h : Sends P Q path path') (hsent : path''.sentTotals = path'.sentTotals)
    (hpending : path''.pending = path'.pending)
    (hreceived : path''.receivedTotals = path'.receivedTotals)
    (hsequence : path''.receiveSequence = path'.receiveSequence)
    (hsocket : path''.socket = path'.socket) (hnumber : path''.sendSequence = path'.sendSequence)
    (hcopies : path'.Copies P Q → path''.Copies P Q) : Sends P Q path path'' :=
  h.trans ⟨.of_same hsent hpending hsocket hnumber hcopies, hreceived, hsequence⟩

/-! ### Single datagrams -/

section

variable (path)

theorem encodePayload_cases (payload : DatagramPayload) :
    (∃ error, path.encodePayload payload = (.error error, path) ∧ error.kind = .other)
    ∨ path.encodePayload payload
      = (.ok ⟨path.sendSequence, payload⟩,
        { path with sendSequence := path.sendSequence + 1 }) := by
  unfold encodePayload
  cases hnext : checkedAdd path.sendSequence 1 with
  | none => exact .inl ⟨_, rfl, rfl⟩
  | some next =>
    obtain ⟨rfl, -⟩ := checkedAdd_eq_some.mp hnext
    exact .inr rfl

/-- A send appends the datagram if it succeeds, and changes only the socket. -/
theorem trySend_cases (packet : Datagram) :
    ∃ socket extra, (path.trySend packet).2 = { path with socket }
      ∧ socket.packets = path.socket.packets ++ extra ∧ (∀ p ∈ extra, p = packet)
      ∧ ((path.trySend packet).1 = .ok () ∧ extra = [packet]
        ∨ (∃ error, (path.trySend packet).1 = .error error) ∧ extra = []) := by
  simp only [trySend, UdpSocket.trySend]
  cases path.socket.answers path.socket.sends with
  | written =>
    exact ⟨_, [packet], rfl, rfl, fun _ hp => List.mem_singleton.mp hp, .inl ⟨rfl, rfl⟩⟩
  | short | blocked | failed =>
    exact ⟨_, [], rfl, (List.append_nil _).symm, List.forall_mem_nil _, .inr ⟨⟨_, rfl⟩, rfl⟩⟩

/-- Copies of one datagram under the next number of the path. -/
theorem transmits_numbered (payload : DatagramPayload)
    (hextra : ∀ p ∈ extra, p = (⟨path.sendSequence, payload⟩ : Datagram)) {socket : UdpSocket}
    (hpackets : socket.packets = path.socket.packets ++ extra) :
    Transmits extra path { path with socket, sendSequence := path.sendSequence + 1 } where
  sentTotals := rfl
  packets := hpackets
  le := Nat.le_succ _
  numbered p hmem := by
    rw [hextra p hmem]
    exact ⟨le_rfl, Nat.lt_succ_self _⟩
  sorted := List.pairwise_of_forall_mem_list fun a ha b hb => by
    rw [hextra a ha, hextra b hb]

/-- Sending a payload without totals, with or without a look at the result. -/
theorem sends_payload (payload : DatagramPayload)
    (hpayload : ∀ sequence device, Datagram.totalsOf device ⟨sequence, payload⟩ = none)
    (hshadows : payload.Shadows P) :
    Sends P Q path (path.sendPayload payload).2 ∧ Sends P Q path (path.sendIgnored payload).2 := by
  unfold sendPayload sendIgnored
  rcases encodePayload_cases path payload with ⟨error, hencode, -⟩ | hencode
  · rw [hencode]
    exact ⟨.refl path, .refl path⟩
  · rw [hencode]
    obtain ⟨socket, extra, hsend, hpackets, hall, -⟩ := trySend_cases
      { path with sendSequence := path.sendSequence + 1 } ⟨path.sendSequence, payload⟩
    have hsends : Sends P Q path { path with socket, sendSequence := path.sendSequence + 1 } := by
      refine ⟨⟨⟨extra, transmits_numbered path payload hall hpackets,
        fun p hp device => hall p hp ▸ hpayload _ device⟩, rfl, fun hcopies => ?_⟩, rfl, rfl⟩
      exact hcopies.send hpackets fun p hp => hall p hp ▸ hshadows
    rw [hsend]
    exact ⟨hsends, hsends⟩

theorem sendProbe_sends : Sends P Q path path.sendProbe.2 :=
  (sends_payload path .probe (fun _ _ => rfl) trivial).1

theorem shadowReliable_sends (message : WireMessage)
    (hmessage : message.isStatefulInput = true → P message) (now : ℕ) :
    Sends P Q path (path.shadowReliable message now).2 := by
  unfold shadowReliable
  split
  · exact .refl path
  rename_i hready
  have hP : P message := hmessage (by simpa using (by simpa using hready : _ ∧ _).2)
  split
  · exact .refl path
  split
  · exact .refl path
  simp only
  split
  · exact .refl path
  rename_i next _
  have htaken : Sends P Q path { path with reliableSendSequence := next } :=
    (Sends.refl path).congr rfl rfl rfl rfl rfl rfl id
  have hsend := htaken.trans (sends_payload { path with reliableSendSequence := next }
    (.reliable path.reliableSendSequence message) (fun _ _ => rfl) hP).1
  split
  · split
    · exact hsend.congr rfl rfl rfl rfl rfl rfl (·.insertPending _ ⟨_, _, rfl, hP⟩)
    · exact hsend
  · exact hsend.congr rfl rfl rfl rfl rfl rfl (·.insertPending _ ⟨_, _, rfl, hP⟩)

end

theorem maintainLoop_sends (now : ℕ) (due : List ℕ) (retransmitted : ℕ)
    (hcopies : path.Copies P Q) : Sends P Q path (maintainLoop now due retransmitted path).2 := by
  induction due generalizing retransmitted path with
  | nil => exact .refl path
  | cons sequence rest ih =>
    unfold maintainLoop
    split
    · exact ih _ hcopies
    · rename_i entry hget
      obtain ⟨number, message, hentry, hP⟩ := hcopies.pending sequence entry hget
      have herased : Sends P Q path
          { path with reliablePending := path.reliablePending.erase sequence } :=
        (Sends.refl path).congr rfl rfl rfl rfl rfl rfl (·.filterPending fun k _ => k ≠ sequence)
      have hsend := herased.trans (sends_payload
        { path with reliablePending := path.reliablePending.erase sequence } entry.payload
        (fun _ _ => by rw [hentry]; rfl) (by rw [hentry]; exact hP)).1
      have hcontinue {retransmitted : ℕ} {path' : PointerDatagramPath} (h : Sends P Q path path') :
          Sends P Q path (maintainLoop now rest retransmitted path').2 :=
        h.trans (ih _ (h.copies hcopies))
      simp only
      have hagain : PendingReliable.payload
          { entry with attempts := entry.attempts + 1, lastSent := now }
          = .reliable number message := hentry
      split
      · exact hcontinue herased
      split
      · exact hcontinue (hsend.congr rfl rfl rfl rfl rfl rfl (·.insertPending _ ⟨_, _, hagain, hP⟩))
      split
      · exact hcontinue (hsend.congr rfl rfl rfl rfl rfl rfl (·.insertPending _ ⟨_, _, hentry, hP⟩))
      · exact hsend

/-! ### Flushing -/

theorem sendRedundant_cases (path : PointerDatagramPath) (packet : Datagram) :
    ∃ socket extra budget interval, path.sendRedundant packet
        = { path with socket, redundancyBudget := budget, pacingInterval := interval }
      ∧ socket.packets = path.socket.packets ++ extra ∧ ∀ p ∈ extra, p = packet := by
  unfold sendRedundant
  split
  · obtain ⟨socket, extra, hsend, hpackets, hall, -⟩ := trySend_cases path packet
    simp only [hsend]
    split
    · exact ⟨socket, extra, _, _, rfl, hpackets, hall⟩
    · exact ⟨socket, extra, _, _, rfl, hpackets, hall⟩
  · exact ⟨path.socket, [], _, _, rfl, (List.append_nil _).symm, List.forall_mem_nil _⟩

/-- A flush sends datagrams and changes the pending totals. -/
structure Flushes (P Q : WireMessage → Prop) (extra : List Datagram)
    (path path' : PointerDatagramPath) : Prop
    extends Transmits extra path path', Silent P Q path path'

theorem Flushes.refl (path : PointerDatagramPath) : Flushes P Q [] path path :=
  ⟨.refl path, rfl, rfl, id⟩

theorem Flushes.trans (h : Flushes P Q extra path path') (h' : Flushes P Q extra' path' path'') :
    Flushes P Q (extra ++ extra') path path'' :=
  ⟨h.toTransmits.trans h'.toTransmits, h.toSilent.trans h'.toSilent⟩

/-- One iteration of the loop of `flush_pending`: it fails, the totals leave
    once or twice, or they become pending again. -/
theorem flushLoop_cons (device : DeviceId) (pointer : PendingPointer)
    (rest : List (DeviceId × PendingPointer)) (sent : ℕ) (path : PointerDatagramPath) :
    (∃ error path₁, flushLoop ((device, pointer) :: rest) sent path = (.error error, path₁)
      ∧ error.kind ≠ .wouldBlock ∧ Flushes P Q [] path path₁)
    ∨ (∃ path₁ extra, flushLoop ((device, pointer) :: rest) sent path
        = flushLoop rest (sent + 1) path₁ ∧ Flushes P Q extra path path₁
      ∧ path₁.pending = path.pending ∧ extra ≠ []
      ∧ ∀ p ∈ extra, p.payload = .pointer device pointer.timestampNs pointer.totals)
    ∨ (∃ path₁, flushLoop ((device, pointer) :: rest) sent path = flushLoop rest sent path₁
      ∧ Flushes P Q [] path path₁ ∧ path₁.pending = path.pending.insert device pointer) := by
  rw [flushLoop]
  have hshadows : (DatagramPayload.pointer device pointer.timestampNs pointer.totals).Shadows P :=
    trivial
  generalize hpayload : DatagramPayload.pointer device pointer.timestampNs pointer.totals = payload
    at hshadows
  -- copies of the totals under one number, whatever becomes of the pacing
  have hflushes {extra : List Datagram} {path₁ : PointerDatagramPath}
      (hextra : ∀ p ∈ extra, p = (⟨path.sendSequence, payload⟩ : Datagram))
      (hpackets : path₁.socket.packets = path.socket.packets ++ extra)
      (hsame : path₁ = { path with
        socket := path₁.socket, sendSequence := path.sendSequence + 1, pending := path₁.pending
        redundancyBudget := path₁.redundancyBudget, pacingInterval := path₁.pacingInterval }) :
      Flushes P Q extra path path₁ := by
    have hnumbered := transmits_numbered path payload hextra hpackets
    rw [hsame]
    exact { hnumbered with
      receivedTotals := rfl
      receiveSequence := rfl
      copies := fun hcopies => hcopies.send hpackets fun p hp => hextra p hp ▸ hshadows }
  rcases encodePayload_cases path payload with ⟨error, hencode, hkind⟩ | hencode
  · rw [hencode]
    exact .inl ⟨error, path, rfl, by rw [hkind]; decide, .refl path⟩
  rw [hencode]
  simp only
  obtain ⟨socket, extra, hsend, hpackets, hnone, hresult⟩ := trySend_cases
    { path with sendSequence := path.sendSequence + 1 } ⟨path.sendSequence, payload⟩
  generalize trySend _ _ = r at hsend hresult ⊢
  obtain ⟨result, path₁⟩ := r
  subst hsend
  rcases hresult with ⟨rfl, rfl⟩ | ⟨⟨error, rfl⟩, rfl⟩
  · obtain ⟨socket', extra', budget, interval, hredundant, hpackets', hall⟩ := sendRedundant_cases
      { path with sendSequence := path.sendSequence + 1, socket } ⟨path.sendSequence, payload⟩
    refine .inr (.inl ⟨_, ⟨path.sendSequence, payload⟩ :: extra', rfl, ?_, ?_,
      List.cons_ne_nil _ _, List.forall_mem_cons.mpr ⟨rfl, fun p hp => by rw [hall p hp]⟩⟩)
    · rw [hredundant]
      refine hflushes (List.forall_mem_cons.mpr ⟨rfl, hall⟩) ?_ rfl
      rw [hpackets', hpackets, List.append_assoc]
      rfl
    · rw [hredundant]
  · simp only
    by_cases hblocked : error.kind = .wouldBlock
    · rw [if_pos hblocked]
      exact .inr (.inr ⟨_, rfl, hflushes hnone hpackets rfl, rfl⟩)
    · rw [if_neg hblocked]
      exact .inl ⟨error, _, rfl, hblocked, hflushes hnone hpackets rfl⟩

theorem flushLoop_flushes (entries : List (DeviceId × PendingPointer)) (sent : ℕ)
    (path : PointerDatagramPath) :
    (∃ extra, Flushes P Q extra path (flushLoop entries sent path).2)
      ∧ ∀ error, (flushLoop entries sent path).1 = .error error → error.kind ≠ .wouldBlock := by
  induction entries generalizing sent path with
  | nil => exact ⟨⟨[], .refl path⟩, fun _ h => nomatch h⟩
  | cons entry rest ih =>
    obtain ⟨device, pointer⟩ := entry
    rcases flushLoop_cons (P := P) (Q := Q) device pointer rest sent path with
      ⟨error, path₁, hloop, hkind, hflushes⟩ | ⟨path₁, extra, hloop, hflushes, -⟩
        | ⟨path₁, hloop, hflushes, -⟩
    · rw [hloop]
      exact ⟨⟨[], hflushes⟩, fun _ h => Except.error.inj h ▸ hkind⟩
    all_goals
      rw [hloop]
      obtain ⟨⟨extra', hrest⟩, hkind⟩ := ih _ path₁
      exact ⟨⟨_, hflushes.trans hrest⟩, hkind⟩

/-- The motion that the path has accepted from a device waits in `pending` or
    has left in the last datagram of the device. -/
structure Carrying (device : DeviceId) (path : PointerDatagramPath) : Prop where
  waiting : ∀ pointer, path.pending.get? device = some pointer →
    path.sentTotals.get? device = some pointer.totals
  left : path.pending.get? device = none →
    lastTotals device path.socket.packets = path.sentTotals.get? device

section

variable {device}

theorem Carrying.congr (hc : path.Carrying device)
    (hpending : path'.pending.get? device = path.pending.get? device)
    (hsent : path'.sentTotals.get? device = path.sentTotals.get? device)
    (hlast : lastTotals device path'.socket.packets = lastTotals device path.socket.packets) :
    path'.Carrying device := by
  constructor
  · rw [hpending, hsent]
    exact hc.waiting
  · rw [hpending, hsent, hlast]
    exact hc.left

theorem Answers.carrying (h : Answers P Q path path') (hc : path.Carrying device) :
    path'.Carrying device := by
  obtain ⟨extra, ht, hn⟩ := h.transmits
  have hnone : lastTotals device extra = none := by
    rw [lastTotals, List.getLast?_eq_none_iff]
    exact List.filterMap_eq_nil_iff.mpr fun packet hmem => hn packet hmem device
  refine hc.congr (by rw [h.pending]) (by rw [ht.sentTotals]) ?_
  rw [ht.packets, lastTotals_append, hnone]
  rfl

/-- Datagrams of one device carry its totals, and none of another device. -/
theorem lastTotals_pointer (device : DeviceId) {d : DeviceId} {timestampNs : ℕ} {totals : F64 × F64}
    (h : ∀ p ∈ extra, p.payload = .pointer d timestampNs totals) (hne : extra ≠ []) :
    lastTotals device extra = if d = device then some totals else none := by
  have hmap : extra.filterMap (·.totalsOf device)
      = extra.filterMap fun _ => if d = device then some totals else none :=
    List.filterMap_congr fun p hp => by rw [Datagram.totalsOf, h p hp]
  rw [lastTotals, hmap]
  split_ifs with hd
  · rw [List.filterMap_eq_map', List.getLast?_map]
    cases hlast : extra.getLast? with
    | none => exact absurd (List.getLast?_eq_none_iff.mp hlast) hne
    | some packet => rfl
  · rw [List.filterMap_none]
    rfl

/-- A loop of `flush_pending` that goes through carries the totals of the device on. -/
theorem flushLoop_carrying {entries : List (DeviceId × PendingPointer)} {sent count : ℕ}
    (hok : flushLoop entries sent path = (.ok count, path')) (hnodup : (entries.map Prod.fst).Nodup)
    (hfresh : ∀ d ∈ entries.map Prod.fst, path.pending.get? d = none)
    (hentries : ∀ pointer, (device, pointer) ∈ entries →
      path.sentTotals.get? device = some pointer.totals)
    (hcarrying : device ∉ entries.map Prod.fst → path.Carrying device) : path'.Carrying device := by
  induction entries generalizing sent path with
  | nil =>
    cases hok
    exact hcarrying List.not_mem_nil
  | cons entry rest ih =>
    obtain ⟨d, pointer⟩ := entry
    rw [List.map_cons, List.nodup_cons] at hnodup
    have hnext {path₁ : PointerDatagramPath} (hsent : path₁.sentTotals = path.sentTotals)
        (hpending : ∀ d' ∈ rest.map Prod.fst, path₁.pending.get? d' = path.pending.get? d')
        (hc : device ∉ rest.map Prod.fst → path₁.Carrying device) {sent : ℕ}
        (hok : flushLoop rest sent path₁ = (.ok count, path')) : path'.Carrying device :=
      ih hok hnodup.2
        (fun d' hd' => by rw [hpending d' hd', hfresh d' (List.mem_cons_of_mem _ hd')])
        (fun p hp => by rw [hsent, hentries p (List.mem_cons_of_mem _ hp)]) hc
    rcases flushLoop_cons (P := fun _ => True) (Q := fun _ => True) d pointer rest sent path with
      ⟨error, path₁, hloop, -⟩ | ⟨path₁, extra, hloop, hflushes, hpending, hne, hall⟩
        | ⟨path₁, hloop, hflushes, hpending⟩
    · rw [hloop] at hok
      cases (Prod.mk.inj hok).1
    · rw [hloop] at hok
      refine hnext hflushes.sentTotals (fun _ _ => by rw [hpending]) (fun hrest => ?_) hok
      have hlast := lastTotals_pointer device hall hne
      by_cases hd : d = device
      · subst hd
        rw [if_pos rfl] at hlast
        refine ⟨fun p hp => ?_, fun _ => ?_⟩
        · rw [hpending, hfresh d List.mem_cons_self] at hp
          cases hp
        · rw [hflushes.packets, lastTotals_append, hlast, hflushes.sentTotals,
            hentries pointer List.mem_cons_self]
          rfl
      · rw [if_neg hd] at hlast
        refine (hcarrying (by simpa [Ne.symm hd] using hrest)).congr (by rw [hpending])
          (by rw [hflushes.sentTotals]) ?_
        rw [hflushes.packets, lastTotals_append, hlast]
        rfl
    · rw [hloop] at hok
      refine hnext hflushes.sentTotals (fun d' hd' => ?_) (fun hrest => ?_) hok
      · rw [hpending, OrdMap.get?_insert, if_neg fun (h : d' = d) => hnodup.1 (h ▸ hd')]
      · by_cases hd : d = device
        · subst hd
          refine ⟨fun p hp => ?_, fun hnone => ?_⟩
          · rw [hpending, OrdMap.get?_insert_self] at hp
            cases hp
            rw [hflushes.sentTotals, hentries pointer List.mem_cons_self]
          · rw [hpending, OrdMap.get?_insert_self] at hnone
            cases hnone
        · refine (hcarrying (by simpa [Ne.symm hd] using hrest)).congr ?_
            (by rw [hflushes.sentTotals]) (by rw [hflushes.packets, List.append_nil])
          rw [hpending, OrdMap.get?_insert, if_neg (Ne.symm hd)]

end

theorem flushPending_spec (path : PointerDatagramPath) (now : ℕ) :
    (∃ extra, Flushes P Q extra path (path.flushPending now).2)
      ∧ (∀ error, (path.flushPending now).1 = .error error → error.kind ≠ .wouldBlock)
      ∧ ∀ count, (path.flushPending now).1 = .ok count → ∀ device, path.Carrying device →
        (path.flushPending now).2.Carrying device := by
  unfold flushPending
  split
  · exact ⟨⟨[], .refl path⟩, (fun _ h => nomatch h), fun _ _ _ h => h⟩
  have hflushes := flushLoop_flushes (P := P) (Q := Q) path.pending.entries 0
    { path with pending := ∅ }
  cases hloop : flushLoop path.pending.entries 0 { path with pending := ∅ } with
  | mk result path₁ =>
    rw [hloop] at hflushes
    obtain ⟨⟨extra, hf⟩, hkind⟩ := hflushes
    have hf' {path' : PointerDatagramPath} (hsame : path' = { path₁ with
        lastPointerSend := path'.lastPointerSend, recentlySent := path'.recentlySent }) :
        Flushes P Q extra path path' := by
      rw [hsame]
      exact { hf with }
    cases result with
    | error error => exact ⟨⟨extra, hf' rfl⟩, hkind, fun _ h => nomatch h⟩
    | ok count =>
      have hcarrying (device : DeviceId) (hc : path.Carrying device) : path₁.Carrying device := by
        refine flushLoop_carrying hloop path.pending.nodup_keys (fun _ _ => OrdMap.get?_empty _)
          (fun pointer hmem => hc.waiting pointer (OrdMap.mem_entries.mp hmem))
          (fun hnot => ⟨fun _ hget => ?_, fun _ => ?_⟩)
        · rw [OrdMap.get?_empty] at hget
          cases hget
        · refine hc.left ?_
          cases hget : path.pending.get? device with
          | none => rfl
          | some pointer =>
            exact absurd (OrdMap.mem_keys.mpr ⟨pointer, hget⟩) hnot
      simp only
      split
      · exact ⟨⟨extra, hf' rfl⟩, (fun _ h => nomatch h),
          fun _ _ device hc => (hcarrying device hc).congr rfl rfl rfl⟩
      · exact ⟨⟨extra, hf' rfl⟩, (fun _ h => nomatch h), fun _ _ device hc => hcarrying device hc⟩

/-- The path with the totals of a move accepted, before anything is sent. -/
def accept (path : PointerDatagramPath) (input : InputEventV1) (totals : F64 × F64) :
    PointerDatagramPath :=
  { path with
    sentTotals := path.sentTotals.insert input.sourceDevice totals
    pending := path.pending.insert input.sourceDevice ⟨input.timestampNs, totals⟩ }

theorem accept_carrying (input : InputEventV1) (totals : F64 × F64) {device : DeviceId}
    (h : path.Carrying device) : (path.accept input totals).Carrying device := by
  unfold accept
  by_cases hd : device = input.sourceDevice
  · subst hd
    refine ⟨fun pointer hget => ?_, fun hnone => ?_⟩
    · simp only [OrdMap.get?_insert_self] at hget ⊢
      cases hget
      rfl
    · simp only [OrdMap.get?_insert_self] at hnone
      cases hnone
  · exact h.congr (by simp only [OrdMap.get?_insert, hd, if_false])
      (by simp only [OrdMap.get?_insert, hd, if_false]) rfl

theorem queueTotals_spec (path : PointerDatagramPath) (input : InputEventV1) (totals : F64 × F64)
    (now : ℕ) :
    (∃ extra, Flushes P Q extra (path.accept input totals) (path.queueTotals input totals now).2)
      ∧ ((∃ error, (path.queueTotals input totals now).1 = .error error
          ∧ error.kind ≠ .wouldBlock)
        ∨ (path.queueTotals input totals now).1 = .ok true
          ∧ ∀ device, path.Carrying device →
            (path.queueTotals input totals now).2.Carrying device) := by
  obtain ⟨hflushes, hkind, hcarrying⟩ := flushPending_spec (path.accept input totals) now
  unfold queueTotals
  simp only
  split
  · exact ⟨⟨[], .refl _⟩, .inr ⟨rfl, fun device hc => accept_carrying input totals hc⟩⟩
  · change (∃ extra, Flushes P Q extra _ ((path.accept input totals).flushPending now).2)
      ∧ ((∃ error, Except.map _ ((path.accept input totals).flushPending now).1 = _ ∧ _)
        ∨ Except.map _ ((path.accept input totals).flushPending now).1 = _
          ∧ ∀ device, _ → Carrying device ((path.accept input totals).flushPending now).2)
    refine ⟨hflushes, ?_⟩
    cases hresult : ((path.accept input totals).flushPending now).1 with
    | error error => exact .inl ⟨error, rfl, hkind error hresult⟩
    | ok count =>
      exact .inr ⟨rfl, fun device hc => hcarrying count hresult device
        (accept_carrying input totals hc)⟩

/-- The totals of a device after one more move. -/
def nextTotals [F64Arith] (path : PointerDatagramPath) (input : InputEventV1)
    (dx dy : F64) : F64 × F64 :=
  let previous := (path.sentTotals.get? input.sourceDevice).getD (.finite 0, .finite 0)
  (F64Arith.add previous.1 dx, F64Arith.add previous.2 dy)

/-- `try_send_pointer` leaves the message alone, refuses it before it has
    changed anything, or accepts its move and then flushes. -/
theorem trySendPointer_cases [F64Arith] (path : PointerDatagramPath)
    (message : WireMessage) (now : ℕ) :
    path.trySendPointer message now = (.ok false, path)
    ∨ (∃ error, path.trySendPointer message now = (.error error, path)
      ∧ error.kind ≠ .wouldBlock)
    ∨ ∃ input dx dy, message = .input input ∧ input.payload = .pointerMove dx dy
      ∧ (∃ extra, Flushes P Q extra (path.accept input (path.nextTotals input dx dy))
          (path.trySendPointer message now).2)
      ∧ ((∃ error, (path.trySendPointer message now).1 = .error error
          ∧ error.kind ≠ .wouldBlock)
        ∨ (path.trySendPointer message now).1 = .ok true
          ∧ ∀ device, path.Carrying device →
            (path.trySendPointer message now).2.Carrying device) := by
  unfold trySendPointer
  split
  · exact .inl rfl
  cases message with
  | input input =>
    simp only
    cases hpayload : input.payload with
    | pointerMove dx dy =>
      simp only
      split
      · exact .inr (.inl ⟨_, rfl, nofun⟩)
      split
      · exact .inr (.inl ⟨_, rfl, nofun⟩)
      refine .inr (.inr ⟨input, dx, dy, rfl, hpayload, ?_⟩)
      exact queueTotals_spec path input (path.nextTotals input dx dy) now
    | _ => exact .inl rfl
  | _ => exact .inl rfl

/-! ### Receiving -/

/-- A datagram behind the last one is dropped. -/
def Fresh (path : PointerDatagramPath) (sequence : ℕ) : Prop :=
  ∀ last, path.receiveSequence = some last → last < sequence

theorem fresh_iff {sequence : ℕ} : path.Fresh sequence ↔
    (path.receiveSequence.any fun last => decide (sequence ≤ last)) = false := by
  unfold Fresh
  cases path.receiveSequence with
  | none => simp
  | some last => simp

/-- What an arrival does to the totals that the path has received: nothing, or
    one fresh datagram moves one device. -/
inductive Receives [F64Arith] (arrival : Arrival) (path : PointerDatagramPath)
    (result : Except IoError DatagramReceive) (path' : PointerDatagramPath) : Prop
  | nothing (hinput : ∀ observation, result = .ok observation → observation.input = none)
      (htotals : path'.receivedTotals = path.receivedTotals)
      (hsequence : ∀ last, path.receiveSequence = some last →
        ∃ last', path'.receiveSequence = some last' ∧ last ≤ last')
      (hpointer : ∀ sequence device timestampNs totals,
        arrival = .authentic ⟨sequence, .pointer device timestampNs totals⟩ →
        path.Fresh sequence → ∃ error, result = .error error)
  | moved {sequence timestampNs gaps recovery : ℕ} {device : DeviceId} {totals : F64 × F64}
      (harrival : arrival = .authentic ⟨sequence, .pointer device timestampNs totals⟩)
      (hfresh : path.Fresh sequence)
      (hfinite : totals.1.isFinite = true ∧ totals.2.isFinite = true)
      (hresult : result = .ok ⟨some ⟨sequence, timestampNs, path'.remoteHost, device, .pointerMove
        (F64Arith.sub totals.1 ((path.receivedTotals.get? device).getD (.finite 0, .finite 0)).1)
        (F64Arith.sub totals.2 ((path.receivedTotals.get? device).getD (.finite 0, .finite 0)).2)⟩,
        gaps, recovery, []⟩)
      (htotals : path'.receivedTotals = path.receivedTotals.insert device totals)
      (hsequence : path'.receiveSequence = some sequence)

/-- What is handed out was buffered. -/
theorem takeReady_sends (fuel : ℕ) (path : PointerDatagramPath) :
    Sends P Q path (takeReady fuel path).2
      ∧ (path.Copies P Q → ∀ message ∈ (takeReady fuel path).1, Q message) := by
  induction fuel generalizing path with
  | zero => exact ⟨.refl path, fun _ => List.forall_mem_nil _⟩
  | succ fuel ih =>
    unfold takeReady
    split
    · exact ⟨.refl path, fun _ => List.forall_mem_nil _⟩
    · rename_i message hget
      have htaken : Sends P Q path { path with
          reliableReceived := path.reliableReceived.erase path.reliableReceiveSequence
          reliableReceiveSequence := path.reliableReceiveSequence + 1 } :=
        ⟨.of_same rfl rfl rfl rfl fun h =>
          { h with received := OrdMap.forall_erase _ h.received _ }, rfl, rfl⟩
      obtain ⟨hsends, hmessages⟩ := ih { path with
        reliableReceived := path.reliableReceived.erase path.reliableReceiveSequence
        reliableReceiveSequence := path.reliableReceiveSequence + 1 }
      exact ⟨htaken.trans hsends, fun hcopies => List.forall_mem_cons.mpr
        ⟨hcopies.received _ message hget, hmessages (htaken.copies hcopies)⟩⟩

/-- A shadow copy moves no device. -/
theorem receiveReliable_sends (path : PointerDatagramPath) (sequence : ℕ) {message : WireMessage}
    (hmessage : Q message) (gaps : ℕ) :
    Sends P Q path (path.receiveReliable sequence message gaps).2
      ∧ (∀ observation, (path.receiveReliable sequence message gaps).1 = .ok observation →
        observation.input = none)
      ∧ (path.Copies P Q → HandsOut Q (path.receiveReliable sequence message gaps).1) := by
  unfold receiveReliable
  split
  · exact ⟨.refl path, (fun _ h => nomatch h), fun _ => handsOut_error⟩
  have hbuffered : Sends P Q path (path.bufferReliable sequence message) := by
    unfold bufferReliable
    split
    · exact ⟨.of_same rfl rfl rfl rfl fun h =>
        { h with received := OrdMap.forall_insert _ h.received hmessage }, rfl, rfl⟩
    · exact .refl path
  obtain ⟨hready, hmessages⟩ := takeReady_sends (P := P) (Q := Q)
    (path.bufferReliable sequence message).reliableReceived.size
    (path.bufferReliable sequence message)
  simp only
  generalize takeReady _ _ = taken at hready hmessages ⊢
  obtain ⟨messages, path₁⟩ := taken
  have hhands (hcopies : path.Copies P Q) : HandsOut Q (.ok ⟨none, gaps, 0, messages⟩) := by
    intro observation hobservation
    rw [← Except.ok.inj hobservation]
    exact hmessages (hbuffered.copies hcopies)
  split
  · have hack : Sends P Q path₁
        (path₁.sendIgnored (.reliableAck (path₁.reliableReceiveSequence - 1))).2 :=
      (sends_payload path₁ (.reliableAck _) (fun _ _ => rfl) trivial).2
    refine ⟨(hbuffered.trans hready).trans hack, ?_⟩
    generalize (path₁.sendIgnored _).1 = sent
    cases sent with
    | error _ => exact ⟨(fun _ h => nomatch h), fun _ => handsOut_error⟩
    | ok _ => exact ⟨fun _ h => by cases h; rfl, hhands⟩
  · exact ⟨hbuffered.trans hready, fun _ h => by cases h; rfl, hhands⟩

/-- A datagram that passed the replay check, received after the path has noted its number. -/
theorem receivePayload_receives [F64Arith] (start path : PointerDatagramPath) {packet : Datagram}
    (hcopies : path.Copies P Q) (hpacket : packet.payload.Shadows Q)
    (htotals : path.receivedTotals = start.receivedTotals)
    (hsequence : path.receiveSequence = some packet.sequence) (hfresh : start.Fresh packet.sequence)
    (gaps : ℕ) :
    Receives (.authentic packet) start (path.receivePayload packet gaps).1
        (path.receivePayload packet gaps).2
      ∧ Answers P Q path (path.receivePayload packet gaps).2
      ∧ HandsOut Q (path.receivePayload packet gaps).1 := by
  have hlater {path' : PointerDatagramPath} (h : path'.receiveSequence = path.receiveSequence) :
      ∀ last, start.receiveSequence = some last →
        ∃ last', path'.receiveSequence = some last' ∧ last ≤ last' :=
    fun last hlast => ⟨packet.sequence, h.trans hsequence, (hfresh last hlast).le⟩
  obtain ⟨number, payload⟩ := packet
  cases payload with
  | probe =>
    exact ⟨.nothing (fun _ h => by cases h; rfl) htotals (hlater rfl) nofun,
      .of_same rfl rfl rfl rfl id, handsOut_nothing⟩
  | feedback =>
    exact ⟨.nothing (fun _ h => by cases h; rfl) htotals (hlater rfl) nofun,
      .of_same rfl rfl rfl rfl id, handsOut_nothing⟩
  | reliableAck acknowledged =>
    exact ⟨.nothing (fun _ h => by cases h; rfl) htotals (hlater rfl) nofun,
      .of_same rfl rfl rfl rfl (·.filterPending fun number _ => decide (number > acknowledged)),
      handsOut_nothing⟩
  | reliable sequence message =>
    obtain ⟨hsends, hinput, hhands⟩ := path.receiveReliable_sends (P := P) sequence hpacket gaps
    exact ⟨.nothing hinput (hsends.receivedTotals.trans htotals) (hlater hsends.receiveSequence)
      nofun, hsends.toAnswers, hhands hcopies⟩
  | pointer device timestampNs totals =>
    simp only [receivePayload, receivePointer]
    split
    · exact ⟨.nothing (fun _ h => nomatch h) htotals (hlater rfl) fun _ _ _ _ _ _ => ⟨_, rfl⟩,
        .refl path, handsOut_error⟩
    rename_i hfinite
    split
    · exact ⟨.nothing (fun _ h => nomatch h) htotals (hlater rfl) fun _ _ _ _ _ _ => ⟨_, rfl⟩,
        .refl path, handsOut_error⟩
    · rw [htotals]
      exact ⟨.moved rfl hfresh (by simpa using hfinite) rfl rfl hsequence,
        .of_same rfl rfl rfl rfl id, handsOut_nothing⟩

/-- One arrival at a path, of a peer whose shadow copies satisfy `Q`. -/
theorem receive_receives [F64Arith] (hcopies : path.Copies P Q) (arrival : Arrival)
    (harrival : ∀ packet, arrival = .authentic packet → packet.payload.Shadows Q) :
    Receives arrival path (path.receive arrival).1 (path.receive arrival).2
      ∧ Answers P Q path (path.receive arrival).2 ∧ HandsOut Q (path.receive arrival).1 := by
  have hnothing {result : Except IoError DatagramReceive}
      (hinput : ∀ observation, result = .ok observation → observation = .default)
      (hpointer : ∀ sequence device timestampNs totals,
        arrival = .authentic ⟨sequence, .pointer device timestampNs totals⟩ →
        path.Fresh sequence → ∃ error, result = .error error) :
      Receives arrival path result path ∧ Answers P Q path path ∧ HandsOut Q result := by
    refine ⟨.nothing (fun o ho => hinput o ho ▸ rfl) rfl (fun last hlast => ⟨last, hlast, le_rfl⟩)
      hpointer, .refl path, fun o ho m hm => ?_⟩
    rw [hinput o ho] at hm
    cases hm
  cases arrival with
  | malformed => exact hnothing (fun _ h => by cases h; rfl) nofun
  | forged sequence =>
    unfold receive
    simp only
    split
    · exact hnothing (fun _ h => by cases h; rfl) nofun
    · exact hnothing (fun _ h => nomatch h) nofun
  | authentic packet =>
    have hpacket := harrival packet rfl
    unfold receive
    simp only
    split
    · rename_i hstale
      refine hnothing (fun _ h => by cases h; rfl) fun sequence _ _ _ heq hfresh => ?_
      cases heq
      rw [fresh_iff.mp hfresh] at hstale
      cases hstale
    · rename_i hnew
      have hfresh : path.Fresh packet.sequence := fresh_iff.mpr (by simpa using hnew)
      have hnoted : Answers P Q path { path with receiveSequence := some packet.sequence } :=
        .of_same rfl rfl rfl rfl id
      split
      · have hfeedback : Sends P Q { path with receiveSequence := some packet.sequence }
            (sendIgnored { path with receiveSequence := some packet.sequence } .feedback).2 :=
          (sends_payload _ .feedback (fun _ _ => rfl) trivial).2
        generalize sendIgnored _ DatagramPayload.feedback = r at hfeedback ⊢
        obtain ⟨error | _, path₁⟩ := r
        · refine ⟨.nothing (fun _ h => nomatch h) hfeedback.receivedTotals (fun last hlast => ?_)
            fun _ _ _ _ _ _ => ⟨error, rfl⟩, hnoted.trans hfeedback.toAnswers, handsOut_error⟩
          exact ⟨_, hfeedback.receiveSequence, (hfresh last hlast).le⟩
        · obtain ⟨hreceives, hanswers, hhands⟩ := receivePayload_receives path path₁
            (hfeedback.copies hcopies) hpacket hfeedback.receivedTotals hfeedback.receiveSequence
            hfresh _
          exact ⟨hreceives, (hnoted.trans hfeedback.toAnswers).trans hanswers, hhands⟩
      · obtain ⟨hreceives, hanswers, hhands⟩ := receivePayload_receives path
          { path with receiveSequence := some packet.sequence } hcopies hpacket rfl rfl hfresh
          ((path.receiveSequence.map fun last => packet.sequence - last - 1).getD 0)
        exact ⟨hreceives, hnoted.trans hanswers, hhands⟩

end PointerDatagramPath

end SoftwareKvm
