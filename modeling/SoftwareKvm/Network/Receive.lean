import SoftwareKvm.Wire.Frame

/-!
# Receiving a stream of frames

Models of `read_and_drain` (`kvm-network/src/codec.rs`, lines 113–208) and of
the branch of `run_session_with_stats` that dispatches what it decoded
(`peer.rs`, lines 1759–1787). A call decodes every complete frame of its buffer
before the first of them is handed to `handle_inbound`; when one of them is
malformed the call fails, and the frames decoded before it are dropped with it.

The transport is the list of its reads. Whether `handle_inbound` accepts a
message is an arbitrary function of the messages before it, so that time,
heartbeats and the event channel may decide in any way.

* `received_eq_iff`: a session dispatches the well-formed frames in front of the
  first malformed one exactly when the read that reveals the malformed frame
  completes no other frame.
* `received_drops_frame`: the same bytes in one and in two reads.
-/

namespace SoftwareKvm

open Lib

variable {M ε : Type}

/-- The `for` loop over `handle_inbound`: the messages handed over so far, and
    whether all of them were accepted. -/
def dispatch (accepts : List M → M → Bool) (dispatched : List M) : List M → List M × Bool
  | [] => (dispatched, true)
  | message :: rest =>
    if accepts dispatched message then dispatch accepts (dispatched ++ [message]) rest
    else (dispatched ++ [message], false)

/-- The receiving part of a session. -/
structure Receiver (M : Type) where
  buffer : List UInt8
  dispatched : List M
  ended : Bool

namespace Receiver

variable (d : FrameDecoder UInt8 ε M) (accepts : List M → M → Bool)

/-- `read_and_drain` with `chunk` as the next read: the decoded messages unless
    it fails, the buffer, and whether the read was taken. -/
def readAndDrain (buffer chunk : List UInt8) : Option (List M) × List UInt8 × Bool :=
  let buffered := d.drain buffer
  if buffered.error.isSome then (none, buffered.rest, false)
  else if !buffered.messages.isEmpty then (some buffered.messages, buffered.rest, false)
  else if chunk.isEmpty then (none, buffered.rest, true)
  else
    let drained := d.drain (buffered.rest ++ chunk)
    if drained.error.isSome then (none, drained.rest, true)
    else (some drained.messages, drained.rest, true)

/-- One round of the session, and whether it took the read. -/
def round (receiver : Receiver M) (chunk : List UInt8) : Receiver M × Bool :=
  match readAndDrain d receiver.buffer chunk with
  | (none, buffer, taken) => ({ receiver with buffer, ended := true }, taken)
  | (some messages, buffer, taken) =>
    let (dispatched, accepted) := dispatch accepts receiver.dispatched messages
    (⟨buffer, dispatched, !accepted⟩, taken)

/-- The session up to the round that takes the read; a round that finds frames in
    the buffer leaves no complete one to the next. -/
def receive (receiver : Receiver M) (chunk : List UInt8) : Receiver M :=
  if receiver.ended then receiver
  else
    let (receiver, taken) := round d accepts receiver chunk
    if taken || receiver.ended then receiver else (round d accepts receiver chunk).1

/-- The messages that a session hands to `handle_inbound`. -/
def received (reads : List (List UInt8)) : List M :=
  (reads.foldl (receive d accepts) ⟨[], [], false⟩).dispatched

end Receiver

/-! ## Dispatching -/

section Dispatch

variable {accepts : List M → M → Bool}

theorem dispatch_append (dispatched first second : List M) :
    dispatch accepts dispatched (first ++ second) =
      if (dispatch accepts dispatched first).2 then
        dispatch accepts (dispatched ++ first) second
      else dispatch accepts dispatched first := by
  induction first generalizing dispatched with
  | nil => simp [dispatch]
  | cons message first ih =>
    rw [List.cons_append, dispatch, dispatch]
    by_cases h : accepts dispatched message
    · rw [if_pos h, if_pos h, ih, List.append_assoc, List.singleton_append]
    · simp [h]

theorem dispatch_fst_of_accepted {dispatched messages : List M}
    (h : (dispatch accepts dispatched messages).2 = true) :
    (dispatch accepts dispatched messages).1 = dispatched ++ messages := by
  induction messages generalizing dispatched with
  | nil => simp [dispatch]
  | cons message rest ih =>
    unfold dispatch at h ⊢
    by_cases haccepts : accepts dispatched message
    · rw [if_pos haccepts] at h ⊢
      rw [ih h, List.append_assoc, List.singleton_append]
    · simp [haccepts] at h

theorem dispatch_fst_ne {dispatched : List M} {message : M} {rest : List M} :
    (dispatch accepts dispatched (message :: rest)).1 ≠ dispatched := by
  have hlonger : ∀ (acc messages : List M),
      acc.length ≤ (dispatch accepts acc messages).1.length := by
    intro acc messages
    induction messages generalizing acc with
    | nil => simp [dispatch]
    | cons message rest ih =>
      unfold dispatch
      split
      · exact Nat.le_trans (by simp) (ih (acc ++ [message]))
      · simp
  intro h
  have hlength := congrArg List.length h
  unfold dispatch at hlength
  split at hlength
  · have := hlonger (dispatched ++ [message]) rest
    simp only [List.length_append, List.length_singleton] at this
    omega
  · simp at hlength

end Dispatch

/-! ## Splitting a stream -/

namespace Receiver

open FrameDecoder

variable {d : FrameDecoder UInt8 ε M} {accepts : List M → M → Bool}

/-- The read that reveals a malformed frame, if every message before that read
    was accepted, completes no frame. -/
def RevealedAlone (d : FrameDecoder UInt8 ε M) (accepts : List M → M → Bool)
    (buffer : List UInt8) (dispatched : List M) (reads : List (List UInt8)) : Prop :=
  ∀ before chunk after, reads = before ++ chunk :: after →
    (d.drain (buffer ++ before.flatten)).error = none →
    (dispatch accepts dispatched (d.drain (buffer ++ before.flatten)).messages).2 = true →
    (d.drain (buffer ++ before.flatten ++ chunk)).error.isSome →
    (d.drain (buffer ++ before.flatten ++ chunk)).messages
      = (d.drain (buffer ++ before.flatten)).messages

theorem foldl_receive_of_ended {receiver : Receiver M} (h : receiver.ended = true)
    (reads : List (List UInt8)) : reads.foldl (receive d accepts) receiver = receiver := by
  induction reads with
  | nil => rfl
  | cons chunk reads ih =>
    rw [List.foldl_cons]
    have hsame : receive d accepts receiver chunk = receiver := by simp [receive, h]
    rw [hsame, ih]

variable {buffer : List UInt8} {dispatched : List M} {reads : List (List UInt8)}

/-- A call whose buffer holds no complete frame reads. -/
theorem readAndDrain_of_incomplete {chunk : List UInt8}
    (hbuffer : d.decode buffer = .ok none) (hchunk : chunk ≠ []) :
    readAndDrain d buffer chunk =
      if (d.drain (buffer ++ chunk)).error.isSome then
        (none, (d.drain (buffer ++ chunk)).rest, true)
      else (some (d.drain (buffer ++ chunk)).messages, (d.drain (buffer ++ chunk)).rest, true) := by
  simp [readAndDrain, drain_of_none hbuffer, hchunk]

/-- After a first read with a malformed frame the rest of the stream does not matter. -/
theorem revealedAlone_cons_of_error {chunk : List UInt8} (hbuffer : d.decode buffer = .ok none)
    (herror : (d.drain (buffer ++ chunk)).error.isSome) :
    RevealedAlone d accepts buffer dispatched (chunk :: reads) ↔
      (d.drain (buffer ++ chunk)).messages = [] := by
  have hdrain := drain_of_none hbuffer
  constructor
  · intro halone
    have := halone [] chunk reads rfl (by simp [hdrain]) (by simp [hdrain, dispatch])
      (by simpa using herror)
    simpa [hdrain] using this
  · intro hempty before chunk' after hreads hnone _ _
    cases before with
    | nil =>
      obtain ⟨rfl, -⟩ := List.cons.inj hreads
      simpa [hdrain] using hempty
    | cons first before =>
      obtain ⟨rfl, -⟩ := List.cons.inj hreads
      obtain ⟨error, herror⟩ := Option.isSome_iff_exists.mp herror
      rw [List.flatten_cons, ← List.append_assoc,
        drain_append_of_error herror] at hnone
      cases hnone

/-- After a first read without one the condition is that on the other reads. -/
theorem revealedAlone_cons_of_none {chunk : List UInt8}
    (hnone : (d.drain (buffer ++ chunk)).error = none)
    (haccepted : (dispatch accepts dispatched (d.drain (buffer ++ chunk)).messages).2 = true) :
    RevealedAlone d accepts buffer dispatched (chunk :: reads) ↔
      RevealedAlone d accepts (d.drain (buffer ++ chunk)).rest
        (dispatched ++ (d.drain (buffer ++ chunk)).messages) reads := by
  have hdrain := drain_append hnone
  constructor
  · intro halone before chunk' after hreads herror hmessages hsome
    have := halone (chunk :: before) chunk' after (by rw [hreads]; rfl)
    simp only [List.flatten_cons, ← List.append_assoc] at this
    rw [List.append_assoc (buffer ++ chunk) before.flatten chunk', hdrain, hdrain,
      dispatch_append, if_pos haccepted] at this
    simpa using this herror hmessages (by simpa using hsome)
  · intro halone before chunk' after hreads herror hmessages hsome
    cases before with
    | nil =>
      obtain ⟨rfl, -⟩ := List.cons.inj hreads
      simp [hnone] at hsome
    | cons first before =>
      obtain ⟨rfl, hrest⟩ := List.cons.inj hreads
      simp only [List.flatten_cons, ← List.append_assoc] at herror hmessages hsome ⊢
      rw [hdrain] at herror hmessages
      rw [dispatch_append, if_pos haccepted] at hmessages
      rw [List.append_assoc (buffer ++ chunk) before.flatten chunk', hdrain] at hsome ⊢
      rw [hdrain before.flatten]
      have := halone before chunk' after hrest herror hmessages (by simpa using hsome)
      simpa using this

/-- The receiving loop from a buffer without a complete frame. -/
theorem foldl_receive_iff (hbuffer : d.decode buffer = .ok none)
    (hreads : ∀ chunk ∈ reads, chunk ≠ []) :
    (reads.foldl (receive d accepts) ⟨buffer, dispatched, false⟩).dispatched =
        (dispatch accepts dispatched (d.drain (buffer ++ reads.flatten)).messages).1 ↔
      RevealedAlone d accepts buffer dispatched reads := by
  induction reads generalizing buffer dispatched with
  | nil => simp [drain_of_none hbuffer, dispatch, RevealedAlone]
  | cons chunk reads ih =>
    have hchunk := readAndDrain_of_incomplete hbuffer (hreads chunk List.mem_cons_self)
    have hreads' : ∀ chunk ∈ reads, chunk ≠ [] := fun c hc =>
      hreads c (List.mem_cons_of_mem _ hc)
    rw [List.foldl_cons, List.flatten_cons, ← List.append_assoc]
    cases herror : (d.drain (buffer ++ chunk)).error with
    | some error =>
      have hsome : (d.drain (buffer ++ chunk)).error.isSome := by simp [herror]
      have hreceive : receive d accepts ⟨buffer, dispatched, false⟩ chunk =
          ⟨(d.drain (buffer ++ chunk)).rest, dispatched, true⟩ := by
        simp [receive, round, hchunk, herror]
      rw [hreceive, foldl_receive_of_ended rfl, revealedAlone_cons_of_error hbuffer hsome,
        drain_append_of_error herror]
      cases (d.drain (buffer ++ chunk)).messages with
      | nil => simp [dispatch]
      | cons message rest => simpa using dispatch_fst_ne.symm
    | none =>
      have hreceive : receive d accepts ⟨buffer, dispatched, false⟩ chunk =
          ⟨(d.drain (buffer ++ chunk)).rest,
            (dispatch accepts dispatched (d.drain (buffer ++ chunk)).messages).1,
            !(dispatch accepts dispatched (d.drain (buffer ++ chunk)).messages).2⟩ := by
        simp [receive, round, hchunk, herror]
      rw [hreceive, drain_append herror, dispatch_append]
      cases haccepted : (dispatch accepts dispatched (d.drain (buffer ++ chunk)).messages).2 with
      | true =>
        rw [if_pos rfl, dispatch_fst_of_accepted haccepted,
          revealedAlone_cons_of_none herror haccepted]
        exact ih (decode_rest herror) hreads'
      | false =>
        rw [foldl_receive_of_ended rfl]
        simp only [Bool.false_eq_true, if_false, true_iff]
        intro before chunk' after hsplit _ hmessages hsome
        -- A message was refused, so no later read is looked at.
        cases before with
        | nil =>
          obtain ⟨rfl, -⟩ := List.cons.inj hsplit
          simp [herror] at hsome
        | cons first before =>
          obtain ⟨rfl, -⟩ := List.cons.inj hsplit
          rw [List.flatten_cons, ← List.append_assoc, drain_append herror,
            dispatch_append, haccepted] at hmessages
          simp [haccepted] at hmessages

/-- A session over any reads of a stream hands over the well-formed frames in
    front of the first malformed one, up to the first that is refused, exactly
    when the read that reveals the malformed frame completes no other frame. -/
theorem received_eq_iff (codec : PayloadCodec) (version : ℕ)
    (accepts : List WireMessage → WireMessage → Bool) (reads : List (List UInt8))
    (hreads : ∀ chunk ∈ reads, chunk ≠ []) :
    received (frameDecoder codec version) accepts reads =
        (dispatch accepts [] ((frameDecoder codec version).drain reads.flatten).messages).1 ↔
      RevealedAlone (frameDecoder codec version) accepts [] [] reads :=
  foldl_receive_iff (frameDecoder codec version).decode_nil hreads

/-! ## A frame in front of a malformed one -/

/-- The payload of a ping whose two numbers take one byte each. -/
def pingCodec : PayloadCodec
  | .ping, [sequence, time] => .ok (.ping ⟨sequence.toNat, time.toNat⟩)
  | _, _ => .error "unexpected payload"

/-- A ping frame of version 3. -/
def pingFrame : List UInt8 := frameMagic ++ [0, 3, 0, 50, 0, 0, 0, 2, 1, 1]

/-- Twelve bytes that are no header. -/
def malformedHeader : List UInt8 := List.replicate 12 0

theorem decode_pingFrame (more : List UInt8) :
    (frameDecoder pingCodec 3).decode (pingFrame ++ more) = .ok (some (.ping ⟨1, 1⟩, 14)) := by
  refine (frameDecoder pingCodec 3).stable more ?_
  decide +kernel

theorem drain_malformedHeader :
    (frameDecoder pingCodec 3).drain malformedHeader =
      ⟨[], malformedHeader, some (.invalidMagic [0, 0, 0, 0])⟩ := by
  refine drain_of_error ?_
  decide +kernel

theorem drain_pingFrame (more : List UInt8) :
    (frameDecoder pingCodec 3).drain (pingFrame ++ more) =
      ⟨.ping ⟨1, 1⟩ :: ((frameDecoder pingCodec 3).drain more).messages,
        ((frameDecoder pingCodec 3).drain more).rest,
        ((frameDecoder pingCodec 3).drain more).error⟩ :=
  drain_of_some (decode_pingFrame more)

/-- The reads of a ping and of a malformed header. -/
theorem received_eq_iff_ping :
    (∀ chunk ∈ [pingFrame, malformedHeader], chunk ≠ []) ∧
      (received (frameDecoder pingCodec 3) (fun _ _ => true) [pingFrame, malformedHeader] =
          (dispatch (fun _ _ => true) [] ((frameDecoder pingCodec 3).drain
            [pingFrame, malformedHeader].flatten).messages).1 ↔
        RevealedAlone (frameDecoder pingCodec 3) (fun _ _ => true) [] []
          [pingFrame, malformedHeader]) :=
  ⟨by decide, received_eq_iff pingCodec 3 _ _ (by decide)⟩

/-- A ping and a malformed header in one read: the ping is not handed over. In two reads it is. -/
theorem received_drops_frame :
    received (frameDecoder pingCodec 3) (fun _ _ => true) [pingFrame ++ malformedHeader] = [] ∧
      received (frameDecoder pingCodec 3) (fun _ _ => true) [pingFrame, malformedHeader]
        = [.ping ⟨1, 1⟩] := by
  have hstart : (frameDecoder pingCodec 3).decode [] = .ok none := rfl
  have hboth : readAndDrain (frameDecoder pingCodec 3) [] (pingFrame ++ malformedHeader)
      = (none, malformedHeader, true) := by
    rw [readAndDrain_of_incomplete hstart (by decide), List.nil_append, drain_pingFrame,
      drain_malformedHeader]
    rfl
  have hfirst : readAndDrain (frameDecoder pingCodec 3) [] pingFrame
      = (some [.ping ⟨1, 1⟩], [], true) := by
    have hping := drain_pingFrame []
    rw [List.append_nil, drain_nil] at hping
    rw [readAndDrain_of_incomplete hstart (by decide), List.nil_append, hping]
    rfl
  have hsecond : readAndDrain (frameDecoder pingCodec 3) [] malformedHeader
      = (none, malformedHeader, true) := by
    rw [readAndDrain_of_incomplete hstart (by decide), List.nil_append, drain_malformedHeader]
    rfl
  constructor
  · simp [received, receive, round, hboth]
  · simp [received, receive, round, hfirst, hsecond, dispatch]

end Receiver

end SoftwareKvm
