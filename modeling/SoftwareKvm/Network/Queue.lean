import SoftwareKvm.Wire.Message

/-!
# The outbound queue of a session

Model of `OutboundQueue` (`kvm-network/src/queue.rs`): three bounded lanes, the
input lane first. A pointer move that follows a pending move of the same device
is folded into it. The drop and coalescing counters, which only the diagnostics
read, are left out.

Results:
* `tryPush_cases`, `popNext_cases`: what a push and a pop can do.
* `popNext_input`: without waiting control frames, the input lane is a FIFO.
-/

namespace SoftwareKvm

inductive TrafficClass
  | input
  | control
  | background
  deriving DecidableEq

def TrafficClass.forMessage (message : WireMessage) : TrafficClass :=
  match message.messageType with
  | .input | .deviceSnapshot | .deviceAdded | .deviceRemoved | .pointerEnter | .pointerLeave
  | .pointerTransitionAck | .pointerTransitionCommit | .releaseInput | .releaseInputV2
  | .releaseAppliedAckV2 => .input
  | .hello | .authenticate | .ping | .pong => .control
  | .displaySnapshot | .displayUpdated | .clipboard => .background

structure QueueConfig where
  input : ℕ
  control : ℕ
  background : ℕ
  maximumInputBurst : ℕ
  coalescePointerMoves : Bool

def QueueConfig.default : QueueConfig := ⟨1024, 128, 32, 64, true⟩

structure EnqueueError where
  trafficClass : TrafficClass
  capacity : ℕ
  message : WireMessage

/-- `OutboundQueue`; the front of a lane is the head of its list. -/
structure OutboundQueue where
  config : QueueConfig
  input : List WireMessage
  control : List WireMessage
  background : List WireMessage
  consecutiveInput : ℕ

variable [F64Arith]

/-- The frame that results when the move `message` is folded into the pending move `tail`: the
    deltas are summed, and the later sequence and timestamp win. -/
def foldPointerMove (tail message : WireMessage) : Option WireMessage :=
  match tail, message with
  | .input pending, .input incoming =>
    match pending.payload, incoming.payload with
    | .pointerMove dx dy, .pointerMove dx' dy' =>
      if pending.sourceHost = incoming.sourceHost
          ∧ pending.sourceDevice = incoming.sourceDevice then
        some (.input { pending with
          sequence := incoming.sequence
          timestampNs := incoming.timestampNs
          payload := .pointerMove (F64Arith.add dx dx') (F64Arith.add dy dy') })
      else none
    | _, _ => none
  | _, _ => none

/-- Only moves of one source are folded. -/
theorem foldPointerMove_eq_some {tail message folded : WireMessage}
    (h : foldPointerMove tail message = some folded) :
    ∃ pending incoming dx dy dx' dy', tail = .input pending ∧ message = .input incoming
      ∧ pending.payload = .pointerMove dx dy ∧ incoming.payload = .pointerMove dx' dy'
      ∧ pending.sourceHost = incoming.sourceHost ∧ pending.sourceDevice = incoming.sourceDevice
      ∧ folded = .input { pending with
          sequence := incoming.sequence
          timestampNs := incoming.timestampNs
          payload := .pointerMove (F64Arith.add dx dx') (F64Arith.add dy dy') } := by
  unfold foldPointerMove at h
  split at h
  · split at h
    · rename_i hpending hincoming
      split_ifs at h with hsame
      exact ⟨_, _, _, _, _, _, rfl, rfl, hpending, hincoming, hsame.1, hsame.2,
        (Option.some.inj h).symm⟩
    · cases h
  · cases h

namespace OutboundQueue

def newValidated (config : QueueConfig) : OutboundQueue := ⟨config, [], [], [], 0⟩

variable (q : OutboundQueue)

/-- `try_coalesce_pointer_move`: the queue after a fold. -/
def tryCoalescePointerMove (message : WireMessage) : Option OutboundQueue :=
  q.input.getLast?.bind fun tail =>
    (foldPointerMove tail message).map fun folded =>
      { q with input := q.input.dropLast ++ [folded] }

/-- The lane of a class with its capacity. -/
def lane : TrafficClass → List WireMessage × ℕ
  | .input => (q.input, q.config.input)
  | .control => (q.control, q.config.control)
  | .background => (q.background, q.config.background)

def setLane (messages : List WireMessage) : TrafficClass → OutboundQueue
  | .input => { q with input := messages }
  | .control => { q with control := messages }
  | .background => { q with background := messages }

def tryPush (message : WireMessage) : Except EnqueueError Unit × OutboundQueue :=
  let kind := TrafficClass.forMessage message
  let coalesced := if kind = .input ∧ q.config.coalescePointerMoves = true
    then q.tryCoalescePointerMove message else none
  match coalesced with
  | some q => (.ok (), q)
  | none =>
    let (queue, capacity) := q.lane kind
    if queue.length ≥ capacity then (.error ⟨kind, capacity, message⟩, q)
    else (.ok (), q.setLane (queue ++ [message]) kind)

/-- The push is counted in `coalesced_moves`. -/
def coalesces (message : WireMessage) : Bool :=
  (if TrafficClass.forMessage message = .input ∧ q.config.coalescePointerMoves = true
    then q.tryCoalescePointerMove message else none).isSome

def unpop (message : WireMessage) : OutboundQueue :=
  let kind := TrafficClass.forMessage message
  q.setLane (message :: (q.lane kind).1) kind

def popNext : Option WireMessage × OutboundQueue :=
  if !q.control.isEmpty && decide (q.consecutiveInput ≥ q.config.maximumInputBurst) then
    (q.control.head?, { q with control := q.control.tail, consecutiveInput := 0 })
  else match q.input with
    | message :: rest =>
      (some message,
        { q with input := rest, consecutiveInput := saturatingAdd q.consecutiveInput 1 })
    | [] => match q.control with
      | message :: rest => (some message, { q with control := rest, consecutiveInput := 0 })
      | [] => (q.background.head?,
          { q with background := q.background.tail, consecutiveInput := 0 })

/-! ## Pushes and pops -/

/-- A push folds the message into the last frame of the input lane, appends it
    to its lane, or finds the lane full. -/
theorem tryPush_cases (message : WireMessage) :
    (∃ front tail folded, TrafficClass.forMessage message = .input ∧ q.input = front ++ [tail]
      ∧ foldPointerMove tail message = some folded ∧ q.coalesces message = true
      ∧ q.tryPush message = (.ok (), q.setLane (front ++ [folded]) .input))
    ∨ (q.lane (.forMessage message)).1.length < (q.lane (.forMessage message)).2
      ∧ q.coalesces message = false ∧ q.tryPush message = (.ok (),
        q.setLane ((q.lane (.forMessage message)).1 ++ [message]) (.forMessage message))
    ∨ q.tryPush message
        = (.error ⟨.forMessage message, (q.lane (.forMessage message)).2, message⟩, q) := by
  unfold tryPush
  simp only
  split
  · rename_i q' hcoalesced
    have hyes : q.coalesces message = true := by rw [coalesces, hcoalesced]; rfl
    split_ifs at hcoalesced with hclass
    obtain ⟨tail, htail, hfold⟩ := Option.bind_eq_some_iff.mp hcoalesced
    obtain ⟨folded, hfolded, rfl⟩ := Option.map_eq_some_iff.mp hfold
    exact .inl ⟨q.input.dropLast, tail, folded, hclass.1,
      (List.dropLast_append_getLast? tail htail).symm, hfolded, hyes, rfl⟩
  · rename_i hcoalesced
    have hno : q.coalesces message = false := by rw [coalesces, hcoalesced]; rfl
    by_cases hfull : (q.lane (.forMessage message)).1.length ≥ (q.lane (.forMessage message)).2
    · exact .inr (.inr (if_pos hfull))
    · exact .inr (.inl ⟨Nat.lt_of_not_ge hfull, hno, if_neg hfull⟩)

omit [F64Arith] in
/-- A pop takes the front of a lane, or finds all lanes empty. -/
theorem popNext_cases : ∃ burst,
    (∃ kind message rest, (q.lane kind).1 = message :: rest
      ∧ q.popNext = (some message, { q.setLane rest kind with consecutiveInput := burst }))
    ∨ q.popNext = (none, { q with consecutiveInput := burst }) := by
  fun_cases popNext q with
  | case1 h =>
    cases hlane : q.control with
    | nil => simp [hlane] at h
    | cons message rest => exact ⟨0, .inl ⟨.control, message, rest, hlane, rfl⟩⟩
  | case2 _ message rest hlane => exact ⟨_, .inl ⟨.input, message, rest, hlane, rfl⟩⟩
  | case3 _ _ message rest hlane => exact ⟨0, .inl ⟨.control, message, rest, hlane, rfl⟩⟩
  | case4 =>
    cases hlane : q.background with
    | nil => exact ⟨0, .inr rfl⟩
    | cons message rest => exact ⟨0, .inl ⟨.background, message, rest, hlane, rfl⟩⟩

omit [F64Arith] in
/-- Without waiting control frames, the next frame is the front of the input lane. -/
theorem popNext_input {q : OutboundQueue} (hcontrol : q.control = []) {message : WireMessage}
    {rest : List WireMessage} (hinput : q.input = message :: rest) :
    q.popNext = (some message,
      { q with input := rest, consecutiveInput := saturatingAdd q.consecutiveInput 1 }) := by
  unfold popNext
  rw [hcontrol, hinput]
  rfl

end OutboundQueue

end SoftwareKvm
