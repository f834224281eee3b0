import SoftwareKvm.Lib.Runs
import SoftwareKvm.Network.Queue

/-!
# The outbound queue as three ordered lanes

A run of pushes, pops and un-pops of the last message popped. For each lane, the
messages popped and those pending stand, in order, for groups of adjacent accepted
messages. Two adjacent moves stay apart if the first is popped before the second
is pushed. The deltas of a group are added in their order, in the arithmetic of
the queue; that of `f64` rounds (`LaneRun.folded_rounded`).

* `LaneRun.lanes_refined`: the grouping and the count of every run, the bound of
  every push and what a rejected push leaves.
-/

namespace SoftwareKvm

open Lib OutboundQueue

section Arithmetic

variable [F64Arith]

/-- The sum of the deltas in their order. -/
def sumDeltas (first : F64 × F64) (rest : List (F64 × F64)) : F64 × F64 :=
  rest.foldl (fun sum delta => (F64Arith.add sum.1 delta.1, F64Arith.add sum.2 delta.2)) first

/-- The moves have the source of the event and these deltas. -/
def Moves (event : InputEventV1) : List InputEventV1 → List (F64 × F64) → Prop :=
  List.Forall₂ fun move delta => move.payload = .pointerMove delta.1 delta.2
    ∧ move.sourceHost = event.sourceHost ∧ move.sourceDevice = event.sourceDevice

/-- The event has the source of every move, the sum of their deltas, and the
    sequence and timestamp of the last. -/
structure SumOf (moves : List InputEventV1) (event : InputEventV1) : Prop where
  deltas : ∃ first rest, Moves event moves (first :: rest)
    ∧ event.payload = .pointerMove (sumDeltas first rest).1 (sumDeltas first rest).2
  last : ∃ last ∈ moves.getLast?, event.sequence = last.sequence
    ∧ event.timestampNs = last.timestampNs

/-- The frame is the only message of the group, or the sum of its moves. -/
def FoldsTo (group : List WireMessage) (frame : WireMessage) : Prop :=
  group = [frame] ∨ ∃ moves event, group = moves.map .input ∧ frame = .input event
    ∧ SumOf moves event

theorem FoldsTo.fold {group : List WireMessage} {tail message folded : WireMessage}
    (h : FoldsTo group tail) (hfold : foldPointerMove tail message = some folded) :
    FoldsTo (group ++ [message]) folded := by
  obtain ⟨pending, incoming, dx, dy, dx', dy', rfl, rfl, hpending, hincoming, hhost,
    hdevice, rfl⟩ :=
    foldPointerMove_eq_some hfold
  obtain ⟨moves, rfl, first, rest, hmoves, hsum⟩ : ∃ moves, group = moves.map .input
      ∧ ∃ first rest, Moves pending moves (first :: rest)
        ∧ pending.payload = .pointerMove (sumDeltas first rest).1 (sumDeltas first rest).2 := by
    rcases h with rfl | ⟨moves, event, rfl, hevent, hsum⟩
    · exact ⟨[pending], rfl, (dx, dy), [], .cons ⟨hpending, rfl, rfl⟩ .nil, hpending⟩
    · cases hevent
      exact ⟨moves, rfl, hsum.deltas⟩
  rw [hpending] at hsum
  cases hsum
  refine .inr ⟨moves ++ [incoming], _, by simp, rfl, ⟨first, rest ++ [(dx', dy')], ?_, ?_⟩,
    incoming, by simp, rfl, rfl⟩
  · exact List.rel_append hmoves (.cons ⟨hincoming, hhost.symm, hdevice.symm⟩ .nil)
  · simp only [sumDeltas, List.foldl_append, List.foldl_cons, List.foldl_nil]

omit [F64Arith] in
theorem OutboundQueue.lane_setLane (queue : OutboundQueue) (messages : List WireMessage)
    (kind kind' : TrafficClass) : ((queue.setLane messages kind).lane kind').1
      = if kind' = kind then messages else (queue.lane kind').1 := by
  cases kind <;> cases kind' <;> rfl

def OutboundQueue.len (queue : OutboundQueue) : ℕ :=
  queue.input.length + queue.control.length + queue.background.length

omit [F64Arith] in
theorem OutboundQueue.len_setLane (queue : OutboundQueue) (messages : List WireMessage)
    (kind : TrafficClass) : (queue.setLane messages kind).len + (queue.lane kind).1.length
      = queue.len + messages.length := by
  cases kind <;> simp only [len, setLane, lane] <;> omega

/-- A queue with the history of its run. -/
structure LaneRun where
  queue : OutboundQueue
  accepted : List WireMessage := []
  popped : List WireMessage := []
  coalesced : ℕ := 0

inductive LaneAction
  | push (message : WireMessage)
  | pop
  | unpop

namespace LaneRun

def step (s : LaneRun) : LaneAction → LaneRun
  | .push message =>
    match s.queue.tryPush message with
    | (.ok (), queue) => { s with
        queue, accepted := s.accepted ++ [message]
        coalesced := s.coalesced + if s.queue.coalesces message then 1 else 0 }
    | (.error _, queue) => { s with queue }
  | .pop =>
    match s.queue.popNext with
    | (some message, queue) => { s with queue, popped := s.popped ++ [message] }
    | (none, queue) => { s with queue }
  | .unpop =>
    match s.popped.getLast? with
    | some message => { s with queue := s.queue.unpop message, popped := s.popped.dropLast }
    | none => s

/-- What a lane has let out and still holds. -/
def stream (s : LaneRun) (kind : TrafficClass) : List WireMessage :=
  s.popped.filter (TrafficClass.forMessage · = kind) ++ (s.queue.lane kind).1

/-- The lanes hold messages of their class, and every lane stands for groups of
    adjacent accepted messages. -/
structure Refines (s : LaneRun) : Prop where
  sorted : ∀ kind, ∀ message ∈ (s.queue.lane kind).1, TrafficClass.forMessage message = kind
  grouped : ∀ kind, ∃ groups : List (List WireMessage),
    groups.flatten = s.accepted.filter (TrafficClass.forMessage · = kind)
      ∧ List.Forall₂ FoldsTo groups (s.stream kind)
  counted : s.accepted.length = s.popped.length + s.queue.len + s.coalesced

variable {s s' : LaneRun}

/-- A pop or an un-pop. -/
theorem Refines.move (h : s.Refines) (haccepted : s'.accepted = s.accepted)
    (hcoalesced : s'.coalesced = s.coalesced) (hstream : ∀ kind, s'.stream kind = s.stream kind)
    (hsorted : ∀ kind, ∀ m ∈ (s'.queue.lane kind).1, TrafficClass.forMessage m = kind)
    (hcounted : s'.popped.length + s'.queue.len = s.popped.length + s.queue.len) : s'.Refines where
  sorted := hsorted
  grouped kind := by rw [haccepted, hstream]; exact h.grouped kind
  counted := by rw [haccepted, hcoalesced, hcounted]; exact h.counted

/-- A push changes the end of one stream. -/
theorem Refines.push (h : s.Refines) {message : WireMessage} {messages : List WireMessage}
    {coalesced : ℕ} (hclass : ∀ m ∈ messages, TrafficClass.forMessage m = .forMessage message)
    (hcounted : messages.length + coalesced
      = (s.queue.lane (.forMessage message)).1.length + s.coalesced + 1)
    (hgroups : ∀ groups before,
      List.Forall₂ FoldsTo groups (before ++ (s.queue.lane (.forMessage message)).1) →
      ∃ groups', groups'.flatten = groups.flatten ++ [message]
        ∧ List.Forall₂ FoldsTo groups' (before ++ messages)) :
    Refines { s with
      queue := s.queue.setLane messages (.forMessage message)
      accepted := s.accepted ++ [message], coalesced } where
  sorted kind m hm := by
    rw [lane_setLane] at hm
    split_ifs at hm with hkind
    · exact (hclass m hm).trans hkind.symm
    · exact h.sorted kind m hm
  grouped kind := by
    obtain ⟨groups, hflatten, hfolds⟩ := h.grouped kind
    rw [stream, lane_setLane, List.filter_append]
    split_ifs with hkind
    · subst hkind
      obtain ⟨groups', hflatten', hfolds'⟩ := hgroups groups _ hfolds
      exact ⟨groups', by rw [hflatten', hflatten]; simp, hfolds'⟩
    · exact ⟨groups, by rw [hflatten]; simp [Ne.symm hkind], hfolds⟩
  counted := by
    have hlen := s.queue.len_setLane messages (.forMessage message)
    have := h.counted
    simp only [List.length_append, List.length_singleton]
    omega

theorem Refines.step (h : s.Refines) (action : LaneAction) : (s.step action).Refines := by
  cases action with
  | push message =>
    unfold LaneRun.step
    rcases s.queue.tryPush_cases message with
      ⟨front, tail, folded, hclass, hinput, hfold, hyes, hpush⟩ | ⟨-, hno, hpush⟩ | hpush
    · obtain ⟨_, _, _, _, _, _, -, -, -, -, -, -, hfolded⟩ := foldPointerMove_eq_some hfold
      simp only [hpush, hyes, if_true, ← hclass]
      have hlane : (s.queue.lane (.forMessage message)).1 = front ++ [tail] := by
        rw [hclass, ← hinput]
        rfl
      refine h.push (fun m hm => ?_) (by rw [hlane]; simp; omega) fun groups before hgroups => ?_
      · rcases List.mem_append.mp hm with hm | hm
        · exact h.sorted _ m (by rw [hlane]; exact List.mem_append_left _ hm)
        · rw [List.mem_singleton.mp hm, hfolded, hclass]
          rfl
      · rw [hlane, ← List.append_assoc] at hgroups
        have htake := List.forall₂_take_append _ _ _ hgroups
        have hdrop := List.forall₂_drop_append _ _ _ hgroups
        obtain ⟨group, rest, hgroup, hrest, hsplit⟩ := List.forall₂_cons_right_iff.mp hdrop
        rw [List.forall₂_nil_right_iff] at hrest
        subst hrest
        have hflatten := congrArg List.flatten
          (List.take_append_drop (before ++ front).length groups)
        rw [hsplit] at hflatten
        refine ⟨groups.take (before ++ front).length ++ [group ++ [message]], ?_, ?_⟩
        · rw [← hflatten]
          simp
        · rw [← List.append_assoc]
          exact List.rel_append htake (.cons (hgroup.fold hfold) .nil)
    · simp only [hpush, hno, Bool.false_eq_true, if_false]
      refine h.push (fun m hm => ?_) (by simp; omega) fun groups before hgroups =>
        ⟨groups ++ [[message]], by simp, ?_⟩
      · rcases List.mem_append.mp hm with hm | hm
        · exact h.sorted _ m hm
        · rw [List.mem_singleton.mp hm]
      · rw [← List.append_assoc]
        exact List.rel_append hgroups (.cons (.inl rfl) .nil)
    · simp only [hpush]
      exact h
  | pop =>
    unfold LaneRun.step
    obtain ⟨burst, ⟨kind, message, rest, hlane, hpop⟩ | hpop⟩ := s.queue.popNext_cases
    · rw [hpop]
      have hclass := h.sorted kind message (by simp [hlane])
      have hlen := s.queue.len_setLane rest kind
      have hlanes (kind' : TrafficClass) : (OutboundQueue.lane { s.queue.setLane rest kind with
          consecutiveInput := burst } kind').1 = if kind' = kind then rest
            else (s.queue.lane kind').1 := by
        rw [← lane_setLane]
        cases kind' <;> rfl
      refine h.move rfl rfl (fun kind' => ?_) (fun kind' m hm => ?_) ?_
      · rw [stream, stream, hlanes, List.filter_append]
        split_ifs with hkind
        · simp [hkind, hclass, hlane]
        · simp [hclass, Ne.symm hkind]
      · rw [hlanes] at hm
        split_ifs at hm with hkind
        · exact h.sorted kind' m (by rw [hkind, hlane]; exact List.mem_cons_of_mem _ hm)
        · exact h.sorted kind' m hm
      · rw [hlane] at hlen
        change _ + (s.queue.setLane rest kind).len = _
        simp only [List.length_append, List.length_cons, List.length_nil] at hlen ⊢
        omega
    · rw [hpop]
      exact h.move rfl rfl (fun kind => by cases kind <;> rfl)
        (fun kind m hm => h.sorted kind m (by cases kind <;> exact hm)) rfl
  | unpop =>
    unfold LaneRun.step
    cases hlast : s.popped.getLast? with
    | none => exact h
    | some message =>
      obtain ⟨front, hpopped⟩ := List.getLast?_eq_some_iff.mp hlast
      have hlen := s.queue.len_setLane (message :: (s.queue.lane (.forMessage message)).1)
        (.forMessage message)
      have hlanes (kind : TrafficClass) : ((s.queue.unpop message).lane kind).1 = _ :=
        lane_setLane ..
      refine h.move rfl rfl (fun kind => ?_) (fun kind m hm => ?_) ?_
      · rw [stream, stream, hlanes, hpopped, List.dropLast_concat, List.filter_append]
        split_ifs with hkind
        · simp [hkind]
        · simp [Ne.symm hkind]
      · rw [hlanes] at hm
        split_ifs at hm with hkind
        · rcases List.mem_cons.mp hm with rfl | hm
          · exact hkind.symm
          · exact hkind ▸ h.sorted _ m hm
        · exact h.sorted kind m hm
      · simp only [hpopped, List.dropLast_concat, List.length_append, List.length_cons,
          List.length_nil, unpop] at hlen ⊢
        omega

def start (config : QueueConfig) : LaneRun := { queue := newValidated config }

/-- For every run of pushes, pops and un-pops: in each lane the messages popped and
    pending stand for groups of adjacent accepted ones, and every accepted message
    is popped, pending or folded. A push leaves no lane over its capacity that was
    not; a rejected one returns its message and leaves the queue as it was. -/
theorem lanes_refined (config : QueueConfig) (actions : List LaneAction) :
    let s := execute step (start config) actions
    (∀ kind, ∃ groups : List (List WireMessage),
      groups.flatten = s.accepted.filter (TrafficClass.forMessage · = kind)
        ∧ List.Forall₂ FoldsTo groups
          (s.popped.filter (TrafficClass.forMessage · = kind) ++ (s.queue.lane kind).1))
      ∧ s.accepted.length = s.popped.length + s.queue.len + s.coalesced
      ∧ ∀ message queue,
        (s.queue.tryPush message = (.ok (), queue) →
          ∀ kind, (queue.lane kind).1.length ≤ (s.queue.lane kind).1.length
            ∨ (queue.lane kind).1.length ≤ (s.queue.lane kind).2)
        ∧ ∀ error, s.queue.tryPush message = (.error error, queue) →
          error.message = message ∧ queue = s.queue := by
  have hrefines : (execute step (start config) actions).Refines := by
    refine execute_invariant (fun _ action h => h.step action) actions
      ⟨?_, fun kind => ⟨[], ?_⟩, rfl⟩
    · intro kind
      cases kind <;> exact fun _ hm => (List.not_mem_nil hm).elim
    · cases kind <;> exact ⟨rfl, .nil⟩
  refine ⟨hrefines.grouped, hrefines.counted, fun message queue => ?_⟩
  generalize (execute step (start config) actions).queue = before
  rcases before.tryPush_cases message with
    ⟨front, tail, folded, -, hinput, -, -, hpush⟩ | ⟨hroom, -, hpush⟩ | hpush
  all_goals
    rw [hpush]
    refine ⟨fun h kind => ?_, fun error h => ?_⟩ <;> cases h
  · left
    rw [lane_setLane]
    split_ifs with hkind
    · rw [hkind, show (before.lane .input).1 = front ++ [tail] from hinput]
      simp
    · exact le_rfl
  · rw [lane_setLane]
    split_ifs with hkind
    · right
      rw [hkind, List.length_append]
      exact hroom
    · exact .inl le_rfl
  · exact ⟨rfl, rfl⟩

end LaneRun

end Arithmetic

namespace LaneRun

open Binary64

/-- Two moves are folded; the first sum loses the one, and the second is infinite. -/
theorem folded_rounded :
    let move (sequence : ℕ) (dx dy : ℚ) : WireMessage :=
      .input ⟨sequence, sequence, ⟨1⟩, ⟨7⟩, .pointerMove (.finite dx) (.finite dy)⟩
    (execute step (start .default)
        [.push (move 1 (2 ^ 53) (2 ^ 1023)), .push (move 2 1 (2 ^ 1023)), .pop]).popped
      = [.input ⟨2, 2, ⟨1⟩, ⟨7⟩, .pointerMove (.finite (2 ^ 53)) .nonFinite⟩] := by
  decide +kernel

end LaneRun

end SoftwareKvm
