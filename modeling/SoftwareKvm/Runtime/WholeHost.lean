import SoftwareKvm.Types.Input
import SoftwareKvm.Lib.Runs

/-!
# The whole-host hooks

Model of `quartz_event_tap_callback`, `dispatch_quartz_event`
(`kvm-macos/src/native.rs`) and of `low_level_keyboard_hook`,
`low_level_mouse_hook`, `WholeHostCallbackState::dispatch`
(`kvm-windows/src/native.rs`), cut at every access to the flag `active`, so that
another thread's `stop` or `fault` can come between any two of them.

Results:
* `run_returned`: the hook returns after at most six of its own steps.
* `suppressed_iff_undisturbed`: an event that the callback suppressed stays
  suppressed iff nothing clears `active` before the hook's last look at it.

**Deviation.** Both adapters read `active` again after the callback has answered.
A `stop` or a `fault` that gets in between, and on macOS a callback slower than
the deadline, lets an event pass that the peer has already been sent.
-/

namespace SoftwareKvm

open Lib

/-! ## State -/

/-- The two whole-host capture adapters. -/
inductive WholeHostAdapter
  | macOs
  | windows

/-- `CaptureLifecycleState` (`kvm-windows`). -/
inductive CaptureLifecycleState
  | idle
  | running
  | stopped
  | faulted
  deriving DecidableEq

/-- The values of `CaptureHealth` (`kvm-macos`) that whole-host capture sets. -/
inductive CaptureHealth
  | idle
  | running
  | stopped
  | transitionDiscontinuity
  | tapDisabled
  | tapInvalidated
  | callbackPanicked
  | callbackOverran

/-- The counters of `CaptureCounters` that the two dispatches write. -/
structure CaptureCounters where
  /-- `delivered_events`, `captured_events`. -/
  deliveredEvents : ℕ := 0
  /-- `untranslated_events`, `untranslated_packets`. -/
  untranslatedEvents : ℕ := 0
  /-- `transition_discontinuities`, `capture_discontinuities`. -/
  discontinuities : ℕ := 0
  suppressedEvents : ℕ := 0
  ignoredSuppressionRequests : ℕ := 0
  callbackPanics : ℕ := 0
  callbackOverruns : ℕ := 0

/-- The part of `WholeHostCallbackContext` (macOS) and `WholeHostCallbackState` (Windows) that
    threads share. `lifecycle` is Windows' only, `health` macOS' only. -/
structure WholeHostCapture where
  active : Bool := true
  lifecycle : CaptureLifecycleState := .running
  health : CaptureHealth := .running
  sequence : ℕ := 1
  counters : CaptureCounters := {}

/-- What one call of the routing callback does: it answers, or panics, after some time. -/
structure CallbackRun where
  disposition : Option CaptureDisposition
  elapsedNs : ℕ

/-- The part of the capture context that no one writes. -/
structure WholeHostContext where
  hostId : HostId
  keyboardDevice : DeviceId
  pointerDevice : DeviceId
  callback : CapturedInput → CallbackRun

/-- What the hooks read of one native event. `payload` is the event's translation, `mouseMove` says
    that it is a `WM_MOUSEMOVE`, `recentres` that `SetCursorPos` succeeds. -/
structure NativeRecord where
  classification : EventClassification
  payload : Option InputPayload
  timestampNs : ℕ
  position : Point
  mouseMove : Bool := false
  recentres : Bool := true

def wholeHostCallbackDeadline : ℕ := 100 * 1000000

/-- `whole_host_should_suppress` (`kvm-windows/src/capture.rs`). -/
def wholeHostShouldSuppress (classification : EventClassification)
    (disposition : CaptureDisposition) : Bool :=
  classification = .physical && disposition = .suppressLocal

/-- The `CapturedInput` that both dispatches build. -/
def WholeHostContext.captured (context : WholeHostContext) (record : NativeRecord) (sequence : ℕ)
    (payload : InputPayload) : CapturedInput where
  event :=
    { sequence
      timestampNs := record.timestampNs
      sourceHost := context.hostId
      sourceDevice := match payload with
        | .key .. => context.keyboardDevice
        | _ => context.pointerDevice
      payload }
  classification := record.classification
  nativePointerPosition := match payload with
    | .pointerMove .. => some record.position
    | _ => none

namespace WholeHostCapture

variable (s : WholeHostCapture)

def stop : WholeHostCapture :=
  { s with
    active := false
    lifecycle := if s.lifecycle = .faulted then .faulted else .stopped }

def fault : WholeHostCapture :=
  { s with
    active := false
    lifecycle := .faulted
    counters.discontinuities :=
      s.counters.discontinuities + if s.lifecycle = .faulted then 0 else 1 }

/-- `terminally_deactivate_whole_host`, and `WholeHostController::deactivate`. -/
def deactivate : WholeHostCapture := { s with active := false }

/-- What `run_whole_host_capture_thread` does on a tap that became invalid. -/
def invalidateTap : WholeHostCapture :=
  if s.active then { s with health := .tapInvalidated, active := false } else s

@[simp] theorem stop_active : s.stop.active = false := rfl

@[simp] theorem fault_active : s.fault.active = false := rfl

@[simp] theorem deactivate_active : s.deactivate.active = false := rfl

@[simp] theorem invalidateTap_active : s.invalidateTap.active = false := by
  cases h : s.active <;> simp [invalidateTap, h]

end WholeHostCapture

/-! ## One event through a hook -/

/-- Where the hook is in its treatment of one event. -/
inductive HookPoint
  /-- About to read `active` for the first time. -/
  | entered
  /-- The event is translated; a sequence number is to be taken. -/
  | dispatching (payload : InputPayload)
  /-- The callback runs. -/
  | calling (input : CapturedInput)
  /-- The callback has answered. -/
  | answered (disposition : CaptureDisposition) (overran : Bool)
  /-- `fault` or `terminally_deactivate_whole_host` is to run before the dispatch returns. -/
  | faulting (suppress : Bool)
  /-- The dispatch has returned `suppress`. -/
  | concluding (suppress : Bool)
  | returned (passedOn : Bool)
  deriving DecidableEq

/-- The hook's thread and the state that it shares with other threads. -/
structure HookThread where
  capture : WholeHostCapture
  point : HookPoint
  /-- History: what the callback answered for the event. -/
  answer : Option CaptureDisposition := none

namespace HookThread

/-- `quartz_event_tap_callback` with `dispatch_quartz_event`, up to the next access to `active`. -/
def tapStep (context : WholeHostContext) (record : NativeRecord) (s : HookThread) : HookThread :=
  match s.point with
  | .entered =>
    if !s.capture.active then { s with point := .returned true }
    else match record.payload with
      | none =>
        { s with
          capture.counters.untranslatedEvents := s.capture.counters.untranslatedEvents + 1
          point := .concluding false }
      | some payload => { s with point := .dispatching payload }
  | .dispatching payload =>
    match checkedAdd s.capture.sequence 1 with
    | none =>
      { s with
        capture.counters.discontinuities := s.capture.counters.discontinuities + 1
        capture.health := .transitionDiscontinuity
        point := .faulting false }
    | some next =>
      { s with
        capture.sequence := next
        capture.counters.deliveredEvents := s.capture.counters.deliveredEvents + 1
        point := .calling (context.captured record s.capture.sequence payload) }
  | .calling input =>
    let run := context.callback input
    match run.disposition with
    | none =>
      { s with
        capture.counters.callbackPanics := s.capture.counters.callbackPanics + 1
        capture.health := .callbackPanicked
        point := .faulting false }
    | some disposition =>
      { s with
        point := .answered disposition (wholeHostCallbackDeadline < run.elapsedNs)
        answer := some disposition }
  -- The watchdog clears `active` before the answer is acted on.
  | .answered disposition true =>
    { s with
      capture :=
        { s.capture with
          counters.callbackOverruns := s.capture.counters.callbackOverruns + 1
          health := .callbackOverran }.deactivate
      point := .answered disposition false }
  | .answered disposition false =>
    if disposition = .suppressLocal && record.classification = .physical && s.capture.active then
      { s with
        capture.counters.suppressedEvents := s.capture.counters.suppressedEvents + 1
        point := .concluding true }
    else if disposition = .suppressLocal then
      { s with
        capture.counters.ignoredSuppressionRequests :=
          s.capture.counters.ignoredSuppressionRequests + 1
        point := .concluding false }
    else { s with point := .concluding false }
  | .faulting suppress => { s with capture := s.capture.deactivate, point := .concluding suppress }
  | .concluding suppress => { s with point := .returned !(suppress && s.capture.active) }
  | .returned _ => s

/-- The low-level hooks with `WholeHostCallbackState::dispatch`, up to the next
    access to `active`. -/
def hookStep (context : WholeHostContext) (record : NativeRecord) (s : HookThread) : HookThread :=
  match s.point with
  | .entered =>
    if !s.capture.active then { s with point := .returned true }
    else match record.payload with
      | none =>
        { s with
          capture.counters.untranslatedEvents :=
            s.capture.counters.untranslatedEvents + if record.mouseMove then 0 else 1
          point := .returned true }
      | some payload => { s with point := .dispatching payload }
  | .dispatching payload =>
    match checkedAdd s.capture.sequence 1 with
    | none => { s with point := .faulting false }
    | some next =>
      { s with
        capture.sequence := next
        capture.counters.deliveredEvents := s.capture.counters.deliveredEvents + 1
        point := .calling (context.captured record s.capture.sequence payload) }
  | .calling input =>
    let run := context.callback input
    match run.disposition with
    | none =>
      { s with
        capture.counters.callbackPanics := s.capture.counters.callbackPanics + 1
        point := .faulting false }
    | some disposition =>
      { s with
        point := .answered disposition (wholeHostCallbackDeadline < run.elapsedNs)
        answer := some disposition }
  -- The answer is acted on first: an overrun faults what comes after it.
  | .answered disposition overran =>
    let suppress :=
      s.capture.active && wholeHostShouldSuppress record.classification disposition
    { s with
      capture.counters.suppressedEvents :=
        s.capture.counters.suppressedEvents + if suppress then 1 else 0
      point := if overran then .faulting suppress else .concluding suppress }
  | .faulting suppress => { s with capture := s.capture.fault, point := .concluding suppress }
  | .concluding suppress =>
    -- A suppressed motion is followed by `recenter_pointer`.
    if record.mouseMove && suppress && record.classification = .physical && !record.recentres then
      { s with capture := s.capture.fault, point := .returned !suppress }
    else { s with point := .returned !suppress }
  | .returned _ => s

end HookThread

/-! ## Interleavings -/

/-- A step of the hook's thread, or what another thread does to the session. -/
inductive HookAction
  | hook
  | stop
  | fault
  deriving DecidableEq

namespace HookThread

variable (adapter : WholeHostAdapter) (context : WholeHostContext) (record : NativeRecord)

def apply (s : HookThread) : HookAction → HookThread
  | .hook =>
    match adapter with
    | .macOs => s.tapStep context record
    | .windows => s.hookStep context record
  | .stop =>
    match adapter with
    | .macOs => { s with capture := s.capture.deactivate }
    | .windows => { s with capture := s.capture.stop }
  | .fault =>
    match adapter with
    | .macOs => { s with capture := s.capture.invalidateTap }
    | .windows => { s with capture := s.capture.fault }

/-- The hook as it is called for an event. -/
def start (capture : WholeHostCapture) : HookThread := { capture, point := .entered }

/-- The state after the threads' steps. -/
def run (capture : WholeHostCapture) (actions : List HookAction) : HookThread :=
  execute (apply adapter context record) (start capture) actions

/-- The hook does not read `active` any more. -/
def Decided (s : HookThread) : Bool :=
  match adapter, s.point with
  | _, .returned _ => true
  | .windows, .faulting _ | .windows, .concluding _ => true
  | _, _ => false

/-- The step does not come between the callback and the hook's last look at `active`: other threads
    wait for that look, and on macOS the callback keeps its deadline. -/
def Undisturbed (s : HookThread) : HookAction → Bool
  | .hook =>
    match adapter, s.point with
    | .macOs, .calling input => (context.callback input).elapsedNs ≤ wholeHostCallbackDeadline
    | _, _ => true
  | .stop | .fault => s.Decided adapter

/-! ## The hook returns -/

/-- How many steps the hook has left. -/
def rank : HookPoint → ℕ
  | .entered => 6
  | .dispatching _ => 5
  | .calling _ => 4
  | .answered _ overran => 2 + overran.toNat
  | .faulting _ => 2
  | .concluding _ => 1
  | .returned _ => 0

end HookThread

namespace HookThread

variable {adapter : WholeHostAdapter} {context : WholeHostContext} {record : NativeRecord}
  {s : HookThread}

variable (adapter context record) in
theorem apply_rank (s : HookThread) (action : HookAction) :
    rank (s.apply adapter context record action).point
      ≤ rank s.point - [action].count .hook := by
  cases action <;> cases adapter
  case hook.macOs =>
    show rank (s.tapStep context record).point ≤ rank s.point - 1
    fun_cases tapStep context record s <;> simp_all [rank]
    case case7 => exact Nat.add_le_add_left (Bool.toNat_le _) 2
  case hook.windows =>
    show rank (s.hookStep context record).point ≤ rank s.point - 1
    fun_cases hookStep context record s <;> simp_all [rank]
    case case7 => exact Nat.add_le_add_left (Bool.toNat_le _) 2
    case case8 overran _ _ => cases overran <;> simp
  all_goals exact le_rfl

variable (adapter context record) in
theorem execute_rank (s : HookThread) (actions : List HookAction) :
    rank (execute (apply adapter context record) s actions).point
      ≤ rank s.point - actions.count .hook := by
  induction actions generalizing s with
  | nil => exact le_rfl
  | cons action rest ih =>
    have hstep := apply_rank adapter context record s action
    have hrest := ih (s.apply adapter context record action)
    rw [execute_cons, List.count_cons]
    rw [List.count_singleton] at hstep
    omega

/-- Whatever other threads do, the hook has returned once it has taken six steps. -/
theorem run_returned (capture : WholeHostCapture) {actions : List HookAction}
    (hsteps : 6 ≤ actions.count .hook) :
    ∃ passedOn, (run adapter context record capture actions).point = .returned passedOn := by
  have hrank := execute_rank adapter context record (start capture) actions
  have hzero : rank (run adapter context record capture actions).point = 0 := by
    refine Nat.le_zero.mp (hrank.trans ?_)
    exact Nat.sub_le_of_le_add (by simpa [start, rank] using hsteps)
  cases hpoint : (run adapter context record capture actions).point <;> rw [hpoint] at hzero
  case returned passedOn => exact ⟨passedOn, rfl⟩
  all_goals simp [rank] at hzero

/-! ## Disturbed runs pass the event on -/

/-- The event will be passed on, whatever happens from now on. -/
def Lost (adapter : WholeHostAdapter) (s : HookThread) : Prop :=
  match s.point with
  | .returned passedOn => passedOn = true
  | .faulting suppress | .concluding suppress =>
    suppress = false ∨ (adapter = .macOs ∧ s.capture.active = false)
  | .answered _ overran => (adapter = .macOs ∧ overran = true) ∨ s.capture.active = false
  | _ => s.capture.active = false

theorem deactivated_lost (h : Lost adapter s) {capture : WholeHostCapture}
    (hcapture : capture.active = false) : Lost adapter { s with capture } := by
  cases hpoint : s.point <;> simp_all [Lost] <;> tauto

theorem apply_lost (action : HookAction) (h : Lost adapter s) :
    Lost adapter (s.apply adapter context record action) := by
  cases action <;> cases adapter
  case hook.macOs =>
    show Lost .macOs (s.tapStep context record)
    fun_cases tapStep context record s <;> simp_all [Lost]
  case hook.windows =>
    show Lost .windows (s.hookStep context record)
    fun_cases hookStep context record s <;> simp_all [Lost]
    case case8 disposition overran suppress hpoint =>
      have hfalse : suppress = false := by simp [suppress, h]
      cases overran <;> simp [hfalse]
  all_goals exact deactivated_lost h (by simp)

theorem deactivated_undecided (h : s.Decided adapter = false) {capture : WholeHostCapture}
    (hcapture : capture.active = false) : Lost adapter { s with capture } := by
  cases adapter <;> cases hpoint : s.point <;> simp_all [Lost, Decided]

/-- A disturbed step loses the event. -/
theorem lost_of_disturbed {action : HookAction} (h : ¬ s.Undisturbed adapter context action) :
    Lost adapter (s.apply adapter context record action) := by
  cases action with
  | hook =>
    cases adapter <;> cases hpoint : s.point <;> simp [Undisturbed, hpoint] at h
    simp only [apply, tapStep, hpoint]
    split <;> simp_all [Lost]
  | stop =>
    have hundecided : s.Decided adapter = false := by simpa [Undisturbed] using h
    cases adapter <;> exact deactivated_undecided hundecided (by simp)
  | fault =>
    have hundecided : s.Decided adapter = false := by simpa [Undisturbed] using h
    cases adapter <;> exact deactivated_undecided hundecided (by simp)

/-! ## Undisturbed runs suppress it -/

/-- The hook, if the callback told it to suppress the event, is about to do so. -/
def Kept (adapter : WholeHostAdapter) (s : HookThread) : Prop :=
  match s.point with
  | .entered => s.answer = none
  | .dispatching _ | .calling _ => s.answer = none ∧ s.capture.active = true
  | .answered disposition overran =>
    s.answer = some disposition ∧ s.capture.active = true ∧ (adapter = .macOs → overran = false)
  | .faulting suppress =>
    s.answer = some .suppressLocal → adapter = .windows ∧ suppress = true
  | .concluding suppress =>
    s.answer = some .suppressLocal → suppress = true ∧ (adapter = .macOs → s.capture.active = true)
  | .returned passedOn => s.answer = some .suppressLocal → passedOn = false

theorem deactivated_kept (hdecided : s.Decided adapter) (h : Kept adapter s)
    (capture : WholeHostCapture) : Kept adapter { s with capture } := by
  cases adapter <;> cases hpoint : s.point <;> simp_all [Kept, Decided]

theorem apply_kept (hphysical : record.classification = .physical) (action : HookAction)
    (hstep : s.Undisturbed adapter context action) (h : Kept adapter s) :
    Kept adapter (s.apply adapter context record action) := by
  cases action <;> cases adapter
  case hook.macOs =>
    show Kept .macOs (s.tapStep context record)
    fun_cases tapStep context record s <;> simp_all [Kept, Undisturbed]
    case case7 => exact hstep
  case hook.windows =>
    show Kept .windows (s.hookStep context record)
    fun_cases hookStep context record s <;> simp_all [Kept]
    case case8 disposition overran suppress hpoint =>
      have htrue : disposition = .suppressLocal → suppress = true := by
        simp [suppress, h.2, hphysical, wholeHostShouldSuppress]
      cases overran <;> exact htrue
  all_goals exact deactivated_kept hstep h _

/-- A physical event that the callback told the hook to suppress is not passed on
    iff no step of any thread comes between: on Windows no `stop` or `fault`
    before the dispatch reads `active`, on macOS none before the tap callback reads
    it for the last time, and a callback within its deadline. -/
theorem suppressed_iff_undisturbed (adapter : WholeHostAdapter) (context : WholeHostContext)
    (record : NativeRecord) (hphysical : record.classification = .physical)
    (capture : WholeHostCapture) (actions : List HookAction) (passedOn : Bool)
    (hreturned : (run adapter context record capture actions).point = .returned passedOn)
    (hanswer : (run adapter context record capture actions).answer = some .suppressLocal) :
    passedOn = false ↔
      Admissible (fun s a => s.Undisturbed adapter context a) (apply adapter context record)
        (start capture) actions := by
  constructor
  · intro hkept
    refine (admissible_or_broken (fun _ _ h => lost_of_disturbed h) (fun _ a h => apply_lost a h)
      (start capture) actions).resolve_right fun hlost => ?_
    change Lost adapter (run adapter context record capture actions) at hlost
    simp [Lost, hreturned, hkept] at hlost
  · intro hrun
    have hkept : Kept adapter (run adapter context record capture actions) :=
      hrun.invariant (fun _ a hstep h => apply_kept hphysical a hstep h) rfl
    simp only [Kept, hreturned] at hkept
    exact hkept hanswer

namespace Sample

/-- The session of a callback that suppresses everything, in `elapsedNs`. -/
def suppressing (elapsedNs : ℕ) : WholeHostContext where
  hostId := ⟨1⟩
  keyboardDevice := ⟨2⟩
  pointerDevice := ⟨3⟩
  callback _ := ⟨some .suppressLocal, elapsedNs⟩

def keyPress : NativeRecord where
  classification := .physical
  payload := some (.key (.named .keyA) .pressed)
  timestampNs := 0
  position := ⟨0, 0⟩

/-- The hook's steps, with nothing between them. -/
def alone : List HookAction := List.replicate 6 .hook

/-- The session is stopped while the callback runs. -/
def stopWhileCalling : List HookAction :=
  [.hook, .hook, .stop, .hook, .hook, .hook, .hook]

end Sample

open Sample

/-- The callback suppresses the key press, which passes all the same: on macOS
    because the callback was slow, on Windows because the session was stopped. -/
theorem suppressed_passes :
    (run .macOs (suppressing 100000001) keyPress {} alone).answer
        = some .suppressLocal
      ∧ (run .macOs (suppressing 100000001) keyPress {} alone).point
        = .returned true
      ∧ (run .windows (suppressing 0) keyPress {} stopWhileCalling).answer
        = some .suppressLocal
      ∧ (run .windows (suppressing 0) keyPress {} stopWhileCalling).point
        = .returned true := by
  decide +kernel

/-- On Windows a slow callback's answer stands. -/
theorem suppressed_iff_undisturbed_slow :
    (run .windows (suppressing 100000001) keyPress {} alone).answer
        = some .suppressLocal
      ∧ (run .windows (suppressing 100000001) keyPress {} alone).point
        = .returned false
      ∧ Admissible (fun s a => s.Undisturbed .windows (suppressing 100000001) a)
        (apply .windows (suppressing 100000001) keyPress) (start {}) alone :=
  have hanswer : (run .windows (suppressing 100000001) keyPress {}
      alone).answer = some .suppressLocal := by decide +kernel
  have hreturned : (run .windows (suppressing 100000001) keyPress {}
      alone).point = .returned false := by decide +kernel
  ⟨hanswer, hreturned, (suppressed_iff_undisturbed .windows _ _ rfl _ _ _ hreturned hanswer).mp rfl⟩

end HookThread

end SoftwareKvm
