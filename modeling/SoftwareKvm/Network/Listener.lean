import SoftwareKvm.Lib.OrdMap
import SoftwareKvm.Lib.Runs

/-!
# Admission of LAN connections

Model of `start_handshake` and `handle_handshake_join`
(`kvm-network/src/listener.rs`, lines 530–634). Addresses are only compared, so
their type is a parameter. A task of the `JoinSet` is the source it was spawned
for.

Results:
* `startHandshake_global`: what a connection costs the global budget.
* `globalRateLimited_iff`: within an attempt window a connection is rejected as
  `GlobalRateLimited` exactly when as many connections as the global budget
  allows were taken from the queue before it, whoever opened them.
* `noisy_source_locks_out`: one source that is over its own budget uses up the
  budget of all.
* `HandshakeAccounts.handshakes_balance`: what is in flight for a source are its tasks
  and its panicked ones, within the limits, and every connection is counted once.

**Deviation.** The global budget is charged before the budget of the source is
looked at, so a connection that is rejected as `SourceRateLimited` still counts.
-/

namespace SoftwareKvm

open Lib

/-- `LanListenerConfig`, as far as connections are admitted by it. -/
structure LanListenerConfig where
  maximumOutstandingHandshakes : ℕ
  maximumPerSourceHandshakes : ℕ
  maximumAttemptsPerSource : ℕ
  maximumGlobalAttempts : ℕ
  maximumTrackedSources : ℕ
  attemptWindow : ℕ

/-- The rejections of `start_handshake`. -/
inductive LanListenerRejection
  | sourceTrackingLimited
  | sourceRateLimited
  | globalRateLimited
  | sourceConcurrencyLimited
  | globalConcurrencyLimited
  deriving DecidableEq

structure SourceState where
  windowStartedAt : ℕ
  attempts : ℕ
  inFlight : ℕ

structure GlobalAttemptState where
  windowStartedAt : ℕ
  attempts : ℕ

/-- The state of `LanListenerService::run`. -/
structure LanListener (S : Type) [LinearOrder S] where
  sources : OrdMap S SourceState
  global : GlobalAttemptState
  tasks : List S

/-- What becomes of a handshake task: its stream is handed over, or the channel
    of events is full or closed, or the handshake fails, or the task panics. -/
inductive HandshakeOutcome
  | accepted
  | dropped
  | failed
  | panicked

namespace LanListener

variable {S : Type} [LinearOrder S] (config : LanListenerConfig)

/-- The listener when `run` begins. -/
def start (now : ℕ) : LanListener S := ⟨∅, ⟨now, 0⟩, []⟩

/-- A window that is over is followed by a new one. -/
def refreshGlobal (now : ℕ) (state : GlobalAttemptState) : GlobalAttemptState :=
  if config.attemptWindow ≤ now - state.windowStartedAt then ⟨now, 0⟩ else state

/-- The part of `start_handshake` after the global budget has been charged. -/
def admitSource (source : S) (now : ℕ) (l : LanListener S) :
    Except LanListenerRejection Unit × LanListener S :=
  let sources := l.sources.filter fun _ state =>
    decide (0 < state.inFlight) || decide (now - state.windowStartedAt < config.attemptWindow)
  if !sources.contains source && decide (config.maximumTrackedSources ≤ sources.size) then
    (.error .sourceTrackingLimited, { l with sources })
  else
    let state := (sources.get? source).getD ⟨now, 0, 0⟩
    let state := if config.attemptWindow ≤ now - state.windowStartedAt then
      { state with windowStartedAt := now, attempts := 0 } else state
    if config.maximumAttemptsPerSource ≤ state.attempts then
      (.error .sourceRateLimited, { l with sources := sources.insert source state })
    else
      let state := { state with attempts := state.attempts + 1 }
      if config.maximumPerSourceHandshakes ≤ state.inFlight then
        (.error .sourceConcurrencyLimited, { l with sources := sources.insert source state })
      else if config.maximumOutstandingHandshakes ≤ l.tasks.length then
        (.error .globalConcurrencyLimited, { l with sources := sources.insert source state })
      else
        (.ok (), { l with
          sources := sources.insert source { state with inFlight := state.inFlight + 1 }
          tasks := source :: l.tasks })

def startHandshake (source : S) (now : ℕ) (l : LanListener S) :
    Except LanListenerRejection Unit × LanListener S :=
  let global := refreshGlobal config now l.global
  if config.maximumGlobalAttempts ≤ global.attempts then
    (.error .globalRateLimited, { l with global })
  else
    admitSource config source now
      { l with global := { global with attempts := global.attempts + 1 } }

/-- `handle_handshake_join` for the task at `index`. A panic does not tell the
    source, whose entry stays occupied. -/
def handleHandshakeJoin (index : ℕ) (outcome : HandshakeOutcome) (l : LanListener S) :
    LanListener S :=
  match l.tasks[index]?, outcome with
  | none, _ => l
  | some _, .panicked => { l with tasks := l.tasks.eraseIdx index }
  | some source, _ => { l with
      tasks := l.tasks.eraseIdx index
      sources := l.sources.modify source fun state =>
        { state with inFlight := state.inFlight - 1 } }

end LanListener

/-- What the loop of `run` handles. -/
inductive ListenerAction (S : Type)
  | connect (source : S) (now : ℕ)
  | join (index : ℕ) (outcome : HandshakeOutcome)

namespace ListenerAction

variable {S : Type} [LinearOrder S] (config : LanListenerConfig)

def apply (l : LanListener S) : ListenerAction S → LanListener S
  | connect source now => (l.startHandshake config source now).2
  | join index outcome => l.handleHandshakeJoin index outcome

/-- A connection is taken from the queue. -/
def connects : ListenerAction S → Bool
  | connect _ _ => true
  | join _ _ => false

/-- A connection falls into the attempt window that started at `opened`. -/
def Within (opened : ℕ) : ListenerAction S → Prop
  | connect _ now => now - opened < config.attemptWindow
  | join _ _ => True

end ListenerAction

namespace LanListener

variable {S : Type} [LinearOrder S] {config : LanListenerConfig} {l : LanListener S}

/-- A connection in an open window is charged, or rejected when the budget is used up. -/
theorem startHandshake_global (source : S) {now : ℕ}
    (hopen : now - l.global.windowStartedAt < config.attemptWindow) :
    (l.startHandshake config source now).2.global.windowStartedAt = l.global.windowStartedAt
      ∧ (l.startHandshake config source now).2.global.attempts
        = max l.global.attempts (min config.maximumGlobalAttempts (l.global.attempts + 1))
      ∧ ((l.startHandshake config source now).1 = .error .globalRateLimited
        ↔ config.maximumGlobalAttempts ≤ l.global.attempts) := by
  simp only [startHandshake, refreshGlobal, if_neg (Nat.not_le.mpr hopen)]
  split_ifs with hfull
  · refine ⟨rfl, ?_, iff_of_true rfl hfull⟩
    simp only
    omega
  · -- what follows does not touch the global budget, nor blame it
    generalize hcharged : ({ l with global := { l.global with
      attempts := l.global.attempts + 1 } } : LanListener S) = charged
    have hglobal : (charged.admitSource config source now).2.global = charged.global
        ∧ (charged.admitSource config source now).1 ≠ .error .globalRateLimited := by
      simp only [admitSource]
      split_ifs <;> simp
    rw [hglobal.1, ← hcharged]
    refine ⟨rfl, ?_, iff_of_false (hcharged ▸ hglobal.2) hfull⟩
    simp only
    omega

/-- The budget that is used after connections within one window. -/
theorem execute_global {actions : List (ListenerAction S)}
    (hwithin : ∀ action ∈ actions, action.Within config l.global.windowStartedAt)
    (hused : l.global.attempts ≤ config.maximumGlobalAttempts) :
    (execute (ListenerAction.apply config) l actions).global.windowStartedAt
        = l.global.windowStartedAt
      ∧ (execute (ListenerAction.apply config) l actions).global.attempts
        = min config.maximumGlobalAttempts
          (l.global.attempts + actions.countP ListenerAction.connects) := by
  induction actions generalizing l with
  | nil =>
    simp [hused]
  | cons action rest ih =>
    have hrest := fun later hlater => hwithin later (List.mem_cons_of_mem _ hlater)
    have hfirst := hwithin action List.mem_cons_self
    rw [execute_cons, List.countP_cons]
    cases action with
    | connect source now =>
      obtain ⟨hopened, hattempts, -⟩ := startHandshake_global source hfirst
      have hnext := ih (l := (l.startHandshake config source now).2) (by rwa [hopened])
        (by rw [hattempts]; omega)
      rw [hopened, hattempts] at hnext
      refine ⟨hnext.1, hnext.2.trans ?_⟩
      simp only [ListenerAction.connects, if_true]
      omega
    | join index outcome =>
      have hglobal : (l.handleHandshakeJoin index outcome).global = l.global := by
        unfold handleHandshakeJoin
        split <;> rfl
      have hnext := ih (l := l.handleHandshakeJoin index outcome) (by rwa [hglobal])
        (by rwa [hglobal])
      rw [hglobal] at hnext
      exact hnext

/-- After any connections and joins within an attempt window, a further connection in the window is
    rejected as `GlobalRateLimited` exactly if the connections of the window, whatever became of
    them, are as many as the global budget allows. -/
theorem globalRateLimited_iff {actions : List (ListenerAction S)} {now : ℕ} (source : S)
    (hwithin : ∀ action ∈ actions, action.Within config l.global.windowStartedAt)
    (hused : l.global.attempts ≤ config.maximumGlobalAttempts)
    (hopen : now - l.global.windowStartedAt < config.attemptWindow) :
    ((execute (ListenerAction.apply config) l actions).startHandshake config source now).1
        = .error .globalRateLimited
      ↔ config.maximumGlobalAttempts
        ≤ l.global.attempts + actions.countP ListenerAction.connects := by
  obtain ⟨hopened, hattempts⟩ := execute_global hwithin hused
  rw [(startHandshake_global source (by rwa [hopened])).2.2, hattempts]
  omega

namespace Sample

/-- Two connections in a window, one of each source. -/
def strict : LanListenerConfig := ⟨4, 4, 1, 2, 4, 10⟩

/-- Source 7 opens one connection more than it is allowed. -/
def noisy : List (ListenerAction ℕ) := [.connect 7 0, .connect 7 1]

end Sample

open LanListener.Sample

/-- The second connection of source 7 is over the budget of its source; with it the budget of all
    is used up, and the first connection of source 8 is rejected. -/
theorem noisy_source_locks_out :
    strict.maximumAttemptsPerSource < strict.maximumGlobalAttempts
      ∧ ((execute (ListenerAction.apply strict) (start 0) [.connect 7 0]).startHandshake
        strict 7 1).1 = .error .sourceRateLimited
      ∧ ((execute (ListenerAction.apply strict) (start 0) noisy).startHandshake strict 8 2).1
        = .error .globalRateLimited := by
  decide +kernel

theorem globalRateLimited_iff_second :
    ((execute (ListenerAction.apply strict) (start 0) [.connect 7 0]).startHandshake strict 8 2).1
      ≠ .error .globalRateLimited :=
  mt (globalRateLimited_iff 8 (by simp [ListenerAction.Within, start, strict]) (Nat.zero_le _)
    (by decide)).mp (by decide)

end LanListener

/-! ## Accounts -/

namespace LanListener

variable {S : Type} [LinearOrder S] {config : LanListenerConfig} {l : LanListener S}

/-- `in_flight` of a tracked source, zero for others. -/
def inFlight (l : LanListener S) (source : S) : ℕ :=
  (l.sources.get? source).elim 0 (·.inFlight)

/-- A connection is spawned, or it leaves the tasks and what is in flight as they were;
    the sources stay within their limit. -/
theorem admitSource_inFlight (config : LanListenerConfig) (source : S) (now : ℕ)
    (hsources : l.sources.size ≤ config.maximumTrackedSources) :
    let (result, l') := l.admitSource config source now
    l'.sources.size ≤ config.maximumTrackedSources ∧
      match result with
      | .ok () => l'.tasks = source :: l.tasks
        ∧ (∀ s, l'.inFlight s = l.inFlight s + if s = source then 1 else 0)
        ∧ l.tasks.length < config.maximumOutstandingHandshakes
        ∧ l.inFlight source < config.maximumPerSourceHandshakes
      | .error _ => l'.tasks = l.tasks ∧ ∀ s, l'.inFlight s = l.inFlight s := by
  unfold admitSource
  extract_lets sources state state' state''
  -- an entry that is evicted has nothing in flight
  have hkept (s : S) : (sources.get? s).elim 0 (·.inFlight) = l.inFlight s := by
    rw [inFlight, OrdMap.get?_filter]
    cases l.sources.get? s with
    | none => rfl
    | some entry => by_cases hidle : entry.inFlight = 0 <;> grind
  have hstate : state'.inFlight = l.inFlight source := by
    rw [← hkept source]
    simp only [state', state]
    split_ifs <;> cases sources.get? source <;> rfl
  have hinsert (entry : SourceState) (s : S) :
      ((sources.insert source entry).get? s).elim 0 (·.inFlight)
        = if s = source then entry.inFlight else l.inFlight s := by
    rw [OrdMap.get?_insert]
    split_ifs
    · rfl
    · exact hkept s
  have hsize : sources.size ≤ config.maximumTrackedSources :=
    (l.sources.size_filter_le _).trans hsources
  split_ifs with hlimit hrate hper hout
  · exact ⟨hsize, rfl, hkept⟩
  all_goals refine ⟨by grind [OrdMap.size_insert], rfl, ?_⟩
  · grind [inFlight]
  · grind [inFlight]
  · grind [inFlight]
  · grind [inFlight]

end LanListener

/-- The service and its accounts. Connections are numbered as they are taken from the
    queue; a counter is the list of the connections it was raised for. -/
structure HandshakeAccounts (S : Type) [LinearOrder S] where
  listener : LanListener S
  taken : ℕ := 0
  flying : List ℕ := []
  acceptedStreams : List ℕ := []
  rejectedAttempts : List ℕ := []
  panicked : List S := []

namespace HandshakeAccounts

variable {S : Type} [LinearOrder S] (config : LanListenerConfig)

/-- The connection of a task that was joined is counted. -/
def count (connection : ℕ) (source : S) (a : HandshakeAccounts S) :
    HandshakeOutcome → HandshakeAccounts S
  | .accepted => { a with acceptedStreams := connection :: a.acceptedStreams }
  | .dropped | .failed => { a with rejectedAttempts := connection :: a.rejectedAttempts }
  | .panicked => { a with
      rejectedAttempts := connection :: a.rejectedAttempts, panicked := source :: a.panicked }

def step (a : HandshakeAccounts S) : ListenerAction S → HandshakeAccounts S
  | .connect source now =>
    match a.listener.startHandshake config source now with
    | (.ok (), listener) =>
      { a with listener, taken := a.taken + 1, flying := a.taken :: a.flying }
    | (.error _, listener) => { a with
        listener, taken := a.taken + 1, rejectedAttempts := a.taken :: a.rejectedAttempts }
  | .join index outcome =>
    match a.listener.tasks[index]?, a.flying[index]? with
    | some source, some connection => count connection source { a with
        listener := a.listener.handleHandshakeJoin index outcome
        flying := a.flying.eraseIdx index } outcome
    | _, _ => a

/-- The accounts balance, and the limits hold. -/
structure Balanced (a : HandshakeAccounts S) : Prop where
  inFlight : ∀ source,
    a.listener.inFlight source = a.listener.tasks.count source + a.panicked.count source
  perSource : ∀ source, a.listener.inFlight source ≤ config.maximumPerSourceHandshakes
  outstanding : a.listener.tasks.length ≤ config.maximumOutstandingHandshakes
  sources : a.listener.sources.size ≤ config.maximumTrackedSources
  flying : a.flying.length = a.listener.tasks.length
  once : (a.acceptedStreams ++ a.rejectedAttempts ++ a.flying).Perm (List.range a.taken)

variable {config} {a : HandshakeAccounts S}

theorem perm_rejected (connection : ℕ) (accepted rejected flying : List ℕ) :
    (accepted ++ connection :: rejected ++ flying).Perm
      (connection :: (accepted ++ rejected ++ flying)) := by
  simp only [List.append_assoc, List.cons_append]
  exact List.perm_middle

theorem connect_balanced (h : a.Balanced config) (source : S) (now : ℕ) :
    (a.step config (.connect source now)).Balanced config := by
  have honce : (a.taken :: (a.acceptedStreams ++ a.rejectedAttempts ++ a.flying)).Perm
      (List.range (a.taken + 1)) := by
    rw [List.range_succ]
    exact (h.once.cons a.taken).trans (List.perm_append_singleton _ _).symm
  have hrejected := (perm_rejected ..).trans honce
  unfold step LanListener.startHandshake
  simp only
  split_ifs with hglobal
  · exact { h with once := hrejected }
  · generalize LanListener.refreshGlobal config now a.listener.global = global
    have hadmit := LanListener.admitSource_inFlight config source now
      (l := { a.listener with global := { global with attempts := global.attempts + 1 } }) h.sources
    split
    next heq =>
      rw [heq] at hadmit
      obtain ⟨hsources, htasks, hflight, houtstanding, hper⟩ := hadmit
      refine ⟨fun s => ?_, fun s => ?_, ?_, hsources, ?_, List.perm_middle.trans honce⟩
      · rw [hflight, htasks, List.count_cons]
        have := h.inFlight s
        grind [LanListener.inFlight]
      · rw [hflight]
        have := h.perSource s
        grind [LanListener.inFlight]
      · rw [htasks]
        exact houtstanding
      · simp [htasks, h.flying]
    next heq =>
      rw [heq] at hadmit
      obtain ⟨hsources, htasks, hflight⟩ := hadmit
      refine ⟨fun s => ?_, fun s => ?_, ?_, hsources, ?_, hrejected⟩
      · rw [hflight, htasks]
        exact h.inFlight s
      · rw [hflight]
        exact h.perSource s
      · rw [htasks]
        exact h.outstanding
      · rw [htasks]
        exact h.flying

/-- The connection of a joined task moves from those in flight to a counter, and its
    source has one task in flight less unless the task panicked. -/
theorem join_balanced (h : a.Balanced config) (index : ℕ) (outcome : HandshakeOutcome) :
    (a.step config (.join index outcome)).Balanced config := by
  unfold step
  simp only
  split
  next source connection hsource hconnection =>
    have htasks : (source :: a.listener.tasks.eraseIdx index).Perm a.listener.tasks := by
      obtain ⟨hlt, rfl⟩ := List.getElem?_eq_some_iff.mp hsource
      exact List.getElem_cons_eraseIdx_perm hlt
    have hflying : (connection :: a.flying.eraseIdx index).Perm a.flying := by
      obtain ⟨hlt, rfl⟩ := List.getElem?_eq_some_iff.mp hconnection
      exact List.getElem_cons_eraseIdx_perm hlt
    have honce : (connection :: (a.acceptedStreams ++ a.rejectedAttempts
        ++ a.flying.eraseIdx index)).Perm (List.range a.taken) :=
      List.perm_middle.symm.trans ((hflying.append_left _).trans h.once)
    have hrejected := (perm_rejected ..).trans honce
    have hlength : (a.flying.eraseIdx index).length = (a.listener.tasks.eraseIdx index).length :=
      Nat.succ.inj (hflying.length_eq.trans (h.flying.trans htasks.length_eq.symm))
    have houtstanding := (List.length_eraseIdx_le a.listener.tasks index).trans h.outstanding
    have hcount (s : S) : a.listener.inFlight s
        = ((a.listener.tasks.eraseIdx index).count s + if source = s then 1 else 0)
          + a.panicked.count s := by
      rw [h.inFlight, ← htasks.count_eq s, List.count_cons]
      simp only [beq_iff_eq]
    have hfreed (s : S) : ((a.listener.sources.modify source fun state =>
        { state with inFlight := state.inFlight - 1 }).get? s).elim 0 (·.inFlight)
          = (a.listener.tasks.eraseIdx index).count s + a.panicked.count s := by
      have hs := hcount s
      rw [LanListener.inFlight] at hs
      rw [OrdMap.get?_modify]
      cases hget : a.listener.sources.get? s <;> simp only [hget] at hs <;> grind
    have hper (s : S) := (hfreed s).trans_le ((Nat.add_le_add_right (Nat.le_add_right ..) _).trans
      ((hcount s).symm.trans_le (h.perSource s)))
    have hsources f := (a.listener.sources.size_modify source f).trans_le h.sources
    cases outcome with
    | accepted =>
      simp only [count, LanListener.handleHandshakeJoin, hsource]
      exact ⟨hfreed, hper, houtstanding, hsources _, hlength, honce⟩
    | dropped | failed =>
      simp only [count, LanListener.handleHandshakeJoin, hsource]
      exact ⟨hfreed, hper, houtstanding, hsources _, hlength, hrejected⟩
    | panicked =>
      simp only [count, LanListener.handleHandshakeJoin, hsource]
      refine ⟨fun s => (hcount s).trans ?_, h.perSource, houtstanding, h.sources,
        hlength, hrejected⟩
      rw [List.count_cons]
      simp only [beq_iff_eq]
      omega
  · exact h

/-- After any connections and joins the accounts balance, and no source with a task is
    forgotten. -/
theorem handshakes_balance (config : LanListenerConfig) (now : ℕ)
    (actions : List (ListenerAction S)) :
    let a := execute (step config) ⟨.start now, 0, [], [], [], []⟩ actions
    a.Balanced config
      ∧ ∀ source ∈ a.listener.tasks, a.listener.sources.contains source = true := by
  intro a
  have hbalanced : a.Balanced config := by
    refine execute_invariant (fun a action h => ?_) actions ?_
    · cases action with
      | connect source now => exact connect_balanced h source now
      | join index outcome => exact join_balanced h index outcome
    · exact ⟨fun _ => rfl, fun _ => Nat.zero_le _, Nat.zero_le _, Nat.zero_le _, rfl, .refl _⟩
  refine ⟨hbalanced, fun source hmem => ?_⟩
  have hflight := hbalanced.inFlight source
  have hpos := List.count_pos_iff.mpr hmem
  rw [LanListener.inFlight] at hflight
  rw [OrdMap.contains]
  cases hget : a.listener.sources.get? source with
  | none => simp only [hget, Option.elim_none] at hflight; omega
  | some state => rfl

end HandshakeAccounts

end SoftwareKvm
