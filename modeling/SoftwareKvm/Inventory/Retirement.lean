import SoftwareKvm.Inventory.Display
import SoftwareKvm.Lib.Step

/-!
# Ending a session in the display inventory

What `invalidate_remote` of one session does to the records of the other hosts
(`kvm-daemon/src/display_inventory.rs`, lines 350–412). When the set of retired
sessions is full, the host whose retired session is the oldest leaves it
together with its remote record; that the host may have been activated again
since is not considered.

* `minted_execute`: in every run each remote record is one of the session that
  is active for its host, so the record that an eviction removes never is a
  stale one.
* `invalidateRemote_frame_iff`: the records of the other active hosts stay
  exactly when the evicted host, if there is one, has no remote record under an
  active session.
* `activeRecord_evicted`: a run after which ending the session of one host
  removes the displays of another one.
-/

namespace SoftwareKvm

open Lib

namespace DisplayInventory

/-! ## Runs -/

inductive Action
  | localSnapshot (revision : ℕ) (displays : List Display)
  | localUpdate (revision : ℕ) (display : Display)
  | activate (session : CurrentAdmittedSession)
  | remoteSnapshot (session : CurrentAdmittedSession) (message : DisplaySnapshotV1)
  | remoteUpdate (session : CurrentAdmittedSession) (message : DisplayUpdatedV1)
  | invalidate (session : CurrentAdmittedSession)
  | invalidateAll

variable (inventory : DisplayInventory)

/-- One call; a refused one leaves the inventory as it is. -/
def step : Action → DisplayInventory
  | .localSnapshot revision displays =>
    (inventory.applyLocalSnapshot revision displays).toOption.getD inventory
  | .localUpdate revision display =>
    (inventory.applyLocalUpdate revision display).toOption.getD inventory
  | .activate session => (inventory.activateRemote session).toOption.getD inventory
  | .remoteSnapshot session message =>
    (inventory.applyRemoteSnapshot session message).toOption.getD inventory
  | .remoteUpdate session message =>
    (inventory.applyRemoteUpdate session message).toOption.getD inventory
  | .invalidate session => inventory.invalidateRemote session
  | .invalidateAll => inventory.invalidateAllRemote

/-- Every remote record was minted by the active session of its host. -/
def Minted : Prop :=
  ∀ host record binding, inventory.records.get? host = some record →
    record.source = .remote binding → inventory.activeSessions.get? host = some binding

variable {host : HostId} {inventory' : DisplayInventory} {session : CurrentAdmittedSession}

section

variable {inventory}

/-- The records of a successful call are those before and one more, of a source
    that may write it. -/
theorem Minted.insert (h : inventory.Minted) {record : DisplayRecord}
    {records : OrdMap HostId DisplayRecord}
    (hrecords : records = inventory.records.insert host record)
    (hsource : ∀ binding, record.source = .remote binding →
      inventory.activeSessions.get? host = some binding) :
    Minted { inventory with records } := by
  subst hrecords
  intro host' record' binding hget hremote
  rcases OrdMap.get?_insert_cases hget with ⟨rfl, rfl⟩ | hold
  · exact hsource binding hremote
  · exact h host' record' binding hold hremote

theorem Minted.filter (h : inventory.Minted) (p : HostId → DisplayRecord → Bool)
    (retiredSessions : OrdMap HostId DisplaySessionBinding) :
    Minted { inventory with records := inventory.records.filter p, retiredSessions } := by
  intro host record binding hget hremote
  rw [OrdMap.get?_filter] at hget
  exact h host record binding (Option.filter_eq_some_iff.mp hget).1 hremote

theorem requireActive_ok {binding : DisplaySessionBinding}
    (h : inventory.requireActive binding = .ok ()) :
    inventory.activeSessions.get? binding.remoteHostId = some binding := by
  unfold requireActive at h
  split_ifs at h with hactive
  exact hactive

variable (h : inventory.Minted)

include h

theorem Minted.applyUpdate {source : InventorySource DisplaySessionBinding} {revision : ℕ}
    {display : Display} (hsource : ∀ binding, source = .remote binding →
      inventory.activeSessions.get? host = some binding)
    (hok : inventory.applyUpdate source host revision display = .ok inventory') :
    inventory'.Minted := by
  unfold DisplayInventory.applyUpdate at hok
  split at hok
  · cases hok
  split_ifs at hok
  simp only [except_bind_eq_ok] at hok
  obtain ⟨-, -, -, -, records, hrecords, hok⟩ := hok
  cases hok
  exact h.insert (InventoryPolicy.installCandidate_ok hrecords) hsource

theorem Minted.applyLocalSnapshot {revision : ℕ} {displays : List Display}
    (hok : inventory.applyLocalSnapshot revision displays = .ok inventory') :
    inventory'.Minted := by
  unfold DisplayInventory.applyLocalSnapshot at hok
  generalize hsnapshot : inventory.policy.applySnapshot inventory.records .local _ _ _ = result
    at hok
  cases result with
  | error error => cases hok
  | ok records =>
    cases hok
    obtain ⟨-, -, candidate, -, hrecords⟩ := InventoryPolicy.applySnapshot_ok hsnapshot
    exact h.insert hrecords fun binding hremote => by cases hremote

theorem Minted.applyRemoteSnapshot {message : DisplaySnapshotV1}
    (hok : inventory.applyRemoteSnapshot session message = .ok inventory') : inventory'.Minted := by
  simp only [DisplayInventory.applyRemoteSnapshot, except_bind_eq_ok] at hok
  obtain ⟨binding, -, ⟨⟩, hactive, -, -, hok⟩ := hok
  split_ifs at hok
  simp only [except_bind_eq_ok] at hok
  obtain ⟨displays, -, records, hsnapshot, hok⟩ := hok
  cases hok
  obtain ⟨-, -, candidate, -, hrecords⟩ := InventoryPolicy.applySnapshot_ok hsnapshot
  refine h.insert hrecords fun binding' hremote => ?_
  cases hremote
  exact requireActive_ok hactive

theorem Minted.applyRemoteUpdate {message : DisplayUpdatedV1}
    (hok : inventory.applyRemoteUpdate session message = .ok inventory') : inventory'.Minted := by
  simp only [DisplayInventory.applyRemoteUpdate, except_bind_eq_ok] at hok
  obtain ⟨binding, -, ⟨⟩, hactive, -, -, display, -, hok⟩ := hok
  refine h.applyUpdate (fun binding' hremote => ?_) hok
  cases hremote
  exact requireActive_ok hactive

/-- An activation gives a session only to a host that has none, and such a host
    has no remote record. -/
theorem Minted.activateRemote (hok : inventory.activateRemote session = .ok inventory') :
    inventory'.Minted := by
  simp only [DisplayInventory.activateRemote, except_bind_eq_ok] at hok
  obtain ⟨binding, -, hok⟩ := hok
  unfold activateRemoteBinding at hok
  cases hactive : inventory.activeSessions.get? binding.remoteHostId with
  | some active =>
    simp only [hactive] at hok
    split_ifs at hok
    cases hok
    exact h
  | none =>
    simp only [hactive] at hok
    split_ifs at hok
    cases hok
    intro host record binding' hget hremote
    have hminted := h host record binding' hget hremote
    have hne : host ≠ binding.remoteHostId := fun heq => by simp [heq, hactive] at hminted
    simpa [OrdMap.get?_insert, hne] using hminted

theorem Minted.evictRetired (host : HostId) : (inventory.evictRetired host).Minted := by
  unfold DisplayInventory.evictRetired
  split_ifs
  · exact h
  split
  · exact h
  · exact h.filter _ _

end

@[simp] theorem evictRetired_activeSessions (host : HostId) :
    (inventory.evictRetired host).activeSessions = inventory.activeSessions := by
  unfold DisplayInventory.evictRetired
  split_ifs
  · rfl
  split <;> rfl

section

variable {inventory}

theorem Minted.invalidateRemoteBinding (h : inventory.Minted) (binding : DisplaySessionBinding) :
    (inventory.invalidateRemoteBinding binding).Minted := by
  unfold DisplayInventory.invalidateRemoteBinding
  split_ifs with hactive
  · exact h
  intro host record binding' hget hremote
  rw [OrdMap.get?_filter, Option.filter_eq_some_iff] at hget
  have hold := h.evictRetired binding.remoteHostId host record binding' hget.1 hremote
  -- The host's own record was minted by its active session, so it is gone.
  have hne : host ≠ binding.remoteHostId := by
    rintro rfl
    have hsource : record.source = .remote binding := by
      rw [evictRetired_activeSessions, not_not.mp hactive] at hold
      rw [hremote, Option.some.inj hold]
    simp [hsource] at hget
  rwa [OrdMap.get?_erase, if_neg hne]

theorem minted_step (h : inventory.Minted) (action : Action) : (inventory.step action).Minted := by
  have hgetD : ∀ result : Except InventoryError DisplayInventory,
      (∀ inventory', result = .ok inventory' → inventory'.Minted) →
        (result.toOption.getD inventory).Minted := by
    intro result hresult
    cases result with
    | error error => exact h
    | ok inventory' => exact hresult inventory' rfl
  cases action with
  | localSnapshot revision displays => exact hgetD _ fun _ => h.applyLocalSnapshot
  | localUpdate revision display =>
    exact hgetD _ fun _ => h.applyUpdate fun binding hremote => by cases hremote
  | activate session => exact hgetD _ fun _ => h.activateRemote
  | remoteSnapshot session message => exact hgetD _ fun _ => h.applyRemoteSnapshot
  | remoteUpdate session message => exact hgetD _ fun _ => h.applyRemoteUpdate
  | invalidate session =>
    change (inventory.invalidateRemote session).Minted
    unfold DisplayInventory.invalidateRemote
    cases inventory.binding session with
    | error error => exact h
    | ok binding => exact h.invalidateRemoteBinding binding
  | invalidateAll =>
    intro host record binding hget hremote
    simp [step, DisplayInventory.invalidateAllRemote, OrdMap.get?_filter,
      Option.filter_eq_some_iff, hremote] at hget

/-- In every run from a new inventory each remote record is one of the session
    that is active for its host. -/
theorem minted_execute {localHostId : HostId} {config : InventoryConfig}
    (hnew : DisplayInventory.new localHostId config = .ok inventory) (actions : List Action) :
    (execute step inventory actions).Minted := by
  have hstep : ∀ inventory action, Minted inventory → Minted (step inventory action) :=
    fun _ action h => minted_step h action
  refine execute_invariant hstep actions ?_
  unfold DisplayInventory.new at hnew
  split_ifs at hnew
  generalize config.validate = validated at hnew
  cases validated with
  | error error => cases hnew
  | ok config' =>
    cases hnew
    intro host record binding hget
    simp at hget

end

/-! ## The records of other hosts -/

/-- The host that is evicted when a session of `host` retires. -/
def evictedFor (host : HostId) : Option HostId :=
  if inventory.retiredSessions.contains host
      || inventory.retiredSessions.size < inventory.config.remoteHosts then none
  else (oldestRetired inventory.retiredSessions.entries).map (·.1)

/-- The session is the active one of its host. -/
def isActive (session : CurrentAdmittedSession) : Bool :=
  (inventory.binding session).toOption.any fun binding =>
    inventory.activeSessions.get? binding.remoteHostId == some binding

theorem oldestRetired_mem {l : List (HostId × DisplaySessionBinding)}
    {entry : HostId × DisplaySessionBinding} (h : oldestRetired l = some entry) : entry ∈ l := by
  induction l with
  | nil => cases h
  | cons head rest ih =>
    unfold oldestRetired at h
    cases hrest : oldestRetired rest with
    | none =>
      simp only [hrest, Option.some.injEq] at h
      exact h ▸ List.mem_cons_self
    | some oldest =>
      simp only [hrest] at h
      split_ifs at h
      · exact List.mem_cons_of_mem _ (ih (hrest.trans h))
      · exact Option.some.inj h ▸ List.mem_cons_self

theorem evictedFor_ne {inventory : DisplayInventory} {own : HostId}
    (h : inventory.evictedFor own = some host) : host ≠ own := by
  unfold evictedFor at h
  split_ifs at h with hroom
  obtain ⟨entry, holdest, rfl⟩ := Option.map_eq_some_iff.mp h
  have hmem : inventory.retiredSessions.get? entry.1 = some entry.2 :=
    OrdMap.mem_entries.mp (oldestRetired_mem holdest)
  rintro rfl
  simp [OrdMap.contains, hmem] at hroom

theorem host_evictRetired (own host : HostId) : (inventory.evictRetired own).host host =
      if inventory.evictedFor own = some host then
        (inventory.host host).filter (·.source == .local)
      else inventory.host host := by
  unfold DisplayInventory.evictRetired evictedFor DisplayInventory.host
  by_cases hroom : inventory.retiredSessions.contains own
      || inventory.retiredSessions.size < inventory.config.remoteHosts
  · simp only [hroom, if_true, reduceCtorEq, if_false]
  simp only [hroom]
  cases oldestRetired inventory.retiredSessions.entries with
  | none => rfl
  | some entry =>
    obtain ⟨evicted, retired⟩ := entry
    simp only [Bool.false_eq_true, if_false, OrdMap.get?_filter, Option.map_some,
      Option.some.injEq]
    by_cases heq : host = evicted
    · simp [heq]
    · cases inventory.records.get? host <;> simp [heq, Ne.symm heq]

/-- Ending a session leaves the record of another host, unless that host is
    evicted and the record is a remote one. -/
theorem host_invalidateRemote (session : CurrentAdmittedSession)
    (hne : host ≠ session.remoteHostId) :
    (inventory.invalidateRemote session).host host =
      if inventory.isActive session ∧ inventory.evictedFor session.remoteHostId = some host then
        (inventory.host host).filter (·.source == .local)
      else inventory.host host := by
  unfold DisplayInventory.invalidateRemote isActive
  cases hbinding : inventory.binding session with
  | error error => simp [Except.toOption]
  | ok binding =>
    have hhost : binding.remoteHostId = session.remoteHostId := by
      unfold DisplayInventory.binding at hbinding
      simp only at hbinding
      split_ifs at hbinding
      cases hbinding
      rfl
    unfold DisplayInventory.invalidateRemoteBinding
    by_cases hactive : inventory.activeSessions.get? binding.remoteHostId = some binding
    · have hevict := inventory.host_evictRetired binding.remoteHostId host
      simp only [hactive, ne_eq, not_true_eq_false, if_false, Except.toOption, Option.any_some,
        beq_self_eq_true, true_and, ← hhost]
      rw [← hevict, DisplayInventory.host, DisplayInventory.host, OrdMap.get?_filter]
      cases (inventory.evictRetired binding.remoteHostId).records.get? host <;> simp [hhost, hne]
    · simp [hactive, Except.toOption]

/-- Ending a session leaves the records of the other hosts with an active
    session exactly when it evicts no such host with a remote record. -/
theorem invalidateRemote_frame_iff (inventory : DisplayInventory)
    (session : CurrentAdmittedSession) :
    (∀ host, host ≠ session.remoteHostId → inventory.activeSessions.contains host →
        (inventory.invalidateRemote session).host host = inventory.host host) ↔
      ∀ host record, inventory.isActive session →
        inventory.evictedFor session.remoteHostId = some host →
        inventory.activeSessions.contains host → inventory.host host = some record →
        record.source = .local := by
  constructor
  · intro hframe host record hactive hevicted hhost hrecord
    have hne := evictedFor_ne hevicted
    have hsame := hframe host hne hhost
    rw [host_invalidateRemote inventory session hne, if_pos ⟨hactive, hevicted⟩, hrecord] at hsame
    simpa using Option.filter_eq_some_iff.mp hsame
  · intro hlocal host hne hhost
    rw [host_invalidateRemote inventory session hne]
    split_ifs with hevicts
    · cases hrecord : inventory.host host with
      | none => rfl
      | some record => simp [hlocal host record hevicts.1 hevicts.2 hhost hrecord]
    · rfl

end DisplayInventory

/-! ## An active host that is evicted -/

namespace EvictionRun

/-- A session of host `1` with a remote host. -/
def session (remote : HostId) (h : remote.isNil = false) (sequence : ℕ) :
    CurrentAdmittedSession where
  endpoint := ⟨⟨5⟩, remote, ⟨1, sequence⟩, 3, 9, rfl, h, rfl, by decide⟩
  transportIdentity := (Sample.binding ⟨1⟩ remote).transportIdentity
  localHello := Sample.hello ⟨1⟩
  remoteHello := Sample.hello remote

/-- The one display of a host. -/
def display (host : ℕ) : Display :=
  ⟨⟨host⟩, ⟨host⟩, "display", ⟨1920, 1080⟩, none, 1, none, ⟨0, 0, 1920, 1080⟩, true⟩

def config : InventoryConfig := ⟨2, 1, 2⟩

/-- Hosts `2` and `3` come and go; `2` comes back and advertises its display, then `4` comes. -/
def actions : List DisplayInventory.Action :=
  [.activate (session ⟨2⟩ rfl 1), .invalidate (session ⟨2⟩ rfl 1), .activate (session ⟨3⟩ rfl 2),
    .invalidate (session ⟨3⟩ rfl 2), .activate (session ⟨2⟩ rfl 3),
    .remoteSnapshot (session ⟨2⟩ rfl 3) ⟨1, ⟨2⟩, [displayToWire (display 2)]⟩,
    .activate (session ⟨4⟩ rfl 4)]

end EvictionRun

theorem minted_execute_actions :
    (execute DisplayInventory.step ⟨⟨1⟩, EvictionRun.config, ∅, ∅, false, ∅⟩
      EvictionRun.actions).Minted :=
  DisplayInventory.minted_execute (rfl : DisplayInventory.new ⟨1⟩ EvictionRun.config = .ok _) _

/-- With room for two remote hosts, the end of the session of host `4` removes
    the record of host `2`, whose own session is active. -/
theorem activeRecord_evicted :
    ∃ inventory, DisplayInventory.new ⟨1⟩ EvictionRun.config = .ok inventory ∧
      let reached := execute DisplayInventory.step inventory EvictionRun.actions
      reached.activeSessions.contains ⟨2⟩ = true ∧
        (reached.host ⟨2⟩).map (·.items.values) = some [EvictionRun.display 2] ∧
        ((reached.invalidateRemote (EvictionRun.session ⟨4⟩ rfl 4)).host ⟨2⟩).isNone = true := by
  refine ⟨⟨⟨1⟩, EvictionRun.config, ∅, ∅, false, ∅⟩, rfl, ?_⟩
  decide +kernel

end SoftwareKvm
