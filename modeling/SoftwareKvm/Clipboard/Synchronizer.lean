import Mathlib.Data.Finset.Basic
import SoftwareKvm.Lib.Runs
import SoftwareKvm.Types.Basic

/-!
# The clipboard synchronizer

A model of `kvm-clipboard/src/lib.rs` (lines 238–540). Text is its UTF-8 bytes,
an update id a number. SHA-256 is a parameter `digest`, and the random id of a
published update is an argument of `observe_local_text`.

**Deviation.** `cancel_expected_echo` restores the hash that an update has
replaced only if the update's own hash is still the current one. After two
updates whose writes fail, cancelling the first before the second leaves the
hash of the first behind.

* `cancelled_leaves_no_trace`: after cancelling all updates in any order the
  expected echoes are as before and none is taken for a duplicate; after
  cancelling the latest one first, so is the current hash.
-/

namespace SoftwareKvm

open Lib

variable {H : Type} [DecidableEq H]

structure ClipboardPolicy where
  enabled : Bool
  maxTextBytes : ℕ
  recentUpdateCapacity : ℕ

structure ClipboardUpdate (H : Type) where
  id : ℕ
  origin : HostId
  contentHash : H
  content : List UInt8
  deriving DecidableEq

inductive IgnoreReason
  | disabled
  | duplicateUpdate (updateId : ℕ)
  | locallyOriginated (updateId : ℕ)
  | localEcho (updateId : ℕ)
  | unchangedContent
  deriving DecidableEq

inductive RejectReason (H : Type)
  | payloadTooLarge (actual maximum : ℕ)
  | hashMismatch (declared calculated : H)
  deriving DecidableEq

inductive ClipboardDecision (H : Type)
  | publish (update : ClipboardUpdate H)
  | apply (update : ClipboardUpdate H)
  | ignore (reason : IgnoreReason)
  | reject (reason : RejectReason H)
  deriving DecidableEq

structure ExpectedEcho (H : Type) where
  updateId : ℕ
  contentHash : H
  previousHash : Option H
  deriving DecidableEq

structure RecentUpdateIds where
  capacity : ℕ
  order : List ℕ := []
  members : Finset ℕ := ∅

namespace RecentUpdateIds

def insert (r : RecentUpdateIds) (id : ℕ) : RecentUpdateIds :=
  if id ∈ r.members then r
  else
    let r := { r with members := Insert.insert id r.members, order := r.order ++ [id] }
    if r.capacity < r.order.length then
      match r.order with
      | [] => r
      | evicted :: rest => { r with order := rest, members := r.members.erase evicted }
    else r

def remove (r : RecentUpdateIds) (id : ℕ) : RecentUpdateIds :=
  if id ∈ r.members then { r with members := r.members.erase id, order := r.order.erase id } else r

theorem members_remove (r : RecentUpdateIds) (id : ℕ) :
    (r.remove id).members = r.members.erase id := by
  unfold remove
  split_ifs with h
  · rfl
  · exact (Finset.erase_eq_of_notMem h).symm

end RecentUpdateIds

structure ClipboardSynchronizer (H : Type) where
  localHost : HostId
  policy : ClipboardPolicy
  recentUpdates : RecentUpdateIds
  expectedEchoes : List (ExpectedEcho H) := []
  currentHash : Option H := none

namespace ClipboardSynchronizer

def new (localHost : HostId) (policy : ClipboardPolicy) : ClipboardSynchronizer H where
  localHost
  policy
  recentUpdates := { capacity := policy.recentUpdateCapacity }

variable (s : ClipboardSynchronizer H)

def sizeRejection (actual : ℕ) : Option (RejectReason H) :=
  if s.policy.maxTextBytes < actual then some (.payloadTooLarge actual s.policy.maxTextBytes)
  else none

variable (digest : List UInt8 → H)

/-- `observe_local_text`; a published update takes the given id. -/
def observeLocalText (id : ℕ) (text : List UInt8) : ClipboardDecision H × ClipboardSynchronizer H :=
  if !s.policy.enabled then (.ignore .disabled, s)
  else match s.sizeRejection text.length with
  | some rejection => (.reject rejection, s)
  | none =>
    match s.expectedEchoes.find? (·.contentHash = digest text) with
    | some expected =>
      (.ignore (.localEcho expected.updateId), { s with
        expectedEchoes := s.expectedEchoes.eraseP (·.contentHash = digest text)
        currentHash := some (digest text) })
    | none =>
      if s.currentHash = some (digest text) then (.ignore .unchangedContent, s)
      else (.publish ⟨id, s.localHost, digest text, text⟩, { s with
        currentHash := some (digest text)
        recentUpdates := s.recentUpdates.insert id })

/-- The state in which `receive_remote` answers `Apply`. -/
def expect (update : ClipboardUpdate H) : ClipboardSynchronizer H :=
  let echoes := s.expectedEchoes ++ [⟨update.id, update.contentHash, s.currentHash⟩]
  { s with
    recentUpdates := s.recentUpdates.insert update.id
    currentHash := some update.contentHash
    expectedEchoes := if s.policy.recentUpdateCapacity < echoes.length then echoes.tail
      else echoes }

def receiveRemote (update : ClipboardUpdate H) : ClipboardDecision H × ClipboardSynchronizer H :=
  if !s.policy.enabled then (.ignore .disabled, s)
  else match s.sizeRejection update.content.length with
  | some rejection => (.reject rejection, s)
  | none =>
    if digest update.content ≠ update.contentHash then
      (.reject (.hashMismatch update.contentHash (digest update.content)), s)
    else if update.origin = s.localHost then (.ignore (.locallyOriginated update.id), s)
    else if update.id ∈ s.recentUpdates.members then (.ignore (.duplicateUpdate update.id), s)
    else if s.currentHash = some update.contentHash then
      (.ignore .unchangedContent, { s with recentUpdates := s.recentUpdates.insert update.id })
    else (.apply update, s.expect update)

def cancelExpectedEcho (updateId : ℕ) : ClipboardSynchronizer H :=
  match s.expectedEchoes.find? (·.updateId = updateId) with
  | none => s
  | some expected =>
    { s with
      expectedEchoes := s.expectedEchoes.eraseP (·.updateId = updateId)
      recentUpdates := s.recentUpdates.remove updateId
      currentHash := if s.currentHash = some expected.contentHash then expected.previousHash
        else s.currentHash }

/-- The update is valid, comes from elsewhere, and its id is not remembered. -/
def fresh (update : ClipboardUpdate H) : Bool :=
  s.policy.enabled && update.content.length ≤ s.policy.maxTextBytes &&
    digest update.content = update.contentHash && update.origin ≠ s.localHost &&
    update.id ∉ s.recentUpdates.members

variable {s digest} {u : ClipboardUpdate H}

theorem valid_of_fresh (h : s.fresh digest u = true) :
    digest u.content = u.contentHash ∧ u.content.length ≤ s.policy.maxTextBytes := by
  simp only [fresh, Bool.and_eq_true, decide_eq_true_eq] at h
  exact ⟨h.1.1.2, h.1.1.1.2⟩

theorem receiveRemote_stale (h : s.fresh digest u = false) :
    (s.receiveRemote digest u).2 = s ∧ ∀ v, (s.receiveRemote digest u).1 ≠ .apply v := by
  unfold receiveRemote sizeRejection
  unfold fresh at h
  grind

theorem receiveRemote_fresh (h : s.fresh digest u = true) :
    s.receiveRemote digest u =
      if s.currentHash = some u.contentHash then
        (.ignore .unchangedContent, { s with recentUpdates := s.recentUpdates.insert u.id })
      else (.apply u, s.expect u) := by
  unfold receiveRemote sizeRejection
  unfold fresh at h
  grind

theorem receiveRemote_apply (h : (s.receiveRemote digest u).1 = .apply u) :
    (s.receiveRemote digest u).2 = s.expect u := by
  cases hfresh : s.fresh digest u with
  | false => exact absurd h ((receiveRemote_stale hfresh).2 u)
  | true =>
    rw [receiveRemote_fresh hfresh] at h ⊢
    split_ifs at h ⊢
    rfl

theorem expectedEchoes_expect (h : s.expectedEchoes.length < s.policy.recentUpdateCapacity) :
    (s.expect u).expectedEchoes =
      s.expectedEchoes ++ [⟨u.id, u.contentHash, s.currentHash⟩] := by
  simp [expect]
  omega

/-- The room left for the remaining updates. -/
theorem room_expect {rest : List (ClipboardUpdate H)}
    (hroom : s.expectedEchoes.length + (u :: rest).length ≤ s.policy.recentUpdateCapacity) :
    s.expectedEchoes.length < s.policy.recentUpdateCapacity ∧
      (s.expect u).expectedEchoes.length + rest.length ≤
        (s.expect u).policy.recentUpdateCapacity := by
  rw [List.length_cons] at hroom
  have hlt : s.expectedEchoes.length < s.policy.recentUpdateCapacity := by omega
  refine ⟨hlt, ?_⟩
  change _ ≤ s.policy.recentUpdateCapacity
  rw [expectedEchoes_expect hlt, List.length_append, List.length_singleton]
  omega

/-! ### Cancelling failed writes -/

/-- Cancelling the expectations at the end of the list, in any order, removes
    exactly these and forgets their ids. -/
theorem execute_cancelExpectedEcho {before after : List (ExpectedEcho H)} {order : List ℕ}
    (hechoes : s.expectedEchoes = before ++ after) (horder : order.Perm (after.map (·.updateId)))
    (hbefore : ∀ e ∈ before, e.updateId ∉ order) :
    (execute cancelExpectedEcho s order).expectedEchoes = before ∧
      (execute cancelExpectedEcho s order).recentUpdates.members =
        s.recentUpdates.members \ order.toFinset := by
  induction order generalizing s after with
  | nil => simp_all
  | cons id order ih =>
    have hnone : ∀ e ∈ before, ¬ decide (e.updateId = id) := fun e he => by
      simpa using List.ne_of_not_mem_cons (hbefore e he)
    have hfound : (s.expectedEchoes.find? (·.updateId = id)).isSome := by
      obtain ⟨e, he, hid⟩ := List.mem_map.1 (horder.subset (List.mem_cons_self ..))
      exact List.find?_isSome.2 ⟨e, by simp [hechoes, he], by simpa using hid⟩
    obtain ⟨expected, hexpected⟩ := Option.isSome_iff_exists.1 hfound
    have hcancel : s.cancelExpectedEcho id = { s with
        expectedEchoes := before ++ after.eraseP (·.updateId = id)
        recentUpdates := s.recentUpdates.remove id
        currentHash := if s.currentHash = some expected.contentHash then expected.previousHash
          else s.currentHash } := by
      simp only [cancelExpectedEcho, hexpected]
      rw [hechoes, List.eraseP_append_right _ hnone]
    have hrest : order.Perm ((after.eraseP (·.updateId = id)).map (·.updateId)) := by
      have := (List.cons_perm_iff_perm_erase.1 horder).2
      rwa [List.erase_eq_eraseP', List.eraseP_map] at this
    obtain ⟨hleft, hmembers⟩ := ih (s := s.cancelExpectedEcho id) (by rw [hcancel]) hrest
      fun e he hmem => hbefore e he (List.mem_cons_of_mem _ hmem)
    refine ⟨hleft, hmembers.trans ?_⟩
    rw [hcancel, RecentUpdateIds.members_remove, List.toFinset_cons, Finset.sdiff_insert,
      Finset.erase_sdiff_comm]

section

variable (s digest)

/-- Every update of the list is applied when it is received. -/
abbrev Applied (updates : List (ClipboardUpdate H)) : Prop :=
  Admissible (fun s u => (receiveRemote s digest u).1 = .apply u)
    (fun s u => (receiveRemote s digest u).2) s updates

/-- The state after receiving the updates and cancelling them in the given order. -/
abbrev cancelled (updates : List (ClipboardUpdate H)) (order : List ℕ) : ClipboardSynchronizer H :=
  execute cancelExpectedEcho (execute (fun s u => (receiveRemote s digest u).2) s updates) order

end

variable {updates : List (ClipboardUpdate H)}

theorem execute_receiveRemote (happlied : s.Applied digest updates)
    (hroom : s.expectedEchoes.length + updates.length ≤ s.policy.recentUpdateCapacity) :
    ∃ after, (execute (fun s u => (receiveRemote s digest u).2) s updates).expectedEchoes =
      s.expectedEchoes ++ after ∧ after.map (·.updateId) = updates.map (·.id) := by
  induction updates generalizing s with
  | nil => exact ⟨[], by simp⟩
  | cons u rest ih =>
    obtain ⟨hlt, hroom'⟩ := room_expect hroom
    have hexpect := expectedEchoes_expect (u := u) hlt
    have happly := receiveRemote_apply happlied.1
    have happlied := happlied.2
    simp only [happly] at happlied
    obtain ⟨after, hafter, hids⟩ := ih happlied hroom'
    refine ⟨⟨u.id, u.contentHash, s.currentHash⟩ :: after, ?_, by simp [hids]⟩
    rw [execute_cons, happly, hafter, hexpect, List.append_assoc, List.singleton_append]

/-- Cancelling the latest update first restores the hash before the first. -/
theorem currentHash_cancelled_reverse (happlied : s.Applied digest updates)
    (hids : (updates.map (·.id)).Nodup)
    (hapart : ∀ e ∈ s.expectedEchoes, e.updateId ∉ updates.map (·.id))
    (hroom : s.expectedEchoes.length + updates.length ≤ s.policy.recentUpdateCapacity) :
    (s.cancelled digest updates (updates.map (·.id)).reverse).currentHash = s.currentHash := by
  induction updates generalizing s with
  | nil => rfl
  | cons u rest ih =>
    obtain ⟨hlt, hroom'⟩ := room_expect hroom
    have hexpect := expectedEchoes_expect (u := u) hlt
    have happly := receiveRemote_apply happlied.1
    have happlied := happlied.2
    simp only [happly] at happlied
    have hapart' : ∀ e ∈ (s.expect u).expectedEchoes, e.updateId ∉ rest.map (·.id) := by
      grind
    have hhash := ih happlied (by simp_all) hapart' hroom'
    obtain ⟨after, hafter, hafterIds⟩ := execute_receiveRemote happlied hroom'
    have horder : (rest.map (·.id)).reverse.Perm (after.map (·.updateId)) :=
      hafterIds ▸ List.reverse_perm _
    have hechoes := (execute_cancelExpectedEcho hafter horder (by simpa using hapart')).1
    -- with the later ones gone, the expectation of `u` is the last and its hash the current one
    have hfind : (s.expect u).expectedEchoes.find? (·.updateId = u.id) =
        some ⟨u.id, u.contentHash, s.currentHash⟩ := by
      rw [hexpect, List.find?_append, List.find?_eq_none.2 (by grind)]
      simp
    have hlast : s.cancelled digest (u :: rest) ((u :: rest).map (·.id)).reverse =
        ((s.expect u).cancelled digest rest (rest.map (·.id)).reverse).cancelExpectedEcho u.id := by
      simp [cancelled, execute, List.foldl_append, happly]
    rw [hlast, cancelExpectedEcho, hechoes, hfind]
    exact if_pos hhash

/-- Updates with distinct ids, none of which is outstanding, are applied and then all cancelled. In
    any order, the expected echoes are as before and an update received again is no duplicate. The
    current hash is as before if the latest update is cancelled first. -/
theorem cancelled_leaves_no_trace (happlied : s.Applied digest updates)
    (hids : (updates.map (·.id)).Nodup)
    (hapart : ∀ e ∈ s.expectedEchoes, e.updateId ∉ updates.map (·.id))
    (hroom : s.expectedEchoes.length + updates.length ≤ s.policy.recentUpdateCapacity)
    {order : List ℕ} (horder : order.Perm (updates.map (·.id))) :
    (s.cancelled digest updates order).expectedEchoes = s.expectedEchoes ∧
      (∀ u ∈ updates, ((s.cancelled digest updates order).receiveRemote digest u).1 ≠
        .ignore (.duplicateUpdate u.id)) ∧
      (order = (updates.map (·.id)).reverse →
        (s.cancelled digest updates order).currentHash = s.currentHash) := by
  obtain ⟨after, hafter, hafterIds⟩ := execute_receiveRemote happlied hroom
  obtain ⟨hechoes, hmembers⟩ := execute_cancelExpectedEcho hafter (hafterIds ▸ horder)
    fun e he hmem => hapart e he (horder.subset hmem)
  refine ⟨hechoes, fun u hu hduplicate => ?_, ?_⟩
  · have hmem : u.id ∉ (s.cancelled digest updates order).recentUpdates.members := by
      rw [hmembers, Finset.mem_sdiff, List.mem_toFinset, horder.mem_iff]
      exact fun h => h.2 (List.mem_map_of_mem hu)
    unfold receiveRemote at hduplicate
    grind
  · rintro rfl
    exact currentHash_cancelled_reverse happlied hids hapart hroom

namespace Sample

def policy : ClipboardPolicy := ⟨true, 8, 2⟩

/-- One byte of text; the text is its own digest. -/
def update (id : ℕ) (text : UInt8) : ClipboardUpdate (List UInt8) := ⟨id, ⟨1⟩, [text], [text]⟩

theorem cancelled_latest_first :
    ((new ⟨0⟩ policy).cancelled id [update 1 65, update 2 66] [2, 1]).currentHash = none :=
  (cancelled_leaves_no_trace (s := new ⟨0⟩ policy) (by decide +kernel) (by decide) (by decide)
    (by decide) (by decide)).2.2 rfl

/-- Cancelled in the order of arrival, the hash of the first update stays. -/
theorem cancelled_first_first :
    (new ⟨0⟩ policy).Applied id [update 1 65, update 2 66] ∧
      ((new ⟨0⟩ policy).cancelled id [update 1 65, update 2 66] [1, 2]).currentHash =
        some [65] := by decide +kernel

end Sample

end ClipboardSynchronizer

end SoftwareKvm
