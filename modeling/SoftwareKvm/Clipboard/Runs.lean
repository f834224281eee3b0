import Mathlib.Algebra.Order.Group.Multiset
import SoftwareKvm.Clipboard.Synchronizer
import SoftwareKvm.Lib.Lists

/-!
# A synchronizer and the clipboard it writes

A run of one synchronizer: remote updates arrive, the user copies texts, the
writes that `Apply` decisions ask for are notified or fail. A write is pending
until then.

**Deviation.** A late notification makes the text of an older write the tracked
one, and an update with that text is then ignored although the clipboard holds
another. An update id that was evicted from the recent ones may be applied a
second time; if that write fails, the expectation of the first is cancelled in
its place, and the notification of the first write is published.

* `Desk.text_eq_latest`: if the tracked hash is that of the clipboard whenever
  an update arrives, the clipboard holds the text of the last fresh update.
* `Desk.publishes_le_copies`: if no update is applied under the id of an
  outstanding one with another text, at most every user copy is published.
-/

namespace SoftwareKvm

open Lib

variable {H : Type} [DecidableEq H]

/-- A synchronizer, the clipboard, and what has happened so far. -/
structure Desk (H : Type) where
  sync : ClipboardSynchronizer H
  /-- What the clipboard holds, if something was written. -/
  text : Option (List UInt8) := none
  /-- Updates written in this order whose notification is outstanding. -/
  pending : List (ClipboardUpdate H) := []
  /-- The text of the last fresh update. -/
  latest : Option (List UInt8) := none
  copies : ℕ := 0
  publishes : ℕ := 0

inductive DeskAction (H : Type)
  | receive (update : ClipboardUpdate H)
  | copy (id : ℕ) (text : List UInt8)
  | notify (index id : ℕ)
  | fail (index : ℕ)

namespace Desk

open ClipboardSynchronizer

variable (digest : List UInt8 → H) (d : Desk H)

/-- The platform watcher reports a text. -/
def observe (id : ℕ) (text : List UInt8) : Desk H :=
  let (decision, sync) := d.sync.observeLocalText digest id text
  { d with
    sync
    publishes := d.publishes + match decision with | .publish _ => 1 | _ => 0 }

def step : DeskAction H → Desk H
  | .receive update =>
    let (decision, sync) := d.sync.receiveRemote digest update
    let d := { d with
      latest := if d.sync.fresh digest update then some update.content else d.latest }
    match decision with
    | .apply update =>
      { d with sync, text := some update.content, pending := d.pending ++ [update] }
    | _ => { d with sync }
  | .copy id text => { d with copies := d.copies + 1, text := some text }.observe digest id text
  | .notify index id =>
    match d.pending[index]? with
    | none => d
    | some write => { d with pending := d.pending.eraseIdx index }.observe digest id write.content
  | .fail index =>
    match d.pending[index]? with
    | none => d
    | some write => { d with
        pending := d.pending.eraseIdx index
        sync := d.sync.cancelExpectedEcho write.id }

/-! ### The last remote copy -/

/-- The texts of the updates that arrive in a run. -/
def texts (actions : List (DeskAction H)) : Set (List UInt8) :=
  {text | ∃ update, .receive update ∈ actions ∧ update.content = text}

/-- What the run of a synchronizer without local copies and failures keeps, where
    all updates have one of the texts. -/
structure Tracking (texts : Set (List UInt8)) : Prop where
  enabled : d.sync.policy.enabled
  echoes : d.sync.expectedEchoes.map (·.contentHash) = d.pending.map (·.contentHash)
  written : ∀ w ∈ d.pending, digest w.content = w.contentHash ∧
    w.content.length ≤ d.sync.policy.maxTextBytes
  last : ∀ w ∈ d.pending.getLast?, d.text = some w.content
  drained : d.pending = [] → d.sync.currentHash = d.text.map digest
  latest : d.text = d.latest
  known : ∀ text, d.text = some text → text ∈ texts

/-- Notifications come in the order of the writes, no expectation is dropped, and when a fresh
    update arrives nothing is pending or at least the tracked hash is that of the clipboard. -/
def InOrder : DeskAction H → Prop
  | .receive update =>
    ((d.sync.receiveRemote digest update).1 = .apply update →
      d.sync.expectedEchoes.length < d.sync.policy.recentUpdateCapacity) ∧
    (d.sync.fresh digest update →
      d.pending = [] ∨ d.sync.currentHash = d.text.map digest)
  | .notify index _ => index = 0
  | _ => False

instance (a : DeskAction H) : Decidable (d.InOrder digest a) := by
  cases a <;> unfold InOrder <;> infer_instance

variable {digest d} {u : ClipboardUpdate H}

theorem step_receive : d.step digest (.receive u) =
    if d.sync.fresh digest u then
      if d.sync.currentHash = some u.contentHash then { d with
        latest := some u.content
        sync := { d.sync with recentUpdates := d.sync.recentUpdates.insert u.id } }
      else { d with
        latest := some u.content, text := some u.content, pending := d.pending ++ [u]
        sync := d.sync.expect u }
    else d := by
  cases hfresh : d.sync.fresh digest u with
  | false =>
    obtain ⟨hsame, hno⟩ := receiveRemote_stale hfresh
    simp only [step, hfresh, hsame, Bool.false_eq_true, if_false]
  | true =>
    simp only [step, hfresh, receiveRemote_fresh hfresh]
    split_ifs <;> rfl

theorem Tracking.step {texts : Set (List UInt8)} (hinjective : texts.InjOn digest)
    {a : DeskAction H} (hguard : d.InOrder digest a)
    (hknown : ∀ u, a = .receive u → u.content ∈ texts) (h : d.Tracking digest texts) :
    (d.step digest a).Tracking digest texts := by
  cases a with
  | copy | fail => exact hguard.elim
  | receive u =>
    obtain ⟨hroom, hagrees⟩ := hguard
    rw [step_receive]
    split_ifs with hfresh hunchanged
    · have hvalid := (valid_of_fresh hfresh).1
      have htracked := (hagrees hfresh).elim h.drained fun h => h
      have htext : d.text = some u.content := by
        rw [hunchanged, ← hvalid] at htracked
        obtain ⟨text, hsome, hdigest⟩ := Option.map_eq_some_iff.mp htracked.symm
        rw [hsome, hinjective (h.known text hsome) (hknown u rfl) hdigest]
      exact { h with latest := htext }
    · have happly : (d.sync.receiveRemote digest u).1 = .apply u := by
        rw [receiveRemote_fresh hfresh, if_neg hunchanged]
      have hvalid := valid_of_fresh hfresh
      exact {
        enabled := h.enabled
        echoes := by simp [expectedEchoes_expect (hroom happly), h.echoes]
        written := fun w hw => by
          rcases List.mem_append.1 hw with hw | hw
          · exact h.written w hw
          · cases List.mem_singleton.1 hw
            exact hvalid
        last := by simp
        drained := by simp
        latest := rfl
        known := by
          rintro _ ⟨⟩
          exact hknown u rfl }
    · exact h
  | notify index id =>
    obtain rfl : index = 0 := hguard
    cases hpending : d.pending with
    | nil => simpa [Desk.step, hpending] using h
    | cons w rest =>
      obtain ⟨hdigest, hsize⟩ := h.written w (by simp [hpending])
      have hechoes := h.echoes
      rw [hpending, List.map_cons, List.map_eq_cons_iff] at hechoes
      obtain ⟨e, echoes, heq, he, hrest⟩ := hechoes
      -- the oldest write is notified, and its expectation is the first with this hash
      have hobserve : d.sync.observeLocalText digest id w.content =
          (.ignore (.localEcho e.updateId), { d.sync with
            expectedEchoes := echoes, currentHash := some (digest w.content) }) := by
        simp [observeLocalText, sizeRejection, h.enabled,
          if_neg hsize.not_gt, heq, he, hdigest]
      simp only [Desk.step, hpending, List.getElem?_cons_zero, observe, hobserve,
        List.eraseIdx_cons_zero]
      refine ⟨h.enabled, hrest, fun v hv => h.written v (by simp [hpending, hv]), fun v hv => ?_,
        ?_, h.latest, h.known⟩
      · refine h.last v ?_
        rw [hpending, List.getLast?_cons]
        simp_all
      · rintro rfl
        exact (congrArg (·.map digest) (h.last w (by simp [hpending]))).symm

theorem Tracking.run {texts : Set (List UInt8)} (hinjective : texts.InjOn digest)
    {actions : List (DeskAction H)} (h : d.Tracking digest texts)
    (hrun : Admissible (InOrder digest) (Desk.step digest) d actions)
    (hknown : Desk.texts actions ⊆ texts) :
    (execute (Desk.step digest) d actions).Tracking digest texts := by
  induction actions generalizing d with
  | nil => exact h
  | cons a actions ih =>
    refine ih (h.step hinjective hrun.1 ?_) hrun.2 ?_
    · rintro u rfl
      exact hknown ⟨u, List.mem_cons_self, rfl⟩
    · rintro _ ⟨u, hu, rfl⟩
      exact hknown ⟨u, List.mem_cons_of_mem _ hu, rfl⟩

/-- With nothing written yet. -/
def start (localHost : HostId) (policy : ClipboardPolicy) : Desk H :=
  { sync := .new localHost policy }

/-- In every run without local copies and failures in which the tracked hash is that of the
    clipboard, or nothing is pending, whenever a fresh update arrives, and in which no two texts
    have the same digest, the clipboard holds the text of the last fresh update. -/
theorem text_eq_latest {localHost : HostId} {policy : ClipboardPolicy}
    (henabled : policy.enabled) {actions : List (DeskAction H)}
    (hinjective : (texts actions).InjOn digest)
    (hrun : Admissible (InOrder digest) (step digest) (start localHost policy) actions) :
    (execute (step digest) (start localHost policy) actions).text =
      (execute (step digest) (start localHost policy) actions).latest := by
  have hstart : (start localHost policy : Desk H).Tracking digest (texts actions) :=
    ⟨henabled, rfl, by simp [start], by simp [start], fun _ => rfl, rfl, nofun⟩
  exact (hstart.run hinjective hrun subset_rfl).latest

/-! ### Publishing -/

section

variable (d)

/-- The hashes of the expected echoes. -/
def expected : Multiset H := (d.sync.expectedEchoes.map (·.contentHash) : List H)

/-- The hashes of the pending writes. -/
def awaited : Multiset H := (d.pending.map (·.contentHash) : List H)

variable (digest)

/-- No expectation is dropped, and no update is applied under the id of an
    outstanding one with another text. -/
def Apart : DeskAction H → Prop
  | .receive update => (d.sync.receiveRemote digest update).1 = .apply update →
    d.sync.expectedEchoes.length < d.sync.policy.recentUpdateCapacity ∧
    (∀ e ∈ d.sync.expectedEchoes, e.updateId = update.id → e.contentHash = update.contentHash) ∧
    ∀ w ∈ d.pending, w.id = update.id → w.contentHash = update.contentHash
  | _ => True

instance (a : DeskAction H) : Decidable (d.Apart digest a) := by
  cases a <;> unfold Apart <;> infer_instance

/-- Every pending write without an expectation is paid for by a user copy that has
    used up the expectation and was not published. -/
structure Balanced : Prop where
  written : ∀ w ∈ d.pending, digest w.content = w.contentHash
  matched : ∀ w ∈ d.pending, ∀ e ∈ d.sync.expectedEchoes,
    e.updateId = w.id → e.contentHash = w.contentHash
  paid : d.publishes + (d.awaited - d.expected).card ≤ d.copies

end

theorem card_cons_sub_le (s t : Multiset H) (a : H) : (a ::ₘ s - t).card ≤ (s - t).card + 1 := by
  rw [← Multiset.card_cons a]
  refine Multiset.card_le_card (tsub_le_iff_right.2 ?_)
  rw [Multiset.cons_add]
  exact Multiset.cons_le_cons a le_tsub_add

/-- An element leaves one side, and possibly the other. -/
theorem card_sub_le_cons (s : Multiset H) {t t' : Multiset H} {a : H}
    (h : t' = t ∨ t = a ::ₘ t') : (s - t').card ≤ (a ::ₘ s - t).card := by
  obtain rfl | rfl := h
  · exact Multiset.card_le_card (tsub_le_tsub_right (Multiset.le_cons_self s a) t')
  · rw [Multiset.sub_cons, Multiset.erase_cons_head]

theorem card_cons_sub (s : Multiset H) {t : Multiset H} {a : H} (h : a ∉ t) :
    (a ::ₘ s - t).card = (s - t).card + 1 := by
  have hcons : a ::ₘ s - t = a ::ₘ (s - t) := by
    ext b
    have := Multiset.count_eq_zero.2 h
    grind [Multiset.count_sub, Multiset.count_cons]
  rw [hcons, Multiset.card_cons]

/-- A reported text is at most as good as the notification of a pending write. -/
theorem observe_spec (digest : List UInt8 → H) (d : Desk H) (id : ℕ) (text : List UInt8) :
    (d.observe digest id text).sync.expectedEchoes.Sublist d.sync.expectedEchoes ∧
      ∀ s, (d.observe digest id text).publishes + (s - (d.observe digest id text).expected).card ≤
        d.publishes + (digest text ::ₘ s - d.expected).card := by
  unfold observe
  fun_cases observeLocalText with
  | case3 _ _ e hfind =>
    have he : e.contentHash = digest text := by simpa using List.find?_some hfind
    refine ⟨List.eraseP_sublist, fun s => Nat.add_le_add_left (card_sub_le_cons s (.inr ?_)) _⟩
    rw [← he, expected, Multiset.coe_eq_coe.2 ((perm_cons_eraseP hfind).map _)]
    simp [expected, he]
  | case5 _ _ hfind =>
    refine ⟨.refl _, fun s => ?_⟩
    rw [card_cons_sub s (by simpa [expected] using hfind), Nat.add_right_comm]
    rfl
  | _ => exact ⟨.refl _, fun s => Nat.add_le_add_left (card_sub_le_cons s (.inl rfl)) _⟩

omit [DecidableEq H] in
theorem awaited_eq {index : ℕ} {w : ClipboardUpdate H} (h : d.pending[index]? = some w) :
    d.awaited = w.contentHash ::ₘ { d with pending := d.pending.eraseIdx index }.awaited := by
  obtain ⟨hlt, rfl⟩ := List.getElem?_eq_some_iff.1 h
  exact Multiset.coe_eq_coe.2 ((List.getElem_cons_eraseIdx_perm hlt).symm.map _)

theorem Balanced.step {a : DeskAction H} (hguard : d.Apart digest a) (h : d.Balanced digest) :
    (d.step digest a).Balanced digest := by
  obtain ⟨hwritten, hmatched, hpaid⟩ := h
  cases a with
  | receive u =>
    rw [step_receive]
    split_ifs with hfresh hunchanged
    · exact ⟨hwritten, hmatched, hpaid⟩
    · have happly : (d.sync.receiveRemote digest u).1 = .apply u := by
        rw [receiveRemote_fresh hfresh, if_neg hunchanged]
      obtain ⟨hroom, hechoes, hwrites⟩ := hguard happly
      have hexpect := expectedEchoes_expect (u := u) hroom
      have hvalid := (valid_of_fresh hfresh).1
      refine ⟨by grind, by grind, ?_⟩
      simp only [expected, awaited, hexpect, List.map_append, ← Multiset.coe_add] at hpaid ⊢
      rwa [List.map_singleton, List.map_singleton, add_tsub_add_eq_tsub_right]
    · exact ⟨hwritten, hmatched, hpaid⟩
  | copy id text =>
    obtain ⟨hsublist, hpays⟩ :=
      observe_spec digest { d with copies := d.copies + 1, text := some text } id text
    refine ⟨hwritten, fun w hw e he => hmatched w hw e (hsublist.subset he), ?_⟩
    calc _ ≤ d.publishes + (digest text ::ₘ d.awaited - d.expected).card := hpays _
      _ ≤ d.publishes + ((d.awaited - d.expected).card + 1) :=
        Nat.add_le_add_left (card_cons_sub_le ..) _
      _ ≤ d.copies + 1 := Nat.succ_le_succ hpaid
  | notify index id =>
    cases hindex : d.pending[index]? with
    | none => simpa [Desk.step, hindex] using ⟨hwritten, hmatched, hpaid⟩
    | some w =>
      rw [awaited_eq hindex, ← hwritten w (List.mem_of_getElem? hindex)] at hpaid
      obtain ⟨hsublist, hpays⟩ :=
        observe_spec digest { d with pending := d.pending.eraseIdx index } id w.content
      have hkept : ∀ v ∈ d.pending.eraseIdx index, v ∈ d.pending :=
        fun _ => List.mem_of_mem_eraseIdx
      simp only [Desk.step, hindex]
      exact ⟨fun v hv => hwritten v (hkept v hv),
        fun v hv e he => hmatched v (hkept v hv) e (hsublist.subset he), (hpays _).trans hpaid⟩
  | fail index =>
    cases hindex : d.pending[index]? with
    | none => simpa [Desk.step, hindex] using ⟨hwritten, hmatched, hpaid⟩
    | some w =>
      rw [awaited_eq hindex] at hpaid
      have hkept : ∀ v ∈ d.pending.eraseIdx index, v ∈ d.pending :=
        fun _ => List.mem_of_mem_eraseIdx
      simp only [Desk.step, hindex]
      -- an expectation under the id of the failed write has its hash
      have hcancel : (d.sync.cancelExpectedEcho w.id).expectedEchoes.Sublist d.sync.expectedEchoes ∧
          (({ d with sync := d.sync.cancelExpectedEcho w.id }).expected = d.expected ∨
            d.expected = w.contentHash ::ₘ
              ({ d with sync := d.sync.cancelExpectedEcho w.id }).expected) := by
        fun_cases cancelExpectedEcho with
        | case1 => exact ⟨.refl _, .inl rfl⟩
        | case2 e hfind =>
          have he := hmatched w (List.mem_of_getElem? hindex) e (List.mem_of_find?_eq_some hfind)
            (by simpa using List.find?_some hfind)
          refine ⟨List.eraseP_sublist, .inr ?_⟩
          rw [← he, expected, Multiset.coe_eq_coe.2 ((perm_cons_eraseP hfind).map _)]
          rfl
      exact ⟨fun v hv => hwritten v (hkept v hv),
        fun v hv e he => hmatched v (hkept v hv) e (hcancel.1.subset he),
        (Nat.add_le_add_left (card_sub_le_cons _ hcancel.2) _).trans hpaid⟩

/-- In every run in which no expectation is dropped and no update is applied under
    the id of an outstanding one with another text, at most as many texts are
    published as the user has copied. -/
theorem publishes_le_copies {localHost : HostId} {policy : ClipboardPolicy}
    {actions : List (DeskAction H)}
    (hrun : Admissible (Apart digest) (step digest) (start localHost policy) actions) :
    (execute (step digest) (start localHost policy) actions).publishes ≤
      (execute (step digest) (start localHost policy) actions).copies := by
  have hstart : (start localHost policy : Desk H).Balanced digest :=
    ⟨by simp [start], by simp [start], Nat.le_refl 0⟩
  have hpaid := (hrun.invariant (fun _ _ hguard h => h.step hguard) hstart).paid
  omega

namespace Sample

open Sample

/-- The second text arrives while the first is unreported. -/
def quiet : List (DeskAction (List UInt8)) :=
  [.receive (update 1 65), .receive (update 2 66), .notify 0 8, .notify 0 9]

theorem quiet_last :
    (execute (step id) (start ⟨0⟩ policy) quiet).latest = some [66] ∧
      (execute (step id) (start ⟨0⟩ policy) quiet).text = some [66] := by
  have hrun : Admissible (InOrder id) (step id) (start ⟨0⟩ policy) quiet := by decide +kernel
  have htext := text_eq_latest rfl Function.injective_id.injOn hrun
  have hlatest : (execute (step id) (start ⟨0⟩ policy) quiet).latest = some [66] := by
    decide +kernel
  exact ⟨hlatest, htext.trans hlatest⟩

/-- The first notification comes between the second and the third update, which
    has the first text again. -/
theorem late_notification :
    let d := execute (step id) (start ⟨0⟩ policy) [.receive (update 1 65), .receive (update 2 66),
      .notify 0 8, .receive (update 3 65), .notify 0 9]
    d.pending = [] ∧ d.latest = some [65] ∧ d.text = some [66] := by decide +kernel

/-- The user copies a text before the one of the update is reported, and another. -/
def copied : List (DeskAction (List UInt8)) :=
  [.receive (update 1 65), .copy 7 [66], .notify 0 8, .copy 9 [67]]

theorem copied_published :
    (execute (step id) (start ⟨0⟩ policy) copied).publishes = 2 ∧
      (execute (step id) (start ⟨0⟩ policy) copied).publishes ≤
        (execute (step id) (start ⟨0⟩ policy) copied).copies :=
  ⟨by decide +kernel, publishes_le_copies (by decide +kernel)⟩

/-- The third and the fourth update evict the id of the first. -/
theorem echo_published :
    let d := execute (step id) (start ⟨0⟩ policy) [.receive (update 1 65), .receive (update 2 65),
      .receive (update 3 65), .receive (update 1 66), .fail 1, .notify 0 9]
    d.publishes = 1 ∧ d.copies = 0 := by decide +kernel

end Sample

end Desk

end SoftwareKvm
