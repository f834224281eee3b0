import SoftwareKvm.Core.Lockout
import SoftwareKvm.Core.Settled
import SoftwareKvm.Core.StuckControl
import SoftwareKvm.Wire.Convert

/-!
# The emergency chord

The configuration names shortcut keys; `Physical` entries name HID usages. The
core looks for them among the keys that it has recorded as held.

Results:
* `prepareCaptured_sameControls`: after the recording of an event the recorded
  controls stay the same.
* `emergencyChord_fires_iff`: once every shortcut key is held, the chord fires
  exactly if each `Physical` entry is held as an `Unidentified` key.
* `emergencyChord_silent`: the chord `Physical { 0x07, 0x04 }` does not fire
  for the key with that usage.

**Deviation.** `shortcut_matches_key` compares a `Physical` entry with
`KeyCode::Unidentified` only. A key whose usage is in the HID tables comes under
its name, so an entry with such a usage never matches its own key.
-/

namespace SoftwareKvm

open Lib

namespace DaemonCore

/-! ## Recorded controls -/

/-- The same controls are recorded as held. -/
def SameControls (c c' : DaemonCore) : Prop :=
  ∀ d k, (c'.latch? d k).isSome = (c.latch? d k).isSome

variable {c c' c'' : DaemonCore} {nowNs : ℕ}

theorem SameControls.of_eq (h : c'.physicalControls = c.physicalControls) : SameControls c c' :=
  fun d k => by rw [latch?_congr h]

theorem SameControls.refl (c : DaemonCore) : SameControls c c := fun _ _ => rfl

theorem SameControls.trans (h : SameControls c c') (h' : SameControls c' c'') :
    SameControls c c'' := fun d k => (h' d k).trans (h d k)

variable (c : DaemonCore)

theorem setLatch_sameControls (d : DeviceId) (k : PhysicalControl)
    (l : LatchedDestination) : SameControls c (c.setLatch d k l) := by
  intro d' k'
  rw [latch?_setLatch]
  split_ifs
  · exact Option.isSome_map
  · rfl

theorem mapLatches_sameControls (f : DeviceId → LatchedDestination → LatchedDestination) :
    SameControls c (c.mapLatches f) := by
  intro d k
  rw [latch?_mapLatches]
  exact Option.isSome_map

theorem pushCleanup_sameControls (x : CleanupCandidate) : SameControls c (c.pushCleanup x) := by
  unfold pushCleanup quarantineKey
  split
  · split_ifs
    · refine SameControls.trans ?_ (setLatch_sameControls _ _ _ _)
      exact .of_eq rfl
    · exact .of_eq rfl
  · exact .of_eq rfl

theorem queueRemoteCleanup_sameControls (affected : HeldFilter) :
    SameControls c (c.queueRemoteCleanup affected).2 :=
  queueRemoteCleanup_induction (P := SameControls c)
    (fun c' x _ _ h => h.trans (pushCleanup_sameControls c' x)) affected (.refl c)

theorem sameControls_capturing : Capturing SameControls where
  trans := .trans
  assign _ _ _ _ _ _ _ _ _ _ := .of_eq rfl
  queue c := queueRemoteCleanup_sameControls c allHeld
  latch := setLatch_sameControls

/-- The core with the transition of a captured event recorded; an event that is
    not recorded leaves it as it is. -/
def recordedCore (captured : CapturedInput) (nowNs : ℕ) : DaemonCore :=
  if c.pendingRemote.isNone && c.tracksEvent captured then
    match c.recordTransition captured.event.sourceDevice
        (PhysicalControl.fromPayload captured.event.payload) nowNs with
    | (.ok _, c₁) => c₁
    | (.error _, _) => c
  else c

/-- `prepare_captured` changes the recorded controls by recording its event only. -/
theorem prepareCaptured_sameControls (captured : CapturedInput) (nowNs : ℕ) :
    SameControls (c.recordedCore captured nowNs) (c.prepareCaptured captured nowNs).2 := by
  have has := prepareCaptured_as c captured nowNs
  unfold recordedCore
  generalize c.prepareCaptured captured nowNs = r at has ⊢
  cases has with
  | busy hpending =>
    rw [Option.isSome_iff_exists] at hpending
    obtain ⟨pending, hpending⟩ := hpending
    rw [hpending]
    exact .refl c
  | untracked htracks =>
    rw [htracks, Bool.and_false]
    exact .refl c
  | refused e c' hnone htracks hrecord =>
    rw [hnone, htracks, hrecord]
    obtain ⟨-, rfl, -⟩ := recordTransition_error hrecord
    exact sameControls_capturing.failClosed c.activateLocal.unready nowNs
  | recorded c₁ previousLatch _ hnone htracks hrecord has =>
    rw [hnone, htracks, hrecord]
    exact sameControls_capturing.recorded has

end DaemonCore

open DaemonCore

/-! ## Held keys -/

/-- The keys that a shortcut entry stands for: a modifier by either side's key, `Backspace` and
    `Escape` by themselves, a HID usage by the key that `key_to_wire` gives that usage. -/
def ShortcutKey.denotes : ShortcutKey → KeyCode → Bool
  | .control, key => key == .named .controlLeft || key == .named .controlRight
  | .alt, key => key == .named .altLeft || key == .named .altRight
  | .shift, key => key == .named .shiftLeft || key == .named .shiftRight
  | .metaKey, key => key == .named .metaLeft || key == .named .metaRight
  | .backspace, key => key == .named .backspace
  | .escape, key => key == .named .escape
  | .physical usagePage usage, key =>
    match keyToWire key with
    | .ok wire => wire.usagePage == usagePage && wire.usage == usage
    | .error _ => false

/-- A core together with the keys that the user holds down. -/
structure ChordRun where
  core : DaemonCore
  held : DeviceId → KeyCode → Bool

namespace ChordRun

/-- No key is held at the start. -/
def start (core : DaemonCore) : ChordRun := ⟨core, fun _ _ => false⟩

variable (s : ChordRun) (captured : CapturedInput)

/-- The key of a physical key event of the local host. -/
def keyEvent : Option (KeyCode × KeyState) :=
  if captured.classification = .physical
      ∧ captured.event.sourceHost = s.core.workspace.localHost then
    match captured.event.payload with
    | .key code state => some (code, state)
    | _ => none
  else none

/-- The held keys after an event: a press puts its key down, a release lifts it. -/
def heldAfter : DeviceId → KeyCode → Bool :=
  match s.keyEvent captured with
  | some (code, .pressed) => fun d k =>
    if d = captured.event.sourceDevice ∧ k = code then true else s.held d k
  | some (code, .released) => fun d k =>
    if d = captured.event.sourceDevice ∧ k = code then false else s.held d k
  | some (_, .repeated) | none => s.held

def apply : CoreAction → ChordRun
  | .prepare captured now => ⟨(s.core.prepareCaptured captured now).2, s.heldAfter captured⟩
  | .process captured now => ⟨(s.core.processCaptured captured now).2, s.heldAfter captured⟩
  | a => ⟨a.apply s.core, s.held⟩

/-- The core can take note of the event: no decision is pending and the device is known. -/
def Attends : Prop :=
  s.keyEvent captured ≠ none →
    s.core.pendingRemote = none ∧ captured.event.sourceDevice.isNil = false

/-- Recording the event meets no capacity limit. -/
def Fits (now : ℕ) : Prop :=
  s.keyEvent captured ≠ none →
    (s.core.recordTransition captured.event.sourceDevice
      (PhysicalControl.fromPayload captured.event.payload) now).1.isOk = true

/-- Key events are attended to, and no device is restored while one of its keys is held. -/
def Attended : CoreAction → Prop
  | .prepare captured _ | .process captured _ => s.Attends captured
  | .op (.restoreLocalDevice device _) => ∀ k, s.held device k = false
  | _ => True

/-- No physical-capacity error. -/
def WithinCapacity : CoreAction → Prop
  | .prepare captured now | .process captured now => s.Fits captured now
  | _ => True

/-- The core has recorded exactly the held keys. -/
def Inv : Prop := ∀ d k, s.held d k = (s.core.latch? d (.key k)).isSome

/-- A key event is a tracked event of its key. -/
theorem keyEvent_some {s : ChordRun} {captured : CapturedInput} {code : KeyCode} {state : KeyState}
    (h : s.keyEvent captured = some (code, state)) :
    captured.event.payload = .key code state ∧ captured.classification = .physical
      ∧ captured.event.sourceHost = s.core.workspace.localHost := by
  unfold keyEvent at h
  split_ifs at h with hlocal
  split at h
  · next hpayload =>
    cases h
    exact ⟨hpayload, hlocal⟩
  · cases h

theorem keyEvent_tracked {s : ChordRun} {captured : CapturedInput} {code : KeyCode}
    {state : KeyState} (h : s.keyEvent captured = some (code, state))
    (hnil : captured.event.sourceDevice.isNil = false) : s.core.tracksEvent captured = true := by
  obtain ⟨hpayload, hclass, hhost⟩ := keyEvent_some h
  simp [tracksEvent, hclass, hhost, hnil, hpayload, InputPayload.isFinite]

variable {s : ChordRun} {captured : CapturedInput} {now : ℕ}

/-- A recorded key event: the core after it, and the latch of its key before. -/
theorem recordedCore_key {code : KeyCode} {state : KeyState}
    (hkey : s.keyEvent captured = some (code, state)) (hattends : s.Attends captured)
    (hfits : s.Fits captured now) :
    ∃ previousLatch, s.core.recordTransition captured.event.sourceDevice
        (PhysicalControl.fromPayload captured.event.payload) now
      = (.ok previousLatch, s.core.recordedCore captured now) := by
  have hne : s.keyEvent captured ≠ none := by rw [hkey]; exact Option.some_ne_none _
  obtain ⟨hpending, hnil⟩ := hattends hne
  have hok := hfits hne
  unfold recordedCore
  rw [hpending, keyEvent_tracked hkey hnil]
  generalize s.core.recordTransition captured.event.sourceDevice
    (PhysicalControl.fromPayload captured.event.payload) now = r at hok ⊢
  obtain ⟨_ | previousLatch, c₁⟩ := r
  · cases hok
  · exact ⟨previousLatch, rfl⟩

/-- An event that is not a key event records no key. -/
theorem recordedCore_other (hkey : s.keyEvent captured = none) (d : DeviceId) (k : KeyCode) :
    (s.core.recordedCore captured now).latch? d (.key k) = s.core.latch? d (.key k) := by
  unfold recordedCore
  split_ifs with htracked
  · rw [Bool.and_eq_true] at htracked
    cases hr : s.core.recordTransition captured.event.sourceDevice
        (PhysicalControl.fromPayload captured.event.payload) now with
    | mk result c₁ =>
      cases result with
      | error e => rfl
      | ok previousLatch =>
        -- the event is physical and local, so its payload is not a key
        have hlocal := htracked.2
        simp only [tracksEvent, Bool.and_eq_true, beq_iff_eq] at hlocal
        rw [keyEvent, if_pos ⟨hlocal.1.1.1, hlocal.1.1.2⟩] at hkey
        cases hpayload : captured.event.payload with
        | key code state =>
          rw [hpayload] at hkey
          cases hkey
        | pointerMove dx dy | scroll dx dy =>
          rw [hpayload] at hr
          cases hr
          rfl
        | pointerButton button state =>
          rw [hpayload] at hr
          cases state with
          | pressed | released =>
            have hlatch := recordTransition_latch hr d (.key k)
            rw [if_neg (by simp)] at hlatch
            exact hlatch
  · rfl

/-- Recording an event keeps the held keys recorded. -/
theorem Inv.recorded (h : s.Inv) (hattends : s.Attends captured) (hfits : s.Fits captured now)
    (d : DeviceId) (k : KeyCode) :
    s.heldAfter captured d k
      = ((s.core.recordedCore captured now).latch? d (.key k)).isSome := by
  unfold heldAfter
  cases hkey : s.keyEvent captured with
  | none =>
    rw [recordedCore_other hkey]
    exact h d k
  | some event =>
    obtain ⟨code, state⟩ := event
    obtain ⟨previousLatch, hr⟩ := recordedCore_key hkey hattends hfits
    obtain ⟨-, hprev, -⟩ := recordTransition_ok hr
    obtain ⟨hpayload, -, -⟩ := keyEvent_some hkey
    rw [hpayload] at hr hprev
    by_cases hdk : d = captured.event.sourceDevice ∧ k = code
    · obtain ⟨rfl, rfl⟩ := hdk
      cases state with
      | pressed =>
        rw [recordTransition_latch hr, if_pos ⟨rfl, rfl⟩]
        simp only [and_self, if_true, recordedLatch]
        cases previousLatch <;> rfl
      | repeated =>
        rw [recordTransition_latch hr, if_pos ⟨rfl, rfl⟩]
        simp only [recordedLatch, hprev]
        exact h _ _
      | released =>
        rw [recordTransition_latch hr, if_pos ⟨rfl, rfl⟩]
        simp [recordedLatch]
    · have hne : ¬ (d = captured.event.sourceDevice ∧ PhysicalControl.key k = .key code) := by
        rintro ⟨rfl, hk⟩
        exact hdk ⟨rfl, PhysicalControl.key.inj hk⟩
      cases state with
      | pressed | repeated | released =>
        rw [recordTransition_latch hr, if_neg hne]
        simpa [hdk] using h d k

theorem Inv.apply (h : s.Inv) {a : CoreAction} (hattended : s.Attended a)
    (hcapacity : s.WithinCapacity a) : (s.apply a).Inv := by
  intro d k
  cases a with
  | prepare captured now =>
    exact (h.recorded hattended hcapacity d k).trans
      (prepareCaptured_sameControls s.core captured now d (.key k)).symm
  | process captured now =>
    refine (h.recorded hattended hcapacity d k).trans ?_
    have hsame := prepareCaptured_sameControls s.core captured now d (.key k)
    show _ = ((s.core.processCaptured captured now).2.latch? d (.key k)).isSome
    rcases processCaptured_eq s.core captured now with ⟨effect, c', hprepare, heq⟩ | ⟨-, heq⟩
    · rw [hprepare] at hsame
      rw [heq, (sameControls_capturing.settling now).failRemoteInput c' effect d (.key k)]
      exact hsame.symm
    · rw [heq]
      exact hsame.symm
  | confirm effect sequence now =>
    exact (h d k).trans
      ((sameControls_capturing.settling now).confirmRemoteInput s.core effect sequence d _).symm
  | fail effect now =>
    exact (h d k).trans ((sameControls_capturing.settling now).failRemoteInput s.core
      effect d _).symm
  | op request =>
    by_cases hforget : ∃ now, request = .restoreLocalDevice d now
    · obtain ⟨now, rfl⟩ := hforget
      show s.held d k = ((s.core.restoreLocalDevice d now).2.latch? d (.key k)).isSome
      fun_cases DaemonCore.restoreLocalDevice s.core d now
      · exact h d k
      · rw [hattended k]
        symm
        rw [Option.isSome_eq_false_iff, Option.isNone_iff_eq_none]
        exact (latch?_forgetDevice (c := s.core) rfl d (.key k)).trans (if_pos rfl)
    · refine (h d k).trans ?_
      refine CoreOp.Edits.invariant (P := fun c' => (s.core.latch? d (.key k)).isSome
            = (c'.latch? d (.key k)).isSome)
          (fun c₁ c₂ hedit heq => heq.trans (Eq.symm ?_)) (request.edits s.core) rfl
      cases hedit with
      | queue affected => exact queueRemoteCleanup_sameControls c₁ affected d (.key k)
      | invalidate endpoint => exact mapLatches_sameControls _ _ d (.key k)
      | commit pending hop hpending =>
        exact mapLatches_sameControls (c₁.rerouteHeld pending.routing) _ d (.key k)
      | forget device now hop =>
        have hne : d ≠ device := by
          rintro rfl
          exact hforget ⟨now, hop⟩
        rw [latch?_forgetDevice rfl, if_neg hne]
      | _ => rfl

end ChordRun

/-! ## Firing -/

namespace DaemonCore

theorem shortcutKeyPressed_iff {c : DaemonCore} {shortcut : ShortcutKey} :
    c.shortcutKeyPressed shortcut = true ↔
      ∃ d k, (c.latch? d (.key k)).isSome = true ∧ shortcutMatchesKey shortcut k = true := by
  simp only [shortcutKeyPressed, List.any_eq_true, OrdMap.values, List.mem_map, Prod.exists]
  constructor
  · rintro ⟨controls, ⟨d, controls', hmem, rfl⟩, control, hcontrol, hmatch⟩
    cases control with
    | button b => cases hmatch
    | key k =>
      refine ⟨d, k, ?_, hmatch⟩
      rw [latch?, OrdMap.mem_entries.mp hmem]
      exact OrdMap.mem_keys_iff_contains.mp hcontrol
  · rintro ⟨d, k, hlatch, hmatch⟩
    unfold latch? at hlatch
    cases hd : c.physicalControls.get? d with
    | none =>
      rw [hd] at hlatch
      cases hlatch
    | some controls =>
      rw [hd] at hlatch
      exact ⟨controls, ⟨d, controls, OrdMap.mem_entries.mpr hd, rfl⟩, .key k,
        OrdMap.mem_keys_iff_contains.mpr hlatch, hmatch⟩

/-- Outside a drain the chord fires exactly if every entry matches. -/
theorem prepareCaptured_reports {c c₁ : DaemonCore} {captured : CapturedInput} {nowNs : ℕ}
    {previousLatch : Option LatchedDestination} (hdrain : c.drainFailsafeKeys = false)
    (hseen : (c.pendingRemote.isNone && c.tracksEvent captured) = true)
    (hrecord : c.recordTransition captured.event.sourceDevice
      (PhysicalControl.fromPayload captured.event.payload) nowNs = (.ok previousLatch, c₁)) :
    reportsFailsafe (c.prepareCaptured captured nowNs).1 = c₁.failsafeMatches := by
  obtain ⟨⟨controls, count, heq⟩, -, hfresh⟩ := recordTransition_ok hrecord
  replace hdrain : c₁.drainFailsafeKeys = false := by
    rw [heq]
    exact hdrain
  rw [Bool.and_eq_true, Option.isNone_iff_eq_none] at hseen
  unfold prepareCaptured
  rw [hseen.1, hseen.2]
  simp only [Option.isSome_none, Bool.false_eq_true, if_false, Bool.not_true]
  rw [hrecord]
  simp only
  cases hmatch : c₁.failsafeMatches with
  | true =>
    simp only [prepareRecorded, hmatch, hdrain, Bool.not_false, Bool.and_self, if_true]
    split <;> rfl
  | false =>
    have has := prepareRecorded_as c₁ captured.event _
      ((PhysicalControl.fromPayload captured.event.payload).map Prod.snd) _ nowNs hfresh
    generalize prepareRecorded c₁ _ _ _ _ _ = r at has ⊢
    cases has with
    | closed _ hrefusal => exact hrefusal.quiet
    | activated _ _ hmatch' =>
      rw [hmatch] at hmatch'
      cases hmatch'
    | passes | inert | barred | draining | quarantined | remote => rfl

end DaemonCore

/-- Only a `Physical` entry can denote a key that it does not match. -/
theorem ShortcutKey.matches_of_denotes {shortcut : ShortcutKey} {k : KeyCode}
    (h : shortcut.denotes k = true) :
    shortcutMatchesKey shortcut k = true ∨ ∃ page usage, shortcut = .physical page usage := by
  cases shortcut with
  | physical page usage => exact Or.inr ⟨page, usage, rfl⟩
  | control | alt | shift | metaKey =>
    simp only [denotes, Bool.or_eq_true, beq_iff_eq] at h
    rcases h with rfl | rfl <;> exact Or.inl rfl
  | backspace | escape =>
    simp only [denotes, beq_iff_eq] at h
    subst h
    exact Or.inl rfl

theorem shortcutMatchesKey_physical {page usage : ℕ} {k : KeyCode} :
    shortcutMatchesKey (.physical page usage) k = true ↔ k = .unidentified page usage := by
  cases k with
  | named key => simp [shortcutMatchesKey]
  | unidentified page' usage' => simp [shortcutMatchesKey]

/-- In every run from `DaemonCore::new` without physical-capacity errors, in which the core can
    take note of every key event and restores no device with a held key: a press after which every
    shortcut entry is denoted by a held key reports the failsafe, unless it still drains, exactly
    if each `Physical` entry is held as an `Unidentified` key. -/
theorem emergencyChord_fires_iff {config : Config} {workspace : WorkspaceState}
    {core : DaemonCore} (hnew : DaemonCore.new config workspace = .ok core)
    {actions : List CoreAction}
    (hrun : Admissible (fun s a => ChordRun.Attended s a ∧ ChordRun.WithinCapacity s a)
      ChordRun.apply (ChordRun.start core) actions)
    {captured : CapturedInput} {code : KeyCode} {now : ℕ} {s : ChordRun}
    (hs : s = execute ChordRun.apply (ChordRun.start core) actions)
    (hpress : s.keyEvent captured = some (code, .pressed)) (hattends : s.Attends captured)
    (hfits : s.Fits captured now) (hdrain : s.core.drainFailsafeKeys = false)
    (hheld : ∀ shortcut ∈ s.core.config.failsafe.shortcut,
      ∃ d k, s.heldAfter captured d k = true ∧ shortcut.denotes k = true) :
    reportsFailsafe (s.core.prepareCaptured captured now).1 = true ↔
      ∀ page usage, .physical page usage ∈ s.core.config.failsafe.shortcut →
        ∃ d, s.heldAfter captured d (.unidentified page usage) = true := by
  have hstep : ∀ s a, (ChordRun.Attended s a ∧ ChordRun.WithinCapacity s a) → ChordRun.Inv s →
      ChordRun.Inv (ChordRun.apply s a) := fun s a henabled hinv => hinv.apply henabled.1 henabled.2
  have hinv : s.Inv := hs ▸ hrun.invariant hstep
    fun d k => by simp [ChordRun.start, latch?, (DaemonCore.new_created hnew).physicalControls]
  have hrecorded := hinv.recorded hattends hfits
  obtain ⟨previousLatch, hr⟩ := ChordRun.recordedCore_key hpress hattends hfits
  obtain ⟨⟨controls, count, heq⟩, -, -⟩ := recordTransition_ok hr
  obtain ⟨hpending, hnil⟩ := hattends (by rw [hpress]; exact Option.some_ne_none _)
  have hconfig : (s.core.recordedCore captured now).config = s.core.config := by rw [heq]
  have hseen : (s.core.pendingRemote.isNone && s.core.tracksEvent captured) = true := by
    rw [hpending, ChordRun.keyEvent_tracked hpress hnil]
    rfl
  rw [prepareCaptured_reports hdrain hseen hr, failsafeMatches, List.all_eq_true, hconfig]
  constructor
  · intro hall page usage hmem
    obtain ⟨d, k, hlatch, hmatch⟩ := shortcutKeyPressed_iff.mp (hall _ hmem)
    obtain rfl := shortcutMatchesKey_physical.mp hmatch
    exact ⟨d, (hrecorded d _).trans hlatch⟩
  · intro hphysical shortcut hmem
    rw [shortcutKeyPressed_iff]
    obtain ⟨d, k, hk, hdenotes⟩ := hheld shortcut hmem
    rcases ShortcutKey.matches_of_denotes hdenotes with hmatch | ⟨page, usage, rfl⟩
    · exact ⟨d, k, (hrecorded d k).symm.trans hk, hmatch⟩
    · obtain ⟨d', hd'⟩ := hphysical page usage hmem
      exact ⟨d', .unidentified page usage, (hrecorded d' _).symm.trans hd',
        shortcutMatchesKey_physical.mpr rfl⟩

namespace Sample

/-- The default chord up to its last key. -/
def chordKeys : List CoreAction :=
  [.prepare (key .controlLeft .pressed) 0, .prepare (key .altRight .pressed) 0,
   .prepare (key .shiftLeft .pressed) 0]

/-- A configuration whose chord is the key with HID usage `0x04`, the `A` key. -/
def usageConfig : Config := { config with failsafe := { shortcut := [.physical 0x07 0x04] } }

def usageCore : DaemonCore :=
  (DaemonCore.new usageConfig workspace).toOption.get (by decide +kernel)

end Sample

open Sample

theorem emergencyChord_fires_default :
    reportsFailsafe ((execute ChordRun.apply (ChordRun.start core)
      chordKeys).core.prepareCaptured (key .backspace .pressed) 0).1 = true := by
  have hnew : DaemonCore.new config workspace = .ok core := rfl
  have hrun : Admissible (fun s a => ChordRun.Attended s a ∧ ChordRun.WithinCapacity s a)
      ChordRun.apply (ChordRun.start core) chordKeys := by
    refine ⟨⟨fun _ => ?_, fun _ => ?_⟩, ⟨fun _ => ?_, fun _ => ?_⟩, ⟨fun _ => ?_, fun _ => ?_⟩,
      trivial⟩ <;> decide +kernel
  have hshortcut : (execute ChordRun.apply (ChordRun.start core)
      chordKeys).core.config.failsafe.shortcut = [.control, .alt, .shift, .backspace] := by
    decide +kernel
  have hpress : (execute ChordRun.apply (ChordRun.start core) chordKeys).keyEvent
      (key .backspace .pressed) = some (.named .backspace, .pressed) := by decide +kernel
  refine (emergencyChord_fires_iff hnew hrun rfl hpress (fun _ => by decide +kernel)
    (fun _ => by decide +kernel) (by decide +kernel) ?_).mpr ?_
  · rw [hshortcut]
    intro shortcut hmem
    simp only [List.mem_cons, List.not_mem_nil, or_false] at hmem
    rcases hmem with rfl | rfl | rfl | rfl
    · exact ⟨keyboard, .named .controlLeft, by decide +kernel, rfl⟩
    · exact ⟨keyboard, .named .altRight, by decide +kernel, rfl⟩
    · exact ⟨keyboard, .named .shiftLeft, by decide +kernel, rfl⟩
    · exact ⟨keyboard, .named .backspace, by decide +kernel, rfl⟩
  · rw [hshortcut]
    intro page usage hmem
    simp at hmem

/-- The `A` key is held and is the only configured key, but the chord does not fire. -/
theorem emergencyChord_silent :
    DaemonCore.new usageConfig workspace = .ok usageCore
      ∧ usageConfig.validate = .ok ()
      ∧ (ChordRun.start usageCore).keyEvent (key .keyA .pressed)
        = some (.named .keyA, .pressed)
      ∧ (ChordRun.start usageCore).Attends (key .keyA .pressed)
      ∧ (ChordRun.start usageCore).Fits (key .keyA .pressed) 0
      ∧ usageCore.drainFailsafeKeys = false
      ∧ (∀ shortcut ∈ usageCore.config.failsafe.shortcut,
        ∃ d k, (ChordRun.start usageCore).heldAfter (key .keyA .pressed) d k = true
          ∧ shortcut.denotes k = true)
      ∧ reportsFailsafe
        (usageCore.prepareCaptured (key .keyA .pressed) 0).1 = false := by
  refine ⟨rfl, by decide +kernel, by decide +kernel, fun _ => by decide +kernel,
    fun _ => by decide +kernel, by decide +kernel, ?_, by decide +kernel⟩
  rintro shortcut hmem
  obtain rfl := List.mem_singleton.mp hmem
  exact ⟨keyboard, .named .keyA, by decide +kernel, by decide +kernel⟩

end SoftwareKvm
