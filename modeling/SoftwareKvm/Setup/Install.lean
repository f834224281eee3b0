import SoftwareKvm.Lib.Files
import SoftwareKvm.Setup.State

/-!
# Installing a peer

Models of `secure_write`, `SetupService::save` and
`SetupService::install_peer_bundle` (`control-panel/src-tauri/src/setup.rs`). The
panel has three copies of what it knows about its peer: the setup in memory, the
setup file and the trust certificate.

* `writeFile_triple`: what a write leaves under its target;
* `installPeerBundle_refused`: when a refused installation leaves all three
  copies as they were. The trust certificate is written before the check for a
  configured peer, and the setup in memory is changed before it is saved.
-/

namespace SoftwareKvm

open Lib

/-- The files of the panel's directory that an installation touches; a temporary
    file has its target's name with a fresh UUID. -/
inductive PanelFile
  | state
  | trust
  | temporary (target : PanelFile) (uuid : ℕ)
  deriving DecidableEq

abbrev PanelFile.Contents : Type := List UInt8

/-- Which of the file operations of `secure_write` fail, in the order of the code. -/
structure WriteFaults where
  openTemporary : Bool := false
  secureAcl : Bool := false
  torn : List PanelFile.Contents := []
  writeTemporary : Bool := false
  setPermissions : Bool := false
  rename : Bool := false
  removeTarget : Bool := false
  renameAgain : Bool := false

/-- The panel: its setup in memory and its directory. -/
structure Panel where
  inner : StoredSetup
  disk : Disk PanelFile PanelFile.Contents

namespace Panel

/-! ## Writing a file -/

variable (faults : WriteFaults)

/-- The temporary file of `secure_write`. -/
def prepareTemporary (temporary : PanelFile)
    (contents : PanelFile.Contents) : Step FileError (Disk PanelFile PanelFile.Contents) Unit := do
  Disk.createNew faults.openTemporary temporary []
  Step.guard .other fun _ => !faults.secureAcl
  Disk.write faults.writeTemporary faults.torn temporary contents
  Step.guard .other fun _ => !faults.setPermissions

/-- The rename of `secure_write`, tried again once the target is out of the way. -/
def moveIntoPlace (temporary target : PanelFile) :
    Step FileError (Disk PanelFile PanelFile.Contents) Unit := do
  match ← (Disk.rename faults.rename temporary target).attempt with
  | .ok () => pure ()
  | .error (_ : FileError) =>
    Disk.remove faults.removeTarget target
    Disk.rename faults.renameAgain temporary target

def secureWrite (uuid : ℕ) (target : PanelFile)
    (contents : PanelFile.Contents) : Step FileError (Disk PanelFile PanelFile.Contents) Unit := do
  prepareTemporary faults (.temporary target uuid) contents
  moveIntoPlace faults (.temporary target uuid) target

/-- The temporary file is complete. -/
def Prepared (temporary : PanelFile) (files : Directory PanelFile PanelFile.Contents) : Prop :=
  (faults.openTemporary = false ∧ files temporary = none) ∧ faults.secureAcl = false ∧
    faults.writeTemporary = false ∧ faults.setPermissions = false

/-- One of the two renames goes through. -/
def Writes (uuid : ℕ) (target : PanelFile)
    (files : Directory PanelFile PanelFile.Contents) : Prop :=
  Prepared faults (.temporary target uuid) files ∧ (faults.rename = false ∨
    (files target ≠ none ∧ faults.removeTarget = false ∧ faults.renameAgain = false))

/-- The target is removed to make room and the second rename fails. -/
def LosesTarget (uuid : ℕ) (target : PanelFile)
    (files : Directory PanelFile PanelFile.Contents) : Prop :=
  Prepared faults (.temporary target uuid) files ∧ files target ≠ none ∧
    faults.rename = true ∧ faults.removeTarget = false ∧ faults.renameAgain = true

section

variable {faults : WriteFaults} {uuid : ℕ} {target : PanelFile} {contents : PanelFile.Contents}
  {old files : Directory PanelFile PanelFile.Contents}

open Step (Triple)
open Disk (During)

/-- Nothing but the temporary file differs from `old`. -/
def Outside (temporary : PanelFile) (old files : Directory PanelFile PanelFile.Contents) : Prop :=
  ∀ name, name ≠ temporary → files name = old name

theorem Outside.update {temporary : PanelFile} (h : Outside temporary old files)
    (value : Option PanelFile.Contents) :
    Outside temporary old (Function.update files temporary value) := by
  intro name hname
  rw [Function.update_of_ne hname]
  exact h name hname

/-- What a failed write leaves behind: the target as it was, or nothing where it
    was removed to make room. -/
def LeftBehind (faults : WriteFaults) (uuid : ℕ) (target : PanelFile)
    (old files : Directory PanelFile PanelFile.Contents) : Prop :=
  (∀ name, name ≠ .temporary target uuid → name ≠ target → files name = old name) ∧
    ¬ Writes faults uuid target old ∧
    ((¬ LosesTarget faults uuid target old ∧ files target = old target) ∨
      (LosesTarget faults uuid target old ∧ files target = none))

/-- What a successful write leaves behind. -/
def Stored (faults : WriteFaults) (uuid : ℕ) (target : PanelFile) (contents : PanelFile.Contents)
    (old files : Directory PanelFile PanelFile.Contents) : Prop :=
  (∀ name, name ≠ .temporary target uuid → name ≠ target → files name = old name) ∧
    Writes faults uuid target old ∧ files target = some contents

theorem target_ne_temporary : target ≠ .temporary target uuid := by
  intro h
  have hsize := congrArg sizeOf h
  simp only [PanelFile.temporary.sizeOf_spec] at hsize
  omega

theorem LeftBehind.unprepared (h : Outside (.temporary target uuid) old files)
    (hprepared : ¬ Prepared faults (.temporary target uuid) old) :
    LeftBehind faults uuid target old files :=
  ⟨fun name htemporary _ => h name htemporary, fun hwrites => hprepared hwrites.1,
    .inl ⟨fun hloses => hprepared hloses.1, h target target_ne_temporary⟩⟩

theorem prepareTemporary_triple :
    Triple (During (fun _ => True) fun files => files = old)
      (prepareTemporary faults (.temporary target uuid) contents)
      (fun _ => During (fun _ => True) fun files =>
        Outside (.temporary target uuid) old files ∧
          files (.temporary target uuid) = some contents ∧
          Prepared faults (.temporary target uuid) old)
      (During (fun _ => True) (LeftBehind faults uuid target old)) := by
  refine .bind (Disk.createNew_triple (q := fun files =>
      Outside (.temporary target uuid) old files ∧ faults.openTemporary = false ∧
        old (.temporary target uuid) = none) (fun _ _ => trivial) ?_ ?_) fun _ =>
    .bind (.guard (r := fun _ => During (fun _ => True) fun files =>
      Outside (.temporary target uuid) old files ∧ (faults.openTemporary = false ∧
        old (.temporary target uuid) = none) ∧ faults.secureAcl = false) ?_ ?_) fun _ =>
    .bind (Disk.write_triple (q := fun files =>
      Outside (.temporary target uuid) old files ∧
        files (.temporary target uuid) = some contents ∧ (faults.openTemporary = false ∧
        old (.temporary target uuid) = none) ∧ faults.secureAcl = false ∧
        faults.writeTemporary = false) (fun _ _ => trivial) ?_ ?_ ?_) fun _ => .guard ?_ ?_
  · rintro files hfault rfl hnone
    exact ⟨Outside.update (fun _ _ => rfl) _, hfault, hnone⟩
  · rintro disk hfailed h
    refine ⟨.unprepared (fun name _ => congrFun h.1 name) fun hprepared => ?_, h.2⟩
    rcases hfailed with hfault | hname
    · exact Bool.false_ne_true (hprepared.1.1.symm.trans hfault)
    · exact hname ((congrFun h.1 _).trans hprepared.1.2)
  · exact fun disk h hacl => h.mono fun files h => ⟨h.1, h.2, by simpa using hacl⟩
  · intro disk h hacl
    refine h.mono fun files h => .unprepared h.1 fun hprepared => ?_
    simp [hprepared.2.1] at hacl
  · exact fun files value h => ⟨h.1.update _, h.2⟩
  · exact fun files hfault h => ⟨h.1.update _, Function.update_self .., h.2.1, h.2.2, hfault⟩
  · intro disk hfault h
    refine h.mono fun files h => .unprepared h.1 fun hprepared => ?_
    exact Bool.false_ne_true (hprepared.2.2.1.symm.trans hfault)
  · intro disk h hset
    exact h.mono fun files h => ⟨h.1, h.2.1, h.2.2.1, h.2.2.2.1, h.2.2.2.2, by simpa using hset⟩
  · intro disk h hset
    refine h.mono fun files h => .unprepared h.1 fun hprepared => ?_
    simp [hprepared.2.2.2] at hset

theorem moveIntoPlace_triple : Triple (During (fun _ => True) fun files =>
        Outside (.temporary target uuid) old files ∧
          files (.temporary target uuid) = some contents ∧
          Prepared faults (.temporary target uuid) old)
      (moveIntoPlace faults (.temporary target uuid) target)
      (fun _ => During (fun _ => True) (Stored faults uuid target contents old))
      (During (fun _ => True) (LeftBehind faults uuid target old)) := by
  have hne : target ≠ .temporary target uuid := target_ne_temporary
  -- a rename that goes through stores the contents, over whatever the target holds
  have hstored : ∀ {files : Directory PanelFile PanelFile.Contents} {value : PanelFile.Contents},
      (∀ name, name ≠ .temporary target uuid → name ≠ target → files name = old name) →
      files (.temporary target uuid) = some contents →
      files (.temporary target uuid) = some value → Writes faults uuid target old →
      Stored faults uuid target contents old
        (Function.update (Function.update files (.temporary target uuid) none) target
          (some value)) := by
    intro files value hothers hcontents hvalue hwrites
    refine ⟨fun name htemporary htarget => ?_, hwrites, ?_⟩
    · rw [Function.update_of_ne htarget, Function.update_of_ne htemporary]
      exact hothers name htemporary htarget
    · rw [Function.update_self, ← hvalue, hcontents]
  refine .bind (.attempt (Disk.rename_triple (q := Stored faults uuid target contents old)
    (f := fun disk => faults.rename = true ∧ During (fun _ => True) (fun files =>
      Outside (.temporary target uuid) old files ∧
        files (.temporary target uuid) = some contents ∧
        Prepared faults (.temporary target uuid) old) disk)
    (fun _ _ => trivial) ?_ ?_ fun disk hfault h => ⟨hfault, h⟩)) fun result => ?_
  · exact fun files h => by simp [h.2.1]
  · exact fun files value hfault h hsource =>
      hstored (fun name hname _ => h.1 name hname) h.2.1 hsource ⟨h.2.2, .inl hfault⟩
  · cases result with
    | ok _ => exact .pure () fun disk h => h
    | error _ =>
      rintro disk ⟨hrename, h⟩
      refine Triple.bind (Disk.remove_triple (q := fun files =>
        (∀ name, name ≠ .temporary target uuid → name ≠ target → files name = old name) ∧
          files target = none ∧ files (.temporary target uuid) = some contents ∧
          faults.removeTarget = false ∧ old target ≠ none ∧
          Prepared faults (.temporary target uuid) old) (fun _ _ => trivial) ?_ ?_)
        (fun _ => Disk.rename_triple (fun _ _ => trivial) ?_ ?_ ?_) disk h
      · intro files hfault h hpresent
        refine ⟨fun name htemporary htarget => ?_, Function.update_self .., ?_, hfault, ?_, h.2.2⟩
        · rw [Function.update_of_ne htarget]
          exact h.1 name htemporary
        · rw [Function.update_of_ne hne.symm]
          exact h.2.1
        · rwa [← h.1 target hne]
      · intro disk hfailed h
        have hkept : ¬ (old target ≠ none ∧ faults.removeTarget = false) := by
          rintro ⟨hpresent, hremoved⟩
          rcases hfailed with hfault | hnone
          · exact Bool.false_ne_true (hremoved.symm.trans hfault)
          · exact hpresent ((h.1.1 target hne).symm.trans hnone)
        refine ⟨⟨fun name hname _ => h.1.1 name hname, ?_, .inl ⟨?_, h.1.1 target hne⟩⟩, h.2⟩
        · rintro ⟨-, hfirst | hsecond⟩
          · exact Bool.false_ne_true (hfirst.symm.trans hrename)
          · exact hkept ⟨hsecond.1, hsecond.2.1⟩
        · exact fun hloses => hkept ⟨hloses.2.1, hloses.2.2.2.1⟩
      · exact fun files h => by simp [h.2.2.1]
      · exact fun files value hfault h hsource => hstored h.1 h.2.2.1 hsource
          ⟨h.2.2.2.2.2, .inr ⟨h.2.2.2.2.1, h.2.2.2.1, hfault⟩⟩
      · intro disk hfault h
        refine h.mono fun files h => ⟨h.1, ?_,
          .inr ⟨⟨h.2.2.2.2.2, h.2.2.2.2.1, hrename, h.2.2.2.1, hfault⟩, h.2.1⟩⟩
        rintro ⟨-, hfirst | hsecond⟩
        · exact Bool.false_ne_true (hfirst.symm.trans hrename)
        · exact Bool.false_ne_true (hsecond.2.2.symm.trans hfault)

end

/-! ## Installing a bundle -/

/-- Which file operations of an installation fail, and the UUIDs of its temporary files. -/
structure InstallFaults where
  trust : WriteFaults := {}
  trustUuid : ℕ := 0
  state : WriteFaults := {}
  stateUuid : ℕ := 1

section

variable (codec : PanelCodec)

/-- `secure_write` in the panel's directory, its failure a `coarse_error`. -/
def writeFile (faults : WriteFaults) (uuid : ℕ) (target : PanelFile)
    (contents : PanelFile.Contents) : Step SetupError Panel Unit :=
  ((secureWrite faults uuid target contents).mapError fun _ => SetupError.coarse).zoom
    (·.disk) fun panel disk => { panel with disk }

/-- `SetupService::save` of the setup in memory. -/
def save (faults : WriteFaults) (uuid : ℕ) : Step SetupError Panel Unit := do
  let bytes ← Step.need .coarse fun panel => codec.setupToJson panel.inner
  writeFile faults uuid .state bytes

def installPeerBundle (platform : Platform) (faults : InstallFaults) (bundle : List Char)
    (role : WorkspaceRole) : Step SetupError Panel Unit := do
  let (peer, certificate) ← Step.check fun panel =>
    codec.validatePeerBundle platform panel.inner bundle
  writeFile faults.trust faults.trustUuid .trust certificate
  Step.guard .coarse fun panel => panel.inner.peer.isNone
  Step.update fun panel => { panel with inner := panel.inner.withPeer peer role }
  save codec faults.state faults.stateUuid

end

/-- The three copies of what the panel knows about its peer are the same. -/
def SameCopies (panel panel' : Panel) : Prop :=
  panel'.inner = panel.inner ∧ panel'.disk.files .state = panel.disk.files .state ∧
    panel'.disk.files .trust = panel.disk.files .trust

section

variable {codec : PanelCodec} {platform : Platform} {faults : InstallFaults} {bundle : List Char}
  {role : WorkspaceRole} {panel panel' : Panel} {error : SetupError}

/-- Writing one file leaves the setup in memory alone. -/
theorem writeFile_triple (writeFaults : WriteFaults) (uuid : ℕ) (target : PanelFile)
    (contents : PanelFile.Contents) (panel : Panel) :
    Step.Triple (fun p => p = panel) (writeFile writeFaults uuid target contents)
      (fun _ p => p.inner = panel.inner ∧
        Stored writeFaults uuid target contents panel.disk.files p.disk.files)
      (fun p => p.inner = panel.inner ∧
        LeftBehind writeFaults uuid target panel.disk.files p.disk.files) := by
  rintro p rfl
  have h : Step.Triple (·.files = p.disk.files) (secureWrite writeFaults uuid target contents)
      (fun _ disk => Stored writeFaults uuid target contents p.disk.files disk.files)
      (fun disk => LeftBehind writeFaults uuid target p.disk.files disk.files) :=
    .weaken (.conseq (.bind prepareTemporary_triple fun _ => moveIntoPlace_triple)
      (fun _ hdisk => ⟨hdisk, fun _ _ => trivial⟩) fun _ _ h => h.1) fun _ h => h.1
  replace h := h p.disk rfl
  unfold writeFile Step.zoom Step.mapError
  generalize secureWrite writeFaults uuid target contents p.disk = run at h ⊢
  obtain ⟨_ | _, disk⟩ := run
  · exact ⟨rfl, h⟩
  · exact ⟨rfl, h⟩

theorem save_inner (writeFaults : WriteFaults) (uuid : ℕ) :
    Step.Ensures (Step.Same Panel.inner) (save codec writeFaults uuid) :=
  .bind (.need _ _) fun _ => .zoom fun _ => rfl

/-- When a refused installation leaves everything as it was: writing the certificate
    fails without losing the old one, or it writes what was there. -/
def Harmless (faults : InstallFaults) (panel : Panel) (certificate : PanelFile.Contents) : Prop :=
  ¬ LosesTarget faults.trust faults.trustUuid .trust panel.disk.files ∧
    (Writes faults.trust faults.trustUuid .trust panel.disk.files →
      panel.inner.peer ≠ none ∧ panel.disk.files .trust = some certificate)

/-- A certificate that could not be written was lost, or nothing has changed. -/
theorem sameCopies_of_leftBehind {certificate : PanelFile.Contents}
    (hinner : panel'.inner = panel.inner)
    (h : LeftBehind faults.trust faults.trustUuid .trust panel.disk.files panel'.disk.files) :
    SameCopies panel panel' ↔ Harmless faults panel certificate := by
  obtain ⟨hothers, hwrites, ⟨hkept, htrust⟩ | ⟨hloses, htrust⟩⟩ := h
  · exact ⟨fun _ => ⟨hkept, fun h => absurd h hwrites⟩,
      fun _ => ⟨hinner, hothers _ (by simp) (by simp), htrust⟩⟩
  · constructor
    · intro hsame
      exact absurd (hsame.2.2.symm.trans htrust) hloses.2.1
    · exact fun hharmless => absurd hloses hharmless.1

/-- A certificate that was written is harmless over a peer it belongs to. -/
theorem sameCopies_of_stored {certificate : PanelFile.Contents}
    (hinner : panel'.inner = panel.inner)
    (h : Stored faults.trust faults.trustUuid .trust certificate panel.disk.files panel'.disk.files)
    (hpeer : panel.inner.peer ≠ none) :
    SameCopies panel panel' ↔ Harmless faults panel certificate := by
  obtain ⟨hothers, hwrites, htrust⟩ := h
  have hkept : ¬ LosesTarget faults.trust faults.trustUuid .trust panel.disk.files := by
    intro hloses
    rcases hwrites.2 with hfirst | hsecond
    · exact Bool.false_ne_true (hfirst.symm.trans hloses.2.2.1)
    · exact Bool.false_ne_true (hsecond.2.2.symm.trans hloses.2.2.2.2)
  constructor
  · intro hsame
    exact ⟨hkept, fun _ => ⟨hpeer, hsame.2.2.symm.trans htrust⟩⟩
  · intro hharmless
    exact ⟨hinner, hothers _ (by simp) (by simp), htrust.trans (hharmless.2 hwrites).2.symm⟩

/-- A refused installation leaves the setup in memory, the setup file and the trust
    certificate as they were exactly if the bundle is not valid, or writing the
    certificate fails without losing the old one, or it writes what was there. -/
theorem installPeerBundle_refused
    (h : installPeerBundle codec platform faults bundle role panel = (.error error, panel')) :
    SameCopies panel panel' ↔
      ∀ peer certificate, codec.validatePeerBundle platform panel.inner bundle =
          .ok (peer, certificate) → Harmless faults panel certificate := by
  have hvalidated : ∀ {peer certificate} {c : Prop},
      codec.validatePeerBundle platform panel.inner bundle = .ok (peer, certificate) →
      (c ↔ Harmless faults panel certificate) → (c ↔ ∀ peer certificate,
        codec.validatePeerBundle platform panel.inner bundle = .ok (peer, certificate) →
          Harmless faults panel certificate) := by
    intro peer certificate c hvalid hc
    rw [hc]
    constructor
    · intro h peer' certificate' hvalid'
      cases hvalid.symm.trans hvalid'
      exact h
    · exact fun h => h peer certificate hvalid
  refine Step.Triple.of_error (p := fun p => p = panel) (q := fun _ _ => True)
    (f := fun p => SameCopies panel p ↔ _) (.bind (.check (q := fun valid p => p = panel ∧
      codec.validatePeerBundle platform panel.inner bundle = .ok valid) ?_ ?_) ?_) rfl h
  · rintro _ valid rfl hvalid
    exact ⟨rfl, hvalid⟩
  · rintro _ error rfl hvalid
    simp [hvalid, SameCopies]
  · rintro ⟨peer, certificate⟩ p ⟨rfl, hvalid⟩
    refine Step.Triple.bind (.weaken (writeFile_triple _ _ _ _ p) ?_) (fun _ => .bind
      (.guard (r := fun _ p' => p'.inner = p.inner ∧ p.inner.peer = none ∧ Writes faults.trust
        faults.trustUuid .trust p.disk.files) ?_ ?_) fun _ => .bind
      (.update (r := fun _ p' => p'.inner.peer ≠ none ∧ p.inner.peer = none ∧ Writes faults.trust
        faults.trustUuid .trust p.disk.files) ?_) fun _ => ?_) p rfl
    · exact fun p' h => hvalidated hvalid (sameCopies_of_leftBehind h.1 h.2)
    · exact fun p' h hpeer => ⟨h.1, by simpa [h.1] using hpeer, h.2.2.1⟩
    · exact fun p' h hpeer =>
        hvalidated hvalid (sameCopies_of_stored h.1 h.2
          (by simpa [h.1, Option.isSome_iff_ne_none] using hpeer))
    · exact fun p' h => ⟨nofun, h.2⟩
    · -- from here on the setup in memory has the peer, whatever becomes of the file
      refine .weaken (.conseq (.of_ensures (save_inner _ _) ?_ fun _ h => h) (fun _ h => h)
        fun _ _ _ => trivial) fun p' h => hvalidated hvalid ?_
      · exact fun p₁ p₂ hsame h => ⟨hsame ▸ h.1, h.2⟩
      · constructor
        · intro hcopies
          exact absurd h.2.1 (hcopies.1 ▸ h.1)
        · intro hharmless
          exact absurd h.2.1 (hharmless.2 h.2.2).1

/-- An installation leaves the peer as it was, or sets the bundle it was given where
    there was none. -/
theorem installPeerBundle_peer (codec : PanelCodec) (platform : Platform) (faults : InstallFaults)
    (bundle : List Char) (role : WorkspaceRole) (panel : Panel) :
    ((installPeerBundle codec platform faults bundle role).ignore panel).inner.peer =
        panel.inner.peer ∨
      ∃ peer certificate,
        codec.validatePeerBundle platform panel.inner bundle = .ok (peer, certificate) ∧
        ((installPeerBundle codec platform faults bundle role).ignore panel).inner.peer =
          some peer := by
  refine Step.Triple.ignore (p := fun p => p = panel) (r := fun p => p.inner.peer =
    panel.inner.peer ∨ ∃ peer certificate, codec.validatePeerBundle platform panel.inner bundle =
      .ok (peer, certificate) ∧ p.inner.peer = some peer) ?_ rfl
  refine .bind (.check (q := fun valid p => p = panel ∧
    codec.validatePeerBundle platform panel.inner bundle = .ok valid) ?_ ?_) ?_
  · rintro _ valid rfl hvalid
    exact ⟨rfl, hvalid⟩
  · rintro _ error rfl hvalid
    exact .inl rfl
  · rintro ⟨peer, certificate⟩
    refine .of_fact fun hvalid => .bind (.conseq (.weaken (writeFile_triple _ _ _ _ panel)
        fun p h => .inl (congrArg _ h.1)) (fun _ h => h) fun _ p h => h.1) fun _ =>
      .bind (.guard (r := fun _ _ => True) (fun _ _ _ => trivial)
        fun _ h _ => .inl (congrArg _ h)) fun _ =>
      .bind (.update (r := fun _ p => p.inner.peer = some peer) fun _ _ => rfl) fun _ => ?_
    refine .weaken (.conseq (.of_ensures (save_inner _ _) ?_ fun _ h => h) (fun _ h => h)
      fun _ p h => .inr ⟨peer, certificate, hvalid, h⟩)
      fun p h => .inr ⟨peer, certificate, hvalid, h⟩
    exact fun p₁ p₂ hsame h => hsame ▸ h

end

/-! ## A sample panel -/

namespace Sample

open PanelCodec.Sample

def storedLocal : StoredLocal :=
  ⟨2, ['l'], ['q'], ['L'], ['s'], List.replicate 64 'b', ['y']⟩

/-- The panel paired with the computer of certificate `A`. -/
def paired : Panel where
  inner :=
    { draftHostId := []
      draftPeerId := []
      storedLocal := some storedLocal
      peer := some (bundle 'A') }
  disk := ⟨fun name => if name = .trust then some [65] else none, []⟩

/-- Importing a bundle over a configured peer is refused, and its certificate has
    taken the place of that peer's. -/
theorem refused_import_replaces_trust :
    (installPeerBundle codec .macOS {} ['B'] .unassigned paired).1 = .error .coarse ∧
      paired.disk.files .trust = some [65] ∧
      (installPeerBundle codec .macOS {} ['B'] .unassigned paired).2.disk.files .trust =
        some [66] := by
  decide +kernel

/-- Refused before the certificate could be written. -/
theorem installPeerBundle_refused_unwritten :
    (installPeerBundle codec .macOS { trust := { openTemporary := true } } ['B'] .unassigned
      paired).1 = .error .coarse ∧
    SameCopies paired (installPeerBundle codec .macOS { trust := { openTemporary := true } } ['B']
      .unassigned paired).2 := by
  have hrefused : (installPeerBundle codec .macOS { trust := { openTemporary := true } } ['B']
      .unassigned paired).1 = .error .coarse := by decide +kernel
  refine ⟨hrefused, (installPeerBundle_refused (Prod.ext hrefused rfl)).mpr fun _ _ _ => ⟨?_, ?_⟩⟩
  · exact fun hloses => absurd hloses.1.1.1 (by decide)
  · exact fun hwrites => absurd hwrites.1.1.1 (by decide)

end Sample

end Panel

end SoftwareKvm
