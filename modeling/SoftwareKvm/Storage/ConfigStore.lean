import SoftwareKvm.Lib.Files
import SoftwareKvm.Lib.Runs
import SoftwareKvm.Types.Config

/-!
# The configuration file

Models of `decode_config` and `encode_config` (`kvm-config/src/migrate.rs`) and
of `FileConfigStore` (`store.rs`). The parent directory of the configuration is
a `Disk` whose operations fail as `SaveFaults` says. TOML itself is a parameter
with the two facts about what it writes that the store relies on.

A save leaves the directory in one of three shapes at every moment
(`save_shapes`): the primary file as it was, the primary moved to the backup, or
the new contents published.

* `load_crashed_save`: at any moment of a save, `load` finds the old
  configuration or the new one;
* `load_after_crashes`: the same over a whole sequence of interrupted saves;
* `load_after_failed_save`: when a save that fails has changed what `load` finds.
-/

namespace SoftwareKvm

open Lib

/-! ## Schemas -/

/-- The variants of `ConfigError` that the file store adds to those of `Config::validate`; a path
    is a name in the parent directory, or the parent itself. -/
inductive StoreError
  | read (name : String)
  | write (name : String)
  | writeParent
  | decode
  | encode
  | sizeLimit
  | futureVersion (found supported : ℕ)
  | unsupportedVersion (found : ℕ)
  | invalid (error : ConfigError)
  deriving DecidableEq

def maxConfigFileBytes : ℕ := 1024 * 1024

def currentConfigVersion : ℕ := 2

structure PairedHostV1 where
  hostId : HostId
  peerId : PeerId
  name : List Char
  platform : Platform
  identityFingerprint : List Char

/-- The flat settings of version 1. -/
structure ConfigV1 where
  pairedHosts : List PairedHostV1 := []
  displayLayout : List DisplayPlacement := []
  deviceRoutes : List DeviceRouteConfig := []
  keyboardMode : KeyboardMode := .physical
  failsafeShortcut : List ShortcutKey := ({} : FailsafeSettings).shortcut
  clipboardEnabled : Bool := true
  startupEnabled : Bool := true
  discoveryEnabled : Bool := true
  listenPort : ℕ := 24800

/-- `PairedHostConfig::from`. -/
def PairedHostV1.toConfig (value : PairedHostV1) : PairedHostConfig where
  hostId := value.hostId
  peerId := value.peerId
  name := value.name
  platform := value.platform
  identityFingerprint := value.identityFingerprint
  lastAddress := none

def ConfigV1.migrate (old : ConfigV1) : Config where
  version := currentConfigVersion
  pairedHosts := old.pairedHosts.map PairedHostV1.toConfig
  topology := { displays := old.displayLayout, links := [] }
  deviceRoutes := old.deviceRoutes
  deviceRouteRevision := 0
  keyboardMode := old.keyboardMode
  failsafe := { shortcut := old.failsafeShortcut }
  clipboard := { enabled := old.clipboardEnabled }
  startupEnabled := old.startupEnabled
  network := { discoveryEnabled := old.discoveryEnabled, listenPort := old.listenPort }

/-- The `toml` crate at the three types it is used at, and that what it writes
    reads back as what was written. -/
structure TomlCodec where
  toStringPretty : Config → Option String
  versionProbe : String → Option ℕ
  fromStrV1 : String → Option ConfigV1
  fromStr : String → Option Config
  versionProbe_written : ∀ config text, toStringPretty config = some text →
    versionProbe text = some config.version
  fromStr_written : ∀ config text, toStringPretty config = some text → fromStr text = some config

namespace TomlCodec

variable (codec : TomlCodec)

def decodeConfig (source : String) : Except StoreError Config := do
  if maxConfigFileBytes < source.utf8ByteSize then
    .error .sizeLimit
  let found ← (codec.versionProbe source).elim (.error .decode) .ok
  let config ←
    if found = 1 then
      (codec.fromStrV1 source).elim (.error .decode) fun old => .ok old.migrate
    else if found = currentConfigVersion then
      (codec.fromStr source).elim (.error .decode) .ok
    else if currentConfigVersion < found then
      .error (.futureVersion found currentConfigVersion)
    else
      .error (.unsupportedVersion found)
  config.validate.mapError .invalid
  .ok config

def encodeConfig (config : Config) : Except StoreError String := do
  config.validate.mapError .invalid
  let encoded ← (codec.toStringPretty config).elim (.error .encode) .ok
  if maxConfigFileBytes < encoded.utf8ByteSize then
    .error .sizeLimit
  .ok encoded

end TomlCodec

/-- What is encoded reads back as the configuration it encodes. -/
theorem TomlCodec.decodeConfig_encoded {codec : TomlCodec} {config : Config} {text : String}
    (h : codec.encodeConfig config = .ok text) :
    text.utf8ByteSize ≤ maxConfigFileBytes ∧ codec.decodeConfig text = .ok config := by
  obtain ⟨u, hvalid, h⟩ := except_bind_eq_ok.mp h
  obtain ⟨encoded, hencoded, h⟩ := except_bind_eq_ok.mp h
  have hwritten : codec.toStringPretty config = some encoded := by
    cases hpretty : codec.toStringPretty config with
    | none => simp [hpretty] at hencoded
    | some text => simpa [hpretty] using hencoded
  have hsize : ¬ maxConfigFileBytes < encoded.utf8ByteSize := by
    intro hlarge
    rw [if_pos hlarge] at h
    cases h
  rw [if_neg hsize] at h
  cases h
  have hversion : config.version = currentConfigVersion := by
    have hv : config.validate = .ok u := by
      cases hc : config.validate with
      | error e => simp [hc, Except.mapError] at hvalid
      | ok u => rfl
    obtain ⟨_, hrequire, -⟩ := except_bind_eq_ok.mp hv
    unfold Config.require at hrequire
    split_ifs at hrequire with hcheck
    exact beq_iff_eq.mp hcheck
  refine ⟨Nat.not_lt.mp hsize, ?_⟩
  unfold TomlCodec.decodeConfig
  rw [if_neg hsize, codec.versionProbe_written _ _ hwritten, codec.fromStr_written _ _ hwritten,
    hversion]
  simp only [Option.elim_some, currentConfigVersion, bind, Except.bind]
  rw [hvalid]
  rfl

/-! ## The file store -/

/-- `FileConfigStore`: the file name of its `path`. -/
structure FileConfigStore where
  fileName : String

/-- Which of the file operations of a save fail, in the order of the code, and
    what a torn write leaves in the temporary file on the way. -/
structure SaveFaults where
  createParent : Bool := false
  openTemp : Bool := false
  torn : List ByteArray := []
  writeTemp : Bool := false
  /-- The metadata of the primary file cannot be read, so that `Path::exists` is false. -/
  probePrimary : Bool := false
  removeStaleBackup : Bool := false
  renamePrimary : Bool := false
  renameTemp : Bool := false
  restorePrimary : Bool := false
  syncParent : Bool := false
  removeBackup : Bool := false
  removeTemp : Bool := false

namespace FileConfigStore

open Disk

/-- The parent directory of the configuration file. -/
abbrev Folder : Type := Directory String ByteArray

section

variable (codec : TomlCodec) (store : FileConfigStore)

def siblingWithSuffix (suffix : String) : String := "." ++ store.fileName ++ suffix

def backupPath : String := store.siblingWithSuffix ".bak"

/-- `create_temp_path`, with the process id and the value of the sequence. -/
def tempPath (process sequence : ℕ) : String :=
  store.siblingWithSuffix ("." ++ toString process ++ "." ++ toString sequence ++ ".tmp")

/-- `read_path`: at most one byte more than the limit is read. -/
def readPath (files : Folder) (name : String) : Except StoreError (Option String) :=
  match files name with
  | none => .ok none
  | some bytes =>
    match String.fromUTF8? (bytes.extract 0 (maxConfigFileBytes + 1)) with
    | none => .error (.read name)
    | some contents =>
      if maxConfigFileBytes < contents.utf8ByteSize then .error .sizeLimit
      else .ok (some contents)

def load (files : Folder) : Except StoreError (Option Config) := do
  match ← readPath files store.fileName with
  | some contents => some <$> codec.decodeConfig contents
  | none =>
    match ← readPath files store.backupPath with
    | some contents => some <$> codec.decodeConfig contents
    | none => .ok none

def removeIfExists (fault : Bool) (name : String) : Step StoreError (Disk String ByteArray) Unit :=
  fun disk =>
    match remove fault name disk with
    | (.ok (), disk) => (.ok (), disk)
    | (.error .notFound, disk) => (.ok (), disk)
    | (.error _, disk) => (.error (.write name), disk)

/-- An operation that only fails or succeeds. -/
def outcome (fault : Bool) (error : StoreError) : Step StoreError (Disk String ByteArray) Unit :=
  Step.guard error fun _ => !fault

variable (temp : String) (faults : SaveFaults)

/-- The new contents in a temporary file. -/
def writeTemp (encoded : String) : Step StoreError (Disk String ByteArray) Unit := do
  (createNew faults.openTemp temp ByteArray.empty).mapError fun _ => .write temp
  (write faults.writeTemp faults.torn temp encoded.toUTF8).mapError fun _ => .write temp

/-- The primary file moved to the backup. -/
def moveAside : Step StoreError (Disk String ByteArray) Unit := do
  removeIfExists faults.removeStaleBackup store.backupPath
  (rename faults.renamePrimary store.fileName store.backupPath).mapError
    fun _ => .write store.fileName

/-- The temporary file renamed to the primary one, which is restored from the
    backup on a failure. -/
def publish (hadPrimary : Bool) : Step StoreError (Disk String ByteArray) Unit :=
  ((rename faults.renameTemp temp store.fileName).onError fun disk =>
    if hadPrimary then
      (rename faults.restorePrimary store.backupPath store.fileName).ignore disk
    else disk).mapError fun _ => .write store.fileName

/-- The temporary file put in the place of the primary one. -/
def replacePrimary : Step StoreError (Disk String ByteArray) Unit := do
  let hadPrimary ← Step.read fun disk =>
    !faults.probePrimary && (disk.files store.fileName).isSome
  if hadPrimary then
    store.moveAside faults
  store.publish temp faults hadPrimary
  outcome faults.syncParent .writeParent
  if hadPrimary then
    removeIfExists faults.removeBackup store.backupPath

/-- The part of a save that touches the directory. -/
def saveEncoded (encoded : String) : Step StoreError (Disk String ByteArray) Unit := do
  outcome faults.createParent .writeParent
  Step.onError
    (do
      writeTemp temp faults encoded
      store.replacePrimary temp faults)
    (remove faults.removeTemp temp).ignore

def save (config : Config) : Step StoreError (Disk String ByteArray) Unit := do
  let encoded ← Step.check fun _ => codec.encodeConfig config
  store.saveEncoded temp faults encoded

end

/-! ## Reading -/

section

variable {codec : TomlCodec} {store : FileConfigStore} {files files' : Folder}

theorem length_siblingWithSuffix (suffix : String) :
    (store.siblingWithSuffix suffix).length = 1 + store.fileName.length + suffix.length := by
  rw [siblingWithSuffix, String.length_append, String.length_append]
  rfl

theorem fileName_ne_backupPath : store.fileName ≠ store.backupPath := by
  intro h
  have hlength := congrArg String.length h
  rw [backupPath, length_siblingWithSuffix] at hlength
  omega

/-- A temporary file has a name of its own. -/
theorem tempPath_ne (process sequence : ℕ) :
    store.fileName ≠ store.tempPath process sequence ∧
      store.backupPath ≠ store.tempPath process sequence := by
  have hsuffix : ".bak".length < ("." ++ toString process ++ "." ++ toString sequence
      ++ ".tmp").length := by
    simp only [String.length_append]
    have hdot : ".".length = 1 := rfl
    have htmp : ".tmp".length = 4 := rfl
    have hbak : ".bak".length = 4 := rfl
    omega
  constructor <;> intro h <;> have hlength := congrArg String.length h
  · rw [tempPath, length_siblingWithSuffix] at hlength
    omega
  · rw [tempPath, backupPath, length_siblingWithSuffix, length_siblingWithSuffix] at hlength
    omega

variable {name : String}

theorem readPath_congr (h : files name = files' name) :
    readPath files name = readPath files' name := by
  rw [readPath, h, readPath]

theorem readPath_present (h : files name ≠ none) : readPath files name ≠ .ok none := by
  obtain ⟨bytes, hbytes⟩ := Option.ne_none_iff_exists'.mp h
  rw [readPath, hbytes]
  simp only
  split
  · exact nofun
  · split_ifs <;> exact nofun

/-- What `load` makes of the file it has read. -/
def decoded (codec : TomlCodec) (read : Except StoreError (Option String)) :
    Except StoreError (Option Config) := do
  match ← read with
  | some contents => some <$> codec.decodeConfig contents
  | none => .ok none

/-- A primary file hides the backup, even where it cannot be read. -/
theorem load_of_present (h : files store.fileName ≠ none) :
    load codec store files = decoded codec (readPath files store.fileName) := by
  have hpresent := readPath_present h
  rw [load]
  generalize readPath files store.fileName = read at hpresent ⊢
  obtain error | _ | contents := read
  · rfl
  · exact absurd rfl hpresent
  · rfl

theorem load_of_absent (h : files store.fileName = none) :
    load codec store files = decoded codec (readPath files store.backupPath) := by
  rw [load, readPath, h]
  rfl

end

/-! ## The shapes of an interrupted save -/

section

variable (store : FileConfigStore)

/-- The primary file is as it was in `old`, and so is the backup where it counts. -/
def Intact (old files : Folder) : Prop :=
  files store.fileName = old store.fileName ∧
    (old store.fileName = none → files store.backupPath = old store.backupPath)

/-- The primary file has been renamed to the backup. -/
def Moved (old files : Folder) : Prop :=
  old store.fileName ≠ none ∧ files store.fileName = none ∧
    files store.backupPath = old store.fileName

/-- The primary file holds the new contents. -/
def Published (encoded : String) (files : Folder) : Prop :=
  files store.fileName = some encoded.toUTF8

/-- One of the three. -/
def Shaped (old : Folder) (encoded : String) (files : Folder) : Prop :=
  store.Intact old files ∨ store.Moved old files ∨ store.Published encoded files

end

section

variable {codec : TomlCodec} {store : FileConfigStore} {old files : Folder} {encoded : String}

theorem load_intact (h : store.Intact old files) :
    load codec store files = load codec store old := by
  obtain ⟨hprimary, hbackup⟩ := h
  cases hname : old store.fileName with
  | none =>
    rw [load_of_absent (hprimary.trans hname), load_of_absent hname,
      readPath_congr (hbackup hname)]
  | some bytes =>
    have hpresent : old store.fileName ≠ none := by simp [hname]
    rw [load_of_present (hprimary ▸ hpresent), load_of_present hpresent, readPath_congr hprimary]

theorem load_moved (h : store.Moved old files)
    (hread : readPath old store.fileName ≠ .error (.read store.fileName)) :
    load codec store files = load codec store old := by
  obtain ⟨hold, hprimary, hbackup⟩ := h
  rw [load_of_absent hprimary, load_of_present hold]
  -- the name stands in a read error only
  congr 1
  unfold readPath at hread ⊢
  rw [hbackup]
  cases hbytes : old store.fileName with
  | none => rfl
  | some bytes =>
    simp only [hbytes] at hread ⊢
    cases htext : String.fromUTF8? (bytes.extract 0 (maxConfigFileBytes + 1)) with
    | none => simp [htext] at hread
    | some contents => rfl

/-- A primary file that is not text is reported under the name it is read from. -/
theorem load_moved_unreadable (h : store.Moved old files)
    (hread : readPath old store.fileName = .error (.read store.fileName)) :
    load codec store files ≠ load codec store old := by
  obtain ⟨hold, hprimary, hbackup⟩ := h
  have hbackupRead : readPath files store.backupPath = .error (.read store.backupPath) := by
    obtain ⟨bytes, hbytes⟩ := Option.ne_none_iff_exists'.mp hold
    rw [readPath, hbackup]
    rw [readPath] at hread
    simp only [hbytes] at hread ⊢
    cases htext : String.fromUTF8? (bytes.extract 0 (maxConfigFileBytes + 1)) with
    | none => rfl
    | some contents =>
      simp only [htext] at hread
      split_ifs at hread
      cases hread
  rw [load_of_absent hprimary, load_of_present hold, hread, hbackupRead]
  intro hsame
  injection hsame with hsame
  injection hsame with hsame
  exact fileName_ne_backupPath hsame.symm

theorem load_published {config : Config} (hencoded : codec.encodeConfig config = .ok encoded)
    (h : store.Published encoded files) : load codec store files = .ok (some config) := by
  obtain ⟨hsize, hdecoded⟩ := TomlCodec.decodeConfig_encoded hencoded
  have hextract : encoded.toUTF8.extract 0 (maxConfigFileBytes + 1) = encoded.toUTF8 := by
    apply ByteArray.ext
    rw [ByteArray.data_extract]
    exact Array.extract_eq_self_of_le (Nat.le_succ_of_le hsize)
  have hdecode : String.fromUTF8? encoded.toUTF8 = some encoded := dif_pos encoded.isValidUTF8
  have hpath : files store.fileName = some encoded.toUTF8 := h
  rw [load, readPath, hpath]
  simp only [hextract, hdecode]
  rw [if_neg (by omega)]
  simp only [bind, Except.bind, hdecoded]
  rfl

end

section

variable (store : FileConfigStore) (temp : String) (faults : SaveFaults) (old : Folder)

def HadPrimary : Prop := faults.probePrimary = false ∧ old store.fileName ≠ none

/-- The temporary file is complete. -/
def Written : Prop :=
  faults.createParent = false ∧ faults.openTemp = false ∧ old temp = none ∧
    faults.writeTemp = false

/-- The temporary file is complete and the primary file, if there was one, out of
    the way: only the last rename is left. -/
def Reaches : Prop :=
  Written temp faults old ∧
    (HadPrimary store faults old → faults.removeStaleBackup = false ∧ faults.renamePrimary = false)

/-- The last rename and the restoration of the primary file both fail. -/
def Strands : Prop :=
  Reaches store temp faults old ∧ HadPrimary store faults old ∧ faults.renameTemp = true ∧
    faults.restorePrimary = true

/-- The new contents take the place of the primary file. -/
def Publishes : Prop := Reaches store temp faults old ∧ faults.renameTemp = false

/-- What a save that fails with its contents encoded leaves behind. -/
def LeftBehind (encoded : String) (files : Folder) : Prop :=
  (store.Intact old files ∧ ¬ Strands store temp faults old ∧ ¬ Publishes store temp faults old) ∨
    (store.Moved old files ∧ Strands store temp faults old) ∨
    (store.Published encoded files ∧ Publishes store temp faults old)

end

open Step (Triple)
open Disk (During)

/-- A step of a save: on success it takes the directory from `p` to `q`, and every
    directory in between has one of the three shapes. -/
abbrev Saves (store : FileConfigStore) (temp : String) (faults : SaveFaults) (old : Folder)
    (encoded : String) (p : Folder → Prop) (x : Step StoreError (Disk String ByteArray) Unit)
    (q : Folder → Prop) : Prop :=
  Triple (During (store.Shaped old encoded) p) x
    (fun _ => During (store.Shaped old encoded) q)
    (During (store.Shaped old encoded) (LeftBehind store temp faults old encoded))

section

variable {store : FileConfigStore} {temp : String} {faults : SaveFaults} {old files : Folder}
  {encoded : String} (hfresh : store.fileName ≠ temp ∧ store.backupPath ≠ temp)

theorem LeftBehind.shaped (h : LeftBehind store temp faults old encoded files) :
    store.Shaped old encoded files := by
  rcases h with h | h | h
  · exact .inl h.1
  · exact .inr (.inl h.1)
  · exact .inr (.inr h.1)

theorem Strands.not_publishes (h : Strands store temp faults old) :
    ¬ Publishes store temp faults old :=
  fun hpublishes => Bool.false_ne_true (hpublishes.2.symm.trans h.2.2.1)

/-- A failure before the last rename. -/
theorem LeftBehind.early (h : store.Intact old files) (hreach : ¬ Reaches store temp faults old) :
    LeftBehind store temp faults old encoded files :=
  .inl ⟨h, fun hstrands => hreach hstrands.1, fun hpublishes => hreach hpublishes.1⟩

theorem LeftBehind.congr {files' : Folder} (h : LeftBehind store temp faults old encoded files)
    (hprimary : files' store.fileName = files store.fileName)
    (hbackup : files' store.backupPath = files store.backupPath) :
    LeftBehind store temp faults old encoded files' := by
  unfold LeftBehind Intact Moved Published at *
  rwa [hprimary, hbackup]

include hfresh in
theorem Intact.updateTemp (h : store.Intact old files) (contents : Option ByteArray) :
    store.Intact old (Function.update files temp contents) := by
  unfold Intact
  rwa [Function.update_of_ne hfresh.1, Function.update_of_ne hfresh.2]

include hfresh in
/-- `writeTemp` ends with the temporary file complete. -/
theorem writeTemp_triple (hparent : faults.createParent = false) :
    Saves store temp faults old encoded
      (fun files => store.Intact old files ∧ files temp = old temp)
      (writeTemp temp faults encoded)
      fun files => store.Intact old files ∧ files temp = some encoded.toUTF8 ∧
        Written temp faults old := by
  unfold writeTemp
  refine .bind (.mapError (createNew_triple
    (q := fun files => store.Intact old files ∧ faults.openTemp = false ∧ old temp = none)
    ?_ ?_ ?_) _) fun _ => .mapError (write_triple ?_ ?_ ?_ ?_) _
  · exact fun files h => .inl h.1
  · exact fun files hfault h hname => ⟨h.1.updateTemp hfresh _, hfault, h.2 ▸ hname⟩
  · intro disk hfailed h
    refine ⟨.early h.1.1 fun hreach => ?_, h.2⟩
    rcases hfailed with hfault | hname
    · rw [hreach.1.2.1] at hfault
      cases hfault
    · exact hname (h.1.2.trans hreach.1.2.2.1)
  · exact fun files h => .inl h.1
  · exact fun files contents h => ⟨h.1.updateTemp hfresh _, h.2⟩
  · exact fun files hfault h =>
      ⟨h.1.updateTemp hfresh _, Function.update_self .., hparent, h.2.1, h.2.2, hfault⟩
  · intro disk hfailed h
    refine h.mono fun files h => .early h.1 fun hreach => ?_
    rw [hreach.1.2.2.2] at hfailed
    cases hfailed

theorem removeIfExists_triple {P p q : Folder → Prop} {f : Disk String ByteArray → Prop}
    {fault : Bool} {name : String} (hP : ∀ files, p files → P files)
    (hq : ∀ files, fault = false → p files → q (Function.update files name none))
    (hf : ∀ disk, fault = true → During P p disk → f disk) :
    Triple (During P p) (removeIfExists fault name) (fun _ => During P q) f := by
  intro disk h
  unfold removeIfExists remove
  cases fault with
  | true => exact hf disk rfl h
  | false =>
    cases hname : disk.files name with
    | none =>
      have hq := hq _ rfl h.1
      rw [← hname, Function.update_eq_self] at hq
      exact ⟨hq, h.2⟩
    | some _ => exact h.become hP (hq _ rfl h.1)

include hfresh in
/-- Moving the primary file aside. -/
theorem moveAside_triple (hhad : HadPrimary store faults old) (hwritten : Written temp faults old) :
    Saves store temp faults old encoded
      (fun files => store.Intact old files ∧ files temp = some encoded.toUTF8)
      (store.moveAside faults)
      fun files => store.Moved old files ∧ files temp = some encoded.toUTF8 ∧
        Reaches store temp faults old := by
  have hne : store.fileName ≠ store.backupPath := fileName_ne_backupPath
  unfold moveAside
  refine .bind (removeIfExists_triple
    (q := fun files => files store.fileName = old store.fileName ∧
      files temp = some encoded.toUTF8 ∧ faults.removeStaleBackup = false) ?_ ?_ ?_)
    fun _ => .mapError (rename_triple ?_ ?_ ?_ ?_) _
  · exact fun files h => .inl h.1
  · intro files hfault h
    refine ⟨?_, ?_, hfault⟩
    · rw [Function.update_of_ne hne]
      exact h.1.1
    · rw [Function.update_of_ne hfresh.2.symm]
      exact h.2
  · intro disk hfault h
    refine h.mono fun files h => .early h.1 fun hreach => ?_
    rw [(hreach.2 hhad).1] at hfault
    cases hfault
  · exact fun files h => .inl ⟨h.1, fun hnone => absurd hnone hhad.2⟩
  · exact fun files h => h.1 ▸ hhad.2
  · intro files contents hfault h hsource
    refine ⟨⟨hhad.2, ?_, ?_⟩, ?_, hwritten, fun _ => ⟨h.2.2, hfault⟩⟩
    · rw [Function.update_of_ne hne, Function.update_self]
    · rw [Function.update_self, ← h.1, hsource]
    · rw [Function.update_of_ne hfresh.2.symm, Function.update_of_ne hfresh.1.symm]
      exact h.2.1
  · intro disk hfault h
    refine h.mono fun files h => .early ⟨h.1, fun hnone => absurd hnone hhad.2⟩ fun hreach => ?_
    rw [(hreach.2 hhad).2] at hfault
    cases hfault

/-- The last rename over a primary file that was moved aside. -/
theorem publish_moved_triple (hhad : HadPrimary store faults old) :
    Saves store temp faults old encoded
      (fun files => store.Moved old files ∧ files temp = some encoded.toUTF8 ∧
        Reaches store temp faults old)
      (store.publish temp faults true)
      fun files => store.Published encoded files ∧ Publishes store temp faults old := by
  refine .mapError (.onError
    (g := fun disk => faults.renameTemp = true ∧ During (store.Shaped old encoded) (fun files =>
      store.Moved old files ∧ files temp = some encoded.toUTF8
        ∧ Reaches store temp faults old) disk)
    (rename_triple ?_ ?_ ?_ fun disk hfault h => ⟨hfault, h⟩) ?_) _
  · exact fun files h => .inr (.inl h.1)
  · exact fun files h => by simp [h.2.1]
  · intro files contents hfault h hsource
    refine ⟨?_, h.2.2, hfault⟩
    rw [Published, Function.update_self, ← hsource, h.2.1]
  · rintro disk ⟨hfault, h⟩
    refine Triple.ignore (rename_triple ?_ ?_ ?_ ?_) h
    · exact fun files h => .inr (.inl h.1)
    · exact fun files h => h.1.2.2 ▸ h.1.1
    · intro files contents hrestored h hsource
      refine .inl ⟨⟨?_, fun hnone => absurd hnone h.1.1⟩, ?_, ?_⟩
      · rw [Function.update_self, ← hsource, h.1.2.2]
      · exact fun hstrands => by simp [hstrands.2.2.2] at hrestored
      · exact fun hpublishes => by simp [hpublishes.2] at hfault
    · intro disk hlost h
      exact h.mono fun files h => .inr (.inl ⟨h.1, h.2.2, hhad, hfault, hlost⟩)

/-- The last rename where no primary file was seen. -/
theorem publish_unseen_triple (hhad : ¬ HadPrimary store faults old) :
    Saves store temp faults old encoded
      (fun files => store.Intact old files ∧ files temp = some encoded.toUTF8 ∧
        Reaches store temp faults old)
      (store.publish temp faults false)
      fun files => store.Published encoded files ∧ Publishes store temp faults old := by
  refine .mapError (.onError (rename_triple ?_ ?_ ?_ ?_) fun disk h => h) _
  · exact fun files h => .inl h.1
  · exact fun files h => by simp [h.2.1]
  · intro files contents hfault h hsource
    refine ⟨?_, h.2.2, hfault⟩
    rw [Published, Function.update_self, ← hsource, h.2.1]
  · intro disk hfault h
    refine h.mono fun files h => .inl ⟨h.1, fun hstrands => hhad hstrands.2.1, fun hpublishes => ?_⟩
    simp [hpublishes.2] at hfault

/-- After the new contents are published, the rest of the save only tidies up. -/
theorem tidy_triple (hadPrimary : Bool) :
    Saves store temp faults old encoded
      (fun files => store.Published encoded files ∧ Publishes store temp faults old)
      (do
        outcome faults.syncParent .writeParent
        if hadPrimary then
          removeIfExists faults.removeBackup store.backupPath)
      (store.Published encoded) := by
  have hleft : ∀ disk, During (store.Shaped old encoded) (fun files =>
      store.Published encoded files ∧ Publishes store temp faults old) disk →
      During (store.Shaped old encoded) (LeftBehind store temp faults old encoded) disk :=
    fun disk h => h.mono fun files h => .inr (.inr h)
  refine .bind (.guard (r := fun _ => During (store.Shaped old encoded) fun files =>
    store.Published encoded files ∧ Publishes store temp faults old)
    (fun disk h _ => h) fun disk h _ => hleft disk h) fun _ => ?_
  cases hadPrimary with
  | false => exact .pure () fun disk h => h.mono fun files h => h.1
  | true =>
    refine removeIfExists_triple ?_ ?_ fun disk _ h => hleft disk h
    · exact fun files h => .inr (.inr h.1)
    · intro files _ h
      rw [Published, Function.update_of_ne fileName_ne_backupPath]
      exact h.1

include hfresh in
theorem replacePrimary_triple :
    Saves store temp faults old encoded
      (fun files => store.Intact old files ∧ files temp = some encoded.toUTF8 ∧
        Written temp faults old)
      (store.replacePrimary temp faults) (store.Published encoded) := by
  unfold replacePrimary
  refine .bind (.read (q := fun hadPrimary disk =>
    (hadPrimary = true ↔ HadPrimary store faults old) ∧
    During (store.Shaped old encoded) (fun files => store.Intact old files ∧
      files temp = some encoded.toUTF8 ∧
        Written temp faults old) disk) ?_)
    fun hadPrimary => ?_
  · intro disk h
    refine ⟨?_, h⟩
    rw [h.1.1.1, HadPrimary, Bool.and_eq_true, Bool.not_eq_true', Option.isSome_iff_ne_none]
  · rintro disk ⟨hhad, h⟩
    have hwritten := h.1.2.2
    cases hadPrimary with
    | true =>
      have hhad := hhad.mp rfl
      exact Triple.bind (moveAside_triple hfresh hhad hwritten)
        (fun _ => .bind (publish_moved_triple hhad) fun _ => tidy_triple true) disk
        (h.mono fun files h => ⟨h.1, h.2.1⟩)
    | false =>
      have hhad : ¬ HadPrimary store faults old := fun hhad' => Bool.false_ne_true (hhad.mpr hhad')
      exact Triple.bind (publish_unseen_triple hhad) (fun _ => tidy_triple false) disk
        (h.mono fun files h => ⟨h.1, h.2.1, hwritten, fun hp => absurd hp hhad⟩)

include hfresh in
theorem saveEncoded_triple :
    Saves store temp faults old encoded (· = old) (store.saveEncoded temp faults encoded)
      (store.Published encoded) := by
  have hsame : store.Intact old old := ⟨rfl, fun _ => rfl⟩
  unfold saveEncoded
  refine .bind (.guard (r := fun _ disk => faults.createParent = false ∧
    During (store.Shaped old encoded) (fun files => files = old) disk) ?_ ?_) fun _ => ?_
  · exact fun disk h hparent => ⟨by simpa using hparent, h⟩
  · intro disk h hparent
    refine h.mono fun files hfiles => .early (hfiles ▸ hsame) fun hreach => ?_
    simp [hreach.1.1] at hparent
  · rintro disk ⟨hparent, h⟩
    refine Triple.onError (.bind (writeTemp_triple hfresh hparent) fun _ =>
      replacePrimary_triple hfresh) (fun disk h => remove_during ?_ ?_ h) disk (h.mono ?_)
    · exact fun files h => h.shaped
    · exact fun files h =>
        h.congr (Function.update_of_ne hfresh.1 ..) (Function.update_of_ne hfresh.2 ..)
    · rintro files rfl
      exact ⟨hsame, rfl⟩

end

/-! ## Crashes and failures -/

section

variable {codec : TomlCodec} {store : FileConfigStore} {config : Config} {encoded : String}

theorem save_encoded (hencoded : codec.encodeConfig config = .ok encoded) (temp : String)
    (faults : SaveFaults) (disk : Disk String ByteArray) :
    save codec store temp faults config disk = store.saveEncoded temp faults encoded disk :=
  Step.bind_of_ok (Step.check_of_ok (f := fun _ => codec.encodeConfig config) hencoded)

theorem save_unencodable {error : StoreError} (hencoded : codec.encodeConfig config = .error error)
    (temp : String) (faults : SaveFaults) (disk : Disk String ByteArray) :
    save codec store temp faults config disk = (.error error, disk) :=
  Step.bind_of_error (Step.check_of_error (f := fun _ => codec.encodeConfig config) hencoded)

theorem saveEncoded_spec (store : FileConfigStore) (process sequence : ℕ) (faults : SaveFaults)
    (encoded : String) (old : Folder) :
    Step.Triple (fun disk => disk = ⟨old, []⟩)
      (store.saveEncoded (store.tempPath process sequence) faults encoded)
      (fun _ => During (store.Shaped old encoded) (store.Published encoded))
      (During (store.Shaped old encoded)
        (LeftBehind store (store.tempPath process sequence) faults old encoded)) :=
  .conseq (saveEncoded_triple (tempPath_ne process sequence))
    (fun _ hdisk => hdisk ▸ ⟨rfl, nofun⟩) fun _ _ h => h

/-- Every directory that a save goes through is the old one or has one of the three shapes. -/
theorem save_shapes (process sequence : ℕ) (faults : SaveFaults) (config : Config) (old : Folder) :
    ∀ files ∈
      (save codec store (store.tempPath process sequence) faults config ⟨old, []⟩).2.history,
      files = old ∨ ∃ encoded, codec.encodeConfig config = .ok encoded ∧
        store.Shaped old encoded files := by
  intro files hfiles
  cases hencoded : codec.encodeConfig config with
  | error error =>
    rw [save_unencodable hencoded] at hfiles
    exact .inl (by simpa [history] using hfiles)
  | ok encoded =>
    rw [save_encoded hencoded] at hfiles
    refine .inr ⟨encoded, rfl, ?_⟩
    have h := saveEncoded_spec store process sequence faults encoded old _ rfl
    generalize store.saveEncoded (store.tempPath process sequence) faults encoded ⟨old, []⟩ = run
      at h hfiles
    obtain ⟨_ | _, disk⟩ := run
    · exact h.history (fun _ h => h.shaped) files hfiles
    · exact h.history (fun _ h => .inr (.inr h)) files hfiles

/-- In each of the three shapes `load` finds the old configuration or the new one. -/
theorem load_of_shaped {old files : Folder} {before : Config}
    (hbefore : load codec store old = .ok (some before))
    (hencoded : codec.encodeConfig config = .ok encoded) (h : store.Shaped old encoded files) :
    load codec store files = .ok (some before) ∨ load codec store files = .ok (some config) := by
  obtain hintact | hmoved | hpublished := h
  · exact .inl ((load_intact hintact).trans hbefore)
  · refine .inl ((load_moved hmoved fun hunread => ?_).trans hbefore)
    rw [load_of_present hmoved.1, hunread] at hbefore
    cases hbefore
  · exact .inr (load_published hencoded hpublished)

/-- In every directory of a save `load` finds the old configuration or the new one. -/
theorem load_of_mem_history {old files : Folder} {before after : Config}
    (hbefore : load codec store old = .ok (some before)) {process sequence : ℕ}
    {faults : SaveFaults} (hfiles : files ∈
      (save codec store (store.tempPath process sequence) faults after ⟨old, []⟩).2.history) :
    load codec store files = .ok (some before) ∨ load codec store files = .ok (some after) := by
  obtain rfl | ⟨encoded, hencoded, hshaped⟩ := save_shapes _ _ _ _ _ files hfiles
  · exact .inl hbefore
  · exact load_of_shaped hbefore hencoded hshaped

/-- Whatever fails during a save and wherever a crash cuts it off, `load` then
    finds the configuration from before or the one that was being saved. -/
theorem load_crashed_save {old : Folder} {before : Config}
    (hbefore : load codec store old = .ok (some before)) (process sequence : ℕ)
    (faults : SaveFaults) (after : Config) :
    ∀ files ∈ (save codec store (store.tempPath process sequence) faults after ⟨old, []⟩).2.history,
      load codec store files = .ok (some before) ∨ load codec store files = .ok (some after) :=
  fun _ hfiles => load_of_mem_history hbefore hfiles

/-- A save that is cut off in the directory it has reached after `moment` changes,
    or runs to its end. -/
structure InterruptedSave where
  process : ℕ
  sequence : ℕ
  faults : SaveFaults
  config : Config
  moment : ℕ

/-- The directory that an interrupted save leaves behind. -/
def InterruptedSave.leave (codec : TomlCodec) (store : FileConfigStore) (old : Folder)
    (attempt : InterruptedSave) : Folder :=
  let disk := (save codec store (store.tempPath attempt.process attempt.sequence) attempt.faults
    attempt.config ⟨old, []⟩).2
  disk.history.reverse.getD attempt.moment disk.files

theorem InterruptedSave.leave_mem (codec : TomlCodec) (store : FileConfigStore) (old : Folder)
    (attempt : InterruptedSave) :
    attempt.leave codec store old ∈ (save codec store
      (store.tempPath attempt.process attempt.sequence) attempt.faults attempt.config
      ⟨old, []⟩).2.history := by
  unfold InterruptedSave.leave
  generalize (save codec store (store.tempPath attempt.process attempt.sequence) attempt.faults
    attempt.config ⟨old, []⟩).2 = disk
  rw [List.getD_eq_getElem?_getD]
  cases hmoment : disk.history.reverse[attempt.moment]? with
  | none => exact List.mem_cons_self
  | some files => exact List.mem_reverse.mp (List.mem_of_getElem? hmoment)

/-- Once a configuration can be loaded, one can be loaded after any sequence of
    saves that complete, fail or are cut off: one of those that were saved. -/
theorem load_after_crashes {old : Folder} {before : Config}
    (hbefore : load codec store old = .ok (some before)) (attempts : List InterruptedSave) :
    ∃ config ∈ before :: attempts.map (·.config),
      load codec store (execute (InterruptedSave.leave codec store) old attempts) =
        .ok (some config) := by
  induction attempts generalizing old before with
  | nil => exact ⟨before, List.mem_cons_self, hbefore⟩
  | cons attempt attempts ih =>
    rcases load_of_mem_history hbefore (attempt.leave_mem codec store old) with h | h
    · obtain ⟨config, hmem, hload⟩ := ih h
      exact ⟨config, List.cons_subset_cons before (List.subset_cons_self _ _) hmem, hload⟩
    · obtain ⟨config, hmem, hload⟩ := ih h
      exact ⟨config, List.mem_cons_of_mem _ hmem, hload⟩

/-- What a save that succeeds has saved is what `load` finds. -/
theorem load_after_save {process sequence : ℕ} {faults : SaveFaults} {config : Config}
    {old : Folder} {disk : Disk String ByteArray}
    (hsaved : save codec store (store.tempPath process sequence) faults config ⟨old, []⟩ =
      (.ok (), disk)) : load codec store disk.files = .ok (some config) := by
  cases hencoded : codec.encodeConfig config with
  | error error =>
    rw [save_unencodable hencoded] at hsaved
    cases hsaved
  | ok encoded =>
    rw [save_encoded hencoded] at hsaved
    have h := saveEncoded_spec store process sequence faults encoded old _ rfl
    rw [hsaved] at h
    exact load_published hencoded h.1

/-- A save that fails leaves `load` as it was, unless the new contents were already published or
    the primary file was stranded under its backup name with contents that cannot be read. -/
theorem load_after_failed_save {process sequence : ℕ} {faults : SaveFaults} {config : Config}
    {old : Folder} {error : StoreError} {disk : Disk String ByteArray}
    (hfailed : save codec store (store.tempPath process sequence) faults config ⟨old, []⟩ =
      (.error error, disk)) :
    load codec store disk.files = load codec store old ↔
      ((∃ encoded, codec.encodeConfig config = .ok encoded) →
        (Publishes store (store.tempPath process sequence) faults old →
          load codec store old = .ok (some config)) ∧
        (Strands store (store.tempPath process sequence) faults old →
          readPath old store.fileName ≠ .error (.read store.fileName))) := by
  cases hencoded : codec.encodeConfig config with
  | error error =>
    rw [save_unencodable hencoded] at hfailed
    cases hfailed
    simp
  | ok encoded =>
    rw [save_encoded hencoded] at hfailed
    have h := (saveEncoded_spec store process sequence faults encoded old).of_error rfl hfailed
    have hsome : ∃ text, Except.ok (ε := StoreError) encoded = .ok text := ⟨encoded, rfl⟩
    rw [forall_prop_of_true hsome]
    rcases h.1 with ⟨hintact, hstrands, hpublishes⟩ | ⟨hmoved, hstrands⟩ | ⟨hpublished, hpublishes⟩
    · simp [load_intact hintact, hstrands, hpublishes]
    · rw [forall_prop_of_true hstrands, forall_prop_of_false hstrands.not_publishes, true_and]
      exact ⟨fun hsame hunread => load_moved_unreadable hmoved hunread hsame, load_moved hmoved⟩
    · rw [forall_prop_of_false fun hstrands => Strands.not_publishes hstrands hpublishes,
        forall_prop_of_true hpublishes, and_true,
        load_published hencoded hpublished]
      exact eq_comm

end

/-! ## A sample store -/

namespace Sample

/-- The default configuration at a route revision. -/
def config (revision : ℕ) : Config := { deviceRouteRevision := revision }

/-- A text form of just those configurations, one character a revision. -/
def codec : TomlCodec where
  toStringPretty c :=
    if c = config c.deviceRouteRevision then
      some (String.ofList (List.replicate c.deviceRouteRevision 'x'))
    else none
  versionProbe _ := some 2
  fromStrV1 _ := none
  fromStr text := some (config text.length)
  versionProbe_written := by
    intro c text h
    split_ifs at h with hc
    rw [hc]
    rfl
  fromStr_written := by
    intro c text h
    split_ifs at h with hc
    cases h
    simpa using hc.symm

def store : FileConfigStore := ⟨"config.toml"⟩

/-- The directory after configuration 1 was saved. -/
def saved : Folder := fun name => if name = "config.toml" then some "x".toUTF8 else none

theorem load_saved : load codec store saved = .ok (some (config 1)) :=
  have hencoded : codec.encodeConfig (config 1) = .ok "x" := by decide +kernel
  load_published hencoded rfl

theorem load_crashed_save_saved :
    load codec store saved = .ok (some (config 1)) ∧
      ∀ files ∈ (save codec store (store.tempPath 7 0) { renameTemp := true } (config 2)
        ⟨saved, []⟩).2.history,
        load codec store files = .ok (some (config 1)) ∨
          load codec store files = .ok (some (config 2)) :=
  ⟨load_saved, load_crashed_save load_saved 7 0 _ _⟩

/-- A save that fails, one that is cut off and one that is not synced. -/
def crashes : List InterruptedSave :=
  [⟨7, 0, { renameTemp := true }, config 2, 9⟩, ⟨7, 1, {}, config 3, 3⟩,
    ⟨8, 0, { syncParent := true }, config 4, 9⟩]

theorem load_after_crashes_saved :
    ∃ c ∈ [config 1, config 2, config 3, config 4],
      load codec store (execute (InterruptedSave.leave codec store) saved crashes) =
        .ok (some c) :=
  load_after_crashes load_saved crashes

/-- The primary file is there, but `Path::exists` fails on it. -/
theorem load_after_save_probed :
    load codec store (save codec store (store.tempPath 7 0) { probePrimary := true } (config 2)
      ⟨saved, []⟩).2.files = .ok (some (config 2)) :=
  load_after_save (Prod.ext (by decide +kernel) rfl)

/-- The directory cannot be synced: the save fails, and `load` finds what it saved. -/
theorem failed_save_publishes :
    (save codec store (store.tempPath 7 0) { syncParent := true } (config 2) ⟨saved, []⟩).1 =
        .error .writeParent ∧
      load codec store (save codec store (store.tempPath 7 0) { syncParent := true } (config 2)
        ⟨saved, []⟩).2.files = .ok (some (config 2)) ∧
      load codec store saved = .ok (some (config 1)) := by
  have hencoded : codec.encodeConfig (config 2) = .ok "xx" := by decide +kernel
  refine ⟨by decide +kernel, load_published hencoded ?_, load_saved⟩
  unfold Published
  decide +kernel

/-- A failed rename is undone. -/
theorem load_after_failed_rename :
    (save codec store (store.tempPath 7 0) { renameTemp := true } (config 2) ⟨saved, []⟩).1 =
        .error (.write "config.toml") ∧
      load codec store (save codec store (store.tempPath 7 0) { renameTemp := true } (config 2)
        ⟨saved, []⟩).2.files = load codec store saved := by
  have hfailed : (save codec store (store.tempPath 7 0) { renameTemp := true } (config 2)
      ⟨saved, []⟩).1 = .error (.write "config.toml") := by decide +kernel
  refine ⟨hfailed, (load_after_failed_save (Prod.ext hfailed rfl)).mpr fun _ => ⟨?_, ?_⟩⟩
  · exact fun hpublishes => absurd hpublishes.2 (by decide)
  · exact fun hstrands => absurd hstrands.2.2.2 (by decide)

end Sample

end FileConfigStore

end SoftwareKvm
