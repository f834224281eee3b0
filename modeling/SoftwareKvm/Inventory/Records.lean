import SoftwareKvm.Network.Generation

/-!
# Revisioned inventory records

What `device_inventory.rs` and `display_inventory.rs` of `kvm-daemon` share:
per host a record of identified items, where it came from and its revision. A
snapshot replaces a record at a strictly newer revision, an update needs the
exact next one, and a candidate has to respect the bounds of the inventory.

The two files differ in the items, in how one item is checked and in what is
checked of a whole candidate; `InventoryPolicy` holds these. A failing
operation changes nothing, so operations return the new records or an error.

* `applySnapshot_ok`: an accepted snapshot is newer than the record it replaces
  and is that host's record afterwards.
-/

namespace SoftwareKvm

open Lib

/-- `DeviceInventoryError` and `DisplayInventoryError`: an item is a device or
    a display; the last three belong to one of the two. -/
inductive InventoryError
  | invalidConfiguration
  | invalidHost
  | invalidMessage
  | invalidItem
  | invalidRevision
  | duplicateItem
  | capacityExceeded
  | staleRevision
  | revisionGap
  | revisionExhausted
  | inventoryUnavailable
  | sessionMismatch
  | deviceAlreadyExists
  | deviceNotFound
  | invalidPrimaryCount
  deriving DecidableEq

/-- `DeviceInventoryConfig` and `DisplayInventoryConfig`. -/
structure InventoryConfig where
  remoteHosts : ℕ
  itemsPerHost : ℕ
  totalItems : ℕ

/-- `validate` of both configurations, whose bounds are the same. -/
def InventoryConfig.validate (config : InventoryConfig) : Except InventoryError InventoryConfig :=
  if config.remoteHosts = 0 ∨ 256 < config.remoteHosts ∨ config.itemsPerHost = 0
      ∨ 256 < config.itemsPerHost ∨ config.totalItems = 0 ∨ 4096 < config.totalItems
      ∨ config.totalItems < config.itemsPerHost then
    .error .invalidConfiguration
  else .ok config

inductive InventorySource (B : Type)
  | local
  | remote (binding : B)
  deriving DecidableEq

structure HostRecord (B K V : Type) [LinearOrder K] where
  source : InventorySource B
  revision : ℕ
  items : OrdMap K V

/-- How the candidates of an inventory are checked. -/
structure InventoryPolicy (K V : Type) [LinearOrder K] where
  key : V → K
  itemsPerHost : ℕ
  totalItems : ℕ
  validateItem : HostId → V → Except InventoryError Unit
  validateAll : OrdMap K V → Except InventoryError Unit

/-- The name check that devices and displays share. -/
def validInventoryName (name : String) : Bool :=
  !name.toList.all Config.isWhitespace && name.utf8ByteSize ≤ 255
    && !name.toList.any Config.isControl

/-- The revision check of `apply_update` for displays. -/
def requireNextRevision (current proposed : ℕ) : Except InventoryError Unit :=
  match checkedAdd current 1 with
  | none => .error .revisionExhausted
  | some next =>
    if proposed < next then .error .staleRevision
    else if proposed ≠ next then .error .revisionGap
    else .ok ()

/-- `validate_exact_next`: for devices, revision zero is not a stale one. -/
def validateExactNext (current proposed : ℕ) : Except InventoryError Unit :=
  if proposed = 0 then .error .invalidRevision else requireNextRevision current proposed

namespace InventoryPolicy

variable {B K V : Type} [DecidableEq B] [LinearOrder K] (policy : InventoryPolicy K V)

/-- The loop body of `validate_candidate`. -/
def addCandidate (host : HostId) (candidate : OrdMap K V) (item : V) :
    Except InventoryError (OrdMap K V) :=
  match policy.validateItem host item with
  | .error error => .error error
  | .ok () =>
    if candidate.contains (policy.key item) then .error .duplicateItem
    else .ok (candidate.insert (policy.key item) item)

def validateCandidate (host : HostId) (items : List V) : Except InventoryError (OrdMap K V) :=
  if policy.itemsPerHost < items.length then .error .capacityExceeded
  else match items.foldlM (policy.addCandidate host) ∅ with
    | .error error => .error error
    | .ok candidate =>
      match policy.validateAll candidate with
      | .error error => .error error
      | .ok () => .ok candidate

/-- `ensure_total_capacity`; the sums fit a `usize`. -/
def ensureTotalCapacity (records : OrdMap HostId (HostRecord B K V)) (host : HostId)
    (count : ℕ) : Except InventoryError Unit :=
  let elsewhere := ((records.erase host).values.map (·.items.size)).sum
  if policy.totalItems < elsewhere + count then .error .capacityExceeded else .ok ()

def applySnapshot (records : OrdMap HostId (HostRecord B K V)) (source : InventorySource B)
    (host : HostId) (revision : ℕ) (items : List V) :
    Except InventoryError (OrdMap HostId (HostRecord B K V)) :=
  if revision = 0 then .error .invalidRevision
  else if (records.get? host).any (·.source != source) then .error .sessionMismatch
  else if (records.get? host).any (revision ≤ ·.revision) then .error .staleRevision
  else match policy.validateCandidate host items with
    | .error error => .error error
    | .ok candidate =>
      match policy.ensureTotalCapacity records host candidate.size with
      | .error error => .error error
      | .ok () => .ok (records.insert host ⟨source, revision, candidate⟩)

/-- The bounds a changed candidate has to respect, and its installation. -/
def installCandidate (records : OrdMap HostId (HostRecord B K V)) (source : InventorySource B)
    (host : HostId) (revision : ℕ) (candidate : OrdMap K V) :
    Except InventoryError (OrdMap HostId (HostRecord B K V)) :=
  match policy.validateAll candidate with
  | .error error => .error error
  | .ok () =>
    if policy.itemsPerHost < candidate.size then .error .capacityExceeded
    else match policy.ensureTotalCapacity records host candidate.size with
      | .error error => .error error
      | .ok () => .ok (records.insert host ⟨source, revision, candidate⟩)

variable {policy} {records records' : OrdMap HostId (HostRecord B K V)}
  {source : InventorySource B} {host : HostId} {revision : ℕ} {items : List V}

/-- An accepted snapshot is newer than the record it replaces, and becomes the
    record of its host. -/
theorem applySnapshot_ok (h : policy.applySnapshot records source host revision items
    = .ok records') :
    0 < revision ∧ (∀ record, records.get? host = some record → record.revision < revision) ∧
      ∃ candidate, policy.validateCandidate host items = .ok candidate ∧
        records' = records.insert host ⟨source, revision, candidate⟩ := by
  unfold applySnapshot at h
  split_ifs at h with h0 hsource hstale
  split at h
  · cases h
  next candidate hcandidate =>
  split at h
  · cases h
  cases h
  refine ⟨Nat.pos_of_ne_zero h0, fun record hrecord => ?_, candidate, hcandidate, rfl⟩
  simpa [hrecord] using hstale

omit [DecidableEq B] in
theorem installCandidate_ok {candidate : OrdMap K V}
    (h : policy.installCandidate records source host revision candidate = .ok records') :
    records' = records.insert host ⟨source, revision, candidate⟩ := by
  unfold installCandidate at h
  split at h
  · cases h
  split_ifs at h
  split at h
  · cases h
  · exact (Except.ok.inj h).symm

end InventoryPolicy

end SoftwareKvm
