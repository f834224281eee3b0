import SoftwareKvm.Lib.Step
import SoftwareKvm.Types.Config

/-!
# The state of the control panel

Models of `StoredSetup`, `PairingBundle` and their parts
(`control-panel/src-tauri/src/setup.rs`) and of `validate_bundle` and
`validate_peer_bundle`. Text is a list of characters, a file or a decoded text a
list of bytes. Numbers come from JSON, which has finite ones only, so they are
rationals here and the `is_finite` checks are gone.

The encodings the panel takes from other crates (identifiers, addresses, base64,
JSON, SHA-256) are the fields of a `PanelCodec`.
-/

namespace SoftwareKvm

open Lib

/-! ## Data -/

def kvmPort : ℕ := 24800

def pairingVersion : ℕ := 3

inductive Placement
  | localLeft
  | localRight

inductive WorkspaceRole
  | unassigned
  | leader
  | follower

structure NativeBoundsDto where
  x : ℚ
  y : ℚ
  width : ℚ
  height : ℚ
  deriving DecidableEq

structure DisplayDto where
  id : List Char
  name : List Char
  width : ℚ
  height : ℚ
  scaleFactor : ℚ
  primary : Bool
  nativeBounds : Option NativeBoundsDto
  deriving DecidableEq

structure DisplayLayoutDto where
  displayId : DisplayId
  x : ℚ
  y : ℚ

structure StoredLocal where
  credentialVersion : ℕ
  hostId : List Char
  peerId : List Char
  displayName : List Char
  serverName : List Char
  certificateFingerprint : List Char
  address : List Char

structure PairingBundle where
  softwareKvmPairing : ℕ
  hostId : List Char
  peerId : List Char
  displayName : List Char
  platform : Platform
  serverName : List Char
  certificateFingerprint : List Char
  address : List Char
  certificateDer : List Char
  signingPublicKey : List Char
  displays : List DisplayDto
  deriving DecidableEq

/-- `StoredSetup`; its field `local` is `storedLocal` here. -/
structure StoredSetup where
  draftHostId : List Char
  draftPeerId : List Char
  storedLocal : Option StoredLocal := none
  peer : Option PairingBundle := none
  placement : Placement := .localLeft
  displayLayout : List DisplayLayoutDto := []
  workspaceRole : WorkspaceRole := .unassigned
  workspaceRevision : ℕ := 0
  workspaceAcknowledgedRevision : ℕ := 0
  configured : Bool := false
  validated : Bool := false

/-- The `Err(String)` of the panel's operations: `coarse_error` or the one text of
    its own that `finalize_setup` gives a follower. -/
inductive SetupError
  | coarse
  | followerLayout
  deriving DecidableEq

/-- What the panel takes from other crates. -/
structure PanelCodec where
  parseHostId : List Char → Option HostId
  parsePeerId : List Char → Option PeerId
  parseDisplayId : List Char → Option DisplayId
  parseSocketAddr : List Char → Option SocketAddr
  base64Decode : List Char → Option (List UInt8)
  base64Encode : List UInt8 → List Char
  sha256 : List UInt8 → List UInt8
  /-- `Uuid::parse_str` succeeds with a version 4 identifier. -/
  isUuidV4 : List Char → Bool
  bundleFromJson : List UInt8 → Option PairingBundle
  setupToJson : StoredSetup → Option (List UInt8)

/-! ## Checks of a pairing bundle -/

namespace PanelCodec

/-- `Ok`, or `coarse_error` where there is no value. -/
def need {α : Type} (value : Option α) : Except SetupError α := value.elim (.error .coarse) .ok

/-- Fail with `coarse_error` where the check does not hold. -/
def require (check : Bool) : Except SetupError Unit := if check then .ok () else .error .coarse

def trim (text : List Char) : List Char :=
  ((text.dropWhile Config.isWhitespace).reverse.dropWhile Config.isWhitespace).reverse

/-- A name of 1 to 128 bytes without control characters. -/
def validName (name : List Char) : Bool :=
  !name.all Config.isWhitespace && Config.byteLength name ≤ 128 && !name.any Config.isControl

variable (codec : PanelCodec)

/-- The conditions of `validate_bundle` on one display. -/
def validDisplay (display : DisplayDto) : Bool :=
  (codec.parseDisplayId display.id).isSome && validName display.name
    && 0 < display.width && 0 < display.height && 0 < display.scaleFactor
    && display.nativeBounds.all fun bounds => 0 < bounds.width && 0 < bounds.height

/-- `hex::encode`. -/
def hexEncode (bytes : List UInt8) : List Char :=
  bytes.flatMap fun byte => [Nat.digitChar (byte.toNat / 16), Nat.digitChar (byte.toNat % 16)]

def maxCertificateDerBytes : ℕ := 64 * 1024

def validateBundle (peer : PairingBundle) : Except SetupError Unit := do
  require (peer.softwareKvmPairing == pairingVersion && validName peer.displayName
    && validName peer.serverName && Config.isCanonicalSha256Fingerprint peer.certificateFingerprint
    && !peer.displays.isEmpty && peer.displays.length ≤ 32
    && peer.displays.all codec.validDisplay)
  require (decide (peer.displays.map (·.id)).Nodup)
  let _ ← need (codec.parseHostId peer.hostId)
  let _ ← need (codec.parsePeerId peer.peerId)
  let address ← need (codec.parseSocketAddr peer.address)
  require (address.port == kvmPort && Config.isLanIp address.ip)
  let certificate ← need (codec.base64Decode peer.certificateDer)
  let signingPublicKey ← need (codec.base64Decode peer.signingPublicKey)
  require (!certificate.isEmpty && certificate.length ≤ maxCertificateDerBytes
    && hexEncode (codec.sha256 certificate) == peer.certificateFingerprint
    && signingPublicKey.length == 65 && signingPublicKey.head? == some 4)

def maxPeerBundleBytes : ℕ := 64 * 1024

def maxPeerBundleInputChars : ℕ := maxPeerBundleBytes * 4 / 3 + 16

/-- The bundle that a text stands for. -/
def bundleOf (text : List Char) : Option PairingBundle :=
  (codec.base64Decode (trim text)).bind codec.bundleFromJson

/-- `SetupService::validate_peer_bundle`: the bundle and its certificate. -/
def validatePeerBundle (platform : Platform) (setup : StoredSetup) (bundle : List Char) :
    Except SetupError (PairingBundle × List UInt8) := do
  let trimmed := trim bundle
  require (Config.byteLength trimmed ≤ maxPeerBundleInputChars)
  let raw ← need (codec.base64Decode trimmed)
  require (raw.length ≤ maxPeerBundleBytes)
  let peer ← need (codec.bundleFromJson raw)
  codec.validateBundle peer
  let certificate ← need (codec.base64Decode peer.certificateDer)
  let own ← need setup.storedLocal
  require (peer.hostId != own.hostId && peer.peerId != own.peerId && peer.platform != platform)
  .ok (peer, certificate)

variable {codec}

theorem need_eq_ok {α : Type} {value : Option α} {a : α} (h : need value = .ok a) :
    value = some a := by
  cases value with
  | none => cases h
  | some b =>
    cases h
    rfl

/-- A valid text stands for the bundle that it yields. -/
theorem validatePeerBundle_ok {platform : Platform} {setup : StoredSetup} {text : List Char}
    {peer : PairingBundle} {certificate : List UInt8}
    (h : codec.validatePeerBundle platform setup text = .ok (peer, certificate)) :
    codec.bundleOf text = some peer := by
  obtain ⟨_, -, h⟩ := except_bind_eq_ok.mp h
  obtain ⟨raw, hraw, h⟩ := except_bind_eq_ok.mp h
  obtain ⟨_, -, h⟩ := except_bind_eq_ok.mp h
  obtain ⟨peer', hpeer, h⟩ := except_bind_eq_ok.mp h
  obtain ⟨_, -, h⟩ := except_bind_eq_ok.mp h
  obtain ⟨_, -, h⟩ := except_bind_eq_ok.mp h
  obtain ⟨_, -, h⟩ := except_bind_eq_ok.mp h
  obtain ⟨_, -, h⟩ := except_bind_eq_ok.mp h
  cases h
  rw [bundleOf, need_eq_ok hraw, Option.bind_some, need_eq_ok hpeer]

end PanelCodec

/-! ### Sample encodings -/

namespace PanelCodec.Sample

def display : DisplayDto :=
  { id := ['d'], name := ['D'], width := 100, height := 100, scaleFactor := 1, primary := true,
    nativeBounds := none }

/-- A bundle whose certificate is the one byte of its last character. -/
def bundle (certificate : Char) : PairingBundle where
  softwareKvmPairing := 3
  hostId := ['h']
  peerId := ['p']
  displayName := ['P']
  platform := .windows
  serverName := ['s']
  certificateFingerprint := List.replicate 64 'a'
  address := ['x']
  certificateDer := [certificate]
  signingPublicKey := List.replicate 65 '\x04'
  displays := [display]

/-- Base64 and JSON that read one character as a whole bundle. -/
def codec : PanelCodec where
  parseHostId _ := some ⟨1⟩
  parsePeerId _ := some ⟨1⟩
  parseDisplayId _ := some ⟨1⟩
  parseSocketAddr _ := some ⟨.v4 192 168 0 1, 24800⟩
  base64Decode text := some (text.map fun c => c.toNat.toUInt8)
  base64Encode bytes := bytes.map fun b => Char.ofNat b.toNat
  sha256 _ := List.replicate 32 0xaa
  isUuidV4 _ := true
  bundleFromJson bytes := bytes.head?.map fun b => bundle (Char.ofNat b.toNat)
  setupToJson _ := some []

end PanelCodec.Sample

/-! ## The stored state -/

namespace StoredSetup

/-- What `install_peer_bundle` makes of the setup. -/
def withPeer (setup : StoredSetup) (peer : PairingBundle) (role : WorkspaceRole) : StoredSetup :=
  { setup with
    peer := some peer
    displayLayout := []
    workspaceRole := role
    workspaceRevision := 0
    workspaceAcknowledgedRevision := 0
    configured := false
    validated := false }

end StoredSetup

end SoftwareKvm
