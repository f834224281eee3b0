import SoftwareKvm.Types.Input

/-!
# Configuration and routing table

Models of `Config` with `Config::validate` (`kvm-config/src/model.rs`) and of
`RoutingTable` (`kvm-router/src/lib.rs`). Text is a list of characters.
-/

namespace SoftwareKvm

open Lib

/-! ## Configuration -/

/-- `ConfigError::Validation`, the one variant `validate` returns. -/
inductive ConfigError
  | validation (detail : String)
  deriving DecidableEq

inductive Platform
  | windows
  | macOS
  deriving DecidableEq

/-- `std::net::IpAddr`: four octets or eight 16-bit segments. -/
inductive IpAddr
  | v4 (a b c d : ℕ)
  | v6 (segments : List ℕ)
  deriving DecidableEq

structure SocketAddr where
  ip : IpAddr
  port : ℕ
  deriving DecidableEq

structure PairedHostConfig where
  hostId : HostId
  peerId : PeerId
  name : List Char
  platform : Platform
  identityFingerprint : List Char
  lastAddress : Option SocketAddr
  deriving DecidableEq

structure DisplayPlacement where
  displayId : DisplayId
  x : F64
  y : F64
  deriving DecidableEq

structure TopologyLink where
  fromDisplay : DisplayId
  fromEdge : Edge
  toDisplay : DisplayId
  toEdge : Edge
  deriving DecidableEq

structure TopologyConfig where
  displays : List DisplayPlacement := []
  links : List TopologyLink := []
  deriving DecidableEq

/-- `DeviceRouteConfig`; `ConfiguredDeviceRoute` and `DeviceRoute` are the same
    enumeration up to serialisation. -/
structure DeviceRouteConfig where
  deviceId : DeviceId
  route : DeviceRoute
  deriving DecidableEq

inductive KeyboardMode
  | physical
  | semantic
  deriving DecidableEq

inductive ShortcutKey
  | control
  | alt
  | shift
  | metaKey
  | backspace
  | escape
  | physical (usagePage usage : ℕ)
  deriving DecidableEq

structure FailsafeSettings where
  shortcut : List ShortcutKey := [.control, .alt, .shift, .backspace]
  routingSuspendSeconds : ℕ := 10
  deriving DecidableEq

structure ClipboardSettings where
  enabled : Bool := true
  maxTextBytes : ℕ := 256 * 1024
  deriving DecidableEq

inductive BindScope
  | localNetwork
  | specificAddresses (addresses : List IpAddr)
  deriving DecidableEq

structure NetworkSettings where
  discoveryEnabled : Bool := true
  listenPort : ℕ := 24800
  bind : BindScope := .localNetwork
  autoReconnect : Bool := true
  heartbeatIntervalMs : ℕ := 1000
  failureTimeoutMs : ℕ := 3000
  deriving DecidableEq

structure Config where
  version : ℕ := 2
  pairedHosts : List PairedHostConfig := []
  topology : TopologyConfig := {}
  deviceRoutes : List DeviceRouteConfig := []
  deviceRouteRevision : ℕ := 0
  keyboardMode : KeyboardMode := .physical
  failsafe : FailsafeSettings := {}
  clipboard : ClipboardSettings := {}
  startupEnabled : Bool := true
  network : NetworkSettings := {}
  deriving DecidableEq

namespace Config

/-- Fail with `detail` unless the check holds. -/
def require (check : Bool) (detail : String) : Except ConfigError Unit :=
  if check then .ok () else .error (.validation detail)

def ensureUnique {α : Type} [DecidableEq α] (values : List α) (label : String) :
    Except ConfigError Unit :=
  require (decide values.Nodup) ("duplicate " ++ label)

def isControl (c : Char) : Bool := c.toNat < 0x20 || (0x7f ≤ c.toNat && c.toNat ≤ 0x9f)

def isWhitespace (c : Char) : Bool :=
  (0x09 ≤ c.toNat && c.toNat ≤ 0x0d) || c.toNat == 0x20 || c.toNat == 0x85 || c.toNat == 0xa0
    || c.toNat == 0x1680 || (0x2000 ≤ c.toNat && c.toNat ≤ 0x200a) || c.toNat == 0x2028
    || c.toNat == 0x2029 || c.toNat == 0x202f || c.toNat == 0x205f || c.toNat == 0x3000

/-- The length of a text in UTF-8 bytes. -/
def byteLength (text : List Char) : ℕ := (text.map Char.utf8Size).sum

def isCanonicalSha256Fingerprint (value : List Char) : Bool :=
  byteLength value == 64 && value.all fun c =>
    (0x30 ≤ c.toNat && c.toNat ≤ 0x39) || (0x61 ≤ c.toNat && c.toNat ≤ 0x66)

/-- `is_lan_ip`: `Ipv4Addr::is_private`, or a unique-local IPv6 address. -/
def isLanIp : IpAddr → Bool
  | .v4 a b _ _ => a == 10 || (a == 172 && 16 ≤ b && b ≤ 31) || (a == 192 && b == 168)
  | .v6 segments => (segments.headD 0) &&& 0xfe00 == 0xfc00

def isLanSocketAddress (address : SocketAddr) : Bool := address.port != 0 && isLanIp address.ip

def validatePairedHosts (peers : List PairedHostConfig) : Except ConfigError Unit := do
  require (peers.length ≤ 256) "paired host count exceeds 256"
  ensureUnique (peers.map (·.hostId)) "paired host id"
  ensureUnique (peers.map (·.peerId)) "paired peer id"
  peers.forM fun peer => do
    require (!peer.hostId.isNil && !peer.peerId.isNil)
      "paired host and peer identifiers must be non-nil"
    require (!peer.name.all isWhitespace && byteLength peer.name ≤ 128 && !peer.name.any isControl)
      "paired host name must contain 1..=128 non-control UTF-8 bytes"
    require (isCanonicalSha256Fingerprint peer.identityFingerprint)
      "peer identity fingerprint must contain 64 lowercase hex characters"
    require (peer.lastAddress.all isLanSocketAddress)
      "paired last address must be a private LAN endpoint"

def validateNetwork (network : NetworkSettings) : Except ConfigError Unit := do
  require (network.listenPort != 0) "network listen port cannot be zero"
  match network.bind with
  | .localNetwork => pure ()
  | .specificAddresses addresses => do
    require (!addresses.isEmpty && addresses.length ≤ 32)
      "specific bind address count must be in 1..=32"
    ensureUnique addresses "specific bind address"
    require (addresses.all isLanIp) "specific bind addresses must be private LAN addresses"
  require (100 ≤ network.heartbeatIntervalMs && network.heartbeatIntervalMs ≤ 60000)
    "heartbeat interval must be in 100..=60000 milliseconds"
  require (network.heartbeatIntervalMs * 2 ≤ network.failureTimeoutMs)
    "failure timeout must be at least two heartbeat intervals"

/-- The topology checks of `Config::validate`. -/
def validateTopology (topology : TopologyConfig) : Except ConfigError Unit := do
  let placed := topology.displays.map (·.displayId)
  ensureUnique placed "display placement"
  topology.displays.forM fun placement => do
    require (!placement.displayId.isNil) "display placement display identifier must be non-nil"
    require (placement.x.isFinite && placement.y.isFinite)
      "display placement coordinates must be finite"
  ensureUnique (topology.links.map fun link => (link.fromDisplay, link.fromEdge))
    "topology source display edge"
  topology.links.forM fun link => do
    require (!link.fromDisplay.isNil && !link.toDisplay.isNil)
      "topology link display identifiers must be non-nil"
    require (link.fromDisplay != link.toDisplay)
      "a topology link cannot connect a display to itself"
    require (placed.contains link.fromDisplay && placed.contains link.toDisplay)
      "topology links must reference placed displays"

/-- The device-route checks of `Config::validate`. -/
def validateDeviceRoutes (c : Config) : Except ConfigError Unit := do
  require (c.deviceRoutes.length ≤ 1024) "device route count exceeds maximum"
  ensureUnique (c.deviceRoutes.map (·.deviceId)) "device route"
  c.deviceRoutes.forM fun route => do
    require (!route.deviceId.isNil) "device route identifier must be non-nil"
    match route.route with
    | .host hostId =>
      require (!hostId.isNil && (c.pairedHosts.map (·.hostId)).contains hostId)
        "device route host target must be paired"
    | .followActiveHost | .local => pure ()

def validate (c : Config) : Except ConfigError Unit := do
  require (c.version == 2) s!"expected version 2, got {c.version}"
  validatePairedHosts c.pairedHosts
  validateTopology c.topology
  validateDeviceRoutes c
  require (!c.failsafe.shortcut.isEmpty && c.failsafe.shortcut.length ≤ 8)
    "failsafe shortcut must contain 1..=8 keys"
  ensureUnique c.failsafe.shortcut "failsafe shortcut key"
  require (c.failsafe.routingSuspendSeconds != 0)
    "failsafe routing suspension must be at least one second"
  require (c.clipboard.maxTextBytes != 0 && c.clipboard.maxTextBytes ≤ 1024 * 1024)
    "clipboard text limit must be in 1..=1048576 bytes"
  validateNetwork c.network

end Config

/-! ## Routing table -/

def maxDeviceRoutes : ℕ := 1024

inductive RoutingTableError
  | invalidDevice
  | invalidTarget
  | duplicateDevice
  | capacityExceeded

inductive Destination
  | local
  | remote (host : HostId)

structure RoutingTable where
  routes : OrdMap DeviceId DeviceRoute

namespace RoutingTable

def validateEntry (device : DeviceId) (route : DeviceRoute) : Except RoutingTableError Unit :=
  if device.isNil then .error .invalidDevice
  else match route with
    | .host host => if host.isNil then .error .invalidTarget else .ok ()
    | .followActiveHost | .local => .ok ()

/-- One iteration of `RoutingTable::try_from_routes`. -/
def tryAddRoute (table : RoutingTable) (entry : DeviceId × DeviceRoute) :
    Except RoutingTableError RoutingTable := do
  validateEntry entry.1 entry.2
  if table.routes.contains entry.1 then .error .duplicateDevice
  else if maxDeviceRoutes ≤ table.routes.size then .error .capacityExceeded
  else .ok ⟨table.routes.insert entry.1 entry.2⟩

def tryFromRoutes (routes : List (DeviceId × DeviceRoute)) :
    Except RoutingTableError RoutingTable :=
  routes.foldlM tryAddRoute ⟨∅⟩

def routeFor (table : RoutingTable) (device : DeviceId) : DeviceRoute :=
  (table.routes.get? device).getD .followActiveHost

variable {table : RoutingTable}

theorem tryAddRoute_ok {table' : RoutingTable} {entry : DeviceId × DeviceRoute}
    (h : tryAddRoute table entry = .ok table') :
    table' = ⟨table.routes.insert entry.1 entry.2⟩ := by
  unfold tryAddRoute at h
  cases hv : validateEntry entry.1 entry.2 with
  | error error =>
    rw [hv] at h
    cases h
  | ok u =>
    rw [hv] at h
    simp only [bind, Except.bind] at h
    split_ifs at h
    exact (Except.ok.inj h).symm

/-- A device without an entry follows the active host. -/
theorem routeFor_unlisted {routes : List (DeviceId × DeviceRoute)}
    {device : DeviceId} (h : tryFromRoutes routes = .ok table)
    (hd : device ∉ routes.map Prod.fst) : table.routeFor device = .followActiveHost := by
  have hfold : ∀ (routes : List (DeviceId × DeviceRoute)) (start : RoutingTable),
      routes.foldlM tryAddRoute start = .ok table → device ∉ routes.map Prod.fst →
      table.routes.get? device = start.routes.get? device := by
    intro routes
    induction routes with
    | nil =>
      intro start hrun _
      cases hrun
      rfl
    | cons entry routes ih =>
      intro start hrun hnot
      rw [List.map_cons, List.mem_cons, not_or] at hnot
      rw [List.foldlM_cons] at hrun
      cases hadd : tryAddRoute start entry with
      | error error =>
        rw [hadd] at hrun
        cases hrun
      | ok next =>
        rw [hadd] at hrun
        rw [ih next hrun hnot.2, tryAddRoute_ok hadd]
        exact (OrdMap.get?_insert ..).trans (if_neg hnot.1)
  rw [routeFor, hfold routes ⟨∅⟩ h hd]
  rfl

def destinationForDevice (table : RoutingTable) (device : DeviceId) (state : WorkspaceState) :
    Destination :=
  if state.activeHost.isNil || state.localHost.isNil then .local
  else
    let resolve (target : HostId) : Destination :=
      if target = state.localHost then .local else .remote target
    match table.routeFor device with
    | .local => .local
    | .followActiveHost => resolve state.activeHost
    | .host host => resolve host

/-- `<RoutingTable as InputRouter>::destination`. -/
def destination (table : RoutingTable) (event : InputEvent) (state : WorkspaceState) :
    Destination :=
  table.destinationForDevice event.sourceDevice state

end RoutingTable

/-- `routing_from_config` (`core.rs`); any table error is `InvalidRoutingTable`. -/
def routingFromConfig (config : Config) : Except RoutingTableError RoutingTable :=
  RoutingTable.tryFromRoutes (config.deviceRoutes.map fun route => (route.deviceId, route.route))

/-- `shortcut_matches_key` (`core.rs`). -/
def shortcutMatchesKey : ShortcutKey → KeyCode → Bool
  | .control, .named .controlLeft | .control, .named .controlRight => true
  | .alt, .named .altLeft | .alt, .named .altRight => true
  | .shift, .named .shiftLeft | .shift, .named .shiftRight => true
  | .metaKey, .named .metaLeft | .metaKey, .named .metaRight => true
  | .backspace, .named .backspace => true
  | .escape, .named .escape => true
  | .physical usagePage usage, .unidentified actualPage actualUsage =>
    actualPage == usagePage && actualUsage == usage
  | _, _ => false

end SoftwareKvm
