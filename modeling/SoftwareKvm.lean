import SoftwareKvm.Core.Pairing
import SoftwareKvm.Core.Following
import SoftwareKvm.Core.Chord
import SoftwareKvm.Session.OwnRelease
import SoftwareKvm.Runtime.NativeBridge
import SoftwareKvm.Runtime.WholeHost
import SoftwareKvm.Network.Lanes
import SoftwareKvm.Network.Motion
import SoftwareKvm.Session.DualTransport
import SoftwareKvm.Handoff.Failsafe
import SoftwareKvm.Supervisor.Lifecycle
import SoftwareKvm.Inventory.Retirement
import SoftwareKvm.Network.BoundSession
import SoftwareKvm.Network.Receive
import SoftwareKvm.Storage.ConfigStore
import SoftwareKvm.Setup.Pairing
import SoftwareKvm.Topology.Crossing
import SoftwareKvm.Setup.Compiles
import SoftwareKvm.Clipboard.Runs
import SoftwareKvm.Network.Listener
import SoftwareKvm.Types.Modifiers
import SoftwareKvm.Core.Exact
