import Republisher.Transition
import Republisher.Broadcast
import Republisher.Edits
import Republisher.Persistence
import Republisher.Secrets
import Republisher.Stopping
import Republisher.Imports
import Republisher.Subscription
import Republisher.Positions
import Republisher.Access
import Republisher.Counters
import Republisher.Samples
import Republisher.Resync
import Republisher.Tally
import Republisher.Throttle
import Republisher.Disclosure
import Republisher.Network
import Republisher.Typing
import Republisher.Leases
import Republisher.Sessions
import Republisher.Failures
import Republisher.HeaderText
import Republisher.Origin
import Republisher.Guards
import Republisher.CrossOrigin
import Republisher.Cookies
import Republisher.Identities
import Republisher.Tables
import Republisher.Stale
import Republisher.Decimals
import Republisher.Fields
import Republisher.SettingsForm
import Republisher.Settings
import Republisher.Environment
import Republisher.Overrides
import Republisher.Browsed
import Republisher.Ranges
import Republisher.SocketAddr
import Republisher.Healthcheck
import Republisher.Delimited
import Republisher.Rendering
import Republisher.IdentityKeys
import Republisher.Wire
import Republisher.Bvll
import Republisher.Bbmd
import Republisher.BipReceive
import Republisher.BbmdTables
import Republisher.BdtFile
import Republisher.BipManagement
import Republisher.Cascade
import Republisher.BipNetwork
import Republisher.Mesh
import Republisher.Crc
import Republisher.MstpFrame
import Republisher.MasterNode
import Republisher.TokenUse
import Republisher.TokenBus
import Republisher.SerialReceive
import Republisher.Ownership
import Republisher.ScFrame
import Republisher.ScHub
import Republisher.ScRegistry
import Republisher.ScConnection
import Republisher.ScRelay
import Republisher.ScDelivery
import Republisher.ScReconnect
import Republisher.Admission
import Republisher.Bip6Frame
import Republisher.Overwrite
import Republisher.Bip6Port
import Republisher.VmacClaims
import Republisher.PacketFilter
import Republisher.Ethernet
