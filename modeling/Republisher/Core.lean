import Republisher.Json
import Mathlib.Data.List.AList

/-!
# The data of the protocol API and of the republisher core

The daemon is written against the crates `proto-api` and `republish-core`. This
file has the types it takes from them, with the fields it reads or writes, and
the structure `Core` of the functions it calls there. Nothing is assumed about
these functions here; a result that needs a law states it as a hypothesis.
-/

namespace Republisher

/-- `proto_api::FieldKind`: how the browser edits a field and how its value is stored. -/
inductive FieldKind
  | text
  | u32
  | bool
  | enum (options : List String)
  | secret
  deriving DecidableEq

/-- `proto_api::FieldSpec`. -/
structure FieldSpec where
  key : String
  label : String
  kind : FieldKind
  default : Option Json
  help : Option String
  deriving DecidableEq

/-- `proto_api::DiscoveryKind`. -/
inductive DiscoveryKind
  | broadcast
  | endpointQuery
  | subnetScan
  | manualOnly
  deriving DecidableEq

/-- `proto_api::BrowseKind`. -/
inductive BrowseKind
  | objectList
  | addressSpace
  | registerScan
  | none
  deriving DecidableEq

/-- `proto_api::Capabilities`: what a protocol declares about itself. -/
structure Capabilities where
  id : String
  displayName : String
  discovery : DiscoveryKind
  browse : BrowseKind
  connectionFields : List FieldSpec
  addressingFields : List FieldSpec
  defaultPort : UInt16
  deriving DecidableEq

/-- The adapter registered under a protocol id. The daemon only hands it to workers. -/
structure Factory where
  protocol : String
  deriving DecidableEq

/-- `republish_core::RepublishRegistry`. -/
structure RepublishRegistry where
  capabilities : List Capabilities
  ids : List String
  registered : String → Bool

/-- `RepublishRegistry::get`. -/
def RepublishRegistry.get (registry : RepublishRegistry) (id : String) : Option Factory :=
  if registry.registered id then some ⟨id⟩ else none

/-- The registry answers with the adapter of the protocol it was asked for. -/
theorem RepublishRegistry.get_protocol {registry : RepublishRegistry} {id : String}
    {factory : Factory} (h : registry.get id = some factory) : factory.protocol = id := by
  obtain ⟨-, hfactory⟩ := Option.ite_none_right_eq_some.mp h
  obtain rfl := Option.some.inj hfactory
  rfl

/-- `PayloadFormat`. -/
inductive PayloadFormat
  | scalar
  | netixEnvelope
  deriving DecidableEq

/-- `UiTheme`. -/
inductive UiTheme
  | auto
  | light
  | dark
  deriving DecidableEq

/-- `MqttConfig`. -/
structure MqttConfig where
  host : String
  port : UInt16
  useTls : Bool
  clientId : String
  topicPrefix : String
  healthTopic : String
  username : Option String
  password : Option String
  passwordEnv : Option String
  caCertPath : Option String
  clientCertPath : Option String
  clientKeyPath : Option String
  clientKeyPassphrase : Option String
  rememberSecrets : Bool
  retain : Bool
  keepAliveSecs : UInt64
  payloadFormat : PayloadFormat
  deviceTopicPrefix : String
  autostart : Bool
  deriving DecidableEq

/-- `PointConfig`. -/
structure PointConfig where
  enabled : Bool
  deviceKey : String
  addressing : Addressing
  tagPath : String
  pollIntervalSecs : UInt64
  deriving DecidableEq

/-- `UiConfig`. -/
structure UiConfig where
  theme : UiTheme
  deriving DecidableEq

/-- `AppConfig`: the configuration that is edited, validated and saved. -/
structure AppConfig where
  protocol : String
  connections : StringMap Addressing
  mqtt : MqttConfig
  points : List PointConfig
  discoverOnStart : Bool
  ui : UiConfig
  deriving DecidableEq

/-- `PointIdentity`: what a status is filed under. -/
structure PointIdentity where
  addressing : Addressing

instance : DecidableEq PointIdentity := fun a b =>
  decidable_of_iff (a.addressing = b.addressing) (by cases a; cases b; simp)

/-- The identity with one zero. Two identities are equal, and hashed alike, exactly when these
are the same. -/
def PointIdentity.canonical (identity : PointIdentity) : PointIdentity :=
  ⟨identity.addressing.map fun _ value => value.oneZero⟩

/-- A value read from a device, by its two renderings `as_json_value` and `to_string`. -/
structure PointValue where
  asJsonValue : Json
  display : String
  deriving DecidableEq

/-- `PointStatus`. -/
structure PointStatus where
  lastValue : Option PointValue
  lastSampleMs : Option ℤ
  stale : Bool
  consecutiveFailures : UInt32
  lastError : Option String
  lastPublishError : Option String
  deriving DecidableEq

/-- `DiscoveredDevice`. -/
structure DiscoveredDevice where
  key : String
  instanceNumber : Option UInt32
  address : String
  detail : String
  deriving DecidableEq

/-- `DiscoveredPoint`. -/
structure DiscoveredPoint where
  deviceKey : String
  name : Option String
  description : Option String
  units : Option String
  value : Option PointValue
  addressing : Addressing
  suggestedTagPath : String
  deriving DecidableEq

/-- `PointSample`. -/
structure PointSample where
  point : PointConfig
  topic : String
  value : PointValue
  timestampMs : ℤ
  deriving DecidableEq

/-- A failed read of one point. -/
structure PointFailure where
  point : PointConfig
  error : String
  deriving DecidableEq

/-- What a discovery found. -/
structure DiscoveryOutcome where
  devices : List DiscoveredDevice
  warnings : List String
  deriving DecidableEq

/-- The result of `merge_imported_points` and of a bulk import. -/
structure ImportResult where
  points : List PointConfig
  added : ℕ
  updated : ℕ
  deriving DecidableEq

/-- The counters a republisher worker reports. -/
structure PublishStats where
  published : ℕ
  acked : ℕ
  lastError : Option String
  deriving DecidableEq

/-- `LogLevel`. -/
inductive LogLevel
  | info
  | warning
  | error
  deriving DecidableEq

/-- `RepublisherLifecycle`. -/
inductive RepublisherLifecycle
  | starting
  | running
  | stopping
  | stopped
  | failed (error : String)
  deriving DecidableEq

/-- `WorkerEvent`: what a worker thread sends on `worker_tx`. -/
inductive WorkerEvent
  | log (level : LogLevel) (message : String)
  | devices (outcome : DiscoveryOutcome)
  | points (points : List DiscoveredPoint)
  | scanProgress (current total : ℕ)
  | bulkTagImport (result : ImportResult)
  | samples (samples : List PointSample)
  | failures (failures : List PointFailure)
  | publishStatus (stats : PublishStats)
  | pointPublish (identity : PointIdentity) (error : Option String)
  | lifecycle (lifecycle : RepublisherLifecycle)
  | finished (message : String)
  deriving DecidableEq

/-- `republish_core::network`'s view of one interface. -/
structure NetworkInterface where
  name : String
  addr : String
  deriving DecidableEq

/-- The functions the daemon calls in other crates. `Disk` is the state of the
file system, so that saving may succeed, fail, or damage the file, and need not
do the same twice. `nowMillis n` is the clock reading of the `n`th log record. -/
structure Core (Disk : Type) where
  validate : AppConfig → Except String Unit
  saveToPath : String → AppConfig → Disk → Except String Unit × Disk
  loadFromPath : String → Disk → Except String AppConfig
  /-- `connection()`, from the active protocol and the stored connections. -/
  connection : String → StringMap Addressing → Addressing
  /-- The stored connections after `*config.connection_mut() = addressing`, from the
  active protocol, the stored connections and the new value. -/
  setConnection : String → StringMap Addressing → Addressing → StringMap Addressing
  fromPoint : PointConfig → PointIdentity
  displayName : PointConfig → String
  telemetryTopic : MqttConfig → PointConfig → String
  mergeImportedPoints : List PointConfig → List PointConfig → ImportResult
  defaultStatus : PointStatus
  recordSample : PointStatus → PointSample → PointStatus
  recordReadFailure : PointStatus → String → PointStatus
  recordPublishSuccess : PointStatus → PointStatus
  recordPublishFailure : PointStatus → String → PointStatus
  jsonScalar : Json → String
  floatText : UInt64 → String
  ipv4Interfaces : List NetworkInterface
  nowMillis : ℕ → ℤ

variable {Disk : Type}

/-- The identity of a point, as identities are compared. -/
def Core.identity (core : Core Disk) (point : PointConfig) : PointIdentity :=
  (core.fromPoint point).canonical

/-- `AppConfig::connection`: the stored connection of the active protocol. -/
def AppConfig.connection (core : Core Disk) (config : AppConfig) : Addressing :=
  core.connection config.protocol config.connections

/-- The configuration after `*config.connection_mut() = addressing`. -/
def AppConfig.setConnection (core : Core Disk) (addressing : Addressing) (config : AppConfig) :
    AppConfig :=
  { config with
    connections := core.setConnection config.protocol config.connections addressing }

end Republisher
