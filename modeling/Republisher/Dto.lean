import Republisher.Core

/-!
# The payloads of the web API

The daemon mirrors the core's types into the payloads the browser reads. A
payload is kept as the structure that is serialised, before it becomes JSON
text: the text is a function of it.
-/

namespace Republisher

/-- One field of a form, as the browser is told about it. -/
structure FieldSpecDto where
  key : String
  label : String
  kind : String
  options : Option (List String)
  default : Option Json
  help : Option String
  deriving DecidableEq

/-- The name of a field kind and, for an enumeration, its options. -/
def FieldKind.describe : FieldKind → String × Option (List String)
  | .text => ("text", none)
  | .u32 => ("u32", none)
  | .bool => ("bool", none)
  | .enum options => ("enum", some options)
  | .secret => ("secret", none)

/-- `FieldSpecDto::from`. -/
def FieldSpecDto.from (spec : FieldSpec) : FieldSpecDto :=
  { key := spec.key
    label := spec.label
    kind := spec.kind.describe.1
    options := spec.kind.describe.2
    default := spec.default
    help := spec.help }

/-- What the browser is told about one protocol. -/
structure CapabilitiesDto where
  id : String
  displayName : String
  discovery : String
  discoveryLabel : String
  browse : String
  connectionFields : List FieldSpecDto
  addressingFields : List FieldSpecDto
  defaultPort : UInt16
  deriving DecidableEq

/-- The name of a discovery kind and the label of its button. -/
def DiscoveryKind.describe : DiscoveryKind → String × String
  | .broadcast => ("broadcast", "Discover (broadcast)")
  | .endpointQuery => ("endpoint_query", "Query endpoints")
  | .subnetScan => ("subnet_scan", "Scan subnet")
  | .manualOnly => ("manual", "Discover")

/-- The name of a browse kind. -/
def BrowseKind.describe : BrowseKind → String
  | .objectList => "object_list"
  | .addressSpace => "address_space"
  | .registerScan => "register_scan"
  | .none => "none"

/-- `CapabilitiesDto::from`. -/
def CapabilitiesDto.from (caps : Capabilities) : CapabilitiesDto :=
  { id := caps.id
    displayName := caps.displayName
    discovery := caps.discovery.describe.1
    discoveryLabel := caps.discovery.describe.2
    browse := caps.browse.describe
    connectionFields := caps.connectionFields.map FieldSpecDto.from
    addressingFields := caps.addressingFields.map FieldSpecDto.from
    defaultPort := caps.defaultPort }

/-- One entry of the device list. -/
structure DeviceDto where
  index : ℕ
  key : String
  instanceNumber : Option UInt32
  address : String
  detail : String
  deriving DecidableEq

/-- `device_dto`. -/
def deviceDto (index : ℕ) (device : DiscoveredDevice) : DeviceDto :=
  { index
    key := device.key
    instanceNumber := device.instanceNumber
    address := device.address
    detail := device.detail }

/-- One entry of the list of browsed points. -/
structure BrowsedPointDto where
  index : ℕ
  deviceKey : String
  name : Option String
  description : Option String
  units : Option String
  value : Option Json
  valueDisplay : Option String
  addressing : Addressing
  addressingDisplay : String
  suggestedTagPath : String
  deriving DecidableEq

variable {Disk : Type}

/-- `addressing_display`. -/
def addressingDisplay (core : Core Disk) (addressing : Addressing) : String :=
  " ".intercalate (addressing.toList.map fun (k, v) => k ++ "=" ++ core.jsonScalar v)

/-- `browsed_dto`. -/
def browsedDto (core : Core Disk) (index : ℕ) (point : DiscoveredPoint) : BrowsedPointDto :=
  { index
    deviceKey := point.deviceKey
    name := point.name
    description := point.description
    units := point.units
    value := point.value.map PointValue.asJsonValue
    valueDisplay := point.value.map PointValue.display
    addressing := point.addressing
    addressingDisplay := addressingDisplay core point.addressing
    suggestedTagPath := point.suggestedTagPath }

/-- The entries of an addressing map, each printed as `key=value`, joined by commas. -/
def addressingKey (core : Core Disk) (addressing : Addressing) : String :=
  ",".intercalate (addressing.toList.map fun (k, v) => k ++ "=" ++ v.render core.floatText)

/-- `identity_key`: the name the browser files a point's status under. -/
def identityKey (core : Core Disk) (point : PointConfig) : String :=
  addressingKey core (core.fromPoint point).addressing

/-- The status of a point, as the browser shows it. -/
structure PointStatusDto where
  state : String
  lastValue : Option Json
  lastValueDisplay : Option String
  lastSampleMs : Option ℤ
  stale : Bool
  consecutiveFailures : UInt32
  lastError : Option String
  lastPublishError : Option String
  deriving DecidableEq

/-- The status chip: publish error before read error before stale before ok. -/
def PointStatus.chip (status : PointStatus) : String :=
  if status.lastPublishError.isSome then "publish_error"
  else if status.lastError.isSome then "read_error"
  else if status.stale then "stale"
  else "ok"

/-- `status_dto`. A point without a status is unknown and counts as stale. -/
def statusDto : Option PointStatus → PointStatusDto
  | none =>
      { state := "unknown"
        lastValue := none
        lastValueDisplay := none
        lastSampleMs := none
        stale := true
        consecutiveFailures := 0
        lastError := none
        lastPublishError := none }
  | some status =>
      { state := status.chip
        lastValue := status.lastValue.map PointValue.asJsonValue
        lastValueDisplay := status.lastValue.map PointValue.display
        lastSampleMs := status.lastSampleMs
        stale := status.stale
        consecutiveFailures := status.consecutiveFailures
        lastError := status.lastError
        lastPublishError := status.lastPublishError }

/-- One entry of the list of configured points. -/
structure PointDto where
  index : ℕ
  identity : String
  enabled : Bool
  deviceKey : String
  tagPath : String
  pollIntervalSecs : UInt64
  addressing : Addressing
  addressingDisplay : String
  displayName : String
  topic : String
  status : PointStatusDto
  deriving DecidableEq

/-- `point_dto`. -/
def pointDto (core : Core Disk) (index : ℕ) (point : PointConfig) (mqtt : MqttConfig)
    (status : Option PointStatus) : PointDto :=
  { index
    identity := identityKey core point
    enabled := point.enabled
    deviceKey := point.deviceKey
    tagPath := point.tagPath
    pollIntervalSecs := point.pollIntervalSecs
    addressing := point.addressing
    addressingDisplay := addressingDisplay core point.addressing
    displayName := core.displayName point
    topic := core.telemetryTopic mqtt point
    status := statusDto status }

/-- One entry of the list of recent samples. -/
structure SampleDto where
  identity : String
  deviceKey : String
  tagPath : String
  displayName : String
  topic : String
  value : Json
  valueDisplay : String
  timestampMs : ℤ
  deriving DecidableEq

/-- `sample_dto`. -/
def sampleDto (core : Core Disk) (sample : PointSample) : SampleDto :=
  { identity := identityKey core sample.point
    deviceKey := sample.point.deviceKey
    tagPath := sample.point.tagPath
    displayName := core.displayName sample.point
    topic := sample.topic
    value := sample.value.asJsonValue
    valueDisplay := sample.value.display
    timestampMs := sample.timestampMs }

/-- The run state of the republisher, as the browser shows it. -/
structure LifecycleDto where
  state : String
  error : Option String
  deriving DecidableEq

/-- `lifecycle_dto`. -/
def lifecycleDto : RepublisherLifecycle → LifecycleDto
  | .starting => ⟨"starting", none⟩
  | .running => ⟨"running", none⟩
  | .stopping => ⟨"stopping", none⟩
  | .stopped => ⟨"stopped", none⟩
  | .failed error => ⟨"failed", some error⟩

/-- Which of the two write-only secrets are set. -/
structure SecretFlags where
  passwordSet : Bool
  clientKeyPassphraseSet : Bool
  deriving DecidableEq

/-- The configuration the browser is shown, with the secret flags. -/
structure RedactedConfig where
  config : AppConfig
  secrets : SecretFlags
  deriving DecidableEq

/-- `redacted_config`. -/
def redactedConfig (config : AppConfig) : RedactedConfig :=
  { config :=
      { config with mqtt := { config.mqtt with password := none, clientKeyPassphrase := none } }
    secrets :=
      { passwordSet := config.mqtt.password.isSome
        clientKeyPassphraseSet := config.mqtt.clientKeyPassphrase.isSome } }

end Republisher
