import Republisher.Effects
import Republisher.Keyed

/-!
# A daemon with an in-memory file

A small executable core: one configuration file that is either writable or not,
a validation that wants a tag path for every point, and two protocols with a text
and a secret connection field each. The concrete runs of the other files use it.
-/

namespace Republisher

/-- The configuration file and whether it can be written. -/
structure MemoryDisk where
  file : Option AppConfig
  writable : Bool
  deriving DecidableEq

/-- Merge one found point into a list by identity. -/
def mergeFound (result : ImportResult) (found : PointConfig) : ImportResult :=
  match result.points.findIdx? fun p =>
      PointIdentity.canonical ⟨p.addressing⟩ == PointIdentity.canonical ⟨found.addressing⟩ with
  | some index =>
      { result with points := result.points.set index found, updated := result.updated + 1 }
  | none => { result with points := result.points ++ [found], added := result.added + 1 }

/-- Merge found points into a list by identity, counting additions and updates. -/
def mergeByIdentity (existing found : List PointConfig) : ImportResult :=
  found.foldl mergeFound ⟨existing, 0, 0⟩

/-- The core of the in-memory daemon. -/
def memoryCore : Core MemoryDisk where
  validate config :=
    if config.points.all fun point => point.tagPath != "" then .ok ()
    else .error "a point has no tag path"
  saveToPath _ config disk :=
    if disk.writable then (.ok (), { disk with file := some config })
    else (.error "read-only file system", disk)
  loadFromPath _ disk :=
    match disk.file with
    | some config => .ok config
    | none => .error "no such file"
  connection protocol connections := (connections.get? protocol).getD ∅
  setConnection protocol connections addressing := connections.insert protocol addressing
  fromPoint point := ⟨point.addressing⟩
  displayName point := point.tagPath
  telemetryTopic mqtt point := mqtt.topicPrefix ++ "/" ++ point.tagPath
  mergeImportedPoints := mergeByIdentity
  defaultStatus := ⟨none, none, true, 0, none, none⟩
  recordSample status sample :=
    { status with
      lastValue := some sample.value
      lastSampleMs := some sample.timestampMs
      stale := false
      consecutiveFailures := 0
      lastError := none }
  recordReadFailure status error :=
    { status with
      stale := true
      consecutiveFailures := status.consecutiveFailures + 1
      lastError := some error }
  recordPublishSuccess status := { status with lastPublishError := none }
  recordPublishFailure status error := { status with lastPublishError := some error }
  jsonScalar
    | .string s => s
    | v => v.render fun _ => ""
  floatText _ := ""
  ipv4Interfaces := []
  nowMillis n := n

/-- The in-memory merge puts the found points into the list by identity. -/
theorem memoryCore_merge_points (existing found : List PointConfig) :
    (memoryCore.mergeImportedPoints existing found).points =
      Keyed.merge memoryCore.identity existing found := by
  suffices h : ∀ result : ImportResult, (found.foldl mergeFound result).points =
      Keyed.merge memoryCore.identity result.points found from h ⟨existing, 0, 0⟩
  induction found with
  | nil => exact fun _ => rfl
  | cons f found ih =>
    intro result
    have hstep : (mergeFound result f).points =
        Keyed.upsert memoryCore.identity f result.points := by
      rw [mergeFound, Keyed.upsert]
      show (match result.points.findIdx?
          fun p => memoryCore.identity p == memoryCore.identity f with
        | some index => _
        | none => _ : ImportResult).points = _
      cases result.points.findIdx? fun p =>
        memoryCore.identity p == memoryCore.identity f <;> rfl
    rw [List.foldl_cons, ih, hstep]
    rfl

/-- A field of a form without default and help. -/
def plainField (key : String) (kind : FieldKind) : FieldSpec :=
  { key, label := key, kind, default := none, help := none }

/-- A protocol with a text and a secret connection field and one addressing field. -/
def plainProtocol (id : String) : Capabilities :=
  { id
    displayName := id
    discovery := .broadcast
    browse := .objectList
    connectionFields := [plainField "host" .text, plainField "password" .secret]
    addressingFields := [plainField "id" .text]
    defaultPort := 0 }

/-- The in-memory daemon with the protocols `bacnet` and `modbus`. -/
def memoryState : WebState MemoryDisk where
  core := memoryCore
  registry :=
    { capabilities := [plainProtocol "bacnet", plainProtocol "modbus"]
      ids := ["bacnet", "modbus"]
      registered := fun id => id == "bacnet" || id == "modbus" }
  configPath := "/data/config.toml"

/-- Broker settings without secrets. -/
def plainMqtt : MqttConfig :=
  { host := "localhost"
    port := 8883
    useTls := true
    clientId := "netix-republisher"
    topicPrefix := "Netix/Site"
    healthTopic := "Netix/Site/_health/republisher"
    username := none
    password := none
    passwordEnv := none
    caCertPath := none
    clientCertPath := none
    clientKeyPath := none
    clientKeyPassphrase := none
    rememberSecrets := false
    retain := false
    keepAliveSecs := 30
    payloadFormat := .scalar
    deviceTopicPrefix := ""
    autostart := false }

/-- A configuration of the protocol `bacnet` with the given points. -/
def plainConfig (points : List PointConfig) : AppConfig :=
  { protocol := "bacnet"
    connections := ∅
    mqtt := plainMqtt
    points
    discoverOnStart := false
    ui := ⟨.auto⟩ }

/-- The point with the given value of its addressing field. -/
def plainPoint (id : String) : PointConfig :=
  { enabled := true
    deviceKey := "AHU-1"
    addressing := (∅ : Addressing).insert "id" (.string id)
    tagPath := id
    pollIntervalSecs := 10 }

/-- The in-memory daemon at boot, with its configuration on the disk. -/
def memoryServer (points : List PointConfig) (writable : Bool) : Server MemoryDisk :=
  memoryState.new (plainConfig points) "Loaded saved configuration"
    ⟨some (plainConfig points), writable⟩

/-- A reading of the point with the given value of its addressing field. -/
def plainSample (id value : String) : PointSample :=
  { point := plainPoint id
    topic := "Netix/Site/" ++ id
    value := ⟨.string value, value⟩
    timestampMs := 0 }

/-- The plain broker settings with the given topic start. -/
def plainSettings (topicStart : String) : SettingsReq where
  mqtt :=
    { host := plainMqtt.host
      port := plainMqtt.port
      useTls := plainMqtt.useTls
      clientId := plainMqtt.clientId
      topicPrefix := topicStart
      healthTopic := plainMqtt.healthTopic
      rememberSecrets := plainMqtt.rememberSecrets
      retain := plainMqtt.retain
      keepAliveSecs := plainMqtt.keepAliveSecs
      payloadFormat := plainMqtt.payloadFormat
      deviceTopicPrefix := plainMqtt.deviceTopicPrefix
      autostart := plainMqtt.autostart }

/-- `JSON.stringify` on the values of a text field. -/
def plainStringify (value : Json) : String := value.render fun _ => ""

end Republisher
