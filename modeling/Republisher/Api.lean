import Republisher.State

/-!
# Request handlers

Each handler is a function from the request and the server to an answer and the
server after it. The server is returned next to the answer and not inside it,
so that what a handler had changed before it failed stays visible, as it does
behind the lock.
-/

namespace Republisher

/-- An error answer: the status code and the `error` text of its body. -/
structure ApiError where
  status : ℕ
  error : String
  deriving DecidableEq

/-- `bad_request`. -/
def badRequest (message : String) : ApiError := ⟨400, message⟩

/-- `conflict`. -/
def conflict (message : String) : ApiError := ⟨409, message⟩

/-- `not_found`. -/
def notFound (message : String) : ApiError := ⟨404, message⟩

/-- The body of a successful answer. -/
inductive Reply
  | ok
  | removed (count : ℕ)
  | state (snapshot : Snapshot)
  | status (status : StatusDto)
  | capabilities (protocols : List CapabilitiesDto)
  | config (config : RedactedConfig)
  | points (points : List PointDto)
  | interfaces (interfaces : List NetworkInterface)
  | logs (logs : List LogRecord)
  deriving DecidableEq

variable {Disk : Type}

/-- What a handler returns: its answer and the server it leaves. -/
abbrev Outcome (Disk : Type) := Except ApiError Reply × Server Disk

/-- The string field values of a request, by field key. -/
abbrev FieldValues := StringMap String

/-- The value stored for one field. A number that does not parse stays a string. -/
def fieldValue (spec : FieldSpec) (raw : String) : Json :=
  match spec.kind with
  | .u32 =>
      match parseU64 (trim raw) with
      | some n => .number (.posInt n)
      | none => .string raw
  | .bool => .bool (raw == "true")
  | _ => .string raw

/-- `build_addressing`. -/
def buildAddressing (specs : List FieldSpec) (values : FieldValues) : Addressing :=
  specs.foldl (fun addressing spec =>
    addressing.insert spec.key (fieldValue spec ((values.get? spec.key).getD ""))) ∅

/-- Save the configuration and go on with `next`, or answer with the reason why not. -/
def WebState.saveThen (w : WebState Disk) (next : Server Disk → Reply × Server Disk)
    (s : Server Disk) : Outcome Disk :=
  match w.saveConfig s with
  | (.error message, s) => (.error (badRequest message), s)
  | (.ok (), s) =>
      let (reply, s) := next s
      (.ok reply, s)

/-- Replace the configured points. -/
def Server.setPoints (points : List PointConfig) (s : Server Disk) : Server Disk :=
  s.update fun shared => { shared with config := { shared.config with points } }

/-! ## Read endpoints -/

/-- `get_interfaces`. It also writes a status line. -/
def getInterfaces (w : WebState Disk) (s : Server Disk) : Outcome Disk :=
  let interfaces := w.core.ipv4Interfaces
  let message := "Refreshed " ++ toString interfaces.length ++ " network interface(s)"
  (.ok (.interfaces interfaces), s.setStatus w.core .info message)

/-! ## Protocol and connection -/

/-- `set_protocol`. -/
def setProtocol (w : WebState Disk) (id : String) (s : Server Disk) : Outcome Disk :=
  if (w.caps id).isNone then
    (.error (badRequest ("unknown protocol '" ++ id ++ "'")), s)
  else
    let s := s.update fun shared =>
      { shared with
        config := { shared.config with protocol := id }
        devices := []
        browsed := [] }
    (.ok .ok, ((s.emitConfig).emit (.devices [])).emit (.browsed []))

/-- `set_connection`. -/
def setConnection (w : WebState Disk) (values : FieldValues) (s : Server Disk) : Outcome Disk :=
  match w.caps s.shared.config.protocol with
  | none => (.error (badRequest "no protocol selected"), s)
  | some caps =>
      let addressing := buildAddressing caps.connectionFields values
      let s := s.update fun shared =>
        { shared with config := shared.config.setConnection w.core addressing }
      w.saveThen (fun s => (.ok, s.emitConfig)) s

/-! ## Discovery, browse, scan and poll -/

/-- `discover`. -/
def discover (w : WebState Disk) (s : Server Disk) : Outcome Disk :=
  match w.registry.get s.shared.config.protocol with
  | none => (.error (badRequest "no protocol selected"), s)
  | some factory =>
      let s := s.update fun shared => { shared with devices := [] }
      let s := s.setStatus w.core .info "Discovering…"
      let s := s.emit (.devices [])
      (.ok .ok, s.spawn (.discovery factory (s.shared.config.connection w.core)))

/-- `browse_device`. -/
def browseDevice (w : WebState Disk) (index : ℕ) (s : Server Disk) : Outcome Disk :=
  match s.shared.devices[index]? with
  | none => (.error (notFound "no such discovered device"), s)
  | some device =>
      match w.registry.get s.shared.config.protocol with
      | none => (.error (badRequest "no protocol selected"), s)
      | some factory =>
          let s := s.update fun shared => { shared with browsed := [] }
          let s := s.setStatus w.core .info ("Browsing " ++ device.key ++ "…")
          let s := s.emit (.browsed [])
          (.ok .ok, s.spawn (.browse factory (s.shared.config.connection w.core) device))

/-- `scan_all`. -/
def scanAll (w : WebState Disk) (s : Server Disk) : Outcome Disk :=
  if s.shared.devices.isEmpty then
    (.error (badRequest "discover devices before scan-all"),
      s.setStatus w.core .warning "Discover devices before scan-all")
  else
    match w.registry.get s.shared.config.protocol with
    | none => (.error (badRequest "no protocol selected"), s)
    | some factory =>
        let devices := s.shared.devices
        let existing := s.shared.config.points
        let s := s.update fun shared => { shared with scanProgress := some (0, devices.length) }
        let s := s.setStatus w.core .info "Scanning all objects…"
        let s := s.emit (.scanProgress 0 devices.length)
        (.ok .ok, s.spawn
          (.scanAllObjects factory (s.shared.config.connection w.core) devices existing))

/-- `poll_once`. -/
def pollOnce (w : WebState Disk) (s : Server Disk) : Outcome Disk :=
  match w.registry.get s.shared.config.protocol with
  | none => (.error (badRequest "no protocol selected"), s)
  | some factory =>
      let s := s.spawn (.pollOnce factory (s.shared.config.connection w.core)
        s.shared.config.mqtt s.shared.config.points)
      (.ok .ok, s.setStatus w.core .info "Polling once…")

/-! ## Points -/

/-- `PointReq`, with its defaults filled in. -/
structure PointReq where
  index : Option ℕ
  enabled : Bool := true
  deviceKey : String := ""
  tagPath : String := ""
  pollIntervalSecs : UInt64 := 10
  addressing : FieldValues := ∅

/-- The point a request describes. -/
def PointReq.point (caps : Capabilities) (req : PointReq) : PointConfig :=
  { enabled := req.enabled
    deviceKey := trim req.deviceKey
    addressing := buildAddressing caps.addressingFields req.addressing
    tagPath := trim req.tagPath
    pollIntervalSecs := max req.pollIntervalSecs 1 }

/-- `save_point`: replace the point at the index, or append without one. -/
def savePoint (w : WebState Disk) (req : PointReq) (s : Server Disk) : Outcome Disk :=
  match w.caps s.shared.config.protocol with
  | none => (.error (badRequest "select a protocol first"), s)
  | some caps =>
      let point := req.point caps
      let points := s.shared.config.points
      let finish (s : Server Disk) := w.saveThen (fun s => (.ok, s.emitPoints w.core)) s
      match req.index with
      | some index =>
          if index < points.length then finish (s.setPoints (points.set index point))
          else (.error (notFound "no such point"), s)
      | none => finish (s.setPoints (points ++ [point]))

/-- `toggle_point`. -/
def togglePoint (w : WebState Disk) (index : ℕ) (enabled : Bool) (s : Server Disk) :
    Outcome Disk :=
  match s.shared.config.points[index]? with
  | none => (.error (notFound "no such point"), s)
  | some point =>
      w.saveThen (fun s => (.ok, s.emitPoints w.core))
        (s.setPoints (s.shared.config.points.set index { point with enabled }))

/-- `delete_point`. -/
def deletePoint (w : WebState Disk) (index : ℕ) (s : Server Disk) : Outcome Disk :=
  if s.shared.config.points.length ≤ index then
    (.error (notFound "no such point"), s)
  else
    w.saveThen (fun s => (.ok, s.emitPoints w.core))
      (s.setPoints (s.shared.config.points.eraseIdx index))

/-- `clear_points`. -/
def clearPoints (w : WebState Disk) (s : Server Disk) : Outcome Disk :=
  let removed := s.shared.config.points.length
  let s := s.update fun shared =>
    { shared with config := { shared.config with points := [] }, statuses := ∅ }
  w.saveThen (fun s =>
    let message := "Cleared " ++ toString removed ++ " configured point(s)."
    (.removed removed, (s.setStatus w.core .info message).emitPoints w.core)) s

/-- The point `add_browsed_point` configures for a browsed entry. -/
def DiscoveredPoint.toPoint (found : DiscoveredPoint) : PointConfig :=
  { enabled := true
    deviceKey := found.deviceKey
    addressing := found.addressing
    tagPath := found.suggestedTagPath
    pollIntervalSecs := 10 }

/-- Replace the first point with the identity of `point`, or append `point`. -/
def upsert (core : Core Disk) (point : PointConfig) (points : List PointConfig) :
    List PointConfig :=
  match points.findIdx? fun p => core.identity p == core.identity point with
  | some index => points.set index point
  | none => points ++ [point]

/-- `add_browsed_point`. -/
def addBrowsedPoint (w : WebState Disk) (index : ℕ) (s : Server Disk) : Outcome Disk :=
  match s.shared.browsed[index]? with
  | none => (.error (notFound "no such browsed point"), s)
  | some found =>
      w.saveThen
        (fun s => (.ok, (s.setStatus w.core .info "Added point from browse").emitPoints w.core))
        (s.setPoints (upsert w.core found.toPoint s.shared.config.points))

/-! ## Settings -/

/-- `MqttSettingsReq`. -/
structure MqttSettingsReq where
  host : String
  port : UInt16
  useTls : Bool
  clientId : String
  topicPrefix : String
  healthTopic : String
  username : Option String := none
  /-- Absent keeps the stored secret, empty clears it, anything else replaces it. -/
  password : Option String := none
  caCertPath : Option String := none
  clientCertPath : Option String := none
  clientKeyPath : Option String := none
  /-- As `password`. -/
  clientKeyPassphrase : Option String := none
  rememberSecrets : Bool
  retain : Bool
  keepAliveSecs : UInt64
  payloadFormat : PayloadFormat
  deviceTopicPrefix : String
  autostart : Bool

/-- `SettingsReq`. -/
structure SettingsReq where
  mqtt : MqttSettingsReq
  theme : Option UiTheme := none
  discoverOnStart : Option Bool := none

/-- `non_empty`. -/
def nonEmpty (value : Option String) : Option String :=
  value.bind fun v => if trim v = "" then none else some (trim v)

/-- `apply_secret`. -/
def applySecret (current update : Option String) : Option String :=
  match update with
  | none => current
  | some value => if value = "" then none else some value

/-- The configuration `put_settings` wants to save. -/
def SettingsReq.apply (req : SettingsReq) (config : AppConfig) : AppConfig :=
  { config with
    mqtt :=
      { config.mqtt with
        host := req.mqtt.host
        port := req.mqtt.port
        useTls := req.mqtt.useTls
        clientId := req.mqtt.clientId
        topicPrefix := req.mqtt.topicPrefix
        healthTopic := req.mqtt.healthTopic
        username := nonEmpty req.mqtt.username
        password := applySecret config.mqtt.password req.mqtt.password
        caCertPath := nonEmpty req.mqtt.caCertPath
        clientCertPath := nonEmpty req.mqtt.clientCertPath
        clientKeyPath := nonEmpty req.mqtt.clientKeyPath
        clientKeyPassphrase :=
          applySecret config.mqtt.clientKeyPassphrase req.mqtt.clientKeyPassphrase
        rememberSecrets := req.mqtt.rememberSecrets
        retain := req.mqtt.retain
        keepAliveSecs := max req.mqtt.keepAliveSecs 1
        payloadFormat := req.mqtt.payloadFormat
        deviceTopicPrefix := req.mqtt.deviceTopicPrefix
        autostart := req.mqtt.autostart }
    discoverOnStart := req.discoverOnStart.getD config.discoverOnStart
    ui := { config.ui with theme := req.theme.getD config.ui.theme } }

/-- `put_settings`. -/
def putSettings (w : WebState Disk) (req : SettingsReq) (s : Server Disk) : Outcome Disk :=
  w.saveThen (fun s => (.ok, s.emitConfig))
    (s.update fun shared => { shared with config := req.apply shared.config })

/-! ## Republisher life cycle -/

/-- The life-cycle states in which a start is refused. -/
def RepublisherLifecycle.active : RepublisherLifecycle → Bool
  | .starting | .running | .stopping => true
  | .stopped | .failed _ => false

/-- `start_republisher`. -/
def startRepublisher (w : WebState Disk) (s : Server Disk) : Outcome Disk :=
  if s.shared.lifecycle.active then
    (.error (conflict "republisher is already running"), s)
  else
    match w.core.validate s.shared.config with
    | .error error =>
        let message := "Cannot start: " ++ error
        (.error (badRequest message), s.setStatus w.core .error message)
    | .ok () =>
        match w.registry.get s.shared.config.protocol with
        | none => (.error (badRequest "no protocol selected"), s)
        | some factory =>
            let stop := s.stopFlags.length
            let s := { s with stopFlags := s.stopFlags ++ [false] }
            let s := s.update fun shared =>
              { shared with
                stopFlag := some stop
                publishedTotal := 0
                ackedTotal := 0
                lastError := none }
            let config := s.shared.config
            let s := s.spawn (.republisher factory (config.connection w.core) config.mqtt
              config.points config.discoverOnStart stop)
            (.ok .ok, s.setStatus w.core .info "Republisher starting…")

/-- `stop.store(true)` on the flag `shared.stop_flag` refers to, if any. -/
def Server.raiseStop (s : Server Disk) : Server Disk :=
  match s.shared.stopFlag with
  | none => s
  | some stop => { s with stopFlags := s.stopFlags.set stop true }

/-- `stop_republisher`. -/
def stopRepublisher (w : WebState Disk) (s : Server Disk) : Outcome Disk :=
  if s.shared.stopFlag.isSome then
    (.ok .ok, s.raiseStop.setStatus w.core .info "Stopping republisher…")
  else
    (.ok .ok, s)

/-- What the shutdown task does behind the lock. -/
def shutdown (w : WebState Disk) (s : Server Disk) : Server Disk :=
  s.raiseStop.setStatus w.core .info "Shutting down…"

/-! ## All requests -/

/-- A request to one of the handlers that use the shared state. -/
inductive Request
  | getState
  | getStatus
  | getCapabilities
  | getConfig
  | getPoints
  | getInterfaces
  | getLogs
  | setProtocol (id : String)
  | setConnection (values : FieldValues)
  | discover
  | browseDevice (index : ℕ)
  | scanAll
  | pollOnce
  | savePoint (req : PointReq)
  | togglePoint (index : ℕ) (enabled : Bool)
  | deletePoint (index : ℕ)
  | clearPoints
  | addBrowsedPoint (index : ℕ)
  | putSettings (req : SettingsReq)
  | startRepublisher
  | stopRepublisher

/-- The handler of each request. -/
def WebState.handle (w : WebState Disk) (r : Request) (s : Server Disk) : Outcome Disk :=
  match r with
  | .getState => (.ok (.state (w.snapshotJson s.shared)), s)
  | .getStatus => (.ok (.status (w.statusJson s.shared)), s)
  | .getCapabilities => (.ok (.capabilities w.capabilitiesJson), s)
  | .getConfig => (.ok (.config (redactedConfig s.shared.config)), s)
  | .getPoints => (.ok (.points (pointsJson w.core s.shared)), s)
  | .getInterfaces => Republisher.getInterfaces w s
  | .getLogs => (.ok (.logs s.shared.logs), s)
  | .setProtocol id => Republisher.setProtocol w id s
  | .setConnection values => Republisher.setConnection w values s
  | .discover => Republisher.discover w s
  | .browseDevice index => Republisher.browseDevice w index s
  | .scanAll => Republisher.scanAll w s
  | .pollOnce => Republisher.pollOnce w s
  | .savePoint req => Republisher.savePoint w req s
  | .togglePoint index enabled => Republisher.togglePoint w index enabled s
  | .deletePoint index => Republisher.deletePoint w index s
  | .clearPoints => Republisher.clearPoints w s
  | .addBrowsedPoint index => Republisher.addBrowsedPoint w index s
  | .putSettings req => Republisher.putSettings w req s
  | .startRepublisher => Republisher.startRepublisher w s
  | .stopRepublisher => Republisher.stopRepublisher w s

end Republisher
