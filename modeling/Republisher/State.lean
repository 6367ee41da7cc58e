import Republisher.Dto
import Republisher.Worker

/-!
# Shared daemon state

`Shared` is the data behind the lock. `Server` adds what the daemon changes
outside it: the disk, the payloads broadcast to the browsers, the worker threads
and the stop flags. Every handler and every drained worker event holds the lock
from its first access to its last, so each is one function on `Server`.
-/

namespace Republisher

/-- `LOG_CAPACITY`. -/
def logCapacity : ℕ := 500

/-- `RECENT_SAMPLE_CAPACITY`. -/
def recentSampleCapacity : ℕ := 200

/-- `EVENT_BUFFER`. -/
def eventBuffer : ℕ := 256

/-- One line of the log. -/
structure LogRecord where
  seq : ℕ
  tsMs : ℤ
  level : String
  message : String
  deriving DecidableEq

/-- `level_str`. -/
def levelStr : LogLevel → String
  | .info => "info"
  | .warning => "warning"
  | .error => "error"

/-- `HashMap<PointIdentity, PointStatus>`. -/
abbrev Statuses := AList fun _ : PointIdentity => PointStatus

/-- The statuses a delta carries, by identity key. -/
abbrev StatusDtos := AList fun _ : String => PointStatusDto

/-- The mutable state behind the lock. -/
structure Shared where
  config : AppConfig
  devices : List DiscoveredDevice
  browsed : List DiscoveredPoint
  scanProgress : Option (ℕ × ℕ)
  statuses : Statuses
  /-- Newest first. -/
  recentSamples : List SampleDto
  /-- Oldest first. -/
  logs : List LogRecord
  logSeq : ℕ
  lifecycle : RepublisherLifecycle
  /-- The flag of the last started republisher, as a position in `Server.stopFlags`. -/
  stopFlag : Option ℕ
  publishedTotal : ℕ
  ackedTotal : ℕ
  lastError : Option String
  statusLine : String
  deriving DecidableEq

/-- One payload broadcast to the browsers. -/
inductive Delta
  | log (record : LogRecord) (statusLine : Option String)
  | devices (devices : List DeviceDto)
  | browsed (points : List BrowsedPointDto)
  | scanProgress (current total : ℕ)
  | points (points : List PointDto)
  | samples (samples : List SampleDto) (statuses : StatusDtos)
  | statuses (statuses : StatusDtos)
  | stats (publishedTotal ackedTotal : ℕ) (lastError : Option String)
  | lifecycle (lifecycle : LifecycleDto)
  | config (config : RedactedConfig)
  deriving DecidableEq

/-- Everything the daemon changes while it runs. -/
structure Server (Disk : Type) where
  shared : Shared
  disk : Disk
  /-- The payloads emitted and not yet on the broadcast channel, oldest first. -/
  events : List Delta
  /-- Every worker thread started, oldest first. -/
  threads : List Thread
  /-- Every stop flag created, oldest first. -/
  stopFlags : List Bool
  deriving DecidableEq

/-- The part of `WebState` that is fixed at boot. -/
structure WebState (Disk : Type) where
  core : Core Disk
  registry : RepublishRegistry
  configPath : String

variable {Disk : Type}

/-- `WebState::caps`: the capabilities by protocol id, a later entry replacing an earlier. -/
def WebState.caps (w : WebState Disk) (id : String) : Option Capabilities :=
  w.registry.capabilities.reverse.find? fun caps => caps.id == id

/-- `WebState::protocol_ids`. -/
def WebState.protocolIds (w : WebState Disk) : List String := w.registry.ids

/-- `push_log`. -/
def pushLog (core : Core Disk) (level : LogLevel) (message : String) (shared : Shared) :
    Shared × LogRecord :=
  let logs := if logCapacity ≤ shared.logs.length then shared.logs.drop 1 else shared.logs
  let record : LogRecord :=
    { seq := shared.logSeq + 1
      tsMs := core.nowMillis (shared.logSeq + 1)
      level := levelStr level
      message }
  ({ shared with logs := logs ++ [record], logSeq := shared.logSeq + 1 }, record)

namespace Server

/-- `WebState::emit`. -/
def emit (delta : Delta) (s : Server Disk) : Server Disk :=
  { s with events := s.events ++ [delta] }

/-- Start a worker thread. -/
def spawn (call : Spawn) (s : Server Disk) : Server Disk :=
  { s with threads := s.threads ++ [Thread.new call] }

/-- Change the state behind the lock. -/
def update (f : Shared → Shared) (s : Server Disk) : Server Disk :=
  { s with shared := f s.shared }

/-- `push_log` followed by the delta of the new record. -/
def log (core : Core Disk) (level : LogLevel) (message : String) (s : Server Disk) :
    Server Disk :=
  let (shared, record) := pushLog core level message s.shared
  { s with shared }.emit (.log record none)

/-- `WebState::set_status`. -/
def setStatus (core : Core Disk) (level : LogLevel) (message : String) (s : Server Disk) :
    Server Disk :=
  let (shared, record) := pushLog core level message { s.shared with statusLine := message }
  { s with shared }.emit (.log record (some shared.statusLine))

end Server

/-- `WebState::save_config`. -/
def WebState.saveConfig (w : WebState Disk) (s : Server Disk) :
    Except String Unit × Server Disk :=
  match w.core.validate s.shared.config with
  | .error error =>
      let message := "Config invalid: " ++ error
      (.error message, s.setStatus w.core .error message)
  | .ok () =>
      match w.core.saveToPath w.configPath s.shared.config s.disk with
      | (.ok (), disk) =>
          (.ok (), { s with disk }.setStatus w.core .info "Configuration saved")
      | (.error error, disk) =>
          let message := "Save failed: " ++ error
          (.error message, { s with disk }.setStatus w.core .error message)

/-- The device list as the browser shows it. -/
def devicesJson (shared : Shared) : List DeviceDto :=
  shared.devices.mapIdx deviceDto

/-- The list of browsed points as the browser shows it. -/
def browsedJson (core : Core Disk) (shared : Shared) : List BrowsedPointDto :=
  shared.browsed.mapIdx (browsedDto core)

/-- `WebState::points_json`. -/
def pointsJson (core : Core Disk) (shared : Shared) : List PointDto :=
  shared.config.points.mapIdx fun index point =>
    pointDto core index point shared.config.mqtt
      (shared.statuses.lookup (core.identity point))

/-- `WebState::emit_points`. -/
def Server.emitPoints (core : Core Disk) (s : Server Disk) : Server Disk :=
  s.emit (.points (pointsJson core s.shared))

/-- The `config` delta that follows a change of the configuration. -/
def Server.emitConfig (s : Server Disk) : Server Disk :=
  s.emit (.config (redactedConfig s.shared.config))

/-- `status_json`. -/
structure StatusDto where
  statusLine : String
  protocol : String
  lifecycle : LifecycleDto
  points : ℕ
  devices : ℕ
  publishedTotal : ℕ
  ackedTotal : ℕ
  lastError : Option String
  stalePoints : ℕ
  scanProgress : Option (ℕ × ℕ)
  configPath : String
  deriving DecidableEq

/-- `WebState::status_json`. -/
def WebState.statusJson (w : WebState Disk) (shared : Shared) : StatusDto :=
  { statusLine := shared.statusLine
    protocol := shared.config.protocol
    lifecycle := lifecycleDto shared.lifecycle
    points := shared.config.points.length
    devices := shared.devices.length
    publishedTotal := shared.publishedTotal
    ackedTotal := shared.ackedTotal
    lastError := shared.lastError
    stalePoints := shared.statuses.entries.countP fun entry => entry.2.stale
    scanProgress := shared.scanProgress
    configPath := w.configPath }

/-- The payload a browser starts from. -/
structure Snapshot where
  status : StatusDto
  capabilities : List CapabilitiesDto
  config : RedactedConfig
  devices : List DeviceDto
  browsed : List BrowsedPointDto
  points : List PointDto
  recentSamples : List SampleDto
  logs : List LogRecord
  deriving DecidableEq

/-- The capabilities of every registered protocol, in the order of registration. -/
def WebState.capabilitiesJson (w : WebState Disk) : List CapabilitiesDto :=
  (w.protocolIds.filterMap w.caps).map CapabilitiesDto.from

/-- `WebState::snapshot_json`. -/
def WebState.snapshotJson (w : WebState Disk) (shared : Shared) : Snapshot :=
  { status := w.statusJson shared
    capabilities := w.capabilitiesJson
    config := redactedConfig shared.config
    devices := devicesJson shared
    browsed := browsedJson w.core shared
    points := pointsJson w.core shared
    recentSamples := shared.recentSamples
    logs := shared.logs }

/-- `WebState::new`: the state at boot, with the boot status as its first log record. -/
def WebState.new (w : WebState Disk) (config : AppConfig) (bootStatus : String) (disk : Disk) :
    Server Disk :=
  let shared : Shared :=
    { config
      devices := []
      browsed := []
      scanProgress := none
      statuses := ∅
      recentSamples := []
      logs := []
      logSeq := 0
      lifecycle := .stopped
      stopFlag := none
      publishedTotal := 0
      ackedTotal := 0
      lastError := none
      statusLine := bootStatus }
  { shared := (pushLog w.core .info bootStatus shared).1
    disk
    events := []
    threads := []
    stopFlags := [] }

/-- What the loops over samples and failures carry: the shared state, the statuses
changed so far and the samples converted so far. -/
structure Batch where
  shared : Shared
  changed : StatusDtos
  samples : List SampleDto

/-- Update the status filed under an identity, starting from the default status. Identities
that `==` takes for equal have one entry. -/
def Shared.updateStatus (core : Core Disk) (identity : PointIdentity)
    (f : PointStatus → PointStatus) (shared : Shared) : Shared × PointStatus :=
  let status := f ((shared.statuses.lookup identity.canonical).getD core.defaultStatus)
  ({ shared with statuses := shared.statuses.insert identity.canonical status }, status)

/-- One sample of a `Samples` event. -/
def applySample (core : Core Disk) (batch : Batch) (sample : PointSample) : Batch :=
  let (shared, status) := batch.shared.updateStatus core (core.fromPoint sample.point)
    fun status => core.recordSample status sample
  { shared := { shared with recentSamples := sampleDto core sample :: shared.recentSamples }
    changed := batch.changed.insert (identityKey core sample.point) (statusDto (some status))
    samples := batch.samples ++ [sampleDto core sample] }

/-- One failure of a `Failures` event. -/
def applyFailure (core : Core Disk) (batch : Batch) (failure : PointFailure) : Batch :=
  let (shared, status) := batch.shared.updateStatus core (core.fromPoint failure.point)
    fun status => core.recordReadFailure status failure.error
  { batch with
    shared
    changed := batch.changed.insert (identityKey core failure.point) (statusDto (some status)) }

/-- The status line of a finished bulk import. -/
def bulkImportStatus (result : ImportResult) : String :=
  "Bulk import: " ++ toString result.added ++ " added, " ++ toString result.updated ++ " updated"

/-- `apply_event`. -/
def WebState.applyEvent (w : WebState Disk) (event : WorkerEvent) (s : Server Disk) :
    Server Disk :=
  match event with
  | .log level message => s.log w.core level message
  | .devices outcome =>
      let s := s.update fun shared => { shared with devices := outcome.devices }
      let s := outcome.warnings.foldl (fun s warning => s.log w.core .warning warning) s
      s.emit (.devices (devicesJson s.shared))
  | .points points =>
      let s := s.update fun shared => { shared with browsed := points }
      s.emit (.browsed (browsedJson w.core s.shared))
  | .scanProgress current total =>
      let s := s.update fun shared => { shared with scanProgress := some (current, total) }
      s.emit (.scanProgress current total)
  | .bulkTagImport result =>
      let s := s.update fun shared =>
        { shared with
          config := { shared.config with points := result.points }
          scanProgress := none }
      -- the outcome of the save is dropped
      let (_, s) := w.saveConfig s
      let s := s.setStatus w.core .info (bulkImportStatus result)
      s.emitPoints w.core
  | .samples samples =>
      let batch := samples.foldl (applySample w.core) ⟨s.shared, ∅, []⟩
      let s := s.update fun _ =>
        { batch.shared with
          recentSamples := batch.shared.recentSamples.take recentSampleCapacity }
      s.emit (.samples batch.samples batch.changed)
  | .failures failures =>
      let batch := failures.foldl (applyFailure w.core) ⟨s.shared, ∅, []⟩
      (s.update fun _ => batch.shared).emit (.statuses batch.changed)
  | .publishStatus stats =>
      let s := s.update fun shared =>
        { shared with
          publishedTotal := shared.publishedTotal + stats.published
          ackedTotal := max shared.ackedTotal stats.acked
          lastError := stats.lastError }
      s.emit (.stats s.shared.publishedTotal s.shared.ackedTotal s.shared.lastError)
  | .pointPublish identity error =>
      let (shared, status) := s.shared.updateStatus w.core identity fun status =>
        match error with
        | none => w.core.recordPublishSuccess status
        | some message => w.core.recordPublishFailure status message
      (s.update fun _ => shared).emit
        (.statuses ((∅ : StatusDtos).insert (addressingKey w.core identity.addressing)
          (statusDto (some status))))
  | .lifecycle lifecycle =>
      let s := match lifecycle with
        | .failed error => s.log w.core .error ("Republisher failed: " ++ error)
        | _ => s
      let s := s.update fun shared => { shared with lifecycle }
      s.emit (.lifecycle (lifecycleDto s.shared.lifecycle))
  | .finished message => s.log w.core .info message

end Republisher
