import Republisher.Api

/-!
# The browser client

The state `app.js` keeps and how it changes on the messages of the event stream.
What only the rendering reads is left out. `JSON.stringify` is a parameter.
-/

namespace Republisher

/-- What `app.js` keeps in `state`. -/
structure Browser where
  caps : List CapabilitiesDto
  config : Option AppConfig
  secrets : SecretFlags
  status : Option StatusDto
  devices : List DeviceDto
  browsed : List BrowsedPointDto
  points : List PointDto
  /-- Newest first. -/
  samples : List SampleDto
  logs : List LogRecord
  /-- The status of each point, by identity key. -/
  statuses : StatusDtos
  lifecycle : LifecycleDto
  interfaces : List NetworkInterface
  /-- The text in each connection field. -/
  connValues : FieldValues

/-- One message of the event stream. -/
inductive Message
  | snapshot (snapshot : Snapshot)
  | delta (delta : Delta)

namespace Browser

/-- The state a page starts with. -/
def initial : Browser :=
  { caps := []
    config := none
    secrets := ⟨false, false⟩
    status := none
    devices := []
    browsed := []
    points := []
    samples := []
    logs := []
    statuses := ∅
    lifecycle := ⟨"stopped", none⟩
    interfaces := []
    connValues := ∅ }

/-- `activeCaps`. -/
def activeCaps (b : Browser) : Option CapabilitiesDto :=
  b.caps.find? fun caps => caps.id == (b.config.map AppConfig.protocol).getD ""

/-- `jsonScalar`. -/
def jsonScalar (stringify : Json → String) : Option Json → String
  | none | some .null => ""
  | some (.string s) => s
  | some value => stringify value

/-- `defaultFieldString`. -/
def defaultFieldString (stringify : Json → String) (spec : FieldSpecDto) : String :=
  jsonScalar stringify spec.default

/-- The text of one connection field: the stored value or the default of the field. -/
def fieldString (stringify : Json → String) (existing : Addressing) (spec : FieldSpecDto) :
    String :=
  match existing.get? spec.key with
  | some value => jsonScalar stringify (some value)
  | none => defaultFieldString stringify spec

/-- `connectionStrings`. -/
def connectionStrings (stringify : Json → String) (b : Browser) : FieldValues :=
  match b.activeCaps, b.config with
  | some caps, some config =>
      let existing := (config.connections.get? config.protocol).getD ∅
      caps.connectionFields.foldl
        (fun values spec => values.insert spec.key (fieldString stringify existing spec)) ∅
  | _, _ => ∅

/-- `Object.assign` on the statuses. -/
def assignStatuses (changed : StatusDtos) (b : Browser) : Browser :=
  { b with statuses := changed ∪ b.statuses }

/-- File the status of each listed point. -/
def fileStatuses (b : Browser) : Browser :=
  { b with
    statuses := b.points.foldl (fun statuses point => statuses.insert point.identity point.status)
      b.statuses }

/-- The point with the status filed under its identity key, if there is one. -/
def syncPoint (statuses : StatusDtos) (point : PointDto) : PointDto :=
  { point with status := (statuses.lookup point.identity).getD point.status }

/-- `syncPointStatuses`. -/
def syncPointStatuses (b : Browser) : Browser :=
  { b with points := b.points.map (syncPoint b.statuses) }

/-- Change the status shown, once there is one. -/
def updateStatus (f : StatusDto → StatusDto) (b : Browser) : Browser :=
  { b with status := b.status.map f }

/-- The case `log` of `handleEvent`. An empty status line counts as none. -/
def pushLog (record : LogRecord) (statusLine : Option String) (b : Browser) : Browser :=
  let logs := b.logs ++ [record]
  let b := { b with logs := if 500 < logs.length then logs.drop 1 else logs }
  match statusLine with
  | some statusLine =>
      if statusLine = "" then b else b.updateStatus fun status => { status with statusLine }
  | none => b

/-- The case `snapshot` of `handleEvent`. -/
def hydrate (stringify : Json → String) (snapshot : Snapshot) (b : Browser) : Browser :=
  let b := { b with
    status := some snapshot.status
    caps := snapshot.capabilities
    config := some snapshot.config.config
    secrets := snapshot.config.secrets
    devices := snapshot.devices
    browsed := snapshot.browsed
    points := snapshot.points
    samples := snapshot.recentSamples
    logs := snapshot.logs
    lifecycle := snapshot.status.lifecycle
    statuses := ∅ }
  let b := b.fileStatuses
  { b with connValues := b.connectionStrings stringify }

/-- The other cases of `handleEvent`. -/
def handleDelta (stringify : Json → String) (b : Browser) : Delta → Browser
  | .log record statusLine => b.pushLog record statusLine
  | .devices devices =>
      { b with devices }.updateStatus fun status => { status with devices := devices.length }
  | .browsed points => { b with browsed := points }
  | .scanProgress current total =>
      b.updateStatus fun status => { status with scanProgress := some (current, total) }
  | .points points =>
      { b with points }.fileStatuses.updateStatus fun status =>
        { status with points := points.length }
  | .samples samples statuses =>
      ({ b with samples := (samples ++ b.samples).take 200 }.assignStatuses
        statuses).syncPointStatuses
  | .statuses statuses => (b.assignStatuses statuses).syncPointStatuses
  | .stats publishedTotal ackedTotal lastError =>
      b.updateStatus fun status => { status with publishedTotal, ackedTotal, lastError }
  | .lifecycle lifecycle =>
      { b with lifecycle }.updateStatus fun status => { status with lifecycle }
  | .config config =>
      let b := { b with config := some config.config, secrets := config.secrets }
      let b := b.updateStatus fun status => { status with protocol := config.config.protocol }
      { b with connValues := b.connectionStrings stringify }

/-- `handleEvent`. -/
def handleEvent (stringify : Json → String) (b : Browser) : Message → Browser
  | .snapshot snapshot => b.hydrate stringify snapshot
  | .delta delta => b.handleDelta stringify delta

/-- The browser after the messages of a stream, oldest first. -/
def handleEvents (stringify : Json → String) (b : Browser) (messages : List Message) : Browser :=
  messages.foldl (handleEvent stringify) b

/-- The browser after a list of deltas, oldest first. -/
def handleDeltas (stringify : Json → String) (b : Browser) (deltas : List Delta) : Browser :=
  deltas.foldl (handleDelta stringify) b

/-- A stream sends its snapshot and then deltas. -/
theorem handleEvents_snapshot (stringify : Json → String) (b : Browser) (snapshot : Snapshot)
    (deltas : List Delta) :
    b.handleEvents stringify (.snapshot snapshot :: deltas.map .delta) =
      (b.hydrate stringify snapshot).handleDeltas stringify deltas :=
  List.foldl_map

/-- `onConnChange`, without the timer it sets. -/
def onConnChange (key value : String) (b : Browser) : Browser :=
  { b with connValues := b.connValues.insert key value }

/-- `loadInterfaces` once it has its answer. The first interface is put into the form when the
form names none. -/
def loadInterfaces (interfaces : List NetworkInterface) (b : Browser) : Browser :=
  let b := { b with interfaces }
  match interfaces with
  | first :: _ =>
      if (b.connValues.get? "interface").getD "" = "" then b.onConnChange "interface" first.addr
      else b
  | [] => b

/-- The browser has had its snapshot. -/
def Hydrated (b : Browser) : Prop := b.status.isSome = true

/-- A snapshot hydrates the browser. -/
theorem hydrated_hydrate (stringify : Json → String) (snapshot : Snapshot) (b : Browser) :
    (b.hydrate stringify snapshot).Hydrated := rfl

/-- A delta keeps the browser hydrated. -/
theorem Hydrated.handleDelta (stringify : Json → String) {b : Browser} (h : b.Hydrated)
    (delta : Delta) :
    (b.handleDelta stringify delta).Hydrated := by
  have hupdate (b : Browser) (f : StatusDto → StatusDto) (hb : b.Hydrated) :
      (b.updateStatus f).Hydrated := by
    unfold Hydrated updateStatus
    rwa [Option.isSome_map]
  cases delta with
  | log record statusLine =>
    cases statusLine with
    | none => exact h
    | some statusLine =>
      simp only [Browser.handleDelta, pushLog]
      split
      · exact h
      · exact hupdate _ _ h
  | devices devices => exact hupdate _ _ h
  | browsed points => exact h
  | scanProgress current total => exact hupdate _ _ h
  | points points => exact hupdate _ _ h
  | samples samples statuses => exact h
  | statuses statuses => exact h
  | stats publishedTotal ackedTotal lastError => exact hupdate _ _ h
  | lifecycle lifecycle => exact hupdate _ _ h
  | config config => exact hupdate _ _ h

/-- The configuration shown is that of the last `config` delta. -/
theorem handleDelta_config (stringify : Json → String) (b : Browser) (d : Delta) :
    (b.handleDelta stringify d).config =
      match d with
      | .config config => some config.config
      | _ => b.config := by
  cases d with
  | log record statusLine =>
    cases statusLine with
    | none => rfl
    | some statusLine =>
      simp only [handleDelta, pushLog]
      split <;> rfl
  | _ => rfl

/-- Only a `config` delta replaces the text in the connection fields. -/
theorem handleDelta_connValues (stringify : Json → String) (b : Browser) (d : Delta) :
    (b.handleDelta stringify d).connValues =
      match d with
      | .config _ => (b.handleDelta stringify d).connectionStrings stringify
      | _ => b.connValues := by
  cases d with
  | log record statusLine =>
    cases statusLine with
    | none => rfl
    | some statusLine =>
      simp only [handleDelta, pushLog]
      split <;> rfl
  | _ => rfl

/-- The answer to `loadInterfaces` leaves the configuration alone. -/
theorem loadInterfaces_config (interfaces : List NetworkInterface) (b : Browser) :
    (b.loadInterfaces interfaces).config = b.config := by
  cases interfaces with
  | nil => rfl
  | cons first rest =>
    simp only [loadInterfaces]
    split <;> rfl

end Browser

end Republisher
