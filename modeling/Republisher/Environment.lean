import Republisher.Network
import Mathlib.Order.MinMax

/-!
# Settings from the environment

At every boot the variables `REPUBLISHER_*` override what the configuration file says. Most
set one field; one names a variable with the password, and two are merged into a connection
and into the point list. This file has the overrides in the order of the source.
-/

namespace Republisher

variable {Disk α : Type}

/-- The environment of the process, with the functions of other crates that read it. -/
structure Environment where
  /-- `std::env::var(key).ok()`. -/
  var : String → Option String
  /-- `MqttConfig::resolve_password_env`: whether it did, and the settings after it. -/
  resolvePasswordEnv : MqttConfig → Bool × MqttConfig
  /-- A JSON object, by its members in the order of iteration. -/
  parseObject : String → Option (List (String × Json))
  /-- A JSON array of points. -/
  parsePoints : String → Option (List PointConfig)

/-- `str::to_ascii_lowercase`. -/
def toAsciiLowercase (s : String) : String := String.ofList (s.toList.map Char.toLower)

/-- The words that `env_bool` knows. -/
def boolWord : String → Option Bool
  | "1" | "true" | "yes" | "on" => some true
  | "0" | "false" | "no" | "off" => some false
  | _ => none

/-- The words for a payload format. -/
def payloadWord : String → Option PayloadFormat
  | "scalar" => some .scalar
  | "netix_envelope" | "envelope" => some .netixEnvelope
  | _ => none

/-- The text of the `ParseIntError` of digits that make no number below the bound. -/
def digitsError (bound : ℕ) : ℕ → List Char → String
  | _, [] => "invalid digit found in string"
  | acc, c :: cs =>
      if c.isDigit then
        let value := 10 * acc + (c.toNat - 48)
        if value < bound then digitsError bound value cs
        else "number too large to fit in target type"
      else "invalid digit found in string"

/-- The text of the `ParseIntError` of an unsigned `from_str` that fails. -/
def parseIntError (bound : ℕ) (s : String) : String :=
  match s.toList with
  | [] => "cannot parse integer from empty string"
  | '+' :: cs => digitsError bound 0 cs
  | cs => digitsError bound 0 cs

namespace Environment

/-- `env`: a variable that is set and not blank. -/
def env (e : Environment) (key : String) : Option String :=
  (e.var key).filter fun v => trim v != ""

/-- What a variable that is set and not blank says, `none` where it cannot be parsed. -/
def given (e : Environment) (key : String) (parse : String → Option α) : Option α :=
  (e.env key).bind parse

/-- A variable that may be missing and must parse otherwise. -/
def read (e : Environment) (key : String) (parse : String → Option α)
    (error : String → String) : Except String (Option α) :=
  match e.env key with
  | none => .ok none
  | some raw =>
      match parse raw with
      | some value => .ok (some value)
      | none => .error (error raw)

/-- How `env_bool` reads a text. -/
def asBool (raw : String) : Option Bool := boolWord (toAsciiLowercase (trim raw))

/-- `env_bool`. -/
def envBool (e : Environment) (key : String) : Except String (Option Bool) :=
  e.read key asBool fun raw =>
    key ++ ": expected a boolean, got '" ++ toAsciiLowercase (trim raw) ++ "'"

/-- How `env_parse` reads an unsigned integer with the given bound. -/
def asUnsigned (bound : ℕ) (ofNat : ℕ → α) (raw : String) : Option α :=
  (parseUnsigned bound (trim raw)).map ofNat

/-- `env_parse`, at an unsigned integer type. -/
def envParse (e : Environment) (bound : ℕ) (ofNat : ℕ → α) (key : String) :
    Except String (Option α) :=
  e.read key (asUnsigned bound ofNat) fun raw => key ++ ": " ++ parseIntError bound (trim raw)

/-- How the payload format is read. -/
def asPayloadFormat (raw : String) : Option PayloadFormat :=
  payloadWord (toAsciiLowercase (trim raw))

/-- A text that is kept as it is. -/
def asText (raw : String) : Option String := some raw

/-- A text that is trimmed. -/
def asTrimmed (raw : String) : Option String := some (trim raw)

/-- A text for a field that may be absent. -/
def asPresent (raw : String) : Option (Option String) := some (some raw)

/-- How the keep-alive time is read: one second at least. -/
def asKeepAlive (raw : String) : Option UInt64 :=
  (asUnsigned UInt64.size UInt64.ofNat raw).map (max 1)

end Environment

/-- A place in the configuration that can be read and written. -/
structure ConfigField (α : Type) where
  get : AppConfig → α
  set : α → AppConfig → AppConfig
  set_get : ∀ config, set (get config) config = config := by intro; rfl

/-- A place in the MQTT settings. -/
def ConfigField.mqtt (get : MqttConfig → α) (set : α → MqttConfig → MqttConfig)
    (h : ∀ mqtt, set (get mqtt) mqtt = mqtt := by intro; rfl) : ConfigField α where
  get config := get config.mqtt
  set value config := { config with mqtt := set value config.mqtt }
  set_get config := by rw [h]

/-- The configuration so far and the notes on it. -/
structure Boot where
  config : AppConfig
  notes : List String
  deriving DecidableEq

namespace Boot

/-- One `if let Some(value)` of the overrides: a field is set and a note is made. -/
def override (boot : Boot) (field : ConfigField α) (value : Option α) (note : α → String) :
    Boot :=
  match value with
  | none => boot
  | some value => ⟨field.set value boot.config, boot.notes ++ [note value]⟩

/-- The variable that names another one which holds the password. -/
def resolvePassword (e : Environment) (boot : Boot) : Option String → Boot
  | none => boot
  | some var =>
      let named := { boot.config.mqtt with passwordEnv := some var }
      match e.resolvePasswordEnv named with
      | (true, mqtt) =>
          ⟨{ boot.config with mqtt }, boot.notes ++ ["mqtt.password (via $" ++ var ++ ")"]⟩
      | (false, mqtt) =>
          ⟨{ boot.config with mqtt },
            boot.notes ++ ["mqtt.password_env = " ++ var ++ " (env, unresolved)"]⟩

/-- The members of an object are inserted into the connection of the active protocol. -/
def mergeConnection (core : Core Disk) (boot : Boot) :
    Option (List (String × Json)) → Except String Boot
  | none => .ok boot
  | some object =>
      if boot.config.protocol = "" then
        .error ("REPUBLISHER_CONNECTION_JSON requires REPUBLISHER_PROTOCOL " ++
          "(or a configured protocol)")
      else
        .ok ⟨boot.config.setConnection core (object.foldl
            (fun connection member => connection.insert member.1 member.2)
            (boot.config.connection core)),
          boot.notes ++ ["connection (env JSON merge)"]⟩

/-- Points are merged into the configured ones. -/
def mergePoints (core : Core Disk) (boot : Boot) : Option (List PointConfig) → Boot
  | none => boot
  | some imported =>
      let merged := core.mergeImportedPoints boot.config.points imported
      ⟨{ boot.config with points := merged.points },
        boot.notes ++ ["points (env JSON merge: " ++ toString merged.added ++ " added, " ++
          toString merged.updated ++ " updated)"]⟩

end Boot

open Environment in
/-- `apply_env_overrides`. -/
def applyEnvOverrides (core : Core Disk) (e : Environment) (config : AppConfig) :
    Except String Boot := do
  let boot : Boot := ⟨config, []⟩
  let boot := boot.override ⟨(·.protocol), fun protocol c => { c with protocol }, fun _ => rfl⟩
    ((e.env "REPUBLISHER_PROTOCOL").map trim) fun protocol => "protocol = " ++ protocol ++ " (env)"
  let boot := boot.override (.mqtt (·.host) fun host m => { m with host })
    (e.env "REPUBLISHER_MQTT_HOST") fun _ => "mqtt.host (env)"
  let port ← e.envParse UInt16.size UInt16.ofNat "REPUBLISHER_MQTT_PORT"
  let boot := boot.override (.mqtt (·.port) fun port m => { m with port }) port
    fun _ => "mqtt.port (env)"
  let tls ← e.envBool "REPUBLISHER_MQTT_TLS"
  let boot := boot.override (.mqtt (·.useTls) fun useTls m => { m with useTls }) tls
    fun _ => "mqtt.use_tls (env)"
  let boot := boot.override (.mqtt (·.clientId) fun clientId m => { m with clientId })
    (e.env "REPUBLISHER_MQTT_CLIENT_ID") fun _ => "mqtt.client_id (env)"
  let boot := boot.override (.mqtt (·.topicPrefix) fun topicPrefix m => { m with topicPrefix })
    (e.env "REPUBLISHER_MQTT_TOPIC_PREFIX") fun _ => "mqtt.topic_prefix (env)"
  let boot := boot.override (.mqtt (·.healthTopic) fun healthTopic m => { m with healthTopic })
    (e.env "REPUBLISHER_MQTT_HEALTH_TOPIC") fun _ => "mqtt.health_topic (env)"
  let boot := boot.override (.mqtt (·.username) fun username m => { m with username })
    ((e.env "REPUBLISHER_MQTT_USERNAME").map some) fun _ => "mqtt.username (env)"
  let boot := boot.override (.mqtt (·.password) fun password m => { m with password })
    ((e.env "REPUBLISHER_MQTT_PASSWORD").map some) fun _ => "mqtt.password (env)"
  let boot := boot.resolvePassword e (e.env "REPUBLISHER_MQTT_PASSWORD_ENV")
  let boot := boot.override (.mqtt (·.caCertPath) fun caCertPath m => { m with caCertPath })
    ((e.env "REPUBLISHER_MQTT_CA_CERT").map some) fun _ => "mqtt.ca_cert_path (env)"
  let boot := boot.override
    (.mqtt (·.clientCertPath) fun clientCertPath m => { m with clientCertPath })
    ((e.env "REPUBLISHER_MQTT_CLIENT_CERT").map some) fun _ => "mqtt.client_cert_path (env)"
  let boot := boot.override
    (.mqtt (·.clientKeyPath) fun clientKeyPath m => { m with clientKeyPath })
    ((e.env "REPUBLISHER_MQTT_CLIENT_KEY").map some) fun _ => "mqtt.client_key_path (env)"
  let boot := boot.override
    (.mqtt (·.clientKeyPassphrase) fun clientKeyPassphrase m => { m with clientKeyPassphrase })
    ((e.env "REPUBLISHER_MQTT_CLIENT_KEY_PASSPHRASE").map some)
    fun _ => "mqtt.client_key_passphrase (env)"
  let retain ← e.envBool "REPUBLISHER_MQTT_RETAIN"
  let boot := boot.override (.mqtt (·.retain) fun retain m => { m with retain }) retain
    fun _ => "mqtt.retain (env)"
  let keepAlive ← e.envParse UInt64.size UInt64.ofNat "REPUBLISHER_MQTT_KEEP_ALIVE_SECS"
  let boot := boot.override
    (.mqtt (·.keepAliveSecs) fun keepAliveSecs m => { m with keepAliveSecs })
    (keepAlive.map (max 1)) fun _ => "mqtt.keep_alive_secs (env)"
  let format ← e.read "REPUBLISHER_MQTT_PAYLOAD_FORMAT" asPayloadFormat fun raw =>
    "REPUBLISHER_MQTT_PAYLOAD_FORMAT: expected 'scalar' or 'netix_envelope', got '" ++
      toAsciiLowercase (trim raw) ++ "'"
  let boot := boot.override
    (.mqtt (·.payloadFormat) fun payloadFormat m => { m with payloadFormat }) format
    fun _ => "mqtt.payload_format (env)"
  let boot := boot.override
    (.mqtt (·.deviceTopicPrefix) fun deviceTopicPrefix m => { m with deviceTopicPrefix })
    (e.env "REPUBLISHER_MQTT_DEVICE_TOPIC_PREFIX") fun _ => "mqtt.device_topic_prefix (env)"
  let autostart ← e.envBool "REPUBLISHER_AUTOSTART"
  let boot := boot.override (.mqtt (·.autostart) fun autostart m => { m with autostart })
    autostart fun autostart => "mqtt.autostart = " ++ toString autostart ++ " (env)"
  let discover ← e.envBool "REPUBLISHER_DISCOVER_ON_START"
  let boot := boot.override
    ⟨(·.discoverOnStart), fun discoverOnStart c => { c with discoverOnStart }, fun _ => rfl⟩
    discover fun discover => "discover_on_start = " ++ toString discover ++ " (env)"
  let object ← e.read "REPUBLISHER_CONNECTION_JSON" e.parseObject
    fun _ => "REPUBLISHER_CONNECTION_JSON is not a JSON object"
  let boot ← boot.mergeConnection core object
  let imported ← e.read "REPUBLISHER_POINTS_JSON" e.parsePoints
    fun _ => "REPUBLISHER_POINTS_JSON is not a PointConfig array"
  return boot.mergePoints core imported

end Republisher
