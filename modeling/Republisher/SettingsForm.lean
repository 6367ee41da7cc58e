import Republisher.Browser
import Republisher.Decimals

/-!
# The settings form

`renderSettings` fills a form from the configuration the browser was sent, the user changes
some of its controls, and `saveSettings` reads all of them into one request. The two secrets
are sent only when their inputs were touched.
-/

namespace Republisher

/-! ## Numbers in the browser -/

/-- White space and line ends of JavaScript. -/
def isJsSpace (c : Char) : Bool :=
  let n := c.toNat
  (9 ≤ n && n ≤ 13) || n == 32 || n == 160 || n == 5760 || (8192 ≤ n && n ≤ 8202) ||
    n == 8232 || n == 8233 || n == 8239 || n == 8287 || n == 12288 || n == 65279

/-- The number that the digits at the start of a text write, `none` when there are none. -/
def leadingNumber (cs : List Char) : Option ℕ :=
  let digits := cs.takeWhile Char.isDigit
  if digits.isEmpty then none else digitsValue 0 digits

/-- `parseInt(text, 10)`, `none` for `NaN`. -/
def parseInt (text : String) : Option ℤ :=
  match text.toList.dropWhile isJsSpace with
  | '-' :: cs => (leadingNumber cs).map fun n => -Int.ofNat n
  | '+' :: cs => (leadingNumber cs).map Int.ofNat
  | cs => (leadingNumber cs).map Int.ofNat

/-- `parseInt(text, 10) || otherwise`. -/
def parseIntOr (otherwise : ℤ) (text : String) : ℤ :=
  match parseInt text with
  | some 0 | none => otherwise
  | some z => z

/-! ## The controls -/

/-- The text inputs. -/
inductive SettingsInput
  | host
  | port
  | clientId
  | keepAlive
  | topicPrefix
  | deviceTopic
  | healthTopic
  | username
  | password
  | caCert
  | clientCert
  | clientKey
  | passphrase
  deriving DecidableEq

/-- The check boxes. -/
inductive SettingsCheck
  | tls
  | retain
  | remember
  | autostart
  | discoverOnStart
  deriving DecidableEq

/-- What the controls hold. -/
structure SettingsForm where
  value : SettingsInput → String
  checked : SettingsCheck → Bool
  payload : String
  theme : String
  /-- `dataset.dirty`, which only the inputs of the two secrets set. -/
  dirty : SettingsInput → Bool

/-- The name a payload format is sent by. -/
def PayloadFormat.name : PayloadFormat → String
  | .scalar => "scalar"
  | .netixEnvelope => "netix_envelope"

/-- The name a theme is sent by. -/
def UiTheme.name : UiTheme → String
  | .auto => "auto"
  | .light => "light"
  | .dark => "dark"

/-- The payload format of a name. -/
def PayloadFormat.named? : String → Option PayloadFormat
  | "scalar" => some .scalar
  | "netix_envelope" => some .netixEnvelope
  | _ => none

/-- The theme of a name. -/
def UiTheme.named? : String → Option UiTheme
  | "auto" => some .auto
  | "light" => some .light
  | "dark" => some .dark
  | _ => none

/-- What a `select` holds: the option that was selected, or else its first. -/
def selectValue (first : String) (options : List String) (current : String) : String :=
  if current ∈ first :: options then current else first

/-- `renderSettings`. -/
def renderSettings (stringify : Json → String) (config : AppConfig) : SettingsForm where
  value
    | .host => config.mqtt.host
    | .port => stringify (.number (.posInt config.mqtt.port.toUInt64))
    | .clientId => config.mqtt.clientId
    | .keepAlive => stringify (.number (.posInt config.mqtt.keepAliveSecs))
    | .topicPrefix => config.mqtt.topicPrefix
    | .deviceTopic => config.mqtt.deviceTopicPrefix
    | .healthTopic => config.mqtt.healthTopic
    | .username => config.mqtt.username.getD ""
    | .password => ""
    | .caCert => config.mqtt.caCertPath.getD ""
    | .clientCert => config.mqtt.clientCertPath.getD ""
    | .clientKey => config.mqtt.clientKeyPath.getD ""
    | .passphrase => ""
  checked
    | .tls => config.mqtt.useTls
    | .retain => config.mqtt.retain
    | .remember => config.mqtt.rememberSecrets
    | .autostart => config.mqtt.autostart
    | .discoverOnStart => config.discoverOnStart
  payload := selectValue "scalar" ["netix_envelope"] config.mqtt.payloadFormat.name
  theme := selectValue "auto" ["light", "dark"] config.ui.theme.name
  dirty _ := false

/-- One change the user makes. -/
inductive SettingsEdit
  | input (field : SettingsInput) (text : String)
  | clearPassword
  | check (box : SettingsCheck) (checked : Bool)
  | payload (format : PayloadFormat)
  | theme (theme : UiTheme)

/-- The form after a change. -/
def SettingsForm.edit (form : SettingsForm) : SettingsEdit → SettingsForm
  | .input field text =>
      { form with
        value := Function.update form.value field text
        dirty :=
          if field = .password ∨ field = .passphrase then Function.update form.dirty field true
          else form.dirty }
  | .clearPassword =>
      { form with
        value := Function.update form.value .password ""
        dirty := Function.update form.dirty .password true }
  | .check box checked => { form with checked := Function.update form.checked box checked }
  | .payload format => { form with payload := format.name }
  | .theme theme => { form with theme := theme.name }

/-! ## The request -/

/-- The body `saveSettings` sends. The numbers are those of the browser. -/
structure SettingsBody where
  host : String
  port : ℤ
  useTls : Bool
  clientId : String
  topicPrefix : String
  healthTopic : String
  username : String
  password : Option String
  caCertPath : String
  clientCertPath : String
  clientKeyPath : String
  clientKeyPassphrase : Option String
  rememberSecrets : Bool
  retain : Bool
  keepAliveSecs : ℤ
  payloadFormat : String
  deviceTopicPrefix : String
  autostart : Bool
  discoverOnStart : Bool
  theme : String

/-- `saveSettings`, up to the request. -/
def saveSettings (form : SettingsForm) : SettingsBody :=
  { host := form.value .host
    port := parseIntOr 0 (form.value .port)
    useTls := form.checked .tls
    clientId := form.value .clientId
    topicPrefix := form.value .topicPrefix
    healthTopic := form.value .healthTopic
    username := form.value .username
    password := if form.dirty .password then some (form.value .password) else none
    caCertPath := form.value .caCert
    clientCertPath := form.value .clientCert
    clientKeyPath := form.value .clientKey
    clientKeyPassphrase := if form.dirty .passphrase then some (form.value .passphrase) else none
    rememberSecrets := form.checked .remember
    retain := form.checked .retain
    keepAliveSecs := max 1 (parseIntOr 30 (form.value .keepAlive))
    payloadFormat := form.payload
    deviceTopicPrefix := form.value .deviceTopic
    autostart := form.checked .autostart
    discoverOnStart := form.checked .discoverOnStart
    theme := form.theme }

/-- The unsigned number below a bound that the server reads, if it is one. -/
def unsignedBelow (bound : ℕ) : Option ℤ → Option ℕ
  | some (.ofNat n) => if n < bound then some n else none
  | _ => none

/-- The request of a body, once its numbers, its payload format and its theme are read. -/
def SettingsBody.request (body : SettingsBody) (port keepAliveSecs : ℕ)
    (payloadFormat : PayloadFormat) (theme : UiTheme) : SettingsReq :=
  { mqtt :=
      { host := body.host
        port := UInt16.ofNat port
        useTls := body.useTls
        clientId := body.clientId
        topicPrefix := body.topicPrefix
        healthTopic := body.healthTopic
        username := some body.username
        password := body.password
        caCertPath := some body.caCertPath
        clientCertPath := some body.clientCertPath
        clientKeyPath := some body.clientKeyPath
        clientKeyPassphrase := body.clientKeyPassphrase
        rememberSecrets := body.rememberSecrets
        retain := body.retain
        keepAliveSecs := UInt64.ofNat keepAliveSecs
        payloadFormat
        deviceTopicPrefix := body.deviceTopicPrefix
        autostart := body.autostart }
    theme := some theme
    discoverOnStart := some body.discoverOnStart }

/-- The request the server reads from a body, `none` when it rejects the body. `wire` is the
integer that arrives when the browser sends a number, if one arrives. -/
def SettingsBody.decode (wire : ℤ → Option ℤ) (body : SettingsBody) : Option SettingsReq := do
  let port ← unsignedBelow UInt16.size (wire body.port)
  let keepAliveSecs ← unsignedBelow UInt64.size (wire body.keepAliveSecs)
  let payloadFormat ← PayloadFormat.named? body.payloadFormat
  let theme ← UiTheme.named? body.theme
  return body.request port keepAliveSecs payloadFormat theme

end Republisher
