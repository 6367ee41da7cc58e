import Republisher.Identities
import Republisher.Environment
import Republisher.Fields

/-!
# What the environment overrides

The overrides succeed when every variable that is set can be parsed, and then they amount to
one update of the configuration. From this update follow which fields a variable decides, what
stays as it was, and that a second application changes nothing.
-/

namespace Republisher

variable {Disk α : Type}

namespace Environment

/-- The variable can be parsed if it is set. -/
def Parsed (e : Environment) (key : String) (parse : String → Option α) : Prop :=
  ∀ raw, e.env key = some raw → (parse raw).isSome = true

/-- A field that is `before` without the variable has the value parsed from it. -/
def Sets (e : Environment) (key : String) (parse : String → Option α) (before after : α) : Prop :=
  match e.env key with
  | none => after = before
  | some raw => parse raw = some after

/-- A read succeeds exactly with what the variable says, if it can be parsed. -/
theorem read_eq_ok {e : Environment} {key : String} {parse : String → Option α}
    {error : String → String} {value : Option α} :
    e.read key parse error = .ok value ↔ e.Parsed key parse ∧ value = e.given key parse := by
  unfold read Parsed given
  cases e.env key with
  | none => exact ⟨fun h => ⟨by simp, (Except.ok.inj h).symm⟩, fun h => congrArg _ h.2.symm⟩
  | some raw =>
    cases hparse : parse raw with
    | none =>
      refine ⟨fun h => by simp [hparse] at h, fun h => ?_⟩
      have hsome := h.1 raw rfl
      rw [hparse] at hsome
      cases hsome
    | some parsed =>
      simp only [hparse, Option.bind_some]
      refine ⟨fun h => ⟨?_, (Except.ok.inj h).symm⟩, fun h => congrArg _ h.2.symm⟩
      intro raw' hraw
      obtain rfl := Option.some.inj hraw
      rw [hparse]
      rfl

/-- A variable that can be parsed is read. -/
theorem Parsed.read {e : Environment} {key : String} {parse : String → Option α}
    (h : e.Parsed key parse) (error : String → String) :
    e.read key parse error = .ok (e.given key parse) :=
  read_eq_ok.mpr ⟨h, rfl⟩

/-- A field keeps what it has or gets what the variable says. -/
theorem Parsed.sets {e : Environment} {key : String} {parse : String → Option α}
    (h : e.Parsed key parse) (before : α) :
    e.Sets key parse before ((e.given key parse).getD before) := by
  unfold Sets given
  cases hraw : e.env key with
  | none => rfl
  | some raw =>
    obtain ⟨value, hvalue⟩ := Option.isSome_iff_exists.mp (h raw hraw)
    simp [hvalue]

/-- A text that is taken as it is, or only trimmed, is never refused. -/
theorem parsed_some (e : Environment) (key : String) (f : String → α) :
    e.Parsed key (fun raw => some (f raw)) :=
  fun _ _ => rfl

/-- Every variable that is set can be parsed. -/
structure Readable (e : Environment) : Prop where
  port : e.Parsed "REPUBLISHER_MQTT_PORT" (asUnsigned UInt16.size UInt16.ofNat)
  useTls : e.Parsed "REPUBLISHER_MQTT_TLS" asBool
  retain : e.Parsed "REPUBLISHER_MQTT_RETAIN" asBool
  keepAliveSecs : e.Parsed "REPUBLISHER_MQTT_KEEP_ALIVE_SECS"
    (asUnsigned UInt64.size UInt64.ofNat)
  payloadFormat : e.Parsed "REPUBLISHER_MQTT_PAYLOAD_FORMAT" asPayloadFormat
  autostart : e.Parsed "REPUBLISHER_AUTOSTART" asBool
  discoverOnStart : e.Parsed "REPUBLISHER_DISCOVER_ON_START" asBool
  connection : e.Parsed "REPUBLISHER_CONNECTION_JSON" e.parseObject
  points : e.Parsed "REPUBLISHER_POINTS_JSON" e.parsePoints

/-- The environment is readable, and there is a protocol if there are members for its
connection. -/
structure Accepted (e : Environment) (config : AppConfig) : Prop extends e.Readable where
  protocol : (e.given "REPUBLISHER_CONNECTION_JSON" e.parseObject).isSome = true →
    (e.given "REPUBLISHER_PROTOCOL" asTrimmed).getD config.protocol ≠ ""

/-- What is known of `resolve_password_env`: it writes the password that the named variable
holds, and nothing else. -/
def ResolvesFrom (e : Environment) (secret : String → Option String) : Prop :=
  ∀ mqtt : MqttConfig, e.resolvePasswordEnv mqtt =
    match mqtt.passwordEnv.bind secret with
    | some password => (true, { mqtt with password := some password })
    | none => (false, mqtt)

/-- The password that is in the environment, directly or in the named variable. -/
def password (e : Environment) (secret : String → Option String) : Option String :=
  ((e.env "REPUBLISHER_MQTT_PASSWORD_ENV").bind secret).or (e.env "REPUBLISHER_MQTT_PASSWORD")

/-- The connection with the members of the object. -/
def withMembers (object : List (String × Json)) (connection : Addressing) : Addressing :=
  object.foldl (fun connection member => connection.insert member.1 member.2) connection

/-- The stored connections with an object merged into that of the active protocol. -/
def mergedConnections (core : Core Disk) (object : Option (List (String × Json)))
    (protocol : String) (before : StringMap Addressing) : StringMap Addressing :=
  match object with
  | none => before
  | some object =>
      core.setConnection protocol before (withMembers object (core.connection protocol before))

/-- The configured points with others merged into them. -/
def mergedPoints (core : Core Disk) (imported : Option (List PointConfig))
    (before : List PointConfig) : List PointConfig :=
  match imported with
  | none => before
  | some imported => (core.mergeImportedPoints before imported).points

/-- The overrides as one update. -/
def overridden (core : Core Disk) (e : Environment) (secret : String → Option String)
    (config : AppConfig) : AppConfig :=
  let protocol := (e.given "REPUBLISHER_PROTOCOL" asTrimmed).getD config.protocol
  let mqtt := config.mqtt
  { protocol
    connections := mergedConnections core
      (e.given "REPUBLISHER_CONNECTION_JSON" e.parseObject) protocol config.connections
    mqtt :=
      { host := (e.given "REPUBLISHER_MQTT_HOST" asText).getD mqtt.host
        port := (e.given "REPUBLISHER_MQTT_PORT"
          (asUnsigned UInt16.size UInt16.ofNat)).getD mqtt.port
        useTls := (e.given "REPUBLISHER_MQTT_TLS" asBool).getD mqtt.useTls
        clientId := (e.given "REPUBLISHER_MQTT_CLIENT_ID" asText).getD mqtt.clientId
        topicPrefix := (e.given "REPUBLISHER_MQTT_TOPIC_PREFIX" asText).getD mqtt.topicPrefix
        healthTopic := (e.given "REPUBLISHER_MQTT_HEALTH_TOPIC" asText).getD mqtt.healthTopic
        username := (e.given "REPUBLISHER_MQTT_USERNAME" asPresent).getD mqtt.username
        password := ((e.password secret).map some).getD mqtt.password
        passwordEnv := (e.given "REPUBLISHER_MQTT_PASSWORD_ENV" asPresent).getD mqtt.passwordEnv
        caCertPath := (e.given "REPUBLISHER_MQTT_CA_CERT" asPresent).getD mqtt.caCertPath
        clientCertPath :=
          (e.given "REPUBLISHER_MQTT_CLIENT_CERT" asPresent).getD mqtt.clientCertPath
        clientKeyPath :=
          (e.given "REPUBLISHER_MQTT_CLIENT_KEY" asPresent).getD mqtt.clientKeyPath
        clientKeyPassphrase := (e.given "REPUBLISHER_MQTT_CLIENT_KEY_PASSPHRASE"
          asPresent).getD mqtt.clientKeyPassphrase
        rememberSecrets := mqtt.rememberSecrets
        retain := (e.given "REPUBLISHER_MQTT_RETAIN" asBool).getD mqtt.retain
        keepAliveSecs :=
          (e.given "REPUBLISHER_MQTT_KEEP_ALIVE_SECS" asKeepAlive).getD mqtt.keepAliveSecs
        payloadFormat :=
          (e.given "REPUBLISHER_MQTT_PAYLOAD_FORMAT" asPayloadFormat).getD mqtt.payloadFormat
        deviceTopicPrefix :=
          (e.given "REPUBLISHER_MQTT_DEVICE_TOPIC_PREFIX" asText).getD mqtt.deviceTopicPrefix
        autostart := (e.given "REPUBLISHER_AUTOSTART" asBool).getD mqtt.autostart }
    points := mergedPoints core (e.given "REPUBLISHER_POINTS_JSON" e.parsePoints) config.points
    discoverOnStart :=
      (e.given "REPUBLISHER_DISCOVER_ON_START" asBool).getD config.discoverOnStart
    ui := config.ui }

end Environment

/-! ## The overrides are one update -/

namespace Environment

/-- Such a text is given by any variable that is set. -/
theorem given_some (e : Environment) (key : String) (f : String → α) :
    e.given key (fun raw => some (f raw)) = (e.env key).map f := by
  unfold given
  cases e.env key <;> rfl

/-- A text that is kept as it is. -/
theorem given_asText (e : Environment) (key : String) : e.given key asText = e.env key :=
  (e.given_some key id).trans (Option.map_id_apply ..)

/-- A text for a field that may be absent. -/
theorem given_asPresent (e : Environment) (key : String) :
    e.given key asPresent = (e.env key).map some :=
  e.given_some key some

/-- A text that is trimmed. -/
theorem given_asTrimmed (e : Environment) (key : String) :
    e.given key asTrimmed = (e.env key).map trim :=
  e.given_some key trim

/-- The keep-alive time is the integer given, or one second. -/
theorem given_asKeepAlive (e : Environment) (key : String) : e.given key asKeepAlive =
    (e.given key (asUnsigned UInt64.size UInt64.ofNat)).map (max 1) := by
  unfold given asKeepAlive
  cases e.env key <;> rfl

/-- The named variable goes before the direct password. -/
theorem password_getD (e : Environment) (secret : String → Option String)
    (before : Option String) : ((e.password secret).map some).getD before =
      ((((e.env "REPUBLISHER_MQTT_PASSWORD_ENV").bind secret).map some).getD
        (((e.env "REPUBLISHER_MQTT_PASSWORD").map some).getD before)) := by
  unfold password
  cases (e.env "REPUBLISHER_MQTT_PASSWORD_ENV").bind secret <;> rfl

end Environment

/-- One override writes the field, with the value it has where nothing is given. -/
theorem Boot.override_config (boot : Boot) (field : ConfigField α) (value : Option α)
    (note : α → String) :
    (boot.override field value note).config =
      field.set (value.getD (field.get boot.config)) boot.config := by
  cases value with
  | none => exact (field.set_get boot.config).symm
  | some value => rfl

/-- The named variable, and then the password if that variable holds one. -/
theorem Boot.resolvePassword_config {e : Environment} {secret : String → Option String}
    (h : e.ResolvesFrom secret) (boot : Boot) (named : Option String) :
    (boot.resolvePassword e named).config =
      { boot.config with mqtt := { boot.config.mqtt with
        password := ((named.bind secret).map some).getD boot.config.mqtt.password
        passwordEnv := (named.map some).getD boot.config.mqtt.passwordEnv } } := by
  cases named with
  | none => rfl
  | some var =>
    have hresolved := h { boot.config.mqtt with passwordEnv := some var }
    cases hsecret : secret var with
    | none =>
      rw [Option.bind_some, hsecret] at hresolved
      simp only [resolvePassword, hresolved, Option.bind_some, hsecret]
      rfl
    | some password =>
      rw [Option.bind_some, hsecret] at hresolved
      simp only [resolvePassword, hresolved, Option.bind_some, hsecret]
      rfl

/-- A computation that may fail succeeds exactly when its parts do. -/
theorem Except.bind_eq_ok {ε β : Type} {x : Except ε α} {f : α → Except ε β} {b : β} :
    x >>= f = .ok b ↔ ∃ a, x = .ok a ∧ f a = .ok b := by
  cases x with
  | error error => simp [bind, Except.bind]
  | ok a => simp [bind, Except.bind]

/-- The two merges at the end, from a configuration that has a protocol if it needs one. -/
theorem Boot.merged_ok {core : Core Disk} {boot : Boot} {object : Option (List (String × Json))}
    {imported : Option (List PointConfig)} (config : AppConfig) (hboot : boot.config = config)
    (h : object.isSome = true → config.protocol ≠ "") :
    ∃ notes, (do
        let merged ← boot.mergeConnection core object
        return merged.mergePoints core imported : Except String Boot) =
      .ok ⟨{ config with
        connections :=
          Environment.mergedConnections core object config.protocol config.connections
        points := Environment.mergedPoints core imported config.points }, notes⟩ := by
  subst hboot
  have hpoints (merged : Boot) : ∃ notes, merged.mergePoints core imported =
      ⟨{ merged.config with
        points := Environment.mergedPoints core imported merged.config.points }, notes⟩ := by
    cases imported with
    | none => exact ⟨_, rfl⟩
    | some imported => exact ⟨_, rfl⟩
  cases object with
  | none =>
    obtain ⟨notes, hnotes⟩ := hpoints boot
    exact ⟨notes, congrArg Except.ok hnotes⟩
  | some object =>
    rw [mergeConnection, if_neg (h rfl)]
    obtain ⟨notes, hnotes⟩ := hpoints ⟨boot.config.setConnection core (Environment.withMembers
      object (boot.config.connection core)), boot.notes ++ ["connection (env JSON merge)"]⟩
    exact ⟨notes, congrArg Except.ok hnotes⟩

namespace Environment

/-- The overrides of a readable environment come down to the two merges. -/
theorem Readable.applied {e : Environment} {secret : String → Option String}
    (hresolve : e.ResolvesFrom secret) (h : e.Readable) (core : Core Disk) (config : AppConfig) :
    ∃ boot : Boot,
      boot.config = { e.overridden core secret config with
        connections := config.connections
        points := config.points } ∧
      applyEnvOverrides core e config = do
        let merged ← boot.mergeConnection core
          (e.given "REPUBLISHER_CONNECTION_JSON" e.parseObject)
        return merged.mergePoints core (e.given "REPUBLISHER_POINTS_JSON" e.parsePoints) := by
  unfold applyEnvOverrides envParse envBool
  simp only [h.port.read, h.useTls.read, h.retain.read, h.keepAliveSecs.read,
    h.payloadFormat.read, h.autostart.read, h.discoverOnStart.read, h.connection.read,
    h.points.read]
  refine ⟨_, ?_, rfl⟩
  simp only [Boot.override_config, Boot.resolvePassword_config hresolve, overridden,
    given_asText, given_asPresent, given_asTrimmed, given_asKeepAlive, password_getD]
  rfl

/-- What succeeds was readable. -/
theorem readable_of_ok {core : Core Disk} {e : Environment} {config : AppConfig} {boot : Boot}
    (h : applyEnvOverrides core e config = .ok boot) : e.Readable := by
  unfold applyEnvOverrides envParse envBool at h
  simp only [Except.bind_eq_ok, read_eq_ok] at h
  obtain ⟨_, ⟨hport, -⟩, _, ⟨htls, -⟩, _, ⟨hretain, -⟩, _, ⟨halive, -⟩, _, ⟨hformat, -⟩, _,
    ⟨hautostart, -⟩, _, ⟨hdiscover, -⟩, _, ⟨hobject, -⟩, _, -, _, ⟨hpoints, -⟩, -⟩ := h
  exact ⟨hport, htls, hretain, halive, hformat, hautostart, hdiscover, hobject, hpoints⟩

/-- Overrides that are accepted amount to the update. -/
theorem Accepted.applied {e : Environment} {secret : String → Option String}
    (hresolve : e.ResolvesFrom secret) {config : AppConfig} (h : e.Accepted config)
    (core : Core Disk) :
    ∃ notes, applyEnvOverrides core e config = .ok ⟨e.overridden core secret config, notes⟩ := by
  obtain ⟨boot, hboot, happlied⟩ := h.toReadable.applied hresolve core config
  rw [happlied]
  exact Boot.merged_ok _ hboot h.protocol

/-- Overrides that succeed are accepted. -/
theorem accepted_of_ok {core : Core Disk} {e : Environment} {secret : String → Option String}
    (hresolve : e.ResolvesFrom secret) {config : AppConfig} {boot : Boot}
    (h : applyEnvOverrides core e config = .ok boot) : e.Accepted config := by
  have hreadable := readable_of_ok h
  refine ⟨hreadable, fun hobject hempty => ?_⟩
  obtain ⟨before, hbefore, happlied⟩ := hreadable.applied hresolve core config
  obtain ⟨object, hobject⟩ := Option.isSome_iff_exists.mp hobject
  rw [happlied, hobject] at h
  obtain ⟨merged, hmerged, -⟩ := Except.bind_eq_ok.mp h
  have hprotocol : before.config.protocol = "" := by
    rw [hbefore]
    exact hempty
  rw [Boot.mergeConnection, if_pos hprotocol] at hmerged
  cases hmerged

end Environment

/-! ## Once and again -/

/-- What the daemon is promised of `connection_mut` besides: it keeps nothing of a connection
that is replaced. -/
structure OverwritesConnection (core : Core Disk) : Prop extends LawfulConnection core where
  setConnection_again : ∀ (p : String) (connections : StringMap Addressing)
    (first second : Addressing),
    core.setConnection p (core.setConnection p connections first) second =
      core.setConnection p connections second

/-- The merge keeps every point that is not imported as it is, and adds only imported ones. -/
def Core.MergeKeepsUnfound (core : Core Disk) : Prop :=
  ∀ existing findings point, core.Lacks findings point →
    (point ∈ (core.mergeImportedPoints existing findings).points ↔ point ∈ existing)

/-- What is known of merging the same points twice: the second time changes nothing. -/
def Core.MergeSettles (core : Core Disk) : Prop :=
  ∀ existing imported,
    (core.mergeImportedPoints (core.mergeImportedPoints existing imported).points imported).points =
      (core.mergeImportedPoints existing imported).points

/-- What a variable gives, it gives again. -/
theorem getD_again (given : Option α) (before : α) :
    given.getD (given.getD before) = given.getD before := by
  cases given <;> rfl

namespace Environment

/-- The value that an object has for a key; the last member with the key counts. -/
def memberOf (object : List (String × Json)) (key : String) : Option Json :=
  (object.reverse.find? fun member => member.1 == key).map Prod.snd

/-- The members of the object go before those of the connection. -/
theorem withMembers_get? (object : List (String × Json)) (connection : Addressing)
    (key : String) :
    (withMembers object connection).get? key =
      (memberOf object key).or (connection.get? key) :=
  foldl_insert_get? object Prod.fst Prod.snd connection key

/-- Inserting the same members again changes nothing. -/
theorem withMembers_again (object : List (String × Json)) (connection : Addressing) :
    withMembers object (withMembers object connection) = withMembers object connection := by
  refine Std.ExtTreeMap.ext_getElem? fun key => ?_
  simp only [← Std.ExtTreeMap.get?_eq_getElem?, withMembers_get?]
  cases memberOf object key <;> rfl

/-- Merging the same object into the same connection again changes nothing. -/
theorem mergedConnections_again {core : Core Disk} (h : OverwritesConnection core)
    (object : Option (List (String × Json))) (protocol : String)
    (before : StringMap Addressing) :
    mergedConnections core object protocol (mergedConnections core object protocol before) =
      mergedConnections core object protocol before := by
  cases object with
  | none => rfl
  | some object =>
    simp only [mergedConnections]
    rw [h.connection_setConnection, if_pos rfl, withMembers_again, h.setConnection_again]

/-- Merging the same points again changes nothing. -/
theorem mergedPoints_again {core : Core Disk} (h : core.MergeSettles)
    (imported : Option (List PointConfig)) (before : List PointConfig) :
    mergedPoints core imported (mergedPoints core imported before) =
      mergedPoints core imported before := by
  cases imported with
  | none => rfl
  | some imported => exact h before imported

/-- The update changes nothing the second time. -/
theorem overridden_again {core : Core Disk} (hconnection : OverwritesConnection core)
    (hmerge : core.MergeSettles) (e : Environment) (secret : String → Option String)
    (config : AppConfig) :
    e.overridden core secret (e.overridden core secret config) =
      e.overridden core secret config := by
  simp only [overridden, getD_again, mergedConnections_again hconnection,
    mergedPoints_again hmerge]

/-- What is accepted is accepted again. -/
theorem Accepted.again {e : Environment} {config : AppConfig} (h : e.Accepted config)
    (core : Core Disk) (secret : String → Option String) :
    e.Accepted (e.overridden core secret config) := by
  refine ⟨h.toReadable, fun hobject => ?_⟩
  simp only [overridden, getD_again]
  exact h.protocol hobject

/-! ## What is decided and what is kept -/

/-- A variable decides its own field, and what no variable names is as before. -/
structure Decides (core : Core Disk) (e : Environment) (secret : String → Option String)
    (before after : AppConfig) : Prop where
  protocol : e.Sets "REPUBLISHER_PROTOCOL" asTrimmed before.protocol after.protocol
  host : e.Sets "REPUBLISHER_MQTT_HOST" asText before.mqtt.host after.mqtt.host
  port : e.Sets "REPUBLISHER_MQTT_PORT" (asUnsigned UInt16.size UInt16.ofNat)
    before.mqtt.port after.mqtt.port
  useTls : e.Sets "REPUBLISHER_MQTT_TLS" asBool before.mqtt.useTls after.mqtt.useTls
  clientId : e.Sets "REPUBLISHER_MQTT_CLIENT_ID" asText before.mqtt.clientId after.mqtt.clientId
  topicPrefix : e.Sets "REPUBLISHER_MQTT_TOPIC_PREFIX" asText
    before.mqtt.topicPrefix after.mqtt.topicPrefix
  healthTopic : e.Sets "REPUBLISHER_MQTT_HEALTH_TOPIC" asText
    before.mqtt.healthTopic after.mqtt.healthTopic
  username : e.Sets "REPUBLISHER_MQTT_USERNAME" asPresent
    before.mqtt.username after.mqtt.username
  /-- The named variable counts if it holds a password, and the direct one otherwise. -/
  password : match (e.env "REPUBLISHER_MQTT_PASSWORD_ENV").bind secret with
    | some password => after.mqtt.password = some password
    | none => e.Sets "REPUBLISHER_MQTT_PASSWORD" asPresent
        before.mqtt.password after.mqtt.password
  passwordEnv : e.Sets "REPUBLISHER_MQTT_PASSWORD_ENV" asPresent
    before.mqtt.passwordEnv after.mqtt.passwordEnv
  caCertPath : e.Sets "REPUBLISHER_MQTT_CA_CERT" asPresent
    before.mqtt.caCertPath after.mqtt.caCertPath
  clientCertPath : e.Sets "REPUBLISHER_MQTT_CLIENT_CERT" asPresent
    before.mqtt.clientCertPath after.mqtt.clientCertPath
  clientKeyPath : e.Sets "REPUBLISHER_MQTT_CLIENT_KEY" asPresent
    before.mqtt.clientKeyPath after.mqtt.clientKeyPath
  clientKeyPassphrase : e.Sets "REPUBLISHER_MQTT_CLIENT_KEY_PASSPHRASE" asPresent
    before.mqtt.clientKeyPassphrase after.mqtt.clientKeyPassphrase
  rememberSecrets : after.mqtt.rememberSecrets = before.mqtt.rememberSecrets
  retain : e.Sets "REPUBLISHER_MQTT_RETAIN" asBool before.mqtt.retain after.mqtt.retain
  keepAliveSecs : e.Sets "REPUBLISHER_MQTT_KEEP_ALIVE_SECS" asKeepAlive
    before.mqtt.keepAliveSecs after.mqtt.keepAliveSecs
  payloadFormat : e.Sets "REPUBLISHER_MQTT_PAYLOAD_FORMAT" asPayloadFormat
    before.mqtt.payloadFormat after.mqtt.payloadFormat
  deviceTopicPrefix : e.Sets "REPUBLISHER_MQTT_DEVICE_TOPIC_PREFIX" asText
    before.mqtt.deviceTopicPrefix after.mqtt.deviceTopicPrefix
  autostart : e.Sets "REPUBLISHER_AUTOSTART" asBool before.mqtt.autostart after.mqtt.autostart
  discoverOnStart : e.Sets "REPUBLISHER_DISCOVER_ON_START" asBool
    before.discoverOnStart after.discoverOnStart
  ui : after.ui = before.ui
  /-- The keys that the object does not have are as before, for the protocol that is active
  afterwards; so are the connections of the others. -/
  connections : match e.env "REPUBLISHER_CONNECTION_JSON" with
    | none => after.connections = before.connections
    | some raw => ∃ object, e.parseObject raw = some object ∧
        (∀ key, (after.connection core).get? key = (memberOf object key).or
          ((core.connection after.protocol before.connections).get? key)) ∧
        ∀ protocol ≠ after.protocol,
          core.connection protocol after.connections =
            core.connection protocol before.connections
  /-- Points with an identity that is not imported are as before. -/
  points : match e.env "REPUBLISHER_POINTS_JSON" with
    | none => after.points = before.points
    | some raw => ∃ imported, e.parsePoints raw = some imported ∧
        ∀ point, core.Lacks imported point → (point ∈ after.points ↔ point ∈ before.points)

/-- The password is decided by two variables. -/
theorem password_sets (e : Environment) (secret : String → Option String)
    (before : Option String) :
    match (e.env "REPUBLISHER_MQTT_PASSWORD_ENV").bind secret with
    | some password => ((e.password secret).map some).getD before = some password
    | none => e.Sets "REPUBLISHER_MQTT_PASSWORD" asPresent before
        (((e.password secret).map some).getD before) := by
  rw [password_getD]
  cases (e.env "REPUBLISHER_MQTT_PASSWORD_ENV").bind secret with
  | some password => rfl
  | none =>
    have h := (e.parsed_some "REPUBLISHER_MQTT_PASSWORD" some).sets before
    rw [given_some] at h
    exact h

/-- The clamped integer can be parsed when the integer can. -/
theorem Readable.keepAlive {e : Environment} (h : e.Readable) :
    e.Parsed "REPUBLISHER_MQTT_KEEP_ALIVE_SECS" asKeepAlive := by
  intro raw hraw
  rw [asKeepAlive, Option.isSome_map]
  exact h.keepAliveSecs raw hraw

/-- Keys and connections that the object does not name stay. -/
theorem Readable.keepsConnections {core : Core Disk} {e : Environment} (h : e.Readable)
    (hconnection : LawfulConnection core) (protocol : String) (before : StringMap Addressing) :
    match e.env "REPUBLISHER_CONNECTION_JSON" with
    | none => mergedConnections core (e.given "REPUBLISHER_CONNECTION_JSON" e.parseObject)
        protocol before = before
    | some raw => ∃ object, e.parseObject raw = some object ∧
        (∀ key, (core.connection protocol (mergedConnections core
            (e.given "REPUBLISHER_CONNECTION_JSON" e.parseObject) protocol before)).get? key =
          (memberOf object key).or ((core.connection protocol before).get? key)) ∧
        ∀ other ≠ protocol,
          core.connection other (mergedConnections core
            (e.given "REPUBLISHER_CONNECTION_JSON" e.parseObject) protocol before) =
            core.connection other before := by
  unfold given
  cases hraw : e.env "REPUBLISHER_CONNECTION_JSON" with
  | none => rfl
  | some raw =>
    obtain ⟨object, hobject⟩ := Option.isSome_iff_exists.mp (h.connection raw hraw)
    refine ⟨object, hobject, ?_⟩
    simp only [Option.bind_some, hobject, mergedConnections]
    refine ⟨fun key => ?_, fun other hother => ?_⟩
    · rw [hconnection.connection_setConnection, if_pos rfl, withMembers_get?]
    · rw [hconnection.connection_setConnection, if_neg hother]

/-- Points that are not imported stay. -/
theorem Readable.keepsPoints {core : Core Disk} {e : Environment} (h : e.Readable)
    (hmerge : core.MergeKeepsUnfound) (before : List PointConfig) :
    match e.env "REPUBLISHER_POINTS_JSON" with
    | none => mergedPoints core (e.given "REPUBLISHER_POINTS_JSON" e.parsePoints) before = before
    | some raw => ∃ imported, e.parsePoints raw = some imported ∧
        ∀ point, core.Lacks imported point →
          (point ∈ mergedPoints core (e.given "REPUBLISHER_POINTS_JSON" e.parsePoints) before ↔
            point ∈ before) := by
  unfold given
  cases hraw : e.env "REPUBLISHER_POINTS_JSON" with
  | none => rfl
  | some raw =>
    obtain ⟨imported, himported⟩ := Option.isSome_iff_exists.mp (h.points raw hraw)
    refine ⟨imported, himported, fun point hlacks => ?_⟩
    simp only [Option.bind_some, himported, mergedPoints]
    exact hmerge before imported point hlacks

/-- The update is decided by the variables. -/
theorem Readable.decides {core : Core Disk} {e : Environment} (h : e.Readable)
    (hconnection : LawfulConnection core) (hmerge : core.MergeKeepsUnfound)
    (secret : String → Option String) (config : AppConfig) :
    e.Decides core secret config (e.overridden core secret config) where
  protocol := (e.parsed_some _ trim).sets _
  host := (e.parsed_some _ id).sets _
  port := h.port.sets _
  useTls := h.useTls.sets _
  clientId := (e.parsed_some _ id).sets _
  topicPrefix := (e.parsed_some _ id).sets _
  healthTopic := (e.parsed_some _ id).sets _
  username := (e.parsed_some _ some).sets _
  password := e.password_sets secret _
  passwordEnv := (e.parsed_some _ some).sets _
  caCertPath := (e.parsed_some _ some).sets _
  clientCertPath := (e.parsed_some _ some).sets _
  clientKeyPath := (e.parsed_some _ some).sets _
  clientKeyPassphrase := (e.parsed_some _ some).sets _
  rememberSecrets := rfl
  retain := h.retain.sets _
  keepAliveSecs := h.keepAlive.sets _
  payloadFormat := h.payloadFormat.sets _
  deviceTopicPrefix := (e.parsed_some _ id).sets _
  autostart := h.autostart.sets _
  discoverOnStart := h.discoverOnStart.sets _
  ui := rfl
  connections := h.keepsConnections hconnection _ _
  points := h.keepsPoints hmerge _

end Environment

/-- Overrides that succeed change nothing when they are applied again, set every field whose
variable is set, and keep what no variable names. -/
theorem applyEnvOverrides_again {core : Core Disk} {e : Environment}
    {secret : String → Option String} (hresolve : e.ResolvesFrom secret)
    (hconnection : OverwritesConnection core) (hkeeps : core.MergeKeepsUnfound)
    (hsettles : core.MergeSettles) {config : AppConfig} {boot : Boot}
    (h : applyEnvOverrides core e config = .ok boot) :
    (∃ notes, applyEnvOverrides core e boot.config = .ok ⟨boot.config, notes⟩) ∧
      e.Decides core secret config boot.config := by
  have haccepted := Environment.accepted_of_ok hresolve h
  obtain ⟨notes, happlied⟩ := haccepted.applied hresolve core
  obtain rfl := Except.ok.inj (h.symm.trans happlied)
  refine ⟨?_, haccepted.toReadable.decides hconnection.toLawfulConnection hkeeps secret config⟩
  obtain ⟨again, hagain⟩ := (haccepted.again core secret).applied hresolve core
  rw [Environment.overridden_again hconnection hsettles] at hagain
  exact ⟨again, hagain⟩

/-! ## The in-memory daemon -/

/-- The in-memory daemon keeps nothing of a connection that is replaced. -/
theorem memoryCore_overwritesConnection : OverwritesConnection memoryCore := by
  refine ⟨memoryCore_lawfulConnection, fun p connections first second => ?_⟩
  refine Std.ExtTreeMap.ext_getElem? fun key => ?_
  simp only [memoryCore, Std.ExtTreeMap.getElem?_insert]
  split <;> rfl

/-- The in-memory merge keeps the other points. -/
theorem memoryCore_mergeKeepsUnfound : memoryCore.MergeKeepsUnfound := by
  intro existing findings point hlacks
  rw [memoryCore_merge_points]
  exact Keyed.mem_merge_of_ne hlacks existing

/-- The in-memory merge changes nothing the second time. -/
theorem memoryCore_mergeSettles : memoryCore.MergeSettles := by
  intro existing imported
  rw [memoryCore_merge_points, memoryCore_merge_points]
  exact Keyed.merge_again existing imported

/-- The text of two points. -/
def bootPoints : String :=
  "[\x7b\"enabled\":true,\"device_key\":\"AHU-1\",\"addressing\":\x7b\"id\":\"b\"\x7d," ++
    "\"tag_path\":\"b\",\"poll_interval_secs\":10\x7d," ++
  "\x7b\"enabled\":true,\"device_key\":\"AHU-1\",\"addressing\":\x7b\"id\":\"c\"\x7d," ++
    "\"tag_path\":\"c\",\"poll_interval_secs\":10\x7d]"

/-- The variables of a container with an in-memory daemon. -/
def bootVariables : List (String × String) :=
  [("REPUBLISHER_PROTOCOL", " modbus "), ("REPUBLISHER_MQTT_PORT", "1883"),
    ("REPUBLISHER_MQTT_TLS", "Off"), ("REPUBLISHER_MQTT_USERNAME", "  "),
    ("REPUBLISHER_MQTT_PASSWORD", "direct"), ("REPUBLISHER_MQTT_PASSWORD_ENV", "BROKER_SECRET"),
    ("BROKER_SECRET", "indirect"), ("REPUBLISHER_MQTT_KEEP_ALIVE_SECS", "0"),
    ("REPUBLISHER_CONNECTION_JSON", "\x7b\"host\": \"10.0.0.5\"\x7d"),
    ("REPUBLISHER_POINTS_JSON", bootPoints)]

/-- The password in a named variable. -/
def bootSecret (name : String) : Option String := bootVariables.lookup name

/-- An environment with these variables. -/
def bootEnvironment : Environment where
  var key := bootVariables.lookup key
  resolvePasswordEnv mqtt :=
    match mqtt.passwordEnv.bind bootSecret with
    | some password => (true, { mqtt with password := some password })
    | none => (false, mqtt)
  parseObject raw :=
    if raw = "\x7b\"host\": \"10.0.0.5\"\x7d" then some [("host", .string "10.0.0.5")] else none
  parsePoints raw :=
    if raw = bootPoints then some [plainPoint "b", plainPoint "c"] else none

/-- The daemon comes up with the password of the named variable, and a second application of the
same environment changes nothing. -/
theorem bootEnvironment_applied :
    ∃ boot, applyEnvOverrides memoryCore bootEnvironment
        (plainConfig [plainPoint "a", plainPoint "b"]) = .ok boot ∧
      boot.config.mqtt.password = some "indirect" ∧ boot.config.points.length = 3 ∧
      (∃ notes, applyEnvOverrides memoryCore bootEnvironment boot.config =
        .ok ⟨boot.config, notes⟩) ∧
      bootEnvironment.Decides memoryCore bootSecret
        (plainConfig [plainPoint "a", plainPoint "b"]) boot.config := by
  have hshown : (applyEnvOverrides memoryCore bootEnvironment
      (plainConfig [plainPoint "a", plainPoint "b"])).map
        (fun boot => (boot.config.mqtt.password, boot.config.points.length)) =
      .ok (some "indirect", 3) := by
    decide +kernel
  cases hboot : applyEnvOverrides memoryCore bootEnvironment
      (plainConfig [plainPoint "a", plainPoint "b"]) with
  | error error =>
    rw [hboot] at hshown
    cases hshown
  | ok boot =>
    rw [hboot] at hshown
    obtain ⟨hpassword, hlength⟩ := Prod.mk.inj (Except.ok.inj hshown)
    exact ⟨boot, rfl, hpassword, hlength,
      applyEnvOverrides_again (fun _ => rfl) memoryCore_overwritesConnection
        memoryCore_mergeKeepsUnfound memoryCore_mergeSettles hboot⟩

end Republisher
