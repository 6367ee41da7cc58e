import Republisher.Instance

/-!
# Noninterference of secrets

The browser is told whether the broker password and the key passphrase are set
but not what they are. Protocol connections may have secret fields as well. Two
states that differ in secret values only must look the same from outside; this
file proves when they do.
-/

namespace Republisher

variable {Disk : Type}

/-- The connection field `key` of a protocol is declared secret. -/
def WebState.SecretField (w : WebState Disk) (protocol key : String) : Prop :=
  ∃ caps, w.caps protocol = some caps ∧
    ∃ spec ∈ caps.connectionFields, spec.key = key ∧ spec.kind = .secret

/-- The stored value of a connection field. -/
def AppConfig.storedValue (config : AppConfig) (protocol key : String) : Option Json :=
  (config.connections.get? protocol).bind fun connection => connection.get? key

/-- Broker settings that agree on everything but the values of the two secrets. -/
structure MqttConfig.AgreeUpToSecrets (a b : MqttConfig) : Prop where
  rest : { a with password := none, clientKeyPassphrase := none } =
    { b with password := none, clientKeyPassphrase := none }
  passwordSet : a.password.isSome = b.password.isSome
  passphraseSet : a.clientKeyPassphrase.isSome = b.clientKeyPassphrase.isSome

/-- Configurations that agree on everything but the values of secrets. The same
connections and the same fields of them are stored on both sides. -/
structure WebState.AgreeUpToSecrets (w : WebState Disk) (a b : AppConfig) : Prop where
  protocol : a.protocol = b.protocol
  mqtt : a.mqtt.AgreeUpToSecrets b.mqtt
  points : a.points = b.points
  discoverOnStart : a.discoverOnStart = b.discoverOnStart
  ui : a.ui = b.ui
  connections : ∀ protocol,
    (a.connections.get? protocol).isSome = (b.connections.get? protocol).isSome
  fields : ∀ protocol key,
    (a.storedValue protocol key).isSome = (b.storedValue protocol key).isSome
  values : ∀ protocol key, ¬ w.SecretField protocol key →
    a.storedValue protocol key = b.storedValue protocol key

/-- Shared states that agree on everything but the values of secrets. -/
structure WebState.SharedAgree (w : WebState Disk) (a b : Shared) : Prop where
  config : w.AgreeUpToSecrets a.config b.config
  rest : a = { b with config := a.config }

/-- The two states store the same values in the secret connection fields. -/
def WebState.SameConnectionSecrets (w : WebState Disk) (a b : AppConfig) : Prop :=
  ∀ protocol key, w.SecretField protocol key →
    a.storedValue protocol key = b.storedValue protocol key

/-- The topic of a point is built from the topic settings, not from the secrets. -/
def Core.TopicIgnoresSecrets (core : Core Disk) : Prop :=
  ∀ (mqtt : MqttConfig) (password passphrase : Option String) (point : PointConfig),
    core.telemetryTopic { mqtt with password, clientKeyPassphrase := passphrase } point =
      core.telemetryTopic mqtt point

/-- Everything a browser is shown of two states is the same: the redacted configuration,
the snapshot, the two read endpoints that return them, and the `config` delta. -/
structure WebState.Indistinguishable (w : WebState Disk) (s t : Server Disk) : Prop where
  redacted : redactedConfig s.shared.config = redactedConfig t.shared.config
  snapshot : w.snapshotJson s.shared = w.snapshotJson t.shared
  getConfig : (w.handle .getConfig s).1 = (w.handle .getConfig t).1
  getState : (w.handle .getState s).1 = (w.handle .getState t).1
  delta : ∀ events, ({ s with events }.emitConfig).events = ({ t with events }.emitConfig).events

/-- Connections with the same stored values are the same. -/
theorem connections_ext {a b : AppConfig}
    (hconnections : ∀ protocol,
      (a.connections.get? protocol).isSome = (b.connections.get? protocol).isSome)
    (hvalues : ∀ protocol key, a.storedValue protocol key = b.storedValue protocol key) :
    a.connections = b.connections := by
  apply Std.ExtTreeMap.ext_getElem?
  intro protocol
  have hsome := hconnections protocol
  have hvalue := hvalues protocol
  simp only [AppConfig.storedValue, Std.ExtTreeMap.get?_eq_getElem?] at hsome hvalue
  rcases ha : a.connections[protocol]? with _ | m <;>
    rcases hb : b.connections[protocol]? with _ | m' <;> rw [ha, hb] at hsome hvalue
  · cases hsome
  · cases hsome
  · congr 1
    exact Std.ExtTreeMap.ext_getElem? fun {key} => hvalue key

/-- The redacted configuration still shows the stored connections. -/
theorem storedValue_redacted (config : AppConfig) (protocol key : String) :
    (redactedConfig config).config.storedValue protocol key = config.storedValue protocol key :=
  rfl

/-- Configurations that agree up to secrets have the same redacted form exactly when
they store the same values in the secret connection fields. -/
theorem WebState.redactedConfig_eq_iff {w : WebState Disk} {a b : AppConfig}
    (h : w.AgreeUpToSecrets a b) :
    redactedConfig a = redactedConfig b ↔ w.SameConnectionSecrets a b := by
  constructor
  · intro heq protocol key _
    rw [← storedValue_redacted a, ← storedValue_redacted b, heq]
  · intro hsecrets
    have hconnections : a.connections = b.connections := by
      refine connections_ext h.connections fun protocol key => ?_
      by_cases hsecret : w.SecretField protocol key
      · exact hsecrets protocol key hsecret
      · exact h.values protocol key hsecret
    simp only [redactedConfig, h.protocol, hconnections, h.mqtt.rest, h.points,
      h.discoverOnStart, h.ui, h.mqtt.passwordSet, h.mqtt.passphraseSet]

/-- The topic of a point is the same under settings that agree up to secrets. -/
theorem Core.TopicIgnoresSecrets.topic_eq {core : Core Disk} (htopic : core.TopicIgnoresSecrets)
    {a b : MqttConfig} (h : a.AgreeUpToSecrets b) (point : PointConfig) :
    core.telemetryTopic a point = core.telemetryTopic b point := by
  rw [← htopic a none none point, ← htopic b none none point, h.rest]

/-- The snapshots of two states that agree up to secrets differ at most in the
redacted configuration. -/
theorem WebState.snapshotJson_agree {w : WebState Disk} (htopic : w.core.TopicIgnoresSecrets)
    {a b : Shared} (h : w.SharedAgree a b) :
    w.snapshotJson a = { w.snapshotJson b with config := redactedConfig a.config } := by
  have hrest := h.rest
  have hpoints : pointsJson w.core a = pointsJson w.core b := by
    rw [hrest]
    simp only [pointsJson, h.config.points, pointDto, htopic.topic_eq h.config.mqtt]
  have hstatus : w.statusJson a = w.statusJson b := by
    rw [hrest]
    simp only [statusJson, h.config.points, h.config.protocol]
  have hdevices : devicesJson a = devicesJson b := by rw [hrest]; rfl
  have hbrowsed : browsedJson w.core a = browsedJson w.core b := by rw [hrest]; rfl
  have hsamples : a.recentSamples = b.recentSamples := by rw [hrest]
  have hlogs : a.logs = b.logs := by rw [hrest]
  simp only [snapshotJson, hpoints, hstatus, hdevices, hbrowsed, hsamples, hlogs]

/-- Two states that agree on everything but the values of secrets look the same to a
browser exactly when they also agree on the secret fields of the stored connections. -/
theorem WebState.indistinguishable_iff {w : WebState Disk}
    (htopic : w.core.TopicIgnoresSecrets) {s t : Server Disk}
    (h : w.SharedAgree s.shared t.shared) :
    w.Indistinguishable s t ↔ w.SameConnectionSecrets s.shared.config t.shared.config := by
  constructor
  · intro hsame
    exact (redactedConfig_eq_iff h.config).mp hsame.redacted
  · intro hsecrets
    have hredacted := (redactedConfig_eq_iff h.config).mpr hsecrets
    have hsnapshot : w.snapshotJson s.shared = w.snapshotJson t.shared := by
      rw [w.snapshotJson_agree htopic h, hredacted]
      rfl
    refine ⟨hredacted, hsnapshot, ?_, ?_, fun events => ?_⟩
    · simp only [handle, hredacted]
    · simp only [handle, hsnapshot]
    · simp only [Server.emitConfig, Server.emit, hredacted]

/-- The in-memory daemon with a broker password and a stored connection password. -/
def secretServer (brokerPassword connectionPassword : String) : Server MemoryDisk :=
  memoryState.new
    { plainConfig [] with
      connections := (∅ : StringMap Addressing).insert "bacnet"
        ((∅ : Addressing).insert "password" (.string connectionPassword))
      mqtt := { plainMqtt with password := some brokerPassword } }
    "Loaded saved configuration" ⟨none, true⟩

/-- The one stored field of these daemons is the connection password. -/
theorem secretServer_storedValue (broker connection protocol key : String) :
    (secretServer broker connection).shared.config.storedValue protocol key =
      if protocol = "bacnet" ∧ key = "password" then some (.string connection) else none := by
  have hconnections : (secretServer broker connection).shared.config.connections =
      (∅ : StringMap Addressing).insert "bacnet"
        ((∅ : Addressing).insert "password" (.string connection)) := rfl
  rw [AppConfig.storedValue, hconnections]
  by_cases hprotocol : protocol = "bacnet"
  · by_cases hkey : key = "password"
    · simp [hprotocol, hkey]
    · have hkey' : ¬ "password" = key := fun h => hkey h.symm
      simp [hprotocol, hkey, hkey']
  · have hprotocol' : ¬ "bacnet" = protocol := fun h => hprotocol h.symm
    simp [hprotocol, hprotocol']

/-- Two such daemons agree on everything but the values of the two passwords. -/
theorem secretServer_agree (broker broker' connection connection' : String) :
    memoryState.SharedAgree (secretServer broker connection).shared
      (secretServer broker' connection').shared := by
  refine ⟨⟨rfl, ⟨rfl, rfl, rfl⟩, rfl, rfl, rfl, fun protocol => ?_, fun protocol key => ?_,
    fun protocol key hpublic => ?_⟩, rfl⟩
  · have hstored (broker connection : String) :
        ((secretServer broker connection).shared.config.connections.get? protocol).isSome =
          decide (protocol = "bacnet") := by
      have hconnections : (secretServer broker connection).shared.config.connections =
          (∅ : StringMap Addressing).insert "bacnet"
            ((∅ : Addressing).insert "password" (.string connection)) := rfl
      rw [hconnections]
      by_cases hprotocol : protocol = "bacnet"
      · simp [hprotocol]
      · have hprotocol' : ¬ "bacnet" = protocol := fun h => hprotocol h.symm
        simp [hprotocol, hprotocol']
    rw [hstored, hstored]
  · rw [secretServer_storedValue, secretServer_storedValue]
    split <;> rfl
  · rw [secretServer_storedValue, secretServer_storedValue]
    split
    · rename_i h
      obtain ⟨rfl, rfl⟩ := h
      exact absurd ⟨plainProtocol "bacnet", rfl, plainField "password" .secret, by decide, rfl, rfl⟩
        hpublic
    · rfl

/-- The broker password alone is not visible. -/
theorem brokerPassword_indistinguishable :
    memoryState.Indistinguishable (secretServer "one" "same") (secretServer "two" "same") :=
  (WebState.indistinguishable_iff (fun _ _ _ _ => rfl)
    (secretServer_agree "one" "two" "same" "same")).mpr (fun _ _ _ => rfl)

/-- The password of a connection is visible in the redacted configuration and in the
snapshot, although its field is declared secret. -/
theorem connectionPassword_disclosed :
    memoryState.SharedAgree (secretServer "same" "one").shared
        (secretServer "same" "two").shared ∧
      redactedConfig (secretServer "same" "one").shared.config ≠
        redactedConfig (secretServer "same" "two").shared.config ∧
      memoryState.snapshotJson (secretServer "same" "one").shared ≠
        memoryState.snapshotJson (secretServer "same" "two").shared := by
  refine ⟨secretServer_agree "same" "same" "one" "two", ?_, ?_⟩
  · decide
  · intro h
    revert h
    decide

end Republisher
