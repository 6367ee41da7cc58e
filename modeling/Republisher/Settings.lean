import Republisher.SettingsForm
import Republisher.Fields
import Mathlib.Data.List.Induction
import Mathlib.Data.List.TakeWhile

/-!
# Saving the settings form

A form that is filled from the redacted configuration, changed by the user and saved changes
the stored settings exactly by what the user has entered: the other fields, and above all the
secrets the browser was never sent, stay as they are.
-/

namespace Republisher

variable {Disk : Type}

/-! ## What the user has entered -/

/-- The last of the values that the changes of a list have, if one has a value. -/
def lastOf {ε α : Type} (value : ε → Option α) (edits : List ε) : Option α :=
  (edits.filterMap value).getLast?

/-- The text that a change enters into an input. -/
def SettingsEdit.text (field : SettingsInput) : SettingsEdit → Option String
  | .input entered text => if entered = field then some text else none
  | .clearPassword => if .password = field then some "" else none
  | _ => none

/-- The state that a change gives a check box. -/
def SettingsEdit.tick (box : SettingsCheck) : SettingsEdit → Option Bool
  | .check ticked checked => if ticked = box then some checked else none
  | _ => none

/-- The payload format that a change selects. -/
def SettingsEdit.format : SettingsEdit → Option PayloadFormat
  | .payload chosen => some chosen
  | _ => none

/-- The theme that a change selects. -/
def SettingsEdit.newTheme : SettingsEdit → Option UiTheme
  | .theme chosen => some chosen
  | _ => none

/-- The port that is entered as a text, if it is one. -/
def portOf (wire : ℤ → Option ℤ) (text : String) : Option UInt16 :=
  (unsignedBelow UInt16.size (wire (parseIntOr 0 text))).map UInt16.ofNat

/-- The keep-alive time that is entered as a text, at least one second, if it is one. -/
def keepAliveOf (wire : ℤ → Option ℤ) (text : String) : Option UInt64 :=
  (unsignedBelow UInt64.size (wire (max 1 (parseIntOr 30 text)))).map fun n =>
    max (UInt64.ofNat n) 1

/-- The secret that is entered as a text. An emptied input clears the secret. -/
def secretOf (text : String) : Option String := if text = "" then none else some text

/-- The configuration is changed exactly by what was entered. -/
structure AppConfig.EditedBy (wire : ℤ → Option ℤ) (edits : List SettingsEdit)
    (before after : AppConfig) : Prop where
  host : after.mqtt.host = (lastOf (SettingsEdit.text .host) edits).getD before.mqtt.host
  port : some after.mqtt.port =
    ((lastOf (SettingsEdit.text .port) edits).map (portOf wire)).getD (some before.mqtt.port)
  useTls : after.mqtt.useTls = (lastOf (SettingsEdit.tick .tls) edits).getD before.mqtt.useTls
  clientId : after.mqtt.clientId =
    (lastOf (SettingsEdit.text .clientId) edits).getD before.mqtt.clientId
  topicPrefix : after.mqtt.topicPrefix =
    (lastOf (SettingsEdit.text .topicPrefix) edits).getD before.mqtt.topicPrefix
  healthTopic : after.mqtt.healthTopic =
    (lastOf (SettingsEdit.text .healthTopic) edits).getD before.mqtt.healthTopic
  username : after.mqtt.username =
    ((lastOf (SettingsEdit.text .username) edits).map fun text => nonEmpty (some text)).getD
      before.mqtt.username
  password : after.mqtt.password =
    ((lastOf (SettingsEdit.text .password) edits).map secretOf).getD before.mqtt.password
  passwordEnv : after.mqtt.passwordEnv = before.mqtt.passwordEnv
  caCertPath : after.mqtt.caCertPath =
    ((lastOf (SettingsEdit.text .caCert) edits).map fun text => nonEmpty (some text)).getD
      before.mqtt.caCertPath
  clientCertPath : after.mqtt.clientCertPath =
    ((lastOf (SettingsEdit.text .clientCert) edits).map fun text => nonEmpty (some text)).getD
      before.mqtt.clientCertPath
  clientKeyPath : after.mqtt.clientKeyPath =
    ((lastOf (SettingsEdit.text .clientKey) edits).map fun text => nonEmpty (some text)).getD
      before.mqtt.clientKeyPath
  clientKeyPassphrase : after.mqtt.clientKeyPassphrase =
    ((lastOf (SettingsEdit.text .passphrase) edits).map secretOf).getD
      before.mqtt.clientKeyPassphrase
  rememberSecrets : after.mqtt.rememberSecrets =
    (lastOf (SettingsEdit.tick .remember) edits).getD before.mqtt.rememberSecrets
  retain : after.mqtt.retain = (lastOf (SettingsEdit.tick .retain) edits).getD before.mqtt.retain
  keepAliveSecs : some after.mqtt.keepAliveSecs =
    ((lastOf (SettingsEdit.text .keepAlive) edits).map (keepAliveOf wire)).getD
      (some before.mqtt.keepAliveSecs)
  payloadFormat : after.mqtt.payloadFormat =
    (lastOf SettingsEdit.format edits).getD before.mqtt.payloadFormat
  deviceTopicPrefix : after.mqtt.deviceTopicPrefix =
    (lastOf (SettingsEdit.text .deviceTopic) edits).getD before.mqtt.deviceTopicPrefix
  autostart : after.mqtt.autostart =
    (lastOf (SettingsEdit.tick .autostart) edits).getD before.mqtt.autostart
  protocol : after.protocol = before.protocol
  connections : after.connections = before.connections
  points : after.points = before.points
  discoverOnStart : after.discoverOnStart =
    (lastOf (SettingsEdit.tick .discoverOnStart) edits).getD before.discoverOnStart
  theme : after.ui.theme = (lastOf SettingsEdit.newTheme edits).getD before.ui.theme

/-! ## The form after the changes -/

/-- What every change either sets or leaves is, after all of them, what the last one that
sets it has set. -/
theorem foldl_lastOf {σ ε α : Type} {edit : σ → ε → σ} (read : σ → α) {value : ε → Option α}
    (hedit : ∀ s e, read (edit s e) = (value e).getD (read s)) (s : σ) (edits : List ε) :
    read (edits.foldl edit s) = (lastOf value edits).getD (read s) := by
  induction edits using List.reverseRecOn with
  | nil => rfl
  | append_singleton edits e ih =>
    rw [List.foldl_append, List.foldl_cons, List.foldl_nil, hedit, ih, lastOf, lastOf,
      List.filterMap_append, List.filterMap_cons, List.filterMap_nil]
    cases value e with
    | none => simp
    | some a => simp

/-- The last of the mapped values is the mapped last value. -/
theorem lastOf_map {ε α β : Type} (value : ε → Option α) (f : α → β) (edits : List ε) :
    lastOf (fun e => (value e).map f) edits = (lastOf value edits).map f := by
  rw [lastOf, lastOf, ← List.getLast?_map, List.map_filterMap]

/-- The text in an input. -/
theorem SettingsForm.value_edits (form : SettingsForm) (edits : List SettingsEdit)
    (field : SettingsInput) : (edits.foldl edit form).value field =
      (lastOf (SettingsEdit.text field) edits).getD (form.value field) := by
  refine foldl_lastOf (fun form => form.value field) (fun form e => ?_) form edits
  cases e with
  | input entered text =>
    by_cases h : entered = field
    · subst h
      simp [edit, SettingsEdit.text]
    · simp [edit, SettingsEdit.text, h, Ne.symm h]
  | clearPassword =>
    by_cases h : .password = field
    · subst h
      simp [edit, SettingsEdit.text]
    · simp [edit, SettingsEdit.text, h, Ne.symm h]
  | _ => rfl

/-- The state of a check box. -/
theorem SettingsForm.checked_edits (form : SettingsForm) (edits : List SettingsEdit)
    (box : SettingsCheck) : (edits.foldl edit form).checked box =
      (lastOf (SettingsEdit.tick box) edits).getD (form.checked box) := by
  refine foldl_lastOf (fun form => form.checked box) (fun form e => ?_) form edits
  cases e with
  | check ticked checked =>
    by_cases h : ticked = box
    · subst h
      simp [edit, SettingsEdit.tick]
    · simp [edit, SettingsEdit.tick, h, Ne.symm h]
  | _ => rfl

/-- The selected payload format. -/
theorem SettingsForm.payload_edits (form : SettingsForm) (edits : List SettingsEdit) :
    (edits.foldl edit form).payload =
      ((lastOf SettingsEdit.format edits).map PayloadFormat.name).getD form.payload := by
  rw [← lastOf_map]
  refine foldl_lastOf SettingsForm.payload (fun form e => ?_) form edits
  cases e <;> rfl

/-- The selected theme. -/
theorem SettingsForm.theme_edits (form : SettingsForm) (edits : List SettingsEdit) :
    (edits.foldl edit form).theme =
      ((lastOf SettingsEdit.newTheme edits).map UiTheme.name).getD form.theme := by
  rw [← lastOf_map]
  refine foldl_lastOf SettingsForm.theme (fun form e => ?_) form edits
  cases e <;> rfl

/-- What `saveSettings` sends of a secret. -/
def SettingsForm.sent (field : SettingsInput) (form : SettingsForm) : Option String :=
  if form.dirty field then some (form.value field) else none

/-- A secret is sent exactly when it was entered. -/
theorem SettingsForm.sent_edits (form : SettingsForm) (hclean : form.dirty = fun _ => false)
    (edits : List SettingsEdit) {field : SettingsInput}
    (hsecret : field = .password ∨ field = .passphrase) :
    (edits.foldl edit form).sent field = lastOf (SettingsEdit.text field) edits := by
  have hstep (form : SettingsForm) (e : SettingsEdit) :
      (form.edit e).sent field = ((e.text field).map some).getD (form.sent field) := by
    cases e with
    | input entered text =>
      by_cases h : entered = field
      · subst h
        simp [edit, sent, SettingsEdit.text, hsecret]
      · have hvalue : (form.edit (.input entered text)).value field = form.value field :=
          Function.update_of_ne (Ne.symm h) ..
        have hdirty : (form.edit (.input entered text)).dirty field = form.dirty field := by
          rw [edit]
          by_cases hentered : entered = .password ∨ entered = .passphrase
          · rw [if_pos hentered]
            exact Function.update_of_ne (Ne.symm h) ..
          · rw [if_neg hentered]
        simp [sent, SettingsEdit.text, h, hdirty, hvalue]
    | clearPassword =>
      by_cases h : .password = field
      · subst h
        simp [edit, sent, SettingsEdit.text]
      · simp [edit, sent, SettingsEdit.text, h, Ne.symm h]
    | _ => rfl
  rw [foldl_lastOf (sent field) hstep form edits, lastOf_map, sent, hclean]
  cases lastOf (SettingsEdit.text field) edits <;> rfl

/-! ## The fields that were not changed -/

/-- A digit is no white space of JavaScript. -/
theorem not_isJsSpace_of_isDigit {c : Char} (h : c.isDigit = true) : isJsSpace c = false := by
  have hrange : 48 ≤ c.toNat ∧ c.toNat ≤ 57 := by
    simpa [Char.isDigit, UInt32.le_iff_toNat_le] using h
  simp only [isJsSpace, Bool.or_eq_false_iff, Bool.and_eq_false_iff, decide_eq_false_iff_not,
    beq_eq_false_iff_ne]
  omega

/-- A printed number is read as a number. -/
theorem leadingNumber_toDigits (n : ℕ) : leadingNumber (Nat.toDigits 10 n) = some n := by
  have htake : (Nat.toDigits 10 n).takeWhile Char.isDigit = Nat.toDigits 10 n :=
    List.takeWhile_eq_self_iff.mpr fun c hc =>
      Nat.isDigit_of_mem_toDigits (by decide) (by decide) hc
  rw [leadingNumber, htake]
  simp [Nat.toDigits_ne_nil, digitsValue_toDigits]

/-- `parseInt` reads a printed number back. -/
theorem parseInt_toString (n : ℕ) : parseInt (toString n) = some (n : ℤ) := by
  have hdigit : ∀ c ∈ Nat.toDigits 10 n, c.isDigit = true := fun c hc =>
    Nat.isDigit_of_mem_toDigits (by decide) (by decide) hc
  have hdrop : (toString n).toList.dropWhile isJsSpace = Nat.toDigits 10 n := by
    rw [toList_toString]
    cases hdigits : Nat.toDigits 10 n with
    | nil => rfl
    | cons c cs =>
      have hspace := not_isJsSpace_of_isDigit (hdigit c (by rw [hdigits]; exact List.mem_cons_self))
      rw [List.dropWhile_cons_of_neg (by simp [hspace])]
  have hsign {sign : Char} (hno : sign.isDigit = false) (cs : List Char) :
      Nat.toDigits 10 n ≠ sign :: cs := by
    intro hcs
    have hyes := hdigit sign (by rw [hcs]; exact List.mem_cons_self)
    rw [hno] at hyes
    cases hyes
  rw [parseInt, hdrop]
  split
  · rename_i cs hminus
    exact absurd hminus (hsign (by decide) cs)
  · rename_i cs hplus
    exact absurd hplus (hsign (by decide) cs)
  · rw [leadingNumber_toDigits]
    rfl

/-- A number that is not zero is read as itself. -/
theorem parseIntOr_toString {otherwise : ℤ} {n : ℕ} (h : n = 0 → otherwise = 0) :
    parseIntOr otherwise (toString n) = n := by
  rw [parseIntOr, parseInt_toString]
  split
  · rename_i hzero
    have hn : (n : ℤ) = 0 := Option.some.inj hzero
    rw [hn, h (by exact_mod_cast hn)]
  · rename_i hnone
    cases hnone
  · rename_i z _ hz
    exact (Option.some.inj hz).symm

/-- The integers that are exact in the browser arrive as they are. -/
def ExactIntegers (wire : ℤ → Option ℤ) : Prop :=
  ∀ n : ℕ, n ≤ 2 ^ 53 → wire (n : ℤ) = some (n : ℤ)

/-- The text is missing, or trimmed and not empty. -/
def Trimmed (value : Option String) : Prop :=
  ∀ text, value = some text → trim text = text ∧ text ≠ ""

/-- The values of the MQTT settings that `put_settings` stores: texts that may be missing are
trimmed and not empty, and the keep-alive time is positive and exact in the browser. -/
structure MqttConfig.Storable (mqtt : MqttConfig) : Prop where
  username : Trimmed mqtt.username
  caCertPath : Trimmed mqtt.caCertPath
  clientCertPath : Trimmed mqtt.clientCertPath
  clientKeyPath : Trimmed mqtt.clientKeyPath
  keepAliveSecs : 1 ≤ mqtt.keepAliveSecs.toNat ∧ mqtt.keepAliveSecs.toNat ≤ 2 ^ 53 - 1

/-- A missing text is shown as an empty one, and stored as missing again. -/
theorem Trimmed.nonEmpty_getD {value : Option String} (h : Trimmed value) :
    nonEmpty (some (value.getD "")) = value := by
  cases value with
  | none => decide
  | some text =>
    obtain ⟨htrim, hne⟩ := h text rfl
    rw [Option.getD_some, nonEmpty, Option.bind_some, htrim, if_neg hne]

/-- A number below the bound is accepted. -/
theorem unsignedBelow_of_lt {bound n : ℕ} (h : n < bound) :
    unsignedBelow bound (some (n : ℤ)) = some n := if_pos h

/-- The port that the form shows is the stored one. -/
theorem portOf_toString {wire : ℤ → Option ℤ} (h : ExactIntegers wire) (port : UInt16) :
    portOf wire (toString port.toNat) = some port := by
  have hlt := port.toNat_lt
  rw [portOf, parseIntOr_toString (fun _ => rfl), h port.toNat (by omega),
    unsignedBelow_of_lt hlt, Option.map_some, UInt16.ofNat_toNat]

/-- A positive time is at least one second. -/
theorem max_one_of_pos {secs : UInt64} (h : 1 ≤ secs.toNat) : max secs 1 = secs := by
  show (if secs ≤ 1 then 1 else secs) = secs
  split
  · rename_i hle
    rw [UInt64.le_iff_toNat_le, UInt64.toNat_one] at hle
    exact UInt64.toNat_inj.mp (by rw [UInt64.toNat_one]; omega)
  · rfl

/-- So is the keep-alive time. -/
theorem keepAliveOf_toString {wire : ℤ → Option ℤ} (h : ExactIntegers wire) {secs : UInt64}
    (hsecs : 1 ≤ secs.toNat ∧ secs.toNat ≤ 2 ^ 53 - 1) :
    keepAliveOf wire (toString secs.toNat) = some secs := by
  have hparse : parseIntOr 30 (toString secs.toNat) = (secs.toNat : ℤ) :=
    parseIntOr_toString fun hzero => by omega
  have hmax : max (1 : ℤ) (secs.toNat : ℤ) = (secs.toNat : ℤ) := by omega
  rw [keepAliveOf, hparse, hmax, h secs.toNat (by omega), unsignedBelow_of_lt secs.toNat_lt,
    Option.map_some, UInt64.ofNat_toNat, max_one_of_pos hsecs.1]

/-- The name of a payload format names it. -/
theorem PayloadFormat.named?_name (format : PayloadFormat) : named? format.name = some format := by
  cases format <;> rfl

/-- The name of a theme names it. -/
theorem UiTheme.named?_name (theme : UiTheme) : named? theme.name = some theme := by
  cases theme <;> rfl

/-- The payload format that is sent. -/
theorem payload_sent (stringify : Json → String) (config : AppConfig)
    (edits : List SettingsEdit) :
    PayloadFormat.named?
        (edits.foldl SettingsForm.edit (renderSettings stringify config)).payload =
      some ((lastOf SettingsEdit.format edits).getD config.mqtt.payloadFormat) := by
  have hselected : (renderSettings stringify config).payload = config.mqtt.payloadFormat.name := by
    rw [renderSettings]
    cases config.mqtt.payloadFormat <;> rfl
  rw [SettingsForm.payload_edits, hselected]
  cases lastOf SettingsEdit.format edits <;> exact PayloadFormat.named?_name _

/-- The theme that is sent. -/
theorem theme_sent (stringify : Json → String) (config : AppConfig) (edits : List SettingsEdit) :
    UiTheme.named? (edits.foldl SettingsForm.edit (renderSettings stringify config)).theme =
      some ((lastOf SettingsEdit.newTheme edits).getD config.ui.theme) := by
  have hselected : (renderSettings stringify config).theme = config.ui.theme.name := by
    rw [renderSettings]
    cases config.ui.theme <;> rfl
  rw [SettingsForm.theme_edits, hselected]
  cases lastOf SettingsEdit.newTheme edits <;> exact UiTheme.named?_name _

/-- A text that may be missing: what was entered is trimmed, and else it stays. -/
theorem nonEmpty_sent {stored : Option String} (h : Trimmed stored) (entered : Option String) :
    nonEmpty (some (entered.getD (stored.getD ""))) =
      (entered.map fun text => nonEmpty (some text)).getD stored := by
  cases entered with
  | none => exact h.nonEmpty_getD
  | some text => rfl

/-- A secret: what was entered is stored, and else it stays. -/
theorem applySecret_sent (stored entered : Option String) :
    applySecret stored entered = (entered.map secretOf).getD stored := by
  cases entered <;> rfl

/-- The port that is sent. -/
theorem port_sent {stringify : Json → String} (hstringify : PrintsScalars stringify)
    {wire : ℤ → Option ℤ} (hwire : ExactIntegers wire) (config : AppConfig)
    (edits : List SettingsEdit) :
    portOf wire ((edits.foldl SettingsForm.edit (renderSettings stringify config)).value .port) =
      ((lastOf (SettingsEdit.text .port) edits).map (portOf wire)).getD
        (some config.mqtt.port) := by
  have hlt := config.mqtt.port.toNat_lt
  have hshown : (renderSettings stringify config).value .port =
      toString config.mqtt.port.toNat :=
    hstringify.integer config.mqtt.port.toUInt64 (by rw [UInt16.toNat_toUInt64]; omega)
  rw [SettingsForm.value_edits, hshown]
  cases lastOf (SettingsEdit.text .port) edits with
  | none => exact portOf_toString hwire config.mqtt.port
  | some text => rfl

/-- The keep-alive time that is sent. -/
theorem keepAlive_sent {stringify : Json → String} (hstringify : PrintsScalars stringify)
    {wire : ℤ → Option ℤ} (hwire : ExactIntegers wire) {config : AppConfig}
    (hconfig : config.mqtt.Storable) (edits : List SettingsEdit) :
    keepAliveOf wire
        ((edits.foldl SettingsForm.edit (renderSettings stringify config)).value .keepAlive) =
      ((lastOf (SettingsEdit.text .keepAlive) edits).map (keepAliveOf wire)).getD
        (some config.mqtt.keepAliveSecs) := by
  have hsecs := hconfig.keepAliveSecs
  have hshown : (renderSettings stringify config).value .keepAlive =
      toString config.mqtt.keepAliveSecs.toNat :=
    hstringify.integer config.mqtt.keepAliveSecs (by omega)
  rw [SettingsForm.value_edits, hshown]
  cases lastOf (SettingsEdit.text .keepAlive) edits with
  | none => exact keepAliveOf_toString hwire hsecs
  | some text => rfl

/-! ## The round trip -/

/-- The form that a browser fills from the redacted configuration, after the changes. -/
def SettingsForm.afterEdits (stringify : Json → String) (config : AppConfig)
    (edits : List SettingsEdit) : SettingsForm :=
  edits.foldl edit (renderSettings stringify (redactedConfig config).config)

/-- The request that is read from an accepted body. -/
theorem SettingsBody.decode_eq_some {wire : ℤ → Option ℤ} {body : SettingsBody}
    {req : SettingsReq} (h : body.decode wire = some req) :
    ∃ port keepAliveSecs payloadFormat theme,
      unsignedBelow UInt16.size (wire body.port) = some port ∧
      unsignedBelow UInt64.size (wire body.keepAliveSecs) = some keepAliveSecs ∧
      PayloadFormat.named? body.payloadFormat = some payloadFormat ∧
      UiTheme.named? body.theme = some theme ∧
      req = body.request port keepAliveSecs payloadFormat theme := by
  obtain ⟨port, hport, h⟩ := Option.bind_eq_some_iff.mp h
  obtain ⟨keepAliveSecs, hkeepAlive, h⟩ := Option.bind_eq_some_iff.mp h
  obtain ⟨payloadFormat, hpayload, h⟩ := Option.bind_eq_some_iff.mp h
  obtain ⟨theme, htheme, h⟩ := Option.bind_eq_some_iff.mp h
  exact ⟨port, keepAliveSecs, payloadFormat, theme, hport, hkeepAlive, hpayload, htheme,
    (Option.some.inj h).symm⟩

/-- A body with a known payload format and theme is accepted when its numbers are. -/
theorem SettingsBody.decode_isSome_iff {wire : ℤ → Option ℤ} {body : SettingsBody}
    {payloadFormat : PayloadFormat} {theme : UiTheme}
    (hpayload : PayloadFormat.named? body.payloadFormat = some payloadFormat)
    (htheme : UiTheme.named? body.theme = some theme) :
    (body.decode wire).isSome = true ↔
      (unsignedBelow UInt16.size (wire body.port)).isSome = true ∧
        (unsignedBelow UInt64.size (wire body.keepAliveSecs)).isSome = true := by
  rw [decode, hpayload, htheme]
  cases unsignedBelow UInt16.size (wire body.port) <;>
    cases unsignedBelow UInt64.size (wire body.keepAliveSecs) <;> simp

/-- What is entered for a number, or else what is stored, is accepted when what is entered
is. -/
theorem isSome_getD_iff {α β : Type} {parse : α → Option β} {entered : Option α} {stored : β} :
    ((entered.map parse).getD (some stored)).isSome = true ↔
      ∀ text, entered = some text → (parse text).isSome = true := by
  cases entered with
  | none => simp
  | some text => simp

/-- What the browser is shown is as storable as what is stored. -/
theorem MqttConfig.Storable.redacted {config : AppConfig} (h : config.mqtt.Storable) :
    (redactedConfig config).config.mqtt.Storable :=
  ⟨h.username, h.caCertPath, h.clientCertPath, h.clientKeyPath, h.keepAliveSecs⟩

/-- A text that may be missing is stored as it was entered, and else it stays. -/
theorem optional_sent {stringify : Json → String} {config : AppConfig} {stored : Option String}
    (h : Trimmed stored) (field : SettingsInput)
    (hfield : (renderSettings stringify config).value field = stored.getD "")
    (edits : List SettingsEdit) :
    nonEmpty (some ((edits.foldl SettingsForm.edit (renderSettings stringify config)).value
        field)) =
      ((lastOf (SettingsEdit.text field) edits).map fun text => nonEmpty (some text)).getD
        stored := by
  rw [SettingsForm.value_edits, hfield]
  exact nonEmpty_sent h _

/-- The request read from the body that is sent changes the configuration by what was
entered. -/
theorem SettingsForm.editedBy {stringify : Json → String} (hstringify : PrintsScalars stringify)
    {wire : ℤ → Option ℤ} (hwire : ExactIntegers wire) {config : AppConfig}
    (hstored : config.mqtt.Storable) (edits : List SettingsEdit) {req : SettingsReq}
    (hreq : (saveSettings (.afterEdits stringify config edits)).decode wire = some req) :
    AppConfig.EditedBy wire edits config (req.apply config) := by
  let shown := (redactedConfig config).config
  let form := SettingsForm.afterEdits stringify config edits
  obtain ⟨port, keepAliveSecs, payloadFormat, theme, hsentPort, hsentSecs, hsentPayload,
    hsentTheme, rfl⟩ := SettingsBody.decode_eq_some hreq
  have hvalue (field : SettingsInput) : form.value field = _ :=
    value_edits (renderSettings stringify shown) edits field
  have hchecked (box : SettingsCheck) : form.checked box = _ :=
    checked_edits (renderSettings stringify shown) edits box
  have hport : (unsignedBelow UInt16.size (wire (saveSettings form).port)).map UInt16.ofNat = _ :=
    port_sent hstringify hwire shown edits
  have hkeepAlive : (unsignedBelow UInt64.size (wire (saveSettings form).keepAliveSecs)).map
      (fun n => max (UInt64.ofNat n) 1) = _ :=
    keepAlive_sent hstringify hwire hstored.redacted edits
  have hpayload : PayloadFormat.named? (saveSettings form).payloadFormat = _ :=
    payload_sent stringify shown edits
  have htheme : UiTheme.named? (saveSettings form).theme = _ := theme_sent stringify shown edits
  have hpassword : (saveSettings form).password = _ :=
    sent_edits (renderSettings stringify shown) rfl edits (.inl rfl)
  have hpassphrase : (saveSettings form).clientKeyPassphrase = _ :=
    sent_edits (renderSettings stringify shown) rfl edits (.inr rfl)
  have husername : nonEmpty (some (form.value .username)) = _ :=
    optional_sent hstored.username .username rfl edits
  have hcaCert : nonEmpty (some (form.value .caCert)) = _ :=
    optional_sent hstored.caCertPath .caCert rfl edits
  have hclientCert : nonEmpty (some (form.value .clientCert)) = _ :=
    optional_sent hstored.clientCertPath .clientCert rfl edits
  have hclientKey : nonEmpty (some (form.value .clientKey)) = _ :=
    optional_sent hstored.clientKeyPath .clientKey rfl edits
  rw [hsentPort, Option.map_some] at hport
  rw [hsentSecs, Option.map_some] at hkeepAlive
  rw [hsentPayload] at hpayload
  rw [hsentTheme] at htheme
  exact {
    host := hvalue .host
    port := hport
    useTls := hchecked .tls
    clientId := hvalue .clientId
    topicPrefix := hvalue .topicPrefix
    healthTopic := hvalue .healthTopic
    username := by
      simp only [SettingsReq.apply, SettingsBody.request, saveSettings]
      exact husername
    password := (congrArg (applySecret _) hpassword).trans (applySecret_sent _ _)
    passwordEnv := rfl
    caCertPath := by
      simp only [SettingsReq.apply, SettingsBody.request, saveSettings]
      exact hcaCert
    clientCertPath := by
      simp only [SettingsReq.apply, SettingsBody.request, saveSettings]
      exact hclientCert
    clientKeyPath := by
      simp only [SettingsReq.apply, SettingsBody.request, saveSettings]
      exact hclientKey
    clientKeyPassphrase := (congrArg (applySecret _) hpassphrase).trans (applySecret_sent _ _)
    rememberSecrets := hchecked .remember
    retain := hchecked .retain
    keepAliveSecs := hkeepAlive
    payloadFormat := Option.some.inj hpayload
    deviceTopicPrefix := hvalue .deviceTopic
    autostart := hchecked .autostart
    protocol := rfl
    connections := rfl
    points := rfl
    discoverOnStart := hchecked .discoverOnStart
    theme := Option.some.inj htheme }

/-- The request that `saveSettings` sends is accepted unless a number was entered that is out of
range, and an accepted request changes the configuration exactly by what was entered. -/
theorem WebState.settings_round_trip (w : WebState Disk) {stringify : Json → String}
    (hstringify : PrintsScalars stringify) {wire : ℤ → Option ℤ} (hwire : ExactIntegers wire)
    (s : Server Disk) (hstored : s.shared.config.mqtt.Storable) (edits : List SettingsEdit) :
    (((saveSettings (.afterEdits stringify s.shared.config edits)).decode wire).isSome = true ↔
      (∀ text, lastOf (SettingsEdit.text .port) edits = some text →
        (portOf wire text).isSome = true) ∧
      ∀ text, lastOf (SettingsEdit.text .keepAlive) edits = some text →
        (keepAliveOf wire text).isSome = true) ∧
    ∀ req, (saveSettings (.afterEdits stringify s.shared.config edits)).decode wire = some req →
      AppConfig.EditedBy wire edits s.shared.config
        (w.handle (.putSettings req) s).2.shared.config := by
  let shown := (redactedConfig s.shared.config).config
  let form := SettingsForm.afterEdits stringify s.shared.config edits
  have hport : (unsignedBelow UInt16.size (wire (saveSettings form).port)).map UInt16.ofNat = _ :=
    port_sent hstringify hwire shown edits
  have hkeepAlive : (unsignedBelow UInt64.size (wire (saveSettings form).keepAliveSecs)).map
      (fun n => max (UInt64.ofNat n) 1) = _ :=
    keepAlive_sent hstringify hwire hstored.redacted edits
  have hpayload : PayloadFormat.named? (saveSettings form).payloadFormat = _ :=
    payload_sent stringify shown edits
  have htheme : UiTheme.named? (saveSettings form).theme = _ := theme_sent stringify shown edits
  constructor
  · rw [SettingsBody.decode_isSome_iff hpayload htheme, ← isSome_getD_iff, ← isSome_getD_iff,
      ← hport, ← hkeepAlive, Option.isSome_map, Option.isSome_map]
  · intro req hreq
    have hedit : Request.edit w (.putSettings req) s.shared =
        some { s.shared with config := req.apply s.shared.config } := rfl
    rw [← (w.handle_edit_shared hedit).2.config]
    exact SettingsForm.editedBy hstringify hwire hstored edits hreq

/-- The in-memory daemon with a broker password. -/
def passwordServer : Server MemoryDisk :=
  memoryState.new
    { plainConfig [plainPoint "a"] with mqtt := { plainMqtt with password := some "hunter2" } }
    "Loaded saved configuration" ⟨none, true⟩

/-- The host is edited, and the password that the browser was never sent stays. -/
theorem host_edit_keeps_password : ∃ req,
    (saveSettings (.afterEdits (Json.render fun _ => "") passwordServer.shared.config
      [.input .host "broker"])).decode some = some req ∧
    (memoryState.handle (.putSettings req) passwordServer).2.shared.config.mqtt.host = "broker" ∧
    (memoryState.handle (.putSettings req) passwordServer).2.shared.config.mqtt.password =
      some "hunter2" := by
  have hmissing : Trimmed none := by
    intro text htext
    cases htext
  have hround := memoryState.settings_round_trip (printsScalars_render fun _ => "")
    (fun _ _ => rfl) passwordServer ⟨hmissing, hmissing, hmissing, hmissing, by decide⟩
    [.input .host "broker"]
  have hunentered : ∀ field, field ≠ .host →
      lastOf (SettingsEdit.text field) [.input .host "broker"] = none := by
    intro field hfield
    simp [lastOf, SettingsEdit.text, Ne.symm hfield]
  have hvacuous {α : Type} (parse : String → Option α) {field : SettingsInput}
      (hfield : field ≠ .host) (text : String)
      (htext : lastOf (SettingsEdit.text field) [.input .host "broker"] = some text) :
      (parse text).isSome = true := by
    rw [hunentered field hfield] at htext
    cases htext
  have haccepted := hround.1.mpr
    ⟨hvacuous (portOf some) (by decide), hvacuous (keepAliveOf some) (by decide)⟩
  obtain ⟨req, hreq⟩ := Option.isSome_iff_exists.mp haccepted
  have hedited := hround.2 req hreq
  refine ⟨req, hreq, hedited.host, hedited.password.trans ?_⟩
  rw [hunentered .password (by decide)]
  rfl

end Republisher
