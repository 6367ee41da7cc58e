import Mathlib.Logic.Function.Basic
import Republisher.Announce
import Republisher.Instance
import Republisher.Transition

/-!
# The browsers' connection forms

Each browser keeps the text of the connection fields in `connValues`, an edit starts
`connSaveTimer` anew, and when the timer fires the whole map is sent to the daemon. The
request does not say for which protocol it was composed. This file puts any number of
browsers next to the daemon, with every order of edits, timers, requests and deltas, and
says what happens to the stored connection of each protocol.
-/

namespace Republisher

variable {Disk : Type}

/-- A `PUT /api/connection` of a browser which the daemon has not handled yet. Only the
values are sent; the other fields say where they come from. -/
structure ConnectionPut where
  values : FieldValues
  /-- The protocol of the configuration the browser had. -/
  protocol : String
  /-- How many payloads the daemon had emitted when it sent that configuration. -/
  shown : ℕ

/-- A browser, its timer and its requests. -/
structure Client where
  browser : Browser
  /-- How many payloads of the daemon it has read or missed. -/
  seen : ℕ
  /-- `connSaveTimer` is running. -/
  timer : Bool
  /-- Sent and not yet handled, oldest first. -/
  inFlight : List ConnectionPut
  /-- How many payloads the daemon had emitted when it sent the configuration shown. -/
  shown : ℕ
  /-- The text the user has last entered in each field. -/
  entered : FieldValues

namespace Client

/-- A page that has just been opened. -/
def initial : Client :=
  { browser := .initial
    seen := 0
    timer := false
    inFlight := []
    shown := 0
    entered := ∅ }

/-- The protocol of the configuration shown. -/
def protocol (c : Client) : String := (c.browser.config.map AppConfig.protocol).getD ""

/-- The snapshot arrives, taken when the daemon had emitted `emitted` payloads. -/
def hydrate (stringify : Json → String) (snapshot : Snapshot) (emitted : ℕ) (c : Client) :
    Client :=
  { c with browser := c.browser.hydrate stringify snapshot, seen := emitted, shown := emitted }

/-- The next payload arrives. -/
def handleDelta (stringify : Json → String) (delta : Delta) (c : Client) : Client :=
  { c with
    browser := c.browser.handleDelta stringify delta
    seen := c.seen + 1
    shown := match delta with
      | .config _ => c.seen + 1
      | _ => c.shown }

/-- The user edits a field: `onConnChange` with `persistConnection`. -/
def edit (key value : String) (c : Client) : Client :=
  { c with
    browser := c.browser.onConnChange key value
    timer := true
    entered := c.entered.insert key value }

/-- The request that `connSaveTimer` sends. -/
def put (c : Client) : ConnectionPut := ⟨c.browser.connValues, c.protocol, c.shown⟩

/-- `connSaveTimer` fires. -/
def fire (c : Client) : Client :=
  { c with timer := false, inFlight := c.inFlight ++ [c.put] }

/-- The daemon handles the request at a position. -/
def handled (j : ℕ) (c : Client) : Client := { c with inFlight := c.inFlight.eraseIdx j }

end Client

/-- The daemon and its browsers. -/
structure Network (Disk : Type) where
  server : Server Disk
  clients : ℕ → Client
  /-- How many payloads the daemon had emitted when it had sent the configuration of the last
  `set_protocol`. -/
  switched : ℕ

/-- The next event among the daemon and its browsers. -/
inductive Occurrence
  | act (a : Action)
  | connect (k : ℕ)
  | deliver (k : ℕ)
  | miss (k : ℕ)
  | interfaces (k : ℕ) (interfaces : List NetworkInterface)
  | edit (k : ℕ) (key value : String)
  | fire (k : ℕ)
  | put (k j : ℕ)

namespace Network

/-- The active protocol. -/
def protocol (n : Network Disk) : String := n.server.shared.config.protocol

/-- How many payloads the daemon has emitted. -/
def emitted (n : Network Disk) : ℕ := n.server.events.length

/-- The stored connection of a protocol. -/
def stored (w : WebState Disk) (n : Network Disk) (protocol : String) : Addressing :=
  w.core.connection protocol n.server.shared.config.connections

/-- Change one browser. -/
def setClient (n : Network Disk) (k : ℕ) (c : Client) : Network Disk :=
  { n with clients := Function.update n.clients k c }

end Network

/-- The action is a `set_protocol` to a protocol there is. -/
def Action.switches (w : WebState Disk) : Action → Bool
  | .request (.setProtocol id) => (w.caps id).isSome
  | _ => false

namespace WebState

/-- The daemon runs one critical section. -/
def actIn (w : WebState Disk) (n : Network Disk) (a : Action) : Network Disk :=
  { n with
    server := w.act n.server a
    -- the `config` payload is the first that `set_protocol` emits
    switched := if a.switches w then n.emitted + 1 else n.switched }

/-- One event. The requests in flight reach the daemon in any order. -/
def exchange (w : WebState Disk) (stringify : Json → String) (n : Network Disk) :
    Occurrence → Option (Network Disk)
  | .act a => some (w.actIn n a)
  | .connect k =>
      some (n.setClient k ((n.clients k).hydrate stringify (w.snapshotJson n.server.shared)
        n.emitted))
  | .deliver k =>
      match n.server.events[(n.clients k).seen]? with
      | some delta =>
          if (n.clients k).browser.status.isSome then
            some (n.setClient k ((n.clients k).handleDelta stringify delta))
          else none
      | none => none
  | .miss k =>
      if (n.clients k).seen < n.emitted then
        some (n.setClient k { n.clients k with seen := (n.clients k).seen + 1 })
      else none
  | .interfaces k interfaces =>
      if (n.clients k).browser.status.isSome then
        some (n.setClient k
          { n.clients k with browser := (n.clients k).browser.loadInterfaces interfaces })
      else none
  | .edit k key value =>
      -- without a configuration `renderConnect` shows no field
      if (n.clients k).browser.config.isSome then
        some (n.setClient k ((n.clients k).edit key value))
      else none
  | .fire k =>
      if (n.clients k).timer then some (n.setClient k (n.clients k).fire) else none
  | .put k j =>
      match (n.clients k).inFlight[j]? with
      | some put =>
          some (w.actIn (n.setClient k ((n.clients k).handled j))
            (.request (.setConnection put.values)))
      | none => none

/-- The daemon at boot, before any browser has opened its page. -/
def firstNetwork (w : WebState Disk) (config : AppConfig) (bootStatus : String) (disk : Disk) :
    Network Disk :=
  ⟨w.new config bootStatus disk, fun _ => .initial, 0⟩

end WebState

/-- What one event does, with the guards it has passed. -/
inductive Exchanged (w : WebState Disk) (stringify : Json → String) (n : Network Disk) :
    Occurrence → Network Disk → Prop
  | act {a} : Exchanged w stringify n (.act a) (w.actIn n a)
  | connect {k} : Exchanged w stringify n (.connect k)
      (n.setClient k ((n.clients k).hydrate stringify (w.snapshotJson n.server.shared) n.emitted))
  | deliver {k delta} : n.server.events[(n.clients k).seen]? = some delta →
      Exchanged w stringify n (.deliver k)
        (n.setClient k ((n.clients k).handleDelta stringify delta))
  | miss {k} : Exchanged w stringify n (.miss k)
      (n.setClient k { n.clients k with seen := (n.clients k).seen + 1 })
  | interfaces {k interfaces} : Exchanged w stringify n (.interfaces k interfaces)
      (n.setClient k
        { n.clients k with browser := (n.clients k).browser.loadInterfaces interfaces })
  | edit {k key value} : (n.clients k).browser.config.isSome = true →
      Exchanged w stringify n (.edit k key value)
        (n.setClient k ((n.clients k).edit key value))
  | fire {k} : (n.clients k).timer = true →
      Exchanged w stringify n (.fire k) (n.setClient k (n.clients k).fire)
  | put {k j put} : (n.clients k).inFlight[j]? = some put →
      Exchanged w stringify n (.put k j)
        (w.actIn (n.setClient k ((n.clients k).handled j))
          (.request (.setConnection put.values)))

/-- Every event does one of these. -/
theorem WebState.exchange_cases {w : WebState Disk} {stringify : Json → String}
    {n m : Network Disk} {o : Occurrence} (h : w.exchange stringify n o = some m) :
    Exchanged w stringify n o m := by
  cases o with
  | act a =>
    obtain rfl := Option.some.inj h
    exact .act
  | connect k =>
    obtain rfl := Option.some.inj h
    exact .connect
  | deliver k =>
    simp only [exchange] at h
    split at h
    · rename_i delta hdelta
      obtain ⟨-, h⟩ := Option.ite_none_right_eq_some.mp h
      obtain rfl := Option.some.inj h
      exact .deliver hdelta
    · cases h
  | miss k =>
    obtain ⟨-, h⟩ := Option.ite_none_right_eq_some.mp h
    obtain rfl := Option.some.inj h
    exact .miss
  | interfaces k interfaces =>
    obtain ⟨-, h⟩ := Option.ite_none_right_eq_some.mp h
    obtain rfl := Option.some.inj h
    exact .interfaces
  | edit k key value =>
    obtain ⟨hconfig, h⟩ := Option.ite_none_right_eq_some.mp h
    obtain rfl := Option.some.inj h
    exact .edit hconfig
  | fire k =>
    obtain ⟨htimer, h⟩ := Option.ite_none_right_eq_some.mp h
    obtain rfl := Option.some.inj h
    exact .fire htimer
  | put k j =>
    simp only [exchange] at h
    split at h
    · rename_i put hput
      obtain rfl := Option.some.inj h
      exact .put hput
    · cases h

/-! ## The configuration -/

/-- What a critical section does to the active protocol and to the stored connections. -/
theorem Tells.config {w : WebState Disk} {s : Server Disk} {a : Action} {shared : Shared}
    {ds : List Delta} (h : Tells w s a shared ds) :
    (a.switches w = false → shared.config.protocol = s.shared.config.protocol) ∧
      ((∀ values, a ≠ .request (.setConnection values)) →
        shared.config.connections = s.shared.config.connections) := by
  cases h with
  | protocol hcaps =>
    refine ⟨fun hnot => ?_, fun _ => rfl⟩
    rw [Action.switches, hcaps] at hnot
    cases hnot
  | saved hedit | rejected hedit =>
    refine ⟨fun _ => (Request.edit_sameButConfig hedit).protocol, fun ha => ?_⟩
    exact Request.edit_connections hedit fun values hr => ha values (congrArg _ hr)
  | bulkTagImport hedited =>
    subst hedited
    exact ⟨fun _ => rfl, fun _ => rfl⟩
  | @samples samples batch hbatch =>
    obtain ⟨statuses, recentSamples, h⟩ := samplesBatch_shared w.core s.shared samples
    rw [hbatch, h]
    exact ⟨fun _ => rfl, fun _ => rfl⟩
  | @failures failures batch hbatch =>
    obtain ⟨statuses, h⟩ := failuresBatch_shared w.core s.shared failures
    rw [hbatch, h]
    exact ⟨fun _ => rfl, fun _ => rfl⟩
  | _ => exact ⟨fun _ => rfl, fun _ => rfl⟩

/-- Every `config` payload is the configuration after the critical section. -/
theorem Tells.config_mem {w : WebState Disk} {s : Server Disk} {a : Action} {shared : Shared}
    {ds : List Delta} (h : Tells w s a shared ds) {config : RedactedConfig}
    (hconfig : .config config ∈ ds) : config = redactedConfig shared.config := by
  cases h with
  | protocol hcaps => simpa using hconfig
  | @saved r _ hedit =>
    rcases r.announces_cases w shared with h | h
    · simpa [h] using hconfig
    · simp [h] at hconfig
  | _ => simp at hconfig

namespace WebState

/-- What a critical section does to the active protocol. -/
theorem act_protocol (w : WebState Disk) {a : Action} (ha : a.switches w = false)
    (s : Server Disk) :
    (w.act s a).shared.config.protocol = s.shared.config.protocol := by
  obtain ⟨shared, ds, htells, hsaid⟩ := w.act_told a s
  rw [← hsaid.shared.config]
  exact htells.config.1 ha

/-- Only a `PUT` changes the stored connections. -/
theorem act_connections (w : WebState Disk) {a : Action}
    (ha : ∀ values, a ≠ .request (.setConnection values)) (s : Server Disk) :
    (w.act s a).shared.config.connections = s.shared.config.connections := by
  obtain ⟨shared, ds, htells, hsaid⟩ := w.act_told a s
  rw [← hsaid.shared.config]
  exact htells.config.2 ha

/-- What was emitted stays, and a `config` payload that is added names the protocol active
then. -/
theorem act_configs (w : WebState Disk) (a : Action) (s : Server Disk) :
    ∃ said, (w.act s a).events = s.events ++ said ∧ ∀ config, .config config ∈ said →
      config.config.protocol = (w.act s a).shared.config.protocol := by
  obtain ⟨shared, ds, htells, hsaid⟩ := w.act_told a s
  obtain ⟨said, hevents, hds, -⟩ := hsaid.events
  refine ⟨said, hevents, fun config hconfig => ?_⟩
  have hmem : Delta.config config ∈ ds := by
    rw [← hds]
    exact List.mem_filter.mpr ⟨hconfig, rfl⟩
  rw [htells.config_mem hmem, ← hsaid.shared.config]
  rfl

/-- A `PUT` under a protocol that has fields stores what it carries, saved or not. -/
theorem act_setConnection (w : WebState Disk) (values : FieldValues) {s : Server Disk}
    {caps : Capabilities} (hcaps : w.caps s.shared.config.protocol = some caps) :
    (w.act s (.request (.setConnection values))).shared.config =
      s.shared.config.setConnection w.core (buildAddressing caps.connectionFields values) := by
  have hedit : Request.edit w (.setConnection values) s.shared = some { s.shared with
      config := s.shared.config.setConnection w.core
        (buildAddressing caps.connectionFields values) } := by
    simp only [Request.edit, hcaps, Option.map_some]
  exact (w.handle_edit_shared hedit).2.config.symm

/-- Under any other it is refused. -/
theorem act_setConnection_refused (w : WebState Disk) (values : FieldValues) {s : Server Disk}
    (hcaps : w.caps s.shared.config.protocol = none) :
    w.act s (.request (.setConnection values)) = s := by
  have hedit : Request.edit w (.setConnection values) s.shared = none := by
    simp only [Request.edit, hcaps, Option.map_none]
  obtain ⟨error, h⟩ := w.handle_refused (r := .setConnection values) trivial hedit
  simp only [act, h]

end WebState

/-! ## Whose values are stored -/

/-- What the daemon is promised of `connection` and `connection_mut`: each protocol has a stored
connection of its own. -/
structure LawfulConnection (core : Core Disk) : Prop where
  connection_setConnection : ∀ (p q : String) (connections : StringMap Addressing)
    (addressing : Addressing),
    core.connection p (core.setConnection q connections addressing) =
      if p = q then addressing else core.connection p connections

namespace Network

/-- What was known when the daemon had emitted `shown` payloads: it cannot be from the future,
and the protocol is the active one unless it has been switched since. -/
def Fits (n : Network Disk) (shown : ℕ) (protocol : String) : Prop :=
  shown ≤ n.emitted ∧ (n.switched ≤ shown → protocol = n.protocol)

/-- What a browser shows, and what it has sent, was known at some time. -/
structure Holds (n : Network Disk) (c : Client) : Prop where
  shown : ∀ config, c.browser.config = some config → n.Fits c.shown config.protocol
  timer : c.timer = true → c.browser.config.isSome = true
  inFlight : ∀ put ∈ c.inFlight, n.Fits put.shown put.protocol

/-- Every configuration emitted, every one shown and every request in flight names the active
protocol, unless it has been switched since the daemon sent that configuration. -/
structure Current (n : Network Disk) : Prop where
  told : ∀ (i : ℕ) (config : RedactedConfig), n.server.events[i]? = some (.config config) →
    n.Fits (i + 1) config.config.protocol
  clients : ∀ k, n.Holds (n.clients k)

/-- A browser may change to one that holds. -/
theorem Current.setClient {n : Network Disk} (h : n.Current) {k : ℕ} {c : Client}
    (hc : n.Holds c) : (n.setClient k c).Current := by
  refine ⟨h.told, fun i => ?_⟩
  by_cases hik : i = k
  · subst hik
    have hself : (n.setClient i c).clients i = c := Function.update_self ..
    rw [hself]
    exact ⟨hc.shown, hc.timer, hc.inFlight⟩
  · have hother : (n.setClient k c).clients i = n.clients i := Function.update_of_ne hik ..
    rw [hother]
    exact ⟨(h.clients i).shown, (h.clients i).timer, (h.clients i).inFlight⟩

/-- A critical section emits and forgets nothing. -/
theorem emitted_actIn (w : WebState Disk) (n : Network Disk) (a : Action) :
    n.emitted ≤ (w.actIn n a).emitted := by
  obtain ⟨said, hevents, -⟩ := w.act_configs a n.server
  unfold emitted
  rw [show (w.actIn n a).server.events = _ from hevents, List.length_append]
  omega

/-- What fits still fits after a critical section: if it switches the protocol then everything
known before is out of date. -/
theorem Fits.actIn {n : Network Disk} {shown : ℕ} {protocol : String} (h : n.Fits shown protocol)
    (w : WebState Disk) (a : Action) : (w.actIn n a).Fits shown protocol := by
  obtain ⟨hshown, hprotocol⟩ := h
  refine ⟨hshown.trans (emitted_actIn w n a), fun hswitched => ?_⟩
  cases hswitch : a.switches w with
  | true =>
    have hnew : (w.actIn n a).switched = n.emitted + 1 := if_pos hswitch
    omega
  | false =>
    have hold : (w.actIn n a).switched = n.switched := if_neg (by simp [hswitch])
    rw [hprotocol (hold ▸ hswitched)]
    exact (w.act_protocol hswitch n.server).symm

/-- What a critical section emits names the protocol active then. -/
theorem Current.actIn {n : Network Disk} (h : n.Current) (w : WebState Disk) (a : Action) :
    (w.actIn n a).Current := by
  refine ⟨fun i config hconfig => ?_, fun k => ?_⟩
  · obtain ⟨said, hevents, hsaid⟩ := w.act_configs a n.server
    have hserver : (w.actIn n a).server.events = n.server.events ++ said := hevents
    rw [hserver] at hconfig
    by_cases hi : i < n.server.events.length
    · rw [List.getElem?_append_left hi] at hconfig
      exact (h.told i config hconfig).actIn w a
    · rw [List.getElem?_append_right (by omega)] at hconfig
      have hlt := (List.getElem?_eq_some_iff.mp hconfig).1
      refine ⟨?_, fun _ => hsaid config (List.mem_of_getElem? hconfig)⟩
      unfold emitted
      rw [hserver, List.length_append]
      omega
  · obtain ⟨hshown, htimer, hinFlight⟩ := h.clients k
    exact ⟨fun config hconfig => (hshown config hconfig).actIn w a, htimer,
      fun put hput => (hinFlight put hput).actIn w a⟩

/-- What the daemon sends now fits. -/
theorem fits_now {n : Network Disk} : n.Fits n.emitted n.protocol := ⟨le_rfl, fun _ => rfl⟩

end Network

/-- Every event keeps what is known current. -/
theorem Exchanged.current {w : WebState Disk} {stringify : Json → String} {n m : Network Disk}
    {o : Occurrence} (h : Exchanged w stringify n o m) (hn : n.Current) : m.Current := by
  cases h with
  | act => exact hn.actIn w _
  | @connect k =>
    refine hn.setClient ⟨fun config hconfig => ?_, fun _ => rfl, (hn.clients k).inFlight⟩
    obtain rfl := Option.some.inj hconfig
    exact Network.fits_now
  | @deliver k delta hdelta =>
    obtain ⟨hshown, htimer, hinFlight⟩ := hn.clients k
    have hconfig := (n.clients k).browser.handleDelta_config stringify delta
    refine hn.setClient ⟨fun config hshows => ?_, fun htime => ?_, hinFlight⟩
    · have hshows' := hconfig.symm.trans hshows
      cases delta with
      | config told =>
        obtain rfl := Option.some.inj hshows'
        exact hn.told _ told hdelta
      | _ => exact hshown config hshows'
    · refine (congrArg Option.isSome hconfig).trans ?_
      cases delta with
      | config told => rfl
      | _ => exact htimer htime
  | @miss k =>
    obtain ⟨hshown, htimer, hinFlight⟩ := hn.clients k
    exact hn.setClient ⟨hshown, htimer, hinFlight⟩
  | @interfaces k interfaces =>
    obtain ⟨hshown, htimer, hinFlight⟩ := hn.clients k
    have hconfig := (n.clients k).browser.loadInterfaces_config interfaces
    refine hn.setClient ⟨fun config hshows => ?_, fun htime => ?_, hinFlight⟩
    · exact hshown config (hconfig.symm.trans hshows)
    · exact (congrArg Option.isSome hconfig).trans (htimer htime)
  | @edit k key value hconfig =>
    obtain ⟨hshown, -, hinFlight⟩ := hn.clients k
    exact hn.setClient ⟨hshown, fun _ => hconfig, hinFlight⟩
  | @fire k htime =>
    obtain ⟨hshown, htimer, hinFlight⟩ := hn.clients k
    refine hn.setClient ⟨hshown, fun hnone => by simp [Client.fire] at hnone, fun put hput => ?_⟩
    rcases List.mem_append.mp hput with hput | hput
    · exact hinFlight put hput
    · obtain rfl := List.mem_singleton.mp hput
      obtain ⟨config, hconfig⟩ := Option.isSome_iff_exists.mp (htimer htime)
      have hprotocol : (n.clients k).protocol = config.protocol := by
        simp only [Client.protocol, hconfig, Option.map_some, Option.getD_some]
      simp only [Client.put, hprotocol]
      exact hshown config hconfig
  | @put k j put hput =>
    obtain ⟨hshown, htimer, hinFlight⟩ := hn.clients k
    have hrest : n.Holds ((n.clients k).handled j) :=
      ⟨hshown, htimer, fun put hput => hinFlight put (List.mem_of_mem_eraseIdx hput)⟩
    exact (hn.setClient hrest).actIn w _

/-- Nothing is known at boot. -/
theorem WebState.firstNetwork_current (w : WebState Disk) (config : AppConfig)
    (bootStatus : String) (disk : Disk) :
    (w.firstNetwork config bootStatus disk).Current := by
  refine ⟨fun i told htold => ?_, fun k => ⟨fun shown hshown => ?_, fun htimer => ?_, ?_⟩⟩
  · cases htold
  · cases hshown
  · cases htimer
  · exact fun put hput => absurd hput List.not_mem_nil

namespace Network

/-- The stored connection of the active protocol is replaced by what its fields make of the
values, and no other is touched. -/
def Stores (w : WebState Disk) (n m : Network Disk) (values : FieldValues) : Prop :=
  ∃ caps, w.caps n.protocol = some caps ∧ ∀ protocol, m.stored w protocol =
    if protocol = n.protocol then buildAddressing caps.connectionFields values
    else n.stored w protocol

/-- What an event does to the stored connections: nothing, or it handles a `PUT`. What a browser
sent was composed for the protocol whose connection it replaces, unless the protocol has been
switched since the daemon sent the browser its configuration. -/
inductive Rewrites (w : WebState Disk) (n m : Network Disk) : Occurrence → Prop
  | kept {o} : (∀ protocol, m.stored w protocol = n.stored w protocol) → Rewrites w n m o
  | act {values} : n.Stores w m values → Rewrites w n m (.act (.request (.setConnection values)))
  | put {k j put} : (n.clients k).inFlight[j]? = some put → n.Stores w m put.values →
      (n.switched ≤ put.shown → put.protocol = n.protocol) → Rewrites w n m (.put k j)

end Network

namespace WebState

variable {w : WebState Disk}

/-- A `PUT` replaces the stored connection of the active protocol. -/
theorem actIn_setConnection (hcore : LawfulConnection w.core) {n : Network Disk}
    {caps : Capabilities} (hcaps : w.caps n.protocol = some caps) (values : FieldValues) :
    n.Stores w (w.actIn n (.request (.setConnection values))) values := by
  refine ⟨caps, hcaps, fun protocol => ?_⟩
  have hconfig : (w.actIn n (.request (.setConnection values))).server.shared.config = _ :=
    w.act_setConnection values hcaps
  rw [Network.stored, hconfig]
  exact hcore.connection_setConnection ..

/-- Without a protocol it is refused. -/
theorem actIn_setConnection_refused {n : Network Disk} (hcaps : w.caps n.protocol = none)
    (values : FieldValues) (protocol : String) :
    (w.actIn n (.request (.setConnection values))).stored w protocol = n.stored w protocol := by
  have hserver : (w.actIn n (.request (.setConnection values))).server = n.server :=
    w.act_setConnection_refused values hcaps
  rw [Network.stored, hserver]
  rfl

/-- Other critical sections touch no stored connection. -/
theorem actIn_stored {a : Action} (ha : ∀ values, a ≠ .request (.setConnection values))
    (n : Network Disk) (protocol : String) :
    (w.actIn n a).stored w protocol = n.stored w protocol := by
  have hconnections : (w.actIn n a).server.shared.config.connections = _ :=
    w.act_connections ha n.server
  rw [Network.stored, hconnections]
  rfl

/-- What each event does to the stored connections. -/
theorem exchanged_rewrites (hcore : LawfulConnection w.core) {stringify : Json → String}
    {n m : Network Disk} {o : Occurrence} (h : Exchanged w stringify n o m) (hn : n.Current) :
    n.Rewrites w m o := by
  cases h with
  | @act a =>
    by_cases hput : ∃ values, a = .request (.setConnection values)
    · obtain ⟨values, rfl⟩ := hput
      cases hcaps : w.caps n.protocol with
      | none => exact .kept (actIn_setConnection_refused hcaps values)
      | some caps => exact .act (actIn_setConnection hcore hcaps values)
    · exact .kept (actIn_stored (fun values ha => hput ⟨values, ha⟩) n)
  | @put k j put hput =>
    have hknown := (hn.clients k).inFlight put (List.mem_of_getElem? hput)
    cases hcaps : w.caps n.protocol with
    | none => exact .kept (actIn_setConnection_refused (n := n.setClient k _) hcaps put.values)
    | some caps =>
      exact .put hput (actIn_setConnection (n := n.setClient k _) hcore hcaps put.values)
        hknown.2
  | _ => exact .kept fun _ => rfl

/-- In every run from boot, a stored connection is replaced only when a `PUT` is handled while
its protocol is active. -/
theorem connections_rewritten (hcore : LawfulConnection w.core) (stringify : Json → String)
    (config : AppConfig) (bootStatus : String) (disk : Disk) (occurrences : List Occurrence) :
    Transition.Along (w.exchange stringify) (fun n o m => n.Rewrites w m o)
      (w.firstNetwork config bootStatus disk) occurrences := by
  have hcurrent : Transition.Throughout (w.exchange stringify) Network.Current
      (w.firstNetwork config bootStatus disk) occurrences :=
    Transition.throughout_of_invariant (fun _ _ _ hn hstep => (exchange_cases hstep).current hn)
      (w.firstNetwork_current config bootStatus disk)
  exact hcurrent.along fun _ _ _ hn hstep => exchanged_rewrites hcore (exchange_cases hstep) hn

end WebState

/-- The in-memory daemon keeps a connection for each protocol. -/
theorem memoryCore_lawfulConnection : LawfulConnection memoryCore := by
  refine ⟨fun p q connections addressing => ?_⟩
  simp only [memoryCore, Std.ExtTreeMap.get?_eq_getElem?, Std.ExtTreeMap.getElem?_insert,
    Std.LawfulEqCmp.compare_eq_iff_eq]
  by_cases hpq : p = q
  · rw [if_pos hpq.symm, if_pos hpq, Option.getD_some]
  · rw [if_neg (Ne.symm hpq), if_neg hpq]

/-- The text of the field `host` and the connection that stores it. -/
def plainConnection (host : String) : Addressing :=
  buildAddressing (plainProtocol "modbus").connectionFields
    ((∅ : FieldValues).insert "host" host)

/-- The in-memory daemon with the protocol `bacnet` active and a connection for `modbus`. -/
def twoProtocols : Network MemoryDisk :=
  memoryState.firstNetwork
    { plainConfig [] with
      connections := (∅ : StringMap Addressing).insert "modbus" (plainConnection "10.0.0.2") }
    "Loaded saved configuration" ⟨none, true⟩

/-- A browser edits the host of `bacnet`; while its request is on the way the protocol is
switched to `modbus`. -/
def editThenSwitch : List Occurrence :=
  [.connect 0, .edit 0 "host" "10.0.0.1", .fire 0, .act (.request (.setProtocol "modbus"))]

/-- The daemon before the request arrives. -/
def switchedMeanwhile : Network MemoryDisk :=
  (Transition.run (memoryState.exchange plainStringify) twoProtocols editThenSwitch).get
    (by decide +kernel)

/-- The daemon after the request. -/
def latePut : Network MemoryDisk :=
  (memoryState.exchange plainStringify switchedMeanwhile (.put 0 0)).get (by decide +kernel)

/-- What happens to the stored connections in that run. -/
theorem latePut_rewrites :
    Transition.Along (memoryState.exchange plainStringify)
      (fun n o m => n.Rewrites memoryState m o) twoProtocols (editThenSwitch ++ [.put 0 0]) :=
  WebState.connections_rewritten memoryCore_lawfulConnection plainStringify _ _ _ _

/-- A browser's `PUT` leaves the connections of other protocols than its own alone. -/
def Network.KeepsOthers (w : WebState Disk) (n m : Network Disk) (o : Occurrence) : Prop :=
  ∀ k j put, o = .put k j → (n.clients k).inFlight[j]? = some put →
    ∀ protocol ≠ put.protocol, m.stored w protocol = n.stored w protocol

/-- The request composed for `bacnet` replaces the connection of `modbus`. -/
theorem latePut_overwrites :
    ¬ Transition.Along (memoryState.exchange plainStringify)
      (fun n o m => n.KeepsOthers memoryState m o) twoProtocols
      (editThenSwitch ++ [.put 0 0]) := by
  intro halong
  have hrun : Transition.run (memoryState.exchange plainStringify) twoProtocols editThenSwitch =
      some switchedMeanwhile := (Option.some_get (by decide +kernel)).symm
  have hstep : memoryState.exchange plainStringify switchedMeanwhile (.put 0 0) = some latePut :=
    (Option.some_get (by decide +kernel)).symm
  have hkeeps := ((halong.of_append hrun).2 latePut hstep).1
  obtain ⟨put, hput⟩ : ∃ put, (switchedMeanwhile.clients 0).inFlight[0]? = some put :=
    Option.isSome_iff_exists.mp (by decide +kernel)
  have hbacnet : (switchedMeanwhile.clients 0).inFlight[0]?.map ConnectionPut.protocol =
      some "bacnet" := by decide +kernel
  have hother : "modbus" ≠ put.protocol := by
    rw [hput, Option.map_some, Option.some.injEq] at hbacnet
    rw [hbacnet]
    decide
  have hchanged : latePut.stored memoryState "modbus" ≠
      switchedMeanwhile.stored memoryState "modbus" := by decide +kernel
  exact hchanged (hkeeps 0 0 put rfl hput "modbus" hother)

end Republisher
