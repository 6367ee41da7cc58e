import Republisher.Api

/-!
# What a request changes

This file says once, for every handler, what it may change: the state behind
the lock up to its log, the threads it starts, the stop flags and the disk. The
safety arguments use these statements and do not look at the handlers again.
-/

namespace Republisher

variable {Disk : Type}

/-- Two shared states that differ at most in the log ring and the status line. -/
structure Shared.SameUpToLog (a b : Shared) : Prop where
  config : a.config = b.config
  devices : a.devices = b.devices
  browsed : a.browsed = b.browsed
  scanProgress : a.scanProgress = b.scanProgress
  statuses : a.statuses = b.statuses
  recentSamples : a.recentSamples = b.recentSamples
  lifecycle : a.lifecycle = b.lifecycle
  stopFlag : a.stopFlag = b.stopFlag
  publishedTotal : a.publishedTotal = b.publishedTotal
  ackedTotal : a.ackedTotal = b.ackedTotal
  lastError : a.lastError = b.lastError

/-- A state agrees with itself. -/
theorem Shared.SameUpToLog.refl (a : Shared) : a.SameUpToLog a := by
  constructor <;> rfl

/-- Agreement up to the log is transitive. -/
theorem Shared.SameUpToLog.trans {a b c : Shared} (hab : a.SameUpToLog b)
    (hbc : b.SameUpToLog c) : a.SameUpToLog c where
  config := hab.config.trans hbc.config
  devices := hab.devices.trans hbc.devices
  browsed := hab.browsed.trans hbc.browsed
  scanProgress := hab.scanProgress.trans hbc.scanProgress
  statuses := hab.statuses.trans hbc.statuses
  recentSamples := hab.recentSamples.trans hbc.recentSamples
  lifecycle := hab.lifecycle.trans hbc.lifecycle
  stopFlag := hab.stopFlag.trans hbc.stopFlag
  publishedTotal := hab.publishedTotal.trans hbc.publishedTotal
  ackedTotal := hab.ackedTotal.trans hbc.ackedTotal
  lastError := hab.lastError.trans hbc.lastError

namespace Server

/-! ## The elementary changes -/

@[simp] theorem emit_shared (delta : Delta) (s : Server Disk) :
    (s.emit delta).shared = s.shared := rfl

@[simp] theorem emit_disk (delta : Delta) (s : Server Disk) : (s.emit delta).disk = s.disk := rfl

@[simp] theorem emit_events (delta : Delta) (s : Server Disk) :
    (s.emit delta).events = s.events ++ [delta] := rfl

@[simp] theorem emit_threads (delta : Delta) (s : Server Disk) :
    (s.emit delta).threads = s.threads := rfl

@[simp] theorem emit_stopFlags (delta : Delta) (s : Server Disk) :
    (s.emit delta).stopFlags = s.stopFlags := rfl

@[simp] theorem spawn_shared (call : Spawn) (s : Server Disk) :
    (s.spawn call).shared = s.shared := rfl

@[simp] theorem spawn_disk (call : Spawn) (s : Server Disk) : (s.spawn call).disk = s.disk := rfl

@[simp] theorem spawn_events (call : Spawn) (s : Server Disk) :
    (s.spawn call).events = s.events := rfl

@[simp] theorem spawn_threads (call : Spawn) (s : Server Disk) :
    (s.spawn call).threads = s.threads ++ [Thread.new call] := rfl

@[simp] theorem spawn_stopFlags (call : Spawn) (s : Server Disk) :
    (s.spawn call).stopFlags = s.stopFlags := rfl

@[simp] theorem update_shared (f : Shared → Shared) (s : Server Disk) :
    (s.update f).shared = f s.shared := rfl

@[simp] theorem update_disk (f : Shared → Shared) (s : Server Disk) :
    (s.update f).disk = s.disk := rfl

@[simp] theorem update_events (f : Shared → Shared) (s : Server Disk) :
    (s.update f).events = s.events := rfl

@[simp] theorem update_threads (f : Shared → Shared) (s : Server Disk) :
    (s.update f).threads = s.threads := rfl

@[simp] theorem update_stopFlags (f : Shared → Shared) (s : Server Disk) :
    (s.update f).stopFlags = s.stopFlags := rfl

/-- A change that only logs and broadcasts. -/
structure Silent (s t : Server Disk) : Prop where
  shared : s.shared.SameUpToLog t.shared
  disk : t.disk = s.disk
  threads : t.threads = s.threads
  stopFlags : t.stopFlags = s.stopFlags
  events : s.events <+: t.events

/-- Doing nothing is silent. -/
theorem Silent.refl (s : Server Disk) : s.Silent s :=
  ⟨.refl _, rfl, rfl, rfl, List.prefix_rfl⟩

/-- Silent changes compose. -/
theorem Silent.trans {s t u : Server Disk} (hst : s.Silent t) (htu : t.Silent u) :
    s.Silent u where
  shared := hst.shared.trans htu.shared
  disk := htu.disk.trans hst.disk
  threads := htu.threads.trans hst.threads
  stopFlags := htu.stopFlags.trans hst.stopFlags
  events := hst.events.trans htu.events

/-- Logging and broadcasting keep the selected protocol. -/
theorem Silent.protocol {s t : Server Disk} (h : s.Silent t) :
    t.shared.config.protocol = s.shared.config.protocol := by
  rw [h.shared.config]

/-- They keep the configured points. -/
theorem Silent.points {s t : Server Disk} (h : s.Silent t) :
    t.shared.config.points = s.shared.config.points := by
  rw [h.shared.config]

/-- Broadcasting a payload is silent. -/
theorem silent_emit (delta : Delta) (s : Server Disk) : s.Silent (s.emit delta) :=
  ⟨.refl _, rfl, rfl, rfl, List.prefix_append _ _⟩

/-- So is broadcasting the points. -/
theorem silent_emitPoints (core : Core Disk) (s : Server Disk) :
    s.Silent (s.emitPoints core) := silent_emit _ s

/-- So is broadcasting the configuration. -/
theorem silent_emitConfig (s : Server Disk) : s.Silent s.emitConfig := silent_emit _ s

/-- So is writing a status line. -/
theorem silent_setStatus (core : Core Disk) (level : LogLevel) (message : String)
    (s : Server Disk) : s.Silent (s.setStatus core level message) where
  shared := by constructor <;> rfl
  disk := rfl
  threads := rfl
  stopFlags := rfl
  events := List.prefix_append _ _

/-- So is writing a log record. -/
theorem silent_log (core : Core Disk) (level : LogLevel) (message : String) (s : Server Disk) :
    s.Silent (s.log core level message) where
  shared := by constructor <;> rfl
  disk := rfl
  threads := rfl
  stopFlags := rfl
  events := List.prefix_append _ _

end Server

/-! ## Saving -/

/-- The configuration passes validation and the file is written. -/
def WebState.Saves (w : WebState Disk) (config : AppConfig) (disk : Disk) : Prop :=
  w.core.validate config = .ok () ∧ (w.core.saveToPath w.configPath config disk).1 = .ok ()

instance (w : WebState Disk) (config : AppConfig) (disk : Disk) :
    Decidable (w.Saves config disk) := inferInstanceAs (Decidable (_ ∧ _))

/-- The disk an attempt to save leaves: untouched when validation fails. -/
def WebState.diskAfter (w : WebState Disk) (config : AppConfig) (disk : Disk) : Disk :=
  match w.core.validate config with
  | .error _ => disk
  | .ok () => (w.core.saveToPath w.configPath config disk).2

/-- What `save_config` does: it answers `ok` exactly when the configuration is
saved, and otherwise logs the reason. -/
theorem WebState.saveConfig_spec (w : WebState Disk) (s : Server Disk) :
    ((w.saveConfig s).1 = .ok () ↔ w.Saves s.shared.config s.disk) ∧
      Server.Silent { s with disk := w.diskAfter s.shared.config s.disk } (w.saveConfig s).2 := by
  unfold WebState.saveConfig WebState.Saves WebState.diskAfter
  cases hvalidate : w.core.validate s.shared.config with
  | error error => exact ⟨by simp, Server.silent_setStatus ..⟩
  | ok _ =>
    dsimp only
    cases hsave : w.core.saveToPath w.configPath s.shared.config s.disk with
    | mk result disk =>
      cases result with
      | error error => exact ⟨by simp, Server.silent_setStatus ..⟩
      | ok _ => exact ⟨by simp, Server.silent_setStatus ..⟩

/-- What the tail `save_config(..)?; ..; Ok(..)` of a handler does to the server
the handler has already changed. -/
theorem WebState.saveThen_spec (w : WebState Disk) {next : Server Disk → Reply × Server Disk}
    (hnext : ∀ s : Server Disk, s.Silent (next s).2) (s : Server Disk) :
    ((∃ reply, (w.saveThen next s).1 = .ok reply) ↔ w.Saves s.shared.config s.disk) ∧
      Server.Silent { s with disk := w.diskAfter s.shared.config s.disk }
        (w.saveThen next s).2 := by
  obtain ⟨hok, hsilent⟩ := w.saveConfig_spec s
  unfold WebState.saveThen
  rcases hsave : w.saveConfig s with ⟨_ | _, t⟩
  · rw [hsave] at hok hsilent
    refine ⟨by simpa using hok, hsilent⟩
  · rw [hsave] at hok hsilent
    exact ⟨by simpa using hok, hsilent.trans (hnext t)⟩

/-! ## Edits of the configuration -/

/-- A replacement of the configured points. -/
def Shared.withPoints (points : List PointConfig) (shared : Shared) : Shared :=
  { shared with config := { shared.config with points } }

/-- The state a request that ends in `save_config` asks for, `none` when the request
is refused before anything is changed or does not edit the configuration. -/
def Request.edit (w : WebState Disk) (r : Request) (shared : Shared) : Option Shared :=
  match r with
  | .setConnection values =>
      (w.caps shared.config.protocol).map fun caps =>
        { shared with
          config := shared.config.setConnection w.core
            (buildAddressing caps.connectionFields values) }
  | .savePoint req =>
      (w.caps shared.config.protocol).bind fun caps =>
        match req.index with
        | some index =>
            if index < shared.config.points.length then
              some (shared.withPoints (shared.config.points.set index (req.point caps)))
            else none
        | none => some (shared.withPoints (shared.config.points ++ [req.point caps]))
  | .togglePoint index enabled =>
      shared.config.points[index]?.map fun point =>
        shared.withPoints (shared.config.points.set index { point with enabled })
  | .deletePoint index =>
      if index < shared.config.points.length then
        some (shared.withPoints (shared.config.points.eraseIdx index))
      else none
  | .clearPoints => some { shared.withPoints [] with statuses := ∅ }
  | .addBrowsedPoint index =>
      shared.browsed[index]?.map fun found =>
        shared.withPoints (upsert w.core found.toPoint shared.config.points)
  | .putSettings req => some { shared with config := req.apply shared.config }
  | _ => none

/-- The parts of the state that an edit of the configuration leaves alone. -/
structure Shared.SameButConfig (a b : Shared) : Prop where
  protocol : b.config.protocol = a.config.protocol
  devices : b.devices = a.devices
  browsed : b.browsed = a.browsed
  lifecycle : b.lifecycle = a.lifecycle
  stopFlag : b.stopFlag = a.stopFlag

/-- The requests that edit the configuration and then save it. -/
def Request.EditsConfig : Request → Prop
  | .setConnection _ | .savePoint _ | .togglePoint _ _ | .deletePoint _ | .clearPoints
  | .addBrowsedPoint _ | .putSettings _ => True
  | _ => False

instance (r : Request) : Decidable r.EditsConfig := by
  cases r <;> first | exact isTrue trivial | exact isFalse not_false

/-- The requests that edit the configured points. -/
def Request.EditsPoints : Request → Prop
  | .savePoint _ | .togglePoint _ _ | .deletePoint _ | .clearPoints | .addBrowsedPoint _ => True
  | _ => False

instance (r : Request) : Decidable r.EditsPoints := by
  cases r <;> first | exact isTrue trivial | exact isFalse not_false

/-- The three kinds of edit: of the connection of the active protocol, of the points (together
with the statuses when they are cleared), and of the settings. -/
theorem Request.edit_cases {w : WebState Disk} {r : Request} {shared edited : Shared}
    (h : r.edit w shared = some edited) :
    (∃ values caps, r = .setConnection values ∧ w.caps shared.config.protocol = some caps ∧
      edited = { shared with
        config := shared.config.setConnection w.core
          (buildAddressing caps.connectionFields values) }) ∨
    (r.EditsPoints ∧ ∃ points statuses, edited = { shared.withPoints points with statuses }) ∨
    ∃ req, r = .putSettings req ∧ edited = { shared with config := req.apply shared.config } := by
  cases r with
  | setConnection values =>
    obtain ⟨caps, hcaps, rfl⟩ := Option.map_eq_some_iff.mp h
    exact .inl ⟨values, caps, rfl, hcaps, rfl⟩
  | savePoint req =>
    obtain ⟨caps, -, hpoint⟩ := Option.bind_eq_some_iff.mp h
    cases hindex : req.index with
    | none =>
      simp only [hindex, Option.some.injEq] at hpoint
      exact .inr (.inl ⟨trivial, _, _, hpoint.symm⟩)
    | some index =>
      simp only [hindex, Option.ite_none_right_eq_some, Option.some.injEq] at hpoint
      exact .inr (.inl ⟨trivial, _, _, hpoint.2.symm⟩)
  | togglePoint index enabled =>
    obtain ⟨point, -, rfl⟩ := Option.map_eq_some_iff.mp h
    exact .inr (.inl ⟨trivial, _, _, rfl⟩)
  | deletePoint index =>
    simp only [Request.edit, Option.ite_none_right_eq_some, Option.some.injEq] at h
    exact .inr (.inl ⟨trivial, _, _, h.2.symm⟩)
  | clearPoints => exact .inr (.inl ⟨trivial, _, _, (Option.some.inj h).symm⟩)
  | addBrowsedPoint index =>
    obtain ⟨found, -, rfl⟩ := Option.map_eq_some_iff.mp h
    exact .inr (.inl ⟨trivial, _, _, rfl⟩)
  | putSettings req => exact .inr (.inr ⟨req, rfl, (Option.some.inj h).symm⟩)
  | _ => simp [Request.edit] at h

/-- An edit changes the configuration and the statuses, and not the protocol. -/
theorem Request.edit_sameButConfig {w : WebState Disk} {r : Request} {shared edited : Shared}
    (h : r.edit w shared = some edited) : shared.SameButConfig edited := by
  obtain ⟨_, _, -, -, rfl⟩ | ⟨-, _, _, rfl⟩ | ⟨_, -, rfl⟩ := Request.edit_cases h <;>
    constructor <;> rfl

/-- The other edits leave the points as they are. -/
theorem Request.edit_points {w : WebState Disk} {r : Request} {shared edited : Shared}
    (h : r.edit w shared = some edited) (hr : ¬ r.EditsPoints) :
    edited.config.points = shared.config.points := by
  obtain ⟨_, _, -, -, rfl⟩ | ⟨hpoints, -⟩ | ⟨_, -, rfl⟩ := Request.edit_cases h
  · rfl
  · exact absurd hpoints hr
  · rfl

/-- Only a `PUT` of the connection changes the stored connections. -/
theorem Request.edit_connections {w : WebState Disk} {r : Request} {shared edited : Shared}
    (h : r.edit w shared = some edited) (hr : ∀ values, r ≠ .setConnection values) :
    edited.config.connections = shared.config.connections := by
  obtain ⟨values, _, hput, -⟩ | ⟨-, _, _, rfl⟩ | ⟨_, -, rfl⟩ := Request.edit_cases h
  · exact absurd hput (hr values)
  · rfl
  · rfl

/-- An edit changes the configuration and the statuses. -/
theorem Request.edit_rest {w : WebState Disk} {r : Request} {shared edited : Shared}
    (h : r.edit w shared = some edited) :
    ∃ config statuses, edited = { shared with config, statuses } := by
  obtain ⟨_, _, -, -, rfl⟩ | ⟨-, _, _, rfl⟩ | ⟨_, -, rfl⟩ := Request.edit_cases h <;>
    exact ⟨_, _, rfl⟩

/-- A config-editing request that asks for nothing is refused and changes nothing. -/
theorem WebState.handle_refused (w : WebState Disk) {r : Request} (hr : r.EditsConfig)
    {s : Server Disk} (hedit : r.edit w s.shared = none) :
    ∃ error, w.handle r s = (.error error, s) := by
  cases r with
  | setConnection values =>
    have hcaps : w.caps s.shared.config.protocol = none := by
      simpa [Request.edit] using hedit
    exact ⟨badRequest "no protocol selected", by simp [handle, Republisher.setConnection, hcaps]⟩
  | savePoint req =>
    cases hcaps : w.caps s.shared.config.protocol with
    | none =>
      exact ⟨badRequest "select a protocol first", by simp [handle, Republisher.savePoint, hcaps]⟩
    | some caps =>
      cases hindex : req.index with
      | none => simp [Request.edit, hcaps, hindex] at hedit
      | some index =>
        have hout : ¬ index < s.shared.config.points.length := by
          simpa [Request.edit, hcaps, hindex] using hedit
        exact ⟨notFound "no such point",
          by simp [handle, Republisher.savePoint, hcaps, hindex, hout]⟩
  | togglePoint index enabled =>
    have hpoint : s.shared.config.points[index]? = none := by
      simpa [Request.edit] using hedit
    exact ⟨notFound "no such point", by simp [handle, Republisher.togglePoint, hpoint]⟩
  | deletePoint index =>
    have hout : s.shared.config.points.length ≤ index := by
      simpa [Request.edit] using hedit
    exact ⟨notFound "no such point", by simp [handle, Republisher.deletePoint, hout]⟩
  | addBrowsedPoint index =>
    have hfound : s.shared.browsed[index]? = none := by
      simpa [Request.edit] using hedit
    exact ⟨notFound "no such browsed point",
      by simp [handle, Republisher.addBrowsedPoint, hfound]⟩
  | clearPoints => simp [Request.edit] at hedit
  | putSettings req => simp [Request.edit] at hedit
  | _ => exact hr.elim

/-- What a config-editing handler does once the configuration is saved; `removed` is the
number of points there were. -/
def Request.onSaved (w : WebState Disk) (r : Request) (removed : ℕ) (s : Server Disk) :
    Reply × Server Disk :=
  match r with
  | .clearPoints =>
      let message := "Cleared " ++ toString removed ++ " configured point(s)."
      (.removed removed, (s.setStatus w.core .info message).emitPoints w.core)
  | .addBrowsedPoint _ =>
      (.ok, (s.setStatus w.core .info "Added point from browse").emitPoints w.core)
  | .setConnection _ | .putSettings _ => (.ok, s.emitConfig)
  | _ => (.ok, s.emitPoints w.core)

/-- It only logs and broadcasts. -/
theorem Request.onSaved_silent (w : WebState Disk) (r : Request) (removed : ℕ)
    (s : Server Disk) : s.Silent (r.onSaved w removed s).2 := by
  cases r with
  | clearPoints => exact (Server.silent_setStatus ..).trans (Server.silent_emitPoints ..)
  | addBrowsedPoint index => exact (Server.silent_setStatus ..).trans (Server.silent_emitPoints ..)
  | setConnection | putSettings => exact Server.silent_emitConfig s
  | _ => exact Server.silent_emitPoints ..

/-- A config-editing request that asks for something makes that edit and then saves. -/
theorem WebState.handle_edit_eq (w : WebState Disk) {r : Request} {s : Server Disk}
    {shared : Shared} (hedit : r.edit w s.shared = some shared) :
    w.handle r s =
      w.saveThen (r.onSaved w s.shared.config.points.length) { s with shared } := by
  cases r with
  | setConnection values =>
    obtain ⟨caps, hcaps, rfl⟩ := Option.map_eq_some_iff.mp hedit
    simp only [handle, Republisher.setConnection, hcaps]
    rfl
  | savePoint req =>
    obtain ⟨caps, hcaps, hpoint⟩ := Option.bind_eq_some_iff.mp hedit
    cases hindex : req.index with
    | none =>
      simp only [hindex, Option.some.injEq] at hpoint
      subst hpoint
      simp only [handle, Republisher.savePoint, hcaps, hindex]
      rfl
    | some index =>
      simp only [hindex, Option.ite_none_right_eq_some, Option.some.injEq] at hpoint
      obtain ⟨hlt, rfl⟩ := hpoint
      simp only [handle, Republisher.savePoint, hcaps, hindex, if_pos hlt]
      rfl
  | togglePoint index enabled =>
    obtain ⟨point, hpoint, rfl⟩ := Option.map_eq_some_iff.mp hedit
    simp only [handle, Republisher.togglePoint, hpoint]
    rfl
  | deletePoint index =>
    simp only [Request.edit, Option.ite_none_right_eq_some, Option.some.injEq] at hedit
    obtain ⟨hlt, rfl⟩ := hedit
    simp only [handle, Republisher.deletePoint, if_neg (Nat.not_le.mpr hlt)]
    rfl
  | clearPoints =>
    obtain rfl := Option.some.inj hedit
    rfl
  | addBrowsedPoint index =>
    obtain ⟨found, hfound, rfl⟩ := Option.map_eq_some_iff.mp hedit
    simp only [handle, Republisher.addBrowsedPoint, hfound]
    rfl
  | putSettings req =>
    obtain rfl := Option.some.inj hedit
    rfl
  | _ => simp [Request.edit] at hedit

/-- A config-editing request that asks for something makes that edit and then saves,
whatever comes of the saving. -/
theorem WebState.handle_edit (w : WebState Disk) {r : Request} {s : Server Disk}
    {shared : Shared} (hedit : r.edit w s.shared = some shared) :
    ∃ next : Server Disk → Reply × Server Disk, (∀ s : Server Disk, s.Silent (next s).2) ∧
      w.handle r s = w.saveThen next { s with shared } :=
  ⟨_, fun t => r.onSaved_silent w _ t, w.handle_edit_eq hedit⟩

/-- An edit that is made stays in memory, whether or not it could be saved. -/
theorem WebState.handle_edit_shared (w : WebState Disk) {r : Request} {s : Server Disk}
    {shared : Shared} (hedit : r.edit w s.shared = some shared) :
    ((∃ reply, (w.handle r s).1 = .ok reply) ↔ w.Saves shared.config s.disk) ∧
      shared.SameUpToLog (w.handle r s).2.shared := by
  obtain ⟨next, hnext, h⟩ := w.handle_edit hedit
  obtain ⟨hok, hsilent⟩ := w.saveThen_spec hnext { s with shared }
  rw [h]
  exact ⟨hok, hsilent.shared⟩

/-! ## Every request -/

/-- Everything a request can do to the server, up to logging and broadcasting.
Each constructor but `silent` names a request and the guards it has passed. -/
inductive Effect (w : WebState Disk) (s : Server Disk) : Request → Server Disk → Prop
  | silent {r t} : s.Silent t → Effect w s r t
  | protocol {id t} : (w.caps id).isSome = true →
      (s.update fun shared =>
        { shared with
          config := { shared.config with protocol := id }
          devices := []
          browsed := [] }).Silent t →
      Effect w s (.setProtocol id) t
  | edit {r shared t} : r.edit w s.shared = some shared →
      Server.Silent { s with shared, disk := w.diskAfter shared.config s.disk } t →
      Effect w s r t
  | discover {factory t} : w.registry.get s.shared.config.protocol = some factory →
      ((s.update fun shared => { shared with devices := [] }).spawn
        (.discovery factory (s.shared.config.connection w.core))).Silent t →
      Effect w s .discover t
  | browse {index device factory t} : s.shared.devices[index]? = some device →
      w.registry.get s.shared.config.protocol = some factory →
      ((s.update fun shared => { shared with browsed := [] }).spawn
        (.browse factory (s.shared.config.connection w.core) device)).Silent t →
      Effect w s (.browseDevice index) t
  | scanAll {factory t} : s.shared.devices ≠ [] →
      w.registry.get s.shared.config.protocol = some factory →
      ((s.update fun shared =>
        { shared with scanProgress := some (0, shared.devices.length) }).spawn
        (.scanAllObjects factory (s.shared.config.connection w.core) s.shared.devices
          s.shared.config.points)).Silent t →
      Effect w s .scanAll t
  | pollOnce {factory t} : w.registry.get s.shared.config.protocol = some factory →
      (s.spawn (.pollOnce factory (s.shared.config.connection w.core) s.shared.config.mqtt
        s.shared.config.points)).Silent t →
      Effect w s .pollOnce t
  | start {factory t} : s.shared.lifecycle.active = false →
      w.core.validate s.shared.config = .ok () →
      w.registry.get s.shared.config.protocol = some factory →
      Server.Silent
        { (s.update fun shared =>
            { shared with
              stopFlag := some s.stopFlags.length
              publishedTotal := 0
              ackedTotal := 0
              lastError := none }).spawn
            (.republisher factory (s.shared.config.connection w.core) s.shared.config.mqtt
              s.shared.config.points s.shared.config.discoverOnStart s.stopFlags.length) with
          stopFlags := s.stopFlags ++ [false] } t →
      Effect w s .startRepublisher t
  | stop {stop t} : s.shared.stopFlag = some stop →
      Server.Silent { s with stopFlags := s.stopFlags.set stop true } t →
      Effect w s .stopRepublisher t

/-- The effect of a request that ends in `save_config`. -/
private theorem effect_of_edits (w : WebState Disk) (r : Request) (hr : r.EditsConfig)
    (s : Server Disk) : Effect w s r (w.handle r s).2 := by
  cases hedit : r.edit w s.shared with
  | none =>
    obtain ⟨error, h⟩ := w.handle_refused hr hedit
    rw [h]
    exact .silent (.refl s)
  | some shared =>
    obtain ⟨next, hnext, h⟩ := w.handle_edit hedit
    rw [h]
    exact .edit hedit (w.saveThen_spec hnext { s with shared }).2

/-- Every request has one of the listed effects. -/
theorem WebState.handle_effect (w : WebState Disk) (r : Request) (s : Server Disk) :
    Effect w s r (w.handle r s).2 := by
  cases r with
  | getState | getStatus | getCapabilities | getConfig | getPoints | getLogs =>
    exact .silent (.refl s)
  | getInterfaces => exact .silent (Server.silent_setStatus ..)
  | setProtocol id =>
    simp only [handle, Republisher.setProtocol]
    split
    · exact .silent (.refl s)
    · rename_i hcaps
      refine .protocol (by simpa [← Option.isSome_iff_ne_none] using hcaps) ?_
      exact (Server.silent_emitConfig _).trans
        ((Server.silent_emit _ _).trans (Server.silent_emit _ _))
  | discover =>
    simp only [handle, Republisher.discover]
    split
    · exact .silent (.refl s)
    · rename_i factory hfactory
      exact .discover hfactory ⟨by constructor <;> rfl, rfl, rfl, rfl, by simp [Server.setStatus]⟩
  | browseDevice index =>
    simp only [handle, Republisher.browseDevice]
    split
    · exact .silent (.refl s)
    · rename_i device hdevice
      split
      · exact .silent (.refl s)
      · rename_i factory hfactory
        exact .browse hdevice hfactory
          ⟨by constructor <;> rfl, rfl, rfl, rfl, by simp [Server.setStatus]⟩
  | scanAll =>
    simp only [handle, Republisher.scanAll]
    split
    · exact .silent (Server.silent_setStatus ..)
    · rename_i hdevices
      split
      · exact .silent (.refl s)
      · rename_i factory hfactory
        exact .scanAll (by simpa using hdevices) hfactory
          ⟨by constructor <;> rfl, rfl, rfl, rfl, by simp [Server.setStatus]⟩
  | pollOnce =>
    simp only [handle, Republisher.pollOnce]
    split
    · exact .silent (.refl s)
    · rename_i factory hfactory
      exact .pollOnce hfactory (Server.silent_setStatus ..)
  | startRepublisher =>
    simp only [handle, Republisher.startRepublisher]
    split
    · exact .silent (.refl s)
    · rename_i hactive
      split
      · exact .silent (Server.silent_setStatus ..)
      · rename_i hvalidate
        split
        · exact .silent (.refl s)
        · rename_i factory hfactory
          exact .start (by simpa using hactive) hvalidate hfactory (Server.silent_setStatus ..)
  | stopRepublisher =>
    simp only [handle, Republisher.stopRepublisher, Server.raiseStop]
    cases hstop : s.shared.stopFlag with
    | none => exact .silent (.refl s)
    | some stop => exact .stop hstop (Server.silent_setStatus ..)
  | setConnection values => exact effect_of_edits w (.setConnection values) trivial s
  | savePoint req => exact effect_of_edits w (.savePoint req) trivial s
  | togglePoint index enabled => exact effect_of_edits w (.togglePoint index enabled) trivial s
  | deletePoint index => exact effect_of_edits w (.deletePoint index) trivial s
  | clearPoints => exact effect_of_edits w .clearPoints trivial s
  | addBrowsedPoint index => exact effect_of_edits w (.addBrowsedPoint index) trivial s
  | putSettings req => exact effect_of_edits w (.putSettings req) trivial s

/-- An accepted start has passed the three guards of the handler. -/
def WebState.StartAccepted (w : WebState Disk) (s : Server Disk) : Prop :=
  s.shared.lifecycle.active = false ∧ w.core.validate s.shared.config = .ok () ∧
    (w.registry.get s.shared.config.protocol).isSome = true

@[simp] theorem Server.raiseStop_shared (s : Server Disk) : s.raiseStop.shared = s.shared := by
  unfold Server.raiseStop
  split <;> rfl

@[simp] theorem Server.raiseStop_threads (s : Server Disk) :
    s.raiseStop.threads = s.threads := by
  unfold Server.raiseStop
  split <;> rfl

/-- What a request does to the republisher workers and their stop flags. -/
inductive WorkerEffect (w : WebState Disk) (s : Server Disk) : Request → Server Disk → Prop
  /-- No worker is started or stopped; at most a thread of another kind is started. -/
  | none {r t} : (t.threads = s.threads ∨
        ∃ spawn, spawn.stopFlag = none ∧ t.threads = s.threads ++ [Thread.new spawn]) →
      t.stopFlags = s.stopFlags → t.shared.stopFlag = s.shared.stopFlag → WorkerEffect w s r t
  /-- A worker is started with a flag of its own, and only this flag is kept at hand. -/
  | start {spawn t} : w.StartAccepted s → spawn.stopFlag = some s.stopFlags.length →
      t.threads = s.threads ++ [Thread.new spawn] → t.stopFlags = s.stopFlags ++ [false] →
      t.shared.stopFlag = some s.stopFlags.length → WorkerEffect w s .startRepublisher t
  /-- The flag at hand is set. -/
  | stop {t} : t.threads = s.threads → t.stopFlags = s.raiseStop.stopFlags →
      t.shared.stopFlag = s.shared.stopFlag → WorkerEffect w s .stopRepublisher t

/-- An accepted start starts a worker with a new flag and keeps only that flag at hand. -/
theorem WebState.handle_start (w : WebState Disk) {s : Server Disk} (h : w.StartAccepted s) :
    ∃ spawn, spawn.stopFlag = some s.stopFlags.length ∧
      (w.handle .startRepublisher s).2.threads = s.threads ++ [Thread.new spawn] ∧
      (w.handle .startRepublisher s).2.stopFlags = s.stopFlags ++ [false] ∧
      (w.handle .startRepublisher s).2.shared.stopFlag = some s.stopFlags.length := by
  obtain ⟨hactive, hvalidate, hfactory⟩ := h
  obtain ⟨factory, hfactory⟩ := Option.isSome_iff_exists.mp hfactory
  refine ⟨.republisher factory (s.shared.config.connection w.core) s.shared.config.mqtt
    s.shared.config.points s.shared.config.discoverOnStart s.stopFlags.length, rfl, ?_⟩
  simp only [handle, Republisher.startRepublisher, hactive, hvalidate, hfactory]
  exact ⟨rfl, rfl, rfl⟩

/-- A stop is always answered `ok` and sets the flag at hand. -/
theorem WebState.handle_stop (w : WebState Disk) (s : Server Disk) :
    (w.handle .stopRepublisher s).1 = .ok .ok ∧
      (w.handle .stopRepublisher s).2.stopFlags = s.raiseStop.stopFlags := by
  simp only [handle, Republisher.stopRepublisher]
  cases hstop : s.shared.stopFlag with
  | none =>
    have hraise : s.raiseStop = s := by simp only [Server.raiseStop, hstop]
    rw [hraise]
    exact ⟨rfl, rfl⟩
  | some stop => exact ⟨rfl, rfl⟩

/-- What an effect does to the workers. -/
theorem Effect.workers {w : WebState Disk} {s t : Server Disk} {r : Request}
    (h : Effect w s r t) : WorkerEffect w s r t := by
  cases h with
  | silent hsilent =>
    exact .none (.inl hsilent.threads) hsilent.stopFlags hsilent.shared.stopFlag.symm
  | protocol _ hsilent =>
    exact .none (.inl hsilent.threads) hsilent.stopFlags hsilent.shared.stopFlag.symm
  | edit hedit hsilent =>
    exact .none (.inl hsilent.threads) hsilent.stopFlags
      (hsilent.shared.stopFlag.symm.trans (Request.edit_sameButConfig hedit).stopFlag)
  | discover _ hsilent =>
    exact .none (.inr ⟨_, rfl, hsilent.threads⟩) hsilent.stopFlags hsilent.shared.stopFlag.symm
  | browse _ _ hsilent =>
    exact .none (.inr ⟨_, rfl, hsilent.threads⟩) hsilent.stopFlags hsilent.shared.stopFlag.symm
  | scanAll _ _ hsilent =>
    exact .none (.inr ⟨_, rfl, hsilent.threads⟩) hsilent.stopFlags hsilent.shared.stopFlag.symm
  | pollOnce _ hsilent =>
    exact .none (.inr ⟨_, rfl, hsilent.threads⟩) hsilent.stopFlags hsilent.shared.stopFlag.symm
  | start hactive hvalidate hfactory hsilent =>
    have haccepted : w.StartAccepted s := ⟨hactive, hvalidate, by rw [hfactory]; rfl⟩
    exact .start haccepted rfl hsilent.threads hsilent.stopFlags hsilent.shared.stopFlag.symm
  | @stop flag _ hstop hsilent =>
    have hraise : s.raiseStop.stopFlags = s.stopFlags.set flag true := by
      simp only [Server.raiseStop, hstop]
    exact .stop hsilent.threads (hsilent.stopFlags.trans hraise.symm)
      hsilent.shared.stopFlag.symm

/-- No request writes the life cycle. -/
theorem Effect.lifecycle {w : WebState Disk} {s t : Server Disk} {r : Request}
    (h : Effect w s r t) : t.shared.lifecycle = s.shared.lifecycle := by
  cases h with
  | edit hedit hsilent =>
    exact hsilent.shared.lifecycle.symm.trans (Request.edit_sameButConfig hedit).lifecycle
  | silent hsilent => exact hsilent.shared.lifecycle.symm
  | protocol _ hsilent => exact hsilent.shared.lifecycle.symm
  | discover _ hsilent => exact hsilent.shared.lifecycle.symm
  | browse _ _ hsilent => exact hsilent.shared.lifecycle.symm
  | scanAll _ _ hsilent => exact hsilent.shared.lifecycle.symm
  | pollOnce _ hsilent => exact hsilent.shared.lifecycle.symm
  | start _ _ _ hsilent => exact hsilent.shared.lifecycle.symm
  | stop _ hsilent => exact hsilent.shared.lifecycle.symm

/-! ## Every drained event -/

/-- Two shared states that agree on the configuration, the discovered and browsed
lists and the run state. -/
structure Shared.SameSetup (a b : Shared) : Prop where
  config : b.config = a.config
  devices : b.devices = a.devices
  browsed : b.browsed = a.browsed
  lifecycle : b.lifecycle = a.lifecycle
  stopFlag : b.stopFlag = a.stopFlag

/-- Everything applying a worker event can do to the server, up to logging and
broadcasting. Reports touch counters, statuses, samples and scan progress only. -/
inductive EventEffect (w : WebState Disk) (s : Server Disk) : WorkerEvent → Server Disk → Prop
  | lifecycle {lifecycle t} :
      (s.update fun shared => { shared with lifecycle }).Silent t →
      EventEffect w s (.lifecycle lifecycle) t
  | devices {outcome t} :
      (s.update fun shared => { shared with devices := outcome.devices }).Silent t →
      EventEffect w s (.devices outcome) t
  | points {points t} :
      (s.update fun shared => { shared with browsed := points }).Silent t →
      EventEffect w s (.points points) t
  | bulkTagImport {result shared t} :
      shared = { s.shared.withPoints result.points with scanProgress := none } →
      Server.Silent { s with shared, disk := w.diskAfter shared.config s.disk } t →
      EventEffect w s (.bulkTagImport result) t
  | report {e shared t} : e.isReport = true → s.shared.SameSetup shared →
      Server.Silent { s with shared } t → EventEffect w s e t

/-- Logging several warnings is silent. -/
private theorem silent_foldl_log (core : Core Disk) (warnings : List String) (s : Server Disk) :
    s.Silent (warnings.foldl (fun s warning => s.log core .warning warning) s) := by
  induction warnings generalizing s with
  | nil => exact .refl s
  | cons warning warnings ih => exact (Server.silent_log ..).trans (ih _)

/-- A loop whose steps keep the setup keeps it. -/
private theorem foldl_sameSetup {α : Type} (f : Batch → α → Batch)
    (hf : ∀ (batch : Batch) (x : α), batch.shared.SameSetup (f batch x).shared) (batch : Batch)
    (xs : List α) :
    batch.shared.SameSetup (xs.foldl f batch).shared := by
  induction xs generalizing batch with
  | nil => constructor <;> rfl
  | cons x xs ih =>
    have hx := hf batch x
    have hxs := ih (f batch x)
    exact ⟨hxs.config.trans hx.config, hxs.devices.trans hx.devices,
      hxs.browsed.trans hx.browsed, hxs.lifecycle.trans hx.lifecycle,
      hxs.stopFlag.trans hx.stopFlag⟩

/-- Every worker event has one of the listed effects. -/
theorem WebState.applyEvent_effect (w : WebState Disk) (e : WorkerEvent) (s : Server Disk) :
    EventEffect w s e (w.applyEvent e s) := by
  have hsame : s.shared.SameSetup s.shared := by constructor <;> rfl
  cases e with
  | log level message => exact .report rfl hsame (Server.silent_log ..)
  | devices outcome =>
    exact .devices ((silent_foldl_log ..).trans (Server.silent_emit ..))
  | points points => exact .points (Server.silent_emit ..)
  | scanProgress current total =>
    exact .report rfl (by constructor <;> rfl) (Server.silent_emit _
      (s.update fun shared => { shared with scanProgress := some (current, total) }))
  | bulkTagImport result =>
    have hsave := w.saveConfig_spec (s.update fun shared =>
      { shared with
        config := { shared.config with points := result.points }
        scanProgress := none })
    exact .bulkTagImport rfl (hsave.2.trans
      ((Server.silent_setStatus ..).trans (Server.silent_emitPoints ..)))
  | samples samples =>
    have h := foldl_sameSetup (applySample w.core) (fun _ _ => by constructor <;> rfl)
      ⟨s.shared, ∅, []⟩ samples
    have htake : s.shared.SameSetup
        { (samples.foldl (applySample w.core) ⟨s.shared, ∅, []⟩).shared with
          recentSamples := (samples.foldl (applySample w.core)
            ⟨s.shared, ∅, []⟩).shared.recentSamples.take recentSampleCapacity } :=
      ⟨h.config, h.devices, h.browsed, h.lifecycle, h.stopFlag⟩
    exact .report rfl htake (Server.silent_emit _ (s.update fun _ => _))
  | failures failures =>
    have h := foldl_sameSetup (applyFailure w.core) (fun _ _ => by constructor <;> rfl)
      ⟨s.shared, ∅, []⟩ failures
    exact .report rfl h (Server.silent_emit _ (s.update fun _ => _))
  | publishStatus stats =>
    exact .report rfl (by constructor <;> rfl) (Server.silent_emit _ (s.update _))
  | pointPublish identity error =>
    exact .report rfl (by constructor <;> rfl) (Server.silent_emit _ (s.update fun _ => _))
  | lifecycle lifecycle =>
    refine .lifecycle ?_
    cases lifecycle with
    | failed error =>
      exact ⟨by constructor <;> rfl, rfl, rfl, rfl, by
        simp [applyEvent, Server.log, List.append_assoc]⟩
    | starting | running | stopping | stopped => exact Server.silent_emit _ (s.update _)
  | finished message => exact .report rfl hsame (Server.silent_log ..)

/-- The life cycle after an event has been applied. -/
def WorkerEvent.lifecycleAfter (e : WorkerEvent) (lifecycle : RepublisherLifecycle) :
    RepublisherLifecycle :=
  match e with
  | .lifecycle next => next
  | _ => lifecycle

/-- Applying an event starts and stops no worker; only a life-cycle event writes the
life cycle. -/
structure EventKeepsWorkers (e : WorkerEvent) (s t : Server Disk) : Prop where
  threads : t.threads = s.threads
  stopFlags : t.stopFlags = s.stopFlags
  stopFlag : t.shared.stopFlag = s.shared.stopFlag
  lifecycle : t.shared.lifecycle = e.lifecycleAfter s.shared.lifecycle

/-- Every event leaves the workers and their flags alone. -/
theorem EventEffect.keepsWorkers {w : WebState Disk} {s t : Server Disk} {e : WorkerEvent}
    (h : EventEffect w s e t) : EventKeepsWorkers e s t := by
  cases h with
  | lifecycle hsilent =>
    exact ⟨hsilent.threads, hsilent.stopFlags, hsilent.shared.stopFlag.symm,
      hsilent.shared.lifecycle.symm⟩
  | devices hsilent =>
    exact ⟨hsilent.threads, hsilent.stopFlags, hsilent.shared.stopFlag.symm,
      hsilent.shared.lifecycle.symm⟩
  | points hsilent =>
    exact ⟨hsilent.threads, hsilent.stopFlags, hsilent.shared.stopFlag.symm,
      hsilent.shared.lifecycle.symm⟩
  | bulkTagImport hshared hsilent =>
    subst hshared
    exact ⟨hsilent.threads, hsilent.stopFlags, hsilent.shared.stopFlag.symm,
      hsilent.shared.lifecycle.symm⟩
  | report hreport hsame hsilent =>
    have hlifecycle : e.lifecycleAfter s.shared.lifecycle = s.shared.lifecycle := by
      cases e with
      | lifecycle => cases hreport
      | _ => rfl
    exact ⟨hsilent.threads, hsilent.stopFlags, hsilent.shared.stopFlag.symm.trans hsame.stopFlag,
      (hsilent.shared.lifecycle.symm.trans hsame.lifecycle).trans hlifecycle.symm⟩

end Republisher
