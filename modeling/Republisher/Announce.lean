import Mathlib.Data.List.Chain
import Republisher.Browser
import Republisher.System

/-!
# What the daemon announces

Every handler call and every drained event changes the shared state and emits
payloads. This file says once, for each of them, which change goes with which
payloads; the arguments about the browsers start from here.
-/

namespace Republisher

variable {Disk : Type}

/-- One critical section of the daemon: a handler call, a drained event or the shutdown task. -/
inductive Action
  | request (r : Request)
  | event (e : WorkerEvent)
  | shutdown

/-- The server after one critical section. -/
def WebState.act (w : WebState Disk) (s : Server Disk) : Action → Server Disk
  | .request r => (w.handle r s).2
  | .event e => w.applyEvent e s
  | .shutdown => Republisher.shutdown w s

/-- The server after several critical sections, one after the other. -/
def WebState.acts (w : WebState Disk) (s : Server Disk) (actions : List Action) : Server Disk :=
  actions.foldl w.act s

/-! ## The log -/

/-- The payloads that carry a log record. -/
def Delta.isLog : Delta → Bool
  | .log _ _ => true
  | _ => false

/-- The log and the status line a browser shows after a delta. -/
def showLog (shown : List LogRecord × String) : Delta → List LogRecord × String
  | .log record statusLine =>
      let logs := shown.1 ++ [record]
      (if 500 < logs.length then logs.drop 1 else logs,
        match statusLine with
        | some statusLine => if statusLine = "" then shown.2 else statusLine
        | none => shown.2)
  | _ => shown

/-- The log holds at most 500 records, numbered one after the other up to `logSeq`. -/
structure Shared.LogRing (shared : Shared) : Prop where
  bounded : shared.logs.length ≤ logCapacity
  consecutive : shared.logs.IsChain fun record next => next.seq = record.seq + 1
  last : ∀ record ∈ shared.logs.getLast?, record.seq = shared.logSeq

/-- A new record keeps the log a ring. -/
theorem Shared.LogRing.pushLog {shared : Shared} (h : shared.LogRing) (core : Core Disk)
    (level : LogLevel) (message : String) : (pushLog core level message shared).1.LogRing := by
  have hbounded := h.bounded
  have hkept : ∀ kept : List LogRecord, (kept = shared.logs ∨ kept = shared.logs.drop 1) →
      ∀ record ∈ kept.getLast?, record.seq = shared.logSeq := by
    rintro kept (rfl | rfl) record hrecord
    · exact h.last record hrecord
    · rw [List.getLast?_drop] at hrecord
      split at hrecord
      · cases hrecord
      · exact h.last record hrecord
  unfold Republisher.pushLog
  by_cases hfull : logCapacity ≤ shared.logs.length
  · refine ⟨?_, ?_, ?_⟩
    · simp only [if_pos hfull, List.length_append, List.length_drop, List.length_singleton]
      unfold logCapacity at *
      omega
    · simp only [if_pos hfull]
      refine List.isChain_append.mpr ⟨h.consecutive.drop 1, List.isChain_singleton _, ?_⟩
      rintro record hrecord next ⟨⟩
      exact congrArg (· + 1) (hkept _ (.inr rfl) record hrecord).symm
    · simp
  · refine ⟨?_, ?_, ?_⟩
    · simp only [if_neg hfull, List.length_append, List.length_singleton]
      omega
    · simp only [if_neg hfull]
      refine List.isChain_append.mpr ⟨h.consecutive, List.isChain_singleton _, ?_⟩
      rintro record hrecord next ⟨⟩
      exact congrArg (· + 1) (hkept _ (.inl rfl) record hrecord).symm
    · simp

/-- The browser's ring drops a record exactly when the server's does. -/
theorem showLog_pushLog (core : Core Disk) (level : LogLevel) (message : String)
    (shared : Shared) (line : String) (statusLine : Option String) :
    (showLog (shared.logs, line) (.log (pushLog core level message shared).2 statusLine)).1 =
      (pushLog core level message shared).1.logs := by
  simp only [showLog, Republisher.pushLog, List.length_append, List.length_singleton]
  by_cases hfull : logCapacity ≤ shared.logs.length
  · have hlong : 500 ≤ shared.logs.length := hfull
    rw [if_pos (by omega), if_pos hfull, List.drop_append_of_le_length (by omega)]
  · have hshort : ¬ 500 ≤ shared.logs.length := hfull
    rw [if_neg (by omega), if_neg hfull]

/-! ## What a critical section says -/

/-- From `s` to `t` only the log changed, and besides log records exactly the payloads `ds`
were emitted. A browser that folds what was said has the log of `t`. -/
structure Server.Says (s t : Server Disk) (ds : List Delta) : Prop where
  shared : s.shared.SameUpToLog t.shared
  ring : s.shared.LogRing → t.shared.LogRing
  events : ∃ said, t.events = s.events ++ said ∧ (said.filter fun d => !d.isLog) = ds ∧
    said.foldl showLog (s.shared.logs, s.shared.statusLine) = (t.shared.logs, t.shared.statusLine)

namespace Server.Says

/-- Saying nothing. -/
theorem refl (s : Server Disk) : s.Says s [] :=
  ⟨.refl _, id, [], (List.append_nil _).symm, rfl, rfl⟩

/-- What was said before and after. -/
theorem trans {s t u : Server Disk} {ds es : List Delta} (hst : s.Says t ds)
    (htu : t.Says u es) : s.Says u (ds ++ es) := by
  obtain ⟨said, hsaid, hds, hlog⟩ := hst.events
  obtain ⟨more, hmore, hes, hlog'⟩ := htu.events
  refine ⟨hst.shared.trans htu.shared, htu.ring ∘ hst.ring, said ++ more, ?_, ?_, ?_⟩
  · rw [hmore, hsaid, List.append_assoc]
  · rw [List.filter_append, hds, hes]
  · rw [List.foldl_append, hlog, hlog']

/-- Emitting a payload that is not a log record. -/
theorem emit (s : Server Disk) {d : Delta} (hd : d.isLog = false) : s.Says (s.emit d) [d] := by
  refine ⟨.refl _, id, [d], rfl, by simp [hd], ?_⟩
  cases d with
  | log => cases hd
  | _ => rfl

/-- Writing a log record. -/
theorem log (core : Core Disk) (level : LogLevel) (message : String) (s : Server Disk) :
    s.Says (s.log core level message) [] := by
  refine ⟨by constructor <;> rfl, fun h => h.pushLog core level message,
    [.log (pushLog core level message s.shared).2 none], rfl, rfl, ?_⟩
  exact Prod.ext (showLog_pushLog core level message s.shared _ none) rfl

/-- Writing a status line. -/
theorem setStatus (core : Core Disk) (level : LogLevel) {message : String}
    (hmessage : message ≠ "") (s : Server Disk) : s.Says (s.setStatus core level message) [] := by
  refine ⟨by constructor <;> rfl, fun h => ?_,
    [.log (pushLog core level message s.shared).2 (some message)], rfl, rfl, ?_⟩
  · have hring : Shared.LogRing { s.shared with statusLine := message } :=
      ⟨h.bounded, h.consecutive, h.last⟩
    exact hring.pushLog core level message
  · refine Prod.ext (showLog_pushLog core level message s.shared _ (some message)) ?_
    show (if message = "" then _ else message) = message
    rw [if_neg hmessage]

/-- What is said is about the shared state and the payloads only. -/
theorem of_eq {s t u : Server Disk} {ds : List Delta} (h : s.Says t ds)
    (hshared : u.shared = t.shared) (hevents : u.events = t.events) : s.Says u ds := by
  refine ⟨?_, ?_, ?_⟩
  · rw [hshared]
    exact h.shared
  · rw [hshared]
    exact h.ring
  · rw [hshared, hevents]
    exact h.events

/-- What is said does not depend on the disk. -/
theorem of_disk {s t : Server Disk} {disk : Disk} {ds : List Delta}
    (h : Server.Says { s with disk } t ds) : s.Says t ds :=
  ⟨h.shared, h.ring, h.events⟩

end Server.Says

/-! ## Saving -/

/-- A text with a prefix that is not empty is not empty. -/
theorem append_ne_empty (start rest : String) (h : start ≠ "") : start ++ rest ≠ "" := by
  intro hempty
  exact h (String.append_eq_empty_iff.mp hempty).1

/-- `save_config` says nothing but log records. -/
theorem WebState.saveConfig_speaks (w : WebState Disk) (s : Server Disk) :
    s.Says (w.saveConfig s).2 [] := by
  unfold WebState.saveConfig
  split
  · exact .setStatus _ _ (append_ne_empty "Config invalid: " _ (by decide)) s
  · split
    · exact .of_disk (.setStatus _ _ (show "Configuration saved" ≠ "" by decide) _)
    · exact .of_disk (.setStatus _ _ (append_ne_empty "Save failed: " _ (by decide)) _)

/-- The tail of a config-editing handler says what follows a saved configuration, and nothing
when the configuration is not saved. -/
theorem WebState.saveThen_speaks (w : WebState Disk) {next : Server Disk → Reply × Server Disk}
    {s : Server Disk} {ds : List Delta}
    (hnext : ∀ t : Server Disk, s.shared.SameUpToLog t.shared → t.Says (next t).2 ds) :
    (w.Saves s.shared.config s.disk ∧ s.Says (w.saveThen next s).2 ds) ∨
      (¬ w.Saves s.shared.config s.disk ∧ s.Says (w.saveThen next s).2 []) := by
  have hok := (w.saveConfig_spec s).1
  have hsaid := w.saveConfig_speaks s
  unfold WebState.saveThen
  rcases hsave : w.saveConfig s with ⟨_ | _, t⟩
  · rw [hsave] at hok hsaid
    exact .inr ⟨by simpa using hok, hsaid⟩
  · rw [hsave] at hok hsaid
    exact .inl ⟨by simpa using hok, hsaid.trans (hnext t hsaid.shared)⟩

/-! ## What every critical section tells -/

/-- The payload after a saved edit: the points after an edit of the points, else the
configuration. -/
def Request.announces (w : WebState Disk) (r : Request) (edited : Shared) : Delta :=
  match r with
  | .setConnection _ | .putSettings _ => .config (redactedConfig edited.config)
  | _ => .points (pointsJson w.core edited)

/-- It is the configuration or the points of the edited state. -/
theorem Request.announces_cases (w : WebState Disk) (r : Request) (edited : Shared) :
    r.announces w edited = .config (redactedConfig edited.config) ∨
      r.announces w edited = .points (pointsJson w.core edited) := by
  cases r with
  | setConnection | putSettings => exact .inl rfl
  | _ => exact .inr rfl

/-- An edit of the configuration is no start. -/
theorem Request.edit_ne_start {w : WebState Disk} {r : Request} {shared edited : Shared}
    (h : r.edit w shared = some edited) : r ≠ .startRepublisher := by
  rintro rfl
  cases h

/-- The events that are only logged. -/
def WorkerEvent.isNote : WorkerEvent → Bool
  | .log _ _ | .finished _ => true
  | _ => false

/-- The loop of a `Samples` event. -/
def samplesBatch (core : Core Disk) (shared : Shared) (samples : List PointSample) : Batch :=
  samples.foldl (applySample core) ⟨shared, ∅, []⟩

/-- The loop of a `Failures` event. -/
def failuresBatch (core : Core Disk) (shared : Shared) (failures : List PointFailure) : Batch :=
  failures.foldl (applyFailure core) ⟨shared, ∅, []⟩

/-- The loop over samples changes the statuses and the recent samples. -/
theorem samplesBatch_shared (core : Core Disk) (shared : Shared) (samples : List PointSample) :
    ∃ statuses recentSamples,
      (samplesBatch core shared samples).shared = { shared with statuses, recentSamples } := by
  unfold samplesBatch
  generalize (∅ : StatusDtos) = changed
  generalize ([] : List SampleDto) = dtos
  induction samples generalizing shared changed dtos with
  | nil => exact ⟨_, _, rfl⟩
  | cons sample samples ih =>
    obtain ⟨statuses, recentSamples, h⟩ :=
      ih (applySample core ⟨shared, changed, dtos⟩ sample).shared
      (applySample core ⟨shared, changed, dtos⟩ sample).changed
      (applySample core ⟨shared, changed, dtos⟩ sample).samples
    exact ⟨statuses, recentSamples, h⟩

/-- The loop over failures changes the statuses. -/
theorem failuresBatch_shared (core : Core Disk) (shared : Shared)
    (failures : List PointFailure) :
    ∃ statuses, (failuresBatch core shared failures).shared = { shared with statuses } := by
  unfold failuresBatch
  generalize (∅ : StatusDtos) = changed
  generalize ([] : List SampleDto) = dtos
  induction failures generalizing shared changed dtos with
  | nil => exact ⟨_, rfl⟩
  | cons failure failures ih =>
    obtain ⟨statuses, h⟩ := ih (applyFailure core ⟨shared, changed, dtos⟩ failure).shared
      (applyFailure core ⟨shared, changed, dtos⟩ failure).changed
      (applyFailure core ⟨shared, changed, dtos⟩ failure).samples
    exact ⟨statuses, h⟩

/-- The change a `PointPublish` event makes to the status of its point. -/
def recordPublish (core : Core Disk) (error : Option String) (status : PointStatus) :
    PointStatus :=
  match error with
  | none => core.recordPublishSuccess status
  | some message => core.recordPublishFailure status message

/-- The state after a critical section, up to its log, and the payloads besides log records.
Every constructor names a call or event with the guards it has passed. -/
inductive Tells (w : WebState Disk) (s : Server Disk) : Action → Shared → List Delta → Prop
  | asked {r} : (r = .startRepublisher → ¬ w.StartAccepted s) →
      r.edit w s.shared = none → Tells w s (.request r) s.shared []
  | noted {e} : e.isNote = true → Tells w s (.event e) s.shared []
  | shutdown : Tells w s .shutdown s.shared []
  | protocol {id} : (w.caps id).isSome = true →
      Tells w s (.request (.setProtocol id))
        { s.shared with
          config := { s.shared.config with protocol := id }
          devices := []
          browsed := [] }
        [.config (redactedConfig { s.shared.config with protocol := id }), .devices [],
          .browsed []]
  | saved {r edited} : r.edit w s.shared = some edited → w.Saves edited.config s.disk →
      Tells w s (.request r) edited [r.announces w edited]
  | rejected {r edited} : r.edit w s.shared = some edited → ¬ w.Saves edited.config s.disk →
      Tells w s (.request r) edited []
  | discover : Tells w s (.request .discover) { s.shared with devices := [] } [.devices []]
  | browse {index} : Tells w s (.request (.browseDevice index))
      { s.shared with browsed := [] } [.browsed []]
  | scanAll : Tells w s (.request .scanAll)
      { s.shared with scanProgress := some (0, s.shared.devices.length) }
      [.scanProgress 0 s.shared.devices.length]
  | start (stop) : w.StartAccepted s → Tells w s (.request .startRepublisher)
      { s.shared with stopFlag := stop, publishedTotal := 0, ackedTotal := 0, lastError := none } []
  | devices {outcome} : Tells w s (.event (.devices outcome))
      { s.shared with devices := outcome.devices }
      [.devices (outcome.devices.mapIdx deviceDto)]
  | points {points} : Tells w s (.event (.points points)) { s.shared with browsed := points }
      [.browsed (points.mapIdx (browsedDto w.core))]
  | scanProgress {current total} : Tells w s (.event (.scanProgress current total))
      { s.shared with scanProgress := some (current, total) } [.scanProgress current total]
  | bulkTagImport {result edited} :
      edited = { s.shared.withPoints result.points with scanProgress := none } →
      Tells w s (.event (.bulkTagImport result)) edited [.points (pointsJson w.core edited)]
  | samples {samples batch} : batch = samplesBatch w.core s.shared samples →
      Tells w s (.event (.samples samples))
        { batch.shared with
          recentSamples := batch.shared.recentSamples.take recentSampleCapacity }
        [.samples batch.samples batch.changed]
  | failures {failures batch} : batch = failuresBatch w.core s.shared failures →
      Tells w s (.event (.failures failures)) batch.shared [.statuses batch.changed]
  | publishStatus {stats published acked} :
      published = s.shared.publishedTotal + stats.published →
      acked = max s.shared.ackedTotal stats.acked →
      Tells w s (.event (.publishStatus stats))
        { s.shared with
          publishedTotal := published
          ackedTotal := acked
          lastError := stats.lastError }
        [.stats published acked stats.lastError]
  | pointPublish {identity error status} :
      status = recordPublish w.core error
        ((s.shared.statuses.lookup identity.canonical).getD w.core.defaultStatus) →
      Tells w s (.event (.pointPublish identity error))
        { s.shared with statuses := s.shared.statuses.insert identity.canonical status }
        [.statuses ((∅ : StatusDtos).insert (addressingKey w.core identity.addressing)
          (statusDto (some status)))]
  | lifecycle {lifecycle} : Tells w s (.event (.lifecycle lifecycle))
      { s.shared with lifecycle } [.lifecycle (lifecycleDto lifecycle)]

/-- What a config-editing handler says once the configuration is saved. -/
theorem Request.onSaved_speaks (w : WebState Disk) (r : Request) (removed : ℕ) {edited : Shared}
    {t : Server Disk} (ht : edited.SameUpToLog t.shared) :
    t.Says (r.onSaved w removed t).2 [r.announces w edited] := by
  have hconfig : t.Says t.emitConfig [.config (redactedConfig edited.config)] := by
    rw [ht.config]
    exact .emit t rfl
  have hpoints (u : Server Disk) (hu : edited.SameUpToLog u.shared) :
      u.Says (u.emitPoints w.core) [.points (pointsJson w.core edited)] := by
    have hsame : pointsJson w.core edited = pointsJson w.core u.shared := by
      unfold pointsJson
      rw [hu.config, hu.statuses]
    rw [hsame]
    exact .emit u rfl
  have hstatus {message : String} (hmessage : message ≠ "") :
      t.Says ((t.setStatus w.core .info message).emitPoints w.core)
        [.points (pointsJson w.core edited)] :=
    (Server.Says.setStatus w.core .info hmessage t).trans
      (hpoints _ (ht.trans (Server.silent_setStatus w.core .info message t).shared))
  cases r with
  | clearPoints =>
    refine hstatus ?_
    rw [String.append_assoc]
    exact append_ne_empty "Cleared " _ (by decide)
  | addBrowsedPoint index => exact hstatus (by decide)
  | setConnection | putSettings => exact hconfig
  | _ => exact hpoints t ht

/-- What the action does and says, up to the log. -/
def WebState.Told (w : WebState Disk) (s : Server Disk) (a : Action) : Prop :=
  ∃ shared ds, Tells w s a shared ds ∧ Server.Says { s with shared } (w.act s a) ds

/-- What a request that ends in `save_config` tells. -/
private theorem edits_told (w : WebState Disk) {r : Request} (hr : r.EditsConfig)
    (s : Server Disk) : w.Told s (.request r) := by
  cases hedit : r.edit w s.shared with
  | none =>
    obtain ⟨error, h⟩ := w.handle_refused hr hedit
    refine ⟨s.shared, [], .asked (fun hstart => ?_) hedit, ?_⟩
    · subst hstart
      exact hr.elim
    · simp only [WebState.act, h]
      exact .refl s
  | some edited =>
    simp only [WebState.Told, WebState.act, w.handle_edit_eq hedit]
    rcases w.saveThen_speaks (s := { s with shared := edited })
      fun t ht => r.onSaved_speaks w s.shared.config.points.length ht with hsaved | hrejected
    · exact ⟨edited, _, .saved hedit hsaved.1, hsaved.2⟩
    · exact ⟨edited, _, .rejected hedit hrejected.1, hrejected.2⟩

/-- Every handler call tells one of the listed changes. -/
theorem WebState.handle_told (w : WebState Disk) (r : Request) (s : Server Disk) :
    w.Told s (.request r) := by
  have hasked (hstart : r = .startRepublisher → ¬ w.StartAccepted s)
      (hedit : r.edit w s.shared = none) (hsaid : s.Says (w.handle r s).2 []) :
      w.Told s (.request r) := ⟨s.shared, [], .asked hstart hedit, hsaid⟩
  have hnostart (h : r ≠ .startRepublisher) : r = .startRepublisher → ¬ w.StartAccepted s :=
    fun heq => absurd heq h
  cases r with
  | getState | getStatus | getCapabilities | getConfig | getPoints | getLogs =>
    exact hasked (hnostart (by simp)) rfl (.refl s)
  | getInterfaces =>
    refine hasked (hnostart (by simp)) rfl (.setStatus _ _ ?_ s)
    rw [String.append_assoc]
    exact append_ne_empty "Refreshed " _ (by decide)
  | setProtocol id =>
    by_cases hcaps : (w.caps id).isSome = true
    · refine ⟨_, _, .protocol hcaps, ?_⟩
      simp only [act, handle, Republisher.setProtocol]
      rw [if_neg (by simpa [← Option.isSome_iff_ne_none] using hcaps)]
      exact (Server.Says.emit _ rfl).trans ((Server.Says.emit _ rfl).trans (.emit _ rfl))
    · refine hasked (hnostart (by simp)) rfl ?_
      simp only [handle, Republisher.setProtocol]
      rw [if_pos (by simpa using hcaps)]
      exact .refl s
  | discover =>
    cases hfactory : w.registry.get s.shared.config.protocol with
    | none =>
      refine hasked (hnostart (by simp)) rfl ?_
      simp only [handle, Republisher.discover, hfactory]
      exact .refl s
    | some factory =>
      refine ⟨_, _, .discover, ?_⟩
      simp only [act, handle, Republisher.discover, hfactory]
      exact ((Server.Says.setStatus _ _ (by decide) _).trans (.emit _ rfl)).of_eq rfl rfl
  | browseDevice index =>
    cases hdevice : s.shared.devices[index]? with
    | none =>
      refine hasked (hnostart (by simp)) rfl ?_
      simp only [handle, Republisher.browseDevice, hdevice]
      exact .refl s
    | some device =>
      cases hfactory : w.registry.get s.shared.config.protocol with
      | none =>
        refine hasked (hnostart (by simp)) rfl ?_
        simp only [handle, Republisher.browseDevice, hdevice, hfactory]
        exact .refl s
      | some factory =>
        refine ⟨_, _, .browse, ?_⟩
        simp only [act, handle, Republisher.browseDevice, hdevice, hfactory]
        have hmessage : "Browsing " ++ device.key ++ "…" ≠ "" := by
          rw [String.append_assoc]
          exact append_ne_empty "Browsing " _ (by decide)
        exact ((Server.Says.setStatus _ _ hmessage _).trans (.emit _ rfl)).of_eq rfl rfl
  | scanAll =>
    by_cases hdevices : s.shared.devices.isEmpty = true
    · refine hasked (hnostart (by simp)) rfl ?_
      simp only [handle, Republisher.scanAll, if_pos hdevices]
      exact .setStatus _ _ (by decide) s
    · cases hfactory : w.registry.get s.shared.config.protocol with
      | none =>
        refine hasked (hnostart (by simp)) rfl ?_
        simp only [handle, Republisher.scanAll, if_neg hdevices, hfactory]
        exact .refl s
      | some factory =>
        refine ⟨_, _, .scanAll, ?_⟩
        simp only [act, handle, Republisher.scanAll, if_neg hdevices, hfactory]
        exact ((Server.Says.setStatus _ _ (by decide) _).trans (.emit _ rfl)).of_eq rfl rfl
  | pollOnce =>
    refine hasked (hnostart (by simp)) rfl ?_
    cases hfactory : w.registry.get s.shared.config.protocol with
    | none =>
      simp only [handle, Republisher.pollOnce, hfactory]
      exact .refl s
    | some factory =>
      simp only [handle, Republisher.pollOnce, hfactory]
      exact (Server.Says.setStatus _ _ (by decide) s).of_eq rfl rfl
  | startRepublisher =>
    by_cases haccepted : w.StartAccepted s
    · obtain ⟨hactive, hvalidate, hregistered⟩ := haccepted
      obtain ⟨factory, hfactory⟩ := Option.isSome_iff_exists.mp hregistered
      refine ⟨_, _, .start (some s.stopFlags.length) ⟨hactive, hvalidate, hregistered⟩, ?_⟩
      simp only [act, handle, Republisher.startRepublisher, hactive, hvalidate, hfactory]
      exact (Server.Says.setStatus _ _ (by decide) _).of_eq rfl rfl
    · refine hasked (fun _ => haccepted) rfl ?_
      simp only [handle, Republisher.startRepublisher]
      split
      · exact .refl s
      · rename_i hactive
        split
        · exact .setStatus _ _ (append_ne_empty "Cannot start: " _ (by decide)) s
        · rename_i hvalidate
          split
          · exact .refl s
          · rename_i factory hfactory
            exact absurd ⟨by simpa using hactive, hvalidate, by rw [hfactory]; rfl⟩ haccepted
  | stopRepublisher =>
    refine hasked (hnostart (by simp)) rfl ?_
    simp only [handle, Republisher.stopRepublisher]
    cases hstop : s.shared.stopFlag with
    | none => exact .refl s
    | some stop =>
      simp only [Option.isSome_some, if_true, Server.raiseStop, hstop]
      exact (Server.Says.setStatus _ _ (by decide) s).of_eq rfl rfl
  | setConnection values => exact edits_told w (r := .setConnection values) trivial s
  | savePoint req => exact edits_told w (r := .savePoint req) trivial s
  | togglePoint index enabled => exact edits_told w (r := .togglePoint index enabled) trivial s
  | deletePoint index => exact edits_told w (r := .deletePoint index) trivial s
  | clearPoints => exact edits_told w (r := .clearPoints) trivial s
  | addBrowsedPoint index => exact edits_told w (r := .addBrowsedPoint index) trivial s
  | putSettings req => exact edits_told w (r := .putSettings req) trivial s

/-- Logging several warnings says nothing but log records. -/
private theorem foldl_log_speaks (core : Core Disk) (warnings : List String) (s : Server Disk) :
    s.Says (warnings.foldl (fun s warning => s.log core .warning warning) s) [] := by
  induction warnings generalizing s with
  | nil => exact .refl s
  | cons warning warnings ih => exact (Server.Says.log ..).trans (ih _)

/-- Every drained event tells one of the listed changes. -/
theorem WebState.applyEvent_told (w : WebState Disk) (e : WorkerEvent) (s : Server Disk) :
    w.Told s (.event e) := by
  cases e with
  | log level message => exact ⟨_, _, .noted rfl, .log ..⟩
  | finished message => exact ⟨_, _, .noted rfl, .log ..⟩
  | devices outcome =>
    refine ⟨_, _, .devices, ?_⟩
    have hlog := foldl_log_speaks w.core outcome.warnings
      (s.update fun shared => { shared with devices := outcome.devices })
    have hjson := congrArg (·.mapIdx deviceDto) hlog.shared.devices
    rw [show outcome.devices.mapIdx deviceDto = _ from hjson]
    exact hlog.trans (.emit _ rfl)
  | points points => exact ⟨_, _, .points, .emit _ rfl⟩
  | scanProgress current total =>
    exact ⟨_, _, .scanProgress,
      .emit (s.update fun shared => { shared with scanProgress := some (current, total) }) rfl⟩
  | bulkTagImport result =>
    refine ⟨_, _, .bulkTagImport rfl, ?_⟩
    have hsave := w.saveConfig_speaks (s.update fun shared =>
      { shared with
        config := { shared.config with points := result.points }
        scanProgress := none })
    have hmessage : bulkImportStatus result ≠ "" := by
      unfold bulkImportStatus
      have hstart := append_ne_empty "Bulk import: " (toString result.added) (by decide)
      exact append_ne_empty _ _ (append_ne_empty _ _ (append_ne_empty _ _ hstart))
    have hsaid := hsave.trans (.setStatus w.core .info hmessage _)
    have hjson : pointsJson w.core { s.shared.withPoints result.points with scanProgress := none } =
        pointsJson w.core (Server.setStatus w.core .info (bulkImportStatus result)
          (w.saveConfig (s.update fun shared =>
            { shared with
              config := { shared.config with points := result.points }
              scanProgress := none })).2).shared := by
      unfold pointsJson
      rw [← hsaid.shared.config, ← hsaid.shared.statuses]
      rfl
    rw [hjson]
    exact hsaid.trans (.emit _ rfl)
  | samples samples => exact ⟨_, _, .samples rfl, .emit (s.update fun _ => _) rfl⟩
  | failures failures => exact ⟨_, _, .failures rfl, .emit (s.update fun _ => _) rfl⟩
  | publishStatus stats =>
    exact ⟨_, _, .publishStatus rfl rfl, .emit (s.update fun shared => { shared with
      publishedTotal := shared.publishedTotal + stats.published
      ackedTotal := max shared.ackedTotal stats.acked
      lastError := stats.lastError }) rfl⟩
  | pointPublish identity error =>
    exact ⟨_, _, .pointPublish rfl, .emit (s.update fun _ => _) rfl⟩
  | lifecycle lifecycle =>
    refine ⟨_, _, .lifecycle, ?_⟩
    cases lifecycle with
    | failed error =>
      have hlog := Server.Says.log w.core .error ("Republisher failed: " ++ error)
        (s.update fun shared => { shared with lifecycle := .failed error })
      exact hlog.trans (.emit _ rfl)
    | starting | running | stopping | stopped =>
      exact .emit (s.update fun shared => { shared with lifecycle := _ }) rfl

/-- Every critical section tells one of the listed changes. -/
theorem WebState.act_told (w : WebState Disk) (a : Action) (s : Server Disk) : w.Told s a := by
  cases a with
  | request r => exact w.handle_told r s
  | event e => exact w.applyEvent_told e s
  | shutdown =>
    refine ⟨_, _, .shutdown, ?_⟩
    have hsaid := Server.Says.setStatus w.core .info (show "Shutting down…" ≠ "" by decide) s
    cases hstop : s.shared.stopFlag with
    | none =>
      simp only [act, Republisher.shutdown, Server.raiseStop, hstop]
      exact hsaid
    | some stop =>
      simp only [act, Republisher.shutdown, Server.raiseStop, hstop]
      exact hsaid.of_eq rfl rfl

/-! ## The critical sections of the system -/

/-- Every payload emitted, on the channel or not, oldest first. -/
def System.told (σ : System Disk) : List Delta := σ.aired ++ σ.server.events

/-- The critical section a step runs. -/
def System.action (σ : System Disk) : Label → Option Action
  | .request r => some (.request r)
  | .drain => σ.channel.head?.map fun entry => .event entry.2
  | .shutdown => some .shutdown
  | _ => none

/-- A step runs a critical section, or it changes neither the shared state nor what has been
told. -/
theorem WebState.step_action {w : WebState Disk} {σ τ : System Disk} {l : Label}
    (h : w.step σ l = some τ) :
    (∃ a, σ.action l = some a ∧ τ.server = w.act σ.server a ∧ τ.aired = σ.aired) ∨
      (σ.action l = none ∧ τ.server.shared = σ.server.shared ∧ τ.told = σ.told) := by
  cases step_cases h with
  | request => exact .inl ⟨_, rfl, rfl, rfl⟩
  | @drain k e channel hchannel =>
    exact .inl ⟨.event e, by simp [System.action, hchannel], rfl, rfl⟩
  | shutdown => exact .inl ⟨_, rfl, rfl, rfl⟩
  | emit hevents =>
    refine .inr ⟨rfl, rfl, ?_⟩
    simp [System.told, hevents]
  | send | scanned | snapshot | subscribe | receive => exact .inr ⟨rfl, rfl, rfl⟩

end Republisher
