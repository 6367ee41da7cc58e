import Republisher.Announce
import Republisher.Replay
import Republisher.Transition

/-!
# Browsers that miss no delta

A browser starts from a snapshot and folds the payloads emitted since. A register is
a part of what it shows that each delta either carries whole or leaves alone; it
follows the server as long as every change of it is announced.
-/

namespace Republisher

variable {Disk : Type}

/-- What a browser shows that starts from the snapshot of `base` and then handles `deltas`. -/
def WebState.shown (w : WebState Disk) (stringify : Json → String) (b : Browser) (base : Shared)
    (deltas : List Delta) : Browser :=
  b.handleEvents stringify (.snapshot (w.snapshotJson base) :: deltas.map .delta)

/-- What a browser shows in `t` that got its snapshot in `s` and missed no payload since. -/
def WebState.follow (w : WebState Disk) (stringify : Json → String) (b : Browser)
    (s t : Server Disk) : Browser :=
  w.shown stringify b s.shared (t.events.drop s.events.length)

/-- At first it shows the snapshot. -/
theorem WebState.follow_self (w : WebState Disk) (stringify : Json → String) (b : Browser)
    (s : Server Disk) :
    w.follow stringify b s s = b.hydrate stringify (w.snapshotJson s.shared) := by
  rw [WebState.follow, List.drop_length]
  rfl

/-- The critical sections as a transition function, in which every step is enabled. -/
def WebState.advance (w : WebState Disk) (s : Server Disk) (a : Action) : Option (Server Disk) :=
  some (w.act s a)

/-- Running critical sections never gets stuck. -/
theorem WebState.run_advance (w : WebState Disk) (s : Server Disk) (actions : List Action) :
    Transition.run w.advance s actions = some (w.acts s actions) := by
  induction actions generalizing s with
  | nil => rfl
  | cons a actions ih => exact ih (w.act s a)

/-- Every step is taken, so a condition along a run is met by its first step and along the
rest. -/
theorem WebState.along_advance_cons {w : WebState Disk} {told : Server Disk → Action → Prop}
    {s : Server Disk} {a : Action} {actions : List Action} :
    Transition.Along w.advance (fun t a _ => told t a) s (a :: actions) ↔
      told s a ∧ Transition.Along w.advance (fun t a _ => told t a) (w.act s a) actions := by
  constructor
  · exact fun h => h _ rfl
  · rintro h t ht
    obtain rfl := Option.some.inj ht
    exact h

/-- A critical section appends what it says, and leaves the state it told of. -/
theorem Server.Says.append {s t : Server Disk} {shared : Shared} {ds : List Delta}
    (h : Server.Says { s with shared } t ds) :
    ∃ said, t.events = s.events ++ said ∧ said.filter (fun d => !d.isLog) = ds := by
  obtain ⟨said, hevents, hds, -⟩ := h.events
  exact ⟨said, hevents, hds⟩

/-- Emitted payloads are never taken back. -/
theorem WebState.act_events (w : WebState Disk) (a : Action) (s : Server Disk) :
    s.events <+: (w.act s a).events := by
  obtain ⟨shared, ds, -, hsaid⟩ := w.act_told a s
  obtain ⟨said, hevents, -⟩ := hsaid.append
  exact ⟨said, hevents.symm⟩

/-! ## Views -/

/-- A part of what a browser shows that follows the deltas on its own and that no log record
changes. -/
structure View (β : Type) where
  shown : Browser → β
  apply : β → Delta → β
  shown_handleDelta : ∀ stringify (b : Browser) d, b.Hydrated →
    shown (b.handleDelta stringify d) = apply (shown b) d
  apply_log : ∀ value (d : Delta), d.isLog = true → apply value d = value

namespace View

variable {β : Type} (v : View β) {w : WebState Disk}

/-- What the view shows after a list of deltas. -/
theorem shown_handleDeltas (stringify : Json → String) {b : Browser} (hb : b.Hydrated)
    (deltas : List Delta) :
    v.shown (b.handleDeltas stringify deltas) = deltas.foldl v.apply (v.shown b) :=
  Replay.view_foldl (fun _ d hs => Browser.Hydrated.handleDelta stringify hs d)
    (fun s d => v.shown_handleDelta stringify s d) hb deltas

/-- The log records among what was said do not change the view. -/
theorem foldl_filter (said : List Delta) (value : β) :
    (said.filter fun d => !d.isLog).foldl v.apply value = said.foldl v.apply value :=
  Replay.foldl_filter_of_neutral
    (fun value d hd => v.apply_log value d (by simpa using hd)) value said

/-- One more critical section adds the payloads it tells. -/
theorem follow_act (stringify : Json → String) (b : Browser) {s t : Server Disk} {a : Action}
    {shared : Shared} {ds : List Delta} (hmore : s.events <+: t.events)
    (hsaid : Server.Says { t with shared } (w.act t a) ds) :
    v.shown (w.follow stringify b s (w.act t a)) =
      ds.foldl v.apply (v.shown (w.follow stringify b s t)) := by
  have hb := Browser.hydrated_hydrate stringify (w.snapshotJson s.shared) b
  obtain ⟨more, hmore⟩ := hmore
  obtain ⟨said, hevents, hds⟩ := hsaid.append
  have hall : (w.act t a).events = s.events ++ (more ++ said) := by
    rw [hevents, ← hmore, List.append_assoc]
  simp only [WebState.follow, WebState.shown, Browser.handleEvents_snapshot,
    v.shown_handleDeltas stringify hb]
  rw [hall, ← hmore, List.drop_left, List.drop_left, List.foldl_append, ← hds, v.foldl_filter]

/-- A relation between the server and a view that the snapshot establishes and every step
keeps holds of a browser that misses nothing, in every state. -/
theorem throughout_follow (agrees : Shared → β → Prop)
    (hlog : ∀ a b value, a.SameUpToLog b → agrees a value → agrees b value)
    (told : Server Disk → Action → Prop)
    (hstep : ∀ {s a shared ds value}, Tells w s a shared ds → told s a → agrees s.shared value →
      agrees shared (ds.foldl v.apply value))
    (stringify : Json → String) (b : Browser) {s : Server Disk} {actions : List Action}
    (hs : agrees s.shared (v.shown (w.follow stringify b s s)))
    (h : Transition.Along w.advance (fun t a _ => told t a) s actions) :
    Transition.Throughout w.advance (fun t =>
      s.events <+: t.events ∧ agrees t.shared (v.shown (w.follow stringify b s t))) s actions := by
  refine Transition.throughout_of_along ?_ ⟨List.prefix_rfl, hs⟩ h
  rintro t a u ⟨hmore, hagrees⟩ hadvance htold
  obtain rfl := Option.some.inj hadvance
  obtain ⟨shared, ds, htells, hsaid⟩ := w.act_told a t
  refine ⟨hmore.trans (w.act_events a t), hlog _ _ _ hsaid.shared ?_⟩
  rw [v.follow_act stringify b hmore hsaid]
  exact hstep htells htold hagrees

/-- A view shows what the server holds throughout a run exactly when what every step tells
makes it so; here this is a condition on the state before the step. -/
theorem throughout_iff (held : Shared → β)
    (hlog : ∀ a b : Shared, a.SameUpToLog b → held a = held b) {stringify : Json → String}
    {b : Browser} (hself : ∀ s : Server Disk, v.shown (w.follow stringify b s s) = held s.shared)
    (told : Server Disk → Action → Prop)
    (htold : ∀ {s a shared ds}, Tells w s a shared ds →
      (ds.foldl v.apply (held s.shared) = held shared ↔ told s a))
    (s : Server Disk) (actions : List Action) :
    Transition.Throughout w.advance (fun t =>
        v.shown (w.follow stringify b s t) = held t.shared) s actions ↔
      Transition.Along w.advance (fun t a _ => told t a) s actions := by
  have hstep (t : Server Disk) (a : Action) (hmore : s.events <+: t.events)
      (hshown : v.shown (w.follow stringify b s t) = held t.shared) :
      v.shown (w.follow stringify b s (w.act t a)) = held (w.act t a).shared ↔ told t a := by
    obtain ⟨shared, ds, htells, hsaid⟩ := w.act_told a t
    rw [← htold htells, ← hlog _ _ hsaid.shared, v.follow_act stringify b hmore hsaid, hshown]
  have hkeep (t : Server Disk) (a : Action) (u : Server Disk)
      (h : s.events <+: t.events ∧ v.shown (w.follow stringify b s t) = held t.shared)
      (hadvance : w.advance t a = some u) (hC : told t a) :
      s.events <+: u.events ∧ v.shown (w.follow stringify b s u) = held u.shared := by
    obtain rfl := Option.some.inj hadvance
    exact ⟨h.1.trans (w.act_events a t), (hstep t a h.1 h.2).mpr hC⟩
  refine Transition.throughout_iff_along hkeep (fun t ht => ht.2) ?_ ⟨List.prefix_rfl, hself s⟩
  rintro t a u ⟨hmore, hshown⟩ hadvance hQ
  obtain rfl := Option.some.inj hadvance
  exact (hstep t a hmore hshown).mp hQ

end View

/-! ## Registers -/

/-- A part of what a browser shows, with what the server holds for it and the value a delta
carries for it. A delta that carries none leaves it alone. -/
structure Register (w : WebState Disk) (β : Type) where
  shown : Browser → β
  held : Shared → β
  carried : Delta → Option β
  shown_hydrate : ∀ stringify b shared,
    shown (Browser.hydrate stringify (w.snapshotJson shared) b) = held shared
  shown_handleDelta : ∀ stringify (b : Browser) d, b.Hydrated →
    shown (b.handleDelta stringify d) = (carried d).getD (shown b)
  carried_log : ∀ d : Delta, d.isLog = true → carried d = none
  held_log : ∀ a b : Shared, a.SameUpToLog b → held a = held b

/-- What a delta does to the status shown. -/
def showStatus (status : StatusDto) : Delta → StatusDto
  | .log _ (some statusLine) => if statusLine = "" then status else { status with statusLine }
  | .devices devices => { status with devices := devices.length }
  | .scanProgress current total => { status with scanProgress := some (current, total) }
  | .points points => { status with points := points.length }
  | .stats publishedTotal ackedTotal lastError =>
      { status with publishedTotal, ackedTotal, lastError }
  | .lifecycle lifecycle => { status with lifecycle }
  | .config config => { status with protocol := config.config.protocol }
  | _ => status

/-- A log delta sets at most the status line. -/
theorem showStatus_log (status : StatusDto) {d : Delta} (hd : d.isLog = true) :
    ∃ statusLine, showStatus status d = { status with statusLine } := by
  cases d with
  | log record line =>
    cases line with
    | none => exact ⟨status.statusLine, rfl⟩
    | some line =>
      by_cases hline : line = ""
      · exact ⟨status.statusLine, if_pos hline⟩
      · exact ⟨line, if_neg hline⟩
  | _ => cases hd

/-- The status shown after a delta. -/
theorem Browser.handleDelta_status (stringify : Json → String) (b : Browser) (d : Delta) :
    (b.handleDelta stringify d).status = b.status.map (showStatus · d) := by
  have hsame (f : StatusDto → StatusDto) (hf : ∀ s, f s = s) : b.status = b.status.map f := by
    rw [show f = id from funext hf, Option.map_id, id]
  cases d with
  | log record line =>
    cases line with
    | none => exact hsame _ fun _ => rfl
    | some line =>
      simp only [handleDelta, pushLog]
      split
      · rename_i hline
        exact hsame _ fun s => if_pos hline
      · rename_i hline
        refine congrArg (Option.map · b.status) (funext fun s => ?_)
        exact (if_neg hline).symm
  | browsed | samples | statuses => exact hsame _ fun _ => rfl
  | devices | scanProgress | points | stats | lifecycle | config => rfl

/-- A log delta changes nothing but the log and the status. -/
theorem Browser.handleDelta_log (stringify : Json → String) (b : Browser) (record : LogRecord)
    (line : Option String) :
    ∃ logs status, b.handleDelta stringify (.log record line) = { b with logs, status } := by
  cases line with
  | none => exact ⟨_, b.status, rfl⟩
  | some line =>
    simp only [handleDelta, pushLog]
    split
    · exact ⟨_, b.status, rfl⟩
    · exact ⟨_, _, rfl⟩

namespace Register

variable (w : WebState Disk)

/-- The device list. -/
def devices : Register w (List DeviceDto) where
  shown := Browser.devices
  held := devicesJson
  carried
    | .devices devices => some devices
    | _ => none
  shown_hydrate _ _ _ := rfl
  shown_handleDelta stringify b d _ := by
    cases d with
    | log record line =>
      obtain ⟨logs, status, h⟩ := b.handleDelta_log stringify record line
      exact (congrArg Browser.devices h).trans rfl
    | _ => rfl
  carried_log d hd := by cases d <;> first | rfl | cases hd
  held_log _ _ h := congrArg (·.mapIdx deviceDto) h.devices

/-- The list of browsed points. -/
def browsed : Register w (List BrowsedPointDto) where
  shown := Browser.browsed
  held := browsedJson w.core
  carried
    | .browsed points => some points
    | _ => none
  shown_hydrate _ _ _ := rfl
  shown_handleDelta stringify b d _ := by
    cases d with
    | log record line =>
      obtain ⟨logs, status, h⟩ := b.handleDelta_log stringify record line
      exact (congrArg Browser.browsed h).trans rfl
    | _ => rfl
  carried_log d hd := by cases d <;> first | rfl | cases hd
  held_log _ _ h := congrArg (·.mapIdx (browsedDto w.core)) h.browsed

/-- The life cycle. -/
def lifecycle : Register w LifecycleDto where
  shown := Browser.lifecycle
  held shared := lifecycleDto shared.lifecycle
  carried
    | .lifecycle lifecycle => some lifecycle
    | _ => none
  shown_hydrate _ _ _ := rfl
  shown_handleDelta stringify b d _ := by
    cases d with
    | log record line =>
      obtain ⟨logs, status, h⟩ := b.handleDelta_log stringify record line
      exact (congrArg Browser.lifecycle h).trans rfl
    | _ => rfl
  carried_log d hd := by cases d <;> first | rfl | cases hd
  held_log _ _ h := congrArg lifecycleDto h.lifecycle

/-- The configuration with the secret flags. -/
def config : Register w (Option AppConfig × SecretFlags) where
  shown b := (b.config, b.secrets)
  held shared :=
    (some (redactedConfig shared.config).config, (redactedConfig shared.config).secrets)
  carried
    | .config config => some (some config.config, config.secrets)
    | _ => none
  shown_hydrate _ _ _ := rfl
  shown_handleDelta stringify b d _ := by
    cases d with
    | log record line =>
      obtain ⟨logs, status, h⟩ := b.handleDelta_log stringify record line
      exact (congrArg (fun b : Browser => (b.config, b.secrets)) h).trans rfl
    | _ => rfl
  carried_log d hd := by cases d <;> first | rfl | cases hd
  held_log _ _ h := by rw [h.config]

/-- A part of the status that no log delta changes. -/
def ofStatus {β : Type} (view : StatusDto → β) (carried : Delta → Option β)
    (hline : ∀ status statusLine, view { status with statusLine } = view status)
    (hview : ∀ d status, d.isLog = false →
      view (showStatus status d) = (carried d).getD (view status))
    (hlog : ∀ d : Delta, d.isLog = true → carried d = none)
    (hheld : ∀ a b : Shared, a.SameUpToLog b → view (w.statusJson a) = view (w.statusJson b)) :
    Register w (Option β) where
  shown b := b.status.map view
  held shared := some (view (w.statusJson shared))
  carried d := (carried d).map some
  shown_hydrate _ _ _ := rfl
  shown_handleDelta stringify b d hb := by
    obtain ⟨status, hstatus⟩ := Option.isSome_iff_exists.mp hb
    have hafter : view (showStatus status d) = (carried d).getD (view status) := by
      cases hd : d.isLog with
      | false => exact hview d status hd
      | true =>
        obtain ⟨statusLine, hshown⟩ := showStatus_log status hd
        rw [hshown, hline, hlog d hd, Option.getD_none]
    rw [b.handleDelta_status stringify d, hstatus]
    simp only [Option.map_some, hafter]
    cases carried d <;> rfl
  carried_log d hd := by rw [hlog d hd, Option.map_none]
  held_log a b h := congrArg some (hheld a b h)

/-- The active protocol in the status. -/
def protocol : Register w (Option String) :=
  ofStatus w StatusDto.protocol
    (fun
      | .config config => some config.config.protocol
      | _ => none)
    (fun _ _ => rfl) (fun d _ hd => by cases d <;> first | rfl | cases hd)
    (fun d hd => by cases d <;> first | rfl | cases hd)
    (fun _ _ h => congrArg AppConfig.protocol h.config)

/-- The life cycle in the status. -/
def statusLifecycle : Register w (Option LifecycleDto) :=
  ofStatus w StatusDto.lifecycle
    (fun
      | .lifecycle lifecycle => some lifecycle
      | _ => none)
    (fun _ _ => rfl) (fun d _ hd => by cases d <;> first | rfl | cases hd)
    (fun d hd => by cases d <;> first | rfl | cases hd)
    (fun _ _ h => congrArg lifecycleDto h.lifecycle)

/-- The number of devices in the status. -/
def deviceCount : Register w (Option ℕ) :=
  ofStatus w StatusDto.devices
    (fun
      | .devices devices => some devices.length
      | _ => none)
    (fun _ _ => rfl) (fun d _ hd => by cases d <;> first | rfl | cases hd)
    (fun d hd => by cases d <;> first | rfl | cases hd)
    (fun _ _ h => congrArg List.length h.devices)

/-- The published and acknowledged totals and the last broker error. -/
def stats : Register w (Option (ℕ × ℕ × Option String)) :=
  ofStatus w (fun status => (status.publishedTotal, status.ackedTotal, status.lastError))
    (fun
      | .stats published acked error => some (published, acked, error)
      | _ => none)
    (fun _ _ => rfl) (fun d _ hd => by cases d <;> first | rfl | cases hd)
    (fun d hd => by cases d <;> first | rfl | cases hd)
    (fun _ _ h => Prod.ext h.publishedTotal (Prod.ext h.ackedTotal h.lastError))

/-- The progress of a scan. -/
def scanProgress : Register w (Option (Option (ℕ × ℕ))) :=
  ofStatus w StatusDto.scanProgress
    (fun
      | .scanProgress current total => some (some (current, total))
      | _ => none)
    (fun _ _ => rfl) (fun d _ hd => by cases d <;> first | rfl | cases hd)
    (fun d hd => by cases d <;> first | rfl | cases hd)
    (fun _ _ h => h.scanProgress)

end Register

namespace Register

variable {w : WebState Disk} {β : Type}

/-- A register is a view. -/
def view (f : Register w β) : View β where
  shown := f.shown
  apply value d := (f.carried d).getD value
  shown_handleDelta := f.shown_handleDelta
  apply_log value d hd := by rw [f.carried_log d hd, Option.getD_none]

/-- The change from `s` to `t` is announced: the payloads carry the new value, or it has not
changed. -/
def Announced (f : Register w β) (s : Shared) (ds : List Delta) (t : Shared) : Prop :=
  Replay.latest f.carried (f.held s) ds = f.held t

/-- If being announced is the same as a condition on the state before the step, then a register
shows what the server holds throughout a run exactly when every step meets the condition. -/
theorem throughout_iff (f : Register w β) (told : Server Disk → Action → Prop)
    (htold : ∀ {s a shared ds}, Tells w s a shared ds →
      (f.Announced s.shared ds shared ↔ told s a))
    (stringify : Json → String) (b : Browser) (s : Server Disk) (actions : List Action) :
    Transition.Throughout w.advance (fun t =>
        f.shown (w.follow stringify b s t) = f.held t.shared) s actions ↔
      Transition.Along w.advance (fun t a _ => told t a) s actions :=
  f.view.throughout_iff f.held f.held_log
    (fun s => (congrArg f.shown (w.follow_self stringify b s)).trans
      (f.shown_hydrate stringify b s.shared)) told htold s actions

/-- Every change of the device list, the browsed list, the life cycle (in both places), the
active protocol and the device count is announced. -/
theorem announced {s : Server Disk} {a : Action} {shared : Shared} {ds : List Delta}
    (h : Tells w s a shared ds) :
    (devices w).Announced s.shared ds shared ∧ (browsed w).Announced s.shared ds shared ∧
      (lifecycle w).Announced s.shared ds shared ∧
      (statusLifecycle w).Announced s.shared ds shared ∧
      (protocol w).Announced s.shared ds shared ∧
      (deviceCount w).Announced s.shared ds shared := by
  cases h with
  | @saved r edited hedit =>
    have hprotocol := congrArg some (Request.edit_sameButConfig hedit).protocol
    obtain ⟨config, statuses, rfl⟩ := Request.edit_rest hedit
    rcases r.announces_cases w { s.shared with config, statuses } with h | h <;> rw [h]
    · exact ⟨rfl, rfl, rfl, rfl, rfl, rfl⟩
    · exact ⟨rfl, rfl, rfl, rfl, hprotocol.symm, rfl⟩
  | rejected hedit =>
    have hprotocol := congrArg some (Request.edit_sameButConfig hedit).protocol
    obtain ⟨config, statuses, rfl⟩ := Request.edit_rest hedit
    exact ⟨rfl, rfl, rfl, rfl, hprotocol.symm, rfl⟩
  | bulkTagImport hedited =>
    subst hedited
    exact ⟨rfl, rfl, rfl, rfl, rfl, rfl⟩
  | @samples samples batch hbatch =>
    obtain ⟨statuses, recentSamples, h⟩ := samplesBatch_shared w.core s.shared samples
    rw [hbatch, h]
    exact ⟨rfl, rfl, rfl, rfl, rfl, rfl⟩
  | @failures failures batch hbatch =>
    obtain ⟨statuses, h⟩ := failuresBatch_shared w.core s.shared failures
    rw [hbatch, h]
    exact ⟨rfl, rfl, rfl, rfl, rfl, rfl⟩
  | devices =>
    refine ⟨rfl, rfl, rfl, rfl, rfl, ?_⟩
    exact congrArg some (List.length_mapIdx ..)
  | _ => exact ⟨rfl, rfl, rfl, rfl, rfl, rfl⟩

end Register

/-! ## The log -/

/-- The log and the status line a hydrated browser shows follow `showLog`. -/
theorem Browser.handleDelta_showLog (stringify : Json → String) (b : Browser) (d : Delta)
    (shown : List LogRecord × String)
    (h : (b.logs, b.status.map StatusDto.statusLine) = (shown.1, some shown.2)) :
    ((b.handleDelta stringify d).logs,
        (b.handleDelta stringify d).status.map StatusDto.statusLine) =
      ((showLog shown d).1, some (showLog shown d).2) := by
  obtain ⟨hlogs, hline⟩ := Prod.mk.inj h
  obtain ⟨status, hstatus, hshown⟩ := Option.map_eq_some_iff.mp hline
  rw [b.handleDelta_status stringify d, hstatus, Option.map_some, Option.map_some]
  cases d with
  | log record line =>
    cases line with
    | none =>
      simp only [handleDelta, pushLog, showLog, showStatus, hlogs, hshown]
    | some line =>
      simp only [handleDelta, pushLog, showLog, showStatus]
      split
      · simp only [hlogs, hshown]
      · simp only [Browser.updateStatus, hlogs]
  | _ => exact Prod.ext hlogs (congrArg some hshown)

/-- The same for a list of deltas. -/
theorem Browser.handleDeltas_showLog (stringify : Json → String) (b : Browser)
    (deltas : List Delta) (shown : List LogRecord × String)
    (h : (b.logs, b.status.map StatusDto.statusLine) = (shown.1, some shown.2)) :
    ((b.handleDeltas stringify deltas).logs,
        (b.handleDeltas stringify deltas).status.map StatusDto.statusLine) =
      ((deltas.foldl showLog shown).1, some (deltas.foldl showLog shown).2) := by
  induction deltas generalizing b shown with
  | nil => exact h
  | cons d deltas ih =>
    exact ih (b.handleDelta stringify d) (showLog shown d)
      (b.handleDelta_showLog stringify d shown h)

/-- What a critical section does to the log, it does by logging. -/
theorem Tells.log {w : WebState Disk} {s : Server Disk} {a : Action} {shared : Shared}
    {ds : List Delta} (h : Tells w s a shared ds) :
    shared.logs = s.shared.logs ∧ shared.logSeq = s.shared.logSeq ∧
      shared.statusLine = s.shared.statusLine := by
  cases h with
  | saved hedit | rejected hedit =>
    obtain ⟨config, statuses, rfl⟩ := Request.edit_rest hedit
    exact ⟨rfl, rfl, rfl⟩
  | bulkTagImport hedited =>
    subst hedited
    exact ⟨rfl, rfl, rfl⟩
  | @samples samples batch hbatch =>
    obtain ⟨statuses, recentSamples, h⟩ := samplesBatch_shared w.core s.shared samples
    rw [hbatch, h]
    exact ⟨rfl, rfl, rfl⟩
  | @failures failures batch hbatch =>
    obtain ⟨statuses, h⟩ := failuresBatch_shared w.core s.shared failures
    rw [hbatch, h]
    exact ⟨rfl, rfl, rfl⟩
  | _ => exact ⟨rfl, rfl, rfl⟩

/-- What a critical section emits takes a browser's log to the log of the server. -/
theorem WebState.act_log (w : WebState Disk) (a : Action) (s : Server Disk) :
    (s.shared.LogRing → (w.act s a).shared.LogRing) ∧
      ∃ said, (w.act s a).events = s.events ++ said ∧
        said.foldl showLog (s.shared.logs, s.shared.statusLine) =
          ((w.act s a).shared.logs, (w.act s a).shared.statusLine) := by
  obtain ⟨shared, ds, htells, hsaid⟩ := w.act_told a s
  obtain ⟨hlogs, hseq, hline⟩ := htells.log
  obtain ⟨said, hevents, -, hlog⟩ := hsaid.events
  refine ⟨fun hring => hsaid.ring ?_, said, hevents, ?_⟩
  · refine ⟨?_, ?_, ?_⟩ <;> simp only [hlogs, hseq]
    · exact hring.bounded
    · exact hring.consecutive
    · exact hring.last
  · rw [← hlogs, ← hline]
    exact hlog

/-- The log holds one record at boot. -/
theorem WebState.new_logRing (w : WebState Disk) (config : AppConfig) (bootStatus : String)
    (disk : Disk) : (w.new config bootStatus disk).shared.LogRing :=
  Shared.LogRing.pushLog ⟨Nat.zero_le _, List.isChain_nil, by simp⟩ w.core .info bootStatus

/-- The log stays a ring. -/
theorem WebState.acts_logRing (w : WebState Disk) {s : Server Disk} (h : s.shared.LogRing)
    (actions : List Action) : (w.acts s actions).shared.LogRing :=
  Replay.foldl_invariant (P := fun s : Server Disk => s.shared.LogRing)
    (fun s a => (w.act_log a s).1) h actions

/-- A browser that misses nothing shows the log and the status line of the server. -/
theorem WebState.follow_log (w : WebState Disk) (stringify : Json → String) (b : Browser)
    (s : Server Disk) (actions : List Action) :
    ((w.follow stringify b s (w.acts s actions)).logs,
        (w.follow stringify b s (w.acts s actions)).status.map StatusDto.statusLine) =
      ((w.acts s actions).shared.logs, some (w.acts s actions).shared.statusLine) := by
  have hfold : ∃ said, (w.acts s actions).events = s.events ++ said ∧
      said.foldl showLog (s.shared.logs, s.shared.statusLine) =
        ((w.acts s actions).shared.logs, (w.acts s actions).shared.statusLine) := by
    induction actions using List.reverseRecOn with
    | nil => exact ⟨[], (List.append_nil _).symm, rfl⟩
    | append_singleton actions a ih =>
      obtain ⟨said, hevents, hlog⟩ := ih
      obtain ⟨more, hmore, hlog'⟩ := (w.act_log a (w.acts s actions)).2
      rw [show w.acts s (actions ++ [a]) = w.act (w.acts s actions) a from List.foldl_append]
      refine ⟨said ++ more, ?_, ?_⟩
      · rw [hmore, hevents, List.append_assoc]
      · rw [List.foldl_append, hlog, hlog']
  obtain ⟨said, hevents, hlog⟩ := hfold
  rw [WebState.follow, hevents, List.drop_left, WebState.shown, Browser.handleEvents_snapshot]
  have hshown := Browser.handleDeltas_showLog stringify
    (b.hydrate stringify (w.snapshotJson s.shared)) said (s.shared.logs, s.shared.statusLine) rfl
  rw [hlog] at hshown
  exact hshown

/-! ## What a browser shows that misses nothing -/

/-- The browser shows what the snapshot says about the log, the devices, the browsed points,
the run state and the active protocol, and its log is the ring of at most 500 records with
consecutive numbers. -/
structure Browser.Mirrors (b : Browser) (now : Snapshot) : Prop where
  logs : b.logs = now.logs
  logs_bounded : b.logs.length ≤ 500
  logs_consecutive : b.logs.IsChain fun record next => next.seq = record.seq + 1
  statusLine : b.status.map StatusDto.statusLine = some now.status.statusLine
  devices : b.devices = now.devices
  deviceCount : b.status.map StatusDto.devices = some now.status.devices
  browsed : b.browsed = now.browsed
  lifecycle : b.lifecycle = now.status.lifecycle
  statusLifecycle : b.status.map StatusDto.lifecycle = some now.status.lifecycle
  protocol : b.status.map StatusDto.protocol = some now.status.protocol

/-- Whatever was called and drained before the snapshot and after it, a browser that misses no
delta shows the log, the status line, the devices, the browsed points, the run state and the
active protocol as a snapshot of the server's state would give them now. -/
theorem WebState.follow_mirrors (w : WebState Disk) (stringify : Json → String) (b : Browser)
    (config : AppConfig) (bootStatus : String) (disk : Disk) (before after : List Action) :
    let s := w.acts (w.new config bootStatus disk) before
    let t := w.acts s after
    (w.follow stringify b s t).Mirrors (w.snapshotJson t.shared) := by
  intro s t
  have hring : t.shared.LogRing :=
    w.acts_logRing (w.acts_logRing (w.new_logRing config bootStatus disk) before) after
  obtain ⟨hlogs, hline⟩ := Prod.mk.inj (w.follow_log stringify b s after)
  have hregister {β : Type} (f : Register w β)
      (hf : ∀ {s a shared ds}, Tells w s a shared ds → f.Announced s.shared ds shared) :
      f.shown (w.follow stringify b s t) = f.held t.shared := by
    have hthroughout := (f.throughout_iff (fun _ _ => True)
      (fun h => iff_of_true (hf h) trivial) stringify b s after).mpr
      (Transition.along_of_forall fun _ _ _ _ => trivial)
    exact hthroughout.last (w.run_advance s after)
  exact
    { logs := hlogs
      logs_bounded := hlogs ▸ hring.bounded
      logs_consecutive := hlogs ▸ hring.consecutive
      statusLine := hline
      devices := hregister (.devices w) fun h => (Register.announced h).1
      browsed := hregister (.browsed w) fun h => (Register.announced h).2.1
      lifecycle := hregister (.lifecycle w) fun h => (Register.announced h).2.2.1
      statusLifecycle :=
        hregister (.statusLifecycle w) fun h => (Register.announced h).2.2.2.1
      protocol := hregister (.protocol w) fun h => (Register.announced h).2.2.2.2.1
      deviceCount := hregister (.deviceCount w) fun h => (Register.announced h).2.2.2.2.2 }

end Republisher
