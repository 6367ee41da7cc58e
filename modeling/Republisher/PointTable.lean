import Republisher.Instance
import Republisher.Mirror

/-!
# The table of configured points

A browser keeps the configured points as it was last sent them and files statuses by
identity key. It shows the server's points as long as every change of them is sent
whole and the keys tell the identities apart when statuses are sent by key.
-/

namespace Republisher

variable {Disk : Type}

/-! ## What the browser does with its table -/

/-- The points and the statuses filed by key. -/
abbrev PointTable := List PointDto × StatusDtos

/-- The table of a browser. -/
def Browser.table (b : Browser) : PointTable := (b.points, b.statuses)

/-- File the status of each listed point. -/
def fileStatuses (points : List PointDto) (statuses : StatusDtos) : StatusDtos :=
  points.foldl (fun statuses point => statuses.insert point.identity point.status) statuses

/-- The table a browser has after a delta. -/
def showTable (table : PointTable) : Delta → PointTable
  | .points points => (points, fileStatuses points table.2)
  | .samples _ changed | .statuses changed =>
      (table.1.map (Browser.syncPoint (changed ∪ table.2)), changed ∪ table.2)
  | _ => table

/-- `handleEvent` changes the table by `showTable`. -/
theorem Browser.handleDelta_table (stringify : Json → String) (b : Browser) (d : Delta) :
    (b.handleDelta stringify d).table = showTable b.table d := by
  cases d with
  | log record line =>
    obtain ⟨logs, status, h⟩ := b.handleDelta_log stringify record line
    exact (congrArg table h).trans rfl
  | _ => rfl

/-- Every point listed has the status of some listed point filed under its key, and for that
point this is its own. -/
def Filed (table : PointTable) : Prop :=
  ∀ point ∈ table.1, ∃ other ∈ table.1, other.identity = point.identity ∧
    table.2.lookup point.identity = some other.status

/-- Under a key is the status of the last listed point of that key. -/
theorem lookup_fileStatuses (points : List PointDto) (statuses : StatusDtos) (key : String) :
    (fileStatuses points statuses).lookup key =
      match points.reverse.find? fun point => point.identity == key with
      | some point => some point.status
      | none => statuses.lookup key := by
  induction points using List.reverseRecOn with
  | nil => rfl
  | append_singleton points last ih =>
    have hfile : fileStatuses (points ++ [last]) statuses =
        (fileStatuses points statuses).insert last.identity last.status := List.foldl_append
    rw [hfile, List.reverse_append, List.reverse_singleton, List.singleton_append]
    by_cases hlast : last.identity = key
    · rw [← hlast, AList.lookup_insert, List.find?_cons_of_pos (by simp)]
    · rw [AList.lookup_insert_ne (Ne.symm hlast), List.find?_cons_of_neg (by simpa using hlast), ih]

/-- A listed point is found under its key. -/
theorem find?_identity {points : List PointDto} {point : PointDto} (h : point ∈ points) :
    ∃ other ∈ points, other.identity = point.identity ∧
      points.reverse.find? (fun other => other.identity == point.identity) = some other := by
  cases hfind : points.reverse.find? fun other => other.identity == point.identity with
  | none =>
    have hnone := List.find?_eq_none.mp hfind point (List.mem_reverse.mpr h)
    simp at hnone
  | some other =>
    exact ⟨other, List.mem_reverse.mp (List.mem_of_find?_eq_some hfind),
      by simpa using List.find?_some hfind, rfl⟩

/-- A table just sent whole is filed. -/
theorem filed_fileStatuses (points : List PointDto) (statuses : StatusDtos) :
    Filed (points, fileStatuses points statuses) := by
  intro point hpoint
  obtain ⟨other, hother, hkey, hfind⟩ := find?_identity hpoint
  refine ⟨other, hother, hkey, ?_⟩
  rw [lookup_fileStatuses, hfind]

/-- Two tables with the same points and the same statuses filed for them. -/
def PointTable.AgreesWith (table other : PointTable) : Prop :=
  table.1 = other.1 ∧
    ∀ point ∈ table.1, table.2.lookup point.identity = other.2.lookup point.identity

/-- Agreement is transitive. -/
theorem PointTable.AgreesWith.trans {a b c : PointTable} (h : a.AgreesWith b)
    (h' : b.AgreesWith c) : a.AgreesWith c :=
  ⟨h.1.trans h'.1, fun point hpoint => (h.2 point hpoint).trans (h'.2 point (h.1 ▸ hpoint))⟩

/-- Points sent whole make two tables agree. -/
theorem PointTable.agreesWith_whole (points : List PointDto) (table other : PointTable) :
    PointTable.AgreesWith (showTable table (.points points))
      (showTable other (.points points)) := by
  refine ⟨rfl, fun point hpoint => ?_⟩
  obtain ⟨found, -, -, hfind⟩ := find?_identity (show point ∈ points from hpoint)
  simp only [showTable]
  rw [lookup_fileStatuses, lookup_fileStatuses, hfind]

/-- Statuses sent by key keep two tables in agreement. -/
theorem PointTable.AgreesWith.assign {table other : PointTable} (h : table.AgreesWith other)
    (changed : StatusDtos) :
    PointTable.AgreesWith
      (table.1.map (Browser.syncPoint (changed ∪ table.2)), changed ∪ table.2)
      (other.1.map (Browser.syncPoint (changed ∪ other.2)), changed ∪ other.2) := by
  have hlookup : ∀ point ∈ table.1, (changed ∪ table.2).lookup point.identity =
      (changed ∪ other.2).lookup point.identity := by
    intro point hpoint
    by_cases hkey : point.identity ∈ changed
    · rw [AList.lookup_union_left hkey, AList.lookup_union_left hkey]
    · rw [AList.lookup_union_right hkey, AList.lookup_union_right hkey, h.2 point hpoint]
  refine ⟨?_, fun point hpoint => ?_⟩
  · rw [← h.1]
    refine List.map_congr_left fun point hpoint => ?_
    rw [Browser.syncPoint, Browser.syncPoint, hlookup point hpoint]
  · obtain ⟨old, hold, rfl⟩ := List.mem_map.mp hpoint
    exact hlookup old hold

/-- A delta keeps two tables in agreement. -/
theorem PointTable.AgreesWith.delta {table other : PointTable} (h : table.AgreesWith other)
    (d : Delta) : PointTable.AgreesWith (showTable table d) (showTable other d) := by
  cases d with
  | points points => exact agreesWith_whole points table other
  | samples samples changed => exact h.assign changed
  | statuses changed => exact h.assign changed
  | _ => exact h

/-! ## What a report changes -/

/-- The reports about the points `ids` took the statuses `old` to `new`, and `changed` has
them by key: under a key that the reports of an identity have, and no others, is the new status
of that identity, and nothing when it is the old one. -/
def Reported (core : Core Disk) (ids : List PointIdentity) (old new : Statuses)
    (changed : StatusDtos) : Prop :=
  ∀ key identity,
    (∀ id ∈ ids, addressingKey core id.addressing = key ↔ id.canonical = identity) →
      (changed.lookup key).getD (statusDto (old.lookup identity)) =
        statusDto (new.lookup identity)

/-- No report, no change. -/
theorem Reported.nil (core : Core Disk) (statuses : Statuses) :
    Reported core [] statuses statuses ∅ := fun _ _ _ => rfl

/-- One more report. -/
theorem Reported.insert {core : Core Disk} {ids : List PointIdentity} {old new : Statuses}
    {changed : StatusDtos} (h : Reported core ids old new changed) (id : PointIdentity)
    (status : PointStatus) :
    Reported core (ids ++ [id]) old (new.insert id.canonical status)
      (changed.insert (addressingKey core id.addressing) (statusDto (some status))) := by
  intro key identity hapart
  have hlast := hapart id (by simp)
  by_cases hsame : id.canonical = identity
  · rw [← hlast.mpr hsame, ← hsame, AList.lookup_insert, AList.lookup_insert]
    rfl
  · have hkey : addressingKey core id.addressing ≠ key := fun hkey => hsame (hlast.mp hkey)
    rw [AList.lookup_insert_ne (Ne.symm hkey), AList.lookup_insert_ne (Ne.symm hsame)]
    exact h key identity fun other hother => hapart other (List.mem_append_left _ hother)

/-- The points whose status an event reports, `none` when it sends no statuses. -/
def WorkerEvent.reports (core : Core Disk) : WorkerEvent → Option (List PointIdentity)
  | .samples list => some (list.map fun sample => core.fromPoint sample.point)
  | .failures list => some (list.map fun failure => core.fromPoint failure.point)
  | .pointPublish identity _ => some [identity]
  | _ => none

/-- The second batch has one more report than the first: a status is filed under the identity
and is to be sent under its key. -/
def Batch.Records (core : Core Disk) (id : PointIdentity) (before after : Batch) : Prop :=
  ∃ status, after.shared.statuses = before.shared.statuses.insert id.canonical status ∧
    after.changed =
      before.changed.insert (addressingKey core id.addressing) (statusDto (some status))

theorem applySample_records (core : Core Disk) (batch : Batch) (sample : PointSample) :
    Batch.Records core (core.fromPoint sample.point) batch (applySample core batch sample) :=
  ⟨_, rfl, rfl⟩

theorem applyFailure_records (core : Core Disk) (batch : Batch) (failure : PointFailure) :
    Batch.Records core (core.fromPoint failure.point) batch (applyFailure core batch failure) :=
  ⟨_, rfl, rfl⟩

/-- What holds of the batch a loop starts with, and goes on holding with each report, holds of
the batch the loop ends with. -/
theorem Batch.records_induction {β : Type} {core : Core Disk} {step : Batch → β → Batch}
    {identity : β → PointIdentity}
    (hstep : ∀ batch b, Batch.Records core (identity b) batch (step batch b))
    {motive : List PointIdentity → Batch → Prop} {start : Batch} (hstart : motive [] start)
    (hrecord : ∀ ids id before after, motive ids before → Batch.Records core id before after →
      motive (ids ++ [id]) after) (bs : List β) :
    motive (bs.map identity) (bs.foldl step start) := by
  induction bs using List.reverseRecOn with
  | nil => exact hstart
  | append_singleton bs b ih =>
    rw [List.map_append, List.foldl_append]
    exact hrecord _ _ _ _ ih (hstep _ b)

/-- One more report of a batch. -/
theorem Reported.record {core : Core Disk} {ids : List PointIdentity} {old : Statuses}
    {id : PointIdentity} {before after : Batch}
    (h : Reported core ids old before.shared.statuses before.changed)
    (hrecords : Batch.Records core id before after) :
    Reported core (ids ++ [id]) old after.shared.statuses after.changed := by
  obtain ⟨status, hstatuses, hchanged⟩ := hrecords
  rw [hstatuses, hchanged]
  exact h.insert id status

/-- What the loop over samples reports. -/
theorem samplesBatch_reported (core : Core Disk) (shared : Shared) (samples : List PointSample) :
    Reported core (samples.map fun sample => core.fromPoint sample.point) shared.statuses
      (samplesBatch core shared samples).shared.statuses
      (samplesBatch core shared samples).changed :=
  Batch.records_induction
    (motive := fun ids batch => Reported core ids shared.statuses batch.shared.statuses
      batch.changed)
    (applySample_records core) (.nil core shared.statuses) (fun _ _ _ _ h => h.record) samples

/-- What the loop over failures reports. -/
theorem failuresBatch_reported (core : Core Disk) (shared : Shared)
    (failures : List PointFailure) :
    Reported core (failures.map fun failure => core.fromPoint failure.point) shared.statuses
      (failuresBatch core shared failures).shared.statuses
      (failuresBatch core shared failures).changed :=
  Batch.records_induction
    (motive := fun ids batch => Reported core ids shared.statuses batch.shared.statuses
      batch.changed)
    (applyFailure_records core) (.nil core shared.statuses) (fun _ _ _ _ h => h.record) failures

/-! ## One critical section -/

/-- A configured point shares its key with exactly those of the points `ids` that have its
identity, and with no configured point of another identity. -/
structure Shared.KeysApart (core : Core Disk) (shared : Shared) (ids : List PointIdentity) :
    Prop where
  reported : ∀ point ∈ shared.config.points, ∀ id ∈ ids,
    addressingKey core id.addressing = identityKey core point ↔ id.canonical = core.identity point
  configured : ∀ point ∈ shared.config.points, ∀ other ∈ shared.config.points,
    identityKey core other = identityKey core point → core.identity other = core.identity point

instance (core : Core Disk) (shared : Shared) (ids : List PointIdentity) :
    Decidable (shared.KeysApart core ids) :=
  decidable_of_iff
    ((∀ point ∈ shared.config.points, ∀ id ∈ ids, addressingKey core id.addressing =
        identityKey core point ↔ id.canonical = core.identity point) ∧
      ∀ point ∈ shared.config.points, ∀ other ∈ shared.config.points,
        identityKey core other = identityKey core point →
          core.identity other = core.identity point)
    ⟨fun h => ⟨h.1, h.2⟩, fun h => ⟨h.reported, h.configured⟩⟩

/-- The configured points are the same, and each has the same topic and the same status. -/
def Shared.SameRows (core : Core Disk) (a b : Shared) : Prop :=
  b.config.points = a.config.points ∧ ∀ point ∈ a.config.points,
    core.telemetryTopic b.config.mqtt point = core.telemetryTopic a.config.mqtt point ∧
      b.statuses.lookup (core.identity point) = a.statuses.lookup (core.identity point)

instance (core : Core Disk) (a b : Shared) : Decidable (a.SameRows core b) :=
  inferInstanceAs (Decidable (_ ∧ ∀ point ∈ a.config.points, _ ∧ _))

/-- The points are then shown the same. -/
theorem Shared.SameRows.pointsJson_eq {core : Core Disk} {a b : Shared} (h : a.SameRows core b) :
    pointsJson core b = pointsJson core a := by
  obtain ⟨hpoints, hrows⟩ := h
  unfold pointsJson
  rw [hpoints]
  refine List.ext_getElem (by simp) fun index hleft hright => ?_
  simp only [List.getElem_mapIdx]
  obtain ⟨htopic, hstatus⟩ := hrows _ (List.getElem_mem (by simpa using hright))
  simp only [pointDto, htopic, hstatus]

/-- The points and statuses that a critical section changes reach the browsers: an edit of the
points is saved, another edit changes no point, no topic and no status, and where an event sends
statuses by key, keys and identities tell the points apart alike. -/
def WebState.PointsTold (w : WebState Disk) (s : Server Disk) : Action → Prop
  | .request r => ∀ edited, r.edit w s.shared = some edited →
      (r.EditsPoints ∧ w.Saves edited.config s.disk) ∨ s.shared.SameRows w.core edited
  | .event e => ∀ ids, e.reports w.core = some ids → s.shared.KeysApart w.core ids
  | .shutdown => True

instance (w : WebState Disk) (s : Server Disk) : (a : Action) → Decidable (w.PointsTold s a)
  | .request r => inferInstanceAs (Decidable (∀ edited ∈ r.edit w s.shared,
      (r.EditsPoints ∧ w.Saves edited.config s.disk) ∨ s.shared.SameRows w.core edited))
  | .event e => inferInstanceAs (Decidable (∀ ids ∈ e.reports w.core,
      s.shared.KeysApart w.core ids))
  | .shutdown => isTrue trivial

/-- The table shows the points of the server. -/
structure PointTable.Shows (core : Core Disk) (shared : Shared) (table : PointTable) : Prop where
  points : table.1 = pointsJson core shared
  filed : Filed table

/-- Only the configuration and the statuses matter for the points. -/
theorem PointTable.Shows.congr {core : Core Disk} {shared other : Shared} {table : PointTable}
    (h : table.Shows core shared) (hother : pointsJson core other = pointsJson core shared) :
    table.Shows core other :=
  ⟨h.points.trans hother.symm, h.filed⟩

/-- A point as it is shown has the key of its identity. -/
theorem mem_pointsJson {core : Core Disk} {shared : Shared} {dto : PointDto}
    (h : dto ∈ pointsJson core shared) :
    ∃ point ∈ shared.config.points, dto.identity = identityKey core point ∧
      dto.status = statusDto (shared.statuses.lookup (core.identity point)) := by
  obtain ⟨index, hlt, rfl⟩ := List.mem_mapIdx.mp h
  exact ⟨_, List.getElem_mem hlt, rfl, rfl⟩

/-- A point that finds a status under its key shows that status. -/
theorem syncPoint_pointDto {core : Core Disk} {statuses : StatusDtos} {index : ℕ}
    {point : PointConfig} {mqtt : MqttConfig} {old new : Option PointStatus}
    (h : statuses.lookup (identityKey core point) = some (statusDto new)) :
    Browser.syncPoint statuses (pointDto core index point mqtt old) =
      pointDto core index point mqtt new := by
  have hkey : (pointDto core index point mqtt old).identity = identityKey core point := rfl
  rw [Browser.syncPoint, hkey, h]
  rfl

/-- Statuses sent by key reach the points they are about, when the keys are apart. -/
theorem PointTable.Shows.report {core : Core Disk} {shared : Shared} {table : PointTable}
    {ids : List PointIdentity} {new : Statuses} {changed : StatusDtos}
    (h : table.Shows core shared) (hreported : Reported core ids shared.statuses new changed)
    (hapart : shared.KeysApart core ids) :
    PointTable.Shows core { shared with statuses := new }
      (table.1.map (Browser.syncPoint (changed ∪ table.2)), changed ∪ table.2) := by
  -- under the key of a configured point the browser now has the point's new status
  have hstatus : ∀ point ∈ shared.config.points,
      (changed ∪ table.2).lookup (identityKey core point) =
        some (statusDto (new.lookup (core.identity point))) := by
    intro point hpoint
    have hnew := hreported (identityKey core point) (core.identity point)
      (hapart.reported point hpoint)
    cases hchanged : changed.lookup (identityKey core point) with
    | some dto =>
      rw [hchanged] at hnew
      rw [AList.lookup_union_left (AList.lookup_isSome.mp (by rw [hchanged]; rfl)), hchanged,
        ← hnew]
      rfl
    | none =>
      rw [hchanged] at hnew
      rw [AList.lookup_union_right (AList.lookup_eq_none.mp hchanged), ← hnew]
      have hlisted : ∃ dto ∈ table.1, dto.identity = identityKey core point := by
        rw [h.points]
        obtain ⟨index, hlt, rfl⟩ := List.getElem_of_mem hpoint
        exact ⟨_, List.mem_mapIdx.mpr ⟨index, hlt, rfl⟩, rfl⟩
      obtain ⟨dto, hdto, hkey⟩ := hlisted
      obtain ⟨other, hother, hsame, hlookup⟩ := h.filed dto hdto
      rw [h.points] at hother
      obtain ⟨twin, htwin, htwinKey, htwinStatus⟩ := mem_pointsJson hother
      have hid : core.identity twin = core.identity point :=
        hapart.configured point hpoint twin htwin (htwinKey.symm.trans (hsame.trans hkey))
      rw [← hkey, hlookup, htwinStatus, hid]
      rfl
  have hpoints : table.1.map (Browser.syncPoint (changed ∪ table.2)) =
      pointsJson core { shared with statuses := new } := by
    rw [h.points]
    refine List.ext_getElem (by simp [pointsJson]) fun index hleft hright => ?_
    simp only [pointsJson, List.getElem_map, List.getElem_mapIdx]
    exact syncPoint_pointDto (hstatus _ (List.getElem_mem _))
  refine ⟨hpoints, fun dto hdto => ⟨dto, hdto, rfl, ?_⟩⟩
  rw [hpoints] at hdto
  obtain ⟨point, hpoint, hkey, hdtoStatus⟩ := mem_pointsJson hdto
  rw [hkey, hdtoStatus]
  exact hstatus point hpoint

/-- Points sent whole are shown. -/
theorem PointTable.shows_whole (core : Core Disk) (shared : Shared) (table : PointTable) :
    PointTable.Shows core shared (showTable table (.points (pointsJson core shared))) :=
  ⟨rfl, filed_fileStatuses _ _⟩

/-- A saved edit of the points announces them. -/
theorem Request.announces_points (w : WebState Disk) {r : Request} (h : r.EditsPoints)
    (edited : Shared) : r.announces w edited = .points (pointsJson w.core edited) := by
  cases r with
  | setConnection | putSettings => exact h.elim
  | _ => rfl

/-- A table that shows the points goes on showing them, when what a critical section changes
is told. -/
theorem PointTable.Shows.tells {w : WebState Disk} {s : Server Disk} {a : Action}
    {shared : Shared} {ds : List Delta} {table : PointTable} (htells : Tells w s a shared ds)
    (htold : w.PointsTold s a) (h : table.Shows w.core s.shared) :
    PointTable.Shows w.core shared (ds.foldl showTable table) := by
  cases htells with
  | @saved r edited hedit hsaves =>
    rcases htold shared hedit with ⟨hpoints, -⟩ | hsame
    · rw [r.announces_points w hpoints]
      exact PointTable.shows_whole w.core shared table
    · rcases r.announces_cases w shared with hconfig | hpoints
      · rw [hconfig]
        exact h.congr hsame.pointsJson_eq
      · rw [hpoints]
        exact PointTable.shows_whole w.core shared table
  | rejected hedit hsaves =>
    rcases htold shared hedit with ⟨-, hsaved⟩ | hsame
    · exact absurd hsaved hsaves
    · exact h.congr hsame.pointsJson_eq
  | bulkTagImport hedited => exact PointTable.shows_whole w.core shared table
  | @samples samples batch hbatch =>
    have hreported := samplesBatch_reported w.core s.shared samples
    obtain ⟨statuses, recentSamples, hshared⟩ := samplesBatch_shared w.core s.shared samples
    subst hbatch
    refine (h.report hreported (htold _ rfl)).congr ?_
    rw [hshared]
    rfl
  | @failures failures batch hbatch =>
    have hreported := failuresBatch_reported w.core s.shared failures
    obtain ⟨statuses, hshared⟩ := failuresBatch_shared w.core s.shared failures
    subst hbatch
    refine (h.report hreported (htold _ rfl)).congr ?_
    rw [hshared]
  | @pointPublish identity error status hstatus =>
    have hreported := (Reported.nil w.core s.shared.statuses).insert identity status
    exact (h.report hreported (htold _ rfl)).congr rfl
  | asked | noted | shutdown => exact h
  | _ => exact h.congr rfl

/-- The table is a view. -/
def tableView : View PointTable where
  shown := Browser.table
  apply := showTable
  shown_handleDelta stringify b d _ := b.handleDelta_table stringify d
  apply_log table d hd := by cases d <;> first | rfl | cases hd

/-- A snapshot fills the table. -/
theorem WebState.snapshot_shows (w : WebState Disk) (stringify : Json → String) (b : Browser)
    (s : Server Disk) : PointTable.Shows w.core s.shared (w.follow stringify b s s).table := by
  rw [w.follow_self]
  exact ⟨rfl, filed_fileStatuses _ _⟩

/-- In every run whose steps all tell what they change about the points, a browser that misses
no delta shows in every state exactly the server's points, in order and with every field. -/
theorem WebState.follow_points (w : WebState Disk) (stringify : Json → String) (b : Browser)
    (s : Server Disk) (actions : List Action)
    (h : Transition.Along w.advance (fun t a _ => w.PointsTold t a) s actions) :
    Transition.Throughout w.advance (fun t =>
      (w.follow stringify b s t).points = pointsJson w.core t.shared) s actions := by
  have hthroughout := tableView.throughout_follow (fun shared table => table.Shows w.core shared)
    ?_ w.PointsTold PointTable.Shows.tells stringify b (w.snapshot_shows stringify b s) h
  · exact hthroughout.mono fun t ht => ht.2.points
  · intro t u table hsame htable
    refine htable.congr ?_
    unfold pointsJson
    rw [hsame.config, hsame.statuses]

/-- A reading of the point and then a switch of the point. -/
def readAndToggle : List Action :=
  [.event (.samples [plainSample "a" "21"]), .request (.togglePoint 0 false)]

/-- A browser shows a point that is read and then switched off. -/
theorem toggled_point_shown :
    let s := memoryServer [plainPoint "a"] true
    Transition.Throughout memoryState.advance (fun t =>
      (memoryState.follow plainStringify .initial s t).points = pointsJson memoryCore t.shared) s
      readAndToggle := by
  refine memoryState.follow_points plainStringify .initial _ _ ?_
  simp only [readAndToggle, WebState.along_advance_cons]
  exact ⟨by decide, by decide, trivial⟩

/-- New settings change the topic of every point, and only the configuration is sent. -/
theorem settings_leave_old_topic :
    let s := memoryServer [plainPoint "a"] true
    let t := memoryState.acts s [.request (.putSettings (plainSettings "Netix/Annex"))]
    (memoryState.handle (.putSettings (plainSettings "Netix/Annex")) s).1 = .ok .ok ∧
      (memoryState.follow plainStringify .initial s t).points.map PointDto.topic =
        ["Netix/Site/a"] ∧
      (pointsJson memoryCore t.shared).map PointDto.topic = ["Netix/Annex/a"] := by
  decide

end Republisher
