import Republisher.PointTable
import Republisher.Positions
import Republisher.Tables
import Republisher.Transition

/-!
# How many points are stale

The server counts the stale statuses it has filed, and the browser counts the points it is
sent. A point without a status counts as stale only in the list of points, and a status
without a point only among the statuses.
-/

namespace Republisher

variable {Disk : Type}

/-- The count of `renderOverview`. -/
def Browser.staleCount (b : Browser) : ℕ := Table.marked PointStatusDto.stale b.statuses

/-- How many entries of `points_json` are stale. -/
def staleListed (core : Core Disk) (shared : Shared) : ℕ :=
  (pointsJson core shared).countP fun point => point.status.stale

/-- The count of `status_json` is that of `points_json`, and a browser that has just loaded
the snapshot counts as many. -/
structure WebState.CountsAgree (w : WebState Disk) (shared : Shared) : Prop where
  reported : (w.statusJson shared).stalePoints = staleListed w.core shared
  shown : ∀ (stringify : Json → String) (b : Browser),
    (b.hydrate stringify (w.snapshotJson shared)).staleCount = staleListed w.core shared

/-- The point is shown as stale: its status is, or it has none. -/
def Shared.staleAt (core : Core Disk) (shared : Shared) (point : PointConfig) : Bool :=
  (statusDto (shared.statuses.lookup (core.identity point))).stale

/-- How many configured points have no status. -/
def Shared.unreported (core : Core Disk) (shared : Shared) : ℕ :=
  shared.config.points.countP fun point =>
    (shared.statuses.lookup (core.identity point)).isNone

/-- How many stale statuses belong to no configured point. -/
def Shared.orphaned (core : Core Disk) (shared : Shared) : ℕ :=
  Table.strays PointStatus.stale shared.statuses (shared.config.points.map core.identity)

/-- How many configured points have a stale status and are followed by one with the same
identity. -/
def Shared.repeated (core : Core Disk) (shared : Shared) : ℕ :=
  Table.repeated (Table.markedAt PointStatus.stale shared.statuses)
    (shared.config.points.map core.identity)

/-- The configured points without a status, and those with a stale status that a later point of
the same identity has too, are as many as the stale statuses without a configured point; and no
point that is shown as stale is followed by one with its identity key. -/
structure Shared.Matched (core : Core Disk) (shared : Shared) : Prop where
  balanced : shared.unreported core + shared.repeated core = shared.orphaned core
  alone : shared.config.points.Pairwise fun point later =>
    identityKey core point = identityKey core later → shared.staleAt core point = false

/-! ## The count of the points -/

/-- The points that are sent, by what the counts read of them. -/
theorem pointsJson_pairs (core : Core Disk) (shared : Shared) :
    (pointsJson core shared).map (fun point => (point.identity, point.status)) =
      shared.config.points.map fun point =>
        (identityKey core point, statusDto (shared.statuses.lookup (core.identity point))) := by
  refine List.ext_getElem ?_ fun index hindex _ => ?_
  · rw [List.length_map, List.length_map, pointsJson, List.length_mapIdx]
  · rw [List.getElem_map, List.getElem_map]
    simp only [pointsJson, List.getElem_mapIdx]
    rfl

/-- The list of points counts those shown as stale. -/
theorem staleListed_eq (core : Core Disk) (shared : Shared) :
    staleListed core shared = shared.config.points.countP (shared.staleAt core) := by
  have hpairs := congrArg (List.countP fun pair : String × PointStatusDto => pair.2.stale)
    (pointsJson_pairs core shared)
  rw [List.countP_map, List.countP_map] at hpairs
  exact hpairs

/-- A point shown as stale has no status or a stale one. -/
theorem countP_staleAt (core : Core Disk) (shared : Shared) :
    shared.config.points.countP (shared.staleAt core) = shared.unreported core +
      (shared.config.points.map core.identity).countP
        (Table.markedAt PointStatus.stale shared.statuses) := by
  rw [List.countP_map, Shared.unreported]
  induction shared.config.points with
  | nil => rfl
  | cons point points ih =>
    rw [List.countP_cons, List.countP_cons, List.countP_cons, ih, Shared.staleAt,
      Function.comp_apply, Table.markedAt]
    cases shared.statuses.lookup (core.identity point) with
    | none =>
      simp [statusDto]
      omega
    | some status =>
      cases hstale : status.stale
      · simp [statusDto, hstale]
      · simp [statusDto, hstale]
        omega

/-- The browser counts as many when no point shown as stale is followed by one with its
key. -/
theorem WebState.hydrate_staleCount_iff (w : WebState Disk) (stringify : Json → String)
    (b : Browser) (shared : Shared) :
    (b.hydrate stringify (w.snapshotJson shared)).staleCount = staleListed w.core shared ↔
      shared.config.points.Pairwise fun point later =>
        identityKey w.core point = identityKey w.core later →
          shared.staleAt w.core point = false := by
  have hfill : (b.hydrate stringify (w.snapshotJson shared)).statuses =
      Table.fill ((pointsJson w.core shared).map fun point => (point.identity, point.status))
        ∅ := by
    rw [Table.fill, List.foldl_map]
    rfl
  have hlisted : staleListed w.core shared =
      ((pointsJson w.core shared).map fun point => (point.identity, point.status)).countP
        fun pair => pair.2.stale := by
    rw [List.countP_map]
    rfl
  rw [Browser.staleCount, hfill, hlisted, (Table.marked_fill _ _).2, pointsJson_pairs,
    Table.MarkedLast, List.pairwise_map]
  rfl

/-- The statuses count as many as the points exactly when the points that only the list counts
are as many as the statuses that only the table counts. -/
theorem Shared.marked_eq_iff (core : Core Disk) (shared : Shared) :
    Table.marked PointStatus.stale shared.statuses =
        shared.config.points.countP (shared.staleAt core) ↔
      shared.unreported core + shared.repeated core = shared.orphaned core := by
  have hmarked := Table.marked_add_repeated PointStatus.stale shared.statuses
    (shared.config.points.map core.identity)
  rw [countP_staleAt, Shared.repeated, Shared.orphaned]
  omega

/-- In a state the three counts agree exactly when statuses and points are matched. -/
theorem WebState.countsAgree_iff (w : WebState Disk) (shared : Shared) :
    w.CountsAgree shared ↔ shared.Matched w.core := by
  have hreported : (w.statusJson shared).stalePoints = staleListed w.core shared ↔
      Table.marked PointStatus.stale shared.statuses =
        shared.config.points.countP (shared.staleAt w.core) := by
    rw [staleListed_eq]
    rfl
  constructor
  · rintro ⟨hcount, hshown⟩
    have halone := (w.hydrate_staleCount_iff (fun _ => "") Browser.initial shared).mp
      (hshown _ _)
    exact ⟨(shared.marked_eq_iff w.core).mp (hreported.mp hcount), halone⟩
  · rintro ⟨hbalanced, halone⟩
    exact ⟨hreported.mpr ((shared.marked_eq_iff w.core).mpr hbalanced),
      fun stringify b => (w.hydrate_staleCount_iff stringify b shared).mpr halone⟩

/-! ## What keeps them matched -/

/-- A point that is added: neither it nor a configured point with its key is shown as stale. -/
structure Shared.AddsFresh (core : Core Disk) (shared : Shared) (point : PointConfig) :
    Prop where
  fresh : shared.staleAt core point = false
  alone : ∀ other ∈ shared.config.points, identityKey core other = identityKey core point →
    shared.staleAt core other = false

/-- A point that takes the place of another is shown as stale if and only if that one was, and
no point shown as stale comes to be followed by one with its key. -/
structure Shared.ReplacesAlike (core : Core Disk) (shared : Shared) (index : ℕ)
    (old point : PointConfig) : Prop where
  alike : shared.staleAt core point = shared.staleAt core old
  before : ∀ i other, i < index → shared.config.points[i]? = some other →
    identityKey core other = identityKey core point → shared.staleAt core other = false
  after : ∀ i other, index < i → shared.config.points[i]? = some other →
    identityKey core point = identityKey core other → shared.staleAt core point = false

/-- A point that takes the place of the first one with its identity, or else is added. -/
def Shared.UpsertsAlike (core : Core Disk) (shared : Shared) (point : PointConfig) : Prop :=
  match shared.config.points.findIdx? fun p => core.identity p == core.identity point with
  | some index => ∀ old, shared.config.points[index]? = some old →
      shared.ReplacesAlike core index old point
  | none => shared.AddsFresh core point

/-- As many imported points as configured ones are shown as stale, and none is followed by one
with its key. -/
structure Shared.ImportsAlike (core : Core Disk) (shared : Shared)
    (imported : List PointConfig) : Prop where
  alike : imported.countP (shared.staleAt core) =
    shared.config.points.countP (shared.staleAt core)
  alone : imported.Pairwise fun point later =>
    identityKey core point = identityKey core later → shared.staleAt core point = false

/-- Changes of statuses, each with the identity it is reported for. -/
abbrev Reports := List (PointIdentity × (PointStatus → PointStatus))

/-- What an event reports. -/
def WorkerEvent.statusReports (core : Core Disk) : WorkerEvent → Reports
  | .samples batch => batch.map fun sample =>
      (core.identity sample.point, fun status => core.recordSample status sample)
  | .failures batch => batch.map fun failure =>
      (core.identity failure.point, fun status => core.recordReadFailure status failure.error)
  | .pointPublish identity error => [(identity.canonical, recordPublish core error)]
  | _ => []

/-- The status that an identity has when its reports are recorded. -/
def Shared.statusAfter (core : Core Disk) (shared : Shared) (reports : Reports)
    (identity : PointIdentity) : PointStatus :=
  Table.recorded reports identity ((shared.statuses.lookup identity).getD core.defaultStatus)

/-- The point is shown as stale when the reports are recorded. -/
def Shared.staleAfter (core : Core Disk) (shared : Shared) (reports : Reports)
    (point : PointConfig) : Bool :=
  if core.identity point ∈ Table.reportedKeys reports then
    (shared.statusAfter core reports (core.identity point)).stale
  else shared.staleAt core point

/-- The status of an identity is stale when the reports are recorded. -/
def Shared.markedAfter (core : Core Disk) (shared : Shared) (reports : Reports)
    (identity : PointIdentity) : Bool :=
  if identity ∈ Table.reportedKeys reports then (shared.statusAfter core reports identity).stale
  else Table.markedAt PointStatus.stale shared.statuses identity

/-- Some configured point has the identity. -/
def Shared.configured (core : Core Disk) (shared : Shared) (identity : PointIdentity) : Bool :=
  (shared.config.points.map core.identity).contains identity

/-- Reports that leave the counts even: the configured points that get their first status, the
unconfigured identities that are stale afterwards and the repeated points are as many as the
unconfigured identities that were stale and the points that are repeated afterwards; and no point
then shown as stale is followed by one with its key. -/
structure Shared.ReportsEven (core : Core Disk) (shared : Shared) (reports : Reports) :
    Prop where
  even : (shared.config.points.countP fun point =>
      (Table.reportedKeys reports).contains (core.identity point) &&
        (shared.statuses.lookup (core.identity point)).isNone) +
      ((Table.reportedKeys reports).countP fun identity =>
        (shared.statusAfter core reports identity).stale &&
          !shared.configured core identity) + shared.repeated core =
    ((Table.reportedKeys reports).countP fun identity =>
      Table.markedAt PointStatus.stale shared.statuses identity &&
        !shared.configured core identity) +
      Table.repeated (shared.markedAfter core reports) (shared.config.points.map core.identity)
  alone : shared.config.points.Pairwise fun point later =>
    identityKey core point = identityKey core later →
      shared.staleAfter core reports point = false

/-- What a request may do to points and statuses that are matched. -/
def Request.KeepsMatch (w : WebState Disk) (shared : Shared) : Request → Prop
  | .savePoint req => ∀ caps, w.caps shared.config.protocol = some caps →
      match req.index with
      | none => shared.AddsFresh w.core (req.point caps)
      | some index => ∀ old, shared.config.points[index]? = some old →
          shared.ReplacesAlike w.core index old (req.point caps)
  | .togglePoint index enabled => ∀ point, shared.config.points[index]? = some point →
      shared.ReplacesAlike w.core index point { point with enabled }
  | .deletePoint index => ∀ point, shared.config.points[index]? = some point →
      shared.staleAt w.core point = false
  | .addBrowsedPoint index => ∀ found, shared.browsed[index]? = some found →
      shared.UpsertsAlike w.core found.toPoint
  | _ => True

/-- What an event may do to them. -/
def WorkerEvent.KeepsMatch (core : Core Disk) (shared : Shared) (e : WorkerEvent) : Prop :=
  match e with
  | .bulkTagImport result => shared.ImportsAlike core result.points
  | .samples _ | .failures _ | .pointPublish _ _ => shared.ReportsEven core (e.statusReports core)
  | _ => True

/-- What a critical section may do to them. -/
def Action.KeepsMatch (w : WebState Disk) (shared : Shared) : Action → Prop
  | .request r => r.KeepsMatch w shared
  | .event e => e.KeepsMatch w.core shared
  | .shutdown => True

/-! ## Edits of the points -/

/-- Only the configured points and the statuses matter for the match. -/
theorem Shared.Matched.congr {core : Core Disk} {a b : Shared} (h : a.Matched core)
    (hpoints : b.config.points = a.config.points) (hstatuses : b.statuses = a.statuses) :
    b.Matched core := by
  obtain ⟨hbalanced, halone⟩ := h
  constructor
  · unfold Shared.unreported Shared.repeated Shared.orphaned at *
    rw [hpoints, hstatuses]
    exact hbalanced
  · unfold Shared.staleAt at *
    rw [hpoints, hstatuses]
    exact halone

/-- Only the statuses matter for which points are shown as stale. -/
theorem Shared.staleAt_congr {core : Core Disk} {a b : Shared} (h : b.statuses = a.statuses) :
    b.staleAt core = a.staleAt core := by
  funext point
  rw [staleAt, staleAt, h]

/-- Other points under the same statuses are matched exactly when as many are shown as stale and
none of these is followed by one with its key. -/
theorem Shared.Matched.importsAlike_iff {core : Core Disk} {a b : Shared} (h : a.Matched core)
    (hstatuses : b.statuses = a.statuses) :
    b.Matched core ↔ a.ImportsAlike core b.config.points := by
  have hstale : b.staleAt core = a.staleAt core := Shared.staleAt_congr hstatuses
  have hcounted := (a.marked_eq_iff core).mpr h.balanced
  constructor
  · rintro ⟨hbalanced, halone⟩
    have hcount := (b.marked_eq_iff core).mpr hbalanced
    rw [hstatuses, hcounted, hstale] at hcount
    rw [hstale] at halone
    exact ⟨hcount.symm, halone⟩
  · rintro ⟨hcount, halone⟩
    rw [← hstale] at halone
    refine ⟨(b.marked_eq_iff core).mp ?_, halone⟩
    rw [hstatuses, hcounted, hstale, hcount]

/-- One more point is matched exactly when it is fresh. -/
theorem Shared.Matched.append_iff {core : Core Disk} {shared : Shared} (h : shared.Matched core)
    (point : PointConfig) :
    shared.ImportsAlike core (shared.config.points ++ [point]) ↔
      shared.AddsFresh core point := by
  have hcount : (shared.config.points ++ [point]).countP (shared.staleAt core) =
      shared.config.points.countP (shared.staleAt core) + (shared.staleAt core point).toNat := by
    rw [List.countP_append, List.countP_singleton]
    cases shared.staleAt core point <;> rfl
  have hfresh : (shared.staleAt core point).toNat = 0 ↔ shared.staleAt core point = false :=
    Bool.toNat_eq_zero
  constructor
  · rintro ⟨halike, halone⟩
    refine ⟨hfresh.mp (by omega), fun other hother hkey => ?_⟩
    exact (List.pairwise_append.mp halone).2.2 other hother point List.mem_cons_self hkey
  · rintro ⟨hpoint, hothers⟩
    refine ⟨by rw [hcount, hfresh.mpr hpoint, Nat.add_zero], ?_⟩
    refine List.pairwise_append.mpr ⟨h.alone, List.pairwise_singleton _ _, ?_⟩
    intro other hother later hlater hkey
    obtain rfl := List.mem_singleton.mp hlater
    exact hothers other hother hkey

/-- A point in the place of another is matched exactly when it is shown alike. -/
theorem Shared.Matched.set_iff {core : Core Disk} {shared : Shared} (h : shared.Matched core)
    {index : ℕ} {old : PointConfig} (hold : shared.config.points[index]? = some old)
    (point : PointConfig) :
    shared.ImportsAlike core (shared.config.points.set index point) ↔
      shared.ReplacesAlike core index old point := by
  have hcount := Keyed.countP_set_add hold point (shared.staleAt core)
  have hsame : (shared.staleAt core point).toNat = (shared.staleAt core old).toNat ↔
      shared.staleAt core point = shared.staleAt core old := by
    cases shared.staleAt core point <;> cases shared.staleAt core old <;> decide
  have halone := Keyed.pairwise_set_iff h.alone hold point
  constructor
  · rintro ⟨halike, hset⟩
    obtain ⟨hbefore, hafter⟩ := halone.mp hset
    exact ⟨hsame.mp (by omega), hbefore, hafter⟩
  · rintro ⟨halike, hbefore, hafter⟩
    refine ⟨?_, halone.mpr ⟨hbefore, hafter⟩⟩
    have hequal := hsame.mpr halike
    omega

/-- Without a point the others are matched exactly when it was not shown as stale. -/
theorem Shared.Matched.eraseIdx_iff {core : Core Disk} {shared : Shared}
    (h : shared.Matched core) {index : ℕ} {old : PointConfig}
    (hold : shared.config.points[index]? = some old) :
    shared.ImportsAlike core (shared.config.points.eraseIdx index) ↔
      shared.staleAt core old = false := by
  have hcount := Keyed.countP_eraseIdx_add hold (shared.staleAt core)
  have hfresh : (shared.staleAt core old).toNat = 0 ↔ shared.staleAt core old = false :=
    Bool.toNat_eq_zero
  constructor
  · rintro ⟨halike, -⟩
    exact hfresh.mp (by omega)
  · intro hold
    have hzero := hfresh.mpr hold
    exact ⟨by omega, h.alone.sublist (List.eraseIdx_sublist _ _)⟩

/-- The points put in the place of the configured ones. -/
theorem Shared.Matched.withPoints_iff {core : Core Disk} {shared : Shared}
    (h : shared.Matched core) (points : List PointConfig) :
    (shared.withPoints points).Matched core ↔ shared.ImportsAlike core points :=
  h.importsAlike_iff rfl

/-- A point that is added from the browser, or replaces one with its identity. -/
theorem Shared.Matched.upsert_iff {core : Core Disk} {shared : Shared} (h : shared.Matched core)
    (point : PointConfig) :
    shared.ImportsAlike core (upsert core point shared.config.points) ↔
      shared.UpsertsAlike core point := by
  unfold upsert Shared.UpsertsAlike
  cases hindex : shared.config.points.findIdx? fun p =>
      core.identity p == core.identity point with
  | none => exact h.append_iff point
  | some index =>
    obtain ⟨hlt, -, -⟩ := List.findIdx?_eq_some_iff_getElem.mp hindex
    have hold := List.getElem?_eq_getElem hlt
    simp only [h.set_iff hold, hold, Option.some.injEq, forall_eq']

/-- An edit leaves points and statuses matched exactly when it may be made. -/
theorem Request.matched_edit_iff {w : WebState Disk} {r : Request} {shared edited : Shared}
    (h : shared.Matched w.core) (hedit : r.edit w shared = some edited) :
    edited.Matched w.core ↔ r.KeepsMatch w shared := by
  cases r with
  | savePoint req =>
    obtain ⟨caps, hcaps, hpoint⟩ := Option.bind_eq_some_iff.mp hedit
    cases hindex : req.index with
    | none =>
      rw [hindex] at hpoint
      obtain rfl := Option.some.inj hpoint
      rw [h.withPoints_iff, h.append_iff]
      simp only [Request.KeepsMatch, hcaps, hindex, Option.some.injEq, forall_eq']
    | some index =>
      rw [hindex] at hpoint
      obtain ⟨hlt, hpoint⟩ := Option.ite_none_right_eq_some.mp hpoint
      obtain rfl := Option.some.inj hpoint
      have hold := List.getElem?_eq_getElem hlt
      rw [h.withPoints_iff, h.set_iff hold]
      simp only [Request.KeepsMatch, hcaps, hindex, hold, Option.some.injEq, forall_eq']
  | togglePoint index enabled =>
    obtain ⟨point, hpoint, rfl⟩ := Option.map_eq_some_iff.mp hedit
    rw [h.withPoints_iff, h.set_iff hpoint]
    simp only [Request.KeepsMatch, hpoint, Option.some.injEq, forall_eq']
  | deletePoint index =>
    obtain ⟨hlt, hpoints⟩ := Option.ite_none_right_eq_some.mp hedit
    obtain rfl := Option.some.inj hpoints
    have hold := List.getElem?_eq_getElem hlt
    rw [h.withPoints_iff, h.eraseIdx_iff hold]
    simp only [Request.KeepsMatch, hold, Option.some.injEq, forall_eq']
  | clearPoints =>
    obtain rfl := Option.some.inj hedit
    exact iff_of_true ⟨rfl, List.Pairwise.nil⟩ trivial
  | addBrowsedPoint index =>
    obtain ⟨found, hfound, rfl⟩ := Option.map_eq_some_iff.mp hedit
    rw [h.withPoints_iff, h.upsert_iff]
    simp only [Request.KeepsMatch, hfound, Option.some.injEq, forall_eq']
  | setConnection values =>
    obtain ⟨caps, -, rfl⟩ := Option.map_eq_some_iff.mp hedit
    exact iff_of_true ⟨h.balanced, h.alone⟩ trivial
  | putSettings req =>
    obtain rfl := Option.some.inj hedit
    exact iff_of_true ⟨h.balanced, h.alone⟩ trivial
  | _ => cases hedit

/-- A request that asks for no edit may be made. -/
theorem Request.keepsMatch_of_refused {w : WebState Disk} {r : Request} {shared : Shared}
    (hedit : r.edit w shared = none) : r.KeepsMatch w shared := by
  cases r with
  | savePoint req =>
    intro caps hcaps
    rw [Request.edit, hcaps, Option.bind_some] at hedit
    cases hindex : req.index with
    | none =>
      rw [hindex] at hedit
      cases hedit
    | some index =>
      intro old hold
      rw [hindex] at hedit
      simp [(List.getElem?_eq_some_iff.mp hold).1] at hedit
  | togglePoint index enabled =>
    intro point hpoint
    rw [Request.edit, hpoint] at hedit
    cases hedit
  | deletePoint index =>
    intro point hpoint
    rw [Request.edit, if_pos (List.getElem?_eq_some_iff.mp hpoint).1] at hedit
    cases hedit
  | addBrowsedPoint index =>
    intro found hfound
    rw [Request.edit, hfound] at hedit
    cases hedit
  | _ => trivial

/-! ## Reports -/

/-- The loop over samples records what they report. -/
theorem samplesBatch_statuses (core : Core Disk) (shared : Shared) (samples : List PointSample) :
    (samplesBatch core shared samples).shared.statuses = Table.record core.defaultStatus
      (WorkerEvent.statusReports core (.samples samples)) shared.statuses := by
  unfold samplesBatch
  generalize (∅ : StatusDtos) = changed
  generalize ([] : List SampleDto) = dtos
  induction samples generalizing shared changed dtos with
  | nil => rfl
  | cons sample samples ih => exact ih _ _ _

/-- The loop over failures records what they report. -/
theorem failuresBatch_statuses (core : Core Disk) (shared : Shared)
    (failures : List PointFailure) :
    (failuresBatch core shared failures).shared.statuses = Table.record core.defaultStatus
      (WorkerEvent.statusReports core (.failures failures)) shared.statuses := by
  unfold failuresBatch
  generalize (∅ : StatusDtos) = changed
  generalize ([] : List SampleDto) = dtos
  induction failures generalizing shared changed dtos with
  | nil => rfl
  | cons failure failures ih => exact ih _ _ _

section Recorded

variable {core : Core Disk} {a b : Shared} {reports : Reports}

/-- What is filed under an identity when reports have been recorded. -/
theorem Shared.lookup_recorded
    (hstatuses : b.statuses = Table.record core.defaultStatus reports a.statuses)
    (identity : PointIdentity) :
    b.statuses.lookup identity =
      if identity ∈ Table.reportedKeys reports then some (a.statusAfter core reports identity)
      else a.statuses.lookup identity := by
  rw [hstatuses, Table.lookup_record]
  rfl

/-- Which points are shown as stale then. -/
theorem Shared.staleAt_recorded
    (hstatuses : b.statuses = Table.record core.defaultStatus reports a.statuses)
    (point : PointConfig) : b.staleAt core point = a.staleAfter core reports point := by
  rw [staleAt, lookup_recorded hstatuses, staleAfter]
  split
  · rfl
  · rfl

/-- The configured points that were without a status and are not reported still are. -/
theorem Shared.unreported_recorded (hpoints : b.config.points = a.config.points)
    (hstatuses : b.statuses = Table.record core.defaultStatus reports a.statuses) :
    a.unreported core = b.unreported core + a.config.points.countP fun point =>
      (Table.reportedKeys reports).contains (core.identity point) &&
        (a.statuses.lookup (core.identity point)).isNone := by
  rw [unreported, unreported, hpoints]
  induction a.config.points with
  | nil => rfl
  | cons point points ih =>
    rw [List.countP_cons, List.countP_cons, List.countP_cons, ih, lookup_recorded hstatuses]
    by_cases hreported : core.identity point ∈ Table.reportedKeys reports
    · simp [hreported]
      omega
    · simp [hreported]
      omega

/-- The stale statuses without a configured point change under the reported identities. -/
theorem Shared.orphaned_recorded (hpoints : b.config.points = a.config.points)
    (hstatuses : b.statuses = Table.record core.defaultStatus reports a.statuses) :
    b.orphaned core + (Table.reportedKeys reports).countP (fun identity =>
        Table.markedAt PointStatus.stale a.statuses identity && !a.configured core identity) =
      a.orphaned core + (Table.reportedKeys reports).countP fun identity =>
        (a.statusAfter core reports identity).stale && !a.configured core identity := by
  have hafter : (Table.reportedKeys reports).countP (fun identity =>
        (a.statusAfter core reports identity).stale && !a.configured core identity) =
      (Table.reportedKeys reports).countP fun identity =>
        Table.markedAt PointStatus.stale b.statuses identity && !a.configured core identity := by
    refine List.countP_congr fun identity hreported => ?_
    rw [Table.markedAt, lookup_recorded hstatuses, if_pos hreported, Option.any_some]
  have hothers : ∀ identity ∉ Table.reportedKeys reports,
      b.statuses.lookup identity = a.statuses.lookup identity := by
    intro identity hnot
    rw [lookup_recorded hstatuses, if_neg hnot]
  rw [hafter, orphaned, orphaned, hpoints]
  exact Table.strays_changed (List.nodup_dedup _) _ _ hothers

/-- Which identities have a stale status then. -/
theorem Shared.markedAt_recorded
    (hstatuses : b.statuses = Table.record core.defaultStatus reports a.statuses) :
    Table.markedAt PointStatus.stale b.statuses = a.markedAfter core reports := by
  funext identity
  rw [Table.markedAt, lookup_recorded hstatuses, markedAfter]
  split
  · rfl
  · rfl

/-- Recorded reports leave points and statuses matched exactly when they are even. -/
theorem Shared.Matched.record_iff (h : a.Matched core)
    (hpoints : b.config.points = a.config.points)
    (hstatuses : b.statuses = Table.record core.defaultStatus reports a.statuses) :
    b.Matched core ↔ a.ReportsEven core reports := by
  have hunreported := Shared.unreported_recorded hpoints hstatuses
  have horphaned := Shared.orphaned_recorded hpoints hstatuses
  have hrepeated : b.repeated core =
      Table.repeated (a.markedAfter core reports) (a.config.points.map core.identity) := by
    rw [Shared.repeated, Shared.markedAt_recorded hstatuses, hpoints]
  have hbalanced := h.balanced
  have hstale : b.staleAt core = a.staleAfter core reports :=
    funext (Shared.staleAt_recorded hstatuses)
  constructor
  · rintro ⟨hbalanced', halone⟩
    rw [hpoints, hstale] at halone
    exact ⟨by omega, halone⟩
  · rintro ⟨heven, halone⟩
    refine ⟨by omega, ?_⟩
    rw [hpoints, hstale]
    exact halone

end Recorded

/-! ## Runs -/

/-- A critical section leaves points and statuses matched exactly when it may be run. -/
theorem Tells.matched_iff {w : WebState Disk} {s : Server Disk} {a : Action} {shared : Shared}
    {ds : List Delta} (h : Tells w s a shared ds) (hmatched : s.shared.Matched w.core) :
    shared.Matched w.core ↔ a.KeepsMatch w s.shared := by
  cases h with
  | asked _ hedit => exact iff_of_true hmatched (Request.keepsMatch_of_refused hedit)
  | saved hedit | rejected hedit => exact Request.matched_edit_iff hmatched hedit
  | bulkTagImport hedited =>
    subst hedited
    exact hmatched.importsAlike_iff rfl
  | @samples samples batch hbatch =>
    subst hbatch
    obtain ⟨statuses, recentSamples, hshared⟩ := samplesBatch_shared w.core s.shared samples
    refine hmatched.record_iff ?_ (samplesBatch_statuses w.core s.shared samples)
    rw [hshared]
  | @failures failures batch hbatch =>
    subst hbatch
    obtain ⟨statuses, hshared⟩ := failuresBatch_shared w.core s.shared failures
    refine hmatched.record_iff ?_ (failuresBatch_statuses w.core s.shared failures)
    rw [hshared]
  | pointPublish hstatus =>
    subst hstatus
    exact hmatched.record_iff rfl rfl
  | @noted e hnote =>
    refine iff_of_true hmatched ?_
    cases e with
    | log | finished => trivial
    | _ => cases hnote
  | _ => exact iff_of_true ⟨hmatched.balanced, hmatched.alone⟩ trivial

/-- Whatever a step runs may be run on points and statuses that are matched. -/
def WebState.StepKeepsMatch (w : WebState Disk) (σ : System Disk) (l : Label)
    (_ : System Disk) : Prop :=
  ∀ a, σ.action l = some a → a.KeepsMatch w σ.server.shared

/-- A step leaves points and statuses matched exactly when it may be taken. -/
theorem WebState.matched_step_iff {w : WebState Disk} {σ τ : System Disk} {l : Label}
    (h : σ.server.shared.Matched w.core) (hstep : w.step σ l = some τ) :
    τ.server.shared.Matched w.core ↔ w.StepKeepsMatch σ l τ := by
  rcases WebState.step_action hstep with ⟨a, ha, hserver, -⟩ | ⟨hnone, hshared, -⟩
  · obtain ⟨shared, ds, htells, hsaid⟩ := w.act_told a σ.server
    have hkeeps : w.StepKeepsMatch σ l τ ↔ a.KeepsMatch w σ.server.shared := by
      unfold StepKeepsMatch
      simp only [ha, Option.some.injEq, forall_eq']
    rw [hkeeps, ← htells.matched_iff h, hserver]
    constructor
    · intro hmatched
      exact hmatched.congr (congrArg AppConfig.points hsaid.shared.config) hsaid.shared.statuses
    · intro hmatched
      exact hmatched.congr (congrArg AppConfig.points hsaid.shared.config.symm)
        hsaid.shared.statuses.symm
  · rw [hshared]
    refine iff_of_true h fun a ha => ?_
    rw [hnone] at ha
    cases ha

/-- Starting the republisher changes neither the points nor the statuses. -/
theorem WebState.start_rows (w : WebState Disk) (s : Server Disk) :
    (w.act s (.request .startRepublisher)).shared.config.points = s.shared.config.points ∧
      (w.act s (.request .startRepublisher)).shared.statuses = s.shared.statuses := by
  obtain ⟨shared, ds, htells, hsaid⟩ := w.act_told (.request .startRepublisher) s
  rw [← hsaid.shared.config, ← hsaid.shared.statuses]
  cases htells with
  | saved hedit | rejected hedit => exact absurd rfl (Request.edit_ne_start hedit)
  | _ => exact ⟨rfl, rfl⟩

/-- At boot no point has a status. -/
theorem WebState.serve_rows (w : WebState Disk) (config : AppConfig) (bootStatus : String)
    (disk : Disk) :
    (w.serve config bootStatus disk).server.shared.config.points = config.points ∧
      (w.serve config bootStatus disk).server.shared.statuses = ∅ := by
  let P : System Disk → Prop := fun σ =>
    σ.server.shared.config.points = config.points ∧ σ.server.shared.statuses = ∅
  refine w.serve_induction (P := P) config bootStatus disk ⟨rfl, rfl⟩ fun σ hstep => ?_
  rcases WebState.step_action hstep with ⟨a, ha, hserver, -⟩ | ⟨-, hshared, -⟩
  · obtain rfl := Option.some.inj ha
    obtain ⟨hpoints, hstatuses⟩ := w.start_rows (w.boot config bootStatus disk).server
    show σ.server.shared.config.points = _ ∧ σ.server.shared.statuses = _
    rw [hserver, hpoints, hstatuses]
    exact ⟨rfl, rfl⟩
  · show σ.server.shared.config.points = _ ∧ σ.server.shared.statuses = _
    rw [hshared]
    exact ⟨rfl, rfl⟩

/-- So points and statuses are matched at boot exactly when no point is configured. -/
theorem WebState.serve_matched_iff (w : WebState Disk) (config : AppConfig)
    (bootStatus : String) (disk : Disk) :
    (w.serve config bootStatus disk).server.shared.Matched w.core ↔ config.points = [] := by
  obtain ⟨hpoints, hstatuses⟩ := w.serve_rows config bootStatus disk
  have hunreported : (w.serve config bootStatus disk).server.shared.unreported w.core =
      config.points.length := by
    rw [Shared.unreported, hpoints, hstatuses]
    exact List.countP_eq_length.mpr fun _ _ => rfl
  have horphaned : (w.serve config bootStatus disk).server.shared.orphaned w.core = 0 := by
    rw [Shared.orphaned, hstatuses]
    rfl
  constructor
  · intro h
    have hbalanced := h.balanced
    rw [hunreported, horphaned] at hbalanced
    exact List.length_eq_zero_iff.mp (by omega)
  · intro hempty
    have hrepeated : (w.serve config bootStatus disk).server.shared.repeated w.core = 0 := by
      rw [Shared.repeated, hpoints, hempty]
      rfl
    refine ⟨by rw [hunreported, hrepeated, horphaned, hempty]; rfl, ?_⟩
    rw [hpoints, hempty]
    exact List.Pairwise.nil

/-- In every state of a run the counts of stale points agree exactly when the run starts
without configured points and every step may be taken on points and statuses that are
matched. -/
theorem WebState.staleCounts_iff (w : WebState Disk) (config : AppConfig) (bootStatus : String)
    (disk : Disk) (ls : List Label) :
    Transition.Throughout w.step (fun σ => w.CountsAgree σ.server.shared)
        (w.serve config bootStatus disk) ls ↔
      config.points = [] ∧
        Transition.Along w.step w.StepKeepsMatch (w.serve config bootStatus disk) ls := by
  have hpreserved : ∀ (σ : System Disk) (l : Label) (τ : System Disk),
      σ.server.shared.Matched w.core → w.step σ l = some τ → w.StepKeepsMatch σ l τ →
        τ.server.shared.Matched w.core :=
    fun σ l τ h hstep => (WebState.matched_step_iff h hstep).mpr
  have hneeded : ∀ (σ : System Disk) (l : Label) (τ : System Disk),
      σ.server.shared.Matched w.core → w.step σ l = some τ →
        w.CountsAgree τ.server.shared → w.StepKeepsMatch σ l τ :=
    fun σ l τ h hstep hagree => (WebState.matched_step_iff h hstep).mp
      ((w.countsAgree_iff τ.server.shared).mp hagree)
  have hiff (hmatched : (w.serve config bootStatus disk).server.shared.Matched w.core) :
      Transition.Throughout w.step (fun σ => w.CountsAgree σ.server.shared)
          (w.serve config bootStatus disk) ls ↔
        Transition.Along w.step w.StepKeepsMatch (w.serve config bootStatus disk) ls :=
    Transition.throughout_iff_along hpreserved
      (fun σ => (w.countsAgree_iff σ.server.shared).mpr) hneeded hmatched
  constructor
  · intro h
    have hmatched := (w.countsAgree_iff _).mp h.first
    exact ⟨(w.serve_matched_iff config bootStatus disk).mp hmatched, (hiff hmatched).mp h⟩
  · rintro ⟨hempty, halong⟩
    exact (hiff ((w.serve_matched_iff config bootStatus disk).mpr hempty)).mpr halong

/-- A point that has not been read yet counts as stale only in the list, and the status of a
point that could not be read counts after the point is deleted. -/
theorem stale_counts_differ :
    ¬ Transition.Throughout memoryState.step (fun σ => memoryState.CountsAgree σ.server.shared)
        (memoryState.serve (plainConfig [plainPoint "a"]) "Loaded saved configuration"
          ⟨none, true⟩) [] ∧
      ∃ σ, Transition.run memoryState.step
        (memoryState.serve (plainConfig [plainPoint "a"]) "Loaded saved configuration"
          ⟨none, true⟩)
        [.request .pollOnce, .emit, .send 0 (.failures [⟨plainPoint "a", "timeout"⟩]), .drain,
          .emit, .request (.deletePoint 0)] = some σ ∧
        ¬ memoryState.CountsAgree σ.server.shared := by
  have hdiffer {shared : Shared} (h : (memoryState.statusJson shared).stalePoints ≠
      staleListed memoryCore shared) : ¬ memoryState.CountsAgree shared :=
    fun hagree => h hagree.reported
  exact ⟨hdiffer (by decide), _, (Option.some_get (by decide)).symm, hdiffer (by decide)⟩

end Republisher
