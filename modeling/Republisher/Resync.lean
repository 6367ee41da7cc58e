import Republisher.Counters
import Republisher.PointTable
import Republisher.Subscription

/-!
# Browsers that miss deltas

A stream that lags, or that subscribes after its snapshot, goes past deltas it never
reads. What a delta carries whole is right again as soon as a later delta for it is
read; this file says when a browser that has drained its stream shows the server's state.
-/

namespace Republisher

open Broadcast (Reader)

variable {Disk : Type}

/-! ## What has been told -/

/-- A relation between the server and a view that every critical section keeps holds along a
run of the system for a browser that folds everything told since position `n`. -/
theorem View.throughout_told {β : Type} (v : View β) {w : WebState Disk}
    (agrees : Shared → β → Prop)
    (hlog : ∀ a b value, a.SameUpToLog b → agrees a value → agrees b value)
    (told : Server Disk → Action → Prop)
    (hstep : ∀ {s a shared ds value}, Tells w s a shared ds → told s a → agrees s.shared value →
      agrees shared (ds.foldl v.apply value))
    {n : ℕ} {start : β} {σ : System Disk} {ls : List Label} (hn : n ≤ σ.told.length)
    (hσ : agrees σ.server.shared ((σ.told.drop n).foldl v.apply start))
    (h : Transition.Along w.step
      (fun ρ l _ => ∀ a, ρ.action l = some a → told ρ.server a) σ ls) :
    Transition.Throughout w.step (fun τ => n ≤ τ.told.length ∧
      agrees τ.server.shared ((τ.told.drop n).foldl v.apply start)) σ ls := by
  refine Transition.throughout_of_along ?_ ⟨hn, hσ⟩ h
  rintro ρ l τ ⟨hlength, hagrees⟩ hρ htold
  rcases WebState.step_action hρ with ⟨a, ha, hserver, haired⟩ | ⟨-, hshared, hsame⟩
  · obtain ⟨shared, ds, htells, hsaid⟩ := w.act_told a ρ.server
    obtain ⟨said, hevents, hds⟩ := hsaid.append
    have hall : τ.told = ρ.told ++ said := by
      simp only [System.told, haired, hserver, hevents, List.append_assoc]
    rw [hall, hserver]
    refine ⟨by rw [List.length_append]; omega, hlog _ _ _ hsaid.shared ?_⟩
    rw [List.drop_append_of_le_length hlength, List.foldl_append, ← v.foldl_filter said, hds]
    exact hstep htells (htold a ha) hagrees
  · rw [hshared, hsame]
    exact ⟨hlength, hagrees⟩

/-! ## What a stream goes past -/

/-- The deltas that stream `i`, whose snapshot was taken at position `n`, goes past in a step,
each with whether it reads it. -/
def System.passing (σ : System Disk) (i n : ℕ) : Label → List (Delta × Bool)
  | .subscribe j => if j = i then (σ.aired.drop n).map fun delta => (delta, false) else []
  | .receive j =>
      if j = i then
        match σ.streams[i]? with
        | some ⟨_, some reader⟩ => reader.passes eventBuffer σ.aired
        | _ => []
      else []
  | _ => []

/-- The deltas it goes past in a run. -/
def WebState.passed (w : WebState Disk) (i n : ℕ) : System Disk → List Label → List (Delta × Bool)
  | _, [] => []
  | σ, l :: ls =>
      σ.passing i n l ++
        match w.step σ l with
        | some τ => w.passed i n τ ls
        | none => []

/-- Stream `i` has gone past the deltas of `log` since position `n`. -/
structure System.HasPassed (σ : System Disk) (i n : ℕ) (snapshot : Snapshot)
    (log : List (Delta × Bool)) : Prop where
  start : n ≤ σ.aired.length
  stream : σ.streams[i]? = some ⟨snapshot, none⟩ ∧ log = [] ∨
    ∃ reader, σ.streams[i]? = some ⟨snapshot, some reader⟩ ∧
      log.map Prod.fst = (σ.aired.take reader.next).drop n ∧ Replay.read log = reader.read ∧
      reader.Faithful σ.aired ∧ n ≤ reader.next

/-- The channel may go on while the stream is left alone. -/
theorem System.HasPassed.keep {σ τ : System Disk} {i n : ℕ} {snapshot : Snapshot}
    {log : List (Delta × Bool)} (h : σ.HasPassed i n snapshot log)
    (haired : σ.aired <+: τ.aired) (hstream : τ.streams[i]? = σ.streams[i]?) :
    τ.HasPassed i n snapshot log := by
  refine ⟨h.start.trans haired.length_le, ?_⟩
  rw [hstream]
  refine h.stream.imp id ?_
  rintro ⟨reader, hreader, hlog, hread, hfaithful, hnext⟩
  refine ⟨reader, hreader, ?_, hread, hfaithful.send haired, hnext⟩
  obtain ⟨more, hmore⟩ := haired
  rw [hlog, ← hmore, List.take_append_of_le_length hfaithful.next_le]

/-- Two adjacent stretches of a list. -/
theorem drop_take_append {α : Type} (xs : List α) {n a b : ℕ} (hna : n ≤ a) (hab : a ≤ b)
    (ha : a ≤ xs.length) :
    (xs.take a).drop n ++ (xs.take b).drop a = (xs.take b).drop n := by
  have hsplit := List.take_append_drop a (xs.take b)
  rw [List.take_take, Nat.min_eq_left hab] at hsplit
  calc (xs.take a).drop n ++ (xs.take b).drop a
      = (xs.take a ++ (xs.take b).drop a).drop n := by
        rw [List.drop_append_of_le_length]
        rw [List.length_take]
        omega
    _ = (xs.take b).drop n := by rw [hsplit]

/-- A step adds what it goes past. -/
theorem System.HasPassed.step {w : WebState Disk} {σ τ : System Disk} {l : Label} {i n : ℕ}
    {snapshot : Snapshot} {log : List (Delta × Bool)} (h : σ.HasPassed i n snapshot log)
    (hstep : w.step σ l = some τ) : τ.HasPassed i n snapshot (log ++ σ.passing i n l) := by
  have hlt : i < σ.streams.length := by
    rcases h.stream with ⟨hstream, -⟩ | ⟨reader, hstream, -⟩ <;>
      exact (List.getElem?_eq_some_iff.mp hstream).1
  have hother {j : ℕ} (hj : j ≠ i) (stream : Stream) :
      (σ.streams.set j stream)[i]? = σ.streams[i]? := List.getElem?_set_ne hj
  cases WebState.step_cases hstep with
  | @subscribe j found hstream =>
    by_cases hj : j = i
    · subst hj
      rcases h.stream with ⟨hfound, rfl⟩ | ⟨reader, hreader, -⟩
      · obtain ⟨rfl, -⟩ := Stream.mk.inj (Option.some.inj (hfound.symm.trans hstream))
        refine ⟨h.start, .inr ⟨Broadcast.subscribe σ.aired, ?_, ?_, ?_,
          Broadcast.subscribe_faithful σ.aired, h.start⟩⟩
        · exact List.getElem?_set_self hlt
        · simp [System.passing, Broadcast.subscribe, Function.comp_def]
        · simp only [System.passing, if_pos, List.nil_append, Replay.read_skipped]
          rfl
      · rw [hreader] at hstream
        cases hstream
    · simp only [System.passing, if_neg hj, List.append_nil]
      exact h.keep List.prefix_rfl (hother hj _)
  | @receive j found reader hstream =>
    by_cases hj : j = i
    · subst hj
      rcases h.stream with ⟨hfound, -⟩ | ⟨other, hother, hlog, hread, hfaithful, hnext⟩
      · rw [hfound] at hstream
        cases hstream
      · obtain ⟨rfl, hsame⟩ := Stream.mk.inj (Option.some.inj (hother.symm.trans hstream))
        obtain rfl := Option.some.inj hsame
        obtain ⟨hpasses, hreads, hle⟩ := other.passes_spec eventBuffer σ.aired
        have hafter : (other.poll eventBuffer σ.aired).Faithful σ.aired := hfaithful.poll
        refine ⟨h.start, .inr ⟨other.poll eventBuffer σ.aired, List.getElem?_set_self hlt, ?_, ?_,
          hafter, hnext.trans hle⟩⟩
        · simp only [System.passing, if_pos, hother]
          rw [List.map_append, hlog, hpasses]
          exact drop_take_append σ.aired hnext hle hfaithful.next_le
        · simp only [System.passing, if_pos, hother]
          rw [Replay.read_append, hread, hreads]
    · simp only [System.passing, if_neg hj, List.append_nil]
      exact h.keep List.prefix_rfl (hother hj _)
  | snapshot =>
    simp only [System.passing, List.append_nil]
    exact h.keep List.prefix_rfl (List.getElem?_append_left hlt)
  | request | send | scanned | drain | shutdown | emit =>
    simp only [System.passing, List.append_nil]
    exact h.keep (WebState.aired_step hstep) rfl

/-- A run adds what it goes past. -/
theorem System.HasPassed.run {w : WebState Disk} {σ τ : System Disk} {ls : List Label} {i n : ℕ}
    {snapshot : Snapshot} {log : List (Delta × Bool)} (h : σ.HasPassed i n snapshot log)
    (hrun : Transition.run w.step σ ls = some τ) :
    τ.HasPassed i n snapshot (log ++ w.passed i n σ ls) := by
  induction ls generalizing σ log with
  | nil =>
    obtain rfl := Option.some.inj hrun
    rw [WebState.passed, List.append_nil]
    exact h
  | cons l ls ih =>
    obtain ⟨ρ, hρ, hrest⟩ := Transition.run_cons_eq_some.mp hrun
    have hafter := ih (h.step hρ) hrest
    rw [List.append_assoc] at hafter
    rw [WebState.passed, hρ]
    exact hafter

/-! ## Drained streams -/

/-- A stream that got its snapshot at `shown` and, after some run, has read on to the end of the
channel while nobody holds the lock. -/
structure WebState.DrainedStream (w : WebState Disk) where
  shown : System Disk
  ls : List Label
  drained : System Disk
  snapshot : Snapshot
  reader : Reader Delta
  run : Transition.run w.step shown (.snapshot :: ls) = some drained
  stream : drained.streams[shown.streams.length]? = some ⟨snapshot, some reader⟩
  position : reader.next = drained.aired.length
  free : drained.LockFree

namespace WebState.DrainedStream

variable {w : WebState Disk}

/-- The deltas the stream went past, each with whether it read it. -/
def passed (d : w.DrainedStream) : List (Delta × Bool) :=
  w.passed d.shown.streams.length d.shown.aired.length d.shown (.snapshot :: d.ls)

/-- What the browser of the stream shows. -/
def browser (d : w.DrainedStream) (stringify : Json → String) (b : Browser) : Browser :=
  b.handleEvents stringify (.snapshot d.snapshot :: d.reader.read.map .delta)

/-- The snapshot is taken without the lock being held, and the stream has gone past everything
told since and read what `passed` says. -/
theorem spec (d : w.DrainedStream) :
    d.shown.told = d.shown.aired ∧ d.snapshot = w.snapshotJson d.shown.server.shared ∧
      d.passed.map Prod.fst = d.drained.told.drop d.shown.aired.length ∧
      Replay.read d.passed = d.reader.read := by
  obtain ⟨σ, hσ, hrun⟩ := Transition.run_cons_eq_some.mp d.run
  have hpassed : d.passed = w.passed d.shown.streams.length d.shown.aired.length σ d.ls := by
    rw [passed, WebState.passed, hσ]
    rfl
  simp only [WebState.step, Option.ite_none_right_eq_some] at hσ
  obtain ⟨hfree, hσ⟩ := hσ
  obtain rfl := Option.some.inj hσ
  have hfirst : System.HasPassed
      { d.shown with streams := d.shown.streams ++ [⟨w.snapshotJson d.shown.server.shared, none⟩] }
      d.shown.streams.length d.shown.aired.length (w.snapshotJson d.shown.server.shared) [] :=
    ⟨Nat.le_refl _, .inl ⟨List.getElem?_concat_length, rfl⟩⟩
  have htold : d.drained.told = d.drained.aired := by
    rw [System.told, show d.drained.server.events = [] from d.free, List.append_nil]
  refine ⟨?_, ?_⟩
  · rw [System.told, show d.shown.server.events = [] from hfree, List.append_nil]
  · rcases (hfirst.run hrun).stream with ⟨hstream, -⟩ | ⟨reader, hstream, hlog, hread, -, -⟩
    · simp [d.stream] at hstream
    · obtain ⟨hsnapshot, hreader⟩ := Stream.mk.inj (Option.some.inj (d.stream.symm.trans hstream))
      obtain rfl := Option.some.inj hreader
      rw [d.position, List.take_length, List.nil_append, ← hpassed] at hlog
      rw [List.nil_append, ← hpassed] at hread
      exact ⟨hsnapshot, by rw [hlog, htold], hread⟩

/-- A view that recovers from what the stream skipped shows something that agrees with what a
browser shows that skipped nothing. -/
theorem agrees_of_recovers {β : Type} (d : w.DrainedStream) (v : View β) (agree : β → β → Prop)
    {whole : Delta → Prop} (htrans : ∀ r s t, agree r s → agree s t → agree r t)
    (hboth : ∀ s t delta, agree s t → agree (v.apply s delta) (v.apply t delta))
    (hwhole : ∀ s t delta, whole delta → agree (v.apply s delta) (v.apply t delta))
    (hrefl : ∀ value, agree value value) {same : Browser → Browser → Prop}
    (hsame : ∀ a b, same a b → agree (v.shown a) (v.shown b))
    (agrees : Shared → β → Prop)
    (hlog : ∀ a b value, a.SameUpToLog b → agrees a value → agrees b value)
    (told : Server Disk → Action → Prop)
    (hstep : ∀ {s a shared ds value}, Tells w s a shared ds → told s a → agrees s.shared value →
      agrees shared (ds.foldl v.apply value))
    (stringify : Json → String) (b : Browser)
    (hshown : agrees d.shown.server.shared
      (v.shown (w.follow stringify b d.shown.server d.shown.server)))
    (htold : Transition.Along w.step (fun ρ l _ => ∀ a, ρ.action l = some a → told ρ.server a)
      d.shown (.snapshot :: d.ls))
    (hrecovers : Replay.Recovers (Browser.handleDelta stringify) same whole
      (b.hydrate stringify d.snapshot) d.passed) :
    ∃ value, agrees d.drained.server.shared value ∧
      agree (v.shown (d.browser stringify b)) value := by
  obtain ⟨hbefore, hsnapshot, hpassed, hread⟩ := d.spec
  rw [w.follow_self] at hshown
  have hall := v.throughout_told agrees hlog told hstep (n := d.shown.aired.length)
    (by rw [hbefore]) (by rw [hbefore, List.drop_length]; exact hshown) htold
  refine ⟨_, (hall.last d.run).2, ?_⟩
  have hb := Browser.hydrated_hydrate stringify (w.snapshotJson d.shown.server.shared) b
  rw [hsnapshot] at hrecovers
  have hview := hrecovers.view (fun _ delta hs => Browser.Hydrated.handleDelta stringify hs delta)
    (fun s delta => v.shown_handleDelta stringify s delta) hsame hb
  rw [browser, Browser.handleEvents_snapshot, hsnapshot, v.shown_handleDeltas stringify hb,
    ← hread, ← hpassed]
  exact Replay.agrees_of_recovers htrans hboth hwhole (hrefl _) hview

end WebState.DrainedStream

/-! ## The fields that deltas carry whole -/

/-- The publish stats in the status shown. -/
def Browser.publishStats (b : Browser) : Option (ℕ × ℕ × Option String) :=
  b.status.map fun status => (status.publishedTotal, status.ackedTotal, status.lastError)

/-- A part of the browser that some delta carries whole. -/
inductive WholeField
  | devices
  | browsed
  | points
  | config
  | lifecycle
  | stats

namespace WholeField

/-- The deltas that carry the field whole. -/
def Carried : WholeField → Delta → Prop
  | .devices, .devices _ => True
  | .browsed, .browsed _ => True
  | .points, .points _ => True
  | .config, .config _ => True
  | .lifecycle, .lifecycle _ => True
  | .stats, .stats _ _ _ => True
  | _, _ => False

/-- Two browsers show the same in the field; of the points also the statuses filed for them. -/
def Same (field : WholeField) (a b : Browser) : Prop :=
  match field with
  | .devices => a.devices = b.devices
  | .browsed => a.browsed = b.browsed
  | .points => a.table.AgreesWith b.table
  | .config => a.config = b.config ∧ a.secrets = b.secrets
  | .lifecycle => a.lifecycle = b.lifecycle
  | .stats => a.publishStats = b.publishStats

/-- The browser shows the field as the server has it. -/
def InSync (w : WebState Disk) (b : Browser) (shared : Shared) : WholeField → Prop
  | .devices => b.devices = devicesJson shared
  | .browsed => b.browsed = browsedJson w.core shared
  | .points => b.points = pointsJson w.core shared
  | .config => b.config = some (redactedConfig shared.config).config ∧
      b.secrets = (redactedConfig shared.config).secrets
  | .lifecycle => b.lifecycle = lifecycleDto shared.lifecycle
  | .stats => b.publishStats =
      some (shared.publishedTotal, shared.ackedTotal, shared.lastError)

end WholeField

/-- A change of the configuration is sent whole: only the settings and the connection are, after
they are saved, and a point edit or an import changes the configuration too. -/
def WebState.ConfigTold (w : WebState Disk) (s : Server Disk) : Action → Prop
  | .request r => ∀ edited, r.edit w s.shared = some edited →
      (¬ r.EditsPoints ∧ w.Saves edited.config s.disk) ∨
        redactedConfig edited.config = redactedConfig s.shared.config
  | .event (.bulkTagImport result) => result.points = s.shared.config.points
  | _ => True

/-- What a critical section changes about the field, it sends. -/
def WebState.FieldTold (w : WebState Disk) (s : Server Disk) (a : Action) : WholeField → Prop
  | .points => w.PointsTold s a
  | .config => w.ConfigTold s a
  | .stats => w.StartFindsZero s a
  | .devices | .browsed | .lifecycle => True

/-- A saved edit that is not about the points announces the configuration. -/
theorem Request.announces_config {w : WebState Disk} {r : Request} {shared edited : Shared}
    (hedit : r.edit w shared = some edited) (h : ¬ r.EditsPoints) :
    r.announces w edited = .config (redactedConfig edited.config) := by
  cases r with
  | setConnection | putSettings => rfl
  | savePoint | togglePoint | deletePoint | clearPoints | addBrowsedPoint =>
    exact absurd trivial h
  | _ => simp [Request.edit] at hedit

/-- Then every change of the configuration is announced. -/
theorem Register.config_announced {w : WebState Disk} {s : Server Disk} {a : Action}
    {shared : Shared} {ds : List Delta} (h : Tells w s a shared ds) (htold : w.ConfigTold s a) :
    (config w).Announced s.shared ds shared := by
  have hsame {other : Shared}
      (h : redactedConfig other.config = redactedConfig s.shared.config) :
      (config w).held s.shared = (config w).held other := by
    simp only [config, h]
  cases h with
  | @saved r edited hedit hsaves =>
    rcases htold shared hedit with ⟨hpoints, -⟩ | hconfig
    · rw [Request.announces_config hedit hpoints]
      rfl
    · rcases r.announces_cases w shared with h | h <;> rw [h]
      · rfl
      · exact hsame hconfig
  | rejected hedit hsaves =>
    rcases htold shared hedit with ⟨-, hsaved⟩ | hconfig
    · exact absurd hsaved hsaves
    · exact hsame hconfig
  | @bulkTagImport result edited hedited =>
    subst hedited
    refine hsame ?_
    rw [show result.points = s.shared.config.points from htold]
    rfl
  | @samples samples batch hbatch =>
    obtain ⟨statuses, recentSamples, h⟩ := samplesBatch_shared w.core s.shared samples
    rw [hbatch, h]
    rfl
  | @failures failures batch hbatch =>
    obtain ⟨statuses, h⟩ := failuresBatch_shared w.core s.shared failures
    rw [hbatch, h]
    rfl
  | _ => rfl

namespace WebState.DrainedStream

variable {w : WebState Disk}

/-- Every skipped delta that changes the field of a browser which reads them all has one behind
it that the stream reads and that carries the field whole. -/
def Recovers (d : w.DrainedStream) (stringify : Json → String) (b : Browser)
    (field : WholeField) : Prop :=
  Replay.Recovers (Browser.handleDelta stringify) field.Same field.Carried
    (b.hydrate stringify d.snapshot) d.passed

/-- A register whose changes are all announced is right again when it recovers. -/
theorem register_inSync {β : Type} (d : w.DrainedStream) (f : Register w β) (field : WholeField)
    (hcarried : ∀ delta, field.Carried delta → f.carried delta ≠ none)
    (hsame : ∀ a b, field.Same a b → f.shown a = f.shown b)
    (hannounced : ∀ {s a shared ds}, Tells w s a shared ds → w.FieldTold s a field →
      f.Announced s.shared ds shared) (stringify : Json → String) (b : Browser)
    (htold : Transition.Along w.step
      (fun ρ l _ => ∀ a, ρ.action l = some a → w.FieldTold ρ.server a field)
      d.shown (.snapshot :: d.ls))
    (hrecovers : d.Recovers stringify b field) :
    f.shown (d.browser stringify b) = f.held d.drained.server.shared := by
  have hwhole (s t : β) (delta : Delta) (hdelta : field.Carried delta) :
      f.view.apply s delta = f.view.apply t delta := by
    obtain ⟨value, hvalue⟩ := Option.ne_none_iff_exists'.mp (hcarried delta hdelta)
    show (f.carried delta).getD s = (f.carried delta).getD t
    rw [hvalue, Option.getD_some, Option.getD_some]
  obtain ⟨value, hvalue, hshown⟩ := d.agrees_of_recovers f.view Eq
    (fun _ _ _ h h' => h.trans h') (fun s t delta h => congrArg (f.view.apply · delta) h) hwhole
    (fun _ => rfl) hsame (fun shared value => value = f.held shared)
    (fun a b value hsame h => h.trans (f.held_log a b hsame)) (fun s a => w.FieldTold s a field)
    (fun htells htold h => h ▸ hannounced htells htold) stringify b
    (by rw [w.follow_self]; exact f.shown_hydrate stringify b d.shown.server.shared) htold
    hrecovers
  exact hshown.trans hvalue

/-- The points are right again when they recover. -/
theorem points_inSync (d : w.DrainedStream) (stringify : Json → String) (b : Browser)
    (htold : Transition.Along w.step
      (fun ρ l _ => ∀ a, ρ.action l = some a → w.PointsTold ρ.server a)
      d.shown (.snapshot :: d.ls))
    (hrecovers : d.Recovers stringify b .points) :
    (d.browser stringify b).points = pointsJson w.core d.drained.server.shared := by
  have hwhole (s t : PointTable) (delta : Delta) (hdelta : WholeField.points.Carried delta) :
      PointTable.AgreesWith (showTable s delta) (showTable t delta) := by
    cases delta with
    | points points => exact PointTable.agreesWith_whole points s t
    | _ => exact hdelta.elim
  have hlog (s t : Shared) (table : PointTable) (hsame : s.SameUpToLog t)
      (htable : table.Shows w.core s) : table.Shows w.core t := by
    refine htable.congr ?_
    unfold pointsJson
    rw [hsame.config, hsame.statuses]
  obtain ⟨table, hshows, hagrees⟩ := d.agrees_of_recovers tableView PointTable.AgreesWith
    (fun _ _ _ h h' => h.trans h') (fun s t delta h => h.delta delta) hwhole
    (fun table => ⟨rfl, fun _ _ => rfl⟩) (fun _ _ h => h)
    (fun shared table => table.Shows w.core shared) hlog w.PointsTold PointTable.Shows.tells
    stringify b (w.snapshot_shows stringify b _) htold hrecovers
  exact hagrees.1.trans hshows.points

/-- For every field: if the critical sections since the snapshot send what they change about it,
and every delta that changes it and that the stream skipped has one behind it that carries it whole
and was read, then the browser that has drained the stream shows the field as the server has
it. -/
theorem inSync (d : w.DrainedStream) (field : WholeField) (stringify : Json → String)
    (b : Browser)
    (htold : Transition.Along w.step
      (fun ρ l _ => ∀ a, ρ.action l = some a → w.FieldTold ρ.server a field)
      d.shown (.snapshot :: d.ls))
    (hrecovers : d.Recovers stringify b field) :
    field.InSync w (d.browser stringify b) d.drained.server.shared := by
  cases field with
  | devices =>
    exact d.register_inSync (.devices w) .devices
      (fun delta => by cases delta <;> simp [WholeField.Carried, Register.devices])
      (fun _ _ h => h) (fun h _ => (Register.announced h).1) stringify b htold hrecovers
  | browsed =>
    exact d.register_inSync (.browsed w) .browsed
      (fun delta => by cases delta <;> simp [WholeField.Carried, Register.browsed])
      (fun _ _ h => h) (fun h _ => (Register.announced h).2.1) stringify b htold hrecovers
  | lifecycle =>
    exact d.register_inSync (.lifecycle w) .lifecycle
      (fun delta => by cases delta <;> simp [WholeField.Carried, Register.lifecycle])
      (fun _ _ h => h) (fun h _ => (Register.announced h).2.2.1) stringify b htold hrecovers
  | stats =>
    exact d.register_inSync (.stats w) .stats
      (fun delta => by
        cases delta <;> simp [WholeField.Carried, Register.stats, Register.ofStatus])
      (fun _ _ h => h) (fun h hzero => (Register.stats_announced_iff h).mpr hzero) stringify b
      htold hrecovers
  | config =>
    exact Prod.mk.inj (d.register_inSync (.config w) .config
      (fun delta => by cases delta <;> simp [WholeField.Carried, Register.config])
      (fun _ _ h => Prod.ext h.1 h.2) Register.config_announced stringify b htold hrecovers)
  | points => exact d.points_inSync stringify b htold hrecovers

end WebState.DrainedStream

/-! ## A burst of warnings -/

/-- A republisher starts and announces itself. Then a discovery finds a device and warns more
often than the channel keeps payloads, and the stream is read to the end. -/
def noisyRun : List Label :=
  [.subscribe 0, .request .startRepublisher, .emit, .send 0 (.lifecycle .starting), .drain, .emit,
    .request .discover, .emit, .emit,
    .send 1 (.devices ⟨[⟨"AHU-1", none, "10.0.0.1", ""⟩], List.replicate 256 "no answer"⟩),
    .drain] ++
    List.replicate 257 .emit ++ List.replicate 257 (.receive 0)

/-- The system at the end. -/
def noisyEnd : System MemoryDisk :=
  (Transition.run memoryState.step connecting (.snapshot :: noisyRun)).get (by decide +kernel)

/-- What the stream has read: the five oldest of 261 payloads were no longer kept. -/
def noisyReader : Reader Delta := ⟨0, 261, noisyEnd.aired.drop 5, true⟩

/-- The stream has read the channel to its end. -/
private theorem noisyEnd_drained :
    noisyEnd.streams[0]? =
        some ⟨memoryState.snapshotJson connecting.server.shared, some noisyReader⟩ ∧
      noisyReader.next = noisyEnd.aired.length ∧ noisyEnd.LockFree := by
  decide +kernel

/-- The browser has lagged and has drained its stream. -/
def laggedBrowser : memoryState.DrainedStream where
  shown := connecting
  ls := noisyRun
  drained := noisyEnd
  snapshot := memoryState.snapshotJson connecting.server.shared
  reader := noisyReader
  run := (Option.some_get _).symm
  stream := noisyEnd_drained.1
  position := noisyEnd_drained.2.1
  free := noisyEnd_drained.2.2

/-- The last delta is the list of devices, and so the browser shows it. -/
theorem laggedBrowser_devices : WholeField.InSync memoryState
    (laggedBrowser.browser plainStringify .initial) laggedBrowser.drained.server.shared
    .devices := by
  refine laggedBrowser.inSync .devices plainStringify .initial ?_ ?_
  · exact Transition.along_of_forall fun _ _ _ _ _ _ => trivial
  · have hlast : laggedBrowser.passed.getLast? =
        some (.devices [⟨0, "AHU-1", none, "10.0.0.1", ""⟩], true) := by decide +kernel
    exact Replay.recovers_of_getLast hlast trivial

/-- The only life-cycle delta was no longer kept, and the browser shows a stopped republisher
for one that is starting. -/
theorem laggedBrowser_lifecycle_lost : ¬ WholeField.InSync memoryState
    (laggedBrowser.browser plainStringify .initial) laggedBrowser.drained.server.shared
    .lifecycle := by
  show ¬ (laggedBrowser.browser plainStringify .initial).lifecycle =
    lifecycleDto laggedBrowser.drained.server.shared.lifecycle
  decide +kernel

end Republisher
