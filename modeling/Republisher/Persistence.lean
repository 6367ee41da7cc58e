import Republisher.Instance

/-!
# What is on the disk when a change is reported

A request that edits the configuration is answered `ok` only after the file was
written, except the choice of the protocol, which is not saved at all. A finished
bulk scan drops the outcome of its save and reports success in any case.
-/

namespace Republisher

variable {Disk : Type}

/-- A successful save is read back by a later load, up to the secrets that `withheld`
removes. -/
def Core.LoadsSaved (core : Core Disk) (withheld : AppConfig → AppConfig) : Prop :=
  ∀ path config disk, (core.saveToPath path config disk).1 = .ok () →
    core.loadFromPath path (core.saveToPath path config disk).2 = .ok (withheld config)

/-- A restart without environment overrides comes back with `config`. -/
def WebState.OnDisk (w : WebState Disk) (withheld : AppConfig → AppConfig) (config : AppConfig)
    (disk : Disk) : Prop :=
  w.core.loadFromPath w.configPath disk = .ok (withheld config)

/-- What changes the configuration in memory: a request, or a finished bulk scan. -/
inductive ConfigChange
  | request (r : Request)
  | bulkImport (result : ImportResult)

/-- The requests that edit the configuration, whether or not they save it. -/
def ConfigChange.Edits : ConfigChange → Prop
  | .request (.setProtocol _) => True
  | .request r => r.EditsConfig
  | .bulkImport _ => True

/-- The server after the change. -/
def WebState.change (w : WebState Disk) (c : ConfigChange) (s : Server Disk) : Server Disk :=
  match c with
  | .request r => (w.handle r s).2
  | .bulkImport result => w.applyEvent (.bulkTagImport result) s

/-- The change is reported as done: the answer is `ok`, or the status line says that
the points were imported. -/
def WebState.Reported (w : WebState Disk) (c : ConfigChange) (s : Server Disk) : Prop :=
  match c with
  | .request r => ∃ reply, (w.handle r s).1 = .ok reply
  | .bulkImport result =>
      (w.applyEvent (.bulkTagImport result) s).shared.statusLine = bulkImportStatus result

/-- If the change is reported as done, the file holds the configuration in memory. -/
def WebState.Persisted (w : WebState Disk) (withheld : AppConfig → AppConfig) (c : ConfigChange)
    (s : Server Disk) : Prop :=
  w.Reported c s → w.OnDisk withheld (w.change c s).shared.config (w.change c s).disk

/-- The configuration a bulk import asks for. -/
def AppConfig.withPoints (points : List PointConfig) (config : AppConfig) : AppConfig :=
  { config with points }

/-- The condition for a reported change to be on the disk. A choice of the protocol must
find its result already in the file. So must a bulk import that is not valid; one that is valid
must be saved, or find its result in the file that the failed save leaves. -/
def WebState.WritesOrMatches (w : WebState Disk) (withheld : AppConfig → AppConfig)
    (c : ConfigChange) (s : Server Disk) : Prop :=
  match c with
  | .request (.setProtocol id) =>
      (w.caps id).isSome = true →
        w.OnDisk withheld { s.shared.config with protocol := id } s.disk
  | .request _ => True
  | .bulkImport result =>
      let config := s.shared.config.withPoints result.points
      match w.core.validate config with
      | .error _ => w.OnDisk withheld config s.disk
      | .ok () =>
          match w.core.saveToPath w.configPath config s.disk with
          | (.ok (), _) => True
          | (.error _, left) => w.OnDisk withheld config left

/-- A successful save leaves the configuration on the disk. -/
theorem WebState.Saves.onDisk {w : WebState Disk} {withheld : AppConfig → AppConfig}
    (hload : w.core.LoadsSaved withheld) {config : AppConfig} {disk : Disk}
    (h : w.Saves config disk) : w.OnDisk withheld config (w.diskAfter config disk) := by
  obtain ⟨hvalidate, hsave⟩ := h
  unfold WebState.OnDisk WebState.diskAfter
  rw [hvalidate]
  exact hload _ _ _ hsave

/-- A request that ends in `save_config` and is answered `ok` has written the file. -/
theorem WebState.handle_edit_persisted {w : WebState Disk} {withheld : AppConfig → AppConfig}
    (hload : w.core.LoadsSaved withheld) {r : Request} (hr : r.EditsConfig) {s : Server Disk}
    {reply : Reply} (hok : (w.handle r s).1 = .ok reply) :
    w.OnDisk withheld (w.handle r s).2.shared.config (w.handle r s).2.disk := by
  cases hedit : r.edit w s.shared with
  | none =>
    obtain ⟨error, h⟩ := w.handle_refused hr hedit
    rw [h] at hok
    cases hok
  | some shared =>
    obtain ⟨next, hnext, h⟩ := w.handle_edit hedit
    obtain ⟨hsaves, hsilent⟩ := w.saveThen_spec hnext { s with shared }
    rw [h] at hok ⊢
    rw [hsilent.disk, ← hsilent.shared.config]
    exact (hsaves.mp ⟨reply, hok⟩).onDisk hload

/-- The choice of a registered protocol is answered `ok` and does not touch the file. -/
theorem WebState.setProtocol_ok (w : WebState Disk) {id : String}
    (hcaps : (w.caps id).isSome = true) (s : Server Disk) :
    (w.handle (.setProtocol id) s).1 = .ok .ok ∧
      (w.handle (.setProtocol id) s).2.disk = s.disk ∧
      (w.handle (.setProtocol id) s).2.shared.config =
        { s.shared.config with protocol := id } := by
  have hsome : ¬ (w.caps id).isNone = true := by simpa [← Option.isSome_iff_ne_none] using hcaps
  rw [handle, Republisher.setProtocol, if_neg hsome]
  exact ⟨rfl, rfl, rfl⟩

/-- An unknown protocol is refused. -/
theorem WebState.setProtocol_refused (w : WebState Disk) {id : String}
    (hcaps : ¬ (w.caps id).isSome = true) (s : Server Disk) :
    ∃ error, w.handle (.setProtocol id) s = (.error error, s) := by
  have hnone : (w.caps id).isNone = true := by simpa using hcaps
  rw [handle, Republisher.setProtocol, if_pos hnone]
  exact ⟨_, rfl⟩

/-- A bulk import replaces the points in memory whether or not it can save them, and
its status line reports the import in both cases. -/
theorem WebState.bulkImport_change (w : WebState Disk) (result : ImportResult)
    (s : Server Disk) :
    (w.change (.bulkImport result) s).shared.config = s.shared.config.withPoints result.points ∧
      (w.change (.bulkImport result) s).disk =
        w.diskAfter (s.shared.config.withPoints result.points) s.disk ∧
      w.Reported (.bulkImport result) s := by
  cases w.applyEvent_effect (.bulkTagImport result) s with
  | bulkTagImport hshared hsilent =>
    subst hshared
    exact ⟨hsilent.shared.config.symm, hsilent.disk, rfl⟩
  | report hreport => cases hreport

/-- A change of the configuration that is reported as done is on the disk exactly when
it is neither a choice of protocol that the file does not already reflect nor
a bulk import that could not be saved. -/
theorem WebState.persisted_iff {w : WebState Disk} {withheld : AppConfig → AppConfig}
    (hload : w.core.LoadsSaved withheld) {c : ConfigChange} (hc : c.Edits) (s : Server Disk) :
    w.Persisted withheld c s ↔ w.WritesOrMatches withheld c s := by
  cases c with
  | bulkImport result =>
    obtain ⟨hconfig, hdisk, hreported⟩ := w.bulkImport_change result s
    have himported : w.Persisted withheld (.bulkImport result) s ↔
        w.OnDisk withheld (s.shared.config.withPoints result.points)
          (w.diskAfter (s.shared.config.withPoints result.points) s.disk) := by
      unfold WebState.Persisted
      rw [hconfig, hdisk, forall_prop_of_true hreported]
    rw [himported, WebState.WritesOrMatches]
    cases hvalidate : w.core.validate (s.shared.config.withPoints result.points) with
    | error error => rw [WebState.diskAfter, hvalidate]
    | ok =>
      rw [WebState.diskAfter, hvalidate]
      dsimp only
      cases hsave : w.core.saveToPath w.configPath (s.shared.config.withPoints result.points)
          s.disk with
      | mk saved left =>
        cases saved with
        | error error => exact Iff.rfl
        | ok =>
          have hfile := hload _ _ _ (congrArg Prod.fst hsave)
          rw [hsave] at hfile
          exact iff_of_true hfile trivial
  | request r =>
    have hsaving (hr : r.EditsConfig) : w.Persisted withheld (.request r) s := by
      rintro ⟨reply, hok⟩
      exact WebState.handle_edit_persisted hload hr hok
    cases r with
    | setProtocol id =>
      by_cases hcaps : (w.caps id).isSome = true
      · obtain ⟨hok, hdisk, hconfig⟩ := w.setProtocol_ok hcaps s
        simp only [WebState.Persisted, WebState.WritesOrMatches, WebState.change, hconfig, hdisk]
        exact ⟨fun h _ => h ⟨.ok, hok⟩, fun h _ => h hcaps⟩
      · obtain ⟨error, h⟩ := w.setProtocol_refused hcaps s
        refine iff_of_true ?_ fun hsome => absurd hsome hcaps
        rintro ⟨reply, hok⟩
        rw [h] at hok
        cases hok
    | setConnection | savePoint | togglePoint | deletePoint | clearPoints | addBrowsedPoint
    | putSettings => exact iff_of_true (hsaving trivial) trivial
    | _ => exact hc.elim

/-- The in-memory file is read back as it was written. -/
theorem memoryCore_loadsSaved : memoryCore.LoadsSaved id := by
  rintro path config ⟨file, _ | _⟩ hsave
  · cases hsave
  · rfl

/-- Deleting a point on a writable disk is on the disk when it is answered. -/
theorem delete_persisted :
    memoryState.Persisted id (.request (.deletePoint 0)) (memoryServer [plainPoint "a"] true) :=
  (WebState.persisted_iff memoryCore_loadsSaved (c := .request (.deletePoint 0)) trivial _).mpr
    trivial

/-- The choice of another protocol is answered `ok` and lost by a restart, and so is
a bulk import on a read-only disk, which is reported as imported. -/
theorem protocol_and_import_not_persisted :
    ¬ memoryState.Persisted id (.request (.setProtocol "modbus"))
        (memoryServer [plainPoint "a"] true) ∧
      ¬ memoryState.Persisted id (.bulkImport ⟨[plainPoint "a", plainPoint "b"], 1, 0⟩)
        (memoryServer [plainPoint "a"] false) := by
  constructor
  · intro h
    have hfile := h ⟨.ok, by decide⟩
    revert hfile
    unfold WebState.OnDisk
    decide
  · intro h
    have hfile := h rfl
    revert hfile
    unfold WebState.OnDisk
    decide

end Republisher
