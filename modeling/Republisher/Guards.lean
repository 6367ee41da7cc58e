import Republisher.Effects

/-!
# When a request does nothing

Each handler looks at the state before it changes anything. A request that gets past its
guards writes a log record, except for a change of the protocol; every other request leaves
the state behind the lock as it is and starts no thread.
-/

namespace Republisher

variable {Disk : Type}

/-- The handler changes the state behind the lock, as its guards say beforehand. -/
def Request.Acts (w : WebState Disk) (r : Request) (shared : Shared) : Prop :=
  match r with
  | .getState | .getStatus | .getCapabilities | .getConfig | .getPoints | .getLogs => False
  | .getInterfaces => True
  | .setProtocol id => (w.caps id).isSome = true ∧
      (shared.config.protocol ≠ id ∨ shared.devices ≠ [] ∨ shared.browsed ≠ [])
  | .discover | .pollOnce => (w.registry.get shared.config.protocol).isSome = true
  | .browseDevice index => shared.devices[index]?.isSome = true ∧
      (w.registry.get shared.config.protocol).isSome = true
  | .scanAll => shared.devices = [] ∨ (w.registry.get shared.config.protocol).isSome = true
  | .startRepublisher => shared.lifecycle.active = false ∧
      (w.core.validate shared.config = .ok () →
        (w.registry.get shared.config.protocol).isSome = true)
  | .stopRepublisher => shared.stopFlag.isSome = true
  | r => (r.edit w shared).isSome = true

/-- The state behind the lock is as it was and no thread has been started. -/
structure Server.Untouched (s t : Server Disk) : Prop where
  shared : t.shared = s.shared
  threads : t.threads = s.threads

/-- A server is untouched by nothing. -/
theorem Server.Untouched.refl (s : Server Disk) : s.Untouched s := ⟨rfl, rfl⟩

/-- More log records have been written. -/
theorem Server.not_untouched {s t : Server Disk} (h : s.shared.logSeq < t.shared.logSeq) :
    ¬ s.Untouched t := by
  rintro ⟨hshared, -⟩
  rw [hshared] at h
  exact Nat.lt_irrefl _ h

/-- A status line is one more record. -/
@[simp] theorem Server.setStatus_logSeq (core : Core Disk) (level : LogLevel) (message : String)
    (s : Server Disk) : (s.setStatus core level message).shared.logSeq = s.shared.logSeq + 1 := rfl

/-- Trying to save is one more record. -/
theorem WebState.saveConfig_logSeq (w : WebState Disk) (s : Server Disk) :
    (w.saveConfig s).2.shared.logSeq = s.shared.logSeq + 1 := by
  unfold saveConfig
  cases w.core.validate s.shared.config with
  | error error => rfl
  | ok _ =>
    dsimp only
    rcases w.core.saveToPath w.configPath s.shared.config s.disk with ⟨_ | _, disk⟩ <;> rfl

/-- Nor do the records that are written once it is saved get lost. -/
theorem Request.onSaved_logSeq (w : WebState Disk) (r : Request) (removed : ℕ) (s : Server Disk) :
    s.shared.logSeq ≤ (r.onSaved w removed s).2.shared.logSeq := by
  cases r <;> first | exact Nat.le_refl _ | exact Nat.le_succ _

/-- An edit writes a record, whether or not it can be saved. -/
theorem WebState.handle_edit_logSeq (w : WebState Disk) {r : Request} {s : Server Disk}
    {shared : Shared} (hedit : r.edit w s.shared = some shared) :
    s.shared.logSeq < (w.handle r s).2.shared.logSeq := by
  obtain ⟨config, statuses, rfl⟩ := Request.edit_rest hedit
  rw [w.handle_edit_eq hedit, saveThen]
  have hsave := w.saveConfig_logSeq { s with shared := { s.shared with config, statuses } }
  rcases hresult : w.saveConfig { s with shared := { s.shared with config, statuses } } with
    ⟨_ | _, t⟩
  · rw [hresult] at hsave
    exact Nat.lt_of_lt_of_eq (Nat.lt_succ_self _) hsave.symm
  · rw [hresult] at hsave
    exact Nat.lt_of_lt_of_le (Nat.lt_of_lt_of_eq (Nat.lt_succ_self _) hsave.symm)
      (r.onSaved_logSeq w _ t)

/-- An edit leaves nothing untouched, and a refused one everything. -/
private theorem untouched_of_edits (w : WebState Disk) (r : Request) (hr : r.EditsConfig)
    (s : Server Disk) :
    s.Untouched (w.handle r s).2 ↔ ¬ (r.edit w s.shared).isSome = true := by
  cases hedit : r.edit w s.shared with
  | none =>
    obtain ⟨error, h⟩ := w.handle_refused hr hedit
    rw [h]
    exact iff_of_true (.refl s) (by simp)
  | some shared =>
    exact iff_of_false (Server.not_untouched (w.handle_edit_logSeq hedit)) (by simp)

/-- A request leaves the server untouched exactly when it does not get past its guards. -/
theorem WebState.handle_untouched_iff (w : WebState Disk) (r : Request) (s : Server Disk) :
    s.Untouched (w.handle r s).2 ↔ ¬ r.Acts w s.shared := by
  cases r with
  | getState | getStatus | getCapabilities | getConfig | getPoints | getLogs =>
    exact iff_of_true (.refl s) not_false
  | getInterfaces =>
    exact iff_of_false (Server.not_untouched (Nat.lt_succ_self _)) (not_not_intro trivial)
  | setProtocol id =>
    simp only [handle, Republisher.setProtocol, Request.Acts]
    cases hcaps : w.caps id with
    | none => exact iff_of_true (.refl s) (by simp)
    | some caps =>
      constructor
      · rintro ⟨hshared, -⟩ ⟨-, hne⟩
        have hprotocol := congrArg (fun shared => shared.config.protocol) hshared
        have hdevices := congrArg Shared.devices hshared
        have hbrowsed := congrArg Shared.browsed hshared
        rcases hne with hne | hne | hne
        · exact hne hprotocol.symm
        · exact hne hdevices.symm
        · exact hne hbrowsed.symm
      · intro h
        have hsame : s.shared.config.protocol = id ∧ s.shared.devices = [] ∧
            s.shared.browsed = [] := by simpa [not_or] using h
        obtain ⟨rfl, hdevices, hbrowsed⟩ := hsame
        refine ⟨?_, rfl⟩
        show { s.shared with devices := [], browsed := [] } = s.shared
        rw [← hdevices, ← hbrowsed]
  | discover =>
    simp only [handle, Republisher.discover, Request.Acts]
    cases w.registry.get s.shared.config.protocol with
    | none => exact iff_of_true (.refl s) (by simp)
    | some factory => exact iff_of_false (Server.not_untouched (Nat.lt_succ_self _)) (by simp)
  | browseDevice index =>
    simp only [handle, Republisher.browseDevice, Request.Acts]
    cases s.shared.devices[index]? with
    | none => exact iff_of_true (.refl s) (by simp)
    | some device =>
      cases w.registry.get s.shared.config.protocol with
      | none => exact iff_of_true (.refl s) (by simp)
      | some factory => exact iff_of_false (Server.not_untouched (Nat.lt_succ_self _)) (by simp)
  | scanAll =>
    simp only [handle, Republisher.scanAll, Request.Acts, List.isEmpty_iff]
    by_cases hdevices : s.shared.devices = []
    · rw [if_pos hdevices]
      exact iff_of_false (Server.not_untouched (Nat.lt_succ_self _)) (by simp [hdevices])
    · rw [if_neg hdevices]
      cases w.registry.get s.shared.config.protocol with
      | none => exact iff_of_true (.refl s) (by simp [hdevices])
      | some factory => exact iff_of_false (Server.not_untouched (Nat.lt_succ_self _)) (by simp)
  | pollOnce =>
    simp only [handle, Republisher.pollOnce, Request.Acts]
    cases w.registry.get s.shared.config.protocol with
    | none => exact iff_of_true (.refl s) (by simp)
    | some factory => exact iff_of_false (Server.not_untouched (Nat.lt_succ_self _)) (by simp)
  | startRepublisher =>
    simp only [handle, Republisher.startRepublisher, Request.Acts]
    cases hactive : s.shared.lifecycle.active with
    | true => exact iff_of_true (.refl s) (by simp)
    | false =>
      cases w.core.validate s.shared.config with
      | error error => exact iff_of_false (Server.not_untouched (Nat.lt_succ_self _)) (by simp)
      | ok _ =>
        cases w.registry.get s.shared.config.protocol with
        | none => exact iff_of_true (.refl s) (by simp)
        | some factory => exact iff_of_false (Server.not_untouched (Nat.lt_succ_self _)) (by simp)
  | stopRepublisher =>
    simp only [handle, Republisher.stopRepublisher, Request.Acts]
    cases hstop : s.shared.stopFlag with
    | none => exact iff_of_true (.refl s) (by simp)
    | some stop =>
      refine iff_of_false (Server.not_untouched ?_) (by simp)
      show s.shared.logSeq < s.raiseStop.shared.logSeq + 1
      rw [Server.raiseStop_shared]
      exact Nat.lt_succ_self _
  | setConnection values => exact untouched_of_edits w (.setConnection values) trivial s
  | savePoint req => exact untouched_of_edits w (.savePoint req) trivial s
  | togglePoint index enabled => exact untouched_of_edits w (.togglePoint index enabled) trivial s
  | deletePoint index => exact untouched_of_edits w (.deletePoint index) trivial s
  | clearPoints => exact untouched_of_edits w .clearPoints trivial s
  | addBrowsedPoint index => exact untouched_of_edits w (.addBrowsedPoint index) trivial s
  | putSettings req => exact untouched_of_edits w (.putSettings req) trivial s

end Republisher
