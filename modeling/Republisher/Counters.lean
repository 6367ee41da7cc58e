import Republisher.Instance
import Republisher.Mirror

/-!
# Counters and scan progress in the browser

The totals, the last broker error and the scan progress reach the browser only with
the deltas of their own events. A start that resets them and an import that ends a scan
send none.
-/

namespace Republisher

variable {Disk : Type}

/-- A start that is accepted finds the counters as it leaves them. -/
def WebState.StartFindsZero (w : WebState Disk) (s : Server Disk) (a : Action) : Prop :=
  a = .request .startRepublisher → w.StartAccepted s →
    s.shared.publishedTotal = 0 ∧ s.shared.ackedTotal = 0 ∧ s.shared.lastError = none

/-- An import finds no scan progress to clear. -/
def Server.ImportFindsNoScan (s : Server Disk) (a : Action) : Prop :=
  ∀ result, a = .event (.bulkTagImport result) → s.shared.scanProgress = none

/-- Every change of the counters is announced, but that of a start. -/
theorem Register.stats_announced_iff {w : WebState Disk} {s : Server Disk} {a : Action}
    {shared : Shared} {ds : List Delta} (h : Tells w s a shared ds) :
    (stats w).Announced s.shared ds shared ↔ w.StartFindsZero s a := by
  cases h with
  | start stop haccepted =>
    refine ⟨fun hannounced _ _ => ?_, fun hzero => ?_⟩
    · obtain ⟨hpublished, hrest⟩ := Prod.mk.inj (Option.some.inj hannounced)
      obtain ⟨hacked, herror⟩ := Prod.mk.inj hrest
      exact ⟨hpublished, hacked, herror⟩
    · obtain ⟨hpublished, hacked, herror⟩ := hzero rfl haccepted
      exact congrArg some (Prod.ext hpublished (Prod.ext hacked herror))
  | asked hstart hedit =>
    exact iff_of_true rfl fun heq haccepted => absurd haccepted (hstart (Action.request.inj heq))
  | @saved r edited hedit =>
    have hstart := Request.edit_ne_start hedit
    obtain ⟨config, statuses, rfl⟩ := Request.edit_rest hedit
    refine iff_of_true ?_ fun heq => absurd (Action.request.inj heq) hstart
    rcases r.announces_cases w { s.shared with config, statuses } with h | h <;> rw [h] <;> rfl
  | rejected hedit =>
    have hstart := Request.edit_ne_start hedit
    obtain ⟨config, statuses, rfl⟩ := Request.edit_rest hedit
    exact iff_of_true rfl fun heq => absurd (Action.request.inj heq) hstart
  | bulkTagImport hedited =>
    subst hedited
    exact iff_of_true rfl nofun
  | @samples samples batch hbatch =>
    obtain ⟨statuses, recentSamples, h⟩ := samplesBatch_shared w.core s.shared samples
    refine iff_of_true ?_ nofun
    rw [hbatch, h]
    rfl
  | @failures failures batch hbatch =>
    obtain ⟨statuses, h⟩ := failuresBatch_shared w.core s.shared failures
    refine iff_of_true ?_ nofun
    rw [hbatch, h]
    rfl
  | _ => exact iff_of_true rfl nofun

/-- Every change of the scan progress is announced, but that of an import. -/
theorem Register.scanProgress_announced_iff {w : WebState Disk} {s : Server Disk} {a : Action}
    {shared : Shared} {ds : List Delta} (h : Tells w s a shared ds) :
    (scanProgress w).Announced s.shared ds shared ↔ s.ImportFindsNoScan a := by
  cases h with
  | @bulkTagImport result edited hedited =>
    subst hedited
    refine ⟨fun hannounced _ _ => Option.some.inj hannounced, fun hnone => ?_⟩
    exact congrArg some (hnone result rfl)
  | @saved r edited hedit =>
    obtain ⟨config, statuses, rfl⟩ := Request.edit_rest hedit
    refine iff_of_true ?_ nofun
    rcases r.announces_cases w { s.shared with config, statuses } with h | h <;> rw [h] <;> rfl
  | rejected hedit =>
    obtain ⟨config, statuses, rfl⟩ := Request.edit_rest hedit
    exact iff_of_true rfl nofun
  | @samples samples batch hbatch =>
    obtain ⟨statuses, recentSamples, h⟩ := samplesBatch_shared w.core s.shared samples
    refine iff_of_true ?_ nofun
    rw [hbatch, h]
    rfl
  | @failures failures batch hbatch =>
    obtain ⟨statuses, h⟩ := failuresBatch_shared w.core s.shared failures
    refine iff_of_true ?_ nofun
    rw [hbatch, h]
    rfl
  | noted hnote =>
    refine iff_of_true rfl fun result heq => ?_
    cases heq
    cases hnote
  | _ => exact iff_of_true rfl nofun

/-- The totals, the last error and the scan progress that a browser shows. -/
def Browser.counters (b : Browser) : Option (ℕ × ℕ × Option String × Option (ℕ × ℕ)) :=
  b.status.map fun status =>
    (status.publishedTotal, status.ackedTotal, status.lastError, status.scanProgress)

/-- The same in the status of the server. -/
def StatusDto.counters (status : StatusDto) : ℕ × ℕ × Option String × Option (ℕ × ℕ) :=
  (status.publishedTotal, status.ackedTotal, status.lastError, status.scanProgress)

/-- They agree when the counters and the scan progress do. -/
theorem Browser.counters_eq_iff {w : WebState Disk} {b : Browser} {shared : Shared} :
    b.counters = some (w.statusJson shared).counters ↔
      (Register.stats w).shown b = (Register.stats w).held shared ∧
        (Register.scanProgress w).shown b = (Register.scanProgress w).held shared := by
  cases hstatus : b.status with
  | none => simp [counters, Register.stats, Register.scanProgress, Register.ofStatus, hstatus]
  | some status =>
    simp only [counters, StatusDto.counters, Register.stats, Register.scanProgress,
      Register.ofStatus, hstatus, Option.map_some, Option.some.injEq, Prod.mk.injEq, and_assoc]

/-- A browser that misses no delta shows in every state the totals, the last error and the scan
progress of the server exactly when every accepted start finds the counters at zero and no scan
progress is found by an import. -/
theorem WebState.follow_counters_iff (w : WebState Disk) (stringify : Json → String)
    (b : Browser) (s : Server Disk) (actions : List Action) :
    Transition.Throughout w.advance (fun t =>
        (w.follow stringify b s t).counters = some (w.statusJson t.shared).counters) s actions ↔
      Transition.Along w.advance (fun t a _ => w.StartFindsZero t a ∧ t.ImportFindsNoScan a)
        s actions := by
  have hstats := (Register.stats w).throughout_iff w.StartFindsZero
    Register.stats_announced_iff stringify b s actions
  have hscan := (Register.scanProgress w).throughout_iff Server.ImportFindsNoScan
    Register.scanProgress_announced_iff stringify b s actions
  simp only [Browser.counters_eq_iff]
  rw [Transition.throughout_and, hstats, hscan, ← Transition.along_and]

/-- A worker publishes five samples and stops; the next start resets the totals of the server
and not those of the browser. A scan that ends leaves its progress in the browser. -/
theorem restart_leaves_old_total :
    let s := memoryServer [plainPoint "a"] true
    let published := memoryState.acts s
      [.request .startRepublisher, .event (.lifecycle .starting), .event (.lifecycle .running),
        .event (.publishStatus ⟨5, 5, some "timed out"⟩), .request .stopRepublisher,
        .event (.lifecycle .stopping), .event (.lifecycle .stopped)]
    let restarted := memoryState.acts published [.request .startRepublisher]
    let scanned := memoryState.acts s
      [.event (.scanProgress 3 3), .event (.bulkTagImport ⟨[plainPoint "a"], 0, 0⟩)]
    (memoryState.handle .startRepublisher published).1 = .ok .ok ∧
      (memoryState.follow plainStringify .initial s restarted).counters =
        some (5, 5, some "timed out", none) ∧
      (memoryState.statusJson restarted.shared).counters = (0, 0, none, none) ∧
      (memoryState.follow plainStringify .initial s scanned).counters =
        some (0, 0, none, some (3, 3)) ∧
      (memoryState.statusJson scanned.shared).counters = (0, 0, none, none) := by
  exact ⟨by decide, by decide, by decide, by decide, by decide⟩

end Republisher
