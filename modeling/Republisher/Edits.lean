import Republisher.Instance

/-!
# Rejected edits

A handler that edits the configuration changes the state behind the lock first
and then validates and saves it. Nothing is taken back when that fails, so an
error answer leaves the state unchanged only in the cases listed here.
-/

namespace Republisher

variable {Disk : Type}

/-- If the request is answered with an error, the configuration and the statuses
are what they were before it. -/
def WebState.RejectedUnchanged (w : WebState Disk) (r : Request) (s : Server Disk) : Prop :=
  ∀ error, (w.handle r s).1 = .error error →
    (w.handle r s).2.shared.config = s.shared.config ∧
      (w.handle r s).2.shared.statuses = s.shared.statuses

/-- The requested edit, where there is one, can be saved or changes nothing. -/
def WebState.EditSavesOrIdle (w : WebState Disk) (r : Request) (s : Server Disk) : Prop :=
  ∀ shared, r.edit w s.shared = some shared →
    w.Saves shared.config s.disk ∨
      (shared.config = s.shared.config ∧ shared.statuses = s.shared.statuses)

/-- A config-editing request that is answered with an error leaves the configuration
and the statuses unchanged exactly when it was refused before the edit, when the
edited configuration can be saved, or when the edit changes nothing. -/
theorem WebState.rejectedUnchanged_iff (w : WebState Disk) {r : Request}
    (hr : r.EditsConfig) (s : Server Disk) :
    w.RejectedUnchanged r s ↔ w.EditSavesOrIdle r s := by
  cases hedit : r.edit w s.shared with
  | none =>
    obtain ⟨error, h⟩ := w.handle_refused hr hedit
    have hidle : w.EditSavesOrIdle r s := by
      intro shared hshared
      rw [hedit] at hshared
      cases hshared
    refine iff_of_true ?_ hidle
    intro error' _
    rw [h]
    exact ⟨rfl, rfl⟩
  | some shared =>
    obtain ⟨hok, hsame⟩ := w.handle_edit_shared hedit
    constructor
    · intro hunchanged shared' hshared'
      obtain rfl : shared = shared' := by rw [hedit] at hshared'; exact Option.some.inj hshared'
      cases hanswer : (w.handle r s).1 with
      | ok reply => exact .inl (hok.mp ⟨reply, hanswer⟩)
      | error error =>
        obtain ⟨hconfig, hstatuses⟩ := hunchanged error hanswer
        exact .inr ⟨hsame.config.trans hconfig, hsame.statuses.trans hstatuses⟩
    · intro hcond error hanswer
      rcases hcond shared hedit with hsaves | ⟨hconfig, hstatuses⟩
      · obtain ⟨reply, hreply⟩ := hok.mpr hsaves
        rw [hanswer] at hreply
        cases hreply
      · exact ⟨hsame.config.symm.trans hconfig, hsame.statuses.symm.trans hstatuses⟩

/-- Setting a point to the state it already has is rejected on a read-only disk and
leaves nothing behind: the edit changes nothing. -/
theorem rejected_idle_toggle_unchanged :
    memoryState.RejectedUnchanged (.togglePoint 0 true) (memoryServer [plainPoint "a"] false) :=
  (memoryState.rejectedUnchanged_iff (r := .togglePoint 0 true) trivial _).mpr (by
    intro shared hshared
    right
    obtain rfl := Option.some.inj hshared
    exact ⟨rfl, rfl⟩)

/-- A point without a tag path is rejected and yet stays configured. A request that
adds a valid point, which would have been accepted before, is rejected after it. -/
theorem rejected_point_stays_configured :
    let bad : Request := .savePoint { index := none }
    let good : Request := .savePoint { index := none, tagPath := "b" }
    let s := memoryServer [plainPoint "a"] true
    let t := (memoryState.handle bad s).2
    ¬ memoryState.RejectedUnchanged bad s ∧
      (memoryState.handle good s).1 = .ok .ok ∧
      (memoryState.handle good t).1 =
        .error (badRequest "Config invalid: a point has no tag path") := by
  refine ⟨fun h => ?_, by decide, by decide⟩
  have hpoints := congrArg AppConfig.points
    (h (badRequest "Config invalid: a point has no tag path") (by decide)).1
  revert hpoints
  decide

end Republisher
