import Republisher.Discovery
import Mathlib.Data.List.Infix

/-!
# Point edits while a scan runs

A bulk scan is given a copy of the point list when it is asked for, and the list
is replaced by its result when that arrives. What was edited in between survives
exactly when the copy, merged with what the scan found, happens to show it.
-/

namespace Republisher

variable {Disk : Type}

/-- The points of one identity. -/
def Core.pointsAt (core : Core Disk) (id : PointIdentity) (points : List PointConfig) :
    List PointConfig :=
  points.filter fun point => decide (core.identity point = id)

/-! ## What an edit asks for -/

/-- A part of a point: all but whether it is enabled, or that. -/
inductive Aspect
  | settings
  | switch

/-- Two points agree in the part. -/
def Aspect.Agree (a : Aspect) (p q : PointConfig) : Prop :=
  match a with
  | .settings => { p with enabled := q.enabled } = q
  | .switch => p.enabled = q.enabled

/-- The point that a request puts into the list. -/
def Request.placed (w : WebState Disk) (r : Request) (shared : Shared) : Option PointConfig :=
  match r with
  | .savePoint req => (w.caps shared.config.protocol).map req.point
  | .togglePoint index enabled =>
      shared.config.points[index]?.map fun point => { point with enabled }
  | .addBrowsedPoint index => shared.browsed[index]?.map DiscoveredPoint.toPoint
  | _ => none

/-- The points of the identity show what the request asked for in the state `shared`: one of them
agrees with the point it put into the list, or else they are no more than it left. -/
def WebState.InEffect (w : WebState Disk) (r : Request) (shared : Shared) (id : PointIdentity)
    (a : Aspect) (points : List PointConfig) : Prop :=
  match (r.placed w shared).filter fun point => decide (w.core.identity point = id) with
  | some point => ∃ p ∈ points, a.Agree p point
  | none => ∀ edited, r.edit w shared = some edited →
      points.length ≤ (w.core.pointsAt id edited.config.points).length

/-- A part of a point agrees with itself. -/
theorem Aspect.agree_refl (a : Aspect) (p : PointConfig) : a.Agree p p := by
  cases a <;> rfl

/-- The point that an edit puts into the list is there. -/
theorem Request.placed_mem {w : WebState Disk} {r : Request} {shared edited : Shared}
    {point : PointConfig} (hplaced : r.placed w shared = some point)
    (hedit : r.edit w shared = some edited) : point ∈ edited.config.points := by
  cases r with
  | savePoint req =>
    obtain ⟨caps, hcaps, rfl⟩ := Option.map_eq_some_iff.mp hplaced
    rw [Request.edit, hcaps, Option.bind_some] at hedit
    cases hindex : req.index with
    | none =>
      rw [hindex] at hedit
      obtain rfl := Option.some.inj hedit
      exact List.mem_append_right _ List.mem_cons_self
    | some index =>
      rw [hindex] at hedit
      obtain ⟨hlt, hedit⟩ := Option.ite_none_right_eq_some.mp hedit
      obtain rfl := Option.some.inj hedit
      exact List.mem_set hlt _
  | togglePoint index enabled =>
    obtain ⟨old, hold, rfl⟩ := Option.map_eq_some_iff.mp hplaced
    rw [Request.edit, hold] at hedit
    obtain rfl := Option.some.inj hedit
    exact List.mem_set (List.getElem?_eq_some_iff.mp hold).1 _
  | addBrowsedPoint index =>
    obtain ⟨found, hfound, rfl⟩ := Option.map_eq_some_iff.mp hplaced
    rw [Request.edit, hfound] at hedit
    obtain rfl := Option.some.inj hedit
    exact List.mem_of_find?_eq_some
      (Keyed.find?_upsert_self found.toPoint shared.config.points)
  | _ => cases hplaced

/-- An edit is in effect when it has been made. -/
theorem WebState.inEffect_edited {w : WebState Disk} {r : Request} {shared edited : Shared}
    (hedit : r.edit w shared = some edited) (id : PointIdentity) (a : Aspect) :
    w.InEffect r shared id a (w.core.pointsAt id edited.config.points) := by
  unfold InEffect
  split
  · rename_i point hpoint
    obtain ⟨hplaced, hid⟩ := Option.filter_eq_some_iff.mp hpoint
    exact ⟨point, List.mem_filter.mpr ⟨Request.placed_mem hplaced hedit, hid⟩, a.agree_refl point⟩
  · intro other hother
    obtain rfl := Option.some.inj (hedit.symm.trans hother)
    exact Nat.le_refl _

/-! ## A scan in a run -/

/-- One bulk scan in a run, from the request that is answered `ok` to the step that applies
its result. What happens in between is arbitrary. -/
structure WebState.ScanWindow (w : WebState Disk) (start : System Disk) where
  before : List Label
  /-- The state in which the scan is asked for. -/
  asked : System Disk
  scanning : System Disk
  during : List Label
  /-- The state in which the result is the next event to apply. -/
  arriving : System Disk
  imported : System Disk
  reply : Reply
  result : ImportResult
  rest : List (ℕ × WorkerEvent)
  reach : Transition.run w.step start before = some asked
  ask : w.step asked (.request .scanAll) = some scanning
  accepted : (w.handle .scanAll asked.server).1 = .ok reply
  wait : Transition.run w.step scanning during = some arriving
  arrive : arriving.channel = (asked.server.threads.length, .bulkTagImport result) :: rest
  apply : w.step arriving .drain = some imported

namespace WebState.ScanWindow

variable {w : WebState Disk} {start : System Disk}

/-- The points that were configured when the scan was asked for. -/
def copied (window : w.ScanWindow start) : List PointConfig :=
  window.asked.server.shared.config.points

end WebState.ScanWindow

/-- The in-memory daemon with one point, before the scan. -/
def scanStart : System MemoryDisk :=
  memoryState.serve (plainConfig [plainPoint "a"]) "Loaded saved configuration" ⟨none, true⟩

/-- A request that adds a point. -/
def addPoint (id : String) : Request :=
  .savePoint { index := none, tagPath := id, addressing := (∅ : FieldValues).insert "id" id }

end Republisher
