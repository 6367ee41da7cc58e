import Republisher.Identities
import Republisher.Mirror

/-!
# Adding browsed points

A browsed entry is put into the configured points by its identity. This file says what that
does to the list, and that an entry is there for good: it can be added again, also after
entries of other identities, and the list stays as it is.
-/

namespace Republisher

variable {Disk : Type}

/-- What `add_browsed_point` makes of the configured points. -/
structure Core.Adds (core : Core Disk) (point : PointConfig) (before after : List PointConfig) :
    Prop where
  present : point ∈ after
  others : after.filter (fun p => decide (core.identity p ≠ core.identity point)) =
    before.filter fun p => decide (core.identity p ≠ core.identity point)
  length : after.length = before.length + if core.Lacks before point then 1 else 0
  distinct : core.Distinct before → core.Distinct after

/-- A point put into the list by its identity is added. -/
theorem Core.adds_upsert (core : Core Disk) (point : PointConfig) (points : List PointConfig) :
    core.Adds point points (upsert core point points) where
  present := List.mem_of_find?_eq_some (Keyed.find?_upsert_self point points)
  others := Keyed.filter_upsert point points
  length := Keyed.length_upsert point points
  distinct h := h.upsert point

/-- The point found under the identity of a browsed entry is the one built from it. -/
def Core.Finds (core : Core Disk) (found : DiscoveredPoint) (points : List PointConfig) : Prop :=
  points.find? (fun p => core.identity p == core.identity found.toPoint) = some found.toPoint

/-- The critical section leaves the points alone, or it adds a browsed entry whose identity is
not that of `found`. -/
def WebState.AddsOthers (w : WebState Disk) (found : DiscoveredPoint) (s : Server Disk)
    (a : Action) (t : Server Disk) : Prop :=
  t.shared.config.points = s.shared.config.points ∨
    ∃ index other, a = .request (.addBrowsedPoint index) ∧
      s.shared.browsed[index]? = some other ∧
        w.core.identity other.toPoint ≠ w.core.identity found.toPoint

/-- The configuration after a browsed entry is added, whether or not it could be saved. -/
theorem WebState.handle_addBrowsedPoint (w : WebState Disk) {index : ℕ} {s : Server Disk}
    {found : DiscoveredPoint} (hfound : s.shared.browsed[index]? = some found) :
    (w.handle (.addBrowsedPoint index) s).2.shared.config =
      { s.shared.config with
        points := upsert w.core found.toPoint s.shared.config.points } := by
  have hedit : Request.edit w (.addBrowsedPoint index) s.shared =
      some (s.shared.withPoints (upsert w.core found.toPoint s.shared.config.points)) := by
    rw [Request.edit, hfound]
    rfl
  rw [← (w.handle_edit_shared hedit).2.config]
  rfl

/-- An entry is still found after a section that at most adds an entry of another identity. -/
theorem Core.Finds.step {w : WebState Disk} {found : DiscoveredPoint} {s t : Server Disk}
    {a : Action} (h : w.core.Finds found s.shared.config.points)
    (hadvance : w.advance s a = some t) (hothers : w.AddsOthers found s a t) :
    w.core.Finds found t.shared.config.points := by
  rcases hothers with hsame | ⟨index, other, rfl, hother, hne⟩
  · rw [hsame]
    exact h
  · obtain rfl := Option.some.inj hadvance
    rw [WebState.act, w.handle_addBrowsedPoint hother]
    exact (Keyed.find?_upsert_of_ne hne _).trans h

/-- A browsed entry that is added successfully has its point in the list, next to the points of
other identities as they were and in their order. The list is longer by one exactly when no
point had the identity, and distinct identities stay distinct. Adding the entry again changes
nothing, at once or after any entries of other identities were added. -/
theorem WebState.addBrowsedPoint_spec (w : WebState Disk) {index : ℕ} {s : Server Disk}
    {reply : Reply} (hok : (w.handle (.addBrowsedPoint index) s).1 = .ok reply) :
    ∃ found, s.shared.browsed[index]? = some found ∧
      let t := (w.handle (.addBrowsedPoint index) s).2
      w.core.Adds found.toPoint s.shared.config.points t.shared.config.points ∧
        ∀ actions again, Transition.Along w.advance (w.AddsOthers found) t actions →
          let u := w.acts t actions
          u.shared.browsed[again]? = some found →
            (w.handle (.addBrowsedPoint again) u).2.shared.config = u.shared.config := by
  cases hfound : s.shared.browsed[index]? with
  | none =>
    rw [handle, Republisher.addBrowsedPoint, hfound] at hok
    cases hok
  | some found =>
    refine ⟨found, rfl, ?_, ?_⟩
    · rw [w.handle_addBrowsedPoint hfound]
      exact w.core.adds_upsert found.toPoint s.shared.config.points
    · intro actions again halong u hagain
      have hadded : w.core.Finds found
          (w.handle (.addBrowsedPoint index) s).2.shared.config.points := by
        rw [w.handle_addBrowsedPoint hfound]
        exact Keyed.find?_upsert_self (κ := PointIdentity) found.toPoint _
      have hthroughout := Transition.throughout_of_along
        (fun t a u h hadvance hothers => Core.Finds.step h hadvance hothers) hadded halong
      have hfinds : w.core.Finds found u.shared.config.points :=
        hthroughout.last (w.run_advance _ actions)
      have hidle : upsert w.core found.toPoint u.shared.config.points = u.shared.config.points :=
        Keyed.upsert_of_find? hfinds
      rw [w.handle_addBrowsedPoint hagain, hidle]

/-- A browsed entry with the given value of its addressing field. -/
def plainFound (id : String) : DiscoveredPoint :=
  { deviceKey := "AHU-1"
    name := none
    description := none
    units := none
    value := none
    addressing := (∅ : Addressing).insert "id" (.string id)
    suggestedTagPath := id }

/-- The in-memory daemon with a point `a` and with browsed entries `b` and `c`. -/
def browsedServer : Server MemoryDisk :=
  memoryState.applyEvent (.points [plainFound "b", plainFound "c"])
    (memoryServer [plainPoint "a"] true)

/-- The entry `b` is added, then `c`, and `b` again. -/
theorem browsed_entry_added_again :
    let s := memoryState.acts browsedServer [.request (.addBrowsedPoint 0)]
    let t := memoryState.acts s [.request (.addBrowsedPoint 1)]
    s.shared.config.points = [plainPoint "a", plainPoint "b"] ∧
      t.shared.config.points = [plainPoint "a", plainPoint "b", plainPoint "c"] ∧
      (memoryState.handle (.addBrowsedPoint 0) t).2.shared.config = t.shared.config := by
  refine ⟨by decide, by decide, ?_⟩
  have hok : (memoryState.handle (.addBrowsedPoint 0) browsedServer).1 = .ok .ok := by decide
  obtain ⟨found, hfound, -, hagain⟩ := memoryState.addBrowsedPoint_spec hok
  obtain rfl : plainFound "b" = found := Option.some.inj hfound
  refine hagain [.request (.addBrowsedPoint 1)] 0 ?_ (by decide)
  refine fun t ht => ⟨.inr ⟨1, plainFound "c", rfl, ?_, ?_⟩, trivial⟩
  · decide
  · decide

end Republisher
