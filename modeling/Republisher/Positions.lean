import Republisher.System
import Republisher.Instance
import Republisher.Transition

/-!
# Requests that name an item by its position

The browser names a point, a device or a browsed entry by its position in the
list it was last sent. The handler looks the position up in the list as it is
then, so it acts on the item displayed as long as nobody has changed the list.
-/

namespace Republisher

variable {Disk : Type}

/-- The three lists a browser is shown. -/
inductive ListName
  | points
  | devices
  | browsed
  deriving DecidableEq

/-- What an item of a list is, whatever its position. -/
inductive ItemIdentity
  | point (identity : PointIdentity)
  | device (key : String)
  | browsed (identity : PointIdentity)
  deriving DecidableEq

/-- The item at a position of a list. -/
def WebState.itemAt (w : WebState Disk) (shared : Shared) (list : ListName) (index : ℕ) :
    Option ItemIdentity :=
  match list with
  | .points => shared.config.points[index]?.map fun point => .point (w.core.identity point)
  | .devices => shared.devices[index]?.map fun device => .device device.key
  | .browsed => shared.browsed[index]?.map fun found => .browsed (w.core.identity found.toPoint)

/-- The list and the position a request names, if any. -/
def Request.position : Request → Option (ListName × ℕ)
  | .togglePoint index _ | .deletePoint index => some (.points, index)
  | .savePoint req => req.index.map fun index => (.points, index)
  | .browseDevice index => some (.devices, index)
  | .addBrowsedPoint index => some (.browsed, index)
  | _ => none

/-- From `s` to `t` the request was carried out on the item at the position, which is `x`, and
on no other. -/
def WebState.ActsAt (w : WebState Disk) (r : Request) (s t : Server Disk) (index : ℕ)
    (x : ItemIdentity) : Prop :=
  match r with
  | .togglePoint _ enabled => ∃ point, s.shared.config.points[index]? = some point ∧
      x = .point (w.core.identity point) ∧
        t.shared.config.points = s.shared.config.points.set index { point with enabled }
  | .deletePoint _ => ∃ point, s.shared.config.points[index]? = some point ∧
      x = .point (w.core.identity point) ∧
        t.shared.config.points = s.shared.config.points.eraseIdx index
  | .savePoint req => ∃ point caps, s.shared.config.points[index]? = some point ∧
      x = .point (w.core.identity point) ∧ w.caps s.shared.config.protocol = some caps ∧
        t.shared.config.points = s.shared.config.points.set index (req.point caps)
  | .browseDevice _ => ∃ device factory, s.shared.devices[index]? = some device ∧
      x = .device device.key ∧
        t.threads = s.threads ++
          [Thread.new (.browse factory (s.shared.config.connection w.core) device)]
  | .addBrowsedPoint _ => ∃ found, s.shared.browsed[index]? = some found ∧
      x = .browsed (w.core.identity found.toPoint) ∧
        t.shared.config.points = upsert w.core found.toPoint s.shared.config.points
  | _ => False

/-- The request is refused and changes nothing. -/
def WebState.Refuses (w : WebState Disk) (r : Request) (s : Server Disk) : Prop :=
  ∃ error, w.handle r s = (.error error, s)

/-- An edit of the points at a position, whether or not it could be saved, leaves the points
it asked for. -/
theorem WebState.handle_points (w : WebState Disk) {r : Request} {s : Server Disk}
    {points : List PointConfig} (hedit : r.edit w s.shared = some (s.shared.withPoints points)) :
    (w.handle r s).2.shared.config.points = points := by
  rw [← (w.handle_edit_shared hedit).2.config]
  rfl

/-- A request that names a position is refused, or carried out on the item at that position of
the list as it is when the request is handled. -/
theorem WebState.actsAt_of_position (w : WebState Disk) {r : Request} {list : ListName}
    {index : ℕ} (hposition : r.position = some (list, index)) (s : Server Disk) :
    w.Refuses r s ∨ ∃ x, w.itemAt s.shared list index = some x ∧
      w.ActsAt r s (w.handle r s).2 index x := by
  cases r with
  | togglePoint i enabled =>
    obtain ⟨rfl, rfl⟩ := Prod.mk.inj (Option.some.inj hposition)
    cases hpoint : s.shared.config.points[i]? with
    | none =>
      have hedit : (Request.togglePoint i enabled).edit w s.shared = none := by
        simp [Request.edit, hpoint]
      exact .inl (w.handle_refused (r := .togglePoint i enabled) trivial hedit)
    | some point =>
      right
      refine ⟨_, by rw [itemAt, hpoint]; rfl, point, hpoint, rfl, ?_⟩
      exact w.handle_points (by simp [Request.edit, hpoint])
  | deletePoint i =>
    obtain ⟨rfl, rfl⟩ := Prod.mk.inj (Option.some.inj hposition)
    cases hpoint : s.shared.config.points[i]? with
    | none =>
      have hout := List.getElem?_eq_none_iff.mp hpoint
      have hedit : (Request.deletePoint i).edit w s.shared = none := by simp [Request.edit, hout]
      exact .inl (w.handle_refused (r := .deletePoint i) trivial hedit)
    | some point =>
      have hlt := (List.getElem?_eq_some_iff.mp hpoint).1
      right
      refine ⟨_, by rw [itemAt, hpoint]; rfl, point, hpoint, rfl, ?_⟩
      exact w.handle_points (by simp [Request.edit, hlt])
  | savePoint req =>
    obtain ⟨i, hindex, hpair⟩ := Option.map_eq_some_iff.mp hposition
    obtain ⟨rfl, rfl⟩ := Prod.mk.inj hpair
    cases hcaps : w.caps s.shared.config.protocol with
    | none =>
      have hedit : (Request.savePoint req).edit w s.shared = none := by simp [Request.edit, hcaps]
      exact .inl (w.handle_refused (r := .savePoint req) trivial hedit)
    | some caps =>
      cases hpoint : s.shared.config.points[i]? with
      | none =>
        have hout := List.getElem?_eq_none_iff.mp hpoint
        have hedit : (Request.savePoint req).edit w s.shared = none := by
          simp [Request.edit, hcaps, hindex, hout]
        exact .inl (w.handle_refused (r := .savePoint req) trivial hedit)
      | some point =>
        have hlt := (List.getElem?_eq_some_iff.mp hpoint).1
        right
        refine ⟨_, by rw [itemAt, hpoint]; rfl, point, caps, hpoint, rfl, hcaps, ?_⟩
        exact w.handle_points (by simp [Request.edit, hcaps, hindex, hlt])
  | browseDevice i =>
    obtain ⟨rfl, rfl⟩ := Prod.mk.inj (Option.some.inj hposition)
    cases hdevice : s.shared.devices[i]? with
    | none => exact .inl ⟨_, by simp only [handle, Republisher.browseDevice, hdevice]; rfl⟩
    | some device =>
      cases hfactory : w.registry.get s.shared.config.protocol with
      | none =>
        exact .inl ⟨_, by simp only [handle, Republisher.browseDevice, hdevice, hfactory]; rfl⟩
      | some factory =>
        right
        refine ⟨_, by rw [itemAt, hdevice]; rfl, device, factory, hdevice, rfl, ?_⟩
        simp only [handle, Republisher.browseDevice, hdevice, hfactory]
        rfl
  | addBrowsedPoint i =>
    obtain ⟨rfl, rfl⟩ := Prod.mk.inj (Option.some.inj hposition)
    cases hfound : s.shared.browsed[i]? with
    | none =>
      have hedit : (Request.addBrowsedPoint i).edit w s.shared = none := by
        simp [Request.edit, hfound]
      exact .inl (w.handle_refused (r := .addBrowsedPoint i) trivial hedit)
    | some found =>
      right
      refine ⟨_, by rw [itemAt, hfound]; rfl, found, hfound, rfl, ?_⟩
      exact w.handle_points (by simp [Request.edit, hfound])
  | _ => cases hposition

/-! ## Runs -/

/-- The identity of a point is given by its addressing. -/
def Core.IdentifiesByAddressing (core : Core Disk) : Prop :=
  ∀ p q : PointConfig, p.addressing = q.addressing → core.identity p = core.identity q

/-- The request may put another point at the position. -/
def Request.MayMovePoint (index : ℕ) : Request → Prop
  | .savePoint req => req.index = some index
  | .deletePoint i => i ≤ index
  | .clearPoints => True
  | _ => False

/-- The step may put another item at the position of the list. -/
def System.MayReplace (σ : System Disk) (list : ListName) (index : ℕ) : Label → Prop
  | .request r =>
      match list with
      | .points => r.MayMovePoint index
      | .devices => r = .discover ∨ ∃ id, r = .setProtocol id
      | .browsed => (∃ index, r = .browseDevice index) ∨ ∃ id, r = .setProtocol id
  | .drain => ∃ k e channel, σ.channel = (k, e) :: channel ∧
      match list with
      | .points => ∃ result, e = .bulkTagImport result
      | .devices => ∃ outcome, e = .devices outcome
      | .browsed => ∃ points, e = .points points
  | _ => False

/-- What `a` has at the position of the list, `b` has there as well. -/
def WebState.KeepsItem (w : WebState Disk) (list : ListName) (index : ℕ) (a b : Shared) : Prop :=
  ∀ x, w.itemAt a list index = some x → w.itemAt b list index = some x

/-- The named list of two states is the same. -/
structure Shared.SameLists (a b : Shared) (list : ListName) : Prop where
  points : list = .points → b.config.points = a.config.points
  devices : list = .devices → b.devices = a.devices
  browsed : list = .browsed → b.browsed = a.browsed

/-- A list that is the same has every item where it was. -/
theorem Shared.SameLists.keepsItem {a b : Shared} {list : ListName} (h : a.SameLists b list)
    (w : WebState Disk) (index : ℕ) : w.KeepsItem list index a b := by
  intro x hitem
  rw [← hitem]
  cases list with
  | points => rw [WebState.itemAt, WebState.itemAt, h.points rfl]
  | devices => rw [WebState.itemAt, WebState.itemAt, h.devices rfl]
  | browsed => rw [WebState.itemAt, WebState.itemAt, h.browsed rfl]

/-- Logging leaves the lists the same. -/
theorem Shared.SameUpToLog.sameLists {a b : Shared} (h : a.SameUpToLog b) (list : ListName) :
    a.SameLists b list :=
  ⟨fun _ => by rw [h.config], fun _ => h.devices.symm, fun _ => h.browsed.symm⟩

/-- `add_browsed_point` puts a point into the list by its identity. -/
theorem upsert_eq (core : Core Disk) (point : PointConfig) (points : List PointConfig) :
    upsert core point points = Keyed.upsert core.identity point points :=
  rfl

/-- An edit that may not move the point at a position leaves a point of the same identity
there. -/
theorem Request.edit_identity {w : WebState Disk} (hidentity : w.core.IdentifiesByAddressing)
    {r : Request} {shared edited : Shared} (hedit : r.edit w shared = some edited) {index : ℕ}
    (hkeeps : ¬ r.MayMovePoint index) {old : PointConfig}
    (hold : shared.config.points[index]? = some old) :
    ∃ new, edited.config.points[index]? = some new ∧
      w.core.identity new = w.core.identity old := by
  have hlt := (List.getElem?_eq_some_iff.mp hold).1
  cases r with
  | savePoint req =>
    obtain ⟨caps, -, hpoint⟩ := Option.bind_eq_some_iff.mp hedit
    cases hindex : req.index with
    | none =>
      simp only [hindex, Option.some.injEq] at hpoint
      subst hpoint
      exact ⟨old, (List.getElem?_append_left hlt).trans hold, rfl⟩
    | some i =>
      have hne : i ≠ index := by
        rintro rfl
        exact hkeeps hindex
      simp only [hindex, Option.ite_none_right_eq_some, Option.some.injEq] at hpoint
      obtain ⟨-, rfl⟩ := hpoint
      exact ⟨old, (List.getElem?_set_ne hne).trans hold, rfl⟩
  | togglePoint i enabled =>
    obtain ⟨point, hpoint, rfl⟩ := Option.map_eq_some_iff.mp hedit
    by_cases heq : i = index
    · subst heq
      obtain rfl := Option.some.inj (hold.symm.trans hpoint)
      exact ⟨{ old with enabled }, List.getElem?_set_self hlt, hidentity _ _ rfl⟩
    · exact ⟨old, (List.getElem?_set_ne heq).trans hold, rfl⟩
  | deletePoint i =>
    simp only [Request.edit, Option.ite_none_right_eq_some, Option.some.injEq] at hedit
    obtain ⟨-, rfl⟩ := hedit
    have hbefore : index < i := Nat.lt_of_not_le hkeeps
    exact ⟨old, (List.getElem?_eraseIdx_of_lt hbefore).trans hold, rfl⟩
  | clearPoints => exact absurd trivial hkeeps
  | addBrowsedPoint i =>
    obtain ⟨found, -, rfl⟩ := Option.map_eq_some_iff.mp hedit
    exact Keyed.getElem?_upsert hold _
  | _ => exact ⟨old, by rw [Request.edit_points hedit (fun h => h)]; exact hold, rfl⟩

/-- A request that may not replace an item of a list leaves the list as it is, or edits the
configuration. -/
theorem Effect.sameLists {w : WebState Disk} {s t : Server Disk} {r : Request}
    (h : Effect w s r t) {σ : System Disk} {list : ListName} {index : ℕ}
    (hkeeps : ¬ σ.MayReplace list index (.request r)) :
    s.shared.SameLists t.shared list ∨
      ∃ edited, r.edit w s.shared = some edited ∧ edited.SameUpToLog t.shared := by
  cases h with
  | silent hsilent => exact .inl (hsilent.shared.sameLists list)
  | protocol _ hsilent =>
    refine .inl ⟨fun _ => hsilent.points, ?_, ?_⟩
    · rintro rfl
      exact absurd (.inr ⟨_, rfl⟩) hkeeps
    · rintro rfl
      exact absurd (.inr ⟨_, rfl⟩) hkeeps
  | edit hedit hsilent => exact .inr ⟨_, hedit, hsilent.shared⟩
  | discover _ hsilent =>
    refine .inl ⟨fun _ => hsilent.points, ?_,
      fun _ => hsilent.shared.browsed.symm⟩
    rintro rfl
    exact absurd (.inl rfl) hkeeps
  | browse _ _ hsilent =>
    refine .inl ⟨fun _ => hsilent.points,
      fun _ => hsilent.shared.devices.symm, ?_⟩
    rintro rfl
    exact absurd (.inl ⟨_, rfl⟩) hkeeps
  | scanAll _ _ hsilent =>
    exact .inl ⟨fun _ => hsilent.points,
      fun _ => hsilent.shared.devices.symm, fun _ => hsilent.shared.browsed.symm⟩
  | pollOnce _ hsilent => exact .inl (hsilent.shared.sameLists list)
  | start _ _ _ hsilent =>
    exact .inl ⟨fun _ => hsilent.points,
      fun _ => hsilent.shared.devices.symm, fun _ => hsilent.shared.browsed.symm⟩
  | stop _ hsilent => exact .inl (hsilent.shared.sameLists list)

/-- An edit that may not replace an item leaves it where it is. -/
theorem Request.edit_keepsItem {w : WebState Disk} (hidentity : w.core.IdentifiesByAddressing)
    {r : Request} {shared edited after : Shared} (hedit : r.edit w shared = some edited)
    (hafter : edited.SameUpToLog after) {σ : System Disk} {list : ListName} {index : ℕ}
    (hkeeps : ¬ σ.MayReplace list index (.request r)) :
    w.KeepsItem list index shared after := by
  have hsame := Request.edit_sameButConfig hedit
  intro x hitem
  cases list with
  | points =>
    obtain ⟨old, hold, rfl⟩ := Option.map_eq_some_iff.mp hitem
    obtain ⟨new, hnew, hsameId⟩ := Request.edit_identity hidentity hedit hkeeps hold
    rw [WebState.itemAt, ← hafter.config, hnew, ← hsameId]
    rfl
  | devices => rw [WebState.itemAt, ← hafter.devices, hsame.devices]; exact hitem
  | browsed => rw [WebState.itemAt, ← hafter.browsed, hsame.browsed]; exact hitem

/-- A request that may not replace an item leaves it where it is. -/
theorem Effect.keepsItem {w : WebState Disk} (hidentity : w.core.IdentifiesByAddressing)
    {s t : Server Disk} {r : Request} (h : Effect w s r t) {σ : System Disk} {list : ListName}
    {index : ℕ} (hkeeps : ¬ σ.MayReplace list index (.request r)) :
    w.KeepsItem list index s.shared t.shared := by
  rcases h.sameLists hkeeps with hsame | ⟨edited, hedit, hafter⟩
  · exact hsame.keepsItem w index
  · exact Request.edit_keepsItem hidentity hedit hafter hkeeps

/-- An event that may not replace a list leaves it as it is. -/
theorem EventEffect.sameLists {w : WebState Disk} {s t : Server Disk} {e : WorkerEvent}
    (h : EventEffect w s e t) {list : ListName}
    (hpoints : list = .points → ∀ result, e ≠ .bulkTagImport result)
    (hdevices : list = .devices → ∀ outcome, e ≠ .devices outcome)
    (hbrowsed : list = .browsed → ∀ points, e ≠ .points points) :
    s.shared.SameLists t.shared list := by
  cases h with
  | lifecycle hsilent =>
    exact ⟨fun _ => hsilent.points, fun _ => hsilent.shared.devices.symm,
      fun _ => hsilent.shared.browsed.symm⟩
  | devices hsilent =>
    exact ⟨fun _ => hsilent.points, fun hl => absurd rfl (hdevices hl _),
      fun _ => hsilent.shared.browsed.symm⟩
  | points hsilent =>
    exact ⟨fun _ => hsilent.points, fun _ => hsilent.shared.devices.symm,
      fun hl => absurd rfl (hbrowsed hl _)⟩
  | bulkTagImport hshared hsilent =>
    subst hshared
    exact ⟨fun hl => absurd rfl (hpoints hl _), fun _ => hsilent.shared.devices.symm,
      fun _ => hsilent.shared.browsed.symm⟩
  | report _ hsetup hsilent =>
    exact ⟨fun _ => by rw [← hsilent.shared.config, hsetup.config],
      fun _ => hsilent.shared.devices.symm.trans hsetup.devices,
      fun _ => hsilent.shared.browsed.symm.trans hsetup.browsed⟩

/-- A step that may not replace an item leaves it where it is. -/
theorem WebState.keepsItem_step {w : WebState Disk} (hidentity : w.core.IdentifiesByAddressing)
    {σ τ : System Disk} {l : Label} (hstep : w.step σ l = some τ) {list : ListName} {index : ℕ}
    (hkeeps : ¬ σ.MayReplace list index l) :
    w.KeepsItem list index σ.server.shared τ.server.shared := by
  cases WebState.step_effect hstep with
  | request _ heffect _ _ => exact heffect.keepsItem hidentity hkeeps
  | sent => exact fun x hitem => hitem
  | drained hhead heffect _ =>
    refine Shared.SameLists.keepsItem (heffect.sameLists ?_ ?_ ?_) w index
    · rintro rfl result rfl
      exact hkeeps ⟨_, _, _, hhead, result, rfl⟩
    · rintro rfl outcome rfl
      exact hkeeps ⟨_, _, _, hhead, outcome, rfl⟩
    · rintro rfl points rfl
      exact hkeeps ⟨_, _, _, hhead, points, rfl⟩
  | shutdown hsilent _ _ =>
    have hsame := hsilent.shared
    rw [Server.raiseStop_shared] at hsame
    exact (hsame.sameLists list).keepsItem w index
  | idle _ hshared _ _ _ _ =>
    rw [hshared]
    exact fun x hitem => hitem

/-- No step of the run may put another item at the position. -/
def WebState.KeepsPosition (w : WebState Disk) (list : ListName) (index : ℕ) (σ : System Disk)
    (ls : List Label) : Prop :=
  Transition.Along w.step (fun ρ l _ => ¬ ρ.MayReplace list index l) σ ls

/-- In such a run the item stays where it was. -/
theorem WebState.KeepsPosition.itemAt {w : WebState Disk}
    (hidentity : w.core.IdentifiesByAddressing) {list : ListName} {index : ℕ} {σ τ : System Disk}
    {ls : List Label} (h : w.KeepsPosition list index σ ls)
    (hrun : Transition.run w.step σ ls = some τ) {x : ItemIdentity}
    (hshown : w.itemAt σ.server.shared list index = some x) :
    w.itemAt τ.server.shared list index = some x := by
  have hthroughout := Transition.throughout_of_along
    (fun ρ l υ hρ hstep hkeeps => WebState.keepsItem_step hidentity hstep hkeeps x hρ) hshown h
  exact hthroughout.last hrun

/-- A browser was shown an item at a position, other things have happened since, and now it
sends a request that names the position. The request is refused, or carried out on exactly
the item that the list has there now. This is the item shown unless another one may have been
put there in between. -/
theorem WebState.position_request {w : WebState Disk}
    (hidentity : w.core.IdentifiesByAddressing) {σ τ : System Disk} {ls : List Label}
    {r : Request} {list : ListName} {index : ℕ} {x : ItemIdentity}
    (hposition : r.position = some (list, index))
    (hshown : w.itemAt σ.server.shared list index = some x)
    (hrun : Transition.run w.step σ ls = some τ) :
    w.Refuses r τ.server ∨ ∃ y, w.itemAt τ.server.shared list index = some y ∧
      w.ActsAt r τ.server (w.handle r τ.server).2 index y ∧
        (w.KeepsPosition list index σ ls → y = x) := by
  rcases w.actsAt_of_position hposition τ.server with hrefused | ⟨y, hitem, hacts⟩
  · exact .inl hrefused
  · refine .inr ⟨y, hitem, hacts, fun hkeeps => ?_⟩
    have hsame := hkeeps.itemAt hidentity hrun hshown
    rw [hitem] at hsame
    exact Option.some.inj hsame

/-- The in-memory daemon with two points. -/
def twoPoints : System MemoryDisk :=
  memoryState.serve (plainConfig [plainPoint "a", plainPoint "b"]) "Loaded saved configuration"
    ⟨none, true⟩

/-- After one browser has deleted the first point. -/
def firstDeleted : System MemoryDisk :=
  (Transition.run memoryState.step twoPoints [.request (.deletePoint 0), .emit, .emit]).get
    (by decide)

/-- The in-memory daemon identifies points by their addressing. -/
theorem memoryCore_identifies : memoryCore.IdentifiesByAddressing :=
  fun _ _ h => congrArg (fun addressing => PointIdentity.canonical ⟨addressing⟩) h

/-- One browser toggles the first point, which puts no other point in its place. -/
def toggleFirst : List Label := [.request (.togglePoint 0 false), .emit, .emit]

/-- After that. -/
def firstToggled : System MemoryDisk :=
  (Transition.run memoryState.step twoPoints toggleFirst).get (by decide)

/-- Another browser then deletes the point where it was shown it, and deletes no other. -/
theorem shown_point_deleted :
    memoryState.ActsAt (.deletePoint 0) firstToggled.server
      (memoryState.handle (.deletePoint 0) firstToggled.server).2 0
      (.point (memoryCore.identity (plainPoint "a"))) := by
  have hrun : Transition.run memoryState.step twoPoints toggleFirst = some firstToggled :=
    (Option.some_get _).symm
  have hkeeps : memoryState.KeepsPosition .points 0 twoPoints toggleFirst :=
    fun _ _ => ⟨id, fun _ _ => ⟨id, fun _ _ => ⟨id, trivial⟩⟩⟩
  have hshown : memoryState.itemAt twoPoints.server.shared .points 0 =
      some (.point (memoryCore.identity (plainPoint "a"))) := by decide
  rcases WebState.position_request (r := .deletePoint 0) memoryCore_identifies rfl hshown hrun
    with ⟨error, hrefused⟩ | ⟨y, -, hacts, hsame⟩
  · have hok : (memoryState.handle (.deletePoint 0) firstToggled.server).1 = .ok .ok := by decide
    rw [hrefused] at hok
    cases hok
  · rw [← hsame hkeeps]
    exact hacts

/-- Another browser still shows the deleted point first. Its request to delete that point is
answered `ok` and deletes the other one. -/
theorem stale_position_deletes_other :
    memoryState.itemAt twoPoints.server.shared .points 0 =
        some (.point (memoryCore.identity (plainPoint "a"))) ∧
      Transition.run memoryState.step twoPoints [.request (.deletePoint 0), .emit, .emit] =
        some firstDeleted ∧
      (memoryState.handle (.deletePoint 0) firstDeleted.server).1 = .ok .ok ∧
      (memoryState.handle (.deletePoint 0) firstDeleted.server).2.shared.config.points = [] ∧
      ¬ ∃ index, memoryState.ActsAt (.deletePoint 0) firstDeleted.server
        (memoryState.handle (.deletePoint 0) firstDeleted.server).2 index
        (.point (memoryCore.identity (plainPoint "a"))) := by
  refine ⟨by decide, (Option.some_get _).symm, by decide, by decide, ?_⟩
  rintro ⟨index, point, hpoint, hidentity, -⟩
  have hother : ∀ p ∈ firstDeleted.server.shared.config.points,
      memoryCore.identity (plainPoint "a") ≠ memoryCore.identity p := by decide
  exact hother point (List.mem_of_getElem? hpoint) (ItemIdentity.point.inj hidentity)

end Republisher
