import Republisher.Imports
import Republisher.Positions

/-!
# Points with identities of their own

A status is filed under the identity of a point, so it stands for one point as long as the
configured points have distinct identities. A browsed or imported point is put into the list
by its identity. A saved point is put where the request says, whatever its identity.
-/

namespace Republisher

variable {Disk : Type}

/-! ## What keeps the identities distinct -/

/-- The points have pairwise distinct identities. -/
def Core.Distinct (core : Core Disk) (points : List PointConfig) : Prop :=
  (points.map core.identity).Nodup

instance (core : Core Disk) (points : List PointConfig) : Decidable (core.Distinct points) :=
  inferInstanceAs (Decidable (points.map core.identity).Nodup)

/-- No point of the list has the identity of `point`. -/
def Core.Lacks (core : Core Disk) (points : List PointConfig) (point : PointConfig) : Prop :=
  ∀ p ∈ points, core.identity p ≠ core.identity point

instance (core : Core Disk) (points : List PointConfig) (point : PointConfig) :
    Decidable (core.Lacks points point) :=
  inferInstanceAs (Decidable (∀ p ∈ points, core.identity p ≠ core.identity point))

/-- A merge into points with distinct identities has distinct identities. -/
def Core.MergeKeepsDistinct (core : Core Disk) : Prop :=
  ∀ existing findings, core.Distinct existing →
    core.Distinct (core.mergeImportedPoints existing findings).points

/-- Only one configured point has the identity a status is filed under. -/
theorem Core.Distinct.same_position {core : Core Disk} {points : List PointConfig}
    (h : core.Distinct points) {i j : ℕ} {p q : PointConfig} (hp : points[i]? = some p)
    (hq : points[j]? = some q) (hsame : core.identity p = core.identity q) : i = j := by
  obtain ⟨hi, rfl⟩ := List.getElem?_eq_some_iff.mp hp
  have hmapped : (points.map core.identity)[i]? = (points.map core.identity)[j]? := by
    rw [List.getElem?_map, List.getElem?_map, hp, hq]
    exact congrArg some hsame
  exact (List.getElem?_inj (by rwa [List.length_map]) h).mp hmapped

/-- A point put in the place of one with its identity keeps the identities distinct. -/
theorem Core.Distinct.set_same {core : Core Disk} {points : List PointConfig}
    (h : core.Distinct points) {index : ℕ} {old new : PointConfig}
    (hold : points[index]? = some old) (hsame : core.identity new = core.identity old) :
    core.Distinct (points.set index new) := by
  unfold Distinct
  rw [Keyed.map_set_same hold hsame]
  exact h

/-- A point put into the list by its identity keeps the identities distinct. -/
theorem Core.Distinct.upsert {core : Core Disk} {points : List PointConfig}
    (h : core.Distinct points) (point : PointConfig) :
    core.Distinct (Republisher.upsert core point points) :=
  Keyed.nodup_map_upsert h point

/-- A point that is saved has an identity that no other configured point has. -/
def Request.SavesOwn (w : WebState Disk) (r : Request) (shared : Shared) : Prop :=
  ∀ req caps, r = .savePoint req → w.caps shared.config.protocol = some caps →
    match req.index with
    | some index => index < shared.config.points.length →
        w.core.Lacks (shared.config.points.eraseIdx index) (req.point caps)
    | none => w.core.Lacks shared.config.points (req.point caps)

/-- An edit of points with distinct identities keeps them distinct exactly when the point that
is saved, if one is, has an identity of its own. -/
theorem Request.edit_distinct_iff {w : WebState Disk}
    (hidentity : w.core.IdentifiesByAddressing) {r : Request} {shared edited : Shared}
    (hedit : r.edit w shared = some edited) (h : w.core.Distinct shared.config.points) :
    w.core.Distinct edited.config.points ↔ r.SavesOwn w shared := by
  cases r with
  | savePoint req =>
    obtain ⟨caps, hcaps, hpoint⟩ := Option.bind_eq_some_iff.mp hedit
    have howns : (Request.savePoint req).SavesOwn w shared ↔
        match req.index with
        | some index => index < shared.config.points.length →
            w.core.Lacks (shared.config.points.eraseIdx index) (req.point caps)
        | none => w.core.Lacks shared.config.points (req.point caps) := by
      constructor
      · exact fun howns => howns req caps rfl hcaps
      · rintro howns _ caps' ⟨⟩ hcaps'
        obtain rfl := Option.some.inj (hcaps.symm.trans hcaps')
        exact howns
    rw [howns]
    cases hindex : req.index with
    | none =>
      simp only [hindex, Option.some.injEq] at hpoint
      subst hpoint
      exact Keyed.nodup_map_append_iff h
    | some index =>
      simp only [hindex, Option.ite_none_right_eq_some, Option.some.injEq] at hpoint
      obtain ⟨hlt, rfl⟩ := hpoint
      exact (Keyed.nodup_map_set_iff h hlt).trans ⟨fun hlacks _ => hlacks, fun hlacks => hlacks hlt⟩
  | togglePoint index enabled =>
    obtain ⟨point, hpoint, rfl⟩ := Option.map_eq_some_iff.mp hedit
    refine iff_of_true ?_ (fun req caps hsave => by cases hsave)
    exact h.set_same hpoint (hidentity { point with enabled } point rfl)
  | deletePoint index =>
    simp only [Request.edit, Option.ite_none_right_eq_some, Option.some.injEq] at hedit
    obtain ⟨-, rfl⟩ := hedit
    refine iff_of_true ?_ (fun req caps hsave => by cases hsave)
    exact h.sublist ((List.eraseIdx_sublist shared.config.points index).map w.core.identity)
  | clearPoints =>
    obtain rfl := Option.some.inj hedit
    exact iff_of_true List.nodup_nil (fun req caps hsave => by cases hsave)
  | addBrowsedPoint index =>
    obtain ⟨found, -, rfl⟩ := Option.map_eq_some_iff.mp hedit
    exact iff_of_true (h.upsert found.toPoint) (fun req caps hsave => by cases hsave)
  | _ =>
    refine iff_of_true ?_ (fun req caps hsave => by cases hsave)
    rw [Request.edit_points hedit (fun h => h)]
    exact h

/-- A request either leaves the points as they are or makes an edit. -/
theorem Effect.points {w : WebState Disk} {s t : Server Disk} {r : Request}
    (h : Effect w s r t) : t.shared.config.points = s.shared.config.points ∨
      ∃ edited, r.edit w s.shared = some edited ∧
        t.shared.config.points = edited.config.points := by
  cases h with
  | edit hedit hsilent => exact .inr ⟨_, hedit, hsilent.points⟩
  | silent hsilent | protocol _ hsilent | discover _ hsilent | browse _ _ hsilent
  | scanAll _ _ hsilent | pollOnce _ hsilent | start _ _ _ hsilent | stop _ hsilent =>
    exact .inl hsilent.points

/-- A request keeps the identities distinct exactly when the point that is saved, if one is,
has an identity of its own. -/
theorem WebState.handle_distinct_iff {w : WebState Disk}
    (hidentity : w.core.IdentifiesByAddressing) (r : Request) {s : Server Disk}
    (h : w.core.Distinct s.shared.config.points) :
    w.core.Distinct (w.handle r s).2.shared.config.points ↔ r.SavesOwn w s.shared := by
  cases hedit : r.edit w s.shared with
  | none =>
    have hsame : (w.handle r s).2.shared.config.points = s.shared.config.points := by
      rcases (w.handle_effect r s).points with hsame | ⟨edited, hedited, -⟩
      · exact hsame
      · rw [hedit] at hedited
        cases hedited
    rw [hsame]
    refine iff_of_true h ?_
    rintro req caps rfl hcaps
    -- a save that makes no edit names a position outside the list
    cases hindex : req.index with
    | none => simp [Request.edit, hcaps, hindex] at hedit
    | some index =>
      intro hlt
      simp [Request.edit, hcaps, hindex, hlt] at hedit
  | some edited =>
    rw [← (w.handle_edit_shared hedit).2.config]
    exact Request.edit_distinct_iff hidentity hedit h

/-! ## Runs -/

/-- The copy of the points that a bulk scan is started with. -/
def Spawn.copied : Spawn → Option (List PointConfig)
  | .scanAllObjects _ _ _ existing => some existing
  | _ => none

/-- A thread that a request starts is given the points as they are. -/
theorem Effect.copied {w : WebState Disk} {s t : Server Disk} {r : Request}
    (h : Effect w s r t) : t.threads = s.threads ∨ ∃ spawn,
      t.threads = s.threads ++ [Thread.new spawn] ∧
        ∀ existing, spawn.copied = some existing → existing = s.shared.config.points := by
  cases h with
  | silent hsilent | protocol _ hsilent | edit _ hsilent | stop _ hsilent =>
    exact .inl hsilent.threads
  | discover _ hsilent | browse _ _ hsilent | pollOnce _ hsilent | start _ _ _ hsilent =>
    exact .inr ⟨_, hsilent.threads, fun _ hcopied => by cases hcopied⟩
  | scanAll _ _ hsilent =>
    exact .inr ⟨_, hsilent.threads, fun _ hcopied => (Option.some.inj hcopied).symm⟩

/-- The configured points have distinct identities, and so has every copy that a bulk scan
works with. -/
structure WebState.Separated (w : WebState Disk) (σ : System Disk) : Prop where
  points : w.core.Distinct σ.server.shared.config.points
  copies : ∀ k t, σ.thread k = some t → ∀ existing, t.spawn.copied = some existing →
    w.core.Distinct existing
  traced : w.Traced σ

/-- The step saves no point with the identity of another configured point. -/
def WebState.StepSavesOwn (w : WebState Disk) (σ : System Disk) (l : Label)
    (_ : System Disk) : Prop :=
  ∀ r, l = .request r → r.SavesOwn w σ.server.shared

/-- A result that is queued has distinct identities. -/
theorem WebState.Separated.queued {w : WebState Disk} (hmerge : w.core.MergeKeepsDistinct)
    {σ : System Disk} (h : w.Separated σ) {k : ℕ} {result : ImportResult}
    (hqueued : (k, .bulkTagImport result) ∈ σ.channel) : w.core.Distinct result.points := by
  obtain ⟨t, ht, hsent⟩ := h.traced.queued k _ hqueued
  obtain ⟨factory, connection, devices, existing, findings, hspawn, rfl⟩ :=
    h.traced.sent k t ht _ hsent
  exact hmerge existing findings (h.copies k t ht existing (by rw [hspawn]; rfl))

/-- The copies have distinct identities after a step as well. -/
theorem WebState.Separated.copies_step {w : WebState Disk} {σ τ : System Disk} {l : Label}
    (h : w.Separated σ) (hstep : w.step σ l = some τ) {k : ℕ} {t : Thread}
    (ht : τ.thread k = some t) {existing : List PointConfig}
    (hcopied : t.spawn.copied = some existing) : w.core.Distinct existing := by
  cases WebState.step_effect hstep with
  | request _ heffect =>
    rcases heffect.copied with hthreads | ⟨spawn, hthreads, hgiven⟩
    · rw [System.thread, hthreads] at ht
      exact h.copies k t ht existing hcopied
    · rw [System.thread, hthreads] at ht
      rcases getElem?_append_new.mp ht with ht | ⟨-, rfl⟩
      · exact h.copies k t ht existing hcopied
      · rw [hgiven existing hcopied]
        exact h.points
  | sent _ hold _ =>
    rcases (getElem?_set_old hold).mp ht with ⟨-, rfl⟩ | ⟨-, ht⟩
    · exact h.copies _ _ hold existing hcopied
    · exact h.copies k t ht existing hcopied
  | drained _ heffect _ =>
    rw [System.thread, heffect.keepsWorkers.threads] at ht
    exact h.copies k t ht existing hcopied
  | shutdown hsilent _ _ =>
    rw [System.thread, hsilent.threads, Server.raiseStop_threads] at ht
    exact h.copies k t ht existing hcopied
  | idle _ _ hthreads _ _ _ =>
    rw [System.thread, hthreads] at ht
    exact h.copies k t ht existing hcopied

/-- After a step the configured points have distinct identities exactly when the step saves
no point with the identity of another one. -/
theorem WebState.Separated.points_step {w : WebState Disk}
    (hidentity : w.core.IdentifiesByAddressing) (hmerge : w.core.MergeKeepsDistinct)
    {σ τ : System Disk} {l : Label} (h : w.Separated σ) (hstep : w.step σ l = some τ) :
    w.core.Distinct τ.server.shared.config.points ↔ w.StepSavesOwn σ l τ := by
  cases WebState.step_effect hstep with
  | @request r _ hserver =>
    rw [hserver, WebState.handle_distinct_iff hidentity r h.points]
    refine ⟨?_, fun howns => howns r rfl⟩
    rintro howns _ ⟨⟩
    exact howns
  | sent hsent =>
    refine iff_of_true h.points fun r hr => ?_
    subst hr
    rcases hsent with hsent | ⟨findings, hsent⟩ <;> cases hsent
  | drained hhead heffect _ =>
    refine iff_of_true ?_ (fun r hr => by cases hr)
    cases heffect with
    | bulkTagImport hshared hsilent =>
      rw [hsilent.points, hshared]
      exact h.queued hmerge (by rw [hhead]; exact List.mem_cons_self)
    | lifecycle hsilent | devices hsilent | points hsilent =>
      rw [hsilent.points]
      exact h.points
    | report _ hsetup hsilent =>
      rw [hsilent.points, hsetup.config]
      exact h.points
  | shutdown hsilent _ _ =>
    refine iff_of_true ?_ (fun r hr => by cases hr)
    rw [hsilent.points, Server.raiseStop_shared]
    exact h.points
  | idle hmoves hshared _ _ _ _ =>
    refine iff_of_true ?_ fun r hr => ?_
    · rw [hshared]
      exact h.points
    · subst hr
      exact hmoves.elim

/-- The configured points have pairwise distinct identities in every state of a run that
starts from such points exactly when no step saves a point with the identity of another
configured point. -/
theorem WebState.distinct_iff (w : WebState Disk) (hidentity : w.core.IdentifiesByAddressing)
    (hmerge : w.core.MergeKeepsDistinct) (config : AppConfig)
    (hconfig : w.core.Distinct config.points) (bootStatus : String) (disk : Disk)
    (ls : List Label) :
    Transition.Throughout w.step (fun σ => w.core.Distinct σ.server.shared.config.points)
        (w.serve config bootStatus disk) ls ↔
      Transition.Along w.step w.StepSavesOwn (w.serve config bootStatus disk) ls := by
  have htraced : w.Traced (w.boot config bootStatus disk) := by
    constructor
    · intro k t ht
      cases ht
    · intro k e hmem
      cases hmem
  have hboot : w.Separated (w.boot config bootStatus disk) := by
    refine ⟨hconfig, ?_, htraced⟩
    intro k t ht
    cases ht
  have hpreserved : ∀ (σ : System Disk) (l : Label) (τ : System Disk), w.Separated σ →
      w.step σ l = some τ → w.StepSavesOwn σ l τ → w.Separated τ := by
    intro σ l τ h hstep howns
    exact ⟨(h.points_step hidentity hmerge hstep).mpr howns,
      fun k t ht existing hcopied => h.copies_step hstep ht hcopied,
      WebState.traced_step h.traced hstep⟩
  have hserve : w.Separated (w.serve config bootStatus disk) :=
    w.serve_induction config bootStatus disk hboot fun σ hstep =>
      hpreserved _ _ σ hboot hstep fun r hr req caps hsave => by subst hsave; cases hr
  exact Transition.throughout_iff_along hpreserved (fun _ h => h.points)
    (fun σ l τ h hstep => (h.points_step hidentity hmerge hstep).mp) hserve

/-- The in-memory merge keeps identities distinct. -/
theorem memoryCore_mergeKeepsDistinct : memoryCore.MergeKeepsDistinct := by
  intro existing findings h
  rw [memoryCore_merge_points]
  exact Keyed.nodup_map_merge h findings

/-- A point `b` is saved next to the point `a`. -/
theorem other_point_saved :
    Transition.Throughout memoryState.step
      (fun σ => memoryCore.Distinct σ.server.shared.config.points) scanStart
      [.request (addPoint "b")] := by
  refine (memoryState.distinct_iff memoryCore_identifies memoryCore_mergeKeepsDistinct
    (plainConfig [plainPoint "a"]) (by decide) "Loaded saved configuration" ⟨none, true⟩
    [.request (addPoint "b")]).mpr fun σ _ => ⟨?_, trivial⟩
  intro r hr req caps hsave hcaps
  obtain rfl := Label.request.inj hr
  obtain rfl := Request.savePoint.inj hsave
  have hplain : memoryState.caps "bacnet" = some (plainProtocol "bacnet") := by decide
  obtain rfl := Option.some.inj (hplain.symm.trans hcaps)
  show memoryCore.Lacks [plainPoint "a"] (PointReq.point (plainProtocol "bacnet") _)
  decide

/-- A second point `a` is saved, with an identity that a configured point has. -/
theorem same_point_saved_twice :
    ¬ Transition.Throughout memoryState.step
      (fun σ => memoryCore.Distinct σ.server.shared.config.points) scanStart
      [.request (addPoint "a")] := by
  intro h
  have hlast := h.last (Option.some_get (by decide)).symm
  revert hlast
  decide

end Republisher
