import Mathlib.Algebra.GroupWithZero.Nat
import Republisher.Announce
import Republisher.Delivery

/-!
# Whose publish statuses are counted

A start resets the counters of the status line, and every publish status is added to
them, whichever worker has sent it. They count the statuses of the worker started last
as long as no status of an earlier worker is applied after the start.
-/

namespace Republisher

variable {Disk : Type}

/-! ## Totals -/

/-- The counters of a republisher. -/
structure Totals where
  published : ℕ
  acked : ℕ
  lastError : Option String
  deriving DecidableEq

/-- The counters that a start leaves. -/
def Totals.zero : Totals := ⟨0, 0, none⟩

/-- The counters after one more status. -/
def Totals.add (totals : Totals) (stats : PublishStats) : Totals :=
  ⟨totals.published + stats.published, max totals.acked stats.acked, stats.lastError⟩

/-- What several statuses come to, oldest first: the sum of what they published, the maximum
of what they acknowledged and the error of the last. -/
def Totals.of (reports : List PublishStats) : Totals :=
  ⟨(reports.map PublishStats.published).sum, (reports.map PublishStats.acked).foldl max 0,
    reports.getLast?.bind PublishStats.lastError⟩

/-- No statuses come to nothing. -/
@[simp] theorem Totals.of_nil : of [] = zero := rfl

/-- One more status is added. -/
theorem Totals.of_concat (reports : List PublishStats) (stats : PublishStats) :
    of (reports ++ [stats]) = (of reports).add stats := by
  have hsum : ((reports ++ [stats]).map PublishStats.published).sum =
      (reports.map PublishStats.published).sum + stats.published := by
    rw [List.map_append, List.sum_append]
    simp
  have hmax : ((reports ++ [stats]).map PublishStats.acked).foldl max 0 =
      max ((reports.map PublishStats.acked).foldl max 0) stats.acked := by
    rw [List.map_append, List.foldl_append]
    rfl
  have hlast : (reports ++ [stats]).getLast?.bind PublishStats.lastError = stats.lastError := by
    rw [List.getLast?_concat]
    rfl
  rw [of, hsum, hmax, hlast]
  rfl

/-- A status that changes none of the counters. -/
def PublishStats.Neutral (stats : PublishStats) (totals : Totals) : Prop :=
  stats.published = 0 ∧ stats.acked ≤ totals.acked ∧ stats.lastError = totals.lastError

/-- Only a neutral status leaves the counters as they are. -/
theorem Totals.add_eq_self_iff {totals : Totals} {stats : PublishStats} :
    totals.add stats = totals ↔ stats.Neutral totals := by
  obtain ⟨published, acked, lastError⟩ := totals
  have hsum : published + stats.published = published ↔ stats.published = 0 := by omega
  have hmax : max acked stats.acked = acked ↔ stats.acked ≤ acked := by omega
  simp only [add, PublishStats.Neutral, mk.injEq, hsum, hmax]

/-- The counters of the shared state. -/
def Shared.totals (shared : Shared) : Totals :=
  ⟨shared.publishedTotal, shared.ackedTotal, shared.lastError⟩

/-- The status that an event reports. -/
def WorkerEvent.publishStats : WorkerEvent → Option PublishStats
  | .publishStatus stats => some stats
  | _ => none

/-- The counters after a critical section other than a start. -/
def Action.count (a : Action) (totals : Totals) : Totals :=
  match a with
  | .event e => (e.publishStats.map totals.add).getD totals
  | _ => totals

/-- An accepted start resets the counters; any other critical section counts the status it
reports, if any. -/
theorem Tells.totals {w : WebState Disk} {s : Server Disk} {a : Action} {shared : Shared}
    {ds : List Delta} (h : Tells w s a shared ds) :
    (a = .request .startRepublisher ∧ w.StartAccepted s ∧ shared.totals = .zero) ∨
      (a = .request .startRepublisher → ¬ w.StartAccepted s) ∧
        shared.totals = a.count s.shared.totals := by
  cases h with
  | start stop haccepted => exact .inl ⟨rfl, haccepted, rfl⟩
  | asked hstart => exact .inr ⟨fun h => hstart (Action.request.inj h), rfl⟩
  | saved hedit | rejected hedit =>
    have hstart := Request.edit_ne_start hedit
    obtain ⟨config, statuses, rfl⟩ := Request.edit_rest hedit
    exact .inr ⟨fun h => absurd (Action.request.inj h) hstart, rfl⟩
  | bulkTagImport hedited =>
    subst hedited
    exact .inr ⟨by simp, rfl⟩
  | @samples samples batch hbatch =>
    obtain ⟨statuses, recentSamples, h⟩ := samplesBatch_shared w.core s.shared samples
    refine .inr ⟨by simp, ?_⟩
    rw [hbatch, h]
    rfl
  | @failures failures batch hbatch =>
    obtain ⟨statuses, h⟩ := failuresBatch_shared w.core s.shared failures
    refine .inr ⟨by simp, ?_⟩
    rw [hbatch, h]
    rfl
  | publishStatus hpublished hacked =>
    subst hpublished hacked
    exact .inr ⟨by simp, rfl⟩
  | @noted e hnote =>
    refine .inr ⟨by simp, ?_⟩
    cases e with
    | publishStatus => cases hnote
    | _ => rfl
  | _ => exact .inr ⟨by simp, rfl⟩

/-! ## The worker started last -/

/-- The position of the republisher worker that was started last. -/
def lastWorker (spawns : List Spawn) : Option ℕ :=
  (spawns.zipIdx.filter fun entry => entry.1.stopFlag.isSome).getLast?.map Prod.snd

/-- A thread started later is the last worker when it is one. -/
theorem lastWorker_concat (spawns : List Spawn) (spawn : Spawn) :
    lastWorker (spawns ++ [spawn]) =
      if spawn.stopFlag.isSome then some spawns.length else lastWorker spawns := by
  rw [lastWorker, List.zipIdx_append, List.filter_append, List.zipIdx_singleton, Nat.zero_add,
    List.filter_singleton]
  cases hworker : spawn.stopFlag.isSome with
  | true => simp
  | false => simp [lastWorker]

/-- The position of the worker that the latest accepted start has started. -/
def System.latestWorker (σ : System Disk) : Option ℕ :=
  lastWorker (σ.server.threads.map Thread.spawn)

/-- A step without an accepted start starts no worker. -/
theorem WebState.latestWorker_step {w : WebState Disk} {σ τ : System Disk} {l : Label}
    (hstep : w.step σ l = some τ) (hstart : ¬ w.AcceptsStart σ l) :
    τ.latestWorker = σ.latestWorker := by
  have hsame (h : τ.server.threads.map Thread.spawn = σ.server.threads.map Thread.spawn) :
      τ.latestWorker = σ.latestWorker := by
    rw [System.latestWorker, h, System.latestWorker]
  cases WebState.step_effect hstep with
  | request _ heffect =>
    cases heffect.workers with
    | none hthreads =>
      rcases hthreads with hthreads | ⟨spawn, hspawn, hthreads⟩
      · exact hsame (by rw [hthreads])
      · rw [System.latestWorker, hthreads, List.map_append, List.map_singleton, lastWorker_concat,
          Thread.new_spawn, hspawn]
        rfl
    | start haccepted => exact absurd ⟨rfl, haccepted⟩ hstart
    | stop hthreads => exact hsame (by rw [hthreads])
  | @sent _ k t e phase _ ht _ =>
    obtain ⟨hlt, rfl⟩ := List.getElem?_eq_some_iff.mp ht
    refine hsame ?_
    show (σ.server.threads.set k (Thread.send _ e phase)).map Thread.spawn = _
    rw [List.map_set, Thread.send_spawn, ← List.getElem_map Thread.spawn]
    · exact List.set_getElem_self _
    · rwa [List.length_map]
  | drained _ heffect _ => exact hsame (by rw [heffect.keepsWorkers.threads])
  | shutdown hsilent _ _ => exact hsame (by rw [hsilent.threads, Server.raiseStop_threads])
  | idle _ _ hthreads _ _ _ => exact hsame (by rw [hthreads])

/-- An accepted start starts the latest worker, at a new position. -/
theorem WebState.latestWorker_start {w : WebState Disk} {σ τ : System Disk} {l : Label}
    (hstep : w.step σ l = some τ) (hstart : w.AcceptsStart σ l) :
    τ.latestWorker = some σ.server.threads.length := by
  obtain ⟨rfl, haccepted⟩ := hstart
  obtain ⟨spawn, hspawn, hthreads, -⟩ := w.handle_start haccepted
  rw [System.latestWorker, WebState.step_request hstep, hthreads, List.map_append,
    List.map_singleton, lastWorker_concat, Thread.new_spawn, hspawn, List.length_map]
  rfl

/-! ## Counting along a run -/

/-- The event that a step applies, with the position of the thread that sent it. -/
def System.drained (σ : System Disk) : Label → List (ℕ × WorkerEvent)
  | .drain => σ.channel.take 1
  | _ => []

/-- The system and the events applied so far, oldest first. -/
structure Tally (Disk : Type) where
  system : System Disk
  applied : List (ℕ × WorkerEvent)

namespace Tally

/-- The statuses applied so far that the worker started last has sent. -/
def reports (t : Tally Disk) : List PublishStats :=
  t.applied.filterMap fun entry =>
    if t.system.latestWorker = some entry.1 then entry.2.publishStats else none

/-- The counters are the sum of what the worker started last has published, the maximum of what
it has seen acknowledged and its last error. -/
def Exact (t : Tally Disk) : Prop :=
  t.system.server.shared.publishedTotal = (t.reports.map PublishStats.published).sum ∧
    t.system.server.shared.ackedTotal = (t.reports.map PublishStats.acked).foldl max 0 ∧
    t.system.server.shared.lastError = t.reports.getLast?.bind PublishStats.lastError

/-- A status that is applied comes from the worker started last, or it is neutral. -/
def CountsLatest (t : Tally Disk) (l : Label) (_ : Tally Disk) : Prop :=
  ∀ k stats, (k, .publishStatus stats) ∈ t.system.drained l →
    t.system.latestWorker = some k ∨ stats.Neutral t.system.server.shared.totals

/-- The counters are exact when they are what the statuses come to. -/
theorem exact_iff {t : Tally Disk} :
    t.Exact ↔ t.system.server.shared.totals = .of t.reports := by
  simp only [Exact, Shared.totals, Totals.of, Totals.mk.injEq]

end Tally

/-- One step of the system, recording what it applies. -/
def WebState.tally (w : WebState Disk) (t : Tally Disk) (l : Label) : Option (Tally Disk) :=
  (w.step t.system l).map fun σ => ⟨σ, t.applied ++ t.system.drained l⟩

/-- States that agree up to the log have the same counters. -/
theorem Shared.SameUpToLog.totals {a b : Shared} (h : a.SameUpToLog b) : a.totals = b.totals := by
  rw [Shared.totals, h.publishedTotal, h.ackedTotal, h.lastError, Shared.totals]

/-- Only a start request is an accepted start. -/
theorem WebState.not_acceptsStart {w : WebState Disk} {σ : System Disk} {l : Label}
    (h : l ≠ .request .startRepublisher) : ¬ w.AcceptsStart σ l :=
  fun haccepts => h haccepts.1

/-- An accepted start resets the counters, and any other step adds the status it applies. -/
theorem WebState.totals_step {w : WebState Disk} {σ τ : System Disk} {l : Label}
    (hstep : w.step σ l = some τ) :
    (w.AcceptsStart σ l ∧ σ.drained l = [] ∧ τ.server.shared.totals = .zero) ∨
      ¬ w.AcceptsStart σ l ∧ τ.server.shared.totals =
        ((σ.drained l).filterMap fun entry => entry.2.publishStats).foldl Totals.add
          σ.server.shared.totals := by
  rcases WebState.step_action hstep with ⟨a, ha, hserver, -⟩ | ⟨hnone, hshared, -⟩
  · obtain ⟨shared, ds, htells, hsaid⟩ := w.act_told a σ.server
    have htotals : τ.server.shared.totals = shared.totals := by
      rw [hserver]
      exact hsaid.shared.totals.symm
    rw [htotals]
    cases l with
    | request r =>
      obtain rfl := Option.some.inj ha
      rcases htells.totals with ⟨hstart, haccepted, hzero⟩ | ⟨hstart, hcount⟩
      · obtain rfl := Action.request.inj hstart
        exact .inl ⟨⟨rfl, haccepted⟩, rfl, hzero⟩
      · refine .inr ⟨fun haccepts => ?_, hcount⟩
        exact hstart (congrArg Action.request (Label.request.inj haccepts.1)) haccepts.2
    | drain =>
      obtain ⟨⟨k, e⟩, hhead, rfl⟩ := Option.map_eq_some_iff.mp ha
      obtain ⟨rest, hchannel⟩ := List.head?_eq_some_iff.mp hhead
      refine .inr ⟨WebState.not_acceptsStart (by simp), ?_⟩
      rcases htells.totals with ⟨hstart, -⟩ | ⟨-, hcount⟩
      · cases hstart
      · rw [hcount, System.drained, hchannel]
        cases e <;> rfl
    | shutdown =>
      obtain rfl := Option.some.inj ha
      refine .inr ⟨WebState.not_acceptsStart (by simp), ?_⟩
      rcases htells.totals with ⟨hstart, -⟩ | ⟨-, hcount⟩
      · cases hstart
      · exact hcount
    | _ => cases ha
  · rw [hshared]
    cases l with
    | request r => cases hnone
    | shutdown => cases hnone
    | drain =>
      have hempty : σ.channel = [] := List.head?_eq_none_iff.mp (Option.map_eq_none_iff.mp hnone)
      refine .inr ⟨WebState.not_acceptsStart (by simp), ?_⟩
      rw [System.drained, hempty]
      rfl
    | _ => exact .inr ⟨WebState.not_acceptsStart (by simp), rfl⟩

/-! ## The invariant -/

/-- The counters are exact and every applied event names a thread. -/
structure Tally.Settled (w : WebState Disk) (t : Tally Disk) : Prop where
  exact : t.Exact
  traced : w.Traced t.system
  named : ∀ entry ∈ t.applied, entry.1 < t.system.server.threads.length

/-- What a step applies names a thread. -/
theorem WebState.Traced.drained_lt {w : WebState Disk} {σ : System Disk} (h : w.Traced σ)
    {l : Label} {entry : ℕ × WorkerEvent} (hentry : entry ∈ σ.drained l) :
    entry.1 < σ.server.threads.length := by
  have hqueued : entry ∈ σ.channel := by
    cases l with
    | drain => exact List.mem_of_mem_take hentry
    | _ => cases hentry
  obtain ⟨t, ht, -⟩ := h.queued entry.1 entry.2 hqueued
  exact (List.getElem?_eq_some_iff.mp ht).1

/-- The number of threads never shrinks. -/
theorem System.ThreadsGrow.length_le {σ τ : System Disk} (h : σ.ThreadsGrow τ) :
    σ.server.threads.length ≤ τ.server.threads.length := by
  by_contra hlt
  have hget : σ.thread τ.server.threads.length = some σ.server.threads[τ.server.threads.length] :=
    List.getElem?_eq_getElem (by omega)
  obtain ⟨u, hu, -⟩ := h _ _ hget
  have hnone : τ.thread τ.server.threads.length = none := List.getElem?_eq_none (Nat.le_refl _)
  rw [hnone] at hu
  cases hu

/-- After an accepted start nothing of the latest worker has been applied. -/
theorem Tally.reports_start {w : WebState Disk} {t u : Tally Disk} {l : Label}
    (h : t.Settled w) (hstep : w.step t.system l = some u.system)
    (happlied : u.applied = t.applied) (hstart : w.AcceptsStart t.system l) : u.reports = [] := by
  rw [reports, happlied, List.filterMap_eq_nil_iff, WebState.latestWorker_start hstep hstart]
  intro entry hentry
  have hlt := h.named entry hentry
  rw [if_neg]
  intro hsame
  have heq := Option.some.inj hsame
  omega

/-- Otherwise the statuses of the latest worker among those applied are added. -/
theorem Tally.reports_step {w : WebState Disk} {t u : Tally Disk} {l : Label}
    (hstep : w.step t.system l = some u.system)
    (happlied : u.applied = t.applied ++ t.system.drained l)
    (hstart : ¬ w.AcceptsStart t.system l) :
    u.reports = t.reports ++ (t.system.drained l).filterMap fun entry =>
      if t.system.latestWorker = some entry.1 then entry.2.publishStats else none := by
  rw [reports, happlied, List.filterMap_append, WebState.latestWorker_step hstep hstart]
  rfl

/-- A step applies at most one event. -/
theorem System.drained_cases (σ : System Disk) (l : Label) :
    σ.drained l = [] ∨ ∃ entry, σ.drained l = [entry] := by
  cases l with
  | drain =>
    cases hchannel : σ.channel with
    | nil => exact .inl (by rw [drained, hchannel, List.take_nil])
    | cons entry rest => exact .inr ⟨entry, by rw [drained, hchannel, List.take_succ_cons]; rfl⟩
  | _ => exact .inl rfl

/-- The parts of a recorded step. -/
theorem WebState.tally_eq_some {w : WebState Disk} {t u : Tally Disk} {l : Label} :
    w.tally t l = some u ↔
      w.step t.system l = some u.system ∧ u.applied = t.applied ++ t.system.drained l := by
  rw [tally, Option.map_eq_some_iff]
  constructor
  · rintro ⟨σ, hσ, rfl⟩
    exact ⟨hσ, rfl⟩
  · rintro ⟨hstep, happlied⟩
    exact ⟨u.system, hstep, by rw [← happlied]⟩

/-- Exact counters stay exact in a step that applies no status, or one of the latest worker, or a
neutral one, and only in such a step. -/
theorem Tally.exact_step {w : WebState Disk} {t u : Tally Disk} {l : Label} (h : t.Settled w)
    (hstep : w.tally t l = some u) : u.Exact ↔ t.CountsLatest l u := by
  obtain ⟨hsystem, happlied⟩ := WebState.tally_eq_some.mp hstep
  have hbefore := exact_iff.mp h.exact
  rcases WebState.totals_step hsystem with ⟨hstart, hnone, hzero⟩ | ⟨hstart, htotals⟩
  · have hempty : u.reports = [] :=
      t.reports_start h hsystem (by rw [happlied, hnone, List.append_nil]) hstart
    refine iff_of_true (exact_iff.mpr ?_) fun k stats hmem => ?_
    · rw [hzero, hempty, Totals.of_nil]
    · rw [hnone] at hmem
      cases hmem
  · rw [exact_iff, htotals, reports_step hsystem happlied hstart, hbefore]
    rcases t.system.drained_cases l with hnone | ⟨⟨k, e⟩, hone⟩
    · simp [hnone, CountsLatest]
    · simp only [hone, CountsLatest, List.filterMap_cons, List.filterMap_nil, List.mem_singleton,
        Prod.mk.injEq]
      cases hstats : e.publishStats with
      | none =>
        refine iff_of_true (by simp) ?_
        rintro j stats ⟨-, rfl⟩
        cases hstats
      | some stats =>
        obtain rfl : e = .publishStatus stats := by
          cases e <;> simp_all [WorkerEvent.publishStats]
        by_cases hlatest : t.system.latestWorker = some k
        · simp [hlatest, Totals.of_concat]
        · have hneutral : Totals.add (.of t.reports) stats = .of t.reports ↔
              stats.Neutral (.of t.reports) := Totals.add_eq_self_iff
          simp [hlatest, hneutral, hbefore]

/-- The counters are exact along with the bookkeeping. -/
theorem Tally.Settled.step {w : WebState Disk} {t u : Tally Disk} {l : Label} (h : t.Settled w)
    (hstep : w.tally t l = some u) (hlatest : t.CountsLatest l u) : u.Settled w := by
  obtain ⟨hsystem, happlied⟩ := WebState.tally_eq_some.mp hstep
  refine ⟨(exact_step h hstep).mpr hlatest, WebState.traced_step h.traced hsystem, ?_⟩
  intro entry hentry
  have hgrow := (WebState.threadsGrow_step hsystem).length_le
  have hnamed : entry.1 < t.system.server.threads.length := by
    rw [happlied] at hentry
    rcases List.mem_append.mp hentry with hentry | hentry
    · exact h.named entry hentry
    · exact h.traced.drained_lt hentry
  omega

/-- Nothing has been applied yet and the counters are zero, also after the autostart. -/
theorem WebState.serve_settled (w : WebState Disk) (config : AppConfig) (bootStatus : String)
    (disk : Disk) : Tally.Settled w ⟨w.serve config bootStatus disk, []⟩ := by
  refine ⟨Tally.exact_iff.mpr ?_, w.serve_traced config bootStatus disk, by simp⟩
  refine w.serve_induction (P := fun σ => σ.server.shared.totals = .zero) config bootStatus disk rfl
    fun σ hstep => ?_
  rcases WebState.totals_step hstep with ⟨-, -, hzero⟩ | ⟨-, htotals⟩
  · exact hzero
  · exact htotals

/-- In every run from boot on, the counters are in every state the sum, the maximum and the last
error of the statuses applied so far that the worker started last has sent, exactly when every
status that is applied comes from the worker that was started last by then, or is neutral. -/
theorem WebState.tally_exact_iff (w : WebState Disk) (config : AppConfig) (bootStatus : String)
    (disk : Disk) (ls : List Label) :
    Transition.Throughout w.tally Tally.Exact ⟨w.serve config bootStatus disk, []⟩ ls ↔
      Transition.Along w.tally Tally.CountsLatest ⟨w.serve config bootStatus disk, []⟩ ls :=
  Transition.throughout_iff_along (fun _ _ _ h hstep hlatest => h.step hstep hlatest)
    (fun _ h => h.exact) (fun _ _ _ h hstep hexact => (Tally.exact_step h hstep).mp hexact)
    (w.serve_settled config bootStatus disk)

/-- Two clients start the republisher one after the other; the first of the two workers reports
five published samples, and they are counted for the second, which has reported nothing. -/
theorem earlier_worker_counted :
    ∃ t, Transition.run memoryState.tally
        ⟨memoryState.serve (plainConfig [plainPoint "a"]) "Loaded saved configuration"
          ⟨none, true⟩, []⟩
        [.request .startRepublisher, .emit, .request .startRepublisher, .emit,
          .send 0 (.lifecycle .starting), .send 0 (.lifecycle .running),
          .send 0 (.publishStatus ⟨5, 5, none⟩), .drain, .emit, .drain, .emit, .drain] = some t ∧
      t.system.latestWorker = some 1 ∧ t.reports = [] ∧
      t.system.server.shared.totals = ⟨5, 5, none⟩ ∧ ¬ t.Exact := by
  refine ⟨_, rfl, by decide, by decide, by decide, ?_⟩
  rw [Tally.exact_iff]
  decide

end Republisher
