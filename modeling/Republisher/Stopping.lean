import Republisher.Lifecycle

/-!
# Stopping every worker

The daemon keeps the flag of the last started worker only. As long as no start
forgets the flag of a worker that is still to be stopped, a stop and the
shutdown reach every live worker; this file shows that nothing else is needed.
-/

namespace Republisher

variable {Disk : Type}

/-- The flag with the given position is set. -/
def Raised (flags : List Bool) (flag : ℕ) : Prop := flags.getD flag false = true

/-- Thread `k` is a live worker with this flag. -/
def System.HasLive (σ : System Disk) (k flag : ℕ) : Prop :=
  ∃ t, σ.thread k = some t ∧ t.Live ∧ t.spawn.stopFlag = some flag

/-- The stop flag of every live worker is set or at hand, and set during a shutdown. -/
structure System.StopsReach (σ : System Disk) : Prop where
  atHand : ∀ k flag, σ.HasLive k flag →
    Raised σ.server.stopFlags flag ∨ σ.server.shared.stopFlag = some flag
  shutdown : σ.shuttingDown = true → ∀ k flag, σ.HasLive k flag →
    Raised σ.server.stopFlags flag

/-- The live workers among the first `count` threads have their flags set. -/
def System.StoppedUpTo (count : ℕ) (σ : System Disk) : Prop :=
  ∀ k flag, k < count → σ.HasLive k flag → Raised σ.server.stopFlags flag

/-- After each stop request, which is answered `ok`, and after the shutdown task has run,
every worker spawned before has its flag set for as long as it is live. -/
def WebState.StopsAll (w : WebState Disk) (σ : System Disk) (ls : List Label) : Prop :=
  ∀ before l after ρ τ, ls = before ++ l :: after → Transition.run w.step σ before = some ρ →
    (l = .request .stopRepublisher ∨ l = .shutdown) → w.step ρ l = some τ →
    Transition.Throughout w.step (System.StoppedUpTo τ.server.threads.length) τ after

/-- An accepted start comes before the shutdown and finds the flag of every live worker
set. -/
def WebState.StartForgetsNone (w : WebState Disk) (σ : System Disk) (l : Label)
    (_ : System Disk) : Prop :=
  w.AcceptsStart σ l → σ.shuttingDown = false ∧
    ∀ k flag, σ.HasLive k flag → Raised σ.server.stopFlags flag

/-! ## Flags -/

/-- A flag that is set has been created. -/
theorem Raised.lt_length {flags : List Bool} {flag : ℕ} (h : Raised flags flag) :
    flag < flags.length := by
  by_contra hout
  have hnone : flags[flag]? = none := List.getElem?_eq_none (by omega)
  rw [Raised, List.getD_eq_getElem?_getD, hnone] at h
  cases h

/-- A new flag is not set and leaves the others as they are. -/
theorem raised_append_new {flags : List Bool} {flag : ℕ} :
    Raised (flags ++ [false]) flag ↔ Raised flags flag := by
  unfold Raised
  rw [List.getD_eq_getElem?_getD, List.getD_eq_getElem?_getD, List.getElem?_append]
  by_cases hlt : flag < flags.length
  · rw [if_pos hlt]
  · have hnone : flags[flag]? = none := List.getElem?_eq_none (by omega)
    rw [if_neg hlt, hnone, List.getElem?_singleton]
    split <;> simp

/-- Setting the flag at hand sets that flag and unsets none. -/
theorem Raised.raiseStop {s : Server Disk} {flag : ℕ}
    (h : Raised s.stopFlags flag ∨ (s.shared.stopFlag = some flag ∧ flag < s.stopFlags.length)) :
    Raised s.raiseStop.stopFlags flag := by
  unfold Server.raiseStop
  cases hstop : s.shared.stopFlag with
  | none =>
    rcases h with h | ⟨hflag, -⟩
    · exact h
    · rw [hstop] at hflag
      cases hflag
  | some stop =>
    have hlt : flag < s.stopFlags.length := h.elim Raised.lt_length And.right
    show Raised (s.stopFlags.set stop true) flag
    rw [Raised, List.getD_eq_getElem?_getD]
    by_cases heq : stop = flag
    · subst heq
      rw [List.getElem?_set_self hlt]
      rfl
    · rw [List.getElem?_set_ne heq]
      rcases h with h | ⟨hflag, -⟩
      · rw [Raised, List.getD_eq_getElem?_getD] at h
        exact h
      · rw [hstop] at hflag
        exact absurd (Option.some.inj hflag) heq

/-! ## The steps -/

/-- A step that spawns no worker: no worker comes to life, no flag is unset, and a stop or
the shutdown sets the flag at hand. -/
structure KeepsFlags (σ : System Disk) (l : Label) (τ : System Disk) : Prop where
  live : ∀ k flag, τ.HasLive k flag → σ.HasLive k flag
  threads : σ.server.threads.length ≤ τ.server.threads.length
  flags : σ.server.stopFlags.length ≤ τ.server.stopFlags.length
  raised : ∀ flag, Raised σ.server.stopFlags flag → Raised τ.server.stopFlags flag
  atHand : τ.server.shared.stopFlag = σ.server.shared.stopFlag
  shutdown : τ.shuttingDown = true → σ.shuttingDown = true ∨ l = .shutdown
  stops : l = .request .stopRepublisher ∨ l = .shutdown → ∀ flag,
    σ.server.shared.stopFlag = some flag → flag < σ.server.stopFlags.length →
      Raised τ.server.stopFlags flag

/-- A step that spawns a worker with a new flag, which is then the one at hand. -/
structure SpawnsWorker (σ τ : System Disk) : Prop where
  thread : ∃ spawn, spawn.stopFlag = some σ.server.stopFlags.length ∧
    τ.server.threads = σ.server.threads ++ [Thread.new spawn]
  flags : τ.server.stopFlags = σ.server.stopFlags ++ [false]
  atHand : τ.server.shared.stopFlag = some σ.server.stopFlags.length
  shutdown : τ.shuttingDown = σ.shuttingDown

/-- Setting a flag creates none. -/
theorem raiseStop_length (s : Server Disk) :
    s.raiseStop.stopFlags.length = s.stopFlags.length := by
  unfold Server.raiseStop
  split
  · rfl
  · exact List.length_set ..

/-- The live workers are the same when the threads are, or when a thread of another kind
is added. -/
theorem System.HasLive.of_threads {σ τ : System Disk} {k flag : ℕ} (h : τ.HasLive k flag)
    (hthreads : τ.server.threads = σ.server.threads ∨ ∃ spawn, spawn.stopFlag = none ∧
      τ.server.threads = σ.server.threads ++ [Thread.new spawn]) : σ.HasLive k flag := by
  obtain ⟨t, ht, hlive⟩ := h
  rcases hthreads with hthreads | ⟨spawn, hspawn, hthreads⟩
  · rw [System.thread, hthreads] at ht
    exact ⟨t, ht, hlive⟩
  · rw [System.thread, hthreads] at ht
    rcases getElem?_append_new.mp ht with ht | ⟨-, rfl⟩
    · exact ⟨t, ht, hlive⟩
    · exact absurd hlive.1 (Thread.not_live_of_stopFlag_none hspawn)

/-- A step keeps the flags when it starts no worker and sets no flag but the one at hand, which
a stop and the shutdown do set. -/
theorem KeepsFlags.of_threads {σ τ : System Disk} {l : Label}
    (hthreads : τ.server.threads = σ.server.threads ∨ ∃ spawn, spawn.stopFlag = none ∧
      τ.server.threads = σ.server.threads ++ [Thread.new spawn])
    (hflags : τ.server.stopFlags = σ.server.stopFlags ∨
      τ.server.stopFlags = σ.server.raiseStop.stopFlags)
    (hhand : τ.server.shared.stopFlag = σ.server.shared.stopFlag)
    (hshutdown : τ.shuttingDown = true → σ.shuttingDown = true ∨ l = .shutdown)
    (hstops : l = .request .stopRepublisher ∨ l = .shutdown →
      τ.server.stopFlags = σ.server.raiseStop.stopFlags) : KeepsFlags σ l τ where
  live _ _ h := h.of_threads hthreads
  threads := by
    rcases hthreads with hthreads | ⟨spawn, -, hthreads⟩
    · rw [hthreads]
    · rw [hthreads, List.length_append]
      omega
  flags := by
    rcases hflags with hflags | hflags
    · rw [hflags]
    · rw [hflags, raiseStop_length]
  raised flag h := by
    rcases hflags with hflags | hflags
    · rw [hflags]
      exact h
    · rw [hflags]
      exact Raised.raiseStop (.inl h)
  atHand := hhand
  shutdown := hshutdown
  stops hl flag hflag hlt := by
    rw [hstops hl]
    exact Raised.raiseStop (.inr ⟨hflag, hlt⟩)

/-- Every step spawns no worker, or is an accepted start that spawns one. -/
theorem WebState.step_flags {w : WebState Disk} {σ τ : System Disk} {l : Label}
    (hstep : w.step σ l = some τ) :
    KeepsFlags σ l τ ∨ (w.AcceptsStart σ l ∧ SpawnsWorker σ τ) := by
  cases WebState.step_effect hstep with
  | request hserver heffect _ hshutting =>
    have hshutdown (h : τ.shuttingDown = true) : σ.shuttingDown = true := by
      rw [← hshutting]
      exact h
    cases heffect.workers with
    | none hthreads hflags hhand =>
      refine .inl (.of_threads hthreads (.inl hflags) hhand (fun h => .inl (hshutdown h)) ?_)
      rintro (hl | hl)
      · cases hl
        rw [hserver]
        exact (w.handle_stop σ.server).2
      · cases hl
    | start haccepted hspawn hthreads hflags hhand =>
      exact .inr ⟨⟨rfl, haccepted⟩, ⟨_, hspawn, hthreads⟩, hflags, hhand, hshutting⟩
    | stop hthreads hflags hhand =>
      exact .inl (.of_threads (.inl hthreads) (.inr hflags) hhand
        (fun h => .inl (hshutdown h)) fun _ => hflags)
  | @sent _ k t e phase hl ht hsends =>
    left
    refine ⟨fun j flag h => ?_, ?_, Nat.le_refl _, fun flag h => h, rfl, .inl, ?_⟩
    · obtain ⟨u, hu, hlive, hflag⟩ := h
      rcases (getElem?_set_old ht).mp hu with ⟨rfl, rfl⟩ | ⟨-, hu⟩
      · exact ⟨t, ht, hsends.live hlive, hflag⟩
      · exact ⟨u, hu, hlive, hflag⟩
    · exact Nat.le_of_eq (List.length_set ..).symm
    · rcases hl with rfl | ⟨findings, rfl⟩ <;> rintro (hl | hl) <;> cases hl
  | drained _ heffect hshutting =>
    have hkeeps := heffect.keepsWorkers
    refine .inl (.of_threads (.inl hkeeps.threads) (.inl hkeeps.stopFlags) hkeeps.stopFlag
      (fun h => .inl (hshutting ▸ h)) ?_)
    rintro (hl | hl) <;> cases hl
  | shutdown hsilent _ _ =>
    have hthreads := hsilent.threads.trans (Server.raiseStop_threads σ.server)
    have hhand : τ.server.shared.stopFlag = σ.server.shared.stopFlag := by
      rw [← hsilent.shared.stopFlag, Server.raiseStop_shared]
    exact .inl (.of_threads (.inl hthreads) (.inr hsilent.stopFlags) hhand (fun _ => .inr rfl)
      fun _ => hsilent.stopFlags)
  | idle hmoves hshared hthreads hflags _ hshutting =>
    have hhand : τ.server.shared.stopFlag = σ.server.shared.stopFlag := by rw [hshared]
    refine .inl (.of_threads (.inl hthreads) (.inl hflags) hhand
      (fun h => .inl (hshutting ▸ h)) ?_)
    rintro (rfl | rfl)
    · exact hmoves.elim
    · exact hmoves.elim

/-- An accepted start spawns a worker. -/
theorem WebState.AcceptsStart.spawnsWorker {w : WebState Disk} {σ τ : System Disk} {l : Label}
    (haccepts : w.AcceptsStart σ l) (hstep : w.step σ l = some τ) : SpawnsWorker σ τ := by
  obtain ⟨rfl, haccepted⟩ := haccepts
  obtain ⟨spawn, hspawn, hthreads, hflags, hhand⟩ := w.handle_start haccepted
  obtain ⟨-, hτ⟩ := Option.ite_none_right_eq_some.mp hstep
  obtain rfl := Option.some.inj hτ
  exact ⟨⟨spawn, hspawn, hthreads⟩, hflags, hhand, rfl⟩

/-! ## The invariant -/

/-- Every live worker can be stopped, and its flag exists. -/
structure System.Accounted (σ : System Disk) : Prop extends σ.StopsReach where
  flags : ∀ k flag, σ.HasLive k flag → flag < σ.server.stopFlags.length

/-- Steps that spawn no worker lose none. -/
theorem KeepsFlags.accounted {σ τ : System Disk} {l : Label} (hkeeps : KeepsFlags σ l τ)
    (h : σ.Accounted) : τ.Accounted := by
  refine ⟨⟨fun k flag hlive => ?_, fun hshutting k flag hlive => ?_⟩, fun k flag hlive => ?_⟩
  · rcases h.atHand k flag (hkeeps.live k flag hlive) with hraised | hhand
    · exact .inl (hkeeps.raised flag hraised)
    · exact .inr (hkeeps.atHand.trans hhand)
  · have hlive := hkeeps.live k flag hlive
    rcases hkeeps.shutdown hshutting with hbefore | hl
    · exact hkeeps.raised flag (h.shutdown hbefore k flag hlive)
    · rcases h.atHand k flag hlive with hraised | hhand
      · exact hkeeps.raised flag hraised
      · exact hkeeps.stops (.inr hl) flag hhand (h.flags k flag hlive)
  · exact Nat.lt_of_lt_of_le (h.flags k flag (hkeeps.live k flag hlive)) hkeeps.flags

/-- The live workers after a spawn are those before it and the new one. -/
theorem SpawnsWorker.hasLive_iff {σ τ : System Disk} (hspawns : SpawnsWorker σ τ) {k flag : ℕ} :
    τ.HasLive k flag ↔ σ.HasLive k flag ∨
      (k = σ.server.threads.length ∧ flag = σ.server.stopFlags.length) := by
  obtain ⟨spawn, hspawn, hthreads⟩ := hspawns.thread
  unfold System.HasLive System.thread
  rw [hthreads]
  constructor
  · rintro ⟨t, ht, hlive, hflag⟩
    rcases getElem?_append_new.mp ht with ht | ⟨hk, rfl⟩
    · exact .inl ⟨t, ht, hlive, hflag⟩
    · rw [Thread.new_spawn, hspawn] at hflag
      exact .inr ⟨hk, (Option.some.inj hflag).symm⟩
  · rintro (⟨t, ht, hlive⟩ | ⟨rfl, rfl⟩)
    · exact ⟨t, getElem?_append_new.mpr (.inl ht), hlive⟩
    · refine ⟨_, getElem?_append_new.mpr (.inr ⟨rfl, rfl⟩), ⟨?_, by simp⟩, hspawn⟩
      rw [Thread.new_spawn, hspawn]
      rfl

/-- A start that forgets no flag loses no worker. -/
theorem SpawnsWorker.accounted {σ τ : System Disk} (hspawns : SpawnsWorker σ τ)
    (h : σ.Accounted) (hshutting : σ.shuttingDown = false)
    (hraised : ∀ k flag, σ.HasLive k flag → Raised σ.server.stopFlags flag) :
    τ.Accounted := by
  refine ⟨⟨fun k flag hlive => ?_, fun hshut => ?_⟩, fun k flag hlive => ?_⟩
  · rcases hspawns.hasLive_iff.mp hlive with hlive | ⟨-, rfl⟩
    · left
      rw [hspawns.flags]
      exact raised_append_new.mpr (hraised k flag hlive)
    · exact .inr hspawns.atHand
  · rw [hspawns.shutdown, hshutting] at hshut
    cases hshut
  · rw [hspawns.flags, List.length_append]
    rcases hspawns.hasLive_iff.mp hlive with hlive | ⟨-, rfl⟩
    · exact Nat.lt_of_lt_of_le (h.flags k flag hlive) (Nat.le_add_right _ _)
    · exact Nat.lt_succ_self _

/-- Every step whose start forgets no flag keeps the workers accounted for. -/
theorem WebState.accounted_step {w : WebState Disk} {σ τ : System Disk} {l : Label}
    (h : σ.Accounted) (hstep : w.step σ l = some τ) (hstart : w.StartForgetsNone σ l τ) :
    τ.Accounted := by
  rcases WebState.step_flags hstep with hkeeps | ⟨haccepts, hspawns⟩
  · exact hkeeps.accounted h
  · obtain ⟨hshutting, hraised⟩ := hstart haccepts
    exact hspawns.accounted h hshutting hraised

/-- A start that forgets a flag leaves a worker that a stop does not reach, and a start
during the shutdown leaves one whose flag is not set. -/
theorem System.Accounted.startForgetsNone {w : WebState Disk} {σ τ : System Disk} {l : Label}
    (h : σ.Accounted) (hstep : w.step σ l = some τ) (hreach : τ.StopsReach) :
    w.StartForgetsNone σ l τ := by
  intro haccepts
  have hspawns := haccepts.spawnsWorker hstep
  have hnew : τ.HasLive σ.server.threads.length σ.server.stopFlags.length :=
    hspawns.hasLive_iff.mpr (.inr ⟨rfl, rfl⟩)
  constructor
  · by_contra hshutting
    have hshut : τ.shuttingDown = true := by
      rw [hspawns.shutdown]
      simpa using hshutting
    have hraised := hreach.shutdown hshut _ _ hnew
    rw [hspawns.flags] at hraised
    exact absurd (raised_append_new.mp hraised).lt_length (Nat.lt_irrefl _)
  · intro k flag hlive
    rcases hreach.atHand k flag (hspawns.hasLive_iff.mpr (.inl hlive)) with hraised | hhand
    · rw [hspawns.flags] at hraised
      exact raised_append_new.mp hraised
    · rw [hspawns.atHand] at hhand
      have hlt := h.flags k flag hlive
      have heq := Option.some.inj hhand
      omega

/-! ## Runs -/

/-- No worker is live at boot. -/
theorem WebState.boot_accounted (w : WebState Disk) (config : AppConfig) (bootStatus : String)
    (disk : Disk) : (w.boot config bootStatus disk).Accounted := by
  have hnone : ∀ k flag, ¬ (w.boot config bootStatus disk).HasLive k flag := by
    rintro k flag ⟨t, ht, -⟩
    cases ht
  exact ⟨⟨fun k flag h => absurd h (hnone k flag), fun _ k flag h => absurd h (hnone k flag)⟩,
    fun k flag h => absurd h (hnone k flag)⟩

/-- The autostart forgets no flag. -/
theorem WebState.serve_accounted (w : WebState Disk) (config : AppConfig) (bootStatus : String)
    (disk : Disk) : (w.serve config bootStatus disk).Accounted := by
  have hboot := w.boot_accounted config bootStatus disk
  refine w.serve_induction config bootStatus disk hboot fun σ hstep => ?_
  refine WebState.accounted_step hboot hstep fun _ => ⟨rfl, ?_⟩
  rintro k flag ⟨t, ht, -⟩
  cases ht

/-- Workers whose flags are set stay stopped: flags are never unset, and a thread that is
live now was live before. -/
theorem WebState.stoppedUpTo_step {w : WebState Disk} {count : ℕ} {σ τ : System Disk} {l : Label}
    (h : count ≤ σ.server.threads.length ∧ σ.StoppedUpTo count) (hstep : w.step σ l = some τ) :
    count ≤ τ.server.threads.length ∧ τ.StoppedUpTo count := by
  obtain ⟨hcount, hstopped⟩ := h
  rcases WebState.step_flags hstep with hkeeps | ⟨-, hspawns⟩
  · refine ⟨Nat.le_trans hcount hkeeps.threads, fun k flag hk hlive => ?_⟩
    exact hkeeps.raised flag (hstopped k flag hk (hkeeps.live k flag hlive))
  · obtain ⟨spawn, -, hthreads⟩ := hspawns.thread
    refine ⟨by rw [hthreads, List.length_append]; omega, fun k flag hk hlive => ?_⟩
    rcases hspawns.hasLive_iff.mp hlive with hlive | ⟨rfl, -⟩
    · rw [hspawns.flags]
      exact raised_append_new.mpr (hstopped k flag hk hlive)
    · omega

/-- When every worker is accounted for, a stop or the shutdown sets the flags of all of
them. -/
theorem System.Accounted.stopped {w : WebState Disk} {σ τ : System Disk} {l : Label}
    (h : σ.Accounted) (hl : l = .request .stopRepublisher ∨ l = .shutdown)
    (hstep : w.step σ l = some τ) : τ.StoppedUpTo τ.server.threads.length := by
  rcases WebState.step_flags hstep with hkeeps | ⟨⟨rfl, -⟩, -⟩
  · intro k flag _ hlive
    have hlive := hkeeps.live k flag hlive
    rcases h.atHand k flag hlive with hraised | hhand
    · exact hkeeps.raised flag hraised
    · exact hkeeps.stops hl flag hhand (h.flags k flag hlive)
  · rcases hl with hl | hl <;> cases hl

/-- In every run the stop flag of every live worker is set or at hand, all of them are set
once the shutdown has begun, and a stop or the shutdown reaches every worker spawned before
it, exactly when every accepted start comes before the shutdown and finds the flag of every
live worker set. -/
theorem WebState.stopsReach_iff (w : WebState Disk) (config : AppConfig) (bootStatus : String)
    (disk : Disk) (ls : List Label) :
    (Transition.Throughout w.step System.StopsReach (w.serve config bootStatus disk) ls ∧
        w.StopsAll (w.serve config bootStatus disk) ls) ↔
      Transition.Along w.step w.StartForgetsNone (w.serve config bootStatus disk) ls := by
  have hserve := w.serve_accounted config bootStatus disk
  have hkeep (σ : System Disk) (l : Label) (τ : System Disk) (h : σ.Accounted)
      (hstep : w.step σ l = some τ) (hstart : w.StartForgetsNone σ l τ) : τ.Accounted :=
    WebState.accounted_step h hstep hstart
  have hiff :
      Transition.Throughout w.step System.StopsReach (w.serve config bootStatus disk) ls ↔
        Transition.Along w.step w.StartForgetsNone (w.serve config bootStatus disk) ls :=
    Transition.throughout_iff_along hkeep (fun σ h => h.toStopsReach)
      (fun σ l τ h hstep hreach => h.startForgetsNone hstep hreach) hserve
  refine ⟨fun h => hiff.mp h.1, fun h => ⟨hiff.mpr h, ?_⟩⟩
  rintro before l after ρ τ rfl hrun hl hstep
  have hbefore := (h.of_append hrun).1
  have haccounted := (Transition.throughout_of_along hkeep hserve hbefore).last hrun
  have hstopped : τ.server.threads.length ≤ τ.server.threads.length ∧
      τ.StoppedUpTo τ.server.threads.length := ⟨Nat.le_refl _, haccounted.stopped hl hstep⟩
  exact (Transition.throughout_of_invariant
    (fun σ l υ hσ hυ => WebState.stoppedUpTo_step hσ hυ) hstopped).mono fun σ hσ => hσ.2

/-- A second start before the first worker has announced itself forgets the first worker:
the stop that follows is answered `ok` and does not reach it. A start during the
shutdown leaves a worker that nothing will stop. -/
theorem forgotten_worker_runs_on :
    (∃ τ, Transition.run memoryState.step
        (memoryState.serve (plainConfig [plainPoint "a"]) "Loaded saved configuration"
          ⟨none, true⟩)
        [.request .startRepublisher, .emit, .request .startRepublisher, .emit,
          .request .stopRepublisher] = some τ ∧
      ¬ τ.StopsReach ∧ ¬ τ.StoppedUpTo τ.server.threads.length) ∧
    ∃ τ, Transition.run memoryState.step
        (memoryState.serve (plainConfig [plainPoint "a"]) "Loaded saved configuration"
          ⟨none, true⟩)
        [.shutdown, .emit, .request .startRepublisher] = some τ ∧
      τ.shuttingDown = true ∧ ¬ τ.StopsReach := by
  refine ⟨⟨_, rfl, fun h => ?_, fun h => ?_⟩, ⟨_, rfl, rfl, fun h => ?_⟩⟩
  · have hfirst := h.atHand 0 0 ⟨_, rfl, by decide, rfl⟩
    revert hfirst
    unfold Raised
    decide
  · have hfirst := h 0 0 (by decide) ⟨_, rfl, by decide, rfl⟩
    revert hfirst
    unfold Raised
    decide
  · have hworker := h.shutdown rfl 0 0 ⟨_, rfl, by decide, rfl⟩
    revert hworker
    unfold Raised
    decide

/-- A run that keeps at most one worker live, and accepts no start during the shutdown,
forgets no flag: where none is live there is none to forget. -/
theorem WebState.startForgetsNone_of_settled (w : WebState Disk) (config : AppConfig)
    (bootStatus : String) (disk : Disk) {ls : List Label}
    (hsettled : Transition.Along w.step w.StartSettled (w.serve config bootStatus disk) ls)
    (hopen : Transition.Along w.step (fun σ l _ => w.AcceptsStart σ l → σ.shuttingDown = false)
      (w.serve config bootStatus disk) ls) :
    Transition.Along w.step w.StartForgetsNone (w.serve config bootStatus disk) ls := by
  have hsupervised := Transition.throughout_of_along
    (fun σ l τ h hstep hs => WebState.supervised_step h hstep hs)
    (w.serve_supervised config bootStatus disk) hsettled
  have halone := hsupervised.along_mono (fun σ l τ hσ _ hs => hσ.alone hs) hsettled
  refine Transition.Along.mono₂ (fun σ l τ halone hopen haccepts => ?_) halone hopen
  refine ⟨hopen haccepts, fun k flag hlive => ?_⟩
  obtain ⟨t, ht, hlive, -⟩ := hlive
  exact absurd hlive (halone haccepts k t ht)

end Republisher
