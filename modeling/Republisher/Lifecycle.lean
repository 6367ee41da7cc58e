import Republisher.System
import Republisher.Instance
import Republisher.Transition

/-!
# At most one live republisher

The guard of a start reads the life cycle that the drain thread wrote last. It
sees a worker only once the `Starting` event of that worker has been applied, so
at most one worker is live exactly when no start is accepted before that.
-/

namespace Republisher

variable {Disk : Type}

/-! ## What threads send -/

/-- A thread that was started for something else than republishing is no live worker. -/
theorem Thread.not_live_of_stopFlag_none {t : Thread} (h : t.spawn.stopFlag = none) :
    ¬ t.Live := by
  rintro ⟨hsome, -⟩
  rw [h] at hsome
  cases hsome

/-- A republisher that sends is not at its end, and sends a report or goes on in its
life cycle. -/
theorem WebState.Sends.republisher {w : WebState Disk} {flags : List Bool} {t : Thread}
    {e : WorkerEvent} {phase : Phase} (h : w.Sends flags t e phase)
    (hsome : t.spawn.stopFlag.isSome = true) :
    t.phase ≠ .terminated ∧ ((e.isReport = true ∧ phase = t.phase) ∨
      ∃ flag lifecycle, e = .lifecycle lifecycle ∧ t.phase.next flag lifecycle = some phase) := by
  rcases h with hnext | ⟨factory, connection, devices, existing, findings, hspawn, -⟩
  · cases hspawn : t.spawn with
    | republisher factory connection mqtt points discover stop =>
      cases e with
      | lifecycle lifecycle =>
        simp only [Thread.next, hspawn] at hnext
        refine ⟨fun hphase => ?_, .inr ⟨_, lifecycle, rfl, hnext⟩⟩
        rw [hphase] at hnext
        simp [Phase.next] at hnext
      | devices | points | bulkTagImport =>
        simp [Thread.next, hspawn, WorkerEvent.isReport] at hnext
      | _ =>
        simp only [Thread.next, hspawn, WorkerEvent.isReport, true_and,
          Option.ite_none_right_eq_some, Option.some.injEq] at hnext
        exact ⟨hnext.1, .inl ⟨rfl, hnext.2.symm⟩⟩
    | discovery | browse | scanAllObjects | pollOnce =>
      rw [hspawn] at hsome
      cases hsome
  · rw [hspawn] at hsome
    cases hsome

/-- A thread that is live after an event was live before it. -/
theorem WebState.Sends.live {w : WebState Disk} {flags : List Bool} {t : Thread}
    {e : WorkerEvent} {phase : Phase} (h : w.Sends flags t e phase)
    (hlive : (t.send e phase).Live) : t.Live :=
  ⟨hlive.1, (h.republisher hlive.1).1⟩

/-- A life-cycle event comes from a live republisher. -/
theorem WebState.Sends.live_of_lifecycle {w : WebState Disk} {flags : List Bool} {t : Thread}
    {lifecycle : RepublisherLifecycle} {phase : Phase}
    (h : w.Sends flags t (.lifecycle lifecycle) phase) : t.Live := by
  have hsome : t.spawn.stopFlag.isSome = true := by
    rcases h with hnext | ⟨_, _, _, _, _, -, -, hbulk, -⟩
    · exact (Thread.next_lifecycle_of_live hnext rfl).1.1
    · cases hbulk
  exact ⟨hsome, (h.republisher hsome).1⟩

/-! ## The property and the condition -/

/-- At most one republisher worker is live. -/
def System.AtMostOneLive (σ : System Disk) : Prop :=
  ∀ i j t u, σ.thread i = some t → σ.thread j = some u →
    t.Live → u.Live → i = j

/-- The step is a start that is accepted, so that a worker is spawned. -/
def WebState.AcceptsStart (w : WebState Disk) (σ : System Disk) (l : Label) : Prop :=
  l = .request .startRepublisher ∧ w.StartAccepted σ.server

/-- No worker is spawned while one spawned earlier is live. -/
def WebState.SpawnsAlone (w : WebState Disk) (σ : System Disk) (l : Label) (_ : System Disk) :
    Prop :=
  w.AcceptsStart σ l → ∀ k t, σ.thread k = some t → ¬ t.Live

/-- When a start is accepted, every live worker has sent its `Starting` event and that
event is no longer queued. -/
def WebState.StartSettled (w : WebState Disk) (σ : System Disk) (l : Label) (_ : System Disk) :
    Prop :=
  w.AcceptsStart σ l → ∀ k t, σ.thread k = some t → t.Live →
    t.phase ≠ .spawned ∧ (k, .lifecycle .starting) ∉ σ.channel

/-! ## The invariant -/

/-- No queued life-cycle event will make the life cycle inactive. -/
def AllActive (channel : List (ℕ × WorkerEvent)) : Prop :=
  ∀ k lifecycle, (k, .lifecycle lifecycle) ∈ channel → lifecycle.active = true

/-- The life cycle shows worker `k` as active and will go on to do so, or it will once
the `Starting` event of `k` is applied. What is queued before that event may
come from earlier workers. -/
def System.Announced (σ : System Disk) (k : ℕ) : Prop :=
  (σ.server.shared.lifecycle.active = true ∧ AllActive σ.channel) ∨
    ∃ before after, σ.channel = before ++ (k, .lifecycle .starting) :: after ∧ AllActive after

/-- At most one worker is live, and unless it has sent nothing yet it is announced. -/
structure System.Supervised (σ : System Disk) : Prop where
  single : σ.AtMostOneLive
  announced : ∀ k t, σ.thread k = some t → t.Live → t.phase ≠ .spawned →
    σ.Announced k

/-- Queueing an event that is not the end of a worker keeps the queue active. -/
theorem AllActive.append {channel : List (ℕ × WorkerEvent)} (h : AllActive channel) {k : ℕ}
    {e : WorkerEvent} (he : ∀ lifecycle, e = .lifecycle lifecycle → lifecycle.active = true) :
    AllActive (channel ++ [(k, e)]) := by
  intro j lifecycle hmem
  rcases List.mem_append.mp hmem with hmem | hmem
  · exact h j lifecycle hmem
  · have hlast := List.mem_singleton.mp hmem
    exact he lifecycle (Prod.mk.inj hlast).2.symm

/-- Queueing an event that is not the end of a worker keeps a worker announced. -/
theorem System.Announced.append {σ τ : System Disk} {k j : ℕ} {e : WorkerEvent}
    (h : σ.Announced k) (hshared : τ.server.shared = σ.server.shared)
    (hchannel : τ.channel = σ.channel ++ [(j, e)])
    (he : ∀ lifecycle, e = .lifecycle lifecycle → lifecycle.active = true) :
    τ.Announced k := by
  rcases h with ⟨hactive, hall⟩ | ⟨before, after, hsplit, hall⟩
  · left
    rw [hshared, hchannel]
    exact ⟨hactive, hall.append he⟩
  · right
    refine ⟨before, after ++ [(j, e)], ?_, hall.append he⟩
    rw [hchannel, hsplit, List.append_assoc, List.cons_append]

/-- Applying the oldest event keeps a worker announced. -/
theorem System.Announced.drain {σ τ : System Disk} {k j : ℕ} {e : WorkerEvent}
    {channel : List (ℕ × WorkerEvent)} (h : σ.Announced k)
    (hhead : σ.channel = (j, e) :: channel) (hchannel : τ.channel = channel)
    (hlifecycle : τ.server.shared.lifecycle =
      e.lifecycleAfter σ.server.shared.lifecycle) : τ.Announced k := by
  rcases h with ⟨hactive, hall⟩ | ⟨before, after, hsplit, hall⟩
  · left
    rw [hhead] at hall
    have hrest : AllActive channel := fun i lifecycle hmem =>
      hall i lifecycle (List.mem_cons_of_mem _ hmem)
    refine ⟨?_, by rw [hchannel]; exact hrest⟩
    rw [hlifecycle]
    cases e with
    | lifecycle next => exact hall j next List.mem_cons_self
    | _ => exact hactive
  · rw [hhead] at hsplit
    cases before with
    | nil =>
      obtain ⟨hfirst, rfl⟩ := List.cons.inj hsplit
      obtain ⟨-, rfl⟩ := Prod.mk.inj hfirst
      left
      rw [hlifecycle, hchannel]
      exact ⟨rfl, hall⟩
    | cons first before =>
      right
      obtain ⟨-, hrest⟩ := List.cons.inj hsplit
      exact ⟨before, after, hchannel.trans hrest, hall⟩

/-- A worker that has started and is still live after an event sent an active life cycle,
if any; a worker that has just started has queued `Starting`. -/
theorem Phase.next_live {flag : Bool} {phase next : Phase} {lifecycle : RepublisherLifecycle}
    (h : phase.next flag lifecycle = some next) (hnext : next ≠ .terminated) :
    lifecycle.active = true ∧ (phase = .spawned → lifecycle = .starting) := by
  cases phase <;> cases lifecycle <;> simp_all [Phase.next, RepublisherLifecycle.active]

/-! ## The steps -/

/-- A step that makes no worker live, writes neither life cycle nor channel and changes no
phase keeps the workers supervised. -/
theorem System.Supervised.of_same {σ τ : System Disk} (h : σ.Supervised)
    (hthreads : ∀ k t, τ.thread k = some t → t.Live →
      σ.thread k = some t)
    (hlifecycle : τ.server.shared.lifecycle = σ.server.shared.lifecycle)
    (hchannel : τ.channel = σ.channel) : τ.Supervised := by
  constructor
  · intro i j t u ht hu htlive hulive
    exact h.single i j t u (hthreads i t ht htlive) (hthreads j u hu hulive) htlive hulive
  · intro k t ht hlive hphase
    have hannounced := h.announced k t (hthreads k t ht hlive) hlive hphase
    unfold System.Announced at hannounced ⊢
    rw [hlifecycle, hchannel]
    exact hannounced

/-- An accepted start of a settled system finds no live worker: a live one would be
announced, and as its `Starting` is no longer queued the life cycle would be active. -/
theorem System.Supervised.alone {w : WebState Disk} {σ τ : System Disk} {l : Label}
    (h : σ.Supervised) (hsettled : w.StartSettled σ l τ) : w.SpawnsAlone σ l τ := by
  intro haccepts k t ht hlive
  obtain ⟨hphase, hqueued⟩ := hsettled haccepts k t ht hlive
  rcases h.announced k t ht hlive hphase with ⟨hactive, -⟩ | ⟨before, after, hsplit, -⟩
  · have hinactive := haccepts.2.1
    rw [hactive] at hinactive
    cases hinactive
  · rw [hsplit] at hqueued
    exact hqueued (List.mem_append_right _ List.mem_cons_self)

/-- After a worker is spawned where none was live it is the only live one. -/
theorem System.Supervised.spawned {σ τ : System Disk} {new : Thread}
    (hnone : ∀ k t, σ.thread k = some t → ¬ t.Live)
    (hthreads : τ.server.threads = σ.server.threads ++ [new]) (hnew : new.phase = .spawned) :
    τ.Supervised := by
  have hlast : ∀ k t, τ.thread k = some t → t.Live →
      k = σ.server.threads.length ∧ t = new := by
    intro k t ht hlive
    rw [System.thread, hthreads] at ht
    rcases getElem?_append_new.mp ht with ht | hlast
    · exact absurd hlive (hnone k t ht)
    · exact hlast
  constructor
  · intro i j t u ht hu htlive hulive
    rw [(hlast i t ht htlive).1, (hlast j u hu hulive).1]
  · intro k t ht hlive hphase
    rw [(hlast k t ht hlive).2] at hphase
    exact absurd hnew hphase

/-- An event sent by any thread keeps the workers supervised. -/
theorem System.Supervised.send {w : WebState Disk} {σ : System Disk} (h : σ.Supervised)
    {k : ℕ} {t : Thread} {e : WorkerEvent} {phase : Phase}
    (ht : σ.thread k = some t) (hsends : w.Sends σ.server.stopFlags t e phase) :
    (σ.sendFrom k t e phase).Supervised := by
  have hbefore : ∀ j u, (σ.sendFrom k t e phase).thread j = some u →
      u.Live → (j = k ∧ u = t.send e phase) ∨ (j ≠ k ∧ σ.thread j = some u) :=
    fun j u hu _ => (getElem?_set_old ht).mp hu
  have hlive : ∀ j u, (σ.sendFrom k t e phase).thread j = some u →
      u.Live → ∃ old, σ.thread j = some old ∧ old.Live := by
    intro j u hu hulive
    rcases hbefore j u hu hulive with ⟨rfl, rfl⟩ | ⟨-, hu⟩
    · exact ⟨t, ht, hsends.live hulive⟩
    · exact ⟨u, hu, hulive⟩
  constructor
  · intro i j u v hu hv hulive hvlive
    obtain ⟨u', hu', hulive'⟩ := hlive i u hu hulive
    obtain ⟨v', hv', hvlive'⟩ := hlive j v hv hvlive
    exact h.single i j u' v' hu' hv' hulive' hvlive'
  · intro j u hu hulive hphase
    obtain ⟨old, hold, holdlive⟩ := hlive j u hu hulive
    -- a life-cycle event comes from a live worker, so from `j`, which goes on after it
    have hactive : ∀ lifecycle, e = .lifecycle lifecycle → lifecycle.active = true := by
      rintro lifecycle rfl
      have hk := h.single j k old t hold ht holdlive hsends.live_of_lifecycle
      subst hk
      obtain ⟨-, rfl⟩ := (hbefore j u hu hulive).resolve_right fun hne => hne.1 rfl
      rcases (hsends.republisher hulive.1).2 with ⟨hreport, -⟩ | ⟨flag, _, hevent, hnext⟩
      · cases hreport
      · cases hevent
        exact (Phase.next_live hnext hulive.2).1
    rcases hbefore j u hu hulive with ⟨rfl, rfl⟩ | ⟨-, hu⟩
    · by_cases hspawned : t.phase = .spawned
      · -- the first life-cycle event of a worker that goes on is `Starting`
        rcases (hsends.republisher hulive.1).2 with ⟨-, hsame⟩ | ⟨flag, lifecycle, rfl, hnext⟩
        · exact absurd (hsame.trans hspawned) hphase
        · obtain rfl := (Phase.next_live hnext hulive.2).2 hspawned
          exact .inr ⟨σ.channel, [], rfl, fun i lifecycle hmem => by cases hmem⟩
      · exact (h.announced j t ht (hsends.live hulive) hspawned).append rfl rfl hactive
    · exact (h.announced j u hu hulive hphase).append rfl rfl hactive

/-- Every step that does not accept an unsettled start keeps the workers supervised. -/
theorem WebState.supervised_step {w : WebState Disk} {σ τ : System Disk} {l : Label}
    (h : σ.Supervised) (hstep : w.step σ l = some τ) (hsettled : w.StartSettled σ l τ) :
    τ.Supervised := by
  cases WebState.step_effect hstep with
  | request _ heffect hchannel _ =>
    cases heffect.workers with
    | none hthreads =>
      refine h.of_same (fun k t ht hlive => ?_) heffect.lifecycle hchannel
      rcases hthreads with hthreads | ⟨spawn, hspawn, hthreads⟩
      · rw [System.thread, hthreads] at ht
        exact ht
      · rw [System.thread, hthreads] at ht
        rcases getElem?_append_new.mp ht with ht | ⟨-, rfl⟩
        · exact ht
        · exact absurd hlive (Thread.not_live_of_stopFlag_none hspawn)
    | start haccepted _ hthreads =>
      exact System.Supervised.spawned (h.alone hsettled ⟨rfl, haccepted⟩) hthreads rfl
    | stop hthreads =>
      refine h.of_same (fun k t ht _ => ?_) heffect.lifecycle hchannel
      rw [System.thread, hthreads] at ht
      exact ht
  | sent _ ht hsends => exact h.send ht hsends
  | drained hhead heffect _ =>
    have hkeeps := heffect.keepsWorkers
    have hsame : ∀ k t, τ.thread k = some t → σ.thread k = some t := by
      intro k t ht
      rw [System.thread, hkeeps.threads] at ht
      exact ht
    constructor
    · intro i j t u ht hu
      exact h.single i j t u (hsame i t ht) (hsame j u hu)
    · intro k t ht hlive hphase
      exact (h.announced k t (hsame k t ht) hlive hphase).drain hhead rfl hkeeps.lifecycle
  | shutdown hsilent hchannel _ =>
    refine h.of_same (fun k t ht _ => ?_) ?_ hchannel
    · rw [System.thread, hsilent.threads, Server.raiseStop_threads] at ht
      exact ht
    · rw [← hsilent.shared.lifecycle, Server.raiseStop_shared]
  | idle _ hshared hthreads _ hchannel _ =>
    refine h.of_same (fun k t ht _ => ?_) (by rw [hshared]) hchannel
    rw [System.thread, hthreads] at ht
    exact ht

/-- Nothing is live before the first start. -/
theorem WebState.boot_supervised (w : WebState Disk) (config : AppConfig) (bootStatus : String)
    (disk : Disk) : (w.boot config bootStatus disk).Supervised := by
  constructor
  · intro i j t u ht
    cases ht
  · intro k t ht
    cases ht

/-- The autostart finds no worker. -/
theorem WebState.serve_supervised (w : WebState Disk) (config : AppConfig)
    (bootStatus : String) (disk : Disk) : (w.serve config bootStatus disk).Supervised := by
  have hboot := w.boot_supervised config bootStatus disk
  refine w.serve_induction config bootStatus disk hboot fun σ hstep => ?_
  refine WebState.supervised_step hboot hstep fun _ k t ht => ?_
  cases ht

/-- A second live worker appears when a start is accepted while one is live. -/
theorem WebState.spawnsAlone_of_atMostOneLive {w : WebState Disk} {σ τ : System Disk}
    {l : Label} (hstep : w.step σ l = some τ) (hone : τ.AtMostOneLive) :
    w.SpawnsAlone σ l τ := by
  rintro ⟨rfl, haccepted⟩ k t ht hlive
  obtain ⟨spawn, hspawn, hthreads, -⟩ := w.handle_start haccepted
  have hserver := WebState.step_request hstep
  have hlt : k < σ.server.threads.length := (List.getElem?_eq_some_iff.mp ht).1
  have hnew : Thread.Live (Thread.new spawn) := by
    refine ⟨?_, by simp⟩
    rw [Thread.new_spawn, hspawn]
    rfl
  have hsame := hone k σ.server.threads.length t (Thread.new spawn)
    (by rw [System.thread, hserver, hthreads]; exact getElem?_append_new.mpr (.inl ht))
    (by rw [System.thread, hserver, hthreads]; exact getElem?_append_new.mpr (.inr ⟨rfl, rfl⟩))
    hlive hnew
  omega

/-- In every run at most one republisher is live, and none is spawned while another is
live, exactly when every accepted start finds the `Starting` event of every live
worker applied. -/
theorem WebState.oneWorker_iff (w : WebState Disk) (config : AppConfig) (bootStatus : String)
    (disk : Disk) (ls : List Label) :
    (Transition.Throughout w.step System.AtMostOneLive (w.serve config bootStatus disk) ls ∧
        Transition.Along w.step w.SpawnsAlone (w.serve config bootStatus disk) ls) ↔
      Transition.Along w.step w.StartSettled (w.serve config bootStatus disk) ls := by
  have hserve := w.serve_supervised config bootStatus disk
  have hkeep (σ : System Disk) (l : Label) (τ : System Disk) (h : σ.Supervised)
      (hstep : w.step σ l = some τ) (hsettled : w.StartSettled σ l τ) : τ.Supervised :=
    WebState.supervised_step h hstep hsettled
  have hnec (σ : System Disk) (l : Label) (τ : System Disk) (_ : σ.Supervised)
      (hstep : w.step σ l = some τ) (hone : τ.AtMostOneLive) : w.StartSettled σ l τ :=
    fun haccepts k t ht hlive =>
      absurd hlive (WebState.spawnsAlone_of_atMostOneLive hstep hone haccepts k t ht)
  have hiff :
      Transition.Throughout w.step System.AtMostOneLive (w.serve config bootStatus disk) ls ↔
        Transition.Along w.step w.StartSettled (w.serve config bootStatus disk) ls :=
    Transition.throughout_iff_along hkeep (fun σ h => h.single) hnec hserve
  refine ⟨fun h => hiff.mp h.1, fun h => ⟨hiff.mpr h, ?_⟩⟩
  have hsupervised := Transition.throughout_of_along hkeep hserve h
  exact hsupervised.along_mono (fun σ l τ hσ _ hsettled => hσ.alone hsettled) h

/-- Two clients start the republisher one after the other, before the first worker has
announced itself: both starts are accepted and two workers are live. -/
theorem double_start_two_live :
    ∃ τ, Transition.run memoryState.step
        (memoryState.serve (plainConfig [plainPoint "a"]) "Loaded saved configuration"
          ⟨none, true⟩)
        [.request .startRepublisher, .emit, .request .startRepublisher] = some τ ∧
      ¬ τ.AtMostOneLive := by
  refine ⟨_, rfl, fun h => ?_⟩
  have hsame := h 0 1 _ _ rfl rfl (by decide) (by decide)
  cases hsame

end Republisher
