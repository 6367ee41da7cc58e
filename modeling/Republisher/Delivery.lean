import Republisher.Lifecycle

/-!
# Where events come from

Threads are started by requests, keep what they were started with and only add
to what they have sent; every queued event has been sent by the thread it names.
These are the facts by which a result that is applied late is traced to the
request that asked for it.
-/

namespace Republisher

variable {Disk : Type}

/-- What a thread may send, by what it was started for: only a discovery delivers devices,
only a browse delivers points, and a bulk scan delivers the merge of what it found into
the point list it was given. -/
def WebState.Delivers (w : WebState Disk) (spawn : Spawn) : WorkerEvent → Prop
  | .devices _ => ∃ factory connection, spawn = .discovery factory connection
  | .points _ => ∃ factory connection device, spawn = .browse factory connection device
  | .bulkTagImport result => ∃ factory connection devices existing findings,
      spawn = .scanAllObjects factory connection devices existing ∧
        result = w.core.mergeImportedPoints existing findings
  | _ => True

/-- What a thread may send is a result of the kind it was started for. -/
theorem WebState.Sends.delivers {w : WebState Disk} {flags : List Bool} {t : Thread}
    {e : WorkerEvent} {phase : Phase} (h : w.Sends flags t e phase) : w.Delivers t.spawn e := by
  rcases h with hnext | ⟨factory, connection, devices, existing, findings, hspawn, -, rfl, -⟩
  · cases e with
    | devices outcome =>
      cases hspawn : t.spawn with
      | discovery factory connection => exact ⟨factory, connection, rfl⟩
      | browse | scanAllObjects | pollOnce | republisher =>
        simp [Thread.next, hspawn, WorkerEvent.isReport] at hnext
    | points points =>
      cases hspawn : t.spawn with
      | browse factory connection device => exact ⟨factory, connection, device, rfl⟩
      | discovery | scanAllObjects | pollOnce | republisher =>
        simp [Thread.next, hspawn, WorkerEvent.isReport] at hnext
    | bulkTagImport result =>
      cases hspawn : t.spawn <;> simp [Thread.next, hspawn, WorkerEvent.isReport] at hnext
    | _ => trivial
  · exact ⟨factory, connection, devices, existing, findings, hspawn, rfl⟩

/-- Every thread of `σ` is still there in `τ`, started for the same, with everything it
had sent. -/
def System.ThreadsGrow (σ τ : System Disk) : Prop :=
  ∀ k t, σ.thread k = some t → ∃ u, τ.thread k = some u ∧ u.spawn = t.spawn ∧
    ∀ e ∈ t.sent, e ∈ u.sent

/-- Doing nothing loses no thread. -/
theorem System.ThreadsGrow.refl (σ : System Disk) : σ.ThreadsGrow σ :=
  fun _ t ht => ⟨t, ht, rfl, fun _ he => he⟩

/-- Threads that grow twice have grown. -/
theorem System.ThreadsGrow.trans {σ τ υ : System Disk} (hστ : σ.ThreadsGrow τ)
    (hτυ : τ.ThreadsGrow υ) : σ.ThreadsGrow υ := by
  intro k t ht
  obtain ⟨u, hu, hspawn, hsent⟩ := hστ k t ht
  obtain ⟨v, hv, hspawn', hsent'⟩ := hτυ k u hu
  exact ⟨v, hv, hspawn'.trans hspawn, fun e he => hsent' e (hsent e he)⟩

/-- The same threads have grown. -/
theorem System.ThreadsGrow.of_eq {σ τ : System Disk}
    (h : τ.server.threads = σ.server.threads) : σ.ThreadsGrow τ := by
  intro k t ht
  refine ⟨t, ?_, rfl, fun _ he => he⟩
  rw [System.thread, h]
  exact ht

/-- Starting a thread loses none. -/
theorem System.ThreadsGrow.of_append {σ τ : System Disk} {new : Thread}
    (h : τ.server.threads = σ.server.threads ++ [new]) : σ.ThreadsGrow τ := by
  intro k t ht
  refine ⟨t, ?_, rfl, fun _ he => he⟩
  rw [System.thread, h]
  exact getElem?_append_new.mpr (.inl ht)

/-- Sending an event adds to what the thread has sent. -/
theorem System.ThreadsGrow.sendFrom {σ : System Disk} {k : ℕ} {t : Thread}
    (ht : σ.thread k = some t) (e : WorkerEvent) (phase : Phase) :
    σ.ThreadsGrow (σ.sendFrom k t e phase) := by
  intro j u hu
  by_cases hj : j = k
  · subst hj
    obtain rfl := Option.some.inj (ht.symm.trans hu)
    exact ⟨_, (getElem?_set_old ht).mpr (.inl ⟨rfl, rfl⟩), rfl,
      fun _ he => List.mem_append_left _ he⟩
  · exact ⟨u, (getElem?_set_old ht).mpr (.inr ⟨hj, hu⟩), rfl, fun _ he => he⟩

/-- A request starts at most one thread. -/
theorem Effect.threads {w : WebState Disk} {s t : Server Disk} {r : Request}
    (h : Effect w s r t) :
    t.threads = s.threads ∨ ∃ spawn, t.threads = s.threads ++ [Thread.new spawn] := by
  cases h.workers with
  | none hthreads =>
    rcases hthreads with hthreads | ⟨spawn, -, hthreads⟩
    · exact .inl hthreads
    · exact .inr ⟨spawn, hthreads⟩
  | start _ _ hthreads => exact .inr ⟨_, hthreads⟩
  | stop hthreads => exact .inl hthreads

/-- No step removes a thread or changes what it was started for. -/
theorem WebState.threadsGrow_step {w : WebState Disk} {σ τ : System Disk} {l : Label}
    (hstep : w.step σ l = some τ) : σ.ThreadsGrow τ := by
  cases WebState.step_effect hstep with
  | request _ heffect =>
    rcases heffect.threads with hthreads | ⟨spawn, hthreads⟩
    · exact .of_eq hthreads
    · exact .of_append hthreads
  | sent _ ht _ => exact .sendFrom ht _ _
  | drained _ heffect _ => exact .of_eq heffect.keepsWorkers.threads
  | shutdown hsilent _ _ =>
    exact .of_eq (hsilent.threads.trans (Server.raiseStop_threads _))
  | idle _ _ hthreads _ _ _ => exact .of_eq hthreads

/-- Every thread has sent only what it may, and every queued event was sent by the thread
it names. -/
structure WebState.Traced (w : WebState Disk) (σ : System Disk) : Prop where
  sent : ∀ k t, σ.thread k = some t → ∀ e ∈ t.sent, w.Delivers t.spawn e
  queued : ∀ k e, (k, e) ∈ σ.channel → ∃ t, σ.thread k = some t ∧ e ∈ t.sent

/-- What is queued stays traced while threads grow. -/
theorem WebState.Traced.queued_grow {w : WebState Disk} {σ τ : System Disk} (h : w.Traced σ)
    (hgrow : σ.ThreadsGrow τ) {k : ℕ} {e : WorkerEvent} (hmem : (k, e) ∈ σ.channel) :
    ∃ t, τ.thread k = some t ∧ e ∈ t.sent := by
  obtain ⟨t, ht, he⟩ := h.queued k e hmem
  obtain ⟨u, hu, -, hsent⟩ := hgrow k t ht
  exact ⟨u, hu, hsent e he⟩

/-- Every step keeps events traced. -/
theorem WebState.traced_step {w : WebState Disk} {σ τ : System Disk} {l : Label}
    (h : w.Traced σ) (hstep : w.step σ l = some τ) : w.Traced τ := by
  have hgrow := WebState.threadsGrow_step hstep
  cases WebState.step_effect hstep with
  | request _ heffect hchannel _ =>
    refine ⟨fun k t ht e he => ?_, fun k e hmem => h.queued_grow hgrow (by rwa [← hchannel])⟩
    rcases heffect.threads with hthreads | ⟨spawn, hthreads⟩
    · rw [System.thread, hthreads] at ht
      exact h.sent k t ht e he
    · rw [System.thread, hthreads] at ht
      rcases getElem?_append_new.mp ht with ht | ⟨-, rfl⟩
      · exact h.sent k t ht e he
      · cases he
  | sent _ ht hsends =>
    constructor
    · intro j u hu e he
      rcases (getElem?_set_old ht).mp hu with ⟨rfl, rfl⟩ | ⟨-, hu⟩
      · rcases List.mem_append.mp he with he | he
        · exact h.sent j _ ht e he
        · obtain rfl := List.mem_singleton.mp he
          exact hsends.delivers
      · exact h.sent j u hu e he
    · intro j e hmem
      rcases List.mem_append.mp hmem with hmem | hmem
      · exact h.queued_grow hgrow hmem
      · obtain ⟨rfl, rfl⟩ := Prod.mk.inj (List.mem_singleton.mp hmem)
        exact ⟨_, (getElem?_set_old ht).mpr (.inl ⟨rfl, rfl⟩),
          List.mem_append_right _ (List.mem_singleton.mpr rfl)⟩
  | drained hhead heffect _ =>
    refine ⟨fun k t ht e he => ?_, fun k e hmem => h.queued_grow hgrow ?_⟩
    · rw [System.thread, heffect.keepsWorkers.threads] at ht
      exact h.sent k t ht e he
    · rw [hhead]
      exact List.mem_cons_of_mem _ hmem
  | shutdown hsilent hchannel _ =>
    refine ⟨fun k t ht e he => ?_, fun k e hmem => h.queued_grow hgrow (by rwa [← hchannel])⟩
    rw [System.thread, hsilent.threads, Server.raiseStop_threads] at ht
    exact h.sent k t ht e he
  | idle _ _ hthreads _ hchannel _ =>
    refine ⟨fun k t ht e he => ?_, fun k e hmem => h.queued_grow hgrow (by rwa [← hchannel])⟩
    rw [System.thread, hthreads] at ht
    exact h.sent k t ht e he

/-- Nothing is queued before the first step, and the autostart queues nothing. -/
theorem WebState.serve_traced (w : WebState Disk) (config : AppConfig) (bootStatus : String)
    (disk : Disk) : w.Traced (w.serve config bootStatus disk) := by
  have hboot : w.Traced (w.boot config bootStatus disk) := by
    constructor
    · intro k t ht
      cases ht
    · intro k e hmem
      cases hmem
  exact w.serve_induction config bootStatus disk hboot fun σ hstep =>
    WebState.traced_step hboot hstep

end Republisher
